import SignalService.Attachments.Upload
import SignalService.Codec.Frames

/-! # Contacts

A list of contacts goes to our other devices as an attachment: `upload_contact_details` of
`sender.rs` writes it, `retrieve_contacts` of `receiver.rs` fetches it, and the iterator there
reads it. Each contact is a frame, and may announce an avatar that follows it.
-/

namespace SignalService

open Effect Prog

/-! ## One contact -/

structure Avatar where
  contentType : Option String := none
  length : Option Nat := none
  deriving DecidableEq, Repr

structure ContactDetails where
  number : Option String := none
  aci : Option String := none
  aciBinary : Option Bytes := none
  name : Option String := none
  avatar : Option Avatar := none
  expireTimer : Option Nat := none
  expireTimerVersion : Option Nat := none
  inboxPosition : Option Nat := none
  deriving DecidableEq, Repr

/-- `models::Attachment`. -/
structure AvatarAttachment where
  contentType : String
  reader : Bytes
  deriving DecidableEq, Repr

structure Contact where
  uuid : Uuid
  phoneNumber : Option String
  name : String
  expireTimer : Nat
  expireTimerVersion : Nat
  inboxPosition : Nat
  avatar : Option AvatarAttachment
  deriving DecidableEq, Repr

inductive ParseContactError where
  | protobuf
  | uuid
  | missingUuid
  | missingProfileKey
  | missingAvatarContentType
  deriving DecidableEq, Repr

/-- prost, for contacts, and the parser of phone numbers. -/
structure ContactExternals where
  encode : ContactDetails → Bytes
  decode : Bytes → Option ContactDetails
  parseE164 : String → Option String

variable (X : Externals) (D : ContactExternals)

/-- `Contact::from_proto`; a number that cannot be read is left out, and so is an avatar
    without a type or without data. -/
def Contact.fromProto (details : ContactDetails) (avatarData : Option Bytes) :
    Except ParseContactError Contact :=
  match parseUuidWithFallback X details.aciBinary details.aci with
  | none => .error .missingUuid
  | some uuid => .ok {
      uuid
      phoneNumber := details.number.bind D.parseE164
      name := details.name.getD ""
      expireTimer := details.expireTimer.getD 0
      expireTimerVersion := details.expireTimerVersion.getD 0
      inboxPosition := details.inboxPosition.getD 0
      avatar := details.avatar.bind fun avatar =>
        match avatar.contentType, avatarData with
        | some contentType, some reader => some ⟨contentType, reader⟩
        | _, _ => none }

/-! ## Writing a list -/

/-- The frames of a list of contacts. No avatar follows them. -/
def encodeContacts (contacts : List ContactDetails) : Bytes :=
  contacts.flatMap fun contact => Codec.encodeFrame (D.encode contact)

variable {U : UrlSyntax} (W : AttachmentExternals U) (service : PushService U)

def uploadContactDetails (contacts : List ContactDetails) :
    HttpAsync U AttachmentUploadError AttachmentPointer :=
  let out := encodeContacts D contacts
  uploadAttachment W X service ⟨"application/octet-stream", out.length, none, none, none, none,
    none, none, none, none⟩ out

/-! ## Fetching a list -/

/-- A byte in two hexadecimal digits after a percent sign. -/
def percentEncode (b : UInt8) : List Char :=
  let digit (n : Nat) : Char := "0123456789ABCDEF".toList.getD n '0'
  ['%', digit (b.toNat / 16), digit (b.toNat % 16)]

/-- `utf8_percent_encode(.., ENCODE_URI_COMPONENT)`. -/
def encodeUriComponent (text : String) : String :=
  String.ofList <| text.toList.flatMap fun c =>
    if c.isAlphanum || "-_.!~*'()".toList.contains c then [c]
    else (String.utf8EncodeChar c).flatMap percentEncode

/-- `AttachmentDownload`; there is nothing to read where the stream breaks off. -/
structure AttachmentDownload where
  stream : Option Bytes
  contentLength : Option Nat
  deriving DecidableEq, Repr

namespace PushService

def getFromCdn (cdnId : Nat) (path : String) : HttpAsync U ServiceError AttachmentDownload := do
  let builder ← Prog.ofExcept (service.request W.toUrlParsers .get (.cdn cdnId path) .unidentified)
  let response ← sendOk builder
  return ⟨response.body, ((response.header Header.contentLength).bind headerText).bind parseU64⟩

def getAttachment (pointer : AttachmentPointer) : HttpAsync U ServiceError AttachmentDownload :=
  match pointer.attachmentIdentifier with
  | some (.cdnId id) => service.getFromCdn W (pointer.cdnNumber.getD 0) s!"attachments/{id}"
  | some (.cdnKey key) => service.getFromCdn W (pointer.cdnNumber.getD 0)
      ("attachments/" ++ encodeUriComponent key)
  | none => Prog.throw (.invalidFrame "no attachment identifier in pointer")

/-- The loop of `retrieve_contacts`: only a timeout is tried again. -/
def download (pointer : AttachmentPointer) : Nat → HttpAsync U ServiceError AttachmentDownload
  | 0 => Prog.throw (.timeout "too many retries")
  | attempts + 1 => do
      match ← (service.getAttachment W pointer).attempt with
      | .ok download => return download
      | .error (.timeout _) => download pointer attempts
      | .error e => Prog.throw e

end PushService

/-- What a contacts message is made of, and what is in the buffer. -/
def readContacts (pointer : AttachmentPointer) (download : AttachmentDownload) :
    Exit ServiceError Bytes :=
  match download.stream with
  | none => .panic "streamed attachment"
  | some ciphertext =>
      if (pointer.key.getD []).length ≠ 64 then
        .panic "key material for attachments is ought to be 64 bytes"
      else
        match decryptInPlace W.ciphers (pointer.key.getD []) ciphertext with
        | (.ret (), plaintext) => .ret plaintext
        | (.throw _, _) | (.panic _, _) => .panic "attachment decryption"

/-- `retrieve_contacts`, up to the buffer of the iterator it returns. -/
def retrieveContacts (blob : Option AttachmentPointer) : HttpAsync U ServiceError Bytes :=
  match blob with
  | none => pure []
  | some pointer => do
      let download ← service.download W pointer 3
      Prog.ofExit (readContacts W pointer download)

/-! ## Reading a list -/

namespace DeviceContactsIterator

/-- The avatar data that a contact announces is cut off the buffer, and it is a panic where it
    is not all there. -/
def takeAvatar {ε : Type} (details : ContactDetails) (buffer : Bytes) :
    Exit ε (Option Bytes × Bytes) :=
  match details.avatar.bind Avatar.length with
  | none => .ret (none, buffer)
  | some length =>
      if length ≤ buffer.length then .ret (some (buffer.take length), buffer.drop length)
      else .panic "copy_to_bytes out of bounds"

/-- `next`, with the buffer it leaves: nothing comes of an empty buffer, nor of a frame that
    cannot be read. -/
def next {ε : Type} (buffer : Bytes) :
    Exit ε (Option (Except ParseContactError Contact × Bytes)) :=
  if buffer = [] then .ret none
  else
    match (Codec.decodeFrame buffer).bind fun frame => (D.decode frame.1).map (·, frame.2) with
    | none => .ret none
    | some (details, rest) => do
        let (avatarData, rest) ← takeAvatar details rest
        return some (Contact.fromProto X D details avatarData, rest)

/-- The items that come before the first `None`. -/
def collect {ε : Type} : Nat → Bytes → Exit ε (List (Except ParseContactError Contact))
  | 0, _ => .ret []
  | fuel + 1, buffer => do
      match ← next X D buffer with
      | none => return []
      | some (item, rest) => do
          let items ← collect fuel rest
          return item :: items

/-- All items of the iterator: every one but the last takes something from the buffer. -/
def items {ε : Type} (buffer : Bytes) : Exit ε (List (Except ParseContactError Contact)) :=
  collect X D (buffer.length + 1) buffer

end DeviceContactsIterator

/-! ## What is read of a list that was written -/

/-- How many bytes of an avatar are said to follow. -/
def ContactDetails.avatarLength (details : ContactDetails) : Nat :=
  (details.avatar.bind Avatar.length).getD 0

/-- `Contact::from_proto` of a contact that no avatar data follows. -/
def Contact.fromDetails (details : ContactDetails) : Except ParseContactError Contact :=
  Contact.fromProto X D details ((details.avatar.bind Avatar.length).map fun _ => [])

/-- The contact has an account, and its avatar a type. -/
def ContactDetails.Complete (details : ContactDetails) : Prop :=
  (parseUuidWithFallback X details.aciBinary details.aci).isSome ∧
    (details.avatar.bind Avatar.contentType).isSome

/-- Data that comes with an avatar is found in the contact. -/
theorem Contact.fromProto_ne_fromDetails {details : ContactDetails} {data : Bytes}
    (complete : details.Complete X) (nonempty : data ≠ []) (announced : details.avatarLength ≠ 0) :
    Contact.fromProto X D details (some data) ≠ Contact.fromDetails X D details := by
  obtain ⟨account, typed⟩ := complete
  obtain ⟨uuid, account⟩ := Option.isSome_iff_exists.mp account
  obtain ⟨contentType, typed⟩ := Option.isSome_iff_exists.mp typed
  obtain ⟨avatar, present, typed⟩ := Option.bind_eq_some_iff.mp typed
  unfold ContactDetails.avatarLength at announced
  cases length : avatar.length with
  | none => simp [present, length] at announced
  | some n =>
      intro same
      simp [Contact.fromDetails, Contact.fromProto, account, present, typed, length] at same
      exact nonempty same

/-- What prost is relied on for: the contacts of a list come back as they were, and of no bytes
    at all comes a contact without fields. -/
structure ContactExternals.ReadsBack (D : ContactExternals) (contacts : List ContactDetails) :
    Prop where
  decode_encode : ∀ contact ∈ contacts, D.decode (D.encode contact) = some contact
  length_encode : ∀ contact ∈ contacts, (D.encode contact).length < 2 ^ 64
  decode_nil : D.decode [] = some {}

namespace ContactExternals.ReadsBack

variable {D} {contact : ContactDetails} {contacts : List ContactDetails}
  (codec : D.ReadsBack (contact :: contacts))

include codec

theorem tail : D.ReadsBack contacts where
  decode_encode c member := codec.decode_encode c (List.mem_cons_of_mem _ member)
  length_encode c member := codec.length_encode c (List.mem_cons_of_mem _ member)
  decode_nil := codec.decode_nil

/-- The first contact is the first frame. -/
theorem decodeFrame_cons (rest : Bytes) :
    Codec.decodeFrame (encodeContacts D (contact :: contacts) ++ rest) =
      some (D.encode contact, encodeContacts D contacts ++ rest) := by
  rw [encodeContacts, List.flatMap_cons, List.append_assoc]
  exact Codec.decodeFrame_encodeFrame (codec.length_encode contact List.mem_cons_self) _

end ContactExternals.ReadsBack

namespace DeviceContactsIterator

variable {X D} {ε : Type} {buffer payload rest : Bytes} {details : ContactDetails}
  {item : Except ParseContactError Contact}

theorem takeAvatar_empty (empty : details.avatarLength = 0) :
    (takeAvatar details rest : Exit ε _) =
      .ret ((details.avatar.bind Avatar.length).map fun _ => [], rest) := by
  unfold ContactDetails.avatarLength at empty
  unfold takeAvatar
  cases announced : details.avatar.bind Avatar.length with
  | none => rfl
  | some length =>
      rw [announced, Option.getD_some] at empty
      simp [empty]

theorem takeAvatar_le {data : Option Bytes} {left : Bytes}
    (taken : (takeAvatar details rest : Exit ε _) = .ret (data, left)) :
    left.length ≤ rest.length := by
  unfold takeAvatar at taken
  split at taken
  · cases taken
    exact le_rfl
  · split at taken
    · cases taken
      rw [List.length_drop]
      exact Nat.sub_le _ _
    · cases taken

theorem takeAvatar_announced {found : Option Bytes × Bytes} (announced : details.avatarLength ≠ 0)
    (taken : (takeAvatar details rest : Exit ε _) = .ret found) :
    ∃ data, data ≠ [] ∧ found.1 = some data := by
  unfold ContactDetails.avatarLength at announced
  unfold takeAvatar at taken
  cases length : details.avatar.bind Avatar.length with
  | none => simp [length] at announced
  | some n =>
      rw [length, Option.getD_some] at announced
      simp only [length] at taken
      split at taken
      case isTrue inside =>
          cases taken
          refine ⟨_, ?_, rfl⟩
          apply List.ne_nil_of_length_pos
          rw [List.length_take]
          omega
      case isFalse => cases taken

theorem next_of_frame (framed : Codec.decodeFrame buffer = some (payload, rest))
    (decoded : D.decode payload = some details) :
    (next X D buffer : Exit ε _) = (takeAvatar details rest).bind fun taken =>
      .ret (some (Contact.fromProto X D details taken.1, taken.2)) := by
  have remaining : buffer ≠ [] := by
    rintro rfl
    cases framed
  unfold next
  rw [if_neg remaining, framed, Option.bind_some, decoded]
  rfl

theorem next_empty (framed : Codec.decodeFrame buffer = some (payload, rest))
    (decoded : D.decode payload = some details) (empty : details.avatarLength = 0) :
    (next X D buffer : Exit ε _) = .ret (some (Contact.fromDetails X D details, rest)) := by
  rw [next_of_frame framed decoded, takeAvatar_empty empty]
  rfl

/-- Every item takes something from the buffer. -/
theorem next_shorter (returned : (next X D buffer : Exit ε _) = .ret (some (item, rest))) :
    rest.length < buffer.length := by
  unfold next at returned
  split at returned
  · cases returned
  · split at returned
    case h_1 => cases returned
    case h_2 details left read =>
        obtain ⟨frame, framed, decoded⟩ := Option.bind_eq_some_iff.mp read
        obtain ⟨_, -, same⟩ := Option.map_eq_some_iff.mp decoded
        obtain ⟨⟨data, left⟩, taken, given⟩ := Exit.bind_eq_ret.mp returned
        cases same
        cases given
        exact lt_of_le_of_lt (takeAvatar_le taken) (Codec.decodeFrame_shorter framed)

/-- Fuel beyond the length of the buffer makes no difference. -/
theorem collect_fuel {fuel fuel' : Nat} (enough : buffer.length < fuel)
    (enough' : buffer.length < fuel') :
    (collect X D fuel buffer : Exit ε _) = collect X D fuel' buffer := by
  induction fuel generalizing fuel' buffer with
  | zero => omega
  | succ fuel ih =>
      cases fuel' with
      | zero => omega
      | succ fuel' =>
          unfold collect
          cases taken : (next X D buffer : Exit ε _) with
          | throw e => rfl
          | panic m => rfl
          | ret found =>
              cases found with
              | none => rfl
              | some found =>
                  have shorter := next_shorter taken
                  have same := @ih found.2 fuel' (by omega) (by omega)
                  simp only [Exit.bind_eq, Exit.ret_bind]
                  rw [same]

theorem items_of_next (taken : (next X D buffer : Exit ε _) = .ret (some (item, rest))) :
    (items X D buffer : Exit ε _) = (items X D rest).bind fun items => .ret (item :: items) := by
  have shorter := next_shorter taken
  unfold items
  rw [collect, taken]
  simp only [Exit.bind_eq, Exit.ret_bind, Exit.pure_eq]
  rw [collect_fuel shorter (Nat.lt_succ_self _)]

/-- One item for each contact, and then what comes of the rest. -/
theorem items_encodeContacts {contacts : List ContactDetails} (codec : D.ReadsBack contacts)
    (empty : ∀ contact ∈ contacts, contact.avatarLength = 0) :
    (items X D (encodeContacts D contacts ++ rest) : Exit ε _) =
      (items X D rest).bind fun items => .ret (contacts.map (Contact.fromDetails X D) ++ items) := by
  induction contacts with
  | nil =>
      change items X D rest = _
      cases (items X D rest : Exit ε _) <;> rfl
  | cons contact contacts ih =>
      have taken := next_empty (X := X) (ε := ε) (codec.decodeFrame_cons rest)
        (codec.decode_encode contact List.mem_cons_self) (empty contact List.mem_cons_self)
      rw [items_of_next taken, ih codec.tail fun c member => empty c (List.mem_cons_of_mem _ member)]
      cases (items X D rest : Exit ε _) <;> rfl

/-- Each zero after the contacts is taken for a contact, of which nothing is known. -/
theorem items_zeros (decoded : D.decode [] = some {}) (n : Nat) :
    (items X D (List.replicate n 0) : Exit ε _) =
      .ret (List.replicate n (.error .missingUuid)) := by
  induction n with
  | zero => rfl
  | succ n ih =>
      have taken := next_empty (X := X) (ε := ε) (Codec.decodeFrame_zero (List.replicate n 0))
        decoded rfl
      rw [List.replicate_succ, items_of_next taken, ih]
      rfl

/-- Where an avatar is announced, something other than the contacts comes of the list: what was
    to be its data is missing, or is some of what follows. -/
theorem items_announced {contacts : List ContactDetails} (codec : D.ReadsBack contacts)
    (complete : ∀ contact ∈ contacts, contact.avatarLength ≠ 0 → contact.Complete X)
    (announced : ∃ contact ∈ contacts, contact.avatarLength ≠ 0) :
    (items X D (encodeContacts D contacts ++ rest) : Exit ε _) ≠
      .ret (contacts.map (Contact.fromDetails X D)) := by
  induction contacts with
  | nil =>
      obtain ⟨contact, member, -⟩ := announced
      cases member
  | cons contact contacts ih =>
      intro same
      have framed := codec.decodeFrame_cons rest
      have decoded := codec.decode_encode contact List.mem_cons_self
      by_cases empty : contact.avatarLength = 0
      · rw [items_of_next (next_empty framed decoded empty)] at same
        obtain ⟨items, others, same⟩ := Exit.bind_eq_ret.mp same
        rw [List.map_cons, Exit.ret.injEq, List.cons.injEq] at same
        rw [same.2] at others
        apply ih codec.tail (fun c member => complete c (List.mem_cons_of_mem _ member)) _ others
        obtain ⟨other, member, long⟩ := announced
        obtain rfl | member := List.mem_cons.mp member
        · exact absurd empty long
        · exact ⟨other, member, long⟩
      · have taken := next_of_frame (X := X) (ε := ε) framed decoded
        cases avatar : (takeAvatar contact (encodeContacts D contacts ++ rest) : Exit ε _) with
        | throw e =>
            rw [avatar, Exit.throw_bind] at taken
            rw [items, collect, taken] at same
            cases same
        | panic m =>
            rw [avatar, Exit.panic_bind] at taken
            rw [items, collect, taken] at same
            cases same
        | ret found =>
            obtain ⟨data, nonempty, found⟩ := takeAvatar_announced empty avatar
            rw [avatar, Exit.ret_bind, found] at taken
            rw [items_of_next taken] at same
            obtain ⟨items, -, same⟩ := Exit.bind_eq_ret.mp same
            rw [List.map_cons, Exit.ret.injEq, List.cons.injEq] at same
            exact Contact.fromProto_ne_fromDetails X D
              (complete contact List.mem_cons_self empty) nonempty empty same.1

/-- Of a contact that announces more than all that follows there is no item. -/
theorem items_panic (framed : Codec.decodeFrame buffer = some (payload, rest))
    (decoded : D.decode payload = some details) (longer : rest.length < details.avatarLength) :
    (items X D buffer : Exit ε _) = .panic "copy_to_bytes out of bounds" := by
  have missing : (takeAvatar details rest : Exit ε _) = .panic "copy_to_bytes out of bounds" := by
    unfold ContactDetails.avatarLength at longer
    unfold takeAvatar
    cases announced : details.avatar.bind Avatar.length with
    | none => simp [announced] at longer
    | some length =>
        rw [announced, Option.getD_some] at longer
        exact if_neg (not_le.mpr longer)
  rw [items, collect, next_of_frame framed decoded, missing]
  rfl

end DeviceContactsIterator

/-! ## From one device to another -/

section Transfer

variable {X D W service} {σ τ : Type} {h : HttpEnv U σ} {s : σ} {h' : HttpEnv U τ} {t : τ}
  {contacts : List ContactDetails} {pointer : AttachmentPointer} {attachment : EncryptedAttachment}
  {contents : Bytes} {length : Option Nat}

/-- The other device has the contents again, with the zeros that were added. -/
theorem readContacts_encryptAttachment (lawful : W.ciphers.Lawful)
    (encrypted : ((encryptAttachment W contents).run h s).exit = .ret attachment)
    (keyed : pointer.key = some attachment.key) :
    readContacts W pointer ⟨some attachment.contents, length⟩ = .ret (padContents W contents) := by
  obtain ⟨keyLength, iv, sixteen, sealing⟩ := encryptAttachment_ret lawful encrypted
  unfold readContacts
  simp only [keyed, Option.getD_some, keyLength, ne_eq, not_true_eq_false, if_false, sealing]
  rw [decryptInPlace_sealedAttachment lawful sixteen]

theorem retrieveContacts_eq (lawful : W.ciphers.Lawful)
    (uploaded : ((uploadContactDetails X D W service contacts).run h s).exit = .ret pointer)
    (encrypted : ((encryptAttachment W (encodeContacts D contacts)).run h s).exit = .ret attachment)
    (fetched : ((service.download W pointer 3).run h' t).exit =
      .ret ⟨some attachment.contents, length⟩) :
    ((retrieveContacts W service (some pointer)).run h' t).exit =
      .ret (padContents W (encodeContacts D contacts)) := by
  obtain ⟨_, same, ⟨upload⟩⟩ := uploadAttachment_ret uploaded
  obtain rfl := Exit.ret.inj (encrypted.symm.trans same)
  simp only [retrieveContacts, bind_eq, run_bind_exit, fetched, Exit.ret_bind, run_ofExit]
  exact readContacts_encryptAttachment lawful encrypted upload.pointerKey

theorem items_padContents {ε : Type} (codec : D.ReadsBack contacts)
    (empty : ∀ contact ∈ contacts, contact.avatarLength = 0) :
    (DeviceContactsIterator.items X D (padContents W (encodeContacts D contacts)) : Exit ε _) =
      .ret (contacts.map (Contact.fromDetails X D) ++
        List.replicate (paddedLen W (encodeContacts D contacts).length -
          (encodeContacts D contacts).length) (.error .missingUuid)) := by
  rw [padContents_eq, DeviceContactsIterator.items_encodeContacts codec empty,
    DeviceContactsIterator.items_zeros codec.decode_nil]
  rfl

/-- What comes back is the list exactly if no avatar is announced in it, for which no data was
    sent, and no zeros were added to it, each of which is taken for a contact. -/
theorem contacts_transfer_iff (lawful : W.ciphers.Lawful) (codec : D.ReadsBack contacts)
    (complete : ∀ contact ∈ contacts, contact.avatarLength ≠ 0 → contact.Complete X)
    (uploaded : ((uploadContactDetails X D W service contacts).run h s).exit = .ret pointer)
    (encrypted : ((encryptAttachment W (encodeContacts D contacts)).run h s).exit = .ret attachment)
    (fetched : ((service.download W pointer 3).run h' t).exit =
      .ret ⟨some attachment.contents, length⟩) :
    (∃ buffer, ((retrieveContacts W service (some pointer)).run h' t).exit = .ret buffer ∧
      DeviceContactsIterator.items X D buffer =
        (.ret (contacts.map (Contact.fromDetails X D)) : Exit ServiceError _)) ↔
    (∀ contact ∈ contacts, contact.avatarLength = 0) ∧
      paddedLen W (encodeContacts D contacts).length ≤ (encodeContacts D contacts).length := by
  have retrieved := retrieveContacts_eq lawful uploaded encrypted fetched
  constructor
  · rintro ⟨buffer, returned, items⟩
    obtain rfl := Exit.ret.inj (retrieved.symm.trans returned)
    by_cases announced : ∃ contact ∈ contacts, contact.avatarLength ≠ 0
    · rw [padContents_eq] at items
      exact absurd items (DeviceContactsIterator.items_announced codec complete announced)
    · have empty : ∀ contact ∈ contacts, contact.avatarLength = 0 := by
        intro contact member
        by_contra long
        exact announced ⟨contact, member, long⟩
      rw [items_padContents codec empty] at items
      have zeros := Exit.ret.inj items
      rw [List.append_right_eq_self, List.replicate_eq_nil_iff] at zeros
      exact ⟨empty, by omega⟩
  · rintro ⟨empty, whole⟩
    refine ⟨_, retrieved, ?_⟩
    rw [items_padContents codec empty, Nat.sub_eq_zero_of_le whole, List.replicate_zero,
      List.append_nil]

end Transfer

namespace Sample

def aciBytes : Bytes := bigEndian 16 0x0123456789abcdef0123456789abcdef

def unnamed : ContactDetails where
  aciBinary := some aciBytes

def alice : ContactDetails where
  aciBinary := some aciBytes
  name := some "Alice"

/-- A contact with a picture of a thousand bytes. -/
def pictured : ContactDetails where
  aciBinary := some aciBytes
  avatar := some ⟨some "image/png", some 1000⟩

/-- The fields of the contacts above, in the order of their tags. -/
def encodeDetails (details : ContactDetails) : Bytes :=
  let delimited (tag : UInt8) (field : Option Bytes) : Bytes :=
    field.elim [] fun bytes => tag :: Codec.encodeFrame bytes
  let avatar (avatar : Avatar) : Bytes :=
    delimited 0x0a (avatar.contentType.map Reference.ascii) ++
      avatar.length.elim [] fun length => 0x10 :: Codec.encodeVarint length
  delimited 0x12 (details.name.map Reference.ascii) ++
    delimited 0x1a (details.avatar.map avatar) ++ delimited 0x6a details.aciBinary

def contactExternals : ContactExternals where
  encode := encodeDetails
  decode bytes := [{}, unnamed, alice, pictured].find? fun details => encodeDetails details = bytes
  parseE164 := some

/-- A list of 541 bytes, which is a length that nothing is added to. -/
def fullList : List ContactDetails := List.replicate 23 unnamed ++ List.replicate 4 alice

/-- A CDN that has an attachment. -/
def cdnHolding (contents : Bytes) : HttpEnv plainUrls Unit := fun c s =>
  (match c with
    | .send _ => .ok ⟨200, [], some contents⟩
    | .fillBytes length => zeros length
    | .now => 0, s)

def zeroKey : Bytes := List.replicate 64 0

/-- What the upload of a list returns. -/
def contactsPointer (size : Nat) : AttachmentPointer where
  attachmentIdentifier := some (.cdnKey "key")
  contentType := some "application/octet-stream"
  key := some zeroKey
  size := some size
  digest := some (sha256 [])
  flags := some 0
  uploadTimestamp := some 0
  cdnNumber := some 3

/-- What is uploaded for a list. -/
def storedContacts (contacts : List ContactDetails) : Bytes :=
  sealedAttachment openCiphers (List.replicate 16 0) zeroKey
    (padContents attachmentExternals (encodeContacts contactExternals contacts))

end Sample

open Sample

theorem full_list_transfers :
    ∃ buffer, ((retrieveContacts attachmentExternals cdnService (some (contactsPointer 541))).run
        (cdnHolding (storedContacts fullList)) ()).exit = .ret buffer ∧
      DeviceContactsIterator.items reference contactExternals buffer =
        (.ret (fullList.map (Contact.fromDetails reference contactExternals)) :
          Exit ServiceError _) := by
  have uploaded : ((uploadContactDetails reference contactExternals attachmentExternals cdnService
      fullList).run cdn3AtStart ()).exit = .ret (contactsPointer 541) := by
    decide +kernel
  have encrypted : ((encryptAttachment attachmentExternals
      (encodeContacts contactExternals fullList)).run cdn3AtStart ()).exit =
        .ret ⟨zeroKey, storedContacts fullList⟩ := by
    decide +kernel
  have codec : contactExternals.ReadsBack fullList :=
    ⟨by decide +kernel, by decide +kernel, by decide +kernel⟩
  have empty : ∀ contact ∈ fullList, contact.avatarLength = 0 := by decide +kernel
  apply (contacts_transfer_iff openCiphers_lawful codec
    (fun contact member long => absurd (empty contact member) long) uploaded encrypted rfl).mpr
  apply And.intro empty
  decide +kernel

/-- After a contact of twenty-six bytes come 515 errors, and a picture that is announced but was
    never sent is a panic. -/
theorem contacts_followed_by_zeros :
    (((uploadContactDetails reference contactExternals attachmentExternals cdnService
        [alice]).run cdn3AtStart ()).exit = .ret (contactsPointer 26) ∧
      ((encryptAttachment attachmentExternals (encodeContacts contactExternals [alice])).run
        cdn3AtStart ()).exit = .ret ⟨zeroKey, storedContacts [alice]⟩ ∧
      ∃ buffer, ((retrieveContacts attachmentExternals cdnService (some (contactsPointer 26))).run
          (cdnHolding (storedContacts [alice])) ()).exit = .ret buffer ∧
        DeviceContactsIterator.items reference contactExternals buffer =
          (.ret ([alice].map (Contact.fromDetails reference contactExternals) ++
            List.replicate 515 (.error .missingUuid)) : Exit ServiceError _) ∧
        DeviceContactsIterator.items reference contactExternals buffer ≠
          (.ret ([alice].map (Contact.fromDetails reference contactExternals)) :
            Exit ServiceError _)) ∧
    ((uploadContactDetails reference contactExternals attachmentExternals cdnService
        [pictured]).run cdn3AtStart ()).exit = .ret (contactsPointer 35) ∧
      ((encryptAttachment attachmentExternals (encodeContacts contactExternals [pictured])).run
        cdn3AtStart ()).exit = .ret ⟨zeroKey, storedContacts [pictured]⟩ ∧
      ∃ buffer, ((retrieveContacts attachmentExternals cdnService (some (contactsPointer 35))).run
          (cdnHolding (storedContacts [pictured])) ()).exit = .ret buffer ∧
        DeviceContactsIterator.items reference contactExternals buffer =
          (.panic "copy_to_bytes out of bounds" : Exit ServiceError _) := by
  have uploaded : ((uploadContactDetails reference contactExternals attachmentExternals cdnService
      [alice]).run cdn3AtStart ()).exit = .ret (contactsPointer 26) := by
    decide +kernel
  have encrypted : ((encryptAttachment attachmentExternals
      (encodeContacts contactExternals [alice])).run cdn3AtStart ()).exit =
        .ret ⟨zeroKey, storedContacts [alice]⟩ := by
    decide +kernel
  have uploaded' : ((uploadContactDetails reference contactExternals attachmentExternals cdnService
      [pictured]).run cdn3AtStart ()).exit = .ret (contactsPointer 35) := by
    decide +kernel
  have encrypted' : ((encryptAttachment attachmentExternals
      (encodeContacts contactExternals [pictured])).run cdn3AtStart ()).exit =
        .ret ⟨zeroKey, storedContacts [pictured]⟩ := by
    decide +kernel
  have codec : contactExternals.ReadsBack [alice] :=
    ⟨by decide +kernel, by decide +kernel, by decide +kernel⟩
  have plain : (encodeContacts contactExternals [alice]).length = 26 := by decide +kernel
  have items := items_padContents (X := reference) (W := attachmentExternals) (ε := ServiceError)
    codec (by decide +kernel)
  rw [plain] at items
  refine ⟨⟨uploaded, encrypted, _,
    retrieveContacts_eq openCiphers_lawful uploaded encrypted rfl, items, ?_⟩, uploaded', encrypted',
    _, retrieveContacts_eq openCiphers_lawful uploaded' encrypted' rfl, ?_⟩
  · rw [items]
    intro same
    have more := Exit.ret.inj same
    rw [List.append_right_eq_self] at more
    cases more
  · have framed : Codec.decodeFrame (padContents attachmentExternals
        (encodeContacts contactExternals [pictured])) =
          some (contactExternals.encode pictured, List.replicate 506 0) := by
      decide +kernel
    have decoded : contactExternals.decode (contactExternals.encode pictured) = some pictured := by
      decide +kernel
    apply DeviceContactsIterator.items_panic framed decoded
    decide +kernel

end SignalService

import SignalService.Attachments.Contacts

/-! # Lists of any bytes

What `retrieve_contacts` and the iterator that it returns make of what a CDN sends, whoever
wrote it.
-/

namespace SignalService

open Effect Prog

variable (X : Externals) (D : ContactExternals)

/-- Bytes that are a list: frames of contacts, each followed by all of the avatar that it
    announces. -/
inductive Listed : Bytes → Prop
  | nil : Listed []
  | contact {buffer payload avatar rest : Bytes} {details : ContactDetails}
      (framed : Codec.decodeFrame buffer = some (payload, avatar ++ rest))
      (decoded : D.decode payload = some details)
      (announced : avatar.length = details.avatarLength)
      (others : Listed rest) : Listed buffer

namespace DeviceContactsIterator

/-- The items before the first `None`, and the buffer of the `next` that it came from. -/
inductive Iterates : Bytes → List (Except ParseContactError Contact) → Bytes → Prop
  | done {buffer : Bytes} (ended : (next X D buffer : Exit ServiceError _) = .ret none) :
      Iterates buffer [] buffer
  | item {buffer rest left : Bytes} {item : Except ParseContactError Contact}
      {items : List (Except ParseContactError Contact)}
      (taken : (next X D buffer : Exit ServiceError _) = .ret (some (item, rest)))
      (others : Iterates rest items left) : Iterates buffer (item :: items) left

variable {X D} {ε : Type} {buffer rest left : Bytes} {details : ContactDetails}
  {item : Except ParseContactError Contact} {items : List (Except ParseContactError Contact)}

/-! ## One item -/

theorem takeAvatar_eq_ret {data : Option Bytes}
    (taken : (takeAvatar details buffer : Exit ε _) = .ret (data, rest)) :
    ∃ avatar, buffer = avatar ++ rest ∧ avatar.length = details.avatarLength := by
  unfold takeAvatar at taken
  unfold ContactDetails.avatarLength
  split at taken
  case h_1 missing =>
      cases taken
      exact ⟨[], rfl, by rw [missing]; rfl⟩
  case h_2 length announced =>
      split at taken
      case isTrue inside =>
          cases taken
          refine ⟨_, (List.take_append_drop length buffer).symm, ?_⟩
          rw [List.length_take_of_le inside, announced, Option.getD_some]
      case isFalse => cases taken

theorem takeAvatar_append {avatar : Bytes} (announced : avatar.length = details.avatarLength)
    (rest : Bytes) :
    ∃ data, (takeAvatar details (avatar ++ rest) : Exit ε _) = .ret (data, rest) := by
  unfold ContactDetails.avatarLength at announced
  unfold takeAvatar
  cases length : details.avatar.bind Avatar.length with
  | none =>
      rw [length, Option.getD_none, List.length_eq_zero_iff] at announced
      rw [announced]
      exact ⟨none, rfl⟩
  | some n =>
      rw [length, Option.getD_some] at announced
      refine ⟨some avatar, ?_⟩
      dsimp only
      rw [if_pos (by simp [announced]), List.take_left' announced, List.drop_left' announced]

/-- An item is a contact of the list, and nothing else is reported. -/
theorem next_eq_item (taken : (next X D buffer : Exit ε _) = .ret (some (item, rest))) :
    ∃ payload avatar details data,
      Codec.decodeFrame buffer = some (payload, avatar ++ rest) ∧
      D.decode payload = some details ∧ avatar.length = details.avatarLength ∧
      item = Contact.fromProto X D details data := by
  unfold next at taken
  split at taken
  · cases taken
  split at taken
  case h_1 => cases taken
  case h_2 details following read =>
      obtain ⟨⟨payload, following'⟩, framed, read⟩ := Option.bind_eq_some_iff.mp read
      obtain ⟨_, decoded, same⟩ := Option.map_eq_some_iff.mp read
      obtain ⟨⟨data, left⟩, cut, given⟩ := Exit.bind_eq_ret.mp taken
      cases same
      cases given
      obtain ⟨avatar, rfl, announced⟩ := takeAvatar_eq_ret cut
      exact ⟨payload, avatar, details, data, framed, decoded, announced, rfl⟩

theorem fromProto_ne_protobuf (data : Option Bytes) :
    Contact.fromProto X D details data ≠ .error .protobuf := by
  unfold Contact.fromProto
  split
  · intro same
    cases same
  · exact nofun

/-! ## The whole of a list -/

/-- What cannot be read is never reported. -/
theorem Iterates.protobuf_not_mem (iterated : Iterates X D buffer items left) :
    .error .protobuf ∉ items := by
  induction iterated with
  | done => exact List.not_mem_nil
  | item taken others ih =>
      obtain ⟨-, -, details, data, -, -, -, rfl⟩ := next_eq_item taken
      rw [List.mem_cons, not_or]
      exact ⟨(fromProto_ne_protobuf data).symm, ih⟩

theorem Iterates.listed (iterated : Iterates X D buffer items left) (whole : left = []) :
    Listed D buffer := by
  induction iterated with
  | done =>
      rw [whole]
      exact .nil
  | item taken others ih =>
      obtain ⟨payload, avatar, details, data, framed, decoded, announced, -⟩ := next_eq_item taken
      exact .contact framed decoded announced (ih whole)

/-- A list is read to its end. -/
theorem iterates_of_listed (listed : Listed D buffer) : ∃ items, Iterates X D buffer items [] := by
  induction listed with
  | nil => exact ⟨[], .done rfl⟩
  | @contact buffer payload avatar rest details framed decoded announced others ih =>
      obtain ⟨items, iterated⟩ := ih
      obtain ⟨data, cut⟩ := takeAvatar_append (ε := ServiceError) announced rest
      have taken : (next X D buffer : Exit ServiceError _) =
          .ret (some (Contact.fromProto X D details data, rest)) := by
        rw [next_of_frame framed decoded, cut]
        rfl
      exact ⟨_, .item taken iterated⟩

end DeviceContactsIterator

/-! ## What was fetched -/

/-- A call that ended without a panic, and after which the iteration ends with the buffer empty
    or with an error for what could not be read. -/
def Accounted : Exit ServiceError Bytes → Prop
  | .throw _ => True
  | .panic _ => False
  | .ret buffer => ∃ items left, DeviceContactsIterator.Iterates X D buffer items left ∧
      (left = [] ∨ .error .protobuf ∈ items)

variable {X D} {U : UrlSyntax} {W : AttachmentExternals U} {service : PushService U}

theorem accounted_ret_iff {buffer : Bytes} : Accounted X D (.ret buffer) ↔ Listed D buffer := by
  constructor
  · rintro ⟨items, left, iterated, whole | reported⟩
    · exact iterated.listed whole
    · exact absurd reported iterated.protobuf_not_mem
  · intro listed
    obtain ⟨items, iterated⟩ := DeviceContactsIterator.iterates_of_listed listed
    exact ⟨items, [], iterated, .inl rfl⟩

theorem readContacts_accounted_iff
    (lengthHmac : ∀ key message, (W.ciphers.hmac key message).length = 32)
    (pointer : AttachmentPointer) (download : AttachmentDownload) :
    Accounted X D (readContacts W pointer download) ↔
      (pointer.key.getD []).length = 64 ∧
      ∃ ciphertext plaintext, download.stream = some ciphertext ∧
        Authentic W.ciphers (pointer.key.getD []) ciphertext plaintext ∧ Listed D plaintext := by
  unfold readContacts
  cases stream : download.stream with
  | none => exact iff_of_false id (by simp)
  | some ciphertext =>
      dsimp only
      by_cases keyed : (pointer.key.getD []).length = 64
      · rw [if_neg (not_not_intro keyed)]
        constructor
        · intro accounted
          split at accounted
          case h_1 plaintext decrypted =>
              exact ⟨keyed, ciphertext, plaintext, rfl,
                (decryptInPlace_eq_ret lengthHmac).mp decrypted, accounted_ret_iff.mp accounted⟩
          all_goals exact accounted.elim
        · rintro ⟨-, _, plaintext, ⟨⟩, authentic, listed⟩
          rw [(decryptInPlace_eq_ret lengthHmac).mpr authentic]
          exact accounted_ret_iff.mpr listed
      · rw [if_pos keyed]
        exact iff_of_false id fun condition => keyed condition.1

namespace PushService

theorem getAttachment_panicFree (pointer : AttachmentPointer) :
    (service.getAttachment W pointer).PanicFree := by
  have fromCdn : ∀ cdnId path, (service.getFromCdn W cdnId path).PanicFree := by
    intro cdnId path
    apply (panicFree_ofExcept _).bind
    intro builder
    apply PanicFree.bind
    · unfold sendOk
      apply PanicFree.bind
      · unfold RequestBuilder.send
        cases builder with
        | none => trivial
        | some request => exact fun answer => panicFree_ofExcept answer
      · exact fun response => panicFree_ofExcept _
    · exact fun response => trivial
  unfold getAttachment
  split
  · exact fromCdn _ _
  · exact fromCdn _ _
  · trivial

theorem download_panicFree (pointer : AttachmentPointer) (attempts : Nat) :
    (service.download W pointer attempts).PanicFree := by
  induction attempts with
  | zero => trivial
  | succ attempts ih =>
      unfold download
      apply (getAttachment_panicFree pointer).attempt.bind
      intro answer
      split
      · trivial
      · exact ih
      · trivial

end PushService

/-- Every fetched list is accounted for exactly where the key has 64 bytes, the stream does not
    break off, what it holds is authentic, and that is a list. -/
theorem retrieveContacts_accounted_iff
    (lengthHmac : ∀ key message, (W.ciphers.hmac key message).length = 32) {σ : Type}
    (h : HttpEnv U σ) (s : σ) (blob : Option AttachmentPointer) :
    Accounted X D ((retrieveContacts W service blob).run h s).exit ↔
      ∀ pointer download, blob = some pointer →
        ((service.download W pointer 3).run h s).exit = .ret download →
        (pointer.key.getD []).length = 64 ∧
        ∃ ciphertext plaintext, download.stream = some ciphertext ∧
          Authentic W.ciphers (pointer.key.getD []) ciphertext plaintext ∧ Listed D plaintext := by
  cases blob with
  | none =>
      apply iff_of_true (accounted_ret_iff.mpr .nil)
      intro pointer download missing
      cases missing
  | some pointer =>
      have free : (service.download W pointer 3).PanicFree :=
        PushService.download_panicFree pointer 3
      simp only [retrieveContacts, bind_eq, run_bind_exit, run_ofExit]
      cases fetched : ((service.download W pointer 3).run h s).exit with
      | panic message => exact absurd fetched (free.run s message)
      | throw e =>
          apply iff_of_true trivial
          rintro _ download ⟨⟩ returned
          cases fetched.symm.trans returned
      | ret download =>
          rw [Exit.ret_bind, readContacts_accounted_iff lengthHmac]
          constructor
          · rintro condition _ download' ⟨⟩ returned
            cases fetched.symm.trans returned
            exact condition
          · exact fun condition => condition pointer download rfl fetched

namespace Sample

/-- What a CDN has for a plaintext that was encrypted with the zero key. -/
def storedList (plaintext : Bytes) : Bytes :=
  sealedAttachment openCiphers (List.replicate 16 0) zeroKey plaintext

def keyedPointer (key : Bytes) : AttachmentPointer where
  attachmentIdentifier := some (.cdnKey "key")
  key := some key
  cdnNumber := some 3

end Sample

open Sample

theorem list_of_one_accounted :
    Accounted reference contactExternals ((retrieveContacts attachmentExternals cdnService
      (some (keyedPointer zeroKey))).run (cdnHolding (storedList [0])) ()).exit := by
  apply (retrieveContacts_accounted_iff (fun _ _ => List.length_replicate) _ _ _).mpr
  rintro _ download ⟨⟩ fetched
  cases fetched
  refine ⟨List.length_replicate, storedList [0], [0], rfl, ?_, ?_⟩
  · exact ⟨List.replicate 16 0, pkcs7Pad [0], List.length_replicate, by decide, rfl,
      pkcs7Unpad_pkcs7Pad [0]⟩
  · have framed : Codec.decodeFrame [0] = some ([], [] ++ []) := Codec.decodeFrame_zero []
    exact .contact framed rfl rfl .nil

/-- A key of 63 bytes is a panic, and a frame that is cut off is the end of the list. -/
theorem lists_not_accounted :
    ¬ Accounted reference contactExternals ((retrieveContacts attachmentExternals cdnService
      (some (keyedPointer (List.replicate 63 0)))).run (cdnHolding (storedList [0])) ()).exit ∧
    ((retrieveContacts attachmentExternals cdnService (some (keyedPointer zeroKey))).run
      (cdnHolding (storedList [5])) ()).exit = .ret [5] ∧
    (DeviceContactsIterator.next reference contactExternals [5] : Exit ServiceError _) =
      .ret none ∧
    ¬ Accounted reference contactExternals ((retrieveContacts attachmentExternals cdnService
      (some (keyedPointer zeroKey))).run (cdnHolding (storedList [5])) ()).exit := by
  have fetched : ((retrieveContacts attachmentExternals cdnService
      (some (keyedPointer zeroKey))).run (cdnHolding (storedList [5])) ()).exit = .ret [5] := by
    decide +kernel
  have refused : ((retrieveContacts attachmentExternals cdnService
      (some (keyedPointer (List.replicate 63 0)))).run (cdnHolding (storedList [0])) ()).exit =
        .panic "key material for attachments is ought to be 64 bytes" := by
    decide +kernel
  refine ⟨?_, fetched, rfl, ?_⟩
  · rw [refused]
    exact id
  · rw [fetched, accounted_ret_iff]
    intro listed
    cases listed with
    | contact framed => cases framed

end SignalService

import SignalService.Cipher.Encrypt
import SignalService.Cipher.Admission
import SignalService.Cipher.Rejection

/-! # Both ends of a message

What `encrypt` hands to libsignal at one end is what `open_envelope` gets from it at the
other. The padding between the two is added by the version of the session, and removed by
the version of the session only where the envelope names its sender.
-/

namespace SignalService

open Effect Prog

/-! ## The sending end -/

/-- What a body is sent as: a content of its own, with the proof of our phone number where
    there is one. -/
def ContentBody.outgoing (X : Externals) (body : ContentBody)
    (sideCar : Option PniSignatureMessage) : Proto.Content :=
  { body.intoProto X with pniSignatureMessage := sideCar }

/-- What an encryption was asked to encrypt. -/
def encryptedIn : CallEvent → Option Bytes
  | ⟨.messageEncrypt plaintext _ _, _⟩ => some plaintext
  | ⟨.sealedSenderEncrypt _ _ plaintext, _⟩ => some plaintext
  | _ => none

/-- The types that a message may have on each of the two channels. -/
def TravelsAs (certificate : Option SenderCertificate) (type : Nat) : Prop :=
  match certificate with
  | some _ => EnvelopeType.ofNat? type = some .unidentifiedSender
  | none => ∃ known msgType, EnvelopeType.ofNat? type = some known ∧ known.inner? = some msgType

section Sending

variable (X : Externals) {σ : Type} {h : Env σ} {cipher : ServiceCipher}
  {address : ProtocolAddress} {certificate : Option SenderCertificate} {push : OutgoingPushMessage}

theorem outgoingType_ret {messageType : CiphertextMessageType} {type : EnvelopeType}
    (outgoing : outgoingType messageType = .ret type) : type.inner? = some messageType := by
  cases messageType <;> cases outgoing <;> rfl

theorem EnvelopeType.ofNat?_toNat (type : EnvelopeType) :
    EnvelopeType.ofNat? type.toNat = some type := by
  cases type <;> rfl

theorem encryptPadded_ret {record : SessionRecord} {padded : Bytes} {s : σ}
    (returned : ((encryptPadded X cipher address certificate record padded).run h s).exit =
      .ret push) :
    TravelsAs certificate push.type ∧
      ∃ event ∈ ((encryptPadded X cipher address certificate record padded).run h s).log,
        encryptedIn event = some padded := by
  unfold encryptPadded registrationId Async.await at returned ⊢
  simp only [bind_eq, pure_eq, call_mapErr, call_bind] at returned ⊢
  cases certificate with
  | some certificate =>
      cases registered : X.remoteRegistrationId record with
      | error e => simp [registered, Prog.ofExcept] at returned
      | ok id =>
          simp only [registered, Prog.ofExcept, Exit.ofExcept_ok, done_mapErr, Exit.mapErr_ret,
            ret_bind, run_call_exit, run_call_log, run_bind_done] at returned ⊢
          obtain ⟨message, -, sent⟩ := Exit.bind_eq_ret.mp returned
          cases sent
          exact ⟨rfl, _, List.mem_cons_self, rfl⟩
  | none =>
      simp only [run_call_exit, run_call_log, run_bind_exit] at returned ⊢
      obtain ⟨message, -, returned⟩ := Exit.bind_eq_ret.mp returned
      obtain ⟨id, -, returned⟩ := Exit.bind_eq_ret.mp returned
      obtain ⟨type, outgoing, sent⟩ := Exit.bind_eq_ret.mp returned
      cases sent
      have known := EnvelopeType.ofNat?_toNat type
      exact ⟨⟨type, _, known, outgoingType_ret outgoing⟩, _, List.mem_cons_self, rfl⟩

/-- A message that came out of `encrypt` is the encryption of the padded content. -/
theorem encrypt_ret {content : Bytes} {s : σ}
    (returned : ((encrypt X cipher address certificate (.encrypted content)).run h s).exit =
      .ret push) :
    TravelsAs certificate push.type ∧
      ∃ record version padded, (h (.loadSession address) s).1 = .ok (some record) ∧
        X.sessionVersion record = .ok version ∧ addPadding version content = .ok padded ∧
        ∃ event ∈ ((encrypt X cipher address certificate (.encrypted content)).run h s).log,
          encryptedIn event = some padded := by
  unfold encrypt recordUsable Async.loadSession Async.await at returned ⊢
  simp only [bind_eq, pure_eq, call_mapErr, call_bind, run_call_exit, run_call_log, id_eq]
    at returned ⊢
  cases found : (h (.loadSession address) s).1 with
  | error e => simp [found, Prog.ofExcept] at returned
  | ok loaded =>
      cases loaded with
      | none => simp [found, Prog.ofExcept, Prog.ofOption] at returned
      | some record =>
          simp only [found, Prog.ofExcept, Prog.ofOption, Exit.ofExcept_ok, Exit.ofOption_some,
            done_mapErr, Exit.mapErr_ret, ret_bind, run_call_exit, run_call_log] at returned ⊢
          split_ifs at returned ⊢ with usable
          · cases known : X.sessionVersion record with
            | error e => simp [known] at returned
            | ok version =>
                cases added : addPadding version content with
                | error e => simp [known, added] at returned
                | ok padded =>
                    simp only [known, added, Exit.ofExcept_ok, Exit.mapErr_ret, ret_bind]
                      at returned ⊢
                    obtain ⟨travels, event, logged, encrypted⟩ := encryptPadded_ret X returned
                    refine ⟨travels, record, version, padded, rfl, known, added, event, ?_,
                      encrypted⟩
                    simp [logged]
          · cases returned

end Sending

/-! ## The receiving end -/

/-- prost reads back what it has written, and reads nothing that lacks the end of it: no
    field starts with a mark, so where a mark and zeros are missing, the last field is cut
    short. -/
structure Externals.ReadsBack (X : Externals) (body : ContentBody)
    (sideCar : Option PniSignatureMessage) : Prop where
  content : X.decodeContent (X.encodeContent (body.outgoing X sideCar)) =
    some (body.outgoing X sideCar)
  cut : ∀ data zeros,
    X.encodeContent (body.outgoing X sideCar) = data ++ 0x80 :: List.replicate zeros 0 →
      X.decodeContent data = none
  decryptionError : ∀ m, body = .decryptionErrorMessage m →
    X.decodeDecryptionErrorMessage (X.encodeDecryptionErrorMessage m) = some m

/-- The body comes out as it went in, but for a sync message, which only our own account
    may send us. -/
structure Agrees (body : ContentBody) (sender recipient : ServiceId)
    (exit : Exit ServiceError (Option Content)) : Prop where
  returned : exit = .ret none ∨ ∃ content, exit = .ret (some content) ∧ content.body = body
  filtered : exit = .ret none ↔ body.IsSynchronizeMessage ∧ sender ≠ recipient

section Receiving

variable {X : Externals} {body : ContentBody} {sideCar : Option PniSignatureMessage}

theorem Content.fromProto_outgoing (reads : X.ReadsBack body sideCar) (metadata : Metadata) :
    Content.fromProto X (body.outgoing X sideCar) metadata = .ok ⟨metadata, body⟩ := by
  cases body with
  | decryptionErrorMessage m =>
      have read := reads.decryptionError m rfl
      simp only [Content.fromProto, ContentBody.outgoing, ContentBody.intoProto, read]
  | nullMessage | dataMessage | synchronizeMessage | callMessage | receiptMessage | typingMessage
  | storyMessage | editMessage => rfl

theorem outgoing_isSyncMessage (X : Externals) (body : ContentBody)
    (sideCar : Option PniSignatureMessage) :
    ∃ sent, (body.outgoing X sideCar).content = some sent ∧
      (sent.IsSyncMessage ↔ body.IsSynchronizeMessage) := by
  cases body <;> exact ⟨_, rfl, Iff.rfl⟩

/-- The filter tells whether a sync message is our own. -/
theorem ServiceId.foreign_iff {sender recipient : ServiceId} (isAci : sender.kind = .aci) :
    (sender.aci? ≠ recipient.aci? ∨ recipient.kind = .pni) ↔ sender ≠ recipient := by
  obtain ⟨aci, rfl⟩ := ServiceId.eq_aci_of_kind isAci
  cases recipient with
  | aci other => simp [ServiceId.aci?, ServiceId.kind]
  | pni other => simp [ServiceId.aci?, ServiceId.kind]

theorem admitContent_agrees (reads : X.ReadsBack body sideCar) {recipient : ServiceId}
    {plaintext : Plaintext} (message : plaintext.message = body.outgoing X sideCar)
    (encrypted : plaintext.metadata.wasPlaintext = false)
    (isAci : plaintext.metadata.sender.kind = .aci) :
    Agrees body plaintext.metadata.sender recipient
      (.ofExcept (admitContent X recipient plaintext)) := by
  obtain ⟨sent, present, sync⟩ := outgoing_isSyncMessage X body sideCar
  have converted : Content.fromProto X plaintext.message plaintext.metadata =
      .ok ⟨plaintext.metadata, body⟩ := by
    rw [message]
    exact Content.fromProto_outgoing reads _
  have foreign : sent.IsSyncMessage ∧ (plaintext.metadata.sender.aci? ≠ recipient.aci? ∨
      recipient.kind = .pni) ↔ body.IsSynchronizeMessage ∧ plaintext.metadata.sender ≠ recipient := by
    rw [sync, ServiceId.foreign_iff isAci]
  unfold admitContent
  rw [message, present]
  simp only [encrypted, Bool.false_eq_true, false_and, if_false]
  rw [← message, converted]
  split
  case isTrue filtered => exact ⟨.inl rfl, iff_of_true rfl (foreign.mp filtered)⟩
  case isFalse own =>
      exact ⟨.inr ⟨_, rfl, rfl⟩, iff_of_false nofun fun filtered => own (foreign.mpr filtered)⟩

variable {τ : Type} {h : Env τ} {t : τ} {receiver : ServiceCipher} {envelope : Envelope}
  {ciphertext : Bytes} {source : Option ServiceId} {recipient : ServiceId}
  {parts : DecryptedPayload}

/-- A payload that holds the encoded content is taken for what it is. -/
theorem openEnvelope_agrees (keeps : h.KeepsOnReads) (reads : X.ReadsBack body sideCar)
    (isLocal : X.parseServiceIdString receiver.localAddress.name = some recipient)
    (content : envelope.content = some ciphertext)
    (header : checkHeader X recipient envelope = .ok source)
    (timestamps : TimestampsParse X envelope)
    (opened : ((decryptParts X receiver envelope ciphertext source).run h t).exit = .ret parts)
    (data : parts.data = X.encodeContent (body.outgoing X sideCar))
    (encrypted : parts.wasPlaintext = false) (isAci : parts.sender.kind = .aci) :
    Agrees body parts.sender recipient ((openEnvelope X receiver envelope).run h t).exit := by
  have decoded : X.decodeContent parts.data = some (body.outgoing X sideCar) := by
    rw [data]
    exact reads.content
  obtain ⟨plaintext, finished, message, isOf⟩ := finishDecrypt_of X h
    ((decryptParts X receiver envelope ciphertext source).run h t).state recipient decoded timestamps
  have noSenderKey (t : τ) : ((ingestSenderKey X plaintext).run h t).exit = .ret () := by
    rw [ingestSenderKey_ret_iff, message]
    rintro bytes ⟨⟩
  rw [(openEnvelope_opened isLocal keeps content header opened rfl).1, finished, Exit.ret_bind,
    deliver_exit, noSenderKey, Exit.ret_bind, ← isOf.sender]
  apply admitContent_agrees reads message
  · rw [isOf.wasPlaintext, encrypted]
  · rw [isOf.sender, isAci]

/-- Where nothing is returned, nothing agrees. -/
theorem Agrees.not_throw {sender : ServiceId} {e : ServiceError} :
    ¬ Agrees body sender recipient (.throw e) := by
  rintro ⟨never | ⟨_, never, -⟩, -⟩ <;> cases never

/-- A payload that lacks the end of the encoded content is not understood. -/
theorem openEnvelope_cut (keeps : h.KeepsOnReads)
    (isLocal : X.parseServiceIdString receiver.localAddress.name = some recipient)
    (content : envelope.content = some ciphertext)
    (header : checkHeader X recipient envelope = .ok source)
    (opened : ((decryptParts X receiver envelope ciphertext source).run h t).exit = .ret parts)
    (undecoded : X.decodeContent parts.data = none) :
    ((openEnvelope X receiver envelope).run h t).exit = .throw .protobufDecodeError := by
  obtain ⟨pniVerified, exit⟩ := finishDecrypt_exit X h
    ((decryptParts X receiver envelope ciphertext source).run h t).state recipient envelope parts
  rw [(openEnvelope_opened isLocal keeps content header opened rfl).1, exit, undecoded]
  rfl

/-- Content that nothing was added to loses its end, or is refused. -/
theorem openEnvelope_stripped_disagrees (keeps : h.KeepsOnReads) (reads : X.ReadsBack body sideCar)
    (isLocal : X.parseServiceIdString receiver.localAddress.name = some recipient)
    (content : envelope.content = some ciphertext)
    (header : checkHeader X recipient envelope = .ok source) {sender : ServiceId}
    {device : DeviceId} {wasPlaintext unidentified needsReceipt : Bool}
    (opened : ((decryptParts X receiver envelope ciphertext source).run h t).exit =
      (Exit.ofExcept (stripPadding (X.encodeContent (body.outgoing X sideCar)))).bind fun data =>
        .ret ⟨data, sender, device, wasPlaintext, unidentified, needsReceipt⟩) :
    ¬ Agrees body sender recipient ((openEnvelope X receiver envelope).run h t).exit := by
  cases stripped : stripPadding (X.encodeContent (body.outgoing X sideCar)) with
  | error e =>
      rw [stripped] at opened
      rw [openEnvelope_of_throw X isLocal content header opened]
      exact Agrees.not_throw
  | ok data =>
      obtain ⟨zeros, ends⟩ := stripPadding_eq_ok.mp stripped
      rw [stripped] at opened
      rw [openEnvelope_cut keeps isLocal content header opened (reads.cut data zeros ends)]
      exact Agrees.not_throw

end Receiving

/-! ## From one end to the other -/

/-- A body, and what it is encrypted with and for. -/
structure Sending where
  cipher : ServiceCipher
  address : ProtocolAddress
  certificate : Option SenderCertificate
  body : ContentBody
  sideCar : Option PniSignatureMessage

def Sending.prog (X : Externals) (sending : Sending) : Async ServiceError OutgoingPushMessage :=
  encrypt X sending.cipher sending.address sending.certificate
    (.encrypted (X.encodeContent (sending.body.outgoing X sending.sideCar)))

/-- What is decrypted at the receiving end. The session is looked at once more only where
    the envelope names its sender. -/
inductive Arrives (X : Externals) {τ : Type} (h : Env τ) (t : τ) (receiver : ServiceCipher)
    (envelope : Envelope) (ciphertext : Bytes) (source : Option ServiceId) (sender : ServiceId)
    (version : Nat) (padded : Bytes) : Option SenderCertificate → Prop where
  | identified {device : DeviceId} {msgType : CiphertextMessageType}
      {found : Option SessionRecord} {record : SessionRecord} (named : source = some sender)
      (fromDevice : envelope.senderDevice = some device)
      (type : envelope.envelopeType.inner? = some msgType)
      (ready : (h (.loadSession (X.protocolAddress sender device)) t).1 = .ok found)
      (decrypted : ((sealedSenderDecryptMessage X msgType ciphertext
        (X.protocolAddress sender device) receiver.localAddress).run h t).exit = .ret padded)
      (session : (h (.loadSession (X.protocolAddress sender device))
        ((sealedSenderDecryptMessage X msgType ciphertext (X.protocolAddress sender device)
          receiver.localAddress).run h t).state).1 = .ok (some record))
      (sameVersion : X.sessionVersion record = .ok version) :
      Arrives X h t receiver envelope ciphertext source sender version padded none
  | unidentified {certificate : SenderCertificate} {usmc : UnidentifiedSenderMessageContent}
      {remote : ProtocolAddress} {msgType : CiphertextMessageType} {contents : Bytes}
      (opened : (h (.sealedSenderDecryptToUsmc ciphertext) t).1 = .ok usmc)
      (trusted : sealedSenderAddress X receiver.trustRoots (envelope.clientTimestamp.getD 0) none
        receiver.localAddress usmc = .ret remote)
      (named : X.parseServiceIdString remote.name = some sender) (isAci : sender.kind = .aci)
      (type : usmc.msgType = .ok msgType) (inside : usmc.contents = .ok contents)
      (decrypted : ((sealedSenderDecryptMessage X msgType contents remote
        receiver.localAddress).run h t).exit = .ret padded) :
      Arrives X h t receiver envelope ciphertext source sender version padded (some certificate)

/-- The envelope brings the message to the account it is addressed to, the session has the
    same version at both ends, and what was encrypted is what is decrypted. -/
structure Delivered (X : Externals) {σ τ : Type} (h : Env σ) (s : σ) (h' : Env τ) (t : τ)
    (sending : Sending) (receiver : ServiceCipher) (envelope : Envelope)
    (sender recipient : ServiceId) (version : Nat) : Prop where
  sent : ∃ push, ((sending.prog X).run h s).exit = .ret push ∧ envelope.type = some push.type ∧
    envelope.content.map X.base64 = some push.content
  session : ∀ record, (h (.loadSession sending.address) s).1 = .ok (some record) →
    X.sessionVersion record = .ok version
  isLocal : X.parseServiceIdString receiver.localAddress.name = some recipient
  timestamps : TimestampsParse X envelope
  arrives : ∃ ciphertext source, envelope.content = some ciphertext ∧
    checkHeader X recipient envelope = .ok source ∧
    ∀ event ∈ ((sending.prog X).run h s).log, ∀ padded, encryptedIn event = some padded →
      Arrives X h' t receiver envelope ciphertext source sender version padded sending.certificate

section

variable {X : Externals} {σ τ : Type} {h : Env σ} {s : σ} {h' : Env τ} {t : τ} {sending : Sending}
  {receiver : ServiceCipher} {envelope : Envelope} {sender recipient : ServiceId} {version : Nat}

/-- The sender of a message that arrives is an account. -/
theorem Arrives.isAci {ciphertext : Bytes} {source : Option ServiceId} {padded : Bytes}
    {certificate : Option SenderCertificate}
    (arrives : Arrives X h' t receiver envelope ciphertext source sender version padded
      certificate)
    (header : checkHeader X recipient envelope = .ok source) : sender.kind = .aci := by
  cases arrives with
  | unidentified _ _ _ isAci => exact isAci
  | identified named _ type =>
      apply (checkHeader_checked header).fromAci sender named
      intro receipt
      rw [receipt] at type
      cases type

/-- What the dispatch makes of a message that arrives, by the padding it strips. -/
theorem Arrives.decryptParts {ciphertext : Bytes} {source : Option ServiceId} {padded : Bytes}
    {certificate : Option SenderCertificate} {type : Nat} (keeps : h'.KeepsOnReads)
    (travels : TravelsAs certificate type) (typed : envelope.type = some type)
    (arrives : Arrives X h' t receiver envelope ciphertext source sender version padded
      certificate) :
    ∃ device unidentified needsReceipt,
      ((decryptParts X receiver envelope ciphertext source).run h' t).exit =
        (Exit.ofExcept (if certificate.isSome then stripPadding padded
            else stripPaddingVersion version padded)).bind fun data =>
          .ret ⟨data, sender, device, false, unidentified, needsReceipt⟩ := by
  cases arrives with
  | @identified device msgType found record named fromDevice type ready decrypted session
      sameVersion =>
      refine ⟨device, false, false, ?_⟩
      rw [decryptParts_identified X type, named]
      simp only [expectSource, expectSenderDevice, fromDevice, Prog.ofOption, Exit.ofOption_some,
        ret_bind]
      rw [(decryptIdentified_ready X keeps ready).1, decrypted]
      simp only [Exit.mapErr_ret, Exit.ret_bind, session, unpadded, Exit.ofExcept_ok,
        Exit.ofOption_some, sameVersion, Option.isSome_none, Bool.false_eq_true, if_false]
  | @unidentified certificate usmc remote msgType contents opened trusted named isAci type inside
      decrypted =>
      have known : envelope.envelopeType = .unidentifiedSender := by
        unfold Envelope.envelopeType
        rw [typed, Option.bind_some, travels, Option.getD_some]
      have account : sender.kind ≠ .pni := by
        rw [isAci]
        decide
      refine ⟨remote.deviceId, true, source.isNone, ?_⟩
      unfold SignalService.decryptParts
      rw [known]
      dsimp only
      rw [(decryptUnidentifiedSender_trusted X source keeps opened trusted type inside).1, decrypted]
      simp only [Exit.mapErr_ret, Exit.ret_bind, unsealedPayload, named, account, if_false,
        Option.isSome_some, if_true]

/-- What was sent comes out at the other end, unless its sender is sealed and its session is
    of the second version: then nothing was added to it, and something is stripped from it
    all the same. -/
theorem openEnvelope_agrees_iff (keeps : h'.KeepsOnReads)
    (reads : X.ReadsBack sending.body sending.sideCar)
    (delivered : Delivered X h s h' t sending receiver envelope sender recipient version) :
    Agrees sending.body sender recipient ((openEnvelope X receiver envelope).run h' t).exit ↔
      ¬ (sending.certificate.isSome ∧ version = 2) := by
  obtain ⟨push, returned, typed, -⟩ := delivered.sent
  obtain ⟨travels, record, version', padded, loaded, session, added, event, logged, encrypted⟩ :=
    encrypt_ret X returned
  obtain ⟨ciphertext, source, content, header, arrives⟩ := delivered.arrives
  have arrived := arrives event logged padded encrypted
  have sameVersion : version' = version := by
    have found := delivered.session record loaded
    rw [session] at found
    cases found
    rfl
  subst sameVersion
  have isAci : sender.kind = .aci := arrived.isAci header
  obtain ⟨device, unidentified, needsReceipt, parts⟩ := arrived.decryptParts keeps travels typed
  have agrees (stripped : (if sending.certificate.isSome then stripPadding padded
      else stripPaddingVersion version' padded) = .ok (X.encodeContent
        (sending.body.outgoing X sending.sideCar))) :
      Agrees sending.body sender recipient ((openEnvelope X receiver envelope).run h' t).exit := by
    rw [stripped] at parts
    exact openEnvelope_agrees keeps reads delivered.isLocal content header delivered.timestamps
      parts rfl rfl isAci
  by_cases sealedSender : sending.certificate.isSome
  · simp only [sealedSender, if_true, true_and] at parts agrees ⊢
    by_cases second : version' = 2
    · rw [second] at added
      cases added
      apply iff_of_false _ (not_not.mpr second)
      exact openEnvelope_stripped_disagrees keeps reads delivered.isLocal content header parts
    · exact iff_of_true (agrees (stripPadding_addPadding added second)) second
  · simp only [sealedSender, Bool.false_eq_true, if_false, false_and, not_false_iff] at agrees ⊢
    exact iff_of_true (agrees (stripPaddingVersion_addPadding added)) trivial

end

namespace Sample

/-- Sessions of one version. -/
def versioned (version : Nat) : Externals := { reference with sessionVersion := fun _ => .ok version }

/-- A crypto that hides nothing. -/
def transparent : Env Unit := fun c s =>
  (match c with
    | .loadSession _ => .ok (some ⟨[7]⟩)
    | .hasUsableSenderChain _ => .ok true
    | .sealedSenderEncrypt _ _ plaintext => .ok plaintext
    | .sealedSenderDecryptToUsmc ciphertext =>
        .ok ⟨.ok .whisper, .ok remoteCertificate, .ok ciphertext⟩
    | .messageDecryptSignal message _ _ => .ok message
    | c => c.fallback, s)

theorem transparent_keeps : transparent.KeepsOnReads := fun _ _ _ => rfl

/-- An empty data message, with its sender sealed. -/
def sealedSending : Sending where
  cipher := ⟨[], ⟨"6838237d-e02b-4191-8587-b3c5eb9b8b4e", defaultDeviceId⟩⟩
  address := ⟨"9d0652a3-dcc3-4d11-975f-74d61598733f", defaultDeviceId⟩
  certificate := some remoteCertificate
  body := .dataMessage ⟨none, []⟩
  sideCar := none

theorem sealedSending_readsBack (version : Nat) :
    (versioned version).ReadsBack sealedSending.body sealedSending.sideCar where
  content := rfl
  cut data zeros ends := by
    have mark : 0x80 ∈ data ++ 0x80 :: List.replicate zeros 0 :=
      List.mem_append_right data List.mem_cons_self
    have absent : 0x80 ∉ Reference.dataContentBytes := by decide
    rw [← ends] at mark
    exact absurd mark absent
  decryptionError := nofun

/-- The envelope that brings it. -/
def sealedArrival (padded : Bytes) : Envelope := { sealedEnvelope with content := some padded }

theorem sealedSending_delivered {version : Nat} {padded : Bytes}
    (added : addPadding version Reference.dataContentBytes = .ok padded) (full : padded ≠ []) :
    Delivered (versioned version) transparent () transparent () sealedSending localCipher
      (sealedArrival padded) (.aci Reference.remoteAci)
      (.aci Reference.localAci) version := by
  have encoded : (versioned version).encodeContent (sealedSending.body.outgoing (versioned version)
      sealedSending.sideCar) = Reference.dataContentBytes := rfl
  have ran : (sealedSending.prog (versioned version)).run transparent () =
      ⟨.ret ⟨6, defaultDeviceId, 7, (versioned version).base64 padded⟩, (), [
        ⟨.loadSession sealedSending.address, .ok (some ⟨[7]⟩)⟩,
        ⟨.hasUsableSenderChain ⟨[7]⟩, .ok true⟩,
        ⟨.sealedSenderEncrypt sealedSending.address remoteCertificate padded, .ok padded⟩]⟩ := by
    unfold Sending.prog encrypt
    rw [encoded]
    simp [recordUsable, encryptPadded, registrationId, Async.loadSession, Async.await, transparent,
      Prog.ofExcept, Prog.ofOption, run_call, added, versioned, sealedSending]
    exact ⟨rfl, rfl⟩
  constructor
  · exact ⟨_, by rw [ran], rfl, rfl⟩
  · exact fun record _ => rfl
  · exact (by decide +kernel :
      reference.parseServiceIdString localCipher.localAddress.name = some (.aci Reference.localAci))
  · exact ⟨rfl, rfl⟩
  · refine ⟨padded, none, rfl, by rfl, ?_⟩
    rw [ran]
    intro event logged padded' encrypted
    have same : padded = padded' := by
      fin_cases logged <;> cases encrypted
      rfl
    subst same
    have read : (versioned version).signalMessage padded = .ok padded := if_neg full
    have decrypted : ((sealedSenderDecryptMessage (versioned version) .whisper padded
        ⟨"6838237d-e02b-4191-8587-b3c5eb9b8b4e", defaultDeviceId⟩ localCipher.localAddress).run
          transparent ()).exit = .ret padded := by
      unfold sealedSenderDecryptMessage
      rw [read]
      rfl
    exact .unidentified rfl rfl rfl rfl rfl rfl decrypted

end Sample

open Sample

theorem sealed_third_version_agrees :
    Delivered (versioned 3) transparent () transparent () sealedSending localCipher
        (sealedArrival (0x0A :: 0 :: 0x80 :: List.replicate 157 0)) (.aci Reference.remoteAci)
        (.aci Reference.localAci) 3 ∧
      (Agrees sealedSending.body (.aci Reference.remoteAci) (.aci Reference.localAci)
          ((openEnvelope (versioned 3) localCipher
            (sealedArrival (0x0A :: 0 :: 0x80 :: List.replicate 157 0))).run transparent ()).exit ↔
        ¬ (sealedSending.certificate.isSome ∧ 3 = 2)) := by
  have added : addPadding 3 Reference.dataContentBytes =
      .ok (0x0A :: 0 :: 0x80 :: List.replicate 157 0) := rfl
  have delivered := sealedSending_delivered added (by decide)
  exact ⟨delivered, openEnvelope_agrees_iff transparent_keeps (sealedSending_readsBack 3) delivered⟩

/-- Nothing was added to the message, and nothing can be stripped from it. -/
theorem sealed_second_version_disagrees :
    (versioned 2).ReadsBack sealedSending.body sealedSending.sideCar ∧
      Delivered (versioned 2) transparent () transparent () sealedSending localCipher
        (sealedArrival Reference.dataContentBytes) (.aci Reference.remoteAci)
        (.aci Reference.localAci) 2 ∧
      ((openEnvelope (versioned 2) localCipher (sealedArrival Reference.dataContentBytes)).run
        transparent ()).exit = .throw .padding ∧
      ¬ Agrees sealedSending.body (.aci Reference.remoteAci) (.aci Reference.localAci)
        ((openEnvelope (versioned 2) localCipher (sealedArrival Reference.dataContentBytes)).run
          transparent ()).exit := by
  have thrown : ((openEnvelope (versioned 2) localCipher
      (sealedArrival Reference.dataContentBytes)).run transparent ()).exit = .throw .padding := by
    rfl
  refine ⟨sealedSending_readsBack 2, sealedSending_delivered rfl (by decide), thrown, ?_⟩
  rw [thrown]
  exact Agrees.not_throw

end SignalService

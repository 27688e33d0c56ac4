import SignalService.Cipher.Routes
import SignalService.Reference

/-! # Unencrypted content

Two kinds of envelope carry a `PlaintextContent`: an unsealed one of that type, and a
sealed one whose inner message is of that type. Nobody vouches for the body of either,
so it should hold a decryption error and nothing else. What an envelope has to show
to get its body as far as the application is collected in one structure for each kind.
-/

namespace SignalService

open Effect

variable (X : Externals)

/-- The innermost ciphertext of the envelope is not encrypted. -/
inductive InnermostPlaintext {σ : Type} (h : Env σ) (envelope : Envelope) (s : σ) : Prop where
  | unsealed (type : envelope.envelopeType = .plaintextContent)
  | sealedInside {ciphertext : Bytes} {usmc : UnidentifiedSenderMessageContent}
      (type : envelope.envelopeType = .unidentifiedSender)
      (content : envelope.content = some ciphertext)
      (unsealed : (h (.sealedSenderDecryptToUsmc ciphertext) s).1 = .ok usmc)
      (plain : usmc.msgType = .ok .plaintext)

/-- The call came back, and with nothing for the application but a decryption error. -/
def OnlyDecryptionError : Exit ServiceError (Option Content) → Prop
  | .ret none => True
  | .ret (some content) => content.body.IsDecryptionErrorMessage
  | .throw _ => True
  | .panic _ => False

theorem onlyDecryptionError_iff {exit : Exit ServiceError (Option Content)}
    (returns : ∀ m, exit ≠ .panic m) :
    OnlyDecryptionError exit ↔
      ∀ content, exit = .ret (some content) → content.body.IsDecryptionErrorMessage := by
  cases exit with
  | ret r => cases r <;> simp [OnlyDecryptionError]
  | throw e => simp [OnlyDecryptionError]
  | panic m => exact absurd rfl (returns m)

/-! ## The sealed route -/

section Sealed

variable {σ : Type} (h : Env σ) {cipher : ServiceCipher} {envelope : Envelope}
  {ciphertext : Bytes} {source : Option ServiceId} {s : σ}
  {usmc : UnidentifiedSenderMessageContent}

/-- The payload of a sealed envelope with a plaintext inside, and why it is the one. -/
structure SealedPayload (cipher : ServiceCipher) (envelope : Envelope) (ciphertext : Bytes)
    (s : σ) where
  usmc : UnidentifiedSenderMessageContent
  remote : ProtocolAddress
  contents : Bytes
  padded : Bytes
  data : Bytes
  sender : ServiceId
  unsealed : (h (.sealedSenderDecryptToUsmc ciphertext) s).1 = .ok usmc
  plain : usmc.msgType = .ok .plaintext
  trusted : sealedSenderAddress X cipher.trustRoots (envelope.clientTimestamp.getD 0) none
    cipher.localAddress usmc = .ret remote
  inside : usmc.contents = .ok contents
  body : X.plaintextContentBody contents = .ok padded
  stripped : stripPadding padded = .ok data
  named : X.parseServiceIdString remote.name = some sender
  isAci : sender.kind ≠ .pni

def SealedPayload.parts {X : Externals} {h : Env σ}
    (p : SealedPayload X h cipher envelope ciphertext s) (source : Option ServiceId) :
    DecryptedPayload :=
  ⟨p.data, p.sender, p.remote.deviceId, false, true, source.isNone⟩

variable {h}

theorem decryptUnidentifiedSender_of (keeps : h.KeepsOnReads)
    (p : SealedPayload X h cipher envelope ciphertext s) :
    ((decryptUnidentifiedSender X cipher envelope ciphertext source).run h s).exit =
      .ret (p.parts source) := by
  rw [(decryptUnidentifiedSender_trusted X source keeps p.unsealed p.trusted p.plain p.inside).1]
  simp only [sealedSenderDecryptMessage, Prog.run_ofExcept, p.body, Exit.ofExcept_ok, Exit.mapErr_ret,
    Exit.ret_bind, unsealedPayload, p.named, p.isAci, if_false, p.stripped]
  rfl

theorem decryptUnidentifiedSender_ret {parts : DecryptedPayload} (keeps : h.KeepsOnReads)
    (unsealed : (h (.sealedSenderDecryptToUsmc ciphertext) s).1 = .ok usmc)
    (plain : usmc.msgType = .ok .plaintext)
    (returned : ((decryptUnidentifiedSender X cipher envelope ciphertext source).run h s).exit =
      .ret parts) :
    ∃ p : SealedPayload X h cipher envelope ciphertext s, parts = p.parts source := by
  by_contra unopened
  apply (decryptUnidentifiedSender_untrusted X keeps _).1 parts returned
  intro usmc' remote msgType contents unsealed' trusted type inside
  obtain rfl : usmc' = usmc := Except.ok.inj (unsealed'.symm.trans unsealed)
  rw [(decryptUnidentifiedSender_trusted X source keeps unsealed trusted plain inside).1]
    at returned
  obtain ⟨padded, body, returned⟩ := Exit.bind_eq_ret.mp returned
  have body := Exit.ofExcept_eq_ret.mp (Exit.mapErr_eq_ret.mp body)
  unfold unsealedPayload at returned
  cases named : X.parseServiceIdString remote.name with
  | none => simp [named] at returned
  | some sender =>
      simp only [named] at returned
      split at returned
      · cases returned
      · next isAci =>
          obtain ⟨data, stripped, returned⟩ := Exit.bind_eq_ret.mp returned
          cases returned
          exact unopened ⟨⟨usmc', remote, contents, padded, data, sender, unsealed, plain, trusted,
            inside, body, Exit.ofExcept_eq_ret.mp stripped, named, isAci⟩, rfl⟩

theorem decryptUnidentifiedSender_panic_iff (source : Option ServiceId)
    (unsealed : (h (.sealedSenderDecryptToUsmc ciphertext) s).1 = .ok usmc) :
    (∃ m, ((decryptUnidentifiedSender X cipher envelope ciphertext source).run h s).exit =
        .panic m) ↔
      ∃ m, sealedSenderAddress X cipher.trustRoots (envelope.clientTimestamp.getD 0) none
        cipher.localAddress usmc = .panic m := by
  simp [decryptUnidentifiedSender_panics_iff, unsealed]

/-- An inner plaintext is read without a write to the store. -/
theorem decryptUnidentifiedSender_state (keeps : h.KeepsOnReads)
    (unsealed : (h (.sealedSenderDecryptToUsmc ciphertext) s).1 = .ok usmc)
    (plain : usmc.msgType = .ok .plaintext) :
    ((decryptUnidentifiedSender X cipher envelope ciphertext source).run h s).state = s := by
  by_contra changed
  apply changed (decryptUnidentifiedSender_untrusted X keeps _).2.2
  intro usmc' remote msgType contents unsealed' trusted type inside
  obtain rfl : usmc' = usmc := Except.ok.inj (unsealed'.symm.trans unsealed)
  apply changed
  rw [(decryptUnidentifiedSender_trusted X source keeps unsealed trusted plain inside).2]
  rfl

end Sealed

/-! ## What is let through -/

/-- A plaintext flag lets a decryption error through and nothing else. -/
theorem admitContent_wasPlaintext {localId : ServiceId} {plaintext : Plaintext}
    {content : Content} (flagged : plaintext.metadata.wasPlaintext = true)
    (admitted : admitContent X localId plaintext = .ok (some content)) :
    content.body.IsDecryptionErrorMessage := by
  unfold admitContent at admitted
  cases present : plaintext.message.content with
  | none => simp [present] at admitted
  | some body =>
      by_cases isError : body.IsDecryptionErrorMessage
      · simp only [present, flagged, isError, not_true_eq_false, and_false, if_false] at admitted
        split at admitted
        · cases admitted
        · cases converted : Content.fromProto X plaintext.message plaintext.metadata with
          | error e => simp [converted, Except.map] at admitted
          | ok c =>
              rw [converted] at admitted
              cases admitted
              exact (Content.fromProto_isDecryptionErrorMessage X present converted).mpr isError
      · simp [present, flagged, isError] at admitted

/-- A sync message that the source filter drops. -/
def Foreign (localId sender : ServiceId) (body : Proto.Body) : Prop :=
  body.IsSyncMessage ∧ (sender.aci? ≠ localId.aci? ∨ localId.kind = .pni)

/-- Without the flag, what is let through is a decryption error exactly when the body is
    one, or a sync message of somebody else's. -/
theorem admitContent_unflagged {localId : ServiceId} {plaintext : Plaintext}
    (unflagged : plaintext.metadata.wasPlaintext = false) :
    (∀ content, admitContent X localId plaintext = .ok (some content) →
        content.body.IsDecryptionErrorMessage) ↔
      ∀ body, plaintext.message.content = some body →
        body.IsDecryptionErrorMessage ∨ Foreign localId plaintext.metadata.sender body := by
  unfold admitContent
  cases present : plaintext.message.content with
  | none => simp
  | some body =>
      simp only [unflagged, Bool.false_eq_true, false_and, if_false, Option.some.injEq,
        forall_eq']
      by_cases isForeign : Foreign localId plaintext.metadata.sender body
      · have dropped := isForeign
        unfold Foreign at dropped
        simp [isForeign, dropped]
      · have kept := isForeign
        unfold Foreign at kept
        simp only [kept, if_false, isForeign, or_false]
        constructor
        · intro onlyErrors
          by_contra other
          obtain ⟨content, converted⟩ :=
            Content.fromProto_of_not_decryptionError X plaintext.metadata present other
          have isError := onlyErrors content (by rw [converted]; rfl)
          exact other ((Content.fromProto_isDecryptionErrorMessage X present converted).mp isError)
        · intro isError content admitted
          cases converted : Content.fromProto X plaintext.message plaintext.metadata with
          | error e => simp [converted, Except.map] at admitted
          | ok c =>
              rw [converted] at admitted
              cases admitted
              exact (Content.fromProto_isDecryptionErrorMessage X present converted).mpr isError

theorem deliver_onlyDecryptionError_iff {σ : Type} (h : Env σ) (s : σ) {localId : ServiceId}
    {plaintext : Plaintext} :
    OnlyDecryptionError ((deliver X localId plaintext).run h s).exit ↔
      (SenderKeyAccepted X h s plaintext.metadata.sender plaintext.metadata.senderDevice
          plaintext.message →
        ∀ content, admitContent X localId plaintext = .ok (some content) →
          content.body.IsDecryptionErrorMessage) := by
  rw [onlyDecryptionError_iff fun m => deliver_not_panic X h s localId plaintext m]
  simp only [deliver_ret_iff]
  constructor
  · intro onlyErrors accepted content admitted
    exact onlyErrors content ⟨accepted, admitted⟩
  · rintro onlyErrors content ⟨accepted, admitted⟩
    exact onlyErrors accepted content admitted

/-! ## Whole envelopes -/

section Envelope

variable {σ : Type} (h : Env σ) (cipher : ServiceCipher) (envelope : Envelope) (s : σ)

/-- No `expect` on the way of the envelope fails. -/
structure NoExpectFails : Prop where
  /-- "valid protocol address name" -/
  isLocal : ∃ localId, X.parseServiceIdString cipher.localAddress.name = some localId
  /-- "prekey bundle format contains source_service_id", which a plaintext envelope is
      held to as well -/
  hasSource : ∀ localId ciphertext,
    X.parseServiceIdString cipher.localAddress.name = some localId →
    envelope.content = some ciphertext → envelope.envelopeType = .plaintextContent →
    checkHeader X localId envelope ≠ .ok none
  /-- "valid uuid" -/
  certified : ∀ localId ciphertext source usmc certificate uuid,
    X.parseServiceIdString cipher.localAddress.name = some localId →
    envelope.content = some ciphertext → envelope.envelopeType = .unidentifiedSender →
    checkHeader X localId envelope = .ok source →
    (h (.sealedSenderDecryptToUsmc ciphertext) s).1 = .ok usmc →
    usmc.sender = .ok certificate →
    X.validateWithTrustRoots certificate cipher.trustRoots (envelope.clientTimestamp.getD 0) =
      .ok true →
    certificate.senderUuid = .ok uuid → X.parseUuid uuid ≠ none

/-- A sealed envelope whose plaintext message opens. -/
structure SealedPlaintext where
  localId : ServiceId
  ciphertext : Bytes
  source : Option ServiceId
  message : Proto.Content
  isLocal : X.parseServiceIdString cipher.localAddress.name = some localId
  content : envelope.content = some ciphertext
  type : envelope.envelopeType = .unidentifiedSender
  header : checkHeader X localId envelope = .ok source
  payload : SealedPayload X h cipher envelope ciphertext s
  decoded : X.decodeContent payload.data = some message
  timestamps : TimestampsParse X envelope

/-- An unsealed envelope whose plaintext message opens. -/
structure UnsealedPlaintext where
  localId : ServiceId
  ciphertext : Bytes
  source : ServiceId
  padded : Bytes
  data : Bytes
  device : DeviceId
  message : Proto.Content
  isLocal : X.parseServiceIdString cipher.localAddress.name = some localId
  content : envelope.content = some ciphertext
  type : envelope.envelopeType = .plaintextContent
  header : checkHeader X localId envelope = .ok (some source)
  body : X.plaintextContentBody ciphertext = .ok padded
  stripped : stripPadding padded = .ok data
  sentFrom : envelope.senderDevice = some device
  decoded : X.decodeContent data = some message
  timestamps : TimestampsParse X envelope

variable {h cipher envelope s}

/-! ### Unsealed -/

section Unsealed

variable {localId source : ServiceId} {ciphertext : Bytes}

/-- An unsealed plaintext is opened without any call. -/
theorem decryptPlaintextContent_eq :
    decryptPlaintextContent X envelope ciphertext source =
      .done (((Exit.ofExcept (X.plaintextContentBody ciphertext)).mapErr .signalProtocolError).bind
        fun padded => (Exit.ofExcept (stripPadding padded)).bind fun data =>
        (Exit.ofOption (.throw .invalidDeviceId) envelope.senderDevice).bind fun device =>
        .ret ⟨data, source, device, true, false, false⟩) := by
  simp only [decryptPlaintextContent, expectSenderDevice, Prog.ofExcept, Prog.ofOption,
    Prog.bind_eq, Prog.pure_eq, Prog.done_mapErr, Prog.done_bind_done]

theorem decryptPlaintextContent_not_panic {m : String} :
    ((decryptPlaintextContent X envelope ciphertext source).run h s).exit ≠ .panic m := by
  rw [decryptPlaintextContent_eq]
  cases X.plaintextContentBody ciphertext with
  | error e => simp
  | ok padded =>
      simp only [Exit.ofExcept_ok, Exit.mapErr_ret, Exit.ret_bind]
      cases stripPadding padded with
      | error e => simp
      | ok data => cases envelope.senderDevice <;> simp

theorem decryptPlaintextContent_ret {parts : DecryptedPayload}
    (returned : ((decryptPlaintextContent X envelope ciphertext source).run h s).exit =
      .ret parts) :
    ∃ padded data device, X.plaintextContentBody ciphertext = .ok padded ∧
      stripPadding padded = .ok data ∧ envelope.senderDevice = some device ∧
      parts = ⟨data, source, device, true, false, false⟩ := by
  rw [decryptPlaintextContent_eq] at returned
  cases body : X.plaintextContentBody ciphertext with
  | error e => simp [body] at returned
  | ok padded =>
      cases stripped : stripPadding padded with
      | error e => simp [body, stripped] at returned
      | ok data =>
          cases device : envelope.senderDevice with
          | none => simp [body, stripped, device] at returned
          | some device' =>
              simp [body, stripped, device] at returned
              exact ⟨padded, data, device', rfl, stripped, rfl, returned.symm⟩

theorem decryptParts_unsealed (type : envelope.envelopeType = .plaintextContent) :
    decryptParts X cipher envelope ciphertext (some source) =
      decryptPlaintextContent X envelope ciphertext source := by
  simp [decryptParts, type, expectSource, Prog.ofOption]

theorem decryptParts_unsealed_anonymous (type : envelope.envelopeType = .plaintextContent) :
    decryptParts X cipher envelope ciphertext none =
      .done (.panic "prekey bundle format contains source_service_id") := by
  simp [decryptParts, type, expectSource, Prog.ofOption]

theorem noExpectFails_unsealed_iff (type : envelope.envelopeType = .plaintextContent)
    (isLocal : X.parseServiceIdString cipher.localAddress.name = some localId) :
    NoExpectFails X h cipher envelope s ↔
      (envelope.content.isSome → checkHeader X localId envelope ≠ .ok none) := by
  constructor
  · intro fine present
    obtain ⟨ciphertext, content⟩ := Option.isSome_iff_exists.mp present
    exact fine.hasSource localId ciphertext isLocal content type
  · intro named
    refine ⟨⟨localId, isLocal⟩, ?_, ?_⟩
    · intro localId' ciphertext isLocal' content _
      have same : localId' = localId := Option.some.inj (isLocal'.symm.trans isLocal)
      rw [same]
      exact named (by simp [content])
    · intro _ _ _ _ _ _ _ _ sealedType
      rw [type] at sealedType
      cases sealedType

theorem UnsealedPlaintext.noExpectFails (p : UnsealedPlaintext X cipher envelope) :
    NoExpectFails X h cipher envelope s := by
  rw [noExpectFails_unsealed_iff X p.type p.isLocal, p.header]
  intro _
  simp

/-- An unsealed plaintext that opens is delivered under its envelope's source, flagged. -/
theorem openEnvelope_unsealed_of (keeps : h.KeepsOnReads)
    (p : UnsealedPlaintext X cipher envelope) :
    ∃ plaintext : Plaintext, plaintext.message = p.message ∧
      plaintext.metadata.sender = p.source ∧ plaintext.metadata.senderDevice = p.device ∧
      plaintext.metadata.wasPlaintext = true ∧
      ((openEnvelope X cipher envelope).run h s).exit =
        ((deliver X p.localId plaintext).run h s).exit ∧
      ((openEnvelope X cipher envelope).run h s).state =
        ((deliver X p.localId plaintext).run h s).state := by
  have parts : decryptParts X cipher envelope p.ciphertext (some p.source) =
      .done (.ret ⟨p.data, p.source, p.device, true, false, false⟩) := by
    rw [decryptParts_unsealed X p.type, decryptPlaintextContent_eq]
    simp [p.body, p.stripped, p.sentFrom]
  obtain ⟨plaintext, decoded, -, isOf, exit, state⟩ | ⟨-, -, unread⟩ :=
    openEnvelope_of_parts X p.isLocal keeps p.content p.header (by rw [parts]; rfl)
      (by rw [parts]; rfl)
  · have message : plaintext.message = p.message :=
      Option.some.inj (decoded.symm.trans p.decoded)
    exact ⟨plaintext, message, isOf.sender, isOf.senderDevice, isOf.wasPlaintext, exit, state⟩
  · exact absurd ⟨p.message, p.decoded, p.timestamps⟩ unread

/-- With a source at hand, an unsealed plaintext that does not open is an error. -/
theorem openEnvelope_unsealed_sourced (keeps : h.KeepsOnReads)
    (type : envelope.envelopeType = .plaintextContent)
    (isLocal : X.parseServiceIdString cipher.localAddress.name = some localId)
    (content : envelope.content = some ciphertext)
    (header : checkHeader X localId envelope = .ok (some source))
    (unopened : UnsealedPlaintext X cipher envelope → False) :
    ((openEnvelope X cipher envelope).run h s).state = s ∧
      OnlyDecryptionError ((openEnvelope X cipher envelope).run h s).exit := by
  have kept : ((decryptParts X cipher envelope ciphertext (some source)).run h s).state = s := by
    rw [decryptParts_unsealed X type, decryptPlaintextContent_eq]
    rfl
  cases opened : ((decryptParts X cipher envelope ciphertext (some source)).run h s).exit with
  | throw e =>
      rw [openEnvelope_state_of_failed X isLocal content header (by simp [opened]), kept,
        openEnvelope_of_throw X isLocal content header opened]
      exact ⟨rfl, trivial⟩
  | panic m =>
      rw [decryptParts_unsealed X type] at opened
      exact absurd opened (decryptPlaintextContent_not_panic X)
  | ret parts =>
      obtain ⟨plaintext, decoded, timestamps, -⟩ | ⟨⟨e, exit⟩, state, -⟩ :=
        openEnvelope_of_parts X isLocal keeps content header opened kept
      · rw [decryptParts_unsealed X type] at opened
        obtain ⟨padded, data, device, body, stripped, sentFrom, rfl⟩ :=
          decryptPlaintextContent_ret X opened
        exact (unopened ⟨localId, ciphertext, source, padded, data, device, plaintext.message,
          isLocal, content, type, header, body, stripped, sentFrom, decoded, timestamps⟩).elim
      · rw [exit]
        exact ⟨state, trivial⟩

/-- An unsealed plaintext that does not open is not delivered, and the store stays as it
    was; whether that is an answer or a panic is up to the `expect`s. -/
theorem openEnvelope_unsealed_unopened (keeps : h.KeepsOnReads)
    (type : envelope.envelopeType = .plaintextContent)
    (unopened : UnsealedPlaintext X cipher envelope → False) :
    ((openEnvelope X cipher envelope).run h s).state = s ∧
      (OnlyDecryptionError ((openEnvelope X cipher envelope).run h s).exit ↔
        NoExpectFails X h cipher envelope s) := by
  cases isLocal : X.parseServiceIdString cipher.localAddress.name with
  | none =>
      rw [openEnvelope_not_local X isLocal]
      refine ⟨rfl, iff_of_false id fun fine => ?_⟩
      obtain ⟨localId, named⟩ := fine.isLocal
      simp [isLocal] at named
  | some localId =>
      rw [noExpectFails_unsealed_iff X type isLocal]
      cases content : envelope.content with
      | none =>
          rw [openEnvelope_no_content X isLocal content]
          exact ⟨rfl, iff_of_true trivial (by simp)⟩
      | some ciphertext =>
          cases header : checkHeader X localId envelope with
          | error e =>
              rw [openEnvelope_bad_header X isLocal content header]
              exact ⟨rfl, iff_of_true trivial (by simp)⟩
          | ok source =>
              cases source with
              | none =>
                  rw [openEnvelope_eq X isLocal content header,
                    decryptParts_unsealed_anonymous X type]
                  exact ⟨rfl, iff_of_false id (by simp)⟩
              | some source =>
                  have sourced : Option.isSome (some ciphertext) = true →
                      (Except.ok (some source) : Except ServiceError _) ≠ .ok none := by simp
                  simp only [iff_true_right sourced]
                  exact openEnvelope_unsealed_sourced X keeps type isLocal content header unopened

end Unsealed

/-! ### Sealed -/

section SealedEnvelope

variable {localId : ServiceId} {ciphertext : Bytes} {usmc : UnidentifiedSenderMessageContent}

theorem noExpectFails_sealed_iff (type : envelope.envelopeType = .unidentifiedSender)
    (isLocal : X.parseServiceIdString cipher.localAddress.name = some localId)
    (content : envelope.content = some ciphertext)
    (unsealed : (h (.sealedSenderDecryptToUsmc ciphertext) s).1 = .ok usmc) :
    NoExpectFails X h cipher envelope s ↔
      ∀ source, checkHeader X localId envelope = .ok source →
        ¬ ∃ m, sealedSenderAddress X cipher.trustRoots (envelope.clientTimestamp.getD 0) none
          cipher.localAddress usmc = .panic m := by
  constructor
  · intro fine source header panics
    obtain ⟨certificate, uuid, sender, valid, isUuid, malformed⟩ :=
      (sealedSenderAddress_panic_iff X isLocal).mp panics
    exact fine.certified localId ciphertext source usmc certificate uuid isLocal content type
      header unsealed sender valid isUuid malformed
  · intro trusted
    refine ⟨⟨localId, isLocal⟩, ?_, ?_⟩
    · intro _ _ _ _ unsealedType
      rw [type] at unsealedType
      cases unsealedType
    · intro localId' ciphertext' source usmc' certificate uuid isLocal' content' _ header
        unsealed' sender valid isUuid malformed
      have sameLocal : localId' = localId := Option.some.inj (isLocal'.symm.trans isLocal)
      have sameCiphertext : ciphertext' = ciphertext :=
        Option.some.inj (content'.symm.trans content)
      subst sameLocal sameCiphertext
      have sameUsmc : usmc' = usmc := Except.ok.inj (unsealed'.symm.trans unsealed)
      subst sameUsmc
      exact trusted source header ((sealedSenderAddress_panic_iff X isLocal).mpr
        ⟨certificate, uuid, sender, valid, isUuid, malformed⟩)

theorem SealedPlaintext.noExpectFails (p : SealedPlaintext X h cipher envelope s) :
    NoExpectFails X h cipher envelope s := by
  rw [noExpectFails_sealed_iff X p.type p.isLocal p.content p.payload.unsealed]
  rintro _ _ ⟨m, panics⟩
  rw [p.payload.trusted] at panics
  cases panics

theorem decryptParts_sealed (type : envelope.envelopeType = .unidentifiedSender)
    (source : Option ServiceId) :
    decryptParts X cipher envelope ciphertext source =
      decryptUnidentifiedSender X cipher envelope ciphertext source := by
  simp [decryptParts, type]

/-- A sealed plaintext that opens is delivered under its certificate's sender, but not
    flagged. -/
theorem openEnvelope_sealed_of (keeps : h.KeepsOnReads)
    (p : SealedPlaintext X h cipher envelope s) :
    ∃ plaintext : Plaintext, plaintext.message = p.message ∧
      plaintext.metadata.sender = p.payload.sender ∧
      plaintext.metadata.senderDevice = p.payload.remote.deviceId ∧
      plaintext.metadata.wasPlaintext = false ∧
      ((openEnvelope X cipher envelope).run h s).exit =
        ((deliver X p.localId plaintext).run h s).exit := by
  obtain ⟨plaintext, decoded, -, isOf, exit, -⟩ | ⟨-, -, unread⟩ :=
    openEnvelope_of_parts X p.isLocal keeps p.content p.header
      (by rw [decryptParts_sealed X p.type]; exact decryptUnidentifiedSender_of X keeps p.payload)
      (by
        rw [decryptParts_sealed X p.type]
        exact decryptUnidentifiedSender_state X keeps p.payload.unsealed p.payload.plain)
  · have message : plaintext.message = p.message :=
      Option.some.inj (decoded.symm.trans p.decoded)
    exact ⟨plaintext, message, isOf.sender, isOf.senderDevice, isOf.wasPlaintext, exit⟩
  · exact absurd ⟨p.message, p.decoded, p.timestamps⟩ unread

theorem openEnvelope_sealed_unopened (keeps : h.KeepsOnReads)
    (type : envelope.envelopeType = .unidentifiedSender)
    (content : envelope.content = some ciphertext)
    (unsealed : (h (.sealedSenderDecryptToUsmc ciphertext) s).1 = .ok usmc)
    (plain : usmc.msgType = .ok .plaintext)
    (unopened : SealedPlaintext X h cipher envelope s → False) :
    OnlyDecryptionError ((openEnvelope X cipher envelope).run h s).exit ↔
      NoExpectFails X h cipher envelope s := by
  cases isLocal : X.parseServiceIdString cipher.localAddress.name with
  | none =>
      rw [openEnvelope_not_local X isLocal]
      refine iff_of_false id fun fine => ?_
      obtain ⟨localId, named⟩ := fine.isLocal
      simp [isLocal] at named
  | some localId =>
      rw [noExpectFails_sealed_iff X type isLocal content unsealed]
      cases header : checkHeader X localId envelope with
      | error e =>
          rw [openEnvelope_bad_header X isLocal content header]
          exact iff_of_true trivial (by simp)
      | ok source =>
          simp only [Except.ok.injEq, forall_eq']
          have parts : decryptParts X cipher envelope ciphertext source =
              decryptUnidentifiedSender X cipher envelope ciphertext source :=
            decryptParts_sealed X type source
          rw [← decryptUnidentifiedSender_panic_iff X source unsealed, ← parts]
          cases opened : ((decryptParts X cipher envelope ciphertext source).run h s).exit with
          | throw e =>
              rw [openEnvelope_of_throw X isLocal content header opened]
              exact iff_of_true trivial (by simp)
          | panic m =>
              rw [openEnvelope_of_panic X isLocal content header opened]
              exact iff_of_false id fun trusted => trusted ⟨m, rfl⟩
          | ret parts' =>
              have kept : ((decryptParts X cipher envelope ciphertext source).run h s).state = s := by
                rw [parts]
                exact decryptUnidentifiedSender_state X keeps unsealed plain
              obtain ⟨plaintext, decoded, timestamps, -⟩ | ⟨⟨e, exit⟩, -, -⟩ :=
                openEnvelope_of_parts X isLocal keeps content header opened kept
              · rw [parts] at opened
                obtain ⟨payload, rfl⟩ := decryptUnidentifiedSender_ret X keeps unsealed plain opened
                exact (unopened ⟨localId, ciphertext, source, plaintext.message, isLocal, content,
                  type, header, payload, decoded, timestamps⟩).elim
              · rw [exit]
                exact iff_of_true trivial (by simp)

end SealedEnvelope

/-- The body of a sealed plaintext is a decryption error, or a sync message that the
    source filter drops. -/
def SealedPlaintext.Harmless {X : Externals} (p : SealedPlaintext X h cipher envelope s) : Prop :=
  ∀ body, p.message.content = some body →
    body.IsDecryptionErrorMessage ∨ Foreign p.localId p.payload.sender body

theorem openEnvelope_sealed_iff (keeps : h.KeepsOnReads)
    (p : SealedPlaintext X h cipher envelope s) :
    OnlyDecryptionError ((openEnvelope X cipher envelope).run h s).exit ↔
      (SenderKeyAccepted X h s p.payload.sender p.payload.remote.deviceId p.message →
        p.Harmless) := by
  obtain ⟨plaintext, message, sender, device, unflagged, exit⟩ := openEnvelope_sealed_of X keeps p
  rw [exit, deliver_onlyDecryptionError_iff, admitContent_unflagged X unflagged, message, sender,
    device]
  rfl

theorem openEnvelope_unsealed_harmless (keeps : h.KeepsOnReads)
    (p : UnsealedPlaintext X cipher envelope) :
    OnlyDecryptionError ((openEnvelope X cipher envelope).run h s).exit := by
  obtain ⟨plaintext, -, -, -, flagged, exit, -⟩ := openEnvelope_unsealed_of X keeps p
  rw [exit, deliver_onlyDecryptionError_iff]
  intro _ content admitted
  exact admitContent_wasPlaintext X flagged admitted

/-- Unencrypted content reaches the application as a decryption error or not at all,
    exactly when no `expect` fails and a sealed plaintext whose sender key is accepted
    holds nothing else. The unsealed type needs no such condition: only its branch sets
    the flag that is checked. -/
theorem openEnvelope_onlyDecryptionError_iff (keeps : h.KeepsOnReads)
    (plain : InnermostPlaintext h envelope s) :
    OnlyDecryptionError ((openEnvelope X cipher envelope).run h s).exit ↔
      NoExpectFails X h cipher envelope s ∧
        ∀ p : SealedPlaintext X h cipher envelope s,
          SenderKeyAccepted X h s p.payload.sender p.payload.remote.deviceId p.message →
            p.Harmless := by
  cases plain with
  | unsealed type =>
      have noSealed : SealedPlaintext X h cipher envelope s → False := by
        intro p
        have clash := p.type
        rw [type] at clash
        cases clash
      by_cases opened : Nonempty (UnsealedPlaintext X cipher envelope)
      · obtain ⟨p⟩ := opened
        exact iff_of_true (openEnvelope_unsealed_harmless X keeps p)
          ⟨p.noExpectFails, fun q => (noSealed q).elim⟩
      · obtain ⟨-, onlyErrors⟩ :=
          openEnvelope_unsealed_unopened X keeps type (s := s) fun p => opened ⟨p⟩
        rw [onlyErrors]
        exact ⟨fun fine => ⟨fine, fun q => (noSealed q).elim⟩, fun fine => fine.1⟩
  | sealedInside type content unsealed plain =>
      by_cases opened : Nonempty (SealedPlaintext X h cipher envelope s)
      · obtain ⟨p⟩ := opened
        constructor
        · intro onlyErrors
          exact ⟨p.noExpectFails, fun q => (openEnvelope_sealed_iff X keeps q).mp onlyErrors⟩
        · rintro ⟨-, harmless⟩
          exact (openEnvelope_sealed_iff X keeps p).mpr (harmless p)
      · rw [openEnvelope_sealed_unopened X keeps type content unsealed plain fun p => opened ⟨p⟩]
        exact ⟨fun fine => ⟨fine, fun p => (opened ⟨p⟩).elim⟩, fun fine => fine.1⟩

/-! A data message sealed as plaintext: the flag is not set, so it goes through. -/

namespace Sample

def remoteCertificate : SenderCertificate where
  senderUuid := .ok "6838237d-e02b-4191-8587-b3c5eb9b8b4e"
  senderE164 := .ok none
  senderDeviceId := .ok defaultDeviceId
  serialized := [7]

def sealedData : UnidentifiedSenderMessageContent where
  msgType := .ok .plaintext
  sender := .ok remoteCertificate
  contents := .ok (0xC0 :: Reference.dataContentBytes ++ [0x80])

def localCipher : ServiceCipher where
  trustRoots := [⟨[7]⟩]
  localAddress := ⟨"9d0652a3-dcc3-4d11-975f-74d61598733f", defaultDeviceId⟩

def sealedEnvelope : Envelope where
  type := some 6
  destinationServiceId := some "9d0652a3-dcc3-4d11-975f-74d61598733f"
  clientTimestamp := some 1700000000000
  serverTimestamp := some 1700000000001
  content := some [0x11]

/-- Any sealed envelope opens to the data message. -/
def sealedDataEnv : Env Unit := fun c s =>
  (match c with
    | .sealedSenderDecryptToUsmc _ => .ok sealedData
    | c => c.fallback, s)

theorem sealedDataEnv_keeps : sealedDataEnv.KeepsOnReads := fun _ _ _ => rfl

theorem sealedEnvelope_plaintext : InnermostPlaintext sealedDataEnv sealedEnvelope () :=
  .sealedInside rfl rfl rfl rfl

end Sample

theorem openEnvelope_hands_out_sealed_data :
    Sample.sealedDataEnv.KeepsOnReads ∧
      InnermostPlaintext Sample.sealedDataEnv Sample.sealedEnvelope () ∧
      ¬ OnlyDecryptionError ((openEnvelope reference Sample.localCipher
        Sample.sealedEnvelope).run Sample.sealedDataEnv ()).exit := by
  refine ⟨Sample.sealedDataEnv_keeps, Sample.sealedEnvelope_plaintext, ?_⟩
  have handed : ∃ metadata, ((openEnvelope reference Sample.localCipher
      Sample.sealedEnvelope).run Sample.sealedDataEnv ()).exit =
        .ret (some ⟨metadata, .dataMessage ⟨none, []⟩⟩) := ⟨_, rfl⟩
  obtain ⟨metadata, exit⟩ := handed
  rw [exit]
  exact id

theorem openEnvelope_onlyDecryptionError_iff_sealed_data :
    Sample.sealedDataEnv.KeepsOnReads ∧
      InnermostPlaintext Sample.sealedDataEnv Sample.sealedEnvelope () ∧
      (OnlyDecryptionError ((openEnvelope reference Sample.localCipher
          Sample.sealedEnvelope).run Sample.sealedDataEnv ()).exit ↔
        NoExpectFails reference Sample.sealedDataEnv Sample.localCipher Sample.sealedEnvelope () ∧
          ∀ p : SealedPlaintext reference Sample.sealedDataEnv Sample.localCipher
              Sample.sealedEnvelope (),
            SenderKeyAccepted reference Sample.sealedDataEnv () p.payload.sender
              p.payload.remote.deviceId p.message → p.Harmless) :=
  ⟨Sample.sealedDataEnv_keeps, Sample.sealedEnvelope_plaintext,
    openEnvelope_onlyDecryptionError_iff reference Sample.sealedDataEnv_keeps
      Sample.sealedEnvelope_plaintext⟩

/-- Opening an unsealed plaintext leaves the state as it was exactly when it carries no
    sender key whose processing changes it. -/
theorem openEnvelope_unsealed_state_iff (keeps : h.KeepsOnReads)
    (type : envelope.envelopeType = .plaintextContent) :
    ((openEnvelope X cipher envelope).run h s).state = s ↔
      ∀ (p : UnsealedPlaintext X cipher envelope) (bytes : Bytes)
        (skdm : SenderKeyDistributionMessage),
        p.message.senderKeyDistributionMessage = some bytes →
        X.senderKeyDistributionMessage bytes = .ok skdm →
        (h (.processSenderKeyDistributionMessage (X.protocolAddress p.source p.device) skdm)
          s).2 = s := by
  constructor
  · intro kept p bytes skdm carried parsed
    obtain ⟨plaintext, message, sender, device, -, -, state⟩ := openEnvelope_unsealed_of X keeps p
    rw [state, deliver_state, ingestSenderKey_state, message, sender, device, carried] at kept
    simpa only [parsed] using kept
  · intro harmless
    by_cases opened : Nonempty (UnsealedPlaintext X cipher envelope)
    · obtain ⟨p⟩ := opened
      obtain ⟨plaintext, message, sender, device, -, -, state⟩ :=
        openEnvelope_unsealed_of X keeps p
      rw [state, deliver_state, ingestSenderKey_state, message, sender, device]
      cases carried : p.message.senderKeyDistributionMessage with
      | none => rfl
      | some bytes =>
          dsimp only
          cases parsed : X.senderKeyDistributionMessage bytes with
          | error e => rfl
          | ok skdm => exact harmless p bytes skdm carried parsed
    · exact (openEnvelope_unsealed_unopened X keeps type fun p => opened ⟨p⟩).1

/-! A sender key in an unsealed plaintext: it is stored before the body is looked at. -/

namespace Sample

def senderKeyEnvelope : Envelope where
  type := some 8
  sourceServiceId := some "6838237d-e02b-4191-8587-b3c5eb9b8b4e"
  sourceDeviceId := some 1
  destinationServiceId := some "9d0652a3-dcc3-4d11-975f-74d61598733f"
  clientTimestamp := some 1700000000000
  serverTimestamp := some 1700000000001
  content := some (0xC0 :: Reference.senderKeyContentBytes ++ [0x80])

/-- A sender key store, newest key first. -/
def senderKeyEnv : Env (List (ProtocolAddress × SenderKeyDistributionMessage)) := fun c s =>
  (c.fallback, match c with
    | .processSenderKeyDistributionMessage sender skdm => (sender, skdm) :: s
    | _ => s)

theorem senderKeyEnv_keeps : senderKeyEnv.KeepsOnReads := by
  intro c reads s
  cases c with
  | processSenderKeyDistributionMessage sender skdm => exact reads.elim
  | _ => rfl

end Sample

theorem openEnvelope_stores_unsealed_sender_key :
    Sample.senderKeyEnv.KeepsOnReads ∧
      Sample.senderKeyEnvelope.envelopeType = .plaintextContent ∧
      ((openEnvelope reference Sample.localCipher Sample.senderKeyEnvelope).run
        Sample.senderKeyEnv []).state =
          [(⟨"6838237d-e02b-4191-8587-b3c5eb9b8b4e", defaultDeviceId⟩,
            ⟨Reference.senderKeyBytes⟩)] ∧
      ((openEnvelope reference Sample.localCipher Sample.senderKeyEnvelope).run
        Sample.senderKeyEnv []).state ≠ [] := by
  have stored : ((openEnvelope reference Sample.localCipher Sample.senderKeyEnvelope).run
      Sample.senderKeyEnv []).state =
        [(⟨"6838237d-e02b-4191-8587-b3c5eb9b8b4e", defaultDeviceId⟩,
          ⟨Reference.senderKeyBytes⟩)] := by decide +kernel
  refine ⟨Sample.senderKeyEnv_keeps, rfl, stored, ?_⟩
  rw [stored]
  simp

theorem openEnvelope_unsealed_state_iff_sender_key :
    Sample.senderKeyEnv.KeepsOnReads ∧
      Sample.senderKeyEnvelope.envelopeType = .plaintextContent ∧
      (((openEnvelope reference Sample.localCipher Sample.senderKeyEnvelope).run
          Sample.senderKeyEnv []).state = [] ↔
        ∀ (p : UnsealedPlaintext reference Sample.localCipher Sample.senderKeyEnvelope)
          (bytes : Bytes) (skdm : SenderKeyDistributionMessage),
          p.message.senderKeyDistributionMessage = some bytes →
          reference.senderKeyDistributionMessage bytes = .ok skdm →
          (Sample.senderKeyEnv (.processSenderKeyDistributionMessage
            (reference.protocolAddress p.source p.device) skdm) []).2 = []) :=
  ⟨Sample.senderKeyEnv_keeps, rfl,
    openEnvelope_unsealed_state_iff reference Sample.senderKeyEnv_keeps rfl⟩

end Envelope

end SignalService

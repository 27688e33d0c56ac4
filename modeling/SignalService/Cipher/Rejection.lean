import SignalService.Cipher.Admission
import SignalService.Cipher.Routes

/-! # Envelopes that are turned away

An envelope can be malformed in many ways. `open_envelope` should answer each of them with an
error, and one that it calls an invalid frame should not have touched the store. Neither
holds: a missing sender is a panic, and some checks are made only after the message has been
decrypted. Both are described exactly here.
-/

namespace SignalService

open Effect Prog

/-! ## Panics -/

/-- The types whose sender is in the envelope. -/
def EnvelopeType.NamesSender : EnvelopeType → Prop
  | .prekeyMessage | .doubleRatchet | .plaintextContent => True
  | _ => False

section Panics

variable {X : Externals} {σ : Type} {h : Env σ} {s : σ} {cipher : ServiceCipher}
  {envelope : Envelope} {ciphertext : Bytes} {source : Option ServiceId}

theorem decryptParts_panics_iff :
    (∃ m, ((decryptParts X cipher envelope ciphertext source).run h s).exit = .panic m) ↔
      (envelope.envelopeType.NamesSender ∧ source = none) ∨
      (envelope.envelopeType = .unidentifiedSender ∧
        ∃ usmc m, (h (.sealedSenderDecryptToUsmc ciphertext) s).1 = .ok usmc ∧
          sealedSenderAddress X cipher.trustRoots (envelope.clientTimestamp.getD 0) none
            cipher.localAddress usmc = .panic m) := by
  cases type : envelope.envelopeType with
  | unidentifiedSender =>
      rw [decryptParts_sealed X type, decryptUnidentifiedSender_panics_iff]
      simp [EnvelopeType.NamesSender]
  | unknown | serverDeliveryReceipt =>
      simp [decryptParts, type, EnvelopeType.NamesSender]
  | plaintextContent =>
      cases source with
      | none => simp [decryptParts_unsealed_anonymous X type, EnvelopeType.NamesSender]
      | some id =>
          simp [decryptParts_unsealed X type, decryptPlaintextContent_not_panic]
  | prekeyMessage | doubleRatchet =>
      obtain ⟨msgType, inner⟩ := envelope.exists_inner (by simp [type])
      rw [decryptParts_identified X inner]
      cases source with
      | none => simp [expectSource, Prog.ofOption, EnvelopeType.NamesSender]
      | some id =>
          have free : ((expectSource (some id)).bind fun id => (expectSenderDevice envelope).bind
              fun device => decryptIdentified X (fun sender => sealedSenderDecryptMessage X msgType
                ciphertext sender cipher.localAddress) id device).PanicFree :=
            PanicFree.bind trivial fun id => (panicFree_ofOption _ _).bind fun device =>
              decryptIdentified_panicFree (fun sender =>
                sealedSenderDecryptMessage_panicFree msgType ciphertext sender _) id device
          simp [free.run]

/-- The sender can be told from the envelope, where the envelope has to name it, and else
    from its certificate. -/
structure SenderKnown (X : Externals) (h : Env σ) (cipher : ServiceCipher) (envelope : Envelope)
    (localId : ServiceId) (s : σ) : Prop where
  /-- "prekey bundle format contains source_service_id" -/
  source : envelope.content ≠ none → envelope.envelopeType.NamesSender →
    checkHeader X localId envelope ≠ .ok none
  /-- "valid uuid" -/
  certificate : ∀ ciphertext source usmc certificate uuid, envelope.content = some ciphertext →
    envelope.envelopeType = .unidentifiedSender → checkHeader X localId envelope = .ok source →
    (h (.sealedSenderDecryptToUsmc ciphertext) s).1 = .ok usmc → usmc.sender = .ok certificate →
    X.validateWithTrustRoots certificate cipher.trustRoots (envelope.clientTimestamp.getD 0) =
      .ok true →
    certificate.senderUuid = .ok uuid → X.parseUuid uuid ≠ none

variable {localId : ServiceId}

/-- Nothing after the dispatch panics. -/
theorem openEnvelope_panics_of_header
    (isLocal : X.parseServiceIdString cipher.localAddress.name = some localId)
    (present : envelope.content = some ciphertext)
    (header : checkHeader X localId envelope = .ok source) :
    (∃ m, ((openEnvelope X cipher envelope).run h s).exit = .panic m) ↔
      ∃ m, ((decryptParts X cipher envelope ciphertext source).run h s).exit = .panic m := by
  constructor
  · rintro ⟨m, panics⟩
    rw [openEnvelope_eq X isLocal present header, run_bind_exit] at panics
    obtain panics | ⟨plaintext, -, never⟩ := Exit.bind_eq_panic.mp panics
    · rw [run_bind_exit] at panics
      obtain panics | ⟨parts, -, never⟩ := Exit.bind_eq_panic.mp panics
      · exact ⟨m, panics⟩
      · exact absurd never (finishDecrypt_not_panic X h _ localId envelope parts m)
    · exact absurd never (deliver_not_panic X h _ localId plaintext m)
  · rintro ⟨m, panics⟩
    exact ⟨m, openEnvelope_of_panic X isLocal present header panics⟩

theorem openEnvelope_panics_iff
    (isLocal : X.parseServiceIdString cipher.localAddress.name = some localId) :
    (∃ m, ((openEnvelope X cipher envelope).run h s).exit = .panic m) ↔
      ¬ SenderKnown X h cipher envelope localId s := by
  cases present : envelope.content with
  | none =>
      rw [openEnvelope_no_content X isLocal present]
      have known : SenderKnown X h cipher envelope localId s :=
        ⟨fun some => absurd present some, fun ciphertext _ _ _ _ found => by
          rw [present] at found
          cases found⟩
      simp [known]
  | some ciphertext =>
      cases header : checkHeader X localId envelope with
      | error e =>
          rw [openEnvelope_bad_header X isLocal present header]
          have known : SenderKnown X h cipher envelope localId s :=
            ⟨fun _ _ => by simp [header], fun _ _ _ _ _ _ _ found => by
              rw [header] at found
              cases found⟩
          simp [known]
      | ok source =>
          rw [openEnvelope_panics_of_header isLocal present header, decryptParts_panics_iff]
          constructor
          · rintro (⟨names, rfl⟩ | ⟨type, usmc, m, opened, panics⟩) known
            · exact known.source (by simp [present]) names header
            · obtain ⟨certificate, uuid, sender, valid, named, unparsed⟩ :=
                (sealedSenderAddress_panic_iff X isLocal).mp ⟨m, panics⟩
              exact known.certificate _ _ _ _ _ present type header opened sender valid named
                unparsed
          · intro unknown
            by_contra fine
            rw [not_or] at fine
            apply unknown
            constructor
            · intro _ names missing
              rw [header] at missing
              exact fine.1 ⟨names, Except.ok.inj missing⟩
            · intro ciphertext' source' usmc certificate uuid found type header' opened sender valid
                named unparsed
              obtain rfl : ciphertext = ciphertext' := Option.some.inj (present.symm.trans found)
              obtain ⟨m, panics⟩ := (sealedSenderAddress_panic_iff X isLocal).mpr
                ⟨certificate, uuid, sender, valid, named, unparsed⟩
              exact fine.2 ⟨type, usmc, m, opened, panics⟩

/-- The envelope does not say who sent it, or its certificate names what is no account. -/
def SenderMissing (X : Externals) (h : Env σ) (cipher : ServiceCipher) (envelope : Envelope)
    (s : σ) : Prop :=
  (envelope.envelopeType.NamesSender ∧ envelope.parseSourceServiceId X = none) ∨
  (envelope.envelopeType = .unidentifiedSender ∧
    ∃ ciphertext usmc certificate uuid, envelope.content = some ciphertext ∧
      (h (.sealedSenderDecryptToUsmc ciphertext) s).1 = .ok usmc ∧
      usmc.sender = .ok certificate ∧
      X.validateWithTrustRoots certificate cipher.trustRoots (envelope.clientTimestamp.getD 0) =
        .ok true ∧
      certificate.senderUuid = .ok uuid ∧ X.parseUuid uuid = none)

/-- Where the sender is missing but no panic comes of it, the header was refused before. -/
theorem SenderKnown.header_refused (known : SenderKnown X h cipher envelope localId s)
    (present : envelope.content = some ciphertext)
    (missing : SenderMissing X h cipher envelope s) :
    ∃ e, checkHeader X localId envelope = .error e := by
  cases header : checkHeader X localId envelope with
  | error e => exact ⟨e, rfl⟩
  | ok source =>
      rcases missing with ⟨names, anonymous⟩ |
        ⟨type, ciphertext, usmc, certificate, uuid, found, opened, sender, valid, named, unparsed⟩
      · obtain rfl : source = none := (checkHeader_checked header).named.symm.trans anonymous
        exact absurd header (known.source (by simp [present]) names)
      · exact absurd unparsed
          (known.certificate _ _ _ _ _ found type header opened sender valid named)

/-- Every envelope gets an answer, and one with a message but no sender an error, exactly
    as long as the sender is known where it is expected. -/
theorem openEnvelope_answers_iff
    (isLocal : X.parseServiceIdString cipher.localAddress.name = some localId) :
    (∃ result, ((openEnvelope X cipher envelope).run h s).exit = .ofExcept result ∧
        (envelope.content ≠ none → SenderMissing X h cipher envelope s →
          ∃ e, result = .error e)) ↔
      SenderKnown X h cipher envelope localId s := by
  constructor
  · rintro ⟨result, answered, -⟩
    by_contra unknown
    obtain ⟨m, panics⟩ := (openEnvelope_panics_iff isLocal).mpr unknown
    rw [answered] at panics
    exact Exit.ofExcept_ne_panic panics
  · intro known
    obtain ⟨result, answered⟩ | ⟨m, panics⟩ :=
      Exit.result_or_panic ((openEnvelope X cipher envelope).run h s).exit
    · apply Exists.intro result
      apply And.intro answered
      intro some missing
      obtain ⟨ciphertext, present⟩ := Option.ne_none_iff_exists'.mp some
      obtain ⟨e, refused⟩ := known.header_refused present missing
      rw [openEnvelope_bad_header X isLocal present refused, run_done] at answered
      exact ⟨e, Exit.ofExcept_eq_throw.mp answered.symm⟩
    · exact absurd known ((openEnvelope_panics_iff isLocal).mp ⟨m, panics⟩)

end Panics

/-! A ciphertext without a sender, and one whose certificate names its sender by no UUID. -/

namespace Sample

def anonymousEnvelope : Envelope where
  type := some 3
  destinationServiceId := some "9d0652a3-dcc3-4d11-975f-74d61598733f"
  clientTimestamp := some 1700000000000
  serverTimestamp := some 1700000000001
  content := some [0x33]

/-- Any sealed envelope opens to a message that is certified to be from `uuid`. -/
def certifiedEnv (uuid : String) : Env Unit := fun c s =>
  (match c with
    | .sealedSenderDecryptToUsmc _ =>
        .ok { sealedData with sender := .ok { remoteCertificate with senderUuid := .ok uuid } }
    | c => c.fallback, s)

end Sample

theorem openEnvelope_panics_without_sender :
    (∀ result, ((openEnvelope reference Sample.localCipher Sample.anonymousEnvelope).run
        (Sample.certifiedEnv "alice") ()).exit ≠ .ofExcept result) ∧
      ∀ result, ((openEnvelope reference Sample.localCipher Sample.sealedEnvelope).run
        (Sample.certifiedEnv "alice") ()).exit ≠ .ofExcept result := by
  constructor
  · intro result answered
    exact Exit.ofExcept_ne_panic (m := "prekey bundle format contains source_service_id")
      answered.symm
  · intro result answered
    exact Exit.ofExcept_ne_panic (m := "valid uuid") answered.symm

theorem sealed_data_answered :
    (∃ result, ((openEnvelope reference Sample.localCipher Sample.sealedEnvelope).run
        Sample.sealedDataEnv ()).exit = .ofExcept result ∧
        (Sample.sealedEnvelope.content ≠ none →
          SenderMissing reference Sample.sealedDataEnv Sample.localCipher Sample.sealedEnvelope () →
          ∃ e, result = .error e)) ↔
      SenderKnown reference Sample.sealedDataEnv Sample.localCipher Sample.sealedEnvelope
        (.aci Reference.localAci) () :=
  openEnvelope_answers_iff (by decide +kernel)

/-! ## Invalid frames -/

section InvalidFrame

variable {X : Externals} {σ : Type} {h : Env σ} {s : σ} {cipher : ServiceCipher}
  {envelope : Envelope} {ciphertext : Bytes} {source : Option ServiceId} {localId : ServiceId}

/-- Delivery can fail, but not with that. -/
theorem deliver_not_invalidFrame {plaintext : Plaintext} (reason : String) :
    ((deliver X localId plaintext).run h s).exit ≠ .throw (.invalidFrame reason) := by
  rw [deliver_exit]
  intro threw
  obtain threw | ⟨_, -, threw⟩ := Exit.bind_eq_throw.mp threw
  · unfold ingestSenderKey at threw
    cases found : plaintext.message.senderKeyDistributionMessage with
    | none => simp [found] at threw
    | some bytes =>
        cases parsed : X.senderKeyDistributionMessage bytes with
        | error e => simp [found, Prog.ofExcept, parsed] at threw
        | ok skdm =>
            simp only [found, Prog.ofExcept, parsed, Async.await, bind_eq, done_mapErr,
              Exit.ofExcept_ok, Exit.mapErr_ret, ret_bind, call_mapErr, call_bind, run_call_exit,
              id_eq] at threw
            cases answer : (h (.processSenderKeyDistributionMessage (X.protocolAddress
                plaintext.metadata.sender plaintext.metadata.senderDevice) skdm) s).1 with
            | error e => simp [answer] at threw
            | ok _ => cases known : X.distributionId skdm <;> simp [answer, known] at threw
  · have refused := Exit.ofExcept_eq_throw.mp threw
    unfold admitContent at refused
    cases present : plaintext.message.content with
    | none => simp [present] at refused
    | some body =>
        simp only [present] at refused
        split at refused
        · cases refused
        · split at refused
          · cases refused
          · by_cases report : body.IsDecryptionErrorMessage
            · cases body with
              | decryptionErrorMessage encoded =>
                  cases decoded : X.decodeDecryptionErrorMessage encoded <;>
                    simp [Content.fromProto, present, decoded, Except.map] at refused
              | _ => exact report
            · obtain ⟨content, converted⟩ := Content.fromProto_of_not_decryptionError X
                plaintext.metadata present report
              simp [converted, Except.map] at refused

/-- Once the payload is open, only the timestamps of the envelope can make it an invalid
    frame. -/
theorem finishDecrypt_invalidFrame {parts : DecryptedPayload} {reason : String}
    (threw : ((finishDecrypt X localId envelope parts).run h s).exit =
      .throw (.invalidFrame reason)) :
    (∃ message, X.decodeContent parts.data = some message) ∧ ¬ TimestampsParse X envelope := by
  cases decoded : X.decodeContent parts.data with
  | none =>
      obtain ⟨pniVerified, exit⟩ := finishDecrypt_exit X h s localId envelope parts
      simp [exit, decoded] at threw
  | some message =>
      apply And.intro ⟨message, rfl⟩
      intro timestamps
      obtain ⟨plaintext, returned, -⟩ := finishDecrypt_of X h s localId decoded timestamps
      rw [returned] at threw
      cases threw

theorem finishDecrypt_unreadable {parts : DecryptedPayload} {message : Proto.Content}
    (decoded : X.decodeContent parts.data = some message)
    (unreadable : ¬ TimestampsParse X envelope) :
    ∃ reason, ((finishDecrypt X localId envelope parts).run h s).exit =
      .throw (.invalidFrame reason) := by
  obtain ⟨pniVerified, exit⟩ := finishDecrypt_exit X h s localId envelope parts
  rw [exit]
  simp only [decoded, parseTimestamp]
  cases client : X.fromTimestampMillis (asI64 (envelope.clientTimestamp.getD 0)) with
  | none => exact ⟨_, rfl⟩
  | some clientTimestamp =>
      cases server : X.fromTimestampMillis (asI64 (envelope.serverTimestamp.getD 0)) with
      | none => exact ⟨_, rfl⟩
      | some serverTimestamp =>
          exact absurd ⟨by simp [client], by simp [server]⟩ unreadable

/-- The payload of an encrypted message turns out to be malformed when libsignal has
    decrypted it, and left the store as `t`. -/
inductive PayloadMalformed (X : Externals) (h : Env σ) (cipher : ServiceCipher)
    (envelope : Envelope) (ciphertext : Bytes) (source : Option ServiceId) (s : σ) : σ → Prop where
  /-- The session has a version that no padding is known for. -/
  | version {id : ServiceId} {device : DeviceId} {msgType : CiphertextMessageType}
      {found : Option SessionRecord} {data : Bytes} {record : SessionRecord} {version : Nat} {t : σ}
      (type : envelope.envelopeType.inner? = some msgType) (named : source = some id)
      (sentFrom : envelope.senderDevice = some device)
      (ready : (h (.loadSession (X.protocolAddress id device)) s).1 = .ok found)
      (decrypted : ((sealedSenderDecryptMessage X msgType ciphertext (X.protocolAddress id device)
        cipher.localAddress).run h s).exit = .ret data)
      (left : ((sealedSenderDecryptMessage X msgType ciphertext (X.protocolAddress id device)
        cipher.localAddress).run h s).state = t)
      (loaded : (h (.loadSession (X.protocolAddress id device)) t).1 = .ok (some record))
      (known : X.sessionVersion record = .ok version) (old : version < 2) :
      PayloadMalformed X h cipher envelope ciphertext source s t
  /-- The certificate names a PNI. -/
  | pni {usmc : UnidentifiedSenderMessageContent} {remote : ProtocolAddress}
      {msgType : CiphertextMessageType} {contents data : Bytes} {id : Pni} {t : σ}
      (type : envelope.envelopeType = .unidentifiedSender)
      (opened : (h (.sealedSenderDecryptToUsmc ciphertext) s).1 = .ok usmc)
      (trusted : sealedSenderAddress X cipher.trustRoots (envelope.clientTimestamp.getD 0) none
        cipher.localAddress usmc = .ret remote)
      (inner : usmc.msgType = .ok msgType) (inside : usmc.contents = .ok contents)
      (decrypted : ((sealedSenderDecryptMessage X msgType contents remote
        cipher.localAddress).run h s).exit = .ret data)
      (left : ((sealedSenderDecryptMessage X msgType contents remote
        cipher.localAddress).run h s).state = t)
      (named : X.parseServiceIdString remote.name = some (.pni id)) :
      PayloadMalformed X h cipher envelope ciphertext source s t

theorem unpadded_invalidFrame {id : ServiceId} {device : DeviceId} {data : Bytes}
    {found : Except SignalProtocolError (Option SessionRecord)} {reason : String} :
    unpadded X id device data found = .throw (.invalidFrame reason) ↔
      reason = "unknown version" ∧ ∃ record version, found = .ok (some record) ∧
        X.sessionVersion record = .ok version ∧ version < 2 := by
  unfold unpadded
  cases found with
  | error e => simp
  | ok loaded =>
      cases loaded with
      | none => simp
      | some record =>
          cases known : X.sessionVersion record with
          | error e => simp [known]
          | ok version =>
              simp only [Exit.ofExcept_ok, Exit.mapErr_ret, Exit.ret_bind, Exit.ofOption_some,
                known, stripPaddingVersion, Except.ok.injEq, Option.some.injEq, exists_and_left,
                exists_eq_left']
              by_cases old : version < 2
              · simp [old, eq_comm]
              · by_cases two : version = 2
                · simp [two]
                · simp only [old, two, if_false, and_false, iff_false]
                  unfold stripPadding
                  cases rawUnpad data <;> simp

theorem unsealedPayload_invalidFrame {remote : ProtocolAddress} {message : Bytes}
    {reason : String} :
    unsealedPayload X remote source message = .throw (.invalidFrame reason) ↔
      reason = "sealed sender used for PNI" ∧
        ∃ id, X.parseServiceIdString remote.name = some (.pni id) := by
  unfold unsealedPayload
  cases X.parseServiceIdString remote.name with
  | none => simp
  | some sender =>
      cases sender with
      | pni id => simp [ServiceId.kind, eq_comm]
      | aci id =>
          simp only [ServiceId.kind, reduceCtorEq, if_false, Option.some.injEq, exists_false,
            and_false, iff_false]
          unfold stripPadding
          cases rawUnpad message <;> simp

theorem decryptIdentified_invalidFrame (keeps : h.KeepsOnReads)
    {decryptMessage : ProtocolAddress → Async SignalProtocolError Bytes} {id : ServiceId}
    {device : DeviceId} {reason : String}
    (threw : ((decryptIdentified X decryptMessage id device).run h s).exit =
      .throw (.invalidFrame reason)) :
    let sender := X.protocolAddress id device
    let decrypted := (decryptMessage sender).run h s
    ∃ found data record version, (h (.loadSession sender) s).1 = .ok found ∧
      decrypted.exit = .ret data ∧ (h (.loadSession sender) decrypted.state).1 = .ok (some record) ∧
      X.sessionVersion record = .ok version ∧ version < 2 := by
  cases ready : (h (.loadSession (X.protocolAddress id device)) s).1 with
  | error e =>
      rw [(decryptIdentified_unready X keeps ready).1] at threw
      cases threw
  | ok found =>
      rw [(decryptIdentified_ready X keeps ready).1] at threw
      obtain threw | ⟨data, opened, threw⟩ := Exit.bind_eq_throw.mp threw
      · obtain ⟨e, -, same⟩ := Exit.mapErr_eq_throw.mp threw
        cases same
      · obtain ⟨-, record, version, loaded, known, old⟩ := unpadded_invalidFrame.mp threw
        exact ⟨found, data, record, version, ready, Exit.mapErr_eq_ret.mp opened, loaded, known, old⟩

theorem decryptUnidentifiedSender_invalidFrame (keeps : h.KeepsOnReads)
    (type : envelope.envelopeType = .unidentifiedSender) {reason : String}
    (threw : ((decryptUnidentifiedSender X cipher envelope ciphertext source).run h s).exit =
      .throw (.invalidFrame reason)) :
    PayloadMalformed X h cipher envelope ciphertext source s
      ((decryptUnidentifiedSender X cipher envelope ciphertext source).run h s).state := by
  by_contra fine
  -- an envelope that is not opened cannot fail so
  refine (decryptUnidentifiedSender_untrusted X keeps ?_).2.1 reason threw
  intro usmc remote msgType contents opened trusted inner inside
  obtain ⟨exit, left⟩ := decryptUnidentifiedSender_trusted X source keeps opened trusted inner
    inside
  rw [exit] at threw
  obtain threw | ⟨data, decrypted, threw⟩ := Exit.bind_eq_throw.mp threw
  · obtain ⟨e, -, same⟩ := Exit.mapErr_eq_throw.mp threw
    cases same
  · obtain ⟨-, id, named⟩ := unsealedPayload_invalidFrame.mp threw
    exact fine (.pni type opened trusted inner inside (Exit.mapErr_eq_ret.mp decrypted) left.symm
      named)

/-- The dispatch calls an envelope an invalid frame for its type, before it has done
    anything, or for its payload. -/
theorem decryptParts_invalidFrame (keeps : h.KeepsOnReads) {reason : String}
    (threw : ((decryptParts X cipher envelope ciphertext source).run h s).exit =
      .throw (.invalidFrame reason)) :
    ((decryptParts X cipher envelope ciphertext source).run h s).state = s ∨
      PayloadMalformed X h cipher envelope ciphertext source s
        ((decryptParts X cipher envelope ciphertext source).run h s).state := by
  cases type : envelope.envelopeType with
  | unknown | serverDeliveryReceipt =>
      left
      simp [decryptParts, type]
  | plaintextContent =>
      left
      cases source with
      | none => simp [decryptParts_unsealed_anonymous X type]
      | some id => simp [decryptParts_unsealed X type, decryptPlaintextContent_eq]
  | unidentifiedSender =>
      right
      rw [decryptParts_sealed X type] at threw ⊢
      exact decryptUnidentifiedSender_invalidFrame keeps type threw
  | prekeyMessage | doubleRatchet =>
      right
      obtain ⟨msgType, inner⟩ := envelope.exists_inner (by simp [type])
      rw [decryptParts_identified X inner] at threw ⊢
      cases source with
      | none => simp [expectSource, Prog.ofOption] at threw
      | some id =>
          cases sentFrom : envelope.senderDevice with
          | none => simp [expectSource, expectSenderDevice, sentFrom, Prog.ofOption] at threw
          | some device =>
              simp only [expectSource, expectSenderDevice, sentFrom, Prog.ofOption,
                Exit.ofOption_some, ret_bind] at threw ⊢
              obtain ⟨found, data, record, version, ready, decrypted, loaded, known, old⟩ :=
                decryptIdentified_invalidFrame keeps threw
              rw [(decryptIdentified_ready X keeps ready).2]
              exact .version inner rfl sentFrom ready decrypted rfl loaded known old

/-- And a payload that is malformed is one. -/
theorem PayloadMalformed.decryptParts {t : σ} (keeps : h.KeepsOnReads)
    (malformed : PayloadMalformed X h cipher envelope ciphertext source s t) :
    (∃ reason, ((decryptParts X cipher envelope ciphertext source).run h s).exit =
        .throw (.invalidFrame reason)) ∧
      ((decryptParts X cipher envelope ciphertext source).run h s).state = t := by
  cases malformed with
  | version type named sentFrom ready decrypted left loaded known old =>
      obtain ⟨exit, state⟩ := decryptIdentified_ready X keeps ready
      rw [decryptParts_identified X type, named]
      simp only [expectSource, expectSenderDevice, sentFrom, Prog.ofOption, Exit.ofOption_some,
        ret_bind]
      rw [exit, state, decrypted, left]
      exact ⟨⟨_, unpadded_invalidFrame.mpr ⟨rfl, _, _, loaded, known, old⟩⟩, rfl⟩
  | pni type opened trusted inner inside decrypted left named =>
      obtain ⟨exit, state⟩ := decryptUnidentifiedSender_trusted X source keeps opened trusted
        inner inside
      rw [decryptParts_sealed X type, exit, state, decrypted, left]
      exact ⟨⟨_, unsealedPayload_invalidFrame.mpr ⟨rfl, _, named⟩⟩, rfl⟩

/-- The envelope turns out to be malformed when its message has been decrypted, and the
    store is `t` by then. -/
inductive FoundMalformed (X : Externals) (h : Env σ) (cipher : ServiceCipher) (envelope : Envelope)
    (localId : ServiceId) (s t : σ) : Prop where
  | payload {ciphertext : Bytes} {source : Option ServiceId}
      (content : envelope.content = some ciphertext)
      (header : checkHeader X localId envelope = .ok source)
      (malformed : PayloadMalformed X h cipher envelope ciphertext source s t)
  | timestamps {ciphertext : Bytes} {source : Option ServiceId} {parts : DecryptedPayload}
      {message : Proto.Content} (content : envelope.content = some ciphertext)
      (header : checkHeader X localId envelope = .ok source)
      (opened : ((decryptParts X cipher envelope ciphertext source).run h s).exit = .ret parts)
      (left : ((decryptParts X cipher envelope ciphertext source).run h s).state = t)
      (decoded : X.decodeContent parts.data = some message)
      (unreadable : ¬ TimestampsParse X envelope)

section

variable (isLocal : X.parseServiceIdString cipher.localAddress.name = some localId)
  (keeps : h.KeepsOnReads)

include isLocal keeps

/-- Between the dispatch and the delivery only identities are asked for. -/
theorem openEnvelope_opened {t : σ} {parts : DecryptedPayload}
    (content : envelope.content = some ciphertext)
    (header : checkHeader X localId envelope = .ok source)
    (opened : ((decryptParts X cipher envelope ciphertext source).run h s).exit = .ret parts)
    (left : ((decryptParts X cipher envelope ciphertext source).run h s).state = t) :
    ((openEnvelope X cipher envelope).run h s).exit =
        (((finishDecrypt X localId envelope parts).run h t).exit.bind fun plaintext =>
          ((deliver X localId plaintext).run h t).exit) ∧
      ∀ e, ((finishDecrypt X localId envelope parts).run h t).exit = .throw e →
        ((openEnvelope X cipher envelope).run h s).state = t := by
  have finished : ((finishDecrypt X localId envelope parts).run h t).state = t :=
    (finishDecrypt_asks X localId envelope parts).run_state (fun c asks => keeps c asks.reads) t
  have exit : (((decryptParts X cipher envelope ciphertext source).bind
      (finishDecrypt X localId envelope)).run h s).exit =
        ((finishDecrypt X localId envelope parts).run h t).exit := by
    rw [run_bind_exit, opened, Exit.ret_bind, left]
  have state : (((decryptParts X cipher envelope ciphertext source).bind
      (finishDecrypt X localId envelope)).run h s).state = t := by
    rw [run_bind_state_of_ret h opened, left, finished]
  rw [openEnvelope_eq X isLocal content header]
  constructor
  · rw [run_bind_exit, exit, state]
  · intro e threw
    rw [run_bind_state_of_not_ret h fun plaintext => by simp [exit, threw], state]

theorem FoundMalformed.openEnvelope {t : σ}
    (malformed : FoundMalformed X h cipher envelope localId s t) :
    (∃ reason, ((openEnvelope X cipher envelope).run h s).exit = .throw (.invalidFrame reason)) ∧
      ((openEnvelope X cipher envelope).run h s).state = t := by
  cases malformed with
  | payload content header malformed =>
      obtain ⟨⟨reason, threw⟩, left⟩ := malformed.decryptParts keeps
      apply And.intro ⟨reason, openEnvelope_of_throw X isLocal content header threw⟩
      rw [openEnvelope_state_of_failed X isLocal content header (by simp [threw]), left]
  | timestamps content header opened left decoded unreadable =>
      have late : ∃ reason, ((finishDecrypt X localId envelope _).run h t).exit =
          .throw (.invalidFrame reason) := finishDecrypt_unreadable decoded unreadable
      obtain ⟨reason, threw⟩ := late
      obtain ⟨exit, state⟩ := openEnvelope_opened isLocal keeps content header opened left
      rw [exit, threw]
      exact ⟨⟨reason, rfl⟩, state _ threw⟩

/-- An invalid frame has changed nothing, or was found to be one too late. -/
theorem openEnvelope_invalidFrame {reason : String}
    (threw : ((openEnvelope X cipher envelope).run h s).exit = .throw (.invalidFrame reason)) :
    ((openEnvelope X cipher envelope).run h s).state = s ∨
      FoundMalformed X h cipher envelope localId s
        ((openEnvelope X cipher envelope).run h s).state := by
  cases content : envelope.content with
  | none =>
      rw [openEnvelope_no_content X isLocal content] at threw
      cases threw
  | some ciphertext =>
      cases header : checkHeader X localId envelope with
      | error e =>
          left
          rw [openEnvelope_bad_header X isLocal content header, run_done]
      | ok source =>
          cases opened : ((decryptParts X cipher envelope ciphertext source).run h s).exit with
          | panic m =>
              rw [openEnvelope_of_panic X isLocal content header opened] at threw
              cases threw
          | throw e =>
              rw [openEnvelope_of_throw X isLocal content header opened] at threw
              cases threw
              rw [openEnvelope_state_of_failed X isLocal content header (by simp [opened])]
              apply (decryptParts_invalidFrame keeps opened).imp_right
              exact fun malformed => .payload content header malformed
          | ret parts =>
              right
              obtain ⟨exit, state⟩ := openEnvelope_opened isLocal keeps content header opened rfl
              rw [exit] at threw
              obtain threw | ⟨plaintext, -, threw⟩ := Exit.bind_eq_throw.mp threw
              · obtain ⟨⟨message, decoded⟩, unreadable⟩ := finishDecrypt_invalidFrame threw
                rw [state _ threw]
                exact .timestamps content header opened rfl decoded unreadable
              · exact absurd threw (deliver_not_invalidFrame reason)

end

end InvalidFrame

/-! A message that decrypts, in an envelope from the end of time. -/

namespace Sample

def lateEnvelope : Envelope where
  type := some 1
  sourceServiceId := some "6838237d-e02b-4191-8587-b3c5eb9b8b4e"
  sourceDeviceId := some 1
  destinationServiceId := some "9d0652a3-dcc3-4d11-975f-74d61598733f"
  clientTimestamp := some 9223372036854775807
  serverTimestamp := some 1700000000001
  content := some [0x33]

/-- Any message decrypts, and the store counts how often. -/
def countingEnv : Env Nat
  | .loadSession _, steps => (.ok (some ⟨[7]⟩), steps)
  | .messageDecryptSignal _ _ _, steps => (.ok (Reference.dataContentBytes ++ [0x80]), steps + 1)
  | c, steps => (c.fallback, steps)

theorem countingEnv_keeps : countingEnv.KeepsOnReads := by
  intro c reads s
  cases c with
  | messageDecryptSignal => exact reads.elim
  | _ => rfl

end Sample

end SignalService

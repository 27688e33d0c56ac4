import SignalService.Cipher.Decrypt

/-! # What the steps of `open_envelope` do

One statement for each step: how it ends, and that the steps around the dispatch on
the envelope type only read the store.
-/

namespace SignalService

open Effect

variable (X : Externals)

/-! ## The side-car check -/

/-- The call asks for an identity. -/
def Call.IsGetIdentity : Call → Prop
  | .getIdentity _ => True
  | _ => False

theorem Call.IsGetIdentity.reads {c : Call} (asks : c.IsGetIdentity) : c.Reads := by
  cases c with
  | getIdentity => trivial
  | _ => cases asks

theorem readableIdentity_asks {ε : Type} (address : ProtocolAddress) :
    (readableIdentity address : Async ε _).Calls Call.IsGetIdentity :=
  ⟨trivial, fun _ _ => trivial⟩

theorem pniIdentity_asks {ε : Type} (pni : Pni) (device : DeviceId) :
    (pniIdentity X pni device : Async ε _).Calls Call.IsGetIdentity := by
  refine (readableIdentity_asks _).bind fun identity => ?_
  cases identity with
  | some _ => trivial
  | none =>
      by_cases primary : device = defaultDeviceId
      · simp [primary]
      · simpa [primary] using readableIdentity_asks _

theorem verifyPniSignature_asks {ε : Type} (sender : ServiceId) (device : DeviceId)
    (sideCar : PniSignatureMessage) :
    (verifyPniSignature X sender device sideCar : Async ε _).Calls Call.IsGetIdentity := by
  unfold verifyPniSignature
  split
  · refine (readableIdentity_asks _).bind fun aciIdentity => ?_
    cases aciIdentity with
    | none => trivial
    | some _ =>
        refine (pniIdentity_asks X _ _).bind fun pniIdentity => ?_
        cases pniIdentity with
        | none => trivial
        | some _ => dsimp only; split <;> trivial
  · trivial

section Returns

variable {σ ε : Type} (h : Env σ) (s : σ)

theorem readableIdentity_returns (address : ProtocolAddress) :
    ∃ identity, ((readableIdentity address : Async ε _).run h s).exit = .ret identity :=
  ⟨_, rfl⟩

theorem pniIdentity_returns (pni : Pni) (device : DeviceId) :
    ∃ identity, ((pniIdentity X pni device : Async ε _).run h s).exit = .ret identity := by
  unfold pniIdentity
  simp only [Prog.bind_eq, Prog.run_bind_exit]
  obtain ⟨identity, returned⟩ :=
    readableIdentity_returns (ε := ε) h s (X.protocolAddress (.pni pni) device)
  rw [returned, Exit.ret_bind]
  cases identity with
  | some identity => exact ⟨_, rfl⟩
  | none =>
      by_cases primary : device = defaultDeviceId
      · exact ⟨none, by simp [primary]⟩
      · simpa only [primary, if_false] using readableIdentity_returns h _ _

theorem verifyPniSignature_returns (sender : ServiceId) (device : DeviceId)
    (sideCar : PniSignatureMessage) :
    ∃ verified, ((verifyPniSignature X sender device sideCar : Async ε _).run h s).exit =
      .ret verified := by
  unfold verifyPniSignature
  split
  · simp only [Prog.bind_eq, Prog.run_bind_exit]
    obtain ⟨aciIdentity, returned⟩ := readableIdentity_returns (ε := ε) h s _
    rw [returned, Exit.ret_bind]
    cases aciIdentity with
    | none => exact ⟨_, rfl⟩
    | some aciIdentity =>
        simp only [Prog.run_bind_exit]
        obtain ⟨pniIdentity, found⟩ := pniIdentity_returns X (ε := ε) h _ _ _
        rw [found, Exit.ret_bind]
        cases pniIdentity with
        | none => exact ⟨_, rfl⟩
        | some pniIdentity => dsimp only; split <;> exact ⟨_, rfl⟩
  · exact ⟨_, rfl⟩

theorem verifySideCar_returns (parts : DecryptedPayload) (message : Proto.Content) :
    ∃ verified, ((verifySideCar X parts message : Async ServiceError _).run h s).exit =
      .ret verified := by
  unfold verifySideCar
  cases message.pniSignatureMessage with
  | none => exact ⟨none, rfl⟩
  | some sideCar => exact verifyPniSignature_returns X h s _ _ _

end Returns

/-! ## After the payload is open -/

/-- Both timestamps of an envelope are readable. -/
structure TimestampsParse (envelope : Envelope) : Prop where
  client : (X.fromTimestampMillis (asI64 (envelope.clientTimestamp.getD 0))).isSome
  server : (X.fromTimestampMillis (asI64 (envelope.serverTimestamp.getD 0))).isSome

theorem parseTimestamp_ok_iff {millis : Nat} (reason : String) :
    (∃ time, parseTimestamp X millis reason = .ok time) ↔
      (X.fromTimestampMillis (asI64 millis)).isSome := by
  unfold parseTimestamp
  cases X.fromTimestampMillis (asI64 millis) <;> simp

theorem verifySideCar_asks {ε : Type} (parts : DecryptedPayload) (message : Proto.Content) :
    (verifySideCar X parts message : Async ε _).Calls Call.IsGetIdentity := by
  unfold verifySideCar
  cases message.pniSignatureMessage with
  | none => trivial
  | some sideCar => exact verifyPniSignature_asks X _ _ _

theorem finishDecrypt_asks (localId : ServiceId) (envelope : Envelope)
    (parts : DecryptedPayload) :
    (finishDecrypt X localId envelope parts).Calls Call.IsGetIdentity := by
  refine Prog.CallsWhen.bind (Prog.calls_ofOption _ _) fun message => ?_
  refine Prog.CallsWhen.bind (verifySideCar_asks X parts message) fun pniVerified => ?_
  refine Prog.CallsWhen.bind (Prog.calls_ofExcept _) fun clientTimestamp => ?_
  exact Prog.CallsWhen.bind (Prog.calls_ofExcept _) fun serverTimestamp => trivial

section Finish

variable {σ : Type} (h : Env σ) (s : σ) (localId : ServiceId) (envelope : Envelope)
  (parts : DecryptedPayload)

/-- How `decrypt` ends once the payload is open, up to what the side-car proved. -/
theorem finishDecrypt_exit :
    ∃ pniVerified,
      ((finishDecrypt X localId envelope parts).run h s).exit =
        match X.decodeContent parts.data with
        | none => .throw .protobufDecodeError
        | some message =>
            (Exit.ofExcept (parseTimestamp X (envelope.clientTimestamp.getD 0)
              "unparseable timestamp")).bind fun clientTimestamp =>
            (Exit.ofExcept (parseTimestamp X (envelope.serverTimestamp.getD 0)
              "unparseable server timestamp")).bind fun serverTimestamp =>
            .ret ⟨⟨parts.sender, localId, parts.senderDevice, pniVerified, clientTimestamp,
              serverTimestamp, parts.needsReceipt, parts.unidentifiedSender, parts.wasPlaintext,
              envelope.parseServerGuid X, envelope.reportSpamToken⟩, message⟩ := by
  cases decoded : X.decodeContent parts.data with
  | none => exact ⟨none, by simp [finishDecrypt, decoded, Prog.run_bind_exit]⟩
  | some message =>
      obtain ⟨pniVerified, returned⟩ := verifySideCar_returns X h s parts message
      refine ⟨pniVerified, ?_⟩
      simp only [finishDecrypt, decoded, Prog.bind_eq, Prog.pure_eq, Prog.run_bind_exit,
        Prog.run_ofOption, Prog.run_ofExcept, Exit.ofOption_some, returned, Exit.ret_bind,
        Prog.run_done]

theorem finishDecrypt_not_panic (m : String) :
    ((finishDecrypt X localId envelope parts).run h s).exit ≠ .panic m := by
  obtain ⟨pniVerified, exit⟩ := finishDecrypt_exit X h s localId envelope parts
  rw [exit]
  cases X.decodeContent parts.data with
  | none => simp
  | some message =>
      dsimp only
      cases parseTimestamp X (envelope.clientTimestamp.getD 0) "unparseable timestamp" <;>
        cases parseTimestamp X (envelope.serverTimestamp.getD 0) "unparseable server timestamp" <;>
        simp

/-- The plaintext that comes out carries the payload's sender, device and flags. -/
structure Plaintext.Of (plaintext : Plaintext) (parts : DecryptedPayload) : Prop where
  sender : plaintext.metadata.sender = parts.sender
  senderDevice : plaintext.metadata.senderDevice = parts.senderDevice
  wasPlaintext : plaintext.metadata.wasPlaintext = parts.wasPlaintext

variable {localId envelope parts}

theorem finishDecrypt_ret {plaintext : Plaintext}
    (returned : ((finishDecrypt X localId envelope parts).run h s).exit = .ret plaintext) :
    X.decodeContent parts.data = some plaintext.message ∧ TimestampsParse X envelope ∧
      plaintext.Of parts := by
  obtain ⟨pniVerified, exit⟩ := finishDecrypt_exit X h s localId envelope parts
  rw [exit] at returned
  cases decoded : X.decodeContent parts.data with
  | none => simp [decoded] at returned
  | some message =>
      simp only [decoded] at returned
      cases client : parseTimestamp X (envelope.clientTimestamp.getD 0) "unparseable timestamp" with
      | error e => simp [client] at returned
      | ok clientTimestamp =>
          cases server : parseTimestamp X (envelope.serverTimestamp.getD 0)
              "unparseable server timestamp" with
          | error e => simp [client, server] at returned
          | ok serverTimestamp =>
              simp only [client, server, Exit.ofExcept_ok, Exit.ret_bind] at returned
              cases returned
              exact ⟨rfl, ⟨(parseTimestamp_ok_iff X _).mp ⟨_, client⟩,
                (parseTimestamp_ok_iff X _).mp ⟨_, server⟩⟩, ⟨rfl, rfl, rfl⟩⟩

theorem finishDecrypt_of (localId : ServiceId) {message : Proto.Content}
    (decoded : X.decodeContent parts.data = some message)
    (timestamps : TimestampsParse X envelope) :
    ∃ plaintext, ((finishDecrypt X localId envelope parts).run h s).exit = .ret plaintext ∧
      plaintext.message = message ∧ plaintext.Of parts := by
  obtain ⟨pniVerified, exit⟩ := finishDecrypt_exit X h s localId envelope parts
  obtain ⟨clientTimestamp, client⟩ :=
    (parseTimestamp_ok_iff X "unparseable timestamp").mpr timestamps.client
  obtain ⟨serverTimestamp, server⟩ :=
    (parseTimestamp_ok_iff X "unparseable server timestamp").mpr timestamps.server
  rw [exit]
  simp only [decoded, client, server, Exit.ofExcept_ok, Exit.ret_bind]
  exact ⟨_, rfl, rfl, ⟨rfl, rfl, rfl⟩⟩

end Finish

/-! ## The certificate checks -/

section Sealed

variable {trustRoots : List PublicKey} {timestamp : Nat} {localE164 : Option String}
  {loc : ProtocolAddress} {usmc : UnidentifiedSenderMessageContent}

/-- An address the checks trust is the one in the certificate. -/
theorem sealedSenderAddress_ret {remote : ProtocolAddress}
    (trusted : sealedSenderAddress X trustRoots timestamp localE164 loc usmc = .ret remote) :
    ∃ certificate e164, usmc.sender = .ok certificate ∧
      certificate.senderUuid = .ok remote.name ∧ certificate.senderE164 = .ok e164 ∧
      certificate.senderDeviceId = .ok remote.deviceId := by
  simp only [sealedSenderAddress, Exit.bind_eq, Exit.pure_eq] at trusted
  obtain ⟨certificate, sender, trusted⟩ := Exit.bind_eq_ret.mp trusted
  obtain ⟨valid, -, trusted⟩ := Exit.bind_eq_ret.mp trusted
  cases valid with
  | false => simp at trusted
  | true =>
      simp only [Bool.not_true, Bool.false_eq_true, if_false] at trusted
      obtain ⟨localServiceId, -, trusted⟩ := Exit.bind_eq_ret.mp trusted
      obtain ⟨senderUuid, uuid, trusted⟩ := Exit.bind_eq_ret.mp trusted
      obtain ⟨senderId, -, trusted⟩ := Exit.bind_eq_ret.mp trusted
      obtain ⟨e164, phone, trusted⟩ := Exit.bind_eq_ret.mp trusted
      obtain ⟨deviceId, device, trusted⟩ := Exit.bind_eq_ret.mp trusted
      split at trusted
      · cases trusted
      · cases trusted
        exact ⟨certificate, e164, Exit.ofExcept_eq_ret.mp sender, Exit.ofExcept_eq_ret.mp uuid,
          Exit.ofExcept_eq_ret.mp phone, Exit.ofExcept_eq_ret.mp device⟩

/-- With a local name that is a service id, the only panic left is over a validated
    certificate whose sender is not a UUID. -/
theorem sealedSenderAddress_panic_iff {localId : ServiceId}
    (isLocal : X.parseServiceIdString loc.name = some localId) :
    (∃ m, sealedSenderAddress X trustRoots timestamp localE164 loc usmc = .panic m) ↔
      ∃ certificate uuid, usmc.sender = .ok certificate ∧
        X.validateWithTrustRoots certificate trustRoots timestamp = .ok true ∧
        certificate.senderUuid = .ok uuid ∧ X.parseUuid uuid = none := by
  simp only [sealedSenderAddress, Exit.bind_eq, Exit.pure_eq, isLocal, Exit.ofOption_some,
    Exit.ret_bind]
  cases usmc.sender with
  | error e => simp
  | ok certificate =>
      simp only [Exit.ofExcept_ok, Exit.ret_bind, Except.ok.injEq, exists_and_left,
        exists_eq_left']
      cases X.validateWithTrustRoots certificate trustRoots timestamp with
      | error e => simp
      | ok valid =>
          cases valid with
          | false => simp
          | true =>
              cases certificate.senderUuid with
              | error e => simp
              | ok uuid =>
                  cases parsed : X.parseUuid uuid with
                  | none => simp [parsed]
                  | some senderId =>
                      simp only [Exit.ofExcept_ok, Exit.ret_bind, Bool.not_true,
                        Bool.false_eq_true, if_false, Exit.ofOption_some, Except.ok.injEq,
                        exists_eq_left', parsed, reduceCtorEq, and_false, iff_false]
                      rintro ⟨m, panics⟩
                      obtain never | ⟨e164, -, panics⟩ := Exit.bind_eq_panic.mp panics
                      · exact Exit.ofExcept_ne_panic never
                      obtain never | ⟨deviceId, -, panics⟩ := Exit.bind_eq_panic.mp panics
                      · exact Exit.ofExcept_ne_panic never
                      split at panics <;> cases panics

end Sealed

/-! ## Delivery -/

section Deliver

variable {σ : Type} (h : Env σ) (s : σ) (localId : ServiceId) (plaintext : Plaintext)

/-- The sender key of a message, if it carries one, is read and taken by the store. -/
def SenderKeyAccepted (sender : ServiceId) (device : DeviceId) (message : Proto.Content) : Prop :=
  ∀ bytes, message.senderKeyDistributionMessage = some bytes →
    ∃ skdm distributionId, X.senderKeyDistributionMessage bytes = .ok skdm ∧
      (h (.processSenderKeyDistributionMessage (X.protocolAddress sender device) skdm) s).1 =
        .ok () ∧
      X.distributionId skdm = .ok distributionId

theorem ingestSenderKey_not_panic (m : String) :
    ((ingestSenderKey X plaintext).run h s).exit ≠ .panic m := by
  unfold ingestSenderKey
  cases plaintext.message.senderKeyDistributionMessage with
  | none => simp
  | some bytes =>
      cases parsed : X.senderKeyDistributionMessage bytes with
      | error e => simp [Prog.ofExcept, parsed]
      | ok skdm =>
          simp only [Prog.ofExcept, parsed, Async.await, Prog.bind_eq, Prog.done_mapErr,
            Exit.ofExcept_ok, Exit.mapErr_ret, Prog.ret_bind, Prog.call_mapErr, Prog.call_bind,
            Prog.run_call_exit, id_eq]
          cases (h (.processSenderKeyDistributionMessage _ skdm) s).1 <;>
            cases X.distributionId skdm <;> simp

theorem ingestSenderKey_ret_iff :
    ((ingestSenderKey X plaintext).run h s).exit = .ret () ↔
      SenderKeyAccepted X h s plaintext.metadata.sender plaintext.metadata.senderDevice
        plaintext.message := by
  unfold ingestSenderKey SenderKeyAccepted
  cases plaintext.message.senderKeyDistributionMessage with
  | none => simp
  | some bytes =>
      simp only [Option.some.injEq, forall_eq']
      cases X.senderKeyDistributionMessage bytes with
      | error e => simp [Prog.ofExcept]
      | ok skdm =>
          simp only [Prog.ofExcept, Async.await, Prog.bind_eq, Prog.done_mapErr,
            Exit.ofExcept_ok, Exit.mapErr_ret, Prog.ret_bind, Prog.call_mapErr, Prog.call_bind,
            Prog.run_call_exit, id_eq, Except.ok.injEq, exists_and_left, exists_eq_left']
          cases (h (.processSenderKeyDistributionMessage _ skdm) s).1 <;>
            cases X.distributionId skdm <;> simp

/-- The one call that writes is made for a sender key that parses. -/
theorem ingestSenderKey_state :
    ((ingestSenderKey X plaintext).run h s).state =
      match plaintext.message.senderKeyDistributionMessage with
      | none => s
      | some bytes =>
          match X.senderKeyDistributionMessage bytes with
          | .error _ => s
          | .ok skdm =>
              (h (.processSenderKeyDistributionMessage
                (X.protocolAddress plaintext.metadata.sender plaintext.metadata.senderDevice)
                skdm) s).2 := by
  unfold ingestSenderKey
  cases plaintext.message.senderKeyDistributionMessage with
  | none => rfl
  | some bytes =>
      dsimp only
      cases X.senderKeyDistributionMessage bytes with
      | error e => rfl
      | ok skdm =>
          simp only [Prog.ofExcept, Async.await, Prog.bind_eq, Prog.done_mapErr,
            Exit.ofExcept_ok, Exit.mapErr_ret, Prog.ret_bind, Prog.call_mapErr, Prog.call_bind,
            Prog.run_call_state, id_eq, Prog.pure_eq, Prog.done_bind_done, Prog.run_done]

theorem deliver_exit :
    ((deliver X localId plaintext).run h s).exit =
      ((ingestSenderKey X plaintext).run h s).exit.bind fun _ =>
        .ofExcept (admitContent X localId plaintext) := by
  simp only [deliver, Prog.bind_eq, Prog.run_bind_exit, Prog.run_ofExcept]

theorem deliver_not_panic (m : String) :
    ((deliver X localId plaintext).run h s).exit ≠ .panic m := by
  rw [deliver_exit]
  intro panics
  obtain never | ⟨_, -, never⟩ := Exit.bind_eq_panic.mp panics
  · exact ingestSenderKey_not_panic X h s plaintext m never
  · exact Exit.ofExcept_ne_panic never

theorem deliver_ret_iff {r : Option Content} :
    ((deliver X localId plaintext).run h s).exit = .ret r ↔
      SenderKeyAccepted X h s plaintext.metadata.sender plaintext.metadata.senderDevice
        plaintext.message ∧ admitContent X localId plaintext = .ok r := by
  rw [deliver_exit, Exit.bind_eq_ret, ← ingestSenderKey_ret_iff]
  constructor
  · rintro ⟨_, ingested, admitted⟩
    exact ⟨ingested, Exit.ofExcept_eq_ret.mp admitted⟩
  · rintro ⟨ingested, admitted⟩
    exact ⟨(), ingested, Exit.ofExcept_eq_ret.mpr admitted⟩

/-- Delivery only writes the store where a sender key is processed. -/
theorem deliver_state :
    ((deliver X localId plaintext).run h s).state =
      ((ingestSenderKey X plaintext).run h s).state := by
  cases exit : ((ingestSenderKey X plaintext).run h s).exit with
  | ret _ => exact Prog.run_bind_state_of_ret h exit
  | throw e | panic m => exact Prog.run_bind_state_of_not_ret h fun a => by simp [exit]

end Deliver

/-! ## The steps of `open_envelope` put together -/

section Open

variable {cipher : ServiceCipher} {envelope : Envelope}

theorem openEnvelope_not_local (isLocal : X.parseServiceIdString cipher.localAddress.name = none) :
    openEnvelope X cipher envelope = .done (.panic "valid protocol address name") := by
  simp [openEnvelope, localService, isLocal, Prog.ofOption]

variable {localId : ServiceId}
  (isLocal : X.parseServiceIdString cipher.localAddress.name = some localId)

include isLocal

theorem openEnvelope_no_content (content : envelope.content = none) :
    openEnvelope X cipher envelope = .done (.ret none) := by
  simp [openEnvelope, localService, isLocal, Prog.ofOption, content]

theorem openEnvelope_bad_header {ciphertext : Bytes} {e : ServiceError}
    (content : envelope.content = some ciphertext)
    (header : checkHeader X localId envelope = .error e) :
    openEnvelope X cipher envelope = .done (.throw e) := by
  simp [openEnvelope, decrypt, localService, isLocal, Prog.ofOption, content, header,
    Prog.ofExcept]

theorem openEnvelope_eq {ciphertext : Bytes} {source : Option ServiceId}
    (content : envelope.content = some ciphertext)
    (header : checkHeader X localId envelope = .ok source) :
    openEnvelope X cipher envelope =
      ((decryptParts X cipher envelope ciphertext source).bind
        (finishDecrypt X localId envelope)).bind (deliver X localId) := by
  simp [openEnvelope, decrypt, localService, isLocal, Prog.ofOption, content, header,
    Prog.ofExcept]

variable {σ : Type} {h : Env σ} {s : σ}

/-- What the type dispatch fails with, `open_envelope` fails with. -/
theorem openEnvelope_of_throw {ciphertext : Bytes} {source : Option ServiceId} {e : ServiceError}
    (content : envelope.content = some ciphertext)
    (header : checkHeader X localId envelope = .ok source)
    (failed : ((decryptParts X cipher envelope ciphertext source).run h s).exit = .throw e) :
    ((openEnvelope X cipher envelope).run h s).exit = .throw e := by
  rw [openEnvelope_eq X isLocal content header, Prog.run_bind_exit, Prog.run_bind_exit, failed]
  rfl

theorem openEnvelope_of_panic {ciphertext : Bytes} {source : Option ServiceId} {m : String}
    (content : envelope.content = some ciphertext)
    (header : checkHeader X localId envelope = .ok source)
    (failed : ((decryptParts X cipher envelope ciphertext source).run h s).exit = .panic m) :
    ((openEnvelope X cipher envelope).run h s).exit = .panic m := by
  rw [openEnvelope_eq X isLocal content header, Prog.run_bind_exit, Prog.run_bind_exit, failed]
  rfl

/-- A dispatch that fails leaves the state it came to. -/
theorem openEnvelope_state_of_failed {ciphertext : Bytes} {source : Option ServiceId}
    (content : envelope.content = some ciphertext)
    (header : checkHeader X localId envelope = .ok source)
    (failed : ∀ parts,
      ((decryptParts X cipher envelope ciphertext source).run h s).exit ≠ .ret parts) :
    ((openEnvelope X cipher envelope).run h s).state =
      ((decryptParts X cipher envelope ciphertext source).run h s).state := by
  have first := Prog.run_bind_state_of_not_ret h (f := finishDecrypt X localId envelope) failed
  rw [openEnvelope_eq X isLocal content header, Prog.run_bind_state_of_not_ret, first]
  intro plaintext
  rw [Prog.run_bind_exit]
  intro returned
  obtain ⟨parts, opened, -⟩ := Exit.bind_eq_ret.mp returned
  exact failed parts opened

/-- Once the payload is open, an unreadable message or timestamp is an error, and
    everything else is up to delivery. -/
theorem openEnvelope_of_parts (keeps : h.KeepsOnReads) {ciphertext : Bytes}
    {source : Option ServiceId} {parts : DecryptedPayload}
    (content : envelope.content = some ciphertext)
    (header : checkHeader X localId envelope = .ok source)
    (opened : ((decryptParts X cipher envelope ciphertext source).run h s).exit = .ret parts)
    (kept : ((decryptParts X cipher envelope ciphertext source).run h s).state = s) :
    (∃ plaintext, X.decodeContent parts.data = some plaintext.message ∧
      TimestampsParse X envelope ∧ plaintext.Of parts ∧
      ((openEnvelope X cipher envelope).run h s).exit =
        ((deliver X localId plaintext).run h s).exit ∧
      ((openEnvelope X cipher envelope).run h s).state =
        ((deliver X localId plaintext).run h s).state) ∨
    ((∃ e, ((openEnvelope X cipher envelope).run h s).exit = .throw e) ∧
      ((openEnvelope X cipher envelope).run h s).state = s ∧
      ¬ ∃ message, X.decodeContent parts.data = some message ∧ TimestampsParse X envelope) := by
  have finished : ((finishDecrypt X localId envelope parts).run h s).state = s :=
    (finishDecrypt_asks X localId envelope parts).run_state (fun c asks => keeps c asks.reads) s
  have exit₁ : (((decryptParts X cipher envelope ciphertext source).bind
      (finishDecrypt X localId envelope)).run h s).exit =
        ((finishDecrypt X localId envelope parts).run h s).exit := by
    rw [Prog.run_bind_exit, opened, Exit.ret_bind, kept]
  have state₁ : (((decryptParts X cipher envelope ciphertext source).bind
      (finishDecrypt X localId envelope)).run h s).state = s := by
    rw [Prog.run_bind_state_of_ret h opened, kept, finished]
  rw [openEnvelope_eq X isLocal content header]
  cases exit : ((finishDecrypt X localId envelope parts).run h s).exit with
  | ret plaintext =>
      obtain ⟨decoded, timestamps, isOf⟩ := finishDecrypt_ret X h s exit
      refine .inl ⟨plaintext, decoded, timestamps, isOf, ?_, ?_⟩
      · rw [Prog.run_bind_exit, exit₁, exit, Exit.ret_bind, state₁]
      · rw [Prog.run_bind_state_of_ret h (exit₁.trans exit), state₁]
  | throw e =>
      refine .inr ⟨⟨e, ?_⟩, ?_, ?_⟩
      · rw [Prog.run_bind_exit, exit₁, exit, Exit.throw_bind]
      · rw [Prog.run_bind_state_of_not_ret h fun a => by simp [exit₁, exit], state₁]
      · rintro ⟨message, decoded, timestamps⟩
        obtain ⟨plaintext, returned, -⟩ := finishDecrypt_of X h s localId decoded timestamps
        simp [exit] at returned
  | panic m => exact absurd exit (finishDecrypt_not_panic X h s localId envelope parts m)

end Open

end SignalService

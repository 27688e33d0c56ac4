import SignalService.Cipher.Plaintext
import SignalService.Cipher.Routes

/-! # The trust in a sealed sender

`sealed_sender_decrypt` opens the outer layer, checks the certificate it finds, and decrypts
what is inside only for a sender that it trusts. Whom the error names tells a caller whether
that point was reached. The time that the certificate is checked at is one that the sender
has written into the envelope.
-/

namespace SignalService

open Effect Prog

variable {X : Externals} {trustRoots : List PublicKey} {timestamp : Nat}
  {localE164 : Option String} {loc : ProtocolAddress} {usmc : UnidentifiedSenderMessageContent}

/-! ## The point of trust -/

/-- The message was sent by the device that receives it. -/
def FromOwnDevice (localE164 : Option String) (loc : ProtocolAddress) (localId : ServiceId)
    (senderId : Uuid) (senderE164 : Option String) (device : DeviceId) : Prop :=
  (isLocalE164 localE164 senderE164 = true ∨ localId.rawUuid = senderId) ∧ device = loc.deviceId

/-- The certificate holds, its fields can be read, and it is not that of our own device. -/
def SenderTrusted (X : Externals) (trustRoots : List PublicKey) (timestamp : Nat)
    (localE164 : Option String) (loc : ProtocolAddress) (usmc : UnidentifiedSenderMessageContent)
    (remote : ProtocolAddress) : Prop :=
  ∃ certificate localId senderId senderE164, usmc.sender = .ok certificate ∧
    X.validateWithTrustRoots certificate trustRoots timestamp = .ok true ∧
    X.parseServiceIdString loc.name = some localId ∧
    certificate.senderUuid = .ok remote.name ∧ X.parseUuid remote.name = some senderId ∧
    certificate.senderE164 = .ok senderE164 ∧ certificate.senderDeviceId = .ok remote.deviceId ∧
    ¬ FromOwnDevice localE164 loc localId senderId senderE164 remote.deviceId

theorem fromOwnDevice_iff {localId : ServiceId} {senderId : Uuid} {senderE164 : Option String}
    {device : DeviceId} :
    ((isLocalE164 localE164 senderE164 || decide (localId.rawUuid = senderId)) &&
        decide (device = loc.deviceId)) = true ↔
      FromOwnDevice localE164 loc localId senderId senderE164 device := by
  simp [FromOwnDevice]

/-- The checks come to an address exactly for a sender that is to be trusted. -/
theorem sealedSenderAddress_ret_iff {remote : ProtocolAddress} :
    sealedSenderAddress X trustRoots timestamp localE164 loc usmc = .ret remote ↔
      SenderTrusted X trustRoots timestamp localE164 loc usmc remote := by
  constructor
  · intro trusted
    simp only [sealedSenderAddress, Exit.bind_eq, Exit.pure_eq] at trusted
    obtain ⟨certificate, sender, trusted⟩ := Exit.bind_eq_ret.mp trusted
    obtain ⟨valid, validated, trusted⟩ := Exit.bind_eq_ret.mp trusted
    cases valid with
    | false => simp at trusted
    | true =>
        simp only [Bool.not_true, Bool.false_eq_true, if_false] at trusted
        obtain ⟨localId, isLocal, trusted⟩ := Exit.bind_eq_ret.mp trusted
        obtain ⟨name, uuid, trusted⟩ := Exit.bind_eq_ret.mp trusted
        obtain ⟨senderId, parsed, trusted⟩ := Exit.bind_eq_ret.mp trusted
        obtain ⟨senderE164, phone, trusted⟩ := Exit.bind_eq_ret.mp trusted
        obtain ⟨device, sentFrom, trusted⟩ := Exit.bind_eq_ret.mp trusted
        split at trusted
        · cases trusted
        · next other =>
            cases trusted
            exact ⟨certificate, localId, senderId, senderE164, Exit.ofExcept_eq_ret.mp sender,
              Exit.ofExcept_eq_ret.mp validated, Exit.ofOption_panic_eq_ret.mp isLocal,
              Exit.ofExcept_eq_ret.mp uuid, Exit.ofOption_panic_eq_ret.mp parsed,
              Exit.ofExcept_eq_ret.mp phone, Exit.ofExcept_eq_ret.mp sentFrom,
              fun own => other (fromOwnDevice_iff.mpr own)⟩
  · rintro ⟨certificate, localId, senderId, senderE164, sender, valid, isLocal, named, parsed,
      phone, sentFrom, other⟩
    simp only [sealedSenderAddress, sender, valid, isLocal, named, parsed, phone, sentFrom,
      Exit.ofExcept_ok, Exit.bind_eq, Exit.ret_bind, Exit.ofOption_some, Bool.not_true,
      Bool.false_eq_true, if_false, Exit.pure_eq]
    rw [if_neg fun own => other (fromOwnDevice_iff.mp own)]

/-- The outer layer has been opened, and its sender is trusted. -/
structure TrustReached {σ : Type} (X : Externals) (h : Env σ) (ciphertext : Bytes)
    (trustRoots : List PublicKey) (timestamp : Nat) (localE164 : Option String)
    (loc : ProtocolAddress) (s : σ) (usmc : UnidentifiedSenderMessageContent)
    (remote : ProtocolAddress) : Prop where
  opened : (h (.sealedSenderDecryptToUsmc ciphertext) s).1 = .ok usmc
  trusted : SenderTrusted X trustRoots timestamp localE164 loc usmc remote

section Reached

variable {σ : Type} {h : Env σ} {ciphertext : Bytes} {s : σ} {remote : ProtocolAddress}

/-- Only one message comes out of an envelope, and only one address out of that. -/
theorem TrustReached.unique {usmc' : UnidentifiedSenderMessageContent} {remote' : ProtocolAddress}
    (reached : TrustReached X h ciphertext trustRoots timestamp localE164 loc s usmc remote)
    (reached' : TrustReached X h ciphertext trustRoots timestamp localE164 loc s usmc' remote') :
    usmc' = usmc ∧ remote' = remote := by
  obtain rfl : usmc = usmc' := Except.ok.inj (reached.opened.symm.trans reached'.opened)
  have first := sealedSenderAddress_ret_iff.mpr reached.trusted
  have second := sealedSenderAddress_ret_iff.mpr reached'.trusted
  exact ⟨rfl, Exit.ret.inj (second.symm.trans first)⟩

/-- What is run for a trusted sender, and how its failures are told. -/
def decryptTrusted (X : Externals) (loc : ProtocolAddress)
    (usmc : UnidentifiedSenderMessageContent) (remote : ProtocolAddress) :
    Async SealedSenderDecryptionError SealedSenderDecryptionResult :=
  guarded X remote ((sealedSenderDecryptWithValidatedUsmc X usmc remote loc).mapErr fun inner =>
    ⟨inner, some remote, usmc.original⟩)

theorem sealedSenderDecrypt_reached
    (reached : TrustReached X h ciphertext trustRoots timestamp localE164 loc s usmc remote) :
    (sealedSenderDecrypt X ciphertext trustRoots timestamp localE164 loc).run h s =
      let rest := (decryptTrusted X loc usmc remote).run h
        (h (.sealedSenderDecryptToUsmc ciphertext) s).2
      { rest with log := ⟨.sealedSenderDecryptToUsmc ciphertext, .ok usmc⟩ :: rest.log } := by
  have trusted := sealedSenderAddress_ret_iff.mpr reached.trusted
  rw [sealedSenderDecrypt_eq, run_call]
  simp only [reached.opened, trusted, decryptTrusted]

/-- Where that point is not reached, nothing follows the opening of the outer layer, and the
    error has no sender. -/
theorem sealedSenderDecrypt_unreached
    (unreached : ∀ usmc remote,
      ¬ TrustReached X h ciphertext trustRoots timestamp localE164 loc s usmc remote) :
    let ran := (sealedSenderDecrypt X ciphertext trustRoots timestamp localE164 loc).run h s
    ran.log = [⟨.sealedSenderDecryptToUsmc ciphertext,
        (h (.sealedSenderDecryptToUsmc ciphertext) s).1⟩] ∧
      ran.state = (h (.sealedSenderDecryptToUsmc ciphertext) s).2 ∧
      ∀ e, ran.exit = .throw e → e.sender = none ∧ e.original = none := by
  rw [sealedSenderDecrypt_eq]
  simp only [run_call_log, run_call_state, run_call_exit]
  cases opened : (h (.sealedSenderDecryptToUsmc ciphertext) s).1 with
  | error e => simp [SealedSenderDecryptionError.ofProtocol]
  | ok usmc =>
      cases address : sealedSenderAddress X trustRoots timestamp localE164 loc usmc with
      | ret remote => exact absurd ⟨opened, sealedSenderAddress_ret_iff.mp address⟩ (unreached _ _)
      | throw e => simp [address, SealedSenderDecryptionError.ofProtocol]
      | panic m => simp [address]

theorem UnidentifiedSenderMessageContent.original_eq_some {msgType : CiphertextMessageType}
    {contents : Bytes} :
    usmc.original = some (msgType, contents) ↔
      usmc.msgType = .ok msgType ∧ usmc.contents = .ok contents := by
  unfold UnidentifiedSenderMessageContent.original
  cases usmc.msgType <;> cases usmc.contents <;> simp

theorem decryptTrusted_throws {e : SealedSenderDecryptionError}
    (threw : ((decryptTrusted X loc usmc remote).run h s).exit = .throw e) :
    e.sender = some remote ∧ e.original = usmc.original := by
  unfold decryptTrusted guarded at threw
  cases named : X.parseServiceIdString remote.name with
  | none =>
      simp only [named, run_mapErr] at threw
      obtain ⟨inner, -, rfl⟩ := Exit.mapErr_eq_throw.mp threw
      exact ⟨rfl, rfl⟩
  | some sender =>
      simp only [named, Async.withLock, run_call_exit, run_onExit, run_mapErr] at threw
      obtain ⟨inner, -, rfl⟩ := Exit.mapErr_eq_throw.mp threw
      exact ⟨rfl, rfl⟩

/-- Nothing follows the opening of the outer layer unless the sender is trusted, so that the
    store is then as it was; and a failure names a sender exactly if it was trusted, with the
    inner message as far as that can be read. -/
theorem sealedSenderDecrypt_trusts_first :
    (∃ rest, ((sealedSenderDecrypt X ciphertext trustRoots timestamp localE164 loc).run h s).log =
        ⟨.sealedSenderDecryptToUsmc ciphertext, (h (.sealedSenderDecryptToUsmc ciphertext) s).1⟩ ::
          rest ∧
      (rest ≠ [] → ∃ usmc remote,
        TrustReached X h ciphertext trustRoots timestamp localE164 loc s usmc remote)) ∧
    (h.KeepsOnReads →
      (∀ usmc remote,
        ¬ TrustReached X h ciphertext trustRoots timestamp localE164 loc s usmc remote) →
      ((sealedSenderDecrypt X ciphertext trustRoots timestamp localE164 loc).run h s).state = s) ∧
    ∀ e, ((sealedSenderDecrypt X ciphertext trustRoots timestamp localE164 loc).run h s).exit =
        .throw e →
      (∀ address, e.sender = some address ↔
        ∃ usmc, TrustReached X h ciphertext trustRoots timestamp localE164 loc s usmc address) ∧
      ∀ usmc remote, TrustReached X h ciphertext trustRoots timestamp localE164 loc s usmc remote →
        ∀ msgType contents, e.original = some (msgType, contents) ↔
          usmc.msgType = .ok msgType ∧ usmc.contents = .ok contents := by
  by_cases reached : ∃ usmc remote,
      TrustReached X h ciphertext trustRoots timestamp localE164 loc s usmc remote
  · obtain ⟨usmc, remote, reached⟩ := reached
    have same := sealedSenderDecrypt_reached reached
    apply And.intro ⟨_, by rw [same, reached.opened], fun _ => ⟨usmc, remote, reached⟩⟩
    apply And.intro fun _ unreached => absurd reached (unreached usmc remote)
    intro e threw
    rw [same] at threw
    obtain ⟨sender, original⟩ := decryptTrusted_throws threw
    constructor
    · intro address
      rw [sender, Option.some.injEq]
      constructor
      · rintro rfl
        exact ⟨usmc, reached⟩
      · rintro ⟨usmc', reached'⟩
        exact (reached.unique reached').2.symm
    · intro usmc' remote' reached' msgType contents
      rw [original, ← (reached.unique reached').1, usmc'.original_eq_some]
  · have unreached : ∀ usmc remote,
        ¬ TrustReached X h ciphertext trustRoots timestamp localE164 loc s usmc remote :=
      fun usmc remote reached' => reached ⟨usmc, remote, reached'⟩
    obtain ⟨log, state, unnamed⟩ := sealedSenderDecrypt_unreached unreached
    apply And.intro ⟨[], log, fun more => absurd rfl more⟩
    apply And.intro fun keeps _ =>
      state.trans (keeps (.sealedSenderDecryptToUsmc ciphertext) trivial s)
    intro e threw
    constructor
    · intro address
      rw [(unnamed e threw).1]
      constructor
      · rintro ⟨⟩
      · rintro ⟨usmc, reached'⟩
        exact absurd reached' (unreached usmc address)
    · intro usmc remote reached'
      exact absurd reached' (unreached usmc remote)

end Reached

/-! ## The time of the check -/

/-- The part of the checks that decides on the certificate. -/
def checkCertificate (X : Externals) (trustRoots : List PublicKey) (timestamp : Nat)
    (usmc : UnidentifiedSenderMessageContent) : Exit SignalProtocolError SenderCertificate := do
  let certificate ← Exit.ofExcept usmc.sender
  let valid ← Exit.ofExcept (X.validateWithTrustRoots certificate trustRoots timestamp)
  if !valid then
    Exit.throw (.invalidSealedSenderMessage "trust root validation failed")
  else
    return certificate

/-- The part after it, which has no use for the time. -/
def certifiedAddress (X : Externals) (localE164 : Option String) (loc : ProtocolAddress)
    (certificate : SenderCertificate) : Exit SignalProtocolError ProtocolAddress := do
  let localServiceId ← Exit.ofOption (.panic "valid protocol address name")
    (X.parseServiceIdString loc.name)
  let senderUuid ← Exit.ofExcept certificate.senderUuid
  let senderId ← Exit.ofOption (.panic "valid uuid") (X.parseUuid senderUuid)
  let isLocalUuid := decide (localServiceId.rawUuid = senderId)
  let senderE164 ← Exit.ofExcept certificate.senderE164
  let deviceId ← Exit.ofExcept certificate.senderDeviceId
  if (isLocalE164 localE164 senderE164 || isLocalUuid) && decide (deviceId = loc.deviceId) then
    Exit.throw .sealedSenderSelfSend
  else
    return ⟨senderUuid, deviceId⟩

theorem sealedSenderAddress_eq :
    sealedSenderAddress X trustRoots timestamp localE164 loc usmc =
      (checkCertificate X trustRoots timestamp usmc).bind (certifiedAddress X localE164 loc) := by
  unfold sealedSenderAddress checkCertificate
  simp only [Exit.bind_eq]
  cases usmc.sender with
  | error e => rfl
  | ok certificate =>
      simp only [Exit.ofExcept_ok, Exit.ret_bind]
      cases X.validateWithTrustRoots certificate trustRoots timestamp with
      | error e => rfl
      | ok valid => cases valid <;> rfl

theorem checkCertificate_not_panic (m : String) :
    checkCertificate X trustRoots timestamp usmc ≠ .panic m := by
  unfold checkCertificate
  cases usmc.sender with
  | error e => nofun
  | ok certificate =>
      simp only [Exit.bind_eq, Exit.ofExcept_ok, Exit.ret_bind]
      cases X.validateWithTrustRoots certificate trustRoots timestamp with
      | error e => nofun
      | ok valid => cases valid <;> nofun

theorem checkCertificate_ret_iff {certificate : SenderCertificate} :
    checkCertificate X trustRoots timestamp usmc = .ret certificate ↔
      usmc.sender = .ok certificate ∧
        X.validateWithTrustRoots certificate trustRoots timestamp = .ok true := by
  unfold checkCertificate
  cases usmc.sender with
  | error e => simp
  | ok found =>
      simp only [Exit.bind_eq, Exit.ofExcept_ok, Exit.ret_bind, Except.ok.injEq]
      cases validated : X.validateWithTrustRoots found trustRoots timestamp with
      | error e =>
          simp only [Exit.ofExcept_error, Exit.throw_bind, reduceCtorEq, false_iff, not_and]
          rintro rfl
          simp [validated]
      | ok valid =>
          cases valid with
          | false =>
              simp only [Exit.ofExcept_ok, Exit.ret_bind, Bool.not_false, if_true, reduceCtorEq,
                false_iff, not_and]
              rintro rfl
              simp [validated]
          | true =>
              simp only [Exit.ofExcept_ok, Exit.ret_bind, Bool.not_true, Bool.false_eq_true,
                if_false, Exit.pure_eq, Exit.ret.injEq, iff_self_and]
              rintro rfl
              exact validated

/-- How libsignal validates: a certificate holds that is signed under one of the roots, until
    it has expired. -/
structure Expiry (X : Externals) where
  isSigned : SenderCertificate → List PublicKey → Except SignalProtocolError Bool
  expiration : SenderCertificate → Nat
  validate : ∀ certificate trustRoots timestamp,
    X.validateWithTrustRoots certificate trustRoots timestamp =
      (isSigned certificate trustRoots).map (· && decide (timestamp ≤ expiration certificate))

section Expiry

variable {σ : Type} {h : Env σ} {s : σ} {cipher : ServiceCipher} {envelope : Envelope}

/-- The certificate of a sealed envelope is accepted, at the time that its branch of
    `decrypt` has it checked. -/
def AcceptsCertificate (X : Externals) (h : Env σ) (cipher : ServiceCipher) (envelope : Envelope)
    (s : σ) : Prop :=
  ∃ ciphertext usmc certificate, envelope.content = some ciphertext ∧
    (h (.sealedSenderDecryptToUsmc ciphertext) s).1 = .ok usmc ∧
    checkCertificate X cipher.trustRoots (envelope.clientTimestamp.getD 0) usmc = .ret certificate

/-- An envelope whose certificate is not accepted fails there. -/
theorem decryptUnidentifiedSender_unaccepted {ciphertext : Bytes} {source : Option ServiceId}
    (content : envelope.content = some ciphertext)
    (unaccepted : ¬ AcceptsCertificate X h cipher envelope s) :
    ∃ inner, ((decryptUnidentifiedSender X cipher envelope ciphertext source).run h s).exit =
      .throw (.sealedSenderDecryptionError (.ofProtocol inner)) := by
  rw [decryptUnidentifiedSender_eq, run_bind_done]
  simp only [run_mapErr, sealedSenderDecrypt_eq, run_call_exit]
  cases opened : (h (.sealedSenderDecryptToUsmc ciphertext) s).1 with
  | error e => exact ⟨e, rfl⟩
  | ok usmc =>
      simp only [sealedSenderAddress_eq]
      cases checked : checkCertificate X cipher.trustRoots (envelope.clientTimestamp.getD 0)
          usmc with
      | ret certificate => exact absurd ⟨_, _, _, content, opened, checked⟩ unaccepted
      | throw e => exact ⟨e, rfl⟩
      | panic m => exact absurd checked (checkCertificate_not_panic m)

theorem Expiry.validate_eq_true (expiry : Expiry X) {certificate : SenderCertificate} :
    X.validateWithTrustRoots certificate trustRoots timestamp = .ok true ↔
      expiry.isSigned certificate trustRoots = .ok true ∧
        timestamp ≤ expiry.expiration certificate := by
  rw [expiry.validate]
  cases expiry.isSigned certificate trustRoots <;> simp [Except.map]

/-- Two times that a sender may have written into an envelope have its certificate accepted
    alike exactly if it does not expire between them. -/
theorem acceptsCertificate_alike_iff (expiry : Expiry X) (timestamp : Option Nat) :
    (AcceptsCertificate X h cipher envelope s ↔
        AcceptsCertificate X h cipher { envelope with clientTimestamp := timestamp } s) ↔
      ∀ ciphertext usmc certificate, envelope.content = some ciphertext →
        (h (.sealedSenderDecryptToUsmc ciphertext) s).1 = .ok usmc →
        usmc.sender = .ok certificate → expiry.isSigned certificate cipher.trustRoots = .ok true →
        (envelope.clientTimestamp.getD 0 ≤ expiry.expiration certificate ↔
          timestamp.getD 0 ≤ expiry.expiration certificate) := by
  simp only [AcceptsCertificate, checkCertificate_ret_iff, expiry.validate_eq_true]
  constructor
  · intro alike ciphertext usmc certificate content opened sender signed
    constructor
    · intro early
      obtain ⟨_, _, _, content', opened', sender', -, late⟩ :=
        alike.mp ⟨ciphertext, usmc, certificate, content, opened, sender, signed, early⟩
      obtain rfl := Option.some.inj (content.symm.trans content')
      obtain rfl := Except.ok.inj (opened.symm.trans opened')
      obtain rfl := Except.ok.inj (sender.symm.trans sender')
      exact late
    · intro late
      obtain ⟨_, _, _, content', opened', sender', -, early⟩ :=
        alike.mpr ⟨ciphertext, usmc, certificate, content, opened, sender, signed, late⟩
      obtain rfl := Option.some.inj (content.symm.trans content')
      obtain rfl := Except.ok.inj (opened.symm.trans opened')
      obtain rfl := Except.ok.inj (sender.symm.trans sender')
      exact early
  · intro between
    constructor
    · rintro ⟨ciphertext, usmc, certificate, content, opened, sender, signed, early⟩
      exact ⟨ciphertext, usmc, certificate, content, opened, sender, signed,
        (between ciphertext usmc certificate content opened sender signed).mp early⟩
    · rintro ⟨ciphertext, usmc, certificate, content, opened, sender, signed, late⟩
      exact ⟨ciphertext, usmc, certificate, content, opened, sender, signed,
        (between ciphertext usmc certificate content opened sender signed).mpr late⟩

end Expiry

/-! A certificate that has expired, and an envelope that is dated back. -/

namespace Sample

/-- Every certificate expires half a second after the sealed envelope was written. -/
def expiring : Externals :=
  { reference with
    validateWithTrustRoots := fun certificate trustRoots timestamp =>
      .ok (decide (⟨certificate.serialized⟩ ∈ trustRoots) && decide (timestamp ≤ 1700000000500)) }

def expiry : Expiry expiring where
  isSigned certificate trustRoots := .ok (decide (⟨certificate.serialized⟩ ∈ trustRoots))
  expiration _ := 1700000000500
  validate _ _ _ := rfl

def afterExpiry : Option Nat := some 1700000001000

end Sample

theorem expired_certificate_accepted_when_dated_back :
    AcceptsCertificate Sample.expiring Sample.sealedDataEnv Sample.localCipher
        Sample.sealedEnvelope () ∧
      ¬ AcceptsCertificate Sample.expiring Sample.sealedDataEnv Sample.localCipher
        { Sample.sealedEnvelope with clientTimestamp := Sample.afterExpiry } () ∧
      (∃ content, ((openEnvelope Sample.expiring Sample.localCipher Sample.sealedEnvelope).run
        Sample.sealedDataEnv ()).exit = .ret (some content)) ∧
      ((openEnvelope Sample.expiring Sample.localCipher
          { Sample.sealedEnvelope with clientTimestamp := Sample.afterExpiry }).run
        Sample.sealedDataEnv ()).exit = .throw (.sealedSenderDecryptionError (.ofProtocol
          (.invalidSealedSenderMessage "trust root validation failed"))) := by
  refine ⟨⟨_, _, _, rfl, rfl, rfl⟩, ?_, ⟨_, rfl⟩, rfl⟩
  rintro ⟨_, _, _, content, opened, checked⟩
  cases content
  cases opened
  cases checked

theorem alike_before_expiry :
    AcceptsCertificate Sample.expiring Sample.sealedDataEnv Sample.localCipher
        Sample.sealedEnvelope () ↔
      AcceptsCertificate Sample.expiring Sample.sealedDataEnv Sample.localCipher
        { Sample.sealedEnvelope with clientTimestamp := some 1700000000300 } () := by
  apply (acceptsCertificate_alike_iff Sample.expiry _).mpr
  intro ciphertext usmc certificate _ _ _ _
  have written : 1700000000000 ≤ 1700000000500 := by decide
  have later : 1700000000300 ≤ 1700000000500 := by decide
  exact iff_of_true written later

end SignalService

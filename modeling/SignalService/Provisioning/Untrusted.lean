import SignalService.Provisioning.Agreement

/-! # Requests as the service sends them

What the provisioning pipe makes of any request, and its cipher of any envelope: what is
accepted, and which requests and envelopes end in a panic. Nothing of them is authenticated by
then.
-/

namespace SignalService.Provisioning

open Effect

variable {X : ProvisioningExternals}

/-! ## Envelopes -/

namespace ProvisioningCipher

/-- Long enough for the version, the IV and the MAC, or of another version. -/
def BodySafe (body : Bytes) : Prop :=
  ∃ first, body.head? = some first ∧ (first ≠ version ∨ 49 ≤ body.length)

/-- The key is there, and where it can be read there is a body that can be cut up. -/
def EnvelopeSafe (cipher : ProvisioningCipher X.toCurve) (envelope : ProvisionEnvelope) : Prop :=
  ∀ keyPair, cipher.keyMaterial = .decryptAndEncrypt keyPair →
    ∃ publicKey, envelope.publicKey = some publicKey ∧
      ((X.deserializePublic publicKey).isSome → ∃ body, envelope.body = some body ∧ BodySafe body)

/-- The version, an IV and a ciphertext, and the MAC of all three under a key that both ends
agree on. -/
def Authenticated (cipher : ProvisioningCipher X.toCurve) (envelope : ProvisionEnvelope) : Prop :=
  ∃ keyPair publicKey ephemeral agreement iv ciphertext mac,
    cipher.keyMaterial = .decryptAndEncrypt keyPair ∧
    envelope.publicKey = some publicKey ∧ X.deserializePublic publicKey = some ephemeral ∧
    X.calculateAgreement keyPair.privateKey ephemeral = some agreement ∧
    iv.length = 16 ∧ mac.length = 32 ∧
    mac = (X.hmac (sharedSecrets X agreement).2 (version :: iv ++ ciphertext)).take 32 ∧
    envelope.body = some (version :: iv ++ ciphertext ++ mac)

theorem slice_panics_iff {body : Bytes} {start stop : Nat} :
    (slice body start stop).Panics ↔ ¬ (start ≤ stop ∧ stop ≤ body.length) := by
  unfold slice
  split <;> simp_all

theorem exists_layout {body : Bytes} (long : 49 ≤ body.length)
    (first : body.head? = some version) :
    ∃ (iv : Vector UInt8 16) (ciphertext mac : Bytes), mac.length = 32 ∧
      body = version :: iv.toList ++ ciphertext ++ mac := by
  obtain ⟨rest, rfl⟩ := List.head?_eq_some_iff.mp first
  rw [List.length_cons] at long
  have sixteen : (rest.take 16).toArray.size = 16 := by
    rw [List.size_toArray, List.length_take]
    omega
  refine ⟨⟨(rest.take 16).toArray, sixteen⟩, (rest.drop 16).take (rest.length - 48),
    (rest.drop 16).drop (rest.length - 48), ?_, ?_⟩
  · rw [List.length_drop, List.length_drop]
    omega
  · change version :: rest = version :: rest.take 16 ++ _ ++ _
    rw [List.append_assoc, List.take_append_drop, List.cons_append, List.take_append_drop]

/-- One of the three cuts is out of bounds. -/
theorem splitBody_short {body : Bytes} (first : body.head? = some version)
    (short : body.length < 49) : (splitBody body).Panics := by
  unfold splitBody
  simp only [first, Exit.ofOption_some, Exit.bind_eq, Exit.ret_bind, ne_eq, not_true_eq_false,
    if_false]
  rw [Exit.panics_bind, slice_panics_iff]
  by_cases ivFits : 17 ≤ body.length
  · right
    refine ⟨_, if_pos ⟨by omega, ivFits⟩, ?_⟩
    rw [Exit.panics_bind]
    by_cases macFits : 32 ≤ body.length
    · right
      refine ⟨_, if_pos macFits, ?_⟩
      rw [Exit.panics_bind]
      right
      refine ⟨_, if_pos ⟨by omega, le_rfl⟩, ?_⟩
      rw [Exit.panics_bind, slice_panics_iff]
      left
      omega
    · left
      unfold lengthWithout
      rw [if_neg macFits]
      trivial
  · left
    omega

theorem splitBody_panics_iff {body : Bytes} : (splitBody body).Panics ↔ ¬ BodySafe body := by
  cases first : body.head? with
  | none => simp [splitBody, BodySafe, first]
  | some byte =>
      by_cases current : byte = version
      · rw [current] at first
        by_cases long : 49 ≤ body.length
        · have safe : BodySafe body := ⟨version, first, .inr long⟩
          obtain ⟨iv, ciphertext, mac, size, rfl⟩ := exists_layout long first
          rw [splitBody_written iv ciphertext size]
          exact iff_of_false id (not_not_intro safe)
        · apply iff_of_true (splitBody_short first (Nat.lt_of_not_le long))
          rintro ⟨byte, found, other | fits⟩
          · exact other (Option.some.inj (found.symm.trans first))
          · exact long fits
      · simp [splitBody, BodySafe, first, current]

theorem openBody_not_panics (keyPair : KeyPair X.toCurve) (ephemeral : X.PublicKey)
    (body : Body) : ¬ (openBody X keyPair ephemeral body).Panics := by
  unfold openBody
  cases X.calculateAgreement keyPair.privateKey ephemeral with
  | none => exact id
  | some agreement =>
      simp only [Exit.ofOption_some, Exit.bind_eq, Exit.ret_bind]
      split
      · exact id
      · cases (decryptPadded? X.toAttachmentCiphers (sharedSecrets X agreement).1 body.iv
          body.cipherText).1 with
        | none => exact id
        | some input =>
            simp only [Exit.ofOption_some, Exit.ret_bind]
            cases X.decodeProvisionMessage input <;> exact id

theorem decrypt_panics_iff {cipher : ProvisioningCipher X.toCurve}
    {envelope : ProvisionEnvelope} :
    (cipher.decrypt X envelope).Panics ↔ ¬ EnvelopeSafe cipher envelope := by
  unfold decrypt EnvelopeSafe
  cases cipher.keyMaterial with
  | encryptOnly key => simp
  | decryptAndEncrypt keyPair =>
      cases envelope.publicKey with
      | none => simp
      | some publicKey =>
          cases read : X.deserializePublic publicKey with
          | none => simp [read]
          | some ephemeral =>
              cases envelope.body with
              | none => simp [read]
              | some body =>
                  simp [read, Exit.panics_bind, splitBody_panics_iff, openBody_not_panics]

theorem splitBody_eq_ret {body : Bytes} {parts : Body} (split : splitBody body = .ret parts) :
    ∃ (iv : Vector UInt8 16) (ciphertext mac : Bytes), mac.length = 32 ∧
      body = version :: iv.toList ++ ciphertext ++ mac ∧
      parts = ⟨iv.toList, ciphertext, version :: iv.toList ++ ciphertext, mac⟩ := by
  have safe : BodySafe body := by
    by_contra short
    have panics := splitBody_panics_iff.mpr short
    rw [split] at panics
    exact panics
  obtain ⟨first, found, other | long⟩ := safe
  · simp [splitBody, found, other] at split
  · by_cases current : first = version
    · rw [current] at found
      obtain ⟨iv, ciphertext, mac, size, rfl⟩ := exists_layout long found
      rw [splitBody_written iv ciphertext size] at split
      exact ⟨iv, ciphertext, mac, size, rfl, (Exit.ret.inj split).symm⟩
    · simp [splitBody, found, current] at split

/-- What opens was sealed as it should be. -/
theorem authenticated_of_decrypt {cipher : ProvisioningCipher X.toCurve}
    {envelope : ProvisionEnvelope} {message : ProvisionMessage}
    (opened : cipher.decrypt X envelope = .ret message) : Authenticated cipher envelope := by
  unfold decrypt at opened
  split at opened
  case h_1 => cases opened
  case h_2 keyPair material =>
    simp only [Exit.bind_eq] at opened
    obtain ⟨publicKey, given, opened⟩ := Exit.bind_eq_ret.mp opened
    obtain ⟨ephemeral, read, opened⟩ := Exit.bind_eq_ret.mp opened
    obtain ⟨body, present, opened⟩ := Exit.bind_eq_ret.mp opened
    obtain ⟨parts, split, opened⟩ := Exit.bind_eq_ret.mp opened
    obtain ⟨iv, ciphertext, mac, size, rfl, rfl⟩ := splitBody_eq_ret split
    obtain ⟨agreement, agreed, opened⟩ := Exit.bind_eq_ret.mp opened
    rw [Exit.ofOption_panic_eq_ret] at given present
    rw [Exit.ofOption_throw_eq_ret] at read agreed
    dsimp only at opened
    split at opened
    case isTrue => cases opened
    case isFalse same =>
      exact ⟨keyPair, publicKey, ephemeral, agreement, iv.toList, ciphertext, mac, material, given,
        read, agreed, by simp, size, (not_not.mp same).symm, present⟩

end ProvisioningCipher

/-! ## Requests -/

/-- What is done before the request is acknowledged. -/
def requestedStep (X : ProvisioningExternals) (cipher : ProvisioningCipher X.toCurve)
    (request : WebSocketRequestMessage) : Exit ProvisioningError (ProvisioningStep X) :=
  if request.verb = some "PUT" ∧ request.path = some "/v1/address" then do
    let body ← Exit.ofOption (.panic "called `Option::unwrap()` on a `None` value") request.body
    let address ← Exit.ofOption (.throw .decodeError) (X.decodeProvisioningAddress body)
    return .url (provisioningUrl X cipher.publicKey (address.getD ""))
  else if request.verb = some "PUT" ∧ request.path = some "/v1/message" then do
    let body ← Exit.ofOption (.panic "called `Option::unwrap()` on a `None` value") request.body
    let envelope ← Exit.ofOption (.throw .decodeError) (X.decodeProvisionEnvelope body)
    let message ← cipher.decrypt X envelope
    return .message message
  else .throw (.wsError "Incorrect request")

/-- The request has a body if one is looked for, and an envelope in it that is safe. -/
@[mk_iff]
structure RequestSafe (cipher : ProvisioningCipher X.toCurve) (request : WebSocketRequestMessage) :
    Prop where
  body : request.verb = some "PUT" → request.path = some "/v1/address" ∨
    request.path = some "/v1/message" → request.body.isSome
  envelope : request.verb = some "PUT" → request.path = some "/v1/message" →
    ∀ body envelope, request.body = some body → X.decodeProvisionEnvelope body = some envelope →
      cipher.EnvelopeSafe envelope

section Requests

variable {cipher : ProvisioningCipher X.toCurve} {request : WebSocketRequestMessage}

theorem processRequest_eq (cipher : ProvisioningCipher X.toCurve)
    (request : WebSocketRequestMessage) :
    processRequest X cipher request = (Prog.ofExit (requestedStep X cipher request)).bind
      fun step => (acknowledge request.id).bind fun _ => .done (.ret step) := by
  unfold processRequest requestedStep
  split
  · unfold processAddress
    cases request.body with
    | none => rfl
    | some body =>
        simp only [Prog.ofOption, Exit.ofOption_some, Prog.bind_eq, Prog.ret_bind, Exit.bind_eq,
          Exit.ret_bind]
        cases X.decodeProvisioningAddress body <;> rfl
  · split
    · unfold processMessage
      cases request.body with
      | none => rfl
      | some body =>
          simp only [Prog.ofOption, Exit.ofOption_some, Prog.bind_eq, Prog.ret_bind, Exit.bind_eq,
            Exit.ret_bind]
          cases X.decodeProvisionEnvelope body with
          | none => rfl
          | some envelope =>
              simp only [Exit.ofOption_some, Prog.ret_bind, Exit.ret_bind]
              cases cipher.decrypt X envelope <;> rfl
    · rfl

theorem requestedStep_panics_iff :
    (requestedStep X cipher request).Panics ↔ ¬ RequestSafe cipher request := by
  rw [requestSafe_iff]
  unfold requestedStep
  split
  case isTrue address =>
    obtain ⟨verb, path⟩ := address
    cases request.body with
    | none => simp [verb, path]
    | some body => cases decoded : X.decodeProvisioningAddress body <;> simp [path, decoded]
  case isFalse notAddress =>
    split
    case isTrue message =>
      obtain ⟨verb, path⟩ := message
      cases request.body with
      | none => simp [verb, path]
      | some body =>
          cases decoded : X.decodeProvisionEnvelope body with
          | none => simp [decoded]
          | some envelope =>
              simp [verb, path, decoded, Exit.panics_bind,
                ProvisioningCipher.decrypt_panics_iff]
    case isFalse notMessage =>
      simp only [Exit.not_panics_throw, false_iff, not_not]
      refine ⟨fun put => ?_, fun put message => absurd ⟨put, message⟩ notMessage⟩
      rintro (address | message)
      · exact absurd ⟨put, address⟩ notAddress
      · exact absurd ⟨put, message⟩ notMessage

theorem trace_of_requestedStep_panics (panics : (requestedStep X cipher request).Panics) :
    ∃ m, Prog.Trace (processRequest X cipher request) [] (.panic m) := by
  rw [processRequest_eq]
  cases ended : requestedStep X cipher request with
  | ret step => simp [ended] at panics
  | throw e => simp [ended] at panics
  | panic m => exact ⟨m, .done _⟩

/-- The request is acknowledged with its id, and only then is there a step. -/
theorem trace_processRequest {es : List (Event PipeCall PipeAnswer)}
    {x : Exit ProvisioningError (ProvisioningStep X)}
    (trace : Prog.Trace (processRequest X cipher request) es x) :
    (x.Panics ↔ (requestedStep X cipher request).Panics) ∧
      (x.IsRet ↔ ⟨.respond (okResponse request.id), true⟩ ∈ es) := by
  rw [processRequest_eq] at trace
  cases ended : requestedStep X cipher request with
  | throw e =>
      rw [ended, Prog.ofExit, Prog.throw_bind, Prog.trace_done] at trace
      obtain ⟨rfl, rfl⟩ := trace
      simp
  | panic m =>
      rw [ended, Prog.ofExit, Prog.panic_bind, Prog.trace_done] at trace
      obtain ⟨rfl, rfl⟩ := trace
      simp
  | ret step =>
      rw [ended, Prog.ofExit, Prog.ret_bind, acknowledge] at trace
      cases trace with
      | call heard rest =>
          cases heard <;> cases rest <;> simp

end Requests

/-! ## Both -/

/-- Every request is answered by a step that is acknowledged or by an error, and every envelope
by what was sealed in it or by an error, as long as nothing that is read is missing or short. -/
theorem untrusted_input_iff (cipher : ProvisioningCipher X.toCurve)
    (request : WebSocketRequestMessage) (envelope : ProvisionEnvelope) :
    ((∀ es x, Prog.Trace (processRequest X cipher request) es x →
        ¬ x.Panics ∧ (x.IsRet ↔ ⟨.respond (okResponse request.id), true⟩ ∈ es)) ↔
      RequestSafe cipher request) ∧
    (((∀ message, cipher.decrypt X envelope = .ret message → cipher.Authenticated envelope) ∧
        ¬ (cipher.decrypt X envelope).Panics) ↔
      cipher.EnvelopeSafe envelope) := by
  constructor
  · constructor
    · intro holds
      by_contra unsafeRequest
      obtain ⟨m, trace⟩ := trace_of_requestedStep_panics (requestedStep_panics_iff.mpr
        unsafeRequest)
      exact (holds _ _ trace).1 trivial
    · intro safe es x trace
      obtain ⟨panics, acknowledged⟩ := trace_processRequest trace
      rw [panics, requestedStep_panics_iff]
      exact ⟨not_not_intro safe, acknowledged⟩
  · rw [ProvisioningCipher.decrypt_panics_iff, not_not]
    exact ⟨fun holds => holds.2,
      fun safe => ⟨fun message => ProvisioningCipher.authenticated_of_decrypt, safe⟩⟩

/-- A request without a body, an envelope without a key, and one whose body is the version
alone. -/
theorem short_input_panics :
    (∃ es x, Prog.Trace (processRequest Sample.provisioningExternals
        (.fromKeyPair (.ofPrivate Sample.pipeKey))
        { verb := some "PUT", path := some "/v1/address" }) es x ∧ x.Panics) ∧
    (ProvisioningCipher.decrypt Sample.provisioningExternals
      (.fromKeyPair (.ofPrivate Sample.pipeKey)) { publicKey := none, body := none }).Panics ∧
    (ProvisioningCipher.decrypt Sample.provisioningExternals
      (.fromKeyPair (.ofPrivate Sample.pipeKey))
      { publicKey := some (Sample.provisioningExternals.serializePublic
          (Sample.provisioningExternals.publicKey Sample.pipeKey)),
        body := some [1] }).Panics := by
  refine ⟨⟨[], .panic _, .done _, trivial⟩, trivial, ?_⟩
  rw [ProvisioningCipher.decrypt_panics_iff]
  intro safe
  obtain ⟨publicKey, given, readable⟩ := safe _ rfl
  cases given
  obtain ⟨body, present, first, found, other | long⟩ := readable (by
    rw [Sample.provisioningExternals_lawful.publicBytes]
    rfl)
  · cases present
    cases found
    exact other rfl
  · cases present
    exact absurd long (by decide)

end SignalService.Provisioning

import SignalService.Provisioning.Agreement

/-! # Messages that are rejected

What `provisioning::link_device` has done by the time it finds a field of the message missing
or malformed. The length of the profile key is the one check that comes after the stores were
written.
-/

namespace SignalService

open Effect Provisioning

variable {X : ProvisioningExternals}

/-- The errors that say that a field of the message is missing or malformed. -/
def Provisioning.ProvisioningError.InvalidMessage : ProvisioningError → Prop
  | .missingPublicKey | .missingPrivateKey | .invalidPublicKey _ | .invalidPrivateKey _
  | .missingProfileKey | .invalidProfileKey | .invalidAccountEntropyPool
  | .missingPhoneNumber | .invalidPhoneNumber | .missingProvisioningCode => True
  | _ => False

/-- A key is saved. -/
def PreKeyCall.Saves {K : Curve} : PreKeyCall K → Prop
  | .savePreKey _ _ | .saveKyberPreKey _ _ | .saveSignedPreKey _ _
  | .storeLastResortKyberPreKey _ _ => True
  | _ => False

/-- One of the stores is written, or the service asked to link. -/
def Provisioning.LinkCall.Commits : LinkCall X → Prop
  | .aciStore c | .pniStore c => c.Saves
  | .linkDevice _ _ _ => True
  | _ => False

/-- The device draws this key for its pipe; everything else may go as it will. -/
def DrawnPipeKey (pipeKey : X.PrivateKey) : (c : LinkCall X) → LinkAnswer X c → Prop
  | .generatePipeKeyPair, r => r = pipeKey
  | _, _ => True

theorem drawnPipeKey_of_obliging {pipeKey : X.PrivateKey} {c : LinkCall X} {r : LinkAnswer X c}
    (obliged : DeviceObliging pipeKey c r) : DrawnPipeKey pipeKey c r := by
  cases c with
  | generatePipeKeyPair => exact obliged
  | _ => trivial

/-- All fields are there and well-formed, but for the length of the profile key. -/
structure Provisioning.ProvisionMessage.FieldsValid (X : ProvisioningExternals)
    (message : ProvisionMessage) : Prop where
  aciPublicKey : ∃ bytes key, message.aciIdentityKeyPublic = some bytes ∧
    X.deserializePublic bytes = some key
  aciPrivateKey : ∃ bytes key, message.aciIdentityKeyPrivate = some bytes ∧
    X.deserializePrivate bytes = some key
  pniPublicKey : ∃ bytes key, message.pniIdentityKeyPublic = some bytes ∧
    X.deserializePublic bytes = some key
  pniPrivateKey : ∃ bytes key, message.pniIdentityKeyPrivate = some bytes ∧
    X.deserializePrivate bytes = some key
  profileKey : ∃ bytes, message.profileKey = some bytes
  accountEntropyPool : ∀ text, message.accountEntropyPool = some text →
    ∃ pool, X.parsePool text = some pool
  phoneNumber : ∃ text number, message.number = some text ∧ X.parseE164 text = some number
  provisioningCode : ∃ code, message.provisioningCode = some code

/-! ## Fields -/

section Fields

variable {message : ProvisionMessage}

theorem required_eq_ok {α : Type} {missing : ProvisioningError} {value : Option α} {a : α} :
    required missing value = .ok a ↔ value = some a := by
  cases value <;> simp [required]

theorem readPublicKey_eq_ok {field : Option Bytes} {key : X.PublicKey} :
    readPublicKey X field = .ok key ↔
      ∃ bytes, field = some bytes ∧ X.deserializePublic bytes = some key := by
  cases field with
  | none => exact iff_of_false nofun nofun
  | some bytes =>
      change required _ (X.deserializePublic bytes) = .ok key ↔ _
      simp [required_eq_ok]

theorem readPrivateKey_eq_ok {field : Option Bytes} {key : X.PrivateKey} :
    readPrivateKey X field = .ok key ↔
      ∃ bytes, field = some bytes ∧ X.deserializePrivate bytes = some key := by
  cases field with
  | none => exact iff_of_false nofun nofun
  | some bytes =>
      change required _ (X.deserializePrivate bytes) = .ok key ↔ _
      simp [required_eq_ok]

theorem readPool_ok_iff {field : Option String} :
    (∃ pool, readPool X field = .ok pool) ↔
      ∀ text, field = some text → ∃ pool, X.parsePool text = some pool := by
  cases field with
  | none => exact iff_of_true ⟨none, rfl⟩ nofun
  | some text =>
      cases parsed : X.parsePool text with
      | none => simp [readPool, required, parsed, bind, Except.bind]
      | some pool => simp [readPool, required, parsed, bind, Except.bind, pure, Except.pure]

/-- Read is a message whose fields are valid, and the profile key is as it was sent. -/
theorem readFields_ok {fields : LinkFields X} (read : readFields X message = .ok fields) :
    message.FieldsValid X ∧ message.profileKey = some fields.profileKey := by
  obtain ⟨aciPublic, aciPublicRead, read⟩ := Groups.exists_of_bind_ok read
  obtain ⟨aciPrivate, aciPrivateRead, read⟩ := Groups.exists_of_bind_ok read
  obtain ⟨pniPublic, pniPublicRead, read⟩ := Groups.exists_of_bind_ok read
  obtain ⟨pniPrivate, pniPrivateRead, read⟩ := Groups.exists_of_bind_ok read
  obtain ⟨profileKey, profileKeyRead, read⟩ := Groups.exists_of_bind_ok read
  obtain ⟨pool, poolRead, read⟩ := Groups.exists_of_bind_ok read
  obtain ⟨text, textRead, read⟩ := Groups.exists_of_bind_ok read
  obtain ⟨number, numberRead, read⟩ := Groups.exists_of_bind_ok read
  obtain ⟨code, codeRead, read⟩ := Groups.exists_of_bind_ok read
  cases read
  rw [required_eq_ok] at profileKeyRead textRead numberRead codeRead
  obtain ⟨aciPublicBytes, aciPublicRead⟩ := readPublicKey_eq_ok.mp aciPublicRead
  obtain ⟨aciPrivateBytes, aciPrivateRead⟩ := readPrivateKey_eq_ok.mp aciPrivateRead
  obtain ⟨pniPublicBytes, pniPublicRead⟩ := readPublicKey_eq_ok.mp pniPublicRead
  obtain ⟨pniPrivateBytes, pniPrivateRead⟩ := readPrivateKey_eq_ok.mp pniPrivateRead
  refine ⟨?_, profileKeyRead⟩
  exact {
    aciPublicKey := ⟨aciPublicBytes, aciPublic, aciPublicRead⟩
    aciPrivateKey := ⟨aciPrivateBytes, aciPrivate, aciPrivateRead⟩
    pniPublicKey := ⟨pniPublicBytes, pniPublic, pniPublicRead⟩
    pniPrivateKey := ⟨pniPrivateBytes, pniPrivate, pniPrivateRead⟩
    profileKey := ⟨profileKey, profileKeyRead⟩
    accountEntropyPool := readPool_ok_iff.mp ⟨pool, poolRead⟩
    phoneNumber := ⟨text, number, textRead, numberRead⟩
    provisioningCode := ⟨code, codeRead⟩ }

theorem readFields_valid (valid : message.FieldsValid X) :
    ∃ fields, readFields X message = .ok fields := by
  obtain ⟨aciPublicBytes, aciPublic, aciPublicRead⟩ := valid.aciPublicKey
  obtain ⟨aciPrivateBytes, aciPrivate, aciPrivateRead⟩ := valid.aciPrivateKey
  obtain ⟨pniPublicBytes, pniPublic, pniPublicRead⟩ := valid.pniPublicKey
  obtain ⟨pniPrivateBytes, pniPrivate, pniPrivateRead⟩ := valid.pniPrivateKey
  obtain ⟨profileKey, profileKeyRead⟩ := valid.profileKey
  obtain ⟨pool, poolRead⟩ := readPool_ok_iff.mpr valid.accountEntropyPool
  obtain ⟨text, number, textRead, numberRead⟩ := valid.phoneNumber
  obtain ⟨code, codeRead⟩ := valid.provisioningCode
  unfold readFields
  rw [readPublicKey_eq_ok.mpr ⟨_, aciPublicRead⟩, readPrivateKey_eq_ok.mpr ⟨_, aciPrivateRead⟩,
    readPublicKey_eq_ok.mpr ⟨_, pniPublicRead⟩, readPrivateKey_eq_ok.mpr ⟨_, pniPrivateRead⟩,
    profileKeyRead, poolRead, textRead, codeRead]
  change ∃ fields, ((required .invalidPhoneNumber (X.parseE164 text)).bind fun number => _) =
    .ok fields
  rw [numberRead]
  exact ⟨_, rfl⟩

end Fields

/-! ## Up to the message -/

section Receiving

variable {cipher : ProvisioningCipher X.toCurve} {id id' : Option Nat}
  {addressBody messageBody : Bytes} {envelope : ProvisionEnvelope} {message : ProvisionMessage}

theorem nextStep_calls (missing : ProvisioningError) (requests : List WebSocketRequestMessage) :
    Prog.Calls (fun c => ¬ c.Commits) (nextStep X cipher missing requests) := by
  cases requests with
  | nil => trivial
  | cons request rest =>
      apply (Prog.calls_lift (fun _ commits => commits) _).bind
      intro step
      trivial

theorem publish_calls (provisioning : SecondaryDeviceProvisioning X) (failure : String) :
    Prog.Calls (fun c => ¬ c.Commits) (publish X provisioning failure) := by
  refine ⟨fun commits => commits, ?_⟩
  intro heard _
  cases heard <;> trivial

theorem receiveMessage_calls (requests : List WebSocketRequestMessage) :
    Prog.Calls (fun c => ¬ c.Commits) (receiveMessage X cipher requests) := by
  apply (nextStep_calls _ _).bind
  intro next
  apply (Prog.calls_ofExcept _).bind
  intro url
  apply (publish_calls _ _).bind
  intro _
  apply (nextStep_calls _ _).bind
  intro last
  exact Prog.calls_ofExcept _

theorem nextStep_address (missing : ProvisioningError) (rest : List WebSocketRequestMessage) :
    Prog.Returns (fun next => next.2 = rest)
      (nextStep X cipher missing (addressRequest id addressBody :: rest)) := by
  apply Prog.Returns.last
  intro step
  rfl

theorem nextStep_message (missing : ProvisioningError) (rest : List WebSocketRequestMessage)
    (decoded : X.decodeProvisionEnvelope messageBody = some envelope)
    (opened : cipher.decrypt X envelope = .ret message) :
    Prog.Returns (fun next => next.1 = .message message)
      (nextStep X cipher missing (messageRequest id' messageBody :: rest)) := by
  have processed : Prog.Returns (· = .message message)
      (processRequest X cipher (messageRequest id' messageBody)) := by
    unfold processRequest messageRequest
    rw [if_neg (by simp), if_pos ⟨rfl, rfl⟩]
    change Prog.Returns _ ((Prog.ofOption _ (X.decodeProvisionEnvelope messageBody)).bind _)
    rw [decoded]
    change Prog.Returns _ ((Prog.ofExit (cipher.decrypt X envelope)).bind _)
    rw [opened]
    change Prog.Returns _ ((acknowledge id').bind fun _ => _)
    apply Prog.Returns.last
    intro _
    rfl
  apply processed.lift.bind
  rintro _ rfl
  rfl

/-- Whatever else happens, the message is what was decrypted. -/
theorem receiveMessage_decrypted
    (decoded : X.decodeProvisionEnvelope messageBody = some envelope)
    (opened : cipher.decrypt X envelope = .ret message) :
    Prog.Returns (· = message) (receiveMessage X cipher
      [addressRequest id addressBody, messageRequest id' messageBody]) := by
  apply (nextStep_address _ _).bind
  rintro ⟨step, _⟩ rfl
  apply Prog.Returns.last
  intro url
  apply Prog.Returns.last
  intro _
  apply (nextStep_message _ _ decoded opened).bind
  rintro ⟨_, rest⟩ rfl
  rfl

end Receiving

/-! ## From the message on -/

section Registering

variable {A : (c : LinkCall X) → LinkAnswer X c → Prop} {fields : LinkFields X}

theorem deviceKeys_throws {keys : LinkProg X (ReplenishedKeys X.toCurve)}
    (replenished : Prog.ThrowsWhen A (fun e => ¬ e.InvalidMessage) keys) :
    Prog.ThrowsWhen A (fun e => ¬ e.InvalidMessage) (deviceKeys X keys) := by
  apply replenished.bind
  intro keys
  apply Prog.ThrowsWhen.bind
  · cases keys.pqLastResortKey <;> trivial
  intro lastResort
  apply Prog.ThrowsWhen.bind
  · cases keys.preKeys.isEmpty <;> trivial
  intro _
  apply Prog.ThrowsWhen.bind
  · cases keys.pqPreKeys.isEmpty <;> trivial
  intro _
  trivial

theorem replenishAci_throws (keyPair : KeyPair X.toCurve) :
    Prog.ThrowsWhen A (fun e => ¬ e.InvalidMessage) (replenishAci X keyPair) :=
  Prog.ThrowsWhen.mapErr (Prog.throwsWhen_of_forall (fun _ => trivial) _)
    fun _ (_ : True) invalid => invalid

theorem replenishPni_throws (keyPair : KeyPair X.toCurve) :
    Prog.ThrowsWhen A (fun e => ¬ e.InvalidMessage) (replenishPni X keyPair) :=
  Prog.ThrowsWhen.mapErr (Prog.throwsWhen_of_forall (fun _ => trivial) _)
    fun _ (_ : True) invalid => invalid

theorem encryptDeviceName_throws (deviceName : String) (identityPublic : X.PublicKey) :
    Prog.ThrowsWhen A (fun e => ¬ e.InvalidMessage)
      (encryptDeviceName X deviceName identityPublic) := by
  refine Prog.ThrowsWhen.bind Prog.throwsWhen_ask ?_
  intro ephemeral
  apply Prog.ThrowsWhen.bind
  · generalize X.calculateAgreement (KeyPair.ofPrivate ephemeral).privateKey identityPublic = agreed
    cases agreed with
    | none => exact fun invalid => invalid
    | some masterSecret => trivial
  intro masterSecret
  trivial

/-- With a profile key of the right length, nothing is found wrong with the message any more. -/
theorem register_throws (ids : RegistrationIds) (password deviceName : String)
    (sized : fields.profileKey.length = 32) :
    Prog.ThrowsWhen A (fun e => ¬ e.InvalidMessage)
      (register X ids password deviceName fields) := by
  have created : profileKeyOf? fields.profileKey = some ⟨fields.profileKey, sized⟩ := dif_pos sized
  apply (deviceKeys_throws (replenishAci_throws _)).bind
  intro aciKeys
  apply (deviceKeys_throws (replenishPni_throws _)).bind
  intro pniKeys
  apply (encryptDeviceName_throws _ _).bind
  intro name
  rw [created]
  refine Prog.ThrowsWhen.bind trivial ?_
  intro profileKey
  -- the four conversions, and the answer of the service
  iterate 5
    refine Prog.ThrowsWhen.bind (Prog.ThrowsWhen.mapErr (Prog.throwsWhen_of_forall
      (fun _ => trivial) _) fun _ (_ : True) invalid => invalid) ?_
    intro _
  trivial

theorem generateSignedPreKey_saves {K : Curve} (identityKeyPair : KeyPair K)
    (nextSignedPreKeyId : UInt32) :
    Prog.Runs (PreKeyObliging K) (Prog.Makes PreKeyCall.Saves)
      (generateSignedPreKey identityKeyPair nextSignedPreKeyId) := by
  refine Prog.ReturnsWhen.before_makes Prog.returnsWhen_ask_any ?_
  intro privateKey _
  refine Prog.ReturnsWhen.before_makes (Prog.returnsWhen_await_ok fun _ signed => signed) ?_
  intro signature _
  refine Prog.ReturnsWhen.before_makes Prog.returnsWhen_ask_any ?_
  intro timestamp _
  apply Prog.Runs.makes_bind
  exact Prog.runs_makes trivial

theorem replenishPreKeys_saves {K : Curve} (identityKeyPair : KeyPair K) :
    Prog.Runs (PreKeyObliging K) (Prog.Makes PreKeyCall.Saves)
      (replenishPreKeys identityKeyPair true 0 0) := by
  refine Prog.ReturnsWhen.before_makes (Prog.returnsWhen_await_ok fun _ numbered => numbered) ?_
  intro preKeysOffsetId _
  refine Prog.ReturnsWhen.before_makes (Prog.returnsWhen_await_ok fun _ numbered => numbered) ?_
  intro nextSignedPreKeyId _
  refine Prog.ReturnsWhen.before_makes (Prog.returnsWhen_await_ok fun _ numbered => numbered) ?_
  intro pqPreKeysOffsetId _
  exact (generateSignedPreKey_saves identityKeyPair nextSignedPreKeyId).makes_bind _

/-- The keys of the account are saved before anything else is done. -/
theorem register_commits {pipeKey : X.PrivateKey} (ids : RegistrationIds)
    (password deviceName : String) :
    Prog.Runs (DeviceObliging pipeKey) (Prog.Makes LinkCall.Commits)
      (register X ids password deviceName fields) := by
  apply Prog.Runs.makes_bind
  apply Prog.Runs.makes_bind
  apply Prog.Runs.makes_mapErr
  exact (replenishPreKeys_saves _).makes_lift (fun _ _ answered => answered) fun _ saves => saves

/-- A profile key of another length is found wrong in the end. -/
theorem register_rejects {pipeKey : X.PrivateKey}
    (agrees : ∀ privateKey key, ∃ agreement, X.calculateAgreement privateKey key = some agreement)
    (ids : RegistrationIds) (password deviceName : String)
    (sized : fields.profileKey.length ≠ 32) :
    Prog.Runs (DeviceObliging pipeKey) (fun _ x => x = .throw .invalidProfileKey)
      (register X ids password deviceName fields) := by
  have refused : profileKeyOf? fields.profileKey = none := dif_neg sized
  apply (deviceKeys_returns (replenishAci_returns _)).bind
  intro aciKeys _
  apply (deviceKeys_returns (replenishPni_returns _)).bind
  intro pniKeys _
  apply (encryptDeviceName_returns agrees deviceName _).bind
  intro name _
  rw [refused]
  exact Prog.runs_done rfl

end Registering

/-! ## Linking -/

section Linking

variable {pipeKey : X.PrivateKey} {id id' : Option Nat} {addressBody messageBody : Bytes}
  {address : Option String} {envelope : ProvisionEnvelope} {message : ProvisionMessage}
  {password deviceName : String}
  (decoded : X.decodeProvisionEnvelope messageBody = some envelope)
  (opened : ProvisioningCipher.decrypt X (.fromKeyPair (.ofPrivate pipeKey)) envelope =
    .ret message)

include decoded opened

theorem linkDevice_untouched
    (sized : message.FieldsValid X → ∀ key, message.profileKey = some key → key.length = 32) :
    Prog.Runs (DrawnPipeKey pipeKey)
      (Prog.Before ProvisioningError.InvalidMessage fun c => ¬ c.Commits)
      (linkDevice X password deviceName
        [addressRequest id addressBody, messageRequest id' messageBody]) := by
  refine Prog.Runs.bind_before ((Prog.calls_await fun commits => commits).mapErr _)
    Prog.runs_post_true ?_
  intro _ _
  refine Prog.Runs.bind_before (Prog.calls_ask fun commits => commits) Prog.runs_post_true ?_
  intro registrationId _
  refine Prog.Runs.bind_before (Prog.calls_ask fun commits => commits) Prog.runs_post_true ?_
  intro pniRegistrationId _
  refine Prog.Runs.bind_before (V := (· = pipeKey)) (Prog.calls_ask fun commits => commits) ?_ ?_
  · exact Prog.runs_call fun _ drawn => Prog.runs_done drawn
  rintro _ rfl
  refine Prog.Runs.bind_before (receiveMessage_calls _)
    (receiveMessage_decrypted decoded opened).runs_post ?_
  intro received isMessage
  rw [isMessage]
  cases read : readFields X message with
  | error e =>
      refine Prog.Runs.bind_before (V := fun _ => False) trivial (Prog.runs_done trivial) ?_
      exact fun _ impossible => impossible.elim
  | ok fields =>
      obtain ⟨valid, profileKey⟩ := readFields_ok read
      apply Prog.ThrowsWhen.runs_before
      change Prog.ThrowsWhen _ _ ((register X _ password deviceName fields).bind _)
      apply (register_throws _ _ _ (sized valid _ profileKey)).bind
      intro registration
      refine Prog.ThrowsWhen.bind Prog.throwsWhen_ask ?_
      intro heard
      cases heard <;> trivial

theorem linkDevice_commits
    (agrees : ∀ privateKey key, ∃ agreement, X.calculateAgreement privateKey key = some agreement)
    (addressed : X.decodeProvisioningAddress addressBody = some address)
    {fields : LinkFields X} (read : readFields X message = .ok fields)
    (sized : fields.profileKey.length ≠ 32) :
    Prog.Runs (DeviceObliging pipeKey)
      (fun es x => x = .throw .invalidProfileKey ∧ Prog.Makes LinkCall.Commits es x)
      (linkDevice X password deviceName
        [addressRequest id addressBody, messageRequest id' messageBody]) := by
  apply linkDevice_start
  · intro es es' y ⟨threw, makes⟩
    exact ⟨threw, makes.append⟩
  intro ids
  refine Prog.Runs.bind (receiveMessage_runs addressed decoded opened) ?_
  intro shownIn message ⟨isMessage, shown⟩
  subst isMessage
  rw [read]
  have rejected : Prog.Runs (DeviceObliging pipeKey)
      (fun es x => x = .throw .invalidProfileKey ∧ ∃ event ∈ es, event.1.Commits)
      (register X ids password deviceName fields) := by
    intro es x trace answered
    exact ⟨register_rejects agrees ids password deviceName sized es x trace answered,
      register_commits ids password deviceName es x trace answered⟩
  refine Prog.Runs.mono (Prog.Runs.bind_throw rejected _) ?_
  intro es y ⟨threw, commits⟩
  exact ⟨threw, Prog.Makes.append commits⟩

theorem linkDevice_touched
    (agrees : ∀ privateKey key, ∃ agreement, X.calculateAgreement privateKey key = some agreement)
    (addressed : X.decodeProvisioningAddress addressBody = some address)
    (valid : message.FieldsValid X) {key : Bytes} (given : message.profileKey = some key)
    (sized : key.length ≠ 32) :
    ¬ Prog.Runs (DrawnPipeKey pipeKey)
      (Prog.Before ProvisioningError.InvalidMessage fun c => ¬ c.Commits)
      (linkDevice X password deviceName
        [addressRequest id addressBody, messageRequest id' messageBody]) := by
  intro untouched
  obtain ⟨fields, read⟩ := readFields_valid valid
  have same : key = fields.profileKey :=
    Option.some.inj (given.symm.trans (readFields_ok read).2)
  obtain ⟨es, x, ran, obliged⟩ := Prog.exists_answered (deviceObliging_answerable pipeKey)
    (linkDevice X password deviceName
      [addressRequest id addressBody, messageRequest id' messageBody])
  obtain ⟨threw, event, mem, commits⟩ :=
    linkDevice_commits decoded opened agrees addressed read (same ▸ sized) es x ran obliged
  have drawn : ∀ e ∈ es, DrawnPipeKey pipeKey e.1 e.2 :=
    fun e mem => drawnPipeKey_of_obliging (obliged e mem)
  exact untouched es x ran drawn _ threw trivial event mem commits

/-- Whatever is answered, a message that is found invalid has left the stores and the service
alone, except where the profile key alone is wrong. -/
theorem linkDevice_untouched_iff
    (agrees : ∀ privateKey key, ∃ agreement, X.calculateAgreement privateKey key = some agreement)
    (addressed : X.decodeProvisioningAddress addressBody = some address) :
    Prog.Runs (DrawnPipeKey pipeKey)
      (Prog.Before ProvisioningError.InvalidMessage fun c => ¬ c.Commits)
      (linkDevice X password deviceName
        [addressRequest id addressBody, messageRequest id' messageBody]) ↔
      (message.FieldsValid X → ∀ key, message.profileKey = some key → key.length = 32) := by
  constructor
  · intro untouched valid key given
    by_contra sized
    exact linkDevice_touched decoded opened agrees addressed valid given sized untouched
  · exact linkDevice_untouched decoded opened

end Linking

namespace Sample

theorem exists_envelope (message : ProvisionMessage) :
    ∃ envelope, ProvisioningCipher.decrypt provisioningExternals
      (.fromKeyPair (.ofPrivate pipeKey)) envelope = .ret message := by
  have answerable : ∀ c : CipherCall, ∃ _ : CipherAnswer curve c, True := by
    intro c
    cases c with
    | generateKeyPair => exact ⟨pipeKey, trivial⟩
    | randomIv => exact ⟨Vector.replicate 16 0, trivial⟩
  obtain ⟨es, x, ran, answered⟩ := Prog.exists_answered answerable
    (ProvisioningCipher.encrypt provisioningExternals
      (.fromPublic (provisioningExternals.publicKey pipeKey)) message)
  obtain ⟨envelope, -, opens⟩ := ProvisioningCipher.encrypt_opens provisioningExternals_lawful
    pipeKey message es x ran answered
  exact ⟨envelope, opens⟩

/-- What the primary sends, with these bytes for the profile key. -/
def messageWith (key : Bytes) : ProvisionMessage :=
  { (primaryWith none).message "482913" with profileKey := some key }

theorem messageWith_valid (key : Bytes) : (messageWith key).FieldsValid provisioningExternals := by
  have set : (primaryWith (some profileKey)).profileKey = some profileKey := rfl
  have read := readFields_message provisioningExternals_lawful set "482913"
  have valid := (readFields_ok read).1
  exact { valid with profileKey := ⟨key, rfl⟩ }

end Sample

theorem untouched_with_profile_key :
    ∃ envelope, ProvisioningCipher.decrypt Sample.provisioningExternals
        (.fromKeyPair (.ofPrivate Sample.pipeKey)) envelope =
          .ret (Sample.messageWith (List.replicate 32 7)) ∧
      Prog.Runs (DrawnPipeKey Sample.pipeKey)
        (Prog.Before ProvisioningError.InvalidMessage fun c => ¬ c.Commits)
        (linkDevice Sample.provisioningExternals "hunter2" "Desktop"
          [addressRequest (some 1) (Sample.encodeAddress Sample.linkAddress),
            messageRequest (some 2)
              (Sample.provisioningExternals.encodeProvisionEnvelope envelope)]) := by
  obtain ⟨envelope, opens⟩ := Sample.exists_envelope (Sample.messageWith (List.replicate 32 7))
  refine ⟨envelope, opens, (linkDevice_untouched_iff
    (Sample.provisioningExternals_lawful.envelope envelope) opens
    Sample.provisioningExternals_lawful.agrees Sample.linkAddress_decoded).mpr ?_⟩
  rintro - key ⟨⟩
  rfl

/-- With 31 bytes for the profile key, keys are saved before that is noticed. -/
theorem touched_with_short_profile_key :
    ∃ envelope, ProvisioningCipher.decrypt Sample.provisioningExternals
        (.fromKeyPair (.ofPrivate Sample.pipeKey)) envelope =
          .ret (Sample.messageWith (List.replicate 31 7)) ∧
      ¬ Prog.Runs (DrawnPipeKey Sample.pipeKey)
        (Prog.Before ProvisioningError.InvalidMessage fun c => ¬ c.Commits)
        (linkDevice Sample.provisioningExternals "hunter2" "Desktop"
          [addressRequest (some 1) (Sample.encodeAddress Sample.linkAddress),
            messageRequest (some 2)
              (Sample.provisioningExternals.encodeProvisionEnvelope envelope)]) := by
  obtain ⟨envelope, opens⟩ := Sample.exists_envelope (Sample.messageWith (List.replicate 31 7))
  refine ⟨envelope, opens, linkDevice_touched
    (Sample.provisioningExternals_lawful.envelope envelope) opens
    Sample.provisioningExternals_lawful.agrees Sample.linkAddress_decoded
    (Sample.messageWith_valid _) rfl ?_⟩
  simp

end SignalService

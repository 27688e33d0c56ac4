import SignalService.Reference

/-! # One message for each device

`create_encrypted_messages` goes over the devices of the recipient, with two attempts for
each. A device whose attempts both end with `SessionNotFound` is left out without an
error; no other device is, and none gets two messages.
-/

namespace SignalService.MessageSender

open Effect Prog

variable {X : Externals} {sender : MessageSender} {recipient : ServiceId}
  {certificate : Option SenderCertificate} {content : OutgoingContent} {device : DeviceId}

/-! ## The device a message is for -/

theorem encryptPadded_device {cipher : ServiceCipher} {address : ProtocolAddress}
    {record : SessionRecord} {padded : Bytes} :
    Returns (fun message => message.destinationDeviceId = address.deviceId)
      (encryptPadded X cipher address certificate record padded) := by
  cases certificate with
  | none => exact .last fun _ => .last fun _ => .last fun _ => rfl
  | some certificate => exact .last fun _ => .last fun _ => rfl

theorem encrypt_device {cipher : ServiceCipher} {address : ProtocolAddress} :
    Returns (fun message => message.destinationDeviceId = address.deviceId)
      (encrypt X cipher address certificate content) := by
  refine .last fun _ => .last fun record => ?_
  cases content with
  | plaintext serialized => exact .last fun _ => rfl
  | encrypted content =>
      refine .last fun usable => ?_
      cases usable with
      | false => trivial
      | true => exact .last fun _ => .last fun _ => encryptPadded_device

theorem createEncryptedMessage_device :
    Returns (fun message => message.destinationDeviceId = device)
      (sender.createEncryptedMessage X recipient certificate device content) := by
  refine .last fun session => ?_
  have encrypted : Returns (fun message => message.destinationDeviceId = device)
      ((encrypt X sender.cipher (X.protocolAddress recipient device) certificate content).mapErr
        MessageSenderError.serviceError) := .mapErr _ encrypt_device
  cases session with
  | some record => exact encrypted
  | none => exact .last fun _ => .last fun _ => encrypted

section Runs

variable (X sender recipient certificate content) {σ : Type} (h : Env σ)

/-! ## Two attempts for a device -/

/-- One attempt for a device. -/
def attemptIn (device : DeviceId) (s : σ) :
    Ran Call Answer MessageSenderError OutgoingPushMessage σ :=
  (sender.createEncryptedMessage X recipient certificate device content).run h s

/-- The attempt ends with `SessionNotFound`, and the session it names can be deleted; the
    state is then `t`. -/
def NotFoundIn (device : DeviceId) (s t : σ) : Prop :=
  ∃ address op,
    (sender.attemptIn X recipient certificate content h device s).exit =
      .throw (.serviceError (.signalProtocolError (.sessionNotFound (some address) op))) ∧
    h (.deleteSession address) (sender.attemptIn X recipient certificate content h device s).state =
      (.ok (), t)

/-- Both attempts for a device end so. -/
def GivenUp (device : DeviceId) (s : σ) : Prop :=
  ∃ t u, sender.NotFoundIn X recipient certificate content h device s t ∧
    sender.NotFoundIn X recipient certificate content h device t u

/-- The two attempts for one device. -/
def deviceIn (device : DeviceId) (s : σ) :
    Ran Call Answer MessageSenderError (Option OutgoingPushMessage) σ :=
  (sender.encryptForDevice X recipient certificate content device 2).run h s

/-- No device of the list is given up when the loop comes to it. -/
def NoneGivenUp : List DeviceId → σ → Prop
  | [], _ => True
  | device :: devices, s =>
      ¬ sender.GivenUp X recipient certificate content h device s ∧
        NoneGivenUp devices (sender.deviceIn X recipient certificate content h device s).state

variable {X sender recipient certificate content h}

variable (X sender recipient certificate content h device) in
/-- What `n + 1` attempts come to: a message at once, another `n` attempts, or an error. -/
theorem encryptForDevice_cases (n : Nat) (s : σ) :
    (∃ message, (sender.attemptIn X recipient certificate content h device s).exit = .ret message ∧
      ((sender.encryptForDevice X recipient certificate content device (n + 1)).run h s).exit =
        .ret (some message)) ∨
    (∃ t, sender.NotFoundIn X recipient certificate content h device s t ∧
      ((sender.encryptForDevice X recipient certificate content device (n + 1)).run h s).exit =
        ((sender.encryptForDevice X recipient certificate content device n).run h t).exit) ∨
    ((∀ t, ¬ sender.NotFoundIn X recipient certificate content h device s t) ∧
      ∀ result, ((sender.encryptForDevice X recipient certificate content device (n + 1)).run h
        s).exit ≠ .ret result) := by
  have step : ((sender.encryptForDevice X recipient certificate content device (n + 1)).run h
      s).exit = _ := run_bind_exit h _ _ _
  rw [run_attempt] at step
  change _ = (sender.attemptIn X recipient certificate content h device s).exit.attempt.bind _
    at step
  cases exit : (sender.attemptIn X recipient certificate content h device s).exit with
  | ret message =>
      rw [exit] at step
      exact .inl ⟨message, rfl, step⟩
  | panic m =>
      rw [exit] at step
      refine .inr (.inr ⟨?_, ?_⟩)
      · rintro t ⟨address, op, ended, -⟩
        rw [exit] at ended
        cases ended
      · intro result
        rw [step]
        exact Exit.panic_ne_ret m result
  | throw e =>
      rw [exit] at step
      right
      simp only [Exit.attempt, Exit.ret_bind] at step
      split at step
      · next message same => cases same
      · next address op same =>
          cases same
          rw [bind_eq, run_bind_exit, run_attempt] at step
          cases deleted : (h (.deleteSession address)
              (sender.attemptIn X recipient certificate content h device s).state).1 with
          | ok =>
              left
              refine ⟨_, ⟨address, op, exit, Prod.ext deleted rfl⟩, ?_⟩
              rw [step]
              change (Exit.ofExcept (h (.deleteSession address)
                (sender.attemptIn X recipient certificate content h device s).state).1).attempt.bind
                  _ = _
              rw [deleted]
              rfl
          | error e =>
              right
              change _ = (Exit.ofExcept (h (.deleteSession address)
                (sender.attemptIn X recipient certificate content h device s).state).1).attempt.bind
                  _ at step
              rw [deleted] at step
              constructor
              · rintro t ⟨address', op', ended, removed⟩
                rw [exit] at ended
                cases ended
                rw [removed] at deleted
                cases deleted
              · intro result
                rw [step]
                exact Exit.throw_ne_ret _ result
      · next e' other same =>
          cases same
          right
          constructor
          · rintro t ⟨address, op, ended, -⟩
            rw [exit] at ended
            cases ended
            exact other address op rfl
          · intro result
            rw [step]
            exact Exit.throw_ne_ret _ result

theorem NotFoundIn.unique {s t t' : σ}
    (first : sender.NotFoundIn X recipient certificate content h device s t)
    (second : sender.NotFoundIn X recipient certificate content h device s t') : t = t' := by
  obtain ⟨address, op, ended, deleted⟩ := first
  obtain ⟨address', op', ended', deleted'⟩ := second
  rw [ended] at ended'
  cases ended'
  rw [deleted] at deleted'
  cases deleted'
  rfl

theorem NotFoundIn.not_ret {s t : σ} {message : OutgoingPushMessage}
    (missing : sender.NotFoundIn X recipient certificate content h device s t) :
    (sender.attemptIn X recipient certificate content h device s).exit ≠ .ret message := by
  obtain ⟨address, op, ended, -⟩ := missing
  rw [ended]
  exact Exit.throw_ne_ret _ message

/-- The attempts for a device give it one message, leave it out, or end the call. -/
theorem deviceIn_cases (device : DeviceId) (s : σ) :
    (∃ message, (sender.deviceIn X recipient certificate content h device s).exit =
        .ret (some message) ∧ message.destinationDeviceId = device ∧
      ¬ sender.GivenUp X recipient certificate content h device s) ∨
    ((sender.deviceIn X recipient certificate content h device s).exit = .ret none ∧
      sender.GivenUp X recipient certificate content h device s) ∨
    ∀ result, (sender.deviceIn X recipient certificate content h device s).exit ≠ .ret result := by
  rcases encryptForDevice_cases X sender recipient certificate content device h 1 s with
    ⟨message, attempted, ended⟩ | ⟨t, missing, ended⟩ | ⟨-, failed⟩
  · refine .inl ⟨message, ended, createEncryptedMessage_device.run attempted, ?_⟩
    rintro ⟨t, u, missing, -⟩
    exact missing.not_ret attempted
  · rcases encryptForDevice_cases X sender recipient certificate content device h 0 t with
      ⟨message, attempted, ended'⟩ | ⟨u, missing', ended'⟩ | ⟨-, failed⟩
    · refine .inl ⟨message, ended.trans ended', createEncryptedMessage_device.run attempted, ?_⟩
      rintro ⟨t', u, missing', missing''⟩
      rw [← missing.unique missing'] at missing''
      exact missing''.not_ret attempted
    · exact .inr (.inl ⟨ended.trans ended', t, u, missing, missing'⟩)
    · refine .inr (.inr fun result returned => ?_)
      exact failed result (ended.symm.trans returned)
  · exact .inr (.inr failed)

/-! ## All devices -/

theorem encryptForDevices_cons_exit (device : DeviceId) (devices : List DeviceId) (s : σ) :
    ((sender.encryptForDevices X recipient certificate content (device :: devices)).run h s).exit =
      (sender.deviceIn X recipient certificate content h device s).exit.bind fun message =>
        ((sender.encryptForDevices X recipient certificate content devices).run h
          (sender.deviceIn X recipient certificate content h device s).state).exit.bind fun messages =>
            .ret (message.toList ++ messages) := by
  rw [encryptForDevices, bind_eq, run_bind_exit]
  congr 1
  funext message
  exact congrArg Ran.exit (run_bind_done h _ _ _)

/-- The messages are for some of the devices, in order, and for all of them exactly when
    none is given up. -/
theorem encryptForDevices_devices {devices : List DeviceId} {s : σ}
    {messages : List OutgoingPushMessage}
    (returned : ((sender.encryptForDevices X recipient certificate content devices).run h s).exit =
      .ret messages) :
    (messages.map (·.destinationDeviceId)).Sublist devices ∧
      (messages.map (·.destinationDeviceId) = devices ↔
        sender.NoneGivenUp X recipient certificate content h devices s) := by
  induction devices generalizing s messages with
  | nil =>
      cases returned
      exact ⟨.slnil, iff_of_true rfl trivial⟩
  | cons device devices ih =>
      rw [encryptForDevices_cons_exit] at returned
      obtain ⟨message, here, returned⟩ := Exit.bind_eq_ret.mp returned
      obtain ⟨rest, later, same⟩ := Exit.bind_eq_ret.mp returned
      cases same
      obtain ⟨sublist, all⟩ := ih later
      rcases deviceIn_cases device s with ⟨message', ended, target, kept⟩ | ⟨ended, lost⟩ | failed
      · rw [ended] at here
        cases here
        simp only [Option.toList_some, List.singleton_append, List.map_cons, target]
        refine ⟨sublist.cons_cons device, ?_⟩
        rw [List.cons.injEq, NoneGivenUp, and_iff_right rfl, and_iff_right kept]
        exact all
      · rw [ended] at here
        cases here
        simp only [Option.toList_none, List.nil_append]
        refine ⟨sublist.cons device, iff_of_false ?_ fun none => none.1 lost⟩
        intro same
        have length := sublist.length_le
        rw [same, List.length_cons] at length
        omega
      · exact absurd here (failed message)

/-! ## The recipient's devices -/

/-- The devices that the recipient has a session with, as far as the store says. -/
def storedIn (recipient : ServiceId) (h : Env σ) (s : σ) : List DeviceId :=
  match (h (.getSubDeviceSessions recipient) s).1 with
  | .ok subDevices => subDevices
  | .error _ => []

/-- A device that a message has to be made for: one with a session or the primary one, and
    not our own. -/
def IsTarget (sender : MessageSender) (recipient : ServiceId) (subDevices : List DeviceId)
    (device : DeviceId) : Prop :=
  (device ∈ subDevices ∨ device = defaultDeviceId) ∧
    ¬ (sender.IsOwn recipient ∧ device = sender.deviceId)

instance (subDevices : List DeviceId) :
    DecidablePred (sender.IsTarget recipient subDevices) := fun device => by
  unfold IsTarget
  infer_instance

theorem mem_targetDevices {subDevices : List DeviceId} :
    device ∈ sender.targetDevices recipient subDevices ↔
      sender.IsTarget recipient subDevices device := by
  unfold targetDevices IsTarget
  split
  · next own => simp [own, or_comm]
  · next other => simp [other, or_comm]

theorem nodup_targetDevices (subDevices : List DeviceId) :
    (sender.targetDevices recipient subDevices).Nodup := by
  unfold targetDevices
  split
  · exact (List.nodup_dedup _).filter _
  · exact List.nodup_dedup _

variable (sender recipient h) in
/-- The order in which the loop goes over the targets, and the state it starts from. -/
def targetsIn (s : σ) : List DeviceId × σ :=
  let asked := h (.getSubDeviceSessions recipient) s
  let order := h (.iterate (sender.targetDevices recipient (storedIn recipient h s))) asked.2
  (order.1.val, order.2)

variable (sender recipient h) in
theorem targetsIn_perm (s : σ) :
    (sender.targetsIn recipient h s).1.Perm
      (sender.targetDevices recipient (storedIn recipient h s)) :=
  (h (.iterate (sender.targetDevices recipient (storedIn recipient h s)))
    (h (.getSubDeviceSessions recipient) s).2).1.property

/-- The messages that are returned are those of the loop. -/
theorem createEncryptedMessages_loop {s : σ} {encrypted : EncryptedMessages}
    (returned : ((sender.createEncryptedMessages X recipient certificate content).run h s).exit =
      .ret (some encrypted)) :
    ((sender.encryptForDevices X recipient certificate content
      (sender.targetsIn recipient h s).1).run h (sender.targetsIn recipient h s).2).exit =
        .ret encrypted.messages := by
  unfold createEncryptedMessages at returned
  rw [bind_eq, run_bind_exit, run_mapErr] at returned
  obtain ⟨subDevices, stored, returned⟩ := Exit.bind_eq_ret.mp returned
  have asked : (h (.getSubDeviceSessions recipient) s).1 = .ok subDevices :=
    Exit.ofExcept_eq_ret.mp (Exit.mapErr_eq_ret.mp stored)
  have known : storedIn recipient h s = subDevices := by
    unfold storedIn
    rw [asked]
  rw [bind_eq, run_bind_exit] at returned
  obtain ⟨order, ordered, returned⟩ := Exit.bind_eq_ret.mp returned
  cases ordered
  rw [bind_eq, run_bind_exit] at returned
  obtain ⟨messages, made, returned⟩ := Exit.bind_eq_ret.mp returned
  unfold targetsIn
  rw [known]
  refine Eq.trans made ?_
  split at returned
  · cases returned
  · rw [bind_eq, run_bind_exit] at returned
    obtain ⟨key, -, same⟩ := Exit.bind_eq_ret.mp returned
    cases same
    rfl

/-- A list that picks from another one without repetitions has each of its members once
    exactly when it is the whole of it. -/
theorem count_eq_iff {picked all : List DeviceId} (sublist : picked.Sublist all)
    (nodup : all.Nodup) :
    (∀ device, picked.count device = if device ∈ all then 1 else 0) ↔ picked = all := by
  constructor
  · intro once
    apply sublist.eq_of_length
    apply List.Perm.length_eq
    rw [List.perm_iff_count]
    intro device
    rw [once device, nodup.count]
  · intro same device
    rw [same, nodup.count]

end Runs

section Examples

open Reference

/-- Sessions with two devices of another account. -/
def twoDevices (record : SessionRecord) : Store :=
  [(reference.protocolAddress (.aci remoteAci) defaultDeviceId, fresh),
    (reference.protocolAddress (.aci remoteAci) secondDevice, record)]

def emptyContent : OutgoingContent := .encrypted dataContentBytes

/-- The devices there are messages for. -/
def messageDevices (record : SessionRecord) : Exit MessageSenderError (Option (List DeviceId)) :=
  ((primary.createEncryptedMessages reference (.aci remoteAci) none emptyContent).run keyless
    (twoDevices record)).exit.bind fun encrypted =>
      .ret (encrypted.map fun e => e.messages.map (·.destinationDeviceId))

end Examples

end SignalService.MessageSender

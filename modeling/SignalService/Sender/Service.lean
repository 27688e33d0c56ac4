import SignalService.Reference
import SignalService.Repair.Rounds

/-! # A server with a fixed set of devices

The environment of a send whose recipient has a fixed set of devices with a fixed
registration id each: the server checks the access key, the devices and the registration
ids of a batch, in this order, and serves current pre-key bundles; the store is a map,
and identities are trusted. What is known of each device is a view in the sense of
`Repair`, and each step of a send is one of its operations.
-/

namespace SignalService

open Effect Prog

/-- The server, and the libsignal and the store on our side of it. -/
structure Service where
  recipient : ServiceId
  devices : List DeviceId
  primary_mem : defaultDeviceId ∈ devices
  registrationId : DeviceId → Nat
  accessKey : Bytes
  /-- What it serves: the account's identity and each device's keys. -/
  identityKey : Bytes
  keys : DeviceId → Bytes
  /-- Its JSON. -/
  mismatchedBody : MismatchedDevices → Bytes
  staleBody : StaleDevices → Bytes
  keysBody : PreKeyResponse → Bytes
  acceptedBody : Bytes
  /-- What our side makes of the keys. -/
  identity : IdentityKey
  bundle : DeviceId → PreKeyBundle
  /-- Session records: whether one can be used, the one after a message, and the one built
      from a bundle over what was there. -/
  usable : SessionRecord → Bool
  advance : SessionRecord → SessionRecord
  establish : Option SessionRecord → PreKeyBundle → SessionRecord
  ciphertext : SessionRecord → Bytes → CiphertextMessage
  sealedCiphertext : SessionRecord → SenderCertificate → Bytes → Bytes
  /-- The order of the `n`-th iteration over a set. -/
  order : Nat → (devices : List DeviceId) → { order : List DeviceId // order.Perm devices }

/-- The sessions, and how often a set was iterated. -/
structure World where
  sessions : ProtocolAddress → Option SessionRecord
  iterations : Nat

def World.put (w : World) (address : ProtocolAddress) (record : Option SessionRecord) : World :=
  { w with sessions := Function.update w.sessions address record }

namespace Service

variable (X : Externals) (S : Service)

def roster : Repair.Roster DeviceId := ⟨defaultDeviceId, S.devices, S.primary_mem⟩

/-- A batch as the server looks at it: the devices, and whether their ids are current. -/
def items (messages : List OutgoingPushMessage) : List (DeviceId × Bool) :=
  messages.map fun m => (m.destinationDeviceId,
    decide (m.destinationRegistrationId = S.registrationId m.destinationDeviceId))

def putAnswer (accessKey : Option Bytes) (batch : OutgoingPushMessages) :
    WebSocketResponseMessage :=
  if batch.destination ≠ S.recipient then { status := some 404 }
  else if accessKey ≠ none ∧ accessKey ≠ some S.accessKey then { status := some 401 }
  else match Repair.judge S.roster (S.items batch.messages) with
    | .mismatched missing extra =>
        { status := some 409, body := some (S.mismatchedBody ⟨missing, extra⟩) }
    | .outdated devices => { status := some 410, body := some (S.staleBody ⟨devices⟩) }
    | .accepted => { status := some 200, body := some S.acceptedBody }

def preKeyResponse (devices : List DeviceId) : PreKeyResponse :=
  ⟨S.identityKey, devices.map fun d => ⟨d, S.registrationId d, S.keys d⟩⟩

def keysAnswer (destination : ServiceId) (target : PreKeyTarget) : WebSocketResponseMessage :=
  if destination ≠ S.recipient then { status := some 404 }
  else match target with
    | .all => { status := some 200, body := some (S.keysBody (S.preKeyResponse S.devices)) }
    | .device d =>
        if d ∈ S.devices then
          { status := some 200, body := some (S.keysBody (S.preKeyResponse [d])) }
        else { status := some 404 }

def allDevices : List DeviceId := (List.range 128).filterMap DeviceId.ofNat?

def subDevices (w : World) (name : ServiceId) : List DeviceId :=
  allDevices.filter fun d =>
    d ≠ defaultDeviceId ∧ (w.sessions (X.protocolAddress name d)).isSome = true

def env : Env World
  | .loadSession address, w => (.ok (w.sessions address), w)
  | .getSubDeviceSessions name, w => (.ok (subDevices X w name), w)
  | .deleteSession address, w => (.ok (), w.put address none)
  | .getIdentity _, w => (.ok (some S.identity), w)
  | .hasUsableSenderChain record, w => (.ok (S.usable record), w)
  | .processPrekeyBundle remote _ bundle, w =>
      (.ok (), w.put remote (some (S.establish (w.sessions remote) bundle)))
  | .messageEncrypt plaintext remote _, w =>
      match w.sessions remote with
      | some record =>
          (.ok (S.ciphertext record plaintext), w.put remote (some (S.advance record)))
      | none => (.error (.sessionNotFound (some remote) "message_encrypt"), w)
  | .sealedSenderEncrypt remote certificate plaintext, w =>
      match w.sessions remote with
      | some record =>
          (.ok (S.sealedCiphertext record certificate plaintext),
            w.put remote (some (S.advance record)))
      | none => (.error (.sessionNotFound (some remote) "message_encrypt"), w)
  | .getKeys destination target, w => (.ok (S.keysAnswer destination target), w)
  | .putMessages accessKey batch, w => (.ok (S.putAnswer accessKey batch), w)
  | .iterate devices, w => (S.order w.iterations devices, { w with iterations := w.iterations + 1 })
  | c, w => (c.fallback, w)

/-- A record that libsignal can read: it has a current session of a version that is still
    spoken. -/
def Readable (record : SessionRecord) : Prop :=
  (∃ id, X.remoteRegistrationId record = .ok id) ∧
    ∃ version, X.sessionVersion record = .ok version ∧ 2 ≤ version

/-- What the send relies on: the server's JSON is read back, its keys make bundles, and a
    record stays what it is when its chain goes on. -/
structure Lawful : Prop where
  mismatched : ∀ m, X.jsonMismatchedDevices (X.utf8Lossy (S.mismatchedBody m)) = some m
  stale : ∀ m, X.jsonStaleDevices (X.utf8Lossy (S.staleBody m)) = some m
  allKeys : X.jsonPreKeyResponse (S.keysBody (S.preKeyResponse S.devices)) =
    some (S.preKeyResponse S.devices)
  deviceKeys : ∀ d ∈ S.devices, X.jsonPreKeyResponse (S.keysBody (S.preKeyResponse [d])) =
    some (S.preKeyResponse [d])
  accepted : ∃ response, X.jsonSendMessageResponse S.acceptedBody = some response
  identityKey : X.identityKey S.identityKey = .ok S.identity
  bundle : ∀ d ∈ S.devices, X.intoBundle ⟨d, S.registrationId d, S.keys d⟩ S.identity =
    .ok (S.bundle d)
  bundle_device : ∀ d ∈ S.devices, (S.bundle d).deviceId = d
  advance_registrationId : ∀ record, X.remoteRegistrationId (S.advance record) =
    X.remoteRegistrationId record
  advance_version : ∀ record, X.sessionVersion (S.advance record) = X.sessionVersion record
  advance_usable : ∀ record, S.usable (S.advance record) = S.usable record
  establish_registrationId : ∀ d ∈ S.devices, ∀ previous,
    X.remoteRegistrationId (S.establish previous (S.bundle d)) = .ok (S.registrationId d)
  establish_version : ∀ d ∈ S.devices, ∀ previous, ∃ version,
    X.sessionVersion (S.establish previous (S.bundle d)) = .ok version ∧ 2 ≤ version
  establish_usable : ∀ d ∈ S.devices, ∀ previous,
    S.usable (S.establish previous (S.bundle d)) = true
  ciphertext_type : ∀ record plaintext,
    (S.ciphertext record plaintext).messageType = .whisper ∨
      (S.ciphertext record plaintext).messageType = .preKey

/-! ## The view of the sessions -/

variable (sender : MessageSender) (content : OutgoingContent)

def isPlaintext : OutgoingContent → Bool
  | .plaintext _ => true
  | .encrypted _ => false

/-- A plaintext envelope asks nothing of the session it goes out with. -/
def ready (record : SessionRecord) : Bool := isPlaintext content || S.usable record

def address (d : DeviceId) : ProtocolAddress := X.protocolAddress S.recipient d

def status (d : DeviceId) (record : SessionRecord) : Repair.Status :=
  ⟨S.ready content record, decide (X.remoteRegistrationId record = .ok (S.registrationId d))⟩

/-- Our own device, which no message goes to. -/
def IsSelf (d : DeviceId) : Prop := sender.IsOwn S.recipient ∧ d = sender.deviceId

instance : DecidablePred (S.IsSelf sender) := fun _ => inferInstanceAs (Decidable (_ ∧ _))

def view (w : World) : Repair.View DeviceId := fun d =>
  if S.IsSelf sender d then none
  else (w.sessions (S.address X d)).map (S.status X content d)

/-- The records of the recipient can be read. -/
def Sound (w : World) : Prop :=
  ∀ d record, w.sessions (S.address X d) = some record → Readable X record

variable {X S sender content}

theorem address_inj {d e : DeviceId} : S.address X d = S.address X e ↔ d = e := by
  constructor
  · intro same
    exact congrArg ProtocolAddress.deviceId same
  · intro same
    rw [same]

theorem put_same (w : World) (d : DeviceId) (record : Option SessionRecord) :
    (w.put (S.address X d) record).sessions (S.address X d) = record :=
  Function.update_self ..

theorem put_other (w : World) {d e : DeviceId} (other : e ≠ d) (record : Option SessionRecord) :
    (w.put (S.address X d) record).sessions (S.address X e) = w.sessions (S.address X e) :=
  Function.update_of_ne (fun same => other (address_inj.mp same)) ..

theorem Sound.put_none {w : World} (sound : S.Sound X w) (d : DeviceId) :
    S.Sound X (w.put (S.address X d) none) := by
  intro e record held
  by_cases same : e = d
  · rw [same, put_same] at held
    cases held
  · rw [put_other w same] at held
    exact sound e record held

theorem Sound.put_some {w : World} (sound : S.Sound X w) {d : DeviceId} {record : SessionRecord}
    (readable : Readable X record) : S.Sound X (w.put (S.address X d) (some record)) := by
  intro e record' held
  by_cases same : e = d
  · rw [same, put_same] at held
    cases held
    exact readable
  · rw [put_other w same] at held
    exact sound e record' held

theorem view_put_of_ne {w : World} {d e : DeviceId} (other : e ≠ d)
    (record : Option SessionRecord) :
    S.view X sender content (w.put (S.address X d) record) e = S.view X sender content w e := by
  unfold view
  rw [put_other w other]

theorem view_put_same {w : World} {d : DeviceId} (other : ¬ S.IsSelf sender d)
    (record : Option SessionRecord) :
    S.view X sender content (w.put (S.address X d) record) d =
      record.map (S.status X content d) := by
  unfold view
  rw [put_same, if_neg other]

/-- A deleted session is a forgotten status. -/
theorem view_delete (w : World) (d : DeviceId) :
    S.view X sender content (w.put (S.address X d) none) =
      (S.view X sender content w).drop [d] := by
  funext e
  by_cases same : e = d
  · rw [same, Repair.View.drop_of_mem (List.mem_singleton_self d)]
    unfold view
    rw [put_same]
    split <;> rfl
  · rw [view_put_of_ne same, Repair.View.drop_of_not_mem (by simpa using same)]

/-- A session built from a bundle is a renewed status. -/
theorem view_establish (lawful : S.Lawful X) (w : World) {d : DeviceId} (device : d ∈ S.devices)
    (other : ¬ S.IsSelf sender d) (previous : Option SessionRecord) :
    S.view X sender content
        (w.put (S.address X d) (some (S.establish previous (S.bundle d)))) =
      (S.view X sender content w).renew [d] := by
  funext e
  by_cases same : e = d
  · rw [same, Repair.View.renew_of_mem (List.mem_singleton_self d), view_put_same other]
    simp [status, ready, lawful.establish_usable d device,
      lawful.establish_registrationId d device, Repair.Status.renewed]
  · rw [view_put_of_ne same, Repair.View.renew_of_not_mem (by simpa using same)]

/-- A message sent changes no status. -/
theorem view_advance (lawful : S.Lawful X) {w : World} {d : DeviceId} {record : SessionRecord}
    (held : w.sessions (S.address X d) = some record) :
    S.view X sender content (w.put (S.address X d) (some (S.advance record))) =
      S.view X sender content w := by
  funext e
  by_cases same : e = d
  · rw [same]
    unfold view
    rw [put_same, held]
    simp [status, ready, lawful.advance_usable, lawful.advance_registrationId]
  · exact view_put_of_ne same _

theorem Lawful.readable_advance (lawful : S.Lawful X) {record : SessionRecord}
    (readable : Readable X record) : Readable X (S.advance record) := by
  unfold Readable
  rw [lawful.advance_registrationId, lawful.advance_version]
  exact readable

theorem Lawful.readable_establish (lawful : S.Lawful X) {d : DeviceId} (device : d ∈ S.devices)
    (previous : Option SessionRecord) : Readable X (S.establish previous (S.bundle d)) :=
  ⟨⟨_, lawful.establish_registrationId d device previous⟩,
    lawful.establish_version d device previous⟩

/-! ## A message for one device -/

/-- With a session that can be used, the message is made and only the chain goes on. -/
theorem encrypt_leads (lawful : S.Lawful X) {w : World} {d : DeviceId} {record : SessionRecord}
    (held : w.sessions (S.address X d) = some record) (readable : Readable X record)
    (usable : S.ready content record = true) (cipher : ServiceCipher)
    (certificate : Option SenderCertificate) :
    ∃ message w',
      Leads (S.env X) (encrypt X cipher (S.address X d) certificate content) w (.ret message) w' ∧
      message.destinationDeviceId = d ∧
      X.remoteRegistrationId record = .ok message.destinationRegistrationId ∧
      (w' = w ∨ w' = w.put (S.address X d) (some (S.advance record))) := by
  obtain ⟨⟨id, registered⟩, version, versioned, spoken⟩ := readable
  have loaded : (S.env X) (.loadSession (S.address X d)) w = (.ok (some record), w) := by
    rw [← held]
    rfl
  have device : (S.address X d).deviceId = d := rfl
  cases content with
  | plaintext serialized =>
      simp [Leads, encrypt, Async.loadSession, Async.await, Prog.ofExcept, Prog.ofOption, loaded,
        SignalService.registrationId, registered, device]
  | encrypted content =>
      have record_usable : S.usable record = true := by simpa [ready, isPlaintext] using usable
      have checked : (S.env X) (.hasUsableSenderChain record) w = (.ok true, w) := by
        rw [← record_usable]
        rfl
      have padded : ∃ bytes, addPadding version content = .ok bytes := by
        unfold addPadding
        rw [if_neg (by omega)]
        split
        · exact ⟨_, rfl⟩
        · exact ⟨_, rfl⟩
      obtain ⟨bytes, padded⟩ := padded
      cases certificate with
      | some certificate =>
          have sealedStep : (S.env X) (.sealedSenderEncrypt (S.address X d) certificate bytes) w =
              (.ok (S.sealedCiphertext record certificate bytes),
                w.put (S.address X d) (some (S.advance record))) := by
            simp [env, held]
          simp [Leads, encrypt, Async.loadSession, Async.await, Prog.ofExcept, Prog.ofOption, loaded,
            recordUsable, checked, versioned, padded, encryptPadded,
            SignalService.registrationId, registered, device, sealedStep]
      | none =>
          have step : (S.env X) (.messageEncrypt bytes (S.address X d) cipher.localAddress) w =
              (.ok (S.ciphertext record bytes),
                w.put (S.address X d) (some (S.advance record))) := by
            simp [env, held]
          rcases lawful.ciphertext_type record bytes with type | type
          · simp [Leads, encrypt, Async.loadSession, Async.await, Prog.ofExcept, Prog.ofOption, loaded,
              recordUsable, checked, versioned, padded, encryptPadded,
              SignalService.registrationId, registered, device, step, Prog.ofExit, outgoingType, type]
          · simp [Leads, encrypt, Async.loadSession, Async.await, Prog.ofExcept, Prog.ofOption, loaded,
              recordUsable, checked, versioned, padded, encryptPadded,
              SignalService.registrationId, registered, device, step, Prog.ofExit, outgoingType, type]

theorem encrypt_leads_unready {w : World} {d : DeviceId} {record : SessionRecord}
    (held : w.sessions (S.address X d) = some record) (unusable : S.ready content record = false)
    (cipher : ServiceCipher) (certificate : Option SenderCertificate) :
    Leads (S.env X) (encrypt X cipher (S.address X d) certificate content) w
      (.throw (sessionNotFound (S.address X d))) w := by
  have loaded : (S.env X) (.loadSession (S.address X d)) w = (.ok (some record), w) := by
    rw [← held]
    rfl
  cases content with
  | plaintext serialized => simp [ready, isPlaintext] at unusable
  | encrypted content =>
      have record_unusable : S.usable record = false := by simpa [ready, isPlaintext] using unusable
      have checked : (S.env X) (.hasUsableSenderChain record) w = (.ok false, w) := by
        rw [← record_unusable]
        rfl
      simp [Leads, encrypt, Async.loadSession, Async.await, Prog.ofExcept, Prog.ofOption, loaded,
        recordUsable, checked, Prog.throw]

/-- The sessions after bundles of some devices were processed. -/
def establishAll (X : Externals) (S : Service) (w : World) : List DeviceId → World
  | [] => w
  | d :: ds =>
      establishAll X S (w.put (S.address X d)
        (some (S.establish (w.sessions (S.address X d)) (S.bundle d)))) ds

theorem view_establishAll (lawful : S.Lawful X) (unowned : ∀ d ∈ S.devices, ¬ S.IsSelf sender d)
    (w : World) {ds : List DeviceId} (devices : ∀ d ∈ ds, d ∈ S.devices) :
    S.view X sender content (establishAll X S w ds) = (S.view X sender content w).renew ds := by
  induction ds generalizing w with
  | nil =>
      funext d
      exact (Repair.View.renew_of_not_mem List.not_mem_nil).symm
  | cons d ds ih =>
      have device := devices d List.mem_cons_self
      rw [establishAll, ih _ fun e member => devices e (List.mem_cons_of_mem d member),
        view_establish lawful w device (unowned d device)]
      funext e
      simp only [Repair.View.renew, List.mem_cons, List.not_mem_nil, or_false]
      by_cases later : e ∈ ds <;> simp [later]

theorem Sound.establishAll (lawful : S.Lawful X) {w : World} (sound : S.Sound X w)
    {ds : List DeviceId} (devices : ∀ d ∈ ds, d ∈ S.devices) :
    S.Sound X (establishAll X S w ds) := by
  induction ds generalizing w with
  | nil => exact sound
  | cons d ds ih =>
      apply ih
      · exact sound.put_some (lawful.readable_establish (devices d List.mem_cons_self) _)
      · intro e member
        exact devices e (List.mem_cons_of_mem d member)

theorem establishSessions_leads (lawful : S.Lawful X)
    (unowned : ∀ d ∈ S.devices, ¬ S.IsSelf sender d) (w : World) {ds : List DeviceId}
    (devices : ∀ d ∈ ds, d ∈ S.devices) :
    Leads (S.env X) (sender.establishSessions X S.recipient (ds.map S.bundle)) w (.ret ())
      (establishAll X S w ds) := by
  induction ds generalizing w with
  | nil => exact ⟨rfl, rfl⟩
  | cons d ds ih =>
      have device := devices d List.mem_cons_self
      have other : ¬ (S.recipient = .aci sender.localAci ∧ sender.deviceId = d) := by
        rintro ⟨own, self⟩
        exact unowned d device ⟨.inl own, self.symm⟩
      have tail := ih (w.put (S.address X d)
        (some (S.establish (w.sessions (S.address X d)) (S.bundle d))))
        fun e member => devices e (List.mem_cons_of_mem d member)
      rw [List.map_cons, MessageSender.establishSessions, lawful.bundle_device d device,
        if_neg other]
      exact tail

theorem mapM_bundle (lawful : S.Lawful X) {ds : List DeviceId} (devices : ∀ d ∈ ds, d ∈ S.devices) :
    (S.preKeyResponse ds).devices.mapM (fun item => X.intoBundle item S.identity) =
      .ok (ds.map S.bundle) := by
  induction ds with
  | nil => rfl
  | cons d ds ih =>
      have tail := ih fun e member => devices e (List.mem_cons_of_mem d member)
      simp only [preKeyResponse, List.map_cons, List.mapM_cons] at tail ⊢
      rw [lawful.bundle d (devices d List.mem_cons_self), tail]
      rfl

theorem allBundles_eq (lawful : S.Lawful X) {ds : List DeviceId}
    (devices : ∀ d ∈ ds, d ∈ S.devices) :
    allBundles X (S.preKeyResponse ds) = .ok (ds.map S.bundle) := by
  have known : X.identityKey (S.preKeyResponse ds).identityKey = .ok S.identity :=
    lawful.identityKey
  unfold allBundles
  rw [known]
  exact mapM_bundle lawful devices

/-- The devices whose keys are served when those of `d` are asked for. -/
def served (S : Service) (d : DeviceId) : List DeviceId :=
  if d = defaultDeviceId then S.devices else [d]

theorem served_devices {d : DeviceId} (device : d ∈ S.devices) : ∀ e ∈ S.served d, e ∈ S.devices := by
  intro e member
  unfold served at member
  split at member
  · exact member
  · rw [List.mem_singleton.mp member]
    exact device

theorem mem_served {d : DeviceId} (device : d ∈ S.devices) : d ∈ S.served d := by
  unfold served
  split
  · exact device
  · exact List.mem_singleton_self d

theorem readGetKeys_ok {response : WebSocketResponseMessage} {keys : PreKeyResponse}
    (ok : response.status = some 200) (body : response.body.getD [] = S.keysBody keys)
    (read : X.jsonPreKeyResponse (S.keysBody keys) = some keys) :
    readGetKeys X (.ok response) = .ret keys := by
  have code : response.statusCode = 200 := by simp [WebSocketResponseMessage.statusCode, ok]
  simp [readGetKeys, baselineDecode, code, WebSocketResponseMessage.json, body, read]

theorem readGetKeys_all (lawful : S.Lawful X) :
    readGetKeys X (.ok (S.keysAnswer S.recipient .all)) = .ret (S.preKeyResponse S.devices) := by
  apply readGetKeys_ok (S := S)
  · simp [keysAnswer]
  · simp [keysAnswer]
  · exact lawful.allKeys

theorem readGetKeys_device (lawful : S.Lawful X) {d : DeviceId} (device : d ∈ S.devices) :
    readGetKeys X (.ok (S.keysAnswer S.recipient (.device d))) = .ret (S.preKeyResponse [d]) := by
  apply readGetKeys_ok (S := S)
  · simp [keysAnswer, device]
  · simp [keysAnswer, device]
  · exact lawful.deviceKeys d device

theorem fetchPreKeys_leads (lawful : S.Lawful X) (w : World) {d : DeviceId}
    (device : d ∈ S.devices) :
    Leads (S.env X) (MessageSender.fetchPreKeys X S.recipient d) w
      (.ret ((S.served d).map S.bundle)) w := by
  have bundles := allBundles_eq lawful (served_devices device)
  by_cases primary : d = defaultDeviceId
  · have served : S.served d = S.devices := if_pos primary
    rw [served] at bundles ⊢
    simp [Leads, MessageSender.fetchPreKeys, getPreKeys, primary, env, Prog.ofExit,
      readGetKeys_all lawful, bundles, Exit.attempt]
  · have served : S.served d = [d] := if_neg primary
    rw [served] at bundles ⊢
    simp only [Leads, MessageSender.fetchPreKeys, getPreKeys, if_neg primary, env, Prog.ofExit,
      bind_eq, call_attempt, call_bind, run_call_exit, run_call_state, readGetKeys_device lawful device,
      Exit.ret_bind, bundles, Exit.ofExcept_ok, done_attempt, Exit.attempt, ret_bind, pure_eq,
      run_done, and_self]

theorem loadSession_leads {ε : Type} (g : SignalProtocolError → ε) (w : World) (d : DeviceId) :
    Leads (S.env X) ((Async.loadSession (S.address X d)).mapErr g) w
      (.ret (w.sessions (S.address X d))) w :=
  ⟨rfl, rfl⟩

theorem establishAll_of_not_mem {w : World} {d : DeviceId} {ds : List DeviceId} (other : d ∉ ds) :
    (establishAll X S w ds).sessions (S.address X d) = w.sessions (S.address X d) := by
  induction ds generalizing w with
  | nil => rfl
  | cons e ds ih =>
      rw [List.mem_cons, not_or] at other
      rw [establishAll, ih other.2, put_other w other.1]

theorem establishAll_of_mem {w : World} {d : DeviceId} {ds : List DeviceId} (member : d ∈ ds) :
    ∃ previous, (establishAll X S w ds).sessions (S.address X d) =
      some (S.establish previous (S.bundle d)) := by
  induction ds generalizing w with
  | nil => cases member
  | cons e ds ih =>
      by_cases later : d ∈ ds
      · exact ih later
      · rcases List.mem_cons.mp member with rfl | member
        · refine ⟨_, (establishAll_of_not_mem later).trans (put_same _ _ _)⟩
        · exact absurd member later

variable (content) in
/-- Without a session the keys are fetched first, for all devices if it is the primary
    one, and the message is made with what they give. -/
theorem createEncryptedMessage_leads_absent (lawful : S.Lawful X)
    (unowned : ∀ d ∈ S.devices, ¬ S.IsSelf sender d) {w : World} (sound : S.Sound X w)
    {d : DeviceId} (device : d ∈ S.devices) (absent : w.sessions (S.address X d) = none)
    (certificate : Option SenderCertificate) :
    ∃ message w',
      Leads (S.env X) (sender.createEncryptedMessage X S.recipient certificate d content) w
        (.ret message) w' ∧
      message.destinationDeviceId = d ∧ message.destinationRegistrationId = S.registrationId d ∧
      S.view X sender content w' = (S.view X sender content w).renew (S.served d) ∧
      S.Sound X w' := by
  obtain ⟨previous, held⟩ := establishAll_of_mem (X := X) (w := w) (mem_served device)
  have usable : S.ready content (S.establish previous (S.bundle d)) = true := by
    simp [ready, lawful.establish_usable d device]
  obtain ⟨message, w', made, target, registered, changed⟩ := encrypt_leads lawful held
    (lawful.readable_establish device previous) usable sender.cipher certificate
  refine ⟨message, w', ?_, target, ?_, ?_, ?_⟩
  · apply (loadSession_leads _ w d).bind
    rw [absent]
    apply (fetchPreKeys_leads lawful w device).bind
    apply (establishSessions_leads lawful unowned w (served_devices device)).bind
    exact made.mapErr _
  · rw [lawful.establish_registrationId d device] at registered
    exact (Except.ok.inj registered).symm
  · rw [← view_establishAll lawful unowned w (served_devices device)]
    rcases changed with rfl | rfl
    · rfl
    · exact view_advance lawful held
  · have established := sound.establishAll lawful (served_devices device)
    rcases changed with rfl | rfl
    · exact established
    · exact established.put_some (lawful.readable_advance (lawful.readable_establish device _))

end Service

namespace Reference

/-! ## A server for the examples -/

theorem readNumbers_digits {cs : List Char} (digits : cs.all isDigit = true) (n : Option Nat)
    (rest : List Char) :
    readNumbers n (cs ++ rest) = readNumbers (cs.foldl addDigit n) rest := by
  induction cs generalizing n with
  | nil => rfl
  | cons c cs ih =>
      rw [List.all_cons, Bool.and_eq_true] at digits
      have inside : c ≠ ']' := by
        rintro rfl
        exact absurd digits.1 (by decide)
      have item : c ≠ ',' := by
        rintro rfl
        exact absurd digits.1 (by decide)
      rw [List.cons_append, readNumbers, if_neg inside, if_neg item, if_pos digits.1, ih digits.2]
      rfl

theorem digits_of_device (d : DeviceId) :
    (Nat.toDigits 10 d.val).all isDigit = true ∧
      (Nat.toDigits 10 d.val).foldl addDigit none = some d.val := by
  have all : ∀ n ∈ List.range 128, (Nat.toDigits 10 n).all isDigit = true ∧
      (Nat.toDigits 10 n).foldl addDigit none = some n := by decide +kernel
  have bound := d.valid
  exact all d.val (List.mem_range.mpr (by omega))

theorem readNumbers_writeDevices (ds : List DeviceId) (rest : List Char) :
    readNumbers none (writeDevices ds ++ rest) = some (ds.map (·.val), rest) := by
  unfold writeDevices
  rw [List.append_assoc, List.singleton_append]
  induction ds with
  | nil => simp [readNumbers]
  | cons d ds ih =>
      obtain ⟨digits, value⟩ := digits_of_device d
      cases ds with
      | nil =>
          rw [List.map_singleton, List.intercalate_singleton, readNumbers_digits digits, value]
          simp [readNumbers]
      | cons e ds =>
          rw [List.map_cons, List.map_cons, List.intercalate_cons_cons, List.append_assoc,
            List.append_assoc, readNumbers_digits digits, value, List.singleton_append, readNumbers]
          rw [List.map_cons] at ih
          simp [ih]

theorem mapM_ofNat (ds : List DeviceId) : (ds.map (·.val)).mapM DeviceId.ofNat? = some ds := by
  induction ds with
  | nil => rfl
  | cons d ds ih =>
      have known : DeviceId.ofNat? d.val = some d := by simp [DeviceId.ofNat?, d.valid]
      rw [List.map_cons, List.mapM_cons, known, ih]
      rfl

theorem readDevices_writeDevices (ds : List DeviceId) (rest : List Char) :
    readDevices (writeDevices ds ++ rest) = some (ds, rest) := by
  unfold readDevices
  simp only [readNumbers_writeDevices, Option.bind_eq_bind, Option.bind_some, mapM_ofNat]
  rfl

theorem dropPrefix_append (p rest : List Char) : (p ++ rest).dropPrefix? p = some rest := by
  rw [List.dropPrefix?_eq_some_iff]
  exact ⟨p, rfl, beq_self_eq_true p⟩

/-- Bytes below 128 are read back as they are written. -/
def IsAscii (cs : List Char) : Bool := cs.all (·.toNat < 128)

theorem utf8Lossy_ascii {cs : List Char} (plain : IsAscii cs = true) :
    reference.utf8Lossy (ascii (String.ofList cs)) = String.ofList cs := by
  have same : ∀ c ∈ cs, Char.ofNat (UInt8.ofNat c.toNat).toNat = c := by
    intro c member
    have small : c.toNat < 128 := by simpa using List.all_eq_true.mp plain c member
    rw [UInt8.toNat_ofNat_of_lt' (by simpa using (by omega : c.toNat < 256)), Char.ofNat_toNat]
  simp only [reference, ascii, String.toList_ofList, List.map_map]
  congr 1
  conv_rhs => rw [← List.map_id cs]
  exact List.map_congr_left same

theorem isAscii_append {cs ds : List Char} :
    IsAscii (cs ++ ds) = true ↔ IsAscii cs = true ∧ IsAscii ds = true := by
  simp [IsAscii]

theorem isAscii_digits (d : DeviceId) : IsAscii (Nat.toDigits 10 d.val) = true := by
  unfold IsAscii
  rw [List.all_eq_true]
  intro c member
  have digit := List.all_eq_true.mp (digits_of_device d).1 c member
  simp only [isDigit, Bool.and_eq_true, decide_eq_true_eq] at digit
  have bound : c.toNat ≤ 57 := digit.2
  simpa using (by omega : c.toNat < 128)

theorem isAscii_writeDevices (ds : List DeviceId) : IsAscii (writeDevices ds) = true := by
  unfold writeDevices
  refine isAscii_append.mpr ⟨?_, by decide⟩
  induction ds with
  | nil => rfl
  | cons d ds ih =>
      cases ds with
      | nil => simpa using isAscii_digits d
      | cons e ds =>
          rw [List.map_cons, List.map_cons, List.intercalate_cons_cons]
          rw [List.map_cons] at ih
          exact isAscii_append.mpr ⟨isAscii_append.mpr ⟨isAscii_digits d, by decide⟩, ih⟩

def mismatchedText (m : MismatchedDevices) : List Char :=
  missingMember ++ (writeDevices m.missingDevices ++
    (extraMember ++ (writeDevices m.extraDevices ++ ['\x7d'])))

def staleText (m : StaleDevices) : List Char :=
  staleMember ++ (writeDevices m.staleDevices ++ ['\x7d'])

/-- An account with the devices 1, 2 and 3. A session record is the registration id it was
    built with, after as many zeros as messages were sent with it; without an id it cannot
    be used. -/
def service (recipient : ServiceId) : Service where
  recipient := recipient
  devices := keyedDevices
  primary_mem := by decide
  registrationId := registrationId
  accessKey := List.replicate 16 1
  identityKey := identityBytes
  keys _ := keysMembers
  mismatchedBody m := ascii (String.ofList (mismatchedText m))
  staleBody m := ascii (String.ofList (staleText m))
  keysBody := keysBody
  acceptedBody := acceptedBody
  identity := ⟨identityBytes⟩
  bundle d := ⟨registrationId d, d, keysMembers, ⟨identityBytes⟩⟩
  usable record := record.serialized.any (· ≠ 0)
  advance record := ⟨0 :: record.serialized⟩
  establish _ bundle := ⟨[UInt8.ofNat bundle.registrationId]⟩
  ciphertext _ plaintext := ⟨.whisper, plaintext⟩
  sealedCiphertext _ _ plaintext := plaintext
  order _ devices := ⟨devices, .refl _⟩

theorem jsonMismatchedDevices_written (m : MismatchedDevices) :
    jsonMismatchedDevices (String.ofList (mismatchedText m)) = some m := by
  simp [jsonMismatchedDevices, mismatchedText, dropPrefix_append, readDevices_writeDevices]

theorem jsonStaleDevices_written (m : StaleDevices) :
    jsonStaleDevices (String.ofList (staleText m)) = some m := by
  simp [jsonStaleDevices, staleText, dropPrefix_append, readDevices_writeDevices]

/-- The body with all devices is longer than one with any of them. -/
theorem keysBody_all_ne {d : DeviceId} (device : d ∈ keyedDevices) :
    keysBody (preKeyResponse keyedDevices) ≠ keysBody (preKeyResponse [d]) := by
  intro same
  have lengths := congrArg List.length same
  have comma : (ascii ",").length = 1 := rfl
  simp only [keysBody, preKeyResponse, keyedDevices, List.map_cons, List.map_nil,
    List.intercalate_cons_cons, List.intercalate_singleton, List.length_append] at lengths
  simp only [keyedDevices, List.mem_cons, List.not_mem_nil, or_false] at device
  rcases device with rfl | rfl | rfl <;> omega

theorem jsonPreKeyResponse_all :
    jsonPreKeyResponse (keysBody (preKeyResponse keyedDevices)) =
      some (preKeyResponse keyedDevices) := by
  have other : keysBody (preKeyResponse keyedDevices) ≠ noDevicesBody := by decide +kernel
  rw [jsonPreKeyResponse, if_neg other]
  exact List.find?_cons_of_pos (decide_eq_true rfl)

theorem jsonPreKeyResponse_device {d : DeviceId} (device : d ∈ keyedDevices) :
    jsonPreKeyResponse (keysBody (preKeyResponse [d])) = some (preKeyResponse [d]) := by
  have other : ∀ d ∈ keyedDevices, keysBody (preKeyResponse [d]) ≠ noDevicesBody := by
    decide +kernel
  have different : ∀ d ∈ keyedDevices, ∀ e ∈ keyedDevices, e ≠ d →
      keysBody (preKeyResponse [e]) ≠ keysBody (preKeyResponse [d]) := by decide +kernel
  have found : (keyedDevices.map fun e => preKeyResponse [e]).find?
      (fun keys => keysBody keys = keysBody (preKeyResponse [d])) =
        (keyedDevices.find? (· = d)).map fun e => preKeyResponse [e] := by
    rw [List.find?_map, List.find?_congr]
    intro e member
    by_cases same : e = d
    · simp [same]
    · simp [same, different d device e member same]
  have first : ∀ d ∈ keyedDevices, keyedDevices.find? (· = d) = some d := by decide
  rw [jsonPreKeyResponse, if_neg (other d device), keyResponses,
    List.find?_cons_of_neg (by simpa using keysBody_all_ne device), found,
    first d device]
  rfl

theorem service_lawful (recipient : ServiceId) : (service recipient).Lawful reference where
  mismatched m := by
    have plain : IsAscii (mismatchedText m) = true :=
      isAscii_append.mpr ⟨by decide, isAscii_append.mpr ⟨isAscii_writeDevices _,
        isAscii_append.mpr ⟨by decide, isAscii_append.mpr ⟨isAscii_writeDevices _, by decide⟩⟩⟩⟩
    exact (congrArg jsonMismatchedDevices (utf8Lossy_ascii plain)).trans
      (jsonMismatchedDevices_written m)
  stale m := by
    have plain : IsAscii (staleText m) = true :=
      isAscii_append.mpr ⟨by decide, isAscii_append.mpr ⟨isAscii_writeDevices _, by decide⟩⟩
    exact (congrArg jsonStaleDevices (utf8Lossy_ascii plain)).trans (jsonStaleDevices_written m)
  allKeys := jsonPreKeyResponse_all
  deviceKeys _ device := jsonPreKeyResponse_device device
  accepted := by
    have read : jsonSendMessageResponse acceptedBody = some ⟨false⟩ := by decide +kernel
    exact ⟨_, read⟩
  identityKey := rfl
  bundle _ _ := rfl
  bundle_device _ _ := rfl
  advance_registrationId record := by simp [service, reference]
  advance_version _ := rfl
  advance_usable record := by simp [service]
  establish_registrationId := by
    have established : ∀ d ∈ keyedDevices,
        reference.remoteRegistrationId ⟨[UInt8.ofNat (registrationId d)]⟩ =
          .ok (registrationId d) := by decide +kernel
    exact fun d device _ => established d device
  establish_version _ _ _ := ⟨3, rfl, by decide⟩
  establish_usable := by
    have established : ∀ d ∈ keyedDevices,
        ([UInt8.ofNat (registrationId d)].any (· ≠ 0)) = true := by decide +kernel
    exact fun d device _ => established d device
  ciphertext_type _ _ := .inl rfl

end Reference

end SignalService

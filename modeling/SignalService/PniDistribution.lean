import SignalService.AccountManager
import SignalService.Effect.Runs
import SignalService.Reference
import SignalService.Sender.Batches

/-! # What the devices of an account are handed

The keys that `pnp_initialize_devices` tells the service of, and those that it sends to the
linked devices, come from the same loop. Whatever the store and the generator of the keys answer,
a device finds in its message the keys that the service knows it by.
-/

namespace SignalService.AccountManager

open Effect Prog

/-! ## Registration ids -/

/-- What `random_range(1..16380)` draws. -/
def generateRegistrationId (draw : Fin 16379) : Nat := draw.val + 1

/-- The loop that draws until it finds an id that is not in use, as far as it draws. -/
def drawRegistrationId (used : List Nat) : List (Fin 16379) → Option Nat
  | [] => none
  | draw :: draws =>
      if generateRegistrationId draw ∈ used then drawRegistrationId used draws
      else some (generateRegistrationId draw)

/-- What the loop ends with is an answer to `freshRegistrationId`. -/
theorem drawRegistrationId_fresh {used : List Nat} {draws : List (Fin 16379)} {id : Nat}
    (drawn : drawRegistrationId used draws = some id) : id ∉ used := by
  induction draws with
  | nil => cases drawn
  | cons draw draws ih =>
      unfold drawRegistrationId at drawn
      split at drawn
      case isTrue => exact ih drawn
      case isFalse unused =>
          cases drawn
          exact unused

/-! ## Stores -/

variable (X : Externals) (sender : MessageSender) (localAci : Aci)

/-- How a store answers that lists these devices of our account, and has sessions with some. -/
def StoreAnswers (ids : List DeviceId) (sessions : DeviceId → Bool) :
    (c : Call) → Answer c → Prop
  | .getSubDeviceSessions _, answer => ∀ devices, answer = .ok devices → devices = ids
  | .loadSession address, answer => ∀ device ∈ ids,
      address = X.protocolAddress (.aci localAci) device →
        ∀ session, answer = .ok session → session.isSome = sessions device
  | _, _ => True

/-! ## Messages -/

/-- The message is this content, encrypted for the session at this address. -/
def Sealed (address : ProtocolAddress) (content : Bytes) (es : List CallEvent)
    (message : OutgoingPushMessage) : Prop :=
  ∃ version padded ciphertext, addPadding version content = .ok padded ∧
    ⟨.messageEncrypt padded address sender.cipher.localAddress, .ok ciphertext⟩ ∈ es ∧
    message.destinationDeviceId = address.deviceId ∧
    message.content = X.base64 ciphertext.serialized

/-- The device is sent these three in a `PniChangeNumber`. -/
def Hands (es : List CallEvent) (device : DeviceId) (signedPreKey lastResortKey : Bytes)
    (registrationId : Nat) (message : OutgoingPushMessage) : Prop :=
  ∃ change padding, change.signedPreKey = some signedPreKey ∧
    change.lastResortKyberPreKey = some lastResortKey ∧
    change.registrationId = some registrationId ∧
    Sealed X sender (X.protocolAddress (.aci localAci) device)
      (X.encodeContent ((ContentBody.synchronizeMessage
        { content := some (.pniChangeNumber change), padding := some padding }).intoProto X))
      es message

variable {X sender localAci}

theorem Sealed.mono {address : ProtocolAddress} {content : Bytes} {es es' : List CallEvent}
    {message : OutgoingPushMessage} (sub : ∀ e ∈ es, e ∈ es')
    (sealed : Sealed X sender address content es message) :
    Sealed X sender address content es' message := by
  obtain ⟨version, padded, ciphertext, pads, encrypted, rest⟩ := sealed
  exact ⟨version, padded, ciphertext, pads, sub _ encrypted, rest⟩

theorem Hands.mono {es es' : List CallEvent} {device : DeviceId}
    {signedPreKey lastResortKey : Bytes} {registrationId : Nat} {message : OutgoingPushMessage}
    (sub : ∀ e ∈ es, e ∈ es')
    (hands : Hands X sender localAci es device signedPreKey lastResortKey registrationId message) :
    Hands X sender localAci es' device signedPreKey lastResortKey registrationId message := by
  obtain ⟨change, padding, signed, lastResort, id, sealed⟩ := hands
  exact ⟨change, padding, signed, lastResort, id, sealed.mono sub⟩

section Sealing

variable {A : (c : Call) → Answer c → Prop} {address : ProtocolAddress} {content : Bytes}

theorem sealed_more (es es' : List CallEvent) (message : OutgoingPushMessage)
    (sealed : Sealed X sender address content es' message) :
    Sealed X sender address content (es ++ es') message :=
  sealed.mono fun _ member => List.mem_append_right _ member

theorem encryptPadded_sealed {record : SessionRecord} {version : Nat} {padded : Bytes}
    (pads : addPadding version content = .ok padded) :
    Runs A (Post (Sealed X sender address content) True)
      (encryptPadded X sender.cipher address none record padded) := by
  refine Runs.bind_post (runs_await_post.mapErr_post _) ?_
  rintro _ ciphertext ⟨answer, rfl, -, rfl⟩
  refine Runs.bind_post runs_post_true fun _ _ _ => ?_
  refine Runs.bind_post runs_post_true fun _ _ _ => ?_
  exact runs_ret_post ⟨version, padded, ciphertext, pads, List.mem_cons_self, rfl, rfl⟩

theorem encrypt_sealed :
    Runs A (Post (Sealed X sender address content) True)
      (encrypt X sender.cipher address none (.encrypted content)) := by
  refine Runs.before_post sealed_more runs_post_true fun _ _ => ?_
  refine Runs.before_post sealed_more runs_post_true fun record _ => ?_
  refine Runs.before_post sealed_more runs_post_true fun usable _ => ?_
  cases usable with
  | false => exact runs_done trivial
  | true =>
      refine Runs.before_post sealed_more runs_post_true fun version _ => ?_
      exact Runs.before_post sealed_more runs_ofExcept_post fun padded pads =>
        encryptPadded_sealed pads

theorem createEncryptedMessage_sealed {recipient : ServiceId} {device : DeviceId} :
    Runs A (Post (Sealed X sender (X.protocolAddress recipient device) content) True)
      (sender.createEncryptedMessage X recipient none device (.encrypted content)) := by
  have encrypted : Runs A (Post (Sealed X sender (X.protocolAddress recipient device) content) True)
      ((encrypt X sender.cipher (X.protocolAddress recipient device) none
        (.encrypted content)).mapErr MessageSenderError.serviceError) :=
    encrypt_sealed.mapErr_post _
  refine Runs.before_post sealed_more runs_post_true fun session _ => ?_
  cases session with
  | some record => exact encrypted
  | none =>
      refine Runs.before_post sealed_more runs_post_true fun bundles _ => ?_
      exact Runs.before_post sealed_more runs_post_true fun _ _ => encrypted

end Sealing

/-! ## One device -/

variable (X sender localAci) in
/-- What is gathered once the device has had its turn. -/
def Extends (device : DeviceId) (devices : PniDevices) (es : List CallEvent)
    (devices' : PniDevices) : Prop :=
  ∃ signedPreKey signedEntity lastResortKey lastResortEntity registrationId,
    X.signedPreKeyEntity signedPreKey = .ok signedEntity ∧
    X.kyberPreKeyEntity lastResortKey = .ok lastResortEntity ∧
    (device ≠ defaultDeviceId → registrationId ∉ devices.registrationIds.map Prod.snd) ∧
    devices'.signedPreKeys = insertEntry devices.signedPreKeys device signedEntity ∧
    devices'.lastResortKyberPreKeys =
      insertEntry devices.lastResortKyberPreKeys device lastResortEntity ∧
    devices'.registrationIds = insertEntry devices.registrationIds device registrationId ∧
    if device = defaultDeviceId then devices'.deviceMessages = devices.deviceMessages
    else ∃ message, devices'.deviceMessages = devices.deviceMessages ++ [message] ∧
      Hands X sender localAci es device signedPreKey lastResortKey registrationId message

theorem extends_more {device : DeviceId} {devices : PniDevices} (es es' : List CallEvent)
    (devices' : PniDevices) (extended : Extends X sender localAci device devices es' devices') :
    Extends X sender localAci device devices (es ++ es') devices' := by
  obtain ⟨signedPreKey, signedEntity, lastResortKey, lastResortEntity, registrationId, signed, kyber,
    fresh, signedKeys, lastResortKeys, ids, messages⟩ := extended
  refine ⟨signedPreKey, signedEntity, lastResortKey, lastResortEntity, registrationId, signed, kyber,
    fresh, signedKeys, lastResortKeys, ids, ?_⟩
  split at messages
  case isTrue primary =>
    rw [if_pos primary]
    exact messages
  case isFalse linked =>
    obtain ⟨message, appended, hands⟩ := messages
    rw [if_neg linked]
    exact ⟨message, appended, hands.mono fun _ member => List.mem_append_right _ member⟩

section Loop

variable {A : (c : Call) → Answer c → Prop} {e164 : String} {pniIdentity : IdentityKeyPair}

theorem deviceRegistrationId_fresh {device : DeviceId} {used : List Nat} :
    Runs A (Post (fun _ id => device ≠ defaultDeviceId → id ∉ used) True)
      (deviceRegistrationId device used) := by
  unfold deviceRegistrationId
  split
  case isTrue primary =>
    exact runs_post_true.mono_post (fun _ _ _ linked => absurd primary linked) id
  case isFalse => exact runs_call fun answer _ => runs_done fun _ => answer.property

theorem initializeDevice_extends {device : DeviceId} {devices : PniDevices} :
    Runs A (Post (Extends X sender localAci device devices) True)
      (initializeDevice X sender localAci e164 pniIdentity device devices) := by
  refine Runs.before_post extends_more runs_post_true fun keys _ => ?_
  refine Runs.before_post extends_more deviceRegistrationId_fresh fun registrationId fresh => ?_
  refine Runs.before_post extends_more (runs_ofExcept_post.mapErr_post _)
    fun signedEntity signed => ?_
  refine Runs.before_post extends_more runs_post_true fun lastResortKey _ => ?_
  refine Runs.before_post extends_more (runs_ofExcept_post.mapErr_post _)
    fun lastResortEntity kyber => ?_
  refine Runs.before_post extends_more runs_post_true fun _ _ => ?_
  refine Runs.before_post extends_more runs_post_true fun _ _ => ?_
  split
  case isTrue primary =>
    exact runs_ret_post ⟨keys.signedPreKey, signedEntity, lastResortKey, lastResortEntity,
      registrationId, signed, kyber, fresh, rfl, rfl, rfl, by rw [if_pos primary]⟩
  case isFalse linked =>
    refine Runs.before_post extends_more runs_post_true fun padding _ => ?_
    refine Runs.bind_post createEncryptedMessage_sealed fun es message sealed => ?_
    apply runs_ret_post
    refine ⟨keys.signedPreKey, signedEntity, lastResortKey, lastResortEntity, registrationId, signed,
      kyber, fresh, rfl, rfl, rfl, ?_⟩
    rw [if_neg linked]
    exact ⟨message, rfl, ⟨some pniIdentity.serialized, some keys.signedPreKey, some lastResortKey,
      some registrationId, some e164⟩, padding, rfl, rfl, rfl,
      sealed.mono fun _ member => List.mem_append_left _ member⟩

/-! ## All of them -/

variable (X sender localAci) in
/-- The device is handed what stands under it in the maps. -/
def Handed (es : List CallEvent) (devices : PniDevices) (device : DeviceId)
    (message : OutgoingPushMessage) : Prop :=
  ∃ signedPreKey signedEntity lastResortKey lastResortEntity registrationId,
    X.signedPreKeyEntity signedPreKey = .ok signedEntity ∧
    (device, signedEntity) ∈ devices.signedPreKeys ∧
    X.kyberPreKeyEntity lastResortKey = .ok lastResortEntity ∧
    (device, lastResortEntity) ∈ devices.lastResortKyberPreKeys ∧
    (device, registrationId) ∈ devices.registrationIds ∧
    Hands X sender localAci es device signedPreKey lastResortKey registrationId message

variable (X sender localAci) in
/-- The maps have the devices that had their turn, and each of them but the primary has one
message, with what the maps have. -/
structure Gathered (es : List CallEvent) (done : List DeviceId) (devices : PniDevices) : Prop where
  signedPreKeys : devices.signedPreKeys.map Prod.fst = done
  lastResortKyberPreKeys : devices.lastResortKyberPreKeys.map Prod.fst = done
  registrationIds : devices.registrationIds.map Prod.fst = done
  distinct : (devices.registrationIds.map Prod.snd).Nodup
  messages : List.Forall₂ (Handed X sender localAci es devices)
    (done.filter (· ≠ defaultDeviceId)) devices.deviceMessages

theorem Handed.mono {es es' : List CallEvent} {devices devices' : PniDevices} {device : DeviceId}
    {message : OutgoingPushMessage} (sub : ∀ e ∈ es, e ∈ es')
    (signedKeys : devices.signedPreKeys ⊆ devices'.signedPreKeys)
    (lastResortKeys : devices.lastResortKyberPreKeys ⊆ devices'.lastResortKyberPreKeys)
    (ids : devices.registrationIds ⊆ devices'.registrationIds)
    (handed : Handed X sender localAci es devices device message) :
    Handed X sender localAci es' devices' device message := by
  obtain ⟨signedPreKey, signedEntity, lastResortKey, lastResortEntity, registrationId, signed,
    inSigned, kyber, inLastResort, inIds, hands⟩ := handed
  exact ⟨signedPreKey, signedEntity, lastResortKey, lastResortEntity, registrationId, signed,
    signedKeys inSigned, kyber, lastResortKeys inLastResort, ids inIds, hands.mono sub⟩

theorem Gathered.mono {es es' : List CallEvent} {done : List DeviceId} {devices : PniDevices}
    (sub : ∀ e ∈ es, e ∈ es') (gathered : Gathered X sender localAci es done devices) :
    Gathered X sender localAci es' done devices :=
  { gathered with
    messages := gathered.messages.imp fun _ _ handed =>
      handed.mono sub (List.Subset.refl _) (List.Subset.refl _) (List.Subset.refl _) }

theorem insertEntry_of_not_mem {α : Type} {entries : List (DeviceId × α)} {device : DeviceId}
    (absent : device ∉ entries.map Prod.fst) (value : α) :
    insertEntry entries device value = entries ++ [(device, value)] := by
  unfold insertEntry
  rw [List.filter_eq_self.mpr]
  intro entry member
  apply decide_eq_true
  rintro rfl
  exact absent (List.mem_map_of_mem member)

theorem gathered_empty : Gathered X sender localAci [] [] .empty :=
  ⟨rfl, rfl, rfl, .nil, .nil⟩

/-- One more device, and the invariant goes on. -/
theorem Gathered.step {es es' : List CallEvent} {done : List DeviceId} {device : DeviceId}
    {devices devices' : PniDevices} (gathered : Gathered X sender localAci es done devices)
    (new : device ∉ done) (first : device = defaultDeviceId → done = [])
    (extended : Extends X sender localAci device devices es' devices') :
    Gathered X sender localAci (es ++ es') (done ++ [device]) devices' := by
  obtain ⟨signedPreKey, signedEntity, lastResortKey, lastResortEntity, registrationId, signed, kyber,
    fresh, signedKeys, lastResortKeys, ids, messages⟩ := extended
  rw [insertEntry_of_not_mem (by rw [gathered.signedPreKeys]; exact new)] at signedKeys
  rw [insertEntry_of_not_mem (by rw [gathered.lastResortKyberPreKeys]; exact new)] at lastResortKeys
  rw [insertEntry_of_not_mem (by rw [gathered.registrationIds]; exact new)] at ids
  have unused : registrationId ∉ devices.registrationIds.map Prod.snd := by
    by_cases primary : device = defaultDeviceId
    · have none := gathered.registrationIds
      rw [first primary, List.map_eq_nil_iff] at none
      simp [none]
    · exact fresh primary
  have kept : ∀ device message, Handed X sender localAci es devices device message →
      Handed X sender localAci (es ++ es') devices' device message := by
    intro device message handed
    refine handed.mono (fun _ member => List.mem_append_left _ member) ?_ ?_ ?_
    · rw [signedKeys]
      exact List.subset_append_left ..
    · rw [lastResortKeys]
      exact List.subset_append_left ..
    · rw [ids]
      exact List.subset_append_left ..
  refine ⟨?_, ?_, ?_, ?_, ?_⟩
  · rw [signedKeys, List.map_append, gathered.signedPreKeys]
    rfl
  · rw [lastResortKeys, List.map_append, gathered.lastResortKyberPreKeys]
    rfl
  · rw [ids, List.map_append, gathered.registrationIds]
    rfl
  · rw [ids, List.map_append]
    exact gathered.distinct.append (List.nodup_singleton _) (List.disjoint_singleton.mpr unused)
  · rw [List.filter_append]
    split at messages
    case isTrue primary =>
      rw [messages]
      simpa [primary] using gathered.messages.imp kept
    case isFalse linked =>
      obtain ⟨message, appended, hands⟩ := messages
      rw [appended]
      refine List.rel_append (gathered.messages.imp kept) ?_
      rw [List.filter_cons_of_pos (by simpa using linked), List.filter_nil]
      refine .cons ⟨signedPreKey, signedEntity, lastResortKey, lastResortEntity, registrationId,
        signed, ?_, kyber, ?_, ?_, hands.mono fun _ member => List.mem_append_right _ member⟩ .nil
      · simp [signedKeys]
      · simp [lastResortKeys]
      · simp [ids]

theorem isSkipped_post {ids : List DeviceId} {sessions : DeviceId → Bool} {device : DeviceId}
    (listed : device ∈ ids) (linked : device ≠ defaultDeviceId) :
    Runs (StoreAnswers X localAci ids sessions)
      (Post (fun _ skipped => skipped = !sessions device) True)
      (isSkipped X localAci device) := by
  unfold isSkipped
  rw [if_neg linked]
  refine Runs.bind_post (runs_await_post.mapErr_post _) ?_
  rintro _ session ⟨answer, rfl, answered, loaded⟩
  apply runs_ret_post
  rw [← answered device listed rfl session loaded]
  cases session <;> rfl

theorem initializeDevices_gathers {ids : List DeviceId} {sessions : DeviceId → Bool}
    {rest done : List DeviceId} {es : List CallEvent} {devices : PniDevices}
    (listed : ∀ device ∈ rest, device ∈ ids ∧ device ≠ defaultDeviceId) (distinct : rest.Nodup)
    (new : ∀ device ∈ rest, device ∉ done) (gathered : Gathered X sender localAci es done devices) :
    Runs (StoreAnswers X localAci ids sessions)
      (Post (fun es' devices' =>
        Gathered X sender localAci (es ++ es') (done ++ rest.filter sessions) devices') True)
      (initializeDevices X sender localAci e164 pniIdentity rest devices) := by
  induction rest generalizing done es devices with
  | nil =>
      apply runs_ret_post
      simpa using gathered
  | cons device rest ih =>
      obtain ⟨isListed, linked⟩ := listed device List.mem_cons_self
      obtain ⟨absent, distinct⟩ := List.nodup_cons.mp distinct
      have listed' : ∀ other ∈ rest, other ∈ ids ∧ other ≠ defaultDeviceId :=
        fun other member => listed other (List.mem_cons_of_mem _ member)
      have new' : ∀ other ∈ rest, other ∉ done :=
        fun other member => new other (List.mem_cons_of_mem _ member)
      refine Runs.bind_post (isSkipped_post isListed linked) ?_
      rintro looked _ rfl
      have gathered := gathered.mono fun e (member : e ∈ es) => List.mem_append_left looked member
      cases found : sessions device with
      | false =>
          refine (ih listed' distinct new' gathered).mono_post (fun es' devices' holds => ?_) id
          rw [List.append_assoc] at holds
          rwa [List.filter_cons_of_neg (by simp [found])]
      | true =>
          refine Runs.bind_post initializeDevice_extends fun es' devices' extended => ?_
          have gathered := gathered.step (new device List.mem_cons_self)
            (fun primary => absurd primary linked) extended
          refine (ih listed' distinct ?_ gathered).mono_post (fun es'' devices'' holds => ?_) id
          · intro other member
            simp only [List.mem_append, List.mem_singleton, not_or]
            exact ⟨new' other member, fun same => absent (same ▸ member)⟩
          · simpa [found] using holds

/-! ## The request -/

/-- A call of the loop. -/
def InLoop (c : Call) : Prop := ∀ request, c ≠ .distributePniKeys request

theorem deviceKeys_calls {device : DeviceId} : Calls InLoop (deviceKeys device) := by
  unfold deviceKeys
  split <;> exact ⟨nofun, fun _ _ => trivial⟩

theorem deviceRegistrationId_calls {device : DeviceId} {used : List Nat} :
    Calls InLoop (deviceRegistrationId device used) := by
  unfold deviceRegistrationId
  split <;> exact ⟨nofun, fun _ _ => trivial⟩

theorem assertion_calls {holds : Bool} {message : String} :
    Calls InLoop (assertion holds message) := by
  unfold assertion
  split <;> trivial

theorem createEncryptedMessage_calls {recipient : ServiceId} {device : DeviceId}
    {content : OutgoingContent} :
    Calls InLoop (sender.createEncryptedMessage X recipient none device content) := by
  have serves : Calls (sender.Serves X (fun _ => True) recipient)
      (sender.createEncryptedMessage X recipient none device content) :=
    MessageSender.createEncryptedMessage_serves
  apply serves.mono
  rintro c served request rfl
  cases served

theorem initializeDevice_calls {device : DeviceId} {devices : PniDevices} :
    Calls InLoop (initializeDevice X sender localAci e164 pniIdentity device devices) := by
  refine .bind deviceKeys_calls fun keys => .bind deviceRegistrationId_calls fun id => ?_
  refine .bind (.mapErr _ trivial) fun _ => .bind trivial fun lastResortKey => ?_
  refine .bind (.mapErr _ trivial) fun _ => ?_
  refine .bind assertion_calls fun _ => .bind assertion_calls fun _ => ?_
  split
  · trivial
  · refine ⟨nofun, fun padding _ => ?_⟩
    exact createEncryptedMessage_calls.bind fun _ => trivial

theorem isSkipped_calls {device : DeviceId} : Calls InLoop (isSkipped X localAci device) := by
  unfold isSkipped
  split
  · trivial
  · exact .bind (.mapErr _ ⟨nofun, fun _ _ => trivial⟩) fun _ => trivial

/-- Nothing is distributed before the loop has ended. -/
theorem initializeDevices_calls (rest : List DeviceId) (devices : PniDevices) :
    Calls InLoop (initializeDevices X sender localAci e164 pniIdentity rest devices) := by
  induction rest generalizing devices with
  | nil => trivial
  | cons device rest ih =>
      refine isSkipped_calls.bind fun skipped => ?_
      cases skipped with
      | true => exact ih devices
      | false => exact initializeDevice_calls.bind ih

/-- The primary device is never skipped. -/
theorem initializeDevices_all {ids : List DeviceId} {sessions : DeviceId → Bool}
    (distinct : ids.Nodup) (linked : defaultDeviceId ∉ ids) :
    Runs (StoreAnswers X localAci ids sessions)
      (Post (fun es => Gathered X sender localAci es (defaultDeviceId :: ids.filter sessions)) True)
      (initializeDevices X sender localAci e164 pniIdentity (defaultDeviceId :: ids) .empty) := by
  have first : isSkipped X localAci defaultDeviceId = pure false := by
    unfold isSkipped
    rw [if_pos rfl]
  unfold initializeDevices
  simp only [first, pure_eq, bind_eq, ret_bind, Bool.false_eq_true, if_false]
  refine Runs.bind_post initializeDevice_extends fun es devices extended => ?_
  have gathered : Gathered X sender localAci es [defaultDeviceId] devices :=
    gathered_empty.step (List.not_mem_nil) (fun _ => rfl) extended
  refine initializeDevices_gathers ?_ distinct ?_ gathered
  · exact fun device member => ⟨member, fun same => linked (same ▸ member)⟩
  · intro device member primary
    rw [List.mem_singleton.mp primary] at member
    exact linked member

end Loop

/-- The devices of a request, as they were gathered. -/
def gatheredIn (request : PniKeyDistribution) : PniDevices :=
  ⟨request.deviceMessages, request.signedPreKeys, request.lastResortKyberPreKeys,
    request.registrationIds⟩

namespace Sample

open Reference

/-- Two devices are listed, and there is a session with the first of them. -/
def oneSession (device : DeviceId) : Bool := device = secondDevice

def pnpEnv : Env Unit
  | .getSubDeviceSessions _, s => (.ok [secondDevice, thirdDevice], s)
  | .loadSession address, s => (.ok (if oneSession address.deviceId then some fresh else none), s)
  | .hasUsableSenderChain _, s => (.ok true, s)
  | .messageEncrypt plaintext _ _, s => (.ok ⟨.whisper, plaintext⟩, s)
  | .pniIdentityKeyPair, s => (.ok ⟨⟨5 :: List.replicate 32 2⟩, List.replicate 65 2⟩, s)
  | .replenishPniPreKeys, s => (.ok ⟨[], [1], [], some [2]⟩, s)
  | .generateLinkedDeviceKeys, s => (.ok ⟨[], [3], [], some [4]⟩, s)
  | .distributePniKeys _, s => (.ok (), s)
  | c, s => (c.fallback, s)

def pnpRun : Ran Call Answer MessageSenderError Unit Unit :=
  (pnpInitializeDevices reference primary Reference.localAci "+15550100").run pnpEnv ()

theorem pnpEnv_answers (c : Call) :
    StoreAnswers reference Reference.localAci [secondDevice, thirdDevice] oneSession c
      (pnpEnv c ()).1 := by
  cases c with
  | getSubDeviceSessions name =>
      rintro devices ⟨⟩
      rfl
  | loadSession address =>
      rintro device - rfl session ⟨⟩
      change (if oneSession device then some fresh else none).isSome = oneSession device
      cases oneSession device <;> rfl
  | _ => trivial

theorem pnpRun_reaches : ∃ request, ⟨.distributePniKeys request, .ok ()⟩ ∈ pnpRun.log :=
  ⟨_, List.mem_of_getLast? rfl⟩

end Sample

end SignalService.AccountManager

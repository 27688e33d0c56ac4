import SignalService.Sender.Send

/-! # Initializing the PNI of our devices

`AccountManager::pnp_initialize_devices`: new PNI keys for every device of the account,
sent to the linked ones in a sync message each, and all of it submitted at once.
-/

namespace SignalService.AccountManager

open Effect

/-- What the loop over the devices gathers; the maps are keyed by device. -/
structure PniDevices where
  deviceMessages : List OutgoingPushMessage
  signedPreKeys : List (DeviceId × Bytes)
  lastResortKyberPreKeys : List (DeviceId × Bytes)
  registrationIds : List (DeviceId × Nat)

def PniDevices.empty : PniDevices := ⟨[], [], [], []⟩

/-- `HashMap::insert`: a value for the same device is replaced. -/
def insertEntry {α : Type} (entries : List (DeviceId × α)) (device : DeviceId) (value : α) :
    List (DeviceId × α) :=
  entries.filter (·.1 ≠ device) ++ [(device, value)]

variable (X : Externals)

/-- Our own keys are replenished in the store; those of a linked device are only made. -/
def deviceKeys (device : DeviceId) : Async MessageSenderError PniDeviceKeys :=
  if device = defaultDeviceId then
    (Async.await .replenishPniPreKeys id).mapErr .protocolError
  else
    Async.await .generateLinkedDeviceKeys id

def deviceRegistrationId (device : DeviceId) (used : List Nat) : Async MessageSenderError Nat :=
  if device = defaultDeviceId then
    (Async.await .pniRegistrationId id).mapErr .protocolError
  else do
    let id ← Async.ask (.freshRegistrationId used)
    return id.val

/-- `.expect("requested last resort key")`. -/
def expectLastResortKey (keys : PniDeviceKeys) : Async MessageSenderError Bytes :=
  Prog.ofOption (.panic "requested last resort key") keys.lastResortKyberPreKey

/-- `assert!(..)`. -/
def assertion (holds : Bool) (message : String) : Async MessageSenderError Unit :=
  if holds then pure () else Prog.panic message

/-- The sync message that hands a linked device its keys. -/
def pniChangeNumber (pniIdentity : IdentityKeyPair) (keys : PniDeviceKeys) (lastResortKey : Bytes)
    (registrationId : Nat) (e164 : String) (padding : Bytes) : SyncMessage where
  content := some (.pniChangeNumber {
    identityKeyPair := some pniIdentity.serialized
    signedPreKey := some keys.signedPreKey
    lastResortKyberPreKey := some lastResortKey
    registrationId := some registrationId
    newE164 := some e164 })
  padding := some padding

/-- A linked device that we have no session with is skipped. -/
def isSkipped (localAci : Aci) (device : DeviceId) : Async MessageSenderError Bool :=
  if device = defaultDeviceId then
    return false
  else do
    let session ← (Async.loadSession (X.protocolAddress (.aci localAci) device)).mapErr
      .protocolError
    return session.isNone

/-- The body of the loop, for a device that is not skipped. -/
def initializeDevice (sender : MessageSender) (localAci : Aci) (e164 : String)
    (pniIdentity : IdentityKeyPair) (device : DeviceId) (devices : PniDevices) :
    Async MessageSenderError PniDevices := do
  let keys ← deviceKeys device
  let registrationId ← deviceRegistrationId device (devices.registrationIds.map (·.2))
  let signedPreKey ← (Prog.ofExcept (X.signedPreKeyEntity keys.signedPreKey)).mapErr
    .protocolError
  let lastResortKey ← expectLastResortKey keys
  let lastResortEntity ← (Prog.ofExcept (X.kyberPreKeyEntity lastResortKey)).mapErr .protocolError
  let devices := { devices with
    signedPreKeys := insertEntry devices.signedPreKeys device signedPreKey
    lastResortKyberPreKeys := insertEntry devices.lastResortKyberPreKeys device lastResortEntity
    registrationIds := insertEntry devices.registrationIds device registrationId }
  assertion keys.preKeys.isEmpty "assertion failed: _pre_keys.is_empty()"
  assertion keys.kyberPreKeys.isEmpty "assertion failed: _kyber_pre_keys.is_empty()"
  -- no message is sent to the primary device
  if device = defaultDeviceId then
    return devices
  else
    let padding ← Async.ask .syncMessagePadding
    let body := ContentBody.synchronizeMessage
      (pniChangeNumber pniIdentity keys lastResortKey registrationId e164 padding)
    -- the session is used without its lock
    let message ← sender.createEncryptedMessage X (.aci localAci) none device
      (.encrypted (X.encodeContent (body.intoProto X)))
    return { devices with deviceMessages := devices.deviceMessages ++ [message] }

def initializeDevices (sender : MessageSender) (localAci : Aci) (e164 : String)
    (pniIdentity : IdentityKeyPair) :
    List DeviceId → PniDevices → Async MessageSenderError PniDevices
  | [], devices => pure devices
  | device :: rest, devices => do
      if ← isSkipped X localAci device then
        initializeDevices sender localAci e164 pniIdentity rest devices
      else
        let devices ← initializeDevice X sender localAci e164 pniIdentity device devices
        initializeDevices sender localAci e164 pniIdentity rest devices

def pnpInitializeDevices (sender : MessageSender) (localAci : Aci) (e164 : String) :
    Async MessageSenderError Unit := do
  let pniIdentity ← (Async.await .pniIdentityKeyPair id).mapErr .protocolError
  let localDeviceIds ← (Async.getSubDeviceSessions (.aci localAci)).mapErr .protocolError
  let devices ← initializeDevices X sender localAci e164 pniIdentity
    (defaultDeviceId :: localDeviceIds) .empty
  (Async.await (.distributePniKeys {
    pniIdentityKey := pniIdentity.identityKey
    deviceMessages := devices.deviceMessages
    signedPreKeys := devices.signedPreKeys
    lastResortKyberPreKeys := devices.lastResortKyberPreKeys
    registrationIds := devices.registrationIds
    signatureValidOnEachSignedPreKey := true }) id).mapErr .serviceError

end SignalService.AccountManager

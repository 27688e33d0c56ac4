import SignalService.Proto

/-! # The interface to everything outside the crate

`Externals` holds the pure functions of the dependencies (libsignal's parsers and
observers, prost, serde, base64): parameters of the model, with no behaviour assumed
beyond what a theorem names. `Call` is what an asynchronous function of the crate can
await: the store traits, libsignal's stateful entry points, the session locks, the
server. A store may fail and a server may answer anything, so every `Answer` is a
result.
-/

namespace SignalService

open Effect

structure Externals where
  /- libsignal-core -/
  serviceIdString : ServiceId → String
  serviceIdBinary : ServiceId → Bytes
  parseServiceIdString : String → Option ServiceId
  parseServiceIdBinary : Bytes → Option ServiceId
  parseUuid : String → Option Uuid
  /- chrono: `DateTime::from_timestamp_millis` -/
  fromTimestampMillis : Int → Option Int
  /- base64, prost, serde_json and the lossy UTF-8 conversion -/
  base64 : Bytes → String
  encodeContent : Proto.Content → Bytes
  decodeContent : Bytes → Option Proto.Content
  encodeDecryptionErrorMessage : DecryptionErrorMessage → Bytes
  decodeDecryptionErrorMessage : Bytes → Option DecryptionErrorMessage
  utf8Lossy : Bytes → String
  jsonSendMessageResponse : Bytes → Option SendMessageResponse
  jsonPreKeyResponse : Bytes → Option PreKeyResponse
  jsonMismatchedDevices : String → Option MismatchedDevices
  jsonStaleDevices : String → Option StaleDevices
  jsonProofRequired : String → Option ProofRequired
  jsonRegistrationLockFailure : String → Option RegistrationLockFailure
  /- libsignal-protocol: parsers -/
  signalMessage : Bytes → Except SignalProtocolError Bytes
  preKeySignalMessage : Bytes → Except SignalProtocolError Bytes
  /-- `PlaintextContent::try_from`, giving the body. -/
  plaintextContentBody : Bytes → Except SignalProtocolError Bytes
  senderKeyDistributionMessage :
    Bytes → Except SignalProtocolError SenderKeyDistributionMessage
  distributionId : SenderKeyDistributionMessage → Except SignalProtocolError Uuid
  identityKey : Bytes → Except ServiceError IdentityKey
  intoBundle : PreKeyResponseItem → IdentityKey → Except ServiceError PreKeyBundle
  /- libsignal-protocol: observers -/
  validateWithTrustRoots :
    SenderCertificate → List PublicKey → Nat → Except SignalProtocolError Bool
  verifyAlternateIdentity :
    IdentityKey → IdentityKey → Bytes → Except SignalProtocolError Bool
  remoteRegistrationId : SessionRecord → Except SignalProtocolError Nat
  sessionVersion : SessionRecord → Except SignalProtocolError Nat
  /- libsignal-protocol: pre-key records, for the devices of one account -/
  signedPreKeyEntity : Bytes → Except SignalProtocolError Bytes
  kyberPreKeyEntity : Bytes → Except SignalProtocolError Bytes

/-- Which devices a pre-key request names: the `*` of the path, or one of them. -/
inductive PreKeyTarget where
  | all
  | device (id : DeviceId)
  deriving DecidableEq, Repr

/-- The keys one device gets when its PNI is initialized. -/
structure PniDeviceKeys where
  preKeys : List Bytes
  signedPreKey : Bytes
  kyberPreKeys : List Bytes
  lastResortKyberPreKey : Option Bytes

/-- `IdentityKeyPair`: its public half, and the whole of it as it is sent to a linked
    device. -/
structure IdentityKeyPair where
  identityKey : IdentityKey
  serialized : Bytes
  deriving DecidableEq, Repr

/-- What `distribute_pni_keys` sends; the maps are keyed by device. -/
structure PniKeyDistribution where
  pniIdentityKey : IdentityKey
  deviceMessages : List OutgoingPushMessage
  signedPreKeys : List (DeviceId × Bytes)
  lastResortKyberPreKeys : List (DeviceId × Bytes)
  registrationIds : List (DeviceId × Nat)
  signatureValidOnEachSignedPreKey : Bool

inductive Call where
  /- `SessionStore`, `SessionStoreExt` -/
  | loadSession (address : ProtocolAddress)
  | getSubDeviceSessions (name : ServiceId)
  | deleteSession (address : ProtocolAddress)
  /- `IdentityKeyStore` -/
  | getIdentity (address : ProtocolAddress)
  /- `SessionRecord::has_usable_sender_chain`, which reads the clock -/
  | hasUsableSenderChain (record : SessionRecord)
  /- libsignal entry points that read and write the store -/
  | processPrekeyBundle (remote loc : ProtocolAddress) (bundle : PreKeyBundle)
  | messageEncrypt (plaintext : Bytes) (remote loc : ProtocolAddress)
  | sealedSenderEncrypt (remote : ProtocolAddress) (certificate : SenderCertificate)
      (plaintext : Bytes)
  | messageDecryptPrekey (message : Bytes) (remote loc : ProtocolAddress)
  | messageDecryptSignal (message : Bytes) (remote loc : ProtocolAddress)
  | groupDecrypt (message : Bytes) (sender : ProtocolAddress)
  | sealedSenderDecryptToUsmc (ciphertext : Bytes)
  | processSenderKeyDistributionMessage (sender : ProtocolAddress)
      (message : SenderKeyDistributionMessage)
  /- `SessionLocks` -/
  | lock (peer : ServiceId)
  | unlock (peer : ServiceId)
  /- requests to the server -/
  | getKeys (destination : ServiceId) (target : PreKeyTarget)
  | putMessages (accessKey : Option Bytes) (messages : OutgoingPushMessages)
  | distributePniKeys (request : PniKeyDistribution)
  /- the order in which a `HashSet` is iterated -/
  | iterate (devices : List DeviceId)
  /- random padding of a sync message, and signatures -/
  | syncMessagePadding
  | signAlternateIdentity
  | decryptionErrorMessage (failedCiphertext : Bytes) (failedType : CiphertextMessageType)
      (failedTimestamp : Nat) (failedDevice : DeviceId)
  | currentTimestamp
  /- key material for the PNI of the account's devices -/
  | pniIdentityKeyPair
  | replenishPniPreKeys
  | generateLinkedDeviceKeys
  | pniRegistrationId
  | freshRegistrationId (used : List Nat)

/-- The type of the answer to a call. An iteration order is a permutation of the set,
    and a fresh registration id is what the source's draw-again loop leaves it with. -/
@[reducible] def Answer : Call → Type
  | .loadSession _ => Except SignalProtocolError (Option SessionRecord)
  | .getSubDeviceSessions _ => Except SignalProtocolError (List DeviceId)
  | .deleteSession _ => Except SignalProtocolError Unit
  | .getIdentity _ => Except SignalProtocolError (Option IdentityKey)
  | .hasUsableSenderChain _ => Except SignalProtocolError Bool
  | .processPrekeyBundle _ _ _ => Except SignalProtocolError Unit
  | .messageEncrypt _ _ _ => Except SignalProtocolError CiphertextMessage
  | .sealedSenderEncrypt _ _ _ => Except SignalProtocolError Bytes
  | .messageDecryptPrekey _ _ _ => Except SignalProtocolError Bytes
  | .messageDecryptSignal _ _ _ => Except SignalProtocolError Bytes
  | .groupDecrypt _ _ => Except SignalProtocolError Bytes
  | .sealedSenderDecryptToUsmc _ =>
      Except SignalProtocolError UnidentifiedSenderMessageContent
  | .processSenderKeyDistributionMessage _ _ => Except SignalProtocolError Unit
  | .lock _ => Unit
  | .unlock _ => Unit
  | .getKeys _ _ => Except ServiceError WebSocketResponseMessage
  | .putMessages _ _ => Except ServiceError WebSocketResponseMessage
  | .distributePniKeys _ => Except ServiceError Unit
  | .iterate devices => { order : List DeviceId // order.Perm devices }
  | .syncMessagePadding => Bytes
  | .signAlternateIdentity => Except SignalProtocolError Bytes
  | .decryptionErrorMessage _ _ _ _ => Except SignalProtocolError Bytes
  | .currentTimestamp => Nat
  | .pniIdentityKeyPair => Except SignalProtocolError IdentityKeyPair
  | .replenishPniPreKeys => Except SignalProtocolError PniDeviceKeys
  | .generateLinkedDeviceKeys => Except MessageSenderError PniDeviceKeys
  | .pniRegistrationId => Except SignalProtocolError Nat
  | .freshRegistrationId used => { id : Nat // id ∉ used }

/-- An asynchronous function of the crate. -/
abbrev Async (ε α : Type) := Prog Call Answer ε α

/-- One call and its answer. -/
abbrev CallEvent := Event Call Answer

/-- An environment: how stores, libsignal and the server answer, and what of their
    state that changes. -/
abbrev Env (σ : Type) := (c : Call) → σ → Answer c × σ

/-- The calls that, by the contracts of the store traits and of libsignal, only read. -/
def Call.Reads : Call → Prop
  | .loadSession _ | .getSubDeviceSessions _ | .getIdentity _ | .hasUsableSenderChain _
  | .sealedSenderDecryptToUsmc _ | .lock _ | .unlock _ | .iterate _ => True
  | _ => False

/-- The environment keeps its state on reads. -/
def Env.KeepsOnReads {σ : Type} (h : Env σ) : Prop := ∀ c, c.Reads → ∀ s, (h c s).2 = s

namespace Async

variable {ε α : Type}

/-- Await a call whose answer is a result. -/
def await (c : Call) (result : Answer c → Except ε α) : Async ε α :=
  .call c fun r => .ofExcept (result r)

/-- Await a call that cannot fail. -/
def ask (c : Call) : Async ε (Answer c) := .call c fun r => pure r

def loadSession (address : ProtocolAddress) :
    Async SignalProtocolError (Option SessionRecord) :=
  await (.loadSession address) id

def getSubDeviceSessions (name : ServiceId) : Async SignalProtocolError (List DeviceId) :=
  await (.getSubDeviceSessions name) id

def deleteSession (address : ProtocolAddress) : Async SignalProtocolError Unit :=
  await (.deleteSession address) id

def getIdentity (address : ProtocolAddress) :
    Async SignalProtocolError (Option IdentityKey) :=
  await (.getIdentity address) id

/-- Hold `peer`'s session lock while `body` runs. The guard is dropped when the scope
    is left, on every way out. -/
def withLock (peer : ServiceId) (body : Async ε α) : Async ε α :=
  .call (.lock peer) fun _ => body.onExit (.unlock peer)

end Async

namespace Externals

variable (X : Externals)

def protocolAddress (id : ServiceId) (device : DeviceId) : ProtocolAddress :=
  ⟨X.serviceIdString id, device⟩

end Externals

end SignalService

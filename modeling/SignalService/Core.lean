import SignalService.Effect.Prog

/-! # Identifiers, addresses and errors

The types that every part of the service shares. Values that `libsignal` keeps
opaque are modelled by their serialized bytes; what the service reads from them
goes through the observers of `Externals`.
-/

namespace SignalService

abbrev Bytes := List UInt8

/-- The 128 bits of a UUID. -/
structure Uuid where
  bits : BitVec 128
  deriving DecidableEq, Repr

/-- The last `width` bytes of a number, most significant first. -/
def bigEndian : (width n : Nat) → Bytes
  | 0, _ => []
  | width + 1, n => bigEndian width (n / 256) ++ [UInt8.ofNat n]

def ofBigEndian (bytes : Bytes) : Nat := bytes.foldl (fun acc b => acc * 256 + b.toNat) 0

@[simp] theorem length_bigEndian (width n : Nat) : (bigEndian width n).length = width := by
  induction width generalizing n with
  | zero => rfl
  | succ width ih => simp [bigEndian, ih]

theorem ofBigEndian_bigEndian {width n : Nat} (bound : n < 256 ^ width) :
    ofBigEndian (bigEndian width n) = n := by
  induction width generalizing n with
  | zero =>
      have zero : n = 0 := by simpa using bound
      rw [zero]
      rfl
  | succ width ih =>
      have smaller : n / 256 < 256 ^ width := by
        rw [Nat.div_lt_iff_lt_mul (by decide)]
        rwa [pow_succ] at bound
      have front := ih smaller
      unfold ofBigEndian at front ⊢
      rw [bigEndian, List.foldl_append, front]
      have low : (UInt8.ofNat n).toNat = n % 256 := UInt8.toNat_ofNat' ..
      simp only [List.foldl_cons, List.foldl_nil, low]
      omega

theorem ofBigEndian_concat (bytes : Bytes) (byte : UInt8) :
    ofBigEndian (bytes ++ [byte]) = ofBigEndian bytes * 256 + byte.toNat := by
  simp [ofBigEndian]

theorem bigEndian_ofBigEndian (bytes : Bytes) :
    bigEndian bytes.length (ofBigEndian bytes) = bytes := by
  induction bytes using List.reverseRecOn with
  | nil => rfl
  | append_singleton bytes byte ih =>
      have rest : (ofBigEndian bytes * 256 + byte.toNat) / 256 = ofBigEndian bytes := by
        have := byte.toNat_lt
        omega
      rw [List.length_append, List.length_singleton, bigEndian, ofBigEndian_concat, rest, ih]
      simp

theorem ofBigEndian_lt (bytes : Bytes) : ofBigEndian bytes < 256 ^ bytes.length := by
  induction bytes using List.reverseRecOn with
  | nil => decide
  | append_singleton bytes byte ih =>
      have := byte.toNat_lt
      rw [List.length_append, List.length_singleton, ofBigEndian_concat, Nat.pow_succ]
      omega

def Uuid.toBytes (id : Uuid) : Bytes := bigEndian 16 id.bits.toNat

def Uuid.ofBytes? (bytes : Bytes) : Option Uuid :=
  if bytes.length = 16 then some ⟨BitVec.ofNat 128 (ofBigEndian bytes)⟩ else none

@[simp] theorem Uuid.ofBytes?_toBytes (id : Uuid) : Uuid.ofBytes? id.toBytes = some id := by
  have bound : id.bits.toNat < 256 ^ 16 := id.bits.isLt
  simp [Uuid.ofBytes?, Uuid.toBytes, ofBigEndian_bigEndian bound]

/-- `Uuid::from_slice` takes the bytes of a UUID, and no others. -/
theorem Uuid.ofBytes?_eq_some {bytes : Bytes} {id : Uuid} :
    Uuid.ofBytes? bytes = some id ↔ bytes = id.toBytes := by
  constructor
  · intro read
    unfold Uuid.ofBytes? at read
    split at read
    case isTrue size =>
        cases read
        have bound : ofBigEndian bytes < 2 ^ 128 := by
          have := ofBigEndian_lt bytes
          rwa [size] at this
        rw [Uuid.toBytes, BitVec.toNat_ofNat, Nat.mod_eq_of_lt bound, ← size,
          bigEndian_ofBigEndian]
    case isFalse => cases read
  · rintro rfl
    exact Uuid.ofBytes?_toBytes id

/-- Account identity. -/
structure Aci where
  uuid : Uuid
  deriving DecidableEq, Repr

/-- Phone number identity. -/
structure Pni where
  uuid : Uuid
  deriving DecidableEq, Repr

inductive ServiceIdKind where
  | aci
  | pni
  deriving DecidableEq, Repr

inductive ServiceId where
  | aci (id : Aci)
  | pni (id : Pni)
  deriving DecidableEq, Repr

namespace ServiceId

def kind : ServiceId → ServiceIdKind
  | .aci _ => .aci
  | .pni _ => .pni

def rawUuid : ServiceId → Uuid
  | .aci id => id.uuid
  | .pni id => id.uuid

/-- `ServiceIdExt::aci`, here and below named apart from the constructor. -/
def aci? : ServiceId → Option Aci
  | .aci id => some id
  | .pni _ => none

def pni? : ServiceId → Option Pni
  | .aci _ => none
  | .pni id => some id

end ServiceId

/-- A device number as `libsignal_core::DeviceId` admits it. -/
structure DeviceId where
  val : Nat
  valid : 1 ≤ val ∧ val ≤ 127
  deriving DecidableEq, Repr

namespace DeviceId

def ofNat? (n : Nat) : Option DeviceId :=
  if valid : 1 ≤ n ∧ n ≤ 127 then some ⟨n, valid⟩ else none

end DeviceId

/-- `DEFAULT_DEVICE_ID`: the primary device. -/
def defaultDeviceId : DeviceId := ⟨1, by decide⟩

/-- Sessions, identities and sender keys are stored under these. -/
structure ProtocolAddress where
  name : String
  deviceId : DeviceId
  deriving DecidableEq, Repr

/-! ## Serialized libsignal values -/

structure SessionRecord where
  serialized : Bytes
  deriving DecidableEq, Repr

structure IdentityKey where
  serialized : Bytes
  deriving DecidableEq, Repr

structure PublicKey where
  serialized : Bytes
  deriving DecidableEq, Repr

structure SenderKeyDistributionMessage where
  serialized : Bytes
  deriving DecidableEq, Repr

inductive CiphertextMessageType where
  | whisper
  | preKey
  | senderKey
  | plaintext
  deriving DecidableEq, Repr

structure CiphertextMessage where
  messageType : CiphertextMessageType
  serialized : Bytes
  deriving DecidableEq, Repr

/-! ## Errors -/

/-- The errors of `libsignal_protocol` that the service makes or looks at; every other
    one is `other`. -/
inductive SignalProtocolError where
  | sessionNotFound (address : Option ProtocolAddress) (op : String)
  | invalidSealedSenderMessage (message : String)
  | sealedSenderSelfSend
  | untrustedIdentity (address : ProtocolAddress)
  | other (message : String)
  deriving DecidableEq, Repr

/-- The sender is named only once its certificate was validated; `original` is the inner
    message when only that one failed. -/
structure SealedSenderDecryptionError where
  inner : SignalProtocolError
  sender : Option ProtocolAddress
  original : Option (CiphertextMessageType × Bytes)
  deriving DecidableEq, Repr

/-- `impl From<SignalProtocolError> for SealedSenderDecryptionError`. -/
def SealedSenderDecryptionError.ofProtocol (e : SignalProtocolError) :
    SealedSenderDecryptionError :=
  ⟨e, none, none⟩

structure MismatchedDevices where
  missingDevices : List DeviceId
  extraDevices : List DeviceId
  deriving DecidableEq, Repr

structure StaleDevices where
  staleDevices : List DeviceId
  deriving DecidableEq, Repr

structure ProofRequired where
  token : String
  options : List String
  deriving DecidableEq, Repr

structure RegistrationLockFailure where
  body : Bytes
  deriving DecidableEq, Repr

structure AccountMismatchedDevices where
  uuid : ServiceId
  devices : MismatchedDevices
  deriving DecidableEq, Repr

structure AccountStaleDevices where
  uuid : ServiceId
  devices : StaleDevices
  deriving DecidableEq, Repr

structure VerificationDeliveryFailure where
  reason : String
  permanentFailure : Bool
  deriving DecidableEq, Repr

structure RegistrationSessionMetadataResponse where
  id : String
  nextSms : Option Int
  nextCall : Option Int
  nextVerificationAttempt : Option Int
  allowedToRequestCode : Bool
  requestedInformation : List String
  verified : Bool
  deriving DecidableEq, Repr

/-- `push_service::ServiceError`, as far as the modelled functions make it. -/
inductive ServiceError where
  | invalidFrame (reason : String)
  | protobufDecodeError
  | jsonDecodeError
  | padding
  | paddingVersion (version : Nat)
  | signalProtocolError (error : SignalProtocolError)
  | sealedSenderDecryptionError (error : SealedSenderDecryptionError)
  | invalidDeviceId
  | unsupportedContent
  | rateLimitExceeded (retryAfter : Option Int)
  | unauthorized
  | locked (failure : RegistrationLockFailure)
  | unhandledResponseCode (status : Nat) (body : String)
  | wsClosing (reason : String)
  | proofRequiredError (proof : ProofRequired)
  | mismatchedDevicesException (devices : MismatchedDevices)
  | staleDevices (devices : StaleDevices)
  | notFoundError
  | deprecatedVersion
  | serverRejected
  | unregisteredRecipient
  | messageTooLarge
  | timeout (reason : String)
  | invalidUrl
  | unknownCdnVersion (cdn : Nat)
  | attachmentTooLarge
  | groupChangeConflict
  | groupChangeRejected (message : String)
  | groupChangeForbidden
  | deviceLimitReached (current max : Nat)
  | multiRecipientMismatchedDevices (devices : List AccountMismatchedDevices)
  | multiRecipientStaleDevices (devices : List AccountStaleDevices)
  | invalidDeviceVerificationCode
  | deviceCapabilityDowngrade
  | noSuchSession
  | invalidVerificationSessionId
  | tokenNotAccepted (session : RegistrationSessionMetadataResponse)
  | registrationSessionConflict (session : RegistrationSessionMetadataResponse)
  | verificationSessionRateLimited (session : RegistrationSessionMetadataResponse)
      (retryAfter : Option Int)
  | invalidTransportMode (session : RegistrationSessionMetadataResponse)
  | verificationDeliveryFailed (failure : VerificationDeliveryFailure)
  | deviceTransferAvailable
  | usernameHashNotSet
  | challengeNotAccepted
  | base64DecodeError
  | macError
  | decryptDeviceInfoFieldError (field : String)
  | http (reason : String)
  | other (message : String)
  deriving DecidableEq, Repr

/-- `sender::MessageSenderError`. -/
inductive MessageSenderError where
  | serviceError (error : ServiceError)
  | protocolError (error : SignalProtocolError)
  | invalidPrivateKey
  | invalidDeviceId
  | untrustedIdentity (address : ServiceId)
  | maximumRetriesLimitExceeded
  | proofRequired (token : String) (options : List String)
  | notFound (serviceId : ServiceId)
  | noMessagesToSend
  deriving DecidableEq, Repr

end SignalService

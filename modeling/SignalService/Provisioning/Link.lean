import SignalService.Provisioning.Pipe

/-! # Linking a device

The two ends of linking: `AccountManager::link_device` on the primary, which encrypts what
the account is made of for the key in a link, and `provisioning::link_device` on the new
device, which shows the link, waits for that message and registers with what it holds.
-/

namespace SignalService

open Effect Provisioning
open Groups (ProfileKey utf8Bytes)

/-- An array of `n` bytes from a slice: `try_into`. -/
def arrayOf? (n : Nat) (bytes : Bytes) : Option (Vector UInt8 n) :=
  if size : bytes.toArray.size = n then some ⟨bytes.toArray, size⟩ else none

@[simp] theorem arrayOf?_toList {n : Nat} (array : Vector UInt8 n) :
    arrayOf? n array.toList = some array := by
  simp [arrayOf?, Vector.toList]

/-! ## The primary device -/

/-- What is read of the `ServiceCredentials`. -/
structure ServiceCredentials (X : ProvisioningExternals) where
  aci : Option Uuid
  pni : Option Uuid
  phonenumber : X.E164

structure ProvisioningSecrets (X : ProvisioningExternals) where
  credentials : ServiceCredentials X
  ephemeralBackupKey : Option (Vector UInt8 32)
  accountEntropyPool : X.AccountEntropyPool
  mediaRootBackupKey : Option (Vector UInt8 32)

namespace AccountManager

inductive PrimaryCall (X : ProvisioningExternals) where
  | aciIdentityKeyPair
  | pniIdentityKeyPair
  | newDeviceProvisioningCode
  | cipher (c : CipherCall)
  | putProvisioningMessage (url : X.Url) (body : String)

@[reducible] def PrimaryAnswer (X : ProvisioningExternals) : PrimaryCall X → Type
  | .aciIdentityKeyPair | .pniIdentityKeyPair =>
      Except SignalProtocolError (KeyPair X.toCurve)
  | .newDeviceProvisioningCode => Except ServiceError String
  | .cipher c => CipherAnswer X.toCurve c
  | .putProvisioningMessage _ _ => Except ServiceError Unit

abbrev PrimaryProg (X : ProvisioningExternals) (α : Type) :=
  Prog (PrimaryCall X) (PrimaryAnswer X) ProvisioningError α

variable (X : ProvisioningExternals)

/-- The pairs of the query as a `HashMap`: a later pair replaces an earlier one. -/
def queryValue (key : String) (pairs : List (String × String)) : Option String :=
  pairs.reverse.lookup key

/-- The address and the key of a link. -/
def readLink (url : X.Url) : Except ProvisioningError (String × X.PublicKey) := do
  let pairs := X.queryPairs url
  let some ephemeralId := queryValue "uuid" pairs | throw .missingUuid
  let some pubKey := queryValue "pub_key" pairs | throw .missingPublicKey
  let some pubKey := X.base64Decode pubKey | throw (.invalidPublicKey .base64)
  let some pubKey := X.deserializePublic pubKey | throw (.invalidPublicKey .curve)
  return (ephemeralId, pubKey)

/-- In the order of `Provisioning.proto`. -/
def provisionMessage (aciIdentityKeyPair pniIdentityKeyPair : KeyPair X.toCurve)
    (provisioningCode : String) (profileKey : Option ProfileKey)
    (secrets : ProvisioningSecrets X) : ProvisionMessage where
  aciIdentityKeyPublic := some (X.serializePublic aciIdentityKeyPair.publicKey)
  aciIdentityKeyPrivate := some (X.serializePrivate aciIdentityKeyPair.privateKey)
  pniIdentityKeyPublic := some (X.serializePublic pniIdentityKeyPair.publicKey)
  pniIdentityKeyPrivate := some (X.serializePrivate pniIdentityKeyPair.privateKey)
  aci := secrets.credentials.aci.map X.uuidString
  pni := secrets.credentials.pni.map X.uuidString
  number := some (X.e164String secrets.credentials.phonenumber)
  provisioningCode := some provisioningCode
  userAgent := none
  profileKey := profileKey.map ProfileKey.bytes
  readReceipts := none
  provisioningVersion := some 1
  ephemeralBackupKey := secrets.ephemeralBackupKey.map Vector.toList
  accountEntropyPool := some (X.poolString secrets.accountEntropyPool)
  mediaRootBackupKey := secrets.mediaRootBackupKey.map Vector.toList
  aciBinary := secrets.credentials.aci.map Uuid.toBytes
  pniBinary := secrets.credentials.pni.map Uuid.toBytes

def sendProvisioningMessage (destination : String) (env : ProvisionEnvelope) :
    PrimaryProg X Unit := do
  let body := X.encodeProvisionEnvelope env
  let url ← Prog.ofOption (.throw (.serviceError .invalidUrl))
    (X.joinServiceUrl ("/v1/provisioning/" ++ destination))
  (Prog.await (.putProvisioningMessage url (X.base64Encode body)) id).mapErr .serviceError

/-- Everything up to the request: the address of the link and the envelope for it. -/
def sealForLink (url : X.Url) (profileKey : Option ProfileKey) (secrets : ProvisioningSecrets X) :
    PrimaryProg X (String × ProvisionEnvelope) := do
  let (ephemeralId, pubKey) ← Prog.ofExcept (readLink X url)
  let aciIdentityKeyPair ← (Prog.await .aciIdentityKeyPair id).mapErr .protocolError
  let pniIdentityKeyPair ← (Prog.await .pniIdentityKeyPair id).mapErr .protocolError
  let provisioningCode ← (Prog.await .newDeviceProvisioningCode id).mapErr .serviceError
  let msg := provisionMessage X aciIdentityKeyPair pniIdentityKeyPair provisioningCode profileKey
    secrets
  let encrypted ← (ProvisioningCipher.encrypt X (.fromPublic pubKey) msg).lift .cipher
    fun _ answer => answer
  return (ephemeralId, encrypted)

def linkDevice (url : X.Url) (profileKey : Option ProfileKey) (secrets : ProvisioningSecrets X) :
    PrimaryProg X Unit := do
  let (ephemeralId, encrypted) ← sealForLink X url profileKey secrets
  sendProvisioningMessage X ephemeralId encrypted

end AccountManager

/-! ## The new device -/

namespace Provisioning

structure NewDeviceRegistration (X : ProvisioningExternals) where
  phoneNumber : X.E164
  deviceId : DeviceId
  registrationId : Nat
  pniRegistrationId : Nat
  aci : Uuid
  pni : Uuid
  aciPrivateKey : X.PrivateKey
  aciPublicKey : X.PublicKey
  pniPrivateKey : X.PrivateKey
  pniPublicKey : X.PublicKey
  profileKey : ProfileKey
  accountEntropyPool : Option X.AccountEntropyPool
  ephemeralBackupKey : Option (Vector UInt8 32)

inductive SecondaryDeviceProvisioning (X : ProvisioningExternals) where
  | url (url : X.Url)
  | newDeviceRegistration (registration : NewDeviceRegistration X)

/-- The request, with the capabilities that are always the default ones left out. -/
structure LinkRequest where
  verificationCode : String
  registrationId : Nat
  pniRegistrationId : Nat
  fetchesMessages : Bool
  name : String
  aciSignedPreKey : SignedPreKeyEntity
  pniSignedPreKey : SignedPreKeyEntity
  aciPqLastResortPreKey : KyberPreKeyEntity
  pniPqLastResortPreKey : KyberPreKeyEntity

structure LinkResponse where
  aci : Uuid
  pni : Uuid
  deviceId : DeviceId

inductive LinkCall (X : ProvisioningExternals) where
  | openSocket
  /-- A number from 1 up to 255. -/
  | randomRegistrationId
  | generatePipeKeyPair
  | pipe (c : PipeCall)
  /-- `tx.send`, answered by whether the application still listens. -/
  | publish (provisioning : SecondaryDeviceProvisioning X)
  | aciStore (c : PreKeyCall X.toCurve)
  | pniStore (c : PreKeyCall X.toCurve)
  | generateNameKeyPair
  | linkDevice (request : LinkRequest) (username password : String)

@[reducible] def LinkAnswer (X : ProvisioningExternals) : LinkCall X → Type
  | .openSocket => Except ServiceError Unit
  | .randomRegistrationId => Fin 255
  | .generatePipeKeyPair | .generateNameKeyPair => X.PrivateKey
  | .pipe c => PipeAnswer c
  | .publish _ => Bool
  | .aciStore c | .pniStore c => PreKeyAnswer X.toCurve c
  | .linkDevice _ _ _ => Except ServiceError LinkResponse

abbrev LinkProg (X : ProvisioningExternals) (α : Type) :=
  Prog (LinkCall X) (LinkAnswer X) ProvisioningError α

variable (X : ProvisioningExternals)

/-! ### The fields of the message -/

/-- What the message says, read before any key is made. -/
structure LinkFields where
  aciKeyPair : KeyPair X.toCurve
  pniKeyPair : KeyPair X.toCurve
  profileKey : Bytes
  accountEntropyPool : Option X.AccountEntropyPool
  ephemeralBackupKey : Option (Vector UInt8 32)
  phoneNumber : X.E164
  provisioningCode : String

/-- `ok_or`. -/
def required {α : Type} (missing : ProvisioningError) : Option α → Except ProvisioningError α
  | none => .error missing
  | some value => .ok value

def readPublicKey (field : Option Bytes) : Except ProvisioningError X.PublicKey := do
  let bytes ← required .missingPublicKey field
  required (.invalidPublicKey .curve) (X.deserializePublic bytes)

def readPrivateKey (field : Option Bytes) : Except ProvisioningError X.PrivateKey := do
  let bytes ← required .missingPrivateKey field
  required (.invalidPrivateKey .curve) (X.deserializePrivate bytes)

def readPool : Option String → Except ProvisioningError (Option X.AccountEntropyPool)
  | none => .ok none
  | some text => do return some (← required .invalidAccountEntropyPool (X.parsePool text))

/-- A backup key of the wrong length only costs the transfer of the history. -/
def readFields (message : ProvisionMessage) : Except ProvisioningError (LinkFields X) := do
  let aciPublicKey ← readPublicKey X message.aciIdentityKeyPublic
  let aciPrivateKey ← readPrivateKey X message.aciIdentityKeyPrivate
  let pniPublicKey ← readPublicKey X message.pniIdentityKeyPublic
  let pniPrivateKey ← readPrivateKey X message.pniIdentityKeyPrivate
  let profileKey ← required .missingProfileKey message.profileKey
  let accountEntropyPool ← readPool X message.accountEntropyPool
  let ephemeralBackupKey := message.ephemeralBackupKey.bind (arrayOf? 32)
  let phoneNumber ← required .missingPhoneNumber message.number
  let phoneNumber ← required .invalidPhoneNumber (X.parseE164 phoneNumber)
  let provisioningCode ← required .missingProvisioningCode message.provisioningCode
  return {
    aciKeyPair := ⟨aciPublicKey, aciPrivateKey⟩
    pniKeyPair := ⟨pniPublicKey, pniPrivateKey⟩
    profileKey
    accountEntropyPool
    ephemeralBackupKey
    phoneNumber
    provisioningCode }

/-- `ProfileKey::create` of as many bytes as it takes. -/
def profileKeyOf? (bytes : Bytes) : Option ProfileKey :=
  if size : bytes.length = 32 then some ⟨bytes, size⟩ else none

/-! ### Registering -/

def assertion (holds : Bool) (message : String) : Exit ProvisioningError Unit :=
  if holds then .ret () else .panic message

/-- A signed key and a last resort key, saved in one of the two stores. -/
def deviceKeys (keys : LinkProg X (ReplenishedKeys X.toCurve)) :
    LinkProg X (SignedPreKeyRecord X.toCurve × KyberPreKeyRecord) := do
  let keys ← keys
  let lastResort ← Prog.ofOption (.panic "requested last resort key") keys.pqLastResortKey
  Prog.ofExit (assertion keys.preKeys.isEmpty "assertion failed: _pre_keys.is_empty()")
  Prog.ofExit (assertion keys.pqPreKeys.isEmpty "assertion failed: _pq_pre_keys.is_empty()")
  return (keys.signedPreKey, lastResort)

def replenishAci (keyPair : KeyPair X.toCurve) : LinkProg X (ReplenishedKeys X.toCurve) :=
  ((replenishPreKeys keyPair true 0 0).lift .aciStore fun _ answer => answer).mapErr .protocolError

def replenishPni (keyPair : KeyPair X.toCurve) : LinkProg X (ReplenishedKeys X.toCurve) :=
  ((replenishPreKeys keyPair true 0 0).lift .pniStore fun _ answer => answer).mapErr .protocolError

def encryptDeviceName (deviceName : String) (identityPublic : X.PublicKey) :
    LinkProg X DeviceName := do
  let plaintext := utf8Bytes deviceName
  let ephemeralKeyPair := KeyPair.ofPrivate (← Prog.ask .generateNameKeyPair)
  let masterSecret ← Prog.ofOption (.throw (.serviceError (.other "curve error")))
    (X.calculateAgreement ephemeralKeyPair.privateKey identityPublic)
  let key1 := X.hmac masterSecret (utf8Bytes "auth")
  let syntheticIv := (X.hmac key1 plaintext).take 16
  let key2 := X.hmac masterSecret (utf8Bytes "cipher")
  let cipherKey := X.hmac key2 syntheticIv
  let ciphertext := X.aesCtr cipherKey (List.replicate 16 0) plaintext
  return ⟨some (X.serializePublic ephemeralKeyPair.publicKey), some syntheticIv, some ciphertext⟩

structure RegistrationIds where
  registrationId : Nat
  pniRegistrationId : Nat

/-- The length of the profile key is looked at only when both stores have been written. -/
def register (ids : RegistrationIds) (password deviceName : String) (fields : LinkFields X) :
    LinkProg X (NewDeviceRegistration X) := do
  let (aciSignedPreKey, aciLastResort) ← deviceKeys X (replenishAci X fields.aciKeyPair)
  let (pniSignedPreKey, pniLastResort) ← deviceKeys X (replenishPni X fields.pniKeyPair)
  let name ← encryptDeviceName X deviceName fields.aciKeyPair.publicKey
  let profileKey ← Prog.ofOption (.throw .invalidProfileKey) (profileKeyOf? fields.profileKey)
  let aciSignedPreKey ← (Prog.ofExcept (SignedPreKeyEntity.ofRecord aciSignedPreKey)).mapErr
    .protocolError
  let pniSignedPreKey ← (Prog.ofExcept (SignedPreKeyEntity.ofRecord pniSignedPreKey)).mapErr
    .protocolError
  let aciLastResort ← (Prog.ofExcept (KyberPreKeyEntity.ofRecord aciLastResort)).mapErr
    .protocolError
  let pniLastResort ← (Prog.ofExcept (KyberPreKeyEntity.ofRecord pniLastResort)).mapErr
    .protocolError
  let response ← (Prog.await (.linkDevice {
    verificationCode := fields.provisioningCode
    registrationId := ids.registrationId
    pniRegistrationId := ids.pniRegistrationId
    fetchesMessages := true
    name := X.base64Encode (X.encodeDeviceName name)
    aciSignedPreKey := aciSignedPreKey
    pniSignedPreKey := pniSignedPreKey
    aciPqLastResortPreKey := aciLastResort
    pniPqLastResortPreKey := pniLastResort } (X.e164String fields.phoneNumber) password)
    id).mapErr .serviceError
  return {
    phoneNumber := fields.phoneNumber
    deviceId := response.deviceId
    registrationId := ids.registrationId
    pniRegistrationId := ids.pniRegistrationId
    aci := response.aci
    pni := response.pni
    aciPrivateKey := fields.aciKeyPair.privateKey
    aciPublicKey := fields.aciKeyPair.publicKey
    pniPrivateKey := fields.pniKeyPair.privateKey
    pniPublicKey := fields.pniKeyPair.publicKey
    profileKey
    accountEntropyPool := fields.accountEntropyPool
    ephemeralBackupKey := fields.ephemeralBackupKey }

/-! ### Linking -/

/-- The next item of the stream, from the requests the socket still delivers. -/
def nextStep (cipher : ProvisioningCipher X.toCurve) (missing : ProvisioningError) :
    List WebSocketRequestMessage →
      LinkProg X (ProvisioningStep X × List WebSocketRequestMessage)
  | [] => Prog.throw missing
  | request :: rest => do
      let step ← (processRequest X cipher request).lift .pipe fun _ answer => answer
      return (step, rest)

def expectUrl : ProvisioningStep X → Except ProvisioningError X.Url
  | .url url => .ok url
  | .message _ => .error .invalidStep

def expectMessage : ProvisioningStep X → Except ProvisioningError ProvisionMessage
  | .message message => .ok message
  | .url _ => .error .invalidStep

/-- `tx.send(..).await.expect(..)`. -/
def publish (provisioning : SecondaryDeviceProvisioning X) (failure : String) :
    LinkProg X Unit := do
  if ← Prog.ask (.publish provisioning) then pure () else Prog.panic failure

/-- Up to the message: the link is shown and the envelope for it opened. -/
def receiveMessage (cipher : ProvisioningCipher X.toCurve)
    (requests : List WebSocketRequestMessage) : LinkProg X ProvisionMessage := do
  let (step, requests) ← nextStep X cipher .missingUrl requests
  let url ← Prog.ofExcept (expectUrl X step)
  publish X (.url url) "failed to send provisioning Url in channel"
  let (step, _) ← nextStep X cipher .missingMessage requests
  Prog.ofExcept (expectMessage X step)

def linkDevice (password deviceName : String) (requests : List WebSocketRequestMessage) :
    LinkProg X Unit := do
  (Prog.await .openSocket id).mapErr .serviceError
  let registrationId : Fin 255 ← Prog.ask LinkCall.randomRegistrationId
  let pniRegistrationId : Fin 255 ← Prog.ask LinkCall.randomRegistrationId
  let keyPair := KeyPair.ofPrivate (← Prog.ask .generatePipeKeyPair)
  let message ← receiveMessage X (.fromKeyPair keyPair) requests
  let fields ← Prog.ofExcept (readFields X message)
  let registration ← register X ⟨registrationId.val + 1, pniRegistrationId.val + 1⟩ password
    deviceName fields
  publish X (.newDeviceRegistration registration)
    "failed to send provisioning message in rx channel"

end Provisioning

end SignalService

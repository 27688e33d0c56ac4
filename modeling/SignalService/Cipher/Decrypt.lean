import SignalService.Content
import SignalService.Cipher.Padding

/-! # Opening envelopes

`cipher.rs`, receiving side: the header checks, the dispatch over envelope types with
the sealed sender route, the PNI signature side-car, and `open_envelope` around them.
-/

namespace SignalService

open Effect

/-- `ServiceCipher`, less the store and the locks, which are reached through calls. -/
structure ServiceCipher where
  trustRoots : List PublicKey
  localAddress : ProtocolAddress

/-- `SealedSenderDecryptionResult`. -/
structure SealedSenderDecryptionResult where
  senderUuid : String
  senderE164 : Option String
  deviceId : DeviceId
  message : Bytes

/-- Decrypted bytes plus the metadata fields that vary by envelope type. -/
structure DecryptedPayload where
  data : Bytes
  sender : ServiceId
  senderDevice : DeviceId
  wasPlaintext : Bool
  unidentifiedSender : Bool
  needsReceipt : Bool

structure Plaintext where
  metadata : Metadata
  message : Proto.Content

variable (X : Externals)

def getPreferredProtocolAddress (id : ServiceId) (device : DeviceId) :
    Async SignalProtocolError ProtocolAddress := do
  let address := X.protocolAddress id device
  let _ ← Async.loadSession address
  return address

/-! ## Sealed sender -/

/-- The four-way dispatch on the inner message type. -/
def sealedSenderDecryptMessage (msgType : CiphertextMessageType) (contents : Bytes)
    (remote loc : ProtocolAddress) : Async SignalProtocolError Bytes :=
  match msgType with
  | .whisper => do
      let ctext ← Prog.ofExcept (X.signalMessage contents)
      Async.await (.messageDecryptSignal ctext remote loc) id
  | .preKey => do
      let ctext ← Prog.ofExcept (X.preKeySignalMessage contents)
      Async.await (.messageDecryptPrekey ctext remote loc) id
  | .senderKey => Async.await (.groupDecrypt contents remote) id
  | .plaintext => Prog.ofExcept (X.plaintextContentBody contents)

def sealedSenderDecryptWithValidatedUsmc (usmc : UnidentifiedSenderMessageContent)
    (remote loc : ProtocolAddress) : Async SignalProtocolError SealedSenderDecryptionResult := do
  let msgType ← Prog.ofExcept usmc.msgType
  let contents ← Prog.ofExcept usmc.contents
  let message ← sealedSenderDecryptMessage X msgType contents remote loc
  let certificate ← Prog.ofExcept usmc.sender
  let senderUuid ← Prog.ofExcept certificate.senderUuid
  let senderE164 ← Prog.ofExcept certificate.senderE164
  let deviceId ← Prog.ofExcept certificate.senderDeviceId
  return ⟨senderUuid, senderE164, deviceId, message⟩

/-- `is_local_e164`: both numbers are known and the same. -/
def isLocalE164 : Option String → Option String → Bool
  | some l, some s => decide (l = s)
  | _, _ => false

/-- The certificate checks of `sealed_sender_decrypt`, up to the address they trust. -/
def sealedSenderAddress (trustRoots : List PublicKey) (timestamp : Nat)
    (localE164 : Option String) (loc : ProtocolAddress)
    (usmc : UnidentifiedSenderMessageContent) : Exit SignalProtocolError ProtocolAddress := do
  let certificate ← Exit.ofExcept usmc.sender
  let valid ← Exit.ofExcept (X.validateWithTrustRoots certificate trustRoots timestamp)
  if !valid then
    Exit.throw (.invalidSealedSenderMessage "trust root validation failed")
  else do
    let localServiceId ← Exit.ofOption (.panic "valid protocol address name")
      (X.parseServiceIdString loc.name)
    let senderUuid ← Exit.ofExcept certificate.senderUuid
    let senderId ← Exit.ofOption (.panic "valid uuid") (X.parseUuid senderUuid)
    let isLocalUuid := decide (localServiceId.rawUuid = senderId)
    let senderE164 ← Exit.ofExcept certificate.senderE164
    let deviceId ← Exit.ofExcept certificate.senderDeviceId
    if (isLocalE164 localE164 senderE164 || isLocalUuid) && decide (deviceId = loc.deviceId) then
      Exit.throw .sealedSenderSelfSend
    else
      return ⟨senderUuid, deviceId⟩

def sealedSenderDecrypt (ciphertext : Bytes) (trustRoots : List PublicKey) (timestamp : Nat)
    (localE164 : Option String) (loc : ProtocolAddress) :
    Async SealedSenderDecryptionError SealedSenderDecryptionResult := do
  let usmc ← (Async.await (.sealedSenderDecryptToUsmc ciphertext) id).mapErr
    SealedSenderDecryptionError.ofProtocol
  let remote ← (Prog.ofExit (sealedSenderAddress X trustRoots timestamp localE164 loc usmc)).mapErr
    SealedSenderDecryptionError.ofProtocol
  let body := (sealedSenderDecryptWithValidatedUsmc X usmc remote loc).mapErr fun inner =>
    { inner
      sender := some remote
      original := match usmc.msgType, usmc.contents with
        | .ok msgType, .ok contents => some (msgType, contents)
        | _, _ => none }
  match X.parseServiceIdString remote.name with
  | some sender => Async.withLock sender body
  -- a name that is no service id is decrypted without a session lock
  | none => body

/-! ## Decrypting an envelope -/

/-- The checks on destination and source that every envelope type goes through. -/
def checkHeader (localService : ServiceId) (envelope : Envelope) :
    Except ServiceError (Option ServiceId) := do
  match envelope.parseDestinationServiceId X with
  | none => throw (.invalidFrame "missing destination service id")
  | some destination =>
      if destination ≠ localService then
        throw (.invalidFrame "mismatch destination service id")
      else
        let source := envelope.parseSourceServiceId X
        if destination.kind = .pni ∧ source = none then
          throw (.invalidFrame "sealed sender received on our PNI")
        else if (source.map ServiceId.kind = some .pni) ∧
            envelope.envelopeType ≠ .serverDeliveryReceipt then
          throw (.invalidFrame "PNI received a non-ServerDeliveryReceipt")
        else
          return source

/-- `source_service_id.expect(..)`. -/
def expectSource (source : Option ServiceId) : Async ServiceError ServiceId :=
  Prog.ofOption (.panic "prekey bundle format contains source_service_id") source

/-- `envelope.source_device_id().try_into()?`. -/
def expectSenderDevice (envelope : Envelope) : Async ServiceError DeviceId :=
  Prog.ofOption (.throw .invalidDeviceId) envelope.senderDevice

/-- The two identified ciphertext types: decrypt under the peer's lock and strip the
    padding its session version calls for. -/
def decryptIdentified (decryptMessage : ProtocolAddress → Async SignalProtocolError Bytes)
    (source : ServiceId) (device : DeviceId) : Async ServiceError DecryptedPayload :=
  Async.withLock source do
    let sender ← (getPreferredProtocolAddress X source device).mapErr .signalProtocolError
    let data ← (decryptMessage sender).mapErr .signalProtocolError
    let loaded ← (Async.loadSession sender).mapErr .signalProtocolError
    let record ← Prog.ofOption
      (.throw (.signalProtocolError (.sessionNotFound (some sender) "decrypt"))) loaded
    let version ← (Prog.ofExcept (X.sessionVersion record)).mapErr .signalProtocolError
    let data ← Prog.ofExcept (stripPaddingVersion version data)
    return ⟨data, source, device, false, false, false⟩

/-- The body of an unsealed `PlaintextContent`, which should be a decryption error. -/
def decryptPlaintextContent (envelope : Envelope) (ciphertext : Bytes) (source : ServiceId) :
    Async ServiceError DecryptedPayload := do
  let body ← (Prog.ofExcept (X.plaintextContentBody ciphertext)).mapErr .signalProtocolError
  let data ← Prog.ofExcept (stripPadding body)
  let device ← expectSenderDevice envelope
  return ⟨data, source, device, true, false, false⟩

def decryptUnidentifiedSender (cipher : ServiceCipher) (envelope : Envelope) (ciphertext : Bytes)
    (source : Option ServiceId) : Async ServiceError DecryptedPayload := do
  let result ← (sealedSenderDecrypt X ciphertext cipher.trustRoots
    (envelope.clientTimestamp.getD 0) none cipher.localAddress).mapErr
      .sealedSenderDecryptionError
  match X.parseServiceIdString result.senderUuid with
  | none =>
      Prog.throw (.signalProtocolError (.invalidSealedSenderMessage "invalid sender UUID"))
  | some sender =>
      if sender.kind = .pni then
        Prog.throw (.invalidFrame "sealed sender used for PNI")
      else do
        let data ← Prog.ofExcept (stripPadding result.message)
        return ⟨data, sender, result.deviceId, false, true, source.isNone⟩

/-- The `match envelope.r#type()` of `decrypt`. -/
def decryptParts (cipher : ServiceCipher) (envelope : Envelope) (ciphertext : Bytes)
    (source : Option ServiceId) : Async ServiceError DecryptedPayload :=
  match envelope.envelopeType with
  | .prekeyMessage => do
      let sourceId ← expectSource source
      let device ← expectSenderDevice envelope
      decryptIdentified X (fun sender => do
        let message ← Prog.ofExcept (X.preKeySignalMessage ciphertext)
        Async.await (.messageDecryptPrekey message sender cipher.localAddress) id)
        sourceId device
  | .plaintextContent => do
      let sourceId ← expectSource source
      decryptPlaintextContent X envelope ciphertext sourceId
  | .doubleRatchet => do
      let sourceId ← expectSource source
      let device ← expectSenderDevice envelope
      decryptIdentified X (fun sender => do
        let message ← Prog.ofExcept (X.signalMessage ciphertext)
        Async.await (.messageDecryptSignal message sender cipher.localAddress) id)
        sourceId device
  | .unidentifiedSender => decryptUnidentifiedSender X cipher envelope ciphertext source
  | .unknown | .serverDeliveryReceipt => Prog.throw (.invalidFrame "envelope has unknown type")

/-! ## The PNI signature side-car -/

/-- An identity the store can read; a store error counts as none. -/
def readableIdentity {ε : Type} (address : ProtocolAddress) : Async ε (Option IdentityKey) :=
  .call (.getIdentity address) fun r => pure (match r with
    | .ok identity => identity
    | .error _ => none)

/-- The PNI identity, under the sender's device or else under the primary one. -/
def pniIdentity {ε : Type} (pni : Pni) (device : DeviceId) : Async ε (Option IdentityKey) := do
  match ← readableIdentity (X.protocolAddress (.pni pni) device) with
  | some identity => return some identity
  | none =>
      if device = defaultDeviceId then return none
      else readableIdentity (X.protocolAddress (.pni pni) defaultDeviceId)

/-- `Pni::parse_from_service_id_binary`: the service id it is the binary form of. -/
def parsePniBinary (bytes : Bytes) : Option Pni :=
  (X.parseServiceIdBinary bytes).bind ServiceId.pni?

def verifyPniSignature {ε : Type} (sender : ServiceId) (device : DeviceId)
    (sideCar : PniSignatureMessage) : Async ε (Option Pni) :=
  match sender.aci?, sideCar.pni.bind (parsePniBinary X), sideCar.signature with
  | some senderAci, some pni, some signature => do
      match ← readableIdentity (X.protocolAddress (.aci senderAci) device) with
      | none => return none
      | some aciIdentity =>
          match ← pniIdentity X pni device with
          | none => return none
          | some pniIdentity =>
              match X.verifyAlternateIdentity pniIdentity aciIdentity signature with
              | .ok true => return some pni
              | _ => return none
  | _, _, _ => return none

/-! ## Decrypt and open -/

def localService {ε : Type} (cipher : ServiceCipher) : Async ε ServiceId :=
  Prog.ofOption (.panic "valid protocol address name")
    (X.parseServiceIdString cipher.localAddress.name)

def parseTimestamp (millis : Nat) (reason : String) : Except ServiceError Int :=
  match X.fromTimestampMillis (asI64 millis) with
  | some time => .ok time
  | none => .error (.invalidFrame reason)

/-- `pni_verified`: what the side-car of a message proves, if it has one. -/
def verifySideCar {ε : Type} (parts : DecryptedPayload) (message : Proto.Content) :
    Async ε (Option Pni) :=
  match message.pniSignatureMessage with
  | some sideCar => verifyPniSignature X parts.sender parts.senderDevice sideCar
  | none => pure none

/-- The part of `decrypt` after the payload is open. The timestamps were parsed before
    but are only insisted on here. -/
def finishDecrypt (localId : ServiceId) (envelope : Envelope) (parts : DecryptedPayload) :
    Async ServiceError Plaintext := do
  let message ← Prog.ofOption (.throw .protobufDecodeError) (X.decodeContent parts.data)
  let pniVerified ← verifySideCar X parts message
  let clientTimestamp ← Prog.ofExcept
    (parseTimestamp X (envelope.clientTimestamp.getD 0) "unparseable timestamp")
  let serverTimestamp ← Prog.ofExcept
    (parseTimestamp X (envelope.serverTimestamp.getD 0) "unparseable server timestamp")
  return {
    metadata := {
      destination := localId
      sender := parts.sender
      senderDevice := parts.senderDevice
      clientTimestamp
      serverTimestamp
      needsReceipt := parts.needsReceipt
      unidentifiedSender := parts.unidentifiedSender
      wasPlaintext := parts.wasPlaintext
      serverGuid := envelope.parseServerGuid X
      reportSpamToken := envelope.reportSpamToken
      pniVerified }
    message }

def decrypt (cipher : ServiceCipher) (envelope : Envelope) : Async ServiceError Plaintext := do
  let localId ← localService X cipher
  match envelope.content with
  | none =>
      Prog.throw (.invalidFrame "envelope should have either a legacy message or content.")
  | some ciphertext => do
      let source ← Prog.ofExcept (checkHeader X localId envelope)
      let parts ← decryptParts X cipher envelope ciphertext source
      finishDecrypt X localId envelope parts

/-- Ingest a sender key distribution side-car. -/
def ingestSenderKey (plaintext : Plaintext) : Async ServiceError Unit :=
  match plaintext.message.senderKeyDistributionMessage with
  | none => pure ()
  | some bytes => do
      let skdm ← (Prog.ofExcept (X.senderKeyDistributionMessage bytes)).mapErr
        .signalProtocolError
      let sender := X.protocolAddress plaintext.metadata.sender plaintext.metadata.senderDevice
      (Async.await (.processSenderKeyDistributionMessage sender skdm) id).mapErr
        .signalProtocolError
      let _ ← (Prog.ofExcept (X.distributionId skdm)).mapErr .signalProtocolError
      return ()

/-- The plaintext sanity test, the sync message filter and the conversion. -/
def admitContent (localId : ServiceId) (plaintext : Plaintext) :
    Except ServiceError (Option Content) :=
  match plaintext.message.content with
  | none => .ok none
  | some body =>
      if plaintext.metadata.wasPlaintext = true ∧ ¬ body.IsDecryptionErrorMessage then .ok none
      else if body.IsSyncMessage ∧
          (plaintext.metadata.sender.aci? ≠ localId.aci? ∨ localId.kind = .pni) then .ok none
      else (Content.fromProto X plaintext.message plaintext.metadata).map some

/-- The part of `open_envelope` after `decrypt`. -/
def deliver (localId : ServiceId) (plaintext : Plaintext) :
    Async ServiceError (Option Content) := do
  ingestSenderKey X plaintext
  Prog.ofExcept (admitContent X localId plaintext)

def openEnvelope (cipher : ServiceCipher) (envelope : Envelope) :
    Async ServiceError (Option Content) := do
  let localId ← localService X cipher
  if envelope.content.isSome then
    let plaintext ← decrypt X cipher envelope
    deliver X localId plaintext
  else
    return none

end SignalService

import SignalService.Cipher.Decrypt

/-! # Encrypting for one device

`ServiceCipher::encrypt`: one outgoing body, for one stored session.
-/

namespace SignalService

open Effect

variable (X : Externals)

/-- The type an encrypted message travels under. -/
def outgoingType : CiphertextMessageType → Exit ServiceError EnvelopeType
  | .preKey => .ret .prekeyMessage
  | .whisper => .ret .doubleRatchet
  | .senderKey => .panic "Bad type: SenderKey"
  | .plaintext => .panic "Bad type: Plaintext"

def registrationId (record : SessionRecord) : Async ServiceError Nat :=
  (Prog.ofExcept (X.remoteRegistrationId record)).mapErr .signalProtocolError

/-- `has_usable_sender_chain(..).unwrap_or(false)`. -/
def recordUsable (record : SessionRecord) : Async ServiceError Bool :=
  .call (.hasUsableSenderChain record) fun r => pure (match r with
    | .ok usable => usable
    | .error _ => false)

def sessionNotFound (address : ProtocolAddress) : ServiceError :=
  .signalProtocolError (.sessionNotFound (some address) "encrypt")

/-- The ratchet step, sealed or not, and the message around its ciphertext. -/
def encryptPadded (cipher : ServiceCipher) (address : ProtocolAddress)
    (certificate : Option SenderCertificate) (record : SessionRecord) (padded : Bytes) :
    Async ServiceError OutgoingPushMessage :=
  match certificate with
  | some certificate => do
      let destinationRegistrationId ← registrationId X record
      let message ← (Async.await (.sealedSenderEncrypt address certificate padded) id).mapErr
        ServiceError.signalProtocolError
      return ⟨EnvelopeType.unidentifiedSender.toNat, address.deviceId,
        destinationRegistrationId, X.base64 message⟩
  | none => do
      let message ← (Async.await (.messageEncrypt padded address cipher.localAddress) id).mapErr
        ServiceError.signalProtocolError
      let destinationRegistrationId ← registrationId X record
      let messageType ← Prog.ofExit (outgoingType message.messageType)
      return ⟨messageType.toNat, address.deviceId, destinationRegistrationId,
        X.base64 message.serialized⟩

def encrypt (cipher : ServiceCipher) (address : ProtocolAddress)
    (certificate : Option SenderCertificate) (content : OutgoingContent) :
    Async ServiceError OutgoingPushMessage := do
  let loaded ← (Async.loadSession address).mapErr .signalProtocolError
  let record ← Prog.ofOption (.throw (sessionNotFound address)) loaded
  match content with
  -- a plaintext envelope reads the session but takes no step of its ratchet
  | .plaintext serialized => do
      let destinationRegistrationId ← registrationId X record
      return ⟨EnvelopeType.plaintextContent.toNat, address.deviceId, destinationRegistrationId,
        X.base64 serialized⟩
  | .encrypted content => do
      let usable ← recordUsable record
      if usable then
        let version ← (Prog.ofExcept (X.sessionVersion record)).mapErr .signalProtocolError
        let padded ← Prog.ofExcept (addPadding version content)
        encryptPadded X cipher address certificate record padded
      else
        Prog.throw (sessionNotFound address)

end SignalService

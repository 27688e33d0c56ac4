import SignalService.Requests
import SignalService.Cipher.Encrypt

/-! # Sending messages

`sender.rs`: one message per device of the recipient, the retry loop that repairs
sessions as the server asks, and the entry points above it with the transcripts they
send to our own devices.
-/

namespace SignalService

open Effect

/-- `MessageSender`, less the sockets and the store, which are reached through calls. -/
structure MessageSender where
  cipher : ServiceCipher
  localAci : Aci
  localPni : Pni
  pniIdentity : Option IdentityKeyPair
  deviceId : DeviceId

structure EncryptedMessages where
  messages : List OutgoingPushMessage
  usedIdentityKey : IdentityKey
  deriving DecidableEq, Repr

variable (X : Externals) (sender : MessageSender)

namespace MessageSender

/-- The address that libsignal is told we are, when a session is built. -/
def localProtocolAddress : ProtocolAddress :=
  X.protocolAddress (.aci sender.localAci) sender.deviceId

/-- The recipient is our own account, under either identity. -/
def IsOwn (recipient : ServiceId) : Prop :=
  recipient = .aci sender.localAci ∨ recipient = .pni sender.localPni

instance (recipient : ServiceId) : Decidable (sender.IsOwn recipient) :=
  inferInstanceAs (Decidable (_ ∨ _))

/-! ## One message for one device -/

/-- The bundles to build sessions from; for the primary device, those of all devices. -/
def fetchPreKeys (recipient : ServiceId) (device : DeviceId) :
    Async MessageSenderError (List PreKeyBundle) := do
  match ← (getPreKeys X recipient device).attempt with
  | .ok bundles => return bundles
  | .error .notFoundError => Prog.throw (.notFound recipient)
  | .error e => Prog.throw (.serviceError e)

def processPrekeyBundle (address : ProtocolAddress) (bundle : PreKeyBundle) :
    Async SignalProtocolError Unit :=
  Async.await (.processPrekeyBundle address (sender.localProtocolAddress X) bundle) id

def establishSessions (recipient : ServiceId) : List PreKeyBundle → Async MessageSenderError Unit
  | [] => pure ()
  | bundle :: bundles => do
      -- not establishing a session with myself
      if recipient = .aci sender.localAci ∧ sender.deviceId = bundle.deviceId then
        establishSessions recipient bundles
      else
        let address ← (getPreferredProtocolAddress X recipient bundle.deviceId).mapErr
          .protocolError
        (sender.processPrekeyBundle X address bundle).mapErr .protocolError
        establishSessions recipient bundles

def createEncryptedMessage (recipient : ServiceId) (certificate : Option SenderCertificate)
    (device : DeviceId) (content : OutgoingContent) :
    Async MessageSenderError OutgoingPushMessage := do
  let address := X.protocolAddress recipient device
  let session ← (Async.loadSession address).mapErr .protocolError
  if session.isNone then
    let bundles ← fetchPreKeys X recipient device
    sender.establishSessions X recipient bundles
  (encrypt X sender.cipher address certificate content).mapErr .serviceError

/-! ## One message for each device -/

/-- The devices a message goes to: those with a session and the primary one, without
    ours. -/
def targetDevices (recipient : ServiceId) (subDevices : List DeviceId) : List DeviceId :=
  let devices := (defaultDeviceId :: subDevices).dedup
  if sender.IsOwn recipient then devices.filter (· ≠ sender.deviceId) else devices

/-- The `for _attempt in 0..2` around one device: a session that cannot be used is
    deleted and the message tried again. The loop is left without a message when every
    attempt ends so. -/
def encryptForDevice (recipient : ServiceId) (certificate : Option SenderCertificate)
    (content : OutgoingContent) (device : DeviceId) :
    Nat → Async MessageSenderError (Option OutgoingPushMessage)
  | 0 => pure none
  | attempts + 1 => do
      match ← (sender.createEncryptedMessage X recipient certificate device content).attempt with
      | .ok message => return some message
      | .error (.serviceError (.signalProtocolError (.sessionNotFound (some address) op))) =>
          match ← (Async.deleteSession address).attempt with
          | .ok () => encryptForDevice recipient certificate content device attempts
          | .error _ => Prog.throw (.protocolError (.sessionNotFound (some address) op))
      | .error e => Prog.throw e

def encryptForDevices (recipient : ServiceId) (certificate : Option SenderCertificate)
    (content : OutgoingContent) :
    List DeviceId → Async MessageSenderError (List OutgoingPushMessage)
  | [] => pure []
  | device :: devices => do
      let message ← sender.encryptForDevice X recipient certificate content device 2
      let messages ← encryptForDevices recipient certificate content devices
      return message.toList ++ messages

/-- The recipient's identity, as it is stored for the primary device. -/
def usedIdentityKey (recipient : ServiceId) : Async MessageSenderError IdentityKey := do
  let identity ← (Async.getIdentity (X.protocolAddress recipient defaultDeviceId)).mapErr
    .protocolError
  Prog.ofOption (.throw (.untrustedIdentity recipient)) identity

def createEncryptedMessages (recipient : ServiceId) (certificate : Option SenderCertificate)
    (content : OutgoingContent) : Async MessageSenderError (Option EncryptedMessages) := do
  let subDevices ← (Async.getSubDeviceSessions recipient).mapErr .protocolError
  let order ← Async.ask (.iterate (sender.targetDevices recipient subDevices))
  let messages ← sender.encryptForDevices X recipient certificate content order.val
  if messages = [] then
    return none
  else
    let usedIdentityKey ← usedIdentityKey X recipient
    return some ⟨messages, usedIdentityKey⟩

/-! ## The retry loop -/

/-- `delete_service_addr_device_session`: a session that is not there is no error. -/
def deleteServiceAddrDeviceSession (address : ProtocolAddress) : Async SignalProtocolError Nat := do
  match ← (Async.deleteSession address).attempt with
  | .ok () => return 1
  | .error (.sessionNotFound _ _) => return 0
  | .error e => Prog.throw e

def dropSessions (recipient : ServiceId) : List DeviceId → Async MessageSenderError Unit
  | [] => pure ()
  | device :: devices => do
      let _ ← (deleteServiceAddrDeviceSession (X.protocolAddress recipient device)).mapErr
        .protocolError
      dropSessions recipient devices

def createSessions (recipient : ServiceId) : List DeviceId → Async MessageSenderError Unit
  | [] => pure ()
  | device :: devices => do
      let bundle ← (getPreKey X recipient device).mapErr .serviceError
      (sender.processPrekeyBundle X (X.protocolAddress recipient device) bundle).mapErr fun _ =>
        .untrustedIdentity recipient
      createSessions recipient devices

/-- What is done about the error a batch was answered with: repair the sessions and go
    on with the access to use next, or give up. -/
def repair (recipient : ServiceId) (access : Option UnidentifiedAccess) :
    ServiceError → Async MessageSenderError (Option UnidentifiedAccess)
  | .unauthorized =>
      if access.isSome then return none else Prog.throw (.serviceError .unauthorized)
  | .mismatchedDevicesException devices => do
      dropSessions X recipient devices.extraDevices
      sender.createSessions X recipient devices.missingDevices
      return access
  | .staleDevices devices => do
      dropSessions X recipient devices.staleDevices
      return access
  | .proofRequiredError proof => Prog.throw (.proofRequired proof.token proof.options)
  | .unregisteredRecipient => Prog.throw (.notFound recipient)
  | e => Prog.throw (.serviceError e)

/-- Submit a batch, with the access key or over the identified socket. -/
def submit (access : Option UnidentifiedAccess) (messages : OutgoingPushMessages) :
    Async ServiceError SendMessageResponse :=
  match access with
  | some access => sendMessagesUnidentified X messages access
  | none => sendMessages X messages

/-- The body of the loop: a sent message, or the access for the next attempt. -/
def sendAttempt (recipient : ServiceId) (content : OutgoingContent) (timestamp : Nat)
    (online : Bool) (access : Option UnidentifiedAccess) :
    Async MessageSenderError (SentMessage ⊕ Option UnidentifiedAccess) := do
  match ← sender.createEncryptedMessages X recipient (access.map (·.certificate)) content with
  | none => Prog.throw .noMessagesToSend
  | some encrypted =>
      match ← (submit X access ⟨recipient, timestamp, encrypted.messages, online⟩).attempt with
      | .ok response =>
          return .inl ⟨recipient, encrypted.usedIdentityKey, access.isSome, response.needsSync⟩
      | .error e => do
          let next ← sender.repair X recipient access e
          return .inr next

def sendLoop (recipient : ServiceId) (content : OutgoingContent) (timestamp : Nat)
    (online : Bool) : Nat → Option UnidentifiedAccess → Async MessageSenderError SentMessage
  | 0, _ => Prog.throw .maximumRetriesLimitExceeded
  | attempts + 1, access => do
      match ← sender.sendAttempt X recipient content timestamp online access with
      | .inl sent => return sent
      | .inr next => sendLoop recipient content timestamp online attempts next

def trySendContent (recipient : ServiceId) (access : Option UnidentifiedAccess)
    (content : OutgoingContent) (timestamp : Nat) (online : Bool) :
    Async MessageSenderError SentMessage :=
  Async.withLock recipient (sender.sendLoop X recipient content timestamp online 4 access)

/-! ## Sending a body -/

def createPniSignature : Async MessageSenderError PniSignatureMessage := do
  let _ ← Prog.ofOption (.panic "PNI key set when PNI signature requested") sender.pniIdentity
  let signature ← (Async.await .signAlternateIdentity id).mapErr MessageSenderError.protocolError
  return ⟨some (X.serviceIdBinary (.pni sender.localPni)), some signature⟩

/-- The encoded content of a body, with our PNI signature where it is asked for. -/
def contentBytes (body : ContentBody) (includePniSignature : Bool) :
    Async MessageSenderError Bytes := do
  let content := body.intoProto X
  if includePniSignature then
    let signature ← sender.createPniSignature X
    return X.encodeContent { content with pniSignatureMessage := some signature }
  else
    return X.encodeContent content

def trySendMessage (recipient : ServiceId) (access : Option UnidentifiedAccess)
    (body : ContentBody) (timestamp : Nat) (includePniSignature online : Bool) :
    Async MessageSenderError SentMessage := do
  let content ← sender.contentBytes X body includePniSignature
  sender.trySendContent X recipient access (.encrypted content) timestamp online

def isMultiDevice {ε : Type} : Async ε Bool :=
  if sender.deviceId = defaultDeviceId then
    .call (.getSubDeviceSessions (.aci sender.localAci)) fun r => pure (match r with
      | .ok subDevices => !subDevices.isEmpty
      | .error _ => false)
  else
    return true

def deliveryStatus (sent : SentMessage) : UnidentifiedDeliveryStatus where
  destinationServiceId := some (X.serviceIdString sent.recipient)
  destinationServiceIdBinary := some (X.serviceIdBinary sent.recipient)
  unidentified := some sent.unidentified
  destinationPniIdentityKey := some sent.usedIdentityKey.serialized

/-- The data or edit message a transcript can carry. -/
def syncable : ContentBody → Option (Option DataMessage × Option EditMessage)
  | .dataMessage m => some (some m, none)
  | .editMessage m => some (none, some m)
  | _ => none

def createMultiDeviceSentTranscriptContent (recipient : Option ServiceId) (body : ContentBody)
    (timestamp : Nat) (results : List (Except MessageSenderError SentMessage)) :
    Async MessageSenderError (Option ContentBody) :=
  match syncable body with
  | none => return none
  | some (message, editMessage) => do
      let padding ← Async.ask .syncMessagePadding
      return some (.synchronizeMessage {
        content := some (.sent {
          destinationServiceId := recipient.map X.serviceIdString
          destinationServiceIdBinary := recipient.map X.serviceIdBinary
          destinationE164 := none
          expirationStartTimestamp := (message.bind (·.expireTimer)).map fun _ => timestamp
          message
          editMessage
          timestamp := some timestamp
          unidentifiedStatus := (results.filterMap Except.toOption).map (deliveryStatus X) })
        padding := some padding })

/-- What `send_message` sends to our own devices after the recipient's send. -/
def syncBody (recipient : ServiceId) (body : ContentBody) (timestamp : Nat)
    (result : Except MessageSenderError SentMessage) :
    Async MessageSenderError (Option ContentBody) :=
  match body with
  | .synchronizeMessage _ => return some body
  | _ => createMultiDeviceSentTranscriptContent X (some recipient) body timestamp [result]

def isSynchronizeMessage : ContentBody → Bool
  | .synchronizeMessage _ => true
  | _ => false

def needsSync : Except MessageSenderError SentMessage → Bool
  | .ok sent => sent.needsSync
  | .error _ => false

/-- A message to ourselves is only a transcript for our other devices. -/
def sendNoteToSelf (recipient : ServiceId) (body : ContentBody) (timestamp : Nat)
    (includePniSignature online : Bool) : Async MessageSenderError SentMessage := do
  match ← createMultiDeviceSentTranscriptContent X (some recipient) body timestamp [] with
  | some transcript =>
      sender.trySendMessage X recipient none transcript timestamp includePniSignature online
  | none => Prog.throw .noMessagesToSend

/-- The send to our own devices, where there is a body for it. -/
def sendToOwnDevices (recipient : ServiceId) (body : ContentBody) (timestamp : Nat)
    (result : Except MessageSenderError SentMessage) : Async MessageSenderError Unit := do
  match ← syncBody X recipient body timestamp result with
  | some transcript =>
      let _ ← sender.trySendMessage X (.aci sender.localAci) none transcript timestamp false false
      return ()
  | none => return ()

/-- The part of `send_message` after the recipient's send. The error of the second send
    comes first. -/
def finishSend (recipient : ServiceId) (body : ContentBody) (timestamp : Nat)
    (multiDevice : Bool) (result : Except MessageSenderError SentMessage) :
    Async MessageSenderError SentMessage := do
  if needsSync result || multiDevice then
    sender.sendToOwnDevices X recipient body timestamp result
  Prog.ofExcept result

def sendMessage (recipient : ServiceId) (access : Option UnidentifiedAccess) (body : ContentBody)
    (timestamp : Nat) (includePniSignature online : Bool) :
    Async MessageSenderError SentMessage := do
  let messageToSelf := decide (recipient = .aci sender.localAci)
  let syncMessage := isSynchronizeMessage body
  let multiDevice ← sender.isMultiDevice
  if messageToSelf && multiDevice && !syncMessage then
    sender.sendNoteToSelf X recipient body timestamp includePniSignature online
  else
    let access := if syncMessage then none else access
    let result ← (sender.trySendMessage X recipient access body timestamp includePniSignature
      online).attempt
    sender.finishSend X recipient body timestamp multiDevice result

/-! ## The other entry points -/

structure GroupRecipient where
  recipient : ServiceId
  access : Option UnidentifiedAccess
  includePniSignature : Bool

def sendToEach (body : ContentBody) (timestamp : Nat) (online : Bool) :
    List GroupRecipient → Async MessageSenderError (List (Except MessageSenderError SentMessage))
  | [] => pure []
  | r :: rs => do
      let result ← (sender.trySendMessage X r.recipient r.access body timestamp
        r.includePniSignature online).attempt
      let results ← sendToEach body timestamp online rs
      return result :: results

/-- `needs_sync_in_results || self.is_multi_device()`, where the second is only asked
    when the first does not hold. -/
def groupNeedsSync (results : List (Except MessageSenderError SentMessage)) :
    Async MessageSenderError Bool :=
  if results.any needsSync then return true else sender.isMultiDevice

def sendMessageToGroup (recipients : List GroupRecipient) (body : ContentBody)
    (timestamp : Nat) (online : Bool) :
    Async MessageSenderError (List (Except MessageSenderError SentMessage)) := do
  let results ← sender.sendToEach X body timestamp online recipients
  if ← sender.groupNeedsSync results then
    match ← createMultiDeviceSentTranscriptContent X none body timestamp results with
    | some transcript =>
        -- the result of sending a sync message is only logged
        let _ ← ((sender.trySendMessage X (.aci sender.localAci) none transcript timestamp false
          false).attempt : Async MessageSenderError _)
        return results
    | none => return results
  else
    return results

/-- Send a retry receipt: an unencrypted envelope with a decryption error message. -/
def sendDecryptionErrorMessage (recipient : ServiceId) (failedType : CiphertextMessageType)
    (failedCiphertext : Bytes) (failedTimestamp : Nat) (failedDevice : DeviceId) :
    Async MessageSenderError Unit := do
  let plaintext ← (Async.await (.decryptionErrorMessage failedCiphertext failedType
    failedTimestamp failedDevice) id).mapErr MessageSenderError.protocolError
  let now ← Async.ask .currentTimestamp
  let _ ← sender.trySendContent X recipient none (.plaintext plaintext) now false
  return ()

inductive MessageRequestResponseType where
  | unknown
  | accept
  | delete
  | block
  | blockAndDelete
  | spam
  | blockAndSpam
  deriving DecidableEq, Repr

def MessageRequestResponseType.toNat : MessageRequestResponseType → Nat
  | .unknown => 0
  | .accept => 1
  | .delete => 2
  | .block => 3
  | .blockAndDelete => 4
  | .spam => 5
  | .blockAndSpam => 6

/-- `ThreadIdentifier`; a group is named by its identifier. -/
inductive ThreadIdentifier where
  | aci (uuid : Uuid)
  | group (id : Bytes)

def messageRequestResponse (thread : ThreadIdentifier) (action : MessageRequestResponseType) :
    MessageRequestResponse :=
  match thread with
  | .aci uuid => ⟨some (X.serviceIdString (.aci ⟨uuid⟩)), some uuid.toBytes, none, some action.toNat⟩
  | .group id => ⟨none, none, some id, some action.toNat⟩

def sendMessageRequestResponse (recipient : ServiceId) (thread : ThreadIdentifier)
    (action : MessageRequestResponseType) : Async MessageSenderError Unit := do
  let padding ← Async.ask .syncMessagePadding
  let message : SyncMessage :=
    ⟨some (.messageRequestResponse (messageRequestResponse X thread action)), some padding⟩
  let now ← Async.ask .currentTimestamp
  let _ ← sender.sendMessage X recipient none (.synchronizeMessage message) now false false
  return ()

/-- Send a `SyncMessage` to own devices, if any. -/
def sendSyncMessage (sync : SyncMessage) : Async MessageSenderError Unit := do
  if ← sender.isMultiDevice then
    let now ← Async.ask .currentTimestamp
    let _ ← sender.trySendMessage X (.aci sender.localAci) none (.synchronizeMessage sync) now
      false false
    return ()
  else
    return ()

end MessageSender

end SignalService

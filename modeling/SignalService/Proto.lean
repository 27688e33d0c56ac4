import SignalService.Core

/-! # Protocol messages

The parts of `SignalService.proto` and `WebSocketResources.proto` that the service
takes apart or puts together. A message whose fields no modelled function reads is
kept as its encoded bytes.
-/

namespace SignalService

/-! ## Envelope -/

inductive EnvelopeType where
  | unknown
  | doubleRatchet
  | prekeyMessage
  | serverDeliveryReceipt
  | unidentifiedSender
  | plaintextContent
  deriving DecidableEq, Repr

/-- `envelope::Type::try_from`, with the numbers of the protobuf definition. -/
def EnvelopeType.ofNat? : Nat → Option EnvelopeType
  | 0 => some .unknown
  | 1 => some .doubleRatchet
  | 3 => some .prekeyMessage
  | 5 => some .serverDeliveryReceipt
  | 6 => some .unidentifiedSender
  | 8 => some .plaintextContent
  | _ => none

def EnvelopeType.toNat : EnvelopeType → Nat
  | .unknown => 0
  | .doubleRatchet => 1
  | .prekeyMessage => 3
  | .serverDeliveryReceipt => 5
  | .unidentifiedSender => 6
  | .plaintextContent => 8

structure Envelope where
  type : Option Nat := none
  sourceServiceId : Option String := none
  sourceServiceIdBinary : Option Bytes := none
  sourceDeviceId : Option Nat := none
  destinationServiceId : Option String := none
  destinationServiceIdBinary : Option Bytes := none
  clientTimestamp : Option Nat := none
  serverTimestamp : Option Nat := none
  content : Option Bytes := none
  serverGuid : Option String := none
  serverGuidBinary : Option Bytes := none
  reportSpamToken : Option Bytes := none
  deriving DecidableEq, Repr

/-- The generated accessor: an absent or unrecognized value reads as `UNKNOWN`. -/
def Envelope.envelopeType (envelope : Envelope) : EnvelopeType :=
  (envelope.type.bind EnvelopeType.ofNat?).getD .unknown

/-! ## Content -/

structure DataMessage where
  expireTimer : Option Nat
  rest : Bytes
  deriving DecidableEq, Repr

structure EditMessage where
  encoded : Bytes
  deriving DecidableEq, Repr

structure CallMessage where
  encoded : Bytes
  deriving DecidableEq, Repr

structure NullMessage where
  padding : Option Bytes
  deriving DecidableEq, Repr

structure ReceiptMessage where
  encoded : Bytes
  deriving DecidableEq, Repr

structure TypingMessage where
  encoded : Bytes
  deriving DecidableEq, Repr

structure StoryMessage where
  encoded : Bytes
  deriving DecidableEq, Repr

structure DecryptionErrorMessage where
  encoded : Bytes
  deriving DecidableEq, Repr

structure UnidentifiedDeliveryStatus where
  destinationServiceId : Option String
  destinationServiceIdBinary : Option Bytes
  unidentified : Option Bool
  destinationPniIdentityKey : Option Bytes
  deriving DecidableEq, Repr

/-- `sync_message::Sent`; the fields the service never sets are left out. -/
structure Sent where
  destinationServiceId : Option String
  destinationServiceIdBinary : Option Bytes
  destinationE164 : Option String
  timestamp : Option Nat
  message : Option DataMessage
  editMessage : Option EditMessage
  expirationStartTimestamp : Option Nat
  unidentifiedStatus : List UnidentifiedDeliveryStatus
  deriving DecidableEq, Repr

structure PniChangeNumber where
  identityKeyPair : Option Bytes
  signedPreKey : Option Bytes
  lastResortKyberPreKey : Option Bytes
  registrationId : Option Nat
  newE164 : Option String
  deriving DecidableEq, Repr

structure MessageRequestResponse where
  threadAci : Option String
  threadAciBinary : Option Bytes
  groupId : Option Bytes
  type : Option Nat
  deriving DecidableEq, Repr

inductive SyncContent where
  | sent (message : Sent)
  | pniChangeNumber (change : PniChangeNumber)
  | messageRequestResponse (response : MessageRequestResponse)
  | other (encoded : Bytes)
  deriving DecidableEq, Repr

structure SyncMessage where
  content : Option SyncContent
  padding : Option Bytes
  deriving DecidableEq, Repr

structure PniSignatureMessage where
  pni : Option Bytes
  signature : Option Bytes
  deriving DecidableEq, Repr

namespace Proto

/-- `proto::content::Content`, the `oneof` of a content. -/
inductive Body where
  | dataMessage (message : DataMessage)
  | syncMessage (message : SyncMessage)
  | callMessage (message : CallMessage)
  | nullMessage (message : NullMessage)
  | receiptMessage (message : ReceiptMessage)
  | typingMessage (message : TypingMessage)
  | decryptionErrorMessage (encoded : Bytes)
  | storyMessage (message : StoryMessage)
  | editMessage (message : EditMessage)
  deriving DecidableEq, Repr

/-- `proto::Content`. -/
structure Content where
  content : Option Body
  senderKeyDistributionMessage : Option Bytes
  pniSignatureMessage : Option PniSignatureMessage
  deriving DecidableEq, Repr

end Proto

/-! ## Websocket frames -/

structure WebSocketRequestMessage where
  verb : Option String := none
  path : Option String := none
  body : Option Bytes := none
  headers : List String := []
  id : Option Nat := none
  deriving DecidableEq, Repr

structure WebSocketResponseMessage where
  id : Option Nat := none
  status : Option Nat := none
  message : Option String := none
  headers : List String := []
  body : Option Bytes := none
  deriving DecidableEq, Repr

/-! ## Message bodies as the application sees them -/

/-- `content::ContentBody`. -/
inductive ContentBody where
  | nullMessage (message : NullMessage)
  | dataMessage (message : DataMessage)
  | synchronizeMessage (message : SyncMessage)
  | callMessage (message : CallMessage)
  | receiptMessage (message : ReceiptMessage)
  | typingMessage (message : TypingMessage)
  | decryptionErrorMessage (message : DecryptionErrorMessage)
  | storyMessage (message : StoryMessage)
  | editMessage (message : EditMessage)
  deriving DecidableEq, Repr

structure Metadata where
  sender : ServiceId
  destination : ServiceId
  senderDevice : DeviceId
  /-- The sender's PNI, if a side-car proved it. -/
  pniVerified : Option Pni
  clientTimestamp : Int
  serverTimestamp : Int
  needsReceipt : Bool
  unidentifiedSender : Bool
  wasPlaintext : Bool
  serverGuid : Option Uuid
  reportSpamToken : Option Bytes
  deriving DecidableEq, Repr

structure Content where
  metadata : Metadata
  body : ContentBody
  deriving DecidableEq, Repr

/-! ## Outgoing messages -/

structure OutgoingPushMessage where
  type : Nat
  destinationDeviceId : DeviceId
  destinationRegistrationId : Nat
  content : String
  deriving DecidableEq, Repr

structure OutgoingPushMessages where
  destination : ServiceId
  timestamp : Nat
  messages : List OutgoingPushMessage
  online : Bool
  deriving DecidableEq, Repr

structure SendMessageResponse where
  needsSync : Bool
  deriving DecidableEq, Repr

structure SentMessage where
  recipient : ServiceId
  usedIdentityKey : IdentityKey
  unidentified : Bool
  needsSync : Bool
  deriving DecidableEq, Repr

/-- `cipher::OutgoingContent`: the body of an outgoing envelope. A plaintext one is the
    serialized `PlaintextContent`. -/
inductive OutgoingContent where
  | encrypted (content : Bytes)
  | plaintext (serialized : Bytes)
  deriving DecidableEq, Repr

/-! ## Sealed sender and pre-keys -/

/-- `SenderCertificate`; its accessors are fallible in libsignal. -/
structure SenderCertificate where
  senderUuid : Except SignalProtocolError String
  senderE164 : Except SignalProtocolError (Option String)
  senderDeviceId : Except SignalProtocolError DeviceId
  serialized : Bytes

/-- `UnidentifiedSenderMessageContent`: what is inside the outer sealed layer. -/
structure UnidentifiedSenderMessageContent where
  msgType : Except SignalProtocolError CiphertextMessageType
  sender : Except SignalProtocolError SenderCertificate
  contents : Except SignalProtocolError Bytes

structure UnidentifiedAccess where
  key : Bytes
  certificate : SenderCertificate

structure PreKeyResponseItem where
  deviceId : DeviceId
  registrationId : Nat
  keys : Bytes
  deriving DecidableEq, Repr

structure PreKeyResponse where
  identityKey : Bytes
  devices : List PreKeyResponseItem
  deriving DecidableEq, Repr

structure PreKeyBundle where
  registrationId : Nat
  deviceId : DeviceId
  keys : Bytes
  identity : IdentityKey
  deriving DecidableEq, Repr

end SignalService

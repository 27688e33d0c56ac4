import SignalService.Externals

/-! # Envelope fields and message bodies

`envelope.rs`, the parsers of `utils.rs` that prefer a binary field to its string
twin, and the conversions of `content.rs` between protobuf contents and bodies.
-/

namespace SignalService

open Effect

variable (X : Externals)

def parseServiceIdWithFallback (bytes : Option Bytes) (utf8 : Option String) :
    Option ServiceId :=
  match bytes.bind X.parseServiceIdBinary with
  | some id => some id
  | none => utf8.bind X.parseServiceIdString

def parseUuidWithFallback (binary : Option Bytes) (utf8 : Option String) : Option Uuid :=
  match binary.bind Uuid.ofBytes? with
  | some id => some id
  | none => utf8.bind X.parseUuid

namespace Envelope

def parseDestinationServiceId (envelope : Envelope) : Option ServiceId :=
  parseServiceIdWithFallback X envelope.destinationServiceIdBinary envelope.destinationServiceId

def parseSourceServiceId (envelope : Envelope) : Option ServiceId :=
  parseServiceIdWithFallback X envelope.sourceServiceIdBinary envelope.sourceServiceId

def parseServerGuid (envelope : Envelope) : Option Uuid :=
  parseUuidWithFallback X envelope.serverGuidBinary envelope.serverGuid

/-- `envelope.source_device_id().try_into()`: an absent device reads as 0, which is not
    a device. -/
def senderDevice (envelope : Envelope) : Option DeviceId :=
  DeviceId.ofNat? (envelope.sourceDeviceId.getD 0)

end Envelope

/-- The cast of an unsigned 64-bit timestamp to a signed one. -/
def asI64 (n : Nat) : Int := (BitVec.ofNat 64 n).toInt

/-- `Content::from_proto`. -/
def Content.fromProto (p : Proto.Content) (metadata : Metadata) : Except ServiceError Content :=
  match p.content with
  | none => .error .unsupportedContent
  | some (.dataMessage m) => .ok ⟨metadata, .dataMessage m⟩
  | some (.syncMessage m) => .ok ⟨metadata, .synchronizeMessage m⟩
  | some (.callMessage m) => .ok ⟨metadata, .callMessage m⟩
  | some (.nullMessage m) => .ok ⟨metadata, .nullMessage m⟩
  | some (.receiptMessage m) => .ok ⟨metadata, .receiptMessage m⟩
  | some (.typingMessage m) => .ok ⟨metadata, .typingMessage m⟩
  | some (.decryptionErrorMessage encoded) =>
      match X.decodeDecryptionErrorMessage encoded with
      | some m => .ok ⟨metadata, .decryptionErrorMessage m⟩
      | none => .error .protobufDecodeError
  | some (.storyMessage m) => .ok ⟨metadata, .storyMessage m⟩
  | some (.editMessage m) => .ok ⟨metadata, .editMessage m⟩

/-- `ContentBody::into_proto`. -/
def ContentBody.intoProto (body : ContentBody) : Proto.Content where
  content := some <| match body with
    | .nullMessage m => .nullMessage m
    | .dataMessage m => .dataMessage m
    | .synchronizeMessage m => .syncMessage m
    | .callMessage m => .callMessage m
    | .receiptMessage m => .receiptMessage m
    | .typingMessage m => .typingMessage m
    | .decryptionErrorMessage m => .decryptionErrorMessage (X.encodeDecryptionErrorMessage m)
    | .storyMessage m => .storyMessage m
    | .editMessage m => .editMessage m
  senderKeyDistributionMessage := none
  pniSignatureMessage := none

namespace Proto.Body

def IsSyncMessage : Body → Prop
  | .syncMessage _ => True
  | _ => False

def IsDecryptionErrorMessage : Body → Prop
  | .decryptionErrorMessage _ => True
  | _ => False

instance : DecidablePred IsSyncMessage := fun body => by
  cases body <;> unfold IsSyncMessage <;> infer_instance

instance : DecidablePred IsDecryptionErrorMessage := fun body => by
  cases body <;> unfold IsDecryptionErrorMessage <;> infer_instance

end Proto.Body

def ContentBody.IsDecryptionErrorMessage : ContentBody → Prop
  | .decryptionErrorMessage _ => True
  | _ => False

/-- The kind of a body survives the conversion. -/
theorem Content.fromProto_isDecryptionErrorMessage {p : Proto.Content} {metadata : Metadata}
    {content : Content} {body : Proto.Body} (present : p.content = some body)
    (converted : Content.fromProto X p metadata = .ok content) :
    content.body.IsDecryptionErrorMessage ↔ body.IsDecryptionErrorMessage := by
  cases body with
  | decryptionErrorMessage encoded =>
      simp only [Content.fromProto, present] at converted
      split at converted
      · cases converted
        exact Iff.rfl
      · cases converted
  | dataMessage | syncMessage | callMessage | nullMessage | receiptMessage | typingMessage
  | storyMessage | editMessage =>
      simp only [Content.fromProto, present] at converted
      cases converted
      exact Iff.rfl

/-- Only a decryption error message can fail to convert once a body is there. -/
theorem Content.fromProto_of_not_decryptionError {p : Proto.Content} (metadata : Metadata)
    {body : Proto.Body} (present : p.content = some body)
    (other : ¬ body.IsDecryptionErrorMessage) :
    ∃ content, Content.fromProto X p metadata = .ok content := by
  cases body with
  | decryptionErrorMessage encoded => exact absurd trivial other
  | dataMessage | syncMessage | callMessage | nullMessage | receiptMessage | typingMessage
  | storyMessage | editMessage =>
      simp only [Content.fromProto, present]
      exact ⟨_, rfl⟩

end SignalService

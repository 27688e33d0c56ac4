import SignalService.Sender.Provenance
import SignalService.Cipher.Agreement

/-! # What is sent is what is opened

A message of any batch of a send, brought to the device it is for, opens to the body that was sent,
whichever attempt it was made in. What is assumed of libsignal is that it decrypts what it has
encrypted.
-/

namespace SignalService

open Effect Prog

/-! ## One message -/

/-- What an encryption was given, and what a message takes from it. -/
def encryptedAs (X : Externals) : CallEvent → Option (Bytes × String)
  | ⟨.messageEncrypt plaintext _ _, .ok message⟩ => some (plaintext, X.base64 message.serialized)
  | ⟨.sealedSenderEncrypt _ _ plaintext, .ok message⟩ => some (plaintext, X.base64 message)
  | _ => none

/-- The envelope brings the message to an account, the session has one version at both ends, and
    what was encrypted to this message is what is decrypted. -/
structure Brings (X : Externals) (es : List CallEvent) {τ : Type} (h : Env τ) (t : τ)
    (receiver : ServiceCipher) (message : OutgoingPushMessage) (address : ProtocolAddress)
    (certificate : Option SenderCertificate) (envelope : Envelope) (sender recipient : ServiceId)
    (version : Nat) : Prop where
  typed : envelope.type = some message.type
  session : ∀ record, ⟨.loadSession address, .ok (some record)⟩ ∈ es →
    X.sessionVersion record = .ok version
  isLocal : X.parseServiceIdString receiver.localAddress.name = some recipient
  timestamps : TimestampsParse X envelope
  arrives : ∃ ciphertext source, envelope.content = some ciphertext ∧
    X.base64 ciphertext = message.content ∧ checkHeader X recipient envelope = .ok source ∧
    ∀ event ∈ es, ∀ padded, encryptedAs X event = some (padded, message.content) →
      Arrives X h t receiver envelope ciphertext source sender version padded certificate

section Opening

variable {X : Externals} {τ : Type} {h : Env τ} {t : τ} {receiver : ServiceCipher}
  {envelope : Envelope} {sender recipient : ServiceId} {version : Nat} {body : ContentBody}
  {sideCar : Option PniSignatureMessage} {certificate : Option SenderCertificate}

/-- What was padded for the session is stripped of just that, unless the padding of a sealed message
    was none at all. -/
theorem Arrives.agrees {ciphertext padded : Bytes} {source : Option ServiceId} {type : Nat}
    (keeps : h.KeepsOnReads) (reads : X.ReadsBack body sideCar)
    (travels : TravelsAs certificate type) (typed : envelope.type = some type)
    (isLocal : X.parseServiceIdString receiver.localAddress.name = some recipient)
    (timestamps : TimestampsParse X envelope) (content : envelope.content = some ciphertext)
    (header : checkHeader X recipient envelope = .ok source)
    (arrives : Arrives X h t receiver envelope ciphertext source sender version padded certificate)
    (added : addPadding version (X.encodeContent (body.outgoing X sideCar)) = .ok padded)
    (marked : certificate.isSome → version ≠ 2) :
    Agrees body sender recipient ((openEnvelope X receiver envelope).run h t).exit := by
  have stripped : (if certificate.isSome then stripPadding padded
      else stripPaddingVersion version padded) =
        .ok (X.encodeContent (body.outgoing X sideCar)) := by
    split
    case isTrue sealedSender => exact stripPadding_addPadding added (marked sealedSender)
    case isFalse => exact stripPaddingVersion_addPadding added
  obtain ⟨device, unidentified, needsReceipt, parts⟩ := arrives.decryptParts keeps travels typed
  rw [stripped] at parts
  exact openEnvelope_agrees keeps reads isLocal content header timestamps parts rfl rfl
    (arrives.isAci header)

end Opening

namespace MessageSender

variable {X : Externals} {sender : MessageSender} {recipient : ServiceId}
  {access : Option UnidentifiedAccess} {body : ContentBody} {timestamp : Nat} {online : Bool}
  {es : List CallEvent}

theorem Made.travels {certificate : Option SenderCertificate} {content : Bytes}
    {message : OutgoingPushMessage}
    (made : Made X sender recipient es certificate (.encrypted content) message) :
    TravelsAs certificate message.type := by
  cases made with
  | unidentified => exact (rfl : EnvelopeType.ofNat? 6 = some .unidentifiedSender)
  | @identified _ _ _ _ _ _ _ type _ _ _ _ _ outgoing =>
      exact ⟨type, _, EnvelopeType.ofNat?_toNat type, outgoingType_ret outgoing⟩

theorem Made.opens {sideCar : Option PniSignatureMessage} {certificate : Option SenderCertificate}
    {message : OutgoingPushMessage}
    (made : Made X sender recipient es certificate
      (.encrypted (X.encodeContent (body.outgoing X sideCar))) message)
    {τ : Type} {h : Env τ} {t : τ} {receiver : ServiceCipher} {envelope : Envelope}
    {source destination : ServiceId} {version : Nat} (keeps : h.KeepsOnReads)
    (reads : X.ReadsBack body sideCar)
    (brings : Brings X es h t receiver message
      (X.protocolAddress recipient message.destinationDeviceId) certificate envelope source
        destination version)
    (marked : certificate.isSome → version ≠ 2) :
    Agrees body source destination ((openEnvelope X receiver envelope).run h t).exit := by
  obtain ⟨ciphertext, named, content, -, header, arrives⟩ := brings.arrives
  have travels := made.travels
  cases made with
  | @unidentified certificate _ padded ciphertext' device record id version' loaded registered
      session added encrypted =>
      have same := brings.session record loaded
      rw [session] at same
      cases same
      exact (arrives _ encrypted padded rfl).agrees keeps reads travels brings.typed brings.isLocal
        brings.timestamps content header added marked
  | @identified _ padded ciphertext' device record id version' type loaded registered session
      added encrypted outgoing =>
      have same := brings.session record loaded
      rw [session] at same
      cases same
      exact (arrives _ encrypted padded rfl).agrees keeps reads travels brings.typed brings.isLocal
        brings.timestamps content header added marked

theorem outgoing_none : body.outgoing X none = body.intoProto X := by
  cases body <;> rfl

/-- What is sent is the encoded content, with a side car only where our phone number is proved. -/
theorem contentBytes_outgoing {includePniSignature : Bool} {content : Bytes}
    (trace : Trace (sender.contentBytes X body includePniSignature) es (.ret content)) :
    ∃ sideCar, (includePniSignature = false → sideCar = none) ∧
      content = X.encodeContent (body.outgoing X sideCar) := by
  cases includePniSignature with
  | false =>
      obtain ⟨-, ended⟩ := trace_done.mp trace
      cases ended
      exact ⟨none, fun _ => rfl, by rw [outgoing_none]⟩
  | true =>
      rcases trace_bind.mp trace with ⟨_, -, ended⟩ | ⟨_, -, ended⟩ | ⟨signature, _, _, -, -, last⟩
      · cases ended
      · cases ended
      obtain ⟨-, ended⟩ := trace_done.mp last
      cases ended
      exact ⟨some signature, nofun, rfl⟩

/-- Whatever the server and the store answer, and in whichever attempt a batch is submitted: each
    message in it, brought to an account as libsignal delivers it, opens there to the body that
    was sent (a sync message, to our own account only). Sealed messages need a session of a version
    that pads. -/
theorem trySendMessage_opens {includePniSignature : Bool} {x : Exit MessageSenderError SentMessage}
    (trace : Trace (sender.trySendMessage X recipient access body timestamp includePniSignature
      online) es x)
    {before after : List CallEvent} {accessKey : Option Bytes} {batch : OutgoingPushMessages}
    {answer : Except ServiceError WebSocketResponseMessage}
    (split : es = before ++ ⟨.putMessages accessKey batch, answer⟩ :: after)
    {message : OutgoingPushMessage} (listed : message ∈ batch.messages) :
    batch.destination = recipient ∧ ∃ sideCar certificate,
      (includePniSignature = false → sideCar = none) ∧ certificate.isSome = accessKey.isSome ∧
      ∀ {τ : Type} (h : Env τ) (t : τ) (receiver : ServiceCipher) (envelope : Envelope)
        (source destination : ServiceId) (version : Nat), h.KeepsOnReads →
        X.ReadsBack body sideCar →
        Brings X before h t receiver message
          (X.protocolAddress recipient message.destinationDeviceId) certificate envelope source
            destination version →
        (accessKey.isSome → version ≠ 2) →
        Agrees body source destination ((openEnvelope X receiver envelope).run h t).exit := by
  have member : ⟨.putMessages accessKey batch, answer⟩ ∈ es := by
    rw [split]
    exact List.mem_append_right _ List.mem_cons_self
  rcases trace_bind.mp trace with
    ⟨_, failed, -⟩ | ⟨_, failed, -⟩ | ⟨content, es₁, es₂, rfl, encoded, sent⟩
  · exact absurd trivial (contentBytes_quiet.trace failed _ member)
  · exact absurd trivial (contentBytes_quiet.trace failed _ member)
  obtain ⟨sideCar, unproved, rfl⟩ := contentBytes_outgoing encoded
  have anew := (trySendContent_anew sent).after_quiet (contentBytes_quiet.trace encoded)
  obtain ⟨older, fresh, access', rfl, -, made⟩ := anew.split split
  have sealedWith : (access'.map (·.certificate)).isSome = accessKey.isSome := by
    rw [made.accessKey, Option.isSome_map, Option.isSome_map]
  refine ⟨made.destination, sideCar, access'.map (·.certificate), unproved, sealedWith, ?_⟩
  intro τ h t receiver envelope source destination version keeps reads brings marked
  have messageMade := (made.messages.made message listed).mono
    (List.subset_append_right older fresh)
  exact messageMade.opens keeps reads brings (sealedWith ▸ marked)

end MessageSender

namespace Sample

open Reference

/-- An empty data message, as it is padded. -/
def greeting : ContentBody := .dataMessage ⟨none, []⟩
def paddedGreeting : Bytes := 0x0A :: 0 :: 0x80 :: List.replicate 157 0

/-- The account it is for, on its primary device. -/
def remoteAddress : ProtocolAddress := reference.protocolAddress (.aci remoteAci) defaultDeviceId
def remoteCipher : ServiceCipher := ⟨[], remoteAddress⟩

def greetingEnvelope : Envelope where
  type := some 1
  sourceServiceId := some "9d0652a3-dcc3-4d11-975f-74d61598733f"
  sourceDeviceId := some 1
  destinationServiceId := some "6838237d-e02b-4191-8587-b3c5eb9b8b4e"
  clientTimestamp := some 1700000000000
  serverTimestamp := some 1700000000001
  content := some paddedGreeting

def greetingBatch : OutgoingPushMessages :=
  ⟨.aci remoteAci, 7, [⟨1, defaultDeviceId, 7, reference.base64 paddedGreeting⟩], false⟩

/-- What is called before the batch is submitted. -/
def beforeGreeting : List CallEvent := [
  ⟨.lock (.aci remoteAci), ()⟩,
  ⟨.getSubDeviceSessions (.aci remoteAci), .ok []⟩,
  ⟨.iterate [defaultDeviceId], ⟨[defaultDeviceId], .refl _⟩⟩,
  ⟨.loadSession remoteAddress, .ok (some ⟨[7]⟩)⟩,
  ⟨.loadSession remoteAddress, .ok (some ⟨[7]⟩)⟩,
  ⟨.hasUsableSenderChain ⟨[7]⟩, .ok true⟩,
  ⟨.messageEncrypt paddedGreeting remoteAddress primary.cipher.localAddress,
    .ok ⟨.whisper, paddedGreeting⟩⟩,
  ⟨.getIdentity remoteAddress, .ok (some ⟨5 :: List.replicate 32 1⟩)⟩]

theorem greeting_brought :
    Brings reference beforeGreeting transparent () remoteCipher
      ⟨1, defaultDeviceId, 7, reference.base64 paddedGreeting⟩ remoteAddress none greetingEnvelope
      (.aci localAci) (.aci remoteAci) 3 where
  typed := rfl
  session record loaded := rfl
  isLocal := by decide +kernel
  timestamps := ⟨rfl, rfl⟩
  arrives := by
    refine ⟨paddedGreeting, some (.aci localAci), rfl, rfl, by rfl, ?_⟩
    intro event logged padded encrypted
    have same : padded = paddedGreeting := by
      fin_cases logged <;> cases encrypted
      rfl
    subst same
    exact .identified rfl rfl rfl rfl rfl rfl rfl

end Sample

open Sample Reference in
theorem greeting_opens :
    ((primary.trySendMessage reference (.aci remoteAci) none greeting 7 false false).run scripted
        [accepted]).log =
      beforeGreeting ++ [⟨.putMessages none greetingBatch, accepted⟩,
        ⟨.unlock (.aci remoteAci), ()⟩] ∧
    Agrees greeting (.aci localAci) (.aci remoteAci)
      ((openEnvelope reference remoteCipher greetingEnvelope).run transparent ()).exit := by
  have split : ((primary.trySendMessage reference (.aci remoteAci) none greeting 7 false
      false).run scripted [accepted]).log = beforeGreeting ++
        [⟨.putMessages none greetingBatch, accepted⟩, ⟨.unlock (.aci remoteAci), ()⟩] := by rfl
  refine ⟨split, ?_⟩
  obtain ⟨-, sideCar, certificate, unproved, unsealed, opens⟩ := MessageSender.trySendMessage_opens
    (run_trace scripted (primary.trySendMessage reference (.aci remoteAci) none greeting 7 false
      false) [accepted]) split List.mem_cons_self
  obtain rfl := unproved rfl
  obtain rfl : certificate = none := by simpa using unsealed
  exact opens transparent () remoteCipher greetingEnvelope (.aci localAci) (.aci remoteAci) 3
    transparent_keeps (sealedSending_readsBack 3) greeting_brought (by simp)

end SignalService

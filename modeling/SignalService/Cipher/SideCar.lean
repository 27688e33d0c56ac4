import SignalService.Cipher.Plaintext
import SignalService.Effect.Mirror

/-! # The PNI signature side-car

A content can prove that its sender also has a phone number's identity, by a signature that comes
with it. When the proof counts, and that it counts for nothing else: a content is received in the
same way with a side-car, whatever is in it, and without.
-/

namespace SignalService

open Effect Prog

variable (X : Externals)

/-! ## What is verified -/

/-- The store had this identity when it was asked. -/
def Stored (es : List CallEvent) (id : ServiceId) (device : DeviceId) (identity : IdentityKey) :
    Prop :=
  ⟨.getIdentity (X.protocolAddress id device), .ok (some identity)⟩ ∈ es

/-- The store was asked and had no identity, or could not tell. -/
def Unreadable (es : List CallEvent) (id : ServiceId) (device : DeviceId) : Prop :=
  ∃ answer, ⟨.getIdentity (X.protocolAddress id device), answer⟩ ∈ es ∧
    ∀ identity, answer ≠ .ok (some identity)

/-- The identity of a PNI, by the rule for where it may be stored. -/
def StoredPni (es : List CallEvent) (pni : Pni) (device : DeviceId) (identity : IdentityKey) :
    Prop :=
  Stored X es (.pni pni) device identity ∨
    device ≠ defaultDeviceId ∧ Unreadable X es (.pni pni) device ∧
      Stored X es (.pni pni) defaultDeviceId identity

/-- The sender is an ACI, and its identity is signed for by that of the PNI in the side-car. -/
def Verifies (es : List CallEvent) (sender : ServiceId) (device : DeviceId)
    (sideCar : PniSignatureMessage) (pni : Pni) : Prop :=
  ∃ senderAci signature aciIdentity pniIdentity, sender = .aci senderAci ∧
    sideCar.pni.bind (parsePniBinary X) = some pni ∧ sideCar.signature = some signature ∧
    Stored X es (.aci senderAci) device aciIdentity ∧ StoredPni X es pni device pniIdentity ∧
    X.verifyAlternateIdentity pniIdentity aciIdentity signature = .ok true

/-- The envelope's content was decrypted to this payload. -/
def Decrypted (cipher : ServiceCipher) (envelope : Envelope) (es : List CallEvent)
    (parts : DecryptedPayload) : Prop :=
  ∃ localId ciphertext source es', X.parseServiceIdString cipher.localAddress.name = some localId ∧
    envelope.content = some ciphertext ∧ checkHeader X localId envelope = .ok source ∧
    es' <:+: es ∧ Trace (decryptParts X cipher envelope ciphertext source) es' (.ret parts)

/-- The content is the message in the envelope, and the side-car of that message verifies
    this PNI. -/
def VerifiedBySideCar (cipher : ServiceCipher) (envelope : Envelope) (es : List CallEvent)
    (content : Content) (pni : Pni) : Prop :=
  ∃ parts message sideCar, Decrypted X cipher envelope es parts ∧
    X.decodeContent parts.data = some message ∧
    Content.fromProto X message content.metadata = .ok content ∧
    content.metadata.sender = parts.sender ∧ content.metadata.senderDevice = parts.senderDevice ∧
    message.pniSignatureMessage = some sideCar ∧
    Verifies X es parts.sender parts.senderDevice sideCar pni

variable {X} {A : (c : Call) → Answer c → Prop}

theorem StoredPni.mono {es es' : List CallEvent} {pni : Pni} {device : DeviceId}
    {identity : IdentityKey} (sub : ∀ e ∈ es, e ∈ es')
    (stored : StoredPni X es pni device identity) : StoredPni X es' pni device identity := by
  obtain own | ⟨other, ⟨answer, asked, unreadable⟩, primary⟩ := stored
  · exact .inl (sub _ own)
  · exact .inr ⟨other, ⟨answer, sub _ asked, unreadable⟩, sub _ primary⟩

theorem Verifies.mono {es es' : List CallEvent} {sender : ServiceId} {device : DeviceId}
    {sideCar : PniSignatureMessage} {pni : Pni} (sub : ∀ e ∈ es, e ∈ es')
    (verifies : Verifies X es sender device sideCar pni) :
    Verifies X es' sender device sideCar pni := by
  obtain ⟨senderAci, signature, aciIdentity, pniIdentity, isAci, parsed, signed, aci, stored,
    valid⟩ := verifies
  exact ⟨senderAci, signature, aciIdentity, pniIdentity, isAci, parsed, signed, sub _ aci,
    stored.mono sub, valid⟩

theorem readableIdentity_post {ε : Type} {address : ProtocolAddress} :
    Runs A (Post (fun es identity => ∃ answer, es = [⟨.getIdentity address, answer⟩] ∧
        ∀ key, identity = some key ↔ answer = .ok (some key)) True)
      (readableIdentity address : Async ε (Option IdentityKey)) := by
  apply runs_call
  intro answer _
  refine runs_done ⟨answer, rfl, fun key => ?_⟩
  cases answer <;> simp

theorem pniIdentity_post {ε : Type} {pni : Pni} {device : DeviceId} :
    Runs A (Post (fun es identity => ∀ key, identity = some key → StoredPni X es pni device key)
        True)
      (pniIdentity X pni device : Async ε (Option IdentityKey)) := by
  refine Runs.bind_post readableIdentity_post ?_
  rintro _ found ⟨answer, rfl, reads⟩
  cases found with
  | some identity =>
      apply runs_ret_post
      rintro _ ⟨⟩
      rw [(reads identity).mp rfl]
      exact .inl List.mem_cons_self
  | none =>
      have unreadable : ∀ key, answer ≠ .ok (some key) := fun key found =>
        nomatch (reads key).mpr found
      dsimp only
      split
      · exact runs_ret_post nofun
      · rename_i other
        refine readableIdentity_post.mono_post ?_ id
        rintro _ found ⟨answer', rfl, reads'⟩ key rfl
        rw [(reads' key).mp rfl]
        exact .inr ⟨other, ⟨answer, List.mem_cons_self, unreadable⟩,
          List.mem_cons_of_mem _ List.mem_cons_self⟩

theorem verifyPniSignature_post {ε : Type} {sender : ServiceId} {device : DeviceId}
    {sideCar : PniSignatureMessage} :
    Runs A (Post (fun es verified => ∀ pni, verified = some pni →
        Verifies X es sender device sideCar pni) True)
      (verifyPniSignature X sender device sideCar : Async ε (Option Pni)) := by
  unfold verifyPniSignature
  split
  case h_2 => exact runs_ret_post nofun
  case h_1 senderAci pni signature isAci parsed signed =>
    refine Runs.bind_post readableIdentity_post ?_
    rintro _ aci ⟨answer, rfl, reads⟩
    cases aci with
    | none => exact runs_ret_post nofun
    | some aciIdentity =>
        rw [(reads aciIdentity).mp rfl]
        refine Runs.bind_post pniIdentity_post ?_
        intro es identity stored
        cases identity with
        | none => exact runs_ret_post nofun
        | some pniIdentity =>
            dsimp only
            split
            case h_2 => exact runs_ret_post nofun
            case h_1 valid =>
              apply runs_ret_post
              rintro _ ⟨⟩
              have sender_eq : sender = .aci senderAci := by
                cases sender with
                | aci aci =>
                    cases isAci
                    rfl
                | pni pni => cases isAci
              refine ⟨senderAci, signature, aciIdentity, pniIdentity, sender_eq, parsed, signed,
                List.mem_cons_self, ?_, valid⟩
              exact (stored _ rfl).mono fun e member => by simp [member]

/-- The plaintext is what is in a payload, and its side-car verifies what it says is verified. -/
structure PlaintextOf (X : Externals) (parts : DecryptedPayload) (es : List CallEvent)
    (plaintext : Plaintext) : Prop where
  decoded : X.decodeContent parts.data = some plaintext.message
  sender : plaintext.metadata.sender = parts.sender
  senderDevice : plaintext.metadata.senderDevice = parts.senderDevice
  verified : ∀ pni, plaintext.metadata.pniVerified = some pni →
    ∃ sideCar, plaintext.message.pniSignatureMessage = some sideCar ∧
      Verifies X es parts.sender parts.senderDevice sideCar pni

theorem verifySideCar_post {ε : Type} {parts : DecryptedPayload} {message : Proto.Content} :
    Runs A (Post (fun es verified => ∀ pni, verified = some pni →
        ∃ sideCar, message.pniSignatureMessage = some sideCar ∧
          Verifies X es parts.sender parts.senderDevice sideCar pni) True)
      (verifySideCar X parts message : Async ε (Option Pni)) := by
  unfold verifySideCar
  cases message.pniSignatureMessage with
  | none => exact runs_ret_post nofun
  | some sideCar =>
      refine verifyPniSignature_post.mono_post ?_ id
      intro es verified verifies pni isVerified
      exact ⟨sideCar, rfl, verifies pni isVerified⟩

theorem finishDecrypt_post {localId : ServiceId} {envelope : Envelope} {parts : DecryptedPayload} :
    Runs A (Post (PlaintextOf X parts) True) (finishDecrypt X localId envelope parts) := by
  unfold finishDecrypt
  cases decoded : X.decodeContent parts.data with
  | none => exact runs_done trivial
  | some message =>
      simp only [Prog.ofOption, Exit.ofOption_some, bind_eq, ret_bind]
      refine Runs.bind_post verifySideCar_post fun es verified verifies => ?_
      refine Runs.bind_post runs_post_true fun _ clientTimestamp _ => ?_
      refine Runs.bind_post runs_post_true fun _ serverTimestamp _ => ?_
      refine runs_ret_post ⟨decoded, rfl, rfl, fun pni isVerified => ?_⟩
      obtain ⟨sideCar, present, verifies⟩ := verifies pni isVerified
      exact ⟨sideCar, present, verifies.mono fun _ member => List.mem_append_left _ member⟩

theorem decrypt_post {cipher : ServiceCipher} {envelope : Envelope} :
    Runs A (Post (fun es plaintext => ∃ parts, Decrypted X cipher envelope es parts ∧
        PlaintextOf X parts es plaintext) True)
      (decrypt X cipher envelope) := by
  unfold decrypt localService
  cases isLocal : X.parseServiceIdString cipher.localAddress.name with
  | none => exact runs_done trivial
  | some localId =>
      simp only [Prog.ofOption, Exit.ofOption_some, bind_eq, ret_bind]
      cases content : envelope.content with
      | none => exact runs_done trivial
      | some ciphertext =>
          cases header : checkHeader X localId envelope with
          | error e => exact runs_done trivial
          | ok source =>
              simp only [Prog.ofExcept, Exit.ofExcept_ok, ret_bind]
              refine Runs.bind_post runs_traced fun es parts opened => ?_
              refine finishDecrypt_post.mono_post (fun es' plaintext made => ?_) id
              refine ⟨parts, ⟨localId, ciphertext, source, es, isLocal, content, header, ?_, opened⟩,
                made.decoded, made.sender, made.senderDevice, fun pni isVerified => ?_⟩
              · exact (List.prefix_append es es').isInfix
              · obtain ⟨sideCar, present, verifies⟩ := made.verified pni isVerified
                exact ⟨sideCar, present,
                  verifies.mono fun _ member => List.mem_append_right _ member⟩

theorem admitContent_eq_ok {localId : ServiceId} {plaintext : Plaintext} {content : Content}
    (admitted : admitContent X localId plaintext = .ok (some content)) :
    Content.fromProto X plaintext.message plaintext.metadata = .ok content := by
  unfold admitContent at admitted
  split at admitted
  · cases admitted
  · split at admitted
    · cases admitted
    · split at admitted
      · cases admitted
      · cases converted : Content.fromProto X plaintext.message plaintext.metadata with
        | error e =>
            rw [converted] at admitted
            cases admitted
        | ok content =>
            rw [converted] at admitted
            cases admitted
            rfl

theorem fromProto_metadata {message : Proto.Content} {metadata : Metadata} {content : Content}
    (converted : Content.fromProto X message metadata = .ok content) :
    content.metadata = metadata := by
  unfold Content.fromProto at converted
  split at converted
  case h_1 => cases converted
  case h_8 =>
    split at converted
    · cases converted
      rfl
    · cases converted
  all_goals
    cases converted
    rfl

/-- Only a side-car whose signature holds verifies a PNI. -/
theorem openEnvelope_verified {cipher : ServiceCipher} {envelope : Envelope} :
    Runs A (Post (fun es received => ∀ content pni, received = some content →
        content.metadata.pniVerified = some pni →
          VerifiedBySideCar X cipher envelope es content pni) True)
      (openEnvelope X cipher envelope) := by
  refine Runs.bind_post runs_post_true fun es localId _ => ?_
  by_cases present : envelope.content.isSome
  · rw [if_pos present]
    refine Runs.bind_post decrypt_post fun es' plaintext opened => ?_
    refine Runs.bind_post runs_post_true fun es'' _ _ => ?_
    refine runs_ofExcept_post.mono_post (fun es₃ received admitted => ?_) id
    rintro content pni rfl isVerified
    have converted := admitContent_eq_ok admitted
    have same := fromProto_metadata converted
    obtain ⟨parts, ⟨localId', ciphertext, source, esParts, isLocal, sent, header, part, ran⟩,
      made⟩ := opened
    rw [same] at isVerified
    obtain ⟨sideCar, carried, verifies⟩ := made.verified pni isVerified
    refine ⟨parts, plaintext.message, sideCar, ?_, made.decoded, ?_, ?_, ?_, carried, ?_⟩
    · refine ⟨localId', ciphertext, source, esParts, isLocal, sent, header, part.trans ?_, ran⟩
      exact ⟨es, es'' ++ es₃, by simp⟩
    · rwa [same]
    · rw [same, made.sender]
    · rw [same, made.senderDevice]
    · exact verifies.mono fun e member => by simp [member]
  · rw [if_neg present]
    apply runs_ret_post
    intro content pni received
    cases received

/-! ## Without the side-car -/

def Proto.Content.withoutSideCar (message : Proto.Content) : Proto.Content :=
  { message with pniSignatureMessage := none }

/-- The same messages arrive, without their side-cars. -/
def Externals.withoutSideCar (X : Externals) : Externals :=
  { X with decodeContent := fun data => (X.decodeContent data).map Proto.Content.withoutSideCar }

def Metadata.unverified (metadata : Metadata) : Metadata := { metadata with pniVerified := none }

def Content.unverified (content : Content) : Content :=
  { content with metadata := content.metadata.unverified }

def Plaintext.withoutSideCar (plaintext : Plaintext) : Plaintext :=
  ⟨plaintext.metadata.unverified, plaintext.message.withoutSideCar⟩

def Call.asksIdentity : Call → Bool
  | .getIdentity _ => true
  | _ => false

/-- No identity is asked for. -/
abbrev Incurious {ε α : Type} (p : Async ε α) : Prop := Calls (Call.asksIdentity · = false) p

theorem Incurious.withLock {ε α : Type} {peer : ServiceId} {body : Async ε α}
    (incurious : Incurious body) : Incurious (Async.withLock peer body) :=
  ⟨rfl, fun _ _ => incurious.onExit rfl⟩

theorem sealedSenderDecryptMessage_incurious {msgType : CiphertextMessageType} {contents : Bytes}
    {remote loc : ProtocolAddress} :
    Incurious (sealedSenderDecryptMessage X msgType contents remote loc) := by
  cases msgType with
  | whisper | preKey => exact .bind trivial fun _ => ⟨rfl, fun _ _ => trivial⟩
  | senderKey => exact ⟨rfl, fun _ _ => trivial⟩
  | plaintext => trivial

theorem decryptIdentified_incurious {msgType : CiphertextMessageType} {contents : Bytes}
    {loc : ProtocolAddress} {source : ServiceId} {device : DeviceId} :
    Incurious (decryptIdentified X
      (fun sender => sealedSenderDecryptMessage X msgType contents sender loc) source device) := by
  rw [decryptIdentified_eq]
  refine ⟨rfl, fun _ _ => CallsWhen.onExit rfl ⟨rfl, fun found _ => ?_⟩⟩
  cases found with
  | error e => trivial
  | ok session =>
      refine CallsWhen.bind (CallsWhen.mapErr _ sealedSenderDecryptMessage_incurious) ?_
      exact fun data => ⟨rfl, fun _ _ => trivial⟩

theorem sealedSenderDecrypt_incurious {ciphertext : Bytes} {trustRoots : List PublicKey}
    {timestamp : Nat} {localE164 : Option String} {loc : ProtocolAddress} :
    Incurious (sealedSenderDecrypt X ciphertext trustRoots timestamp localE164 loc) := by
  rw [sealedSenderDecrypt_eq]
  refine ⟨rfl, fun opened _ => ?_⟩
  cases opened with
  | error e => trivial
  | ok usmc =>
      cases address : sealedSenderAddress X trustRoots timestamp localE164 loc usmc with
      | throw e | panic m =>
          simp only [address]
          trivial
      | ret remote =>
          simp only [address]
          have validated : Incurious (sealedSenderDecryptWithValidatedUsmc X usmc remote loc) := by
            refine .bind trivial fun msgType => .bind trivial fun contents => ?_
            refine .bind sealedSenderDecryptMessage_incurious fun message => ?_
            refine .bind trivial fun certificate => .bind trivial fun senderUuid => ?_
            exact .bind trivial fun senderE164 => .bind trivial fun deviceId => trivial
          unfold guarded
          split
          · exact Incurious.withLock (.mapErr _ validated)
          · exact .mapErr _ validated

theorem decryptParts_incurious {cipher : ServiceCipher} {envelope : Envelope} {ciphertext : Bytes}
    {source : Option ServiceId} :
    Incurious (decryptParts X cipher envelope ciphertext source) := by
  cases type : envelope.envelopeType with
  | unknown | serverDeliveryReceipt =>
      rw [decryptParts, type]
      trivial
  | unidentifiedSender =>
      rw [decryptParts, type]
      dsimp only
      rw [decryptUnidentifiedSender_eq]
      exact .bind (.mapErr _ sealedSenderDecrypt_incurious) fun result => trivial
  | plaintextContent =>
      rw [decryptParts, type]
      refine .bind trivial fun id => .bind (.mapErr _ trivial) fun body => ?_
      exact .bind trivial fun data => .bind trivial fun device => trivial
  | prekeyMessage =>
      have inner : envelope.envelopeType.inner? = some .preKey := by rw [type]; rfl
      rw [decryptParts_identified X inner]
      exact .bind trivial fun id => .bind trivial fun device => decryptIdentified_incurious
  | doubleRatchet =>
      have inner : envelope.envelopeType.inner? = some .whisper := by rw [type]; rfl
      rw [decryptParts_identified X inner]
      exact .bind trivial fun id => .bind trivial fun device => decryptIdentified_incurious

theorem ingestSenderKey_incurious {plaintext : Plaintext} :
    Incurious (ingestSenderKey X plaintext) := by
  unfold ingestSenderKey
  split
  · trivial
  · refine .bind (.mapErr _ trivial) fun skdm => ?_
    refine .bind (.mapErr _ ⟨rfl, fun _ _ => trivial⟩) fun _ => ?_
    exact .bind (.mapErr _ trivial) fun _ => trivial

/-! ## The check never fails -/

theorem readableIdentity_answers {ε : Type} {address : ProtocolAddress} :
    ReturnsWhen A (fun _ => True) (readableIdentity address : Async ε _) :=
  runs_call fun _ _ => returnsWhen_ret trivial

theorem pniIdentity_answers {ε : Type} {pni : Pni} {device : DeviceId} :
    ReturnsWhen A (fun _ => True) (pniIdentity X pni device : Async ε _) := by
  refine readableIdentity_answers.bind fun found _ => ?_
  cases found with
  | some identity => exact returnsWhen_ret trivial
  | none =>
      dsimp only
      split
      · exact returnsWhen_ret trivial
      · exact readableIdentity_answers

theorem verifySideCar_answers {ε : Type} {parts : DecryptedPayload} {message : Proto.Content} :
    ReturnsWhen A (fun _ => True) (verifySideCar X parts message : Async ε _) := by
  unfold verifySideCar
  cases message.pniSignatureMessage with
  | none => exact returnsWhen_ret trivial
  | some sideCar =>
      dsimp only [verifyPniSignature]
      split
      · refine readableIdentity_answers.bind fun aci _ => ?_
        cases aci with
        | none => exact returnsWhen_ret trivial
        | some aciIdentity =>
            refine pniIdentity_answers.bind fun identity _ => ?_
            cases identity with
            | none => exact returnsWhen_ret trivial
            | some pniIdentity =>
                dsimp only
                split <;> exact returnsWhen_ret trivial
      · exact returnsWhen_ret trivial

theorem Call.IsGetIdentity.asks {c : Call} (asks : c.IsGetIdentity) : c.asksIdentity = true := by
  cases c with
  | getIdentity => rfl
  | _ => cases asks

/-! ## With and without -/

theorem finishDecrypt_mirrors {localId : ServiceId} {envelope : Envelope}
    {parts : DecryptedPayload} :
    Mirrors Call.asksIdentity Plaintext.withoutSideCar (finishDecrypt X localId envelope parts)
      (finishDecrypt X.withoutSideCar localId envelope parts) := by
  unfold finishDecrypt
  have drops : X.withoutSideCar.decodeContent parts.data =
      (X.decodeContent parts.data).map Proto.Content.withoutSideCar := rfl
  rw [drops]
  cases X.decodeContent parts.data with
  | none => exact mirrors_done _ _
  | some message =>
      have asks : Calls (Call.asksIdentity · = true)
          (verifySideCar X parts message : Async ServiceError _) :=
        (verifySideCar_asks X parts message).mono fun _ => Call.IsGetIdentity.asks
      have skipped : (verifySideCar X.withoutSideCar parts message.withoutSideCar :
          Async ServiceError _) = .done (.ret none) := rfl
      simp only [Option.map_some, Prog.ofOption, Exit.ofOption_some, bind_eq]
      rw [ret_bind, ret_bind, skipped]
      refine (Calls.mirrors_ret asks verifySideCar_answers none).bind fun verified => ?_
      refine (Calls.mirrors (calls_ofExcept _)).bind fun clientTimestamp => ?_
      refine (Calls.mirrors (calls_ofExcept _)).bind fun serverTimestamp => ?_
      exact mirrors_done _ _

theorem decrypt_mirrors {cipher : ServiceCipher} {envelope : Envelope} :
    Mirrors Call.asksIdentity Plaintext.withoutSideCar (decrypt X cipher envelope)
      (decrypt X.withoutSideCar cipher envelope) := by
  refine (Calls.mirrors (calls_ofOption _ _)).bind fun localId => ?_
  cases envelope.content with
  | none => exact mirrors_done _ _
  | some ciphertext =>
      refine (Calls.mirrors (calls_ofExcept _)).bind fun source => ?_
      exact (Calls.mirrors decryptParts_incurious).bind fun parts => finishDecrypt_mirrors

theorem fromProto_unverified (message : Proto.Content) (metadata : Metadata) :
    Content.fromProto X.withoutSideCar message.withoutSideCar metadata.unverified =
      (Content.fromProto X message metadata).map Content.unverified := by
  have body : message.withoutSideCar.content = message.content := rfl
  have reads : X.withoutSideCar.decodeDecryptionErrorMessage = X.decodeDecryptionErrorMessage := rfl
  unfold Content.fromProto
  rw [body, reads]
  split
  case h_8 => split <;> rfl
  all_goals rfl

theorem admitContent_unverified (localId : ServiceId) (plaintext : Plaintext) :
    admitContent X.withoutSideCar localId plaintext.withoutSideCar =
      (admitContent X localId plaintext).map (Option.map Content.unverified) := by
  have body : plaintext.withoutSideCar.message.content = plaintext.message.content := rfl
  have sender : plaintext.withoutSideCar.metadata.sender = plaintext.metadata.sender := rfl
  have flag : plaintext.withoutSideCar.metadata.wasPlaintext = plaintext.metadata.wasPlaintext :=
    rfl
  have converted : Content.fromProto X.withoutSideCar plaintext.withoutSideCar.message
      plaintext.withoutSideCar.metadata =
        (Content.fromProto X plaintext.message plaintext.metadata).map Content.unverified :=
    fromProto_unverified _ _
  unfold admitContent
  rw [body, sender, flag, converted]
  split
  · rfl
  · split
    · rfl
    · split
      · rfl
      · cases Content.fromProto X plaintext.message plaintext.metadata <;> rfl

theorem deliver_mirrors {localId : ServiceId} {plaintext : Plaintext} :
    Mirrors Call.asksIdentity (Option.map Content.unverified) (deliver X localId plaintext)
      (deliver X.withoutSideCar localId plaintext.withoutSideCar) := by
  refine (Calls.mirrors ingestSenderKey_incurious).bind fun _ => ?_
  rw [admitContent_unverified]
  cases admitContent X localId plaintext <;> exact mirrors_done _ _

theorem openEnvelope_mirrors {cipher : ServiceCipher} {envelope : Envelope} :
    Mirrors Call.asksIdentity (Option.map Content.unverified) (openEnvelope X cipher envelope)
      (openEnvelope X.withoutSideCar cipher envelope) := by
  refine (Calls.mirrors (calls_ofOption _ _)).bind fun localId => ?_
  by_cases present : envelope.content.isSome
  · rw [if_pos present, id_eq, if_pos present]
    exact decrypt_mirrors.bind fun plaintext => deliver_mirrors
  · rw [if_neg present, id_eq, if_neg present]
    exact mirrors_done _ _

/-- A PNI is verified only by the side-car of the message, under identities that are stored. And
    whatever the side-car is, all else is as it is without one: the same calls but for the
    identities, and the same result but for the PNI. -/
theorem openEnvelope_sideCar (X : Externals) (cipher : ServiceCipher) (envelope : Envelope)
    {es : List CallEvent} {x : Exit ServiceError (Option Content)}
    (trace : Trace (openEnvelope X cipher envelope) es x) :
    (∀ content pni, x = .ret (some content) → content.metadata.pniVerified = some pni →
      VerifiedBySideCar X cipher envelope es content pni) ∧
    Trace (openEnvelope X.withoutSideCar cipher envelope) (es.filter fun e => ! e.1.asksIdentity)
      (x.map (Option.map Content.unverified)) := by
  refine ⟨?_, openEnvelope_mirrors es x trace⟩
  rintro content pni rfl isVerified
  exact openEnvelope_verified (A := fun _ _ => True) es _ trace (fun _ _ => trivial) content pni rfl
    isVerified

/-! A data message with a side-car, from the second device of an account. Its PNI identity is known
from its primary device. -/

namespace Sample

def remotePni : Pni := ⟨⟨0x2a6fd4e1a1b34f6e9d55c0f3e7b80c12⟩⟩

def signedMessage : Proto.Content where
  content := some (.dataMessage ⟨none, []⟩)
  senderKeyDistributionMessage := none
  pniSignatureMessage := some ⟨some (Reference.serviceIdBinary (.pni remotePni)), some [0x5E]⟩

def aciIdentity : IdentityKey := ⟨[5, 1]⟩
def pniIdentityKey : IdentityKey := ⟨[5, 2]⟩

def signing : Externals :=
  { reference with
    decodeContent := fun data =>
      if data = Reference.encodeContent signedMessage then some signedMessage else none
    parseServiceIdBinary := fun bytes =>
      if bytes = Reference.serviceIdBinary (.pni remotePni) then some (.pni remotePni) else none
    verifyAlternateIdentity := fun signer signed signature =>
      .ok (decide (signer = pniIdentityKey ∧ signed = aciIdentity ∧ signature = [0x5E])) }

def signedEnv : Env Unit := fun c s =>
  (match c with
    | .sealedSenderDecryptToUsmc _ => .ok
        { sealedData with
          sender := .ok { remoteCertificate with senderDeviceId := .ok Reference.secondDevice }
          contents := .ok (0xC0 :: Reference.encodeContent signedMessage ++ [0x80]) }
    | .getIdentity address =>
        if address = signing.protocolAddress (.aci Reference.remoteAci) Reference.secondDevice then
          .ok (some aciIdentity)
        else if address = signing.protocolAddress (.pni remotePni) defaultDeviceId then
          .ok (some pniIdentityKey)
        else .ok none
    | c => c.fallback, s)

def signedRun : Ran Call Answer ServiceError (Option Content) Unit :=
  (openEnvelope signing localCipher sealedEnvelope).run signedEnv ()

end Sample

theorem signed_message_verified :
    ∃ content, Sample.signedRun.exit = .ret (some content) ∧
      content.metadata.pniVerified = some Sample.remotePni ∧
      VerifiedBySideCar Sample.signing Sample.localCipher Sample.sealedEnvelope Sample.signedRun.log
        content Sample.remotePni ∧
      Trace (openEnvelope Sample.signing.withoutSideCar Sample.localCipher Sample.sealedEnvelope)
        (Sample.signedRun.log.filter fun e => ! e.1.asksIdentity)
        (.ret (some content.unverified)) := by
  have received : ∃ content, Sample.signedRun.exit = .ret (some content) ∧
      content.metadata.pniVerified = some Sample.remotePni := ⟨_, rfl, rfl⟩
  obtain ⟨content, exit, verified⟩ := received
  have trace : Trace (openEnvelope Sample.signing Sample.localCipher Sample.sealedEnvelope)
      Sample.signedRun.log (.ret (some content)) := by
    rw [← exit]
    exact run_trace Sample.signedEnv _ ()
  obtain ⟨sound, unchanged⟩ := openEnvelope_sideCar _ _ _ trace
  exact ⟨content, exit, verified, sound content _ rfl verified, unchanged⟩

end SignalService

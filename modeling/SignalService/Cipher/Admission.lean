import SignalService.Cipher.Plaintext

/-! # What an opened envelope has shown

A content is only handed out for an envelope that is addressed to us and that somebody is
known to have sent. The facts come from four places: the checks on the header, the branch
for the envelope's type, the metadata that `decrypt` puts together, and the filter in
`open_envelope`.
-/

namespace SignalService

open Effect Prog

variable {X : Externals} {cipher : ServiceCipher} {envelope : Envelope} {localId : ServiceId}
  {source : Option ServiceId}

/-! ## The header -/

/-- An envelope that passes the checks is for us, and where it has a source, that is an
    account, unless it is a receipt of the server. -/
structure HeaderChecked (X : Externals) (localId : ServiceId) (envelope : Envelope)
    (source : Option ServiceId) : Prop where
  destination : envelope.parseDestinationServiceId X = some localId
  named : envelope.parseSourceServiceId X = source
  ofPni : localId.kind = .pni → source ≠ none
  fromAci : ∀ id, source = some id → envelope.envelopeType ≠ .serverDeliveryReceipt →
    id.kind = .aci

theorem checkHeader_checked (header : checkHeader X localId envelope = .ok source) :
    HeaderChecked X localId envelope source := by
  unfold checkHeader at header
  cases parsed : envelope.parseDestinationServiceId X with
  | none =>
      rw [parsed] at header
      cases header
  | some destination =>
      simp only [parsed] at header
      split at header
      · cases header
      · next same =>
          obtain rfl : destination = localId := not_not.mp same
          split at header
          · cases header
          · next named =>
              split at header
              · cases header
              · next account =>
                  cases header
                  refine ⟨parsed, rfl, fun pni missing => named ⟨pni, missing⟩, ?_⟩
                  intro id found type
                  cases kind : id.kind with
                  | aci => rfl
                  | pni => exact absurd ⟨by rw [found, Option.map_some, kind], type⟩ account

theorem ServiceId.eq_aci_of_kind {id : ServiceId} (kind : id.kind = .aci) : ∃ aci, id = .aci aci := by
  cases id with
  | aci aci => exact ⟨aci, rfl⟩
  | pni pni => cases kind

/-! ## The branches of the dispatch -/

/-- What the payload says about its sender and channel. -/
structure DecryptedPayload.Admissible (envelope : Envelope) (source : Option ServiceId)
    (parts : DecryptedPayload) : Prop where
  sender : ∃ aci, parts.sender = .aci aci
  unidentifiedSender :
    parts.unidentifiedSender = true ↔ envelope.envelopeType = .unidentifiedSender
  needsReceipt : parts.needsReceipt = true ↔
    envelope.envelopeType = .unidentifiedSender ∧ source = none

/-- The branches that are not sealed take their sender from the header. -/
theorem DecryptedPayload.Admissible.identified {parts : DecryptedPayload} {id : ServiceId}
    (checked : HeaderChecked X localId envelope (some id))
    (notReceipt : envelope.envelopeType ≠ .serverDeliveryReceipt)
    (notSealed : envelope.envelopeType ≠ .unidentifiedSender) (sender : parts.sender = id)
    (identified : parts.unidentifiedSender = false) (noReceipt : parts.needsReceipt = false) :
    parts.Admissible envelope (some id) where
  sender := sender ▸ ServiceId.eq_aci_of_kind (checked.fromAci id rfl notReceipt)
  unidentifiedSender := by simp [identified, notSealed]
  needsReceipt := by simp [noReceipt]

theorem decryptIdentified_returns
    {decryptMessage : ProtocolAddress → Async SignalProtocolError Bytes} {id : ServiceId}
    {device : DeviceId} :
    (decryptIdentified X decryptMessage id device).Returns fun parts =>
      parts.sender = id ∧ parts.unidentifiedSender = false ∧ parts.needsReceipt = false := by
  refine fun _ => Returns.onExit ?_
  refine .last fun sender => .last fun data => .last fun loaded => .last fun record =>
    .last fun version => .last fun data => ?_
  exact ⟨rfl, rfl, rfl⟩

theorem decryptPlaintextContent_returns {ciphertext : Bytes} {id : ServiceId} :
    (decryptPlaintextContent X envelope ciphertext id).Returns fun parts =>
      parts.sender = id ∧ parts.unidentifiedSender = false ∧ parts.needsReceipt = false := by
  refine .last fun body => .last fun data => .last fun device => ?_
  exact ⟨rfl, rfl, rfl⟩

theorem decryptUnidentifiedSender_returns {ciphertext : Bytes}
    (type : envelope.envelopeType = .unidentifiedSender) :
    (decryptUnidentifiedSender X cipher envelope ciphertext source).Returns
      (DecryptedPayload.Admissible envelope source) := by
  refine .last fun result => ?_
  cases X.parseServiceIdString result.senderUuid with
  | none => trivial
  | some sender =>
      cases sender with
      | pni pni => trivial
      | aci aci =>
          refine .last fun data => ?_
          exact ⟨⟨aci, rfl⟩, by simp [type], by simp [type]⟩

theorem decryptParts_returns {ciphertext : Bytes}
    (checked : HeaderChecked X localId envelope source) :
    (decryptParts X cipher envelope ciphertext source).Returns
      (DecryptedPayload.Admissible envelope source) := by
  unfold decryptParts
  cases type : envelope.envelopeType with
  | unidentifiedSender => exact decryptUnidentifiedSender_returns type
  | unknown | serverDeliveryReceipt => trivial
  | prekeyMessage | doubleRatchet | plaintextContent =>
      cases source with
      | none => trivial
      | some id =>
          -- the three branches differ only in how they come to the payload
          have admissible (parts : DecryptedPayload)
              (said : parts.sender = id ∧ parts.unidentifiedSender = false ∧
                parts.needsReceipt = false) : parts.Admissible envelope (some id) :=
            .identified checked (by simp [type]) (by simp [type]) said.1 said.2.1
              said.2.2
          simp only [expectSource, Prog.ofOption, Exit.ofOption_some, bind_eq, ret_bind]
          first
            | exact .last fun device => decryptIdentified_returns.mono admissible
            | exact decryptPlaintextContent_returns.mono admissible

/-! ## The metadata and the filter -/

/-- The metadata repeats what the payload says. -/
theorem finishDecrypt_returns {parts : DecryptedPayload} :
    (finishDecrypt X localId envelope parts).Returns fun plaintext =>
      plaintext.metadata.destination = localId ∧ plaintext.metadata.sender = parts.sender ∧
        plaintext.metadata.unidentifiedSender = parts.unidentifiedSender ∧
        plaintext.metadata.needsReceipt = parts.needsReceipt := by
  refine .last fun message => .last fun pniVerified => .last fun client => .last fun server => ?_
  exact ⟨rfl, rfl, rfl, rfl⟩

/-- The plaintext is put together from an admissible payload. -/
def Plaintext.Admissible (localId : ServiceId) (envelope : Envelope) (source : Option ServiceId)
    (plaintext : Plaintext) : Prop :=
  ∃ parts : DecryptedPayload, parts.Admissible envelope source ∧
    plaintext.metadata.destination = localId ∧ plaintext.metadata.sender = parts.sender ∧
    plaintext.metadata.unidentifiedSender = parts.unidentifiedSender ∧
    plaintext.metadata.needsReceipt = parts.needsReceipt

def ContentBody.IsSynchronizeMessage : ContentBody → Prop
  | .synchronizeMessage _ => True
  | _ => False

theorem Content.fromProto_metadata {p : Proto.Content} {metadata : Metadata} {content : Content}
    (converted : Content.fromProto X p metadata = .ok content) : content.metadata = metadata := by
  unfold Content.fromProto at converted
  split at converted
  case h_8 encoded =>
    split at converted
    · cases converted
      rfl
    · cases converted
  case h_1 => cases converted
  all_goals
    cases converted
    rfl

/-- A sync message is converted from one. -/
theorem Content.fromProto_isSyncMessage {p : Proto.Content} {metadata : Metadata}
    {content : Content} {body : Proto.Body} (present : p.content = some body)
    (converted : Content.fromProto X p metadata = .ok content)
    (sync : content.body.IsSynchronizeMessage) : body.IsSyncMessage := by
  cases body with
  | syncMessage => trivial
  | decryptionErrorMessage encoded =>
      simp only [Content.fromProto, present] at converted
      split at converted
      · cases converted
        exact sync
      · cases converted
  | dataMessage | callMessage | nullMessage | receiptMessage | typingMessage | storyMessage
  | editMessage =>
      simp only [Content.fromProto, present] at converted
      cases converted
      exact sync

/-- What passes the filter has the metadata it came with, and a sync message is our own. -/
theorem admitContent_admits {plaintext : Plaintext} {content : Content}
    (admitted : admitContent X localId plaintext = .ok (some content)) :
    content.metadata = plaintext.metadata ∧
      (content.body.IsSynchronizeMessage →
        plaintext.metadata.sender.aci? = localId.aci? ∧ localId.kind ≠ .pni) := by
  unfold admitContent at admitted
  cases present : plaintext.message.content with
  | none =>
      rw [present] at admitted
      cases admitted
  | some body =>
      simp only [present] at admitted
      split at admitted
      · cases admitted
      · split at admitted
        · cases admitted
        · next own =>
            cases converted : Content.fromProto X plaintext.message plaintext.metadata with
            | error e =>
                rw [converted] at admitted
                cases admitted
            | ok converted' =>
                rw [converted] at admitted
                cases admitted
                refine ⟨Content.fromProto_metadata converted, fun sync => ?_⟩
                have isSync := Content.fromProto_isSyncMessage present converted sync
                by_contra foreign
                exact own ⟨isSync, not_and_or.mp foreign |>.imp_right not_not.mp⟩

theorem deliver_returns {plaintext : Plaintext} :
    (deliver X localId plaintext).Returns fun delivered => ∀ content, delivered = some content →
      admitContent X localId plaintext = .ok (some content) := by
  refine .last fun _ => ?_
  cases admitted : admitContent X localId plaintext with
  | error e => trivial
  | ok delivered =>
      rintro content rfl
      rfl

/-! ## Put together -/

/-- What holds of a content that was handed out for an envelope. -/
structure Content.Admitted (X : Externals) (cipher : ServiceCipher) (envelope : Envelope)
    (content : Content) : Prop where
  destination : envelope.parseDestinationServiceId X = some content.metadata.destination
  isLocal : X.parseServiceIdString cipher.localAddress.name = some content.metadata.destination
  sender : ∃ aci, content.metadata.sender = .aci aci
  unidentifiedSender : content.metadata.unidentifiedSender = true ↔
    envelope.envelopeType = .unidentifiedSender
  needsReceipt : content.metadata.needsReceipt = true ↔
    envelope.envelopeType = .unidentifiedSender ∧ envelope.parseSourceServiceId X = none
  source : content.metadata.destination.kind = .pni → envelope.parseSourceServiceId X ≠ none
  sync : content.body.IsSynchronizeMessage →
    ∃ aci, content.metadata.destination = .aci aci ∧ content.metadata.sender = .aci aci

theorem Plaintext.Admissible.admitted {plaintext : Plaintext} {content : Content}
    (admissible : plaintext.Admissible localId envelope source)
    (isLocal : X.parseServiceIdString cipher.localAddress.name = some localId)
    (checked : HeaderChecked X localId envelope source)
    (admits : admitContent X localId plaintext = .ok (some content)) :
    content.Admitted X cipher envelope := by
  obtain ⟨parts, ⟨⟨aci, account⟩, channel, receipt⟩, destination, sender, unidentified, needs⟩ :=
    admissible
  obtain ⟨metadata, own⟩ := admitContent_admits admits
  rw [← metadata] at destination sender unidentified needs own
  constructor
  · rw [destination]
    exact checked.destination
  · rw [destination]
    exact isLocal
  · exact ⟨aci, sender.trans account⟩
  · rw [unidentified]
    exact channel
  · rw [needs, receipt, checked.named]
  · rw [destination, checked.named]
    exact checked.ofPni
  · intro sync
    obtain ⟨same, isAci⟩ := own sync
    rw [sender, account] at same
    rw [destination, sender, account]
    cases localId with
    | aci localAci => exact ⟨aci, by rw [Option.some.inj same], rfl⟩
    | pni localPni => exact absurd rfl isAci

theorem openEnvelope_returns :
    (openEnvelope X cipher envelope).Returns fun delivered =>
      ∀ content, delivered = some content → content.Admitted X cipher envelope := by
  cases isLocal : X.parseServiceIdString cipher.localAddress.name with
  | none =>
      rw [openEnvelope_not_local X isLocal]
      trivial
  | some localId =>
      cases present : envelope.content with
      | none =>
          rw [openEnvelope_no_content X isLocal present]
          rintro content ⟨⟩
      | some ciphertext =>
          cases header : checkHeader X localId envelope with
          | error e =>
              rw [openEnvelope_bad_header X isLocal present header]
              trivial
          | ok source =>
              have checked := checkHeader_checked header
              rw [openEnvelope_eq X isLocal present header]
              have decrypted : ((decryptParts X cipher envelope ciphertext source).bind
                  (finishDecrypt X localId envelope)).Returns
                    (Plaintext.Admissible localId envelope source) :=
                (decryptParts_returns checked).bind fun parts admissible =>
                  finishDecrypt_returns.mono fun plaintext repeats =>
                    ⟨parts, admissible, repeats⟩
              refine decrypted.bind fun plaintext admissible => deliver_returns.mono ?_
              intro delivered admits content handed
              exact admissible.admitted isLocal checked (admits content handed)

/-- A content is handed out only for an envelope that is addressed to us, by an account; and
    a sync message only when the account is ours. -/
theorem openEnvelope_admitted {σ : Type} (h : Env σ) (s : σ) {content : Content}
    (handed : ((openEnvelope X cipher envelope).run h s).exit = .ret (some content)) :
    content.Admitted X cipher envelope :=
  openEnvelope_returns.run handed content rfl

theorem sealed_data_admitted :
    ∃ content, ((openEnvelope reference Sample.localCipher Sample.sealedEnvelope).run
        Sample.sealedDataEnv ()).exit = .ret (some content) ∧
      content.Admitted reference Sample.localCipher Sample.sealedEnvelope := by
  have opened : ∃ content, ((openEnvelope reference Sample.localCipher Sample.sealedEnvelope).run
      Sample.sealedDataEnv ()).exit = .ret (some content) := ⟨_, rfl⟩
  obtain ⟨content, handed⟩ := opened
  exact ⟨content, handed, openEnvelope_admitted Sample.sealedDataEnv () handed⟩

end SignalService

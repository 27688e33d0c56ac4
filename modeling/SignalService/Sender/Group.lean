import SignalService.Sender.Batches
import SignalService.Reference

/-! # Sending to a group

`send_message_to_group` sends to one recipient after another and then tells our own devices
how each send went. Its result is one of each recipient's send; the only ways out of it
without one are the panics of the code that reads the server's answers, and of the
signature that is asked for without a key.
-/

namespace SignalService

open Effect Prog

variable (X : Externals)

/-! ## Answers that cannot be read -/

/-- An answer whose reading panics. The keys of a device that was missing, which are asked
    for while sessions are repaired, have to name a device; the keys that a message is
    encrypted with need not. -/
def Alarms (repairing : Bool) : (c : Call) → Answer c → Prop
  | .putMessages _ _, answer => ∃ m, readPutMessages X answer = .panic m
  | .getKeys _ _, answer =>
      (∃ m, readGetKeys X answer = .panic m) ∨
        (repairing = true ∧ ∃ identity, readGetKeys X answer = .ret ⟨identity, []⟩)
  | _, _ => False

/-- Sessions are repaired after a batch and until the devices are listed again. -/
def repairingAfter (repairing : Bool) : Call → Bool
  | .putMessages _ _ => true
  | .getSubDeviceSessions _ => false
  | _ => repairing

/-- One of the answers of a log cannot be read. -/
def Alarmed : Bool → List CallEvent → Prop
  | _, [] => False
  | repairing, e :: log =>
      Alarms X repairing e.1 e.2 ∨ Alarmed (repairingAfter repairing e.1) log

/-- `message_encrypt` of libsignal gives a message of a session. -/
def SessionMessages : (c : Call) → Answer c → Prop
  | .messageEncrypt _ _ _, .ok message =>
      message.messageType = .whisper ∨ message.messageType = .preKey
  | _, _ => True

theorem alarmed_append (log log' : List CallEvent) (repairing : Bool) :
    Alarmed X repairing (log ++ log') ↔ Alarmed X repairing log ∨
      Alarmed X (log.foldl (fun phase e => repairingAfter phase e.1) repairing) log' := by
  induction log generalizing repairing with
  | nil => simp [Alarmed]
  | cons e log ih =>
      simp only [List.cons_append, Alarmed, ih, List.foldl_cons]
      exact or_assoc.symm

theorem alarmed_steady {log : List CallEvent} {repairing : Bool}
    (steady : ∀ e ∈ log, repairingAfter repairing e.1 = repairing) :
    Alarmed X repairing log ↔ ∃ e ∈ log, Alarms X repairing e.1 e.2 := by
  induction log with
  | nil => simp [Alarmed]
  | cons e log ih =>
      rw [Alarmed, steady e List.mem_cons_self,
        ih fun e' member => steady e' (List.mem_cons_of_mem e member)]
      simp

variable {X}

/-- Within one phase, a program that panics on the answers of that phase panics exactly
    when its log is alarmed. -/
theorem panic_iff_alarmed {ε α : Type} {p : Async ε α} {repairing : Bool} {es : List CallEvent}
    {x : Exit ε α} (exactly : PanicsWhen SessionMessages (Alarms X repairing) p)
    (steady : Calls (fun c => repairingAfter repairing c = repairing) p)
    (trace : Trace p es x) (allowed : ∀ e ∈ es, SessionMessages e.1 e.2) :
    (∃ m, x = .panic m) ↔ Alarmed X repairing es := by
  rw [exactly.trace trace allowed, alarmed_steady X (steady.trace trace)]

namespace MessageSender

variable {sender : MessageSender}

/-! ## While a message is encrypted -/

section Encrypting

theorem await_panics {ε α : Type} {c : Call} {result : Answer c → Except ε α} {repairing : Bool}
    (calm : ∀ answer, ¬ Alarms X repairing c answer) :
    PanicsWhen SessionMessages (Alarms X repairing) (Async.await c result) :=
  .call calm fun _ _ => panicsWhen_ofExcept _

theorem registrationId_panics {record : SessionRecord} :
    PanicsWhen SessionMessages (Alarms X false) (registrationId X record) :=
  .mapErr _ (panicsWhen_ofExcept _)

theorem encryptPadded_panics {address : ProtocolAddress} {certificate : Option SenderCertificate}
    {record : SessionRecord} {padded : Bytes} :
    PanicsWhen SessionMessages (Alarms X false)
      (encryptPadded X sender.cipher address certificate record padded) := by
  cases certificate with
  | some certificate =>
      refine registrationId_panics.bind fun _ => ?_
      exact .bind (.mapErr _ (await_panics fun _ => id)) fun _ => trivial
  | none =>
      refine .call (fun _ => id) fun answer typed => ?_
      cases answer with
      | error e => trivial
      | ok message =>
          refine registrationId_panics.bind fun _ => ?_
          rcases typed with whisper | preKey
          · simp only [whisper, outgoingType]
            trivial
          · simp only [preKey, outgoingType]
            trivial

theorem encrypt_panics {address : ProtocolAddress} {certificate : Option SenderCertificate}
    {content : OutgoingContent} :
    PanicsWhen SessionMessages (Alarms X false)
      (encrypt X sender.cipher address certificate content) := by
  refine .bind (.mapErr _ (await_panics fun _ => id)) fun loaded => ?_
  refine .bind (panicsWhen_ofOption _ _) fun record => ?_
  cases content with
  | plaintext serialized => exact registrationId_panics.bind fun _ => trivial
  | encrypted content =>
      have usable : PanicsWhen SessionMessages (Alarms X false) (recordUsable record) :=
        .call (fun _ => id) fun _ _ => trivial
      refine usable.bind fun usable => ?_
      cases usable with
      | false => trivial
      | true =>
          refine .bind (.mapErr _ (panicsWhen_ofExcept _)) fun _ => ?_
          exact .bind (panicsWhen_ofExcept _) fun _ => encryptPadded_panics

theorem getPreKeys_panics {recipient : ServiceId} {device : DeviceId} :
    PanicsWhen SessionMessages (Alarms X false) (getPreKeys X recipient device) := by
  refine panicsWhen_read fun answer => ?_
  simp only [Exit.bind_eq_panic, Alarms, Bool.false_eq_true, false_and, or_false]
  refine exists_congr fun m => or_iff_left ?_
  rintro ⟨response, -, panics⟩
  exact Exit.ofExcept_ne_panic panics

theorem fetchPreKeys_panics {recipient : ServiceId} {device : DeviceId} :
    PanicsWhen SessionMessages (Alarms X false) (fetchPreKeys X recipient device) := by
  refine .bind (.attempt getPreKeys_panics) fun fetched => ?_
  cases fetched with
  | ok bundles => trivial
  | error e => cases e <;> trivial

theorem establishSessions_panics {recipient : ServiceId} (bundles : List PreKeyBundle) :
    PanicsWhen SessionMessages (Alarms X false)
      (sender.establishSessions X recipient bundles) := by
  induction bundles with
  | nil => trivial
  | cons bundle bundles ih =>
      unfold establishSessions
      split
      · exact ih
      · have address : PanicsWhen SessionMessages (Alarms X false)
            (getPreferredProtocolAddress X recipient bundle.deviceId) :=
          .bind (await_panics fun _ => id) fun _ => trivial
        refine .bind (.mapErr _ address) fun _ => ?_
        exact .bind (.mapErr _ (await_panics fun _ => id)) fun _ => ih

theorem createEncryptedMessage_panics {recipient : ServiceId}
    {certificate : Option SenderCertificate} {device : DeviceId} {content : OutgoingContent} :
    PanicsWhen SessionMessages (Alarms X false)
      (sender.createEncryptedMessage X recipient certificate device content) := by
  refine .bind (.mapErr _ (await_panics fun _ => id)) fun session => ?_
  have encrypted : PanicsWhen SessionMessages (Alarms X false)
      ((encrypt X sender.cipher (X.protocolAddress recipient device) certificate content).mapErr
        MessageSenderError.serviceError) := .mapErr _ encrypt_panics
  cases session with
  | some record => exact encrypted
  | none =>
      refine .bind fetchPreKeys_panics fun bundles => ?_
      exact .bind (establishSessions_panics bundles) fun _ => encrypted

theorem encryptForDevice_panics {recipient : ServiceId} {certificate : Option SenderCertificate}
    {content : OutgoingContent} {device : DeviceId} (attempts : Nat) :
    PanicsWhen SessionMessages (Alarms X false)
      (sender.encryptForDevice X recipient certificate content device attempts) := by
  induction attempts with
  | zero => trivial
  | succ attempts ih =>
      refine .bind (.attempt createEncryptedMessage_panics) fun created => ?_
      split
      · trivial
      · refine .bind (.attempt (await_panics fun _ => id)) fun deleted => ?_
        cases deleted with
        | ok => exact ih
        | error e => trivial
      · trivial

theorem encryptForDevices_panics {recipient : ServiceId} {certificate : Option SenderCertificate}
    {content : OutgoingContent} (devices : List DeviceId) :
    PanicsWhen SessionMessages (Alarms X false)
      (sender.encryptForDevices X recipient certificate content devices) := by
  induction devices with
  | nil => trivial
  | cons device devices ih =>
      exact .bind (encryptForDevice_panics 2) fun _ => .bind ih fun _ => trivial

theorem createEncryptedMessages_panics {recipient : ServiceId}
    {certificate : Option SenderCertificate} {content : OutgoingContent} :
    PanicsWhen SessionMessages (Alarms X false)
      (sender.createEncryptedMessages X recipient certificate content) := by
  refine .bind (.mapErr _ (await_panics fun _ => id)) fun subDevices => ?_
  have asked : PanicsWhen SessionMessages (Alarms X false)
      (Async.ask (.iterate (sender.targetDevices recipient subDevices)) :
        Async MessageSenderError _) := .call (fun _ => id) fun _ _ => trivial
  refine asked.bind fun order => ?_
  refine .bind (encryptForDevices_panics _) fun messages => ?_
  split
  · trivial
  · have identity : PanicsWhen SessionMessages (Alarms X false) (usedIdentityKey X recipient) :=
      .bind (.mapErr _ (await_panics fun _ => id)) fun _ => panicsWhen_ofOption _ _
    exact identity.bind fun _ => trivial

theorem Serves.not_repairing {D : ProtocolAddress → Prop} {recipient : ServiceId} {c : Call}
    (serves : sender.Serves X D recipient c) : repairingAfter false c = false := by
  cases serves <;> rfl

/-- Encrypting for a recipient begins with the list of its devices, so what was repaired
    before makes no difference. -/
theorem createEncryptedMessages_alarmed {recipient : ServiceId}
    {certificate : Option SenderCertificate} {content : OutgoingContent} {es : List CallEvent}
    {x : Exit MessageSenderError (Option EncryptedMessages)}
    (trace : Trace (sender.createEncryptedMessages X recipient certificate content) es x)
    (allowed : ∀ e ∈ es, SessionMessages e.1 e.2) (repairing : Bool) :
    (∃ m, x = .panic m) ↔ Alarmed X repairing es := by
  rw [panic_iff_alarmed createEncryptedMessages_panics
    (createEncryptedMessages_calls.mono fun _ => Serves.not_repairing) trace allowed]
  obtain ⟨answer, rest, rfl, -⟩ := trace_call.mp trace
  rfl

end Encrypting

/-! ## While sessions are repaired -/

section Repairing

variable {recipient : ServiceId}

theorem firstBundle_panic_iff {response : PreKeyResponse} :
    (∃ m, firstBundle X response = .panic m) ↔ response.devices = [] := by
  unfold firstBundle
  split
  · next none => exact iff_of_true ⟨_, rfl⟩ none
  · next item items listed =>
      refine iff_of_false ?_ (by simp [listed])
      rintro ⟨m, panics⟩
      rcases Exit.bind_eq_panic.mp panics with panics | ⟨identity, -, panics⟩
      · exact Exit.ofExcept_ne_panic panics
      · exact Exit.ofExcept_ne_panic panics

theorem getPreKey_panics {device : DeviceId} :
    PanicsWhen SessionMessages (Alarms X true) (getPreKey X recipient device) := by
  refine panicsWhen_read fun answer => ?_
  simp only [Exit.bind_eq_panic, Alarms, true_and, exists_or]
  refine or_congr_right ?_
  constructor
  · rintro ⟨m, response, read, panics⟩
    have none := firstBundle_panic_iff.mp ⟨m, panics⟩
    exact ⟨response.identityKey, by rw [read, ← none]⟩
  · rintro ⟨identity, read⟩
    exact ⟨_, _, read, rfl⟩

theorem dropSessions_panics (devices : List DeviceId) :
    PanicsWhen SessionMessages (Alarms X true) (dropSessions X recipient devices) := by
  induction devices with
  | nil => trivial
  | cons device devices ih =>
      refine .bind (.mapErr _ ?_) fun _ => ih
      refine .bind (.attempt (await_panics fun _ => id)) fun deleted => ?_
      split <;> trivial

theorem createSessions_panics (devices : List DeviceId) :
    PanicsWhen SessionMessages (Alarms X true) (sender.createSessions X recipient devices) := by
  induction devices with
  | nil => trivial
  | cons device devices ih =>
      refine .bind (.mapErr _ getPreKey_panics) fun bundle => ?_
      exact .bind (.mapErr _ (await_panics fun _ => id)) fun _ => ih

theorem repair_panics {access : Option UnidentifiedAccess} (e : ServiceError) :
    PanicsWhen SessionMessages (Alarms X true) (sender.repair X recipient access e) := by
  cases e with
  | mismatchedDevicesException devices =>
      exact .bind (dropSessions_panics _) fun _ => .bind (createSessions_panics _) fun _ => trivial
  | staleDevices devices => exact .bind (dropSessions_panics _) fun _ => trivial
  | unauthorized => cases access <;> trivial
  | _ => trivial

theorem dropSessions_steady (devices : List DeviceId) :
    Calls (fun c => repairingAfter true c = true) (dropSessions X recipient devices) := by
  induction devices with
  | nil => trivial
  | cons device devices ih =>
      refine .bind (.mapErr _ ?_) fun _ => ih
      refine .bind (.attempt ⟨rfl, fun _ _ => trivial⟩) fun deleted => ?_
      split <;> trivial

theorem createSessions_steady (devices : List DeviceId) :
    Calls (fun c => repairingAfter true c = true)
      (sender.createSessions X recipient devices) := by
  induction devices with
  | nil => trivial
  | cons device devices ih =>
      refine .bind (.mapErr _ ⟨rfl, fun _ _ => trivial⟩) fun bundle => ?_
      exact .bind (.mapErr _ ⟨rfl, fun _ _ => trivial⟩) fun _ => ih

theorem repair_steady {access : Option UnidentifiedAccess} (e : ServiceError) :
    Calls (fun c => repairingAfter true c = true) (sender.repair X recipient access e) := by
  cases e with
  | mismatchedDevicesException devices =>
      exact .bind (dropSessions_steady _) fun _ => .bind (createSessions_steady _) fun _ => trivial
  | staleDevices devices => exact .bind (dropSessions_steady _) fun _ => trivial
  | unauthorized => cases access <;> trivial
  | _ => trivial

theorem repair_alarmed {access : Option UnidentifiedAccess} {e : ServiceError}
    {es : List CallEvent}
    {x : Exit MessageSenderError (SentMessage ⊕ Option UnidentifiedAccess)}
    (trace : Trace ((sender.repair X recipient access e).bind fun next =>
      (pure (.inr next) : Async _ _)) es x)
    (allowed : ∀ e ∈ es, SessionMessages e.1 e.2) :
    (∃ m, x = .panic m) ↔ Alarmed X true es := by
  refine panic_iff_alarmed ?_ ?_ trace allowed
  · exact .bind (repair_panics e) fun _ => trivial
  · exact .bind (repair_steady e) fun _ => trivial

end Repairing

/-! ## One send -/

section Sending

variable {recipient : ServiceId} {content : OutgoingContent} {timestamp : Nat} {online : Bool}

theorem sendAttempt_alarmed {access : Option UnidentifiedAccess} {es : List CallEvent}
    {x : Exit MessageSenderError (SentMessage ⊕ Option UnidentifiedAccess)}
    (trace : Trace (sender.sendAttempt X recipient content timestamp online access) es x)
    (allowed : ∀ e ∈ es, SessionMessages e.1 e.2) (repairing : Bool) :
    (∃ m, x = .panic m) ↔ Alarmed X repairing es := by
  rcases trace_bind.mp trace with
    ⟨e, failed, rfl⟩ | ⟨m, failed, rfl⟩ | ⟨encrypted, es₁, es₂, rfl, made, rest⟩
  · rw [← createEncryptedMessages_alarmed failed allowed repairing]
    simp
  · rw [← createEncryptedMessages_alarmed failed allowed repairing]
    simp
  · have calm : ¬ Alarmed X repairing es₁ := by
      rw [← createEncryptedMessages_alarmed made
        (fun e member => allowed e (List.mem_append_left _ member)) repairing]
      simp
    rw [alarmed_append, or_iff_right calm]
    cases encrypted with
    | none =>
        obtain ⟨rfl, rfl⟩ := trace_done.mp rest
        simp [Alarmed]
    | some encrypted =>
        rcases trace_attempt_bind rest with
          ⟨m, submitted, rfl⟩ | ⟨result, es₃, es₄, rfl, submitted, last⟩
        · obtain ⟨answer, rfl, outcome⟩ := submit_trace submitted
          exact iff_of_true ⟨_, rfl⟩ (.inl ⟨m, outcome.symm⟩)
        · obtain ⟨answer, rfl, outcome⟩ := submit_trace submitted
          have read : ¬ ∃ m, readPutMessages X answer = .panic m := by
            rintro ⟨m, panics⟩
            rw [panics] at outcome
            cases result <;> cases outcome
          have steady : Alarmed X true es₄ ↔ ∃ m, x = .panic m := by
            have allowed : ∀ e ∈ es₄, SessionMessages e.1 e.2 := fun e member =>
              allowed e (List.mem_append_right _ (List.mem_append_right _ member))
            cases result with
            | ok response =>
                obtain ⟨rfl, rfl⟩ := trace_done.mp last
                simp [Alarmed]
            | error e => exact (repair_alarmed last allowed).symm
          exact steady.symm.trans (or_iff_right read).symm

theorem sendLoop_alarmed {attempts : Nat} {access : Option UnidentifiedAccess}
    {es : List CallEvent} {x : Exit MessageSenderError SentMessage}
    (trace : Trace (sender.sendLoop X recipient content timestamp online attempts access) es x)
    (allowed : ∀ e ∈ es, SessionMessages e.1 e.2) (repairing : Bool) :
    (∃ m, x = .panic m) ↔ Alarmed X repairing es := by
  induction attempts generalizing access es x repairing with
  | zero =>
      obtain ⟨rfl, rfl⟩ := trace_done.mp trace
      simp [Alarmed]
  | succ attempts ih =>
      rcases trace_bind.mp trace with
        ⟨e, failed, rfl⟩ | ⟨m, failed, rfl⟩ | ⟨next, es₁, es₂, rfl, attempted, rest⟩
      · rw [← sendAttempt_alarmed failed allowed repairing]
        simp
      · rw [← sendAttempt_alarmed failed allowed repairing]
        simp
      · have calm : ¬ Alarmed X repairing es₁ := by
          rw [← sendAttempt_alarmed attempted
            (fun e member => allowed e (List.mem_append_left _ member)) repairing]
          simp
        rw [alarmed_append, or_iff_right calm]
        cases next with
        | inl sent =>
            obtain ⟨rfl, rfl⟩ := trace_done.mp rest
            simp [Alarmed]
        | inr access =>
            exact ih rest (fun e member => allowed e (List.mem_append_right _ member)) _

theorem trySendContent_alarmed {access : Option UnidentifiedAccess} {es : List CallEvent}
    {x : Exit MessageSenderError SentMessage}
    (trace : Trace (sender.trySendContent X recipient access content timestamp online) es x)
    (allowed : ∀ e ∈ es, SessionMessages e.1 e.2) (repairing : Bool) :
    (∃ m, x = .panic m) ↔ Alarmed X repairing es := by
  obtain ⟨answer, rest, rfl, locked⟩ := trace_call.mp trace
  obtain ⟨es', released, rfl, held⟩ := trace_onExit.mp locked
  rw [sendLoop_alarmed held (fun e member => allowed e
    (List.mem_cons_of_mem _ (List.mem_append_left _ member))) repairing]
  simp [Alarmed, Alarms, alarmed_append, repairingAfter]

/-- A signature is asked for that there is no key for. -/
def LacksPniKey (sender : MessageSender) (includePniSignature : Bool) : Prop :=
  includePniSignature = true ∧ sender.pniIdentity = none

theorem contentBytes_panic_iff {body : ContentBody} {includePniSignature : Bool}
    {es : List CallEvent} {x : Exit MessageSenderError Bytes}
    (trace : Trace (sender.contentBytes X body includePniSignature) es x) :
    (∃ m, x = .panic m) ↔ sender.LacksPniKey includePniSignature := by
  unfold contentBytes createPniSignature at trace
  unfold LacksPniKey
  cases includePniSignature with
  | false =>
      obtain ⟨-, rfl⟩ := trace_done.mp trace
      simp
  | true =>
      cases key : sender.pniIdentity with
      | none =>
          rw [key] at trace
          obtain ⟨-, rfl⟩ := trace_done.mp trace
          simp
      | some pair =>
          rw [key] at trace
          obtain ⟨answer, rest, -, signed⟩ := trace_call.mp trace
          cases answer with
          | error e =>
              obtain ⟨-, rfl⟩ := trace_done.mp signed
              simp
          | ok signature =>
              obtain ⟨-, rfl⟩ := trace_done.mp signed
              simp

theorem contentBytes_calm {body : ContentBody} {includePniSignature : Bool}
    {es : List CallEvent} {x : Exit MessageSenderError Bytes}
    (trace : Trace (sender.contentBytes X body includePniSignature) es x) (repairing : Bool) :
    ¬ Alarmed X repairing es := by
  have calls : Calls (fun c => c = .signAlternateIdentity)
      (sender.contentBytes X body includePniSignature) := by
    unfold contentBytes createPniSignature
    cases includePniSignature with
    | false => trivial
    | true =>
        refine .bind (.bind trivial fun _ => ?_) fun _ => trivial
        exact .bind (.mapErr _ ⟨rfl, fun _ _ => trivial⟩) fun _ => trivial
  have only := calls.trace trace
  rw [alarmed_steady X fun e member => by rw [only e member]; rfl]
  rintro ⟨⟨c, answer⟩, member, alarm⟩
  have same : c = .signAlternateIdentity := only _ member
  subst same
  exact alarm

/-- A send panics exactly when it lacks the key of a signature or gets an answer that
    cannot be read. -/
theorem trySendMessage_panic_iff {access : Option UnidentifiedAccess} {body : ContentBody}
    {includePniSignature : Bool} {es : List CallEvent} {x : Exit MessageSenderError SentMessage}
    (trace : Trace (sender.trySendMessage X recipient access body timestamp includePniSignature
      online) es x)
    (allowed : ∀ e ∈ es, SessionMessages e.1 e.2) (repairing : Bool) :
    (∃ m, x = .panic m) ↔ sender.LacksPniKey includePniSignature ∨ Alarmed X repairing es := by
  rcases trace_bind.mp trace with
    ⟨e, failed, rfl⟩ | ⟨m, failed, rfl⟩ | ⟨content, es₁, es₂, rfl, encoded, rest⟩
  · rw [or_iff_left (contentBytes_calm failed repairing), ← contentBytes_panic_iff failed]
    simp
  · rw [or_iff_left (contentBytes_calm failed repairing), ← contentBytes_panic_iff failed]
    simp
  · have keyed : ¬ sender.LacksPniKey includePniSignature := by
      rw [← contentBytes_panic_iff encoded]
      simp
    rw [or_iff_right keyed, alarmed_append, or_iff_right (contentBytes_calm encoded repairing)]
    exact trySendContent_alarmed rest
      (fun e member => allowed e (List.mem_append_right _ member)) _

end Sending

/-! ## The sends of a group -/

/-- One of the sends of a group: to whom it goes, its calls and its result. -/
structure Delivery where
  recipient : GroupRecipient
  log : List CallEvent
  result : Except MessageSenderError SentMessage

section Group

variable (X sender) (body : ContentBody) (timestamp : Nat) (online : Bool)

/-- The calls and the result are those of a send of the body to the recipient. -/
def Delivery.IsSend (d : Delivery) : Prop :=
  Trace (sender.trySendMessage X d.recipient.recipient d.recipient.access body timestamp
    d.recipient.includePniSignature online) d.log (.ofExcept d.result)

/-- The status names the recipient, and the channel of the batch that was accepted. -/
def Delivery.Tells (d : Delivery) (status : UnidentifiedDeliveryStatus) : Prop :=
  status.destinationServiceId = some (X.serviceIdString d.recipient.recipient) ∧
    status.destinationServiceIdBinary = some (X.serviceIdBinary d.recipient.recipient) ∧
    ∃ b ∈ submissions X d.log, b.Accepted ∧ status.unidentified = some b.accessKey.isSome

/-- The calls after the sends submit to our own devices only, of which the server accepts at
    most one batch. What they submit is a transcript that has a status for each send with a
    message for a result, in their order. -/
structure SyncsOnce (deliveries : List Delivery) (log : List CallEvent) : Prop where
  addressed : ∀ b ∈ submissions X log, b.batch.destination = .aci sender.localAci
  once : ((submissions X log).filter (·.Accepted)).length ≤ 1
  transcript : submissions X log = [] ∨ ∃ before after sent padding x,
    log = before ++ after ∧ (∀ e ∈ before, ¬ e.1.IsPut) ∧
      Trace (sender.trySendMessage X (.aci sender.localAci) none
        (.synchronizeMessage ⟨some (.sent sent), some padding⟩) timestamp false false) after x ∧
      List.Forall₂ (Delivery.Tells X) (deliveries.filter (·.result.isOk)) sent.unidentifiedStatus

/-- A group send returns a result for each recipient, in their order, of the sends it made
    one after another; each of them is settled by its own batches. -/
def Reports (recipients : List GroupRecipient)
    (x : Exit MessageSenderError (List (Except MessageSenderError SentMessage)))
    (log : List CallEvent) : Prop :=
  ∃ deliveries rest,
    deliveries.map (·.recipient) = recipients ∧
    x = .ret (deliveries.map (·.result)) ∧
    log = deliveries.flatMap (·.log) ++ rest ∧
    (∀ d ∈ deliveries, d.IsSend X sender body timestamp online ∧
      Settles d.recipient.recipient (submissions X d.log) (.ofExcept d.result)) ∧
    SyncsOnce X sender timestamp deliveries rest

variable {X sender body timestamp online}

theorem Delivery.IsSend.settles {d : Delivery} (send : d.IsSend X sender body timestamp online) :
    Settles d.recipient.recipient (submissions X d.log) (.ofExcept d.result) :=
  trySendMessage_settles send none

theorem Delivery.IsSend.tells {d : Delivery} (send : d.IsSend X sender body timestamp online)
    {sent : SentMessage} (sent_eq : d.result = .ok sent) : d.Tells X (deliveryStatus X sent) := by
  have settles := send.settles
  rw [sent_eq] at settles
  obtain ⟨b, member, addressed, message⟩ := settles.sentMessage
  have recipient : sent.recipient = d.recipient.recipient := by
    rw [← addressed]
    exact Submission.recipient_of_sentMessage message
  refine ⟨?_, ?_, b, member, Submission.accepted_of_sentMessage message, ?_⟩
  · rw [← recipient]
    rfl
  · rw [← recipient]
    rfl
  · rw [← Submission.unidentified_of_sentMessage message]
    rfl

theorem deliveries_told {deliveries : List Delivery}
    (sends : ∀ d ∈ deliveries, d.IsSend X sender body timestamp online) :
    List.Forall₂ (Delivery.Tells X) (deliveries.filter (·.result.isOk))
      (((deliveries.map (·.result)).filterMap Except.toOption).map (deliveryStatus X)) := by
  induction deliveries with
  | nil => exact .nil
  | cons d deliveries ih =>
      have rest := ih fun d' member => sends d' (List.mem_cons_of_mem d member)
      cases result : d.result with
      | error e =>
          rw [List.filter_cons_of_neg (by simp [result, Except.isOk, Except.toBool]),
            List.map_cons, result]
          exact rest
      | ok sent =>
          rw [List.filter_cons_of_pos (by simp [result, Except.isOk, Except.toBool]),
            List.map_cons, result]
          exact .cons ((sends d List.mem_cons_self).tells result) rest

theorem sendToEach_deliveries {recipients : List GroupRecipient} {es : List CallEvent}
    {x : Exit MessageSenderError (List (Except MessageSenderError SentMessage))}
    (trace : Trace (sender.sendToEach X body timestamp online recipients) es x) :
    (∃ m, x = .panic m) ∨ ∃ deliveries : List Delivery,
      deliveries.map (·.recipient) = recipients ∧
      (∀ d ∈ deliveries, d.IsSend X sender body timestamp online) ∧
      es = deliveries.flatMap (·.log) ∧ x = .ret (deliveries.map (·.result)) := by
  induction recipients generalizing es x with
  | nil =>
      obtain ⟨rfl, rfl⟩ := trace_done.mp trace
      exact .inr ⟨[], rfl, by simp, rfl, rfl⟩
  | cons r recipients ih =>
      rcases trace_attempt_bind trace with
        ⟨m, -, rfl⟩ | ⟨result, es₁, es₂, rfl, send, rest⟩
      · exact .inl ⟨m, rfl⟩
      · rcases trace_bind.mp rest with
          ⟨e, failed, rfl⟩ | ⟨m, failed, rfl⟩ | ⟨results, es₃, es₄, rfl, others, last⟩
        · rcases ih failed with ⟨m, ended⟩ | ⟨deliveries, -, -, -, ended⟩
          · cases ended
          · cases ended
        · exact .inl ⟨m, rfl⟩
        · rcases ih others with ⟨m, ended⟩ | ⟨deliveries, rfl, sends, rfl, ended⟩
          · cases ended
          · cases ended
            obtain ⟨rfl, rfl⟩ := trace_done.mp last
            refine .inr ⟨⟨r, es₁, result⟩ :: deliveries, rfl, ?_, by simp, rfl⟩
            intro d member
            rcases List.mem_cons.mp member with rfl | member
            · exact send
            · exact sends d member

theorem sendToEach_panic_iff {recipients : List GroupRecipient} {es : List CallEvent}
    {x : Exit MessageSenderError (List (Except MessageSenderError SentMessage))}
    (trace : Trace (sender.sendToEach X body timestamp online recipients) es x)
    (allowed : ∀ e ∈ es, SessionMessages e.1 e.2) (repairing : Bool) :
    (∃ m, x = .panic m) ↔
      (∃ r ∈ recipients, sender.LacksPniKey r.includePniSignature) ∨ Alarmed X repairing es := by
  induction recipients generalizing es x repairing with
  | nil =>
      obtain ⟨rfl, rfl⟩ := trace_done.mp trace
      simp [Alarmed]
  | cons r recipients ih =>
      rcases trace_attempt_bind trace with
        ⟨m, send, rfl⟩ | ⟨result, es₁, es₂, rfl, send, rest⟩
      · refine iff_of_true ⟨m, rfl⟩ ?_
        rcases (trySendMessage_panic_iff send allowed repairing).mp ⟨m, rfl⟩ with lacks | alarmed
        · exact .inl ⟨r, List.mem_cons_self, lacks⟩
        · exact .inr alarmed
      · have returned : ¬ ∃ m, Exit.ofExcept result = .panic m := by
          rintro ⟨m, panics⟩
          cases result <;> cases panics
        rw [trySendMessage_panic_iff send
          (fun e member => allowed e (List.mem_append_left _ member)) repairing,
          not_or] at returned
        have others {y : Exit MessageSenderError (List (Except MessageSenderError SentMessage))}
            (trace : Trace (sender.sendToEach X body timestamp online recipients) es₂ y) :
            (∃ m, y = .panic m) ↔ (∃ r' ∈ r :: recipients,
              sender.LacksPniKey r'.includePniSignature) ∨ Alarmed X repairing (es₁ ++ es₂) := by
          have lacks : (∃ r' ∈ r :: recipients, sender.LacksPniKey r'.includePniSignature) ↔
              ∃ r' ∈ recipients, sender.LacksPniKey r'.includePniSignature := by
            simp [returned.1]
          rw [alarmed_append, or_iff_right returned.2, lacks]
          exact ih trace (fun e member => allowed e (List.mem_append_right _ member)) _
        rcases trace_bind.mp rest with
          ⟨e, failed, rfl⟩ | ⟨m, failed, rfl⟩ | ⟨results, es₃, es₄, rfl, made, last⟩
        · rw [← others failed]
        · rw [← others failed]
        · obtain ⟨rfl, rfl⟩ := trace_done.mp last
          rw [List.append_nil] at others ⊢
          rw [← others made]
          simp

/-! ## The transcript -/

/-- The part of `send_message_to_group` after the sends. -/
def syncGroup (X : Externals) (sender : MessageSender) (body : ContentBody) (timestamp : Nat)
    (results : List (Except MessageSenderError SentMessage)) :
    Async MessageSenderError (List (Except MessageSenderError SentMessage)) := do
  if ← sender.groupNeedsSync results then
    match ← createMultiDeviceSentTranscriptContent X none body timestamp results with
    | some transcript =>
        let _ ← ((sender.trySendMessage X (.aci sender.localAci) none transcript timestamp false
          false).attempt : Async MessageSenderError _)
        return results
    | none => return results
  else
    return results

theorem sendMessageToGroup_eq (recipients : List GroupRecipient) :
    sender.sendMessageToGroup X recipients body timestamp online =
      (sender.sendToEach X body timestamp online recipients).bind
        (syncGroup X sender body timestamp) := rfl

theorem groupNeedsSync_trace {results : List (Except MessageSenderError SentMessage)}
    {es : List CallEvent} {x : Exit MessageSenderError Bool}
    (trace : Trace (sender.groupNeedsSync results) es x) :
    ∃ needed, x = .ret needed ∧
      ∀ e ∈ es, e.1 = .getSubDeviceSessions (.aci sender.localAci) := by
  unfold groupNeedsSync isMultiDevice at trace
  split at trace
  · obtain ⟨rfl, rfl⟩ := trace_done.mp trace
    exact ⟨true, rfl, by simp⟩
  · split at trace
    · obtain ⟨answer, rest, rfl, last⟩ := trace_call.mp trace
      obtain ⟨rfl, rfl⟩ := trace_done.mp last
      exact ⟨_, rfl, by simp⟩
    · obtain ⟨rfl, rfl⟩ := trace_done.mp trace
      exact ⟨true, rfl, by simp⟩

theorem transcript_trace {recipient : Option ServiceId}
    {results : List (Except MessageSenderError SentMessage)} {es : List CallEvent}
    {x : Exit MessageSenderError (Option ContentBody)}
    (trace : Trace (createMultiDeviceSentTranscriptContent X recipient body timestamp results)
      es x) :
    ∃ transcript, x = .ret transcript ∧
      ((es = [] ∧ transcript = none) ∨ ∃ (padding : Bytes) (sent : Sent),
        es = [⟨.syncMessagePadding, padding⟩] ∧
        transcript = some (.synchronizeMessage ⟨some (.sent sent), some padding⟩) ∧
        sent.unidentifiedStatus =
          (results.filterMap Except.toOption).map (deliveryStatus X)) := by
  unfold createMultiDeviceSentTranscriptContent at trace
  split at trace
  · obtain ⟨rfl, rfl⟩ := trace_done.mp trace
    exact ⟨none, rfl, .inl ⟨rfl, rfl⟩⟩
  · obtain ⟨padding, rest, rfl, last⟩ := trace_call.mp trace
    obtain ⟨rfl, rfl⟩ := trace_done.mp last
    exact ⟨_, rfl, .inr ⟨padding, _, rfl, rfl, rfl⟩⟩

/-- The calls after the sends: some that submit nothing, and where there is a transcript
    the send of it. -/
theorem syncGroup_trace {results : List (Except MessageSenderError SentMessage)}
    {es : List CallEvent}
    {x : Exit MessageSenderError (List (Except MessageSenderError SentMessage))}
    (trace : Trace (syncGroup X sender body timestamp results) es x) :
    ∃ before after, es = before ++ after ∧
      (∀ e ∈ before, e.1 = .getSubDeviceSessions (.aci sender.localAci) ∨
        e.1 = .syncMessagePadding) ∧
      ((after = [] ∧ x = .ret results) ∨ ∃ (padding : Bytes) (sent : Sent) (y : Exit _ SentMessage),
        Trace (sender.trySendMessage X (.aci sender.localAci) none
          (.synchronizeMessage ⟨some (.sent sent), some padding⟩) timestamp false false) after y ∧
        sent.unidentifiedStatus = (results.filterMap Except.toOption).map (deliveryStatus X) ∧
        ((∃ m, y = .panic m ∧ x = .panic m) ∨ ((∀ m, y ≠ .panic m) ∧ x = .ret results))) := by
  obtain ⟨needed, es₁, es₂, rfl, only, rest⟩ :=
    trace_bind_returned (fun _ _ => groupNeedsSync_trace) trace
  cases needed with
  | false =>
      obtain ⟨rfl, rfl⟩ := trace_done.mp rest
      exact ⟨es₁, [], rfl, fun e member => .inl (only e member), .inl ⟨rfl, rfl⟩⟩
  | true =>
      obtain ⟨transcript, es₃, es₄, rfl, made, last⟩ :=
        trace_bind_returned (fun _ _ => transcript_trace) rest
      rcases made with ⟨rfl, rfl⟩ | ⟨padding, sent, rfl, rfl, statuses⟩
      · obtain ⟨rfl, rfl⟩ := trace_done.mp last
        exact ⟨es₁, [], rfl, fun e member => .inl (only e member), .inl ⟨rfl, rfl⟩⟩
      · refine ⟨es₁ ++ [⟨.syncMessagePadding, padding⟩], es₄, (List.append_assoc _ _ _).symm, ?_,
          .inr ?_⟩
        · intro e member
          rcases List.mem_append.mp member with member | member
          · exact .inl (only e member)
          · cases List.mem_singleton.mp member
            exact .inr rfl
        · rcases trace_attempt_bind last with
            ⟨m, submitted, rfl⟩ | ⟨result, es₅, es₆, rfl, submitted, done⟩
          · exact ⟨padding, sent, _, submitted, statuses, .inl ⟨m, rfl, rfl⟩⟩
          · obtain ⟨rfl, rfl⟩ := trace_done.mp done
            rw [List.append_nil]
            refine ⟨padding, sent, _, submitted, statuses, .inr ⟨?_, rfl⟩⟩
            intro m panics
            cases result <;> cases panics

theorem syncGroup_panic_iff {results : List (Except MessageSenderError SentMessage)}
    {es : List CallEvent}
    {x : Exit MessageSenderError (List (Except MessageSenderError SentMessage))}
    (trace : Trace (syncGroup X sender body timestamp results) es x)
    (allowed : ∀ e ∈ es, SessionMessages e.1 e.2) (repairing : Bool) :
    (∃ m, x = .panic m) ↔ Alarmed X repairing es := by
  obtain ⟨before, after, rfl, quiet, sync⟩ := syncGroup_trace trace
  have calm (repairing : Bool) : ¬ Alarmed X repairing before := by
    clear trace allowed
    induction before generalizing repairing with
    | nil => exact id
    | cons e before ih =>
        obtain ⟨c, answer⟩ := e
        rintro (alarm | alarmed)
        · rcases quiet _ List.mem_cons_self with same | same
          · cases same
            exact alarm
          · cases same
            exact alarm
        · exact ih (fun e member => quiet e (List.mem_cons_of_mem _ member)) _ alarmed
  rw [alarmed_append, or_iff_right (calm repairing)]
  rcases sync with ⟨rfl, rfl⟩ | ⟨padding, sent, y, submitted, -, ended⟩
  · simp [Alarmed]
  · have keyed : ¬ sender.LacksPniKey false := by simp [LacksPniKey]
    have exactly := trySendMessage_panic_iff submitted
      (fun e member => allowed e (List.mem_append_right _ member))
      (before.foldl (fun phase e => repairingAfter phase e.1) repairing)
    rw [or_iff_right keyed] at exactly
    rw [← exactly]
    rcases ended with ⟨m, rfl, rfl⟩ | ⟨calm, rfl⟩
    · simp
    · simpa using calm

theorem syncGroup_syncsOnce {deliveries : List Delivery}
    (sends : ∀ d ∈ deliveries, d.IsSend X sender body timestamp online) {es : List CallEvent}
    {x : Exit MessageSenderError (List (Except MessageSenderError SentMessage))}
    (trace : Trace (syncGroup X sender body timestamp (deliveries.map (·.result))) es x) :
    SyncsOnce X sender timestamp deliveries es := by
  obtain ⟨before, after, rfl, calls, sync⟩ := syncGroup_trace trace
  have quiet : ∀ e ∈ before, ¬ e.1.IsPut := by
    intro e member
    rcases calls e member with same | same
    · rw [same]
      exact id
    · rw [same]
      exact id
  have batches : submissions X (before ++ after) =
      submissionsFrom X (identityAfter none before) after := by
    unfold submissions
    rw [submissionsFrom_append, submissionsFrom_quiet X quiet, List.nil_append]
  rcases sync with ⟨rfl, -⟩ | ⟨padding, sent, y, submitted, statuses, -⟩
  · have none : submissions X (before ++ []) = [] := batches
    refine ⟨?_, ?_, .inl none⟩
    · rw [none]
      exact List.forall_mem_nil _
    · rw [none]
      exact Nat.zero_le _
  · have settles := trySendMessage_settles submitted (identityAfter none before)
    rw [← batches] at settles
    refine ⟨settles.addressed, settles.length_accepted_le,
      .inr ⟨before, after, sent, padding, y, rfl, quiet, submitted, ?_⟩⟩
    rw [statuses]
    exact deliveries_told sends

/-! ## The whole group send -/

theorem sendMessageToGroup_panic_iff {recipients : List GroupRecipient} {es : List CallEvent}
    {x : Exit MessageSenderError (List (Except MessageSenderError SentMessage))}
    (trace : Trace (sender.sendMessageToGroup X recipients body timestamp online) es x)
    (allowed : ∀ e ∈ es, SessionMessages e.1 e.2) (repairing : Bool) :
    (∃ m, x = .panic m) ↔
      (∃ r ∈ recipients, sender.LacksPniKey r.includePniSignature) ∨ Alarmed X repairing es := by
  rw [sendMessageToGroup_eq] at trace
  rcases trace_bind.mp trace with
    ⟨e, failed, rfl⟩ | ⟨m, failed, rfl⟩ | ⟨results, es₁, es₂, rfl, sent, rest⟩
  · rw [← sendToEach_panic_iff failed allowed repairing]
  · rw [← sendToEach_panic_iff failed allowed repairing]
  · have calm : ¬ ((∃ r ∈ recipients, sender.LacksPniKey r.includePniSignature) ∨
        Alarmed X repairing es₁) := by
      rw [← sendToEach_panic_iff sent
        (fun e member => allowed e (List.mem_append_left _ member)) repairing]
      simp
    rw [not_or] at calm
    rw [alarmed_append, or_iff_right calm.1, or_iff_right calm.2]
    exact syncGroup_panic_iff rest (fun e member => allowed e (List.mem_append_right _ member)) _

/-- A group send that does not panic reports its sends. -/
theorem sendMessageToGroup_reports {recipients : List GroupRecipient} {es : List CallEvent}
    {x : Exit MessageSenderError (List (Except MessageSenderError SentMessage))}
    (trace : Trace (sender.sendMessageToGroup X recipients body timestamp online) es x)
    (returned : ¬ ∃ m, x = .panic m) :
    Reports X sender body timestamp online recipients x es := by
  rw [sendMessageToGroup_eq] at trace
  rcases trace_bind.mp trace with
    ⟨e, failed, rfl⟩ | ⟨m, failed, rfl⟩ | ⟨results, es₁, es₂, rfl, sent, rest⟩
  · rcases sendToEach_deliveries failed with ⟨m, ended⟩ | ⟨deliveries, -, -, -, ended⟩
    · cases ended
    · cases ended
  · exact absurd ⟨m, rfl⟩ returned
  · rcases sendToEach_deliveries sent with ⟨m, ended⟩ | ⟨deliveries, rfl, sends, rfl, ended⟩
    · cases ended
    cases ended
    refine ⟨deliveries, es₂, rfl, ?_, rfl, ?_, syncGroup_syncsOnce sends rest⟩
    · obtain ⟨before, after, -, -, ⟨-, ended⟩ | ⟨padding, sent, y, -, -, ended⟩⟩ :=
        syncGroup_trace rest
      · exact ended
      · rcases ended with ⟨m, -, panics⟩ | ⟨-, ended⟩
        · exact absurd ⟨m, panics⟩ returned
        · exact ended
    · intro d member
      exact ⟨sends d member, (sends d member).settles⟩

end Group

section Runs

variable {σ : Type} (h : Env σ) (s : σ) (recipients : List GroupRecipient) (body : ContentBody)
  (timestamp : Nat) (online : Bool)

/-- One call of `send_message_to_group`, as run. -/
abbrev groupSend (X : Externals) (sender : MessageSender) :=
  (sender.sendMessageToGroup X recipients body timestamp online).run h s

theorem groupSend_sessionMessages {h : Env σ} (sessions : ∀ c t, SessionMessages c (h c t).1) :
    ∀ e ∈ (groupSend h s recipients body timestamp online X sender).log,
      SessionMessages e.1 e.2 := by
  intro e member
  obtain ⟨t, same⟩ := run_answers h _ s e member
  rw [same]
  exact sessions e.1 t

/-- Where libsignal encrypts to messages of a session, a group send returns what the sends to
    its recipients returned, and tells it to our own devices, exactly when every answer of
    the server can be read and no signature lacks its key. -/
theorem sendMessageToGroup_reports_iff (sessions : ∀ c t, SessionMessages c (h c t).1) :
    Reports X sender body timestamp online recipients
        (groupSend h s recipients body timestamp online X sender).exit
        (groupSend h s recipients body timestamp online X sender).log ↔
      (∀ r ∈ recipients, r.includePniSignature = true → sender.pniIdentity ≠ none) ∧
        ¬ Alarmed X false (groupSend h s recipients body timestamp online X sender).log := by
  have trace := run_trace h (sender.sendMessageToGroup X recipients body timestamp online) s
  have lacks : (∀ r ∈ recipients, r.includePniSignature = true → sender.pniIdentity ≠ none) ↔
      ¬ ∃ r ∈ recipients, sender.LacksPniKey r.includePniSignature := by
    simp [LacksPniKey]
  rw [lacks, ← not_or, ← sendMessageToGroup_panic_iff trace
    (groupSend_sessionMessages s recipients body timestamp online sessions)]
  constructor
  · rintro ⟨deliveries, rest, -, ended, -⟩ ⟨m, panics⟩
    rw [panics] at ended
    cases ended
  · exact sendMessageToGroup_reports trace

end Runs

section Examples

open Reference

def oneMember : List GroupRecipient := [⟨.aci remoteAci, none, false⟩]

/-- The server asks for more patience than a duration can hold. -/
def overlong : Except ServiceError WebSocketResponseMessage :=
  .ok { status := some 429, headers := ["retry-after: 9223372036854775807"] }

/-- The batch of the only member is answered with 429, and no result is returned. -/
theorem group_send_panics_on_retry_after :
    ¬ Reports reference primary (.dataMessage ⟨none, []⟩) 0 false oneMember
      (groupSend scripted [overlong] oneMember (.dataMessage ⟨none, []⟩) 0 false reference
        primary).exit
      (groupSend scripted [overlong] oneMember (.dataMessage ⟨none, []⟩) 0 false reference
        primary).log := by
  have panics : (groupSend scripted [overlong] oneMember (.dataMessage ⟨none, []⟩) 0 false
      reference primary).exit = .panic "TimeDelta::seconds out of bounds" := by
    decide +kernel
  rintro ⟨deliveries, rest, -, ended, -⟩
  rw [panics] at ended
  cases ended

theorem scripted_sessionMessages (c : Call) (script : Script) :
    SessionMessages c (scripted c script).1 := by
  cases c with
  | messageEncrypt => exact .inl rfl
  | _ => trivial

/-- The member's batch and the transcript are both accepted. -/
theorem group_send_reported :
    (∀ c t, SessionMessages c (scripted c t).1) ∧
      Reports reference primary (.dataMessage ⟨none, []⟩) 0 false oneMember
        (groupSend scripted [accepted, accepted] oneMember (.dataMessage ⟨none, []⟩) 0 false
          reference primary).exit
        (groupSend scripted [accepted, accepted] oneMember (.dataMessage ⟨none, []⟩) 0 false
          reference primary).log := by
  refine ⟨scripted_sessionMessages, ?_⟩
  refine (sendMessageToGroup_reports_iff scripted _ _ _ _ _ scripted_sessionMessages).mpr
    ⟨by simp [oneMember], fun alarmed => ?_⟩
  have returns : (groupSend scripted [accepted, accepted] oneMember (.dataMessage ⟨none, []⟩) 0
      false reference primary).exit =
        .ret [.ok ⟨.aci remoteAci, ⟨5 :: List.replicate 32 1⟩, false, false⟩] := by
    decide +kernel
  obtain ⟨m, panics⟩ := (sendMessageToGroup_panic_iff
    (run_trace scripted (primary.sendMessageToGroup reference oneMember (.dataMessage ⟨none, []⟩)
      0 false) [accepted, accepted])
    (groupSend_sessionMessages _ _ _ _ _ scripted_sessionMessages) false).mpr (.inr alarmed)
  rw [returns] at panics
  cases panics

end Examples

end MessageSender

end SignalService

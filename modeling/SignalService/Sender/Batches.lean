import SignalService.Sender.Send

/-! # What a send submits

The batches of a send are read off the calls it made. A send submits to its recipient
only; the server accepts at most one of its batches, and the send returns exactly when
it accepts one, with the message of that batch.
-/

namespace SignalService

open Effect Prog

variable (X : Externals)

/-- A batch as it was submitted: with the identity last read before it, and with what
    the answer said. -/
structure Submission where
  accessKey : Option Bytes
  batch : OutgoingPushMessages
  identity : Option IdentityKey
  outcome : Exit ServiceError SendMessageResponse

namespace Submission

def Accepted (b : Submission) : Prop := b.outcome.IsRet

instance (b : Submission) : Decidable b.Accepted := by
  unfold Accepted
  cases b.outcome <;> simp only [Exit.isRet_ret, Exit.isRet_throw, Exit.isRet_panic] <;>
    infer_instance

/-- The `SentMessage` that stands for an accepted batch. -/
def sentMessage (b : Submission) : Option SentMessage :=
  match b.outcome, b.identity with
  | .ret response, some identity =>
      some ⟨b.batch.destination, identity, b.accessKey.isSome, response.needsSync⟩
  | _, _ => none

theorem accepted_of_sentMessage {b : Submission} {sent : SentMessage}
    (message : b.sentMessage = some sent) : b.Accepted := by
  cases outcome : b.outcome with
  | ret response => simp [Accepted, outcome]
  | throw e => simp [sentMessage, outcome] at message
  | panic m => simp [sentMessage, outcome] at message

theorem recipient_of_sentMessage {b : Submission} {sent : SentMessage}
    (message : b.sentMessage = some sent) : sent.recipient = b.batch.destination := by
  unfold sentMessage at message
  split at message
  · cases message
    rfl
  · cases message

/-- A message says over which channel its batch went. -/
theorem unidentified_of_sentMessage {b : Submission} {sent : SentMessage}
    (message : b.sentMessage = some sent) : sent.unidentified = b.accessKey.isSome := by
  unfold sentMessage at message
  split at message
  · cases message
    rfl
  · cases message

end Submission

/-- The identity that is known after some more calls. -/
def identityAfter (identity : Option IdentityKey) : List CallEvent → Option IdentityKey
  | [] => identity
  | ⟨.getIdentity _, .ok found⟩ :: log => identityAfter found log
  | _ :: log => identityAfter identity log

/-- The batches submitted in a log. -/
def submissionsFrom (identity : Option IdentityKey) : List CallEvent → List Submission
  | [] => []
  | ⟨.putMessages accessKey batch, answer⟩ :: log =>
      ⟨accessKey, batch, identity, readPutMessages X answer⟩ :: submissionsFrom identity log
  | e :: log => submissionsFrom (identityAfter identity [e]) log

def submissions (log : List CallEvent) : List Submission := submissionsFrom X none log

def Call.IsPut : Call → Prop
  | .putMessages _ _ => True
  | _ => False

theorem Call.IsPut.eq {c : Call} (put : c.IsPut) :
    ∃ accessKey batch, c = .putMessages accessKey batch := by
  cases c with
  | putMessages accessKey batch => exact ⟨accessKey, batch, rfl⟩
  | _ => cases put

theorem submissionsFrom_cons_of_not_put {e : CallEvent} (quiet : ¬ e.1.IsPut)
    (identity : Option IdentityKey) (log : List CallEvent) :
    submissionsFrom X identity (e :: log) =
      submissionsFrom X (identityAfter identity [e]) log := by
  obtain ⟨c, answer⟩ := e
  cases c with
  | putMessages accessKey batch => exact absurd trivial quiet
  | _ => rfl

theorem identityAfter_cons (identity : Option IdentityKey) (e : CallEvent)
    (log : List CallEvent) :
    identityAfter identity (e :: log) = identityAfter (identityAfter identity [e]) log := by
  obtain ⟨c, answer⟩ := e
  cases c with
  | getIdentity address => cases answer <;> rfl
  | _ => rfl

theorem identityAfter_append (identity : Option IdentityKey) (log log' : List CallEvent) :
    identityAfter identity (log ++ log') = identityAfter (identityAfter identity log) log' := by
  induction log generalizing identity with
  | nil => rfl
  | cons e log ih =>
      rw [List.cons_append, identityAfter_cons, ih, ← identityAfter_cons]

theorem submissionsFrom_append (identity : Option IdentityKey) (log log' : List CallEvent) :
    submissionsFrom X identity (log ++ log') =
      submissionsFrom X identity log ++ submissionsFrom X (identityAfter identity log) log' := by
  induction log generalizing identity with
  | nil => rfl
  | cons e log ih =>
      by_cases put : e.1.IsPut
      · obtain ⟨c, answer⟩ := e
        obtain ⟨accessKey, batch, rfl⟩ := put.eq
        simp only [List.cons_append, submissionsFrom, ih]
        rfl
      · rw [List.cons_append, submissionsFrom_cons_of_not_put X put,
          submissionsFrom_cons_of_not_put X put, ih, ← identityAfter_cons]

/-- A log has no batch exactly when none of its calls submits one. -/
theorem submissionsFrom_eq_nil_iff {log : List CallEvent} (identity : Option IdentityKey) :
    submissionsFrom X identity log = [] ↔ ∀ e ∈ log, ¬ e.1.IsPut := by
  induction log generalizing identity with
  | nil => simp [submissionsFrom]
  | cons e log ih =>
      by_cases put : e.1.IsPut
      · obtain ⟨c, answer⟩ := e
        obtain ⟨accessKey, batch, rfl⟩ := put.eq
        refine iff_of_false (List.cons_ne_nil _ _) fun quiet => ?_
        exact quiet _ List.mem_cons_self trivial
      · rw [submissionsFrom_cons_of_not_put X put, ih, List.forall_mem_cons]
        exact (and_iff_right put).symm

/-- A log in which some batch was submitted. -/
def Submits (log : List CallEvent) : Prop := ∃ e ∈ log, e.1.IsPut

theorem submissionsFrom_ne_nil {log : List CallEvent} (submits : Submits log)
    (identity : Option IdentityKey) : submissionsFrom X identity log ≠ [] := by
  obtain ⟨e, member, put⟩ := submits
  intro none
  exact (submissionsFrom_eq_nil_iff X identity).mp none e member put

theorem submissionsFrom_of_not_submits {log : List CallEvent} (quiet : ¬ Submits log)
    (identity : Option IdentityKey) : submissionsFrom X identity log = [] := by
  rw [submissionsFrom_eq_nil_iff]
  intro e member put
  exact quiet ⟨e, member, put⟩

theorem submissionsFrom_quiet {log : List CallEvent} (quiet : ∀ e ∈ log, ¬ e.1.IsPut)
    (identity : Option IdentityKey) : submissionsFrom X identity log = [] :=
  (submissionsFrom_eq_nil_iff X identity).mpr quiet

/-! ## The calls of a send -/

namespace MessageSender

variable (sender : MessageSender)

/-- The calls made while messages for `recipient` are encrypted and its sessions
    repaired. Only a deletion may be for another address: the one that an error of
    libsignal names, which is known to satisfy `D`. -/
inductive Serves (D : ProtocolAddress → Prop) (recipient : ServiceId) : Call → Prop where
  | loadSession (device : DeviceId) :
      Serves D recipient (.loadSession (X.protocolAddress recipient device))
  | getSubDeviceSessions : Serves D recipient (.getSubDeviceSessions recipient)
  | deleteSession (address : ProtocolAddress) (known : D address) :
      Serves D recipient (.deleteSession address)
  | getIdentity : Serves D recipient (.getIdentity (X.protocolAddress recipient defaultDeviceId))
  | hasUsableSenderChain (record : SessionRecord) : Serves D recipient (.hasUsableSenderChain record)
  | processPrekeyBundle (device : DeviceId) (bundle : PreKeyBundle) :
      Serves D recipient (.processPrekeyBundle (X.protocolAddress recipient device)
        (sender.localProtocolAddress X) bundle)
  | messageEncrypt (plaintext : Bytes) (device : DeviceId) :
      Serves D recipient (.messageEncrypt plaintext (X.protocolAddress recipient device)
        sender.cipher.localAddress)
  | sealedSenderEncrypt (device : DeviceId) (certificate : SenderCertificate)
      (plaintext : Bytes) :
      Serves D recipient (.sealedSenderEncrypt (X.protocolAddress recipient device) certificate
        plaintext)
  | getKeys (target : PreKeyTarget) : Serves D recipient (.getKeys recipient target)
  | iterate (devices : List DeviceId) : Serves D recipient (.iterate devices)

/-- An error that says which session was not found names one that satisfies `D`. -/
def Names (D : ProtocolAddress → Prop) (e : MessageSenderError) : Prop :=
  ∀ address op,
    e = .serviceError (.signalProtocolError (.sessionNotFound (some address) op)) → D address

variable {X sender} {A : (c : Call) → Answer c → Prop} {D : ProtocolAddress → Prop}

theorem Serves.not_put {recipient : ServiceId} {c : Call} (serves : sender.Serves X D recipient c) :
    ¬ c.IsPut := by
  cases serves <;> exact id

theorem encryptPadded_serves {recipient : ServiceId} {device : DeviceId}
    {certificate : Option SenderCertificate} {record : SessionRecord} {padded : Bytes} :
    CallsWhen A (sender.Serves X D recipient) (encryptPadded X sender.cipher
      (X.protocolAddress recipient device) certificate record padded) := by
  cases certificate with
  | none =>
      refine .bind (.mapErr _ ⟨.messageEncrypt _ _, fun _ _ => trivial⟩) fun _ => ?_
      refine .bind (.mapErr _ trivial) fun _ => ?_
      exact .bind trivial fun _ => trivial
  | some certificate =>
      refine .bind (.mapErr _ trivial) fun _ => ?_
      exact .bind (.mapErr _ ⟨.sealedSenderEncrypt _ _ _, fun _ _ => trivial⟩) fun _ => trivial

theorem encrypt_serves {recipient : ServiceId} {device : DeviceId}
    {certificate : Option SenderCertificate} {content : OutgoingContent} :
    CallsWhen A (sender.Serves X D recipient) (encrypt X sender.cipher
      (X.protocolAddress recipient device) certificate content) := by
  refine .bind (.mapErr _ ⟨.loadSession _, fun _ _ => trivial⟩) fun _ => ?_
  refine .bind trivial fun record => ?_
  cases content with
  | plaintext serialized => exact .bind (.mapErr _ trivial) fun _ => trivial
  | encrypted content =>
      refine .bind ⟨.hasUsableSenderChain _, fun _ _ => trivial⟩ fun usable => ?_
      cases usable with
      | false => trivial
      | true =>
          refine .bind (.mapErr _ trivial) fun _ => ?_
          exact .bind trivial fun _ => encryptPadded_serves

theorem fetchPreKeys_serves {recipient : ServiceId} {device : DeviceId} :
    CallsWhen A (sender.Serves X D recipient) (fetchPreKeys X recipient device) := by
  refine .bind (.attempt ⟨.getKeys _, fun _ _ => trivial⟩) fun fetched => ?_
  cases fetched with
  | ok bundles => trivial
  | error e => cases e <;> trivial

theorem establishSessions_serves {recipient : ServiceId} (bundles : List PreKeyBundle) :
    CallsWhen A (sender.Serves X D recipient) (sender.establishSessions X recipient bundles) := by
  induction bundles with
  | nil => trivial
  | cons bundle bundles ih =>
      unfold establishSessions
      split
      · exact ih
      · refine ⟨.loadSession _, fun answer _ => ?_⟩
        cases answer with
        | error e => trivial
        | ok session =>
            have processed : CallsWhen A (sender.Serves X D recipient)
                ((sender.processPrekeyBundle X (X.protocolAddress recipient bundle.deviceId)
                  bundle).mapErr MessageSenderError.protocolError) :=
              .mapErr _ ⟨.processPrekeyBundle _ _, fun _ _ => trivial⟩
            exact processed.bind fun _ => ih

theorem createEncryptedMessage_serves {recipient : ServiceId}
    {certificate : Option SenderCertificate} {device : DeviceId} {content : OutgoingContent} :
    CallsWhen A (sender.Serves X D recipient)
      (sender.createEncryptedMessage X recipient certificate device content) := by
  refine .bind (.mapErr _ ⟨.loadSession _, fun _ _ => trivial⟩) fun session => ?_
  have encrypted : CallsWhen A (sender.Serves X D recipient)
      ((encrypt X sender.cipher (X.protocolAddress recipient device) certificate content).mapErr
        MessageSenderError.serviceError) := .mapErr _ encrypt_serves
  cases session with
  | some record => exact encrypted
  | none =>
      refine .bind fetchPreKeys_serves fun bundles => ?_
      exact .bind (establishSessions_serves bundles) fun _ => encrypted

section Named

variable {recipient : ServiceId} {certificate : Option SenderCertificate}
  {content : OutgoingContent}
  (named : ∀ device, ThrowsWhen A (Names D)
    (sender.createEncryptedMessage X recipient certificate device content))

include named

theorem encryptForDevice_serves {device : DeviceId} (attempts : Nat) :
    CallsWhen A (sender.Serves X D recipient)
      (sender.encryptForDevice X recipient certificate content device attempts) := by
  induction attempts with
  | zero => trivial
  | succ attempts ih =>
      refine .attempt_bind createEncryptedMessage_serves (named device) (fun _ => trivial)
        fun e known => ?_
      split
      · trivial
      · next failed =>
          cases failed
          refine .bind (.attempt ⟨.deleteSession _ (known _ _ rfl), fun _ _ => trivial⟩)
            fun deleted => ?_
          cases deleted with
          | ok => exact ih
          | error e => trivial
      · trivial

theorem encryptForDevices_serves (devices : List DeviceId) :
    CallsWhen A (sender.Serves X D recipient)
      (sender.encryptForDevices X recipient certificate content devices) := by
  induction devices with
  | nil => trivial
  | cons device devices ih =>
      exact .bind (encryptForDevice_serves named 2) fun _ => .bind ih fun _ => trivial

theorem createEncryptedMessages_serves :
    CallsWhen A (sender.Serves X D recipient)
      (sender.createEncryptedMessages X recipient certificate content) := by
  refine .bind (.mapErr _ ⟨.getSubDeviceSessions, fun _ _ => trivial⟩) fun subDevices => ?_
  refine .bind ⟨.iterate _, fun _ _ => trivial⟩ fun order => ?_
  refine .bind (encryptForDevices_serves named _) fun messages => ?_
  split
  · trivial
  · refine .bind ?_ fun _ => trivial
    exact .bind (.mapErr _ ⟨.getIdentity, fun _ _ => trivial⟩) fun _ => trivial

end Named

/-- Whatever the answers, and so whatever address an error names. -/
theorem createEncryptedMessages_calls {recipient : ServiceId}
    {certificate : Option SenderCertificate} {content : OutgoingContent} :
    Calls (sender.Serves X (fun _ => True) recipient)
      (sender.createEncryptedMessages X recipient certificate content) :=
  createEncryptedMessages_serves fun _ => throwsWhen_of_forall (fun _ _ _ _ => trivial) _

section Ours

variable {recipient : ServiceId} (ours : ∀ device, D (X.protocolAddress recipient device))

include ours

theorem dropSessions_serves (devices : List DeviceId) :
    CallsWhen A (sender.Serves X D recipient) (dropSessions X recipient devices) := by
  induction devices with
  | nil => trivial
  | cons device devices ih =>
      refine .bind (.mapErr _ ?_) fun _ => ih
      refine .bind (.attempt ⟨.deleteSession _ (ours device), fun _ _ => trivial⟩) fun deleted => ?_
      split <;> trivial

omit ours in
theorem createSessions_serves (devices : List DeviceId) :
    CallsWhen A (sender.Serves X D recipient) (sender.createSessions X recipient devices) := by
  induction devices with
  | nil => trivial
  | cons device devices ih =>
      refine .bind (.mapErr _ ⟨.getKeys _, fun _ _ => trivial⟩) fun bundle => ?_
      exact .bind (.mapErr _ ⟨.processPrekeyBundle _ _, fun _ _ => trivial⟩) fun _ => ih

theorem repair_serves {access : Option UnidentifiedAccess}
    (e : ServiceError) :
    CallsWhen A (sender.Serves X D recipient) (sender.repair X recipient access e) := by
  cases e with
  | mismatchedDevicesException devices =>
      exact .bind (dropSessions_serves ours _) fun _ =>
        .bind (createSessions_serves _) fun _ => trivial
  | staleDevices devices => exact .bind (dropSessions_serves ours _) fun _ => trivial
  | unauthorized => cases access <;> trivial
  | _ => trivial

end Ours

/-! ## The batch of one attempt -/

theorem usedIdentityKey_trace {recipient : ServiceId} {es : List CallEvent} {key : IdentityKey}
    (trace : Trace (usedIdentityKey X recipient) es (.ret key)) (identity : Option IdentityKey) :
    identityAfter identity es = some key := by
  obtain ⟨answer, es', rfl, rest⟩ := trace_call.mp trace
  cases answer with
  | error e =>
      obtain ⟨-, ended⟩ := trace_done.mp rest
      cases ended
  | ok found =>
      cases found with
      | none =>
          obtain ⟨-, ended⟩ := trace_done.mp rest
          cases ended
      | some key' =>
          obtain ⟨rfl, ended⟩ := trace_done.mp rest
          cases ended
          rfl

/-- Encrypted messages come with the identity that was read last. -/
theorem createEncryptedMessages_identity {recipient : ServiceId}
    {certificate : Option SenderCertificate} {content : OutgoingContent} {es : List CallEvent}
    {encrypted : EncryptedMessages}
    (trace : Trace (sender.createEncryptedMessages X recipient certificate content) es
      (.ret (some encrypted)))
    (identity : Option IdentityKey) :
    identityAfter identity es = some encrypted.usedIdentityKey := by
  rcases trace_bind.mp trace with ⟨e, -, ended⟩ | ⟨m, -, ended⟩ | ⟨subDevices, es₁, es₂, rfl, -, asked⟩
  · cases ended
  · cases ended
  rcases trace_bind.mp asked with ⟨e, -, ended⟩ | ⟨m, -, ended⟩ | ⟨order, es₃, es₄, rfl, -, ordered⟩
  · cases ended
  · cases ended
  rcases trace_bind.mp ordered with
    ⟨e, -, ended⟩ | ⟨m, -, ended⟩ | ⟨messages, es₅, es₆, rfl, -, encoded⟩
  · cases ended
  · cases ended
  split at encoded
  · obtain ⟨-, ended⟩ := trace_done.mp encoded
    cases ended
  · rcases trace_bind.mp encoded with
      ⟨e, -, ended⟩ | ⟨m, -, ended⟩ | ⟨key, es₇, es₈, rfl, read, last⟩
    · cases ended
    · cases ended
    obtain ⟨rfl, ended⟩ := trace_done.mp last
    cases ended
    simp only [identityAfter_append, List.append_nil, usedIdentityKey_trace read]

theorem submit_trace {access : Option UnidentifiedAccess} {messages : OutgoingPushMessages}
    {es : List CallEvent} {x : Exit ServiceError SendMessageResponse}
    (trace : Trace (submit X access messages) es x) :
    ∃ answer, es = [⟨.putMessages (access.map (·.key)) messages, answer⟩] ∧
      x = readPutMessages X answer := by
  cases access with
  | none =>
      obtain ⟨answer, es', rfl, rest⟩ := trace_call.mp trace
      obtain ⟨rfl, ended⟩ := trace_done.mp rest
      exact ⟨answer, rfl, ended⟩
  | some access =>
      obtain ⟨answer, es', rfl, rest⟩ := trace_call.mp trace
      obtain ⟨rfl, ended⟩ := trace_done.mp rest
      exact ⟨answer, rfl, ended⟩

theorem serves_submissions {α ε : Type} {recipient : ServiceId} {p : Async ε α}
    (serves : Calls (sender.Serves X (fun _ => True) recipient) p) {es : List CallEvent} {x : Exit ε α}
    (trace : Trace p es x) (identity : Option IdentityKey) :
    submissionsFrom X identity es = [] :=
  submissionsFrom_quiet X (fun e member => (serves.trace trace e member).not_put) identity

/-- How the loop goes on after an answer: the error, the access it came for and the access
    of the next attempt. No other answer is followed by an attempt. -/
inductive Retries : ServiceError → Option UnidentifiedAccess → Option UnidentifiedAccess → Prop where
  | unauthorized (access : UnidentifiedAccess) : Retries .unauthorized (some access) none
  | mismatchedDevices (devices : MismatchedDevices) (access : Option UnidentifiedAccess) :
      Retries (.mismatchedDevicesException devices) access access
  | staleDevices (devices : StaleDevices) (access : Option UnidentifiedAccess) :
      Retries (.staleDevices devices) access access

theorem repair_retries {recipient : ServiceId} {access next : Option UnidentifiedAccess}
    {e : ServiceError} {es : List CallEvent}
    (trace : Trace (sender.repair X recipient access e) es (.ret next)) :
    Retries e access next := by
  cases e with
  | unauthorized =>
      cases access with
      | none =>
          obtain ⟨-, ended⟩ := trace_done.mp trace
          cases ended
      | some access =>
          obtain ⟨-, ended⟩ := trace_done.mp trace
          cases ended
          exact .unauthorized access
  | mismatchedDevicesException devices =>
      rcases trace_bind.mp trace with ⟨e, -, ended⟩ | ⟨m, -, ended⟩ | ⟨_, es₁, es₂, -, -, created⟩
      · cases ended
      · cases ended
      rcases trace_bind.mp created with ⟨e, -, ended⟩ | ⟨m, -, ended⟩ | ⟨_, es₃, es₄, -, -, last⟩
      · cases ended
      · cases ended
      obtain ⟨-, ended⟩ := trace_done.mp last
      cases ended
      exact .mismatchedDevices devices access
  | staleDevices devices =>
      rcases trace_bind.mp trace with ⟨e, -, ended⟩ | ⟨m, -, ended⟩ | ⟨_, es₁, es₂, -, -, last⟩
      · cases ended
      · cases ended
      obtain ⟨-, ended⟩ := trace_done.mp last
      cases ended
      exact .staleDevices devices access
  | _ =>
      obtain ⟨-, ended⟩ := trace_done.mp trace
      cases ended

/-- One attempt submits at most one batch, to the recipient and over the channel of its
    access. It ends the loop with a message exactly when that batch is accepted, and goes
    on only after the answers that `Retries` lists. -/
theorem sendAttempt_submissions {recipient : ServiceId} {content : OutgoingContent}
    {timestamp : Nat} {online : Bool} {access : Option UnidentifiedAccess} {es : List CallEvent}
    {x : Exit MessageSenderError (SentMessage ⊕ Option UnidentifiedAccess)}
    (trace : Trace (sender.sendAttempt X recipient content timestamp online access) es x)
    (identity : Option IdentityKey) :
    (submissionsFrom X identity es = [] ∧ ∀ a, x ≠ .ret a) ∨
    ∃ b, submissionsFrom X identity es = [b] ∧ b.batch.destination = recipient ∧
      b.accessKey = access.map (·.key) ∧
      ((∃ sent, b.Accepted ∧ b.sentMessage = some sent ∧ x = .ret (.inl sent)) ∨
        (¬ b.Accepted ∧ ∀ next, x = .ret next →
          ∃ e access', b.outcome = .throw e ∧ Retries e access access' ∧ next = .inr access')) := by
  rcases trace_bind.mp trace with
    ⟨e, failed, rfl⟩ | ⟨m, failed, rfl⟩ | ⟨encrypted, es₁, es₂, rfl, made, rest⟩
  · exact .inl ⟨serves_submissions createEncryptedMessages_calls failed identity,
      Exit.throw_ne_ret e⟩
  · exact .inl ⟨serves_submissions createEncryptedMessages_calls failed identity,
      Exit.panic_ne_ret m⟩
  have quiet := serves_submissions createEncryptedMessages_calls made identity
  cases encrypted with
  | none =>
      obtain ⟨rfl, rfl⟩ := trace_done.mp rest
      rw [List.append_nil]
      exact .inl ⟨quiet, Exit.throw_ne_ret _⟩
  | some encrypted =>
      have known := createEncryptedMessages_identity made identity
      rw [submissionsFrom_append, quiet, known, List.nil_append]
      right
      rcases trace_attempt_bind rest with
        ⟨m, submitted, rfl⟩ | ⟨result, es₃, es₄, rfl, submitted, last⟩
      · obtain ⟨answer, rfl, outcome⟩ := submit_trace submitted
        refine ⟨_, rfl, rfl, rfl, .inr ⟨?_, fun _ ended => absurd ended (Exit.panic_ne_ret m _)⟩⟩
        simp [Submission.Accepted, ← outcome]
      · obtain ⟨answer, rfl, outcome⟩ := submit_trace submitted
        cases result with
        | ok response =>
            obtain ⟨rfl, rfl⟩ := trace_done.mp last
            refine ⟨_, rfl, rfl, rfl, .inl ⟨_, ?_, ?_, rfl⟩⟩
            · simp [Submission.Accepted, ← outcome, Exit.ofExcept]
            · simp [Submission.sentMessage, ← outcome, Exit.ofExcept]
        | error e =>
            refine ⟨⟨access.map (·.key), ⟨recipient, timestamp, encrypted.messages, online⟩,
              some encrypted.usedIdentityKey, readPutMessages X answer⟩, ?_, rfl, rfl, .inr ⟨?_, ?_⟩⟩
            · have served : Calls (sender.Serves X (fun _ => True) recipient)
                  ((sender.repair X recipient access e).bind fun next =>
                    (pure (.inr next) : Async _ (SentMessage ⊕ Option UnidentifiedAccess))) :=
                (repair_serves (fun _ => trivial) e).bind fun _ => trivial
              have repaired : submissionsFrom X (some encrypted.usedIdentityKey) es₄ = [] :=
                serves_submissions served last _
              simp only [List.cons_append, List.nil_append, submissionsFrom, repaired]
            · simp [Submission.Accepted, ← outcome, Exit.ofExcept]
            · rintro next rfl
              rcases trace_bind.mp last with
                ⟨e, -, ended⟩ | ⟨m, -, ended⟩ | ⟨access', es₅, es₆, rfl, repaired, chosen⟩
              · cases ended
              · cases ended
              · obtain ⟨-, ended⟩ := trace_done.mp chosen
                cases ended
                exact ⟨e, access', outcome.symm, repair_retries repaired, rfl⟩

/-! ## The batches of a send -/

/-- The batches of a send and how it ends agree: they are addressed to the recipient, and
    one is accepted exactly when the send returns, with the message of that batch. -/
structure Settles (recipient : ServiceId) (batches : List Submission)
    (x : Exit MessageSenderError SentMessage) : Prop where
  addressed : ∀ b ∈ batches, b.batch.destination = recipient
  settled : (batches.filter (·.Accepted) = [] ∧ ∀ sent, x ≠ .ret sent) ∨
    ∃ b sent, batches.filter (·.Accepted) = [b] ∧ b.sentMessage = some sent ∧ x = .ret sent

theorem Settles.none {recipient : ServiceId} {x : Exit MessageSenderError SentMessage}
    (failed : ∀ sent, x ≠ .ret sent) : Settles recipient [] x :=
  ⟨by simp, .inl ⟨rfl, failed⟩⟩

/-- A refused batch before the others changes nothing. -/
theorem Settles.cons {recipient : ServiceId} {b : Submission} {batches : List Submission}
    {x : Exit MessageSenderError SentMessage} (addressed : b.batch.destination = recipient)
    (refused : ¬ b.Accepted) (rest : Settles recipient batches x) :
    Settles recipient (b :: batches) x where
  addressed := by
    intro b' member
    rcases List.mem_cons.mp member with rfl | member
    · exact addressed
    · exact rest.addressed b' member
  settled := by
    rw [List.filter_cons_of_neg (by simpa using refused)]
    exact rest.settled

theorem Settles.single {recipient : ServiceId} {b : Submission} {sent : SentMessage}
    (addressed : b.batch.destination = recipient) (accepted : b.Accepted)
    (message : b.sentMessage = some sent) : Settles recipient [b] (.ret sent) where
  addressed := by simpa using addressed
  settled := .inr ⟨b, sent, by simpa using accepted, message, rfl⟩

theorem Settles.isRet_iff {recipient : ServiceId} {batches : List Submission}
    {x : Exit MessageSenderError SentMessage} (settles : Settles recipient batches x) :
    (∃ sent, x = .ret sent) ↔ ∃ b ∈ batches, b.Accepted := by
  rcases settles.settled with ⟨none, failed⟩ | ⟨b, sent, only, -, rfl⟩
  · refine iff_of_false (fun ⟨sent, ended⟩ => failed sent ended) fun ⟨b, member, accepted⟩ => ?_
    have kept : b ∈ batches.filter (·.Accepted) := List.mem_filter.mpr ⟨member, by simpa⟩
    rw [none] at kept
    cases kept
  · refine iff_of_true ⟨sent, rfl⟩ ⟨b, ?_⟩
    have kept : b ∈ batches.filter (·.Accepted) := by rw [only]; exact List.mem_singleton_self b
    simpa using List.mem_filter.mp kept

/-- The message a send returns is that of its accepted batch. -/
theorem Settles.sentMessage {recipient : ServiceId} {batches : List Submission}
    {sent : SentMessage} (settles : Settles recipient batches (.ret sent)) :
    ∃ b ∈ batches, b.batch.destination = recipient ∧ b.sentMessage = some sent := by
  rcases settles.settled with ⟨-, failed⟩ | ⟨b, sent', only, message, ended⟩
  · exact absurd rfl (failed sent)
  · cases ended
    have kept : b ∈ batches.filter (·.Accepted) := by rw [only]; exact List.mem_singleton_self b
    have member := List.mem_of_mem_filter kept
    exact ⟨b, member, settles.addressed b member, message⟩

theorem Settles.eq_ret {recipient : ServiceId} {batches : List Submission}
    {x : Exit MessageSenderError SentMessage} (settles : Settles recipient batches x)
    {b : Submission} (member : b ∈ batches) {sent : SentMessage}
    (message : b.sentMessage = some sent) : x = .ret sent := by
  have accepted := Submission.accepted_of_sentMessage message
  have kept : b ∈ batches.filter (·.Accepted) := List.mem_filter.mpr ⟨member, by simpa⟩
  rcases settles.settled with ⟨none, -⟩ | ⟨b', sent', only, message', ended⟩
  · rw [none] at kept
    cases kept
  · rw [only, List.mem_singleton] at kept
    subst kept
    rw [message'] at message
    cases message
    exact ended

/-- How many batches of a send are accepted: one if it returns, else none. -/
theorem Settles.length_accepted {recipient : ServiceId} {batches : List Submission}
    {x : Exit MessageSenderError SentMessage} (settles : Settles recipient batches x) :
    ((batches.filter (·.Accepted)).length = 1 ∧ ∃ sent, x = .ret sent) ∨
      ((batches.filter (·.Accepted)).length = 0 ∧ ∀ sent, x ≠ .ret sent) := by
  rcases settles.settled with ⟨none, failed⟩ | ⟨b, sent, only, -, ended⟩
  · exact .inr ⟨by rw [none]; rfl, failed⟩
  · exact .inl ⟨by rw [only]; rfl, sent, ended⟩

theorem Settles.length_accepted_le {recipient : ServiceId} {batches : List Submission}
    {x : Exit MessageSenderError SentMessage} (settles : Settles recipient batches x) :
    (batches.filter (·.Accepted)).length ≤ 1 := by
  rcases settles.length_accepted with ⟨one, -⟩ | ⟨none, -⟩
  · omega
  · omega

theorem sendLoop_settles {recipient : ServiceId} {content : OutgoingContent} {timestamp : Nat}
    {online : Bool} {attempts : Nat} {access : Option UnidentifiedAccess} {es : List CallEvent}
    {x : Exit MessageSenderError SentMessage}
    (trace : Trace (sender.sendLoop X recipient content timestamp online attempts access) es x)
    (identity : Option IdentityKey) : Settles recipient (submissionsFrom X identity es) x := by
  induction attempts generalizing access es x identity with
  | zero =>
      obtain ⟨rfl, rfl⟩ := trace_done.mp trace
      exact .none (Exit.throw_ne_ret _)
  | succ attempts ih =>
      rcases trace_bind.mp trace with
        ⟨e, failed, rfl⟩ | ⟨m, failed, rfl⟩ | ⟨next, es₁, es₂, rfl, attempted, rest⟩
      · rcases sendAttempt_submissions failed identity with
          ⟨quiet, -⟩ | ⟨b, only, addressed, -, ⟨sent, -, -, ended⟩ | ⟨refused, -⟩⟩
        · rw [quiet]
          exact .none (Exit.throw_ne_ret _)
        · cases ended
        · rw [only]
          exact .cons addressed refused (.none (Exit.throw_ne_ret _))
      · rcases sendAttempt_submissions failed identity with
          ⟨quiet, -⟩ | ⟨b, only, addressed, -, ⟨sent, -, -, ended⟩ | ⟨refused, -⟩⟩
        · rw [quiet]
          exact .none (Exit.panic_ne_ret _)
        · cases ended
        · rw [only]
          exact .cons addressed refused (.none (Exit.panic_ne_ret _))
      · rw [submissionsFrom_append]
        rcases sendAttempt_submissions attempted identity with
          ⟨-, failed⟩ | ⟨b, only, addressed, -, ⟨sent, accepted, message, ended⟩ | ⟨refused, retried⟩⟩
        · exact absurd rfl (failed next)
        · cases ended
          obtain ⟨rfl, rfl⟩ := trace_done.mp rest
          rw [only]
          exact .single addressed accepted message
        · obtain ⟨e, access', -, -, rfl⟩ := retried next rfl
          rw [only]
          exact .cons addressed refused (ih rest _)

theorem unlock_quiet (peer : ServiceId) (answer : Unit) :
    ∀ e ∈ ([⟨.unlock peer, answer⟩] : List CallEvent), ¬ e.1.IsPut := by
  intro e member
  cases List.mem_singleton.mp member
  exact id

theorem trySendContent_settles {recipient : ServiceId} {access : Option UnidentifiedAccess}
    {content : OutgoingContent} {timestamp : Nat} {online : Bool} {es : List CallEvent}
    {x : Exit MessageSenderError SentMessage}
    (trace : Trace (sender.trySendContent X recipient access content timestamp online) es x)
    (identity : Option IdentityKey) : Settles recipient (submissionsFrom X identity es) x := by
  obtain ⟨answer, rest, rfl, locked⟩ := trace_call.mp trace
  obtain ⟨es', released, rfl, held⟩ := trace_onExit.mp locked
  rw [submissionsFrom_cons_of_not_put X id, submissionsFrom_append,
    submissionsFrom_quiet X (unlock_quiet recipient released),
    List.append_nil]
  exact sendLoop_settles held _

theorem contentBytes_quiet {body : ContentBody} {includePniSignature : Bool} :
    Calls (fun c => ¬ c.IsPut) (sender.contentBytes X body includePniSignature) := by
  unfold contentBytes createPniSignature
  cases includePniSignature with
  | false => trivial
  | true =>
      refine .bind (.bind trivial fun _ => ?_) fun _ => trivial
      exact .bind (.mapErr _ ⟨id, fun _ _ => trivial⟩) fun _ => trivial

theorem trySendMessage_settles {recipient : ServiceId} {access : Option UnidentifiedAccess}
    {body : ContentBody} {timestamp : Nat} {includePniSignature online : Bool}
    {es : List CallEvent} {x : Exit MessageSenderError SentMessage}
    (trace : Trace (sender.trySendMessage X recipient access body timestamp includePniSignature
      online) es x)
    (identity : Option IdentityKey) : Settles recipient (submissionsFrom X identity es) x := by
  rcases trace_bind.mp trace with
    ⟨e, failed, rfl⟩ | ⟨m, failed, rfl⟩ | ⟨content, es₁, es₂, rfl, encoded, rest⟩
  · rw [submissionsFrom_quiet X (contentBytes_quiet.trace failed)]
    exact .none (Exit.throw_ne_ret _)
  · rw [submissionsFrom_quiet X (contentBytes_quiet.trace failed)]
    exact .none (Exit.panic_ne_ret _)
  · rw [submissionsFrom_append, submissionsFrom_quiet X (contentBytes_quiet.trace encoded),
      List.nil_append]
    exact trySendContent_settles rest _

/-! ## When a batch is submitted -/

section Submits

variable {σ : Type} {h : Env σ} {recipient : ServiceId} {body : ContentBody}
  {content : OutgoingContent} {includePniSignature : Bool} (access : Option UnidentifiedAccess)
  (timestamp : Nat) (online : Bool)

/-- The encryption that a send begins with. -/
def encryptBody (X : Externals) (sender : MessageSender) (recipient : ServiceId)
    (access : Option UnidentifiedAccess) (body : ContentBody) (includePniSignature : Bool) :
    Async MessageSenderError (Option EncryptedMessages) := do
  let content ← sender.contentBytes X body includePniSignature
  let _ ← Async.ask (.lock recipient)
  sender.createEncryptedMessages X recipient (access.map (·.certificate)) (.encrypted content)

theorem not_submits_of_calls {ε α : Type} {p : Async ε α} (calls : Calls (fun c => ¬ c.IsPut) p)
    (s : σ) : ¬ Submits (p.run h s).log := by
  rintro ⟨e, member, put⟩
  exact calls.trace (run_trace h p s) e member put

theorem submits_append {log log' : List CallEvent} :
    Submits (log ++ log') ↔ Submits log ∨ Submits log' := by
  simp only [Submits, List.mem_append, or_and_right, exists_or]

theorem submit_submits (messages : OutgoingPushMessages) (s : σ) :
    Submits ((submit X access messages).run h s).log := by
  obtain ⟨answer, log, -⟩ := submit_trace (run_trace h (submit X access messages) s)
  rw [log]
  exact ⟨_, List.mem_singleton_self _, trivial⟩

/-- An attempt submits a batch exactly when there is something to submit. -/
theorem sendAttempt_submits_iff (s : σ) :
    Submits ((sender.sendAttempt X recipient content timestamp online access).run h s).log ↔
      ∃ encrypted, ((sender.createEncryptedMessages X recipient (access.map (·.certificate))
        content).run h s).exit = .ret (some encrypted) := by
  have quiet : ¬ Submits ((sender.createEncryptedMessages X recipient
      (access.map (·.certificate)) content).run h s).log :=
    not_submits_of_calls (createEncryptedMessages_calls.mono fun _ => Serves.not_put) s
  unfold sendAttempt
  rw [bind_eq]
  cases exit : ((sender.createEncryptedMessages X recipient (access.map (·.certificate))
    content).run h s).exit with
  | throw e =>
      rw [run_bind_of_throw h exit]
      simpa using quiet
  | panic m =>
      rw [run_bind_of_panic h exit]
      simpa using quiet
  | ret encrypted =>
      rw [run_bind_of_ret h exit]
      cases encrypted with
      | none => simpa using quiet
      | some encrypted =>
          refine iff_of_true (submits_append.mpr (.inr ?_)) ⟨encrypted, rfl⟩
          simp only [bind_eq]
          rw [run_bind, run_attempt]
          have submitted := submit_submits (X := X) (h := h) access
            ⟨recipient, timestamp, encrypted.messages, online⟩ ((sender.createEncryptedMessages X
              recipient (access.map (·.certificate)) content).run h s).state
          split
          · exact submits_append.mpr (.inl submitted)
          · exact submitted
          · exact submitted

/-- A loop with an attempt left submits a batch exactly when the first attempt does. -/
theorem sendLoop_submits_iff (attempts : Nat) (s : σ) :
    Submits ((sender.sendLoop X recipient content timestamp online (attempts + 1) access).run h
        s).log ↔
      ∃ encrypted, ((sender.createEncryptedMessages X recipient (access.map (·.certificate))
        content).run h s).exit = .ret (some encrypted) := by
  rw [← sendAttempt_submits_iff access timestamp online]
  unfold sendLoop
  rw [bind_eq]
  cases exit : ((sender.sendAttempt X recipient content timestamp online access).run h s).exit with
  | throw e => rw [run_bind_of_throw h exit]
  | panic m => rw [run_bind_of_panic h exit]
  | ret next =>
      rw [run_bind_of_ret h exit, submits_append]
      refine or_iff_left_of_imp fun later => ?_
      -- an attempt that ends without an error has submitted its batch
      have trace := run_trace h (sender.sendAttempt X recipient content timestamp online access) s
      rw [exit] at trace
      by_contra quiet
      rcases sendAttempt_submissions trace none with ⟨-, failed⟩ | ⟨b, only, -⟩
      · exact failed next rfl
      · rw [submissionsFrom_quiet X (fun e member put => quiet ⟨e, member, put⟩)] at only
        cases only

theorem trySendContent_submits_iff (s : σ) :
    Submits ((sender.trySendContent X recipient access content timestamp online).run h s).log ↔
      ∃ encrypted, ((sender.createEncryptedMessages X recipient (access.map (·.certificate))
        content).run h (h (.lock recipient) s).2).exit = .ret (some encrypted) := by
  rw [← sendLoop_submits_iff access timestamp online 3]
  unfold trySendContent Async.withLock
  rw [run_call_log, run_onExit]
  constructor
  · rintro ⟨e, member, put⟩
    rcases List.mem_cons.mp member with rfl | member
    · exact absurd put id
    · rcases List.mem_append.mp member with member | member
      · exact ⟨e, member, put⟩
      · exact absurd put (unlock_quiet recipient _ e member)
  · rintro ⟨e, member, put⟩
    exact ⟨e, List.mem_cons_of_mem _ (List.mem_append_left _ member), put⟩

/-- A send submits a batch exactly when the encryption it begins with gives messages. -/
theorem trySendMessage_submits_iff (s : σ) :
    Submits ((sender.trySendMessage X recipient access body timestamp includePniSignature
        online).run h s).log ↔
      ∃ encrypted, ((sender.encryptBody X recipient access body includePniSignature).run h s).exit =
        .ret (some encrypted) := by
  have quiet : ¬ Submits ((sender.contentBytes X body includePniSignature).run h s).log :=
    not_submits_of_calls contentBytes_quiet s
  unfold trySendMessage encryptBody
  rw [bind_eq, bind_eq]
  cases exit : ((sender.contentBytes X body includePniSignature).run h s).exit with
  | throw e =>
      rw [run_bind_of_throw h exit, run_bind_of_throw h exit]
      simpa using quiet
  | panic m =>
      rw [run_bind_of_panic h exit, run_bind_of_panic h exit]
      simpa using quiet
  | ret content =>
      rw [run_bind_of_ret h exit, run_bind_of_ret h exit, submits_append, or_iff_right quiet]
      exact trySendContent_submits_iff access timestamp online _

end Submits

end MessageSender

end SignalService

import SignalService.Sender.Batches
import SignalService.Reference

/-! # A send and the copy for our own devices

`send_message` makes two independent sends: the recipient's, and one to our own devices
with a transcript, or with the message itself when that is a sync message. Each of the
three results says exactly when the two agree: a sync message that is delivered once and
only to us, an outcome that is the recipient's, and a transcript that tells the truth.
-/

namespace SignalService.MessageSender

open Effect Prog

/-- The arguments of `send_message`. -/
structure Outgoing where
  recipient : ServiceId
  access : Option UnidentifiedAccess
  body : ContentBody
  timestamp : Nat
  includePniSignature : Bool
  online : Bool

variable (X : Externals) (sender : MessageSender)

section Runs

variable {σ : Type} (h : Env σ) (s : σ) (m : Outgoing)

/-- What `is_multi_device` answers. -/
def multiDeviceIn : Bool :=
  if sender.deviceId = defaultDeviceId then
    match (h (.getSubDeviceSessions (.aci sender.localAci)) s).1 with
    | .ok subDevices => !subDevices.isEmpty
    | .error _ => false
  else true

def askedIn : Ran Call Answer MessageSenderError Bool σ := sender.isMultiDevice.run h s

/-- The recipient's send. Sync messages are never sent as unidentified. -/
def recipientSend : Ran Call Answer MessageSenderError SentMessage σ :=
  (sender.trySendMessage X m.recipient (if isSynchronizeMessage m.body then none else m.access)
    m.body m.timestamp m.includePniSignature m.online).run h (sender.askedIn h s).state

/-- The send to our own devices, once the recipient's has ended with `result`. -/
def ownSend (result : Except MessageSenderError SentMessage) :
    Ran Call Answer MessageSenderError Unit σ :=
  (sender.sendToOwnDevices X m.recipient m.body m.timestamp result).run h
    (sender.recipientSend X h s m).state

/-- All of `send_message`. -/
def wholeSend : Ran Call Answer MessageSenderError SentMessage σ :=
  (sender.sendMessage X m.recipient m.access m.body m.timestamp m.includePniSignature
    m.online).run h s

variable {X sender h s m}

theorem askedIn_exit : (sender.askedIn h s).exit = .ret (sender.multiDeviceIn h s) := by
  unfold askedIn isMultiDevice multiDeviceIn
  split
  · rfl
  · rfl

theorem isMultiDevice_quiet {ε : Type} :
    Calls (fun c => ¬ c.IsPut) (sender.isMultiDevice : Async ε Bool) := by
  unfold isMultiDevice
  split
  · exact ⟨id, fun _ _ => trivial⟩
  · trivial

/-- Only a message to ourselves that is no sync message is a note to self. -/
theorem wholeSend_eq
    (other : m.recipient = .aci sender.localAci → isSynchronizeMessage m.body = true) :
    sender.wholeSend X h s m =
      let rest := ((sender.trySendMessage X m.recipient
        (if isSynchronizeMessage m.body then none else m.access) m.body m.timestamp
        m.includePniSignature m.online).attempt.bind
          (sender.finishSend X m.recipient m.body m.timestamp (sender.multiDeviceIn h s))).run h
            (sender.askedIn h s).state
      { rest with log := (sender.askedIn h s).log ++ rest.log } := by
  have skipped : (decide (m.recipient = .aci sender.localAci) && sender.multiDeviceIn h s &&
      !isSynchronizeMessage m.body) = false := by
    by_cases self : m.recipient = .aci sender.localAci
    · simp [other self]
    · simp [self]
  unfold wholeSend sendMessage
  rw [bind_eq, run_bind_of_ret h askedIn_exit]
  simp only [skipped]
  rfl

theorem recipientSend_attempt :
    ((sender.trySendMessage X m.recipient (if isSynchronizeMessage m.body then none else m.access)
      m.body m.timestamp m.includePniSignature m.online).attempt :
        Async MessageSenderError _).run h (sender.askedIn h s).state =
      ⟨(sender.recipientSend X h s m).exit.attempt, (sender.recipientSend X h s m).state,
        (sender.recipientSend X h s m).log⟩ :=
  run_attempt h _ _

theorem wholeSend_of_panic {e : String}
    (other : m.recipient = .aci sender.localAci → isSynchronizeMessage m.body = true)
    (panicked : (sender.recipientSend X h s m).exit = .panic e) :
    sender.wholeSend X h s m = ⟨.panic e, (sender.recipientSend X h s m).state,
      (sender.askedIn h s).log ++ (sender.recipientSend X h s m).log⟩ := by
  rw [wholeSend_eq other, run_bind, recipientSend_attempt, panicked, Exit.attempt_panic]

/-- After the recipient's send has ended with a result, the rest goes on from there. -/
theorem wholeSend_of_result {result : Except MessageSenderError SentMessage}
    (other : m.recipient = .aci sender.localAci → isSynchronizeMessage m.body = true)
    (ended : (sender.recipientSend X h s m).exit = .ofExcept result) :
    sender.wholeSend X h s m =
      let rest := (sender.finishSend X m.recipient m.body m.timestamp (sender.multiDeviceIn h s)
        result).run h (sender.recipientSend X h s m).state
      ⟨rest.exit, rest.state,
        (sender.askedIn h s).log ++ ((sender.recipientSend X h s m).log ++ rest.log)⟩ := by
  rw [wholeSend_eq other, run_bind, recipientSend_attempt, ended, Exit.attempt_ofExcept]

theorem finishSend_run_due {multiDevice : Bool} {result : Except MessageSenderError SentMessage}
    (due : (needsSync result || multiDevice) = true) (t : σ) :
    (sender.finishSend X m.recipient m.body m.timestamp multiDevice result).run h t =
      let own := (sender.sendToOwnDevices X m.recipient m.body m.timestamp result).run h t
      ⟨own.exit.bind fun _ => .ofExcept result, own.state, own.log⟩ := by
  unfold finishSend
  rw [if_pos due, bind_eq]
  exact run_bind_done h _ _ t

theorem finishSend_run_not_due {multiDevice : Bool}
    {result : Except MessageSenderError SentMessage}
    (due : (needsSync result || multiDevice) = false) (t : σ) :
    (sender.finishSend X m.recipient m.body m.timestamp multiDevice result).run h t =
      ⟨.ofExcept result, t, []⟩ := by
  unfold finishSend
  rw [due]
  rfl

variable (X sender h s m) in
/-- The two sends of `send_message`, when it is not a note to self: what it returns, and
    its batches, the recipient's first. -/
theorem wholeSend_cases
    (other : m.recipient = .aci sender.localAci → isSynchronizeMessage m.body = true) :
    (∃ e i, (sender.recipientSend X h s m).exit = .panic e ∧
      (sender.wholeSend X h s m).exit = .panic e ∧
      submissions X (sender.wholeSend X h s m).log =
        submissionsFrom X i (sender.recipientSend X h s m).log) ∨
    (∃ result i, (sender.recipientSend X h s m).exit = .ofExcept result ∧
      (needsSync result || sender.multiDeviceIn h s) = false ∧
      (sender.wholeSend X h s m).exit = .ofExcept result ∧
      submissions X (sender.wholeSend X h s m).log =
        submissionsFrom X i (sender.recipientSend X h s m).log) ∨
    (∃ result i j, (sender.recipientSend X h s m).exit = .ofExcept result ∧
      (needsSync result || sender.multiDeviceIn h s) = true ∧
      (sender.wholeSend X h s m).exit =
        (sender.ownSend X h s m result).exit.bind (fun _ => .ofExcept result) ∧
      submissions X (sender.wholeSend X h s m).log =
        submissionsFrom X i (sender.recipientSend X h s m).log ++
          submissionsFrom X j (sender.ownSend X h s m result).log) := by
  have asked : submissionsFrom X none (sender.askedIn h s).log = [] :=
    submissionsFrom_quiet X (isMultiDevice_quiet.trace (run_trace h _ s)) none
  have batches (log : List CallEvent) : submissions X ((sender.askedIn h s).log ++ log) =
      submissionsFrom X (identityAfter none (sender.askedIn h s).log) log := by
    rw [submissions, submissionsFrom_append, asked, List.nil_append]
  rcases (sender.recipientSend X h s m).exit.result_or_panic with ⟨result, ended⟩ | ⟨e, ended⟩
  · right
    rw [wholeSend_of_result other ended]
    cases due : needsSync result || sender.multiDeviceIn h s with
    | false =>
        left
        rw [finishSend_run_not_due due]
        refine ⟨result, identityAfter none (sender.askedIn h s).log, ended, due, rfl, ?_⟩
        rw [← batches]
        exact congrArg (fun log => submissions X ((sender.askedIn h s).log ++ log))
          (List.append_nil _)
    | true =>
        right
        rw [finishSend_run_due due]
        refine ⟨result, identityAfter none (sender.askedIn h s).log, identityAfter
          (identityAfter none (sender.askedIn h s).log) (sender.recipientSend X h s m).log,
          ended, due, rfl, ?_⟩
        exact (batches _).trans (submissionsFrom_append X _ _ _)
  · left
    rw [wholeSend_of_panic other ended]
    exact ⟨e, _, ended, rfl, batches _⟩

variable (X sender h s m) in
theorem recipientSend_settles (i : Option IdentityKey) :
    Settles m.recipient (submissionsFrom X i (sender.recipientSend X h s m).log)
      (sender.recipientSend X h s m).exit :=
  trySendMessage_settles (run_trace h _ _) i

/-! ## The copy for our own devices -/

theorem syncBody_quiet {recipient : ServiceId} {body : ContentBody} {timestamp : Nat}
    {result : Except MessageSenderError SentMessage} :
    Calls (fun c => ¬ c.IsPut) (syncBody X recipient body timestamp result) := by
  unfold syncBody createMultiDeviceSentTranscriptContent
  split
  · trivial
  · split
    · trivial
    · exact ⟨id, fun _ _ => trivial⟩

variable (X sender h s m) in
/-- The copy is sent to our own account only. -/
theorem ownSend_addressed (result : Except MessageSenderError SentMessage)
    (i : Option IdentityKey) :
    ∀ b ∈ submissionsFrom X i (sender.ownSend X h s m result).log,
      b.batch.destination = .aci sender.localAci := by
  have trace := run_trace h (sender.sendToOwnDevices X m.recipient m.body m.timestamp result)
    (sender.recipientSend X h s m).state
  change Trace _ (sender.ownSend X h s m result).log _ at trace
  intro b member
  rcases trace_bind.mp trace with ⟨e, failed, -⟩ | ⟨e, failed, -⟩ | ⟨copy, es₁, es₂, split, made, rest⟩
  · rw [submissionsFrom_quiet X (syncBody_quiet.trace failed)] at member
    cases member
  · rw [submissionsFrom_quiet X (syncBody_quiet.trace failed)] at member
    cases member
  · rw [split, submissionsFrom_append, submissionsFrom_quiet X (syncBody_quiet.trace made),
      List.nil_append] at member
    cases copy with
    | none =>
        obtain ⟨rfl, -⟩ := trace_done.mp rest
        cases member
    | some copy =>
        rcases trace_bind.mp rest with
          ⟨e, failed, -⟩ | ⟨e, failed, -⟩ | ⟨sent, es₃, es₄, rfl, returned, last⟩
        · exact (trySendMessage_settles failed _).addressed b member
        · exact (trySendMessage_settles failed _).addressed b member
        · obtain ⟨rfl, -⟩ := trace_done.mp last
          rw [List.append_nil] at member
          exact (trySendMessage_settles returned _).addressed b member

variable (X sender h s) in
/-- A sync message is its own copy: one batch of it is accepted if the second send
    returns, else none. -/
theorem ownSend_length_accepted (sync : isSynchronizeMessage m.body = true)
    (result : Except MessageSenderError SentMessage) (i : Option IdentityKey) :
    (((submissionsFrom X i (sender.ownSend X h s m result).log).filter (·.Accepted)).length = 1 ∧
        (sender.ownSend X h s m result).exit = .ret ()) ∨
      (((submissionsFrom X i (sender.ownSend X h s m result).log).filter (·.Accepted)).length = 0 ∧
        (sender.ownSend X h s m result).exit ≠ .ret ()) := by
  have own : sender.ownSend X h s m result =
      let r := (sender.trySendMessage X (.aci sender.localAci) none m.body m.timestamp false
        false).run h (sender.recipientSend X h s m).state
      ⟨r.exit.bind fun _ => .ret (), r.state, r.log⟩ := by
    cases body : m.body with
    | synchronizeMessage message =>
        unfold ownSend sendToOwnDevices
        rw [body]
        exact run_bind_done h _ _ _
    | _ => rw [body] at sync; cases sync
  rw [own]
  rcases (trySendMessage_settles (run_trace h (sender.trySendMessage X (.aci sender.localAci) none
    m.body m.timestamp false false) (sender.recipientSend X h s m).state) i).length_accepted with
    ⟨length, sent, returned⟩ | ⟨length, failed⟩
  · exact .inl ⟨length, Exit.bind_eq_ret.mpr ⟨sent, returned, rfl⟩⟩
  · refine .inr ⟨length, fun ended => ?_⟩
    obtain ⟨sent, returned, -⟩ := Exit.bind_eq_ret.mp ended
    exact failed sent returned

/-! ## Sync messages -/

/-- The message is accepted in at most one batch, and every batch is for our own
    account. -/
def DeliveredOnceToUs (X : Externals) (sender : MessageSender) (log : List CallEvent) : Prop :=
  ((submissions X log).filter (·.Accepted)).length ≤ 1 ∧
    ∀ b ∈ submissions X log, b.batch.destination = .aci sender.localAci

variable (X sender h s m) in
theorem recipientSend_submits_iff :
    Submits (sender.recipientSend X h s m).log ↔
      ∃ encrypted, ((sender.encryptBody X m.recipient
        (if isSynchronizeMessage m.body then none else m.access) m.body
        m.includePniSignature).run h (sender.askedIn h s).state).exit = .ret (some encrypted) :=
  trySendMessage_submits_iff _ _ _ _

/-- To our own account, what decides is whether both sends are accepted. -/
theorem sync_once_iff_of_self (sync : isSynchronizeMessage m.body = true)
    (self : m.recipient = .aci sender.localAci) :
    DeliveredOnceToUs X sender (sender.wholeSend X h s m).log ↔
      ∀ sent, (sender.recipientSend X h s m).exit = .ret sent →
        (sent.needsSync || sender.multiDeviceIn h s) = true →
        (sender.ownSend X h s m (.ok sent)).exit ≠ .ret () := by
  have addressed (i : Option IdentityKey) :
      ∀ b ∈ submissionsFrom X i (sender.recipientSend X h s m).log,
        b.batch.destination = .aci sender.localAci :=
    self ▸ (recipientSend_settles X sender h s m i).addressed
  rcases wholeSend_cases X sender h s m fun _ => sync with
    ⟨e, i, ended, -, batches⟩ | ⟨result, i, ended, due, -, batches⟩ |
    ⟨result, i, j, ended, due, -, batches⟩
  · unfold DeliveredOnceToUs
    rw [batches, ended]
    refine iff_of_true ⟨?_, addressed i⟩ fun sent ended => absurd ended (Exit.panic_ne_ret e sent)
    exact (recipientSend_settles X sender h s m i).length_accepted_le
  · unfold DeliveredOnceToUs
    rw [batches]
    refine iff_of_true ⟨?_, addressed i⟩ fun sent returned due' => ?_
    · exact (recipientSend_settles X sender h s m i).length_accepted_le
    · rw [ended, Exit.ofExcept_eq_ret] at returned
      rw [returned] at due
      exact absurd (due.symm.trans due') Bool.false_ne_true
  · unfold DeliveredOnceToUs
    rw [batches, List.filter_append, List.length_append]
    have both : ∀ b ∈ submissionsFrom X i (sender.recipientSend X h s m).log ++
        submissionsFrom X j (sender.ownSend X h s m result).log,
        b.batch.destination = .aci sender.localAci := by
      intro b member
      rcases List.mem_append.mp member with member | member
      · exact addressed i b member
      · exact ownSend_addressed X sender h s m result j b member
    rw [and_iff_left both]
    rcases (recipientSend_settles X sender h s m i).length_accepted with
      ⟨one, sent, returned⟩ | ⟨none, failed⟩
    · rw [ended, Exit.ofExcept_eq_ret] at returned
      subst returned
      rw [one]
      rcases ownSend_length_accepted X sender h s sync (.ok sent) j with ⟨one', ended'⟩ | ⟨none', ended'⟩
      · refine iff_of_false (by omega) fun refused => ?_
        exact refused sent ended due ended'
      · refine iff_of_true (by omega) fun sent' returned' _ => ?_
        rw [ended] at returned'
        cases returned'
        exact ended'
    · refine iff_of_true ?_ fun sent returned => absurd returned (failed sent)
      rcases ownSend_length_accepted X sender h s sync result j with ⟨one', -⟩ | ⟨none', -⟩
      · omega
      · omega

/-- To another account, the first batch is one too many. -/
theorem sync_once_iff_of_other (sync : isSynchronizeMessage m.body = true)
    (other : m.recipient ≠ .aci sender.localAci) :
    DeliveredOnceToUs X sender (sender.wholeSend X h s m).log ↔
      ∀ encrypted, ((sender.encryptBody X m.recipient none m.body
        m.includePniSignature).run h (sender.askedIn h s).state).exit ≠ .ret (some encrypted) := by
  have begins := recipientSend_submits_iff X sender h s m
  rw [if_pos sync] at begins
  rw [← not_exists, ← begins]
  have bad (i : Option IdentityKey) (rest : List Submission)
      (submits : Submits (sender.recipientSend X h s m).log) :
      ¬ ∀ b ∈ submissionsFrom X i (sender.recipientSend X h s m).log ++ rest,
        b.batch.destination = .aci sender.localAci := by
    intro addressed
    obtain ⟨b, member⟩ := List.exists_mem_of_ne_nil _ (submissionsFrom_ne_nil X submits i)
    have here := (recipientSend_settles X sender h s m i).addressed b member
    exact other (here.symm.trans (addressed b (List.mem_append_left rest member)))
  rcases wholeSend_cases X sender h s m fun _ => sync with
    ⟨e, i, ended, -, batches⟩ | ⟨result, i, ended, due, -, batches⟩ |
    ⟨result, i, j, ended, due, -, batches⟩
  · unfold DeliveredOnceToUs
    rw [batches]
    constructor
    · intro once submits
      exact bad i [] submits (by simpa using once.2)
    · intro quiet
      rw [submissionsFrom_of_not_submits X quiet]
      simp
  · unfold DeliveredOnceToUs
    rw [batches]
    constructor
    · intro once submits
      exact bad i [] submits (by simpa using once.2)
    · intro quiet
      rw [submissionsFrom_of_not_submits X quiet]
      simp
  · unfold DeliveredOnceToUs
    rw [batches]
    constructor
    · intro once submits
      exact bad i _ submits once.2
    · intro quiet
      rw [submissionsFrom_of_not_submits X quiet, List.nil_append]
      refine ⟨?_, ownSend_addressed X sender h s m result j⟩
      rcases ownSend_length_accepted X sender h s sync result j with ⟨one, -⟩ | ⟨none, -⟩
      · omega
      · omega

end Runs

section Examples

open Reference

/-- The answer to a message request, on its way to `recipient`. -/
def requestAnswer (recipient : ServiceId) : Outgoing where
  recipient := recipient
  access := none
  body := .synchronizeMessage ⟨some (.messageRequestResponse (messageRequestResponse reference
    (.aci remoteAci.uuid) .accept)), some [0]⟩
  timestamp := 1700000000000
  includePniSignature := false
  online := false

end Examples

/-! ## The outcome -/

section Runs

variable {X sender} {σ : Type} {h : Env σ} {s : σ} {m : Outgoing}

/-- The call returns exactly when the server accepted a batch for the recipient, and then
    with the message of that batch. -/
def ReportsDelivery (X : Externals) (recipient : ServiceId)
    (r : Ran Call Answer MessageSenderError SentMessage σ) : Prop :=
  ((∃ sent, r.exit = .ret sent) ↔
    ∃ b ∈ submissions X r.log, b.batch.destination = recipient ∧ b.Accepted) ∧
  ∀ sent, r.exit = .ret sent →
    ∃ b ∈ submissions X r.log, b.batch.destination = recipient ∧ b.sentMessage = some sent

/-- Batches for somebody else do not matter: what is reported has to be the outcome of
    the recipient's own send. -/
theorem reportsDelivery_iff {r : Ran Call Answer MessageSenderError SentMessage σ}
    {recipient : ServiceId} {batches rest : List Submission}
    {x : Exit MessageSenderError SentMessage} (settles : Settles recipient batches x)
    (split : submissions X r.log = batches ++ rest)
    (elsewhere : ∀ b ∈ rest, b.batch.destination ≠ recipient) :
    ReportsDelivery X recipient r ↔ ∀ sent, r.exit = .ret sent ↔ x = .ret sent := by
  have own (b : Submission) : (b ∈ submissions X r.log ∧ b.batch.destination = recipient) ↔
      b ∈ batches := by
    rw [split, List.mem_append]
    constructor
    · rintro ⟨member | member, addressed⟩
      · exact member
      · exact absurd addressed (elsewhere b member)
    · intro member
      exact ⟨.inl member, settles.addressed b member⟩
  unfold ReportsDelivery
  simp only [← and_assoc, own]
  rw [← settles.isRet_iff]
  constructor
  · rintro ⟨same, message⟩
    have reported (sent : SentMessage) (returned : r.exit = .ret sent) : x = .ret sent := by
      obtain ⟨b, member, message⟩ := message sent returned
      exact settles.eq_ret member message
    intro sent
    refine ⟨reported sent, fun delivered => ?_⟩
    obtain ⟨sent', returned⟩ := same.mpr ⟨sent, delivered⟩
    rw [reported sent' returned] at delivered
    cases delivered
    exact returned
  · intro same
    refine ⟨exists_congr same, fun sent returned => ?_⟩
    rw [same] at returned
    subst returned
    obtain ⟨b, member, -, message⟩ := settles.sentMessage
    exact ⟨b, member, message⟩

end Runs

section Examples

open Reference

/-- A message without a text, to another account. -/
def emptyMessage : Outgoing where
  recipient := .aci remoteAci
  access := none
  body := .dataMessage ⟨none, []⟩
  timestamp := 1700000000000
  includePniSignature := false
  online := false

end Examples

/-! ## The transcript -/

section Runs

variable {X sender} {σ : Type} {h : Env σ} {s : σ} {m : Outgoing}

/-- A transcript of the message goes out to our own devices only if the server accepted
    the message for the recipient. What a sync message sends there is no transcript. -/
def TranscriptOfDelivered (X : Externals) (sender : MessageSender) (m : Outgoing)
    (log : List CallEvent) : Prop :=
  isSynchronizeMessage m.body = false →
    (∃ b ∈ submissions X log, b.batch.destination = .aci sender.localAci) →
    ∃ b ∈ submissions X log, b.batch.destination = m.recipient ∧ b.Accepted

/-- The encryption that the send of a transcript begins with. -/
def encryptTranscript (X : Externals) (sender : MessageSender) (m : Outgoing)
    (result : Except MessageSenderError SentMessage) :
    Async MessageSenderError (Option EncryptedMessages) := do
  match ← createMultiDeviceSentTranscriptContent X (some m.recipient) m.body m.timestamp
      [result] with
  | some transcript => sender.encryptBody X (.aci sender.localAci) none transcript false
  | none => return none

theorem syncable_of_sync {body : ContentBody} (sync : isSynchronizeMessage body = true) :
    syncable body = none := by
  cases body with
  | synchronizeMessage message => rfl
  | _ => cases sync

theorem syncBody_of_plain {recipient : ServiceId} {body : ContentBody} {timestamp : Nat}
    {result : Except MessageSenderError SentMessage}
    (plain : isSynchronizeMessage body = false) :
    syncBody X recipient body timestamp result =
      createMultiDeviceSentTranscriptContent X (some recipient) body timestamp [result] := by
  cases body with
  | synchronizeMessage message => cases plain
  | _ => rfl

theorem createMultiDeviceSentTranscriptContent_exit (recipient : Option ServiceId)
    (body : ContentBody) (timestamp : Nat)
    (results : List (Except MessageSenderError SentMessage)) (t : σ) :
    ∃ transcript, ((createMultiDeviceSentTranscriptContent X recipient body timestamp results).run
      h t).exit = .ret transcript := by
  unfold createMultiDeviceSentTranscriptContent
  split
  · exact ⟨_, rfl⟩
  · exact ⟨_, rfl⟩

/-- Only a data or an edit message has a transcript. -/
theorem encryptTranscript_synced {result : Except MessageSenderError SentMessage} {t : σ}
    {encrypted : EncryptedMessages}
    (made : ((sender.encryptTranscript X m result).run h t).exit = .ret (some encrypted)) :
    (syncable m.body).isSome = true := by
  cases body : syncable m.body with
  | some parts => rfl
  | none =>
      unfold encryptTranscript createMultiDeviceSentTranscriptContent at made
      rw [body] at made
      cases made

/-- A transcript is submitted exactly when its encryption gives messages. -/
theorem ownSend_submits_iff (plain : isSynchronizeMessage m.body = false)
    (result : Except MessageSenderError SentMessage) :
    Submits (sender.ownSend X h s m result).log ↔
      ∃ encrypted, ((sender.encryptTranscript X m result).run h
        (sender.recipientSend X h s m).state).exit = .ret (some encrypted) := by
  have quiet : ¬ Submits ((createMultiDeviceSentTranscriptContent X (some m.recipient) m.body
      m.timestamp [result]).run h (sender.recipientSend X h s m).state).log := by
    rw [← syncBody_of_plain plain]
    exact not_submits_of_calls syncBody_quiet _
  obtain ⟨transcript, made⟩ := createMultiDeviceSentTranscriptContent_exit (X := X) (h := h)
    (some m.recipient) m.body m.timestamp [result] (sender.recipientSend X h s m).state
  unfold ownSend sendToOwnDevices encryptTranscript
  rw [syncBody_of_plain plain, bind_eq, bind_eq, run_bind_of_ret h made, run_bind_of_ret h made,
    submits_append, or_iff_right quiet]
  cases transcript with
  | none =>
      refine iff_of_false ?_ ?_
      · rintro ⟨e, member, -⟩
        cases member
      · rintro ⟨encrypted, ended⟩
        cases ended
  | some transcript =>
      rw [← trySendMessage_submits_iff none m.timestamp false]
      have log := congrArg Ran.log (run_bind_done h (sender.trySendMessage X
        (.aci sender.localAci) none transcript m.timestamp false false) (fun _ => .ret ())
        ((createMultiDeviceSentTranscriptContent X (some m.recipient) m.body m.timestamp
          [result]).run h (sender.recipientSend X h s m).state).state)
      exact iff_of_eq (congrArg Submits log)

end Runs

section Examples

open Reference

end Examples

end SignalService.MessageSender

import SignalService.Sender.Batches

/-! # The attempts of a send

The loop of a send submits a batch for each attempt. Which answers it goes on after and
over which channel the next batch goes is a relation of its own; that no batch follows an
accepted one, and that a refused access is not used again, is read off it.
-/

namespace SignalService

open Effect Prog

variable {X : Externals}

namespace Submission

/-- The server refused the access key of an unidentified batch. -/
def AccessRefused (b : Submission) : Prop :=
  b.accessKey.isSome = true ∧ b.outcome = .throw .unauthorized

/-- An answer after which the batch is submitted again. -/
def Retryable (b : Submission) : Prop :=
  b.AccessRefused ∨ (∃ devices, b.outcome = .throw (.mismatchedDevicesException devices)) ∨
    ∃ devices, b.outcome = .throw (.staleDevices devices)

end Submission

namespace MessageSender

/-- The batches of a loop that has some attempts left and begins with `access`. -/
inductive Attempts : Nat → Option UnidentifiedAccess → List Submission → Prop where
  | quiet (attempts : Nat) (access : Option UnidentifiedAccess) : Attempts attempts access []
  | last (attempts : Nat) {access : Option UnidentifiedAccess} {b : Submission}
      (channel : b.accessKey = access.map (·.key)) : Attempts (attempts + 1) access [b]
  | retry {attempts : Nat} {access access' : Option UnidentifiedAccess} {b : Submission}
      {batches : List Submission} {e : ServiceError}
      (channel : b.accessKey = access.map (·.key)) (answered : b.outcome = .throw e)
      (retries : Retries e access access') (rest : Attempts attempts access' batches) :
      Attempts (attempts + 1) access (b :: batches)

theorem Retries.retryable {b : Submission} {e : ServiceError}
    {access access' : Option UnidentifiedAccess} (retries : Retries e access access')
    (channel : b.accessKey = access.map (·.key)) (answered : b.outcome = .throw e) :
    b.Retryable := by
  cases retries with
  | unauthorized access => exact .inl ⟨by simp [channel], answered⟩
  | mismatchedDevices devices => exact .inr (.inl ⟨devices, answered⟩)
  | staleDevices devices => exact .inr (.inr ⟨devices, answered⟩)

namespace Attempts

variable {attempts : Nat} {access : Option UnidentifiedAccess} {batches : List Submission}

theorem length_le (all : Attempts attempts access batches) : batches.length ≤ attempts := by
  induction all with
  | quiet => exact Nat.zero_le _
  | last => simp
  | retry _ _ _ _ ih => simpa using ih

/-- A loop without an access submits over the identified socket only. -/
theorem identified (all : Attempts attempts none batches) : ∀ b ∈ batches, b.accessKey = none := by
  generalize start : (none : Option UnidentifiedAccess) = access at all
  induction all with
  | quiet => simp
  | last _ channel =>
      subst start
      simpa using channel
  | retry channel answered retries rest ih =>
      subst start
      intro b member
      rcases List.mem_cons.mp member with rfl | member
      · exact channel
      · cases retries with
        | mismatchedDevices => exact ih rfl b member
        | staleDevices => exact ih rfl b member

/-- What the loop does after a batch, wherever the batch stands. -/
theorem after {before later : List Submission} {b : Submission}
    (all : Attempts attempts access batches) (split : batches = before ++ b :: later) :
    later = [] ∨ b.Retryable ∧ (b.AccessRefused → ∀ b' ∈ later, b'.accessKey = none) := by
  induction all generalizing before with
  | quiet => simp at split
  | last _ channel =>
      cases before with
      | nil =>
          obtain ⟨-, none⟩ := List.cons.inj split
          exact .inl none.symm
      | cons b' before => simp at split
  | retry channel answered retries rest ih =>
      cases before with
      | cons b' before => exact ih (List.cons.inj split).2
      | nil =>
          obtain ⟨rfl, rfl⟩ := List.cons.inj split
          right
          refine ⟨retries.retryable channel answered, ?_⟩
          rintro ⟨-, refused⟩
          rw [refused] at answered
          cases answered
          cases retries with
          | unauthorized access => exact rest.identified

end Attempts

variable {sender : MessageSender}

theorem sendLoop_attempts {recipient : ServiceId} {content : OutgoingContent} {timestamp : Nat}
    {online : Bool} {attempts : Nat} {access : Option UnidentifiedAccess} {es : List CallEvent}
    {x : Exit MessageSenderError SentMessage}
    (trace : Trace (sender.sendLoop X recipient content timestamp online attempts access) es x)
    (identity : Option IdentityKey) :
    Attempts attempts access (submissionsFrom X identity es) := by
  induction attempts generalizing access es x identity with
  | zero =>
      obtain ⟨rfl, rfl⟩ := trace_done.mp trace
      exact .quiet _ _
  | succ attempts ih =>
      -- an attempt that throws or panics is the last one
      have failing {y : Exit MessageSenderError (SentMessage ⊕ Option UnidentifiedAccess)}
          (failed : Trace (sender.sendAttempt X recipient content timestamp online access) es y) :
          Attempts (attempts + 1) access (submissionsFrom X identity es) := by
        rcases sendAttempt_submissions failed identity with ⟨quiet, -⟩ | ⟨b, only, -, channel, -⟩
        · rw [quiet]
          exact .quiet _ _
        · rw [only]
          exact .last _ channel
      rcases trace_bind.mp trace with
        ⟨e, failed, rfl⟩ | ⟨m, failed, rfl⟩ | ⟨next, es₁, es₂, rfl, attempted, rest⟩
      · exact failing failed
      · exact failing failed
      · rw [submissionsFrom_append]
        rcases sendAttempt_submissions attempted identity with
          ⟨-, failed⟩ | ⟨b, only, -, channel, ⟨sent, -, -, ended⟩ | ⟨-, retried⟩⟩
        · exact absurd rfl (failed next)
        · cases ended
          obtain ⟨rfl, rfl⟩ := trace_done.mp rest
          rw [only]
          exact .last _ channel
        · obtain ⟨e, access', answered, retries, rfl⟩ := retried next rfl
          rw [only]
          exact .retry channel answered retries (ih rest _)

theorem trySendContent_attempts {recipient : ServiceId} {access : Option UnidentifiedAccess}
    {content : OutgoingContent} {timestamp : Nat} {online : Bool} {es : List CallEvent}
    {x : Exit MessageSenderError SentMessage}
    (trace : Trace (sender.trySendContent X recipient access content timestamp online) es x)
    (identity : Option IdentityKey) : Attempts 4 access (submissionsFrom X identity es) := by
  obtain ⟨answer, rest, rfl, locked⟩ := trace_call.mp trace
  obtain ⟨es', released, rfl, held⟩ := trace_onExit.mp locked
  rw [submissionsFrom_cons_of_not_put X id, submissionsFrom_append,
    submissionsFrom_quiet X (unlock_quiet recipient released), List.append_nil]
  exact sendLoop_attempts held _

/-- The accepted batch of a send that returns is its last one. -/
theorem trySendContent_last {recipient : ServiceId} {access : Option UnidentifiedAccess}
    {content : OutgoingContent} {timestamp : Nat} {online : Bool} {es : List CallEvent}
    {x : Exit MessageSenderError SentMessage}
    (trace : Trace (sender.trySendContent X recipient access content timestamp online) es x)
    (sent : SentMessage) :
    x = .ret sent ↔ ∃ before b, submissions X es = before ++ [b] ∧ b.sentMessage = some sent := by
  have settles := trySendContent_settles trace none
  constructor
  · rintro rfl
    obtain ⟨b, member, -, message⟩ := settles.sentMessage
    obtain ⟨before, later, split⟩ := List.append_of_mem member
    rcases (trySendContent_attempts trace none).after split with rfl | ⟨retryable, -⟩
    · exact ⟨before, b, split, message⟩
    · have accepted := Submission.accepted_of_sentMessage message
      unfold Submission.Accepted at accepted
      rcases retryable with ⟨-, refused⟩ | ⟨devices, refused⟩ | ⟨devices, refused⟩ <;>
        simp [refused] at accepted
  · rintro ⟨before, b, split, message⟩
    have member : b ∈ submissions X es := by simp [split]
    exact settles.eq_ret member message

section Runs

variable {σ : Type} (h : Env σ) (s : σ) (recipient : ServiceId)
  (access : Option UnidentifiedAccess) (content : OutgoingContent) (timestamp : Nat) (online : Bool)

/-- One call of `try_send_content`, as run. -/
abbrev contentSend (X : Externals) (sender : MessageSender) :=
  (sender.trySendContent X recipient access content timestamp online).run h s

/-- A send submits at most four batches. Only the batches that were answered with a refused
    access, a mismatch of devices or stale devices are followed by another one, and after a
    refused access the identified socket is used. It returns exactly when the last batch is
    accepted, which is the only accepted one, and says over which channel that batch went. -/
theorem trySendContent_submits_once :
    (submissions X (contentSend h s recipient access content timestamp online X sender).log).length
        ≤ 4 ∧
      (∀ before b later,
        submissions X (contentSend h s recipient access content timestamp online X sender).log =
          before ++ b :: later →
        (¬ b.Retryable → later = []) ∧
          (b.AccessRefused → ∀ b' ∈ later, b'.accessKey = none)) ∧
      (∀ sent,
        (contentSend h s recipient access content timestamp online X sender).exit = .ret sent ↔
        ∃ before b,
          submissions X (contentSend h s recipient access content timestamp online X sender).log =
            before ++ [b] ∧ b.sentMessage = some sent) ∧
      (∀ sent,
        (contentSend h s recipient access content timestamp online X sender).exit = .ret sent →
        ∃ b, (submissions X
            (contentSend h s recipient access content timestamp online X sender).log).filter
              (·.Accepted) = [b] ∧ sent.unidentified = b.accessKey.isSome) ∧
      ((submissions X
        (contentSend h s recipient access content timestamp online X sender).log).filter
          (·.Accepted)).length ≤ 1 := by
  have trace := run_trace h (sender.trySendContent X recipient access content timestamp online) s
  have attempts := trySendContent_attempts trace none
  have settles := trySendContent_settles trace none
  refine ⟨attempts.length_le, ?_, trySendContent_last trace, ?_, settles.length_accepted_le⟩
  · intro before b later split
    rcases attempts.after split with none | ⟨retryable, identified⟩
    · exact ⟨fun _ => none, fun _ b' member => by simp [none] at member⟩
    · exact ⟨fun final => absurd retryable final, identified⟩
  · intro sent returned
    rcases settles.settled with ⟨-, failed⟩ | ⟨b, sent', only, message, ended⟩
    · exact absurd returned (failed sent)
    · have same : sent' = sent := Exit.ret.inj (ended.symm.trans returned)
      subst same
      exact ⟨b, only, Submission.unidentified_of_sentMessage message⟩

end Runs

end MessageSender

end SignalService

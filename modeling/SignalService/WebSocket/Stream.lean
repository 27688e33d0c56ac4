import SignalService.WebSocket.Pipe

/-! # The stream of a message pipe

What the consumer of `MessagePipe::stream` sees: the items of the requests, in the order in
which the server sent them, and then the reason for which the worker ended. It sees all of
it, at whatever moment the worker ends.
-/

namespace SignalService.WebSocket.Pipe

variable {X : Externals} {decode : Bytes → Option Envelope} {s next : Pipe}

/-- The reason that the last item tells. -/
def disconnectReason (s : Pipe) : DisconnectReason := (recorded s.worker.log).getD .transport

/-- The last item, once it was sent. -/
def final (s : Pipe) : List Item :=
  match s.waiting with
  | .finishing | .done => [.ok (.disconnected s.disconnectReason)]
  | _ => []

/-- The pipe has left its loop. -/
def Past (s : Pipe) : Prop := s.waiting ≠ .reading ∧ s.waiting ≠ .flushing

/-! ## Items -/

structure Emits (s : Pipe) : Prop where
  past : s.Past → s.worker.ended = true ∧ s.queue = []
  items : s.seen ++ s.sink = s.taken.filterMap Handled.item ++ s.final

theorem init_emits (keepAlivePath : String) : Emits (init keepAlivePath) :=
  ⟨fun past => absurd rfl past.1, rfl⟩

theorem worker_ended {w : Wakeup} (stepped : s.step X decode (.worker w) = some next) :
    s.worker.ended = false := by
  obtain ⟨-, worker, turned, -⟩ := step_worker stepped
  exact (System.step_eq turned).1

theorem step_emits {m : Move} (emits : Emits s) (stepped : s.step X decode m = some next) :
    Emits next := by
  obtain ⟨past, items⟩ := emits
  cases m with
  | worker w =>
      have running := worker_ended stepped
      obtain ⟨-, worker, -, rfl⟩ := step_worker stepped
      have inside : ¬ s.Past := by
        intro outside
        rw [(past outside).1] at running
        cases running
      refine ⟨fun outside => absurd outside inside, ?_⟩
      rw [show final { s with worker } = s.final from ?_]
      · exact items
      · unfold Past at inside
        unfold final
        cases waiting : s.waiting <;> simp_all
  | consume =>
      obtain ⟨item, sink, held, rfl⟩ := consume_cases stepped
      refine ⟨past, ?_⟩
      rw [held] at items
      rw [List.append_assoc]
      exact items
  | pipe =>
      cases advance_cases stepped with
      | took request channel rest reading queued =>
          have empty : s.final = [] := by simp [final, reading]
          rw [empty, List.append_nil] at items
          cases made : (s.handle decode request channel).item with
          | none =>
              refine ⟨fun outside => absurd (by simp [received, made]) outside.1, ?_⟩
              simp [received, final, made, items]
          | some item =>
              refine ⟨fun outside => absurd (by simp [received, made]) outside.2, ?_⟩
              simp [received, final, made, ← items]
      | stopped reading drained ended =>
          refine ⟨fun _ => ⟨ended, drained⟩, ?_⟩
          simpa [final, reading] using items
      | flushed flushing room =>
          refine ⟨fun outside => absurd rfl outside.1, ?_⟩
          simpa [final, flushing] using items
      | told reason =>
          refine ⟨fun _ => past (by simp [Past, reason]), ?_⟩
          have empty : s.final = [] := by simp [final, reason]
          rw [← List.append_assoc, items, empty, List.append_nil]
          rfl
      | finished finishing room =>
          refine ⟨fun _ => past (by simp [Past, finishing]), ?_⟩
          simpa [final, finishing, disconnectReason] using items

/-! ## The reason -/

/-- Before its last turn the worker records no reason, and keeps the sender for it. -/
def Unrecorded (worker : System) : Prop :=
  worker.ended = false → worker.process.disconnectReason = true ∧ recorded worker.log = none

/-- A turn either records nothing and goes on, or is the last and records its reason. -/
theorem recorded_step {worker worker' : System} {w : Wakeup} (unrecorded : Unrecorded worker)
    (turned : worker.step X w = some worker') :
    (worker'.ended = false ∧ Unrecorded worker') ∨
      (worker'.ended = true ∧
        (recorded worker'.log).getD .transport = reasonFor worker.process w) := by
  obtain ⟨running, woken, woke, rfl⟩ := System.step_eq turned
  obtain ⟨sender, none⟩ := unrecorded running
  have going (ended : woken.ended = Option.none)
      (kept : woken.process.disconnectReason = worker.process.disconnectReason)
      (same : recorded (woken.actions.reverse ++ worker.log) = recorded worker.log) :
      (woken.ended.isSome = false ∧ Unrecorded ⟨woken.process,
        System.respondersAfter worker.responders w, worker.channels + 1,
        woken.actions.reverse ++ worker.log, woken.ended.isSome⟩) := by
    refine ⟨by simp [ended], fun _ => ⟨?_, ?_⟩⟩
    · rw [kept, sender]
    · rw [same, none]
  cases wake_exchange woke with
  | forward request waits kept actions ended =>
      exact .inl (going ended kept (by rw [actions]; rfl))
  | answer ready answer sent wakeup waited waits kept actions ended =>
      refine .inl (going ended kept ?_)
      rw [actions]
      cases answer <;> rfl
  | unrelated waits kept actions ended =>
      exact .inl (going ended kept (recorded_unrelated (by simpa using actions)))
  | last told actions ended reason =>
      refine .inr ⟨ended, ?_⟩
      have silent : ∀ a ∈ told.reverse, a.Unrelated := by simpa using actions
      rcases reason with ⟨same, plain⟩ | same
      · rw [same, recorded_unrelated silent, none, plain]
        rfl
      · rw [same, List.reverse_append, List.append_assoc, recorded_unrelated silent]
        simp [SignalWebSocketProcess.setDisconnectReason, sender, recorded]

/-- Once the worker has ended, no move changes it. -/
theorem step_worker_fixed {m : Move} (ended : s.worker.ended = true)
    (stepped : s.step X decode m = some next) : next.worker = s.worker := by
  cases m with
  | worker w =>
      rw [worker_ended stepped] at ended
      cases ended
  | consume =>
      obtain ⟨item, sink, -, rfl⟩ := consume_cases stepped
      rfl
  | pipe => cases advance_cases stepped <;> rfl

theorem worker_fixed {moves : List Move} (ended : s.worker.ended = true)
    (ran : s.run X decode moves = some next) : next.worker = s.worker := by
  refine run_keeps (P := fun t => t.worker = s.worker) ?_ rfl ran
  intro t m t' same stepped
  rw [step_worker_fixed (same ▸ ended) stepped, same]

/-- The reason is that of the turn in which the worker ended. -/
theorem run_reason {moves : List Move} (unrecorded : Unrecorded s.worker)
    (running : s.worker.ended = false) (ran : s.run X decode moves = some next)
    (ended : next.worker.ended = true) :
    ∃ before w after s₀, moves = before ++ .worker w :: after ∧
      s.run X decode before = some s₀ ∧ s₀.worker.ended = false ∧
      next.disconnectReason = reasonFor s₀.worker.process w := by
  induction moves generalizing s with
  | nil =>
      cases ran
      rw [running] at ended
      cases ended
  | cons m moves ih =>
      obtain ⟨s', stepped, ran⟩ := run_cons ran
      have later (unrecorded : Unrecorded s'.worker) (running : s'.worker.ended = false) :
          ∃ before w after s₀, m :: moves = before ++ .worker w :: after ∧
            s.run X decode before = some s₀ ∧ s₀.worker.ended = false ∧
            next.disconnectReason = reasonFor s₀.worker.process w := by
        obtain ⟨before, w, after, s₀, rfl, reached, alive, reason⟩ := ih unrecorded running ran
        refine ⟨m :: before, w, after, s₀, rfl, ?_, alive, reason⟩
        rw [run, stepped]
        exact reached
      cases m with
      | worker w =>
          obtain ⟨-, worker, turned, rfl⟩ := step_worker stepped
          rcases recorded_step unrecorded turned with ⟨going, unrecorded⟩ | ⟨stops, reason⟩
          · exact later unrecorded going
          · refine ⟨[], w, moves, s, rfl, rfl, running, ?_⟩
            unfold disconnectReason
            rw [worker_fixed stops ran]
            exact reason
      | consume =>
          obtain ⟨item, sink, -, rfl⟩ := consume_cases stepped
          exact later unrecorded running
      | pipe =>
          have same : s'.worker = s.worker := by cases advance_cases stepped <;> rfl
          exact later (same ▸ unrecorded) (same ▸ running)

/-! ## Acknowledged envelopes -/

/-- Every request that was taken was taken by some move of the pipe. -/
theorem taken_from {moves : List Move} (ran : s.run X decode moves = some next) {t : Handled}
    (member : t ∈ next.taken) :
    t ∈ s.taken ∨ ∃ before after s₀, moves = before ++ .pipe :: after ∧
      s.run X decode before = some s₀ ∧ s₀.queue.head? = some (t.request, t.channel) ∧
      t = s₀.handle decode t.request t.channel := by
  induction moves generalizing s with
  | nil =>
      cases ran
      exact .inl member
  | cons m moves ih =>
      obtain ⟨s', stepped, ran⟩ := run_cons ran
      rcases ih ran with earlier | ⟨before, after, s₀, rfl, reached, head, made⟩
      · cases m with
        | worker w =>
            obtain ⟨-, worker, -, rfl⟩ := step_worker stepped
            exact .inl earlier
        | consume =>
            obtain ⟨item, sink, -, rfl⟩ := consume_cases stepped
            exact .inl earlier
        | pipe =>
            cases advance_cases stepped with
            | took request channel rest reading queued =>
                rcases List.mem_append.mp earlier with earlier | new
                · exact .inl earlier
                · cases List.mem_singleton.mp new
                  exact .inr ⟨[], moves, s, rfl, rfl, by rw [queued]; rfl, rfl⟩
            | stopped | flushed | told | finished => exact .inl earlier
      · refine .inr ⟨m :: before, after, s₀, rfl, ?_, head, made⟩
        rw [run, stepped]
        exact reached

theorem processRequest_envelope {alive : Bool} {request : WebSocketRequestMessage}
    {envelope : Envelope} {answer : Option WebSocketResponseMessage}
    (made : processRequest decode alive request = (.ok (some (.envelope envelope)), answer)) :
    alive = true ∧ request.body.bind decode = some envelope ∧
      answer = some { id := request.id, status := some 200, message := some "OK" } := by
  unfold processRequest respond at made
  cases kind : request.isSignalServiceEnvelope with
  | false =>
      simp only [kind, Bool.false_eq_true, if_false] at made
      split at made <;> cases alive <;> simp at made
  | true =>
      cases body : request.body with
      | none => simp [kind, body] at made
      | some bytes =>
          cases decoded : decode bytes with
          | none => simp [kind, body, decoded] at made
          | some found =>
              cases alive with
              | false => simp [kind, body, decoded] at made
              | true =>
                  simp only [kind, body, decoded, if_true, Prod.mk.injEq, Except.ok.injEq,
                    Option.some.injEq, Incoming.envelope.injEq] at made
                  obtain ⟨rfl, rfl⟩ := made
                  exact ⟨rfl, decoded, by simp [WebSocketResponseMessage.fromRequest, kind]⟩

theorem processRequest_not_disconnected {alive : Bool} {request : WebSocketRequestMessage}
    {reason : DisconnectReason} {answer : Option WebSocketResponseMessage} :
    processRequest decode alive request ≠ (.ok (some (.disconnected reason)), answer) := by
  unfold processRequest respond
  split
  · split
    · simp
    · split
      · simp
      · split <;> simp
  · split <;> split <;> simp

theorem Handled.result_of_item {t : Handled} {incoming : Incoming}
    (item : t.item = some (.ok incoming)) : t.result = .ok (some incoming) := by
  unfold Handled.item at item
  split at item
  · cases item
  · next incoming' result =>
      cases item
      exact result
  · cases item

/-! ## After the worker's end -/

/-- How far the pipe is from its end. -/
def remaining (s : Pipe) : Nat :=
  5 * s.queue.length + s.sink.length + match s.waiting with
    | .reading => 4
    | .flushing => 5
    | .reason => 3
    | .finishing => 1
    | .done => 0

theorem remaining_decreases {m : Move} (ended : s.worker.ended = true)
    (stepped : s.step X decode m = some next) : next.remaining < s.remaining := by
  cases m with
  | worker w =>
      rw [worker_ended stepped] at ended
      cases ended
  | consume =>
      obtain ⟨item, sink, held, rfl⟩ := consume_cases stepped
      have same : queue { s with sink, seen := s.seen ++ [item] } = s.queue := rfl
      simp only [remaining, same, held, List.length_cons]
      omega
  | pipe =>
      cases advance_cases stepped with
      | took request channel rest reading queued =>
          unfold remaining
          rw [queue_received queued, queued, reading]
          cases made : (s.handle decode request channel).item with
          | none => simp [received, made]
          | some item =>
              simp [received, made]
              omega
      | stopped reading drained ended =>
          have same : queue { s with waiting := .reason } = s.queue := rfl
          simp only [remaining, same, reading]
          omega
      | flushed flushing room =>
          have same : queue { s with waiting := .reading } = s.queue := rfl
          simp only [remaining, same, flushing]
          omega
      | told reason =>
          have same : queue { s with
              waiting := .finishing
              sink := s.sink ++ [.ok (.disconnected ((recorded s.worker.log).getD .transport))] } =
            s.queue := rfl
          simp only [remaining, same, reason, List.length_append, List.length_singleton]
          omega
      | finished finishing room =>
          have same : queue { s with waiting := .done } = s.queue := rfl
          simp only [remaining, same, finishing]
          omega

/-- After the worker's end the others make a bounded number of moves. -/
theorem run_bounded {moves : List Move} (ended : s.worker.ended = true)
    (ran : s.run X decode moves = some next) : moves.length ≤ s.remaining := by
  induction moves generalizing s with
  | nil => exact Nat.zero_le _
  | cons m moves ih =>
      obtain ⟨s', stepped, ran⟩ := run_cons ran
      have shorter := ih (step_worker_fixed ended stepped ▸ ended) ran
      have less := remaining_decreases ended stepped
      simp only [List.length_cons]
      omega

/-- When none of them can move, the pipe is done and the consumer has got everything. -/
theorem stuck_done (ended : s.worker.ended = true) (stuck : ∀ m, s.step X decode m = none) :
    s.waiting = .done ∧ s.sink = [] := by
  have taken : s.sink = [] := by
    have blocked : s.consume = none := stuck .consume
    unfold consume at blocked
    split at blocked
    · assumption
    · cases blocked
  refine ⟨?_, taken⟩
  have blocked : s.advance decode = none := stuck .pipe
  unfold advance at blocked
  cases waiting : s.waiting with
  | done => rfl
  | reading =>
      simp only [waiting] at blocked
      split at blocked
      · split at blocked <;> cases blocked
      · rw [if_pos ended] at blocked
        cases blocked
  | flushing => simp [waiting, flushed, taken] at blocked
  | reason => simp [waiting] at blocked
  | finishing => simp [waiting, flushed, taken] at blocked

/-! ## What the consumer sees -/

/-- What a run of the worker, the pipe and its consumer has led to, and leads to. -/
structure Streams (X : Externals) (decode : Bytes → Option Envelope) (keepAlivePath : String)
    (moves : List Move) (s : Pipe) : Prop where
  /-- Requests are taken in the order in which they came. -/
  inOrder : (forwarded s.worker.log).map Prod.fst = s.taken.map (·.request) ++ s.queue.map Prod.fst
  /-- There is at most one item for a request, none of them tells of the end, and the end is
      told once, behind them and when no request is left. -/
  items : s.seen ++ s.sink = s.taken.filterMap Handled.item ∨
    (s.worker.ended = true ∧ s.queue = [] ∧ s.seen ++ s.sink =
      s.taken.filterMap Handled.item ++ [.ok (.disconnected s.disconnectReason)])
  incoming : ∀ t ∈ s.taken, ∀ reason, t.item ≠ some (.ok (.disconnected reason))
  /-- The request of an envelope was answered while the worker was there. -/
  acknowledged : ∀ t ∈ s.taken, ∀ envelope, t.item = some (.ok (.envelope envelope)) →
    t.answer = some { id := t.request.id, status := some 200, message := some "OK" } ∧
      ∃ before after s₀, moves = before ++ .pipe :: after ∧
        (init keepAlivePath).run X decode before = some s₀ ∧ s₀.worker.ended = false ∧
        s₀.queue.head? = some (t.request, t.channel)
  /-- After the worker's end nobody moves for ever, and when nobody can move any more the
      consumer has seen everything. -/
  bounded : s.worker.ended = true →
    ∀ later last, s.run X decode later = some last → later.length ≤ s.remaining
  complete : s.worker.ended = true → (∀ m, s.step X decode m = none) →
    (forwarded s.worker.log).map Prod.fst = s.taken.map (·.request) ∧
      s.seen = s.taken.filterMap Handled.item ++ [.ok (.disconnected s.disconnectReason)]
  /-- The reason is that of the turn in which the worker ended. -/
  reason : s.worker.ended = true → ∃ before w after s₀, moves = before ++ .worker w :: after ∧
    (init keepAlivePath).run X decode before = some s₀ ∧ s₀.worker.ended = false ∧
    s.disconnectReason = reasonFor s₀.worker.process w

theorem run_streams {keepAlivePath : String} {moves : List Move}
    (ran : (init keepAlivePath).run X decode moves = some s) :
    Streams X decode keepAlivePath moves s := by
  have took : Took decode s :=
    run_keeps (fun _ _ _ took stepped => step_took took stepped) (init_took keepAlivePath) ran
  have emits : Emits s :=
    run_keeps (fun _ _ _ emits stepped => step_emits emits stepped) (init_emits keepAlivePath) ran
  have unrecorded : Unrecorded (init keepAlivePath).worker := fun _ => ⟨rfl, rfl⟩
  have inOrder : (forwarded s.worker.log).map Prod.fst =
      s.taken.map (·.request) ++ s.queue.map Prod.fst := by
    rw [took.inOrder, List.map_append, List.map_map]
    rfl
  refine ⟨inOrder, ?_, ?_, ?_, fun ended later last => run_bounded ended, ?_,
    run_reason unrecorded rfl ran⟩
  · have items := emits.items
    cases waiting : s.waiting with
    | reading | flushing | reason => exact .inl (by simpa [final, waiting] using items)
    | finishing | done =>
        obtain ⟨ended, drained⟩ := emits.past (by simp [Past, waiting])
        exact .inr ⟨ended, drained, by simpa [final, waiting] using items⟩
  · intro t member reason item
    obtain ⟨alive, made⟩ := took.handled t member
    rw [Handled.result_of_item item] at made
    exact processRequest_not_disconnected made
  · intro t member envelope item
    rcases taken_from ran member with none | ⟨before, after, s₀, split, reached, head, handled⟩
    · cases none
    · have made : processRequest decode (!s₀.worker.ended) t.request = (t.result, t.answer) := by
        rw [handled]
        rfl
      rw [Handled.result_of_item item] at made
      obtain ⟨alive, -, answer⟩ := processRequest_envelope made
      exact ⟨answer, before, after, s₀, split, reached, by simpa using alive, head⟩
  · intro ended stuck
    obtain ⟨waiting, empty⟩ := stuck_done ended stuck
    obtain ⟨-, drained⟩ := emits.past (by simp [Past, waiting])
    have items := emits.items
    rw [drained, List.map_nil, List.append_nil] at inOrder
    exact ⟨inOrder, by simpa [empty, final, waiting] using items⟩

namespace PipeSample

/-- An envelope without a field set is written in no bytes. -/
def decodeEnvelope (bytes : Bytes) : Option Envelope := if bytes = [] then some {} else none

def envelopeRequest : WebSocketRequestMessage where
  verb := some "PUT"
  path := some "/api/v1/message"
  body := some []
  id := some 7

/-- The server sends an envelope, gets its answer, and closes. -/
def closedElsewhere : List Move :=
  [.worker (.frame (some ⟨some 1, some envelopeRequest, none⟩) true), .pipe, .consume, .pipe,
    .worker (.response 0 (some (.fromRequest envelopeRequest)) true),
    .worker (.closeFrame 4409 "Connected elsewhere"), .pipe, .pipe, .consume, .pipe]

end PipeSample

open PipeSample in
theorem closed_elsewhere_streamed :
    ∃ s, (init "/v1/keepalive").run reference decodeEnvelope closedElsewhere = some s ∧
      s.seen = [.ok (.envelope {}), .ok (.disconnected .connectedElsewhere)] ∧
      Streams reference decodeEnvelope "/v1/keepalive" closedElsewhere s := by
  refine ⟨_, rfl, rfl, run_streams rfl⟩

end SignalService.WebSocket.Pipe

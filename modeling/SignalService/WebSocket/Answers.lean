import SignalService.WebSocket.Stream

/-! # Answers to the server's requests

The pipe answers a request over its oneshot, and the worker sends what it finds there. While
the worker runs, every request that could be read is answered once. A request for an
envelope that is missing or cannot be decoded is dropped with its responder, and no answer
to it is ever sent.
-/

namespace SignalService.WebSocket

/-- What the server is to be told about a request. -/
def Answers (request : WebSocketRequestMessage) (response : WebSocketResponseMessage) : Prop :=
  response.id = request.id ∧
    response.status = some (if request.isSignalServiceEnvelope || request.isQueueEmpty then 200
      else 400)

theorem fromRequest_answers (request : WebSocketRequestMessage) :
    Answers request (.fromRequest request) := by
  unfold Answers WebSocketResponseMessage.fromRequest
  split <;> exact ⟨rfl, rfl⟩

/-- A request for an envelope has one in its body. -/
def Readable (decode : Bytes → Option Envelope) (request : WebSocketRequestMessage) : Prop :=
  request.isSignalServiceEnvelope = true → (request.body.bind decode).isSome = true

instance (decode : Bytes → Option Envelope) (request : WebSocketRequestMessage) :
    Decidable (Readable decode request) := inferInstanceAs (Decidable (_ → _))

/-- A live worker gets an answer to the requests that can be read. -/
theorem processRequest_readable {decode : Bytes → Option Envelope}
    {request : WebSocketRequestMessage} (readable : Readable decode request) :
    (processRequest decode true request).2 = some (.fromRequest request) := by
  unfold processRequest respond
  split
  · next kind =>
      obtain ⟨envelope, found⟩ := Option.isSome_iff_exists.mp (readable kind)
      obtain ⟨body, held, decoded⟩ := Option.bind_eq_some_iff.mp found
      simp [held, decoded]
  · split <;> rfl

/-- It gets none to the others. -/
theorem processRequest_unreadable {decode : Bytes → Option Envelope}
    {request : WebSocketRequestMessage} (unreadable : ¬ Readable decode request) (alive : Bool) :
    (processRequest decode alive request).2 = none := by
  obtain ⟨kind, missing⟩ := Classical.not_imp.mp unreadable
  unfold processRequest
  cases body : request.body with
  | none => simp [kind]
  | some bytes =>
      have decoded : decode bytes = none := by simpa [body] using missing
      simp [kind, decoded]

namespace Pipe

variable {X : Externals} {decode : Bytes → Option Envelope} {s next : Pipe}

/-- The oneshots that the worker waits on. -/
def oneshots (s : Pipe) : List Nat := s.worker.process.outgoingResponses

/-- The responses that wait in their oneshots. -/
def pending (s : Pipe) : List WebSocketResponseMessage :=
  (s.taken.filter fun t => t.channel ∈ s.oneshots).filterMap (·.answer)

/-- The responses that were sent. -/
def sent (s : Pipe) : List WebSocketResponseMessage := responded s.worker.log

/-- What holds while the worker runs: oneshots are not mixed up, those of the requests still
    queued are waited on, and what the pipe has answered was sent or is about to be. -/
structure Served (decode : Bytes → Option Envelope) (s : Pipe) : Prop where
  fresh : ∀ x ∈ forwarded s.worker.log, x.2 < s.worker.channels
  distinct : ((forwarded s.worker.log).map Prod.snd).Nodup
  waits : ∀ x ∈ s.queue, x.2 ∈ s.oneshots
  once : s.oneshots.Nodup
  made : ∀ channel ∈ s.oneshots, channel < s.worker.channels
  live : ∀ t ∈ s.taken, processRequest decode true t.request = (t.result, t.answer)
  answered : (s.sent ++ s.pending).Perm (s.taken.filterMap (·.answer))

theorem init_served (keepAlivePath : String) : Served decode (init keepAlivePath) where
  fresh := by simp [init, System.init, forwarded]
  distinct := by simp [init, System.init, forwarded]
  waits := by simp [queue, init, System.init, forwarded]
  once := List.nodup_nil
  made := by simp [oneshots, init, System.init, SignalWebSocketProcess.new]
  live := by simp [init]
  answered := .refl _

/-- Taking the answer out of one oneshot of many. -/
theorem pending_erase {taken : List Handled} {channels : List Nat} {t : Handled}
    (distinct : (taken.map (·.channel)).Nodup) (once : channels.Nodup) (member : t ∈ taken)
    (waited : t.channel ∈ channels) :
    ((taken.filter fun t => t.channel ∈ channels).filterMap (·.answer)).Perm
      (t.answer.toList ++
        (taken.filter fun t' => t'.channel ∈ channels.erase t.channel).filterMap (·.answer)) := by
  obtain ⟨before, after, rfl⟩ := List.append_of_mem member
  rw [List.map_append, List.map_cons] at distinct
  have others : ∀ t' ∈ before ++ after, t'.channel ≠ t.channel := by
    intro t' member same
    have moved := List.nodup_middle.mp distinct
    refine (List.nodup_cons.mp moved).1 ?_
    rw [← List.map_append, ← same]
    exact List.mem_map_of_mem member
  have kept {l : List Handled} (sub : ∀ t' ∈ l, t' ∈ before ++ after) :
      (l.filter fun t' => t'.channel ∈ channels.erase t.channel) =
        l.filter fun t' => t'.channel ∈ channels := by
    refine List.filter_congr fun t' member => ?_
    rw [decide_eq_decide]
    exact List.mem_erase_of_ne (others t' (sub t' member))
  have gone : t.channel ∉ channels.erase t.channel := once.not_mem_erase
  rw [List.filter_append, List.filter_append, List.filter_cons_of_pos (by simpa using waited),
    List.filter_cons_of_neg (by simpa using gone),
    kept fun t' member => List.mem_append_left _ member,
    kept fun t' member => List.mem_append_right _ member, List.filterMap_append,
    List.filterMap_append]
  cases answer : t.answer with
  | none => simp [answer]
  | some response =>
      simp only [List.filterMap_cons, answer, Option.toList_some, List.singleton_append]
      exact List.perm_middle

theorem taken_channels (took : Took decode s) (served : Served decode s) :
    (s.taken.map (·.channel)).Nodup ∧ ∀ t ∈ s.taken, ∀ x ∈ s.queue, t.channel ≠ x.2 := by
  have distinct := served.distinct
  rw [took.inOrder, List.map_append, List.map_map] at distinct
  obtain ⟨takenDistinct, -, apart⟩ := List.nodup_append.mp distinct
  refine ⟨takenDistinct, fun t member x queued => ?_⟩
  exact apart t.channel (List.mem_map_of_mem member) x.2 (List.mem_map_of_mem queued)

theorem taken_fresh (took : Took decode s) (served : Served decode s) :
    ∀ t ∈ s.taken, t.channel < s.worker.channels := by
  intro t member
  refine served.fresh (t.request, t.channel) ?_
  rw [took.inOrder]
  exact List.mem_append_left _ (List.mem_map_of_mem member)

/-- A move that leaves the worker's log and oneshots alone, and what was taken. -/
theorem Served.congr (served : Served decode s) (worker : next.worker = s.worker)
    (taken : next.taken = s.taken) : Served decode next := by
  obtain ⟨fresh, distinct, waits, once, made, live, answered⟩ := served
  have queue : next.queue = s.queue := by rw [Pipe.queue, Pipe.queue, worker, taken]
  have oneshots : next.oneshots = s.oneshots := by rw [Pipe.oneshots, Pipe.oneshots, worker]
  have pending : next.pending = s.pending := by rw [Pipe.pending, Pipe.pending, oneshots, taken]
  have sent : next.sent = s.sent := by rw [Pipe.sent, Pipe.sent, worker]
  constructor
  · rwa [worker]
  · rwa [worker]
  · rwa [queue, oneshots]
  · rwa [oneshots]
  · rwa [oneshots, worker]
  · rwa [taken]
  · rwa [sent, pending, taken]

section Worker

variable {worker : System}

theorem queue_worker (took : Took decode s) {new : List (WebSocketRequestMessage × Nat)}
    (grown : forwarded worker.log = forwarded s.worker.log ++ new) :
    queue { s with worker } = s.queue ++ new := by
  refine queue_eq_of_append (s := { s with worker }) ?_
  rw [← List.append_assoc, ← took.inOrder]
  exact grown

theorem Served.forward {request : WebSocketRequestMessage} (took : Took decode s)
    (served : Served decode s)
    (grown : forwarded worker.log = forwarded s.worker.log ++ [(request, s.worker.channels)])
    (waited : worker.process.outgoingResponses = s.worker.channels :: s.oneshots)
    (same : responded worker.log = s.sent) (counted : worker.channels = s.worker.channels + 1) :
    Served decode { s with worker } := by
  have earlier := taken_fresh took served
  obtain ⟨fresh, distinct, waits, once, made, live, answered⟩ := served
  have oneshots_eq : oneshots { s with worker } = s.worker.channels :: s.oneshots := waited
  refine ⟨?_, ?_, ?_, ?_, ?_, live, ?_⟩
  · intro x member
    rw [grown, List.mem_append, List.mem_singleton] at member
    rw [counted]
    rcases member with member | rfl
    · exact Nat.lt_succ_of_lt (fresh x member)
    · exact Nat.lt_succ_self _
  · rw [grown, List.map_append, List.nodup_append]
    refine ⟨distinct, List.nodup_singleton _, ?_⟩
    intro channel member new new_eq same
    obtain ⟨x, forwardedBefore, rfl⟩ := List.mem_map.mp member
    cases List.mem_singleton.mp new_eq
    exact Nat.lt_irrefl _ (same ▸ fresh x forwardedBefore)
  · intro x member
    rw [queue_worker took grown, List.mem_append, List.mem_singleton] at member
    rw [oneshots_eq]
    rcases member with member | rfl
    · exact List.mem_cons_of_mem _ (waits x member)
    · exact List.mem_cons_self
  · rw [oneshots_eq]
    exact List.nodup_cons.mpr ⟨fun member => Nat.lt_irrefl _ (made _ member), once⟩
  · intro channel member
    rw [oneshots_eq, List.mem_cons] at member
    rw [counted]
    rcases member with rfl | member
    · exact Nat.lt_succ_self _
    · exact Nat.lt_succ_of_lt (made channel member)
  · have pending_eq : pending { s with worker } = s.pending := by
      unfold pending
      rw [oneshots_eq]
      congr 1
      refine List.filter_congr fun t member => ?_
      have other : t.channel ≠ s.worker.channels := Nat.ne_of_lt (earlier t member)
      simp [other]
    rw [pending_eq]
    unfold sent at same ⊢
    rw [same]
    exact answered

theorem Served.answer {t : Handled} (took : Took decode s) (served : Served decode s)
    (member : t ∈ s.taken) (ready : t.channel ∈ s.oneshots)
    (grown : forwarded worker.log = forwarded s.worker.log)
    (waited : worker.process.outgoingResponses = s.oneshots.erase t.channel)
    (told : responded worker.log = t.answer.toList ++ s.sent)
    (counted : worker.channels = s.worker.channels + 1) : Served decode { s with worker } := by
  obtain ⟨takenDistinct, apart⟩ := taken_channels took served
  obtain ⟨fresh, distinct, waits, once, made, live, answered⟩ := served
  have oneshots_eq : oneshots { s with worker } = s.oneshots.erase t.channel := waited
  have queue_eq : queue { s with worker } = s.queue := by
    rw [queue_worker took (by rw [grown, List.append_nil]), List.append_nil]
  refine ⟨?_, ?_, ?_, ?_, ?_, live, ?_⟩
  · intro x forwardedBefore
    rw [grown] at forwardedBefore
    rw [counted]
    exact Nat.lt_succ_of_lt (fresh x forwardedBefore)
  · rw [grown]
    exact distinct
  · intro x queued
    rw [queue_eq] at queued
    rw [oneshots_eq]
    exact (List.mem_erase_of_ne (apart t member x queued).symm).mpr (waits x queued)
  · rw [oneshots_eq]
    exact once.erase _
  · intro channel kept
    rw [oneshots_eq] at kept
    rw [counted]
    exact Nat.lt_succ_of_lt (made channel (List.mem_of_mem_erase kept))
  · have split : s.pending.Perm (t.answer.toList ++ pending { s with worker }) := by
      unfold pending
      rw [oneshots_eq]
      exact pending_erase takenDistinct once member ready
    refine List.Perm.trans ?_ answered
    have told' : sent { s with worker } = t.answer.toList ++ s.sent := told
    rw [told']
    refine (List.perm_append_comm.append_right _).trans ?_
    rw [List.append_assoc]
    exact split.symm.append_left _

theorem Served.unrelated (took : Took decode s) (served : Served decode s)
    (grown : forwarded worker.log = forwarded s.worker.log)
    (waited : worker.process.outgoingResponses = s.oneshots)
    (same : responded worker.log = s.sent) (counted : worker.channels = s.worker.channels + 1) :
    Served decode { s with worker } := by
  obtain ⟨fresh, distinct, waits, once, made, live, answered⟩ := served
  have oneshots_eq : oneshots { s with worker } = s.oneshots := waited
  have queue_eq : queue { s with worker } = s.queue := by
    rw [queue_worker took (by rw [grown, List.append_nil]), List.append_nil]
  refine ⟨?_, ?_, ?_, ?_, ?_, live, ?_⟩
  · intro x member
    rw [grown] at member
    rw [counted]
    exact Nat.lt_succ_of_lt (fresh x member)
  · rw [grown]
    exact distinct
  · rw [queue_eq, oneshots_eq]
    exact waits
  · rw [oneshots_eq]
    exact once
  · intro channel member
    rw [oneshots_eq] at member
    rw [counted]
    exact Nat.lt_succ_of_lt (made channel member)
  · unfold pending sent at *
    rw [oneshots_eq, same]
    exact answered

theorem worker_served {w : Wakeup} (took : Took decode s) (served : Served decode s)
    (ready : s.Ready w) (turned : s.worker.step X w = some worker)
    (running : worker.ended = false) : Served decode { s with worker } := by
  obtain ⟨-, woken, woke, rfl⟩ := System.step_eq turned
  cases wake_exchange woke with
  | forward request waits kept actions going =>
      exact served.forward took (by rw [actions]; rfl) waits (by rw [actions]; rfl) rfl
  | answer channel answer sent wakeup waited waits kept actions going =>
      subst wakeup
      obtain ⟨t, member, rfl, rfl⟩ := ready
      refine served.answer took member waited ?_ waits ?_ rfl
      · rw [actions]
        cases t.answer <;> rfl
      · rw [actions]
        cases t.answer <;> rfl
  | unrelated waits kept actions going =>
      have silent : ∀ a ∈ woken.actions.reverse, a.Unrelated := by simpa using actions
      exact served.unrelated took (forwarded_unrelated silent) waits (responded_unrelated silent)
        rfl
  | last told actions ended reason =>
      rw [ended] at running
      cases running

end Worker

theorem received_served {request : WebSocketRequestMessage} {channel : Nat}
    {rest : List (WebSocketRequestMessage × Nat)} (served : Served decode s)
    (running : s.worker.ended = false) (queued : s.queue = (request, channel) :: rest) :
    Served decode (s.received (s.handle decode request channel)) := by
  obtain ⟨fresh, distinct, waits, once, made, live, answered⟩ := served
  refine ⟨fresh, distinct, ?_, once, made, ?_, ?_⟩
  · intro x member
    rw [queue_received queued] at member
    exact waits x (by rw [queued]; exact List.mem_cons_of_mem _ member)
  · intro t member
    rcases List.mem_append.mp member with member | member
    · exact live t member
    · cases List.mem_singleton.mp member
      have handled : processRequest decode (!s.worker.ended) request = _ :=
        handle_processRequest request channel
      rw [running] at handled
      exact handled
  · have waited : channel ∈ s.oneshots := waits (request, channel) (by simp [queued])
    have grown : pending (s.received (s.handle decode request channel)) =
        s.pending ++ (s.handle decode request channel).answer.toList := by
      have kept : (s.handle decode request channel).channel ∈ s.oneshots := waited
      have same : oneshots (s.received (s.handle decode request channel)) = s.oneshots := rfl
      unfold pending
      rw [same, received, List.filter_append, List.filterMap_append]
      congr 1
      cases answer : (s.handle decode request channel).answer <;> simp [kept, answer]
    have taken : (s.received (s.handle decode request channel)).taken.filterMap (·.answer) =
        s.taken.filterMap (·.answer) ++ (s.handle decode request channel).answer.toList := by
      rw [received, List.filterMap_append]
      cases answer : (s.handle decode request channel).answer <;> simp [answer]
    rw [grown, taken, ← List.append_assoc]
    exact answered.append_right _

/-- Every move that leaves the worker running keeps the invariant. -/
theorem step_served {m : Move} (took : Took decode s) (served : Served decode s)
    (stepped : s.step X decode m = some next) (running : next.worker.ended = false) :
    Served decode next := by
  cases m with
  | worker w =>
      obtain ⟨ready, worker, turned, rfl⟩ := step_worker stepped
      exact worker_served took served ready turned running
  | consume =>
      obtain ⟨item, sink, held, rfl⟩ := consume_cases stepped
      exact served.congr rfl rfl
  | pipe =>
      cases advance_cases stepped with
      | took request channel rest reading queued => exact received_served served running queued
      | stopped | flushed | told | finished => exact served.congr rfl rfl

/-! ## Nothing stays unanswered -/

/-- A reached state in which the worker still runs. -/
structure Running (decode : Bytes → Option Envelope) (s : Pipe) : Prop where
  took : Took decode s
  emits : Emits s
  alive : s.worker.ended = false
  served : Served decode s

theorem step_running {m : Move} (running : Running decode s)
    (stepped : s.step X decode m = some next) (alive : next.worker.ended = false) :
    Running decode next :=
  ⟨step_took running.took stepped, step_emits running.emits stepped, alive,
    step_served running.took running.served stepped alive⟩

theorem run_running {keepAlivePath : String} {moves : List Move}
    (ran : (init keepAlivePath).run X decode moves = some s) (alive : s.worker.ended = false) :
    Running decode s := by
  have kept : s.worker.ended = false → Running decode s := by
    refine run_keeps (P := fun s => s.worker.ended = false → Running decode s) ?_ ?_ ran
    · intro s m next before stepped alive
      have earlier : s.worker.ended = false := by
        rw [← Bool.not_eq_true]
        intro ended
        rw [step_worker_fixed ended stepped, ended] at alive
        cases alive
      exact step_running (before earlier) stepped alive
    · intro alive
      exact ⟨init_took _, init_emits _, alive, init_served _⟩
  exact kept alive

/-- What is left to do about the requests that came so far. -/
def work (s : Pipe) : Nat :=
  5 * s.queue.length + s.sink.length + (if s.waiting = .flushing then 1 else 0) +
    s.oneshots.length

theorem advance_reading {request : WebSocketRequestMessage} {channel : Nat}
    {rest : List (WebSocketRequestMessage × Nat)} (reading : s.waiting = .reading)
    (queued : s.queue = (request, channel) :: rest) :
    s.advance decode = some (s.received (s.handle decode request channel)) := by
  cases item : (s.handle decode request channel).item <;>
    simp [advance, received, reading, queued, item]

theorem response_step {t : Handled} (alive : s.worker.ended = false)
    (waited : t.channel ∈ s.oneshots) :
    ∃ worker, s.worker.step X (.response t.channel t.answer true) = some worker ∧
      worker.ended = false ∧ forwarded worker.log = forwarded s.worker.log ∧
      worker.process.outgoingResponses = s.oneshots.erase t.channel := by
  have woke : s.worker.process.wake X s.worker.responders s.worker.channels
      (.response t.channel t.answer true) =
        some ⟨{ s.worker.process with outgoingResponses := s.oneshots.erase t.channel },
          (t.answer.map Action.sendResponse).toList, none⟩ := by
    unfold oneshots at waited ⊢
    cases t.answer <;>
      simp [SignalWebSocketProcess.wake, SignalWebSocketProcess.wakeResponse, waited]
  refine ⟨⟨{ s.worker.process with outgoingResponses := s.oneshots.erase t.channel },
    s.worker.responders, s.worker.channels + 1,
    (t.answer.map Action.sendResponse).toList.reverse ++ s.worker.log, false⟩, ?_, rfl, ?_, rfl⟩
  · simp [System.step, System.respondersAfter, alive, woke]
  · cases t.answer <;> rfl

/-- Somebody can move, with less left to do and no other request. -/
def Moves (X : Externals) (decode : Bytes → Option Envelope) (s : Pipe) : Prop :=
  ∃ m next, s.step X decode m = some next ∧ next.worker.ended = false ∧
    forwarded next.worker.log = forwarded s.worker.log ∧ next.work < s.work

theorem moves_reading {request : WebSocketRequestMessage} {channel : Nat}
    {rest : List (WebSocketRequestMessage × Nat)} (alive : s.worker.ended = false)
    (reading : s.waiting = .reading) (queued : s.queue = (request, channel) :: rest) :
    Moves X decode s := by
  refine ⟨.pipe, _, advance_reading reading queued, alive, rfl, ?_⟩
  unfold work
  rw [queue_received queued, queued, reading]
  cases item : (s.handle decode request channel).item with
  | none => simp [received, item, oneshots]
  | some item' =>
      simp [received, item, oneshots]
      omega

/-- With room in the channel the pipe goes on reading, and without the consumer makes some. -/
theorem moves_flushing (alive : s.worker.ended = false) (flushing : s.waiting = .flushing) :
    Moves X decode s := by
  by_cases room : s.sink.length ≤ 1
  · refine ⟨.pipe, { s with waiting := .reading }, ?_, alive, rfl, ?_⟩
    · simp [step, advance, flushing, flushed, room]
    · have same : queue { s with waiting := .reading } = s.queue := rfl
      have oneshots_eq : oneshots { s with waiting := .reading } = s.oneshots := rfl
      simp only [work, same, oneshots_eq, flushing, if_true, reduceCtorEq, if_false]
      omega
  · cases held : s.sink with
    | nil => simp [held] at room
    | cons item sink =>
        refine ⟨.consume, { s with sink, seen := s.seen ++ [item] }, ?_, alive, rfl, ?_⟩
        · simp [step, consume, held]
        · have same : queue { s with sink, seen := s.seen ++ [item] } = s.queue := rfl
          have oneshots_eq : oneshots { s with sink, seen := s.seen ++ [item] } = s.oneshots := rfl
          simp only [work, same, oneshots_eq, held, List.length_cons]
          omega

theorem moves_response {t : Handled} (took : Took decode s) (alive : s.worker.ended = false)
    (drained : s.queue = []) (member : t ∈ s.taken) (waited : t.channel ∈ s.oneshots) :
    Moves X decode s := by
  obtain ⟨worker, turned, going, grown, left⟩ := response_step (X := X) alive waited
  refine ⟨.worker (.response t.channel t.answer true), { s with worker }, ?_, going, grown, ?_⟩
  · have ready : s.Ready (.response t.channel t.answer true) := ⟨t, member, rfl, rfl⟩
    simp [step, ready, turned]
  · have still : queue { s with worker } = [] := by
      rw [queue_worker took (by rw [grown, List.append_nil]), drained, List.append_nil]
    have shorter : (oneshots { s with worker }).length < s.oneshots.length := by
      have erased : oneshots { s with worker } = s.oneshots.erase t.channel := left
      have pos : 0 < s.oneshots.length := List.length_pos_of_mem waited
      rw [erased, List.length_erase_of_mem waited]
      omega
    simp only [work, still, drained]
    omega

/-- As long as a request is queued, or an answer waits to be sent, somebody can move. -/
theorem progress (running : Running decode s) :
    (s.queue = [] ∧ ∀ t ∈ s.taken, t.channel ∉ s.oneshots) ∨ Moves X decode s := by
  obtain ⟨took, emits, alive, served⟩ := running
  cases queued : s.queue with
  | cons x rest =>
      right
      have inside : ¬ s.Past := by
        intro past
        rw [(emits.past past).1] at alive
        cases alive
      cases waiting : s.waiting with
      | reading => exact moves_reading alive waiting queued
      | flushing => exact moves_flushing alive waiting
      | reason | finishing | done => exact absurd (by simp [Past, waiting]) inside
  | nil =>
      by_cases waiting : ∃ t ∈ s.taken, t.channel ∈ s.oneshots
      · obtain ⟨t, member, waited⟩ := waiting
        exact .inr (moves_response took alive queued member waited)
      · exact .inl ⟨rfl, fun t member waited => waiting ⟨t, member, waited⟩⟩

/-- The requests that came so far can all be dealt with before another one comes. -/
theorem drains (running : Running decode s) :
    ∃ later last, s.run X decode later = some last ∧ Running decode last ∧
      forwarded last.worker.log = forwarded s.worker.log ∧ last.queue = [] ∧
      ∀ t ∈ last.taken, t.channel ∉ last.oneshots := by
  induction bound : s.work using Nat.strong_induction_on generalizing s with
  | _ n ih =>
      rcases progress (X := X) running with ⟨drained, none⟩ |
        ⟨m, next, stepped, alive, grown, less⟩
      · exact ⟨[], s, rfl, running, rfl, drained, none⟩
      · obtain ⟨later, last, ran, runningLast, grownLast, drained, none⟩ :=
          ih next.work (bound ▸ less) (step_running running stepped alive) rfl
        refine ⟨m :: later, last, ?_, runningLast, grownLast.trans grown, drained, none⟩
        rw [run, stepped]
        exact ran

/-! ## Every request is answered once -/

/-- The requests that were taken are answered, each once; and all requests that came so far
    can be, by the moves of the pipe, its consumer and the worker that are still to come. -/
structure Answered (X : Externals) (decode : Bytes → Option Envelope) (s : Pipe) : Prop where
  once : ∃ responses, responses.Perm (s.sent ++ s.pending) ∧
    List.Forall₂ Answers (s.taken.map (·.request)) responses
  all : ∃ later last, s.run X decode later = some last ∧ last.worker.ended = false ∧
    forwarded last.worker.log = forwarded s.worker.log ∧
    ∃ responses, responses.Perm last.sent ∧
      List.Forall₂ Answers ((forwarded s.worker.log).map Prod.fst) responses

theorem forall₂_answers (requests : List WebSocketRequestMessage) :
    List.Forall₂ Answers requests (requests.map .fromRequest) := by
  induction requests with
  | nil => exact .nil
  | cons request requests ih => exact .cons (fromRequest_answers request) ih

theorem answers_of_readable (served : Served decode s)
    (readable : ∀ t ∈ s.taken, Readable decode t.request) :
    s.taken.filterMap (·.answer) =
      (s.taken.map (·.request)).map WebSocketResponseMessage.fromRequest := by
  have answered : ∀ t ∈ s.taken, t.answer = some (.fromRequest t.request) := by
    intro t member
    have answer := processRequest_readable (readable t member)
    rw [served.live t member] at answer
    exact answer
  rw [List.map_map, ← List.filterMap_eq_map]
  exact List.filterMap_congr answered

/-- A state in which all requests were answered has none that could not be read. -/
theorem readable_of_answered (running : Running decode s)
    {responses : List WebSocketResponseMessage} (sent : responses.Perm s.sent)
    (answers : List.Forall₂ Answers ((forwarded s.worker.log).map Prod.fst) responses) :
    ∀ x ∈ forwarded s.worker.log, Readable decode x.1 := by
  obtain ⟨took, -, -, served⟩ := running
  have counted : (forwarded s.worker.log).length ≤ (s.taken.filterMap (·.answer)).length := by
    rw [← served.answered.length_eq, List.length_append, ← sent.length_eq, ← answers.length_eq,
      List.length_map]
    exact Nat.le_add_right _ _
  have fewer := List.length_filterMap_le (·.answer) s.taken
  have total : (forwarded s.worker.log).length = s.taken.length + s.queue.length := by
    rw [took.inOrder, List.length_append, List.length_map]
  have drained : s.queue = [] := List.eq_nil_of_length_eq_zero (by omega)
  have everyone : ∀ t ∈ s.taken, t.answer.isSome := by
    have full : (s.taken.filterMap (·.answer)).length = s.taken.length := by omega
    exact List.filterMap_length_eq_length.mp full
  intro x member
  rw [took.inOrder, drained, List.append_nil] at member
  obtain ⟨t, taken, rfl⟩ := List.mem_map.mp member
  by_contra unreadable
  have answer : t.answer = none := by
    have dropped := processRequest_unreadable unreadable true
    rw [served.live t taken] at dropped
    exact dropped
  have answered := everyone t taken
  rw [answer] at answered
  cases answered

/-- In a state that is reached while the worker runs, the server's requests are answered,
    each once, exactly when every envelope among them can be read. -/
theorem answered_iff {keepAlivePath : String} {moves : List Move}
    (ran : (init keepAlivePath).run X decode moves = some s) (alive : s.worker.ended = false) :
    Answered X decode s ↔
      ∀ request ∈ (forwarded s.worker.log).map Prod.fst, Readable decode request := by
  have running := run_running ran alive
  rw [List.forall_mem_map]
  constructor
  · rintro ⟨-, later, last, ranLater, aliveLast, grown, responses, sent, answers⟩
    have reached : (init keepAlivePath).run X decode (moves ++ later) = some last := by
      rw [run_append, ran]
      exact ranLater
    rw [← grown] at answers ⊢
    exact readable_of_answered (run_running reached aliveLast) sent answers
  · intro readable
    have took : ∀ {s : Pipe}, Running decode s → (∀ x ∈ forwarded s.worker.log,
        Readable decode x.1) → ∀ t ∈ s.taken, Readable decode t.request := by
      intro s running readable t member
      refine readable (t.request, t.channel) ?_
      rw [running.took.inOrder]
      exact List.mem_append_left _ (List.mem_map_of_mem member)
    refine ⟨⟨_, running.served.answered.symm, ?_⟩, ?_⟩
    · rw [answers_of_readable running.served (took running readable)]
      exact forall₂_answers _
    · obtain ⟨later, last, ranLater, runningLast, grown, drained, none⟩ := drains (X := X) running
      refine ⟨later, last, ranLater, runningLast.alive, grown, _, ?_, forall₂_answers _⟩
      rw [← grown] at readable ⊢
      have waiting : last.pending = [] := by
        unfold pending
        rw [List.filter_eq_nil_iff.mpr (by simpa using none)]
        rfl
      have answered := runningLast.served.answered
      rw [waiting, List.append_nil,
        answers_of_readable runningLast.served (took runningLast readable)] at answered
      rw [runningLast.took.inOrder, drained, List.append_nil, List.map_map (g := Prod.fst)]
      exact answered.symm

namespace PipeSample

/-- A request for an envelope, without a body. -/
def emptyRequest : WebSocketRequestMessage where
  verb := some "PUT"
  path := some "/api/v1/message"
  id := some 7

end PipeSample

open PipeSample in
/-- The pipe drops the responder of the request, and nothing is sent for it. -/
theorem empty_request_not_answered :
    ∃ s, (init "/v1/keepalive").run reference decodeEnvelope
        [.worker (.frame (some ⟨some 1, some emptyRequest, none⟩) true), .pipe,
          .worker (.response 0 none true)] = some s ∧
      s.worker.ended = false ∧ ¬ Answered reference decodeEnvelope s := by
  refine ⟨_, rfl, rfl, ?_⟩
  rintro ⟨⟨responses, sent, answers⟩, -⟩
  have none : responses = [] := List.perm_nil.mp sent
  rw [none] at answers
  cases answers

open PipeSample in
theorem envelope_request_answered :
    ∃ s, (init "/v1/keepalive").run reference decodeEnvelope
        [.worker (.frame (some ⟨some 1, some envelopeRequest, none⟩) true), .pipe] = some s ∧
      s.worker.ended = false ∧ Answered reference decodeEnvelope s := by
  have reached : ∃ s, (init "/v1/keepalive").run reference decodeEnvelope
      [.worker (.frame (some ⟨some 1, some envelopeRequest, none⟩) true), .pipe] = some s ∧
        s.worker.ended = false ∧ forwarded s.worker.log = [(envelopeRequest, 0)] :=
    ⟨_, rfl, rfl, rfl⟩
  obtain ⟨s, ran, alive, came⟩ := reached
  refine ⟨s, ran, alive, (answered_iff ran alive).mpr ?_⟩
  intro request member
  rw [came] at member
  cases List.mem_singleton.mp member
  exact fun _ => rfl

end Pipe

end SignalService.WebSocket

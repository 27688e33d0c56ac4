import SignalService.WebSocket.InFlight

/-! # The message pipe

`MessagePipe` reads the requests that the worker forwards, answers each one over its
oneshot, and hands what it made of it to the consumer of its stream. It starts on a fresh
socket. A task runs from one `await` to the next without the others, and the last turn of
the worker drops its channels: the stream of requests ends, and answers no longer reach it.
-/

namespace SignalService

/-! ## Requests of the server -/

namespace WebSocketRequestMessage

def isSignalServiceEnvelope (request : WebSocketRequestMessage) : Bool :=
  request.verb == some "PUT" && request.path == some "/api/v1/message"

def isQueueEmpty (request : WebSocketRequestMessage) : Bool :=
  request.verb == some "PUT" && request.path == some "/api/v1/queue/empty"

end WebSocketRequestMessage

def WebSocketResponseMessage.fromRequest (msg : WebSocketRequestMessage) :
    WebSocketResponseMessage :=
  if msg.isSignalServiceEnvelope || msg.isQueueEmpty then
    { id := msg.id, status := some 200, message := some "OK" }
  else
    { id := msg.id, status := some 400, message := some "Unknown" }

namespace WebSocket

inductive Incoming where
  | envelope (envelope : Envelope)
  | queueEmpty
  | disconnected (reason : DisconnectReason)
  deriving DecidableEq, Repr

/-- An item of the stream. -/
abbrev Item := Except ServiceError Incoming

section Processing

variable (decode : Bytes → Option Envelope)

/-- `responder.send(response)` and what is returned then; it fails if the worker is gone. -/
def respond (alive : Bool) (response : WebSocketResponseMessage) (result : Option Incoming) :
    Except ServiceError (Option Incoming) × Option WebSocketResponseMessage :=
  if alive then (.ok result, some response)
  else (.error (.wsClosing "could not respond to message pipe request"), none)

/-- `process_request`: its result, and the response that reached the worker. A responder that
    is dropped before it was used reaches it as a cancellation. -/
def processRequest (alive : Bool) (request : WebSocketRequestMessage) :
    Except ServiceError (Option Incoming) × Option WebSocketResponseMessage :=
  let response := WebSocketResponseMessage.fromRequest request
  if request.isSignalServiceEnvelope then
    match request.body with
    | none => (.error (.invalidFrame "request without body."), none)
    | some body =>
        match decode body with
        | none => (.error .protobufDecodeError, none)
        | some envelope => respond alive response (some (.envelope envelope))
  else if request.isQueueEmpty then respond alive response (some .queueEmpty)
  else respond alive response none

end Processing

/-! ## The pipe and its surroundings -/

/-- A request that the pipe has taken off the stream, with what `process_request` made of it. -/
structure Handled where
  request : WebSocketRequestMessage
  channel : Nat
  result : Except ServiceError (Option Incoming)
  /-- The response in the oneshot, or its cancellation. -/
  answer : Option WebSocketResponseMessage

/-- `transpose`: the item that is sent for a request, if there is one. -/
def Handled.item (handled : Handled) : Option Item :=
  match handled.result with
  | .ok none => none
  | .ok (some incoming) => some (.ok incoming)
  | .error e => some (.error e)

/-- Where `MessagePipe::run` waits. -/
inductive Waiting where
  /-- `stream.next()` -/
  | reading
  /-- `sink.send(env)`, with the item already in the channel -/
  | flushing
  /-- the disconnect reason -/
  | reason
  /-- the last `sink.send` -/
  | finishing
  | done
  deriving DecidableEq, Repr

/-- The requests that the worker has forwarded, oldest first, with their oneshots. -/
def forwarded : List Action → List (WebSocketRequestMessage × Nat)
  | [] => []
  | .forward request channel :: log => forwarded log ++ [(request, channel)]
  | _ :: log => forwarded log

/-- The responses that the worker has sent, newest first. -/
def responded : List Action → List WebSocketResponseMessage
  | [] => []
  | .sendResponse response :: log => response :: responded log
  | _ :: log => responded log

/-- The disconnect reason that the worker has recorded. -/
def recorded : List Action → Option DisconnectReason
  | [] => none
  | .disconnected reason :: _ => some reason
  | _ :: log => recorded log

/-- The worker, the pipe on its socket, and the consumer of the pipe's stream. -/
structure Pipe where
  worker : System
  waiting : Waiting
  taken : List Handled
  /-- The items in the `mpsc::channel(1)`. -/
  sink : List Item
  /-- The items that the consumer has got. -/
  seen : List Item

inductive Move where
  | worker (w : Wakeup)
  | pipe
  | consume

namespace Pipe

variable (X : Externals) (decode : Bytes → Option Envelope)

def init (keepAlivePath : String) : Pipe := ⟨.init keepAlivePath, .reading, [], [], []⟩

/-- The requests in the unbounded channel. -/
def queue (s : Pipe) : List (WebSocketRequestMessage × Nat) :=
  (forwarded s.worker.log).drop s.taken.length

/-- The worker finds the request handler there, and an oneshot ready only when the pipe has
    used or dropped its responder. -/
def Ready (s : Pipe) : Wakeup → Prop
  | .frame _ handled => handled = true
  | .response channel answer _ => ∃ t ∈ s.taken, t.channel = channel ∧ t.answer = answer
  | _ => True

instance (s : Pipe) : (w : Wakeup) → Decidable (s.Ready w)
  | .frame _ handled => inferInstanceAs (Decidable (handled = true))
  | .response channel answer _ =>
      inferInstanceAs (Decidable (∃ t ∈ s.taken, t.channel = channel ∧ t.answer = answer))
  | .tick _ _ | .request _ _ _ | .requestsEnded | .closeFrame _ _ | .ignored | .transportError
  | .streamEnded => inferInstanceAs (Decidable True)

def handle (s : Pipe) (request : WebSocketRequestMessage) (channel : Nat) : Handled :=
  let (result, answer) := processRequest decode (!s.worker.ended) request
  ⟨request, channel, result, answer⟩

/-- A send is over once no more than the channel's one buffered item is left. -/
def flushed (s : Pipe) (next : Waiting) : Option Pipe :=
  if s.sink.length ≤ 1 then some { s with waiting := next } else none

/-- `MessagePipe::run`, from where it waits to where it waits next. -/
def advance (s : Pipe) : Option Pipe :=
  match s.waiting with
  | .reading =>
      match s.queue with
      | (request, channel) :: _ =>
          let handled := s.handle decode request channel
          match handled.item with
          | some item => some { s with
              waiting := .flushing, taken := s.taken ++ [handled], sink := s.sink ++ [item] }
          | none => some { s with taken := s.taken ++ [handled] }
      | [] => if s.worker.ended then some { s with waiting := .reason } else none
  | .flushing => s.flushed .reading
  | .reason =>
      -- the worker's sender is gone by now, used or not
      some { s with
        waiting := .finishing
        sink := s.sink ++ [.ok (.disconnected ((recorded s.worker.log).getD .transport))] }
  | .finishing => s.flushed .done
  | .done => none

def consume (s : Pipe) : Option Pipe :=
  match s.sink with
  | [] => none
  | item :: sink => some { s with sink, seen := s.seen ++ [item] }

def step (s : Pipe) : Move → Option Pipe
  | .worker w =>
      if s.Ready w then (s.worker.step X w).map fun worker => { s with worker } else none
  | .pipe => s.advance decode
  | .consume => s.consume

def run (s : Pipe) : List Move → Option Pipe
  | [] => some s
  | m :: moves => (s.step X decode m).bind fun next => next.run moves

end Pipe

/-! ## What one turn of the worker means for the pipe -/

/-- The disconnect reason that a worker ends with, by the turn that ended it. -/
def reasonFor (p : SignalWebSocketProcess) : Wakeup → DisconnectReason
  | .closeFrame code reason => .fromClose code reason
  | .tick _ _ => if p.outgoingKeepAliveSet.Nonempty then .keepaliveTimeout else .transport
  | _ => .transport

/-- An action that neither the server's requests nor the disconnect reason have a part in. -/
def Action.Unrelated : Action → Prop
  | .sendRequest _ _ | .settle _ _ | .close => True
  | _ => False

/-- A turn forwards a request, takes an answer from a oneshot, does neither, or is the last. -/
inductive Exchange (p : SignalWebSocketProcess) (channel : Nat) (w : Wakeup) (woken : Woken) :
    Prop where
  | forward (request : WebSocketRequestMessage)
      (waits : woken.process.outgoingResponses = channel :: p.outgoingResponses)
      (kept : woken.process.disconnectReason = p.disconnectReason)
      (actions : woken.actions = [.forward request channel]) (going : woken.ended = none)
  | answer (ready : Nat) (answer : Option WebSocketResponseMessage) (sent : Bool)
      (wakeup : w = .response ready answer sent) (waited : ready ∈ p.outgoingResponses)
      (waits : woken.process.outgoingResponses = p.outgoingResponses.erase ready)
      (kept : woken.process.disconnectReason = p.disconnectReason)
      (actions : woken.actions = (answer.map Action.sendResponse).toList)
      (going : woken.ended = none)
  | unrelated (waits : woken.process.outgoingResponses = p.outgoingResponses)
      (kept : woken.process.disconnectReason = p.disconnectReason)
      (actions : ∀ a ∈ woken.actions, a.Unrelated) (going : woken.ended = none)
  | last (told : List Action) (actions : ∀ a ∈ told, a.Unrelated)
      (ended : woken.ended.isSome)
      (reason : (woken.actions = told ∧ reasonFor p w = .transport) ∨
        woken.actions = (p.setDisconnectReason (reasonFor p w)).2 ++ told)

section Exchange

variable {X : Externals} {p : SignalWebSocketProcess} {responder channel : Nat} {woken : Woken}

theorem wakeTick_exchange {draws : List Nat} {sent : Bool}
    (woke : p.wakeTick draws sent = some woken) :
    Exchange p channel (.tick draws sent) woken := by
  unfold SignalWebSocketProcess.wakeTick at woke
  split at woke
  · next outstanding =>
      cases woke
      refine .last [.close] (by simp [Action.Unrelated]) rfl (.inr ?_)
      rw [reasonFor, if_pos outstanding]
      rfl
  · next idle =>
      obtain ⟨id, -, woke⟩ := Option.map_eq_some_iff.mp woke
      cases sent with
      | true =>
          cases woke
          exact .unrelated rfl rfl (by simp [Action.Unrelated]) rfl
      | false =>
          cases woke
          exact .last [] (by simp) rfl (.inl ⟨rfl, by simp [reasonFor, idle]⟩)

theorem wakeRequest_exchange {request : WebSocketRequestMessage} {draws : List Nat} {sent : Bool}
    (woke : p.wakeRequest responder request draws sent = some woken) :
    Exchange p channel (.request request draws sent) woken := by
  obtain ⟨id, -, woke⟩ := Option.map_eq_some_iff.mp woke
  cases sent with
  | true =>
      cases woke
      exact .unrelated rfl rfl (by simp [Action.Unrelated]) rfl
  | false =>
      cases woke
      exact .last [] (by simp) rfl (.inl ⟨rfl, rfl⟩)

theorem processResponse_exchange {w : Wakeup} (plain : reasonFor p w = .transport)
    (response : WebSocketResponseMessage) :
    Exchange p channel w (p.processResponse X response) := by
  unfold SignalWebSocketProcess.processResponse
  split
  · exact .unrelated rfl rfl (by simp) rfl
  · split
    · exact .unrelated rfl rfl (by simp [Action.Unrelated]) rfl
    · split
      · cases SignalWebSocketProcess.keepAliveStatus X response with
        | ok _ => exact .unrelated rfl rfl (by simp [Action.Unrelated]) rfl
        | error e => exact .last _ (by simp [Action.Unrelated]) rfl (.inl ⟨rfl, plain⟩)
      · exact .unrelated rfl rfl (by simp) rfl

theorem processFrame_exchange {w : Wakeup} (plain : reasonFor p w = .transport)
    (message : WebSocketMessage) (handled : Bool) :
    Exchange p channel w (p.processFrame X message channel handled) := by
  unfold SignalWebSocketProcess.processFrame
  split
  · exact .last [] (by simp) rfl (.inl ⟨rfl, plain⟩)
  · split
    · exact .forward _ rfl rfl rfl rfl
    · exact .last [] (by simp) rfl (.inl ⟨rfl, plain⟩)
  · exact .last [] (by simp) rfl (.inl ⟨rfl, plain⟩)
  · exact processResponse_exchange plain _
  · exact .last [] (by simp) rfl (.inl ⟨rfl, plain⟩)

theorem wakeResponse_exchange {ready : Nat} {answer : Option WebSocketResponseMessage}
    {sent : Bool} (woke : p.wakeResponse ready answer sent = some woken) :
    Exchange p channel (.response ready answer sent) woken := by
  unfold SignalWebSocketProcess.wakeResponse at woke
  split at woke
  · next waited =>
      cases answer with
      | none =>
          cases woke
          exact .answer ready none sent rfl waited rfl rfl rfl rfl
      | some response =>
          cases sent with
          | true =>
              cases woke
              exact .answer ready (some response) true rfl waited rfl rfl rfl rfl
          | false =>
              cases woke
              exact .last [] (by simp) rfl (.inl ⟨rfl, rfl⟩)
  · cases woke

theorem wake_exchange {w : Wakeup} (woke : p.wake X responder channel w = some woken) :
    Exchange p channel w woken := by
  cases w with
  | tick draws sent => exact wakeTick_exchange woke
  | request request draws sent => exact wakeRequest_exchange woke
  | requestsEnded =>
      cases woke
      exact .last [] (by simp) rfl (.inl ⟨rfl, rfl⟩)
  | ignored =>
      cases woke
      exact .unrelated rfl rfl (by simp) rfl
  | frame message handled =>
      cases message with
      | none =>
          cases woke
          exact .last [] (by simp) rfl (.inl ⟨rfl, rfl⟩)
      | some message =>
          cases woke
          exact processFrame_exchange rfl message handled
  | closeFrame | transportError | streamEnded =>
      cases woke
      exact .last [] (by simp) rfl (.inr (List.append_nil _).symm)
  | response ready answer sent => exact wakeResponse_exchange woke

end Exchange

section Logs

variable {actions log : List Action}

theorem forwarded_unrelated (unrelated : ∀ a ∈ actions, a.Unrelated) :
    forwarded (actions ++ log) = forwarded log := by
  refine read_append_of_skipped ?_ unrelated
  intro a log unrelated
  cases a with
  | sendRequest | settle | close => rfl
  | sendResponse | forward | disconnected => exact unrelated.elim

theorem responded_unrelated (unrelated : ∀ a ∈ actions, a.Unrelated) :
    responded (actions ++ log) = responded log := by
  refine read_append_of_skipped ?_ unrelated
  intro a log unrelated
  cases a with
  | sendRequest | settle | close => rfl
  | sendResponse | forward | disconnected => exact unrelated.elim

theorem recorded_unrelated (unrelated : ∀ a ∈ actions, a.Unrelated) :
    recorded (actions ++ log) = recorded log := by
  refine read_append_of_skipped ?_ unrelated
  intro a log unrelated
  cases a with
  | sendRequest | settle | close => rfl
  | sendResponse | forward | disconnected => exact unrelated.elim

end Logs

/-! ## What one move does -/

namespace Pipe

variable {X : Externals} {decode : Bytes → Option Envelope} {s next : Pipe}

/-- The pipe after it has taken a request off the stream. -/
def received (s : Pipe) (handled : Handled) : Pipe :=
  { s with
    waiting := if handled.item.isSome then .flushing else .reading
    taken := s.taken ++ [handled]
    sink := s.sink ++ handled.item.toList }

/-- The moves of the pipe's task. -/
inductive Advanced (decode : Bytes → Option Envelope) (s : Pipe) : Pipe → Prop where
  | took (request : WebSocketRequestMessage) (channel : Nat)
      (rest : List (WebSocketRequestMessage × Nat)) (reading : s.waiting = .reading)
      (queued : s.queue = (request, channel) :: rest) :
      Advanced decode s (s.received (s.handle decode request channel))
  | stopped (reading : s.waiting = .reading) (drained : s.queue = [])
      (ended : s.worker.ended = true) : Advanced decode s { s with waiting := .reason }
  | flushed (flushing : s.waiting = .flushing) (room : s.sink.length ≤ 1) :
      Advanced decode s { s with waiting := .reading }
  | told (reason : s.waiting = .reason) :
      Advanced decode s { s with
        waiting := .finishing
        sink := s.sink ++ [.ok (.disconnected ((recorded s.worker.log).getD .transport))] }
  | finished (finishing : s.waiting = .finishing) (room : s.sink.length ≤ 1) :
      Advanced decode s { s with waiting := .done }

theorem advance_cases (moved : s.advance decode = some next) : Advanced decode s next := by
  unfold advance at moved
  split at moved
  · next reading =>
      split at moved
      · next request channel rest queued =>
          have took : Advanced decode s _ := .took request channel rest reading queued
          dsimp only at moved
          split at moved
          · next item made =>
              cases moved
              simpa [received, made] using took
          · next made =>
              cases moved
              simpa [received, made, ← reading] using took
      · next drained =>
          split at moved
          · next ended =>
              cases moved
              exact .stopped reading drained ended
          · cases moved
  · next flushing =>
      unfold flushed at moved
      split at moved
      · next room =>
          cases moved
          exact .flushed flushing room
      · cases moved
  · next reason =>
      cases moved
      exact .told reason
  · next finishing =>
      unfold flushed at moved
      split at moved
      · next room =>
          cases moved
          exact .finished finishing room
      · cases moved
  · cases moved

theorem step_worker {w : Wakeup} (stepped : s.step X decode (.worker w) = some next) :
    s.Ready w ∧ ∃ worker, s.worker.step X w = some worker ∧ next = { s with worker } := by
  simp only [step] at stepped
  split at stepped
  · next ready =>
      obtain ⟨worker, turned, rfl⟩ := Option.map_eq_some_iff.mp stepped
      exact ⟨ready, worker, turned, rfl⟩
  · cases stepped

theorem consume_cases (moved : s.consume = some next) :
    ∃ item sink, s.sink = item :: sink ∧ next = { s with sink, seen := s.seen ++ [item] } := by
  unfold consume at moved
  split at moved
  · cases moved
  · next item sink held =>
      cases moved
      exact ⟨item, sink, held, rfl⟩

/-- A turn of the worker forwards at most one request, behind all others. -/
theorem forwarded_step {worker worker' : System} {w : Wakeup}
    (turned : worker.step X w = some worker') :
    ∃ new, forwarded worker'.log = forwarded worker.log ++ new := by
  obtain ⟨-, woken, woke, rfl⟩ := System.step_eq turned
  have unrelated {actions : List Action} (unrelated : ∀ a ∈ actions, a.Unrelated) :
      ∃ new, forwarded (actions ++ worker.log) = forwarded worker.log ++ new :=
    ⟨[], by rw [forwarded_unrelated unrelated, List.append_nil]⟩
  cases wake_exchange woke with
  | forward request waits kept actions going =>
      simp only [actions]
      exact ⟨[(request, worker.channels)], rfl⟩
  | answer ready answer sent wakeup waited waits kept actions going =>
      simp only [actions]
      cases answer <;> exact ⟨[], (List.append_nil _).symm⟩
  | unrelated waits kept actions going => exact unrelated (by simpa using actions)
  | last told actions ended reason =>
      rcases reason with ⟨same, -⟩ | same
      · exact unrelated (by simpa [same] using actions)
      · simp only [same, List.reverse_append, List.append_assoc]
        unfold SignalWebSocketProcess.setDisconnectReason
        rw [forwarded_unrelated (by simpa using actions)]
        split
        · exact ⟨[], (List.append_nil _).symm⟩
        · exact ⟨[], (List.append_nil _).symm⟩

theorem run_cons {m : Move} {moves : List Move} (ran : s.run X decode (m :: moves) = some next) :
    ∃ s', s.step X decode m = some s' ∧ s'.run X decode moves = some next :=
  Option.bind_eq_some_iff.mp ran

theorem run_append (before after : List Move) :
    s.run X decode (before ++ after) =
      (s.run X decode before).bind fun s' => s'.run X decode after := by
  induction before generalizing s with
  | nil => rfl
  | cons m before ih =>
      simp only [List.cons_append, run]
      cases s.step X decode m with
      | none => rfl
      | some s' => exact ih

/-- What every move keeps, every run keeps. -/
theorem run_keeps {P : Pipe → Prop} {moves : List Move}
    (keeps : ∀ s m next, P s → s.step X decode m = some next → P next) (start : P s)
    (ran : s.run X decode moves = some next) : P next := by
  induction moves generalizing s with
  | nil =>
      cases ran
      exact start
  | cons m moves ih =>
      obtain ⟨s', stepped, ran⟩ := run_cons ran
      exact ih (keeps s m s' start stepped) ran

/-! ## Requests in their order -/

/-- The pipe has taken the requests in the order in which the worker forwarded them, and
    made of each what `process_request` makes of it. -/
structure Took (decode : Bytes → Option Envelope) (s : Pipe) : Prop where
  inOrder : forwarded s.worker.log =
    s.taken.map (fun t => (t.request, t.channel)) ++ s.queue
  handled : ∀ t ∈ s.taken, ∃ alive, processRequest decode alive t.request = (t.result, t.answer)

theorem init_took (keepAlivePath : String) : Took decode (init keepAlivePath) :=
  ⟨rfl, by simp [init]⟩

theorem queue_eq_of_append {s : Pipe} {rest : List (WebSocketRequestMessage × Nat)}
    (inOrder : forwarded s.worker.log = s.taken.map (fun t => (t.request, t.channel)) ++ rest) :
    s.queue = rest := by
  unfold queue
  rw [inOrder]
  exact List.drop_left' (by simp)

theorem inOrder_of_append {s : Pipe} {rest : List (WebSocketRequestMessage × Nat)}
    (inOrder : forwarded s.worker.log = s.taken.map (fun t => (t.request, t.channel)) ++ rest) :
    forwarded s.worker.log = s.taken.map (fun t => (t.request, t.channel)) ++ s.queue := by
  rw [queue_eq_of_append inOrder]
  exact inOrder

/-- A request that was taken is no longer in the channel. -/
theorem queue_received {x : WebSocketRequestMessage × Nat}
    {rest : List (WebSocketRequestMessage × Nat)} (queued : s.queue = x :: rest)
    (handled : Handled) : (s.received handled).queue = rest := by
  unfold queue at queued ⊢
  rw [received, List.length_append, List.length_singleton, ← List.tail_drop, queued]
  rfl

theorem handle_processRequest (request : WebSocketRequestMessage) (channel : Nat) :
    processRequest decode (!s.worker.ended) request =
      ((s.handle decode request channel).result, (s.handle decode request channel).answer) := rfl

theorem step_took {m : Move} (took : Took decode s) (stepped : s.step X decode m = some next) :
    Took decode next := by
  cases m with
  | worker w =>
      obtain ⟨-, worker, turned, rfl⟩ := step_worker stepped
      obtain ⟨new, grown⟩ := forwarded_step turned
      have inOrder : forwarded worker.log =
          s.taken.map (fun t => (t.request, t.channel)) ++ (s.queue ++ new) := by
        rw [grown, took.inOrder, List.append_assoc]
      exact ⟨inOrder_of_append (s := { s with worker }) inOrder, took.handled⟩
  | consume =>
      obtain ⟨item, sink, held, rfl⟩ := consume_cases stepped
      exact ⟨took.inOrder, took.handled⟩
  | pipe =>
      cases advance_cases stepped with
      | took request channel rest reading queued =>
          have inOrder : forwarded s.worker.log =
              (s.taken ++ [s.handle decode request channel]).map
                (fun t => (t.request, t.channel)) ++ rest := by
            rw [took.inOrder, queued, List.map_append, List.append_assoc]
            rfl
          refine ⟨inOrder_of_append inOrder, ?_⟩
          intro t member
          rcases List.mem_append.mp member with member | member
          · exact took.handled t member
          · cases List.mem_singleton.mp member
            exact ⟨_, handle_processRequest request channel⟩
      | stopped | flushed | told | finished => exact ⟨took.inOrder, took.handled⟩

end Pipe

end WebSocket

end SignalService

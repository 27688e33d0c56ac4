import SignalService.WebSocket.Stream
import SignalService.Delivery.Inbox

/-! # The messages of a device

The server keeps the messages for a device until they are acknowledged. It sends them on every
connection that the device opens, in their order and each once, as requests to store an envelope;
what a connection leaves unanswered is sent again on the next one.
-/

namespace SignalService.WebSocket

/-! ## What a turn of the worker passes on -/

/-- The request in a message that is marked as one. -/
def WebSocketMessage.asked (message : WebSocketMessage) : Option WebSocketRequestMessage :=
  match message.messageType with
  | .request => message.request
  | .unknown | .response => none

/-- The request that reaches the stream of the pipe. -/
def Wakeup.requested : Wakeup → Option WebSocketRequestMessage
  | .frame (some message) true => message.asked
  | _ => none

section Turns

variable {X : Externals} {p : SignalWebSocketProcess} {responder channel : Nat} {woken : Woken}
  {w : Wakeup}

theorem forward_of_requested {request : WebSocketRequestMessage}
    (woke : p.wake X responder channel w = some woken) (requested : w.requested = some request) :
    woken.actions = [.forward request channel] ∧ woken.ended = none := by
  unfold Wakeup.requested at requested
  split at requested
  · next message =>
      unfold WebSocketMessage.asked at requested
      split at requested
      · next type =>
          cases woke
          unfold SignalWebSocketProcess.processFrame
          rw [type, requested]
          exact ⟨rfl, rfl⟩
      · cases requested
      · cases requested
  · cases requested

theorem not_forward_disconnect {reason : DisconnectReason} {request : WebSocketRequestMessage}
    {ready : Nat} : .forward request ready ∉ (p.setDisconnectReason reason).2 := by
  unfold SignalWebSocketProcess.setDisconnectReason
  split <;> simp

theorem requested_of_forward {request : WebSocketRequestMessage} {ready : Nat}
    (woke : p.wake X responder channel w = some woken)
    (told : .forward request ready ∈ woken.actions) : w.requested = some request := by
  cases w with
  | frame message handled =>
      cases message with
      | none =>
          cases woke
          cases told
      | some message =>
          cases woke
          unfold SignalWebSocketProcess.processFrame at told
          unfold Wakeup.requested WebSocketMessage.asked
          split at told
          · cases told
          · next type held =>
              split at told
              · next handled =>
                  rw [handled]
                  rw [List.mem_singleton, Action.forward.injEq] at told
                  simp [type, held, told.1]
              · cases told
          · cases told
          · unfold SignalWebSocketProcess.processResponse at told
            split at told
            · cases told
            · split at told
              · simp at told
              · split at told <;> simp at told
          · cases told
  | tick draws sent =>
      simp only [SignalWebSocketProcess.wake, SignalWebSocketProcess.wakeTick] at woke
      split at woke
      · cases woke
        exact absurd told (by simp [not_forward_disconnect])
      · obtain ⟨id, -, rfl⟩ := Option.map_eq_some_iff.mp woke
        cases sent <;> simp at told
  | request request draws sent =>
      obtain ⟨id, -, rfl⟩ := Option.map_eq_some_iff.mp woke
      cases sent <;> simp at told
  | requestsEnded | ignored =>
      cases woke
      cases told
  | closeFrame | transportError | streamEnded =>
      cases woke
      exact absurd told not_forward_disconnect
  | response channel answer sent =>
      simp only [SignalWebSocketProcess.wake, SignalWebSocketProcess.wakeResponse] at woke
      split at woke
      · cases answer <;> cases sent <;> cases woke <;> simp at told
      · cases woke

theorem forwarded_turn {worker worker' : System} (turned : worker.step X w = some worker') :
    forwarded worker'.log =
      forwarded worker.log ++
        (w.requested.map fun request => (request, worker.channels)).toList := by
  obtain ⟨-, woken, woke, rfl⟩ := System.step_eq turned
  cases requested : w.requested with
  | some request =>
      obtain ⟨actions, -⟩ := forward_of_requested woke requested
      simp only [actions]
      rfl
  | none =>
      have silent : ∀ a ∈ woken.actions.reverse, ∀ request channel,
          a ≠ .forward request channel := by
        rintro _ told request channel rfl
        rw [requested_of_forward woke (List.mem_reverse.mp told)] at requested
        cases requested
      simp only [Option.map_none, Option.toList_none, List.append_nil]
      refine read_append_of_skipped ?_ silent
      intro a log silent
      cases a with
      | forward request channel => exact absurd rfl (silent request channel)
      | sendRequest | sendResponse | settle | close | disconnected => rfl

/-- A turn sends no response, or one that it found in an oneshot. -/
theorem responded_turn {worker worker' : System} (turned : worker.step X w = some worker') :
    responded worker'.log = responded worker.log ∨
      ∃ ready response sent, w = .response ready (some response) sent ∧
        responded worker'.log = response :: responded worker.log := by
  obtain ⟨-, woken, woke, rfl⟩ := System.step_eq turned
  cases wake_exchange woke with
  | forward request waits kept actions going =>
      left
      simp only [actions]
      rfl
  | answer ready answer sent wakeup waited waits kept actions going =>
      simp only [actions]
      cases answer with
      | none => exact .inl rfl
      | some response => exact .inr ⟨ready, response, sent, wakeup, rfl⟩
  | unrelated waits kept actions going =>
      exact .inl (responded_unrelated (by simpa using actions))
  | last told actions ended reason =>
      left
      have silent : ∀ a ∈ told.reverse, a.Unrelated := by simpa using actions
      rcases reason with ⟨same, -⟩ | same
      · simp only [same]
        exact responded_unrelated silent
      · simp only [same, List.reverse_append, List.append_assoc]
        rw [responded_unrelated silent]
        unfold SignalWebSocketProcess.setDisconnectReason
        split <;> rfl

end Turns

/-! ## The server -/

/-- A connection of the device, the requests that the server has sent on it with the message that
    each carries, and how many responses of the worker have reached the server. -/
structure Connection where
  pipe : Pipe
  served : List (WebSocketRequestMessage × Option Nat)
  heard : Nat

namespace Connection

def opened (keepAlivePath : String) : Connection := ⟨.init keepAlivePath, [], 0⟩

/-- The messages that were sent on the connection. -/
def numbers (c : Connection) : List Nat := c.served.filterMap Prod.snd

/-- A response of success takes the message off that its request carried. -/
def acknowledges (c : Connection) (response : WebSocketResponseMessage) : Option Nat :=
  if 200 ≤ response.status.getD 0 ∧ response.status.getD 0 < 300 then
    (c.served.find? fun x => x.1.id = response.id).bind Prod.snd
  else none

/-- The envelope that a request was taken for. -/
def envelope? (t : Handled) : Option Envelope :=
  match t.result with
  | .ok (some (.envelope envelope)) => some envelope
  | _ => none

/-- The envelopes that the pipe has made items of, with the messages that they came from. -/
def shows (c : Connection) : List (Option Nat × Envelope) :=
  (c.pipe.taken.zip c.served).filterMap fun x => (envelope? x.1).map fun e => (x.2.2, e)

def shown (c : Connection) : List Nat := c.shows.filterMap Prod.fst

end Connection

/-- The messages for a device, numbered as they came, those that the server no longer keeps, and the
    connections that the device has opened. -/
structure Mailbox where
  arrived : List Bytes
  acknowledged : List Nat
  connections : List Connection

namespace Mailbox

def empty : Mailbox := ⟨[], [], []⟩

/-- The server gives each request of a connection an id of its own. Of the messages that it keeps it
    takes the first that it has not sent on this connection. -/
structure Serves (s : Mailbox) (c : Connection) (request : WebSocketRequestMessage)
    (carries : Option Nat) : Prop where
  named : ∃ id, request.id = some id ∧ ∀ x ∈ c.served, x.1.id ≠ some id
  message : ∀ n, carries = some n → request.isSignalServiceEnvelope = true ∧
    ∃ body, request.body = some body ∧ s.arrived[n]? = some body
  kept : ∀ n, carries = some n → n ∉ s.acknowledged
  next : ∀ n, carries = some n → (∀ m ∈ c.numbers, m < n) ∧
    ∀ m < n, m ∈ s.acknowledged ∨ m ∈ c.numbers

variable (X : Externals) (decode : Bytes → Option Envelope)

/-- A message comes, the device opens another connection, the server sends a request or gets a
    response, or one of those who share a connection makes a move of its own. -/
inductive Step (s : Mailbox) : Mailbox → Prop where
  | arrive (body : Bytes) : Step s { s with arrived := s.arrived ++ [body] }
  | connect (keepAlivePath : String) :
      Step s { s with connections := s.connections ++ [.opened keepAlivePath] }
  | serve (before after : List Connection) (c : Connection) (w : Wakeup)
      (request : WebSocketRequestMessage) (carries : Option Nat) (pipe : Pipe)
      (split : s.connections = before ++ c :: after) (serves : s.Serves c request carries)
      (requested : w.requested = some request)
      (moved : c.pipe.step X decode (.worker w) = some pipe) :
      Step s { s with connections :=
        before ++ { c with pipe, served := c.served ++ [(request, carries)] } :: after }
  | hear (before after : List Connection) (c : Connection) (response : WebSocketResponseMessage)
      (split : s.connections = before ++ c :: after)
      (sent : (responded c.pipe.worker.log).reverse[c.heard]? = some response) :
      Step s { s with
        acknowledged := (c.acknowledges response).toList ++ s.acknowledged
        connections := before ++ { c with heard := c.heard + 1 } :: after }
  | move (before after : List Connection) (c : Connection) (m : Move) (pipe : Pipe)
      (split : s.connections = before ++ c :: after)
      (own : ∀ w, m = .worker w → w.requested = none)
      (moved : c.pipe.step X decode m = some pipe) :
      Step s { s with connections := before ++ { c with pipe } :: after }

/-- What the device has shown of its messages. -/
def inbox (s : Mailbox) : Delivery.Inbox Bytes where
  arrived := s.arrived
  shown := {n | ∃ c ∈ s.connections, n ∈ c.shown}
  acknowledged := {n | n ∈ s.acknowledged}

end Mailbox

/-! ## One connection -/

namespace Pipe

variable {X : Externals} {decode : Bytes → Option Envelope} {s next : Pipe} {m : Move}

/-- What the worker has sent are answers of the pipe. -/
def Spoken (s : Pipe) : Prop :=
  ∀ response ∈ responded s.worker.log, ∃ t ∈ s.taken, t.answer = some response

/-- While the worker runs, all that was taken was taken while it ran. -/
def Live (decode : Bytes → Option Envelope) (s : Pipe) : Prop :=
  s.worker.ended = false →
    ∀ t ∈ s.taken, processRequest decode true t.request = (t.result, t.answer)

theorem init_spoken (keepAlivePath : String) : (init keepAlivePath).Spoken := by
  simp [Spoken, init, System.init, responded]

theorem init_live (keepAlivePath : String) : (init keepAlivePath).Live decode := by
  simp [Live, init]

theorem step_spoken (spoken : s.Spoken) (stepped : s.step X decode m = some next) :
    next.Spoken := by
  cases m with
  | worker w =>
      obtain ⟨ready, worker, turned, rfl⟩ := step_worker stepped
      rcases responded_turn turned with same | ⟨channel, response, sent, rfl, grown⟩
      · intro response member
        rw [same] at member
        exact spoken response member
      · intro said member
        rw [grown] at member
        rcases List.mem_cons.mp member with rfl | earlier
        · obtain ⟨t, taken, -, answer⟩ := ready
          exact ⟨t, taken, answer⟩
        · exact spoken said earlier
  | consume =>
      obtain ⟨item, sink, -, rfl⟩ := consume_cases stepped
      exact spoken
  | pipe =>
      cases advance_cases stepped with
      | took request channel rest reading queued =>
          intro response member
          obtain ⟨t, taken, answer⟩ := spoken response member
          exact ⟨t, List.mem_append_left _ taken, answer⟩
      | stopped | flushed | told | finished => exact spoken

theorem step_live (live : s.Live decode) (stepped : s.step X decode m = some next) :
    next.Live decode := by
  cases m with
  | worker w =>
      have alive := worker_ended stepped
      obtain ⟨-, worker, -, rfl⟩ := step_worker stepped
      exact fun _ => live alive
  | consume =>
      obtain ⟨item, sink, -, rfl⟩ := consume_cases stepped
      exact live
  | pipe =>
      cases advance_cases stepped with
      | took request channel rest reading queued =>
          intro alive t member
          rcases List.mem_append.mp member with earlier | new
          · exact live alive t earlier
          · have running : s.worker.ended = false := alive
            cases List.mem_singleton.mp new
            rw [← handle_processRequest, running]
            rfl
      | stopped | flushed | told | finished => exact live

end Pipe

namespace Connection

variable {X : Externals} {decode : Bytes → Option Envelope} {arrived : List Bytes}
  {acknowledged : List Nat} {c : Connection}

/-- A connection, by the messages there are and those that the server no longer keeps. -/
structure Sound (decode : Bytes → Option Envelope) (arrived : List Bytes)
    (acknowledged : List Nat) (c : Connection) : Prop where
  took : Pipe.Took decode c.pipe
  emits : Pipe.Emits c.pipe
  sent : (forwarded c.pipe.worker.log).map Prod.fst = c.served.map Prod.fst
  named : (c.served.map (·.1.id)).Nodup
  bodies : ∀ x ∈ c.served, ∀ n, x.2 = some n → x.1.isSignalServiceEnvelope = true ∧
    ∃ body, x.1.body = some body ∧ arrived[n]? = some body
  increasing : c.numbers.Pairwise (· < ·)
  covers : ∀ n ∈ c.numbers, ∀ m < n, m ∈ acknowledged ∨ m ∈ c.numbers
  spoken : c.pipe.Spoken
  live : c.pipe.Live decode

theorem opened_sound (keepAlivePath : String) :
    Sound decode arrived acknowledged (opened keepAlivePath) where
  took := Pipe.init_took keepAlivePath
  emits := Pipe.init_emits keepAlivePath
  sent := rfl
  named := List.nodup_nil
  bodies := by simp [opened]
  increasing := .nil
  covers := by simp [opened, numbers]
  spoken := Pipe.init_spoken keepAlivePath
  live := Pipe.init_live keepAlivePath

/-- Messages that come later and are acknowledged later do not matter. -/
theorem Sound.later (sound : Sound decode arrived acknowledged c) (others : List Bytes)
    {acknowledged' : List Nat} (more : acknowledged ⊆ acknowledged') :
    Sound decode (arrived ++ others) acknowledged' c := by
  refine { sound with bodies := ?_, covers := ?_ }
  · intro x member n carries
    obtain ⟨kind, body, held, there⟩ := sound.bodies x member n carries
    refine ⟨kind, body, held, ?_⟩
    rw [List.getElem?_append_left (List.getElem?_eq_some_iff.mp there).1]
    exact there
  · intro n member m before
    exact (sound.covers n member m before).imp_left (more ·)

/-- The requests that were taken are the first ones that were sent. -/
theorem Sound.served_eq (sound : Sound decode arrived acknowledged c) :
    c.served.map Prod.fst = c.pipe.taken.map (·.request) ++ c.pipe.queue.map Prod.fst := by
  rw [← sound.sent, sound.took.inOrder, List.map_append, List.map_map]
  rfl

theorem Sound.taken_le (sound : Sound decode arrived acknowledged c) :
    c.pipe.taken.length ≤ c.served.length := by
  have same := congrArg List.length sound.served_eq
  simp only [List.length_map, List.length_append] at same
  omega

theorem zip_agrees {A B C : Type} {f : A → C} {g : B → C} {l : List A} {l' : List B} {rest : List C}
    (same : l'.map g = l.map f ++ rest) : ∀ x ∈ l.zip l', g x.2 = f x.1 := by
  induction l generalizing l' with
  | nil => simp
  | cons a l ih =>
      cases l' with
      | nil => simp
      | cons b l' =>
          obtain ⟨head, tail⟩ := List.cons.inj same
          rintro x (_ | ⟨_, member⟩)
          · exact head
          · exact ih tail x member

theorem zip_longer {A B : Type} {l : List A} {before after : List B}
    (length : l.length = before.length) : l.zip (before ++ after) = l.zip before := by
  have apart : (l ++ []).zip (before ++ after) = l.zip before ++ [].zip after :=
    List.zip_append length
  rwa [List.append_nil, List.zip_nil_left, List.append_nil] at apart

/-- What was taken is paired with what was sent first, whatever is sent after it. -/
theorem Sound.zip_take (sound : Sound decode arrived acknowledged c)
    (more : List (WebSocketRequestMessage × Option Nat)) :
    c.pipe.taken.zip (c.served ++ more) =
      c.pipe.taken.zip (c.served.take c.pipe.taken.length) := by
  have short : c.pipe.taken.length = (c.served.take c.pipe.taken.length).length := by
    rw [List.length_take, Nat.min_eq_left sound.taken_le]
  conv_lhs => rw [← List.take_append_drop c.pipe.taken.length c.served, List.append_assoc]
  exact zip_longer short

theorem Sound.zip_request (sound : Sound decode arrived acknowledged c) :
    ∀ x ∈ c.pipe.taken.zip c.served, x.2.1 = x.1.request :=
  zip_agrees sound.served_eq

theorem Sound.exists_served (sound : Sound decode arrived acknowledged c) {t : Handled}
    (member : t ∈ c.pipe.taken) : ∃ x, (t, x) ∈ c.pipe.taken.zip c.served := by
  rw [← List.map_fst_zip sound.taken_le] at member
  obtain ⟨⟨_, x⟩, paired, rfl⟩ := List.mem_map.mp member
  exact ⟨x, paired⟩

theorem envelope?_eq_some {t : Handled} {envelope : Envelope} :
    envelope? t = some envelope ↔ t.result = .ok (some (.envelope envelope)) := by
  unfold envelope?
  split
  · next found result => simp [result]
  · next other =>
      refine iff_of_false nofun ?_
      intro result
      exact other envelope result

theorem mem_shows {x : Option Nat × Envelope} :
    x ∈ c.shows ↔ ∃ t y, (t, y) ∈ c.pipe.taken.zip c.served ∧
      t.result = .ok (some (.envelope x.2)) ∧ y.2 = x.1 := by
  unfold shows
  rw [List.mem_filterMap]
  constructor
  · rintro ⟨⟨t, y⟩, paired, made⟩
    obtain ⟨envelope, found, rfl⟩ := Option.map_eq_some_iff.mp made
    exact ⟨t, y, paired, envelope?_eq_some.mp found, rfl⟩
  · rintro ⟨t, y, paired, result, carried⟩
    refine ⟨(t, y), paired, ?_⟩
    rw [envelope?_eq_some.mpr result, Option.map_some, carried]

theorem mem_shown {n : Nat} : n ∈ c.shown ↔ ∃ envelope, (some n, envelope) ∈ c.shows := by
  simp [shown]

/-- What was taken next, and what it was sent for. -/
theorem Sound.next (sound : Sound decode arrived acknowledged c)
    {request : WebSocketRequestMessage} {channel : Nat}
    {rest : List (WebSocketRequestMessage × Nat)}
    (queued : c.pipe.queue = (request, channel) :: rest) :
    ∃ before x after, c.served = before ++ x :: after ∧
      c.pipe.taken.length = before.length ∧ x.1 = request := by
  have served := sound.served_eq
  rw [queued, List.map_cons] at served
  obtain ⟨before, others, split, first, last⟩ := List.map_eq_append_iff.mp served
  obtain ⟨x, after, rfl, same, -⟩ := List.map_eq_cons_iff.mp last
  refine ⟨before, x, after, split, ?_, same⟩
  have lengths := congrArg List.length first
  simpa using lengths.symm

section Shows

variable {pipe : Pipe} {before after : List (WebSocketRequestMessage × Option Nat)}
  {x : WebSocketRequestMessage × Option Nat}

theorem shows_took {t : Handled} (split : c.served = before ++ x :: after)
    (length : c.pipe.taken.length = before.length) (taken : pipe.taken = c.pipe.taken ++ [t]) :
    shows { c with pipe } = c.shows ++ ((envelope? t).map fun e => (x.2, e)).toList := by
  unfold shows
  rw [taken, split, zip_longer length, List.zip_append length, List.zip_cons_cons,
    List.zip_nil_left, List.filterMap_append]
  cases made : envelope? t <;> simp [made]

theorem Sound.shows_served (sound : Sound decode arrived acknowledged c)
    (taken : pipe.taken = c.pipe.taken) (more : List (WebSocketRequestMessage × Option Nat)) :
    shows { c with pipe, served := c.served ++ more } = c.shows := by
  have same : c.pipe.taken.zip (c.served ++ more) = c.pipe.taken.zip c.served := by
    conv_rhs => rw [← List.append_nil c.served]
    rw [sound.zip_take more, sound.zip_take []]
  unfold shows
  rw [taken, same]

/-- What comes before a message that is taken while the worker runs, and can be read, was shown. -/
theorem Sound.shown_before (sound : Sound decode arrived acknowledged c)
    (alive : c.pipe.worker.ended = false) (split : c.served = before ++ x :: after)
    (length : c.pipe.taken.length = before.length) {n m : Nat} (carries : x.2 = some n)
    (earlier : m < n) (among : m ∈ c.numbers) {body : Bytes} (there : arrived[m]? = some body)
    (reads : (decode body).isSome = true) : m ∈ c.shown := by
  have increasing := sound.increasing
  have apart : c.numbers = before.filterMap Prod.snd ++ n :: after.filterMap Prod.snd := by
    rw [numbers, split, List.filterMap_append, List.filterMap_cons_some carries]
  rw [apart] at increasing among
  obtain ⟨-, later, -⟩ := List.pairwise_append.mp increasing
  have first : m ∈ before.filterMap Prod.snd := by
    rcases List.mem_append.mp among with first | last
    · exact first
    · rcases List.mem_cons.mp last with rfl | last
      · exact absurd earlier (lt_irrefl m)
      · exact absurd ((List.pairwise_cons.mp later).1 m last) earlier.asymm
  obtain ⟨y, sent, carried⟩ := List.mem_filterMap.mp first
  rw [← List.map_snd_zip length.ge] at sent
  obtain ⟨⟨t, _⟩, paired, rfl⟩ := List.mem_map.mp sent
  rw [← zip_longer length, ← split] at paired
  obtain ⟨taken, served⟩ := List.of_mem_zip paired
  obtain ⟨kind, body', held, there'⟩ := sound.bodies _ served m carried
  obtain ⟨envelope, decoded⟩ := Option.isSome_iff_exists.mp reads
  have same : body = body' := Option.some.inj (there.symm.trans there')
  have made := sound.live alive t taken
  rw [← sound.zip_request _ paired] at made
  have result : t.result = .ok (some (.envelope envelope)) := by
    have processed := congrArg Prod.fst made
    simp only [processRequest, kind, if_true, held, ← same, decoded, respond] at processed
    exact processed.symm
  exact mem_shown.mpr ⟨envelope, mem_shows.mpr ⟨t, _, paired, result, carried⟩⟩

end Shows

/-! ## Acknowledgements -/

theorem respond_answer {alive : Bool} {said response : WebSocketResponseMessage}
    {found : Option Incoming} {result : Except ServiceError (Option Incoming)}
    (made : respond alive said found = (result, some response)) :
    result = .ok found ∧ response = said := by
  cases alive with
  | false => cases made
  | true =>
      cases made
      exact ⟨rfl, rfl⟩

/-- What is answered is the request itself, and an envelope that is answered is an item. -/
theorem processRequest_answer {alive : Bool} {request : WebSocketRequestMessage}
    {result : Except ServiceError (Option Incoming)} {response : WebSocketResponseMessage}
    (made : processRequest decode alive request = (result, some response)) :
    response.id = request.id ∧ (request.isSignalServiceEnvelope = true →
      ∃ envelope, result = .ok (some (.envelope envelope))) := by
  have named : (WebSocketResponseMessage.fromRequest request).id = request.id := by
    unfold WebSocketResponseMessage.fromRequest
    split <;> rfl
  unfold processRequest at made
  split at made
  · split at made
    · cases made
    · split at made
      · cases made
      · next envelope decoded =>
          obtain ⟨rfl, rfl⟩ := respond_answer made
          exact ⟨named, fun _ => ⟨envelope, rfl⟩⟩
  · next other =>
      have answered : response = .fromRequest request := by
        split at made
        · exact (respond_answer made).2
        · exact (respond_answer made).2
      exact ⟨answered ▸ named, fun kind => absurd kind other⟩

theorem Sound.find_served (sound : Sound decode arrived acknowledged c)
    {x : WebSocketRequestMessage × Option Nat} (served : x ∈ c.served) :
    (c.served.find? fun y => y.1.id = x.1.id) = some x := by
  cases found : c.served.find? fun y => y.1.id = x.1.id with
  | none => exact absurd (List.find?_eq_none.mp found x served) (by simp)
  | some y =>
      have named := List.find?_some found
      rw [decide_eq_true_eq] at named
      rw [List.inj_on_of_nodup_map sound.named (List.mem_of_find?_eq_some found) served named]

/-- What the server takes off was shown. -/
theorem Sound.acknowledged_shown (sound : Sound decode arrived acknowledged c)
    {response : WebSocketResponseMessage} (said : response ∈ responded c.pipe.worker.log) {n : Nat}
    (acknowledges : c.acknowledges response = some n) : n ∈ c.shown := by
  obtain ⟨t, taken, answer⟩ := sound.spoken response said
  obtain ⟨alive, made⟩ := sound.took.handled t taken
  rw [answer] at made
  obtain ⟨id, envelope⟩ := processRequest_answer made
  unfold Connection.acknowledges at acknowledges
  split at acknowledges
  · obtain ⟨x, paired⟩ := sound.exists_served taken
    have request := sound.zip_request _ paired
    have served := (List.of_mem_zip paired).2
    rw [id, ← request, sound.find_served served, Option.bind_some] at acknowledges
    obtain ⟨kind, -⟩ := sound.bodies x served n acknowledges
    rw [request] at kind
    obtain ⟨envelope, result⟩ := envelope kind
    exact mem_shown.mpr ⟨envelope, mem_shows.mpr ⟨t, x, paired, result, acknowledges⟩⟩
  · cases acknowledges

end Connection

end SignalService.WebSocket

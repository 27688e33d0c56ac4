import SignalService.WebSocket.Mailbox

/-! # Messages over many connections

Whatever ends the connections of a device, a message that the server has taken off was shown by one
of them, and none was passed over that could be read. So the connections refine an inbox in which
messages are shown at least once, in their order.
-/

namespace SignalService.WebSocket

open Relation Delivery

variable {X : Externals} {decode : Bytes → Option Envelope}

namespace Connection

variable {arrived : List Bytes} {acknowledged : List Nat} {c : Connection} {pipe : Pipe}

/-- A move of its own leaves what was sent on the connection. -/
theorem Sound.moved (sound : Sound decode arrived acknowledged c) {m : Move}
    (own : ∀ w, m = .worker w → w.requested = none)
    (stepped : c.pipe.step X decode m = some pipe) :
    Sound decode arrived acknowledged { c with pipe } where
  took := Pipe.step_took sound.took stepped
  emits := Pipe.step_emits sound.emits stepped
  sent := by
    have kept : forwarded pipe.worker.log = forwarded c.pipe.worker.log := by
      cases m with
      | worker w =>
          obtain ⟨-, worker, turned, rfl⟩ := Pipe.step_worker stepped
          rw [forwarded_turn turned, own w rfl]
          exact List.append_nil _
      | consume =>
          obtain ⟨item, sink, -, rfl⟩ := Pipe.consume_cases stepped
          rfl
      | pipe => cases Pipe.advance_cases stepped <;> rfl
    exact (congrArg (List.map Prod.fst) kept).trans sound.sent
  named := sound.named
  bodies := sound.bodies
  increasing := sound.increasing
  covers := sound.covers
  spoken := Pipe.step_spoken sound.spoken stepped
  live := Pipe.step_live sound.live stepped

/-- A request that the server sends comes after all others. -/
theorem Sound.served (sound : Sound decode arrived acknowledged c) {s : Mailbox}
    (messages : s.arrived = arrived) (kept : s.acknowledged = acknowledged) {w : Wakeup}
    {request : WebSocketRequestMessage} {carries : Option Nat} (serves : s.Serves c request carries)
    (requested : w.requested = some request)
    (stepped : c.pipe.step X decode (.worker w) = some pipe) :
    Sound decode arrived acknowledged
      { c with pipe, served := c.served ++ [(request, carries)] } := by
  subst messages kept
  have numbers : Connection.numbers { c with pipe, served := c.served ++ [(request, carries)] } =
      c.numbers ++ carries.toList := by
    unfold Connection.numbers
    rw [List.filterMap_append]
    cases carries <;> rfl
  refine ⟨Pipe.step_took sound.took stepped, Pipe.step_emits sound.emits stepped, ?_, ?_, ?_, ?_,
    ?_, Pipe.step_spoken sound.spoken stepped, Pipe.step_live sound.live stepped⟩
  · obtain ⟨-, worker, turned, rfl⟩ := Pipe.step_worker stepped
    have grown := forwarded_turn turned
    rw [requested] at grown
    simp only [grown, List.map_append, sound.sent]
    rfl
  · obtain ⟨id, named, fresh⟩ := serves.named
    rw [List.map_append, List.nodup_append]
    refine ⟨sound.named, List.nodup_singleton _, ?_⟩
    rintro _ earlier _ (_ | ⟨_, ⟨⟩⟩) rfl
    obtain ⟨x, member, same⟩ := List.mem_map.mp earlier
    exact fresh x member (same.trans named)
  · intro x member n carried
    rcases List.mem_append.mp member with earlier | new
    · exact sound.bodies x earlier n carried
    · cases List.mem_singleton.mp new
      exact serves.message n carried
  · rw [numbers]
    cases carries with
    | none => simpa using sound.increasing
    | some n =>
        refine List.pairwise_append.mpr ⟨sound.increasing, List.pairwise_singleton _ _, ?_⟩
        rintro m earlier _ (_ | ⟨_, ⟨⟩⟩)
        exact (serves.next n rfl).1 m earlier
  · rw [numbers]
    intro n member m before
    rcases List.mem_append.mp member with earlier | new
    · exact (sound.covers n earlier m before).imp_right (List.mem_append_left _)
    · obtain rfl : carries = some n := by simpa using new
      exact ((serves.next n rfl).2 m before).imp_right (List.mem_append_left _)

/-- The messages that are shown were sent, in their order. -/
theorem Sound.shown_sublist (sound : Sound decode arrived acknowledged c) :
    c.shown.Sublist c.numbers := by
  have sent : ((c.pipe.taken.zip c.served).map Prod.snd).Sublist c.served := by
    have first := sound.zip_take []
    rw [List.append_nil] at first
    rw [first, List.map_snd_zip (List.length_take_le _ _)]
    exact List.take_sublist _ _
  have those : c.shown =
      (((c.pipe.taken.zip c.served).filter fun x => (envelope? x.1).isSome).map
        Prod.snd).filterMap Prod.snd := by
    unfold shown shows
    rw [List.filterMap_filterMap, List.filterMap_map, List.filterMap_filter]
    refine List.filterMap_congr fun x _ => ?_
    cases envelope? x.1 <;> rfl
  rw [those]
  exact ((List.filter_sublist.map _).trans sent).filterMap _

/-- What the consumer of the pipe gets. -/
def envelopes (items : List Item) : List Envelope :=
  items.filterMap fun item => match item with
    | .ok (.envelope envelope) => some envelope
    | _ => none

theorem Sound.streamed (sound : Sound decode arrived acknowledged c) :
    envelopes (c.pipe.seen ++ c.pipe.sink) = c.shows.map Prod.snd := by
  have last : envelopes c.pipe.final = [] := by
    unfold Pipe.final
    split <;> rfl
  have those : c.shows.map Prod.snd = c.pipe.taken.filterMap envelope? := by
    conv_rhs => rw [← List.map_fst_zip sound.taken_le]
    unfold shows
    rw [List.map_filterMap, List.filterMap_map]
    refine List.filterMap_congr fun x _ => ?_
    cases made : envelope? x.1 <;> simp [made]
  have made : envelopes (c.pipe.taken.filterMap Handled.item) =
      c.pipe.taken.filterMap envelope? := by
    unfold envelopes
    rw [List.filterMap_filterMap]
    refine List.filterMap_congr fun t _ => ?_
    unfold Handled.item envelope?
    rcases t.result with e | (_ | incoming)
    · rfl
    · rfl
    · cases incoming <;> rfl
  unfold envelopes at last made ⊢
  rw [sound.emits.items, List.filterMap_append, last, made, List.append_nil, those]

theorem Sound.shows_body (sound : Sound decode arrived acknowledged c) {n : Nat}
    {envelope : Envelope} (shows : (some n, envelope) ∈ c.shows) :
    ∃ body, arrived[n]? = some body ∧ decode body = some envelope := by
  obtain ⟨t, x, paired, result, carries⟩ := mem_shows.mp shows
  obtain ⟨taken, served⟩ := List.of_mem_zip paired
  obtain ⟨alive, made⟩ := sound.took.handled t taken
  rw [result] at made
  obtain ⟨-, decoded, -⟩ := Pipe.processRequest_envelope made
  obtain ⟨-, body, held, there⟩ := sound.bodies x served n carries
  rw [← sound.zip_request _ paired, held] at decoded
  exact ⟨body, there, decoded⟩

end Connection

namespace Mailbox

variable {s s' : Mailbox}

/-- All connections agree with the server about what was sent on them. -/
def Sound (decode : Bytes → Option Envelope) (s : Mailbox) : Prop :=
  ∀ c ∈ s.connections, c.Sound decode s.arrived s.acknowledged

section Replace

variable {before after : List Connection} {c c' : Connection}

theorem Sound.here (sound : s.Sound decode) (split : s.connections = before ++ c :: after) :
    c.Sound decode s.arrived s.acknowledged := by
  refine sound c ?_
  rw [split]
  exact List.mem_append_right _ List.mem_cons_self

theorem Sound.replace (sound : s.Sound decode) (split : s.connections = before ++ c :: after)
    (own : c'.Sound decode s.arrived s.acknowledged) :
    Sound decode { s with connections := before ++ c' :: after } := by
  intro d member
  rcases List.mem_append.mp member with first | last
  · exact sound d (split ▸ List.mem_append_left _ first)
  · rcases List.mem_cons.mp last with rfl | last
    · exact own
    · exact sound d (split ▸ List.mem_append_right _ (List.mem_cons_of_mem _ last))

theorem shown_replace (split : s.connections = before ++ c :: after) {M : Set Nat}
    (grown : ∀ n, n ∈ c'.shown ↔ n ∈ M ∨ n ∈ c.shown) :
    (inbox { s with connections := before ++ c' :: after }).shown = M ∪ s.inbox.shown := by
  ext n
  simp only [inbox, split, Set.mem_ofPred_eq, Set.mem_union, List.mem_append, List.mem_cons,
    or_and_right, exists_or, exists_eq_left, grown, or_assoc]
  exact or_left_comm

theorem inbox_replace (split : s.connections = before ++ c :: after) (same : c'.shown = c.shown) :
    inbox { s with connections := before ++ c' :: after } = s.inbox := by
  have none : ∀ n, n ∈ c'.shown ↔ n ∈ (∅ : Set Nat) ∨ n ∈ c.shown := by simp [same]
  have shown := shown_replace split none
  rw [Set.empty_union] at shown
  exact congrArg (fun shown => { s.inbox with shown }) shown

/-- One more message is shown. -/
theorem inbox_display (split : s.connections = before ++ c :: after) {n : Nat}
    {envelope : Envelope} (grown : c'.shows = c.shows ++ [(some n, envelope)]) :
    inbox { s with connections := before ++ c' :: after } =
      { s.inbox with shown := insert n s.inbox.shown } := by
  have more : ∀ k, k ∈ c'.shown ↔ k ∈ ({n} : Set Nat) ∨ k ∈ c.shown := by
    intro k
    simp [Connection.shown, grown, or_comm, eq_comm]
  exact congrArg (fun shown => { s.inbox with shown }) (shown_replace split more)

end Replace

theorem Sound.step (sound : s.Sound decode) (step : Step X decode s s') : s'.Sound decode := by
  cases step with
  | arrive body => exact fun c member => (sound c member).later [body] (List.Subset.refl _)
  | connect keepAlivePath =>
      intro c member
      rcases List.mem_append.mp member with earlier | new
      · exact sound c earlier
      · cases List.mem_singleton.mp new
        exact Connection.opened_sound keepAlivePath
  | serve before after c w request carries pipe split serves requested moved =>
      exact sound.replace split ((sound.here split).served rfl rfl serves requested moved)
  | hear before after c response split sent =>
      have more : s.acknowledged ⊆ (c.acknowledges response).toList ++ s.acknowledged :=
        List.subset_append_right _ _
      have later : Sound decode { s with
          acknowledged := (c.acknowledges response).toList ++ s.acknowledged } := by
        intro d member
        simpa using (sound d member).later [] more
      have own := later.here split
      exact later.replace split { own with }
  | move before after c m pipe split own moved =>
      exact sound.replace split ((sound.here split).moved own moved)

/-- The messages that can be read. -/
abbrev Decodes (decode : Bytes → Option Envelope) (body : Bytes) : Prop :=
  (decode body).isSome = true

/-- To take a request off the stream is to show its message, if it has one that can be read. -/
theorem Sound.took (sound : s.Sound decode) (kept : Delivery.Kept (Decodes decode) s.inbox)
    {before after : List Connection} {c c' : Connection} {t : Handled}
    (split : s.connections = before ++ c :: after) {request : WebSocketRequestMessage}
    {channel : Nat} {rest : List (WebSocketRequestMessage × Nat)}
    (queued : c.pipe.queue = (request, channel) :: rest)
    (handled : t = c.pipe.handle decode request channel)
    (received : c' = { c with pipe := c.pipe.received t }) :
    inbox { s with connections := before ++ c' :: after } = s.inbox ∨
      Delivery.Step (Decodes decode) s.inbox
        (inbox { s with connections := before ++ c' :: after }) := by
  have own := sound.here split
  obtain ⟨first, x, last, served, length, named⟩ := own.next queued
  have shows : c'.shows = c.shows ++ ((Connection.envelope? t).map fun e => (x.2, e)).toList := by
    rw [received]
    exact Connection.shows_took served length rfl
  cases found : Connection.envelope? t with
  | none =>
      rw [found, Option.map_none, Option.toList_none, List.append_nil] at shows
      exact .inl (inbox_replace split (congrArg (List.filterMap Prod.fst) shows))
  | some envelope =>
      rw [found, Option.map_some, Option.toList_some] at shows
      cases carries : x.2 with
      | none =>
          refine .inl (inbox_replace split ?_)
          simp [Connection.shown, shows, carries]
      | some n =>
          rw [carries] at shows
          right
          rw [inbox_display split shows]
          have result := Connection.envelope?_eq_some.mp found
          have made : processRequest decode (!c.pipe.worker.ended) request =
              (.ok (some (.envelope envelope)), t.answer) := by
            rw [Pipe.handle_processRequest, ← handled, result]
          obtain ⟨alive, decoded, -⟩ := Pipe.processRequest_envelope made
          have member : x ∈ c.served := served ▸ List.mem_append_right _ List.mem_cons_self
          obtain ⟨kind, body, held, there⟩ := own.bodies x member n carries
          rw [← named, held, Option.bind_some] at decoded
          refine .display n body there (by rw [Decodes, decoded]; rfl) ?_
          intro m earlier body' there' reads
          have among : n ∈ c.numbers := List.mem_filterMap.mpr ⟨x, member, carries⟩
          rcases own.covers n among m earlier with acknowledged | sent
          · exact kept.acknowledged m acknowledged
          · exact ⟨c, split ▸ List.mem_append_right _ List.mem_cons_self,
              own.shown_before (by simpa using alive) served length carries earlier sent there'
                reads⟩

/-- Each step of the server and of the connections is none of the inbox, or one. -/
theorem Sound.step_inbox (sound : s.Sound decode) (kept : Delivery.Kept (Decodes decode) s.inbox)
    (step : Step X decode s s') :
    s'.inbox = s.inbox ∨ Delivery.Step (Decodes decode) s.inbox s'.inbox := by
  cases step with
  | arrive body => exact .inr (.arrive body)
  | connect keepAlivePath =>
      left
      have none : (Connection.opened keepAlivePath).shown = [] := rfl
      have same : {n | ∃ c ∈ s.connections ++ [Connection.opened keepAlivePath], n ∈ c.shown} =
          s.inbox.shown := by
        ext n
        simp [inbox, or_and_right, exists_or, none]
      exact congrArg (fun shown => { s.inbox with shown }) same
  | serve before after c w request carries pipe split serves requested moved =>
      left
      obtain ⟨-, worker, -, rfl⟩ := Pipe.step_worker moved
      have shows : Connection.shows { c with
          pipe := { c.pipe with worker }, served := c.served ++ [(request, carries)] } = c.shows :=
        (sound.here split).shows_served rfl _
      exact inbox_replace split (congrArg (List.filterMap Prod.fst) shows)
  | hear before after c response split sent =>
      have same : inbox { s with connections :=
          before ++ { c with heard := c.heard + 1 } :: after } = s.inbox := inbox_replace split rfl
      cases acknowledged : c.acknowledges response with
      | none => exact .inl same
      | some n =>
          have said : response ∈ responded c.pipe.worker.log :=
            List.mem_reverse.mp (List.mem_of_getElem? sent)
          have shown : n ∈ s.inbox.shown := ⟨c, split ▸ List.mem_append_right _ List.mem_cons_self,
            (sound.here split).acknowledged_shown said acknowledged⟩
          have grown : {k | k ∈ n :: s.acknowledged} = insert n s.inbox.acknowledged := by
            ext k
            exact List.mem_cons
          have same : inbox { s with
              acknowledged := n :: s.acknowledged
              connections := before ++ { c with heard := c.heard + 1 } :: after } =
                { s.inbox with acknowledged := insert n s.inbox.acknowledged } :=
            (Delivery.Inbox.mk.injEq ..).mpr ⟨rfl, congrArg Delivery.Inbox.shown same, grown⟩
          right
          exact same ▸ .acknowledge n shown
  | move before after c m pipe split own moved =>
      cases m with
      | worker w =>
          obtain ⟨-, worker, -, rfl⟩ := Pipe.step_worker moved
          exact .inl (inbox_replace split rfl)
      | consume =>
          obtain ⟨item, sink, -, rfl⟩ := Pipe.consume_cases moved
          exact .inl (inbox_replace split rfl)
      | pipe =>
          cases Pipe.advance_cases moved with
          | took request channel rest reading queued =>
              exact sound.took kept split queued rfl rfl
          | stopped | flushed | told | finished => exact .inl (inbox_replace split rfl)

theorem empty_sound : Sound decode empty := by
  simp [Sound, empty]

theorem empty_inbox : empty.inbox = .empty := by
  have none : {n | ∃ c ∈ empty.connections, n ∈ c.shown} = (∅ : Set Nat) := by
    ext n
    simp [empty]
  have kept : {n | n ∈ empty.acknowledged} = (∅ : Set Nat) := by
    ext n
    simp [empty]
  exact (Delivery.Inbox.mk.injEq ..).mpr ⟨rfl, none, kept⟩

theorem reached_inbox (reached : ReflTransGen (Step X decode) empty s) :
    s.Sound decode ∧ ReflTransGen (Delivery.Step (Decodes decode)) .empty s.inbox := by
  induction reached with
  | refl => exact ⟨empty_sound, empty_inbox ▸ .refl⟩
  | tail _ step ih =>
      obtain ⟨sound, steps⟩ := ih
      refine ⟨sound.step step, ?_⟩
      rcases sound.step_inbox (kept_of_steps steps) step with same | moved
      · exact same ▸ steps
      · exact steps.tail moved

/-! ## What is delivered -/

/-- What the server has taken off, what the device has shown, and what the consumers get. -/
structure Delivers (X : Externals) (decode : Bytes → Option Envelope) (s : Mailbox) : Prop where
  /-- This is what an inbox does that shows its messages at least once. -/
  inbox : ReflTransGen (Delivery.Step (Decodes decode)) .empty s.inbox
  acknowledged : ∀ n ∈ s.acknowledged, ∃ c ∈ s.connections, n ∈ c.shown
  gapless : ∀ c ∈ s.connections, ∀ n ∈ c.shown, ∀ m < n, ∀ body, s.arrived[m]? = some body →
    Decodes decode body → ∃ d ∈ s.connections, m ∈ d.shown
  /-- A connection shows a message once at most. -/
  ordered : ∀ c ∈ s.connections, c.shown.Pairwise (· < ·)
  bodies : ∀ c ∈ s.connections, ∀ n envelope, (some n, envelope) ∈ c.shows →
    ∃ body, s.arrived[n]? = some body ∧ decode body = some envelope
  streamed : ∀ c ∈ s.connections,
    Connection.envelopes (c.pipe.seen ++ c.pipe.sink) = c.shows.map Prod.snd
  /-- A consumer that goes on until nobody can move has got it all. -/
  complete : ∀ c ∈ s.connections, c.pipe.worker.ended = true →
    (∀ m, c.pipe.step X decode m = none) →
    Connection.envelopes c.pipe.seen = c.shows.map Prod.snd

theorem reached_delivers (reached : ReflTransGen (Step X decode) empty s) :
    s.Delivers X decode := by
  obtain ⟨sound, steps⟩ := reached_inbox reached
  have kept := kept_of_steps steps
  refine ⟨steps, kept.acknowledged, fun c member n shown => kept.gapless n ⟨c, member, shown⟩,
    fun c member => ?_, fun c member n envelope => (sound c member).shows_body,
    fun c member => (sound c member).streamed, fun c member ended stuck => ?_⟩
  · exact (sound c member).increasing.sublist (sound c member).shown_sublist
  · obtain ⟨-, empty⟩ := Pipe.stuck_done ended stuck
    have streamed := (sound c member).streamed
    rwa [empty, List.append_nil] at streamed

namespace MailboxSample

open Pipe.PipeSample

/-- The server's request arrives at the worker. -/
def arrival : Wakeup := .frame (some ⟨some 1, some envelopeRequest, none⟩) true

/-- The response of the pipe, and whether it can be sent. -/
def reply (sent : Bool) : Wakeup := .response 0 (some (.fromRequest envelopeRequest)) sent

/-- The only message there is may be sent on a connection that is new. -/
theorem serves_first (connections : List Connection) :
    Serves ⟨[[]], [], connections⟩ (.opened "/v1/keepalive") envelopeRequest (some 0) where
  named := ⟨7, rfl, by simp [Connection.opened]⟩
  message := by
    rintro _ ⟨⟩
    exact ⟨rfl, [], rfl, rfl⟩
  kept _ _ := List.not_mem_nil
  next := by
    rintro _ ⟨⟩
    exact ⟨by simp [Connection.numbers, Connection.opened], by simp⟩

end MailboxSample

open Pipe.PipeSample MailboxSample in
/-- The answer to a message that was shown does not reach the server. It is shown once more, on
    the next connection, and taken off. -/
theorem unanswered_shown_twice :
    ∃ s, ReflTransGen (Step reference decodeEnvelope) empty s ∧
      s.connections.map Connection.shown = [[0], [0]] ∧ s.acknowledged = [0] ∧
      s.Delivers reference decodeEnvelope := by
  have first : ReflTransGen (Step reference decodeEnvelope) empty _ :=
    ((((ReflTransGen.refl.tail (.arrive [])).tail (.connect "/v1/keepalive")).tail
      (.serve [] [] _ arrival envelopeRequest (some 0) _ rfl (serves_first _) rfl rfl)).tail
      (.move [] [] _ .pipe _ rfl (by rintro _ ⟨⟩) rfl)).tail
      (.move [] [] _ (.worker (reply false)) _ rfl (by rintro _ ⟨⟩; rfl) rfl)
  have second : ReflTransGen (Step reference decodeEnvelope) empty _ :=
    ((((first.tail (.connect "/v1/keepalive")).tail
      (.serve [_] [] _ arrival envelopeRequest (some 0) _ rfl (serves_first _) rfl rfl)).tail
      (.move [_] [] _ .pipe _ rfl (by rintro _ ⟨⟩) rfl)).tail
      (.move [_] [] _ (.worker (reply true)) _ rfl (by rintro _ ⟨⟩; rfl) rfl)).tail
      (.hear [_] [] _ (.fromRequest envelopeRequest) rfl rfl)
  exact ⟨_, second, rfl, rfl, reached_delivers second⟩

end Mailbox

end SignalService.WebSocket

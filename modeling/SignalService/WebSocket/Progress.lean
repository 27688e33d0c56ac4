import SignalService.WebSocket.Redelivery
import SignalService.WebSocket.Answers

/-! # What can be read does not stay

From wherever the connections of a device have got to, one more of them is enough for the server to
take off all messages that can be read. Those that cannot be read hold up none of the others.
-/

namespace SignalService.WebSocket

open Relation Delivery

variable {X : Externals} {decode : Bytes → Option Envelope}

namespace Pipe

variable {s next : Pipe}

theorem step_forwarded_le {m : Move} (stepped : s.step X decode m = some next) :
    (forwarded s.worker.log).length ≤ (forwarded next.worker.log).length ∧
      ((forwarded next.worker.log).length = (forwarded s.worker.log).length →
        ∀ w, m = .worker w → w.requested = none) := by
  cases m with
  | worker w =>
      obtain ⟨-, worker, turned, rfl⟩ := step_worker stepped
      have grown := congrArg List.length (forwarded_turn turned)
      dsimp only at grown ⊢
      rw [List.length_append] at grown
      refine ⟨by omega, ?_⟩
      rintro same _ ⟨⟩
      cases requested : w.requested with
      | none => rfl
      | some request =>
          rw [requested, Option.map_some, Option.toList_some, List.length_singleton] at grown
          omega
  | consume =>
      obtain ⟨item, sink, -, rfl⟩ := consume_cases stepped
      exact ⟨le_rfl, by rintro - _ ⟨⟩⟩
  | pipe =>
      have same : next.worker = s.worker := by cases advance_cases stepped <;> rfl
      rw [same]
      exact ⟨le_rfl, by rintro - _ ⟨⟩⟩

theorem run_forwarded_le {moves : List Move} (ran : s.run X decode moves = some next) :
    (forwarded s.worker.log).length ≤ (forwarded next.worker.log).length :=
  run_keeps (P := fun t => (forwarded s.worker.log).length ≤ (forwarded t.worker.log).length)
    (fun _ _ _ grown stepped => grown.trans (step_forwarded_le stepped).1) le_rfl ran

/-- A worker that runs takes a request of the server. -/
theorem step_frame (alive : s.worker.ended = false) (request : WebSocketRequestMessage) :
    ∃ next, s.step X decode (.worker (.frame (some ⟨some 1, some request, none⟩) true)) =
      some next ∧ next.worker.ended = false := by
  refine ⟨{ s with worker := ⟨{ s.worker.process with
      outgoingResponses := s.worker.channels :: s.worker.process.outgoingResponses },
    s.worker.responders, s.worker.channels + 1,
    .forward request s.worker.channels :: s.worker.log, false⟩ }, ?_, rfl⟩
  simp [step, Ready, System.step, System.respondersAfter, SignalWebSocketProcess.wake,
    SignalWebSocketProcess.processFrame, WebSocketMessage.messageType, alive]

end Pipe

namespace Mailbox

variable {s s' : Mailbox} {before : List Connection} {c : Connection}

/-- Moves of those who share a connection, in which no request is sent. -/
theorem steps_of_run {moves : List Move} {last : Pipe} (split : s.connections = before ++ [c])
    (ran : c.pipe.run X decode moves = some last)
    (kept : (forwarded last.worker.log).length = (forwarded c.pipe.worker.log).length) :
    ReflTransGen (Step X decode) s
      { s with connections := before ++ [{ c with pipe := last }] } := by
  induction moves generalizing s c with
  | nil =>
      cases ran
      rw [← split]
  | cons m moves ih =>
      obtain ⟨pipe, stepped, ran⟩ := Pipe.run_cons ran
      obtain ⟨first, own⟩ := Pipe.step_forwarded_le stepped
      have rest := Pipe.run_forwarded_le ran
      have step : Step X decode s { s with connections := before ++ [{ c with pipe }] } :=
        .move before [] c m pipe split (own (by omega)) stepped
      exact .head step (ih (c := { c with pipe }) rfl ran (by dsimp only; omega))

/-- A request that carries a message. -/
def messageRequest (id : Nat) (body : Bytes) : WebSocketRequestMessage where
  verb := some "PUT"
  path := some "/api/v1/message"
  body := some body
  id := some id

theorem exists_fresh_id (c : Connection) : ∃ id, ∀ x ∈ c.served, x.1.id ≠ some id := by
  let used := c.served.filterMap fun x => x.1.id
  refine ⟨used.sum + 1, fun x member named => ?_⟩
  exact sum_add_one_notMem used (List.mem_filterMap.mpr ⟨x, member, named⟩)

/-- A connection on which the messages up to some number were sent that the server keeps. -/
structure SentUpTo (decode : Bytes → Option Envelope) (acknowledged : List Nat) (k : Nat)
    (c : Connection) : Prop where
  running : Pipe.Running decode c.pipe
  unheard : c.heard = 0
  numbers : ∀ m, m ∈ c.numbers ↔ m < k ∧ m ∉ acknowledged

/-- On a connection that is new, all messages can be sent that the server keeps. -/
theorem exists_sent (s : Mailbox) (keepAlivePath : String) {k : Nat}
    (bound : k ≤ s.arrived.length) : ∃ c, SentUpTo decode s.acknowledged k c ∧
      ReflTransGen (Step X decode) s { s with connections := s.connections ++ [c] } := by
  induction k with
  | zero =>
      have running : Pipe.Running decode (Pipe.init keepAlivePath) :=
        Pipe.run_running (show (Pipe.init keepAlivePath).run X decode [] = some _ from rfl) rfl
      refine ⟨.opened keepAlivePath, ⟨running, rfl, ?_⟩, .single (.connect keepAlivePath)⟩
      simp [Connection.opened, Connection.numbers]
  | succ k ih =>
      obtain ⟨c, sent, steps⟩ := ih (by omega)
      by_cases acknowledged : k ∈ s.acknowledged
      · refine ⟨c, ⟨sent.running, sent.unheard, fun m => ?_⟩, steps⟩
        rw [sent.numbers]
        refine and_congr_left fun kept => ⟨fun less => by omega, fun less => ?_⟩
        have other : m ≠ k := by
          rintro rfl
          exact kept acknowledged
        omega
      · obtain ⟨id, fresh⟩ := exists_fresh_id c
        have there : s.arrived[k]? = some s.arrived[k] := List.getElem?_eq_getElem (by omega)
        have framed : ∃ next, c.pipe.step X decode (.worker (.frame (some ⟨some 1,
            some (messageRequest id s.arrived[k]), none⟩) true)) = some next ∧
            next.worker.ended = false := Pipe.step_frame sent.running.alive _
        obtain ⟨pipe, moved, alive⟩ := framed
        refine ⟨{ c with pipe, served := c.served ++ [(messageRequest id s.arrived[k], some k)] },
          ⟨Pipe.step_running sent.running moved alive, sent.unheard, fun m => ?_⟩,
          steps.tail (.serve s.connections [] c _ _ (some k) pipe rfl ?_ rfl moved)⟩
        · have numbers : Connection.numbers { c with pipe, served := c.served ++
              [(messageRequest id s.arrived[k], some k)] } = c.numbers ++ [k] :=
            List.filterMap_append
          rw [numbers, List.mem_append, List.mem_singleton, sent.numbers]
          constructor
          · rintro (⟨less, kept⟩ | rfl)
            · exact ⟨by omega, kept⟩
            · exact ⟨by omega, acknowledged⟩
          · rintro ⟨less, kept⟩
            rcases Nat.lt_succ_iff_lt_or_eq.mp less with less | rfl
            · exact .inl ⟨less, kept⟩
            · exact .inr rfl
        · refine ⟨⟨id, rfl, fresh⟩, ?_, ?_, ?_⟩
          · rintro _ ⟨⟩
            exact ⟨rfl, _, rfl, there⟩
          · rintro _ ⟨⟩
            exact acknowledged
          · rintro _ ⟨⟩
            refine ⟨fun m member => ((sent.numbers m).mp member).1, fun m less => ?_⟩
            by_cases taken : m ∈ s.acknowledged
            · exact .inl taken
            · exact .inr ((sent.numbers m).mpr ⟨less, taken⟩)

/-- The server gets what the worker has sent. -/
theorem exists_heard (split : s.connections = before ++ [c]) :
    ∃ s', ReflTransGen (Step X decode) s s' ∧ s'.arrived = s.arrived ∧
      s.acknowledged ⊆ s'.acknowledged ∧
      ∀ response ∈ (responded c.pipe.worker.log).reverse.drop c.heard, ∀ n,
        c.acknowledges response = some n → n ∈ s'.acknowledged := by
  induction left : (responded c.pipe.worker.log).length - c.heard generalizing s c with
  | zero =>
      refine ⟨s, .refl, rfl, List.Subset.refl _, ?_⟩
      rw [List.drop_of_length_le (by rw [List.length_reverse]; omega)]
      simp
  | succ left ih =>
      have inside : c.heard < (responded c.pipe.worker.log).reverse.length := by
        rw [List.length_reverse]
        omega
      obtain ⟨said, rest, first⟩ : ∃ said rest,
          (responded c.pipe.worker.log).reverse.drop c.heard = said :: rest :=
        ⟨_, _, List.drop_eq_getElem_cons inside⟩
      have there : (responded c.pipe.worker.log).reverse[c.heard]? = some said := by
        rw [← List.head?_drop, first, List.head?_cons]
      have heard : Step X decode s _ := .hear before [] c said split there
      obtain ⟨s', steps, arrived, more, acknowledged⟩ := ih
        (s := { s with
          acknowledged := (c.acknowledges said).toList ++ s.acknowledged
          connections := before ++ [{ c with heard := c.heard + 1 }] })
        (c := { c with heard := c.heard + 1 }) rfl (by dsimp only; omega)
      refine ⟨s', .head heard steps, arrived,
        List.Subset.trans (List.subset_append_right _ _) more, fun response member n same => ?_⟩
      rw [first] at member
      rcases List.mem_cons.mp member with rfl | later
      · refine more (List.mem_append_left _ ?_)
        rw [same]
        exact List.mem_singleton_self n
      · refine acknowledged response ?_ n same
        rw [← List.tail_drop, first]
        exact later

/-- What was sent on a connection that has come to rest and can be read is acknowledged by a
    response of the worker. -/
theorem acknowledged_at_rest (sound : c.Sound decode s.arrived s.acknowledged)
    (running : Pipe.Running decode c.pipe) (drained : c.pipe.queue = [])
    (none : ∀ t ∈ c.pipe.taken, t.channel ∉ c.pipe.oneshots) {n : Nat} (sent : n ∈ c.numbers)
    {body : Bytes} (there : s.arrived[n]? = some body) (reads : Decodes decode body) :
    ∃ response ∈ responded c.pipe.worker.log, c.acknowledges response = some n := by
  obtain ⟨x, served, carries⟩ := List.mem_filterMap.mp sent
  have all := sound.served_eq
  rw [drained, List.map_nil, List.append_nil] at all
  have member : x.1 ∈ c.pipe.taken.map (·.request) := all ▸ List.mem_map_of_mem served
  obtain ⟨t, taken, request⟩ := List.mem_map.mp member
  obtain ⟨kind, body', held, there'⟩ := sound.bodies x served n carries
  have same : body' = body := Option.some.inj (there'.symm.trans there)
  have readable : Readable decode t.request := by
    intro _
    rw [request, held, same]
    exact reads
  have answer := processRequest_readable readable
  rw [running.served.live t taken, request] at answer
  have waiting : c.pipe.pending = [] := by
    unfold Pipe.pending
    rw [List.filter_eq_nil_iff.mpr (by simpa using none)]
    rfl
  have answered := running.served.answered
  rw [waiting, List.append_nil] at answered
  refine ⟨.fromRequest x.1, answered.mem_iff.mpr (List.mem_filterMap.mpr ⟨t, taken, answer⟩), ?_⟩
  have ok : (WebSocketResponseMessage.fromRequest x.1) =
      { id := x.1.id, status := some 200, message := some "OK" } := by
    simp [WebSocketResponseMessage.fromRequest, kind]
  unfold Connection.acknowledges
  rw [ok]
  dsimp only [Option.getD_some]
  rw [if_pos ⟨le_rfl, Nat.lt_add_of_pos_right (Nat.succ_pos 99)⟩, sound.find_served served,
    Option.bind_some, carries]

/-- From wherever the connections of a device have got to, with one more of them the server can take
    off all messages that can be read, and it never takes off any other. -/
theorem readable_acknowledged (reached : ReflTransGen (Step X decode) empty s)
    (keepAlivePath : String) :
    ∃ s', ReflTransGen (Step X decode) s s' ∧ s'.arrived = s.arrived ∧
      ∀ n body, s.arrived[n]? = some body → (n ∈ s'.acknowledged ↔ Decodes decode body) := by
  have exists_sent : ∃ c, SentUpTo decode s.acknowledged s.arrived.length c ∧
      ReflTransGen (Step X decode) s { s with connections := s.connections ++ [c] } :=
    exists_sent s keepAlivePath le_rfl
  obtain ⟨c, sent, steps⟩ := exists_sent
  obtain ⟨moves, last, ran, running, same, drained, none⟩ := Pipe.drains (X := X) sent.running
  have resting := steps.trans (steps_of_run rfl ran (congrArg List.length same))
  obtain ⟨sound, -⟩ := reached_inbox (reached.trans resting)
  have own := sound { c with pipe := last } (List.mem_append_right _ List.mem_cons_self)
  have exists_heard : ∃ s', ReflTransGen (Step X decode) _ s' ∧ s'.arrived = s.arrived ∧
      s.acknowledged ⊆ s'.acknowledged ∧
      ∀ response ∈ (responded last.worker.log).reverse.drop c.heard, ∀ n,
        Connection.acknowledges { c with pipe := last } response = some n → n ∈ s'.acknowledged :=
    exists_heard (s := { s with connections := s.connections ++ [{ c with pipe := last }] })
      (c := { c with pipe := last }) rfl
  obtain ⟨s', heard, arrived, more, acknowledged⟩ := exists_heard
  have run := resting.trans heard
  refine ⟨s', run, arrived, fun n body there => ⟨fun off => ?_, fun reads => ?_⟩⟩
  · obtain ⟨-, inbox⟩ := reached_inbox (reached.trans run)
    have kept := kept_of_steps inbox
    obtain ⟨body', found, reads⟩ := kept.reads n (kept.acknowledged n off)
    have same : body' = body := by
      have found : s'.arrived[n]? = some body' := found
      rw [arrived, there] at found
      exact (Option.some.inj found).symm
    exact same ▸ reads
  · by_cases before : n ∈ s.acknowledged
    · exact more before
    · have sentHere : n ∈ c.numbers :=
        (sent.numbers n).mpr ⟨(List.getElem?_eq_some_iff.mp there).1, before⟩
      obtain ⟨response, said, acknowledges⟩ :=
        acknowledged_at_rest own running drained none sentHere there reads
      refine acknowledged response ?_ n acknowledges
      rw [sent.unheard, List.drop_zero]
      exact List.mem_reverse.mpr said

open Pipe.PipeSample in
/-- The first message cannot be read, and stays. The second one is taken off all the same. -/
theorem unreadable_passed_over :
    ∃ s, ReflTransGen (Step reference decodeEnvelope) ⟨[[1], []], [], []⟩ s ∧
      0 ∉ s.acknowledged ∧ 1 ∈ s.acknowledged := by
  have reached : ReflTransGen (Step reference decodeEnvelope) empty ⟨[[1], []], [], []⟩ :=
    (ReflTransGen.refl.tail (.arrive [1])).tail (.arrive [])
  obtain ⟨s, steps, -, acknowledged⟩ := readable_acknowledged reached "/v1/keepalive"
  exact ⟨s, steps, fun off => absurd ((acknowledged 0 [1] rfl).mp off) (by decide),
    (acknowledged 1 [] rfl).mpr (by decide)⟩

end Mailbox

end SignalService.WebSocket

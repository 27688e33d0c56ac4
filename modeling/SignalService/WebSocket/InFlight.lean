import SignalService.WebSocket.Worker
import SignalService.Reference

/-! # Requests in flight

The worker keeps two tables of ids and gives out ids in three places. What the rest of
the world relies on is said over the log of what it did: which requests are in flight,
and that a response settles the one request that was sent with its id.
-/

namespace SignalService.WebSocket

/-! ## The log read as a specification -/

/-- The requests that were sent and not settled, with their ids; the log is newest
    first. -/
def inFlight : List Action → List (Nat × Owner)
  | [] => []
  | .sendRequest owner request :: log => (request.id.getD 0, owner) :: inFlight log
  | .settle owner response :: log => (inFlight log).erase (response.id.getD 0, owner)
  | _ :: log => inFlight log

/-- Every request was sent under an id that no request in flight had, and every
    response settled exactly the request in flight with its id. -/
def Faithful : List Action → Prop
  | [] => True
  | .sendRequest _ request :: log =>
      Faithful log ∧ ∃ id, request.id = some id ∧ ∀ pending ∈ inFlight log, pending.1 ≠ id
  | .settle owner response :: log =>
      Faithful log ∧ ∃ id, response.id = some id ∧
        (inFlight log).filter (fun pending => pending.1 = id) = [(id, owner)]
  | _ :: log => Faithful log

/-- The responders that got their answer. -/
def settledResponders : List Action → List Responder
  | [] => []
  | .settle (.application responder) _ :: log => responder :: settledResponders log
  | _ :: log => settledResponders log

/-- An action that neither sends a request nor settles one. -/
def Action.Quiet : Action → Prop
  | .sendRequest _ _ | .settle _ _ => False
  | _ => True

section Quiet

variable {actions log : List Action}

/-- What a log is read for is not changed by actions that the reading passes by. -/
theorem read_append_of_skipped {β : Type} {read : List Action → β} {P : Action → Prop}
    (skips : ∀ a log, P a → read (a :: log) = read log) (skipped : ∀ a ∈ actions, P a) :
    read (actions ++ log) = read log := by
  induction actions with
  | nil => rfl
  | cons a rest ih =>
      calc read (a :: (rest ++ log))
          = read (rest ++ log) := skips a _ (skipped a List.mem_cons_self)
        _ = read log := ih fun b member => skipped b (List.mem_cons_of_mem a member)

theorem inFlight_quiet (quiet : ∀ a ∈ actions, a.Quiet) :
    inFlight (actions ++ log) = inFlight log := by
  refine read_append_of_skipped ?_ quiet
  intro a log quiet
  cases a with
  | sendRequest | settle => exact quiet.elim
  | sendResponse | forward | close | disconnected => rfl

theorem faithful_quiet (quiet : ∀ a ∈ actions, a.Quiet) :
    Faithful (actions ++ log) ↔ Faithful log := by
  refine iff_of_eq (read_append_of_skipped ?_ quiet)
  intro a log quiet
  cases a with
  | sendRequest | settle => exact quiet.elim
  | sendResponse | forward | close | disconnected => rfl

theorem settledResponders_quiet (quiet : ∀ a ∈ actions, a.Quiet) :
    settledResponders (actions ++ log) = settledResponders log := by
  refine read_append_of_skipped ?_ quiet
  intro a log quiet
  cases a with
  | sendRequest | settle => exact quiet.elim
  | sendResponse | forward | close | disconnected => rfl

end Quiet

variable (X : Externals)

/-! ## What one turn can do -/

/-- The effect of a turn on the two tables, with what it logs. -/
inductive Turn (p : SignalWebSocketProcess) (responder : Responder) (w : Wakeup) : Woken → Prop where
  | quiet {woken} (ordinary : ∀ n, System.respondersAfter n w = n)
      (requests : woken.process.outgoingRequests = p.outgoingRequests)
      (keepAlives : woken.process.outgoingKeepAliveSet = p.outgoingKeepAliveSet)
      (actions : ∀ a ∈ woken.actions, a.Quiet) : Turn p responder w woken
  | timedOut {woken} (ordinary : ∀ n, System.respondersAfter n w = n)
      (requests : woken.process.outgoingRequests = p.outgoingRequests)
      (keepAlives : woken.process.outgoingKeepAliveSet = ∅)
      (actions : ∀ a ∈ woken.actions, a.Quiet)
      (ended : woken.ended.isSome) : Turn p responder w woken
  | keptAlive {woken} (id : Nat) (request : WebSocketRequestMessage)
      (ordinary : ∀ n, System.respondersAfter n w = n)
      (idle : p.outgoingKeepAliveSet = ∅) (unused : id ∉ p.outgoingRequests)
      (named : request.id = some id)
      (requests : woken.process.outgoingRequests = p.outgoingRequests)
      (keepAlives : woken.process.outgoingKeepAliveSet = {id})
      (logged : woken.actions = [.sendRequest .keepAlive request] ∨
        woken.actions = [] ∧ woken.ended.isSome) : Turn p responder w woken
  | requested {woken} (id : Nat) (request sent : WebSocketRequestMessage) (draws : List Nat)
      (sentOut : Bool) (wakeup : w = .request request draws sentOut)
      (chosen : p.requestId request draws = some id) (unused : id ∉ p.outgoingRequests)
      (named : sent.id = some id)
      (requests : woken.process.outgoingRequests = p.outgoingRequests.insert id responder)
      (keepAlives : woken.process.outgoingKeepAliveSet = p.outgoingKeepAliveSet)
      (logged : woken.actions = [.sendRequest (.application responder) sent] ∨
        woken.actions = [] ∧ woken.ended.isSome) : Turn p responder w woken
  | answered {woken} (id : Nat) (waiting : Responder) (response : WebSocketResponseMessage)
      (ordinary : ∀ n, System.respondersAfter n w = n)
      (pending : p.outgoingRequests.lookup id = some waiting) (named : response.id = some id)
      (requests : woken.process.outgoingRequests = p.outgoingRequests.erase id)
      (keepAlives : woken.process.outgoingKeepAliveSet = p.outgoingKeepAliveSet)
      (logged : woken.actions = [.settle (.application waiting) response]) :
      Turn p responder w woken
  | alive {woken} (id : Nat) (response : WebSocketResponseMessage)
      (ordinary : ∀ n, System.respondersAfter n w = n)
      (pending : id ∈ p.outgoingKeepAliveSet) (notRequested : id ∉ p.outgoingRequests)
      (named : response.id = some id)
      (requests : woken.process.outgoingRequests = p.outgoingRequests)
      (keepAlives : woken.process.outgoingKeepAliveSet = p.outgoingKeepAliveSet.erase id)
      (logged : woken.actions = [.settle .keepAlive response]) : Turn p responder w woken

section Cases

variable {p : SignalWebSocketProcess} {responder channel : Nat} {woken : Woken}

theorem nextRequestId_unused {draws : List Nat} {id : Nat}
    (drawn : p.nextRequestId draws = some id) : id ∉ p.outgoingRequests := by
  have found := List.find?_some drawn
  simpa using found

theorem requestId_unused {request : WebSocketRequestMessage} {draws : List Nat} {id : Nat}
    (chosen : p.requestId request draws = some id) : id ∉ p.outgoingRequests := by
  unfold SignalWebSocketProcess.requestId at chosen
  split at chosen
  · next own kept =>
      cases chosen
      have := (Option.filter_eq_some_iff.mp kept).2
      simpa using this
  · exact nextRequestId_unused chosen

theorem setDisconnectReason_tables (reason : DisconnectReason) :
    (p.setDisconnectReason reason).1.outgoingRequests = p.outgoingRequests ∧
      (p.setDisconnectReason reason).1.outgoingKeepAliveSet = p.outgoingKeepAliveSet ∧
      ∀ a ∈ (p.setDisconnectReason reason).2, a.Quiet := by
  unfold SignalWebSocketProcess.setDisconnectReason
  split
  · exact ⟨rfl, rfl, by simp [Action.Quiet]⟩
  · exact ⟨rfl, rfl, by simp⟩

theorem wakeTick_cases {draws : List Nat} {sent : Bool}
    (woke : p.wakeTick draws sent = some woken) :
    Turn p responder (.tick draws sent) woken := by
  unfold SignalWebSocketProcess.wakeTick at woke
  split at woke
  · cases woke
    obtain ⟨requests, -, quiet⟩ := setDisconnectReason_tables (p := p) .keepaliveTimeout
    refine .timedOut (fun _ => rfl) requests rfl ?_ rfl
    intro a member
    rcases List.mem_append.mp member with told | closed
    · exact quiet a told
    · rw [List.mem_singleton.mp closed]
      exact trivial
  · next idle =>
      obtain ⟨id, drawn, woke⟩ := Option.map_eq_some_iff.mp woke
      have empty : p.outgoingKeepAliveSet = ∅ := Finset.not_nonempty_iff_eq_empty.mp idle
      cases sent with
      | true =>
          cases woke
          exact .keptAlive id _ (fun _ => rfl) empty (nextRequestId_unused drawn) rfl rfl
            (by simp [empty]) (.inl rfl)
      | false =>
          cases woke
          exact .keptAlive id ⟨none, none, none, [], some id⟩ (fun _ => rfl) empty
            (nextRequestId_unused drawn) rfl rfl (by simp [empty]) (.inr ⟨rfl, rfl⟩)

theorem wakeRequest_cases {request : WebSocketRequestMessage} {draws : List Nat} {sent : Bool}
    (woke : p.wakeRequest responder request draws sent = some woken) :
    Turn p responder (.request request draws sent) woken := by
  obtain ⟨id, chosen, woke⟩ := Option.map_eq_some_iff.mp woke
  cases sent with
  | true =>
      cases woke
      exact .requested id request { request with id := some id } draws true rfl chosen
        (requestId_unused chosen) rfl rfl rfl (.inl rfl)
  | false =>
      cases woke
      exact .requested id request { request with id := some id } draws false rfl chosen
        (requestId_unused chosen) rfl rfl rfl (.inr ⟨rfl, rfl⟩)

theorem processResponse_cases {w : Wakeup} (ordinary : ∀ n, System.respondersAfter n w = n)
    (response : WebSocketResponseMessage) :
    Turn p responder w (p.processResponse X response) := by
  unfold SignalWebSocketProcess.processResponse
  cases named : response.id with
  | none => exact .quiet ordinary rfl rfl (by simp)
  | some id =>
      cases pending : p.outgoingRequests.lookup id with
      | some waiting =>
          simp only [pending]
          exact .answered id waiting response ordinary pending named rfl rfl rfl
      | none =>
          have notRequested : id ∉ p.outgoingRequests := AList.lookup_eq_none.mp pending
          simp only [pending]
          split
          · next alive => exact .alive id response ordinary alive notRequested named rfl rfl rfl
          · exact .quiet ordinary rfl rfl (by simp)

theorem processFrame_cases {w : Wakeup} (ordinary : ∀ n, System.respondersAfter n w = n)
    (message : WebSocketMessage) (forwarded : Bool) :
    Turn p responder w (p.processFrame X message channel forwarded) := by
  unfold SignalWebSocketProcess.processFrame
  split
  · exact .quiet ordinary rfl rfl (by simp)
  · split
    · exact .quiet ordinary rfl rfl (by simp [Action.Quiet])
    · exact .quiet ordinary rfl rfl (by simp)
  · exact .quiet ordinary rfl rfl (by simp)
  · exact processResponse_cases X ordinary _
  · exact .quiet ordinary rfl rfl (by simp)

theorem wakeResponse_cases {w : Wakeup} (ordinary : ∀ n, System.respondersAfter n w = n)
    {ready : Nat} {answer : Option WebSocketResponseMessage} {sent : Bool}
    (woke : p.wakeResponse ready answer sent = some woken) : Turn p responder w woken := by
  unfold SignalWebSocketProcess.wakeResponse at woke
  split at woke
  · cases answer with
    | none =>
        cases woke
        exact .quiet ordinary rfl rfl (by simp)
    | some response =>
        cases sent with
        | true =>
            cases woke
            exact .quiet ordinary rfl rfl (by simp [Action.Quiet])
        | false =>
            cases woke
            exact .quiet ordinary rfl rfl (by simp)
  · cases woke

/-- Every turn is one of the six. -/
theorem wake_cases {w : Wakeup} (woke : p.wake X responder channel w = some woken) :
    Turn p responder w woken := by
  cases w with
  | tick draws sent => exact wakeTick_cases woke
  | request request draws sent => exact wakeRequest_cases woke
  | requestsEnded | ignored =>
      cases woke
      exact .quiet (fun _ => rfl) rfl rfl (by simp)
  | frame message forwarded =>
      cases message with
      | none =>
          cases woke
          exact .quiet (fun _ => rfl) rfl rfl (by simp)
      | some message =>
          cases woke
          exact processFrame_cases X (fun _ => rfl) message forwarded
  | closeFrame code reason =>
      cases woke
      obtain ⟨requests, keepAlives, quiet⟩ :=
        setDisconnectReason_tables (p := p) (.fromClose code reason)
      exact .quiet (fun _ => rfl) requests keepAlives quiet
  | transportError | streamEnded =>
      cases woke
      obtain ⟨requests, keepAlives, quiet⟩ := setDisconnectReason_tables (p := p) .transport
      exact .quiet (fun _ => rfl) requests keepAlives quiet
  | response ready answer sent => exact wakeResponse_cases (fun _ => rfl) woke

end Cases

/-! ## The invariant -/

/-- While the worker runs, its two tables are the requests in flight. -/
structure TablesAgree (p : SignalWebSocketProcess) (log : List Action) : Prop where
  requests : ∀ id responder, p.outgoingRequests.lookup id = some responder ↔
    (id, Owner.application responder) ∈ inFlight log
  keepAlives : ∀ id, id ∈ p.outgoingKeepAliveSet ↔ (id, Owner.keepAlive) ∈ inFlight log
  distinct : ((inFlight log).map Prod.fst).Nodup

/-- What holds of the responders, also once the worker has ended. -/
structure RespondersKept (p : SignalWebSocketProcess) (log : List Action) (made : Nat) : Prop where
  once : (settledResponders log).Nodup
  noneLost : ∀ responder < made, responder ∈ settledResponders log ∨
    ∃ id, p.outgoingRequests.lookup id = some responder
  settledMade : ∀ responder ∈ settledResponders log, responder < made
  waitingMade : ∀ id responder, p.outgoingRequests.lookup id = some responder → responder < made
  waiting : ∀ id responder, p.outgoingRequests.lookup id = some responder →
    responder ∉ settledResponders log
  oneId : ∀ id id' responder, p.outgoingRequests.lookup id = some responder →
    p.outgoingRequests.lookup id' = some responder → id = id'

structure Inv (sys : System) : Prop where
  disjoint : ∀ id ∈ sys.process.outgoingRequests, id ∉ sys.process.outgoingKeepAliveSet
  faithful : Faithful sys.log
  responders : RespondersKept sys.process sys.log sys.responders
  tables : sys.ended = false → TablesAgree sys.process sys.log

/-- The request is not given the id of a keep-alive in flight. -/
def SignalWebSocketProcess.Uncontested (p : SignalWebSocketProcess) : Wakeup → Prop
  | .request request draws _ =>
      ∀ id, p.requestId request draws = some id → id ∉ p.outgoingKeepAliveSet
  | _ => True

theorem init_inv (keepAlivePath : String) : Inv (System.init keepAlivePath) where
  disjoint := by
    intro id _
    simp [System.init, SignalWebSocketProcess.new]
  faithful := trivial
  responders := by
    constructor <;> simp [System.init, SignalWebSocketProcess.new, settledResponders]
  tables := by
    intro _
    constructor <;> simp [System.init, SignalWebSocketProcess.new, inFlight]

section Step

variable {p q : SignalWebSocketProcess} {log : List Action} {made : Nat}

/-! ### Sending -/

theorem TablesAgree.unused (agree : TablesAgree p log) {id : Nat}
    (notRequested : id ∉ p.outgoingRequests) (notAlive : id ∉ p.outgoingKeepAliveSet) :
    ∀ pending ∈ inFlight log, pending.1 ≠ id := by
  rintro ⟨id', owner⟩ member rfl
  cases owner with
  | application responder =>
      have waiting := (agree.requests id' responder).mpr member
      exact notRequested (AList.lookup_isSome.mp (by simp [waiting]))
  | keepAlive => exact notAlive ((agree.keepAlives id').mpr member)

/-- The ids stay distinct when a request goes out under an unused one. -/
theorem distinct_send {id : Nat} {owner : Owner} {request : WebSocketRequestMessage}
    (distinct : ((inFlight log).map Prod.fst).Nodup) (named : request.id = some id)
    (unused : ∀ pending ∈ inFlight log, pending.1 ≠ id) :
    ((inFlight (.sendRequest owner request :: log)).map Prod.fst).Nodup := by
  simp only [inFlight, named, Option.getD_some, List.map_cons, List.nodup_cons]
  refine ⟨?_, distinct⟩
  intro member
  obtain ⟨pending, inside, same⟩ := List.mem_map.mp member
  exact unused pending inside same

theorem TablesAgree.sendKeepAlive (agree : TablesAgree p log) {id : Nat}
    {request : WebSocketRequestMessage} (idle : p.outgoingKeepAliveSet = ∅)
    (unused : id ∉ p.outgoingRequests) (named : request.id = some id)
    (requests : q.outgoingRequests = p.outgoingRequests)
    (keepAlives : q.outgoingKeepAliveSet = {id}) :
    TablesAgree q (.sendRequest .keepAlive request :: log) where
  requests := by
    intro id' responder
    simp [inFlight, requests, agree.requests]
  keepAlives := by
    intro id'
    have none : (id', Owner.keepAlive) ∉ inFlight log := by
      rw [← agree.keepAlives, idle]
      simp
    simp [inFlight, keepAlives, named, none]
  distinct := distinct_send agree.distinct named (agree.unused unused (by simp [idle]))

theorem TablesAgree.sendApplication (agree : TablesAgree p log) {id : Nat} {responder : Responder}
    {request : WebSocketRequestMessage} (unused : id ∉ p.outgoingRequests)
    (uncontested : id ∉ p.outgoingKeepAliveSet) (named : request.id = some id)
    (requests : q.outgoingRequests = p.outgoingRequests.insert id responder)
    (keepAlives : q.outgoingKeepAliveSet = p.outgoingKeepAliveSet) :
    TablesAgree q (.sendRequest (.application responder) request :: log) where
  requests := by
    intro id' responder'
    have others := agree.unused unused uncontested
    simp only [inFlight, requests, named, Option.getD_some, List.mem_cons, Prod.mk.injEq,
      Owner.application.injEq]
    by_cases same : id' = id
    · subst same
      have absent : (id', Owner.application responder') ∉ inFlight log :=
        fun member => others _ member rfl
      simp [absent, eq_comm]
    · simp [AList.lookup_insert_ne same, same, agree.requests]
  keepAlives := by
    intro id'
    simp [inFlight, keepAlives, agree.keepAlives]
  distinct := distinct_send agree.distinct named (agree.unused unused uncontested)

/-! ### Settling -/

/-- With distinct ids, the one in flight under an id is the only one. -/
theorem filter_id_eq {pendings : List (Nat × Owner)} {id : Nat} {owner : Owner}
    (distinct : (pendings.map Prod.fst).Nodup) (member : (id, owner) ∈ pendings) :
    pendings.filter (fun pending => pending.1 = id) = [(id, owner)] := by
  induction pendings with
  | nil => simp at member
  | cons head rest ih =>
      obtain ⟨headNew, restDistinct⟩ := List.nodup_cons.mp distinct
      rcases List.mem_cons.mp member with rfl | member
      · have others : rest.filter (fun pending => pending.1 = id) = [] := by
          rw [List.filter_eq_nil_iff]
          intro pending inside same
          exact headNew (List.mem_map.mpr ⟨pending, inside, by simpa using same⟩)
        simp [others]
      · have differs : head.1 ≠ id := by
          rintro rfl
          exact headNew (List.mem_map.mpr ⟨_, member, rfl⟩)
        simpa [differs] using ih restDistinct member

section Settle

variable {id : Nat} {owner : Owner} {response : WebSocketResponseMessage}

theorem mem_inFlight_settle (distinct : ((inFlight log).map Prod.fst).Nodup)
    (named : response.id = some id) {pending : Nat × Owner} :
    pending ∈ inFlight (.settle owner response :: log) ↔
      pending ≠ (id, owner) ∧ pending ∈ inFlight log := by
  simp only [inFlight, named, Option.getD_some]
  exact (List.Nodup.of_map _ distinct).mem_erase_iff

theorem distinct_settle (distinct : ((inFlight log).map Prod.fst).Nodup) :
    ((inFlight (.settle owner response :: log)).map Prod.fst).Nodup :=
  distinct.sublist ((List.erase_sublist).map Prod.fst)

theorem TablesAgree.answer (agree : TablesAgree p log) {waiting : Responder}
    (pending : p.outgoingRequests.lookup id = some waiting) (named : response.id = some id)
    (requests : q.outgoingRequests = p.outgoingRequests.erase id)
    (keepAlives : q.outgoingKeepAliveSet = p.outgoingKeepAliveSet) :
    TablesAgree q (.settle (.application waiting) response :: log) where
  requests := by
    intro id' responder
    rw [mem_inFlight_settle agree.distinct named, requests, ← agree.requests]
    by_cases same : id' = id
    · subst same
      simp only [AList.lookup_erase, reduceCtorEq, ne_eq, Prod.mk.injEq, true_and,
        Owner.application.injEq, false_iff, not_and]
      rintro differs found
      exact differs (Option.some.inj (found.symm.trans pending))
    · simp [AList.lookup_erase_ne same, same]
  keepAlives := by
    intro id'
    rw [mem_inFlight_settle agree.distinct named, keepAlives, agree.keepAlives]
    simp
  distinct := distinct_settle agree.distinct

theorem TablesAgree.alive (agree : TablesAgree p log) (named : response.id = some id)
    (requests : q.outgoingRequests = p.outgoingRequests)
    (keepAlives : q.outgoingKeepAliveSet = p.outgoingKeepAliveSet.erase id) :
    TablesAgree q (.settle .keepAlive response :: log) where
  requests := by
    intro id' responder
    rw [mem_inFlight_settle agree.distinct named, requests, agree.requests]
    simp
  keepAlives := by
    intro id'
    rw [mem_inFlight_settle agree.distinct named, keepAlives, Finset.mem_erase, agree.keepAlives]
    simp
  distinct := distinct_settle agree.distinct

end Settle

/-! ### Responders -/

theorem RespondersKept.insert (kept : RespondersKept p log made) {id : Nat}
    {log' : List Action} (unused : id ∉ p.outgoingRequests)
    (requests : q.outgoingRequests = p.outgoingRequests.insert id made)
    (settled : settledResponders log' = settledResponders log) :
    RespondersKept q log' (made + 1) := by
  have lookup : ∀ id' responder, q.outgoingRequests.lookup id' = some responder ↔
      (id' = id ∧ responder = made) ∨ p.outgoingRequests.lookup id' = some responder := by
    intro id' responder
    rw [requests]
    by_cases same : id' = id
    · subst same
      have free : p.outgoingRequests.lookup id' = none := AList.lookup_eq_none.mpr unused
      simp [free, eq_comm]
    · simp [AList.lookup_insert_ne same, same]
  refine ⟨?_, ?_, ?_, ?_, ?_, ?_⟩
  · rw [settled]
    exact kept.once
  · intro responder bound
    rcases Nat.lt_succ_iff_lt_or_eq.mp bound with earlier | rfl
    · rcases kept.noneLost responder earlier with done | ⟨id', waiting⟩
      · exact .inl (settled ▸ done)
      · exact .inr ⟨id', (lookup id' responder).mpr (.inr waiting)⟩
    · exact .inr ⟨id, (lookup id _).mpr (.inl ⟨rfl, rfl⟩)⟩
  · intro responder done
    exact Nat.lt_succ_of_lt (kept.settledMade responder (settled ▸ done))
  · intro id' responder waiting
    rcases (lookup id' responder).mp waiting with ⟨-, rfl⟩ | waiting
    · exact Nat.lt_succ_self _
    · exact Nat.lt_succ_of_lt (kept.waitingMade id' responder waiting)
  · intro id' responder waiting done
    rw [settled] at done
    rcases (lookup id' responder).mp waiting with ⟨-, rfl⟩ | waiting
    · exact absurd (kept.settledMade _ done) (Nat.lt_irrefl _)
    · exact kept.waiting id' responder waiting done
  · intro id₁ id₂ responder first second
    rcases (lookup id₁ responder).mp first with ⟨rfl, rfl⟩ | first <;>
      rcases (lookup id₂ responder).mp second with ⟨rfl, same⟩ | second
    · rfl
    · exact absurd (kept.waitingMade _ _ second) (Nat.lt_irrefl _)
    · subst same
      exact absurd (kept.waitingMade _ _ first) (Nat.lt_irrefl _)
    · exact kept.oneId id₁ id₂ responder first second

theorem RespondersKept.erase (kept : RespondersKept p log made) {id : Nat} {waiting : Responder}
    {response : WebSocketResponseMessage}
    (pending : p.outgoingRequests.lookup id = some waiting)
    (requests : q.outgoingRequests = p.outgoingRequests.erase id) :
    RespondersKept q (.settle (.application waiting) response :: log) made := by
  have lookup : ∀ id' responder, q.outgoingRequests.lookup id' = some responder ↔
      id' ≠ id ∧ p.outgoingRequests.lookup id' = some responder := by
    intro id' responder
    rw [requests]
    by_cases same : id' = id
    · subst same
      simp
    · simp [AList.lookup_erase_ne same, same]
  refine ⟨?_, ?_, ?_, ?_, ?_, ?_⟩
  · exact List.nodup_cons.mpr ⟨kept.waiting id waiting pending, kept.once⟩
  · intro responder bound
    rcases kept.noneLost responder bound with done | ⟨id', found⟩
    · exact .inl (List.mem_cons_of_mem _ done)
    · by_cases same : id' = id
      · subst same
        rw [pending] at found
        cases found
        exact .inl List.mem_cons_self
      · exact .inr ⟨id', (lookup id' responder).mpr ⟨same, found⟩⟩
  · intro responder done
    rcases List.mem_cons.mp done with rfl | done
    · exact kept.waitingMade id _ pending
    · exact kept.settledMade responder done
  · intro id' responder found
    exact kept.waitingMade id' responder ((lookup id' responder).mp found).2
  · intro id' responder found done
    obtain ⟨differs, found⟩ := (lookup id' responder).mp found
    rcases List.mem_cons.mp done with rfl | done
    · exact differs (kept.oneId id' id _ found pending)
    · exact kept.waiting id' responder found done
  · intro id₁ id₂ responder first second
    exact kept.oneId id₁ id₂ responder ((lookup id₁ responder).mp first).2
      ((lookup id₂ responder).mp second).2

theorem RespondersKept.congr (kept : RespondersKept p log made) {log' : List Action}
    (requests : q.outgoingRequests = p.outgoingRequests)
    (settled : settledResponders log' = settledResponders log) : RespondersKept q log' made := by
  obtain ⟨once, noneLost, settledMade, waitingMade, waiting, oneId⟩ := kept
  constructor <;> simpa only [requests, settled]

end Step

/-! ## Runs -/

section Run

variable {X} {sys next : System} {w : Wakeup}

theorem System.step_eq (stepped : sys.step X w = some next) :
    sys.ended = false ∧ ∃ woken, sys.process.wake X sys.responders sys.channels w = some woken ∧
      next = ⟨woken.process, System.respondersAfter sys.responders w, sys.channels + 1,
        woken.actions.reverse ++ sys.log, woken.ended.isSome⟩ := by
  unfold System.step at stepped
  cases running : sys.ended with
  | true => simp [running] at stepped
  | false =>
      simp only [running, Bool.false_eq_true, if_false] at stepped
      obtain ⟨woken, woke, rfl⟩ := Option.map_eq_some_iff.mp stepped
      exact ⟨rfl, woken, woke, rfl⟩

/-- A turn that gives no request the id of a keep-alive keeps the invariant. -/
theorem step_inv (inv : Inv sys) (uncontested : sys.process.Uncontested w)
    (stepped : sys.step X w = some next) : Inv next := by
  obtain ⟨running, woken, woke, rfl⟩ := System.step_eq stepped
  have agree := inv.tables running
  cases wake_cases X woke with
  | quiet ordinary requests keepAlives actions =>
      have reversed : ∀ a ∈ woken.actions.reverse, a.Quiet := by simpa using actions
      refine ⟨?_, (faithful_quiet reversed).mpr inv.faithful, ?_, fun _ => ?_⟩
      · simpa only [requests, keepAlives] using inv.disjoint
      · simp only [ordinary]
        exact inv.responders.congr requests (settledResponders_quiet reversed)
      · obtain ⟨agreeRequests, agreeKeepAlives, distinct⟩ := agree
        constructor <;> simpa only [requests, keepAlives, inFlight_quiet reversed]
  | timedOut ordinary requests keepAlives actions ended =>
      have reversed : ∀ a ∈ woken.actions.reverse, a.Quiet := by simpa using actions
      refine ⟨?_, (faithful_quiet reversed).mpr inv.faithful, ?_, fun running => ?_⟩
      · intro id _
        simp [keepAlives]
      · simp only [ordinary]
        exact inv.responders.congr requests (settledResponders_quiet reversed)
      · simp [ended] at running
  | keptAlive id request ordinary idle unused named requests keepAlives logged =>
      have disjoint : ∀ id' ∈ woken.process.outgoingRequests,
          id' ∉ woken.process.outgoingKeepAliveSet := by
        intro id' member
        rw [requests] at member
        rw [keepAlives, Finset.mem_singleton]
        rintro rfl
        exact unused member
      rcases logged with logged | ⟨logged, ended⟩
      · refine ⟨disjoint, ?_, ?_, fun _ => ?_⟩ <;> simp only [logged]
        · exact ⟨inv.faithful, id, named, agree.unused unused (by simp [idle])⟩
        · simp only [ordinary]
          exact inv.responders.congr requests rfl
        · exact agree.sendKeepAlive idle unused named requests keepAlives
      · refine ⟨disjoint, ?_, ?_, fun running => ?_⟩
        · simpa [logged] using inv.faithful
        · simp only [ordinary, logged]
          exact inv.responders.congr requests rfl
        · simp [ended] at running
  | requested id request sent draws sentOut wakeup chosen unused named requests keepAlives logged =>
      subst wakeup
      have free : id ∉ sys.process.outgoingKeepAliveSet := uncontested id chosen
      have disjoint : ∀ id' ∈ woken.process.outgoingRequests,
          id' ∉ woken.process.outgoingKeepAliveSet := by
        intro id' member
        rw [requests, AList.mem_insert] at member
        rw [keepAlives]
        rcases member with rfl | member
        · exact free
        · exact inv.disjoint id' member
      rcases logged with logged | ⟨logged, ended⟩
      · refine ⟨disjoint, ?_, ?_, fun _ => ?_⟩ <;> simp only [logged]
        · exact ⟨inv.faithful, id, named, agree.unused unused free⟩
        · exact inv.responders.insert unused requests rfl
        · exact agree.sendApplication unused free named requests keepAlives
      · refine ⟨disjoint, ?_, ?_, fun running => ?_⟩
        · simpa [logged] using inv.faithful
        · simp only [logged]
          exact inv.responders.insert unused requests rfl
        · simp [ended] at running
  | answered id waiting response ordinary pending named requests keepAlives logged =>
      refine ⟨?_, ?_, ?_, fun _ => ?_⟩ <;> simp only [logged]
      · intro id' member
        rw [requests, AList.mem_erase] at member
        rw [keepAlives]
        exact inv.disjoint id' member.2
      · exact ⟨inv.faithful, id, named,
          filter_id_eq agree.distinct ((agree.requests id waiting).mp pending)⟩
      · simp only [ordinary]
        exact inv.responders.erase pending requests
      · exact agree.answer pending named requests keepAlives
  | alive id response ordinary pending notRequested named requests keepAlives logged =>
      refine ⟨?_, ?_, ?_, fun _ => ?_⟩ <;> simp only [logged]
      · intro id' member
        rw [requests] at member
        rw [keepAlives]
        exact fun stays => inv.disjoint id' member (Finset.mem_of_mem_erase stays)
      · exact ⟨inv.faithful, id, named,
          filter_id_eq agree.distinct ((agree.keepAlives id).mp pending)⟩
      · simp only [ordinary]
        exact inv.responders.congr requests rfl
      · exact agree.alive named requests keepAlives

/-- Every turn of a run leaves the keep-alives their ids. -/
def System.Uncontested (X : Externals) (sys : System) (ws : List Wakeup) : Prop :=
  ∀ before w after state, ws = before ++ w :: after → sys.run X before = some state →
    state.ended = false → state.process.Uncontested w

theorem System.run_append (sys : System) (before after : List Wakeup) :
    sys.run X (before ++ after) = (sys.run X before).bind fun state => state.run X after := by
  induction before generalizing sys with
  | nil => rfl
  | cons w rest ih =>
      simp only [List.cons_append, System.run]
      cases sys.step X w with
      | none => rfl
      | some next => exact ih next

theorem System.Uncontested.tail {ws : List Wakeup} (uncontested : sys.Uncontested X (w :: ws))
    (stepped : sys.step X w = some next) : next.Uncontested X ws := by
  intro before w' after state split ran running
  refine uncontested (w :: before) w' after state (by rw [split]; rfl) ?_ running
  rw [System.run, stepped]
  exact ran

theorem run_inv {ws : List Wakeup} (inv : Inv sys) (uncontested : sys.Uncontested X ws)
    (ran : sys.run X ws = some next) : Inv next := by
  induction ws generalizing sys with
  | nil =>
      cases ran
      exact inv
  | cons w rest ih =>
      rw [System.run] at ran
      obtain ⟨state, stepped, ran⟩ := Option.bind_eq_some_iff.mp ran
      obtain ⟨running, -⟩ := System.step_eq stepped
      have first : sys.process.Uncontested w := uncontested [] w rest sys rfl rfl running
      exact ih (step_inv inv first stepped) (uncontested.tail stepped) ran

/-! ## What responses settle -/

/-- In a state reached by the worker, the ids in flight are distinct, everything logged
    so far was settled by its own response, no responder was lost or answered twice,
    and a response to a request in flight settles that request. -/
structure Sound (X : Externals) (sys : System) : Prop where
  distinct : ∀ id ∈ sys.process.outgoingRequests, id ∉ sys.process.outgoingKeepAliveSet
  faithful : Faithful sys.log
  once : (settledResponders sys.log).Nodup
  noneLost : ∀ responder < sys.responders, responder ∈ settledResponders sys.log ∨
    ∃ id, sys.process.outgoingRequests.lookup id = some responder
  settles : sys.ended = false → ∀ response id owner, response.id = some id →
    (id, owner) ∈ inFlight sys.log →
      (sys.process.processResponse X response).actions = [.settle owner response]

theorem Inv.sound (inv : Inv sys) : Sound X sys where
  distinct := inv.disjoint
  faithful := inv.faithful
  once := inv.responders.once
  noneLost := inv.responders.noneLost
  settles := by
    intro running response id owner named member
    have agree := inv.tables running
    unfold SignalWebSocketProcess.processResponse
    cases owner with
    | application responder => simp [named, (agree.requests id responder).mpr member]
    | keepAlive =>
        have alive := (agree.keepAlives id).mpr member
        have absent : sys.process.outgoingRequests.lookup id = none := by
          rw [AList.lookup_eq_none]
          exact fun requested => inv.disjoint id requested alive
        simp [named, absent, alive]

/-- A request that is given the id of a keep-alive breaks the next state. -/
theorem contested_not_sound (contested : ¬ sys.process.Uncontested w) (running : sys.ended = false) :
    ∃ next, sys.step X w = some next ∧ ¬ Sound X next := by
  cases w with
  | request request draws sent =>
      simp only [SignalWebSocketProcess.Uncontested, not_forall, not_not] at contested
      obtain ⟨id, chosen, alive⟩ := contested
      have woke : ∃ woken, sys.process.wake X sys.responders sys.channels
          (.request request draws sent) = some woken ∧ id ∈ woken.process.outgoingRequests ∧
            id ∈ woken.process.outgoingKeepAliveSet := by
        cases sent <;>
          simp [SignalWebSocketProcess.wake, SignalWebSocketProcess.wakeRequest, chosen, alive]
      obtain ⟨woken, woke, requested, alive⟩ := woke
      refine ⟨_, by simp [System.step, running, woke]; rfl, ?_⟩
      intro sound
      exact sound.distinct id requested alive
  | tick | requestsEnded | frame | closeFrame | ignored | transportError | streamEnded
  | response => exact absurd trivial contested

/-- Every state of a run is sound exactly when no request of the application was given
    the id of a keep-alive in flight. -/
theorem run_sound_iff (keepAlivePath : String) (ws : List Wakeup) :
    (∀ before after state, ws = before ++ after →
        (System.init keepAlivePath).run X before = some state → Sound X state) ↔
      (System.init keepAlivePath).Uncontested X ws := by
  constructor
  · intro sound before w after state split ran running
    by_contra contested
    obtain ⟨next, stepped, unsound⟩ := contested_not_sound (X := X) contested running
    refine unsound (sound (before ++ [w]) after next (by simp [split]) ?_)
    simp [System.run_append, ran, System.run, stepped]
  · intro uncontested before after state split ran
    have earlier : (System.init keepAlivePath).Uncontested X before := by
      intro before' w after' state' split' ran' running'
      exact uncontested before' w (after' ++ after) state' (by simp [split, split']) ran' running'
    exact (run_inv (init_inv keepAlivePath) earlier ran).sound

/-! A caller takes the id that a keep-alive was sent under, and gets its answer. -/

namespace Sample

def contestedAnswer : WebSocketResponseMessage where
  id := some 7
  status := some 200

def contestedRun : List Wakeup :=
  [.tick [7] true,
    .request { verb := some "GET", path := some "/v1/devices", id := some 7 } [] true,
    .frame (some ⟨some 2, none, some contestedAnswer⟩) true]

end Sample

theorem contested_run_settles_the_wrong_request :
    ∃ state log, (System.init "/v1/keepalive").run reference Sample.contestedRun = some state ∧
      state.log = .settle (.application 0) Sample.contestedAnswer :: log ∧
      inFlight log = [(7, .application 0), (7, .keepAlive)] ∧ ¬ Sound reference state := by
  refine ⟨_, _, rfl, rfl, rfl, ?_⟩
  intro sound
  obtain ⟨-, id, named, alone⟩ := sound.faithful
  cases named
  exact absurd alone (by decide)

end Run

end SignalService.WebSocket

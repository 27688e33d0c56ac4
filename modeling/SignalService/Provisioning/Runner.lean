import SignalService.Provisioning.Untrusted

/-! # The runner of the provisioning pipe

`ProvisioningPipe::run`: the requests of the socket are taken in their order, and what each of
them gives is offered to the consumer before the next one is looked at.
-/

namespace SignalService.Provisioning

open Effect

variable (X : ProvisioningExternals)

/-- `mpsc::SendError`: the consumer is gone. -/
inductive SendError where
  | disconnected

inductive RunnerCall where
  | pipe (c : PipeCall)
  /-- `sink.send`, answered by whether the consumer is still there. -/
  | send (item : Except ProvisioningError (ProvisioningStep X))
  | returnRequestStream

@[reducible] def RunnerAnswer : RunnerCall X → Type
  | .pipe c => PipeAnswer c
  | .send _ => Bool
  | .returnRequestStream => Unit

abbrev RunnerProg (α : Type) := Prog (RunnerCall X) (RunnerAnswer X) SendError α

/-- The loop, over the requests that the socket delivers until it ends. -/
def runLoop (cipher : ProvisioningCipher X.toCurve) :
    List WebSocketRequestMessage → RunnerProg X Unit
  | [] => Prog.ask RunnerCall.returnRequestStream
  | request :: rest => do
      let env ← ((processRequest X cipher request).lift .pipe fun _ answer => answer).attempt
      if ← Prog.ask (.send env) then runLoop cipher rest else Prog.throw .disconnected

/-- The stream is missing if it was taken before. -/
def run (cipher : ProvisioningCipher X.toCurve) (stream : Option (List WebSocketRequestMessage)) :
    RunnerProg X Unit := do
  let stream ← Prog.ofOption (.panic "web socket request handler not in use") stream
  runLoop X cipher stream

/-! ## Turns -/

/-- What became of one request: whether its response was heard, if one was sent, and whether the
consumer was there for the item. -/
structure Turn where
  request : WebSocketRequestMessage
  heard : Option Bool
  item : Except ProvisioningError (ProvisioningStep X)
  taken : Bool

variable {X}

namespace Turn

def events (t : Turn X) : List (Event (RunnerCall X) (RunnerAnswer X)) :=
  (t.heard.toList.map fun heard => ⟨.pipe (.respond (okResponse t.request.id)), heard⟩) ++
    [⟨.send t.item, t.taken⟩]

/-- The same response, where a new device asks for its next step. -/
def answered (t : Turn X) : List (Event (LinkCall X) (LinkAnswer X)) :=
  t.heard.toList.map fun heard => ⟨.pipe (.respond (okResponse t.request.id)), heard⟩

/-- A request that is read is acknowledged, and gives a step if that is heard. -/
inductive Fits (cipher : ProvisioningCipher X.toCurve) : Turn X → Prop where
  | acknowledged {request : WebSocketRequestMessage} {step : ProvisioningStep X} {taken : Bool}
      (read : requestedStep X cipher request = .ret step) :
      Fits cipher ⟨request, some true, .ok step, taken⟩
  | unheard {request : WebSocketRequestMessage} {step : ProvisioningStep X} {taken : Bool}
      (read : requestedStep X cipher request = .ret step) :
      Fits cipher ⟨request, some false, .error .wsClosing, taken⟩
  | failed {request : WebSocketRequestMessage} {e : ProvisioningError} {taken : Bool}
      (read : requestedStep X cipher request = .throw e) :
      Fits cipher ⟨request, none, .error e, taken⟩

end Turn

/-- How a run ends after some turns, with some requests left: the stream has ended and is given
back, the last item was not taken, or the next request cannot be read without a panic. -/
inductive Ends (cipher : ProvisioningCipher X.toCurve) (turns : List (Turn X)) :
    List WebSocketRequestMessage → List (Event (RunnerCall X) (RunnerAnswer X)) →
      Exit SendError Unit → Prop where
  | finished (taken : ∀ t ∈ turns, t.taken = true) :
      Ends cipher turns [] [⟨.returnRequestStream, ()⟩] (.ret ())
  | left {before : List (Turn X)} {last : Turn X} {rest : List WebSocketRequestMessage}
      (split : turns = before ++ [last]) (taken : ∀ t ∈ before, t.taken = true)
      (lost : last.taken = false) : Ends cipher turns rest [] (.throw .disconnected)
  | panicked {request : WebSocketRequestMessage} {rest : List WebSocketRequestMessage} {m : String}
      (taken : ∀ t ∈ turns, t.taken = true) (read : requestedStep X cipher request = .panic m) :
      Ends cipher turns (request :: rest) [] (.panic m)

section Runs

open Prog

variable {cipher : ProvisioningCipher X.toCurve} {request : WebSocketRequestMessage}
  {requests rest : List WebSocketRequestMessage} {turns : List (Turn X)} {t : Turn X}
  {es last : List (Event (RunnerCall X) (RunnerAnswer X))} {x : Exit SendError Unit}

theorem trace_offer {item : Except ProvisioningError (ProvisioningStep X)} :
    Trace (.call (.send item) fun there =>
        if there = true then runLoop X cipher rest else Prog.throw .disconnected) es x ↔
      ∃ taken later, es = ⟨.send item, taken⟩ :: later ∧
        (taken = true ∧ Trace (runLoop X cipher rest) later x ∨
          taken = false ∧ later = [] ∧ x = .throw .disconnected) := by
  rw [trace_call]
  refine exists_congr fun taken => exists_congr fun later => and_congr_right fun _ => ?_
  cases taken with
  | true => simp
  | false => simp [Prog.throw]

/-- What one round of the loop can do. -/
theorem runLoop_cons :
    Trace (runLoop X cipher (request :: rest)) es x ↔
      (es = [] ∧ ∃ m, requestedStep X cipher request = .panic m ∧ x = .panic m) ∨
      ∃ t : Turn X, t.request = request ∧ t.Fits cipher ∧ ∃ later, es = t.events ++ later ∧
        (t.taken = true ∧ Trace (runLoop X cipher rest) later x ∨
          t.taken = false ∧ later = [] ∧ x = .throw .disconnected) := by
  cases read : requestedStep X cipher request with
  | panic m =>
      have shape : runLoop X cipher (request :: rest) = .done (.panic m) := by
        rw [runLoop, processRequest_eq, read]
        rfl
      rw [shape, trace_done]
      constructor
      · rintro ⟨rfl, rfl⟩
        exact .inl ⟨rfl, m, rfl, rfl⟩
      · rintro (⟨rfl, _, ⟨⟩, rfl⟩ | ⟨t, rfl, fits, -⟩)
        · exact ⟨rfl, rfl⟩
        · cases fits with
          | acknowledged found | unheard found | failed found => rw [found] at read; cases read
  | throw e =>
      have shape : runLoop X cipher (request :: rest) = .call (.send (.error e)) fun there =>
          if there = true then runLoop X cipher rest else Prog.throw .disconnected := by
        rw [runLoop, processRequest_eq, read]
        rfl
      rw [shape, trace_offer]
      constructor
      · rintro ⟨taken, later, rfl, ends⟩
        exact .inr ⟨⟨request, none, .error e, taken⟩, rfl, .failed read, later, rfl, ends⟩
      · rintro (⟨-, _, ⟨⟩, -⟩ | ⟨t, rfl, fits, later, rfl, ends⟩)
        cases fits with
        | acknowledged found | unheard found => rw [found] at read; cases read
        | failed found =>
            cases found.symm.trans read
            exact ⟨_, later, rfl, ends⟩
  | ret step =>
      have shape : runLoop X cipher (request :: rest) =
          .call (.pipe (.respond (okResponse request.id))) fun (heard : Bool) =>
            .call (.send (if heard = true then .ok step else .error .wsClosing)) fun there =>
              if there = true then runLoop X cipher rest else Prog.throw .disconnected := by
        rw [runLoop, processRequest_eq, read]
        refine congrArg (Prog.call _) (funext fun heard => ?_)
        cases heard <;> rfl
      rw [shape, trace_call]
      constructor
      · rintro ⟨heard, later, rfl, offered⟩
        obtain ⟨taken, later, rfl, ends⟩ := trace_offer.mp offered
        right
        cases heard with
        | true => exact ⟨_, rfl, .acknowledged read, later, rfl, ends⟩
        | false => exact ⟨_, rfl, .unheard read, later, rfl, ends⟩
      · rintro (⟨-, _, ⟨⟩, -⟩ | ⟨t, rfl, fits, later, rfl, ends⟩)
        cases fits with
        | acknowledged found =>
            cases found.symm.trans read
            exact ⟨true, _, rfl, trace_offer.mpr ⟨_, later, rfl, ends⟩⟩
        | unheard found =>
            exact ⟨false, _, rfl, trace_offer.mpr ⟨_, later, rfl, ends⟩⟩
        | failed found => rw [found] at read; cases read

theorem ends_cons : Ends cipher (t :: turns) rest last x ↔
    t.taken = true ∧ Ends cipher turns rest last x ∨
      t.taken = false ∧ turns = [] ∧ last = [] ∧ x = .throw .disconnected := by
  constructor
  · intro ends
    cases ends with
    | finished taken =>
        obtain ⟨first, others⟩ := List.forall_mem_cons.mp taken
        exact .inl ⟨first, .finished others⟩
    | @left before lost _ split taken untaken =>
        cases before with
        | nil =>
            obtain ⟨rfl, rfl⟩ := List.cons.inj split
            exact .inr ⟨untaken, rfl, rfl, rfl⟩
        | cons head before =>
            obtain ⟨rfl, rfl⟩ := List.cons.inj split
            obtain ⟨first, others⟩ := List.forall_mem_cons.mp taken
            exact .inl ⟨first, .left rfl others untaken⟩
    | panicked taken read =>
        obtain ⟨first, others⟩ := List.forall_mem_cons.mp taken
        exact .inl ⟨first, .panicked others read⟩
  · rintro (⟨first, ends⟩ | ⟨untaken, rfl, rfl, rfl⟩)
    · cases ends with
      | finished taken => exact .finished (List.forall_mem_cons.mpr ⟨first, taken⟩)
      | left split taken untaken =>
          subst split
          exact .left rfl (List.forall_mem_cons.mpr ⟨first, taken⟩) untaken
      | panicked taken read => exact .panicked (List.forall_mem_cons.mpr ⟨first, taken⟩) read
    · exact .left (List.nil_append [t]).symm (by simp) untaken

theorem runLoop_turns (trace : Trace (runLoop X cipher requests) es x) :
    ∃ turns rest last, requests = turns.map Turn.request ++ rest ∧
      es = turns.flatMap Turn.events ++ last ∧ (∀ t ∈ turns, t.Fits cipher) ∧
      Ends cipher turns rest last x := by
  induction requests generalizing es with
  | nil =>
      obtain ⟨⟨⟩, last, rfl, ended⟩ := trace_call.mp trace
      obtain ⟨rfl, rfl⟩ := trace_done.mp ended
      exact ⟨[], [], _, rfl, rfl, by simp, .finished (by simp)⟩
  | cons request requests ih =>
      rcases runLoop_cons.mp trace with
        ⟨rfl, m, read, rfl⟩ | ⟨t, rfl, fits, later, rfl, ⟨taken, others⟩ | ⟨untaken, rfl, rfl⟩⟩
      · exact ⟨[], _, [], rfl, rfl, by simp, .panicked (by simp) read⟩
      · obtain ⟨turns, rest, last, rfl, rfl, all, ends⟩ := ih others
        exact ⟨t :: turns, rest, last, rfl, by simp, List.forall_mem_cons.mpr ⟨fits, all⟩,
          ends_cons.mpr (.inl ⟨taken, ends⟩)⟩
      · exact ⟨[t], requests, [], rfl, by simp, by simpa using fits,
          ends_cons.mpr (.inr ⟨untaken, rfl, rfl, rfl⟩)⟩

theorem trace_of_turns (fits : ∀ t ∈ turns, t.Fits cipher) (ends : Ends cipher turns rest last x) :
    Trace (runLoop X cipher (turns.map Turn.request ++ rest))
      (turns.flatMap Turn.events ++ last) x := by
  induction turns with
  | nil =>
      cases ends with
      | finished => exact trace_call.mpr ⟨(), [], rfl, .done _⟩
      | left split => simp at split
      | panicked _ read => exact runLoop_cons.mpr (.inl ⟨rfl, _, read, rfl⟩)
  | cons t turns ih =>
      obtain ⟨first, others⟩ := List.forall_mem_cons.mp fits
      rw [List.flatMap_cons, List.append_assoc]
      refine runLoop_cons.mpr (.inr ⟨t, rfl, first, _, rfl, ?_⟩)
      rcases ends_cons.mp ends with ⟨taken, ends⟩ | ⟨untaken, rfl, rfl, rfl⟩
      · exact .inl ⟨taken, ih others ends⟩
      · exact .inr ⟨untaken, rfl, rfl⟩

/-- What a new device is given as its next step is the item of the turn. -/
theorem Turn.Fits.nextStep (fits : t.Fits cipher) (missing : ProvisioningError)
    (later : List WebSocketRequestMessage) :
    Trace (nextStep X cipher missing (t.request :: later)) t.answered
      (.ofExcept (t.item.map fun step => (step, later))) := by
  rw [Provisioning.nextStep, processRequest_eq]
  cases fits with
  | acknowledged read =>
      rw [read]
      exact trace_call.mpr ⟨true, [], rfl, .done _⟩
  | unheard read =>
      rw [read]
      exact trace_call.mpr ⟨false, [], rfl, .done _⟩
  | failed read =>
      rw [read]
      exact .done _

end Runs

end SignalService.Provisioning

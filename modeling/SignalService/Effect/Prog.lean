import Mathlib.Tactic

/-! # Effectful programs and their runs

A program of an asynchronous language is a tree: it has ended, or it waits for the
answer to one external call. Nothing is said here about what an answer is; `Trace`
allows every answer, `run` takes the answers of one environment.

A program ends in three ways. A returned value and a thrown error are both results
of the call; a panic is not, and no handler of errors sees it.
-/

namespace SignalService.Effect

/-- How a call ends. -/
inductive Exit (ε α : Type) where
  | ret (value : α)
  | throw (error : ε)
  | panic (message : String)
  deriving DecidableEq, Repr

namespace Exit

variable {ε ε' α β : Type}

def bind : Exit ε α → (α → Exit ε β) → Exit ε β
  | .ret a, f => f a
  | .throw e, _ => .throw e
  | .panic m, _ => .panic m

instance : Monad (Exit ε) where
  pure := .ret
  bind := bind

def mapErr (f : ε → ε') : Exit ε α → Exit ε' α
  | .ret a => .ret a
  | .throw e => .throw (f e)
  | .panic m => .panic m

def ofExcept : Except ε α → Exit ε α
  | .ok a => .ret a
  | .error e => .throw e

/-- A value that may be missing: `ok_or` and `expect`, by what the other end is. -/
def ofOption (otherwise : Exit ε α) : Option α → Exit ε α
  | some a => .ret a
  | none => otherwise

/-- What is left of an end once its error is looked at as a value. -/
def attempt : Exit ε α → Exit ε' (Except ε α)
  | .ret a => .ret (.ok a)
  | .throw e => .ret (.error e)
  | .panic m => .panic m

def IsRet : Exit ε α → Prop
  | .ret _ => True
  | _ => False

def Panics : Exit ε α → Prop
  | .panic _ => True
  | _ => False

@[simp] theorem pure_eq (a : α) : (pure a : Exit ε α) = .ret a := rfl
@[simp] theorem bind_eq (x : Exit ε α) (f : α → Exit ε β) : (x >>= f) = x.bind f := rfl
@[simp] theorem ret_bind (a : α) (f : α → Exit ε β) : (Exit.ret a).bind f = f a := rfl
@[simp] theorem throw_bind (e : ε) (f : α → Exit ε β) : (Exit.throw e).bind f = .throw e := rfl
@[simp] theorem panic_bind (m : String) (f : α → Exit ε β) : (Exit.panic m).bind f = .panic m := rfl

theorem throw_ne_ret (e : ε) (a : α) : Exit.throw e ≠ .ret a := nofun

theorem panic_ne_ret (m : String) (a : α) : (Exit.panic m : Exit ε α) ≠ .ret a := nofun

theorem bind_eq_ret {x : Exit ε α} {f : α → Exit ε β} {b : β} :
    x.bind f = .ret b ↔ ∃ a, x = .ret a ∧ f a = .ret b := by
  cases x <;> simp

theorem bind_throw_ne_ret (x : Exit ε α) (error : α → ε) (b : β) :
    (x.bind fun a => .throw (error a)) ≠ .ret b := by
  intro returned
  obtain ⟨a, -, threw⟩ := bind_eq_ret.mp returned
  cases threw

theorem bind_eq_throw {x : Exit ε α} {f : α → Exit ε β} {e : ε} :
    x.bind f = .throw e ↔ x = .throw e ∨ ∃ a, x = .ret a ∧ f a = .throw e := by
  cases x <;> simp

theorem bind_eq_panic {x : Exit ε α} {f : α → Exit ε β} {m : String} :
    x.bind f = .panic m ↔ x = .panic m ∨ ∃ a, x = .ret a ∧ f a = .panic m := by
  cases x <;> simp

@[simp] theorem ofOption_some (x : Exit ε α) (a : α) : ofOption x (some a) = .ret a := rfl
@[simp] theorem ofOption_none (x : Exit ε α) : ofOption x none = x := rfl
@[simp] theorem attempt_panic (m : String) :
    (Exit.panic m : Exit ε α).attempt = (.panic m : Exit ε' (Except ε α)) := rfl
@[simp] theorem ofExcept_ok (a : α) : (ofExcept (.ok a) : Exit ε α) = .ret a := rfl
@[simp] theorem ofExcept_error (e : ε) : (ofExcept (.error e) : Exit ε α) = .throw e := rfl
theorem ofExcept_eq_throw {x : Except ε α} {e : ε} : ofExcept x = .throw e ↔ x = .error e := by
  cases x <;> simp

theorem ofExcept_eq_ret {x : Except ε α} {a : α} : ofExcept x = .ret a ↔ x = .ok a := by
  cases x <;> simp

theorem ofOption_panic_eq_ret {m : String} {x : Option α} {a : α} :
    (ofOption (.panic m) x : Exit ε α) = .ret a ↔ x = some a := by
  cases x <;> simp

theorem ofOption_throw_eq_ret {e : ε} {x : Option α} {a : α} :
    (ofOption (.throw e) x : Exit ε α) = .ret a ↔ x = some a := by
  cases x <;> simp

@[simp] theorem attempt_ofExcept (x : Except ε α) :
    (ofExcept x).attempt = (.ret x : Exit ε' (Except ε α)) := by
  cases x <;> rfl

/-- A call ends with a result or with a panic. -/
theorem result_or_panic (x : Exit ε α) : (∃ result, x = ofExcept result) ∨ ∃ m, x = .panic m := by
  cases x with
  | ret a => exact .inl ⟨.ok a, rfl⟩
  | throw e => exact .inl ⟨.error e, rfl⟩
  | panic m => exact .inr ⟨m, rfl⟩

theorem ofExcept_ne_panic {x : Except ε α} {m : String} : ofExcept x ≠ .panic m := by
  cases x <;> simp

@[simp] theorem mapErr_ret (f : ε → ε') (a : α) : (Exit.ret a).mapErr f = .ret a := rfl
@[simp] theorem mapErr_throw (f : ε → ε') (e : ε) :
    (Exit.throw e : Exit ε α).mapErr f = .throw (f e) := rfl
@[simp] theorem mapErr_panic (f : ε → ε') (m : String) :
    (Exit.panic m : Exit ε α).mapErr f = .panic m := rfl
theorem mapErr_eq_ret {f : ε → ε'} {x : Exit ε α} {a : α} :
    x.mapErr f = .ret a ↔ x = .ret a := by
  cases x <;> simp

theorem mapErr_eq_throw {f : ε → ε'} {x : Exit ε α} {e : ε'} :
    x.mapErr f = .throw e ↔ ∃ e', x = .throw e' ∧ f e' = e := by
  cases x <;> simp

theorem mapErr_eq_panic {f : ε → ε'} {x : Exit ε α} {m : String} :
    x.mapErr f = .panic m ↔ x = .panic m := by
  cases x <;> simp

@[simp] theorem isRet_ret (a : α) : (Exit.ret a : Exit ε α).IsRet := trivial
@[simp] theorem isRet_throw (e : ε) : ¬ (Exit.throw e : Exit ε α).IsRet := id
@[simp] theorem isRet_panic (m : String) : ¬ (Exit.panic m : Exit ε α).IsRet := id

@[simp] theorem not_panics_ret (a : α) : ¬ (Exit.ret a : Exit ε α).Panics := id
@[simp] theorem not_panics_throw (e : ε) : ¬ (Exit.throw e : Exit ε α).Panics := id
@[simp] theorem panics_panic (m : String) : (Exit.panic m : Exit ε α).Panics := trivial

@[simp] theorem not_panics_ofExcept (x : Except ε α) : ¬ (ofExcept x).Panics := by
  cases x <;> exact id

@[simp] theorem panics_mapErr {f : ε → ε'} {x : Exit ε α} : (x.mapErr f).Panics ↔ x.Panics := by
  cases x <;> rfl

/-- A sequence panics in its first part, or in its second once that is reached. -/
theorem panics_bind {x : Exit ε α} {f : α → Exit ε β} :
    (x.bind f).Panics ↔ x.Panics ∨ ∃ a, x = .ret a ∧ (f a).Panics := by
  cases x <;> simp

end Exit

/-- A program over the calls `C`, where a call `c` is answered in `R c`. -/
inductive Prog (C : Type) (R : C → Type) (ε α : Type) where
  | done (exit : Exit ε α)
  | call (c : C) (k : R c → Prog C R ε α)

/-- A call together with the answer it got. -/
abbrev Event (C : Type) (R : C → Type) := (c : C) × R c

namespace Prog

variable {C : Type} {R : C → Type} {ε ε' α β γ : Type}

def bind : Prog C R ε α → (α → Prog C R ε β) → Prog C R ε β
  | .done (.ret a), f => f a
  | .done (.throw e), _ => .done (.throw e)
  | .done (.panic m), _ => .done (.panic m)
  | .call c k, f => .call c fun r => (k r).bind f

instance : Monad (Prog C R ε) where
  pure a := .done (.ret a)
  bind := bind

def throw (e : ε) : Prog C R ε α := .done (.throw e)

def panic (message : String) : Prog C R ε α := .done (.panic message)

/-- A value that may be an error: the `?` of the source, without a conversion. -/
def ofExcept (x : Except ε α) : Prog C R ε α := .done (.ofExcept x)

def ofOption (otherwise : Exit ε α) (x : Option α) : Prog C R ε α :=
  .done (.ofOption otherwise x)

def ofExit (x : Exit ε α) : Prog C R ε α := .done x

/-- Convert the error of a call: the `From` conversion of `?`, or `map_err`. -/
def mapErr (f : ε → ε') : Prog C R ε α → Prog C R ε' α
  | .done x => .done (x.mapErr f)
  | .call c k => .call c fun r => (k r).mapErr f

/-- Look at the result of a call instead of passing its error on. A panic is not a
    result and still goes through. -/
def attempt : Prog C R ε α → Prog C R ε' (Except ε α)
  | .done x => .done x.attempt
  | .call c k => .call c fun r => (k r).attempt

/-- Make one more call when the program ends, in whatever way it ends: the drop of a
    guard. -/
def onExit (c : C) : Prog C R ε α → Prog C R ε α
  | .done x => .call c fun _ => .done x
  | .call c' k => .call c' fun r => (k r).onExit c

@[simp] theorem pure_eq (a : α) : (pure a : Prog C R ε α) = .done (.ret a) := rfl
@[simp] theorem bind_eq (p : Prog C R ε α) (f : α → Prog C R ε β) : (p >>= f) = p.bind f := rfl
@[simp] theorem ret_bind (a : α) (f : α → Prog C R ε β) :
    (Prog.done (.ret a)).bind f = f a := rfl
@[simp] theorem throw_bind (e : ε) (f : α → Prog C R ε β) :
    (Prog.done (.throw e)).bind f = .done (.throw e) := rfl
@[simp] theorem panic_bind (m : String) (f : α → Prog C R ε β) :
    (Prog.done (.panic m)).bind f = .done (.panic m) := rfl
/-- A sequence of two programs that make no call makes none. -/
theorem done_bind_done (x : Exit ε α) (g : α → Exit ε β) :
    ((Prog.done x).bind fun a => .done (g a) : Prog C R ε β) = .done (x.bind g) := by
  cases x <;> rfl

@[simp] theorem call_bind (c : C) (k : R c → Prog C R ε α) (f : α → Prog C R ε β) :
    (Prog.call c k).bind f = .call c fun r => (k r).bind f := rfl
@[simp] theorem done_mapErr (f : ε → ε') (x : Exit ε α) :
    (Prog.done x : Prog C R ε α).mapErr f = .done (x.mapErr f) := rfl
@[simp] theorem call_mapErr (f : ε → ε') (c : C) (k : R c → Prog C R ε α) :
    (Prog.call c k).mapErr f = .call c fun r => (k r).mapErr f := rfl
@[simp] theorem done_attempt (x : Exit ε α) :
    ((Prog.done x : Prog C R ε α).attempt : Prog C R ε' _) = .done x.attempt := rfl
@[simp] theorem call_attempt (c : C) (k : R c → Prog C R ε α) :
    ((Prog.call c k).attempt : Prog C R ε' _) = .call c fun r => (k r).attempt := rfl
@[simp] theorem done_onExit (c : C) (x : Exit ε α) :
    (Prog.done x : Prog C R ε α).onExit c = .call c fun _ => .done x := rfl
@[simp] theorem call_onExit (c c' : C) (k : R c' → Prog C R ε α) :
    (Prog.call c' k).onExit c = .call c' fun r => (k r).onExit c := rfl

/-! ## Every behaviour -/

/-- The program can end as `x` after the calls and answers `es`. -/
inductive Trace : Prog C R ε α → List (Event C R) → Exit ε α → Prop where
  | done (x : Exit ε α) : Trace (.done x) [] x
  | call {c : C} {k : R c → Prog C R ε α} {es x} (r : R c) :
      Trace (k r) es x → Trace (.call c k) (⟨c, r⟩ :: es) x

@[simp] theorem trace_done {x y : Exit ε α} {es : List (Event C R)} :
    Trace (.done x) es y ↔ es = [] ∧ y = x := by
  constructor
  · intro h
    cases h
    exact ⟨rfl, rfl⟩
  · rintro ⟨rfl, rfl⟩
    exact .done _

theorem trace_call {c : C} {k : R c → Prog C R ε α} {es : List (Event C R)} {x : Exit ε α} :
    Trace (.call c k) es x ↔ ∃ r rest, es = ⟨c, r⟩ :: rest ∧ Trace (k r) rest x := by
  constructor
  · intro h
    cases h with
    | call r rest => exact ⟨r, _, rfl, rest⟩
  · rintro ⟨r, rest, rfl, h⟩
    exact .call r h

/-- The behaviours of a sequence: the first program fails, or it returns and the
    second one goes on. -/
theorem trace_bind {p : Prog C R ε α} {f : α → Prog C R ε β} {es : List (Event C R)}
    {y : Exit ε β} :
    Trace (p.bind f) es y ↔
      (∃ e, Trace p es (.throw e) ∧ y = .throw e) ∨
      (∃ m, Trace p es (.panic m) ∧ y = .panic m) ∨
      (∃ a es₁ es₂, es = es₁ ++ es₂ ∧ Trace p es₁ (.ret a) ∧ Trace (f a) es₂ y) := by
  induction p generalizing es with
  | done x =>
      cases x with
      | ret a =>
          simp only [ret_bind, trace_done, reduceCtorEq, and_false, false_and, exists_false,
            false_or]
          constructor
          · intro h
            exact ⟨a, [], es, rfl, ⟨rfl, rfl⟩, h⟩
          · rintro ⟨b, es₁, es₂, rfl, ⟨rfl, same⟩, h⟩
            cases same
            exact h
      | throw e =>
          simp [throw_bind, trace_done]
      | panic m =>
          simp [panic_bind, trace_done]
  | call c k ih =>
      simp only [call_bind, trace_call]
      constructor
      · rintro ⟨r, rest, rfl, h⟩
        rcases (ih r).mp h with ⟨e, h₁, rfl⟩ | ⟨m, h₁, rfl⟩ | ⟨a, es₁, es₂, rfl, h₁, h₂⟩
        · exact .inl ⟨e, ⟨r, rest, rfl, h₁⟩, rfl⟩
        · exact .inr (.inl ⟨m, ⟨r, rest, rfl, h₁⟩, rfl⟩)
        · exact .inr (.inr ⟨a, ⟨c, r⟩ :: es₁, es₂, rfl, ⟨r, es₁, rfl, h₁⟩, h₂⟩)
      · rintro (⟨e, ⟨r, rest, rfl, h⟩, rfl⟩ | ⟨m, ⟨r, rest, rfl, h⟩, rfl⟩ |
          ⟨a, _, es₂, rfl, ⟨r, es₁, rfl, h₁⟩, h₂⟩)
        · exact ⟨r, rest, rfl, (ih r).mpr (.inl ⟨e, h, rfl⟩)⟩
        · exact ⟨r, rest, rfl, (ih r).mpr (.inr (.inl ⟨m, h, rfl⟩))⟩
        · exact ⟨r, es₁ ++ es₂, rfl, (ih r).mpr (.inr (.inr ⟨a, es₁, es₂, rfl, h₁, h₂⟩))⟩

theorem trace_attempt {p : Prog C R ε α} {es : List (Event C R)} {y : Exit ε' (Except ε α)} :
    Trace p.attempt es y ↔ ∃ x, Trace p es x ∧ y = x.attempt := by
  induction p generalizing es with
  | done x => simp
  | call c k ih =>
      simp only [call_attempt, trace_call, ih]
      constructor
      · rintro ⟨r, rest, rfl, x, h, rfl⟩
        exact ⟨x, ⟨r, rest, rfl, h⟩, rfl⟩
      · rintro ⟨x, ⟨r, rest, rfl, h⟩, rfl⟩
        exact ⟨r, rest, rfl, x, h, rfl⟩

/-- A sequence whose first program always returns, with `P` of its events and its value. -/
theorem trace_bind_returned {p : Prog C R ε α} {f : α → Prog C R ε β}
    {P : List (Event C R) → α → Prop} {es : List (Event C R)} {y : Exit ε β}
    (returns : ∀ es x, Trace p es x → ∃ a, x = .ret a ∧ P es a) (trace : Trace (p.bind f) es y) :
    ∃ a es₁ es₂, es = es₁ ++ es₂ ∧ P es₁ a ∧ Trace (f a) es₂ y := by
  rcases trace_bind.mp trace with ⟨e, failed, -⟩ | ⟨m, failed, -⟩ | ⟨a, es₁, es₂, rfl, ran, next⟩
  · obtain ⟨a, ended, -⟩ := returns _ _ failed
    cases ended
  · obtain ⟨a, ended, -⟩ := returns _ _ failed
    cases ended
  · obtain ⟨b, ended, holds⟩ := returns _ _ ran
    cases ended
    exact ⟨a, es₁, es₂, rfl, holds, next⟩

/-- What follows a program whose error is looked at goes on unless the program panics. -/
theorem trace_attempt_bind {p : Prog C R ε α} {f : Except ε α → Prog C R ε' β}
    {es : List (Event C R)} {y : Exit ε' β} (trace : Trace (p.attempt.bind f) es y) :
    (∃ m, Trace p es (.panic m) ∧ y = .panic m) ∨
      ∃ result es₁ es₂, es = es₁ ++ es₂ ∧ Trace p es₁ (.ofExcept result) ∧
        Trace (f result) es₂ y := by
  rcases trace_bind.mp trace with
    ⟨e, failed, -⟩ | ⟨m, failed, rfl⟩ | ⟨result, es₁, es₂, rfl, attempted, next⟩
  · obtain ⟨x, -, ended⟩ := trace_attempt.mp failed
    cases x <;> cases ended
  · obtain ⟨x, ran, ended⟩ := trace_attempt.mp failed
    cases x with
    | ret a => cases ended
    | throw e => cases ended
    | panic m =>
        cases ended
        exact .inl ⟨m, ran, rfl⟩
  · obtain ⟨x, ran, ended⟩ := trace_attempt.mp attempted
    right
    refine ⟨result, es₁, es₂, rfl, ?_, next⟩
    cases x with
    | ret a =>
        cases ended
        exact ran
    | throw e =>
        cases ended
        exact ran
    | panic m => cases ended

theorem trace_onExit {c : C} {p : Prog C R ε α} {es : List (Event C R)} {x : Exit ε α} :
    Trace (p.onExit c) es x ↔ ∃ es' r, es = es' ++ [⟨c, r⟩] ∧ Trace p es' x := by
  induction p generalizing es with
  | done x =>
      simp only [done_onExit, trace_call, trace_done]
      constructor
      · rintro ⟨r, _, rfl, rfl, rfl⟩
        exact ⟨[], r, rfl, rfl, rfl⟩
      · rintro ⟨_, r, rfl, rfl, rfl⟩
        exact ⟨r, [], rfl, rfl, rfl⟩
  | call c' k ih =>
      simp only [call_onExit, trace_call, ih]
      constructor
      · rintro ⟨r, _, rfl, es', s, rfl, h⟩
        exact ⟨⟨c', r⟩ :: es', s, rfl, r, es', rfl, h⟩
      · rintro ⟨_, s, rfl, r, es', rfl, h⟩
        exact ⟨r, es' ++ [⟨c, s⟩], rfl, es', s, rfl, h⟩

/-! ## One environment -/

/-- What a run leaves behind. -/
structure Ran (C : Type) (R : C → Type) (ε α σ : Type) where
  exit : Exit ε α
  state : σ
  log : List (Event C R)

/-- Run a program against an environment that answers each call from its state. -/
def run {σ : Type} (h : (c : C) → σ → R c × σ) : Prog C R ε α → σ → Ran C R ε α σ
  | .done x, s => ⟨x, s, []⟩
  | .call c k, s =>
      let next := run h (k (h c s).1) (h c s).2
      { next with log := ⟨c, (h c s).1⟩ :: next.log }

section Run

variable {σ : Type} (h : (c : C) → σ → R c × σ)

@[simp] theorem run_done (x : Exit ε α) (s : σ) :
    (Prog.done x : Prog C R ε α).run h s = ⟨x, s, []⟩ := rfl

@[simp] theorem run_ofExcept (x : Except ε α) (s : σ) :
    (Prog.ofExcept x : Prog C R ε α).run h s = ⟨.ofExcept x, s, []⟩ := rfl

@[simp] theorem run_ofOption (otherwise : Exit ε α) (x : Option α) (s : σ) :
    (Prog.ofOption otherwise x : Prog C R ε α).run h s = ⟨.ofOption otherwise x, s, []⟩ := rfl

@[simp] theorem run_ofExit (x : Exit ε α) (s : σ) :
    (Prog.ofExit x : Prog C R ε α).run h s = ⟨x, s, []⟩ := rfl

@[simp] theorem run_throw (e : ε) (s : σ) :
    (Prog.throw e : Prog C R ε α).run h s = ⟨.throw e, s, []⟩ := rfl

theorem run_call (c : C) (k : R c → Prog C R ε α) (s : σ) :
    (Prog.call c k).run h s =
      { (k (h c s).1).run h (h c s).2 with
        log := ⟨c, (h c s).1⟩ :: ((k (h c s).1).run h (h c s).2).log } := rfl

@[simp] theorem run_call_exit (c : C) (k : R c → Prog C R ε α) (s : σ) :
    ((Prog.call c k).run h s).exit = ((k (h c s).1).run h (h c s).2).exit := rfl

@[simp] theorem run_call_state (c : C) (k : R c → Prog C R ε α) (s : σ) :
    ((Prog.call c k).run h s).state = ((k (h c s).1).run h (h c s).2).state := rfl

@[simp] theorem run_call_log (c : C) (k : R c → Prog C R ε α) (s : σ) :
    ((Prog.call c k).run h s).log =
      ⟨c, (h c s).1⟩ :: ((k (h c s).1).run h (h c s).2).log := rfl

/-- A run is one of the behaviours. -/
theorem run_trace (p : Prog C R ε α) (s : σ) :
    Trace p (p.run h s).log (p.run h s).exit := by
  induction p generalizing s with
  | done x => exact .done x
  | call c k ih => exact .call _ (ih _ _)

/-- Every answer in the log of a run is the environment's. -/
theorem run_answers (p : Prog C R ε α) (s : σ) :
    ∀ e ∈ (p.run h s).log, ∃ t, e.2 = (h e.1 t).1 := by
  induction p generalizing s with
  | done x => simp
  | call c k ih =>
      intro e member
      rcases List.mem_cons.mp member with rfl | member
      · exact ⟨s, rfl⟩
      · exact ih _ _ e member

/-- A sequence runs its second part only after a return, and from the state the first
    part left. -/
theorem run_bind (p : Prog C R ε α) (f : α → Prog C R ε β) (s : σ) :
    (p.bind f).run h s =
      match (p.run h s).exit with
      | .ret a =>
          { (f a).run h (p.run h s).state with
            log := (p.run h s).log ++ ((f a).run h (p.run h s).state).log }
      | .throw e => ⟨.throw e, (p.run h s).state, (p.run h s).log⟩
      | .panic m => ⟨.panic m, (p.run h s).state, (p.run h s).log⟩ := by
  induction p generalizing s with
  | done x => cases x <;> rfl
  | call c k ih =>
      simp only [call_bind, run_call, ih]
      cases ((k (h c s).1).run h (h c s).2).exit <;> rfl

theorem run_bind_of_ret {p : Prog C R ε α} {f : α → Prog C R ε β} {s : σ} {a : α}
    (returned : (p.run h s).exit = .ret a) :
    (p.bind f).run h s =
      { (f a).run h (p.run h s).state with
        log := (p.run h s).log ++ ((f a).run h (p.run h s).state).log } := by
  rw [run_bind, returned]

theorem run_bind_of_throw {p : Prog C R ε α} {f : α → Prog C R ε β} {s : σ} {e : ε}
    (threw : (p.run h s).exit = .throw e) :
    (p.bind f).run h s = ⟨.throw e, (p.run h s).state, (p.run h s).log⟩ := by
  rw [run_bind, threw]

theorem run_bind_of_panic {p : Prog C R ε α} {f : α → Prog C R ε β} {s : σ} {m : String}
    (panicked : (p.run h s).exit = .panic m) :
    (p.bind f).run h s = ⟨.panic m, (p.run h s).state, (p.run h s).log⟩ := by
  rw [run_bind, panicked]

theorem run_bind_exit (p : Prog C R ε α) (f : α → Prog C R ε β) (s : σ) :
    ((p.bind f).run h s).exit =
      (p.run h s).exit.bind fun a => ((f a).run h (p.run h s).state).exit := by
  rw [run_bind]
  cases (p.run h s).exit <;> rfl

/-- What follows a program without a call of its own only changes how it ends. -/
theorem run_bind_done (p : Prog C R ε α) (g : α → Exit ε β) (s : σ) :
    (p.bind fun a => .done (g a)).run h s =
      ⟨(p.run h s).exit.bind g, (p.run h s).state, (p.run h s).log⟩ := by
  cases exit : (p.run h s).exit with
  | ret a =>
      rw [run_bind_of_ret h exit]
      simp
  | throw e =>
      rw [run_bind_of_throw h exit]
      rfl
  | panic m =>
      rw [run_bind_of_panic h exit]
      rfl

theorem run_bind_state_of_ret {p : Prog C R ε α} {f : α → Prog C R ε β} {s : σ} {a : α}
    (returned : (p.run h s).exit = .ret a) :
    ((p.bind f).run h s).state = ((f a).run h (p.run h s).state).state := by
  rw [run_bind, returned]

theorem run_bind_state_of_not_ret {p : Prog C R ε α} {f : α → Prog C R ε β} {s : σ}
    (failed : ∀ a, (p.run h s).exit ≠ .ret a) :
    ((p.bind f).run h s).state = (p.run h s).state := by
  rw [run_bind]
  cases exit : (p.run h s).exit with
  | ret a => exact absurd exit (failed a)
  | throw e => rfl
  | panic m => rfl

theorem run_mapErr (g : ε → ε') (p : Prog C R ε α) (s : σ) :
    (p.mapErr g).run h s =
      ⟨(p.run h s).exit.mapErr g, (p.run h s).state, (p.run h s).log⟩ := by
  induction p generalizing s with
  | done x => rfl
  | call c k ih => simp only [call_mapErr, run_call, ih]

theorem run_attempt (p : Prog C R ε α) (s : σ) :
    (p.attempt : Prog C R ε' (Except ε α)).run h s =
      ⟨(p.run h s).exit.attempt, (p.run h s).state, (p.run h s).log⟩ := by
  induction p generalizing s with
  | done x => rfl
  | call c k ih => simp only [call_attempt, run_call, ih]

theorem run_onExit (c : C) (p : Prog C R ε α) (s : σ) :
    (p.onExit c).run h s =
      ⟨(p.run h s).exit, (h c (p.run h s).state).2,
        (p.run h s).log ++ [⟨c, (h c (p.run h s).state).1⟩]⟩ := by
  induction p generalizing s with
  | done x => rfl
  | call c' k ih => simp only [call_onExit, run_call, ih, List.cons_append]

end Run

/-! ## From state to state -/

/-- Run in `s`, the program ends as `x` in `t`. -/
def Leads {σ : Type} (h : (c : C) → σ → R c × σ) (p : Prog C R ε α) (s : σ) (x : Exit ε α)
    (t : σ) : Prop :=
  (p.run h s).exit = x ∧ (p.run h s).state = t

section Leads

variable {σ : Type} {h : (c : C) → σ → R c × σ} {p : Prog C R ε α} {f : α → Prog C R ε β}
  {s t u : σ}

theorem leads_done (x : Exit ε α) : Leads h (.done x) s x s := ⟨rfl, rfl⟩

theorem Leads.bind {a : α} {x : Exit ε β} (first : Leads h p s (.ret a) t)
    (second : Leads h (f a) t x u) : Leads h (p.bind f) s x u := by
  obtain ⟨returned, rfl⟩ := first
  unfold Leads
  rw [run_bind_of_ret h returned]
  exact second

theorem Leads.mapErr {x : Exit ε α} (g : ε → ε') (leads : Leads h p s x t) :
    Leads h (p.mapErr g) s (x.mapErr g) t := by
  obtain ⟨rfl, rfl⟩ := leads
  unfold Leads
  rw [run_mapErr]
  exact ⟨rfl, rfl⟩

theorem Leads.attempt {x : Exit ε α} (leads : Leads h p s x t) :
    Leads h (p.attempt : Prog C R ε' (Except ε α)) s x.attempt t := by
  obtain ⟨rfl, rfl⟩ := leads
  unfold Leads
  rw [run_attempt]
  exact ⟨rfl, rfl⟩

theorem Leads.onExit {x : Exit ε α} (leads : Leads h p s x t) (c : C) :
    Leads h (p.onExit c) s x (h c t).2 := by
  obtain ⟨rfl, rfl⟩ := leads
  unfold Leads
  rw [run_onExit]
  exact ⟨rfl, rfl⟩

end Leads

/-! ## Properties of every call a program can make -/

/-- Every call the program can make, as long as the answers satisfy `A`, satisfies `P`. -/
def CallsWhen (A : (c : C) → R c → Prop) (P : C → Prop) : Prog C R ε α → Prop
  | .done _ => True
  | .call c k => P c ∧ ∀ r, A c r → CallsWhen A P (k r)

/-- Every call the program can make, whatever the answers, satisfies `P`. -/
abbrev Calls (P : C → Prop) (p : Prog C R ε α) : Prop := CallsWhen (fun _ _ => True) P p

section Calls

variable {A : (c : C) → R c → Prop} {P Q : C → Prop}

@[simp] theorem calls_done (x : Exit ε α) : CallsWhen A P (.done x : Prog C R ε α) := trivial

@[simp] theorem calls_ofExcept (x : Except ε α) :
    CallsWhen A P (Prog.ofExcept x : Prog C R ε α) := trivial

@[simp] theorem calls_ofOption (otherwise : Exit ε α) (x : Option α) :
    CallsWhen A P (Prog.ofOption otherwise x : Prog C R ε α) := trivial

@[simp] theorem calls_call (c : C) (k : R c → Prog C R ε α) :
    CallsWhen A P (.call c k) ↔ P c ∧ ∀ r, A c r → CallsWhen A P (k r) := Iff.rfl

theorem CallsWhen.mono {p : Prog C R ε α} (imp : ∀ c, P c → Q c) (calls : CallsWhen A P p) :
    CallsWhen A Q p := by
  induction p with
  | done x => trivial
  | call c k ih => exact ⟨imp c calls.1, fun r allowed => ih r (calls.2 r allowed)⟩

theorem CallsWhen.weaken {A' : (c : C) → R c → Prop} {p : Prog C R ε α}
    (imp : ∀ c r, A' c r → A c r) (calls : CallsWhen A P p) : CallsWhen A' P p := by
  induction p with
  | done x => trivial
  | call c k ih => exact ⟨calls.1, fun r allowed => ih r (calls.2 r (imp c r allowed))⟩

theorem CallsWhen.bind {p : Prog C R ε α} {f : α → Prog C R ε β} (first : CallsWhen A P p)
    (second : ∀ a, CallsWhen A P (f a)) : CallsWhen A P (p.bind f) := by
  induction p with
  | done x =>
      cases x with
      | ret a => exact second a
      | throw e => trivial
      | panic m => trivial
  | call c k ih => exact ⟨first.1, fun r allowed => ih r (first.2 r allowed)⟩

theorem CallsWhen.mapErr {p : Prog C R ε α} (g : ε → ε') (calls : CallsWhen A P p) :
    CallsWhen A P (p.mapErr g) := by
  induction p with
  | done x => trivial
  | call c k ih => exact ⟨calls.1, fun r allowed => ih r (calls.2 r allowed)⟩

theorem CallsWhen.attempt {p : Prog C R ε α} (calls : CallsWhen A P p) :
    CallsWhen A P (p.attempt : Prog C R ε' (Except ε α)) := by
  induction p with
  | done x => trivial
  | call c k ih => exact ⟨calls.1, fun r allowed => ih r (calls.2 r allowed)⟩

theorem CallsWhen.onExit {p : Prog C R ε α} {c : C} (kind : P c) (calls : CallsWhen A P p) :
    CallsWhen A P (p.onExit c) := by
  induction p with
  | done x => exact ⟨kind, fun _ _ => trivial⟩
  | call c' k ih => exact ⟨calls.1, fun r allowed => ih r (calls.2 r allowed)⟩

/-- A program that only makes calls which leave the state alone leaves it alone. -/
theorem Calls.run_state {σ : Type} {h : (c : C) → σ → R c × σ} {p : Prog C R ε α}
    (calls : Calls P p) (keeps : ∀ c, P c → ∀ s, (h c s).2 = s) (s : σ) :
    (p.run h s).state = s := by
  induction p generalizing s with
  | done x => rfl
  | call c k ih =>
      rw [run_call_state, ih _ (calls.2 _ trivial), keeps c calls.1]

theorem Calls.trace {p : Prog C R ε α} {es : List (Event C R)} {x : Exit ε α}
    (calls : Calls P p) (trace : Trace p es x) : ∀ e ∈ es, P e.1 := by
  induction trace with
  | done x => simp
  | call r _ ih =>
      intro e member
      rcases List.mem_cons.mp member with rfl | member
      · exact calls.1
      · exact ih (calls.2 r trivial) e member

end Calls

/-! ## Properties of every error a program can throw -/

/-- Every error the program can throw, as long as the answers satisfy `A`, satisfies `E`. -/
def ThrowsWhen (A : (c : C) → R c → Prop) (E : ε → Prop) : Prog C R ε α → Prop
  | .done (.throw e) => E e
  | .done _ => True
  | .call c k => ∀ r, A c r → ThrowsWhen A E (k r)

section Throws

variable {A : (c : C) → R c → Prop} {P : C → Prop} {E : ε → Prop} {E' : ε' → Prop}

theorem ThrowsWhen.bind {p : Prog C R ε α} {f : α → Prog C R ε β} (first : ThrowsWhen A E p)
    (second : ∀ a, ThrowsWhen A E (f a)) : ThrowsWhen A E (p.bind f) := by
  induction p with
  | done x =>
      cases x with
      | ret a => exact second a
      | throw e => exact first
      | panic m => trivial
  | call c k ih => exact fun r allowed => ih r (first r allowed)

theorem ThrowsWhen.mapErr {p : Prog C R ε α} {g : ε → ε'} (throws : ThrowsWhen A E p)
    (imp : ∀ e, E e → E' (g e)) : ThrowsWhen A E' (p.mapErr g) := by
  induction p with
  | done x =>
      cases x with
      | ret a => trivial
      | throw e => exact imp e throws
      | panic m => trivial
  | call c k ih => exact fun r allowed => ih r (throws r allowed)

theorem throwsWhen_ofExit {x : Exit ε α} (throws : ∀ e, x = .throw e → E e) :
    ThrowsWhen A E (Prog.ofExit x : Prog C R ε α) := by
  cases x with
  | ret a => trivial
  | throw e => exact throws e rfl
  | panic m => trivial

theorem throwsWhen_of_forall (all : ∀ e, E e) (p : Prog C R ε α) : ThrowsWhen A E p := by
  induction p with
  | done x =>
      cases x with
      | ret a => trivial
      | throw e => exact all e
      | panic m => trivial
  | call c k ih => exact fun r _ => ih r

theorem ThrowsWhen.trace {p : Prog C R ε α} {es : List (Event C R)} {x : Exit ε α}
    (throws : ThrowsWhen A E p) (h : Trace p es x) (answered : ∀ e ∈ es, A e.1 e.2) {e : ε}
    (threw : x = .throw e) : E e := by
  induction h with
  | done x =>
      rw [threw] at throws
      exact throws
  | call r _ ih =>
      apply ih (throws r (answered _ List.mem_cons_self)) _ threw
      intro e' mem
      exact answered e' (List.mem_cons_of_mem _ mem)

theorem ThrowsWhen.attempt_bind {p : Prog C R ε α} {f : Except ε α → Prog C R ε' β}
    (throws : ThrowsWhen A E p) (ok : ∀ a, ThrowsWhen A E' (f (.ok a)))
    (error : ∀ e, E e → ThrowsWhen A E' (f (.error e))) :
    ThrowsWhen A E' (p.attempt.bind f) := by
  induction p with
  | done x =>
      cases x with
      | ret a => exact ok a
      | throw e => exact error e throws
      | panic m => trivial
  | call c k ih => exact fun r allowed => ih r (throws r allowed)

/-- What follows a program whose result is looked at sees only the errors it can throw. -/
theorem CallsWhen.attempt_bind {p : Prog C R ε α} {f : Except ε α → Prog C R ε' β}
    (first : CallsWhen A P p) (throws : ThrowsWhen A E p) (ok : ∀ a, CallsWhen A P (f (.ok a)))
    (error : ∀ e, E e → CallsWhen A P (f (.error e))) :
    CallsWhen A P (p.attempt.bind f) := by
  induction p with
  | done x =>
      cases x with
      | ret a => exact ok a
      | throw e => exact error e throws
      | panic m => trivial
  | call c k ih => exact ⟨first.1, fun r allowed => ih r (first.2 r allowed) (throws r allowed)⟩

end Throws

/-! ## Properties of every value a program can return -/

/-- Every value the program can return, whatever the answers, satisfies `P`. -/
def Returns (P : α → Prop) : Prog C R ε α → Prop
  | .done (.ret a) => P a
  | .done _ => True
  | .call _ k => ∀ r, Returns P (k r)

section Returns

variable {P : α → Prop} {Q : β → Prop}

theorem Returns.bind {p : Prog C R ε α} {f : α → Prog C R ε β} (first : Returns P p)
    (second : ∀ a, P a → Returns Q (f a)) : Returns Q (p.bind f) := by
  induction p with
  | done x =>
      cases x with
      | ret a => exact second a first
      | throw e => trivial
      | panic m => trivial
  | call c k ih => exact fun r => ih r (first r)

theorem Returns.mono {P' : α → Prop} {p : Prog C R ε α} (returns : Returns P p)
    (imp : ∀ a, P a → P' a) : Returns P' p := by
  induction p with
  | done x =>
      cases x with
      | ret a => exact imp a returns
      | throw e => trivial
      | panic m => trivial
  | call c k ih => exact fun r => ih r (returns r)

theorem Returns.onExit {p : Prog C R ε α} {c : C} (returns : Returns P p) :
    Returns P (p.onExit c) := by
  induction p with
  | done x => exact fun _ => returns
  | call c k ih => exact fun r => ih r (returns r)

theorem returns_true (p : Prog C R ε α) : Returns (fun _ => True) p := by
  induction p with
  | done x => cases x <;> trivial
  | call c k ih => exact ih

/-- Only the last part of a sequence decides what it returns. -/
theorem Returns.last {p : Prog C R ε α} {f : α → Prog C R ε β} (second : ∀ a, Returns Q (f a)) :
    Returns Q (p.bind f) :=
  (returns_true p).bind fun a _ => second a

theorem Returns.mapErr {p : Prog C R ε α} (g : ε → ε') (returns : Returns P p) :
    Returns P (p.mapErr g) := by
  induction p with
  | done x => cases x <;> exact returns
  | call c k ih => exact fun r => ih r (returns r)

theorem Returns.trace {p : Prog C R ε α} {es : List (Event C R)} {x : Exit ε α}
    (returns : Returns P p) (h : Trace p es x) {a : α} (returned : x = .ret a) : P a := by
  induction h with
  | done x =>
      rw [returned] at returns
      exact returns
  | call r _ ih => exact ih (returns r) returned

theorem Returns.run {σ : Type} {h : (c : C) → σ → R c × σ} {p : Prog C R ε α}
    (returns : Returns P p) {s : σ} {a : α} (ended : (p.run h s).exit = .ret a) : P a := by
  induction p generalizing s with
  | done x =>
      cases ended
      exact returns
  | call c k ih => exact ih _ (returns _) ended

end Returns

/-! ## Programs that do not panic -/

/-- The program ends with a result, whatever the answers. -/
def PanicFree : Prog C R ε α → Prop
  | .done (.panic _) => False
  | .done _ => True
  | .call _ k => ∀ r, PanicFree (k r)

section PanicFree

theorem panicFree_ofExcept (x : Except ε α) : (Prog.ofExcept x : Prog C R ε α).PanicFree := by
  cases x <;> trivial

theorem panicFree_ofOption (e : ε) (x : Option α) :
    (Prog.ofOption (.throw e) x : Prog C R ε α).PanicFree := by
  cases x <;> trivial

theorem PanicFree.bind {p : Prog C R ε α} {f : α → Prog C R ε β} (first : p.PanicFree)
    (second : ∀ a, (f a).PanicFree) : (p.bind f).PanicFree := by
  induction p with
  | done x =>
      cases x with
      | ret a => exact second a
      | throw e => trivial
      | panic m => exact first.elim
  | call c k ih => exact fun r => ih r (first r)

theorem PanicFree.mapErr {p : Prog C R ε α} (g : ε → ε') (free : p.PanicFree) :
    (p.mapErr g).PanicFree := by
  induction p with
  | done x => cases x <;> exact free
  | call c k ih => exact fun r => ih r (free r)

theorem PanicFree.attempt {p : Prog C R ε α} (free : p.PanicFree) :
    (p.attempt : Prog C R ε' (Except ε α)).PanicFree := by
  induction p with
  | done x => cases x <;> exact free
  | call c k ih => exact fun r => ih r (free r)

theorem PanicFree.onExit {p : Prog C R ε α} {c : C} (free : p.PanicFree) :
    (p.onExit c).PanicFree := by
  induction p with
  | done x => exact fun _ => free
  | call c k ih => exact fun r => ih r (free r)

theorem PanicFree.run {σ : Type} {h : (c : C) → σ → R c × σ} {p : Prog C R ε α}
    (free : p.PanicFree) (s : σ) (m : String) : (p.run h s).exit ≠ .panic m := by
  induction p generalizing s with
  | done x =>
      cases x with
      | ret a => nofun
      | throw e => nofun
      | panic m => exact free.elim
  | call c k ih => exact ih _ (free _) _

end PanicFree

/-! ## Programs that panic on certain answers -/

/-- The program panics, whatever the answers. -/
def Panics : Prog C R ε α → Prop
  | .done (.panic _) => True
  | .done _ => False
  | .call _ k => ∀ r, Panics (k r)

/-- As long as the answers satisfy `A`, the program panics if and only if one of them
    satisfies `P`. -/
def PanicsWhen (A P : (c : C) → R c → Prop) : Prog C R ε α → Prop
  | .done (.panic _) => False
  | .done _ => True
  | .call c k => ∀ r, A c r → (P c r → Panics (k r)) ∧ (¬ P c r → PanicsWhen A P (k r))

section PanicsWhen

variable {A P : (c : C) → R c → Prop}

theorem Panics.trace {p : Prog C R ε α} {es : List (Event C R)} {x : Exit ε α}
    (panics : p.Panics) (trace : Trace p es x) : ∃ m, x = .panic m := by
  induction trace with
  | done x =>
      cases x with
      | ret a => exact panics.elim
      | throw e => exact panics.elim
      | panic m => exact ⟨m, rfl⟩
  | call r _ ih => exact ih (panics r)

theorem Panics.bind {p : Prog C R ε α} (panics : p.Panics) (f : α → Prog C R ε β) :
    (p.bind f).Panics := by
  induction p with
  | done x =>
      cases x with
      | ret a => exact panics.elim
      | throw e => exact panics.elim
      | panic m => trivial
  | call c k ih => exact fun r => ih r (panics r)

theorem Panics.mapErr {p : Prog C R ε α} (panics : p.Panics) (g : ε → ε') :
    (p.mapErr g).Panics := by
  induction p with
  | done x => cases x <;> exact panics
  | call c k ih => exact fun r => ih r (panics r)

theorem Panics.attempt {p : Prog C R ε α} (panics : p.Panics) :
    (p.attempt : Prog C R ε' (Except ε α)).Panics := by
  induction p with
  | done x => cases x <;> exact panics
  | call c k ih => exact fun r => ih r (panics r)

theorem PanicsWhen.trace {p : Prog C R ε α} {es : List (Event C R)} {x : Exit ε α}
    (exactly : PanicsWhen A P p) (trace : Trace p es x) (allowed : ∀ e ∈ es, A e.1 e.2) :
    (∃ m, x = .panic m) ↔ ∃ e ∈ es, P e.1 e.2 := by
  induction trace with
  | done x =>
      cases x with
      | ret a => simp
      | throw e => simp
      | panic m => exact exactly.elim
  | @call c k es x r rest ih =>
      obtain ⟨alarmed, calm⟩ := exactly r (allowed _ List.mem_cons_self)
      by_cases alarm : P c r
      · exact iff_of_true ((alarmed alarm).trace rest) ⟨_, List.mem_cons_self, alarm⟩
      · rw [ih (calm alarm) fun e member => allowed e (List.mem_cons_of_mem _ member)]
        simp [alarm]

theorem panicsWhen_ofExcept (x : Except ε α) :
    PanicsWhen A P (Prog.ofExcept x : Prog C R ε α) := by
  cases x <;> trivial

theorem panicsWhen_ofOption (e : ε) (x : Option α) :
    PanicsWhen A P (Prog.ofOption (.throw e) x : Prog C R ε α) := by
  cases x <;> trivial

theorem panicsWhen_ofExit {x : Exit ε α} (calm : ∀ m, x ≠ .panic m) :
    PanicsWhen A P (Prog.ofExit x : Prog C R ε α) := by
  cases x with
  | ret a => trivial
  | throw e => trivial
  | panic m => exact absurd rfl (calm m)

theorem PanicsWhen.bind {p : Prog C R ε α} {f : α → Prog C R ε β} (first : PanicsWhen A P p)
    (second : ∀ a, PanicsWhen A P (f a)) : PanicsWhen A P (p.bind f) := by
  induction p with
  | done x =>
      cases x with
      | ret a => exact second a
      | throw e => trivial
      | panic m => exact first.elim
  | call c k ih =>
      exact fun r allowed => ⟨fun alarm => ((first r allowed).1 alarm).bind f,
        fun calm => ih r ((first r allowed).2 calm)⟩

theorem PanicsWhen.mapErr {p : Prog C R ε α} (g : ε → ε') (exactly : PanicsWhen A P p) :
    PanicsWhen A P (p.mapErr g) := by
  induction p with
  | done x => cases x <;> exact exactly
  | call c k ih =>
      exact fun r allowed => ⟨fun alarm => ((exactly r allowed).1 alarm).mapErr g,
        fun calm => ih r ((exactly r allowed).2 calm)⟩

theorem PanicsWhen.attempt {p : Prog C R ε α} (exactly : PanicsWhen A P p) :
    PanicsWhen A P (p.attempt : Prog C R ε' (Except ε α)) := by
  induction p with
  | done x => cases x <;> exact exactly
  | call c k ih =>
      exact fun r allowed => ⟨fun alarm => ((exactly r allowed).1 alarm).attempt,
        fun calm => ih r ((exactly r allowed).2 calm)⟩

/-- A call that no answer makes panic. -/
theorem PanicsWhen.call {c : C} {k : R c → Prog C R ε α} (calm : ∀ r, ¬ P c r)
    (rest : ∀ r, A c r → PanicsWhen A P (k r)) : PanicsWhen A P (.call c k) :=
  fun r allowed => ⟨fun alarm => absurd alarm (calm r), fun _ => rest r allowed⟩

/-- A call whose answer is only read: it panics on the answers that cannot be read. -/
theorem panicsWhen_read {c : C} {read : R c → Exit ε α}
    (alarm : ∀ r, (∃ m, read r = .panic m) ↔ P c r) :
    PanicsWhen A P (.call c fun r => .ofExit (read r)) := by
  intro r _
  constructor
  · intro alarmed
    obtain ⟨m, panics⟩ := (alarm r).mpr alarmed
    simp only [panics]
    trivial
  · intro calm
    refine panicsWhen_ofExit fun m panics => calm ?_
    exact (alarm r).mp ⟨m, panics⟩

end PanicsWhen

end Prog

end SignalService.Effect

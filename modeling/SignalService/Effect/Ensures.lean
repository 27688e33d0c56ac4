import SignalService.Effect.Worlds

/-! # What a program leaves behind

The weakest precondition of a program in a world that it shares: what must hold of the state, so
that the program leaves one thing if it returns and another if it does not. A state may change
between the calls, if others act.
-/

namespace SignalService.Effect.Prog

open Relation

variable {C C' : Type} {R : C → Type} {R' : C' → Type} {ε ε' α β σ : Type}

/-- Before each call others may have acted. -/
def World.amid (W : World C R σ) (others : σ → σ → Prop) : World C R σ :=
  fun c s r t => ∃ m, ReflTransGen others s m ∧ W c m r t

/-- Run in this state, the program leaves `P a` if it returns `a`, and otherwise `Q`. -/
def Ensures (W : World C R σ) (P : α → σ → Prop) (Q : σ → Prop) : Prog C R ε α → σ → Prop
  | .done (.ret a), s => P a s
  | .done (.throw _), s => Q s
  | .done (.panic _), s => Q s
  | .call c k, s => ∀ r t, W c s r t → (k r).Ensures W P Q t

variable {W : World C R σ} {P : α → σ → Prop} {P' : β → σ → Prop} {Q : σ → Prop} {s t : σ}

theorem ensures_ret {a : α} (holds : P a s) :
    Ensures W P Q (.done (.ret a) : Prog C R ε α) s :=
  holds

theorem ensures_ofExit {x : Exit ε α} (returned : ∀ a, x = .ret a → P a s) (ended : Q s) :
    Ensures W P Q (ofExit x : Prog C R ε α) s := by
  cases x with
  | ret a => exact returned a rfl
  | throw e => exact ended
  | panic m => exact ended

theorem ensures_ask {c : C} {P : R c → σ → Prop} (answered : ∀ r t, W c s r t → P r t) :
    Ensures W P Q (ask c : Prog C R ε (R c)) s :=
  answered

theorem ensures_await {c : C} {read : R c → Except ε α}
    (answered : ∀ r t a, W c s r t → read r = .ok a → P a t)
    (failed : ∀ r t e, W c s r t → read r = .error e → Q t) : Ensures W P Q (await c read) s := by
  intro r t answer
  dsimp only
  cases outcome : read r with
  | ok a => exact answered r t a answer outcome
  | error e => exact failed r t e answer outcome

theorem Ensures.bind {p : Prog C R ε α} {f : α → Prog C R ε β} (first : Ensures W P Q p s)
    (second : ∀ a t, P a t → Ensures W P' Q (f a) t) : Ensures W P' Q (p.bind f) s := by
  induction p generalizing s with
  | done x =>
      cases x with
      | ret a => exact second a s first
      | throw e => exact first
      | panic m => exact first
  | call c k ih => exact fun r t answer => ih r (first r t answer)

theorem Ensures.mapErr {p : Prog C R ε α} (ensures : Ensures W P Q p s) (g : ε → ε') :
    Ensures W P Q (p.mapErr g) s := by
  induction p generalizing s with
  | done x => cases x <;> exact ensures
  | call c k ih => exact fun r t answer => ih r (ensures r t answer)

theorem Ensures.lift {W' : World C' R' σ} {outer : C → C'}
    {answer : (c : C) → R' (outer c) → R c} {p : Prog C R ε α}
    (answers : ∀ c s r t, W' (outer c) s r t → W c s (answer c r) t)
    (ensures : Ensures W P Q p s) : Ensures W' P Q (p.lift outer answer) s := by
  induction p generalizing s with
  | done x => cases x <;> exact ensures
  | call c k ih => exact fun r t answered => ih _ (ensures _ t (answers _ _ _ _ answered))

/-- Calls that keep something keep it to the end. -/
theorem Calls.ensures {I : σ → Prop} {kind : C → Prop} {p : Prog C R ε α} (calls : Calls kind p)
    (kept : ∀ c s r t, kind c → W c s r t → I s → I t) (holds : I s) :
    Ensures W (fun _ => I) I p s := by
  induction p generalizing s with
  | done x => cases x <;> exact holds
  | call c k ih =>
      intro r t answer
      exact ih r (calls.2 r trivial) (kept c s r t calls.1 answer holds)

/-- What holds however the program ends holds where it has ended. -/
theorem Ensures.happens {p : Prog C R ε α} {x : Exit ε α} (ensures : Ensures W P Q p s)
    (returned : ∀ a t, P a t → Q t) (happens : Happens W p s x t) : Q t := by
  induction happens with
  | done x s =>
      cases x with
      | ret a => exact returned a s ensures
      | throw e => exact ensures
      | panic m => exact ensures
  | call answer rest ih => exact ih (ensures _ _ answer)

/-- A run in one environment happens in each world that answers as the environment does. -/
theorem happens_run {h : (c : C) → σ → R c × σ} (answers : ∀ c s, W c s (h c s).1 (h c s).2)
    (p : Prog C R ε α) (s : σ) : Happens W p s (p.run h s).exit (p.run h s).state := by
  induction p generalizing s with
  | done x => exact .done x s
  | call c k ih => exact .call (answers c s) (ih (h c s).1 (h c s).2)

/-- The others need not act. -/
theorem happens_amid {others : σ → σ → Prop} {p : Prog C R ε α} {x : Exit ε α}
    (happens : Happens W p s x t) : Happens (W.amid others) p s x t := by
  induction happens with
  | done x s => exact .done x s
  | call answer _ ih => exact .call ⟨_, .refl, answer⟩ ih

end SignalService.Effect.Prog

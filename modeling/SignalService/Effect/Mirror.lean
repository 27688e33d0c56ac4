import SignalService.Effect.Runs

/-! # Programs that differ in what they look at

Of two programs one may make calls that the other does not make. When nothing but a part of the
result depends on their answers, the one does what the other does: given the same answers to the
calls that both make, they make these in the same order and end alike.
-/

namespace SignalService.Effect

variable {C : Type} {R : C → Type} {ε α β γ δ : Type}

namespace Exit

def map (view : α → β) : Exit ε α → Exit ε β
  | .ret a => .ret (view a)
  | .throw e => .throw e
  | .panic m => .panic m

@[simp] theorem map_ret (view : α → β) (a : α) : (Exit.ret a : Exit ε α).map view = .ret (view a) :=
  rfl
@[simp] theorem map_throw (view : α → β) (e : ε) :
    (Exit.throw e : Exit ε α).map view = .throw e := rfl
@[simp] theorem map_panic (view : α → β) (m : String) :
    (Exit.panic m : Exit ε α).map view = .panic m := rfl

@[simp] theorem map_id (x : Exit ε α) : x.map id = x := by
  cases x <;> rfl

end Exit

namespace Prog

/-- Without the calls that are hidden, and seen through `view`, what `p` does is what `q` does. -/
def Mirrors (hidden : C → Bool) (view : α → β) (p : Prog C R ε α) (q : Prog C R ε β) : Prop :=
  ∀ es x, Trace p es x → Trace q (es.filter fun e => ! hidden e.1) (x.map view)

variable {hidden : C → Bool} {view : α → β} {view' : γ → δ}

theorem mirrors_done (view : α → β) (x : Exit ε α) :
    Mirrors hidden view (.done x : Prog C R ε α) (.done (x.map view)) := by
  intro es y trace
  obtain ⟨rfl, rfl⟩ := trace_done.mp trace
  exact .done _

theorem Mirrors.bind {p : Prog C R ε α} {q : Prog C R ε β} {f : α → Prog C R ε γ}
    {g : β → Prog C R ε δ} (first : Mirrors hidden view p q)
    (second : ∀ a, Mirrors hidden view' (f a) (g (view a))) :
    Mirrors hidden view' (p.bind f) (q.bind g) := by
  intro es y trace
  rcases trace_bind.mp trace with ⟨e, ran, rfl⟩ | ⟨m, ran, rfl⟩ | ⟨a, es₁, es₂, rfl, ran, next⟩
  · exact trace_bind.mpr (.inl ⟨e, first _ _ ran, rfl⟩)
  · exact trace_bind.mpr (.inr (.inl ⟨m, first _ _ ran, rfl⟩))
  · rw [List.filter_append]
    exact trace_bind.mpr (.inr (.inr ⟨_, _, _, rfl, first _ _ ran, second a _ _ next⟩))

/-- A program with nothing to hide. -/
theorem Calls.mirrors {p : Prog C R ε α} (calls : Calls (hidden · = false) p) :
    Mirrors hidden id p p := by
  intro es x trace
  have shown : (es.filter fun e => ! hidden e.1) = es := by
    rw [List.filter_eq_self]
    intro e member
    rw [calls.trace trace e member]
    rfl
  rwa [shown, Exit.map_id]

/-- A program that hides all it does. -/
theorem Calls.mirrors_ret {P : α → Prop} {p : Prog C R ε α} (calls : Calls (hidden · = true) p)
    (returns : ReturnsWhen (fun _ _ => True) P p) (b : β) :
    Mirrors hidden (fun _ => b) p (.done (.ret b)) := by
  intro es x trace
  have unseen : (es.filter fun e => ! hidden e.1) = [] := by
    rw [List.filter_eq_nil_iff]
    intro e member
    rw [calls.trace trace e member]
    exact Bool.false_ne_true
  obtain ⟨a, rfl, -⟩ := returns es x trace fun _ _ => trivial
  rw [unseen]
  exact .done _

end Prog

end SignalService.Effect

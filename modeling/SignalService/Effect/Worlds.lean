import SignalService.Effect.Runs

/-! # Programs in a world they share

A world answers a call and is another one afterwards. It need not answer the same call in the
same way twice: others share it, and what it does may be known only in part. Two programs that
take turns in one world are two programs of which each starts in what the other one left.
-/

namespace SignalService.Effect.Prog

/-- `W c s r t`: called with `c` in `s`, the world may answer `r` and be left as `t`. -/
abbrev World (C : Type) (R : C → Type) (σ : Type) := (c : C) → σ → R c → σ → Prop

variable {C C' : Type} {R : C → Type} {R' : C' → Type} {ε ε' α β σ : Type}

/-- Run in `s`, the program may end as `x` and leave `t`. -/
inductive Happens (W : World C R σ) : Prog C R ε α → σ → Exit ε α → σ → Prop where
  | done (x : Exit ε α) (s : σ) : Happens W (.done x) s x s
  | call {c : C} {k : R c → Prog C R ε α} {s m t : σ} {r : R c} {x : Exit ε α} :
      W c s r m → Happens W (k r) m x t → Happens W (.call c k) s x t

variable {W : World C R σ} {s t : σ}

@[simp] theorem happens_done {x y : Exit ε α} :
    Happens W (.done x) s y t ↔ y = x ∧ t = s := by
  constructor
  · intro happens
    cases happens
    exact ⟨rfl, rfl⟩
  · rintro ⟨rfl, rfl⟩
    exact .done _ _

theorem happens_call {c : C} {k : R c → Prog C R ε α} {x : Exit ε α} :
    Happens W (.call c k) s x t ↔ ∃ r m, W c s r m ∧ Happens W (k r) m x t := by
  constructor
  · intro happens
    cases happens with
    | call answered rest => exact ⟨_, _, answered, rest⟩
  · rintro ⟨r, m, answered, rest⟩
    exact .call answered rest

/-- A sequence fails in its first part, or goes on in what that part left. -/
theorem happens_bind {p : Prog C R ε α} {f : α → Prog C R ε β} {y : Exit ε β} :
    Happens W (p.bind f) s y t ↔
      (∃ e, Happens W p s (.throw e) t ∧ y = .throw e) ∨
      (∃ m, Happens W p s (.panic m) t ∧ y = .panic m) ∨
      (∃ a u, Happens W p s (.ret a) u ∧ Happens W (f a) u y t) := by
  induction p generalizing s with
  | done x =>
      cases x with
      | ret a =>
          constructor
          · intro rest
            exact .inr (.inr ⟨a, s, .done _ _, rest⟩)
          · rintro (⟨e, threw, -⟩ | ⟨m, panicked, -⟩ | ⟨b, u, first, rest⟩)
            · cases threw
            · cases panicked
            · cases first
              exact rest
      | throw e => simp [and_comm]
      | panic m => simp [and_comm]
  | call c k ih =>
      simp only [call_bind, happens_call, ih]
      constructor
      · rintro ⟨r, u, answered, ⟨e, threw, rfl⟩ | ⟨m, panicked, rfl⟩ | ⟨a, v, first, rest⟩⟩
        · exact .inl ⟨e, ⟨r, u, answered, threw⟩, rfl⟩
        · exact .inr (.inl ⟨m, ⟨r, u, answered, panicked⟩, rfl⟩)
        · exact .inr (.inr ⟨a, v, ⟨r, u, answered, first⟩, rest⟩)
      · rintro (⟨e, ⟨r, u, answered, threw⟩, rfl⟩ | ⟨m, ⟨r, u, answered, panicked⟩, rfl⟩ |
          ⟨a, v, ⟨r, u, answered, first⟩, rest⟩)
        · exact ⟨r, u, answered, .inl ⟨e, threw, rfl⟩⟩
        · exact ⟨r, u, answered, .inr (.inl ⟨m, panicked, rfl⟩)⟩
        · exact ⟨r, u, answered, .inr (.inr ⟨a, v, first, rest⟩)⟩

theorem Happens.bind {p : Prog C R ε α} {f : α → Prog C R ε β} {a : α} {u : σ} {y : Exit ε β}
    (first : Happens W p s (.ret a) u) (rest : Happens W (f a) u y t) :
    Happens W (p.bind f) s y t :=
  happens_bind.mpr (.inr (.inr ⟨a, u, first, rest⟩))

/-- A sequence whose second part makes no call. -/
theorem happens_bind_done {p : Prog C R ε α} {g : α → Exit ε β} {y : Exit ε β} :
    Happens W (p.bind fun a => .done (g a)) s y t ↔ ∃ x, Happens W p s x t ∧ y = x.bind g := by
  induction p generalizing s with
  | done x => cases x <;> simp [and_comm]
  | call c k ih =>
      simp only [call_bind, happens_call, ih]
      constructor
      · rintro ⟨r, u, answered, x, rest, rfl⟩
        exact ⟨x, ⟨r, u, answered, rest⟩, rfl⟩
      · rintro ⟨x, ⟨r, u, answered, rest⟩, rfl⟩
        exact ⟨r, u, answered, x, rest, rfl⟩

theorem happens_mapErr {p : Prog C R ε α} {g : ε → ε'} {y : Exit ε' α} :
    Happens W (p.mapErr g) s y t ↔ ∃ x, Happens W p s x t ∧ y = x.mapErr g := by
  induction p generalizing s with
  | done x => simp [and_comm]
  | call c k ih =>
      simp only [call_mapErr, happens_call, ih]
      constructor
      · rintro ⟨r, u, answered, x, rest, rfl⟩
        exact ⟨x, ⟨r, u, answered, rest⟩, rfl⟩
      · rintro ⟨x, ⟨r, u, answered, rest⟩, rfl⟩
        exact ⟨r, u, answered, x, rest, rfl⟩

/-- What happens is one of the program's behaviours. -/
theorem Happens.trace {p : Prog C R ε α} {x : Exit ε α} (happens : Happens W p s x t) :
    ∃ es, Trace p es x := by
  induction happens with
  | done x s => exact ⟨[], .done x⟩
  | call answered rest ih =>
      obtain ⟨es, trace⟩ := ih
      exact ⟨_, .call _ trace⟩

/-- Each answer in it is one that the world may give. -/
theorem Happens.answered {A : (c : C) → R c → Prop} {p : Prog C R ε α} {x : Exit ε α}
    (allowed : ∀ c s r t, W c s r t → A c r) (happens : Happens W p s x t) :
    ∃ es, Trace p es x ∧ ∀ e ∈ es, A e.1 e.2 := by
  induction happens with
  | done x s => exact ⟨[], .done x, by simp⟩
  | call answered rest ih =>
      obtain ⟨es, trace, all⟩ := ih
      exact ⟨_, .call _ trace, List.forall_mem_cons.mpr ⟨allowed _ _ _ _ answered, all⟩⟩

theorem ThrowsWhen.happens {A : (c : C) → R c → Prop} {E : ε → Prop} {p : Prog C R ε α} {e : ε}
    (throws : ThrowsWhen A E p) (allowed : ∀ c s r t, W c s r t → A c r)
    (happens : Happens W p s (.throw e) t) : E e := by
  obtain ⟨es, trace, answered⟩ := happens.answered allowed
  exact throws.trace trace answered rfl

/-- A program within a larger set of calls ends as it may by itself. -/
theorem Happens.of_lift {W : World C' R' σ} {outer : C → C'}
    {answer : (c : C) → R' (outer c) → R c} {p : Prog C R ε α} {x : Exit ε α}
    (happens : Happens W (p.lift outer answer) s x t) : ∃ es, Trace p es x := by
  induction p generalizing s with
  | done y =>
      obtain ⟨rfl, rfl⟩ := happens_done.mp happens
      exact ⟨[], .done _⟩
  | call c k ih =>
      obtain ⟨r, m, -, rest⟩ := happens_call.mp happens
      obtain ⟨es, trace⟩ := ih _ rest
      exact ⟨_, .call _ trace⟩

/-- Calls that change nothing leave the world as it is. -/
theorem Calls.happens_kept {P : C → Prop} {p : Prog C R ε α} {x : Exit ε α} (calls : Calls P p)
    (kept : ∀ c s r t, P c → W c s r t → t = s) (happens : Happens W p s x t) : t = s := by
  induction happens with
  | done x s => rfl
  | call answered rest ih => exact (ih (calls.2 _ trivial)).trans (kept _ _ _ _ calls.1 answered)

/-! ## Calls that are counted -/

/-- At most `n` of the calls are of the kind that counts. -/
def AtMost (counts : C → Bool) : Nat → Prog C R ε α → Prop
  | _, .done _ => True
  | n, .call c k => (counts c = false ∧ ∀ r, (k r).AtMost counts n) ∨
      ∃ m, n = m + 1 ∧ ∀ r, (k r).AtMost counts m

section AtMost

variable {counts : C → Bool} {n m : Nat} {p : Prog C R ε α}

theorem AtMost.mono (most : p.AtMost counts n) (le : n ≤ m) : p.AtMost counts m := by
  induction p generalizing n m with
  | done x => trivial
  | call c k ih =>
      rcases most with ⟨other, rest⟩ | ⟨n, rfl, rest⟩
      · exact .inl ⟨other, fun r => ih r (rest r) le⟩
      · obtain ⟨m, rfl⟩ := Nat.exists_eq_add_of_le' (Nat.le_of_add_left_le le)
        exact .inr ⟨m, rfl, fun r => ih r (rest r) (by omega)⟩

theorem Calls.atMost (calls : Calls (counts · = false) p) : p.AtMost counts 0 := by
  induction p with
  | done x => trivial
  | call c k ih => exact .inl ⟨calls.1, fun r => ih r (calls.2 r trivial)⟩

theorem AtMost.bind {f : α → Prog C R ε β} (first : p.AtMost counts n)
    (second : ∀ a, (f a).AtMost counts m) : (p.bind f).AtMost counts (n + m) := by
  induction p generalizing n with
  | done x =>
      cases x with
      | ret a => exact (second a).mono (Nat.le_add_left m n)
      | throw e => trivial
      | panic m => trivial
  | call c k ih =>
      rcases first with ⟨other, rest⟩ | ⟨n, rfl, rest⟩
      · exact .inl ⟨other, fun r => ih r (rest r)⟩
      · exact .inr ⟨n + m, by omega, fun r => ih r (rest r)⟩

/-- What makes none of these calls may follow. -/
theorem AtMost.quietly {f : α → Prog C R ε β} (first : p.AtMost counts n)
    (quiet : ∀ a, (f a).AtMost counts 0) : (p.bind f).AtMost counts n :=
  first.bind quiet

theorem atMost_done (x : Exit ε α) : (.done x : Prog C R ε α).AtMost counts n := trivial

theorem AtMost.mapErr (most : p.AtMost counts n) (g : ε → ε') :
    (p.mapErr g).AtMost counts n := by
  induction p generalizing n with
  | done x => trivial
  | call c k ih =>
      rcases most with ⟨other, rest⟩ | ⟨n, rfl, rest⟩
      · exact .inl ⟨other, fun r => ih r (rest r)⟩
      · exact .inr ⟨n, rfl, fun r => ih r (rest r)⟩

theorem AtMost.trace {es : List (Event C R)} {x : Exit ε α} (most : p.AtMost counts n)
    (trace : Trace p es x) : es.countP (fun event => counts event.1) ≤ n := by
  induction trace generalizing n with
  | done x => exact Nat.zero_le n
  | @call c k es x r _ ih =>
      rcases most with ⟨other, rest⟩ | ⟨n, rfl, rest⟩
      · rw [List.countP_cons_of_neg (by simp [other])]
        exact ih (rest r)
      · have later := ih (rest r)
        rw [List.countP_cons]
        split <;> omega

end AtMost

end SignalService.Effect.Prog

import SignalService.Effect.Prog

/-! # Runs that are answered as expected

What a program does whenever the answers to its calls are as an assumption says: how it
ends, and with which events. A program over few calls can be used in one over more.
-/

namespace SignalService.Effect.Prog

variable {C C' : Type} {R : C → Type} {R' : C' → Type} {ε ε' α β : Type}

/-! ## Calls and other calls -/

/-- The answer to a call, as it comes. -/
def ask (c : C) : Prog C R ε (R c) := .call c fun r => .done (.ret r)

/-- The answer to a call that may be an error, which is passed on. -/
def await (c : C) (read : R c → Except ε α) : Prog C R ε α := .call c fun r => .ofExcept (read r)

/-- The same program, making its calls as calls of a larger set. -/
def lift (outer : C → C') (answer : (c : C) → R' (outer c) → R c) :
    Prog C R ε α → Prog C' R' ε α
  | .done x => .done x
  | .call c k => .call (outer c) fun r => (k (answer c r)).lift outer answer

theorem trace_mapErr {p : Prog C R ε α} {g : ε → ε'} {es : List (Event C R)} {y : Exit ε' α} :
    Trace (p.mapErr g) es y ↔ ∃ x, Trace p es x ∧ y = x.mapErr g := by
  induction p generalizing es with
  | done x => simp
  | call c k ih =>
      simp only [call_mapErr, trace_call, ih]
      constructor
      · rintro ⟨r, rest, rfl, x, h, rfl⟩
        exact ⟨x, ⟨r, rest, rfl, h⟩, rfl⟩
      · rintro ⟨x, ⟨r, rest, rfl, h⟩, rfl⟩
        exact ⟨r, rest, rfl, x, h, rfl⟩

/-! ## Every run under an assumption -/

/-- Every behaviour whose answers are as `A` says has `Q` of its events and its exit. -/
def Runs (A : (c : C) → R c → Prop) (Q : List (Event C R) → Exit ε α → Prop)
    (p : Prog C R ε α) : Prop :=
  ∀ es x, Trace p es x → (∀ e ∈ es, A e.1 e.2) → Q es x

/-- Every such behaviour returns, with `P` of what it returns. -/
def ReturnsWhen (A : (c : C) → R c → Prop) (P : α → Prop) (p : Prog C R ε α) : Prop :=
  Runs A (fun _ x => ∃ a, x = .ret a ∧ P a) p

variable {A : (c : C) → R c → Prop} {A' : (c : C') → R' c → Prop}
  {Q : List (Event C R) → Exit ε α → Prop} {P : α → Prop}

theorem runs_done {x : Exit ε α} (holds : Q [] x) : Runs A Q (.done x) := by
  intro es y trace _
  obtain ⟨rfl, rfl⟩ := trace_done.mp trace
  exact holds

theorem runs_call {c : C} {k : R c → Prog C R ε α}
    (rest : ∀ r, A c r → Runs A (fun es x => Q (⟨c, r⟩ :: es) x) (k r)) :
    Runs A Q (.call c k) := by
  intro es x trace answered
  obtain ⟨r, rest', rfl, next⟩ := trace_call.mp trace
  exact rest r (answered _ List.mem_cons_self) rest' x next
    fun e mem => answered e (List.mem_cons_of_mem _ mem)

theorem Runs.of_call {c : C} {k : R c → Prog C R ε α} (runs : Runs A Q (.call c k)) {r : R c}
    (answer : A c r) : Runs A (fun es x => Q (⟨c, r⟩ :: es) x) (k r) := by
  intro es x trace answered
  apply runs _ x (.call r trace)
  intro e mem
  rcases List.mem_cons.mp mem with rfl | mem
  · exact answer
  · exact answered e mem

theorem Runs.mono {Q' : List (Event C R) → Exit ε α → Prop} {p : Prog C R ε α}
    (runs : Runs A Q p) (imp : ∀ es x, Q es x → Q' es x) : Runs A Q' p :=
  fun es x trace answered => imp es x (runs es x trace answered)

/-- A part that always returns, and what follows it. -/
theorem Runs.bind {p : Prog C R ε α} {f : α → Prog C R ε β}
    {P : List (Event C R) → α → Prop} {Q : List (Event C R) → Exit ε β → Prop}
    (first : Runs A (fun es x => ∃ a, x = .ret a ∧ P es a) p)
    (second : ∀ es a, P es a → Runs A (fun es' y => Q (es ++ es') y) (f a)) :
    Runs A Q (p.bind f) := by
  intro es y trace answered
  rcases trace_bind.mp trace with ⟨e, failed, -⟩ | ⟨m, failed, -⟩ | ⟨a, es₁, es₂, rfl, ran, next⟩
  · obtain ⟨a, returned, -⟩ := first _ _ failed answered
    cases returned
  · obtain ⟨a, returned, -⟩ := first _ _ failed answered
    cases returned
  · obtain ⟨b, returned, holds⟩ := first _ _ ran
      fun e mem => answered e (List.mem_append_left _ mem)
    cases returned
    exact second es₁ a holds es₂ y next fun e mem => answered e (List.mem_append_right _ mem)

/-- After an error there is nothing more. -/
theorem Runs.bind_throw {p : Prog C R ε α} {e : ε} {Q : List (Event C R) → Prop}
    (first : Runs A (fun es x => x = .throw e ∧ Q es) p) (f : α → Prog C R ε β) :
    Runs A (fun es y => y = .throw e ∧ Q es) (p.bind f) := by
  intro es y trace answered
  rcases trace_bind.mp trace with ⟨e', ran, rfl⟩ | ⟨m, ran, -⟩ | ⟨a, es₁, es₂, rfl, ran, -⟩
  · obtain ⟨threw, holds⟩ := first es (.throw e') ran answered
    cases threw
    exact ⟨rfl, holds⟩
  · cases (first es (.panic m) ran answered).1
  · cases (first es₁ (.ret a) ran fun e mem => answered e (List.mem_append_left _ mem)).1

theorem ReturnsWhen.bind {p : Prog C R ε α} {f : α → Prog C R ε β} {Q : Exit ε β → Prop}
    (first : ReturnsWhen A P p) (second : ∀ a, P a → Runs A (fun _ => Q) (f a)) :
    Runs A (fun _ => Q) (p.bind f) :=
  Runs.bind first fun _ a holds => second a holds

/-- The same where what follows must hold whatever was called before it. -/
theorem ReturnsWhen.before {p : Prog C R ε α} {f : α → Prog C R ε β}
    {Q : List (Event C R) → Exit ε β → Prop} (more : ∀ es es' y, Q es' y → Q (es ++ es') y)
    (first : ReturnsWhen A P p) (second : ∀ a, P a → Runs A Q (f a)) : Runs A Q (p.bind f) :=
  Runs.bind first fun es a holds => (second a holds).mono fun es' y => more es es' y

theorem returnsWhen_ret {a : α} (holds : P a) :
    ReturnsWhen A P (.done (.ret a) : Prog C R ε α) :=
  runs_done ⟨a, rfl, holds⟩

theorem returnsWhen_ofExit {x : Exit ε α} {a : α} (returned : x = .ret a) :
    ReturnsWhen A (· = a) (.ofExit x : Prog C R ε α) := by
  rw [returned]
  exact returnsWhen_ret rfl

theorem returnsWhen_ofExcept {x : Except ε α} {a : α} (ok : x = .ok a) :
    ReturnsWhen A (· = a) (.ofExcept x : Prog C R ε α) := by
  rw [ok]
  exact returnsWhen_ret rfl

theorem returnsWhen_ofOption {x : Option α} {otherwise : Exit ε α} {a : α} (found : x = some a) :
    ReturnsWhen A (· = a) (.ofOption otherwise x : Prog C R ε α) := by
  rw [found]
  exact returnsWhen_ret rfl

theorem returnsWhen_ask {c : C} {P : R c → Prop} (answers : ∀ r, A c r → P r) :
    ReturnsWhen A P (ask c : Prog C R ε (R c)) :=
  runs_call fun r allowed => runs_done ⟨r, rfl, answers r allowed⟩

theorem returnsWhen_await {c : C} {read : R c → Except ε α}
    (answers : ∀ r, A c r → ∃ a, read r = .ok a ∧ P a) : ReturnsWhen A P (await c read) := by
  apply runs_call
  intro r allowed
  obtain ⟨a, ok, holds⟩ := answers r allowed
  rw [ok]
  exact returnsWhen_ret holds

theorem returnsWhen_ask_any {c : C} :
    ReturnsWhen A (fun _ => True) (ask c : Prog C R ε (R c)) :=
  returnsWhen_ask fun _ _ => trivial

theorem returnsWhen_await_ok {c : C} {read : R c → Except ε α}
    (answers : ∀ r, A c r → ∃ a, read r = .ok a) :
    ReturnsWhen A (fun _ => True) (await c read) :=
  returnsWhen_await fun r allowed => (answers r allowed).imp fun _ ok => ⟨ok, trivial⟩

theorem ReturnsWhen.mapErr {p : Prog C R ε α} (g : ε → ε') (returns : ReturnsWhen A P p) :
    ReturnsWhen A P (p.mapErr g) := by
  intro es y trace answered
  obtain ⟨x, ran, rfl⟩ := trace_mapErr.mp trace
  obtain ⟨a, rfl, holds⟩ := returns es x ran answered
  exact ⟨a, rfl, holds⟩

theorem ReturnsWhen.mono {P' : α → Prop} {p : Prog C R ε α} (returns : ReturnsWhen A P p)
    (imp : ∀ a, P a → P' a) : ReturnsWhen A P' p :=
  Runs.mono returns fun _ _ ⟨a, returned, holds⟩ => ⟨a, returned, imp a holds⟩

theorem ReturnsWhen.lift {outer : C → C'} {answer : (c : C) → R' (outer c) → R c}
    {p : Prog C R ε α} (returns : ReturnsWhen A P p)
    (answers : ∀ c r, A' (outer c) r → A c (answer c r)) :
    ReturnsWhen A' P (p.lift outer answer) := by
  induction p with
  | done x => exact runs_done (returns [] x (.done x) (by simp))
  | call c k ih => exact runs_call fun r allowed => ih _ (returns.of_call (answers c r allowed))

theorem throwsWhen_ask {E : ε → Prop} {c : C} :
    ThrowsWhen A E (ask c : Prog C R ε (R c)) := by
  intro r _
  trivial

theorem throwsWhen_await {E : ε → Prop} {c : C} {read : R c → Except ε α}
    (answers : ∀ r, A c r → ∃ a, read r = .ok a) : ThrowsWhen A E (await c read) := by
  intro r allowed
  obtain ⟨a, ok⟩ := answers r allowed
  dsimp only
  rw [ok]
  trivial

theorem ThrowsWhen.lift {E : ε → Prop} {outer : C → C'} {answer : (c : C) → R' (outer c) → R c}
    {p : Prog C R ε α} (throws : ThrowsWhen A E p)
    (answers : ∀ c r, A' (outer c) r → A c (answer c r)) :
    ThrowsWhen A' E (p.lift outer answer) := by
  induction p with
  | done x => cases x <;> exact throws
  | call c k ih => exact fun r allowed => ih _ (throws _ (answers c r allowed))

theorem calls_ask {P : C → Prop} {c : C} (kind : P c) :
    CallsWhen A P (ask c : Prog C R ε (R c)) :=
  ⟨kind, fun _ _ => trivial⟩

theorem calls_await {P : C → Prop} {c : C} {read : R c → Except ε α} (kind : P c) :
    CallsWhen A P (await c read) :=
  ⟨kind, fun _ _ => trivial⟩

theorem calls_lift {outer : C → C'} {answer : (c : C) → R' (outer c) → R c} {P' : C' → Prop}
    (kinds : ∀ c, P' (outer c)) (p : Prog C R ε α) : CallsWhen A' P' (p.lift outer answer) := by
  induction p with
  | done x => trivial
  | call c k ih => exact ⟨kinds c, fun r _ => ih _⟩

theorem Returns.lift {outer : C → C'} {answer : (c : C) → R' (outer c) → R c}
    {p : Prog C R ε α} (returns : Returns P p) : Returns P (p.lift outer answer) := by
  induction p with
  | done x => cases x <;> exact returns
  | call c k ih => exact fun r => ih _ (returns _)

/-! ## Runs that may fail -/

/-- `P` of what is returned, nothing of an error, and `B` where there was a panic. -/
def Post (P : List (Event C R) → α → Prop) (B : Prop) : List (Event C R) → Exit ε α → Prop
  | es, .ret a => P es a
  | _, .throw _ => True
  | _, .panic _ => B

section Post

variable {B B' : Prop} {P P' : List (Event C R) → α → Prop} {Q : List (Event C R) → β → Prop}

theorem Runs.mono_post {p : Prog C R ε α} (runs : Runs A (Post P B) p)
    (ret : ∀ es a, P es a → P' es a) (panic : B → B') : Runs A (Post P' B') p := by
  intro es x trace answered
  have holds := runs es x trace answered
  cases x with
  | ret a => exact ret es a holds
  | throw e => trivial
  | panic m => exact panic holds

theorem Runs.bind_post {p : Prog C R ε α} {f : α → Prog C R ε β} (first : Runs A (Post P B) p)
    (second : ∀ es a, P es a → Runs A (Post (fun es' => Q (es ++ es')) B) (f a)) :
    Runs A (Post Q B) (p.bind f) := by
  intro es y trace answered
  rcases trace_bind.mp trace with ⟨e, -, rfl⟩ | ⟨m, panicked, rfl⟩ | ⟨a, es₁, es₂, rfl, ran, next⟩
  · trivial
  · exact first es (.panic m) panicked answered
  · have before : P es₁ a := first es₁ (.ret a) ran
      fun e mem => answered e (List.mem_append_left _ mem)
    have after := second es₁ a before es₂ y next
      fun e mem => answered e (List.mem_append_right _ mem)
    cases y with
    | ret b => exact after
    | throw e => trivial
    | panic m => exact after

/-- The same where what follows must hold whatever was called before it. -/
theorem Runs.before_post {V : α → Prop} {p : Prog C R ε α} {f : α → Prog C R ε β}
    (more : ∀ es es' b, Q es' b → Q (es ++ es') b) (first : Runs A (Post (fun _ => V) B) p)
    (second : ∀ a, V a → Runs A (Post Q B) (f a)) : Runs A (Post Q B) (p.bind f) :=
  first.bind_post fun es a value => (second a value).mono_post (more es) id

theorem Runs.mapErr_post {p : Prog C R ε α} (g : ε → ε') (runs : Runs A (Post P B) p) :
    Runs A (Post P B) (p.mapErr g) := by
  intro es y trace answered
  obtain ⟨x, ran, rfl⟩ := trace_mapErr.mp trace
  have holds := runs es x ran answered
  cases x <;> exact holds

theorem Runs.attempt_post {p : Prog C R ε α} (runs : Runs A (Post P B) p) :
    Runs A (Post (fun es result => ∀ a, result = .ok a → P es a) B)
      (p.attempt : Prog C R ε' (Except ε α)) := by
  intro es y trace answered
  obtain ⟨x, ran, rfl⟩ := trace_attempt.mp trace
  have holds := runs es x ran answered
  cases x with
  | ret a =>
      rintro _ ⟨⟩
      exact holds
  | throw e => rintro _ ⟨⟩
  | panic m => exact holds

theorem runs_ret_post {a : α} (holds : P [] a) :
    Runs A (Post P B) (.done (.ret a) : Prog C R ε α) :=
  runs_done holds

theorem runs_ask_post {c : C} :
    Runs A (Post (fun es r => es = [⟨c, r⟩]) B) (ask c : Prog C R ε (R c)) :=
  runs_call fun _ _ => runs_done rfl

theorem runs_await_post {c : C} {read : R c → Except ε α} :
    Runs A (Post (fun es a => ∃ r, es = [⟨c, r⟩] ∧ A c r ∧ read r = .ok a) B) (await c read) := by
  apply runs_call
  intro r allowed
  cases answer : read r with
  | ok a => exact runs_done ⟨r, rfl, allowed, answer⟩
  | error e => exact runs_done trivial

theorem runs_ofExit_post {x : Exit ε α} (panic : ∀ m, x = .panic m → B) :
    Runs A (Post (fun es a => es = [] ∧ x = .ret a) B) (ofExit x : Prog C R ε α) := by
  cases x with
  | ret a => exact runs_done ⟨rfl, rfl⟩
  | throw e => exact runs_done trivial
  | panic m => exact runs_done (panic m rfl)

theorem runs_ofExcept_post {x : Except ε α} :
    Runs A (Post (fun _ a => x = .ok a) B) (ofExcept x : Prog C R ε α) := by
  cases x with
  | ok a => exact runs_done rfl
  | error e => exact runs_done trivial

theorem runs_post_true {p : Prog C R ε α} : Runs A (Post (fun _ _ => True) True) p := by
  intro es x _ _
  cases x <;> trivial

theorem runs_traced {p : Prog C R ε α} : Runs A (Post (fun es a => Trace p es (.ret a)) True) p := by
  intro es x trace _
  cases x with
  | ret a => exact trace
  | throw e => trivial
  | panic m => trivial

theorem Returns.runs_post {V : α → Prop} {p : Prog C R ε α} (returns : Returns V p) :
    Runs A (Post (fun _ => V) True) p := by
  intro es x trace _
  cases x with
  | ret a => exact returns.trace trace rfl
  | throw e => trivial
  | panic m => trivial

end Post

/-! ## Errors before calls -/

/-- An error of the kind `E` comes only where all calls so far were of the kind `P`. -/
def Before (E : ε → Prop) (P : C → Prop) : List (Event C R) → Exit ε α → Prop :=
  fun es x => ∀ e, x = .throw e → E e → ∀ event ∈ es, P event.1

section Before

variable {E : ε → Prop} {P : C → Prop} {V : α → Prop}

theorem ThrowsWhen.runs_before {p : Prog C R ε α} (throws : ThrowsWhen A (fun e => ¬ E e) p) :
    Runs A (Before E P) p := by
  intro es x trace answered e threw kind
  exact absurd kind (throws.trace trace answered threw)

theorem Runs.bind_before {p : Prog C R ε α} {f : α → Prog C R ε β} (calls : Calls P p)
    (first : Runs A (Post (fun _ => V) True) p)
    (second : ∀ a, V a → Runs A (Before E P) (f a)) : Runs A (Before E P) (p.bind f) := by
  intro es y trace answered e threw kind
  rcases trace_bind.mp trace with ⟨e', ran, -⟩ | ⟨m, -, rfl⟩ | ⟨a, es₁, es₂, rfl, ran, next⟩
  · exact calls.trace ran
  · cases threw
  · have value : V a := first es₁ (.ret a) ran
      fun e mem => answered e (List.mem_append_left _ mem)
    have after := second a value es₂ y next
      fun e mem => answered e (List.mem_append_right _ mem)
    intro event mem
    rcases List.mem_append.mp mem with mem | mem
    · exact calls.trace ran event mem
    · exact after e threw kind event mem

end Before

/-- A call that the first part does not make is made by what follows it. -/
theorem Calls.passed {P : C → Prop} {p : Prog C R ε α} {f : α → Prog C R ε β}
    {es : List (Event C R)} {y : Exit ε β} {event : Event C R} (calls : Calls P p)
    (trace : Trace (p.bind f) es y) (made : event ∈ es) (other : ¬ P event.1) :
    ∃ a es₁ es₂, es = es₁ ++ es₂ ∧ Trace p es₁ (.ret a) ∧ Trace (f a) es₂ y ∧ event ∈ es₂ := by
  rcases trace_bind.mp trace with ⟨e, ran, -⟩ | ⟨m, ran, -⟩ | ⟨a, es₁, es₂, rfl, ran, next⟩
  · exact absurd (calls.trace ran event made) other
  · exact absurd (calls.trace ran event made) other
  · rcases List.mem_append.mp made with made | made
    · exact absurd (calls.trace ran event made) other
    · exact ⟨a, es₁, es₂, rfl, ran, next, made⟩

/-! ## Calls that are made -/

/-- Some call of the kind `P` was made. -/
def Makes (P : C → Prop) : List (Event C R) → Exit ε α → Prop :=
  fun es _ => ∃ event ∈ es, P event.1

section Makes

variable {P : C → Prop} {P' : C' → Prop}

theorem Makes.append {es es' : List (Event C R)} {x : Exit ε α} (makes : Makes P es' x) :
    Makes P (es ++ es') x := by
  obtain ⟨event, mem, kind⟩ := makes
  exact ⟨event, List.mem_append_right es mem, kind⟩

theorem runs_makes {c : C} {k : R c → Prog C R ε α} (kind : P c) :
    Runs A (Makes P) (.call c k) :=
  runs_call fun r _ => fun _ _ _ _ => ⟨⟨c, r⟩, List.mem_cons_self, kind⟩

theorem Runs.makes_bind {p : Prog C R ε α} (runs : Runs A (Makes P) p) (f : α → Prog C R ε β) :
    Runs A (Makes P) (p.bind f) := by
  intro es y trace answered
  rcases trace_bind.mp trace with ⟨e, ran, -⟩ | ⟨m, ran, -⟩ | ⟨a, es₁, es₂, rfl, ran, -⟩
  · exact runs es (.throw e) ran answered
  · exact runs es (.panic m) ran answered
  · obtain ⟨event, mem, kind⟩ := runs es₁ (.ret a) ran
      fun e mem => answered e (List.mem_append_left _ mem)
    exact ⟨event, List.mem_append_left es₂ mem, kind⟩

theorem ReturnsWhen.before_makes {p : Prog C R ε α} {f : α → Prog C R ε β} {V : α → Prop}
    (first : ReturnsWhen A V p) (second : ∀ a, V a → Runs A (Makes P) (f a)) :
    Runs A (Makes P) (p.bind f) :=
  first.before (fun _ _ _ => Makes.append) second

theorem Runs.makes_mapErr {p : Prog C R ε α} (runs : Runs A (Makes P) p) (g : ε → ε') :
    Runs A (Makes P) (p.mapErr g) := by
  intro es y trace answered
  obtain ⟨x, ran, -⟩ := trace_mapErr.mp trace
  exact runs es x ran answered

theorem Runs.makes_lift {outer : C → C'} {answer : (c : C) → R' (outer c) → R c}
    {p : Prog C R ε α} (runs : Runs A (Makes P) p)
    (answers : ∀ c r, A' (outer c) r → A c (answer c r)) (kinds : ∀ c, P c → P' (outer c)) :
    Runs A' (Makes P') (p.lift outer answer) := by
  induction p with
  | done x =>
      obtain ⟨event, mem, -⟩ := runs [] x (.done x) (by simp)
      cases mem
  | call c k ih =>
      by_cases kind : P c
      · exact runs_makes (kinds c kind)
      · apply runs_call
        intro r allowed
        have later : Runs A (Makes P) (k (answer c r)) := by
          refine Runs.mono (runs.of_call (answers c r allowed)) ?_
          rintro es x ⟨event, mem, made⟩
          rcases List.mem_cons.mp mem with rfl | mem
          · exact absurd made kind
          · exact ⟨event, mem, made⟩
        refine Runs.mono (ih _ later) ?_
        rintro es x ⟨event, mem, made⟩
        exact ⟨event, List.mem_cons_of_mem _ mem, made⟩

end Makes

/-! ## Runs in one environment -/

section Environment

variable {σ : Type} {h : (c : C) → σ → R c × σ} {P : C → Prop} {s : σ}

/-- The program ends as `x`, makes only calls of the kind `P`, and leaves the state as it is. -/
structure Observes (P : C → Prop) (h : (c : C) → σ → R c × σ) (p : Prog C R ε α) (s : σ)
    (x : Exit ε α) : Prop where
  exit : (p.run h s).exit = x
  state : (p.run h s).state = s
  log : ∀ event ∈ (p.run h s).log, P event.1

theorem observes_done {x : Exit ε α} : Observes P h (.done x) s x := ⟨rfl, rfl, by simp⟩

theorem observes_call {c : C} {k : R c → Prog C R ε α} {x : Exit ε α} (kind : P c)
    (kept : (h c s).2 = s) (rest : Observes P h (k (h c s).1) s x) :
    Observes P h (.call c k) s x := by
  refine ⟨?_, ?_, ?_⟩
  · rw [run_call_exit, kept]
    exact rest.exit
  · rw [run_call_state, kept]
    exact rest.state
  · rw [run_call_log, kept]
    exact List.forall_mem_cons.mpr ⟨kind, rest.log⟩

theorem observes_await {c : C} {read : R c → Except ε α} {a : α} (kind : P c)
    (kept : (h c s).2 = s) (ok : read (h c s).1 = .ok a) :
    Observes P h (await c read) s (.ret a) := by
  refine observes_call kind kept ?_
  rw [ok]
  exact observes_done

/-- After a part that only observes, the rest runs as if it had come first. -/
theorem Observes.bind_run {p : Prog C R ε α} {f : α → Prog C R ε β} {a : α}
    (first : Observes P h p s (.ret a)) :
    ((p.bind f).run h s).exit = ((f a).run h s).exit ∧
      ((p.bind f).run h s).state = ((f a).run h s).state ∧
      ((p.bind f).run h s).log = (p.run h s).log ++ ((f a).run h s).log := by
  rw [run_bind_of_ret h first.exit, first.state]
  exact ⟨rfl, rfl, rfl⟩

theorem Observes.bind {p : Prog C R ε α} {f : α → Prog C R ε β} {a : α} {x : Exit ε β}
    (first : Observes P h p s (.ret a)) (second : Observes P h (f a) s x) :
    Observes P h (p.bind f) s x := by
  obtain ⟨exit, state, log⟩ := first.bind_run (f := f)
  refine ⟨exit.trans second.exit, state.trans second.state, ?_⟩
  rw [log]
  exact List.forall_mem_append.mpr ⟨first.log, second.log⟩

/-- `P` of what the program returns in `s` and of the state it leaves, if it returns. -/
def Yields (h : (c : C) → σ → R c × σ) (P : α → σ → Prop) (p : Prog C R ε α) (s : σ) : Prop :=
  ∀ a, (p.run h s).exit = .ret a → P a (p.run h s).state

variable {V : α → σ → Prop} {W : β → σ → Prop}

theorem yields_ret {a : α} (holds : V a s) : Yields h V (.done (.ret a) : Prog C R ε α) s := by
  rintro _ ⟨⟩
  exact holds

theorem Yields.bind {p : Prog C R ε α} {f : α → Prog C R ε β} (first : Yields h V p s)
    (second : ∀ a t, V a t → Yields h W (f a) t) : Yields h W (p.bind f) s := by
  intro b returned
  rw [run_bind_exit] at returned
  obtain ⟨a, ran, next⟩ := Exit.bind_eq_ret.mp returned
  rw [run_bind_state_of_ret h ran]
  exact second a _ (first a ran) b next

theorem yields_ofExit {x : Exit ε α} (holds : ∀ a, x = .ret a → V a s) :
    Yields h V (.ofExit x : Prog C R ε α) s :=
  fun a returned => holds a returned

theorem yields_ask {c : C} {V : R c → σ → Prop} (holds : V (h c s).1 (h c s).2) :
    Yields h V (ask c : Prog C R ε (R c)) s := by
  rintro _ ⟨⟩
  exact holds

theorem yields_await {c : C} {read : R c → Except ε α}
    (holds : ∀ a, read (h c s).1 = .ok a → V a (h c s).2) : Yields h V (await c read) s := by
  intro a returned
  exact holds a (Exit.ofExcept_eq_ret.mp returned)

theorem Yields.mapErr {p : Prog C R ε α} (g : ε → ε') (yields : Yields h V p s) :
    Yields h V (p.mapErr g) s := by
  intro a returned
  rw [run_mapErr] at returned ⊢
  exact yields a (Exit.mapErr_eq_ret.mp returned)

theorem Yields.lift {h' : (c : C') → σ → R' c × σ} {outer : C → C'}
    {answer : (c : C) → R' (outer c) → R c} {p : Prog C R ε α}
    (same : ∀ c s, h c s = (answer c (h' (outer c) s).1, (h' (outer c) s).2))
    (yields : Yields h V p s) : Yields h' V (p.lift outer answer) s := by
  induction p generalizing s with
  | done x => exact yields
  | call c k ih =>
      refine fun a returned => ih _ (s := (h' (outer c) s).2) ?_ a returned
      intro b ran
      have first := yields b
      rw [run_call_exit, run_call_state, same] at first
      exact first ran

end Environment

/-- Where every call has an answer, some behaviour has these answers. -/
theorem exists_answered (answerable : ∀ c, ∃ r, A c r) (p : Prog C R ε α) :
    ∃ es x, Trace p es x ∧ ∀ e ∈ es, A e.1 e.2 := by
  induction p with
  | done x => exact ⟨[], x, .done x, by simp⟩
  | call c k ih =>
      obtain ⟨r, allowed⟩ := answerable c
      obtain ⟨es, x, ran, answered⟩ := ih r
      refine ⟨⟨c, r⟩ :: es, x, .call r ran, ?_⟩
      intro e mem
      rcases List.mem_cons.mp mem with rfl | mem
      · exact allowed
      · exact answered e mem

end SignalService.Effect.Prog

import SignalService.Effect.Prog

/-! # Tasks that share records and locks

Any number of programs run together, interleaved at their calls. Some calls take or leave
the lock of a peer, some read the record under a key, some replace it, and of these some
are split: they load the record at one time and store what they made of it at a later one.

A run is serial when no split call is interrupted. A run in which nothing is stored for a
peer between another task's load and store for it leaves the records of a serial run; and
tasks that replace records only under the lock of their peer can only run so.
-/

namespace SignalService.Effect

/-- What a call does to what the tasks share. -/
inductive Use (K P : Type) where
  | plain
  | acquire (peer : P)
  | release (peer : P)
  | read (key : K)
  /-- Finds the record under the key and replaces it in one step. -/
  | brief (key : K)
  /-- Loads the record under the key and stores it in a later step. -/
  | split (key : K)

/-- How calls are answered at one time: those that touch no record, and the others by the
    record they find, together with the record they leave, if they leave one. -/
structure Replies (C : Type) (R : C → Type) (V : Type) where
  plain : (c : C) → R c
  touch : (c : C) → V → R c × Option V

/-- All the answers satisfy `A`. -/
structure Replies.Satisfy {C : Type} {R : C → Type} {V : Type} (A : (c : C) → R c → Prop)
    (h : Replies C R V) : Prop where
  plain : ∀ c, A c (h.plain c)
  touch : ∀ c v, A c (h.touch c v).1

/-- A program, and the record that the split call it is at has loaded. -/
structure Task (C : Type) (R : C → Type) (V : Type) where
  prog : Prog C R Unit Unit
  loaded : Option V

structure Pool (C : Type) (R : C → Type) (K P V ι : Type) where
  tasks : ι → Task C R V
  records : K → V
  holder : P → Option ι

/-- The task is scheduled, and what it asks for is answered. -/
abbrev Poll (C : Type) (R : C → Type) (V ι : Type) := ι × Replies C R V

/-- How a task ends does not concern the others. -/
def Prog.forget {C : Type} {R : C → Type} {ε α : Type} : Prog C R ε α → Prog C R Unit Unit
  | .done _ => .done (.ret ())
  | .call c k => .call c fun r => (k r).forget

namespace Prog

/-! ## Programs that lock

A program that replaces records only under the lock of their peer, and holds one lock at a
time. -/

variable {C : Type} {R : C → Type} {K P ε ε' α β : Type} (use : C → Use K P) (peer : K → P)
  (A : (c : C) → R c → Prop) (exempt : C → Prop)

/-- A call that may be made while `held` is held; some calls need no lock, and no lock is
    needed to read. -/
def Covered (held : Option P) (c : C) : Prop :=
  use c = .plain ∨ (∃ key, use c = .read key) ∨
    ∃ key, (use c = .brief key ∨ use c = .split key) ∧ (held = some (peer key) ∨ exempt c)

/-- The program locks, as long as the answers satisfy `A`, and holds `held` already. -/
def Locked : Option P → Prog C R ε α → Prop
  | held, .done _ => held = none
  | held, .call c k =>
      match use c with
      | .acquire p => held = none ∧ ∀ r, A c r → Locked (some p) (k r)
      | .release p => held = some p ∧ ∀ r, A c r → Locked none (k r)
      | _ => Covered use peer exempt held c ∧ ∀ r, A c r → Locked held (k r)

variable {use peer A exempt} {held : Option P}

/-- The rest of a program after one call is what decides, for two programs that make it. -/
theorem Locked.call_mono {c : C} {k : R c → Prog C R ε α} {k' : R c → Prog C R ε' β}
    (locked : Locked use peer A exempt held (.call c k))
    (mono : ∀ r held, Locked use peer A exempt held (k r) → Locked use peer A exempt held (k' r)) :
    Locked use peer A exempt held (.call c k') := by
  cases used : use c with
  | acquire p | release p | plain | read key | brief key | split key =>
      simp only [Locked, used] at locked ⊢
      exact ⟨locked.1, fun r allowed => mono r _ (locked.2 r allowed)⟩

theorem Locked.bind {p : Prog C R ε α} {f : α → Prog C R ε β}
    (first : Locked use peer A exempt held p) (second : ∀ a, Locked use peer A exempt none (f a)) :
    Locked use peer A exempt held (p.bind f) := by
  induction p generalizing held with
  | done x =>
      obtain rfl : held = none := first
      cases x with
      | ret a => exact second a
      | throw e => rfl
      | panic m => rfl
  | call c k ih => exact first.call_mono fun r held rest => ih r rest

theorem Locked.mapErr {p : Prog C R ε α} (g : ε → ε') (locked : Locked use peer A exempt held p) :
    Locked use peer A exempt held (p.mapErr g) := by
  induction p generalizing held with
  | done x => exact locked
  | call c k ih => exact locked.call_mono fun r held rest => ih r rest

theorem Locked.attempt {p : Prog C R ε α} (locked : Locked use peer A exempt held p) :
    Locked use peer A exempt held (p.attempt : Prog C R ε' (Except ε α)) := by
  induction p generalizing held with
  | done x => exact locked
  | call c k ih => exact locked.call_mono fun r held rest => ih r rest

theorem Locked.forget {p : Prog C R ε α} (locked : Locked use peer A exempt held p) :
    Locked use peer A exempt held p.forget := by
  induction p generalizing held with
  | done x => exact locked
  | call c k ih => exact locked.call_mono fun r held rest => ih r rest

theorem Covered.call {c : C} {k : R c → Prog C R ε α} (covered : Covered use peer exempt held c)
    (rest : ∀ r, A c r → Locked use peer A exempt held (k r)) :
    Locked use peer A exempt held (.call c k) := by
  have cases := covered
  obtain used | ⟨key, used⟩ | ⟨key, used | used, -⟩ := cases
  all_goals
    simp only [Locked, used]
    exact ⟨covered, rest⟩

/-- Calls that need no lock. -/
theorem CallsWhen.locked {p : Prog C R ε α}
    (covered : CallsWhen A (Covered use peer exempt none) p) :
    Locked use peer A exempt none p := by
  induction p with
  | done x => rfl
  | call c k ih => exact covered.1.call fun r allowed => ih r (covered.2 r allowed)

/-- Calls between the two ends of a critical section. -/
theorem CallsWhen.locked_section {p : P} {enter leave : C} (entered : use enter = .acquire p)
    (left : use leave = .release p) {body : Prog C R ε α}
    (covered : CallsWhen A (Covered use peer exempt (some p)) body) :
    Locked use peer A exempt none (.call enter fun _ => body.onExit leave) := by
  have inside : Locked use peer A exempt (some p) (body.onExit leave) := by
    induction body with
    | done x =>
        simp only [done_onExit, Locked, left, implies_true, and_self]
    | call c k ih => exact covered.1.call fun r allowed => ih r (covered.2 r allowed)
  simp only [Locked, entered, true_and]
  exact fun _ _ => inside

end Prog

namespace Pool

variable {C : Type} {R : C → Type} {K P V ι : Type} {s : Pool C R K P V ι}

/-- The two pools differ at most in the records that have been loaded. -/
structure Follows (s t : Pool C R K P V ι) : Prop where
  progs : ∀ i, (t.tasks i).prog = (s.tasks i).prog
  records : t.records = s.records
  holder : t.holder = s.holder

theorem Follows.tasks {t : Pool C R K P V ι} (follows : Follows s t) {i : ι}
    {prog : Prog C R Unit Unit} {loaded : Option V} (found : s.tasks i = ⟨prog, loaded⟩) :
    ∃ loaded', t.tasks i = ⟨prog, loaded'⟩ := by
  have same : (t.tasks i).prog = prog := (follows.progs i).trans (congrArg Task.prog found)
  exact ⟨(t.tasks i).loaded, congrArg (Task.mk · _) same⟩

section Tasks

variable [DecidableEq ι]

/-- The task goes on with `prog`. -/
def resume (s : Pool C R K P V ι) (i : ι) (prog : Prog C R Unit Unit) : Pool C R K P V ι :=
  { s with tasks := Function.update s.tasks i ⟨prog, none⟩ }

def load (s : Pool C R K P V ι) (i : ι) (v : V) : Pool C R K P V ι :=
  { s with tasks := Function.update s.tasks i ⟨(s.tasks i).prog, some v⟩ }

@[simp] theorem resume_tasks_self (i : ι) (prog : Prog C R Unit Unit) :
    (s.resume i prog).tasks i = ⟨prog, none⟩ := Function.update_self ..

theorem resume_tasks_of_ne {i j : ι} (other : j ≠ i) (prog : Prog C R Unit Unit) :
    (s.resume i prog).tasks j = s.tasks j := Function.update_of_ne other ..

@[simp] theorem resume_records (i : ι) (prog : Prog C R Unit Unit) :
    (s.resume i prog).records = s.records := rfl

@[simp] theorem resume_holder (i : ι) (prog : Prog C R Unit Unit) :
    (s.resume i prog).holder = s.holder := rfl

@[simp] theorem load_tasks_self (i : ι) (v : V) :
    (s.load i v).tasks i = ⟨(s.tasks i).prog, some v⟩ := Function.update_self ..

theorem load_tasks_of_ne {i j : ι} (other : j ≠ i) (v : V) :
    (s.load i v).tasks j = s.tasks j := Function.update_of_ne other ..

@[simp] theorem load_records (i : ι) (v : V) : (s.load i v).records = s.records := rfl

@[simp] theorem load_holder (i : ι) (v : V) : (s.load i v).holder = s.holder := rfl

theorem Follows.resume {t : Pool C R K P V ι} (follows : Follows s t) (i : ι)
    (prog : Prog C R Unit Unit) : Follows (s.resume i prog) (t.resume i prog) where
  progs j := by
    by_cases self : j = i
    · rw [self, resume_tasks_self, resume_tasks_self]
    · rw [resume_tasks_of_ne self, resume_tasks_of_ne self]
      exact follows.progs j
  records := follows.records
  holder := follows.holder

end Tasks

section Records

variable [DecidableEq K]

def store (s : Pool C R K P V ι) (key : K) : Option V → Pool C R K P V ι
  | some v => { s with records := Function.update s.records key v }
  | none => s

@[simp] theorem store_tasks (key : K) (v : Option V) : (s.store key v).tasks = s.tasks := by
  cases v <;> rfl

@[simp] theorem store_holder (key : K) (v : Option V) : (s.store key v).holder = s.holder := by
  cases v <;> rfl

theorem store_records_of_ne {key key' : K} (other : key' ≠ key) (v : Option V) :
    (s.store key v).records key' = s.records key' := by
  cases v with
  | none => rfl
  | some v => exact Function.update_of_ne other ..

theorem Follows.store {t : Pool C R K P V ι} (follows : Follows s t) (key : K) (v : Option V) :
    Follows (s.store key v) (t.store key v) := by
  cases v with
  | none => exact follows
  | some v =>
      refine ⟨follows.progs, ?_, follows.holder⟩
      exact congrArg (fun records : K → V => Function.update records key v) follows.records

end Records

section Holders

variable [DecidableEq P]

def hold (s : Pool C R K P V ι) (p : P) (i : Option ι) : Pool C R K P V ι :=
  { s with holder := Function.update s.holder p i }

@[simp] theorem hold_tasks (p : P) (i : Option ι) : (s.hold p i).tasks = s.tasks := rfl

@[simp] theorem hold_records (p : P) (i : Option ι) : (s.hold p i).records = s.records := rfl

theorem hold_holder_self (p : P) (i : Option ι) : (s.hold p i).holder p = i :=
  Function.update_self ..

theorem hold_holder_of_ne {p q : P} (other : q ≠ p) (i : Option ι) :
    (s.hold p i).holder q = s.holder q := Function.update_of_ne other ..

theorem Follows.hold {t : Pool C R K P V ι} (follows : Follows s t) (p : P) (i : Option ι) :
    Follows (s.hold p i) (t.hold p i) where
  progs := follows.progs
  records := follows.records
  holder := congrArg (fun holder : P → Option ι => Function.update holder p i) follows.holder

end Holders

/-! ## What a task is at -/

variable (use : C → Use K P) (peer : K → P)

/-- The next call of the task is `c`, which may replace the record under `key`. -/
def Touches (s : Pool C R K P V ι) (i : ι) (c : C) (key : K) : Prop :=
  ∃ k, (s.tasks i).prog = .call c k ∧ (use c = .brief key ∨ use c = .split key)

def Awaits (s : Pool C R K P V ι) (i : ι) (p : P) : Prop :=
  ∃ c k, (s.tasks i).prog = .call c k ∧ use c = .acquire p

/-- In the call `c` the task has loaded the record under `key` as `v`, and has not stored it
    yet. -/
def Midway (s : Pool C R K P V ι) (i : ι) (c : C) (key : K) (v : V) : Prop :=
  ∃ k, s.tasks i = ⟨.call c k, some v⟩ ∧ use c = .split key

/-- Nobody but `i` holds the lock of the peer or is midway in a record of it. -/
def Alone (s : Pool C R K P V ι) (i : ι) (p : P) : Prop :=
  ∀ j ≠ i, s.holder p ≠ some j ∧ ∀ c key v, Midway use s j c key v → peer key ≠ p

/-- The step is one of the call `c`, which stores a record under `key` in it. -/
def Stores (s : Pool C R K P V ι) (poll : Poll C R V ι) (c : C) (key : K) : Prop :=
  ∃ k, (s.tasks poll.1).prog = .call c k ∧
    ((use c = .brief key ∧ (poll.2.touch c (s.records key)).2 ≠ none) ∨
      (use c = .split key ∧ ∃ v, (s.tasks poll.1).loaded = some v ∧ (poll.2.touch c v).2 ≠ none))

/-- The step stores nothing for a peer that another task is midway with. -/
def Isolated (s : Pool C R K P V ι) (poll : Poll C R V ι) : Prop :=
  ∀ c key, Stores use s poll c key → ∀ j ≠ poll.1, ∀ c' key' v, Midway use s j c' key' v →
    peer key' ≠ peer key

variable {use} {poll : Poll C R V ι}

theorem Stores.touches {c : C} {key : K} (stores : Stores use s poll c key) :
    Touches use s poll.1 c key := by
  obtain ⟨k, found, ⟨used, -⟩ | ⟨used, -⟩⟩ := stores
  · exact ⟨k, found, .inl used⟩
  · exact ⟨k, found, .inr used⟩

variable {peer}

/-- The step does not come in another's way: it touches a record only alone with the peer,
    and takes no lock while somebody is midway with the peer. -/
structure Clear (use : C → Use K P) (peer : K → P) (s : Pool C R K P V ι) (i : ι) : Prop where
  touches : ∀ c key, Touches use s i c key → Alone use peer s i (peer key)
  awaits : ∀ p, Awaits use s i p → s.holder p = none →
    ∀ j ≠ i, ∀ c key v, Midway use s j c key v → peer key ≠ p

theorem Clear.isolated (clear : Clear use peer s poll.1) : Isolated use peer s poll := by
  intro c key stores j other c' key' v midway
  exact (clear.touches c key stores.touches j other).2 c' key' v midway

theorem Midway.touches {i : ι} {c : C} {key : K} {v : V} (midway : Midway use s i c key v) :
    Touches use s i c key := by
  obtain ⟨k, found, used⟩ := midway
  exact ⟨k, congrArg Task.prog found, .inr used⟩

/-- Whoever is midway is alone with the peer, and has the record as it still is. -/
structure Quiet (use : C → Use K P) (peer : K → P) (s : Pool C R K P V ι) : Prop where
  alone : ∀ i c key v, Midway use s i c key v → Alone use peer s i (peer key)
  recent : ∀ i c key v, Midway use s i c key v → s.records key = v

/-! ## Tasks that lock -/

section Locking

variable (peer) (A : (c : C) → R c → Prop) (lockless : ι → C → Prop)

/-- Every task locks, apart from the calls that it makes without a lock, and holds what it
    has locked. A task that makes all calls without a lock may do anything. -/
def Orderly (use : C → Use K P) (s : Pool C R K P V ι) : Prop :=
  ∀ i, (∀ c, lockless i c) ∨
    ∃ held, Prog.Locked use peer A (lockless i) held (s.tasks i).prog ∧
      ∀ p, s.holder p = some i ↔ held = some p

/-- Nothing that is done without a lock overlaps with what others do: a task touches a
    record without a lock only alone with the peer, and nobody takes the peer's lock while it
    is midway. -/
structure Uncontended (use : C → Use K P) (s : Pool C R K P V ι) (i : ι) : Prop where
  touches : ∀ c key, Touches use s i c key → lockless i c → Alone use peer s i (peer key)
  awaits : ∀ p, Awaits use s i p → ∀ j ≠ i, ∀ c key v, Midway use s j c key v →
    lockless j c → peer key ≠ p

variable {peer A lockless}

/-- A task that needs a lock for a call has it when it touches the record. -/
theorem Orderly.holds (orderly : Orderly peer A lockless use s) {i : ι} {c : C} {key : K}
    (touches : Touches use s i c key) (locks : ¬ lockless i c) :
    s.holder (peer key) = some i := by
  obtain ⟨k, found, used⟩ := touches
  rcases orderly i with free | ⟨held, locked, holds⟩
  · exact absurd (free c) locks
  rw [found] at locked
  have covered : Prog.Covered use peer (lockless i) held c := by
    rcases used with used | used
    · simp only [Prog.Locked, used] at locked
      exact locked.1
    · simp only [Prog.Locked, used] at locked
      exact locked.1
  obtain plain | ⟨key', read⟩ | ⟨key', used', covers⟩ := covered
  · rcases used with used | used <;> rw [plain] at used <;> cases used
  · rcases used with used | used <;> rw [read] at used <;> cases used
  · obtain rfl : key' = key := by
      rcases used with used | used <;> rcases used' with used' | used' <;>
        rw [used] at used' <;> cases used' <;> rfl
    rcases covers with covers | exempt
    · exact (holds _).mpr covers
    · exact absurd exempt locks

/-- Where tasks lock, only what is done without a lock can come in another's way. -/
theorem Orderly.clear (orderly : Orderly peer A lockless use s) (quiet : Quiet use peer s)
    {i : ι} (uncontended : Uncontended peer lockless use s i) : Clear use peer s i := by
  constructor
  · intro c key touches
    by_cases free : lockless i c
    · exact uncontended.touches c key touches free
    · have mine := orderly.holds touches free
      intro j other
      constructor
      · rw [mine]
        exact fun same => other (Option.some.inj same).symm
      · intro c' key' v midway same
        refine (quiet.alone j c' key' v midway i other.symm).1 ?_
        rw [same]
        exact mine
  · intro p awaits unheld j other c key v midway same
    by_cases free : lockless j c
    · exact uncontended.awaits p awaits j other c key v midway free same
    · have theirs := orderly.holds midway.touches free
      rw [same, unheld] at theirs
      cases theirs

/-- The pool of tasks that have not started. -/
def start (progs : ι → Prog C R Unit Unit) (records : K → V) : Pool C R K P V ι where
  tasks i := ⟨progs i, none⟩
  records := records
  holder _ := none

theorem start_quiet {progs : ι → Prog C R Unit Unit} {records : K → V} :
    Quiet use peer (start progs records) := by
  constructor <;>
  · rintro i c key v ⟨k, found, -⟩
    cases congrArg Task.loaded found

theorem start_orderly {progs : ι → Prog C R Unit Unit} {records : K → V}
    (lock : ∀ i, (∀ c, lockless i c) ∨ Prog.Locked use peer A (lockless i) none (progs i)) :
    Orderly peer A lockless use (start progs records) := by
  intro i
  rcases lock i with free | locked
  · exact .inl free
  · refine .inr ⟨none, locked, fun p => ?_⟩
    simp [start]

end Locking

section Steps

/-! ## Steps and runs -/

variable [DecidableEq K] [DecidableEq P] [DecidableEq ι] (use)

/-- One task goes on by one step. A task that waits for a lock which is taken stays where
    it is. -/
def step (s : Pool C R K P V ι) (poll : Poll C R V ι) : Pool C R K P V ι :=
  match s.tasks poll.1 with
  | ⟨.done _, _⟩ => s
  | ⟨.call c k, loaded⟩ =>
      match use c with
      | .plain => s.resume poll.1 (k (poll.2.plain c))
      | .acquire p =>
          if s.holder p = none then
            (s.resume poll.1 (k (poll.2.plain c))).hold p (some poll.1)
          else s
      | .release p =>
          if s.holder p = some poll.1 then
            (s.resume poll.1 (k (poll.2.plain c))).hold p none
          else s.resume poll.1 (k (poll.2.plain c))
      | .read key => s.resume poll.1 (k (poll.2.touch c (s.records key)).1)
      | .brief key =>
          (s.resume poll.1 (k (poll.2.touch c (s.records key)).1)).store key
            (poll.2.touch c (s.records key)).2
      | .split key =>
          match loaded with
          | none => s.load poll.1 (s.records key)
          | some v => (s.resume poll.1 (k (poll.2.touch c v).1)).store key (poll.2.touch c v).2

def run (s : Pool C R K P V ι) (polls : List (Poll C R V ι)) : Pool C R K P V ι :=
  polls.foldl (step use) s

/-- The uses of a run in which no call is interrupted. -/
def serial (c : C) : Use K P :=
  match use c with
  | .split key => .brief key
  | u => u

/-- A property of every step of a run, in the state it is taken in. -/
def Throughout (Q : Pool C R K P V ι → Poll C R V ι → Prop) (s : Pool C R K P V ι) :
    List (Poll C R V ι) → Prop
  | [] => True
  | poll :: polls => Q s poll ∧ Throughout Q (step use s poll) polls

/-! ## What a step does -/

/-- Everything a step can do, with what it has found. -/
inductive Stepped (s : Pool C R K P V ι) (poll : Poll C R V ι) : Pool C R K P V ι → Prop where
  | ended {x loaded} (found : s.tasks poll.1 = ⟨.done x, loaded⟩) : Stepped s poll s
  | plain {c k loaded} (found : s.tasks poll.1 = ⟨.call c k, loaded⟩) (used : use c = .plain) :
      Stepped s poll (s.resume poll.1 (k (poll.2.plain c)))
  | acquire {c k loaded p} (found : s.tasks poll.1 = ⟨.call c k, loaded⟩)
      (used : use c = .acquire p) (free : s.holder p = none) :
      Stepped s poll ((s.resume poll.1 (k (poll.2.plain c))).hold p (some poll.1))
  | waits {c k loaded p} (found : s.tasks poll.1 = ⟨.call c k, loaded⟩)
      (used : use c = .acquire p) (taken : s.holder p ≠ none) : Stepped s poll s
  | release {c k loaded p} (found : s.tasks poll.1 = ⟨.call c k, loaded⟩)
      (used : use c = .release p) (held : s.holder p = some poll.1) :
      Stepped s poll ((s.resume poll.1 (k (poll.2.plain c))).hold p none)
  | forgo {c k loaded p} (found : s.tasks poll.1 = ⟨.call c k, loaded⟩)
      (used : use c = .release p) (other : s.holder p ≠ some poll.1) :
      Stepped s poll (s.resume poll.1 (k (poll.2.plain c)))
  | read {c k loaded key} (found : s.tasks poll.1 = ⟨.call c k, loaded⟩)
      (used : use c = .read key) :
      Stepped s poll (s.resume poll.1 (k (poll.2.touch c (s.records key)).1))
  | brief {c k loaded key} (found : s.tasks poll.1 = ⟨.call c k, loaded⟩)
      (used : use c = .brief key) :
      Stepped s poll ((s.resume poll.1 (k (poll.2.touch c (s.records key)).1)).store key
        (poll.2.touch c (s.records key)).2)
  | load {c k key} (found : s.tasks poll.1 = ⟨.call c k, none⟩) (used : use c = .split key) :
      Stepped s poll (s.load poll.1 (s.records key))
  | finish {c k key v} (found : s.tasks poll.1 = ⟨.call c k, some v⟩)
      (used : use c = .split key) :
      Stepped s poll ((s.resume poll.1 (k (poll.2.touch c v).1)).store key (poll.2.touch c v).2)

variable {use} {s' : Pool C R K P V ι}

theorem step_stepped : Stepped use s poll (step use s poll) := by
  unfold step
  split
  · next found => exact .ended found
  · next c k loaded found =>
      split
      · next used => exact .plain found used
      · next p used =>
          split
          · next free => exact .acquire found used free
          · next taken => exact .waits found used taken
      · next p used =>
          split
          · next held => exact .release found used held
          · next other => exact .forgo found used other
      · next key used => exact .read found used
      · next key used => exact .brief found used
      · next key used =>
          split
          · next => exact .load found used
          · next => exact .finish found used

/-- The other tasks stay where they are. -/
theorem Stepped.tasks_of_ne (stepped : Stepped use s poll s') {j : ι} (other : j ≠ poll.1) :
    s'.tasks j = s.tasks j := by
  cases stepped with
  | ended | waits => rfl
  | plain | acquire | release | forgo | read => exact resume_tasks_of_ne other _
  | brief | finish =>
      rw [store_tasks]
      exact resume_tasks_of_ne other _
  | load => exact load_tasks_of_ne other _

theorem Stepped.midway_of_ne (stepped : Stepped use s poll s') {j : ι} (other : j ≠ poll.1)
    {c : C} {key : K} {v : V} : Midway use s' j c key v ↔ Midway use s j c key v := by
  unfold Midway
  rw [stepped.tasks_of_ne other]

/-- A task is midway after its step only when it has loaded a record in it. -/
theorem Stepped.midway_self (stepped : Stepped use s poll s') {c : C} {key : K} {v : V}
    (midway : Midway use s' poll.1 c key v) :
    Touches use s poll.1 c key ∧ v = s.records key ∧ s' = s.load poll.1 v := by
  obtain ⟨k', found', used'⟩ := midway
  cases stepped with
  | ended found =>
      rw [found] at found'
      cases found'
  | waits found used =>
      rw [found] at found'
      cases found'
      rw [used] at used'
      cases used'
  | plain | acquire | release | forgo | read => simp at found'
  | brief | finish => simp at found'
  | load found used =>
      rw [load_tasks_self, found] at found'
      cases found'
      rw [used] at used'
      cases used'
      exact ⟨⟨_, congrArg Task.prog found, .inr used⟩, rfl, rfl⟩

/-- A record changes only where the step touches it. -/
theorem Stepped.records_of_not_touches (stepped : Stepped use s poll s') {key : K}
    (elsewhere : ∀ c key', Touches use s poll.1 c key' → key ≠ key') :
    s'.records key = s.records key := by
  cases stepped with
  | ended | waits | plain | acquire | release | forgo | read | load => rfl
  | brief found used =>
      exact store_records_of_ne (elsewhere _ _ ⟨_, congrArg Task.prog found, .inl used⟩) _
  | finish found used =>
      exact store_records_of_ne (elsewhere _ _ ⟨_, congrArg Task.prog found, .inr used⟩) _

/-- A task gets a lock only by taking it while it is free. -/
theorem Stepped.holder_cases (stepped : Stepped use s poll s') (p : P) :
    s'.holder p = s.holder p ∨ (s.holder p = some poll.1 ∧ s'.holder p = none) ∨
      (Awaits use s poll.1 p ∧ s.holder p = none ∧ s'.holder p = some poll.1) := by
  cases stepped with
  | ended | waits | plain | forgo | read | load => exact .inl rfl
  | brief | finish =>
      left
      rw [store_holder, resume_holder]
  | @acquire c k loaded q found used free =>
      by_cases same : p = q
      · right; right
        rw [same]
        exact ⟨⟨_, _, congrArg Task.prog found, used⟩, free, hold_holder_self _ _⟩
      · exact .inl (hold_holder_of_ne same _)
  | @release c k loaded q found used held =>
      by_cases same : p = q
      · right; left
        rw [same]
        exact ⟨held, hold_holder_self _ _⟩
      · exact .inl (hold_holder_of_ne same _)

/-! ## Runs without interference -/

theorem Quiet.step (quiet : Quiet use peer s) (clear : Clear use peer s poll.1) :
    Quiet use peer (step use s poll) := by
  have stepped : Stepped use s poll (Pool.step use s poll) := step_stepped
  generalize Pool.step use s poll = s' at stepped
  constructor
  · intro i c key v midway j other
    by_cases self : i = poll.1
    · -- the record has just been loaded
      subst self
      obtain ⟨touches, rfl, rfl⟩ := stepped.midway_self midway
      obtain ⟨free, apart⟩ := clear.touches c key touches j other
      refine ⟨free, fun c' key' v' midway' => ?_⟩
      exact apart c' key' v' ((stepped.midway_of_ne other).mp midway')
    · have before := (stepped.midway_of_ne self).mp midway
      obtain ⟨free, apart⟩ := quiet.alone i c key v before j other
      constructor
      · rcases stepped.holder_cases (peer key) with same | ⟨-, none⟩ | ⟨awaits, none, -⟩
        · rw [same]
          exact free
        · rw [none]
          exact Option.some_ne_none j |>.symm
        · exact absurd rfl (clear.awaits _ awaits none i self c key v before)
      · intro c' key' v' midway'
        by_cases polled : j = poll.1
        · subst polled
          obtain ⟨touches, -, -⟩ := stepped.midway_self midway'
          exact ((clear.touches c' key' touches i self).2 c key v before).symm
        · exact apart c' key' v' ((stepped.midway_of_ne polled).mp midway')
  · intro i c key v midway
    by_cases self : i = poll.1
    · subst self
      obtain ⟨-, rfl, rfl⟩ := stepped.midway_self midway
      rfl
    · have before := (stepped.midway_of_ne self).mp midway
      rw [stepped.records_of_not_touches, quiet.recent i c key v before]
      rintro c' key' touches rfl
      exact (clear.touches c' key touches i self).2 c key v before rfl

/-! ## Serial runs -/

/-- A serial run does the same in the same step, except where a record is only loaded. -/
theorem Follows.step {t : Pool C R K P V ι} (follows : Follows s t) (quiet : Quiet use peer s) :
    Follows (step use s poll) t ∨ Follows (step use s poll) (step (serial use) t poll) := by
  have stepped : Stepped use s poll (Pool.step use s poll) := step_stepped
  generalize Pool.step use s poll = s' at stepped
  cases stepped with
  | ended found => exact .inl follows
  | waits found used taken => exact .inl follows
  | load found used =>
      left
      refine ⟨fun i => ?_, follows.records, follows.holder⟩
      by_cases self : i = poll.1
      · rw [self, load_tasks_self]
        exact follows.progs poll.1
      · rw [load_tasks_of_ne self]
        exact follows.progs i
  | plain found used =>
      right
      obtain ⟨loaded', found'⟩ := follows.tasks found
      simp only [Pool.step, found', serial, used]
      exact follows.resume _ _
  | forgo found used other =>
      right
      obtain ⟨loaded', found'⟩ := follows.tasks found
      simp only [Pool.step, found', serial, used, follows.holder, other, if_false]
      exact follows.resume _ _
  | acquire found used free =>
      right
      obtain ⟨loaded', found'⟩ := follows.tasks found
      simp only [Pool.step, found', serial, used, follows.holder, free, if_true]
      exact (follows.resume _ _).hold _ _
  | release found used held =>
      right
      obtain ⟨loaded', found'⟩ := follows.tasks found
      simp only [Pool.step, found', serial, used, follows.holder, held, if_true]
      exact (follows.resume _ _).hold _ _
  | read found used =>
      right
      obtain ⟨loaded', found'⟩ := follows.tasks found
      simp only [Pool.step, found', serial, used, follows.records]
      exact follows.resume _ _
  | brief found used =>
      right
      obtain ⟨loaded', found'⟩ := follows.tasks found
      simp only [Pool.step, found', serial, used, follows.records]
      exact (follows.resume _ _).store _ _
  | finish found used =>
      right
      obtain ⟨loaded', found'⟩ := follows.tasks found
      -- what was loaded is what the serial run finds now
      have recent := quiet.recent _ _ _ _ ⟨_, found, used⟩
      simp only [Pool.step, found', serial, used, follows.records, recent]
      exact (follows.resume _ _).store _ _

/-- A run whose steps are clear is isolated, and leaves what a serial run leaves, of the
    same steps in the same order without those that only load. -/
theorem run_quiet {polls : List (Poll C R V ι)} (quiet : Quiet use peer s)
    (clear : Throughout use (fun s poll => Clear use peer s poll.1) s polls)
    {t : Pool C R K P V ι} (follows : Follows s t) :
    Throughout use (Isolated use peer) s polls ∧
      ∃ order, order.Sublist polls ∧ Follows (run use s polls) (run (serial use) t order) := by
  induction polls generalizing s t with
  | nil => exact ⟨trivial, [], .slnil, follows⟩
  | cons poll polls ih =>
      obtain ⟨first, rest⟩ := clear
      have quiet' := quiet.step first
      have followed : Follows (step use s poll) t ∨
          Follows (step use s poll) (step (serial use) t poll) := follows.step quiet
      rcases followed with same | both
      · obtain ⟨isolated, order, sublist, ends⟩ := ih quiet' rest same
        exact ⟨⟨first.isolated, isolated⟩, order, sublist.cons poll, ends⟩
      · obtain ⟨isolated, order, sublist, ends⟩ := ih quiet' rest both
        exact ⟨⟨first.isolated, isolated⟩, poll :: order, sublist.cons_cons poll, ends⟩

/-! ## Runs of tasks that lock -/

section Locking

variable {A : (c : C) → R c → Prop} {lockless : ι → C → Prop}

/-- A step of a task that locks, and what it holds afterwards. -/
theorem Stepped.locked (stepped : Stepped use s poll s') {exempt : C → Prop} {held : Option P}
    (answered : poll.2.Satisfy A)
    (locked : Prog.Locked use peer A exempt held (s.tasks poll.1).prog)
    (holds : ∀ p, s.holder p = some poll.1 ↔ held = some p) :
    ∃ held', Prog.Locked use peer A exempt held' (s'.tasks poll.1).prog ∧
      ∀ p, s'.holder p = some poll.1 ↔ held' = some p := by
  cases stepped with
  | ended found | waits found => exact ⟨held, locked, holds⟩
  | load found used =>
      refine ⟨held, ?_, holds⟩
      rw [load_tasks_self]
      exact locked
  | plain found used =>
      simp only [found, Prog.Locked, used] at locked
      refine ⟨held, ?_, holds⟩
      rw [resume_tasks_self]
      exact locked.2 _ (answered.plain _)
  | read found used =>
      simp only [found, Prog.Locked, used] at locked
      refine ⟨held, ?_, holds⟩
      rw [resume_tasks_self]
      exact locked.2 _ (answered.touch _ _)
  | brief found used =>
      simp only [found, Prog.Locked, used] at locked
      refine ⟨held, ?_, ?_⟩
      · rw [store_tasks, resume_tasks_self]
        exact locked.2 _ (answered.touch _ _)
      · rw [store_holder]
        exact holds
  | finish found used =>
      simp only [found, Prog.Locked, used] at locked
      refine ⟨held, ?_, ?_⟩
      · rw [store_tasks, resume_tasks_self]
        exact locked.2 _ (answered.touch _ _)
      · rw [store_holder]
        exact holds
  | @acquire c k loaded q found used free =>
      simp only [found, Prog.Locked, used] at locked
      obtain ⟨rfl, rest⟩ := locked
      refine ⟨some q, ?_, fun p => ?_⟩
      · rw [hold_tasks, resume_tasks_self]
        exact rest _ (answered.plain _)
      · by_cases same : p = q
        · rw [same, hold_holder_self]
          simp
        · rw [hold_holder_of_ne same, resume_holder, holds p]
          simp [Ne.symm same]
  | @release c k loaded q found used mine =>
      simp only [found, Prog.Locked, used] at locked
      obtain ⟨rfl, rest⟩ := locked
      refine ⟨none, ?_, fun p => ?_⟩
      · rw [hold_tasks, resume_tasks_self]
        exact rest _ (answered.plain _)
      · by_cases same : p = q
        · rw [same, hold_holder_self]
          simp
        · rw [hold_holder_of_ne same, resume_holder, holds p]
          simp [Ne.symm same]
  | forgo found used other =>
      simp only [found, Prog.Locked, used] at locked
      exact absurd ((holds _).mpr locked.1) other

theorem Orderly.step (orderly : Orderly peer A lockless use s) (answered : poll.2.Satisfy A) :
    Orderly peer A lockless use (step use s poll) := by
  have stepped : Stepped use s poll (Pool.step use s poll) := step_stepped
  generalize Pool.step use s poll = s' at stepped
  intro i
  rcases orderly i with free | ⟨held, locked, holds⟩
  · exact .inl free
  right
  by_cases self : i = poll.1
  · subst self
    exact stepped.locked answered locked holds
  · refine ⟨held, ?_, fun p => ?_⟩
    · rw [stepped.tasks_of_ne self]
      exact locked
    · rw [← holds p]
      rcases stepped.holder_cases p with same | ⟨before, after⟩ | ⟨-, before, after⟩
      · rw [same]
      · simp [before, after, Ne.symm self]
      · simp [before, after, Ne.symm self]

theorem Orderly.clear_throughout {polls : List (Poll C R V ι)}
    (orderly : Orderly peer A lockless use s) (quiet : Quiet use peer s)
    (answered : ∀ poll ∈ polls, poll.2.Satisfy A)
    (uncontended : Throughout use (fun s poll => Uncontended peer lockless use s poll.1) s polls) :
    Throughout use (fun s poll => Clear use peer s poll.1) s polls := by
  induction polls generalizing s with
  | nil => trivial
  | cons poll polls ih =>
      have clear := orderly.clear quiet uncontended.1
      refine ⟨clear, ih (orderly.step (answered poll List.mem_cons_self)) (quiet.step clear) ?_
        uncontended.2⟩
      intro poll' member
      exact answered poll' (List.mem_cons_of_mem poll member)

/-- A run of tasks that lock, in which nothing is contended that is done without a lock, is
    isolated and leaves the records of a serial run. -/
theorem run_locked {progs : ι → Prog C R Unit Unit} {records : K → V}
    {polls : List (Poll C R V ι)}
    (lock : ∀ i, (∀ c, lockless i c) ∨ Prog.Locked use peer A (lockless i) none (progs i))
    (answered : ∀ poll ∈ polls, poll.2.Satisfy A)
    (uncontended : Throughout use (fun s poll => Uncontended peer lockless use s poll.1)
      (start progs records) polls) :
    Throughout use (Isolated use peer) (start progs records) polls ∧
      ∃ order, order.Sublist polls ∧
        (run (serial use) (start progs records) order).records =
          (run use (start progs records) polls).records := by
  have clear := (start_orderly lock).clear_throughout start_quiet answered uncontended
  obtain ⟨isolated, order, sublist, follows⟩ :=
    run_quiet start_quiet clear ⟨fun _ => rfl, rfl, rfl⟩
  exact ⟨isolated, order, sublist, follows.records⟩

end Locking

end Steps

/-! ## Deciding what holds of a pool -/

section Decide

variable (use : C → Use K P) (peer : K → P)

/-- The call the task is at. -/
def at_ (s : Pool C R K P V ι) (i : ι) : Option C :=
  match (s.tasks i).prog with
  | .call c _ => some c
  | .done _ => none

def touched : Use K P → Option K
  | .brief key | .split key => some key
  | _ => none

def taken : Use K P → Option P
  | .acquire p => some p
  | _ => none

def splits : Use K P → Option K
  | .split key => some key
  | _ => none

/-- The call that the task is midway in, with its key. -/
def midway (s : Pool C R K P V ι) (i : ι) : Option (C × K) :=
  match (s.tasks i).loaded, s.at_ i with
  | some _, some c => (splits (use c)).map (c, ·)
  | _, _ => none

/-- The key that a step stores a record under. -/
def stored (s : Pool C R K P V ι) (poll : Poll C R V ι) : Option (C × K) :=
  match s.at_ poll.1 with
  | none => none
  | some c =>
      match use c, (s.tasks poll.1).loaded with
      | .brief key, _ => (poll.2.touch c (s.records key)).2.map fun _ => (c, key)
      | .split key, some v => (poll.2.touch c v).2.map fun _ => (c, key)
      | _, _ => none

variable {use peer} {i : ι} {c : C} {key : K}

theorem at_eq_some : s.at_ i = some c ↔ ∃ k, (s.tasks i).prog = .call c k := by
  unfold at_
  split
  · next c' k found =>
      rw [found]
      constructor
      · rintro ⟨⟩
        exact ⟨k, rfl⟩
      · rintro ⟨k', same⟩
        cases same
        rfl
  · next found => simp [found]

theorem touched_eq_some {u : Use K P} : touched u = some key ↔ u = .brief key ∨ u = .split key := by
  cases u <;> simp [touched]

theorem touches_iff : Touches use s i c key ↔ s.at_ i = some c ∧ touched (use c) = some key := by
  rw [at_eq_some, touched_eq_some]
  exact ⟨fun ⟨k, found, used⟩ => ⟨⟨k, found⟩, used⟩, fun ⟨⟨k, found⟩, used⟩ => ⟨k, found, used⟩⟩

theorem awaits_iff {p : P} : Awaits use s i p ↔ ∃ c ∈ s.at_ i, taken (use c) = some p := by
  have same (c : C) : taken (use c) = some p ↔ use c = .acquire p := by
    cases use c <;> simp [taken]
  constructor
  · rintro ⟨c, k, found, used⟩
    exact ⟨c, at_eq_some.mpr ⟨k, found⟩, (same c).mpr used⟩
  · rintro ⟨c, found, used⟩
    obtain ⟨k, found⟩ := at_eq_some.mp found
    exact ⟨c, k, found, (same c).mp used⟩

theorem midway_iff : (∃ v, Midway use s i c key v) ↔ s.midway use i = some (c, key) := by
  have same : splits (use c) = some key ↔ use c = .split key := by
    cases use c <;> simp [splits]
  constructor
  · rintro ⟨v, k, found, used⟩
    have here : s.at_ i = some c := at_eq_some.mpr ⟨k, congrArg Task.prog found⟩
    simp [midway, here, found, same.mpr used]
  · intro found
    unfold midway at found
    split at found
    · next v c' loaded here =>
        obtain ⟨key', used, ends⟩ := Option.map_eq_some_iff.mp found
        cases ends
        obtain ⟨k, found⟩ := at_eq_some.mp here
        exact ⟨v, k, congrArg₂ Task.mk found loaded, same.mp used⟩
    · cases found

theorem stores_iff : Stores use s poll c key ↔ s.stored use poll = some (c, key) := by
  constructor
  · rintro ⟨k, found, ⟨used, stores⟩ | ⟨used, v, loaded, stores⟩⟩
    · have here : s.at_ poll.1 = some c := at_eq_some.mpr ⟨k, found⟩
      obtain ⟨v, stores⟩ := Option.ne_none_iff_exists'.mp stores
      simp [stored, here, used, stores]
    · have here : s.at_ poll.1 = some c := at_eq_some.mpr ⟨k, found⟩
      obtain ⟨w, stores⟩ := Option.ne_none_iff_exists'.mp stores
      simp [stored, here, used, loaded, stores]
  · intro found
    unfold stored at found
    split at found
    · cases found
    · next c' here =>
        obtain ⟨k, here⟩ := at_eq_some.mp here
        split at found
        · next used =>
            obtain ⟨w, stores, ends⟩ := Option.map_eq_some_iff.mp found
            cases ends
            exact ⟨k, here, .inl ⟨used, by simp [stores]⟩⟩
        · next v used loaded =>
            obtain ⟨w, stores, ends⟩ := Option.map_eq_some_iff.mp found
            cases ends
            exact ⟨k, here, .inr ⟨used, v, loaded, by simp [stores]⟩⟩
        · cases found

theorem alone_iff {p : P} : Alone use peer s i p ↔
    ∀ j, j ≠ i → s.holder p ≠ some j ∧ ∀ ck ∈ s.midway use j, peer ck.2 ≠ p := by
  refine forall₂_congr fun j other => and_congr_right fun _ => ?_
  constructor
  · rintro apart ⟨c, key⟩ found
    obtain ⟨v, midway⟩ := midway_iff.mpr found
    exact apart c key v midway
  · intro apart c key v midway
    exact apart (c, key) (midway_iff.mp ⟨v, midway⟩)

theorem isolated_iff : Isolated use peer s poll ↔
    ∀ ck ∈ s.stored use poll, ∀ j, j ≠ poll.1 → ∀ ck' ∈ s.midway use j,
      peer ck'.2 ≠ peer ck.2 := by
  constructor
  · rintro isolated ⟨c, key⟩ stores j other ⟨c', key'⟩ found
    obtain ⟨v, midway⟩ := midway_iff.mpr found
    exact isolated c key (stores_iff.mpr stores) j other c' key' v midway
  · intro isolated c key stores j other c' key' v midway
    exact isolated (c, key) (stores_iff.mp stores) j other (c', key') (midway_iff.mp ⟨v, midway⟩)

theorem uncontended_iff {lockless : ι → C → Prop} :
    Uncontended peer lockless use s i ↔
      (∀ c ∈ s.at_ i, ∀ key ∈ touched (use c), lockless i c →
        ∀ j, j ≠ i → s.holder (peer key) ≠ some j ∧
          ∀ ck ∈ s.midway use j, peer ck.2 ≠ peer key) ∧
      (∀ c ∈ s.at_ i, ∀ p ∈ taken (use c), ∀ j, j ≠ i → ∀ ck ∈ s.midway use j,
        lockless j ck.1 → peer ck.2 ≠ p) := by
  constructor
  · intro uncontended
    constructor
    · intro c here key touches free
      exact alone_iff.mp (uncontended.touches c key (touches_iff.mpr ⟨here, touches⟩) free)
    · rintro c here p takes j other ⟨c', key'⟩ found free
      obtain ⟨v, midway⟩ := midway_iff.mpr found
      exact uncontended.awaits p (awaits_iff.mpr ⟨c, here, takes⟩) j other c' key' v midway free
  · rintro ⟨touches, awaits⟩
    constructor
    · intro c key touch free
      obtain ⟨here, used⟩ := touches_iff.mp touch
      exact alone_iff.mpr (touches c here key used free)
    · intro p await j other c' key' v midway free
      obtain ⟨c, here, takes⟩ := awaits_iff.mp await
      exact awaits c here p takes j other (c', key') (midway_iff.mp ⟨v, midway⟩) free

variable [Fintype ι] [DecidableEq ι] [DecidableEq P]

instance : Decidable (Isolated use peer s poll) := decidable_of_iff' _ isolated_iff

instance {lockless : ι → C → Prop} [∀ i, DecidablePred (lockless i)] :
    Decidable (Uncontended peer lockless use s i) := decidable_of_iff' _ uncontended_iff

instance decidableThroughout [DecidableEq K] {Q : Pool C R K P V ι → Poll C R V ι → Prop}
    [decidable : ∀ s poll, Decidable (Q s poll)] :
    (s : Pool C R K P V ι) → (polls : List (Poll C R V ι)) → Decidable (Throughout use Q s polls)
  | _, [] => inferInstanceAs (Decidable True)
  | s, poll :: polls =>
      @instDecidableAnd _ _ (decidable s poll) (decidableThroughout (step use s poll) polls)

end Decide

end Pool

end SignalService.Effect

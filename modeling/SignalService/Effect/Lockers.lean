import SignalService.Effect.Mutexes
import SignalService.Effect.Pool

/-! # Tasks that lock

Any number of tasks run programs that take and leave locks, each with the set of locks that it was
given. A task can be dropped at any time, and then drops all it has. Tasks that hold one lock at a
time never wait for each other in a circle.
-/

namespace SignalService.Effect

/-- A task is polled, and what it asks for is answered; or it is dropped. -/
inductive Turn (C : Type) (R : C → Type) (ι : Type) where
  | poll (i : ι) (reply : (c : C) → R c)
  | abort (i : ι)

/-- The task whose turn it is. -/
def Turn.task {C : Type} {R : C → Type} {ι : Type} : Turn C R ι → ι
  | .poll i _ | .abort i => i

structure Lockers (C : Type) (R : C → Type) (P H ι : Type) where
  progs : ι → Prog C R Unit Unit
  tables : H → Mutexes P ι

namespace Lockers

variable {C : Type} {R : C → Type} {K P H ι : Type}

/-- The tasks before their first turn, with locks that nobody has used. -/
def start (progs : ι → Prog C R Unit Unit) : Lockers C R P H ι := ⟨progs, fun _ => .empty⟩

/-- Every set of locks is sound. -/
def Sound (s : Lockers C R P H ι) : Prop := ∀ h, (s.tables h).Sound

theorem sound_start {progs : ι → Prog C R Unit Unit} :
    (start progs : Lockers C R P H ι).Sound :=
  fun _ => Mutexes.sound_empty

section Resume

variable [DecidableEq ι] {s : Lockers C R P H ι} {i j : ι}

def resume (s : Lockers C R P H ι) (i : ι) (prog : Prog C R Unit Unit) : Lockers C R P H ι :=
  { s with progs := Function.update s.progs i prog }

@[simp] theorem resume_tables (prog : Prog C R Unit Unit) : (s.resume i prog).tables = s.tables :=
  rfl

@[simp] theorem resume_progs_self (prog : Prog C R Unit Unit) : (s.resume i prog).progs i = prog :=
  Function.update_self ..

theorem resume_progs_of_ne (other : j ≠ i) (prog : Prog C R Unit Unit) :
    (s.resume i prog).progs j = s.progs j := Function.update_of_ne other ..

end Resume

section Tables

variable [DecidableEq H] {s : Lockers C R P H ι} {h h' : H}

def setTable (s : Lockers C R P H ι) (h : H) (table : Mutexes P ι) : Lockers C R P H ι :=
  { s with tables := Function.update s.tables h table }

@[simp] theorem setTable_progs (table : Mutexes P ι) : (s.setTable h table).progs = s.progs := rfl

@[simp] theorem setTable_tables_self (table : Mutexes P ι) :
    (s.setTable h table).tables h = table := Function.update_self ..

theorem setTable_tables_of_ne (other : h' ≠ h) (table : Mutexes P ι) :
    (s.setTable h table).tables h' = s.tables h' := Function.update_of_ne other ..

theorem setTable_tables (s : Lockers C R P H ι) (h h' : H) (table : Mutexes P ι) :
    (h' = h ∧ (s.setTable h table).tables h' = table) ∨
      (h' ≠ h ∧ (s.setTable h table).tables h' = s.tables h') := by
  by_cases same : h' = h
  · subst same
    exact .inl ⟨rfl, setTable_tables_self table⟩
  · exact .inr ⟨same, setTable_tables_of_ne same table⟩

theorem Sound.setTable (sound : s.Sound) {table : Mutexes P ι} (replaced : table.Sound) :
    (s.setTable h table).Sound := by
  intro h'
  rcases setTable_tables s h h' table with ⟨-, found⟩ | ⟨-, found⟩
  · rw [found]
    exact replaced
  · rw [found]
    exact sound h'

end Tables

/-! ## One lock at a time -/

section Waiting

/-- The task is at a call that takes a lock. -/
def Requests (use : C → Use K P) (s : Lockers C R P H ι) (i : ι) (key : P) : Prop :=
  ∃ c k, s.progs i = .call c k ∧ use c = .acquire key

/-- The task has a guard. -/
def Holds (s : Lockers C R P H ι) (i : ι) : Prop :=
  ∃ h, ∃ guard ∈ (s.tables h).guards, guard.owner = i

variable {use : C → Use K P} {handle : ι → H} {peer : K → P} {exempt : C → Prop}
  {s : Lockers C R P H ι} {i j : ι}

/-- The task holds what its program has locked, and is in a call of the locks only where its
    program is. -/
structure Tidy (use : C → Use K P) (handle : ι → H) (peer : K → P) (exempt : C → Prop)
    (s : Lockers C R P H ι) (i : ι) : Prop where
  one : ∃ held, Prog.Locked use peer (fun _ _ => True) exempt held (s.progs i) ∧
    ∀ h, ∀ guard ∈ (s.tables h).guards, guard.owner = i → h = handle i ∧ held = some guard.key
  begun : ∀ h key, ((s.tables h).stage i).key? = some key →
    h = handle i ∧ Requests use s i key

theorem Tidy.not_holds {key : P} (tidy : Tidy use handle peer exempt s i)
    (requests : Requests use s i key) : ¬ s.Holds i := by
  rintro ⟨h, guard, live, mine⟩
  obtain ⟨held, locked, holds⟩ := tidy.one
  obtain ⟨c, k, found, used⟩ := requests
  simp only [found, Prog.Locked, used] at locked
  have some_held := (holds h guard live mine).2
  rw [locked.1] at some_held
  cases some_held

/-- A turn leaves the other tasks where they are, and gives them no guard. -/
structure Others (s s' : Lockers C R P H ι) (i : ι) : Prop where
  progs : ∀ j ≠ i, s'.progs j = s.progs j
  stages : ∀ h, ∀ j ≠ i, (s'.tables h).stage j = (s.tables h).stage j
  guards : ∀ h, ∀ guard ∈ (s'.tables h).guards, guard.owner ≠ i → guard ∈ (s.tables h).guards

theorem Tidy.other {s' : Lockers C R P H ι} (tidy : Tidy use handle peer exempt s j)
    (others : Others s s' i) (other : j ≠ i) : Tidy use handle peer exempt s' j := by
  obtain ⟨held, locked, holds⟩ := tidy.one
  constructor
  · refine ⟨held, ?_, fun h guard live mine => ?_⟩
    · rw [others.progs j other]
      exact locked
    · refine holds h guard (others.guards h guard live ?_) mine
      rwa [mine]
  · intro h key begun
    rw [others.stages h j other] at begun
    obtain ⟨same, requests⟩ := tidy.begun h key begun
    refine ⟨same, ?_⟩
    unfold Requests
    rw [others.progs j other]
    exact requests

/-- A task that is at no call for a lock is in none. -/
theorem Tidy.not_begun {c : C} {k : R c → Prog C R Unit Unit}
    (tidy : Tidy use handle peer exempt s i) (found : s.progs i = .call c k)
    (plain : ∀ key, use c ≠ .acquire key) (h : H) (key : P) :
    ((s.tables h).stage i).key? ≠ some key := by
  intro begun
  obtain ⟨-, c', k', found', used⟩ := tidy.begun h key begun
  rw [found] at found'
  cases found'
  exact plain key used

/-- A task waits for the one that has the map, if that is what it wants next, and in the line of a
    mutex for whoever has its guard and for those who stand before it. -/
inductive WaitsFor [DecidableEq ι] (use : C → Use K P) (handle : ι → H) (s : Lockers C R P H ι)
    (i : ι) : ι → Prop where
  | map {key : P} {j : ι} (requests : Requests use s i key)
      (away : (s.tables (handle i)).stage i = .away)
      (inside : (s.tables (handle i)).inside = some j) : WaitsFor use handle s i j
  | guard {key : P} {guard : Guard P ι} (live : guard ∈ (s.tables (handle i)).guards)
      (queued : (s.tables (handle i)).stage i = .queued key guard.mutex) :
      WaitsFor use handle s i guard.owner
  | line {key : P} {mutex : Nat} {j : ι}
      (queued : (s.tables (handle i)).stage i = .queued key mutex)
      (ahead : ((s.tables (handle i)).queue mutex).idxOf j <
        ((s.tables (handle i)).queue mutex).idxOf i) : WaitsFor use handle s i j

section

variable [DecidableEq ι]

theorem WaitsFor.requests (tidy : ∀ i, Tidy use handle peer exempt s i)
    (waits : WaitsFor use handle s i j) : ∃ key, Requests use s i key := by
  cases waits with
  | map requests => exact ⟨_, requests⟩
  | guard live queued => exact ⟨_, ((tidy i).begun _ _ (by rw [queued]; rfl)).2⟩
  | line queued => exact ⟨_, ((tidy i).begun _ _ (by rw [queued]; rfl)).2⟩

/-- The two are in one line, `j` before `i`. -/
def Before (handle : ι → H) (s : Lockers C R P H ι) (j i : ι) : Prop :=
  handle j = handle i ∧ ∃ mutex key key', (s.tables (handle i)).stage i = .queued key mutex ∧
    (s.tables (handle i)).stage j = .queued key' mutex ∧
    ((s.tables (handle i)).queue mutex).idxOf j < ((s.tables (handle i)).queue mutex).idxOf i

theorem Before.trans {k : ι} (first : Before handle s k j) (second : Before handle s j i) :
    Before handle s k i := by
  obtain ⟨same, mutex, key, key', self, other, ahead⟩ := second
  obtain ⟨same', mutex', key₁, key₁', self', other', ahead'⟩ := first
  rw [same] at self' other' ahead'
  rw [self'] at other
  cases other
  exact ⟨same'.trans same, mutex, key, key₁', self, other', ahead'.trans ahead⟩

/-- Nobody waits for one that waits, but in a line. -/
theorem WaitsFor.settled_or_before (sound : s.Sound) (tidy : ∀ i, Tidy use handle peer exempt s i)
    (waits : WaitsFor use handle s i j) :
    (∀ k, ¬ WaitsFor use handle s j k) ∨ Before handle s j i := by
  cases waits with
  | map requests away inside =>
      left
      have there : ((s.tables (handle i)).stage j).Inside := ((sound _).inside j).mpr inside
      have begun := (tidy j).begun (handle i)
      intro k waits
      cases stage : (s.tables (handle i)).stage j with
      | away | queued => simp [stage] at there
      | entered key | looked key found =>
          rw [stage] at begun
          have same := (begun key rfl).1
          rw [same] at stage
          cases waits with
          | map _ away => simp [stage] at away
          | guard _ queued => simp [stage] at queued
          | line queued => simp [stage] at queued
  | guard live queued =>
      left
      intro k waits
      obtain ⟨key, requests⟩ := waits.requests tidy
      exact (tidy _).not_holds requests ⟨_, _, live, rfl⟩
  | @line key mutex _ queued ahead =>
      right
      have member : j ∈ (s.tables (handle i)).queue mutex :=
        List.idxOf_lt_length_iff.mp (ahead.trans_le List.idxOf_le_length)
      obtain ⟨key', there⟩ := ((sound _).inLine j mutex).mp member
      have same := ((tidy j).begun (handle i) key' (by rw [there]; rfl)).1
      exact ⟨same.symm, mutex, key, key', queued, there, ahead⟩

/-- Tasks that hold one lock at a time do not wait in a circle. -/
theorem no_circle (sound : s.Sound) (tidy : ∀ i, Tidy use handle peer exempt s i) :
    ¬ Relation.TransGen (WaitsFor use handle s) i i := by
  have chain (j : ι) (path : Relation.TransGen (WaitsFor use handle s) i j) :
      (∀ k, ¬ WaitsFor use handle s j k) ∨ Before handle s j i := by
    induction path with
    | single waits => exact waits.settled_or_before sound tidy
    | tail _ waits ih =>
        rcases ih with settled | before
        · exact absurd waits (settled _)
        · exact (waits.settled_or_before sound tidy).imp_right fun next => next.trans before
  intro circle
  rcases chain i circle with settled | ⟨-, mutex, key, key', -, -, ahead⟩
  · obtain ⟨j, waits, -⟩ := Relation.TransGen.head'_iff.mp circle
    exact settled j waits
  · exact Nat.lt_irrefl _ ahead

end

end Waiting

section Turns

variable [DecidableEq ι] [DecidableEq H] [DecidableEq P] (use : C → Use K P) (handle : ι → H)

def step (s : Lockers C R P H ι) : Turn C R ι → Lockers C R P H ι
  | .poll i reply =>
      match s.progs i with
      | .done _ => s
      | .call c k =>
          match use c with
          | .acquire key =>
              let table := s.tables (handle i)
              let next := s.setTable (handle i) (table.advance i key)
              if table.Gets i then next.resume i (k (reply c)) else next
          | .release key =>
              (s.setTable (handle i) ((s.tables (handle i)).drop i key)).resume i (k (reply c))
          | _ => s.resume i (k (reply c))
  | .abort i =>
      (s.setTable (handle i) ((s.tables (handle i)).abort i)).resume i (.done (.ret ()))

def run (s : Lockers C R P H ι) (turns : List (Turn C R ι)) : Lockers C R P H ι :=
  turns.foldl (step use handle) s

/-- All that a turn can do. -/
inductive Stepped (s : Lockers C R P H ι) : Turn C R ι → Lockers C R P H ι → Prop where
  | ended {i : ι} {reply x} (found : s.progs i = .done x) : Stepped s (.poll i reply) s
  | other {i : ι} {reply c k} (found : s.progs i = .call c k)
      (plain : (∀ key, use c ≠ .acquire key) ∧ ∀ key, use c ≠ .release key) :
      Stepped s (.poll i reply) (s.resume i (k (reply c)))
  | waits {i : ι} {reply c k key} (found : s.progs i = .call c k) (used : use c = .acquire key)
      (not : ¬ (s.tables (handle i)).Gets i) :
      Stepped s (.poll i reply)
        (s.setTable (handle i) ((s.tables (handle i)).advance i key))
  | gets {i : ι} {reply c k key} (found : s.progs i = .call c k) (used : use c = .acquire key)
      (gets : (s.tables (handle i)).Gets i) :
      Stepped s (.poll i reply)
        ((s.setTable (handle i) ((s.tables (handle i)).advance i key)).resume i (k (reply c)))
  | release {i : ι} {reply c k key} (found : s.progs i = .call c k) (used : use c = .release key) :
      Stepped s (.poll i reply)
        ((s.setTable (handle i) ((s.tables (handle i)).drop i key)).resume i (k (reply c)))
  | abort {i : ι} :
      Stepped s (.abort i)
        ((s.setTable (handle i) ((s.tables (handle i)).abort i)).resume i (.done (.ret ())))

variable {use handle} {s s' : Lockers C R P H ι} {turn : Turn C R ι}

theorem step_stepped : Stepped use handle s turn (step use handle s turn) := by
  cases turn with
  | abort i => exact .abort
  | poll i reply =>
      cases found : s.progs i with
      | done x =>
          simp only [step, found]
          exact .ended found
      | call c k =>
          cases used : use c with
          | acquire key =>
              simp only [step, found, used]
              split
              · next gets => exact .gets found used gets
              · next not => exact .waits found used not
          | release key =>
              simp only [step, found, used]
              exact .release found used
          | plain | read key | brief key | split key =>
              simp only [step, found, used]
              exact .other found (by simp [used])

/-! ## In every run -/

theorem Sound.step (sound : s.Sound) : (step use handle s turn).Sound := by
  have stepped : Stepped use handle s turn (Lockers.step use handle s turn) := step_stepped
  generalize Lockers.step use handle s turn = s' at stepped
  cases stepped with
  | ended found => exact sound
  | other found plain => exact sound
  | waits | gets => exact sound.setTable (sound _).advance
  | release => exact sound.setTable (sound _).drop
  | abort => exact sound.setTable (sound _).abort

theorem Sound.run (sound : s.Sound) (turns : List (Turn C R ι)) :
    (run use handle s turns).Sound := by
  induction turns generalizing s with
  | nil => exact sound
  | cons turn turns ih => exact ih sound.step

theorem Sound.step_entries (sound : s.Sound) {h : H} {key : P} {mutex : Nat}
    (entry : (s.tables h).entries key = some mutex) :
    ((Lockers.step use handle s turn).tables h).entries key = some mutex := by
  have replaced {h' : H} {table : Mutexes P ι}
      (kept : (s.tables h').entries key = some mutex → table.entries key = some mutex) :
      ((s.setTable h' table).tables h).entries key = some mutex := by
    rcases setTable_tables s h' h table with ⟨rfl, found⟩ | ⟨-, found⟩
    · rw [found]
      exact kept entry
    · rw [found]
      exact entry
  have stepped : Stepped use handle s turn (Lockers.step use handle s turn) := step_stepped
  generalize Lockers.step use handle s turn = s' at stepped
  cases stepped with
  | ended found => exact entry
  | other found plain => exact entry
  | waits | gets => exact replaced (sound _).advance_entries
  | release | abort => exact replaced id

/-- Whatever is done, a key keeps its mutex. -/
theorem Sound.run_entries (sound : s.Sound) {h : H} {key : P} {mutex : Nat}
    (entry : (s.tables h).entries key = some mutex) (turns : List (Turn C R ι)) :
    ((Lockers.run use handle s turns).tables h).entries key = some mutex := by
  induction turns generalizing s with
  | nil => exact entry
  | cons turn turns ih => exact ih sound.step (sound.step_entries entry)

omit [DecidableEq ι] [DecidableEq P] in
theorem others_setTable {i : ι} {h : H} {table : Mutexes P ι}
    (stages : ∀ j ≠ i, table.stage j = (s.tables h).stage j)
    (guards : ∀ guard ∈ table.guards, guard.owner ≠ i → guard ∈ (s.tables h).guards) :
    Others s (s.setTable h table) i := by
  refine ⟨fun _ _ => rfl, fun h' => ?_, fun h' => ?_⟩
  all_goals
    rcases setTable_tables s h h' table with ⟨rfl, found⟩ | ⟨-, found⟩
    · rw [found]
      assumption
    · rw [found]
      simp +contextual

omit [DecidableEq H] [DecidableEq P] in
theorem Others.resume {i : ι} (others : Others s s' i) (prog : Prog C R Unit Unit) :
    Others s (s'.resume i prog) i where
  progs j other := (resume_progs_of_ne other prog).trans (others.progs j other)
  stages := others.stages
  guards := others.guards

theorem others_advance {i : ι} {h : H} {key : P} :
    Others s (s.setTable h ((s.tables h).advance i key)) i := by
  refine others_setTable (fun j other => Mutexes.advance_stage_of_ne other) ?_
  intro guard live other
  by_cases gets : (s.tables h).Gets i
  · obtain ⟨key', mutex, -, granted⟩ := Mutexes.advance_of_gets key gets
    rw [granted] at live
    rcases List.mem_cons.mp live with rfl | live
    · exact absurd rfl other
    · exact live
  · rwa [Mutexes.advance_guards gets] at live

theorem Stepped.others (stepped : Stepped use handle s turn s') : Others s s' turn.task := by
  have unchanged (i : ι) : Others s s i :=
    ⟨fun _ _ => rfl, fun _ _ _ => rfl, fun _ _ live _ => live⟩
  cases stepped with
  | ended found => exact unchanged _
  | other found plain => exact (unchanged _).resume _
  | waits found used not => exact others_advance
  | gets found used gets => exact others_advance.resume _
  | @release i reply c k key found used =>
      have dropped : Others s (s.setTable (handle i) ((s.tables (handle i)).drop i key)) i :=
        others_setTable (fun _ _ => rfl) fun guard live _ => List.mem_of_mem_eraseP live
      exact dropped.resume _
  | @abort i =>
      have dropped : Others s (s.setTable (handle i) ((s.tables (handle i)).abort i)) i :=
        others_setTable (fun j other => Function.update_of_ne other ..)
          fun guard live _ => List.mem_of_mem_filter live
      exact dropped.resume _

/-- Locks that no task was given stay as they are. -/
theorem run_tables_of_ne {h : H} (others : ∀ i, handle i ≠ h) (turns : List (Turn C R ι)) :
    (run use handle s turns).tables h = s.tables h := by
  have step_same (s : Lockers C R P H ι) (turn : Turn C R ι) :
      (step use handle s turn).tables h = s.tables h := by
    have stepped : Stepped use handle s turn (step use handle s turn) := step_stepped
    generalize step use handle s turn = s' at stepped
    cases stepped with
    | ended | other => rfl
    | waits | gets | release | abort => exact setTable_tables_of_ne (others _).symm _
  induction turns generalizing s with
  | nil => rfl
  | cons turn turns ih => exact ih.trans (step_same s turn)

variable {peer : K → P} {exempt : C → Prop}

section Tidy

variable {i : ι} {c : C} {k : R c → Prog C R Unit Unit} {key : P}
  (tidy : Tidy use handle peer exempt s i) (found : s.progs i = .call c k)

include tidy found

omit [DecidableEq H] [DecidableEq P] in
theorem Tidy.resume (plain : (∀ key, use c ≠ .acquire key) ∧ ∀ key, use c ≠ .release key)
    (r : R c) : Tidy use handle peer exempt (s.resume i (k r)) i := by
  obtain ⟨held, locked, holds⟩ := tidy.one
  rw [found] at locked
  refine ⟨⟨held, ?_, holds⟩, fun h key begun => ?_⟩
  · rw [resume_progs_self]
    cases used : use c with
    | acquire key => exact absurd used (plain.1 key)
    | release key => exact absurd used (plain.2 key)
    | plain | read | brief | split =>
        simp only [Prog.Locked, used] at locked
        exact locked.2 r trivial
  · exact absurd begun (tidy.not_begun found plain.1 h key)

theorem Tidy.waits (used : use c = .acquire key) (not : ¬ (s.tables (handle i)).Gets i) :
    Tidy use handle peer exempt
      (s.setTable (handle i) ((s.tables (handle i)).advance i key)) i := by
  obtain ⟨held, locked, holds⟩ := tidy.one
  have table (h : H) := setTable_tables s (handle i) h ((s.tables (handle i)).advance i key)
  refine ⟨⟨held, locked, fun h guard live mine => ?_⟩, fun h key' begun => ?_⟩
  · rcases table h with ⟨rfl, same⟩ | ⟨-, same⟩
    · rw [same, Mutexes.advance_guards not] at live
      exact holds _ guard live mine
    · rw [same] at live
      exact holds h guard live mine
  · rcases table h with ⟨rfl, same⟩ | ⟨-, same⟩
    · rw [same] at begun
      rcases Mutexes.advance_key not begun with before | rfl
      · exact tidy.begun _ key' before
      · exact ⟨rfl, c, k, found, used⟩
    · rw [same] at begun
      exact tidy.begun h key' begun

theorem Tidy.gets (used : use c = .acquire key) (gets : (s.tables (handle i)).Gets i) (r : R c) :
    Tidy use handle peer exempt
      ((s.setTable (handle i) ((s.tables (handle i)).advance i key)).resume i (k r)) i := by
  have free : ∀ h, ∀ guard ∈ (s.tables h).guards, guard.owner ≠ i :=
    fun h guard live mine => tidy.not_holds ⟨c, k, found, used⟩ ⟨h, guard, live, mine⟩
  obtain ⟨held, locked, -⟩ := tidy.one
  simp only [found, Prog.Locked, used] at locked
  obtain ⟨key', mutex, queued, granted⟩ := Mutexes.advance_of_gets key gets
  -- the guard is for the key of the call
  obtain rfl : key' = key := by
    have begun : ((s.tables (handle i)).stage i).key? = some key' := by rw [queued, Stage.key?]
    obtain ⟨-, c', k', found', used'⟩ := tidy.begun (handle i) key' begun
    rw [found] at found'
    cases found'
    rw [used] at used'
    cases used'
    rfl
  rw [granted]
  have table (h : H) := setTable_tables s (handle i) h ((s.tables (handle i)).grant i key' mutex)
  refine ⟨⟨some key', ?_, fun h guard live mine => ?_⟩, fun h key begun => ?_⟩
  · rw [resume_progs_self]
    exact locked.2 r trivial
  · rw [resume_tables] at live
    rcases table h with ⟨rfl, same⟩ | ⟨-, same⟩
    · rw [same] at live
      rcases List.mem_cons.mp live with rfl | live
      · exact ⟨rfl, rfl⟩
      · exact absurd mine (free _ guard live)
    · rw [same] at live
      exact absurd mine (free h guard live)
  · rw [resume_tables] at begun
    rcases table h with ⟨rfl, same⟩ | ⟨other, same⟩
    · rw [same] at begun
      simp [Mutexes.grant, Mutexes.setStage, Stage.key?] at begun
    · rw [same] at begun
      exact absurd (tidy.begun h key begun).1 other

theorem Tidy.release (sound : s.Sound) (used : use c = .release key) (r : R c) :
    Tidy use handle peer exempt
      ((s.setTable (handle i) ((s.tables (handle i)).drop i key)).resume i (k r)) i := by
  obtain ⟨held, locked, holds⟩ := tidy.one
  simp only [found, Prog.Locked, used] at locked
  obtain ⟨rfl, next⟩ := locked
  have table (h : H) := setTable_tables s (handle i) h ((s.tables (handle i)).drop i key)
  refine ⟨⟨none, ?_, fun h guard live mine => ?_⟩, fun h key' begun => ?_⟩
  · rw [resume_progs_self]
    exact next r trivial
  · rw [resume_tables] at live
    rcases table h with ⟨rfl, same⟩ | ⟨other, same⟩
    · rw [same] at live
      have before := (holds _ guard (List.mem_of_mem_eraseP live) mine).2
      exact absurd (Option.some.inj before).symm ((sound _).drop_guards live mine)
    · rw [same] at live
      exact absurd (holds h guard live mine).1 other
  · rw [resume_tables] at begun
    have kept : ((s.tables h).stage i).key? = some key' := by
      rcases table h with ⟨rfl, same⟩ | ⟨-, same⟩
      · rwa [same] at begun
      · rwa [same] at begun
    exact absurd kept (tidy.not_begun found (by simp [used]) h key')

omit found [DecidableEq P] in
theorem Tidy.abort : Tidy use handle peer exempt
    ((s.setTable (handle i) ((s.tables (handle i)).abort i)).resume i (.done (.ret ()))) i := by
  obtain ⟨held, -, holds⟩ := tidy.one
  have table (h : H) := setTable_tables s (handle i) h ((s.tables (handle i)).abort i)
  refine ⟨⟨none, ?_, fun h guard live mine => ?_⟩, fun h key begun => ?_⟩
  · rw [resume_progs_self]
    rfl
  · rw [resume_tables] at live
    rcases table h with ⟨rfl, same⟩ | ⟨other, same⟩
    · rw [same] at live
      have gone := List.of_mem_filter live
      exact absurd mine (of_decide_eq_true gone)
    · rw [same] at live
      exact absurd (holds h guard live mine).1 other
  · rw [resume_tables] at begun
    rcases table h with ⟨rfl, same⟩ | ⟨other, same⟩
    · rw [same] at begun
      simp [Mutexes.abort, Mutexes.setStage, Stage.key?] at begun
    · rw [same] at begun
      exact absurd (tidy.begun h key begun).1 other

end Tidy

theorem Stepped.tidy (stepped : Stepped use handle s turn s') (sound : s.Sound)
    (tidy : Tidy use handle peer exempt s turn.task) :
    Tidy use handle peer exempt s' turn.task := by
  cases stepped with
  | ended found => exact tidy
  | other found plain => exact tidy.resume found plain _
  | waits found used not => exact tidy.waits found used not
  | gets found used gets => exact tidy.gets found used gets _
  | release found used => exact tidy.release found sound used _
  | abort => exact tidy.abort

theorem tidy_run {turns : List (Turn C R ι)} (sound : s.Sound)
    (tidy : ∀ i, Tidy use handle peer exempt s i) :
    ∀ i, Tidy use handle peer exempt (run use handle s turns) i := by
  induction turns generalizing s with
  | nil => exact tidy
  | cons turn turns ih =>
      have stepped : Stepped use handle s turn (Lockers.step use handle s turn) := step_stepped
      refine ih sound.step fun i => ?_
      by_cases self : i = turn.task
      · rw [self]
        exact stepped.tidy sound (tidy _)
      · exact (tidy i).other stepped.others self

omit [DecidableEq ι] [DecidableEq H] [DecidableEq P] in
theorem tidy_start {progs : ι → Prog C R Unit Unit}
    (locked : ∀ i, Prog.Locked use peer (fun _ _ => True) exempt none (progs i)) (i : ι) :
    Tidy use handle peer exempt (start progs : Lockers C R P H ι) i where
  one := ⟨none, locked i, fun _ _ live => by simp [start, Mutexes.empty] at live⟩
  begun h key begun := by simp [start, Mutexes.empty, Stage.key?] at begun

end Turns

end Lockers

end SignalService.Effect

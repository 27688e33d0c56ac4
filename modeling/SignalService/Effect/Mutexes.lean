import Mathlib.Tactic

/-! # Mutexes made on demand

A map has a mutex for every key that was ever asked for, and is itself behind a mutex that is only
held to look a key up. Tasks get in line for a mutex, and get its guard when they are first in line
and there is none. Whatever they do, a key keeps its mutex, keys do not share one, and a mutex has
one guard at most.
-/

namespace SignalService.Effect

/-- Where a task is in a call that takes a lock. -/
inductive Stage (P : Type) where
  | away
  /-- The task has the map to itself. -/
  | entered (key : P)
  /-- It has looked, and has found a mutex or none. -/
  | looked (key : P) (found : Option Nat)
  /-- It has left the map and is in line for the mutex. -/
  | queued (key : P) (mutex : Nat)

namespace Stage

variable {P : Type}

/-- The task has the map to itself. -/
def Inside : Stage P → Prop
  | .entered _ | .looked _ _ => True
  | _ => False

/-- The key the task is to lock, once it has begun. -/
def key? : Stage P → Option P
  | .away => none
  | .entered key | .looked key _ | .queued key _ => some key

@[simp] theorem not_inside_away : ¬ (away : Stage P).Inside := id
@[simp] theorem inside_entered (key : P) : (entered key).Inside := trivial
@[simp] theorem inside_looked (key : P) (found : Option Nat) : (looked key found).Inside := trivial
@[simp] theorem not_inside_queued (key : P) (mutex : Nat) : ¬ (queued key mutex).Inside := id

end Stage

structure Guard (P ι : Type) where
  owner : ι
  key : P
  mutex : Nat

/-- The map, the lines in front of its mutexes, and their guards. -/
structure Mutexes (P ι : Type) where
  entries : P → Option Nat
  /-- How many mutexes there are; the next one is called so. -/
  made : Nat
  inside : Option ι
  stage : ι → Stage P
  queue : Nat → List ι
  guards : List (Guard P ι)

namespace Mutexes

variable {P ι : Type}

/-- The map of a new set of locks. -/
def empty : Mutexes P ι where
  entries _ := none
  made := 0
  inside := none
  stage _ := .away
  queue _ := []
  guards := []

section Moves

variable [DecidableEq ι]

def setStage (s : Mutexes P ι) (i : ι) (stage : Stage P) : Mutexes P ι :=
  { s with stage := Function.update s.stage i stage }

/-- Lock the map. -/
def enter (s : Mutexes P ι) (i : ι) (key : P) : Mutexes P ι :=
  { s.setStage i (.entered key) with inside := some i }

/-- Unlock the map. -/
def exit (s : Mutexes P ι) (i : ι) : Mutexes P ι :=
  { s.setStage i .away with inside := none }

def enqueue (s : Mutexes P ι) (i : ι) (key : P) (mutex : Nat) : Mutexes P ι :=
  { s.setStage i (.queued key mutex) with
    queue := Function.update s.queue mutex (s.queue mutex ++ [i]) }

/-- Get the guard. -/
def grant (s : Mutexes P ι) (i : ι) (key : P) (mutex : Nat) : Mutexes P ι :=
  { s.setStage i .away with
    queue := Function.update s.queue mutex (s.queue mutex).tail
    guards := ⟨i, key, mutex⟩ :: s.guards }

/-- The task is gone, with the guards it had and its place in line. -/
def abort (s : Mutexes P ι) (i : ι) : Mutexes P ι :=
  { s.setStage i .away with
    inside := if s.inside = some i then none else s.inside
    queue := fun mutex => (s.queue mutex).filter (· ≠ i)
    guards := s.guards.filter (·.owner ≠ i) }

@[simp] theorem enter_inside (s : Mutexes P ι) (i : ι) (key : P) :
    (s.enter i key).inside = some i := rfl
@[simp] theorem exit_inside (s : Mutexes P ι) (i : ι) : (s.exit i).inside = none := rfl
@[simp] theorem enqueue_inside (s : Mutexes P ι) (i : ι) (key : P) (mutex : Nat) :
    (s.enqueue i key mutex).inside = s.inside := rfl
@[simp] theorem grant_inside (s : Mutexes P ι) (i : ι) (key : P) (mutex : Nat) :
    (s.grant i key mutex).inside = s.inside := rfl

variable [DecidableEq P]

/-- A new mutex for the key. -/
def insert (s : Mutexes P ι) (key : P) : Mutexes P ι :=
  { s with entries := Function.update s.entries key (some s.made), made := s.made + 1 }

/-- Leave the map with the mutex that was found, or with a new one. -/
def leave (s : Mutexes P ι) (i : ι) (key : P) : Option Nat → Mutexes P ι
  | some mutex => (s.exit i).enqueue i key mutex
  | none => ((s.exit i).insert key).enqueue i key s.made

/-- Drop the guard of the key. -/
def drop (s : Mutexes P ι) (i : ι) (key : P) : Mutexes P ι :=
  { s with guards := s.guards.eraseP fun guard => guard.owner = i ∧ guard.key = key }

/-- The task is first in line, and nobody has a guard of the mutex. -/
def Ready (s : Mutexes P ι) (i : ι) (mutex : Nat) : Prop :=
  (s.queue mutex).head? = some i ∧ ∀ guard ∈ s.guards, guard.mutex ≠ mutex

instance (s : Mutexes P ι) (i : ι) (mutex : Nat) : Decidable (s.Ready i mutex) :=
  inferInstanceAs (Decidable (_ ∧ _))

/-- The task goes on with its call; it may find that it has to wait. -/
def advance (s : Mutexes P ι) (i : ι) (key : P) : Mutexes P ι :=
  match s.stage i with
  | .away => if s.inside = none then s.enter i key else s
  | .entered key => s.setStage i (.looked key (s.entries key))
  | .looked key found => s.leave i key found
  | .queued key mutex => if s.Ready i mutex then s.grant i key mutex else s

/-- The next step of the call is its last. -/
def Gets (s : Mutexes P ι) (i : ι) : Prop :=
  ∃ key mutex, s.stage i = .queued key mutex ∧ s.Ready i mutex

instance (s : Mutexes P ι) (i : ι) : Decidable (s.Gets i) :=
  match found : s.stage i with
  | .queued key mutex => decidable_of_iff (s.Ready i mutex) (by simp [Gets, found])
  | .away | .entered _ | .looked _ _ => isFalse (by simp [Gets, found])

end Moves

/-! ## What always holds -/

/-- Keys have mutexes of their own, the map is locked by who is inside, those in line are in the
    line of their key, and every mutex has one guard at most. -/
structure Sound (s : Mutexes P ι) : Prop where
  made : ∀ key mutex, s.entries key = some mutex → mutex < s.made
  distinct : ∀ key key' mutex, s.entries key = some mutex → s.entries key' = some mutex →
    key = key'
  inside : ∀ i, (s.stage i).Inside ↔ s.inside = some i
  looked : ∀ i key found, s.stage i = .looked key found → s.entries key = found
  entry : ∀ i key mutex, s.stage i = .queued key mutex → s.entries key = some mutex
  inLine : ∀ i mutex, i ∈ s.queue mutex ↔ ∃ key, s.stage i = .queued key mutex
  once : ∀ mutex, (s.queue mutex).Nodup
  guarded : ∀ guard ∈ s.guards, s.entries guard.key = some guard.mutex
  exclusive : (s.guards.map Guard.mutex).Nodup

variable {s : Mutexes P ι} {i j : ι} {key : P} {mutex : Nat}

theorem sound_empty : (empty : Mutexes P ι).Sound where
  made := nofun
  distinct := nofun
  inside i := by simp [empty, Stage.Inside]
  looked := nofun
  entry := nofun
  inLine := by simp [empty]
  once _ := List.nodup_nil
  guarded := nofun
  exclusive := List.nodup_nil

namespace Sound

theorem same_mutex (sound : s.Sound) {guard guard' : Guard P ι} (live : guard ∈ s.guards)
    (live' : guard' ∈ s.guards) (same : guard.key = guard'.key) : guard.mutex = guard'.mutex := by
  have entry := sound.guarded guard live
  rw [same, sound.guarded guard' live'] at entry
  exact (Option.some.inj entry).symm

theorem same_key (sound : s.Sound) {guard : Guard P ι} (live : guard ∈ s.guards)
    (entry : s.entries key = some guard.mutex) : guard.key = key :=
  sound.distinct _ _ _ (sound.guarded guard live) entry

/-- A key has one guard at most. -/
theorem one_guard [DecidableEq P] (sound : s.Sound) (key : P) :
    (s.guards.filter (·.key = key)).length ≤ 1 := by
  have nodup : ((s.guards.filter (·.key = key)).map Guard.mutex).Nodup :=
    sound.exclusive.sublist (List.filter_sublist.map _)
  have same (guard : Guard P ι) (member : guard ∈ s.guards.filter (·.key = key)) :
      guard ∈ s.guards ∧ guard.key = key := by simpa using member
  generalize s.guards.filter (·.key = key) = guards at nodup same
  match guards with
  | [] => simp
  | [_] => simp
  | a :: b :: rest =>
      have first := same a List.mem_cons_self
      have second := same b (List.mem_cons_of_mem _ List.mem_cons_self)
      have equal := sound.same_mutex first.1 second.1 (first.2.trans second.2.symm)
      simp [equal] at nodup

/-- Whoever is in the line of a mutex is there for its key. -/
theorem line_key (sound : s.Sound) (first : s.stage i = .queued key mutex)
    (other : j ∈ s.queue mutex) : s.stage j = .queued key mutex := by
  obtain ⟨key', there⟩ := (sound.inLine j mutex).mp other
  have same := sound.distinct _ _ _ (sound.entry j key' mutex there) (sound.entry i key mutex first)
  rwa [same] at there

/-! ## Every step keeps it -/

section Steps

/-- What a step of `i` has to leave as it was for the others, and what it has to see to itself. -/
structure Own (s t : Mutexes P ι) (i : ι) : Prop where
  entries : t.entries = s.entries
  made : t.made = s.made
  stages : ∀ j ≠ i, t.stage j = s.stage j
  insides : ∀ j ≠ i, t.inside = some j ↔ s.inside = some j
  lines : ∀ j ≠ i, ∀ mutex, j ∈ t.queue mutex ↔ j ∈ s.queue mutex
  inside : (t.stage i).Inside ↔ t.inside = some i
  looked : ∀ key found, t.stage i = .looked key found → s.entries key = found
  entry : ∀ key mutex, t.stage i = .queued key mutex → s.entries key = some mutex
  inLine : ∀ mutex, i ∈ t.queue mutex ↔ ∃ key, t.stage i = .queued key mutex

theorem own {t : Mutexes P ι} (sound : s.Sound) (own : Own s t i)
    (once : ∀ mutex, (t.queue mutex).Nodup)
    (guarded : ∀ guard ∈ t.guards, s.entries guard.key = some guard.mutex)
    (exclusive : (t.guards.map Guard.mutex).Nodup) : t.Sound where
  made := by
    rw [own.entries, own.made]
    exact sound.made
  distinct := by
    rw [own.entries]
    exact sound.distinct
  inside j := by
    by_cases self : j = i
    · rw [self]
      exact own.inside
    · rw [own.stages j self, own.insides j self]
      exact sound.inside j
  looked j key found there := by
    rw [own.entries]
    by_cases self : j = i
    · rw [self] at there
      exact own.looked key found there
    · rw [own.stages j self] at there
      exact sound.looked j key found there
  entry j key mutex there := by
    rw [own.entries]
    by_cases self : j = i
    · rw [self] at there
      exact own.entry key mutex there
    · rw [own.stages j self] at there
      exact sound.entry j key mutex there
  inLine j mutex := by
    by_cases self : j = i
    · rw [self]
      exact own.inLine mutex
    · rw [own.stages j self, own.lines j self mutex]
      exact sound.inLine j mutex
  once := once
  guarded := by
    rw [own.entries]
    exact guarded
  exclusive := exclusive

theorem not_inLine (sound : s.Sound) (before : ∀ key mutex, s.stage i ≠ .queued key mutex)
    (mutex : Nat) : i ∉ s.queue mutex := by
  intro member
  obtain ⟨key, there⟩ := (sound.inLine i mutex).mp member
  exact before key mutex there

variable [DecidableEq ι]

theorem enter (sound : s.Sound) (away : s.stage i = .away) (free : s.inside = none) :
    (s.enter i key).Sound := by
  have self : (s.enter i key).stage i = .entered key := Function.update_self ..
  refine sound.own (i := i) ⟨rfl, rfl, ?_, ?_, fun _ _ _ => Iff.rfl, ?_, ?_, ?_, ?_⟩ sound.once
    sound.guarded sound.exclusive
  · exact fun j other => Function.update_of_ne other ..
  · intro j other
    simp [Mutexes.enter, free, Ne.symm other]
  · simp [self]
  · simp [self]
  · simp [self]
  · intro mutex
    simp only [self, reduceCtorEq, exists_false, iff_false]
    exact sound.not_inLine (by simp [away]) mutex

theorem look (sound : s.Sound) (entered : s.stage i = .entered key) :
    (s.setStage i (.looked key (s.entries key))).Sound := by
  have inside : s.inside = some i := (sound.inside i).mp (by simp [entered])
  have self : (s.setStage i (.looked key (s.entries key))).stage i =
      .looked key (s.entries key) := Function.update_self ..
  refine sound.own (i := i) ⟨rfl, rfl, ?_, fun _ _ => Iff.rfl, fun _ _ _ => Iff.rfl, ?_, ?_, ?_,
    ?_⟩ sound.once sound.guarded sound.exclusive
  · exact fun j other => Function.update_of_ne other ..
  · rw [self]
    exact iff_of_true trivial inside
  · intro key' found there
    rw [self] at there
    cases there
    rfl
  · simp [self]
  · intro mutex
    simp only [self, reduceCtorEq, exists_false, iff_false]
    exact sound.not_inLine (by simp [entered]) mutex

theorem exit (sound : s.Sound) (inside : (s.stage i).Inside) : (s.exit i).Sound := by
  have mine : s.inside = some i := (sound.inside i).mp inside
  have self : (s.exit i).stage i = .away := Function.update_self ..
  refine sound.own (i := i) ⟨rfl, rfl, ?_, ?_, fun _ _ _ => Iff.rfl, ?_, ?_, ?_, ?_⟩ sound.once
    sound.guarded sound.exclusive
  · exact fun j other => Function.update_of_ne other ..
  · intro j other
    simp [Mutexes.exit, mine, Ne.symm other]
  · simp [self]
  · simp [self]
  · simp [self]
  · intro mutex
    simp only [self, reduceCtorEq, exists_false, iff_false]
    refine sound.not_inLine (fun key mutex there => ?_) mutex
    rw [there] at inside
    exact inside

theorem enqueue (sound : s.Sound) (away : s.stage i = .away) (entry : s.entries key = some mutex) :
    (s.enqueue i key mutex).Sound := by
  have self : (s.enqueue i key mutex).stage i = .queued key mutex := Function.update_self ..
  have absent := sound.not_inLine (i := i) (by simp [away])
  have line (mutex' : Nat) : (s.enqueue i key mutex).queue mutex' =
      if mutex' = mutex then s.queue mutex ++ [i] else s.queue mutex' := Function.update_apply ..
  refine sound.own (i := i) ⟨rfl, rfl, ?_, fun _ _ => Iff.rfl, ?_, ?_, ?_, ?_, ?_⟩ ?_
    sound.guarded sound.exclusive
  · exact fun j other => Function.update_of_ne other ..
  · intro j other mutex'
    rw [line]
    split
    · next same => simp [same, other]
    · rfl
  · have outside := sound.inside i
    rw [away] at outside
    simpa [self] using outside
  · simp [self]
  · intro key' mutex' there
    rw [self] at there
    cases there
    exact entry
  · intro mutex'
    rw [line, self]
    split
    · next same => simp [same]
    · next other => simp [absent, Ne.symm other]
  · intro mutex'
    rw [line]
    split
    · rw [List.nodup_append]
      refine ⟨sound.once mutex, List.nodup_singleton i, ?_⟩
      rintro j member _ last rfl
      rw [List.mem_singleton.mp last] at member
      exact absent mutex member
    · exact sound.once mutex'

theorem grant (sound : s.Sound) (queued : s.stage i = .queued key mutex)
    (ready : s.Ready i mutex) : (s.grant i key mutex).Sound := by
  have self : (s.grant i key mutex).stage i = .away := Function.update_self ..
  have line (mutex' : Nat) : (s.grant i key mutex).queue mutex' =
      if mutex' = mutex then (s.queue mutex).tail else s.queue mutex' := Function.update_apply ..
  obtain ⟨rest, first⟩ : ∃ rest, s.queue mutex = i :: rest := List.head?_eq_some_iff.mp ready.1
  have once := sound.once mutex
  rw [first, List.nodup_cons] at once
  refine sound.own (i := i) ⟨rfl, rfl, ?_, fun _ _ => Iff.rfl, ?_, ?_, ?_, ?_, ?_⟩ ?_ ?_ ?_
  · exact fun j other => Function.update_of_ne other ..
  · intro j other mutex'
    rw [line]
    split
    · next same => simp [same, first, other]
    · rfl
  · have outside := sound.inside i
    rw [queued] at outside
    simpa [self] using outside
  · simp [self]
  · simp [self]
  · intro mutex'
    rw [line, self]
    split
    · simp [first, once.1]
    · next other => simp [sound.inLine i mutex', queued, Ne.symm other]
  · intro mutex'
    rw [line]
    split
    · simp [first, once.2]
    · exact sound.once mutex'
  · intro guard live
    rcases List.mem_cons.mp live with rfl | live
    · exact sound.entry i key mutex queued
    · exact sound.guarded guard live
  · have free : mutex ∉ s.guards.map Guard.mutex := by simpa using ready.2
    exact List.nodup_cons.mpr ⟨free, sound.exclusive⟩

theorem abort (sound : s.Sound) : (s.abort i).Sound := by
  have self : (s.abort i).stage i = .away := Function.update_self ..
  refine sound.own (i := i) ⟨rfl, rfl, ?_, ?_, ?_, ?_, ?_, ?_, ?_⟩ ?_ ?_ ?_
  · exact fun j other => Function.update_of_ne other ..
  · intro j other
    simp only [Mutexes.abort]
    split
    · next mine => simp [mine, Ne.symm other]
    · rfl
  · intro j other mutex
    simp [Mutexes.abort, other]
  · rw [self]
    simp only [Stage.not_inside_away, Mutexes.abort, false_iff]
    split
    · simp
    · assumption
  · simp [self]
  · simp [self]
  · intro mutex
    rw [self]
    simp [Mutexes.abort]
  · exact fun mutex => (sound.once mutex).filter _
  · exact fun guard live => sound.guarded guard (List.mem_of_mem_filter live)
  · exact sound.exclusive.sublist (List.filter_sublist.map _)

variable [DecidableEq P]

omit [DecidableEq ι] in
theorem insert (sound : s.Sound) (free : s.inside = none) (missing : s.entries key = none) :
    (s.insert key).Sound where
  made key' mutex' entry := by
    by_cases same : key' = key
    · simp [Mutexes.insert, same] at entry
      simp [Mutexes.insert, ← entry]
    · have old := sound.made key' mutex' (by simpa [Mutexes.insert, same] using entry)
      simp only [Mutexes.insert]
      omega
  distinct key₁ key₂ mutex' entry₁ entry₂ := by
    have fresh (key' : P) (other : key' ≠ key) : s.entries key' ≠ some s.made := by
      intro entry
      exact Nat.lt_irrefl _ (sound.made key' _ entry)
    simp only [Mutexes.insert, Function.update_apply] at entry₁ entry₂
    split at entry₁
    · next same₁ =>
        split at entry₂
        · next same₂ => rw [same₁, same₂]
        · next other =>
            rw [← entry₁] at entry₂
            exact absurd entry₂ (fresh key₂ other)
    · next other =>
        split at entry₂
        · rw [← entry₂] at entry₁
          exact absurd entry₁ (fresh key₁ other)
        · exact sound.distinct key₁ key₂ mutex' entry₁ entry₂
  inside := sound.inside
  looked j key' found there := by
    have inside := (sound.inside j).mp (by
      simp only [Mutexes.insert] at there
      simp [there])
    rw [free] at inside
    cases inside
  entry j key' mutex' there := by
    have entry := sound.entry j key' mutex' there
    have other : key' ≠ key := by
      rintro rfl
      rw [missing] at entry
      cases entry
    simpa [Mutexes.insert, other] using entry
  inLine := sound.inLine
  once := sound.once
  guarded guard live := by
    have entry := sound.guarded guard live
    have other : guard.key ≠ key := by
      intro same
      rw [same, missing] at entry
      cases entry
    simpa [Mutexes.insert, other] using entry
  exclusive := sound.exclusive

theorem drop (sound : s.Sound) : (s.drop i key).Sound where
  made := sound.made
  distinct := sound.distinct
  inside := sound.inside
  looked := sound.looked
  entry := sound.entry
  inLine := sound.inLine
  once := sound.once
  guarded guard live := sound.guarded guard (List.mem_of_mem_eraseP live)
  exclusive := sound.exclusive.sublist (List.eraseP_sublist.map _)

theorem leave (sound : s.Sound) {found : Option Nat} (looked : s.stage i = .looked key found) :
    (s.leave i key found).Sound := by
  have outside : (s.exit i).Sound := sound.exit (by simp [looked])
  have away : (s.exit i).stage i = .away := Function.update_self ..
  have entry : s.entries key = found := sound.looked i key found looked
  cases found with
  | some mutex => exact outside.enqueue away entry
  | none => exact (outside.insert rfl entry).enqueue away (Function.update_self ..)

theorem advance (sound : s.Sound) : (s.advance i key).Sound := by
  unfold Mutexes.advance
  split
  · next away =>
      split
      · next free => exact sound.enter away free
      · exact sound
  · next entered => exact sound.look entered
  · next looked => exact sound.leave looked
  · next queued =>
      split
      · next ready => exact sound.grant queued ready
      · exact sound

/-- A key that has a mutex keeps it. -/
theorem advance_entries (sound : s.Sound) {key' : P} (entry : s.entries key' = some mutex) :
    (s.advance i key).entries key' = some mutex := by
  unfold Mutexes.advance
  split
  · split <;> exact entry
  · exact entry
  · next key found looked =>
      cases found with
      | some _ => exact entry
      | none =>
          have missing : s.entries key = none := sound.looked i key none looked
          have other : key' ≠ key := by
            rintro rfl
            rw [missing] at entry
            cases entry
          exact (Function.update_of_ne other ..).trans entry
  · split <;> exact entry

/-- Once the guard is dropped there is none of the key. -/
theorem drop_guards (sound : s.Sound) {guard : Guard P ι} (live : guard ∈ (s.drop i key).guards)
    (mine : guard.owner = i) : guard.key ≠ key := by
  intro same
  have there : guard ∈ s.guards := List.mem_of_mem_eraseP live
  obtain ⟨first, before, after, -, found, split, erased⟩ :=
    List.exists_of_eraseP there (p := fun guard => guard.owner = i ∧ guard.key = key)
      (by simp [mine, same])
  have firstKey : first.key = key := (of_decide_eq_true found).2
  have equal : guard.mutex = first.mutex :=
    sound.same_mutex there (by rw [split]; simp) (same.trans firstKey.symm)
  have other : guard ∈ before ++ after := by
    rw [← erased]
    exact live
  have exclusive := sound.exclusive
  rw [split, List.map_append, List.map_cons, List.nodup_middle, ← List.map_append,
    List.nodup_cons, ← equal] at exclusive
  exact exclusive.1 (List.mem_map_of_mem other)

end Steps

end Sound

/-! ## One step -/

section Advance

variable [DecidableEq ι] [DecidableEq P]

theorem advance_of_gets (key : P) (gets : s.Gets i) :
    ∃ key' mutex, s.stage i = .queued key' mutex ∧
    s.advance i key = s.grant i key' mutex := by
  obtain ⟨key', mutex, there, ready⟩ := gets
  refine ⟨key', mutex, there, ?_⟩
  simp only [advance, there, ready, if_true]

theorem advance_guards (waits : ¬ s.Gets i) : (s.advance i key).guards = s.guards := by
  unfold advance
  split
  · split <;> rfl
  · rfl
  · next key' found _ => cases found <;> rfl
  · next key' mutex there =>
      rw [if_neg fun ready => waits ⟨key', mutex, there, ready⟩]

theorem advance_stage_of_ne (other : j ≠ i) : (s.advance i key).stage j = s.stage j := by
  unfold advance
  split
  · split
    · exact Function.update_of_ne other ..
    · rfl
  · exact Function.update_of_ne other ..
  · next key' found _ =>
      cases found <;>
        exact (Function.update_of_ne other ..).trans (Function.update_of_ne other ..)
  · split
    · exact Function.update_of_ne other ..
    · rfl

/-- A call that goes on is still for its key. -/
theorem advance_key (waits : ¬ s.Gets i) {key' : P}
    (begun : ((s.advance i key).stage i).key? = some key') :
    (s.stage i).key? = some key' ∨ key' = key := by
  cases there : s.stage i with
  | away =>
      right
      simp only [advance, there] at begun
      split at begun
      · rw [enter, setStage] at begun
        simp only [Function.update_self, Stage.key?] at begun
        exact (Option.some.inj begun).symm
      · simp [there, Stage.key?] at begun
  | entered key₀ =>
      left
      simpa [advance, there, setStage, Stage.key?] using begun
  | looked key₀ found =>
      left
      cases found <;> simpa [advance, there, leave, enqueue, setStage, Stage.key?] using begun
  | queued key₀ mutex =>
      left
      have idle : ¬ s.Ready i mutex := fun ready => waits ⟨key₀, mutex, there, ready⟩
      simpa [advance, there, idle] using begun

end Advance

end Mutexes

end SignalService.Effect

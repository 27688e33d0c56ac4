import Mathlib.Tactic

/-! # A register with revisions

Several parties look at one register and replace what is in it. A party builds its replacement
on the value that it holds and gives it the next revision; the register takes it if that is the
revision after its own. Nobody has to look before every replacement, and a party need not be
told that its replacement was taken. What is replaced is nevertheless always what the
replacement was built on.
-/

namespace SignalService.Revision

structure Register (P V : Type) where
  current : V
  held : P → Option V

/-- What happens to the register: somebody looks, or a replacement is taken or refused. -/
inductive Event (P V : Type) where
  | look (party : P)
  | take (party : P) (base next : V) (told : Bool)
  | refuse (party : P) (base next : V)

variable {P V : Type} (revision : V → Nat)

/-- The party holds `base`, and has built `next` on it. -/
structure Builds (r : Register P V) (party : P) (base next : V) : Prop where
  holds : r.held party = some base
  next : revision next = revision base + 1

/-- What a party holds was in the register once: it is what is there, or it is older. -/
def Seen (r : Register P V) : Prop :=
  ∀ party v, r.held party = some v → v = r.current ∨ revision v < revision r.current

/-- The replacements that were taken, each with what it was built on. -/
def taken : List (Event P V) → List (V × V)
  | [] => []
  | .take _ base next _ :: events => (base, next) :: taken events
  | _ :: events => taken events

theorem taken_append (events events' : List (Event P V)) :
    taken (events ++ events') = taken events ++ taken events' := by
  induction events with
  | nil => rfl
  | cons event events ih => cases event <;> simp [taken, ih]

/-- Each replacement is built on what the one before it put there. -/
inductive Linked : V → List (V × V) → V → Prop where
  | nil (v : V) : Linked v [] v
  | cons {base next last : V} {links : List (V × V)} :
      Linked next links last → Linked base ((base, next) :: links) last

section Seen

variable {revision} {r : Register P V} {party : P} {base next : V}

/-- A replacement has the right revision exactly when it is built on what is there. -/
theorem Seen.taken_iff (seen : Seen revision r) (builds : Builds revision r party base next) :
    revision next = revision r.current + 1 ↔ base = r.current := by
  have built := builds.next
  constructor
  · intro taken
    rcases seen party base builds.holds with same | older
    · exact same
    · omega
  · rintro rfl
    exact built

theorem Seen.replace (seen : Seen revision r) (taken : revision next = revision r.current + 1) :
    Seen revision { r with current := next } := by
  intro party v holds
  right
  rcases seen party v holds with rfl | older
  · simp only [taken]
    omega
  · simp only [taken]
    omega

end Seen

variable [DecidableEq P]

def Register.hold (r : Register P V) (party : P) (v : V) : Register P V :=
  { r with held := Function.update r.held party (some v) }

inductive Step : Register P V → Event P V → Register P V → Prop where
  | look (r : Register P V) (party : P) : Step r (.look party) (r.hold party r.current)
  | told {r : Register P V} {party : P} {base next : V} :
      Builds revision r party base next → revision next = revision r.current + 1 →
      Step r (.take party base next true) (Register.hold { r with current := next } party next)
  | untold {r : Register P V} {party : P} {base next : V} :
      Builds revision r party base next → revision next = revision r.current + 1 →
      Step r (.take party base next false) { r with current := next }
  | refuse {r : Register P V} {party : P} {base next : V} :
      Builds revision r party base next → revision next ≠ revision r.current + 1 →
      Step r (.refuse party base next) r

inductive Run : Register P V → List (Event P V) → Register P V → Prop where
  | nil (r : Register P V) : Run r [] r
  | cons {r m r' : Register P V} {event : Event P V} {events : List (Event P V)} :
      Step revision r event m → Run m events r' → Run r (event :: events) r'

variable {revision} {r r' : Register P V} {event : Event P V} {events : List (Event P V)}

theorem Seen.hold (seen : Seen revision r) (party : P) :
    Seen revision (r.hold party r.current) := by
  intro other v holds
  by_cases same : other = party
  · subst same
    simp only [Register.hold, Function.update_self, Option.some.injEq] at holds
    exact .inl holds.symm
  · simp only [Register.hold, Function.update_of_ne same] at holds
    exact seen other v holds

theorem Seen.step (seen : Seen revision r) (step : Step revision r event r') :
    Seen revision r' := by
  cases step with
  | look party => exact seen.hold party
  | told builds fits => exact (seen.replace fits).hold _
  | untold builds fits => exact seen.replace fits
  | refuse => exact seen

theorem Seen.run (seen : Seen revision r) (run : Run revision r events r') :
    Seen revision r' := by
  induction run with
  | nil r => exact seen
  | cons step _ ih => exact ih (seen.step step)

theorem Run.single (step : Step revision r event r') : Run revision r [event] r' :=
  .cons step (.nil r')

theorem Run.append {r'' : Register P V} {events' : List (Event P V)}
    (first : Run revision r events r') (second : Run revision r' events' r'') :
    Run revision r (events ++ events') r'' := by
  induction first with
  | nil r => exact second
  | cons step _ ih => exact .cons step (ih second)

/-- No replacement covers one that it does not know of. -/
theorem Seen.linked (seen : Seen revision r) (run : Run revision r events r') :
    Linked r.current (taken events) r'.current := by
  induction run with
  | nil r => exact .nil _
  | cons step _ ih =>
      have rest := ih (seen.step step)
      cases step with
      | look party => exact rest
      | told builds fits =>
          obtain rfl := (seen.taken_iff builds).mp fits
          exact .cons rest
      | untold builds fits =>
          obtain rfl := (seen.taken_iff builds).mp fits
          exact .cons rest
      | refuse => exact rest

/-- What is true of all that is held, and of every replacement, is true of all that is held later. -/
theorem Run.held {Q : V → Prop} (run : Run revision r events r')
    (held : ∀ party v, r.held party = some v → Q v) (current : Q r.current)
    (replaced : ∀ link ∈ taken events, Q link.2) :
    (∀ party v, r'.held party = some v → Q v) ∧ Q r'.current := by
  induction run with
  | nil r => exact ⟨held, current⟩
  | cons step _ ih =>
      have looked {r : Register P V} (held : ∀ party v, r.held party = some v → Q v)
          {party : P} {v : V} (holds : Q v) (other : P) (w : V)
          (found : (r.hold party v).held other = some w) : Q w := by
        by_cases same : other = party
        · subst same
          simp only [Register.hold, Function.update_self, Option.some.injEq] at found
          exact found ▸ holds
        · simp only [Register.hold, Function.update_of_ne same] at found
          exact held other w found
      cases step with
      | look party => exact ih (looked held current) current replaced
      | told builds fits =>
          have next := replaced _ List.mem_cons_self
          exact ih (looked held next) next fun link later =>
            replaced link (List.mem_cons_of_mem _ later)
      | untold builds fits =>
          have next := replaced _ List.mem_cons_self
          exact ih held next fun link later => replaced link (List.mem_cons_of_mem _ later)
      | refuse => exact ih held current replaced

/-- The revision counts the replacements. -/
theorem Run.revision_eq (run : Run revision r events r') :
    revision r'.current = revision r.current + (taken events).length := by
  induction run with
  | nil r => rfl
  | cons step _ ih =>
      cases step with
      | look party => exact ih
      | told builds fits =>
          simp only [Register.hold, fits] at ih
          simp only [taken, List.length_cons, ih]
          omega
      | untold builds fits =>
          simp only [fits] at ih
          simp only [taken, List.length_cons, ih]
          omega
      | refuse => exact ih

end SignalService.Revision

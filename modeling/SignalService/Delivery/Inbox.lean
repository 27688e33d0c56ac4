import Mathlib.Data.Set.Insert
import Mathlib.Logic.Relation

/-! # Messages shown at least once

Messages are numbered as they arrive. One that can be read may be shown, any number of times, once
all those before it were that can be read as well. Only what was shown is acknowledged.
-/

namespace SignalService.Delivery

open Relation

variable {α : Type}

structure Inbox (α : Type) where
  arrived : List α
  shown : Set Nat
  acknowledged : Set Nat

def Inbox.empty : Inbox α := ⟨[], ∅, ∅⟩

/-- The messages before this one that can be read were shown. -/
def Inbox.GaplessAt (readable : α → Prop) (s : Inbox α) (n : Nat) : Prop :=
  ∀ m < n, ∀ a, s.arrived[m]? = some a → readable a → m ∈ s.shown

inductive Step (readable : α → Prop) (s : Inbox α) : Inbox α → Prop where
  | arrive (a : α) : Step readable s { s with arrived := s.arrived ++ [a] }
  | display (n : Nat) (a : α) (there : s.arrived[n]? = some a) (reads : readable a)
      (gapless : s.GaplessAt readable n) : Step readable s { s with shown := insert n s.shown }
  | acknowledge (n : Nat) (shown : n ∈ s.shown) :
      Step readable s { s with acknowledged := insert n s.acknowledged }

/-- Nothing that is acknowledged is lost, and nothing is passed over. -/
structure Kept (readable : α → Prop) (s : Inbox α) : Prop where
  acknowledged : ∀ n ∈ s.acknowledged, n ∈ s.shown
  reads : ∀ n ∈ s.shown, ∃ a, s.arrived[n]? = some a ∧ readable a
  gapless : ∀ n ∈ s.shown, s.GaplessAt readable n

variable {readable : α → Prop} {s s' : Inbox α}

theorem kept_empty : Kept readable Inbox.empty where
  acknowledged _ member := member.elim
  reads _ member := member.elim
  gapless _ member := member.elim

theorem getElem?_arrive {n : Nat} {a : α} (there : s.arrived[n]? = some a) (b : α) :
    (s.arrived ++ [b])[n]? = some a := by
  rw [List.getElem?_append_left (List.getElem?_eq_some_iff.mp there).1]
  exact there

theorem Step.kept (kept : Kept readable s) (step : Step readable s s') : Kept readable s' := by
  cases step with
  | arrive b =>
      refine ⟨kept.acknowledged, fun n shown => ?_, fun n shown m before a there => ?_⟩
      · obtain ⟨a, there, reads⟩ := kept.reads n shown
        exact ⟨a, getElem?_arrive there b, reads⟩
      · obtain ⟨a', found, -⟩ := kept.reads n shown
        have inside : m < s.arrived.length :=
          before.trans (List.getElem?_eq_some_iff.mp found).1
        rw [List.getElem?_append_left inside] at there
        exact kept.gapless n shown m before a there
  | display n a there reads gapless =>
      refine ⟨fun k member => .inr (kept.acknowledged k member), ?_, ?_⟩
      · rintro k (rfl | shown)
        · exact ⟨a, there, reads⟩
        · exact kept.reads k shown
      · rintro k (rfl | shown) m before b found reads'
        · exact .inr (gapless m before b found reads')
        · exact .inr (kept.gapless k shown m before b found reads')
  | acknowledge n shown =>
      refine ⟨?_, kept.reads, kept.gapless⟩
      rintro k (rfl | member)
      · exact shown
      · exact kept.acknowledged k member

theorem kept_of_steps (steps : ReflTransGen (Step readable) Inbox.empty s) : Kept readable s := by
  induction steps with
  | refl => exact kept_empty
  | tail _ step kept => exact step.kept kept

end SignalService.Delivery

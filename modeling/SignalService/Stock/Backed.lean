import Mathlib.Tactic

/-! # Things given out that somebody answers for

What is kept has names. Some of what is kept is out: offered, or in somebody's hands. Of that some
is there to be used once, so that no two of these have one name, and some for good.
-/

namespace SignalService.Stock

variable {I V O : Type}

/-- All that is out is kept under its name, as something that opens it. -/
structure Backed (name : O → I) (opens : V → O → Prop) (kept : I → Option V)
    (once lasting : List O) : Prop where
  distinct : (once.map name).Nodup
  apart : ∀ o ∈ lasting, name o ∉ once.map name
  kept : ∀ o ∈ once ++ lasting, ∃ v, kept (name o) = some v ∧ opens v o

section Backed

variable {name : O → I} {opens : V → O → Prop} {kept : I → Option V}
  {once once' lasting lasting' : List O}

theorem backed_nil : Backed name opens kept [] [] :=
  ⟨List.nodup_nil, by simp, by simp⟩

/-- What is no longer out does not matter. -/
theorem Backed.fewer (backed : Backed name opens kept once lasting)
    (fewer : once'.Subperm once) (subset : lasting' ⊆ lasting) :
    Backed name opens kept once' lasting' := by
  obtain ⟨some, perm, sublist⟩ := fewer
  refine ⟨?_, fun o member listed => ?_, fun o member => ?_⟩
  · exact (perm.map name).nodup_iff.mp ((sublist.map name).nodup backed.distinct)
  · exact backed.apart o (subset member)
      ((sublist.map name).subset ((perm.map name).mem_iff.mpr listed))
  · rcases List.mem_append.mp member with first | second
    · exact backed.kept o (List.mem_append_left _ (sublist.subset (perm.mem_iff.mpr first)))
    · exact backed.kept o (List.mem_append_right _ (subset second))

theorem Backed.lasts (backed : Backed name opens kept once lasting) {o : O}
    (member : o ∈ lasting) : ∃ v, kept (name o) = some v ∧ opens v o :=
  backed.kept o (List.mem_append_right _ member)

theorem Backed.opened (backed : Backed name opens kept once lasting) {o : O}
    (member : o ∈ once) : ∃ v, kept (name o) = some v ∧ opens v o :=
  backed.kept o (List.mem_append_left _ member)

theorem Backed.name_kept (backed : Backed name opens kept once lasting) {o : O} {i : I}
    (member : o ∈ once ++ lasting) (unused : kept i = none) : name o ≠ i := by
  rintro rfl
  obtain ⟨v, found, -⟩ := backed.kept o member
  rw [unused] at found
  cases found

variable [DecidableEq I]

/-- To keep something under a name that is free does not matter to what is out. -/
theorem Backed.keep (backed : Backed name opens kept once lasting) {i : I} (v : V)
    (unused : kept i = none) :
    Backed name opens (Function.update kept i (some v)) once lasting := by
  refine ⟨backed.distinct, backed.apart, fun o member => ?_⟩
  rw [Function.update_of_ne (backed.name_kept member unused)]
  exact backed.kept o member

/-- What is kept under a free name may be given out once. -/
theorem Backed.offer (backed : Backed name opens kept once lasting) {v : V} {o : O}
    (unused : kept (name o) = none) (opened : opens v o) :
    Backed name opens (Function.update kept (name o) (some v)) (o :: once) lasting := by
  have before := backed.keep v unused
  refine ⟨?_, fun other member => ?_, fun other member => ?_⟩
  · rw [List.map_cons, List.nodup_cons]
    refine ⟨fun listed => ?_, backed.distinct⟩
    obtain ⟨other, member, same⟩ := List.mem_map.mp listed
    exact backed.name_kept (List.mem_append_left _ member) unused same
  · rw [List.map_cons, List.mem_cons, not_or]
    exact ⟨backed.name_kept (List.mem_append_right _ member) unused, backed.apart other member⟩
  · rcases List.mem_cons.mp member with rfl | member
    · exact ⟨v, Function.update_self .., opened⟩
    · exact before.kept other member

/-- It may also be given out for good. -/
theorem Backed.offer_lasting (backed : Backed name opens kept once lasting) {v : V} {o : O}
    (unused : kept (name o) = none) (opened : opens v o) :
    Backed name opens (Function.update kept (name o) (some v)) once (o :: lasting) := by
  have before := backed.keep v unused
  refine ⟨backed.distinct, List.forall_mem_cons.mpr ⟨fun listed => ?_, backed.apart⟩,
    fun other member => ?_⟩
  · obtain ⟨other, member, same⟩ := List.mem_map.mp listed
    exact backed.name_kept (List.mem_append_left _ member) unused same
  · rcases List.mem_append.mp member with first | second
    · exact before.opened first
    · rcases List.mem_cons.mp second with rfl | second
      · exact ⟨v, Function.update_self .., opened⟩
      · exact before.lasts second

/-- What is used is no longer kept. -/
theorem Backed.use {o : O} (backed : Backed name opens kept (o :: once) lasting) :
    Backed name opens (Function.update kept (name o) none) once lasting := by
  have distinct := backed.distinct
  rw [List.map_cons, List.nodup_cons] at distinct
  refine ⟨distinct.2, fun other member listed => ?_, fun other member => ?_⟩
  · exact backed.apart other member (List.mem_cons_of_mem _ listed)
  · have others : name other ≠ name o := by
      rcases List.mem_append.mp member with first | second
      · intro same
        exact distinct.1 (same ▸ List.mem_map_of_mem first)
      · intro same
        exact backed.apart other second (same ▸ List.mem_cons_self)
    rw [Function.update_of_ne others]
    exact backed.kept other (List.mem_cons_of_mem _ member)

/-- The same for something that may not be there. -/
def spend (kept : I → Option V) : Option I → I → Option V
  | none => kept
  | some i => Function.update kept i none

theorem Backed.spend {o : Option O} (backed : Backed name opens kept (o.toList ++ once) lasting) :
    Backed name opens (Stock.spend kept (o.map name)) once lasting := by
  cases o with
  | none => exact backed
  | some o => exact backed.use

theorem spend_eq_none {i : I} (used : Option I) (absent : kept i = none) :
    Stock.spend kept used i = none := by
  cases used with
  | none => exact absent
  | some j =>
      by_cases same : i = j
      · rw [same, Stock.spend, Function.update_self]
      · rw [Stock.spend, Function.update_of_ne same, absent]

end Backed

end SignalService.Stock

import Mathlib.Tactic

/-! # Events that keep a distance

A log of events in time, the last one first. Some of them are marked, and after a marked one
nothing happens for a while; then there are not many of them.
-/

namespace SignalService.Revision

variable {α : Type} (gap : Nat) (time : α → Nat) (marked : α → Bool)

/-- After a marked event, nothing happens before the gap is over. -/
def Spaced (log : List α) : Prop :=
  log.Pairwise fun later earlier => marked earlier = true → time earlier + gap ≤ time later

variable {gap time marked} {log : List α} {event : α} {first last : Nat}

theorem spaced_nil : Spaced gap time marked [] := .nil

theorem Spaced.cons (spaced : Spaced gap time marked log)
    (after : ∀ earlier ∈ log, marked earlier = true → time earlier + gap ≤ time event) :
    Spaced gap time marked (event :: log) :=
  List.Pairwise.cons after spaced

theorem length_mul_le {times : List Nat}
    (apart : times.Pairwise fun later earlier => earlier + gap ≤ later)
    (since : ∀ t ∈ times, first ≤ t) (upto : ∀ t ∈ times, t ≤ last) :
    times.length * gap ≤ last - first + gap := by
  induction times generalizing last with
  | nil => simp
  | cons t times ih =>
      obtain ⟨before, rest⟩ := List.pairwise_cons.mp apart
      have ended := upto t List.mem_cons_self
      rw [List.length_cons, Nat.succ_mul]
      cases times with
      | nil => simp
      | cons u times =>
          have begun := since u (by simp)
          have gone := before u List.mem_cons_self
          have earlier : ∀ e ∈ u :: times, e ≤ t - gap := by
            intro e member
            have := before e member
            omega
          have fits := ih rest (fun e member => since e (List.mem_cons_of_mem _ member)) earlier
          omega

/-- The marked events fit into the time that they span, a gap for each. -/
theorem Spaced.countP_mul_le (spaced : Spaced gap time marked log)
    (since : ∀ event ∈ log, first ≤ time event) (upto : ∀ event ∈ log, time event ≤ last) :
    log.countP marked * gap ≤ last - first + gap := by
  have apart : ((log.filter marked).map time).Pairwise fun later earlier =>
      earlier + gap ≤ later := by
    rw [List.pairwise_map]
    refine (List.Pairwise.sublist List.filter_sublist spaced).imp_of_mem ?_
    intro later earlier _ member distance
    exact distance (List.mem_filter.mp member).2
  have inside (t : Nat) (member : t ∈ (log.filter marked).map time) : ∃ e ∈ log, time e = t := by
    obtain ⟨e, kept, rfl⟩ := List.mem_map.mp member
    exact ⟨e, (List.mem_filter.mp kept).1, rfl⟩
  have fits : ((log.filter marked).map time).length * gap ≤ last - first + gap := by
    refine length_mul_le apart (fun t member => ?_) fun t member => ?_
    · obtain ⟨e, logged, rfl⟩ := inside t member
      exact since e logged
    · obtain ⟨e, logged, rfl⟩ := inside t member
      exact upto e logged
  rwa [List.length_map, ← List.countP_eq_length_filter] at fits

end SignalService.Revision

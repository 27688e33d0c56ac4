import SignalService.Effect.Prog
import Mathlib.Data.List.DropRight

/-! # Slices of a buffer

A vector that is read and written where it stands, a slice at a time. A slice out of bounds is
a panic, and so is one that is overwritten with another length.
-/

namespace SignalService.Effect.Buffer

variable {ε α : Type}

/-- `buffer[start..stop]` -/
def slice (buffer : List α) (start stop : Nat) : Exit ε (List α) :=
  if start ≤ stop ∧ stop ≤ buffer.length then .ret ((buffer.take stop).drop start)
  else .panic "range end index out of range"

/-- `buffer[start..]` -/
def sliceFrom (buffer : List α) (start : Nat) : Exit ε (List α) :=
  if start ≤ buffer.length then .ret (buffer.drop start)
  else .panic "range start index out of range"

/-- `buffer[start..stop].copy_from_slice(part)` -/
def copyFromSlice (buffer : List α) (start stop : Nat) (part : List α) : Exit ε (List α) := do
  let old ← slice buffer start stop
  if part.length = old.length then return buffer.take start ++ part ++ buffer.drop stop
  else .panic "source slice length does not match destination slice length"

/-- `buffer.resize(length, value)` -/
def resize (buffer : List α) (length : Nat) (value : α) : List α :=
  buffer.take length ++ List.replicate (length - buffer.length) value

/-- `buffer.iter().rposition(p)` -/
def rposition (p : α → Bool) (buffer : List α) : Option Nat :=
  (buffer.reverse.findIdx? p).map (buffer.length - 1 - ·)

theorem slice_panics_iff {buffer : List α} {start stop : Nat} :
    (slice buffer start stop : Exit ε (List α)).Panics ↔
      ¬ (start ≤ stop ∧ stop ≤ buffer.length) := by
  unfold slice
  split <;> simp_all

theorem sliceFrom_panics_iff {buffer : List α} {start : Nat} :
    (sliceFrom buffer start : Exit ε (List α)).Panics ↔ ¬ start ≤ buffer.length := by
  unfold sliceFrom
  split <;> simp_all

theorem slice_append {front : List α} {stop : Nat} (length : front.length = stop)
    (back : List α) : (slice (front ++ back) 0 stop : Exit ε (List α)) = .ret front := by
  unfold slice
  rw [if_pos (by simp [length]), List.take_left' length, List.drop_zero]

theorem sliceFrom_append {front : List α} {start : Nat} (length : front.length = start)
    (back : List α) : (sliceFrom (front ++ back) start : Exit ε (List α)) = .ret back := by
  unfold sliceFrom
  rw [if_pos (by simp [length]), List.drop_left' length]

/-- Overwritten from its start on, a buffer keeps its end. -/
theorem copyFromSlice_front {old part : List α} {stop : Nat} (length : old.length = stop)
    (same : part.length = stop) (back : List α) :
    (copyFromSlice (old ++ back) 0 stop part : Exit ε (List α)) = .ret (part ++ back) := by
  unfold copyFromSlice
  rw [slice_append length, Exit.bind_eq, Exit.ret_bind, if_pos (by rw [same, length]),
    List.drop_left' length]
  rfl

theorem resize_longer {buffer : List α} {length : Nat} (longer : buffer.length ≤ length)
    (value : α) :
    resize buffer length value = buffer ++ List.replicate (length - buffer.length) value := by
  unfold resize
  rw [List.take_of_length_le longer]

theorem length_resize (buffer : List α) (length : Nat) (value : α) :
    (resize buffer length value).length = length := by
  simp only [resize, List.length_append, List.length_take, List.length_replicate]
  omega

theorem rposition_concat (p : α → Bool) (buffer : List α) (x : α) :
    rposition p (buffer ++ [x]) = if p x then some buffer.length else rposition p buffer := by
  unfold rposition
  rw [List.reverse_append, List.reverse_singleton, List.singleton_append, List.findIdx?_cons]
  split
  · simp
  · rw [Option.map_map]
    congr 1
    funext i
    simp only [Function.comp, List.length_append, List.length_singleton]
    omega

theorem rposition_lt {p : α → Bool} {buffer : List α} {i : Nat}
    (found : rposition p buffer = some i) : i < buffer.length := by
  obtain ⟨k, reversed, rfl⟩ := Option.map_eq_some_iff.mp found
  have inside := (List.findIdx?_eq_some_iff_findIdx_eq.mp reversed).1
  rw [List.length_reverse] at inside
  omega

/-- Cut off after the last that is found, a buffer loses those at its end that are not. -/
theorem take_rposition (p : α → Bool) (buffer : List α) :
    buffer.take (((rposition p buffer).map (· + 1)).getD 0) = buffer.rdropWhile (! p ·) := by
  induction buffer using List.reverseRecOn with
  | nil => rfl
  | append_singleton buffer x ih =>
      rw [rposition_concat, List.rdropWhile_concat]
      cases found : p x with
      | true => simp
      | false =>
          have inside : ((rposition p buffer).map (· + 1)).getD 0 ≤ buffer.length := by
            cases last : rposition p buffer with
            | none => exact Nat.zero_le _
            | some i => exact rposition_lt last
          simp only [Bool.false_eq_true, if_false, Bool.not_false, if_true]
          rw [List.take_append_of_le_length inside, ih]

end SignalService.Effect.Buffer

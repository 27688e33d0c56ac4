import Mathlib.Tactic

/-! # Length-delimited frames

A sequence of byte strings written one after the other, each with its length before it as a
varint: groups of seven bits, the lowest first, all but the last with the high bit set. A
length has at most sixty-four bits, and so at most ten groups.
-/

namespace SignalService.Codec

/-! ## Varints -/

/-- The number in at most so many groups. -/
def encodeGroups : (groups n : Nat) → List UInt8
  | 0, _ => []
  | groups + 1, n =>
      if n < 128 then [UInt8.ofNat n]
      else UInt8.ofNat (n % 128 + 128) :: encodeGroups groups (n / 128)

/-- Of the last group only one bit is left. -/
def decodeGroups : (groups : Nat) → List UInt8 → Option (Nat × List UInt8)
  | 0, _ => none
  | _ + 1, [] => none
  | groups + 1, b :: rest =>
      if b.toNat < 128 then
        if groups = 0 ∧ 2 ≤ b.toNat then none else some (b.toNat, rest)
      else (decodeGroups groups rest).map fun decoded =>
        (b.toNat % 128 + 128 * decoded.1, decoded.2)

def encodeVarint (n : Nat) : List UInt8 := encodeGroups 10 n

def decodeVarint (bytes : List UInt8) : Option (Nat × List UInt8) := decodeGroups 10 bytes

theorem decodeGroups_encodeGroups {groups n : Nat} (bound : n < 2 * 128 ^ groups)
    (rest : List UInt8) :
    decodeGroups (groups + 1) (encodeGroups (groups + 1) n ++ rest) = some (n, rest) := by
  induction groups generalizing n with
  | zero =>
      have small : n < 2 := by simpa using bound
      have byte : (UInt8.ofNat n).toNat = n := by
        rw [UInt8.toNat_ofNat']
        omega
      rw [encodeGroups, if_pos (by omega), List.singleton_append, decodeGroups, byte,
        if_pos (by omega), if_neg (by omega)]
  | succ groups ih =>
      rw [encodeGroups]
      split
      case isTrue small =>
          have byte : (UInt8.ofNat n).toNat = n := by
            rw [UInt8.toNat_ofNat']
            omega
          rw [List.singleton_append, decodeGroups, byte, if_pos small, if_neg (by omega)]
      case isFalse large =>
          have byte : (UInt8.ofNat (n % 128 + 128)).toNat = n % 128 + 128 := by
            rw [UInt8.toNat_ofNat']
            omega
          have fewer : n / 128 < 2 * 128 ^ groups := by
            rw [Nat.div_lt_iff_lt_mul (by decide), Nat.mul_assoc]
            rwa [Nat.pow_succ] at bound
          rw [List.cons_append, decodeGroups, byte, if_neg (by omega), ih fewer, Option.map_some]
          congr 2
          omega

theorem decodeVarint_encodeVarint {n : Nat} (bound : n < 2 ^ 64) (rest : List UInt8) :
    decodeVarint (encodeVarint n ++ rest) = some (n, rest) :=
  decodeGroups_encodeGroups bound rest

/-- A varint takes something from the front. -/
theorem decodeGroups_shorter {groups n : Nat} {bytes rest : List UInt8}
    (decoded : decodeGroups groups bytes = some (n, rest)) : rest.length < bytes.length := by
  induction groups generalizing bytes n with
  | zero => cases decoded
  | succ groups ih =>
      cases bytes with
      | nil => cases decoded
      | cons b bytes =>
          rw [decodeGroups] at decoded
          split at decoded
          · split at decoded
            · cases decoded
            · cases decoded
              exact Nat.lt_succ_self _
          · obtain ⟨⟨m, left⟩, read, same⟩ := Option.map_eq_some_iff.mp decoded
            cases same
            exact Nat.lt_succ_of_lt (ih read)

/-! ## Frames -/

def encodeFrame (payload : List UInt8) : List UInt8 := encodeVarint payload.length ++ payload

/-- The first frame, and what comes after it. -/
def decodeFrame (bytes : List UInt8) : Option (List UInt8 × List UInt8) :=
  (decodeVarint bytes).bind fun (length, rest) =>
    if length ≤ rest.length then some (rest.take length, rest.drop length) else none

theorem decodeFrame_encodeFrame {payload : List UInt8} (bound : payload.length < 2 ^ 64)
    (rest : List UInt8) : decodeFrame (encodeFrame payload ++ rest) = some (payload, rest) := by
  unfold decodeFrame encodeFrame
  rw [List.append_assoc, decodeVarint_encodeVarint bound]
  simp

/-- A zero is a frame with nothing in it. -/
theorem decodeFrame_zero (rest : List UInt8) : decodeFrame (0 :: rest) = some ([], rest) := by
  unfold decodeFrame decodeVarint
  simp [decodeGroups]

theorem decodeFrame_shorter {bytes payload rest : List UInt8}
    (decoded : decodeFrame bytes = some (payload, rest)) : rest.length < bytes.length := by
  obtain ⟨⟨length, left⟩, read, framed⟩ := Option.bind_eq_some_iff.mp decoded
  have shorter : left.length < bytes.length := decodeGroups_shorter read
  dsimp only at framed
  split at framed
  · cases framed
    rw [List.length_drop]
    omega
  · cases framed

end SignalService.Codec

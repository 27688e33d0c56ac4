import Mathlib.Tactic
import Mathlib.Data.List.DropRight

/-! # UTF-8

A zero byte is the character NUL, and never a part of another character. What separates or pads
strings with zeros can so be undone, as long as no string has a NUL of its own. Bytes that are no
string are read with replacements.
-/

namespace SignalService.Codec

theorem toUTF8_eq_flatMap (s : String) :
    s.toUTF8.data.toList = s.toList.flatMap String.utf8EncodeChar := by
  rw [String.toUTF8_eq_toByteArray, ← String.utf8Encode_toList, List.utf8Encode,
    List.toList_data_toByteArray]

theorem zero_ne_ofNat {n : Nat} (byte : n < 256) (positive : n ≠ 0) :
    (0 : UInt8) ≠ UInt8.ofNat n := by
  intro same
  have numbers := congrArg UInt8.toNat same
  rw [UInt8.toNat_ofNat', Nat.mod_eq_of_lt byte] at numbers
  exact positive numbers.symm

theorem zero_mem_utf8EncodeChar {c : Char} (zero : (0 : UInt8) ∈ String.utf8EncodeChar c) :
    c = '\x00' := by
  unfold String.utf8EncodeChar at zero
  dsimp only at zero
  split at zero
  case isTrue ascii =>
      rw [List.mem_singleton] at zero
      apply Char.ext
      apply UInt32.toNat.inj
      by_contra positive
      exact zero_ne_ofNat (by omega) positive zero
  case isFalse =>
      -- every byte of a longer encoding has a mark in its high bits
      exfalso
      repeat' split at zero
      all_goals simp only [List.mem_cons, List.not_mem_nil, or_false] at zero
      · obtain first | second := zero
        · exact zero_ne_ofNat (by omega) (by omega) first
        · exact zero_ne_ofNat (by omega) (by omega) second
      · obtain first | second | third := zero
        · exact zero_ne_ofNat (by omega) (by omega) first
        · exact zero_ne_ofNat (by omega) (by omega) second
        · exact zero_ne_ofNat (by omega) (by omega) third
      · obtain first | second | third | fourth := zero
        · exact zero_ne_ofNat (by omega) (by omega) first
        · exact zero_ne_ofNat (by omega) (by omega) second
        · exact zero_ne_ofNat (by omega) (by omega) third
        · exact zero_ne_ofNat (by omega) (by omega) fourth

theorem zero_not_mem_toUTF8 {s : String} (free : '\x00' ∉ s.toList) :
    (0 : UInt8) ∉ s.toUTF8.data.toList := by
  rw [toUTF8_eq_flatMap, List.mem_flatMap]
  rintro ⟨c, member, zero⟩
  rw [zero_mem_utf8EncodeChar zero] at member
  exact free member

/-! ## Zeros at the end -/

theorem rdropWhile_append_of_not_mem {α : Type} {p : α → Bool} {l : List α} (front : List α)
    (nonempty : l ≠ []) (free : ∀ x ∈ l, p x = false) :
    (front ++ l).rdropWhile p = front ++ l := by
  rw [List.rdropWhile_eq_self_iff]
  intro whole
  rw [List.getLast_append_of_ne_nil _ nonempty, free _ (List.getLast_mem nonempty)]
  exact Bool.false_ne_true

theorem rdropWhile_append_replicate {α : Type} {p : α → Bool} {x : α} (dropped : p x = true)
    (l : List α) (n : Nat) : (l ++ List.replicate n x).rdropWhile p = l.rdropWhile p := by
  induction n with
  | zero => rw [List.replicate_zero, List.append_nil]
  | succ n ih =>
      rw [List.replicate_succ', ← List.append_assoc, List.rdropWhile_concat_pos _ _ _ dropped, ih]

/-- Without the zeros at its end, an encoding is that of the string without the NULs at its
    end. -/
theorem rdropWhile_flatMap_utf8EncodeChar (cs : List Char) :
    (cs.flatMap String.utf8EncodeChar).rdropWhile (· = 0) =
      (cs.rdropWhile (· = '\x00')).flatMap String.utf8EncodeChar := by
  induction cs using List.reverseRecOn with
  | nil => rfl
  | append_singleton cs c ih =>
      rw [List.flatMap_append, List.flatMap_singleton, List.rdropWhile_concat]
      split
      case isTrue nul =>
          rw [of_decide_eq_true nul]
          exact (List.rdropWhile_concat_pos _ _ _ rfl).trans ih
      case isFalse other =>
          rw [List.flatMap_append, List.flatMap_singleton]
          apply rdropWhile_append_of_not_mem _ String.utf8EncodeChar_ne_nil
          intro b member
          apply decide_eq_false
          rintro rfl
          exact other (decide_eq_true (zero_mem_utf8EncodeChar member))

/-! ## What is not UTF-8 -/

/-- A byte that goes on with a character. -/
def isTail (byte : UInt8) : Bool := 0x80 ≤ byte && byte ≤ 0xBF

/-- The first two bytes of a character of three or four bytes. -/
def startsLong (first second : UInt8) : Bool :=
  (first == 0xE0 && 0xA0 ≤ second && second ≤ 0xBF) ||
    (0xE1 ≤ first && first ≤ 0xEF && first != 0xED && isTail second) ||
    (first == 0xED && 0x80 ≤ second && second ≤ 0x9F) ||
    (first == 0xF0 && 0x90 ≤ second && second ≤ 0xBF) ||
    (0xF1 ≤ first && first ≤ 0xF3 && isTail second) ||
    (first == 0xF4 && 0x80 ≤ second && second ≤ 0x8F)

/-- How many bytes that are no character one replacement stands for: the longest part a character
    could start with. -/
def illFormed : List UInt8 → Nat
  | first :: second :: rest =>
      if startsLong first second then
        if 0xF0 ≤ first ∧ rest.head?.any isTail then 3 else 2
      else 1
  | _ => 1

theorem illFormed_pos (bytes : List UInt8) : 0 < illFormed bytes := by
  unfold illFormed
  grind

/-- The characters of `fromUtf8Lossy`. -/
def lossyChars : List UInt8 → List Char
  | [] => []
  | first :: rest =>
      match ByteArray.utf8DecodeChar? (first :: rest).toByteArray 0 with
      | some c => c :: lossyChars ((first :: rest).drop c.utf8Size)
      | none => '\uFFFD' :: lossyChars ((first :: rest).drop (illFormed (first :: rest)))
termination_by bytes => bytes.length
decreasing_by
  · have := c.utf8Size_pos
    simp only [List.length_drop, List.length_cons]
    omega
  · have := illFormed_pos (first :: rest)
    simp only [List.length_drop, List.length_cons]
    omega

/-- `String::from_utf8_lossy`. -/
def fromUtf8Lossy (bytes : List UInt8) : String := .ofList (lossyChars bytes)

theorem lossyChars_utf8EncodeChar_append (c : Char) (rest : List UInt8) :
    lossyChars (String.utf8EncodeChar c ++ rest) = c :: lossyChars rest := by
  have decoded : ByteArray.utf8DecodeChar? (String.utf8EncodeChar c ++ rest).toByteArray 0 =
      some c := by
    rw [List.toByteArray_append, ByteArray.utf8DecodeChar?_utf8EncodeChar_append]
  have dropped : (String.utf8EncodeChar c ++ rest).drop c.utf8Size = rest :=
    List.drop_left' (String.length_utf8EncodeChar c)
  cases bytes : String.utf8EncodeChar c ++ rest with
  | nil => simp [String.utf8EncodeChar_ne_nil] at bytes
  | cons first more =>
      rw [bytes] at decoded dropped
      rw [lossyChars, decoded]
      simp only [dropped]

theorem lossyChars_flatMap (cs : List Char) :
    lossyChars (cs.flatMap String.utf8EncodeChar) = cs := by
  induction cs with
  | nil => simp [lossyChars]
  | cons c cs ih => rw [List.flatMap_cons, lossyChars_utf8EncodeChar_append, ih]

/-- Of a string's own bytes nothing is replaced. -/
theorem fromUtf8Lossy_toUTF8 (s : String) : fromUtf8Lossy s.toUTF8.data.toList = s := by
  rw [fromUtf8Lossy, toUTF8_eq_flatMap, lossyChars_flatMap, String.ofList_toList]

end SignalService.Codec

import Mathlib.Tactic

/-! # Base64 without padding

Bytes as digits of six bits, four for every three bytes, and two or three for what is left over
in the end. A decoder that wants the unused bits to be zero takes exactly what is written.
-/

namespace SignalService.Codec.Base64

/-! ## Digits -/

abbrev Digit := Fin 64

def digits : List UInt8 → List Digit
  | [] => []
  | [x] =>
      let n := 16 * x.toNat
      [.ofNat 64 (n / 64), .ofNat 64 n]
  | [x, y] =>
      let n := 4 * (256 * x.toNat + y.toNat)
      [.ofNat 64 (n / 4096), .ofNat 64 (n / 64), .ofNat 64 n]
  | x :: y :: z :: rest =>
      let n := 65536 * x.toNat + 256 * y.toNat + z.toNat
      .ofNat 64 (n / 262144) :: .ofNat 64 (n / 4096) :: .ofNat 64 (n / 64) :: .ofNat 64 n ::
        digits rest

def ofDigits : List Digit → Option (List UInt8)
  | [] => some []
  | [_] => none
  | [a, b] =>
      if b.val % 16 = 0 then some [.ofNat ((64 * a.val + b.val) / 16)] else none
  | [a, b, c] =>
      if c.val % 4 = 0 then
        some [.ofNat ((64 * a.val + b.val) / 16), .ofNat ((64 * b.val + c.val) / 4)]
      else none
  | a :: b :: c :: d :: rest =>
      (ofDigits rest).map fun bytes => .ofNat ((64 * a.val + b.val) / 16) ::
        .ofNat ((64 * b.val + c.val) / 4) :: .ofNat (64 * c.val + d.val) :: bytes

theorem ofNat_byte {x : UInt8} {n : Nat} (same : n % 256 = x.toNat) : UInt8.ofNat n = x := by
  apply UInt8.toNat.inj
  rw [UInt8.toNat_ofNat']
  exact same

theorem ofNat_digit {d : Digit} {n : Nat} (same : n % 64 = d.val) : Fin.ofNat 64 n = d :=
  Fin.ext same

theorem ofDigits_digits (bytes : List UInt8) : ofDigits (digits bytes) = some bytes := by
  induction bytes using digits.induct with
  | case1 => rfl
  | case2 x =>
      have small := x.toNat_lt
      simp only [digits, ofDigits, Fin.val_ofNat]
      rw [if_pos (by omega), ofNat_byte (x := x) (by omega)]
  | case3 x y =>
      have xSmall := x.toNat_lt
      have ySmall := y.toNat_lt
      simp only [digits, ofDigits, Fin.val_ofNat]
      rw [if_pos (by omega), ofNat_byte (x := x) (by omega), ofNat_byte (x := y) (by omega)]
  | case4 x y z rest ih =>
      have xSmall := x.toNat_lt
      have ySmall := y.toNat_lt
      have zSmall := z.toNat_lt
      simp only [digits, ofDigits, Fin.val_ofNat, ih, Option.map_some]
      rw [ofNat_byte (x := x) (by omega), ofNat_byte (x := y) (by omega),
        ofNat_byte (x := z) (by omega)]

/-- What is read is what is written, and nothing else is. -/
theorem digits_of_ofDigits {ds : List Digit} {bytes : List UInt8}
    (read : ofDigits ds = some bytes) : digits bytes = ds := by
  induction ds using ofDigits.induct generalizing bytes with
  | case1 =>
      cases read
      rfl
  | case2 => cases read
  | case3 a b whole =>
      rw [ofDigits, if_pos whole] at read
      cases read
      simp only [digits, UInt8.toNat_ofNat']
      rw [ofNat_digit (d := a) (by omega), ofNat_digit (d := b) (by omega)]
  | case4 a b loose =>
      rw [ofDigits, if_neg loose] at read
      cases read
  | case5 a b c whole =>
      rw [ofDigits, if_pos whole] at read
      cases read
      simp only [digits, UInt8.toNat_ofNat']
      rw [ofNat_digit (d := a) (by omega), ofNat_digit (d := b) (by omega),
        ofNat_digit (d := c) (by omega)]
  | case6 a b c loose =>
      rw [ofDigits, if_neg loose] at read
      cases read
  | case7 a b c d rest ih =>
      rw [ofDigits] at read
      obtain ⟨others, readOthers, rfl⟩ := Option.map_eq_some_iff.mp read
      simp only [digits, UInt8.toNat_ofNat', ih readOthers]
      rw [ofNat_digit (d := a) (by omega), ofNat_digit (d := b) (by omega),
        ofNat_digit (d := c) (by omega), ofNat_digit (d := d) (by omega)]

/-! ## Alphabets -/

structure Alphabet where
  char : Digit → Char
  value : Char → Option Digit
  value_eq_some : ∀ c d, value c = some d ↔ c = char d

def encode (A : Alphabet) (bytes : List UInt8) : List Char := (digits bytes).map A.char

def decode (A : Alphabet) (text : List Char) : Option (List UInt8) :=
  (text.mapM A.value).bind ofDigits

theorem mapM_value_eq_some_iff (A : Alphabet) {text : List Char} {ds : List Digit} :
    text.mapM A.value = some ds ↔ text = ds.map A.char := by
  induction text generalizing ds with
  | nil => cases ds <;> simp
  | cons c text ih =>
      cases ds with
      | nil =>
          rw [List.mapM_cons]
          cases A.value c <;> cases text.mapM A.value <;> simp
      | cons d ds => simp [List.mapM_cons, Option.bind_eq_some_iff, A.value_eq_some, ih]

theorem decode_eq_some_iff (A : Alphabet) {text : List Char} {bytes : List UInt8} :
    decode A text = some bytes ↔ text = encode A bytes := by
  unfold decode encode
  constructor
  · intro decoded
    obtain ⟨ds, valued, read⟩ := Option.bind_eq_some_iff.mp decoded
    rw [digits_of_ofDigits read]
    exact (mapM_value_eq_some_iff A).mp valued
  · rintro rfl
    rw [(mapM_value_eq_some_iff A).mpr rfl, Option.bind_some, ofDigits_digits]

/-! ## The URL-safe alphabet -/

def urlSafeChars : List Char :=
  "ABCDEFGHIJKLMNOPQRSTUVWXYZabcdefghijklmnopqrstuvwxyz0123456789-_".toList

theorem length_urlSafeChars : urlSafeChars.length = 64 := by decide

theorem nodup_urlSafeChars : urlSafeChars.Nodup := by decide

def urlSafeChar (d : Digit) : Char := urlSafeChars.get (d.cast length_urlSafeChars.symm)

def urlSafeValue (c : Char) : Option Digit :=
  if listed : urlSafeChars.idxOf c < 64 then some ⟨urlSafeChars.idxOf c, listed⟩ else none

theorem urlSafeValue_eq_some (c : Char) (d : Digit) :
    urlSafeValue c = some d ↔ c = urlSafeChar d := by
  have inside : d.val < urlSafeChars.length := by
    rw [length_urlSafeChars]
    exact d.isLt
  have read : urlSafeChar d = urlSafeChars[d.val] := rfl
  unfold urlSafeValue
  constructor
  · intro valued
    split at valued
    case isTrue listed =>
        cases valued
        rw [read]
        exact (List.getElem_idxOf inside).symm
    case isFalse => cases valued
  · rintro rfl
    have index : urlSafeChars.idxOf (urlSafeChar d) = d.val := by
      rw [read]
      exact nodup_urlSafeChars.idxOf_getElem d.val inside
    rw [dif_pos (by rw [index]; exact d.isLt)]
    congr 1
    exact Fin.ext index

def urlSafe : Alphabet := ⟨urlSafeChar, urlSafeValue, urlSafeValue_eq_some⟩

theorem encode_urlSafe_mem {bytes : List UInt8} {c : Char} (member : c ∈ encode urlSafe bytes) :
    c ∈ urlSafeChars := by
  obtain ⟨d, -, rfl⟩ := List.mem_map.mp member
  exact List.get_mem _ _

end SignalService.Codec.Base64

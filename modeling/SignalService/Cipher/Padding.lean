import SignalService.Core
import SignalService.Effect.Buffer

/-! # Message padding

ISO/IEC 7816-4 padding to a multiple of 160 bytes, by session version.
-/

namespace SignalService

open Effect

/-- `Iso7816::raw_unpad` on the reversed data: zeros, then the mark. -/
def rawUnpadReversed : Bytes → Option Bytes
  | [] => none
  | b :: rest =>
      if b = 0x80 then some rest
      else if b = 0 then rawUnpadReversed rest
      else none

def rawUnpad (data : Bytes) : Option Bytes :=
  (rawUnpadReversed data.reverse).map List.reverse

def stripPadding (contents : Bytes) : Except ServiceError Bytes :=
  match rawUnpad contents with
  | some m => .ok m
  | none => .error .padding

def stripPaddingVersion (version : Nat) (contents : Bytes) : Except ServiceError Bytes :=
  if version < 2 then .error (.invalidFrame "unknown version")
  else if version = 2 then .ok contents
  else stripPadding contents

/-- The buffer of `add_padding`: the contents, the mark and zeros up to the next
    multiple of 160. -/
def paddedLength (length : Nat) : Nat :=
  let withTerminator := length + 1
  let parts := withTerminator / 160
  (if withTerminator % 160 = 0 then parts else parts + 1) * 160

def addPadding (version : Nat) (contents : Bytes) : Except ServiceError Bytes :=
  if version < 2 then .error (.paddingVersion version)
  else if version = 2 then .ok contents
  else .ok (contents ++ 0x80 :: List.replicate (paddedLength contents.length - contents.length - 1) 0)

/-- `Iso7816::raw_pad`, which panics when there is no room for the mark. -/
def rawPad (block : Bytes) (pos : Nat) : Exit ServiceError Bytes :=
  if block.length ≤ pos then .panic "`pos` is bigger or equal to block size"
  else .ret (block.take pos ++ 0x80 :: List.replicate (block.length - (pos + 1)) 0)

/-- `add_padding` move by move, of which `addPadding` is what comes out. -/
def addPaddingInBuffer (version : Nat) (contents : Bytes) : Exit ServiceError Bytes :=
  if version < 2 then .throw (.paddingVersion version)
  else if version = 2 then .ret contents
  else do
    let messageLength := contents.length
    let buffer := List.replicate (paddedLength messageLength) 0
    let buffer ← Buffer.copyFromSlice buffer 0 messageLength contents
    rawPad buffer messageLength

/-! ## What is added -/

/-- There is always room for the mark, and never for a whole part more. -/
theorem paddedLength_eq (length : Nat) : paddedLength length = 160 * (length / 160 + 1) := by
  unfold paddedLength
  dsimp only
  split <;> omega

theorem paddedLength_isLeast (length : Nat) :
    IsLeast {n | 160 ∣ n ∧ length < n} (paddedLength length) := by
  rw [paddedLength_eq]
  constructor
  · constructor
    · exact Nat.dvd_mul_right _ _
    · omega
  · intro n above
    obtain ⟨⟨parts, rfl⟩, longer⟩ := above
    omega

theorem rawPad_append (contents zeros : Bytes) (room : 0 < zeros.length) :
    rawPad (contents ++ zeros) contents.length =
      .ret (contents ++ 0x80 :: List.replicate (zeros.length - 1) 0) := by
  unfold rawPad
  rw [if_neg (by rw [List.length_append]; omega), List.take_left, List.length_append]
  congr 4
  omega

/-- No move of `add_padding` leaves its buffer. -/
theorem addPaddingInBuffer_eq (version : Nat) (contents : Bytes) :
    addPaddingInBuffer version contents = Exit.ofExcept (addPadding version contents) := by
  have longer := (paddedLength_isLeast contents.length).1.2
  have parts : List.replicate (paddedLength contents.length) (0 : UInt8) =
      List.replicate contents.length 0 ++
        List.replicate (paddedLength contents.length - contents.length) 0 := by
    rw [List.replicate_append_replicate]
    congr 1
    omega
  unfold addPaddingInBuffer addPadding
  split
  · rfl
  split
  · rfl
  rw [Exit.bind_eq, parts, Buffer.copyFromSlice_front List.length_replicate rfl, Exit.ret_bind,
    rawPad_append _ _ (by rw [List.length_replicate]; omega), List.length_replicate]
  rfl

/-! ## What is stripped -/

theorem rawUnpadReversed_eq_some {data rest : Bytes} :
    rawUnpadReversed data = some rest ↔
      ∃ zeros, data = List.replicate zeros 0 ++ 0x80 :: rest := by
  induction data with
  | nil => simp [rawUnpadReversed]
  | cons b data ih =>
      unfold rawUnpadReversed
      split
      case isTrue mark =>
          subst mark
          constructor
          · rintro ⟨⟩
            exact ⟨0, rfl⟩
          · rintro ⟨zeros | zeros, marked⟩
            · simpa using marked
            · simp [List.replicate_succ] at marked
      case isFalse mark =>
          split
          case isTrue zero =>
              subst zero
              rw [ih]
              constructor
              · rintro ⟨zeros, rfl⟩
                exact ⟨zeros + 1, rfl⟩
              · rintro ⟨zeros | zeros, marked⟩
                · simp at marked
                · exact ⟨zeros, by simpa [List.replicate_succ] using marked⟩
          case isFalse zero =>
              constructor
              · intro stripped
                cases stripped
              · rintro ⟨zeros | zeros, marked⟩
                · exact absurd (List.cons.inj marked).1 mark
                · exact absurd (List.cons.inj marked).1 zero

/-- Stripped is the last mark that only zeros follow, with the zeros. -/
theorem stripPadding_eq_ok {contents data : Bytes} :
    stripPadding contents = .ok data ↔
      ∃ zeros, contents = data ++ 0x80 :: List.replicate zeros 0 := by
  have unpadded : stripPadding contents = .ok data ↔
      rawUnpadReversed contents.reverse = some data.reverse := by
    unfold stripPadding rawUnpad
    cases rawUnpadReversed contents.reverse with
    | none => simp
    | some rest => simp [List.reverse_eq_iff]
  rw [unpadded, rawUnpadReversed_eq_some]
  apply exists_congr
  intro zeros
  rw [List.reverse_eq_iff]
  simp

/-- Both sides agree on a version. -/
theorem stripPaddingVersion_addPadding {version : Nat} {contents padded : Bytes}
    (added : addPadding version contents = .ok padded) :
    stripPaddingVersion version padded = .ok contents := by
  unfold addPadding at added
  unfold stripPaddingVersion
  split at added
  · cases added
  split at added
  case isTrue plain =>
      cases added
      simp [plain]
  case isFalse old plain =>
      rw [if_neg old, if_neg plain]
      cases added
      exact stripPadding_eq_ok.mpr ⟨_, rfl⟩

/-- Stripping whatever the version removes what was added, from the third version on. -/
theorem stripPadding_addPadding {version : Nat} {contents padded : Bytes}
    (added : addPadding version contents = .ok padded) (third : version ≠ 2) :
    stripPadding padded = .ok contents := by
  have stripped := stripPaddingVersion_addPadding added
  unfold stripPaddingVersion at stripped
  rw [if_neg third] at stripped
  split at stripped
  · cases stripped
  · exact stripped

/-- From the third version on a message is padded with the mark and zeros, up to the next
    multiple of 160, and whatever it ends in only this is stripped from it. -/
theorem addPadding_stripPadding_exact {version : Nat} (third : 3 ≤ version) (contents : Bytes) :
    (∃ padded zeros, addPaddingInBuffer version contents = .ret padded ∧
      padded = contents ++ 0x80 :: List.replicate zeros 0 ∧
      IsLeast {n | 160 ∣ n ∧ contents.length < n} padded.length ∧
      padded.length = 160 * (contents.length / 160 + 1) ∧
      stripPadding padded = .ok contents) ∧
    ∀ data m, stripPadding data = .ok m ↔ ∃ zeros, data = m ++ 0x80 :: List.replicate zeros 0 := by
  constructor
  · have longer := (paddedLength_isLeast contents.length).1.2
    have added : addPadding version contents = .ok (contents ++
        0x80 :: List.replicate (paddedLength contents.length - contents.length - 1) 0) := by
      unfold addPadding
      rw [if_neg (by omega), if_neg (by omega)]
    have length : (contents ++ 0x80 :: List.replicate (paddedLength contents.length -
        contents.length - 1) 0).length = paddedLength contents.length := by
      simp only [List.length_append, List.length_cons, List.length_replicate]
      omega
    refine ⟨_, paddedLength contents.length - contents.length - 1, ?_, rfl, ?_, ?_, ?_⟩
    · rw [addPaddingInBuffer_eq, added]
      rfl
    · rw [length]
      exact paddedLength_isLeast contents.length
    · rw [length, paddedLength_eq]
    · exact stripPadding_eq_ok.mpr ⟨_, rfl⟩
  · intro data m
    exact stripPadding_eq_ok

theorem addPadding_stripPadding_exact_padding_alike :
    (∃ padded zeros, addPaddingInBuffer 3 [0x80, 0] = .ret padded ∧
      padded = [0x80, 0] ++ 0x80 :: List.replicate zeros 0 ∧
      IsLeast {n | 160 ∣ n ∧ 2 < n} padded.length ∧ padded.length = 160 ∧
      stripPadding padded = .ok [0x80, 0]) ∧
    ∀ data m, stripPadding data = .ok m ↔ ∃ zeros, data = m ++ 0x80 :: List.replicate zeros 0 :=
  addPadding_stripPadding_exact (Nat.le_refl 3) [0x80, 0]

end SignalService

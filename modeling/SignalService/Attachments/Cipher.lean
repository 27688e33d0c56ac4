import SignalService.Core
import SignalService.Effect.Buffer

/-! # The attachment cipher

`attachment_cipher.rs`: AES-256 in CBC mode with PKCS#7 padding, the IV before the ciphertext
and a MAC of both after it, all of it moved about in one buffer.
-/

namespace SignalService

open Effect

inductive AttachmentCipherError where
  | macError
  | paddingError
  deriving DecidableEq, Repr

/-- The block cipher on whole blocks, and the MAC. -/
structure AttachmentCiphers where
  cbcEncrypt : (key iv blocks : Bytes) → Bytes
  cbcDecrypt : (key iv blocks : Bytes) → Bytes
  hmac : (key message : Bytes) → Bytes

namespace AttachmentCiphers

/-- What the ciphers are relied on for. -/
structure Lawful (C : AttachmentCiphers) : Prop where
  length_encrypt : ∀ key iv blocks, (C.cbcEncrypt key iv blocks).length = blocks.length
  decrypt_encrypt : ∀ key iv blocks, blocks.length % 16 = 0 →
    C.cbcDecrypt key iv (C.cbcEncrypt key iv blocks) = blocks
  length_hmac : ∀ key message, (C.hmac key message).length = 32

end AttachmentCiphers

/-! ## PKCS#7 -/

/-- The number of bytes that are added, which is what each of them says. -/
def padding (length : Nat) : Nat := 16 - length % 16

def pkcs7Pad (message : Bytes) : Bytes :=
  message ++ List.replicate (padding message.length) (UInt8.ofNat (padding message.length))

/-- `Pkcs7::unpad_blocks`, given the whole of the blocks. -/
def pkcs7Unpad (blocks : Bytes) : Option Bytes :=
  match blocks.getLast? with
  | none => none
  | some last =>
      let n := last.toNat
      if n = 0 ∨ 16 < n then none
      else if (blocks.drop (blocks.length - n)).all (· = last) then
        some (blocks.take (blocks.length - n))
      else none

theorem pkcs7Unpad_pkcs7Pad (message : Bytes) : pkcs7Unpad (pkcs7Pad message) = some message := by
  have positive : 0 < padding message.length := by
    unfold padding
    omega
  have small : padding message.length ≤ 16 := Nat.sub_le _ _
  have byte : (UInt8.ofNat (padding message.length)).toNat = padding message.length := by
    rw [UInt8.toNat_ofNat']
    omega
  have last : (pkcs7Pad message).getLast? = some (UInt8.ofNat (padding message.length)) := by
    rw [pkcs7Pad, List.getLast?_append, List.getLast?_replicate,
      if_neg (Nat.pos_iff_ne_zero.mp positive)]
    rfl
  have length : (pkcs7Pad message).length - padding message.length = message.length := by
    simp [pkcs7Pad]
  rw [pkcs7Unpad, last]
  dsimp only
  rw [byte, if_neg (by omega), length]
  simp [pkcs7Pad]

/-- Unpadding only cuts off. -/
theorem pkcs7Unpad_eq_some {blocks message : Bytes} (unpadded : pkcs7Unpad blocks = some message) :
    ∃ rest, blocks = message ++ rest := by
  unfold pkcs7Unpad at unpadded
  split at unpadded
  · cases unpadded
  dsimp only at unpadded
  split at unpadded
  · cases unpadded
  split at unpadded
  · cases unpadded
    exact ⟨_, (List.take_append_drop _ _).symm⟩
  · cases unpadded

theorem length_pkcs7Pad (message : Bytes) :
    (pkcs7Pad message).length = 16 * (message.length / 16 + 1) := by
  simp only [pkcs7Pad, padding, List.length_append, List.length_replicate]
  omega

/-! ## In one buffer -/

/-- `copy_within(start..stop, dest)`, which panics out of bounds. -/
def copyWithin {ε : Type} (buffer : Bytes) (start stop dest : Nat) : Exit ε Bytes :=
  if start ≤ stop ∧ stop ≤ buffer.length ∧ dest ≤ buffer.length - (stop - start) then
    .ret (buffer.take dest ++ (buffer.drop start).take (stop - start) ++
      buffer.drop (dest + (stop - start)))
  else .panic "range out of bounds"

variable (C : AttachmentCiphers)

/-- `encrypt_padded`: the message at the front of the buffer is padded and encrypted where it
    stands; returned with it is the length of the ciphertext. -/
def encryptPadded? (aesHalf iv buffer : Bytes) (length : Nat) : Option (Bytes × Nat) :=
  let padded := pkcs7Pad (buffer.take length)
  if length ≤ buffer.length ∧ padded.length ≤ buffer.length then
    some (C.cbcEncrypt aesHalf iv padded ++ buffer.drop padded.length, padded.length)
  else none

/-- The key material: one half for AES, the other for the MAC. -/
def aesHalf (key : Bytes) : Bytes := key.take 32

def macHalf (key : Bytes) : Bytes := key.drop 32

def encryptInPlace {ε : Type} (iv key plaintext : Bytes) : Exit ε Bytes := do
  let plaintextLen := plaintext.length
  -- the IV goes before the plaintext
  let buffer ← copyWithin (plaintext ++ List.replicate 16 0) 0 plaintextLen 16
  let buffer ← Buffer.copyFromSlice buffer 0 16 iv
  -- room for the padding
  let buffer := buffer ++ List.replicate 16 0
  let inner ← Buffer.sliceFrom buffer 16
  let (inner, ciphertextLen) ← Exit.ofOption (.panic "encrypted ciphertext")
    (encryptPadded? C (aesHalf key) iv inner plaintextLen)
  let buffer := (buffer.take 16 ++ inner).take (16 + ciphertextLen)
  return buffer ++ C.hmac (macHalf key) buffer

/-- `decrypt_padded`: the blocks are decrypted where they stand, and only then is the padding
    looked at. Returned are the message and what the buffer has become. -/
def decryptPadded? (aesHalf iv buffer : Bytes) : Option Bytes × Bytes :=
  if buffer.length % 16 = 0 then
    (pkcs7Unpad (C.cbcDecrypt aesHalf iv buffer), C.cbcDecrypt aesHalf iv buffer)
  else (none, buffer)

/-- How `decrypt_in_place` ends, and what it leaves in the vector. -/
def decryptInPlace (key ciphertext : Bytes) : Exit AttachmentCipherError Unit × Bytes :=
  let length := ciphertext.length
  if length < 32 then (.panic "attempt to subtract with overflow", ciphertext)
  else
    let buffer := ciphertext.take (length - 32)
    let theirMac := ciphertext.drop (length - 32)
    if C.hmac (macHalf key) buffer ≠ theirMac then (.throw .macError, ciphertext)
    else if buffer.length < 16 then (.throw .paddingError, ciphertext)
    else
      match decryptPadded? C (aesHalf key) (buffer.take 16) (buffer.drop 16) with
      | (none, blocks) => (.throw .paddingError, buffer.take 16 ++ blocks ++ theirMac)
      | (some plaintext, blocks) =>
          -- the IV and the MAC are moved over and cut off
          match copyWithin (buffer.take 16 ++ blocks ++ theirMac) 16 (plaintext.length + 16) 0 with
          | .ret moved => (.ret (), moved.take plaintext.length)
          | .throw e => (.throw e, buffer.take 16 ++ blocks ++ theirMac)
          | .panic m => (.panic m, buffer.take 16 ++ blocks ++ theirMac)

/-! ## What is encrypted can be decrypted -/

section RoundTrip

variable {C} (lawful : C.Lawful) {iv key : Bytes} (sixteen : iv.length = 16) (plaintext : Bytes)

/-- What an attachment looks like: the IV, the ciphertext, and the MAC of both. -/
def sealedAttachment (C : AttachmentCiphers) (iv key plaintext : Bytes) : Bytes :=
  let blocks := iv ++ C.cbcEncrypt (aesHalf key) iv (pkcs7Pad plaintext)
  blocks ++ C.hmac (macHalf key) blocks

include lawful sixteen

omit lawful sixteen in
theorem copyWithin_plaintext {ε : Type} :
    ∃ front, front.length = 16 ∧
      (copyWithin (plaintext ++ List.replicate 16 0) 0 plaintext.length 16 : Exit ε Bytes) =
        .ret (front ++ plaintext) := by
  refine ⟨(plaintext ++ List.replicate 16 0).take 16, by simp, ?_⟩
  unfold copyWithin
  rw [if_pos]
  · simp [Nat.add_comm]
  · simp

omit lawful in
/-- Moved to the front, the plaintext is all that is kept. -/
theorem copyWithin_back {ε : Type} (rest : Bytes) :
    ∃ moved, (copyWithin (iv ++ (plaintext ++ rest)) 16 (plaintext.length + 16) 0 : Exit ε Bytes) =
      .ret moved ∧ moved.take plaintext.length = plaintext := by
  unfold copyWithin
  rw [if_pos]
  · refine ⟨_, rfl, ?_⟩
    rw [List.drop_left' sixteen, Nat.add_sub_cancel, List.take_left, List.take_zero,
      List.nil_append, List.take_left]
  · simp only [List.length_append, sixteen]
    omega

/-- All the moves of `encrypt_in_place` stay in the buffer. -/
theorem encryptInPlace_eq {ε : Type} :
    (encryptInPlace C iv key plaintext : Exit ε Bytes) =
      .ret (sealedAttachment C iv key plaintext) := by
  obtain ⟨front, frontLength, copied⟩ := copyWithin_plaintext plaintext (ε := ε)
  have fits : (pkcs7Pad plaintext).length ≤ plaintext.length + 16 := by
    rw [length_pkcs7Pad]
    omega
  have encrypted : encryptPadded? C (aesHalf key) iv (plaintext ++ List.replicate 16 0)
      plaintext.length = some (C.cbcEncrypt (aesHalf key) iv (pkcs7Pad plaintext) ++
        (plaintext ++ List.replicate 16 0).drop (pkcs7Pad plaintext).length,
        (pkcs7Pad plaintext).length) := by
    unfold encryptPadded?
    rw [List.take_left]
    simp [fits]
  have cut : (iv ++ (C.cbcEncrypt (aesHalf key) iv (pkcs7Pad plaintext) ++
      (plaintext ++ List.replicate 16 0).drop (pkcs7Pad plaintext).length)).take
        (16 + (pkcs7Pad plaintext).length) =
      iv ++ C.cbcEncrypt (aesHalf key) iv (pkcs7Pad plaintext) := by
    rw [← List.append_assoc, List.take_left']
    rw [List.length_append, sixteen, lawful.length_encrypt]
  simp only [encryptInPlace, Exit.bind_eq, Exit.pure_eq, copied, Exit.ret_bind,
    Buffer.copyFromSlice_front frontLength sixteen, List.append_assoc iv plaintext,
    Buffer.sliceFrom_append sixteen, encrypted, Exit.ofOption_some]
  rw [List.take_left' sixteen, cut]
  rfl

omit lawful sixteen in
theorem decryptPadded?_eq_some {aesHalf buffer left : Bytes}
    (decrypted : decryptPadded? C aesHalf iv buffer = (some plaintext, left)) :
    ∃ rest, left = plaintext ++ rest := by
  unfold decryptPadded? at decrypted
  split at decrypted
  · obtain ⟨unpadded, rfl⟩ := Prod.ext_iff.mp decrypted
    exact pkcs7Unpad_eq_some unpadded
  · cases decrypted

omit lawful sixteen in
theorem take_before_mac {mac : Bytes} (length : mac.length = 32) (blocks : Bytes) :
    (blocks ++ mac).take ((blocks ++ mac).length - 32) = blocks := by
  rw [List.length_append, length, Nat.add_sub_cancel, List.take_left]

omit lawful sixteen in
theorem drop_before_mac {mac : Bytes} (length : mac.length = 32) (blocks : Bytes) :
    (blocks ++ mac).drop ((blocks ++ mac).length - 32) = mac := by
  rw [List.length_append, length, Nat.add_sub_cancel, List.drop_left]

omit sixteen in
theorem decryptPadded?_cbcEncrypt (aesHalf : Bytes) :
    decryptPadded? C aesHalf iv (C.cbcEncrypt aesHalf iv (pkcs7Pad plaintext)) =
      (some plaintext, pkcs7Pad plaintext) := by
  have whole : (pkcs7Pad plaintext).length % 16 = 0 := by
    rw [length_pkcs7Pad]
    omega
  rw [decryptPadded?, lawful.length_encrypt, if_pos whole, lawful.decrypt_encrypt _ _ _ whole,
    pkcs7Unpad_pkcs7Pad]

omit lawful in
/-- With a valid MAC it is the padding that decides, and by then the blocks are decrypted. -/
theorem decryptInPlace_authentic (blocks : Bytes)
    (mac : (C.hmac (macHalf key) (iv ++ blocks)).length = 32) :
    decryptInPlace C key (iv ++ blocks ++ C.hmac (macHalf key) (iv ++ blocks)) =
      match decryptPadded? C (aesHalf key) iv blocks with
      | (none, left) =>
          (.throw .paddingError, iv ++ left ++ C.hmac (macHalf key) (iv ++ blocks))
      | (some plaintext, _) => (.ret (), plaintext) := by
  have long : ¬ (iv ++ blocks ++ C.hmac (macHalf key) (iv ++ blocks)).length < 32 := by
    rw [List.length_append, mac]
    omega
  have hasIv : ¬ (iv ++ blocks).length < 16 := by
    rw [List.length_append, sixteen]
    omega
  unfold decryptInPlace
  rw [if_neg long]
  simp only [take_before_mac mac, drop_before_mac mac, ne_eq, not_true_eq_false, if_false, hasIv]
  rw [List.take_left' sixteen, List.drop_left' sixteen]
  cases decrypted : decryptPadded? C (aesHalf key) iv blocks with
  | mk message left =>
      cases message with
      | none => rfl
      | some plaintext =>
          obtain ⟨rest, rfl⟩ := decryptPadded?_eq_some plaintext decrypted
          obtain ⟨moved, copied, kept⟩ := copyWithin_back sixteen plaintext
            (ε := AttachmentCipherError) (rest ++ C.hmac (macHalf key) (iv ++ blocks))
          dsimp only
          rw [List.append_assoc iv, List.append_assoc plaintext, copied]
          dsimp only
          rw [kept]

theorem decryptInPlace_sealedAttachment :
    decryptInPlace C key (sealedAttachment C iv key plaintext) = (.ret (), plaintext) := by
  unfold sealedAttachment
  dsimp only
  rw [decryptInPlace_authentic sixteen _ (lawful.length_hmac _ _),
    decryptPadded?_cbcEncrypt lawful]

end RoundTrip

/-- `encrypt_in_place` never leaves its buffer, truncates it within its length, and makes of it
    the IV, the ciphertext and the MAC of both, from which `decrypt_in_place` restores it. -/
theorem encryptInPlace_decryptInPlace {C : AttachmentCiphers} (lawful : C.Lawful) {ε : Type}
    (iv : Vector UInt8 16) (key : Vector UInt8 64) (plaintext : Bytes) :
    ∃ blocks buffer, blocks = iv.toList ++
        C.cbcEncrypt (aesHalf key.toList) iv.toList (pkcs7Pad plaintext) ∧
      buffer = blocks ++ C.hmac (macHalf key.toList) blocks ∧
      (encryptInPlace C iv.toList key.toList plaintext : Exit ε Bytes) = .ret buffer ∧
      blocks.length ≤ plaintext.length + 16 + 16 ∧
      buffer.length = 16 + 16 * (plaintext.length / 16 + 1) + 32 ∧
      decryptInPlace C key.toList buffer = (.ret (), plaintext) := by
  have sixteen : iv.toList.length = 16 := iv.length_toList
  have length : (iv.toList ++ C.cbcEncrypt (aesHalf key.toList) iv.toList
      (pkcs7Pad plaintext)).length = 16 + 16 * (plaintext.length / 16 + 1) := by
    rw [List.length_append, lawful.length_encrypt, length_pkcs7Pad, sixteen]
  refine ⟨_, _, rfl, rfl, encryptInPlace_eq lawful sixteen plaintext, ?_, ?_, ?_⟩
  · rw [length]
    omega
  · rw [List.length_append, length, lawful.length_hmac]
  · exact decryptInPlace_sealedAttachment lawful sixteen plaintext

/-! ## What an error leaves -/

section Documented

variable {C} (lengthHmac : ∀ key message, (C.hmac key message).length = 32) (key ciphertext : Bytes)

/-- What is promised of `decrypt_in_place`: it returns, an error leaves the vector as it was,
    and only the authentic is decrypted. -/
structure DecryptsAsDocumented (C : AttachmentCiphers) (key ciphertext : Bytes) : Prop where
  returns : ∀ message, (decryptInPlace C key ciphertext).1 ≠ .panic message
  unchanged : ∀ e, (decryptInPlace C key ciphertext).1 = .throw e →
    (decryptInPlace C key ciphertext).2 = ciphertext
  authentic : (decryptInPlace C key ciphertext).1 = .ret () → 32 ≤ ciphertext.length ∧
    C.hmac (macHalf key) (ciphertext.take (ciphertext.length - 32)) =
      ciphertext.drop (ciphertext.length - 32)

/-- An IV and whole blocks with a valid MAC, where the blocks decrypt to others that are not
    padded. -/
def BadlyPadded (C : AttachmentCiphers) (key ciphertext : Bytes) : Prop :=
  ∃ iv blocks, iv.length = 16 ∧ blocks.length % 16 = 0 ∧
    ciphertext = iv ++ blocks ++ C.hmac (macHalf key) (iv ++ blocks) ∧
    pkcs7Unpad (C.cbcDecrypt (aesHalf key) iv blocks) = none ∧
    C.cbcDecrypt (aesHalf key) iv blocks ≠ blocks

variable {key ciphertext}

theorem decryptInPlace_short (short : ciphertext.length < 32) :
    decryptInPlace C key ciphertext = (.panic "attempt to subtract with overflow", ciphertext) := by
  unfold decryptInPlace
  rw [if_pos short]

/-- A vector is too short, or it is refused as it is, or there are an IV and a valid MAC. -/
theorem decryptInPlace_cases (key ciphertext : Bytes) :
    ciphertext.length < 32 ∨
    (32 ≤ ciphertext.length ∧ ∃ e, decryptInPlace C key ciphertext = (.throw e, ciphertext)) ∨
    ∃ iv blocks, iv.length = 16 ∧
      ciphertext = iv ++ blocks ++ C.hmac (macHalf key) (iv ++ blocks) := by
  by_cases long : 32 ≤ ciphertext.length
  case neg => exact .inl (Nat.lt_of_not_le long)
  right
  by_cases mac : C.hmac (macHalf key) (ciphertext.take (ciphertext.length - 32)) =
      ciphertext.drop (ciphertext.length - 32)
  case neg =>
      left
      refine ⟨long, .macError, ?_⟩
      unfold decryptInPlace
      rw [if_neg (Nat.not_lt.mpr long)]
      dsimp only
      rw [if_pos mac]
  by_cases short : (ciphertext.take (ciphertext.length - 32)).length < 16
  case pos =>
      left
      refine ⟨long, .paddingError, ?_⟩
      unfold decryptInPlace
      rw [if_neg (Nat.not_lt.mpr long)]
      dsimp only
      rw [if_neg (not_not_intro mac), if_pos short]
  right
  refine ⟨(ciphertext.take (ciphertext.length - 32)).take 16,
    (ciphertext.take (ciphertext.length - 32)).drop 16,
    List.length_take_of_le (Nat.le_of_not_lt short), ?_⟩
  rw [List.take_append_drop, mac, List.take_append_drop]

theorem DecryptsAsDocumented.of_error {e : AttachmentCipherError}
    (ended : decryptInPlace C key ciphertext = (.throw e, ciphertext)) :
    DecryptsAsDocumented C key ciphertext where
  returns := by
    rw [ended]
    exact nofun
  unchanged := by
    rw [ended]
    exact fun _ _ => rfl
  authentic := by
    rw [ended]
    exact nofun

include lengthHmac

omit lengthHmac in
theorem DecryptsAsDocumented.long (documented : DecryptsAsDocumented C key ciphertext) :
    32 ≤ ciphertext.length := by
  by_contra short
  apply documented.returns
  rw [decryptInPlace_short (Nat.lt_of_not_le short)]

/-- The blocks of a valid MAC are left as they were unless the cipher changed them first. -/
theorem decryptInPlace_authentic_documented_iff {iv blocks : Bytes} (sixteen : iv.length = 16) :
    DecryptsAsDocumented C key (iv ++ blocks ++ C.hmac (macHalf key) (iv ++ blocks)) ↔
      ¬ (blocks.length % 16 = 0 ∧ pkcs7Unpad (C.cbcDecrypt (aesHalf key) iv blocks) = none ∧
        C.cbcDecrypt (aesHalf key) iv blocks ≠ blocks) := by
  have mac := lengthHmac (macHalf key) (iv ++ blocks)
  have ended := decryptInPlace_authentic sixteen blocks mac
  unfold decryptPadded? at ended
  by_cases whole : blocks.length % 16 = 0
  · rw [if_pos whole] at ended
    cases unpadded : pkcs7Unpad (C.cbcDecrypt (aesHalf key) iv blocks) with
    | none =>
        rw [unpadded] at ended
        dsimp only at ended
        constructor
        · rintro documented ⟨-, -, changed⟩
          have unchanged := documented.unchanged .paddingError (by rw [ended])
          rw [ended] at unchanged
          apply changed
          exact List.append_cancel_left (List.append_cancel_right unchanged)
        · intro kept
          have same : C.cbcDecrypt (aesHalf key) iv blocks = blocks := by
            by_contra changed
            exact kept ⟨whole, rfl, changed⟩
          rw [same] at ended
          exact .of_error ended
    | some plaintext =>
        rw [unpadded] at ended
        dsimp only at ended
        refine iff_of_true ⟨?_, ?_, ?_⟩ ?_
        · rw [ended]
          exact nofun
        · rw [ended]
          exact nofun
        · intro _
          constructor
          · rw [List.length_append, mac]
            omega
          · rw [take_before_mac mac, drop_before_mac mac]
        · rintro ⟨-, ⟨⟩, -⟩
  · rw [if_neg whole] at ended
    exact iff_of_true (.of_error ended) fun bad => whole bad.1

/-- The documentation holds of every vector that has room for a MAC, unless a valid MAC stands
    after blocks that are not padded: then the blocks are decrypted and the error returned. -/
theorem decryptInPlace_documented_iff :
    DecryptsAsDocumented C key ciphertext ↔
      32 ≤ ciphertext.length ∧ ¬ BadlyPadded C key ciphertext := by
  constructor
  · intro documented
    refine ⟨documented.long, ?_⟩
    rintro ⟨iv, blocks, sixteen, whole, rfl, bad⟩
    exact (decryptInPlace_authentic_documented_iff lengthHmac sixteen).mp documented ⟨whole, bad⟩
  · rintro ⟨long, padded⟩
    obtain short | ⟨-, e, ended⟩ | ⟨iv, blocks, sixteen, rfl⟩ :=
      decryptInPlace_cases (C := C) key ciphertext
    · exact absurd long (Nat.not_le.mpr short)
    · exact .of_error ended
    · rw [decryptInPlace_authentic_documented_iff lengthHmac sixteen]
      rintro ⟨whole, bad⟩
      exact padded ⟨iv, blocks, sixteen, whole, rfl, bad⟩

/-- An IV and whole blocks with a valid MAC, where the blocks decrypt to a padded plaintext. -/
def Authentic (C : AttachmentCiphers) (key ciphertext plaintext : Bytes) : Prop :=
  ∃ iv blocks, iv.length = 16 ∧ blocks.length % 16 = 0 ∧
    ciphertext = iv ++ blocks ++ C.hmac (macHalf key) (iv ++ blocks) ∧
    pkcs7Unpad (C.cbcDecrypt (aesHalf key) iv blocks) = some plaintext

theorem decryptInPlace_eq_ret {plaintext : Bytes} :
    decryptInPlace C key ciphertext = (.ret (), plaintext) ↔
      Authentic C key ciphertext plaintext := by
  constructor
  · intro ended
    obtain short | ⟨-, e, refused⟩ | ⟨iv, blocks, sixteen, rfl⟩ :=
      decryptInPlace_cases (C := C) key ciphertext
    · rw [decryptInPlace_short short] at ended
      cases ended
    · rw [refused] at ended
      cases ended
    · rw [decryptInPlace_authentic sixteen blocks (lengthHmac _ _)] at ended
      unfold decryptPadded? at ended
      by_cases whole : blocks.length % 16 = 0
      · rw [if_pos whole] at ended
        refine ⟨iv, blocks, sixteen, whole, rfl, ?_⟩
        cases unpadded : pkcs7Unpad (C.cbcDecrypt (aesHalf key) iv blocks) with
        | none =>
            rw [unpadded] at ended
            cases ended
        | some message =>
            rw [unpadded] at ended
            cases ended
            rfl
      · rw [if_neg whole] at ended
        cases ended
  · rintro ⟨iv, blocks, sixteen, whole, rfl, unpadded⟩
    rw [decryptInPlace_authentic sixteen blocks (lengthHmac _ _), decryptPadded?, if_pos whole,
      unpadded]

end Documented

namespace Sample

/-- A cipher that hides nothing. -/
def openCiphers : AttachmentCiphers where
  cbcEncrypt _ _ blocks := blocks
  cbcDecrypt _ _ blocks := blocks
  hmac _ _ := List.replicate 32 0

theorem openCiphers_lawful : openCiphers.Lawful where
  length_encrypt _ _ _ := rfl
  decrypt_encrypt _ _ _ _ := rfl
  length_hmac _ _ := List.length_replicate

/-- A cipher that turns every byte over. -/
def turningCiphers : AttachmentCiphers where
  cbcEncrypt _ _ blocks := blocks.map (255 - ·)
  cbcDecrypt _ _ blocks := blocks.map (255 - ·)
  hmac _ _ := List.replicate 32 0

end Sample

open Sample

theorem encryptInPlace_decryptInPlace_empty :
    ∃ blocks buffer, blocks = List.replicate 16 0 ++ pkcs7Pad [] ∧
      buffer = blocks ++ List.replicate 32 0 ∧
      (encryptInPlace openCiphers (List.replicate 16 0) (List.replicate 64 0) [] :
        Exit AttachmentCipherError Bytes) = .ret buffer ∧
      blocks.length ≤ 32 ∧ buffer.length = 64 ∧
      decryptInPlace openCiphers (List.replicate 64 0) buffer = (.ret (), []) :=
  encryptInPlace_decryptInPlace openCiphers_lawful (Vector.replicate 16 0)
    (Vector.replicate 64 0) []

theorem decryptInPlace_documented_only_mac :
    DecryptsAsDocumented turningCiphers (List.replicate 64 0) (List.replicate 32 0) := by
  apply (decryptInPlace_documented_iff fun _ _ => List.length_replicate).mpr
  refine ⟨by decide, ?_⟩
  rintro ⟨iv, blocks, sixteen, -, parts, -⟩
  have length := congrArg List.length parts
  simp only [List.length_append, List.length_replicate, sixteen, turningCiphers] at length
  omega

/-- No vector at all is too short, and blocks of zeros are turned over before they are found to
    have no padding. -/
theorem decryptInPlace_undocumented :
    ¬ DecryptsAsDocumented openCiphers (List.replicate 64 0) [] ∧
    decryptInPlace turningCiphers (List.replicate 64 0) (List.replicate 64 0) =
      (.throw .paddingError, List.replicate 16 0 ++ List.replicate 16 255 ++ List.replicate 32 0) ∧
    ¬ DecryptsAsDocumented turningCiphers (List.replicate 64 0) (List.replicate 64 0) := by
  have turned : decryptInPlace turningCiphers (List.replicate 64 0) (List.replicate 64 0) =
      (.throw .paddingError, List.replicate 16 0 ++ List.replicate 16 255 ++
        List.replicate 32 0) := by
    decide +kernel
  refine ⟨?_, turned, ?_⟩
  · intro documented
    exact absurd documented.long (by decide)
  · intro documented
    have unchanged := documented.unchanged .paddingError (by rw [turned])
    rw [turned] at unchanged
    exact absurd unchanged (by decide)

end SignalService

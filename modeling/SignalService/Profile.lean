import SignalService.Effect.Buffer
import SignalService.Codec.Utf8
import SignalService.Groups.Operations

/-! # Profiles

`profile_name.rs` and `profile_cipher.rs`: the fields of a profile are padded with zeros to one
of a few lengths, and encrypted with AES-GCM under the profile key. A zero is also what stands
between the two parts of a name.
-/

namespace SignalService

open Effect Groups

/-! ## Names -/

structure ProfileName where
  givenName : String
  familyName : Option String
  deriving DecidableEq, Repr

inductive Utf8Error where
  | invalid
  deriving DecidableEq, Repr

/-- `std::str::from_utf8`. -/
def fromUtf8 (bytes : Bytes) : Except Utf8Error String :=
  match utf8String? bytes with
  | some s => .ok s
  | none => .error .invalid

@[simp] theorem fromUtf8_utf8Bytes (s : String) : fromUtf8 (utf8Bytes s) = .ok s := by
  unfold fromUtf8
  rw [utf8String?_utf8Bytes]

namespace ProfileName

def serialize (name : ProfileName) : Bytes :=
  match name.familyName with
  | some familyName => utf8Bytes name.givenName ++ 0 :: utf8Bytes familyName
  | none => utf8Bytes name.givenName

/-- What follows a second zero is ignored. -/
def deserialize (data : Bytes) : Except Utf8Error (Option ProfileName) :=
  match data.splitOn 0 with
  | [] => .ok none
  | [part] => do
      let givenName ← fromUtf8 part
      return some ⟨givenName, none⟩
  | first :: second :: _ => do
      let givenName ← fromUtf8 first
      let familyName ← fromUtf8 second
      return some ⟨givenName, some familyName⟩

end ProfileName

/-! ## The cipher -/

inductive ProfileCipherError where
  | encryptionError
  | utf8Error (error : Utf8Error)
  | inputTooLong
  deriving DecidableEq, Repr

/-- AES-256-GCM without associated data. -/
structure Aead where
  encrypt : (key nonce plaintext : Bytes) → Option Bytes
  decrypt : (key nonce ciphertext : Bytes) → Option Bytes

/-- What AES-GCM is relied on for: up to its limit it encrypts, adds a tag, and decrypts what it
    encrypted. -/
def Aead.Lawful (A : Aead) : Prop :=
  ∀ key nonce plaintext, key.length = 32 → nonce.length = 12 → plaintext.length ≤ 2 ^ 36 →
    ∃ ciphertext, A.encrypt key nonce plaintext = some ciphertext ∧
      ciphertext.length = plaintext.length + 16 ∧
      A.decrypt key nonce ciphertext = some plaintext

structure ProfileCipher where
  profileKey : ProfileKey

def namePaddingBrackets : List Nat := [53, 257]

def aboutPaddingBrackets : List Nat := [128, 254, 512]

def emojiPaddedLength : Nat := 32

/-- Returned is the length with the bytes that have it. -/
def padPlaintext (bytes : Bytes) (brackets : List Nat) : Exit ProfileCipherError (Nat × Bytes) := do
  let len ← Exit.ofOption (.throw .inputTooLong) (brackets.find? (bytes.length ≤ ·))
  let bytes := Buffer.resize bytes len 0
  if brackets.contains bytes.length then return (len, bytes)
  else .panic "assertion failed: brackets.contains(&bytes.len())"

namespace ProfileCipher

variable (A : Aead) (cipher : ProfileCipher)

def padAndEncrypt (bytes : Bytes) (paddingBrackets : List Nat) (nonce : Vector UInt8 12) :
    Exit ProfileCipherError Bytes := do
  let (_, bytes) ← padPlaintext bytes paddingBrackets
  let bytes ← Exit.ofOption (.throw .encryptionError)
    (A.encrypt cipher.profileKey.bytes nonce.toList bytes)
  return nonce.toList ++ bytes

def decryptAndUnpad (bytes : Bytes) : Exit ProfileCipherError Bytes := do
  let nonce ← Buffer.slice bytes 0 12
  let ciphertext ← Buffer.sliceFrom bytes 12
  let plaintext ← Exit.ofOption (.throw .encryptionError)
    (A.decrypt cipher.profileKey.bytes nonce ciphertext)
  let len := ((Buffer.rposition (· ≠ 0) plaintext).map (· + 1)).getD 0
  return plaintext.take len

def encryptName (name : ProfileName) (nonce : Vector UInt8 12) : Exit ProfileCipherError Bytes :=
  padAndEncrypt A cipher name.serialize namePaddingBrackets nonce

def decryptName (bytes : Bytes) : Exit ProfileCipherError (Option ProfileName) := do
  let plaintext ← decryptAndUnpad A cipher bytes
  Exit.ofExcept ((ProfileName.deserialize plaintext).mapError .utf8Error)

def encryptAbout (about : String) (nonce : Vector UInt8 12) : Exit ProfileCipherError Bytes :=
  padAndEncrypt A cipher (utf8Bytes about) aboutPaddingBrackets nonce

def decryptAbout (bytes : Bytes) : Exit ProfileCipherError String := do
  let plaintext ← decryptAndUnpad A cipher bytes
  Exit.ofExcept ((fromUtf8 plaintext).mapError .utf8Error)

def encryptEmoji (emoji : String) (nonce : Vector UInt8 12) : Exit ProfileCipherError Bytes :=
  padAndEncrypt A cipher (utf8Bytes emoji) [emojiPaddedLength] nonce

def decryptEmoji (bytes : Bytes) : Exit ProfileCipherError String := do
  let plaintext ← decryptAndUnpad A cipher bytes
  Exit.ofExcept ((fromUtf8 plaintext).mapError .utf8Error)

/-! ## Padding -/

variable {A cipher} {bytes encrypted : Bytes} {brackets : List Nat} {nonce : Vector UInt8 12}

theorem le_of_find? {length len : Nat} (found : brackets.find? (length ≤ ·) = some len) :
    length ≤ len := by
  simpa using List.find?_some found

/-- The first bracket that is long enough is the smallest, where they are in order. -/
theorem find?_isLeast {length len : Nat} (ordered : brackets.Pairwise (· < ·))
    (found : brackets.find? (length ≤ ·) = some len) :
    IsLeast {bracket | bracket ∈ brackets ∧ length ≤ bracket} len := by
  refine ⟨⟨List.mem_of_find?_eq_some found, le_of_find? found⟩, ?_⟩
  rintro bracket ⟨member, long⟩
  induction brackets with
  | nil => cases member
  | cons first brackets ih =>
      rw [List.find?_cons] at found
      obtain ⟨smaller, ordered⟩ := List.pairwise_cons.mp ordered
      split at found
      case h_1 =>
          cases found
          obtain rfl | member := List.mem_cons.mp member
          · exact le_rfl
          · exact Nat.le_of_lt (smaller bracket member)
      case h_2 short =>
          obtain rfl | member := List.mem_cons.mp member
          · exact absurd long (of_decide_eq_false short)
          · exact ih ordered found member

theorem padPlaintext_found {len : Nat} (found : brackets.find? (bytes.length ≤ ·) = some len) :
    padPlaintext bytes brackets =
      .ret (len, bytes ++ List.replicate (len - bytes.length) 0) := by
  have long := le_of_find? found
  have inside : brackets.contains (Buffer.resize bytes len 0).length = true := by
    rw [Buffer.length_resize, List.contains_iff_mem]
    exact List.mem_of_find?_eq_some found
  unfold padPlaintext
  rw [found, Exit.ofOption_some, Exit.bind_eq, Exit.ret_bind, if_pos inside,
    Buffer.resize_longer long]
  rfl

/-- What is too long for every bracket is refused, and the rest becomes as long as its bracket,
    and can be decrypted. -/
theorem padAndEncrypt_spec (lawful : A.Lawful) (cipher : ProfileCipher)
    (small : ∀ bracket ∈ brackets, bracket ≤ 2 ^ 36) (bytes : Bytes) (nonce : Vector UInt8 12) :
    match brackets.find? (bytes.length ≤ ·) with
    | none => padAndEncrypt A cipher bytes brackets nonce = .throw .inputTooLong
    | some len => ∃ ciphertext,
        padAndEncrypt A cipher bytes brackets nonce = .ret (nonce.toList ++ ciphertext) ∧
        ciphertext.length = len + 16 ∧
        A.decrypt cipher.profileKey.bytes nonce.toList ciphertext =
          some (bytes ++ List.replicate (len - bytes.length) 0) := by
  cases found : brackets.find? (bytes.length ≤ ·) with
  | none =>
      dsimp only
      unfold padAndEncrypt padPlaintext
      rw [found]
      rfl
  | some len =>
      have long := le_of_find? found
      have length : (bytes ++ List.replicate (len - bytes.length) (0 : UInt8)).length = len := by
        rw [List.length_append, List.length_replicate]
        omega
      have limit := small len (List.mem_of_find?_eq_some found)
      obtain ⟨ciphertext, sealing, tagged, opened⟩ := lawful cipher.profileKey.bytes nonce.toList
        (bytes ++ List.replicate (len - bytes.length) 0) cipher.profileKey.size
        nonce.length_toList (by omega)
      refine ⟨ciphertext, ?_, by omega, opened⟩
      unfold padAndEncrypt
      rw [padPlaintext_found found]
      simp only [Exit.bind_eq, Exit.ret_bind, sealing, Exit.ofOption_some, Exit.pure_eq]

/-- Trailing zeros are lost with the padding. -/
theorem decryptAndUnpad_padAndEncrypt (lawful : A.Lawful)
    (small : ∀ bracket ∈ brackets, bracket ≤ 2 ^ 36)
    (accepted : padAndEncrypt A cipher bytes brackets nonce = .ret encrypted) :
    decryptAndUnpad A cipher encrypted = .ret (bytes.rdropWhile (· = 0)) := by
  have spec := padAndEncrypt_spec lawful cipher small bytes nonce
  cases found : brackets.find? (bytes.length ≤ ·) with
  | none =>
      rw [found] at spec
      cases accepted.symm.trans spec
  | some len =>
      rw [found] at spec
      obtain ⟨ciphertext, returned, -, opened⟩ := spec
      obtain rfl := Exit.ret.inj (accepted.symm.trans returned)
      have unpadded := Buffer.take_rposition (· ≠ (0 : UInt8))
        (bytes ++ List.replicate (len - bytes.length) 0)
      have zeros : (fun b : UInt8 => ! decide (b ≠ 0)) = fun b => decide (b = 0) := by
        funext b
        simp
      rw [zeros, Codec.rdropWhile_append_replicate rfl] at unpadded
      unfold decryptAndUnpad
      simp only [Buffer.slice_append nonce.length_toList, Buffer.sliceFrom_append
        nonce.length_toList, Exit.bind_eq, Exit.ret_bind, opened, Exit.ofOption_some, Exit.pure_eq,
        unpadded]

end ProfileCipher

/-! ## Names, encrypted -/

namespace ProfileName

variable {name : ProfileName}

/-- There is no zero but the one between the parts. -/
structure NulFree (name : ProfileName) : Prop where
  given : '\x00' ∉ name.givenName.toList
  family : ∀ familyName, name.familyName = some familyName → '\x00' ∉ familyName.toList

/-- The name with a family name that is empty left out. -/
def withoutEmpty (name : ProfileName) : ProfileName :=
  ⟨name.givenName, name.familyName.filter (· ≠ "")⟩

theorem NulFree.withoutEmpty (free : name.NulFree) : name.withoutEmpty.NulFree where
  given := free.given
  family familyName kept := free.family familyName (Option.filter_eq_some_iff.mp kept).1

theorem splitOn_utf8Bytes {s : String} (free : '\x00' ∉ s.toList) :
    (utf8Bytes s).splitOn 0 = [utf8Bytes s] := by
  have zero := Codec.zero_not_mem_toUTF8 free
  rw [List.splitOn_eq_splitOnP]
  apply List.splitOnP_eq_singleton
  intro b member
  rw [beq_eq_false_iff_ne]
  rintro rfl
  exact zero member

theorem deserialize_serialize (free : name.NulFree) :
    deserialize name.serialize = .ok (some name) := by
  obtain ⟨givenName, familyName⟩ := name
  cases familyName with
  | none =>
      unfold deserialize serialize
      dsimp only
      rw [splitOn_utf8Bytes free.given]
      dsimp only
      rw [fromUtf8_utf8Bytes]
      rfl
  | some familyName =>
      have parts : (utf8Bytes givenName ++ 0 :: utf8Bytes familyName).splitOn 0 =
          [utf8Bytes givenName, utf8Bytes familyName] := by
        have given := splitOn_utf8Bytes free.given
        have family := splitOn_utf8Bytes (free.family familyName rfl)
        have split : (utf8Bytes givenName ++ 0 :: utf8Bytes familyName).splitOn 0 =
            (utf8Bytes givenName).splitOn 0 ++ (utf8Bytes familyName).splitOn 0 :=
          List.splitOnP_append_cons _ _ rfl
        rw [split, given, family]
        rfl
      unfold deserialize serialize
      dsimp only
      rw [parts]
      dsimp only
      rw [fromUtf8_utf8Bytes, fromUtf8_utf8Bytes]
      rfl

/-- The zero before an empty family name is taken for padding. -/
theorem rdropWhile_serialize (free : name.NulFree) :
    name.serialize.rdropWhile (· = 0) = name.withoutEmpty.serialize := by
  have keep : ∀ {s : String}, '\x00' ∉ s.toList → ∀ b ∈ utf8Bytes s, decide (b = 0) = false := by
    intro s free b member
    apply decide_eq_false
    rintro rfl
    exact Codec.zero_not_mem_toUTF8 free member
  have given : (utf8Bytes name.givenName).rdropWhile (· = 0) = utf8Bytes name.givenName := by
    by_cases empty : utf8Bytes name.givenName = []
    · rw [empty]
      rfl
    · exact Codec.rdropWhile_append_of_not_mem [] empty (keep free.given)
  obtain ⟨givenName, familyName⟩ := name
  cases familyName with
  | none => exact given
  | some familyName =>
      by_cases empty : familyName = ""
      · subst empty
        exact (List.rdropWhile_concat_pos _ _ _ rfl).trans given
      · have present : utf8Bytes familyName ≠ [] := by
          intro missing
          have decoded := utf8String?_utf8Bytes familyName
          rw [missing] at decoded
          exact empty (Option.some.inj (decoded.symm.trans (utf8String?_utf8Bytes "")))
        have kept : withoutEmpty ⟨givenName, some familyName⟩ = ⟨givenName, some familyName⟩ := by
          simp [withoutEmpty, empty]
        rw [kept]
        unfold serialize
        dsimp only
        rw [List.append_cons]
        exact Codec.rdropWhile_append_of_not_mem _ present (keep (free.family familyName rfl))

end ProfileName

namespace ProfileCipher

variable {A : Aead} {cipher : ProfileCipher} {name : ProfileName} {nonce : Vector UInt8 12}
  {encrypted : Bytes}

theorem decryptName_eq_withoutEmpty (lawful : A.Lawful) (free : name.NulFree)
    (accepted : encryptName A cipher name nonce = .ret encrypted) :
    decryptName A cipher encrypted = .ret (some name.withoutEmpty) := by
  unfold decryptName
  rw [decryptAndUnpad_padAndEncrypt lawful (by decide) accepted, Exit.bind_eq, Exit.ret_bind,
    ProfileName.rdropWhile_serialize free, ProfileName.deserialize_serialize free.withoutEmpty]
  rfl

/-- A name comes back as it was, unless its family name is there and empty. -/
theorem decryptName_encryptName_iff (lawful : A.Lawful) (free : name.NulFree)
    (accepted : encryptName A cipher name nonce = .ret encrypted) :
    decryptName A cipher encrypted = .ret (some name) ↔ name.familyName ≠ some "" := by
  rw [decryptName_eq_withoutEmpty lawful free accepted, Exit.ret.injEq, Option.some.injEq]
  obtain ⟨givenName, familyName⟩ := name
  cases familyName with
  | none => exact iff_of_true rfl nofun
  | some familyName =>
      simp [ProfileName.withoutEmpty, Option.filter_eq_some_iff]

end ProfileCipher

/-! ## All fields -/

/-- A value of one of the fields that are encrypted. -/
inductive ProfileValue where
  | name (value : ProfileName)
  | about (value : String)
  | emoji (value : String)
  deriving DecidableEq, Repr

/-- The string without the NULs at its end. -/
def withoutTrailingNuls (s : String) : String := String.ofList (s.toList.rdropWhile (· = '\x00'))

theorem rdropWhile_utf8Bytes (s : String) :
    (utf8Bytes s).rdropWhile (· = 0) = utf8Bytes (withoutTrailingNuls s) := by
  unfold utf8Bytes withoutTrailingNuls
  rw [Codec.toUTF8_eq_flatMap, Codec.toUTF8_eq_flatMap, String.toList_ofList]
  exact Codec.rdropWhile_flatMap_utf8EncodeChar s.toList

namespace ProfileValue

def serialized : ProfileValue → Bytes
  | .name value => value.serialize
  | .about value => utf8Bytes value
  | .emoji value => utf8Bytes value

def brackets : ProfileValue → List Nat
  | .name _ => namePaddingBrackets
  | .about _ => aboutPaddingBrackets
  | .emoji _ => [emojiPaddedLength]

def encrypt (A : Aead) (cipher : ProfileCipher) (value : ProfileValue) (nonce : Vector UInt8 12) :
    Exit ProfileCipherError Bytes :=
  match value with
  | .name value => cipher.encryptName A value nonce
  | .about value => cipher.encryptAbout A value nonce
  | .emoji value => cipher.encryptEmoji A value nonce

/-- The smallest bracket that is not below the length of the value. -/
def FitsIn (value : ProfileValue) (bracket : Nat) : Prop :=
  IsLeast {bracket | bracket ∈ value.brackets ∧ value.serialized.length ≤ bracket} bracket

variable {A : Aead} {cipher : ProfileCipher}

theorem encrypt_eq (value : ProfileValue) (nonce : Vector UInt8 12) :
    value.encrypt A cipher nonce =
      cipher.padAndEncrypt A value.serialized value.brackets nonce := by
  cases value <;> rfl

theorem brackets_ordered (value : ProfileValue) : value.brackets.Pairwise (· < ·) := by
  unfold brackets
  split <;> decide

theorem brackets_small (value : ProfileValue) : ∀ bracket ∈ value.brackets, bracket ≤ 2 ^ 36 := by
  unfold brackets
  split <;> decide

theorem encrypt_tooLong_iff (lawful : A.Lawful) (value : ProfileValue) (nonce : Vector UInt8 12) :
    value.encrypt A cipher nonce = .throw .inputTooLong ↔
      ∀ bracket ∈ value.brackets, bracket < value.serialized.length := by
  have spec := ProfileCipher.padAndEncrypt_spec lawful cipher value.brackets_small
    value.serialized nonce
  rw [← encrypt_eq] at spec
  cases found : value.brackets.find? (value.serialized.length ≤ ·) with
  | none =>
      rw [found] at spec
      apply iff_of_true spec
      intro bracket member
      simpa using List.find?_eq_none.mp found bracket member
  | some len =>
      rw [found] at spec
      obtain ⟨ciphertext, returned, -⟩ := spec
      apply iff_of_false
      · rw [returned]
        exact nofun
      · intro longer
        have short := longer len (List.mem_of_find?_eq_some found)
        exact absurd (ProfileCipher.le_of_find? found) (Nat.not_le.mpr short)

theorem encrypt_fits (lawful : A.Lawful) (cipher : ProfileCipher) {value : ProfileValue}
    (fits : ∃ bracket ∈ value.brackets, value.serialized.length ≤ bracket)
    (nonce : Vector UInt8 12) :
    ∃ bracket encrypted, value.FitsIn bracket ∧
      value.encrypt A cipher nonce = .ret encrypted ∧ encrypted.length = 28 + bracket := by
  have spec := ProfileCipher.padAndEncrypt_spec lawful cipher value.brackets_small
    value.serialized nonce
  rw [← encrypt_eq] at spec
  cases found : value.brackets.find? (value.serialized.length ≤ ·) with
  | none =>
      obtain ⟨bracket, member, long⟩ := fits
      have short := List.find?_eq_none.mp found bracket member
      rw [decide_eq_true_eq] at short
      exact absurd long short
  | some len =>
      rw [found] at spec
      obtain ⟨ciphertext, returned, tagged, -⟩ := spec
      refine ⟨len, _, ProfileCipher.find?_isLeast value.brackets_ordered found, returned, ?_⟩
      rw [List.length_append, nonce.length_toList]
      omega

end ProfileValue

section Fields

variable {A : Aead} (lawful : A.Lawful) (cipher : ProfileCipher)

include lawful

theorem decryptAbout_encryptAbout {about : String} {nonce : Vector UInt8 12} {encrypted : Bytes}
    (accepted : cipher.encryptAbout A about nonce = .ret encrypted) :
    cipher.decryptAbout A encrypted = .ret (withoutTrailingNuls about) := by
  unfold ProfileCipher.decryptAbout
  rw [ProfileCipher.decryptAndUnpad_padAndEncrypt lawful (by decide) accepted, Exit.bind_eq,
    Exit.ret_bind, rdropWhile_utf8Bytes, fromUtf8_utf8Bytes]
  rfl

theorem decryptEmoji_encryptEmoji {emoji : String} {nonce : Vector UInt8 12} {encrypted : Bytes}
    (accepted : cipher.encryptEmoji A emoji nonce = .ret encrypted) :
    cipher.decryptEmoji A encrypted = .ret (withoutTrailingNuls emoji) := by
  unfold ProfileCipher.decryptEmoji
  rw [ProfileCipher.decryptAndUnpad_padAndEncrypt lawful (by decide) accepted, Exit.bind_eq,
    Exit.ret_bind, rdropWhile_utf8Bytes, fromUtf8_utf8Bytes]
  rfl

/-- A field is refused exactly where it is longer than every bracket, and of the others only the
    bracket is seen in the length. A text is decrypted to what it was, up to NULs at its end. -/
theorem profile_fields_padded :
    (∀ (value : ProfileValue) nonce, value.encrypt A cipher nonce = .throw .inputTooLong ↔
      ∀ bracket ∈ value.brackets, bracket < value.serialized.length) ∧
    (∀ (value : ProfileValue) nonce,
      (∃ bracket ∈ value.brackets, value.serialized.length ≤ bracket) →
      ∃ bracket encrypted, value.FitsIn bracket ∧
        value.encrypt A cipher nonce = .ret encrypted ∧ encrypted.length = 28 + bracket) ∧
    (∀ (value value' : ProfileValue) nonce nonce' bracket encrypted encrypted',
      value.brackets = value'.brackets → value.FitsIn bracket → value'.FitsIn bracket →
      value.encrypt A cipher nonce = .ret encrypted →
      value'.encrypt A cipher nonce' = .ret encrypted' → encrypted.length = encrypted'.length) ∧
    (∀ about nonce encrypted, cipher.encryptAbout A about nonce = .ret encrypted →
      cipher.decryptAbout A encrypted = .ret (withoutTrailingNuls about)) ∧
    ∀ emoji nonce encrypted, cipher.encryptEmoji A emoji nonce = .ret encrypted →
      cipher.decryptEmoji A encrypted = .ret (withoutTrailingNuls emoji) := by
  have length : ∀ (value : ProfileValue) nonce bracket encrypted, value.FitsIn bracket →
      value.encrypt A cipher nonce = .ret encrypted → encrypted.length = 28 + bracket := by
    intro value nonce bracket encrypted fits returned
    obtain ⟨bracket', encrypted', fits', returned', length⟩ :=
      ProfileValue.encrypt_fits lawful cipher ⟨bracket, fits.1⟩ nonce
    obtain rfl := Exit.ret.inj (returned.symm.trans returned')
    rw [length, fits.unique fits']
  refine ⟨?_, ?_, ?_, ?_, ?_⟩
  · intro value nonce
    exact ProfileValue.encrypt_tooLong_iff lawful value nonce
  · intro value nonce fits
    exact ProfileValue.encrypt_fits lawful cipher fits nonce
  · intro value value' nonce nonce' bracket encrypted encrypted' _ fits fits' returned returned'
    rw [length value nonce bracket encrypted fits returned,
      length value' nonce' bracket encrypted' fits' returned']
  · intro about nonce encrypted accepted
    exact decryptAbout_encryptAbout lawful cipher accepted
  · intro emoji nonce encrypted accepted
    exact decryptEmoji_encryptEmoji lawful cipher accepted

end Fields

namespace Sample

/-- An AEAD that hides nothing, with a tag of zeros. -/
def openAead : Aead where
  encrypt _ _ plaintext := some (plaintext ++ List.replicate 16 0)
  decrypt _ _ ciphertext := some (ciphertext.take (ciphertext.length - 16))

theorem openAead_lawful : openAead.Lawful := by
  intro key nonce plaintext _ _ _
  refine ⟨_, rfl, by simp, ?_⟩
  simp [openAead]

def profileCipher : ProfileCipher where
  profileKey := ⟨List.replicate 32 0, List.length_replicate⟩

def billOnly : ProfileName := ⟨"Bill", none⟩

def billEmpty : ProfileName := ⟨"Bill", some ""⟩

end Sample

open Sample

theorem bill_comes_back :
    ∃ encrypted, profileCipher.encryptName openAead billOnly (Vector.replicate 12 0) =
        .ret encrypted ∧
      profileCipher.decryptName openAead encrypted = .ret (some billOnly) := by
  have free : billOnly.NulFree := ⟨by decide, nofun⟩
  refine ⟨_, rfl, ?_⟩
  apply (ProfileCipher.decryptName_encryptName_iff openAead_lawful free rfl).mpr
  exact nofun

/-- An empty family name is lost. -/
theorem empty_family_name_lost :
    ∃ encrypted, profileCipher.encryptName openAead billEmpty (Vector.replicate 12 0) =
        .ret encrypted ∧
      profileCipher.decryptName openAead encrypted = .ret (some billOnly) ∧
      profileCipher.decryptName openAead encrypted ≠ .ret (some billEmpty) := by
  have free : billEmpty.NulFree := by
    refine ⟨by decide, ?_⟩
    rintro _ ⟨⟩
    decide
  have accepted : profileCipher.encryptName openAead billEmpty (Vector.replicate 12 0) =
      .ret _ := rfl
  have decrypted := ProfileCipher.decryptName_eq_withoutEmpty openAead_lawful free accepted
  refine ⟨_, rfl, decrypted, ?_⟩
  rw [decrypted]
  decide

theorem about_without_nul :
    ∃ encrypted, profileCipher.encryptAbout openAead "hi\x00" (Vector.replicate 12 0) =
        .ret encrypted ∧
      encrypted.length = 156 ∧ profileCipher.decryptAbout openAead encrypted = .ret "hi" := by
  obtain ⟨-, fitting, -, about, -⟩ := profile_fields_padded openAead_lawful profileCipher
  obtain ⟨bracket, encrypted, fits, returned, length⟩ :=
    fitting (.about "hi\x00") (Vector.replicate 12 0) ⟨128, by decide, by decide⟩
  have smallest : bracket = 128 := by
    apply fits.unique
    refine ⟨⟨by decide, by decide⟩, ?_⟩
    rintro other ⟨member, -⟩
    revert other
    decide
  have trimmed : withoutTrailingNuls "hi\x00" = "hi" := by decide
  refine ⟨encrypted, returned, ?_, ?_⟩
  · rw [length, smallest]
  · rw [about _ _ _ returned, trimmed]

/-! ## Whole profiles -/

/-- `websocket::profile::SignalServiceProfile`, as far as it is decrypted. -/
structure SignalServiceProfile where
  name : Option Bytes := none
  about : Option Bytes := none
  aboutEmoji : Option Bytes := none
  avatar : Option String := none
  unrestrictedUnidentifiedAccess : Bool := false
  deriving DecidableEq, Repr

structure Profile where
  name : Option ProfileName
  about : Option String
  aboutEmoji : Option String
  avatar : Option String
  unrestrictedUnidentifiedAccess : Bool
  deriving DecidableEq, Repr

namespace ProfileCipher

variable (A : Aead) (cipher : ProfileCipher)

/-- `field.as_ref().map(decrypt).transpose()?` -/
def decryptField {α : Type} (decrypt : Bytes → Exit ProfileCipherError α) :
    Option Bytes → Exit ProfileCipherError (Option α)
  | none => .ret none
  | some data => do
      let value ← decrypt data
      return some value

def decrypt (encryptedProfile : SignalServiceProfile) : Exit ProfileCipherError Profile := do
  let name ← decryptField (decryptName A cipher) encryptedProfile.name
  let about ← decryptField (decryptAbout A cipher) encryptedProfile.about
  let aboutEmoji ← decryptField (decryptEmoji A cipher) encryptedProfile.aboutEmoji
  return {
    name := name.join
    about
    aboutEmoji
    avatar := encryptedProfile.avatar
    unrestrictedUnidentifiedAccess := encryptedProfile.unrestrictedUnidentifiedAccess }

def decryptAvatar (bytes : Bytes) : Exit ProfileCipherError Bytes := decryptAndUnpad A cipher bytes

/-- There is room for a nonce, if the field is there. -/
def HasNonce (field : Option Bytes) : Prop := ∀ data, field = some data → 12 ≤ data.length

/-- What the AEAD makes of a field, without the zeros at the end. -/
def opened (data : Bytes) : Option Bytes :=
  (A.decrypt cipher.profileKey.bytes (data.take 12) (data.drop 12)).map (·.rdropWhile (· = 0))

def IsText (plaintext : Bytes) : Prop := (utf8String? plaintext).isSome

/-- The first two parts of a name are text; others are not looked at. -/
def IsName (plaintext : Bytes) : Prop := ∀ part ∈ (plaintext.splitOn 0).take 2, IsText part

/-- The field has a nonce, but is no encryption of what it should be. -/
def Malformed (proper : Bytes → Prop) (field : Option Bytes) : Prop :=
  ∃ data, field = some data ∧ 12 ≤ data.length ∧
    ∀ plaintext, opened A cipher data = some plaintext → ¬ proper plaintext

variable {A cipher}

theorem decryptAndUnpad_eq_opened {bytes : Bytes} (long : 12 ≤ bytes.length) :
    decryptAndUnpad A cipher bytes =
      Exit.ofOption (.throw .encryptionError) (opened A cipher bytes) := by
  have unpadded (plaintext : Bytes) := Buffer.take_rposition (· ≠ (0 : UInt8)) plaintext
  unfold decryptAndUnpad opened Buffer.slice Buffer.sliceFrom
  rw [if_pos ⟨Nat.zero_le _, long⟩, if_pos long, List.drop_zero]
  simp only [Exit.bind_eq, Exit.ret_bind, unpadded]
  cases A.decrypt cipher.profileKey.bytes (bytes.take 12) (bytes.drop 12) with
  | none => rfl
  | some plaintext => simp

theorem decryptAndUnpad_panics_iff {bytes : Bytes} :
    (decryptAndUnpad A cipher bytes).Panics ↔ ¬ 12 ≤ bytes.length := by
  unfold decryptAndUnpad
  simp only [Exit.bind_eq, Exit.panics_bind, Buffer.slice_panics_iff,
    Buffer.sliceFrom_panics_iff]
  constructor
  · rintro (short | ⟨nonce, -, short | ⟨ciphertext, -, opened | ⟨plaintext, -, ended⟩⟩⟩)
    · omega
    · exact short
    · cases decrypted : A.decrypt cipher.profileKey.bytes nonce ciphertext with
      | none => simp [decrypted] at opened
      | some plaintext => simp [decrypted] at opened
    · exact ended.elim
  · intro short
    left
    omega

/-- What decrypts with the help of `decrypt_and_unpad` panics only there. -/
theorem panics_unpadded_iff {α : Type} {f : Bytes → Except ProfileCipherError α} {bytes : Bytes} :
    ((decryptAndUnpad A cipher bytes).bind fun plaintext => Exit.ofExcept (f plaintext)).Panics ↔
      ¬ 12 ≤ bytes.length := by
  rw [Exit.panics_bind, decryptAndUnpad_panics_iff]
  simp

theorem decryptField_panics_iff {α : Type} {decrypt : Bytes → Exit ProfileCipherError α}
    (panics : ∀ bytes, (decrypt bytes).Panics ↔ ¬ 12 ≤ bytes.length) {field : Option Bytes} :
    (decryptField decrypt field).Panics ↔ ¬ HasNonce field := by
  cases field with
  | none => simp [decryptField, HasNonce]
  | some data => simp [decryptField, HasNonce, Exit.panics_bind, panics]

theorem panics_decryptField_last {α β : Type} {decrypt : Bytes → Exit ProfileCipherError α}
    (panics : ∀ bytes, (decrypt bytes).Panics ↔ ¬ 12 ≤ bytes.length) {field : Option Bytes}
    {f : Option α → β} :
    ((decryptField decrypt field).bind fun value =>
      (.ret (f value) : Exit ProfileCipherError β)).Panics ↔ ¬ HasNonce field := by
  rw [Exit.panics_bind, decryptField_panics_iff panics]
  simp

theorem hasNonce_some {data : Bytes} : HasNonce (some data) ↔ 12 ≤ data.length := by
  simp [HasNonce]

/-- What comes after a field is reached unless the field is malformed. -/
theorem panics_decryptField_bind {α β : Type} {read : Bytes → Except ProfileCipherError α}
    {proper : Bytes → Prop} (reads : ∀ plaintext, (read plaintext).isOk ↔ proper plaintext)
    {field : Option Bytes} {f : Option α → Exit ProfileCipherError β} {safe : Prop}
    (next : ∀ value, (f value).Panics ↔ ¬ safe) :
    ((decryptField (fun bytes => (decryptAndUnpad A cipher bytes).bind fun plaintext =>
        Exit.ofExcept (read plaintext)) field).bind f).Panics ↔
      ¬ (HasNonce field ∧ (Malformed A cipher proper field ∨ safe)) := by
  cases field with
  | none => simp [decryptField, HasNonce, Malformed, next]
  | some data =>
      rw [hasNonce_some]
      by_cases long : 12 ≤ data.length
      · have malformed : Malformed A cipher proper (some data) ↔
            ∀ plaintext, opened A cipher data = some plaintext → ¬ proper plaintext := by
          simp [Malformed, long]
        rw [malformed]
        simp only [decryptField, decryptAndUnpad_eq_opened long]
        cases opened A cipher data with
        | none => simp [long]
        | some plaintext =>
            have proper_iff := reads plaintext
            cases found : read plaintext with
            | ok value =>
                rw [found] at proper_iff
                simp [found, next, long, proper_iff.mp rfl]
            | error e =>
                rw [found] at proper_iff
                have improper : ¬ proper plaintext := fun proper => nomatch proper_iff.mpr proper
                simp [found, improper, long]
      · have panicked : (decryptAndUnpad A cipher data).Panics :=
          decryptAndUnpad_panics_iff.mpr long
        simp [decryptField, Exit.panics_bind, panicked, long]

theorem isText_cases (plaintext : Bytes) :
    (∃ text, fromUtf8 plaintext = .ok text ∧ IsText plaintext) ∨
      fromUtf8 plaintext = .error .invalid ∧ ¬ IsText plaintext := by
  unfold fromUtf8 IsText
  cases utf8String? plaintext with
  | none => exact .inr ⟨rfl, nofun⟩
  | some text => exact .inl ⟨text, rfl, rfl⟩

theorem isText_iff {plaintext : Bytes} :
    ((fromUtf8 plaintext).mapError ProfileCipherError.utf8Error).isOk ↔ IsText plaintext := by
  obtain ⟨text, read, isText⟩ | ⟨read, noText⟩ := isText_cases plaintext
  · rw [read]
    exact iff_of_true rfl isText
  · rw [read]
    exact iff_of_false nofun noText

theorem isName_iff {plaintext : Bytes} :
    ((ProfileName.deserialize plaintext).mapError ProfileCipherError.utf8Error).isOk ↔
      IsName plaintext := by
  unfold ProfileName.deserialize IsName
  cases plaintext.splitOn 0 with
  | nil => exact iff_of_true rfl nofun
  | cons first rest =>
      obtain ⟨text, read, isText⟩ | ⟨read, noText⟩ := isText_cases first
      · cases rest with
        | nil =>
            simp only [read]
            exact iff_of_true rfl (by simpa using isText)
        | cons second others =>
            obtain ⟨text', read', isText'⟩ | ⟨read', noText'⟩ := isText_cases second
            · simp only [read, read']
              exact iff_of_true rfl (by simpa using ⟨isText, isText'⟩)
            · simp only [read, read']
              exact iff_of_false nofun fun proper => noText' (proper second (by simp))
      · have improper : ¬ ∀ part ∈ (first :: rest).take 2, IsText part :=
          fun proper => noText (proper first (by simp))
        cases rest with
        | nil =>
            simp only [read]
            exact iff_of_false nofun improper
        | cons second others =>
            simp only [read]
            exact iff_of_false nofun improper

/-- A field that is too short for its nonce is a panic, unless one before it is malformed. -/
theorem decrypt_total_iff (cipher : ProfileCipher) (encryptedProfile : SignalServiceProfile)
    (avatar : Bytes) :
    (¬ (cipher.decrypt A encryptedProfile).Panics ∧ ¬ (cipher.decryptAvatar A avatar).Panics) ↔
      (HasNonce encryptedProfile.name ∧ (Malformed A cipher IsName encryptedProfile.name ∨
        HasNonce encryptedProfile.about ∧ (Malformed A cipher IsText encryptedProfile.about ∨
          HasNonce encryptedProfile.aboutEmoji))) ∧ 12 ≤ avatar.length := by
  have emoji : ∀ bytes, (cipher.decryptEmoji A bytes).Panics ↔ ¬ 12 ≤ bytes.length :=
    fun _ => panics_unpadded_iff
  have avatars : (cipher.decryptAvatar A avatar).Panics ↔ ¬ 12 ≤ avatar.length :=
    decryptAndUnpad_panics_iff
  have profile : (cipher.decrypt A encryptedProfile).Panics ↔ ¬ (HasNonce encryptedProfile.name ∧
      (Malformed A cipher IsName encryptedProfile.name ∨ HasNonce encryptedProfile.about ∧
        (Malformed A cipher IsText encryptedProfile.about ∨
          HasNonce encryptedProfile.aboutEmoji))) := by
    apply panics_decryptField_bind fun _ => isName_iff
    intro name
    apply panics_decryptField_bind fun _ => isText_iff
    intro about
    exact panics_decryptField_last emoji
  rw [profile, avatars, not_not, not_not]

end ProfileCipher

/-- An empty string for the name is enough, and so is an empty avatar. -/
theorem empty_name_panics :
    (profileCipher.decrypt openAead { name := some [] }).Panics ∧
      (profileCipher.decryptAvatar openAead []).Panics :=
  ⟨trivial, trivial⟩

end SignalService

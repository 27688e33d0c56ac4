import SignalService.Codec.Utf8
import SignalService.Provisioning.Agreement

/-! # Device names

`account_manager.rs`: a device's name is encrypted for the identity key of its account. The IV is
made from the name, so that whoever decrypts it can check the name against it; encryption goes
from the name to the IV to the key of the cipher, decryption from the IV to that key to the name.
-/

namespace SignalService.Provisioning

open Effect
open Groups (utf8Bytes)
open Codec (fromUtf8Lossy)

variable (X : ProvisioningExternals)

/-! ## Decryption -/

/-- A longer IV is cut off, a shorter one is an error. -/
def decryptDeviceName (privateKey : X.PrivateKey) :
    DeviceName → Exit ServiceError String
  | ⟨some ephemeralPublic, some syntheticIv, some ciphertext⟩ => do
      let syntheticIv ← Buffer.slice syntheticIv 0 (min syntheticIv.length 16)
      let syntheticIv ← Exit.ofOption (.throw .macError) (arrayOf? 16 syntheticIv)
      let ephemeralPublic ← Exit.ofOption (.throw (.other "curve error"))
        (X.deserializePublic ephemeralPublic)
      let masterSecret ← Exit.ofOption (.throw (.other "curve error"))
        (X.calculateAgreement privateKey ephemeralPublic)
      let key2 := X.hmac masterSecret (utf8Bytes "cipher")
      let cipherKey := X.hmac key2 syntheticIv.toList
      let plaintext := X.aesCtr cipherKey (List.replicate 16 0) ciphertext
      let key1 := X.hmac masterSecret (utf8Bytes "auth")
      let ourSyntheticIv ← Buffer.slice (X.hmac key1 plaintext) 0 16
      if syntheticIv.toList ≠ ourSyntheticIv then Exit.throw .macError
      else return fromUtf8Lossy plaintext
  | _ => .throw (.decryptDeviceInfoFieldError "name")

/-- What is not an encrypted name is taken for the name. -/
def decryptDeviceNameFromDeviceInfo (decodeDeviceName : Bytes → Option DeviceName)
    (string : String) (aci : KeyPair X.toCurve) : Exit ServiceError String :=
  match X.base64Decode string with
  | none => .ret string
  | some data =>
      match decodeDeviceName data with
      | none => .ret string
      | some name => decryptDeviceName X aci.privateKey name

/-! ## What decrypts -/

/-- The two key chains of a secret, one from the IV to the cipher and one from the name to the
IV. -/
def nameCipher (masterSecret syntheticIv text : Bytes) : Bytes :=
  X.aesCtr (X.hmac (X.hmac masterSecret (utf8Bytes "cipher")) syntheticIv) (List.replicate 16 0)
    text

@[inherit_doc nameCipher]
def nameIv (masterSecret plaintext : Bytes) : Bytes :=
  (X.hmac (X.hmac masterSecret (utf8Bytes "auth")) plaintext).take 16

/-- All fields are there, the key can be read and agreed with, and the IV is that of the
plaintext. -/
def DeviceName.Authentic (privateKey : X.PrivateKey) (name : DeviceName) (plaintext : Bytes) :
    Prop :=
  ∃ ephemeralPublic syntheticIv ciphertext publicKey masterSecret,
    name = ⟨some ephemeralPublic, some syntheticIv, some ciphertext⟩ ∧
    X.deserializePublic ephemeralPublic = some publicKey ∧
    X.calculateAgreement privateKey publicKey = some masterSecret ∧
    plaintext = nameCipher X masterSecret (syntheticIv.take 16) ciphertext ∧
    syntheticIv.take 16 = nameIv X masterSecret plaintext

variable {X}

theorem take_slice (iv : Bytes) :
    (Buffer.slice iv 0 (min iv.length 16) : Exit ServiceError Bytes) = .ret (iv.take 16) := by
  unfold Buffer.slice
  rw [if_pos ⟨Nat.zero_le _, Nat.min_le_left _ _⟩, List.drop_zero, min_comm, ← List.take_eq_take_min]

theorem arrayOf?_eq_some {n : Nat} {bytes : Bytes} {array : Vector UInt8 n} :
    arrayOf? n bytes = some array ↔ bytes = array.toList := by
  constructor
  · intro whole
    unfold arrayOf? at whole
    split at whole
    · cases whole
      rfl
    · cases whole
  · rintro rfl
    exact arrayOf?_toList array

section Lawful

variable (lawful : X.Lawful)

include lawful

theorem length_nameIv (masterSecret plaintext : Bytes) :
    (nameIv X masterSecret plaintext).length = 16 := by
  rw [nameIv, List.length_take, lawful.ciphers.length_hmac]
  rfl

theorem slice_hmac (masterSecret plaintext : Bytes) :
    (Buffer.slice (X.hmac (X.hmac masterSecret (utf8Bytes "auth")) plaintext) 0 16 :
      Exit ServiceError Bytes) = .ret (nameIv X masterSecret plaintext) := by
  unfold Buffer.slice
  rw [lawful.ciphers.length_hmac, if_pos (by omega), List.drop_zero]
  rfl

/-- With all fields there, nothing of it panics. -/
theorem decryptDeviceName_present (privateKey : X.PrivateKey) (ephemeralPublic iv text : Bytes) :
    decryptDeviceName X privateKey ⟨some ephemeralPublic, some iv, some text⟩ =
      (Exit.ofOption (.throw .macError) (arrayOf? 16 (iv.take 16))).bind fun iv =>
      (Exit.ofOption (.throw (.other "curve error")) (X.deserializePublic ephemeralPublic)).bind
        fun publicKey =>
      (Exit.ofOption (.throw (.other "curve error"))
        (X.calculateAgreement privateKey publicKey)).bind fun secret =>
      if iv.toList ≠ nameIv X secret (nameCipher X secret iv.toList text) then .throw .macError
      else .ret (fromUtf8Lossy (nameCipher X secret iv.toList text)) := by
  unfold decryptDeviceName
  simp only [take_slice, Exit.bind_eq, Exit.ret_bind, slice_hmac lawful]
  rfl

theorem decryptDeviceName_not_panics (privateKey : X.PrivateKey) (name : DeviceName) :
    ¬ (decryptDeviceName X privateKey name).Panics := by
  obtain ⟨_ | ephemeralPublic, _ | iv, _ | text⟩ := name
  case some.some.some =>
    rw [decryptDeviceName_present lawful]
    cases arrayOf? 16 (iv.take 16) with
    | none => exact id
    | some iv =>
        cases X.deserializePublic ephemeralPublic with
        | none => exact id
        | some publicKey =>
            simp only [Exit.ofOption_some, Exit.ret_bind]
            cases X.calculateAgreement privateKey publicKey with
            | none => exact id
            | some secret =>
                simp only [Exit.ofOption_some, Exit.ret_bind]
                split <;> exact id
  all_goals exact id

theorem decryptDeviceName_eq_ret {privateKey : X.PrivateKey} {name : DeviceName} {text : String} :
    decryptDeviceName X privateKey name = .ret text ↔
      ∃ plaintext, name.Authentic X privateKey plaintext ∧ text = fromUtf8Lossy plaintext := by
  constructor
  · intro decrypted
    obtain ⟨_ | ephemeralPublic, _ | iv, _ | ciphertext⟩ := name
    case some.some.some =>
      rw [decryptDeviceName_present lawful] at decrypted
      obtain ⟨array, whole, decrypted⟩ := Exit.bind_eq_ret.mp decrypted
      obtain ⟨publicKey, read, decrypted⟩ := Exit.bind_eq_ret.mp decrypted
      obtain ⟨secret, agreed, decrypted⟩ := Exit.bind_eq_ret.mp decrypted
      rw [Exit.ofOption_throw_eq_ret] at whole read agreed
      have taken := arrayOf?_eq_some.mp whole
      split at decrypted
      case isTrue => cases decrypted
      case isFalse same =>
        rw [← taken] at same decrypted
        exact ⟨_, ⟨ephemeralPublic, iv, ciphertext, publicKey, secret, rfl, read, agreed, rfl,
          not_not.mp same⟩, (Exit.ret.inj decrypted).symm⟩
    all_goals cases decrypted
  · rintro ⟨plaintext, ⟨ephemeralPublic, iv, ciphertext, publicKey, secret, rfl, read, agreed, rfl,
      same⟩, rfl⟩
    have sixteen : (iv.take 16).toArray.size = 16 := by
      rw [List.size_toArray, same, length_nameIv lawful]
    have whole : arrayOf? 16 (iv.take 16) = some ⟨(iv.take 16).toArray, sixteen⟩ :=
      arrayOf?_eq_some.mpr rfl
    rw [decryptDeviceName_present lawful, whole]
    simp only [read, agreed, Exit.ofOption_some, Exit.ret_bind]
    exact if_neg (not_not_intro same)

/-! ## What was encrypted -/

/-- The name is authentic for the key it was encrypted for, with the bytes it was made of. -/
theorem encryptDeviceName_authentic
    (keystream : ∀ key iv text, X.aesCtr key iv (X.aesCtr key iv text) = text)
    (deviceName : String) (identityPrivate : X.PrivateKey) :
    Prog.ReturnsWhen (fun _ _ => True)
      (fun name => name.Authentic X identityPrivate (utf8Bytes deviceName))
      (encryptDeviceName X deviceName (X.publicKey identityPrivate)) := by
  apply Prog.returnsWhen_ask_any.bind
  intro ephemeral _
  obtain ⟨_, agreed⟩ := lawful.agrees ephemeral (X.publicKey identityPrivate)
  apply (Prog.returnsWhen_ofOption agreed).bind
  rintro secret rfl
  apply Prog.returnsWhen_ret
  rw [lawful.symmetric] at agreed
  -- the IV has its 16 bytes, so that cutting it off again changes nothing
  have whole : (nameIv X secret (utf8Bytes deviceName)).take 16 =
      nameIv X secret (utf8Bytes deviceName) :=
    List.take_of_length_le (length_nameIv lawful _ _).le
  refine ⟨_, _, _, X.publicKey ephemeral, secret, rfl, lawful.publicBytes _, agreed, ?_, whole⟩
  change _ = nameCipher X secret ((nameIv X secret (utf8Bytes deviceName)).take 16)
    (nameCipher X secret (nameIv X secret (utf8Bytes deviceName)) (utf8Bytes deviceName))
  rw [whole, nameCipher, nameCipher, keystream]

end Lawful

/-- A name comes back from what was made of it, also through the list of devices. And whatever a
name is made of, it is checked before it is believed, and never panicked over. -/
theorem deviceName_recovered_and_checked (lawful : X.Lawful)
    (keystream : ∀ key iv text, X.aesCtr key iv (X.aesCtr key iv text) = text)
    {decodeDeviceName : Bytes → Option DeviceName}
    (decoded : ∀ name, decodeDeviceName (X.encodeDeviceName name) = some name) :
    (∀ deviceName identityPrivate es x,
      Prog.Trace (encryptDeviceName X deviceName (X.publicKey identityPrivate)) es x →
      ∃ name, x = .ret name ∧ decryptDeviceName X identityPrivate name = .ret deviceName ∧
        decryptDeviceNameFromDeviceInfo X decodeDeviceName
          (X.base64Encode (X.encodeDeviceName name)) (.ofPrivate identityPrivate) =
            .ret deviceName) ∧
    (∀ privateKey name, ¬ (decryptDeviceName X privateKey name).Panics ∧
      ∀ text, decryptDeviceName X privateKey name = .ret text ↔
        ∃ plaintext, name.Authentic X privateKey plaintext ∧ text = fromUtf8Lossy plaintext) := by
  constructor
  · intro deviceName identityPrivate es x trace
    obtain ⟨name, rfl, authentic⟩ := encryptDeviceName_authentic lawful keystream deviceName
      identityPrivate es x trace (fun _ _ => trivial)
    have decrypted : decryptDeviceName X identityPrivate name = .ret deviceName :=
      (decryptDeviceName_eq_ret lawful).mpr
        ⟨_, authentic, (Codec.fromUtf8Lossy_toUTF8 deviceName).symm⟩
    refine ⟨name, rfl, decrypted, ?_⟩
    unfold decryptDeviceNameFromDeviceInfo
    rw [lawful.base64]
    simp only [decoded]
    exact decrypted
  · intro privateKey name
    exact ⟨decryptDeviceName_not_panics lawful privateKey name,
      fun text => decryptDeviceName_eq_ret lawful⟩

end SignalService.Provisioning

namespace SignalService

open Effect Provisioning

namespace Sample

/-- A keystream that repeats the key. -/
def keystream (key _iv text : Bytes) : Bytes :=
  text.mapIdx fun i byte => byte ^^^ key.getD (i % key.length) 0

theorem keystream_keystream (key iv text : Bytes) :
    keystream key iv (keystream key iv text) = text := by
  unfold keystream
  rw [List.mapIdx_mapIdx, List.mapIdx_eq_iff]
  intro i
  cases text[i]? with
  | none => rfl
  | some byte =>
      simp only [Option.map_some, Function.comp_apply]
      rw [UInt8.xor_assoc, UInt8.xor_self, UInt8.xor_zero]

def nameExternals : ProvisioningExternals := { provisioningExternals with aesCtr := keystream }

theorem nameExternals_lawful : nameExternals.Lawful := { provisioningExternals_lawful with }

def decodeDeviceName (bytes : Bytes) : Option DeviceName :=
  match decodeFields 3 bytes with
  | some [ephemeralPublic, syntheticIv, ciphertext] =>
      some ⟨ephemeralPublic, syntheticIv, ciphertext⟩
  | _ => none

theorem decodeDeviceName_encodeDeviceName (name : DeviceName) :
    decodeDeviceName (nameExternals.encodeDeviceName name) = some name := by
  have fields := decodeFields_encodeFields [name.ephemeralPublic, name.syntheticIv,
    name.ciphertext]
  simp only [List.length_cons, List.length_nil] at fields
  change decodeDeviceName (encodeFields _) = _
  rw [decodeDeviceName, fields]

end Sample

/-- The name of the source's own test. -/
theorem nokia_recovered :
    ∃ es name, Prog.Trace (encryptDeviceName Sample.nameExternals "Nokia 3310 Millenial Edition"
        (Sample.nameExternals.publicKey Sample.pipeKey)) es (.ret name) ∧
      decryptDeviceName Sample.nameExternals Sample.pipeKey name =
        .ret "Nokia 3310 Millenial Edition" ∧
      decryptDeviceNameFromDeviceInfo Sample.nameExternals Sample.decodeDeviceName
        (Sample.nameExternals.base64Encode (Sample.nameExternals.encodeDeviceName name))
        (.ofPrivate Sample.pipeKey) = .ret "Nokia 3310 Millenial Edition" := by
  have trace : Prog.Trace (encryptDeviceName Sample.nameExternals "Nokia 3310 Millenial Edition"
      (Sample.nameExternals.publicKey Sample.pipeKey)) [⟨.generateNameKeyPair, Sample.pipeKey⟩] _ :=
    .call _ (.done _)
  obtain ⟨name, returned, recovered⟩ := (deviceName_recovered_and_checked
    Sample.nameExternals_lawful Sample.keystream_keystream
    Sample.decodeDeviceName_encodeDeviceName).1 _ _ _ _ trace
  rw [returned] at trace
  exact ⟨_, name, trace, recovered⟩

end SignalService

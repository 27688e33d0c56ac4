import SignalService.PreKeys
import SignalService.Attachments.Cipher
import SignalService.Groups.Operations

/-! # The provisioning cipher

`provisioning/cipher.rs`: what the primary device tells a new one is encrypted for the key the
new device has published, under a key agreed on with a pair made for this one message.
-/

namespace SignalService.Provisioning

open Effect
open Groups (utf8Bytes)

/-! ## Messages -/

structure ProvisionMessage where
  aciIdentityKeyPublic : Option Bytes := none
  aciIdentityKeyPrivate : Option Bytes := none
  pniIdentityKeyPublic : Option Bytes := none
  pniIdentityKeyPrivate : Option Bytes := none
  aci : Option String := none
  pni : Option String := none
  number : Option String := none
  provisioningCode : Option String := none
  userAgent : Option String := none
  profileKey : Option Bytes := none
  readReceipts : Option Bool := none
  provisioningVersion : Option UInt32 := none
  ephemeralBackupKey : Option Bytes := none
  accountEntropyPool : Option String := none
  mediaRootBackupKey : Option Bytes := none
  aciBinary : Option Bytes := none
  pniBinary : Option Bytes := none
  deriving DecidableEq

structure ProvisionEnvelope where
  publicKey : Option Bytes
  body : Option Bytes
  deriving DecidableEq

/-- `DeviceName`, as the encoder is given it. -/
structure DeviceName where
  ephemeralPublic : Option Bytes
  syntheticIv : Option Bytes
  ciphertext : Option Bytes
  deriving DecidableEq

inductive InvalidKeyError where
  | curve
  | base64
  deriving DecidableEq, Repr

inductive ProvisioningError where
  | missingUrl
  | badVersionNumber
  | missingPublicKey
  | missingPrivateKey
  | invalidPublicKey (error : InvalidKeyError)
  | invalidPrivateKey (error : InvalidKeyError)
  | missingUuid
  | missingMessage
  | missingProfileKey
  | missingPhoneNumber
  | invalidPhoneNumber
  | missingProvisioningCode
  | mismatchedMac
  | aesPaddingError
  | invalidStep
  | decodeError
  | wsError (reason : String)
  | wsClosing
  | serviceError (error : ServiceError)
  | protocolError (error : SignalProtocolError)
  | encryptOnlyProvisioningCipher
  | invalidProfileKey
  | invalidAccountEntropyPool
  deriving DecidableEq, Repr

/-! ## What the crate calls -/

structure ProvisioningExternals extends Curve, AttachmentCiphers where
  E164 : Type
  AccountEntropyPool : Type
  Url : Type
  hkdfSha256 : (ikm info : Bytes) → Vector UInt8 64
  aesCtr : (key iv plaintext : Bytes) → Bytes
  /- prost, base64 and uuid -/
  encodeProvisionMessage : ProvisionMessage → Bytes
  decodeProvisionMessage : Bytes → Option ProvisionMessage
  encodeProvisionEnvelope : ProvisionEnvelope → Bytes
  decodeProvisionEnvelope : Bytes → Option ProvisionEnvelope
  /-- A `ProvisioningAddress`, whose one field is the address. -/
  decodeProvisioningAddress : Bytes → Option (Option String)
  encodeDeviceName : DeviceName → Bytes
  base64Encode : Bytes → String
  base64Decode : String → Option Bytes
  uuidString : Uuid → String
  /- phone numbers and entropy pools as text -/
  e164String : E164 → String
  parseE164 : String → Option E164
  poolString : AccountEntropyPool → String
  parsePool : String → Option AccountEntropyPool
  /-- `sgnl://linkdevice` with these pairs appended to its query. -/
  linkUrl : List (String × String) → Url
  queryPairs : Url → List (String × String)
  /-- `service_url.join`. -/
  joinServiceUrl : String → Option Url
  /-- The provisioning address that the service delivers a request on this URL to. -/
  destination : Url → Option String

variable (X : ProvisioningExternals)

/-! ## Keys -/

inductive CipherMode (K : Curve) where
  | decryptAndEncrypt (keyPair : KeyPair K)
  | encryptOnly (key : K.PublicKey)

def CipherMode.public {K : Curve} : CipherMode K → K.PublicKey
  | .decryptAndEncrypt pair => pair.publicKey
  | .encryptOnly key => key

structure ProvisioningCipher (K : Curve) where
  keyMaterial : CipherMode K

namespace ProvisioningCipher

def fromPublic {K : Curve} (key : K.PublicKey) : ProvisioningCipher K := ⟨.encryptOnly key⟩

def fromKeyPair {K : Curve} (keyPair : KeyPair K) : ProvisioningCipher K :=
  ⟨.decryptAndEncrypt keyPair⟩

def publicKey {K : Curve} (cipher : ProvisioningCipher K) : K.PublicKey :=
  cipher.keyMaterial.public

end ProvisioningCipher

def version : UInt8 := 1

/-- The AES key and the MAC key of an agreement. -/
def sharedSecrets (agreement : Bytes) : Bytes × Bytes :=
  let secrets := (X.hkdfSha256 agreement (utf8Bytes "TextSecure Provisioning Message")).toList
  (secrets.take 32, secrets.drop 32)

/-! ## Encryption -/

inductive CipherCall where
  | generateKeyPair
  | randomIv

@[reducible] def CipherAnswer (K : Curve) : CipherCall → Type
  | .generateKeyPair => K.PrivateKey
  | .randomIv => Vector UInt8 16

abbrev CipherProg (K : Curve) (α : Type) :=
  Prog CipherCall (CipherAnswer K) ProvisioningError α

namespace ProvisioningCipher

def encrypt (cipher : ProvisioningCipher X.toCurve) (msg : ProvisionMessage) :
    CipherProg X.toCurve ProvisionEnvelope := do
  let msg := X.encodeProvisionMessage msg
  let ourKeyPair := KeyPair.ofPrivate (← Prog.ask .generateKeyPair)
  let agreement ← Prog.ofOption (.throw (.invalidPublicKey .curve))
    (X.calculateAgreement ourKeyPair.privateKey cipher.publicKey)
  let (aesKey, macKey) := sharedSecrets X agreement
  let iv : Vector UInt8 16 ← Prog.ask CipherCall.randomIv
  let ciphertext := X.cbcEncrypt aesKey iv.toList (pkcs7Pad msg)
  let mac := X.hmac macKey (version :: iv.toList ++ ciphertext)
  return ⟨some (X.serializePublic ourKeyPair.publicKey),
    some (version :: iv.toList ++ ciphertext ++ mac)⟩

/-! ## Decryption -/

/-- `&body[start..stop]`, which panics out of bounds. -/
def slice (body : Bytes) (start stop : Nat) : Exit ProvisioningError Bytes :=
  if start ≤ stop ∧ stop ≤ body.length then .ret ((body.drop start).take (stop - start))
  else .panic "range out of bounds"

/-- `body.len() - n`. -/
def lengthWithout (body : Bytes) (n : Nat) : Exit ProvisioningError Nat :=
  if n ≤ body.length then .ret (body.length - n) else .panic "attempt to subtract with overflow"

/-- The parts of a body: the IV, the ciphertext, what the MAC is over, and the MAC. -/
structure Body where
  iv : Bytes
  cipherText : Bytes
  ivAndCipherText : Bytes
  mac : Bytes

def splitBody (body : Bytes) : Exit ProvisioningError Body := do
  let first ← Exit.ofOption (.panic "index out of bounds") body.head?
  if first ≠ version then
    Exit.throw .badVersionNumber
  else
    let iv ← slice body 1 17
    let stop ← lengthWithout body 32
    let mac ← slice body stop body.length
    let cipherText ← slice body 17 stop
    let ivAndCipherText ← slice body 0 stop
    return ⟨iv, cipherText, ivAndCipherText, mac⟩

def openBody (keyPair : KeyPair X.toCurve) (masterEphemeral : X.PublicKey) (body : Body) :
    Exit ProvisioningError ProvisionMessage := do
  let agreement ← Exit.ofOption (.throw (.invalidPrivateKey .curve))
    (X.calculateAgreement keyPair.privateKey masterEphemeral)
  let (aesKey, macKey) := sharedSecrets X agreement
  if (X.hmac macKey body.ivAndCipherText).take 32 ≠ body.mac then
    Exit.throw .mismatchedMac
  else
    let input ← Exit.ofOption (.throw .aesPaddingError)
      (decryptPadded? X.toAttachmentCiphers aesKey body.iv body.cipherText).1
    Exit.ofOption (.throw .decodeError) (X.decodeProvisionMessage input)

def decrypt (cipher : ProvisioningCipher X.toCurve) (provisionEnvelope : ProvisionEnvelope) :
    Exit ProvisioningError ProvisionMessage :=
  match cipher.keyMaterial with
  | .encryptOnly _ => .throw .encryptOnlyProvisioningCipher
  | .decryptAndEncrypt keyPair => do
      let publicKey ← Exit.ofOption (.panic "no public key") provisionEnvelope.publicKey
      let masterEphemeral ← Exit.ofOption (.throw (.invalidPublicKey .curve))
        (X.deserializePublic publicKey)
      let body ← Exit.ofOption (.panic "no body in ProvisionMessage") provisionEnvelope.body
      let body ← splitBody body
      openBody X keyPair masterEphemeral body

end ProvisioningCipher

/-! ## What is relied on -/

/-- The agreement is the same from both ends, and every encoding is undone by its decoder. -/
structure ProvisioningExternals.Lawful (X : ProvisioningExternals) : Prop where
  ciphers : X.toAttachmentCiphers.Lawful
  agrees : ∀ privateKey key, ∃ agreement, X.calculateAgreement privateKey key = some agreement
  symmetric : ∀ a b, X.calculateAgreement a (X.publicKey b) = X.calculateAgreement b (X.publicKey a)
  publicBytes : ∀ key, X.deserializePublic (X.serializePublic key) = some key
  privateBytes : ∀ key, X.deserializePrivate (X.serializePrivate key) = some key
  message : ∀ msg, X.decodeProvisionMessage (X.encodeProvisionMessage msg) = some msg
  envelope : ∀ env, X.decodeProvisionEnvelope (X.encodeProvisionEnvelope env) = some env
  base64 : ∀ bytes, X.base64Decode (X.base64Encode bytes) = some bytes
  e164 : ∀ number, X.parseE164 (X.e164String number) = some number
  pool : ∀ pool, X.parsePool (X.poolString pool) = some pool
  query : ∀ pairs, X.queryPairs (X.linkUrl pairs) = pairs

/-! ## What is encrypted can be decrypted -/

namespace ProvisioningCipher

theorem slice_eq (before part after : Bytes) {body : Bytes}
    (shape : before ++ part ++ after = body) {start stop : Nat} (starts : start = before.length)
    (stops : stop = before.length + part.length) : slice body start stop = .ret part := by
  subst shape starts stops
  have inside : before.length ≤ before.length + part.length ∧
      before.length + part.length ≤ (before ++ part ++ after).length := by
    simp
  rw [slice, if_pos inside]
  simp

/-- A body of the layout that is written splits into what it was made of. -/
theorem splitBody_written (iv : Vector UInt8 16) (ciphertext : Bytes) {mac : Bytes}
    (size : mac.length = 32) :
    splitBody (version :: iv.toList ++ ciphertext ++ mac) =
      .ret ⟨iv.toList, ciphertext, version :: iv.toList ++ ciphertext, mac⟩ := by
  generalize written : version :: iv.toList ++ ciphertext ++ mac = body
  have ivSize : iv.toList.length = 16 := by simp
  have length : body.length = 17 + ciphertext.length + 32 := by
    simp [← written, size]
    omega
  have stop : lengthWithout body 32 = .ret (17 + ciphertext.length) := by
    rw [lengthWithout, if_pos (by omega), length]
    rfl
  have readIv : slice body 1 17 = .ret iv.toList :=
    slice_eq [version] _ (ciphertext ++ mac) (by simp [← written]) rfl (by simp)
  have readMac : slice body (17 + ciphertext.length) body.length = .ret mac :=
    slice_eq (version :: iv.toList ++ ciphertext) _ [] (by simp [← written])
      (by simp; omega) (by simp [length, size]; omega)
  have readText : slice body 17 (17 + ciphertext.length) = .ret ciphertext :=
    slice_eq (version :: iv.toList) _ mac (by simp [← written]) (by simp) (by simp)
  have readFront : slice body 0 (17 + ciphertext.length) =
      .ret (version :: iv.toList ++ ciphertext) :=
    slice_eq [] _ mac (by simp [← written]) rfl (by simp; omega)
  have first : body.head? = some version := by simp [← written]
  simp [splitBody, first, Exit.ofOption, readIv, stop, readMac, readText, readFront]

theorem decryptPadded_encrypted {C : AttachmentCiphers} (lawful : C.Lawful)
    (aesKey iv message : Bytes) :
    (decryptPadded? C aesKey iv (C.cbcEncrypt aesKey iv (pkcs7Pad message))).1 =
      some message := by
  have blocks : (pkcs7Pad message).length % 16 = 0 := by
    rw [length_pkcs7Pad]
    omega
  have sameLength := lawful.length_encrypt aesKey iv (pkcs7Pad message)
  simp only [decryptPadded?, sameLength, blocks, if_true, lawful.decrypt_encrypt _ _ _ blocks,
    pkcs7Unpad_pkcs7Pad]

variable {X}

theorem openBody_sealed (lawful : X.Lawful) {privateKey ours : X.PrivateKey} {agreement : Bytes}
    (agreed : X.calculateAgreement privateKey (X.publicKey ours) = some agreement)
    (iv front : Bytes) (msg : ProvisionMessage) :
    openBody X (.ofPrivate privateKey) (X.publicKey ours)
        ⟨iv, X.cbcEncrypt (sharedSecrets X agreement).1 iv
          (pkcs7Pad (X.encodeProvisionMessage msg)), front,
          X.hmac (sharedSecrets X agreement).2 front⟩ = .ret msg := by
  have whole : (X.hmac (sharedSecrets X agreement).2 front).take 32 =
      X.hmac (sharedSecrets X agreement).2 front :=
    List.take_of_length_le (Nat.le_of_eq (lawful.ciphers.length_hmac _ _))
  simp [openBody, KeyPair.ofPrivate, agreed, Exit.ofOption, whole,
    decryptPadded_encrypted lawful.ciphers, lawful.message]

/-- What is encrypted for the public half of a pair opens with the pair. -/
theorem encrypt_opens (lawful : X.Lawful) (privateKey : X.PrivateKey) (msg : ProvisionMessage) :
    Prog.ReturnsWhen (fun _ _ => True)
      (fun env => decrypt X (fromKeyPair (.ofPrivate privateKey)) env = .ret msg)
      (encrypt X (fromPublic (X.publicKey privateKey)) msg) := by
  apply Prog.returnsWhen_ask_any.bind
  intro ours _
  obtain ⟨agreement, agreed⟩ := lawful.agrees ours (X.publicKey privateKey)
  have agreedBack := (lawful.symmetric privateKey ours).trans agreed
  simp only [publicKey, fromPublic, CipherMode.public, KeyPair.ofPrivate, agreed]
  apply Prog.returnsWhen_ask_any.bind
  intro iv _
  apply Prog.returnsWhen_ret
  simp only [decrypt, fromKeyPair, Exit.ofOption, lawful.publicBytes, Exit.bind_eq, Exit.ret_bind]
  rw [splitBody_written iv _ (lawful.ciphers.length_hmac _ _)]
  exact openBody_sealed lawful agreedBack iv.toList _ msg

end ProvisioningCipher

end SignalService.Provisioning

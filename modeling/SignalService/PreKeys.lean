import SignalService.Core
import SignalService.Effect.Runs

/-! # Pre keys

`pre_keys.rs`: the keys a device leaves with the server for others to start sessions with.
`replenish_pre_keys` makes them and saves each in the store before it goes on.
-/

namespace SignalService

open Effect

/-! ## Keys -/

/-- libsignal's curve keys and what is done with them here. -/
structure Curve where
  PublicKey : Type
  PrivateKey : Type
  publicKey : PrivateKey → PublicKey
  serializePublic : PublicKey → Bytes
  deserializePublic : Bytes → Option PublicKey
  serializePrivate : PrivateKey → Bytes
  deserializePrivate : Bytes → Option PrivateKey
  calculateAgreement : PrivateKey → PublicKey → Option Bytes

structure KeyPair (K : Curve) where
  publicKey : K.PublicKey
  privateKey : K.PrivateKey

/-- The pair of a generated private key. -/
def KeyPair.ofPrivate {K : Curve} (privateKey : K.PrivateKey) : KeyPair K :=
  ⟨K.publicKey privateKey, privateKey⟩

/-- A Kyber key pair, with the signature of its public half. -/
structure KyberKey where
  publicKey : Bytes
  secretKey : Bytes
  signature : Bytes

structure PreKeyRecord (K : Curve) where
  id : UInt32
  keyPair : KeyPair K

structure SignedPreKeyRecord (K : Curve) where
  id : UInt32
  timestamp : UInt64
  keyPair : KeyPair K
  signature : Bytes

structure KyberPreKeyRecord where
  id : UInt32
  key : KyberKey

structure SignedPreKeyEntity where
  keyId : UInt32
  publicKey : Bytes
  signature : Bytes

structure KyberPreKeyEntity where
  keyId : UInt32
  publicKey : Bytes
  signature : Bytes

/-- A record that was just made has all its fields, so the conversion does not fail. -/
def SignedPreKeyEntity.ofRecord {K : Curve} (key : SignedPreKeyRecord K) :
    Except SignalProtocolError SignedPreKeyEntity :=
  .ok ⟨key.id, K.serializePublic key.keyPair.publicKey, key.signature⟩

def KyberPreKeyEntity.ofRecord (key : KyberPreKeyRecord) :
    Except SignalProtocolError KyberPreKeyEntity :=
  .ok ⟨key.id, key.key.publicKey, key.key.signature⟩

/-! ## The store and the library -/

inductive PreKeyCall (K : Curve) where
  | nextPreKeyId
  | nextSignedPreKeyId
  | nextPqPreKeyId
  | generateKeyPair
  | generateKyberKey (signingKey : K.PrivateKey)
  | calculateSignature (key : K.PrivateKey) (message : Bytes)
  | now
  | savePreKey (id : UInt32) (record : PreKeyRecord K)
  | saveKyberPreKey (id : UInt32) (record : KyberPreKeyRecord)
  | saveSignedPreKey (id : UInt32) (record : SignedPreKeyRecord K)
  | storeLastResortKyberPreKey (id : UInt32) (record : KyberPreKeyRecord)

@[reducible] def PreKeyAnswer (K : Curve) : PreKeyCall K → Type
  | .nextPreKeyId | .nextSignedPreKeyId | .nextPqPreKeyId => Except SignalProtocolError UInt32
  | .generateKeyPair => K.PrivateKey
  | .generateKyberKey _ => Except SignalProtocolError KyberKey
  | .calculateSignature _ _ => Except SignalProtocolError Bytes
  | .now => UInt64
  | .savePreKey _ _ | .saveKyberPreKey _ _ | .saveSignedPreKey _ _
  | .storeLastResortKyberPreKey _ _ => Except SignalProtocolError Unit

abbrev PreKeyProg (K : Curve) (α : Type) :=
  Prog (PreKeyCall K) (PreKeyAnswer K) SignalProtocolError α

/-! ## Making keys -/

def preKeyMediumMaxValue : Nat := 0xFFFFFF

/-- `(offset + i) % (PRE_KEY_MEDIUM_MAX_VALUE - 1) + 1`, where the sum may overflow. -/
def preKeyId (offset : UInt32) (i : Nat) : Exit SignalProtocolError UInt32 :=
  if offset.toNat + i < 2 ^ 32 then
    .ret (.ofNat ((offset.toNat + i) % (preKeyMediumMaxValue - 1) + 1))
  else .panic "attempt to add with overflow"

variable {K : Curve}

/-- The loop over the one-time keys. -/
def generatePreKeys (offset : UInt32) :
    List Nat → List (PreKeyRecord K) → PreKeyProg K (List (PreKeyRecord K))
  | [], preKeys => pure preKeys
  | i :: rest, preKeys => do
      let privateKey ← Prog.ask .generateKeyPair
      let preKeyId ← Prog.ofExit (preKeyId offset i)
      let record : PreKeyRecord K := ⟨preKeyId, .ofPrivate privateKey⟩
      Prog.await (.savePreKey preKeyId record) id
      generatePreKeys offset rest (preKeys ++ [record])

def generateKyberPreKeys (offset : UInt32) (identityKeyPair : KeyPair K) :
    List Nat → List KyberPreKeyRecord → PreKeyProg K (List KyberPreKeyRecord)
  | [], pqPreKeys => pure pqPreKeys
  | i :: rest, pqPreKeys => do
      let preKeyId ← Prog.ofExit (preKeyId offset i)
      let key ← Prog.await (.generateKyberKey identityKeyPair.privateKey) id
      Prog.await (.saveKyberPreKey preKeyId ⟨preKeyId, key⟩) id
      generateKyberPreKeys offset identityKeyPair rest (pqPreKeys ++ [⟨preKeyId, key⟩])

def generateSignedPreKey (identityKeyPair : KeyPair K) (nextSignedPreKeyId : UInt32) :
    PreKeyProg K (SignedPreKeyRecord K) := do
  let signedPreKeyPair := KeyPair.ofPrivate (← Prog.ask .generateKeyPair)
  let signature ← Prog.await (.calculateSignature identityKeyPair.privateKey
    (K.serializePublic signedPreKeyPair.publicKey)) id
  let timestamp ← Prog.ask .now
  let record : SignedPreKeyRecord K := ⟨nextSignedPreKeyId, timestamp, signedPreKeyPair, signature⟩
  Prog.await (.saveSignedPreKey nextSignedPreKeyId record) id
  return record

/-- `assert_eq!`: the last resort key is numbered right after the one-time ones. -/
def assertFollows (pqPreKeys : List KyberPreKeyRecord) (preKeyId : UInt32) :
    Exit SignalProtocolError Unit :=
  match pqPreKeys.getLast? with
  | none => .ret ()
  | some last =>
      if last.id.toNat + 1 = preKeyId.toNat then .ret ()
      else .panic "assertion `left == right` failed"

def generateLastResortKey (identityKeyPair : KeyPair K) (pqPreKeysOffsetId : UInt32)
    (kyberPreKeyCount : Nat) (pqPreKeys : List KyberPreKeyRecord) :
    PreKeyProg K KyberPreKeyRecord := do
  let preKeyId ← Prog.ofExit (preKeyId pqPreKeysOffsetId kyberPreKeyCount)
  Prog.ofExit (assertFollows pqPreKeys preKeyId)
  let key ← Prog.await (.generateKyberKey identityKeyPair.privateKey) id
  Prog.await (.storeLastResortKyberPreKey preKeyId ⟨preKeyId, key⟩) id
  return ⟨preKeyId, key⟩

/-- What `replenish_pre_keys` returns. -/
structure ReplenishedKeys (K : Curve) where
  preKeys : List (PreKeyRecord K)
  signedPreKey : SignedPreKeyRecord K
  pqPreKeys : List KyberPreKeyRecord
  pqLastResortKey : Option KyberPreKeyRecord

def replenishPreKeys (identityKeyPair : KeyPair K) (useLastResortKey : Bool)
    (preKeyCount kyberPreKeyCount : UInt32) : PreKeyProg K (ReplenishedKeys K) := do
  let preKeysOffsetId ← Prog.await .nextPreKeyId id
  let nextSignedPreKeyId ← Prog.await .nextSignedPreKeyId id
  let pqPreKeysOffsetId ← Prog.await .nextPqPreKeyId id
  let preKeys ← generatePreKeys preKeysOffsetId (List.range preKeyCount.toNat) []
  let pqPreKeys ← generateKyberPreKeys pqPreKeysOffsetId identityKeyPair
    (List.range kyberPreKeyCount.toNat) []
  let signedPreKey ← generateSignedPreKey identityKeyPair nextSignedPreKeyId
  if useLastResortKey then
    let lastResort ← generateLastResortKey identityKeyPair pqPreKeysOffsetId
      kyberPreKeyCount.toNat pqPreKeys
    return ⟨preKeys, signedPreKey, pqPreKeys, some lastResort⟩
  else
    return ⟨preKeys, signedPreKey, pqPreKeys, none⟩

/-! ## A store that works -/

/-- No error from the store or the library. -/
def PreKeyObliging (K : Curve) : (c : PreKeyCall K) → PreKeyAnswer K c → Prop
  | .nextPreKeyId, r | .nextSignedPreKeyId, r | .nextPqPreKeyId, r => ∃ id, r = .ok id
  | .generateKyberKey _, r => ∃ key, r = .ok key
  | .calculateSignature _ _, r => ∃ signature, r = .ok signature
  | .savePreKey _ _, r | .saveKyberPreKey _ _, r | .saveSignedPreKey _ _, r
  | .storeLastResortKyberPreKey _ _, r => r = .ok ()
  | .generateKeyPair, _ | .now, _ => True

theorem preKeyObliging_answerable (c : PreKeyCall K) (privateKey : K.PrivateKey) :
    ∃ r, PreKeyObliging K c r := by
  cases c with
  | nextPreKeyId | nextSignedPreKeyId | nextPqPreKeyId => exact ⟨.ok 0, 0, rfl⟩
  | generateKeyPair => exact ⟨privateKey, trivial⟩
  | generateKyberKey => exact ⟨.ok ⟨[], [], []⟩, _, rfl⟩
  | calculateSignature => exact ⟨.ok [], [], rfl⟩
  | now => exact ⟨0, trivial⟩
  | savePreKey | saveKyberPreKey | saveSignedPreKey | storeLastResortKyberPreKey =>
      exact ⟨.ok (), rfl⟩

theorem preKeyId_zero (offset : UInt32) : ∃ id, preKeyId offset 0 = .ret id := by
  have small := offset.toNat_lt
  exact ⟨_, if_pos (by omega)⟩

theorem generateSignedPreKey_returns (identityKeyPair : KeyPair K) (nextSignedPreKeyId : UInt32) :
    Prog.ReturnsWhen (PreKeyObliging K) (fun _ => True)
      (generateSignedPreKey identityKeyPair nextSignedPreKeyId) := by
  apply Prog.returnsWhen_ask_any.bind
  intro privateKey _
  apply (Prog.returnsWhen_await_ok fun _ signed => signed).bind
  intro signature _
  apply Prog.returnsWhen_ask_any.bind
  intro timestamp _
  apply (Prog.returnsWhen_await_ok fun _ saved => ⟨(), saved⟩).bind
  intro _ _
  exact Prog.returnsWhen_ret trivial

theorem generateLastResortKey_returns (identityKeyPair : KeyPair K) (offset : UInt32) :
    Prog.ReturnsWhen (PreKeyObliging K) (fun _ => True)
      (generateLastResortKey identityKeyPair offset 0 []) := by
  unfold generateLastResortKey
  obtain ⟨preKeyId, numbered⟩ := preKeyId_zero offset
  rw [numbered]
  apply (Prog.returnsWhen_await_ok fun _ generated => generated).bind
  intro key _
  apply (Prog.returnsWhen_await_ok fun _ saved => ⟨(), saved⟩).bind
  intro _ _
  exact Prog.returnsWhen_ret trivial

/-- Beside the signed key there is a last resort key and no other. -/
def ReplenishedKeys.LastResortOnly (keys : ReplenishedKeys K) : Prop :=
  keys.preKeys = [] ∧ keys.pqPreKeys = [] ∧ ∃ key, keys.pqLastResortKey = some key

/-- A new device asks for a signed key and a last resort one, and gets just these. -/
theorem replenishPreKeys_returns (identityKeyPair : KeyPair K) :
    Prog.ReturnsWhen (PreKeyObliging K) ReplenishedKeys.LastResortOnly
      (replenishPreKeys identityKeyPair true 0 0) := by
  apply (Prog.returnsWhen_await_ok fun _ numbered => numbered).bind
  intro preKeysOffsetId _
  apply (Prog.returnsWhen_await_ok fun _ numbered => numbered).bind
  intro nextSignedPreKeyId _
  apply (Prog.returnsWhen_await_ok fun _ numbered => numbered).bind
  intro pqPreKeysOffsetId _
  apply (generateSignedPreKey_returns identityKeyPair nextSignedPreKeyId).bind
  intro signedPreKey _
  apply (generateLastResortKey_returns identityKeyPair pqPreKeysOffsetId).bind
  intro lastResort _
  exact Prog.returnsWhen_ret ⟨rfl, rfl, lastResort, rfl⟩

/-! ## Numbers -/

/-- The `i`th number after an offset. -/
def preKeyNumber (offset : UInt32) (i : Nat) : Nat := (offset.toNat + i) % 0xFFFFFE + 1

/-- Numbers that are distinct, and from 1 to `PRE_KEY_MEDIUM_MAX_VALUE - 1`. -/
def ProperIds (ids : List UInt32) : Prop :=
  ids.Nodup ∧ ∀ id ∈ ids, 1 ≤ id.toNat ∧ id.toNat ≤ 0xFFFFFE

theorem preKeyId_eq_ret {offset id : UInt32} {i : Nat} :
    preKeyId offset i = .ret id ↔ offset.toNat + i < 2 ^ 32 ∧ id.toNat = preKeyNumber offset i := by
  have small : preKeyNumber offset i < 2 ^ 32 := by
    unfold preKeyNumber
    omega
  have number : (UInt32.ofNat (preKeyNumber offset i)).toNat = preKeyNumber offset i := by
    rw [UInt32.toNat_ofNat', Nat.mod_eq_of_lt small]
  unfold preKeyId
  split
  case isTrue inside =>
      change Exit.ret (UInt32.ofNat (preKeyNumber offset i)) = _ ↔ _
      rw [Exit.ret.injEq]
      constructor
      · rintro rfl
        exact ⟨inside, number⟩
      · rintro ⟨-, same⟩
        apply UInt32.toNat.inj
        rw [number, same]
  case isFalse outside =>
      apply iff_of_false nofun
      rintro ⟨inside, -⟩
      exact outside inside

theorem preKeyId_eq_panic {offset : UInt32} {i : Nat} {m : String}
    (panicked : preKeyId offset i = .panic m) : ¬ offset.toNat + i < 2 ^ 32 := by
  unfold preKeyId at panicked
  split at panicked
  · cases panicked
  · assumption

/-- As long as there are not more of them than there are numbers, no number comes twice. -/
theorem properIds_of_numbers {ids : List UInt32} {offset : UInt32} {n : Nat} (few : n ≤ 0xFFFFFE)
    (numbered : ids.map UInt32.toNat = (List.range n).map (preKeyNumber offset)) :
    ProperIds ids := by
  constructor
  · apply List.Nodup.of_map UInt32.toNat
    rw [numbered]
    apply List.nodup_range.map_on
    intro i iInside j jInside same
    rw [List.mem_range] at iInside jInside
    unfold preKeyNumber at same
    omega
  · intro id member
    have listed : id.toNat ∈ (List.range n).map (preKeyNumber offset) := by
      rw [← numbered]
      exact List.mem_map_of_mem member
    obtain ⟨i, -, same⟩ := List.mem_map.mp listed
    rw [← same]
    unfold preKeyNumber
    omega

/-- The number after the last one is no other's either. -/
theorem properIds_append {ids : List UInt32} {offset id : UInt32} {n : Nat}
    (few : n + 1 ≤ 0xFFFFFE)
    (numbered : ids.map UInt32.toNat = (List.range n).map (preKeyNumber offset))
    (number : id.toNat = preKeyNumber offset n) : ProperIds (ids ++ [id]) := by
  apply properIds_of_numbers few
  rw [List.map_append, numbered, List.range_succ, List.map_append, List.map_singleton,
    List.map_singleton, number]

/-! ## What is saved -/

/-- The store says which numbers come next, and may say anything else. -/
def NumberedFrom (K : Curve) (preKeysOffsetId pqPreKeysOffsetId : UInt32) :
    (c : PreKeyCall K) → PreKeyAnswer K c → Prop
  | .nextPreKeyId, r => r = .ok preKeysOffsetId
  | .nextPqPreKeyId, r => r = .ok pqPreKeysOffsetId
  | _, _ => True

section Saved

variable {A : (c : PreKeyCall K) → PreKeyAnswer K c → Prop}

/-- Keys were made for all the indices after those from before, and their saving is in `es`. -/
def MadeBatch {α : Type} (number : α → UInt32)
    (saving : α → Event (PreKeyCall K) (PreKeyAnswer K)) (offset : UInt32) (is : List Nat)
    (before : List α) (es : List (Event (PreKeyCall K) (PreKeyAnswer K))) (made : List α) : Prop :=
  ∃ new, made = before ++ new ∧ (∀ i ∈ is, offset.toNat + i < 2 ^ 32) ∧
    (new.map number).map UInt32.toNat = is.map (preKeyNumber offset) ∧
    ∀ record ∈ new, saving record ∈ es

section Batch

variable {α : Type} {number : α → UInt32} {offset : UInt32} {i : Nat} {is : List Nat}
  {saving : α → Event (PreKeyCall K) (PreKeyAnswer K)} {before made : List α}
  {es es' : List (Event (PreKeyCall K) (PreKeyAnswer K))}

theorem madeBatch_nil : MadeBatch number saving offset [] before es before :=
  ⟨[], by simp, by simp, by simp, by simp⟩

theorem MadeBatch.cons {record : α} {id : UInt32}
    (batch : MadeBatch number saving offset is (before ++ [record]) es' made)
    (numbered : preKeyId offset i = .ret id) (own : number record = id)
    (saved : saving record ∈ es) (later : es' ⊆ es) :
    MadeBatch number saving offset (i :: is) before es made := by
  obtain ⟨new, rfl, others, numbers, savedOthers⟩ := batch
  obtain ⟨inside, next⟩ := preKeyId_eq_ret.mp numbered
  refine ⟨record :: new, List.append_assoc _ _ _, ?_, ?_, ?_⟩
  · exact List.forall_mem_cons.mpr ⟨inside, others⟩
  · rw [List.map_cons, List.map_cons, List.map_cons, own, next, numbers]
  · intro other member
    obtain rfl | member := List.mem_cons.mp member
    · exact saved
    · exact later (savedOthers other member)

end Batch

/-- The loop ends with an overflow, with an error, or with all keys made and saved. -/
theorem generatePreKeys_runs (offset : UInt32) (is : List Nat) (preKeys : List (PreKeyRecord K)) :
    Prog.Runs A (Prog.Post
      (MadeBatch (·.id) (fun record => ⟨.savePreKey record.id record, .ok ()⟩) offset is preKeys)
      (¬ ∀ i ∈ is, offset.toNat + i < 2 ^ 32)) (generatePreKeys offset is preKeys) := by
  induction is generalizing preKeys with
  | nil => exact Prog.runs_ret_post madeBatch_nil
  | cons i is ih =>
      refine Prog.Runs.bind_post Prog.runs_ask_post ?_
      rintro _ privateKey rfl
      refine Prog.Runs.bind_post (Prog.runs_ofExit_post ?_) ?_
      · intro m panicked inside
        exact preKeyId_eq_panic panicked (inside i List.mem_cons_self)
      rintro _ preKeyId ⟨rfl, numbered⟩
      refine Prog.Runs.bind_post Prog.runs_await_post ?_
      rintro _ _ ⟨_, rfl, -, rfl⟩
      apply (ih _).mono_post
      · intro es made batch
        exact batch.cons numbered rfl (by simp) (by simp)
      · intro overflow inside
        exact overflow fun j member => inside j (List.mem_cons_of_mem _ member)

theorem generateKyberPreKeys_runs (offset : UInt32) (identityKeyPair : KeyPair K) (is : List Nat)
    (pqPreKeys : List KyberPreKeyRecord) :
    Prog.Runs A (Prog.Post
      (MadeBatch (·.id) (fun record => ⟨.saveKyberPreKey record.id record, .ok ()⟩) offset is
        pqPreKeys)
      (¬ ∀ i ∈ is, offset.toNat + i < 2 ^ 32))
        (generateKyberPreKeys offset identityKeyPair is pqPreKeys) := by
  induction is generalizing pqPreKeys with
  | nil => exact Prog.runs_ret_post madeBatch_nil
  | cons i is ih =>
      refine Prog.Runs.bind_post (Prog.runs_ofExit_post ?_) ?_
      · intro m panicked inside
        exact preKeyId_eq_panic panicked (inside i List.mem_cons_self)
      rintro _ preKeyId ⟨rfl, numbered⟩
      refine Prog.Runs.bind_post Prog.runs_await_post ?_
      rintro _ key ⟨_, rfl, -, rfl⟩
      refine Prog.Runs.bind_post Prog.runs_await_post ?_
      rintro _ _ ⟨_, rfl, -, rfl⟩
      apply (ih _).mono_post
      · intro es made batch
        exact batch.cons numbered rfl (by simp) (by simp)
      · intro overflow inside
        exact overflow fun j member => inside j (List.mem_cons_of_mem _ member)

theorem generateSignedPreKey_runs (identityKeyPair : KeyPair K) (nextSignedPreKeyId : UInt32)
    {B : Prop} :
    Prog.Runs A (Prog.Post (fun _ _ => True) B)
      (generateSignedPreKey identityKeyPair nextSignedPreKeyId) := by
  refine Prog.Runs.bind_post Prog.runs_ask_post ?_
  intro _ privateKey _
  refine Prog.Runs.bind_post Prog.runs_await_post ?_
  intro _ signature _
  refine Prog.Runs.bind_post Prog.runs_ask_post ?_
  intro _ timestamp _
  refine Prog.Runs.bind_post Prog.runs_await_post ?_
  intro _ _ _
  exact Prog.runs_ret_post trivial

/-- The assertion is that the numbers do not start over between the two. -/
theorem assertFollows_iff {pqPreKeys : List KyberPreKeyRecord} {offset id : UInt32} {n : Nat}
    (numbered : (pqPreKeys.map (·.id)).map UInt32.toNat =
      (List.range n).map (preKeyNumber offset))
    (number : id.toNat = preKeyNumber offset n) :
    (assertFollows pqPreKeys id = .ret () ↔ n = 0 ∨ (offset.toNat + n) % 0xFFFFFE ≠ 0) ∧
      ∀ m, assertFollows pqPreKeys id = .panic m →
        ¬ (n = 0 ∨ (offset.toNat + n) % 0xFFFFFE ≠ 0) := by
  unfold assertFollows
  cases n with
  | zero =>
      have empty : pqPreKeys = [] := by simpa using numbered
      rw [empty]
      exact ⟨iff_of_true rfl (.inl rfl), nofun⟩
  | succ n =>
      have last : (pqPreKeys.getLast?.map (·.id)).map UInt32.toNat =
          some (preKeyNumber offset n) := by
        rw [← List.getLast?_map, ← List.getLast?_map, numbered, List.range_succ, List.map_append]
        simp
      obtain ⟨_, mapped, lastNumber⟩ := Option.map_eq_some_iff.mp last
      obtain ⟨record, present, rfl⟩ := Option.map_eq_some_iff.mp mapped
      rw [present]
      dsimp only
      rw [lastNumber, number]
      unfold preKeyNumber
      split
      case isTrue follows => exact ⟨iff_of_true rfl (by omega), nofun⟩
      case isFalse other =>
          constructor
          · exact iff_of_false nofun (by omega)
          · intro _ _
            omega

theorem generateLastResortKey_runs {pqPreKeys : List KyberPreKeyRecord} {offset : UInt32} {n : Nat}
    (identityKeyPair : KeyPair K)
    (numbered : (pqPreKeys.map (·.id)).map UInt32.toNat =
      (List.range n).map (preKeyNumber offset)) :
    Prog.Runs A (Prog.Post (fun es record =>
        (offset.toNat + n < 2 ^ 32 ∧ (n = 0 ∨ (offset.toNat + n) % 0xFFFFFE ≠ 0)) ∧
        record.id.toNat = preKeyNumber offset n ∧
        ⟨.storeLastResortKyberPreKey record.id record, .ok ()⟩ ∈ es)
      (¬ (offset.toNat + n < 2 ^ 32 ∧ (n = 0 ∨ (offset.toNat + n) % 0xFFFFFE ≠ 0))))
        (generateLastResortKey identityKeyPair offset n pqPreKeys) := by
  refine Prog.Runs.bind_post (Prog.runs_ofExit_post ?_) ?_
  · intro m panicked available
    exact preKeyId_eq_panic panicked available.1
  rintro _ preKeyId ⟨rfl, given⟩
  obtain ⟨inside, number⟩ := preKeyId_eq_ret.mp given
  obtain ⟨followed, broken⟩ := assertFollows_iff numbered number
  refine Prog.Runs.bind_post (Prog.runs_ofExit_post ?_) ?_
  · intro m panicked available
    exact broken m panicked available.2
  rintro _ _ ⟨rfl, asserted⟩
  refine Prog.Runs.bind_post Prog.runs_await_post ?_
  rintro _ key ⟨_, rfl, -, rfl⟩
  refine Prog.Runs.bind_post Prog.runs_await_post ?_
  rintro _ _ ⟨_, rfl, -, rfl⟩
  exact Prog.runs_ret_post ⟨⟨inside, followed.mp asserted⟩, number, by simp⟩

end Saved

/-- The numbers of the Kyber keys, the last resort key among them. -/
def ReplenishedKeys.kyberIds (keys : ReplenishedKeys K) : List UInt32 :=
  keys.pqPreKeys.map (·.id) ++ keys.pqLastResortKey.toList.map (·.id)

/-- All keys have proper numbers, and each was saved under its number. -/
structure SavedProperly (es : List (Event (PreKeyCall K) (PreKeyAnswer K)))
    (keys : ReplenishedKeys K) : Prop where
  preKeyIds : ProperIds (keys.preKeys.map (·.id))
  kyberIds : ProperIds keys.kyberIds
  preKeys : ∀ record ∈ keys.preKeys, ⟨.savePreKey record.id record, .ok ()⟩ ∈ es
  pqPreKeys : ∀ record ∈ keys.pqPreKeys, ⟨.saveKyberPreKey record.id record, .ok ()⟩ ∈ es
  lastResort : ∀ record ∈ keys.pqLastResortKey,
    ⟨.storeLastResortKyberPreKey record.id record, .ok ()⟩ ∈ es

/-- No sum overflows, and the numbers do not start over just before the last resort key. -/
structure IdsAvailable (preKeysOffsetId pqPreKeysOffsetId : UInt32) (useLastResortKey : Bool)
    (preKeyCount kyberPreKeyCount : UInt32) : Prop where
  preKeys : preKeysOffsetId.toNat + preKeyCount.toNat ≤ 2 ^ 32
  pqPreKeys : pqPreKeysOffsetId.toNat + kyberPreKeyCount.toNat + useLastResortKey.toNat ≤ 2 ^ 32
  lastResort : useLastResortKey = true → kyberPreKeyCount.toNat = 0 ∨
    (pqPreKeysOffsetId.toNat + kyberPreKeyCount.toNat) % 0xFFFFFE ≠ 0

section Replenished

variable {identityKeyPair : KeyPair K} {useLastResortKey : Bool}
  {preKeysOffsetId pqPreKeysOffsetId preKeyCount kyberPreKeyCount : UInt32}

theorem range_inside_iff {offset n : Nat} (small : offset < 2 ^ 32) :
    (∀ i ∈ List.range n, offset + i < 2 ^ 32) ↔ offset + n ≤ 2 ^ 32 := by
  constructor
  · intro inside
    cases n with
    | zero => omega
    | succ n => exact inside n List.self_mem_range_succ
  · intro inside i member
    rw [List.mem_range] at member
    omega

theorem replenishPreKeys_runs (batch : preKeyCount.toNat ≤ 100)
    (kyberBatch : kyberPreKeyCount.toNat ≤ 100) :
    Prog.Runs (NumberedFrom K preKeysOffsetId pqPreKeysOffsetId)
      (Prog.Post (fun es keys => IdsAvailable preKeysOffsetId pqPreKeysOffsetId useLastResortKey
          preKeyCount kyberPreKeyCount ∧ SavedProperly es keys)
        (¬ IdsAvailable preKeysOffsetId pqPreKeysOffsetId useLastResortKey preKeyCount
          kyberPreKeyCount))
      (replenishPreKeys identityKeyPair useLastResortKey preKeyCount kyberPreKeyCount) := by
  have small := preKeysOffsetId.toNat_lt
  have kyberSmall := pqPreKeysOffsetId.toNat_lt
  refine Prog.Runs.bind_post Prog.runs_await_post ?_
  rintro _ offset ⟨_, rfl, rfl, ⟨⟩⟩
  refine Prog.Runs.bind_post Prog.runs_await_post ?_
  rintro _ nextSignedPreKeyId ⟨_, rfl, -, rfl⟩
  refine Prog.Runs.bind_post Prog.runs_await_post ?_
  rintro _ pqOffset ⟨_, rfl, rfl, ⟨⟩⟩
  refine Prog.Runs.bind_post ((generatePreKeys_runs _ _ _).mono_post (fun _ _ made => made) ?_) ?_
  · intro overflow available
    exact overflow ((range_inside_iff small).mpr available.preKeys)
  rintro es preKeys ⟨_, rfl, inside, numbers, saved⟩
  refine Prog.Runs.bind_post ((generateKyberPreKeys_runs _ _ _ _).mono_post
    (fun _ _ made => made) ?_) ?_
  · intro overflow available
    have fits := available.pqPreKeys
    exact overflow ((range_inside_iff kyberSmall).mpr (by omega))
  rintro kyberEs pqPreKeys ⟨_, rfl, kyberInside, kyberNumbers, kyberSaved⟩
  refine Prog.Runs.bind_post (generateSignedPreKey_runs _ _) ?_
  intro signedEs signedPreKey _
  have available := (range_inside_iff small).mp inside
  have kyberAvailable := (range_inside_iff kyberSmall).mp kyberInside
  have proper := properIds_of_numbers (by omega) numbers
  cases useLastResortKey with
  | false =>
      refine Prog.runs_ret_post ⟨⟨available, kyberAvailable, nofun⟩, proper, ?_, ?_, ?_, nofun⟩
      · unfold ReplenishedKeys.kyberIds
        rw [Option.toList_none, List.map_nil, List.append_nil]
        exact properIds_of_numbers (by omega) kyberNumbers
      · intro record member
        simp [saved record member]
      · intro record member
        simp [kyberSaved record member]
  | true =>
      refine Prog.Runs.bind_post ((generateLastResortKey_runs _ kyberNumbers).mono_post
        (fun _ _ made => made) ?_) ?_
      · intro missing available
        have fits := available.pqPreKeys
        exact missing ⟨Nat.lt_of_succ_le fits, available.lastResort rfl⟩
      rintro lastEs lastResort ⟨⟨fits, follows⟩, number, lastSaved⟩
      refine Prog.runs_ret_post ⟨⟨available, fits, fun _ => follows⟩, proper, ?_, ?_, ?_, ?_⟩
      · exact properIds_append (by omega) kyberNumbers number
      · intro record member
        simp [saved record member]
      · intro record member
        simp [kyberSaved record member]
      · rintro record ⟨⟩
        simp [lastSaved]

/-! ### Without errors -/

theorem preKeyObliging_numbered (preKeysOffsetId pqPreKeysOffsetId : UInt32)
    (privateKey : K.PrivateKey) (c : PreKeyCall K) :
    ∃ r, PreKeyObliging K c r ∧ NumberedFrom K preKeysOffsetId pqPreKeysOffsetId c r := by
  cases c with
  | nextPreKeyId => exact ⟨.ok preKeysOffsetId, ⟨_, rfl⟩, rfl⟩
  | nextPqPreKeyId => exact ⟨.ok pqPreKeysOffsetId, ⟨_, rfl⟩, rfl⟩
  | _ =>
      obtain ⟨r, obliging⟩ := preKeyObliging_answerable _ privateKey
      exact ⟨r, obliging, trivial⟩

theorem throwsWhen_preKeyId (offset : UInt32) (i : Nat) :
    Prog.ThrowsWhen (PreKeyObliging K) (fun _ => False)
      (Prog.ofExit (preKeyId offset i) : PreKeyProg K UInt32) := by
  apply Prog.throwsWhen_ofExit
  intro e threw
  unfold preKeyId at threw
  split at threw <;> cases threw

theorem generatePreKeys_throws (offset : UInt32) (is : List Nat)
    (preKeys : List (PreKeyRecord K)) :
    Prog.ThrowsWhen (PreKeyObliging K) (fun _ => False) (generatePreKeys offset is preKeys) := by
  induction is generalizing preKeys with
  | nil => trivial
  | cons i is ih =>
      refine Prog.ThrowsWhen.bind Prog.throwsWhen_ask ?_
      intro privateKey
      apply (throwsWhen_preKeyId offset i).bind
      intro preKeyId
      refine Prog.ThrowsWhen.bind (Prog.throwsWhen_await fun _ saved => ⟨(), saved⟩) ?_
      intro _
      exact ih _

theorem generateKyberPreKeys_throws (offset : UInt32) (is : List Nat)
    (pqPreKeys : List KyberPreKeyRecord) :
    Prog.ThrowsWhen (PreKeyObliging K) (fun _ => False)
      (generateKyberPreKeys offset identityKeyPair is pqPreKeys) := by
  induction is generalizing pqPreKeys with
  | nil => trivial
  | cons i is ih =>
      apply (throwsWhen_preKeyId offset i).bind
      intro preKeyId
      refine Prog.ThrowsWhen.bind (Prog.throwsWhen_await fun _ generated => generated) ?_
      intro key
      refine Prog.ThrowsWhen.bind (Prog.throwsWhen_await fun _ saved => ⟨(), saved⟩) ?_
      intro _
      exact ih _

theorem generateSignedPreKey_throws (nextSignedPreKeyId : UInt32) :
    Prog.ThrowsWhen (PreKeyObliging K) (fun _ => False)
      (generateSignedPreKey identityKeyPair nextSignedPreKeyId) := by
  refine Prog.ThrowsWhen.bind Prog.throwsWhen_ask ?_
  intro privateKey
  refine Prog.ThrowsWhen.bind (Prog.throwsWhen_await fun _ signed => signed) ?_
  intro signature
  refine Prog.ThrowsWhen.bind Prog.throwsWhen_ask ?_
  intro timestamp
  refine Prog.ThrowsWhen.bind (Prog.throwsWhen_await fun _ saved => ⟨(), saved⟩) ?_
  intro _
  trivial

theorem generateLastResortKey_throws (offset : UInt32) (n : Nat)
    (pqPreKeys : List KyberPreKeyRecord) :
    Prog.ThrowsWhen (PreKeyObliging K) (fun _ => False)
      (generateLastResortKey identityKeyPair offset n pqPreKeys) := by
  apply (throwsWhen_preKeyId offset n).bind
  intro preKeyId
  apply Prog.ThrowsWhen.bind
  · apply Prog.throwsWhen_ofExit
    intro e threw
    unfold assertFollows at threw
    split at threw
    · cases threw
    · split at threw <;> cases threw
  intro _
  refine Prog.ThrowsWhen.bind (Prog.throwsWhen_await fun _ generated => generated) ?_
  intro key
  refine Prog.ThrowsWhen.bind (Prog.throwsWhen_await fun _ saved => ⟨(), saved⟩) ?_
  intro _
  trivial

/-- Where the store and the library do as they are asked there is no error. -/
theorem replenishPreKeys_throws :
    Prog.ThrowsWhen (PreKeyObliging K) (fun _ => False)
      (replenishPreKeys identityKeyPair useLastResortKey preKeyCount kyberPreKeyCount) := by
  refine Prog.ThrowsWhen.bind (Prog.throwsWhen_await fun _ numbered => numbered) ?_
  intro preKeysOffsetId
  refine Prog.ThrowsWhen.bind (Prog.throwsWhen_await fun _ numbered => numbered) ?_
  intro nextSignedPreKeyId
  refine Prog.ThrowsWhen.bind (Prog.throwsWhen_await fun _ numbered => numbered) ?_
  intro pqPreKeysOffsetId
  apply (generatePreKeys_throws _ _ _).bind
  intro preKeys
  apply (generateKyberPreKeys_throws _ _ _).bind
  intro pqPreKeys
  apply (generateSignedPreKey_throws _).bind
  intro signedPreKey
  cases useLastResortKey with
  | false => trivial
  | true =>
      apply (generateLastResortKey_throws _ _ _).bind
      intro lastResort
      trivial

/-- Without a panic there is a run in which all keys were made. -/
theorem idsAvailable_of_saved (batch : preKeyCount.toNat ≤ 100)
    (kyberBatch : kyberPreKeyCount.toNat ≤ 100)
    (saved : Prog.Runs (NumberedFrom K preKeysOffsetId pqPreKeysOffsetId)
      (Prog.Post SavedProperly False)
      (replenishPreKeys identityKeyPair useLastResortKey preKeyCount kyberPreKeyCount)) :
    IdsAvailable preKeysOffsetId pqPreKeysOffsetId useLastResortKey preKeyCount
      kyberPreKeyCount := by
  obtain ⟨es, x, trace, answered⟩ := Prog.exists_answered
    (preKeyObliging_numbered preKeysOffsetId pqPreKeysOffsetId identityKeyPair.privateKey)
    (replenishPreKeys identityKeyPair useLastResortKey preKeyCount kyberPreKeyCount)
  have numbered : ∀ e ∈ es, NumberedFrom K preKeysOffsetId pqPreKeysOffsetId e.1 e.2 :=
    fun e member => (answered e member).2
  cases x with
  | ret keys => exact (replenishPreKeys_runs batch kyberBatch es _ trace numbered).1
  | throw e =>
      have obliging : ∀ e ∈ es, PreKeyObliging K e.1 e.2 := fun e member => (answered e member).1
      exact (replenishPreKeys_throws.trace trace obliging rfl).elim
  | panic m => exact (saved es _ trace numbered).elim

end Replenished

/-- Whatever numbers the store says come next, there is no panic and all keys are saved under
    proper numbers, exactly where no sum overflows and the last resort key does not come just
    where the numbers start over. -/
theorem replenishPreKeys_saved_iff (identityKeyPair : KeyPair K) (useLastResortKey : Bool)
    (preKeysOffsetId pqPreKeysOffsetId : UInt32) {preKeyCount kyberPreKeyCount : UInt32}
    (batch : preKeyCount.toNat ≤ 100) (kyberBatch : kyberPreKeyCount.toNat ≤ 100) :
    Prog.Runs (NumberedFrom K preKeysOffsetId pqPreKeysOffsetId) (Prog.Post SavedProperly False)
      (replenishPreKeys identityKeyPair useLastResortKey preKeyCount kyberPreKeyCount) ↔
    IdsAvailable preKeysOffsetId pqPreKeysOffsetId useLastResortKey preKeyCount
      kyberPreKeyCount := by
  constructor
  · exact idsAvailable_of_saved batch kyberBatch
  · intro available
    apply (replenishPreKeys_runs batch kyberBatch).mono_post
    · intro es keys made
      exact made.2
    · exact fun missing => missing available

namespace Sample

/-- A curve of single bytes. -/
def byteCurve : Curve where
  PublicKey := UInt8
  PrivateKey := UInt8
  publicKey key := key
  serializePublic key := [key]
  deserializePublic := List.head?
  serializePrivate key := [key]
  deserializePrivate := List.head?
  calculateAgreement ours theirs := some [ours + theirs]

def byteKeyPair : KeyPair byteCurve := .ofPrivate (7 : UInt8)

end Sample

open Sample

theorem first_batch_saved :
    Prog.Runs (NumberedFrom byteCurve 0 0) (Prog.Post SavedProperly False)
      (replenishPreKeys byteKeyPair true 100 100) :=
  (replenishPreKeys_saved_iff byteKeyPair true 0 0 (by decide) (by decide)).mpr
    ⟨by decide, by decide, by decide⟩

/-- A hundred Kyber keys that take the last numbers, and a first sum that overflows. -/
theorem batches_not_saved :
    ¬ Prog.Runs (NumberedFrom byteCurve 0 16777114) (Prog.Post SavedProperly False)
      (replenishPreKeys byteKeyPair true 100 100) ∧
    ¬ Prog.Runs (NumberedFrom byteCurve 0xFFFFFFFF 0) (Prog.Post SavedProperly False)
      (replenishPreKeys byteKeyPair true 100 100) := by
  constructor
  · intro saved
    have available := idsAvailable_of_saved (by decide) (by decide) saved
    exact absurd (available.lastResort rfl) (by decide)
  · intro saved
    have available := idsAvailable_of_saved (by decide) (by decide) saved
    exact absurd available.preKeys (by decide)

end SignalService

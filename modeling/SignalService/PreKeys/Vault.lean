import SignalService.KeyRefresh
import SignalService.Effect.Ensures
import SignalService.Stock.Backed

/-! # Both ends of a pre key

A device keeps the private halves of its pre keys, the server gives the public halves to whoever
wants to start a session. Everything that is out can be answered, and remains so while keys are
saved and while the others act.
-/

namespace SignalService

open Effect Prog Stock Relation

variable {K : Curve}

/-! ## Both ends -/

/-- The keys that a device has the private halves of. -/
structure KeyVault (K : Curve) where
  identityKeyPair : KeyPair K
  preKeys : UInt32 → Option (PreKeyRecord K)
  signedPreKeys : UInt32 → Option (SignedPreKeyRecord K)
  /-- One-time keys and last resort keys, which share their ids. -/
  kyberPreKeys : UInt32 → Option KyberPreKeyRecord
  lastResortKeys : List KyberPreKeyRecord

/-- The public halves that the server has to give out. -/
structure KeyShelf (K : Curve) where
  identityKey : K.PublicKey
  preKeys : List PreKeyEntity
  signedPreKey : Option SignedPreKeyEntity
  pqPreKeys : List KyberPreKeyEntity
  pqLastResortKey : Option KyberPreKeyEntity

/-- What somebody was given to start a session with. -/
structure GivenKeys (K : Curve) where
  identityKey : K.PublicKey
  preKey : Option PreKeyEntity
  signedPreKey : SignedPreKeyEntity
  kyberPreKey : KyberPreKeyEntity
  /-- Whether the Kyber key is a one-time key. -/
  oneTime : Bool

structure Published (K : Curve) where
  vault : KeyVault K
  shelf : KeyShelf K
  given : List (GivenKeys K)

namespace GivenKeys

def oneTimeKyber (keys : GivenKeys K) : Option KyberPreKeyEntity :=
  if keys.oneTime then some keys.kyberPreKey else none

def lastResort (keys : GivenKeys K) : Option KyberPreKeyEntity :=
  if keys.oneTime then none else some keys.kyberPreKey

end GivenKeys

/-- The server gives keys out: the signed one, one-time keys as it likes, and if need be the last
    resort key. -/
structure KeyShelf.Gives (shelf : KeyShelf K) (keys : GivenKeys K) (preKeys : List PreKeyEntity)
    (pqPreKeys : List KyberPreKeyEntity) : Prop where
  identityKey : keys.identityKey = shelf.identityKey
  signedPreKey : shelf.signedPreKey = some keys.signedPreKey
  preKeys : shelf.preKeys.Perm (keys.preKey.toList ++ preKeys)
  pqPreKeys : shelf.pqPreKeys.Perm (keys.oneTimeKyber.toList ++ pqPreKeys)
  lastResort : keys.lastResort.toList ⊆ shelf.pqLastResortKey.toList

/-- Once a session was started with them, one-time keys are deleted. -/
def KeyVault.spend (vault : KeyVault K) (keys : GivenKeys K) : KeyVault K :=
  { vault with
    preKeys := Stock.spend vault.preKeys (keys.preKey.map (·.keyId))
    kyberPreKeys := Stock.spend vault.kyberPreKeys (keys.oneTimeKyber.map (·.keyId)) }

/-- What may happen besides: the server gives keys out, and somebody starts a session. -/
inductive Published.Others : Published K → Published K → Prop where
  | give {s : Published K} {keys : GivenKeys K} {preKeys : List PreKeyEntity}
      {pqPreKeys : List KyberPreKeyEntity} : s.shelf.Gives keys preKeys pqPreKeys →
      Others s { s with
        shelf := { s.shelf with preKeys := preKeys, pqPreKeys := pqPreKeys }
        given := keys :: s.given }
  | use {s : Published K} {keys : GivenKeys K} {rest : List (GivenKeys K)} :
      s.given.Perm (keys :: rest) → Others s { s with vault := s.vault.spend keys, given := rest }

/-- An upload, which may drop one-time keys from before. -/
def KeyShelf.Uploaded (shelf : KeyShelf K) (state : PreKeyState K) (shelf' : KeyShelf K) : Prop :=
  ∃ preKeys pqPreKeys, preKeys.Sublist shelf.preKeys ∧ pqPreKeys.Sublist shelf.pqPreKeys ∧
    shelf' = {
      identityKey := state.identityKey
      preKeys := state.preKeys ++ preKeys
      signedPreKey := some state.signedPreKey
      pqPreKeys := state.pqPreKeys ++ pqPreKeys
      pqLastResortKey := state.pqLastResortKey.or shelf.pqLastResortKey }

/-! ## Calls -/

/-- What is known of keys made elsewhere. -/
structure KeyLibrary (K : Curve) where
  /-- A signature by the key of a message. -/
  Verifies : K.PublicKey → Bytes → Bytes → Prop
  /-- The two halves of a Kyber key. -/
  KyberPair : Bytes → Bytes → Prop

/-- The numbers after an offset that a batch and a last resort key take. -/
def NumbersAfter (offset : UInt32) (is : List Nat) : Set UInt32 :=
  { id | ∃ i ∈ is, id.toNat = preKeyNumber offset i }

/-- Nothing is kept under these. -/
def Unused {V : Type} (kept : UInt32 → Option V) (ids : Set UInt32) : Prop :=
  ∀ id ∈ ids, kept id = none

namespace KeyLibrary

variable (L : KeyLibrary K)

/-- How the store and the library may answer. An error may come before a key is saved or after it,
    and the next number is one from which on numbers are free. -/
def replenishing : Prog.World (PreKeyCall K) (PreKeyAnswer K) (Published K)
  | .nextPreKeyId, s, r, t => t = s ∧
      ∀ offset, r = .ok offset → Unused s.vault.preKeys (NumbersAfter offset (List.range 101))
  | .nextSignedPreKeyId, s, r, t => t = s ∧ ∀ id, r = .ok id → Unused s.vault.signedPreKeys {id}
  | .nextPqPreKeyId, s, r, t => t = s ∧
      ∀ offset, r = .ok offset → Unused s.vault.kyberPreKeys (NumbersAfter offset (List.range 101))
  | .generateKeyPair, s, _, t => t = s
  | .generateKyberKey signingKey, s, r, t => t = s ∧ ∀ key, r = .ok key →
      L.KyberPair key.publicKey key.secretKey ∧
        L.Verifies (K.publicKey signingKey) key.publicKey key.signature
  | .calculateSignature key message, s, r, t => t = s ∧ ∀ signature, r = .ok signature →
      L.Verifies (K.publicKey key) message signature
  | .now, s, _, t => t = s
  | .savePreKey id record, s, r, t =>
      (∃ e, r = .error e ∧ t = s) ∨
        t = { s with vault.preKeys := Function.update s.vault.preKeys id (some record) }
  | .saveKyberPreKey id record, s, r, t =>
      (∃ e, r = .error e ∧ t = s) ∨
        t = { s with vault.kyberPreKeys := Function.update s.vault.kyberPreKeys id (some record) }
  | .saveSignedPreKey id record, s, r, t =>
      (∃ e, r = .error e ∧ t = s) ∨
        t = { s with
          vault.signedPreKeys := Function.update s.vault.signedPreKeys id (some record) }
  | .storeLastResortKyberPreKey id record, s, r, t =>
      (∃ e, r = .error e ∧ t = s) ∨
        t = { s with
          vault.kyberPreKeys := Function.update s.vault.kyberPreKeys id (some record)
          vault.lastResortKeys := record :: s.vault.lastResortKeys }

/-- Uploads count for one of our identities, whose keys these are, and whatever the server says of
    one it may have been taken or not. What the store is asked for is among what it has. -/
def answers (kind : ServiceIdKind) : Prog.World (RefreshCall K) (RefreshAnswer K) (Published K)
  | .registerPreKeys kind' state, s, _, t => t = s ∨
      (kind' = kind ∧ ∃ shelf, s.shelf.Uploaded state shelf ∧ t = { s with shelf := shelf })
  | .getIdentityKeyPair, s, r, t => t = s ∧ ∀ pair, r = .ok pair → pair = s.vault.identityKeyPair
  | .loadLastResortKyberPreKeys, s, r, t =>
      t = s ∧ ∀ keys, r = .ok keys → keys ⊆ s.vault.lastResortKeys
  | .replenish c, s, r, t => L.replenishing c s r t
  | .getPreKeyStatus _, s, _, t | .checkPreKeys _ _, s, _, t | .signedPrekeyId, s, _, t
  | .lastResortKyberPrekeyId, s, _, t | .getSignedPreKey _, s, _, t | .getKyberPreKey _, s, _, t
  | .signedPreKeysCount, s, _, t | .kyberPreKeysCount _, s, _, t => t = s

/-- A refresh in which others act before each call, or what others do by themselves. -/
inductive Step (sha256 : Bytes → Bytes) (kind : ServiceIdKind) :
    Published K → Published K → Prop where
  | refresh {s t : Published K} {useLastResortKey : Bool} {x : Exit ServiceError Unit} :
      Happens ((L.answers kind).amid Published.Others)
        (AccountManager.updatePreKeyBundle sha256 kind useLastResortKey) s x t →
      Step sha256 kind s t
  | others {s t : Published K} : s.Others t → Step sha256 kind s t

end KeyLibrary

/-! ## Keys that open others -/

def PreKeyRecord.entity (record : PreKeyRecord K) : PreKeyEntity :=
  ⟨record.id, K.serializePublic record.keyPair.publicKey⟩

def KeyPair.Matches (pair : KeyPair K) : Prop := K.publicKey pair.privateKey = pair.publicKey

def PreKeyRecord.Opens (record : PreKeyRecord K) (key : PreKeyEntity) : Prop :=
  record.keyPair.Matches ∧ key = record.entity

/-- The record has the private half of the key, which the identity signed. -/
structure KeyLibrary.OpensSigned (L : KeyLibrary K) (identity : K.PublicKey)
    (record : SignedPreKeyRecord K) (key : SignedPreKeyEntity) : Prop where
  pair : record.keyPair.Matches
  signed : L.Verifies identity key.publicKey key.signature
  entity : key = record.entity

structure KeyLibrary.OpensKyber (L : KeyLibrary K) (identity : K.PublicKey)
    (record : KyberPreKeyRecord) (key : KyberPreKeyEntity) : Prop where
  pair : L.KyberPair record.key.publicKey record.key.secretKey
  signed : L.Verifies identity key.publicKey key.signature
  entity : key = record.entity

/-- With what the vault has under their ids, a session that was started with the keys can be
    answered. -/
structure KeyVault.Opens (L : KeyLibrary K) (vault : KeyVault K) (keys : GivenKeys K) : Prop where
  identityKey : keys.identityKey = vault.identityKeyPair.publicKey
  preKey : ∀ key ∈ keys.preKey, ∃ record, vault.preKeys key.keyId = some record ∧ record.Opens key
  signedPreKey : ∃ record, vault.signedPreKeys keys.signedPreKey.keyId = some record ∧
    L.OpensSigned vault.identityKeyPair.publicKey record keys.signedPreKey
  kyberPreKey : ∃ record, vault.kyberPreKeys keys.kyberPreKey.keyId = some record ∧
    L.OpensKyber vault.identityKeyPair.publicKey record keys.kyberPreKey

/-- Public halves that are out, or about to be. -/
structure OfferedKeys where
  preKeys : List PreKeyEntity
  signedPreKeys : List SignedPreKeyEntity
  pqPreKeys : List KyberPreKeyEntity
  lastResort : List KyberPreKeyEntity

namespace OfferedKeys

def none : OfferedKeys := ⟨[], [], [], []⟩

def append (out out' : OfferedKeys) : OfferedKeys :=
  ⟨out.preKeys ++ out'.preKeys, out.signedPreKeys ++ out'.signedPreKeys,
    out.pqPreKeys ++ out'.pqPreKeys, out.lastResort ++ out'.lastResort⟩

/-- One-time keys are counted, for the others it matters only which there are. -/
structure Within (out out' : OfferedKeys) : Prop where
  preKeys : out.preKeys.Subperm out'.preKeys
  signedPreKeys : out.signedPreKeys ⊆ out'.signedPreKeys
  pqPreKeys : out.pqPreKeys.Subperm out'.pqPreKeys
  lastResort : out.lastResort ⊆ out'.lastResort

end OfferedKeys

/-- All that is out at the server or with others. -/
def Published.offered (s : Published K) : OfferedKeys where
  preKeys := s.shelf.preKeys ++ s.given.flatMap (·.preKey.toList)
  signedPreKeys := s.shelf.signedPreKey.toList ++ s.given.map (·.signedPreKey)
  pqPreKeys := s.shelf.pqPreKeys ++ s.given.flatMap (·.oneTimeKyber.toList)
  lastResort := s.shelf.pqLastResortKey.toList ++ s.given.flatMap (·.lastResort.toList)

/-! ## The vault -/

/-- What is out can be answered, and one-time keys are out once. -/
structure KeyVault.Answers (L : KeyLibrary K) (vault : KeyVault K) (out : OfferedKeys) : Prop where
  preKeys : Backed PreKeyEntity.keyId PreKeyRecord.Opens vault.preKeys out.preKeys []
  signedPreKeys : Backed SignedPreKeyEntity.keyId
    (L.OpensSigned vault.identityKeyPair.publicKey) vault.signedPreKeys [] out.signedPreKeys
  kyberPreKeys : Backed KyberPreKeyEntity.keyId (L.OpensKyber vault.identityKeyPair.publicKey)
    vault.kyberPreKeys out.pqPreKeys (vault.lastResortKeys.map KyberPreKeyRecord.entity)
  lastResort : out.lastResort ⊆ vault.lastResortKeys.map KyberPreKeyRecord.entity

section Vault

variable {L : KeyLibrary K} {vault : KeyVault K} {out out' : OfferedKeys}

theorem KeyVault.Answers.fewer (answers : vault.Answers L out) (within : out'.Within out) :
    vault.Answers L out' where
  preKeys := answers.preKeys.fewer within.preKeys (List.Subset.refl _)
  signedPreKeys := answers.signedPreKeys.fewer (List.Subperm.refl _) within.signedPreKeys
  kyberPreKeys := answers.kyberPreKeys.fewer within.pqPreKeys (List.Subset.refl _)
  lastResort := List.Subset.trans within.lastResort answers.lastResort

theorem KeyVault.Answers.savePreKey (answers : vault.Answers L out) {record : PreKeyRecord K}
    (unused : vault.preKeys record.id = none) (pair : record.keyPair.Matches) :
    KeyVault.Answers L
      { vault with preKeys := Function.update vault.preKeys record.id (some record) }
      { out with preKeys := record.entity :: out.preKeys } where
  preKeys := answers.preKeys.offer (o := record.entity) unused ⟨pair, rfl⟩
  signedPreKeys := answers.signedPreKeys
  kyberPreKeys := answers.kyberPreKeys
  lastResort := answers.lastResort

theorem KeyVault.Answers.saveSignedPreKey (answers : vault.Answers L out)
    {record : SignedPreKeyRecord K} (unused : vault.signedPreKeys record.id = none)
    (opens : L.OpensSigned vault.identityKeyPair.publicKey record record.entity) :
    KeyVault.Answers L
      { vault with signedPreKeys := Function.update vault.signedPreKeys record.id (some record) }
      { out with signedPreKeys := record.entity :: out.signedPreKeys } where
  preKeys := answers.preKeys
  signedPreKeys := answers.signedPreKeys.offer_lasting (o := record.entity) unused opens
  kyberPreKeys := answers.kyberPreKeys
  lastResort := answers.lastResort

theorem KeyVault.Answers.saveKyberPreKey (answers : vault.Answers L out)
    {record : KyberPreKeyRecord} (unused : vault.kyberPreKeys record.id = none)
    (opens : L.OpensKyber vault.identityKeyPair.publicKey record record.entity) :
    KeyVault.Answers L
      { vault with kyberPreKeys := Function.update vault.kyberPreKeys record.id (some record) }
      { out with pqPreKeys := record.entity :: out.pqPreKeys } where
  preKeys := answers.preKeys
  signedPreKeys := answers.signedPreKeys
  kyberPreKeys := answers.kyberPreKeys.offer (o := record.entity) unused opens
  lastResort := answers.lastResort

theorem KeyVault.Answers.storeLastResort (answers : vault.Answers L out)
    {record : KyberPreKeyRecord} (unused : vault.kyberPreKeys record.id = none)
    (opens : L.OpensKyber vault.identityKeyPair.publicKey record record.entity) :
    KeyVault.Answers L
      { vault with
        kyberPreKeys := Function.update vault.kyberPreKeys record.id (some record)
        lastResortKeys := record :: vault.lastResortKeys }
      { out with lastResort := record.entity :: out.lastResort } where
  preKeys := answers.preKeys
  signedPreKeys := answers.signedPreKeys
  kyberPreKeys := answers.kyberPreKeys.offer_lasting (o := record.entity) unused opens
  lastResort := List.cons_subset_cons _ answers.lastResort

theorem KeyVault.Answers.spend {keys : GivenKeys K} (answers : vault.Answers L
      { out with
        preKeys := keys.preKey.toList ++ out.preKeys
        pqPreKeys := keys.oneTimeKyber.toList ++ out.pqPreKeys }) :
    (vault.spend keys).Answers L out where
  preKeys := answers.preKeys.spend
  signedPreKeys := answers.signedPreKeys
  kyberPreKeys := answers.kyberPreKeys.spend
  lastResort := answers.lastResort

theorem KeyVault.Answers.opens {s : Published K} (answers : s.vault.Answers L s.offered)
    {keys : GivenKeys K} (given : keys ∈ s.given)
    (identityKey : keys.identityKey = s.vault.identityKeyPair.publicKey) :
    s.vault.Opens L keys where
  identityKey := identityKey
  preKey key member := answers.preKeys.opened
    (List.mem_append_right _ (List.mem_flatMap.mpr ⟨keys, given, Option.mem_toList.mpr member⟩))
  signedPreKey := answers.signedPreKeys.lasts
    (List.mem_append_right _ (List.mem_map_of_mem given))
  kyberPreKey := by
    cases oneTime : keys.oneTime with
    | true =>
        refine answers.kyberPreKeys.opened (List.mem_append_right _ ?_)
        exact List.mem_flatMap.mpr ⟨keys, given, by simp [GivenKeys.oneTimeKyber, oneTime]⟩
    | false =>
        refine answers.kyberPreKeys.lasts (answers.lastResort (List.mem_append_right _ ?_))
        exact List.mem_flatMap.mpr ⟨keys, given, by simp [GivenKeys.lastResort, oneTime]⟩

end Vault

/-! ## What every call keeps -/

/-- All keys that are out, and those about to be uploaded, can be answered. -/
structure Published.Sound (L : KeyLibrary K) (pending : OfferedKeys) (s : Published K) : Prop where
  pair : s.vault.identityKeyPair.Matches
  shelf : s.shelf.identityKey = s.vault.identityKeyPair.publicKey
  given : ∀ keys ∈ s.given, keys.identityKey = s.vault.identityKeyPair.publicKey
  answers : s.vault.Answers L (pending.append s.offered)

/-- Ids that new keys may be saved under. -/
structure FreeIds where
  preKeys : Set UInt32
  signedPreKeys : Set UInt32
  kyberPreKeys : Set UInt32

/-- Keys are being made for an identity: some are pending, and the ids of the next are free. -/
structure Published.Making (L : KeyLibrary K) (pair : KeyPair K) (free : FreeIds)
    (pending : OfferedKeys) (s : Published K) : Prop where
  sound : s.Sound L pending
  pair : s.vault.identityKeyPair = pair
  preKeys : Unused s.vault.preKeys free.preKeys
  signedPreKeys : Unused s.vault.signedPreKeys free.signedPreKeys
  kyberPreKeys : Unused s.vault.kyberPreKeys free.kyberPreKeys

section Steps

variable {L : KeyLibrary K} {pair : KeyPair K} {free : FreeIds} {pending pending' : OfferedKeys}
  {s t : Published K}

open Published

theorem subset_behind {α : Type} {l l' : List α} (first : List α) (subset : l ⊆ l') :
    first ++ l ⊆ first ++ l' :=
  List.append_subset.mpr
    ⟨List.subset_append_left _ _, List.subset_append_of_subset_right _ subset⟩

theorem subset_before {α : Type} {l l' : List α} (last : List α) (subset : l ⊆ l') :
    l ++ last ⊆ l' ++ last :=
  List.append_subset.mpr
    ⟨List.subset_append_of_subset_left _ subset, List.subset_append_right _ _⟩

theorem OfferedKeys.append_within {out out' : OfferedKeys} (pending : OfferedKeys)
    (within : out.Within out') : (pending.append out).Within (pending.append out') where
  preKeys := (List.subperm_append_left _).mpr within.preKeys
  signedPreKeys := subset_behind _ within.signedPreKeys
  pqPreKeys := (List.subperm_append_left _).mpr within.pqPreKeys
  lastResort := subset_behind _ within.lastResort

theorem Unused.spend {V : Type} {kept : UInt32 → Option V} {ids : Set UInt32}
    (unused : Unused kept ids) (used : Option UInt32) : Unused (Stock.spend kept used) ids :=
  fun id member => spend_eq_none used (unused id member)

/-- What the server gives out was out before. -/
theorem offered_of_gives {keys : GivenKeys K} {preKeys : List PreKeyEntity}
    {pqPreKeys : List KyberPreKeyEntity} (gives : s.shelf.Gives keys preKeys pqPreKeys) :
    (offered { s with
      shelf := { s.shelf with preKeys := preKeys, pqPreKeys := pqPreKeys }
      given := keys :: s.given }).Within s.offered := by
  have swap {α : Type} {shelf key rest given : List α} (perm : shelf.Perm (key ++ rest)) :
      (rest ++ (key ++ given)).Perm (shelf ++ given) := by
    rw [← List.append_assoc]
    exact (List.perm_append_comm.trans perm.symm).append_right given
  refine ⟨?_, ?_, ?_, ?_⟩
  · exact (swap gives.preKeys).subperm
  · simp [offered, gives.signedPreKey]
  · exact (swap gives.pqPreKeys).subperm
  · simp only [offered, List.flatMap_cons]
    refine List.append_subset.mpr ⟨List.subset_append_left _ _, List.append_subset.mpr ⟨?_, ?_⟩⟩
    · exact List.Subset.trans gives.lastResort (List.subset_append_left _ _)
    · exact List.subset_append_right _ _

/-- What is used was out besides what is left. -/
theorem offered_of_use {keys : GivenKeys K} {rest : List (GivenKeys K)}
    (perm : s.given.Perm (keys :: rest)) :
    OfferedKeys.Within { offered { s with vault := s.vault.spend keys, given := rest } with
        preKeys := keys.preKey.toList ++ (s.shelf.preKeys ++ rest.flatMap (·.preKey.toList))
        pqPreKeys := keys.oneTimeKyber.toList ++
          (s.shelf.pqPreKeys ++ rest.flatMap (·.oneTimeKyber.toList)) } s.offered := by
  have swap {α : Type} (shelf : List α) (f : GivenKeys K → List α) :
      (f keys ++ (shelf ++ rest.flatMap f)).Perm (shelf ++ s.given.flatMap f) := by
    refine List.Perm.trans ?_ ((perm.flatMap_right f).symm.append_left shelf)
    rw [← List.append_assoc, List.flatMap_cons, ← List.append_assoc]
    exact List.perm_append_comm.append_right _
  have fewer : rest ⊆ s.given := List.Subset.trans (List.subset_cons_self _ _) perm.symm.subset
  refine ⟨(swap _ (·.preKey.toList)).subperm, ?_, (swap _ (·.oneTimeKyber.toList)).subperm, ?_⟩
  · exact subset_behind _ (List.map_subset _ fewer)
  · refine subset_behind _ fun key listed => ?_
    obtain ⟨keys, member, own⟩ := List.mem_flatMap.mp listed
    exact List.mem_flatMap.mpr ⟨keys, fewer member, own⟩

theorem Published.Making.others (making : s.Making L pair free pending) (step : s.Others t) :
    t.Making L pair free pending := by
  obtain ⟨⟨matching, shelf, given, answers⟩, same, preKeys, signedPreKeys, kyberPreKeys⟩ := making
  cases step with
  | give gives =>
      have within := OfferedKeys.append_within pending (offered_of_gives gives)
      refine ⟨⟨matching, shelf, ?_, answers.fewer within⟩, same, preKeys, signedPreKeys,
        kyberPreKeys⟩
      exact List.forall_mem_cons.mpr ⟨gives.identityKey.trans shelf, given⟩
  | use perm =>
      refine ⟨⟨matching, shelf, fun keys member => ?_, ?_⟩, same, preKeys.spend _, signedPreKeys,
        kyberPreKeys.spend _⟩
      · exact given keys (perm.symm.subset (List.mem_cons_of_mem _ member))
      · refine KeyVault.Answers.spend (answers.fewer ?_)
        have within := OfferedKeys.append_within pending (offered_of_use perm)
        refine ⟨List.Subperm.trans ?_ within.preKeys, within.signedPreKeys,
          List.Subperm.trans ?_ within.pqPreKeys, within.lastResort⟩
        · exact List.perm_append_comm_assoc .. |>.subperm
        · exact List.perm_append_comm_assoc .. |>.subperm

theorem Published.Making.others_many (making : s.Making L pair free pending)
    (steps : ReflTransGen Published.Others s t) : t.Making L pair free pending := by
  induction steps with
  | refl => exact making
  | tail _ step ih => exact ih.others step

theorem Published.Making.amid {C : Type} {R : C → Type} {W : Prog.World C R (Published K)} {c : C}
    {r : R c} (making : s.Making L pair free pending) (answer : W.amid Published.Others c s r t) :
    ∃ m : Published K, m.Making L pair free pending ∧ W c m r t := by
  obtain ⟨m, steps, answer⟩ := answer
  exact ⟨m, making.others_many steps, answer⟩

theorem Published.Making.fewer (making : s.Making L pair free pending)
    (within : pending'.Within pending) : s.Making L pair free pending' := by
  obtain ⟨⟨matching, shelf, given, answers⟩, same, preKeys, signedPreKeys, kyberPreKeys⟩ := making
  refine ⟨⟨matching, shelf, given, answers.fewer ⟨?_, ?_, ?_, ?_⟩⟩, same, preKeys, signedPreKeys,
    kyberPreKeys⟩
  · exact (List.subperm_append_right _).mpr within.preKeys
  · exact subset_before _ within.signedPreKeys
  · exact (List.subperm_append_right _).mpr within.pqPreKeys
  · exact subset_before _ within.lastResort

/-- Keys that were made and never uploaded are no harm. -/
theorem Published.Making.given_up (making : s.Making L pair free pending) : s.Sound L .none :=
  (making.fewer ⟨List.nil_subperm, List.nil_subset _, List.nil_subperm, List.nil_subset _⟩).sound

theorem Unused.mono {V : Type} {kept : UInt32 → Option V} {ids ids' : Set UInt32}
    (unused : Unused kept ids) (subset : ids' ⊆ ids) : Unused kept ids' :=
  fun id member => unused id (subset member)

theorem Unused.update {V : Type} {kept : UInt32 → Option V} {ids : Set UInt32}
    (unused : Unused kept ids) (id : UInt32) (v : V) :
    Unused (Function.update kept id (some v)) (ids \ {id}) := by
  rintro other ⟨member, ne⟩
  rw [Function.update_of_ne ne]
  exact unused other member

theorem Published.Making.savePreKey (making : s.Making L pair free pending)
    (record : PreKeyRecord K) (unused : record.id ∈ free.preKeys)
    (matching : record.keyPair.Matches) :
    Published.Making L pair { free with preKeys := free.preKeys \ {record.id} }
      { pending with preKeys := record.entity :: pending.preKeys }
      { s with vault.preKeys := Function.update s.vault.preKeys record.id (some record) } where
  sound := ⟨making.sound.pair, making.sound.shelf, making.sound.given,
    making.sound.answers.savePreKey (making.preKeys _ unused) matching⟩
  pair := making.pair
  preKeys := making.preKeys.update record.id record
  signedPreKeys := making.signedPreKeys
  kyberPreKeys := making.kyberPreKeys

theorem Published.Making.saveSignedPreKey (making : s.Making L pair free pending)
    (record : SignedPreKeyRecord K) (unused : record.id ∈ free.signedPreKeys)
    (opens : L.OpensSigned pair.publicKey record record.entity) :
    Published.Making L pair { free with signedPreKeys := free.signedPreKeys \ {record.id} }
      { pending with signedPreKeys := record.entity :: pending.signedPreKeys }
      { s with
        vault.signedPreKeys :=
          Function.update s.vault.signedPreKeys record.id (some record) } where
  sound := ⟨making.sound.pair, making.sound.shelf, making.sound.given,
    making.sound.answers.saveSignedPreKey (making.signedPreKeys _ unused) (making.pair ▸ opens)⟩
  pair := making.pair
  preKeys := making.preKeys
  signedPreKeys := making.signedPreKeys.update record.id record
  kyberPreKeys := making.kyberPreKeys

theorem Published.Making.saveKyberPreKey (making : s.Making L pair free pending)
    (record : KyberPreKeyRecord) (unused : record.id ∈ free.kyberPreKeys)
    (opens : L.OpensKyber pair.publicKey record record.entity) :
    Published.Making L pair { free with kyberPreKeys := free.kyberPreKeys \ {record.id} }
      { pending with pqPreKeys := record.entity :: pending.pqPreKeys }
      { s with
        vault.kyberPreKeys := Function.update s.vault.kyberPreKeys record.id (some record) } where
  sound := ⟨making.sound.pair, making.sound.shelf, making.sound.given,
    making.sound.answers.saveKyberPreKey (making.kyberPreKeys _ unused) (making.pair ▸ opens)⟩
  pair := making.pair
  preKeys := making.preKeys
  signedPreKeys := making.signedPreKeys
  kyberPreKeys := making.kyberPreKeys.update record.id record

theorem Published.Making.storeLastResort (making : s.Making L pair free pending)
    (record : KyberPreKeyRecord) (unused : record.id ∈ free.kyberPreKeys)
    (opens : L.OpensKyber pair.publicKey record record.entity) :
    Published.Making L pair { free with kyberPreKeys := free.kyberPreKeys \ {record.id} }
      { pending with lastResort := record.entity :: pending.lastResort }
      { s with
        vault.kyberPreKeys := Function.update s.vault.kyberPreKeys record.id (some record)
        vault.lastResortKeys := record :: s.vault.lastResortKeys } where
  sound := ⟨making.sound.pair, making.sound.shelf, making.sound.given,
    making.sound.answers.storeLastResort (making.kyberPreKeys _ unused) (making.pair ▸ opens)⟩
  pair := making.pair
  preKeys := making.preKeys
  signedPreKeys := making.signedPreKeys
  kyberPreKeys := making.kyberPreKeys.update record.id record

end Steps

end SignalService

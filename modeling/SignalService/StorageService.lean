import SignalService.Groups.Operations

/-! # The storage service

`storage_service.rs`: the manifest and the records of an account, each of them sealed under a
key of its own before it is written. What a write puts on the server can be read back with
the storage key and with what the manifest itself says.
-/

namespace SignalService

open Effect Prog
open Groups (utf8Bytes)

/-- A key of AES-256. -/
abbrev AesKey := Vector UInt8 32

/-- An initialization vector of GCM. -/
abbrev GcmIv := Vector UInt8 12

structure StorageServiceKey where
  inner : Vector UInt8 32

/-! ## Protobufs -/

/-- `manifest_record::Identifier`. -/
structure Identifier where
  raw : Bytes
  type : Int32
  deriving DecidableEq

structure ManifestRecord where
  version : UInt64
  sourceDevice : UInt32
  identifiers : List Identifier
  recordIkm : Bytes
  deriving DecidableEq

structure StorageManifest where
  version : UInt64
  value : Bytes
  deriving DecidableEq

structure StorageItem where
  key : Bytes
  value : Bytes
  deriving DecidableEq

structure WriteOperation where
  manifest : Option StorageManifest
  insertItem : List StorageItem
  deleteKey : List Bytes
  clearAll : Bool
  deriving DecidableEq

/-- A decrypted item. The plaintext is kept because decoding drops what it does not know. -/
structure DecryptedItem (StorageRecord : Type) where
  key : Bytes
  plaintext : Bytes
  record : StorageRecord
  deriving DecidableEq

inductive StorageServiceError where
  | invalid
  | conflict
  | service (error : ServiceError)

/-- The ciphers and the protobuf library. `encrypt_inout_detached` leaves the ciphertext in
    the buffer and returns the tag, `decrypt` takes both together. -/
structure StorageExternals (StorageRecord : Type) where
  hmacSha256 : (key message : Bytes) → AesKey
  hkdfSha256 : (ikm info : Bytes) → AesKey
  encryptInoutDetached : AesKey → GcmIv → (buffer : Bytes) → Bytes × Vector UInt8 16
  decrypt : AesKey → GcmIv → (ciphertext : Bytes) → Option Bytes
  base64 : Bytes → String
  encodeManifestRecord : ManifestRecord → Bytes
  decodeManifestRecord : Bytes → Option ManifestRecord
  decodeStorageRecord : Bytes → Option StorageRecord

/-- What AES-GCM is relied on for: `decrypt` undoes `encrypt` under the same key and IV. -/
def StorageExternals.Decrypts {StorageRecord : Type} (S : StorageExternals StorageRecord) : Prop :=
  ∀ key iv plaintext, S.decrypt key iv ((S.encryptInoutDetached key iv plaintext).1 ++
    (S.encryptInoutDetached key iv plaintext).2.toList) = some plaintext

/-- What the protobuf library is relied on for: it reads back the record it wrote. -/
def StorageExternals.RoundTrips {StorageRecord : Type} (S : StorageExternals StorageRecord)
    (record : ManifestRecord) : Prop :=
  S.decodeManifestRecord (S.encodeManifestRecord record) = some record

/-! ## Randomness -/

/-- `OsRng::try_fill_bytes`, where the system has randomness. -/
inductive Draw where
  | fillBytes (length : Nat)

@[reducible] def Drawn : Draw → Type
  | .fillBytes length => Vector UInt8 length

abbrev Drawing (α : Type) := Prog Draw Drawn Empty α

namespace StorageService

variable {StorageRecord : Type} (S : StorageExternals StorageRecord)

/-! ## Blobs -/

/-- `iv || ciphertext || tag`, under a fresh IV. -/
def encrypt (key : AesKey) (plaintext : Bytes) : Drawing Bytes :=
  .call (.fillBytes 12) fun iv =>
    let (ciphertext, tag) := S.encryptInoutDetached key iv plaintext
    pure (iv.toList ++ ciphertext ++ tag.toList)

theorem size_take {n : Nat} {blob : Bytes} (long : n ≤ blob.length) :
    (blob.take n).toArray.size = n := by
  simp [long]

/-- `split_first_chunk`. -/
def splitFirstChunk (n : Nat) (blob : Bytes) : Option (Vector UInt8 n × Bytes) :=
  if long : n ≤ blob.length then some (⟨(blob.take n).toArray, size_take long⟩, blob.drop n)
  else none

def decrypt (key : AesKey) (blob : Bytes) : Except StorageServiceError Bytes :=
  match splitFirstChunk 12 blob with
  | none => .error .invalid
  | some (iv, ciphertext) =>
      match S.decrypt key iv ciphertext with
      | none => .error .invalid
      | some plaintext => .ok plaintext

/-! ## Keys -/

def manifestKey (storageKey : StorageServiceKey) (version : UInt64) : AesKey :=
  S.hmacSha256 storageKey.inner.toList
    (utf8Bytes "Manifest_" ++ utf8Bytes (toString version.toNat))

def itemKeyInfo : Bytes := utf8Bytes "20240801_SIGNAL_STORAGE_SERVICE_ITEM_"

def legacyItemKey (storageKey : StorageServiceKey) (rawId : Bytes) : AesKey :=
  S.hmacSha256 storageKey.inner.toList (utf8Bytes "Item_" ++ utf8Bytes (S.base64 rawId))

/-- Where the manifest has an ikm, the storage key has no part in the keys of its items. -/
def itemKey (storageKey : StorageServiceKey) (rawId : Bytes) : (recordIkm : Option Bytes) → AesKey
  | some ikm =>
      if ikm.isEmpty then legacyItemKey S storageKey rawId
      else S.hkdfSha256 ikm (itemKeyInfo ++ rawId)
  | none => legacyItemKey S storageKey rawId

/-! ## The manifest and the items -/

def encryptManifest (storageKey : StorageServiceKey) (record : ManifestRecord) :
    Drawing StorageManifest := do
  let value ← encrypt S (manifestKey S storageKey record.version) (S.encodeManifestRecord record)
  return ⟨record.version, value⟩

def decryptManifest (storageKey : StorageServiceKey) (manifest : StorageManifest) :
    Except StorageServiceError ManifestRecord := do
  let plaintext ← decrypt S (manifestKey S storageKey manifest.version) manifest.value
  match S.decodeManifestRecord plaintext with
  | none => throw .invalid
  | some record => return record

def encryptItem (storageKey : StorageServiceKey) (rawId record : Bytes)
    (recordIkm : Option Bytes) : Drawing StorageItem := do
  let value ← encrypt S (itemKey S storageKey rawId recordIkm) record
  return ⟨rawId, value⟩

def decryptItem (storageKey : StorageServiceKey) (item : StorageItem)
    (recordIkm : Option Bytes) : Except StorageServiceError (DecryptedItem StorageRecord) := do
  let plaintext ← decrypt S (itemKey S storageKey item.key recordIkm) item.value
  match S.decodeStorageRecord plaintext with
  | none => throw .invalid
  | some record => return ⟨item.key, plaintext, record⟩

def encryptItems (storageKey : StorageServiceKey) (recordIkm : Option Bytes) :
    List (Bytes × Bytes) → Drawing (List StorageItem)
  | [] => pure []
  | (rawId, record) :: records => do
      let item ← encryptItem S storageKey rawId record recordIkm
      let items ← encryptItems storageKey recordIkm records
      return item :: items

/-- An empty ikm means the keys of before there was one. -/
def recordIkmOf (manifest : ManifestRecord) : Option Bytes :=
  (some manifest.recordIkm).filter fun ikm => !ikm.isEmpty

def writeOperation (storageKey : StorageServiceKey) (manifest : ManifestRecord)
    (insertRecords : List (Bytes × Bytes)) (deleteKeys : List Bytes) : Drawing WriteOperation := do
  let insertItem ← encryptItems S storageKey (recordIkmOf manifest) insertRecords
  let sealed ← encryptManifest S storageKey manifest
  return ⟨some sealed, insertItem, deleteKeys, false⟩

/-! ## Reading back -/

section RoundTrip

variable {S} {storageKey : StorageServiceKey}

theorem splitFirstChunk_append {n : Nat} (chunk : Vector UInt8 n) (rest : Bytes) :
    splitFirstChunk n (chunk.toList ++ rest) = some (chunk, rest) := by
  have length : chunk.toList.length = n := Vector.length_toList
  have long : n ≤ (chunk.toList ++ rest).length := by
    rw [List.length_append, length]
    exact Nat.le_add_right _ _
  have front : (chunk.toList ++ rest).take n = chunk.toList := List.take_left' length
  unfold splitFirstChunk
  rw [dif_pos long, List.drop_left' length]
  congr 2
  apply Vector.toList_inj.mp
  exact front

/-- A drawing of one blob: its IV, and the blob that it gives. -/
theorem encrypt_trace {key : AesKey} {plaintext : Bytes} {draws : List (Event Draw Drawn)}
    {x : Exit Empty Bytes} (trace : Trace (encrypt S key plaintext) draws x)
    (decrypts : S.Decrypts) : ∃ blob, x = .ret blob ∧ decrypt S key blob = .ok plaintext := by
  obtain ⟨iv, rest, rfl, last⟩ := trace_call.mp trace
  obtain ⟨-, rfl⟩ := trace_done.mp last
  refine ⟨_, rfl, ?_⟩
  unfold decrypt
  rw [List.append_assoc, splitFirstChunk_append]
  simp only [decrypts key iv plaintext]

theorem encryptManifest_trace {record : ManifestRecord} {draws : List (Event Draw Drawn)}
    {x : Exit Empty StorageManifest} (trace : Trace (encryptManifest S storageKey record) draws x)
    (decrypts : S.Decrypts) (roundTrips : S.RoundTrips record) :
    ∃ manifest, x = .ret manifest ∧ decryptManifest S storageKey manifest = .ok record := by
  obtain ⟨blob, es₁, es₂, -, opened, last⟩ :=
    trace_bind_returned (fun _ _ made => encrypt_trace made decrypts) trace
  obtain ⟨-, rfl⟩ := trace_done.mp last
  refine ⟨_, rfl, ?_⟩
  unfold decryptManifest
  rw [opened]
  simp only [Bind.bind, Except.bind]
  rw [roundTrips]
  rfl

/-- The ikm that an item was sealed under and the one it is opened with may be written
    differently, as long as they derive the same keys. -/
theorem itemKey_recordIkmOf {manifest : ManifestRecord} {recordIkm : Option Bytes}
    (read : recordIkm = some manifest.recordIkm ∨
      (manifest.recordIkm = [] ∧ recordIkm = none)) (rawId : Bytes) :
    itemKey S storageKey rawId (recordIkmOf manifest) =
      itemKey S storageKey rawId recordIkm := by
  unfold recordIkmOf
  rcases read with rfl | ⟨empty, rfl⟩
  · cases ikm : manifest.recordIkm with
    | nil => rfl
    | cons byte bytes => rfl
  · rw [empty]
    rfl

/-- What an item of a write is read back as. -/
def ReadsBack (S : StorageExternals StorageRecord) (storageKey : StorageServiceKey)
    (recordIkm : Option Bytes) (record : Bytes × Bytes) (item : StorageItem) : Prop :=
  ∃ decoded, S.decodeStorageRecord record.2 = some decoded ∧
    decryptItem S storageKey item recordIkm = .ok ⟨record.1, record.2, decoded⟩

theorem encryptItem_trace {rawId record : Bytes} {sealIkm recordIkm : Option Bytes}
    {draws : List (Event Draw Drawn)} {x : Exit Empty StorageItem}
    (trace : Trace (encryptItem S storageKey rawId record sealIkm) draws x) (decrypts : S.Decrypts)
    (decodes : (S.decodeStorageRecord record).isSome = true)
    (same : itemKey S storageKey rawId sealIkm = itemKey S storageKey rawId recordIkm) :
    ∃ item, x = .ret item ∧ ReadsBack S storageKey recordIkm (rawId, record) item := by
  obtain ⟨blob, es₁, es₂, -, opened, last⟩ :=
    trace_bind_returned (fun _ _ made => encrypt_trace made decrypts) trace
  obtain ⟨-, rfl⟩ := trace_done.mp last
  obtain ⟨decoded, found⟩ := Option.isSome_iff_exists.mp decodes
  refine ⟨_, rfl, decoded, found, ?_⟩
  unfold decryptItem
  rw [← same, opened]
  simp only [Bind.bind, Except.bind, found]
  rfl

theorem encryptItems_trace {records : List (Bytes × Bytes)} {sealIkm recordIkm : Option Bytes}
    {draws : List (Event Draw Drawn)} {x : Exit Empty (List StorageItem)}
    (trace : Trace (encryptItems S storageKey sealIkm records) draws x) (decrypts : S.Decrypts)
    (decode : ∀ record ∈ records, (S.decodeStorageRecord record.2).isSome = true)
    (same : ∀ rawId, itemKey S storageKey rawId sealIkm = itemKey S storageKey rawId recordIkm) :
    ∃ items, x = .ret items ∧
      List.Forall₂ (ReadsBack S storageKey recordIkm) records items := by
  induction records generalizing draws x with
  | nil =>
      obtain ⟨-, rfl⟩ := trace_done.mp trace
      exact ⟨[], rfl, .nil⟩
  | cons record records ih =>
      have decodes := decode record List.mem_cons_self
      have others := fun record' member => decode record' (List.mem_cons_of_mem record member)
      obtain ⟨item, es₁, es₂, -, first, rest⟩ := trace_bind_returned
        (fun _ _ made => encryptItem_trace made decrypts decodes (same record.1)) trace
      obtain ⟨items, es₃, es₄, -, back, last⟩ :=
        trace_bind_returned (fun _ _ more => ih more others) rest
      obtain ⟨-, rfl⟩ := trace_done.mp last
      exact ⟨_, rfl, .cons first back⟩

/-- Whatever IVs are drawn, a write operation is built. Its manifest is read back as the
    record it was made of, and its items, under the ikm of that manifest, as the ids and the
    bytes they were made of. -/
theorem writeOperation_reads_back {manifest : ManifestRecord}
    {insertRecords : List (Bytes × Bytes)} {deleteKeys : List Bytes}
    {draws : List (Event Draw Drawn)} {x : Exit Empty WriteOperation}
    (trace : Trace (writeOperation S storageKey manifest insertRecords deleteKeys) draws x)
    (decrypts : S.Decrypts) (roundTrips : S.RoundTrips manifest)
    (decode : ∀ record ∈ insertRecords, (S.decodeStorageRecord record.2).isSome = true) :
    ∃ operation sealed read, x = .ret operation ∧ operation.manifest = some sealed ∧
      decryptManifest S storageKey sealed = .ok read ∧ read = manifest ∧
      (∀ recordIkm,
        recordIkm = some read.recordIkm ∨ (read.recordIkm = [] ∧ recordIkm = none) →
        List.Forall₂ (ReadsBack S storageKey recordIkm) insertRecords operation.insertItem) ∧
      operation.deleteKey = deleteKeys ∧ operation.clearAll = false := by
  have items (draws : List (Event Draw Drawn)) (x : Exit Empty (List StorageItem))
      (made : Trace (encryptItems S storageKey (recordIkmOf manifest) insertRecords) draws x) :
      ∃ inserted, x = .ret inserted ∧ ∀ recordIkm,
        recordIkm = some manifest.recordIkm ∨ (manifest.recordIkm = [] ∧ recordIkm = none) →
        List.Forall₂ (ReadsBack S storageKey recordIkm) insertRecords inserted := by
    obtain ⟨inserted, rfl, -⟩ :=
      encryptItems_trace made decrypts decode (itemKey_recordIkmOf (.inl rfl))
    refine ⟨inserted, rfl, ?_⟩
    intro recordIkm read
    obtain ⟨_, ended, back⟩ := encryptItems_trace made decrypts decode (itemKey_recordIkmOf read)
    cases ended
    exact back
  obtain ⟨inserted, es₁, es₂, -, back, rest⟩ := trace_bind_returned items trace
  obtain ⟨sealed, es₃, es₄, -, opened, last⟩ := trace_bind_returned
    (fun _ _ closed => encryptManifest_trace closed decrypts roundTrips) rest
  obtain ⟨-, rfl⟩ := trace_done.mp last
  exact ⟨_, _, manifest, rfl, rfl, opened, rfl, back, rfl, rfl⟩

end RoundTrip

namespace Sample

/-- A stand-in for the ciphers that keeps their shapes: a key stream of one byte, and the
    first bytes of the key for a tag. -/
def keyByte (key : AesKey) : UInt8 := key.toList.headD 0

def tagOf (key : AesKey) : Vector UInt8 16 := (key.take 16).cast rfl

def sealedManifest : ManifestRecord := ⟨1, 1, [], []⟩

/-- Records without a field that is set are written in no bytes. -/
def externals : StorageExternals Unit where
  hmacSha256 key message := Vector.replicate 32 (UInt8.ofNat (key.length + message.length))
  hkdfSha256 ikm info := Vector.replicate 32 (UInt8.ofNat (ikm.length + info.length))
  encryptInoutDetached key _ buffer := (buffer.map (· ^^^ keyByte key), tagOf key)
  decrypt key _ ciphertext :=
    let buffer := ciphertext.take (ciphertext.length - 16)
    if ciphertext.drop (ciphertext.length - 16) = (tagOf key).toList then
      some (buffer.map (· ^^^ keyByte key))
    else none
  base64 _ := ""
  encodeManifestRecord record := if record = sealedManifest then [0x08, 1, 0x18, 1] else []
  decodeManifestRecord bytes := if bytes = [0x08, 1, 0x18, 1] then some sealedManifest else none
  decodeStorageRecord bytes := if bytes = [] then some () else none

theorem externals_decrypts : externals.Decrypts := by
  intro key iv plaintext
  have length : (plaintext.map (· ^^^ keyByte key) ++ (tagOf key).toList).length - 16 =
      (plaintext.map (· ^^^ keyByte key)).length := by
    simp
  have twice : ((· ^^^ keyByte key) ∘ (· ^^^ keyByte key) : UInt8 → UInt8) = id := by
    funext byte
    rw [Function.comp_apply, UInt8.xor_assoc, UInt8.xor_self, UInt8.xor_zero, id]
  simp only [externals, length, List.take_left, List.drop_left, if_true, List.map_map, twice,
    List.map_id]

/-- A source of randomness that is always the same. -/
def threes : (c : Draw) → Unit → Drawn c × Unit
  | .fillBytes length, _ => (Vector.replicate length 3, ())

end Sample

open StorageService.Sample in
/-- One record is written under a manifest without an ikm. -/
theorem written_record_reads_back :
    externals.Decrypts ∧ externals.RoundTrips sealedManifest ∧
      ∃ operation sealed, ((writeOperation externals ⟨Vector.replicate 32 7⟩ sealedManifest
          [([0xAB], [])] [[0xCD]]).run threes ()).exit = .ret operation ∧
        operation.manifest = some sealed ∧
        decryptManifest externals ⟨Vector.replicate 32 7⟩ sealed = .ok sealedManifest ∧
        List.Forall₂ (ReadsBack externals ⟨Vector.replicate 32 7⟩ none) [([0xAB], [])]
          operation.insertItem ∧
        operation.deleteKey = [[0xCD]] ∧ operation.clearAll = false := by
  refine ⟨externals_decrypts, rfl, ?_⟩
  obtain ⟨operation, sealed, read, ended, manifest, opened, rfl, items, deleted, kept⟩ :=
    writeOperation_reads_back (run_trace threes (writeOperation externals ⟨Vector.replicate 32 7⟩
      sealedManifest [([0xAB], [])] [[0xCD]]) ()) externals_decrypts rfl (by simp [externals])
  exact ⟨operation, sealed, ended, manifest, opened, items none (.inr ⟨rfl, rfl⟩), deleted, kept⟩

end StorageService

end SignalService

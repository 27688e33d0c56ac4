import SignalService.StorageService.Client

/-! # The account behind the storage service

What the storage service is for: one manifest, and a plaintext under each identifier. The server
has both only sealed, and says whether it carried a request out only if its answer arrives. What
a handle does to the one is what it is said to do to the other.
-/

namespace SignalService

open Effect Prog

variable {U : UrlSyntax} {StorageRecord : Type}

/-! ## The server -/

/-- What the server has of an account. -/
structure StoredAccount where
  manifest : StorageManifest
  items : Bytes → Option Bytes

namespace StoredAccount

def Follows (stored : StoredAccount) (manifest : StorageManifest) : Prop :=
  manifest.version.toNat = stored.manifest.version.toNat + 1

/-- A write operation with its one manifest, carried out. -/
structure Wrote (operation : WriteOperation) (stored stored' : StoredAccount) : Prop where
  manifest : operation.manifest = some stored'.manifest
  follows : stored.Follows stored'.manifest
  inserted : ∀ item ∈ operation.insertItem, stored'.items item.key = some item.value
  deleted : ∀ id ∈ operation.deleteKey, (∀ item ∈ operation.insertItem, item.key ≠ id) →
    stored'.items id = none
  kept : ∀ id, id ∉ operation.deleteKey → (∀ item ∈ operation.insertItem, item.key ≠ id) →
    stored'.items id = stored.items id

/-- A request, carried out. -/
def Carried : StorageRequest → StoredAccount → StoredAccount → Prop
  | .write operation, stored, stored' => Wrote operation stored stored'
  | _, stored, stored' => stored' = stored

end StoredAccount

/-- Only writes change anything. -/
def StorageRequest.Reads : StorageRequest → Prop
  | .write _ => False
  | _ => True

theorem StorageRequest.Reads.carried {request : StorageRequest} {stored stored' : StoredAccount}
    (reads : request.Reads) (carried : stored.Carried request stored') : stored' = stored := by
  cases request with
  | write operation => exact reads.elim
  | manifest => exact carried
  | manifestIfChanged version => exact carried
  | read keys => exact carried

/-- No answer, or one that is neither a success nor a conflict. -/
def Inconclusive : Except ServiceError HttpResponse → Prop
  | .error _ => True
  | .ok response => response.status ∉ [200, 201, 202, 204, 409]

/-- How the server may answer a request, and what becomes of what it has. -/
inductive Handled (W : StorageWire U) :
    StorageRequest → StoredAccount → Except ServiceError HttpResponse → StoredAccount → Prop where
  /-- Whether the request was carried out remains open. -/
  | failed {request : StorageRequest} {answer : Except ServiceError HttpResponse}
      {stored stored' : StoredAccount} : Inconclusive answer →
      stored' = stored ∨ stored.Carried request stored' →
      Handled W request stored answer stored'
  | manifest {response : HttpResponse} {stored : StoredAccount} : response.status = 200 →
      response.protobuf W.decodeStorageManifest = .ok stored.manifest →
      Handled W .manifest stored (.ok response) stored
  | unchanged {response : HttpResponse} {stored : StoredAccount} : response.status = 204 →
      Handled W (.manifestIfChanged stored.manifest.version) stored (.ok response) stored
  | changed {version : UInt64} {response : HttpResponse} {stored : StoredAccount} :
      version ≠ stored.manifest.version → response.status = 200 →
      response.protobuf W.decodeStorageManifest = .ok stored.manifest →
      Handled W (.manifestIfChanged version) stored (.ok response) stored
  /-- Items come in any order. -/
  | read {keys : List Bytes} {items : List StorageItem} {response : HttpResponse}
      {stored : StoredAccount} : response.status = 200 →
      response.protobuf W.decodeStorageItems = .ok items →
      (∀ item, item ∈ items ↔ item.key ∈ keys ∧ stored.items item.key = some item.value) →
      Handled W (.read keys) stored (.ok response) stored
  | written {operation : WriteOperation} {response : HttpResponse} {stored stored' : StoredAccount} :
      response.status = 200 → stored.Carried (.write operation) stored' →
      Handled W (.write operation) stored (.ok response) stored'
  | conflict {operation : WriteOperation} {response : HttpResponse} {stored : StoredAccount} :
      response.status = 409 →
      (∀ manifest, operation.manifest = some manifest → ¬ stored.Follows manifest) →
      Handled W (.write operation) stored (.ok response) stored

abbrev StorageServer (U : UrlSyntax) :=
  HttpRequest U → StoredAccount → Except ServiceError HttpResponse → StoredAccount → Prop

/-- The world of a handle: the server, and randomness. -/
def StorageServer.world (server : StorageServer U) : Prog.World (HttpCall U) HttpAnswer StoredAccount
  | .send request, stored, answer, stored' => server request stored answer stored'
  | .fillBytes _, stored, _, stored' => stored' = stored
  | .now, stored, _, stored' => stored' = stored

/-- The server reads the handle's requests as what they were made of, and handles them. -/
def StorageServer.Serves (server : StorageServer U) (W : StorageWire U)
    (handle : StorageService U) : Prop :=
  ∀ request http stored answer stored', handle.builder W request = .ok (some http) →
    server http stored answer stored' → Handled W request stored answer stored'

/-! ## The account -/

structure Account where
  manifest : ManifestRecord
  records : Bytes → Option Bytes

namespace Account

def write (account : Account) (manifest : ManifestRecord) (insertRecords : List (Bytes × Bytes))
    (deleteKeys : List Bytes) : Account where
  manifest
  records := fun id =>
    match insertRecords.lookup id with
    | some record => some record
    | none => if id ∈ deleteKeys then none else account.records id

/-- What a handle is asked for. -/
inductive Ask where
  | manifest
  | manifestIfChanged (version : UInt64)
  | readItems (keys : List Bytes) (recordIkm : Option Bytes)
  | writeItems (manifest : ManifestRecord) (insertRecords : List (Bytes × Bytes))
      (deleteKeys : List Bytes)
  deriving DecidableEq

/-- What it gives. -/
inductive Reply (StorageRecord : Type) where
  | manifest (record : ManifestRecord)
  | unchanged
  | items (items : List (DecryptedItem StorageRecord))
  | written

/-- An end that says neither what was asked for nor that there was a conflict. -/
def Unanswered {α : Type} : Exit StorageServiceError α → Prop
  | .ret _ => False
  | .throw .conflict => False
  | _ => True

theorem Unanswered.bind {α β : Type} {x : Exit StorageServiceError α} (unanswered : Unanswered x)
    (f : α → Exit StorageServiceError β) : Unanswered (x.bind f) := by
  cases x with
  | ret a => exact unanswered.elim
  | throw e => cases e <;> exact unanswered
  | panic m => trivial

variable (S : StorageExternals StorageRecord)

/-- What the account does when it is asked, or does not do because the request failed. -/
inductive Does : Account → Ask → Exit StorageServiceError (Reply StorageRecord) → Account → Prop
  where
  | failed {account : Account} {ask : Ask}
      {x : Exit StorageServiceError (Reply StorageRecord)} :
      Unanswered x → Does account ask x account
  | manifest (account : Account) : Does account .manifest (.ret (.manifest account.manifest)) account
  | unchanged (account : Account) :
      Does account (.manifestIfChanged account.manifest.version) (.ret .unchanged) account
  | changed {account : Account} {version : UInt64} : version ≠ account.manifest.version →
      Does account (.manifestIfChanged version) (.ret (.manifest account.manifest)) account
  | items {account : Account} {keys : List Bytes} {recordIkm : Option Bytes}
      {items : List (DecryptedItem StorageRecord)} :
      (∀ item, item ∈ items ↔ item.key ∈ keys ∧ account.records item.key = some item.plaintext ∧
        S.decodeStorageRecord item.plaintext = some item.record) →
      Does account (.readItems keys recordIkm) (.ret (.items items)) account
  | written {account : Account} {manifest : ManifestRecord} {insertRecords : List (Bytes × Bytes)}
      {deleteKeys : List Bytes} :
      manifest.version.toNat = account.manifest.version.toNat + 1 →
      Does account (.writeItems manifest insertRecords deleteKeys) (.ret .written)
        (account.write manifest insertRecords deleteKeys)
  /-- The write is made, but the one who made it is not told so. -/
  | untold {account : Account} {manifest : ManifestRecord} {insertRecords : List (Bytes × Bytes)}
      {deleteKeys : List Bytes} {x : Exit StorageServiceError (Reply StorageRecord)} :
      manifest.version.toNat = account.manifest.version.toNat + 1 → Unanswered x →
      Does account (.writeItems manifest insertRecords deleteKeys) x
        (account.write manifest insertRecords deleteKeys)
  | conflict {account : Account} {manifest : ManifestRecord} {insertRecords : List (Bytes × Bytes)}
      {deleteKeys : List Bytes} :
      manifest.version.toNat ≠ account.manifest.version.toNat + 1 →
      Does account (.writeItems manifest insertRecords deleteKeys) (.throw .conflict) account

end Account

namespace StorageService

variable (X : Externals) (S : StorageExternals StorageRecord) (W : StorageWire U)
  (handle : StorageService U)

open Account in
def ask : Ask → HttpAsync U StorageServiceError (Reply StorageRecord)
  | .manifest => do
      let record ← handle.manifest X S W
      return .manifest record
  | .manifestIfChanged version => do
      let record ← handle.manifestIfChanged X S W version
      return record.elim .unchanged .manifest
  | .readItems keys recordIkm => do
      let items ← handle.readItems X S W keys recordIkm
      return .items items
  | .writeItems manifest insertRecords deleteKeys => do
      handle.writeItems X S W manifest insertRecords deleteKeys
      return .written

/-! ## What the server has is the account, sealed -/

structure Represents (storageKey : StorageServiceKey) (stored : StoredAccount) (account : Account) :
    Prop where
  manifest : decryptManifest S storageKey stored.manifest = .ok account.manifest
  version : stored.manifest.version = account.manifest.version
  records : ∀ id, Option.Rel
    (fun value record =>
      ReadsBack S storageKey (recordIkmOf account.manifest) (id, record) ⟨id, value⟩)
    (stored.items id) (account.records id)

/-- The ikm that the items of a manifest are read with. -/
def Opens (manifest : ManifestRecord) (recordIkm : Option Bytes) : Prop :=
  recordIkm = some manifest.recordIkm ∨ (manifest.recordIkm = [] ∧ recordIkm = none)

/-- What the writer of a manifest is told to keep to: the next version, the ikm of the manifest
    it read, and every identifier that is kept, next to the new ones. -/
structure Extends (base manifest : ManifestRecord) (insertRecords : List (Bytes × Bytes))
    (deleteKeys : List Bytes) : Prop where
  version : manifest.version.toNat = base.version.toNat + 1
  recordIkm : manifest.recordIkm = base.recordIkm
  roundTrips : S.RoundTrips manifest
  decode : ∀ record ∈ insertRecords, (S.decodeStorageRecord record.2).isSome = true
  identifiers : ∀ id ∈ manifest.identifiers, id.raw ∈ insertRecords.map Prod.fst ∨
    (id.raw ∉ deleteKeys ∧ id.raw ∈ base.identifiers.map Identifier.raw)

open Account in
/-- What is asked of a handle by somebody who holds a manifest, or none yet. -/
def Keeps (held : Option ManifestRecord) : Ask → Prop
  | .readItems _ recordIkm => ∃ base ∈ held, Opens base recordIkm
  | .writeItems manifest insertRecords deleteKeys =>
      ∃ base ∈ held, Extends S base manifest insertRecords deleteKeys
  | _ => True

section Writing

variable {S} {storageKey : StorageServiceKey}

theorem encryptManifest_version {record : ManifestRecord} {draws : List (Event Draw Drawn)}
    {manifest : StorageManifest}
    (trace : Trace (encryptManifest S storageKey record) draws (.ret manifest)) :
    manifest.version = record.version := by
  rcases trace_bind.mp trace with ⟨e, -, ended⟩ | ⟨m, -, ended⟩ | ⟨value, es₁, es₂, -, -, last⟩
  · cases ended
  · cases ended
  · obtain ⟨-, made⟩ := trace_done.mp last
    cases made
    rfl

/-- A write operation, and what its parts are read back as. -/
theorem writeOperation_trace {manifest : ManifestRecord} {insertRecords : List (Bytes × Bytes)}
    {deleteKeys : List Bytes} {draws : List (Event Draw Drawn)} {x : Exit Empty WriteOperation}
    (trace : Trace (writeOperation S storageKey manifest insertRecords deleteKeys) draws x)
    (decrypts : S.Decrypts) (roundTrips : S.RoundTrips manifest)
    (decode : ∀ record ∈ insertRecords, (S.decodeStorageRecord record.2).isSome = true) :
    ∃ sealed items, x = .ret ⟨some sealed, items, deleteKeys, false⟩ ∧
      decryptManifest S storageKey sealed = .ok manifest ∧ sealed.version = manifest.version ∧
      List.Forall₂ (ReadsBack S storageKey (recordIkmOf manifest)) insertRecords items := by
  obtain ⟨items, es₁, es₂, -, back, rest⟩ := trace_bind_returned
    (fun _ _ made => encryptItems_trace made decrypts decode fun _ => rfl) trace
  have manifests (draws : List (Event Draw Drawn)) (x : Exit Empty StorageManifest)
      (made : Trace (encryptManifest S storageKey manifest) draws x) : ∃ sealed, x = .ret sealed ∧
        decryptManifest S storageKey sealed = .ok manifest ∧
        sealed.version = manifest.version := by
    obtain ⟨sealed, rfl, opened⟩ := encryptManifest_trace made decrypts roundTrips
    exact ⟨sealed, rfl, opened, encryptManifest_version made⟩
  obtain ⟨sealed, es₃, es₄, -, ⟨opened, version⟩, last⟩ := trace_bind_returned manifests rest
  obtain ⟨-, rfl⟩ := trace_done.mp last
  exact ⟨sealed, items, rfl, opened, version, back⟩

theorem decryptItem_key {item : StorageItem} {recordIkm : Option Bytes}
    {decrypted : DecryptedItem StorageRecord}
    (ok : decryptItem S storageKey item recordIkm = .ok decrypted) : decrypted.key = item.key := by
  unfold decryptItem at ok
  cases opened : decrypt S (itemKey S storageKey item.key recordIkm) item.value with
  | error e =>
      rw [opened] at ok
      cases ok
  | ok plaintext =>
      rw [opened] at ok
      simp only [Bind.bind, Except.bind] at ok
      cases decoded : S.decodeStorageRecord plaintext with
      | none =>
          rw [decoded] at ok
          cases ok
      | some record =>
          rw [decoded] at ok
          cases ok
          rfl

theorem ReadsBack.key {recordIkm : Option Bytes} {record : Bytes × Bytes} {item : StorageItem}
    (back : ReadsBack S storageKey recordIkm record item) : item.key = record.1 := by
  obtain ⟨decoded, -, opened⟩ := back
  exact (decryptItem_key opened).symm

theorem exists_of_forall₂ {α β : Type} {R : α → β → Prop} {l : List α} {l' : List β}
    (related : List.Forall₂ R l l') {a : α} (member : a ∈ l) : ∃ b ∈ l', R a b := by
  induction related with
  | nil => cases member
  | cons first _ ih =>
      rcases List.mem_cons.mp member with rfl | member
      · exact ⟨_, List.mem_cons_self, first⟩
      · obtain ⟨b, found, related⟩ := ih member
        exact ⟨b, List.mem_cons_of_mem _ found, related⟩

/-- An operation that is carried out does to the account what its parts say. -/
theorem Represents.write {stored stored' : StoredAccount} {account : Account}
    {sealed : StorageManifest} {manifest : ManifestRecord}
    {insertRecords : List (Bytes × Bytes)} {deleteKeys : List Bytes} {items : List StorageItem}
    (represents : Represents S storageKey stored account)
    (wrote : StoredAccount.Wrote ⟨some sealed, items, deleteKeys, false⟩ stored stored')
    (opened : decryptManifest S storageKey sealed = .ok manifest)
    (version : sealed.version = manifest.version)
    (recordIkm : recordIkmOf manifest = recordIkmOf account.manifest)
    (back : List.Forall₂ (ReadsBack S storageKey (recordIkmOf manifest)) insertRecords items) :
    Represents S storageKey stored' (account.write manifest insertRecords deleteKeys) := by
  have same : sealed = stored'.manifest := Option.some.inj wrote.manifest
  refine ⟨same ▸ opened, same ▸ version, ?_⟩
  intro id
  simp only [Account.write]
  cases found : insertRecords.lookup id with
  | some record =>
      obtain ⟨before, after, rfl, -⟩ := List.lookup_eq_some_iff.mp found
      obtain ⟨⟨key, value⟩, member, read⟩ := exists_of_forall₂ back (a := (id, record)) (by simp)
      obtain rfl : key = id := read.key
      rw [wrote.inserted _ member]
      exact .some read
  | none =>
      have absent : ∀ item ∈ items, item.key ≠ id := by
        intro item member same
        obtain ⟨record, inserted, read⟩ := exists_of_forall₂ back.flip member
        have other := List.lookup_eq_none_iff.mp found record inserted
        rw [← ReadsBack.key read, same] at other
        simp at other
      by_cases deleted : id ∈ deleteKeys
      · rw [if_pos deleted, wrote.deleted id deleted absent]
        exact .none
      · rw [if_neg deleted, wrote.kept id deleted absent, recordIkm]
        exact represents.records id

end Writing

end StorageService

end SignalService

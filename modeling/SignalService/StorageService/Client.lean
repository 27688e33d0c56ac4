import SignalService.Effect.Worlds
import SignalService.PushService
import SignalService.StorageService

/-! # Requests to the storage service

The client of `storage_service.rs`: how a handle is made, and what it fetches and writes. Each of
its functions makes one request, and decrypts what the answer brings or encrypts what the
request takes.
-/

namespace SignalService

open Effect

variable {U : UrlSyntax}

/-- What prost and serde make of the bodies. -/
structure StorageWire (U : UrlSyntax) extends UrlParsers U where
  encodeReadOperation : List Bytes → Bytes
  encodeWriteOperation : WriteOperation → Bytes
  decodeStorageManifest : Bytes → Option StorageManifest
  decodeStorageItems : Bytes → Option (List StorageItem)
  jsonStorageAuth : Bytes → Option HttpAuth

structure StorageService (U : UrlSyntax) where
  service : PushService U
  credentials : HttpAuth
  storageKey : StorageServiceKey

/-- The requests of a handle, before their bodies are encoded. -/
inductive StorageRequest where
  | manifest
  | manifestIfChanged (version : UInt64)
  | read (keys : List Bytes)
  | write (operation : WriteOperation)
  deriving DecidableEq

namespace StorageService

variable {StorageRecord : Type} (X : Externals) (S : StorageExternals StorageRecord)
  (W : StorageWire U) (handle : StorageService U)

/-- `StorageService::new`. -/
def new (service : PushService U) (storageKey : StorageServiceKey) :
    HttpAsync U ServiceError (StorageService U) := do
  let builder ← Prog.ofExcept
    (service.request W.toUrlParsers .get (.service "/v1/storage/auth") .noOverride)
  let response ← builder.send
  let response ← Prog.ofExit (response.baselineDecode X)
  let body ← Prog.ofExcept response.bytes
  let credentials ← Prog.ofOption (.throw (.http "json")) (W.jsonStorageAuth body)
  return ⟨service, credentials, storageKey⟩

/-- Each request with its method, its path and its body, under the handle's credentials. -/
def builder (request : StorageRequest) : Except ServiceError (RequestBuilder U) :=
  match request with
  | .manifest =>
      handle.service.request W.toUrlParsers .get (.storage "/v1/storage/manifest")
        (.identified handle.credentials)
  | .manifestIfChanged version =>
      handle.service.request W.toUrlParsers .get
        (.storage s!"/v1/storage/manifest/version/{version.toNat}") (.identified handle.credentials)
  | .read keys => do
      let builder ← handle.service.request W.toUrlParsers .put (.storage "/v1/storage/read")
        (.identified handle.credentials)
      return builder.protobuf (W.encodeReadOperation keys)
  | .write operation => do
      let builder ← handle.service.request W.toUrlParsers .put (.storage "/v1/storage/")
        (.identified handle.credentials)
      return builder.protobuf (W.encodeWriteOperation operation)

def send (request : StorageRequest) : HttpAsync U ServiceError HttpResponse := do
  let builder ← Prog.ofExcept (handle.builder W request)
  builder.send

/-- `send().await?.service_error_for_status().await?`. -/
def sendOk (request : StorageRequest) : HttpAsync U ServiceError HttpResponse := do
  let response ← handle.send W request
  Prog.ofExit (response.baselineDecode X)

def manifest : HttpAsync U StorageServiceError ManifestRecord := do
  let response ← (handle.sendOk X W .manifest).mapErr .service
  let manifest ← (Prog.ofExcept (response.protobuf W.decodeStorageManifest)).mapErr .service
  Prog.ofExcept (decryptManifest S handle.storageKey manifest)

def manifestIfChanged (version : UInt64) :
    HttpAsync U StorageServiceError (Option ManifestRecord) := do
  let response ← (handle.sendOk X W (.manifestIfChanged version)).mapErr .service
  if response.status = 204 then return none
  else
    let manifest ← (Prog.ofExcept (response.protobuf W.decodeStorageManifest)).mapErr .service
    let record ← Prog.ofExcept (decryptManifest S handle.storageKey manifest)
    return some record

def decryptItems (storageKey : StorageServiceKey) (recordIkm : Option Bytes) :
    List StorageItem → Except StorageServiceError (List (DecryptedItem StorageRecord))
  | [] => .ok []
  | item :: items => do
      let decrypted ← decryptItem S storageKey item recordIkm
      let others ← decryptItems storageKey recordIkm items
      return decrypted :: others

def readItems (keys : List Bytes) (recordIkm : Option Bytes) :
    HttpAsync U StorageServiceError (List (DecryptedItem StorageRecord)) := do
  let response ← (handle.sendOk X W (.read keys)).mapErr .service
  let items ← (Prog.ofExcept (response.protobuf W.decodeStorageItems)).mapErr .service
  Prog.ofExcept (decryptItems S handle.storageKey recordIkm items)

/-! ## Writing -/

theorem size_toArray {n : Nat} (bytes : { bytes : Bytes // bytes.length = n }) :
    bytes.val.toArray.size = n := by
  rw [List.size_toArray, bytes.property]

@[reducible] def drawCall : Draw → HttpCall U
  | .fillBytes length => .fillBytes length

def drawAnswer : (draw : Draw) → HttpAnswer (drawCall (U := U) draw) → Drawn draw
  | .fillBytes _, bytes => ⟨bytes.val.toArray, size_toArray bytes⟩

/-- What is drawn before a request is made. -/
def drawn {ε α : Type} (drawing : Drawing α) : HttpAsync U ε α :=
  (drawing.lift drawCall drawAnswer).mapErr Empty.elim

/-- A conflict is found before the other codes are looked at. -/
def readWritten (response : HttpResponse) : Exit StorageServiceError Unit :=
  if response.status = 409 then .throw .conflict
  else ((response.baselineDecode X).mapErr .service).bind fun _ => .ret ()

def writeItems (manifest : ManifestRecord) (insertRecords : List (Bytes × Bytes))
    (deleteKeys : List Bytes) : HttpAsync U StorageServiceError Unit := do
  let operation ← drawn (writeOperation S handle.storageKey manifest insertRecords deleteKeys)
  let response ← (handle.send W (.write operation)).mapErr .service
  Prog.ofExit (readWritten X response)

end StorageService

end SignalService

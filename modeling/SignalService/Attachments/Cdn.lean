import SignalService.Attachments.Http

/-! # Uploads and downloads

`push_service/cdn.rs` and `digeststream.rs`: where an attachment is uploaded to, how far an
upload got that was interrupted, and the request that goes on with it. The digest is made of
the bytes as they are read for the body of that request.
-/

namespace SignalService

open Effect

variable {U : UrlSyntax}

structure AttachmentUploadForm (U : UrlSyntax) where
  cdn : Nat
  key : String
  headers : List (String × String)
  signedUploadLocation : Url U

structure AttachmentDigest where
  digest : Bytes
  incrementalDigest : Option Bytes
  incrementalMacChunkSize : Nat
  deriving DecidableEq, Repr

structure ResumeInfo where
  contentRange : Option String
  contentStart : Nat
  deriving DecidableEq, Repr

/-- The pure functions of the dependencies that an upload uses. -/
structure CdnExternals (U : UrlSyntax) extends UrlParsers U where
  jsonUploadForm : Bytes → Option (AttachmentUploadForm U)
  sha256 : Bytes → Bytes
  /-- The room, less one byte, that a buffer of some length is given before the next read. -/
  spareCapacity : Nat → Nat

/-! ## Reading and digesting -/

/-- `std::io::Cursor` over the contents. -/
structure Cursor where
  data : Bytes
  position : Nat := 0
  deriving DecidableEq, Repr

namespace Cursor

def read (cursor : Cursor) (room : Nat) : Bytes × Cursor :=
  let chunk := (cursor.data.drop cursor.position).take room
  (chunk, { cursor with position := cursor.position + chunk.length })

/-- `seek(SeekFrom::Start(..))`, which may go beyond the end. -/
def seek (cursor : Cursor) (start : Nat) : Cursor := { cursor with position := start }

def remaining (cursor : Cursor) : Bytes := cursor.data.drop cursor.position

end Cursor

/-- `DigestingReader`: the digest has been given the bytes of `digested`. -/
structure DigestingReader where
  inner : Cursor
  digested : Bytes := []
  deriving DecidableEq, Repr

namespace DigestingReader

def read (reader : DigestingReader) (room : Nat) : Bytes × DigestingReader :=
  let (chunk, inner) := reader.inner.read room
  (chunk, ⟨inner, reader.digested ++ chunk⟩)

def seek (reader : DigestingReader) (start : Nat) : DigestingReader :=
  { reader with inner := reader.inner.seek start }

/-- `Read::read_to_end`: reads until one of them brings nothing. -/
def readToEndInto (spareCapacity : Nat → Nat) :
    Nat → DigestingReader → Bytes → Bytes × DigestingReader
  | 0, reader, buf => (buf, reader)
  | fuel + 1, reader, buf =>
      match reader.read (spareCapacity buf.length + 1) with
      | ([], reader) => (buf, reader)
      | (chunk, reader) => readToEndInto spareCapacity fuel reader (buf ++ chunk)

def readToEnd (spareCapacity : Nat → Nat) (reader : DigestingReader) : Bytes × DigestingReader :=
  readToEndInto spareCapacity (reader.inner.remaining.length + 1) reader []

def finalize (sha256 : Bytes → Bytes) (reader : DigestingReader) : Bytes := sha256 reader.digested

end DigestingReader

/-! ## Requests to the CDN -/

namespace Header

def contentLength : HeaderName := "content-length".toList
def contentRange : HeaderName := "content-range".toList
def contentType : HeaderName := "content-type".toList
def location : HeaderName := "location".toList
def range : HeaderName := "range".toList
def tusResumable : HeaderName := "tus-resumable".toList
def uploadOffset : HeaderName := "upload-offset".toList
def uploadLength : HeaderName := "upload-length".toList

end Header

def RequestBuilder.contentRange (builder : RequestBuilder U) : Option String → RequestBuilder U
  | some contentRange => builder.header (some Header.contentRange) (headerValue contentRange)
  | none => builder

def invalidFrame {α : Type} (reason : String) : Exit ServiceError α := .throw (.invalidFrame reason)

namespace PushService

variable (W : CdnExternals U) (service : PushService U)

/-- `send().await?.error_for_status()?`. -/
def sendOk (builder : RequestBuilder U) : HttpAsync U ServiceError HttpResponse := do
  let response ← builder.send
  Prog.ofExcept response.errorForStatus

/-- `get_attachment_upload_form_errors`, and the baseline for the other codes. -/
def readUploadForm (X : Externals) (response : HttpResponse) :
    Exit ServiceError (AttachmentUploadForm U) :=
  if response.status = 413 then .throw .attachmentTooLarge
  else do
    let response ← response.baselineDecode X
    let bytes ← Exit.ofExcept response.bytes
    Exit.ofOption (.throw (.http "json")) (W.jsonUploadForm bytes)

def getAttachmentV4UploadAttributes (X : Externals) :
    HttpAsync U ServiceError (AttachmentUploadForm U) := do
  let builder ← Prog.ofExcept (service.request W.toUrlParsers .get
    (.service "/v4/attachments/form/upload") .noOverride)
  let response ← builder.send
  Prog.ofExit (readUploadForm W X response)

/-- The URL that a response points to. -/
def readLocation (response : HttpResponse) : Exit ServiceError (Url U) := do
  let location ← Exit.ofOption (invalidFrame "missing location header in HTTP response")
    (response.header Header.location)
  let text ← Exit.ofOption (invalidFrame "invalid location header bytes in HTTP response")
    (headerText location)
  Exit.ofOption (.throw .invalidUrl) (W.parse (String.ofList text))

def getAttachmentResumableUploadUrl (form : AttachmentUploadForm U) :
    HttpAsync U ServiceError (Url U) := do
  let builder ← Prog.ofExcept (service.request W.toUrlParsers .post
    (.absolute form.signedUploadLocation) .unidentified)
  let builder := (builder.headers form.headers).header (some Header.contentLength) (headerValue "0")
  let builder ←
    if form.cdn = 2 then
      pure (builder.header (some Header.contentType) (headerValue "application/octet-stream"))
    else if form.cdn = 3 then
      pure ((builder.header (headerName "Upload-Defer-Length") (headerValue "1")).header
        (headerName "Tus-Resumable") (headerValue "1.0.0"))
    else Prog.throw (.unknownCdnVersion form.cdn)
  let response ← sendOk builder
  Prog.ofExit (readLocation W response)

/-! ### How far an upload got -/

/-- The offset after the last byte that CDN2 has, which is in its `Range` header. The
    addition is checked. -/
def readOffsetCdn2 : Option Bytes → Exit ServiceError Nat
  | none => .ret 0
  | some range => do
      let text ← Exit.ofOption (invalidFrame "invalid format for Range HTTP header")
        (headerText range)
      let last ← Exit.ofOption (invalidFrame "invalid value format for Range HTTP header")
        (text.splitOn '-')[1]?
      let last ← Exit.ofOption (invalidFrame "invalid number format for Range HTTP header")
        (parseU64 last)
      if last + 1 < 2 ^ 64 then .ret (last + 1) else .panic "attempt to add with overflow"

def readResumeInfoCdn2 (contentLength : Nat) (response : HttpResponse) :
    Exit ServiceError ResumeInfo :=
  if response.IsSuccess then .ret ⟨none, contentLength⟩
  else if response.status = 308 then do
    let offset ← readOffsetCdn2 (response.header Header.range)
    if contentLength = 0 then .panic "attempt to subtract with overflow"
    else .ret ⟨some s!"bytes {offset}-{contentLength - 1}/{contentLength}", offset⟩
  else invalidFrame "failed to get resumable upload data from CDN2"

def getAttachmentResumeInfoCdn2 (resumableUrl : Url U) (contentLength : Nat) :
    HttpAsync U ServiceError ResumeInfo := do
  let builder ← Prog.ofExcept (service.request W.toUrlParsers .put (.cdnUrl 2 resumableUrl)
    .unidentified)
  let response ← sendOk
    (builder.header (some Header.contentRange) (headerValue s!"bytes */{contentLength}"))
  Prog.ofExit (readResumeInfoCdn2 contentLength response)

def readResumeInfoCdn3 (response : HttpResponse) : Exit ServiceError ResumeInfo := do
  let offset ← Exit.ofOption (invalidFrame "no Upload-Offset header in response")
    (response.header Header.uploadOffset)
  let text ← Exit.ofOption (invalidFrame "invalid upload-offset header bytes in HTTP response")
    (headerText offset)
  let start ← Exit.ofOption (invalidFrame "invalid integer value for Upload-Offset header")
    (parseU64 text)
  return ⟨none, start⟩

def getAttachmentResumeInfoCdn3 (resumableUrl : Url U) (headers : List (String × String)) :
    HttpAsync U ServiceError ResumeInfo := do
  let builder ← Prog.ofExcept (service.request W.toUrlParsers .head (.cdnUrl 3 resumableUrl)
    .unidentified)
  let response ← sendOk
    ((builder.header (headerName "Tus-Resumable") (headerValue "1.0.0")).headers headers)
  Prog.ofExit (readResumeInfoCdn3 response)

/-! ### Going on with an upload -/

/-- What is returned of the bytes that were read. -/
def attachmentDigest (digester : DigestingReader) : AttachmentDigest where
  digest := digester.finalize W.sha256
  incrementalDigest := none
  incrementalMacChunkSize := 0

def uploadToCdn2 (resumableUrl : Url U) (contentLength : Nat) (content : Cursor) :
    HttpAsync U ServiceError AttachmentDigest := do
  let resumeInfo ← service.getAttachmentResumeInfoCdn2 W resumableUrl contentLength
  let (buf, digester) := DigestingReader.readToEnd W.spareCapacity ⟨content, []⟩
  let builder ← Prog.ofExcept (service.request W.toUrlParsers .put (.cdnUrl 2 resumableUrl)
    .unidentified)
  let _ ← sendOk ((builder.contentRange resumeInfo.contentRange).body buf)
  return attachmentDigest W digester

def uploadToCdn3 (resumableUrl : Url U) (headers : List (String × String)) (contentLength : Nat)
    (content : Cursor) : HttpAsync U ServiceError AttachmentDigest := do
  let resumeInfo ← service.getAttachmentResumeInfoCdn3 W resumableUrl headers
  if resumeInfo.contentStart = contentLength then
    let (_, digester) := DigestingReader.readToEnd W.spareCapacity ⟨content, []⟩
    return attachmentDigest W digester
  else
    let digester := DigestingReader.seek ⟨content, []⟩ resumeInfo.contentStart
    let (buf, digester) := digester.readToEnd W.spareCapacity
    let builder ← Prog.ofExcept (service.request W.toUrlParsers .patch
      (.cdn 3 resumableUrl.path) .unidentified)
    let builder := (builder.headers headers).header (headerName "Tus-Resumable")
      (headerValue "1.0.0")
    let builder := builder.header (headerName "Upload-Offset")
      (some (toString resumeInfo.contentStart))
    let builder := builder.header (headerName "Upload-Length") (some (toString buf.length))
    let builder := builder.header (some Header.contentType)
      (headerValue "application/offset+octet-stream")
    let _ ← sendOk (builder.body buf)
    return attachmentDigest W digester

def uploadAttachmentV4 (cdnId : Nat) (resumableUrl : Url U) (contentLength : Nat)
    (headers : List (String × String)) (content : Cursor) :
    HttpAsync U ServiceError AttachmentDigest :=
  if cdnId = 2 then service.uploadToCdn2 W resumableUrl contentLength content
  else service.uploadToCdn3 W resumableUrl headers contentLength content

end PushService

end SignalService

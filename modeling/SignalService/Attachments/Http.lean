import SignalService.Requests

/-! # Requests over HTTP

`configuration.rs` and `push_service/mod.rs`: how an endpoint becomes a URL, and what is
put into a request before it is sent. A request that cannot be put together is noticed only
when it is sent, as in `reqwest`.
-/

namespace SignalService

open Effect

/-! ## URLs -/

/-- How `url` writes the path and the query of an `http` or `https` URL: what is written is
    left as it is when it is written again. -/
structure UrlSyntax where
  path : String → String
  query : String → String
  path_path : ∀ s, path (path s) = path s
  query_query : ∀ s, query (query s) = query s

structure Url (U : UrlSyntax) where
  origin : String
  path : String
  query : Option String
  path_written : U.path path = path
  query_written : query.map U.query = query

namespace Url

variable {U : UrlSyntax}

def setPath (url : Url U) (path : String) : Url U :=
  { url with path := U.path path, path_written := U.path_path path }

def setQuery (url : Url U) (query : Option String) : Url U where
  origin := url.origin
  path := url.path
  query := query.map U.query
  path_written := url.path_written
  query_written := by
    cases query with
    | none => rfl
    | some s => exact congrArg some (U.query_query s)

@[simp] theorem setPath_path (url other : Url U) : (url.setPath other.path).path = other.path :=
  other.path_written

@[simp] theorem setPath_query (url : Url U) (path : String) : (url.setPath path).query = url.query :=
  rfl

@[simp] theorem setQuery_path (url : Url U) (query : Option String) :
    (url.setQuery query).path = url.path := rfl

@[simp] theorem setQuery_query (url other : Url U) :
    (url.setQuery other.query).query = other.query := other.query_written

@[simp] theorem setQuery_none (url : Url U) : (url.setQuery none).query = none := rfl

end Url

/-- `Url::parse` and `Url::join`. -/
structure UrlParsers (U : UrlSyntax) where
  parse : String → Option (Url U)
  join : Url U → String → Option (Url U)

/-- `ServiceConfiguration`, as far as requests are made from it. -/
structure ServiceConfiguration (U : UrlSyntax) where
  serviceUrl : Url U
  storageUrl : Url U
  cdnUrls : List (Nat × Url U)

inductive Endpoint (U : UrlSyntax) where
  | absolute (url : Url U)
  | service (path : String)
  | storage (path : String)
  | cdnAt (cdnId : Nat) (path : String) (query : Option String)

namespace Endpoint

variable {U : UrlSyntax}

def cdn (cdnId : Nat) (path : String) : Endpoint U := .cdnAt cdnId path none

def cdnUrl (cdnId : Nat) (url : Url U) : Endpoint U := .cdnAt cdnId url.path url.query

def intoUrl (W : UrlParsers U) (cfg : ServiceConfiguration U) :
    Endpoint U → Except ServiceError (Url U)
  | .service path => (W.join cfg.serviceUrl path).elim (.error .invalidUrl) .ok
  | .storage path => (W.join cfg.storageUrl path).elim (.error .invalidUrl) .ok
  | .cdnAt cdnId path query =>
      match cfg.cdnUrls.lookup cdnId with
      | none => .error (.unknownCdnVersion cdnId)
      | some url => .ok ((url.setPath path).setQuery query)
  | .absolute url => .ok url

end Endpoint

/-! ## Headers -/

/-- A header name in lower case. -/
abbrev HeaderName := List Char

/-- The characters of a header name, apart from capital letters. -/
def isTokenChar (c : Char) : Bool :=
  ('a' ≤ c && c ≤ 'z') || ('0' ≤ c && c ≤ '9') || "!#$%&'*+-.^_`|~".toList.contains c

/-- `HeaderName::try_from`. -/
def headerName (name : String) : Option HeaderName :=
  let chars := name.toList.map asciiLower
  if chars ≠ [] ∧ chars.length < 2 ^ 16 ∧ chars.all isTokenChar then some chars else none

/-- `HeaderValue::try_from`: a byte beyond ASCII is let through, a control character is not. -/
def headerValue (value : String) : Option String :=
  if value.toList.all fun c => (32 ≤ c.toNat && c.toNat ≠ 127) || c = '\t' then some value else none

/-- `HeaderValue::to_str`. -/
def headerText (value : Bytes) : Option (List Char) :=
  if value.all fun b => (32 ≤ b.toNat && b.toNat < 127) || b = 9 then
    some (value.map fun b => Char.ofNat b.toNat)
  else none

/-- `str::parse::<u64>`. -/
def parseU64 (s : List Char) : Option Nat := do
  let n ← match s with
    | '+' :: digits => digitsValue digits
    | digits => digitsValue digits
  if n < 2 ^ 64 then some n else none

/-! ## Requests and responses -/

structure HttpAuth where
  username : String
  password : String
  deriving DecidableEq, Repr

inductive HttpAuthOverride where
  | noOverride
  | unidentified
  | identified (auth : HttpAuth)

inductive Method where
  | get
  | head
  | post
  | put
  | patch
  deriving DecidableEq, Repr

structure HttpRequest (U : UrlSyntax) where
  method : Method
  url : Url U
  basicAuth : Option HttpAuth
  headers : List (HeaderName × String) := []
  body : Option Bytes := none

/-- The values under a name, in the order they were added. -/
def HttpRequest.values {U : UrlSyntax} (request : HttpRequest U) (name : HeaderName) :
    List String :=
  (request.headers.filter fun field => field.1 = name).map Prod.snd

/-- A response; there is no body where the stream of its bytes breaks off. -/
structure HttpResponse where
  status : Nat
  headers : List (HeaderName × Bytes) := []
  body : Option Bytes := some []

namespace HttpResponse

/-- `headers().get(..)`: the first value under the name. -/
def header (response : HttpResponse) (name : HeaderName) : Option Bytes :=
  response.headers.lookup name

def IsSuccess (response : HttpResponse) : Prop := 200 ≤ response.status ∧ response.status < 300

instance (response : HttpResponse) : Decidable response.IsSuccess := by
  unfold IsSuccess
  infer_instance

/-- `error_for_status`: the codes of client and server errors. -/
def errorForStatus (response : HttpResponse) : Except ServiceError HttpResponse :=
  if 400 ≤ response.status ∧ response.status < 600 then .error (.http "status") else .ok response

def bytes (response : HttpResponse) : Except ServiceError Bytes :=
  match response.body with
  | some bytes => .ok bytes
  | none => .error (.http "body")

/-- `text`: the body, with whatever is no UTF-8 in it replaced. -/
def text (X : Externals) (response : HttpResponse) : Except ServiceError String :=
  response.bytes.map X.utf8Lossy

/-- `baseline_decode`, of a response whose body may break off. -/
def baselineDecode (X : Externals) (response : HttpResponse) : Exit ServiceError HttpResponse :=
  match response.status with
  | 200 | 201 | 202 | 204 => .ret response
  | 401 | 403 => .throw .unauthorized
  | 404 => .throw .notFoundError
  | 413 | 429 => do
      let retryAfter ← match (response.header "retry-after".toList).bind headerText with
        | some value => parseRetryAfter value
        | none => .ret none
      Exit.throw (.rateLimitExceeded retryAfter)
  | 423 => do
      let text ← Exit.ofExcept (response.text X)
      match X.jsonRegistrationLockFailure text with
      | some failure => Exit.throw (.locked failure)
      | none => Exit.throw (.unhandledResponseCode 423 text)
  | 499 => .throw .deprecatedVersion
  | 508 => .throw .serverRejected
  | code => do
      let text ← Exit.ofExcept (response.text X)
      Exit.throw (.unhandledResponseCode code text)

end HttpResponse

/-- What the requests and the preparation of an upload ask of the outside: an answer of a
    server, random bytes, the time. -/
inductive HttpCall (U : UrlSyntax) where
  | send (request : HttpRequest U)
  | fillBytes (length : Nat)
  | now

@[reducible] def HttpAnswer {U : UrlSyntax} : HttpCall U → Type
  | .send _ => Except ServiceError HttpResponse
  | .fillBytes length => { bytes : Bytes // bytes.length = length }
  | .now => Nat

abbrev HttpAsync (U : UrlSyntax) (ε α : Type) := Prog (HttpCall U) HttpAnswer ε α

abbrev HttpEnv (U : UrlSyntax) (σ : Type) := (c : HttpCall U) → σ → HttpAnswer c × σ

/-- A request, or the mistake in it. -/
abbrev RequestBuilder (U : UrlSyntax) := Option (HttpRequest U)

namespace RequestBuilder

variable {U : UrlSyntax}

/-- Headers are added to those of the same name, not put in their place. -/
def header (builder : RequestBuilder U) (name : Option HeaderName) (value : Option String) :
    RequestBuilder U := do
  let request ← builder
  let name ← name
  let value ← value
  return { request with headers := request.headers ++ [(name, value)] }

/-- The loop over a map of headers, in whichever order it is iterated. -/
def headers (builder : RequestBuilder U) (fields : List (String × String)) : RequestBuilder U :=
  fields.foldl (fun builder field => builder.header (headerName field.1) (headerValue field.2))
    builder

def body (builder : RequestBuilder U) (bytes : Bytes) : RequestBuilder U := do
  let request ← builder
  return { request with body := some bytes }

def send (builder : RequestBuilder U) : HttpAsync U ServiceError HttpResponse :=
  match builder with
  | none => Prog.throw (.http "builder")
  | some request => .call (.send request) fun answer => .ofExcept answer

end RequestBuilder

/-- `PushService`, less the client, which is reached through calls. -/
structure PushService (U : UrlSyntax) where
  cfg : ServiceConfiguration U
  credentials : Option HttpAuth

def PushService.request {U : UrlSyntax} (W : UrlParsers U) (service : PushService U)
    (method : Method) (endpoint : Endpoint U) (authOverride : HttpAuthOverride) :
    Except ServiceError (RequestBuilder U) := do
  let url ← endpoint.intoUrl W service.cfg
  let basicAuth := match authOverride with
    | .noOverride => service.credentials
    | .identified auth => some auth
    | .unidentified => none
  return some { method, url, basicAuth }

/-! ## What is in a request -/

section Values

variable {U : UrlSyntax} {builder : RequestBuilder U} {request : HttpRequest U}

@[simp] theorem RequestBuilder.header_some (request : HttpRequest U) (name : HeaderName)
    (value : String) :
    RequestBuilder.header (some request) (some name) (some value) =
      some { request with headers := request.headers ++ [(name, value)] } := rfl

@[simp] theorem RequestBuilder.body_some (request : HttpRequest U) (bytes : Bytes) :
    RequestBuilder.body (some request) bytes = some { request with body := some bytes } := rfl

/-- The headers of a map, or nothing when one of them is none. -/
def readHeaders : List (String × String) → Option (List (HeaderName × String))
  | [] => some []
  | field :: fields =>
      (headerName field.1).bind fun name => (headerValue field.2).bind fun value =>
        (readHeaders fields).map fun read => (name, value) :: read

namespace RequestBuilder

theorem headers_cons (builder : RequestBuilder U) (field : String × String)
    (fields : List (String × String)) :
    builder.headers (field :: fields) =
      (builder.header (headerName field.1) (headerValue field.2)).headers fields := rfl

theorem headers_none (fields : List (String × String)) :
    RequestBuilder.headers (none : RequestBuilder U) fields = none := by
  induction fields with
  | nil => rfl
  | cons field fields ih => exact ih

theorem headers_some (request : HttpRequest U) (fields : List (String × String)) :
    RequestBuilder.headers (some request) fields =
      (readHeaders fields).map fun read =>
        { request with headers := request.headers ++ read } := by
  induction fields generalizing request with
  | nil => simp [headers, readHeaders]
  | cons field fields ih =>
      rw [headers_cons, readHeaders]
      cases headerName field.1 with
      | none => exact headers_none fields
      | some name =>
          cases headerValue field.2 with
          | none => exact headers_none fields
          | some value =>
              rw [header_some, ih]
              cases readHeaders fields with
              | none => rfl
              | some read => simp

end RequestBuilder

/-- No value is under a name that none of the map's headers has. -/
theorem readHeaders_filter_eq_nil {fields : List (String × String)}
    {read : List (HeaderName × String)} (valid : readHeaders fields = some read)
    (name : HeaderName) :
    (read.filter fun field => field.1 = name) = [] ↔
      ∀ field ∈ fields, headerName field.1 ≠ some name := by
  induction fields generalizing read with
  | nil =>
      cases valid
      simp
  | cons field fields ih =>
      simp only [readHeaders, Option.bind_eq_some_iff, Option.map_eq_some_iff] at valid
      obtain ⟨key, named, value, -, rest, valid, rfl⟩ := valid
      by_cases same : key = name
      · simp [named, same]
      · simp [named, same, ih valid]

/-- A value stands alone under its name when the map has no other, and is what it is. -/
theorem readHeaders_values_iff {fields : List (String × String)}
    {read : List (HeaderName × String)} (valid : readHeaders fields = some read)
    (name : HeaderName) {value other : String} :
    (read.filter fun field => field.1 = name).map Prod.snd ++ [value] = [other] ↔
      (∀ field ∈ fields, headerName field.1 ≠ some name) ∧ value = other := by
  rw [← readHeaders_filter_eq_nil valid]
  cases read.filter fun field => field.1 = name with
  | nil => simp
  | cons field rest => simp

end Values

end SignalService

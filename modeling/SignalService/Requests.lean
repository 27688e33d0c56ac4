import SignalService.Externals

/-! # Requests to the server

`push_service/response.rs`: how a response is read, from its status to the error or the
JSON it stands for. Over it the two requests a send makes, for pre-keys
(`websocket/keys.rs`) and to submit a batch (`websocket/sender.rs`).
-/

namespace SignalService

open Effect

variable (X : Externals)

/-! ## Header values -/

/-- `char::is_whitespace`: the Unicode property `White_Space`. -/
def isWhitespace (c : Char) : Bool :=
  let n := c.toNat
  (9 ≤ n && n ≤ 13) || n == 0x20 || n == 0x85 || n == 0xA0 || n == 0x1680 ||
    (0x2000 ≤ n && n ≤ 0x200A) || n == 0x2028 || n == 0x2029 || n == 0x202F ||
    n == 0x205F || n == 0x3000

/-- `str::trim`. -/
def trim (s : List Char) : List Char :=
  ((s.dropWhile isWhitespace).reverse.dropWhile isWhitespace).reverse

/-- `str::split_once(":")`. -/
def splitOnce : List Char → Option (List Char × List Char)
  | [] => none
  | ':' :: rest => some ([], rest)
  | c :: rest => (splitOnce rest).map fun (before, after) => (c :: before, after)

def asciiLower (c : Char) : Char :=
  if 'A' ≤ c ∧ c ≤ 'Z' then Char.ofNat (c.toNat + 32) else c

def digitsValue (digits : List Char) : Option Nat :=
  if digits = [] then none
  else digits.foldlM (fun n c => if '0' ≤ c ∧ c ≤ '9' then some (10 * n + (c.toNat - 48)) else none) 0

/-- `str::parse::<i64>`: a sign is optional, a digit is not. -/
def parseI64 (s : List Char) : Option Int := do
  let n ← match s with
    | '-' :: digits => (digitsValue digits).map fun n => -(n : Int)
    | '+' :: digits => (digitsValue digits).map Int.ofNat
    | digits => (digitsValue digits).map Int.ofNat
  if -(2 ^ 63) ≤ n ∧ n < 2 ^ 63 then some n else none

/-- `parse_retry_after`. `chrono::Duration::seconds` panics on what it cannot hold in
    milliseconds. -/
def parseRetryAfter {ε : Type} (header : List Char) : Exit ε (Option Int) :=
  match parseI64 header with
  | none => .ret none
  | some seconds =>
      if -9223372036854775 ≤ seconds ∧ seconds ≤ 9223372036854775 then .ret (some seconds)
      else .panic "TimeDelta::seconds out of bounds"

namespace WebSocketResponseMessage

/-- `StatusCode::from_u16(self.status() as u16).unwrap_or_default()`: an absent status
    reads as 0, and what is no status code counts as 200. -/
def statusCode (response : WebSocketResponseMessage) : Nat :=
  let code := response.status.getD 0 % 2 ^ 16
  if 100 ≤ code ∧ code ≤ 999 then code else 200

def text (response : WebSocketResponseMessage) : String :=
  (response.body.map X.utf8Lossy).getD ""

def header (response : WebSocketResponseMessage) (name : String) : Option (List Char) :=
  let fields := response.headers.filterMap fun line => splitOnce line.toList
  (fields.find? fun field =>
    (trim field.1).map asciiLower = name.toList.map asciiLower).map fun field => trim field.2

/-- `SignalServiceResponse::json`, which takes the response by value and so is the one
    that `.json()` names; an absent body reads as an empty one. -/
def json {α : Type} (response : WebSocketResponseMessage) (parse : Bytes → Option α) :
    Except ServiceError α :=
  match parse (response.body.getD []) with
  | some value => .ok value
  | none => .error .jsonDecodeError

end WebSocketResponseMessage

/-! ## From status to error -/

def jsonOrUnhandled {α : Type} (parse : String → Option α) (response : WebSocketResponseMessage) :
    Except ServiceError α :=
  match parse (response.text X) with
  | some value => .ok value
  | none => .error (.unhandledResponseCode response.statusCode (response.text X))

def baselineDecode (response : WebSocketResponseMessage) :
    Exit ServiceError WebSocketResponseMessage :=
  match response.statusCode with
  | 200 | 201 | 202 | 204 => .ret response
  | 401 | 403 => .throw .unauthorized
  | 404 => .throw .notFoundError
  | 413 | 429 => do
      let retryAfter ← match response.header "retry-after" with
        | some value => parseRetryAfter value
        | none => .ret none
      Exit.throw (.rateLimitExceeded retryAfter)
  | 423 => do
      let failure ← Exit.ofExcept (jsonOrUnhandled X X.jsonRegistrationLockFailure response)
      Exit.throw (.locked failure)
  | 499 => .throw .deprecatedVersion
  | 508 => .throw .serverRejected
  | code => .throw (.unhandledResponseCode code (response.text X))

/-- `put_messages_errors`: what the status means for a submitted batch. The other codes
    are left to the baseline. -/
def putMessagesErrors (response : WebSocketResponseMessage) :
    Except ServiceError WebSocketResponseMessage :=
  match response.statusCode with
  | 409 => do throw (.mismatchedDevicesException (← jsonOrUnhandled X X.jsonMismatchedDevices response))
  | 410 => do throw (.staleDevices (← jsonOrUnhandled X X.jsonStaleDevices response))
  | 413 => throw .messageTooLarge
  | 404 => throw .unregisteredRecipient
  | 428 => do throw (.proofRequiredError (← jsonOrUnhandled X X.jsonProofRequired response))
  | _ => return response

/-! ## Submitting a batch -/

/-- What the answer to a submitted batch says. -/
def readPutMessages (answer : Except ServiceError WebSocketResponseMessage) :
    Exit ServiceError SendMessageResponse := do
  let response ← Exit.ofExcept answer
  let response ← Exit.ofExcept (putMessagesErrors X response)
  let response ← baselineDecode X response
  Exit.ofExcept (response.json X.jsonSendMessageResponse)

def sendMessages (messages : OutgoingPushMessages) : Async ServiceError SendMessageResponse :=
  .call (.putMessages none messages) fun answer => .ofExit (readPutMessages X answer)

def sendMessagesUnidentified (messages : OutgoingPushMessages) (access : UnidentifiedAccess) :
    Async ServiceError SendMessageResponse :=
  .call (.putMessages (some access.key) messages) fun answer =>
    .ofExit (readPutMessages X answer)

/-! ## Fetching pre-keys -/

def readGetKeys (answer : Except ServiceError WebSocketResponseMessage) :
    Exit ServiceError PreKeyResponse := do
  let response ← Exit.ofExcept answer
  let response ← baselineDecode X response
  Exit.ofExcept (response.json X.jsonPreKeyResponse)

/-- The bundle of the first device of a response; there has to be one. -/
def firstBundle (response : PreKeyResponse) : Exit ServiceError PreKeyBundle :=
  match response.devices with
  | [] => .panic "assertion failed: !pre_key_response.devices.is_empty()"
  | item :: _ => do
      let identity ← Exit.ofExcept (X.identityKey response.identityKey)
      Exit.ofExcept (X.intoBundle item identity)

def allBundles (response : PreKeyResponse) : Except ServiceError (List PreKeyBundle) := do
  let identity ← X.identityKey response.identityKey
  response.devices.mapM fun item => X.intoBundle item identity

def getPreKey (destination : ServiceId) (device : DeviceId) : Async ServiceError PreKeyBundle :=
  .call (.getKeys destination (.device device)) fun answer =>
    .ofExit ((readGetKeys X answer).bind (firstBundle X))

/-- A request for the primary device is one for all of them. -/
def getPreKeys (destination : ServiceId) (device : DeviceId) :
    Async ServiceError (List PreKeyBundle) :=
  let target := if device = defaultDeviceId then PreKeyTarget.all else .device device
  .call (.getKeys destination target) fun answer =>
    .ofExit ((readGetKeys X answer).bind fun response => .ofExcept (allBundles X response))

end SignalService

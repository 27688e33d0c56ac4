import SignalService.Reference

/-! # Which responses are successes

The decoders that `error_mapper!` generates for the endpoints, over the baseline of
`push_service/response.rs`, and the two ways in which the status of a response is read. A status
that is no status code counts as a success.
-/

namespace SignalService

open Effect

variable (X : Externals)

/-! ## The status -/

namespace WebSocketResponseMessage

/-- The method in `proto.rs`, which has no default. -/
def statusCode? (response : WebSocketResponseMessage) : Option Nat :=
  let status := response.status.getD 0
  if status < 2 ^ 16 ∧ 100 ≤ status ∧ status ≤ 999 then some status else none

/-- The status is there, and is a status code. -/
def HasStatus (response : WebSocketResponseMessage) : Prop :=
  ∃ status, response.status = some status ∧ 100 ≤ status ∧ status ≤ 999

end WebSocketResponseMessage

def successCodes : List Nat := [200, 201, 202, 204]

/-! ## Decoders of endpoints -/

/-- What an arm of `error_mapper!` makes of a response. -/
inductive Mapping : Type 1 where
  | json {α : Type} (variant : α → ServiceError) (parse : String → Option α)
  | unit (variant : ServiceError)
  | helper (f : WebSocketResponseMessage → Exit ServiceError ServiceError)

def Mapping.error (response : WebSocketResponseMessage) :
    Mapping → Exit ServiceError ServiceError
  | .json variant parse => do
      let value ← Exit.ofExcept (jsonOrUnhandled X parse response)
      return variant value
  | .unit variant => .ret variant
  | .helper f => f response

/-- `error_mapper!`: the first arm with the status of the response. -/
def errorMapper (arms : List (Nat × Mapping)) (response : WebSocketResponseMessage) :
    Exit ServiceError WebSocketResponseMessage :=
  match arms.find? (·.1 = response.statusCode) with
  | some (_, mapping) => (mapping.error X response).bind .throw
  | none => .ret response

/-- serde_json, for what only the decoders of endpoints read. -/
structure EndpointParsers where
  jsonAccountMismatchedDevices : String → Option (List AccountMismatchedDevices)
  jsonAccountStaleDevices : String → Option (List AccountStaleDevices)
  jsonRegistrationSessionMetadata : String → Option RegistrationSessionMetadataResponse
  jsonVerificationDeliveryFailure : String → Option VerificationDeliveryFailure
  /-- `current` and `max` of a `LinkedDeviceNumberError`. -/
  jsonLinkedDeviceNumberError : String → Option (Nat × Nat)
  /-- `message` of a `GroupChangeRejection`. -/
  jsonGroupChangeRejection : String → Option String

variable (J : EndpointParsers)

def deviceLimitReached (response : WebSocketResponseMessage) : Exit ServiceError ServiceError :=
  match jsonOrUnhandled X J.jsonLinkedDeviceNumberError response with
  | .ok (current, max) => .ret (.deviceLimitReached current max)
  | .error e => .ret e

def groupChangeRejected (response : WebSocketResponseMessage) : Exit ServiceError ServiceError :=
  let body := response.text X
  .ret (.groupChangeRejected ((J.jsonGroupChangeRejection body).getD body))

def sessionRateLimited (response : WebSocketResponseMessage) :
    Exit ServiceError ServiceError := do
  let retryAfter ← match response.header "retry-after" with
    | some value => parseRetryAfter value
    | none => .ret none
  match jsonOrUnhandled X J.jsonRegistrationSessionMetadata response with
  | .ok session => .ret (.verificationSessionRateLimited session retryAfter)
  | .error e => .ret e

def getAttachmentUploadFormErrors := errorMapper X [(413, .unit .attachmentTooLarge)]

def linkDeviceErrors := errorMapper X [
  (403, .unit .invalidDeviceVerificationCode),
  (409, .unit .deviceCapabilityDowngrade),
  (411, .helper (deviceLimitReached X J))]

def patchGroupErrors := errorMapper X [
  (400, .helper (groupChangeRejected X J)),
  (403, .unit .groupChangeForbidden),
  (409, .unit .groupChangeConflict)]

def putMultiRecipientMessagesErrors := errorMapper X [
  (409, .json .multiRecipientMismatchedDevices J.jsonAccountMismatchedDevices),
  (410, .json .multiRecipientStaleDevices J.jsonAccountStaleDevices),
  (413, .unit .messageTooLarge),
  (428, .json .proofRequiredError X.jsonProofRequired)]

def createVerificationSessionErrors := errorMapper X [(429, .helper (sessionRateLimited X J))]

def patchVerificationSessionErrors := errorMapper X [
  (403, .json .tokenNotAccepted J.jsonRegistrationSessionMetadata),
  (404, .unit .noSuchSession),
  (422, .unit .invalidVerificationSessionId),
  (429, .helper (sessionRateLimited X J))]

def requestVerificationCodeErrors := errorMapper X [
  (404, .unit .noSuchSession),
  (409, .json .registrationSessionConflict J.jsonRegistrationSessionMetadata),
  (418, .json .invalidTransportMode J.jsonRegistrationSessionMetadata),
  (422, .unit .invalidVerificationSessionId),
  (429, .helper (sessionRateLimited X J)),
  (440, .json .verificationDeliveryFailed J.jsonVerificationDeliveryFailure)]

def submitVerificationCodeErrors := errorMapper X [
  (404, .unit .noSuchSession),
  (409, .json .registrationSessionConflict J.jsonRegistrationSessionMetadata),
  (422, .unit .invalidVerificationSessionId),
  (429, .helper (sessionRateLimited X J))]

def postRegistrationErrors := errorMapper X [(409, .unit .deviceTransferAvailable)]

def putUsernameLinkErrors := errorMapper X [(409, .unit .usernameHashNotSet)]

def getProvisioningCodeErrors := errorMapper X [(411, .helper (deviceLimitReached X J))]

def submitChallengeErrors := errorMapper X [(428, .unit .challengeNotAccepted)]

/-- The uses of `error_mapper!`. -/
inductive MappedEndpoint where
  | getAttachmentUploadForm
  | linkDevice
  | patchGroup
  | putMessages
  | putMultiRecipientMessages
  | createVerificationSession
  | patchVerificationSession
  | requestVerificationCode
  | submitVerificationCode
  | postRegistration
  | putUsernameLink
  | getProvisioningCode
  | submitChallenge
  deriving DecidableEq, Repr

def MappedEndpoint.decode (endpoint : MappedEndpoint) (response : WebSocketResponseMessage) :
    Exit ServiceError WebSocketResponseMessage :=
  match endpoint with
  | .getAttachmentUploadForm => getAttachmentUploadFormErrors X response
  | .linkDevice => linkDeviceErrors X J response
  | .patchGroup => patchGroupErrors X J response
  | .putMessages => .ofExcept (putMessagesErrors X response)
  | .putMultiRecipientMessages => putMultiRecipientMessagesErrors X J response
  | .createVerificationSession => createVerificationSessionErrors X J response
  | .patchVerificationSession => patchVerificationSessionErrors X J response
  | .requestVerificationCode => requestVerificationCodeErrors X J response
  | .submitVerificationCode => submitVerificationCodeErrors X J response
  | .postRegistration => postRegistrationErrors X response
  | .putUsernameLink => putUsernameLinkErrors X response
  | .getProvisioningCode => getProvisioningCodeErrors X J response
  | .submitChallenge => submitChallengeErrors X response

def serviceErrorForStatus (response : WebSocketResponseMessage) :
    Exit ServiceError WebSocketResponseMessage :=
  baselineDecode X response

def serviceErrorForStatusWith
    (decode : WebSocketResponseMessage → Exit ServiceError WebSocketResponseMessage)
    (response : WebSocketResponseMessage) : Exit ServiceError WebSocketResponseMessage :=
  (decode response).bind (baselineDecode X)

/-! ## Successes -/

section Successes

variable {X J} {response : WebSocketResponseMessage}

theorem baselineDecode_eq_ret {r : WebSocketResponseMessage} :
    baselineDecode X response = .ret r ↔ r = response ∧ response.statusCode ∈ successCodes := by
  unfold baselineDecode
  split
  case h_1 code | h_2 code | h_3 code | h_4 code =>
      rw [code]
      simp [successCodes, eq_comm]
  case h_8 code | h_9 code =>
      rw [code]
      apply iff_of_false
      · cases response.header "retry-after" <;> exact Exit.bind_throw_ne_ret _ _ _
      · simp [successCodes]
  case h_10 code =>
      rw [code]
      apply iff_of_false
      · exact Exit.bind_throw_ne_ret _ _ _
      · simp [successCodes]
  case h_13 =>
      simp_all [successCodes]
  all_goals
    rename_i code
    rw [code]
    simp [successCodes]

/-- A decoder returns what none of its arms is for. -/
theorem errorMapper_eq_ret {arms : List (Nat × Mapping)} {r : WebSocketResponseMessage} :
    errorMapper X arms response = .ret r ↔
      r = response ∧ response.statusCode ∉ arms.map Prod.fst := by
  unfold errorMapper
  cases found : arms.find? (·.1 = response.statusCode) with
  | none =>
      have unlisted : response.statusCode ∉ arms.map Prod.fst := by
        rw [List.find?_eq_none] at found
        grind
      simp [unlisted, eq_comm]
  | some arm =>
      have listed : response.statusCode ∈ arms.map Prod.fst := by
        have mem := List.mem_of_find?_eq_some found
        have code := List.find?_some found
        grind
      apply iff_of_false
      · exact Exit.bind_throw_ne_ret _ _ _
      · exact fun unlisted => unlisted.2 listed

theorem Mapping.throw_json {α : Type} (variant : α → ServiceError) (parse : String → Option α) :
    ((Mapping.json variant parse).error X response).bind .throw =
      (Exit.ofExcept (do throw (variant (← jsonOrUnhandled X parse response))) :
        Exit ServiceError WebSocketResponseMessage) := by
  change ((Exit.ofExcept (jsonOrUnhandled X parse response)).bind fun value =>
    .ret (variant value)).bind .throw = _
  cases jsonOrUnhandled X parse response <;> rfl

theorem putMessagesErrors_eq (response : WebSocketResponseMessage) :
    Exit.ofExcept (putMessagesErrors X response) = errorMapper X [
      (409, .json .mismatchedDevicesException X.jsonMismatchedDevices),
      (410, .json .staleDevices X.jsonStaleDevices),
      (413, .unit .messageTooLarge),
      (404, .unit .unregisteredRecipient),
      (428, .json .proofRequiredError X.jsonProofRequired)] response := by
  unfold putMessagesErrors
  split
  case h_1 code | h_2 code | h_5 code =>
      unfold errorMapper
      rw [code]
      exact (Mapping.throw_json _ _).symm
  case h_3 code | h_4 code =>
      unfold errorMapper
      rw [code]
      rfl
  case h_6 =>
      symm
      apply errorMapper_eq_ret.mpr
      refine ⟨rfl, ?_⟩
      grind

/-- No endpoint has an arm for a success. -/
theorem MappedEndpoint.decode_eq (endpoint : MappedEndpoint) :
    ∃ arms, endpoint.decode X J = errorMapper X arms ∧
      ∀ code ∈ arms.map Prod.fst, code ∉ successCodes := by
  cases endpoint with
  | putMessages =>
      refine ⟨_, funext putMessagesErrors_eq, ?_⟩
      simp [successCodes]
  | _ =>
      refine ⟨_, rfl, ?_⟩
      simp [successCodes]

theorem serviceErrorForStatusWith_eq_ret {endpoint : MappedEndpoint}
    {r : WebSocketResponseMessage} :
    serviceErrorForStatusWith X (endpoint.decode X J) response = .ret r ↔
      r = response ∧ response.statusCode ∈ successCodes := by
  obtain ⟨arms, decodes, disjoint⟩ := endpoint.decode_eq (X := X) (J := J)
  unfold serviceErrorForStatusWith
  rw [decodes, Exit.bind_eq_ret]
  constructor
  · rintro ⟨decoded, returned, succeeded⟩
    obtain ⟨rfl, -⟩ := errorMapper_eq_ret.mp returned
    exact baselineDecode_eq_ret.mp succeeded
  · intro succeeded
    have unlisted : response.statusCode ∉ arms.map Prod.fst :=
      fun listed => disjoint _ listed succeeded.2
    exact ⟨response, errorMapper_eq_ret.mpr ⟨rfl, unlisted⟩, baselineDecode_eq_ret.mpr succeeded⟩

end Successes

/-! ## Absent and invalid statuses -/

section Statuses

variable {X J} {response : WebSocketResponseMessage}

theorem statusCode_of_valid {status : Nat} (given : response.status = some status)
    (valid : 100 ≤ status ∧ status ≤ 999) : response.statusCode = status := by
  have narrow : status % 2 ^ 16 = status := Nat.mod_eq_of_lt (by omega)
  simp only [WebSocketResponseMessage.statusCode, given, Option.getD_some, narrow]
  exact if_pos valid

theorem statusCode?_of_valid {status : Nat} (given : response.status = some status)
    (valid : 100 ≤ status ∧ status ≤ 999) : response.statusCode? = some status := by
  have narrow : status < 2 ^ 16 := by omega
  simp only [WebSocketResponseMessage.statusCode?, given, Option.getD_some]
  exact if_pos ⟨narrow, valid⟩

theorem hasStatus_of_statusCode? {code : Nat} (read : response.statusCode? = some code) :
    response.HasStatus := by
  simp only [WebSocketResponseMessage.statusCode?] at read
  split at read
  case isTrue valid =>
      cases given : response.status with
      | none => simp [given] at valid
      | some status =>
          rw [given] at valid
          exact ⟨status, given, valid.2⟩
  case isFalse => cases read

/-- What a decoder makes of a response is decided by its status, as both methods read it. -/
structure DecidedByStatus (X : Externals)
    (decode : WebSocketResponseMessage → Exit ServiceError WebSocketResponseMessage)
    (response : WebSocketResponseMessage) : Prop where
  baseline : serviceErrorForStatus X response = .ret response ↔
    ∃ status ∈ successCodes, response.status = some status
  decoded : serviceErrorForStatusWith X decode response = .ret response ↔
    ∃ status ∈ successCodes, response.status = some status
  invalid : ¬ response.HasStatus →
    (∃ e, serviceErrorForStatus X response = .throw e) ∧
      ∃ e, serviceErrorForStatusWith X decode response = .throw e
  agree : response.statusCode? = some response.statusCode

/-- An absent status, or one that is no status code, is taken for a success. -/
theorem decidedByStatus_iff (endpoint : MappedEndpoint) (response : WebSocketResponseMessage) :
    DecidedByStatus X (endpoint.decode X J) response ↔ response.HasStatus := by
  constructor
  · intro decided
    exact hasStatus_of_statusCode? decided.agree
  · rintro ⟨status, given, valid⟩
    have code := statusCode_of_valid given valid
    have successful : response.statusCode ∈ successCodes ↔
        ∃ status ∈ successCodes, response.status = some status := by
      rw [code, given]
      grind
    refine ⟨?_, ?_, ?_, ?_⟩
    · rw [← successful]
      exact baselineDecode_eq_ret.trans (and_iff_right rfl)
    · rw [← successful]
      exact serviceErrorForStatusWith_eq_ret.trans (and_iff_right rfl)
    · intro absent
      exact absurd ⟨status, given, valid⟩ absent
    · rw [code]
      exact statusCode?_of_valid given valid

end Statuses

namespace Sample

/-- Nothing can be read from an empty body. -/
def endpointParsers : EndpointParsers where
  jsonAccountMismatchedDevices _ := none
  jsonAccountStaleDevices _ := none
  jsonRegistrationSessionMetadata _ := none
  jsonVerificationDeliveryFailure _ := none
  jsonLinkedDeviceNumberError _ := none
  jsonGroupChangeRejection _ := none

/-- A response with this status alone. -/
def responseWith (status : Option Nat) : WebSocketResponseMessage := { status := status }

end Sample

open Sample

/-- A status that is not there is a success, and so is one that is too wide for a status code. -/
theorem invalid_status_succeeds :
    (∀ status ∈ [none, some 42, some 1000, some 65736],
      serviceErrorForStatus reference (responseWith status) = .ret (responseWith status) ∧
        serviceErrorForStatusWith reference
          (MappedEndpoint.putMessages.decode reference endpointParsers) (responseWith status) =
            .ret (responseWith status)) ∧
    ¬ DecidedByStatus reference (MappedEndpoint.putMessages.decode reference endpointParsers)
      (responseWith none) := by
  have succeeds : ∀ status ∈ [none, some 42, some 1000, some 65736],
      (responseWith status).statusCode ∈ successCodes := by decide
  refine ⟨?_, ?_⟩
  · intro status mem
    exact ⟨baselineDecode_eq_ret.mpr ⟨rfl, succeeds status mem⟩,
      serviceErrorForStatusWith_eq_ret.mpr ⟨rfl, succeeds status mem⟩⟩
  · intro decided
    obtain ⟨status, -, given⟩ := decided.baseline.mp (baselineDecode_eq_ret.mpr ⟨rfl, by decide⟩)
    cases given

/-! ## Rate limits -/

/-- The line is a header of this name, with this value. -/
def IsHeader (name line : String) (value : List Char) : Prop :=
  ∃ field rest, splitOnce line.toList = some (field, rest) ∧
    (trim field).map asciiLower = name.toList.map asciiLower ∧ value = trim rest

/-- The first header of this name has this value. -/
def FirstHeader (response : WebSocketResponseMessage) (name : String) (value : List Char) : Prop :=
  ∃ before line after, response.headers = before ++ line :: after ∧ IsHeader name line value ∧
    ∀ other ∈ before, ∀ value, ¬ IsHeader name other value

/-- The first header says to come back after this many seconds. -/
def SaysSeconds (response : WebSocketResponseMessage) (seconds : Int) : Prop :=
  ∃ value, FirstHeader response "retry-after" value ∧ parseI64 value = some seconds

/-- The seconds that a `chrono::Duration` can have. -/
abbrev Representable (seconds : Int) : Prop :=
  -9223372036854775 ≤ seconds ∧ seconds ≤ 9223372036854775

def Reports (response : WebSocketResponseMessage) (retryAfter : Option Int) : Prop :=
  ∀ seconds, retryAfter = some seconds ↔ SaysSeconds response seconds ∧ Representable seconds

/-- The endpoints whose mapper has an arm for `sessionRateLimited`. -/
def sessionEndpoints : List MappedEndpoint :=
  [.createVerificationSession, .patchVerificationSession, .requestVerificationCode,
    .submitVerificationCode]

/-- Both mappings give an error, with what the header says. A session that cannot be read leaves
no error with a place for it. -/
structure RateLimitReported (X : Externals) (J : EndpointParsers)
    (response : WebSocketResponseMessage) : Prop where
  baseline : ∃ retryAfter, Reports response retryAfter ∧
    baselineDecode X response = .throw (.rateLimitExceeded retryAfter)
  session : response.statusCode = 429 → ∀ endpoint ∈ sessionEndpoints,
    ∃ retryAfter, Reports response retryAfter ∧ endpoint.decode X J response = .throw
      (match J.jsonRegistrationSessionMetadata (response.text X) with
      | some session => .verificationSessionRateLimited session retryAfter
      | none => .unhandledResponseCode 429 (response.text X))

section RateLimits

variable {X J} {response : WebSocketResponseMessage}

theorem any_splitOnce {name line : String} :
    ((splitOnce line.toList).any fun field =>
      decide ((trim field.1).map asciiLower = name.toList.map asciiLower)) = true ↔
      ∃ value, IsHeader name line value := by
  unfold IsHeader
  cases splitOnce line.toList with
  | none => simp
  | some parts =>
      obtain ⟨field, rest⟩ := parts
      simp

theorem header_eq_some {name : String} {value : List Char} :
    response.header name = some value ↔ FirstHeader response name value := by
  unfold WebSocketResponseMessage.header FirstHeader
  simp only [List.find?_filterMap, Option.map_eq_some_iff, Option.bind_eq_some_iff,
    List.find?_eq_some_iff_append, any_splitOnce, Bool.not_eq_true', ← Bool.not_eq_true,
    not_exists]
  constructor
  · rintro ⟨⟨field, rest⟩, ⟨line, ⟨⟨other, named⟩, before, after, cut, unnamed⟩, split⟩, rfl⟩
    obtain ⟨field', rest', split', same, -⟩ := named
    cases split.symm.trans split'
    exact ⟨before, line, after, cut, ⟨field, rest, split, same, rfl⟩, unnamed⟩
  · rintro ⟨before, line, after, cut, ⟨field, rest, split, same, rfl⟩, unnamed⟩
    exact ⟨(field, rest), ⟨line, ⟨⟨_, field, rest, split, same, rfl⟩, before, after, cut, unnamed⟩,
      split⟩, rfl⟩

theorem saysSeconds_iff {seconds : Int} :
    SaysSeconds response seconds ↔
      (response.header "retry-after").bind parseI64 = some seconds := by
  simp only [SaysSeconds, ← header_eq_some, Option.bind_eq_some_iff]

/-- What both mappings read first. -/
def readRetryAfter (response : WebSocketResponseMessage) : Exit ServiceError (Option Int) :=
  match response.header "retry-after" with
  | some value => parseRetryAfter value
  | none => .ret none

theorem readRetryAfter_eq (response : WebSocketResponseMessage) :
    readRetryAfter response = match (response.header "retry-after").bind parseI64 with
      | none => .ret none
      | some seconds =>
          if -9223372036854775 ≤ seconds ∧ seconds ≤ 9223372036854775 then .ret (some seconds)
          else .panic "TimeDelta::seconds out of bounds" := by
  unfold readRetryAfter
  cases response.header "retry-after" <;> rfl

/-- Seconds that cannot be held are the one thing that goes wrong. -/
theorem readRetryAfter_cases (response : WebSocketResponseMessage) :
    (∃ retryAfter, readRetryAfter response = .ret retryAfter ∧ Reports response retryAfter ∧
        ∀ seconds, SaysSeconds response seconds → Representable seconds) ∨
      ∃ message seconds, readRetryAfter response = .panic message ∧
        SaysSeconds response seconds ∧ ¬ Representable seconds := by
  rw [readRetryAfter_eq]
  simp only [Reports, saysSeconds_iff]
  cases (response.header "retry-after").bind parseI64 with
  | none => simp
  | some seconds =>
      by_cases held : -9223372036854775 ≤ seconds ∧ seconds ≤ 9223372036854775
      · left
        refine ⟨some seconds, if_pos held, ?_, ?_⟩
        · intro other
          constructor
          · rintro ⟨⟩
            exact ⟨rfl, held⟩
          · exact And.left
        · rintro other ⟨⟩
          exact held
      · exact .inr ⟨_, seconds, if_neg held, rfl, held⟩

theorem baselineDecode_limited
    (limited : response.statusCode = 413 ∨ response.statusCode = 429) :
    baselineDecode X response = (readRetryAfter response).bind fun retryAfter =>
      .throw (.rateLimitExceeded retryAfter) := by
  unfold baselineDecode readRetryAfter
  obtain code | code := limited
  · rw [code]
    cases response.header "retry-after" <;> rfl
  · rw [code]
    cases response.header "retry-after" <;> rfl

theorem sessionRateLimited_eq (response : WebSocketResponseMessage) :
    sessionRateLimited X J response = (readRetryAfter response).bind fun retryAfter => .ret
      (match J.jsonRegistrationSessionMetadata (response.text X) with
      | some session => .verificationSessionRateLimited session retryAfter
      | none => .unhandledResponseCode response.statusCode (response.text X)) := by
  unfold sessionRateLimited readRetryAfter jsonOrUnhandled
  cases J.jsonRegistrationSessionMetadata (response.text X) <;>
    cases response.header "retry-after" <;> rfl

theorem errorMapper_of_find {arms : List (Nat × Mapping)} (arm : Nat × Mapping)
    (found : arms.find? (·.1 = response.statusCode) = some arm) :
    errorMapper X arms response = (arm.2.error X response).bind .throw := by
  unfold errorMapper
  rw [found]

theorem session_decode {endpoint : MappedEndpoint} (listed : endpoint ∈ sessionEndpoints)
    (limited : response.statusCode = 429) :
    endpoint.decode X J response = (readRetryAfter response).bind fun retryAfter => .throw
      (match J.jsonRegistrationSessionMetadata (response.text X) with
      | some session => .verificationSessionRateLimited session retryAfter
      | none => .unhandledResponseCode 429 (response.text X)) := by
  have mapped : endpoint.decode X J response = (sessionRateLimited X J response).bind .throw := by
    simp only [sessionEndpoints, List.mem_cons, List.not_mem_nil, or_false] at listed
    obtain rfl | rfl | rfl | rfl := listed
    all_goals
      apply errorMapper_of_find (429, .helper (sessionRateLimited X J))
      rw [limited]
      rfl
  rw [mapped, sessionRateLimited_eq, limited]
  cases readRetryAfter response <;> rfl

end RateLimits

namespace Sample

/-- A response that limits the rate, with this header. -/
def limitedWith (header : String) : WebSocketResponseMessage :=
  { status := some 429, headers := [header] }

end Sample

end SignalService

import SignalService.Attachments.Cdn
import SignalService.Groups.Context
import SignalService.Groups.Creation

/-! # Requests of the push service

`push_service/mod.rs`: protobufs as bodies of requests and responses, and the three requests
about a group. A group is known to the server by the credentials of the request alone.
-/

namespace SignalService

open Effect

variable {U : UrlSyntax}

/-! ## Protobufs -/

/-- `ProtobufResponseExt::protobuf`. -/
def HttpResponse.protobuf {α : Type} (decode : Bytes → Option α) (response : HttpResponse) :
    Except ServiceError α := do
  let body ← response.bytes
  match decode body with
  | none => throw .protobufDecodeError
  | some decoded => return decoded

/-- `header("Content-Type", "application/x-protobuf").body(..)`. -/
def RequestBuilder.protobuf (builder : RequestBuilder U) (body : Bytes) : RequestBuilder U :=
  (builder.header (some Header.contentType) (headerValue "application/x-protobuf")).body body

@[simp] theorem RequestBuilder.protobuf_some (request : HttpRequest U) (body : Bytes) :
    RequestBuilder.protobuf (some request) body = some { request with
      headers := request.headers ++ [(Header.contentType, "application/x-protobuf")]
      body := some body } := by
  have printable : headerValue "application/x-protobuf" = some "application/x-protobuf" := by
    decide +kernel
  unfold RequestBuilder.protobuf
  rw [printable]
  rfl

/-! ## Codes of success -/

theorem HttpResponse.baselineDecode_eq_ret {X : Externals} {response answer : HttpResponse}
    (accepted : response.baselineDecode X = .ret answer) :
    answer = response ∧ response.status ∈ [200, 201, 202, 204] := by
  unfold baselineDecode at accepted
  split at accepted
  case h_1 code | h_2 code | h_3 code | h_4 code =>
      cases accepted
      simp [code]
  case h_8 | h_9 =>
      dsimp only at accepted
      split at accepted <;> exact absurd accepted (Exit.bind_throw_ne_ret _ _ _)
  case h_10 =>
      obtain ⟨text, -, threw⟩ := Exit.bind_eq_ret.mp accepted
      split at threw <;> cases threw
  case h_13 => exact absurd accepted (Exit.bind_throw_ne_ret _ _ _)
  all_goals cases accepted

theorem HttpResponse.baselineDecode_ok {X : Externals} {response : HttpResponse}
    (success : response.status = 200 ∨ response.status = 204) :
    response.baselineDecode X = .ret response := by
  unfold baselineDecode
  rcases success with status | status <;> simp only [status]

/-! ## Groups -/

namespace Groups

/-- prost, and the body of a change that was refused. -/
structure GroupWire (U : UrlSyntax) extends UrlParsers U where
  encodeGroup : Proto.Group → Bytes
  decodeGroup : Bytes → Option Proto.Group
  encodeActions : Proto.Actions → Bytes
  decodeGroupChange : Bytes → Option Proto.GroupChange
  jsonGroupChangeRejection : String → Option String

end Groups

namespace PushService

open Groups

variable (X : Externals) (W : GroupWire U) (service : PushService U)

def getGroup (credentials : HttpAuth) : HttpAsync U ServiceError Groups.Proto.Group := do
  let builder ← Prog.ofExcept
    (service.request W.toUrlParsers .get (.storage "/v1/groups/") (.identified credentials))
  let response ← builder.send
  let response ← Prog.ofExit (response.baselineDecode X)
  Prog.ofExcept (response.protobuf W.decodeGroup)

/-- The body of the response is not read. -/
def createGroup (credentials : HttpAuth) (group : Groups.Proto.Group) :
    HttpAsync U ServiceError Unit := do
  let builder ← Prog.ofExcept
    (service.request W.toUrlParsers .put (.storage "/v1/groups/") (.identified credentials))
  let response ← (builder.protobuf (W.encodeGroup group)).send
  let _ ← Prog.ofExit (response.baselineDecode X)
  return ()

/-- The server's own words, where the body has them. -/
def groupChangeRejected (response : HttpResponse) : ServiceError :=
  match response.text X with
  | .ok body => .groupChangeRejected ((W.jsonGroupChangeRejection body).getD body)
  | .error e => e

/-- `patch_group_errors`. -/
def patchGroupErrors (response : HttpResponse) : Except ServiceError HttpResponse :=
  match response.status with
  | 400 => .error (groupChangeRejected X W response)
  | 403 => .error .groupChangeForbidden
  | 409 => .error .groupChangeConflict
  | _ => .ok response

def patchGroup (credentials : HttpAuth) (actions : Groups.Proto.Actions) :
    HttpAsync U ServiceError Groups.Proto.GroupChange := do
  let builder ← Prog.ofExcept
    (service.request W.toUrlParsers .patch (.storage "/v1/groups/") (.identified credentials))
  let response ← (builder.protobuf (W.encodeActions actions)).send
  let response ← Prog.ofExcept (patchGroupErrors X W response)
  let response ← Prog.ofExit (response.baselineDecode X)
  Prog.ofExcept (response.protobuf W.decodeGroupChange)

end PushService

end SignalService

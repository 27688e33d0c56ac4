import SignalService.Groups.Manager
import SignalService.Sessions.Locking

/-! # The groups of the storage service

The server takes a patch if its version is the next one, signs it, and may not get to say so. What
a manager is told of a patch is compared with what became of it.
-/

namespace SignalService.Groups

open Effect Prog

variable {U : UrlSyntax}

/-! ## The server -/

/-- What the server has of a group: its state, and the changes that it signed, the last first. -/
structure HostedGroup where
  group : Proto.Group
  changes : List Proto.GroupChange

/-- Actions of a member that were carried out and signed, with the member and the group filled
    in. -/
structure Applied (Z : GroupExternals) (ops : GroupOperations) (source : Aci)
    (actions : Proto.Actions) (hosted hosted' : HostedGroup) (change : Proto.GroupChange) :
    Prop where
  follows : actions.version.toNat = hosted.group.version.toNat + 1
  version : hosted'.group.version = actions.version
  recorded : hosted'.changes = change :: hosted.changes
  signed : ∃ stamped, ops.stamp Z source actions = .ok stamped ∧
    Z.decodeActions change.actions = some stamped

/-- No answer, or one that does not say what became of a patch. -/
def Undecided : Except ServiceError HttpResponse → Prop
  | .error _ => True
  | .ok response => response.status ∉ [200, 201, 202, 204, 400, 403, 409]

/-- How the server may answer who fetches the group. -/
structure Fetched (W : GroupWire U) (hosted : HostedGroup)
    (answer : Except ServiceError HttpResponse) (hosted' : HostedGroup) : Prop where
  kept : hosted' = hosted
  current : ∀ response, answer = .ok response → response.status ∈ [200, 201, 202, 204] →
    ∀ group, response.protobuf W.decodeGroup = .ok group → group = hosted.group

/-- How the server may answer a patch, and what becomes of the group. A body may break off. -/
inductive Patched (Z : GroupExternals) (ops : GroupOperations) (W : GroupWire U) (source : Aci)
    (actions : Proto.Actions) (hosted : HostedGroup) :
    Except ServiceError HttpResponse → HostedGroup → Prop where
  | applied {response : HttpResponse} {hosted' : HostedGroup} {change : Proto.GroupChange} :
      response.status = 200 → Applied Z ops source actions hosted hosted' change →
      (∀ read, response.protobuf W.decodeGroupChange = .ok read → read = change) →
      Patched Z ops W source actions hosted (.ok response) hosted'
  | refused {response : HttpResponse} : response.status = 400 ∨ response.status = 403 →
      Patched Z ops W source actions hosted (.ok response) hosted
  | conflict {response : HttpResponse} : response.status = 409 →
      actions.version.toNat ≠ hosted.group.version.toNat + 1 →
      Patched Z ops W source actions hosted (.ok response) hosted
  | undecided {answer : Except ServiceError HttpResponse} {hosted' : HostedGroup} :
      Undecided answer →
      hosted' = hosted ∨ (∃ change, Applied Z ops source actions hosted hosted' change) →
      Patched Z ops W source actions hosted answer hosted'

/-- The server, and whom it takes to be the one that presents a credential. -/
structure GroupServer (U : UrlSyntax) where
  handle : HttpRequest U → HostedGroup → Except ServiceError HttpResponse → HostedGroup → Prop
  presenter : HttpAuth → Aci

/-- The world of a manager: the server, and a cache that works. -/
def GroupServer.world (server : GroupServer U) :
    Prog.World (ManagerCall U) ManagerAnswer HostedGroup
  | .http (.send request), hosted, answer, hosted' => server.handle request hosted answer hosted'
  | .http (.fillBytes _), hosted, _, hosted' => hosted' = hosted
  | .http .now, hosted, _, hosted' => hosted' = hosted
  | .cacheGet _, hosted, answer, hosted' => (∃ found, answer = .ok found) ∧ hosted' = hosted
  | .cacheWrite _, hosted, answer, hosted' => answer = .ok () ∧ hosted' = hosted

/-- An authorization that presents a credential of the manager's account. -/
def GroupsManager.Presents (D : ManagerExternals U) (manager : GroupsManager U) (auth : HttpAuth) :
    Prop :=
  ∃ response today bytes credential params randomness,
    D.receive response manager.serverPublicParams manager.aci manager.pni today = some bytes ∧
    D.newAuthCredential bytes = some credential ∧
    manager.authorize D params credential randomness = .ok auth

/-- The server knows the manager's account by the credentials of its requests, and reads its
    patches as the actions that they were made of. -/
structure GroupServer.Serves (server : GroupServer U) (D : ManagerExternals U) (Z : GroupExternals)
    (ops : GroupOperations) (W : GroupWire U) (manager : GroupsManager U) : Prop where
  presenter : ∀ auth, manager.Presents D auth → server.presenter auth = manager.aci
  unreachable : ∀ http hosted e hosted', server.handle http hosted (.error e) hosted' →
    ∃ reason, e = .http reason
  reads : ∀ http hosted answer hosted', http.method = .get →
    server.handle http hosted answer hosted' → hosted' = hosted
  fetch : ∀ auth http hosted answer hosted',
    manager.identifiedPushService.request W.toUrlParsers .get (.storage "/v1/groups/")
      (.identified auth) = .ok (some http) →
    server.handle http hosted answer hosted' → Fetched W hosted answer hosted'
  patch : ∀ auth actions builder http hosted answer hosted',
    manager.identifiedPushService.request W.toUrlParsers .patch (.storage "/v1/groups/")
      (.identified auth) = .ok builder →
    builder.protobuf (W.encodeActions actions) = some http →
    server.handle http hosted answer hosted' →
    Patched Z ops W (server.presenter auth) actions hosted answer hosted'

/-! ## Errors -/

/-- The errors that a patch is refused with. -/
def turnsDown : ServiceError → Bool
  | .groupChangeRejected _ | .groupChangeForbidden | .groupChangeConflict => true
  | _ => false

section Errors

variable {X : Externals} {e : ServiceError} {response : HttpResponse}

theorem bytes_turnsDown (failed : response.bytes = .error e) : turnsDown e = false := by
  unfold HttpResponse.bytes at failed
  split at failed <;> cases failed
  rfl

theorem text_turnsDown (failed : response.text X = .error e) : turnsDown e = false := by
  unfold HttpResponse.text at failed
  cases read : response.bytes with
  | ok bytes =>
      rw [read] at failed
      cases failed
  | error e' =>
      rw [read] at failed
      cases failed
      exact bytes_turnsDown read

theorem protobuf_turnsDown {α : Type} {decode : Bytes → Option α}
    (failed : response.protobuf decode = .error e) : turnsDown e = false := by
  unfold HttpResponse.protobuf at failed
  cases read : response.bytes with
  | ok bytes =>
      rw [read] at failed
      cases decoded : decode bytes with
      | none =>
          simp only [Bind.bind, Except.bind, decoded] at failed
          cases failed
          rfl
      | some a =>
          simp only [Bind.bind, Except.bind, decoded] at failed
          cases failed
  | error e' =>
      rw [read] at failed
      cases failed
      exact bytes_turnsDown read

theorem baselineDecode_turnsDown (threw : response.baselineDecode X = .throw e) :
    turnsDown e = false := by
  unfold HttpResponse.baselineDecode at threw
  split at threw
  case h_8 | h_9 =>
      dsimp only at threw
      split at threw
      · rcases Exit.bind_eq_throw.mp threw with failed | ⟨retryAfter, -, ended⟩
        · exact absurd failed (parseRetryAfter_ne_throw _ _)
        · cases ended
          rfl
      · cases threw
        rfl
  case h_10 =>
      rcases Exit.bind_eq_throw.mp threw with failed | ⟨text, -, ended⟩
      · exact text_turnsDown (Exit.ofExcept_eq_throw.mp failed)
      · split at ended <;> cases ended <;> rfl
  case h_13 =>
      rcases Exit.bind_eq_throw.mp threw with failed | ⟨text, -, ended⟩
      · exact text_turnsDown (Exit.ofExcept_eq_throw.mp failed)
      · cases ended
        rfl
  all_goals cases threw <;> rfl

theorem request_turnsDown {W : UrlParsers U} {service : PushService U} {method : Method}
    {endpoint : Endpoint U} {authOverride : HttpAuthOverride}
    (failed : service.request W method endpoint authOverride = .error e) :
    turnsDown e = false := by
  unfold PushService.request at failed
  cases made : endpoint.intoUrl W service.cfg with
  | ok url =>
      rw [made] at failed
      cases failed
  | error e' =>
      rw [made] at failed
      cases failed
      cases endpoint with
      | absolute url => cases made
      | service path =>
          simp only [Endpoint.intoUrl] at made
          cases joined : W.join service.cfg.serviceUrl path with
          | none =>
              rw [joined] at made
              cases made
              rfl
          | some url =>
              rw [joined] at made
              cases made
      | storage path =>
          simp only [Endpoint.intoUrl] at made
          cases joined : W.join service.cfg.storageUrl path with
          | none =>
              rw [joined] at made
              cases made
              rfl
          | some url =>
              rw [joined] at made
              cases made
      | cdnAt cdnId path query =>
          simp only [Endpoint.intoUrl] at made
          split at made <;> cases made
          rfl

theorem request_method {W : UrlParsers U} {service : PushService U} {method : Method}
    {endpoint : Endpoint U} {authOverride : HttpAuthOverride} {request : HttpRequest U}
    (built : service.request W method endpoint authOverride = .ok (some request)) :
    request.method = method := by
  unfold PushService.request at built
  obtain ⟨url, -, made⟩ := exists_of_bind_ok built
  cases made
  rfl

theorem parseCredentials_turnsDown {D : ManagerExternals U} {credentials : List TemporalCredential}
    (failed : parseCredentials D credentials = .error e) : turnsDown e = false := by
  induction credentials with
  | nil => cases failed
  | cons credential credentials ih =>
      cases parsed : credential.parse D with
      | error e' =>
          simp only [parseCredentials, parsed] at failed
          cases failed
          unfold TemporalCredential.parse at parsed
          split at parsed
          · cases parsed
            rfl
          · split at parsed <;> cases parsed
            rfl
      | ok entry =>
          cases rest : parseCredentials D credentials with
          | error e' =>
              simp only [parseCredentials, parsed, rest] at failed
              cases failed
              exact ih rest
          | ok entries =>
              simp only [parseCredentials, parsed, rest] at failed
              cases failed

theorem readCredentials_turnsDown {D : ManagerExternals U}
    (threw : GroupsManager.readCredentials X D response = .throw e) : turnsDown e = false := by
  rcases Exit.bind_eq_throw.mp threw with failed | ⟨response', -, rest⟩
  · exact baselineDecode_turnsDown failed
  · rcases Exit.bind_eq_throw.mp rest with failed | ⟨body, -, rest⟩
    · exact bytes_turnsDown (Exit.ofExcept_eq_throw.mp failed)
    · rcases Exit.bind_eq_throw.mp rest with failed | ⟨credentials, -, rest⟩
      · cases parsed : D.jsonCredentialResponse body with
        | none =>
            rw [parsed] at failed
            cases failed
            rfl
        | some credentials =>
            rw [parsed] at failed
            cases failed
      · exact parseCredentials_turnsDown (Exit.ofExcept_eq_throw.mp rest)

end Errors

/-! ## Authorizations -/

/-- The errors of the requests are those of the connection, and the cache has none. -/
def Reached : (c : ManagerCall U) → ManagerAnswer c → Prop
  | .http (.send _), answer => ∀ e, answer = .error e → ∃ reason, e = .http reason
  | .http (.fillBytes _), _ => True
  | .http .now, _ => True
  | .cacheGet _, answer => ∃ found, answer = .ok found
  | .cacheWrite _, answer => answer = .ok ()

/-- What leaves a group alone. -/
def LeavesAlone : ManagerCall U → Prop
  | .http (.send request) => request.method = .get
  | _ => True

namespace GroupsManager

variable {X : Externals} {D : ManagerExternals U} {manager : GroupsManager U}

theorem fetchCredentials_throws {today todayPlus7Days : Nat} :
    ThrowsWhen (Reached (U := U)) (turnsDown · = false)
      (http (manager.fetchCredentials X D today todayPlus7Days)) := by
  unfold fetchCredentials
  cases built : manager.identifiedPushService.request D.toUrlParsers .get
      (.service (credentialsPath today todayPlus7Days)) .noOverride with
  | error e => exact request_turnsDown built
  | ok builder =>
      cases builder with
      | none => rfl
      | some request =>
          intro answer reached
          cases answer with
          | error e =>
              obtain ⟨reason, rfl⟩ := reached e rfl
              rfl
          | ok response => exact throwsWhen_ofExit fun e threw => readCredentials_turnsDown threw

theorem fetchCredentials_calls {today todayPlus7Days : Nat} :
    Calls (LeavesAlone (U := U)) (http (manager.fetchCredentials X D today todayPlus7Days)) := by
  unfold fetchCredentials
  cases built : manager.identifiedPushService.request D.toUrlParsers .get
      (.service (credentialsPath today todayPlus7Days)) .noOverride with
  | error e => trivial
  | ok builder =>
      cases builder with
      | none => trivial
      | some request =>
          refine ⟨request_method built, fun answer _ => ?_⟩
          cases answer <;> trivial

theorem getAuthorizationString_throws {params : GroupSecretParams}
    {response : AuthCredentialWithPniResponse} {today : Nat} :
    ThrowsWhen (Reached (U := U)) (turnsDown · = false)
      (manager.getAuthorizationString D params response today) := by
  refine ThrowsWhen.bind (throwsWhen_ofExit ?_) fun bytes => ThrowsWhen.bind (throwsWhen_ofExit ?_)
    fun credential => ?_
  · intro e threw
    cases received :
      D.receive response manager.serverPublicParams manager.aci manager.pni today with
    | none =>
        rw [received] at threw
        cases threw
        rfl
    | some bytes =>
        rw [received] at threw
        cases threw
  · intro e threw
    cases made : D.newAuthCredential bytes with
    | none =>
        rw [made] at threw
        cases threw
    | some credential =>
        rw [made] at threw
        cases threw
  · intro randomness _
    refine throwsWhen_ofExit fun e threw => ?_
    have failed := Exit.ofExcept_eq_throw.mp threw
    unfold authorize at failed
    split at failed <;> cases failed
    rfl

theorem credentialFor_throws {today todayPlus7Days : Nat} :
    ThrowsWhen (Reached (U := U)) (turnsDown · = false)
      (manager.credentialFor X D today todayPlus7Days) := by
  refine ThrowsWhen.bind (throwsWhen_await fun answer reached => reached) fun cached => ?_
  cases cached with
  | some response => trivial
  | none =>
      refine ThrowsWhen.bind fetchCredentials_throws fun credentials => ?_
      refine ThrowsWhen.bind (throwsWhen_await fun answer reached => ⟨(), reached⟩) fun _ => ?_
      refine ThrowsWhen.bind (throwsWhen_await fun answer reached => reached) fun cached => ?_
      cases cached <;> trivial

theorem groupAuthorization_throws {masterKeyBytes : Bytes} :
    ThrowsWhen (Reached (U := U)) (turnsDown · = false)
      (manager.groupAuthorization X D masterKeyBytes) := by
  unfold groupAuthorization
  cases GroupMasterKey.ofBytes? masterKeyBytes with
  | none => rfl
  | some key =>
      exact ThrowsWhen.bind (fun _ _ => trivial) fun now =>
        ThrowsWhen.bind credentialFor_throws fun _ => getAuthorizationString_throws

theorem credentialFor_calls {today todayPlus7Days : Nat} :
    Calls (LeavesAlone (U := U)) (manager.credentialFor X D today todayPlus7Days) := by
  refine CallsWhen.bind (calls_await trivial) fun cached => ?_
  cases cached with
  | some response => trivial
  | none =>
      exact CallsWhen.bind fetchCredentials_calls fun credentials =>
        CallsWhen.bind (calls_await trivial) fun _ =>
          CallsWhen.bind (calls_await trivial) fun cached => calls_ofOption _ _

theorem groupAuthorization_calls {masterKeyBytes : Bytes} :
    Calls (LeavesAlone (U := U)) (manager.groupAuthorization X D masterKeyBytes) := by
  unfold groupAuthorization
  cases GroupMasterKey.ofBytes? masterKeyBytes with
  | none => trivial
  | some key =>
      exact CallsWhen.bind ⟨trivial, fun _ _ => trivial⟩ fun now =>
        CallsWhen.bind credentialFor_calls fun _ =>
          calls_getAuthorizationString manager fun _ => trivial

theorem groupAuthorization_trace {masterKeyBytes : Bytes}
    {es : List (Event (ManagerCall U) ManagerAnswer)} {auth : HttpAuth}
    (trace : Trace (manager.groupAuthorization X D masterKeyBytes) es (.ret auth)) :
    manager.Presents D auth := by
  unfold groupAuthorization at trace
  cases sized : GroupMasterKey.ofBytes? masterKeyBytes with
  | none =>
      rw [sized] at trace
      cases (trace_done.mp trace).2
  | some key =>
      rw [sized] at trace
      obtain ⟨now, _, -, rest⟩ := trace_call.mp trace
      rw [ret_bind] at rest
      rcases trace_bind.mp rest with ⟨e, -, threw⟩ | ⟨m, -, panicked⟩ |
        ⟨response, _, _, -, -, made⟩
      · cases threw
      · cases panicked
      · obtain ⟨bytes, credential, randomness, received, opened, authorized⟩ :=
          getAuthorizationString_trace made
        exact ⟨response, _, bytes, credential, _, randomness, received, opened, authorized⟩

section Served

variable {Z : GroupExternals} {ops : GroupOperations} {W : GroupWire U} {server : GroupServer U}
  {hosted hosted' : HostedGroup}

theorem world_reached (serves : server.Serves D Z ops W manager) (c : ManagerCall U)
    (hosted : HostedGroup) (answer : ManagerAnswer c) (hosted' : HostedGroup)
    (answered : server.world c hosted answer hosted') : Reached c answer := by
  match c with
  | .http (.send request) =>
      rintro e rfl
      exact serves.unreachable _ _ _ _ answered
  | .http (.fillBytes _) => trivial
  | .http .now => trivial
  | .cacheGet _ => exact answered.1
  | .cacheWrite _ => exact answered.1

theorem world_kept (serves : server.Serves D Z ops W manager) (c : ManagerCall U)
    (hosted : HostedGroup) (answer : ManagerAnswer c) (hosted' : HostedGroup)
    (alone : LeavesAlone c) (answered : server.world c hosted answer hosted') :
    hosted' = hosted := by
  match c with
  | .http (.send request) => exact serves.reads _ _ _ _ alone answered
  | .http (.fillBytes _) => exact answered
  | .http .now => exact answered
  | .cacheGet _ => exact answered.2
  | .cacheWrite _ => exact answered.2

/-- An authorization is the manager's own, and takes nothing of the group to get. -/
theorem groupAuthorization_happens (serves : server.Serves D Z ops W manager)
    {masterKeyBytes : Bytes} {x : Exit ServiceError HttpAuth}
    (happens : Happens server.world (manager.groupAuthorization X D masterKeyBytes) hosted x
      hosted') :
    hosted' = hosted ∧ (∀ auth, x = .ret auth → server.presenter auth = manager.aci) ∧
      ∀ e, x = .throw e → turnsDown e = false := by
  refine ⟨groupAuthorization_calls.happens_kept (world_kept serves) happens, ?_, ?_⟩
  · rintro auth rfl
    obtain ⟨es, trace⟩ := happens.trace
    exact serves.presenter auth (groupAuthorization_trace trace)
  · rintro e rfl
    exact groupAuthorization_throws.happens (world_reached serves) happens

/-! ## Requests about the group -/

/-- What is told of a patch by the response to it. -/
def readPatch (X : Externals) (W : GroupWire U) (response : HttpResponse) :
    Exit ServiceError Proto.GroupChange := do
  let response ← Exit.ofExcept (PushService.patchGroupErrors X W response)
  let response ← response.baselineDecode X
  Exit.ofExcept (response.protobuf W.decodeGroupChange)

theorem readPatch_ok {response : HttpResponse} (status : response.status = 200) :
    readPatch X W response = .ofExcept (response.protobuf W.decodeGroupChange) := by
  have listed : PushService.patchGroupErrors X W response = .ok response := by
    simp only [PushService.patchGroupErrors, status]
  simp only [readPatch, listed, HttpResponse.baselineDecode_ok (.inl status), Exit.ofExcept_ok,
    Exit.bind_eq, Exit.ret_bind]

theorem readPatch_refused {response : HttpResponse}
    (status : response.status = 400 ∨ response.status = 403) :
    ∃ e, readPatch X W response = .throw e ∧ e ≠ .groupChangeConflict := by
  rcases status with status | status
  · refine ⟨PushService.groupChangeRejected X W response, ?_, ?_⟩
    · simp only [readPatch, PushService.patchGroupErrors, status]
      rfl
    · unfold PushService.groupChangeRejected
      cases read : response.text X with
      | ok body => exact nofun
      | error e =>
          rintro rfl
          cases text_turnsDown read
  · refine ⟨.groupChangeForbidden, ?_, nofun⟩
    simp only [readPatch, PushService.patchGroupErrors, status]
    rfl

theorem readPatch_conflict {response : HttpResponse} (status : response.status = 409) :
    readPatch X W response = .throw .groupChangeConflict := by
  simp only [readPatch, PushService.patchGroupErrors, status]
  rfl

theorem readPatch_undecided {response : HttpResponse} (undecided : Undecided (.ok response)) :
    (∀ change, readPatch X W response ≠ .ret change) ∧
      ∀ e, readPatch X W response = .throw e → turnsDown e = false := by
  have unlisted : PushService.patchGroupErrors X W response = .ok response := by
    unfold PushService.patchGroupErrors
    split
    case h_4 => rfl
    all_goals
      rename_i status
      simp [Undecided, status] at undecided
  simp only [readPatch, unlisted, Exit.ofExcept_ok, Exit.bind_eq, Exit.ret_bind]
  refine ⟨fun change ended => ?_, fun e threw => ?_⟩
  · obtain ⟨other, accepted, -⟩ := Exit.bind_eq_ret.mp ended
    obtain ⟨-, success⟩ := HttpResponse.baselineDecode_eq_ret accepted
    exact undecided (List.mem_append_left [400, 403, 409] success)
  · rcases Exit.bind_eq_throw.mp threw with failed | ⟨other, -, failed⟩
    · exact baselineDecode_turnsDown failed
    · exact protobuf_turnsDown (Exit.ofExcept_eq_throw.mp failed)

end Served

end GroupsManager

/-- What becomes of a patch, and what the one who made it is told. -/
inductive Outcome (Z : GroupExternals) (ops : GroupOperations) (source : Aci)
    (actions : Proto.Actions) (hosted : HostedGroup) :
    Exit ServiceError Proto.GroupChange → HostedGroup → Prop where
  | untouched {x : Exit ServiceError Proto.GroupChange} : (∀ change, x ≠ .ret change) →
      (x = .throw .groupChangeConflict →
        actions.version.toNat ≠ hosted.group.version.toNat + 1) →
      Outcome Z ops source actions hosted x hosted
  | applied {x : Exit ServiceError Proto.GroupChange} {hosted' : HostedGroup}
      {change : Proto.GroupChange} : Applied Z ops source actions hosted hosted' change →
      (∀ read, x = .ret read → read = change) → (∀ e, x = .throw e → turnsDown e = false) →
      Outcome Z ops source actions hosted x hosted'

namespace GroupsManager

variable {X : Externals} {D : ManagerExternals U} {manager : GroupsManager U}
  {Z : GroupExternals} {ops : GroupOperations} {W : GroupWire U} {server : GroupServer U}
  {hosted hosted' : HostedGroup}

theorem patched_outcome {source : Aci} {actions : Proto.Actions}
    {answer : Except ServiceError HttpResponse}
    (unreachable : ∀ e, answer = .error e → ∃ reason, e = .http reason)
    (patched : Patched Z ops W source actions hosted answer hosted') :
    Outcome Z ops source actions hosted ((Exit.ofExcept answer).bind (readPatch X W)) hosted' := by
  cases patched with
  | applied status applied reads =>
      rw [Exit.ofExcept_ok, Exit.ret_bind, readPatch_ok status]
      refine .applied applied (fun read ended => ?_) fun e threw => ?_
      · exact reads read (Exit.ofExcept_eq_ret.mp ended)
      · exact protobuf_turnsDown (Exit.ofExcept_eq_throw.mp threw)
  | refused status =>
      obtain ⟨e, threw, other⟩ := readPatch_refused (X := X) (W := W) status
      rw [Exit.ofExcept_ok, Exit.ret_bind, threw]
      exact .untouched nofun fun conflict => absurd (Exit.throw.inj conflict) other
  | conflict status stale =>
      rw [Exit.ofExcept_ok, Exit.ret_bind, readPatch_conflict status]
      exact .untouched nofun fun _ => stale
  | undecided undecided carried =>
      have never : (∀ change, (Exit.ofExcept answer).bind (readPatch X W) ≠ .ret change) ∧
          ∀ e, (Exit.ofExcept answer).bind (readPatch X W) = .throw e → turnsDown e = false := by
        cases answer with
        | ok response => exact readPatch_undecided undecided
        | error e =>
            obtain ⟨reason, rfl⟩ := unreachable e rfl
            refine ⟨nofun, fun e threw => ?_⟩
            cases threw
            rfl
      rcases carried with rfl | ⟨change, applied⟩
      · exact .untouched never.1 fun conflict => absurd (never.2 _ conflict) (by decide)
      · exact .applied applied (fun read ended => absurd ended (never.1 read)) never.2

theorem patchGroup_happens (serves : server.Serves D Z ops W manager) {masterKeyBytes : Bytes}
    {actions : Proto.Actions} {x : Exit ServiceError Proto.GroupChange}
    (happens : Happens server.world (manager.patchGroup X D W masterKeyBytes actions) hosted x
      hosted') : Outcome Z ops manager.aci actions hosted x hosted' := by
  have unsent {e : ServiceError} (fails : turnsDown e = false) :
      Outcome Z ops manager.aci actions hosted (.throw e) hosted := by
    refine .untouched nofun fun conflict => ?_
    cases conflict
    cases fails
  rcases happens_bind.mp happens with ⟨e, failed, rfl⟩ | ⟨m, failed, rfl⟩ |
    ⟨auth, after, authorized, rest⟩
  · obtain ⟨rfl, -, throws⟩ := groupAuthorization_happens serves failed
    exact unsent (throws e rfl)
  · obtain ⟨rfl, -, -⟩ := groupAuthorization_happens serves failed
    exact .untouched nofun nofun
  · obtain ⟨rfl, presents, -⟩ := groupAuthorization_happens serves authorized
    unfold PushService.patchGroup at rest
    cases built : manager.identifiedPushService.request W.toUrlParsers .patch
        (.storage "/v1/groups/") (.identified auth) with
    | error e =>
        rw [built] at rest
        obtain ⟨rfl, rfl⟩ := happens_done.mp rest
        exact unsent (request_turnsDown built)
    | ok builder =>
        rw [built] at rest
        cases made : builder.protobuf (W.encodeActions actions) with
        | none =>
            simp only [Prog.ofExcept, Exit.ofExcept_ok, bind_eq, ret_bind, made] at rest
            obtain ⟨rfl, rfl⟩ := happens_done.mp rest
            exact unsent rfl
        | some request =>
            simp only [Prog.ofExcept, Exit.ofExcept_ok, bind_eq, ret_bind, made] at rest
            obtain ⟨answer, m, answered, rest⟩ := happens_call.mp rest
            have patched := serves.patch _ _ _ _ _ _ _ built made answered
            rw [presents auth rfl] at patched
            simp only [Prog.ofExcept, Prog.ofExit, done_bind_done] at rest
            obtain ⟨rfl, rfl⟩ := happens_done.mp rest
            refine patched_outcome ?_ patched
            rintro e rfl
            exact serves.unreachable _ _ _ _ answered

theorem fetchEncryptedGroup_happens (serves : server.Serves D Z ops W manager)
    {masterKeyBytes : Bytes} {x : Exit ServiceError Proto.Group}
    (happens : Happens server.world (manager.fetchEncryptedGroup X D W masterKeyBytes) hosted x
      hosted') : hosted' = hosted ∧ ∀ group, x = .ret group → group = hosted.group := by
  rcases happens_bind.mp happens with ⟨e, failed, rfl⟩ | ⟨m, failed, rfl⟩ |
    ⟨auth, after, authorized, rest⟩
  · exact ⟨(groupAuthorization_happens serves failed).1, nofun⟩
  · exact ⟨(groupAuthorization_happens serves failed).1, nofun⟩
  · obtain ⟨rfl, -, -⟩ := groupAuthorization_happens serves authorized
    unfold PushService.getGroup at rest
    cases built : manager.identifiedPushService.request W.toUrlParsers .get
        (.storage "/v1/groups/") (.identified auth) with
    | error e =>
        rw [built] at rest
        obtain ⟨rfl, rfl⟩ := happens_done.mp rest
        exact ⟨rfl, nofun⟩
    | ok builder =>
        rw [built] at rest
        cases builder with
        | none =>
            obtain ⟨rfl, rfl⟩ := happens_done.mp rest
            exact ⟨rfl, nofun⟩
        | some request =>
            obtain ⟨answer, m, answered, after⟩ := happens_call.mp rest
            obtain ⟨rfl, current⟩ := serves.fetch _ _ _ _ _ built answered
            simp only [Prog.ofExcept, Prog.ofExit, bind_eq, done_bind_done] at after
            obtain ⟨rfl, rfl⟩ := happens_done.mp after
            refine ⟨rfl, fun group ended => ?_⟩
            obtain ⟨response, responded, rest⟩ := Exit.bind_eq_ret.mp ended
            obtain ⟨other, accepted, read⟩ := Exit.bind_eq_ret.mp rest
            obtain ⟨rfl, success⟩ := HttpResponse.baselineDecode_eq_ret accepted
            exact current _ (Exit.ofExcept_eq_ret.mp responded) success group
              (Exit.ofExcept_eq_ret.mp read)

end GroupsManager

end SignalService.Groups

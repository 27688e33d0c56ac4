import SignalService.Groups.Credentials
import SignalService.Groups.Server
import SignalService.Revision.Register

/-! # The members of a group

Any number of members fetch the group and patch it when they like, each with changes that are
built on the group it fetched last. What the server signed is a history that everyone with the
master key can read.
-/

namespace SignalService.Groups

open Effect Prog

variable {U : UrlSyntax} {P : Type}

/-- The group, and what each of its members fetched last. -/
structure Members (P : Type) where
  hosted : HostedGroup
  held : P → Option Proto.Group

/-- A patch that a member made, what it was built on, and what the member was told. -/
structure Patch (P : Type) where
  member : P
  base : Proto.Group
  plan : Plan
  result : Exit ServiceError Proto.GroupChange

namespace Patch

def confirmed (patch : Patch P) : Bool :=
  match patch.result with
  | .ret _ => true
  | _ => false

def turnedDown (patch : Patch P) : Bool :=
  match patch.result with
  | .throw e => turnsDown e
  | _ => false

end Patch

/-- What a member did. -/
inductive Deed (P : Type) where
  | fetched (member : P) (result : Exit ServiceError Proto.Group)
  | patched (patch : Patch P)

def patches : List (Deed P) → List (Patch P)
  | [] => []
  | .fetched _ _ :: deeds => patches deeds
  | .patched patch :: deeds => patch :: patches deeds

namespace Members

variable [DecidableEq P] (X : Externals) (D : ManagerExternals U) (W : GroupWire U)
  (Z : ContextExternals) (masterKey : GroupMasterKey) (server : GroupServer U)
  (managers : P → GroupsManager U)

def operations : GroupOperations := ⟨Z.deriveFromMasterKey masterKey⟩

def learn (members : Members P) (hosted : HostedGroup) (member : P) :
    Exit ServiceError Proto.Group → Members P
  | .ret group => ⟨hosted, Function.update members.held member (some group)⟩
  | _ => ⟨hosted, members.held⟩

inductive Step : Members P → Deed P → Members P → Prop where
  | fetch {members : Members P} {member : P} {x : Exit ServiceError Proto.Group}
      {hosted' : HostedGroup} :
      Happens server.world ((managers member).fetchEncryptedGroup X D W masterKey.bytes)
        members.hosted x hosted' →
      Step members (.fetched member x) (members.learn hosted' member x)
  | patch {members : Members P} {patch : Patch P} {actions : Proto.Actions}
      {hosted' : HostedGroup} :
      members.held patch.member = some patch.base →
      patch.plan.version.toNat = patch.base.version.toNat + 1 →
      patch.plan.actions Z.toGroupExternals (operations Z masterKey) = .ok actions →
      Happens server.world ((managers patch.member).patchGroup X D W masterKey.bytes actions)
        members.hosted patch.result hosted' →
      Step members (.patched patch) ⟨hosted', members.held⟩

inductive Run : Members P → List (Deed P) → Members P → Prop where
  | nil (members : Members P) : Run members [] members
  | cons {members after members' : Members P} {deed : Deed P} {deeds : List (Deed P)} :
      Step X D W Z masterKey server managers members deed after → Run after deeds members' →
      Run members (deed :: deeds) members'

/-- A patch that was carried out: the group that came of it, and the change as it was signed. -/
structure Accepted (P : Type) where
  patch : Patch P
  next : Proto.Group
  change : Proto.GroupChange

/-- Whoever receives the change next to the master key reads from it who patched what. -/
structure Accepted.Reads (accepted : Accepted P) : Prop where
  context : ∀ bytes, Z.decodeGroupChange bytes = some accepted.change →
    decryptGroupContext Z ⟨some masterKey.bytes, some bytes⟩ = .ok (some
      ⟨Z.getGroupIdentifier (Z.deriveFromMasterKey masterKey),
        (managers accepted.patch.member).aci, accepted.patch.plan.version,
        accepted.patch.plan.changes Z.toGroupExternals, accepted.change.changeEpoch⟩)
  told : ∀ change, accepted.patch.result = .ret change → change = accepted.change

end Members

def Proto.Group.revision (group : Proto.Group) : Nat := group.version.toNat

namespace Members

variable {X : Externals} {D : ManagerExternals U} {W : GroupWire U} {Z : ContextExternals}
  {masterKey : GroupMasterKey} {server : GroupServer U} {managers : P → GroupsManager U}
  {members members' : Members P}

def register (members : Members P) : Revision.Register P Proto.Group :=
  ⟨members.hosted.group, members.held⟩

/-- The changes that some deeds brought about. -/
structure History (Z : ContextExternals) (masterKey : GroupMasterKey) (managers : P → GroupsManager U)
    (members : Members P) (deeds : List (Deed P)) (members' : Members P)
    (accepted : List (Accepted P)) : Prop where
  recorded : members'.hosted.changes = (accepted.map Accepted.change).reverse ++ members.hosted.changes
  reads : ∀ each ∈ accepted, each.Reads Z masterKey managers
  confirmed : ((patches deeds).filter Patch.confirmed).Sublist (accepted.map Accepted.patch)
  refused : (accepted.map Accepted.patch).Sublist
    ((patches deeds).filter fun patch => !patch.turnedDown)

theorem History.append {after : Members P} {deeds deeds' : List (Deed P)}
    {accepted accepted' : List (Accepted P)}
    (first : History Z masterKey managers members deeds after accepted)
    (second : History Z masterKey managers after deeds' members' accepted') :
    History Z masterKey managers members (deeds ++ deeds') members' (accepted ++ accepted') := by
  have split (deeds : List (Deed P)) :
      patches (deeds ++ deeds') = patches deeds ++ patches deeds' := by
    induction deeds with
    | nil => rfl
    | cons deed deeds ih => cases deed <;> simp [patches, ih]
  refine ⟨?_, ?_, ?_, ?_⟩
  · rw [second.recorded, first.recorded, List.map_append, List.reverse_append, List.append_assoc]
  · intro each member
    rcases List.mem_append.mp member with early | late
    · exact first.reads each early
    · exact second.reads each late
  · rw [split, List.filter_append, List.map_append]
    exact first.confirmed.append second.confirmed
  · rw [split, List.filter_append, List.map_append]
    exact first.refused.append second.refused

/-- A change that was signed for actions of a plan reads as the plan. -/
theorem decryptGroupContext_signed (lawful : Z.toGroupExternals.Lawful) {source : Aci} {plan : Plan}
    {actions : Proto.Actions} {hosted hosted' : HostedGroup} {change : Proto.GroupChange}
    (built : plan.actions Z.toGroupExternals (operations Z masterKey) = .ok actions)
    (applied : Applied Z.toGroupExternals (operations Z masterKey) source actions hosted hosted'
      change) {bytes : Bytes} (decoded : Z.decodeGroupChange bytes = some change) :
    actions.version = plan.version ∧
      decryptGroupContext Z ⟨some masterKey.bytes, some bytes⟩ = .ok (some
        ⟨Z.getGroupIdentifier (Z.deriveFromMasterKey masterKey), source, plan.version,
          plan.changes Z.toGroupExternals, change.changeEpoch⟩) := by
  obtain ⟨_, same, version, reads⟩ := decryptActions_plan (operations Z masterKey) lawful plan
  obtain rfl := Except.ok.inj (same.symm.trans built)
  refine ⟨version, ?_⟩
  obtain ⟨stamped, stamps, signed⟩ := applied.signed
  cases stamps
  have sized : GroupMasterKey.ofBytes? masterKey.bytes = some masterKey := by
    simp [GroupMasterKey.ofBytes?, masterKey.size]
  have groupId : GroupIdentifier.ofBytes?
      (Z.getGroupIdentifier (operations Z masterKey).groupSecretParams).bytes =
        some (Z.getGroupIdentifier (operations Z masterKey).groupSecretParams) := by
    simp [GroupIdentifier.ofBytes?,
      (Z.getGroupIdentifier (operations Z masterKey).groupSecretParams).size]
  have opened : GroupOperations.decryptGroupChange Z.toGroupExternals (operations Z masterKey)
      change = .ok ⟨Z.getGroupIdentifier (Z.deriveFromMasterKey masterKey), source, plan.version,
        plan.changes Z.toGroupExternals, change.changeEpoch⟩ := by
    unfold GroupOperations.decryptGroupChange
    rw [signed, ← version]
    simp only [GroupOperations.decryptAci_encrypt (operations Z masterKey) lawful, groupId, reads,
      collect_ok]
    rfl
  simp only [decryptGroupContext, decryptChangeUnder, sized, decoded]
  exact congrArg (Except.map some) opened

/-- What one deed does to the group, to what is held of it, and to the history. -/
structure Steps [DecidableEq P] (Z : ContextExternals) (masterKey : GroupMasterKey)
    (managers : P → GroupsManager U) (members : Members P) (deed : Deed P) (members' : Members P)
    (accepted : List (Accepted P)) (events : List (Revision.Event P Proto.Group)) : Prop where
  history : History Z masterKey managers members [deed] members' accepted
  run : Revision.Run Proto.Group.revision members.register events members'.register
  links : Revision.taken events = accepted.map fun each => (each.patch.base, each.next)
  stale : ∀ patch ∈ patches [deed], patch.result = .throw .groupChangeConflict →
    patch.base.revision < members.hosted.group.revision

variable [DecidableEq P]

theorem step_steps (lawful : Z.toGroupExternals.Lawful)
    (serves : ∀ member, server.Serves D Z.toGroupExternals (operations Z masterKey) W
      (managers member)) (seen : Revision.Seen Proto.Group.revision members.register)
    {deed : Deed P} (step : Step X D W Z masterKey server managers members deed members') :
    ∃ accepted events, Steps Z masterKey managers members deed members' accepted events := by
  cases step with
  | @fetch member x hosted' happens =>
      obtain ⟨rfl, current⟩ := GroupsManager.fetchEncryptedGroup_happens (serves member) happens
      have unchanged : History Z masterKey managers members [.fetched member x]
          (members.learn members.hosted member x) [] := by
        refine ⟨?_, by simp, List.Sublist.refl _, List.Sublist.refl _⟩
        cases x <;> rfl
      cases x with
      | ret group =>
          obtain rfl := current group rfl
          exact ⟨[], [.look member], unchanged, .single (.look _ member), rfl, by simp [patches]⟩
      | throw e => exact ⟨[], [], unchanged, .nil _, rfl, by simp [patches]⟩
      | panic m => exact ⟨[], [], unchanged, .nil _, rfl, by simp [patches]⟩
  | @patch patch actions hosted' holds next built happens =>
      obtain ⟨_, same, version, -⟩ := decryptActions_plan (operations Z masterKey) lawful patch.plan
      obtain rfl := Except.ok.inj (same.symm.trans built)
      have outcome := GroupsManager.patchGroup_happens (serves patch.member) happens
      obtain ⟨result, told⟩ : ∃ x, patch.result = x := ⟨_, rfl⟩
      rw [told] at outcome
      cases outcome with
      | untouched unanswered stale =>
          refine ⟨[], [], ⟨rfl, by simp, ?_, List.nil_sublist _⟩, .nil _, rfl, ?_⟩
          · have unconfirmed : patch.confirmed = false := by
              unfold Patch.confirmed
              rw [told]
              cases result with
              | ret change => exact absurd rfl (unanswered change)
              | throw e => rfl
              | panic m => rfl
            simp [patches, unconfirmed]
          · intro other member conflict
            obtain rfl := List.mem_singleton.mp member
            have behind := stale (told.symm.trans conflict)
            rcases seen _ _ holds with current | older
            · rw [version, next, current] at behind
              exact absurd rfl behind
            · exact older
      | @applied _ change applied reads throws =>
          have builds : Revision.Builds Proto.Group.revision members.register patch.member patch.base
              hosted'.group := by
            refine ⟨holds, ?_⟩
            rw [Proto.Group.revision, applied.version, version]
            exact next
          have follows : hosted'.group.revision = members.hosted.group.revision + 1 := by
            rw [Proto.Group.revision, applied.version]
            exact applied.follows
          have taken : patch.turnedDown = false := by
            unfold Patch.turnedDown
            rw [told]
            cases result with
            | ret change => rfl
            | throw e => exact throws e rfl
            | panic m => rfl
          refine ⟨[⟨patch, hosted'.group, change⟩],
            [.take patch.member patch.base hosted'.group false], ⟨applied.recorded, ?_, ?_, ?_⟩, .single (.untold builds follows), rfl, ?_⟩
          · intro each member
            obtain rfl := List.mem_singleton.mp member
            refine ⟨fun bytes decoded => ?_, fun read ended => reads read (told.symm.trans ended)⟩
            exact (decryptGroupContext_signed lawful built applied decoded).2
          · exact List.filter_sublist
          · simp [patches, taken]
          · intro other member conflict
            obtain rfl := List.mem_singleton.mp member
            have refusal := throws _ (told.symm.trans conflict)
            cases refusal

theorem run_steps (lawful : Z.toGroupExternals.Lawful)
    (serves : ∀ member, server.Serves D Z.toGroupExternals (operations Z masterKey) W
      (managers member)) (seen : Revision.Seen Proto.Group.revision members.register)
    {deeds : List (Deed P)} (run : Run X D W Z masterKey server managers members deeds members') :
    ∃ accepted events, History Z masterKey managers members deeds members' accepted ∧
      Revision.Run Proto.Group.revision members.register events members'.register ∧
      Revision.taken events = accepted.map (fun each => (each.patch.base, each.next)) ∧
      ∀ patch ∈ patches deeds, patch.result = .throw .groupChangeConflict →
        patch.base.revision < members'.hosted.group.revision := by
  induction run with
  | nil members =>
      exact ⟨[], [], ⟨rfl, by simp, List.Sublist.refl _, List.Sublist.refl _⟩, .nil _, rfl,
        by simp [patches]⟩
  | @cons members after members' deed deeds step _ ih =>
      obtain ⟨accepted, events, steps⟩ := step_steps lawful serves seen step
      obtain ⟨accepted', events', history, run, links, stale⟩ := ih (seen.run steps.run)
      refine ⟨accepted ++ accepted', events ++ events', steps.history.append history,
        steps.run.append run, ?_, ?_⟩
      · rw [Revision.taken_append, steps.links, links, List.map_append]
      · have later : members.hosted.group.revision ≤ members'.hosted.group.revision :=
          (steps.run.append run).revision_eq ▸ Nat.le_add_right _ _
        intro patch member conflict
        have split : patches (deed :: deeds) = patches [deed] ++ patches deeds := by
          cases deed <;> rfl
        rw [split] at member
        rcases List.mem_append.mp member with first | rest
        · exact (steps.stale patch first conflict).trans_le later
        · exact stale patch rest conflict

/-- Whatever the members do, and whatever is lost of the answers: each change that the server
    signed was built on the group that it replaced, and reads as what its member asked for; the
    changes are in the order of the patches, all that were confirmed are among them and none that
    were turned down, and who is told of a conflict patched a group that had gone on. -/
theorem signed_changes_link (lawful : Z.toGroupExternals.Lawful)
    (serves : ∀ member, server.Serves D Z.toGroupExternals (operations Z masterKey) W
      (managers member)) {group : Proto.Group} {deeds : List (Deed P)}
    (run : Run X D W Z masterKey server managers ⟨⟨group, []⟩, fun _ => none⟩ deeds members') :
    ∃ accepted, History Z masterKey managers ⟨⟨group, []⟩, fun _ => none⟩ deeds members' accepted ∧
      Revision.Linked group (accepted.map fun each => (each.patch.base, each.next))
        members'.hosted.group ∧
      members'.hosted.group.revision = group.revision + members'.hosted.changes.length ∧
      ∀ patch ∈ patches deeds, patch.result = .throw .groupChangeConflict →
        patch.base.revision < members'.hosted.group.revision := by
  have seen : Revision.Seen Proto.Group.revision
      (register (⟨⟨group, []⟩, fun _ => none⟩ : Members P)) := nofun
  obtain ⟨accepted, events, history, ran, links, stale⟩ := run_steps lawful serves seen run
  refine ⟨accepted, history, links ▸ seen.linked ran, ?_, stale⟩
  have counted : members'.hosted.group.revision =
      group.revision + (Revision.taken events).length := ran.revision_eq
  rw [links] at counted
  rw [history.recorded]
  simpa using counted

end Members

/-! ## An instance

Two members of the first group fetch it at version 2 and remove the same member. -/

namespace Sample

open SignalService.Sample (plainUrls cdnService cdnExternals zeros)

/-- The two accounts are told apart. -/
@[irreducible] def hexText (bytes : Bytes) : String :=
  if bytes = sealId (.aci editorAci) then "first" else "second"

def memberExternals : ManagerExternals plainUrls where
  toUrlParsers := cdnExternals.toUrlParsers
  jsonCredentialResponse _ := none
  base64Relaxed _ := none
  hex := hexText
  newAuthCredentialResponse bytes := some ⟨bytes⟩
  receive _ _ aci _ _ := some (sealId (.aci aci))
  newAuthCredential bytes := some ⟨bytes⟩
  present credential _ _ _ := credential.serialized
  deriveFromMasterKey key := ⟨key.bytes⟩
  serializePublicParams params := some params.serialized

def secondAci : Aci := ⟨⟨0x7c9e6679742540de944be07fc1f90ae7⟩⟩

def memberManagers (first : Bool) : GroupsManager plainUrls :=
  ⟨if first then editorAci else secondAci, ⟨⟨7⟩⟩, cdnService, ⟨[]⟩⟩

def groupAt (version : UInt32) : Proto.Group :=
  ⟨[], [], [], "", [], none, version, [], [], [], [], false, [], false⟩

def askedActions : Proto.Actions := { removalActions with sourceUserId := [], groupId := [] }

def groupContext : ContextExternals where
  toGroupExternals := groupExternals
  deriveFromMasterKey key := ⟨key.bytes⟩
  decodeGroupChange := contextExternals.decodeGroupChange

def groupWire : GroupWire plainUrls where
  toUrlParsers := cdnExternals.toUrlParsers
  encodeGroup _ := []
  decodeGroup bytes := if bytes = [1] then some (groupAt 2) else none
  encodeActions actions := if actions = askedActions then [1] else [2]
  decodeGroupChange := contextExternals.decodeGroupChange
  jsonGroupChangeRejection _ := none

def presenter (auth : HttpAuth) : Aci := if auth.password = "first" then editorAci else secondAci

/-- Any server that keeps to what is said of it. -/
def anyGroupServer : GroupServer plainUrls where
  presenter := presenter
  handle http hosted answer hosted' :=
    (∀ e, answer = .error e → ∃ reason, e = .http reason) ∧
    (http.method = .get → Fetched groupWire hosted answer hosted') ∧
    ∀ auth actions, http.method = .patch → http.basicAuth = some auth →
      http.body = some (groupWire.encodeActions actions) →
      Patched groupExternals (Members.operations groupContext firstKey) groupWire
        (presenter auth) actions hosted answer hosted'

def memberAuth (first : Bool) : HttpAuth :=
  ⟨hexText firstKey.bytes, hexText (sealId (.aci (memberManagers first).aci))⟩

theorem presenter_hexText (name : String) (first : Bool) :
    presenter ⟨name, hexText (sealId (.aci (memberManagers first).aci))⟩ =
      (memberManagers first).aci := by
  cases first with
  | true => simp [presenter, hexText, memberManagers]
  | false =>
      have other : sealId (.aci secondAci) ≠ sealId (.aci editorAci) := by decide
      simp [presenter, hexText, memberManagers, other]

theorem anyGroupServer_serves (first : Bool) :
    anyGroupServer.Serves memberExternals groupExternals (Members.operations groupContext firstKey)
      groupWire (memberManagers first) where
  presenter := by
    rintro auth ⟨response, today, bytes, credential, params, randomness, received, made, authorized⟩
    cases received
    cases made
    simp only [GroupsManager.authorize, memberExternals, Except.ok.injEq] at authorized
    subst authorized
    simp only [anyGroupServer, presenter_hexText]
  unreachable _ _ _ _ handled := handled.1 _ rfl
  reads _ _ _ _ get handled := (handled.2.1 get).kept
  fetch auth http hosted answer hosted' built handled := handled.2.1 (request_method built)
  patch auth actions builder http hosted answer hosted' built made handled := by
    cases built
    rw [RequestBuilder.protobuf_some] at made
    cases made
    exact handled.2.2 auth actions rfl rfl rfl

theorem authorized_happens (first : Bool) (hosted : HostedGroup) :
    Happens anyGroupServer.world
      ((memberManagers first).groupAuthorization reference memberExternals firstKey.bytes) hosted
      (.ret (memberAuth first)) hosted := by
  refine .call (c := ManagerCall.http .now) (r := (0 : Nat)) (m := hosted) rfl ?_
  refine .call (c := ManagerCall.cacheGet 0) (r := .ok (some ⟨[0]⟩)) (m := hosted)
    ⟨⟨_, rfl⟩, rfl⟩ ?_
  exact .call (c := ManagerCall.http (.fillBytes 32)) (r := zeros 32) rfl (.done _ _)

theorem fetch_happens (first : Bool) :
    Happens anyGroupServer.world
      ((memberManagers first).fetchEncryptedGroup reference memberExternals groupWire firstKey.bytes)
      ⟨groupAt 2, []⟩ (.ret (groupAt 2)) ⟨groupAt 2, []⟩ := by
  refine (authorized_happens first _).bind ?_
  refine .call (r := .ok ⟨200, [], some [1]⟩) (m := ⟨groupAt 2, []⟩) ?_ (.done _ _)
  refine ⟨nofun, fun _ => ⟨rfl, ?_⟩, fun _ _ patch => nomatch patch⟩
  rintro response ⟨⟩ - group read
  cases read
  rfl

def removed : HostedGroup := ⟨groupAt 3, [removalChange]⟩

def removedBy (first : Bool) (result : Exit ServiceError Proto.GroupChange) : Patch Bool :=
  ⟨first, groupAt 2, removalPlan, result⟩

def removals : List (Deed Bool) :=
  [.fetched true (.ret (groupAt 2)), .fetched false (.ret (groupAt 2)),
    .patched (removedBy true (.ret removalChange)),
    .patched (removedBy false (.throw .groupChangeConflict))]

theorem askedActions_of_body {actions : Proto.Actions}
    (body : some [1] = some (groupWire.encodeActions actions)) : actions = askedActions := by
  by_contra other
  simp [groupWire, other] at body

theorem removalChange_body :
    (⟨200, [], some removalChangeBytes⟩ : HttpResponse).protobuf groupWire.decodeGroupChange =
      .ok removalChange := by
  have decoded : groupWire.decodeGroupChange removalChangeBytes = some removalChange := by
    simp only [groupWire, contextExternals, if_true]
  simp only [HttpResponse.protobuf, HttpResponse.bytes, Bind.bind, Except.bind, decoded]
  rfl

theorem removal_happens :
    Happens anyGroupServer.world ((memberManagers true).patchGroup reference memberExternals
      groupWire firstKey.bytes askedActions) ⟨groupAt 2, []⟩ (.ret removalChange) removed := by
  refine (authorized_happens true _).bind ?_
  refine .call (r := .ok ⟨200, [], some removalChangeBytes⟩) (m := removed) ?_ ?_
  · refine ⟨nofun, nofun, fun auth actions _ authorized body => ?_⟩
    obtain rfl := askedActions_of_body body
    cases authorized
    have stamps : (Members.operations groupContext firstKey).stamp groupExternals
        (presenter (memberAuth true)) askedActions = .ok removalActions := by
      rw [memberAuth, presenter_hexText]
      rfl
    refine .applied rfl ⟨rfl, rfl, rfl, _, stamps, removalChange_decoded⟩ fun read ended => ?_
    exact (Except.ok.inj (removalChange_body.symm.trans ended)).symm
  · exact happens_done.mpr ⟨(congrArg Exit.ofExcept removalChange_body).symm, rfl⟩

theorem conflict_happens :
    Happens anyGroupServer.world ((memberManagers false).patchGroup reference memberExternals
      groupWire firstKey.bytes askedActions) removed (.throw .groupChangeConflict) removed := by
  refine (authorized_happens false _).bind ?_
  refine .call (r := .ok ⟨409, [], some []⟩) (m := removed) ?_ (.done _ _)
  refine ⟨nofun, nofun, fun auth actions _ authorized body => ?_⟩
  obtain rfl := askedActions_of_body body
  exact .conflict rfl (by decide)

theorem removals_run :
    Members.Run reference memberExternals groupWire groupContext firstKey anyGroupServer
      memberManagers ⟨⟨groupAt 2, []⟩, fun _ => none⟩ removals
      ⟨removed, Function.update (Function.update (fun _ => none) true (some (groupAt 2))) false
        (some (groupAt 2))⟩ := by
  refine .cons (.fetch (fetch_happens true)) (.cons (.fetch (fetch_happens false)) ?_)
  have built : removalPlan.actions groupExternals (Members.operations groupContext firstKey) =
      .ok askedActions := rfl
  refine .cons (.patch ?_ rfl built removal_happens) ?_
  · rfl
  refine .cons (.patch ?_ rfl built conflict_happens) (.nil _)
  rfl

end Sample

open Groups.Sample in
/-- Two members remove the same third one. One of them is told of a conflict, and there is one
    change that was signed. -/
theorem removal_signed_once :
    ∃ accepted : List (Members.Accepted Bool),
      Members.History groupContext firstKey memberManagers ⟨⟨groupAt 2, []⟩, fun _ => none⟩ removals
        ⟨removed, Function.update (Function.update (fun _ => none) true (some (groupAt 2))) false
          (some (groupAt 2))⟩ accepted ∧
      Revision.Linked (groupAt 2) (accepted.map fun each => (each.patch.base, each.next))
        (groupAt 3) ∧
      (groupAt 3).revision = (groupAt 2).revision + 1 ∧
      (groupAt 2).revision < (groupAt 3).revision := by
  obtain ⟨accepted, history, linked, counted, stale⟩ :=
    Members.signed_changes_link groupExternals_lawful anyGroupServer_serves removals_run
  refine ⟨accepted, history, linked, counted, ?_⟩
  exact stale (removedBy false (.throw .groupChangeConflict)) (by simp [removals, patches]) rfl

end SignalService.Groups

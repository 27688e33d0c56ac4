import SignalService.Groups.RoundTrip

/-! # New groups

`encrypt_group_with_credentials` writes a group from its attributes and a list of
candidates, and `decrypt_group` reads it. The creator comes first, as administrator;
candidates with a credential become members and the others are invited.
-/

namespace SignalService.Groups

/-! ## Groups -/

structure AccessControl where
  attributes : AccessRequired
  members : AccessRequired
  addFromInviteLink : AccessRequired
  memberLabel : AccessRequired
  deriving DecidableEq

structure Group where
  title : String
  avatar : String
  disappearingMessagesTimer : Option Timer
  accessControl : Option AccessControl
  version : UInt32
  members : List Member
  membersPendingProfileKey : List PendingMember
  membersPendingAdminApproval : List RequestingMember
  inviteLinkPassword : Bytes
  descriptionText : Option String
  announcementsOnly : Bool
  membersBanned : List BannedMember
  terminated : Bool
  deriving DecidableEq

/-- With a credential a candidate is added with a presentation, without one as pending. -/
structure GroupMemberCandidate where
  serviceId : ServiceId
  credential : Option ExpiringProfileKeyCredential
  deriving DecidableEq

namespace Proto

structure AccessControl where
  attributes : Int32
  members : Int32
  addFromInviteLink : Int32
  memberLabel : Int32
  deriving DecidableEq

structure Group where
  publicKey : Bytes
  title : Bytes
  description : Bytes
  avatarUrl : String
  disappearingMessagesTimer : Bytes
  accessControl : Option AccessControl
  version : UInt32
  members : List Member
  membersPendingProfileKey : List MemberPendingProfileKey
  membersPendingAdminApproval : List MemberPendingAdminApproval
  inviteLinkPassword : Bytes
  announcementsOnly : Bool
  membersBanned : List MemberBanned
  terminated : Bool
  deriving DecidableEq

end Proto

namespace AccessControl

def toProto (access : AccessControl) : Proto.AccessControl :=
  ⟨access.attributes.toInt32, access.members.toInt32, access.addFromInviteLink.toInt32,
    access.memberLabel.toInt32⟩

def ofProto (value : Proto.AccessControl) : Except GroupDecodingError AccessControl := do
  return {
    attributes := ← AccessRequired.ofInt32 value.attributes
    members := ← AccessRequired.ofInt32 value.members
    addFromInviteLink := ← AccessRequired.ofInt32 value.addFromInviteLink
    memberLabel := ← AccessRequired.ofInt32 value.memberLabel }

@[simp] theorem ofProto_toProto (access : AccessControl) : ofProto access.toProto = .ok access := by
  simp only [ofProto, toProto, AccessRequired.ofInt32_toInt32]
  rfl

end AccessControl

/-! ## Reading a group -/

namespace GroupOperations

variable (Z : GroupExternals) (ops : GroupOperations)

def decryptGroup (group : Proto.Group) : Except GroupDecodingError Group := do
  let members ← collect (group.members.map (ops.decryptMember Z))
  let membersPendingProfileKey ←
    collect (group.membersPendingProfileKey.map (ops.decryptPendingMember Z))
  let membersPendingAdminApproval ←
    collect (group.membersPendingAdminApproval.map (ops.decryptRequestingMember Z))
  let membersBanned ← collect (group.membersBanned.map (ops.decryptBannedMember Z))
  let accessControl ← group.accessControl.mapM AccessControl.ofProto
  return {
    title := ops.decryptTitle Z group.title
    avatar := group.avatarUrl
    disappearingMessagesTimer :=
      ops.decryptDisappearingMessagesTimer Z group.disappearingMessagesTimer
    accessControl
    version := group.version
    members
    membersPendingProfileKey
    membersPendingAdminApproval
    inviteLinkPassword := group.inviteLinkPassword
    descriptionText := ops.decryptDescriptionText Z group.description
    announcementsOnly := group.announcementsOnly
    membersBanned
    terminated := group.terminated }

end GroupOperations

/-! ## Writing one -/

/-- The arguments of `encrypt_group_with_credentials`. -/
structure NewGroup where
  title : String
  description : Option String
  disappearingMessagesTimer : Option Timer
  accessControl : Option AccessControl
  selfCredential : ExpiringProfileKeyCredential
  memberCandidates : List GroupMemberCandidate
  serverPublicParams : ServerPublicParams
  avatarUrl : String

/-- The draws: one for each presentation, in order, and one for each attribute blob. -/
structure CreationRandomness where
  presentation : Nat → Bytes
  title : Bytes
  description : Bytes
  timer : Bytes

/-- The two lists the candidates are added to. -/
structure Roster where
  members : List Proto.Member
  membersPendingProfileKey : List Proto.MemberPendingProfileKey

structure CreationExternals extends GroupExternals where
  /-- The group's public parameters, serialized. -/
  getPublicParams : GroupSecretParams → Bytes

/-- The server takes the id and the profile key from the presentation. -/
def presentedMember (presentation : Bytes) (role : Role) : Proto.Member where
  userId := []
  profileKey := []
  presentation := presentation
  role := role.toInt32
  joinedAtVersion := 0
  labelEmoji := []
  labelString := []

namespace GroupOperations

section Writing

variable (Z : GroupExternals) (ops : GroupOperations)

/-- One turn of the loop over the candidates. Each member takes one draw, so the next draw
    is numbered by the members there are. -/
def addCandidate (new : NewGroup) (randomness : CreationRandomness) (roster : Roster)
    (candidate : GroupMemberCandidate) : Except GroupDecodingError Roster :=
  if candidate.serviceId = .aci new.selfCredential.aci then .ok roster
  else
    match candidate.credential with
    | some credential =>
        let presentation := ops.createMemberPresentation Z new.serverPublicParams
          (randomness.presentation roster.members.length) credential
        .ok { roster with members := roster.members ++ [presentedMember presentation .default] }
    | none => do
        let userId ← ops.encryptServiceId Z candidate.serviceId
        let addedByUserId ← ops.encryptAci Z new.selfCredential.aci
        let invited : Proto.Member :=
          { userId, profileKey := [], presentation := [], role := Role.default.toInt32,
            joinedAtVersion := 0, labelEmoji := [], labelString := [] }
        return { roster with
          membersPendingProfileKey :=
            roster.membersPendingProfileKey ++ [⟨some invited, addedByUserId, 0⟩] }

def selfRoster (new : NewGroup) (randomness : CreationRandomness) : Roster :=
  ⟨[presentedMember (ops.createMemberPresentation Z new.serverPublicParams
    (randomness.presentation 0) new.selfCredential) .administrator], []⟩

/-- Self first, then the candidates. -/
def addMembers (new : NewGroup) (randomness : CreationRandomness) :
    Except GroupDecodingError Roster :=
  new.memberCandidates.foldlM (ops.addCandidate Z new randomness) (ops.selfRoster Z new randomness)

end Writing

/-- The message around the two lists. Description and timer are left out when unset. -/
def writeGroup (Z : CreationExternals) (ops : GroupOperations) (new : NewGroup)
    (randomness : CreationRandomness) (roster : Roster) : Proto.Group where
  publicKey := Z.getPublicParams ops.groupSecretParams
  title := ops.encryptTitle Z.toGroupExternals new.title randomness.title
  avatarUrl := new.avatarUrl
  disappearingMessagesTimer := (new.disappearingMessagesTimer.map fun timer =>
    ops.encryptDisappearingMessagesTimer Z.toGroupExternals timer randomness.timer).getD []
  accessControl := new.accessControl.map AccessControl.toProto
  version := 0
  members := roster.members
  membersPendingProfileKey := roster.membersPendingProfileKey
  membersPendingAdminApproval := []
  inviteLinkPassword := []
  description := (new.description.map fun description =>
    ops.encryptDescription Z.toGroupExternals description randomness.description).getD []
  announcementsOnly := false
  membersBanned := []
  terminated := false

def encryptGroupWithCredentials (Z : CreationExternals) (ops : GroupOperations) (new : NewGroup)
    (randomness : CreationRandomness) : Except GroupDecodingError Proto.Group := do
  let roster ← ops.addMembers Z.toGroupExternals new randomness
  return ops.writeGroup Z new randomness roster

end GroupOperations

/-! ## What a new group holds -/

/-- A candidate with a credential, unless it is the creator. -/
def GroupMemberCandidate.member? (creator : Aci) (candidate : GroupMemberCandidate) :
    Option Member :=
  if candidate.serviceId = .aci creator then none
  else candidate.credential.map fun credential =>
    ⟨credential.aci, .default, credential.profileKey, 0, none, none⟩

/-- A candidate without one, unless it is the creator. -/
def GroupMemberCandidate.pendingMember? (creator : Aci) (candidate : GroupMemberCandidate) :
    Option PendingMember :=
  if candidate.serviceId = .aci creator then none
  else if candidate.credential.isSome then none
  else some ⟨candidate.serviceId, .default, creator, 0⟩

namespace NewGroup

variable (new : NewGroup)

def creator : Member :=
  ⟨new.selfCredential.aci, .administrator, new.selfCredential.profileKey, 0, none, none⟩

def members : List Member :=
  new.creator :: new.memberCandidates.filterMap (·.member? new.selfCredential.aci)

def pendingMembers : List PendingMember :=
  new.memberCandidates.filterMap (·.pendingMember? new.selfCredential.aci)

end NewGroup

/-! ## A new group read back -/

section Reading

variable {Z : GroupExternals} (ops : GroupOperations)

/-- The two lists decrypt to these members and pending members. -/
structure Roster.Reads (Z : GroupExternals) (ops : GroupOperations) (roster : Roster)
    (members : List Member) (pending : List PendingMember) : Prop where
  members : List.Forall₂ (fun m member => ops.decryptMember Z m = .ok member) roster.members members
  pending : List.Forall₂ (fun m member => ops.decryptPendingMember Z m = .ok member)
    roster.membersPendingProfileKey pending

variable (lawful : Z.Lawful)

include lawful

theorem decryptMember_presented (server : ServerPublicParams) (randomness : Bytes)
    (credential : ExpiringProfileKeyCredential) (role : Role) :
    ops.decryptMember Z
        (presentedMember (ops.createMemberPresentation Z server randomness credential) role) =
      .ok ⟨credential.aci, role, credential.profileKey, 0, none, none⟩ := by
  simp only [GroupOperations.decryptMember, presentedMember,
    GroupOperations.decryptProfileKeyPresentation_presented ops lawful, Role.ofInt32_toInt32]
  rfl

theorem selfRoster_reads (new : NewGroup) (randomness : CreationRandomness) :
    (ops.selfRoster Z new randomness).Reads Z ops [new.creator] [] where
  members := .cons (decryptMember_presented ops lawful _ _ _ _) .nil
  pending := .nil

theorem addCandidate_reads {new : NewGroup} (randomness : CreationRandomness) {roster : Roster}
    {members : List Member} {pending : List PendingMember} (candidate : GroupMemberCandidate)
    (reads : roster.Reads Z ops members pending) :
    ∃ next, ops.addCandidate Z new randomness roster candidate = .ok next ∧
      next.Reads Z ops (members ++ (candidate.member? new.selfCredential.aci).toList)
        (pending ++ (candidate.pendingMember? new.selfCredential.aci).toList) := by
  unfold GroupOperations.addCandidate GroupMemberCandidate.member?
    GroupMemberCandidate.pendingMember?
  by_cases isSelf : candidate.serviceId = .aci new.selfCredential.aci
  · exact ⟨roster, by simp [isSelf], by simpa [isSelf] using reads⟩
  · simp only [isSelf, if_false]
    cases candidate.credential with
    | some credential =>
        refine ⟨_, rfl, ?_, by simpa using reads.pending⟩
        exact List.rel_append reads.members
          (.cons (decryptMember_presented ops lawful _ _ _ _) .nil)
    | none =>
        refine ⟨_, rfl, by simpa using reads.members, ?_⟩
        refine List.rel_append reads.pending (.cons ?_ .nil)
        simp only [GroupOperations.decryptPendingMember,
          GroupOperations.decryptServiceId_encrypt ops lawful,
          GroupOperations.decryptAci_encrypt ops lawful]
        rfl

theorem foldlM_addCandidate_reads {new : NewGroup} (randomness : CreationRandomness)
    (candidates : List GroupMemberCandidate) {roster : Roster} {members : List Member}
    {pending : List PendingMember} (reads : roster.Reads Z ops members pending) :
    ∃ last, candidates.foldlM (ops.addCandidate Z new randomness) roster = .ok last ∧
      last.Reads Z ops
        (members ++ candidates.filterMap (·.member? new.selfCredential.aci))
        (pending ++ candidates.filterMap (·.pendingMember? new.selfCredential.aci)) := by
  induction candidates generalizing roster members pending with
  | nil => exact ⟨roster, rfl, by simpa using reads⟩
  | cons candidate candidates ih =>
      obtain ⟨next, step, read⟩ := addCandidate_reads ops lawful randomness candidate reads
      obtain ⟨last, run, all⟩ := ih read
      refine ⟨last, ?_, ?_⟩
      · rw [List.foldlM_cons, step]
        exact run
      · have split {α : Type} (f : GroupMemberCandidate → Option α) :
            (candidate :: candidates).filterMap f =
              (f candidate).toList ++ candidates.filterMap f := by
          cases found : f candidate <;> simp [found]
        simpa only [split, List.append_assoc] using all

/-- The creator, the members and the invited, in the order of the candidates. -/
theorem addMembers_reads (new : NewGroup) (randomness : CreationRandomness) :
    ∃ roster, ops.addMembers Z new randomness = .ok roster ∧
      roster.Reads Z ops new.members new.pendingMembers :=
  foldlM_addCandidate_reads ops lawful randomness new.memberCandidates
    (selfRoster_reads ops lawful new randomness)

theorem decryptGroup_attributes (new : NewGroup) (randomness : CreationRandomness) :
    ops.decryptTitle Z (ops.encryptTitle Z new.title randomness.title) = new.title ∧
      ops.decryptDisappearingMessagesTimer Z ((new.disappearingMessagesTimer.map fun timer =>
        ops.encryptDisappearingMessagesTimer Z timer randomness.timer).getD []) =
          new.disappearingMessagesTimer ∧
      ops.decryptDescriptionText Z ((new.description.map fun description =>
        ops.encryptDescription Z description randomness.description).getD []) =
          unsetIfEmpty new.description := by
  refine ⟨?_, ?_, ?_⟩
  · simp [GroupOperations.decryptTitle, GroupOperations.encryptTitle,
      GroupOperations.decryptBlob_encrypt ops lawful]
  · cases new.disappearingMessagesTimer with
    | none => rfl
    | some timer =>
        simp [GroupOperations.decryptDisappearingMessagesTimer,
          GroupOperations.encryptDisappearingMessagesTimer,
          GroupOperations.decryptBlob_encrypt ops lawful]
  · cases new.description with
    | none => rfl
    | some description =>
        simp [GroupOperations.decryptDescriptionText, GroupOperations.encryptDescription,
          GroupOperations.decryptBlob_encrypt ops lawful, unsetIfEmpty]

end Reading

section Created

variable {Z : CreationExternals} (ops : GroupOperations) (lawful : Z.toGroupExternals.Lawful)

include lawful

theorem decryptGroup_writeGroup (new : NewGroup) (randomness : CreationRandomness)
    {roster : Roster} {members : List Member} {pending : List PendingMember}
    (reads : roster.Reads Z.toGroupExternals ops members pending) :
    ops.decryptGroup Z.toGroupExternals (ops.writeGroup Z new randomness roster) = .ok {
      title := new.title
      avatar := new.avatarUrl
      disappearingMessagesTimer := new.disappearingMessagesTimer
      accessControl := new.accessControl
      version := 0
      members := members
      membersPendingProfileKey := pending
      membersPendingAdminApproval := []
      inviteLinkPassword := []
      descriptionText := unsetIfEmpty new.description
      announcementsOnly := false
      membersBanned := []
      terminated := false } := by
  have readMembers := collect_ok_iff.mpr (List.forall₂_map_left_iff.mpr reads.members)
  have readPending := collect_ok_iff.mpr (List.forall₂_map_left_iff.mpr reads.pending)
  have access : (new.accessControl.map AccessControl.toProto).mapM AccessControl.ofProto =
      .ok new.accessControl := by
    cases new.accessControl with
    | none => rfl
    | some access =>
        simp only [Option.map_some, Option.mapM_some, AccessControl.ofProto_toProto]
        rfl
  obtain ⟨title, timer, description⟩ := decryptGroup_attributes ops lawful new randomness
  simp only [GroupOperations.decryptGroup, GroupOperations.writeGroup, readMembers, readPending,
    access, title, timer, description]
  rfl

omit lawful in
theorem encryptGroupWithCredentials_of_addMembers {new : NewGroup}
    {randomness : CreationRandomness} {roster : Roster}
    (added : ops.addMembers Z.toGroupExternals new randomness = .ok roster) :
    ops.encryptGroupWithCredentials Z new randomness =
      .ok (ops.writeGroup Z new randomness roster) := by
  rw [GroupOperations.encryptGroupWithCredentials, added]
  rfl

/-- What was written is read back: the attributes, the creator as administrator, the
    candidates with a credential as members and the others as invited by the creator. -/
theorem decryptGroup_encryptGroupWithCredentials (new : NewGroup)
    (randomness : CreationRandomness) :
    ∃ encrypted, ops.encryptGroupWithCredentials Z new randomness = .ok encrypted ∧
      ops.decryptGroup Z.toGroupExternals encrypted = .ok {
        title := new.title
        avatar := new.avatarUrl
        disappearingMessagesTimer := new.disappearingMessagesTimer
        accessControl := new.accessControl
        version := 0
        members := new.members
        membersPendingProfileKey := new.pendingMembers
        membersPendingAdminApproval := []
        inviteLinkPassword := []
        descriptionText := unsetIfEmpty new.description
        announcementsOnly := false
        membersBanned := []
        terminated := false } := by
  obtain ⟨roster, added, reads⟩ := addMembers_reads ops lawful new randomness
  exact ⟨ops.writeGroup Z new randomness roster,
    encryptGroupWithCredentials_of_addMembers ops added,
    decryptGroup_writeGroup ops lawful new randomness reads⟩

end Created

/-! ## Accounts named twice -/

/-- Every account a group names, members and invited. -/
def Group.accounts (group : Group) : List ServiceId :=
  group.members.map (fun member => .aci member.aci) ++
    group.membersPendingProfileKey.map PendingMember.address

/-- The account an entry made of the candidate names: the credential's, if there is one,
    whatever the candidate's own service id. -/
def GroupMemberCandidate.account (candidate : GroupMemberCandidate) : ServiceId :=
  match candidate.credential with
  | some credential => .aci credential.aci
  | none => candidate.serviceId

/-- The candidates that are not skipped. -/
def NewGroup.others (new : NewGroup) : List GroupMemberCandidate :=
  new.memberCandidates.filter fun candidate =>
    candidate.serviceId ≠ .aci new.selfCredential.aci

theorem candidates_accounts (creator : Aci) (candidates : List GroupMemberCandidate) :
    List.Perm
      ((candidates.filterMap (·.member? creator)).map (fun member => ServiceId.aci member.aci) ++
        (candidates.filterMap (·.pendingMember? creator)).map PendingMember.address)
      ((candidates.filter fun candidate => candidate.serviceId ≠ .aci creator).map
        GroupMemberCandidate.account) := by
  induction candidates with
  | nil => exact .nil
  | cons candidate candidates ih =>
      obtain ⟨serviceId, credential⟩ := candidate
      by_cases isSelf : serviceId = .aci creator
      · simpa [GroupMemberCandidate.member?, GroupMemberCandidate.pendingMember?, isSelf] using ih
      · cases credential with
        | some credential =>
            simpa [GroupMemberCandidate.member?, GroupMemberCandidate.pendingMember?, isSelf,
              GroupMemberCandidate.account] using ih
        | none =>
            have noMember : GroupMemberCandidate.member? creator ⟨serviceId, none⟩ = none := by
              simp [GroupMemberCandidate.member?]
            have invited : GroupMemberCandidate.pendingMember? creator ⟨serviceId, none⟩ =
                some ⟨serviceId, .default, creator, 0⟩ := by
              simp [GroupMemberCandidate.pendingMember?, isSelf]
            rw [List.filterMap_cons_none noMember, List.filterMap_cons_some invited,
              List.filter_cons_of_pos (by simpa using isSelf)]
            -- the invited come after all members, so this one is out of candidate order
            exact List.perm_middle.trans (ih.cons serviceId)

theorem decryptGroup_accepts {Z : GroupExternals} {ops : GroupOperations}
    {encrypted : Proto.Group} {group : Group}
    (read : ops.decryptGroup Z encrypted = .ok group) :
    GroupOperations.collect (encrypted.members.map (ops.decryptMember Z)) = .ok group.members ∧
      GroupOperations.collect
          (encrypted.membersPendingProfileKey.map (ops.decryptPendingMember Z)) =
        .ok group.membersPendingProfileKey := by
  obtain ⟨members, readMembers, read⟩ := exists_of_bind_ok read
  obtain ⟨pending, readPending, read⟩ := exists_of_bind_ok read
  obtain ⟨_, -, read⟩ := exists_of_bind_ok read
  obtain ⟨_, -, read⟩ := exists_of_bind_ok read
  obtain ⟨_, -, read⟩ := exists_of_bind_ok read
  cases read
  exact ⟨readMembers, readPending⟩

section Accounts

variable {Z : CreationExternals} (ops : GroupOperations) (lawful : Z.toGroupExternals.Lawful)

include lawful

theorem members_of_created {new : NewGroup} {randomness : CreationRandomness}
    {encrypted : Proto.Group} {group : Group}
    (written : ops.encryptGroupWithCredentials Z new randomness = .ok encrypted)
    (read : ops.decryptGroup Z.toGroupExternals encrypted = .ok group) :
    group.members = new.members ∧ group.membersPendingProfileKey = new.pendingMembers := by
  obtain ⟨roster, added, reads⟩ := addMembers_reads ops lawful new randomness
  obtain ⟨members, pending⟩ := decryptGroup_accepts read
  have same : encrypted.members = roster.members ∧
      encrypted.membersPendingProfileKey = roster.membersPendingProfileKey := by
    rw [encryptGroupWithCredentials_of_addMembers ops added] at written
    cases written
    exact ⟨rfl, rfl⟩
  rw [same.1, collect_ok_iff.mpr (List.forall₂_map_left_iff.mpr reads.members)] at members
  rw [same.2, collect_ok_iff.mpr (List.forall₂_map_left_iff.mpr reads.pending)] at pending
  exact ⟨(Except.ok.inj members).symm, (Except.ok.inj pending).symm⟩

/-- The new group names no account twice exactly when the candidates that are not skipped
    name distinct accounts, none of them the creator's. -/
theorem created_accounts_nodup_iff {new : NewGroup} {randomness : CreationRandomness}
    {encrypted : Proto.Group} {group : Group}
    (written : ops.encryptGroupWithCredentials Z new randomness = .ok encrypted)
    (read : ops.decryptGroup Z.toGroupExternals encrypted = .ok group) :
    group.accounts.Nodup ↔
      (new.others.map GroupMemberCandidate.account).Nodup ∧
        ∀ candidate ∈ new.others, candidate.account ≠ .aci new.selfCredential.aci := by
  obtain ⟨members, pending⟩ := members_of_created ops lawful written read
  have accounts : group.accounts.Perm
      (.aci new.selfCredential.aci :: new.others.map GroupMemberCandidate.account) := by
    unfold Group.accounts
    rw [members, pending]
    exact (candidates_accounts new.selfCredential.aci new.memberCandidates).cons _
  rw [accounts.nodup_iff, List.nodup_cons, and_comm]
  apply and_congr_right
  intro _
  constructor
  · intro absent candidate mem same
    exact absent (List.mem_map.mpr ⟨candidate, mem, same⟩)
  · intro different mem
    obtain ⟨candidate, isOther, same⟩ := List.mem_map.mp mem
    exact different candidate isOther same

end Accounts

/-! ## An instance

The creator is among the candidates, with one who has a credential and one who is only
known by phone number. -/

namespace Sample

def creationExternals : CreationExternals :=
  { groupExternals with getPublicParams := fun _ => List.replicate 97 0 }

theorem creationExternals_lawful : creationExternals.toGroupExternals.Lawful :=
  groupExternals_lawful

def profileKeyOf (byte : UInt8) : ProfileKey := ⟨List.replicate 32 byte, List.length_replicate⟩

def invitee : GroupMemberCandidate :=
  ⟨.pni ⟨⟨0x9a3f0c6e5d2b41f8a7c4e1d0b2938475⟩⟩, none⟩

def newGroup : NewGroup where
  title := "Trip"
  description := none
  disappearingMessagesTimer := some ⟨3600⟩
  accessControl := some ⟨.member, .administrator, .unsatisfiable, .member⟩
  selfCredential := ⟨editorAci, profileKeyOf 1, [1]⟩
  memberCandidates :=
    [⟨.aci editorAci, none⟩, ⟨.aci removedAci, some ⟨removedAci, profileKeyOf 2, [2]⟩⟩, invitee]
  serverPublicParams := ⟨[]⟩
  avatarUrl := ""

def newGroupRead : Group where
  title := "Trip"
  avatar := ""
  disappearingMessagesTimer := some ⟨3600⟩
  accessControl := some ⟨.member, .administrator, .unsatisfiable, .member⟩
  version := 0
  members :=
    [⟨editorAci, .administrator, profileKeyOf 1, 0, none, none⟩,
      ⟨removedAci, .default, profileKeyOf 2, 0, none, none⟩]
  membersPendingProfileKey := [⟨invitee.serviceId, .default, editorAci, 0⟩]
  membersPendingAdminApproval := []
  inviteLinkPassword := []
  descriptionText := none
  announcementsOnly := false
  membersBanned := []
  terminated := false

def creationRandomness : CreationRandomness := ⟨fun n => bigEndian 32 n, [], [], []⟩

/-- The same invitation twice. -/
def twiceInvited : NewGroup := { newGroup with memberCandidates := [invitee, invitee] }

end Sample

theorem new_group_read_back :
    Sample.creationExternals.toGroupExternals.Lawful ∧
      ∃ encrypted,
        GroupOperations.encryptGroupWithCredentials Sample.creationExternals ⟨⟨[]⟩⟩ Sample.newGroup
          Sample.creationRandomness = .ok encrypted ∧
        GroupOperations.decryptGroup Sample.creationExternals.toGroupExternals ⟨⟨[]⟩⟩ encrypted =
          .ok Sample.newGroupRead :=
  ⟨Sample.creationExternals_lawful, decryptGroup_encryptGroupWithCredentials ⟨⟨[]⟩⟩
    Sample.creationExternals_lawful Sample.newGroup Sample.creationRandomness⟩

theorem new_group_names_each_once :
    ∃ encrypted group,
      GroupOperations.encryptGroupWithCredentials Sample.creationExternals ⟨⟨[]⟩⟩ Sample.newGroup
        Sample.creationRandomness = .ok encrypted ∧
      GroupOperations.decryptGroup Sample.creationExternals.toGroupExternals ⟨⟨[]⟩⟩ encrypted =
        .ok group ∧
      group.accounts.Nodup := by
  obtain ⟨roster, added, reads⟩ := addMembers_reads ⟨⟨[]⟩⟩ Sample.creationExternals_lawful
    Sample.newGroup Sample.creationRandomness
  have written := encryptGroupWithCredentials_of_addMembers ⟨⟨[]⟩⟩ added
  have read := decryptGroup_writeGroup ⟨⟨[]⟩⟩ Sample.creationExternals_lawful
    Sample.newGroup Sample.creationRandomness reads
  exact ⟨_, _, written, read, (created_accounts_nodup_iff ⟨⟨[]⟩⟩ Sample.creationExternals_lawful
    written read).mpr (by decide)⟩

theorem twice_invited_named_twice :
    ∃ encrypted group,
      GroupOperations.encryptGroupWithCredentials Sample.creationExternals ⟨⟨[]⟩⟩
        Sample.twiceInvited Sample.creationRandomness = .ok encrypted ∧
      GroupOperations.decryptGroup Sample.creationExternals.toGroupExternals ⟨⟨[]⟩⟩ encrypted =
        .ok group ∧
      ¬ group.accounts.Nodup := by
  obtain ⟨roster, added, reads⟩ := addMembers_reads ⟨⟨[]⟩⟩ Sample.creationExternals_lawful
    Sample.twiceInvited Sample.creationRandomness
  have written := encryptGroupWithCredentials_of_addMembers ⟨⟨[]⟩⟩ added
  have read := decryptGroup_writeGroup ⟨⟨[]⟩⟩ Sample.creationExternals_lawful
    Sample.twiceInvited Sample.creationRandomness reads
  exact ⟨_, _, written, read, by decide⟩

end SignalService.Groups

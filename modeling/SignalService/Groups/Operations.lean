import SignalService.Groups.Model

/-! # Group operations

`groups_v2/operations.rs`: reading an encrypted group change, the builders of its
actions, and `encrypt_group_change`. The zero-knowledge group library, prost and base64
are parameters.
-/

namespace SignalService.Groups

/-! ## What the crate calls -/

structure GroupSecretParams where
  serialized : Bytes
  deriving DecidableEq

structure UuidCiphertext where
  serialized : Bytes
  deriving DecidableEq

structure ProfileKeyCiphertext where
  serialized : Bytes
  deriving DecidableEq

structure ServerPublicParams where
  serialized : Bytes
  deriving DecidableEq

/-- `ExpiringProfileKeyCredential`, by what its accessors give. -/
structure ExpiringProfileKeyCredential where
  aci : Aci
  profileKey : ProfileKey
  serialized : Bytes
  deriving DecidableEq

/-- `AnyProfileKeyCredentialPresentation`, by what its accessors give. -/
structure CredentialPresentation where
  uuidCiphertext : UuidCiphertext
  profileKeyCiphertext : ProfileKeyCiphertext
  deriving DecidableEq

structure GroupExternals where
  /- zkgroup: group secret params -/
  getGroupIdentifier : GroupSecretParams → GroupIdentifier
  encryptServiceId : GroupSecretParams → ServiceId → UuidCiphertext
  decryptServiceId : GroupSecretParams → UuidCiphertext → Option ServiceId
  encryptProfileKey : GroupSecretParams → ProfileKey → Aci → ProfileKeyCiphertext
  decryptProfileKey : GroupSecretParams → ProfileKeyCiphertext → Aci → Option ProfileKey
  encryptBlobWithPadding :
    GroupSecretParams → (randomness plaintext : Bytes) → (paddingLen : Nat) → Bytes
  decryptBlobWithPadding : GroupSecretParams → Bytes → Option Bytes
  /- zkgroup: serialization and presentations -/
  deserializeUuidCiphertext : Bytes → Option UuidCiphertext
  deserializeProfileKeyCiphertext : Bytes → Option ProfileKeyCiphertext
  createPresentation : ServerPublicParams → (randomness : Bytes) → GroupSecretParams →
    ExpiringProfileKeyCredential → Bytes
  newPresentation : Bytes → Option CredentialPresentation
  /- prost and base64 -/
  encodeBlob : Proto.GroupAttributeBlob → Bytes
  decodeBlob : Bytes → Option Proto.GroupAttributeBlob
  encodeActions : Proto.Actions → Bytes
  decodeActions : Bytes → Option Proto.Actions
  base64 : Bytes → String

/-! ## Strings -/

/-- `as_bytes`. -/
def utf8Bytes (s : String) : Bytes := s.toUTF8.data.toList

/-- `String::from_utf8`. -/
def utf8String? (bytes : Bytes) : Option String := String.fromUTF8? ⟨bytes.toArray⟩

@[simp] theorem utf8String?_utf8Bytes (s : String) : utf8String? (utf8Bytes s) = some s := by
  have same : (⟨(utf8Bytes s).toArray⟩ : ByteArray) = s.toUTF8 := by simp [utf8Bytes]
  have valid : s.toUTF8.IsValidUTF8 := s.isValidUTF8
  simp only [utf8String?, same, String.fromUTF8?]
  rw [dif_pos valid]
  rfl

/-! ## Steps that succeed -/

theorem exists_of_bind_ok {ε α β : Type} {x : Except ε α} {f : α → Except ε β} {b : β}
    (bound : (x >>= f) = .ok b) : ∃ a, x = .ok a ∧ f a = .ok b := by
  cases x with
  | error e => cases bound
  | ok a => exact ⟨a, rfl, bound⟩

theorem exists_of_map_ok {ε α β : Type} {x : Except ε α} {f : α → β} {b : β}
    (mapped : x.map f = .ok b) : ∃ a, x = .ok a ∧ f a = b := by
  cases x with
  | error e => cases mapped
  | ok a => exact ⟨a, rfl, Except.ok.inj mapped⟩

structure GroupOperations where
  groupSecretParams : GroupSecretParams
  deriving DecidableEq

variable (Z : GroupExternals) (ops : GroupOperations)

namespace GroupOperations

/-! ## Ids and profile keys -/

def encryptServiceId (id : ServiceId) : Except GroupDecodingError Bytes :=
  .ok (Z.encryptServiceId ops.groupSecretParams id).serialized

/-- `zkgroup::deserialize`, then the decryption, each with its own error. -/
def decryptServiceId (ciphertext : Bytes) : Except GroupDecodingError ServiceId :=
  match Z.deserializeUuidCiphertext ciphertext with
  | none => .error .zkGroupDeserializationFailure
  | some uuid =>
      match Z.decryptServiceId ops.groupSecretParams uuid with
      | none => .error .zkGroupVerificationFailure
      | some id => .ok id

def encryptAci (aci : Aci) : Except GroupDecodingError Bytes := ops.encryptServiceId Z (.aci aci)

def decryptAci (ciphertext : Bytes) : Except GroupDecodingError Aci := do
  match ← ops.decryptServiceId Z ciphertext with
  | .aci aci => return aci
  | .pni _ => throw .notAci

def decryptPni (ciphertext : Bytes) : Except GroupDecodingError Pni := do
  match ← ops.decryptServiceId Z ciphertext with
  | .pni pni => return pni
  | .aci _ => throw .notPni

def encryptProfileKey (profileKey : ProfileKey) (aci : Aci) : Except GroupDecodingError Bytes :=
  .ok (Z.encryptProfileKey ops.groupSecretParams profileKey aci).serialized

def decryptProfileKey (encryptedProfileKey : Bytes) (aci : Aci) :
    Except GroupDecodingError ProfileKey :=
  match Z.deserializeProfileKeyCiphertext encryptedProfileKey with
  | none => .error .zkGroupDeserializationFailure
  | some ciphertext =>
      match Z.decryptProfileKey ops.groupSecretParams ciphertext aci with
      | none => .error .zkGroupVerificationFailure
      | some profileKey => .ok profileKey

/-- The two encodings of a member's id and profile key: plain fields, or a presentation
    that holds both. -/
def decryptProfileKeyPresentation (aci profileKey presentation : Bytes) :
    Except GroupDecodingError (Aci × ProfileKey) :=
  if presentation.isEmpty then do
    let aci ← ops.decryptAci Z aci
    let profileKey ← ops.decryptProfileKey Z profileKey aci
    return (aci, profileKey)
  else
    match Z.newPresentation presentation with
    | none => .error .zkGroupDeserializationFailure
    | some opened =>
        match Z.decryptServiceId ops.groupSecretParams opened.uuidCiphertext with
        | none => .error .zkGroupVerificationFailure
        | some (.pni _) => .error .notAci
        | some (.aci aci) =>
            match Z.decryptProfileKey ops.groupSecretParams opened.profileKeyCiphertext aci with
            | none => .error .zkGroupVerificationFailure
            | some profileKey => .ok (aci, profileKey)

def decryptPniAciPromotionPresentation
    (member : Proto.PromoteMemberPendingPniAciProfileKeyAction) :
    Except GroupDecodingError PromotedMember := do
  let aci ← ops.decryptAci Z member.userId
  let pni ← ops.decryptPni Z member.pni
  let profileKey ← ops.decryptProfileKey Z member.profileKey aci
  return ⟨aci, pni, profileKey⟩

/-! ## Strings and blobs -/

def decryptString (bytes : Bytes) : Except GroupDecodingError String :=
  match Z.decryptBlobWithPadding ops.groupSecretParams bytes with
  | none => .error .zkGroupVerificationFailure
  | some plaintext =>
      match utf8String? plaintext with
      | none => .error .wrongBlob
      | some s => .ok s

def maybeDecryptString (bytes : Bytes) : Except GroupDecodingError (Option String) :=
  if bytes.isEmpty then .ok none else (ops.decryptString Z bytes).map some

/-- `decrypt_member_label_text` and `decrypt_member_label_emoji`: a label that does not
    decrypt counts as unset. -/
def decryptMemberLabel (bytes : Bytes) : Option String :=
  match ops.maybeDecryptString Z bytes with
  | .ok s => s
  | .error _ => none

/-- A blob that is too short, or does not decrypt or decode, reads as an empty one. -/
def decryptBlob (bytes : Bytes) : Proto.GroupAttributeBlob :=
  if bytes.isEmpty then ⟨none⟩
  else if bytes.length < 29 then ⟨none⟩
  else
    match Z.decryptBlobWithPadding ops.groupSecretParams bytes with
    | none => ⟨none⟩
    | some plaintext => (Z.decodeBlob plaintext).getD ⟨none⟩

def encryptBlobContent (content : Proto.BlobContent) (randomness : Bytes) : Bytes :=
  Z.encryptBlobWithPadding ops.groupSecretParams randomness (Z.encodeBlob ⟨some content⟩) 0

/-- No string and the empty string are both written as no bytes. -/
def maybeEncryptString (s : Option String) (randomness : Bytes) : Bytes :=
  match s.filter (fun s => s ≠ "") with
  | none => []
  | some s => Z.encryptBlobWithPadding ops.groupSecretParams randomness (utf8Bytes s) 0

def encryptTitle (title : String) (randomness : Bytes) : Bytes :=
  ops.encryptBlobContent Z (.title title) randomness

def encryptDescription (description : String) (randomness : Bytes) : Bytes :=
  ops.encryptBlobContent Z (.descriptionText description) randomness

def encryptDisappearingMessagesTimer (timer : Timer) (randomness : Bytes) : Bytes :=
  ops.encryptBlobContent Z (.disappearingMessagesDuration timer.duration) randomness

def decryptTitle (ciphertext : Bytes) : String :=
  match (ops.decryptBlob Z ciphertext).content with
  | some (.title title) => title
  | _ => ""

def decryptDescriptionText (ciphertext : Bytes) : Option String :=
  match (ops.decryptBlob Z ciphertext).content with
  | some (.descriptionText d) => (some d).filter fun d => d ≠ ""
  | _ => none

def decryptDisappearingMessagesTimer (ciphertext : Bytes) : Option Timer :=
  match (ops.decryptBlob Z ciphertext).content with
  | some (.disappearingMessagesDuration duration) => some ⟨duration⟩
  | _ => none

/-! ## Members -/

def decryptMember (member : Proto.Member) : Except GroupDecodingError Member := do
  let (aci, profileKey) ← ops.decryptProfileKeyPresentation Z member.userId member.profileKey
    member.presentation
  let label := ops.decryptMemberLabel Z member.labelString
  let labelEmoji := ops.decryptMemberLabel Z member.labelEmoji
  let role ← Role.ofInt32 member.role
  return ⟨aci, role, profileKey, member.joinedAtVersion, label, labelEmoji⟩

def decryptPendingMember (member : Proto.MemberPendingProfileKey) :
    Except GroupDecodingError PendingMember :=
  match member.member with
  | none => .error .wrongBlob
  | some inner => do
      let address ← ops.decryptServiceId Z inner.userId
      let addedByAci ← ops.decryptAci Z member.addedByUserId
      let role ← Role.ofInt32 inner.role
      return ⟨address, role, addedByAci, member.timestamp⟩

def decryptRequestingMember (member : Proto.MemberPendingAdminApproval) :
    Except GroupDecodingError RequestingMember := do
  let (aci, profileKey) ← ops.decryptProfileKeyPresentation Z member.userId member.profileKey
    member.presentation
  return ⟨aci, profileKey, member.timestamp⟩

def decryptBannedMember (member : Proto.MemberBanned) :
    Except GroupDecodingError BannedMember := do
  let userId ← ops.decryptServiceId Z member.userId
  return ⟨userId, member.timestamp⟩

/-! ## Reading a change -/

/-- Collect results in order, stopping at the first error. -/
def collect {ε α : Type} : List (Except ε α) → Except ε (List α)
  | [] => .ok []
  | x :: rest => do
      let a ← x
      let as ← collect rest
      return a :: as

/-- What the reader makes of one kind of action. -/
abbrev Read := List (Except GroupDecodingError GroupChange)

def newMembers (added : List Proto.AddMemberAction) : Read :=
  (added.filterMap (·.added)).map fun m => (ops.decryptMember Z m).map .newMember

def deleteMembers (deleted : List Bytes) : Read :=
  deleted.map fun id => (ops.decryptAci Z id).map .deleteMember

def modifyMemberRoles (modified : List Proto.ModifyMemberRoleAction) : Read :=
  modified.map fun m => do
    let aci ← ops.decryptAci Z m.userId
    let role ← Role.ofInt32 m.role
    return .modifyMemberRole aci role

def modifyMemberProfileKeys (modified : List Proto.ProfileKeyAction) : Read :=
  modified.map fun m => do
    let (aci, profileKey) ←
      ops.decryptProfileKeyPresentation Z m.userId m.profileKey m.presentation
    return .modifyMemberProfileKey aci profileKey

def addMembersPendingProfileKey (added : List (Option Proto.MemberPendingProfileKey)) : Read :=
  (added.filterMap id).map fun m => (ops.decryptPendingMember Z m).map .newPendingMember

def deleteMembersPendingProfileKey (deleted : List Bytes) : Read :=
  deleted.map fun id => (ops.decryptServiceId Z id).map .deletePendingMember

def promoteMembersPendingProfileKey (promoted : List Proto.ProfileKeyAction) : Read :=
  promoted.map fun m => do
    let (aci, profileKey) ←
      ops.decryptProfileKeyPresentation Z m.userId m.profileKey m.presentation
    return .promotePendingMember (.aci aci) profileKey

def modifyTitle (title : Option Bytes) : Read :=
  title.toList.map fun title => .ok (.title (ops.decryptTitle Z title))

def modifyAvatar (avatar : Option String) : Read :=
  avatar.toList.map fun avatar => .ok (.avatar avatar)

def modifyDisappearingMessageTimer (timer : Option Bytes) : Read :=
  timer.toList.map fun timer => .ok (.timer (ops.decryptDisappearingMessagesTimer Z timer))

def modifyDescription (description : Option Bytes) : Read :=
  description.toList.map fun d => .ok (.description (ops.decryptDescriptionText Z d))

/-- The four access rules differ in the change they are read as. -/
def modifyAccess (change : AccessRequired → GroupChange) (access : Option Int32) : Read :=
  access.toList.map fun access => (AccessRequired.ofInt32 access).map change

def addMembersBanned (added : List (Option Proto.MemberBanned)) : Read :=
  (added.filterMap id).map fun m => (ops.decryptBannedMember Z m).map .addBannedMember

def deleteMembersBanned (deleted : List Bytes) : Read :=
  deleted.map fun id => (ops.decryptServiceId Z id).map .deleteBannedMember

def promoteMembersPendingPniAciProfileKey
    (promoted : List Proto.PromoteMemberPendingPniAciProfileKeyAction) : Read :=
  promoted.map fun m =>
    (ops.decryptPniAciPromotionPresentation Z m).map .promotePendingPniAciMemberProfileKey

def addMembersPendingAdminApproval (added : List (Option Proto.MemberPendingAdminApproval)) :
    Read :=
  (added.filterMap id).map fun m => (ops.decryptRequestingMember Z m).map .newRequestingMember

def deleteMembersPendingAdminApproval (deleted : List Bytes) : Read :=
  deleted.map fun id => (ops.decryptAci Z id).map .deleteRequestingMember

def promoteMembersPendingAdminApproval (promoted : List Proto.ModifyMemberRoleAction) : Read :=
  promoted.map fun m => do
    let aci ← ops.decryptAci Z m.userId
    let role ← Role.ofInt32 m.role
    return .promoteRequestingMember aci role

def modifyInviteLinkPassword (password : Option Bytes) : Read :=
  password.toList.map fun password => .ok (.inviteLinkPassword (Z.base64 password))

def modifyAnnouncementsOnly (only : Option Bool) : Read :=
  only.toList.map fun only => .ok (.announcementOnly only)

def modifyMemberLabels (modified : List Proto.ModifyMemberLabelAction) : Read :=
  modified.map fun m => do
    let userId ← ops.decryptServiceId Z m.userId
    return .memberLabel userId (ops.decryptMemberLabel Z m.labelEmoji)
      (ops.decryptMemberLabel Z m.labelString)

/-- The presence of the field signifies termination. -/
def terminateGroup (present : Bool) : Read := if present then [.ok .terminateGroup] else []

/-- One change for each action, in the order of the `chain` calls. -/
def decryptActions (actions : Proto.Actions) : Read :=
  [ops.newMembers Z actions.addMembers,
    ops.deleteMembers Z actions.deleteMembers,
    ops.modifyMemberRoles Z actions.modifyMemberRoles,
    ops.modifyMemberProfileKeys Z actions.modifyMemberProfileKeys,
    ops.addMembersPendingProfileKey Z actions.addMembersPendingProfileKey,
    ops.deleteMembersPendingProfileKey Z actions.deleteMembersPendingProfileKey,
    ops.promoteMembersPendingProfileKey Z actions.promoteMembersPendingProfileKey,
    ops.modifyTitle Z actions.modifyTitle,
    modifyAvatar actions.modifyAvatar,
    ops.modifyDisappearingMessageTimer Z actions.modifyDisappearingMessageTimer,
    modifyAccess .attributeAccess actions.modifyAttributesAccess,
    ops.modifyDescription Z actions.modifyDescription,
    modifyAccess .memberAccess actions.modifyMemberAccess,
    ops.addMembersBanned Z actions.addMembersBanned,
    ops.deleteMembersBanned Z actions.deleteMembersBanned,
    ops.promoteMembersPendingPniAciProfileKey Z actions.promoteMembersPendingPniAciProfileKey,
    modifyAccess .inviteLinkAccess actions.modifyAddFromInviteLinkAccess,
    ops.addMembersPendingAdminApproval Z actions.addMembersPendingAdminApproval,
    ops.deleteMembersPendingAdminApproval Z actions.deleteMembersPendingAdminApproval,
    ops.promoteMembersPendingAdminApproval Z actions.promoteMembersPendingAdminApproval,
    modifyInviteLinkPassword Z actions.modifyInviteLinkPassword,
    modifyAnnouncementsOnly actions.modifyAnnouncementsOnly,
    ops.modifyMemberLabels Z actions.modifyMemberLabels,
    modifyAccess .memberLabelAccess actions.modifyMemberLabelAccess,
    terminateGroup actions.terminateGroup].flatten

def decryptGroupChange (groupChange : Proto.GroupChange) :
    Except GroupDecodingError GroupChanges :=
  match Z.decodeActions groupChange.actions with
  | none => .error .protobufDecodeError
  | some actions => do
      let editor ← ops.decryptAci Z actions.sourceUserId
      -- an identifier of the wrong length is reported before an error among the changes
      match GroupIdentifier.ofBytes? actions.groupId with
      | none => throw .wrongBlob
      | some groupId => do
          let changes ← collect (ops.decryptActions Z actions)
          return ⟨groupId, editor, actions.version, changes, groupChange.changeEpoch⟩

theorem decryptGroupChange_accepts {Z : GroupExternals} {ops : GroupOperations}
    {groupChange : Proto.GroupChange} {changes : GroupChanges}
    (accepted : ops.decryptGroupChange Z groupChange = .ok changes) :
    ∃ actions, Z.decodeActions groupChange.actions = some actions ∧
      ops.decryptAci Z actions.sourceUserId = .ok changes.editor ∧
      GroupIdentifier.ofBytes? actions.groupId = some changes.groupId ∧
      changes.version = actions.version ∧
      collect (ops.decryptActions Z actions) = .ok changes.changes ∧
      changes.changeEpoch = groupChange.changeEpoch := by
  unfold decryptGroupChange at accepted
  cases decoded : Z.decodeActions groupChange.actions with
  | none => simp [decoded] at accepted
  | some actions =>
      simp only [decoded] at accepted
      obtain ⟨editor, edited, accepted⟩ := exists_of_bind_ok accepted
      cases named : GroupIdentifier.ofBytes? actions.groupId with
      | none =>
          simp only [named] at accepted
          cases accepted
      | some groupId =>
          simp only [named] at accepted
          obtain ⟨list, read, accepted⟩ := exists_of_bind_ok accepted
          cases accepted
          exact ⟨actions, rfl, edited, named, rfl, read, rfl⟩

/-! ## Builders -/

def buildAddMemberAction (aci : Aci) (profileKey : ProfileKey) (role : Role) :
    Except GroupDecodingError Proto.AddMemberAction := do
  return {
    added := some {
      userId := ← ops.encryptAci Z aci
      profileKey := ← ops.encryptProfileKey Z profileKey aci
      presentation := []
      role := role.toInt32
      joinedAtVersion := 0
      labelEmoji := []
      labelString := [] }
    joinFromInviteLink := false }

def createMemberPresentation (serverPublicParams : ServerPublicParams) (randomness : Bytes)
    (credential : ExpiringProfileKeyCredential) : Bytes :=
  Z.createPresentation serverPublicParams randomness ops.groupSecretParams credential

def buildAddMemberActionWithCredential (credential : ExpiringProfileKeyCredential) (role : Role)
    (serverPublicParams : ServerPublicParams) (randomness : Bytes) : Proto.AddMemberAction where
  added := some {
    userId := []
    profileKey := []
    presentation := ops.createMemberPresentation Z serverPublicParams randomness credential
    role := role.toInt32
    joinedAtVersion := 0
    labelEmoji := []
    labelString := [] }
  joinFromInviteLink := false

def buildRemoveMemberAction (aci : Aci) : Except GroupDecodingError Bytes := ops.encryptAci Z aci

def buildModifyMemberRoleAction (aci : Aci) (role : Role) :
    Except GroupDecodingError Proto.ModifyMemberRoleAction := do
  return ⟨← ops.encryptAci Z aci, role.toInt32⟩

def buildAddPendingMemberAction (invitee : ServiceId) (addedByAci : Aci) (role : Role) :
    Except GroupDecodingError (Option Proto.MemberPendingProfileKey) := do
  return some {
    member := some {
      userId := ← ops.encryptServiceId Z invitee
      profileKey := []
      presentation := []
      role := role.toInt32
      joinedAtVersion := 0
      labelEmoji := []
      labelString := [] }
    addedByUserId := ← ops.encryptAci Z addedByAci
    timestamp := 0 }

def buildRemovePendingMemberAction (invitee : ServiceId) : Except GroupDecodingError Bytes :=
  ops.encryptServiceId Z invitee

def buildPromotePendingMemberAction (aci : Aci) (profileKey : ProfileKey) :
    Except GroupDecodingError Proto.ProfileKeyAction := do
  return {
    userId := ← ops.encryptAci Z aci
    profileKey := ← ops.encryptProfileKey Z profileKey aci
    presentation := [] }

def buildAddRequestingMemberAction (aci : Aci) (profileKey : ProfileKey) :
    Except GroupDecodingError (Option Proto.MemberPendingAdminApproval) := do
  return some {
    userId := ← ops.encryptAci Z aci
    profileKey := ← ops.encryptProfileKey Z profileKey aci
    presentation := []
    timestamp := 0 }

def buildRemoveRequestingMemberAction (aci : Aci) : Except GroupDecodingError Bytes :=
  ops.encryptAci Z aci

def buildPromoteRequestingMemberAction (aci : Aci) (role : Role) :
    Except GroupDecodingError Proto.ModifyMemberRoleAction := do
  return ⟨← ops.encryptAci Z aci, role.toInt32⟩

def buildModifyTitleAction (title : String) (randomness : Bytes) : Bytes :=
  ops.encryptTitle Z title randomness

def buildModifyDescriptionAction (description : String) (randomness : Bytes) : Bytes :=
  ops.encryptDescription Z description randomness

def buildModifyDisappearingMessagesTimerAction (timer : Timer) (randomness : Bytes) : Bytes :=
  ops.encryptDisappearingMessagesTimer Z timer randomness

def buildModifyAttributesAccessAction (access : AccessRequired) : Int32 := access.toInt32

def buildModifyMembersAccessAction (access : AccessRequired) : Int32 := access.toInt32

def buildModifyMemberLabelAccessAction (access : AccessRequired) : Int32 := access.toInt32

def buildModifyInviteLinkAccessAction (access : AccessRequired) : Int32 := access.toInt32

/-- The emoji is encrypted first, with the first of the two draws. -/
def buildModifyMemberLabelAction (aci : Aci) (labelString labelEmoji : Option String)
    (emojiRandomness stringRandomness : Bytes) :
    Except GroupDecodingError Proto.ModifyMemberLabelAction := do
  return {
    userId := ← ops.encryptAci Z aci
    labelEmoji := ops.maybeEncryptString Z labelEmoji emojiRandomness
    labelString := ops.maybeEncryptString Z labelString stringRandomness }

def buildModifyAnnouncementsOnlyAction (announcementsOnly : Bool) : Bool := announcementsOnly

def buildModifyInviteLinkPasswordAction (password : Bytes) : Bytes := password

def buildModifyAvatarAction (avatar : String) : String := avatar

/-- The editor and the group identifier are stamped in; everything else is kept. -/
def stamp (editor : Aci) (actions : Proto.Actions) : Except GroupDecodingError Proto.Actions := do
  let sourceUserId ← ops.encryptAci Z editor
  return { actions with
    sourceUserId
    groupId := (Z.getGroupIdentifier ops.groupSecretParams).bytes }

def encryptGroupChange (editor : Aci) (actions : Proto.Actions) :
    Except GroupDecodingError Proto.GroupChange := do
  let actions ← ops.stamp Z editor actions
  return ⟨Z.encodeActions actions, [], 0⟩

end GroupOperations

end SignalService.Groups

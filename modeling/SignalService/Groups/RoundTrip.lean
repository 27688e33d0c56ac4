import SignalService.Groups.Operations

/-! # Group changes read back

A plan is what a caller asks the builders for: any number of entries for each kind of
action. Encrypting the actions a plan builds and reading the change gives one change for
each entry, as the plan says it.
-/

namespace SignalService.Groups

/-! ## What is relied on -/

/-- The libraries undo what they do, with ciphertexts as long as libsignal's: a padding
    length, a tag, a nonce and a version byte around the plaintext. -/
structure GroupExternals.Lawful (Z : GroupExternals) : Prop where
  serviceId : ∀ params id, Z.decryptServiceId params (Z.encryptServiceId params id) = some id
  serviceIdBytes : ∀ params id,
    Z.deserializeUuidCiphertext (Z.encryptServiceId params id).serialized =
      some (Z.encryptServiceId params id)
  profileKey : ∀ params key aci,
    Z.decryptProfileKey params (Z.encryptProfileKey params key aci) aci = some key
  profileKeyBytes : ∀ params key aci,
    Z.deserializeProfileKeyCiphertext (Z.encryptProfileKey params key aci).serialized =
      some (Z.encryptProfileKey params key aci)
  blob : ∀ params randomness plaintext,
    Z.decryptBlobWithPadding params (Z.encryptBlobWithPadding params randomness plaintext 0) =
      some plaintext
  blobLength : ∀ params randomness plaintext,
    (Z.encryptBlobWithPadding params randomness plaintext 0).length =
      4 + plaintext.length + 16 + 12 + 1
  presented : ∀ server randomness params credential,
    Z.createPresentation server randomness params credential ≠ []
  presentation : ∀ server randomness params credential,
    ∃ opened, Z.newPresentation (Z.createPresentation server randomness params credential) =
        some opened ∧
      Z.decryptServiceId params opened.uuidCiphertext = some (.aci credential.aci) ∧
      Z.decryptProfileKey params opened.profileKeyCiphertext credential.aci =
        some credential.profileKey
  blobCoding : ∀ blob, Z.decodeBlob (Z.encodeBlob blob) = some blob

/-! ## Plans -/

/-- The two builders of an add action. -/
inductive AddMember where
  | plain (aci : Aci) (profileKey : ProfileKey) (role : Role)
  | withCredential (credential : ExpiringProfileKeyCredential) (role : Role)
      (serverPublicParams : ServerPublicParams) (randomness : Bytes)

structure LabelEntry where
  aci : Aci
  labelString : Option String
  labelEmoji : Option String
  emojiRandomness : Bytes
  stringRandomness : Bytes

/-- The arguments of the builders, entry by entry. What an `Actions` holds in the two
    fields that are stamped over may be anything. -/
structure Plan where
  sourceUserId : Bytes := []
  groupId : Bytes := []
  version : UInt32 := 0
  addMembers : List AddMember := []
  deleteMembers : List Aci := []
  modifyMemberRoles : List (Aci × Role) := []
  addMembersPendingProfileKey : List (ServiceId × Aci × Role) := []
  deleteMembersPendingProfileKey : List ServiceId := []
  promoteMembersPendingProfileKey : List (Aci × ProfileKey) := []
  modifyTitle : Option (String × Bytes) := none
  modifyAvatar : Option String := none
  modifyDisappearingMessageTimer : Option (Timer × Bytes) := none
  modifyAttributesAccess : Option AccessRequired := none
  modifyMemberAccess : Option AccessRequired := none
  modifyAddFromInviteLinkAccess : Option AccessRequired := none
  addMembersPendingAdminApproval : List (Aci × ProfileKey) := []
  deleteMembersPendingAdminApproval : List Aci := []
  promoteMembersPendingAdminApproval : List (Aci × Role) := []
  modifyInviteLinkPassword : Option Bytes := none
  modifyDescription : Option (String × Bytes) := none
  modifyAnnouncementsOnly : Option Bool := none
  modifyMemberLabels : List LabelEntry := []
  modifyMemberLabelAccess : Option AccessRequired := none

variable (Z : GroupExternals) (ops : GroupOperations)

def AddMember.build : AddMember → Except GroupDecodingError Proto.AddMemberAction
  | .plain aci profileKey role => ops.buildAddMemberAction Z aci profileKey role
  | .withCredential credential role server randomness =>
      .ok (ops.buildAddMemberActionWithCredential Z credential role server randomness)

/-- The actions a plan builds. There is no builder for the fields left at their
    defaults. -/
def Plan.actions (plan : Plan) : Except GroupDecodingError Proto.Actions := do
  let addMembers ← plan.addMembers.mapM (AddMember.build Z ops)
  let deleteMembers ← plan.deleteMembers.mapM (ops.buildRemoveMemberAction Z)
  let modifyMemberRoles ← plan.modifyMemberRoles.mapM fun (aci, role) =>
    ops.buildModifyMemberRoleAction Z aci role
  let addMembersPendingProfileKey ← plan.addMembersPendingProfileKey.mapM
    fun (invitee, addedBy, role) => ops.buildAddPendingMemberAction Z invitee addedBy role
  let deleteMembersPendingProfileKey ← plan.deleteMembersPendingProfileKey.mapM
    (ops.buildRemovePendingMemberAction Z)
  let promoteMembersPendingProfileKey ← plan.promoteMembersPendingProfileKey.mapM
    fun (aci, key) => ops.buildPromotePendingMemberAction Z aci key
  let addMembersPendingAdminApproval ← plan.addMembersPendingAdminApproval.mapM
    fun (aci, key) => ops.buildAddRequestingMemberAction Z aci key
  let deleteMembersPendingAdminApproval ← plan.deleteMembersPendingAdminApproval.mapM
    (ops.buildRemoveRequestingMemberAction Z)
  let promoteMembersPendingAdminApproval ← plan.promoteMembersPendingAdminApproval.mapM
    fun (aci, role) => ops.buildPromoteRequestingMemberAction Z aci role
  let modifyMemberLabels ← plan.modifyMemberLabels.mapM fun label =>
    ops.buildModifyMemberLabelAction Z label.aci label.labelString label.labelEmoji
      label.emojiRandomness label.stringRandomness
  return {
    sourceUserId := plan.sourceUserId
    groupId := plan.groupId
    version := plan.version
    addMembers
    deleteMembers
    modifyMemberRoles
    addMembersPendingProfileKey
    deleteMembersPendingProfileKey
    promoteMembersPendingProfileKey
    addMembersPendingAdminApproval
    deleteMembersPendingAdminApproval
    promoteMembersPendingAdminApproval
    modifyMemberLabels
    modifyTitle := plan.modifyTitle.map fun (title, randomness) =>
      ops.buildModifyTitleAction Z title randomness
    modifyAvatar := plan.modifyAvatar.map GroupOperations.buildModifyAvatarAction
    modifyDisappearingMessageTimer :=
      plan.modifyDisappearingMessageTimer.map fun (timer, randomness) =>
        ops.buildModifyDisappearingMessagesTimerAction Z timer randomness
    modifyAttributesAccess :=
      plan.modifyAttributesAccess.map GroupOperations.buildModifyAttributesAccessAction
    modifyMemberAccess :=
      plan.modifyMemberAccess.map GroupOperations.buildModifyMembersAccessAction
    modifyAddFromInviteLinkAccess :=
      plan.modifyAddFromInviteLinkAccess.map GroupOperations.buildModifyInviteLinkAccessAction
    modifyInviteLinkPassword :=
      plan.modifyInviteLinkPassword.map GroupOperations.buildModifyInviteLinkPasswordAction
    modifyDescription := plan.modifyDescription.map fun (description, randomness) =>
      ops.buildModifyDescriptionAction Z description randomness
    modifyAnnouncementsOnly :=
      plan.modifyAnnouncementsOnly.map GroupOperations.buildModifyAnnouncementsOnlyAction
    modifyMemberLabelAccess :=
      plan.modifyMemberLabelAccess.map GroupOperations.buildModifyMemberLabelAccessAction }

/-! ## What a plan denotes -/

/-- No text and empty text are both unset. -/
def unsetIfEmpty (text : Option String) : Option String := text.filter fun s => s ≠ ""

def AddMember.change : AddMember → GroupChange
  | .plain aci profileKey role => .newMember ⟨aci, role, profileKey, 0, none, none⟩
  | .withCredential credential role _ _ =>
      .newMember ⟨credential.aci, role, credential.profileKey, 0, none, none⟩

/-- One change for each entry, in the order of the reader. -/
def Plan.changes (plan : Plan) : List GroupChange :=
  [plan.addMembers.map AddMember.change,
    plan.deleteMembers.map .deleteMember,
    plan.modifyMemberRoles.map fun (aci, role) => .modifyMemberRole aci role,
    plan.addMembersPendingProfileKey.map fun (invitee, addedBy, role) =>
      .newPendingMember ⟨invitee, role, addedBy, 0⟩,
    plan.deleteMembersPendingProfileKey.map .deletePendingMember,
    plan.promoteMembersPendingProfileKey.map fun (aci, key) =>
      .promotePendingMember (.aci aci) key,
    plan.modifyTitle.toList.map fun (title, _) => .title title,
    plan.modifyAvatar.toList.map .avatar,
    plan.modifyDisappearingMessageTimer.toList.map fun (timer, _) => .timer (some timer),
    plan.modifyAttributesAccess.toList.map .attributeAccess,
    plan.modifyDescription.toList.map fun (description, _) =>
      .description (unsetIfEmpty (some description)),
    plan.modifyMemberAccess.toList.map .memberAccess,
    plan.modifyAddFromInviteLinkAccess.toList.map .inviteLinkAccess,
    plan.addMembersPendingAdminApproval.map fun (aci, key) =>
      .newRequestingMember ⟨aci, key, 0⟩,
    plan.deleteMembersPendingAdminApproval.map .deleteRequestingMember,
    plan.promoteMembersPendingAdminApproval.map fun (aci, role) =>
      .promoteRequestingMember aci role,
    plan.modifyInviteLinkPassword.toList.map fun password =>
      .inviteLinkPassword (Z.base64 password),
    plan.modifyAnnouncementsOnly.toList.map .announcementOnly,
    plan.modifyMemberLabels.map fun label =>
      .memberLabel (.aci label.aci) (unsetIfEmpty label.labelEmoji)
        (unsetIfEmpty label.labelString),
    plan.modifyMemberLabelAccess.toList.map .memberLabelAccess].flatten

/-! ## Single values read back -/

namespace GroupOperations

variable {Z} (lawful : Z.Lawful)

include lawful

theorem decryptServiceId_encrypt (id : ServiceId) :
    ops.decryptServiceId Z (Z.encryptServiceId ops.groupSecretParams id).serialized = .ok id := by
  simp [decryptServiceId, lawful.serviceIdBytes, lawful.serviceId]

theorem decryptAci_encrypt (aci : Aci) :
    ops.decryptAci Z (Z.encryptServiceId ops.groupSecretParams (.aci aci)).serialized =
      .ok aci := by
  simp only [decryptAci, decryptServiceId_encrypt ops lawful]
  rfl

theorem decryptProfileKey_encrypt (key : ProfileKey) (aci : Aci) :
    ops.decryptProfileKey Z (Z.encryptProfileKey ops.groupSecretParams key aci).serialized aci =
      .ok key := by
  simp [decryptProfileKey, lawful.profileKeyBytes, lawful.profileKey]

theorem decryptProfileKeyPresentation_plain (key : ProfileKey) (aci : Aci) :
    ops.decryptProfileKeyPresentation Z
        (Z.encryptServiceId ops.groupSecretParams (.aci aci)).serialized
        (Z.encryptProfileKey ops.groupSecretParams key aci).serialized [] = .ok (aci, key) := by
  simp only [decryptProfileKeyPresentation, List.isEmpty_nil, if_true,
    decryptAci_encrypt ops lawful]
  exact congrArg (Except.map fun key => (aci, key)) (decryptProfileKey_encrypt ops lawful key aci)

theorem decryptProfileKeyPresentation_presented (server : ServerPublicParams)
    (randomness userId profileKey : Bytes) (credential : ExpiringProfileKeyCredential) :
    ops.decryptProfileKeyPresentation Z userId profileKey
        (ops.createMemberPresentation Z server randomness credential) =
      .ok (credential.aci, credential.profileKey) := by
  obtain ⟨opened, parsed, aci, key⟩ :=
    lawful.presentation server randomness ops.groupSecretParams credential
  have present : (Z.createPresentation server randomness ops.groupSecretParams
      credential).isEmpty = false := by
    simpa using lawful.presented server randomness ops.groupSecretParams credential
  simp [decryptProfileKeyPresentation, createMemberPresentation, present, parsed, aci, key]

theorem decryptMemberLabel_encrypt (text : Option String) (randomness : Bytes) :
    ops.decryptMemberLabel Z (ops.maybeEncryptString Z text randomness) = unsetIfEmpty text := by
  unfold maybeEncryptString unsetIfEmpty
  cases text.filter (fun s => s ≠ "") with
  | none => rfl
  | some s =>
      have present : (Z.encryptBlobWithPadding ops.groupSecretParams randomness (utf8Bytes s)
          0).isEmpty = false := by
        rw [List.isEmpty_eq_false_iff]
        intro empty
        have length := lawful.blobLength ops.groupSecretParams randomness (utf8Bytes s)
        rw [empty] at length
        simp at length
      simp [decryptMemberLabel, maybeDecryptString, present, decryptString, lawful.blob,
        Except.map]

/-- A blob of the crate's own making is never taken for a short one. -/
theorem decryptBlob_encrypt (content : Proto.BlobContent) (randomness : Bytes) :
    ops.decryptBlob Z (ops.encryptBlobContent Z content randomness) = ⟨some content⟩ := by
  have length := lawful.blobLength ops.groupSecretParams randomness (Z.encodeBlob ⟨some content⟩)
  have present : (ops.encryptBlobContent Z content randomness).isEmpty = false := by
    rw [List.isEmpty_eq_false_iff]
    intro empty
    unfold encryptBlobContent at empty
    rw [empty] at length
    simp at length
  have long : ¬ (ops.encryptBlobContent Z content randomness).length < 29 := by
    unfold encryptBlobContent
    omega
  simp only [decryptBlob, present, Bool.false_eq_true, if_false, long]
  simp [encryptBlobContent, lawful.blob, lawful.blobCoding]

/-! ## Entries read back -/

theorem decryptMember_add (entry : AddMember) {action : Proto.AddMemberAction}
    (built : entry.build Z ops = .ok action) :
    ∃ added, action.added = some added ∧
      (ops.decryptMember Z added).map GroupChange.newMember = .ok entry.change := by
  cases entry with
  | plain aci profileKey role =>
      cases built
      refine ⟨_, rfl, ?_⟩
      simp only [decryptMember, decryptProfileKeyPresentation_plain ops lawful]
      simp [bind, Except.bind, pure, Except.pure, Except.map, decryptMemberLabel,
        maybeDecryptString, AddMember.change]
  | withCredential credential role server randomness =>
      cases built
      refine ⟨_, rfl, ?_⟩
      simp only [decryptMember, decryptProfileKeyPresentation_presented ops lawful]
      simp [bind, Except.bind, pure, Except.pure, Except.map, decryptMemberLabel,
        maybeDecryptString, AddMember.change]

theorem decryptPendingMember_add (entry : ServiceId × Aci × Role) :
    ∃ action added,
      ops.buildAddPendingMemberAction Z entry.1 entry.2.1 entry.2.2 = .ok action ∧
      action = some added ∧
      (ops.decryptPendingMember Z added).map GroupChange.newPendingMember =
        .ok (.newPendingMember ⟨entry.1, entry.2.2, entry.2.1, 0⟩) := by
  refine ⟨_, _, rfl, rfl, ?_⟩
  simp only [decryptPendingMember, decryptServiceId_encrypt ops lawful,
    decryptAci_encrypt ops lawful, Role.ofInt32_toInt32]
  rfl

theorem decryptRequestingMember_add (entry : Aci × ProfileKey) :
    ∃ action added, ops.buildAddRequestingMemberAction Z entry.1 entry.2 = .ok action ∧
      action = some added ∧
      (ops.decryptRequestingMember Z added).map GroupChange.newRequestingMember =
        .ok (.newRequestingMember ⟨entry.1, entry.2, 0⟩) := by
  refine ⟨_, _, rfl, rfl, ?_⟩
  simp only [decryptRequestingMember, decryptProfileKeyPresentation_plain ops lawful]
  rfl

end GroupOperations

/-! ## Whole fields read back -/

/-- If every entry builds to an action that is read as its change, the whole field is
    read as the changes. -/
theorem mapM_built {ε α β β' γ : Type} {build : α → Except ε β} {part : β → Option β'}
    {read : β' → Except ε γ} {change : α → γ}
    (entry : ∀ a, ∃ b c, build a = .ok b ∧ part b = some c ∧ read c = .ok (change a))
    (entries : List α) :
    ∃ built, entries.mapM build = .ok built ∧
      (built.filterMap part).map read = (entries.map change).map .ok := by
  induction entries with
  | nil => exact ⟨[], rfl, rfl⟩
  | cons a rest ih =>
      obtain ⟨b, c, built, present, reads⟩ := entry a
      obtain ⟨bs, restBuilt, restReads⟩ := ih
      refine ⟨b :: bs, ?_, ?_⟩
      · rw [List.mapM_cons, built]
        simp [restBuilt, bind, Except.bind, pure, Except.pure]
      · simp only [List.filterMap_cons, present, List.map_cons, reads, restReads]

/-- The same where the action is read as it is. -/
theorem mapM_built_plain {ε α β γ : Type} {build : α → Except ε β} {read : β → Except ε γ}
    {change : α → γ} (entry : ∀ a, ∃ b, build a = .ok b ∧ read b = .ok (change a))
    (entries : List α) :
    ∃ built, entries.mapM build = .ok built ∧
      built.map read = (entries.map change).map .ok := by
  have wrapped : ∀ a, ∃ b c, build a = .ok b ∧ some b = some c ∧ read c = .ok (change a) := by
    intro a
    obtain ⟨b, built, reads⟩ := entry a
    exact ⟨b, b, built, rfl, reads⟩
  obtain ⟨built, builds, reads⟩ := mapM_built wrapped entries
  exact ⟨built, builds, by simpa using reads⟩

theorem collect_ok {ε α : Type} (as : List α) :
    GroupOperations.collect (as.map (Except.ok : α → Except ε α)) = .ok as := by
  induction as with
  | nil => rfl
  | cons a rest ih => simp [GroupOperations.collect, ih, bind, Except.bind, pure, Except.pure]

theorem collect_ok_iff {ε α : Type} {xs : List (Except ε α)} {as : List α} :
    GroupOperations.collect xs = .ok as ↔ List.Forall₂ (fun x a => x = .ok a) xs as := by
  induction xs generalizing as with
  | nil => cases as <;> simp [GroupOperations.collect]
  | cons x xs ih =>
      cases x with
      | error e => cases as <;> simp [GroupOperations.collect, bind, Except.bind]
      | ok a =>
          cases rest : GroupOperations.collect xs with
          | error e =>
              cases as <;> simp [GroupOperations.collect, rest, bind, Except.bind, ← ih]
          | ok bs =>
              cases as <;>
                simp [GroupOperations.collect, rest, bind, Except.bind, pure, Except.pure, ← ih]

theorem option_read {α β γ : Type} {ε : Type} {build : α → β} {read : β → Except ε γ}
    {change : α → γ} (entry : ∀ a, read (build a) = .ok (change a)) (field : Option α) :
    (field.map build).toList.map read = (field.toList.map change).map .ok := by
  cases field with
  | none => rfl
  | some a => simp [entry]

section Fields

open GroupOperations

variable {Z} (lawful : Z.Lawful)

theorem modifyAccess_read (change : AccessRequired → GroupChange) (access : Option AccessRequired) :
    modifyAccess change (access.map AccessRequired.toInt32) =
      (access.toList.map change).map .ok :=
  option_read (fun a => by simp [Except.map]) access

include lawful

theorem newMembers_read (entries : List AddMember) :
    ∃ built, entries.mapM (AddMember.build Z ops) = .ok built ∧
      ops.newMembers Z built = (entries.map AddMember.change).map .ok := by
  refine mapM_built (fun entry => ?_) entries
  have builds : ∃ action, entry.build Z ops = .ok action := by
    cases entry <;> exact ⟨_, rfl⟩
  obtain ⟨action, built⟩ := builds
  obtain ⟨added, present, reads⟩ := decryptMember_add ops lawful entry built
  exact ⟨action, added, built, present, reads⟩

theorem deleteMembers_read (entries : List Aci) :
    ∃ built, entries.mapM (ops.buildRemoveMemberAction Z) = .ok built ∧
      ops.deleteMembers Z built = (entries.map GroupChange.deleteMember).map .ok :=
  mapM_built_plain (fun aci => ⟨_, rfl, by rw [decryptAci_encrypt ops lawful]; rfl⟩) entries

theorem modifyMemberRoles_read (entries : List (Aci × Role)) :
    ∃ built, (entries.mapM fun (aci, role) => ops.buildModifyMemberRoleAction Z aci role) =
        .ok built ∧
      ops.modifyMemberRoles Z built =
        (entries.map fun (aci, role) => GroupChange.modifyMemberRole aci role).map .ok := by
  refine mapM_built_plain (fun entry => ⟨_, rfl, ?_⟩) entries
  simp only [decryptAci_encrypt ops lawful, Role.ofInt32_toInt32]
  rfl

theorem addMembersPendingProfileKey_read (entries : List (ServiceId × Aci × Role)) :
    ∃ built, (entries.mapM fun (invitee, addedBy, role) =>
        ops.buildAddPendingMemberAction Z invitee addedBy role) = .ok built ∧
      ops.addMembersPendingProfileKey Z built =
        (entries.map fun (invitee, addedBy, role) =>
          GroupChange.newPendingMember ⟨invitee, role, addedBy, 0⟩).map .ok :=
  mapM_built (decryptPendingMember_add ops lawful) entries

theorem deleteMembersPendingProfileKey_read (entries : List ServiceId) :
    ∃ built, entries.mapM (ops.buildRemovePendingMemberAction Z) = .ok built ∧
      ops.deleteMembersPendingProfileKey Z built =
        (entries.map GroupChange.deletePendingMember).map .ok :=
  mapM_built_plain (fun id => ⟨_, rfl, by rw [decryptServiceId_encrypt ops lawful]; rfl⟩) entries

theorem promoteMembersPendingProfileKey_read (entries : List (Aci × ProfileKey)) :
    ∃ built, (entries.mapM fun (aci, key) => ops.buildPromotePendingMemberAction Z aci key) =
        .ok built ∧
      ops.promoteMembersPendingProfileKey Z built =
        (entries.map fun (aci, key) => GroupChange.promotePendingMember (.aci aci) key).map
          .ok := by
  refine mapM_built_plain (fun entry => ⟨_, rfl, ?_⟩) entries
  simp only [decryptProfileKeyPresentation_plain ops lawful]
  rfl

theorem addMembersPendingAdminApproval_read (entries : List (Aci × ProfileKey)) :
    ∃ built, (entries.mapM fun (aci, key) => ops.buildAddRequestingMemberAction Z aci key) =
        .ok built ∧
      ops.addMembersPendingAdminApproval Z built =
        (entries.map fun (aci, key) => GroupChange.newRequestingMember ⟨aci, key, 0⟩).map .ok :=
  mapM_built (decryptRequestingMember_add ops lawful) entries

theorem deleteMembersPendingAdminApproval_read (entries : List Aci) :
    ∃ built, entries.mapM (ops.buildRemoveRequestingMemberAction Z) = .ok built ∧
      ops.deleteMembersPendingAdminApproval Z built =
        (entries.map GroupChange.deleteRequestingMember).map .ok :=
  mapM_built_plain (fun aci => ⟨_, rfl, by rw [decryptAci_encrypt ops lawful]; rfl⟩) entries

theorem promoteMembersPendingAdminApproval_read (entries : List (Aci × Role)) :
    ∃ built, (entries.mapM fun (aci, role) =>
        ops.buildPromoteRequestingMemberAction Z aci role) = .ok built ∧
      ops.promoteMembersPendingAdminApproval Z built =
        (entries.map fun (aci, role) => GroupChange.promoteRequestingMember aci role).map
          .ok := by
  refine mapM_built_plain (fun entry => ⟨_, rfl, ?_⟩) entries
  simp only [decryptAci_encrypt ops lawful, Role.ofInt32_toInt32]
  rfl

theorem modifyMemberLabels_read (entries : List LabelEntry) :
    ∃ built, (entries.mapM fun label =>
        ops.buildModifyMemberLabelAction Z label.aci label.labelString label.labelEmoji
          label.emojiRandomness label.stringRandomness) = .ok built ∧
      ops.modifyMemberLabels Z built =
        (entries.map fun label => GroupChange.memberLabel (.aci label.aci)
          (unsetIfEmpty label.labelEmoji) (unsetIfEmpty label.labelString)).map .ok := by
  refine mapM_built_plain (fun label => ⟨_, rfl, ?_⟩) entries
  simp only [decryptServiceId_encrypt ops lawful, decryptMemberLabel_encrypt ops lawful]
  rfl

theorem modifyTitle_read (field : Option (String × Bytes)) :
    ops.modifyTitle Z (field.map fun (title, randomness) =>
        ops.buildModifyTitleAction Z title randomness) =
      (field.toList.map fun (title, _) => GroupChange.title title).map .ok :=
  option_read (fun a => by
    simp [buildModifyTitleAction, encryptTitle, decryptTitle, decryptBlob_encrypt ops lawful])
    field

theorem modifyDescription_read (field : Option (String × Bytes)) :
    ops.modifyDescription Z (field.map fun (description, randomness) =>
        ops.buildModifyDescriptionAction Z description randomness) =
      (field.toList.map fun (description, _) =>
        GroupChange.description (unsetIfEmpty (some description))).map .ok :=
  option_read (fun a => by
    simp [buildModifyDescriptionAction, encryptDescription, decryptDescriptionText,
      decryptBlob_encrypt ops lawful, unsetIfEmpty]) field

theorem modifyDisappearingMessageTimer_read (field : Option (Timer × Bytes)) :
    ops.modifyDisappearingMessageTimer Z (field.map fun (timer, randomness) =>
        ops.buildModifyDisappearingMessagesTimerAction Z timer randomness) =
      (field.toList.map fun (timer, _) => GroupChange.timer (some timer)).map .ok :=
  option_read (fun a => by
    simp [buildModifyDisappearingMessagesTimerAction, encryptDisappearingMessagesTimer,
      decryptDisappearingMessagesTimer, decryptBlob_encrypt ops lawful]) field

end Fields

/-! ## Whole changes -/

section Change

open GroupOperations

variable {Z} (lawful : Z.Lawful)

include lawful

/-- Every plan builds, and the reader makes its changes of the actions, whatever is
    stamped over. -/
theorem decryptActions_plan (plan : Plan) :
    ∃ actions, plan.actions Z ops = .ok actions ∧ actions.version = plan.version ∧
      ∀ sourceUserId groupId,
        ops.decryptActions Z { actions with sourceUserId, groupId } =
          (plan.changes Z).map .ok := by
  obtain ⟨addMembers, added, newMembers⟩ := newMembers_read ops lawful plan.addMembers
  obtain ⟨deleted, deletes, deleteMembers⟩ := deleteMembers_read ops lawful plan.deleteMembers
  obtain ⟨roles, modifies, modifyMemberRoles⟩ :=
    modifyMemberRoles_read ops lawful plan.modifyMemberRoles
  obtain ⟨invited, invites, addPending⟩ :=
    addMembersPendingProfileKey_read ops lawful plan.addMembersPendingProfileKey
  obtain ⟨retracted, retracts, deletePending⟩ :=
    deleteMembersPendingProfileKey_read ops lawful plan.deleteMembersPendingProfileKey
  obtain ⟨accepted, accepts, promotePending⟩ :=
    promoteMembersPendingProfileKey_read ops lawful plan.promoteMembersPendingProfileKey
  obtain ⟨requested, requests, addRequesting⟩ :=
    addMembersPendingAdminApproval_read ops lawful plan.addMembersPendingAdminApproval
  obtain ⟨rejected, rejects, deleteRequesting⟩ :=
    deleteMembersPendingAdminApproval_read ops lawful plan.deleteMembersPendingAdminApproval
  obtain ⟨approved, approves, promoteRequesting⟩ :=
    promoteMembersPendingAdminApproval_read ops lawful plan.promoteMembersPendingAdminApproval
  obtain ⟨labelled, labels, memberLabels⟩ :=
    modifyMemberLabels_read ops lawful plan.modifyMemberLabels
  refine ⟨_, by simp [Plan.actions, added, deletes, modifies, invites, retracts, accepts,
    requests, rejects, approves, labels, bind, Except.bind, pure, Except.pure]; rfl, rfl, ?_⟩
  intro sourceUserId groupId
  -- the five kinds without a builder are read as nothing
  have profileKeys : ops.modifyMemberProfileKeys Z [] = [] := rfl
  have banned : ops.addMembersBanned Z [] = [] := rfl
  have unbanned : ops.deleteMembersBanned Z [] = [] := rfl
  have pniPromoted : ops.promoteMembersPendingPniAciProfileKey Z [] = [] := rfl
  have terminated : terminateGroup false = [] := rfl
  have avatar : modifyAvatar (plan.modifyAvatar.map buildModifyAvatarAction) =
      (plan.modifyAvatar.toList.map GroupChange.avatar).map .ok := by
    cases plan.modifyAvatar <;> rfl
  have password : modifyInviteLinkPassword Z
      (plan.modifyInviteLinkPassword.map buildModifyInviteLinkPasswordAction) =
        (plan.modifyInviteLinkPassword.toList.map fun password =>
          GroupChange.inviteLinkPassword (Z.base64 password)).map .ok := by
    cases plan.modifyInviteLinkPassword <;> rfl
  have announcements : modifyAnnouncementsOnly
      (plan.modifyAnnouncementsOnly.map buildModifyAnnouncementsOnlyAction) =
        (plan.modifyAnnouncementsOnly.toList.map GroupChange.announcementOnly).map .ok := by
    cases plan.modifyAnnouncementsOnly <;> rfl
  have attributes := modifyAccess_read .attributeAccess plan.modifyAttributesAccess
  have members := modifyAccess_read .memberAccess plan.modifyMemberAccess
  have inviteLink := modifyAccess_read .inviteLinkAccess plan.modifyAddFromInviteLinkAccess
  have labelAccess := modifyAccess_read .memberLabelAccess plan.modifyMemberLabelAccess
  have title := modifyTitle_read ops lawful plan.modifyTitle
  have description := modifyDescription_read ops lawful plan.modifyDescription
  have timer := modifyDisappearingMessageTimer_read ops lawful plan.modifyDisappearingMessageTimer
  unfold decryptActions Plan.changes
  rw [List.map_flatten]
  simp only [List.map_cons, List.map_nil, ← newMembers, ← deleteMembers, ← modifyMemberRoles,
    ← addPending, ← deletePending, ← promotePending, ← addRequesting, ← deleteRequesting,
    ← promoteRequesting, ← memberLabels, ← title, ← avatar, ← timer, ← attributes, ← description,
    ← members, ← inviteLink, ← password, ← announcements, ← labelAccess, profileKeys, banned,
    unbanned, pniPromoted, terminated, List.flatten_cons, List.nil_append, List.flatten_nil]
  rfl

/-- What the builders made is read back as what they were asked for, from the editor, at
    the version and in the group they were made for. Prost has to read back the one
    message that was written. -/
theorem decryptGroupChange_encryptGroupChange (editor : Aci) (plan : Plan)
    (prost : ∀ actions stamped, plan.actions Z ops = .ok actions →
      ops.stamp Z editor actions = .ok stamped →
        Z.decodeActions (Z.encodeActions stamped) = some stamped) :
    ∃ actions change, plan.actions Z ops = .ok actions ∧
      ops.encryptGroupChange Z editor actions = .ok change ∧
      ops.decryptGroupChange Z change =
        .ok ⟨Z.getGroupIdentifier ops.groupSecretParams, editor, plan.version, plan.changes Z,
          0⟩ := by
  obtain ⟨actions, built, version, reads⟩ := decryptActions_plan ops lawful plan
  have stamped : ops.stamp Z editor actions = .ok { actions with
      sourceUserId := (Z.encryptServiceId ops.groupSecretParams (.aci editor)).serialized
      groupId := (Z.getGroupIdentifier ops.groupSecretParams).bytes } := rfl
  have decoded := prost actions _ built stamped
  refine ⟨actions, _, built, by rw [encryptGroupChange, stamped]; rfl, ?_⟩
  have groupId : GroupIdentifier.ofBytes? (Z.getGroupIdentifier ops.groupSecretParams).bytes =
      some (Z.getGroupIdentifier ops.groupSecretParams) := by
    simp [GroupIdentifier.ofBytes?, (Z.getGroupIdentifier ops.groupSecretParams).size]
  unfold decryptGroupChange
  rw [decoded, ← version]
  simp only [decryptAci_encrypt ops lawful, groupId, reads, collect_ok]
  rfl

end Change

/-! ## An instance

Ciphertexts of libsignal's lengths that hide nothing, with the protobuf bytes of one
change: a member removed and the avatar cleared at version 3. -/

namespace Sample

def kindByte : ServiceId → UInt8
  | .aci _ => 0
  | .pni _ => 1

def sealId (id : ServiceId) : Bytes :=
  0 :: kindByte id :: (id.rawUuid.toBytes ++ List.replicate 47 0)

def openId (bytes : Bytes) : Option ServiceId :=
  (Uuid.ofBytes? ((bytes.drop 2).take 16)).map fun uuid =>
    if bytes[1]? = some 0 then .aci ⟨uuid⟩ else .pni ⟨uuid⟩

theorem openId_sealId (id : ServiceId) : openId (sealId id) = some id := by
  have front : ((sealId id).drop 2).take 16 = id.rawUuid.toBytes := by
    simp [sealId, Uuid.toBytes]
  rw [openId, front, Uuid.ofBytes?_toBytes]
  cases id <;> rfl

theorem length_sealId (id : ServiceId) : (sealId id).length = 65 := by
  simp [sealId, Uuid.toBytes]

def sealKey (key : ProfileKey) : Bytes := 0 :: (key.bytes ++ List.replicate 32 0)

def openKey (bytes : Bytes) : Option ProfileKey :=
  if size : ((bytes.drop 1).take 32).length = 32 then some ⟨(bytes.drop 1).take 32, size⟩ else none

theorem openKey_sealKey (key : ProfileKey) : openKey (sealKey key) = some key := by
  have front : ((sealKey key).drop 1).take 32 = key.bytes := by
    simp [sealKey, List.take_left' key.size]
  unfold openKey
  simp only [front]
  rw [dif_pos key.size]

theorem length_sealKey (key : ProfileKey) : (sealKey key).length = 65 := by
  simp [sealKey, key.size]

def encodeBlob : Proto.GroupAttributeBlob → Bytes
  | ⟨none⟩ => []
  | ⟨some (.title title)⟩ => 0x0A :: utf8Bytes title
  | ⟨some (.avatar avatar)⟩ => 0x12 :: avatar
  | ⟨some (.disappearingMessagesDuration duration)⟩ => 0x18 :: bigEndian 4 duration.toNat
  | ⟨some (.descriptionText text)⟩ => 0x22 :: utf8Bytes text

def decodeBlob : Bytes → Option Proto.GroupAttributeBlob
  | [] => some ⟨none⟩
  | tag :: rest =>
      if tag = 0x0A then (utf8String? rest).map fun title => ⟨some (.title title)⟩
      else if tag = 0x12 then some ⟨some (.avatar rest)⟩
      else if tag = 0x18 then
        some ⟨some (.disappearingMessagesDuration (UInt32.ofNat (ofBigEndian rest)))⟩
      else (utf8String? rest).map fun text => ⟨some (.descriptionText text)⟩

theorem decodeBlob_encodeBlob (blob : Proto.GroupAttributeBlob) :
    decodeBlob (encodeBlob blob) = some blob := by
  obtain ⟨content⟩ := blob
  cases content with
  | none => rfl
  | some content =>
      cases content with
      | title title => simp [encodeBlob, decodeBlob]
      | avatar avatar => simp [encodeBlob, decodeBlob]
      | disappearingMessagesDuration duration =>
          have bound : duration.toNat < 256 ^ 4 := duration.toNat_lt
          simp [encodeBlob, decodeBlob, ofBigEndian_bigEndian bound]
      | descriptionText text => simp [encodeBlob, decodeBlob]

def removedAci : Aci := ⟨⟨0x6ba7b8109dad11d180b400c04fd430c8⟩⟩

def editorAci : Aci := ⟨⟨0x550e8400e29b41d4a716446655440000⟩⟩

def groupIdentifier : GroupIdentifier := ⟨List.replicate 32 0x47, by decide⟩

def removalPlan : Plan where
  version := 3
  deleteMembers := [removedAci]
  modifyAvatar := some ""

def removalActions : Proto.Actions where
  sourceUserId := sealId (.aci editorAci)
  groupId := groupIdentifier.bytes
  version := 3
  deleteMembers := [sealId (.aci removedAci)]
  modifyAvatar := some ""

def removalBytes : Bytes :=
  0x0A :: 65 :: sealId (.aci editorAci) ++ [0x10, 3] ++
    0x22 :: 67 :: 0x0A :: 65 :: sealId (.aci removedAci) ++ [0x5A, 0] ++
    0xCA :: 0x01 :: 32 :: groupIdentifier.bytes

def groupExternals : GroupExternals where
  getGroupIdentifier _ := groupIdentifier
  encryptServiceId _ id := ⟨sealId id⟩
  decryptServiceId _ ciphertext := openId ciphertext.serialized
  encryptProfileKey _ key _ := ⟨sealKey key⟩
  decryptProfileKey _ ciphertext _ := openKey ciphertext.serialized
  encryptBlobWithPadding _ _ plaintext padding :=
    List.replicate 4 0 ++ plaintext ++ List.replicate (padding + 29) 0
  decryptBlobWithPadding _ bytes := some ((bytes.drop 4).take (bytes.length - 33))
  deserializeUuidCiphertext bytes := if bytes.length = 65 then some ⟨bytes⟩ else none
  deserializeProfileKeyCiphertext bytes := if bytes.length = 65 then some ⟨bytes⟩ else none
  createPresentation _ _ _ credential :=
    3 :: sealId (.aci credential.aci) ++ sealKey credential.profileKey
  newPresentation bytes := some ⟨⟨(bytes.drop 1).take 65⟩, ⟨bytes.drop 66⟩⟩
  encodeBlob := encodeBlob
  decodeBlob := decodeBlob
  encodeActions actions := if actions = removalActions then removalBytes else []
  decodeActions bytes := if bytes = removalBytes then some removalActions else none
  base64 _ := ""

theorem groupExternals_lawful : groupExternals.Lawful where
  serviceId _ id := by simp only [groupExternals, openId_sealId]
  serviceIdBytes _ id := by simp [groupExternals, length_sealId]
  profileKey _ key _ := by simp only [groupExternals, openKey_sealKey]
  profileKeyBytes _ key _ := by simp [groupExternals, length_sealKey]
  blob _ _ plaintext := by simp [groupExternals]
  blobLength _ _ plaintext := by
    simp [groupExternals]
    omega
  presented _ _ _ _ := by simp [groupExternals]
  presentation _ _ _ credential := by
    refine ⟨⟨⟨_⟩, ⟨_⟩⟩, by simp only [groupExternals]; rfl, ?_, ?_⟩
    · have front : ((3 :: sealId (.aci credential.aci) ++ sealKey credential.profileKey).drop
          1).take 65 = sealId (.aci credential.aci) :=
        List.take_left' (length_sealId _)
      simp only [groupExternals, front, openId_sealId]
    · have back : (3 :: sealId (.aci credential.aci) ++ sealKey credential.profileKey).drop 66 =
          sealKey credential.profileKey :=
        List.drop_left' (by simp [length_sealId])
      simp only [groupExternals, back, openKey_sealKey]
  blobCoding := decodeBlob_encodeBlob

def removalChange : Proto.GroupChange := ⟨removalBytes, [], 0⟩

def removalRead : GroupChanges :=
  ⟨groupIdentifier, editorAci, 3, [.deleteMember removedAci, .avatar ""], 0⟩

theorem removalChange_decoded :
    groupExternals.decodeActions removalChange.actions = some removalActions := by
  simp [groupExternals, removalChange]

theorem decryptAci_sealId (ops : GroupOperations) (aci : Aci) :
    ops.decryptAci groupExternals (sealId (.aci aci)) = .ok aci :=
  GroupOperations.decryptAci_encrypt ops groupExternals_lawful aci

theorem ofBytes?_groupIdentifier :
    GroupIdentifier.ofBytes? groupIdentifier.bytes = some groupIdentifier :=
  dif_pos groupIdentifier.size

theorem removalActions_read (ops : GroupOperations) :
    GroupOperations.collect (ops.decryptActions groupExternals removalActions) =
      .ok removalRead.changes := by
  obtain ⟨actions, built, -, reads⟩ := decryptActions_plan ops groupExternals_lawful removalPlan
  cases built
  exact (congrArg GroupOperations.collect (reads _ _)).trans (collect_ok _)

theorem removalChange_read (ops : GroupOperations) :
    ops.decryptGroupChange groupExternals removalChange = .ok removalRead := by
  have edited : ops.decryptAci groupExternals removalActions.sourceUserId = .ok editorAci :=
    decryptAci_sealId ops editorAci
  have named : GroupIdentifier.ofBytes? removalActions.groupId = some groupIdentifier :=
    ofBytes?_groupIdentifier
  unfold GroupOperations.decryptGroupChange
  rw [removalChange_decoded]
  simp only [edited, named, removalActions_read]
  rfl

end Sample

theorem removal_read_back :
    Sample.groupExternals.Lawful ∧
      ∃ actions change,
        Sample.removalPlan.actions Sample.groupExternals ⟨⟨[]⟩⟩ = .ok actions ∧
        GroupOperations.encryptGroupChange Sample.groupExternals ⟨⟨[]⟩⟩ Sample.editorAci actions =
          .ok change ∧
        GroupOperations.decryptGroupChange Sample.groupExternals ⟨⟨[]⟩⟩ change =
          .ok ⟨Sample.groupIdentifier, Sample.editorAci, 3,
            [.deleteMember Sample.removedAci, .avatar ""], 0⟩ := by
  refine ⟨Sample.groupExternals_lawful, ?_⟩
  refine decryptGroupChange_encryptGroupChange ⟨⟨[]⟩⟩ Sample.groupExternals_lawful
    Sample.editorAci Sample.removalPlan ?_
  intro actions stamped built stamps
  have same : stamped = Sample.removalActions := by
    cases built
    cases stamps
    rfl
  simp [same, Sample.groupExternals]

end SignalService.Groups

import SignalService.Groups.RoundTrip

/-! # Every entry of a change

The entries of a decoded `Actions`, one for each element of a repeated field and one for
each singular field that is set. The reader makes one change of each entry, except that an
add entry without its member is passed by.
-/

namespace SignalService.Groups

/-! ## Entries -/

inductive Entry where
  | addMember (action : Proto.AddMemberAction)
  | deleteMember (deletedUserId : Bytes)
  | modifyMemberRole (action : Proto.ModifyMemberRoleAction)
  | modifyMemberProfileKey (action : Proto.ProfileKeyAction)
  | addMemberPendingProfileKey (added : Option Proto.MemberPendingProfileKey)
  | deleteMemberPendingProfileKey (deletedUserId : Bytes)
  | promoteMemberPendingProfileKey (action : Proto.ProfileKeyAction)
  | modifyTitle (title : Bytes)
  | modifyAvatar (avatar : String)
  | modifyDisappearingMessageTimer (timer : Bytes)
  | modifyAttributesAccess (access : Int32)
  | modifyDescription (description : Bytes)
  | modifyMemberAccess (access : Int32)
  | addMemberBanned (added : Option Proto.MemberBanned)
  | deleteMemberBanned (deletedUserId : Bytes)
  | promoteMemberPendingPniAciProfileKey
      (action : Proto.PromoteMemberPendingPniAciProfileKeyAction)
  | modifyAddFromInviteLinkAccess (access : Int32)
  | addMemberPendingAdminApproval (added : Option Proto.MemberPendingAdminApproval)
  | deleteMemberPendingAdminApproval (deletedUserId : Bytes)
  | promoteMemberPendingAdminApproval (action : Proto.ModifyMemberRoleAction)
  | modifyInviteLinkPassword (password : Bytes)
  | modifyAnnouncementsOnly (only : Bool)
  | modifyMemberLabel (action : Proto.ModifyMemberLabelAction)
  | modifyMemberLabelAccess (access : Int32)
  | terminateGroup
  deriving DecidableEq

/-- In the order the reader chains them. -/
def Proto.Actions.entries (actions : Proto.Actions) : List Entry :=
  [actions.addMembers.map .addMember,
    actions.deleteMembers.map .deleteMember,
    actions.modifyMemberRoles.map .modifyMemberRole,
    actions.modifyMemberProfileKeys.map .modifyMemberProfileKey,
    actions.addMembersPendingProfileKey.map .addMemberPendingProfileKey,
    actions.deleteMembersPendingProfileKey.map .deleteMemberPendingProfileKey,
    actions.promoteMembersPendingProfileKey.map .promoteMemberPendingProfileKey,
    actions.modifyTitle.toList.map .modifyTitle,
    actions.modifyAvatar.toList.map .modifyAvatar,
    actions.modifyDisappearingMessageTimer.toList.map .modifyDisappearingMessageTimer,
    actions.modifyAttributesAccess.toList.map .modifyAttributesAccess,
    actions.modifyDescription.toList.map .modifyDescription,
    actions.modifyMemberAccess.toList.map .modifyMemberAccess,
    actions.addMembersBanned.map .addMemberBanned,
    actions.deleteMembersBanned.map .deleteMemberBanned,
    actions.promoteMembersPendingPniAciProfileKey.map .promoteMemberPendingPniAciProfileKey,
    actions.modifyAddFromInviteLinkAccess.toList.map .modifyAddFromInviteLinkAccess,
    actions.addMembersPendingAdminApproval.map .addMemberPendingAdminApproval,
    actions.deleteMembersPendingAdminApproval.map .deleteMemberPendingAdminApproval,
    actions.promoteMembersPendingAdminApproval.map .promoteMemberPendingAdminApproval,
    actions.modifyInviteLinkPassword.toList.map .modifyInviteLinkPassword,
    actions.modifyAnnouncementsOnly.toList.map .modifyAnnouncementsOnly,
    actions.modifyMemberLabels.map .modifyMemberLabel,
    actions.modifyMemberLabelAccess.toList.map .modifyMemberLabelAccess,
    if actions.terminateGroup then [.terminateGroup] else []].flatten

/-- The lengths of the repeated fields and the number of set singular ones. -/
def Proto.Actions.entryCount (actions : Proto.Actions) : Nat :=
  actions.addMembers.length + actions.deleteMembers.length + actions.modifyMemberRoles.length +
    actions.modifyMemberProfileKeys.length + actions.addMembersPendingProfileKey.length +
    actions.deleteMembersPendingProfileKey.length +
    actions.promoteMembersPendingProfileKey.length + actions.addMembersBanned.length +
    actions.deleteMembersBanned.length + actions.promoteMembersPendingPniAciProfileKey.length +
    actions.addMembersPendingAdminApproval.length +
    actions.deleteMembersPendingAdminApproval.length +
    actions.promoteMembersPendingAdminApproval.length + actions.modifyMemberLabels.length +
    [actions.modifyTitle.isSome, actions.modifyAvatar.isSome,
      actions.modifyDisappearingMessageTimer.isSome, actions.modifyAttributesAccess.isSome,
      actions.modifyDescription.isSome, actions.modifyMemberAccess.isSome,
      actions.modifyAddFromInviteLinkAccess.isSome, actions.modifyInviteLinkPassword.isSome,
      actions.modifyAnnouncementsOnly.isSome, actions.modifyMemberLabelAccess.isSome,
      actions.terminateGroup].count true

namespace Entry

/-- Only the four kinds that add someone can lack what they add. -/
def carriesMember : Entry → Bool
  | .addMember action => action.added.isSome
  | .addMemberPendingProfileKey added => added.isSome
  | .addMemberBanned added => added.isSome
  | .addMemberPendingAdminApproval added => added.isSome
  | _ => true

/-- The kind of change each kind of entry stands for. -/
def HasKind : Entry → GroupChange → Prop
  | .addMember _, .newMember _ => True
  | .deleteMember _, .deleteMember _ => True
  | .modifyMemberRole _, .modifyMemberRole _ _ => True
  | .modifyMemberProfileKey _, .modifyMemberProfileKey _ _ => True
  | .addMemberPendingProfileKey _, .newPendingMember _ => True
  | .deleteMemberPendingProfileKey _, .deletePendingMember _ => True
  | .promoteMemberPendingProfileKey _, .promotePendingMember _ _ => True
  | .modifyTitle _, .title _ => True
  | .modifyAvatar _, .avatar _ => True
  | .modifyDisappearingMessageTimer _, .timer _ => True
  | .modifyAttributesAccess _, .attributeAccess _ => True
  | .modifyDescription _, .description _ => True
  | .modifyMemberAccess _, .memberAccess _ => True
  | .addMemberBanned _, .addBannedMember _ => True
  | .deleteMemberBanned _, .deleteBannedMember _ => True
  | .promoteMemberPendingPniAciProfileKey _, .promotePendingPniAciMemberProfileKey _ => True
  | .modifyAddFromInviteLinkAccess _, .inviteLinkAccess _ => True
  | .addMemberPendingAdminApproval _, .newRequestingMember _ => True
  | .deleteMemberPendingAdminApproval _, .deleteRequestingMember _ => True
  | .promoteMemberPendingAdminApproval _, .promoteRequestingMember _ _ => True
  | .modifyInviteLinkPassword _, .inviteLinkPassword _ => True
  | .modifyAnnouncementsOnly _, .announcementOnly _ => True
  | .modifyMemberLabel _, .memberLabel _ _ _ => True
  | .modifyMemberLabelAccess _, .memberLabelAccess _ => True
  | .terminateGroup, .terminateGroup => True
  | _, _ => False

variable (Z : GroupExternals) (ops : GroupOperations)

/-- An add entry that has nothing to add is wrong the way `decrypt_pending_member` takes a
    pending member without its member to be. -/
def readAdded {α : Type} (read : α → Except GroupDecodingError GroupChange) :
    Option α → Except GroupDecodingError GroupChange
  | none => .error .wrongBlob
  | some added => read added

/-- The change an entry stands for, if it can be read. -/
def read : Entry → Except GroupDecodingError GroupChange
  | .addMember action => readAdded (fun m => (ops.decryptMember Z m).map .newMember) action.added
  | .deleteMember id => (ops.decryptAci Z id).map .deleteMember
  | .modifyMemberRole m => do
      let aci ← ops.decryptAci Z m.userId
      let role ← Role.ofInt32 m.role
      return .modifyMemberRole aci role
  | .modifyMemberProfileKey m => do
      let (aci, profileKey) ←
        ops.decryptProfileKeyPresentation Z m.userId m.profileKey m.presentation
      return .modifyMemberProfileKey aci profileKey
  | .addMemberPendingProfileKey added =>
      readAdded (fun m => (ops.decryptPendingMember Z m).map .newPendingMember) added
  | .deleteMemberPendingProfileKey id => (ops.decryptServiceId Z id).map .deletePendingMember
  | .promoteMemberPendingProfileKey m => do
      let (aci, profileKey) ←
        ops.decryptProfileKeyPresentation Z m.userId m.profileKey m.presentation
      return .promotePendingMember (.aci aci) profileKey
  | .modifyTitle title => .ok (.title (ops.decryptTitle Z title))
  | .modifyAvatar avatar => .ok (.avatar avatar)
  | .modifyDisappearingMessageTimer timer =>
      .ok (.timer (ops.decryptDisappearingMessagesTimer Z timer))
  | .modifyAttributesAccess access => (AccessRequired.ofInt32 access).map .attributeAccess
  | .modifyDescription d => .ok (.description (ops.decryptDescriptionText Z d))
  | .modifyMemberAccess access => (AccessRequired.ofInt32 access).map .memberAccess
  | .addMemberBanned added =>
      readAdded (fun m => (ops.decryptBannedMember Z m).map .addBannedMember) added
  | .deleteMemberBanned id => (ops.decryptServiceId Z id).map .deleteBannedMember
  | .promoteMemberPendingPniAciProfileKey m =>
      (ops.decryptPniAciPromotionPresentation Z m).map .promotePendingPniAciMemberProfileKey
  | .modifyAddFromInviteLinkAccess access =>
      (AccessRequired.ofInt32 access).map .inviteLinkAccess
  | .addMemberPendingAdminApproval added =>
      readAdded (fun m => (ops.decryptRequestingMember Z m).map .newRequestingMember) added
  | .deleteMemberPendingAdminApproval id => (ops.decryptAci Z id).map .deleteRequestingMember
  | .promoteMemberPendingAdminApproval m => do
      let aci ← ops.decryptAci Z m.userId
      let role ← Role.ofInt32 m.role
      return .promoteRequestingMember aci role
  | .modifyInviteLinkPassword password => .ok (.inviteLinkPassword (Z.base64 password))
  | .modifyAnnouncementsOnly only => .ok (.announcementOnly only)
  | .modifyMemberLabel m => do
      let userId ← ops.decryptServiceId Z m.userId
      return .memberLabel userId (ops.decryptMemberLabel Z m.labelEmoji)
        (ops.decryptMemberLabel Z m.labelString)
  | .modifyMemberLabelAccess access => (AccessRequired.ofInt32 access).map .memberLabelAccess
  | .terminateGroup => .ok .terminateGroup

theorem readAdded_kind {α : Type} {read : α → Except GroupDecodingError GroupChange}
    {added : Option α} {change : GroupChange} (reads : readAdded read added = .ok change) :
    ∃ value, read value = .ok change := by
  cases added with
  | none => cases reads
  | some value => exact ⟨value, reads⟩

end Entry

section Reading

variable {Z : GroupExternals} {ops : GroupOperations}

theorem Entry.hasKind_of_read {entry : Entry} {change : GroupChange}
    (reads : entry.read Z ops = .ok change) : entry.HasKind change := by
  cases entry with
  | addMember | addMemberPendingProfileKey | addMemberBanned | addMemberPendingAdminApproval =>
      obtain ⟨_, reads⟩ := readAdded_kind reads
      obtain ⟨_, -, rfl⟩ := exists_of_map_ok reads
      trivial
  | modifyMemberRole | promoteMemberPendingAdminApproval =>
      obtain ⟨_, -, reads⟩ := exists_of_bind_ok reads
      obtain ⟨_, -, reads⟩ := exists_of_bind_ok reads
      cases reads
      trivial
  | modifyMemberProfileKey | promoteMemberPendingProfileKey | modifyMemberLabel =>
      obtain ⟨_, -, reads⟩ := exists_of_bind_ok reads
      cases reads
      trivial
  | modifyTitle | modifyAvatar | modifyDisappearingMessageTimer | modifyDescription
  | modifyInviteLinkPassword | modifyAnnouncementsOnly | terminateGroup =>
      cases reads
      trivial
  | deleteMember | deleteMemberPendingProfileKey | modifyAttributesAccess | modifyMemberAccess
  | deleteMemberBanned | promoteMemberPendingPniAciProfileKey | modifyAddFromInviteLinkAccess
  | deleteMemberPendingAdminApproval | modifyMemberLabelAccess =>
      obtain ⟨_, -, rfl⟩ := exists_of_map_ok reads
      trivial

/-! ## What the reader makes of them -/

/-- A field whose entries are all read. -/
theorem field_read {α : Type} {entry : α → Entry} {f : α → Except GroupDecodingError GroupChange}
    (carries : ∀ a, (entry a).carriesMember = true) (reads : ∀ a, (entry a).read Z ops = f a)
    (field : List α) :
    field.map f = ((field.map entry).filter Entry.carriesMember).map (Entry.read Z ops) := by
  induction field with
  | nil => rfl
  | cons a field ih => simp [carries, reads, ih]

/-- A field of add entries: those without a member are filtered out. -/
theorem added_read {α β : Type} {entry : α → Entry} {added : α → Option β}
    {f : β → Except GroupDecodingError GroupChange}
    (carries : ∀ a, (entry a).carriesMember = (added a).isSome)
    (reads : ∀ a, (entry a).read Z ops = Entry.readAdded f (added a)) (field : List α) :
    (field.filterMap added).map f =
      ((field.map entry).filter Entry.carriesMember).map (Entry.read Z ops) := by
  induction field with
  | nil => rfl
  | cons a field ih =>
      cases present : added a with
      | none => simpa [List.filterMap_cons, present, carries] using ih
      | some member => simpa [List.filterMap_cons, present, carries, reads, Entry.readAdded] using ih

theorem terminateGroup_read (present : Bool) :
    GroupOperations.terminateGroup present =
      ((if present then [Entry.terminateGroup] else []).filter Entry.carriesMember).map
        (Entry.read Z ops) := by
  cases present <;> rfl

/-- The reader sees every entry but the add entries without a member. -/
theorem decryptActions_entries (actions : Proto.Actions) :
    ops.decryptActions Z actions =
      (actions.entries.filter Entry.carriesMember).map (Entry.read Z ops) := by
  unfold GroupOperations.decryptActions Proto.Actions.entries
  rw [List.filter_flatten, List.map_flatten]
  simp only [List.map_cons, List.map_nil]
  congr 1
  repeat' apply congrArg₂ List.cons
  -- field by field: read entry by entry, or filtered by the member an add entry carries
  all_goals first
    | apply field_read <;> intro <;> rfl
    | apply added_read <;> intro <;> rfl
    | apply terminateGroup_read
    | rfl

theorem length_entries (actions : Proto.Actions) :
    actions.entries.length = actions.entryCount := by
  have singular {α : Type} (field : Option α) :
      field.toList.length = if field.isSome then 1 else 0 := by
    cases field <;> rfl
  have terminated : (if actions.terminateGroup then [Entry.terminateGroup] else []).length =
      if actions.terminateGroup then 1 else 0 := by
    cases actions.terminateGroup <;> rfl
  simp only [Proto.Actions.entries, Proto.Actions.entryCount, List.length_flatten, List.map_cons,
    List.map_nil, List.length_map, List.sum_cons, List.sum_nil, singular, terminated,
    List.count_cons, List.count_nil, beq_true]
  ring

/-- What was read is, in order, what the entries with a member stand for. -/
theorem entries_of_accepted {change : Proto.GroupChange} {actions : Proto.Actions}
    {changes : GroupChanges} (decoded : Z.decodeActions change.actions = some actions)
    (accepted : ops.decryptGroupChange Z change = .ok changes) :
    List.Forall₂ (fun entry change => entry.read Z ops = .ok change ∧ entry.HasKind change)
      (actions.entries.filter Entry.carriesMember) changes.changes := by
  obtain ⟨opened, opens, -, -, -, read, -⟩ := GroupOperations.decryptGroupChange_accepts accepted
  obtain rfl : actions = opened := by simpa [decoded] using opens
  rw [decryptActions_entries, collect_ok_iff, List.forall₂_map_left_iff] at read
  exact read.imp fun entry change reads => ⟨reads, Entry.hasKind_of_read reads⟩

end Reading

/-! ## One change for each entry -/

section Changes

variable (Z : GroupExternals) (ops : GroupOperations)

/-- An accepted change has one change for each entry, of its kind and in order, exactly
    when every add entry carries its member. An entry that has what it is read from, and
    cannot be read, fails the whole call. -/
theorem decryptGroupChange_entries_iff {change : Proto.GroupChange} {actions : Proto.Actions}
    (decoded : Z.decodeActions change.actions = some actions) :
    (∀ changes, ops.decryptGroupChange Z change = .ok changes →
      ((changes.changes.length = actions.entryCount ∧
          List.Forall₂ (fun entry change => entry.read Z ops = .ok change ∧ entry.HasKind change)
            actions.entries changes.changes) ↔
        ∀ entry ∈ actions.entries, entry.carriesMember = true)) ∧
    (∀ entry ∈ actions.entries, entry.carriesMember = true →
      ∀ e, entry.read Z ops = .error e → ∃ e', ops.decryptGroupChange Z change = .error e') := by
  constructor
  · intro changes accepted
    have read := entries_of_accepted decoded accepted
    rw [← length_entries, ← read.length_eq]
    constructor
    · intro ⟨sameLength, _⟩
      exact List.length_filter_eq_length_iff.mp sameLength
    · intro carried
      rw [List.filter_eq_self.mpr carried] at read ⊢
      exact ⟨rfl, read⟩
  · intro entry mem carried e unreadable
    cases accepted : ops.decryptGroupChange Z change with
    | error e' => exact ⟨e', rfl⟩
    | ok changes =>
        have read := entries_of_accepted decoded accepted
        have kept : entry ∈ actions.entries.filter Entry.carriesMember :=
          List.mem_filter.mpr ⟨mem, carried⟩
        have readable : ∀ entry ∈ actions.entries.filter Entry.carriesMember,
            ∃ change, entry.read Z ops = .ok change :=
          ((List.forall₂_and_left _ _).mp
            (read.imp fun _ change reads => ⟨⟨change, reads.1⟩, reads⟩)).1
        obtain ⟨_, reads⟩ := readable entry kept
        rw [unreadable] at reads
        cases reads

end Changes

theorem removal_entries_read :
    Sample.removalActions.entryCount = 2 ∧
      List.Forall₂
        (fun entry change => Entry.read Sample.groupExternals ⟨⟨[]⟩⟩ entry = .ok change ∧
          entry.HasKind change)
        Sample.removalActions.entries Sample.removalRead.changes := by
  have one := (decryptGroupChange_entries_iff Sample.groupExternals ⟨⟨[]⟩⟩
    Sample.removalChange_decoded).1 _ (Sample.removalChange_read _)
  exact ⟨rfl, (one.mpr (by decide)).2⟩

/-! ## An add entry without its member

A change whose one entry is an `AddMemberAction` of no bytes. -/

namespace Sample

def emptyAddActions : Proto.Actions where
  sourceUserId := sealId (.aci editorAci)
  groupId := groupIdentifier.bytes
  addMembers := [⟨none, false⟩]

def emptyAddBytes : Bytes :=
  0x0A :: 65 :: sealId (.aci editorAci) ++ [0x1A, 0] ++ 0xCA :: 0x01 :: 32 :: groupIdentifier.bytes

def emptyAddExternals : GroupExternals :=
  { groupExternals with
    decodeActions := fun bytes => if bytes = emptyAddBytes then some emptyAddActions else none }

end Sample

theorem empty_add_dropped :
    Sample.emptyAddExternals.decodeActions Sample.emptyAddBytes = some Sample.emptyAddActions ∧
      Sample.emptyAddActions.entryCount = 1 ∧
      GroupOperations.decryptGroupChange Sample.emptyAddExternals ⟨⟨[]⟩⟩
          ⟨Sample.emptyAddBytes, [], 0⟩ =
        .ok ⟨Sample.groupIdentifier, Sample.editorAci, 0, [], 0⟩ := by
  have decoded : Sample.emptyAddExternals.decodeActions Sample.emptyAddBytes =
      some Sample.emptyAddActions := by
    simp [Sample.emptyAddExternals]
  have edited : GroupOperations.decryptAci Sample.emptyAddExternals ⟨⟨[]⟩⟩
      Sample.emptyAddActions.sourceUserId = .ok Sample.editorAci :=
    Sample.decryptAci_sealId ⟨⟨[]⟩⟩ Sample.editorAci
  have named : GroupIdentifier.ofBytes? Sample.emptyAddActions.groupId =
      some Sample.groupIdentifier := Sample.ofBytes?_groupIdentifier
  refine ⟨decoded, rfl, ?_⟩
  unfold GroupOperations.decryptGroupChange
  simp only [decoded, edited, named]
  rfl

end SignalService.Groups

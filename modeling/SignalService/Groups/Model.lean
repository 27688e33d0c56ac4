import SignalService.Core

/-! # Groups and group changes

`groups_v2/model.rs` with the messages of `Groups.proto` that a group change is made
of. Enum fields of a message are 32-bit numbers; reading one can fail.
-/

namespace SignalService.Groups

/-- `GroupDecodingError`. -/
inductive GroupDecodingError where
  | zkGroupDeserializationFailure
  | zkGroupVerificationFailure
  | protobufDecodeError
  | wrongBlob
  | wrongEnumValue
  | notAci
  | notPni
  deriving DecidableEq, Repr

/-! ## Values -/

structure ProfileKey where
  bytes : Bytes
  size : bytes.length = 32
  deriving DecidableEq

/-- `GroupV2Id`: `GROUP_IDENTIFIER_LEN` bytes. -/
structure GroupIdentifier where
  bytes : Bytes
  size : bytes.length = 32
  deriving DecidableEq

def GroupIdentifier.ofBytes? (bytes : Bytes) : Option GroupIdentifier :=
  if size : bytes.length = 32 then some ⟨bytes, size⟩ else none

inductive Role where
  | unknown
  | default
  | administrator
  deriving DecidableEq, Repr

namespace Role

def toInt32 : Role → Int32
  | .unknown => 0
  | .default => 1
  | .administrator => 2

def ofInt32 (value : Int32) : Except GroupDecodingError Role :=
  if value = 0 then .ok .unknown
  else if value = 1 then .ok .default
  else if value = 2 then .ok .administrator
  else .error .wrongEnumValue

@[simp] theorem ofInt32_toInt32 (role : Role) : ofInt32 role.toInt32 = .ok role := by
  cases role <;> rfl

end Role

inductive AccessRequired where
  | unknown
  | any
  | member
  | administrator
  | unsatisfiable
  deriving DecidableEq, Repr

namespace AccessRequired

def toInt32 : AccessRequired → Int32
  | .unknown => 0
  | .any => 1
  | .member => 2
  | .administrator => 3
  | .unsatisfiable => 4

def ofInt32 (value : Int32) : Except GroupDecodingError AccessRequired :=
  if value = 0 then .ok .unknown
  else if value = 1 then .ok .any
  else if value = 2 then .ok .member
  else if value = 3 then .ok .administrator
  else if value = 4 then .ok .unsatisfiable
  else .error .wrongEnumValue

@[simp] theorem ofInt32_toInt32 (access : AccessRequired) :
    ofInt32 access.toInt32 = .ok access := by
  cases access <;> rfl

end AccessRequired

structure Timer where
  duration : UInt32
  deriving DecidableEq, Repr

structure Member where
  aci : Aci
  role : Role
  profileKey : ProfileKey
  joinedAtVersion : UInt32
  label : Option String
  labelEmoji : Option String
  deriving DecidableEq

structure PendingMember where
  address : ServiceId
  role : Role
  addedByAci : Aci
  timestamp : UInt64
  deriving DecidableEq

structure RequestingMember where
  aci : Aci
  profileKey : ProfileKey
  timestamp : UInt64
  deriving DecidableEq

structure BannedMember where
  userId : ServiceId
  timestamp : UInt64
  deriving DecidableEq

structure PromotedMember where
  aci : Aci
  pni : Pni
  profileKey : ProfileKey
  deriving DecidableEq

inductive GroupChange where
  | newMember (member : Member)
  | deleteMember (aci : Aci)
  | modifyMemberRole (aci : Aci) (role : Role)
  | modifyMemberProfileKey (aci : Aci) (profileKey : ProfileKey)
  | newPendingMember (member : PendingMember)
  | deletePendingMember (id : ServiceId)
  | promotePendingMember (address : ServiceId) (profileKey : ProfileKey)
  | title (title : String)
  | avatar (avatar : String)
  | timer (timer : Option Timer)
  | attributeAccess (access : AccessRequired)
  | memberAccess (access : AccessRequired)
  | inviteLinkAccess (access : AccessRequired)
  | newRequestingMember (member : RequestingMember)
  | deleteRequestingMember (aci : Aci)
  | promoteRequestingMember (aci : Aci) (role : Role)
  | inviteLinkPassword (password : String)
  | description (description : Option String)
  | announcementOnly (only : Bool)
  | addBannedMember (member : BannedMember)
  | deleteBannedMember (id : ServiceId)
  | promotePendingPniAciMemberProfileKey (member : PromotedMember)
  | memberLabel (userId : ServiceId) (labelEmoji labelString : Option String)
  | memberLabelAccess (access : AccessRequired)
  | terminateGroup
  deriving DecidableEq

structure GroupChanges where
  groupId : GroupIdentifier
  editor : Aci
  version : UInt32
  changes : List GroupChange
  changeEpoch : UInt32
  deriving DecidableEq

/-! ## Messages -/

namespace Proto

structure Member where
  userId : Bytes
  role : Int32
  profileKey : Bytes
  presentation : Bytes
  joinedAtVersion : UInt32
  labelEmoji : Bytes
  labelString : Bytes
  deriving DecidableEq

structure MemberPendingProfileKey where
  member : Option Member
  addedByUserId : Bytes
  timestamp : UInt64
  deriving DecidableEq

structure MemberPendingAdminApproval where
  userId : Bytes
  profileKey : Bytes
  presentation : Bytes
  timestamp : UInt64
  deriving DecidableEq

structure MemberBanned where
  userId : Bytes
  timestamp : UInt64
  deriving DecidableEq

/-- The `oneof` of a `GroupAttributeBlob`. -/
inductive BlobContent where
  | title (title : String)
  | avatar (avatar : Bytes)
  | disappearingMessagesDuration (duration : UInt32)
  | descriptionText (description : String)
  deriving DecidableEq

structure GroupAttributeBlob where
  content : Option BlobContent
  deriving DecidableEq

structure AddMemberAction where
  added : Option Member
  joinFromInviteLink : Bool
  deriving DecidableEq

structure ModifyMemberRoleAction where
  userId : Bytes
  role : Int32
  deriving DecidableEq

structure ModifyMemberLabelAction where
  userId : Bytes
  labelEmoji : Bytes
  labelString : Bytes
  deriving DecidableEq

/-- The fields of `ModifyMemberProfileKeyAction` and of
    `PromoteMemberPendingProfileKeyAction`. -/
structure ProfileKeyAction where
  presentation : Bytes
  userId : Bytes
  profileKey : Bytes
  deriving DecidableEq

structure PromoteMemberPendingPniAciProfileKeyAction where
  presentation : Bytes
  userId : Bytes
  pni : Bytes
  profileKey : Bytes
  deriving DecidableEq

/-- `group_change::Actions`. An action with one field is that field: the id a delete
    action names, the member an add action carries, the new value of an attribute. -/
structure Actions where
  sourceUserId : Bytes := []
  groupId : Bytes := []
  version : UInt32 := 0
  addMembers : List AddMemberAction := []
  deleteMembers : List Bytes := []
  modifyMemberRoles : List ModifyMemberRoleAction := []
  modifyMemberProfileKeys : List ProfileKeyAction := []
  addMembersPendingProfileKey : List (Option MemberPendingProfileKey) := []
  deleteMembersPendingProfileKey : List Bytes := []
  promoteMembersPendingProfileKey : List ProfileKeyAction := []
  modifyTitle : Option Bytes := none
  modifyAvatar : Option String := none
  modifyDisappearingMessageTimer : Option Bytes := none
  modifyAttributesAccess : Option Int32 := none
  modifyMemberAccess : Option Int32 := none
  modifyAddFromInviteLinkAccess : Option Int32 := none
  addMembersPendingAdminApproval : List (Option MemberPendingAdminApproval) := []
  deleteMembersPendingAdminApproval : List Bytes := []
  promoteMembersPendingAdminApproval : List ModifyMemberRoleAction := []
  modifyInviteLinkPassword : Option Bytes := none
  modifyDescription : Option Bytes := none
  modifyAnnouncementsOnly : Option Bool := none
  addMembersBanned : List (Option MemberBanned) := []
  deleteMembersBanned : List Bytes := []
  promoteMembersPendingPniAciProfileKey : List PromoteMemberPendingPniAciProfileKeyAction := []
  modifyMemberLabels : List ModifyMemberLabelAction := []
  modifyMemberLabelAccess : Option Int32 := none
  terminateGroup : Bool := false
  deriving DecidableEq

structure GroupChange where
  actions : Bytes
  serverSignature : Bytes
  changeEpoch : UInt32
  deriving DecidableEq

end Proto

end SignalService.Groups

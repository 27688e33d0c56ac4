import SignalService.Groups.RoundTrip

/-! # Changes that come with a message

A `GroupContextV2` brings a group's master key and, sometimes, the bytes of a change. The
change is decrypted under the parameters derived from the key, but the group it is for is
the one it names itself.
-/

namespace SignalService.Groups

@[ext] structure GroupMasterKey where
  bytes : Bytes
  size : bytes.length = 32

instance : DecidableEq GroupMasterKey := fun _ _ =>
  decidable_of_iff _ GroupMasterKey.ext_iff.symm

def GroupMasterKey.ofBytes? (bytes : Bytes) : Option GroupMasterKey :=
  if size : bytes.length = 32 then some ⟨bytes, size⟩ else none

/-- What is read of a `GroupContextV2`; its revision is not. -/
structure Proto.GroupContextV2 where
  masterKey : Option Bytes
  groupChange : Option Bytes
  deriving DecidableEq

structure ContextExternals extends GroupExternals where
  deriveFromMasterKey : GroupMasterKey → GroupSecretParams
  decodeGroupChange : Bytes → Option Proto.GroupChange

variable (Z : ContextExternals)

/-! ## Reading a context -/

/-- What both readers do once they have a key and a change. -/
def decryptChangeUnder (masterKey groupChange : Bytes) :
    Except GroupDecodingError (Option GroupChanges) :=
  match GroupMasterKey.ofBytes? masterKey with
  | none => .error .wrongBlob
  | some key =>
      match Z.decodeGroupChange groupChange with
      | none => .error .protobufDecodeError
      | some change =>
          (GroupOperations.decryptGroupChange Z.toGroupExternals ⟨Z.deriveFromMasterKey key⟩
            change).map some

/-- `GroupsManager::decrypt_group_context`. -/
def decryptGroupContext (context : Proto.GroupContextV2) :
    Except GroupDecodingError (Option GroupChanges) :=
  match context.masterKey, context.groupChange with
  | some masterKey, some groupChange => decryptChangeUnder Z masterKey groupChange
  | _, _ => .ok none

/-- The free function also takes an empty change for none. -/
def decryptGroupContextChanges (context : Proto.GroupContextV2) :
    Except GroupDecodingError (Option GroupChanges) :=
  match context.masterKey, context.groupChange with
  | some masterKey, some groupChange =>
      if groupChange.isEmpty then .ok none else decryptChangeUnder Z masterKey groupChange
  | _, _ => .ok none

theorem decryptGroupContextChanges_eq (context : Proto.GroupContextV2)
    (present : context.groupChange ≠ some []) :
    decryptGroupContextChanges Z context = decryptGroupContext Z context := by
  obtain ⟨masterKey, groupChange⟩ := context
  cases masterKey with
  | none => rfl
  | some masterKey =>
      cases groupChange with
      | none => rfl
      | some groupChange =>
          have filled : groupChange.isEmpty = false := by simpa using present
          simp [decryptGroupContextChanges, decryptGroupContext, filled]

/-! ## Which group a change is for -/

namespace Proto.GroupContextV2

/-- The group of the context: the identifier its master key derives. -/
def groupIdentifier (context : Proto.GroupContextV2) : Option GroupIdentifier := do
  let key ← GroupMasterKey.ofBytes? (← context.masterKey)
  return Z.getGroupIdentifier (Z.deriveFromMasterKey key)

/-- The identifier inside the change. -/
def carriedGroupId (context : Proto.GroupContextV2) : Option Bytes := do
  let change ← Z.decodeGroupChange (← context.groupChange)
  let actions ← Z.decodeActions change.actions
  return actions.groupId

end Proto.GroupContextV2

variable {Z}

theorem decryptGroupContext_accepts {context : Proto.GroupContextV2} {changes : GroupChanges}
    (accepted : decryptGroupContext Z context = .ok (some changes)) :
    ∃ masterKey groupChange key change, context = ⟨some masterKey, some groupChange⟩ ∧
      GroupMasterKey.ofBytes? masterKey = some key ∧
      Z.decodeGroupChange groupChange = some change ∧
      GroupOperations.decryptGroupChange Z.toGroupExternals ⟨Z.deriveFromMasterKey key⟩ change =
        .ok changes := by
  obtain ⟨masterKey, groupChange⟩ := context
  cases masterKey with
  | none => simp [decryptGroupContext] at accepted
  | some masterKey =>
      cases groupChange with
      | none => simp [decryptGroupContext] at accepted
      | some groupChange =>
          simp only [decryptGroupContext, decryptChangeUnder] at accepted
          cases sized : GroupMasterKey.ofBytes? masterKey with
          | none => simp [sized] at accepted
          | some key =>
              cases decoded : Z.decodeGroupChange groupChange with
              | none => simp [sized, decoded] at accepted
              | some change =>
                  simp only [sized, decoded] at accepted
                  obtain ⟨got, read, same⟩ := exists_of_map_ok accepted
                  cases same
                  exact ⟨masterKey, groupChange, key, change, rfl, sized, decoded, read⟩

/-- The group an accepted change is reported for is the one it carries. -/
theorem carriedGroupId_of_accepted {context : Proto.GroupContextV2} {changes : GroupChanges}
    (accepted : decryptGroupContext Z context = .ok (some changes)) :
    context.carriedGroupId Z = some changes.groupId.bytes := by
  obtain ⟨masterKey, groupChange, key, change, rfl, sized, decoded, read⟩ :=
    decryptGroupContext_accepts accepted
  obtain ⟨actions, opened, -, named, -⟩ := GroupOperations.decryptGroupChange_accepts read
  have carried : actions.groupId = changes.groupId.bytes := by
    unfold GroupIdentifier.ofBytes? at named
    split at named
    · rw [← Option.some.inj named]
    · cases named
  simp [Proto.GroupContextV2.carriedGroupId, decoded, opened, carried]

theorem groupIdentifier_of_accepted {context : Proto.GroupContextV2} {changes : GroupChanges}
    (accepted : decryptGroupContext Z context = .ok (some changes)) :
    ∃ identifier, context.groupIdentifier Z = some identifier := by
  obtain ⟨masterKey, groupChange, key, change, rfl, sized, -, -⟩ :=
    decryptGroupContext_accepts accepted
  exact ⟨_, by simp [Proto.GroupContextV2.groupIdentifier, sized]; rfl⟩

/-- Nothing compares the two identifiers: an accepted change is for the context's own
    group exactly when its sender made it so. -/
theorem decryptGroupContext_group_iff {context : Proto.GroupContextV2} {changes : GroupChanges}
    (accepted : decryptGroupContext Z context = .ok (some changes)) :
    context.groupIdentifier Z = some changes.groupId ↔
      context.carriedGroupId Z =
        (context.groupIdentifier Z).map GroupIdentifier.bytes := by
  obtain ⟨identifier, derived⟩ := groupIdentifier_of_accepted accepted
  have carried := carriedGroupId_of_accepted accepted
  rw [derived, carried]
  constructor
  · intro same
    cases same
    rfl
  · intro same
    obtain ⟨bytes, size⟩ := identifier
    obtain ⟨⟨carriedBytes, carriedSize⟩, _, _, _, _⟩ := changes
    simp only [Option.map_some, Option.some.injEq] at same
    simp [same]

/-- The same change under another group's identifier is read as well, for that group. -/
theorem decryptGroupChange_retargeted {ops : GroupOperations} {W : GroupExternals}
    {change other : Proto.GroupChange} {actions : Proto.Actions} {changes : GroupChanges}
    (groupId : GroupIdentifier) (decoded : W.decodeActions change.actions = some actions)
    (retargeted : W.decodeActions other.actions = some { actions with groupId := groupId.bytes })
    (epoch : other.changeEpoch = change.changeEpoch)
    (accepted : ops.decryptGroupChange W change = .ok changes) :
    ops.decryptGroupChange W other = .ok { changes with groupId } := by
  obtain ⟨_, editor, version, list, changeEpoch⟩ := changes
  obtain ⟨opened, opens, edited, -, rfl, read, rfl⟩ :=
    GroupOperations.decryptGroupChange_accepts accepted
  obtain rfl : actions = opened := by simpa [decoded] using opens
  have named : GroupIdentifier.ofBytes? groupId.bytes = some groupId := by
    simp [GroupIdentifier.ofBytes?, groupId.size]
  have reads : GroupOperations.collect
      (ops.decryptActions W { actions with groupId := groupId.bytes }) = .ok list := read
  unfold GroupOperations.decryptGroupChange
  rw [retargeted]
  simp only at edited
  simp only [edited, named, reads, bind, Except.bind, pure, Except.pure, epoch]

/-! ## An instance

Two groups: the key of `0x11` bytes is the first one's, every other key the second one's.
-/

namespace Sample

def firstKey : GroupMasterKey := ⟨List.replicate 32 0x11, by decide⟩

def secondKey : GroupMasterKey := ⟨List.replicate 32 0x22, by decide⟩

def secondIdentifier : GroupIdentifier := ⟨List.replicate 32 0x48, by decide⟩

def removalChangeBytes : Bytes := 0x0A :: 0xAF :: 0x01 :: removalBytes

def contextExternals : ContextExternals :=
  { groupExternals with
    getGroupIdentifier := fun params =>
      if params.serialized = firstKey.bytes then groupIdentifier else secondIdentifier
    deriveFromMasterKey := fun key => ⟨key.bytes⟩
    decodeGroupChange := fun bytes =>
      if bytes = removalChangeBytes then some removalChange else none }

/-- The removal, carrying the first group's identifier, under a key. -/
def removalContext (key : GroupMasterKey) : Proto.GroupContextV2 :=
  ⟨some key.bytes, some removalChangeBytes⟩

theorem removalContext_accepted (key : GroupMasterKey) :
    decryptGroupContext contextExternals (removalContext key) = .ok (some removalRead) := by
  have sized : GroupMasterKey.ofBytes? key.bytes = some key := by
    simp [GroupMasterKey.ofBytes?, key.size]
  have sameReader : GroupOperations.decryptGroupChange contextExternals.toGroupExternals =
      GroupOperations.decryptGroupChange groupExternals := rfl
  simp only [decryptGroupContext, removalContext, decryptChangeUnder, sized, sameReader]
  simp only [contextExternals, if_true, removalChange_read]
  rfl

end Sample

theorem removal_for_own_group :
    Sample.removalRead.groupId = Sample.groupIdentifier ∧
      (Sample.removalContext Sample.firstKey).groupIdentifier Sample.contextExternals =
        some Sample.removalRead.groupId := by
  refine ⟨rfl, ?_⟩
  rw [decryptGroupContext_group_iff (Sample.removalContext_accepted Sample.firstKey),
    carriedGroupId_of_accepted (Sample.removalContext_accepted Sample.firstKey)]
  rfl

theorem removal_for_another_group :
    decryptGroupContext Sample.contextExternals (Sample.removalContext Sample.secondKey) =
        .ok (some Sample.removalRead) ∧
      (Sample.removalContext Sample.secondKey).groupIdentifier Sample.contextExternals ≠
        some Sample.removalRead.groupId :=
  ⟨Sample.removalContext_accepted Sample.secondKey, by decide⟩

end SignalService.Groups

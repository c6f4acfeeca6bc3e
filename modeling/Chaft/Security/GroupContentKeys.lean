import Chaft.Library.KeyedLog
import Chaft.Library.Run
import Chaft.Library.TextParts
import Chaft.Security.Identity
import Chaft.Security.MlsGroups

/-!
# Content keys of the epochs of a group

Each epoch of a group has a content key.  An operation exports the key of the epoch that it
leaves before it merges its commit and keeps it in the record of the group, so that a device
that stays in the group never loses a key.
-/

namespace Chaft

open Keyed Outcome Transition

/-! ## Key IDs -/

/-- The ID of the content key of an epoch, in a group of the given protocol. -/
def contentKeyIdIn (protocol groupId : String) (epoch : UInt64) : String :=
  if protocol == openmlsChannelGroupProtocol then
    channelContentKeyId groupId epoch
  else
    workspaceContentKeyId groupId epoch

private theorem epoch_of_append_repr
    {front : String} {epoch other : UInt64}
    (same : front ++ epoch.toNat.repr = front ++ other.toNat.repr) : epoch = other := by
  rw [String.append_right_inj, Nat.repr_eq_ofList_toDigits, Nat.repr_eq_ofList_toDigits,
    String.ofList_inj] at same
  exact UInt64.toNat_inj.mp (Text.toDigits_injective same)

theorem contentKeyIdIn_injective (protocol groupId : String) :
    Function.Injective (contentKeyIdIn protocol groupId) := by
  intro epoch other same
  rw [contentKeyIdIn, contentKeyIdIn] at same
  by_cases isChannel : (protocol == openmlsChannelGroupProtocol) = true
  · rw [if_pos isChannel, if_pos isChannel] at same
    exact epoch_of_append_repr same
  · rw [if_neg isChannel, if_neg isChannel] at same
    exact epoch_of_append_repr same

/-! ## The storage -/

/-- The storage is read back from the entries of the record. -/
theorem storageFromEntries_storageEntries (storage : MlsStorage) :
    storageFromEntries (storageEntries storage) = .ok storage := by
  let write : List UInt8 × List UInt8 → PersistedOpenMlsStorageEntry := fun entry =>
    { key := Hex.encode entry.1, value := Hex.encode entry.2 }
  let sorted := storage.toList.insertionSort fun left right =>
    (write left).key ≤ (write right).key
  have readsBack : ∀ entry, readStorageEntry (write entry) = .ok entry := by
    intro entry
    simp only [readStorageEntry, hexDecode, write, Hex.decode_encode, okOr, bind, Except.bind]
  have entries : storageEntries storage = sorted.map write :=
    (List.map_insertionSort _ _ write storage.toList fun _ _ _ _ => Iff.rfl).symm
  have permuted : sorted.Perm storage.toList := List.perm_insertionSort _ _
  have apart : sorted.Pairwise fun first second => first.1 ≠ second.1 :=
    permuted.symm.pairwise (toList_apart storage) fun different => different.symm
  rw [storageFromEntries, entries, mapM_map_eq_ok readsBack]
  apply congrArg Except.ok
  apply ext_of_getElem?
  intro tested
  cases isFound : storage[tested]? with
  | some value =>
      have member : (tested, value) ∈ sorted :=
        permuted.mem_iff.mpr (Std.ExtTreeMap.mem_toList_iff_getElem?_eq_some.mpr isFound)
      exact getElem?_tableOf_of_mem apart member ∅
  | none =>
      cases isRead : (tableOf Prod.fst Prod.snd ∅ sorted : MlsStorage)[tested]? with
      | none => rfl
      | some value =>
          rcases getElem?_tableOf isRead with ⟨entry, member, rfl, -⟩ | ⟨-, wasThere⟩
          · have listed := Std.ExtTreeMap.mem_toList_iff_getElem?_eq_some.mp
              (permuted.mem_iff.mp member)
            rw [isFound] at listed
            cases listed
          · simp at wasThere

namespace OpenMls

variable (openMls : OpenMls)

/-! ## What OpenMLS promises -/

/-- The storage holds the group, of which the device is a member. -/
structure IsStored (provided : openMls.Provided) : Prop where
  loads : openMls.load provided.1 (openMls.groupId provided.2) = .ok (some provided.2)
  active : openMls.isActive provided.2 = true

/-- A commit has been merged. -/
structure Advances (before after : openMls.Provided) : Prop where
  groupId : openMls.groupId after.2 = openMls.groupId before.2
  epoch : openMls.epoch before.2 < openMls.epoch after.2

/-- A merged commit keeps the ID of the group, increases its epoch and stores the group; a member
cannot commit to its own removal; a new group is stored; a member can export secrets; and the JSON
of a record reads back. -/
structure Lawful : Prop where
  adds :
    ∀ {random before signer keyPackage pending messages after},
      openMls.addMembers random before signer keyPackage = .ok (pending, messages) →
        openMls.mergePendingCommit pending = .ok after →
          openMls.Advances before after ∧ openMls.IsStored after
  removes :
    ∀ {random before signer index pending message after},
      openMls.removeMembers random before signer index = .ok (pending, message) →
        openMls.mergePendingCommit pending = .ok after →
          openMls.Advances before after ∧ openMls.IsStored after
  updates :
    ∀ {random before signer pending message after},
      openMls.selfUpdate random before signer = .ok (pending, message) →
        openMls.mergePendingCommit pending = .ok after →
          openMls.Advances before after ∧ openMls.IsStored after
  applies :
    ∀ {before message processed stagedCommit after},
      openMls.processMessage before message = .ok (processed, some stagedCommit) →
        openMls.mergeStagedCommit processed stagedCommit = .ok after →
          openMls.selfRemoved stagedCommit = false →
            openMls.Advances before after ∧ openMls.IsStored after
  creates :
    ∀ {random storage signer groupId identity provided},
      openMls.newWithGroupId random storage signer groupId identity = .ok provided →
        openMls.IsStored provided
  joins :
    ∀ {stagedJoin provided}, openMls.intoGroup stagedJoin = .ok provided →
      openMls.IsStored provided
  exports :
    ∀ group, openMls.isActive group = true →
      ∃ secret,
        openMls.exportSecret group openmlsWorkspaceContentKeyLabel
          openmlsWorkspaceContentKeyContext openmlsWorkspaceContentKeyLen = .ok secret
  readsBack :
    ∀ {persisted bytes}, openMls.groupStateToVecPretty persisted = some bytes →
      openMls.groupStateFromSlice bytes = some persisted

/-! ## Operations on a group -/

/-- One operation, with its random bytes and its arguments. -/
inductive GroupOperation where
  | addMember (random inviteeKeyPackage : List UInt8)
  | removeMember (random : List UInt8) (removedIdentity : String)
  | updateOwnLeaf (random : List UInt8)
  | applyCommit (commit : List UInt8)

/-- The state of the group after an operation. -/
def perform (state : List UInt8) : GroupOperation → Except MlsError (List UInt8)
  | .addMember random inviteeKeyPackage => do
      let added ← openMls.addMemberToWorkspaceGroup random state inviteeKeyPackage
      .ok added.updatedPrivateGroupState
  | .removeMember random removedIdentity => do
      let removed ← openMls.removeMemberFromGroup random state removedIdentity
      .ok removed.updatedPrivateGroupState
  | .updateOwnLeaf random => do
      let updated ← openMls.updateOwnLeafInGroup random state
      .ok updated.updatedPrivateGroupState
  | .applyCommit commit => do
      let applied ← openMls.applyGroupCommit state commit
      .ok applied.updatedPrivateGroupState

/-- The operation does not remove the device itself. -/
def KeepsDevice (state : List UInt8) : GroupOperation → Prop
  | .applyCommit commit =>
      ∀ applied, openMls.applyGroupCommit state commit = .ok applied → applied.selfRemoved = false
  | _ => True

/-- The state of a group that the device has just created or joined. -/
inductive NewState : List UInt8 → Prop where
  | created {random : List UInt8} {identity protocol groupId : String}
      {group : CreatedMlsWorkspaceGroup}
      (supported : groupProtocolSupported protocol = true)
      (isCreated : openMls.createGroup random identity protocol groupId = .ok group) :
      NewState group.privateGroupState
  | joined {privateKeyPackageBundle welcome ratchetTree : List UInt8} {protocol : String}
      {group : CreatedMlsWorkspaceGroup}
      (supported : groupProtocolSupported protocol = true)
      (isJoined :
        openMls.joinGroupFromWelcome privateKeyPackageBundle welcome ratchetTree protocol =
          .ok group) :
      NewState group.privateGroupState

/-- A run of successful operations that keep the device in the group. -/
abbrev GroupRun : List UInt8 → List GroupOperation → List UInt8 → Prop :=
  GuardedRun openMls.perform openMls.KeepsDevice

/-! ## What a state holds -/

/-- The content key of the present epoch. -/
def currentKey (persisted : openMls.GroupState) (group : openMls.Group) (secret : List UInt8) :
    ExportedMlsWorkspaceContentKey where
  protocol :=
    if persisted.protocol == openmlsChannelGroupProtocol then
      openmlsChannelContentKeyProtocol
    else
      openmlsWorkspaceContentKeyProtocol
  ciphersuite := ciphersuiteLabel (openMls.usesDefaultCiphersuite group)
  groupId := Hex.encode (openMls.groupId group)
  epoch := openMls.epoch group
  keyId :=
    contentKeyIdIn persisted.protocol (Hex.encode (openMls.groupId group)) (openMls.epoch group)
  contentKey := secret

/-- The keys of the record and the present key. -/
def heldKeys (persisted : openMls.GroupState) (group : openMls.Group) (secret : List UInt8) :
    List PersistedMlsContentKey :=
  persisted.previousContentKeys ++ [(openMls.currentKey persisted group secret).persisted]

/-- The state of a group loads, and its record has one key for each of some earlier epochs. -/
structure Holds (state : List UInt8) (persisted : openMls.GroupState)
    (provided : openMls.Provided) : Prop where
  loads : openMls.loadPersistedWorkspaceGroup state = .ok (persisted, provided)
  active : openMls.isActive provided.2 = true
  named :
    ∀ previous ∈ persisted.previousContentKeys,
      previous.keyId =
        contentKeyIdIn persisted.protocol (Hex.encode (openMls.groupId provided.2))
          previous.epoch
  earlier : ∀ previous ∈ persisted.previousContentKeys, previous.epoch < openMls.epoch provided.2
  apart : (persisted.previousContentKeys.map PersistedMlsContentKey.keyId).Nodup

/-- The state is that of a group of which the device is a member. -/
def IsGroupState (state : List UInt8) : Prop :=
  ∃ persisted provided, openMls.Holds state persisted provided

/-- The operation exports the key of the epoch, merges a commit and persists the group. -/
structure Moves (state next : List UInt8) : Prop where
  moves :
    ∃ persisted provided previous merged updated,
      openMls.loadPersistedWorkspaceGroup state = .ok (persisted, provided) ∧
        openMls.exportLoadedGroupContentKey persisted provided.2 = .ok previous ∧
          openMls.Advances provided merged ∧ openMls.IsStored merged ∧
            openMls.persistWorkspaceGroupState
                (openMls.appendPreviousContentKey persisted previous) merged =
              .ok (updated, next)

variable {openMls}

theorem exportLoadedGroupContentKey_eq_ok_iff
    {persisted : openMls.GroupState} {group : openMls.Group}
    {exported : ExportedMlsWorkspaceContentKey} :
    openMls.exportLoadedGroupContentKey persisted group = .ok exported ↔
      ∃ secret,
        openMls.exportSecret group openmlsWorkspaceContentKeyLabel
            openmlsWorkspaceContentKeyContext openmlsWorkspaceContentKeyLen = .ok secret ∧
          openMls.currentKey persisted group secret = exported := by
  simp only [exportLoadedGroupContentKey, bind_eq_ok_iff, renamed_eq_ok_iff, Except.ok.injEq]
  rfl

/-! ## Writing and loading -/

theorem writeGroupState_eq_ok_iff
    {persisted : openMls.GroupState} {bytes : List UInt8} :
    openMls.writeGroupState persisted = .ok bytes ↔
      openMls.groupStateToVecPretty persisted = some bytes ∧
        bytes.length ≤ openmlsPrivateGroupStateMaxBytes := by
  simp only [writeGroupState, validatePayloadSize, bind_eq_ok_iff, okOr_eq_ok_iff,
    ensure_eq_ok_iff, Except.ok.injEq]
  constructor
  · rintro ⟨_, isJson, _, small, rfl⟩
    exact ⟨isJson, small⟩
  · rintro ⟨isJson, small⟩
    exact ⟨bytes, isJson, (), small, rfl⟩

/-- A record that is written for a stored group loads it. -/
theorem load_of_writeGroupState
    (lawful : openMls.Lawful) {persisted : openMls.GroupState} {bytes : List UInt8}
    {provided : openMls.Provided} (written : openMls.writeGroupState persisted = .ok bytes)
    (version : persisted.schemaVersion = persistedWorkspaceGroupSchemaVersion)
    (supported : groupProtocolSupported persisted.protocol = true)
    (sameGroup : persisted.groupId = Hex.encode (openMls.groupId provided.2))
    (sameStorage : persisted.storageEntries = storageEntries provided.1)
    (stored : openMls.IsStored provided) :
    openMls.loadPersistedWorkspaceGroup bytes = .ok (persisted, provided) := by
  obtain ⟨isJson, small⟩ := writeGroupState_eq_ok_iff.mp written
  have readGroup : hexDecode persisted.groupId = .ok (openMls.groupId provided.2) := by
    rw [hexDecode, sameGroup, Hex.decode_encode]
    rfl
  have readStorage : storageFromEntries persisted.storageEntries = .ok provided.1 := by
    rw [sameStorage]
    exact storageFromEntries_storageEntries provided.1
  simp only [loadPersistedWorkspaceGroup, validatePayloadSize, lawful.readsBack isJson, ensure,
    if_pos small, if_pos version, if_pos supported, okOr, readGroup, readStorage, bind,
    Except.bind, stored.loads, Except.mapError]

/-- What is known of a record that loads. -/
theorem supported_of_load
    {state : List UInt8} {persisted : openMls.GroupState} {provided : openMls.Provided}
    (loads : openMls.loadPersistedWorkspaceGroup state = .ok (persisted, provided)) :
    persisted.schemaVersion = persistedWorkspaceGroupSchemaVersion ∧
      groupProtocolSupported persisted.protocol = true := by
  simp only [loadPersistedWorkspaceGroup, bind_eq_ok_iff, ensure_eq_ok_iff, Except.ok.injEq,
    Prod.mk.injEq] at loads
  obtain ⟨_, -, read, -, _, version, _, supported, _, -, _, -, _, -, _, -, rfl, -⟩ := loads
  exact ⟨version, supported⟩

/-- A new state holds its group and no key of an earlier epoch. -/
theorem holds_of_newGroupState
    (lawful : openMls.Lawful) {protocol identity ciphersuite : String}
    {signatureKeyPair : openMls.SignatureKeyPair} {provided : openMls.Provided}
    {group : CreatedMlsWorkspaceGroup}
    (supported : groupProtocolSupported protocol = true)
    (isNew :
      openMls.newGroupState protocol identity signatureKeyPair ciphersuite provided = .ok group)
    (stored : openMls.IsStored provided) :
    ∃ persisted, openMls.Holds group.privateGroupState persisted provided := by
  rw [newGroupState, bind_eq_ok_iff] at isNew
  obtain ⟨bytes, written, isGroup⟩ := isNew
  cases isGroup
  refine ⟨_, load_of_writeGroupState lawful written rfl supported rfl rfl stored,
    stored.active, ?_, ?_, List.nodup_nil⟩
  · intro previous member
    cases member
  · intro previous member
    cases member

theorem NewState.holds
    (lawful : openMls.Lawful) {state : List UInt8} (isNew : openMls.NewState state) :
    openMls.IsGroupState state := by
  cases isNew with
  | created supported isCreated =>
      simp only [createGroup, bind_eq_ok_iff, renamed_eq_ok_iff] at isCreated
      obtain ⟨_, -, _, -, provided, created, isCreated⟩ := isCreated
      obtain ⟨persisted, holds⟩ :=
        holds_of_newGroupState lawful supported isCreated (lawful.creates created)
      exact ⟨persisted, provided, holds⟩
  | joined supported isJoined =>
      simp only [joinGroupFromWelcome, bind_eq_ok_iff, renamed_eq_ok_iff] at isJoined
      obtain ⟨_, -, _, -, _, -, _, -, _, -, _, -, _, -, _, -, _, -, _, -, _, -, _, -, provided,
        joined, isJoined⟩ := isJoined
      obtain ⟨persisted, holds⟩ :=
        holds_of_newGroupState lawful supported isJoined (lawful.joins joined)
      exact ⟨persisted, provided, holds⟩

/-! ## One operation -/

theorem moves_of_addMember
    (lawful : openMls.Lawful) {random state inviteeKeyPackage : List UInt8}
    {added : AddedMlsWorkspaceGroupMember}
    (isAdded : openMls.addMemberToWorkspaceGroup random state inviteeKeyPackage = .ok added) :
    openMls.Moves state added.updatedPrivateGroupState := by
  simp only [addMemberToWorkspaceGroup, bind_eq_ok_iff, renamed_eq_ok_iff, Prod.exists]
    at isAdded
  obtain ⟨persisted, storage, group, loads, previous, exported, _, -, keyPackage, -, _, -, _, -,
    pendingStorage, pending, commit, welcome, adds, _, -, _, -, _, -, _, -, mergedStorage, merged,
    merges, _, -, updated, bytes, persists, isAdded⟩ := isAdded
  cases isAdded
  obtain ⟨advances, stored⟩ := lawful.adds adds merges
  exact ⟨persisted, _, previous, _, updated, loads, exported, advances, stored, persists⟩

theorem moves_of_removeMember
    (lawful : openMls.Lawful) {random state : List UInt8} {removedIdentity : String}
    {removed : RemovedMlsWorkspaceGroupMember}
    (isRemoved : openMls.removeMemberFromGroup random state removedIdentity = .ok removed) :
    openMls.Moves state removed.updatedPrivateGroupState := by
  simp only [removeMemberFromGroup, bind_eq_ok_iff, renamed_eq_ok_iff, Prod.exists] at isRemoved
  obtain ⟨persisted, storage, group, loads, previous, exported, _, -, index, -, pendingStorage,
    pending, commit, removes, _, -, mergedStorage, merged, merges, _, -, updated, bytes, persists,
    isRemoved⟩ := isRemoved
  cases isRemoved
  obtain ⟨advances, stored⟩ := lawful.removes removes merges
  exact ⟨persisted, _, previous, _, updated, loads, exported, advances, stored, persists⟩

theorem moves_of_updateOwnLeaf
    (lawful : openMls.Lawful) {random state : List UInt8} {updatedGroup : UpdatedMlsWorkspaceGroup}
    (isUpdated : openMls.updateOwnLeafInGroup random state = .ok updatedGroup) :
    openMls.Moves state updatedGroup.updatedPrivateGroupState := by
  simp only [updateOwnLeafInGroup, bind_eq_ok_iff, renamed_eq_ok_iff, Prod.exists] at isUpdated
  obtain ⟨persisted, storage, group, loads, previous, exported, pendingStorage, pending, commit,
    updates, _, -, mergedStorage, merged, merges, _, -, updated, bytes, persists, isUpdated⟩ :=
    isUpdated
  cases isUpdated
  obtain ⟨advances, stored⟩ := lawful.updates updates merges
  exact ⟨persisted, _, previous, _, updated, loads, exported, advances, stored, persists⟩

theorem moves_of_applyCommit
    (lawful : openMls.Lawful) {state commit : List UInt8}
    {applied : AppliedMlsWorkspaceGroupCommit}
    (isApplied : openMls.applyGroupCommit state commit = .ok applied)
    (stays : applied.selfRemoved = false) :
    openMls.Moves state applied.updatedPrivateGroupState := by
  simp only [applyGroupCommit, bind_eq_ok_iff, renamed_eq_ok_iff, okOr_eq_ok_iff, Prod.exists]
    at isApplied
  obtain ⟨persisted, storage, group, loads, previous, exported, _, -, _, -, message, -,
    processedStorage, processed, content, processes, stagedCommit, isCommit, mergedStorage, merged,
    merges, updated, bytes, persists, isApplied⟩ := isApplied
  subst isCommit
  cases isApplied
  obtain ⟨advances, stored⟩ := lawful.applies processes merges stays
  exact ⟨persisted, _, previous, _, updated, loads, exported, advances, stored, persists⟩

/-- Each of the four operations exports the old key before it merges. -/
theorem moves_of_perform
    (lawful : openMls.Lawful) {state next : List UInt8} {operation : GroupOperation}
    (keeps : openMls.KeepsDevice state operation)
    (performed : openMls.perform state operation = .ok next) :
    openMls.Moves state next := by
  cases operation with
  | addMember random inviteeKeyPackage =>
      obtain ⟨added, isAdded, isNext⟩ := (bind_eq_ok_iff _ _ _).mp performed
      cases isNext
      exact moves_of_addMember lawful isAdded
  | removeMember random removedIdentity =>
      obtain ⟨removed, isRemoved, isNext⟩ := (bind_eq_ok_iff _ _ _).mp performed
      cases isNext
      exact moves_of_removeMember lawful isRemoved
  | updateOwnLeaf random =>
      obtain ⟨updated, isUpdated, isNext⟩ := (bind_eq_ok_iff _ _ _).mp performed
      cases isNext
      exact moves_of_updateOwnLeaf lawful isUpdated
  | applyCommit commit =>
      obtain ⟨applied, isApplied, isNext⟩ := (bind_eq_ok_iff _ _ _).mp performed
      cases isNext
      exact moves_of_applyCommit lawful isApplied (keeps applied isApplied)

/-! ## The keys of a state -/

/-- The present key is not in the record: its epoch is later than those of the record. -/
theorem Holds.present_not_mem
    {state : List UInt8} {persisted : openMls.GroupState} {provided : openMls.Provided}
    (holds : openMls.Holds state persisted provided) (secret : List UInt8) :
    (openMls.currentKey persisted provided.2 secret).keyId ∉
      persisted.previousContentKeys.map PersistedMlsContentKey.keyId := by
  intro member
  obtain ⟨previous, isPrevious, sameId⟩ := List.mem_map.mp member
  rw [holds.named previous isPrevious] at sameId
  have sameEpoch : previous.epoch = openMls.epoch provided.2 :=
    contentKeyIdIn_injective _ _ sameId
  exact absurd (holds.earlier previous isPrevious) (by rw [sameEpoch]; exact UInt64.lt_irrefl _)

theorem Holds.heldKeys_apart
    {state : List UInt8} {persisted : openMls.GroupState} {provided : openMls.Provided}
    (holds : openMls.Holds state persisted provided) (secret : List UInt8) :
    ((openMls.heldKeys persisted provided.2 secret).map PersistedMlsContentKey.keyId).Nodup := by
  rw [heldKeys, List.map_append, List.map_singleton, ← List.concat_eq_append]
  exact holds.apart.concat (holds.present_not_mem secret)

theorem persisted_injective : Function.Injective ExportedMlsWorkspaceContentKey.persisted := by
  intro exported other same
  have sameExported := congrArg PersistedMlsContentKey.exported same
  exact sameExported

/-- A key ID is answered with the key of that ID. -/
theorem Holds.exportForKeyId_iff
    {state : List UInt8} {persisted : openMls.GroupState} {provided : openMls.Provided}
    (holds : openMls.Holds state persisted provided) {secret : List UInt8}
    (isSecret :
      openMls.exportSecret provided.2 openmlsWorkspaceContentKeyLabel
        openmlsWorkspaceContentKeyContext openmlsWorkspaceContentKeyLen = .ok secret)
    (keyId : String) (exported : ExportedMlsWorkspaceContentKey) :
    openMls.exportGroupContentKeyForKeyId state keyId = .ok (some exported) ↔
      exported.keyId = keyId ∧ exported.persisted ∈ openMls.heldKeys persisted provided.2 secret := by
  have present :
      openMls.exportLoadedGroupContentKey persisted provided.2 =
        .ok (openMls.currentKey persisted provided.2 secret) :=
    exportLoadedGroupContentKey_eq_ok_iff.mpr ⟨secret, isSecret, rfl⟩
  simp only [exportGroupContentKeyForKeyId, holds.loads, present, bind, Except.bind, heldKeys,
    List.mem_append, List.mem_singleton]
  by_cases isPresent : (openMls.currentKey persisted provided.2 secret).keyId = keyId
  · rw [if_pos isPresent, Except.ok.injEq, Option.some.injEq, persisted_injective.eq_iff]
    constructor
    · intro same
      rw [← same]
      exact ⟨isPresent, Or.inr rfl⟩
    · rintro ⟨sameId, isPrevious | same⟩
      · have listed :=
          List.mem_map_of_mem (f := PersistedMlsContentKey.keyId) isPrevious
        exact absurd (isPresent.trans sameId.symm ▸ listed) (holds.present_not_mem secret)
      · exact same.symm
  · rw [if_neg isPresent, Except.ok.injEq, Option.map_eq_some_iff]
    constructor
    · rintro ⟨previous, isFound, rfl⟩
      obtain ⟨isPrevious, sameId⟩ := KeyedLog.entryOf_eq_some isFound
      exact ⟨sameId, Or.inl isPrevious⟩
    · rintro ⟨sameId, isPrevious | same⟩
      · refine ⟨exported.persisted, ?_, rfl⟩
        rw [← sameId]
        exact KeyedLog.entryOf_of_mem holds.apart isPrevious
      · rw [persisted_injective same] at sameId
        exact absurd sameId isPresent

/-- An operation leaves a state that holds the group, and the record lists all the keys of the
state before. -/
theorem Holds.of_moves
    (lawful : openMls.Lawful) {state next : List UInt8} {persisted : openMls.GroupState}
    {provided : openMls.Provided} (holds : openMls.Holds state persisted provided)
    (moves : openMls.Moves state next) :
    ∃ secret updated merged,
      openMls.exportSecret provided.2 openmlsWorkspaceContentKeyLabel
          openmlsWorkspaceContentKeyContext openmlsWorkspaceContentKeyLen = .ok secret ∧
        openMls.Holds next updated merged ∧
          updated.previousContentKeys.Perm (openMls.heldKeys persisted provided.2 secret) := by
  obtain ⟨loaded, before, previous, merged, updated, loads, exported, advances, stored,
    persists⟩ := moves.moves
  obtain ⟨rfl, rfl⟩ := Prod.mk.inj (Except.ok.inj (holds.loads.symm.trans loads))
  obtain ⟨secret, isSecret, rfl⟩ := exportLoadedGroupContentKey_eq_ok_iff.mp exported
  obtain ⟨version, supported⟩ := supported_of_load loads
  simp only [persistWorkspaceGroupState, bind_eq_ok_iff, Except.ok.injEq, Prod.mk.injEq]
    at persists
  obtain ⟨_, -, bytes, written, rfl, rfl⟩ := persists
  have isNew :
      (persisted.previousContentKeys.any fun existing =>
        existing.keyId == (openMls.currentKey persisted provided.2 secret).keyId) = false := by
    rw [List.any_eq_false]
    intro existing member same
    exact holds.present_not_mem secret
      (List.mem_map.mpr ⟨existing, member, beq_iff_eq.mp same⟩)
  have permuted :
      (withPreviousContentKey persisted.previousContentKeys
          (openMls.currentKey persisted provided.2 secret)).Perm
        (openMls.heldKeys persisted provided.2 secret) := by
    rw [withPreviousContentKey, isNew]
    exact List.perm_insertionSort _ _
  refine ⟨secret,
    openMls.refreshed
      (openMls.appendPreviousContentKey persisted
        (openMls.currentKey persisted provided.2 secret)) merged,
    merged, isSecret, ⟨?_, stored.active, ?_, ?_, ?_⟩, permuted⟩
  · exact load_of_writeGroupState lawful written version supported rfl rfl stored
  · intro key member
    rw [advances.groupId]
    rcases List.mem_append.mp (permuted.mem_iff.mp member) with isPrevious | isPresent
    · exact holds.named key isPrevious
    · rw [List.mem_singleton.mp isPresent]
      rfl
  · intro key member
    rcases List.mem_append.mp (permuted.mem_iff.mp member) with isPrevious | isPresent
    · exact UInt64.lt_trans (holds.earlier key isPrevious) advances.epoch
    · rw [List.mem_singleton.mp isPresent]
      exact advances.epoch
  · exact (permuted.map _).nodup_iff.mpr (holds.heldKeys_apart secret)

/-- An operation keeps every key. -/
theorem Holds.exports_of_moves
    (lawful : openMls.Lawful) {state next : List UInt8} {persisted : openMls.GroupState}
    {provided : openMls.Provided} (holds : openMls.Holds state persisted provided)
    (moves : openMls.Moves state next) {keyId : String}
    {exported : ExportedMlsWorkspaceContentKey}
    (returned : openMls.exportGroupContentKeyForKeyId state keyId = .ok (some exported)) :
    openMls.exportGroupContentKeyForKeyId next keyId = .ok (some exported) := by
  obtain ⟨secret, updated, merged, isSecret, holdsNext, permuted⟩ := holds.of_moves lawful moves
  obtain ⟨sameId, isHeld⟩ := (holds.exportForKeyId_iff isSecret keyId exported).mp returned
  obtain ⟨nextSecret, isNextSecret⟩ := lawful.exports merged.2 holdsNext.active
  apply (holdsNext.exportForKeyId_iff isNextSecret keyId exported).mpr
  exact ⟨sameId, List.mem_append_left _ (permuted.mem_iff.mpr isHeld)⟩

/-- The present key is also answered for its ID. -/
theorem exportForKeyId_of_export
    {state : List UInt8} {exported : ExportedMlsWorkspaceContentKey}
    (returned : openMls.exportGroupContentKey state = .ok exported) :
    openMls.exportGroupContentKeyForKeyId state exported.keyId = .ok (some exported) := by
  simp only [exportGroupContentKey, bind_eq_ok_iff, Prod.exists] at returned
  obtain ⟨persisted, storage, group, loads, present⟩ := returned
  simp only [exportGroupContentKeyForKeyId, loads, present, bind, Except.bind, if_true]

/-! ## Runs -/

/-- An operation leaves the state of a group. -/
theorem IsGroupState.perform
    (lawful : openMls.Lawful) {state next : List UInt8} {operation : GroupOperation}
    (isState : openMls.IsGroupState state) (keeps : openMls.KeepsDevice state operation)
    (performed : openMls.perform state operation = .ok next) : openMls.IsGroupState next := by
  obtain ⟨persisted, provided, holds⟩ := isState
  obtain ⟨-, updated, merged, -, holdsNext, -⟩ :=
    holds.of_moves lawful (moves_of_perform lawful keeps performed)
  exact ⟨updated, merged, holdsNext⟩

theorem IsGroupState.run
    (lawful : openMls.Lawful) {start final : List UInt8} {operations : List GroupOperation}
    (isState : openMls.IsGroupState start) (ran : openMls.GroupRun start operations final) :
    openMls.IsGroupState final :=
  @GuardedRun.invariant _ _ _ _ _ _ openMls.IsGroupState _ _ ran isState
    fun _ _ _ holds keeps performed => holds.perform lawful keeps performed

/-- A run keeps every key. -/
theorem exportForKeyId_run
    (lawful : openMls.Lawful) {start final : List UInt8} {operations : List GroupOperation}
    (isState : openMls.IsGroupState start) (ran : openMls.GroupRun start operations final)
    {keyId : String} {exported : ExportedMlsWorkspaceContentKey}
    (returned : openMls.exportGroupContentKeyForKeyId start keyId = .ok (some exported)) :
    openMls.exportGroupContentKeyForKeyId final keyId = .ok (some exported) := by
  induction ran with
  | start => exact returned
  | extend earlier keeps performed inductionHypothesis =>
      obtain ⟨persisted, provided, holds⟩ := isState.run lawful earlier
      exact holds.exports_of_moves lawful (moves_of_perform lawful keeps performed)
        inductionHypothesis

/-- Operations that keep the device in the group keep every content key that was returned
before them. -/
theorem groupContentKeys_kept
    (openMls : OpenMls) (lawful : openMls.Lawful) {start earlier final : List UInt8}
    {before after : List GroupOperation} (isNew : openMls.NewState start)
    (ranBefore : openMls.GroupRun start before earlier)
    (ranAfter : openMls.GroupRun earlier after final) (keyId : String)
    (exported : ExportedMlsWorkspaceContentKey)
    (returned :
      openMls.exportGroupContentKeyForKeyId earlier keyId = .ok (some exported) ∨
        openMls.exportGroupContentKey earlier = .ok exported ∧ exported.keyId = keyId) :
    openMls.exportGroupContentKeyForKeyId final keyId = .ok (some exported) := by
  have isState : openMls.IsGroupState earlier := (isNew.holds lawful).run lawful ranBefore
  apply exportForKeyId_run lawful isState ranAfter
  rcases returned with forKeyId | ⟨present, rfl⟩
  · exact forKeyId
  · exact exportForKeyId_of_export present

end OpenMls

/-! ## A group of one founder

The founder of workspace `w` creates its group and updates its own leaf. -/

/-- Of a group, its ID and its epoch are told apart. -/
structure FoundersGroup where
  groupId : List UInt8
  epoch : UInt64
  deriving DecidableEq

namespace FoundersGroup

/-- The storage that holds the group: the epoch is written as that many bytes. -/
def stored (group : FoundersGroup) : MlsStorage × FoundersGroup :=
  ((∅ : MlsStorage).insert group.groupId (List.replicate group.epoch.toNat 1), group)

def load (storage : MlsStorage) (groupId : List UInt8) : Option FoundersGroup :=
  storage[groupId]?.map fun bytes => ⟨groupId, UInt64.ofNat bytes.length⟩

/-- The group of the next epoch. -/
def merged (group : FoundersGroup) : Except String (MlsStorage × FoundersGroup) :=
  if group.epoch.toNat + 1 < UInt64.size then
    .ok (stored { group with epoch := group.epoch + 1 })
  else
    .error "epoch"

end FoundersGroup

def founderText : String := "dev_" ++ homeDeviceHash

/-- Indented JSON of an object. -/
def objectJson (indent : String) (fields : List (String × List String)) : List String :=
  ["\x7b\n"] ++
    ((fields.map fun field => [indent, "  \"", field.1, "\": "] ++ field.2).intersperse
      [",\n"]).flatten ++ ["\n", indent, "\x7d"]

/-- Indented JSON of a list. -/
def listJson (indent : String) (items : List (List String)) : List String :=
  if items.isEmpty then
    ["[]"]
  else
    ["[\n"] ++ ((items.map fun item => [indent, "  "] ++ item).intersperse [",\n"]).flatten ++
      ["\n", indent, "]"]

def textJson (text : String) : List String := ["\"", text, "\""]

def contentKeyJson (key : PersistedMlsContentKey) : List String :=
  objectJson "    "
    [("protocol", textJson key.protocol), ("ciphersuite", textJson key.ciphersuite),
      ("groupId", textJson key.groupId), ("epoch", [key.epoch.toNat.repr]),
      ("keyId", textJson key.keyId),
      ("contentKey", listJson "      " (key.contentKey.map fun byte => [byte.toNat.repr]))]

def storageEntryJson (entry : PersistedOpenMlsStorageEntry) : List String :=
  objectJson "    " [("key", textJson entry.key), ("value", textJson entry.value)]

/-- Indented JSON of the record of a group. -/
def groupStateJson (record : PersistedMlsWorkspaceGroupState (List UInt8)) : List UInt8 :=
  asciiBytes
    (objectJson ""
      [("schemaVersion", [record.schemaVersion.toNat.repr]), ("protocol", textJson record.protocol),
        ("ciphersuite", textJson record.ciphersuite), ("groupId", textJson record.groupId),
        ("epoch", [record.epoch.toNat.repr]), ("identity", textJson record.identity),
        ("signatureKeyPair",
          listJson "  " (record.signatureKeyPair.map fun byte => [byte.toNat.repr])),
        ("previousContentKeys", listJson "  " (record.previousContentKeys.map contentKeyJson)),
        ("storageEntries", listJson "  " (record.storageEntries.map storageEntryJson))])

/-- OpenMLS as it behaves on groups whose members are the founder and invited devices, and the
JSON library as it behaves on some records.  A key package is the identity of its device. -/
def foundersMls (records : List (PersistedMlsWorkspaceGroupState (List UInt8))) : OpenMls where
  Group := FoundersGroup
  Credential := List UInt8
  SignatureKeyPair := List UInt8
  KeyPackageIn := List UInt8
  KeyPackage := List UInt8
  KeyPackageBundle := List UInt8
  MessageOut := List UInt8
  MessageIn := List UInt8
  ProtocolMessage := List UInt8
  StagedCommit := List UInt8
  Welcome := List UInt8
  RatchetTreeIn := List UInt8
  StagedWelcome := List UInt8
  load storage groupId := .ok (FoundersGroup.load storage groupId)
  groupId := FoundersGroup.groupId
  epoch := FoundersGroup.epoch
  isActive _ := true
  usesDefaultCiphersuite _ := true
  members _ := [(0, Utf8.encode founderText.toList)]
  credential _ := .ok (Utf8.encode founderText.toList)
  ownSignatureKey _ := some homeKey
  basicIdentity credential := .ok credential
  exportSecret group _ _ length := .ok (List.replicate length (UInt8.ofNat group.epoch.toNat))
  exportRatchetTree _ := .ok [3]
  newSignatureKeyPair _ := .ok homeKey
  storeSignatureKeyPair _ storage := .ok storage
  publicKey signatureKeyPair := signatureKeyPair
  deserializeKeyPackage bytes := .ok bytes
  validateKeyPackage keyPackageIn := .ok keyPackageIn
  hashRef keyPackage := .ok keyPackage
  leafCredential keyPackage := keyPackage
  leafSignatureKey keyPackage := keyPackage
  packageUsesDefaultCiphersuite _ := true
  newWithGroupId _ _ _ groupId _ := .ok (FoundersGroup.stored ⟨groupId, 0⟩)
  addMembers _ provided _ _ := .ok (provided, [1], [2])
  removeMembers _ _ _ _ := .error "the founder cannot be removed"
  selfUpdate _ provided _ := .ok (provided, [1])
  mergePendingCommit provided := provided.2.merged
  serialize message := .ok message
  deserializeMessage bytes := .ok bytes
  tryIntoProtocolMessage message := .ok message
  processMessage _ _ := .error "a commit of the founder"
  selfRemoved _ := false
  mergeStagedCommit _ _ := .error "no commit is staged"
  bundledKeyPackage bundle := bundle
  writeKeyPackage storage _ _ := .ok storage
  extractWelcome message := some message
  deserializeRatchetTree bytes := .ok bytes
  newFromWelcome _ _ _ := .error "no welcome is for the founder"
  intoGroup _ := .error "no welcome is for the founder"
  groupStateToVecPretty record := if record ∈ records then some (groupStateJson record) else none
  groupStateFromSlice bytes := records.find? fun record => decide (groupStateJson record = bytes)
  bundleFromSlice _ := none

namespace FoundersGroup

theorem load_stored (group : FoundersGroup) :
    load group.stored.1 group.groupId = some group := by
  rw [load, stored, Std.ExtTreeMap.getElem?_insert_self, Option.map_some,
    List.length_replicate, UInt64.ofNat_toNat]

theorem stored_of_merged
    {group : FoundersGroup} {provided : MlsStorage × FoundersGroup}
    (isMerged : group.merged = .ok provided) :
    provided = stored provided.2 ∧ provided.2.groupId = group.groupId ∧
      group.epoch < provided.2.epoch := by
  unfold merged at isMerged
  split at isMerged
  · rename_i small
    cases isMerged
    refine ⟨rfl, rfl, ?_⟩
    have next : (group.epoch + 1).toNat = group.epoch.toNat + 1 := by
      rw [UInt64.toNat_add]
      exact Nat.mod_eq_of_lt small
    rw [UInt64.lt_iff_toNat_lt]
    change group.epoch.toNat < (group.epoch + 1).toNat
    omega
  · cases isMerged

end FoundersGroup

section Lawful

variable {records : List (PersistedMlsWorkspaceGroupState (List UInt8))}

theorem foundersMls_isStored (group : FoundersGroup) :
    (foundersMls records).IsStored group.stored where
  loads := congrArg Except.ok group.load_stored
  active := rfl

theorem foundersMls_advances
    {before after : (foundersMls records).Provided} (isMerged : before.2.merged = .ok after) :
    (foundersMls records).Advances before after ∧ (foundersMls records).IsStored after := by
  obtain ⟨isStored, sameGroup, later⟩ := FoundersGroup.stored_of_merged isMerged
  refine ⟨⟨sameGroup, later⟩, ?_⟩
  rw [isStored]
  exact foundersMls_isStored after.2

theorem foundersMls_readsBack
    (distinct : (records.map groupStateJson).Nodup)
    {record : PersistedMlsWorkspaceGroupState (List UInt8)} {bytes : List UInt8}
    (written : (if record ∈ records then some (groupStateJson record) else none) = some bytes) :
    (records.find? fun other => decide (groupStateJson other = bytes)) = some record := by
  by_cases listed : record ∈ records
  · rw [if_pos listed, Option.some.injEq] at written
    rw [← written]
    exact KeyedLog.entryOf_of_mem distinct listed
  · rw [if_neg listed] at written
    cases written

theorem foundersMls_lawful (distinct : (records.map groupStateJson).Nodup) :
    (foundersMls records).Lawful where
  adds added isMerged := by
    cases added
    exact foundersMls_advances isMerged
  removes removed := nomatch removed
  updates updated isMerged := by
    cases updated
    exact foundersMls_advances isMerged
  applies processed := nomatch processed
  creates created := by
    cases created
    exact foundersMls_isStored _
  joins joined := nomatch joined
  exports _ _ := ⟨_, rfl⟩
  readsBack written := foundersMls_readsBack distinct written

end Lawful

def homeGroupId : String := Hex.encode (asciiBytes ["chaft/workspace/w"])

/-- The records of the group of `w` when it is created and after an update. -/
def homeGroupRecord (epoch : UInt64) (previousContentKeys : List PersistedMlsContentKey) :
    PersistedMlsWorkspaceGroupState (List UInt8) where
  schemaVersion := persistedWorkspaceGroupSchemaVersion
  protocol := openmlsWorkspaceGroupProtocol
  ciphersuite := defaultOpenmlsCiphersuite
  groupId := homeGroupId
  epoch := epoch
  identity := founderText
  signatureKeyPair := homeKey
  previousContentKeys := previousContentKeys
  storageEntries :=
    [{ key := homeGroupId, value := Hex.encode (List.replicate epoch.toNat 1) }]

/-- The key of an epoch. -/
def homeContentKey (epoch : UInt64) : PersistedMlsContentKey where
  protocol := openmlsWorkspaceContentKeyProtocol
  ciphersuite := defaultOpenmlsCiphersuite
  groupId := homeGroupId
  epoch := epoch
  keyId := workspaceContentKeyId homeGroupId epoch
  contentKey := List.replicate openmlsWorkspaceContentKeyLen (UInt8.ofNat epoch.toNat)

def homeGroupRecords : List (PersistedMlsWorkspaceGroupState (List UInt8)) :=
  [homeGroupRecord 0 [], homeGroupRecord 1 [homeContentKey 0]]

def homeMls : OpenMls := foundersMls homeGroupRecords

/-- What the calls return, evaluated at once. -/
private theorem homeMls_facts :
    (homeGroupRecords.map groupStateJson).Nodup ∧
      (homeMls.createWorkspaceGroup [] founderText "w").map
          CreatedMlsWorkspaceGroup.privateGroupState =
        .ok (groupStateJson (homeGroupRecord 0 [])) ∧
      (homeMls.updateOwnLeafInGroup [] (groupStateJson (homeGroupRecord 0 []))).map
          UpdatedMlsWorkspaceGroup.updatedPrivateGroupState =
        .ok (groupStateJson (homeGroupRecord 1 [homeContentKey 0])) ∧
      homeMls.exportGroupContentKey (groupStateJson (homeGroupRecord 0 [])) =
        .ok (homeContentKey 0).exported := by
  decide +kernel

/-- After the update, the device still has the key of the first epoch. -/
theorem groupContentKeys_kept_home :
    homeMls.exportGroupContentKeyForKeyId
        (groupStateJson (homeGroupRecord 1 [homeContentKey 0]))
        (workspaceContentKeyId homeGroupId 0) = .ok (some (homeContentKey 0).exported) := by
  obtain ⟨distinct, created, updated, exported⟩ := homeMls_facts
  have supported : groupProtocolSupported openmlsWorkspaceGroupProtocol = true := by decide
  have isNew : homeMls.NewState (groupStateJson (homeGroupRecord 0 [])) := by
    cases isCreated : homeMls.createWorkspaceGroup [] founderText "w" with
    | error raised =>
        rw [isCreated] at created
        cases created
    | ok group =>
        rw [isCreated] at created
        rw [← Except.ok.inj created]
        exact .created supported isCreated
  have performed :
      homeMls.perform (groupStateJson (homeGroupRecord 0 [])) (.updateOwnLeaf []) =
        .ok (groupStateJson (homeGroupRecord 1 [homeContentKey 0])) := by
    rw [← updated, OpenMls.perform]
    cases homeMls.updateOwnLeafInGroup [] (groupStateJson (homeGroupRecord 0 [])) <;> rfl
  have ran :
      homeMls.GroupRun (groupStateJson (homeGroupRecord 0 [])) [.updateOwnLeaf []]
        (groupStateJson (homeGroupRecord 1 [homeContentKey 0])) :=
    GuardedRun.extend .start trivial performed
  exact homeMls.groupContentKeys_kept (foundersMls_lawful distinct) isNew .start ran
    (workspaceContentKeyId homeGroupId 0) (homeContentKey 0).exported (Or.inr ⟨exported, rfl⟩)

end Chaft

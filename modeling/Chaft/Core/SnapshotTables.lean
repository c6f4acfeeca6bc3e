import Chaft.Core.SnapshotIndex

/-!
# The tables behind a snapshot

The loop of `trustSnapshotFromEvents` mirrors what `applyAuthorized` records,
with lists of channel members in place of sets.  The index of the resulting
snapshot holds the tables again, with the root as an owner.
-/

namespace Chaft

open Keyed Outcome

/-- The access that a table entry for a message stands for. -/
def tableMessageAccess (entry : ChannelId × DeviceId) : MessageAccess where
  channelId := entry.1
  authorDeviceId := some entry.2

namespace SnapshotTables

/-- The tables hold what the index holds. -/
structure Mirrors (tables : SnapshotTables) (index : WorkspaceAccessIndex) : Prop where
  roles : tables.roles = index.roles
  channels :
    ∀ channelId : ChannelId,
      index.channels[channelId]? =
        tables.channels[channelId]?.map TrustSnapshotChannel.access
  channelIds :
    ∀ (channelId : ChannelId) (channel : TrustSnapshotChannel),
      tables.channels[channelId]? = some channel → channel.channelId = channelId
  messages :
    ∀ messageId : MessageId,
      index.messages[messageId]? = tables.messages[messageId]?.map tableMessageAccess
  eventChannels : tables.eventChannels = index.eventChannels
  personLinks : tables.personDeviceLinks = index.personLinks

theorem mirrors_new (workspaceId : WorkspaceId) :
    Mirrors empty (WorkspaceAccessIndex.new workspaceId) :=
  { roles := rfl
    channels := by simp [empty, WorkspaceAccessIndex.new]
    channelIds := by simp [empty]
    messages := by simp [empty, WorkspaceAccessIndex.new]
    eventChannels := rfl
    personLinks := rfl }

/-! ## Members as lists and as sets -/

theorem access_members (channel : TrustSnapshotChannel) :
    channel.access.members = Std.ExtTreeSet.ofList channel.memberDeviceIds compare :=
  foldl_insert_eq_ofList channel.memberDeviceIds

theorem removeMember_access (deviceId : DeviceId) (channel : TrustSnapshotChannel) :
    (removeMember deviceId channel).access =
      { channel.access with members := channel.access.members.erase deviceId } := by
  rw [ChannelAccess.mk.injEq, access_members, access_members]
  exact ⟨rfl, rfl, ofList_filter_ne channel.memberDeviceIds deviceId⟩

theorem addMember_access (deviceId : DeviceId) (channel : TrustSnapshotChannel) :
    (addMember deviceId channel).access =
      { channel.access with members := channel.access.members.insert deviceId } := by
  rw [access_members]
  unfold addMember
  split
  · rename_i member
    rw [insert_ofList_of_mem member, ← access_members]
  · rw [← ofList_append_singleton, ← foldl_insert_eq_ofList]
    rfl

theorem sortedListing_access (channel : TrustSnapshotChannel) :
    TrustSnapshotChannel.access
        { channel with memberDeviceIds := sortedListing Identifier.le channel.memberDeviceIds } =
      channel.access := by
  rw [ChannelAccess.mk.injEq, access_members, access_members]
  exact ⟨rfl, rfl, ofList_congr (mem_sortedListing Identifier.le channel.memberDeviceIds)⟩

/-! ## The loop -/

@[simp]
theorem noteApplied_roles (tables : SnapshotTables) (event : SignedEvent)
    (noRoot : ¬ CreatesWorkspace event) :
    (tables.noteApplied event).roles = WorkspaceAccessIndex.rolesAfter tables.roles event := by
  unfold noteApplied WorkspaceAccessIndex.rolesAfter
  cases body : event.event.body with
  | workspaceCreated name => exact absurd (by rw [CreatesWorkspace, body]; rfl) noRoot
  | _ => dsimp only <;> (repeat' split) <;> rfl

@[simp]
theorem noteApplied_personDeviceLinks (tables : SnapshotTables) (event : SignedEvent) :
    (tables.noteApplied event).personDeviceLinks =
      WorkspaceAccessIndex.personLinksAfter tables.personDeviceLinks event := by
  unfold noteApplied WorkspaceAccessIndex.personLinksAfter
  cases event.event.body <;> dsimp only <;> (repeat' split) <;> rfl

theorem noteApplied_of_createsWorkspace
    (tables : SnapshotTables) {event : SignedEvent} (creates : CreatesWorkspace event) :
    tables.noteApplied event = tables := by
  obtain ⟨name, body⟩ := creates.exists_name
  simp only [noteApplied, body]

theorem Mirrors.channels_noteApplied
    {tables : SnapshotTables} {index : WorkspaceAccessIndex}
    (mirrors : Mirrors tables index) (event : SignedEvent) (channelId : ChannelId) :
    (WorkspaceAccessIndex.channelsAfter index.channels event)[channelId]? =
      (tables.noteApplied event).channels[channelId]?.map TrustSnapshotChannel.access := by
  have before := mirrors.channels
  unfold WorkspaceAccessIndex.channelsAfter noteApplied
  cases event.event.body with
  | memberRemoved removedDeviceId =>
      simp only [Std.ExtTreeMap.getElem?_map, before, Option.map_map]
      congr 1
      funext channel
      exact (removeMember_access removedDeviceId channel).symm
  | channelCreated createdChannelId name isPrivate =>
      simp only [Std.ExtTreeMap.getElem?_insert, before]
      split
      · cases isPrivate <;> rfl
      · rfl
  | directMessageChannelCreated createdChannelId name participantDeviceIds =>
      simp only [Std.ExtTreeMap.getElem?_insert, before]
      split
      · rw [← ofList_sortedListing_with Identifier.le, ← foldl_insert_eq_ofList]
        rfl
      · rfl
  | channelMemberAdded changedChannelId memberDeviceId =>
      simp only [getElem?_modify_same, before]
      split
      · rw [Option.map_map, Option.map_map]
        congr 1
        funext channel
        exact (addMember_access memberDeviceId channel).symm
      · rfl
  | channelMemberRemoved changedChannelId memberDeviceId =>
      simp only [getElem?_modify_same, before]
      split
      · rw [Option.map_map, Option.map_map]
        congr 1
        funext channel
        exact (removeMember_access memberDeviceId channel).symm
      · rfl
  | _ =>
      dsimp only
      (repeat' split) <;> exact before channelId

theorem Mirrors.channelIds_noteApplied
    {tables : SnapshotTables} {index : WorkspaceAccessIndex}
    (mirrors : Mirrors tables index) (event : SignedEvent)
    {channelId : ChannelId} {channel : TrustSnapshotChannel}
    (present : (tables.noteApplied event).channels[channelId]? = some channel) :
    channel.channelId = channelId := by
  have before := mirrors.channelIds channelId
  unfold noteApplied at present
  cases body : event.event.body with
  | memberRemoved removedDeviceId =>
      simp only [body, Std.ExtTreeMap.getElem?_map, Option.map_eq_some_iff] at present
      obtain ⟨earlier, wasPresent, rfl⟩ := present
      exact before earlier wasPresent
  | channelCreated createdChannelId name isPrivate =>
      simp only [body, Std.ExtTreeMap.getElem?_insert] at present
      split at present
      · rename_i compared
        rw [← Option.some.inj present]
        exact Std.LawfulEqCmp.compare_eq_iff_eq.mp compared
      · exact before channel present
  | directMessageChannelCreated createdChannelId name participantDeviceIds =>
      simp only [body, Std.ExtTreeMap.getElem?_insert] at present
      split at present
      · rename_i compared
        rw [← Option.some.inj present]
        exact Std.LawfulEqCmp.compare_eq_iff_eq.mp compared
      · exact before channel present
  | channelMemberAdded changedChannelId memberDeviceId =>
      simp only [body, getElem?_modify_same] at present
      split at present
      · obtain ⟨earlier, wasPresent, rfl⟩ := Option.map_eq_some_iff.mp present
        rw [← before earlier wasPresent]
        unfold addMember
        split <;> rfl
      · exact before channel present
  | channelMemberRemoved changedChannelId memberDeviceId =>
      simp only [body, getElem?_modify_same] at present
      split at present
      · obtain ⟨earlier, wasPresent, rfl⟩ := Option.map_eq_some_iff.mp present
        exact before earlier wasPresent
      · exact before channel present
  | _ =>
      simp only [body] at present
      first
        | exact before channel present
        | (repeat' split at present) <;> exact before channel present

theorem noteApplied_messages (tables : SnapshotTables) (event : SignedEvent) :
    (tables.noteApplied event).messages =
      match WorkspaceAccessIndex.createdMessageId event.event.body, event.event.channelId with
      | some messageId, some channelId =>
          tables.messages.insert messageId (channelId, event.event.authorDeviceId)
      | _, _ => tables.messages := by
  unfold noteApplied
  cases event.event.body <;> dsimp only [WorkspaceAccessIndex.createdMessageId] <;>
    (repeat' split) <;> simp_all

theorem Mirrors.messages_noteApplied
    {tables : SnapshotTables} {index : WorkspaceAccessIndex}
    (mirrors : Mirrors tables index) (event : SignedEvent) (messageId : MessageId) :
    (WorkspaceAccessIndex.messagesAfter index.messages event)[messageId]? =
      (tables.noteApplied event).messages[messageId]?.map tableMessageAccess := by
  have before := mirrors.messages messageId
  rw [noteApplied_messages]
  unfold WorkspaceAccessIndex.messagesAfter
  cases WorkspaceAccessIndex.createdMessageId event.event.body with
  | none => exact before
  | some createdId =>
      cases event.event.channelId with
      | none => exact before
      | some channelId =>
          dsimp only
          rw [Std.ExtTreeMap.getElem?_insert, Std.ExtTreeMap.getElem?_insert, before]
          split <;> rfl

theorem Mirrors.eventChannels_noteApplied
    {tables : SnapshotTables} {index : WorkspaceAccessIndex}
    (mirrors : Mirrors tables index) (event : SignedEvent) :
    (tables.noteApplied event).eventChannels =
      WorkspaceAccessIndex.eventChannelsAfter index.eventChannels index.messages event := by
  have before := mirrors.messages
  rw [← mirrors.eventChannels]
  unfold WorkspaceAccessIndex.eventChannelsAfter WorkspaceAccessIndex.recordedChannelId noteApplied
  cases event.event.body <;> dsimp only <;> (try simp only [before]) <;> (repeat' split) <;>
    simp_all [tableMessageAccess]

/-- Noting an event mirrors recording it. -/
theorem Mirrors.noteApplied
    {tables : SnapshotTables} {index : WorkspaceAccessIndex} {event : SignedEvent}
    (mirrors : Mirrors tables index) (noRoot : ¬ CreatesWorkspace event) :
    Mirrors (tables.noteApplied event) (index.applyAuthorized event) where
  roles := by
    rw [noteApplied_roles tables event noRoot, WorkspaceAccessIndex.applyAuthorized_roles,
      mirrors.roles]
  channels := by
    intro channelId
    rw [WorkspaceAccessIndex.applyAuthorized_channels, mirrors.channels_noteApplied]
  channelIds := fun _ _ present => mirrors.channelIds_noteApplied event present
  messages := by
    intro messageId
    rw [WorkspaceAccessIndex.applyAuthorized_messages, mirrors.messages_noteApplied]
  eventChannels := by
    rw [WorkspaceAccessIndex.applyAuthorized_eventChannels, mirrors.eventChannels_noteApplied]
  personLinks := by
    rw [noteApplied_personDeviceLinks, WorkspaceAccessIndex.applyAuthorized_personLinks,
      mirrors.personLinks]

end SnapshotTables

end Chaft

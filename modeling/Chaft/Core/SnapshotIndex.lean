import Chaft.Core.AccessEffects
import Chaft.Core.TrustSnapshot

/-!
# Which snapshots are accepted

`fromTrustSnapshot` accepts a snapshot when no listing repeats a key and every
reference is known, and then the index holds exactly the listings.
-/

namespace Chaft

open Keyed Outcome

attribute [local simp] Unique.exists_iff

namespace TrustSnapshot

/-- The device is the root or has a listed role. -/
def Knows (snapshot : TrustSnapshot) (deviceId : DeviceId) : Prop :=
  deviceId = snapshot.rootAuthorDeviceId ∨ ∃ role ∈ snapshot.roles, role.deviceId = deviceId

def Lists (snapshot : TrustSnapshot) (channelId : ChannelId) : Prop :=
  ∃ channel ∈ snapshot.channels, channel.channelId = channelId

/-- What `fromTrustSnapshot` asks of a snapshot. -/
structure Acceptable (snapshot : TrustSnapshot) : Prop where
  version : snapshot.schemaVersion = 1
  ids : validateTrustSnapshotIds snapshot = .ok ()
  rootUnlisted : ∀ role ∈ snapshot.roles, role.deviceId ≠ snapshot.rootAuthorDeviceId
  roles : snapshot.roles.Pairwise fun first second => first.deviceId ≠ second.deviceId
  channels : snapshot.channels.Pairwise fun first second => first.channelId ≠ second.channelId
  members :
    ∀ channel ∈ snapshot.channels,
      channel.memberDeviceIds.Nodup ∧ ∀ deviceId ∈ channel.memberDeviceIds, snapshot.Knows deviceId
  linkedDevices :
    snapshot.personDeviceLinks.Pairwise fun first second => first.deviceId ≠ second.deviceId
  linkedPersons :
    snapshot.personDeviceLinks.Pairwise fun first second => first.personId ≠ second.personId
  linksKnown : ∀ link ∈ snapshot.personDeviceLinks, snapshot.Knows link.deviceId
  messages : snapshot.messages.Pairwise fun first second => first.messageId ≠ second.messageId
  messagesKnown : ∀ message ∈ snapshot.messages, snapshot.Lists message.channelId
  eventChannels :
    snapshot.eventChannels.Pairwise fun first second => first.eventId ≠ second.eventId
  eventChannelsKnown :
    ∀ eventChannel ∈ snapshot.eventChannels, snapshot.Lists eventChannel.channelId

end TrustSnapshot

/-- The access that a listed channel stands for. -/
def TrustSnapshotChannel.access (channel : TrustSnapshotChannel) : ChannelAccess where
  isPrivate := channel.isPrivate
  creatorDeviceId := channel.creatorDeviceId
  members := channel.memberDeviceIds.foldl (fun members deviceId => members.insert deviceId) ∅

def TrustSnapshotMessage.access (message : TrustSnapshotMessage) : MessageAccess where
  channelId := message.channelId
  authorDeviceId := message.authorDeviceId

namespace WorkspaceAccessIndex

/-- The index that holds the listings of a snapshot. -/
def snapshotIndex (snapshot : TrustSnapshot) : WorkspaceAccessIndex where
  workspaceId := snapshot.workspaceId
  roles :=
    tableOf TrustSnapshotRole.deviceId TrustSnapshotRole.role
      ((∅ : HashMap DeviceId WorkspaceRole).insert snapshot.rootAuthorDeviceId .owner)
      snapshot.roles
  channels :=
    tableOf TrustSnapshotChannel.channelId TrustSnapshotChannel.access ∅ snapshot.channels
  messages :=
    tableOf TrustSnapshotMessage.messageId TrustSnapshotMessage.access ∅ snapshot.messages
  eventChannels :=
    tableOf TrustSnapshotEventChannel.eventId TrustSnapshotEventChannel.channelId ∅
      snapshot.eventChannels
  invites := ∅
  joinRequests := ∅
  personLinks :=
    tableOf TrustSnapshotPersonDeviceLink.deviceId TrustSnapshotPersonDeviceLink.personId ∅
      snapshot.personDeviceLinks
  rootDeviceId := some snapshot.rootAuthorDeviceId
  rootSeen := true

/-! ## The five loops -/

theorem foldlM_readRole_eq_ok_iff
    (roles : List TrustSnapshotRole) (index final : WorkspaceAccessIndex) :
    roles.foldlM readRole index = .ok final ↔
      (∀ role ∈ roles, role.deviceId ∉ index.roles) ∧
        roles.Pairwise (fun first second => first.deviceId ≠ second.deviceId) ∧
          { index with
            roles :=
              tableOf TrustSnapshotRole.deviceId TrustSnapshotRole.role index.roles roles } =
            final := by
  have folded :
      ∀ (items : List TrustSnapshotRole) (start : WorkspaceAccessIndex),
        items.foldl insertRole start =
          { start with
            roles :=
              tableOf TrustSnapshotRole.deviceId TrustSnapshotRole.role start.roles items } := by
    intro items
    induction items with
    | nil => intro start; rfl
    | cons role rest inductionHypothesis =>
        intro start
        rw [List.foldl_cons, inductionHypothesis]
        rfl
  rw [← folded]
  apply foldlM_eq_ok_iff
  · intro state role next
    simp [readRole]
  · intro state role other
    simp only [insertRole, Std.ExtTreeMap.mem_insert, Std.LawfulEqCmp.compare_eq_iff_eq]
    tauto

theorem foldlM_readMember_eq_ok_iff
    (index : WorkspaceAccessIndex) (deviceIds : List DeviceId) (members : HashSet DeviceId) :
    deviceIds.foldlM index.readMember ∅ = .ok members ↔
      (∀ deviceId ∈ deviceIds, deviceId ∈ index.roles) ∧ deviceIds.Nodup ∧
        deviceIds.foldl (fun members deviceId => members.insert deviceId) ∅ = members := by
  have loop :=
    @foldlM_eq_ok_iff _ _ _ index.readMember (fun members deviceId => members.insert deviceId)
      (fun members deviceId => deviceId ∈ index.roles ∧ deviceId ∉ members) (· ≠ ·)
      (by simp [readMember])
      (by
        intro state first second
        rw [Std.ExtTreeSet.mem_insert, Std.LawfulEqCmp.compare_eq_iff_eq]
        tauto)
      deviceIds ∅ members
  rw [loop]
  simp [List.Nodup]

theorem foldlM_readChannel_eq_ok_iff
    (channels : List TrustSnapshotChannel) (index final : WorkspaceAccessIndex) :
    channels.foldlM readChannel index = .ok final ↔
      (∀ channel ∈ channels, channel.channelId ∉ index.channels ∧
          channel.memberDeviceIds.Nodup ∧
            ∀ deviceId ∈ channel.memberDeviceIds, deviceId ∈ index.roles) ∧
        channels.Pairwise (fun first second => first.channelId ≠ second.channelId) ∧
          { index with
            channels :=
              tableOf TrustSnapshotChannel.channelId TrustSnapshotChannel.access index.channels
                channels } =
            final := by
  have folded :
      ∀ (items : List TrustSnapshotChannel) (start : WorkspaceAccessIndex),
        items.foldl (fun current channel => current.insertChannel channel channel.access.members)
            start =
          { start with
            channels :=
              tableOf TrustSnapshotChannel.channelId TrustSnapshotChannel.access start.channels
                items } := by
    intro items
    induction items with
    | nil => intro start; rfl
    | cons channel rest inductionHypothesis =>
        intro start
        rw [List.foldl_cons, inductionHypothesis]
        rfl
  rw [← folded]
  apply foldlM_eq_ok_iff
  · intro state channel next
    simp only [readChannel, bind_eq_ok_iff, ensure_eq_ok_iff, foldlM_readMember_eq_ok_iff,
      Unique.exists_iff, Except.ok.injEq]
    constructor
    · rintro ⟨isNew, members, ⟨known, distinct, rfl⟩, rfl⟩
      exact ⟨⟨isNew, distinct, known⟩, rfl⟩
    · rintro ⟨⟨isNew, distinct, known⟩, rfl⟩
      exact ⟨isNew, _, ⟨known, distinct, rfl⟩, rfl⟩
  · intro state channel other
    simp only [insertChannel, Std.ExtTreeMap.mem_insert, Std.LawfulEqCmp.compare_eq_iff_eq]
    tauto

theorem foldlM_readLink_eq_ok_iff
    (links : List TrustSnapshotPersonDeviceLink) (linked final : LinkedIndex) :
    links.foldlM readLink linked = .ok final ↔
      (∀ link ∈ links, link.deviceId ∈ linked.index.roles ∧
          link.deviceId ∉ linked.index.personLinks ∧ link.personId ∉ linked.linkedPersonIds) ∧
        links.Pairwise (fun first second =>
          first.deviceId ≠ second.deviceId ∧ first.personId ≠ second.personId) ∧
          links.foldl insertLink linked = final := by
  apply foldlM_eq_ok_iff
  · intro state link next
    simp only [readLink, bind_eq_ok_iff, ensure_eq_ok_iff, Unique.exists_iff, Except.ok.injEq]
    tauto
  · intro state link other
    simp only [insertLink, Std.ExtTreeMap.mem_insert, Std.LawfulEqCmp.compare_eq_iff_eq]
    tauto

theorem foldl_insertLink_index
    (links : List TrustSnapshotPersonDeviceLink) (linked : LinkedIndex) :
    (links.foldl insertLink linked).index =
      { linked.index with
        personLinks :=
          tableOf TrustSnapshotPersonDeviceLink.deviceId TrustSnapshotPersonDeviceLink.personId
            linked.index.personLinks links } := by
  induction links generalizing linked with
  | nil => rfl
  | cons link rest inductionHypothesis =>
      rw [List.foldl_cons, inductionHypothesis]
      rfl

theorem foldlM_readMessage_eq_ok_iff
    (messages : List TrustSnapshotMessage) (index final : WorkspaceAccessIndex) :
    messages.foldlM readMessage index = .ok final ↔
      (∀ message ∈ messages, message.channelId ∈ index.channels ∧
          message.messageId ∉ index.messages) ∧
        messages.Pairwise (fun first second => first.messageId ≠ second.messageId) ∧
          { index with
            messages :=
              tableOf TrustSnapshotMessage.messageId TrustSnapshotMessage.access index.messages
                messages } =
            final := by
  have folded :
      ∀ (items : List TrustSnapshotMessage) (start : WorkspaceAccessIndex),
        items.foldl insertMessage start =
          { start with
            messages :=
              tableOf TrustSnapshotMessage.messageId TrustSnapshotMessage.access start.messages
                items } := by
    intro items
    induction items with
    | nil => intro start; rfl
    | cons message rest inductionHypothesis =>
        intro start
        rw [List.foldl_cons, inductionHypothesis]
        rfl
  rw [← folded]
  apply foldlM_eq_ok_iff
  · intro state message next
    simp [readMessage]
  · intro state message other
    simp only [insertMessage, Std.ExtTreeMap.mem_insert, Std.LawfulEqCmp.compare_eq_iff_eq]
    tauto

theorem foldlM_readEventChannel_eq_ok_iff
    (eventChannels : List TrustSnapshotEventChannel) (index final : WorkspaceAccessIndex) :
    eventChannels.foldlM readEventChannel index = .ok final ↔
      (∀ eventChannel ∈ eventChannels, eventChannel.channelId ∈ index.channels ∧
          eventChannel.eventId ∉ index.eventChannels) ∧
        eventChannels.Pairwise (fun first second => first.eventId ≠ second.eventId) ∧
          { index with
            eventChannels :=
              tableOf TrustSnapshotEventChannel.eventId TrustSnapshotEventChannel.channelId
                index.eventChannels eventChannels } =
            final := by
  have folded :
      ∀ (items : List TrustSnapshotEventChannel) (start : WorkspaceAccessIndex),
        items.foldl insertEventChannel start =
          { start with
            eventChannels :=
              tableOf TrustSnapshotEventChannel.eventId TrustSnapshotEventChannel.channelId
                start.eventChannels items } := by
    intro items
    induction items with
    | nil => intro start; rfl
    | cons eventChannel rest inductionHypothesis =>
        intro start
        rw [List.foldl_cons, inductionHypothesis]
        rfl
  rw [← folded]
  apply foldlM_eq_ok_iff
  · intro state eventChannel next
    simp [readEventChannel]
  · intro state eventChannel other
    simp only [insertEventChannel, Std.ExtTreeMap.mem_insert, Std.LawfulEqCmp.compare_eq_iff_eq]
    tauto

/-! ## The whole reading -/

@[simp]
theorem mem_snapshotIndex_roles (snapshot : TrustSnapshot) (deviceId : DeviceId) :
    deviceId ∈ (snapshotIndex snapshot).roles ↔ snapshot.Knows deviceId := by
  rw [snapshotIndex, mem_tableOf, Std.ExtTreeMap.mem_insert, Std.LawfulEqCmp.compare_eq_iff_eq,
    TrustSnapshot.Knows, eq_comm]
  simp

@[simp]
theorem mem_snapshotIndex_channels (snapshot : TrustSnapshot) (channelId : ChannelId) :
    channelId ∈ (snapshotIndex snapshot).channels ↔ snapshot.Lists channelId := by
  rw [snapshotIndex, mem_tableOf, TrustSnapshot.Lists]
  simp

/-- A snapshot is accepted when it is acceptable, and the index then holds its
listings. -/
theorem fromTrustSnapshot_eq_ok_iff (snapshot : TrustSnapshot) (index : WorkspaceAccessIndex) :
    fromTrustSnapshot snapshot = .ok index ↔
      snapshot.Acceptable ∧ snapshotIndex snapshot = index := by
  have knows := mem_snapshotIndex_roles snapshot
  have lists := mem_snapshotIndex_channels snapshot
  unfold snapshotIndex at knows lists
  dsimp only at knows lists
  unfold fromTrustSnapshot
  simp only [bind_eq_ok_iff, ensure_eq_ok_iff, Unique.exists_iff, foldlM_readRole_eq_ok_iff,
    foldlM_readChannel_eq_ok_iff, foldlM_readLink_eq_ok_iff, foldlM_readMessage_eq_ok_iff,
    foldlM_readEventChannel_eq_ok_iff]
  constructor
  · rintro ⟨version, ids, rolesIndex, ⟨rolesNew, rolesApart, rfl⟩, channelsIndex,
      ⟨channelsNew, channelsApart, rfl⟩, linked, ⟨linksNew, linksApart, rfl⟩, messagesIndex,
      ⟨messagesNew, messagesApart, rfl⟩, eventChannelsNew, eventChannelsApart, rfl⟩
    simp only [rooted, new, knows] at rolesNew channelsNew linksNew
    simp only [foldl_insertLink_index, rooted, new, lists] at messagesNew eventChannelsNew ⊢
    refine ⟨?_, rfl⟩
    exact
      { version := version
        ids := ids
        rootUnlisted := by
          intro role member same
          apply rolesNew role member
          rw [Std.ExtTreeMap.mem_insert, same, Std.ReflOrd.compare_self]
          exact Or.inl rfl
        roles := rolesApart
        channels := channelsApart
        members := fun channel member => (channelsNew channel member).2
        linkedDevices := linksApart.imp And.left
        linkedPersons := linksApart.imp And.right
        linksKnown := fun link member => (linksNew link member).1
        messages := messagesApart
        messagesKnown := fun message member => (messagesNew message member).1
        eventChannels := eventChannelsApart
        eventChannelsKnown := fun eventChannel member => (eventChannelsNew eventChannel member).1 }
  · rintro ⟨acceptable, rfl⟩
    refine ⟨acceptable.version, acceptable.ids, _, ⟨?_, acceptable.roles, rfl⟩, _,
      ⟨?_, acceptable.channels, rfl⟩, _,
      ⟨?_, acceptable.linkedDevices.and acceptable.linkedPersons, rfl⟩, _,
      ⟨?_, acceptable.messages, rfl⟩, ?_, acceptable.eventChannels, ?_⟩
    all_goals simp only [foldl_insertLink_index, rooted, new, knows, lists]
    · intro role member
      rw [Std.ExtTreeMap.mem_insert, Std.LawfulEqCmp.compare_eq_iff_eq]
      rintro (isRoot | impossible)
      · exact acceptable.rootUnlisted role member isRoot.symm
      · simp at impossible
    · intro channel member
      exact ⟨by simp, acceptable.members channel member⟩
    · intro link member
      exact ⟨acceptable.linksKnown link member, by simp, by simp⟩
    · intro message member
      exact ⟨acceptable.messagesKnown message member, by simp⟩
    · intro eventChannel member
      exact ⟨acceptable.eventChannelsKnown eventChannel member, by simp⟩
    · rfl

end WorkspaceAccessIndex

end Chaft

import Chaft.Core.ApplyBatch

/-!
# Trust snapshots

A trust snapshot lists what authorization needs to know about a workspace
without its history.  `fromTrustSnapshot` rebuilds an access index from one and
refuses listings that repeat a key or refer to something unknown.
`trustSnapshotFromEvents` summarizes a history and `trustSnapshotForEvents`
keeps the part of a snapshot that some target events depend on.

The source collects into hash tables and sorts the entries by their keys,
which is the order in which the tables of this development list them.
-/

namespace Chaft

open Keyed Outcome

/-! ## From a snapshot to an index -/

namespace WorkspaceAccessIndex

def insertRole (index : WorkspaceAccessIndex) (role : TrustSnapshotRole) :
    WorkspaceAccessIndex :=
  { index with roles := index.roles.insert role.deviceId role.role }

def readRole (index : WorkspaceAccessIndex) (role : TrustSnapshotRole) :
    Except AuthorizationError WorkspaceAccessIndex := do
  ensure (role.deviceId ∉ index.roles) .invalidTrustSnapshot
  .ok (index.insertRole role)

def readMember
    (index : WorkspaceAccessIndex) (members : HashSet DeviceId) (memberDeviceId : DeviceId) :
    Except AuthorizationError (HashSet DeviceId) := do
  ensure (memberDeviceId ∈ index.roles ∧ memberDeviceId ∉ members) .invalidTrustSnapshot
  .ok (members.insert memberDeviceId)

def insertChannel
    (index : WorkspaceAccessIndex) (channel : TrustSnapshotChannel)
    (members : HashSet DeviceId) : WorkspaceAccessIndex :=
  { index with
    channels := index.channels.insert channel.channelId
      { isPrivate := channel.isPrivate
        creatorDeviceId := channel.creatorDeviceId
        members := members } }

def readChannel (index : WorkspaceAccessIndex) (channel : TrustSnapshotChannel) :
    Except AuthorizationError WorkspaceAccessIndex := do
  ensure (channel.channelId ∉ index.channels) .invalidTrustSnapshot
  let members ← channel.memberDeviceIds.foldlM index.readMember ∅
  .ok (index.insertChannel channel members)

/-- The index with the persons linked so far. -/
structure LinkedIndex where
  index : WorkspaceAccessIndex
  linkedPersonIds : HashMap PersonId DeviceId

def insertLink (linked : LinkedIndex) (link : TrustSnapshotPersonDeviceLink) : LinkedIndex where
  index :=
    { linked.index with
      personLinks := linked.index.personLinks.insert link.deviceId link.personId }
  linkedPersonIds := linked.linkedPersonIds.insert link.personId link.deviceId

def readLink (linked : LinkedIndex) (link : TrustSnapshotPersonDeviceLink) :
    Except AuthorizationError LinkedIndex := do
  ensure (link.deviceId ∈ linked.index.roles ∧ link.deviceId ∉ linked.index.personLinks)
    .invalidTrustSnapshot
  ensure (link.personId ∉ linked.linkedPersonIds) .invalidTrustSnapshot
  .ok (insertLink linked link)

def insertMessage (index : WorkspaceAccessIndex) (message : TrustSnapshotMessage) :
    WorkspaceAccessIndex :=
  { index with
    messages := index.messages.insert message.messageId
      { channelId := message.channelId
        authorDeviceId := message.authorDeviceId } }

def readMessage (index : WorkspaceAccessIndex) (message : TrustSnapshotMessage) :
    Except AuthorizationError WorkspaceAccessIndex := do
  ensure (message.channelId ∈ index.channels ∧ message.messageId ∉ index.messages)
    .invalidTrustSnapshot
  .ok (index.insertMessage message)

def insertEventChannel
    (index : WorkspaceAccessIndex) (eventChannel : TrustSnapshotEventChannel) :
    WorkspaceAccessIndex :=
  { index with
    eventChannels := index.eventChannels.insert eventChannel.eventId eventChannel.channelId }

def readEventChannel
    (index : WorkspaceAccessIndex) (eventChannel : TrustSnapshotEventChannel) :
    Except AuthorizationError WorkspaceAccessIndex := do
  ensure
    (eventChannel.channelId ∈ index.channels ∧ eventChannel.eventId ∉ index.eventChannels)
    .invalidTrustSnapshot
  .ok (index.insertEventChannel eventChannel)

/-- The index of a workspace in which only the root is known. -/
def rooted (workspaceId : WorkspaceId) (rootAuthorDeviceId : DeviceId) :
    WorkspaceAccessIndex :=
  { new workspaceId with
    rootSeen := true
    rootDeviceId := some rootAuthorDeviceId
    roles := (∅ : HashMap DeviceId WorkspaceRole).insert rootAuthorDeviceId .owner }

def fromTrustSnapshot (snapshot : TrustSnapshot) :
    Except AuthorizationError WorkspaceAccessIndex := do
  ensure (snapshot.schemaVersion = 1) .invalidTrustSnapshot
  validateTrustSnapshotIds snapshot
  let index ← snapshot.roles.foldlM readRole
    (rooted snapshot.workspaceId snapshot.rootAuthorDeviceId)
  let index ← snapshot.channels.foldlM readChannel index
  let linked ← snapshot.personDeviceLinks.foldlM readLink ⟨index, ∅⟩
  let index ← snapshot.messages.foldlM readMessage linked.index
  snapshot.eventChannels.foldlM readEventChannel index

end WorkspaceAccessIndex

def authorizeEventWithTrustSnapshot (snapshot : TrustSnapshot) (event : SignedEvent) :
    Except AuthorizationError Unit := do
  let index ← WorkspaceAccessIndex.fromTrustSnapshot snapshot
  index.authorize event

/-! ## From a history to a snapshot -/

/-- The tables that the loop over the applied events fills. -/
structure SnapshotTables where
  roles : HashMap DeviceId WorkspaceRole
  channels : HashMap ChannelId TrustSnapshotChannel
  messages : HashMap MessageId (ChannelId × DeviceId)
  eventChannels : HashMap EventId ChannelId
  personDeviceLinks : HashMap DeviceId PersonId

namespace SnapshotTables

def empty : SnapshotTables where
  roles := ∅
  channels := ∅
  messages := ∅
  eventChannels := ∅
  personDeviceLinks := ∅

def removeMember (memberDeviceId : DeviceId) (channel : TrustSnapshotChannel) :
    TrustSnapshotChannel :=
  { channel with
    memberDeviceIds :=
      channel.memberDeviceIds.filter fun deviceId => decide (deviceId ≠ memberDeviceId) }

def addMember (memberDeviceId : DeviceId) (channel : TrustSnapshotChannel) :
    TrustSnapshotChannel :=
  if memberDeviceId ∈ channel.memberDeviceIds then
    channel
  else
    { channel with memberDeviceIds := channel.memberDeviceIds ++ [memberDeviceId] }

def noteApplied (tables : SnapshotTables) (event : SignedEvent) : SnapshotTables :=
  let author := event.event.authorDeviceId
  let noteEventChannel (channelId : ChannelId) :=
    tables.eventChannels.insert event.eventId channelId
  match event.event.body with
  | .workspaceCreated ..
  | .workspaceAccessPolicyUpdated ..
  | .deviceProfileUpdated ..
  | .personProfileUpdated ..
  | .deviceKeyPackagePublished ..
  | .peerEndpointPublished ..
  | .workspaceInviteRecorded ..
  | .workspaceInviteCapabilityCreated ..
  | .workspaceInviteClaimed ..
  | .workspaceInviteResolved ..
  | .workspaceJoinRequestRecorded ..
  | .workspaceJoinRequestResolved ..
  | .openMlsWorkspaceGroupMemberAdded ..
  | .openMlsWorkspaceGroupMemberRemoved ..
  | .openMlsWorkspaceGroupSelfUpdated .. => tables
  | .openMlsChannelGroupMemberAdded channelId ..
  | .openMlsChannelGroupMemberRemoved channelId ..
  | .openMlsChannelGroupSelfUpdated channelId ..
  | .channelDetailsUpdated channelId ..
  | .readMarkerUpdated channelId _ =>
      { tables with eventChannels := noteEventChannel channelId }
  | .contentKeyEpochPublished scope .. =>
      match scope with
      | .channel channelId => { tables with eventChannels := noteEventChannel channelId }
      | .workspace => tables
  | .memberInvited inviteeDeviceId role =>
      { tables with roles := tables.roles.insert inviteeDeviceId role }
  | .memberRoleUpdated memberDeviceId role =>
      { tables with roles := tables.roles.insert memberDeviceId role }
  | .memberRemoved removedDeviceId =>
      { tables with
        roles := tables.roles.erase removedDeviceId
        personDeviceLinks := tables.personDeviceLinks.erase removedDeviceId
        channels := tables.channels.map fun _ channel => removeMember removedDeviceId channel }
  | .channelCreated channelId _ isPrivate =>
      { tables with
        channels := tables.channels.insert channelId
          { channelId := channelId
            isPrivate := isPrivate
            creatorDeviceId := author
            memberDeviceIds := if isPrivate then [author] else [] }
        eventChannels := noteEventChannel channelId }
  | .directMessageChannelCreated channelId _ participantDeviceIds =>
      { tables with
        channels := tables.channels.insert channelId
          { channelId := channelId
            isPrivate := true
            creatorDeviceId := author
            memberDeviceIds :=
              sortedListing Identifier.le
                (if author ∈ participantDeviceIds then
                  participantDeviceIds
                else
                  participantDeviceIds ++ [author]) }
        eventChannels := noteEventChannel channelId }
  | .channelMemberAdded channelId memberDeviceId =>
      { tables with
        channels := tables.channels.modify channelId (addMember memberDeviceId)
        eventChannels := noteEventChannel channelId }
  | .channelMemberRemoved channelId memberDeviceId =>
      { tables with
        channels := tables.channels.modify channelId (removeMember memberDeviceId)
        eventChannels := noteEventChannel channelId }
  | .personDeviceLinked personId deviceId =>
      { tables with personDeviceLinks := tables.personDeviceLinks.insert deviceId personId }
  | .messageCreated messageId ..
  | .messageCreatedEncrypted messageId ..
  | .messageReplyCreated messageId ..
  | .messageReplyCreatedEncrypted messageId .. =>
      match event.event.channelId with
      | some channelId =>
          { tables with
            messages := tables.messages.insert messageId (channelId, author)
            eventChannels := noteEventChannel channelId }
      | none => tables
  | .messageEdited messageId ..
  | .messageEditedEncrypted messageId ..
  | .messageDeleted messageId
  | .reactionAdded messageId ..
  | .reactionRemoved messageId .. =>
      match tables.messages[messageId]? with
      | some (channelId, _) => { tables with eventChannels := noteEventChannel channelId }
      | none => tables

/-- The listings of a snapshot, with the role of the root left out. -/
def toSnapshot
    (tables : SnapshotTables) (workspaceId : WorkspaceId) (rootEvent : SignedEvent) :
    TrustSnapshot where
  schemaVersion := 1
  workspaceId := workspaceId
  rootEventId := rootEvent.eventId
  rootAuthorDeviceId := rootEvent.event.authorDeviceId
  roles :=
    (tables.roles.erase rootEvent.event.authorDeviceId).toList.map fun (deviceId, role) =>
      { deviceId := deviceId, role := role }
  channels :=
    tables.channels.toList.map fun (_, channel) =>
      { channel with memberDeviceIds := sortedListing Identifier.le channel.memberDeviceIds }
  messages :=
    tables.messages.toList.map fun (messageId, channelId, authorDeviceId) =>
      { messageId := messageId
        channelId := channelId
        authorDeviceId := some authorDeviceId }
  eventChannels :=
    tables.eventChannels.toList.map fun (eventId, channelId) =>
      { eventId := eventId, channelId := channelId }
  personDeviceLinks :=
    tables.personDeviceLinks.toList.map fun (deviceId, personId) =>
      { personId := personId, deviceId := deviceId }

end SnapshotTables

def trustSnapshotFromEvents (workspaceId : WorkspaceId) (events : List SignedEvent) :
    Except CoreError (TrustSnapshot × SignedEvent) := do
  let report ← ((WorkspaceState.new workspaceId).applyBatch events).1
  let appliedEvents :=
    events.filter fun event => decide (event.eventId ∈ report.appliedEvents)
  let rootEvent ←
    okOr (appliedEvents.find? fun event => createsWorkspace event.event.body)
      (.authorization .missingWorkspaceRoot)
  let tables := appliedEvents.foldl SnapshotTables.noteApplied SnapshotTables.empty
  .ok (tables.toSnapshot workspaceId rootEvent, rootEvent)

/-! ## Narrowing a snapshot -/

/-- What some target events depend on. -/
structure NeededEntries where
  devices : HashSet DeviceId
  channels : HashSet ChannelId
  messages : HashSet MessageId
  eventChannels : HashSet EventId

namespace NeededEntries

def needDevice (needed : NeededEntries) (deviceId : DeviceId) : NeededEntries :=
  { needed with devices := needed.devices.insert deviceId }

def needChannel (needed : NeededEntries) (channelId : ChannelId) : NeededEntries :=
  { needed with channels := needed.channels.insert channelId }

def needMessage (needed : NeededEntries) (messageId : MessageId) : NeededEntries :=
  { needed with messages := needed.messages.insert messageId }

def needEventChannel (needed : NeededEntries) (eventId : EventId) : NeededEntries :=
  { needed with eventChannels := needed.eventChannels.insert eventId }

/-- The part of `collectTrustSnapshotDependencies` that looks at the body. -/
def collectBody (needed : NeededEntries) : EventBody → NeededEntries
  | .workspaceCreated ..
  | .workspaceAccessPolicyUpdated ..
  | .deviceProfileUpdated ..
  | .personProfileUpdated ..
  | .deviceKeyPackagePublished ..
  | .peerEndpointPublished ..
  | .workspaceInviteCapabilityCreated ..
  | .workspaceInviteResolved ..
  | .workspaceJoinRequestResolved ..
  | .openMlsWorkspaceGroupSelfUpdated ..
  | .memberInvited ..
  | .channelCreated ..
  | .messageCreated ..
  | .messageCreatedEncrypted .. => needed
  | .workspaceInviteRecorded _ inviteeDeviceId ..
  | .workspaceInviteClaimed _ inviteeDeviceId ..
  | .openMlsWorkspaceGroupMemberAdded inviteeDeviceId .. => needed.needDevice inviteeDeviceId
  | .workspaceJoinRequestRecorded _ requesterDeviceId .. => needed.needDevice requesterDeviceId
  | .memberRoleUpdated memberDeviceId _ => needed.needDevice memberDeviceId
  | .memberRemoved removedDeviceId
  | .openMlsWorkspaceGroupMemberRemoved removedDeviceId .. => needed.needDevice removedDeviceId
  | .personDeviceLinked _ deviceId => needed.needDevice deviceId
  | .directMessageChannelCreated channelId _ participantDeviceIds =>
      participantDeviceIds.foldl needDevice (needed.needChannel channelId)
  | .channelDetailsUpdated channelId ..
  | .openMlsChannelGroupSelfUpdated channelId .. => needed.needChannel channelId
  | .channelMemberAdded channelId memberDeviceId
  | .channelMemberRemoved channelId memberDeviceId =>
      (needed.needChannel channelId).needDevice memberDeviceId
  | .openMlsChannelGroupMemberAdded channelId inviteeDeviceId .. =>
      (needed.needChannel channelId).needDevice inviteeDeviceId
  | .openMlsChannelGroupMemberRemoved channelId removedDeviceId .. =>
      (needed.needChannel channelId).needDevice removedDeviceId
  | .contentKeyEpochPublished scope .. =>
      match scope with
      | .channel channelId => needed.needChannel channelId
      | .workspace => needed
  | .messageReplyCreated _ replyToMessageId ..
  | .messageReplyCreatedEncrypted _ replyToMessageId .. => needed.needMessage replyToMessageId
  | .messageEdited messageId ..
  | .messageEditedEncrypted messageId ..
  | .messageDeleted messageId
  | .reactionAdded messageId ..
  | .reactionRemoved messageId .. => needed.needMessage messageId
  | .readMarkerUpdated channelId eventId =>
      (needed.needChannel channelId).needEventChannel eventId

def collectTrustSnapshotDependencies (needed : NeededEntries) (event : SignedEvent) :
    NeededEntries :=
  let needed := needed.needDevice event.event.authorDeviceId
  let needed :=
    match event.event.channelId with
    | some channelId => needed.needChannel channelId
    | none => needed
  needed.collectBody event.event.body

/-- A needed message needs its channel and its author. -/
def followMessage (needed : NeededEntries) (message : TrustSnapshotMessage) : NeededEntries :=
  if message.messageId ∈ needed.messages then
    match message.authorDeviceId with
    | some authorDeviceId =>
        (needed.needChannel message.channelId).needDevice authorDeviceId
    | none => needed.needChannel message.channelId
  else
    needed

def followEventChannel
    (needed : NeededEntries) (eventChannel : TrustSnapshotEventChannel) : NeededEntries :=
  if eventChannel.eventId ∈ needed.eventChannels then
    needed.needChannel eventChannel.channelId
  else
    needed

end NeededEntries

def neededEntries (snapshot : TrustSnapshot) (targetEvents : List SignedEvent) :
    NeededEntries :=
  let needed : NeededEntries :=
    { devices := (∅ : HashSet DeviceId).insert snapshot.rootAuthorDeviceId
      channels := ∅
      messages := ∅
      eventChannels := ∅ }
  let needed := targetEvents.foldl NeededEntries.collectTrustSnapshotDependencies needed
  let needed := snapshot.messages.foldl NeededEntries.followMessage needed
  snapshot.eventChannels.foldl NeededEntries.followEventChannel needed

def trustSnapshotForEvents (snapshot : TrustSnapshot) (targetEvents : List SignedEvent) :
    TrustSnapshot :=
  let needed := neededEntries snapshot targetEvents
  { snapshot with
    roles := snapshot.roles.filter fun role => decide (role.deviceId ∈ needed.devices)
    channels :=
      (snapshot.channels.filter fun channel =>
        decide (channel.channelId ∈ needed.channels)).map fun channel =>
          { channel with
            memberDeviceIds :=
              channel.memberDeviceIds.filter fun deviceId =>
                decide (deviceId ∈ needed.devices) }
    messages :=
      snapshot.messages.filter fun message => decide (message.messageId ∈ needed.messages)
    eventChannels :=
      snapshot.eventChannels.filter fun eventChannel =>
        decide (eventChannel.eventId ∈ needed.eventChannels)
    personDeviceLinks :=
      snapshot.personDeviceLinks.filter fun link => decide (link.deviceId ∈ needed.devices) }

end Chaft

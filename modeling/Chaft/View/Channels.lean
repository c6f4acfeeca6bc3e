import Chaft.View.Previews

/-!
# Channel rows

One row per channel that the reader may access, with the latest activity in it and the
number of its unread messages.  How far a channel is read is kept as the ID of one event;
its place in the order of application divides the read messages from the unread ones.

What a row tells of the history of access to its channel is left out: it depends neither
on the reader nor on any body.
-/

namespace Chaft

open Keyed

structure ChannelSnapshot where
  channelId : String
  name : String
  topic : String
  archived : Bool
  isPrivate : Bool
  memberCount : Nat
  memberDeviceIds : List String
  directMessage : Bool
  directMessageParticipantDeviceIds : List String
  localContentReady : Bool
  accessState : String
  unreadCount : UInt32
  latestActivity : Option ChannelActivitySnapshot
  deriving DecidableEq

def maxChannelSnapshotRows : Nat := 128

@[ext]
structure ChannelProjection where
  latestActivity : HashMap ChannelId ChannelActivitySnapshot
  unreadCounts : HashMap ChannelId UInt32

/-- The message that an event is about, with what its channel tells of it. -/
def activityMessageId : EventBody → Option MessageId
  | .messageCreated messageId ..
  | .messageCreatedEncrypted messageId ..
  | .messageReplyCreated messageId ..
  | .messageReplyCreatedEncrypted messageId ..
  | .messageEdited messageId ..
  | .messageEditedEncrypted messageId ..
  | .messageDeleted messageId
  | .reactionAdded messageId _
  | .reactionRemoved messageId _ => some messageId
  | _ => none

/-- The line that an event leaves in the row of its channel. -/
def activityPreview
    (event : SignedEvent) (message : MessageView) (bodyOverrides : BodyOverrides) : String :=
  match event.event.body with
  | .messageEdited .. | .messageEditedEncrypted .. =>
      "Edited: " ++ messageActivityPreview message event.eventId bodyOverrides
  | .messageDeleted _ => "Message deleted"
  | .reactionAdded _ reaction => "Reacted " ++ compactPreview reaction
  | .reactionRemoved _ reaction => "Removed reaction " ++ compactPreview reaction
  | _ => messageActivityPreview message event.eventId bodyOverrides

/-- The message that a creation event or a reply creates. -/
def eventTimelineMessageId : EventBody → Option MessageId
  | .messageCreated messageId ..
  | .messageCreatedEncrypted messageId ..
  | .messageReplyCreated messageId ..
  | .messageReplyCreatedEncrypted messageId .. => some messageId
  | _ => none

namespace WorkspaceState

def channelActivity
    (state : WorkspaceState) (event : SignedEvent) (message : MessageView)
    (bodyOverrides : BodyOverrides) : ChannelActivitySnapshot where
  eventId := event.eventId.text
  messageId := some message.messageId.text
  authorDeviceId := event.event.authorDeviceId.text
  authorDisplayName := state.authorDisplayName event.event.authorDeviceId
  authorAvatarId := state.profileAvatarId event.event.authorDeviceId
  physicalMs := event.event.timestamp.physicalMs
  preview := activityPreview event message bodyOverrides

def channelActivityForEvent
    (state : WorkspaceState) (event : SignedEvent) (readerDeviceId : Option DeviceId)
    (bodyOverrides : BodyOverrides) : Option (ChannelId × ChannelActivitySnapshot) := do
  let messageId ← activityMessageId event.event.body
  let message ← state.messages[messageId]?
  if state.shownTo readerDeviceId message.channelId then
    some (message.channelId, state.channelActivity event message bodyOverrides)
  else
    none

/-- The place at which each applied event stands. -/
def appliedIndexByEventId (report : MaterializationReport) : HashMap EventId Nat :=
  tableOf Prod.fst Prod.snd ∅ report.appliedEvents.zipIdx

/-- The place up to which the reader has read a channel. -/
def markerIndex
    (state : WorkspaceState) (report : MaterializationReport) (readerDeviceId : DeviceId)
    (channelId : ChannelId) : Option Nat := do
  let channels ← state.readMarkers[readerDeviceId]?
  let markerEventId ← channels[channelId]?
  (appliedIndexByEventId report)[markerEventId]?

/-- The channel in which an event counts as an unread message. -/
def unreadChannelId
    (state : WorkspaceState) (report : MaterializationReport) (readerDeviceId : DeviceId)
    (index : Nat) (event : SignedEvent) : Option ChannelId :=
  if event.event.authorDeviceId = readerDeviceId ∨
      (eventTimelineMessageId event.event.body).isNone then
    none
  else
    event.event.channelId.filter fun channelId =>
      state.channelAccessibleTo channelId readerDeviceId &&
        (state.markerIndex report readerDeviceId channelId).all fun readIndex => readIndex < index

def projectEvent
    (state : WorkspaceState) (report : MaterializationReport)
    (readerDeviceId : Option DeviceId) (bodyOverrides : BodyOverrides)
    (projection : ChannelProjection) (index : Nat) (event : SignedEvent) : ChannelProjection :=
  { latestActivity :=
      match state.channelActivityForEvent event readerDeviceId bodyOverrides with
      | some (channelId, activity) => projection.latestActivity.insert channelId activity
      | none => projection.latestActivity
    unreadCounts :=
      match readerDeviceId.bind fun deviceId =>
          state.unreadChannelId report deviceId index event with
      | some channelId =>
          projection.unreadCounts.insert channelId
            (saturatingAdd (projection.unreadCounts.getD channelId 0) 1)
      | none => projection.unreadCounts }

/-- One applied event of the report, which the snapshot may not have. -/
def projectApplied
    (state : WorkspaceState) (report : MaterializationReport)
    (eventsById : HashMap EventId SignedEvent) (readerDeviceId : Option DeviceId)
    (bodyOverrides : BodyOverrides) (projection : ChannelProjection)
    (indexed : EventId × Nat) : ChannelProjection :=
  match eventsById[indexed.1]? with
  | some event =>
      state.projectEvent report readerDeviceId bodyOverrides projection indexed.2 event
  | none => projection

def channelProjectionByChannel
    (state : WorkspaceState) (report : MaterializationReport)
    (eventsById : HashMap EventId SignedEvent) (readerDeviceId : Option DeviceId)
    (bodyOverrides : BodyOverrides) : ChannelProjection :=
  report.appliedEvents.zipIdx.foldl
    (state.projectApplied report eventsById readerDeviceId bodyOverrides)
    { latestActivity := ∅, unreadCounts := ∅ }

def channelSnapshot
    (state : WorkspaceState) (projection : ChannelProjection) (channel : ChannelView) :
    ChannelSnapshot where
  channelId := channel.channelId.text
  name := channel.name
  topic := channel.topic
  archived := channel.archived
  isPrivate := channel.isPrivate
  memberCount := if channel.isPrivate then channel.memberDeviceIds.length else state.members.size
  memberDeviceIds := channel.memberDeviceIds.map Identifier.text
  directMessage := channel.directMessage
  directMessageParticipantDeviceIds :=
    channel.directMessageParticipantDeviceIds.map Identifier.text
  localContentReady := !channel.isPrivate
  accessState := if channel.isPrivate then "unknown" else "ready"
  unreadCount := projection.unreadCounts.getD channel.channelId 0
  latestActivity := projection.latestActivity[channel.channelId]?

end WorkspaceState

/-- The latest activity goes first, a channel without any last. -/
def ChannelSnapshot.order (left right : ChannelSnapshot) : Ordering :=
  let activityMs (channel : ChannelSnapshot) : Option Int :=
    channel.latestActivity.map fun activity => activity.physicalMs.toInt
  (compare (activityMs right) (activityMs left)).then
    ((compare left.name right.name).then (compare left.channelId right.channelId))

def sortChannelSnapshots (channels : List ChannelSnapshot) : List ChannelSnapshot :=
  channels.insertionSort fun left right => (left.order right).isLE = true

namespace WorkspaceState

def channelSnapshotsFromStateReport
    (state : WorkspaceState) (report : MaterializationReport)
    (eventsById : HashMap EventId SignedEvent) (readerDeviceId : Option DeviceId)
    (bodyOverrides : BodyOverrides) : List ChannelSnapshot :=
  let projection :=
    state.channelProjectionByChannel report eventsById readerDeviceId bodyOverrides
  sortChannelSnapshots
    (((listedValues state.channels).filter fun channel =>
      state.shownTo readerDeviceId channel.channelId).map (state.channelSnapshot projection))

end WorkspaceState

end Chaft

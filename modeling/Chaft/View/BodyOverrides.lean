import Chaft.View.Timeline

/-!
# Bodies for a window

Opening a sealed body is expensive, so a window asks only for the bodies that it can show:
those of its own rows, of the messages they reply to, of the last replies in their threads,
and of the latest activity of every channel.
-/

namespace Chaft

open Keyed SlidingWindow

/-- A deleted message shows no body, and one that is not sealed needs no override. -/
def bodyOverrideEventIdForMessage (message : MessageView) : Option EventId :=
  if !message.deleted && message.sealedMarkdown.isSome then
    some message.authorEventId
  else
    none

/-- Everything but a deletion may show the body of its message. -/
def needsMessageBody : EventBody → Bool
  | .messageDeleted _ => false
  | _ => true

def threadReplyPreviewBodyOverrideEventIds
    (message : MessageView) (threadReplies : ThreadReplyIndex) : List EventId :=
  match threadReplies[message.messageId]? with
  | none => []
  | some replies =>
      (lastReplies replies).filterMap fun reply => bodyOverrideEventIdForMessage reply.message

namespace WorkspaceState

def channelActivityBodyOverrideEventId
    (state : WorkspaceState) (event : SignedEvent) (readerDeviceId : Option DeviceId) :
    Option (ChannelId × Option EventId) := do
  let messageId ← activityMessageId event.event.body
  let message ← state.messages[messageId]?
  if state.shownTo readerDeviceId message.channelId then
    some (message.channelId,
      if needsMessageBody event.event.body then bodyOverrideEventIdForMessage message else none)
  else
    none

def noteLatestActivity
    (state : WorkspaceState) (eventsById : HashMap EventId SignedEvent)
    (readerDeviceId : Option DeviceId) (latestByChannel : HashMap ChannelId (Option EventId))
    (eventId : EventId) : HashMap ChannelId (Option EventId) :=
  match eventsById[eventId]?.bind fun event =>
      state.channelActivityBodyOverrideEventId event readerDeviceId with
  | some (channelId, overrideId) => latestByChannel.insert channelId overrideId
  | none => latestByChannel

def latestActivityBodyOverrideEventIds
    (state : WorkspaceState) (report : MaterializationReport)
    (eventsById : HashMap EventId SignedEvent) (readerDeviceId : Option DeviceId) :
    List EventId :=
  (listedValues
    (report.appliedEvents.foldl (state.noteLatestActivity eventsById readerDeviceId) ∅)).filterMap
    id

def collectAppliedTimelineBodyOverrideEventIds
    (state : WorkspaceState) (eventsById : HashMap EventId SignedEvent)
    (threadReplies : ThreadReplyIndex) (readerDeviceId : Option DeviceId) (eventId : EventId) :
    List EventId :=
  let message := do
    let event ← eventsById[eventId]?
    let messageId ← eventTimelineMessageId event.event.body
    let message ← state.messages[messageId]?
    if state.shownTo readerDeviceId message.channelId then some message else none
  match message with
  | none => []
  | some message =>
      let ofReply := do
        let replyTo ← message.replyToMessageId.bind fun messageId => state.messages[messageId]?
        bodyOverrideEventIdForMessage replyTo
      (bodyOverrideEventIdForMessage message).toList ++ ofReply.toList ++
        threadReplyPreviewBodyOverrideEventIds message threadReplies

def bodyOverrideEventIdsForSnapshotWindow
    (primitives : Primitives) (state : WorkspaceState) (report : MaterializationReport)
    (events : List SignedEvent) (readerDeviceId : DeviceId)
    (options : WorkspaceSnapshotOptions) : HashSet EventId :=
  let table := eventsById events
  let timelineRows :=
    state.timelineRowsForWindow report table (some readerDeviceId)
      (invalidSignaturesForSnapshot primitives events) options
  let threadReplies :=
    state.threadReplyIndex table (timelineWindowMessageIds timelineRows.rows table)
  let ofRow : TimelineRowRef → List EventId := fun row =>
    match row with
    | .applied eventId =>
        state.collectAppliedTimelineBodyOverrideEventIds table threadReplies
          (some readerDeviceId) eventId
    | .gap _ | .invalid _ => []
  Std.ExtTreeSet.ofList
    (state.latestActivityBodyOverrideEventIds report table (some readerDeviceId) ++
      timelineRows.rows.flatMap ofRow)
    compare

/-! ## Opened bodies -/

/-- The body of a sealed message that this device can open, under the ID of its event. -/
def openedBody (opens : MessageView → Option String) (message : MessageView) :
    Option (String × String) :=
  if message.sealedMarkdown.isSome then
    (opens message).map fun body => (message.authorEventId.text, body)
  else
    none

/-- The overrides of all messages whose event is wanted. -/
def openedBodies
    (state : WorkspaceState) (opens : MessageView → Option String) (wanted : EventId → Bool) :
    BodyOverrides :=
  tableOf Prod.fst Prod.snd ∅
    (((listedValues state.messages).filter fun message => wanted message.authorEventId).filterMap
      (openedBody opens))

end WorkspaceState

end Chaft

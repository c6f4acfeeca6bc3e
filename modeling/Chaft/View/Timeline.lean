import Chaft.Library.SlidingWindow
import Chaft.Security.Identity
import Chaft.View.Channels

/-!
# Timelines

The rows of a timeline are the applied messages that the reader may access, the gaps in
the history and the events with an invalid signature, in this order.  A snapshot shows all
of them or one window, and marks where a new group or a new day begins.

`render_timeline_rows` panics on a selected row without an item; the model gives no
timeline then.
-/

namespace Chaft

open Keyed SlidingWindow

/-! ## Rows and windows -/

structure InvalidSignatureSnapshot where
  eventId : String
  channelId : Option String
  authorDeviceId : String
  physicalMs : Int64
  reason : String
  deriving DecidableEq

structure TimelineWindowSnapshot where
  startIndex : Nat
  itemCount : Nat
  totalCount : Nat
  hasMoreBefore : Bool
  hasMoreAfter : Bool
  deriving DecidableEq

structure WorkspaceSnapshotOptions where
  timelineStart : Option Nat
  timelineLimit : Option Nat
  timelineChannelId : Option ChannelId

inductive TimelineRowRef where
  | applied (eventId : EventId)
  | gap (gap : MissingHistoryGap)
  | invalid (invalid : InvalidSignatureSnapshot)

structure TimelineRowsWindow where
  window : TimelineWindowSnapshot
  rows : List TimelineRowRef
  rowBeforeWindow : Option TimelineRowRef

/-- An event without a public key is not checked. -/
def selfContainedSignatureFailure (primitives : Primitives) (event : SignedEvent) :
    Option String :=
  if event.authorPublicKey.isEmpty then
    none
  else
    match verifySelfContainedEvent primitives event with
    | .error raised => some raised.message
    | .ok () => none

def invalidSignatureForSnapshot (primitives : Primitives) (event : SignedEvent) :
    Option InvalidSignatureSnapshot :=
  (selfContainedSignatureFailure primitives event).map fun reason =>
    { eventId := event.eventId.text
      channelId := event.event.channelId.map Identifier.text
      authorDeviceId := event.event.authorDeviceId.text
      physicalMs := event.event.timestamp.physicalMs
      reason := reason }

def invalidSignaturesForSnapshot (primitives : Primitives) (events : List SignedEvent) :
    List InvalidSignatureSnapshot :=
  events.filterMap (invalidSignatureForSnapshot primitives)

def verifiedEventsForSnapshot (primitives : Primitives) (events : List SignedEvent) :
    List SignedEvent :=
  events.filter fun event => (selfContainedSignatureFailure primitives event).isNone

def gapMatchesTimelineChannel
    (eventsById : HashMap EventId SignedEvent) (timelineChannelId : Option ChannelId)
    (gap : MissingHistoryGap) : Bool :=
  timelineChannelId.all fun timelineChannelId =>
    (eventsById[gap.eventId]?.bind fun event => event.event.channelId).all fun channelId =>
      channelId = timelineChannelId

def invalidSignatureMatchesTimelineChannel
    (timelineChannelId : Option ChannelId) (invalid : InvalidSignatureSnapshot) : Bool :=
  timelineChannelId.all fun timelineChannelId =>
    invalid.channelId.all fun channelId => channelId = timelineChannelId.text

/-- The three counts of a window; sums of indices stay below the width of `usize`. -/
def timelineWindowForCount
    (totalCount : Nat) (options : WorkspaceSnapshotOptions) : TimelineWindowSnapshot :=
  match options.timelineLimit, options.timelineStart with
  | none, _ =>
      { startIndex := 0
        itemCount := totalCount
        totalCount := totalCount
        hasMoreBefore := false
        hasMoreAfter := false }
  | some timelineLimit, some timelineStart =>
      let startIndex := min timelineStart totalCount
      let endIndex := min (startIndex + timelineLimit) totalCount
      { startIndex := startIndex
        itemCount := endIndex - startIndex
        totalCount := totalCount
        hasMoreBefore := 0 < startIndex
        hasMoreAfter := endIndex < totalCount }
  | some timelineLimit, none =>
      if totalCount ≤ timelineLimit then
        { startIndex := 0
          itemCount := totalCount
          totalCount := totalCount
          hasMoreBefore := false
          hasMoreAfter := false }
      else
        let startIndex := totalCount - timelineLimit
        { startIndex := startIndex
          itemCount := timelineLimit
          totalCount := totalCount
          hasMoreBefore := 0 < startIndex
          hasMoreAfter := false }

namespace WorkspaceState

def appliedEventHasTimelineItem
    (state : WorkspaceState) (eventsById : HashMap EventId SignedEvent)
    (readerDeviceId : Option DeviceId) (timelineChannelId : Option ChannelId)
    (eventId : EventId) : Bool :=
  let message := do
    let event ← eventsById[eventId]?
    let messageId ← eventTimelineMessageId event.event.body
    state.messages[messageId]?
  message.any fun message =>
    (timelineChannelId.all fun channelId => message.channelId = channelId) &&
      state.shownTo readerDeviceId message.channelId

/-- The rows in the order in which they are visited. -/
def timelineRowRefs
    (state : WorkspaceState) (report : MaterializationReport)
    (eventsById : HashMap EventId SignedEvent) (readerDeviceId : Option DeviceId)
    (invalidSignatures : List InvalidSignatureSnapshot)
    (timelineChannelId : Option ChannelId) : List TimelineRowRef :=
  (report.appliedEvents.filter
      (state.appliedEventHasTimelineItem eventsById readerDeviceId timelineChannelId)).map
    .applied ++
  (report.gaps.filter (gapMatchesTimelineChannel eventsById timelineChannelId)).map .gap ++
  (invalidSignatures.filter (invalidSignatureMatchesTimelineChannel timelineChannelId)).map
    .invalid

def timelineRowsForWindow
    (state : WorkspaceState) (report : MaterializationReport)
    (eventsById : HashMap EventId SignedEvent) (readerDeviceId : Option DeviceId)
    (invalidSignatures : List InvalidSignatureSnapshot)
    (options : WorkspaceSnapshotOptions) : TimelineRowsWindow :=
  let visited :=
    state.timelineRowRefs report eventsById readerDeviceId invalidSignatures
      options.timelineChannelId
  match options.timelineLimit, options.timelineStart with
  | none, _ =>
      { window := timelineWindowForCount visited.length options
        rows := visited
        rowBeforeWindow := none }
  | some timelineLimit, some timelineStart =>
      let passing :=
        visited.foldl (Passing.visitRange timelineStart (timelineStart + timelineLimit)) .start
      let window := timelineWindowForCount passing.count options
      { window := window
        rows := passing.rows.take window.itemCount
        rowBeforeWindow := passing.before }
  | some timelineLimit, none =>
      let passing := visited.foldl (Passing.visitLatest timelineLimit) .start
      { window := timelineWindowForCount passing.count options
        rows := passing.rows
        rowBeforeWindow := passing.before }

end WorkspaceState

/-! ## Items -/

inductive TimelineItemKind where
  | message
  | encryptedMessage
  | missingHistoryGap
  | invalidSignature
  deriving DecidableEq

structure AttachmentSnapshot where
  blobHash : String
  attachmentId : String
  mediaType : String
  byteLen : UInt64
  displayName : String
  encrypted : Bool
  localBlobAvailable : Option Bool
  deriving DecidableEq

structure TimelineItem where
  kind : TimelineItemKind
  eventId : String
  messageId : Option String
  replyToMessageId : Option String
  replyPreview : Option ReplyPreviewSnapshot
  threadReplyCount : UInt32
  threadLatestReply : Option ReplyPreviewSnapshot
  threadReplyPreviews : List ReplyPreviewSnapshot
  channelId : Option String
  authorDeviceId : Option String
  authorDisplayName : Option String
  authorAvatarId : String
  physicalMs : Option Int64
  body : String
  attachmentCount : Nat
  attachments : List AttachmentSnapshot
  reactionCount : Nat
  reactions : HashMap String UInt32
  myReactions : List String
  encrypted : Bool
  deleted : Bool
  missingParentIds : List String
  groupedWithPrevious : Bool
  dayBoundary : Bool
  bodyDecrypted : Bool
  canEdit : Bool
  canDelete : Bool
  deriving DecidableEq

def threadReplyPreviewLimit : Nat := 5

def maxTimelineAttachmentSnapshotRows : Nat := 8

def maxTimelineReactionSnapshotRows : Nat := 12

/-- A row that is not a message: everything but a few fields is empty. -/
def emptyTimelineItem (kind : TimelineItemKind) (eventId body : String) : TimelineItem where
  kind := kind
  eventId := eventId
  messageId := none
  replyToMessageId := none
  replyPreview := none
  threadReplyCount := 0
  threadLatestReply := none
  threadReplyPreviews := []
  channelId := none
  authorDeviceId := none
  authorDisplayName := none
  authorAvatarId := ""
  physicalMs := none
  body := body
  attachmentCount := 0
  attachments := []
  reactionCount := 0
  reactions := ∅
  myReactions := []
  encrypted := false
  deleted := false
  missingParentIds := []
  groupedWithPrevious := false
  dayBoundary := false
  bodyDecrypted := false
  canEdit := false
  canDelete := false

def gapTimelineItem (gap : MissingHistoryGap) : TimelineItem :=
  let missingCount := gap.missingParentIds.length
  let body :=
    if gap.missingParentIds.isEmpty then
      "Chaft needs earlier access history before this can be shown."
    else
      "Chaft needs " ++ toString missingCount ++ " earlier item" ++
        (if missingCount = 1 then "" else "s") ++ " before this can be shown."
  { emptyTimelineItem .missingHistoryGap gap.eventId.text body with
    missingParentIds := gap.missingParentIds.map Identifier.text }

def invalidSignatureTimelineItem (invalid : InvalidSignatureSnapshot) : TimelineItem :=
  { emptyTimelineItem .invalidSignature invalid.eventId
      "Chaft could not verify this message. Ask an admin before trusting it." with
    channelId := invalid.channelId
    authorDeviceId := some invalid.authorDeviceId
    physicalMs := some invalid.physicalMs }

def AttachmentRef.snapshot (attachment : AttachmentRef) : AttachmentSnapshot where
  blobHash := attachment.blobHash
  attachmentId := attachment.attachmentId
  mediaType := attachment.mediaType
  byteLen := attachment.byteLen
  displayName := attachment.displayName
  encrypted := attachment.encryption.isSome
  localBlobAvailable := none

def MessageView.reactionsForDevice (message : MessageView) (deviceId : DeviceId) : List String :=
  message.reactions.keys.filter fun reaction =>
    message.reactionAuthors[reaction]?.any fun authors => decide (deviceId ∈ authors)

/-- Own reactions go first, then the frequent ones. -/
def reactionPreviewMap
    (reactions : HashMap String UInt32) (myReactions : List String) : HashMap String UInt32 :=
  if reactions.size ≤ maxTimelineReactionSnapshotRows then
    reactions
  else
    let own (entry : String × UInt32) : Bool := decide (entry.1 ∈ myReactions)
    let order (left right : String × UInt32) : Ordering :=
      (compare (own right) (own left)).then
        ((compare right.2.toNat left.2.toNat).then (compare left.1 right.1))
    let ranked := reactions.toList.insertionSort fun left right => (order left right).isLE = true
    tableOf Prod.fst Prod.snd ∅ (ranked.take maxTimelineReactionSnapshotRows)

/-! ## Threads -/

structure ThreadReplyRef where
  message : MessageView
  event : SignedEvent
  deriving DecidableEq

abbrev ThreadReplyIndex := HashMap MessageId (List ThreadReplyRef)

def HybridTimestamp.order (left right : HybridTimestamp) : Ordering :=
  (compare left.physicalMs.toInt right.physicalMs.toInt).then
    (compare left.logical.toNat right.logical.toNat)

def ThreadReplyRef.order (left right : ThreadReplyRef) : Ordering :=
  (left.event.event.timestamp.order right.event.event.timestamp).then
    (compare left.event.eventId right.event.eventId)

def sortThreadReplies (replies : List ThreadReplyRef) : List ThreadReplyRef :=
  replies.insertionSort fun left right => (left.order right).isLE = true

def timelineWindowMessageIds
    (timelineRows : List TimelineRowRef) (eventsById : HashMap EventId SignedEvent) :
    HashSet MessageId :=
  Std.ExtTreeSet.ofList
    (timelineRows.filterMap fun row =>
      match row with
      | .applied eventId =>
          eventsById[eventId]?.bind fun event => eventTimelineMessageId event.event.body
      | .gap _ | .invalid _ => none)
    compare

def lastReplies (replies : List ThreadReplyRef) : List ThreadReplyRef :=
  replies.drop (replies.length - threadReplyPreviewLimit)

namespace WorkspaceState

/-- The message replies to one of the given parents, and its event is known. -/
def threadReplyRef
    (eventsById : HashMap EventId SignedEvent) (parentMessageIds : HashSet MessageId)
    (message : MessageView) : Option (MessageId × ThreadReplyRef) := do
  let parentMessageId ← message.replyToMessageId
  if parentMessageId ∈ parentMessageIds then
    let event ← eventsById[message.authorEventId]?
    some (parentMessageId, { message := message, event := event })
  else
    none

def pushThreadReply
    (index : ThreadReplyIndex) (reply : MessageId × ThreadReplyRef) : ThreadReplyIndex :=
  index.insert reply.1 (index.getD reply.1 [] ++ [reply.2])

def threadReplyIndex
    (state : WorkspaceState) (eventsById : HashMap EventId SignedEvent)
    (parentMessageIds : HashSet MessageId) : ThreadReplyIndex :=
  (((listedValues state.messages).filterMap (threadReplyRef eventsById parentMessageIds)).foldl
    pushThreadReply ∅).map fun _ replies => sortThreadReplies replies

def threadSummaryForMessage
    (state : WorkspaceState) (threadReplies : ThreadReplyIndex) (message : MessageView)
    (bodyOverrides : BodyOverrides) :
    UInt32 × Option ReplyPreviewSnapshot × List ReplyPreviewSnapshot :=
  match threadReplies[message.messageId]? with
  | none => (0, none, [])
  | some replies =>
      let replyCount := UInt32.ofNat (min replies.length (UInt32.size - 1))
      let threadReplyPreviews :=
        (lastReplies replies).map fun reply =>
          state.replyPreviewSnapshot reply.message reply.event bodyOverrides
      (replyCount, threadReplyPreviews.getLast?, threadReplyPreviews)

def timelineItemForAppliedEvent
    (state : WorkspaceState) (eventsById : HashMap EventId SignedEvent)
    (threadReplies : ThreadReplyIndex) (readerDeviceId : Option DeviceId)
    (bodyOverrides : BodyOverrides) (eventId : EventId) : Option TimelineItem := do
  let event ← eventsById[eventId]?
  let messageId ← eventTimelineMessageId event.event.body
  let message ← state.messages[messageId]?
  if state.shownTo readerDeviceId message.channelId then
    let author := event.event.authorDeviceId
    let override := bodyOverrides[event.eventId.text]?
    let encrypted := message.sealedMarkdown.isSome
    let byReader := readerDeviceId.any fun deviceId => deviceId = author
    let summary := state.threadSummaryForMessage threadReplies message bodyOverrides
    let myReactions := readerDeviceId.elim [] message.reactionsForDevice
    some
      { kind := if encrypted then .encryptedMessage else .message
        eventId := event.eventId.text
        messageId := some message.messageId.text
        replyToMessageId := message.replyToMessageId.map Identifier.text
        replyPreview := state.replyPreviewForMessage eventsById message bodyOverrides
        threadReplyCount := summary.1
        threadLatestReply := summary.2.1
        threadReplyPreviews := summary.2.2
        channelId := some message.channelId.text
        authorDeviceId := some author.text
        authorDisplayName := state.authorDisplayName author
        authorAvatarId := state.profileAvatarId author
        physicalMs := some event.event.timestamp.physicalMs
        body :=
          if message.deleted then
            "Message deleted"
          else
            override.getD (if encrypted then "Encrypted message" else message.markdown)
        attachmentCount := message.attachments.length
        attachments :=
          (message.attachments.take maxTimelineAttachmentSnapshotRows).map AttachmentRef.snapshot
        reactionCount := message.reactions.size
        reactions := reactionPreviewMap message.reactions myReactions
        myReactions := myReactions
        encrypted := encrypted
        deleted := message.deleted
        missingParentIds := []
        groupedWithPrevious := false
        dayBoundary := false
        bodyDecrypted := !message.deleted && override.isSome
        canEdit := !message.deleted && byReader
        canDelete := !message.deleted && byReader }
  else
    none

end WorkspaceState

/-! ## Groups and days -/

def maxGroupedTimelineRowGapMs : Int := 300000

def msPerUtcDay : Int := 86400000

def timelineRowGroupKey (item : TimelineItem) : Option (String × Int) :=
  if (item.kind = .message ∨ item.kind = .encryptedMessage) ∧ item.deleted = false then
    item.authorDeviceId.bind fun author =>
      item.physicalMs.map fun physicalMs => (author, physicalMs.toInt)
  else
    none

/-- `div_euclid` by a positive divisor. -/
def timelineRowUtcDay (item : TimelineItem) : Option Int :=
  item.physicalMs.map fun physicalMs => physicalMs.toInt / msPerUtcDay

/-- What the annotation carries from row to row. -/
structure GroupingContext where
  previousGroupKey : Option (String × Int)
  previousUtcDay : Option Int
  firstVisibleRow : Bool

def startGrouping (rowBeforeWindow : Option TimelineItem) : GroupingContext where
  previousGroupKey := rowBeforeWindow.bind timelineRowGroupKey
  previousUtcDay := rowBeforeWindow.bind timelineRowUtcDay
  firstVisibleRow := rowBeforeWindow.isNone

/-- A difference between 0 and the limit cannot overflow. -/
def continuesGroup : Option (String × Int) → Option (String × Int) → Bool
  | some (previousAuthor, previousPhysicalMs), some (author, physicalMs) =>
      decide (author = previousAuthor ∧
        0 ≤ physicalMs - previousPhysicalMs ∧
          physicalMs - previousPhysicalMs ≤ maxGroupedTimelineRowGapMs ∧
            physicalMs / msPerUtcDay = previousPhysicalMs / msPerUtcDay)
  | _, _ => false

def annotateItem (context : GroupingContext) (item : TimelineItem) : TimelineItem :=
  let utcDay := timelineRowUtcDay item
  { item with
    groupedWithPrevious := continuesGroup context.previousGroupKey (timelineRowGroupKey item)
    dayBoundary :=
      context.firstVisibleRow || (utcDay.isSome && decide (utcDay ≠ context.previousUtcDay)) }

/-- Rows without a timestamp carry the previous known day forward. -/
def GroupingContext.next (context : GroupingContext) (item : TimelineItem) : GroupingContext where
  previousGroupKey := timelineRowGroupKey item
  previousUtcDay := (timelineRowUtcDay item).or context.previousUtcDay
  firstVisibleRow := false

def annotateFrom : GroupingContext → List TimelineItem → List TimelineItem
  | _, [] => []
  | context, item :: rest => annotateItem context item :: annotateFrom (context.next item) rest

def annotateTimelineRowGrouping
    (timeline : List TimelineItem) (rowBeforeWindow : Option TimelineItem) :
    List TimelineItem :=
  annotateFrom (startGrouping rowBeforeWindow) timeline

/-! ## Snapshots -/

/-- A snapshot of a workspace.  Its lists of profiles, members, invites, join requests, key
packages, endpoints, gaps and invalid signatures are left out: they come from the state
and the report alone. -/
structure WorkspaceSnapshot where
  workspaceId : String
  name : String
  accessPolicy : WorkspaceAccessPolicy
  channels : List ChannelSnapshot
  channelCount : Nat
  timelineChannelId : Option String
  timelineWindow : TimelineWindowSnapshot
  timeline : List TimelineItem
  gapCount : Nat
  invalidSignatureCount : Nat

namespace WorkspaceState

def renderRow
    (state : WorkspaceState) (eventsById : HashMap EventId SignedEvent)
    (threadReplies : ThreadReplyIndex) (readerDeviceId : Option DeviceId)
    (bodyOverrides : BodyOverrides) : TimelineRowRef → Option TimelineItem
  | .applied eventId =>
      state.timelineItemForAppliedEvent eventsById threadReplies readerDeviceId bodyOverrides
        eventId
  | .gap gap => some (gapTimelineItem gap)
  | .invalid invalid => some (invalidSignatureTimelineItem invalid)

/-- Also the row before the window is rendered, before the others. -/
def renderTimelineRows
    (state : WorkspaceState) (timelineRows : List TimelineRowRef)
    (rowBeforeWindow : Option TimelineRowRef) (eventsById : HashMap EventId SignedEvent)
    (threadReplies : ThreadReplyIndex) (readerDeviceId : Option DeviceId)
    (bodyOverrides : BodyOverrides) : Option (List TimelineItem) := do
  let render := state.renderRow eventsById threadReplies readerDeviceId bodyOverrides
  let before ← rowBeforeWindow.mapM render
  let timeline ← timelineRows.mapM render
  some (annotateTimelineRowGrouping timeline before)

/-- `from_state_report_reader_body_overrides_and_options`. -/
def workspaceSnapshot
    (state : WorkspaceState) (workspaceId : WorkspaceId) (report : MaterializationReport)
    (events : List SignedEvent) (readerDeviceId : Option DeviceId)
    (bodyOverrides : BodyOverrides) (window : WorkspaceSnapshotOptions)
    (invalidSignatures : List InvalidSignatureSnapshot) : Option WorkspaceSnapshot := do
  let eventsById := eventsById events
  let channels :=
    state.channelSnapshotsFromStateReport report eventsById readerDeviceId bodyOverrides
  let timelineRows :=
    state.timelineRowsForWindow report eventsById readerDeviceId invalidSignatures window
  let threadReplies :=
    state.threadReplyIndex eventsById (timelineWindowMessageIds timelineRows.rows eventsById)
  let timeline ←
    state.renderTimelineRows timelineRows.rows timelineRows.rowBeforeWindow eventsById
      threadReplies readerDeviceId bodyOverrides
  some
    { workspaceId := workspaceId.text
      name := state.name.getD "Chaft"
      accessPolicy := state.accessPolicy
      channels := channels.take maxChannelSnapshotRows
      channelCount := channels.length
      timelineChannelId := window.timelineChannelId.map Identifier.text
      timelineWindow := timelineRows.window
      timeline := timeline
      gapCount := report.gaps.length
      invalidSignatureCount := invalidSignatures.length }

end WorkspaceState

end Chaft

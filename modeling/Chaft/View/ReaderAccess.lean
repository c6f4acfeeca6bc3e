import Chaft.Core.StoredReferences
import Chaft.View.TimelineRows

/-!
# What a reader is shown

Rows, channel rows and latest activities check that the reader may access their message.
Reply previews, thread previews and thread counts follow message IDs into other messages
without a check: they rely on a reply and its parent being accessible alike.
-/

namespace Chaft

open Keyed StableReplay

/-! ## Annotations -/

theorem exists_of_mem_annotateFrom
    {context : GroupingContext} {items : List TimelineItem} {shown : TimelineItem}
    (member : shown ∈ annotateFrom context items) :
    ∃ carried, ∃ item ∈ items, shown = annotateItem carried item := by
  induction items generalizing context with
  | nil => cases member
  | cons item rest inductionHypothesis =>
      rcases List.mem_cons.mp member with isFirst | later
      · exact ⟨context, item, List.mem_cons_self, isFirst⟩
      · obtain ⟨carried, other, otherMember, isOther⟩ := inductionHypothesis later
        exact ⟨carried, other, List.mem_cons_of_mem item otherMember, isOther⟩

theorem exists_mem_annotateFrom
    (context : GroupingContext) {items : List TimelineItem} {item : TimelineItem}
    (member : item ∈ items) :
    ∃ carried, annotateItem carried item ∈ annotateFrom context items := by
  induction items generalizing context with
  | nil => cases member
  | cons first rest inductionHypothesis =>
      rcases List.mem_cons.mp member with rfl | later
      · exact ⟨context, List.mem_cons_self⟩
      · obtain ⟨carried, shown⟩ := inductionHypothesis (context.next first) later
        exact ⟨carried, List.mem_cons_of_mem _ shown⟩

namespace WorkspaceState

section Access

variable (state : WorkspaceState) (readerDeviceId : DeviceId)

/-- The reader may access the channel of the message with this ID. -/
def AccessibleMessage (messageId : String) : Prop :=
  ∃ message, state.messages[(⟨messageId⟩ : MessageId)]? = some message ∧
    state.channelAccessibleTo message.channelId readerDeviceId = true

/-- Everything that a snapshot tells about messages is about accessible ones. -/
structure ShowsOnlyAccessible
    (table : HashMap EventId SignedEvent) (snapshot : WorkspaceSnapshot) : Prop where
  rows :
    ∀ item ∈ snapshot.timeline, ∀ messageId, item.messageId = some messageId →
      state.AccessibleMessage readerDeviceId messageId
  replyPreviews :
    ∀ item ∈ snapshot.timeline, ∀ preview, item.replyPreview = some preview →
      state.AccessibleMessage readerDeviceId preview.messageId
  threadLatestReplies :
    ∀ item ∈ snapshot.timeline, ∀ preview, item.threadLatestReply = some preview →
      state.AccessibleMessage readerDeviceId preview.messageId
  threadReplyPreviews :
    ∀ item ∈ snapshot.timeline, ∀ preview ∈ item.threadReplyPreviews,
      state.AccessibleMessage readerDeviceId preview.messageId
  threadReplyCounts :
    ∀ item ∈ snapshot.timeline, ∀ messageId, item.messageId = some messageId →
      let counted := state.replyRefs table ⟨messageId⟩
      item.threadReplyCount = UInt32.ofNat (min counted.length (UInt32.size - 1)) ∧
        ∀ reply ∈ counted,
          state.channelAccessibleTo reply.message.channelId readerDeviceId = true
  channels :
    ∀ row ∈ snapshot.channels, state.channelAccessibleTo ⟨row.channelId⟩ readerDeviceId = true
  latestActivities :
    ∀ row ∈ snapshot.channels, ∀ activity, row.latestActivity = some activity →
      ∀ messageId, activity.messageId = some messageId →
        state.AccessibleMessage readerDeviceId messageId

/-- An applied event creates the message, so that it has a row. -/
def HasRow
    (report : MaterializationReport) (table : HashMap EventId SignedEvent)
    (messageId : MessageId) : Prop :=
  ∃ eventId ∈ report.appliedEvents, ∃ event, table[eventId]? = some event ∧
    eventTimelineMessageId event.event.body = some messageId

/-- A reply with a row is accessible only with its parent, and a parent with a row only
with its replies. -/
def RepliesShareAccess
    (report : MaterializationReport) (table : HashMap EventId SignedEvent) : Prop :=
  ∀ (replyId parentId : MessageId) (reply parent : MessageView),
    state.messages[replyId]? = some reply → state.messages[parentId]? = some parent →
      reply.replyToMessageId = some parentId →
        (HasRow report table replyId →
          state.channelAccessibleTo reply.channelId readerDeviceId = true →
            state.channelAccessibleTo parent.channelId readerDeviceId = true) ∧
        (HasRow report table parentId →
          state.channelAccessibleTo parent.channelId readerDeviceId = true →
            state.channelAccessibleTo reply.channelId readerDeviceId = true)

end Access

/-! ## What one row tells -/

section Rows

variable {state : WorkspaceState} {readerDeviceId : DeviceId}
  {table : HashMap EventId SignedEvent}

/-- The parts of an item that tell about messages, and where they come from. -/
structure RowTells
    (state : WorkspaceState) (readerDeviceId : DeviceId) (table : HashMap EventId SignedEvent)
    (threadReplies : ThreadReplyIndex) (bodyOverrides : BodyOverrides) (eventId : EventId)
    (item : TimelineItem) (event : SignedEvent) (message : MessageView) (ownId : MessageId) :
    Prop where
  found : table[eventId]? = some event
  creates : eventTimelineMessageId event.event.body = some ownId
  stored : state.messages[ownId]? = some message
  accessible : state.channelAccessibleTo message.channelId readerDeviceId = true
  messageId : item.messageId = some message.messageId.text
  replyPreview : item.replyPreview = state.replyPreviewForMessage table message bodyOverrides
  summary :
    (item.threadReplyCount, item.threadLatestReply, item.threadReplyPreviews) =
      state.threadSummaryForMessage threadReplies message bodyOverrides

theorem timelineItem_tells
    {threadReplies : ThreadReplyIndex} {bodyOverrides : BodyOverrides} {eventId : EventId}
    {item : TimelineItem}
    (hasItem :
      state.timelineItemForAppliedEvent table threadReplies (some readerDeviceId) bodyOverrides
        eventId = some item) :
    ∃ event message ownId,
      RowTells state readerDeviceId table threadReplies bodyOverrides eventId item event message
        ownId := by
  unfold timelineItemForAppliedEvent at hasItem
  simp only [Option.bind_eq_bind, Option.bind_eq_some_iff] at hasItem
  obtain ⟨event, found, ownId, creates, message, stored, rendered⟩ := hasItem
  split at rendered
  · rename_i shown
    rw [shownTo, Option.all_some] at shown
    cases rendered
    exact ⟨event, message, ownId, found, creates, stored, shown, rfl, rfl, rfl⟩
  · cases rendered

/-- An item tells of no message, or comes from an applied row. -/
theorem shownItem_cases
    {report : MaterializationReport} {invalidSignatures : List InvalidSignatureSnapshot}
    {timelineChannelId : Option ChannelId} {rows : List TimelineRowRef}
    (visited :
      ∀ row ∈ rows, row ∈ state.timelineRowRefs report table (some readerDeviceId)
        invalidSignatures timelineChannelId)
    {before : Option TimelineItem} {threadReplies : ThreadReplyIndex}
    {bodyOverrides : BodyOverrides} {item : TimelineItem}
    (member :
      item ∈ annotateTimelineRowGrouping
        (rows.map (state.rowItem table threadReplies (some readerDeviceId) bodyOverrides))
        before) :
    (item.messageId = none ∧ item.replyPreview = none ∧ item.threadLatestReply = none ∧
        item.threadReplyPreviews = []) ∨
      ∃ eventId event message ownId, .applied eventId ∈ rows ∧
        RowTells state readerDeviceId table threadReplies bodyOverrides eventId item event
          message ownId := by
  obtain ⟨carried, original, listed, rfl⟩ := exists_of_mem_annotateFrom member
  obtain ⟨row, isRow, rfl⟩ := List.mem_map.mp listed
  have renders := renderRow_of_visited (visited row isRow) threadReplies bodyOverrides
  cases row with
  | gap gap => exact Or.inl ⟨rfl, rfl, rfl, rfl⟩
  | invalid invalid => exact Or.inl ⟨rfl, rfl, rfl, rfl⟩
  | applied eventId =>
      obtain ⟨event, message, ownId, tells⟩ := timelineItem_tells renders
      exact Or.inr ⟨eventId, event, message, ownId, isRow,
        { tells with
          messageId := tells.messageId
          replyPreview := tells.replyPreview
          summary := tells.summary }⟩

theorem replyPreview_tells
    {message : MessageView} {bodyOverrides : BodyOverrides} {preview : ReplyPreviewSnapshot}
    (shown : state.replyPreviewForMessage table message bodyOverrides = some preview) :
    ∃ parentId parent, message.replyToMessageId = some parentId ∧
      state.messages[parentId]? = some parent ∧ preview.messageId = parent.messageId.text := by
  unfold replyPreviewForMessage at shown
  simp only [Option.bind_eq_bind, Option.bind_eq_some_iff, Option.some.injEq] at shown
  obtain ⟨parentId, repliesTo, parent, stored, event, -, rfl⟩ := shown
  exact ⟨parentId, parent, repliesTo, stored, rfl⟩

/-! ## What the channel rows tell -/

variable (state readerDeviceId) in
/-- An activity is about an accessible message. -/
def ActivityAccessible (activity : ChannelActivitySnapshot) : Prop :=
  ∀ messageId, activity.messageId = some messageId →
    state.AccessibleMessage readerDeviceId messageId

theorem projectApplied_accessible
    {history : List SignedEvent} (created : MessagesCreated history state)
    (report : MaterializationReport) (bodyOverrides : BodyOverrides)
    {projection : ChannelProjection}
    (accessible :
      ∀ (channelId : ChannelId) (activity : ChannelActivitySnapshot),
        projection.latestActivity[channelId]? = some activity →
          state.ActivityAccessible readerDeviceId activity)
    (indexed : EventId × Nat) (channelId : ChannelId) (activity : ChannelActivitySnapshot)
    (latest :
      (state.projectApplied report table (some readerDeviceId) bodyOverrides projection
        indexed).latestActivity[channelId]? = some activity) :
    state.ActivityAccessible readerDeviceId activity := by
  unfold projectApplied at latest
  cases found : table[indexed.1]? with
  | none =>
      rw [found] at latest
      exact accessible channelId activity latest
  | some event =>
      rw [found] at latest
      unfold projectEvent at latest
      dsimp only at latest
      cases noted : state.channelActivityForEvent event (some readerDeviceId) bodyOverrides with
      | none =>
          rw [noted] at latest
          exact accessible channelId activity latest
      | some both =>
          obtain ⟨notedChannelId, notedActivity⟩ := both
          rw [noted] at latest
          simp only [Std.ExtTreeMap.getElem?_insert, Std.LawfulEqCmp.compare_eq_iff_eq] at latest
          by_cases same : notedChannelId = channelId
          · rw [if_pos same, Option.some.injEq] at latest
            subst latest
            unfold channelActivityForEvent at noted
            simp only [Option.bind_eq_bind, Option.bind_eq_some_iff] at noted
            obtain ⟨messageId, -, message, stored, isNoted⟩ := noted
            split at isNoted
            · rename_i shown
              rw [shownTo, Option.all_some] at shown
              cases isNoted
              intro named isNamed
              obtain ⟨_, origin⟩ := created messageId message stored
              have sameText : message.messageId.text = named := Option.some.inj isNamed
              refine ⟨message, ?_, shown⟩
              rw [← sameText, origin.sameId]
              exact stored
            · cases isNoted
          · rw [if_neg same] at latest
            exact accessible channelId activity latest

theorem channelRows_accessible
    {history : List SignedEvent} (created : MessagesCreated history state)
    {report : MaterializationReport} {bodyOverrides : BodyOverrides} {row : ChannelSnapshot}
    (shown :
      row ∈ state.channelSnapshotsFromStateReport report table (some readerDeviceId)
        bodyOverrides) :
    state.channelAccessibleTo ⟨row.channelId⟩ readerDeviceId = true ∧
      ∀ activity, row.latestActivity = some activity →
        state.ActivityAccessible readerDeviceId activity := by
  have accessible :
      ∀ (indexed : List (EventId × Nat)) (projection : ChannelProjection),
        (∀ (channelId : ChannelId) (activity : ChannelActivitySnapshot),
          projection.latestActivity[channelId]? = some activity →
            state.ActivityAccessible readerDeviceId activity) →
          ∀ (channelId : ChannelId) (activity : ChannelActivitySnapshot),
            (indexed.foldl
                (state.projectApplied report table (some readerDeviceId) bodyOverrides)
                projection).latestActivity[channelId]? = some activity →
              state.ActivityAccessible readerDeviceId activity := by
    intro indexed
    induction indexed with
    | nil => exact fun _ known => known
    | cons pair rest inductionHypothesis =>
        intro projection known
        exact inductionHypothesis _
          (projectApplied_accessible created report bodyOverrides known pair)
  unfold channelSnapshotsFromStateReport sortChannelSnapshots at shown
  rw [List.mem_insertionSort, List.mem_map] at shown
  obtain ⟨channel, listed, rfl⟩ := shown
  obtain ⟨-, isShown⟩ := List.mem_filter.mp listed
  rw [shownTo, Option.all_some] at isShown
  refine ⟨isShown, ?_⟩
  intro activity latest
  refine accessible _ { latestActivity := ∅, unreadCounts := ∅ } ?_ channel.channelId activity latest
  intro channelId none isSome
  simp at isSome

end Rows

/-! ## Whole snapshots -/

section Snapshots

variable {workspaceId : WorkspaceId} {events shown : List SignedEvent}
  {report : MaterializationReport} {state : WorkspaceState} {readerDeviceId : DeviceId}

theorem messagesCreated_of_applyBatch
    (accepted : (new workspaceId).applyBatch events = (.ok report, state)) :
    ∃ history ⊆ events, MessagesCreated history state := by
  obtain ⟨applied, drawn, listed, replayed⟩ := applied_of_applyBatch accepted
  have reached := Reachable.applyBatch .new accepted drawn listed replayed
  exact ⟨applied, drawn, by simpa using reached.messagesCreated⟩

/-- The table knows the event behind every message. -/
theorem exists_authorEvent
    (accepted : (new workspaceId).applyBatch events = (.ok report, state))
    (known : events ⊆ shown) {messageId : MessageId} {message : MessageView}
    (stored : state.messages[messageId]? = some message) :
    message.messageId = messageId ∧
      ∃ event, (eventsById shown)[message.authorEventId]? = some event := by
  obtain ⟨history, drawn, created⟩ := messagesCreated_of_applyBatch accepted
  obtain ⟨event, origin⟩ := created messageId message stored
  refine ⟨origin.sameId, (mem_iff_exists_getElem? _ _).mp ?_⟩
  rw [eventsById, mem_tableOf]
  exact Or.inr ⟨event, known (drawn origin.member), origin.eventId⟩

/-- With all rows shown, an accessible message has a row. -/
theorem exists_shownItem
    {eventId : EventId} {event : SignedEvent} {ownId : MessageId} {message : MessageView}
    (isApplied : eventId ∈ report.appliedEvents)
    (found : (eventsById shown)[eventId]? = some event)
    (creates : eventTimelineMessageId event.event.body = some ownId)
    (stored : state.messages[ownId]? = some message)
    (accessible : state.channelAccessibleTo message.channelId readerDeviceId = true)
    {snapshot : WorkspaceSnapshot}
    (built :
      state.workspaceSnapshot workspaceId report shown (some readerDeviceId) ∅ ⟨none, none, none⟩
        [] = some snapshot) :
    ∃ item ∈ snapshot.timeline, item.messageId = some message.messageId.text ∧
      item.replyPreview = state.replyPreviewForMessage (eventsById shown) message ∅ := by
  rw [workspaceSnapshot_eq_some, Option.some.injEq] at built
  subst built
  have selected :
      state.appliedEventHasTimelineItem (eventsById shown) (some readerDeviceId) none eventId =
        true := by
    rw [appliedEventHasTimelineItem_eq_true_iff]
    refine ⟨event, message, ?_, by simp, ?_⟩
    · rw [rowMessage, found, Option.bind_eq_bind, Option.bind_some, creates]
      simp [stored]
    · rw [shownTo, Option.all_some]
      exact accessible
  have visited :
      .applied eventId ∈
        state.timelineRowRefs report (eventsById shown) (some readerDeviceId) [] none := by
    unfold timelineRowRefs
    refine List.mem_append_left _ (List.mem_append_left _ (List.mem_map_of_mem ?_))
    exact List.mem_filter.mpr ⟨isApplied, selected⟩
  have tellsOf :
      ∀ threadReplies,
        let item :=
          state.rowItem (eventsById shown) threadReplies (some readerDeviceId) ∅ (.applied eventId)
        item.messageId = some message.messageId.text ∧
          item.replyPreview = state.replyPreviewForMessage (eventsById shown) message ∅ := by
    intro threadReplies
    obtain ⟨otherEvent, otherMessage, otherId, tells⟩ :=
      timelineItem_tells (renderRow_of_visited visited threadReplies ∅)
    have otherCreates := tells.creates
    have otherStored := tells.stored
    have sameEvent : otherEvent = event := Option.some.inj (tells.found.symm.trans found)
    rw [sameEvent, creates, Option.some.injEq] at otherCreates
    rw [← otherCreates, stored, Option.some.injEq] at otherStored
    rw [otherStored]
    exact ⟨tells.messageId, tells.replyPreview⟩
  obtain ⟨carried, listed⟩ := exists_mem_annotateFrom _ (List.mem_map_of_mem visited)
  exact ⟨_, listed, tellsOf _⟩

section Rows

variable {invalidSignatures : List InvalidSignatureSnapshot}
  {timelineChannelId : Option ChannelId} {rows : List TimelineRowRef}
  {bodyOverrides : BodyOverrides} {eventId : EventId} {item : TimelineItem}
  {event : SignedEvent} {message : MessageView} {ownId : MessageId}

/-- The replies in the thread of an accessible row are accessible. -/
theorem replies_accessible
    (accepted : (new workspaceId).applyBatch events = (.ok report, state))
    (known : events ⊆ shown)
    (shareAccess : state.RepliesShareAccess readerDeviceId report (eventsById shown))
    (stored : state.messages[ownId]? = some message)
    (hasRow : HasRow report (eventsById shown) ownId)
    (accessible : state.channelAccessibleTo message.channelId readerDeviceId = true)
    {reply : ThreadReplyRef} (listed : reply ∈ state.replyRefs (eventsById shown) ownId) :
    state.channelAccessibleTo reply.message.channelId readerDeviceId = true ∧
      state.AccessibleMessage readerDeviceId reply.message.messageId.text := by
  obtain ⟨repliesTo, -, replyId, replyStored⟩ := (mem_replyRefs_iff _ _).mp listed
  have replyAccessible :=
    (shareAccess replyId ownId reply.message message replyStored stored repliesTo).2 hasRow
      accessible
  refine ⟨replyAccessible, reply.message, ?_, replyAccessible⟩
  rw [(exists_authorEvent accepted known replyStored).1]
  exact replyStored

/-- A row of a window shows its message and all replies to it. -/
theorem thread_of_row
    (accepted : (new workspaceId).applyBatch events = (.ok report, state))
    (known : events ⊆ shown)
    (visited :
      ∀ row ∈ rows, row ∈ state.timelineRowRefs report (eventsById shown) (some readerDeviceId)
        invalidSignatures timelineChannelId)
    (isRow : .applied eventId ∈ rows)
    (tells :
      RowTells state readerDeviceId (eventsById shown)
        (state.threadReplyIndex (eventsById shown)
          (timelineWindowMessageIds rows (eventsById shown)))
        bodyOverrides eventId item event message ownId) :
    message.messageId = ownId ∧ HasRow report (eventsById shown) ownId ∧
      item.threadReplyCount =
        UInt32.ofNat
          (min (state.replyRefs (eventsById shown) ownId).length (UInt32.size - 1)) ∧
      item.threadLatestReply = item.threadReplyPreviews.getLast? ∧
        ∀ preview ∈ item.threadReplyPreviews,
          ∃ reply ∈ state.replyRefs (eventsById shown) ownId,
            preview.messageId = reply.message.messageId.text := by
  have same := (exists_authorEvent accepted known tells.stored).1
  obtain ⟨isApplied, -⟩ := mem_timelineRowRefs (visited _ isRow)
  have inWindow : ownId ∈ timelineWindowMessageIds rows (eventsById shown) := by
    rw [timelineWindowMessageIds, mem_ofList_iff, List.mem_filterMap]
    refine ⟨_, isRow, ?_⟩
    dsimp only
    rw [tells.found, Option.bind_some]
    exact tells.creates
  have summary := tells.summary
  rw [threadSummaryForMessage_eq, threadReplyIndex_getD, same, if_pos inWindow, Prod.mk.injEq,
    Prod.mk.injEq] at summary
  obtain ⟨count, latest, previews⟩ := summary
  refine ⟨same, ⟨eventId, isApplied, event, tells.found, tells.creates⟩, ?_, ?_, ?_⟩
  · rw [count, sortThreadReplies, List.length_insertionSort]
  · rw [latest, previews]
  · intro preview listed
    rw [previews] at listed
    obtain ⟨reply, isLast, rfl⟩ := List.mem_map.mp listed
    have isReply := List.mem_of_mem_drop isLast
    rw [sortThreadReplies, List.mem_insertionSort] at isReply
    exact ⟨reply, isReply, rfl⟩

end Rows

/-- A snapshot shows only accessible messages where every reply is as accessible as its
parent. -/
theorem onlyAccessible_of_shareAccess
    (accepted : (new workspaceId).applyBatch events = (.ok report, state))
    (known : events ⊆ shown)
    (shareAccess : state.RepliesShareAccess readerDeviceId report (eventsById shown))
    {bodyOverrides : BodyOverrides} {options : WorkspaceSnapshotOptions}
    {invalidSignatures : List InvalidSignatureSnapshot} {snapshot : WorkspaceSnapshot}
    (built :
      state.workspaceSnapshot workspaceId report shown (some readerDeviceId) bodyOverrides
        options invalidSignatures = some snapshot) :
    state.ShowsOnlyAccessible readerDeviceId (eventsById shown) snapshot := by
  rw [workspaceSnapshot_eq_some, Option.some.injEq] at built
  subst built
  obtain ⟨visited, -⟩ :=
    visited_of_window
      (state.timelineRowsForWindow report (eventsById shown) (some readerDeviceId)
        invalidSignatures options) rfl
  obtain ⟨history, -, created⟩ := messagesCreated_of_applyBatch accepted
  constructor
  · intro item listed messageId named
    rcases shownItem_cases visited listed with
      ⟨unnamed, -⟩ | ⟨eventId, event, message, ownId, isRow, tells⟩
    · rw [unnamed] at named
      cases named
    · obtain ⟨same, -⟩ := thread_of_row accepted known visited isRow tells
      rw [tells.messageId, same, Option.some.injEq] at named
      exact ⟨message, named ▸ tells.stored, tells.accessible⟩
  · intro item listed preview previewed
    rcases shownItem_cases visited listed with
      ⟨-, noPreview, -⟩ | ⟨eventId, event, message, ownId, isRow, tells⟩
    · rw [noPreview] at previewed
      cases previewed
    · obtain ⟨-, hasRow, -⟩ := thread_of_row accepted known visited isRow tells
      rw [tells.replyPreview] at previewed
      obtain ⟨parentId, parent, repliesTo, parentStored, named⟩ := replyPreview_tells previewed
      have parentAccessible :=
        (shareAccess ownId parentId message parent tells.stored parentStored repliesTo).1 hasRow
          tells.accessible
      have parentSame := (exists_authorEvent accepted known parentStored).1
      refine ⟨parent, ?_, parentAccessible⟩
      rw [named, parentSame]
      exact parentStored
  · intro item listed preview latest
    rcases shownItem_cases visited listed with
      ⟨-, -, noLatest, -⟩ | ⟨eventId, event, message, ownId, isRow, tells⟩
    · rw [noLatest] at latest
      cases latest
    · obtain ⟨-, hasRow, -, isLast, previews⟩ := thread_of_row accepted known visited isRow tells
      rw [isLast] at latest
      obtain ⟨reply, isReply, named⟩ := previews preview (List.mem_of_getLast? latest)
      rw [named]
      exact (replies_accessible accepted known shareAccess tells.stored hasRow tells.accessible
        isReply).2
  · intro item listed preview previewed
    rcases shownItem_cases visited listed with
      ⟨-, -, -, noPreviews⟩ | ⟨eventId, event, message, ownId, isRow, tells⟩
    · rw [noPreviews] at previewed
      cases previewed
    · obtain ⟨-, hasRow, -, -, previews⟩ := thread_of_row accepted known visited isRow tells
      obtain ⟨reply, isReply, named⟩ := previews preview previewed
      rw [named]
      exact (replies_accessible accepted known shareAccess tells.stored hasRow tells.accessible
        isReply).2
  · intro item listed messageId named
    rcases shownItem_cases visited listed with
      ⟨unnamed, -⟩ | ⟨eventId, event, message, ownId, isRow, tells⟩
    · rw [unnamed] at named
      cases named
    · obtain ⟨same, hasRow, count, -⟩ := thread_of_row accepted known visited isRow tells
      rw [tells.messageId, same, Option.some.injEq] at named
      subst named
      refine ⟨count, fun reply isReply => ?_⟩
      exact (replies_accessible accepted known shareAccess tells.stored hasRow tells.accessible
        isReply).1
  · intro row listed
    exact (channelRows_accessible created (List.mem_of_mem_take listed)).1
  · intro row listed activity latest
    exact (channelRows_accessible created (List.mem_of_mem_take listed)).2 activity latest

/-- A full snapshot of only accessible messages leaves no other way. -/
theorem shareAccess_of_onlyAccessible
    (accepted : (new workspaceId).applyBatch events = (.ok report, state))
    (known : events ⊆ shown) {snapshot : WorkspaceSnapshot}
    (built :
      state.workspaceSnapshot workspaceId report shown (some readerDeviceId) ∅ ⟨none, none, none⟩
        [] = some snapshot)
    (onlyAccessible : state.ShowsOnlyAccessible readerDeviceId (eventsById shown) snapshot) :
    state.RepliesShareAccess readerDeviceId report (eventsById shown) := by
  intro replyId parentId reply parent replyStored parentStored repliesTo
  obtain ⟨parentSame, parentEvent, parentFound⟩ := exists_authorEvent accepted known parentStored
  constructor
  · rintro ⟨eventId, isApplied, event, found, creates⟩ replyAccessible
    obtain ⟨item, listed, -, preview⟩ :=
      exists_shownItem isApplied found creates replyStored replyAccessible built
    unfold replyPreviewForMessage at preview
    simp only [repliesTo, parentStored, parentFound, Option.bind_eq_bind,
      Option.bind_some] at preview
    obtain ⟨message, stored, accessible⟩ := onlyAccessible.replyPreviews item listed _ preview
    rw [replyPreviewSnapshot, parentSame, parentStored, Option.some.injEq] at stored
    exact stored ▸ accessible
  · rintro ⟨eventId, isApplied, event, found, creates⟩ parentAccessible
    obtain ⟨item, listed, named, -⟩ :=
      exists_shownItem isApplied found creates parentStored parentAccessible built
    obtain ⟨-, replyEvent, replyFound⟩ := exists_authorEvent accepted known replyStored
    have counted :=
      (onlyAccessible.threadReplyCounts item listed parent.messageId.text named).2
    refine counted { message := reply, event := replyEvent } ?_
    rw [mem_replyRefs_iff, parentSame]
    exact ⟨repliesTo, replyFound, replyId, replyStored⟩

/-- The snapshot of a device shows only accessible messages, whatever window, channel and
bodies are asked for, exactly when every reply is as accessible as its parent. -/
theorem snapshots_showOnlyAccessible_iff
    (workspaceId : WorkspaceId) (events shown : List SignedEvent) (known : events ⊆ shown)
    (report : MaterializationReport) (state : WorkspaceState)
    (accepted : (new workspaceId).applyBatch events = (.ok report, state))
    (readerDeviceId : DeviceId) :
    (∀ (bodyOverrides : BodyOverrides) (options : WorkspaceSnapshotOptions)
        (invalidSignatures : List InvalidSignatureSnapshot),
      ∃ snapshot,
        state.workspaceSnapshot workspaceId report shown (some readerDeviceId) bodyOverrides
            options invalidSignatures = some snapshot ∧
          state.ShowsOnlyAccessible readerDeviceId (eventsById shown) snapshot) ↔
      state.RepliesShareAccess readerDeviceId report (eventsById shown) := by
  constructor
  · intro safe
    obtain ⟨snapshot, built, onlyAccessible⟩ := safe ∅ ⟨none, none, none⟩ []
    exact shareAccess_of_onlyAccessible accepted known built onlyAccessible
  · intro shareAccess bodyOverrides options invalidSignatures
    have built :=
      workspaceSnapshot_eq_some state workspaceId report shown (some readerDeviceId)
        bodyOverrides options invalidSignatures
    exact ⟨_, built, onlyAccessible_of_shareAccess accepted known shareAccess built⟩

/-! ## A parent that moves

A message of a public channel has a reply.  Its author creates it again in a private
channel, under the same ID. -/

def answer : SignedEvent :=
  draftEvent "e5" "bob" (some "c") ["e4"] (.messageReplyCreated ⟨"m1"⟩ ⟨"m0"⟩ "hi" [])

def answeredHistory : List SignedEvent :=
  [draftEvent "e0" "root" none [] (.workspaceCreated "home"),
    draftEvent "e1" "root" none ["e0"] (.memberInvited ⟨"bob"⟩ .member),
    draftEvent "e2" "root" (some "c") ["e1"] (.channelCreated ⟨"c"⟩ "talk" false),
    draftEvent "e3" "root" (some "p") ["e2"] (.channelCreated ⟨"p"⟩ "plans" true),
    draftEvent "e4" "root" (some "c") ["e3"] (.messageCreated ⟨"m0"⟩ "hello" []),
    answer]

def secretMessage : SignedEvent :=
  draftEvent "e6" "root" (some "p") ["e5"] (.messageCreated ⟨"m0"⟩ "secret" [])

theorem answeredHistory_orders :
    ((new ⟨"w"⟩).applyBatch answeredHistory).1 =
        .ok ⟨[⟨"e0"⟩, ⟨"e1"⟩, ⟨"e2"⟩, ⟨"e3"⟩, ⟨"e4"⟩, ⟨"e5"⟩], []⟩ ∧
      ((new ⟨"w"⟩).applyBatch (answeredHistory ++ [secretMessage])).1 =
        .ok ⟨[⟨"e0"⟩, ⟨"e1"⟩, ⟨"e2"⟩, ⟨"e3"⟩, ⟨"e4"⟩, ⟨"e5"⟩, ⟨"e6"⟩], []⟩ := by
  decide +kernel

/-- Before that, all messages are in the public channel. -/
theorem snapshots_showOnlyAccessible_iff_answered :
    ∃ snapshot,
      (materialized answeredHistory).workspaceSnapshot ⟨"w"⟩
          ⟨[⟨"e0"⟩, ⟨"e1"⟩, ⟨"e2"⟩, ⟨"e3"⟩, ⟨"e4"⟩, ⟨"e5"⟩], []⟩ answeredHistory
          (some ⟨"bob"⟩) ∅ ⟨none, none, none⟩ [] = some snapshot ∧
        (materialized answeredHistory).ShowsOnlyAccessible ⟨"bob"⟩
          (eventsById answeredHistory) snapshot := by
  refine (snapshots_showOnlyAccessible_iff ⟨"w"⟩ answeredHistory answeredHistory
    (List.Subset.refl _) _ _ (Prod.ext answeredHistory_orders.1 rfl) ⟨"bob"⟩).mpr ?_
    ∅ ⟨none, none, none⟩ []
  have allAccessible :
      ∀ message ∈ listedValues (materialized answeredHistory).messages,
        (materialized answeredHistory).channelAccessibleTo message.channelId ⟨"bob"⟩ = true := by
    decide +kernel
  intro replyId parentId reply parent replyStored parentStored _
  exact ⟨fun _ _ => allAccessible parent ((mem_listedValues _ _).mpr ⟨parentId, parentStored⟩),
    fun _ _ => allAccessible reply ((mem_listedValues _ _).mpr ⟨replyId, replyStored⟩)⟩

/-- After that, the row of the reply shows the secret message. -/
theorem snapshots_not_showOnlyAccessible :
    ¬ ∀ (workspaceId : WorkspaceId) (events : List SignedEvent) report state,
      (new workspaceId).applyBatch events = (.ok report, state) →
        ∀ (readerDeviceId : DeviceId) (bodyOverrides : BodyOverrides)
          (options : WorkspaceSnapshotOptions) (invalidSignatures : List InvalidSignatureSnapshot),
          ∃ snapshot,
            state.workspaceSnapshot workspaceId report events (some readerDeviceId) bodyOverrides
                options invalidSignatures = some snapshot ∧
              state.ShowsOnlyAccessible readerDeviceId (eventsById events) snapshot := by
  intro safe
  have accepted :
      (new ⟨"w"⟩).applyBatch (answeredHistory ++ [secretMessage]) =
        (.ok ⟨[⟨"e0"⟩, ⟨"e1"⟩, ⟨"e2"⟩, ⟨"e3"⟩, ⟨"e4"⟩, ⟨"e5"⟩, ⟨"e6"⟩], []⟩,
          materialized (answeredHistory ++ [secretMessage])) :=
    Prod.ext answeredHistory_orders.2 rfl
  obtain ⟨snapshot, built, onlyAccessible⟩ :=
    safe _ _ _ _ accepted ⟨"bob"⟩ ∅ ⟨none, none, none⟩ []
  have shareAccess :=
    shareAccess_of_onlyAccessible accepted (List.Subset.refl _) built onlyAccessible
  have moved :
      ∃ reply parent,
        (materialized (answeredHistory ++ [secretMessage])).messages[
            (⟨"m1"⟩ : MessageId)]? = some reply ∧
          (materialized (answeredHistory ++ [secretMessage])).messages[
              (⟨"m0"⟩ : MessageId)]? = some parent ∧
            reply.replyToMessageId = some ⟨"m0"⟩ ∧ reply.channelId = ⟨"c"⟩ ∧
              parent.channelId = ⟨"p"⟩ := by
    refine ⟨MessageView.new ⟨"m1"⟩ ⟨"c"⟩ ⟨"e5"⟩ (some ⟨"m0"⟩) "hi" none [],
      MessageView.new ⟨"m0"⟩ ⟨"p"⟩ ⟨"e6"⟩ none "secret" none [], ?_⟩
    decide +kernel
  obtain ⟨reply, parent, replyStored, parentStored, repliesTo, inPublic, inPrivate⟩ := moved
  have distinct : ((answeredHistory ++ [secretMessage]).map SignedEvent.eventId).Nodup := by
    decide
  have listed : answer ∈ answeredHistory ++ [secretMessage] := by
    decide
  have hasRow :
      HasRow ⟨[⟨"e0"⟩, ⟨"e1"⟩, ⟨"e2"⟩, ⟨"e3"⟩, ⟨"e4"⟩, ⟨"e5"⟩, ⟨"e6"⟩], []⟩
        (eventsById (answeredHistory ++ [secretMessage])) ⟨"m1"⟩ :=
    ⟨⟨"e5"⟩, by decide, answer, getElem?_eventsById distinct listed, rfl⟩
  have parentAccessible :=
    (shareAccess _ _ reply parent replyStored parentStored repliesTo).1 hasRow
      (by rw [inPublic]; decide +kernel)
  rw [inPrivate] at parentAccessible
  revert parentAccessible
  decide +kernel

end Snapshots

end WorkspaceState

end Chaft

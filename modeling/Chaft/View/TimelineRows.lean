import Chaft.View.Timeline

/-!
# Rows, threads and items

What the passes of a snapshot compute: a window is a slice of all rows, a thread index
lists the replies to each parent, and every selected row has an item.
-/

namespace Chaft

open Keyed SlidingWindow

/-! ## Windows -/

namespace WorkspaceState

section Windows

variable {state : WorkspaceState} {report : MaterializationReport}
  {table : HashMap EventId SignedEvent} {readerDeviceId : Option DeviceId}
  {invalidSignatures : List InvalidSignatureSnapshot} {options : WorkspaceSnapshotOptions}

/-- A window shows a slice of all rows, and knows the row in front of it unless it can
hold no row. -/
theorem timelineRowsForWindow_eq
    (rows : List TimelineRowRef)
    (visited :
      state.timelineRowRefs report table readerDeviceId invalidSignatures
        options.timelineChannelId = rows) :
    let window := timelineWindowForCount rows.length options
    let shown :=
      state.timelineRowsForWindow report table readerDeviceId invalidSignatures options
    shown.window = window ∧
      shown.rows = (rows.drop window.startIndex).take window.itemCount ∧
        (shown.rowBeforeWindow = (rows.take window.startIndex).getLast? ∨
          shown.rows = [] ∧ shown.rowBeforeWindow = none) := by
  unfold timelineRowsForWindow timelineWindowForCount
  rw [visited]
  cases limit : options.timelineLimit with
  | none =>
      dsimp only
      rw [List.drop_zero, List.take_length, List.take_zero, List.getLast?_nil]
      exact ⟨rfl, rfl, Or.inl rfl⟩
  | some timelineLimit =>
      cases start : options.timelineStart with
      | some timelineStart =>
          dsimp only
          rw [foldl_visitRange]
          dsimp only
          refine ⟨rfl, ?_, Or.inl (by rw [← List.take_eq_take_min])⟩
          by_cases inside : timelineStart ≤ rows.length
          · rw [Nat.min_eq_left inside, List.take_take]
            congr 1
            omega
          · rw [List.drop_of_length_le (by omega), List.drop_of_length_le (by omega),
              List.take_nil, List.take_nil]
      | none =>
          dsimp only
          by_cases empty : timelineLimit = 0
          · rw [empty, foldl_visitLatest_zero]
            dsimp only
            by_cases noRows : rows.length ≤ 0
            · rw [if_pos noRows]
              have isNil : rows = [] := List.eq_nil_of_length_eq_zero (by omega)
              subst isNil
              exact ⟨rfl, rfl, Or.inr ⟨rfl, rfl⟩⟩
            · rw [if_neg noRows]
              dsimp only
              rw [List.take_zero]
              exact ⟨rfl, rfl, Or.inr ⟨rfl, rfl⟩⟩
          · rw [foldl_visitLatest (by omega)]
            dsimp only
            by_cases all : rows.length ≤ timelineLimit
            · have noneBefore : rows.length - timelineLimit = 0 := by omega
              rw [if_pos all, noneBefore]
              dsimp only
              rw [List.drop_zero, List.take_length]
              exact ⟨rfl, rfl, Or.inl rfl⟩
            · rw [if_neg all]
              dsimp only
              refine ⟨rfl, ?_, Or.inl rfl⟩
              rw [List.take_of_length_le]
              rw [List.length_drop]
              omega

/-- Only applied events with an item of their own are rows. -/
theorem mem_timelineRowRefs
    {timelineChannelId : Option ChannelId} {eventId : EventId}
    (member :
      .applied eventId ∈
        state.timelineRowRefs report table readerDeviceId invalidSignatures
          timelineChannelId) :
    eventId ∈ report.appliedEvents ∧
      state.appliedEventHasTimelineItem table readerDeviceId timelineChannelId eventId =
        true := by
  unfold timelineRowRefs at member
  rw [List.mem_append, List.mem_append, List.mem_map, List.mem_map, List.mem_map] at member
  rcases member with (⟨other, listed, same⟩ | ⟨gap, -, same⟩) | ⟨invalid, -, same⟩
  · cases same
    exact List.mem_filter.mp listed
  · cases same
  · cases same

end Windows

/-! ## Threads -/

section Threads

variable {state : WorkspaceState} {table : HashMap EventId SignedEvent}

/-- The replies to a message whose events are known. -/
def replyRefs
    (state : WorkspaceState) (table : HashMap EventId SignedEvent) (parentId : MessageId) :
    List ThreadReplyRef :=
  (listedValues state.messages).filterMap fun message =>
    if message.replyToMessageId = some parentId then
      table[message.authorEventId]?.map fun event => { message := message, event := event }
    else
      none

/-- The listed replies are the stored messages that reply to the message and whose event
is known. -/
theorem mem_replyRefs_iff
    (parentId : MessageId) (reply : ThreadReplyRef) :
    reply ∈ state.replyRefs table parentId ↔
      reply.message.replyToMessageId = some parentId ∧
        table[reply.message.authorEventId]? = some reply.event ∧
          ∃ replyId : MessageId, state.messages[replyId]? = some reply.message := by
  unfold replyRefs
  rw [List.mem_filterMap]
  constructor
  · rintro ⟨message, listed, isReply⟩
    split at isReply
    · rename_i repliesTo
      rw [Option.map_eq_some_iff] at isReply
      obtain ⟨event, found, rfl⟩ := isReply
      exact ⟨repliesTo, found, (mem_listedValues _ _).mp listed⟩
    · cases isReply
  · rintro ⟨repliesTo, found, stored⟩
    refine ⟨reply.message, (mem_listedValues _ _).mpr stored, ?_⟩
    rw [if_pos repliesTo, found]
    rfl

private theorem foldl_pushThreadReply
    (replies : List (MessageId × ThreadReplyRef)) (index : ThreadReplyIndex)
    (parentId : MessageId) :
    (replies.foldl pushThreadReply index).getD parentId [] =
      index.getD parentId [] ++
        replies.filterMap fun reply => if reply.1 = parentId then some reply.2 else none := by
  induction replies generalizing index with
  | nil => simp
  | cons reply rest inductionHypothesis =>
      rw [List.foldl_cons, inductionHypothesis, pushThreadReply, Std.ExtTreeMap.getD_insert]
      by_cases same : reply.1 = parentId
      · rw [if_pos (Std.LawfulEqCmp.compare_eq_iff_eq.mpr same), List.filterMap_cons, if_pos same,
          same, List.append_assoc]
        rfl
      · have different : ¬ compare reply.1 parentId = .eq := fun equal =>
          same (Std.LawfulEqCmp.compare_eq_iff_eq.mp equal)
        rw [if_neg different, List.filterMap_cons, if_neg same]

/-- The index holds the sorted replies of each listed parent. -/
theorem threadReplyIndex_getD
    (parentMessageIds : HashSet MessageId) (parentId : MessageId) :
    (state.threadReplyIndex table parentMessageIds).getD parentId [] =
      if parentId ∈ parentMessageIds then sortThreadReplies (state.replyRefs table parentId)
      else [] := by
  have grouped :=
    foldl_pushThreadReply
      ((listedValues state.messages).filterMap (threadReplyRef table parentMessageIds)) ∅ parentId
  have noneYet : (∅ : ThreadReplyIndex).getD parentId [] = [] := by
    simp [Std.ExtTreeMap.getD_eq_getD_getElem?]
  rw [noneYet, List.nil_append, List.filterMap_filterMap] at grouped
  have listed :
      ((listedValues state.messages).filterMap fun message =>
          (threadReplyRef table parentMessageIds message).bind fun reply =>
            if reply.1 = parentId then some reply.2 else none) =
        if parentId ∈ parentMessageIds then state.replyRefs table parentId else [] := by
    by_cases isListed : parentId ∈ parentMessageIds
    · rw [if_pos isListed, replyRefs]
      refine List.filterMap_congr fun message _ => ?_
      unfold threadReplyRef
      cases message.replyToMessageId with
      | none => rfl
      | some other =>
          by_cases same : other = parentId
          · subst same
            cases table[message.authorEventId]? with
            | none => simp
            | some event => simp [isListed]
          · cases table[message.authorEventId]? with
            | none => simp [same]
            | some event =>
                by_cases otherListed : other ∈ parentMessageIds
                · simp [same, otherListed]
                · simp [same, otherListed]
    · rw [if_neg isListed, List.filterMap_eq_nil_iff]
      intro message _
      unfold threadReplyRef
      cases message.replyToMessageId with
      | none => rfl
      | some other =>
          by_cases otherListed : other ∈ parentMessageIds
          · have different : other ≠ parentId := fun same => isListed (same ▸ otherListed)
            cases table[message.authorEventId]? with
            | none => simp
            | some event => simp [otherListed, different]
          · simp [otherListed]
  rw [listed] at grouped
  unfold threadReplyIndex
  rw [Std.ExtTreeMap.getD_eq_getD_getElem?, Std.ExtTreeMap.getElem?_map]
  rw [Std.ExtTreeMap.getD_eq_getD_getElem?] at grouped
  cases found : (((listedValues state.messages).filterMap
      (threadReplyRef table parentMessageIds)).foldl pushThreadReply ∅)[parentId]? with
  | none =>
      rw [found, Option.getD_none] at grouped
      rw [Option.map_none, Option.getD_none]
      split
      · rename_i isListed
        rw [if_pos isListed] at grouped
        rw [← grouped]
        rfl
      · rfl
  | some replies =>
      rw [found, Option.getD_some] at grouped
      rw [Option.map_some, Option.getD_some, grouped]
      split
      · rfl
      · rfl

/-- What a row shows of its thread depends on the listed replies. -/
theorem threadSummaryForMessage_eq
    (threadReplies : ThreadReplyIndex) (message : MessageView) (bodyOverrides : BodyOverrides) :
    let replies := threadReplies.getD message.messageId []
    let previews :=
      (lastReplies replies).map fun reply =>
        state.replyPreviewSnapshot reply.message reply.event bodyOverrides
    state.threadSummaryForMessage threadReplies message bodyOverrides =
      (UInt32.ofNat (min replies.length (UInt32.size - 1)), previews.getLast?, previews) := by
  unfold threadSummaryForMessage
  rw [Std.ExtTreeMap.getD_eq_getD_getElem?]
  cases threadReplies[message.messageId]? with
  | none => rfl
  | some replies => rfl

end Threads

/-! ## Items -/

section Items

variable {state : WorkspaceState} {table : HashMap EventId SignedEvent}
  {readerDeviceId : Option DeviceId}

/-- The message that a row is about. -/
def rowMessage
    (state : WorkspaceState) (table : HashMap EventId SignedEvent) (eventId : EventId) :
    Option (SignedEvent × MessageView) := do
  let event ← table[eventId]?
  let messageId ← eventTimelineMessageId event.event.body
  let message ← state.messages[messageId]?
  some (event, message)

theorem appliedEventHasTimelineItem_eq_true_iff
    (timelineChannelId : Option ChannelId) (eventId : EventId) :
    state.appliedEventHasTimelineItem table readerDeviceId timelineChannelId eventId = true ↔
      ∃ event message, state.rowMessage table eventId = some (event, message) ∧
        (∀ channelId, timelineChannelId = some channelId → message.channelId = channelId) ∧
          state.shownTo readerDeviceId message.channelId = true := by
  unfold appliedEventHasTimelineItem rowMessage
  cases table[eventId]? with
  | none => simp
  | some event =>
      simp only [Option.bind_eq_bind, Option.bind_some]
      cases eventTimelineMessageId event.event.body with
      | none => simp
      | some messageId =>
          simp only [Option.bind_some]
          cases state.messages[messageId]? with
          | none => simp
          | some message =>
              cases timelineChannelId with
              | none => simp
              | some channelId => simp

/-- A selected row has an item. -/
theorem exists_item_of_row
    {timelineChannelId : Option ChannelId} {eventId : EventId}
    (selected :
      state.appliedEventHasTimelineItem table readerDeviceId timelineChannelId eventId = true)
    (threadReplies : ThreadReplyIndex) (bodyOverrides : BodyOverrides) :
    ∃ item,
      state.timelineItemForAppliedEvent table threadReplies readerDeviceId bodyOverrides eventId =
        some item := by
  obtain ⟨event, message, ofRow, -, shown⟩ :=
    (appliedEventHasTimelineItem_eq_true_iff timelineChannelId eventId).mp selected
  simp only [rowMessage, Option.bind_eq_bind, Option.bind_eq_some_iff, Option.some.injEq,
    Prod.mk.injEq] at ofRow
  obtain ⟨_, found, messageId, creates, _, stored, rfl, rfl⟩ := ofRow
  unfold timelineItemForAppliedEvent
  simp only [found, creates, stored, shown, Option.bind_eq_bind, Option.bind_some, if_true]
  exact ⟨_, rfl⟩

/-- The item of a row that has one. -/
def rowItem
    (state : WorkspaceState) (table : HashMap EventId SignedEvent)
    (threadReplies : ThreadReplyIndex) (readerDeviceId : Option DeviceId)
    (bodyOverrides : BodyOverrides) (row : TimelineRowRef) : TimelineItem :=
  (state.renderRow table threadReplies readerDeviceId bodyOverrides row).getD
    (emptyTimelineItem .missingHistoryGap "" "")

variable {report : MaterializationReport} {invalidSignatures : List InvalidSignatureSnapshot}
  {options : WorkspaceSnapshotOptions}

/-- Every visited row has an item. -/
theorem renderRow_of_visited
    {timelineChannelId : Option ChannelId} {row : TimelineRowRef}
    (visited :
      row ∈ state.timelineRowRefs report table readerDeviceId invalidSignatures
        timelineChannelId)
    (threadReplies : ThreadReplyIndex) (bodyOverrides : BodyOverrides) :
    state.renderRow table threadReplies readerDeviceId bodyOverrides row =
      some (state.rowItem table threadReplies readerDeviceId bodyOverrides row) := by
  unfold rowItem
  cases row with
  | applied eventId =>
      obtain ⟨-, selected⟩ := mem_timelineRowRefs visited
      obtain ⟨item, hasItem⟩ := exists_item_of_row selected threadReplies bodyOverrides
      rw [renderRow, hasItem, Option.getD_some]
  | gap gap => rfl
  | invalid invalid => rfl

private theorem mapM_eq_some_map
    {α β : Type} {render : α → Option β} {total : α → β} {rows : List α}
    (renders : ∀ row ∈ rows, render row = some (total row)) :
    rows.mapM render = some (rows.map total) := by
  induction rows with
  | nil => rfl
  | cons row rest inductionHypothesis =>
      have restRenders := inductionHypothesis fun other member =>
        renders other (List.mem_cons_of_mem row member)
      rw [List.mapM_cons, renders row List.mem_cons_self, restRenders]
      rfl

/-- Visited rows render without a panic. -/
theorem renderTimelineRows_of_visited
    {timelineChannelId : Option ChannelId} {rows : List TimelineRowRef}
    {rowBeforeWindow : Option TimelineRowRef}
    (visited :
      ∀ row ∈ rows, row ∈ state.timelineRowRefs report table readerDeviceId invalidSignatures
        timelineChannelId)
    (beforeVisited :
      ∀ row ∈ rowBeforeWindow, row ∈ state.timelineRowRefs report table readerDeviceId
        invalidSignatures timelineChannelId)
    (threadReplies : ThreadReplyIndex) (bodyOverrides : BodyOverrides) :
    state.renderTimelineRows rows rowBeforeWindow table threadReplies readerDeviceId
        bodyOverrides =
      some
        (annotateTimelineRowGrouping
          (rows.map (state.rowItem table threadReplies readerDeviceId bodyOverrides))
          (rowBeforeWindow.map
            (state.rowItem table threadReplies readerDeviceId bodyOverrides))) := by
  have rowsRender :=
    mapM_eq_some_map fun row member =>
      renderRow_of_visited (visited row member) threadReplies bodyOverrides
  unfold renderTimelineRows
  dsimp only
  rw [rowsRender]
  cases rowBeforeWindow with
  | none => rfl
  | some row =>
      rw [Option.mapM_some, renderRow_of_visited (beforeVisited row rfl) threadReplies bodyOverrides]
      rfl

/-- The rows of a window, and the one before it, are visited. -/
theorem visited_of_window
    (shown : TimelineRowsWindow)
    (isWindow :
      state.timelineRowsForWindow report table readerDeviceId invalidSignatures options = shown) :
    (∀ row ∈ shown.rows, row ∈ state.timelineRowRefs report table readerDeviceId
        invalidSignatures options.timelineChannelId) ∧
      ∀ row ∈ shown.rowBeforeWindow, row ∈ state.timelineRowRefs report table readerDeviceId
        invalidSignatures options.timelineChannelId := by
  subst isWindow
  obtain ⟨-, rows, before⟩ :=
    timelineRowsForWindow_eq
      (state.timelineRowRefs report table readerDeviceId invalidSignatures
        options.timelineChannelId) rfl
  constructor
  · intro row member
    rw [rows] at member
    exact List.mem_of_mem_drop (List.mem_of_mem_take member)
  · intro row isBefore
    rcases before with last | ⟨-, none⟩
    · rw [last] at isBefore
      exact List.mem_of_mem_take (List.mem_of_getLast? isBefore)
    · rw [none] at isBefore
      cases isBefore

/-- A snapshot is built without a panic. -/
theorem workspaceSnapshot_eq_some
    (state : WorkspaceState) (workspaceId : WorkspaceId) (report : MaterializationReport)
    (events : List SignedEvent) (readerDeviceId : Option DeviceId)
    (bodyOverrides : BodyOverrides) (options : WorkspaceSnapshotOptions)
    (invalidSignatures : List InvalidSignatureSnapshot) :
    let table := eventsById events
    let shown :=
      state.timelineRowsForWindow report table readerDeviceId invalidSignatures options
    let threadReplies :=
      state.threadReplyIndex table (timelineWindowMessageIds shown.rows table)
    let item := state.rowItem table threadReplies readerDeviceId bodyOverrides
    let channels :=
      state.channelSnapshotsFromStateReport report table readerDeviceId bodyOverrides
    state.workspaceSnapshot workspaceId report events readerDeviceId bodyOverrides options
        invalidSignatures =
      some
        { workspaceId := workspaceId.text
          name := state.name.getD "Chaft"
          accessPolicy := state.accessPolicy
          channels := channels.take maxChannelSnapshotRows
          channelCount := channels.length
          timelineChannelId := options.timelineChannelId.map Identifier.text
          timelineWindow := shown.window
          timeline :=
            annotateTimelineRowGrouping (shown.rows.map item) (shown.rowBeforeWindow.map item)
          gapCount := report.gaps.length
          invalidSignatureCount := invalidSignatures.length } := by
  intro table shown threadReplies item channels
  obtain ⟨visited, beforeVisited⟩ := visited_of_window shown rfl
  have rendered :=
    renderTimelineRows_of_visited visited beforeVisited threadReplies bodyOverrides
  unfold workspaceSnapshot
  dsimp only
  rw [rendered]
  rfl

end Items

end WorkspaceState

end Chaft

import Chaft.View.WindowBodies

/-!
# Windows as slices

A window is rendered by itself, with only the row in front of it and with only the bodies
it wants.  It is the slice of the timeline rendered in full, unless that row is a gap: then
the day of the last dated row before the window is lost.
-/

namespace Chaft

open Keyed StableReplay

/-! ## Annotating a slice -/

/-- What the annotation knows after some items. -/
def contextAfter (context : GroupingContext) (items : List TimelineItem) : GroupingContext :=
  items.foldl GroupingContext.next context

def lastKnownDay (items : List TimelineItem) : Option Int :=
  (items.filterMap timelineRowUtcDay).getLast?

def firstKnownDay (items : List TimelineItem) : Option Int :=
  (items.filterMap timelineRowUtcDay).head?

theorem annotateFrom_take (context : GroupingContext) (items : List TimelineItem) (count : Nat) :
    (annotateFrom context items).take count = annotateFrom context (items.take count) := by
  induction items generalizing context count with
  | nil => cases count <;> rfl
  | cons item rest inductionHypothesis =>
      cases count with
      | zero => rfl
      | succ count =>
          rw [annotateFrom, List.take_succ_cons, List.take_succ_cons, annotateFrom,
            inductionHypothesis]

theorem annotateFrom_drop (context : GroupingContext) (items : List TimelineItem) (count : Nat) :
    (annotateFrom context items).drop count =
      annotateFrom (contextAfter context (items.take count)) (items.drop count) := by
  induction items generalizing context count with
  | nil => cases count <;> rfl
  | cons item rest inductionHypothesis =>
      cases count with
      | zero => rfl
      | succ count =>
          rw [annotateFrom, List.drop_succ_cons, inductionHypothesis, List.take_succ_cons,
            List.drop_succ_cons]
          rfl

theorem annotateFrom_length (context : GroupingContext) (items : List TimelineItem) :
    (annotateFrom context items).length = items.length := by
  induction items generalizing context with
  | nil => rfl
  | cons item rest inductionHypothesis =>
      rw [annotateFrom, List.length_cons, List.length_cons, inductionHypothesis]

theorem contextAfter_previousUtcDay (context : GroupingContext) (items : List TimelineItem) :
    (contextAfter context items).previousUtcDay =
      (lastKnownDay items).or context.previousUtcDay := by
  induction items using List.reverseRecOn with
  | nil => rfl
  | append_singleton items last inductionHypothesis =>
      unfold contextAfter lastKnownDay at inductionHypothesis ⊢
      rw [List.foldl_append, List.foldl_cons, List.foldl_nil, GroupingContext.next,
        inductionHypothesis, List.filterMap_append]
      cases isDated : timelineRowUtcDay last with
      | none =>
          rw [List.filterMap_cons, isDated, List.filterMap_nil, List.append_nil, Option.none_or]
      | some day =>
          rw [List.filterMap_cons, isDated, List.filterMap_nil, List.getLast?_append,
            List.getLast?_singleton]
          rfl

/-- After some items the annotation knows the last of them, and the last known day. -/
theorem contextAfter_of_getLast?
    {items : List TimelineItem} {last : TimelineItem} (isLast : items.getLast? = some last) :
    contextAfter (startGrouping none) items =
      { previousGroupKey := timelineRowGroupKey last
        previousUtcDay := lastKnownDay items
        firstVisibleRow := false } := by
  have sameDay := contextAfter_previousUtcDay (startGrouping none) items
  obtain ⟨initial, rfl⟩ := List.getLast?_eq_some_iff.mp isLast
  have lastStep :
      contextAfter (startGrouping none) (initial ++ [last]) =
        (contextAfter (startGrouping none) initial).next last := by
    rw [contextAfter, List.foldl_append]
    rfl
  have noDay : (startGrouping none).previousUtcDay = none := rfl
  rw [noDay, Option.or_none] at sameDay
  rw [← sameDay, lastStep]
  rfl

/-- Two contexts that differ in the known day agree on what the first dated item shows. -/
theorem annotateFrom_eq_iff
    (groupKey : Option (String × Int)) (left right : Option Int) (items : List TimelineItem) :
    annotateFrom ⟨groupKey, left, false⟩ items = annotateFrom ⟨groupKey, right, false⟩ items ↔
      ∀ day, firstKnownDay items = some day → (left = some day ↔ right = some day) := by
  induction items generalizing groupKey with
  | nil => simp [annotateFrom, firstKnownDay]
  | cons item rest inductionHypothesis =>
      rw [annotateFrom, annotateFrom, List.cons.injEq]
      unfold firstKnownDay at inductionHypothesis ⊢
      cases isDated : timelineRowUtcDay item with
      | none =>
          have sameItem :
              annotateItem ⟨groupKey, left, false⟩ item =
                annotateItem ⟨groupKey, right, false⟩ item := by
            unfold annotateItem
            rw [isDated]
            rfl
          have leftNext :
              GroupingContext.next ⟨groupKey, left, false⟩ item =
                ⟨timelineRowGroupKey item, left, false⟩ := by
            rw [GroupingContext.next, isDated]
            rfl
          have rightNext :
              GroupingContext.next ⟨groupKey, right, false⟩ item =
                ⟨timelineRowGroupKey item, right, false⟩ := by
            rw [GroupingContext.next, isDated]
            rfl
          rw [leftNext, rightNext, inductionHypothesis, List.filterMap_cons, isDated]
          exact ⟨fun both => both.2, fun same => ⟨sameItem, same⟩⟩
      | some day =>
          have sameNext :
              GroupingContext.next ⟨groupKey, left, false⟩ item =
                GroupingContext.next ⟨groupKey, right, false⟩ item := by
            rw [GroupingContext.next, GroupingContext.next, isDated]
            rfl
          rw [sameNext, List.filterMap_cons, isDated]
          dsimp only
          rw [List.head?_cons]
          have sameItem_iff :
              annotateItem ⟨groupKey, left, false⟩ item =
                  annotateItem ⟨groupKey, right, false⟩ item ↔
                (left = some day ↔ right = some day) := by
            unfold annotateItem
            rw [isDated]
            simp only [Bool.false_or, Option.isSome_some, Bool.true_and, TimelineItem.mk.injEq,
              true_and, and_true, decide_eq_decide, ne_eq]
            constructor
            · intro same
              exact ⟨fun isLeft => by_contra fun notRight => same.mpr (Ne.symm notRight) isLeft.symm,
                fun isRight => by_contra fun notLeft => same.mp (Ne.symm notLeft) isRight.symm⟩
            · intro same
              exact not_congr ⟨fun isLeft => (same.mp isLeft.symm).symm,
                fun isRight => (same.mpr isRight.symm).symm⟩
          rw [sameItem_iff]
          constructor
          · rintro ⟨same, -⟩ other isOther
            rw [← Option.some.inj isOther]
            exact same
          · intro same
            exact ⟨same day rfl, rfl⟩

/-- The last item in front of a slice is without a day, and hides the last known one. -/
def HidesDay (before slice : List TimelineItem) : Prop :=
  ∃ last day, before.getLast? = some last ∧ timelineRowUtcDay last = none ∧
    lastKnownDay before = some day ∧ firstKnownDay slice = some day

/-- A slice is annotated as in the whole unless the item in front of it hides a day. -/
theorem annotate_slice_iff (items : List TimelineItem) (startIndex itemCount : Nat) :
    annotateTimelineRowGrouping ((items.drop startIndex).take itemCount)
        (items.take startIndex).getLast? =
      ((annotateTimelineRowGrouping items none).drop startIndex).take itemCount ↔
    ¬ HidesDay (items.take startIndex) ((items.drop startIndex).take itemCount) := by
  unfold annotateTimelineRowGrouping
  rw [annotateFrom_drop, annotateFrom_take]
  unfold HidesDay
  cases isLast : (items.take startIndex).getLast? with
  | none =>
      rw [List.getLast?_eq_none_iff] at isLast
      rw [isLast]
      simp [contextAfter]
  | some last =>
      rw [contextAfter_of_getLast? isLast]
      have known :
          startGrouping (some last) =
            ⟨timelineRowGroupKey last, timelineRowUtcDay last, false⟩ := rfl
      rw [known, annotateFrom_eq_iff]
      cases isDated : timelineRowUtcDay last with
      | some day =>
          obtain ⟨initial, isInitial⟩ := List.getLast?_eq_some_iff.mp isLast
          have lastDay : lastKnownDay (items.take startIndex) = some day := by
            rw [isInitial, lastKnownDay, List.filterMap_append, List.filterMap_cons, isDated]
            exact List.getLast?_concat
          rw [lastDay]
          simp [isDated]
      | none =>
          constructor
          · intro same hides
            obtain ⟨_, day, -, -, isLastDay, isFirstDay⟩ := hides
            have impossible := (same day isFirstDay).mpr isLastDay
            cases impossible
          · intro shown day isFirstDay
            refine ⟨fun impossible => absurd impossible (by simp), fun isLastDay => ?_⟩
            exact absurd ⟨last, day, rfl, isDated, isLastDay, isFirstDay⟩ shown

namespace WorkspaceState

/-! ## Days of rows -/

section Days

variable {state : WorkspaceState} {table : HashMap EventId SignedEvent}
  {readerDeviceId : Option DeviceId}

/-- The UTC day of a row; a gap has none. -/
def rowUtcDay (table : HashMap EventId SignedEvent) : TimelineRowRef → Option Int
  | .applied eventId =>
      table[eventId]?.map fun event => event.event.timestamp.physicalMs.toInt / msPerUtcDay
  | .gap _ => none
  | .invalid invalid => some (invalid.physicalMs.toInt / msPerUtcDay)

theorem timelineRowUtcDay_rowItem
    {report : MaterializationReport} {invalidSignatures : List InvalidSignatureSnapshot}
    {timelineChannelId : Option ChannelId} {row : TimelineRowRef}
    (visited :
      row ∈ state.timelineRowRefs report table readerDeviceId invalidSignatures
        timelineChannelId)
    (threadReplies : ThreadReplyIndex) (bodyOverrides : BodyOverrides) :
    timelineRowUtcDay (state.rowItem table threadReplies readerDeviceId bodyOverrides row) =
      rowUtcDay table row := by
  have renders := renderRow_of_visited visited threadReplies bodyOverrides
  cases row with
  | gap gap => rfl
  | invalid invalid => rfl
  | applied eventId =>
      rw [renderRow] at renders
      unfold timelineItemForAppliedEvent at renders
      simp only [Option.bind_eq_bind, Option.bind_eq_some_iff] at renders
      obtain ⟨event, found, messageId, -, message, -, isItem⟩ := renders
      split at isItem
      · rw [Option.some.injEq] at isItem
        rw [← isItem, rowUtcDay, found]
        rfl
      · cases isItem

/-- Which group a row belongs to does not depend on the opened bodies. -/
theorem timelineRowGroupKey_rowItem
    (threadReplies otherReplies : ThreadReplyIndex) (bodyOverrides otherOverrides : BodyOverrides)
    (row : TimelineRowRef) :
    timelineRowGroupKey (state.rowItem table threadReplies readerDeviceId bodyOverrides row) =
      timelineRowGroupKey
        (state.rowItem table otherReplies readerDeviceId otherOverrides row) := by
  cases row with
  | gap gap => rfl
  | invalid invalid => rfl
  | applied eventId =>
      unfold rowItem renderRow timelineItemForAppliedEvent
      dsimp only
      cases table[eventId]? with
      | none => rfl
      | some event =>
          simp only [Option.bind_eq_bind, Option.bind_some]
          cases eventTimelineMessageId event.event.body with
          | none => rfl
          | some messageId =>
              simp only [Option.bind_some]
              cases state.messages[messageId]? with
              | none => rfl
              | some message =>
                  simp only [Option.bind_some]
                  split <;> rfl

/-- The row before a window tells the annotation the same, whatever bodies are opened. -/
theorem startGrouping_rowItem
    {report : MaterializationReport} {invalidSignatures : List InvalidSignatureSnapshot}
    {timelineChannelId : Option ChannelId} {rowBeforeWindow : Option TimelineRowRef}
    (visited :
      ∀ row ∈ rowBeforeWindow, row ∈ state.timelineRowRefs report table readerDeviceId
        invalidSignatures timelineChannelId)
    (threadReplies otherReplies : ThreadReplyIndex)
    (bodyOverrides otherOverrides : BodyOverrides) :
    startGrouping
        (rowBeforeWindow.map (state.rowItem table threadReplies readerDeviceId bodyOverrides)) =
      startGrouping
        (rowBeforeWindow.map
          (state.rowItem table otherReplies readerDeviceId otherOverrides)) := by
  cases rowBeforeWindow with
  | none => rfl
  | some row =>
      simp only [Option.map_some, startGrouping, Option.bind_some, Option.isNone_some,
        timelineRowUtcDay_rowItem (visited row rfl),
        timelineRowGroupKey_rowItem threadReplies otherReplies bodyOverrides otherOverrides]

/-- Only gaps are without a day. -/
theorem exists_gap_of_undated
    {report : MaterializationReport} {invalidSignatures : List InvalidSignatureSnapshot}
    {timelineChannelId : Option ChannelId} {row : TimelineRowRef}
    (visited :
      row ∈ state.timelineRowRefs report table readerDeviceId invalidSignatures
        timelineChannelId)
    (undated : rowUtcDay table row = none) :
    ∃ gap, row = .gap gap := by
  cases row with
  | gap gap => exact ⟨gap, rfl⟩
  | invalid invalid => cases undated
  | applied eventId =>
      obtain ⟨-, selected⟩ := mem_timelineRowRefs visited
      obtain ⟨event, message, ofRow, -⟩ :=
        (appliedEventHasTimelineItem_eq_true_iff timelineChannelId eventId).mp selected
      unfold rowMessage at ofRow
      simp only [Option.bind_eq_bind, Option.bind_eq_some_iff] at ofRow
      obtain ⟨_, found, -⟩ := ofRow
      rw [rowUtcDay, found] at undated
      cases undated

/-- A gap stands directly before the window, and the first dated row of the window has the
day of the last dated row before it. -/
def GapHidesDay
    (table : HashMap EventId SignedEvent) (rows : List TimelineRowRef)
    (window : TimelineWindowSnapshot) : Prop :=
  ∃ gap day, (rows.take window.startIndex).getLast? = some (.gap gap) ∧
    ((rows.take window.startIndex).filterMap (rowUtcDay table)).getLast? = some day ∧
      (((rows.drop window.startIndex).take window.itemCount).filterMap
        (rowUtcDay table)).head? = some day

end Days

/-! ## What a window promises -/

/-- The place and size that the options ask for, and what is said about the rest. -/
structure DescribesWindow
    (options : WorkspaceSnapshotOptions) (length : Nat) (window : TimelineWindowSnapshot) :
    Prop where
  totalCount : window.totalCount = length
  startIndex :
    window.startIndex =
      match options.timelineLimit, options.timelineStart with
      | none, _ => 0
      | some _, some timelineStart => min timelineStart length
      | some timelineLimit, none => length - timelineLimit
  itemCount :
    window.itemCount = min (options.timelineLimit.getD length) (length - window.startIndex)
  hasMoreBefore : window.hasMoreBefore = decide (0 < window.startIndex)
  hasMoreAfter : window.hasMoreAfter = decide (window.startIndex + window.itemCount < length)

theorem describesWindow_timelineWindowForCount
    (totalCount : Nat) (options : WorkspaceSnapshotOptions) :
    DescribesWindow options totalCount (timelineWindowForCount totalCount options) := by
  unfold timelineWindowForCount
  cases limit : options.timelineLimit with
  | none => constructor <;> simp [limit]
  | some timelineLimit =>
      cases start : options.timelineStart with
      | some timelineStart =>
          constructor
          · rfl
          · simp only [limit, start]
          · simp only [limit, Option.getD_some]
            omega
          · rfl
          · simp only [decide_eq_decide]
            omega
      | none =>
          by_cases all : totalCount ≤ timelineLimit
          · simp only [if_pos all]
            constructor
            · rfl
            · simp only [limit, start]
              omega
            · simp only [limit, Option.getD_some]
              omega
            · rfl
            · simp
          · simp only [if_neg all]
            constructor
            · rfl
            · simp only [limit, start]
            · simp only [limit, Option.getD_some]
              omega
            · rfl
            · simp only [Bool.false_eq, decide_eq_false_iff_not]
              omega

/-- The snapshot of a window is the slice of the whole one that its window describes. -/
structure IsSliceOf
    (options : WorkspaceSnapshotOptions) (whole part : WorkspaceSnapshot) : Prop where
  channels : part.channels = whole.channels
  channelCount : part.channelCount = whole.channelCount
  window : DescribesWindow options whole.timeline.length part.timelineWindow
  timeline :
    part.timeline =
      (whole.timeline.drop part.timelineWindow.startIndex).take part.timelineWindow.itemCount

section Slices

variable {primitives : Primitives} {workspaceId : WorkspaceId} {events : List SignedEvent}
  {report : MaterializationReport} {state : WorkspaceState}

theorem messagesFrom_of_applyBatch
    (distinct : (events.map SignedEvent.eventId).Nodup)
    (accepted :
      (new workspaceId).applyBatch (verifiedEventsForSnapshot primitives events) =
        (.ok report, state)) :
    MessagesFrom events state := by
  obtain ⟨applied, drawn, listed, replayed⟩ := applied_of_applyBatch accepted
  have reached := Reachable.applyBatch .new accepted drawn listed replayed
  refine ⟨distinct, ?_⟩
  intro messageId message stored
  obtain ⟨event, origin⟩ := reached.messagesCreated messageId message stored
  rw [List.nil_append] at origin
  have isStored : event ∈ events := (List.mem_filter.mp (drawn origin.member)).1
  exact ⟨event, { origin with member := isStored }⟩

/-- A window asks for enough bodies for each of its rows. -/
theorem rowItem_agrees
    (origins : MessagesFrom events state) (readerDeviceId : DeviceId)
    (options : WorkspaceSnapshotOptions) (opens : MessageView → Option String)
    {rows : List TimelineRowRef}
    (isWindow :
      (state.timelineRowsForWindow report (eventsById events) (some readerDeviceId)
        (invalidSignaturesForSnapshot primitives events) options).rows = rows)
    {allRows : List TimelineRowRef} (among : rows ⊆ allRows)
    {row : TimelineRowRef} (isRow : row ∈ rows) :
    state.rowItem (eventsById events)
        (state.threadReplyIndex (eventsById events)
          (timelineWindowMessageIds rows (eventsById events)))
        (some readerDeviceId)
        (state.openedBodies opens fun eventId =>
          decide (eventId ∈ state.bodyOverrideEventIdsForSnapshotWindow primitives report events
            readerDeviceId options))
        row =
      state.rowItem (eventsById events)
        (state.threadReplyIndex (eventsById events)
          (timelineWindowMessageIds allRows (eventsById events)))
        (some readerDeviceId) (state.openedBodies opens fun _ => true) row := by
  cases row with
  | gap gap => rfl
  | invalid invalid => rfl
  | applied eventId =>
      have listedIds :
          ∀ (listed : List TimelineRowRef), .applied eventId ∈ listed →
            ∀ event ∈ (eventsById events)[eventId]?,
              ∀ messageId ∈ eventTimelineMessageId event.event.body,
                messageId ∈ timelineWindowMessageIds listed (eventsById events) := by
        intro listed isListed event found messageId creates
        rw [Option.mem_def] at found creates
        rw [timelineWindowMessageIds, mem_ofList_iff, List.mem_filterMap]
        refine ⟨_, isListed, ?_⟩
        dsimp only
        rw [found, Option.bind_some]
        exact creates
      unfold rowItem renderRow
      simp only
      rw [timelineItem_agrees opens origins eventId
        (fun event found messageId creates =>
          ⟨listedIds rows isRow event found messageId creates,
            listedIds allRows (among isRow) event found messageId creates⟩)]
      intro overrideId isOverride
      rw [decide_eq_true_eq, bodyOverrideEventIdsForSnapshotWindow, isWindow, mem_ofList_iff, List.mem_append, List.mem_flatMap]
      exact Or.inr ⟨_, isRow, isOverride⟩

/-- The annotation of a window is that of the slice unless a gap hides a day. -/
theorem annotate_window_iff
    {readerDeviceId : Option DeviceId} {invalidSignatures : List InvalidSignatureSnapshot}
    {timelineChannelId : Option ChannelId} {table : HashMap EventId SignedEvent}
    {rows : List TimelineRowRef}
    (visited :
      state.timelineRowRefs report table readerDeviceId invalidSignatures timelineChannelId =
        rows)
    (item : TimelineRowRef → TimelineItem)
    (dated : ∀ row ∈ rows, timelineRowUtcDay (item row) = rowUtcDay table row)
    (window : TimelineWindowSnapshot) :
    annotateTimelineRowGrouping
        (((rows.drop window.startIndex).take window.itemCount).map item)
        ((rows.take window.startIndex).getLast?.map item) =
      ((annotateTimelineRowGrouping (rows.map item) none).drop window.startIndex).take
        window.itemCount ↔
    ¬ GapHidesDay table rows window := by
  have days :
      ∀ part : List TimelineRowRef, part ⊆ rows →
        (part.map item).filterMap timelineRowUtcDay = part.filterMap (rowUtcDay table) := by
    intro part among
    rw [List.filterMap_map]
    exact List.filterMap_congr fun row isRow => dated row (among isRow)
  have slice := annotate_slice_iff (rows.map item) window.startIndex window.itemCount
  rw [← List.map_drop, ← List.map_take, ← List.map_take, List.getLast?_map] at slice
  rw [slice, not_iff_not, HidesDay, GapHidesDay, lastKnownDay, firstKnownDay,
    days _ (List.take_subset _ _),
    days _ (List.Subset.trans (List.take_subset _ _) (List.drop_subset _ _)), List.getLast?_map]
  constructor
  · intro hides
    obtain ⟨last, day, isLast, undated, isLastDay, isFirstDay⟩ := hides
    obtain ⟨row, isLastRow, rfl⟩ := Option.map_eq_some_iff.mp isLast
    have isRow : row ∈ rows := List.mem_of_mem_take (List.mem_of_getLast? isLastRow)
    rw [dated row isRow] at undated
    obtain ⟨gap, rfl⟩ := exists_gap_of_undated (visited ▸ isRow) undated
    exact ⟨gap, day, isLastRow, isLastDay, isFirstDay⟩
  · intro hides
    obtain ⟨gap, day, isLastRow, isLastDay, isFirstDay⟩ := hides
    have isRow : .gap gap ∈ rows := List.mem_of_mem_take (List.mem_of_getLast? isLastRow)
    refine ⟨item (.gap gap), day, ?_, dated _ isRow, isLastDay, isFirstDay⟩
    rw [isLastRow, Option.map_some]

/-- The item of a row with all replies known and all bodies opened. -/
def fullItem
    (state : WorkspaceState) (events : List SignedEvent) (readerDeviceId : DeviceId)
    (opens : MessageView → Option String) (allRows : List TimelineRowRef) :
    TimelineRowRef → TimelineItem :=
  state.rowItem (eventsById events)
    (state.threadReplyIndex (eventsById events)
      (timelineWindowMessageIds allRows (eventsById events)))
    (some readerDeviceId) (state.openedBodies opens fun _ => true)

/-- The options of the timeline in full. -/
def WorkspaceSnapshotOptions.whole (options : WorkspaceSnapshotOptions) :
    WorkspaceSnapshotOptions where
  timelineStart := none
  timelineLimit := none
  timelineChannelId := options.timelineChannelId

section Snapshots

variable (workspaceId) {readerDeviceId : DeviceId} (opens : MessageView → Option String)
  {options : WorkspaceSnapshotOptions} {allRows : List TimelineRowRef}

theorem wholeSnapshot_timeline
    (visited :
      state.timelineRowRefs report (eventsById events) (some readerDeviceId)
        (invalidSignaturesForSnapshot primitives events) options.timelineChannelId = allRows) :
    ∃ whole,
      state.workspaceSnapshot workspaceId report events (some readerDeviceId)
          (state.openedBodies opens fun _ => true) (WorkspaceSnapshotOptions.whole options)
          (invalidSignaturesForSnapshot primitives events) = some whole ∧
        whole.timeline =
          annotateTimelineRowGrouping
            (allRows.map (state.fullItem events readerDeviceId opens allRows)) none ∧
          whole.channels =
              (state.channelSnapshotsFromStateReport report (eventsById events)
                (some readerDeviceId) (state.openedBodies opens fun _ => true)).take
                maxChannelSnapshotRows ∧
            whole.channelCount =
              (state.channelSnapshotsFromStateReport report (eventsById events)
                (some readerDeviceId) (state.openedBodies opens fun _ => true)).length := by
  have built :=
    workspaceSnapshot_eq_some state workspaceId report events (some readerDeviceId)
      (state.openedBodies opens fun _ => true) (WorkspaceSnapshotOptions.whole options)
      (invalidSignaturesForSnapshot primitives events)
  refine ⟨_, built, ?_, rfl, rfl⟩
  have allShown :
      state.timelineRowsForWindow report (eventsById events) (some readerDeviceId)
          (invalidSignaturesForSnapshot primitives events)
          (WorkspaceSnapshotOptions.whole options) =
        ⟨timelineWindowForCount allRows.length (WorkspaceSnapshotOptions.whole options), allRows,
          none⟩ := by
    rw [← visited]
    rfl
  dsimp only
  rw [allShown]
  rfl

theorem windowSnapshot_timeline
    (origins : MessagesFrom events state)
    (visited :
      state.timelineRowRefs report (eventsById events) (some readerDeviceId)
        (invalidSignaturesForSnapshot primitives events) options.timelineChannelId = allRows) :
    let window := timelineWindowForCount allRows.length options
    let item := state.fullItem events readerDeviceId opens allRows
    ∃ part,
      state.workspaceSnapshot workspaceId report events (some readerDeviceId)
          (state.openedBodies opens fun eventId =>
            decide (eventId ∈ state.bodyOverrideEventIdsForSnapshotWindow primitives report
              events readerDeviceId options))
          options (invalidSignaturesForSnapshot primitives events) = some part ∧
        part.timelineWindow = window ∧
          part.timeline =
            annotateTimelineRowGrouping
              (((allRows.drop window.startIndex).take window.itemCount).map item)
              ((allRows.take window.startIndex).getLast?.map item) ∧
            part.channels =
                (state.channelSnapshotsFromStateReport report (eventsById events)
                  (some readerDeviceId) (state.openedBodies opens fun _ => true)).take
                  maxChannelSnapshotRows ∧
              part.channelCount =
                (state.channelSnapshotsFromStateReport report (eventsById events)
                  (some readerDeviceId) (state.openedBodies opens fun _ => true)).length := by
  intro window item
  obtain ⟨sameWindow, rows, before⟩ := timelineRowsForWindow_eq allRows visited
  have sameChannels :
      state.channelSnapshotsFromStateReport report (eventsById events) (some readerDeviceId)
          (state.openedBodies opens fun eventId =>
            decide (eventId ∈ state.bodyOverrideEventIdsForSnapshotWindow primitives report
              events readerDeviceId options)) =
        state.channelSnapshotsFromStateReport report (eventsById events) (some readerDeviceId)
          (state.openedBodies opens fun _ => true) := by
    refine channelSnapshots_agree origins fun overrideId isOverride => ?_
    rw [decide_eq_true_eq]
    exact (mem_ofList_iff _ _).mpr (List.mem_append_left _ isOverride)
  have built :=
    workspaceSnapshot_eq_some state workspaceId report events (some readerDeviceId)
      (state.openedBodies opens fun eventId =>
        decide (eventId ∈ state.bodyOverrideEventIdsForSnapshotWindow primitives report events
          readerDeviceId options))
      options (invalidSignaturesForSnapshot primitives events)
  dsimp only at built
  rw [sameChannels] at built
  refine ⟨_, built, sameWindow, ?_, rfl, rfl⟩
  have among : (allRows.drop window.startIndex).take window.itemCount ⊆ allRows :=
    List.Subset.trans (List.take_subset _ _) (List.drop_subset _ _)
  dsimp only
  rw [rows]
  have sameItems :
      ((allRows.drop window.startIndex).take window.itemCount).map
          (state.rowItem (eventsById events)
            (state.threadReplyIndex (eventsById events)
              (timelineWindowMessageIds
                ((allRows.drop window.startIndex).take window.itemCount) (eventsById events)))
            (some readerDeviceId)
            (state.openedBodies opens fun eventId =>
              decide (eventId ∈ state.bodyOverrideEventIdsForSnapshotWindow primitives report
                events readerDeviceId options))) =
        ((allRows.drop window.startIndex).take window.itemCount).map item :=
    List.map_congr_left fun row isRow =>
      rowItem_agrees origins readerDeviceId options opens rows among isRow
  rw [sameItems]
  rcases before with isBefore | ⟨noRows, -⟩
  · have beforeVisited :
        ∀ row ∈ (allRows.take window.startIndex).getLast?,
          row ∈ state.timelineRowRefs report (eventsById events) (some readerDeviceId)
            (invalidSignaturesForSnapshot primitives events) options.timelineChannelId := by
      intro last isLast
      rw [visited]
      exact List.mem_of_mem_take (List.mem_of_getLast? isLast)
    rw [isBefore, annotateTimelineRowGrouping, annotateTimelineRowGrouping,
      startGrouping_rowItem beforeVisited _ _ _ _]
    rfl
  · rw [rows] at noRows
    rw [noRows, List.map_nil, annotateTimelineRowGrouping, annotateTimelineRowGrouping,
      annotateFrom, annotateFrom]

end Snapshots

/-- The window is rendered without a panic and is the slice of the timeline rendered in
full, exactly when no gap in front of it hides a day. -/
theorem windowedSnapshot_isSlice_iff
    (primitives : Primitives) (workspaceId : WorkspaceId) (events : List SignedEvent)
    (distinct : (events.map SignedEvent.eventId).Nodup)
    (report : MaterializationReport) (state : WorkspaceState)
    (accepted :
      (new workspaceId).applyBatch (verifiedEventsForSnapshot primitives events) =
        (.ok report, state))
    (readerDeviceId : DeviceId) (opens : MessageView → Option String)
    (options : WorkspaceSnapshotOptions) :
    let invalidSignatures := invalidSignaturesForSnapshot primitives events
    let wanted :=
      state.bodyOverrideEventIdsForSnapshotWindow primitives report events readerDeviceId options
    let allRows :=
      state.timelineRowRefs report (eventsById events) (some readerDeviceId) invalidSignatures
        options.timelineChannelId
    (∃ whole part,
      state.workspaceSnapshot workspaceId report events (some readerDeviceId)
          (state.openedBodies opens fun _ => true) (WorkspaceSnapshotOptions.whole options)
          invalidSignatures =
        some whole ∧
      state.workspaceSnapshot workspaceId report events (some readerDeviceId)
          (state.openedBodies opens fun eventId => decide (eventId ∈ wanted)) options
          invalidSignatures =
        some part ∧
      IsSliceOf options whole part) ↔
    ¬ GapHidesDay (eventsById events) allRows
        (timelineWindowForCount allRows.length options) := by
  intro invalidSignatures wanted allRows
  have origins := messagesFrom_of_applyBatch distinct accepted
  have visited :
      state.timelineRowRefs report (eventsById events) (some readerDeviceId)
        (invalidSignaturesForSnapshot primitives events) options.timelineChannelId =
          allRows := rfl
  obtain ⟨whole, isWhole, wholeTimeline, wholeChannels, wholeCount⟩ :=
    wholeSnapshot_timeline workspaceId opens visited
  obtain ⟨part, isPart, partWindow, partTimeline, partChannels, partCount⟩ :=
    windowSnapshot_timeline workspaceId opens origins visited
  have annotated :=
    annotate_window_iff visited (state.fullItem events readerDeviceId opens allRows)
      (fun row isRow => timelineRowUtcDay_rowItem (visited ▸ isRow) _ _)
      (timelineWindowForCount allRows.length options)
  rw [← partTimeline, ← wholeTimeline, ← partWindow] at annotated
  rw [← partWindow, ← annotated]
  constructor
  · intro slices
    obtain ⟨otherWhole, otherPart, isOtherWhole, isOtherPart, slice⟩ := slices
    obtain rfl := Option.some.inj (isWhole.symm.trans isOtherWhole)
    obtain rfl := Option.some.inj (isPart.symm.trans isOtherPart)
    exact slice.timeline
  · intro sameTimeline
    have wholeLength : whole.timeline.length = allRows.length := by
      rw [wholeTimeline, annotateTimelineRowGrouping, annotateFrom_length, List.length_map]
    refine ⟨whole, part, isWhole, isPart, partChannels.trans wholeChannels.symm,
      partCount.trans wholeCount.symm, ?_, sameTimeline⟩
    rw [wholeLength, partWindow]
    exact describesWindow_timelineWindowForCount allRows.length options

end Slices

/-! ## A gap before an invalid row

The rows are those of a message, of an event whose parent is missing and of an event whose
key is malformed, all of one day. -/

def malformedKeyEvent : SignedEvent :=
  { draftEvent "e4" "bob" (some "c") ["e2"] (.messageCreated ⟨"m2"⟩ "forged" []) with
    authorPublicKey := [1] }

def gappedHistory : List SignedEvent :=
  [draftEvent "e0" "root" none [] (.workspaceCreated "home"),
    draftEvent "e1" "root" (some "c") ["e0"] (.channelCreated ⟨"c"⟩ "talk" false),
    draftEvent "e2" "root" (some "c") ["e1"] (.messageCreated ⟨"m0"⟩ "hello" []),
    draftEvent "e3" "root" (some "c") ["lost"] (.messageCreated ⟨"m1"⟩ "again" []),
    malformedKeyEvent]

theorem gappedHistory_distinct : (gappedHistory.map SignedEvent.eventId).Nodup := by
  decide

def gappedReport : MaterializationReport where
  appliedEvents := [⟨"e0"⟩, ⟨"e1"⟩, ⟨"e2"⟩]
  gaps := [{ eventId := ⟨"e3"⟩, missingParentIds := [⟨"lost"⟩] }]

theorem gappedHistory_replayed :
    (new ⟨"w"⟩).applyBatch (verifiedEventsForSnapshot homePrimitives gappedHistory) =
      (.ok gappedReport,
        materialized (verifiedEventsForSnapshot homePrimitives gappedHistory)) :=
  Prod.ext (by decide +kernel) rfl

/-- The first page is the slice. -/
theorem windowedSnapshot_isSlice_iff_firstPage :
    let state := materialized (verifiedEventsForSnapshot homePrimitives gappedHistory)
    let invalidSignatures := invalidSignaturesForSnapshot homePrimitives gappedHistory
    let options : WorkspaceSnapshotOptions := ⟨some 0, some 2, some ⟨"c"⟩⟩
    let wanted :=
      state.bodyOverrideEventIdsForSnapshotWindow homePrimitives gappedReport gappedHistory ⟨"root"⟩
        options
    ∃ whole part,
      state.workspaceSnapshot ⟨"w"⟩ gappedReport gappedHistory (some ⟨"root"⟩)
          (state.openedBodies (fun _ => none) fun _ => true)
          (WorkspaceSnapshotOptions.whole options) invalidSignatures =
        some whole ∧
      state.workspaceSnapshot ⟨"w"⟩ gappedReport gappedHistory (some ⟨"root"⟩)
          (state.openedBodies (fun _ => none) fun eventId => decide (eventId ∈ wanted)) options
          invalidSignatures =
        some part ∧
      IsSliceOf options whole part := by
  refine (windowedSnapshot_isSlice_iff homePrimitives ⟨"w"⟩ gappedHistory gappedHistory_distinct
    gappedReport _ gappedHistory_replayed ⟨"root"⟩ (fun _ => none)
    ⟨some 0, some 2, some ⟨"c"⟩⟩).mpr ?_
  intro hides
  obtain ⟨gap, day, isLast, -⟩ := hides
  rw [timelineWindowForCount] at isLast
  simp at isLast

/-- The page of the last row is not: its day is shown as a new one. -/
theorem windowedSnapshot_not_isSlice :
    ¬ ∀ (primitives : Primitives) (workspaceId : WorkspaceId) (events : List SignedEvent),
      (events.map SignedEvent.eventId).Nodup →
        ∀ report state,
          (new workspaceId).applyBatch (verifiedEventsForSnapshot primitives events) =
              (.ok report, state) →
            ∀ (readerDeviceId : DeviceId) (opens : MessageView → Option String)
              (options : WorkspaceSnapshotOptions),
              ∃ whole part,
                state.workspaceSnapshot workspaceId report events (some readerDeviceId)
                    (state.openedBodies opens fun _ => true)
                    (WorkspaceSnapshotOptions.whole options)
                    (invalidSignaturesForSnapshot primitives events) =
                  some whole ∧
                state.workspaceSnapshot workspaceId report events (some readerDeviceId)
                    (state.openedBodies opens fun eventId =>
                      decide (eventId ∈ state.bodyOverrideEventIdsForSnapshotWindow primitives
                        report events readerDeviceId options))
                    options (invalidSignaturesForSnapshot primitives events) =
                  some part ∧
                IsSliceOf options whole part := by
  intro slices
  obtain ⟨whole, part, isWhole, isPart, slice⟩ :=
    slices homePrimitives ⟨"w"⟩ gappedHistory gappedHistory_distinct gappedReport _
      gappedHistory_replayed ⟨"root"⟩ (fun _ => none) ⟨some 2, some 1, some ⟨"c"⟩⟩
  have wholeDays :
      ((materialized (verifiedEventsForSnapshot homePrimitives gappedHistory)).workspaceSnapshot
          ⟨"w"⟩ gappedReport gappedHistory (some ⟨"root"⟩)
          ((materialized (verifiedEventsForSnapshot homePrimitives gappedHistory)).openedBodies
            (fun _ => none) fun _ => true)
          (WorkspaceSnapshotOptions.whole ⟨some 2, some 1, some ⟨"c"⟩⟩)
          (invalidSignaturesForSnapshot homePrimitives gappedHistory)).map
        (fun snapshot => snapshot.timeline.map TimelineItem.dayBoundary) =
      some [true, false, false] := by
    decide +kernel
  have partDays :
      ((materialized (verifiedEventsForSnapshot homePrimitives gappedHistory)).workspaceSnapshot
          ⟨"w"⟩ gappedReport gappedHistory (some ⟨"root"⟩)
          ((materialized (verifiedEventsForSnapshot homePrimitives gappedHistory)).openedBodies
            (fun _ => none) fun eventId =>
              decide (eventId ∈ (materialized (verifiedEventsForSnapshot homePrimitives
                gappedHistory)).bodyOverrideEventIdsForSnapshotWindow homePrimitives gappedReport
                gappedHistory ⟨"root"⟩ ⟨some 2, some 1, some ⟨"c"⟩⟩))
          ⟨some 2, some 1, some ⟨"c"⟩⟩
          (invalidSignaturesForSnapshot homePrimitives gappedHistory)).map
        (fun snapshot =>
          (snapshot.timelineWindow.startIndex, snapshot.timelineWindow.itemCount,
            snapshot.timeline.map TimelineItem.dayBoundary)) =
      some (2, 1, [true]) := by
    decide +kernel
  rw [isWhole, Option.map_some, Option.some.injEq] at wholeDays
  rw [isPart, Option.map_some, Option.some.injEq, Prod.mk.injEq, Prod.mk.injEq] at partDays
  obtain ⟨startsAt, holds, shown⟩ := partDays
  rw [slice.timeline, startsAt, holds, List.map_take, List.map_drop, wholeDays] at shown
  cases shown

end WorkspaceState

end Chaft

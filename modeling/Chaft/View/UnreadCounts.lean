import Chaft.Core.GrowingHistory
import Chaft.Core.StoredReferences
import Chaft.Library.Counting
import Chaft.View.Channels

/-!
# Unread messages of a growing history

A reader has read what stands up to the read-through event in the order of application,
and that order is recomputed on every load.  An event that arrives later counts as unread
if it is applied behind the read-through event.
-/

namespace Chaft

open Keyed Counting StableReplay

/-- An event creates a message in the channel, and another device wrote it. -/
def isMessageOfOthers
    (readerDeviceId : DeviceId) (channelId : ChannelId) (event : SignedEvent) : Bool :=
  decide (event.event.authorDeviceId ≠ readerDeviceId) &&
    (eventTimelineMessageId event.event.body).isSome &&
      decide (event.event.channelId = some channelId)

/-- The ID of such an event. -/
def countsAsMessage
    (events : List SignedEvent) (readerDeviceId : DeviceId) (channelId : ChannelId)
    (eventId : EventId) : Bool :=
  (eventsById events)[eventId]?.any (isMessageOfOthers readerDeviceId channelId)

namespace WorkspaceState

/-- The event up to which the reader has read a channel. -/
def readThroughEventId
    (state : WorkspaceState) (readerDeviceId : DeviceId) (channelId : ChannelId) :
    Option EventId :=
  state.readMarkers[readerDeviceId]?.bind fun channels => channels[channelId]?

/-- The number of applied events up to the read-through event. -/
def readLength
    (state : WorkspaceState) (report : MaterializationReport) (readerDeviceId : DeviceId)
    (channelId : ChannelId) : Nat :=
  (state.markerIndex report readerDeviceId channelId).elim 0 (· + 1)

/-! ## What the projection counts -/

section Projection

variable {state : WorkspaceState} (report : MaterializationReport)
  {readerDeviceId : DeviceId} {channelId : ChannelId}

/-- An event counts in an accessible channel if it is a message of another device
behind the read-through event. -/
theorem unreadChannelId_eq_some_iff
    (accessible : state.channelAccessibleTo channelId readerDeviceId = true)
    (index : Nat) (event : SignedEvent) :
    state.unreadChannelId report readerDeviceId index event = some channelId ↔
      isMessageOfOthers readerDeviceId channelId event = true ∧
        state.readLength report readerDeviceId channelId ≤ index := by
  have behind :
      (state.markerIndex report readerDeviceId channelId).all (fun readIndex => readIndex < index)
          = true ↔
        state.readLength report readerDeviceId channelId ≤ index := by
    unfold readLength
    cases state.markerIndex report readerDeviceId channelId with
    | none => simp
    | some readIndex => simp [Nat.succ_le_iff]
  unfold unreadChannelId isMessageOfOthers
  by_cases own : event.event.authorDeviceId = readerDeviceId
  · simp [own]
  · cases eventTimelineMessageId event.event.body with
    | none => simp
    | some messageId =>
        simp only [own, Option.isNone_some, Bool.false_eq_true, or_self, if_false, ne_eq,
          not_false_eq_true, decide_true, Option.isSome_some, Bool.and_self, Bool.true_and,
          decide_eq_true_eq, Option.filter_eq_some_iff, Bool.and_eq_true]
        constructor
        · rintro ⟨inChannel, -, isBehind⟩
          exact ⟨inChannel, behind.mp isBehind⟩
        · rintro ⟨inChannel, isBehind⟩
          exact ⟨inChannel, accessible, behind.mpr isBehind⟩

theorem saturatingAdd_toNat (left right : UInt32) :
    (saturatingAdd left right).toNat = min (left.toNat + right.toNat) (UInt32.size - 1) := by
  have width : UInt32.size = 2 ^ 32 := rfl
  rw [saturatingAdd, UInt32.toNat_ofNat']
  exact Nat.mod_eq_of_lt (by omega)

/-- One event counts at most once. -/
private theorem projectEvent_unreadCounts
    (accessible : state.channelAccessibleTo channelId readerDeviceId = true)
    (bodyOverrides : BodyOverrides) (projection : ChannelProjection) (index : Nat)
    (event : SignedEvent) :
    ((state.projectEvent report (some readerDeviceId) bodyOverrides projection index
        event).unreadCounts.getD channelId 0).toNat =
      min ((projection.unreadCounts.getD channelId 0).toNat +
          (if isMessageOfOthers readerDeviceId channelId event &&
              decide (state.readLength report readerDeviceId channelId ≤ index) then 1 else 0))
        (UInt32.size - 1) := by
  have decided := unreadChannelId_eq_some_iff report accessible index event
  have bound := (projection.unreadCounts.getD channelId 0).toNat_lt_size
  unfold projectEvent
  rw [Option.bind_some]
  cases counted : state.unreadChannelId report readerDeviceId index event with
  | none =>
      have never :
          ¬ (isMessageOfOthers readerDeviceId channelId event = true ∧
            state.readLength report readerDeviceId channelId ≤ index) := by
        rw [← decided, counted]
        simp
      rw [if_neg (by simpa using never)]
      dsimp only
      omega
  | some other =>
      dsimp only
      rw [Std.ExtTreeMap.getD_insert]
      by_cases same : other = channelId
      · have counts := decided.mp (by rw [counted, same])
        rw [if_pos (Std.LawfulEqCmp.compare_eq_iff_eq.mpr same), if_pos (by simpa using counts),
          saturatingAdd_toNat, same]
        rfl
      · have never :
            ¬ (isMessageOfOthers readerDeviceId channelId event = true ∧
              state.readLength report readerDeviceId channelId ≤ index) := by
          rw [← decided, counted, Option.some.injEq]
          exact same
        rw [if_neg (fun equal => same (Std.LawfulEqCmp.compare_eq_iff_eq.mp equal)),
          if_neg (by simpa using never)]
        omega

private theorem foldl_projectApplied_unreadCounts
    (accessible : state.channelAccessibleTo channelId readerDeviceId = true)
    (events : List SignedEvent) (bodyOverrides : BodyOverrides)
    (indexed : List (EventId × Nat)) (projection : ChannelProjection) :
    ((indexed.foldl
        (state.projectApplied report (eventsById events) (some readerDeviceId) bodyOverrides)
        projection).unreadCounts.getD channelId 0).toNat =
      min ((projection.unreadCounts.getD channelId 0).toNat +
          indexed.countP fun (eventId, index) =>
            countsAsMessage events readerDeviceId channelId eventId &&
              decide (state.readLength report readerDeviceId channelId ≤ index))
        (UInt32.size - 1) := by
  induction indexed generalizing projection with
  | nil =>
      have bound := (projection.unreadCounts.getD channelId 0).toNat_lt_size
      rw [List.foldl_nil, List.countP_nil]
      omega
  | cons pair rest inductionHypothesis =>
      obtain ⟨eventId, index⟩ := pair
      rw [List.foldl_cons, inductionHypothesis, List.countP_cons, projectApplied]
      cases found : (eventsById events)[eventId]? with
      | none =>
          have counts : countsAsMessage events readerDeviceId channelId eventId = false := by
            rw [countsAsMessage, found, Option.any_none]
          simp only [counts, Bool.false_and, Bool.false_eq_true, if_false, Nat.add_zero]
      | some event =>
          have counts :
              countsAsMessage events readerDeviceId channelId eventId =
                isMessageOfOthers readerDeviceId channelId event := by
            rw [countsAsMessage, found, Option.any_some]
          simp only [counts]
          rw [projectEvent_unreadCounts report accessible]
          split <;> omega

/-- The count saturates at the limit of 32 bits. -/
theorem unreadCounts_toNat
    (accessible : state.channelAccessibleTo channelId readerDeviceId = true)
    (events : List SignedEvent) (bodyOverrides : BodyOverrides) :
    ((state.channelProjectionByChannel report (eventsById events) (some readerDeviceId)
        bodyOverrides).unreadCounts.getD channelId 0).toNat =
      min
        ((report.appliedEvents.drop
            (state.readLength report readerDeviceId channelId)).countP
          (countsAsMessage events readerDeviceId channelId))
        (UInt32.size - 1) := by
  have empty : ((∅ : HashMap ChannelId UInt32).getD channelId 0).toNat = 0 := by
    simp [Std.ExtTreeMap.getD_eq_getD_getElem?]
  rw [channelProjectionByChannel, foldl_projectApplied_unreadCounts report accessible,
    countP_zipIdx_from, empty, Nat.zero_add, Nat.sub_zero]

/-- The row of a channel shows its count, and only for an accessible channel. -/
theorem unreadCount_of_row
    {events : List SignedEvent} {bodyOverrides : BodyOverrides} {row : ChannelSnapshot}
    (shown :
      row ∈ state.channelSnapshotsFromStateReport report (eventsById events)
        (some readerDeviceId) bodyOverrides)
    (ofChannel : row.channelId = channelId.text) :
    state.channelAccessibleTo channelId readerDeviceId = true ∧
      row.unreadCount =
        (state.channelProjectionByChannel report (eventsById events) (some readerDeviceId)
          bodyOverrides).unreadCounts.getD channelId 0 := by
  unfold channelSnapshotsFromStateReport sortChannelSnapshots at shown
  rw [List.mem_insertionSort, List.mem_map] at shown
  obtain ⟨channel, listed, rfl⟩ := shown
  obtain ⟨-, accessible⟩ := List.mem_filter.mp listed
  have same : channel.channelId = channelId := Identifier.text_injective ofChannel
  rw [shownTo, Option.all_some, same] at accessible
  refine ⟨accessible, ?_⟩
  unfold channelSnapshot
  rw [same]

end Projection

/-! ## Materializing again -/

/-- The messages of other devices up to the read-through event. -/
def readMessages
    (state : WorkspaceState) (report : MaterializationReport) (events : List SignedEvent)
    (readerDeviceId : DeviceId) (channelId : ChannelId) : Nat :=
  (report.appliedEvents.take (state.readLength report readerDeviceId channelId)).countP
    (countsAsMessage events readerDeviceId channelId)

/-- The messages of other devices that the first report applies and the second does not. -/
def messagesMissing
    (report other : MaterializationReport) (events : List SignedEvent)
    (readerDeviceId : DeviceId) (channelId : ChannelId) : Nat :=
  (apart report.appliedEvents other.appliedEvents).countP
    (countsAsMessage events readerDeviceId channelId)

/-- The added events dispute no further channel, and the rounds that apply the stored
events apply no added event before the last of them. -/
def AppliesFirst
    (workspaceId : WorkspaceId) (stored added : List SignedEvent)
    (report : MaterializationReport) : Prop :=
  conflictingChannelIds (stored ++ added) = conflictingChannelIds stored ∧
    ∃ count part begun, roundsOf workspaceId (stored ++ added) count = .ok part ∧
      (∀ event ∈ part.advanced, event ∉ added) ∧
        roundsOf workspaceId stored (count + 1) = .ok begun ∧
          begun.advanced.map SignedEvent.eventId = report.appliedEvents

section Growing

variable {workspaceId : WorkspaceId} {stored added : List SignedEvent}
  {report longer : MaterializationReport} {state grown : WorkspaceState}
  {readerDeviceId : DeviceId} {channelId : ChannelId}

theorem AppliesFirst.isPrefix
    (appliesFirst : AppliesFirst workspaceId stored added report)
    (first : (new workspaceId).applyBatch stored = (.ok report, state))
    (second : (new workspaceId).applyBatch (stored ++ added) = (.ok longer, grown)) :
    report.appliedEvents.IsPrefix longer.appliedEvents := by
  obtain ⟨sameConflicts, count, part, begun, waited, waiting, early, whole⟩ := appliesFirst
  obtain ⟨again, earlyAgain, -, isPrefix⟩ :=
    roundsOf_isPrefix sameConflicts first second waited waiting
  rw [early, Except.ok.injEq] at earlyAgain
  rw [← whole, earlyAgain]
  exact isPrefix

theorem appliedEvents_nodup
    {events : List SignedEvent}
    (accepted : (new workspaceId).applyBatch events = (.ok report, state)) :
    report.appliedEvents.Nodup := by
  obtain ⟨-, scan, scanned, rfl, -⟩ := replay_of_applyBatch accepted
  exact (appliedAlong_of_advances (replay_advances scanned)).noRepeats

theorem exists_event_of_applied
    {events : List SignedEvent}
    (accepted : (new workspaceId).applyBatch events = (.ok report, state))
    {eventId : EventId} (isApplied : eventId ∈ report.appliedEvents) :
    ∃ event ∈ events, event.eventId = eventId := by
  obtain ⟨applied, drawn, listed, -⟩ := applied_of_applyBatch accepted
  rw [← listed] at isApplied
  obtain ⟨event, member, same⟩ := List.mem_map.mp isApplied
  exact ⟨event, drawn member, same⟩

/-- A read-through event is applied. -/
theorem readThrough_applied
    {events : List SignedEvent}
    (accepted : (new workspaceId).applyBatch events = (.ok report, state))
    {eventId : EventId}
    (marked : state.readThroughEventId readerDeviceId channelId = some eventId) :
    eventId ∈ report.appliedEvents := by
  obtain ⟨applied, drawn, listed, replayed⟩ := applied_of_applyBatch accepted
  have reached := Reachable.applyBatch .new accepted drawn listed replayed
  obtain ⟨channels, ofReader, inChannel⟩ := Option.bind_eq_some_iff.mp marked
  have isApplied :=
    reached.markersApplied.readMarkers readerDeviceId channels ofReader channelId eventId inChannel
  rw [reached.ledger.mem_appliedEventIds, List.nil_append, listed] at isApplied
  exact isApplied

theorem appliedIndex_eq_some_iff
    (nodup : report.appliedEvents.Nodup) (eventId : EventId) (index : Nat) :
    (appliedIndexByEventId report)[eventId]? = some index ↔
      report.appliedEvents[index]? = some eventId := by
  unfold appliedIndexByEventId
  have keysApart :
      report.appliedEvents.zipIdx.Pairwise fun left right => left.1 ≠ right.1 := by
    rw [← List.pairwise_map, List.zipIdx_map_fst]
    exact nodup
  constructor
  · intro found
    rcases getElem?_tableOf found with ⟨⟨other, place⟩, member, rfl, rfl⟩ | ⟨-, absent⟩
    · exact List.mem_zipIdx_iff_getElem?.mp member
    · simp at absent
  · intro standing
    have member : (eventId, index) ∈ report.appliedEvents.zipIdx :=
      List.mem_zipIdx_iff_getElem?.mpr standing
    exact getElem?_tableOf_of_mem keysApart member ∅

theorem markerIndex_eq_bind (state : WorkspaceState) (report : MaterializationReport) :
    state.markerIndex report readerDeviceId channelId =
      (state.readThroughEventId readerDeviceId channelId).bind fun eventId =>
        (appliedIndexByEventId report)[eventId]? := by
  unfold markerIndex readThroughEventId
  cases state.readMarkers[readerDeviceId]? with
  | none => rfl
  | some channels => rfl

/-- The read-through event keeps its place in an order that begins the same way. -/
theorem readLength_of_prefix
    (first : (new workspaceId).applyBatch stored = (.ok report, state))
    (second : (new workspaceId).applyBatch (stored ++ added) = (.ok longer, grown))
    (isPrefix : report.appliedEvents.IsPrefix longer.appliedEvents)
    (sameMarker :
      grown.readThroughEventId readerDeviceId channelId =
        state.readThroughEventId readerDeviceId channelId) :
    grown.readLength longer readerDeviceId channelId =
        state.readLength report readerDeviceId channelId ∧
      state.readLength report readerDeviceId channelId ≤ report.appliedEvents.length := by
  unfold readLength
  rw [markerIndex_eq_bind, markerIndex_eq_bind, sameMarker]
  cases marked : state.readThroughEventId readerDeviceId channelId with
  | none => exact ⟨rfl, Nat.zero_le _⟩
  | some eventId =>
      obtain ⟨index, standing⟩ := List.mem_iff_getElem?.mp (readThrough_applied first marked)
      have below : index < report.appliedEvents.length := by
        rw [List.getElem?_eq_some_iff] at standing
        exact standing.1
      have standingLater : longer.appliedEvents[index]? = some eventId := by
        obtain ⟨rest, whole⟩ := isPrefix
        rw [← whole, List.getElem?_append_left below]
        exact standing
      rw [Option.bind_some, Option.bind_some,
        (appliedIndex_eq_some_iff (appliedEvents_nodup first) _ _).mpr standing,
        (appliedIndex_eq_some_iff (appliedEvents_nodup second) _ _).mpr standingLater]
      exact ⟨rfl, below⟩

/-- Both tables know the stored events. -/
theorem countsAsMessage_of_applied
    (distinct : ((stored ++ added).map SignedEvent.eventId).Nodup)
    (first : (new workspaceId).applyBatch stored = (.ok report, state))
    {eventId : EventId} (isApplied : eventId ∈ report.appliedEvents) :
    countsAsMessage stored readerDeviceId channelId eventId =
      countsAsMessage (stored ++ added) readerDeviceId channelId eventId := by
  obtain ⟨event, member, rfl⟩ := exists_event_of_applied first isApplied
  have storedDistinct : (stored.map SignedEvent.eventId).Nodup := by
    rw [List.map_append] at distinct
    exact (List.nodup_append.mp distinct).1
  unfold countsAsMessage
  rw [getElem?_eventsById storedDistinct member,
    getElem?_eventsById distinct (List.mem_append_left added member)]

/-- Counts of unread messages grow by the messages that arrive, exactly when as many
messages as before are read or no longer applied, and always when the stored events are
applied first. -/
theorem newlyArrived_unread_iff
    (workspaceId : WorkspaceId) (stored added : List SignedEvent)
    (distinct : ((stored ++ added).map SignedEvent.eventId).Nodup)
    (report longer : MaterializationReport) (state grown : WorkspaceState)
    (first : (new workspaceId).applyBatch stored = (.ok report, state))
    (second : (new workspaceId).applyBatch (stored ++ added) = (.ok longer, grown))
    (readerDeviceId : DeviceId) (channelId : ChannelId)
    (sameMarker :
      grown.readThroughEventId readerDeviceId channelId =
        state.readThroughEventId readerDeviceId channelId)
    (bodyOverrides laterOverrides : BodyOverrides) (row laterRow : ChannelSnapshot)
    (shown :
      row ∈ state.channelSnapshotsFromStateReport report (eventsById stored)
        (some readerDeviceId) bodyOverrides)
    (shownLater :
      laterRow ∈ grown.channelSnapshotsFromStateReport longer (eventsById (stored ++ added))
        (some readerDeviceId) laterOverrides)
    (ofChannel : row.channelId = channelId.text)
    (laterOfChannel : laterRow.channelId = channelId.text)
    (below : row.unreadCount.toNat < UInt32.size - 1)
    (laterBelow : laterRow.unreadCount.toNat < UInt32.size - 1) :
    (laterRow.unreadCount.toNat =
        row.unreadCount.toNat +
          messagesMissing longer report (stored ++ added) readerDeviceId channelId ↔
      grown.readMessages longer (stored ++ added) readerDeviceId channelId +
          messagesMissing report longer (stored ++ added) readerDeviceId channelId =
        state.readMessages report (stored ++ added) readerDeviceId channelId) ∧
      (AppliesFirst workspaceId stored added report →
        laterRow.unreadCount.toNat =
          row.unreadCount.toNat +
            messagesMissing longer report (stored ++ added) readerDeviceId channelId) := by
  obtain ⟨accessible, unread⟩ := unreadCount_of_row report shown ofChannel
  obtain ⟨laterAccessible, laterUnread⟩ := unreadCount_of_row longer shownLater laterOfChannel
  have counts := unreadCounts_toNat report accessible stored bodyOverrides
  have laterCounts :=
    unreadCounts_toNat longer laterAccessible (stored ++ added) laterOverrides
  rw [← unread] at counts
  rw [← laterUnread] at laterCounts
  -- the rows count what is not read
  have sameCounts :
      (report.appliedEvents.drop (state.readLength report readerDeviceId channelId)).countP
          (countsAsMessage stored readerDeviceId channelId) =
        (report.appliedEvents.drop (state.readLength report readerDeviceId channelId)).countP
          (countsAsMessage (stored ++ added) readerDeviceId channelId) := by
    refine List.countP_congr fun eventId member => ?_
    rw [countsAsMessage_of_applied distinct first (List.mem_of_mem_drop member)]
  rw [sameCounts] at counts
  have split := fun (length : Nat) (ids : List EventId) =>
    (congrArg (List.countP (countsAsMessage (stored ++ added) readerDeviceId channelId))
      (List.take_append_drop length ids)).symm.trans List.countP_append
  have storedSplit :=
    split (state.readLength report readerDeviceId channelId) report.appliedEvents
  have grownSplit :=
    split (grown.readLength longer readerDeviceId channelId) longer.appliedEvents
  have storedParts :=
    countP_common_add_apart (countsAsMessage (stored ++ added) readerDeviceId channelId)
      report.appliedEvents longer.appliedEvents
  have grownParts :=
    countP_common_add_apart (countsAsMessage (stored ++ added) readerDeviceId channelId)
      longer.appliedEvents report.appliedEvents
  have shared :=
    countP_common_comm (appliedEvents_nodup first) (appliedEvents_nodup second)
      (countsAsMessage (stored ++ added) readerDeviceId channelId)
  have exact_iff :
      laterRow.unreadCount.toNat =
          row.unreadCount.toNat +
            messagesMissing longer report (stored ++ added) readerDeviceId channelId ↔
        grown.readMessages longer (stored ++ added) readerDeviceId channelId +
            messagesMissing report longer (stored ++ added) readerDeviceId channelId =
          state.readMessages report (stored ++ added) readerDeviceId channelId := by
    unfold readMessages messagesMissing
    omega
  refine ⟨exact_iff, fun appliesFirst => exact_iff.mpr ?_⟩
  have isPrefix := appliesFirst.isPrefix first second
  obtain ⟨sameLength, within⟩ := readLength_of_prefix first second isPrefix sameMarker
  obtain ⟨rest, whole⟩ := isPrefix
  unfold readMessages messagesMissing
  rw [sameLength, apart_of_prefix ⟨rest, whole⟩, List.countP_nil, Nat.add_zero, ← whole,
    List.take_append_of_le_length within]

end Growing

/-! ## A message before the read-through event

In the waiting history a message waits for an event that is stored behind it, and is read
in the second round.  A message that arrives later and waits for nothing is applied in the
first.  In the settled history no event waits. -/

def readHistory (waits : Bool) : List SignedEvent :=
  let oldMessage := draftEvent "e4" "bob" (some "c") ["e3"] (.messageCreated ⟨"m0"⟩ "old" [])
  let profile := draftEvent "e3" "root" none ["e2"] (.deviceProfileUpdated "root" "")
  [draftEvent "e0" "root" none [] (.workspaceCreated "home"),
      draftEvent "e1" "root" none ["e0"] (.memberInvited ⟨"bob"⟩ .member),
      draftEvent "e2" "root" (some "c") ["e1"] (.channelCreated ⟨"c"⟩ "talk" false)] ++
    (if waits then [oldMessage, profile] else [profile, oldMessage]) ++
      [draftEvent "e5" "root" (some "c") ["e4"] (.readMarkerUpdated ⟨"c"⟩ ⟨"e4"⟩)]

def newMessage : SignedEvent :=
  draftEvent "e6" "bob" (some "c") ["e2"] (.messageCreated ⟨"m1"⟩ "new" [])

def readOrder : MaterializationReport :=
  ⟨[⟨"e0"⟩, ⟨"e1"⟩, ⟨"e2"⟩, ⟨"e3"⟩, ⟨"e4"⟩, ⟨"e5"⟩], []⟩

/-- The order of application with the new message. -/
def longerOrder (waits : Bool) : MaterializationReport :=
  if waits then
    ⟨[⟨"e0"⟩, ⟨"e1"⟩, ⟨"e2"⟩, ⟨"e3"⟩, ⟨"e6"⟩, ⟨"e4"⟩, ⟨"e5"⟩], []⟩
  else
    ⟨[⟨"e0"⟩, ⟨"e1"⟩, ⟨"e2"⟩, ⟨"e3"⟩, ⟨"e4"⟩, ⟨"e5"⟩, ⟨"e6"⟩], []⟩

theorem readHistory_distinct (waits : Bool) :
    ((readHistory waits ++ [newMessage]).map SignedEvent.eventId).Nodup := by
  revert waits
  decide

/-- The row of the channel, with its latest message. -/
def talkRow (unreadCount : UInt32) (eventId messageId preview : String) : ChannelSnapshot where
  channelId := "c"
  name := "talk"
  topic := ""
  archived := false
  isPrivate := false
  memberCount := 2
  memberDeviceIds := []
  directMessage := false
  directMessageParticipantDeviceIds := []
  localContentReady := true
  accessState := "ready"
  unreadCount := unreadCount
  latestActivity :=
    some
      { eventId := eventId
        messageId := some messageId
        authorDeviceId := "bob"
        authorDisplayName := none
        authorAvatarId := ""
        physicalMs := 0
        preview := preview }

def laterRow (waits : Bool) : ChannelSnapshot :=
  if waits then talkRow 0 "e4" "m0" "old" else talkRow 1 "e6" "m1" "new"

/-- What the two replays of a history give, evaluated at once. -/
private theorem readHistory_facts (waits : Bool) :
    (((new ⟨"w"⟩).applyBatch (readHistory waits)).1 = .ok readOrder ∧
      ((new ⟨"w"⟩).applyBatch (readHistory waits ++ [newMessage])).1 =
        .ok (longerOrder waits)) ∧
      (materialized (readHistory waits ++ [newMessage])).readThroughEventId ⟨"root"⟩ ⟨"c"⟩ =
        (materialized (readHistory waits)).readThroughEventId ⟨"root"⟩ ⟨"c"⟩ ∧
      talkRow 0 "e4" "m0" "old" ∈
          (materialized (readHistory waits)).channelSnapshotsFromStateReport readOrder
            (eventsById (readHistory waits)) (some ⟨"root"⟩) ∅ ∧
        laterRow waits ∈
          (materialized (readHistory waits ++ [newMessage])).channelSnapshotsFromStateReport
            (longerOrder waits) (eventsById (readHistory waits ++ [newMessage]))
            (some ⟨"root"⟩) ∅ := by
  revert waits
  decide +kernel

theorem readHistory_orders (waits : Bool) :
    ((new ⟨"w"⟩).applyBatch (readHistory waits)).1 = .ok readOrder ∧
      ((new ⟨"w"⟩).applyBatch (readHistory waits ++ [newMessage])).1 =
        .ok (longerOrder waits) :=
  (readHistory_facts waits).1

theorem sameMarker_readHistory (waits : Bool) :
    (materialized (readHistory waits ++ [newMessage])).readThroughEventId ⟨"root"⟩ ⟨"c"⟩ =
      (materialized (readHistory waits)).readThroughEventId ⟨"root"⟩ ⟨"c"⟩ :=
  (readHistory_facts waits).2.1

theorem talkRow_shown (waits : Bool) :
    talkRow 0 "e4" "m0" "old" ∈
        (materialized (readHistory waits)).channelSnapshotsFromStateReport readOrder
          (eventsById (readHistory waits)) (some ⟨"root"⟩) ∅ ∧
      laterRow waits ∈
        (materialized (readHistory waits ++ [newMessage])).channelSnapshotsFromStateReport
          (longerOrder waits) (eventsById (readHistory waits ++ [newMessage]))
          (some ⟨"root"⟩) ∅ :=
  (readHistory_facts waits).2.2

theorem readHistory_appliesFirst :
    AppliesFirst ⟨"w"⟩ (readHistory false) [newMessage] readOrder := by
  have inOneRound :
      (roundsOf ⟨"w"⟩ (readHistory false) 1).map
          (fun begun => begun.advanced.map SignedEvent.eventId) =
        .ok readOrder.appliedEvents := by
    decide +kernel
  refine ⟨by decide +kernel, 0, ⟨new ⟨"w"⟩, readHistory false ++ [newMessage], []⟩, ?_⟩
  cases early : roundsOf ⟨"w"⟩ (readHistory false) 1 with
  | error raised => simp [early, Except.map] at inOneRound
  | ok begun =>
      simp only [early, Except.map, Except.ok.injEq] at inOneRound
      exact ⟨begun, rfl, fun _ member => absurd member List.not_mem_nil, rfl, inOneRound⟩

/-- In the settled history the new message is unread. -/
theorem newlyArrived_unread_iff_settled :
    (laterRow false).unreadCount.toNat =
      (talkRow 0 "e4" "m0" "old").unreadCount.toNat +
        messagesMissing (longerOrder false) readOrder (readHistory false ++ [newMessage])
          ⟨"root"⟩ ⟨"c"⟩ :=
  (newlyArrived_unread_iff ⟨"w"⟩ (readHistory false) [newMessage] (readHistory_distinct false)
    readOrder (longerOrder false) _ _ (Prod.ext (readHistory_orders false).1 rfl)
    (Prod.ext (readHistory_orders false).2 rfl) ⟨"root"⟩ ⟨"c"⟩ (sameMarker_readHistory false)
    ∅ ∅ (talkRow 0 "e4" "m0" "old") (laterRow false) (talkRow_shown false).1
    (talkRow_shown false).2 rfl rfl (by decide) (by decide)).2 readHistory_appliesFirst

/-- In the waiting history it is not. -/
theorem not_newlyArrived_unread :
    ¬ ∀ (workspaceId : WorkspaceId) (stored added : List SignedEvent),
      ((stored ++ added).map SignedEvent.eventId).Nodup →
        ∀ report longer state grown,
          (new workspaceId).applyBatch stored = (.ok report, state) →
            (new workspaceId).applyBatch (stored ++ added) = (.ok longer, grown) →
              ∀ readerDeviceId channelId,
                grown.readThroughEventId readerDeviceId channelId =
                    state.readThroughEventId readerDeviceId channelId →
                  ∀ row ∈ state.channelSnapshotsFromStateReport report (eventsById stored)
                      (some readerDeviceId) ∅,
                    ∀ later ∈ grown.channelSnapshotsFromStateReport longer
                        (eventsById (stored ++ added)) (some readerDeviceId) ∅,
                      row.channelId = channelId.text → later.channelId = channelId.text →
                        row.unreadCount.toNat < UInt32.size - 1 →
                        later.unreadCount.toNat < UInt32.size - 1 →
                        later.unreadCount.toNat =
                          row.unreadCount.toNat +
                            messagesMissing longer report (stored ++ added) readerDeviceId
                              channelId := by
  intro counted
  have grows :=
    counted ⟨"w"⟩ (readHistory true) [newMessage] (readHistory_distinct true) readOrder
      (longerOrder true) _ _ (Prod.ext (readHistory_orders true).1 rfl)
      (Prod.ext (readHistory_orders true).2 rfl) ⟨"root"⟩ ⟨"c"⟩ (sameMarker_readHistory true)
      _ (talkRow_shown true).1 _ (talkRow_shown true).2 rfl rfl (by decide) (by decide)
  revert grows
  decide +kernel

end WorkspaceState

end Chaft

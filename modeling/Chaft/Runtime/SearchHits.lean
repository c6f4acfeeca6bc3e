import Chaft.Core.CurrentMessages
import Chaft.Runtime.UnopenableBodies
import Chaft.Runtime.WorkspaceSearch

/-!
# Hits and the present state

Rows come into the index from messages of earlier states, and events arrive in between.  A
search does not look whether the message of a row is still there as the row tells.
-/

namespace Chaft

open Keyed Outcome

/-! ## The writes of the runtime -/

inductive IndexWrite where
  | indexMessage (row : SearchRow)
  | removeMessage (workspaceId : WorkspaceId) (messageId : MessageId)
  | clearWorkspace (workspaceId : WorkspaceId)
  deriving DecidableEq

def IndexWrite.perform (index : SearchIndex) : IndexWrite → SearchIndex
  | .indexMessage row => index.indexMessage row
  | .removeMessage workspaceId messageId => index.removeMessage workspaceId messageId
  | .clearWorkspace workspaceId => index.clearWorkspace workspaceId

/-- The row of a message that was just created. -/
def createdRow
    (event : SignedEvent) (messageId : MessageId) (channelId : ChannelId) (markdown : String) :
    SearchRow where
  eventId := event.eventId
  messageId := messageId
  workspaceId := event.event.workspaceId
  channelId := channelId
  physicalMs := event.event.timestamp.physicalMs
  markdown := markdown

def messageViewFromState
    (state : WorkspaceState) (workspaceId : WorkspaceId) (messageId : MessageId) :
    Except RuntimeError MessageView := do
  validateMessageIdReference messageId
  okOr state.messages[messageId]? (.messageNotFound workspaceId messageId)

/-- The row of an edited message, from the context that the edit is made in. -/
def editedRow
    (context : WorkspaceWriteContext) (workspaceId : WorkspaceId) (messageId : MessageId)
    (markdown : String) : Except RuntimeError SearchRow := do
  let message ← messageViewFromState context.state workspaceId messageId
  let indexedEvent := context.events.find? fun event =>
    decide (event.eventId = message.authorEventId)
  .ok
    { eventId := message.authorEventId
      messageId := messageId
      workspaceId := workspaceId
      channelId := message.channelId
      physicalMs := (indexedEvent.map fun event => event.event.timestamp.physicalMs).getD 0
      markdown := markdown }

namespace LocalRuntime

variable (libraries : ReadingLibraries) (runtime : LocalRuntime) (reading : ReadingState)
  (workspaceId : WorkspaceId)

/-- The rows that a rebuild comes to, until a body cannot be opened. -/
def indexedRows
    (state : WorkspaceState) (workspaceKey : Option KeyRing)
    (table : HashMap EventId SignedEvent) : List MessageView → List SearchRow
  | [] => []
  | message :: rest =>
      match runtime.searchableMarkdown libraries reading workspaceId state workspaceKey
          message with
      | .error _ => []
      | .ok markdown =>
          (markdown.bind (searchRow workspaceId table message)).toList ++
            indexedRows state workspaceKey table rest

/-- The writes of a rebuild; there are none if the events cannot be materialized. -/
def rebuildWrites (workspaceKey : Option KeyRing) : List IndexWrite :=
  let events := materializedEvents libraries reading workspaceId
  match (WorkspaceState.new workspaceId).applyBatch events with
  | (.error _, _) => []
  | (.ok _, state) =>
      .clearWorkspace workspaceId ::
        (runtime.indexedRows libraries reading workspaceId state workspaceKey
          (eventsById events) (listedValues state.messages)).map .indexMessage

theorem indexMessages_eq
    {state : WorkspaceState} {workspaceKey : Option KeyRing}
    {table : HashMap EventId SignedEvent} (messages : List MessageView) (indexed : Nat)
    (index : SearchIndex) :
    (runtime.indexMessages libraries reading workspaceId state workspaceKey table messages
        indexed index).2 =
      (runtime.indexedRows libraries reading workspaceId state workspaceKey table
        messages).foldl SearchIndex.indexMessage index := by
  induction messages generalizing indexed index with
  | nil => rfl
  | cons message rest inductionHypothesis =>
      rw [indexMessages, indexedRows]
      cases runtime.searchableMarkdown libraries reading workspaceId state workspaceKey
          message with
      | error raised => rfl
      | ok markdown =>
          dsimp only
          cases markdown.bind (searchRow workspaceId table message) with
          | none => exact inductionHypothesis indexed index
          | some row => exact inductionHypothesis (indexed + 1) (index.indexMessage row)

/-- A rebuild without anything in between performs its writes. -/
theorem reindexWorkspaceSearchWithKey_eq (workspaceKey : Option KeyRing) (index : SearchIndex) :
    (runtime.reindexWorkspaceSearchWithKey libraries reading workspaceId workspaceKey index).2 =
      (runtime.rebuildWrites libraries reading workspaceId workspaceKey).foldl
        IndexWrite.perform index := by
  rw [reindexWorkspaceSearchWithKey, rebuildWrites]
  dsimp only
  cases (WorkspaceState.new workspaceId).applyBatch
      (materializedEvents libraries reading workspaceId) with
  | mk result state =>
      cases result with
      | error raised => rfl
      | ok report =>
          dsimp only
          rw [indexMessages_eq, List.foldl_cons, List.foldl_map]
          rfl

end LocalRuntime

/-! ## Runs -/

/-- The events that were appended so far, the index, and the writes that are still to come. -/
structure SearchWorld where
  arrived : List SignedEvent
  index : SearchIndex
  pending : List (List IndexWrite)

section Runs

variable (libraries : ReadingLibraries) (runtime : LocalRuntime)

def SearchWorld.store (world : SearchWorld) : EventStore :=
  EventStore.empty.after libraries.primitives libraries.eventJson world.arrived

/-- What an operation of the runtime is about to write, in the state in which it starts. -/
inductive StartsIndexing (world : SearchWorld) : List IndexWrite → Prop
  | created {event : SignedEvent} {messageId : MessageId} {channelId : ChannelId}
      (stored : event ∈ world.arrived)
      (creates :
        WorkspaceAccessIndex.createdMessageId event.event.body = some messageId)
      (inChannel : event.event.channelId = some channelId) (markdown : String) :
      StartsIndexing world [.indexMessage (createdRow event messageId channelId markdown)]
  | edited {workspaceId : WorkspaceId} {context : WorkspaceWriteContext} {row : SearchRow}
      {messageId : MessageId} {markdown : String}
      (made :
        workspaceWriteContext libraries.primitives libraries.eventJson
          (world.store libraries) workspaceId = .ok context)
      (isRow : editedRow context workspaceId messageId markdown = .ok row) :
      StartsIndexing world [.indexMessage row]
  | deleted (workspaceId : WorkspaceId) (messageId : MessageId) :
      StartsIndexing world [.removeMessage workspaceId messageId]
  | rebuilt {reading : ReadingState} (present : reading.store = world.store libraries)
      (workspaceId : WorkspaceId) (workspaceKey : Option KeyRing) :
      StartsIndexing world
        (runtime.rebuildWrites libraries reading workspaceId workspaceKey)

/-- An event arrives, an operation starts, or one that started comes to its next write.  An
operation that fails comes to no further write. -/
inductive SearchStep : SearchWorld → SearchWorld → Prop
  | arrive (world : SearchWorld) (event : SignedEvent)
      (appended : isAppended libraries.primitives libraries.eventJson event = true) :
      SearchStep world { world with arrived := world.arrived ++ [event] }
  | start (world : SearchWorld) {writes : List IndexWrite}
      (starts : StartsIndexing libraries runtime world writes) :
      SearchStep world { world with pending := world.pending ++ [writes] }
  | write (arrived : List SignedEvent) (index : SearchIndex) (before after : List (List IndexWrite))
      (next : IndexWrite) (rest : List IndexWrite) :
      SearchStep ⟨arrived, index, before ++ (next :: rest) :: after⟩
        ⟨arrived, next.perform index, before ++ rest :: after⟩

/-- The states of a run from a store and an index without anything. -/
inductive SearchRun : SearchWorld → Prop
  | empty : SearchRun ⟨[], [], []⟩
  | step {world next : SearchWorld} (ran : SearchRun world)
      (taken : SearchStep libraries runtime world next) : SearchRun next

/-! ### Where rows come from -/

/-- An arrived event creates the message of the row. -/
def RowOrigin (arrived : List SignedEvent) (row : SearchRow) : Prop :=
  ∃ event ∈ arrived, event.event.workspaceId = row.workspaceId ∧
    event.CreatesAs row.eventId row.messageId row.channelId

def WriteOrigin (arrived : List SignedEvent) : IndexWrite → Prop
  | .indexMessage row => RowOrigin arrived row
  | _ => True

structure SearchWorld.Traced (world : SearchWorld) : Prop where
  indexed : ∀ row ∈ world.index, RowOrigin world.arrived row
  pending : ∀ writes ∈ world.pending, ∀ next ∈ writes, WriteOrigin world.arrived next

end Runs

theorem RowOrigin.extend
    {arrived : List SignedEvent} {row : SearchRow} (origin : RowOrigin arrived row)
    (event : SignedEvent) : RowOrigin (arrived ++ [event]) row := by
  obtain ⟨source, isArrived, creates⟩ := origin
  exact ⟨source, List.mem_append_left _ isArrived, creates⟩

theorem WriteOrigin.extend
    {arrived : List SignedEvent} {next : IndexWrite} (origin : WriteOrigin arrived next)
    (event : SignedEvent) : WriteOrigin (arrived ++ [event]) next := by
  cases next with
  | indexMessage row => exact RowOrigin.extend origin event
  | removeMessage | clearWorkspace => trivial

/-- A write brings its own row into the index, and no other. -/
theorem mem_of_perform
    {index : SearchIndex} {next : IndexWrite} {row : SearchRow}
    (member : row ∈ next.perform index) : row ∈ index ∨ next = .indexMessage row := by
  cases next with
  | indexMessage written =>
      rcases List.mem_append.mp member with kept | isWritten
      · exact Or.inl (List.mem_of_mem_filter kept)
      · rw [List.mem_singleton.mp isWritten]
        exact Or.inr rfl
  | removeMessage | clearWorkspace => exact Or.inl (List.mem_of_mem_filter member)

namespace LocalRuntime

variable {libraries : ReadingLibraries} {reading : ReadingState} {workspaceId : WorkspaceId}
  {world : SearchWorld}

/-- A materialized event has arrived for its workspace. -/
theorem arrived_of_materialized
    (roundTrips : libraries.eventJson.RoundTrips)
    (present : reading.store = world.store libraries) {event : SignedEvent}
    (member : event ∈ materializedEvents libraries reading workspaceId) :
    event ∈ world.arrived ∧ event.event.workspaceId = workspaceId := by
  have listed := List.mem_of_mem_filter member
  rw [rawEvents, present] at listed
  obtain ⟨isArrived, inWorkspace, -⟩ :=
    row_of_mem_listParseable roundTrips
      (@writtenFrom_after libraries.primitives libraries.eventJson world.arrived) listed
  exact ⟨isArrived, congrArg Identifier.mk inWorkspace⟩

theorem nodup_materializedEvents
    (roundTrips : libraries.eventJson.RoundTrips)
    (present : reading.store = world.store libraries) :
    ((materializedEvents libraries reading workspaceId).map SignedEvent.eventId).Nodup := by
  have distinct :=
    nodup_listParseable roundTrips
      (@writtenFrom_after libraries.primitives libraries.eventJson world.arrived) workspaceId.text
  rw [materializedEvents, rawEvents, present]
  exact distinct.sublist (List.filter_sublist.map _)

/-- The message of a materialized state comes from an event that arrived. -/
theorem rowOrigin_of_message
    {arrived history : List SignedEvent} {state : WorkspaceState}
    (reached : WorkspaceState.Reachable workspaceId history state)
    (known : ∀ event ∈ history, event ∈ arrived ∧ event.event.workspaceId = workspaceId)
    {messageId : MessageId} {message : MessageView}
    (stored : state.messages[messageId]? = some message) {row : SearchRow}
    (sameEvent : row.eventId = message.authorEventId)
    (sameMessage : row.messageId = messageId)
    (sameWorkspace : row.workspaceId = workspaceId)
    (sameChannel : row.channelId = message.channelId) :
    RowOrigin arrived row := by
  obtain ⟨event, created⟩ := reached.messagesCreated messageId message stored
  obtain ⟨isArrived, inWorkspace⟩ := known event created.member
  refine ⟨event, isArrived, inWorkspace.trans sameWorkspace.symm, ?_, ?_, ?_⟩
  · exact created.eventId.trans sameEvent.symm
  · rw [created.body, sameMessage]
  · rw [created.channelId, sameChannel]

theorem reachable_of_applyBatch
    {events : List SignedEvent} {report : MaterializationReport} {state : WorkspaceState}
    (accepted : (WorkspaceState.new workspaceId).applyBatch events = (.ok report, state)) :
    ∃ history ⊆ events, WorkspaceState.Reachable workspaceId history state := by
  obtain ⟨history, drawn, -, ran⟩ := WorkspaceState.applied_of_applyBatch accepted
  exact ⟨history, drawn, WorkspaceState.reachable_of_run ran⟩

variable {runtime : LocalRuntime}

/-- A row of a rebuild tells what the view of its message tells. -/
theorem mem_indexedRows
    {state : WorkspaceState} {workspaceKey : Option KeyRing}
    {table : HashMap EventId SignedEvent} {messages : List MessageView} {row : SearchRow}
    (member :
      row ∈ runtime.indexedRows libraries reading workspaceId state workspaceKey table messages) :
    ∃ message ∈ messages, row.eventId = message.authorEventId ∧
      row.messageId = message.messageId ∧ row.workspaceId = workspaceId ∧
        row.channelId = message.channelId := by
  induction messages with
  | nil => cases member
  | cons message rest inductionHypothesis =>
      rw [indexedRows] at member
      cases read : runtime.searchableMarkdown libraries reading workspaceId state workspaceKey
          message with
      | error raised =>
          rw [read] at member
          cases member
      | ok markdown =>
          rw [read] at member
          rcases List.mem_append.mp member with own | later
          · obtain ⟨text, -, isRow⟩ := Option.bind_eq_some_iff.mp (Option.mem_toList.mp own)
            refine ⟨message, List.mem_cons_self, ?_⟩
            unfold searchRow at isRow
            by_cases blank : Text.trim text.toList = []
            · rw [if_pos blank] at isRow
              cases isRow
            · rw [if_neg blank] at isRow
              cases isRow
              exact ⟨rfl, rfl, rfl, rfl⟩
          · obtain ⟨other, isRest, tells⟩ := inductionHypothesis later
            exact ⟨other, List.mem_cons_of_mem _ isRest, tells⟩

end LocalRuntime

section Runs

variable {libraries : ReadingLibraries} {runtime : LocalRuntime}

/-- What an operation is about to write comes from events that arrived. -/
theorem writeOrigin_of_starts
    (roundTrips : libraries.eventJson.RoundTrips) {world : SearchWorld}
    {writes : List IndexWrite} (starts : StartsIndexing libraries runtime world writes) :
    ∀ next ∈ writes, WriteOrigin world.arrived next := by
  cases starts with
  | @created event messageId channelId stored creates inChannel markdown =>
      intro next member
      rw [List.mem_singleton.mp member]
      exact ⟨event, stored, rfl, rfl, creates, inChannel⟩
  | @edited workspaceId context row messageId markdown made isRow =>
      intro next member
      rw [List.mem_singleton.mp member]
      rw [workspaceWriteContext, bind_eq_ok_iff] at made
      obtain ⟨_, -, made⟩ := made
      rw [bind_eq_ok_iff] at made
      obtain ⟨_, -, made⟩ := made
      rw [editedRow, bind_eq_ok_iff] at isRow
      obtain ⟨message, isMessage, written⟩ := isRow
      rw [messageViewFromState, bind_eq_ok_iff] at isMessage
      obtain ⟨_, -, isMessage⟩ := isMessage
      rw [okOr_eq_ok_iff] at isMessage
      have writtenFrom :=
        @writtenFrom_after libraries.primitives libraries.eventJson world.arrived
      have distinct :
          ((verifiedLocalEventsForRuntime libraries.primitives
            ((world.store libraries).listParseableEventsForWorkspace libraries.eventJson
              workspaceId.text)).map SignedEvent.eventId).Nodup :=
        (nodup_listParseable roundTrips writtenFrom workspaceId.text).sublist
          (List.filter_sublist.map _)
      obtain ⟨scan, contextOf⟩ := exists_contextOf distinct made
      have reached :
          WorkspaceState.Reachable workspaceId scan.advanced context.state := by
        rw [contextOf.state]
        exact WorkspaceState.reachable_of_run
          (WorkspaceState.run_of_advances (StableReplay.replay_advances contextOf.scanned))
      cases written
      refine LocalRuntime.rowOrigin_of_message reached ?_ isMessage rfl rfl rfl rfl
      intro event isApplied
      have listed :=
        List.mem_of_mem_filter (StableReplay.replay_advanced_subset contextOf.scanned isApplied)
      obtain ⟨isArrived, inWorkspace, -⟩ :=
        row_of_mem_listParseable roundTrips writtenFrom listed
      exact ⟨isArrived, congrArg Identifier.mk inWorkspace⟩
  | deleted workspaceId messageId =>
      intro next member
      rw [List.mem_singleton.mp member]
      trivial
  | @rebuilt reading present workspaceId workspaceKey =>
      intro next member
      unfold LocalRuntime.rebuildWrites at member
      dsimp only at member
      split at member
      · cases member
      · rename_i report state accepted
        rcases List.mem_cons.mp member with rfl | isRow
        · trivial
        · obtain ⟨row, isIndexed, rfl⟩ := List.mem_map.mp isRow
          obtain ⟨message, isListed, sameEvent, sameMessage, sameWorkspace, sameChannel⟩ :=
            LocalRuntime.mem_indexedRows isIndexed
          obtain ⟨messageId, stored⟩ := (mem_listedValues _ _).mp isListed
          obtain ⟨history, drawn, reached⟩ := LocalRuntime.reachable_of_applyBatch accepted
          obtain ⟨event, created⟩ := reached.messagesCreated messageId message stored
          refine LocalRuntime.rowOrigin_of_message reached ?_ stored sameEvent
            (sameMessage.trans created.sameId) sameWorkspace sameChannel
          exact fun event isApplied =>
            LocalRuntime.arrived_of_materialized roundTrips present (drawn isApplied)

theorem SearchWorld.Traced.step
    (roundTrips : libraries.eventJson.RoundTrips) {world next : SearchWorld}
    (traced : world.Traced) (taken : SearchStep libraries runtime world next) :
    next.Traced := by
  cases taken with
  | arrive _ event appended =>
      exact
        { indexed := fun row member => (traced.indexed row member).extend event
          pending := fun writes isPending write member =>
            (traced.pending writes isPending write member).extend event }
  | start _ starts =>
      refine { indexed := traced.indexed, pending := ?_ }
      intro writes isPending
      rcases List.mem_append.mp isPending with earlier | isNew
      · exact traced.pending writes earlier
      · rw [List.mem_singleton.mp isNew]
        exact @writeOrigin_of_starts libraries runtime roundTrips world _ starts
  | write arrived index before after next rest =>
      have isPending : next :: rest ∈ before ++ (next :: rest) :: after :=
        List.mem_append_right _ List.mem_cons_self
      constructor
      · intro row member
        rcases mem_of_perform member with kept | isWritten
        · exact traced.indexed row kept
        · have origin := traced.pending _ isPending next List.mem_cons_self
          rw [isWritten] at origin
          exact origin
      · intro writes stillPending write member
        rcases List.mem_append.mp stillPending with earlier | later
        · exact traced.pending writes (List.mem_append_left _ earlier) write member
        · rcases List.mem_cons.mp later with rfl | later
          · exact traced.pending _ isPending write (List.mem_cons_of_mem _ member)
          · exact traced.pending writes
              (List.mem_append_right _ (List.mem_cons_of_mem _ later)) write member

/-- In every run the rows of the index come from events that arrived. -/
theorem SearchRun.traced
    (roundTrips : libraries.eventJson.RoundTrips) {world : SearchWorld}
    (ran : SearchRun libraries runtime world) : world.Traced := by
  induction ran with
  | empty =>
      constructor
      · intro row member
        cases member
      · intro writes isPending
        cases isPending
  | step _ taken inductionHypothesis => exact inductionHypothesis.step roundTrips taken

end Runs

/-! ## What a hit tells -/

/-- The message of the hit is there, not deleted, in a channel that the device may read, and
comes from the event of the hit in the channel of the hit. -/
def WorkspaceSearchHit.RespectsState
    (hit : WorkspaceSearchHit) (state : WorkspaceState) (deviceId : DeviceId) : Prop :=
  ∃ message, state.messages[(⟨hit.messageId⟩ : MessageId)]? = some message ∧
    message.deleted = false ∧ state.channelAccessibleTo message.channelId deviceId = true ∧
      message.authorEventId = ⟨hit.eventId⟩ ∧ message.channelId = ⟨hit.channelId⟩

/-- The hit shows the row. -/
structure WorkspaceSearchHit.Shows (hit : WorkspaceSearchHit) (row : SearchRow) : Prop where
  eventId : hit.eventId = row.eventId.text
  messageId : hit.messageId = row.messageId.text
  channelId : hit.channelId = row.channelId.text

/-- The applied events, in the order of their application. -/
def appliedHistory (events : List SignedEvent) (report : MaterializationReport) :
    List SignedEvent :=
  takeEvents report.appliedEvents (tableOf SignedEvent.eventId id ∅ events)

/-- Events that arrive under one ID are one event. -/
def OneEventPerId (arrived : List SignedEvent) : Prop :=
  ∀ event ∈ arrived, ∀ other ∈ arrived, event.eventId = other.eventId → event = other

theorem appliedHistory_spec
    {workspaceId : WorkspaceId} {events : List SignedEvent} {report : MaterializationReport}
    {state : WorkspaceState} (distinct : (events.map SignedEvent.eventId).Nodup)
    (accepted : (WorkspaceState.new workspaceId).applyBatch events = (.ok report, state)) :
    appliedHistory events report ⊆ events ∧
      WorkspaceState.Reachable workspaceId (appliedHistory events report) state := by
  obtain ⟨-, scan, scanned, rfl, rfl⟩ := WorkspaceState.replay_of_applyBatch accepted
  have advances := StableReplay.replay_advances scanned
  have drawn := StableReplay.replay_advanced_subset scanned
  have apart : events.Pairwise fun first second => first.eventId ≠ second.eventId :=
    List.pairwise_map.mp distinct
  have taken : appliedHistory events (WorkspaceState.scanReport scan) = scan.advanced :=
    takeEvents_eq (WorkspaceState.causallyOrdered_of_advances advances).nodup
      fun event member => getElem?_tableOf_of_mem apart (drawn member) ∅
  rw [taken]
  exact ⟨drawn, WorkspaceState.reachable_of_run (WorkspaceState.run_of_advances advances)⟩

theorem SearchedWorkspace.mem_of_bounded
    {workspaceId : WorkspaceId} {query : String} {hits : List WorkspaceSearchHit}
    {rawCandidateCount : Nat} {hasMore : Bool} {hit : WorkspaceSearchHit}
    (member : hit ∈ (bounded workspaceId query hits rawCandidateCount hasMore).hits) :
    hit ∈ hits :=
  List.mem_of_mem_take member

/-- A raw hit shows a row of the index. -/
theorem SearchIndex.mem_of_searchLimited
    {texts : FullTextSearch} {index : SearchIndex} {workspaceId : WorkspaceId} {query : String}
    {limit : Nat} {hit : SearchHit}
    (member : hit ∈ index.searchLimited texts workspaceId query limit) :
    ∃ row ∈ index, row.workspaceId = workspaceId ∧ hit.eventId = row.eventId ∧
      hit.messageId = row.messageId ∧ hit.channelId = row.channelId := by
  unfold SearchIndex.searchLimited at member
  by_cases noLimit : limit = 0
  · rw [if_pos noLimit] at member
    cases member
  · rw [if_neg noLimit] at member
    cases normalized : normalizeQuery texts query with
    | none =>
        rw [normalized] at member
        cases member
    | some terms =>
        rw [normalized] at member
        obtain ⟨row, isTaken, rfl⟩ := List.mem_map.mp member
        have isMatch := (List.mem_insertionSort _).mp (List.mem_of_mem_take isTaken)
        obtain ⟨isRow, tests⟩ := List.mem_filter.mp isMatch
        rw [Bool.and_eq_true, decide_eq_true_eq] at tests
        exact ⟨row, isRow, tests.1, rfl, rfl, rfl⟩

namespace LocalRuntime

variable {libraries : ReadingLibraries} {texts : FullTextSearch} {runtime : LocalRuntime}
  {reading : ReadingState} {workspaceId : WorkspaceId}

/-- What is known of a hit that is shown. -/
theorem mem_shownHits
    {state : WorkspaceState} {report : MaterializationReport} {events : List SignedEvent}
    {rawHits : List SearchHit} {hit : WorkspaceSearchHit}
    (member : hit ∈ runtime.shownHits libraries workspaceId state report events rawHits) :
    ∃ rawHit ∈ rawHits, hit.eventId = rawHit.eventId.text ∧
      hit.messageId = rawHit.messageId.text ∧ hit.channelId = rawHit.channelId.text ∧
        state.channelAccessibleTo rawHit.channelId (runtime.readerDeviceId libraries) = true := by
  unfold shownHits at member
  obtain ⟨rawHit, isKnown, shows⟩ :=
    List.mem_filterMap.mp ((List.mem_insertionSort _).mp member)
  obtain ⟨isRaw, tests⟩ := List.mem_filter.mp isKnown
  rw [Bool.and_eq_true] at tests
  unfold WorkspaceState.workspaceSearchHit at shows
  obtain ⟨author, -, shows⟩ := Option.bind_eq_some_iff.mp shows
  obtain ⟨channel, -, shows⟩ := Option.bind_eq_some_iff.mp shows
  cases shows
  exact ⟨rawHit, isRaw, rfl, rfl, rfl, tests.2⟩

/-- The hits of a search come from rows of the index and from a materialized state. -/
theorem hit_of_searchWorkspaceMessages
    {index : SearchIndex} {query : String} {found : SearchedWorkspace}
    (searched :
      runtime.searchWorkspaceMessages libraries texts reading workspaceId index query =
        .ok found)
    {hit : WorkspaceSearchHit} (member : hit ∈ found.hits) :
    ∃ report state,
      (WorkspaceState.new workspaceId).applyBatch
          (materializedEvents libraries reading workspaceId) = (.ok report, state) ∧
        ∃ row ∈ index, row.workspaceId = workspaceId ∧ hit.Shows row ∧
          state.channelAccessibleTo row.channelId (runtime.readerDeviceId libraries) = true := by
  rw [searchWorkspaceMessages, bind_eq_ok_iff] at searched
  obtain ⟨_, -, searched⟩ := searched
  rw [bind_eq_ok_iff] at searched
  obtain ⟨_, -, searched⟩ := searched
  split at searched
  · cases searched
    cases member
  · dsimp only at searched
    split at searched
    · cases searched
      cases member
    · split at searched
      · cases searched
        cases member
      · split at searched
        · cases searched
        · rename_i report state accepted
          cases searched
          obtain ⟨rawHit, isRaw, sameEvent, sameMessage, sameChannel, accessible⟩ :=
            mem_shownHits (SearchedWorkspace.mem_of_bounded member)
          obtain ⟨row, isRow, inWorkspace, rowEvent, rowMessage, rowChannel⟩ :=
            SearchIndex.mem_of_searchLimited
              (List.mem_of_mem_take (List.mem_of_mem_filter isRaw))
          refine ⟨report, state, accepted, row, isRow, inWorkspace, ⟨?_, ?_, ?_⟩, ?_⟩
          · rw [sameEvent, rowEvent]
          · rw [sameMessage, rowMessage]
          · rw [sameChannel, rowChannel]
          · rw [← rowChannel]
            exact accessible

end LocalRuntime

/-- After every run, a hit respects the state if and only if the last applied event that creates
or deletes the message of its row is the event of the row, and creates the message in the channel
of the row.  Where events are known by their IDs, only the first half can fail. -/
theorem searchHits_respectState_iff
    (libraries : ReadingLibraries) (runtime : LocalRuntime) (world : SearchWorld)
    (roundTrips : libraries.eventJson.RoundTrips)
    (ran : SearchRun libraries runtime world) (reading : ReadingState)
    (present : reading.store = world.store libraries) (texts : FullTextSearch)
    (workspaceId : WorkspaceId) (query : String) (found : SearchedWorkspace)
    (searched :
      runtime.searchWorkspaceMessages libraries texts reading workspaceId world.index query =
        .ok found) :
    ∀ hit ∈ found.hits, ∃ row ∈ world.index, hit.Shows row ∧ ∃ report state,
      (WorkspaceState.new workspaceId).applyBatch
          (LocalRuntime.materializedEvents libraries reading workspaceId) = (.ok report, state) ∧
        (hit.RespectsState state (runtime.readerDeviceId libraries) ↔
          StandsFor
            (appliedHistory (LocalRuntime.materializedEvents libraries reading workspaceId)
              report) row.eventId row.messageId row.channelId) ∧
        (OneEventPerId world.arrived →
          (hit.RespectsState state (runtime.readerDeviceId libraries) ↔
            (lastSettling row.messageId
              (appliedHistory (LocalRuntime.materializedEvents libraries reading workspaceId)
                report)).map SignedEvent.eventId = some row.eventId)) := by
  intro hit member
  obtain ⟨report, state, accepted, row, isRow, inWorkspace, shows, accessible⟩ :=
    LocalRuntime.hit_of_searchWorkspaceMessages searched member
  obtain ⟨drawn, reached⟩ :=
    appliedHistory_spec (LocalRuntime.nodup_materializedEvents roundTrips present) accepted
  have respects :
      hit.RespectsState state (runtime.readerDeviceId libraries) ↔
        StandsFor
          (appliedHistory (LocalRuntime.materializedEvents libraries reading workspaceId) report)
          row.eventId row.messageId row.channelId := by
    rw [← WorkspaceState.showsMessage_iff reached, WorkspaceSearchHit.RespectsState,
      shows.eventId, shows.messageId, shows.channelId]
    constructor
    · rintro ⟨message, stored, notDeleted, -, sameEvent, sameChannel⟩
      exact ⟨message, stored, notDeleted, sameEvent, sameChannel⟩
    · rintro ⟨message, stored, notDeleted, sameEvent, sameChannel⟩
      exact ⟨message, stored, notDeleted, by rw [sameChannel]; exact accessible, sameEvent,
        sameChannel⟩
  refine ⟨row, isRow, shows, report, state, accepted, respects, ?_⟩
  intro oneEvent
  rw [respects]
  constructor
  · rintro ⟨event, isLast, creates⟩
    rw [isLast, Option.map_some, creates.eventId]
  · intro sameId
    obtain ⟨event, isLast, isEvent⟩ := Option.map_eq_some_iff.mp sameId
    obtain ⟨origin, hasArrived, -, creates⟩ := (ran.traced roundTrips).indexed row isRow
    have applied := List.mem_reverse.mp (List.mem_of_find?_eq_some isLast)
    have eventArrived :=
      (LocalRuntime.arrived_of_materialized roundTrips present (drawn applied)).1
    have same : event = origin :=
      oneEvent event eventArrived origin hasArrived (isEvent.trans creates.eventId.symm)
    exact ⟨event, isLast, same ▸ creates⟩

/-! ## A deleted message

The founder says hello in the lobby and deletes the message.  The event is appended, and its
removal from the index is still to come, or has failed. -/

def helloHash : String :=
  "615607d4605a1df48ca6049eb70b89c91f729615243d62b028c8a4a35dc75da6"

def helloSignature : List UInt8 :=
  [0x27, 0x79, 0x08, 0x8a, 0x71, 0x00, 0xb8, 0x67, 0x35, 0xd9, 0x27, 0x6b,
    0x54, 0x00, 0x45, 0xdf, 0xab, 0xc6, 0x98, 0x41, 0x9e, 0xdd, 0x0b, 0x7d,
    0x64, 0x38, 0x47, 0x42, 0xe6, 0xbf, 0xf6, 0x58, 0x06, 0x78, 0x6d, 0x5e,
    0x3c, 0x7c, 0x62, 0xcf, 0x3a, 0x90, 0xf1, 0x40, 0x91, 0x78, 0x54, 0xf6,
    0xc7, 0x1a, 0x45, 0x34, 0xe1, 0x33, 0xc8, 0x1c, 0xe5, 0x19, 0xf8, 0xf4,
    0xc0, 0x45, 0x07, 0x09]

def deletionHash : String :=
  "6ec509b156210ea91295a360847d96f703f249d8f3dfb5c173e2578d75f1cfce"

def deletionSignature : List UInt8 :=
  [0xae, 0x85, 0xd3, 0x77, 0x94, 0xd0, 0xeb, 0x19, 0xe6, 0xf2, 0x17, 0xf5,
    0x51, 0xf7, 0x88, 0x0d, 0x30, 0x32, 0x3b, 0xca, 0x82, 0x63, 0xc0, 0x0f,
    0xa8, 0xf7, 0xbc, 0x1c, 0x63, 0x38, 0xc4, 0xc7, 0xb8, 0x07, 0x10, 0xfe,
    0x82, 0xfa, 0xcd, 0x7c, 0x63, 0xbc, 0x4f, 0x5f, 0xfb, 0xbe, 0x1c, 0x75,
    0x74, 0x5f, 0x81, 0x93, 0x7c, 0xb6, 0xdc, 0x24, 0xc8, 0x6f, 0x84, 0xb1,
    0xd4, 0x12, 0x8e, 0x06]

/-- An event in the lobby and its JSON. -/
def inLobby (parent : EventId) (body : EventBody) : SignableEvent :=
  { afterHome homeDeviceHash body with
    channelId := some ⟨"c"⟩
    parents := [parent] }

def inLobbyJson (parentHash : String) (bodyJson : List String) : List String :=
  ["\x7b\"schema_version\":1,", "\"workspace_id\":\"w\",", "\"channel_id\":\"c\",",
    "\"author_device_id\":\"dev_", homeDeviceHash, "\",", "\"timestamp\":",
    "\x7b\"physical_ms\":0,\"logical\":0\x7d,", "\"parents\":[\"evt_", parentHash, "\"],",
    "\"body\":"] ++ bodyJson ++ ["\x7d"]

def helloJson : List String :=
  inLobbyJson LocalRuntime.foyerHash
    ["\x7b\"kind\":\"message_created\",", "\"message_id\":\"m\",", "\"markdown\":\"hello\",",
      "\"attachments\":[]\x7d"]

def deletionJson : List String :=
  inLobbyJson helloHash ["\x7b\"kind\":\"message_deleted\",", "\"message_id\":\"m\"\x7d"]

def signedHello : SignedEvent where
  eventId := ⟨"evt_" ++ helloHash⟩
  event := inLobby LocalRuntime.signedFoyer.eventId (.messageCreated ⟨"m"⟩ "hello" [])
  authorPublicKey := homeKey
  signature := helloSignature

def signedDeletion : SignedEvent where
  eventId := ⟨"evt_" ++ deletionHash⟩
  event := inLobby signedHello.eventId (.messageDeleted ⟨"m"⟩)
  authorPublicKey := homeKey
  signature := deletionSignature

/-- The primitives as they behave on the two events as well. -/
def lobbyPrimitives : Primitives where
  blake3Hex bytes :=
    if bytes = asciiBytes helloJson ++ helloSignature then
      helloHash
    else if bytes = asciiBytes deletionJson ++ deletionSignature then
      deletionHash
    else
      LocalRuntime.foyerPrimitives.blake3Hex bytes
  isVerifyingKey := LocalRuntime.foyerPrimitives.isVerifyingKey
  verify key bytes signature :=
    LocalRuntime.foyerPrimitives.verify key bytes signature ||
      [(homeKey, asciiBytes helloJson, helloSignature),
        (homeKey, asciiBytes deletionJson, deletionSignature)].contains (key, bytes, signature)
  signableEventJson event :=
    if event = signedHello.event then
      asciiBytes helloJson
    else if event = signedDeletion.event then
      asciiBytes deletionJson
    else
      LocalRuntime.foyerPrimitives.signableEventJson event
  trustSnapshotJson := LocalRuntime.foyerPrimitives.trustSnapshotJson

def lobbyLibraries : ReadingLibraries where
  toKeyLibraries :=
    { LocalRuntime.foyerLibraries.toKeyLibraries with
      primitives := lobbyPrimitives
      eventJson :=
        .ofList
          [(signedHome, signedCreationJson "home" signedHome),
            (LocalRuntime.signedFoyer,
              signedEventJson LocalRuntime.signedFoyer LocalRuntime.foyerJson),
            (signedHello, signedEventJson signedHello helloJson),
            (signedDeletion, signedEventJson signedDeletion deletionJson)] }
  manifestFromSlice _ := none

/-- The full-text search as it behaves on the one message. -/
def lobbyTexts : FullTextSearch where
  isAlphanumeric := Char.isAlphanum
  toLowercase symbol := [symbol.toLower]
  isMatch query text := decide (query = "hello*") && decide (text = "hello")
  snippet _ text := text

/-- The lobby, the message and its deletion. -/
def lobbyHistory : List SignedEvent := [signedHome, LocalRuntime.signedFoyer, signedHello]

def helloRow : SearchRow := createdRow signedHello ⟨"m"⟩ ⟨"c"⟩ "hello"

/-- The founder's device after the message and, if it is appended, the deletion. -/
def lobbyWorld (deletion : List SignedEvent) : SearchWorld where
  arrived := lobbyHistory ++ deletion
  index := [helloRow]
  pending := [[]]

def lobbyReading (deletion : List SignedEvent) : ReadingState :=
  { LocalRuntime.foyerReading [] with
    store := (lobbyWorld deletion).store lobbyLibraries }

theorem lobbyReading_store (deletion : List SignedEvent) :
    (lobbyReading deletion).store = (lobbyWorld deletion).store lobbyLibraries := by
  dsimp only [lobbyReading]

/-- What the founder's device stores, evaluated at once. -/
private theorem lobby_stored :
    (∀ event ∈ lobbyHistory ++ [signedDeletion],
      isAppended lobbyLibraries.primitives lobbyLibraries.eventJson event = true) ∧
      ([signedCreationJson "home" signedHome,
        signedEventJson LocalRuntime.signedFoyer LocalRuntime.foyerJson,
        signedEventJson signedHello helloJson,
        signedEventJson signedDeletion deletionJson] : List (List UInt8)).Nodup ∧
      ∀ deletion ∈ [[], [signedDeletion]],
        LocalRuntime.materializedEvents lobbyLibraries (lobbyReading deletion) ⟨"w"⟩ =
          lobbyHistory ++ deletion := by
  decide +kernel

/-- What it finds in the stored history. -/
private theorem lobby_found {deletion : List SignedEvent}
    (known : deletion ∈ [[], [signedDeletion]]) :
    (ringRuntime.searchWorkspaceMessages lobbyLibraries lobbyTexts
        (lobbyReading deletion) ⟨"w"⟩ [helloRow] "hello").map
          (fun found => found.hits.map WorkspaceSearchHit.messageId) = .ok ["m"] ∧
      ((WorkspaceState.new ⟨"w"⟩).applyBatch
          (LocalRuntime.materializedEvents lobbyLibraries
            (lobbyReading deletion) ⟨"w"⟩)).2.messages[
              (⟨"m"⟩ : MessageId)]?.map MessageView.deleted =
        some (decide (deletion ≠ [])) := by
  unfold LocalRuntime.searchWorkspaceMessages
  rw [lobby_stored.2.2 deletion known]
  revert deletion
  decide +kernel

private theorem lobby_lastSettling :
    ((WorkspaceState.new ⟨"w"⟩).applyBatch
        (LocalRuntime.materializedEvents lobbyLibraries (lobbyReading []) ⟨"w"⟩)).1.map
          (fun report =>
            lastSettling ⟨"m"⟩
              (appliedHistory
                (LocalRuntime.materializedEvents lobbyLibraries (lobbyReading [])
                  ⟨"w"⟩) report)) = .ok (some signedHello) := by
  rw [lobby_stored.2.2 [] List.mem_cons_self]
  decide +kernel

theorem lobbyEventJson_roundTrips : lobbyLibraries.eventJson.RoundTrips :=
  EventJson.ofList_roundTrips lobby_stored.2.1

/-- The message is indexed when it is created, and the deletion may arrive. -/
theorem lobbyWorld_reached :
    SearchRun lobbyLibraries ringRuntime (lobbyWorld []) ∧
      SearchRun lobbyLibraries ringRuntime (lobbyWorld [signedDeletion]) := by
  have appended := lobby_stored.1
  have home : SearchRun lobbyLibraries ringRuntime ⟨[signedHome], [], []⟩ :=
    SearchRun.empty.step
      (.arrive ⟨[], [], []⟩ signedHome (appended signedHome List.mem_cons_self))
  have foyer :
      SearchRun lobbyLibraries ringRuntime
        ⟨[signedHome, LocalRuntime.signedFoyer], [], []⟩ :=
    home.step
      (.arrive ⟨[signedHome], [], []⟩ LocalRuntime.signedFoyer
        (appended _ (by simp [lobbyHistory])))
  have hello : SearchRun lobbyLibraries ringRuntime ⟨lobbyHistory, [], []⟩ :=
    foyer.step
      (.arrive ⟨[signedHome, LocalRuntime.signedFoyer], [], []⟩ signedHello
        (appended _ (by simp [lobbyHistory])))
  have starts :
      StartsIndexing lobbyLibraries ringRuntime ⟨lobbyHistory, [], []⟩
        [.indexMessage helloRow] := by
    have stored : signedHello ∈ lobbyHistory := by simp [lobbyHistory]
    exact .created stored rfl rfl "hello"
  have indexed : SearchRun lobbyLibraries ringRuntime (lobbyWorld []) :=
    (hello.step (.start ⟨lobbyHistory, [], []⟩ starts)).step
      (.write lobbyHistory [] [] [] (.indexMessage helloRow) [])
  exact ⟨indexed, indexed.step (.arrive (lobbyWorld []) signedDeletion (appended _ (by simp)))⟩

/-- Before the deletion, the hit respects the state. -/
theorem searchHits_respectState_hello :
    ∃ found,
      ringRuntime.searchWorkspaceMessages lobbyLibraries lobbyTexts
          (lobbyReading []) ⟨"w"⟩ [helloRow] "hello" = .ok found ∧
        found.hits ≠ [] ∧ ∀ hit ∈ found.hits, ∃ report state,
          (WorkspaceState.new ⟨"w"⟩).applyBatch
              (LocalRuntime.materializedEvents lobbyLibraries (lobbyReading [])
                ⟨"w"⟩) = (.ok report, state) ∧
            hit.RespectsState state (ringRuntime.readerDeviceId lobbyLibraries) := by
  have isLast := lobby_lastSettling
  have known : ([] : List SignedEvent) ∈ [[], [signedDeletion]] := List.mem_cons_self
  obtain ⟨finds, -⟩ := lobby_found known
  cases searched :
      ringRuntime.searchWorkspaceMessages lobbyLibraries lobbyTexts
        (lobbyReading []) ⟨"w"⟩ [helloRow] "hello" with
  | error raised =>
      rw [searched] at finds
      cases finds
  | ok found =>
      rw [searched] at finds
      have messageIds := Except.ok.inj finds
      refine ⟨found, rfl, ?_, ?_⟩
      · intro noHits
        dsimp only at messageIds
        rw [noHits] at messageIds
        cases messageIds
      · intro hit member
        obtain ⟨row, isRow, -, report, state, accepted, respects, -⟩ :=
          searchHits_respectState_iff lobbyLibraries ringRuntime (lobbyWorld [])
            lobbyEventJson_roundTrips lobbyWorld_reached.1 (lobbyReading [])
            (lobbyReading_store []) lobbyTexts ⟨"w"⟩ "hello" found searched hit member
        refine ⟨report, state, accepted, respects.mpr ?_⟩
        rw [List.mem_singleton.mp isRow]
        rw [accepted] at isLast
        exact ⟨signedHello, Except.ok.inj isLast, rfl, rfl, rfl⟩

/-- After it, the search still finds the message. -/
theorem not_searchHits_respectState :
    ¬ ∀ (libraries : ReadingLibraries) (runtime : LocalRuntime) (world : SearchWorld),
      libraries.eventJson.RoundTrips → SearchRun libraries runtime world →
        ∀ reading : ReadingState, reading.store = world.store libraries →
          ∀ (texts : FullTextSearch) (workspaceId : WorkspaceId) (query : String)
            (found : SearchedWorkspace),
            runtime.searchWorkspaceMessages libraries texts reading workspaceId world.index
                query = .ok found →
              ∀ hit ∈ found.hits, ∃ report state,
                (WorkspaceState.new workspaceId).applyBatch
                    (LocalRuntime.materializedEvents libraries reading workspaceId) =
                      (.ok report, state) ∧
                  hit.RespectsState state (runtime.readerDeviceId libraries) := by
  intro respect
  have known : [signedDeletion] ∈ [[], [signedDeletion]] := by simp
  obtain ⟨finds, isDeleted⟩ := lobby_found known
  cases searched :
      ringRuntime.searchWorkspaceMessages lobbyLibraries lobbyTexts
        (lobbyReading [signedDeletion]) ⟨"w"⟩ [helloRow] "hello" with
  | error raised =>
      rw [searched] at finds
      cases finds
  | ok found =>
      rw [searched] at finds
      obtain ⟨hit, isHit, messageId⟩ := List.map_eq_singleton_iff.mp (Except.ok.inj finds)
      obtain ⟨report, state, accepted, message, stored, notDeleted, -⟩ :=
        respect lobbyLibraries ringRuntime (lobbyWorld [signedDeletion])
          lobbyEventJson_roundTrips lobbyWorld_reached.2
          (lobbyReading [signedDeletion]) (lobbyReading_store [signedDeletion]) lobbyTexts ⟨"w"⟩
          "hello" found searched hit (by rw [isHit]; exact List.mem_cons_self)
      rw [accepted] at isDeleted
      rw [messageId] at stored
      simp only [stored, Option.map_some, notDeleted] at isDeleted
      cases isDeleted

end Chaft

import Chaft.Storage.ServableInventory

/-!
# The parseable rows of a workspace

Materialization reads the rows of a workspace whose JSON parses, whether or not their
events verify.  In a store of appended events every row reads as the event that it was
written for, so the listed events have distinct IDs.
-/

namespace Chaft

open Outcome KeyedLog Transition

/-- `WHERE workspace_id = … AND length(event_json) <= …`, without what does not
parse. -/
def EventStore.listParseableEventsForWorkspace
    (json : EventJson) (store : EventStore) (workspaceId : String) : List SignedEvent :=
  (store.rows.filter fun row =>
      decide (row.workspaceId = workspaceId) &&
        decide (row.eventJson.length ≤ eventJsonMaxBytes)).filterMap
    fun row => json.fromSlice row.eventJson

section Parseable

variable {primitives : Primitives} {json : EventJson}

variable (primitives json) in
/-- Every row is the row of one of some events. -/
def WrittenFrom (events : List SignedEvent) (store : EventStore) : Prop :=
  ∀ row ∈ store.rows, ∃ event ∈ events, rowOf primitives json event = some row

/-- The rows of a store of appended events. -/
theorem writtenFrom_after (events : List SignedEvent) :
    WrittenFrom primitives json events (EventStore.empty.after primitives json events) := by
  intro row member
  rw [rows_after] at member
  rcases mem_foldl_upsert member with inEmpty | written
  · cases inEmpty
  · obtain ⟨event, isEvent, isRow⟩ := List.mem_filterMap.mp written
    exact ⟨event, isEvent, isRow⟩

section Written

variable {events : List SignedEvent} {store : EventStore}

/-- A row of the workspace reads as the event that it was written for. -/
theorem mem_listParseable_of_row
    (roundTrips : json.RoundTrips) {workspaceId : String} {event : SignedEvent} {row : EventRow}
    (member : row ∈ store.rows) (isRow : rowOf primitives json event = some row)
    (sameWorkspace : event.event.workspaceId.text = workspaceId) :
    event ∈ store.listParseableEventsForWorkspace json workspaceId := by
  obtain ⟨-, rowWorkspace, -, -, written, small⟩ := rowOf_spec isRow
  refine List.mem_filterMap.mpr ⟨row, ?_, roundTrips event _ written⟩
  rw [List.mem_filter, rowWorkspace, sameWorkspace]
  exact ⟨member, by simp [small]⟩

/-- A listed event has its row. -/
theorem row_of_mem_listParseable
    (roundTrips : json.RoundTrips) (writtenFrom : WrittenFrom primitives json events store)
    {workspaceId : String} {event : SignedEvent}
    (listed : event ∈ store.listParseableEventsForWorkspace json workspaceId) :
    event ∈ events ∧ event.event.workspaceId.text = workspaceId ∧
      ∃ row ∈ store.rows, rowOf primitives json event = some row := by
  obtain ⟨row, inWorkspace, parsed⟩ := List.mem_filterMap.mp listed
  rw [List.mem_filter, Bool.and_eq_true, decide_eq_true_eq, decide_eq_true_eq] at inWorkspace
  obtain ⟨member, rowWorkspace, -⟩ := inWorkspace
  obtain ⟨origin, isOrigin, isRow⟩ := writtenFrom row member
  obtain ⟨-, originWorkspace, -, -, written, -⟩ := rowOf_spec isRow
  have same : origin = event :=
    Option.some.inj ((roundTrips origin _ written).symm.trans parsed)
  subst same
  exact ⟨isOrigin, originWorkspace.symm.trans rowWorkspace, row, member, isRow⟩

/-- The listed events have distinct IDs. -/
theorem nodup_listParseable
    (roundTrips : json.RoundTrips) (writtenFrom : WrittenFrom primitives json events store)
    (workspaceId : String) :
    ((store.listParseableEventsForWorkspace json workspaceId).map SignedEvent.eventId).Nodup := by
  have reads :
      ∀ rows : List EventRow, rows ⊆ store.rows →
        ((rows.filterMap fun row => json.fromSlice row.eventJson).map
            SignedEvent.eventId).Sublist (rows.map EventRow.eventId) := by
    intro rows contained
    induction rows with
    | nil => exact List.Sublist.refl _
    | cons row rest inductionHypothesis =>
        obtain ⟨isRow, restContained⟩ := List.cons_subset.mp contained
        have later := inductionHypothesis restContained
        obtain ⟨event, -, isWritten⟩ := writtenFrom row isRow
        obtain ⟨sameId, -, -, -, written, -⟩ := rowOf_spec isWritten
        have parsed := roundTrips event _ written
        simp only [List.filterMap_cons, parsed, List.map_cons, sameId]
        exact later.cons_cons _
  have inStore :
      (store.rows.filter fun row =>
        decide (row.workspaceId = workspaceId) &&
          decide (row.eventJson.length ≤ eventJsonMaxBytes)).Sublist store.rows :=
    List.filter_sublist
  exact store.distinct.sublist ((reads _ inStore.subset).trans (inStore.map _))

/-- Appended events of one workspace with distinct IDs are listed as they arrived. -/
theorem listParseable_after
    (roundTrips : json.RoundTrips) {workspaceId : String} {arrived : List SignedEvent}
    (distinct : (arrived.map SignedEvent.eventId).Nodup)
    (appended : ∀ event ∈ arrived, isAppended primitives json event = true)
    (sameWorkspace : ∀ event ∈ arrived, event.event.workspaceId.text = workspaceId) :
    (EventStore.empty.after primitives json arrived).listParseableEventsForWorkspace json
      workspaceId = arrived := by
  have written :
      ∀ listed : List SignedEvent, listed ⊆ arrived →
        (listed.filterMap (rowOf primitives json)).map EventRow.eventId =
            listed.map SignedEvent.eventId ∧
          ((listed.filterMap (rowOf primitives json)).filter fun row =>
              decide (row.workspaceId = workspaceId) &&
                decide (row.eventJson.length ≤ eventJsonMaxBytes)).filterMap
            (fun row => json.fromSlice row.eventJson) = listed := by
    intro listed contained
    induction listed with
    | nil => exact ⟨rfl, rfl⟩
    | cons event rest inductionHypothesis =>
        obtain ⟨member, restContained⟩ := List.cons_subset.mp contained
        obtain ⟨sameIds, reads⟩ := inductionHypothesis restContained
        obtain ⟨row, isRow⟩ := isAppended_iff.mp (appended event member)
        obtain ⟨sameId, rowWorkspace, -, -, bytes, small⟩ := rowOf_spec isRow
        have parsed := roundTrips event _ bytes
        have inWorkspace := sameWorkspace event member
        rw [List.filterMap_cons_some isRow]
        constructor
        · rw [List.map_cons, List.map_cons, sameId, sameIds]
        · rw [List.filter_cons_of_pos (by simp [rowWorkspace, inWorkspace, small])]
          simp only [List.filterMap_cons, parsed, reads]
  obtain ⟨sameIds, reads⟩ := written arrived (List.Subset.refl _)
  have rows :
      (EventStore.empty.after primitives json arrived).rows =
        arrived.filterMap (rowOf primitives json) := by
    rw [rows_after]
    exact foldl_upsert_of_nodup (by rw [sameIds]; exact distinct)
  rw [EventStore.listParseableEventsForWorkspace, rows, reads]

/-- The rows of a workspace determine what is read of it. -/
theorem listParseable_congr
    {other : EventStore} {workspaceId : String}
    (sameRows : store.workspaceRows workspaceId = other.workspaceRows workspaceId) :
    store.listParseableEventsForWorkspace json workspaceId =
      other.listParseableEventsForWorkspace json workspaceId := by
  have reads :
      ∀ store : EventStore,
        store.listParseableEventsForWorkspace json workspaceId =
          ((store.workspaceRows workspaceId).filter fun row =>
            decide (row.eventJson.length ≤ eventJsonMaxBytes)).filterMap
              fun row => json.fromSlice row.eventJson := by
    intro store
    rw [EventStore.listParseableEventsForWorkspace, EventStore.workspaceRows, List.filter_filter]
    congr 2
    funext row
    rw [Bool.and_comm]
  rw [reads, reads, sameRows]

/-- An event of a new ID is listed at the end. -/
theorem listParseable_append_of_fresh
    (roundTrips : json.RoundTrips) {event : SignedEvent} {next : EventStore}
    (fresh : event.eventId ∉ store.listEventIds)
    (appended : store.appendEvent primitives json event = .ok next) :
    next.listParseableEventsForWorkspace json event.event.workspaceId.text =
      store.listParseableEventsForWorkspace json event.event.workspaceId.text ++ [event] := by
  rw [EventStore.appendEvent, bind_eq_ok_iff] at appended
  obtain ⟨row, serialized, inserted⟩ := appended
  cases inserted
  obtain ⟨sameId, sameWorkspace, -, -, written, small⟩ :=
    rowOf_spec (rowOf_eq_some_iff.mpr serialized)
  have rowFresh : row.eventId ∉ store.listEventIds := by rwa [sameId]
  rw [EventStore.listParseableEventsForWorkspace, rows_insert_of_fresh rowFresh,
    List.filter_append, List.filterMap_append]
  have parsed := roundTrips event _ written
  congr 1
  rw [List.filter_cons_of_pos (by simp [sameWorkspace, small]), List.filter_nil]
  simp only [List.filterMap_cons, parsed, List.filterMap_nil]

end Written

end Parseable

end Chaft

import Chaft.Storage.AppendOnly

/-!
# The atomic batch as a compare-and-swap

The batch compares the IDs of the workspace with the IDs that its caller read.
The rows behind the IDs can differ: a row that is not marked valid gives way to a
verified copy of its ID without any change of the listing.
-/

namespace Chaft

open Outcome KeyedLog Transition

section AtomicAppend

variable (primitives : Primitives) (json : EventJson)

/-- The batch is written only on the events that its caller read from `store`, and a
batch that fails leaves the rows of the store it runs on alone. -/
structure ComparesAndSwaps
    (fault : Option TransactionStep) (store current : EventStore) (workspaceId : String)
    (known events : List SignedEvent) : Prop where
  compared :
    (current.appendEventsAtomicallyIfWorkspaceHistoryMatches primitives json fault workspaceId
        (store.listEventIdsForWorkspace workspaceId) events).1 = .ok () →
      current.listEventsForWorkspace json workspaceId = .ok known
  untouched :
    ∀ raised,
      (current.appendEventsAtomicallyIfWorkspaceHistoryMatches primitives json fault workspaceId
          (store.listEventIdsForWorkspace workspaceId) events).1 = .error raised →
        (current.appendEventsAtomicallyIfWorkspaceHistoryMatches primitives json fault
          workspaceId (store.listEventIdsForWorkspace workspaceId) events).2.rows = current.rows

/-- An event that the batch refuses: it is foreign, or too large to be written. -/
def Unwritable (workspaceId : String) (event : SignedEvent) : Prop :=
  event.event.workspaceId.text ≠ workspaceId ∨ isAppended primitives json event = false

/-- The database refuses a statement of a batch of some length. -/
def Faulty (fault : Option TransactionStep) (length : Nat) : Prop :=
  fault = some .start ∨ fault = some .readHistory ∨
    (∃ position < length, fault = some (.insert position)) ∨ fault = some .commit

/-- The first verified copy of an ID among some events. -/
def firstCopy (events : List SignedEvent) (eventId : EventId) : Option SignedEvent :=
  events.find? fun event =>
    decide (event.eventId = eventId) && isServableEvent primitives event &&
      isAppended primitives json event

/-- No unverified event of the workspace gets a verified copy in the same workspace
that says something else. -/
def KeepsReadEvents
    (store : EventStore) (workspaceId : String) (interleaved : List SignedEvent) : Prop :=
  ∀ row ∈ store.workspaceRows workspaceId, row.isMarkedValid = false →
    ∀ copy, firstCopy primitives json interleaved row.eventId = some copy →
      copy.event.workspaceId.text = workspaceId → row.readEvent json = .ok copy

variable {primitives json}

/-! ## When the call succeeds -/

theorem exists_insertBatch_iff
    (fault : Option TransactionStep) (position : Nat) (store : EventStore)
    (serialized : List EventRow) :
    (∃ written, insertBatch fault position store serialized = .ok written) ↔
      ∀ reached < position + serialized.length, position ≤ reached →
        fault ≠ some (.insert reached) := by
  induction serialized generalizing position store with
  | nil =>
      simp only [insertBatch, List.length_nil, Nat.add_zero]
      constructor
      · intro _ reached below above
        omega
      · intro _
        exact ⟨store, rfl⟩
  | cons event rest inductionHypothesis =>
      simp only [insertBatch, bind_eq_ok_iff, ensure_eq_ok_iff, List.length_cons]
      have tail := inductionHypothesis (position + 1) (store.insertSerializedEvent event)
      constructor
      · rintro ⟨written, _, first, restWritten⟩ reached below above
        by_cases isFirst : reached = position
        · rw [isFirst]
          exact first
        · exact tail.mp ⟨written, restWritten⟩ reached (by omega) (by omega)
      · intro free
        have first := free position (by omega) (Nat.le_refl position)
        obtain ⟨written, restWritten⟩ :=
          tail.mpr fun reached below above => free reached (by omega) (by omega)
        exact ⟨written, (), first, restWritten⟩

theorem exists_serializedBatch_iff (workspaceId : String) (events : List SignedEvent) :
    (∃ serialized, serializedBatch primitives json workspaceId events = .ok serialized) ↔
      ∀ event ∈ events, ¬ Unwritable primitives json workspaceId event := by
  rw [serializedBatch, exists_mapM_eq_ok_iff]
  refine forall₂_congr fun event _ => ?_
  simp only [bind_eq_ok_iff, ensure_eq_ok_iff, Unwritable, not_or, not_not, Bool.not_eq_false,
    isAppended_iff, rowOf_eq_some_iff]
  constructor
  · rintro ⟨row, _, inWorkspace, written⟩
    exact ⟨inWorkspace, row, written⟩
  · rintro ⟨inWorkspace, row, written⟩
    exact ⟨row, (), inWorkspace, written⟩

theorem length_of_serializedBatch
    {workspaceId : String} {events : List SignedEvent} {serialized : List EventRow}
    (written : serializedBatch primitives json workspaceId events = .ok serialized) :
    serialized.length = events.length :=
  length_of_mapM written

/-- The statements of the transaction, taken together. -/
theorem exists_batchTransaction_iff
    (fault : Option TransactionStep) (current : EventStore) (workspaceId : String)
    (expectedEventIds : List EventId) (serialized : List EventRow) :
    (∃ committed,
        batchTransaction fault current workspaceId expectedEventIds serialized =
          .ok committed) ↔
      ¬ Faulty fault serialized.length ∧
        current.listEventIdsForWorkspace workspaceId = expectedEventIds := by
  have inserted := exists_insertBatch_iff fault 0 current serialized
  simp only [batchTransaction, bind_eq_ok_iff, ensure_eq_ok_iff, Faulty, not_or, not_exists,
    not_and]
  constructor
  · rintro ⟨committed, _, started, _, wasRead, _, sameIds, written, isWritten, _, committing, -⟩
    refine ⟨⟨started, wasRead, ?_, committing⟩, sameIds⟩
    intro position below
    exact inserted.mp ⟨written, isWritten⟩ position (by omega) (Nat.zero_le position)
  · rintro ⟨⟨started, wasRead, free, committing⟩, sameIds⟩
    obtain ⟨written, isWritten⟩ :=
      inserted.mpr fun position below _ => free position (by omega)
    exact ⟨written, (), started, (), wasRead, (), sameIds, written, isWritten, (), committing,
      rfl⟩

theorem append_isOk_iff
    (fault : Option TransactionStep) (current : EventStore) (workspaceId : String)
    (expectedEventIds : List EventId) (events : List SignedEvent) :
    (current.appendEventsAtomicallyIfWorkspaceHistoryMatches primitives json fault workspaceId
        expectedEventIds events).1 = .ok () ↔
      (∀ event ∈ events, ¬ Unwritable primitives json workspaceId event) ∧
        ¬ Faulty fault events.length ∧
          current.listEventIdsForWorkspace workspaceId = expectedEventIds := by
  rw [← exists_serializedBatch_iff]
  unfold EventStore.appendEventsAtomicallyIfWorkspaceHistoryMatches
  cases written : serializedBatch primitives json workspaceId events with
  | error raised => simp
  | ok serialized =>
      rw [← length_of_serializedBatch written, ← exists_batchTransaction_iff]
      cases finished :
          batchTransaction fault current workspaceId expectedEventIds serialized with
      | error raised => simp [finished]
      | ok committed => simp [finished]

/-- A call that fails is rolled back. -/
theorem append_untouched
    {fault : Option TransactionStep} {current : EventStore} {workspaceId : String}
    {expectedEventIds : List EventId} {events : List SignedEvent} {raised : StoreError}
    (failed :
      (current.appendEventsAtomicallyIfWorkspaceHistoryMatches primitives json fault workspaceId
        expectedEventIds events).1 = .error raised) :
    (current.appendEventsAtomicallyIfWorkspaceHistoryMatches primitives json fault workspaceId
      expectedEventIds events).2 = current := by
  unfold EventStore.appendEventsAtomicallyIfWorkspaceHistoryMatches at failed ⊢
  cases written : serializedBatch primitives json workspaceId events with
  | error raised => rfl
  | ok serialized =>
      rw [written] at failed
      dsimp only at failed ⊢
      cases finished :
          batchTransaction fault current workspaceId expectedEventIds serialized with
      | error raised => rfl
      | ok committed =>
          rw [finished] at failed
          cases failed

/-- A batch that is written is appended event by event. -/
theorem append_eq_after
    {fault : Option TransactionStep} {current : EventStore} {workspaceId : String}
    {expectedEventIds : List EventId} {events : List SignedEvent}
    (appended :
      (current.appendEventsAtomicallyIfWorkspaceHistoryMatches primitives json fault workspaceId
        expectedEventIds events).1 = .ok ()) :
    (current.appendEventsAtomicallyIfWorkspaceHistoryMatches primitives json fault workspaceId
      expectedEventIds events).2 = current.after primitives json events := by
  have inserts :
      ∀ (events : List SignedEvent) (rows : List EventRow) (position : Nat)
        (store next : EventStore),
        serializedBatch primitives json workspaceId events = .ok rows →
          insertBatch fault position store rows = .ok next →
            next = store.after primitives json events := by
    intro events
    induction events with
    | nil =>
        intro rows position store next serialized inserted
        cases serialized
        cases inserted
        rfl
    | cons event rest inductionHypothesis =>
        intro rows position store next serialized inserted
        obtain ⟨row, restRows, isRow, restSerialized, rfl⟩ := mapM_cons_eq_ok_iff.mp serialized
        simp only [bind_eq_ok_iff, ensure_eq_ok_iff] at isRow
        obtain ⟨_, -, isRow⟩ := isRow
        simp only [insertBatch, bind_eq_ok_iff, ensure_eq_ok_iff] at inserted
        obtain ⟨_, -, inserted⟩ := inserted
        have single :
            store.after primitives json [event] = store.insertSerializedEvent row := by
          simp only [EventStore.after, runSkipping, EventStore.appendEvent, isRow, bind,
            Except.bind]
        rw [after_cons, single]
        exact inductionHypothesis restRows (position + 1) _ next restSerialized inserted
  unfold EventStore.appendEventsAtomicallyIfWorkspaceHistoryMatches at appended ⊢
  cases serialized : serializedBatch primitives json workspaceId events with
  | error raised => simp [serialized] at appended
  | ok rows =>
      simp only [serialized] at appended ⊢
      cases committed : batchTransaction fault current workspaceId expectedEventIds rows with
      | error raised => simp [committed] at appended
      | ok written =>
          dsimp only
          simp only [batchTransaction, bind_eq_ok_iff, ensure_eq_ok_iff, Except.ok.injEq]
            at committed
          obtain ⟨_, -, _, -, _, -, inserted, isInserted, _, -, rfl⟩ := committed
          exact inserts events rows 0 current inserted serialized isInserted

/-! ## The rows behind the same IDs -/

section Rows

variable {store : EventStore} {workspaceId : String} {interleaved : List SignedEvent}

/-- The row that an ID of the store has after some appended events. -/
theorem entryOf_after_of_mem
    {row : EventRow} (member : row ∈ store.rows) :
    entryOf EventRow.eventId row.eventId
        (store.after primitives json interleaved).rows =
      if row.isMarkedValid then
        some row
      else
        ((firstCopy primitives json interleaved row.eventId).bind
          (rowOf primitives json)).or (some row) := by
  have found := entryOf_of_mem store.distinct member
  rw [rows_after]
  by_cases isMarked : row.isMarkedValid = true
  · rw [if_pos isMarked, entryOf_settle_of_settled found isMarked]
  · rw [if_neg isMarked, entryOf_settle_of_unsettled found (by simpa using isMarked),
      List.find?_filterMap]
    congr 3
    funext event
    rw [Bool.eq_iff_iff, rowOf_any_iff]
    constructor
    · intro copy
      simp [copy.sameId, copy.servable, copy.appended]
    · intro holds
      simp only [Bool.and_eq_true, decide_eq_true_eq] at holds
      exact
        { sameId := holds.1.1
          servable := holds.1.2
          appended := holds.2 }

/-- With the same IDs in the listing, the rows of the workspace are what the appended
events made of the rows that were there. -/
theorem workspaceRows_after
    (sameIds :
      (store.after primitives json interleaved).listEventIdsForWorkspace workspaceId =
        store.listEventIdsForWorkspace workspaceId) :
    (store.after primitives json interleaved).workspaceRows workspaceId =
      (store.workspaceRows workspaceId).map fun row =>
        (entryOf EventRow.eventId row.eventId
          (store.after primitives json interleaved).rows).getD row := by
  have mapped :
      (((store.after primitives json interleaved).workspaceRows workspaceId).map
          EventRow.eventId).map (fun wanted => entryOf EventRow.eventId wanted
            (store.after primitives json interleaved).rows) =
        ((store.after primitives json interleaved).workspaceRows workspaceId).map some :=
    map_entryOf (store.after primitives json interleaved).distinct
      fun row member => List.mem_of_mem_filter member
  rw [EventStore.listEventIdsForWorkspace, EventStore.listEventIdsForWorkspace] at sameIds
  rw [sameIds, List.map_map] at mapped
  apply List.map_injective_iff.mpr (Option.some_injective EventRow)
  rw [← mapped, List.map_map]
  apply List.map_congr_left
  intro row member
  have entry :=
    @entryOf_after_of_mem primitives json store interleaved row (List.mem_of_mem_filter member)
  rw [Function.comp_apply, Function.comp_apply, entry]
  split
  · rfl
  · rw [Option.or_some]
    rfl

/-- The row of an event reads as that event. -/
theorem readEvent_rowOf
    (roundTrips : json.RoundTrips) {event : SignedEvent} {row : EventRow}
    (isRow : rowOf primitives json event = some row) :
    row.readEvent json = .ok event := by
  obtain ⟨-, -, -, -, written, small⟩ := rowOf_spec isRow
  have isRead := roundTrips event row.eventJson written
  simp [EventRow.readEvent, EventRow.boundedJson, boundedEventJsonOrError, validateEventJsonSize,
    small, isRead]

/-- A first copy can be appended. -/
theorem rowOf_of_firstCopy
    {events : List SignedEvent} {eventId : EventId} {copy : SignedEvent}
    (isFirst : firstCopy primitives json events eventId = some copy) :
    ∃ row, rowOf primitives json copy = some row ∧ row.eventId = eventId := by
  have holds := List.find?_some isFirst
  simp only [Bool.and_eq_true, decide_eq_true_eq] at holds
  obtain ⟨row, isRow⟩ := isAppended_iff.mp holds.2
  exact ⟨row, isRow, (rowOf_spec isRow).1.trans holds.1.1⟩

/-- A row still reads as the same event exactly when no other copy replaced it. -/
theorem readEvent_after_iff
    (roundTrips : json.RoundTrips)
    (sameIds :
      (store.after primitives json interleaved).listEventIdsForWorkspace workspaceId =
        store.listEventIdsForWorkspace workspaceId)
    {row : EventRow} (member : row ∈ store.workspaceRows workspaceId) :
    ((entryOf EventRow.eventId row.eventId
          (store.after primitives json interleaved).rows).getD row).readEvent json =
        row.readEvent json ↔
      (row.isMarkedValid = false →
        ∀ copy, firstCopy primitives json interleaved row.eventId = some copy →
          copy.event.workspaceId.text = workspaceId → row.readEvent json = .ok copy) := by
  rw [entryOf_after_of_mem (List.mem_of_mem_filter member)]
  by_cases isMarked : row.isMarkedValid = true
  · rw [if_pos isMarked]
    simp [isMarked]
  · rw [if_neg isMarked]
    cases isFirst : firstCopy primitives json interleaved row.eventId with
    | none => simp
    | some copy =>
        obtain ⟨copyRow, isRow, sameId⟩ := rowOf_of_firstCopy isFirst
        have entry :=
          @entryOf_after_of_mem primitives json store interleaved row
            (List.mem_of_mem_filter member)
        rw [if_neg isMarked, isFirst, Option.bind_some, isRow, Option.some_or] at entry
        -- the listing still has the ID, so the copy is in the workspace
        have inWorkspace : copy.event.workspaceId.text = workspaceId := by
          have listed :
              row.eventId ∈
                (store.after primitives json interleaved).listEventIdsForWorkspace
                  workspaceId := by
            rw [sameIds]
            exact List.mem_map_of_mem member
          obtain ⟨now, isNow, nowId⟩ := List.mem_map.mp listed
          obtain ⟨nowMember, nowWorkspace⟩ := List.mem_filter.mp isNow
          have nowEntry :=
            entryOf_of_mem (store.after primitives json interleaved).distinct nowMember
          rw [nowId, entry, Option.some.injEq] at nowEntry
          rw [← (rowOf_spec isRow).2.1, nowEntry]
          exact of_decide_eq_true nowWorkspace
        rw [Option.bind_some, isRow, Option.some_or, Option.getD_some,
          readEvent_rowOf roundTrips isRow]
        constructor
        · intro same _ other isOther _
          rw [← Option.some.inj isOther]
          exact same.symm
        · intro keeps
          exact (keeps (by simpa using isMarked) copy rfl inWorkspace).symm

end Rows

end AtomicAppend

end Chaft

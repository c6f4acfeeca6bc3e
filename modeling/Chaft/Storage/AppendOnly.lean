import Chaft.Storage.EventStore

/-!
# What a store of appended events serves

An event ID can first arrive with content that does not verify and later with
content that does.  The first content that verifies is served from then on, and
the position of the ID is that of its first arrival.
-/

namespace Chaft

open Outcome KeyedLog Transition

section AppendOnly

variable (primitives : Primitives) (json : EventJson)

/-- The store after a sequence of `append_event` calls; a call that fails leaves it
as it was. -/
def EventStore.after (store : EventStore) (events : List SignedEvent) : EventStore :=
  runSkipping (EventStore.appendEvent primitives json) store events

/-- `append_event` succeeds on the event. -/
def isAppended (event : SignedEvent) : Bool :=
  (serializedEvent primitives json event).isOk

/-- An appended event of the given ID that verifies. -/
structure VerifiedCopy (eventId : EventId) (event : SignedEvent) : Prop where
  sameId : event.eventId = eventId
  servable : isServableEvent primitives event = true
  appended : isAppended primitives json event = true

/-- The row of an event that can be appended. -/
def rowOf (event : SignedEvent) : Option EventRow :=
  (serializedEvent primitives json event).toOption

variable {primitives json}

theorem rowOf_eq_some_iff {event : SignedEvent} {row : EventRow} :
    rowOf primitives json event = some row ↔
      serializedEvent primitives json event = .ok row := by
  rw [rowOf]
  cases serializedEvent primitives json event <;> simp [Except.toOption]

theorem isAppended_iff {event : SignedEvent} :
    isAppended primitives json event = true ↔ ∃ row, rowOf primitives json event = some row := by
  rw [isAppended, rowOf]
  cases serializedEvent primitives json event <;> simp [Except.toOption, Except.isOk, Except.toBool]

/-- What the row of an event holds. -/
theorem rowOf_spec
    {event : SignedEvent} {row : EventRow} (isRow : rowOf primitives json event = some row) :
    row.eventId = event.eventId ∧ row.workspaceId = event.event.workspaceId.text ∧
      (row.selfContainedSignatureValid = some 1 ↔ isServableEvent primitives event = true) ∧
        (row.isMarkedValid = true ↔ isServableEvent primitives event = true) ∧
          json.toVec event = some row.eventJson ∧ row.eventJson.length ≤ eventJsonMaxBytes := by
  rw [rowOf_eq_some_iff] at isRow
  simp only [serializedEvent, bind_eq_ok_iff, okOr_eq_ok_iff, validateEventJsonSize,
    ensure_eq_ok_iff, Except.ok.injEq] at isRow
  obtain ⟨bytes, written, _, small, rfl⟩ := isRow
  refine ⟨rfl, rfl, ?_, ?_, written, small⟩
  · cases isServableEvent primitives event <;> simp [boolToSqliteInteger]
  · cases isServableEvent primitives event <;> simp [boolToSqliteInteger, EventRow.isMarkedValid]

theorem after_cons (store : EventStore) (event : SignedEvent) (rest : List SignedEvent) :
    store.after primitives json (event :: rest) =
      (store.after primitives json [event]).after primitives json rest := by
  simp only [EventStore.after, runSkipping]
  cases EventStore.appendEvent primitives json store event <;> rfl

theorem after_append (store : EventStore) (earlier later : List SignedEvent) :
    store.after primitives json (earlier ++ later) =
      (store.after primitives json earlier).after primitives json later := by
  induction earlier generalizing store with
  | nil => rfl
  | cons event rest inductionHypothesis =>
      rw [List.cons_append, after_cons, after_cons store event rest, inductionHypothesis]

/-- The rows after a sequence of calls. -/
theorem rows_after (store : EventStore) (events : List SignedEvent) :
    (store.after primitives json events).rows =
      (events.filterMap (rowOf primitives json)).foldl
        (settle EventRow.eventId EventRow.isMarkedValid) store.rows := by
  induction events generalizing store with
  | nil => rfl
  | cons event rest inductionHypothesis =>
      rw [EventStore.after, runSkipping, EventStore.appendEvent]
      cases written : serializedEvent primitives json event with
      | error raised =>
          have noRow : rowOf primitives json event = none := by rw [rowOf, written]; rfl
          rw [List.filterMap_cons_none noRow]
          exact inductionHypothesis store
      | ok row =>
          rw [List.filterMap_cons_some (rowOf_eq_some_iff.mpr written), List.foldl_cons]
          exact inductionHypothesis (store.insertSerializedEvent row)

/-- The row of an event is marked valid under an ID exactly for a verified copy. -/
theorem rowOf_any_iff (eventId : EventId) (event : SignedEvent) :
    ((rowOf primitives json event).any fun row =>
        decide (row.eventId = eventId) && row.isMarkedValid) = true ↔
      VerifiedCopy primitives json eventId event := by
  constructor
  · intro marked
    cases isRow : rowOf primitives json event with
    | none =>
        rw [isRow] at marked
        cases marked
    | some row =>
        obtain ⟨sameId, -, -, valid, -⟩ := rowOf_spec isRow
        rw [isRow, Option.any_some, Bool.and_eq_true, decide_eq_true_eq, valid, sameId]
          at marked
        exact
          { sameId := marked.1
            servable := marked.2
            appended := isAppended_iff.mpr ⟨row, isRow⟩ }
  · intro copy
    obtain ⟨row, isRow⟩ := isAppended_iff.mp copy.appended
    obtain ⟨sameId, -, -, valid, -⟩ := rowOf_spec isRow
    rw [isRow, Option.any_some, Bool.and_eq_true, decide_eq_true_eq, valid, sameId]
    exact ⟨copy.sameId, copy.servable⟩

section Run

variable {events : List SignedEvent} {eventId : EventId}

/-- Without a verified copy the row of an ID is not marked valid. -/
theorem unmarked_of_noCopy
    (noCopy : ∀ event ∈ events, ¬ VerifiedCopy primitives json eventId event)
    {row : EventRow}
    (found :
      entryOf EventRow.eventId eventId
        (EventStore.empty.after primitives json events).rows = some row) :
    row.selfContainedSignatureValid ≠ some 1 := by
  have noneMarked :
      (events.filterMap (rowOf primitives json)).find?
        (fun row => decide (row.eventId = eventId) && row.isMarkedValid) = none := by
    rw [List.find?_eq_none]
    intro marked isMarked holds
    obtain ⟨event, isEvent, isRow⟩ := List.mem_filterMap.mp isMarked
    apply noCopy event isEvent
    rw [← rowOf_any_iff, isRow]
    exact holds
  rw [rows_after, entryOf_settle_of_absent rfl, noneMarked, Option.none_or] at found
  obtain ⟨event, isEvent, isRow⟩ := List.mem_filterMap.mp (List.mem_of_find?_eq_some found)
  obtain ⟨sameId, -, valid, -⟩ := rowOf_spec isRow
  have isId : row.eventId = eventId := by simpa using List.find?_some found
  intro marked
  refine noCopy event isEvent
    { sameId := sameId.symm.trans isId
      servable := valid.mp marked
      appended := isAppended_iff.mpr ⟨row, isRow⟩ }

/-- The first verified copy has the row of its ID. -/
theorem entry_of_firstCopy
    {earlier later : List SignedEvent} {event : SignedEvent}
    (noneEarlier : ∀ other ∈ earlier, ¬ VerifiedCopy primitives json eventId other)
    (copy : VerifiedCopy primitives json eventId event) :
    entryOf EventRow.eventId eventId
        (EventStore.empty.after primitives json (earlier ++ event :: later)).rows =
      rowOf primitives json event := by
  obtain ⟨row, isRow⟩ := isAppended_iff.mp copy.appended
  have firstMarked :
      ((earlier ++ event :: later).filterMap (rowOf primitives json)).find?
        (fun row => decide (row.eventId = eventId) && row.isMarkedValid) = some row := by
    rw [List.find?_filterMap, List.find?_append]
    have skipped :
        earlier.find? (fun event =>
          (rowOf primitives json event).any fun row =>
            decide (row.eventId = eventId) && row.isMarkedValid) = none := by
      rw [List.find?_eq_none]
      intro other isOther marked
      exact noneEarlier other isOther ((rowOf_any_iff eventId other).mp marked)
    have taken :
        (event :: later).find? (fun event =>
          (rowOf primitives json event).any fun row =>
            decide (row.eventId = eventId) && row.isMarkedValid) = some event :=
      List.find?_cons_of_pos ((rowOf_any_iff eventId event).mpr copy)
    rw [skipped, Option.none_or, taken]
    exact isRow
  rw [rows_after, entryOf_settle_of_absent rfl, firstMarked, Option.some_or, isRow]

theorem getServableEvent_eq (store : EventStore) (eventId : EventId) :
    store.getServableEvent json eventId =
      ((entryOf EventRow.eventId eventId store.rows).filter EventStore.isServableRow).bind
        fun row => json.fromSlice row.eventJson := by
  rw [EventStore.getServableEvent, find?_key_and store.distinct]

/-- A servable ID is listed once. -/
theorem count_listServableEventIds (store : EventStore) (eventId : EventId) :
    store.listServableEventIds.count eventId =
      if ((entryOf EventRow.eventId eventId store.rows).filter
          EventStore.isServableRow).isSome then
        1
      else
        0 := by
  have distinct : store.listServableEventIds.Nodup :=
    store.distinct.sublist (List.filter_sublist.map _)
  have listed :
      eventId ∈ store.listServableEventIds ↔
        ((entryOf EventRow.eventId eventId store.rows).filter
          EventStore.isServableRow).isSome = true := by
    rw [EventStore.listServableEventIds, List.mem_map, Option.isSome_iff_exists]
    constructor
    · rintro ⟨row, member, rfl⟩
      obtain ⟨isRow, servable⟩ := List.mem_filter.mp member
      rw [entryOf_of_mem store.distinct isRow]
      exact ⟨row, Option.filter_eq_some_iff.mpr ⟨rfl, servable⟩⟩
    · rintro ⟨row, found⟩
      obtain ⟨isEntry, servable⟩ := Option.filter_eq_some_iff.mp found
      obtain ⟨isRow, isId⟩ := entryOf_eq_some isEntry
      exact ⟨row, List.mem_filter.mpr ⟨isRow, servable⟩, isId⟩
  rw [distinct.count]
  simp only [listed]

theorem listEventIds_after (events : List SignedEvent) :
    (EventStore.empty.after primitives json events).listEventIds =
      firstArrivals ((events.filter (isAppended primitives json)).map SignedEvent.eventId) := by
  have arrived :
      (events.filterMap (rowOf primitives json)).map EventRow.eventId =
        (events.filter (isAppended primitives json)).map SignedEvent.eventId := by
    induction events with
    | nil => rfl
    | cons event rest inductionHypothesis =>
        cases isRow : rowOf primitives json event with
        | none =>
            have refused : ¬ isAppended primitives json event = true := by
              rw [isAppended_iff, isRow]
              simp
            rw [List.filterMap_cons_none isRow, List.filter_cons_of_neg refused,
              inductionHypothesis]
        | some row =>
            have appended : isAppended primitives json event = true :=
              isAppended_iff.mpr ⟨row, isRow⟩
            rw [List.filterMap_cons_some isRow, List.filter_cons_of_pos appended,
              List.map_cons, List.map_cons, inductionHypothesis, (rowOf_spec isRow).1]
  rw [EventStore.listEventIds, rows_after, ← arrived]
  exact map_key_foldl_upsert _

end Run

end AppendOnly

/-- What an append-only store of events serves under an ID: nothing before the first
event of the ID that verifies, and that event, listed once, from then on.  IDs are
listed in the order in which they first arrived. -/
theorem eventStore_appendOnly
    (primitives : Primitives) (json : EventJson) (roundTrips : json.RoundTrips)
    (eventId : EventId) :
    (∀ events : List SignedEvent,
        (∀ event ∈ events, ¬ VerifiedCopy primitives json eventId event) →
          (EventStore.empty.after primitives json events).getServableEvent json eventId = none ∧
            eventId ∉ (EventStore.empty.after primitives json events).listServableEventIds) ∧
      (∀ (earlier later : List SignedEvent) (event : SignedEvent),
        (∀ other ∈ earlier, ¬ VerifiedCopy primitives json eventId other) →
          VerifiedCopy primitives json eventId event →
            let store := EventStore.empty.after primitives json (earlier ++ event :: later)
            store.getServableEvent json eventId = some event ∧
              store.listServableEventIds.count eventId = 1) ∧
        ∀ events : List SignedEvent,
          (EventStore.empty.after primitives json events).listEventIds =
            firstArrivals
              ((events.filter (isAppended primitives json)).map SignedEvent.eventId) := by
  refine ⟨?_, ?_, fun events => listEventIds_after events⟩
  · intro events noCopy
    have unserved :
        (entryOf EventRow.eventId eventId
          (EventStore.empty.after primitives json events).rows).filter
            EventStore.isServableRow = none := by
      rw [Option.filter_eq_none_iff]
      intro row found
      have unmarked := unmarked_of_noCopy noCopy found
      simp [EventStore.isServableRow, unmarked]
    rw [getServableEvent_eq, unserved, ← List.count_eq_zero, count_listServableEventIds, unserved]
    exact ⟨rfl, rfl⟩
  · intro earlier later event noneEarlier copy
    obtain ⟨row, isRow⟩ := isAppended_iff.mp copy.appended
    obtain ⟨-, -, valid, -, written, small⟩ := rowOf_spec isRow
    have served :
        (entryOf EventRow.eventId eventId
          (EventStore.empty.after primitives json (earlier ++ event :: later)).rows).filter
            EventStore.isServableRow = some row := by
      rw [entry_of_firstCopy noneEarlier copy, isRow, Option.filter_eq_some_iff]
      exact ⟨rfl, by simp [EventStore.isServableRow, valid.mpr copy.servable, small]⟩
    dsimp only
    rw [getServableEvent_eq, count_listServableEventIds, served]
    exact ⟨roundTrips event row.eventJson written, rfl⟩

/-- The forged event comes first and the signed one is served. -/
theorem eventStore_appendOnly_home :
    (EventStore.empty.after homePrimitives homeJson [forgedHome, signedHome]).getServableEvent
        homeJson signedHome.eventId = some signedHome ∧
      (EventStore.empty.after homePrimitives homeJson
        [forgedHome, signedHome]).listServableEventIds.count signedHome.eventId = 1 := by
  refine (eventStore_appendOnly homePrimitives homeJson homeJson_roundTrips
    signedHome.eventId).2.1 [forgedHome] [] signedHome ?_ ?_
  · intro other member copy
    rw [List.mem_singleton.mp member] at copy
    have unservable : isServableEvent homePrimitives forgedHome = false := by decide +kernel
    rw [copy.servable] at unservable
    cases unservable
  · exact
      { sameId := rfl
        servable := signedHome_servable
        appended := by decide +kernel }

end Chaft

import Chaft.Storage.ParseableRows

/-!
# Served events

A store of appended events serves under an ID the first of them that verifies.  More events
never change what is served already, and a verified event is served from its arrival on.
-/

namespace Chaft

open Outcome KeyedLog Transition

section Served

variable (primitives : Primitives) (json : EventJson)

/-- An appended event of the ID that verifies. -/
def isVerifiedCopy (eventId : EventId) (event : SignedEvent) : Bool :=
  decide (event.eventId = eventId) && isServableEvent primitives event &&
    isAppended primitives json event

variable {primitives json}

theorem isVerifiedCopy_iff (eventId : EventId) (event : SignedEvent) :
    isVerifiedCopy primitives json eventId event = true ↔
      VerifiedCopy primitives json eventId event := by
  rw [isVerifiedCopy, Bool.and_eq_true, Bool.and_eq_true, decide_eq_true_eq]
  constructor
  · intro holds
    exact ⟨holds.1.1, holds.1.2, holds.2⟩
  · intro copy
    exact ⟨⟨copy.sameId, copy.servable⟩, copy.appended⟩

section Store

variable (roundTrips : json.RoundTrips) (history : List SignedEvent)

include roundTrips in
/-- What a store serves is the first verified copy of its history. -/
theorem getServableEvent_after (eventId : EventId) :
    (EventStore.empty.after primitives json history).getServableEvent json eventId =
      history.find? (isVerifiedCopy primitives json eventId) := by
  rw [getServableEvent_eq]
  cases found : history.find? (isVerifiedCopy primitives json eventId) with
  | none =>
      rw [List.find?_eq_none] at found
      have noCopy :
          ∀ event ∈ history, ¬ VerifiedCopy primitives json eventId event := by
        intro event member copy
        exact found event member ((isVerifiedCopy_iff eventId event).mpr copy)
      have unserved :
          (entryOf EventRow.eventId eventId
            (EventStore.empty.after primitives json history).rows).filter
              EventStore.isServableRow = none := by
        rw [Option.filter_eq_none_iff]
        intro row isEntry
        have unmarked := unmarked_of_noCopy noCopy isEntry
        simp [EventStore.isServableRow, unmarked]
      rw [unserved, Option.bind_none]
  | some event =>
      obtain ⟨isCopy, earlier, later, isSplit, noneEarlier⟩ :=
        List.find?_eq_some_iff_append.mp found
      have copy := (isVerifiedCopy_iff eventId event).mp isCopy
      have noCopyEarlier :
          ∀ other ∈ earlier, ¬ VerifiedCopy primitives json eventId other := by
        intro other member otherCopy
        have refused := noneEarlier other member
        rw [(isVerifiedCopy_iff eventId other).mpr otherCopy] at refused
        cases refused
      obtain ⟨row, isRow⟩ := isAppended_iff.mp copy.appended
      obtain ⟨-, -, valid, -, written, small⟩ := rowOf_spec isRow
      have servable : EventStore.isServableRow row = true := by
        simp [EventStore.isServableRow, valid.mpr copy.servable, small]
      rw [isSplit, entry_of_firstCopy noCopyEarlier copy, isRow, Option.filter_some,
        if_pos servable, Option.bind_some]
      exact roundTrips event row.eventJson written

include roundTrips in
/-- A served event verifies and is one of those that were appended. -/
theorem copy_of_served
    {eventId : EventId} {event : SignedEvent}
    (served :
      (EventStore.empty.after primitives json history).getServableEvent json eventId =
        some event) :
    event ∈ history ∧ VerifiedCopy primitives json eventId event := by
  rw [getServableEvent_after roundTrips] at served
  exact ⟨List.mem_of_find?_eq_some served,
    (isVerifiedCopy_iff eventId event).mp (List.find?_some served)⟩

include roundTrips in
/-- What is served stays served. -/
theorem served_after_append
    {eventId : EventId} {event : SignedEvent}
    (served :
      (EventStore.empty.after primitives json history).getServableEvent json eventId = some event)
    (added : List SignedEvent) :
    (EventStore.empty.after primitives json (history ++ added)).getServableEvent json eventId =
      some event := by
  rw [getServableEvent_after roundTrips] at served ⊢
  rw [List.find?_append, served, Option.some_or]

include roundTrips in
/-- What is served under an ID that was not served before is one of the added events. -/
theorem served_of_append
    {added : List SignedEvent} {eventId : EventId} {event : SignedEvent}
    (served :
      (EventStore.empty.after primitives json (history ++ added)).getServableEvent json eventId =
        some event) :
    (EventStore.empty.after primitives json history).getServableEvent json eventId = some event ∨
      event ∈ added ∧ VerifiedCopy primitives json eventId event := by
  rw [getServableEvent_after roundTrips] at served ⊢
  rw [List.find?_append] at served
  cases before : history.find? (isVerifiedCopy primitives json eventId) with
  | some earlier =>
      rw [before, Option.some_or] at served
      exact Or.inl served
  | none =>
      rw [before, Option.none_or] at served
      exact Or.inr ⟨List.mem_of_find?_eq_some served,
        (isVerifiedCopy_iff eventId event).mp (List.find?_some served)⟩

include roundTrips in
/-- The ID of a verified event is served once the event is appended. -/
theorem served_of_mem
    {eventId : EventId} {event : SignedEvent} (member : event ∈ history)
    (copy : VerifiedCopy primitives json eventId event) :
    ∃ served, (EventStore.empty.after primitives json history).getServableEvent json eventId =
      some served := by
  rw [getServableEvent_after roundTrips, ← Option.isSome_iff_exists, List.find?_isSome]
  exact ⟨event, member, (isVerifiedCopy_iff eventId event).mpr copy⟩

include roundTrips in
/-- The listed IDs of a workspace are those of its served events. -/
theorem mem_listServableForWorkspace_iff (workspaceId : String) (eventId : EventId) :
    eventId ∈ (EventStore.empty.after primitives json history).listServableEventIdsForWorkspace
        workspaceId ↔
      ∃ event,
        (EventStore.empty.after primitives json history).getServableEvent json eventId =
            some event ∧
          event.event.workspaceId.text = workspaceId := by
  have writtenFrom := @writtenFrom_after primitives json history
  rw [EventStore.listServableEventIdsForWorkspace, EventStore.servableRowsForWorkspace,
    List.mem_map]
  constructor
  · intro listed
    obtain ⟨row, inWorkspace, sameId⟩ := listed
    rw [List.mem_filter, Bool.and_eq_true, decide_eq_true_eq] at inWorkspace
    obtain ⟨member, rowWorkspace, servable⟩ := inWorkspace
    obtain ⟨event, -, isRow⟩ := writtenFrom row member
    obtain ⟨-, sameWorkspace, -, -, written, -⟩ := rowOf_spec isRow
    refine ⟨event, ?_, sameWorkspace.symm.trans rowWorkspace⟩
    rw [getServableEvent_eq, ← sameId,
      entryOf_of_mem (EventStore.empty.after primitives json history).distinct member,
      Option.filter_some, if_pos servable, Option.bind_some]
    exact roundTrips event row.eventJson written
  · intro served
    obtain ⟨event, isServed, sameWorkspace⟩ := served
    rw [getServableEvent_eq, Option.bind_eq_some_iff] at isServed
    obtain ⟨row, isEntry, parsed⟩ := isServed
    obtain ⟨isEntry, servable⟩ := Option.filter_eq_some_iff.mp isEntry
    obtain ⟨member, sameId⟩ := entryOf_eq_some isEntry
    obtain ⟨origin, -, isRow⟩ := writtenFrom row member
    obtain ⟨-, rowWorkspace, -, -, written, -⟩ := rowOf_spec isRow
    have same : origin = event :=
      Option.some.inj ((roundTrips origin row.eventJson written).symm.trans parsed)
    subst same
    refine ⟨row, List.mem_filter.mpr ⟨member, ?_⟩, sameId⟩
    rw [Bool.and_eq_true, decide_eq_true_eq]
    exact ⟨rowWorkspace.trans sameWorkspace, servable⟩

end Store

end Served

end Chaft

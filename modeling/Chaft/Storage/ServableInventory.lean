import Chaft.Storage.AppendOnly
import Chaft.Storage.BlobDescriptor

/-!
# Listing servable events

A peer lists the IDs of the events it can serve, all of them or those of one
workspace, whole or by pages.  Rows of new IDs only lengthen the list.
-/

namespace Chaft

open Outcome KeyedLog Transition

/-! ## Reading -/

def maxEventStorePageRows : Nat := 1024

/-- A `usize` as a 64-bit SQLite integer. -/
def sqlitePageValue (value : Nat) : Nat :=
  min value (2 ^ 63 - 1)

def sqlitePageLimitValue (value : Nat) : Nat :=
  sqlitePageValue (min value maxEventStorePageRows)

/-- `LIMIT … OFFSET …`. -/
def sqlitePage (rows : List EventRow) (startIndex limit : Nat) : List EventRow :=
  (rows.drop (sqlitePageValue startIndex)).take (sqlitePageLimitValue limit)

namespace EventStore

variable (store : EventStore)

def servableRowsForWorkspace (workspaceId : String) : List EventRow :=
  store.rows.filter fun row => decide (row.workspaceId = workspaceId) && isServableRow row

def countServableEventsForWorkspace (workspaceId : String) : Nat :=
  (store.servableRowsForWorkspace workspaceId).length

def listServableEventIdsForWorkspace (workspaceId : String) : List EventId :=
  (store.servableRowsForWorkspace workspaceId).map EventRow.eventId

def listServableEventIdsForWorkspacePage
    (workspaceId : String) (startIndex limit : Nat) : List EventId :=
  (sqlitePage (store.servableRowsForWorkspace workspaceId) startIndex limit).map EventRow.eventId

def countServableEvents : Nat :=
  (store.rows.filter isServableRow).length

def listServableEventIdsPage (startIndex limit : Nat) : List EventId :=
  (sqlitePage (store.rows.filter isServableRow) startIndex limit).map EventRow.eventId

theorem nodup_listServableEventIdsForWorkspace (workspaceId : String) :
    (store.listServableEventIdsForWorkspace workspaceId).Nodup :=
  store.distinct.sublist (List.filter_sublist.map _)

end EventStore

/-! ## Canonical IDs -/

/-- `evt_` and 64 lowercase hexadecimal digits. -/
def isCanonicalEventIdStr (value : String) : Bool :=
  match value.toList.dropPrefix? "evt_".toList with
  | some hash => decide (hash.length = 64) && hash.all isLowerHexDigit
  | none => false

theorem isCanonicalEventIdStr_of_isBlobHash {hash : String} (isHash : isBlobHash hash = true) :
    isCanonicalEventIdStr ("evt_" ++ hash) = true := by
  have dropped : ("evt_" ++ hash).toList.dropPrefix? "evt_".toList = some hash.toList := by
    rw [String.toList_append]
    exact List.dropPrefix?_append_of_beq hash.toList BEq.rfl
  rw [isCanonicalEventIdStr, dropped]
  exact isHash

section Growth

variable {primitives : Primitives} {json : EventJson}

/-- The ID of an event that verifies is canonical. -/
theorem isCanonicalEventIdStr_of_servable
    (hexDigests : HexDigests primitives.blake3Hex) {event : SignedEvent}
    (servable : isServableEvent primitives event = true) :
    isCanonicalEventIdStr event.eventId.text = true := by
  have verified : verifySelfContainedEvent primitives event = .ok () := by
    unfold isServableEvent at servable
    cases outcome : verifySelfContainedEvent primitives event with
    | error raised => simp [outcome, Except.isOk, Except.toBool] at servable
    | ok done => rfl
  simp only [verifySelfContainedEvent, bind_eq_ok_iff, ensure_eq_ok_iff] at verified
  obtain ⟨_, _, _, _, _, _, _, _, _, sameId, _⟩ := verified
  rw [← sameId]
  exact isCanonicalEventIdStr_of_isBlobHash (hexDigests _)

/-- The rows of a store that are marked valid have canonical IDs. -/
def CanonicalRows (store : EventStore) : Prop :=
  ∀ row ∈ store.rows, EventStore.isServableRow row = true →
    isCanonicalEventIdStr row.eventId.text = true

theorem canonicalRows_insert
    (hexDigests : HexDigests primitives.blake3Hex) {store : EventStore} {event : SignedEvent}
    {row : EventRow} (canonical : CanonicalRows store)
    (isRow : rowOf primitives json event = some row) :
    CanonicalRows (store.insertSerializedEvent row) := by
  have rowCanonical :
      EventStore.isServableRow row = true → isCanonicalEventIdStr row.eventId.text = true := by
    intro servable
    obtain ⟨sameId, -, valid, -⟩ := rowOf_spec isRow
    rw [EventStore.isServableRow, Bool.and_eq_true, decide_eq_true_eq] at servable
    rw [sameId]
    exact isCanonicalEventIdStr_of_servable hexDigests (valid.mp servable.1)
  intro other member
  simp only [EventStore.insertSerializedEvent, settle, upsert] at member
  split at member
  · obtain ⟨entry, isEntry, rfl⟩ := List.mem_map.mp member
    split
    · exact rowCanonical
    · exact canonical entry isEntry
  · rcases List.mem_append.mp member with earlier | isNew
    · exact canonical other earlier
    · rw [List.mem_singleton.mp isNew]
      exact rowCanonical

/-- Appending keeps the IDs of valid rows canonical. -/
theorem canonicalRows_after
    (hexDigests : HexDigests primitives.blake3Hex) {store : EventStore}
    (canonical : CanonicalRows store) (events : List SignedEvent) :
    CanonicalRows (store.after primitives json events) := by
  unfold EventStore.after
  have any : ∀ action : SignedEvent, action ∈ events → True := fun _ _ => trivial
  refine runSkipping_invariant any canonical ?_
  intro state event next stateCanonical _ appended
  rw [EventStore.appendEvent, bind_eq_ok_iff] at appended
  obtain ⟨row, written, inserted⟩ := appended
  cases inserted
  exact canonicalRows_insert hexDigests stateCanonical (rowOf_eq_some_iff.mpr written)

/-! ## Growth by new IDs -/

variable (primitives json) in
/-- Each event is appended when the store has no row of its ID. -/
def FreshEvents : EventStore → List SignedEvent → Prop
  | _, [] => True
  | store, event :: rest =>
      event.eventId ∉ store.listEventIds ∧ FreshEvents (store.after primitives json [event]) rest

/-- A row of a new ID is appended at the end. -/
theorem rows_insert_of_fresh
    {store : EventStore} {row : EventRow} (fresh : row.eventId ∉ store.listEventIds) :
    (store.insertSerializedEvent row).rows = store.rows ++ [row] := by
  rw [EventStore.listEventIds] at fresh
  simp only [EventStore.insertSerializedEvent, settle, upsert, fresh, if_false]

theorem rows_prefix_of_fresh
    {store : EventStore} {events : List SignedEvent}
    (fresh : FreshEvents primitives json store events) :
    store.rows <+: (store.after primitives json events).rows := by
  induction events generalizing store with
  | nil => exact List.prefix_rfl
  | cons event rest inductionHypothesis =>
      obtain ⟨isNew, restFresh⟩ := fresh
      rw [after_cons]
      refine List.IsPrefix.trans ?_ (inductionHypothesis restFresh)
      simp only [EventStore.after, runSkipping]
      cases appended : EventStore.appendEvent primitives json store event with
      | error raised => exact List.prefix_rfl
      | ok next =>
          rw [EventStore.appendEvent, bind_eq_ok_iff] at appended
          obtain ⟨row, written, inserted⟩ := appended
          cases inserted
          have sameId := (rowOf_spec (rowOf_eq_some_iff.mpr written)).1
          have rowNew : row.eventId ∉ store.listEventIds := by rwa [sameId]
          dsimp only
          rw [rows_insert_of_fresh rowNew]
          exact List.prefix_append store.rows [row]

/-- New IDs only lengthen the list of servable ones. -/
theorem listServable_prefix_of_fresh
    {store : EventStore} {events : List SignedEvent}
    (fresh : FreshEvents primitives json store events) (workspaceId : String) :
    store.listServableEventIdsForWorkspace workspaceId <+:
      (store.after primitives json events).listServableEventIdsForWorkspace workspaceId :=
  ((rows_prefix_of_fresh fresh).filter _).map _

end Growth

end Chaft

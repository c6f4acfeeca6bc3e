import Chaft.Library.KeyedLog
import Chaft.Library.Run
import Chaft.Security.Identity

/-!
# The event store

One SQLite table of events.  Rows are listed by `rowid`, which is the order of
their first insertion: nothing is deleted, and a conflicting insertion updates
the row where it stands.  The primary key keeps the event IDs distinct.

The JSON of an event is a column of its own.  Reading it back is a matter of the
JSON library, which is a parameter like the primitives of event identity.
-/

namespace Chaft

open Outcome KeyedLog

inductive StoreError where
  | sqlite
  | serde
  | eventJsonTooLarge (actualBytes maxBytes : Nat)
  | workspaceHistoryChanged
  | eventWorkspaceMismatch (eventId : EventId) (workspaceId actualWorkspaceId : String)
  deriving DecidableEq, Repr

def StoreError.message (debugText : String → String) : StoreError → String
  | .sqlite => "sqlite error"
  | .serde => "event serialization error"
  | .eventJsonTooLarge actualBytes maxBytes =>
      "event JSON is too large (" ++ actualBytes.repr ++ " bytes, max " ++ maxBytes.repr ++ ")"
  | .workspaceHistoryChanged =>
      "workspace event history changed while committing an atomic batch"
  | .eventWorkspaceMismatch eventId workspaceId actualWorkspaceId =>
      "event " ++ eventId.debug debugText ++ " belongs to " ++ debugText actualWorkspaceId ++
        ", expected " ++ debugText workspaceId

def eventJsonMaxBytes : Nat := 16 * 1024 * 1024

/-- The JSON form of whole events, as the JSON library writes and reads it. -/
structure EventJson where
  toVec : SignedEvent → Option (List UInt8)
  fromSlice : List UInt8 → Option SignedEvent

/-- What the JSON library writes it reads back. -/
def EventJson.RoundTrips (json : EventJson) : Prop :=
  ∀ event bytes, json.toVec event = some bytes → json.fromSlice bytes = some event

/-- A row of the table `events`. -/
structure EventRow where
  eventId : EventId
  workspaceId : String
  channelId : Option String
  authorDeviceId : String
  physicalMs : Int64
  logical : UInt32
  selfContainedSignatureValid : Option Int
  eventJson : List UInt8
  deriving DecidableEq

structure EventStore where
  rows : List EventRow
  distinct : (rows.map EventRow.eventId).Nodup

namespace EventStore

def empty : EventStore where
  rows := []
  distinct := .nil

end EventStore

/-! ## Writing -/

def validateEventJsonSize (actualBytes : Nat) : Except StoreError Unit :=
  ensure (actualBytes ≤ eventJsonMaxBytes) (.eventJsonTooLarge actualBytes eventJsonMaxBytes)

def validateSignedEventJsonSize
    (json : EventJson) (event : SignedEvent) : Except StoreError Unit := do
  let eventJson ← okOr (json.toVec event) .serde
  validateEventJsonSize eventJson.length

def boolToSqliteInteger (value : Bool) : Int :=
  if value then 1 else 0

/-- `COALESCE(self_contained_signature_valid, 0) = 1`. -/
def EventRow.isMarkedValid (row : EventRow) : Bool :=
  decide (row.selfContainedSignatureValid.getD 0 = 1)

section Writing

variable (primitives : Primitives) (json : EventJson)

/-- The row that an event is written as. -/
def serializedEvent (event : SignedEvent) : Except StoreError EventRow := do
  let eventJson ← okOr (json.toVec event) .serde
  validateEventJsonSize eventJson.length
  .ok
    { eventId := event.eventId
      workspaceId := event.event.workspaceId.text
      channelId := event.event.channelId.map Identifier.text
      authorDeviceId := event.event.authorDeviceId.text
      physicalMs := event.event.timestamp.physicalMs
      logical := event.event.timestamp.logical
      selfContainedSignatureValid :=
        some (boolToSqliteInteger (isServableEvent primitives event))
      eventJson := eventJson }

namespace EventStore

/-- `INSERT … ON CONFLICT(event_id) DO UPDATE … WHERE …`: a row that is not marked
valid gives way to one that is. -/
def insertSerializedEvent (store : EventStore) (event : EventRow) : EventStore where
  rows := settle EventRow.eventId EventRow.isMarkedValid store.rows event
  distinct := nodup_upsert store.distinct event

def appendEvent (store : EventStore) (event : SignedEvent) : Except StoreError EventStore := do
  let serialized ← serializedEvent primitives json event
  .ok (store.insertSerializedEvent serialized)

end EventStore

end Writing

/-! ## Reading -/

/-- The two columns that a bounded read of the JSON selects. -/
def EventRow.boundedJson (row : EventRow) : Nat × Option (List UInt8) :=
  (row.eventJson.length,
    if row.eventJson.length ≤ eventJsonMaxBytes then some row.eventJson else none)

def boundedEventJsonOrError
    (actualBytes : Nat) (bytes : Option (List UInt8)) : Except StoreError (List UInt8) := do
  validateEventJsonSize actualBytes
  let bytes := bytes.getD []
  validateEventJsonSize bytes.length
  .ok bytes

section Reading

variable (json : EventJson)

/-- One row of `list_events_for_workspace`. -/
def EventRow.readEvent (row : EventRow) : Except StoreError SignedEvent := do
  let (actualBytes, bytes) := row.boundedJson
  let bytes ← boundedEventJsonOrError actualBytes bytes
  okOr (json.fromSlice bytes) .serde

namespace EventStore

variable (store : EventStore)

def listEventIds : List EventId :=
  store.rows.map EventRow.eventId

def workspaceRows (workspaceId : String) : List EventRow :=
  store.rows.filter fun row => decide (row.workspaceId = workspaceId)

def listEventsForWorkspace (workspaceId : String) : Except StoreError (List SignedEvent) :=
  (store.workspaceRows workspaceId).mapM (EventRow.readEvent json)

def listEventIdsForWorkspace (workspaceId : String) : List EventId :=
  (store.workspaceRows workspaceId).map EventRow.eventId

/-- `self_contained_signature_valid = 1 AND length(event_json) <= …`. -/
def isServableRow (row : EventRow) : Bool :=
  decide (row.selfContainedSignatureValid = some 1) &&
    decide (row.eventJson.length ≤ eventJsonMaxBytes)

def getServableEvent (eventId : EventId) : Option SignedEvent :=
  (store.rows.find? fun row => decide (row.eventId = eventId) && isServableRow row).bind
    fun row => json.fromSlice row.eventJson

def listServableEventIds : List EventId :=
  (store.rows.filter isServableRow).map EventRow.eventId

def listServableEventsForWorkspace (workspaceId : String) : List SignedEvent :=
  (store.rows.filter fun row =>
      decide (row.workspaceId = workspaceId) && isServableRow row).filterMap
    fun row => json.fromSlice row.eventJson

end EventStore

end Reading

/-! ## The atomic batch -/

/-- The statements of the batch transaction, each of which the database can refuse. -/
inductive TransactionStep where
  | start
  | readHistory
  | insert (position : Nat)
  | commit
  deriving DecidableEq, Repr

section Batch

variable (primitives : Primitives) (json : EventJson)

/-- Serialization of a batch, before the transaction. -/
def serializedBatch
    (workspaceId : String) (events : List SignedEvent) : Except StoreError (List EventRow) :=
  events.mapM fun event => do
    ensure (event.event.workspaceId.text = workspaceId)
      (.eventWorkspaceMismatch event.eventId workspaceId event.event.workspaceId.text)
    serializedEvent primitives json event

/-- The insertions of a batch, numbered from `position`. -/
def insertBatch
    (fault : Option TransactionStep) :
    Nat → EventStore → List EventRow → Except StoreError EventStore
  | _, store, [] => .ok store
  | position, store, event :: rest => do
      ensure (fault ≠ some (.insert position)) .sqlite
      insertBatch fault (position + 1) (store.insertSerializedEvent event) rest

/-- What the transaction makes of the store it starts from. -/
def batchTransaction
    (fault : Option TransactionStep) (store : EventStore) (workspaceId : String)
    (expectedEventIds : List EventId) (serialized : List EventRow) :
    Except StoreError EventStore := do
  ensure (fault ≠ some .start) .sqlite
  ensure (fault ≠ some .readHistory) .sqlite
  ensure (store.listEventIdsForWorkspace workspaceId = expectedEventIds) .workspaceHistoryChanged
  let written ← insertBatch fault 0 store serialized
  ensure (fault ≠ some .commit) .sqlite
  .ok written

/-- The result of the call and the store it leaves behind: a transaction that does
not commit is rolled back. -/
def EventStore.appendEventsAtomicallyIfWorkspaceHistoryMatches
    (fault : Option TransactionStep) (store : EventStore) (workspaceId : String)
    (expectedEventIds : List EventId) (events : List SignedEvent) :
    Except StoreError Unit × EventStore :=
  match serializedBatch primitives json workspaceId events with
  | .error raised => (.error raised, store)
  | .ok serialized =>
      match batchTransaction fault store workspaceId expectedEventIds serialized with
      | .error raised => (.error raised, store)
      | .ok committed => (.ok (), committed)

end Batch

/-! ## A forged and a signed event

Both carry the ID of the signed creation of workspace `w`. -/

/-- Another name under the same ID, without key and signature. -/
def forgedHome : SignedEvent where
  eventId := signedHome.eventId
  event := homeCreation "away"
  authorPublicKey := []
  signature := []

/-- The JSON of bytes is a list of numbers. -/
def bytesJson (bytes : List UInt8) : List String :=
  ["["] ++ (bytes.map fun byte => toString byte.toNat).intersperse "," ++ ["]"]

/-- The JSON of a creation of workspace `w` under some name. -/
def signedCreationJson (name : String) (event : SignedEvent) : List UInt8 :=
  asciiBytes
    (["\x7b\"event_id\":\"", event.eventId.text, "\",\"event\":"] ++ homeCreationJson name ++
      [",\"author_public_key\":"] ++ bytesJson event.authorPublicKey ++
        [",\"signature\":"] ++ bytesJson event.signature ++ ["\x7d"])

/-- The JSON library as it behaves on two events. -/
def EventJson.ofPair
    (first second : SignedEvent) (firstBytes secondBytes : List UInt8) : EventJson where
  toVec event :=
    if event = first then some firstBytes else if event = second then some secondBytes else none
  fromSlice bytes :=
    if bytes = firstBytes then some first else if bytes = secondBytes then some second else none

theorem EventJson.ofPair_roundTrips
    {first second : SignedEvent} {firstBytes secondBytes : List UInt8}
    (apart : secondBytes ≠ firstBytes) :
    (ofPair first second firstBytes secondBytes).RoundTrips := by
  intro event bytes written
  unfold ofPair at written ⊢
  dsimp only at written ⊢
  by_cases isFirst : event = first
  · rw [if_pos isFirst, Option.some.injEq] at written
    rw [← written, if_pos rfl, isFirst]
  · rw [if_neg isFirst] at written
    by_cases isSecond : event = second
    · rw [if_pos isSecond, Option.some.injEq] at written
      rw [← written, if_neg apart, if_pos rfl, isSecond]
    · rw [if_neg isSecond] at written
      cases written

def homeJson : EventJson :=
  .ofPair signedHome forgedHome (signedCreationJson "home" signedHome)
    (signedCreationJson "away" forgedHome)

theorem homeJson_roundTrips : homeJson.RoundTrips :=
  EventJson.ofPair_roundTrips (by decide +kernel)

end Chaft

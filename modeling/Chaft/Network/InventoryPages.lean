import Chaft.Library.Effect
import Chaft.Network.PublishEvents
import Chaft.Storage.BlobAvailability
import Chaft.Storage.ServableInventory

/-!
# Paged inventories

A device asks a peer for the IDs of the events it can serve, page by page.  The
peer counts its events anew for each page, so the list can grow between two
pages.  The client goes on until it has as many IDs as the latest count says.

A growing peer answers each request from its store and then appends what its
schedule says before the next one.
-/

namespace Chaft

open Outcome Effects Effects.Effect

/-! ## Serving a page -/

def maxInventoryEventIdsPerResponse : Nat := 1024
def maxInventoryEventIdsPerPull : Nat := maxInventoryEventIdsPerResponse * 1024
def maxSyncResponseErrorBytes : Nat := 2 * 1024

/-- The number of the request kind. -/
def inventoryKind : Int32 := 1

structure InventoryPageRequest where
  startIndex : Nat
  limit : Nat

/-- A `u64` always fits a 64-bit `usize`. -/
def inventoryPageValue (value : UInt64) : Nat :=
  value.toNat

def inventoryPageRequest (request : WireSyncRequest) :
    Except NetError (Option InventoryPageRequest) :=
  match request.inventoryStartIndex, request.inventoryLimit with
  | none, none => .ok none
  | some _, none => .error (.protocol "inventory_start_index requires inventory_limit")
  | startIndex, some limit => do
      let startIndex := inventoryPageValue (startIndex.getD 0)
      let limit := inventoryPageValue limit
      validateRequestItemCount "inventory page" limit maxInventoryEventIdsPerResponse
      .ok (some ⟨startIndex, limit⟩)

/-- The inventory arm of `handle_request_with_join_request_inbox`. -/
def handleInventory
    (request : WireSyncRequest) (store : EventStore) : Except NetError WireSyncResponse := do
  validateRequestShape request "inventory"
    { AllowedRequestFields.empty with
      workspaceId := true
      inventoryStartIndex := true
      inventoryLimit := true }
  validateRequestWorkspaceIdOption "inventory" request.workspaceId
  let inventoryPage := (← inventoryPageRequest request).getD
    { startIndex := 0, limit := maxInventoryEventIdsPerResponse }
  let (eventIds, totalCount) :=
    match request.workspaceId with
    | some workspaceId =>
        (store.listServableEventIdsForWorkspacePage workspaceId inventoryPage.startIndex
            inventoryPage.limit,
          store.countServableEventsForWorkspace workspaceId)
    | none =>
        (store.listServableEventIdsPage inventoryPage.startIndex inventoryPage.limit,
          store.countServableEvents)
  .ok
    { emptySyncResponse with
      eventIds := eventIds.map Identifier.text
      inventoryTotalCount := some (UInt64.ofNat totalCount) }

/-- The longest prefix of a text that takes at most so many bytes. -/
def takeBytes : Nat → List Char → List Char
  | _, [] => []
  | room, symbol :: rest =>
      if symbol.utf8Size ≤ room then symbol :: takeBytes (room - symbol.utf8Size) rest else []

def syncResponseErrorTruncatedSuffix : String := "..."

def boundedSyncResponseError (error : String) : String :=
  if error.utf8ByteSize ≤ maxSyncResponseErrorBytes then
    error
  else
    String.ofList
      (takeBytes (maxSyncResponseErrorBytes - syncResponseErrorTruncatedSuffix.utf8ByteSize)
        error.toList) ++ syncResponseErrorTruncatedSuffix

def syncErrorResponse (error : NetError) : WireSyncResponse :=
  { emptySyncResponse with error := some (boundedSyncResponseError error.message) }

/-- What a peer sends back to an inventory request. -/
def serveInventory (store : EventStore) (request : WireSyncRequest) : WireSyncResponse :=
  match handleInventory request store with
  | .ok response => response
  | .error error => syncErrorResponse error

/-! ## Checking a page -/

structure AllowedResponseFields where
  eventIds : Bool
  events : Bool
  blobs : Bool
  blobDescriptors : Bool
  blobAvailability : Bool
  eventEnvelopes : Bool
  inventoryTotalCount : Bool

def AllowedResponseFields.empty : AllowedResponseFields where
  eventIds := false
  events := false
  blobs := false
  blobDescriptors := false
  blobAvailability := false
  eventEnvelopes := false
  inventoryTotalCount := false

def unexpectedResponseFields
    (response : WireSyncResponse) (allowed : AllowedResponseFields) : List String :=
  unexpectedField allowed.eventIds response.eventIds.isEmpty "event_ids" ++
    unexpectedField allowed.events response.events.isEmpty "events" ++
    unexpectedField allowed.blobs response.blobs.isEmpty "blobs" ++
    unexpectedField allowed.blobDescriptors response.blobDescriptors.isEmpty
      "blob_descriptors" ++
    unexpectedField allowed.blobAvailability response.blobAvailability.isEmpty
      "blob_availability" ++
    unexpectedField allowed.eventEnvelopes response.eventEnvelopes.isEmpty "event_envelopes" ++
    unexpectedField allowed.inventoryTotalCount response.inventoryTotalCount.isNone
      "inventory_total_count"

def validateResponseShape
    (response : WireSyncResponse) (context : String) (allowed : AllowedResponseFields) :
    Except NetError Unit :=
  let fields := unexpectedResponseFields response allowed
  ensure (fields = [])
    (.protocol ("peer returned " ++ context ++ " response fields: " ++
      ", ".intercalate fields))

def responseError (error : Option String) : Except NetError Unit :=
  match error with
  | some error =>
      if maxSyncResponseErrorBytes < error.utf8ByteSize then
        .error (.protocol ("peer error message length " ++ error.utf8ByteSize.repr ++
          " exceeds max " ++ maxSyncResponseErrorBytes.repr))
      else
        .error (.protocol error)
  | none => .ok ()

def validateInventoryEventIds : List String → List String → Except NetError Unit
  | _, [] => .ok ()
  | seen, eventId :: rest => do
      ensure (isCanonicalEventIdStr eventId = true)
        (.protocol "peer returned non-canonical inventory event id")
      ensure (eventId ∉ seen)
        (.protocol ("peer returned duplicate inventory event id " ++ eventId))
      validateInventoryEventIds (eventId :: seen) rest

def validateInventoryResponse (response : WireSyncResponse) : Except NetError Unit := do
  validateResponseShape response "unexpected inventory"
    { AllowedResponseFields.empty with eventIds := true, inventoryTotalCount := true }
  validateInventoryEventIds [] response.eventIds

def validateInventoryPageResponse
    (response : WireSyncResponse) (requestedLimit : Nat) : Except NetError Unit :=
  ensure (response.eventIds.length ≤ requestedLimit)
    (.protocol ("peer returned inventory page count " ++ response.eventIds.length.repr ++
      " exceeds requested limit " ++ requestedLimit.repr))

def validateInventoryTotalCount (totalCount : UInt64) : Except NetError Nat := do
  ensure (totalCount.toNat ≤ maxInventoryEventIdsPerPull)
    (.protocol ("peer returned inventory total count " ++ totalCount.toNat.repr ++
      " exceeds max " ++ maxInventoryEventIdsPerPull.repr))
  .ok totalCount.toNat

/-! ## Pulling the pages -/

def inventoryRequest
    (workspaceId : Option WorkspaceId) (startIndex limit : Nat) : WireSyncRequest where
  kind := inventoryKind
  eventIds := []
  events := []
  authorizationEvents := []
  authorizationSnapshots := []
  blobHashes := []
  blobs := []
  blobDescriptors := []
  workspaceId := workspaceId.map Identifier.text
  eventEnvelopes := []
  authorizationEventEnvelopes := []
  authorizationSnapshotEnvelopes := []
  inventoryStartIndex := some (UInt64.ofNat startIndex)
  inventoryLimit := some (UInt64.ofNat limit)

/-- The variables of the loop. -/
structure InventoryPull where
  startIndex : Nat
  eventIds : List EventId
  seen : List String

/-- The IDs of a page, each against those before it. -/
def collectPage : InventoryPull → List String → Except NetError InventoryPull
  | pull, [] => .ok pull
  | pull, eventId :: rest => do
      ensure (eventId ∉ pull.seen)
        (.protocol ("peer returned duplicate inventory event id " ++ eventId))
      collectPage
        { pull with eventIds := pull.eventIds ++ [⟨eventId⟩], seen := eventId :: pull.seen } rest

/-- What one response makes of the pull: a finished list, or a pull that goes on. -/
def readInventoryPage
    (pull : InventoryPull) (response : WireSyncResponse) :
    Except NetError (List EventId ⊕ InventoryPull) :=
  match response.inventoryTotalCount with
  | none => .ok (.inl (response.eventIds.map Identifier.mk))
  | some totalCount => do
      let totalCount ← validateInventoryTotalCount totalCount
      validateInventoryPageResponse response maxInventoryEventIdsPerResponse
      let pageLen := response.eventIds.length
      ensure (saturatingAddUsize pull.startIndex pageLen ≤ totalCount)
        (.protocol "peer returned inventory page past total count")
      let pull ← collectPage pull response.eventIds
      if totalCount ≤ pull.eventIds.length then
        .ok (.inl pull.eventIds)
      else do
        ensure (pageLen ≠ 0) (.protocol "peer returned empty inventory page before total count")
        .ok (.inr { pull with startIndex := saturatingAddUsize pull.startIndex pageLen })

section Client

variable {σ : Type} (exchange : WireSyncRequest → Effect σ NetError WireSyncResponse)

def fetchInventoryPage
    (workspaceId : Option WorkspaceId) (startIndex limit : Nat) :
    Effect σ NetError WireSyncResponse := do
  let response ← exchange (inventoryRequest workspaceId startIndex limit)
  lift (responseError response.error)
  let response := { response with error := none }
  lift (validateInventoryResponse response)
  pure response

/-- The loop, with fuel for its iterations; `none` is a pull that has not ended. -/
def pullInventory
    (workspaceId : Option WorkspaceId) :
    Nat → InventoryPull → Effect σ NetError (Option (List EventId))
  | 0, _ => pure none
  | fuel + 1, pull => do
      let response ←
        fetchInventoryPage exchange workspaceId pull.startIndex maxInventoryEventIdsPerResponse
      let read ← lift (readInventoryPage pull response)
      match read with
      | .inl eventIds => pure (some eventIds)
      | .inr pull => pullInventory workspaceId fuel pull

def fetchInventoryPaged
    (fuel : Nat) (workspaceId : Option WorkspaceId) :
    Effect σ NetError (Option (List EventId)) := do
  match workspaceId with
  | some workspaceId => lift (validateWireWorkspaceId "inventory" workspaceId.text)
  | none => pure ()
  pullInventory exchange workspaceId fuel { startIndex := 0, eventIds := [], seen := [] }

end Client

end Chaft

import Chaft.Library.Outcome
import Chaft.Network.WireMessages

/-!
# Sync requests

Every request carries the fields of all kinds of requests.  A handler first refuses
the fields that its kind does not use, and too many items of those it does.
-/

namespace Chaft

open Outcome

inductive NetError where
  | unavailable (reason : String)
  | io (reason : String)
  | protocol (reason : String)
  deriving DecidableEq, Repr

/-- The text in which an error is shown to peers. -/
def NetError.message : NetError → String
  | .unavailable reason => "transport unavailable: " ++ reason
  | .io reason => "I/O error: " ++ reason
  | .protocol reason => "protocol error: " ++ reason

structure AllowedRequestFields where
  eventIds : Bool
  events : Bool
  authorizationEvents : Bool
  authorizationSnapshots : Bool
  blobHashes : Bool
  blobs : Bool
  blobDescriptors : Bool
  workspaceId : Bool
  eventEnvelopes : Bool
  authorizationEventEnvelopes : Bool
  authorizationSnapshotEnvelopes : Bool
  inventoryStartIndex : Bool
  inventoryLimit : Bool

def AllowedRequestFields.empty : AllowedRequestFields where
  eventIds := false
  events := false
  authorizationEvents := false
  authorizationSnapshots := false
  blobHashes := false
  blobs := false
  blobDescriptors := false
  workspaceId := false
  eventEnvelopes := false
  authorizationEventEnvelopes := false
  authorizationSnapshotEnvelopes := false
  inventoryStartIndex := false
  inventoryLimit := false

/-- The name of a field that is neither allowed nor absent. -/
def unexpectedField (allowed absent : Bool) (name : String) : List String :=
  if allowed || absent then [] else [name]

def unexpectedRequestFields
    (request : WireSyncRequest) (allowed : AllowedRequestFields) : List String :=
  unexpectedField allowed.eventIds request.eventIds.isEmpty "event_ids" ++
    unexpectedField allowed.events request.events.isEmpty "events" ++
    unexpectedField allowed.authorizationEvents request.authorizationEvents.isEmpty
      "authorization_events" ++
    unexpectedField allowed.authorizationSnapshots request.authorizationSnapshots.isEmpty
      "authorization_snapshots" ++
    unexpectedField allowed.blobHashes request.blobHashes.isEmpty "blob_hashes" ++
    unexpectedField allowed.blobs request.blobs.isEmpty "blobs" ++
    unexpectedField allowed.blobDescriptors request.blobDescriptors.isEmpty "blob_descriptors" ++
    unexpectedField allowed.workspaceId request.workspaceId.isNone "workspace_id" ++
    unexpectedField allowed.eventEnvelopes request.eventEnvelopes.isEmpty "event_envelopes" ++
    unexpectedField allowed.authorizationEventEnvelopes
      request.authorizationEventEnvelopes.isEmpty "authorization_event_envelopes" ++
    unexpectedField allowed.authorizationSnapshotEnvelopes
      request.authorizationSnapshotEnvelopes.isEmpty "authorization_snapshot_envelopes" ++
    unexpectedField allowed.inventoryStartIndex request.inventoryStartIndex.isNone
      "inventory_start_index" ++
    unexpectedField allowed.inventoryLimit request.inventoryLimit.isNone "inventory_limit"

def validateRequestShape
    (request : WireSyncRequest) (context : String) (allowed : AllowedRequestFields) :
    Except NetError Unit :=
  let fields := unexpectedRequestFields request allowed
  ensure (fields = [])
    (.protocol ("peer sent unexpected " ++ context ++ " request fields: " ++
      ", ".intercalate fields))

def validateRequestItemCount (context : String) (count max : Nat) : Except NetError Unit :=
  ensure (count ≤ max)
    (.protocol (context ++ " count " ++ count.repr ++ " exceeds max " ++ max.repr))

/-- The response of a handler that has nothing to say. -/
def emptySyncResponse : WireSyncResponse where
  eventIds := []
  events := []
  error := none
  blobs := []
  blobDescriptors := []
  blobAvailability := []
  eventEnvelopes := []
  inventoryTotalCount := none

end Chaft

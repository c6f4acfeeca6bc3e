import Chaft.Library.Trace
import Chaft.Library.Zoom
import Chaft.Network.BlobExchange
import Chaft.Network.KeptBlobs
import Chaft.Network.WorkspacePull

/-!
# A peer that serves requests

A peer answers one request after the other from its stores and inboxes.  An error goes back to
the client as a text.  Whatever is requested, what is served stays served, and what is served
anew was published in a request and verifies.
-/

namespace Chaft

open Outcome Keyed Effects Effects.Effect

inductive WireSyncRequestKind where
  | unspecified
  | inventory
  | fetchEvents
  | publishEvents
  | putBlobs
  | fetchBlobs
  | fetchBlobAvailability
  | submitJoinRequest
  | submitJoinResponse
  | fetchJoinRequests
  | fetchJoinResponses
  deriving DecidableEq

/-- The kinds in the order of their numbers. -/
def WireSyncRequestKind.all : List WireSyncRequestKind :=
  [.unspecified, .inventory, .fetchEvents, .publishEvents, .putBlobs, .fetchBlobs,
    .fetchBlobAvailability, .submitJoinRequest, .submitJoinResponse, .fetchJoinRequests,
    .fetchJoinResponses]

def WireSyncRequestKind.tryFrom (kind : Int32) : Option WireSyncRequestKind :=
  if kind < 0 then none else WireSyncRequestKind.all[kind.toInt.toNat]?

def maxJoinRequestSubmissionsPerRequest : Nat := 1
def SyncPeer.maxJoinRequestSubmissionBytes : Nat := 16 * 1024

/-- The inbox for join responses of a peer with the state `τ`. -/
structure JoinResponseService (τ : Type) where
  submit : Option String → List UInt8 → Effect τ NetError Unit
  listForRequests : τ → String → List String → Nat → Except NetError (List (List UInt8))

/-- What a peer runs with. -/
structure SyncPeer (τ : Type) where
  primitives : Primitives
  serialization : Serialization
  eventBodyToVec : WireEventBody → List UInt8
  manifestFromSlice : Bytes → Option BlobDescriptor
  requestIdField : String → Option (Option String)
  disk : Disk
  hasBlobStore : Bool
  joinRequestInbox : Option (Option String → List UInt8 → Effect τ NetError Unit)
  joinResponseInbox : Option (JoinResponseService τ)

/-- What a peer keeps. -/
structure SyncPeerStore (τ : Type) where
  store : EventStore
  blobStore : BlobStore
  inboxes : τ

/-! ## Handlers -/

def handleFetchEvents
    (json : EventJson) (eventBodyToVec : WireEventBody → List UInt8) (request : WireSyncRequest)
    (store : EventStore) : Except NetError WireSyncResponse := do
  validateRequestShape request "fetch-events" { AllowedRequestFields.empty with eventIds := true }
  validateRequestItemCount "fetch-events event id" request.eventIds.length
    maxFetchEventIdsPerRequest
  validateRequestItemsUnique "fetch-events event id" request.eventIds
  validateRequestEventIds (request.eventIds.map Identifier.mk)
  let events := (request.eventIds.map Identifier.mk).filterMap (store.getServableEvent json)
  events.foldlM
    (fun response event =>
      framedResponse eventBodyToVec "fetch-events"
        { response with eventEnvelopes := response.eventEnvelopes ++ [encodeEventEnvelope event] })
    emptySyncResponse

def validateJoinRequestSubmissionBytes (request : List UInt8) : Except NetError Unit := do
  ensure (request ≠ []) (.protocol "submit-join-request payload is empty")
  ensure (request.length ≤ SyncPeer.maxJoinRequestSubmissionBytes)
    (.protocol ("submit-join-request payload byte length " ++ request.length.repr ++
      " exceeds max " ++ SyncPeer.maxJoinRequestSubmissionBytes.repr))

/-- The answer to a request of the kind `SubmitJoinRequest`. -/
def handleSubmitJoinRequest
    {τ : Type} (inbox : Option (Option String → List UInt8 → Effect τ NetError Unit))
    (request : WireSyncRequest) : Effect τ NetError WireSyncResponse := do
  lift (validateRequestShape request "submit-join-request"
    { AllowedRequestFields.empty with events := true, workspaceId := true })
  lift (validateRequestWorkspaceIdOption "submit-join-request" request.workspaceId)
  lift (validateRequestItemCount "submit-join-request payload" request.events.length
    maxJoinRequestSubmissionsPerRequest)
  lift (ensure (request.events ≠ []) (.protocol "submit-join-request payload is required"))
  lift (checkAll validateJoinRequestSubmissionBytes request.events)
  let submit ← lift (okOr inbox (.protocol "join request inbox unavailable"))
  forEach (submit request.workspaceId) request.events
  pure emptySyncResponse

/-- Nobody gets the join requests of others. -/
def handleFetchJoinRequests (request : WireSyncRequest) : Except NetError WireSyncResponse := do
  validateRequestShape request "fetch-join-requests"
    { AllowedRequestFields.empty with workspaceId := true, inventoryLimit := true }
  .error (.protocol "remote join request listing is disabled")

namespace SyncPeer

variable {τ : Type} (peer : SyncPeer τ)

def onStore {α : Type} (computation : Effect EventStore NetError α) :
    Effect (SyncPeerStore τ) NetError α :=
  zoom SyncPeerStore.store (fun server store => { server with store := store }) computation

def onBlobStore {α : Type} (computation : Effect BlobStore NetError α) :
    Effect (SyncPeerStore τ) NetError α :=
  zoom SyncPeerStore.blobStore (fun server store => { server with blobStore := store }) computation

def onInboxes {α : Type} (computation : Effect τ NetError α) :
    Effect (SyncPeerStore τ) NetError α :=
  zoom SyncPeerStore.inboxes (fun server inboxes => { server with inboxes := inboxes }) computation

/-- A submission to a peer without an inbox is checked and then refused. -/
def submitJoinResponse (workspaceId : Option String) (response : List UInt8) :
    Effect τ NetError Unit :=
  match peer.joinResponseInbox with
  | some inbox => inbox.submit workspaceId response
  | none => lift (.error (.protocol "join response inbox unavailable"))

def listJoinResponses (inboxes : τ) (workspaceId : String) (requestIds : List String)
    (limit : Nat) : Except NetError (List (List UInt8)) :=
  match peer.joinResponseInbox with
  | some inbox => inbox.listForRequests inboxes workspaceId requestIds limit
  | none => .error (.protocol "join response inbox unavailable")

/-- `handle_request_with_join_request_inbox` -/
def handleRequest (request : WireSyncRequest) :
    Effect (SyncPeerStore τ) NetError WireSyncResponse :=
  match WireSyncRequestKind.tryFrom request.kind with
  | none => lift (.error (.protocol ("unknown sync request kind " ++ toString request.kind)))
  | some .unspecified =>
      pure { emptySyncResponse with error := some "unspecified sync request kind" }
  | some .inventory => reads fun server => handleInventory request server.store
  | some .fetchEvents =>
      reads fun server =>
        handleFetchEvents peer.serialization.json peer.eventBodyToVec request server.store
  | some .publishEvents => onStore (handlePublishEvents peer.primitives peer.serialization request)
  | some .putBlobs =>
      onBlobStore
        (handlePutBlobs peer.primitives.blake3Hex peer.disk peer.hasBlobStore request)
  | some .fetchBlobs =>
      reads fun server =>
        handleFetchBlobs peer.primitives.blake3Hex peer.manifestFromSlice peer.eventBodyToVec
          peer.hasBlobStore request server.blobStore
  | some .fetchBlobAvailability =>
      reads fun server =>
        handleFetchBlobAvailability peer.manifestFromSlice peer.eventBodyToVec peer.hasBlobStore
          request server.blobStore
  | some .submitJoinRequest => onInboxes (handleSubmitJoinRequest peer.joinRequestInbox request)
  | some .submitJoinResponse =>
      onInboxes (handleSubmitJoinResponse peer.submitJoinResponse request)
  | some .fetchJoinRequests => lift (handleFetchJoinRequests request)
  | some .fetchJoinResponses =>
      reads fun server =>
        handleFetchJoinResponses peer.requestIdField peer.eventBodyToVec
          (peer.listJoinResponses server.inboxes) request

/-- A response that is too large for a frame becomes an error. -/
def limitResponse (response : WireSyncResponse) : WireSyncResponse :=
  match validateSyncResponseFrameLen peer.eventBodyToVec "sync" response with
  | .ok () => response
  | .error tooLarge => syncErrorResponse tooLarge

/-- What goes back for a request. -/
def serve (request : WireSyncRequest) (server : SyncPeerStore τ) :
    WireSyncResponse × SyncPeerStore τ :=
  match peer.handleRequest request server with
  | (.ok response, after) => (peer.limitResponse response, after)
  | (.error raised, after) => (peer.limitResponse (syncErrorResponse raised), after)

/-- A client that talks to the peer.  A request has to fit a frame. -/
def exchange (request : WireSyncRequest) : Effect (SyncPeerStore τ) NetError WireSyncResponse :=
  fun server =>
    if (encodeSyncRequest peer.eventBodyToVec request).length ≤ maxFrameLen then
      (.ok (peer.serve request server).1, (peer.serve request server).2)
    else
      (.error (frameTooLong (encodeSyncRequest peer.eventBodyToVec request).length), server)

/-- The peer after some requests. -/
def afterRequests (server : SyncPeerStore τ) (requests : List WireSyncRequest) :
    SyncPeerStore τ :=
  Trace.run (fun server request => (peer.serve request server).2) server requests

end SyncPeer

end Chaft

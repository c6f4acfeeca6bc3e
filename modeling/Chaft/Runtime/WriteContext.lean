import Chaft.Core.HistoryAuthorization
import Chaft.Runtime.RuntimeError
import Chaft.Storage.ParseableRows

/-!
# Contexts of local writes

A local write builds on the applied events of the stored workspace.  The context
materializes the stored events, lists the applied ones in the order of their
application and names the heads, which no applied event has as a parent.  The event
is signed, authorized against the listed events and appended.
-/

namespace Chaft

open Keyed Outcome

/-! ## Reading the store -/

/-- Without the events whose key is given and does not verify them. -/
def verifiedLocalEventsForRuntime
    (primitives : Primitives) (events : List SignedEvent) : List SignedEvent :=
  events.filter fun event =>
    event.authorPublicKey.isEmpty || isServableEvent primitives event

/-! ## The context -/

structure WorkspaceWriteContext where
  events : List SignedEvent
  state : WorkspaceState
  report : MaterializationReport
  headEventIds : List EventId

/-- The applied events, each taken out of the table when it is found. -/
def takeEvents : List EventId → HashMap EventId SignedEvent → List SignedEvent
  | [], _ => []
  | eventId :: rest, eventsById =>
      match eventsById[eventId]? with
      | some event => event :: takeEvents rest (eventsById.erase eventId)
      | none => takeEvents rest eventsById

/-- The applied IDs that an applied event has as parents. -/
def referencedParentIds
    (appliedEventIds : HashSet EventId) (events : List SignedEvent) : HashSet EventId :=
  (events.filter fun event => decide (event.eventId ∈ appliedEventIds)).foldl
    (fun referenced event =>
      (event.event.parents.filter fun parentId => decide (parentId ∈ appliedEventIds)).foldl
        (fun referenced parentId => referenced.insert parentId) referenced) ∅

def workspaceHeadEventIdsFromMaterialization
    (events : List SignedEvent) (report : MaterializationReport) : List EventId :=
  let appliedEventIds : HashSet EventId := Std.ExtTreeSet.ofList report.appliedEvents compare
  let referenced := referencedParentIds appliedEventIds events
  let heads : HashSet EventId :=
    Std.ExtTreeSet.ofList
      (report.appliedEvents.filter fun eventId => decide (eventId ∉ referenced)) compare
  if heads.isEmpty then
    report.appliedEvents.getLast?.toList
  else
    heads.toList

def workspaceWriteContextFromMaterializedEvents
    (workspaceId : WorkspaceId) (verifiedEvents : List SignedEvent) :
    Except RuntimeError WorkspaceWriteContext := do
  validateWorkspaceIdReference workspaceId
  match (WorkspaceState.new workspaceId).applyBatch verifiedEvents with
  | (.error raised, _) => .error (.core raised)
  | (.ok report, state) =>
      ensure (report.appliedEvents ≠ []) (.workspaceHasNoEvents workspaceId)
      let eventsById : HashMap EventId SignedEvent :=
        tableOf SignedEvent.eventId id ∅ verifiedEvents
      let events := takeEvents report.appliedEvents eventsById
      .ok
        { events := events
          state := state
          report := report
          headEventIds := workspaceHeadEventIdsFromMaterialization events report }

section Writing

variable (primitives : Primitives) (json : EventJson)

def workspaceWriteContext
    (store : EventStore) (workspaceId : WorkspaceId) :
    Except RuntimeError WorkspaceWriteContext := do
  validateWorkspaceIdReference workspaceId
  let rawEvents := store.listParseableEventsForWorkspace json workspaceId.text
  ensure (rawEvents ≠ []) (.workspaceHasNoEvents workspaceId)
  workspaceWriteContextFromMaterializedEvents workspaceId
    (verifiedLocalEventsForRuntime primitives rawEvents)

def materializedWorkspaceWriteContext
    (store : EventStore) (workspaceId : WorkspaceId) :
    Except RuntimeError WorkspaceWriteContext := do
  validateWorkspaceIdReference workspaceId
  let rawEvents := store.listParseableEventsForWorkspace json workspaceId.text
  workspaceWriteContextFromMaterializedEvents workspaceId
    (verifiedLocalEventsForRuntime primitives rawEvents)

/-! ## Writing -/

/-- The keys of a device. -/
structure DeviceIdentity where
  verifyingKeyBytes : List UInt8
  /-- The signature of some bytes. -/
  sign : List UInt8 → List UInt8

def DeviceIdentity.deviceId (identity : DeviceIdentity) : DeviceId :=
  DeviceId.fromPublicKeyBytes primitives identity.verifyingKeyBytes

def DeviceIdentity.signEvent (identity : DeviceIdentity) (event : SignableEvent) : SignedEvent :=
  SignedEvent.fromAuthorSignature primitives event identity.verifyingKeyBytes
    (identity.sign (event.signingBytes primitives))

/-- The result is the signed event and the store after the call. -/
def signAuthorizeAndAppendWithHistory
    (identity : DeviceIdentity) (store : EventStore) (event : SignableEvent)
    (history : List SignedEvent) : Except RuntimeError (SignedEvent × EventStore) := do
  let signed := identity.signEvent primitives event
  (authorizeEventWithHistory history signed).mapError .authorization
  let store ← (store.appendEvent primitives json signed).mapError .store
  .ok (signed, store)

end Writing

end Chaft

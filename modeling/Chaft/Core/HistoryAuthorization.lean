import Chaft.Core.ApplyBatch
import Chaft.Library.LabelSpread

/-!
# Authorization against a history

`authorizeEventWithHistory` decides an event by replaying a history into an
empty access index.  Before the replay it taints the disputed channel
definitions and their causal descendants; the replay skips them, and an event
that builds on one is refused.

The replay repeats passes over the pending events like a batch does, but it
has its own table of the refusals that end it.
-/

namespace Chaft

open Keyed Outcome StableReplay LabelSpread

/-- The refusals that end the replay of a history; all others only defer the
event. -/
def AuthorizationError.abortsHistory : AuthorizationError → Bool
  | .workspaceAlreadyCreated
  | .channelAlreadyCreated _
  | .eventPayloadTooLarge ..
  | .eventPayloadRequired _
  | .invalidAvatarId
  | .eventItemCountTooLarge ..
  | .unsupportedPeerEndpoint
  | .peerEndpointTransportMismatch
  | .personDeviceLinkDenied ..
  | .replicaCapabilityRequiresBackupPeer => true
  | _ => false

/-! ## Conflict origins -/

/-- The causal children of every event and the disputed channel that taints an
event. -/
structure ConflictGraph where
  childrenByParent : HashMap EventId (List EventId)
  conflictOriginByEvent : HashMap EventId ChannelId

def noteChild
    (eventId : EventId) (childrenByParent : HashMap EventId (List EventId))
    (parentId : EventId) : HashMap EventId (List EventId) :=
  childrenByParent.insert parentId (childrenByParent.getD parentId [] ++ [eventId])

/-- Keep the lesser of two origins of one event. -/
def noteOrigin
    (origins : HashMap EventId ChannelId) (eventId : EventId) (channelId : ChannelId) :
    HashMap EventId ChannelId :=
  match origins[eventId]? with
  | some existing =>
      if compare channelId existing = .lt then origins.insert eventId channelId else origins
  | none => origins.insert eventId channelId

def noteHistorical
    (conflicting : HashSet ChannelId) (graph : ConflictGraph) (historical : SignedEvent) :
    ConflictGraph where
  childrenByParent :=
    historical.event.parents.foldl (noteChild historical.eventId) graph.childrenByParent
  conflictOriginByEvent :=
    match createdChannelId historical.event.body with
    | some channelId =>
        if channelId ∈ conflicting then
          noteOrigin graph.conflictOriginByEvent historical.eventId channelId
        else
          graph.conflictOriginByEvent
    | none => graph.conflictOriginByEvent

def conflictGraph (conflicting : HashSet ChannelId) (history : List SignedEvent) :
    ConflictGraph :=
  history.foldl (noteHistorical conflicting) ⟨∅, ∅⟩

def ConflictGraph.children (graph : ConflictGraph) (parentId : EventId) : List EventId :=
  graph.childrenByParent.getD parentId []

/-- The queue starts with the tainted events; the source takes them in the order
of its hash table. -/
def ConflictGraph.worklist (graph : ConflictGraph) : Worklist EventId ChannelId where
  labels := graph.conflictOriginByEvent
  queue := graph.conflictOriginByEvent.keys

/-- Iterations that are always enough to empty the conflict queue. -/
def conflictFuel (conflicting : HashSet ChannelId) (history : List SignedEvent) : Nat :=
  (conflictGraph conflicting history).worklist.queue.length +
    history.length * conflicting.toList.toFinset.card

/-- The conflict queue after its loop. -/
def spreadConflicts (conflicting : HashSet ChannelId) (history : List SignedEvent) :
    Worklist EventId ChannelId :=
  let graph := conflictGraph conflicting history
  spread graph.children (conflictFuel conflicting history) graph.worklist

def conflictOriginByEvent (conflicting : HashSet ChannelId) (history : List SignedEvent) :
    HashMap EventId ChannelId :=
  (spreadConflicts conflicting history).labels

/-! ## Replaying the history -/

structure HistoryReplay where
  index : WorkspaceAccessIndex
  appliedHistoricalEventIds : HashSet EventId

def historyAttempt
    (conflictOrigins : HashMap EventId ChannelId) (historicalEventIds : HashSet EventId)
    (replayed : HistoryReplay) (historical : SignedEvent) :
    Attempt HistoryReplay AuthorizationError :=
  if historical.eventId ∈ conflictOrigins then
    .drop
  else if historical.eventId ∈ replayed.appliedHistoricalEventIds then
    .drop
  else if ∃ parentId ∈ historical.event.parents,
      parentId ∈ historicalEventIds ∧ parentId ∉ replayed.appliedHistoricalEventIds then
    .keep
  else
    match replayed.index.authorizeAndApply historical with
    | .ok index =>
        .advance
          { index := index
            appliedHistoricalEventIds :=
              replayed.appliedHistoricalEventIds.insert historical.eventId }
    | .error refusal => if refusal.abortsHistory then .abort refusal else .keep

def eventDeclaredChannelId (event : SignedEvent) : Option ChannelId :=
  match event.event.body with
  | .channelCreated channelId ..
  | .directMessageChannelCreated channelId ..
  | .channelDetailsUpdated channelId ..
  | .channelMemberAdded channelId _
  | .channelMemberRemoved channelId _
  | .openMlsChannelGroupMemberAdded channelId ..
  | .openMlsChannelGroupMemberRemoved channelId ..
  | .openMlsChannelGroupSelfUpdated channelId ..
  | .readMarkerUpdated channelId _
  | .contentKeyEpochPublished (.channel channelId) .. => some channelId
  | _ => event.event.channelId

/-- `min_by` on channel IDs. -/
def leastChannelId : List ChannelId → Option ChannelId
  | [] => none
  | first :: rest =>
      some (rest.foldl
        (fun least channelId => if compare channelId least = .lt then channelId else least) first)

def authorizeEventWithHistory
    (history : List SignedEvent) (event : SignedEvent) : Except AuthorizationError Unit := do
  validateSignedEventIds event
  let pending :=
    history.filter fun historical =>
      decide (historical.event.workspaceId = event.event.workspaceId)
  let conflicting := conflictingChannelIds pending
  let conflictOrigins := conflictOriginByEvent conflicting pending
  match eventDeclaredChannelId event with
  | some channelId => ensure (channelId ∉ conflicting) (.channelAlreadyCreated channelId)
  | none => .ok ()
  match leastChannelId
      (event.event.parents.filterMap fun parentId => conflictOrigins[parentId]?) with
  | some channelId => .error (.channelAlreadyCreated channelId)
  | none => .ok ()
  let historicalEventIds := Std.ExtTreeSet.ofList (pending.map SignedEvent.eventId) compare
  let scan ←
    replay (historyAttempt conflictOrigins historicalEventIds)
      ⟨WorkspaceAccessIndex.new event.event.workspaceId, ∅⟩ pending
  scan.state.index.authorize event

end Chaft

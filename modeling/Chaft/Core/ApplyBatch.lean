import Mathlib.Logic.Function.Basic
import Mathlib.Data.List.FinRange
import Chaft.Core.WorkspaceState
import Chaft.Library.StableReplay

/-!
# Batch materialization

`applyBatch` absorbs a list of events in any order.  It indexes the causal
dependencies of the batch once and then works in rounds: a stable list of
ready events is merged with a heap of events that became ready during the
round, and events that authorization refuses are tried again in the next
round.

Vectors that are parallel to the input are functions on its positions.  The
two binary heaps are ascending lists, so that peeking and popping read the
head and pushing inserts in order.  The unread rest of the stable list stands
for the list together with its read index.

`applyBatchWithLegacyStableScans` is the plain algorithm that the indexed one
replaced: it rescans all pending events until a scan makes no progress.
-/

namespace Chaft

open Keyed Outcome StableReplay

structure MissingHistoryGap where
  eventId : EventId
  missingParentIds : List EventId
  deriving DecidableEq

structure MaterializationReport where
  appliedEvents : List EventId
  gaps : List MissingHistoryGap
  deriving DecidableEq

/-- The channel ID that a creation event declares. -/
def createdChannelId : EventBody → Option ChannelId
  | .channelCreated channelId ..
  | .directMessageChannelCreated channelId .. => some channelId
  | _ => none

/-! ## Conflicting channel definitions -/

structure ChannelCreations where
  channelCreationEventIds : HashMap ChannelId EventId
  conflictingChannelIds : HashSet ChannelId

/-- One iteration of the loop that looks for a second creation event. -/
def noteChannelCreation (seen : ChannelCreations) (event : SignedEvent) : ChannelCreations :=
  match createdChannelId event.event.body with
  | none => seen
  | some channelId =>
      match seen.channelCreationEventIds[channelId]? with
      | some existingEventId =>
          if existingEventId ≠ event.eventId then
            { seen with
              conflictingChannelIds := seen.conflictingChannelIds.insert channelId }
          else
            seen
      | none =>
          { seen with
            channelCreationEventIds :=
              seen.channelCreationEventIds.insert channelId event.eventId }

def conflictingChannelIds (events : List SignedEvent) : HashSet ChannelId :=
  (events.foldl noteChannelCreation ⟨∅, ∅⟩).conflictingChannelIds

/-- Whether an event creates a channel whose ID is disputed. -/
def channelDefinitionConflict (conflicting : HashSet ChannelId) (event : SignedEvent) : Bool :=
  match createdChannelId event.event.body with
  | some channelId => decide (channelId ∈ conflicting)
  | none => false

/-- The refusals that abort a batch; all others only defer the event. -/
def AuthorizationError.abortsBatch : AuthorizationError → Bool
  | .eventPayloadTooLarge ..
  | .eventPayloadRequired _
  | .eventItemCountTooLarge ..
  | .unsupportedPeerEndpoint
  | .peerEndpointTransportMismatch
  | .replicaCapabilityRequiresBackupPeer => true
  | _ => false

namespace WorkspaceState

def validateBatch (state : WorkspaceState) (events : List SignedEvent) : Except CoreError Unit :=
  checkAll (fun event => do
    (validateSignedEventIds event).mapError .authorization
    ensure (event.event.workspaceId = state.workspaceId) .wrongWorkspace) events

/-! ## The causal index of a batch -/

/-- What the first loop of `applyBatch` collects, for a batch of `count`
events. -/
structure CausalIndex (count : Nat) where
  missingParentCounts : Fin count → Nat
  waitingByParent : HashMap EventId (List (Fin count))
  initiallyReadyEvents : List (Fin count)

/-- One parent of one event; repeated and applied parents do not count. -/
def noteParent
    {count : Nat} (state : WorkspaceState) (candidateEventIds : HashSet EventId)
    (eventIndex : Fin count) :
    HashSet EventId × CausalIndex count → EventId → HashSet EventId × CausalIndex count
  | (uniqueParentIds, index), parentId =>
      if parentId ∈ uniqueParentIds ∨ parentId ∈ state.appliedEventIds then
        (uniqueParentIds.insert parentId, index)
      else
        (uniqueParentIds.insert parentId,
          { index with
            missingParentCounts :=
              Function.update index.missingParentCounts eventIndex
                (index.missingParentCounts eventIndex + 1)
            waitingByParent :=
              if parentId ∈ candidateEventIds then
                index.waitingByParent.insert parentId
                  (index.waitingByParent.getD parentId [] ++ [eventIndex])
              else
                index.waitingByParent })

def noteEvent
    (state : WorkspaceState) (events : List SignedEvent)
    (candidateEventIds : HashSet EventId) (conflicts : Fin events.length → Bool)
    (index : CausalIndex events.length) (eventIndex : Fin events.length) :
    CausalIndex events.length :=
  let index :=
    ((events.get eventIndex).event.parents.foldl
      (noteParent state candidateEventIds eventIndex) (∅, index)).2
  if index.missingParentCounts eventIndex = 0 ∧ conflicts eventIndex = false then
    { index with initiallyReadyEvents := index.initiallyReadyEvents ++ [eventIndex] }
  else
    index

def causalIndex
    (state : WorkspaceState) (events : List SignedEvent)
    (conflicts : Fin events.length → Bool) : CausalIndex events.length :=
  let candidateEventIds := Std.ExtTreeSet.ofList (events.map SignedEvent.eventId) compare
  (List.finRange events.length).foldl (noteEvent state events candidateEventIds conflicts)
    { missingParentCounts := fun _ => 0
      waitingByParent := ∅
      initiallyReadyEvents := [] }

/-! ## Rounds -/

/-- The variables of the materialization loop. -/
structure BatchLoop (count : Nat) where
  state : WorkspaceState
  pending : Fin count → Bool
  missingParentCounts : Fin count → Nat
  earliestReadyRounds : Fin count → Nat
  waitingByParent : HashMap EventId (List (Fin count))
  appliedEvents : List EventId
  stableReadyEvents : List (Fin count)
  dynamicallyReadyEvents : List (Fin count)
  nextRoundReadyEvents : List (Fin count)
  authorizationDeferred : List (Fin count)
  currentRound : Nat
  progressed : Bool

/-- The next event of the round: the smaller head of the stable list and the
heap. -/
def popReady {count : Nat} (loop : BatchLoop count) : Option (Fin count × BatchLoop count) :=
  match loop.stableReadyEvents, loop.dynamicallyReadyEvents with
  | stable :: stableRest, dynamic :: dynamicRest =>
      if stable ≤ dynamic then
        some (stable, { loop with stableReadyEvents := stableRest })
      else
        some (dynamic, { loop with dynamicallyReadyEvents := dynamicRest })
  | [], dynamic :: dynamicRest =>
      some (dynamic, { loop with dynamicallyReadyEvents := dynamicRest })
  | stable :: stableRest, [] => some (stable, { loop with stableReadyEvents := stableRest })
  | [], [] => none

/-- One event that waited for the event just applied.  A child later in the
input can still run in this round; one whose slot was already visited waits for
the next round. -/
def releaseWaiting
    {count : Nat} (conflicts : Fin count → Bool) (eventIndex : Fin count)
    (loop : BatchLoop count) (waitingEventIndex : Fin count) : BatchLoop count :=
  let missingParentCount := loop.missingParentCounts waitingEventIndex - 1
  let readyRound := loop.currentRound + if waitingEventIndex ≤ eventIndex then 1 else 0
  let earliestReadyRound := max (loop.earliestReadyRounds waitingEventIndex) readyRound
  let loop :=
    { loop with
      missingParentCounts :=
        Function.update loop.missingParentCounts waitingEventIndex missingParentCount
      earliestReadyRounds :=
        Function.update loop.earliestReadyRounds waitingEventIndex earliestReadyRound }
  if missingParentCount = 0 ∧ conflicts waitingEventIndex = false then
    if earliestReadyRound = loop.currentRound then
      { loop with
        dynamicallyReadyEvents :=
          loop.dynamicallyReadyEvents.orderedInsert (· ≤ ·) waitingEventIndex }
    else
      { loop with
        nextRoundReadyEvents :=
          loop.nextRoundReadyEvents.orderedInsert (· ≤ ·) waitingEventIndex }
  else
    loop

/-- A failed materialization, with the state it leaves behind. -/
abbrev BatchFailure := CoreError × WorkspaceState

/-- The body of the inner loop for the event it popped. -/
def visitReady
    (events : List SignedEvent) (conflicts : Fin events.length → Bool)
    (loop : BatchLoop events.length) (eventIndex : Fin events.length) :
    Except BatchFailure (BatchLoop events.length) :=
  if loop.pending eventIndex = false then
    .ok loop
  else
    let event := events.get eventIndex
    let settled := Function.update loop.pending eventIndex false
    if event.eventId ∈ loop.state.appliedEventIds then
      .ok { loop with pending := settled }
    else
      match loop.state.applyReadyEvent event with
      | (.ok (), state) =>
          let loop :=
            { loop with
              state := state
              pending := settled
              appliedEvents := loop.appliedEvents ++ [event.eventId]
              progressed := true }
          match loop.waitingByParent[event.eventId]? with
          | some waitingEvents =>
              .ok (waitingEvents.foldl (releaseWaiting conflicts eventIndex)
                { loop with waitingByParent := loop.waitingByParent.erase event.eventId })
          | none => .ok loop
      | (.error (.authorization refusal), state) =>
          if refusal.abortsBatch then
            .error (.authorization refusal, state)
          else
            .ok { loop with
              state := state
              authorizationDeferred := loop.authorizationDeferred ++ [eventIndex] }
      | (.error raised, state) => .error (raised, state)

/-- The inner loop, until nothing is ready in this round.  A round visits every
position at most once, so the fuel of `runRounds` is never used up. -/
def drainReady
    (events : List SignedEvent) (conflicts : Fin events.length → Bool) :
    Nat → BatchLoop events.length → Except BatchFailure (BatchLoop events.length)
  | 0, loop => .ok loop
  | fuel + 1, loop =>
      match popReady loop with
      | none => .ok loop
      | some (eventIndex, loop) =>
          match visitReady events conflicts loop eventIndex with
          | .error failure => .error failure
          | .ok loop => drainReady events conflicts fuel loop

/-- The two swaps at the end of a round. -/
def startNextRound {count : Nat} (loop : BatchLoop count) : BatchLoop count :=
  { loop with
    stableReadyEvents := loop.authorizationDeferred
    authorizationDeferred := []
    dynamicallyReadyEvents := loop.nextRoundReadyEvents
    nextRoundReadyEvents := loop.dynamicallyReadyEvents }

/-- The outer loop.  Every round but the last one settles an event, so one
round more than there are events is always enough. -/
def runRounds
    (events : List SignedEvent) (conflicts : Fin events.length → Bool) :
    Nat → BatchLoop events.length → Except BatchFailure (BatchLoop events.length)
  | 0, loop => .ok loop
  | fuel + 1, loop =>
      match drainReady events conflicts (events.length + 1)
          { loop with progressed := false, authorizationDeferred := [] } with
      | .error failure => .error failure
      | .ok loop =>
          if loop.progressed = false then
            .ok loop
          else
            let loop := startNextRound loop
            if loop.stableReadyEvents.isEmpty ∧ loop.dynamicallyReadyEvents.isEmpty then
              .ok loop
            else
              runRounds events conflicts fuel
                { loop with currentRound := loop.currentRound + 1 }

def gapOf (state : WorkspaceState) (event : SignedEvent) : MissingHistoryGap where
  eventId := event.eventId
  missingParentIds := state.unappliedParentIds event

def startRounds
    (state : WorkspaceState) (events : List SignedEvent)
    (conflicts : Fin events.length → Bool) : BatchLoop events.length :=
  let index := causalIndex state events conflicts
  { state := state
    pending := fun _ => true
    missingParentCounts := index.missingParentCounts
    earliestReadyRounds := fun _ => 0
    waitingByParent := index.waitingByParent
    appliedEvents := []
    stableReadyEvents := index.initiallyReadyEvents
    dynamicallyReadyEvents := []
    nextRoundReadyEvents := []
    authorizationDeferred := []
    currentRound := 0
    progressed := false }

def applyBatch
    (state : WorkspaceState) (events : List SignedEvent) :
    Except CoreError MaterializationReport × WorkspaceState :=
  match state.validateBatch events with
  | .error raised => (.error raised, state)
  | .ok () =>
      let conflicting := conflictingChannelIds events
      let conflicts (eventIndex : Fin events.length) : Bool :=
        channelDefinitionConflict conflicting (events.get eventIndex)
      match runRounds events conflicts (events.length + 1)
          (startRounds state events conflicts) with
      | .error (raised, failed) => (.error raised, failed)
      | .ok loop =>
          let stillPending := (List.finRange events.length).filter loop.pending
          (.ok
            { appliedEvents := loop.appliedEvents
              gaps := stillPending.map fun eventIndex =>
                gapOf loop.state (events.get eventIndex) },
            loop.state)

/-! ## The plain scan -/

/-- One attempt of the plain scan. -/
def legacyAttempt
    (state : WorkspaceState) (event : SignedEvent) : Attempt WorkspaceState BatchFailure :=
  match state.missingParentIds event with
  | .error raised => .abort (raised, state)
  | .ok (_ :: _) => .keep
  | .ok [] =>
      match state.applyReadyEvent event with
      | (.ok (), next) => .advance next
      | (.error (.authorization refusal), left) =>
          if refusal.abortsBatch then .abort (.authorization refusal, left) else .keep
      | (.error raised, left) => .abort (raised, left)

/-- The gap report of the plain scan, which checks every event once more. -/
def legacyGaps
    (state : WorkspaceState) : List SignedEvent → Except CoreError (List MissingHistoryGap)
  | [] => .ok []
  | event :: rest => do
      let missingParentIds ← state.missingParentIds event
      let gaps ← legacyGaps state rest
      .ok ({ eventId := event.eventId, missingParentIds := missingParentIds } :: gaps)

def applyBatchWithLegacyStableScans
    (state : WorkspaceState) (events : List SignedEvent) :
    Except CoreError MaterializationReport × WorkspaceState :=
  match state.validateBatch events with
  | .error raised => (.error raised, state)
  | .ok () =>
      match replay legacyAttempt state events with
      | .error (raised, failed) => (.error raised, failed)
      | .ok scan =>
          match legacyGaps scan.state scan.kept with
          | .error raised => (.error raised, scan.state)
          | .ok gaps =>
              (.ok
                { appliedEvents := scan.advanced.map SignedEvent.eventId
                  gaps := gaps },
                scan.state)

end WorkspaceState

end Chaft

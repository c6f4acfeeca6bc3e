import Chaft.Core.BatchRounds
import Chaft.Network.FetchEvents
import Chaft.Storage.ServedEvents

/-!
# Pulling a workspace

A device compares the events that it serves with the inventory of a peer, fetches those that
it does not serve, verifies them and appends those of the workspace, in the order in which
they would be applied.  An error in the middle keeps what was appended before.
-/

namespace Chaft

open Keyed Outcome Transition Effects Effects.Effect

inductive SyncError where
  | net (error : NetError)
  | store (error : StoreError)
  | identity (error : IdentityError)
  | core (error : CoreError)

def SyncError.protocol (message : String) : SyncError :=
  .net (.protocol message)

/-! ## Plans -/

structure EventInventory where
  eventIds : HashSet EventId

namespace EventInventory

def fromEventIds (eventIds : List EventId) : EventInventory :=
  ⟨Std.ExtTreeSet.ofList eventIds compare⟩

def has (inventory : EventInventory) (eventId : EventId) : Bool :=
  decide (eventId ∈ inventory.eventIds)

/-- What the remote inventory has and this one has not, in the order of the IDs. -/
def missingFrom (inventory remote : EventInventory) : List EventId :=
  remote.eventIds.toList.filter fun eventId => !inventory.has eventId

end EventInventory

structure WorkspaceSyncPlan where
  workspaceId : WorkspaceId
  localEventIds : List EventId
  remoteEventIds : List EventId
  publishEventIds : List EventId
  requestEventIds : List EventId

def WorkspaceSyncPlan.isNoChange (plan : WorkspaceSyncPlan) : Bool :=
  plan.publishEventIds.isEmpty && plan.requestEventIds.isEmpty

/-- The remote IDs, each against those before it. -/
def validateRemoteInventoryEventIds : List EventId → List EventId → Except SyncError Unit
  | _, [] => .ok ()
  | seen, eventId :: rest => do
      ensure (isCanonicalEventIdStr eventId.text = true)
        (.protocol "peer returned non-canonical inventory event id")
      ensure (eventId ∉ seen)
        (.protocol ("peer returned duplicate inventory event id " ++ eventId.text))
      validateRemoteInventoryEventIds (eventId :: seen) rest

/-- The remote IDs that are not local and were not seen before. -/
def missingRemoteEventIds (localInventory : EventInventory) :
    List EventId → List EventId → List EventId
  | _, [] => []
  | seen, eventId :: rest =>
      if localInventory.has eventId = true ∨ eventId ∈ seen then
        missingRemoteEventIds localInventory seen rest
      else
        eventId :: missingRemoteEventIds localInventory (eventId :: seen) rest

def planWorkspaceSync
    (localStore : EventStore) (workspaceId : WorkspaceId) (remoteEventIds : List EventId) :
    Except SyncError WorkspaceSyncPlan := do
  validateRemoteInventoryEventIds [] remoteEventIds
  let localEventIds := localStore.listServableEventIdsForWorkspace workspaceId.text
  let localInventory := EventInventory.fromEventIds localEventIds
  let remoteInventory := EventInventory.fromEventIds remoteEventIds
  .ok
    { workspaceId := workspaceId
      localEventIds := localEventIds
      remoteEventIds := remoteEventIds
      publishEventIds := remoteInventory.missingFrom localInventory
      requestEventIds := missingRemoteEventIds localInventory [] remoteEventIds }

/-! ## Fetched events -/

def validateFetchedEvents
    (fetchedEvents : List SignedEvent) (requestedEventIds : List EventId) :
    Except SyncError Unit :=
  (validateFetchEventsResponse requestedEventIds [] fetchedEvents).mapError .net

section Pull

variable (primitives : Primitives) (json : EventJson)

/-- Every event has to verify; those of other workspaces are put aside. -/
def separateFetchedEvents (workspaceId : WorkspaceId) :
    List SignedEvent → Except SyncError (List EventId × List SignedEvent)
  | [] => .ok ([], [])
  | event :: rest => do
      (verifySelfContainedEvent primitives event).mapError .identity
      let (ignoredEventIds, workspaceEvents) ← separateFetchedEvents workspaceId rest
      if event.event.workspaceId ≠ workspaceId then
        .ok (event.eventId :: ignoredEventIds, workspaceEvents)
      else
        .ok (ignoredEventIds, event :: workspaceEvents)

/-- Without the events whose key is given and does not verify them. -/
def verifiedSyncEvents (events : List SignedEvent) : List SignedEvent :=
  events.filter fun event =>
    event.authorPublicKey.isEmpty || isServableEvent primitives event

/-- The IDs of the preview that were fetched, each once, and then the other fetched ones. -/
def appendOrder
    (preview : MaterializationReport) (fetchedEvents : List SignedEvent) : List EventId :=
  let fetchedById : HashMap EventId SignedEvent :=
    tableOf SignedEvent.eventId id ∅ fetchedEvents
  unseenEventIds []
    (((preview.appliedEvents ++ preview.gaps.map MissingHistoryGap.eventId).filter fun eventId =>
        decide (eventId ∈ fetchedById)) ++
      fetchedEvents.map SignedEvent.eventId)

/-- The fetched events in the order in which they are appended. -/
def orderedEvents
    (preview : MaterializationReport) (fetchedEvents : List SignedEvent) : List SignedEvent :=
  let fetchedById : HashMap EventId SignedEvent :=
    tableOf SignedEvent.eventId id ∅ fetchedEvents
  (appendOrder preview fetchedEvents).filterMap fun eventId => fetchedById[eventId]?

/-- `append_event`, which changes the store when it succeeds. -/
def appendStored (event : SignedEvent) : Effect EventStore SyncError Unit := fun store =>
  match store.appendEvent primitives json event with
  | .ok next => (.ok (), next)
  | .error raised => (.error (.store raised), store)

def appendWorkspaceEventsInMaterializedOrder
    (workspaceId : WorkspaceId) (localEvents fetchedEvents : List SignedEvent) :
    Effect EventStore SyncError (List SignedEvent) :=
  if fetchedEvents.isEmpty then
    pure []
  else do
    let preview ←
      lift (((WorkspaceState.new workspaceId).applyBatch
        (localEvents ++ fetchedEvents)).1.mapError .core)
    forEach (appendStored primitives json) (orderedEvents preview fetchedEvents)
    pure (orderedEvents preview fetchedEvents)

structure PullSyncReport where
  requestedEventIds : List EventId
  fetchedEventIds : List EventId
  ignoredEventIds : List EventId
  materialization : MaterializationReport
  materializedMemberDeviceIds : List DeviceId

/-- The materialization of the report, and the members after it. -/
def materializedForPull
    (workspaceId : WorkspaceId) (events : List SignedEvent) :
    Except SyncError (MaterializationReport × List DeviceId) :=
  if events.isEmpty then
    .ok (⟨[], []⟩, [])
  else
    match (WorkspaceState.new workspaceId).applyBatch events with
    | (.error raised, _) => .error (.core raised)
    | (.ok report, state) => .ok (report, state.members.keys)

/-- What is fetched is appended after all of it was verified. -/
def pullFetchedEvents
    (workspaceId : WorkspaceId) (requestedEventIds : List EventId)
    (fetchedEvents : List SignedEvent) : Effect EventStore SyncError PullSyncReport := do
  lift (validateFetchedEvents fetchedEvents requestedEventIds)
  let (ignoredEventIds, workspaceEvents) ←
    lift (separateFetchedEvents primitives workspaceId fetchedEvents)
  let localEvents ←
    reads fun store =>
      .ok (verifiedSyncEvents primitives
        (store.listParseableEventsForWorkspace json workspaceId.text))
  let appendedEvents ←
    appendWorkspaceEventsInMaterializedOrder primitives json workspaceId localEvents
      workspaceEvents
  let (materialization, memberDeviceIds) ←
    lift (materializedForPull workspaceId
      (if workspaceEvents.isEmpty then [] else localEvents ++ appendedEvents))
  pure
    { requestedEventIds := requestedEventIds
      fetchedEventIds := appendedEvents.map SignedEvent.eventId
      ignoredEventIds := ignoredEventIds
      materialization := materialization
      materializedMemberDeviceIds := memberDeviceIds }

/-- The events are fetched by a transport. -/
def pullWorkspaceFromPeerWithPlan
    (fetchEvents : List EventId → Except NetError (List SignedEvent))
    (workspaceId : WorkspaceId) (plan : WorkspaceSyncPlan) :
    Effect EventStore SyncError PullSyncReport := do
  lift (ensure (plan.workspaceId = workspaceId)
    (.protocol "sync plan workspace does not match pull workspace"))
  if plan.requestEventIds.isEmpty then
    pure
      { requestedEventIds := plan.requestEventIds
        fetchedEventIds := []
        ignoredEventIds := []
        materialization := ⟨[], []⟩
        materializedMemberDeviceIds := [] }
  else do
    let fetchedEvents ← lift ((fetchEvents plan.requestEventIds).mapError .net)
    pullFetchedEvents primitives json workspaceId plan.requestEventIds fetchedEvents

def pullWorkspaceFromPeerWithInventory
    (fetchEvents : List EventId → Except NetError (List SignedEvent))
    (workspaceId : WorkspaceId) (remoteEventIds : List EventId) :
    Effect EventStore SyncError PullSyncReport := do
  let plan ← reads fun store => planWorkspaceSync store workspaceId remoteEventIds
  pullWorkspaceFromPeerWithPlan primitives json fetchEvents workspaceId plan

end Pull

/-! ## Requests -/

theorem mem_missingRemoteEventIds
    (localInventory : EventInventory) (seen remoteEventIds : List EventId) (eventId : EventId) :
    eventId ∈ missingRemoteEventIds localInventory seen remoteEventIds ↔
      eventId ∈ remoteEventIds ∧ localInventory.has eventId = false ∧ eventId ∉ seen := by
  induction remoteEventIds generalizing seen with
  | nil => simp [missingRemoteEventIds]
  | cons first rest inductionHypothesis =>
      rw [missingRemoteEventIds]
      by_cases isKnown : localInventory.has first = true ∨ first ∈ seen
      · rw [if_pos isKnown, inductionHypothesis, List.mem_cons]
        constructor
        · intro found
          exact ⟨Or.inr found.1, found.2⟩
        · intro found
          obtain ⟨isFirst | later, isNew, unseen⟩ := found
          · rw [isFirst] at isNew unseen
            rcases isKnown with isLocal | isSeen
            · rw [isNew] at isLocal
              cases isLocal
            · exact absurd isSeen unseen
          · exact ⟨later, isNew, unseen⟩
      · rw [not_or, Bool.not_eq_true] at isKnown
        have unknown : ¬ (localInventory.has first = true ∨ first ∈ seen) := by
          rw [not_or, Bool.not_eq_true]
          exact isKnown
        rw [if_neg unknown, List.mem_cons, inductionHypothesis, List.mem_cons, List.mem_cons,
          not_or]
        by_cases isFirst : eventId = first
        · rw [isFirst]
          simp [isKnown.1, isKnown.2]
        · simp [isFirst]

theorem EventInventory.has_fromEventIds (eventIds : List EventId) (eventId : EventId) :
    (EventInventory.fromEventIds eventIds).has eventId = true ↔ eventId ∈ eventIds := by
  rw [EventInventory.has, decide_eq_true_eq, EventInventory.fromEventIds, mem_ofList_iff]

/-- A plan requests the remote IDs that are not served. -/
theorem planWorkspaceSync_requests
    {localStore : EventStore} {workspaceId : WorkspaceId} {remoteEventIds : List EventId}
    {plan : WorkspaceSyncPlan}
    (planned : planWorkspaceSync localStore workspaceId remoteEventIds = .ok plan) :
    plan.workspaceId = workspaceId ∧ plan.remoteEventIds = remoteEventIds ∧
      ∀ eventId, eventId ∈ plan.requestEventIds ↔
        eventId ∈ remoteEventIds ∧
          eventId ∉ localStore.listServableEventIdsForWorkspace workspaceId.text := by
  rw [planWorkspaceSync, bind_eq_ok_iff] at planned
  obtain ⟨_, -, planned⟩ := planned
  cases planned
  refine ⟨rfl, rfl, ?_⟩
  intro eventId
  dsimp only
  rw [mem_missingRemoteEventIds]
  have isLocal :=
    EventInventory.has_fromEventIds
      (localStore.listServableEventIdsForWorkspace workspaceId.text) eventId
  rw [← isLocal, Bool.not_eq_true]
  simp

/-! ## What a pull appends -/

section Appends

variable {primitives : Primitives} {json : EventJson}

/-- Appending stops at the first event that is refused and keeps those before it. -/
theorem forEach_appendStored (events : List SignedEvent) (store : EventStore) :
    ∃ done rest, events = done ++ rest ∧
      (forEach (appendStored primitives json) events store).2 =
        store.after primitives json done ∧
      (∀ event ∈ done, isAppended primitives json event = true) ∧
      ((forEach (appendStored primitives json) events store).1 = .ok () → rest = []) ∧
      ∀ event later, rest = event :: later → isAppended primitives json event = false := by
  induction events generalizing store with
  | nil => exact ⟨[], [], rfl, rfl, by simp, fun _ => rfl, by simp⟩
  | cons event later inductionHypothesis =>
      cases appended : store.appendEvent primitives json event with
      | error raised =>
          have stored :
              appendStored primitives json event store = (.error (.store raised), store) := by
            rw [appendStored, appended]
          have refused : isAppended primitives json event = false := by
            rw [EventStore.appendEvent] at appended
            rw [isAppended]
            cases written : serializedEvent primitives json event with
            | error other => rfl
            | ok row =>
                rw [written] at appended
                cases appended
          refine ⟨[], event :: later, rfl, ?_, by simp, ?_, ?_⟩
          · rw [forEach, bind_of_error stored]
            rfl
          · rw [forEach, bind_of_error stored]
            intro isOk
            cases isOk
          · intro first others isSplit
            rw [← (List.cons.inj isSplit).1]
            exact refused
      | ok next =>
          have stored : appendStored primitives json event store = (.ok (), next) := by
            rw [appendStored, appended]
          have accepted : isAppended primitives json event = true := by
            rw [EventStore.appendEvent, bind_eq_ok_iff] at appended
            obtain ⟨row, written, -⟩ := appended
            rw [isAppended, written]
            rfl
          have isNext : store.after primitives json [event] = next := by
            simp only [EventStore.after, runSkipping, appended]
          obtain ⟨done, rest, isSplit, isAfter, allAppended, whole, stops⟩ :=
            inductionHypothesis next
          refine ⟨event :: done, rest, by rw [isSplit, List.cons_append], ?_, ?_, ?_, stops⟩
          · rw [forEach, bind_of_ok stored, isAfter, after_cons, isNext]
          · exact List.forall_mem_cons.mpr ⟨accepted, allAppended⟩
          · rw [forEach, bind_of_ok stored]
            exact whole

/-- The events of the workspace are kept, and all of them verify. -/
theorem separateFetchedEvents_eq_ok
    {workspaceId : WorkspaceId} {events kept : List SignedEvent} {ignored : List EventId}
    (separated : separateFetchedEvents primitives workspaceId events = .ok (ignored, kept)) :
    kept = events.filter (fun event => decide (event.event.workspaceId = workspaceId)) ∧
      ∀ event ∈ events, isServableEvent primitives event = true := by
  induction events generalizing ignored kept with
  | nil =>
      cases separated
      exact ⟨rfl, by simp⟩
  | cons event rest inductionHypothesis =>
      rw [separateFetchedEvents, bind_eq_ok_iff] at separated
      obtain ⟨_, verified, separated⟩ := separated
      rw [renamed_eq_ok_iff] at verified
      rw [bind_eq_ok_iff] at separated
      obtain ⟨⟨restIgnored, restKept⟩, isRest, separated⟩ := separated
      obtain ⟨restFiltered, restVerified⟩ := inductionHypothesis isRest
      have servable : isServableEvent primitives event = true := by
        rw [isServableEvent, verified]
        rfl
      refine ⟨?_, List.forall_mem_cons.mpr ⟨servable, restVerified⟩⟩
      dsimp only at separated
      by_cases inWorkspace : event.event.workspaceId = workspaceId
      · have notElsewhere : ¬ event.event.workspaceId ≠ workspaceId := not_not.mpr inWorkspace
        rw [if_neg notElsewhere, Except.ok.injEq, Prod.mk.injEq] at separated
        rw [← separated.2, restFiltered]
        simp only [List.filter_cons, inWorkspace, decide_true, if_true]
      · rw [if_pos inWorkspace, Except.ok.injEq, Prod.mk.injEq] at separated
        rw [← separated.2, restFiltered]
        simp only [List.filter_cons, inWorkspace, decide_false, Bool.false_eq_true, if_false]

/-- The events in their order are some of the fetched ones, and all of them if the IDs are
distinct. -/
theorem mem_orderedEvents
    (preview : MaterializationReport) (fetchedEvents : List SignedEvent) :
    ((orderedEvents preview fetchedEvents).map SignedEvent.eventId).Nodup ∧
      (∀ event ∈ orderedEvents preview fetchedEvents, event ∈ fetchedEvents) ∧
      ((fetchedEvents.map SignedEvent.eventId).Nodup →
        ∀ event ∈ fetchedEvents, event ∈ orderedEvents preview fetchedEvents) := by
  have named :
      ∀ eventId event,
        (tableOf SignedEvent.eventId id ∅ fetchedEvents : HashMap EventId SignedEvent)[eventId]? =
            some event →
          event.eventId = eventId ∧ event ∈ fetchedEvents := by
    intro eventId event isFound
    rcases getElem?_tableOf isFound with found | absent
    · obtain ⟨other, member, sameId, isEvent⟩ := found
      have same : other = event := isEvent
      subst same
      exact ⟨sameId, member⟩
    · simp at absent
  refine ⟨?_, ?_, ?_⟩
  · have inOrder :=
      map_eventId_held (fun eventId event found => (named eventId event found).1)
        (appendOrder preview fetchedEvents)
    exact (unseenEventIds_spec [] _).1.sublist inOrder
  · intro event member
    obtain ⟨eventId, -, isFound⟩ := List.mem_filterMap.mp member
    exact (named eventId event isFound).2
  · intro distinct event member
    refine List.mem_filterMap.mpr ⟨event.eventId, ?_, ?_⟩
    · rw [appendOrder, (unseenEventIds_spec [] _).2.2, List.mem_append]
      exact ⟨Or.inr (List.mem_map_of_mem member), List.not_mem_nil⟩
    · exact getElem?_tableOf_of_mem (List.pairwise_map.mp distinct) member ∅

/-- The IDs of fetched events are requested and distinct. -/
theorem validateFetchEventsResponse_spec
    {requested seen : List EventId} {events : List SignedEvent}
    (checked : validateFetchEventsResponse requested seen events = .ok ()) :
    (∀ event ∈ events, event.eventId ∈ requested ∧ event.eventId ∉ seen) ∧
      (events.map SignedEvent.eventId).Nodup := by
  induction events generalizing seen with
  | nil => exact ⟨by simp, List.nodup_nil⟩
  | cons event rest inductionHypothesis =>
      simp only [validateFetchEventsResponse, bind_eq_ok_iff, ensure_eq_ok_iff] at checked
      obtain ⟨_, asked, _, unseen, checkedRest⟩ := checked
      obtain ⟨restAsked, distinct⟩ := inductionHypothesis checkedRest
      refine ⟨List.forall_mem_cons.mpr ⟨⟨asked, unseen⟩, ?_⟩, ?_⟩
      · intro other member
        obtain ⟨otherAsked, otherUnseen⟩ := restAsked other member
        exact ⟨otherAsked, fun isSeen => otherUnseen (List.mem_cons_of_mem _ isSeen)⟩
      · rw [List.map_cons, List.nodup_cons]
        refine ⟨?_, distinct⟩
        intro again
        obtain ⟨other, member, sameId⟩ := List.mem_map.mp again
        apply (restAsked other member).2
        rw [sameId]
        exact List.mem_cons_self

/-- What is appended of some fetched events, and all of it if there is no error. -/
theorem appendWorkspaceEvents_spec
    (workspaceId : WorkspaceId) (localEvents fetchedEvents : List SignedEvent)
    (store : EventStore) :
    ∃ added,
      (appendWorkspaceEventsInMaterializedOrder primitives json workspaceId localEvents
          fetchedEvents store).2 = store.after primitives json added ∧
        (added.map SignedEvent.eventId).Nodup ∧
        (∀ event ∈ added, event ∈ fetchedEvents ∧ isAppended primitives json event = true) ∧
        ∀ appended,
          (appendWorkspaceEventsInMaterializedOrder primitives json workspaceId localEvents
              fetchedEvents store).1 = .ok appended →
            added = appended ∧
              ((fetchedEvents.map SignedEvent.eventId).Nodup →
                ∀ event ∈ fetchedEvents, event ∈ appended) := by
  rw [appendWorkspaceEventsInMaterializedOrder]
  by_cases isEmpty : fetchedEvents.isEmpty = true
  · rw [if_pos isEmpty, pure_apply]
    refine ⟨[], rfl, List.nodup_nil, by simp, ?_⟩
    intro appended isOk
    rw [List.isEmpty_iff.mp isEmpty]
    exact ⟨Except.ok.inj isOk, by simp⟩
  · rw [if_neg isEmpty]
    cases
      ((WorkspaceState.new workspaceId).applyBatch
        (localEvents ++ fetchedEvents)).1.mapError SyncError.core with
    | error raised =>
        have raises :
            (lift (.error raised) : Effect EventStore SyncError MaterializationReport) store =
              (.error raised, store) := rfl
        rw [bind_of_error raises]
        exact ⟨[], rfl, List.nodup_nil, by simp, fun _ isOk => nomatch isOk⟩
    | ok preview =>
        have passes :
            (lift (.ok preview) : Effect EventStore SyncError MaterializationReport) store =
              (.ok preview, store) := rfl
        rw [bind_of_ok passes]
        obtain ⟨distinct, drawn, whole⟩ := mem_orderedEvents preview fetchedEvents
        obtain ⟨done, rest, isSplit, isAfter, allAppended, complete, -⟩ :=
          @forEach_appendStored primitives json (orderedEvents preview fetchedEvents) store
        have contained : done.Sublist (orderedEvents preview fetchedEvents) := by
          rw [isSplit]
          exact List.sublist_append_left done rest
        have accepted :
            ∀ event ∈ done, event ∈ fetchedEvents ∧ isAppended primitives json event = true :=
          fun event member => ⟨drawn event (contained.subset member), allAppended event member⟩
        cases outcome :
            forEach (appendStored primitives json) (orderedEvents preview fetchedEvents) store with
        | mk result after =>
            rw [outcome] at isAfter complete
            cases result with
            | error raised =>
                rw [bind_of_error outcome]
                exact ⟨done, isAfter, distinct.sublist (contained.map _), accepted,
                  fun _ isOk => nomatch isOk⟩
            | ok _ =>
                rw [bind_of_ok outcome, pure_apply]
                refine ⟨done, isAfter, distinct.sublist (contained.map _), accepted, ?_⟩
                intro appended isOk
                have all : orderedEvents preview fetchedEvents = appended := Except.ok.inj isOk
                rw [complete rfl, List.append_nil] at isSplit
                exact ⟨isSplit.symm.trans all, all ▸ whole⟩

variable (primitives json) in
/-- What a pull of fetched events does to the store. -/
structure PullOutcome
    (workspaceId : WorkspaceId) (requestedEventIds : List EventId)
    (fetchedEvents : List SignedEvent) (store : EventStore)
    (outcome : Except SyncError PullSyncReport × EventStore) (added : List SignedEvent) :
    Prop where
  after : outcome.2 = store.after primitives json added
  distinct : (added.map SignedEvent.eventId).Nodup
  drawn :
    ∀ event ∈ added,
      event ∈ fetchedEvents ∧ event.eventId ∈ requestedEventIds ∧
        event.event.workspaceId = workspaceId ∧ VerifiedCopy primitives json event.eventId event
  complete :
    ∀ report, outcome.1 = .ok report →
      report.fetchedEventIds = added.map SignedEvent.eventId ∧
        ∀ event ∈ fetchedEvents, event.event.workspaceId = workspaceId → event ∈ added
  reported :
    ∀ report, outcome.1 = .ok report → added ≠ [] →
      materializedForPull workspaceId
          (verifiedSyncEvents primitives
              (store.listParseableEventsForWorkspace json workspaceId.text) ++ added) =
        .ok (report.materialization, report.materializedMemberDeviceIds)

theorem PullOutcome.failed
    (workspaceId : WorkspaceId) (requestedEventIds : List EventId)
    (fetchedEvents : List SignedEvent) (store : EventStore) (raised : SyncError) :
    PullOutcome primitives json workspaceId requestedEventIds fetchedEvents store
      (.error raised, store) [] where
  after := rfl
  distinct := List.nodup_nil
  drawn _ member := absurd member List.not_mem_nil
  complete _ isOk := nomatch isOk
  reported _ isOk := nomatch isOk

/-- What a pull of fetched events appends: only verified events, and on success all of the
workspace. -/
theorem pullFetchedEvents_spec
    (workspaceId : WorkspaceId) (requestedEventIds : List EventId)
    (fetchedEvents : List SignedEvent) (store : EventStore) :
    ∃ added,
      PullOutcome primitives json workspaceId requestedEventIds fetchedEvents store
        (pullFetchedEvents primitives json workspaceId requestedEventIds fetchedEvents store)
        added := by
  rw [pullFetchedEvents]
  cases checked : validateFetchedEvents fetchedEvents requestedEventIds with
  | error raised =>
      have raises :
          (lift (.error raised) : Effect EventStore SyncError Unit) store =
            (.error raised, store) := rfl
      rw [bind_of_error raises]
      exact ⟨[], .failed _ _ _ _ raised⟩
  | ok done =>
      have passes :
          (lift (.ok done) : Effect EventStore SyncError Unit) store = (.ok done, store) := rfl
      rw [bind_of_ok passes]
      have validated := checked
      rw [validateFetchedEvents, renamed_eq_ok_iff] at validated
      obtain ⟨asked, fetchedDistinct⟩ := validateFetchEventsResponse_spec validated
      cases isSeparated : separateFetchedEvents primitives workspaceId fetchedEvents with
      | error raised =>
          have raises :
              (lift (.error raised) :
                Effect EventStore SyncError (List EventId × List SignedEvent)) store =
                  (.error raised, store) := rfl
          rw [bind_of_error raises]
          exact ⟨[], .failed _ _ _ _ raised⟩
      | ok separated =>
          obtain ⟨ignored, workspaceEvents⟩ := separated
          obtain ⟨kept, verified⟩ := separateFetchedEvents_eq_ok isSeparated
          have separates :
              (lift (.ok (ignored, workspaceEvents)) :
                Effect EventStore SyncError (List EventId × List SignedEvent)) store =
                  (.ok (ignored, workspaceEvents), store) := rfl
          have inWorkspace :
              ∀ event, event ∈ workspaceEvents ↔
                event ∈ fetchedEvents ∧ event.event.workspaceId = workspaceId := by
            intro event
            rw [kept, List.mem_filter, decide_eq_true_eq]
          have workspaceDistinct : (workspaceEvents.map SignedEvent.eventId).Nodup := by
            rw [kept]
            exact fetchedDistinct.sublist (List.filter_sublist.map _)
          rw [bind_of_ok separates]
          dsimp only
          have looks :
              (reads fun store =>
                  .ok (verifiedSyncEvents primitives
                    (store.listParseableEventsForWorkspace json workspaceId.text)) :
                Effect EventStore SyncError (List SignedEvent)) store =
                  (.ok (verifiedSyncEvents primitives
                    (store.listParseableEventsForWorkspace json workspaceId.text)), store) := rfl
          rw [bind_of_ok looks]
          obtain ⟨added, isAfter, distinct, drawn, whole⟩ :=
            @appendWorkspaceEvents_spec primitives json workspaceId
              (verifiedSyncEvents primitives
                (store.listParseableEventsForWorkspace json workspaceId.text))
              workspaceEvents store
          have copies :
              ∀ event ∈ added,
                event ∈ fetchedEvents ∧ event.eventId ∈ requestedEventIds ∧
                  event.event.workspaceId = workspaceId ∧
                  VerifiedCopy primitives json event.eventId event := by
            intro event member
            obtain ⟨isKept, appended⟩ := drawn event member
            obtain ⟨isFetched, sameWorkspace⟩ := (inWorkspace event).mp isKept
            exact ⟨isFetched, (asked event isFetched).1, sameWorkspace,
              ⟨rfl, verified event isFetched, appended⟩⟩
          cases outcome :
              appendWorkspaceEventsInMaterializedOrder primitives json workspaceId
                (verifiedSyncEvents primitives
                  (store.listParseableEventsForWorkspace json workspaceId.text))
                workspaceEvents store with
          | mk result next =>
              rw [outcome] at isAfter whole
              cases result with
              | error raised =>
                  rw [bind_of_error outcome]
                  exact
                    ⟨added, isAfter, distinct, copies, (fun _ isOk => nomatch isOk),
                      fun _ isOk => nomatch isOk⟩
              | ok appended =>
                  obtain ⟨isAdded, all⟩ := whole appended rfl
                  rw [bind_of_ok outcome]
                  cases isMaterialized :
                    materializedForPull workspaceId
                      (if workspaceEvents.isEmpty then
                        []
                      else
                        verifiedSyncEvents primitives
                            (store.listParseableEventsForWorkspace json workspaceId.text) ++
                          appended) with
                  | error raised =>
                      exact
                        ⟨added, isAfter, distinct, copies, (fun _ isOk => nomatch isOk),
                          fun _ isOk => nomatch isOk⟩
                  | ok materialized =>
                      refine ⟨added, isAfter, distinct, copies, ?_, ?_⟩
                      · intro report isOk
                        cases isOk
                        refine ⟨by rw [isAdded], ?_⟩
                        intro event isFetched sameWorkspace
                        rw [isAdded]
                        exact all workspaceDistinct event
                          ((inWorkspace event).mpr ⟨isFetched, sameWorkspace⟩)
                      · intro report isOk someAdded
                        cases isOk
                        obtain ⟨event, member⟩ := List.exists_mem_of_ne_nil added someAdded
                        have isKept := (drawn event member).1
                        have someEvents : ¬ workspaceEvents.isEmpty = true := by
                          intro isEmpty
                          rw [List.isEmpty_iff.mp isEmpty] at isKept
                          cases isKept
                        rw [if_neg someEvents, ← isAdded] at isMaterialized
                        exact isMaterialized

/-- What a pull along a plan does. -/
theorem pullWithPlan_spec
    (fetchEvents : List EventId → Except NetError (List SignedEvent))
    (workspaceId : WorkspaceId) (plan : WorkspaceSyncPlan) (store : EventStore) :
    ∃ fetched added,
      PullOutcome primitives json workspaceId plan.requestEventIds fetched store
          (pullWorkspaceFromPeerWithPlan primitives json fetchEvents workspaceId plan store)
          added ∧
        (fetched = [] ∨ fetchEvents plan.requestEventIds = .ok fetched) ∧
        ∀ report,
          (pullWorkspaceFromPeerWithPlan primitives json fetchEvents workspaceId plan store).1 =
              .ok report →
            plan.requestEventIds = [] ∨ fetchEvents plan.requestEventIds = .ok fetched := by
  rw [pullWorkspaceFromPeerWithPlan]
  cases ensure (plan.workspaceId = workspaceId)
      (SyncError.protocol "sync plan workspace does not match pull workspace") with
  | error raised =>
      have raises :
          (lift (.error raised) : Effect EventStore SyncError Unit) store =
            (.error raised, store) := rfl
      rw [bind_of_error raises]
      exact ⟨[], [], .failed _ _ _ _ raised, Or.inl rfl, fun _ isOk => nomatch isOk⟩
  | ok done =>
      have passes :
          (lift (.ok done) : Effect EventStore SyncError Unit) store = (.ok done, store) := rfl
      rw [bind_of_ok passes]
      by_cases nothing : plan.requestEventIds.isEmpty = true
      · rw [if_pos nothing, pure_apply]
        refine ⟨[], [], ⟨rfl, List.nodup_nil, by simp, ?_, ?_⟩, Or.inl rfl, ?_⟩
        · intro report isOk
          cases isOk
          exact ⟨rfl, by simp⟩
        · exact fun _ _ someAdded => absurd rfl someAdded
        · exact fun _ _ => Or.inl (List.isEmpty_iff.mp nothing)
      · rw [if_neg nothing]
        cases answer : fetchEvents plan.requestEventIds with
        | error raised =>
            have raises :
                (lift ((Except.error raised : Except NetError (List SignedEvent)).mapError
                  SyncError.net) : Effect EventStore SyncError (List SignedEvent)) store =
                    (.error (.net raised), store) := rfl
            rw [bind_of_error raises]
            exact
              ⟨[], [], .failed _ _ _ _ (.net raised), Or.inl rfl, fun _ isOk => nomatch isOk⟩
        | ok fetched =>
            have answers :
                (lift ((Except.ok fetched : Except NetError (List SignedEvent)).mapError
                  SyncError.net) : Effect EventStore SyncError (List SignedEvent)) store =
                    (.ok fetched, store) := rfl
            rw [bind_of_ok answers]
            obtain ⟨added, outcome⟩ :=
              @pullFetchedEvents_spec primitives json workspaceId plan.requestEventIds fetched
                store
            exact ⟨fetched, added, outcome, Or.inr rfl, fun _ _ => Or.inr rfl⟩

end Appends

/-- A pull from any peer keeps what is served and adds only verified events of the workspace
that were asked for.  A successful pull serves every ID under which the peer sent one. -/
theorem pull_keepsServed
    (primitives : Primitives) (json : EventJson) (roundTrips : json.RoundTrips)
    (history : List SignedEvent)
    (fetchEvents : List EventId → Except NetError (List SignedEvent))
    (workspaceId : WorkspaceId) (plan : WorkspaceSyncPlan) :
    let before := EventStore.empty.after primitives json history
    let outcome :=
      pullWorkspaceFromPeerWithPlan primitives json fetchEvents workspaceId plan before
    (∃ added,
        outcome.2 = EventStore.empty.after primitives json (history ++ added) ∧
          ∀ event ∈ added,
            VerifiedCopy primitives json event.eventId event ∧
              event.event.workspaceId = workspaceId ∧ event.eventId ∈ plan.requestEventIds ∧
                ∃ fetched, fetchEvents plan.requestEventIds = .ok fetched ∧ event ∈ fetched) ∧
      (∀ eventId event,
        before.getServableEvent json eventId = some event →
          outcome.2.getServableEvent json eventId = some event) ∧
        ∀ report fetched,
          outcome.1 = .ok report → fetchEvents plan.requestEventIds = .ok fetched →
            plan.requestEventIds ≠ [] → ∀ event ∈ fetched,
              event.event.workspaceId = workspaceId →
                ∃ served, outcome.2.getServableEvent json event.eventId = some served := by
  intro before outcome
  obtain ⟨fetched, added, pulled, isFetched, whole⟩ :=
    @pullWithPlan_spec primitives json fetchEvents workspaceId plan before
  have isAfter : outcome.2 = EventStore.empty.after primitives json (history ++ added) := by
    rw [after_append]
    exact pulled.after
  refine ⟨⟨added, isAfter, ?_⟩, ?_, ?_⟩
  · intro event member
    obtain ⟨inFetched, asked, sameWorkspace, copy⟩ := pulled.drawn event member
    refine ⟨copy, sameWorkspace, asked, fetched, ?_, inFetched⟩
    rcases isFetched with none | answered
    · rw [none] at inFetched
      cases inFetched
    · exact answered
  · intro eventId event served
    rw [isAfter]
    exact served_after_append roundTrips history served added
  · intro report answered isOk isAnswer asked event member sameWorkspace
    have sameAnswer : fetched = answered := by
      rcases whole report isOk with none | isAnswered
      · exact absurd none asked
      · exact Except.ok.inj (isAnswered.symm.trans isAnswer)
    have isAdded := (pulled.complete report isOk).2 event (sameAnswer ▸ member) sameWorkspace
    rw [isAfter]
    exact served_of_mem roundTrips _ (List.mem_append_right history isAdded)
      (pulled.drawn event isAdded).2.2.2

/-! An empty device pulls the creation of the home workspace. -/

def homePlan : WorkspaceSyncPlan where
  workspaceId := ⟨"w"⟩
  localEventIds := []
  remoteEventIds := [signedHome.eventId]
  publishEventIds := []
  requestEventIds := [signedHome.eventId]

/-- The pull of the home workspace by an empty device fetches something. -/
theorem homePull_fetches :
    (pullWorkspaceFromPeerWithPlan homePrimitives homeJson (fun _ => .ok [signedHome]) ⟨"w"⟩
      homePlan EventStore.empty).1.toOption.any (fun report =>
        !report.fetchedEventIds.isEmpty) = true := by
  decide +kernel

theorem homePull_servesHome :
    ∃ served,
      (pullWorkspaceFromPeerWithPlan homePrimitives homeJson (fun _ => .ok [signedHome]) ⟨"w"⟩
          homePlan EventStore.empty).2.getServableEvent homeJson signedHome.eventId =
        some served := by
  have fetches := homePull_fetches
  obtain ⟨-, -, serves⟩ :=
    pull_keepsServed homePrimitives homeJson homeJson_roundTrips [] (fun _ => .ok [signedHome])
      ⟨"w"⟩ homePlan
  cases isOk :
      (pullWorkspaceFromPeerWithPlan homePrimitives homeJson (fun _ => .ok [signedHome]) ⟨"w"⟩
        homePlan EventStore.empty).1 with
  | error raised =>
      rw [isOk] at fetches
      cases fetches
  | ok report =>
      exact serves report [signedHome] isOk rfl (List.cons_ne_nil _ _) signedHome
        (List.mem_singleton_self signedHome) rfl

end Chaft

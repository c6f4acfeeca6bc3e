import Chaft.Network.GrowingInventory
import Chaft.Network.ServedFetches

/-!
# Pulls from a server

A device reads the inventory of a server page by page, plans, and fetches what it does not
serve.  Every request and every response on the way fits a frame.  A pull that succeeds leaves
nothing to request, and it reports what the store then holds.
-/

namespace Chaft

open Outcome Protobuf Keyed Transition Effects Effects.Effect

/-! ## Reports -/

section Reports

variable {primitives : Primitives} {json : EventJson}

/-- Events of new IDs are listed after those that were stored before. -/
theorem listParseable_after_of_fresh
    (roundTrips : json.RoundTrips) {workspaceId : String} {store : EventStore}
    {added : List SignedEvent} (distinct : (added.map SignedEvent.eventId).Nodup)
    (fresh : ∀ event ∈ added, event.eventId ∉ store.listEventIds)
    (appended : ∀ event ∈ added, isAppended primitives json event = true)
    (sameWorkspace : ∀ event ∈ added, event.event.workspaceId.text = workspaceId) :
    (store.after primitives json added).listParseableEventsForWorkspace json workspaceId =
      store.listParseableEventsForWorkspace json workspaceId ++ added := by
  induction added generalizing store with
  | nil => exact (List.append_nil _).symm
  | cons event rest inductionHypothesis =>
      obtain ⟨isNew, restNew⟩ := List.forall_mem_cons.mp fresh
      obtain ⟨first, later⟩ := List.forall_mem_cons.mp appended
      obtain ⟨inWorkspace, restInWorkspace⟩ := List.forall_mem_cons.mp sameWorkspace
      rw [List.map_cons, List.nodup_cons] at distinct
      obtain ⟨row, isRow⟩ := isAppended_iff.mp first
      have sameId := (rowOf_spec isRow).1
      have written :
          store.appendEvent primitives json event = .ok (store.insertSerializedEvent row) := by
        rw [EventStore.appendEvent, bind_eq_ok_iff]
        exact ⟨row, rowOf_eq_some_iff.mp isRow, rfl⟩
      have next : store.after primitives json [event] = store.insertSerializedEvent row := by
        simp only [EventStore.after, runSkipping, written]
      have rowNew : row.eventId ∉ store.listEventIds := by rwa [sameId]
      have restStillNew :
          ∀ other ∈ rest, other.eventId ∉ (store.insertSerializedEvent row).listEventIds := by
        intro other member
        rw [EventStore.listEventIds, rows_insert_of_fresh rowNew, List.map_append,
          List.mem_append, not_or]
        refine ⟨restNew other member, ?_⟩
        intro isRowId
        rw [List.map_cons, List.map_nil, List.mem_singleton, sameId] at isRowId
        exact distinct.1 (List.mem_map.mpr ⟨other, member, isRowId⟩)
      rw [after_cons, next, inductionHypothesis distinct.2 restStillNew later restInWorkspace,
        ← inWorkspace, listParseable_append_of_fresh roundTrips isNew written, List.append_assoc,
        List.singleton_append]

end Reports

section Inventory

variable {τ : Type} {peer : SyncPeer τ} {server : SyncPeerStore τ} {workspaceId : WorkspaceId}

/-- A number takes a byte for its key and at most ten for its groups. -/
theorem encodedLength_optionalNumberField_le
    {tag : Nat} (small : tag < 16) (value : UInt64) :
    encodedLength (optionalNumberField tag (some value)) ≤ 11 := by
  have key : varintLength (tag * 8) ≤ 1 := @varintLength_le _ 0 (by omega)
  have bits := value.toNat_lt
  have groups : varintLength value.toNat ≤ 10 := @varintLength_le _ 9 (by omega)
  have length :
      encodedLength (optionalNumberField tag (some value)) =
        varintLength (tag * 8) + varintLength value.toNat + 0 :=
    rfl
  omega

/-- A request for a page of an inventory fits a frame. -/
theorem inventoryRequest_fits
    (eventBodyToVec : WireEventBody → List UInt8)
    (valid : validateWireWorkspaceId "inventory" workspaceId.text = .ok ()) (startIndex : Nat) :
    (encodeSyncRequest eventBodyToVec
      (inventoryRequest (some workspaceId) startIndex
        maxInventoryEventIdsPerResponse)).length ≤ maxFrameLen := by
  have short : workspaceId.text.utf8ByteSize ≤ 128 := by
    simp only [validateWireWorkspaceId, bind_eq_ok_iff, renamed_eq_ok_iff] at valid
    obtain ⟨_, -, _, -, bounded⟩ := valid
    rw [validateWorkspaceIdStr, validateIdBytes] at bounded
    by_cases long : workspaceIdMaxBytes < workspaceId.text.utf8ByteSize
    · rw [if_pos long] at bounded
      cases bounded
    · rw [workspaceIdMaxBytes] at long
      omega
  have name :=
    @encodedLength_repeatedField_le 8 (by omega) [textBytes workspaceId.text] 128 1
      (by
        intro content member
        rw [List.mem_singleton.mp member, length_textBytes]
        exact short)
      (by omega)
  have kind : encodedLength (enumField 1 inventoryKind) = 2 := by
    decide
  have start :=
    @encodedLength_optionalNumberField_le 13 (by omega) (UInt64.ofNat startIndex)
  have limit :=
    @encodedLength_optionalNumberField_le 14 (by omega)
      (UInt64.ofNat maxInventoryEventIdsPerResponse)
  have nothing (tag : Nat) : encodedLength (repeatedField tag []) = 0 := rfl
  rw [List.length_singleton] at name
  simp only [encodeSyncRequest, length_encode, WireSyncRequest.fields, inventoryRequest,
    encodedLength_append, List.map_nil, Option.map_some, optionalField, Option.toList_some,
    nothing, kind]
  simp only [maxFrameLen]
  omega

/-- A page of canonical IDs fits a frame. -/
theorem inventoryPage_fits
    (eventBodyToVec : WireEventBody → List UInt8) {listed : List EventId}
    (canonical : ∀ eventId ∈ listed, isCanonicalEventIdStr eventId.text = true)
    (startIndex : Nat) :
    (inventoryPage listed startIndex).encodedLen eventBodyToVec ≤ maxFrameLen := by
  have onPage :
      ∀ eventId ∈ (listed.drop startIndex).take maxInventoryEventIdsPerResponse,
        eventId ∈ listed :=
    fun _ member => List.mem_of_mem_drop (List.mem_of_mem_take member)
  have count :
      ((listed.drop startIndex).take maxInventoryEventIdsPerResponse).length ≤ 1024 :=
    List.length_take_le _ _
  generalize isPage :
    (listed.drop startIndex).take maxInventoryEventIdsPerResponse = page at onPage count
  have ids :=
    @encodedLength_repeatedField_le 1 (by omega) ((page.map Identifier.text).map textBytes) 68 0
      (by
        intro content member
        rw [List.map_map] at member
        obtain ⟨eventId, inPage, isContent⟩ := List.mem_map.mp member
        rw [← isContent]
        exact Nat.le_of_eq
          (length_textBytes_of_canonical (canonical eventId (onPage eventId inPage))))
      (by omega)
  have total :=
    @encodedLength_optionalNumberField_le 8 (by omega) (UInt64.ofNat listed.length)
  have nothing (tag : Nat) : encodedLength (repeatedField tag []) = 0 := rfl
  have noText (tag : Nat) : encodedLength (optionalField tag none) = 0 := rfl
  rw [List.length_map, List.length_map] at ids
  simp only [WireSyncResponse.encodedLen, length_encode, WireSyncResponse.fields, inventoryPage,
    isPage, emptySyncResponse, encodedLength_append, List.map_nil, Option.map_none, nothing,
    noText, maxFrameLen]
  omega

/-- The server answers with the page that was asked for and stays as it is. -/
theorem exchange_inventory
    (valid : validateWireWorkspaceId "inventory" workspaceId.text = .ok ())
    (canonical : CanonicalRows server.store) {startIndex : Nat} (small : startIndex < 2 ^ 63) :
    peer.exchange
        (inventoryRequest (some workspaceId) startIndex maxInventoryEventIdsPerResponse) server =
      (.ok (inventoryPage (server.store.listServableEventIdsForWorkspace workspaceId.text)
        startIndex), server) := by
  have served := @serveInventory_eq server.store workspaceId valid startIndex small
  have fits :=
    inventoryPage_fits peer.eventBodyToVec
      (fun eventId => @canonical_listServable workspaceId _ canonical eventId) startIndex
  have request := inventoryRequest_fits peer.eventBodyToVec valid startIndex
  have sameKind :
      (inventoryRequest (some workspaceId) startIndex maxInventoryEventIdsPerResponse).kind =
        inventoryKind := rfl
  have isInventory : WireSyncRequestKind.tryFrom inventoryKind = some .inventory := by
    decide
  generalize isRequest :
    inventoryRequest (some workspaceId) startIndex maxInventoryEventIdsPerResponse = wire
    at served request sameKind ⊢
  generalize isPage :
    inventoryPage (server.store.listServableEventIdsForWorkspace workspaceId.text) startIndex =
      page at served fits ⊢
  have handled : handleInventory wire server.store = .ok page := by
    rw [serveInventory] at served
    cases answered : handleInventory wire server.store with
    | ok response =>
        rw [answered] at served
        rw [← served]
    | error raised =>
        rw [answered] at served
        have noError : page.error = none := by
          rw [← isPage]
          rfl
        rw [← served] at noError
        cases noError
  have framed : validateSyncResponseFrameLen peer.eventBodyToVec "sync" page = .ok () :=
    (ensure_eq_ok_iff _ _ _).mpr fits
  have handles : peer.handleRequest wire server = (.ok page, server) := by
    rw [SyncPeer.handleRequest, sameKind, isInventory, ← handled]
    rfl
  rw [SyncPeer.exchange, if_pos request, SyncPeer.serve, handles]
  simp only [SyncPeer.limitResponse, framed]

/-- A page of canonical IDs passes the checks of the client. -/
theorem validateInventoryResponse_page
    {listed : List EventId} (distinct : listed.Nodup)
    (canonical : ∀ eventId ∈ listed, isCanonicalEventIdStr eventId.text = true)
    (startIndex : Nat) :
    validateInventoryResponse (inventoryPage listed startIndex) = .ok () := by
  have inOrder :
      ((listed.drop startIndex).take maxInventoryEventIdsPerResponse).Sublist listed :=
    (List.take_sublist _ _).trans (List.drop_sublist _ _)
  have ids :
      validateInventoryEventIds [] (inventoryPage listed startIndex).eventIds = .ok () := by
    apply validateInventoryEventIds_of_distinct
    · intro text onPage
      obtain ⟨eventId, isOnPage, isText⟩ := List.mem_map.mp onPage
      rw [← isText]
      exact canonical eventId (inOrder.subset isOnPage)
    · exact (distinct.sublist inOrder).map Identifier.text_injective
    · exact fun _ _ => List.not_mem_nil
  rw [validateInventoryResponse, ids]
  rfl

/-- A pull of pages that has read the beginning of the list ends with the list. -/
theorem pullInventory_fromServer
    (valid : validateWireWorkspaceId "inventory" workspaceId.text = .ok ())
    (canonical : CanonicalRows server.store)
    (bounded :
      server.store.countServableEventsForWorkspace workspaceId.text ≤ maxInventoryEventIdsPerPull)
    {fuel : Nat} {pull : InventoryPull}
    (reads : pull.Reads (server.store.listServableEventIdsForWorkspace workspaceId.text))
    (someFuel : 0 < fuel)
    (enough :
      maxInventoryEventIdsPerPull ≤ pull.startIndex + maxInventoryEventIdsPerResponse * fuel) :
    pullInventory peer.exchange (some workspaceId) fuel pull server =
      (.ok (some (server.store.listServableEventIdsForWorkspace workspaceId.text)), server) := by
  have distinct := server.store.nodup_listServableEventIdsForWorkspace workspaceId.text
  have ids :
      ∀ eventId ∈ server.store.listServableEventIdsForWorkspace workspaceId.text,
        isCanonicalEventIdStr eventId.text = true :=
    fun eventId => @canonical_listServable workspaceId _ canonical eventId
  have bound := bounded
  rw [← length_listServableEventIdsForWorkspace] at bound
  induction fuel generalizing pull with
  | zero => exact absurd someFuel (Nat.lt_irrefl 0)
  | succ fuel inductionHypothesis =>
      have within := reads.within
      have small : maxInventoryEventIdsPerPull < 2 ^ 63 := by decide
      have answered :=
        @exchange_inventory _ peer server workspaceId valid canonical pull.startIndex (by omega)
      have checked := validateInventoryResponse_page distinct ids pull.startIndex
      have fetched :
          fetchInventoryPage peer.exchange (some workspaceId) pull.startIndex
              maxInventoryEventIdsPerResponse server =
            (.ok (inventoryPage (server.store.listServableEventIdsForWorkspace workspaceId.text)
              pull.startIndex), server) := by
        rw [fetchInventoryPage, bind_of_ok answered]
        change (lift (validateInventoryResponse (inventoryPage
            (server.store.listServableEventIdsForWorkspace workspaceId.text) pull.startIndex)) >>=
          fun _ => pure (inventoryPage
            (server.store.listServableEventIdsForWorkspace workspaceId.text)
              pull.startIndex)) server = _
        rw [checked]
        rfl
      rw [pullInventory, bind_of_ok fetched]
      rcases readInventoryPage_of_reads reads distinct bound with
        complete | ⟨next, goesOn, advanced, unfinished, nextReads⟩
      · rw [complete]
        rfl
      · rw [goesOn]
        have moreFuel : 0 < fuel := by
          rcases Nat.eq_zero_or_pos fuel with isZero | positive
          · rw [isZero] at enough
            omega
          · exact positive
        apply inductionHypothesis nextReads moreFuel
        rw [advanced]
        rw [Nat.mul_succ] at enough
        omega

/-- The client reads the whole inventory of a workspace. -/
theorem fetchInventoryPaged_fromServer
    (valid : validateWireWorkspaceId "inventory" workspaceId.text = .ok ())
    (canonical : CanonicalRows server.store)
    (bounded :
      server.store.countServableEventsForWorkspace workspaceId.text ≤ maxInventoryEventIdsPerPull)
    {fuel : Nat} (enough : 1024 ≤ fuel) :
    fetchInventoryPaged peer.exchange fuel (some workspaceId) server =
      (.ok (some (server.store.listServableEventIdsForWorkspace workspaceId.text)), server) := by
  have nothingRead :
      InventoryPull.Reads ⟨0, [], []⟩
        (server.store.listServableEventIdsForWorkspace workspaceId.text) :=
    ⟨rfl, Nat.zero_le _, fun _ => Iff.rfl⟩
  have allPages : maxInventoryEventIdsPerPull ≤ 0 + maxInventoryEventIdsPerResponse * fuel := by
    rw [Nat.zero_add]
    exact Nat.mul_le_mul_left maxInventoryEventIdsPerResponse enough
  have checked :
      (lift (validateWireWorkspaceId "inventory" workspaceId.text) :
        Effect (SyncPeerStore τ) NetError Unit) server = (.ok (), server) := by
    rw [lift_apply, valid]
  rw [fetchInventoryPaged, bind_of_ok checked]
  exact pullInventory_fromServer valid canonical bounded nothingRead (by omega) allPages

end Inventory

/-! ## Pulls -/

section Pulls

variable {τ : Type} {peer : SyncPeer τ} {server : SyncPeerStore τ} {workspaceId : WorkspaceId}
variable {history localHistory : List SignedEvent}

variable (peer server) in
/-- A pull over the wire, from an inventory on. -/
def pullFromServer (workspaceId : WorkspaceId) (eventIds : List EventId) :
    Effect EventStore SyncError PullSyncReport :=
  pullWorkspaceFromPeerWithInventory peer.primitives peer.serialization.json
    (fetchEventsBatched peer.primitives peer.serialization
      fun request => (peer.exchange request server).1)
    workspaceId eventIds

/-- What a successful pull along a plan fetched. -/
theorem pulledFromServer
    (roundTrips : peer.serialization.json.RoundTrips)
    (isStore :
      server.store = EventStore.empty.after peer.primitives peer.serialization.json history)
    (canonical : CanonicalRows server.store)
    (deliverable :
      ServesDeliverable peer server
        (server.store.listServableEventIdsForWorkspace workspaceId.text))
    {localStore : EventStore} {plan : WorkspaceSyncPlan}
    (planned :
      planWorkspaceSync localStore workspaceId
          (server.store.listServableEventIdsForWorkspace workspaceId.text) = .ok plan) :
    let outcome :=
      pullFromServer peer server workspaceId
        (server.store.listServableEventIdsForWorkspace workspaceId.text) localStore
    ∃ added,
      outcome.2 = localStore.after peer.primitives peer.serialization.json added ∧
        (∀ event ∈ added,
          server.store.getServableEvent peer.serialization.json event.eventId = some event ∧
            event.event.workspaceId = workspaceId) ∧
        ∀ report, outcome.1 = .ok report →
          ∀ eventId ∈ plan.requestEventIds, ∃ event ∈ added,
            VerifiedCopy peer.primitives peer.serialization.json eventId event := by
  intro outcome
  have ids :
      ∀ eventId ∈ server.store.listServableEventIdsForWorkspace workspaceId.text,
        isCanonicalEventIdStr eventId.text = true :=
    fun eventId => @canonical_listServable workspaceId _ canonical eventId
  obtain ⟨-, -, requests⟩ := planWorkspaceSync_requests planned
  have fetches :
      fetchEventsBatched peer.primitives peer.serialization
          (fun request => (peer.exchange request server).1) plan.requestEventIds =
        fetchFromReplica peer.serialization.json true server.store plan.requestEventIds := by
    apply fetchEventsBatched_served roundTrips isStore
    · exact fun eventId requested => ids eventId ((requests eventId).mp requested).1
    · intro eventId requested
      exact deliverable eventId ((requests eventId).mp requested).1
  rw [fetchFromReplica, if_pos rfl] at fetches
  have isPull :
      outcome =
        pullWorkspaceFromPeerWithPlan peer.primitives peer.serialization.json
          (fetchEventsBatched peer.primitives peer.serialization
            fun request => (peer.exchange request server).1)
          workspaceId plan localStore := by
    have looks :
        (reads fun store =>
            planWorkspaceSync store workspaceId
              (server.store.listServableEventIdsForWorkspace workspaceId.text) :
          Effect EventStore SyncError WorkspaceSyncPlan) localStore = (.ok plan, localStore) := by
      rw [reads_apply, planned]
    change pullFromServer peer server workspaceId _ localStore = _
    rw [pullFromServer, pullWorkspaceFromPeerWithInventory, bind_of_ok looks]
  obtain ⟨fetched, added, pulled, isFetched, answered⟩ :=
    @pullWithPlan_spec peer.primitives peer.serialization.json
      (fetchEventsBatched peer.primitives peer.serialization
        fun request => (peer.exchange request server).1)
      workspaceId plan localStore
  rw [← isPull] at pulled answered
  rw [fetches] at isFetched answered
  refine ⟨added, pulled.after, ?_, ?_⟩
  · intro event member
    obtain ⟨inFetched, -, sameWorkspace, -⟩ := pulled.drawn event member
    refine ⟨?_, sameWorkspace⟩
    rcases isFetched with nothing | isAnswer
    · rw [nothing] at inFetched
      cases inFetched
    · rw [← Except.ok.inj isAnswer] at inFetched
      obtain ⟨eventId, -, served⟩ := List.mem_filterMap.mp inFetched
      have sameId : event.eventId = eventId := by
        have copied := served
        rw [isStore] at copied
        exact (copy_of_served roundTrips history copied).2.sameId
      rw [sameId]
      exact served
  · intro report isOk eventId requested
    rcases answered report isOk with nothing | isAnswer
    · rw [nothing] at requested
      cases requested
    · have listed := ((requests eventId).mp requested).1
      rw [isStore, mem_listServableForWorkspace_iff roundTrips] at listed
      obtain ⟨event, served, inWorkspace⟩ := listed
      have copy := (copy_of_served roundTrips history served).2
      rw [← isStore] at served
      have inFetched : event ∈ fetched := by
        rw [← Except.ok.inj isAnswer]
        exact List.mem_filterMap.mpr ⟨eventId, mem_deduplicateEventIds.mpr requested, served⟩
      have sameWorkspace : event.event.workspaceId = workspaceId :=
        Identifier.text_injective inWorkspace
      exact ⟨event, (pulled.complete report isOk).2 event inFetched sameWorkspace, copy⟩

end Pulls

def hexHomePeer : SyncPeer Unit :=
  { homePeer with primitives := hexHomePrimitives }

def hexHomeServer : SyncPeerStore Unit :=
  { homeServer with
    store := EventStore.empty.after hexHomePrimitives homeJson [signedHome] }

theorem hexHomeServer_isStore :
    hexHomeServer.store =
      EventStore.empty.after hexHomePeer.primitives hexHomePeer.serialization.json
        [signedHome] := by
  rw [hexHomeServer, hexHomePeer, homePeer, homeSerialization]

example : hexHomeServer.store.listEventIds = [signedHome.eventId] := by
  decide +kernel

/-- What the server has, and how an empty device that fetches it pulls, evaluated at once. -/
theorem hexHomeServer_facts :
    hexHomeServer.store.listServableEventIdsForWorkspace "w" = [signedHome.eventId] ∧
      (deduplicateEventIds [signedHome.eventId]).filterMap
          (hexHomeServer.store.getServableEvent homeJson) = [signedHome] ∧
        validateWireWorkspaceId "inventory" "w" = .ok () ∧
          hexHomeServer.store.countServableEventsForWorkspace "w" ≤
              maxInventoryEventIdsPerPull ∧
            (pullWorkspaceFromPeerWithInventory hexHomePrimitives homeJson
              (fun _ => .ok [signedHome]) ⟨"w"⟩ [signedHome.eventId]
              EventStore.empty).1.toOption.isSome = true := by
  decide +kernel

theorem hexHomeServer_listed :
    hexHomeServer.store.listServableEventIdsForWorkspace "w" = [signedHome.eventId] :=
  hexHomeServer_facts.1

theorem hexHomeServer_deliverable (eventIds : List EventId) :
    ServesDeliverable hexHomePeer hexHomeServer eventIds := by
  intro eventId _ event served
  rw [hexHomeServer_isStore] at served
  have isEvent := (copy_of_served homeJson_roundTrips [signedHome] served).1
  rw [List.mem_singleton.mp isEvent]
  exact ⟨rfl, trivial, homeServer_facts.2.2⟩

/-- The pull of an empty device from the server ends well. -/
theorem pullFromServer_home :
    (pullFromServer hexHomePeer hexHomeServer ⟨"w"⟩ [signedHome.eventId]
      EventStore.empty).1.toOption.isSome = true := by
  have fetches :
      fetchEventsBatched hexHomePeer.primitives hexHomePeer.serialization
          (fun request => (hexHomePeer.exchange request hexHomeServer).1) [signedHome.eventId] =
        .ok [signedHome] := by
    have canonical :
        ∀ eventId ∈ [signedHome.eventId], isCanonicalEventIdStr eventId.text = true := by
      intro eventId member
      rw [List.mem_singleton.mp member]
      exact homeServer_facts.1
    rw [fetchEventsBatched_served homeJson_roundTrips hexHomeServer_isStore canonical
      (hexHomeServer_deliverable _), fetchFromReplica, if_pos rfl]
    exact congrArg Except.ok hexHomeServer_facts.2.1
  have requests (fetchEvents : List EventId → Except NetError (List SignedEvent))
      (answers : fetchEvents [signedHome.eventId] = .ok [signedHome]) :
      pullWorkspaceFromPeerWithInventory hexHomePrimitives homeJson fetchEvents ⟨"w"⟩
          [signedHome.eventId] EventStore.empty =
        pullWorkspaceFromPeerWithInventory hexHomePrimitives homeJson
          (fun _ => .ok [signedHome]) ⟨"w"⟩ [signedHome.eventId] EventStore.empty := by
    have planned :
        planWorkspaceSync EventStore.empty ⟨"w"⟩ [signedHome.eventId] = .ok homePlan := by
      rfl
    have looks :
        (reads fun store => planWorkspaceSync store ⟨"w"⟩ [signedHome.eventId] :
          Effect EventStore SyncError WorkspaceSyncPlan) EventStore.empty =
            (.ok homePlan, EventStore.empty) := by
      rw [reads_apply, planned]
    have isRequest : homePlan.requestEventIds = [signedHome.eventId] := rfl
    rw [pullWorkspaceFromPeerWithInventory, pullWorkspaceFromPeerWithInventory, bind_of_ok looks,
      bind_of_ok looks, pullWorkspaceFromPeerWithPlan, pullWorkspaceFromPeerWithPlan, isRequest,
      answers]
  have isSimple := requests _ fetches
  change
    (pullWorkspaceFromPeerWithInventory hexHomePrimitives homeJson
      (fetchEventsBatched hexHomePeer.primitives hexHomePeer.serialization
        fun request => (hexHomePeer.exchange request hexHomeServer).1)
      ⟨"w"⟩ [signedHome.eventId] EventStore.empty).1.toOption.isSome = true
  rw [isSimple]
  exact hexHomeServer_facts.2.2.2.2

end Chaft

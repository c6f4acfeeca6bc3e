import Chaft.Network.InventoryPages

/-!
# Inventories of growing peers

A peer that answers a page from its store may append events before the next one.
The pages of one pull then come from different stores, of which each extends the
one before.  Every page but the last is full, so the pages are the beginning of
each later list, and the last one completes it.
-/

namespace Chaft

open Outcome Effects Effects.Effect

/-! ## A growing peer -/

/-- A peer with the batches that it appends, one after each answer, and the stores
from which it has answered. -/
structure GrowingPeer where
  store : EventStore
  upcoming : List (List SignedEvent)
  served : List EventStore

section Peer

variable (primitives : Primitives) (json : EventJson)

/-- The store after the next batch. -/
def GrowingPeer.grown (peer : GrowingPeer) : EventStore :=
  match peer.upcoming with
  | [] => peer.store
  | events :: _ => peer.store.after primitives json events

def GrowingPeer.afterAnswer (peer : GrowingPeer) : GrowingPeer where
  store := peer.grown primitives json
  upcoming := peer.upcoming.tail
  served := peer.served ++ [peer.store]

/-- One request to a growing peer. -/
def GrowingPeer.exchange (request : WireSyncRequest) :
    Effect GrowingPeer NetError WireSyncResponse := fun peer =>
  (.ok (serveInventory peer.store request), peer.afterAnswer primitives json)

/-- The schedule appends events of new IDs only and never makes the list of a
workspace longer than one pull can take. -/
def GrowsFreshly (workspaceId : String) : EventStore → List (List SignedEvent) → Prop
  | store, [] => store.countServableEventsForWorkspace workspaceId ≤ maxInventoryEventIdsPerPull
  | store, events :: rest =>
      store.countServableEventsForWorkspace workspaceId ≤ maxInventoryEventIdsPerPull ∧
        FreshEvents primitives json store events ∧
        GrowsFreshly workspaceId (store.after primitives json events) rest

end Peer

section Growth

variable {primitives : Primitives} {json : EventJson} {workspaceId : WorkspaceId}
  {peer : GrowingPeer}

theorem GrowsFreshly.count_le
    (grows : GrowsFreshly primitives json workspaceId.text peer.store peer.upcoming) :
    peer.store.countServableEventsForWorkspace workspaceId.text ≤
      maxInventoryEventIdsPerPull := by
  cases schedule : peer.upcoming with
  | nil => rwa [schedule] at grows
  | cons events rest =>
      rw [schedule] at grows
      exact grows.1

theorem GrowsFreshly.afterAnswer
    (grows : GrowsFreshly primitives json workspaceId.text peer.store peer.upcoming) :
    GrowsFreshly primitives json workspaceId.text
      (peer.afterAnswer primitives json).store (peer.afterAnswer primitives json).upcoming := by
  simp only [GrowingPeer.afterAnswer, GrowingPeer.grown]
  cases schedule : peer.upcoming with
  | nil => rwa [schedule] at grows
  | cons events rest =>
      rw [schedule] at grows
      exact grows.2.2

theorem canonicalRows_afterAnswer
    (hexDigests : HexDigests primitives.blake3Hex) (canonical : CanonicalRows peer.store) :
    CanonicalRows (peer.afterAnswer primitives json).store := by
  simp only [GrowingPeer.afterAnswer, GrowingPeer.grown]
  cases peer.upcoming with
  | nil => exact canonical
  | cons events rest => exact canonicalRows_after hexDigests canonical events

/-- The list before an answer is the beginning of the list after it. -/
theorem listServable_prefix_afterAnswer
    (grows : GrowsFreshly primitives json workspaceId.text peer.store peer.upcoming) :
    peer.store.listServableEventIdsForWorkspace workspaceId.text <+:
      (peer.afterAnswer primitives json).store.listServableEventIdsForWorkspace
        workspaceId.text := by
  simp only [GrowingPeer.afterAnswer, GrowingPeer.grown]
  cases schedule : peer.upcoming with
  | nil => exact List.prefix_rfl
  | cons events rest =>
      rw [schedule] at grows
      exact listServable_prefix_of_fresh grows.2.1 workspaceId.text

end Growth

/-! ## One page -/

section Page

variable {store : EventStore} {workspaceId : WorkspaceId}

theorem length_listServableEventIdsForWorkspace (store : EventStore) (workspaceId : String) :
    (store.listServableEventIdsForWorkspace workspaceId).length =
      store.countServableEventsForWorkspace workspaceId :=
  List.length_map EventRow.eventId

theorem listServablePage_eq
    (store : EventStore) (workspaceId : String) {startIndex : Nat}
    (small : startIndex < 2 ^ 63) :
    store.listServableEventIdsForWorkspacePage workspaceId startIndex
        maxInventoryEventIdsPerResponse =
      ((store.listServableEventIdsForWorkspace workspaceId).drop startIndex).take
        maxInventoryEventIdsPerResponse := by
  have start : sqlitePageValue startIndex = startIndex := by
    rw [sqlitePageValue]
    omega
  have limit : sqlitePageLimitValue maxInventoryEventIdsPerResponse =
      maxInventoryEventIdsPerResponse := by
    decide
  rw [EventStore.listServableEventIdsForWorkspacePage, sqlitePage, start, limit,
    EventStore.listServableEventIdsForWorkspace, List.map_take, List.map_drop]

/-- The page of a list of IDs that starts at an index. -/
def inventoryPage (listed : List EventId) (startIndex : Nat) : WireSyncResponse :=
  { emptySyncResponse with
    eventIds :=
      ((listed.drop startIndex).take maxInventoryEventIdsPerResponse).map Identifier.text
    inventoryTotalCount := some (UInt64.ofNat listed.length) }

/-- A peer answers with the page that was asked for. -/
theorem serveInventory_eq
    (valid : validateWireWorkspaceId "inventory" workspaceId.text = .ok ())
    {startIndex : Nat} (small : startIndex < 2 ^ 63) :
    serveInventory store
        (inventoryRequest (some workspaceId) startIndex maxInventoryEventIdsPerResponse) =
      inventoryPage (store.listServableEventIdsForWorkspace workspaceId.text) startIndex := by
  have start : (UInt64.ofNat startIndex).toNat = startIndex := by
    rw [UInt64.toNat_ofNat']
    omega
  have handled :
      handleInventory
          (inventoryRequest (some workspaceId) startIndex maxInventoryEventIdsPerResponse) store =
        .ok (inventoryPage (store.listServableEventIdsForWorkspace workspaceId.text)
          startIndex) := by
    have page :
        inventoryPageRequest
            (inventoryRequest (some workspaceId) startIndex maxInventoryEventIdsPerResponse) =
          .ok (some ⟨startIndex, maxInventoryEventIdsPerResponse⟩) := by
      simp only [inventoryPageRequest, inventoryRequest, Option.getD_some, inventoryPageValue,
        start]
      rfl
    simp only [handleInventory, page, bind_eq_ok_iff]
    refine ⟨(), rfl, (), valid, _, rfl, ?_⟩
    simp only [inventoryRequest, Option.map_some, Option.getD_some,
      listServablePage_eq store workspaceId.text small, inventoryPage,
      length_listServableEventIdsForWorkspace]
  rw [serveInventory, handled]

/-- Distinct canonical IDs pass the check of a page. -/
theorem validateInventoryEventIds_of_distinct
    {seen eventIds : List String}
    (canonical : ∀ eventId ∈ eventIds, isCanonicalEventIdStr eventId = true)
    (distinct : eventIds.Nodup) (unseen : ∀ eventId ∈ eventIds, eventId ∉ seen) :
    validateInventoryEventIds seen eventIds = .ok () := by
  induction eventIds generalizing seen with
  | nil => rfl
  | cons eventId rest inductionHypothesis =>
      have restUnseen : ∀ other ∈ rest, other ∉ eventId :: seen := by
        intro other member
        rw [List.mem_cons, not_or]
        refine ⟨?_, unseen other (List.mem_cons_of_mem eventId member)⟩
        rintro rfl
        exact (List.nodup_cons.mp distinct).1 member
      have restValid :=
        inductionHypothesis
          (fun other member => canonical other (List.mem_cons_of_mem eventId member))
          (List.nodup_cons.mp distinct).2 restUnseen
      simp only [validateInventoryEventIds, bind_eq_ok_iff, ensure_eq_ok_iff]
      exact ⟨(), canonical eventId List.mem_cons_self, (), unseen eventId List.mem_cons_self,
        restValid⟩

/-- IDs that have not been seen are collected in their order. -/
theorem collectPage_of_distinct
    {pull : InventoryPull} {page : List EventId} (distinct : page.Nodup)
    (unseen : ∀ eventId ∈ page, eventId.text ∉ pull.seen) :
    ∃ seen,
      collectPage pull (page.map Identifier.text) =
          .ok { pull with eventIds := pull.eventIds ++ page, seen := seen } ∧
        ∀ text, text ∈ seen ↔ text ∈ page.map Identifier.text ∨ text ∈ pull.seen := by
  induction page generalizing pull with
  | nil => exact ⟨pull.seen, by rw [List.append_nil]; rfl, fun text => by simp⟩
  | cons eventId rest inductionHypothesis =>
      have restUnseen : ∀ other ∈ rest, other.text ∉ eventId.text :: pull.seen := by
        intro other member
        rw [List.mem_cons, not_or]
        refine ⟨?_, unseen other (List.mem_cons_of_mem eventId member)⟩
        intro sameText
        rw [Identifier.text_injective sameText] at member
        exact (List.nodup_cons.mp distinct).1 member
      obtain ⟨seen, collected, mem_seen⟩ :=
        @inductionHypothesis
          { pull with
            eventIds := pull.eventIds ++ [eventId]
            seen := eventId.text :: pull.seen }
          (List.nodup_cons.mp distinct).2 restUnseen
      refine ⟨seen, ?_, ?_⟩
      · have isNew := unseen eventId List.mem_cons_self
        rw [List.map_cons, collectPage, ensure, if_pos isNew]
        rw [List.append_assoc] at collected
        exact collected
      · intro text
        rw [mem_seen text, List.map_cons, List.mem_cons, List.mem_cons]
        tauto

/-- The first events of a list have been read, up to the index of the next page. -/
structure InventoryPull.Reads (pull : InventoryPull) (listed : List EventId) : Prop where
  collected : pull.eventIds = listed.take pull.startIndex
  within : pull.startIndex ≤ listed.length
  seen : ∀ text, text ∈ pull.seen ↔ text ∈ pull.eventIds.map Identifier.text

theorem InventoryPull.Reads.length_eq
    {pull : InventoryPull} {listed : List EventId} (reads : pull.Reads listed) :
    pull.eventIds.length = pull.startIndex := by
  rw [reads.collected, List.length_take, Nat.min_eq_left reads.within]

/-- A longer list begins as the one that was read. -/
theorem InventoryPull.Reads.extend
    {pull : InventoryPull} {listed longer : List EventId}
    (reads : pull.Reads listed) (isPrefix : listed <+: longer) : pull.Reads longer where
  collected := by
    obtain ⟨rest, rfl⟩ := isPrefix
    rw [reads.collected, List.take_append_of_le_length reads.within]
  within := reads.within.trans isPrefix.length_le
  seen := reads.seen

/-- What a page of distinct new IDs within the total makes of a pull. -/
theorem readInventoryPage_eq
    {pull : InventoryPull} {page eventIds : List EventId} {seen : List String} {total : Nat}
    (collected :
      collectPage pull (page.map Identifier.text) =
        .ok { pull with eventIds := eventIds, seen := seen })
    (bounded : total ≤ maxInventoryEventIdsPerPull)
    (atMost : page.length ≤ maxInventoryEventIdsPerResponse)
    (within : pull.startIndex + page.length ≤ total) :
    readInventoryPage pull
        { emptySyncResponse with
          eventIds := page.map Identifier.text
          inventoryTotalCount := some (UInt64.ofNat total) } =
      if total ≤ eventIds.length then
        .ok (.inl eventIds)
      else
        (do
          ensure (page.length ≠ 0)
            (.protocol "peer returned empty inventory page before total count")
          .ok (.inr ⟨pull.startIndex + page.length, eventIds, seen⟩)) := by
  have small : total ≤ 2 ^ 20 := bounded
  have total_eq : (UInt64.ofNat total).toNat = total := by
    rw [UInt64.toNat_ofNat']
    omega
  have totalValid : validateInventoryTotalCount (UInt64.ofNat total) = .ok total := by
    rw [validateInventoryTotalCount, total_eq, ensure, if_pos bounded]
    rfl
  have advanced :
      saturatingAddUsize pull.startIndex page.length = pull.startIndex + page.length := by
    rw [saturatingAddUsize]
    omega
  simp only [readInventoryPage, totalValid, validateInventoryPageResponse, ensure,
    List.length_map, advanced, if_pos atMost, if_pos within, collected, bind, Except.bind]

/-- The page that a pull asks for next either completes the list or is full and
leads on. -/
theorem readInventoryPage_of_reads
    {pull : InventoryPull} {listed : List EventId}
    (reads : pull.Reads listed) (distinct : listed.Nodup)
    (bounded : listed.length ≤ maxInventoryEventIdsPerPull) :
    readInventoryPage pull (inventoryPage listed pull.startIndex) = .ok (.inl listed) ∨
      ∃ next,
        readInventoryPage pull (inventoryPage listed pull.startIndex) = .ok (.inr next) ∧
          next.startIndex = pull.startIndex + maxInventoryEventIdsPerResponse ∧
          next.startIndex < listed.length ∧
          next.Reads listed := by
  have within := reads.within
  generalize isPage :
    (listed.drop pull.startIndex).take maxInventoryEventIdsPerResponse = page
  have pageLength :
      page.length = min maxInventoryEventIdsPerResponse (listed.length - pull.startIndex) := by
    rw [← isPage, List.length_take, List.length_drop]
  have joined : pull.eventIds ++ page = listed.take (pull.startIndex + page.length) := by
    have samePage : page = (listed.drop pull.startIndex).take page.length := by
      rw [pageLength, ← isPage, List.take_eq_take_iff, List.length_drop]
      omega
    rw [reads.collected, List.take_add, ← samePage]
  have together : (pull.eventIds ++ page).Nodup := by
    rw [joined]
    exact distinct.sublist (List.take_sublist _ _)
  have unseen : ∀ eventId ∈ page, eventId.text ∉ pull.seen := by
    intro eventId onPage wasSeen
    obtain ⟨earlier, isEarlier, sameText⟩ := List.mem_map.mp ((reads.seen _).mp wasSeen)
    rw [Identifier.text_injective sameText] at isEarlier
    exact List.disjoint_of_nodup_append together isEarlier onPage
  obtain ⟨seen, collected, mem_seen⟩ :=
    collectPage_of_distinct (List.nodup_append.mp together).2.1 unseen
  have read := readInventoryPage_eq collected bounded (by omega) (by omega)
  rw [joined, List.length_take] at read
  rw [inventoryPage, isPage]
  by_cases complete : listed.length ≤ pull.startIndex + page.length
  · left
    rw [read, if_pos (by omega), List.take_of_length_le complete]
  · right
    have full : page.length = maxInventoryEventIdsPerResponse := by omega
    refine
      ⟨{ startIndex := pull.startIndex + page.length
         eventIds := listed.take (pull.startIndex + page.length)
         seen := seen }, ?_, ?_, ?_, ?_⟩
    · rw [read, if_neg (by omega), full]
      rfl
    · dsimp only
      rw [full]
    · exact Nat.lt_of_not_le complete
    · refine ⟨rfl, Nat.le_of_not_le complete, ?_⟩
      intro text
      rw [mem_seen text, reads.seen text, ← joined, List.map_append, List.mem_append]
      exact or_comm

end Page

/-! ## The whole pull -/

section Pull

variable {primitives : Primitives} {json : EventJson} {workspaceId : WorkspaceId}

theorem canonical_listServable
    {store : EventStore} (canonical : CanonicalRows store) {eventId : EventId}
    (listed : eventId ∈ store.listServableEventIdsForWorkspace workspaceId.text) :
    isCanonicalEventIdStr eventId.text = true := by
  obtain ⟨row, isRow, rfl⟩ := List.mem_map.mp listed
  obtain ⟨stored, chosen⟩ := List.mem_filter.mp isRow
  rw [Bool.and_eq_true] at chosen
  exact canonical row stored chosen.2

/-- A page of a growing peer arrives as the store had it. -/
theorem fetchInventoryPage_of_growing
    (valid : validateWireWorkspaceId "inventory" workspaceId.text = .ok ())
    {peer : GrowingPeer} (canonical : CanonicalRows peer.store)
    {startIndex : Nat} (small : startIndex < 2 ^ 63) :
    fetchInventoryPage (GrowingPeer.exchange primitives json) (some workspaceId) startIndex
        maxInventoryEventIdsPerResponse peer =
      (.ok (inventoryPage (peer.store.listServableEventIdsForWorkspace workspaceId.text)
        startIndex), peer.afterAnswer primitives json) := by
  generalize isListed :
    peer.store.listServableEventIdsForWorkspace workspaceId.text = listed
  have answered :
      GrowingPeer.exchange primitives json
          (inventoryRequest (some workspaceId) startIndex maxInventoryEventIdsPerResponse) peer =
        (.ok (inventoryPage listed startIndex), peer.afterAnswer primitives json) := by
    rw [GrowingPeer.exchange, serveInventory_eq valid small, isListed]
  have distinct : listed.Nodup := by
    rw [← isListed]
    exact peer.store.nodup_listServableEventIdsForWorkspace workspaceId.text
  have page_sublist :
      ((listed.drop startIndex).take maxInventoryEventIdsPerResponse).Sublist listed :=
    (List.take_sublist _ _).trans (List.drop_sublist _ _)
  have checked : validateInventoryResponse (inventoryPage listed startIndex) = .ok () := by
    have idsChecked :
        validateInventoryEventIds [] (inventoryPage listed startIndex).eventIds = .ok () := by
      apply validateInventoryEventIds_of_distinct
      · intro text onPage
        obtain ⟨eventId, isOnPage, rfl⟩ := List.mem_map.mp onPage
        have isListedId := page_sublist.subset isOnPage
        rw [← isListed] at isListedId
        exact canonical_listServable canonical isListedId
      · exact (distinct.sublist page_sublist).map Identifier.text_injective
      · exact fun _ _ => List.not_mem_nil
    rw [validateInventoryResponse, idsChecked]
    rfl
  rw [fetchInventoryPage, bind_of_ok answered]
  change (lift (validateInventoryResponse (inventoryPage listed startIndex)) >>= fun _ =>
    pure (inventoryPage listed startIndex)) (peer.afterAnswer primitives json) = _
  rw [checked]
  rfl

/-- A pull that has read the beginning of a growing list ends with the list as it
is when the last page is served. -/
theorem pullInventory_of_reads
    (hexDigests : HexDigests primitives.blake3Hex)
    (valid : validateWireWorkspaceId "inventory" workspaceId.text = .ok ())
    {fuel : Nat} {pull : InventoryPull} {peer : GrowingPeer}
    (canonical : CanonicalRows peer.store)
    (grows : GrowsFreshly primitives json workspaceId.text peer.store peer.upcoming)
    (reads :
      pull.Reads (peer.store.listServableEventIdsForWorkspace workspaceId.text))
    (someFuel : 0 < fuel)
    (enough :
      maxInventoryEventIdsPerPull ≤ pull.startIndex + maxInventoryEventIdsPerResponse * fuel) :
    ∃ last final,
      pullInventory (GrowingPeer.exchange primitives json) (some workspaceId) fuel pull peer =
          (.ok (some (last.listServableEventIdsForWorkspace workspaceId.text)), final) ∧
        final.served.getLast? = some last ∧
        peer.served ++ [peer.store] <+: final.served ∧
        peer.store.listServableEventIdsForWorkspace workspaceId.text <+:
          last.listServableEventIdsForWorkspace workspaceId.text := by
  induction fuel generalizing pull peer with
  | zero => exact absurd someFuel (Nat.lt_irrefl 0)
  | succ fuel inductionHypothesis =>
      have bounded := grows.count_le
      rw [← length_listServableEventIdsForWorkspace] at bounded
      have within := reads.within
      have small : maxInventoryEventIdsPerPull < 2 ^ 63 := by decide
      have fetched :=
        @fetchInventoryPage_of_growing primitives json workspaceId valid peer canonical
          pull.startIndex (by omega)
      rw [pullInventory, bind_of_ok fetched]
      rcases readInventoryPage_of_reads reads
          (peer.store.nodup_listServableEventIdsForWorkspace workspaceId.text) bounded with
        complete | ⟨next, goesOn, advanced, unfinished, nextReads⟩
      · rw [complete]
        exact ⟨peer.store, peer.afterAnswer primitives json, rfl, List.getLast?_concat,
          List.prefix_rfl, List.prefix_rfl⟩
      · rw [goesOn]
        have grown := listServable_prefix_afterAnswer grows
        have moreFuel : 0 < fuel := by
          rcases Nat.eq_zero_or_pos fuel with rfl | positive
          · omega
          · exact positive
        have stillEnough :
            maxInventoryEventIdsPerPull ≤
              next.startIndex + maxInventoryEventIdsPerResponse * fuel := by
          rw [advanced]
          rw [Nat.mul_succ] at enough
          omega
        obtain ⟨last, final, ended, lastServed, servedAll, isPrefix⟩ :=
          inductionHypothesis (canonicalRows_afterAnswer hexDigests canonical) grows.afterAnswer
            (nextReads.extend grown) moreFuel stillEnough
        refine ⟨last, final, ended, lastServed, ?_, grown.trans isPrefix⟩
        exact (List.prefix_append _ _).trans servedAll

variable (primitives json) in
/-- What a whole pull of the list of a workspace from a peer returns: the list as
it was when the last page was served, which goes on from the list as it was when the
first page was served. -/
def PullsWholeInventory
    (fuel : Nat) (workspaceId : WorkspaceId) (peer : GrowingPeer) : Prop :=
  ∃ eventIds final first last,
    fetchInventoryPaged (GrowingPeer.exchange primitives json) fuel (some workspaceId) peer =
        (.ok (some eventIds), final) ∧
      final.served.head? = some first ∧
      final.served.getLast? = some last ∧
      eventIds.Nodup ∧
      first.listServableEventIdsForWorkspace workspaceId.text <+: eventIds ∧
      eventIds = last.listServableEventIdsForWorkspace workspaceId.text

end Pull

/-- The primitives on the creation of a workspace, with a digest for everything else. -/
def hexHomePrimitives : Primitives :=
  { homePrimitives with
    blake3Hex := fun bytes => if bytes = homeKey then homeDeviceHash else homeEventHash }

theorem hexHomePrimitives_hexDigests : HexDigests hexHomePrimitives.blake3Hex := by
  intro bytes
  simp only [hexHomePrimitives]
  split <;> decide

end Chaft

import Chaft.Library.Bisection
import Chaft.Library.Chunks
import Chaft.Network.InventoryPages
import Chaft.Network.PublishEvents

/-!
# Fetching events

A client asks a peer for events in batches of IDs.  A batch whose response is too large for a
frame is split until single events are left.  The client checks that it gets no other events
than those it asked for.
-/

namespace Chaft

open Outcome

def maxFetchEventIdsPerRequest : Nat := 128

/-- The number of the request kind. -/
def fetchEventsKind : Int32 := 2

/-! ## Oversized responses -/

def protocolErrorMayBeOversizedResponseFrame (message : List Char) : Bool :=
  let message := (Text.stripPrefix "protocol error: ".toList message).getD message
  Text.contains " exceeds max ".toList message &&
    ("frame length ".toList.isPrefixOf message ||
      Text.contains " response frame length ".toList message)

def responseErrorMayBeOversizedResponse : NetError → Bool
  | .protocol message => protocolErrorMayBeOversizedResponseFrame message.toList
  | .io message =>
      let message := message.toList.map Char.toLower
      Text.contains "early eof".toList message ||
        Text.contains "failed to fill whole buffer".toList message ||
          Text.contains "unexpected end of file".toList message ||
            Text.contains "connection reset".toList message ||
              Text.contains "broken pipe".toList message
  | .unavailable _ => false

/-! ## The client -/

def validateRequestEventIds (eventIds : List EventId) : Except NetError Unit :=
  checkAll
    (fun (eventId : EventId) =>
      ensure (isCanonicalEventIdStr eventId.text = true)
        (.protocol "peer requested non-canonical event id"))
    eventIds

def fetchEventsRequest (eventIds : List EventId) : WireSyncRequest where
  kind := fetchEventsKind
  eventIds := eventIds.map Identifier.text
  events := []
  authorizationEvents := []
  authorizationSnapshots := []
  blobHashes := []
  blobs := []
  blobDescriptors := []
  workspaceId := none
  eventEnvelopes := []
  authorizationEventEnvelopes := []
  authorizationSnapshotEnvelopes := []
  inventoryStartIndex := none
  inventoryLimit := none

/-- The IDs that were not seen before. -/
def unseenEventIds : List EventId → List EventId → List EventId
  | _, [] => []
  | seen, eventId :: rest =>
      if eventId ∈ seen then
        unseenEventIds seen rest
      else
        eventId :: unseenEventIds (eventId :: seen) rest

def deduplicateEventIds (eventIds : List EventId) : List EventId :=
  unseenEventIds [] eventIds

def validateResponseItemCount (context : String) (count max : Nat) : Except NetError Unit :=
  ensure (count ≤ max)
    (.protocol ("peer returned " ++ context ++ " count " ++ count.repr ++
      " exceeds requested limit " ++ max.repr))

def fetchEventsFields : AllowedResponseFields :=
  { AllowedResponseFields.empty with events := true, eventEnvelopes := true }

def validateFetchEventsWireResponse
    (response : WireSyncResponse) (requestedEventCount : Nat) : Except NetError Unit := do
  validateResponseShape response "unexpected fetch-events" fetchEventsFields
  validateResponseItemCount "fetch-events event"
    (saturatingAddUsize response.eventEnvelopes.length response.events.length)
    requestedEventCount

def validateFetchEventsResponse
    (requestedEventIds : List EventId) : List EventId → List SignedEvent → Except NetError Unit
  | _, [] => .ok ()
  | seen, event :: rest => do
      ensure (event.eventId ∈ requestedEventIds)
        (.protocol ("peer returned unrequested event " ++ event.eventId.text))
      ensure (event.eventId ∉ seen)
        (.protocol ("peer returned duplicate event " ++ event.eventId.text))
      validateFetchEventsResponse requestedEventIds (event.eventId :: seen) rest

section Client

variable (primitives : Primitives) (serialization : Serialization)
variable (exchange : WireSyncRequest → Except NetError WireSyncResponse)

def fetchEventsOnce (eventIds : List EventId) : Except NetError (List SignedEvent) :=
  if eventIds.isEmpty then
    .ok []
  else do
    validateRequestEventIds eventIds
    let requested := deduplicateEventIds eventIds
    let response ← exchange (fetchEventsRequest eventIds)
    responseError response.error
    validateFetchEventsWireResponse response requested.length
    let events ←
      decodeEvents primitives serialization response.eventEnvelopes response.events
    validateFetchEventsResponse requested [] events
    .ok events

/-- The batches that are asked for first. -/
def fetchBatches (eventIds : List EventId) : List (List EventId) :=
  Chunked.chunks maxFetchEventIdsPerRequest (deduplicateEventIds eventIds)

def fetchEventsBatched (eventIds : List EventId) : Except NetError (List SignedEvent) :=
  Bisection.gather (fetchEventsOnce primitives serialization exchange)
    responseErrorMayBeOversizedResponse (fetchBatches eventIds) []

/-! ## Peers -/

variable (holds : EventId → Option SignedEvent)

/-- The response to a batch has exactly the events that the peer holds, in the order of the
request. -/
def AnswersExactly (batch : List EventId) : Prop :=
  ∃ response, exchange (fetchEventsRequest batch) = .ok response ∧ response.error = none ∧
    validateResponseShape response "unexpected fetch-events" fetchEventsFields = .ok () ∧
      decodeEvents primitives serialization response.eventEnvelopes response.events =
        .ok (batch.filterMap holds)

/-- The peer has only an error for a batch. -/
def FailsBatch (batch : List EventId) (error : NetError) : Prop :=
  (exchange (fetchEventsRequest batch) >>= fun response => responseError response.error) =
    .error error

/-- A batch as the client sends it. -/
structure WellFormedBatch (batch : List EventId) : Prop where
  nonempty : batch ≠ []
  distinct : batch.Nodup
  count : batch.length ≤ maxFetchEventIdsPerRequest
  canonical : ∀ eventId ∈ batch, isCanonicalEventIdStr eventId.text = true

/-- A peer that has the events of a batch or, for several events, no room for them. -/
structure FetchPeer : Prop where
  named : ∀ eventId event, holds eventId = some event → event.eventId = eventId
  several :
    ∀ batch, WellFormedBatch batch → 1 < batch.length →
      AnswersExactly primitives serialization exchange holds batch ∨
        ∃ error, FailsBatch exchange batch error ∧
          responseErrorMayBeOversizedResponse error = true
  single :
    ∀ eventId, WellFormedBatch [eventId] →
      AnswersExactly primitives serialization exchange holds [eventId] ∨
        ∃ error, FailsBatch exchange [eventId] error

/-- A batch that the client gets to, if no batch before it fails. -/
def Requested (eventIds batch : List EventId) : Prop :=
  Bisection.Asked (fetchEventsOnce primitives serialization exchange)
    responseErrorMayBeOversizedResponse (fetchBatches eventIds) batch

/-- The events that the peer holds, each once and in the order of the request, or the error
of the first event that the peer fails to send alone. -/
def FetchesLosslessly (eventIds : List EventId) : Prop :=
  ((∀ eventId, Requested primitives serialization exchange eventIds [eventId] →
        AnswersExactly primitives serialization exchange holds [eventId]) ∧
      fetchEventsBatched primitives serialization exchange eventIds =
        .ok ((deduplicateEventIds eventIds).filterMap holds)) ∨
    ∃ before eventId after error,
      deduplicateEventIds eventIds = before ++ eventId :: after ∧
        Requested primitives serialization exchange eventIds [eventId] ∧
          (∀ earlier ∈ before, Requested primitives serialization exchange eventIds [earlier] →
            AnswersExactly primitives serialization exchange holds [earlier]) ∧
            FailsBatch exchange [eventId] error ∧
              fetchEventsBatched primitives serialization exchange eventIds = .error error

end Client

/-! ## Distinct IDs -/

/-- The first occurrences, in their order. -/
theorem unseenEventIds_spec (seen eventIds : List EventId) :
    (unseenEventIds seen eventIds).Nodup ∧
      (unseenEventIds seen eventIds).Sublist eventIds ∧
        ∀ eventId, eventId ∈ unseenEventIds seen eventIds ↔
          eventId ∈ eventIds ∧ eventId ∉ seen := by
  induction eventIds generalizing seen with
  | nil => simp [unseenEventIds]
  | cons first rest inductionHypothesis =>
      rw [unseenEventIds]
      by_cases isSeen : first ∈ seen
      · obtain ⟨distinct, inOrder, members⟩ := inductionHypothesis seen
        rw [if_pos isSeen]
        refine ⟨distinct, inOrder.cons first, ?_⟩
        intro eventId
        rw [members, List.mem_cons]
        constructor
        · exact fun found => ⟨Or.inr found.1, found.2⟩
        · intro found
          obtain ⟨rfl | later, unseen⟩ := found
          · exact absurd isSeen unseen
          · exact ⟨later, unseen⟩
      · obtain ⟨distinct, inOrder, members⟩ := inductionHypothesis (first :: seen)
        rw [if_neg isSeen]
        refine ⟨List.nodup_cons.mpr ⟨?_, distinct⟩, inOrder.cons_cons first, ?_⟩
        · intro again
          exact ((members first).mp again).2 List.mem_cons_self
        · intro eventId
          rw [List.mem_cons, members, List.mem_cons, List.mem_cons, not_or]
          by_cases isFirst : eventId = first
          · subst isFirst
            simp [isSeen]
          · simp [isFirst]

theorem nodup_deduplicateEventIds (eventIds : List EventId) :
    (deduplicateEventIds eventIds).Nodup :=
  (unseenEventIds_spec [] eventIds).1

theorem mem_deduplicateEventIds {eventId : EventId} {eventIds : List EventId} :
    eventId ∈ deduplicateEventIds eventIds ↔ eventId ∈ eventIds := by
  rw [deduplicateEventIds, (unseenEventIds_spec [] eventIds).2.2]
  simp

theorem unseenEventIds_of_nodup
    {seen eventIds : List EventId} (distinct : eventIds.Nodup)
    (apart : ∀ eventId ∈ eventIds, eventId ∉ seen) : unseenEventIds seen eventIds = eventIds := by
  refine (unseenEventIds_spec seen eventIds).2.1.eq_of_length_le ?_
  refine (List.Nodup.subperm distinct fun eventId member => ?_).length_le
  exact ((unseenEventIds_spec seen eventIds).2.2 eventId).mpr ⟨member, apart eventId member⟩

/-! ## One batch -/

section Batch

variable {primitives : Primitives} {serialization : Serialization}
variable {exchange : WireSyncRequest → Except NetError WireSyncResponse}
variable {holds : EventId → Option SignedEvent}

theorem validateFetchEventsResponse_eq_ok
    {requested seen : List EventId} {events : List SignedEvent}
    (asked : ∀ event ∈ events, event.eventId ∈ requested)
    (distinct : (events.map SignedEvent.eventId).Nodup)
    (apart : ∀ event ∈ events, event.eventId ∉ seen) :
    validateFetchEventsResponse requested seen events = .ok () := by
  induction events generalizing seen with
  | nil => rfl
  | cons event rest inductionHypothesis =>
      obtain ⟨eventAsked, restAsked⟩ := List.forall_mem_cons.mp asked
      obtain ⟨eventApart, restApart⟩ := List.forall_mem_cons.mp apart
      rw [List.map_cons, List.nodup_cons] at distinct
      simp only [validateFetchEventsResponse, bind_eq_ok_iff, ensure_eq_ok_iff]
      refine ⟨(), eventAsked, (), eventApart, inductionHypothesis restAsked distinct.2 ?_⟩
      intro later member again
      rcases List.mem_cons.mp again with isEvent | isSeen
      · exact distinct.1 (List.mem_map.mpr ⟨later, member, isEvent⟩)
      · exact restApart later member isSeen

/-- What is held of some IDs is held under these IDs. -/
theorem map_eventId_held
    (named : ∀ eventId event, holds eventId = some event → event.eventId = eventId)
    (batch : List EventId) :
    ((batch.filterMap holds).map SignedEvent.eventId).Sublist batch := by
  induction batch with
  | nil => exact List.Sublist.refl _
  | cons eventId rest inductionHypothesis =>
      cases held : holds eventId with
      | none =>
          rw [List.filterMap_cons_none held]
          exact inductionHypothesis.cons eventId
      | some event =>
          rw [List.filterMap_cons_some held, List.map_cons, named eventId event held]
          exact inductionHypothesis.cons_cons eventId

theorem validateRequestEventIds_eq_ok
    {batch : List EventId}
    (canonical : ∀ eventId ∈ batch, isCanonicalEventIdStr eventId.text = true) :
    validateRequestEventIds batch = .ok () := by
  rw [validateRequestEventIds, checkAll_eq_ok_iff]
  exact fun eventId member => (ensure_eq_ok_iff _ _ ()).mpr (canonical eventId member)

/-- The client takes an exact answer. -/
theorem fetchEventsOnce_of_answers
    (named : ∀ eventId event, holds eventId = some event → event.eventId = eventId)
    {batch : List EventId} (wellFormed : WellFormedBatch batch)
    (answers : AnswersExactly primitives serialization exchange holds batch) :
    fetchEventsOnce primitives serialization exchange batch = .ok (batch.filterMap holds) := by
  obtain ⟨response, isResponse, noError, shape, decoded⟩ := answers
  have inOrder := map_eventId_held named batch
  have unchanged : deduplicateEventIds batch = batch :=
    unseenEventIds_of_nodup wellFormed.distinct fun _ _ seen => nomatch seen
  have lengths :
      response.eventEnvelopes.length + response.events.length =
        (batch.filterMap holds).length := by
    simp only [decodeEvents, bind_eq_ok_iff, Except.ok.injEq] at decoded
    obtain ⟨fromEnvelopes, isEnvelopes, fromBytes, isBytes, both⟩ := decoded
    rw [← both, List.length_append, length_of_mapM isEnvelopes, length_of_mapM isBytes]
  have count :
      saturatingAddUsize response.eventEnvelopes.length response.events.length ≤ batch.length := by
    have held := inOrder.length_le
    rw [List.length_map] at held
    unfold saturatingAddUsize
    omega
  have checked : validateFetchEventsResponse batch [] (batch.filterMap holds) = .ok () := by
    refine validateFetchEventsResponse_eq_ok ?_ (wellFormed.distinct.sublist inOrder) ?_
    · exact fun event member => inOrder.subset (List.mem_map_of_mem member)
    · exact fun _ _ seen => nomatch seen
  rw [fetchEventsOnce, if_neg (by simpa using wellFormed.nonempty)]
  simp only [unchanged, isResponse, noError, responseError, validateFetchEventsWireResponse,
    shape, decoded, checked, validateRequestEventIds_eq_ok wellFormed.canonical,
    validateResponseItemCount, ensure, if_pos count, bind, Except.bind]

/-- The client passes the error of a peer on. -/
theorem fetchEventsOnce_of_fails
    {batch : List EventId} (wellFormed : WellFormedBatch batch) {error : NetError}
    (fails : FailsBatch exchange batch error) :
    fetchEventsOnce primitives serialization exchange batch = .error error := by
  have canonical := validateRequestEventIds_eq_ok wellFormed.canonical
  rw [fetchEventsOnce, if_neg (by simpa using wellFormed.nonempty)]
  rw [FailsBatch, bind_eq_error_iff] at fails
  rw [bind_eq_error_iff]
  refine Or.inr ⟨(), canonical, ?_⟩
  rw [bind_eq_error_iff]
  rcases fails with unanswered | ⟨response, answered, isError⟩
  · exact Or.inl unanswered
  · refine Or.inr ⟨response, answered, ?_⟩
    rw [bind_eq_error_iff]
    exact Or.inl isError

/-- The batches that are asked for are well formed. -/
theorem wellFormed_of_requested
    {eventIds : List EventId}
    (canonical : ∀ eventId ∈ eventIds, isCanonicalEventIdStr eventId.text = true)
    {batch : List EventId}
    (requested : Requested primitives serialization exchange eventIds batch) :
    WellFormedBatch batch := by
  induction requested with
  | stacked member =>
      have inside := Chunked.infix_of_mem_chunks member
      exact
        { nonempty := Chunked.ne_nil_of_mem_chunks (by decide) member
          distinct := (nodup_deduplicateEventIds eventIds).sublist inside.sublist
          count := Chunked.length_le_of_mem_chunks member
          canonical := fun eventId inBatch =>
            canonical eventId (mem_deduplicateEventIds.mp (inside.subset inBatch)) }
  | @front batch _ splits inductionHypothesis =>
      have part := List.take_sublist (batch.length / 2) batch
      have long := splits.1
      exact
        { nonempty := List.ne_nil_of_length_pos (by rw [List.length_take]; omega)
          distinct := inductionHypothesis.distinct.sublist part
          count := Nat.le_trans part.length_le inductionHypothesis.count
          canonical := fun eventId inHalf =>
            inductionHypothesis.canonical eventId (part.subset inHalf) }
  | @back batch _ splits inductionHypothesis =>
      have part := List.drop_sublist (batch.length / 2) batch
      have long := splits.1
      exact
        { nonempty := List.ne_nil_of_length_pos (by rw [List.length_drop]; omega)
          distinct := inductionHypothesis.distinct.sublist part
          count := Nat.le_trans part.length_le inductionHypothesis.count
          canonical := fun eventId inHalf =>
            inductionHypothesis.canonical eventId (part.subset inHalf) }

end Batch

def homeSerialization : Serialization where
  json := homeJson
  eventBodyFromSlice _ := none
  trustSnapshotFromSlice _ := none
  eventFromBytes _ := none
  trustSnapshotFromBytes _ := none
  debugText text := "\"" ++ text ++ "\""

/-- The creation of the workspace, if it is asked for. -/
def homeHolds (eventId : EventId) : Option SignedEvent :=
  if eventId = signedHome.eventId then some signedHome else none

def homeExchange (request : WireSyncRequest) : Except NetError WireSyncResponse :=
  .ok
    { emptySyncResponse with
      eventEnvelopes :=
        ((request.eventIds.map Identifier.mk).filterMap homeHolds).map encodeEventEnvelope }

theorem homeExchange_answers (batch : List EventId) :
    AnswersExactly homePrimitives homeSerialization homeExchange homeHolds batch := by
  have sameIds : ((batch.map Identifier.text).map Identifier.mk) = batch := by
    rw [List.map_map]
    exact List.map_id' batch
  have readsHome :
      checkDecodedEvent homeSerialization
          (decodeEventEnvelope homePrimitives homeSerialization.eventBodyFromSlice
            (encodeEventEnvelope signedHome)) = .ok signedHome := by
    decide +kernel
  have reads (eventIds : List EventId) :
      ((eventIds.filterMap homeHolds).map encodeEventEnvelope).mapM (fun envelope =>
          checkDecodedEvent homeSerialization
            (decodeEventEnvelope homePrimitives homeSerialization.eventBodyFromSlice envelope)) =
        .ok (eventIds.filterMap homeHolds) := by
    induction eventIds with
    | nil => rfl
    | cons eventId rest inductionHypothesis =>
        by_cases isHome : eventId = signedHome.eventId
        · have held : homeHolds eventId = some signedHome := if_pos isHome
          rw [List.filterMap_cons_some held, List.map_cons, mapM_cons_eq_ok_iff]
          exact ⟨signedHome, _, readsHome, inductionHypothesis, rfl⟩
        · have notHeld : homeHolds eventId = none := if_neg isHome
          rw [List.filterMap_cons_none notHeld]
          exact inductionHypothesis
  refine ⟨_, rfl, rfl, rfl, ?_⟩
  simp only [decodeEvents, fetchEventsRequest, sameIds, reads, emptySyncResponse, bind_eq_ok_iff]
  exact ⟨_, rfl, [], rfl, by rw [List.append_nil]⟩

theorem homeExchange_fetchPeer :
    FetchPeer homePrimitives homeSerialization homeExchange homeHolds where
  named eventId event held := by
    unfold homeHolds at held
    split at held
    · rename_i isHome
      cases held
      exact isHome.symm
    · cases held
  several batch _ _ := Or.inl (homeExchange_answers batch)
  single eventId _ := Or.inl (homeExchange_answers [eventId])

end Chaft

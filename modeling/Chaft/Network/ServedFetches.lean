import Chaft.Library.TextParts
import Chaft.Network.BlobFrames
import Chaft.Network.ReplicaNetwork
import Chaft.Network.ServedRequests

/-!
# Fetches from a server

A server that has too many events for one frame answers with an error, and the client asks for
fewer at once.  If each event alone fits a frame, the client gets what the server serves, and
nothing else, as the replicas of a network do.
-/

namespace Chaft

open Outcome Protobuf Effects Effects.Effect

/-! ## Responses with events -/

def eventsResponse (events : List SignedEvent) : WireSyncResponse :=
  { emptySyncResponse with eventEnvelopes := events.map encodeEventEnvelope }

def eventsFrameError (length : Nat) : NetError :=
  .protocol ("fetch-events response frame length " ++ length.repr ++ " exceeds max " ++
    maxFrameLen.repr)

section Responses

variable (eventBodyToVec : WireEventBody → List UInt8)

/-- An event that can be sent alone and is read as it was written. -/
structure Deliverable (event : SignedEvent) : Prop where
  version : event.event.schemaVersion = 1
  readable : ReadableBody event.event.body
  fits : (eventsResponse [event]).encodedLen eventBodyToVec ≤ maxFrameLen

/-- One more event in a response of the handler. -/
def addEvent (response : WireSyncResponse) (event : SignedEvent) :
    Except NetError WireSyncResponse :=
  framedResponse eventBodyToVec "fetch-events"
    { response with eventEnvelopes := response.eventEnvelopes ++ [encodeEventEnvelope event] }

variable {eventBodyToVec}

theorem encodedLen_eventsResponse_append (events others : List SignedEvent) :
    (eventsResponse (events ++ others)).encodedLen eventBodyToVec =
      (eventsResponse events).encodedLen eventBodyToVec +
        (eventsResponse others).encodedLen eventBodyToVec := by
  have nothing : encodedLength [] = 0 := rfl
  have noText (tag : Nat) : encodedLength (optionalField tag none) = 0 := rfl
  have noNumber (tag : Nat) : encodedLength (optionalNumberField tag none) = 0 := rfl
  simp only [WireSyncResponse.encodedLen, length_encode, WireSyncResponse.fields, eventsResponse,
    emptySyncResponse, encodedLength_append, List.map_append, List.map_nil, Option.map_none,
    nothing, noText, noNumber, repeatedField]
  omega

theorem addEvent_eventsResponse (earlier : List SignedEvent) (event : SignedEvent) :
    addEvent eventBodyToVec (eventsResponse earlier) event =
      if (eventsResponse (earlier ++ [event])).encodedLen eventBodyToVec ≤ maxFrameLen then
        .ok (eventsResponse (earlier ++ [event]))
      else
        .error (eventsFrameError
          ((eventsResponse (earlier ++ [event])).encodedLen eventBodyToVec)) := by
  have sameResponse :
      { eventsResponse earlier with
        eventEnvelopes := (eventsResponse earlier).eventEnvelopes ++ [encodeEventEnvelope event] } =
        eventsResponse (earlier ++ [event]) := by
    simp only [eventsResponse, List.map_append, List.map_cons, List.map_nil]
  rw [addEvent, sameResponse, framedResponse, validateSyncResponseFrameLen]
  by_cases fits : (eventsResponse (earlier ++ [event])).encodedLen eventBodyToVec ≤ maxFrameLen
  · rw [if_pos fits, ensure, if_pos fits]
    rfl
  · rw [if_neg fits, ensure, if_neg fits]
    rfl

/-- Either all events go into the response, or the length of the first that is too long is
told. -/
theorem addEvents_cases
    (events earlier : List SignedEvent)
    (room : (eventsResponse earlier).encodedLen eventBodyToVec ≤ maxFrameLen)
    (single :
      ∀ event ∈ events, (eventsResponse [event]).encodedLen eventBodyToVec ≤ maxFrameLen) :
    (eventsResponse (earlier ++ events)).encodedLen eventBodyToVec ≤ maxFrameLen ∧
        events.foldlM (addEvent eventBodyToVec) (eventsResponse earlier) =
          .ok (eventsResponse (earlier ++ events)) ∨
      maxFrameLen < (eventsResponse (earlier ++ events)).encodedLen eventBodyToVec ∧
        ∃ length ≤ 2 * maxFrameLen,
          events.foldlM (addEvent eventBodyToVec) (eventsResponse earlier) =
            .error (eventsFrameError length) := by
  induction events generalizing earlier with
  | nil =>
      rw [List.append_nil]
      exact Or.inl ⟨room, rfl⟩
  | cons event rest inductionHypothesis =>
      obtain ⟨fits, restFit⟩ := List.forall_mem_cons.mp single
      have together :
          (earlier ++ [event]) ++ rest = earlier ++ event :: rest := by
        rw [List.append_assoc, List.singleton_append]
      have length := @encodedLen_eventsResponse_append eventBodyToVec earlier [event]
      rw [List.foldlM_cons, addEvent_eventsResponse]
      by_cases more : (eventsResponse (earlier ++ [event])).encodedLen eventBodyToVec ≤ maxFrameLen
      · have later := inductionHypothesis (earlier ++ [event]) more restFit
        rw [together] at later
        rw [if_pos more]
        exact later
      · have whole := @encodedLen_eventsResponse_append eventBodyToVec (earlier ++ [event]) rest
        rw [together] at whole
        rw [if_neg more]
        exact Or.inr ⟨by omega, _, by omega, rfl⟩

end Responses

/-! ## Requests with event IDs -/

/-- A canonical event ID has the length of its digits and of the mark before them. -/
theorem length_textBytes_of_canonical
    {eventId : EventId} (canonical : isCanonicalEventIdStr eventId.text = true) :
    (textBytes eventId.text).length = 68 := by
  rw [isCanonicalEventIdStr] at canonical
  cases dropped : eventId.text.toList.dropPrefix? "evt_".toList with
  | none =>
      rw [dropped] at canonical
      cases canonical
  | some hash =>
      rw [dropped] at canonical
      simp only [Bool.and_eq_true, decide_eq_true_eq, List.all_eq_true] at canonical
      obtain ⟨count, digits⟩ := canonical
      obtain ⟨mark, isText, sameMark⟩ := List.dropPrefix?_eq_some_iff.mp dropped
      rw [beq_iff_eq] at sameMark
      have narrow : ∀ symbol ∈ hash, symbol.utf8Size = 1 :=
        fun symbol member => utf8Size_of_isLowerHexDigit (digits symbol member)
      have parts : eventId.text = "evt_" ++ String.ofList hash := by
        rw [← String.toList_inj, isText, sameMark, String.toList_append]
        exact congrArg ("evt_".toList ++ ·) String.toList_ofList.symm
      have markBytes : "evt_".utf8ByteSize = 4 := by
        decide
      rw [length_textBytes, parts, String.utf8ByteSize_append, markBytes,
        Text.utf8ByteSize_ofList narrow, count]

/-- A request for a batch of events fits a frame. -/
theorem fetchEventsRequest_fits
    (eventBodyToVec : WireEventBody → List UInt8) {batch : List EventId}
    (wellFormed : WellFormedBatch batch) :
    (encodeSyncRequest eventBodyToVec (fetchEventsRequest batch)).length ≤ maxFrameLen := by
  have ids :
      encodedLength (repeatedField 2 ((batch.map Identifier.text).map textBytes)) ≤
        batch.length * 70 := by
    have bound :=
      @encodedLength_repeatedField_le 2 (by omega) ((batch.map Identifier.text).map textBytes) 68 0
        (by
          intro content member
          rw [List.map_map] at member
          obtain ⟨eventId, inBatch, isContent⟩ := List.mem_map.mp member
          rw [← isContent]
          exact Nat.le_of_eq (length_textBytes_of_canonical (wellFormed.canonical eventId inBatch)))
        (by omega)
    rw [List.length_map, List.length_map] at bound
    exact bound
  have kind : encodedLength (enumField 1 fetchEventsKind) = 2 := by
    decide
  have noText (tag : Nat) : encodedLength (optionalField tag none) = 0 := rfl
  have noNumber (tag : Nat) : encodedLength (optionalNumberField tag none) = 0 := rfl
  have nothing (tag : Nat) : encodedLength (repeatedField tag []) = 0 := rfl
  have count := wellFormed.count
  simp only [encodeSyncRequest, length_encode, WireSyncRequest.fields, fetchEventsRequest,
    encodedLength_append, List.map_nil, Option.map_none, noText, noNumber, nothing, kind]
  simp only [maxFetchEventIdsPerRequest] at count
  simp only [maxFrameLen]
  omega

theorem handleFetchEvents_eq
    (json : EventJson) (eventBodyToVec : WireEventBody → List UInt8) {batch : List EventId}
    (wellFormed : WellFormedBatch batch) (store : EventStore) :
    handleFetchEvents json eventBodyToVec (fetchEventsRequest batch) store =
      (batch.filterMap (store.getServableEvent json)).foldlM (addEvent eventBodyToVec)
        (eventsResponse []) := by
  have sameIds : (batch.map Identifier.text).map Identifier.mk = batch := by
    rw [List.map_map]
    exact List.map_id' batch
  have shape :
      validateRequestShape (fetchEventsRequest batch) "fetch-events"
        { AllowedRequestFields.empty with eventIds := true } = .ok () :=
    (ensure_eq_ok_iff _ _ _).mpr rfl
  have count :
      validateRequestItemCount "fetch-events event id" (batch.map Identifier.text).length
        maxFetchEventIdsPerRequest = .ok () := by
    rw [List.length_map]
    exact (ensure_eq_ok_iff _ _ _).mpr wellFormed.count
  have unique :
      validateRequestItemsUnique "fetch-events event id" (batch.map Identifier.text) = .ok () := by
    rw [validateRequestItemsUnique, checkDistinct_eq_ok_iff, List.map_id]
    refine ⟨wellFormed.distinct.map ?_, by simp⟩
    intro first second same
    cases first
    cases second
    exact congrArg Identifier.mk same
  have canonical := validateRequestEventIds_eq_ok wellFormed.canonical
  have isIds : (fetchEventsRequest batch).eventIds = batch.map Identifier.text := rfl
  rw [handleFetchEvents, shape, isIds]
  simp only [count, unique, sameIds, canonical]
  rfl

/-! ## Errors that ask for fewer events -/

theorem message_protocol (reason : String) :
    (NetError.protocol reason).message = "protocol error: " ++ reason :=
  rfl

/-- The text in which the client gets the error, for any numbers in it. -/
theorem message_of_eventsFrame (length max : String) :
    (NetError.protocol ("fetch-events response frame length " ++ length ++ " exceeds max " ++
        max)).message =
      "protocol error: fetch-events response frame length " ++ length ++ " exceeds max " ++
        max := by
  have opening :
      "protocol error: " ++ "fetch-events response frame length " =
        "protocol error: fetch-events response frame length " := by
    decide
  rw [message_protocol, ← opening]
  simp only [String.append_assoc]

theorem eventsFrameError_message (length : Nat) :
    (eventsFrameError length).message =
      "protocol error: fetch-events response frame length " ++ length.repr ++ " exceeds max " ++
        maxFrameLen.repr :=
  message_of_eventsFrame length.repr maxFrameLen.repr

theorem eventsFrameError_short {length : Nat} (bounded : length ≤ 2 * maxFrameLen) :
    (eventsFrameError length).message.utf8ByteSize ≤ 100 := by
  have largest : maxFrameLen = 16777216 := rfl
  have digits : length.repr.utf8ByteSize ≤ 8 :=
    Text.utf8ByteSize_repr_le (by decide) (by omega)
  have maxDigits : maxFrameLen.repr.utf8ByteSize ≤ 8 :=
    Text.utf8ByteSize_repr_le (by decide) (by omega)
  have opening :
      "protocol error: fetch-events response frame length ".utf8ByteSize = 51 := by
    decide
  have middle : " exceeds max ".utf8ByteSize = 13 := by
    decide
  rw [eventsFrameError_message]
  simp only [String.utf8ByteSize_append, opening, middle]
  omega

/-- The client takes the error for what it is. -/
theorem oversized_of_eventsFrame (length max : String) :
    responseErrorMayBeOversizedResponse
        (.protocol
          (NetError.protocol ("fetch-events response frame length " ++ length ++
            " exceeds max " ++ max)).message) = true := by
  have isText :
      (NetError.protocol ("fetch-events response frame length " ++ length ++ " exceeds max " ++
          max)).message.toList =
        "protocol error: ".toList ++
          ("fetch-events response frame length " ++ length ++ " exceeds max " ++ max).toList := by
    rw [← String.toList_append, message_protocol]
  have named :
      " response frame length ".toList <:+:
        ("fetch-events response frame length " ++ length ++ " exceeds max " ++ max).toList := by
    have opening :
        "fetch-events response frame length " = "fetch-events" ++ " response frame length " := by
      decide
    refine ⟨"fetch-events".toList, (length ++ " exceeds max " ++ max).toList, ?_⟩
    rw [opening]
    simp only [String.toList_append, List.append_assoc]
  have exceeds :
      " exceeds max ".toList <:+:
        ("fetch-events response frame length " ++ length ++ " exceeds max " ++ max).toList := by
    refine ⟨("fetch-events response frame length " ++ length).toList, max.toList, ?_⟩
    simp only [String.toList_append, List.append_assoc]
  rw [responseErrorMayBeOversizedResponse, protocolErrorMayBeOversizedResponseFrame, isText,
    Text.stripPrefix_append]
  simp only [Option.getD_some, Text.contains_of_infix named, Text.contains_of_infix exceeds,
    Bool.or_true, Bool.and_true]

theorem eventsFrameError_oversized (length : Nat) :
    responseErrorMayBeOversizedResponse (.protocol (eventsFrameError length).message) = true :=
  oversized_of_eventsFrame length.repr maxFrameLen.repr

/-! ## The answers of a server -/

section Served

variable {τ : Type} {peer : SyncPeer τ} {server : SyncPeerStore τ}

theorem handleRequest_fetchEvents (batch : List EventId) :
    peer.handleRequest (fetchEventsRequest batch) server =
      (handleFetchEvents peer.serialization.json peer.eventBodyToVec (fetchEventsRequest batch)
        server.store, server) := by
  have sameKind : (fetchEventsRequest batch).kind = fetchEventsKind := rfl
  have isFetch : WireSyncRequestKind.tryFrom fetchEventsKind = some .fetchEvents := by
    decide
  rw [SyncPeer.handleRequest, sameKind, isFetch]
  rfl

theorem exchange_of_events
    {batch : List EventId} (wellFormed : WellFormedBatch batch) {response : WireSyncResponse}
    (handled :
      handleFetchEvents peer.serialization.json peer.eventBodyToVec (fetchEventsRequest batch)
        server.store = .ok response)
    (fits : response.encodedLen peer.eventBodyToVec ≤ maxFrameLen) :
    (peer.exchange (fetchEventsRequest batch) server).1 = .ok response := by
  have framed :
      validateSyncResponseFrameLen peer.eventBodyToVec "sync" response = .ok () :=
    (ensure_eq_ok_iff _ _ _).mpr fits
  rw [SyncPeer.exchange, if_pos (fetchEventsRequest_fits _ wellFormed), SyncPeer.serve,
    handleRequest_fetchEvents, handled]
  simp only [SyncPeer.limitResponse, framed]

theorem exchange_of_eventsFrameError
    {batch : List EventId} (wellFormed : WellFormedBatch batch) {length : Nat}
    (bounded : length ≤ 2 * maxFrameLen)
    (handled :
      handleFetchEvents peer.serialization.json peer.eventBodyToVec (fetchEventsRequest batch)
        server.store = .error (eventsFrameError length)) :
    (peer.exchange (fetchEventsRequest batch) server).1 =
      .ok { emptySyncResponse with error := some (eventsFrameError length).message } := by
  have short := eventsFrameError_short bounded
  generalize isMessage : (eventsFrameError length).message = message at short
  have shown : syncErrorResponse (eventsFrameError length) =
      { emptySyncResponse with error := some message } := by
    have small : message.utf8ByteSize ≤ maxSyncResponseErrorBytes := by
      rw [maxSyncResponseErrorBytes]
      omega
    rw [syncErrorResponse, isMessage, boundedSyncResponseError, if_pos small]
  have fits :
      WireSyncResponse.encodedLen peer.eventBodyToVec
        { emptySyncResponse with error := some message } ≤ maxFrameLen := by
    have noText (tag : Nat) : encodedLength (repeatedField tag []) = 0 := rfl
    have noNumber (tag : Nat) : encodedLength (optionalNumberField tag none) = 0 := rfl
    have bytes := length_textBytes message
    have length :=
      @encodedLength_repeatedField_le 3 (by omega) [textBytes message] 100 0
        (by
          intro content member
          rw [List.mem_singleton.mp member]
          omega)
        (by omega)
    rw [List.length_singleton] at length
    simp only [WireSyncResponse.encodedLen, length_encode, WireSyncResponse.fields,
      emptySyncResponse, encodedLength_append, List.map_nil, Option.map_some, noText, noNumber,
      optionalField, Option.toList_some, maxFrameLen]
    omega
  have framed :
      validateSyncResponseFrameLen peer.eventBodyToVec "sync"
        { emptySyncResponse with error := some message } = .ok () :=
    (ensure_eq_ok_iff _ _ _).mpr fits
  rw [SyncPeer.exchange, if_pos (fetchEventsRequest_fits _ wellFormed), SyncPeer.serve,
    handleRequest_fetchEvents, handled]
  simp only [SyncPeer.limitResponse, shown, framed]

/-- What a client reads of a deliverable event that verifies. -/
theorem readsDeliverable
    {primitives : Primitives} {serialization : Serialization}
    {eventBodyToVec : WireEventBody → List UInt8} {eventId : EventId} {event : SignedEvent}
    (copy : VerifiedCopy primitives serialization.json eventId event)
    (deliverable : Deliverable eventBodyToVec event) :
    checkDecodedEvent serialization
        (decodeEventEnvelope primitives serialization.eventBodyFromSlice
          (encodeEventEnvelope event)) = .ok event := by
  have verified := copy.servable
  have named :
      event.eventId =
        (SignedEvent.fromAuthorSignature primitives event.event event.authorPublicKey
          event.signature).eventId := by
    rw [isServableEvent] at verified
    cases isVerified : verifySelfContainedEvent primitives event with
    | error raised =>
        rw [isVerified] at verified
        cases verified
    | ok _ =>
        simp only [verifySelfContainedEvent, bind_eq_ok_iff, ensure_eq_ok_iff] at isVerified
        obtain ⟨_, -, _, -, _, -, _, -, _, sameId, -⟩ := isVerified
        exact sameId.symm
  have decoded :=
    decode_encode_of_readable primitives serialization.eventBodyFromSlice deliverable.version
      named deliverable.readable
  obtain ⟨row, isRow⟩ := isAppended_iff.mp copy.appended
  obtain ⟨-, -, -, -, written, small⟩ := rowOf_spec isRow
  have size : validateDecodedEventSize serialization event = .ok () := by
    simp only [validateDecodedEventSize, renamed_eq_ok_iff, validateSignedEventJsonSize,
      bind_eq_ok_iff, okOr_eq_ok_iff]
    exact ⟨row.eventJson, written, (ensure_eq_ok_iff _ _ _).mpr small⟩
  simp only [checkDecodedEvent, decoded, bind_eq_ok_iff]
  exact ⟨event, rfl, (), size, rfl⟩

section Client

variable (roundTrips : peer.serialization.json.RoundTrips) {history : List SignedEvent}
variable (isStore :
  server.store = EventStore.empty.after peer.primitives peer.serialization.json history)

variable (peer server) in
/-- What the server serves under some IDs can be delivered. -/
def ServesDeliverable (eventIds : List EventId) : Prop :=
  ∀ eventId ∈ eventIds, ∀ event,
    server.store.getServableEvent peer.serialization.json eventId = some event →
      Deliverable peer.eventBodyToVec event

include roundTrips isStore in
/-- What is served is read, event by event. -/
theorem decodeEvents_served
    {batch : List EventId} (deliverable : ServesDeliverable peer server batch) :
    decodeEvents peer.primitives peer.serialization
        ((batch.filterMap (server.store.getServableEvent peer.serialization.json)).map
          encodeEventEnvelope) [] =
      .ok (batch.filterMap (server.store.getServableEvent peer.serialization.json)) := by
  have each :
      ∀ event ∈ batch.filterMap (server.store.getServableEvent peer.serialization.json),
        checkDecodedEvent peer.serialization
            (decodeEventEnvelope peer.primitives peer.serialization.eventBodyFromSlice
              (encodeEventEnvelope event)) = .ok event := by
    intro event member
    obtain ⟨eventId, inBatch, served⟩ := List.mem_filterMap.mp member
    have canDeliver := deliverable eventId inBatch event served
    rw [isStore] at served
    exact readsDeliverable (copy_of_served roundTrips history served).2 canDeliver
  have reads (events : List SignedEvent)
      (each :
        ∀ event ∈ events,
          checkDecodedEvent peer.serialization
              (decodeEventEnvelope peer.primitives peer.serialization.eventBodyFromSlice
                (encodeEventEnvelope event)) = .ok event) :
      (events.map encodeEventEnvelope).mapM (fun envelope =>
          checkDecodedEvent peer.serialization
            (decodeEventEnvelope peer.primitives peer.serialization.eventBodyFromSlice
              envelope)) = .ok events := by
    induction events with
    | nil => rfl
    | cons event rest inductionHypothesis =>
        obtain ⟨first, later⟩ := List.forall_mem_cons.mp each
        rw [List.map_cons, mapM_cons_eq_ok_iff]
        exact ⟨event, rest, first, inductionHypothesis later, rfl⟩
  simp only [decodeEvents, reads _ each, bind_eq_ok_iff]
  exact ⟨_, rfl, [], rfl, by rw [List.append_nil]⟩

include roundTrips isStore in
/-- A batch is answered with what is served, or it is of several events and too large. -/
theorem fetchEventsOnce_served
    {batch : List EventId} (wellFormed : WellFormedBatch batch)
    (deliverable : ServesDeliverable peer server batch) :
    fetchEventsOnce peer.primitives peer.serialization
          (fun request => (peer.exchange request server).1) batch =
        .ok (batch.filterMap (server.store.getServableEvent peer.serialization.json)) ∨
      Bisection.Splits
        (fetchEventsOnce peer.primitives peer.serialization
          fun request => (peer.exchange request server).1)
        responseErrorMayBeOversizedResponse batch := by
  have named :
      ∀ eventId event,
        server.store.getServableEvent peer.serialization.json eventId = some event →
          event.eventId = eventId := by
    intro eventId event served
    rw [isStore] at served
    exact (copy_of_served roundTrips history served).2.sameId
  have single :
      ∀ event ∈ batch.filterMap (server.store.getServableEvent peer.serialization.json),
        (eventsResponse [event]).encodedLen peer.eventBodyToVec ≤ maxFrameLen := by
    intro event member
    obtain ⟨eventId, inBatch, served⟩ := List.mem_filterMap.mp member
    exact (deliverable eventId inBatch event served).fits
  have empty : (eventsResponse []).encodedLen peer.eventBodyToVec = 0 := by
    have twice := @encodedLen_eventsResponse_append peer.eventBodyToVec [] []
    rw [List.append_nil] at twice
    omega
  have handled :=
    handleFetchEvents_eq peer.serialization.json peer.eventBodyToVec wellFormed server.store
  have decoded := decodeEvents_served roundTrips isStore deliverable
  have count :=
    List.length_filterMap_le (server.store.getServableEvent peer.serialization.json) batch
  rcases addEvents_cases
      (batch.filterMap (server.store.getServableEvent peer.serialization.json)) [] (by omega)
      single with
    ⟨fits, answered⟩ | ⟨tooLong, length, bounded, refused⟩
  · left
    have shape :
        validateResponseShape
            (eventsResponse
              (batch.filterMap (server.store.getServableEvent peer.serialization.json)))
            "unexpected fetch-events" fetchEventsFields = .ok () :=
      (ensure_eq_ok_iff _ _ _).mpr rfl
    rw [List.nil_append] at fits answered
    exact
      fetchEventsOnce_of_answers named wellFormed
        ⟨_, exchange_of_events wellFormed (handled.trans answered) fits, rfl, shape, decoded⟩
  · right
    have several : 1 < batch.length := by
      rw [List.nil_append] at tooLong
      generalize batch.filterMap (server.store.getServableEvent peer.serialization.json) = events
        at single tooLong count
      match events with
      | [] => omega
      | [event] =>
          have fits := single event (List.mem_singleton_self event)
          omega
      | _ :: _ :: _ =>
          rw [List.length_cons, List.length_cons] at count
          omega
    have short := eventsFrameError_short bounded
    have exchanged := exchange_of_eventsFrameError wellFormed bounded (handled.trans refused)
    refine ⟨several, .protocol (eventsFrameError length).message, ?_,
      eventsFrameError_oversized length⟩
    apply fetchEventsOnce_of_fails wellFormed
    have unknown : ¬ maxSyncResponseErrorBytes < (eventsFrameError length).message.utf8ByteSize := by
      rw [maxSyncResponseErrorBytes]
      omega
    have raised :
        responseError (some (eventsFrameError length).message) =
          .error (.protocol (eventsFrameError length).message) :=
      if_neg unknown
    rw [FailsBatch, exchanged]
    exact raised

include roundTrips isStore in
/-- The client of a server gets what a replica gets of another. -/
theorem fetchEventsBatched_served
    {eventIds : List EventId}
    (canonical : ∀ eventId ∈ eventIds, isCanonicalEventIdStr eventId.text = true)
    (deliverable : ServesDeliverable peer server eventIds) :
    fetchEventsBatched peer.primitives peer.serialization
        (fun request => (peer.exchange request server).1) eventIds =
      fetchFromReplica peer.serialization.json true server.store eventIds := by
  have all : (fetchBatches eventIds).flatten = deduplicateEventIds eventIds :=
    Chunked.flatten_chunks (by decide) _
  have distinct : (fetchBatches eventIds).flatten.Nodup := by
    rw [all]
    exact nodup_deduplicateEventIds eventIds
  have answered :
      ∀ batch,
        Requested peer.primitives peer.serialization
            (fun request => (peer.exchange request server).1) eventIds batch →
          fetchEventsOnce peer.primitives peer.serialization
                (fun request => (peer.exchange request server).1) batch =
              .ok (batch.filterMap (server.store.getServableEvent peer.serialization.json)) ∨
            Bisection.Splits
              (fetchEventsOnce peer.primitives peer.serialization
                fun request => (peer.exchange request server).1)
              responseErrorMayBeOversizedResponse batch := by
    intro batch requested
    apply fetchEventsOnce_served roundTrips isStore (wellFormed_of_requested canonical requested)
    intro eventId inBatch
    have inAll := requested.subset inBatch
    rw [all, mem_deduplicateEventIds] at inAll
    exact deliverable eventId inAll
  have answers :
      ∀ batch,
        Requested peer.primitives peer.serialization
            (fun request => (peer.exchange request server).1) eventIds batch →
          fetchEventsOnce peer.primitives peer.serialization
                (fun request => (peer.exchange request server).1) batch =
              .ok (batch.flatMap fun eventId =>
                (server.store.getServableEvent peer.serialization.json eventId).toList) ∨
            Bisection.Splits
                (fetchEventsOnce peer.primitives peer.serialization
                  fun request => (peer.exchange request server).1)
                responseErrorMayBeOversizedResponse batch ∨
              ∃ eventId error, batch = [eventId] ∧
                fetchEventsOnce peer.primitives peer.serialization
                    (fun request => (peer.exchange request server).1) [eventId] =
                  .error error := by
    intro batch requested
    rw [← List.filterMap_eq_flatMap_toList]
    exact (answered batch requested).imp_right Or.inl
  rcases Bisection.gathered_of_answers (fetchBatches eventIds) [] distinct answers with
    ⟨-, isOk⟩ | ⟨_, eventId, _, error, -, requested, -, refused, -⟩
  · rw [fetchEventsBatched, isOk, List.nil_append, all, ← List.filterMap_eq_flatMap_toList,
      fetchFromReplica, if_pos rfl]
  · rcases answered [eventId] requested with isOk | ⟨several, -⟩
    · rw [isOk] at refused
      cases refused
    · exact absurd several (by simp)

end Client

end Served

example : (deduplicateEventIds [signedHome.eventId, signedHome.eventId]).length = 1 := by
  decide +kernel

/-- What the server sends for the home workspace, evaluated at once. -/
theorem homeServer_facts :
    isCanonicalEventIdStr signedHome.eventId.text = true ∧
      (deduplicateEventIds [signedHome.eventId, signedHome.eventId]).filterMap
          (homeServer.store.getServableEvent homePeer.serialization.json) = [signedHome] ∧
        (eventsResponse [signedHome]).encodedLen homePeer.eventBodyToVec ≤ maxFrameLen := by
  decide +kernel

end Chaft

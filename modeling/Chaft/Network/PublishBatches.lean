import Chaft.Network.PublishEvents
import Chaft.Network.SyncFrames

/-!
# Batches of published events

A publisher sends its events in several requests, each with the whole proof.  The requests
are packed by the lengths of the fields; what is sent is the encoding of the requests.
-/

namespace Chaft

open Outcome Protobuf Batching

def maxEventUploadBatchBytes : Nat := maxFrameLen / 2

/-- The number of the request kind. -/
def publishEventsKind : Int32 := 3

def publishEventsRequestFromEnvelopes
    (eventEnvelopes authorizationEventEnvelopes : List WireEventEnvelope)
    (authorizationSnapshotEnvelopes : List WireSignedTrustSnapshot) : WireSyncRequest where
  kind := publishEventsKind
  eventIds := []
  events := []
  authorizationEvents := []
  authorizationSnapshots := []
  blobHashes := []
  blobs := []
  blobDescriptors := []
  workspaceId := none
  eventEnvelopes := eventEnvelopes
  authorizationEventEnvelopes := authorizationEventEnvelopes
  authorizationSnapshotEnvelopes := authorizationSnapshotEnvelopes
  inventoryStartIndex := none
  inventoryLimit := none

/-- A batch of events besides a proof of some length. -/
def publishLimits (proofBytes : Nat) : Limits where
  base := proofBytes
  maxCount := maxPublishEventsPerRequest
  room := maxEventUploadBatchBytes
  cap := 2 ^ 64 - 1

section Building

variable (eventBodyToVec : WireEventBody → List UInt8)

/-- The bytes that an event takes in a request. -/
def eventFieldBytes (envelope : WireEventEnvelope) : Nat :=
  messageFieldEncodedLen (envelope.encodedLen eventBodyToVec)

/-- An event has to fit a request of its own. -/
def checkSingleFrame (proofBytes : Nat) (envelope : WireEventEnvelope) : Except NetError Unit :=
  let singleFrameBytes := saturatingAddUsize proofBytes (eventFieldBytes eventBodyToVec envelope)
  ensure (singleFrameBytes ≤ maxFrameLen)
    (.protocol ("publish event frame length " ++ singleFrameBytes.repr ++ " exceeds max " ++
      maxFrameLen.repr))

/-- The loop over the events: the closed batches and the open one. -/
def packEvents (proofBytes : Nat) :
    Filling WireEventEnvelope → List WireEventEnvelope →
      Except NetError (List (List WireEventEnvelope) × Filling WireEventEnvelope)
  | batch, [] => .ok ([], batch)
  | batch, envelope :: rest => do
      let limits := publishLimits proofBytes
      let eventBytes := eventFieldBytes eventBodyToVec envelope
      checkSingleFrame eventBodyToVec proofBytes envelope
      let (batches, last) ←
        packEvents proofBytes (limits.push (limits.next batch eventBytes) envelope eventBytes) rest
      .ok (limits.closed batch eventBytes ++ batches, last)

def buildPublishEventEnvelopeRequests
    (eventEnvelopes authorizationEventEnvelopes : List WireEventEnvelope)
    (authorizationSnapshotEnvelopes : List WireSignedTrustSnapshot) :
    Except NetError (List WireSyncRequest) := do
  validateRequestItemCount "publish-events authorization event"
    authorizationEventEnvelopes.length maxAuthorizationEventsPerRequest
  validateRequestItemCount "publish-events authorization snapshot"
    authorizationSnapshotEnvelopes.length maxAuthorizationSnapshotsPerRequest
  let request := fun batch =>
    publishEventsRequestFromEnvelopes batch authorizationEventEnvelopes
      authorizationSnapshotEnvelopes
  let proofBytes := (encodeSyncRequest eventBodyToVec (request [])).length
  ensure (proofBytes ≤ maxFrameLen)
    (.protocol ("publish proof frame length " ++ proofBytes.repr ++ " exceeds max " ++
      maxFrameLen.repr))
  let (batches, last) ←
    packEvents eventBodyToVec proofBytes (publishLimits proofBytes).empty eventEnvelopes
  .ok ((batches ++ if last.items.isEmpty then [] else [last.items]).map request)

variable (primitives : Primitives)

def buildPublishEventsRequests
    (events authorizationEvents : List SignedEvent)
    (authorizationSnapshots : List SignedTrustSnapshot) :
    Except NetError (List WireSyncRequest) :=
  if events.isEmpty then
    .ok []
  else do
    validatePublishEventSetsUnique authorizationEvents events
    validateTrustSnapshotsUnique primitives authorizationSnapshots
    buildPublishEventEnvelopeRequests eventBodyToVec (events.map encodeEventEnvelope)
      (authorizationEvents.map encodeEventEnvelope)
      (authorizationSnapshots.map encodeTrustSnapshotEnvelope)

end Building

section Built

variable {eventBodyToVec : WireEventBody → List UInt8}

/-- The events add the lengths of their fields to the proof. -/
theorem length_encode_publishRequest
    (batch authorizationEvents : List WireEventEnvelope)
    (authorizationSnapshots : List WireSignedTrustSnapshot) :
    (encodeSyncRequest eventBodyToVec
        (publishEventsRequestFromEnvelopes batch authorizationEvents
          authorizationSnapshots)).length =
      (encodeSyncRequest eventBodyToVec
        (publishEventsRequestFromEnvelopes [] authorizationEvents
          authorizationSnapshots)).length +
        Limits.payload (eventFieldBytes eventBodyToVec) batch := by
  have added :
      encodedLength
          (repeatedField 10 (batch.map fun envelope => encode (envelope.fields eventBodyToVec))) =
        Limits.payload (eventFieldBytes eventBodyToVec) batch := by
    rw [encodedLength_repeatedField (by omega), List.map_map]
    rfl
  have none :
      encodedLength
          (repeatedField 10
            (([] : List WireEventEnvelope).map fun envelope =>
              encode (envelope.fields eventBodyToVec))) = 0 :=
    rfl
  simp only [encodeSyncRequest, length_encode, WireSyncRequest.fields, encodedLength_append,
    publishEventsRequestFromEnvelopes, added, none]
  omega

/-- The loop packs the events as the limits say, if each of them fits a request. -/
theorem packEvents_eq_ok_iff
    {proofBytes : Nat} (events : List WireEventEnvelope) (batch : Filling WireEventEnvelope)
    (packed : List (List WireEventEnvelope) × Filling WireEventEnvelope) :
    packEvents eventBodyToVec proofBytes batch events = .ok packed ↔
      (∀ envelope ∈ events, proofBytes + eventFieldBytes eventBodyToVec envelope ≤ maxFrameLen) ∧
        packed = (publishLimits proofBytes).fill (eventFieldBytes eventBodyToVec) batch events := by
  have fits (envelope : WireEventEnvelope) :
      checkSingleFrame eventBodyToVec proofBytes envelope = .ok () ↔
        proofBytes + eventFieldBytes eventBodyToVec envelope ≤ maxFrameLen := by
    rw [checkSingleFrame, ensure_eq_ok_iff, saturatingAddUsize]
    have small : maxFrameLen < 2 ^ 64 - 1 := by decide
    omega
  induction events generalizing batch packed with
  | nil => simp [packEvents, Limits.fill, eq_comm]
  | cons envelope rest inductionHypothesis =>
      simp only [packEvents, bind_eq_ok_iff, List.forall_mem_cons, Limits.fill]
      constructor
      · intro built
        obtain ⟨_, single, ⟨batches, last⟩, tail, isPacked⟩ := built
        obtain ⟨later, isTail⟩ := (inductionHypothesis _ _).mp tail
        refine ⟨⟨(fits envelope).mp single, later⟩, ?_⟩
        rw [← isTail]
        exact (Except.ok.inj isPacked).symm
      · intro built
        obtain ⟨⟨single, later⟩, rfl⟩ := built
        exact ⟨(), (fits envelope).mpr single, _, (inductionHypothesis _ _).mpr ⟨later, rfl⟩, rfl⟩

variable (eventBodyToVec) in
/-- A peer reads the frame of the request, and does not find too many items in it. -/
structure PassesCounts (request : WireSyncRequest) : Prop where
  framed :
    ∃ frame, writeFrame (encodeSyncRequest eventBodyToVec request) = .ok frame ∧
      ∀ rest, readFrame (frame ++ rest) = .ok (encodeSyncRequest eventBodyToVec request, rest)
  events :
    validateRequestItemCount "publish-events event"
      (request.eventEnvelopes.length + request.events.length) maxPublishEventsPerRequest = .ok ()
  authorizationEvents :
    validateRequestItemCount "publish-events authorization event"
      (request.authorizationEventEnvelopes.length + request.authorizationEvents.length)
      maxAuthorizationEventsPerRequest = .ok ()
  authorizationSnapshots :
    validateRequestItemCount "publish-events authorization snapshot"
      (request.authorizationSnapshotEnvelopes.length + request.authorizationSnapshots.length)
      maxAuthorizationSnapshotsPerRequest = .ok ()

/-- What a batch of events is sent in. -/
structure CarriesBatch
    (eventBodyToVec : WireEventBody → List UInt8) (authorizationEvents : List WireEventEnvelope)
    (authorizationSnapshots : List WireSignedTrustSnapshot) (request : WireSyncRequest) :
    Prop where
  proofEvents : request.authorizationEventEnvelopes = authorizationEvents
  proofSnapshots : request.authorizationSnapshotEnvelopes = authorizationSnapshots
  nonempty : 1 ≤ request.eventEnvelopes.length
  count : request.eventEnvelopes.length ≤ maxPublishEventsPerRequest
  length : (encodeSyncRequest eventBodyToVec request).length ≤ maxFrameLen
  passes : PassesCounts eventBodyToVec request

/-- Every request is packed from the batches, in the order of the events. -/
theorem buildPublishEventEnvelopeRequests_packs
    {events authorizationEvents : List WireEventEnvelope}
    {authorizationSnapshots : List WireSignedTrustSnapshot} {requests : List WireSyncRequest}
    (built :
      buildPublishEventEnvelopeRequests eventBodyToVec events authorizationEvents
        authorizationSnapshots = .ok requests) :
    requests.flatMap WireSyncRequest.eventEnvelopes = events ∧
      ∀ request ∈ requests,
        CarriesBatch eventBodyToVec authorizationEvents authorizationSnapshots request := by
  simp only [buildPublishEventEnvelopeRequests, bind_eq_ok_iff, Except.ok.injEq] at built
  obtain ⟨_, eventCount, _, snapshotCount, _, -, packed, isPacked, isRequests⟩ := built
  rw [packEvents_eq_ok_iff] at isPacked
  obtain ⟨single, rfl⟩ := isPacked
  have lengths := @length_encode_publishRequest eventBodyToVec
  have machine : maxFrameLen < 2 ^ 64 - 1 := by decide
  have oneFits : 0 < maxPublishEventsPerRequest := by decide
  generalize proof : (encodeSyncRequest eventBodyToVec
    (publishEventsRequestFromEnvelopes [] authorizationEvents authorizationSnapshots)).length =
      proofBytes at single isRequests
  obtain ⟨inOrder, batchesFit, counts⟩ :=
    @Limits.fill_spec _ (publishLimits proofBytes) (eventFieldBytes eventBodyToVec) maxFrameLen
      (Nat.div_le_self maxFrameLen 2) machine oneFits events single
      (publishLimits proofBytes).empty Limits.counts_empty
  generalize (publishLimits proofBytes).fill (eventFieldBytes eventBodyToVec)
    (publishLimits proofBytes).empty events = filled at inOrder batchesFit counts isRequests
  obtain ⟨batches, last⟩ := filled
  dsimp only at inOrder batchesFit counts isRequests
  have sent :
      (batches ++ if last.items.isEmpty then [] else [last.items]).flatten = events := by
    rw [List.flatten_append]
    refine Eq.trans ?_ inOrder
    by_cases isEmpty : last.items = [] <;> simp [isEmpty]
  have allFit :
      ∀ batch ∈ batches ++ (if last.items.isEmpty then [] else [last.items]),
        (publishLimits proofBytes).Fits (eventFieldBytes eventBodyToVec) maxFrameLen batch := by
    intro batch member
    rcases List.mem_append.mp member with isClosed | isLast
    · exact batchesFit batch isClosed
    · by_cases isEmpty : last.items = []
      · simp [isEmpty] at isLast
      · rw [if_neg (by simpa using isEmpty), List.mem_singleton] at isLast
        rw [isLast]
        exact counts.fits isEmpty
  rw [← isRequests]
  constructor
  · rw [List.flatMap_map]
    exact List.flatMap_id.trans sent
  · intro request member
    obtain ⟨batch, inBatches, rfl⟩ := List.mem_map.mp member
    have fits := allFit batch inBatches
    have short :
        (encodeSyncRequest eventBodyToVec
          (publishEventsRequestFromEnvelopes batch authorizationEvents
            authorizationSnapshots)).length ≤ maxFrameLen := by
      rw [lengths, proof]
      exact fits.bytes
    exact
      { proofEvents := rfl
        proofSnapshots := rfl
        nonempty := List.length_pos_iff.mpr fits.nonempty
        count := fits.count
        length := short
        passes :=
          { framed := readFrame_writeFrame short
            events := (ensure_eq_ok_iff _ _ ()).mpr fits.count
            authorizationEvents := eventCount
            authorizationSnapshots := snapshotCount } }

end Built

end Chaft

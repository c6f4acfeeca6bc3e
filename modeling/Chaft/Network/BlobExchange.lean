import Chaft.Library.Batching
import Chaft.Library.Gathering
import Chaft.Network.BlobUploads
import Chaft.Network.FetchEvents
import Chaft.Network.JoinResponses

/-!
# Exchanging blobs

A client fetches blobs from a peer and uploads them to it, whole or in chunks.  What it asks
for in one request can be answered in several, and what it gets is checked against the hashes
it asked for.  The peer answers from its blob store.
-/

namespace Chaft

open Outcome Keyed Batching Effects Effects.Effect

def maxWholeBlobUploadBatchBytes : Nat := maxFrameLen / 2
def maxChunkUploadBatchBytes : Nat := maxFrameLen / 2
def maxFetchBlobHashesPerRequest : Nat := 128

/-! The numbers of the request kinds. -/

def putBlobsKind : Int32 := 4
def fetchBlobsKind : Int32 := 5
def fetchBlobAvailabilityKind : Int32 := 6

/-! ## Messages -/

def descriptorToWire (descriptor : BlobDescriptor) : WireBlobDescriptor where
  hash := descriptor.hash
  byteLen := descriptor.byteLen
  chunkSize := descriptor.chunkSize
  chunkHashes := descriptor.chunkHashes

def availabilityToWire (availability : BlobAvailability) : WireBlobAvailability where
  hash := availability.hash
  hasWholeBlob := availability.hasWholeBlob
  descriptor := availability.descriptor.map descriptorToWire
  availableChunkHashes := availability.availableChunkHashes
  missingChunkHashes := availability.missingChunkHashes

def validateWireBlobAvailabilityHashes (availability : WireBlobAvailability) :
    Except NetError Unit := do
  validateCanonicalWireBlobHash "blob availability" availability.hash
  checkAll validateWireBlobDescriptorHashes availability.descriptor.toList
  checkAll (validateCanonicalWireBlobHash "blob availability available chunk")
    availability.availableChunkHashes
  checkAll (validateCanonicalWireBlobHash "blob availability missing chunk")
    availability.missingChunkHashes

def wireToAvailability (availability : WireBlobAvailability) : Except NetError BlobAvailability := do
  validateWireBlobAvailabilityHashes availability
  let descriptor ←
    match availability.descriptor with
    | some descriptor => (wireToDescriptor descriptor).map some
    | none => .ok none
  .ok
    { hash := availability.hash
      hasWholeBlob := availability.hasWholeBlob
      descriptor := descriptor
      availableChunkHashes := availability.availableChunkHashes
      missingChunkHashes := availability.missingChunkHashes }

/-- A request with nothing in it but its kind. -/
def blobRequest (kind : Int32) : WireSyncRequest where
  kind := kind
  eventIds := []
  events := []
  authorizationEvents := []
  authorizationSnapshots := []
  blobHashes := []
  blobs := []
  blobDescriptors := []
  workspaceId := none
  eventEnvelopes := []
  authorizationEventEnvelopes := []
  authorizationSnapshotEnvelopes := []
  inventoryStartIndex := none
  inventoryLimit := none

def fetchBlobsRequest (hashes : List String) : WireSyncRequest :=
  { blobRequest fetchBlobsKind with blobHashes := hashes }

def fetchBlobAvailabilityRequest (hashes : List String) : WireSyncRequest :=
  { blobRequest fetchBlobAvailabilityKind with blobHashes := hashes }

def putBlobEnvelopesRequest (blobs : List WireBlobEnvelope) : WireSyncRequest :=
  { blobRequest putBlobsKind with blobs := blobs }

def putBlobChunksRequest
    (descriptor : BlobDescriptor) (blobs : List WireBlobEnvelope) : WireSyncRequest :=
  { blobRequest putBlobsKind with
    blobs := blobs
    blobDescriptors := [descriptorToWire descriptor] }

def validateRequestBlobHashes (hashes : List String) : Except NetError Unit :=
  checkAll
    (fun (hash : String) =>
      ensure (isCanonicalWireBlobHash hash = true)
        (.protocol "peer requested non-canonical blob hash"))
    hashes

/-! ## The peer -/

section Peer

variable (blake3Hex : Bytes → String) (fromSlice : Bytes → Option BlobDescriptor)
variable (eventBodyToVec : WireEventBody → List UInt8)

/-- The checks of a request for blobs or their availability. -/
def validateBlobHashesRequest (context : String) (request : WireSyncRequest) :
    Except NetError Unit := do
  validateRequestShape request context { AllowedRequestFields.empty with blobHashes := true }
  validateRequestItemCount (context ++ " blob hash") request.blobHashes.length
    maxFetchBlobHashesPerRequest
  validateRequestItemsUnique (context ++ " blob hash") request.blobHashes
  validateRequestBlobHashes request.blobHashes

/-- A response that fits a frame. -/
def framedResponse (context : String) (response : WireSyncResponse) :
    Except NetError WireSyncResponse := do
  validateSyncResponseFrameLen eventBodyToVec context response
  .ok response

/-- The response with one more entry, if there is one. -/
def addToResponse
    {α : Type} (context : String) (add : WireSyncResponse → α → WireSyncResponse)
    (found : Except MediaError (Option α)) (response : WireSyncResponse) :
    Except NetError WireSyncResponse := do
  match ← found.mapError MediaError.toProtocol with
  | some entry => framedResponse eventBodyToVec context (add response entry)
  | none => .ok response

def addAvailability (response : WireSyncResponse) (availability : BlobAvailability) :
    WireSyncResponse :=
  { response with
    blobAvailability := response.blobAvailability ++ [availabilityToWire availability] }

def addBlob (hash : String) (response : WireSyncResponse) (bytes : Bytes) : WireSyncResponse :=
  { response with blobs := response.blobs ++ [⟨hash, bytes⟩] }

def addDescriptor (response : WireSyncResponse) (descriptor : BlobDescriptor) : WireSyncResponse :=
  { response with blobDescriptors := response.blobDescriptors ++ [descriptorToWire descriptor] }

/-- A whole blob, or else a chunk. -/
def BlobStore.getBlobOrChunk (store : BlobStore) (hash : String) :
    Except MediaError (Option Bytes) := do
  match ← store.getBytes blake3Hex hash with
  | some bytes => .ok (some bytes)
  | none => store.getChunk blake3Hex hash

/-- What the store has under a hash, put to the response. -/
def respondWithBlob (store : BlobStore) (response : WireSyncResponse) (hash : String) :
    Except NetError WireSyncResponse := do
  let response ←
    addToResponse eventBodyToVec "fetch-blobs" addAvailability (store.availability fromSlice hash)
      response
  let response ←
    addToResponse eventBodyToVec "fetch-blobs" (addBlob hash)
      (store.getBlobOrChunk blake3Hex hash) response
  addToResponse eventBodyToVec "fetch-blobs" addDescriptor (store.getManifest fromSlice hash)
    response

/-- The answer to a request of the kind `FetchBlobs`. -/
def handleFetchBlobs
    (hasBlobStore : Bool) (request : WireSyncRequest) (store : BlobStore) :
    Except NetError WireSyncResponse := do
  validateBlobHashesRequest "fetch-blobs" request
  ensure (hasBlobStore = true) (.protocol "blob store unavailable")
  request.blobHashes.foldlM (respondWithBlob blake3Hex fromSlice eventBodyToVec store)
    emptySyncResponse

def respondWithAvailability (store : BlobStore) (response : WireSyncResponse) (hash : String) :
    Except NetError WireSyncResponse :=
  addToResponse eventBodyToVec "fetch-blob-availability" addAvailability
    (store.availability fromSlice hash) response

/-- The answer to a request of the kind `FetchBlobAvailability`. -/
def handleFetchBlobAvailability
    (hasBlobStore : Bool) (request : WireSyncRequest) (store : BlobStore) :
    Except NetError WireSyncResponse := do
  validateBlobHashesRequest "fetch-blob-availability" request
  ensure (hasBlobStore = true) (.protocol "blob store unavailable")
  request.blobHashes.foldlM (respondWithAvailability fromSlice eventBodyToVec store)
    emptySyncResponse

end Peer

/-! ## Checks of the client -/

section Checks

def validateRequestedBlobHash (kind hash : String) (requested : List String) :
    Except NetError Unit := do
  ensure (isCanonicalWireBlobHash hash = true)
    (.protocol ("peer returned non-canonical " ++ kind ++ " hash"))
  ensure (hash ∈ requested) (.protocol ("peer returned unrequested " ++ kind ++ " " ++ hash))

def validateUniqueResponseBlobHash (kind hash : String) (seen : List String) :
    Except NetError Unit :=
  ensure (hash ∉ seen) (.protocol ("peer returned duplicate " ++ kind ++ " " ++ hash))

/-- The entries of a response, each against those before it. -/
def checkResponseEntries
    {α : Type} (kind : String) (hashOf : α → String) (check : α → Except NetError Unit)
    (requested : List String) : List String → List α → Except NetError Unit
  | _, [] => .ok ()
  | seen, entry :: rest => do
      validateRequestedBlobHash kind (hashOf entry) requested
      validateUniqueResponseBlobHash kind (hashOf entry) seen
      check entry
      checkResponseEntries kind hashOf check requested (hashOf entry :: seen) rest

def checkFetchedBlob (blake3Hex : Bytes → String) (blob : WireBlobEnvelope) :
    Except NetError Unit :=
  let actual := blake3Hex blob.bytes
  ensure (actual = blob.hash)
    (.protocol ("fetched blob hash mismatch: expected " ++ blob.hash ++ ", actual " ++ actual))

def checkFetchedDescriptor (descriptor : WireBlobDescriptor) : Except NetError Unit := do
  let descriptor ← wireToDescriptor descriptor
  (validateBlobDescriptor descriptor).mapError MediaError.toProtocol

def checkFetchedAvailability (availability : WireBlobAvailability) : Except NetError Unit := do
  let availability ← wireToAvailability availability
  (validateBlobAvailability availability).mapError MediaError.toProtocol

def validateFetchBlobsResponse
    (blake3Hex : Bytes → String) (requested : List String) (response : WireSyncResponse) :
    Except NetError Unit := do
  validateResponseShape response "unexpected fetch-blobs"
    { AllowedResponseFields.empty with
      blobs := true
      blobDescriptors := true
      blobAvailability := true }
  validateResponseItemCount "fetch-blobs blob" response.blobs.length requested.length
  validateResponseItemCount "fetch-blobs descriptor" response.blobDescriptors.length
    requested.length
  validateResponseItemCount "fetch-blobs availability" response.blobAvailability.length
    requested.length
  checkResponseEntries "blob" WireBlobEnvelope.hash (checkFetchedBlob blake3Hex) requested []
    response.blobs
  checkResponseEntries "blob descriptor" WireBlobDescriptor.hash checkFetchedDescriptor requested
    [] response.blobDescriptors
  checkResponseEntries "blob availability" WireBlobAvailability.hash checkFetchedAvailability
    requested [] response.blobAvailability

def validateFetchBlobAvailabilityResponse
    (requested : List String) (response : WireSyncResponse) : Except NetError Unit := do
  validateResponseShape response "unexpected fetch-blob-availability"
    { AllowedResponseFields.empty with blobAvailability := true }
  validateResponseItemCount "fetch-blob-availability availability"
    response.blobAvailability.length requested.length
  checkResponseEntries "blob availability" WireBlobAvailability.hash checkFetchedAvailability
    requested [] response.blobAvailability

def validateEmptyAckResponse (response : WireSyncResponse) : Except NetError Unit :=
  validateResponseShape response "non-empty ack" AllowedResponseFields.empty

end Checks

/-! ## Fetching -/

section Fetching

variable {σ : Type} (blake3Hex : Bytes → String)
variable (exchange : WireSyncRequest → Effect σ NetError WireSyncResponse)

/-- The response to a request, without the error that it can have. -/
def requestPeer (request : WireSyncRequest) : Effect σ NetError WireSyncResponse := do
  let response ← exchange request
  lift (responseError response.error)
  pure { response with error := none }

/-- The checked response to a batch of hashes. -/
def blobResponseOnce
    (makeRequest : List String → WireSyncRequest)
    (validate : List String → WireSyncResponse → Except NetError Unit) (hashes : List String) :
    Effect σ NetError WireSyncResponse :=
  if hashes.isEmpty then
    pure emptySyncResponse
  else do
    lift (validateRequestBlobHashes hashes)
    let response ← requestPeer exchange (makeRequest hashes)
    lift (validate hashes.eraseDups response)
    pure response

def fetchBlobsResponseOnce (hashes : List String) : Effect σ NetError WireSyncResponse :=
  blobResponseOnce exchange fetchBlobsRequest (validateFetchBlobsResponse blake3Hex) hashes

def fetchBlobAvailabilityResponseOnce (hashes : List String) :
    Effect σ NetError WireSyncResponse :=
  blobResponseOnce exchange fetchBlobAvailabilityRequest validateFetchBlobAvailabilityResponse
    hashes

/-- A batch whose response is too large is asked for in halves. -/
def blobResponsesBatched
    (once : List String → Effect σ NetError WireSyncResponse) (hashes : List String) :
    Effect σ NetError (List WireSyncResponse) :=
  Bisection.gatherFrom (fun batch => do let response ← once batch; pure [response])
    responseErrorMayBeOversizedResponse
    (Chunked.chunks maxFetchBlobHashesPerRequest hashes.eraseDups) []

def fetchBlobsResponsesBatched (hashes : List String) :
    Effect σ NetError (List WireSyncResponse) :=
  blobResponsesBatched (fetchBlobsResponseOnce blake3Hex exchange) hashes

def fetchBlobAvailabilityResponsesBatched (hashes : List String) :
    Effect σ NetError (List WireSyncResponse) :=
  blobResponsesBatched (fetchBlobAvailabilityResponseOnce exchange) hashes

def fetchBlobs (hashes : List String) : Effect σ NetError (HashMap String Bytes) :=
  if hashes.isEmpty then
    pure ∅
  else do
    let responses ← fetchBlobsResponsesBatched blake3Hex exchange hashes
    pure (tableOf WireBlobEnvelope.hash WireBlobEnvelope.bytes ∅
      (responses.flatMap WireSyncResponse.blobs))

def fetchBlob (hash : String) : Effect σ NetError (Option Bytes) := do
  let blobs ← fetchBlobs blake3Hex exchange [hash]
  pure blobs[hash]?

def fetchBlobAvailabilities (hashes : List String) :
    Effect σ NetError (HashMap String BlobAvailability) :=
  if hashes.isEmpty then
    pure ∅
  else do
    let responses ← fetchBlobAvailabilityResponsesBatched exchange hashes
    let availabilities ←
      lift ((responses.flatMap WireSyncResponse.blobAvailability).mapM wireToAvailability)
    pure (tableOf BlobAvailability.hash id ∅ availabilities)

def fetchBlobAvailability (hash : String) : Effect σ NetError (Option BlobAvailability) := do
  let availabilities ← fetchBlobAvailabilities exchange [hash]
  pure availabilities[hash]?

/-- The chunks from `chunkIndex` on, put behind the bytes before. -/
def reassembleChunks (descriptor : BlobDescriptor) (chunks : HashMap String Bytes) :
    Nat → List String → Bytes → Except NetError (Option Bytes)
  | _, [], bytes => .ok (some bytes)
  | chunkIndex, chunkHash :: rest, bytes =>
      match chunks[chunkHash]? with
      | none => .ok none
      | some chunk => do
          (validateChunkPayload blake3Hex descriptor chunkIndex chunk).mapError
            MediaError.toProtocol
          reassembleChunks descriptor chunks (chunkIndex + 1) rest (bytes ++ chunk)

/-- The chunks of a descriptor are fetched and put together. -/
def fetchDescribedBlob (descriptor : BlobDescriptor) : Effect σ NetError (Option Bytes) := do
  let chunkHashes := (Std.ExtTreeSet.ofList descriptor.chunkHashes compare).toList
  let chunks ← fetchBlobs blake3Hex exchange chunkHashes
  match ← lift (reassembleChunks blake3Hex descriptor chunks 0 descriptor.chunkHashes []) with
  | none => pure none
  | some bytes => do
      lift ((validateReassembledBlob blake3Hex descriptor bytes).mapError MediaError.toProtocol)
      pure (some bytes)

def fetchBlobChunked (hash : String) : Effect σ NetError (Option Bytes) := do
  lift (validateRequestBlobHashes [hash])
  let manifestResponse ← requestPeer exchange (fetchBlobsRequest [hash])
  lift (validateFetchBlobsResponse blake3Hex [hash] manifestResponse)
  match manifestResponse.blobs.find? fun blob => decide (blob.hash = hash) with
  | some blob => pure (some blob.bytes)
  | none =>
      match manifestResponse.blobDescriptors.find?
          fun descriptor => decide (descriptor.hash = hash) with
      | none => pure none
      | some descriptor => do
          let descriptor ← lift (wireToDescriptor descriptor)
          fetchDescribedBlob blake3Hex exchange descriptor

end Fetching

/-! ## Uploading -/

section Uploading

variable {σ : Type} (blake3Hex : Bytes → String) (eventBodyToVec : WireEventBody → List UInt8)
variable (exchange : WireSyncRequest → Effect σ NetError WireSyncResponse)

/-- The bytes that an envelope takes in a request. -/
def blobFieldBytes (blob : WireBlobEnvelope) : Nat :=
  messageFieldEncodedLen (Protobuf.encode blob.fields).length

/-- An upload that is acknowledged. -/
def sendUpload (request : WireSyncRequest) : Effect σ NetError Unit := do
  let response ← requestPeer exchange request
  lift (validateEmptyAckResponse response)

/-- A batch is sent if there is something in it. -/
def sendBatch (makeRequest : List WireBlobEnvelope → WireSyncRequest)
    (batch : List WireBlobEnvelope) : Effect σ NetError Unit :=
  if batch.isEmpty then pure () else sendUpload exchange (makeRequest batch)

/-- An envelope is put to the open batch, which is sent first if there is no room. -/
def packUpload
    (makeRequest : List WireBlobEnvelope → WireSyncRequest) (limits : Limits)
    (batch : Filling WireBlobEnvelope) (blob : WireBlobEnvelope) :
    Effect σ NetError (Filling WireBlobEnvelope) := do
  let blobBytes := blobFieldBytes blob
  sendBatch exchange makeRequest (limits.closed batch blobBytes).flatten
  pure (limits.push (limits.next batch blobBytes) blob blobBytes)

/-- Batches of uploads besides a part that every request has. -/
def uploadLimits (baseBytes room : Nat) : Limits where
  base := baseBytes
  maxCount := maxBlobUploadEnvelopesPerRequest
  room := room
  cap := 2 ^ 64 - 1

/-- The envelopes of the blobs, each hash once. -/
def wholeBlobUploadEnvelopes : List String → List Bytes → List WireBlobEnvelope
  | _, [] => []
  | seen, bytes :: rest =>
      let hash := blake3Hex bytes
      if hash ∈ seen then
        wholeBlobUploadEnvelopes seen rest
      else
        ⟨hash, bytes⟩ :: wholeBlobUploadEnvelopes (hash :: seen) rest

/-- The loop over the envelopes. -/
def packBlobEnvelopes (baseBytes : Nat) :
    Filling WireBlobEnvelope → List WireBlobEnvelope →
      Effect σ NetError (Filling WireBlobEnvelope)
  | batch, [] => pure batch
  | batch, blob :: rest => do
      let singleFrameBytes := saturatingAddUsize baseBytes (blobFieldBytes blob)
      lift (ensure (singleFrameBytes ≤ maxFrameLen)
        (.protocol ("blob upload frame length " ++ singleFrameBytes.repr ++ " exceeds max " ++
          maxFrameLen.repr)))
      let batch ←
        packUpload exchange putBlobEnvelopesRequest
          (uploadLimits baseBytes maxWholeBlobUploadBatchBytes) batch blob
      packBlobEnvelopes baseBytes batch rest

def putBlobEnvelopesBatched (blobs : List WireBlobEnvelope) : Effect σ NetError Unit := do
  let baseBytes := (encodeSyncRequest eventBodyToVec (putBlobEnvelopesRequest [])).length
  let last ←
    packBlobEnvelopes exchange baseBytes
      (uploadLimits baseBytes maxWholeBlobUploadBatchBytes).empty blobs
  sendBatch exchange putBlobEnvelopesRequest last.items

def putBlobs (blobs : List Bytes) : Effect σ NetError (List String) :=
  if blobs.isEmpty then
    pure []
  else do
    let envelopes := wholeBlobUploadEnvelopes blake3Hex [] blobs
    putBlobEnvelopesBatched eventBodyToVec exchange envelopes
    pure (envelopes.map WireBlobEnvelope.hash)

/-- The chunks of a blob, each with the hash that the descriptor has for it. -/
def describedChunks (descriptor : BlobDescriptor) (bytes : Bytes) : List (String × Bytes) :=
  descriptor.chunkHashes.zip (Chunked.chunks descriptor.chunkSize.toNat bytes)

def chunkUploadTooLong (frameLen : Nat) : NetError :=
  .protocol ("chunk upload frame length " ++ frameLen.repr ++ " exceeds max " ++ maxFrameLen.repr)

def validateChunkUploadSingleFrameLengths
    (descriptor : BlobDescriptor) (bytes : Bytes) : Except NetError Unit := do
  let baseBytes := (encodeSyncRequest eventBodyToVec (putBlobChunksRequest descriptor [])).length
  ensure (baseBytes ≤ maxFrameLen) (chunkUploadTooLong baseBytes)
  checkAll
    (fun (chunk : String × Bytes) =>
      let frameLen := saturatingAddUsize baseBytes (blobFieldBytes ⟨chunk.1, chunk.2⟩)
      ensure (frameLen ≤ maxFrameLen) (chunkUploadTooLong frameLen))
    (describedChunks descriptor bytes)

/-- The loop over the chunks, with the hashes that are already planned. -/
def packChunks (descriptor : BlobDescriptor) (limits : Limits) (available : List String) :
    List String → Filling WireBlobEnvelope → List (String × Bytes) →
      Effect σ NetError (Filling WireBlobEnvelope)
  | _, batch, [] => pure batch
  | planned, batch, (chunkHash, chunk) :: rest =>
      if chunkHash ∈ available ∨ chunkHash ∈ planned then
        packChunks descriptor limits available planned batch rest
      else do
        lift (ensure (blake3Hex chunk = chunkHash)
          (.protocol "chunked blob descriptor hash mismatch"))
        let batch ←
          packUpload exchange (putBlobChunksRequest descriptor) limits batch ⟨chunkHash, chunk⟩
        packChunks descriptor limits available (chunkHash :: planned) batch rest

/-- The chunks that the peer has of this very descriptor. -/
def availableChunks (descriptor : BlobDescriptor) (availability : Option BlobAvailability) :
    List String :=
  ((availability.filter fun availability =>
      decide (availability.descriptor = some descriptor)).map
    BlobAvailability.availableChunkHashes).getD []

/-- The chunks that the peer does not have are sent. -/
def sendMissingChunks
    (descriptor : BlobDescriptor) (bytes : Bytes) (available : List String) :
    Effect σ NetError Unit := do
  let baseBytes := (encodeSyncRequest eventBodyToVec (putBlobChunksRequest descriptor [])).length
  let limits := uploadLimits baseBytes maxChunkUploadBatchBytes
  let last ←
    packChunks blake3Hex exchange descriptor limits available [] limits.empty
      (describedChunks descriptor bytes)
  sendBatch exchange (putBlobChunksRequest descriptor) last.items

def putBlobChunked (bytes : Bytes) (chunkSize : UInt64) : Effect σ NetError BlobDescriptor := do
  let descriptor := describeBlob blake3Hex bytes chunkSize
  lift ((validateBlobDescriptor descriptor).mapError MediaError.toProtocol)
  lift (validateChunkUploadSingleFrameLengths eventBodyToVec descriptor bytes)
  sendUpload exchange (putBlobChunksRequest descriptor [])
  let availability ← fetchBlobAvailability exchange descriptor.hash
  if availability.any BlobAvailability.hasWholeBlob then
    pure descriptor
  else do
    sendMissingChunks blake3Hex eventBodyToVec exchange descriptor bytes
      (availableChunks descriptor availability)
    pure descriptor

end Uploading

end Chaft

import Chaft.Library.TextParts
import Chaft.Network.BlobExchange

/-!
# Frames of a blob client

Whatever a peer answers, every request that a client makes to fetch or to upload blobs fits a
frame and has no more items than a peer takes.
-/

namespace Chaft

open Outcome Batching Protobuf Effects Effects.Effect

/-! ## Lengths -/

theorem utf8Size_of_isLowerHexDigit {symbol : Char} (isDigit : isLowerHexDigit symbol = true) :
    symbol.utf8Size = 1 := by
  simp only [isLowerHexDigit, Bool.or_eq_true, Bool.and_eq_true, decide_eq_true_eq, Char.le_def,
    UInt32.le_iff_toNat_le] at isDigit
  refine Char.utf8Size_eq_one_iff.mpr ?_
  rw [UInt32.le_iff_toNat_le]
  simp only [Char.reduceVal, UInt32.reduceToNat] at isDigit ⊢
  omega

theorem length_textBytes_of_isBlobHash {hash : String} (isHash : isBlobHash hash = true) :
    (textBytes hash).length = 64 := by
  simp only [isBlobHash, Bool.and_eq_true, decide_eq_true_eq, List.all_eq_true] at isHash
  obtain ⟨count, digits⟩ := isHash
  have narrow : ∀ symbol ∈ hash.toList, symbol.utf8Size = 1 :=
    fun symbol member => utf8Size_of_isLowerHexDigit (digits symbol member)
  have bytes := Text.utf8ByteSize_ofList narrow
  rwa [String.ofList_toList, count, ← length_textBytes] at bytes

section Lengths

variable {eventBodyToVec : WireEventBody → List UInt8}

theorem encodedLength_enumField_le {tag : Nat} (small : tag < 16) (kind : Int32) :
    encodedLength (enumField tag kind) ≤ 11 := by
  rw [enumField]
  generalize kind.toInt64.toUInt64 = value
  rw [numberField]
  by_cases isZero : value.toNat = 0
  · rw [if_pos isZero]
    exact Nat.zero_le 11
  · have key : varintLength (tag * 8) ≤ 1 := @varintLength_le _ 0 (by omega)
    have bits := value.toNat_lt
    have groups : varintLength value.toNat ≤ 10 := @varintLength_le _ 9 (by omega)
    have length :
        encodedLength [⟨tag, .number value.toNat⟩] =
          varintLength (tag * 8) + varintLength value.toNat + 0 :=
      rfl
    rw [if_neg isZero]
    omega

/-- The blobs of a request add the lengths of their fields to the rest of it. -/
theorem length_encode_blobs (request : WireSyncRequest) (blobs : List WireBlobEnvelope) :
    (encodeSyncRequest eventBodyToVec { request with blobs := blobs }).length =
      (encodeSyncRequest eventBodyToVec { request with blobs := [] }).length +
        Limits.payload blobFieldBytes blobs := by
  have added :
      encodedLength (repeatedField 6 (blobs.map fun blob => encode blob.fields)) =
        Limits.payload blobFieldBytes blobs := by
    rw [encodedLength_repeatedField (by omega), List.map_map]
    rfl
  have none :
      encodedLength
        (repeatedField 6 (([] : List WireBlobEnvelope).map fun blob => encode blob.fields)) = 0 :=
    rfl
  simp only [encodeSyncRequest, length_encode, WireSyncRequest.fields, encodedLength_append,
    added, none]
  omega

end Lengths

/-! ## Requests -/

section Requests

variable (eventBodyToVec : WireEventBody → List UInt8)

/-- A request that can be sent. -/
structure Sendable (request : WireSyncRequest) : Prop where
  frame : (encodeSyncRequest eventBodyToVec request).length ≤ maxFrameLen
  blobs : request.blobs.length ≤ maxBlobUploadEnvelopesPerRequest
  hashes : request.blobHashes.length ≤ maxFetchBlobHashesPerRequest

variable {eventBodyToVec}

theorem sendable_of_hashes
    {kind : Int32} {hashes : List String} (few : hashes.length ≤ maxFetchBlobHashesPerRequest)
    (areHashes : ∀ hash ∈ hashes, isBlobHash hash = true) :
    Sendable eventBodyToVec { blobRequest kind with blobHashes := hashes } where
  frame := by
    have names :=
      @encodedLength_repeatedField_le 5 (by omega) (hashes.map textBytes) 64 0
        (by
          intro content member
          obtain ⟨hash, listed, isContent⟩ := List.mem_map.mp member
          rw [← isContent]
          exact Nat.le_of_eq (length_textBytes_of_isBlobHash (areHashes hash listed)))
        (by omega)
    have isKind := @encodedLength_enumField_le 1 (by omega) kind
    have nothing (tag : Nat) : encodedLength (repeatedField tag []) = 0 := rfl
    have noText (tag : Nat) : encodedLength (optionalField tag none) = 0 := rfl
    have noNumber (tag : Nat) : encodedLength (optionalNumberField tag none) = 0 := rfl
    rw [List.length_map] at names
    rw [maxFetchBlobHashesPerRequest] at few
    simp only [encodeSyncRequest, length_encode, WireSyncRequest.fields, blobRequest,
      encodedLength_append, List.map_nil, Option.map_none, nothing, noText, noNumber, maxFrameLen]
    omega
  blobs := Nat.zero_le _
  hashes := few

/-- A batch of uploads that fits its limits. -/
theorem sendable_of_fits
    {request : WireSyncRequest} (noHashes : request.blobHashes = [])
    {limits : Limits} {blobs : List WireBlobEnvelope}
    (fits : limits.Fits blobFieldBytes maxFrameLen blobs)
    (base :
      limits.base =
        (encodeSyncRequest eventBodyToVec { request with blobs := [] }).length)
    (maxCount : limits.maxCount = maxBlobUploadEnvelopesPerRequest) :
    Sendable eventBodyToVec { request with blobs := blobs } := by
  have length := @length_encode_blobs eventBodyToVec request blobs
  have bytes := fits.bytes
  have count := fits.count
  rw [base, ← length] at bytes
  rw [maxCount] at count
  have few : request.blobHashes.length ≤ maxFetchBlobHashesPerRequest := by
    rw [noHashes]
    exact Nat.zero_le _
  exact ⟨bytes, count, few⟩

end Requests

/-! ## Recorded requests -/

/-- An exchange that keeps a list of the requests. -/
def recorded
    {σ : Type} (exchange : WireSyncRequest → Effect σ NetError WireSyncResponse)
    (request : WireSyncRequest) : Effect (σ × List WireSyncRequest) NetError WireSyncResponse :=
  fun state =>
    ((exchange request state.1).1, ((exchange request state.1).2, state.2 ++ [request]))

section Recorded

variable {σ : Type} {blake3Hex : Bytes → String} {eventBodyToVec : WireEventBody → List UInt8}
variable {exchange : WireSyncRequest → Effect σ NetError WireSyncResponse}

variable (eventBodyToVec) in
/-- The recorded requests can be sent. -/
def AllSendable (state : σ × List WireSyncRequest) : Prop :=
  ∀ request ∈ state.2, Sendable eventBodyToVec request

theorem preserves_requestPeer
    {request : WireSyncRequest} (sendable : Sendable eventBodyToVec request) :
    Preserves (AllSendable eventBodyToVec) (requestPeer (recorded exchange) request) := by
  apply preserves_bind
  · constructor
    intro state all earlier member
    rcases List.mem_append.mp member with before | isLast
    · exact all earlier before
    · rw [List.mem_singleton.mp isLast]
      exact sendable
  · intro _ _ _ _
    apply preserves_bind (preserves_lift _)
    intro _ _ _ _
    exact preserves_pure _

/-! Fetching -/

theorem preserves_blobResponseOnce
    {kind : Int32} {validate : List String → WireSyncResponse → Except NetError Unit}
    {hashes : List String} (few : hashes.length ≤ maxFetchBlobHashesPerRequest) :
    Preserves (AllSendable eventBodyToVec)
      (blobResponseOnce (recorded exchange)
        (fun hashes => { blobRequest kind with blobHashes := hashes }) validate hashes) := by
  rw [blobResponseOnce]
  by_cases none : hashes.isEmpty = true
  · rw [if_pos none]
    exact preserves_pure _
  · rw [if_neg none]
    apply preserves_bind (preserves_lift _)
    intro _ _ _ checked
    rw [lift_eq_ok_iff, validateRequestBlobHashes, checkAll_eq_ok_iff] at checked
    have areHashes : ∀ hash ∈ hashes, isBlobHash hash = true :=
      fun hash member => (ensure_eq_ok_iff _ _ _).mp (checked.1 hash member)
    apply preserves_bind (preserves_requestPeer (sendable_of_hashes few areHashes))
    intro _ _ _ _
    apply preserves_bind (preserves_lift _)
    intro _ _ _ _
    exact preserves_pure _

theorem preserves_blobResponsesBatched
    {once : List String → Effect (σ × List WireSyncRequest) NetError WireSyncResponse}
    (kept :
      ∀ hashes, hashes.length ≤ maxFetchBlobHashesPerRequest →
        Preserves (AllSendable eventBodyToVec) (once hashes))
    (hashes : List String) :
    Preserves (AllSendable eventBodyToVec) (blobResponsesBatched once hashes) := by
  rw [blobResponsesBatched]
  apply
    @Bisection.preserves_gatherFrom _ _ _ _ _ responseErrorMayBeOversizedResponse _
      fun batch : List String => batch.length ≤ maxFetchBlobHashesPerRequest
  · intro batch few
    exact Nat.le_trans (List.length_take_le' _ _) few
  · intro batch few
    rw [List.length_drop]
    omega
  · intro batch few
    apply preserves_bind (kept batch few)
    intro _ _ _ _
    exact preserves_pure _
  · exact fun batch member => Chunked.length_le_of_mem_chunks member

theorem preserves_fetchBlobs (hashes : List String) :
    Preserves (AllSendable eventBodyToVec) (fetchBlobs blake3Hex (recorded exchange) hashes) := by
  rw [fetchBlobs]
  by_cases none : hashes.isEmpty = true
  · rw [if_pos none]
    exact preserves_pure _
  · rw [if_neg none]
    apply preserves_bind
    · apply preserves_blobResponsesBatched
      exact fun batch few => preserves_blobResponseOnce few
    · intro _ _ _ _
      exact preserves_pure _

theorem preserves_fetchBlobAvailabilities (hashes : List String) :
    Preserves (AllSendable eventBodyToVec)
      (fetchBlobAvailabilities (recorded exchange) hashes) := by
  rw [fetchBlobAvailabilities]
  by_cases none : hashes.isEmpty = true
  · rw [if_pos none]
    exact preserves_pure _
  · rw [if_neg none]
    apply preserves_bind
    · apply preserves_blobResponsesBatched
      exact fun batch few => preserves_blobResponseOnce few
    · intro _ _ _ _
      apply preserves_bind (preserves_lift _)
      intro _ _ _ _
      exact preserves_pure _

theorem preserves_fetchBlobChunked (hash : String) :
    Preserves (AllSendable eventBodyToVec)
      (fetchBlobChunked blake3Hex (recorded exchange) hash) := by
  apply preserves_bind (preserves_lift _)
  intro _ _ _ checked
  rw [lift_eq_ok_iff, validateRequestBlobHashes, checkAll_eq_ok_iff] at checked
  have areHashes : ∀ other ∈ [hash], isBlobHash other = true :=
    fun other member => (ensure_eq_ok_iff _ _ _).mp (checked.1 other member)
  have few : [hash].length ≤ maxFetchBlobHashesPerRequest := by
    rw [List.length_singleton]
    decide
  apply preserves_bind (preserves_requestPeer (sendable_of_hashes few areHashes))
  intro _ response _ _
  apply preserves_bind (preserves_lift _)
  intro _ _ _ _
  cases response.blobs.find? fun blob => decide (blob.hash = hash) with
  | some blob => exact preserves_pure _
  | none =>
      cases response.blobDescriptors.find? fun descriptor => decide (descriptor.hash = hash) with
      | none => exact preserves_pure _
      | some wire =>
          apply preserves_bind (preserves_lift _)
          intro _ descriptor _ _
          apply preserves_bind (preserves_fetchBlobs _)
          intro _ chunks _ _
          apply preserves_bind (preserves_lift _)
          intro _ reassembled _ _
          cases reassembled with
          | none => exact preserves_pure _
          | some bytes =>
              apply preserves_bind (preserves_lift _)
              intro _ _ _ _
              exact preserves_pure _

/-! Uploading -/

theorem preserves_sendUpload
    {request : WireSyncRequest} (sendable : Sendable eventBodyToVec request) :
    Preserves (AllSendable eventBodyToVec) (sendUpload (recorded exchange) request) := by
  apply preserves_bind (preserves_requestPeer sendable)
  intro _ _ _ _
  exact preserves_lift _

section Batches

variable {makeRequest : List WireBlobEnvelope → WireSyncRequest} {limits : Limits}
variable (batches :
  ∀ batch, limits.Fits blobFieldBytes maxFrameLen batch →
    Sendable eventBodyToVec (makeRequest batch))

include batches in
theorem preserves_sendBatch
    {batch : List WireBlobEnvelope}
    (fits : batch ≠ [] → limits.Fits blobFieldBytes maxFrameLen batch) :
    Preserves (AllSendable eventBodyToVec) (sendBatch (recorded exchange) makeRequest batch) := by
  rw [sendBatch]
  by_cases none : batch.isEmpty = true
  · rw [if_pos none]
    exact preserves_pure _
  · rw [if_neg none]
    apply preserves_sendUpload
    apply batches
    apply fits
    intro isEmpty
    exact none (List.isEmpty_iff.mpr isEmpty)

include batches in
theorem preserves_packUpload
    {batch : Filling WireBlobEnvelope}
    (counts : limits.Counts blobFieldBytes maxFrameLen batch) (blob : WireBlobEnvelope) :
    Preserves (AllSendable eventBodyToVec)
      (packUpload (recorded exchange) makeRequest limits batch blob) := by
  apply preserves_bind
  · apply preserves_sendBatch batches
    intro some
    by_cases closes : limits.closes batch (blobFieldBytes blob)
    · have isClosed : batch.items ∈ limits.closed batch (blobFieldBytes blob) := by
        rw [Limits.closed, if_pos closes]
        exact List.mem_singleton_self _
      have whole : (limits.closed batch (blobFieldBytes blob)).flatten = batch.items := by
        rw [Limits.closed, if_pos closes, List.flatten_singleton]
      rw [whole]
      exact Limits.fits_of_closed counts isClosed
    · rw [Limits.closed, if_neg closes] at some
      exact absurd rfl some
  · intro _ _ _ _
    exact preserves_pure _

/-- The open batch after one more item. -/
theorem packUpload_eq_ok
    {exchange : WireSyncRequest → Effect σ NetError WireSyncResponse}
    {batch next : Filling WireBlobEnvelope} {blob : WireBlobEnvelope} {state after : σ}
    (isOk : packUpload exchange makeRequest limits batch blob state = (.ok next, after)) :
    sendBatch exchange makeRequest (limits.closed batch (blobFieldBytes blob)).flatten state =
        (.ok (), after) ∧
      next = limits.push (limits.next batch (blobFieldBytes blob)) blob (blobFieldBytes blob) := by
  simp only [packUpload, bind_apply_eq_ok_iff, pure_apply_eq_ok_iff] at isOk
  obtain ⟨_, middle, sent, isNext, sameState⟩ := isOk
  rw [sameState] at sent
  exact ⟨sent, isNext.symm⟩

end Batches

/-- The limits let every item of an upload into a batch of its own, if it fits a frame. -/
theorem counts_packUpload
    {baseBytes room : Nat} (small : room ≤ maxFrameLen) {batch : Filling WireBlobEnvelope}
    (counts : (uploadLimits baseBytes room).Counts blobFieldBytes maxFrameLen batch)
    {blob : WireBlobEnvelope}
    (single : saturatingAddUsize baseBytes (blobFieldBytes blob) ≤ maxFrameLen) :
    (uploadLimits baseBytes room).Counts blobFieldBytes maxFrameLen
      ((uploadLimits baseBytes room).push
        ((uploadLimits baseBytes room).next batch (blobFieldBytes blob)) blob
        (blobFieldBytes blob)) := by
  have machine : maxFrameLen < 2 ^ 64 - 1 := by decide
  have oneFits : 0 < maxBlobUploadEnvelopesPerRequest := by decide
  apply Limits.counts_push small machine oneFits counts
  rw [saturatingAddUsize] at single
  change baseBytes + blobFieldBytes blob ≤ maxFrameLen
  omega

theorem packBlobEnvelopes_sendable
    {baseBytes : Nat}
    (batches :
      ∀ batch,
        (uploadLimits baseBytes maxWholeBlobUploadBatchBytes).Fits blobFieldBytes maxFrameLen
            batch →
          Sendable eventBodyToVec (putBlobEnvelopesRequest batch))
    (blobs : List WireBlobEnvelope) {batch : Filling WireBlobEnvelope}
    (counts :
      (uploadLimits baseBytes maxWholeBlobUploadBatchBytes).Counts blobFieldBytes maxFrameLen
        batch) :
    Preserves (AllSendable eventBodyToVec)
        (packBlobEnvelopes (recorded exchange) baseBytes batch blobs) ∧
      ∀ state last after,
        packBlobEnvelopes (recorded exchange) baseBytes batch blobs state = (.ok last, after) →
          (uploadLimits baseBytes maxWholeBlobUploadBatchBytes).Counts blobFieldBytes maxFrameLen
            last := by
  have small : maxWholeBlobUploadBatchBytes ≤ maxFrameLen := Nat.div_le_self _ _
  induction blobs generalizing batch with
  | nil =>
      refine ⟨preserves_pure _, ?_⟩
      intro state last after isOk
      rw [packBlobEnvelopes, pure_apply_eq_ok_iff] at isOk
      rw [← isOk.1]
      exact counts
  | cons blob rest inductionHypothesis =>
      constructor
      · apply preserves_bind (preserves_lift _)
        intro _ _ _ checked
        rw [lift_eq_ok_iff, ensure_eq_ok_iff] at checked
        apply preserves_bind (preserves_packUpload batches counts blob)
        intro _ next _ packed
        rw [(packUpload_eq_ok packed).2]
        exact (inductionHypothesis (counts_packUpload small counts checked.1)).1
      · intro state last after isOk
        simp only [packBlobEnvelopes, bind_apply_eq_ok_iff, lift_eq_ok_iff, ensure_eq_ok_iff]
          at isOk
        obtain ⟨_, _, ⟨single, -⟩, next, middle, packed, isOk⟩ := isOk
        rw [(packUpload_eq_ok packed).2] at isOk
        exact
          (inductionHypothesis (counts_packUpload small counts single)).2 middle last after isOk

theorem preserves_putBlobs (blobs : List Bytes) :
    Preserves (AllSendable eventBodyToVec)
      (putBlobs blake3Hex eventBodyToVec (recorded exchange) blobs) := by
  rw [putBlobs]
  by_cases none : blobs.isEmpty = true
  · rw [if_pos none]
    exact preserves_pure _
  · rw [if_neg none]
    have batches :
        ∀ batch,
          (uploadLimits (encodeSyncRequest eventBodyToVec (putBlobEnvelopesRequest [])).length
              maxWholeBlobUploadBatchBytes).Fits blobFieldBytes maxFrameLen batch →
            Sendable eventBodyToVec (putBlobEnvelopesRequest batch) :=
      fun batch fits => @sendable_of_fits _ (blobRequest putBlobsKind) rfl _ _ fits rfl rfl
    have packs :=
      @packBlobEnvelopes_sendable _ _ exchange _ batches
        (wholeBlobUploadEnvelopes blake3Hex [] blobs) _ Limits.counts_empty
    apply preserves_bind
    · apply preserves_bind packs.1
      intro state last after packed
      exact preserves_sendBatch batches (packs.2 state last after packed).fits
    · intro _ _ _ _
      exact preserves_pure _

theorem packChunks_sendable
    {descriptor : BlobDescriptor} {available : List String} {baseBytes : Nat}
    (batches :
      ∀ batch,
        (uploadLimits baseBytes maxChunkUploadBatchBytes).Fits blobFieldBytes maxFrameLen batch →
          Sendable eventBodyToVec (putBlobChunksRequest descriptor batch))
    {chunks : List (String × Bytes)}
    (single :
      ∀ chunk ∈ chunks,
        saturatingAddUsize baseBytes (blobFieldBytes ⟨chunk.1, chunk.2⟩) ≤ maxFrameLen)
    (planned : List String) {batch : Filling WireBlobEnvelope}
    (counts :
      (uploadLimits baseBytes maxChunkUploadBatchBytes).Counts blobFieldBytes maxFrameLen batch) :
    Preserves (AllSendable eventBodyToVec)
        (packChunks blake3Hex (recorded exchange) descriptor
          (uploadLimits baseBytes maxChunkUploadBatchBytes) available planned batch chunks) ∧
      ∀ state last after,
        packChunks blake3Hex (recorded exchange) descriptor
            (uploadLimits baseBytes maxChunkUploadBatchBytes) available planned batch chunks
            state = (.ok last, after) →
          (uploadLimits baseBytes maxChunkUploadBatchBytes).Counts blobFieldBytes maxFrameLen
            last := by
  have small : maxChunkUploadBatchBytes ≤ maxFrameLen := Nat.div_le_self _ _
  induction chunks generalizing planned batch with
  | nil =>
      refine ⟨preserves_pure _, ?_⟩
      intro state last after isOk
      rw [packChunks, pure_apply_eq_ok_iff] at isOk
      rw [← isOk.1]
      exact counts
  | cons chunk rest inductionHypothesis =>
      obtain ⟨first, later⟩ := List.forall_mem_cons.mp single
      obtain ⟨chunkHash, bytes⟩ := chunk
      simp only [packChunks]
      by_cases skips : chunkHash ∈ available ∨ chunkHash ∈ planned
      · simp only [if_pos skips]
        exact inductionHypothesis later planned counts
      · simp only [if_neg skips]
        have packed := counts_packUpload small counts first
        constructor
        · apply preserves_bind (preserves_lift _)
          intro _ _ _ _
          apply preserves_bind (preserves_packUpload batches counts _)
          intro _ next _ isPacked
          rw [(packUpload_eq_ok isPacked).2]
          exact (inductionHypothesis later (chunkHash :: planned) packed).1
        · intro state last after isOk
          simp only [bind_apply_eq_ok_iff, lift_eq_ok_iff] at isOk
          obtain ⟨_, _, -, next, middle, isPacked, isOk⟩ := isOk
          rw [(packUpload_eq_ok isPacked).2] at isOk
          exact
            (inductionHypothesis later (chunkHash :: planned) packed).2 middle last after isOk

theorem sendable_chunks
    {descriptor : BlobDescriptor} {batch : List WireBlobEnvelope}
    (fits :
      (uploadLimits (encodeSyncRequest eventBodyToVec (putBlobChunksRequest descriptor [])).length
        maxChunkUploadBatchBytes).Fits blobFieldBytes maxFrameLen batch) :
    Sendable eventBodyToVec (putBlobChunksRequest descriptor batch) := by
  have same (blobs : List WireBlobEnvelope) :
      { putBlobChunksRequest descriptor [] with blobs := blobs } =
        putBlobChunksRequest descriptor blobs :=
    rfl
  have sendable :=
    @sendable_of_fits eventBodyToVec (putBlobChunksRequest descriptor []) rfl _ batch fits
      (by rw [same, uploadLimits]) (by rw [uploadLimits])
  rwa [same] at sendable

theorem preserves_putBlobChunked (bytes : Bytes) (chunkSize : UInt64) :
    Preserves (AllSendable eventBodyToVec)
      (putBlobChunked blake3Hex eventBodyToVec (recorded exchange) bytes chunkSize) := by
  apply preserves_bind (preserves_lift _)
  intro _ _ _ _
  apply preserves_bind (preserves_lift _)
  intro _ _ _ checked
  generalize describeBlob blake3Hex bytes chunkSize = descriptor at checked ⊢
  simp only [lift_eq_ok_iff, validateChunkUploadSingleFrameLengths, bind_eq_ok_iff,
    ensure_eq_ok_iff, checkAll_eq_ok_iff] at checked
  obtain ⟨⟨_, baseFits, single⟩, -⟩ := checked
  have batches :
      ∀ batch,
        (uploadLimits (encodeSyncRequest eventBodyToVec (putBlobChunksRequest descriptor [])).length
            maxChunkUploadBatchBytes).Fits blobFieldBytes maxFrameLen batch →
          Sendable eventBodyToVec (putBlobChunksRequest descriptor batch) :=
    fun _ fits => sendable_chunks fits
  have manifest : Sendable eventBodyToVec (putBlobChunksRequest descriptor []) :=
    ⟨baseFits, Nat.zero_le _, Nat.zero_le _⟩
  apply preserves_bind (preserves_sendUpload manifest)
  intro _ _ _ _
  apply preserves_bind
  · apply preserves_bind (preserves_fetchBlobAvailabilities _)
    intro _ _ _ _
    exact preserves_pure _
  · intro _ availability _ _
    by_cases whole : availability.any BlobAvailability.hasWholeBlob = true
    · simp only [if_pos whole]
      exact preserves_pure _
    · simp only [if_neg whole]
      have packs :=
        @packChunks_sendable _ blake3Hex _ exchange descriptor
          (availableChunks descriptor availability) _ batches _ single []
          _ Limits.counts_empty
      apply preserves_bind
      · apply preserves_bind packs.1
        intro state last after packed
        exact preserves_sendBatch batches (packs.2 state last after packed).fits
      · intro _ _ _ _
        exact preserves_pure _

end Recorded

/-- Whatever a peer answers, every request that a client makes to fetch blobs or their
availability, to upload whole blobs or to upload a blob in chunks fits a frame and has no more
blobs and hashes than a peer takes. -/
theorem blobRequests_sendable
    {σ : Type} (blake3Hex : Bytes → String) (eventBodyToVec : WireEventBody → List UInt8)
    (exchange : WireSyncRequest → Effect σ NetError WireSyncResponse) (state : σ) :
    (∀ hashes, AllSendable eventBodyToVec
      (fetchBlobs blake3Hex (recorded exchange) hashes (state, [])).2) ∧
    (∀ hashes, AllSendable eventBodyToVec
      (fetchBlobAvailabilities (recorded exchange) hashes (state, [])).2) ∧
    (∀ hash, AllSendable eventBodyToVec
      (fetchBlobChunked blake3Hex (recorded exchange) hash (state, [])).2) ∧
    (∀ blobs, AllSendable eventBodyToVec
      (putBlobs blake3Hex eventBodyToVec (recorded exchange) blobs (state, [])).2) ∧
    ∀ bytes chunkSize, AllSendable eventBodyToVec
      (putBlobChunked blake3Hex eventBodyToVec (recorded exchange) bytes chunkSize
        (state, [])).2 := by
  have start : AllSendable eventBodyToVec (state, []) :=
    fun request member => absurd member List.not_mem_nil
  refine ⟨?_, ?_, ?_, ?_, ?_⟩
  · exact fun hashes => (preserves_fetchBlobs hashes).kept _ start
  · exact fun hashes => (preserves_fetchBlobAvailabilities hashes).kept _ start
  · exact fun hash => (preserves_fetchBlobChunked hash).kept _ start
  · exact fun blobs => (preserves_putBlobs blobs).kept _ start
  · exact fun bytes chunkSize => (preserves_putBlobChunked bytes chunkSize).kept _ start

end Chaft

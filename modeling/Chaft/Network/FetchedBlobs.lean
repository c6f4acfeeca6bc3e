import Chaft.Network.BlobExchange
import Chaft.Network.KeptBlobs

/-!
# Fetched blobs

Whatever a peer answers, the bytes that a client takes for a hash have that hash.
-/

namespace Chaft

open Outcome Keyed Effects Effects.Effect

/-! ## Checked responses -/

theorem responseError_eq_ok_iff (error : Option String) (done : Unit) :
    responseError error = .ok done ↔ error = none := by
  cases error with
  | none => simp [responseError]
  | some text =>
      rw [responseError]
      split <;> simp

theorem isCanonicalWireBlobHash_eq (hash : String) :
    isCanonicalWireBlobHash hash = isBlobHash hash :=
  rfl

section Entries

variable {α : Type} {kind : String} {hashOf : α → String} {check : α → Except NetError Unit}
variable {requested : List String}

/-- The entries that pass are asked for, pass the check and have hashes of their own. -/
theorem checkResponseEntries_eq_ok_iff (seen : List String) (entries : List α) (done : Unit) :
    checkResponseEntries kind hashOf check requested seen entries = .ok done ↔
      (∀ entry ∈ entries, isBlobHash (hashOf entry) = true ∧ hashOf entry ∈ requested ∧
        check entry = .ok ()) ∧
        (entries.map hashOf).Nodup ∧ ∀ entry ∈ entries, hashOf entry ∉ seen := by
  induction entries generalizing seen with
  | nil => simp [checkResponseEntries]
  | cons entry rest inductionHypothesis =>
      rw [List.forall_mem_cons, List.forall_mem_cons]
      simp only [checkResponseEntries, validateRequestedBlobHash, validateUniqueResponseBlobHash,
        bind_eq_ok_iff, ensure_eq_ok_iff, inductionHypothesis, List.map_cons, List.nodup_cons,
        List.mem_cons, not_or, List.mem_map]
      simp only [isCanonicalWireBlobHash_eq]
      constructor
      · intro passed
        obtain ⟨_, ⟨_, isHash, asked⟩, _, isNew, _, checked, others, distinct, apart⟩ := passed
        refine ⟨⟨⟨isHash, asked, checked⟩, others⟩, ⟨?_, distinct⟩, isNew, ?_⟩
        · intro found
          obtain ⟨other, member, same⟩ := found
          exact (apart other member).1 same
        · exact fun other member => (apart other member).2
      · intro passed
        obtain ⟨⟨⟨isHash, asked, checked⟩, others⟩, ⟨isFirst, distinct⟩, isNew, apart⟩ := passed
        refine ⟨(), ⟨(), isHash, asked⟩, (), isNew, (), checked, others, distinct, ?_⟩
        intro other member
        exact ⟨fun same => isFirst ⟨other, member, same⟩, apart other member⟩

end Entries

/-- The blobs of a checked response were asked for and have their hashes. -/
theorem validateFetchBlobsResponse_blobs
    {blake3Hex : Bytes → String} {requested : List String} {response : WireSyncResponse}
    (checked : validateFetchBlobsResponse blake3Hex requested response = .ok ()) :
    ∀ blob ∈ response.blobs, blob.hash ∈ requested ∧ blake3Hex blob.bytes = blob.hash := by
  simp only [validateFetchBlobsResponse, bind_eq_ok_iff, checkResponseEntries_eq_ok_iff] at checked
  obtain ⟨_, -, _, -, _, -, _, -, _, ⟨blobs, -, -⟩, -⟩ := checked
  intro blob member
  obtain ⟨-, asked, isChecked⟩ := blobs blob member
  exact ⟨asked, (ensure_eq_ok_iff _ _ _).mp isChecked⟩

/-! ## Requests -/

section Requests

variable {σ : Type} {exchange : WireSyncRequest → Effect σ NetError WireSyncResponse}
variable {blake3Hex : Bytes → String}

theorem requestPeer_eq_ok_iff
    (request : WireSyncRequest) (state after : σ) (response : WireSyncResponse) :
    requestPeer exchange request state = (.ok response, after) ↔
      exchange request state = (.ok response, after) ∧ response.error = none := by
  simp only [requestPeer, bind_apply_eq_ok_iff, lift_eq_ok_iff, responseError_eq_ok_iff,
    pure_apply_eq_ok_iff]
  constructor
  · intro answered
    obtain ⟨answer, middle, isAnswer, _, _, ⟨noError, rfl⟩, rfl, rfl⟩ := answered
    have same : { answer with error := none } = answer := by
      rw [← noError]
    rw [same]
    exact ⟨isAnswer, noError⟩
  · intro answered
    have same : { response with error := none } = response := by
      rw [← answered.2]
    exact ⟨response, after, answered.1, (), after, ⟨answered.2, rfl⟩, same, rfl⟩

theorem blobResponseOnce_eq_ok
    {makeRequest : List String → WireSyncRequest}
    {validate : List String → WireSyncResponse → Except NetError Unit} {hashes : List String}
    {state after : σ} {response : WireSyncResponse} (some : hashes ≠ [])
    (isOk : blobResponseOnce exchange makeRequest validate hashes state = (.ok response, after)) :
    exchange (makeRequest hashes) state = (.ok response, after) ∧ response.error = none ∧
      validate hashes.eraseDups response = .ok () := by
  have notEmpty : hashes.isEmpty = false := by
    rw [List.isEmpty_eq_false_iff]
    exact some
  simp only [blobResponseOnce, notEmpty, Bool.false_eq_true, if_false, bind_apply_eq_ok_iff,
    lift_eq_ok_iff, requestPeer_eq_ok_iff, pure_apply_eq_ok_iff] at isOk
  obtain ⟨_, _, ⟨-, rfl⟩, answer, middle, ⟨isAnswer, noError⟩, _, _, ⟨checked, rfl⟩, rfl, rfl⟩ :=
    isOk
  exact ⟨isAnswer, noError, checked⟩

/-- A batch of the hashes was answered while the property held. -/
structure AnswersBatch
    (once : List String → Effect σ NetError WireSyncResponse) (property : σ → Prop)
    (hashes batch : List String) (response : WireSyncResponse) : Prop where
  inside : batch ⊆ hashes
  answered : ∃ before after, property before ∧ once batch before = (.ok response, after)

/-- Every hash is in a batch that was answered, and every response answers a batch. -/
theorem blobResponsesBatched_eq_ok
    {once : List String → Effect σ NetError WireSyncResponse} {property : σ → Prop}
    (kept : ∀ batch, Preserves property (once batch)) {hashes : List String} {state after : σ}
    (holds : property state) {responses : List WireSyncResponse}
    (isOk : blobResponsesBatched once hashes state = (.ok responses, after)) :
    property after ∧
      (∀ hash ∈ hashes, ∃ batch response, hash ∈ batch ∧
        AnswersBatch once property hashes batch response ∧ response ∈ responses) ∧
        ∀ response ∈ responses, ∃ batch, AnswersBatch once property hashes batch response := by
  have keptSingle :
      ∀ batch, Preserves property (do let response ← once batch; pure [response]) := by
    intro batch
    apply preserves_bind (kept batch)
    intro _ _ _ _
    exact preserves_pure _
  obtain ⟨holdsAfter, gathered⟩ :=
    Bisection.gathered_of_gatherFrom keptSingle _ _ holds isOk
  have whole :
      (Chunked.chunks maxFetchBlobHashesPerRequest hashes.eraseDups).flatten =
        hashes.eraseDups :=
    Chunked.flatten_chunks (by decide) _
  rw [whole] at gathered
  have single {batch : List String} {answer : List WireSyncResponse}
      (answered :
        Bisection.Answered (fun batch => do let response ← once batch; pure [response])
          property hashes.eraseDups batch answer) :
      ∃ response, answer = [response] ∧ AnswersBatch once property hashes batch response := by
    obtain ⟨before, next, holdsBefore, isAnswer⟩ := answered.asked
    simp only [bind_apply_eq_ok_iff, pure_apply_eq_ok_iff] at isAnswer
    obtain ⟨response, middle, isResponse, isSingle, -⟩ := isAnswer
    refine ⟨response, isSingle.symm, ?_, before, middle, holdsBefore, isResponse⟩
    intro hash member
    exact List.mem_eraseDups.mp (answered.inside member)
  refine ⟨holdsAfter, ?_, ?_⟩
  · intro hash member
    obtain ⟨batch, answer, inBatch, answered, taken⟩ :=
      gathered.whole hash (List.mem_eraseDups.mpr member)
    obtain ⟨response, isSingle, answersBatch⟩ := single answered
    rw [isSingle] at taken
    exact ⟨batch, response, inBatch, answersBatch, taken (List.mem_singleton_self response)⟩
  · intro response member
    rcases gathered.drawn response member with before | ⟨batch, answer, answered, inAnswer⟩
    · cases before
    · obtain ⟨only, isSingle, answersBatch⟩ := single answered
      rw [isSingle, List.mem_singleton] at inAnswer
      rw [inAnswer]
      exact ⟨batch, answersBatch⟩

/-- Every blob that is fetched was asked for and has its hash. -/
theorem fetchBlobs_intact
    {hashes : List String} {state after : σ} {blobs : HashMap String Bytes}
    (isOk : fetchBlobs blake3Hex exchange hashes state = (.ok blobs, after)) {hash : String}
    {bytes : Bytes} (found : blobs[hash]? = some bytes) :
    hash ∈ hashes ∧ blake3Hex bytes = hash := by
  rw [fetchBlobs] at isOk
  by_cases none : hashes.isEmpty = true
  · rw [if_pos none, pure_apply_eq_ok_iff] at isOk
    rw [← isOk.1] at found
    simp at found
  · rw [if_neg none] at isOk
    simp only [bind_apply_eq_ok_iff, pure_apply_eq_ok_iff] at isOk
    obtain ⟨responses, middle, gathered, isBlobs, -⟩ := isOk
    rw [← isBlobs] at found
    rcases getElem?_tableOf found with ⟨blob, member, sameHash, sameBytes⟩ | ⟨-, empty⟩
    · obtain ⟨response, isResponse, inResponse⟩ := List.mem_flatMap.mp member
      have anything (batch : List String) :
          Preserves (fun _ : σ => True) (fetchBlobsResponseOnce blake3Hex exchange batch) :=
        ⟨fun _ _ => trivial⟩
      obtain ⟨-, -, answers⟩ := blobResponsesBatched_eq_ok anything trivial gathered
      obtain ⟨batch, answersBatch⟩ := answers response isResponse
      obtain ⟨before, next, -, answered⟩ := answersBatch.answered
      by_cases isEmpty : batch = []
      · rw [isEmpty, fetchBlobsResponseOnce, blobResponseOnce] at answered
        simp only [List.isEmpty_nil, if_true, pure_apply_eq_ok_iff] at answered
        rw [← answered.1] at inResponse
        cases inResponse
      · obtain ⟨-, -, checked⟩ := blobResponseOnce_eq_ok isEmpty answered
        obtain ⟨asked, isHash⟩ := validateFetchBlobsResponse_blobs checked blob inResponse
        rw [← sameHash, ← sameBytes]
        exact ⟨answersBatch.inside (List.mem_eraseDups.mp asked), isHash⟩
    · simp at empty

/-- A blob in chunks has the hash of its descriptor. -/
theorem fetchDescribedBlob_intact
    {descriptor : BlobDescriptor} {state after : σ} {bytes : Bytes}
    (isOk : fetchDescribedBlob blake3Hex exchange descriptor state = (.ok (some bytes), after)) :
    blake3Hex bytes = descriptor.hash := by
  simp only [fetchDescribedBlob, bind_apply_eq_ok_iff, lift_eq_ok_iff] at isOk
  obtain ⟨chunks, middle, -, reassembled, _, -, isOk⟩ := isOk
  cases reassembled with
  | none =>
      simp only [pure_apply_eq_ok_iff, reduceCtorEq, false_and] at isOk
  | some whole =>
      simp only [bind_apply_eq_ok_iff, lift_eq_ok_iff, pure_apply_eq_ok_iff, Option.some.injEq,
        renamed_eq_ok_iff] at isOk
      obtain ⟨_, _, ⟨checked, -⟩, sameBytes, -⟩ := isOk
      rw [sameBytes] at checked
      simp only [validateReassembledBlob, bind_eq_ok_iff, ensure_eq_ok_iff] at checked
      obtain ⟨_, -, _, -, _, -, sameHash⟩ := checked
      exact sameHash

/-- Whatever a peer answers, what a client takes for a blob has its hash. -/
theorem fetches_intact
    {σ : Type} (blake3Hex : Bytes → String)
    (exchange : WireSyncRequest → Effect σ NetError WireSyncResponse) (state : σ) :
    (∀ hashes blobs after,
      fetchBlobs blake3Hex exchange hashes state = (.ok blobs, after) →
        ∀ (hash : String) (bytes : Bytes), blobs[hash]? = some bytes →
          hash ∈ hashes ∧ blake3Hex bytes = hash) ∧
      ∀ hash bytes after,
        fetchBlobChunked blake3Hex exchange hash state = (.ok (some bytes), after) →
          isBlobHash hash = true ∧ blake3Hex bytes = hash := by
  refine ⟨fun _ _ _ isOk _ _ found => fetchBlobs_intact isOk found, ?_⟩
  intro hash bytes after isOk
  simp only [fetchBlobChunked, bind_apply_eq_ok_iff, lift_eq_ok_iff, requestPeer_eq_ok_iff] at isOk
  obtain ⟨_, _, ⟨asked, -⟩, response, middle, -, _, _, ⟨checked, -⟩, isOk⟩ := isOk
  have isHash : isBlobHash hash = true := by
    rw [validateRequestBlobHashes, checkAll_eq_ok_iff] at asked
    exact (ensure_eq_ok_iff _ _ _).mp (asked hash (List.mem_singleton_self hash))
  refine ⟨isHash, ?_⟩
  cases isBlob : response.blobs.find? fun blob => decide (blob.hash = hash) with
  | some blob =>
      simp only [isBlob, pure_apply_eq_ok_iff, Option.some.injEq] at isOk
      have isFound := List.find?_some isBlob
      have sameHash : blob.hash = hash := of_decide_eq_true isFound
      obtain ⟨-, named⟩ :=
        validateFetchBlobsResponse_blobs checked blob (List.mem_of_find?_eq_some isBlob)
      rw [← isOk.1, named, sameHash]
  | none =>
      simp only [isBlob] at isOk
      cases isDescribed :
          response.blobDescriptors.find? fun descriptor => decide (descriptor.hash = hash) with
      | none => simp only [isDescribed, pure_apply_eq_ok_iff, reduceCtorEq, false_and] at isOk
      | some descriptor =>
          simp only [isDescribed, bind_apply_eq_ok_iff, lift_eq_ok_iff] at isOk
          obtain ⟨read, _, ⟨isRead, -⟩, fetched⟩ := isOk
          have isFound := List.find?_some isDescribed
          have sameHash : descriptor.hash = hash := of_decide_eq_true isFound
          obtain ⟨-, isDescriptor⟩ := (wireToDescriptor_eq_ok_iff descriptor read).mp isRead
          rw [fetchDescribedBlob_intact fetched, ← isDescriptor]
          exact sameHash

end Requests

end Chaft

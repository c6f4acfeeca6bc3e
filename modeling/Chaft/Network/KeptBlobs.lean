import Chaft.Network.BlobUploads

/-!
# Blobs that uploads keep

An upload adds whole blobs and chunks and leaves those that are there.  A descriptor
replaces the manifest under its hash, whether it describes the blob or not.  A blob
that was available stays so exactly when it is stored whole, no descriptor of the
upload has its hash, or the one that has describes it with chunks that are there.
-/

namespace Chaft

open Outcome Keyed Effects Effects.Effect Transition Chunked

/-! ## What an upload writes -/

namespace BlobStore

section Writing

variable {blake3Hex : Bytes → String} {disk : Disk} {store after : BlobStore}

theorem getElem?_manifests_insert (store : BlobStore) (hash key : String) (file : Bytes) :
    (store.changeFiles (·.insert hash file) .manifests).manifests[key]? =
      if hash = key then some file else store.manifests[key]? := by
  simp only [changeFiles, Std.ExtTreeMap.getElem?_insert, Std.LawfulEqCmp.compare_eq_iff_eq]

theorem getElem?_blobs_insert (store : BlobStore) (hash key : String) (file : Bytes) :
    (store.changeFiles (·.insert hash file) .blobs).blobs[key]? =
      if hash = key then some file else store.blobs[key]? := by
  simp only [changeFiles, Std.ExtTreeMap.getElem?_insert, Std.LawfulEqCmp.compare_eq_iff_eq]

/-- The manifests of some descriptors are written and nothing else is changed. -/
structure ManifestsPut (descriptors : List BlobDescriptor) (before after : BlobStore) :
    Prop where
  blobs : after.blobs = before.blobs
  chunks : after.chunks = before.chunks
  kept :
    ∀ hash : String, hash ∉ descriptors.map BlobDescriptor.hash →
      after.manifests[hash]? = before.manifests[hash]?
  there :
    ∀ descriptor ∈ descriptors,
      after.manifests[descriptor.hash]? = some (manifestJson descriptor)

theorem manifestsPut_of_forEach
    {descriptors : List BlobDescriptor}
    (distinct : (descriptors.map BlobDescriptor.hash).Nodup)
    (put : forEach (putManifest disk) descriptors store = (.ok (), after)) :
    ManifestsPut descriptors store after := by
  induction descriptors generalizing store with
  | nil =>
      simp only [forEach, pure_apply_eq_ok_iff] at put
      have same : store = after := put.2
      subst same
      exact
        { blobs := rfl
          chunks := rfl
          kept := fun _ _ => rfl
          there := fun _ member => absurd member List.not_mem_nil }
  | cons descriptor rest inductionHypothesis =>
      simp only [forEach, bind_apply_eq_ok_iff, putManifest, lift_eq_ok_iff,
        writeFileAtomically_eq_ok_iff] at put
      obtain ⟨_, middle, ⟨_, _, ⟨-, rfl⟩, -, rfl⟩, others⟩ := put
      rw [List.map_cons, List.nodup_cons] at distinct
      have later := inductionHypothesis distinct.2 others
      exact
        { blobs := later.blobs
          chunks := later.chunks
          kept := by
            intro hash absent
            rw [List.map_cons, List.mem_cons, not_or] at absent
            rw [later.kept hash absent.2, getElem?_manifests_insert,
              if_neg (Ne.symm absent.1)]
          there := by
            intro other member
            rcases List.mem_cons.mp member with rfl | member
            · rw [later.kept other.hash distinct.1, getElem?_manifests_insert, if_pos rfl]
            · exact later.there other member }

/-- In an intact store a whole blob is written where there was none. -/
theorem putBytesWithHash_eq_ok
    {hash : String} {bytes : Bytes} (intact : store.Intact blake3Hex)
    (put : putBytesWithHash blake3Hex disk hash bytes store = (.ok (), after)) :
    (∃ file : Bytes, store.blobs[hash]? = some file) ∧ after = store ∨
      store.blobs[hash]? = none ∧ after = store.changeFiles (·.insert hash bytes) .blobs := by
  simp only [putBytesWithHash, bind_apply_eq_ok_iff, lift_eq_ok_iff, validateHash_eq_ok_iff,
    reads_eq_ok_iff] at put
  obtain ⟨_, _, ⟨isHash, rfl⟩, _, _, ⟨-, rfl⟩, _, _, ⟨-, rfl⟩, present, _, ⟨look, rfl⟩, written⟩ :=
    put
  rw [hasBlob_eq intact isHash, Except.ok.injEq] at look
  subst look
  cases found : store.blobs[hash]? with
  | some file =>
      simp only [found, Option.isSome_some, if_true, pure_apply_eq_ok_iff] at written
      exact .inl ⟨⟨file, rfl⟩, written.2.symm⟩
  | none =>
      simp only [found, Option.isSome_none, Bool.false_eq_true, if_false, bind_apply_eq_ok_iff,
        reads_eq_ok_iff, Except.ok.injEq] at written
      obtain ⟨stored, _, ⟨rfl, rfl⟩, written⟩ := written
      simp only [Bool.false_eq_true, if_false, writeFileAtomically_eq_ok_iff] at written
      exact .inr ⟨rfl, written.2.symm⟩

/-- Whole blobs are added to a store and nothing else is changed. -/
structure BlobsPut (uploads : List WireBlobEnvelope) (before after : BlobStore) : Prop where
  manifests : after.manifests = before.manifests
  chunks : after.chunks = before.chunks
  kept :
    ∀ (hash : String) (file : Bytes), before.blobs[hash]? = some file →
      after.blobs[hash]? = some file
  added :
    ∀ (hash : String) (file : Bytes), after.blobs[hash]? = some file →
      before.blobs[hash]? = some file ∨ ∃ upload ∈ uploads, upload.bytes = file

theorem blobsPut_of_forEach
    {uploads : List WireBlobEnvelope} (hexDigests : HexDigests blake3Hex)
    (intact : store.Intact blake3Hex)
    (put :
      forEach (fun (upload : WireBlobEnvelope) =>
        putBytesWithHash blake3Hex disk upload.hash upload.bytes) uploads store =
          (.ok (), after)) :
    BlobsPut uploads store after := by
  induction uploads generalizing store with
  | nil =>
      simp only [forEach, pure_apply_eq_ok_iff] at put
      have same : store = after := put.2
      subst same
      exact
        { manifests := rfl
          chunks := rfl
          kept := fun _ _ found => found
          added := fun _ _ found => .inl found }
  | cons upload rest inductionHypothesis =>
      simp only [forEach, bind_apply_eq_ok_iff] at put
      obtain ⟨_, middle, first, others⟩ := put
      have intactNext : middle.Intact blake3Hex := by
        have performed :
            BlobOperation.perform blake3Hex readManifest disk store
                (.putBytesWithHash upload.hash upload.bytes) = middle := by
          rw [BlobOperation.perform, first]
        rw [← performed]
        exact BlobOperation.perform_all hexDigests (fun _ _ _ writes => writes.isIntact) intact
      have later := inductionHypothesis intactNext others
      rcases putBytesWithHash_eq_ok intact first with ⟨-, rfl⟩ | ⟨absent, rfl⟩
      · exact
          { manifests := later.manifests
            chunks := later.chunks
            kept := later.kept
            added := by
              intro hash file found
              refine (later.added hash file found).imp_right ?_
              rintro ⟨other, member, same⟩
              exact ⟨other, List.mem_cons_of_mem upload member, same⟩ }
      · exact
          { manifests := later.manifests
            chunks := later.chunks
            kept := by
              intro hash file found
              apply later.kept
              rw [getElem?_blobs_insert]
              by_cases same : upload.hash = hash
              · rw [← same, absent] at found
                cases found
              · rw [if_neg same]
                exact found
            added := by
              intro hash file found
              rcases later.added hash file found with before | ⟨other, member, same⟩
              · rw [getElem?_blobs_insert] at before
                by_cases same : upload.hash = hash
                · rw [if_pos same, Option.some.injEq] at before
                  exact .inr ⟨upload, List.mem_cons_self, before⟩
                · rw [if_neg same] at before
                  exact .inl before
              · exact .inr ⟨other, List.mem_cons_of_mem upload member, same⟩ }

end Writing

section Reading

variable {blake3Hex : Bytes → String} {fromSlice : Bytes → Option BlobDescriptor}
variable {store after : BlobStore} {hash : String} {bytes : Bytes}

/-- A blob that can be read has the hash under which it is read. -/
theorem named_of_getCompleteBytes
    (readsManifests : ReadsManifests fromSlice) (intact : store.Intact blake3Hex)
    (available : store.getCompleteBytes blake3Hex fromSlice hash = .ok (some bytes)) :
    isBlobHash hash = true ∧ blake3Hex bytes = hash := by
  have isHash : isBlobHash hash = true := by
    simp only [getCompleteBytes, getBytes, getHashed, bind_eq_ok_iff, validateHash_eq_ok_iff]
      at available
    obtain ⟨_, ⟨_, isHash, -⟩, -⟩ := available
    exact isHash
  refine ⟨isHash, ?_⟩
  rcases (getCompleteBytes_eq_some_iff intact isHash bytes).mp available with whole | ⟨-, chunked⟩
  · exact (intact .blobs hash bytes whole).1
  · obtain ⟨descriptor, gotManifest, -, described, -⟩ :=
      (getBytesChunked_eq_some_iff readsManifests intact bytes).mp chunked
    obtain ⟨-, -, sameHash, -⟩ :=
      (getManifest_eq_some_iff readsManifests intact descriptor).mp gotManifest
    rw [← sameHash, congrArg BlobDescriptor.hash described]
    rfl

/-- The chunked form of a blob stays readable where its manifest and its chunks stay. -/
theorem getBytesChunked_of_kept
    (readsManifests : ReadsManifests fromSlice) (intact : store.Intact blake3Hex)
    (intactAfter : after.Intact blake3Hex)
    (manifest : after.manifests[hash]? = store.manifests[hash]?)
    (kept :
      ∀ (chunkHash : String) (file : Bytes), store.chunks[chunkHash]? = some file →
        after.chunks[chunkHash]? = some file)
    (chunked : store.getBytesChunked blake3Hex fromSlice hash = .ok (some bytes)) :
    after.getBytesChunked blake3Hex fromSlice hash = .ok (some bytes) := by
  rw [getBytesChunked_eq_some_iff readsManifests intactAfter]
  obtain ⟨descriptor, gotManifest, short, described, holds⟩ :=
    (getBytesChunked_eq_some_iff readsManifests intact bytes).mp chunked
  rw [getManifest_eq_some_iff readsManifests intact, ← manifest,
    ← getManifest_eq_some_iff readsManifests intactAfter] at gotManifest
  exact ⟨descriptor, gotManifest, short, described,
    fun piece member => kept _ piece (holds piece member)⟩

end Reading

end BlobStore

/-! ## Accepted requests -/

section Accepted

variable {blake3Hex : Bytes → String} {request : WireSyncRequest}

theorem wireToDescriptor_eq_ok_iff (descriptor : WireBlobDescriptor) (read : BlobDescriptor) :
    wireToDescriptor descriptor = .ok read ↔
      descriptor.toDescriptor.Valid ∧ descriptor.toDescriptor = read := by
  have canonical (context hash : String) (done : Unit) :
      validateCanonicalWireBlobHash context hash = .ok done ↔ isBlobHash hash = true := by
    rw [validateCanonicalWireBlobHash, ensure_eq_ok_iff]
    rfl
  have renamed (done : Unit) :
      (validateBlobDescriptor descriptor.toDescriptor).mapError MediaError.toProtocol = .ok done ↔
        descriptor.toDescriptor.Valid := by
    rw [← validateDescriptor_eq_ok_iff _ done, validateBlobDescriptor]
    cases validateDescriptor descriptor.toDescriptor <;> simp [Except.mapError]
  simp only [wireToDescriptor, validateWireBlobDescriptorHashes, bind_eq_ok_iff, renamed,
    canonical, checkAll_eq_ok_iff, Except.ok.injEq]
  constructor
  · rintro ⟨_, -, _, valid, same⟩
    exact ⟨valid, same⟩
  · rintro ⟨valid, same⟩
    exact ⟨(), ⟨(), valid.hash, valid.chunkHashes⟩, (), valid, same⟩

theorem wireToDescriptors_eq_ok
    {wires : List WireBlobDescriptor} {read : List BlobDescriptor}
    (allRead : wires.mapM wireToDescriptor = .ok read) :
    read = wires.map WireBlobDescriptor.toDescriptor ∧
      ∀ wire ∈ wires, wire.toDescriptor.Valid := by
  induction wires generalizing read with
  | nil =>
      have empty : [] = read := (pure_eq_ok_iff _ _).mp allRead
      exact ⟨empty.symm, fun _ member => absurd member List.not_mem_nil⟩
  | cons wire rest inductionHypothesis =>
      obtain ⟨result, others, isRead, othersRead, rfl⟩ := mapM_cons_eq_ok_iff.mp allRead
      obtain ⟨valid, rfl⟩ := (wireToDescriptor_eq_ok_iff wire result).mp isRead
      obtain ⟨rfl, restValid⟩ := inductionHypothesis othersRead
      refine ⟨rfl, ?_⟩
      intro other member
      rcases List.mem_cons.mp member with rfl | member
      · exact valid
      · exact restValid other member

/-- What the checks of a request see to. -/
theorem validatePutBlobsRequest_eq_ok
    {descriptors : List BlobDescriptor}
    (accepted : validatePutBlobsRequest blake3Hex request = .ok descriptors) :
    descriptors = request.blobDescriptors.map WireBlobDescriptor.toDescriptor ∧
      (descriptors.map BlobDescriptor.hash).Nodup ∧
        ∀ wire ∈ request.blobDescriptors, wire.toDescriptor.Valid := by
  simp only [validatePutBlobsRequest, bind_eq_ok_iff, validatePutBlobsRequestUploads,
    validatePutBlobsRequestUniqueness, validateBlobDescriptorHashesUnique,
    checkDistinct_eq_ok_iff] at accepted
  obtain ⟨_, -, _, -, _, -, _, ⟨_, -, distinct, -⟩, uploads⟩ := accepted
  by_cases none : request.blobDescriptors = []
  · simp only [none, List.isEmpty_nil, if_true, bind_eq_ok_iff, Except.ok.injEq] at uploads
    obtain ⟨_, -, rfl⟩ := uploads
    rw [none]
    exact ⟨rfl, .nil, fun _ member => absurd member List.not_mem_nil⟩
  · have notEmpty : request.blobDescriptors.isEmpty = false := by
      simpa using none
    simp only [notEmpty, Bool.false_eq_true, if_false, bind_eq_ok_iff, Except.ok.injEq]
      at uploads
    obtain ⟨read, allRead, _, -, _, -, rfl⟩ := uploads
    obtain ⟨rfl, valid⟩ := wireToDescriptors_eq_ok allRead
    refine ⟨rfl, ?_, valid⟩
    rw [List.map_map]
    exact distinct

/-- What an accepted request changes. -/
structure Uploaded (request : WireSyncRequest) (before after : BlobStore) : Prop where
  blobsKept :
    ∀ (hash : String) (file : Bytes), before.blobs[hash]? = some file →
      after.blobs[hash]? = some file
  blobsAdded :
    ∀ (hash : String) (file : Bytes), after.blobs[hash]? = some file →
      before.blobs[hash]? = some file ∨
        request.blobDescriptors = [] ∧ ∃ upload ∈ request.blobs, upload.bytes = file
  chunksKept :
    ∀ (hash : String) (file : Bytes), before.chunks[hash]? = some file →
      after.chunks[hash]? = some file
  chunksThere :
    request.blobDescriptors ≠ [] →
      ∀ upload ∈ request.blobs, ∃ file : Bytes, after.chunks[upload.hash]? = some file
  chunksAdded :
    ∀ (hash : String) (file : Bytes), after.chunks[hash]? = some file →
      before.chunks[hash]? = some file ∨
        ∃ upload ∈ request.blobs, upload.hash = hash ∧ upload.bytes = file
  manifestsKept :
    ∀ hash : String, (∀ wire ∈ request.blobDescriptors, wire.hash ≠ hash) →
      after.manifests[hash]? = before.manifests[hash]?
  manifestsThere :
    ∀ wire ∈ request.blobDescriptors, wire.toDescriptor.Valid ∧
      after.manifests[wire.hash]? = some (manifestJson wire.toDescriptor)

section Handler

variable {disk : Disk} {hasBlobStore : Bool} {response : WireSyncResponse}
variable {store after : BlobStore}

theorem storeUploads_intact
    (hexDigests : HexDigests blake3Hex) (disk : Disk) (descriptors : List BlobDescriptor)
    (blobs : List WireBlobEnvelope) :
    Preserves (BlobStore.Intact blake3Hex) (storeUploads blake3Hex disk descriptors blobs) := by
  have performs (operation : BlobOperation) (before : BlobStore)
      (intact : before.Intact blake3Hex) :
      (operation.perform blake3Hex readManifest disk before).Intact blake3Hex :=
    BlobOperation.perform_all hexDigests (fun _ _ _ writes => writes.isIntact) intact
  rw [storeUploads]
  split
  · apply preserves_forEach
    intro blob _
    exact preserves_mapError ⟨performs (.putBytesWithHash blob.hash blob.bytes)⟩
  · apply preserves_bind
    · apply preserves_forEach
      intro descriptor _
      exact preserves_mapError ⟨performs (.putManifest descriptor)⟩
    · intro _ _ _ _
      apply preserves_forEach
      intro blob _
      exact preserves_mapError ⟨performs (.putChunkWithHash blob.hash blob.bytes)⟩

/-- The changes of an accepted request, in one place. -/
theorem handlePutBlobs_eq_ok
    (hexDigests : HexDigests blake3Hex) (intact : store.Intact blake3Hex)
    (accepted :
      handlePutBlobs blake3Hex disk hasBlobStore request store = (.ok response, after)) :
    after.Intact blake3Hex ∧ Uploaded request store after := by
  simp only [handlePutBlobs, bind_apply_eq_ok_iff, lift_eq_ok_iff, pure_apply_eq_ok_iff]
    at accepted
  obtain ⟨descriptors, _, ⟨checked, rfl⟩, _, _, ⟨-, rfl⟩, _, final, stored, -, rfl⟩ := accepted
  obtain ⟨rfl, distinct, valid⟩ := validatePutBlobsRequest_eq_ok checked
  have intactAfter := (storeUploads_intact hexDigests disk
    (request.blobDescriptors.map WireBlobDescriptor.toDescriptor) request.blobs).kept store intact
  rw [stored] at intactAfter
  refine ⟨intactAfter, ?_⟩
  by_cases none : request.blobDescriptors = []
  · simp only [storeUploads, none, List.map_nil, List.isEmpty_nil, if_true,
      forEach_mapError_eq_ok_iff] at stored
    have put := BlobStore.blobsPut_of_forEach hexDigests intact stored
    exact
      { blobsKept := put.kept
        blobsAdded := fun hash file found =>
          (put.added hash file found).imp_right fun uploaded => ⟨none, uploaded⟩
        chunksKept := fun _ _ found => by
          rw [put.chunks]
          exact found
        chunksThere := fun some => absurd none some
        chunksAdded := fun _ _ found => by
          rw [put.chunks] at found
          exact .inl found
        manifestsKept := fun _ _ => by rw [put.manifests]
        manifestsThere := fun _ member => by
          rw [none] at member
          cases member }
  · have notEmpty :
        (request.blobDescriptors.map WireBlobDescriptor.toDescriptor).isEmpty = false := by
      simpa using none
    simp only [storeUploads, notEmpty, Bool.false_eq_true, if_false, bind_apply_eq_ok_iff,
      forEach_mapError_eq_ok_iff] at stored
    obtain ⟨_, middle, manifestsStored, chunksStored⟩ := stored
    have manifests := BlobStore.manifestsPut_of_forEach distinct manifestsStored
    let chunkItem (upload : WireBlobEnvelope) : String × Bytes := (upload.hash, upload.bytes)
    have chunks : BlobStore.ChunksPut (request.blobs.map chunkItem) middle final := by
      apply BlobStore.chunksPut_of_forEach
      rw [forEach_map]
      exact chunksStored
    exact
      { blobsKept := fun _ _ found => by
          rw [chunks.blobs, manifests.blobs]
          exact found
        blobsAdded := fun _ _ found => by
          rw [chunks.blobs, manifests.blobs] at found
          exact .inl found
        chunksKept := fun hash file found => by
          apply chunks.kept
          rw [manifests.chunks]
          exact found
        chunksThere := fun _ upload member =>
          chunks.there (chunkItem upload) (List.mem_map_of_mem member)
        chunksAdded := fun hash file found => by
          rcases chunks.added hash file found with before | listed
          · rw [manifests.chunks] at before
            exact .inl before
          · obtain ⟨upload, member, same⟩ := List.mem_map.mp listed
            rw [Prod.mk.injEq] at same
            exact .inr ⟨upload, member, same⟩
        manifestsKept := fun hash absent => by
          rw [chunks.manifests]
          apply manifests.kept
          intro listed
          rw [List.map_map] at listed
          obtain ⟨wire, member, same⟩ := List.mem_map.mp listed
          exact absent wire member same
        manifestsThere := fun wire member => by
          refine ⟨valid wire member, ?_⟩
          rw [chunks.manifests]
          exact manifests.there wire.toDescriptor (List.mem_map_of_mem member) }

end Handler

end Accepted

/-! ## Blobs that stay available -/

section Kept

variable (blake3Hex : Bytes → String)

/-- The contents that an upload can bring together: those of the store, those of the
upload, the blob and the pieces of it that the upload's descriptors speak of. -/
def uploadContents (store : BlobStore) (request : WireSyncRequest) (bytes : Bytes) : Set Bytes :=
  {file |
    file ∈ store.contents ∨ (∃ upload ∈ request.blobs, upload.bytes = file) ∨ file = bytes ∨
      ∃ wire ∈ request.blobDescriptors, file ∈ chunks wire.chunkSize.toNat bytes}

/-- A descriptor describes a blob in a manifest that can be read, and each chunk that
it lists is in the store or in the upload. -/
structure Redescribes
    (store : BlobStore) (request : WireSyncRequest) (bytes : Bytes)
    (wire : WireBlobDescriptor) : Prop where
  described : wire.toDescriptor = describeBlob blake3Hex bytes wire.chunkSize
  few : wire.chunkHashes.length ≤ manifestChunkLimit
  present :
    ∀ chunkHash ∈ wire.chunkHashes,
      chunkHash ∈ store.chunks ∨ ∃ upload ∈ request.blobs, upload.hash = chunkHash

/-- A blob is stored whole, or every descriptor of an upload that has its hash
describes it. -/
def UploadKeeps
    (store : BlobStore) (request : WireSyncRequest) (hash : String) (bytes : Bytes) : Prop :=
  hash ∈ store.blobs ∨
    ∀ wire ∈ request.blobDescriptors, wire.hash = hash →
      Redescribes blake3Hex store request bytes wire

variable {blake3Hex} {fromSlice : Bytes → Option BlobDescriptor}

section Steps

variable {store after : BlobStore} {request : WireSyncRequest} {hash : String} {bytes : Bytes}

/-- A blob that is stored whole stays available. -/
theorem available_of_whole
    (intact : store.Intact blake3Hex) (intactAfter : after.Intact blake3Hex)
    (uploaded : Uploaded request store after) (isHash : isBlobHash hash = true)
    (whole : hash ∈ store.blobs)
    (available : store.getCompleteBytes blake3Hex fromSlice hash = .ok (some bytes)) :
    after.getCompleteBytes blake3Hex fromSlice hash = .ok (some bytes) := by
  rw [BlobStore.getCompleteBytes_eq_some_iff intactAfter isHash]
  rcases (BlobStore.getCompleteBytes_eq_some_iff intact isHash bytes).mp available with
    found | ⟨absent, -⟩
  · exact .inl (uploaded.blobsKept hash bytes found)
  · rw [Std.ExtTreeMap.mem_iff_isSome_getElem?, absent] at whole
    cases whole

/-- A new whole copy of a blob is the blob, so that the chunked form is enough. -/
theorem available_of_chunked
    (intactAfter : after.Intact blake3Hex) (uploaded : Uploaded request store after)
    (collisionFree : Set.InjOn blake3Hex (uploadContents store request bytes))
    (isHash : isBlobHash hash = true) (named : blake3Hex bytes = hash)
    (chunked : after.getBytesChunked blake3Hex fromSlice hash = .ok (some bytes)) :
    after.getCompleteBytes blake3Hex fromSlice hash = .ok (some bytes) := by
  rw [BlobStore.getCompleteBytes_eq_some_iff intactAfter isHash]
  cases found : after.blobs[hash]? with
  | none => exact .inr ⟨rfl, chunked⟩
  | some file =>
      have fileNamed := (intactAfter .blobs hash file found).1
      have inContents : file ∈ uploadContents store request bytes := by
        rcases uploaded.blobsAdded hash file found with before | ⟨-, added⟩
        · exact .inl ⟨hash, .inl before⟩
        · exact .inr (.inl added)
      have same := collisionFree inContents (.inr (.inr (.inl rfl))) (fileNamed.trans named.symm)
      exact .inl (congrArg some same)

/-- After an upload with a descriptor that describes the blob the chunked form can be
read. -/
theorem chunked_of_redescribes
    (readsManifests : ReadsManifests fromSlice) (intactAfter : after.Intact blake3Hex)
    (uploaded : Uploaded request store after)
    (collisionFree : Set.InjOn blake3Hex (uploadContents store request bytes))
    (short : bytes.length < 2 ^ 64) {wire : WireBlobDescriptor}
    (member : wire ∈ request.blobDescriptors) (sameHash : wire.hash = hash)
    (redescribes : Redescribes blake3Hex store request bytes wire) :
    after.getBytesChunked blake3Hex fromSlice hash = .ok (some bytes) := by
  obtain ⟨valid, manifest⟩ := uploaded.manifestsThere wire member
  have sameSize : max wire.chunkSize 1 = wire.chunkSize :=
    (congrArg BlobDescriptor.chunkSize redescribes.described).symm
  have hashes :
      wire.chunkHashes = (chunks wire.chunkSize.toNat bytes).map blake3Hex := by
    have hashes := congrArg BlobDescriptor.chunkHashes redescribes.described
    rwa [describeBlob, sameSize] at hashes
  have gotManifest : after.getManifest fromSlice hash = .ok (some wire.toDescriptor) := by
    rw [BlobStore.getManifest_eq_some_iff readsManifests intactAfter]
    exact ⟨sameHash ▸ manifest, valid, sameHash, redescribes.few⟩
  rw [BlobStore.getBytesChunked_eq_some_iff readsManifests intactAfter]
  refine ⟨wire.toDescriptor, gotManifest, short, redescribes.described, ?_⟩
  intro piece isPiece
  have listed : blake3Hex piece ∈ wire.chunkHashes := by
    rw [hashes]
    exact List.mem_map_of_mem isPiece
  have stored : ∃ file : Bytes, after.chunks[blake3Hex piece]? = some file := by
    rcases redescribes.present _ listed with there | ⟨upload, inRequest, same⟩
    · rw [Std.ExtTreeMap.mem_iff_isSome_getElem?, Option.isSome_iff_exists] at there
      obtain ⟨file, found⟩ := there
      exact ⟨file, uploaded.chunksKept _ file found⟩
    · rw [← same]
      exact uploaded.chunksThere (List.ne_nil_of_mem member) upload inRequest
  obtain ⟨file, found⟩ := stored
  have fileNamed := (intactAfter .chunks _ file found).1
  have inContents : file ∈ uploadContents store request bytes := by
    rcases uploaded.chunksAdded _ file found with before | ⟨upload, inRequest, -, same⟩
    · exact .inl ⟨_, .inr before⟩
    · exact .inr (.inl ⟨upload, inRequest, same⟩)
  have pieceInContents : piece ∈ uploadContents store request bytes :=
    .inr (.inr (.inr ⟨wire, member, isPiece⟩))
  rw [found, collisionFree inContents pieceInContents fileNamed]

/-- Where the chunked form is what can be read, the manifest of the upload is the
description of the blob. -/
theorem redescribes_of_available
    (readsManifests : ReadsManifests fromSlice) (intactAfter : after.Intact blake3Hex)
    (uploaded : Uploaded request store after) (isHash : isBlobHash hash = true)
    (notWhole : store.blobs[hash]? = none) {wire : WireBlobDescriptor}
    (member : wire ∈ request.blobDescriptors) (sameHash : wire.hash = hash)
    (available : after.getCompleteBytes blake3Hex fromSlice hash = .ok (some bytes)) :
    Redescribes blake3Hex store request bytes wire := by
  have someWires : request.blobDescriptors ≠ [] := List.ne_nil_of_mem member
  have noFile (file : Bytes) : after.blobs[hash]? ≠ some file := by
    intro found
    rcases uploaded.blobsAdded hash file found with before | ⟨none, -⟩
    · rw [notWhole] at before
      cases before
    · exact absurd none someWires
  rcases (BlobStore.getCompleteBytes_eq_some_iff intactAfter isHash bytes).mp available with
    found | ⟨-, chunked⟩
  · exact absurd found (noFile bytes)
  · obtain ⟨descriptor, gotManifest, -, described, holds⟩ :=
      (BlobStore.getBytesChunked_eq_some_iff readsManifests intactAfter bytes).mp chunked
    obtain ⟨stored, descriptorValid, -, few⟩ :=
      (BlobStore.getManifest_eq_some_iff readsManifests intactAfter descriptor).mp gotManifest
    obtain ⟨valid, manifest⟩ := uploaded.manifestsThere wire member
    have same : descriptor = wire.toDescriptor := by
      have readDescriptor := readsManifests descriptor descriptorValid
      have readWire := readsManifests wire.toDescriptor valid
      rw [sameHash, stored, Option.some.injEq] at manifest
      rw [manifest, readWire, Option.some.injEq] at readDescriptor
      exact readDescriptor.symm
    subst same
    refine { described := described, few := few, present := ?_ }
    intro chunkHash listed
    have hashes := congrArg BlobDescriptor.chunkHashes described
    have sameSize : max wire.chunkSize 1 = wire.chunkSize :=
      (congrArg BlobDescriptor.chunkSize described).symm
    have isPiece : chunkHash ∈ (chunks wire.chunkSize.toNat bytes).map blake3Hex := by
      have listed : chunkHash ∈ wire.toDescriptor.chunkHashes := listed
      rw [hashes, describeBlob] at listed
      simp only [WireBlobDescriptor.toDescriptor, sameSize] at listed
      exact listed
    obtain ⟨piece, inPieces, rfl⟩ := List.mem_map.mp isPiece
    rcases uploaded.chunksAdded _ piece (holds piece inPieces) with before | ⟨upload, inRequest,
      sameChunk, -⟩
    · left
      rw [Std.ExtTreeMap.mem_iff_isSome_getElem?, before]
      rfl
    · exact .inr ⟨upload, inRequest, sameChunk⟩

end Steps

/-- After an accepted upload an available blob is still available exactly when it is
stored whole or no descriptor of the upload replaces its manifest by another one. -/
theorem handlePutBlobs_keeps_iff
    (hexDigests : HexDigests blake3Hex) (readsManifests : ReadsManifests fromSlice)
    {calls : List BlobCall} {store : BlobStore}
    (ran : BlobStore.After blake3Hex fromSlice calls store)
    {hash : String} {bytes : Bytes}
    (available : store.getCompleteBytes blake3Hex fromSlice hash = .ok (some bytes))
    {disk : Disk} {hasBlobStore : Bool} {request : WireSyncRequest}
    {response : WireSyncResponse} {after : BlobStore}
    (accepted :
      handlePutBlobs blake3Hex disk hasBlobStore request store = (.ok response, after))
    (collisionFree : Set.InjOn blake3Hex (uploadContents store request bytes)) :
    after.getCompleteBytes blake3Hex fromSlice hash = .ok (some bytes) ↔
      UploadKeeps blake3Hex store request hash bytes := by
  have intact := BlobStore.After.intact hexDigests ran
  obtain ⟨intactAfter, uploaded⟩ := handlePutBlobs_eq_ok hexDigests intact accepted
  obtain ⟨isHash, named⟩ := BlobStore.named_of_getCompleteBytes readsManifests intact available
  by_cases whole : hash ∈ store.blobs
  · have stays := available_of_whole intact intactAfter uploaded isHash whole available
    exact ⟨fun _ => .inl whole, fun _ => stays⟩
  have notWhole : store.blobs[hash]? = none := Std.ExtTreeMap.getElem?_eq_none whole
  have chunked : store.getBytesChunked blake3Hex fromSlice hash = .ok (some bytes) := by
    rcases (BlobStore.getCompleteBytes_eq_some_iff intact isHash bytes).mp available with
      found | ⟨-, chunked⟩
    · rw [notWhole] at found
      cases found
    · exact chunked
  constructor
  · intro stays
    refine .inr fun wire member sameHash => ?_
    exact redescribes_of_available readsManifests intactAfter uploaded isHash notWhole member
      sameHash stays
  · rintro (stored | redescribes)
    · exact absurd stored whole
    apply available_of_chunked intactAfter uploaded collisionFree isHash named
    by_cases replaced : ∃ wire ∈ request.blobDescriptors, wire.hash = hash
    · obtain ⟨wire, member, sameHash⟩ := replaced
      obtain ⟨-, -, short, -⟩ :=
        (BlobStore.getBytesChunked_eq_some_iff readsManifests intact bytes).mp chunked
      exact chunked_of_redescribes readsManifests intactAfter uploaded collisionFree short member
        sameHash (redescribes wire member sameHash)
    · have absent : ∀ wire ∈ request.blobDescriptors, wire.hash ≠ hash :=
        fun wire member same => replaced ⟨wire, member, same⟩
      exact BlobStore.getBytesChunked_of_kept readsManifests intact intactAfter
        (uploaded.manifestsKept hash absent) uploaded.chunksKept chunked

end Kept

/-! ## A blob in chunks -/

/-- An upload of some descriptors and chunks. -/
def putBlobsRequest
    (descriptors : List BlobDescriptor) (blobs : List WireBlobEnvelope) : WireSyncRequest where
  kind := 4
  eventIds := []
  events := []
  authorizationEvents := []
  authorizationSnapshots := []
  blobHashes := []
  blobs := blobs
  blobDescriptors := descriptors.map fun descriptor =>
    { hash := descriptor.hash
      byteLen := descriptor.byteLen
      chunkSize := descriptor.chunkSize
      chunkHashes := descriptor.chunkHashes }
  workspaceId := none
  eventEnvelopes := []
  authorizationEventEnvelopes := []
  authorizationSnapshotEnvelopes := []
  inventoryStartIndex := none
  inventoryLimit := none

/-- The three bytes again, as one chunk. -/
def wholeChunkUpload : WireSyncRequest :=
  putBlobsRequest [describeBlob sampleBlake3Hex [0x78, 0x79, 0x7a] 3]
    [{ hash := sampleBlake3Hex [0x78, 0x79, 0x7a], bytes := [0x78, 0x79, 0x7a] }]

/-- A manifest under the hash of the three bytes that names a chunk of one byte. -/
def falseUpload : WireSyncRequest :=
  putBlobsRequest [falseManifest] [{ hash := sampleBlake3Hex [0x78], bytes := [0x78] }]

/-- The store after an upload. -/
def chunkedArrivalThen (request : WireSyncRequest) : BlobStore :=
  (handlePutBlobs sampleBlake3Hex .sound true request (sampleReplay chunkedArrival)).2

theorem contents_chunkedArrival
    {file : Bytes} (member : file ∈ (sampleReplay chunkedArrival).contents) :
    file = [0x78, 0x79] ∨ file = [0x7a] := by
  have written :=
    BlobStore.After.written sampleBlake3Hex_hexDigests
      (BlobStore.after_replay sampleBlake3Hex readManifest chunkedArrival)
  have read (area : BlobArea) (content : area ≠ .manifests) (call : BlobCall)
      (listed : call ∈ chunkedArrival) (hash : String)
      (writes : call.2.Writes sampleBlake3Hex area hash file) :
      file = [0x78, 0x79] ∨ file = [0x7a] := by
    simp only [chunkedArrival, List.mem_cons, List.not_mem_nil, or_false] at listed
    rcases listed with rfl | rfl | rfl
    · cases writes
      exact absurd rfl content
    · generalize sampleBlake3Hex [0x78, 0x79] = named at writes
      cases writes
      exact .inl rfl
    · generalize sampleBlake3Hex [0x7a] = named at writes
      cases writes
      exact .inr rfl
  obtain ⟨hash, found | found⟩ := member
  · obtain ⟨call, listed, writes⟩ := written .blobs hash file found
    exact read .blobs (by decide) call listed hash writes
  · obtain ⟨call, listed, writes⟩ := written .chunks hash file found
    exact read .chunks (by decide) call listed hash writes

theorem handlePutBlobs_keeps_iff_wholeChunk :
    (chunkedArrivalThen wholeChunkUpload).getCompleteBytes sampleBlake3Hex readManifest
          (sampleBlake3Hex [0x78, 0x79, 0x7a]) =
        .ok (some [0x78, 0x79, 0x7a]) ↔
      UploadKeeps sampleBlake3Hex (sampleReplay chunkedArrival) wholeChunkUpload
        (sampleBlake3Hex [0x78, 0x79, 0x7a]) [0x78, 0x79, 0x7a] := by
  have inPlay (file : Bytes)
      (member :
        file ∈ uploadContents (sampleReplay chunkedArrival) wholeChunkUpload
          [0x78, 0x79, 0x7a]) :
      file = [0x78, 0x79] ∨ file = [0x7a] ∨ file = [0x78, 0x79, 0x7a] := by
    rcases member with stored | ⟨upload, listed, rfl⟩ | rfl | ⟨wire, listed, isPiece⟩
    · have content := contents_chunkedArrival stored
      exact content.imp_right .inl
    · have only : upload = ⟨sampleBlake3Hex [0x78, 0x79, 0x7a], [0x78, 0x79, 0x7a]⟩ :=
        List.mem_singleton.mp listed
      rw [only]
      exact .inr (.inr rfl)
    · exact .inr (.inr rfl)
    · have size : wire.chunkSize = 3 := by
        rw [List.mem_singleton.mp listed]
        rfl
      rw [size] at isPiece
      have piece : file ∈ [[0x78, 0x79, 0x7a]] := isPiece
      exact .inr (.inr (List.mem_singleton.mp piece))
  have collisionFree :
      Set.InjOn sampleBlake3Hex
        (uploadContents (sampleReplay chunkedArrival) wholeChunkUpload [0x78, 0x79, 0x7a]) := by
    intro left inLeft right inRight same
    rcases inPlay left inLeft with rfl | rfl | rfl <;>
      rcases inPlay right inRight with rfl | rfl | rfl <;>
        first
        | rfl
        | exact absurd same (by decide +kernel)
  have accepted :
      (handlePutBlobs sampleBlake3Hex .sound true wholeChunkUpload
        (sampleReplay chunkedArrival)).1.isOk = true := by
    decide +kernel
  cases outcome :
      handlePutBlobs sampleBlake3Hex .sound true wholeChunkUpload (sampleReplay chunkedArrival) with
  | mk result after =>
      cases result with
      | error raised =>
          rw [outcome] at accepted
          cases accepted
      | ok response =>
          have same : chunkedArrivalThen wholeChunkUpload = after := by
            rw [chunkedArrivalThen, outcome]
          rw [same]
          exact handlePutBlobs_keeps_iff sampleBlake3Hex_hexDigests readManifest_reads
            (BlobStore.after_replay _ _ chunkedArrival) (by decide +kernel) outcome collisionFree

/-- A blob that was available in chunks is no longer available after an upload. -/
theorem handlePutBlobs_not_keeps :
    (sampleReplay chunkedArrival).getCompleteBytes sampleBlake3Hex readManifest
          (sampleBlake3Hex [0x78, 0x79, 0x7a]) =
        .ok (some [0x78, 0x79, 0x7a]) ∧
      (handlePutBlobs sampleBlake3Hex .sound true falseUpload
        (sampleReplay chunkedArrival)).1.isOk = true ∧
      (chunkedArrivalThen falseUpload).getCompleteBytes sampleBlake3Hex readManifest
          (sampleBlake3Hex [0x78, 0x79, 0x7a]) =
        .error
          (.hashMismatch (sampleBlake3Hex [0x78, 0x79, 0x7a]) (sampleBlake3Hex [0x78])) := by
  decide +kernel

end Chaft

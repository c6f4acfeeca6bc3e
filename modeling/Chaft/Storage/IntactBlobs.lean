import Chaft.Storage.BlobFiles

/-!
# Reading from an intact blob store

In a store that its operations have filled, a blob or a chunk has the hash that
names it, and a manifest is that of a valid descriptor.  What is read as the chunked
form of a blob is then exactly a blob that the manifest describes, with all of its
chunks in the store.
-/

namespace Chaft

open Outcome Keyed Effects Transition Chunked

/-- What the operations see to for each file. -/
def IsIntact (blake3Hex : Bytes → String) : BlobArea → String → Bytes → Prop
  | .blobs, hash, file => blake3Hex file = hash ∧ file.length ≤ blobFileMaxBytes
  | .chunks, hash, file => blake3Hex file = hash ∧ file.length ≤ blobChunkFileMaxBytes
  | .manifests, hash, file =>
      ∃ descriptor : BlobDescriptor,
        descriptor.Valid ∧ descriptor.hash = hash ∧ file = manifestJson descriptor

abbrev BlobStore.Intact (blake3Hex : Bytes → String) (store : BlobStore) : Prop :=
  store.All (IsIntact blake3Hex)

theorem BlobOperation.Writes.isIntact
    {blake3Hex : Bytes → String} {operation : BlobOperation} {area : BlobArea} {hash : String}
    {file : Bytes} (writes : operation.Writes blake3Hex area hash file) :
    IsIntact blake3Hex area hash file := by
  cases writes with
  | bytes small => exact ⟨rfl, small⟩
  | bytesWithHash small => exact ⟨rfl, small⟩
  | chunkWithHash small => exact ⟨rfl, small⟩
  | manifest valid => exact ⟨_, valid, rfl, rfl⟩
  | manifestOfBytes _ valid => exact ⟨_, valid, rfl, rfl⟩
  | piece member small => exact ⟨rfl, small⟩

theorem BlobStore.After.intact
    {blake3Hex : Bytes → String} {fromSlice : Bytes → Option BlobDescriptor}
    (hexDigests : HexDigests blake3Hex) {calls : List BlobCall} {store : BlobStore}
    (ran : BlobStore.After blake3Hex fromSlice calls store) :
    store.Intact blake3Hex := by
  refine GuardedRun.invariant ran BlobStore.all_empty ?_
  intro before call after intact _ performed
  cases performed
  apply BlobOperation.perform_all hexDigests _ intact
  exact fun _ _ _ writes => writes.isIntact

namespace BlobStore

section Reading

variable {blake3Hex : Bytes → String} {fromSlice : Bytes → Option BlobDescriptor}
variable {store : BlobStore} {hash : String}

/-- A file of the right content within the limit is read as it is. -/
private theorem getHashed_eq
    {maxBytes : Nat} {tooLarge : Nat → Nat → MediaError} {area : BlobArea}
    (intact :
      ∀ file, (store.files area)[hash]? = some file →
        blake3Hex file = hash ∧ file.length ≤ maxBytes)
    (isHash : isBlobHash hash = true) :
    store.getHashed blake3Hex (readLimitedFile maxBytes tooLarge) area hash =
      .ok (store.files area)[hash]? := by
  simp only [getHashed, bind_eq_ok_iff, validateHash_eq_ok_iff]
  refine ⟨(), isHash, ?_⟩
  cases found : (store.files area)[hash]? with
  | none => rfl
  | some file =>
      obtain ⟨named, small⟩ := intact file found
      simp only [readLimitedFile, bind_eq_ok_iff, ensure_eq_ok_iff, Except.ok.injEq]
      exact ⟨file, ⟨(), small, rfl⟩, (), named, rfl⟩

theorem getBytes_eq (intact : store.Intact blake3Hex) (isHash : isBlobHash hash = true) :
    store.getBytes blake3Hex hash = .ok store.blobs[hash]? :=
  getHashed_eq (fun file found => intact .blobs hash file found) isHash

theorem getChunk_eq (intact : store.Intact blake3Hex) (isHash : isBlobHash hash = true) :
    store.getChunk blake3Hex hash = .ok store.chunks[hash]? :=
  getHashed_eq (fun file found => intact .chunks hash file found) isHash

theorem hasBlob_eq (intact : store.Intact blake3Hex) (isHash : isBlobHash hash = true) :
    store.hasBlob hash = .ok store.blobs[hash]?.isSome := by
  simp only [hasBlob, bind_eq_ok_iff, validateHash_eq_ok_iff, Except.ok.injEq]
  refine ⟨(), isHash, ?_⟩
  cases found : store.blobs[hash]? with
  | none => rfl
  | some file =>
      obtain ⟨-, small⟩ := intact .blobs hash file found
      simp [small]

/-- A manifest is read back exactly when its file is within the limit. -/
theorem getManifest_eq_some_iff
    (readsManifests : ReadsManifests fromSlice) (intact : store.Intact blake3Hex)
    (descriptor : BlobDescriptor) :
    store.getManifest fromSlice hash = .ok (some descriptor) ↔
      store.manifests[hash]? = some (manifestJson descriptor) ∧ descriptor.Valid ∧
        descriptor.hash = hash ∧ descriptor.chunkHashes.length ≤ manifestChunkLimit := by
  simp only [getManifest, bind_eq_ok_iff, validateHash_eq_ok_iff]
  cases found : store.manifests[hash]? with
  | none => simp
  | some file =>
      obtain ⟨stored, valid, rfl, rfl⟩ := intact .manifests hash file found
      simp only [readManifestFile, readLimitedFile, bind_eq_ok_iff, ensure_eq_ok_iff,
        okOr_eq_ok_iff, validateDescriptor_eq_ok_iff, Except.ok.injEq, Option.some.injEq]
      constructor
      · rintro ⟨_, -, bytes, ⟨_, small, rfl⟩, read, readBack, _, -, _, -, rfl⟩
        rw [readsManifests stored valid, Option.some.injEq] at readBack
        subst readBack
        exact ⟨rfl, valid, rfl, (manifestJson_fits_iff valid).mp small⟩
      · rintro ⟨sameFile, otherValid, -, few⟩
        have same : stored = descriptor := by
          have readStored := readsManifests stored valid
          have readOther := readsManifests descriptor otherValid
          rw [sameFile, readOther, Option.some.injEq] at readStored
          exact readStored.symm
        subst same
        exact ⟨(), valid.hash, _, ⟨(), (manifestJson_fits_iff valid).mpr few, rfl⟩, _,
          readsManifests stored valid, (), valid, (), rfl, rfl⟩

/-- The chunks that are put together are those that the store holds, each of the
expected length. -/
theorem collectChunks_eq_some_iff
    (intact : store.Intact blake3Hex) {descriptor : BlobDescriptor} (valid : descriptor.Valid)
    (rest : List String) (chunkIndex : Nat) (before bytes : Bytes)
    (isRest : descriptor.chunkHashes.drop chunkIndex = rest) :
    store.collectChunks blake3Hex descriptor chunkIndex rest before = .ok (some bytes) ↔
      ∃ pieces : List Bytes,
        rest.map (fun chunkHash => store.chunks[chunkHash]?) = pieces.map some ∧
          pieces.map List.length = descriptor.expectedLengths.drop chunkIndex ∧
            bytes = before ++ pieces.flatten := by
  induction rest generalizing chunkIndex before with
  | nil =>
      have noLengths : descriptor.expectedLengths.drop chunkIndex = [] := by
        rw [List.drop_eq_nil_iff] at isRest ⊢
        rw [valid.length_expectedLengths]
        exact isRest
      simp only [collectChunks, Except.ok.injEq, Option.some.injEq, noLengths]
      constructor
      · rintro rfl
        exact ⟨[], rfl, rfl, by simp⟩
      · rintro ⟨pieces, -, empty, rfl⟩
        rw [List.map_eq_nil_iff] at empty
        simp [empty]
  | cons chunkHash rest inductionHypothesis =>
      have inside : chunkIndex < descriptor.chunkHashes.length := by
        by_contra outside
        rw [List.drop_eq_nil_of_le (Nat.le_of_not_lt outside)] at isRest
        cases isRest
      rw [List.drop_eq_getElem_cons inside, List.cons.injEq] at isRest
      obtain ⟨isHead, isRest⟩ := isRest
      have atIndex : descriptor.chunkHashes[chunkIndex]? = some chunkHash := by
        rw [List.getElem?_eq_getElem inside, isHead]
      have isHash : isBlobHash chunkHash = true :=
        valid.chunkHashes chunkHash (List.mem_of_getElem? atIndex)
      have lengthsInside : chunkIndex < descriptor.expectedLengths.length := by
        rw [valid.length_expectedLengths]
        exact inside
      have lengths :
          descriptor.expectedLengths.drop chunkIndex =
            descriptor.expectedLength chunkIndex ::
              descriptor.expectedLengths.drop (chunkIndex + 1) := by
        have head := valid.getElem?_expectedLengths inside
        rw [List.getElem?_eq_getElem lengthsInside, Option.some.injEq] at head
        rw [List.drop_eq_getElem_cons lengthsInside, head]
      simp only [collectChunks, bind_eq_ok_iff, getChunk_eq intact isHash, Except.ok.injEq,
        exists_eq_left', lengths]
      cases found : store.chunks[chunkHash]? with
      | none =>
          constructor
          · intro impossible
            cases impossible
          · rintro ⟨pieces, held, -, -⟩
            cases pieces with
            | nil => simp at held
            | cons piece pieces => simp [found] at held
      | some chunk =>
          obtain ⟨named, -⟩ := intact .chunks chunkHash chunk found
          simp only [bind_eq_ok_iff, validateChunkPayload_eq_ok_iff valid, atIndex, named,
            true_and]
          rw [exists_const]
          constructor
          · rintro ⟨chunkLength, collected⟩
            rw [inductionHypothesis (chunkIndex + 1) (before ++ chunk) isRest] at collected
            obtain ⟨pieces, held, pieceLengths, rfl⟩ := collected
            refine ⟨chunk :: pieces, ?_, ?_, ?_⟩
            · rw [List.map_cons, List.map_cons, found, held]
            · rw [List.map_cons, chunkLength, pieceLengths]
            · rw [List.flatten_cons, List.append_assoc]
          · rintro ⟨pieces, held, pieceLengths, rfl⟩
            cases pieces with
            | nil => simp at held
            | cons piece pieces =>
                rw [List.map_cons, List.map_cons, List.cons.injEq, found, Option.some.injEq]
                  at held
                obtain ⟨rfl, held⟩ := held
                rw [List.map_cons, List.cons.injEq] at pieceLengths
                refine ⟨pieceLengths.1, ?_⟩
                rw [inductionHypothesis (chunkIndex + 1) (before ++ chunk) isRest]
                refine ⟨pieces, held, pieceLengths.2, ?_⟩
                rw [List.flatten_cons, List.append_assoc]

/-- The store holds every chunk of a blob. -/
def HoldsChunks (blake3Hex : Bytes → String) (store : BlobStore) (pieces : List Bytes) : Prop :=
  ∀ piece ∈ pieces, store.chunks[blake3Hex piece]? = some piece

theorem map_chunks_eq_iff
    (intact : store.Intact blake3Hex) (hashes : List String) (pieces : List Bytes) :
    hashes.map (fun chunkHash => store.chunks[chunkHash]?) = pieces.map some ↔
      hashes = pieces.map blake3Hex ∧ store.HoldsChunks blake3Hex pieces := by
  constructor
  · intro held
    induction hashes generalizing pieces with
    | nil =>
        have empty : pieces = [] := by simpa using held.symm
        subst empty
        exact ⟨rfl, fun piece member => nomatch member⟩
    | cons chunkHash rest inductionHypothesis =>
        cases pieces with
        | nil => simp at held
        | cons piece pieces =>
            rw [List.map_cons, List.map_cons, List.cons.injEq] at held
            obtain ⟨sameRest, holds⟩ := inductionHypothesis pieces held.2
            obtain ⟨named, -⟩ := intact .chunks chunkHash piece held.1
            refine ⟨by rw [List.map_cons, named, ← sameRest], ?_⟩
            intro other member
            rcases List.mem_cons.mp member with rfl | member
            · rw [named]
              exact held.1
            · exact holds other member
  · rintro ⟨rfl, holds⟩
    rw [List.map_map]
    apply List.map_congr_left
    exact holds

/-- Chunks of the expected lengths are put together where the result has the hash
that the manifest names. -/
theorem getBytesChunked_of_pieces
    (readsManifests : ReadsManifests fromSlice) (intact : store.Intact blake3Hex)
    {descriptor : BlobDescriptor}
    (gotManifest : store.getManifest fromSlice hash = .ok (some descriptor))
    {pieces : List Bytes}
    (held :
      descriptor.chunkHashes.map (fun chunkHash => store.chunks[chunkHash]?) = pieces.map some)
    (lengths : pieces.map List.length = descriptor.expectedLengths)
    (sameHash : blake3Hex pieces.flatten = descriptor.hash) :
    store.getBytesChunked blake3Hex fromSlice hash = .ok (some pieces.flatten) := by
  obtain ⟨-, valid, -, -⟩ :=
    (getManifest_eq_some_iff readsManifests intact descriptor).mp gotManifest
  have collected :
      store.collectChunks blake3Hex descriptor 0 descriptor.chunkHashes [] =
        .ok (some pieces.flatten) := by
    rw [collectChunks_eq_some_iff intact valid descriptor.chunkHashes 0 [] _ rfl]
    exact ⟨pieces, held, by rw [lengths, List.drop_zero], by rw [List.nil_append]⟩
  have sameLength := length_flatten_of_lengths valid.sizePositive lengths
  simp only [getBytesChunked, bind_eq_ok_iff]
  refine ⟨some descriptor, gotManifest, ?_⟩
  simp only [bind_eq_ok_iff]
  refine ⟨some pieces.flatten, collected, ?_⟩
  simp only [bind_eq_ok_iff, validateReassembledBlob_eq_ok_iff valid]
  exact ⟨(), ⟨sameLength, sameHash⟩, trivial⟩

/-- The chunked form of a blob is read exactly when the manifest that is read is the
description of the blob and all of the chunks are there. -/
theorem getBytesChunked_eq_some_iff
    (readsManifests : ReadsManifests fromSlice) (intact : store.Intact blake3Hex)
    (bytes : Bytes) :
    store.getBytesChunked blake3Hex fromSlice hash = .ok (some bytes) ↔
      ∃ descriptor,
        store.getManifest fromSlice hash = .ok (some descriptor) ∧
          bytes.length < 2 ^ 64 ∧
            descriptor = describeBlob blake3Hex bytes descriptor.chunkSize ∧
              store.HoldsChunks blake3Hex
                (Chunked.chunks descriptor.chunkSize.toNat bytes) := by
  constructor
  · intro read
    simp only [getBytesChunked, bind_eq_ok_iff] at read
    obtain ⟨found, gotManifest, rest⟩ := read
    cases found with
    | none => cases rest
    | some descriptor =>
        obtain ⟨-, valid, -, -⟩ :=
          (getManifest_eq_some_iff readsManifests intact descriptor).mp gotManifest
        simp only [bind_eq_ok_iff] at rest
        obtain ⟨collected, gotChunks, rest⟩ := rest
        cases collected with
        | none => cases rest
        | some collected =>
            simp only [bind_eq_ok_iff, validateReassembledBlob_eq_ok_iff valid,
              Except.ok.injEq, Option.some.injEq] at rest
            obtain ⟨_, ⟨sameLength, sameHash⟩, rfl⟩ := rest
            rw [collectChunks_eq_some_iff intact valid descriptor.chunkHashes 0 [] collected rfl]
              at gotChunks
            obtain ⟨pieces, held, lengths, rfl⟩ := gotChunks
            rw [List.nil_append] at sameLength sameHash ⊢
            have isCut := eq_chunks_flatten valid.sizePositive lengths
            obtain ⟨named, holds⟩ := (map_chunks_eq_iff intact _ pieces).mp held
            have word := descriptor.byteLen.toNat_lt
            refine ⟨descriptor, gotManifest, by omega, ?_, isCut ▸ holds⟩
            have sameSize : max descriptor.chunkSize 1 = descriptor.chunkSize := by
              apply UInt64.toNat_inj.mp
              have positive := valid.sizePositive
              rw [toNat_max_one]
              omega
            rw [describeBlob, sameSize, sameHash, sameLength, ← isCut, ← named,
              UInt64.ofNat_toNat]
  · rintro ⟨descriptor, gotManifest, short, described, holds⟩
    obtain ⟨-, valid, -, -⟩ :=
      (getManifest_eq_some_iff readsManifests intact descriptor).mp gotManifest
    have sameHash : descriptor.hash = blake3Hex bytes := congrArg BlobDescriptor.hash described
    have sameLength : descriptor.byteLen.toNat = bytes.length := by
      rw [congrArg BlobDescriptor.byteLen described]
      exact UInt64.toNat_ofNat_of_lt' short
    have sameSize : max descriptor.chunkSize 1 = descriptor.chunkSize :=
      (congrArg BlobDescriptor.chunkSize described).symm
    have named :
        descriptor.chunkHashes =
          (Chunked.chunks descriptor.chunkSize.toNat bytes).map blake3Hex := by
      have hashes := congrArg BlobDescriptor.chunkHashes described
      rwa [describeBlob, sameSize] at hashes
    have whole : (Chunked.chunks descriptor.chunkSize.toNat bytes).flatten = bytes :=
      flatten_chunks valid.sizePositive bytes
    have read :=
      getBytesChunked_of_pieces readsManifests intact gotManifest
        ((map_chunks_eq_iff intact _ _).mpr ⟨named, holds⟩)
        (by rw [map_length_chunks, BlobDescriptor.expectedLengths, sameLength])
        (by rw [whole, sameHash])
    rwa [whole] at read

/-- A whole blob is read first, and then the chunked form. -/
theorem getCompleteBytes_eq_some_iff
    (intact : store.Intact blake3Hex) (isHash : isBlobHash hash = true) (bytes : Bytes) :
    store.getCompleteBytes blake3Hex fromSlice hash = .ok (some bytes) ↔
      store.blobs[hash]? = some bytes ∨
        store.blobs[hash]? = none ∧
          store.getBytesChunked blake3Hex fromSlice hash = .ok (some bytes) := by
  simp only [getCompleteBytes, bind_eq_ok_iff, getBytes_eq intact isHash, Except.ok.injEq,
    exists_eq_left']
  cases store.blobs[hash]? with
  | none => simp
  | some file => simp

end Reading

end BlobStore

end Chaft

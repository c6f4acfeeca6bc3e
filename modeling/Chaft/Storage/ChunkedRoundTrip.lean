import Chaft.Storage.BlobCompleteness

/-!
# The round trip of chunked blobs

A blob that is put in in chunks is written with its manifest and all of its chunks.
It is read back exactly when the manifest is within the limit on manifest files,
which is a limit on reading alone: the number of chunks that a plan allows goes
beyond it.
-/

namespace Chaft

open Outcome Keyed Effects Effects.Effect Transition Chunked

namespace BlobStore

section Chunks

variable {blake3Hex : Bytes → String} {disk : Disk} {items : List (String × Bytes)}
variable {store after : BlobStore}

theorem getElem?_chunks_insert (store : BlobStore) (hash key : String) (file : Bytes) :
    (store.changeFiles (·.insert hash file) .chunks).chunks[key]? =
      if hash = key then some file else store.chunks[key]? := by
  simp only [changeFiles, Std.ExtTreeMap.getElem?_insert, Std.LawfulEqCmp.compare_eq_iff_eq]

/-- Chunks are added to a store and nothing else is changed. -/
structure ChunksPut (items : List (String × Bytes)) (before after : BlobStore) : Prop where
  blobs : after.blobs = before.blobs
  manifests : after.manifests = before.manifests
  kept :
    ∀ (hash : String) (file : Bytes), before.chunks[hash]? = some file →
      after.chunks[hash]? = some file
  there : ∀ item ∈ items, ∃ file : Bytes, after.chunks[item.1]? = some file
  added :
    ∀ (hash : String) (file : Bytes), after.chunks[hash]? = some file →
      before.chunks[hash]? = some file ∨ (hash, file) ∈ items

theorem chunksPut_of_forEach
    (put :
      forEach (fun (item : String × Bytes) => putChunkWithHash blake3Hex disk item.1 item.2)
        items store = (.ok (), after)) :
    ChunksPut items store after := by
  induction items generalizing store with
  | nil =>
      simp only [forEach, pure_apply_eq_ok_iff] at put
      obtain ⟨-, rfl⟩ := put
      exact
        { blobs := rfl
          manifests := rfl
          kept := fun _ _ found => found
          there := fun _ member => absurd member List.not_mem_nil
          added := fun _ _ found => .inl found }
  | cons item rest inductionHypothesis =>
      simp only [forEach, bind_apply_eq_ok_iff] at put
      obtain ⟨_, middle, first, others⟩ := put
      have later := inductionHypothesis others
      obtain ⟨-, -, -, ⟨⟨file, found⟩, rfl⟩ | ⟨absent, -, rfl⟩⟩ :=
        putChunkWithHash_eq_ok_iff.mp first
      · exact
          { blobs := later.blobs
            manifests := later.manifests
            kept := later.kept
            there := by
              intro other member
              rcases List.mem_cons.mp member with rfl | member
              · exact ⟨file, later.kept _ _ found⟩
              · exact later.there other member
            added := by
              intro hash file found
              exact (later.added hash file found).imp_right (List.mem_cons_of_mem item) }
      · exact
          { blobs := later.blobs
            manifests := later.manifests
            kept := by
              intro hash file found
              apply later.kept
              rw [getElem?_chunks_insert]
              by_cases same : item.1 = hash
              · rw [← same, absent] at found
                cases found
              · rw [if_neg same]
                exact found
            there := by
              intro other member
              rcases List.mem_cons.mp member with rfl | member
              · refine ⟨other.2, later.kept _ _ ?_⟩
                rw [getElem?_chunks_insert, if_pos rfl]
              · exact later.there other member
            added := by
              intro hash file found
              rcases later.added hash file found with before | listed
              · rw [getElem?_chunks_insert] at before
                by_cases same : item.1 = hash
                · rw [if_pos same, Option.some.injEq] at before
                  subst same before
                  exact .inr List.mem_cons_self
                · rw [if_neg same] at before
                  exact .inl before
              · exact .inr (List.mem_cons_of_mem item listed) }

end Chunks

section Writing

variable {blake3Hex : Bytes → String} {disk : Disk} {bytes : Bytes} {chunkSize : UInt64}
variable {store after : BlobStore}

/-- The chunks of a blob, each with its hash. -/
private theorem zip_hashes (pieces : List Bytes) :
    (pieces.map blake3Hex).zip pieces = pieces.map fun piece => (blake3Hex piece, piece) := by
  induction pieces with
  | nil => rfl
  | cons piece rest inductionHypothesis =>
      rw [List.map_cons, List.zip_cons_cons, inductionHypothesis, List.map_cons]

private theorem chunkItems (bytes : Bytes) (chunkSize : UInt64) :
    (describeBlob blake3Hex bytes (max chunkSize 1)).chunkHashes.zip
        (Chunked.chunks (describeBlob blake3Hex bytes (max chunkSize 1)).chunkSize.toNat bytes) =
      (Chunked.chunks (max chunkSize 1).toNat bytes).map fun piece => (blake3Hex piece, piece) := by
  simp only [describeBlob, max_one_max_one, zip_hashes]

/-- What a call that succeeds has written. -/
theorem putBytesChunked_eq_ok
    {descriptor : BlobDescriptor}
    (put : putBytesChunked blake3Hex disk bytes chunkSize store = (.ok descriptor, after)) :
    validateChunkPlan bytes.length (max chunkSize 1) = .ok () ∧
      descriptor = describeBlob blake3Hex bytes (max chunkSize 1) ∧
        after.manifests[blake3Hex bytes]? = some (manifestJson descriptor) ∧
          (∀ piece ∈ Chunked.chunks (max chunkSize 1).toNat bytes,
            ∃ file, after.chunks[blake3Hex piece]? = some file) ∧
            after.blobs = store.blobs := by
  simp only [putBytesChunked, bind_apply_eq_ok_iff, lift_eq_ok_iff, pure_apply_eq_ok_iff,
    putManifest, writeFileAtomically_eq_ok_iff] at put
  obtain ⟨_, _, ⟨planned, rfl⟩, _, middle, ⟨_, _, ⟨-, rfl⟩, -, rfl⟩, _, _, written, rfl, rfl⟩ := put
  rw [chunkItems] at written
  have chunksPut := chunksPut_of_forEach written
  refine ⟨planned, rfl, ?_, ?_, chunksPut.blobs⟩
  · rw [chunksPut.manifests]
    exact Std.ExtTreeMap.getElem?_insert_self
  · intro piece member
    exact chunksPut.there (blake3Hex piece, piece) (List.mem_map_of_mem member)

/-- A plan that passes is carried out on a sound disk. -/
theorem exists_putBytesChunked
    (hexDigests : HexDigests blake3Hex) (store : BlobStore)
    (planned : validateChunkPlan bytes.length (max chunkSize 1) = .ok ()) :
    ∃ after,
      putBytesChunked blake3Hex .sound bytes chunkSize store =
        (.ok (describeBlob blake3Hex bytes (max chunkSize 1)), after) := by
  have valid : (describeBlob blake3Hex bytes (max chunkSize 1)).Valid :=
    describeBlob_valid blake3Hex hexDigests (by rw [max_one_max_one]; exact planned)
  have bounded := ((validateChunkPlan_eq_ok_iff _ _ ()).mp planned).2.2.1
  have each :
      ∀ item ∈ (Chunked.chunks (max chunkSize 1).toNat bytes).map
          fun piece => (blake3Hex piece, piece),
        ∀ state, ∃ after,
          putChunkWithHash blake3Hex .sound item.1 item.2 state = (.ok (), after) := by
    intro item member state
    obtain ⟨piece, inPieces, rfl⟩ := List.mem_map.mp member
    have small := (length_le_of_mem_chunks inPieces).trans bounded
    cases found : state.chunks[blake3Hex piece]? with
    | none =>
        exact ⟨_, putChunkWithHash_eq_ok_iff.mpr
          ⟨hexDigests piece, small, rfl, .inr ⟨found, rfl, rfl⟩⟩⟩
    | some file =>
        exact ⟨_, putChunkWithHash_eq_ok_iff.mpr
          ⟨hexDigests piece, small, rfl, .inl ⟨⟨file, found⟩, rfl⟩⟩⟩
  obtain ⟨final, written⟩ :=
    forEach_succeeds each
      (store.changeFiles
        (·.insert (describeBlob blake3Hex bytes (max chunkSize 1)).hash
          (manifestJson (describeBlob blake3Hex bytes (max chunkSize 1)))) .manifests)
  rw [← chunkItems] at written
  refine ⟨final, ?_⟩
  simp only [putBytesChunked, bind_apply_eq_ok_iff, lift_eq_ok_iff, pure_apply_eq_ok_iff,
    putManifest, writeFileAtomically_eq_ok_iff]
  exact ⟨(), store, ⟨planned, rfl⟩, (), _,
    ⟨(), store, ⟨validateDescriptor_of_valid valid, rfl⟩, rfl, rfl⟩, (), final, written,
      trivial, rfl⟩

end Writing

section Reading

variable {blake3Hex : Bytes → String} {fromSlice : Bytes → Option BlobDescriptor}
variable {store : BlobStore} {hash : String}

/-- With a manifest and all of its chunks a blob is reported as complete. -/
theorem hasCompleteBlob_of_present
    (readsManifests : ReadsManifests fromSlice) (intact : store.Intact blake3Hex)
    {descriptor : BlobDescriptor}
    (gotManifest : store.getManifest fromSlice hash = .ok (some descriptor))
    (present :
      ∀ chunkIndex chunkHash, descriptor.chunkHashes[chunkIndex]? = some chunkHash →
        store.hasExpectedChunkLen descriptor chunkIndex = .ok true) :
    store.hasCompleteBlob fromSlice hash = .ok true := by
  obtain ⟨-, valid, rfl, -⟩ :=
    (getManifest_eq_some_iff readsManifests intact descriptor).mp gotManifest
  have isWhole := hasBlob_eq intact valid.hash
  have divided :
      store.splitChunkHashes descriptor 0 descriptor.chunkHashes =
        .ok (descriptor.chunkHashes.filter fun _ => true,
          descriptor.chunkHashes.filter fun _ => !true) :=
    splitChunkHashes_eq present descriptor.chunkHashes 0 rfl
  have accepted := validateBlobAvailability_of_filter valid (fun _ => true)
  simp only [Bool.not_true, List.filter_true, List.filter_false] at divided accepted
  cases whole : store.blobs[descriptor.hash]?.isSome with
  | true =>
      rw [whole] at isWhole
      simp [hasCompleteBlob, isWhole, bind, Except.bind]
  | false =>
      rw [whole] at isWhole
      simp only [hasCompleteBlob, isWhole, bind_eq_ok_iff, Except.ok.injEq, exists_eq_left',
        Bool.false_eq_true, if_false]
      refine ⟨some
        { hash := descriptor.hash
          hasWholeBlob := false
          descriptor := some descriptor
          availableChunkHashes := descriptor.chunkHashes
          missingChunkHashes := [] }, ?_, ?_⟩
      · simp only [BlobStore.availability, isWhole, gotManifest, bind_eq_ok_iff,
          validateHash_eq_ok_iff, Except.ok.injEq, exists_eq_left']
        refine ⟨(), valid.hash, ?_⟩
        simp only [Option.isNone_some, Bool.false_eq_true, and_false, if_false, divided,
          bind_eq_ok_iff, Except.ok.injEq, exists_eq_left']
      · simp [BlobAvailability.isComplete, accepted]

end Reading

end BlobStore

/-! ## The round trip -/

section RoundTrip

variable (blake3Hex : Bytes → String) (fromSlice : Bytes → Option BlobDescriptor)

/-- The blobs and chunks that a store holds. -/
def BlobStore.contents (store : BlobStore) : Set Bytes :=
  {file | ∃ hash : String, store.blobs[hash]? = some file ∨ store.chunks[hash]? = some file}

/-- A blob and its pieces. -/
def blobForms (bytes : Bytes) (chunkSize : UInt64) : Set Bytes :=
  {piece | piece = bytes ∨ piece ∈ chunks (max chunkSize 1).toNat bytes}

/-- A blob can be read in each of its forms. -/
structure BlobStore.RoundTrips
    (store : BlobStore) (bytes : Bytes) (descriptor : BlobDescriptor) : Prop where
  described : validateBlobDescriptor descriptor = .ok ()
  chunked : store.getBytesChunked blake3Hex fromSlice descriptor.hash = .ok (some bytes)
  complete : store.getCompleteBytes blake3Hex fromSlice descriptor.hash = .ok (some bytes)
  reported : store.hasCompleteBlob fromSlice descriptor.hash = .ok true

variable {blake3Hex fromSlice}

section Put

variable {disk : Disk} {bytes : Bytes} {chunkSize : UInt64} {store after : BlobStore}
variable {descriptor : BlobDescriptor}

/-- A call keeps the store intact and adds pieces of the blob alone. -/
theorem putBytesChunked_all
    (hexDigests : HexDigests blake3Hex) (intact : store.Intact blake3Hex)
    (put : BlobStore.putBytesChunked blake3Hex disk bytes chunkSize store = (.ok descriptor, after)) :
    after.Intact blake3Hex ∧
      ∀ file ∈ after.contents, file ∈ store.contents ∪ blobForms bytes chunkSize := by
  have performed :
      BlobOperation.perform blake3Hex readManifest disk store (.putBytesChunked bytes chunkSize) =
        after := by
    rw [BlobOperation.perform, put]
  have kept :
      after.All fun area _ file =>
        area = .manifests ∨ file ∈ store.contents ∪ blobForms bytes chunkSize := by
    rw [← performed]
    refine BlobOperation.perform_all hexDigests ?_ ?_
    · intro area hash file writes
      cases writes with
      | manifestOfBytes short valid => exact .inl rfl
      | piece member small =>
          simp only [describeBlob, max_one_max_one] at member
          exact .inr (.inr (.inr member))
    · intro area hash file found
      cases area with
      | manifests => exact .inl rfl
      | blobs => exact .inr (.inl ⟨hash, .inl found⟩)
      | chunks => exact .inr (.inl ⟨hash, .inr found⟩)
  constructor
  · rw [← performed]
    exact BlobOperation.perform_all hexDigests (fun _ _ _ writes => writes.isIntact) intact
  · rintro file ⟨hash, found | found⟩
    · exact (kept .blobs hash file found).resolve_left (by decide)
    · exact (kept .chunks hash file found).resolve_left (by decide)

/-- A blob is read back when its manifest is. -/
theorem roundTrips_of_manifest
    (hexDigests : HexDigests blake3Hex) (readsManifests : ReadsManifests fromSlice)
    (intact : store.Intact blake3Hex)
    (collisionFree : Set.InjOn blake3Hex (store.contents ∪ blobForms bytes chunkSize))
    (put : BlobStore.putBytesChunked blake3Hex disk bytes chunkSize store = (.ok descriptor, after))
    (few : chunkCount bytes.length (max chunkSize 1).toNat ≤ manifestChunkLimit) :
    after.RoundTrips blake3Hex fromSlice bytes descriptor := by
  obtain ⟨planned, described, manifest, written, -⟩ := BlobStore.putBytesChunked_eq_ok put
  obtain ⟨intactAfter, contents⟩ := putBytesChunked_all hexDigests intact put
  have short := ((validateChunkPlan_eq_ok_iff _ _ ()).mp planned).1
  have valid : descriptor.Valid := by
    rw [described]
    exact describeBlob_valid blake3Hex hexDigests (by rw [max_one_max_one]; exact planned)
  have sameSize : descriptor.chunkSize = max chunkSize 1 := by
    rw [described]
    exact max_one_max_one chunkSize
  have sameHash : descriptor.hash = blake3Hex bytes := by
    rw [described]
    rfl
  have counted : descriptor.chunkHashes.length ≤ manifestChunkLimit := by
    have length : descriptor.chunkHashes.length =
        chunkCount bytes.length (max chunkSize 1).toNat := by
      rw [described]
      simp only [describeBlob, List.length_map, length_chunks, max_one_max_one]
    omega
  have gotManifest : after.getManifest fromSlice descriptor.hash = .ok (some descriptor) := by
    rw [BlobStore.getManifest_eq_some_iff readsManifests intactAfter]
    exact ⟨sameHash ▸ manifest, valid, rfl, counted⟩
  have whole : bytes ∈ store.contents ∪ blobForms bytes chunkSize := .inr (.inl rfl)
  have holds :
      after.HoldsChunks blake3Hex (chunks descriptor.chunkSize.toNat bytes) := by
    intro piece member
    rw [sameSize] at member
    obtain ⟨file, found⟩ := written piece member
    obtain ⟨named, -⟩ := intactAfter .chunks _ file found
    have inPlay := contents file ⟨_, .inr found⟩
    rw [found, collisionFree inPlay (.inr (.inr member)) named]
  have chunked : after.getBytesChunked blake3Hex fromSlice descriptor.hash = .ok (some bytes) := by
    rw [BlobStore.getBytesChunked_eq_some_iff readsManifests intactAfter]
    refine ⟨descriptor, gotManifest, short, ?_, holds⟩
    rw [sameSize]
    exact described
  refine
    { described := validateDescriptor_of_valid valid
      chunked := chunked
      complete := ?_
      reported := ?_ }
  · rw [BlobStore.getCompleteBytes_eq_some_iff intactAfter valid.hash]
    cases found : after.blobs[descriptor.hash]? with
    | none => exact .inr ⟨rfl, chunked⟩
    | some file =>
        obtain ⟨named, -⟩ := intactAfter .blobs _ file found
        have inPlay := contents file ⟨_, .inl found⟩
        exact .inl (congrArg some (collisionFree inPlay whole (named.trans sameHash)))
  · apply BlobStore.hasCompleteBlob_of_present readsManifests intactAfter gotManifest
    intro chunkIndex chunkHash atIndex
    rw [BlobStore.hasExpectedChunkLen_eq valid atIndex]
    rw [described] at atIndex
    obtain ⟨piece, member, rfl, length⟩ := describeBlob_piece blake3Hex short atIndex
    rw [max_one_max_one, ← sameSize] at member
    rw [holds piece member, Option.any_some, described, ← length, decide_eq_true rfl]

/-- A blob of too many chunks for its manifest cannot be read in chunks. -/
theorem not_roundTrips_of_many
    (hexDigests : HexDigests blake3Hex) (readsManifests : ReadsManifests fromSlice)
    (intact : store.Intact blake3Hex)
    (put : BlobStore.putBytesChunked blake3Hex disk bytes chunkSize store = (.ok descriptor, after))
    (many : manifestChunkLimit < chunkCount bytes.length (max chunkSize 1).toNat) :
    ¬ after.RoundTrips blake3Hex fromSlice bytes descriptor := by
  intro roundTrips
  obtain ⟨planned, rfl, manifest, -, -⟩ := BlobStore.putBytesChunked_eq_ok put
  obtain ⟨intactAfter, -⟩ := putBytesChunked_all hexDigests intact put
  have read := roundTrips.chunked
  rw [BlobStore.getBytesChunked_eq_some_iff readsManifests intactAfter] at read
  obtain ⟨descriptor, gotManifest, -⟩ := read
  rw [BlobStore.getManifest_eq_some_iff readsManifests intactAfter] at gotManifest
  obtain ⟨stored, valid, -, limited⟩ := gotManifest
  have sameManifest := Option.some.inj (manifest.symm.trans stored)
  have describedValid : (describeBlob blake3Hex bytes (max chunkSize 1)).Valid :=
    describeBlob_valid blake3Hex hexDigests (by rw [max_one_max_one]; exact planned)
  rw [← manifestJson_fits_iff valid, ← sameManifest, manifestJson_fits_iff describedValid]
    at limited
  simp only [describeBlob, List.length_map, length_chunks, max_one_max_one] at limited
  omega

end Put

/-- The plan of a blob is refused, or its manifest can be read back. -/
def PlanReadable (length : Nat) (chunkSize : UInt64) : Prop :=
  blobChunkFileMaxBytes < max chunkSize.toNat 1 ∨
    blobDescriptorMaxChunks < chunkCount length (max chunkSize.toNat 1) ∨
      chunkCount length (max chunkSize.toNat 1) ≤ manifestChunkLimit

/-- A blob that is put in in chunks is read back exactly when it has few enough
chunks for its manifest. -/
theorem putBytesChunked_roundTrips_iff
    (hexDigests : HexDigests blake3Hex) (readsManifests : ReadsManifests fromSlice)
    {calls : List BlobCall} {store : BlobStore}
    (ran : BlobStore.After blake3Hex fromSlice calls store)
    (bytes : Bytes) (chunkSize : UInt64)
    (collisionFree : Set.InjOn blake3Hex (store.contents ∪ blobForms bytes chunkSize)) :
    (∀ disk descriptor after,
      BlobStore.putBytesChunked blake3Hex disk bytes chunkSize store = (.ok descriptor, after) →
        after.RoundTrips blake3Hex fromSlice bytes descriptor) ↔
      PlanReadable bytes.length chunkSize := by
  have intact := BlobStore.After.intact hexDigests ran
  have sameSize := toNat_max_one chunkSize
  constructor
  · intro roundTrips
    by_contra unreadable
    simp only [PlanReadable, not_or, Nat.not_lt, ← sameSize] at unreadable
    obtain ⟨bounded, few, many⟩ := unreadable
    have positive : 0 < (max chunkSize 1).toNat := by omega
    have short : bytes.length < 2 ^ 64 := by
      have covered := le_chunkCount_mul positive bytes.length
      have product := Nat.mul_le_mul few bounded
      rw [blobDescriptorMaxChunks, blobChunkFileMaxBytes] at product
      omega
    have planned : validateChunkPlan bytes.length (max chunkSize 1) = .ok () :=
      (validateChunkPlan_eq_ok_iff _ _ ()).mpr ⟨short, positive, bounded, few⟩
    obtain ⟨after, put⟩ := BlobStore.exists_putBytesChunked hexDigests store planned
    exact not_roundTrips_of_many hexDigests readsManifests intact put (Nat.lt_of_not_le many)
      (roundTrips _ _ _ put)
  · intro readable disk descriptor after put
    obtain ⟨planned, -⟩ := BlobStore.putBytesChunked_eq_ok put
    obtain ⟨-, -, bounded, fewPlanned⟩ := (validateChunkPlan_eq_ok_iff _ _ ()).mp planned
    simp only [PlanReadable, ← sameSize] at readable
    have few : chunkCount bytes.length (max chunkSize 1).toNat ≤ manifestChunkLimit := by
      omega
    exact roundTrips_of_manifest hexDigests readsManifests intact collisionFree put few

end RoundTrip

/-- One of the chunks of a blob is there before. -/
def chunkArrival : List BlobCall :=
  [(.sound, .putChunkWithHash (sampleBlake3Hex [0x78, 0x79]) [0x78, 0x79])]

theorem putBytesChunked_roundTrips_iff_chunked :
    (∀ disk descriptor after,
      BlobStore.putBytesChunked sampleBlake3Hex disk [0x78, 0x79, 0x7a] 2
          (sampleReplay chunkArrival) = (.ok descriptor, after) →
        after.RoundTrips sampleBlake3Hex readManifest [0x78, 0x79, 0x7a] descriptor) ↔
      PlanReadable 3 2 := by
  have inPlay :
      ∀ file ∈ (sampleReplay chunkArrival).contents ∪ blobForms [0x78, 0x79, 0x7a] 2,
        file = [0x78, 0x79, 0x7a] ∨ file = [0x78, 0x79] ∨ file = [0x7a] := by
    rintro file (⟨hash, found | found⟩ | rfl | member)
    · have none : (sampleReplay chunkArrival).blobs[hash]? = none :=
        Std.ExtTreeMap.getElem?_empty
      rw [none] at found
      cases found
    · have only : (sampleReplay chunkArrival).chunks[hash]? =
          if sampleBlake3Hex [0x78, 0x79] = hash then some [0x78, 0x79] else none := by
        have written : sampleReplay chunkArrival =
            BlobStore.empty.changeFiles
              (·.insert (sampleBlake3Hex [0x78, 0x79]) [0x78, 0x79]) .chunks := by
          have put :
              BlobStore.putChunkWithHash sampleBlake3Hex .sound (sampleBlake3Hex [0x78, 0x79])
                  [0x78, 0x79] .empty =
                (.ok (), BlobStore.empty.changeFiles
                  (·.insert (sampleBlake3Hex [0x78, 0x79]) [0x78, 0x79]) .chunks) :=
            BlobStore.putChunkWithHash_eq_ok_iff.mpr
              ⟨sampleBlake3Hex_hexDigests [0x78, 0x79], by decide, rfl,
                .inr ⟨Std.ExtTreeMap.getElem?_empty, rfl, rfl⟩⟩
          exact congrArg Prod.snd put
        rw [written, BlobStore.getElem?_chunks_insert]
        rfl
      rw [only] at found
      split at found
      · exact .inr (.inl (Option.some.inj found).symm)
      · cases found
    · exact .inl rfl
    · have cut : file ∈ [[0x78, 0x79], [0x7a]] := member
      simpa using Or.inr cut
  apply putBytesChunked_roundTrips_iff sampleBlake3Hex_hexDigests readManifest_reads
    (BlobStore.after_replay _ _ chunkArrival) [0x78, 0x79, 0x7a] 2
  intro left inLeft right inRight same
  rcases inPlay left inLeft with rfl | rfl | rfl <;>
    rcases inPlay right inRight with rfl | rfl | rfl <;>
      first
      | rfl
      | exact absurd same (by decide +kernel)

/-- A blob of 15649 bytes in chunks of one byte is written and cannot be read. -/
theorem putBytesChunked_not_roundTrips :
    ∃ after,
      BlobStore.putBytesChunked sampleBlake3Hex .sound (List.replicate 15649 0) 1 .empty =
          (.ok (describeBlob sampleBlake3Hex (List.replicate 15649 0) 1), after) ∧
        ¬ after.RoundTrips sampleBlake3Hex readManifest (List.replicate 15649 0)
            (describeBlob sampleBlake3Hex (List.replicate 15649 0) 1) := by
  have one : max (1 : UInt64) 1 = 1 := by decide
  have count : chunkCount (List.replicate 15649 (0 : UInt8)).length (max (1 : UInt64) 1).toNat =
      15649 := by
    rw [one, UInt64.toNat_one, chunkCount_one, List.length_replicate]
  have planned :
      validateChunkPlan (List.replicate 15649 (0 : UInt8)).length (max 1 1) = .ok () := by
    rw [validateChunkPlan_eq_ok_iff, count, List.length_replicate]
    decide
  obtain ⟨after, put⟩ :=
    BlobStore.exists_putBytesChunked sampleBlake3Hex_hexDigests .empty planned
  refine ⟨after, one ▸ put, ?_⟩
  apply not_roundTrips_of_many sampleBlake3Hex_hexDigests readManifest_reads
    BlobStore.all_empty (one ▸ put)
  rw [count, manifestChunkLimit]
  decide

end Chaft

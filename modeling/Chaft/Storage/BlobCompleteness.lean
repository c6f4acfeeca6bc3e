import Chaft.Storage.IntactBlobs

/-!
# What a blob store reports as complete

The report goes by the lengths of the chunk files and by the manifest, which can
come from anywhere.  It is true as long as the manifests fit the chunks that are
around: chunks that match a manifest in hash and length make up the blob that it
names, and no chunk matches one hash of it at two expected lengths.
-/

namespace Chaft

open Outcome Keyed Effects Transition Chunked

section Fitting

variable (blake3Hex : Bytes → String) (contents : Set Bytes)

/-- A descriptor is right about some contents as far as they match its chunks. -/
structure BlobDescriptor.Fits (descriptor : BlobDescriptor) : Prop where
  oneLength :
    ∀ content ∈ contents, ∀ chunkIndex otherIndex,
      descriptor.chunkHashes[chunkIndex]? = some (blake3Hex content) →
        descriptor.chunkHashes[otherIndex]? = some (blake3Hex content) →
          content.length = descriptor.expectedLength chunkIndex →
            content.length = descriptor.expectedLength otherIndex
  reassembles :
    ∀ pieces : List Bytes, (∀ piece ∈ pieces, piece ∈ contents) →
      pieces.map blake3Hex = descriptor.chunkHashes →
        pieces.map List.length = descriptor.expectedLengths →
          blake3Hex pieces.flatten = descriptor.hash

/-- Manifests fit the contents, and the chunks are among them. -/
def FitsFile : BlobArea → String → Bytes → Prop
  | .blobs, _, _ => True
  | .chunks, _, file => file ∈ contents
  | .manifests, _, file =>
      ∀ descriptor : BlobDescriptor, descriptor.Valid → file = manifestJson descriptor →
        descriptor.Fits blake3Hex contents

end Fitting

/-- The description of a blob fits contents that hold its pieces, as long as hashes
tell the contents apart. -/
theorem describeBlob_fits
    {blake3Hex : Bytes → String} {contents : Set Bytes}
    (collisionFree : Set.InjOn blake3Hex contents) {bytes : Bytes} {chunkSize : UInt64}
    (short : bytes.length < 2 ^ 64)
    (pieces :
      ∀ piece ∈ chunks (describeBlob blake3Hex bytes chunkSize).chunkSize.toNat bytes,
        piece ∈ contents) :
    (describeBlob blake3Hex bytes chunkSize).Fits blake3Hex contents := by
  have positive : 0 < (max chunkSize 1).toNat := by
    rw [toNat_max_one]
    omega
  constructor
  · intro content inContents _ otherIndex _ named _
    obtain ⟨piece, member, sameHash, length⟩ := describeBlob_piece blake3Hex short named
    rw [← collisionFree (pieces piece member) inContents sameHash]
    exact length
  · intro others inContents sameHashes _
    have same : others = chunks (max chunkSize 1).toNat bytes :=
      Keyed.map_injOn_eq collisionFree inContents pieces sameHashes
    rw [same, flatten_chunks positive]
    rfl

namespace BlobStore

section Reports

variable {blake3Hex : Bytes → String} {fromSlice : Bytes → Option BlobDescriptor}
variable {store : BlobStore} {hash : String}

theorem hasExpectedChunkLen_eq
    {descriptor : BlobDescriptor} (valid : descriptor.Valid) {chunkIndex : Nat}
    {chunkHash : String} (atIndex : descriptor.chunkHashes[chunkIndex]? = some chunkHash) :
    store.hasExpectedChunkLen descriptor chunkIndex =
      .ok (store.chunks[chunkHash]?.any fun file =>
        decide (file.length = descriptor.expectedLength chunkIndex)) := by
  have isHash := valid.chunkHashes chunkHash (List.mem_of_getElem? atIndex)
  obtain ⟨inside, -⟩ := List.getElem?_eq_some_iff.mp atIndex
  simp only [hasExpectedChunkLen, bind_eq_ok_iff, okOr_eq_ok_iff, validateHash_eq_ok_iff]
  refine ⟨chunkHash, atIndex, (), isHash, ?_⟩
  cases store.chunks[chunkHash]? with
  | none => rfl
  | some file =>
      simp only [bind_eq_ok_iff, valid.expectedChunkByteLen inside, Except.ok.injEq]
      exact ⟨_, rfl, by simp⟩

/-- The division goes by the hash alone where the answer for a chunk does. -/
theorem splitChunkHashes_eq
    {descriptor : BlobDescriptor} {present : String → Bool}
    (uniform :
      ∀ chunkIndex chunkHash, descriptor.chunkHashes[chunkIndex]? = some chunkHash →
        store.hasExpectedChunkLen descriptor chunkIndex = .ok (present chunkHash))
    (rest : List String) (chunkIndex : Nat)
    (isRest : descriptor.chunkHashes.drop chunkIndex = rest) :
    store.splitChunkHashes descriptor chunkIndex rest =
      .ok (rest.filter present, rest.filter fun chunkHash => !present chunkHash) := by
  induction rest generalizing chunkIndex with
  | nil => rfl
  | cons chunkHash rest inductionHypothesis =>
      have inside : chunkIndex < descriptor.chunkHashes.length := by
        by_contra outside
        rw [List.drop_eq_nil_of_le (Nat.le_of_not_lt outside)] at isRest
        cases isRest
      rw [List.drop_eq_getElem_cons inside, List.cons.injEq] at isRest
      have atIndex : descriptor.chunkHashes[chunkIndex]? = some chunkHash := by
        rw [List.getElem?_eq_getElem inside, isRest.1]
      simp only [splitChunkHashes, bind_eq_ok_iff, uniform chunkIndex chunkHash atIndex,
        Except.ok.injEq, exists_eq_left', inductionHypothesis (chunkIndex + 1) isRest.2]
      cases isPresent : present chunkHash with
      | true => simp [isPresent]
      | false => simp [isPresent]

/-- Chunks that are all there with the expected lengths. -/
theorem exists_pieces
    {descriptor : BlobDescriptor} (valid : descriptor.Valid)
    (complete :
      ∀ chunkIndex chunkHash, descriptor.chunkHashes[chunkIndex]? = some chunkHash →
        store.hasExpectedChunkLen descriptor chunkIndex = .ok true) :
    ∃ pieces : List Bytes,
      descriptor.chunkHashes.map (fun chunkHash => store.chunks[chunkHash]?) = pieces.map some ∧
        pieces.map List.length = descriptor.expectedLengths := by
  have pieceAt {chunkIndex : Nat} {chunkHash : String}
      (atIndex : descriptor.chunkHashes[chunkIndex]? = some chunkHash) :
      ∃ file, store.chunks[chunkHash]? = some file ∧
        file.length = descriptor.expectedLength chunkIndex := by
    have isThere := complete chunkIndex chunkHash atIndex
    rw [hasExpectedChunkLen_eq valid atIndex, Except.ok.injEq] at isThere
    simpa [Option.any_eq_true] using isThere
  refine ⟨descriptor.chunkHashes.map fun chunkHash => store.chunks[chunkHash]?.getD [], ?_, ?_⟩
  · rw [List.map_map]
    apply List.map_congr_left
    intro chunkHash member
    obtain ⟨chunkIndex, atIndex⟩ := List.getElem?_of_mem member
    obtain ⟨file, found, -⟩ := pieceAt atIndex
    rw [Function.comp_apply, found, Option.getD_some]
  · apply List.ext_getElem?
    intro chunkIndex
    cases atIndex : descriptor.chunkHashes[chunkIndex]? with
    | none =>
        have outside := List.getElem?_eq_none_iff.mp atIndex
        rw [← valid.length_expectedLengths] at outside
        simp [atIndex, List.getElem?_eq_none_iff.mpr outside]
    | some chunkHash =>
        obtain ⟨inside, -⟩ := List.getElem?_eq_some_iff.mp atIndex
        obtain ⟨file, found, sameLength⟩ := pieceAt atIndex
        simp [atIndex, found, sameLength, valid.getElem?_expectedLengths inside]

/-- In a store of fitting files the hash of a chunk decides whether it is there. -/
theorem exists_uniform
    {contents : Set Bytes} (intact : store.Intact blake3Hex)
    (fitting : store.All (FitsFile blake3Hex contents)) {descriptor : BlobDescriptor}
    (valid : descriptor.Valid) (fits : descriptor.Fits blake3Hex contents) :
    ∃ present : String → Bool,
      ∀ chunkIndex chunkHash, descriptor.chunkHashes[chunkIndex]? = some chunkHash →
        store.hasExpectedChunkLen descriptor chunkIndex = .ok (present chunkHash) := by
  refine ⟨fun chunkHash => store.chunks[chunkHash]?.any fun file =>
    decide (file.length = descriptor.expectedLength (descriptor.chunkHashes.idxOf chunkHash)), ?_⟩
  intro chunkIndex chunkHash atIndex
  rw [hasExpectedChunkLen_eq valid atIndex]
  dsimp only
  cases found : store.chunks[chunkHash]? with
  | none => rfl
  | some file =>
      obtain ⟨named, -⟩ := intact .chunks chunkHash file found
      have inContents : file ∈ contents := fitting .chunks chunkHash file found
      have atFirst :
          descriptor.chunkHashes[descriptor.chunkHashes.idxOf chunkHash]? = some chunkHash :=
        List.getElem?_idxOf (List.mem_of_getElem? atIndex)
      rw [← named] at atIndex atFirst
      have there := fits.oneLength file inContents _ _ atIndex atFirst
      have back := fits.oneLength file inContents _ _ atFirst atIndex
      rw [named] at there back
      simp only [Option.any_some, Except.ok.injEq, decide_eq_decide]
      exact ⟨there, back⟩

/-- What a store of fitting files reports. -/
theorem availability_eq_some
    {contents : Set Bytes} (readsManifests : ReadsManifests fromSlice)
    (intact : store.Intact blake3Hex) (fitting : store.All (FitsFile blake3Hex contents))
    {availability : BlobAvailability}
    (reported : store.availability fromSlice hash = .ok (some availability)) :
    availability.hash = hash ∧ isBlobHash hash = true ∧
      availability.hasWholeBlob = store.blobs[hash]?.isSome ∧
        (availability.descriptor = none ∧ availability.availableChunkHashes = [] ∧
            availability.missingChunkHashes = [] ∨
          ∃ descriptor, ∃ present : String → Bool,
            store.getManifest fromSlice hash = .ok (some descriptor) ∧
              availability.descriptor = some descriptor ∧
                availability.availableChunkHashes = descriptor.chunkHashes.filter present ∧
                  availability.missingChunkHashes =
                      descriptor.chunkHashes.filter (fun chunkHash => !present chunkHash) ∧
                    ∀ chunkIndex chunkHash,
                      descriptor.chunkHashes[chunkIndex]? = some chunkHash →
                        store.hasExpectedChunkLen descriptor chunkIndex =
                          .ok (present chunkHash)) := by
  simp only [BlobStore.availability, bind_eq_ok_iff, validateHash_eq_ok_iff] at reported
  obtain ⟨_, isHash, hasWhole, isWhole, descriptor, gotManifest, reported⟩ := reported
  rw [hasBlob_eq intact isHash, Except.ok.injEq] at isWhole
  subst isWhole
  split at reported
  · cases reported
  · cases descriptor with
    | none =>
        simp only [bind_eq_ok_iff, Except.ok.injEq, exists_eq_left', Option.some.injEq] at reported
        subst reported
        exact ⟨rfl, isHash, rfl, Or.inl ⟨rfl, rfl, rfl⟩⟩
    | some descriptor =>
        obtain ⟨stored, valid, rfl, -⟩ :=
          (getManifest_eq_some_iff readsManifests intact descriptor).mp gotManifest
        have fits : descriptor.Fits blake3Hex contents :=
          fitting .manifests _ _ stored descriptor valid rfl
        obtain ⟨present, uniform⟩ := exists_uniform intact fitting valid fits
        have divided := splitChunkHashes_eq uniform descriptor.chunkHashes 0 rfl
        simp only [bind_eq_ok_iff, divided, Except.ok.injEq, exists_eq_left', Option.some.injEq]
          at reported
        subst reported
        exact ⟨rfl, isHash, rfl,
          Or.inr ⟨descriptor, present, gotManifest, rfl, rfl, rfl, uniform⟩⟩

/-- A report passes the check that a peer makes of it. -/
theorem validateBlobAvailability_reported
    {contents : Set Bytes} (readsManifests : ReadsManifests fromSlice)
    (intact : store.Intact blake3Hex) (fitting : store.All (FitsFile blake3Hex contents))
    {availability : BlobAvailability}
    (reported : store.availability fromSlice hash = .ok (some availability)) :
    validateBlobAvailability availability = .ok () := by
  obtain ⟨sameHash, isHash, -, ⟨noDescriptor, noAvailable, noMissing⟩ |
    ⟨descriptor, present, gotManifest, isDescriptor, available, missing, -⟩⟩ :=
    availability_eq_some readsManifests intact fitting reported
  · simp [validateBlobAvailability, noDescriptor, noAvailable, noMissing, sameHash, isHash]
  · obtain ⟨-, valid, rfl, -⟩ :=
      (getManifest_eq_some_iff readsManifests intact descriptor).mp gotManifest
    have accepted :=
      validateBlobAvailability_of_filter valid present availability.hasWholeBlob
    rw [← available, ← missing, ← isDescriptor, ← sameHash] at accepted
    exact accepted

/-- A blob that is reported as complete can be read. -/
theorem getCompleteBytes_of_complete
    {contents : Set Bytes} (readsManifests : ReadsManifests fromSlice)
    (intact : store.Intact blake3Hex) (fitting : store.All (FitsFile blake3Hex contents))
    (complete : store.hasCompleteBlob fromSlice hash = .ok true) :
    ∃ bytes,
      store.getCompleteBytes blake3Hex fromSlice hash = .ok (some bytes) ∧
        blake3Hex bytes = hash := by
  simp only [hasCompleteBlob, bind_eq_ok_iff] at complete
  obtain ⟨isWhole, gotWhole, complete⟩ := complete
  have isHash : isBlobHash hash = true := by
    simp only [hasBlob, bind_eq_ok_iff, validateHash_eq_ok_iff] at gotWhole
    exact gotWhole.choose_spec.1
  rw [hasBlob_eq intact isHash, Except.ok.injEq] at gotWhole
  cases found : store.blobs[hash]? with
  | some file =>
      obtain ⟨named, -⟩ := intact .blobs hash file found
      exact ⟨file, (getCompleteBytes_eq_some_iff intact isHash file).mpr (.inl found), named⟩
  | none =>
      have notWhole : isWhole = false := by
        rw [← gotWhole, found]
        rfl
      simp only [notWhole, Bool.false_eq_true, if_false, bind_eq_ok_iff, Except.ok.injEq]
        at complete
      obtain ⟨availability, reported, isComplete⟩ := complete
      cases availability with
      | none => cases isComplete
      | some availability =>
          obtain ⟨sameHash, -, isWhole, report⟩ :=
            availability_eq_some readsManifests intact fitting reported
          rw [found, Option.isSome_none] at isWhole
          rw [Option.any_some, BlobAvailability.isComplete,
            validateBlobAvailability_reported readsManifests intact fitting reported] at isComplete
          simp only [isWhole, Bool.false_or] at isComplete
          obtain ⟨noDescriptor, -, -⟩ | ⟨descriptor, present, gotManifest, isDescriptor,
            available, missing, uniform⟩ := report
          · simp [noDescriptor] at isComplete
          · obtain ⟨stored, valid, named, -⟩ :=
              (getManifest_eq_some_iff readsManifests intact descriptor).mp gotManifest
            have noneMissing : availability.missingChunkHashes = [] := by
              simp only [isDescriptor, Bool.and_eq_true, List.isEmpty_iff] at isComplete
              exact isComplete.1.1.2
            have allPresent : ∀ chunkHash ∈ descriptor.chunkHashes, present chunkHash = true := by
              rw [missing, List.filter_eq_nil_iff] at noneMissing
              simpa using noneMissing
            obtain ⟨pieces, held, lengths⟩ :=
              exists_pieces valid fun chunkIndex chunkHash atIndex => by
                rw [uniform chunkIndex chunkHash atIndex,
                  allPresent chunkHash (List.mem_of_getElem? atIndex)]
            obtain ⟨sameHashes, holds⟩ := (map_chunks_eq_iff intact _ pieces).mp held
            have inContents : ∀ piece ∈ pieces, piece ∈ contents :=
              fun piece member => fitting .chunks _ piece (holds piece member)
            have fits : descriptor.Fits blake3Hex contents :=
              fitting .manifests _ _ stored descriptor valid rfl
            have sameHash := fits.reassembles pieces inContents sameHashes.symm lengths
            have read :=
              getBytesChunked_of_pieces readsManifests intact gotManifest held lengths sameHash
            exact ⟨pieces.flatten,
              (getCompleteBytes_eq_some_iff intact isHash _).mpr (.inr ⟨found, read⟩),
              sameHash.trans named⟩

end Reports

end BlobStore

/-! ## Runs -/

section Runs

variable (blake3Hex : Bytes → String) (fromSlice : Bytes → Option BlobDescriptor)

/-- The chunks that some calls write. -/
def chunkContents (calls : List BlobCall) : Set Bytes :=
  {file | ∃ call ∈ calls, ∃ hash, call.2.Writes blake3Hex .chunks hash file}

/-- A blob that is reported as complete can be read, and a report passes the check
that peers make. -/
structure BlobStore.ReportsTruly (store : BlobStore) : Prop where
  complete :
    ∀ hash, store.hasCompleteBlob fromSlice hash = .ok true →
      ∃ bytes,
        store.getCompleteBytes blake3Hex fromSlice hash = .ok (some bytes) ∧
          blake3Hex bytes = hash
  accepted :
    ∀ hash availability, store.availability fromSlice hash = .ok (some availability) →
      validateBlobAvailability availability = .ok ()

variable {blake3Hex fromSlice}

/-- What a call of a run writes fits the chunks of the run as soon as the manifests
that are put in by themselves do. -/
theorem BlobOperation.Writes.fitsFile
    (readsManifests : ReadsManifests fromSlice) {calls : List BlobCall}
    (collisionFree : Set.InjOn blake3Hex (chunkContents blake3Hex calls))
    (fitting :
      ∀ disk descriptor, (disk, .putManifest descriptor) ∈ calls →
        descriptor.Fits blake3Hex (chunkContents blake3Hex calls))
    {call : BlobCall} (listed : call ∈ calls) {area : BlobArea} {hash : String} {file : Bytes}
    (writes : call.2.Writes blake3Hex area hash file) :
    FitsFile blake3Hex (chunkContents blake3Hex calls) area hash file := by
  have sameDescriptor {written other : BlobDescriptor} (valid : written.Valid)
      (otherValid : other.Valid) (sameFile : manifestJson written = manifestJson other) :
      written = other := by
    have readWritten := readsManifests written valid
    rw [sameFile, readsManifests other otherValid, Option.some.injEq] at readWritten
    exact readWritten.symm
  obtain ⟨disk, operation⟩ := call
  cases writes with
  | bytes small => trivial
  | bytesWithHash small => trivial
  | chunkWithHash small => exact ⟨_, listed, _, .chunkWithHash small⟩
  | manifest valid =>
      intro descriptor otherValid sameFile
      rw [← sameDescriptor valid otherValid sameFile]
      exact fitting disk _ listed
  | manifestOfBytes short valid =>
      intro descriptor otherValid sameFile
      rw [← sameDescriptor valid otherValid sameFile]
      apply describeBlob_fits collisionFree short
      intro piece member
      have small := (length_le_of_mem_chunks member).trans valid.sizeBounded
      exact ⟨_, listed, _, .piece member small⟩
  | piece member small => exact ⟨_, listed, _, .piece member small⟩

/-- Reports are true after every run whose manifests fit its chunks. -/
theorem blobStore_reportsTruly
    (hexDigests : HexDigests blake3Hex) (readsManifests : ReadsManifests fromSlice)
    {calls : List BlobCall} {store : BlobStore}
    (ran : BlobStore.After blake3Hex fromSlice calls store)
    (collisionFree : Set.InjOn blake3Hex (chunkContents blake3Hex calls))
    (fitting :
      ∀ disk descriptor, (disk, .putManifest descriptor) ∈ calls →
        descriptor.Fits blake3Hex (chunkContents blake3Hex calls)) :
    store.ReportsTruly blake3Hex fromSlice := by
  have intact := BlobStore.After.intact hexDigests ran
  have fits : store.All (FitsFile blake3Hex (chunkContents blake3Hex calls)) := by
    refine (ran.listed fun _ member => member).invariant BlobStore.all_empty ?_
    intro before call after fitsBefore guarded performed
    cases performed
    apply BlobOperation.perform_all hexDigests _ fitsBefore
    exact fun _ _ _ writes => writes.fitsFile readsManifests collisionFree fitting guarded.2
  exact
    { complete := fun _ complete =>
        BlobStore.getCompleteBytes_of_complete readsManifests intact fits complete
      accepted := fun _ _ reported =>
        BlobStore.validateBlobAvailability_reported readsManifests intact fits reported }

end Runs

/-! ## Some blobs -/

/-- The hashes of a few byte strings; the other ones share a hash. -/
def sampleBlake3Hex (bytes : Bytes) : String :=
  if bytes = [0x78] then
    "3ae7d805f6789a6402acb70ad4096a85a56bf6804eaf25c0493ac697548d30b5"
  else if bytes = [0x78, 0x79] then
    "129c5ed72559d3fa4b10dfea8335cb618e74c943d8f010ecb3b23202f777f41e"
  else if bytes = [0x7a] then
    "1104908ab930e671002c7cd7f3fc921570b1bf64ecfa12fe363585c630eaca6b"
  else if bytes = [0x78, 0x79, 0x7a] then
    "f006b5ee4890b66656cf6c23998e25196a163644665dc9d4b47da1fca3037023"
  else if bytes = [0] then
    "2d3adedff11b61f14c886e35afa036736dcd87a74d27b5c1510225d0f592e213"
  else if bytes = List.replicate 15649 0 then
    "7ca60581517bd20afbd9a4dac8249854fd9a7dfb3ce339fe900b7c63040ff2fb"
  else
    "af1349b9f5f9a1a6a0404dea36dcc9499bcb25c9adc112b7cc9a93cae41f3262"

theorem sampleBlake3Hex_hexDigests : HexDigests sampleBlake3Hex := by
  intro bytes
  unfold sampleBlake3Hex
  repeat' split
  all_goals decide +kernel

abbrev sampleReplay (calls : List BlobCall) : BlobStore :=
  BlobStore.replay sampleBlake3Hex readManifest calls

/-- A blob of three bytes arrives in chunks of two bytes. -/
def chunkedArrival : List BlobCall :=
  [(.sound, .putManifest (describeBlob sampleBlake3Hex [0x78, 0x79, 0x7a] 2)),
    (.sound, .putChunkWithHash (sampleBlake3Hex [0x78, 0x79]) [0x78, 0x79]),
    (.sound, .putChunkWithHash (sampleBlake3Hex [0x7a]) [0x7a])]

/-- The manifest of three bytes names a chunk that holds one byte. -/
def falseManifest : BlobDescriptor where
  hash := sampleBlake3Hex [0x78, 0x79, 0x7a]
  byteLen := 1
  chunkSize := 1
  chunkHashes := [sampleBlake3Hex [0x78]]

def falseArrival : List BlobCall :=
  [(.sound, .putManifest falseManifest),
    (.sound, .putChunkWithHash (sampleBlake3Hex [0x78]) [0x78])]

/-- The manifest of three bytes names one chunk twice, once as the shorter last one. -/
def repeatingManifest : BlobDescriptor where
  hash := sampleBlake3Hex [0x78, 0x79, 0x7a]
  byteLen := 3
  chunkSize := 2
  chunkHashes := [sampleBlake3Hex [0x78, 0x79], sampleBlake3Hex [0x78, 0x79]]

def repeatingArrival : List BlobCall :=
  [(.sound, .putManifest repeatingManifest),
    (.sound, .putChunkWithHash (sampleBlake3Hex [0x78, 0x79]) [0x78, 0x79])]

theorem blobStore_reportsTruly_chunked :
    (sampleReplay chunkedArrival).ReportsTruly sampleBlake3Hex readManifest := by
  have pieces :
      ∀ piece, piece = [0x78, 0x79] ∨ piece = [0x7a] →
        piece ∈ chunkContents sampleBlake3Hex chunkedArrival := by
    rintro piece (rfl | rfl)
    · exact ⟨_, List.mem_cons_of_mem _ List.mem_cons_self, _, .chunkWithHash (by decide)⟩
    · exact ⟨_, List.mem_cons_of_mem _ (List.mem_cons_of_mem _ List.mem_cons_self), _,
        .chunkWithHash (by decide)⟩
  have only :
      ∀ piece ∈ chunkContents sampleBlake3Hex chunkedArrival,
        piece = [0x78, 0x79] ∨ piece = [0x7a] := by
    rintro piece ⟨call, listed, hash, writes⟩
    simp only [chunkedArrival, List.mem_cons, List.not_mem_nil, or_false] at listed
    rcases listed with rfl | rfl | rfl
    · cases writes
    · generalize sampleBlake3Hex [0x78, 0x79] = named at writes
      cases writes
      exact .inl rfl
    · generalize sampleBlake3Hex [0x7a] = named at writes
      cases writes
      exact .inr rfl
  have collisionFree :
      Set.InjOn sampleBlake3Hex (chunkContents sampleBlake3Hex chunkedArrival) := by
    intro left inLeft right inRight same
    rcases only left inLeft with rfl | rfl <;> rcases only right inRight with rfl | rfl
    · rfl
    · exact absurd same (by decide +kernel)
    · exact absurd same (by decide +kernel)
    · rfl
  apply blobStore_reportsTruly sampleBlake3Hex_hexDigests readManifest_reads
    (BlobStore.after_replay _ _ chunkedArrival) collisionFree
  intro disk descriptor listed
  simp only [chunkedArrival, List.mem_cons, Prod.mk.injEq, BlobOperation.putManifest.injEq,
    reduceCtorEq, and_false, List.not_mem_nil, or_false] at listed
  rw [listed.2]
  apply describeBlob_fits collisionFree (by decide)
  intro piece member
  have cut : piece ∈ [[0x78, 0x79], [0x7a]] := member
  simpa using pieces piece (by simpa using cut)

theorem blobStore_not_reportsTruly :
    ¬ (sampleReplay falseArrival).ReportsTruly sampleBlake3Hex readManifest ∧
      ¬ (sampleReplay repeatingArrival).ReportsTruly sampleBlake3Hex readManifest := by
  constructor
  · intro truly
    have complete :
        (sampleReplay falseArrival).hasCompleteBlob readManifest falseManifest.hash =
          .ok true := by
      decide +kernel
    have mismatch :
        (sampleReplay falseArrival).getCompleteBytes sampleBlake3Hex readManifest
            falseManifest.hash =
          .error (.hashMismatch falseManifest.hash (sampleBlake3Hex [0x78])) := by
      decide +kernel
    obtain ⟨bytes, read, -⟩ := truly.complete falseManifest.hash complete
    rw [mismatch] at read
    cases read
  · intro truly
    have reported :
        (sampleReplay repeatingArrival).availability readManifest repeatingManifest.hash =
          .ok (some
            { hash := repeatingManifest.hash
              hasWholeBlob := false
              descriptor := some repeatingManifest
              availableChunkHashes := [sampleBlake3Hex [0x78, 0x79]]
              missingChunkHashes := [sampleBlake3Hex [0x78, 0x79]] }) := by
      decide +kernel
    have accepted := truly.accepted _ _ reported
    have refused :
        validateBlobAvailability
            { hash := repeatingManifest.hash
              hasWholeBlob := false
              descriptor := some repeatingManifest
              availableChunkHashes := [sampleBlake3Hex [0x78, 0x79]]
              missingChunkHashes := [sampleBlake3Hex [0x78, 0x79]] } =
          .error .invalidDescriptor := by
      decide +kernel
    rw [refused] at accepted
    cases accepted

end Chaft

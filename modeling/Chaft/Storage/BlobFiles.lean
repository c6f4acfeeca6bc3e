import Chaft.Storage.BlobStore

/-!
# The files of a blob store

What a call writes is said once for all operations.  A property of single files
then holds in every store that the operations reach as soon as it holds of what
they write: names are hashes of contents, and manifests are those of valid
descriptors.  In such a store the reading functions come down to looking up files.
-/

namespace Chaft

open Outcome Keyed Effects Effects.Effect Transition Chunked

/-! ## Operations and runs -/

inductive BlobOperation where
  | putBytes (bytes : Bytes)
  | putBytesChunked (bytes : Bytes) (chunkSize : UInt64)
  | putBytesWithHash (expectedHash : String) (bytes : Bytes)
  | putManifest (descriptor : BlobDescriptor)
  | putChunkWithHash (expectedHash : String) (bytes : Bytes)
  | pruneUnreferenced (referencedBlobHashes : HashSet String)

section Operations

variable (blake3Hex : Bytes → String) (fromSlice : Bytes → Option BlobDescriptor)

/-- The store after a call, whether the call fails or not. -/
def BlobOperation.perform (disk : Disk) (store : BlobStore) : BlobOperation → BlobStore
  | .putBytes bytes => (BlobStore.putBytes blake3Hex disk bytes store).2
  | .putBytesChunked bytes chunkSize =>
      (BlobStore.putBytesChunked blake3Hex disk bytes chunkSize store).2
  | .putBytesWithHash expectedHash bytes =>
      (BlobStore.putBytesWithHash blake3Hex disk expectedHash bytes store).2
  | .putManifest descriptor => (BlobStore.putManifest disk descriptor store).2
  | .putChunkWithHash expectedHash bytes =>
      (BlobStore.putChunkWithHash blake3Hex disk expectedHash bytes store).2
  | .pruneUnreferenced referencedBlobHashes =>
      (BlobStore.pruneUnreferenced fromSlice disk referencedBlobHashes store).2

/-- A call on a store, on a disk that can refuse changes of its own at each call. -/
abbrev BlobCall := Disk × BlobOperation

def BlobCall.step (store : BlobStore) (call : BlobCall) : Except Empty BlobStore :=
  .ok (call.2.perform blake3Hex fromSlice call.1 store)

/-- The stores that a sequence of calls leads to from an empty one. -/
abbrev BlobStore.After (calls : List BlobCall) (store : BlobStore) : Prop :=
  Run (BlobCall.step blake3Hex fromSlice) BlobStore.empty calls store

/-- The store that a sequence of calls leads to. -/
def BlobStore.replay (calls : List BlobCall) : BlobStore :=
  calls.foldl (fun store call => call.2.perform blake3Hex fromSlice call.1 store) .empty

/-- The files that an operation can write. -/
inductive BlobOperation.Writes : BlobOperation → BlobArea → String → Bytes → Prop
  | bytes {bytes : Bytes}
      (small : bytes.length ≤ blobFileMaxBytes) :
      Writes (.putBytes bytes) .blobs (blake3Hex bytes) bytes
  | bytesWithHash {bytes : Bytes}
      (small : bytes.length ≤ blobFileMaxBytes) :
      Writes (.putBytesWithHash (blake3Hex bytes) bytes) .blobs (blake3Hex bytes) bytes
  | chunkWithHash {bytes : Bytes}
      (small : bytes.length ≤ blobChunkFileMaxBytes) :
      Writes (.putChunkWithHash (blake3Hex bytes) bytes) .chunks (blake3Hex bytes) bytes
  | manifest {descriptor : BlobDescriptor}
      (valid : descriptor.Valid) :
      Writes (.putManifest descriptor) .manifests descriptor.hash (manifestJson descriptor)
  | manifestOfBytes {bytes : Bytes} {chunkSize : UInt64}
      (short : bytes.length < 2 ^ 64)
      (valid : (describeBlob blake3Hex bytes (max chunkSize 1)).Valid) :
      Writes (.putBytesChunked bytes chunkSize) .manifests (blake3Hex bytes)
        (manifestJson (describeBlob blake3Hex bytes (max chunkSize 1)))
  | piece {bytes piece : Bytes} {chunkSize : UInt64}
      (member : piece ∈ chunks (describeBlob blake3Hex bytes (max chunkSize 1)).chunkSize.toNat bytes)
      (small : piece.length ≤ blobChunkFileMaxBytes) :
      Writes (.putBytesChunked bytes chunkSize) .chunks (blake3Hex piece) piece

theorem BlobStore.after_replay (calls : List BlobCall) :
    BlobStore.After blake3Hex fromSlice calls (BlobStore.replay blake3Hex fromSlice calls) := by
  have ran (earlier later : List BlobCall) (store : BlobStore)
      (before : BlobStore.After blake3Hex fromSlice earlier store) :
      BlobStore.After blake3Hex fromSlice (earlier ++ later)
        (later.foldl (fun store call => call.2.perform blake3Hex fromSlice call.1 store) store) := by
    induction later generalizing earlier store with
    | nil => simpa using before
    | cons call rest inductionHypothesis =>
        have next := inductionHypothesis (earlier ++ [call]) _ (before.extend trivial rfl)
        rwa [List.append_assoc] at next
  exact ran [] calls .empty .start

end Operations

/-! ## Properties of single files -/

/-- A property of every file of a store. -/
def BlobStore.All (property : BlobArea → String → Bytes → Prop) (store : BlobStore) : Prop :=
  ∀ area hash file, (store.files area)[hash]? = some file → property area hash file

namespace BlobStore

@[simp]
theorem files_changeFiles
    (store : BlobStore) (change : HashMap String Bytes → HashMap String Bytes)
    (area other : BlobArea) :
    (store.changeFiles change area).files other =
      if area = other then change (store.files other) else store.files other := by
  cases area <;> cases other <;> rfl

section Preserved

variable {property : BlobStore → Prop} {blake3Hex : Bytes → String}

theorem preserves_write
    {disk : Disk} {area : BlobArea} {hash : String} {bytes : Bytes}
    (written :
      ∀ store, property store → property (store.changeFiles (·.insert hash bytes) area)) :
    Preserves property (writeFileAtomically disk area hash bytes) := by
  apply preserves_bind (preserves_lift _)
  intro _ _ _ _
  exact preserves_changes written

theorem preserves_removeFile
    {disk : Disk} {area : BlobArea} {hash : String}
    (removed : ∀ store, property store → property (store.changeFiles (·.erase hash) area)) :
    Preserves property (removeFile disk area hash) := by
  apply preserves_bind (preserves_lift _)
  intro _ _ _ _
  exact preserves_changes removed

theorem preserves_putBytesWithHash
    {disk : Disk} {expectedHash : String} {bytes : Bytes}
    (removed :
      ∀ store, property store → property (store.changeFiles (·.erase expectedHash) .blobs))
    (written :
      blake3Hex bytes = expectedHash → bytes.length ≤ blobFileMaxBytes →
        ∀ store, property store →
          property (store.changeFiles (·.insert expectedHash bytes) .blobs)) :
    Preserves property (putBytesWithHash blake3Hex disk expectedHash bytes) := by
  apply preserves_bind (preserves_lift _)
  intro _ _ _ _
  apply preserves_bind (preserves_lift _)
  intro _ _ _ small
  apply preserves_bind (preserves_lift _)
  intro _ _ _ named
  have small : bytes.length ≤ blobFileMaxBytes := by
    simpa [validateBlobFileSize] using congrArg Prod.fst small
  have named : blake3Hex bytes = expectedHash := by
    simpa using congrArg Prod.fst named
  apply preserves_bind (preserves_reads _)
  intro _ _ _ _
  split
  · exact preserves_pure ()
  · apply preserves_bind (preserves_reads _)
    intro _ _ _ _
    split
    · apply preserves_bind (preserves_removeFile removed)
      intro _ _ _ _
      exact preserves_write (written named small)
    · exact preserves_write (written named small)

@[simp]
theorem writeFileAtomically_eq_ok_iff
    {disk : Disk} {area : BlobArea} {hash : String} {bytes : Bytes} {store after : BlobStore}
    {done : Unit} :
    writeFileAtomically disk area hash bytes store = (.ok done, after) ↔
      disk.accepts (.write area hash) = true ∧
        store.changeFiles (·.insert hash bytes) area = after := by
  simp [writeFileAtomically]

/-- A chunk that is there already is left as it is. -/
theorem putChunkWithHash_eq_ok_iff
    {disk : Disk} {expectedHash : String} {bytes : Bytes} {store after : BlobStore}
    {done : Unit} :
    putChunkWithHash blake3Hex disk expectedHash bytes store = (.ok done, after) ↔
      isBlobHash expectedHash = true ∧ bytes.length ≤ blobChunkFileMaxBytes ∧
        blake3Hex bytes = expectedHash ∧
          ((∃ file, store.chunks[expectedHash]? = some file) ∧ store = after ∨
            store.chunks[expectedHash]? = none ∧
              disk.accepts (.write .chunks expectedHash) = true ∧
                store.changeFiles (·.insert expectedHash bytes) .chunks = after) := by
  simp only [putChunkWithHash, bind_apply_eq_ok_iff, lift_eq_ok_iff, reads_eq_ok_iff,
    validateHash_eq_ok_iff, validateChunkFileSize, ensure_eq_ok_iff, Except.ok.injEq]
  constructor
  · rintro ⟨_, _, ⟨isHash, rfl⟩, _, _, ⟨small, rfl⟩, _, _, ⟨named, rfl⟩, stored, _,
      ⟨rfl, rfl⟩, finished⟩
    refine ⟨isHash, small, named, ?_⟩
    cases found : store.chunks[expectedHash]? with
    | none => simpa [found] using finished
    | some file => simpa [found] using finished
  · rintro ⟨isHash, small, named, change⟩
    refine ⟨(), store, ⟨isHash, rfl⟩, (), store, ⟨small, rfl⟩, (), store, ⟨named, rfl⟩, _, store,
      ⟨rfl, rfl⟩, ?_⟩
    cases found : store.chunks[expectedHash]? with
    | none => simpa [found] using change
    | some file => simpa [found] using change

theorem putChunkWithHash_atomic (disk : Disk) (expectedHash : String) (bytes : Bytes) :
    Atomic (putChunkWithHash blake3Hex disk expectedHash bytes) := by
  apply atomic_lift_bind
  intro _
  apply atomic_lift_bind
  intro _
  apply atomic_lift_bind
  intro _
  apply atomic_reads_bind
  intro stored
  split
  · exact atomic_pure ()
  · apply atomic_lift_bind
    intro _
    exact atomic_changes _

/-- A chunk is written where there was none. -/
theorem preserves_putChunkWithHash
    {disk : Disk} {expectedHash : String} {bytes : Bytes}
    (written :
      blake3Hex bytes = expectedHash → bytes.length ≤ blobChunkFileMaxBytes →
        ∀ store, property store → store.chunks[expectedHash]? = none →
          property (store.changeFiles (·.insert expectedHash bytes) .chunks)) :
    Preserves property (putChunkWithHash blake3Hex disk expectedHash bytes) := by
  constructor
  intro store holds
  cases outcome : putChunkWithHash blake3Hex disk expectedHash bytes store with
  | mk result after =>
      cases result with
      | error raised =>
          rw [(putChunkWithHash_atomic disk expectedHash bytes).unchanged store raised after outcome]
          exact holds
      | ok done =>
          obtain ⟨-, small, named, ⟨-, rfl⟩ | ⟨absent, -, rfl⟩⟩ :=
            putChunkWithHash_eq_ok_iff.mp outcome
          · exact holds
          · exact written named small store holds absent

theorem preserves_putManifest
    {disk : Disk} {descriptor : BlobDescriptor}
    (written :
      descriptor.Valid → ∀ store, property store →
        property
          (store.changeFiles (·.insert descriptor.hash (manifestJson descriptor)) .manifests)) :
    Preserves property (putManifest disk descriptor) := by
  apply preserves_bind (preserves_lift _)
  intro _ _ _ accepted
  have valid : descriptor.Valid := by
    simpa [validateDescriptor_eq_ok_iff] using congrArg Prod.fst accepted
  exact preserves_write (written valid)

theorem preserves_removeUnreferenced
    {disk : Disk} {area : BlobArea} {referenced : HashSet String}
    (removed :
      ∀ hash store, property store → property (store.changeFiles (·.erase hash) area)) :
    Preserves property (removeUnreferenced disk area referenced) := by
  apply preserves_bind (preserves_reads _)
  intro _ _ _ _
  apply preserves_bind
  · exact preserves_forEach fun hash _ => preserves_removeFile (removed hash)
  · intro _ _ _ _
    exact preserves_pure _

end Preserved

section All

variable {property : BlobArea → String → Bytes → Prop}

theorem all_empty : BlobStore.empty.All property := by
  intro area hash file found
  cases area <;> simp [files, empty] at found

theorem All.write
    {store : BlobStore} (all : store.All property)
    {area : BlobArea} {hash : String} {bytes : Bytes} (written : property area hash bytes) :
    (store.changeFiles (·.insert hash bytes) area).All property := by
  intro other key file found
  rw [files_changeFiles] at found
  by_cases sameArea : area = other
  · rw [if_pos sameArea, Std.ExtTreeMap.getElem?_insert] at found
    by_cases sameKey : hash = key
    · simp only [sameKey, Std.LawfulEqCmp.compare_eq_iff_eq, if_true, Option.some.injEq] at found
      rw [← sameArea, ← sameKey, ← found]
      exact written
    · simp only [Std.LawfulEqCmp.compare_eq_iff_eq, sameKey, if_false] at found
      exact all other key file found
  · rw [if_neg sameArea] at found
    exact all other key file found

theorem All.remove
    {store : BlobStore} (all : store.All property) (area : BlobArea) (hash : String) :
    (store.changeFiles (·.erase hash) area).All property := by
  intro other key file found
  rw [files_changeFiles] at found
  by_cases sameArea : area = other
  · rw [if_pos sameArea, Std.ExtTreeMap.getElem?_erase] at found
    split at found
    · cases found
    · exact all other key file found
  · rw [if_neg sameArea] at found
    exact all other key file found

end All

end BlobStore

theorem max_one_max_one (chunkSize : UInt64) : max (max chunkSize 1) 1 = max chunkSize 1 := by
  apply UInt64.toNat_inj.mp
  rw [toNat_max_one, toNat_max_one]
  omega

/-- Each operation keeps a property of the files that holds of what it writes. -/
theorem BlobOperation.perform_all
    {blake3Hex : Bytes → String} {fromSlice : Bytes → Option BlobDescriptor}
    {property : BlobArea → String → Bytes → Prop} {disk : Disk} {operation : BlobOperation}
    (hexDigests : HexDigests blake3Hex)
    (written :
      ∀ area hash file, operation.Writes blake3Hex area hash file → property area hash file)
    {store : BlobStore} (all : store.All property) :
    (operation.perform blake3Hex fromSlice disk store).All property := by
  cases operation with
  | putBytes bytes =>
      refine Preserves.kept ?_ store all
      apply preserves_bind
      · apply BlobStore.preserves_putBytesWithHash
        · exact fun _ before => before.remove .blobs _
        · exact fun _ small _ before => before.write (written _ _ _ (.bytes small))
      · intro _ _ _ _
        exact preserves_pure _
  | putBytesChunked bytes chunkSize =>
      refine Preserves.kept ?_ store all
      apply preserves_bind (preserves_lift _)
      intro _ _ _ planned
      have planned : validateChunkPlan bytes.length (max chunkSize 1) = .ok () :=
        congrArg Prod.fst planned
      have short := ((validateChunkPlan_eq_ok_iff _ _ ()).mp planned).1
      have valid : (describeBlob blake3Hex bytes (max chunkSize 1)).Valid :=
        describeBlob_valid blake3Hex hexDigests (by rw [max_one_max_one]; exact planned)
      apply preserves_bind
      · apply BlobStore.preserves_putManifest
        exact fun _ _ before => before.write (written _ _ _ (.manifestOfBytes short valid))
      · intro _ _ _ _
        apply preserves_bind
        · apply preserves_forEach
          rintro ⟨chunkHash, chunk⟩ member
          apply BlobStore.preserves_putChunkWithHash
          intro named small _ before _
          subst named
          exact before.write (written _ _ _ (.piece (List.of_mem_zip member).2 small))
        · intro _ _ _ _
          exact preserves_pure _
  | putBytesWithHash expectedHash bytes =>
      refine Preserves.kept ?_ store all
      apply BlobStore.preserves_putBytesWithHash
      · exact fun _ before => before.remove .blobs expectedHash
      · intro named small _ before
        subst named
        exact before.write (written _ _ _ (.bytesWithHash small))
  | putManifest descriptor =>
      refine Preserves.kept ?_ store all
      apply BlobStore.preserves_putManifest
      exact fun valid _ before => before.write (written _ _ _ (.manifest valid))
  | putChunkWithHash expectedHash bytes =>
      refine Preserves.kept ?_ store all
      apply BlobStore.preserves_putChunkWithHash
      intro named small _ before _
      subst named
      exact before.write (written _ _ _ (.chunkWithHash small))
  | pruneUnreferenced referencedBlobHashes =>
      have pruned (area : BlobArea) (referenced : HashSet String) :
          Preserves (BlobStore.All property)
            (BlobStore.removeUnreferenced disk area referenced) :=
        BlobStore.preserves_removeUnreferenced fun hash _ before => before.remove area hash
      refine Preserves.kept ?_ store all
      apply preserves_bind (preserves_lift _)
      intro _ _ _ _
      apply preserves_bind (preserves_reads _)
      intro _ _ _ _
      apply preserves_bind (pruned .blobs _)
      intro _ _ _ _
      apply preserves_bind (pruned .manifests _)
      intro _ _ _ _
      apply preserves_bind (pruned .chunks _)
      intro _ _ _ _
      exact preserves_pure _

/-- Every file of a store was written by a call. -/
theorem BlobStore.After.written
    {blake3Hex : Bytes → String} {fromSlice : Bytes → Option BlobDescriptor}
    (hexDigests : HexDigests blake3Hex) {calls : List BlobCall} {store : BlobStore}
    (ran : BlobStore.After blake3Hex fromSlice calls store) :
    store.All fun area hash file => ∃ call ∈ calls, call.2.Writes blake3Hex area hash file := by
  refine (ran.listed fun _ member => member).invariant BlobStore.all_empty ?_
  intro before call after written guarded performed
  cases performed
  apply BlobOperation.perform_all hexDigests _ written
  exact fun _ _ _ writes => ⟨call, guarded.2, writes⟩

end Chaft

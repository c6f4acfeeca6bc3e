import Chaft.Storage.BlobTree
import Chaft.Storage.BlobCompleteness

/-!
# What pruning leaves

Pruning reads the manifests of the referenced blobs first, and then removes in three passes
what no blob of these needs.  In the directory of a store that its operations have filled,
each pass sees the files of its own area and no others: the referenced blobs read as before,
and what remains is theirs.
-/

namespace Chaft

open Outcome Keyed Effects Effects.Effect Transition

/-! ## Scans -/

namespace BlobTree

variable {tree : BlobTree}

theorem fileAt_eq_some_iff {path : BlobPath} {file : Bytes} :
    tree.fileAt path = some file ↔ (path, file) ∈ tree.files := by
  unfold fileAt
  constructor
  · intro found
    obtain ⟨⟨other, content⟩, isFound, rfl⟩ := Option.map_eq_some_iff.mp found
    have same := List.find?_some isFound
    rw [decide_eq_true_eq] at same
    dsimp only at same
    rw [← same]
    exact List.mem_of_find?_eq_some isFound
  · intro member
    cases found : tree.files.find? fun file => decide (file.1 = path) with
    | none =>
        have never := List.find?_eq_none.mp found (path, file) member
        simp at never
    | some other =>
        have same := List.find?_some found
        rw [decide_eq_true_eq] at same
        have isEntry : other = (path, file) :=
          List.inj_on_of_nodup_map tree.distinct (List.mem_of_find?_eq_some found) member same
        rw [isEntry]
        rfl

theorem mem_collectHashFiles
    {directory : FileName} {extension : Option FileName} {hash : String} {path : BlobPath} :
    (hash, path) ∈ tree.collectHashFiles [directory] extension ↔
      (∃ file, (path, file) ∈ tree.files) ∧
        ∃ below, path = directory :: below ∧
          below.getLast?.bind (hashOfName extension) = some hash := by
  unfold collectHashFiles
  rw [List.mem_filterMap]
  constructor
  · rintro ⟨⟨found, file⟩, member, listed⟩
    split at listed
    next inside =>
      obtain ⟨named, isName, isPair⟩ := Option.map_eq_some_iff.mp listed
      cases isPair
      obtain ⟨below, rfl⟩ := inside
      exact ⟨⟨file, member⟩, below, rfl, isName⟩
    next => cases listed
  · rintro ⟨⟨file, member⟩, below, rfl, isName⟩
    refine ⟨(directory :: below, file), member, ?_⟩
    have inside : [directory] <+: directory :: below := ⟨below, rfl⟩
    rw [if_pos inside]
    exact Option.map_eq_some_iff.mpr ⟨hash, isName, rfl⟩

theorem mem_prefixes {directory : FileName} :
    directory ∈ tree.prefixes ↔
      ∃ next rest file, (directory :: next :: rest, file) ∈ tree.files := by
  unfold prefixes
  rw [List.mem_dedup, List.mem_filterMap]
  constructor
  · rintro ⟨⟨path, file⟩, member, isFirst⟩
    match path, isFirst with
    | first :: next :: rest, isFirst =>
        cases isFirst
        exact ⟨next, rest, file, member⟩
  · rintro ⟨next, rest, file, member⟩
    exact ⟨_, member, rfl⟩

/-- A scan lists the files that lie and are called as those of its area. -/
theorem mem_storedFiles {area : BlobArea} {hash : String} {path : BlobPath} :
    (hash, path) ∈ tree.storedFiles area ↔
      (∃ file, (path, file) ∈ tree.files) ∧ area.hashAt path = some hash := by
  cases area with
  | blobs =>
      simp only [storedFiles, storedBlobFiles, sortFiles, List.mem_mergeSort, List.mem_flatMap,
        List.mem_filter, decide_eq_true_eq, mem_collectHashFiles, mem_prefixes]
      constructor
      · rintro ⟨directory, ⟨-, isPrefix⟩, isFile, below, rfl, isName⟩
        exact ⟨isFile, by rw [BlobArea.hashAt, if_pos isPrefix, isName]⟩
      · rintro ⟨⟨file, member⟩, isHash⟩
        cases path with
        | nil => simp [BlobArea.hashAt] at isHash
        | cons directory below =>
            cases below with
            | nil => simp [BlobArea.hashAt] at isHash
            | cons next rest =>
                rw [BlobArea.hashAt] at isHash
                by_cases isPrefix : directory ≠ chunksDirectory ∧ directory ≠ manifestsDirectory
                · rw [if_pos isPrefix] at isHash
                  exact ⟨directory, ⟨⟨next, rest, file, member⟩, isPrefix⟩, ⟨file, member⟩,
                    next :: rest, rfl, isHash⟩
                · rw [if_neg isPrefix] at isHash
                  cases isHash
  | manifests =>
      simp only [storedFiles, storedManifestFiles, sortFiles, List.mem_mergeSort,
        mem_collectHashFiles]
      refine and_congr_right fun _ => ?_
      cases path with
      | nil => simp [BlobArea.hashAt]
      | cons directory below =>
          by_cases isDirectory : directory = manifestsDirectory
          · simp [BlobArea.hashAt, isDirectory]
          · simp [BlobArea.hashAt, isDirectory]
  | chunks =>
      simp only [storedFiles, storedChunkFiles, sortFiles, List.mem_mergeSort,
        mem_collectHashFiles]
      refine and_congr_right fun _ => ?_
      cases path with
      | nil => simp [BlobArea.hashAt]
      | cons directory below =>
          by_cases isDirectory : directory = chunksDirectory
          · simp [BlobArea.hashAt, isDirectory]
          · simp [BlobArea.hashAt, isDirectory]

private theorem collectHashFiles_paths
    (tree : BlobTree) (directory : BlobPath) (extension : Option FileName) :
    ((tree.collectHashFiles directory extension).map Prod.snd).Nodup := by
  have inFiles :
      ((tree.collectHashFiles directory extension).map Prod.snd).Sublist
        (tree.files.map Prod.fst) := by
    unfold collectHashFiles
    induction tree.files with
    | nil => exact List.Sublist.refl _
    | cons file rest inductionHypothesis =>
        rw [List.filterMap_cons, List.map_cons]
        split
        next => exact inductionHypothesis.cons _
        next listed isListed =>
          have samePath : listed.2 = file.1 := by
            split at isListed
            next =>
              obtain ⟨hash, -, rfl⟩ := Option.map_eq_some_iff.mp isListed
              rfl
            next => cases isListed
          rw [List.map_cons, samePath]
          exact inductionHypothesis.cons_cons _
  exact tree.distinct.sublist inFiles

/-- No scan lists a file twice. -/
theorem storedFiles_paths (tree : BlobTree) (area : BlobArea) :
    ((tree.storedFiles area).map Prod.snd).Nodup := by
  have sorted (files : List (String × BlobPath)) (distinct : (files.map Prod.snd).Nodup) :
      ((sortFiles files).map Prod.snd).Nodup :=
    ((List.mergeSort_perm files _).map Prod.snd).nodup_iff.mpr distinct
  cases area with
  | manifests => exact sorted _ (collectHashFiles_paths _ _ _)
  | chunks => exact sorted _ (collectHashFiles_paths _ _ _)
  | blobs =>
      refine sorted _ ?_
      rw [List.map_flatMap, List.nodup_flatMap]
      refine ⟨fun _ _ => collectHashFiles_paths _ _ _, ?_⟩
      have distinct :
          (tree.prefixes.filter fun name =>
            decide (name ≠ chunksDirectory ∧ name ≠ manifestsDirectory)).Nodup :=
        (List.nodup_dedup _).filter _
      refine distinct.imp fun {left right} apart path inLeft inRight => ?_
      obtain ⟨⟨_, _⟩, isLeft, rfl⟩ := List.mem_map.mp inLeft
      obtain ⟨⟨_, _⟩, isRight, samePath⟩ := List.mem_map.mp inRight
      obtain ⟨-, below, isBelow, -⟩ := mem_collectHashFiles.mp isLeft
      obtain ⟨-, other, isOther, -⟩ := mem_collectHashFiles.mp isRight
      rw [isBelow] at samePath
      dsimp only at samePath
      rw [isOther] at samePath
      exact apart (List.cons.inj samePath).1.symm

end BlobTree

/-! ## The tree of a store -/

/-- The files of the tree are those of the store, besides what interrupted writes left. -/
structure BlobTree.HasFilesOf (tree : BlobTree) (store : BlobStore) : Prop where
  stored :
    ∀ area hash file, (store.files area)[hash]? = some file →
      (area.path hash, file) ∈ tree.files
  known :
    ∀ path file, (path, file) ∈ tree.files →
      (∃ area hash, path = area.path hash ∧ (store.files area)[hash]? = some file) ∨
        ∃ directory fileName processId counter,
          path = directory ++ [tempName fileName processId counter]

/-- The files of such a tree are named by hashes, as operations name them. -/
structure BlobTree.Holds (tree : BlobTree) (store : BlobStore) : Prop
    extends tree.HasFilesOf store where
  hashes : store.All fun _ hash _ => isBlobHash hash = true

/-- The store with the files of an area that are referenced. -/
def BlobStore.keep
    (store : BlobStore) (area : BlobArea) (referenced : HashSet String) : BlobStore :=
  store.changeFiles (fun files => files.filter fun hash _ => referenced.contains hash) area

theorem BlobStore.files_keep
    (store : BlobStore) (area other : BlobArea) (referenced : HashSet String) (hash : String) :
    ((store.keep area referenced).files other)[hash]? =
      if area = other ∧ hash ∉ referenced then none else (store.files other)[hash]? := by
  rw [keep, files_changeFiles]
  by_cases sameArea : area = other
  · rw [if_pos sameArea, Std.ExtTreeMap.getElem?_filter']
    by_cases isReferenced : hash ∈ referenced
    · cases (store.files other)[hash]? <;> simp [Option.filter, isReferenced]
    · cases (store.files other)[hash]? <;> simp [Option.filter, sameArea, isReferenced]
  · rw [if_neg sameArea, if_neg fun both => sameArea both.1]

private theorem not_contains_iff {referenced : HashSet String} {hash : String} :
    (!referenced.contains hash) = true ↔ hash ∉ referenced := by
  rw [Bool.not_eq_true', ← Bool.not_eq_true, Std.ExtTreeSet.contains_iff_mem]

namespace BlobTree

variable {tree : BlobTree} {store : BlobStore}

/-- What the scan of an area finds in the tree of a store. -/
theorem Holds.mem_storedFiles
    (held : tree.Holds store) {area : BlobArea} {hash : String} {path : BlobPath} :
    (hash, path) ∈ tree.storedFiles area ↔
      path = area.path hash ∧ ∃ file, (store.files area)[hash]? = some file := by
  rw [BlobTree.mem_storedFiles]
  constructor
  · rintro ⟨⟨file, member⟩, isListed⟩
    rcases held.known path file member with
      ⟨other, named, rfl, isStored⟩ | ⟨directory, fileName, processId, counter, rfl⟩
    · have isHash := held.hashes other named file isStored
      rw [BlobArea.hashAt_path isHash] at isListed
      split at isListed
      next sameArea =>
        cases isListed
        subst sameArea
        exact ⟨rfl, file, isStored⟩
      next => cases isListed
    · rw [BlobArea.hashAt_tempName] at isListed
      cases isListed
  · rintro ⟨rfl, file, isStored⟩
    refine ⟨⟨file, held.stored area hash file isStored⟩, ?_⟩
    rw [BlobArea.hashAt_path (held.hashes area hash file isStored), if_pos rfl]

theorem Holds.storedFiles_hashes (held : tree.Holds store) (area : BlobArea) :
    ((tree.storedFiles area).map Prod.fst).Nodup := by
  refine (List.Nodup.of_map _ (storedFiles_paths tree area)).map_on ?_
  rintro ⟨hash, path⟩ isListed ⟨other, otherPath⟩ isOther sameHash
  have isPath := (held.mem_storedFiles.mp isListed).1
  have isOtherPath := (held.mem_storedFiles.mp isOther).1
  dsimp only at sameHash
  rw [isPath, isOtherPath, sameHash]

/-- A file of the store is read from its path. -/
theorem Holds.fileAt_eq
    (held : tree.Holds store) (area : BlobArea) {hash : String}
    (isHash : isBlobHash hash = true) :
    tree.fileAt (area.path hash) = (store.files area)[hash]? := by
  cases isStored : (store.files area)[hash]? with
  | some file => exact fileAt_eq_some_iff.mpr (held.stored area hash file isStored)
  | none =>
      cases found : tree.fileAt (area.path hash) with
      | none => rfl
      | some file =>
          have listed : (hash, area.path hash) ∈ tree.storedFiles area := by
            rw [BlobTree.mem_storedFiles, BlobArea.hashAt_path isHash, if_pos rfl]
            exact ⟨⟨file, fileAt_eq_some_iff.mp found⟩, rfl⟩
          obtain ⟨-, other, isOther⟩ := held.mem_storedFiles.mp listed
          rw [isStored] at isOther
          cases isOther

theorem Holds.getManifest_eq
    (held : tree.Holds store) (fromSlice : Bytes → Option BlobDescriptor) (hash : String) :
    tree.getManifest fromSlice hash = store.getManifest fromSlice hash := by
  unfold getManifest BlobStore.getManifest
  by_cases isHash : isBlobHash hash = true
  · have sameFile : tree.fileAt (manifestPath hash) = store.manifests[hash]? :=
      held.fileAt_eq .manifests isHash
    cases isFile : store.manifests[hash]? with
    | none => simp only [sameFile, isFile]
    | some file => simp only [sameFile, isFile]
  · have refused : validateHash hash = .error .invalidHash := by
      simp [validateHash, ensure, isHash]
    simp only [refused, bind, Except.bind]

theorem Holds.referencedChunkHashes_eq
    (held : tree.Holds store) (fromSlice : Bytes → Option BlobDescriptor)
    (hashes : List String) :
    tree.referencedChunkHashes fromSlice hashes =
      BlobStore.referencedChunkHashes fromSlice store hashes := by
  induction hashes with
  | nil => rfl
  | cons hash rest inductionHypothesis =>
      rw [referencedChunkHashes, BlobStore.referencedChunkHashes, held.getManifest_eq,
        inductionHypothesis]

/-! ## One pass -/

/-- Removing some files leaves the others. -/
theorem forEach_removeFile
    {removes : BlobPath → Bool} {paths : List BlobPath} {after : BlobTree}
    (removed : forEach (removeFile removes) paths tree = (.ok (), after)) :
    ∀ path file, (path, file) ∈ after.files ↔ (path, file) ∈ tree.files ∧ path ∉ paths := by
  induction paths generalizing tree with
  | nil =>
      rw [forEach, pure_apply_eq_ok_iff] at removed
      obtain ⟨-, rfl⟩ := removed
      simp
  | cons first rest inductionHypothesis =>
      rw [forEach, bind_apply_eq_ok_iff] at removed
      obtain ⟨_, middle, removedFirst, removedRest⟩ := removed
      simp only [removeFile, bind_apply_eq_ok_iff, lift_eq_ok_iff, changes_eq_ok_iff]
        at removedFirst
      obtain ⟨_, _, ⟨-, rfl⟩, rfl⟩ := removedFirst
      intro path file
      rw [inductionHypothesis removedRest, without, List.mem_filter, decide_eq_true_eq,
        List.mem_cons, not_or, and_assoc]

/-- A pass removes the files of its area that are not referenced. -/
theorem Holds.removeUnreferenced
    (held : tree.Holds store) {removes : BlobPath → Bool} {area : BlobArea}
    {referenced : HashSet String} {removed : List String} {after : BlobTree}
    (passed :
      BlobTree.removeUnreferenced removes area referenced tree = (.ok removed, after)) :
    after.Holds (store.keep area referenced) ∧ removed.Nodup ∧
      ∀ hash, hash ∈ removed ↔
        (∃ file, (store.files area)[hash]? = some file) ∧ hash ∉ referenced := by
  simp only [BlobTree.removeUnreferenced, bind_apply_eq_ok_iff, reads_eq_ok_iff,
    pure_apply_eq_ok_iff, Except.ok.injEq] at passed
  obtain ⟨_, _, ⟨rfl, rfl⟩, _, middle, removedFiles, rfl, rfl⟩ := passed
  have remaining := forEach_removeFile removedFiles
  have isRemoved :
      ∀ path,
        path ∈ ((tree.storedFiles area).filter
            fun file => !referenced.contains file.1).map Prod.snd ↔
          ∃ hash, path = area.path hash ∧ hash ∉ referenced ∧
            ∃ file, (store.files area)[hash]? = some file := by
    intro path
    rw [List.mem_map]
    constructor
    · rintro ⟨⟨hash, _⟩, listed, rfl⟩
      rw [List.mem_filter, held.mem_storedFiles] at listed
      obtain ⟨⟨isPath, isStored⟩, unreferenced⟩ := listed
      exact ⟨hash, isPath, not_contains_iff.mp unreferenced, isStored⟩
    · rintro ⟨hash, isPath, unreferenced, isStored⟩
      refine ⟨(hash, path), ?_, rfl⟩
      rw [List.mem_filter, held.mem_storedFiles]
      exact ⟨⟨isPath, isStored⟩, not_contains_iff.mpr unreferenced⟩
  refine ⟨?_, ?_, ?_⟩
  · exact
      { stored := by
          intro other hash file isStored
          rw [BlobStore.files_keep] at isStored
          split at isStored
          next => cases isStored
          next kept =>
            rw [remaining]
            refine ⟨held.stored other hash file isStored, fun gone => ?_⟩
            obtain ⟨named, samePath, unreferenced, content, isNamed⟩ := (isRemoved _).mp gone
            have isHash := held.hashes other hash file isStored
            have isNamedHash := held.hashes area named content isNamed
            have hashes := congrArg other.hashAt samePath
            rw [BlobArea.hashAt_path isHash, BlobArea.hashAt_path isNamedHash, if_pos rfl]
              at hashes
            split at hashes
            next sameArea =>
              cases hashes
              exact kept ⟨sameArea.symm, unreferenced⟩
            next => cases hashes
        known := by
          intro path file member
          obtain ⟨earlier, notGone⟩ := (remaining path file).mp member
          refine (held.known path file earlier).imp ?_ id
          rintro ⟨other, hash, rfl, isStored⟩
          refine ⟨other, hash, rfl, ?_⟩
          rw [BlobStore.files_keep, if_neg, isStored]
          rintro ⟨rfl, unreferenced⟩
          exact notGone ((isRemoved _).mpr ⟨hash, rfl, unreferenced, file, isStored⟩)
        hashes := by
          intro other hash file isStored
          rw [BlobStore.files_keep] at isStored
          split at isStored
          next => cases isStored
          next => exact held.hashes other hash file isStored }
  · exact (held.storedFiles_hashes area).sublist (List.filter_sublist.map _)
  · intro hash
    rw [List.mem_map]
    constructor
    · rintro ⟨⟨_, path⟩, listed, rfl⟩
      rw [List.mem_filter, held.mem_storedFiles] at listed
      exact ⟨listed.1.2, not_contains_iff.mp listed.2⟩
    · rintro ⟨isStored, unreferenced⟩
      refine ⟨(hash, area.path hash), ?_, rfl⟩
      rw [List.mem_filter, held.mem_storedFiles]
      exact ⟨⟨rfl, isStored⟩, not_contains_iff.mpr unreferenced⟩

/-- A file of a store is no temporary one. -/
theorem not_stale_path
    {hash : String} (isHash : isBlobHash hash = true) (area : BlobArea) (processId : Nat) :
    (area.path hash).getLast?.any (isStaleBlobTempArtifact processId) = false := by
  have notDot : hash.toList.head? ≠ some '.' := by
    intro isDot
    exact noDot_of_isBlobHash isHash (List.mem_of_mem_head? isDot)
  have nonempty := ne_nil_of_isBlobHash isHash
  obtain ⟨first, rest, isCons⟩ := List.exists_cons_of_ne_nil nonempty
  rw [isCons, List.head?_cons] at notDot
  cases area <;>
    simp [BlobArea.path, blobPath, chunkPath, manifestPath, isStaleBlobTempArtifact,
      blobTempArtifactProcessId, isCons, notDot]

/-- Temporary files can go. -/
theorem Holds.removeStaleTempArtifacts
    (held : tree.Holds store) {removes : BlobPath → Bool} {processId : Nat}
    {removed : List String} {after : BlobTree}
    (passed :
      BlobTree.removeStaleTempArtifacts removes processId tree = (.ok removed, after)) :
    after.Holds store := by
  simp only [BlobTree.removeStaleTempArtifacts, bind_apply_eq_ok_iff, reads_eq_ok_iff,
    pure_apply_eq_ok_iff, Except.ok.injEq] at passed
  obtain ⟨_, _, ⟨rfl, rfl⟩, _, middle, removedFiles, rfl, rfl⟩ := passed
  have remaining := forEach_removeFile removedFiles
  exact
    { stored := by
        intro area hash file isStored
        rw [remaining]
        refine ⟨held.stored area hash file isStored, fun gone => ?_⟩
        rw [staleTempArtifactFiles, List.mem_mergeSort, List.mem_filter,
          not_stale_path (held.hashes area hash file isStored)] at gone
        exact Bool.false_ne_true gone.2
      known := fun path file member => held.known path file ((remaining path file).mp member).1
      hashes := held.hashes }

end BlobTree

/-! ## Equal reads -/

namespace BlobStore

section Agreement

variable {blake3Hex : Bytes → String} {fromSlice : Bytes → Option BlobDescriptor}
variable {left right : BlobStore}

variable (fromSlice) in
/-- Two stores have the same files for a blob. -/
structure AgreesOn (left right : BlobStore) (hash : String) : Prop where
  blobs : left.blobs[hash]? = right.blobs[hash]?
  manifests : left.manifests[hash]? = right.manifests[hash]?
  chunks :
    ∀ descriptor, left.getManifest fromSlice hash = .ok (some descriptor) →
      ∀ chunkHash ∈ descriptor.chunkHashes, left.chunks[chunkHash]? = right.chunks[chunkHash]?

theorem collectChunks_congr
    {descriptor : BlobDescriptor} {hashes : List String}
    (same : ∀ chunkHash ∈ hashes, left.chunks[chunkHash]? = right.chunks[chunkHash]?)
    (chunkIndex : Nat) (bytes : Bytes) :
    left.collectChunks blake3Hex descriptor chunkIndex hashes bytes =
      right.collectChunks blake3Hex descriptor chunkIndex hashes bytes := by
  induction hashes generalizing chunkIndex bytes with
  | nil => rfl
  | cons chunkHash rest inductionHypothesis =>
      have sameChunk : left.getChunk blake3Hex chunkHash = right.getChunk blake3Hex chunkHash := by
        have sameFile := same chunkHash List.mem_cons_self
        simp only [getChunk, getHashed, files, sameFile]
      have later := inductionHypothesis fun other member =>
        same other (List.mem_cons_of_mem chunkHash member)
      simp only [collectChunks, sameChunk, later]

theorem splitChunkHashes_congr
    {descriptor : BlobDescriptor}
    (same :
      ∀ chunkHash ∈ descriptor.chunkHashes, left.chunks[chunkHash]? = right.chunks[chunkHash]?)
    (chunkIndex : Nat) (hashes : List String) :
    left.splitChunkHashes descriptor chunkIndex hashes =
      right.splitChunkHashes descriptor chunkIndex hashes := by
  induction hashes generalizing chunkIndex with
  | nil => rfl
  | cons chunkHash rest inductionHypothesis =>
      have samePresence :
          left.hasExpectedChunkLen descriptor chunkIndex =
            right.hasExpectedChunkLen descriptor chunkIndex := by
        unfold hasExpectedChunkLen
        cases atIndex : descriptor.chunkHashes[chunkIndex]? with
        | none => rfl
        | some other =>
            have sameFile := same other (List.mem_of_getElem? atIndex)
            simp only [okOr, bind, Except.bind, sameFile]
      simp only [splitChunkHashes, samePresence, inductionHypothesis]

theorem AgreesOn.getManifest {hash : String} (agrees : left.AgreesOn fromSlice right hash) :
    left.getManifest fromSlice hash = right.getManifest fromSlice hash := by
  unfold BlobStore.getManifest
  rw [agrees.manifests]

theorem AgreesOn.hasBlob {hash : String} (agrees : left.AgreesOn fromSlice right hash) :
    left.hasBlob hash = right.hasBlob hash := by
  unfold BlobStore.hasBlob
  rw [agrees.blobs]

theorem AgreesOn.getCompleteBytes {hash : String} (agrees : left.AgreesOn fromSlice right hash) :
    left.getCompleteBytes blake3Hex fromSlice hash =
      right.getCompleteBytes blake3Hex fromSlice hash := by
  have sameWhole : left.getBytes blake3Hex hash = right.getBytes blake3Hex hash := by
    simp only [getBytes, getHashed, files, agrees.blobs]
  have sameChunked :
      left.getBytesChunked blake3Hex fromSlice hash =
        right.getBytesChunked blake3Hex fromSlice hash := by
    unfold getBytesChunked
    rw [← agrees.getManifest]
    cases isManifest : left.getManifest fromSlice hash with
    | error raised => rfl
    | ok manifest =>
        cases manifest with
        | none => rfl
        | some descriptor =>
            have sameChunks :=
              @collectChunks_congr blake3Hex _ _ descriptor _
                (agrees.chunks descriptor isManifest) 0 []
            simp only [bind, Except.bind, sameChunks]
  unfold BlobStore.getCompleteBytes
  rw [sameWhole, sameChunked]

theorem AgreesOn.availability {hash : String} (agrees : left.AgreesOn fromSlice right hash) :
    left.availability fromSlice hash = right.availability fromSlice hash := by
  unfold BlobStore.availability
  rw [← agrees.getManifest, agrees.hasBlob]
  cases isManifest : left.getManifest fromSlice hash with
  | error raised => rfl
  | ok manifest =>
      cases manifest with
      | none => rfl
      | some descriptor =>
          have sameSplit :=
            splitChunkHashes_congr (agrees.chunks descriptor isManifest) 0
              descriptor.chunkHashes
          simp only [bind, Except.bind, sameSplit]

theorem AgreesOn.hasCompleteBlob {hash : String} (agrees : left.AgreesOn fromSlice right hash) :
    left.hasCompleteBlob fromSlice hash = right.hasCompleteBlob fromSlice hash := by
  unfold BlobStore.hasCompleteBlob
  rw [agrees.hasBlob, agrees.availability]

/-- The chunks of the referenced manifests. -/
theorem mem_referencedChunkHashes
    {store : BlobStore} {hashes chunkHashes : List String}
    (read : referencedChunkHashes fromSlice store hashes = .ok chunkHashes) (chunkHash : String) :
    chunkHash ∈ chunkHashes ↔
      ∃ hash ∈ hashes, ∃ descriptor,
        store.getManifest fromSlice hash = .ok (some descriptor) ∧
          chunkHash ∈ descriptor.chunkHashes := by
  induction hashes generalizing chunkHashes with
  | nil =>
      cases read
      simp
  | cons hash rest inductionHypothesis =>
      simp only [referencedChunkHashes, bind_eq_ok_iff, Except.ok.injEq] at read
      obtain ⟨manifest, isManifest, others, isOthers, rfl⟩ := read
      rw [List.mem_append, inductionHypothesis isOthers]
      have first :
          chunkHash ∈ manifest.elim [] BlobDescriptor.chunkHashes ↔
            ∃ descriptor, store.getManifest fromSlice hash = .ok (some descriptor) ∧
              chunkHash ∈ descriptor.chunkHashes := by
        cases manifest with
        | none => simp [isManifest]
        | some descriptor => simp [isManifest]
      rw [first]
      simp

theorem referencedChunkHashes_error
    {store : BlobStore} {hashes : List String} {hash : String} (member : hash ∈ hashes)
    {raised : MediaError} (unreadable : store.getManifest fromSlice hash = .error raised) :
    ∃ other, referencedChunkHashes fromSlice store hashes = .error other := by
  cases read : referencedChunkHashes fromSlice store hashes with
  | error other => exact ⟨other, rfl⟩
  | ok chunkHashes =>
      have readable :
          ∀ (hashes chunkHashes : List String),
            referencedChunkHashes fromSlice store hashes = .ok chunkHashes →
              ∀ hash ∈ hashes, ∃ manifest, store.getManifest fromSlice hash = .ok manifest := by
        intro hashes
        induction hashes with
        | nil =>
            intro _ _ hash member
            cases member
        | cons first rest inductionHypothesis =>
            intro chunkHashes read hash member
            simp only [referencedChunkHashes, bind_eq_ok_iff, Except.ok.injEq] at read
            obtain ⟨manifest, isManifest, others, isOthers, -⟩ := read
            rcases List.mem_cons.mp member with rfl | later
            · exact ⟨manifest, isManifest⟩
            · exact inductionHypothesis others isOthers hash later
      obtain ⟨manifest, isManifest⟩ := readable hashes chunkHashes read hash member
      rw [unreadable] at isManifest
      cases isManifest

end Agreement

/-! ## Exactness -/

variable (blake3Hex : Bytes → String) (fromSlice : Bytes → Option BlobDescriptor)

/-- The store after a prune: the referenced blobs read as before, nothing else remains, and
the report lists what is gone. -/
structure PrunedTo
    (before after : BlobStore) (referenced : HashSet String) (report : BlobTree.PruneReport) :
    Prop where
  readsAsBefore :
    ∀ hash ∈ referenced,
      after.getCompleteBytes blake3Hex fromSlice hash =
          before.getCompleteBytes blake3Hex fromSlice hash ∧
        after.hasCompleteBlob fromSlice hash = before.hasCompleteBlob fromSlice hash ∧
          after.availability fromSlice hash = before.availability fromSlice hash
  onlyReferenced :
    ∀ hash, hash ∉ referenced → after.blobs[hash]? = none ∧ after.manifests[hash]? = none
  chunksNamed :
    ∀ chunkHash file, after.chunks[chunkHash]? = some file →
      ∃ hash ∈ referenced, ∃ descriptor,
        after.getManifest fromSlice hash = .ok (some descriptor) ∧
          chunkHash ∈ descriptor.chunkHashes
  reported :
    ∀ area removed,
      (area, removed) ∈
          [(BlobArea.blobs, report.removedBlobHashes),
            (BlobArea.manifests, report.removedManifestHashes),
            (BlobArea.chunks, report.removedChunkHashes)] →
        removed.Nodup ∧
          ∀ hash, hash ∈ removed ↔
            (∃ file, (before.files area)[hash]? = some file) ∧ (after.files area)[hash]? = none

end BlobStore

section Exactness

variable {blake3Hex : Bytes → String} {fromSlice : Bytes → Option BlobDescriptor}

/-- The files of a store that its operations have filled are named by hashes. -/
theorem BlobStore.After.hashes
    (hexDigests : HexDigests blake3Hex) {calls : List BlobCall} {store : BlobStore}
    (ran : BlobStore.After blake3Hex fromSlice calls store) :
    store.All fun _ hash _ => isBlobHash hash = true := by
  intro area hash file isStored
  have intact := ran.intact hexDigests area hash file isStored
  cases area with
  | blobs =>
      rw [← intact.1]
      exact hexDigests file
  | chunks =>
      rw [← intact.1]
      exact hexDigests file
  | manifests =>
      obtain ⟨descriptor, valid, rfl, -⟩ := intact
      exact valid.hash

namespace BlobStore

/-- What three passes keep. -/
def keepNeeded
    (store : BlobStore) (referenced : HashSet String) (chunkHashes : List String) : BlobStore :=
  ((store.keep .blobs referenced).keep .manifests referenced).keep .chunks
    (Std.ExtTreeSet.ofList chunkHashes compare)

theorem files_keep_self
    (store : BlobStore) (area : BlobArea) (referenced : HashSet String) (hash : String) :
    ((store.keep area referenced).files area)[hash]? =
      if hash ∈ referenced then (store.files area)[hash]? else none := by
  rw [files_keep]
  by_cases isReferenced : hash ∈ referenced
  · rw [if_neg fun both => both.2 isReferenced, if_pos isReferenced]
  · rw [if_pos ⟨rfl, isReferenced⟩, if_neg isReferenced]

theorem files_keep_of_ne
    (store : BlobStore) {area other : BlobArea} (apart : area ≠ other)
    (referenced : HashSet String) (hash : String) :
    ((store.keep area referenced).files other)[hash]? = (store.files other)[hash]? := by
  rw [files_keep, if_neg fun both => apart both.1]

theorem blobs_keepNeeded
    (store : BlobStore) (referenced : HashSet String) (chunkHashes : List String)
    (hash : String) :
    ((store.keepNeeded referenced chunkHashes).files .blobs)[hash]? =
      if hash ∈ referenced then (store.files .blobs)[hash]? else none := by
  rw [keepNeeded, files_keep_of_ne _ (by decide), files_keep_of_ne _ (by decide),
    files_keep_self]

theorem manifests_keepNeeded
    (store : BlobStore) (referenced : HashSet String) (chunkHashes : List String)
    (hash : String) :
    ((store.keepNeeded referenced chunkHashes).files .manifests)[hash]? =
      if hash ∈ referenced then (store.files .manifests)[hash]? else none := by
  rw [keepNeeded, files_keep_of_ne _ (by decide), files_keep_self,
    files_keep_of_ne _ (by decide)]

theorem chunks_keepNeeded
    (store : BlobStore) (referenced : HashSet String) (chunkHashes : List String)
    (hash : String) :
    ((store.keepNeeded referenced chunkHashes).files .chunks)[hash]? =
      if hash ∈ chunkHashes then (store.files .chunks)[hash]? else none := by
  rw [keepNeeded, files_keep_self, files_keep_of_ne _ (by decide),
    files_keep_of_ne _ (by decide)]
  by_cases isNamed : hash ∈ chunkHashes
  · rw [if_pos isNamed, if_pos (by simpa using isNamed)]
  · rw [if_neg isNamed, if_neg (by simpa using isNamed)]

/-- A referenced blob keeps its files. -/
theorem keepNeeded_agreesOn
    (store : BlobStore) {referenced : HashSet String} {chunkHashes : List String}
    (read :
      referencedChunkHashes fromSlice store referenced.toList = .ok chunkHashes)
    {hash : String} (isReferenced : hash ∈ referenced) :
    store.AgreesOn fromSlice (store.keepNeeded referenced chunkHashes) hash where
  blobs := by
    have kept := blobs_keepNeeded store referenced chunkHashes hash
    rw [if_pos isReferenced] at kept
    exact kept.symm
  manifests := by
    have kept := manifests_keepNeeded store referenced chunkHashes hash
    rw [if_pos isReferenced] at kept
    exact kept.symm
  chunks := by
    intro descriptor isManifest chunkHash named
    have isNeeded : chunkHash ∈ chunkHashes := by
      rw [mem_referencedChunkHashes read]
      exact ⟨hash, by simpa using isReferenced, descriptor, isManifest, named⟩
    have kept := chunks_keepNeeded store referenced chunkHashes chunkHash
    rw [if_pos isNeeded] at kept
    exact kept.symm

/-- What is gone from an area is what a pass over it has removed. -/
theorem gone_iff
    {before after : Option Bytes} {isKept : Prop} [Decidable isKept]
    (kept : after = if isKept then before else none) :
    ((∃ file, before = some file) ∧ after = none) ↔ (∃ file, before = some file) ∧ ¬isKept := by
  by_cases holds : isKept
  · rw [if_pos holds] at kept
    constructor
    · rintro ⟨⟨file, isStored⟩, gone⟩
      rw [kept, isStored] at gone
      cases gone
    · exact fun both => absurd holds both.2
  · rw [if_neg holds] at kept
    simp [kept, holds]

end BlobStore

namespace BlobTree

/-- The three passes and the cleaning, one after the other. -/
theorem Holds.prunedTo
    {tree : BlobTree} {store : BlobStore} (held : tree.Holds store)
    {removes : BlobPath → Bool} {processId : Nat} {referenced : HashSet String}
    {report : PruneReport} {after : BlobTree}
    (pruned :
      pruneUnreferenced fromSlice removes processId referenced tree = (.ok report, after)) :
    ∃ kept, after.Holds kept ∧
      store.PrunedTo blake3Hex fromSlice kept referenced report := by
  simp only [pruneUnreferenced, bind_apply_eq_ok_iff, lift_eq_ok_iff, reads_eq_ok_iff,
    pure_apply_eq_ok_iff] at pruned
  obtain ⟨_, _, ⟨-, rfl⟩, chunkHashes, _, ⟨read, rfl⟩, removedBlobs, firstTree, firstPass,
    removedManifests, secondTree, secondPass, removedChunks, thirdTree, thirdPass, removedTemp,
    lastTree, cleaned, rfl, rfl⟩ := pruned
  rw [held.referencedChunkHashes_eq] at read
  obtain ⟨firstHeld, blobsDistinct, isBlob⟩ := held.removeUnreferenced firstPass
  obtain ⟨secondHeld, manifestsDistinct, isManifest⟩ :=
    firstHeld.removeUnreferenced secondPass
  obtain ⟨thirdHeld, chunksDistinct, isChunk⟩ := secondHeld.removeUnreferenced thirdPass
  refine
    ⟨store.keepNeeded referenced chunkHashes,
      thirdHeld.removeStaleTempArtifacts cleaned, ?_⟩
  have agrees := fun hash => @BlobStore.keepNeeded_agreesOn fromSlice store _ _ read hash
  exact
    { readsAsBefore := by
        intro hash isReferenced
        have same := agrees hash isReferenced
        exact ⟨same.getCompleteBytes.symm, same.hasCompleteBlob.symm, same.availability.symm⟩
      onlyReferenced := by
        intro hash unreferenced
        have noBlob := BlobStore.blobs_keepNeeded store referenced chunkHashes hash
        have noManifest := BlobStore.manifests_keepNeeded store referenced chunkHashes hash
        rw [if_neg unreferenced] at noBlob noManifest
        exact ⟨noBlob, noManifest⟩
      chunksNamed := by
        intro chunkHash file isStored
        have kept := BlobStore.chunks_keepNeeded store referenced chunkHashes chunkHash
        by_cases isNeeded : chunkHash ∈ chunkHashes
        case neg =>
          rw [if_neg isNeeded] at kept
          cases isStored.symm.trans kept
        case pos =>
          rw [BlobStore.mem_referencedChunkHashes read] at isNeeded
          obtain ⟨hash, isReferenced, descriptor, isManifest, named⟩ := isNeeded
          have member : hash ∈ referenced := by simpa using isReferenced
          rw [(agrees hash member).getManifest] at isManifest
          exact ⟨hash, member, descriptor, isManifest, named⟩
      reported := by
        intro area removed isPass
        simp only [List.mem_cons, Prod.mk.injEq, List.not_mem_nil, or_false] at isPass
        rcases isPass with ⟨rfl, rfl⟩ | ⟨rfl, rfl⟩ | ⟨rfl, rfl⟩
        · refine ⟨blobsDistinct, fun hash => ?_⟩
          rw [isBlob]
          exact (BlobStore.gone_iff (BlobStore.blobs_keepNeeded store _ _ hash)).symm
        · refine ⟨manifestsDistinct, fun hash => ?_⟩
          rw [isManifest]
          simp only [BlobStore.files_keep_of_ne store (by decide : BlobArea.blobs ≠ .manifests)]
          exact (BlobStore.gone_iff (BlobStore.manifests_keepNeeded store _ _ hash)).symm
        · refine ⟨chunksDistinct, fun hash => ?_⟩
          rw [isChunk, Std.ExtTreeSet.mem_ofList]
          simp only [BlobStore.files_keep_of_ne _ (by decide : BlobArea.manifests ≠ .chunks),
            BlobStore.files_keep_of_ne _ (by decide : BlobArea.blobs ≠ .chunks)]
          rw [BlobStore.gone_iff (BlobStore.chunks_keepNeeded store referenced chunkHashes hash)]
          simp }

/-- Nothing is removed before the referenced manifests are read. -/
theorem pruneUnreferenced_unreadable
    {tree : BlobTree} {removes : BlobPath → Bool} {processId : Nat}
    {referenced : HashSet String} {raised : MediaError}
    (unreadable :
      tree.referencedChunkHashes fromSlice referenced.toList = .error raised) :
    ∃ other,
      pruneUnreferenced fromSlice removes processId referenced tree = (.error other, tree) := by
  cases valid : checkAll validateHash referenced.toList with
  | error other =>
      refine ⟨other, ?_⟩
      rw [pruneUnreferenced, valid]
      rfl
  | ok done =>
      refine ⟨raised, ?_⟩
      rw [pruneUnreferenced, valid]
      have stops :
          reads (fun tree : BlobTree => tree.referencedChunkHashes fromSlice referenced.toList)
              tree =
            (.error raised, tree) := by
        rw [reads, unreadable]
      have checked :
          lift (.ok done : Except MediaError Unit) tree = (.ok done, tree) := rfl
      rw [bind_of_ok checked]
      exact bind_of_error stops _

/-- Pruning goes through where the manifests are read and the files can be removed. -/
theorem pruneUnreferenced_succeeds
    {tree : BlobTree} {processId : Nat} {referenced : HashSet String}
    {chunkHashes : List String}
    (valid : checkAll validateHash referenced.toList = .ok ())
    (read : tree.referencedChunkHashes fromSlice referenced.toList = .ok chunkHashes) :
    ∃ report after,
      pruneUnreferenced fromSlice (fun _ => true) processId referenced tree =
        (.ok report, after) := by
  have removesAll :
      ∀ (paths : List BlobPath) (tree : BlobTree),
        ∃ after, forEach (removeFile fun _ => true) paths tree = (.ok (), after) :=
    fun paths tree => forEach_succeeds (fun path _ tree => ⟨tree.without path, rfl⟩) tree
  have passes :
      ∀ (area : BlobArea) (needed : HashSet String) (tree : BlobTree),
        ∃ removed after,
          removeUnreferenced (fun _ => true) area needed tree = (.ok removed, after) := by
    intro area needed tree
    obtain ⟨after, done⟩ :=
      removesAll (((tree.storedFiles area).filter fun file =>
        !needed.contains file.1).map Prod.snd) tree
    refine ⟨((tree.storedFiles area).filter fun file =>
      !needed.contains file.1).map Prod.fst, after, ?_⟩
    rw [removeUnreferenced, bind_apply_eq_ok_iff]
    refine ⟨tree.storedFiles area, tree, rfl, ?_⟩
    rw [bind_apply_eq_ok_iff]
    exact ⟨(), after, done, rfl⟩
  obtain ⟨removedBlobs, firstTree, firstPass⟩ := passes .blobs referenced tree
  obtain ⟨removedManifests, secondTree, secondPass⟩ := passes .manifests referenced firstTree
  obtain ⟨removedChunks, thirdTree, thirdPass⟩ :=
    passes .chunks (Std.ExtTreeSet.ofList chunkHashes compare) secondTree
  obtain ⟨lastTree, cleaned⟩ :=
    removesAll (thirdTree.staleTempArtifactFiles processId) thirdTree
  have lastPass :
      removeStaleTempArtifacts (fun _ => true) processId thirdTree =
        (.ok ((thirdTree.staleTempArtifactFiles processId).map relativePath), lastTree) := by
    rw [removeStaleTempArtifacts, bind_apply_eq_ok_iff]
    refine ⟨thirdTree.staleTempArtifactFiles processId, thirdTree, rfl, ?_⟩
    rw [bind_apply_eq_ok_iff]
    exact ⟨(), lastTree, cleaned, rfl⟩
  have checked :
      lift (checkAll validateHash referenced.toList) tree = (.ok (), tree) := by
    rw [valid]
    rfl
  have isRead :
      reads (fun tree : BlobTree => tree.referencedChunkHashes fromSlice referenced.toList)
          tree =
        (.ok chunkHashes, tree) := by
    rw [reads, read]
  refine
    ⟨{ referencedBlobHashes := referenced.toList
       removedBlobHashes := removedBlobs
       removedManifestHashes := removedManifests
       removedChunkHashes := removedChunks
       removedTempFilePaths :=
        (thirdTree.staleTempArtifactFiles processId).map relativePath }, lastTree, ?_⟩
  rw [pruneUnreferenced, bind_of_ok checked, bind_of_ok isRead, bind_of_ok firstPass,
    bind_of_ok secondPass, bind_of_ok thirdPass, bind_of_ok lastPass]
  rfl

/-- Pruning is exact on the files of a store that its operations have filled. -/
theorem pruneUnreferenced_exact
    (hexDigests : HexDigests blake3Hex) {calls : List BlobCall} {store : BlobStore}
    (ran : BlobStore.After blake3Hex fromSlice calls store)
    {tree : BlobTree} (hasFiles : tree.HasFilesOf store)
    (removes : BlobPath → Bool) (processId : Nat) (referenced : HashSet String) :
    (∀ report after,
        pruneUnreferenced fromSlice removes processId referenced tree = (.ok report, after) →
          ∃ kept, after.Holds kept ∧
            store.PrunedTo blake3Hex fromSlice kept referenced report) ∧
      ∀ hash ∈ referenced, ∀ raised, store.getManifest fromSlice hash = .error raised →
        ∃ other,
          pruneUnreferenced fromSlice removes processId referenced tree =
            (.error other, tree) := by
  have held : tree.Holds store :=
    { toHasFilesOf := hasFiles
      hashes := ran.hashes hexDigests }
  constructor
  · intro report after pruned
    exact held.prunedTo pruned
  · intro hash isReferenced raised unreadable
    have member : hash ∈ referenced.toList := by simpa using isReferenced
    obtain ⟨other, stops⟩ := BlobStore.referencedChunkHashes_error member unreadable
    rw [← held.referencedChunkHashes_eq] at stops
    exact pruneUnreferenced_unreadable stops

end BlobTree

end Exactness

/-! ## Some files -/

/-- The files of a store at their paths. -/
def BlobStore.tree
    (store : BlobStore) (hashes : store.All fun _ hash _ => isBlobHash hash = true) :
    BlobTree where
  files := [.blobs, .chunks, .manifests].flatMap fun area =>
    (store.files area).toList.map fun entry => (area.path entry.1, entry.2)
  distinct := by
    rw [List.map_flatMap, List.nodup_flatMap]
    have samePath :
        ∀ area other hash named file content,
          (store.files area)[hash]? = some file → (store.files other)[named]? = some content →
            area.path hash = other.path named → area = other ∧ hash = named := by
      intro area other hash named file content isStored isNamed same
      have found := congrArg area.hashAt same
      rw [BlobArea.hashAt_path (hashes area hash file isStored),
        BlobArea.hashAt_path (hashes other named content isNamed), if_pos rfl] at found
      split at found
      next sameArea => exact ⟨sameArea, Option.some.inj found⟩
      next => cases found
    constructor
    · intro area _
      rw [List.map_map]
      have distinctKeys := (store.files area).nodup_keys
      rw [← Std.ExtTreeMap.map_fst_toList_eq_keys] at distinctKeys
      refine (List.Nodup.of_map _ distinctKeys).map_on ?_
      rintro ⟨hash, file⟩ isEntry ⟨named, content⟩ isOther same
      rw [Std.ExtTreeMap.mem_toList_iff_getElem?_eq_some] at isEntry isOther
      obtain ⟨-, rfl⟩ := samePath area area hash named file content isEntry isOther same
      rw [isEntry] at isOther
      cases isOther
      rfl
    · have apart :
          ∀ area other : BlobArea, area ≠ other →
            List.Disjoint
              (((store.files area).toList.map fun entry =>
                (area.path entry.1, entry.2)).map Prod.fst)
              (((store.files other).toList.map fun entry =>
                (other.path entry.1, entry.2)).map Prod.fst) := by
        intro area other different path left right
        simp only [List.mem_map] at left right
        obtain ⟨_, ⟨⟨hash, file⟩, isEntry, rfl⟩, rfl⟩ := left
        obtain ⟨_, ⟨⟨named, content⟩, isOther, rfl⟩, same⟩ := right
        rw [Std.ExtTreeMap.mem_toList_iff_getElem?_eq_some] at isEntry isOther
        exact different
          (samePath area other hash named file content isEntry isOther same.symm).1
      have areas : [BlobArea.blobs, .chunks, .manifests].Pairwise (· ≠ ·) := by decide
      exact areas.imp fun different => apart _ _ different

theorem BlobStore.tree_hasFilesOf
    (store : BlobStore) (hashes : store.All fun _ hash _ => isBlobHash hash = true) :
    (store.tree hashes).HasFilesOf store where
  stored := by
    intro area hash file isStored
    refine List.mem_flatMap.mpr ⟨area, by cases area <;> simp, List.mem_map.mpr ?_⟩
    exact ⟨(hash, file), Std.ExtTreeMap.mem_toList_iff_getElem?_eq_some.mpr isStored, rfl⟩
  known := by
    intro path file member
    obtain ⟨area, -, inArea⟩ := List.mem_flatMap.mp member
    obtain ⟨⟨hash, content⟩, isEntry, isPair⟩ := List.mem_map.mp inArea
    cases isPair
    exact .inl ⟨area, hash, rfl, Std.ExtTreeMap.mem_toList_iff_getElem?_eq_some.mp isEntry⟩

/-- A blob in chunks is kept, one in a file of its own goes. -/
theorem pruneUnreferenced_exact_sample :
    ∃ (tree : BlobTree) (report : BlobTree.PruneReport) (after : BlobTree) (kept : BlobStore),
      tree.HasFilesOf (sampleReplay (chunkedArrival ++ [(.sound, .putBytes [0x78])])) ∧
        BlobTree.pruneUnreferenced readManifest (fun _ => true) 7
            (Std.ExtTreeSet.ofList [sampleBlake3Hex [0x78, 0x79, 0x7a]] compare) tree =
          (.ok report, after) ∧
        after.Holds kept ∧
          (sampleReplay (chunkedArrival ++ [(.sound, .putBytes [0x78])])).PrunedTo
            sampleBlake3Hex readManifest kept
            (Std.ExtTreeSet.ofList [sampleBlake3Hex [0x78, 0x79, 0x7a]] compare) report := by
  have ran := BlobStore.after_replay sampleBlake3Hex readManifest
    (chunkedArrival ++ [(.sound, .putBytes [0x78])])
  have hashes := ran.hashes sampleBlake3Hex_hexDigests
  have hasFiles := BlobStore.tree_hasFilesOf _ hashes
  have valid :
      checkAll validateHash (Std.ExtTreeSet.ofList
          [sampleBlake3Hex [0x78, 0x79, 0x7a]] compare).toList =
        .ok () := by
    decide +kernel
  have read :
      BlobStore.referencedChunkHashes readManifest
          (sampleReplay (chunkedArrival ++ [(.sound, .putBytes [0x78])]))
          (Std.ExtTreeSet.ofList [sampleBlake3Hex [0x78, 0x79, 0x7a]] compare).toList =
        .ok [sampleBlake3Hex [0x78, 0x79], sampleBlake3Hex [0x7a]] := by
    decide +kernel
  have held : (BlobStore.tree _ hashes).Holds _ := { toHasFilesOf := hasFiles, hashes := hashes }
  rw [← held.referencedChunkHashes_eq] at read
  obtain ⟨report, after, pruned⟩ :=
    @BlobTree.pruneUnreferenced_succeeds _ _ 7 _ _ valid read
  obtain ⟨kept, holds, exact⟩ :=
    (BlobTree.pruneUnreferenced_exact sampleBlake3Hex_hexDigests ran hasFiles (fun _ => true) 7
      _).1 report after pruned
  exact ⟨_, report, after, kept, hasFiles, pruned, holds, exact⟩

end Chaft

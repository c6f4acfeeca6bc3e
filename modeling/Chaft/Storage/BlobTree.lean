import Mathlib.Data.List.Dedup
import Chaft.Storage.IntactBlobs

/-!
# The directory of a blob store

The files of a store lie in one directory tree.  Whole blobs are two levels deep, under the
first two digits of their hash; chunks and manifests lie one level deeper, in directories of
their own.  A scan tells the files apart by where they lie and by what they are called, and
passes over the temporary files that an interrupted write has left.

Directories come and go with the files below them and are not part of the model.
-/

namespace Chaft

open Outcome Keyed Effects Effects.Effect Transition

/-! ## Names -/

abbrev FileName := List Char

/-- The names on the way from the root of the store. -/
abbrev BlobPath := List FileName

def chunksDirectory : FileName := ['c', 'h', 'u', 'n', 'k', 's']

def manifestsDirectory : FileName := ['m', 'a', 'n', 'i', 'f', 'e', 's', 't', 's']

def jsonExtension : FileName := ['j', 's', 'o', 'n']

def blobPath (hash : String) : BlobPath :=
  [hash.toList.take 2, hash.toList]

def chunkPath (hash : String) : BlobPath :=
  [chunksDirectory, hash.toList.take 2, hash.toList]

def manifestPath (hash : String) : BlobPath :=
  [manifestsDirectory, hash.toList.take 2, hash.toList ++ '.' :: jsonExtension]

def BlobArea.path : BlobArea → String → BlobPath
  | .blobs => blobPath
  | .manifests => manifestPath
  | .chunks => chunkPath

/-- A name at its last dot, as `Path::file_stem` and `Path::extension` see it; a dot in
front does not count. -/
def splitExtension (name : FileName) : FileName × Option FileName :=
  let extension := (name.reverse.takeWhile (· ≠ '.')).reverse
  let stem := name.take (name.length - extension.length - 1)
  if '.' ∉ name ∨ stem = [] then (name, none) else (stem, some extension)

/-- The hash that a name stands for. -/
def hashOfName (extension : Option FileName) (name : FileName) : Option String :=
  let hash :=
    match extension with
    | some extension =>
        if (splitExtension name).2 = some extension then some (splitExtension name).1 else none
    | none => if (splitExtension name).2.isSome then none else some name
  hash.bind fun hash => if isBlobHash (String.ofList hash) then some (String.ofList hash) else none

/-- `format!(".{file_name}.tmp.{pid}.{counter}")` -/
def tempName (fileName : FileName) (processId counter : Nat) : FileName :=
  '.' :: fileName ++ ['.', 't', 'm', 'p', '.'] ++ Nat.toDigits 10 processId ++
    '.' :: Nat.toDigits 10 counter

/-- What follows the last occurrence of the marker. -/
def afterLast (marker : List Char) : List Char → Option (List Char)
  | [] => if marker = [] then some [] else none
  | symbol :: rest =>
      match afterLast marker rest with
      | some tail => some tail
      | none =>
          if marker.isPrefixOf (symbol :: rest) then some ((symbol :: rest).drop marker.length)
          else none

/-- `str::parse::<u32>` -/
def parseU32 (text : List Char) : Option Nat :=
  let digits : List Char :=
    match text with
    | '+' :: rest => rest
    | _ => text
  let value : Nat :=
    digits.foldl (fun value digit => 10 * value + (digit.toNat - '0'.toNat)) 0
  if digits ≠ [] ∧ digits.all Char.isDigit = true ∧ value < 2 ^ 32 then some value else none

def blobTempArtifactProcessId (fileName : FileName) : Option Nat :=
  if fileName.head? = some '.' then
    (afterLast ['.', 't', 'm', 'p', '.'] fileName).bind fun tail =>
      parseU32 (tail.takeWhile (· ≠ '.'))
  else
    none

def isStaleBlobTempArtifact (processId : Nat) (fileName : FileName) : Bool :=
  (blobTempArtifactProcessId fileName).any fun pid => decide (pid ≠ processId)

/-! ## The tree -/

/-- The files below the root, in the order in which the directories list them. -/
structure BlobTree where
  files : List (BlobPath × Bytes)
  distinct : (files.map Prod.fst).Nodup

namespace BlobTree

section Scanning

variable (tree : BlobTree)

def fileAt (path : BlobPath) : Option Bytes :=
  (tree.files.find? fun file => decide (file.1 = path)).map Prod.snd

/-- The files of any depth below a directory. -/
def collectHashFiles
    (directory : BlobPath) (extension : Option FileName) : List (String × BlobPath) :=
  tree.files.filterMap fun file =>
    if directory <+: file.1 then
      ((file.1.drop directory.length).getLast?.bind (hashOfName extension)).map fun hash =>
        (hash, file.1)
    else
      none

/-- The directories at the root. -/
def prefixes : List FileName :=
  (tree.files.filterMap fun file =>
    match file.1 with
    | directory :: _ :: _ => some directory
    | _ => none).dedup

def sortFiles (files : List (String × BlobPath)) : List (String × BlobPath) :=
  files.mergeSort fun left right => decide (left.1 ≤ right.1)

def storedBlobFiles : List (String × BlobPath) :=
  sortFiles
    ((tree.prefixes.filter fun name =>
        decide (name ≠ chunksDirectory ∧ name ≠ manifestsDirectory)).flatMap fun name =>
      tree.collectHashFiles [name] none)

def storedChunkFiles : List (String × BlobPath) :=
  sortFiles (tree.collectHashFiles [chunksDirectory] none)

def storedManifestFiles : List (String × BlobPath) :=
  sortFiles (tree.collectHashFiles [manifestsDirectory] (some jsonExtension))

def storedFiles : BlobArea → List (String × BlobPath)
  | .blobs => tree.storedBlobFiles
  | .manifests => tree.storedManifestFiles
  | .chunks => tree.storedChunkFiles

def relativePath (path : BlobPath) : String :=
  String.ofList (['/'].intercalate path)

def staleTempArtifactFiles (processId : Nat) : List BlobPath :=
  ((tree.files.map Prod.fst).filter fun path =>
      path.getLast?.any (isStaleBlobTempArtifact processId)).mergeSort
    fun left right => decide (relativePath left ≤ relativePath right)

def getManifest
    (fromSlice : Bytes → Option BlobDescriptor) (hash : String) :
    Except MediaError (Option BlobDescriptor) := do
  validateHash hash
  match tree.fileAt (manifestPath hash) with
  | none => .ok none
  | some file => do
      let bytes ← readManifestFile file
      let descriptor ← okOr (fromSlice bytes) .serde
      validateDescriptor descriptor
      ensure (descriptor.hash = hash) (.hashMismatch hash descriptor.hash)
      .ok (some descriptor)

/-- The chunk hashes of the manifests of some blobs. -/
def referencedChunkHashes (fromSlice : Bytes → Option BlobDescriptor) :
    List String → Except MediaError (List String)
  | [] => .ok []
  | hash :: rest => do
      let descriptor ← tree.getManifest fromSlice hash
      let others ← referencedChunkHashes fromSlice rest
      .ok ((descriptor.elim [] BlobDescriptor.chunkHashes) ++ others)

/-- The tree without a file. -/
def without (path : BlobPath) : BlobTree where
  files := tree.files.filter fun file => decide (file.1 ≠ path)
  distinct := tree.distinct.sublist (List.filter_sublist.map _)

end Scanning

/-! ## Pruning -/

section Pruning

variable (fromSlice : Bytes → Option BlobDescriptor) (removes : BlobPath → Bool)

/-- `fs::remove_file`, which the file system can refuse. -/
def removeFile (path : BlobPath) : Effect BlobTree MediaError Unit := do
  lift (ensure (removes path = true) .io)
  changes (without · path)

/-- One of the three passes. -/
def removeUnreferenced
    (area : BlobArea) (referenced : HashSet String) :
    Effect BlobTree MediaError (List String) := do
  let stored ← reads fun tree => .ok (tree.storedFiles area)
  let removed := stored.filter fun file => !referenced.contains file.1
  forEach (removeFile removes) (removed.map Prod.snd)
  pure (removed.map Prod.fst)

def removeStaleTempArtifacts (processId : Nat) : Effect BlobTree MediaError (List String) := do
  let artifacts ← reads fun tree => .ok (tree.staleTempArtifactFiles processId)
  forEach (removeFile removes) artifacts
  pure (artifacts.map relativePath)

structure PruneReport where
  referencedBlobHashes : List String
  removedBlobHashes : List String
  removedManifestHashes : List String
  removedChunkHashes : List String
  removedTempFilePaths : List String
  deriving DecidableEq, Repr

def pruneUnreferenced
    (processId : Nat) (referencedBlobHashes : HashSet String) :
    Effect BlobTree MediaError PruneReport := do
  lift (checkAll validateHash referencedBlobHashes.toList)
  let chunkHashes ← reads (referencedChunkHashes · fromSlice referencedBlobHashes.toList)
  let removedBlobHashes ← removeUnreferenced removes .blobs referencedBlobHashes
  let removedManifestHashes ← removeUnreferenced removes .manifests referencedBlobHashes
  let removedChunkHashes ←
    removeUnreferenced removes .chunks (Std.ExtTreeSet.ofList chunkHashes compare)
  let removedTempFilePaths ← removeStaleTempArtifacts removes processId
  pure
    { referencedBlobHashes := referencedBlobHashes.toList
      removedBlobHashes := removedBlobHashes
      removedManifestHashes := removedManifestHashes
      removedChunkHashes := removedChunkHashes
      removedTempFilePaths := removedTempFilePaths }

end Pruning

end BlobTree

/-! ## Where names belong -/

theorem splitExtension_append
    {stem extension : FileName} (nonempty : stem ≠ []) (noDot : '.' ∉ extension) :
    splitExtension (stem ++ '.' :: extension) = (stem, some extension) := by
  have tail : ((stem ++ '.' :: extension).reverse.takeWhile (· ≠ '.')).reverse = extension := by
    have turned : (stem ++ '.' :: extension).reverse = extension.reverse ++ '.' :: stem.reverse := by
      simp
    rw [turned, List.takeWhile_append_of_pos]
    · simp
    · intro symbol member
      have inside := List.mem_reverse.mp member
      exact decide_eq_true fun isDot => noDot (isDot ▸ inside)
  have front :
      (stem ++ '.' :: extension).take
        ((stem ++ '.' :: extension).length - extension.length - 1) = stem := by
    have length : (stem ++ '.' :: extension).length - extension.length - 1 = stem.length := by
      simp only [List.length_append, List.length_cons]
      omega
    rw [length, List.take_left']
    rfl
  unfold splitExtension
  dsimp only
  rw [tail, front, if_neg]
  simp [nonempty]

theorem splitExtension_of_noDot {name : FileName} (noDot : '.' ∉ name) :
    splitExtension name = (name, none) := by
  unfold splitExtension
  exact if_pos (Or.inl noDot)

/-- The digits of a hash. -/
theorem noDot_of_isBlobHash {hash : String} (isHash : isBlobHash hash = true) :
    '.' ∉ hash.toList := by
  intro inside
  rw [isBlobHash, Bool.and_eq_true, List.all_eq_true] at isHash
  have digit := isHash.2 '.' inside
  exact absurd digit (by decide)

theorem ne_nil_of_isBlobHash {hash : String} (isHash : isBlobHash hash = true) :
    hash.toList ≠ [] := by
  intro empty
  rw [isBlobHash, empty] at isHash
  cases isHash

theorem hashOfName_hash {hash : String} (isHash : isBlobHash hash = true) :
    hashOfName none hash.toList = some hash := by
  simp [hashOfName, splitExtension_of_noDot (noDot_of_isBlobHash isHash), String.ofList_toList,
    isHash]

theorem hashOfName_json {hash : String} (isHash : isBlobHash hash = true) :
    hashOfName (some jsonExtension) (hash.toList ++ '.' :: jsonExtension) = some hash := by
  have split := splitExtension_append (ne_nil_of_isBlobHash isHash)
    (by decide : '.' ∉ jsonExtension)
  simp [hashOfName, split, String.ofList_toList, isHash]

theorem splitExtension_tempName (fileName : FileName) (processId counter : Nat) :
    (splitExtension (tempName fileName processId counter)).2 =
      some (Nat.toDigits 10 counter) := by
  have noDot : '.' ∉ Nat.toDigits 10 counter := by
    intro inside
    have digit := Nat.isDigit_of_mem_toDigits (by decide : 0 < 10) (by decide : 10 ≤ 10) inside
    exact absurd digit (by decide)
  rw [tempName, splitExtension_append (by simp) noDot]

/-- No scan takes a temporary file for another one. -/
theorem hashOfName_tempName
    (fileName : FileName) (processId counter : Nat) {extension : Option FileName}
    (known : extension = none ∨ extension = some jsonExtension) :
    hashOfName extension (tempName fileName processId counter) = none := by
  have split := splitExtension_tempName fileName processId counter
  rcases known with rfl | rfl
  · simp [hashOfName, split]
  · have notJson : Nat.toDigits 10 counter ≠ jsonExtension := by
      intro same
      have inside : 'j' ∈ Nat.toDigits 10 counter := by
        rw [same]
        decide
      have digit := Nat.isDigit_of_mem_toDigits (by decide : 0 < 10) (by decide : 10 ≤ 10) inside
      exact absurd digit (by decide)
    simp [hashOfName, split, notJson]

/-- The hash that the scan of an area finds in a path. -/
def BlobArea.hashAt : BlobArea → BlobPath → Option String
  | .blobs, directory :: below =>
      if directory ≠ chunksDirectory ∧ directory ≠ manifestsDirectory then
        below.getLast?.bind (hashOfName none)
      else
        none
  | .chunks, directory :: below =>
      if directory = chunksDirectory then below.getLast?.bind (hashOfName none) else none
  | .manifests, directory :: below =>
      if directory = manifestsDirectory then
        below.getLast?.bind (hashOfName (some jsonExtension))
      else
        none
  | _, [] => none

/-- The first digits of a hash are no directory of chunks or manifests. -/
theorem take_two_ne {hash directory : FileName} (long : 2 < directory.length) :
    hash.take 2 ≠ directory := by
  intro same
  have short : (hash.take 2).length ≤ 2 := List.length_take_le 2 hash
  rw [same] at short
  omega

/-- The areas are told apart by their paths. -/
theorem BlobArea.hashAt_path
    {hash : String} (isHash : isBlobHash hash = true) (scanned area : BlobArea) :
    scanned.hashAt (area.path hash) = if scanned = area then some hash else none := by
  have notChunks := @take_two_ne hash.toList chunksDirectory (by decide)
  have notManifests := @take_two_ne hash.toList manifestsDirectory (by decide)
  have apart : chunksDirectory ≠ manifestsDirectory := by decide
  cases scanned <;> cases area <;>
    simp [hashAt, path, blobPath, chunkPath, manifestPath, notChunks, notManifests, apart,
      apart.symm, hashOfName_hash isHash, hashOfName_json isHash]

theorem BlobArea.hashAt_tempName
    (area : BlobArea) (directory : BlobPath) (fileName : FileName) (processId counter : Nat) :
    area.hashAt (directory ++ [tempName fileName processId counter]) = none := by
  have unnamed := @hashOfName_tempName fileName processId counter
  cases directory with
  | nil => cases area <;> simp [hashAt]
  | cons first below =>
      cases area <;>
        simp [hashAt, unnamed (Or.inl rfl), unnamed (Or.inr rfl)]

end Chaft

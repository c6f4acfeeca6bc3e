import Chaft.Library.Effect
import Chaft.Library.Run
import Chaft.Storage.BlobAvailability
import Chaft.Storage.ManifestJson

/-!
# The blob store

Three kinds of files, each named by a hash: whole blobs, manifests and chunks.  A
file is written in one step, under a temporary name that is then taken over, and a
reader sees what was last written.  Each change of a file is up to the disk, which
can refuse it; a call that fails keeps the changes made before.

Temporary files and empty directories are not part of the model.
-/

namespace Chaft

open Outcome Keyed Effects Effects.Effect

inductive BlobArea where
  | blobs
  | manifests
  | chunks
  deriving DecidableEq, Repr

inductive FileChange where
  | write (area : BlobArea) (hash : String)
  | remove (area : BlobArea) (hash : String)
  deriving DecidableEq, Repr

/-- Which changes of files the file system carries out. -/
structure Disk where
  accepts : FileChange → Bool

def Disk.sound : Disk where
  accepts _ := true

structure BlobStore where
  blobs : HashMap String Bytes
  manifests : HashMap String Bytes
  chunks : HashMap String Bytes

namespace BlobStore

def empty : BlobStore where
  blobs := ∅
  manifests := ∅
  chunks := ∅

def files (store : BlobStore) : BlobArea → HashMap String Bytes
  | .blobs => store.blobs
  | .manifests => store.manifests
  | .chunks => store.chunks

def changeFiles
    (store : BlobStore) (change : HashMap String Bytes → HashMap String Bytes) :
    BlobArea → BlobStore
  | .blobs => { store with blobs := change store.blobs }
  | .manifests => { store with manifests := change store.manifests }
  | .chunks => { store with chunks := change store.chunks }

end BlobStore

/-! ## Files -/

/-- Files are read up to a limit. -/
def readLimitedFile
    (maxBytes : Nat) (tooLarge : Nat → Nat → MediaError) (file : Bytes) :
    Except MediaError Bytes := do
  ensure (file.length ≤ maxBytes) (tooLarge file.length maxBytes)
  .ok file

def readBlobFile (file : Bytes) : Except MediaError Bytes :=
  readLimitedFile blobFileMaxBytes .blobTooLarge file

def readChunkFile (file : Bytes) : Except MediaError Bytes :=
  readLimitedFile blobChunkFileMaxBytes .chunkTooLarge file

def readManifestFile (file : Bytes) : Except MediaError Bytes :=
  readLimitedFile blobManifestMaxBytes .manifestTooLarge file

def validateBlobFileSize (actualBytes : Nat) : Except MediaError Unit :=
  ensure (actualBytes ≤ blobFileMaxBytes) (.blobTooLarge actualBytes blobFileMaxBytes)

def validateChunkFileSize (actualBytes : Nat) : Except MediaError Unit :=
  ensure (actualBytes ≤ blobChunkFileMaxBytes) (.chunkTooLarge actualBytes blobChunkFileMaxBytes)

abbrev BlobEffect (α : Type) := Effect BlobStore MediaError α

def writeFileAtomically
    (disk : Disk) (area : BlobArea) (hash : String) (bytes : Bytes) : BlobEffect Unit := do
  lift (ensure (disk.accepts (.write area hash) = true) .io)
  changes fun store => store.changeFiles (·.insert hash bytes) area

def removeFile (disk : Disk) (area : BlobArea) (hash : String) : BlobEffect Unit := do
  lift (ensure (disk.accepts (.remove area hash) = true) .io)
  changes fun store => store.changeFiles (·.erase hash) area

namespace BlobStore

/-! ## Reading -/

section Reading

variable (blake3Hex : Bytes → String) (fromSlice : Bytes → Option BlobDescriptor)
variable (store : BlobStore)

/-- The content of a file that is named by its hash. -/
def getHashed
    (read : Bytes → Except MediaError Bytes) (area : BlobArea) (hash : String) :
    Except MediaError (Option Bytes) := do
  validateHash hash
  match (store.files area)[hash]? with
  | none => .ok none
  | some file => do
      let bytes ← read file
      let actual := blake3Hex bytes
      ensure (actual = hash) (.hashMismatch hash actual)
      .ok (some bytes)

def getBytes (hash : String) : Except MediaError (Option Bytes) :=
  store.getHashed blake3Hex readBlobFile .blobs hash

def getChunk (hash : String) : Except MediaError (Option Bytes) :=
  store.getHashed blake3Hex readChunkFile .chunks hash

def hasBlob (hash : String) : Except MediaError Bool := do
  validateHash hash
  .ok (store.blobs[hash]?.any fun file => decide (file.length ≤ blobFileMaxBytes))

def hasChunk (hash : String) : Except MediaError Bool := do
  validateHash hash
  .ok store.chunks[hash]?.isSome

def getManifest (hash : String) : Except MediaError (Option BlobDescriptor) := do
  validateHash hash
  match store.manifests[hash]? with
  | none => .ok none
  | some file => do
      let bytes ← readManifestFile file
      let descriptor ← okOr (fromSlice bytes) .serde
      validateDescriptor descriptor
      ensure (descriptor.hash = hash) (.hashMismatch hash descriptor.hash)
      .ok (some descriptor)

/-- The chunks from `chunkIndex` on, put behind the bytes read before. -/
def collectChunks
    (descriptor : BlobDescriptor) :
    Nat → List String → Bytes → Except MediaError (Option Bytes)
  | _, [], bytes => .ok (some bytes)
  | chunkIndex, chunkHash :: rest, bytes => do
      match ← store.getChunk blake3Hex chunkHash with
      | none => .ok none
      | some chunk => do
          validateChunkPayload blake3Hex descriptor chunkIndex chunk
          collectChunks descriptor (chunkIndex + 1) rest (bytes ++ chunk)

def getBytesChunked (hash : String) : Except MediaError (Option Bytes) := do
  match ← store.getManifest fromSlice hash with
  | none => .ok none
  | some descriptor => do
      match ← store.collectChunks blake3Hex descriptor 0 descriptor.chunkHashes [] with
      | none => .ok none
      | some bytes => do
          validateReassembledBlob blake3Hex descriptor bytes
          .ok (some bytes)

def getCompleteBytes (hash : String) : Except MediaError (Option Bytes) := do
  match ← store.getBytes blake3Hex hash with
  | some bytes => .ok (some bytes)
  | none => store.getBytesChunked blake3Hex fromSlice hash

def hasExpectedChunkLen
    (descriptor : BlobDescriptor) (chunkIndex : Nat) : Except MediaError Bool := do
  let chunkHash ← okOr descriptor.chunkHashes[chunkIndex]? .invalidDescriptor
  validateHash chunkHash
  match store.chunks[chunkHash]? with
  | none => .ok false
  | some file => do
      let expectedLength ← expectedChunkByteLen descriptor chunkIndex
      .ok (decide (file.length = expectedLength))

/-- The chunk hashes from `chunkIndex` on, told apart by whether the chunk is there. -/
def splitChunkHashes
    (descriptor : BlobDescriptor) :
    Nat → List String → Except MediaError (List String × List String)
  | _, [] => .ok ([], [])
  | chunkIndex, chunkHash :: rest => do
      let present ← store.hasExpectedChunkLen descriptor chunkIndex
      let (available, missing) ← splitChunkHashes descriptor (chunkIndex + 1) rest
      .ok (if present then (chunkHash :: available, missing)
        else (available, chunkHash :: missing))

def availability (hash : String) : Except MediaError (Option BlobAvailability) := do
  validateHash hash
  let hasWholeBlob ← store.hasBlob hash
  let descriptor ← store.getManifest fromSlice hash
  if hasWholeBlob = false ∧ descriptor.isNone then
    .ok none
  else do
    let (available, missing) ←
      match descriptor with
      | some descriptor => store.splitChunkHashes descriptor 0 descriptor.chunkHashes
      | none => .ok ([], [])
    .ok (some
      { hash := hash
        hasWholeBlob := hasWholeBlob
        descriptor := descriptor
        availableChunkHashes := available
        missingChunkHashes := missing })

def hasCompleteBlob (hash : String) : Except MediaError Bool := do
  if ← store.hasBlob hash then
    .ok true
  else do
    let availability ← store.availability fromSlice hash
    .ok (availability.any BlobAvailability.isComplete)

/-- The files of an area, in the order of their hashes. -/
def storedFiles (area : BlobArea) : List String :=
  (store.files area).keys.filter isBlobHash

end Reading

/-! ## Writing -/

section Writing

variable (blake3Hex : Bytes → String) (fromSlice : Bytes → Option BlobDescriptor) (disk : Disk)

def putBytesWithHash (expectedHash : String) (bytes : Bytes) : BlobEffect Unit := do
  lift (validateHash expectedHash)
  lift (validateBlobFileSize bytes.length)
  let actual := blake3Hex bytes
  lift (ensure (actual = expectedHash) (.hashMismatch expectedHash actual))
  if ← reads (·.hasBlob expectedHash) then
    pure ()
  else do
    let stored ← reads fun store => .ok store.blobs[expectedHash]?.isSome
    if stored then removeFile disk .blobs expectedHash else pure ()
    writeFileAtomically disk .blobs expectedHash bytes

def putBytes (bytes : Bytes) : BlobEffect BlobDescriptor := do
  let descriptor := describeBlob blake3Hex bytes (1024 * 1024)
  putBytesWithHash blake3Hex disk descriptor.hash bytes
  pure descriptor

def putChunkWithHash (expectedHash : String) (bytes : Bytes) : BlobEffect Unit := do
  lift (validateHash expectedHash)
  lift (validateChunkFileSize bytes.length)
  let actual := blake3Hex bytes
  lift (ensure (actual = expectedHash) (.hashMismatch expectedHash actual))
  let stored ← reads fun store => .ok store.chunks[expectedHash]?.isSome
  if stored then pure () else writeFileAtomically disk .chunks expectedHash bytes

def putManifest (descriptor : BlobDescriptor) : BlobEffect Unit := do
  lift (validateDescriptor descriptor)
  writeFileAtomically disk .manifests descriptor.hash (manifestJson descriptor)

def putBytesChunked (bytes : Bytes) (chunkSize : UInt64) : BlobEffect BlobDescriptor := do
  let chunkSize := max chunkSize 1
  lift (validateChunkPlan bytes.length chunkSize)
  let descriptor := describeBlob blake3Hex bytes chunkSize
  putManifest disk descriptor
  forEach (fun (chunkHash, chunk) => putChunkWithHash blake3Hex disk chunkHash chunk)
    (descriptor.chunkHashes.zip (Chunked.chunks descriptor.chunkSize.toNat bytes))
  pure descriptor

structure BlobPruneReport where
  referencedBlobHashes : List String
  removedBlobHashes : List String
  removedManifestHashes : List String
  removedChunkHashes : List String
  deriving DecidableEq, Repr

/-- Remove the files of an area that are not referenced. -/
def removeUnreferenced
    (area : BlobArea) (referenced : HashSet String) : BlobEffect (List String) := do
  let stored ← reads fun store => .ok (store.storedFiles area)
  let removed := stored.filter fun hash => !referenced.contains hash
  forEach (removeFile disk area) removed
  pure removed

/-- The chunk hashes of the manifests of some blobs. -/
def referencedChunkHashes (store : BlobStore) :
    List String → Except MediaError (List String)
  | [] => .ok []
  | hash :: rest => do
      let descriptor ← store.getManifest fromSlice hash
      let others ← referencedChunkHashes store rest
      .ok ((descriptor.elim [] BlobDescriptor.chunkHashes) ++ others)

def pruneUnreferenced (referencedBlobHashes : HashSet String) : BlobEffect BlobPruneReport := do
  lift (checkAll validateHash referencedBlobHashes.toList)
  let chunkHashes ← reads (referencedChunkHashes fromSlice · referencedBlobHashes.toList)
  let removedBlobHashes ← removeUnreferenced disk .blobs referencedBlobHashes
  let removedManifestHashes ← removeUnreferenced disk .manifests referencedBlobHashes
  let removedChunkHashes ←
    removeUnreferenced disk .chunks (Std.ExtTreeSet.ofList chunkHashes compare)
  pure
    { referencedBlobHashes := referencedBlobHashes.toList
      removedBlobHashes := removedBlobHashes
      removedManifestHashes := removedManifestHashes
      removedChunkHashes := removedChunkHashes }

end Writing

end BlobStore

end Chaft

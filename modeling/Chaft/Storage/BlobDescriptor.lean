import Chaft.Library.Chunks
import Chaft.Library.Outcome

/-!
# Blob descriptors

A blob is named by its hash.  Its descriptor cuts it into chunks of one size and
names each chunk by the hash of the chunk.  The hash function is a parameter.
-/

namespace Chaft

open Outcome Chunked

abbrev Bytes := List UInt8

inductive MediaError where
  | io
  | serde
  | hashMismatch (expected actual : String)
  | invalidHash
  | invalidDescriptor
  | manifestTooLarge (actualBytes maxBytes : Nat)
  | chunkTooLarge (actualBytes maxBytes : Nat)
  | blobTooLarge (actualBytes maxBytes : Nat)
  deriving DecidableEq, Repr

/-- The text in which a media error is shown to peers. -/
def MediaError.message : MediaError → String
  | .io => "I/O error"
  | .serde => "manifest serialization error"
  | .hashMismatch expected actual =>
      "blob hash mismatch: expected " ++ expected ++ ", actual " ++ actual
  | .invalidHash => "invalid blob hash"
  | .invalidDescriptor => "invalid blob descriptor"
  | .manifestTooLarge actualBytes maxBytes =>
      "blob manifest is too large (" ++ actualBytes.repr ++ " bytes, max " ++ maxBytes.repr ++ ")"
  | .chunkTooLarge actualBytes maxBytes =>
      "blob chunk is too large (" ++ actualBytes.repr ++ " bytes, max " ++ maxBytes.repr ++ ")"
  | .blobTooLarge actualBytes maxBytes =>
      "blob file is too large (" ++ actualBytes.repr ++ " bytes, max " ++ maxBytes.repr ++ ")"

def blobFileMaxBytes : Nat := 128 * 1024 * 1024 + 1024
def blobManifestMaxBytes : Nat := 1024 * 1024
def blobChunkFileMaxBytes : Nat := 16 * 1024 * 1024
def blobDescriptorMaxChunks : Nat := 16 * 1024

/-- `usize` is a word of 64 bits. -/
structure BlobDescriptor where
  hash : String
  byteLen : UInt64
  chunkSize : UInt64
  chunkHashes : List String
  deriving DecidableEq, Repr

/-! ## Hashes -/

def isLowerHexDigit (symbol : Char) : Bool :=
  (decide ('0' ≤ symbol) && decide (symbol ≤ '9')) ||
    (decide ('a' ≤ symbol) && decide (symbol ≤ 'f'))

/-- Sixty-four lowercase hexadecimal digits.  A text whose bytes are such digits is
ASCII, so that its characters are its bytes. -/
def isBlobHash (hash : String) : Bool :=
  decide (hash.toList.length = 64) && hash.toList.all isLowerHexDigit

def validateHash (hash : String) : Except MediaError Unit :=
  ensure (isBlobHash hash = true) .invalidHash

/-- The hash function writes its digests in hexadecimal. -/
def HexDigests (blake3Hex : Bytes → String) : Prop :=
  ∀ bytes, isBlobHash (blake3Hex bytes) = true

/-! ## The shape of a descriptor -/

def expectedChunkCount (byteLen chunkSize : UInt64) : Except MediaError Nat := do
  ensure (¬ (chunkSize = 0 ∨ blobChunkFileMaxBytes < chunkSize.toNat)) .invalidDescriptor
  let expected := chunkCount byteLen.toNat chunkSize.toNat
  ensure (expected ≤ blobDescriptorMaxChunks) .invalidDescriptor
  .ok expected

def validateChunkPlan (byteLen : Nat) (chunkSize : UInt64) : Except MediaError Unit := do
  ensure (byteLen < 2 ^ 64) .invalidDescriptor
  let _ ← expectedChunkCount (UInt64.ofNat byteLen) chunkSize
  .ok ()

def validateDescriptor (descriptor : BlobDescriptor) : Except MediaError Unit := do
  validateHash descriptor.hash
  let expected ← expectedChunkCount descriptor.byteLen descriptor.chunkSize
  ensure (descriptor.chunkHashes.length = expected) .invalidDescriptor
  checkAll validateHash descriptor.chunkHashes

def validateBlobDescriptor (descriptor : BlobDescriptor) : Except MediaError Unit :=
  validateDescriptor descriptor

def expectedChunkByteLen
    (descriptor : BlobDescriptor) (chunkIndex : Nat) : Except MediaError Nat := do
  validateDescriptor descriptor
  ensure (chunkIndex < descriptor.chunkHashes.length) .invalidDescriptor
  if chunkIndex + 1 < descriptor.chunkHashes.length then
    .ok descriptor.chunkSize.toNat
  else do
    let consumedBefore := chunkIndex * descriptor.chunkSize.toNat
    ensure (consumedBefore < 2 ^ 64) .invalidDescriptor
    ensure (consumedBefore ≤ descriptor.byteLen.toNat) .invalidDescriptor
    .ok (descriptor.byteLen.toNat - consumedBefore)

section Content

variable (blake3Hex : Bytes → String)

def describeBlob (bytes : Bytes) (chunkSize : UInt64) : BlobDescriptor :=
  let chunkSize := max chunkSize 1
  { hash := blake3Hex bytes
    byteLen := UInt64.ofNat bytes.length
    chunkSize := chunkSize
    chunkHashes := (chunks chunkSize.toNat bytes).map blake3Hex }

def validateChunkPayload
    (descriptor : BlobDescriptor) (chunkIndex : Nat) (bytes : Bytes) :
    Except MediaError Unit := do
  validateDescriptor descriptor
  let expectedHash ← okOr descriptor.chunkHashes[chunkIndex]? .invalidDescriptor
  let expectedLength ← expectedChunkByteLen descriptor chunkIndex
  ensure (bytes.length = expectedLength) .invalidDescriptor
  let actual := blake3Hex bytes
  ensure (actual = expectedHash) (.hashMismatch expectedHash actual)

def validateReassembledBlob
    (descriptor : BlobDescriptor) (bytes : Bytes) : Except MediaError Unit := do
  validateDescriptor descriptor
  ensure (bytes.length < 2 ^ 64) .invalidDescriptor
  ensure (bytes.length = descriptor.byteLen.toNat) .invalidDescriptor
  let actual := blake3Hex bytes
  ensure (actual = descriptor.hash) (.hashMismatch descriptor.hash actual)

end Content

/-! ## What the checks say -/

@[simp]
theorem validateHash_eq_ok_iff (hash : String) (done : Unit) :
    validateHash hash = .ok done ↔ isBlobHash hash = true := by
  simp [validateHash]

/-- The parts of a valid descriptor. -/
structure BlobDescriptor.Valid (descriptor : BlobDescriptor) : Prop where
  hash : isBlobHash descriptor.hash = true
  sizePositive : 0 < descriptor.chunkSize.toNat
  sizeBounded : descriptor.chunkSize.toNat ≤ blobChunkFileMaxBytes
  counted :
    descriptor.chunkHashes.length =
      chunkCount descriptor.byteLen.toNat descriptor.chunkSize.toNat
  few : descriptor.chunkHashes.length ≤ blobDescriptorMaxChunks
  chunkHashes : ∀ chunkHash ∈ descriptor.chunkHashes, isBlobHash chunkHash = true

private theorem size_ne_zero_iff (size : UInt64) : ¬ size = 0 ↔ 0 < size.toNat := by
  rw [← UInt64.toNat_inj, UInt64.toNat_zero]
  omega

@[simp]
theorem expectedChunkCount_eq_ok_iff (byteLen chunkSize : UInt64) (expected : Nat) :
    expectedChunkCount byteLen chunkSize = .ok expected ↔
      0 < chunkSize.toNat ∧ chunkSize.toNat ≤ blobChunkFileMaxBytes ∧
        chunkCount byteLen.toNat chunkSize.toNat ≤ blobDescriptorMaxChunks ∧
          expected = chunkCount byteLen.toNat chunkSize.toNat := by
  simp only [expectedChunkCount, bind_eq_ok_iff, ensure_eq_ok_iff, Except.ok.injEq, not_or,
    size_ne_zero_iff, Nat.not_lt, exists_and_left, exists_const]
  constructor
  · rintro ⟨⟨positive, bounded⟩, few, same⟩
    exact ⟨positive, bounded, few, same.symm⟩
  · rintro ⟨positive, bounded, few, same⟩
    exact ⟨⟨positive, bounded⟩, few, same.symm⟩

theorem validateDescriptor_eq_ok_iff (descriptor : BlobDescriptor) (done : Unit) :
    validateDescriptor descriptor = .ok done ↔ descriptor.Valid := by
  simp only [validateDescriptor, bind_eq_ok_iff, ensure_eq_ok_iff, validateHash_eq_ok_iff,
    expectedChunkCount_eq_ok_iff, checkAll_eq_ok_iff]
  constructor
  · rintro ⟨_, hash, count, ⟨positive, bounded, few, rfl⟩, _, counted, hashes⟩
    exact
      { hash := hash
        sizePositive := positive
        sizeBounded := bounded
        counted := counted
        few := counted ▸ few
        chunkHashes := hashes }
  · intro valid
    exact ⟨(), valid.hash, _, ⟨valid.sizePositive, valid.sizeBounded,
      valid.counted ▸ valid.few, rfl⟩, (), valid.counted, valid.chunkHashes⟩

/-- A descriptor is valid or refused. -/
theorem validateDescriptor_of_valid
    {descriptor : BlobDescriptor} (valid : descriptor.Valid) :
    validateDescriptor descriptor = .ok () :=
  (validateDescriptor_eq_ok_iff descriptor ()).mpr valid

theorem validateChunkPlan_eq_ok_iff (byteLen : Nat) (chunkSize : UInt64) (done : Unit) :
    validateChunkPlan byteLen chunkSize = .ok done ↔
      byteLen < 2 ^ 64 ∧ 0 < chunkSize.toNat ∧ chunkSize.toNat ≤ blobChunkFileMaxBytes ∧
        chunkCount byteLen chunkSize.toNat ≤ blobDescriptorMaxChunks := by
  simp only [validateChunkPlan, bind_eq_ok_iff, ensure_eq_ok_iff, expectedChunkCount_eq_ok_iff]
  constructor
  · rintro ⟨_, short, count, ⟨positive, bounded, few, -⟩, -⟩
    rw [UInt64.toNat_ofNat_of_lt' short] at few
    exact ⟨short, positive, bounded, few⟩
  · rintro ⟨short, positive, bounded, few⟩
    rw [← UInt64.toNat_ofNat_of_lt' short] at few
    exact ⟨(), short, _, ⟨positive, bounded, few, rfl⟩, trivial⟩

/-- The lengths that a descriptor expects of its chunks. -/
def BlobDescriptor.expectedLengths (descriptor : BlobDescriptor) : List Nat :=
  chunkLengths descriptor.byteLen.toNat descriptor.chunkSize.toNat

def BlobDescriptor.expectedLength (descriptor : BlobDescriptor) (chunkIndex : Nat) : Nat :=
  chunkLength descriptor.byteLen.toNat descriptor.chunkSize.toNat chunkIndex

namespace BlobDescriptor.Valid

variable {descriptor : BlobDescriptor} (valid : descriptor.Valid)

include valid

theorem length_expectedLengths :
    descriptor.expectedLengths.length = descriptor.chunkHashes.length := by
  rw [valid.counted, expectedLengths, length_chunkLengths]

theorem getElem?_expectedLengths {chunkIndex : Nat}
    (inside : chunkIndex < descriptor.chunkHashes.length) :
    descriptor.expectedLengths[chunkIndex]? = some (descriptor.expectedLength chunkIndex) := by
  rw [valid.counted] at inside
  simp [expectedLengths, expectedLength, chunkLengths, inside]

/-- The expected length of a chunk is that of the cut of the whole. -/
theorem expectedChunkByteLen {chunkIndex : Nat}
    (inside : chunkIndex < descriptor.chunkHashes.length) :
    expectedChunkByteLen descriptor chunkIndex = .ok (descriptor.expectedLength chunkIndex) := by
  simp only [Chaft.expectedChunkByteLen, bind_eq_ok_iff, ensure_eq_ok_iff,
    validateDescriptor_eq_ok_iff]
  refine ⟨(), valid, (), inside, ?_⟩
  split
  · rename_i notLast
    rw [valid.counted] at notLast
    rw [expectedLength, chunkLength_of_not_last notLast]
  · rename_i last
    have atEnd :
        chunkIndex + 1 = chunkCount descriptor.byteLen.toNat descriptor.chunkSize.toNat := by
      rw [← valid.counted]
      omega
    have before :
        chunkIndex * descriptor.chunkSize.toNat ≤ descriptor.byteLen.toNat := by
      by_cases first : chunkIndex = 0
      · rw [first, Nat.zero_mul]
        exact Nat.zero_le _
      · have earlier :
            chunkIndex - 1 + 1 <
              chunkCount descriptor.byteLen.toNat descriptor.chunkSize.toNat := by
          omega
        have full := mul_le_of_lt_chunkCount earlier
        rwa [Nat.sub_add_cancel (Nat.one_le_iff_ne_zero.mpr first)] at full
    have word := descriptor.byteLen.toNat_lt
    have small : chunkIndex * descriptor.chunkSize.toNat < 2 ^ 64 := by omega
    simp only [bind_eq_ok_iff, ensure_eq_ok_iff, Except.ok.injEq]
    refine ⟨(), small, (), before, ?_⟩
    rw [expectedLength, chunkLength_of_last valid.sizePositive atEnd]

theorem expectedLength_le (chunkIndex : Nat) :
    descriptor.expectedLength chunkIndex ≤ blobChunkFileMaxBytes :=
  (chunkLength_le _ _ chunkIndex).trans valid.sizeBounded

end BlobDescriptor.Valid

section Content

variable {blake3Hex : Bytes → String} {descriptor : BlobDescriptor}

theorem validateChunkPayload_eq_ok_iff
    (valid : descriptor.Valid) (chunkIndex : Nat) (bytes : Bytes) (done : Unit) :
    validateChunkPayload blake3Hex descriptor chunkIndex bytes = .ok done ↔
      descriptor.chunkHashes[chunkIndex]? = some (blake3Hex bytes) ∧
        bytes.length = descriptor.expectedLength chunkIndex := by
  simp only [validateChunkPayload, bind_eq_ok_iff, ensure_eq_ok_iff, okOr_eq_ok_iff,
    validateDescriptor_of_valid valid]
  constructor
  · rintro ⟨_, -, expectedHash, found, expectedLength, expected, _, sameLength, rfl⟩
    obtain ⟨inside, -⟩ := List.getElem?_eq_some_iff.mp found
    rw [valid.expectedChunkByteLen inside, Except.ok.injEq] at expected
    exact ⟨found, expected ▸ sameLength⟩
  · rintro ⟨found, sameLength⟩
    obtain ⟨inside, -⟩ := List.getElem?_eq_some_iff.mp found
    exact ⟨(), trivial, _, found, _, valid.expectedChunkByteLen inside, (), sameLength, rfl⟩

theorem validateReassembledBlob_eq_ok_iff
    (valid : descriptor.Valid) (bytes : Bytes) (done : Unit) :
    validateReassembledBlob blake3Hex descriptor bytes = .ok done ↔
      bytes.length = descriptor.byteLen.toNat ∧ blake3Hex bytes = descriptor.hash := by
  simp only [validateReassembledBlob, bind_eq_ok_iff, ensure_eq_ok_iff,
    validateDescriptor_of_valid valid]
  constructor
  · rintro ⟨_, -, _, -, _, sameLength, sameHash⟩
    exact ⟨sameLength, sameHash⟩
  · rintro ⟨sameLength, sameHash⟩
    have word := descriptor.byteLen.toNat_lt
    exact ⟨(), trivial, (), by omega, (), sameLength, sameHash⟩

end Content

section Described

variable {blake3Hex : Bytes → String}

theorem toNat_max_one (chunkSize : UInt64) :
    (max chunkSize 1).toNat = max chunkSize.toNat 1 := by
  change (if chunkSize ≤ 1 then 1 else chunkSize).toNat = _
  simp only [max_def, UInt64.le_iff_toNat_le, UInt64.toNat_one]
  split <;> rfl

variable (blake3Hex)

/-- A blob whose plan passes is described by a valid descriptor. -/
theorem describeBlob_valid
    (hexDigests : HexDigests blake3Hex) {bytes : Bytes} {chunkSize : UInt64}
    (planned : validateChunkPlan bytes.length (max chunkSize 1) = .ok ()) :
    (describeBlob blake3Hex bytes chunkSize).Valid := by
  rw [validateChunkPlan_eq_ok_iff] at planned
  obtain ⟨short, positive, bounded, few⟩ := planned
  have byteLen : (UInt64.ofNat bytes.length).toNat = bytes.length :=
    UInt64.toNat_ofNat_of_lt' short
  have count : (describeBlob blake3Hex bytes chunkSize).chunkHashes.length =
      chunkCount bytes.length (max chunkSize 1).toNat := by
    simp [describeBlob]
  exact
    { hash := hexDigests bytes
      sizePositive := positive
      sizeBounded := bounded
      counted := by rw [count]; simp only [describeBlob, byteLen]
      few := count ▸ few
      chunkHashes := by
        intro chunkHash member
        simp only [describeBlob, List.mem_map] at member
        obtain ⟨piece, -, rfl⟩ := member
        exact hexDigests piece }

/-- The chunk hashes of a description are those of pieces of the expected lengths. -/
theorem describeBlob_piece
    {bytes : Bytes} {chunkSize : UInt64} (short : bytes.length < 2 ^ 64)
    {chunkIndex : Nat} {chunkHash : String}
    (atIndex : (describeBlob blake3Hex bytes chunkSize).chunkHashes[chunkIndex]? = some chunkHash) :
    ∃ piece ∈ chunks (max chunkSize 1).toNat bytes,
      blake3Hex piece = chunkHash ∧
        piece.length = (describeBlob blake3Hex bytes chunkSize).expectedLength chunkIndex := by
  simp only [describeBlob, List.getElem?_map, Option.map_eq_some_iff] at atIndex
  obtain ⟨piece, isPiece, named⟩ := atIndex
  refine ⟨piece, List.mem_of_getElem? isPiece, named, ?_⟩
  have lengths := map_length_chunks (max chunkSize 1).toNat bytes
  have length := congrArg (fun lengths => lengths[chunkIndex]?) lengths
  simp only [List.getElem?_map, isPiece, Option.map_some] at length
  obtain ⟨inside, -⟩ := List.getElem?_eq_some_iff.mp length.symm
  rw [length_chunkLengths] at inside
  simp only [chunkLengths, List.getElem?_map, List.getElem?_range inside, Option.map_some,
    Option.some.injEq] at length
  rw [length, BlobDescriptor.expectedLength, describeBlob, UInt64.toNat_ofNat_of_lt' short]

end Described

end Chaft

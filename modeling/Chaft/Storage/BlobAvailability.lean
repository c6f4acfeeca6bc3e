import Chaft.Library.Containers
import Chaft.Storage.BlobDescriptor
import Mathlib.Data.List.Induction

/-!
# Blob availability

A store reports for a blob whether it holds the whole file and, by the manifest it
holds, which chunks it has and which it lacks.
-/

namespace Chaft

open Outcome Keyed

structure BlobAvailability where
  hash : String
  hasWholeBlob : Bool
  descriptor : Option BlobDescriptor
  availableChunkHashes : List String
  missingChunkHashes : List String
  deriving DecidableEq, Repr

/-- One more occurrence of a hash. -/
def countChunkHash
    (counts : HashMap String Nat) (hash : String) : Except MediaError (HashMap String Nat) := do
  validateHash hash
  let count := counts[hash]?.getD 0
  ensure (count + 1 < 2 ^ 64) .invalidDescriptor
  .ok (counts.insert hash (count + 1))

def countChunkHashes (hashes : List String) : Except MediaError (HashMap String Nat) :=
  hashes.foldlM countChunkHash ∅

/-- `usize::saturating_add`. -/
def saturatingAddUsize (left right : Nat) : Nat :=
  min (left + right) (2 ^ 64 - 1)

def validateAvailableCount
    (expected missing : HashMap String Nat) (entry : String × Nat) : Except MediaError Unit := do
  let (chunkHash, availableCount) := entry
  let expectedCount ← okOr expected[chunkHash]? .invalidDescriptor
  let missingCount := missing[chunkHash]?.getD 0
  ensure (¬ (0 < missingCount ∨
    expectedCount < saturatingAddUsize availableCount missingCount)) .invalidDescriptor

def validateMissingCount
    (expected : HashMap String Nat) (entry : String × Nat) : Except MediaError Unit := do
  let (chunkHash, missingCount) := entry
  let expectedCount ← okOr expected[chunkHash]? .invalidDescriptor
  ensure (missingCount ≤ expectedCount) .invalidDescriptor

def validateExpectedCount
    (available missing : HashMap String Nat) (entry : String × Nat) : Except MediaError Unit := do
  let (chunkHash, expectedCount) := entry
  let availableCount := available[chunkHash]?.getD 0
  let missingCount := missing[chunkHash]?.getD 0
  ensure (saturatingAddUsize availableCount missingCount = expectedCount) .invalidDescriptor

def validateBlobAvailability (availability : BlobAvailability) : Except MediaError Unit := do
  validateHash availability.hash
  match availability.descriptor with
  | none =>
      ensure (availability.availableChunkHashes.isEmpty ∧
        availability.missingChunkHashes.isEmpty) .invalidDescriptor
  | some descriptor => do
      validateDescriptor descriptor
      ensure (descriptor.hash = availability.hash) .invalidDescriptor
      let expected ← countChunkHashes descriptor.chunkHashes
      let available ← countChunkHashes availability.availableChunkHashes
      let missing ← countChunkHashes availability.missingChunkHashes
      checkAll (validateAvailableCount expected missing) available.toList
      checkAll (validateMissingCount expected) missing.toList
      checkAll (validateExpectedCount available missing) expected.toList

def sortHashes (hashes : List String) : List String :=
  hashes.mergeSort fun left right => decide (left ≤ right)

def BlobAvailability.isComplete (availability : BlobAvailability) : Bool :=
  match validateBlobAvailability availability with
  | .error _ => false
  | .ok () =>
      availability.hasWholeBlob ||
        match availability.descriptor with
        | none => false
        | some descriptor =>
            decide (descriptor.hash = availability.hash) &&
              availability.missingChunkHashes.isEmpty &&
                decide (availability.availableChunkHashes.length =
                  descriptor.chunkHashes.length) &&
                  decide (sortHashes availability.availableChunkHashes =
                    sortHashes descriptor.chunkHashes)

/-! ## Counting -/

private theorem getD_count (hashes : List String) (hash : String) :
    (if hash ∈ hashes then some (hashes.count hash) else none).getD 0 = hashes.count hash := by
  split
  · rfl
  · rename_i absent
    exact (List.count_eq_zero.mpr absent).symm

/-- A count of hashes that are all well formed and not too many succeeds. -/
theorem countChunkHashes_of_valid
    {hashes : List String} (areHashes : ∀ hash ∈ hashes, isBlobHash hash = true)
    (few : hashes.length ≤ blobDescriptorMaxChunks) :
    ∃ counts, countChunkHashes hashes = .ok counts ∧
      ∀ hash, counts[hash]? = if hash ∈ hashes then some (hashes.count hash) else none := by
  induction hashes using List.reverseRecOn with
  | nil => exact ⟨∅, rfl, fun hash => by simp⟩
  | append_singleton earlier last inductionHypothesis =>
      rw [List.length_append, List.length_singleton] at few
      obtain ⟨counts, counted, spec⟩ :=
        inductionHypothesis (fun hash member => areHashes hash (List.mem_append_left _ member))
          (by omega)
      have previous : counts[last]?.getD 0 = earlier.count last := by
        rw [spec, getD_count]
      have small : earlier.count last ≤ earlier.length := List.count_le_length
      have added :
          countChunkHash counts last = .ok (counts.insert last (earlier.count last + 1)) := by
        simp only [countChunkHash, bind_eq_ok_iff, validateHash_eq_ok_iff, ensure_eq_ok_iff,
          previous]
        refine ⟨(), areHashes last (by simp), (), ?_, trivial⟩
        rw [blobDescriptorMaxChunks] at few
        omega
      refine ⟨counts.insert last (earlier.count last + 1), ?_, ?_⟩
      · rw [countChunkHashes, List.foldlM_append]
        rw [countChunkHashes] at counted
        rw [counted]
        simp [added, bind, Except.bind, pure, Except.pure]
      · intro hash
        simp only [Std.ExtTreeMap.getElem?_insert, Std.LawfulEqCmp.compare_eq_iff_eq, spec]
        by_cases same : last = hash
        · subst same
          simp
        · have different : ¬ hash = last := fun equal => same equal.symm
          simp [same, different, List.count_append]

/-- What is reported of a valid descriptor by a test of its chunk hashes is
accepted. -/
theorem validateBlobAvailability_of_filter
    {descriptor : BlobDescriptor} (valid : descriptor.Valid) (present : String → Bool)
    (hasWholeBlob : Bool) :
    validateBlobAvailability
      { hash := descriptor.hash
        hasWholeBlob := hasWholeBlob
        descriptor := some descriptor
        availableChunkHashes := descriptor.chunkHashes.filter present
        missingChunkHashes := descriptor.chunkHashes.filter fun hash => !present hash } =
      .ok () := by
  have few := valid.few
  have fewOf (kept : String → Bool) :
      (descriptor.chunkHashes.filter kept).length ≤ blobDescriptorMaxChunks :=
    (List.length_filter_le kept _).trans few
  have hashesOf (kept : String → Bool) :
      ∀ hash ∈ descriptor.chunkHashes.filter kept, isBlobHash hash = true :=
    fun hash member => valid.chunkHashes hash (List.mem_filter.mp member).1
  obtain ⟨expected, countedExpected, expectedSpec⟩ :=
    countChunkHashes_of_valid valid.chunkHashes few
  obtain ⟨available, countedAvailable, availableSpec⟩ :=
    countChunkHashes_of_valid (hashesOf present) (fewOf present)
  obtain ⟨missing, countedMissing, missingSpec⟩ :=
    countChunkHashes_of_valid (hashesOf fun hash => !present hash)
      (fewOf fun hash => !present hash)
  have availableCount (hash : String) :
      available[hash]?.getD 0 =
        if present hash then descriptor.chunkHashes.count hash else 0 := by
    rw [availableSpec, getD_count]
    split
    · rename_i isPresent
      exact List.count_filter isPresent
    · rename_i isAbsent
      exact List.count_eq_zero.mpr fun member => isAbsent (List.mem_filter.mp member).2
  have missingCount (hash : String) :
      missing[hash]?.getD 0 =
        if present hash then 0 else descriptor.chunkHashes.count hash := by
    rw [missingSpec, getD_count]
    split
    · rename_i isPresent
      apply List.count_eq_zero.mpr
      intro member
      have isMissing := (List.mem_filter.mp member).2
      rw [isPresent] at isMissing
      exact Bool.false_ne_true isMissing
    · rename_i isAbsent
      exact List.count_filter (by simpa using isAbsent)
  have bound (hash : String) : descriptor.chunkHashes.count hash ≤ blobDescriptorMaxChunks :=
    List.count_le_length.trans few
  have saturates (hash : String) :
      saturatingAddUsize (available[hash]?.getD 0) (missing[hash]?.getD 0) =
        descriptor.chunkHashes.count hash := by
    have counted := bound hash
    rw [blobDescriptorMaxChunks] at counted
    rw [availableCount, missingCount, saturatingAddUsize]
    split <;> omega
  have listed (hash : String) (count : Nat) (found : expected[hash]? = some count) :
      count = descriptor.chunkHashes.count hash := by
    rw [expectedSpec] at found
    split at found
    · exact (Option.some.inj found).symm
    · cases found
  simp only [validateBlobAvailability, bind_eq_ok_iff, validateHash_eq_ok_iff,
    ensure_eq_ok_iff, checkAll_eq_ok_iff, validateDescriptor_of_valid valid]
  refine ⟨(), valid.hash, (), trivial, (), trivial, expected, countedExpected, available,
    countedAvailable, missing, countedMissing, (), ?_, (), ?_, ?_⟩
  · intro entry member
    have found := Std.ExtTreeMap.mem_toList_iff_getElem?_eq_some.mp member
    have counted : available[entry.1]?.getD 0 = entry.2 := by rw [found, Option.getD_some]
    have isPresent : present entry.1 = true ∧ entry.1 ∈ descriptor.chunkHashes := by
      rw [availableSpec] at found
      split at found
      · rename_i inFilter
        exact (List.mem_filter.mp inFilter).symm
      · cases found
    have isExpected := expectedSpec entry.1
    rw [if_pos isPresent.2] at isExpected
    have noneMissing : missing[entry.1]?.getD 0 = 0 := by
      rw [missingCount, if_pos isPresent.1]
    have total := saturates entry.1
    rw [counted] at total
    simp only [validateAvailableCount, bind_eq_ok_iff, okOr_eq_ok_iff, ensure_eq_ok_iff]
    refine ⟨_, isExpected, ?_⟩
    rw [total, noneMissing]
    omega
  · intro entry member
    have found := Std.ExtTreeMap.mem_toList_iff_getElem?_eq_some.mp member
    have counted : missing[entry.1]?.getD 0 = entry.2 := by rw [found, Option.getD_some]
    have inDescriptor : entry.1 ∈ descriptor.chunkHashes := by
      rw [missingSpec] at found
      split at found
      · rename_i inFilter
        exact (List.mem_filter.mp inFilter).1
      · cases found
    have isExpected := expectedSpec entry.1
    rw [if_pos inDescriptor] at isExpected
    simp only [validateMissingCount, bind_eq_ok_iff, okOr_eq_ok_iff, ensure_eq_ok_iff]
    refine ⟨_, isExpected, ?_⟩
    rw [← counted, missingCount]
    split <;> omega
  · intro entry member
    have found := Std.ExtTreeMap.mem_toList_iff_getElem?_eq_some.mp member
    rw [validateExpectedCount, ensure_eq_ok_iff, saturates]
    exact (listed entry.1 entry.2 found).symm

end Chaft

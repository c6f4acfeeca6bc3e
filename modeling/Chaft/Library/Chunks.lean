import Mathlib.Algebra.Ring.Nat
import Mathlib.Data.List.Flatten

/-!
# Pieces of a fixed size

A list is cut into consecutive pieces of one size; the last piece holds what is
left.  The lengths of the pieces are a matter of the total length alone, and a
list of pieces with these lengths is the cut of its own concatenation.
-/

namespace Chunked

universe u

variable {α : Type u}

/-- How many pieces of `size` items cover `total` items. -/
def chunkCount (total size : Nat) : Nat :=
  if total = 0 then 0 else (total - 1) / size + 1

/-- The length of a piece of `total` items. -/
def chunkLength (total size index : Nat) : Nat :=
  min size (total - index * size)

/-- The lengths of all pieces of `total` items. -/
def chunkLengths (total size : Nat) : List Nat :=
  (List.range (chunkCount total size)).map (chunkLength total size)

/-- The pieces of a list. -/
def chunks (size : Nat) (items : List α) : List (List α) :=
  (List.range (chunkCount items.length size)).map fun index =>
    (items.drop (index * size)).take size

@[simp]
theorem chunkCount_zero (size : Nat) : chunkCount 0 size = 0 := rfl

@[simp]
theorem length_chunkLengths (total size : Nat) :
    (chunkLengths total size).length = chunkCount total size := by
  simp [chunkLengths]

@[simp]
theorem length_chunks (size : Nat) (items : List α) :
    (chunks size items).length = chunkCount items.length size := by
  simp [chunks]

/-- Pieces of one item are as many as the items. -/
theorem chunkCount_one (total : Nat) : chunkCount total 1 = total := by
  unfold chunkCount
  split
  · omega
  · rw [Nat.div_one]
    omega

theorem le_chunkCount_mul {size : Nat} (positive : 0 < size) (total : Nat) :
    total ≤ chunkCount total size * size := by
  unfold chunkCount
  split
  · omega
  · have bound := Nat.lt_div_mul_add (a := total - 1) positive
    rw [Nat.add_mul, Nat.one_mul]
    omega

/-- Before the last piece all pieces are full. -/
theorem mul_le_of_lt_chunkCount
    {total size index : Nat} (inside : index + 1 < chunkCount total size) :
    (index + 1) * size ≤ total := by
  unfold chunkCount at inside
  split at inside
  · omega
  · have full : (index + 1) * size ≤ (total - 1) / size * size :=
      Nat.mul_le_mul_right size (by omega)
    have whole := Nat.div_mul_le_self (total - 1) size
    omega

theorem chunkLength_of_not_last
    {total size index : Nat} (inside : index + 1 < chunkCount total size) :
    chunkLength total size index = size := by
  have full := mul_le_of_lt_chunkCount inside
  rw [Nat.add_mul, Nat.one_mul] at full
  unfold chunkLength
  omega

theorem chunkLength_of_last
    {total size index : Nat} (positive : 0 < size)
    (last : index + 1 = chunkCount total size) :
    chunkLength total size index = total - index * size := by
  have bound := le_chunkCount_mul positive total
  rw [← last, Nat.add_mul, Nat.one_mul] at bound
  unfold chunkLength
  omega

theorem chunkLength_le (total size index : Nat) : chunkLength total size index ≤ size :=
  Nat.min_le_left _ _

@[simp]
theorem map_length_chunks (size : Nat) (items : List α) :
    (chunks size items).map List.length = chunkLengths items.length size := by
  simp only [chunks, chunkLengths, List.map_map]
  apply List.map_congr_left
  intro index _
  simp [chunkLength]

/-- The first pieces put end to end are the beginning of the list. -/
private theorem flatten_take_pieces (size : Nat) (items : List α) (count : Nat) :
    ((List.range count).map fun index => (items.drop (index * size)).take size).flatten =
      items.take (count * size) := by
  induction count with
  | zero => simp
  | succ count inductionHypothesis =>
      rw [List.range_succ, List.map_append, List.flatten_append, inductionHypothesis,
        Nat.add_mul, Nat.one_mul, List.take_add]
      simp

/-- The pieces put end to end are the list. -/
@[simp]
theorem flatten_chunks {size : Nat} (positive : 0 < size) (items : List α) :
    (chunks size items).flatten = items := by
  rw [chunks, flatten_take_pieces]
  exact List.take_of_length_le (le_chunkCount_mul positive items.length)

theorem sum_chunkLengths {size : Nat} (positive : 0 < size) (total : Nat) :
    (chunkLengths total size).sum = total := by
  have pieces := map_length_chunks size (List.replicate total ())
  rw [List.length_replicate] at pieces
  rw [← pieces, ← List.length_flatten, flatten_chunks positive, List.length_replicate]

/-- Pieces of the right lengths have the right total length. -/
theorem length_flatten_of_lengths
    {total size : Nat} (positive : 0 < size) {pieces : List (List α)}
    (lengths : pieces.map List.length = chunkLengths total size) :
    pieces.flatten.length = total := by
  rw [List.length_flatten, lengths, sum_chunkLengths positive]

/-- Pieces of the right lengths are the pieces of their concatenation. -/
theorem eq_chunks_flatten
    {total size : Nat} (positive : 0 < size) {pieces : List (List α)}
    (lengths : pieces.map List.length = chunkLengths total size) :
    pieces = chunks size pieces.flatten := by
  rw [List.eq_iff_flatten_eq]
  constructor
  · exact (flatten_chunks positive pieces.flatten).symm
  · rw [map_length_chunks, length_flatten_of_lengths positive lengths, lengths]

theorem length_le_of_mem_chunks
    {size : Nat} {items piece : List α} (member : piece ∈ chunks size items) :
    piece.length ≤ size := by
  simp only [chunks, List.mem_map] at member
  obtain ⟨index, -, rfl⟩ := member
  exact List.length_take_le size _

/-- No piece is empty. -/
theorem ne_nil_of_mem_chunks
    {size : Nat} (positive : 0 < size) {items piece : List α} (member : piece ∈ chunks size items) :
    piece ≠ [] := by
  simp only [chunks, List.mem_map, List.mem_range] at member
  obtain ⟨index, inside, rfl⟩ := member
  apply List.ne_nil_of_length_pos
  have before : index * size < items.length := by
    unfold chunkCount at inside
    split at inside
    · omega
    · have below : index * size ≤ (items.length - 1) / size * size :=
        Nat.mul_le_mul_right size (by omega)
      have whole := Nat.div_mul_le_self (items.length - 1) size
      omega
  rw [List.length_take, List.length_drop]
  omega

/-- A piece stands somewhere in the list. -/
theorem infix_of_mem_chunks
    {size : Nat} {items piece : List α} (member : piece ∈ chunks size items) :
    piece <:+: items := by
  simp only [chunks, List.mem_map] at member
  obtain ⟨index, -, rfl⟩ := member
  exact (List.take_prefix size _).isInfix.trans (List.drop_suffix _ items).isInfix

end Chunked

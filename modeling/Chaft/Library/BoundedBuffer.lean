import Mathlib.Data.List.Sort
import Mathlib.Data.List.Induction

/-!
# Bounded buffers

A loop keeps the first items of an order in a buffer: it appends each item, and
sorts the buffer and cuts it when it has become too long.  In the end the buffer
holds the first items of all that it has seen, whatever their order was.
-/

namespace BoundedBuffer

universe u

variable {α : Type u} (order : α → α → Prop)

/-- The items of `first` are some first ones of `pool`, at most `limit`. -/
def Leads (limit : Nat) (first pool : List α) : Prop :=
  ∃ rest, (first ++ rest).Perm pool ∧ (∀ item ∈ first, ∀ later ∈ rest, order item later) ∧
    first.length = min limit pool.length

variable [DecidableRel order]

def keepFirst (limit : Nat) (buffer : List α) (item : α) : List α :=
  if limit < (buffer ++ [item]).length then
    ((buffer ++ [item]).insertionSort order).take limit
  else
    buffer ++ [item]

variable [Std.Total order] [IsTrans α order] {order}

theorem leads_keepFirst
    {limit : Nat} {buffer pool : List α} (leads : Leads order limit buffer pool) (item : α) :
    Leads order limit (keepFirst order limit buffer item) (pool ++ [item]) := by
  obtain ⟨rest, isPool, ahead, length⟩ := leads
  have lengths := isPool.length_eq
  rw [List.length_append] at lengths
  rw [keepFirst]
  by_cases full : limit < (buffer ++ [item]).length
  · rw [if_pos full]
    rw [List.length_append, List.length_singleton] at full
    have isFull : buffer.length = limit := by omega
    have sorted := List.pairwise_insertionSort order (buffer ++ [item])
    have permuted := List.perm_insertionSort order (buffer ++ [item])
    -- one item falls out of the buffer
    obtain ⟨dropped, isDropped⟩ :
        ∃ dropped,
          ((buffer ++ [item]).insertionSort order).drop limit = [dropped] := by
      apply List.length_eq_one_iff.mp
      rw [List.length_drop, List.length_insertionSort, List.length_append, List.length_singleton]
      omega
    have parts :
        ((buffer ++ [item]).insertionSort order).take limit ++ [dropped] =
          (buffer ++ [item]).insertionSort order := by
      rw [← isDropped, List.take_append_drop]
    rw [← parts] at sorted permuted
    have beforeDropped :
        ∀ kept ∈ ((buffer ++ [item]).insertionSort order).take limit, order kept dropped :=
      fun kept member =>
        (List.pairwise_append.mp sorted).2.2 kept member dropped (List.mem_singleton_self dropped)
    have whole :
        (((buffer ++ [item]).insertionSort order).take limit ++ (dropped :: rest)).Perm
          (pool ++ [item]) := by
      have front := permuted.append_right rest
      rw [List.append_assoc, List.singleton_append] at front
      refine front.trans ?_
      rw [List.append_assoc]
      exact (List.perm_append_comm.append_left buffer).trans
        (by rw [← List.append_assoc]; exact isPool.append_right [item])
    refine ⟨dropped :: rest, whole, ?_, ?_⟩
    · intro kept isKept later isLater
      rcases List.mem_cons.mp isLater with rfl | inRest
      · exact beforeDropped kept isKept
      · have droppedOrigin :=
          permuted.mem_iff.mp (List.mem_append_right _ (List.mem_singleton_self dropped))
        rcases List.mem_append.mp droppedOrigin with oldDropped | isItem
        · exact IsTrans.trans _ _ _ (beforeDropped kept isKept)
            (ahead dropped oldDropped later inRest)
        · -- the new item itself falls out, so the buffer is what it was
          rw [List.mem_singleton.mp isItem] at permuted
          have sameItems := (List.perm_append_right_iff [item]).mp permuted
          exact ahead kept (sameItems.mem_iff.mp isKept) later inRest
    · rw [List.length_take, List.length_insertionSort, List.length_append, List.length_append,
        List.length_singleton]
      omega
  · rw [if_neg full]
    rw [List.length_append, List.length_singleton] at full
    have noRest : rest = [] := by
      apply List.length_eq_zero_iff.mp
      omega
    subst noRest
    rw [List.append_nil] at isPool
    refine ⟨[], ?_, ?_, ?_⟩
    · rw [List.append_nil]
      exact isPool.append_right [item]
    · intro kept _ later isLater
      cases isLater
    · rw [List.length_append, List.length_append, List.length_singleton]
      omega

theorem leads_foldl_keepFirst (limit : Nat) (pool : List α) :
    Leads order limit (pool.foldl (keepFirst order limit) []) pool := by
  induction pool using List.reverseRecOn with
  | nil => exact ⟨[], .refl _, fun _ member => (by cases member), by simp⟩
  | append_singleton earlier item inductionHypothesis =>
      rw [List.foldl_append]
      exact leads_keepFirst inductionHypothesis item

/-- Where different items are never equal in the order, the buffer sorts to the first items of
the sorted pool. -/
theorem insertionSort_of_leads
    {limit : Nat} {first pool : List α} (leads : Leads order limit first pool)
    (apart :
      ∀ item ∈ pool, ∀ other ∈ pool, order item other → order other item → item = other) :
    first.insertionSort order = (pool.insertionSort order).take limit := by
  obtain ⟨rest, isPool, ahead, length⟩ := leads
  have firstPermuted := List.perm_insertionSort order first
  have restPermuted := List.perm_insertionSort order rest
  have poolPermuted := List.perm_insertionSort order pool
  have whole :
      first.insertionSort order ++ rest.insertionSort order = pool.insertionSort order := by
    have permuted :
        (first.insertionSort order ++ rest.insertionSort order).Perm
          (pool.insertionSort order) :=
      ((firstPermuted.append restPermuted).trans isPool).trans poolPermuted.symm
    refine List.Perm.eq_of_pairwise ?_ ?_ (List.pairwise_insertionSort order pool) permuted
    · intro item other isItem isOther
      exact apart item (poolPermuted.mem_iff.mp (permuted.mem_iff.mp isItem)) other
        (poolPermuted.mem_iff.mp isOther)
    · refine List.pairwise_append.mpr ⟨List.pairwise_insertionSort order first,
        List.pairwise_insertionSort order rest, ?_⟩
      intro item isItem later isLater
      exact ahead item (firstPermuted.mem_iff.mp isItem) later (restPermuted.mem_iff.mp isLater)
  have bound : (first.insertionSort order).length = min limit pool.length := by
    rw [List.length_insertionSort, length]
  rw [← whole]
  by_cases short : limit ≤ pool.length
  · rw [Nat.min_eq_left short] at bound
    rw [← bound, List.take_left']
    rfl
  · have noRest : rest.insertionSort order = [] := by
      have lengths := isPool.length_eq
      rw [List.length_append] at lengths
      apply List.length_eq_zero_iff.mp
      rw [List.length_insertionSort]
      omega
    rw [noRest, List.append_nil, List.take_of_length_le]
    omega

end BoundedBuffer

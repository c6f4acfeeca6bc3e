import Mathlib.Data.List.Sort

/-!
# The first items of a sorted list

A listing sorts its items and shows the first ones.  Items that should not be listed do not
show exactly if each of them comes after enough others.
-/

namespace FirstItems

universe u

variable {α : Type u} {order : α → α → Prop}

/-- Where items are never equal in the order, sorting leads to one list. -/
theorem insertionSort_congr
    [DecidableRel order] [Std.Total order] [IsTrans α order] {left right : List α}
    (same : left.Perm right)
    (apart : ∀ item ∈ left, ∀ other ∈ left, order item other → order other item → item = other) :
    left.insertionSort order = right.insertionSort order := by
  refine List.Perm.eq_of_pairwise ?_ (List.pairwise_insertionSort order left)
    (List.pairwise_insertionSort order right)
    (((List.perm_insertionSort order left).trans same).trans
      (List.perm_insertionSort order right).symm)
  intro item other isItem isOther
  exact apart item ((List.mem_insertionSort order).mp isItem) other
    (same.mem_iff.mpr ((List.mem_insertionSort order).mp isOther))

/-- Removing items leaves the first ones as they are exactly if none of them was among them. -/
theorem take_filter_eq_iff (limit : Nat) (kept : α → Bool) (items : List α) :
    (items.filter kept).take limit = items.take limit ↔
      ∀ item ∈ items.take limit, kept item = true := by
  constructor
  · intro same item member
    rw [← same] at member
    exact (List.mem_filter.mp (List.mem_of_mem_take member)).2
  · intro allKept
    have front : (items.take limit).filter kept = items.take limit :=
      List.filter_eq_self.mpr allKept
    have parts :
        items.filter kept = items.take limit ++ (items.drop limit).filter kept := by
      have split := congrArg (List.filter kept) (List.take_append_drop limit items)
      rw [List.filter_append, front] at split
      exact split.symm
    rw [parts]
    by_cases long : limit ≤ items.length
    · have length : (items.take limit).length = limit := by
        rw [List.length_take, Nat.min_eq_left long]
      exact List.take_left' length
    · have noMore : items.drop limit = [] := List.drop_eq_nil_of_le (by omega)
      rw [noMore, List.filter_nil, List.append_nil, List.take_take, Nat.min_self]

variable [DecidableEq α] [DecidableRel order]

/-- The others that come before an item. -/
def before (order : α → α → Prop) [DecidableRel order] (items : List α) (item : α) : List α :=
  items.filter fun other => decide (other ≠ item ∧ order other item)

theorem length_before_congr
    {left right : List α} (same : left.Perm right) (item : α) :
    (before order left item).length = (before order right item).length :=
  (same.filter _).length_eq

/-- In a sorted list, an item is among the first ones exactly if few others come before it. -/
theorem mem_take_iff
    {items : List α} (sorted : items.Pairwise order) (distinct : items.Nodup)
    (apart : ∀ item ∈ items, ∀ other ∈ items, order item other → order other item → item = other)
    {item : α} (member : item ∈ items) (limit : Nat) :
    item ∈ items.take limit ↔ (before order items item).length < limit := by
  obtain ⟨front, back, rfl⟩ := List.append_of_mem member
  obtain ⟨frontSorted, restSorted, frontFirst⟩ := List.pairwise_append.mp sorted
  obtain ⟨frontDistinct, restDistinct, disjoint⟩ := List.nodup_append.mp distinct
  have frontBefore :
      front.filter (fun other => decide (other ≠ item ∧ order other item)) = front := by
    rw [List.filter_eq_self]
    intro other isFront
    rw [decide_eq_true_eq]
    exact ⟨disjoint other isFront item List.mem_cons_self,
      frontFirst other isFront item List.mem_cons_self⟩
  have backAfter :
      (item :: back).filter (fun other => decide (other ≠ item ∧ order other item)) = [] := by
    rw [List.filter_eq_nil_iff]
    intro other isRest
    rw [decide_eq_true_eq]
    rintro ⟨differ, isBefore⟩
    rcases List.mem_cons.mp isRest with same | isBack
    · exact differ same
    · have after := (List.pairwise_cons.mp restSorted).1 other isBack
      exact differ (apart other (List.mem_append_right _ isRest) item member isBefore after)
  have count : (before order (front ++ item :: back) item).length = front.length := by
    rw [before, List.filter_append, frontBefore, backAfter, List.append_nil]
  rw [count]
  constructor
  · intro isFirst
    by_contra late
    rw [List.take_append_of_le_length (by omega)] at isFirst
    exact disjoint item (List.mem_of_mem_take isFirst) item List.mem_cons_self rfl
  · intro early
    obtain ⟨more, isMore⟩ := Nat.exists_eq_add_of_lt early
    rw [isMore, List.take_append, List.mem_append]
    right
    rw [show front.length + more + 1 - front.length = more + 1 by omega, List.take_succ_cons]
    exact List.mem_cons_self

/-- The first items of all are those of the kept ones exactly if enough others come before each
item that is not kept. -/
theorem take_insertionSort_filter_eq_iff
    [Std.Total order] [IsTrans α order] (limit : Nat) (kept : α → Bool) {items : List α}
    (distinct : items.Nodup)
    (apart :
      ∀ item ∈ items, ∀ other ∈ items, order item other → order other item → item = other) :
    (items.insertionSort order).take limit =
        ((items.filter kept).insertionSort order).take limit ↔
      ∀ item ∈ items, kept item = false → limit ≤ (before order items item).length := by
  have permuted := List.perm_insertionSort order items
  have sorted := List.pairwise_insertionSort order items
  have sortedApart :
      ∀ item ∈ items.insertionSort order, ∀ other ∈ items.insertionSort order,
        order item other → order other item → item = other := by
    intro item isItem other isOther
    exact apart item (permuted.mem_iff.mp isItem) other (permuted.mem_iff.mp isOther)
  have keptSorted :
      (items.filter kept).insertionSort order = (items.insertionSort order).filter kept := by
    have same :
        ((items.insertionSort order).filter kept).insertionSort order =
          (items.insertionSort order).filter kept :=
      List.Pairwise.insertionSort_eq (sorted.filter kept)
    rw [← same]
    apply insertionSort_congr (permuted.filter kept).symm
    intro item isItem other isOther
    exact apart item (List.mem_of_mem_filter isItem) other (List.mem_of_mem_filter isOther)
  rw [keptSorted, eq_comm, take_filter_eq_iff]
  constructor
  · intro allKept item member notKept
    by_contra few
    have isFirst :=
      (mem_take_iff sorted (permuted.nodup_iff.mpr distinct) sortedApart
        (permuted.mem_iff.mpr member) limit).mpr
        (by rw [length_before_congr permuted]; omega)
    rw [allKept item isFirst] at notKept
    cases notKept
  · intro enough item isFirst
    have sortedMember := List.mem_of_mem_take isFirst
    have few :=
      (mem_take_iff sorted (permuted.nodup_iff.mpr distinct) sortedApart sortedMember limit).mp
        isFirst
    rw [length_before_congr permuted] at few
    cases isKept : kept item with
    | true => rfl
    | false =>
        have many := enough item (permuted.mem_iff.mp sortedMember) isKept
        omega

end FirstItems

import Mathlib.Data.List.Nodup
import Mathlib.Data.List.Perm.Basic

/-!
# Counting along lists

A program that walks over a list with a running index and counts from one index on
counts in the rest of the list.  Two lists without repetitions count their common items
alike.
-/

namespace Counting

universe u

variable {α : Type u}

/-- Counting the pairs from an index on. -/
theorem countP_zipIdx_from
    (counted : α → Bool) (start offset : Nat) (items : List α) :
    (items.zipIdx offset).countP (fun (item, index) => counted item && decide (start ≤ index)) =
      (items.drop (start - offset)).countP counted := by
  induction items generalizing offset with
  | nil => simp
  | cons item rest inductionHypothesis =>
      rw [List.zipIdx_cons, List.countP_cons, inductionHypothesis]
      by_cases reached : start ≤ offset
      · have none : start - offset = 0 := by omega
        have noneLater : start - (offset + 1) = 0 := by omega
        rw [none, noneLater, List.drop_zero, List.drop_zero, List.countP_cons]
        simp [reached]
      · have some : start - offset = start - (offset + 1) + 1 := by omega
        rw [some, List.drop_succ_cons]
        simp [reached]

/-- The items of the left list that the right one has too. -/
def common [DecidableEq α] (left right : List α) : List α :=
  left.filter fun item => decide (item ∈ right)

/-- The items of the left list that the right one lacks. -/
def apart [DecidableEq α] (left right : List α) : List α :=
  left.filter fun item => decide (item ∉ right)

variable [DecidableEq α]

theorem countP_common_add_apart (counted : α → Bool) (left right : List α) :
    (common left right).countP counted + (apart left right).countP counted =
      left.countP counted := by
  induction left with
  | nil => rfl
  | cons item rest inductionHypothesis =>
      unfold common apart at inductionHypothesis ⊢
      by_cases shared : item ∈ right
      · simp only [List.filter_cons, shared, not_true_eq_false, decide_true, decide_false,
          if_true, Bool.false_eq_true, if_false, List.countP_cons]
        omega
      · simp only [List.filter_cons, shared, not_false_eq_true, decide_true, decide_false,
          if_true, Bool.false_eq_true, if_false, List.countP_cons]
        omega

theorem countP_common_comm
    {left right : List α} (leftNodup : left.Nodup) (rightNodup : right.Nodup)
    (counted : α → Bool) :
    (common left right).countP counted = (common right left).countP counted := by
  have samePerm : (common left right).Perm (common right left) := by
    unfold common
    rw [List.perm_ext_iff_of_nodup (leftNodup.filter _) (rightNodup.filter _)]
    intro item
    simp only [List.mem_filter, decide_eq_true_eq]
    exact and_comm
  exact samePerm.countP_eq counted

/-- A list that begins with another one lacks none of its items. -/
theorem apart_of_prefix {left right : List α} (isPrefix : left.IsPrefix right) :
    apart left right = [] := by
  refine List.filter_eq_nil_iff.mpr fun item member => ?_
  simp [isPrefix.subset member]

end Counting

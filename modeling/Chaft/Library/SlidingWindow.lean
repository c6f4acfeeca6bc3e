import Mathlib.Data.List.Induction
import Mathlib.Data.List.TakeDrop

/-!
# Windows on a stream

A window on a stream of rows is filled while the rows pass by once.  It holds the rows
from a given place on, or the latest ones, and remembers the row that stands directly
before it.
-/

namespace SlidingWindow

universe u

/-- What is known while rows pass by. -/
structure Passing (α : Type u) where
  rows : List α
  before : Option α
  count : Nat

namespace Passing

variable {α : Type u}

def start : Passing α := ⟨[], none, 0⟩

/-- Keep the rows from one place up to another. -/
def visitRange (first stop : Nat) (passing : Passing α) (row : α) : Passing α :=
  if passing.count < first then
    { passing with before := some row, count := passing.count + 1 }
  else if passing.count < stop then
    { passing with rows := passing.rows ++ [row], count := passing.count + 1 }
  else
    { passing with count := passing.count + 1 }

/-- Keep at most a number of rows: a new row pushes out the oldest one. -/
def visitLatest (limit : Nat) (passing : Passing α) (row : α) : Passing α :=
  if limit = 0 then
    { passing with count := passing.count + 1 }
  else if passing.rows.length = limit then
    { rows := passing.rows.tail ++ [row]
      before := passing.rows.head?
      count := passing.count + 1 }
  else
    { passing with rows := passing.rows ++ [row], count := passing.count + 1 }

end Passing

variable {α : Type u}

/-- The window is a slice, and the row before it the last one in front of the slice. -/
theorem foldl_visitRange (first limit : Nat) (items : List α) :
    items.foldl (Passing.visitRange first (first + limit)) .start =
      ⟨(items.drop first).take limit, (items.take first).getLast?, items.length⟩ := by
  induction items using List.reverseRecOn with
  | nil => simp [Passing.start]
  | append_singleton items row inductionHypothesis =>
      rw [List.foldl_append, inductionHypothesis, List.foldl_cons, List.foldl_nil,
        Passing.visitRange]
      dsimp only
      by_cases early : items.length < first
      · have within : (items ++ [row]).length ≤ first := by
          rw [List.length_append, List.length_singleton]
          exact early
        rw [if_pos early, List.drop_of_length_le (by omega), List.drop_of_length_le within,
          List.take_of_length_le within]
        simp
      · rw [if_neg early, List.take_append_of_le_length (by omega : first ≤ items.length),
          List.drop_append_of_le_length (by omega : first ≤ items.length)]
        by_cases inside : items.length < first + limit
        · have short : (items.drop first).length < limit := by
            rw [List.length_drop]
            omega
          have shortLater : (items.drop first ++ [row]).length ≤ limit := by
            rw [List.length_append, List.length_singleton]
            exact short
          rw [if_pos inside, List.take_of_length_le (Nat.le_of_lt short), List.take_of_length_le shortLater,
            List.length_append, List.length_singleton]
        · have long : limit ≤ (items.drop first).length := by
            rw [List.length_drop]
            omega
          rw [if_neg inside, List.take_append_of_le_length long, List.length_append,
            List.length_singleton]

/-- The latest rows are the end of the stream. -/
theorem foldl_visitLatest {limit : Nat} (positive : 0 < limit) (items : List α) :
    items.foldl (Passing.visitLatest limit) .start =
      ⟨items.drop (items.length - limit), (items.take (items.length - limit)).getLast?,
        items.length⟩ := by
  induction items using List.reverseRecOn with
  | nil => simp [Passing.start]
  | append_singleton items row inductionHypothesis =>
      have some : limit ≠ 0 := by omega
      rw [List.foldl_append, inductionHypothesis, List.foldl_cons, List.foldl_nil,
        Passing.visitLatest, if_neg some]
      dsimp only
      rw [List.length_drop, List.length_append, List.length_singleton]
      by_cases full : items.length - (items.length - limit) = limit
      · obtain ⟨place, isPlace⟩ : ∃ place, items.length - limit = place := ⟨_, rfl⟩
        have placeBelow : place < items.length := by omega
        have nextPlace : items.length + 1 - limit = place + 1 := by omega
        rw [if_pos full, isPlace, nextPlace, List.take_append_of_le_length (by omega),
          List.drop_append_of_le_length (by omega), List.tail_drop, List.head?_drop,
          List.take_add_one, List.getElem?_eq_getElem placeBelow]
        rw [Option.toList_some, List.getLast?_append, List.getLast?_singleton]
        rfl
      · have short : items.length - limit = 0 := by omega
        have shortLater : items.length + 1 - limit = 0 := by omega
        rw [if_neg full, short, shortLater]
        simp

/-- An empty window only counts. -/
theorem foldl_visitLatest_zero (items : List α) :
    items.foldl (Passing.visitLatest 0) .start = ⟨[], none, items.length⟩ := by
  induction items using List.reverseRecOn with
  | nil => rfl
  | append_singleton items row inductionHypothesis =>
      rw [List.foldl_append, inductionHypothesis, List.foldl_cons, List.foldl_nil,
        Passing.visitLatest, if_pos rfl, List.length_append, List.length_singleton]

end SlidingWindow

import Mathlib.Algebra.Ring.Nat
import Mathlib.Data.List.Nodup

/-!
# Splitting what is too large

Items are asked for in batches, which wait on a stack.  A batch that is refused as too large
is cut in halves, and the halves are asked for in its place.
-/

namespace Bisection

universe u v w

variable {α : Type u} {β : Type v} {ε : Type w}

/-- A batch weighs more than its halves. -/
def weight (batch : List α) : Nat :=
  if batch.length = 0 then 1 else 2 * batch.length - 1

def totalWeight (pending : List (List α)) : Nat :=
  (pending.map weight).sum

@[simp]
theorem totalWeight_cons (batch : List α) (rest : List (List α)) :
    totalWeight (batch :: rest) = weight batch + totalWeight rest := by
  rw [totalWeight, List.map_cons, List.sum_cons]
  rfl

theorem weight_pos (batch : List α) : 0 < weight batch := by
  unfold weight
  split <;> omega

theorem weight_halves {batch : List α} (long : 1 < batch.length) :
    weight (batch.take (batch.length / 2)) + weight (batch.drop (batch.length / 2)) <
      weight batch := by
  unfold weight
  rw [List.length_take, List.length_drop]
  split <;> split <;> split <;> omega

/-- The answers to the batches on a stack, whose top is the first one. -/
def gather
    (ask : List α → Except ε (List β)) (tooLarge : ε → Bool) (pending : List (List α))
    (gathered : List β) : Except ε (List β) :=
  match pending with
  | [] => .ok gathered
  | batch :: rest =>
      match ask batch with
      | .ok answer => gather ask tooLarge rest (gathered ++ answer)
      | .error error =>
          if 1 < batch.length ∧ tooLarge error = true then
            gather ask tooLarge
              (batch.take (batch.length / 2) :: batch.drop (batch.length / 2) :: rest) gathered
          else
            .error error
termination_by totalWeight pending
decreasing_by
  · have positive := weight_pos batch
    rw [totalWeight_cons]
    omega
  · rename_i splits
    have halves := weight_halves splits.1
    simp only [totalWeight_cons]
    omega

section Gather

variable {ask : List α → Except ε (List β)} {tooLarge : ε → Bool}

variable (ask tooLarge) in
/-- A batch that is cut when it is asked for. -/
def Splits (batch : List α) : Prop :=
  1 < batch.length ∧ ∃ error, ask batch = .error error ∧ tooLarge error = true

variable (ask tooLarge) in
/-- The batches that a stack leads to, if none of them fails. -/
inductive Asked (pending : List (List α)) : List α → Prop where
  | stacked {batch : List α} (member : batch ∈ pending) : Asked pending batch
  | front
      {batch : List α} (asked : Asked pending batch) (splits : Splits ask tooLarge batch) :
      Asked pending (batch.take (batch.length / 2))
  | back
      {batch : List α} (asked : Asked pending batch) (splits : Splits ask tooLarge batch) :
      Asked pending (batch.drop (batch.length / 2))

theorem gather_cons_of_ok
    {batch : List α} {answer : List β} (answered : ask batch = .ok answer)
    (rest : List (List α)) (gathered : List β) :
    gather ask tooLarge (batch :: rest) gathered =
      gather ask tooLarge rest (gathered ++ answer) := by
  rw [gather, answered]

theorem gather_cons_of_splits
    {batch : List α} (splits : Splits ask tooLarge batch) (rest : List (List α))
    (gathered : List β) :
    gather ask tooLarge (batch :: rest) gathered =
      gather ask tooLarge
        (batch.take (batch.length / 2) :: batch.drop (batch.length / 2) :: rest) gathered := by
  obtain ⟨long, error, refused, large⟩ := splits
  rw [gather, refused]
  exact if_pos ⟨long, large⟩

theorem gather_cons_of_fails
    {batch : List α} {error : ε} (refused : ask batch = .error error)
    (short : batch.length ≤ 1) (rest : List (List α)) (gathered : List β) :
    gather ask tooLarge (batch :: rest) gathered = .error error := by
  rw [gather, refused]
  exact if_neg fun splits => by omega

theorem Asked.subset {pending : List (List α)} {batch : List α}
    (asked : Asked ask tooLarge pending batch) : batch ⊆ pending.flatten := by
  induction asked with
  | stacked member => exact fun _ inBatch => List.mem_flatten_of_mem member inBatch
  | front _ _ inductionHypothesis =>
      exact List.Subset.trans (List.take_subset _ _) inductionHypothesis
  | back _ _ inductionHypothesis =>
      exact List.Subset.trans (List.drop_subset _ _) inductionHypothesis

theorem Asked.mono {pending others : List (List α)}
    (led : ∀ batch ∈ pending, Asked ask tooLarge others batch) {batch : List α}
    (asked : Asked ask tooLarge pending batch) : Asked ask tooLarge others batch := by
  induction asked with
  | stacked member => exact led _ member
  | front _ splits inductionHypothesis => exact .front inductionHypothesis splits
  | back _ splits inductionHypothesis => exact .back inductionHypothesis splits

/-- A batch that is not cut leads to no other. -/
theorem Asked.of_not_splits {batch : List α} {rest : List (List α)}
    (whole : ¬ Splits ask tooLarge batch) {other : List α}
    (asked : Asked ask tooLarge (batch :: rest) other) :
    other = batch ∨ Asked ask tooLarge rest other := by
  induction asked with
  | stacked member =>
      rcases List.mem_cons.mp member with isBatch | inRest
      · exact Or.inl isBatch
      · exact Or.inr (.stacked inRest)
  | front _ splits inductionHypothesis =>
      rcases inductionHypothesis with rfl | inRest
      · exact absurd splits whole
      · exact Or.inr (.front inRest splits)
  | back _ splits inductionHypothesis =>
      rcases inductionHypothesis with rfl | inRest
      · exact absurd splits whole
      · exact Or.inr (.back inRest splits)

/-- The halves stand for the batch that is cut. -/
theorem Asked.of_splits {batch : List α} {rest : List (List α)}
    (splits : Splits ask tooLarge batch) {other : List α}
    (asked : Asked ask tooLarge (batch :: rest) other) :
    other = batch ∨
      Asked ask tooLarge
        (batch.take (batch.length / 2) :: batch.drop (batch.length / 2) :: rest) other := by
  induction asked with
  | stacked member =>
      rcases List.mem_cons.mp member with isBatch | inRest
      · exact Or.inl isBatch
      · exact Or.inr (.stacked (List.mem_cons_of_mem _ (List.mem_cons_of_mem _ inRest)))
  | front _ otherSplits inductionHypothesis =>
      rcases inductionHypothesis with rfl | led
      · exact Or.inr (.stacked List.mem_cons_self)
      · exact Or.inr (.front led otherSplits)
  | back _ otherSplits inductionHypothesis =>
      rcases inductionHypothesis with rfl | led
      · exact Or.inr (.stacked (List.mem_cons_of_mem _ List.mem_cons_self))
      · exact Or.inr (.back led otherSplits)

variable (ask tooLarge) in
/-- What becomes of a stack whose batches are answered item by item: all answers in order, or
the error of the first item that is asked for alone in vain. -/
def Gathered
    (held : α → List β) (pending : List (List α)) (gathered : List β) : Prop :=
  ((∀ item, Asked ask tooLarge pending [item] → ask [item] = .ok (held item)) ∧
      gather ask tooLarge pending gathered =
        .ok (gathered ++ pending.flatten.flatMap held)) ∨
    ∃ before item after error,
      pending.flatten = before ++ item :: after ∧ Asked ask tooLarge pending [item] ∧
        (∀ earlier ∈ before, Asked ask tooLarge pending [earlier] →
          ask [earlier] = .ok (held earlier)) ∧
          ask [item] = .error error ∧ gather ask tooLarge pending gathered = .error error

/-- Batches of more than one item are answered or cut. -/
theorem gathered_of_answers
    {held : α → List β} (pending : List (List α)) (gathered : List β)
    (distinct : pending.flatten.Nodup)
    (answers :
      ∀ batch, Asked ask tooLarge pending batch →
        ask batch = .ok (batch.flatMap held) ∨ Splits ask tooLarge batch ∨
          ∃ item error, batch = [item] ∧ ask [item] = .error error) :
    Gathered ask tooLarge held pending gathered := by
  induction pending, gathered using gather.induct ask tooLarge with
  | case1 gathered =>
      left
      constructor
      · intro item asked
        cases asked.subset List.mem_cons_self
      · rw [gather]
        simp
  | case2 gathered batch rest answer answered inductionHypothesis =>
      have whole : ¬ Splits ask tooLarge batch := by
        intro splits
        obtain ⟨-, _, refused, -⟩ := splits
        rw [answered] at refused
        cases refused
      have isAnswer : answer = batch.flatMap held := by
        rcases answers batch (.stacked List.mem_cons_self) with isOk | splits | failed
        · exact Except.ok.inj (answered.symm.trans isOk)
        · exact absurd splits whole
        · obtain ⟨_, _, rfl, refused⟩ := failed
          rw [answered] at refused
          cases refused
      have single : ∀ item, [item] = batch → ask [item] = .ok (held item) := by
        intro item isBatch
        rw [isBatch, answered, isAnswer, ← isBatch]
        simp
      have later {other : List α} (asked : Asked ask tooLarge rest other) :
          Asked ask tooLarge (batch :: rest) other :=
        asked.mono fun _ member => .stacked (List.mem_cons_of_mem _ member)
      rw [List.flatten_cons] at distinct
      obtain ⟨-, restDistinct, apart⟩ := List.nodup_append.mp distinct
      have goesOn : gather ask tooLarge (batch :: rest) gathered =
          gather ask tooLarge rest (gathered ++ answer) :=
        gather_cons_of_ok answered rest gathered
      rcases inductionHypothesis restDistinct fun other asked => answers other (later asked) with
        ⟨allAnswered, isOk⟩ | ⟨before, item, after, error, isSplit, asked, earlierOk, refused, isError⟩
      · left
        constructor
        · intro item asked
          rcases asked.of_not_splits whole with isBatch | inRest
          · exact single item isBatch
          · exact allAnswered item inRest
        · rw [goesOn, isOk, isAnswer, List.flatten_cons, List.flatMap_append, List.append_assoc]
      · right
        refine ⟨batch ++ before, item, after, error, ?_, later asked, ?_, refused, ?_⟩
        · rw [List.flatten_cons, isSplit, List.append_assoc]
        · intro earlier member askedEarlier
          rcases askedEarlier.of_not_splits whole with isBatch | inRest
          · exact single earlier isBatch
          · rcases List.mem_append.mp member with inBatch | inBefore
            · have inFlatten := inRest.subset List.mem_cons_self
              exact absurd rfl (apart earlier inBatch earlier inFlatten)
            · exact earlierOk earlier inBefore inRest
        · rw [goesOn, isError]
  | case3 gathered batch rest error refused isSplit inductionHypothesis =>
      have splits : Splits ask tooLarge batch := ⟨isSplit.1, error, refused, isSplit.2⟩
      have halves {other : List α}
          (asked :
            Asked ask tooLarge
              (batch.take (batch.length / 2) :: batch.drop (batch.length / 2) :: rest) other) :
          Asked ask tooLarge (batch :: rest) other := by
        refine asked.mono fun half member => ?_
        rcases List.mem_cons.mp member with rfl | member
        · exact .front (.stacked List.mem_cons_self) splits
        · rcases List.mem_cons.mp member with rfl | inRest
          · exact .back (.stacked List.mem_cons_self) splits
          · exact .stacked (List.mem_cons_of_mem _ inRest)
      have single {item : α} (asked : Asked ask tooLarge (batch :: rest) [item]) :
          Asked ask tooLarge
            (batch.take (batch.length / 2) :: batch.drop (batch.length / 2) :: rest) [item] := by
        rcases asked.of_splits splits with isBatch | led
        · have long := splits.1
          rw [← isBatch, List.length_singleton] at long
          omega
        · exact led
      have sameItems :
          (batch.take (batch.length / 2) :: batch.drop (batch.length / 2) :: rest).flatten =
            (batch :: rest).flatten := by
        rw [List.flatten_cons, List.flatten_cons, List.flatten_cons, ← List.append_assoc,
          List.take_append_drop]
      have goesOn := gather_cons_of_splits splits rest gathered
      rcases inductionHypothesis (by rwa [sameItems]) fun other asked =>
          answers other (halves asked) with
        ⟨allAnswered, isOk⟩ | ⟨before, item, after, raised, isCut, asked, earlierOk, failed, isError⟩
      · left
        exact ⟨fun item asked => allAnswered item (single asked), by rw [goesOn, isOk, sameItems]⟩
      · right
        refine ⟨before, item, after, raised, sameItems.symm.trans isCut, halves asked, ?_, failed,
          goesOn.trans isError⟩
        exact fun earlier member askedEarlier => earlierOk earlier member (single askedEarlier)
  | case4 gathered batch rest error refused whole =>
      right
      rcases answers batch (.stacked List.mem_cons_self) with isOk | splits | failed
      · rw [refused] at isOk
        cases isOk
      · obtain ⟨long, other, isRefused, large⟩ := splits
        rw [refused, Except.error.injEq] at isRefused
        exact absurd ⟨long, isRefused ▸ large⟩ whole
      · obtain ⟨item, other, rfl, isRefused⟩ := failed
        refine ⟨[], item, rest.flatten, other, rfl, .stacked List.mem_cons_self, ?_, isRefused, ?_⟩
        · exact fun _ member => nomatch member
        · exact gather_cons_of_fails isRefused (Nat.le_refl 1) rest gathered

end Gather

end Bisection

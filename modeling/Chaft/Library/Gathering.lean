import Chaft.Library.Bisection
import Chaft.Library.Effect

/-!
# Splitting what is too large, against a peer

The peer that is asked has a state, which every request can change.  Every item that was asked
for is in a batch whose answer was taken.
-/

namespace Bisection

open Effects Effects.Effect

variable {σ α β ε : Type}

/-- The answers to the batches on a stack, asked for one after the other. -/
def gatherFrom
    (ask : List α → Effect σ ε (List β)) (tooLarge : ε → Bool) (pending : List (List α))
    (gathered : List β) (state : σ) : Except ε (List β) × σ :=
  match pending with
  | [] => (.ok gathered, state)
  | batch :: rest =>
      match ask batch state with
      | (.ok answer, after) => gatherFrom ask tooLarge rest (gathered ++ answer) after
      | (.error error, after) =>
          if 1 < batch.length ∧ tooLarge error = true then
            gatherFrom ask tooLarge
              (batch.take (batch.length / 2) :: batch.drop (batch.length / 2) :: rest) gathered
              after
          else
            (.error error, after)
termination_by totalWeight pending
decreasing_by
  · have positive := weight_pos batch
    rw [totalWeight_cons]
    omega
  · rename_i splits
    have halves := weight_halves splits.1
    simp only [totalWeight_cons]
    omega

section GatherFrom

variable {ask : List α → Effect σ ε (List β)} {tooLarge : ε → Bool} {property : σ → Prop}

/-- A batch of items was asked for while the property held, and its answer was taken. -/
structure Answered
    (ask : List α → Effect σ ε (List β)) (property : σ → Prop) (items batch : List α)
    (answer : List β) : Prop where
  inside : batch ⊆ items
  asked : ∃ before after, property before ∧ ask batch before = (.ok answer, after)

/-- What was gathered is what was gathered before and the answers to batches, in which every
item is. -/
structure GatheredFrom
    (ask : List α → Effect σ ε (List β)) (property : σ → Prop) (items : List α)
    (before all : List β) : Prop where
  kept : before ⊆ all
  whole :
    ∀ item ∈ items, ∃ batch answer, item ∈ batch ∧ Answered ask property items batch answer ∧
      answer ⊆ all
  drawn :
    ∀ response ∈ all, response ∈ before ∨
      ∃ batch answer, Answered ask property items batch answer ∧ response ∈ answer

theorem Answered.mono
    {items others batch : List α} {answer : List β}
    (answered : Answered ask property items batch answer) (contained : items ⊆ others) :
    Answered ask property others batch answer where
  inside := List.Subset.trans answered.inside contained
  asked := answered.asked

/-- Asking for batches gathers their answers. -/
theorem gathered_of_gatherFrom
    (kept : ∀ batch, Preserves property (ask batch)) (pending : List (List α))
    (before : List β) {state final : σ} (holds : property state) {all : List β}
    (isOk : gatherFrom ask tooLarge pending before state = (.ok all, final)) :
    property final ∧ GatheredFrom ask property pending.flatten before all := by
  fun_induction gatherFrom ask tooLarge pending before state with
  | case1 gathered state =>
      obtain ⟨same, sameState⟩ := Prod.mk.inj isOk
      rw [← sameState, ← Except.ok.inj same]
      exact ⟨holds,
        { kept := List.Subset.refl _
          whole := fun item member => absurd member List.not_mem_nil
          drawn := fun response member => Or.inl member }⟩
  | case2 gathered state batch rest answer after isAnswer inductionHypothesis =>
      have holdsAfter : property after := by
        have step := (kept batch).kept state holds
        rwa [isAnswer] at step
      obtain ⟨holdsFinal, later⟩ := inductionHypothesis holdsAfter isOk
      have here : Answered ask property (batch :: rest).flatten batch answer :=
        ⟨List.subset_append_left _ _, state, after, holds, isAnswer⟩
      have contained : rest.flatten ⊆ (batch :: rest).flatten := List.subset_append_right _ _
      refine ⟨holdsFinal, ?_, ?_, ?_⟩
      · exact List.Subset.trans (List.subset_append_left _ _) later.kept
      · intro item member
        rcases List.mem_append.mp member with isHere | isLater
        · exact ⟨batch, answer, isHere, here,
            List.Subset.trans (List.subset_append_right _ _) later.kept⟩
        · obtain ⟨other, otherAnswer, inside, answered, taken⟩ := later.whole item isLater
          exact ⟨other, otherAnswer, inside, answered.mono contained, taken⟩
      · intro response member
        rcases later.drawn response member with earlier | ⟨other, otherAnswer, answered, isIn⟩
        · rcases List.mem_append.mp earlier with isBefore | isHere
          · exact Or.inl isBefore
          · exact Or.inr ⟨batch, answer, here, isHere⟩
        · exact Or.inr ⟨other, otherAnswer, answered.mono contained, isIn⟩
  | case3 gathered state batch rest error after isError splits inductionHypothesis =>
      have holdsAfter : property after := by
        have step := (kept batch).kept state holds
        rwa [isError] at step
      have halves :
          (batch.take (batch.length / 2) :: batch.drop (batch.length / 2) :: rest).flatten =
            (batch :: rest).flatten := by
        rw [List.flatten_cons, List.flatten_cons, ← List.append_assoc, List.take_append_drop,
          List.flatten_cons]
      rw [halves] at inductionHypothesis
      exact inductionHypothesis holdsAfter isOk
  | case4 gathered state batch rest error after isError whole => cases isOk

/-- An invariant that every batch of a kind keeps, where the halves of a batch are of the kind
too, is kept. -/
theorem preserves_gatherFrom
    {kind : List α → Prop}
    (front : ∀ batch, kind batch → kind (batch.take (batch.length / 2)))
    (back : ∀ batch, kind batch → kind (batch.drop (batch.length / 2)))
    (kept : ∀ batch, kind batch → Preserves property (ask batch)) {pending : List (List α)}
    (all : ∀ batch ∈ pending, kind batch) (gathered : List β) :
    Preserves property (gatherFrom ask tooLarge pending gathered) := by
  constructor
  intro state holds
  fun_induction gatherFrom ask tooLarge pending gathered state with
  | case1 gathered state => exact holds
  | case2 gathered state batch rest answer after isAnswer inductionHypothesis =>
      obtain ⟨first, later⟩ := List.forall_mem_cons.mp all
      have step := (kept batch first).kept state holds
      rw [isAnswer] at step
      exact inductionHypothesis later step
  | case3 gathered state batch rest error after isError splits inductionHypothesis =>
      obtain ⟨first, later⟩ := List.forall_mem_cons.mp all
      have step := (kept batch first).kept state holds
      rw [isError] at step
      apply inductionHypothesis _ step
      rw [List.forall_mem_cons, List.forall_mem_cons]
      exact ⟨front batch first, back batch first, later⟩
  | case4 gathered state batch rest error after isError whole =>
      have step := (kept batch (all batch List.mem_cons_self)).kept state holds
      rw [isError] at step
      exact step

end GatherFrom

end Bisection

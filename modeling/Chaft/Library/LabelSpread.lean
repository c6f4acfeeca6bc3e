import Mathlib.Algebra.Order.BigOperators.Group.List
import Mathlib.Algebra.Order.Group.Nat
import Mathlib.Algebra.Group.Action.Defs
import Mathlib.Algebra.Ring.Nat
import Mathlib.Data.Finset.Card
import Chaft.Library.Containers

/-!
# Spreading labels through a graph

A worklist hands labels from the nodes of a graph to their children.  A child
takes a label if it has none or a greater one, and is then worked off itself.
Every label can be traced back to a source, and the worklist runs empty: each
enqueued child lowers the rank of its label.
-/

namespace LabelSpread

open Keyed

universe u v

variable {κ : Type u} {lam : Type v} [Ord κ] [Std.TransOrd κ] [Ord lam]

/-- The labels handed out so far and the nodes still to be worked off. -/
structure Worklist (κ : Type u) (lam : Type v) [Ord κ] where
  labels : HashMap κ lam
  queue : List κ

/-- Label a child and enqueue it. -/
def take (label : lam) (work : Worklist κ lam) (child : κ) : Worklist κ lam where
  labels := work.labels.insert child label
  queue := work.queue ++ [child]

/-- Hand a label to a child. -/
def offer (label : lam) (work : Worklist κ lam) (child : κ) : Worklist κ lam :=
  match work.labels[child]? with
  | some existing => if compare label existing = .lt then take label work child else work
  | none => take label work child

/-- Work off the front of the queue. -/
def spread (children : κ → List κ) : Nat → Worklist κ lam → Worklist κ lam
  | 0, work => work
  | fuel + 1, work =>
      match work.queue with
      | [] => work
      | parent :: queue =>
          match work.labels[parent]? with
          | none => spread children fuel { work with queue := queue }
          | some label =>
              spread children fuel
                ((children parent).foldl (offer label) { work with queue := queue })

/-- An offer is taken when it is less than the label that is there. -/
theorem offer_cases (label : lam) (work : Worklist κ lam) (child : κ) :
    offer label work child = work ∨
      offer label work child = take label work child ∧
        ∀ existing, work.labels[child]? = some existing → compare label existing = .lt := by
  unfold offer
  cases known : work.labels[child]? with
  | none =>
      right
      refine ⟨rfl, ?_⟩
      intro existing isExisting
      cases isExisting
  | some present =>
      by_cases less : compare label present = .lt
      · right
        refine ⟨by simp only [less, if_true], ?_⟩
        intro existing isExisting
        cases isExisting
        exact less
      · left
        simp only [less, if_false]

/-! ## Where labels come from -/

/-- Every labelled node is a source or a child of a labelled node, and the labels
are drawn from a fixed set. -/
structure Sound
    (source : κ → Prop) (children : κ → List κ) (drawn : Finset lam) (labels : HashMap κ lam) :
    Prop where
  traced :
    ∀ node : κ, node ∈ labels → source node ∨ ∃ parent : κ, parent ∈ labels ∧ node ∈ children parent
  known : ∀ (node : κ) (label : lam), labels[node]? = some label → label ∈ drawn

variable [Std.LawfulEqOrd κ]

omit [Ord lam] in
theorem mem_take_iff (label : lam) (work : Worklist κ lam) (child node : κ) :
    node ∈ (take label work child).labels ↔ node = child ∨ node ∈ work.labels := by
  rw [take, Std.ExtTreeMap.mem_insert, Std.LawfulEqCmp.compare_eq_iff_eq, eq_comm]

theorem mem_offer
    {work : Worklist κ lam} {node : κ} (label : lam) (child : κ)
    (labelled : node ∈ work.labels) :
    node ∈ (offer label work child).labels := by
  rcases offer_cases label work child with same | ⟨taken, _⟩
  · rw [same]
    exact labelled
  · rw [taken, mem_take_iff]
    exact Or.inr labelled

private theorem mem_offerAll
    {node : κ} (label : lam) (offered : List κ) {work : Worklist κ lam}
    (labelled : node ∈ work.labels) :
    node ∈ (offered.foldl (offer label) work).labels := by
  induction offered generalizing work with
  | nil => exact labelled
  | cons child rest inductionHypothesis =>
      exact inductionHypothesis (mem_offer label child labelled)

/-- A labelled node stays labelled. -/
theorem mem_spread
    {children : κ → List κ} {node : κ} (fuel : Nat) {work : Worklist κ lam}
    (labelled : node ∈ work.labels) :
    node ∈ (spread children fuel work).labels := by
  induction fuel generalizing work with
  | zero => exact labelled
  | succ fuel inductionHypothesis =>
      rw [spread]
      split
      · exact labelled
      · rename_i parent queue _
        split
        · exact @inductionHypothesis { work with queue := queue } labelled
        · exact inductionHypothesis
            (@mem_offerAll _ _ _ _ _ _ _ _ (children parent) { work with queue := queue } labelled)

section Soundness

variable {source : κ → Prop} {children : κ → List κ} {drawn : Finset lam}

theorem Sound.offer
    {work : Worklist κ lam} {parent child : κ} {label : lam}
    (sound : Sound source children drawn work.labels)
    (parentLabelled : parent ∈ work.labels) (labelDrawn : label ∈ drawn)
    (isChild : child ∈ children parent) :
    Sound source children drawn (LabelSpread.offer label work child).labels := by
  rcases offer_cases label work child with same | ⟨taken, _⟩
  · rw [same]
    exact sound
  · rw [taken]
    constructor
    · intro node labelled
      rcases (mem_take_iff label work child node).mp labelled with isNode | before
      · rw [isNode]
        exact Or.inr
          ⟨parent, (mem_take_iff label work child parent).mpr (Or.inr parentLabelled), isChild⟩
      · rcases sound.traced node before with isSource | ⟨giver, giverLabelled, isGiven⟩
        · exact Or.inl isSource
        · exact Or.inr
            ⟨giver, (mem_take_iff label work child giver).mpr (Or.inr giverLabelled), isGiven⟩
    · intro node found isFound
      simp only [take, Std.ExtTreeMap.getElem?_insert, Std.LawfulEqCmp.compare_eq_iff_eq]
        at isFound
      split at isFound
      · cases isFound
        exact labelDrawn
      · exact sound.known node found isFound

private theorem Sound.offerAll
    {parent : κ} {label : lam} (labelDrawn : label ∈ drawn) (offered : List κ)
    {work : Worklist κ lam} (sound : Sound source children drawn work.labels)
    (parentLabelled : parent ∈ work.labels) (areChildren : offered ⊆ children parent) :
    Sound source children drawn (offered.foldl (LabelSpread.offer label) work).labels := by
  induction offered generalizing work with
  | nil => exact sound
  | cons child rest inductionHypothesis =>
      obtain ⟨isChild, restChildren⟩ := List.cons_subset.mp areChildren
      exact inductionHypothesis (sound.offer parentLabelled labelDrawn isChild)
        (mem_offer label child parentLabelled) restChildren

/-- Spreading keeps every label traced to a source. -/
theorem Sound.spread
    (fuel : Nat) {work : Worklist κ lam} (sound : Sound source children drawn work.labels) :
    Sound source children drawn (LabelSpread.spread children fuel work).labels := by
  induction fuel generalizing work with
  | zero => exact sound
  | succ fuel inductionHypothesis =>
      rw [LabelSpread.spread]
      split
      · exact sound
      · rename_i parent queue isFront
        split
        · exact @inductionHypothesis { work with queue := queue } sound
        · rename_i label isLabel
          have labelDrawn := sound.known parent label isLabel
          have parentLabelled : parent ∈ work.labels :=
            (mem_iff_exists_getElem? work.labels parent).mpr ⟨label, isLabel⟩
          exact inductionHypothesis
            (@Sound.offerAll _ _ _ _ _ _ _ _ _ parent label labelDrawn (children parent)
              { work with queue := queue } sound parentLabelled (List.Subset.refl _))

end Soundness

/-! ## The worklist runs empty -/

section Termination

variable [Std.TransOrd lam] {drawn : Finset lam}

/-- How many labels a node can still take. -/
def rank (drawn : Finset lam) : Option lam → Nat
  | none => drawn.card
  | some label => (drawn.filter fun other => compare other label = .lt).card

theorem rank_lt
    {label : lam} {previous : Option lam} (labelDrawn : label ∈ drawn)
    (less : ∀ existing, previous = some existing → compare label existing = .lt) :
    rank drawn (some label) < rank drawn previous := by
  have notBelow : label ∉ drawn.filter fun other => compare other label = .lt := by
    rw [Finset.mem_filter, Std.ReflOrd.compare_self]
    simp
  cases previous with
  | none =>
      apply Finset.card_lt_card
      refine Finset.ssubset_iff_subset_ne.mpr ⟨Finset.filter_subset _ _, ?_⟩
      intro same
      rw [same] at notBelow
      exact notBelow labelDrawn
  | some existing =>
      have below := less existing rfl
      apply Finset.card_lt_card
      rw [Finset.ssubset_iff_of_subset]
      · exact ⟨label, Finset.mem_filter.mpr ⟨labelDrawn, below⟩, notBelow⟩
      · intro other isBelow
        obtain ⟨otherDrawn, otherBelow⟩ := Finset.mem_filter.mp isBelow
        exact Finset.mem_filter.mpr ⟨otherDrawn, Std.TransCmp.lt_trans otherBelow below⟩

/-- What is left to do: the queue and the ranks of all nodes. -/
def capacity (drawn : Finset lam) (nodes : List κ) (work : Worklist κ lam) : Nat :=
  work.queue.length + (nodes.map fun node => rank drawn work.labels[node]?).sum

theorem capacity_offer
    {nodes : List κ} {work : Worklist κ lam} {child : κ} {label : lam}
    (labelDrawn : label ∈ drawn) (isNode : child ∈ nodes) :
    capacity drawn nodes (offer label work child) ≤ capacity drawn nodes work := by
  rcases offer_cases label work child with same | ⟨taken, less⟩
  · rw [same]
  · have childLower := rank_lt labelDrawn less
    have lower :
        (nodes.map fun node => rank drawn (take label work child).labels[node]?).sum <
          (nodes.map fun node => rank drawn work.labels[node]?).sum := by
      apply List.sum_lt_sum
      · intro node _
        rw [take, Std.ExtTreeMap.getElem?_insert]
        split
        · rename_i compared
          rw [Std.LawfulEqCmp.compare_eq_iff_eq.mp compared] at childLower
          exact childLower.le
        · exact Nat.le_refl _
      · refine ⟨child, isNode, ?_⟩
        simpa [take] using childLower
    rw [taken]
    unfold capacity
    have longer : (take label work child).queue.length = work.queue.length + 1 := by
      rw [take, List.length_append, List.length_singleton]
    omega

private theorem capacity_offerAll
    {nodes : List κ} {label : lam} (labelDrawn : label ∈ drawn) (offered : List κ)
    (areNodes : offered ⊆ nodes) (work : Worklist κ lam) :
    capacity drawn nodes (offered.foldl (offer label) work) ≤ capacity drawn nodes work := by
  induction offered generalizing work with
  | nil => exact Nat.le_refl _
  | cons child rest inductionHypothesis =>
      obtain ⟨isNode, restNodes⟩ := List.cons_subset.mp areNodes
      exact (inductionHypothesis restNodes _).trans (capacity_offer labelDrawn isNode)

/-- Fuel for the capacity is enough to empty the queue. -/
theorem spread_queue_eq_nil
    {source : κ → Prop} {children : κ → List κ} {nodes : List κ}
    (areNodes : ∀ parent, children parent ⊆ nodes) (fuel : Nat) {work : Worklist κ lam}
    (sound : Sound source children drawn work.labels)
    (enough : capacity drawn nodes work ≤ fuel) :
    (spread children fuel work).queue = [] := by
  induction fuel generalizing work with
  | zero =>
      have bound : work.queue.length ≤ capacity drawn nodes work := Nat.le_add_right _ _
      exact List.length_eq_zero_iff.mp (by rw [spread]; omega)
  | succ fuel inductionHypothesis =>
      rw [spread]
      split
      · assumption
      · rename_i parent queue isFront
        have popped :
            capacity drawn nodes { work with queue := queue } + 1 =
              capacity drawn nodes work := by
          rw [capacity, capacity, isFront, List.length_cons]
          dsimp only
          omega
        split
        · apply @inductionHypothesis { work with queue := queue } sound
          omega
        · rename_i label isLabel
          have labelDrawn := sound.known parent label isLabel
          have parentLabelled : parent ∈ work.labels :=
            (mem_iff_exists_getElem? work.labels parent).mpr ⟨label, isLabel⟩
          have fewer :=
            capacity_offerAll labelDrawn (children parent) (areNodes parent)
              { work with queue := queue }
          apply inductionHypothesis
          · exact @Sound.offerAll _ _ _ _ _ _ _ _ _ parent label labelDrawn (children parent)
              { work with queue := queue } sound parentLabelled (List.Subset.refl _)
          · omega

omit [Std.LawfulEqOrd κ] [Std.TransOrd lam] in
theorem capacity_le (nodes : List κ) (work : Worklist κ lam) :
    capacity drawn nodes work ≤ work.queue.length + nodes.length * drawn.card := by
  have ranks :
      (nodes.map fun node => rank drawn work.labels[node]?).sum ≤
        (nodes.map fun node => rank drawn work.labels[node]?).length • drawn.card := by
    apply List.sum_le_card_nsmul
    intro ranked member
    obtain ⟨node, _, rfl⟩ := List.mem_map.mp member
    cases work.labels[node]? with
    | none => exact Nat.le_refl _
    | some label => exact Finset.card_filter_le _ _
  rw [List.length_map, smul_eq_mul] at ranks
  unfold capacity
  omega

end Termination

end LabelSpread

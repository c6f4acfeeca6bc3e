import Chaft.Library.LabelSpread

/-!
# The least labels that reach a node

A worklist that has run empty labels a node exactly if a label reaches it from a source, and
with the least label that does.  Until then, a node that is not to be worked off has handed its
label on to its children.
-/

namespace LabelSpread

open Keyed

universe u v

/-- A label belongs to a source, or reaches a node through its parent. -/
inductive Reaches
    {κ : Type u} {lam : Type v} (source : κ → lam → Prop) (children : κ → List κ) :
    lam → κ → Prop
  | source {node : κ} {label : lam} (isSource : source node label) :
      Reaches source children label node
  | child {parent node : κ} {label : lam} (reached : Reaches source children label parent)
      (isChild : node ∈ children parent) : Reaches source children label node

/-- Reaching depends on the sources and on the links only. -/
theorem Reaches.mono
    {κ : Type u} {lam : Type v} {source otherSource : κ → lam → Prop}
    {children otherChildren : κ → List κ}
    (sources : ∀ node label, source node label → otherSource node label)
    (links : ∀ parent node, node ∈ children parent → node ∈ otherChildren parent)
    {label : lam} {node : κ} (reached : Reaches source children label node) :
    Reaches otherSource otherChildren label node := by
  induction reached with
  | source isSource => exact .source (sources _ _ isSource)
  | child _ isChild inductionHypothesis => exact .child inductionHypothesis (links _ _ isChild)

section Least

variable {lam : Type v} [Ord lam]

/-- The least of the offered labels, if there is one. -/
def Least (offered : lam → Prop) : Option lam → Prop
  | none => ∀ label, ¬offered label
  | some label => offered label ∧ ∀ other, offered other → (compare label other).isLE = true

/-- A label is there, and no greater one than the given. -/
def AtMost (label : lam) (found : Option lam) : Prop :=
  ∃ held, found = some held ∧ (compare held label).isLE = true

theorem Least.congr
    {offered same : lam → Prop} {found : Option lam} (least : Least offered found)
    (alike : ∀ label, offered label ↔ same label) : Least same found := by
  have sameLabels : offered = same := funext fun label => propext (alike label)
  rw [← sameLabels]
  exact least

theorem Least.isSome_iff
    {offered : lam → Prop} {found : Option lam} (least : Least offered found) :
    found.isSome = true ↔ ∃ label, offered label := by
  cases found with
  | none =>
      constructor
      · intro impossible
        cases impossible
      · rintro ⟨label, isOffered⟩
        exact absurd isOffered (least label)
  | some label => exact ⟨fun _ => ⟨label, least.1⟩, fun _ => rfl⟩

variable [Std.TransOrd lam]

/-- What is kept of a label and another one that is offered. -/
def lesser (label : lam) : Option lam → lam
  | some existing => if compare label existing = .lt then label else existing
  | none => label

omit [Std.TransOrd lam] in
theorem lesser_cases (label : lam) (found : Option lam) :
    (lesser label found = label ∧
        ∀ existing, found = some existing → compare label existing = .lt) ∨
      ∃ existing, found = some existing ∧ lesser label found = existing ∧
        compare label existing ≠ .lt := by
  cases found with
  | none =>
      refine Or.inl ⟨rfl, ?_⟩
      intro existing isExisting
      cases isExisting
  | some existing =>
      by_cases less : compare label existing = .lt
      · refine Or.inl ⟨if_pos less, ?_⟩
        intro other isOther
        cases isOther
        exact less
      · exact Or.inr ⟨existing, rfl, if_neg less, less⟩

theorem isLE_of_not_lt
    {label existing : lam} (notLess : compare label existing ≠ .lt) :
    (compare existing label).isLE = true := by
  apply Std.OrientedCmp.isGE_iff_isLE.mp
  cases compared : compare label existing with
  | lt => exact absurd compared notLess
  | eq => rfl
  | gt => rfl

/-- Keeping the lesser label keeps the least one. -/
theorem Least.lesser
    {offered : lam → Prop} {found : Option lam} (least : Least offered found) (label : lam) :
    Least (fun other => offered other ∨ other = label) (some (LabelSpread.lesser label found)) := by
  rcases lesser_cases label found with ⟨isLabel, less⟩ | ⟨existing, isExisting, isKept, notLess⟩
  · rw [isLabel]
    refine ⟨Or.inr rfl, ?_⟩
    intro other isOffered
    rcases isOffered with isOffered | isLabel
    · cases found with
      | none => exact absurd isOffered (least other)
      | some existing =>
          have lower : (compare label existing).isLE = true :=
            Ordering.isLE_of_eq_lt (less existing rfl)
          exact Std.TransCmp.isLE_trans lower (least.2 other isOffered)
    · rw [isLabel]
      exact Std.ReflCmp.isLE_rfl
  · subst isExisting
    rw [isKept]
    refine ⟨Or.inl least.1, ?_⟩
    intro other isOffered
    rcases isOffered with isOffered | isLabel
    · exact least.2 other isOffered
    · rw [isLabel]
      exact isLE_of_not_lt notLess

/-- There is at most one least label. -/
theorem Least.unique
    [Std.LawfulEqOrd lam] {offered : lam → Prop} {first second : Option lam}
    (isFirst : Least offered first) (isSecond : Least offered second) : first = second := by
  cases first with
  | none =>
      cases second with
      | none => rfl
      | some label => exact absurd isSecond.1 (isFirst label)
  | some label =>
      cases second with
      | none => exact absurd isFirst.1 (isSecond label)
      | some other =>
          have equal : compare label other = .eq :=
            Std.OrientedCmp.isLE_antisymm (isFirst.2 other isSecond.1) (isSecond.2 label isFirst.1)
          rw [Std.LawfulEqCmp.compare_eq_iff_eq.mp equal]

theorem atMost_self (label : lam) : AtMost label (some label) :=
  ⟨label, rfl, Std.ReflCmp.isLE_rfl⟩

theorem AtMost.trans
    {least label : lam} {found : Option lam} (atMost : AtMost least found)
    (below : (compare least label).isLE = true) : AtMost label found := by
  obtain ⟨held, isHeld, heldBelow⟩ := atMost
  exact ⟨held, isHeld, Std.TransCmp.isLE_trans heldBelow below⟩

end Least

/-! ## One offer -/

section Spread

variable {κ : Type u} {lam : Type v} [Ord κ] [Std.TransOrd κ] [Ord lam]

/-- Labels do not increase, and a node whose label changes is to be worked off. -/
structure Lowers (before after : Worklist κ lam) : Prop where
  atMost : ∀ (node : κ) (label : lam), AtMost label before.labels[node]? →
    AtMost label after.labels[node]?
  queued : ∀ node : κ, node ∈ before.queue → node ∈ after.queue
  unchanged : ∀ node : κ, node ∉ after.queue → after.labels[node]? = before.labels[node]?

theorem Lowers.refl (work : Worklist κ lam) : Lowers work work where
  atMost _ _ atMost := atMost
  queued _ isQueued := isQueued
  unchanged _ _ := rfl

theorem Lowers.trans
    {first second third : Worklist κ lam} (lowers : Lowers first second)
    (further : Lowers second third) : Lowers first third where
  atMost node label atMost := further.atMost node label (lowers.atMost node label atMost)
  queued node isQueued := further.queued node (lowers.queued node isQueued)
  unchanged node notQueued := by
    have notBefore : node ∉ second.queue := fun isQueued =>
      notQueued (further.queued node isQueued)
    rw [further.unchanged node notQueued, lowers.unchanged node notBefore]

variable [DecidableEq κ] [Std.LawfulEqOrd κ] [Std.TransOrd lam]

omit [Ord lam] [Std.TransOrd lam] in
theorem getElem?_take (label : lam) (work : Worklist κ lam) (child node : κ) :
    (take label work child).labels[node]? =
      if child = node then some label else work.labels[node]? := by
  rw [take, Std.ExtTreeMap.getElem?_insert]
  simp only [Std.LawfulEqCmp.compare_eq_iff_eq]

theorem lowers_offer (label : lam) (work : Worklist κ lam) (child : κ) :
    Lowers work (offer label work child) := by
  rcases offer_cases label work child with same | ⟨taken, less⟩
  · rw [same]
    exact Lowers.refl work
  · rw [taken]
    constructor
    · intro node bound atMost
      rw [getElem?_take]
      by_cases isChild : child = node
      · subst isChild
        obtain ⟨held, isHeld, below⟩ := atMost
        rw [if_pos rfl]
        have lower : (compare label held).isLE = true :=
          Ordering.isLE_of_eq_lt (less held isHeld)
        exact ⟨label, rfl, Std.TransCmp.isLE_trans lower below⟩
      · rw [if_neg isChild]
        exact atMost
    · intro node isQueued
      exact List.mem_append_left _ isQueued
    · intro node notQueued
      have different : child ≠ node := by
        intro same
        apply notQueued
        rw [same, take]
        exact List.mem_append_right _ List.mem_cons_self
      rw [getElem?_take, if_neg different]

/-- After an offer the child has the label or one that is no greater. -/
theorem atMost_offer (label : lam) (work : Worklist κ lam) (child : κ) :
    AtMost label (offer label work child).labels[child]? := by
  unfold offer
  cases known : work.labels[child]? with
  | none =>
      dsimp only
      rw [getElem?_take, if_pos rfl]
      exact atMost_self label
  | some existing =>
      by_cases less : compare label existing = .lt
      · simp only [less, if_true]
        rw [getElem?_take, if_pos rfl]
        exact atMost_self label
      · simp only [less, if_false]
        exact ⟨existing, known, isLE_of_not_lt less⟩

/-- After a round of offers all children have a label that is no greater. -/
theorem lowers_offerAll
    (label : lam) (offered : List κ) (work : Worklist κ lam) :
    Lowers work (offered.foldl (offer label) work) ∧
      ∀ child ∈ offered, AtMost label (offered.foldl (offer label) work).labels[child]? := by
  induction offered generalizing work with
  | nil =>
      refine ⟨Lowers.refl work, ?_⟩
      intro child member
      cases member
  | cons first rest inductionHypothesis =>
      obtain ⟨lowers, rest⟩ := inductionHypothesis (offer label work first)
      refine ⟨(lowers_offer label work first).trans lowers, ?_⟩
      intro child member
      rcases List.mem_cons.mp member with isFirst | isRest
      · rw [isFirst]
        exact lowers.atMost first label (atMost_offer label work first)
      · exact rest child isRest

/-! ## The whole queue -/

/-- Labels reach their nodes, sources have at most their labels, and a node that is not to be
worked off has handed its label on. -/
structure HandsOn (source : κ → lam → Prop) (children : κ → List κ) (work : Worklist κ lam) :
    Prop where
  reached : ∀ (node : κ) (label : lam), work.labels[node]? = some label →
    Reaches source children label node
  sourced : ∀ (node : κ) (label : lam), source node label → AtMost label work.labels[node]?
  handed : ∀ (parent : κ) (label : lam), parent ∉ work.queue →
    work.labels[parent]? = some label → ∀ child ∈ children parent,
      AtMost label work.labels[child]?

variable {source : κ → lam → Prop} {children : κ → List κ}

omit [Std.TransOrd lam] in
theorem reached_offerAll
    {parent : κ} {label : lam} (labelReaches : Reaches source children label parent)
    (offered : List κ) (areChildren : offered ⊆ children parent) {work : Worklist κ lam}
    (reached : ∀ (node : κ) (held : lam), work.labels[node]? = some held →
      Reaches source children held node) :
    ∀ (node : κ) (held : lam), (offered.foldl (offer label) work).labels[node]? = some held →
      Reaches source children held node := by
  induction offered generalizing work with
  | nil => exact reached
  | cons child rest inductionHypothesis =>
      obtain ⟨isChild, restChildren⟩ := List.cons_subset.mp areChildren
      apply inductionHypothesis restChildren
      intro node held isHeld
      rcases offer_cases label work child with same | ⟨taken, -⟩
      · rw [same] at isHeld
        exact reached node held isHeld
      · rw [taken, getElem?_take] at isHeld
        by_cases isNode : child = node
        · rw [if_pos isNode, Option.some.injEq] at isHeld
          rw [← isHeld, ← isNode]
          exact .child labelReaches isChild
        · rw [if_neg isNode] at isHeld
          exact reached node held isHeld

/-- A node at the front of the queue is worked off. -/
theorem HandsOn.workOff
    {labels : HashMap κ lam} {parent : κ} {queue : List κ} {label : lam}
    (handsOn : HandsOn source children ⟨labels, parent :: queue⟩)
    (isLabel : labels[parent]? = some label) :
    HandsOn source children ((children parent).foldl (offer label) ⟨labels, queue⟩) := by
  obtain ⟨lowers, handed⟩ := lowers_offerAll label (children parent) ⟨labels, queue⟩
  constructor
  · exact reached_offerAll (handsOn.reached parent label isLabel) (children parent)
      (List.Subset.refl _) handsOn.reached
  · intro node sourceLabel isSource
    exact lowers.atMost node sourceLabel (handsOn.sourced node sourceLabel isSource)
  · intro node held notQueued isHeld child isChild
    rw [lowers.unchanged node notQueued] at isHeld
    by_cases isParent : node = parent
    · subst isParent
      rw [isLabel, Option.some.injEq] at isHeld
      rw [← isHeld]
      exact handed child isChild
    · -- the node was not to be worked off before, and labels have only decreased since
      have notBefore : node ∉ parent :: queue := by
        rw [List.mem_cons, not_or]
        exact ⟨isParent, fun isQueued => notQueued (lowers.queued node isQueued)⟩
      exact lowers.atMost child held (handsOn.handed node held notBefore isHeld child isChild)

omit [DecidableEq κ] [Std.LawfulEqOrd κ] [Std.TransOrd lam] in
/-- A node without a label has nothing to hand on. -/
theorem HandsOn.skip
    {labels : HashMap κ lam} {parent : κ} {queue : List κ}
    (handsOn : HandsOn source children ⟨labels, parent :: queue⟩)
    (unlabelled : labels[parent]? = none) : HandsOn source children ⟨labels, queue⟩ where
  reached := handsOn.reached
  sourced := handsOn.sourced
  handed := by
    intro node held notQueued isHeld child isChild
    have different : node ≠ parent := by
      intro isParent
      subst isParent
      rw [unlabelled] at isHeld
      cases isHeld
    have notBefore : node ∉ parent :: queue := by
      rw [List.mem_cons, not_or]
      exact ⟨different, notQueued⟩
    exact handsOn.handed node held notBefore isHeld child isChild

theorem HandsOn.spread
    (fuel : Nat) {work : Worklist κ lam} (handsOn : HandsOn source children work) :
    HandsOn source children (LabelSpread.spread children fuel work) := by
  induction fuel generalizing work with
  | zero => exact handsOn
  | succ fuel inductionHypothesis =>
      obtain ⟨labels, queue⟩ := work
      cases queue with
      | nil => exact handsOn
      | cons parent queue =>
          rw [LabelSpread.spread]
          cases isLabel : labels[parent]? with
          | none =>
              simp only [isLabel]
              exact inductionHypothesis (handsOn.skip isLabel)
          | some label =>
              simp only [isLabel]
              exact inductionHypothesis (handsOn.workOff isLabel)

omit [DecidableEq κ] [Std.LawfulEqOrd κ] in
/-- With an empty queue, every label that reaches a node is bounded by the label of the node. -/
theorem HandsOn.atMost
    {work : Worklist κ lam} (handsOn : HandsOn source children work)
    (isEmpty : work.queue = []) {label : lam} {node : κ}
    (reached : Reaches source children label node) : AtMost label work.labels[node]? := by
  induction reached with
  | source isSource => exact handsOn.sourced _ _ isSource
  | @child parent node label _ isChild inductionHypothesis =>
      obtain ⟨held, isHeld, below⟩ := inductionHypothesis
      have notQueued : parent ∉ work.queue := by
        rw [isEmpty]
        exact List.not_mem_nil
      exact (handsOn.handed parent held notQueued isHeld node isChild).trans below

omit [DecidableEq κ] [Std.LawfulEqOrd κ] in
/-- A worklist that has run empty gives each node the least label that reaches it. -/
theorem HandsOn.least
    {work : Worklist κ lam} (handsOn : HandsOn source children work)
    (isEmpty : work.queue = []) (node : κ) :
    Least (fun label => Reaches source children label node) work.labels[node]? := by
  cases isLabel : work.labels[node]? with
  | none =>
      intro label reached
      obtain ⟨held, isHeld, -⟩ := handsOn.atMost isEmpty reached
      rw [isLabel] at isHeld
      cases isHeld
  | some label =>
      refine ⟨handsOn.reached node label isLabel, ?_⟩
      intro other reached
      obtain ⟨held, isHeld, below⟩ := handsOn.atMost isEmpty reached
      rw [isLabel, Option.some.injEq] at isHeld
      rw [isHeld]
      exact below

omit [DecidableEq κ] [Std.LawfulEqOrd κ] [Std.TransOrd lam] in
/-- A worklist that starts with the least labels of the sources, all of them to be worked off,
hands them on. -/
theorem handsOn_of_sources
    {work : Worklist κ lam}
    (least : ∀ node, Least (fun label => source node label) work.labels[node]?)
    (queued : ∀ node : κ, node ∈ work.labels → node ∈ work.queue) :
    HandsOn source children work := by
  constructor
  · intro node label isLabel
    have isLeast := least node
    rw [isLabel] at isLeast
    exact .source isLeast.1
  · intro node label isSource
    have isLeast := least node
    cases isLabel : work.labels[node]? with
    | none =>
        rw [isLabel] at isLeast
        exact absurd isSource (isLeast label)
    | some held =>
        rw [isLabel] at isLeast
        exact ⟨held, rfl, isLeast.2 label isSource⟩
  · intro parent label notQueued isLabel
    have labelled : parent ∈ work.labels :=
      (mem_iff_exists_getElem? work.labels parent).mpr ⟨label, isLabel⟩
    exact absurd (queued parent labelled) notQueued

end Spread

end LabelSpread

import Mathlib.Data.List.Infix
import Mathlib.Logic.Relation

/-!
# Lists in causal order

Items name their parents by keys.  A list is in causal order when every item comes
after its parents and repeats no key.  The heads of the list are the keys that no
item has as a parent: every item leads to a head, no head leads to another, and what
follows all heads follows all items.
-/

namespace CausalOrder

universe u v

variable {α : Type u} {κ : Type v}

section Order

variable (key : α → κ) (parents : α → List κ)

/-- Every item comes after its parents, under a key of its own. -/
def CausallyOrdered (items : List α) : Prop :=
  ∀ earlier item later, items = earlier ++ item :: later →
    (∀ parent ∈ parents item, parent ∈ earlier.map key) ∧ key item ∉ earlier.map key

/-- A key of the list that no item has as a parent. -/
def IsHead (items : List α) (head : κ) : Prop :=
  head ∈ items.map key ∧ ∀ item ∈ items, head ∉ parents item

/-- One key is a parent of the item with the other. -/
def IsParent (items : List α) (parent child : κ) : Prop :=
  ∃ item ∈ items, key item = child ∧ parent ∈ parents item

/-- One key is an ancestor of the other or the same. -/
def LeadsTo (items : List α) : κ → κ → Prop :=
  Relation.ReflTransGen (IsParent key parents items)

end Order

variable {key : α → κ} {parents : α → List κ} {items : List α}

theorem CausallyOrdered.of_prefix
    {earlier later : List α} (ordered : CausallyOrdered key parents (earlier ++ later)) :
    CausallyOrdered key parents earlier := by
  intro before item after split
  exact ordered before item (after ++ later) (by rw [split, List.append_assoc, List.cons_append])

theorem CausallyOrdered.nodup (ordered : CausallyOrdered key parents items) :
    (items.map key).Nodup := by
  induction items using List.reverseRecOn with
  | nil => exact .nil
  | append_singleton earlier item inductionHypothesis =>
      have isNew := (ordered earlier item [] rfl).2
      rw [List.map_append, List.nodup_append]
      refine ⟨inductionHypothesis ordered.of_prefix, by simp, ?_⟩
      intro first firstMember second secondMember same
      rw [List.map_singleton, List.mem_singleton] at secondMember
      rw [same, secondMember] at firstMember
      exact isNew firstMember

/-- A parent in the list comes before its child. -/
theorem CausallyOrdered.parent_mem
    (ordered : CausallyOrdered key parents items) {item : α} (member : item ∈ items)
    {parent : κ} (isParent : parent ∈ parents item) :
    parent ∈ items.map key := by
  obtain ⟨earlier, later, split⟩ := List.append_of_mem member
  have isEarlier := (ordered earlier item later split).1 parent isParent
  rw [split, List.map_append]
  exact List.mem_append_left _ isEarlier

/-- The last item is a head. -/
theorem isHead_of_last
    {earlier : List α} {last : α}
    (ordered : CausallyOrdered key parents (earlier ++ [last])) :
    IsHead key parents (earlier ++ [last]) (key last) := by
  refine ⟨by simp, ?_⟩
  intro item member isParent
  have isNew := (ordered earlier last [] rfl).2
  rcases List.mem_append.mp member with isEarlier | isLast
  · exact isNew (ordered.of_prefix.parent_mem isEarlier isParent)
  · rw [List.mem_singleton.mp isLast] at isParent
    exact isNew ((ordered earlier last [] rfl).1 _ isParent)

/-- A list that is not empty has a head. -/
theorem exists_isHead
    (ordered : CausallyOrdered key parents items) (nonempty : items ≠ []) :
    ∃ head, IsHead key parents items head := by
  rcases List.eq_nil_or_concat items with empty | ⟨earlier, last, split⟩
  · exact absurd empty nonempty
  · rw [List.concat_eq_append] at split
    subst split
    exact ⟨key last, isHead_of_last ordered⟩

/-- Every item leads to a head.  The induction is on the items that come later. -/
theorem exists_head_of_mem
    (ordered : CausallyOrdered key parents items) {item : α} (member : item ∈ items) :
    ∃ head, IsHead key parents items head ∧ LeadsTo key parents items (key item) head := by
  obtain ⟨earlier, later, split⟩ := List.append_of_mem member
  induction bound : later.length using Nat.strong_induction_on
    generalizing item earlier later with
  | _ count inductionHypothesis =>
      by_cases isHead : IsHead key parents items (key item)
      · exact ⟨key item, isHead, .refl⟩
      · have isKey : key item ∈ items.map key := List.mem_map_of_mem member
        rw [IsHead, not_and] at isHead
        have hasChild := isHead isKey
        push Not at hasChild
        obtain ⟨child, childMember, isParent⟩ := hasChild
        -- the child comes later, because it comes after its parent
        have childLater : child ∈ later := by
          rw [split, List.mem_append, List.mem_cons] at childMember
          rcases childMember with isEarlier | rfl | isLater
          · obtain ⟨before, after, earlierSplit⟩ := List.append_of_mem isEarlier
            have childSplit : items = before ++ child :: (after ++ item :: later) := by
              rw [split, earlierSplit, List.append_assoc, List.cons_append]
            have parentEarlier := (ordered before child _ childSplit).1 _ isParent
            refine absurd ?_ (ordered earlier item later split).2
            rw [earlierSplit, List.map_append]
            exact List.mem_append_left _ parentEarlier
          · exact absurd ((ordered earlier child later split).1 _ isParent)
              (ordered earlier child later split).2
          · exact isLater
        obtain ⟨between, rest, laterSplit⟩ := List.append_of_mem childLater
        have childSplit : items = (earlier ++ item :: between) ++ child :: rest := by
          rw [split, laterSplit, List.append_assoc, List.cons_append]
        have fewer : rest.length < count := by
          rw [← bound, laterSplit, List.length_append, List.length_cons]
          omega
        have childIn : child ∈ items := by
          rw [childSplit]
          exact List.mem_append_right _ List.mem_cons_self
        obtain ⟨head, headIsHead, leads⟩ :=
          inductionHypothesis rest.length fewer childIn _ rest childSplit rfl
        exact ⟨head, headIsHead, .head ⟨child, childIn, rfl, isParent⟩ leads⟩

/-- What leads to a key of the list, through items of a larger list without further
items of the same keys, leads to it within the list. -/
theorem leadsTo_within
    {all : List α} (ordered : CausallyOrdered key parents items)
    (unique : ∀ item ∈ all, key item ∈ items.map key → item ∈ items)
    {first last : κ} (leads : LeadsTo key parents all first last)
    (lastMember : last ∈ items.map key) :
    LeadsTo key parents items first last := by
  induction leads with
  | refl => exact .refl
  | @tail middle last _ step inductionHypothesis =>
      obtain ⟨item, member, isChild, isParent⟩ := step
      rw [← isChild] at lastMember
      have itemIn := unique item member lastMember
      exact .tail (inductionHypothesis (ordered.parent_mem itemIn isParent))
        ⟨item, itemIn, isChild, isParent⟩

/-- A head leads to nothing but itself. -/
theorem eq_of_head_leadsTo
    {head other : κ} (isHead : IsHead key parents items head)
    (leads : LeadsTo key parents items head other) :
    head = other := by
  rcases Relation.ReflTransGen.cases_head leads with same | ⟨child, step, -⟩
  · exact same
  · obtain ⟨item, member, -, isParent⟩ := step
    exact absurd isParent (isHead.2 item member)

/-- A beginning of the list that has all heads is the whole list. -/
theorem eq_nil_of_heads_mem
    {earlier later : List α} (ordered : CausallyOrdered key parents (earlier ++ later))
    (allHeads : ∀ head, IsHead key parents (earlier ++ later) head → head ∈ earlier.map key) :
    later = [] := by
  rcases List.eq_nil_or_concat later with empty | ⟨rest, last, split⟩
  · exact empty
  · rw [List.concat_eq_append] at split
    subst split
    rw [← List.append_assoc] at ordered allHeads
    have known := allHeads (key last) (isHead_of_last ordered)
    refine absurd ?_ (ordered (earlier ++ rest) last [] rfl).2
    rw [List.map_append]
    exact List.mem_append_left _ known

end CausalOrder

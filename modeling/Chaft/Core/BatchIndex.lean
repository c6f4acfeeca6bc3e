import Mathlib.Data.List.FinRange
import Chaft.Core.BatchScan

/-!
# The causal index and the ready events

What the data structures of `applyBatch` hold: the counts and waiting lists
that the causal index starts with, the position that is popped next, and what
changes when an applied event releases those that waited for it.
-/

namespace Chaft

open Keyed Outcome StableReplay

namespace WorkspaceState

/-! ## The causal index -/

section CausalIndex

variable {count : Nat} (state : WorkspaceState) (candidateEventIds : HashSet EventId)

/-- The members of a list that are new to a set of seen parents and unapplied. -/
private def newMissing (unique : HashSet EventId) (parents : List EventId) : Finset EventId :=
  parents.toFinset.filter fun parentId =>
    parentId ∉ unique ∧ parentId ∉ state.appliedEventIds

private theorem noteParent_fold
    (eventIndex : Fin count) (parents : List EventId) (unique : HashSet EventId)
    (index : CausalIndex count) :
    let noted := (parents.foldl (noteParent state candidateEventIds eventIndex)
      (unique, index)).2
    (∀ other, noted.missingParentCounts other =
        if other = eventIndex then
          index.missingParentCounts other + (newMissing state unique parents).card
        else
          index.missingParentCounts other) ∧
      (∀ parentId, parentId ∈ candidateEventIds →
        noted.waitingByParent.getD parentId [] =
          index.waitingByParent.getD parentId [] ++
            if parentId ∈ newMissing state unique parents then [eventIndex] else []) ∧
        noted.initiallyReadyEvents = index.initiallyReadyEvents := by
  induction parents generalizing unique index with
  | nil => simp [newMissing]
  | cons parentId rest inductionHypothesis =>
      rw [List.foldl_cons]
      by_cases skipped : parentId ∈ unique ∨ parentId ∈ state.appliedEventIds
      · have step :
            noteParent state candidateEventIds eventIndex (unique, index) parentId =
              (unique.insert parentId, index) := by
          simp [noteParent, skipped]
        have sameNew :
            newMissing state (unique.insert parentId) rest =
              newMissing state unique (parentId :: rest) := by
          ext tested
          simp only [newMissing, Finset.mem_filter, List.mem_toFinset, List.mem_cons,
            Std.ExtTreeSet.mem_insert, Std.LawfulEqCmp.compare_eq_iff_eq]
          grind
        rw [step, ← sameNew]
        exact inductionHypothesis (unique.insert parentId) index
      · rw [not_or] at skipped
        have step :
            noteParent state candidateEventIds eventIndex (unique, index) parentId =
              (unique.insert parentId,
                { index with
                  missingParentCounts :=
                    Function.update index.missingParentCounts eventIndex
                      (index.missingParentCounts eventIndex + 1)
                  waitingByParent :=
                    if parentId ∈ candidateEventIds then
                      index.waitingByParent.insert parentId
                        (index.waitingByParent.getD parentId [] ++ [eventIndex])
                    else
                      index.waitingByParent }) := by
          simp [noteParent, skipped]
        have oneMore :
            newMissing state unique (parentId :: rest) =
              insert parentId (newMissing state (unique.insert parentId) rest) := by
          ext tested
          simp only [newMissing, Finset.mem_filter, List.mem_toFinset, List.mem_cons,
            Std.ExtTreeSet.mem_insert, Std.LawfulEqCmp.compare_eq_iff_eq, Finset.mem_insert]
          grind
        have fresh : parentId ∉ newMissing state (unique.insert parentId) rest := by
          simp [newMissing]
        rw [step]
        obtain ⟨counts, waiting, ready⟩ :=
          inductionHypothesis (unique.insert parentId)
            { index with
              missingParentCounts :=
                Function.update index.missingParentCounts eventIndex
                  (index.missingParentCounts eventIndex + 1)
              waitingByParent :=
                if parentId ∈ candidateEventIds then
                  index.waitingByParent.insert parentId
                    (index.waitingByParent.getD parentId [] ++ [eventIndex])
                else
                  index.waitingByParent }
        refine ⟨?_, ?_, ready⟩
        · intro other
          rw [counts other, oneMore, Finset.card_insert_of_notMem fresh]
          by_cases same : other = eventIndex
          · subst same
            simp only [if_true, Function.update_self]
            omega
          · simp [same]
        · intro tested candidate
          rw [waiting tested candidate, oneMore]
          by_cases same : tested = parentId
          · subst same
            simp [candidate, fresh]
          · have different : parentId ≠ tested := fun equal => same equal.symm
            by_cases parentCandidate : parentId ∈ candidateEventIds
            · simp [parentCandidate, same, different, Std.ExtTreeMap.getD_insert]
            · simp [parentCandidate, same]

end CausalIndex

section Containers

variable {count : Nat}

/-- The least ready position is popped, whichever container holds it. -/
theorem popReady_spec
    (loop : BatchLoop count) (first : Fin count)
    (member : first ∈ loop.stableReadyEvents ∨ first ∈ loop.dynamicallyReadyEvents)
    (least :
      ∀ other, other ∈ loop.stableReadyEvents ∨ other ∈ loop.dynamicallyReadyEvents →
        first ≤ other)
    (stableSorted : loop.stableReadyEvents.Pairwise (· ≤ ·))
    (dynamicSorted : loop.dynamicallyReadyEvents.Pairwise (· ≤ ·))
    (disjoint : ∀ other ∈ loop.stableReadyEvents, other ∉ loop.dynamicallyReadyEvents) :
    popReady loop =
      some (first,
        { loop with
          stableReadyEvents := loop.stableReadyEvents.erase first
          dynamicallyReadyEvents := loop.dynamicallyReadyEvents.erase first }) := by
  rcases loop with ⟨state, pending, counts, earliest, waiting, applied, stable, dynamic, next,
    deferred, round, progressed⟩
  dsimp only at *
  cases stable with
  | nil =>
      cases dynamic with
      | nil => simp at member
      | cons dynamicFirst dynamicRest =>
          have inDynamic : first ∈ dynamicFirst :: dynamicRest := by simpa using member
          have below : first ≤ dynamicFirst := least dynamicFirst (by simp)
          have same : dynamicFirst = first := by
            rcases List.mem_cons.mp inDynamic with equal | later
            · exact equal.symm
            · exact le_antisymm ((List.pairwise_cons.mp dynamicSorted).1 first later) below
          simp [popReady, same]
  | cons stableFirst stableRest =>
      have stableBelow : first ≤ stableFirst := least stableFirst (by simp)
      cases dynamic with
      | nil =>
          have inStable : first ∈ stableFirst :: stableRest := by simpa using member
          have same : stableFirst = first := by
            rcases List.mem_cons.mp inStable with equal | later
            · exact equal.symm
            · exact le_antisymm ((List.pairwise_cons.mp stableSorted).1 first later) stableBelow
          simp [popReady, same]
      | cons dynamicFirst dynamicRest =>
          have dynamicBelow : first ≤ dynamicFirst := least dynamicFirst (by simp)
          rcases member with inStable | inDynamic
          · have same : stableFirst = first := by
              rcases List.mem_cons.mp inStable with equal | later
              · exact equal.symm
              · exact
                  le_antisymm ((List.pairwise_cons.mp stableSorted).1 first later) stableBelow
            have notDynamic : first ∉ dynamicFirst :: dynamicRest := disjoint first inStable
            simp [popReady, same, dynamicBelow, List.erase_of_not_mem notDynamic]
          · have same : dynamicFirst = first := by
              rcases List.mem_cons.mp inDynamic with equal | later
              · exact equal.symm
              · exact
                  le_antisymm ((List.pairwise_cons.mp dynamicSorted).1 first later) dynamicBelow
            have notStable : first ∉ stableFirst :: stableRest :=
              fun inStable => disjoint first inStable inDynamic
            have above : ¬ stableFirst ≤ first := by
              intro below
              exact notStable (by simp [le_antisymm below stableBelow])
            simp [popReady, same, above, List.erase_of_not_mem notStable]

/-- The round in which a waiting event becomes ready, when the event at
`eventIndex` was its last missing parent. -/
def releasedRound (loop : BatchLoop count) (eventIndex waiting : Fin count) : Nat :=
  max (loop.earliestReadyRounds waiting)
    (loop.currentRound + if waiting ≤ eventIndex then 1 else 0)

/-- The waiting events that become ready, in this round or in the next one. -/
def released
    (conflicts : Fin count → Bool) (eventIndex : Fin count) (loop : BatchLoop count)
    (thisRound : Bool) (waiting : Fin count) : Bool :=
  decide (loop.missingParentCounts waiting - 1 = 0 ∧ conflicts waiting = false ∧
    (thisRound = true ↔ releasedRound loop eventIndex waiting = loop.currentRound))

private theorem releaseWaiting_spec
    (conflicts : Fin count → Bool) (eventIndex : Fin count) (loop : BatchLoop count)
    (waiting : Fin count) :
    releaseWaiting conflicts eventIndex loop waiting =
      { loop with
        missingParentCounts :=
          Function.update loop.missingParentCounts waiting
            (loop.missingParentCounts waiting - 1)
        earliestReadyRounds :=
          Function.update loop.earliestReadyRounds waiting
            (releasedRound loop eventIndex waiting)
        dynamicallyReadyEvents :=
          if released conflicts eventIndex loop true waiting then
            loop.dynamicallyReadyEvents.orderedInsert (· ≤ ·) waiting
          else
            loop.dynamicallyReadyEvents
        nextRoundReadyEvents :=
          if released conflicts eventIndex loop false waiting then
            loop.nextRoundReadyEvents.orderedInsert (· ≤ ·) waiting
          else
            loop.nextRoundReadyEvents } := by
  have thisRound :
      released conflicts eventIndex loop true waiting = true ↔
        (loop.missingParentCounts waiting - 1 = 0 ∧ conflicts waiting = false) ∧
          releasedRound loop eventIndex waiting = loop.currentRound := by
    simp [released, and_assoc]
  have nextRound :
      released conflicts eventIndex loop false waiting = true ↔
        (loop.missingParentCounts waiting - 1 = 0 ∧ conflicts waiting = false) ∧
          ¬ releasedRound loop eventIndex waiting = loop.currentRound := by
    simp [released, and_assoc]
  unfold releaseWaiting
  dsimp only
  by_cases ready : loop.missingParentCounts waiting - 1 = 0 ∧ conflicts waiting = false
  · rw [if_pos ready]
    by_cases inThisRound : releasedRound loop eventIndex waiting = loop.currentRound
    · rw [if_pos (show max _ _ = _ from inThisRound), if_pos (thisRound.mpr ⟨ready, inThisRound⟩),
        if_neg (fun isNext => (nextRound.mp isNext).2 inThisRound)]
      rfl
    · rw [if_neg (show ¬ max _ _ = _ from inThisRound),
        if_neg (fun isNow => inThisRound (thisRound.mp isNow).2),
        if_pos (nextRound.mpr ⟨ready, inThisRound⟩)]
      rfl
  · rw [if_neg ready, if_neg (fun isNow => ready (thisRound.mp isNow).1),
      if_neg (fun isNext => ready (nextRound.mp isNext).1)]
    rfl

theorem releaseWaiting_fold
    (conflicts : Fin count → Bool) (eventIndex : Fin count)
    (waiting : List (Fin count)) (distinct : waiting.Nodup) (loop : BatchLoop count) :
    ∃ counts earliest dynamic next,
      waiting.foldl (releaseWaiting conflicts eventIndex) loop =
          { loop with
            missingParentCounts := counts
            earliestReadyRounds := earliest
            dynamicallyReadyEvents := dynamic
            nextRoundReadyEvents := next } ∧
        (∀ other, counts other =
          if other ∈ waiting then
            loop.missingParentCounts other - 1
          else
            loop.missingParentCounts other) ∧
        (∀ other, earliest other =
          if other ∈ waiting then
            releasedRound loop eventIndex other
          else
            loop.earliestReadyRounds other) ∧
        dynamic.Perm
          (loop.dynamicallyReadyEvents ++
            waiting.filter (released conflicts eventIndex loop true)) ∧
        next.Perm
          (loop.nextRoundReadyEvents ++
            waiting.filter (released conflicts eventIndex loop false)) ∧
        (loop.dynamicallyReadyEvents.Pairwise (· ≤ ·) → dynamic.Pairwise (· ≤ ·)) ∧
        (loop.nextRoundReadyEvents.Pairwise (· ≤ ·) → next.Pairwise (· ≤ ·)) := by
  induction waiting generalizing loop with
  | nil =>
      refine ⟨loop.missingParentCounts, loop.earliestReadyRounds, loop.dynamicallyReadyEvents,
        loop.nextRoundReadyEvents, rfl, ?_, ?_, ?_, ?_, id, id⟩ <;> simp
  | cons first rest inductionHypothesis =>
      obtain ⟨notInRest, restDistinct⟩ := List.nodup_cons.mp distinct
      obtain ⟨counts, earliest, dynamic, next, folded, countsSpec, earliestSpec, dynamicSpec,
        nextSpec, dynamicSorted, nextSorted⟩ :=
        inductionHypothesis restDistinct (releaseWaiting conflicts eventIndex loop first)
      have sameRound :
          ∀ other ∈ rest,
            releasedRound (releaseWaiting conflicts eventIndex loop first) eventIndex other =
              releasedRound loop eventIndex other := by
        intro other member
        have different : other ≠ first := fun same => notInRest (same ▸ member)
        simp [releaseWaiting_spec, releasedRound, different]
      have sameReleased :
          ∀ thisRound, ∀ other ∈ rest,
            released conflicts eventIndex (releaseWaiting conflicts eventIndex loop first)
                thisRound other =
              released conflicts eventIndex loop thisRound other := by
        intro thisRound other member
        have different : other ≠ first := fun same => notInRest (same ▸ member)
        unfold released
        rw [sameRound other member]
        simp [releaseWaiting_spec, different]
      refine ⟨counts, earliest, dynamic, next, ?_, ?_, ?_, ?_, ?_, ?_, ?_⟩
      · rw [List.foldl_cons, folded, releaseWaiting_spec]
      · intro other
        rw [countsSpec other, releaseWaiting_spec]
        by_cases same : other = first
        · rw [same]
          simp [notInRest]
        · simp [same]
      · intro other
        rw [earliestSpec other]
        by_cases same : other = first
        · rw [same, if_neg notInRest, if_pos List.mem_cons_self, releaseWaiting_spec]
          simp
        · by_cases inRest : other ∈ rest
          · rw [if_pos inRest, if_pos (List.mem_cons_of_mem first inRest),
              sameRound other inRest]
          · rw [if_neg inRest, if_neg (by simp [same, inRest]), releaseWaiting_spec]
            simp [same]
      · refine dynamicSpec.trans ?_
        rw [List.filter_congr (sameReleased true), List.filter_cons, releaseWaiting_spec]
        dsimp only
        by_cases wakes : released conflicts eventIndex loop true first = true
        · rw [if_pos wakes, if_pos wakes]
          have inserted :=
            List.perm_orderedInsert (· ≤ ·) first loop.dynamicallyReadyEvents
          exact (inserted.append_right _).trans List.perm_middle.symm
        · rw [if_neg wakes, if_neg wakes]
      · refine nextSpec.trans ?_
        rw [List.filter_congr (sameReleased false), List.filter_cons, releaseWaiting_spec]
        dsimp only
        by_cases wakes : released conflicts eventIndex loop false first = true
        · rw [if_pos wakes, if_pos wakes]
          have inserted :=
            List.perm_orderedInsert (· ≤ ·) first loop.nextRoundReadyEvents
          exact (inserted.append_right _).trans List.perm_middle.symm
        · rw [if_neg wakes, if_neg wakes]
      · intro sorted
        apply dynamicSorted
        rw [releaseWaiting_spec]
        dsimp only
        split
        · exact sorted.orderedInsert first _
        · exact sorted
      · intro sorted
        apply nextSorted
        rw [releaseWaiting_spec]
        dsimp only
        split
        · exact sorted.orderedInsert first _
        · exact sorted

end Containers

section Rounds

variable (events : List SignedEvent) (conflicts : Fin events.length → Bool)

/-- The event at a position can be attempted: nothing disputes it and all its
parents are applied. -/
def Eligible (state : WorkspaceState) (eventIndex : Fin events.length) : Prop :=
  state.unappliedParentIds (events.get eventIndex) = [] ∧ conflicts eventIndex = false

instance (state : WorkspaceState) (eventIndex : Fin events.length) :
    Decidable (Eligible events conflicts state eventIndex) :=
  inferInstanceAs (Decidable (_ ∧ _))

private theorem noteEvent_spec
    (state : WorkspaceState) (candidateEventIds : HashSet EventId)
    (index : CausalIndex events.length) (eventIndex : Fin events.length)
    (fresh : index.missingParentCounts eventIndex = 0) :
    let noted := noteEvent state events candidateEventIds conflicts index eventIndex
    (∀ other, noted.missingParentCounts other =
        if other = eventIndex then
          (state.missingParents (events.get eventIndex)).card
        else
          index.missingParentCounts other) ∧
      (∀ parentId, parentId ∈ candidateEventIds → parentId ∉ state.appliedEventIds →
        noted.waitingByParent.getD parentId [] =
          index.waitingByParent.getD parentId [] ++
            if parentId ∈ (events.get eventIndex).event.parents then [eventIndex] else []) ∧
        noted.initiallyReadyEvents =
          index.initiallyReadyEvents ++
            if Eligible events conflicts state eventIndex then [eventIndex] else [] := by
  obtain ⟨counts, waiting, ready⟩ :=
    noteParent_fold state candidateEventIds eventIndex
      (events.get eventIndex).event.parents ∅ index
  have allMissing :
      newMissing state ∅ (events.get eventIndex).event.parents =
        state.missingParents (events.get eventIndex) := by
    ext tested
    simp [newMissing, missingParents]
  rw [allMissing] at counts
  simp only [allMissing, mem_missingParents] at waiting
  have ownCount := counts eventIndex
  rw [if_pos rfl, fresh, Nat.zero_add] at ownCount
  have sameCounts :
      (noteEvent state events candidateEventIds conflicts index
          eventIndex).missingParentCounts =
        ((events.get eventIndex).event.parents.foldl
          (noteParent state candidateEventIds eventIndex) (∅, index)).2.missingParentCounts := by
    unfold noteEvent
    dsimp only
    split <;> rfl
  have sameWaiting :
      (noteEvent state events candidateEventIds conflicts index eventIndex).waitingByParent =
        ((events.get eventIndex).event.parents.foldl
          (noteParent state candidateEventIds eventIndex) (∅, index)).2.waitingByParent := by
    unfold noteEvent
    dsimp only
    split <;> rfl
  refine ⟨?_, ?_, ?_⟩
  · intro other
    rw [sameCounts, counts other]
    by_cases same : other = eventIndex
    · rw [if_pos same, if_pos same, same, fresh, Nat.zero_add]
    · rw [if_neg same, if_neg same]
  · intro parentId candidate unapplied
    rw [sameWaiting, waiting parentId candidate]
    simp only [unapplied, not_false_eq_true, and_true]
  · unfold noteEvent
    simp only [ownCount, Finset.card_eq_zero, missingParents_eq_empty_iff]
    by_cases eligible : Eligible events conflicts state eventIndex
    · rw [if_pos eligible, if_pos (show _ ∧ _ from eligible), ready]
    · rw [if_neg eligible, if_neg (show ¬ (_ ∧ _) from eligible), ready, List.append_nil]

theorem noteEvent_fold
    (state : WorkspaceState) (candidateEventIds : HashSet EventId)
    (positions : List (Fin events.length)) (distinct : positions.Nodup)
    (index : CausalIndex events.length)
    (fresh : ∀ eventIndex ∈ positions, index.missingParentCounts eventIndex = 0) :
    let noted := positions.foldl (noteEvent state events candidateEventIds conflicts) index
    (∀ other, noted.missingParentCounts other =
        if other ∈ positions then
          (state.missingParents (events.get other)).card
        else
          index.missingParentCounts other) ∧
      (∀ parentId, parentId ∈ candidateEventIds → parentId ∉ state.appliedEventIds →
        noted.waitingByParent.getD parentId [] =
          index.waitingByParent.getD parentId [] ++
            positions.filter fun eventIndex =>
              decide (parentId ∈ (events.get eventIndex).event.parents)) ∧
        noted.initiallyReadyEvents =
          index.initiallyReadyEvents ++
            positions.filter fun eventIndex =>
              decide (Eligible events conflicts state eventIndex) := by
  induction positions generalizing index with
  | nil => simp
  | cons eventIndex rest inductionHypothesis =>
      obtain ⟨notInRest, restDistinct⟩ := List.nodup_cons.mp distinct
      obtain ⟨counts, waiting, ready⟩ :=
        noteEvent_spec events conflicts state candidateEventIds index eventIndex
          (fresh eventIndex List.mem_cons_self)
      have restFresh :
          ∀ other ∈ rest,
            (noteEvent state events candidateEventIds conflicts index
              eventIndex).missingParentCounts other = 0 := by
        intro other member
        have different : other ≠ eventIndex := fun same => notInRest (same ▸ member)
        rw [counts other, if_neg different]
        exact fresh other (List.mem_cons_of_mem eventIndex member)
      obtain ⟨restCounts, restWaiting, restReady⟩ :=
        inductionHypothesis restDistinct _ restFresh
      rw [List.foldl_cons]
      refine ⟨?_, ?_, ?_⟩
      · intro other
        rw [restCounts other, counts other]
        by_cases same : other = eventIndex
        · rw [same]
          simp [notInRest]
        · simp [same]
      · intro parentId candidate unapplied
        rw [restWaiting parentId candidate unapplied, waiting parentId candidate unapplied,
          List.append_assoc, List.filter_cons]
        congr 1
        by_cases isParent : parentId ∈ (events.get eventIndex).event.parents <;>
          simp only [isParent, decide_true, decide_false, if_true, if_false,
            List.singleton_append, List.nil_append, Bool.false_eq_true]
      · rw [restReady, ready, List.append_assoc, List.filter_cons]
        congr 1
        by_cases eligible : Eligible events conflicts state eventIndex <;> simp [eligible]

end Rounds

end WorkspaceState

end Chaft

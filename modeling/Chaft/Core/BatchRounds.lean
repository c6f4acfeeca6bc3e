import Mathlib.Data.Fintype.Card
import Chaft.Core.BatchIndex

/-!
# The indexed batch is a stable replay

The rounds of `applyBatch` are the passes of `scanBatch`.  The invariant of a
round speaks about the positions that the pass has still to visit: among
these, the ready ones are exactly the members of the stable list and the heap;
among the visited ones, they are exactly the deferred events and those that
wait for the next round.
-/

namespace Chaft

open Keyed Outcome StableReplay

namespace WorkspaceState

/-! ## The invariant of a round -/

section Rounds

variable {events : List SignedEvent} {conflicts : Fin events.length → Bool}

private theorem eligible_iff_missingParents (state : WorkspaceState) (eventIndex : Fin events.length) :
    Eligible events conflicts state eventIndex ↔
      state.missingParents (events.get eventIndex) = ∅ ∧ conflicts eventIndex = false := by
  rw [missingParents_eq_empty_iff]
  exact Iff.rfl

/-- The state of a round whose pass has still to visit the positions `rest`. -/
private structure RoundInvariant
    (conflicts : Fin events.length → Bool) (loop : BatchLoop events.length)
    (rest : List (Fin events.length)) : Prop where
  counts :
    ∀ eventIndex, loop.missingParentCounts eventIndex =
      (loop.state.missingParents (events.get eventIndex)).card
  waitingDistinct :
    ∀ eventIndex, (events.get eventIndex).eventId ∉ loop.state.appliedEventIds →
      (loop.waitingByParent.getD (events.get eventIndex).eventId []).Nodup
  waitingExact :
    ∀ eventIndex child, (events.get eventIndex).eventId ∉ loop.state.appliedEventIds →
      (child ∈ loop.waitingByParent.getD (events.get eventIndex).eventId [] ↔
        (events.get eventIndex).eventId ∈ (events.get child).event.parents)
  settled :
    ∀ eventIndex, loop.pending eventIndex = false →
      loop.state.missingParents (events.get eventIndex) = ∅
  restSorted : rest.Pairwise (· < ·)
  restPending : ∀ eventIndex ∈ rest, loop.pending eventIndex = true
  visited :
    ∀ eventIndex, loop.pending eventIndex = true → eventIndex ∉ rest →
      ∀ other ∈ rest, eventIndex < other
  ready :
    ∀ eventIndex,
      (eventIndex ∈ loop.stableReadyEvents ∨ eventIndex ∈ loop.dynamicallyReadyEvents) ↔
        eventIndex ∈ rest ∧ Eligible events conflicts loop.state eventIndex
  readyDistinct : (loop.stableReadyEvents ++ loop.dynamicallyReadyEvents).Nodup
  stableSorted : loop.stableReadyEvents.Pairwise (· ≤ ·)
  dynamicSorted : loop.dynamicallyReadyEvents.Pairwise (· ≤ ·)
  postponed :
    ∀ eventIndex,
      (eventIndex ∈ loop.authorizationDeferred ∨ eventIndex ∈ loop.nextRoundReadyEvents) ↔
        loop.pending eventIndex = true ∧ eventIndex ∉ rest ∧
          Eligible events conflicts loop.state eventIndex
  postponedDistinct : (loop.authorizationDeferred ++ loop.nextRoundReadyEvents).Nodup
  deferredSorted : loop.authorizationDeferred.Pairwise (· ≤ ·)
  nextSorted : loop.nextRoundReadyEvents.Pairwise (· ≤ ·)
  rounds :
    ∀ eventIndex,
      loop.earliestReadyRounds eventIndex ≤ loop.currentRound ∨
        loop.earliestReadyRounds eventIndex = loop.currentRound + 1 ∧
          ∀ other ∈ rest, eventIndex < other

section Visits

variable {loop : BatchLoop events.length} {first : Fin events.length}
  {rest : List (Fin events.length)}

/-- The pass walks over a position that is not eligible. -/
private theorem RoundInvariant.skip
    (holds : RoundInvariant conflicts loop (first :: rest))
    (notEligible : ¬ Eligible events conflicts loop.state first) :
    RoundInvariant conflicts loop rest := by
  obtain ⟨firstBelow, restSorted⟩ := List.pairwise_cons.mp holds.restSorted
  have firstPending := holds.restPending first List.mem_cons_self
  refine
    { counts := holds.counts
      waitingDistinct := holds.waitingDistinct
      waitingExact := holds.waitingExact
      settled := holds.settled
      restSorted := restSorted
      restPending := fun eventIndex member =>
        holds.restPending eventIndex (List.mem_cons_of_mem first member)
      visited := ?_
      ready := ?_
      readyDistinct := holds.readyDistinct
      stableSorted := holds.stableSorted
      dynamicSorted := holds.dynamicSorted
      postponed := ?_
      postponedDistinct := holds.postponedDistinct
      deferredSorted := holds.deferredSorted
      nextSorted := holds.nextSorted
      rounds := ?_ }
  · intro eventIndex isPending notInRest other member
    by_cases same : eventIndex = first
    · rw [same]
      exact firstBelow other member
    · apply holds.visited eventIndex isPending _ other (List.mem_cons_of_mem first member)
      simp [same, notInRest]
  · intro eventIndex
    rw [holds.ready eventIndex, List.mem_cons]
    constructor
    · rintro ⟨same | inRest, eligible⟩
      · exact absurd (same ▸ eligible) notEligible
      · exact ⟨inRest, eligible⟩
    · rintro ⟨inRest, eligible⟩
      exact ⟨Or.inr inRest, eligible⟩
  · intro eventIndex
    rw [holds.postponed eventIndex, List.mem_cons]
    constructor
    · rintro ⟨isPending, notInside, eligible⟩
      exact ⟨isPending, fun inRest => notInside (Or.inr inRest), eligible⟩
    · rintro ⟨isPending, notInRest, eligible⟩
      refine ⟨isPending, ?_, eligible⟩
      rintro (same | inRest)
      · exact notEligible (same ▸ eligible)
      · exact notInRest inRest
  · intro eventIndex
    rcases holds.rounds eventIndex with now | ⟨later, below⟩
    · exact Or.inl now
    · exact Or.inr ⟨later, fun other member => below other (List.mem_cons_of_mem first member)⟩

/-- The eligible first position is the one that is popped. -/
private theorem RoundInvariant.pop
    (holds : RoundInvariant conflicts loop (first :: rest))
    (eligible : Eligible events conflicts loop.state first) :
    popReady loop =
      some (first,
        { loop with
          stableReadyEvents := loop.stableReadyEvents.erase first
          dynamicallyReadyEvents := loop.dynamicallyReadyEvents.erase first }) := by
  apply popReady_spec loop first
  · exact (holds.ready first).mpr ⟨List.mem_cons_self, eligible⟩
  · intro other member
    rcases List.mem_cons.mp ((holds.ready other).mp member).1 with same | inRest
    · exact le_of_eq same.symm
    · exact le_of_lt ((List.pairwise_cons.mp holds.restSorted).1 other inRest)
  · exact holds.stableSorted
  · exact holds.dynamicSorted
  · intro other inStable inDynamic
    exact (List.disjoint_of_nodup_append holds.readyDistinct) inStable inDynamic

private theorem RoundInvariant.ready_erase
    (holds : RoundInvariant conflicts loop (first :: rest)) (eventIndex : Fin events.length) :
    (eventIndex ∈ loop.stableReadyEvents.erase first ∨
        eventIndex ∈ loop.dynamicallyReadyEvents.erase first) ↔
      eventIndex ∈ rest ∧ Eligible events conflicts loop.state eventIndex := by
  have notInRest : first ∉ rest := by
    intro member
    exact lt_irrefl first ((List.pairwise_cons.mp holds.restSorted).1 first member)
  rw [(List.Nodup.of_append_left holds.readyDistinct).mem_erase_iff,
    (List.Nodup.of_append_right holds.readyDistinct).mem_erase_iff, ← and_or_left,
    holds.ready eventIndex, List.mem_cons]
  constructor
  · rintro ⟨different, same | inRest, eligible⟩
    · exact absurd same different
    · exact ⟨inRest, eligible⟩
  · rintro ⟨inRest, eligible⟩
    exact ⟨fun same => notInRest (same ▸ inRest), Or.inr inRest, eligible⟩

private theorem RoundInvariant.erase_distinct
    (holds : RoundInvariant conflicts loop (first :: rest)) :
    (loop.stableReadyEvents.erase first ++ loop.dynamicallyReadyEvents.erase first).Nodup :=
  holds.readyDistinct.sublist
    ((List.erase_sublist).append (List.erase_sublist))

private theorem pending_of_update
    {pending : Fin events.length → Bool} {eventIndex : Fin events.length}
    (isPending : Function.update pending first false eventIndex = true) :
    pending eventIndex = true := by
  by_cases same : eventIndex = first
  · simp [same] at isPending
  · rwa [Function.update_of_ne same] at isPending

/-- What every visit of the first position has in common: afterwards the pass
has still to visit `rest`. -/
private theorem RoundInvariant.rest_visited
    (holds : RoundInvariant conflicts loop (first :: rest)) {pending : Fin events.length → Bool}
    (fewer : ∀ eventIndex, pending eventIndex = true → loop.pending eventIndex = true) :
    ∀ eventIndex, pending eventIndex = true → eventIndex ∉ rest →
      ∀ other ∈ rest, eventIndex < other := by
  intro eventIndex isPending notInRest other member
  by_cases same : eventIndex = first
  · rw [same]
    exact (List.pairwise_cons.mp holds.restSorted).1 other member
  · apply holds.visited eventIndex (fewer eventIndex isPending) _ other
      (List.mem_cons_of_mem first member)
    simp [same, notInRest]

private theorem RoundInvariant.first_notMem
    (holds : RoundInvariant conflicts loop (first :: rest)) : first ∉ rest := by
  intro member
  exact lt_irrefl first ((List.pairwise_cons.mp holds.restSorted).1 first member)

private theorem RoundInvariant.rest_pending
    (holds : RoundInvariant conflicts loop (first :: rest)) :
    ∀ eventIndex ∈ rest, Function.update loop.pending first false eventIndex = true := by
  intro eventIndex member
  have different : eventIndex ≠ first := fun same => holds.first_notMem (same ▸ member)
  rw [Function.update_of_ne different]
  exact holds.restPending eventIndex (List.mem_cons_of_mem first member)

private theorem RoundInvariant.rest_rounds
    (holds : RoundInvariant conflicts loop (first :: rest)) :
    ∀ eventIndex,
      loop.earliestReadyRounds eventIndex ≤ loop.currentRound ∨
        loop.earliestReadyRounds eventIndex = loop.currentRound + 1 ∧
          ∀ other ∈ rest, eventIndex < other := by
  intro eventIndex
  rcases holds.rounds eventIndex with now | ⟨later, below⟩
  · exact Or.inl now
  · exact Or.inr ⟨later, fun other member => below other (List.mem_cons_of_mem first member)⟩

/-- A visit that drops the first position. -/
private theorem RoundInvariant.settle
    (holds : RoundInvariant conflicts loop (first :: rest))
    (eligible : Eligible events conflicts loop.state first) :
    RoundInvariant conflicts
      { loop with
        stableReadyEvents := loop.stableReadyEvents.erase first
        dynamicallyReadyEvents := loop.dynamicallyReadyEvents.erase first
        pending := Function.update loop.pending first false }
      rest := by
  refine
    { counts := holds.counts
      waitingDistinct := holds.waitingDistinct
      waitingExact := holds.waitingExact
      settled := ?_
      restSorted := (List.pairwise_cons.mp holds.restSorted).2
      restPending := holds.rest_pending
      visited := holds.rest_visited fun _ => pending_of_update
      ready := holds.ready_erase
      readyDistinct := holds.erase_distinct
      stableSorted := holds.stableSorted.sublist List.erase_sublist
      dynamicSorted := holds.dynamicSorted.sublist List.erase_sublist
      postponed := ?_
      postponedDistinct := holds.postponedDistinct
      deferredSorted := holds.deferredSorted
      nextSorted := holds.nextSorted
      rounds := holds.rest_rounds }
  · intro eventIndex isSettled
    by_cases same : eventIndex = first
    · rw [same]
      exact ((eligible_iff_missingParents loop.state first).mp eligible).1
    · dsimp only at isSettled
      rw [Function.update_of_ne same] at isSettled
      exact holds.settled eventIndex isSettled
  · intro eventIndex
    dsimp only
    rw [holds.postponed eventIndex, List.mem_cons]
    constructor
    · rintro ⟨isPending, notInside, stillEligible⟩
      have different : eventIndex ≠ first := fun same => notInside (Or.inl same)
      refine ⟨?_, fun inRest => notInside (Or.inr inRest), stillEligible⟩
      rwa [Function.update_of_ne different]
    · rintro ⟨isPending, notInRest, stillEligible⟩
      refine ⟨pending_of_update isPending, ?_, stillEligible⟩
      rintro (same | inRest)
      · simp [same] at isPending
      · exact notInRest inRest

/-- A visit that defers the first position. -/
private theorem RoundInvariant.defer
    (holds : RoundInvariant conflicts loop (first :: rest))
    (eligible : Eligible events conflicts loop.state first) :
    RoundInvariant conflicts
      { loop with
        stableReadyEvents := loop.stableReadyEvents.erase first
        dynamicallyReadyEvents := loop.dynamicallyReadyEvents.erase first
        authorizationDeferred := loop.authorizationDeferred ++ [first] }
      rest := by
  have firstPending := holds.restPending first List.mem_cons_self
  have notPostponed :
      ¬ (first ∈ loop.authorizationDeferred ∨ first ∈ loop.nextRoundReadyEvents) := by
    rw [holds.postponed first]
    simp
  refine
    { counts := holds.counts
      waitingDistinct := holds.waitingDistinct
      waitingExact := holds.waitingExact
      settled := holds.settled
      restSorted := (List.pairwise_cons.mp holds.restSorted).2
      restPending := fun eventIndex member =>
        holds.restPending eventIndex (List.mem_cons_of_mem first member)
      visited := holds.rest_visited fun _ isPending => isPending
      ready := holds.ready_erase
      readyDistinct := holds.erase_distinct
      stableSorted := holds.stableSorted.sublist List.erase_sublist
      dynamicSorted := holds.dynamicSorted.sublist List.erase_sublist
      postponed := ?_
      postponedDistinct := ?_
      deferredSorted := ?_
      nextSorted := holds.nextSorted
      rounds := holds.rest_rounds }
  · intro eventIndex
    dsimp only
    rw [List.mem_append, List.mem_singleton, or_right_comm, holds.postponed eventIndex,
      List.mem_cons]
    constructor
    · rintro (⟨isPending, notInside, stillEligible⟩ | same)
      · exact ⟨isPending, fun inRest => notInside (Or.inr inRest), stillEligible⟩
      · rw [same]
        exact ⟨firstPending, holds.first_notMem, eligible⟩
    · rintro ⟨isPending, notInRest, stillEligible⟩
      by_cases same : eventIndex = first
      · exact Or.inr same
      · exact Or.inl ⟨isPending, by simp [same, notInRest], stillEligible⟩
  · dsimp only
    rw [List.append_assoc, List.singleton_append]
    apply List.nodup_middle.mpr
    apply List.nodup_cons.mpr
    exact ⟨fun member => notPostponed (List.mem_append.mp member), holds.postponedDistinct⟩
  · apply List.pairwise_append.mpr
    refine ⟨holds.deferredSorted, List.pairwise_singleton _ first, ?_⟩
    intro deferred member other isFirst
    rw [List.mem_singleton.mp isFirst]
    have visitedBefore := (holds.postponed deferred).mp (Or.inl member)
    exact le_of_lt
      (holds.visited deferred visitedBefore.1 visitedBefore.2.1 first List.mem_cons_self)

/-- A visit that applies the first position and releases what waited for it. -/
private theorem RoundInvariant.advance
    (holds : RoundInvariant conflicts loop (first :: rest))
    (eligible : Eligible events conflicts loop.state first)
    (fresh : (events.get first).eventId ∉ loop.state.appliedEventIds)
    {next : WorkspaceState}
    (recorded :
      next.appliedEventIds =
        loop.state.appliedEventIds.insert (events.get first).eventId)
    {waitingByParent : HashMap EventId (List (Fin events.length))}
    (others :
      ∀ parentId, parentId ≠ (events.get first).eventId →
        waitingByParent.getD parentId [] = loop.waitingByParent.getD parentId [])
    {waiting : List (Fin events.length)}
    (isWaiting : waiting = loop.waitingByParent.getD (events.get first).eventId [])
    {counts earliest : Fin events.length → Nat} {dynamic nextRound : List (Fin events.length)}
    (countsSpec :
      ∀ other, counts other =
        if other ∈ waiting then
          loop.missingParentCounts other - 1
        else
          loop.missingParentCounts other)
    (earliestSpec :
      ∀ other, earliest other =
        if other ∈ waiting then
          releasedRound loop first other
        else
          loop.earliestReadyRounds other)
    (dynamicSpec :
      dynamic.Perm
        (loop.dynamicallyReadyEvents.erase first ++
          waiting.filter (released conflicts first loop true)))
    (nextSpec :
      nextRound.Perm
        (loop.nextRoundReadyEvents ++
          waiting.filter (released conflicts first loop false)))
    (dynamicSorted : dynamic.Pairwise (· ≤ ·)) (nextSorted : nextRound.Pairwise (· ≤ ·))
    (appliedEvents : List EventId) :
    RoundInvariant conflicts
      { loop with
        state := next
        pending := Function.update loop.pending first false
        missingParentCounts := counts
        earliestReadyRounds := earliest
        waitingByParent := waitingByParent
        appliedEvents := appliedEvents
        stableReadyEvents := loop.stableReadyEvents.erase first
        dynamicallyReadyEvents := dynamic
        nextRoundReadyEvents := nextRound
        progressed := true }
      rest := by
  obtain ⟨firstBelow, restSorted⟩ := List.pairwise_cons.mp holds.restSorted
  have missingAfter :
      ∀ eventIndex, next.missingParents (events.get eventIndex) =
        (loop.state.missingParents (events.get eventIndex)).erase (events.get first).eventId :=
    fun eventIndex => missingParents_of_applied recorded (events.get eventIndex)
  have mem_waiting :
      ∀ child, child ∈ waiting ↔
        (events.get first).eventId ∈ loop.state.missingParents (events.get child) := by
    intro child
    rw [isWaiting, holds.waitingExact first child fresh, mem_missingParents]
    exact ⟨fun isParent => ⟨isParent, fresh⟩, fun missing => missing.1⟩
  have waitingPending : ∀ child ∈ waiting, loop.pending child = true := by
    intro child member
    by_contra notPending
    have noneMissing := holds.settled child (Bool.eq_false_iff.mpr notPending)
    have missing := (mem_waiting child).mp member
    rw [noneMissing] at missing
    exact Finset.notMem_empty _ missing
  have waitingNotEligible :
      ∀ child ∈ waiting, ¬ Eligible events conflicts loop.state child := by
    intro child member stillEligible
    have missing := (mem_waiting child).mp member
    rw [((eligible_iff_missingParents loop.state child).mp stillEligible).1] at missing
    exact Finset.notMem_empty _ missing
  have waitingNotFirst : ∀ child ∈ waiting, child ≠ first := by
    intro child member same
    exact waitingNotEligible child member (same ▸ eligible)
  have countsAfter :
      ∀ eventIndex, counts eventIndex =
        (next.missingParents (events.get eventIndex)).card := by
    intro eventIndex
    rw [countsSpec, missingAfter, holds.counts]
    by_cases member : eventIndex ∈ waiting
    · rw [if_pos member, Finset.card_erase_of_mem ((mem_waiting eventIndex).mp member)]
    · rw [if_neg member, Finset.erase_eq_of_notMem fun missing =>
        member ((mem_waiting eventIndex).mpr missing)]
  have eligibleAfter :
      ∀ eventIndex, Eligible events conflicts next eventIndex ↔
        counts eventIndex = 0 ∧ conflicts eventIndex = false := by
    intro eventIndex
    rw [eligible_iff_missingParents, countsAfter, Finset.card_eq_zero]
  have eligibleOutside :
      ∀ eventIndex, eventIndex ∉ waiting →
        (Eligible events conflicts next eventIndex ↔
          Eligible events conflicts loop.state eventIndex) := by
    intro eventIndex notWaiting
    rw [eligible_iff_missingParents, eligible_iff_missingParents, missingAfter,
      Finset.erase_eq_of_notMem fun missing => notWaiting ((mem_waiting eventIndex).mpr missing)]
  -- a child later in the input is released now, an earlier one in the next round
  have releasedNow :
      ∀ child ∈ waiting, child ∈ rest ↔
        releasedRound loop first child = loop.currentRound := by
    intro child member
    unfold releasedRound
    constructor
    · intro inRest
      have later := firstBelow child inRest
      rw [if_neg (not_le.mpr later), Nat.add_zero]
      rcases holds.rounds child with now | ⟨_, below⟩
      · exact Nat.max_eq_right now
      · exact absurd (below first List.mem_cons_self) (lt_asymm later)
    · intro now
      by_contra notInRest
      have inside : child ∉ first :: rest := by
        simp [waitingNotFirst child member, notInRest]
      have earlier :=
        holds.visited child (waitingPending child member) inside first List.mem_cons_self
      rw [if_pos (le_of_lt earlier)] at now
      omega
  have wakes :
      ∀ thisRound, ∀ child ∈ waiting,
        (released conflicts first loop thisRound child = true ↔
          Eligible events conflicts next child ∧ (thisRound = true ↔ child ∈ rest)) := by
    intro thisRound child member
    rw [eligibleAfter, countsSpec, if_pos member, releasedNow child member, released,
      decide_eq_true_iff, and_assoc]
  refine
    { counts := countsAfter
      waitingDistinct := ?_
      waitingExact := ?_
      settled := ?_
      restSorted := restSorted
      restPending := holds.rest_pending
      visited := ?_
      ready := ?_
      readyDistinct := ?_
      stableSorted := holds.stableSorted.sublist List.erase_sublist
      dynamicSorted := dynamicSorted
      postponed := ?_
      postponedDistinct := ?_
      deferredSorted := holds.deferredSorted
      nextSorted := nextSorted
      rounds := ?_ }
  · intro eventIndex unapplied
    dsimp only at unapplied ⊢
    rw [recorded] at unapplied
    simp only [Std.ExtTreeSet.mem_insert, Std.LawfulEqCmp.compare_eq_iff_eq, not_or] at unapplied
    rw [others _ fun same => unapplied.1 same.symm]
    exact holds.waitingDistinct eventIndex unapplied.2
  · intro eventIndex child unapplied
    dsimp only at unapplied ⊢
    rw [recorded] at unapplied
    simp only [Std.ExtTreeSet.mem_insert, Std.LawfulEqCmp.compare_eq_iff_eq, not_or] at unapplied
    rw [others _ fun same => unapplied.1 same.symm]
    exact holds.waitingExact eventIndex child unapplied.2
  · intro eventIndex isSettled
    dsimp only at isSettled ⊢
    rw [missingAfter]
    by_cases same : eventIndex = first
    · rw [same, ((eligible_iff_missingParents loop.state first).mp eligible).1]
      rfl
    · rw [Function.update_of_ne same] at isSettled
      rw [holds.settled eventIndex isSettled]
      rfl
  · exact holds.rest_visited fun _ => pending_of_update
  · intro eventIndex
    dsimp only
    rw [dynamicSpec.mem_iff, List.mem_append, ← or_assoc, holds.ready_erase eventIndex,
      List.mem_filter]
    by_cases member : eventIndex ∈ waiting
    · have notEligible := waitingNotEligible eventIndex member
      have wakesNow := wakes true eventIndex member
      tauto
    · have sameEligible := eligibleOutside eventIndex member
      tauto
  · dsimp only
    have reordered :=
      (List.Perm.refl (loop.stableReadyEvents.erase first)).append dynamicSpec
    rw [reordered.nodup_iff, ← List.append_assoc, List.nodup_append]
    refine ⟨holds.erase_distinct, ?_, ?_⟩
    · rw [isWaiting]
      exact (holds.waitingDistinct first fresh).filter _
    · intro ready inside child member same
      have wasEligible := ((holds.ready_erase ready).mp (List.mem_append.mp inside)).2
      rw [same] at wasEligible
      exact waitingNotEligible child (List.mem_filter.mp member).1 wasEligible
  · intro eventIndex
    dsimp only
    rw [nextSpec.mem_iff, List.mem_append, ← or_assoc, holds.postponed eventIndex,
      List.mem_filter, List.mem_cons]
    by_cases same : eventIndex = first
    · have notWaiting : eventIndex ∉ waiting :=
        fun member => waitingNotFirst eventIndex member same
      rw [same] at notWaiting ⊢
      simp [notWaiting]
    · rw [Function.update_of_ne same]
      by_cases member : eventIndex ∈ waiting
      · have notEligible := waitingNotEligible eventIndex member
        have wakesNext := wakes false eventIndex member
        have isPending := waitingPending eventIndex member
        simp only [Bool.false_eq_true, false_iff] at wakesNext
        tauto
      · have sameEligible := eligibleOutside eventIndex member
        tauto
  · dsimp only
    have reordered :=
      (List.Perm.refl loop.authorizationDeferred).append nextSpec
    rw [reordered.nodup_iff, ← List.append_assoc, List.nodup_append]
    refine ⟨holds.postponedDistinct, ?_, ?_⟩
    · rw [isWaiting]
      exact (holds.waitingDistinct first fresh).filter _
    · intro postponed inside child member same
      have wasEligible := ((holds.postponed postponed).mp (List.mem_append.mp inside)).2.2
      rw [same] at wasEligible
      exact waitingNotEligible child (List.mem_filter.mp member).1 wasEligible
  · intro eventIndex
    dsimp only
    rw [earliestSpec eventIndex]
    by_cases member : eventIndex ∈ waiting
    · rw [if_pos member]
      by_cases inRest : eventIndex ∈ rest
      · exact Or.inl (le_of_eq ((releasedNow eventIndex member).mp inRest))
      · right
        have inside : eventIndex ∉ first :: rest := by
          simp [waitingNotFirst eventIndex member, inRest]
        have earlier :=
          holds.visited eventIndex (waitingPending eventIndex member) inside first
            List.mem_cons_self
        constructor
        · unfold releasedRound
          rw [if_pos (le_of_lt earlier)]
          rcases holds.rounds eventIndex with now | ⟨later, _⟩ <;> omega
        · intro other otherInRest
          exact lt_trans earlier (firstBelow other otherInRest)
    · rw [if_neg member]
      exact holds.rest_rounds eventIndex

/-- The loop after popping the first position. -/
private def popped
    (loop : BatchLoop events.length) (first : Fin events.length) : BatchLoop events.length :=
  { loop with
    stableReadyEvents := loop.stableReadyEvents.erase first
    dynamicallyReadyEvents := loop.dynamicallyReadyEvents.erase first }

/-- What a visit of the first position leads to. -/
private structure Visited
    (conflicts : Fin events.length → Bool) (loop final : BatchLoop events.length)
    (rest : List (Fin events.length)) (state : WorkspaceState)
    (pending : Fin events.length → Bool) (advanced : List (Fin events.length)) : Prop where
  holds : RoundInvariant conflicts final rest
  state : final.state = state
  pending : final.pending = pending
  appliedEvents :
    final.appliedEvents =
      loop.appliedEvents ++ advanced.map fun eventIndex => (events.get eventIndex).eventId
  progressed : final.progressed = (loop.progressed || !advanced.isEmpty)

private theorem visitReady_advance
    (holds : RoundInvariant conflicts loop (first :: rest))
    (eligible : Eligible events conflicts loop.state first)
    (fresh : (events.get first).eventId ∉ loop.state.appliedEventIds)
    {next : WorkspaceState}
    (applied : loop.state.applyReadyEvent (events.get first) = (.ok (), next)) :
    ∃ final, visitReady events conflicts (popped loop first) first = .ok final ∧
      Visited conflicts loop final rest next (Function.update loop.pending first false)
        [first] := by
  have recorded := (applyReadyEvent_ok applied).2.2.2.2.1
  have isPending := holds.restPending first List.mem_cons_self
  have dynamicSorted := holds.dynamicSorted.sublist (@List.erase_sublist _ _ first _)
  cases woken : loop.waitingByParent[(events.get first).eventId]? with
  | none =>
      have noneWaiting : loop.waitingByParent.getD (events.get first).eventId [] = [] := by
        rw [Std.ExtTreeMap.getD_eq_getD_getElem?, woken]
        rfl
      refine ⟨{ popped loop first with
          state := next
          pending := Function.update loop.pending first false
          appliedEvents := loop.appliedEvents ++ [(events.get first).eventId]
          progressed := true }, ?_, ?_, rfl, rfl, rfl, ?_⟩
      · unfold visitReady
        simp only [popped, isPending, fresh, applied, woken]
        rfl
      · exact holds.advance eligible fresh recorded (fun _ _ => rfl) noneWaiting.symm
          (fun other => by simp [popped]) (fun other => by simp [popped]) (by simp) (by simp)
          dynamicSorted holds.nextSorted _
      · simp
  | some waiting =>
      have allWaiting : waiting = loop.waitingByParent.getD (events.get first).eventId [] := by
        rw [Std.ExtTreeMap.getD_eq_getD_getElem?, woken]
        rfl
      have distinct := holds.waitingDistinct first fresh
      rw [← allWaiting] at distinct
      obtain ⟨counts, earliest, dynamic, nextRound, folded, countsSpec, earliestSpec,
        dynamicSpec, nextSpec, dynamicKept, nextKept⟩ :=
        releaseWaiting_fold conflicts first waiting distinct
          { popped loop first with
            state := next
            pending := Function.update loop.pending first false
            appliedEvents := loop.appliedEvents ++ [(events.get first).eventId]
            progressed := true
            waitingByParent := loop.waitingByParent.erase (events.get first).eventId }
      have others :
          ∀ parentId, parentId ≠ (events.get first).eventId →
            (loop.waitingByParent.erase (events.get first).eventId).getD parentId [] =
              loop.waitingByParent.getD parentId [] := by
        intro parentId different
        rw [Std.ExtTreeMap.getD_erase, if_neg]
        rw [Std.LawfulEqCmp.compare_eq_iff_eq]
        exact fun same => different same.symm
      refine ⟨{ popped loop first with
          state := next
          pending := Function.update loop.pending first false
          missingParentCounts := counts
          earliestReadyRounds := earliest
          waitingByParent := loop.waitingByParent.erase (events.get first).eventId
          appliedEvents := loop.appliedEvents ++ [(events.get first).eventId]
          dynamicallyReadyEvents := dynamic
          nextRoundReadyEvents := nextRound
          progressed := true }, ?_, ?_, rfl, rfl, rfl, ?_⟩
      · unfold visitReady
        simp only [popped, isPending, fresh, applied, woken]
        exact congrArg Except.ok folded
      · exact holds.advance eligible fresh recorded others allWaiting countsSpec earliestSpec
          dynamicSpec nextSpec (dynamicKept dynamicSorted) (nextKept holds.nextSorted) _
      · simp

/-- What the attempts of a pass decide at the positions of a batch. -/
private abbrev attemptAt
    (events : List SignedEvent) (conflicting : HashSet ChannelId)
    (state : WorkspaceState) (eventIndex : Fin events.length) :
    Attempt WorkspaceState BatchFailure :=
  scanAttempt conflicting state (events.get eventIndex)

/-- The visit of an eligible position does what the scan attempts there. -/
private theorem visitReady_spec
    {conflicting : HashSet ChannelId}
    (agrees :
      ∀ eventIndex, conflicts eventIndex =
        channelDefinitionConflict conflicting (events.get eventIndex))
    (holds : RoundInvariant conflicts loop (first :: rest))
    (eligible : Eligible events conflicts loop.state first) :
    match attemptAt events conflicting loop.state first with
    | .keep =>
        ∃ final, visitReady events conflicts (popped loop first) first = .ok final ∧
          Visited conflicts loop final rest loop.state loop.pending []
    | .drop =>
        ∃ final, visitReady events conflicts (popped loop first) first = .ok final ∧
          Visited conflicts loop final rest loop.state
            (Function.update loop.pending first false) []
    | .advance next =>
        ∃ final, visitReady events conflicts (popped loop first) first = .ok final ∧
          Visited conflicts loop final rest next
            (Function.update loop.pending first false) [first]
    | .abort failure =>
        visitReady events conflicts (popped loop first) first = .error failure := by
  have isPending := holds.restPending first List.mem_cons_self
  have attempted :
      ¬ (channelDefinitionConflict conflicting (events.get first) = true ∨
        loop.state.unappliedParentIds (events.get first) ≠ []) := by
    rintro (conflict | missing)
    · rw [← agrees, eligible.2] at conflict
      cases conflict
    · exact missing eligible.1
  unfold attemptAt scanAttempt
  rw [if_neg attempted]
  by_cases known : (events.get first).eventId ∈ loop.state.appliedEventIds
  · rw [if_pos known]
    refine ⟨_, ?_, holds.settle eligible, rfl, rfl, ?_, ?_⟩
    · unfold visitReady
      simp only [popped, isPending, known]
      rfl
    · simp
    · simp
  · rw [if_neg known]
    rcases applyReadyEvent_cases loop.state (events.get first) with
      ⟨_, outcome⟩ | ⟨refusal, _, _, outcome⟩ | ⟨next, _, _, outcome⟩
    · rw [outcome]
      unfold visitReady
      simp only [popped, isPending, known, outcome]
      rfl
    · rw [outcome]
      dsimp only
      cases aborts : refusal.abortsBatch with
      | true =>
          unfold visitReady
          simp only [popped, isPending, known, outcome, aborts]
          rfl
      | false =>
          refine ⟨_, ?_, holds.defer eligible, rfl, rfl, ?_, ?_⟩
          · unfold visitReady
            simp only [popped, isPending, known, outcome, aborts]
            rfl
          · simp
          · simp
    · rw [outcome]
      exact visitReady_advance holds eligible known outcome

end Visits

/-! ## Rounds are passes -/

/-- What is left of a loop after a pass over the positions `rest`. -/
private structure Drained
    (conflicts : Fin events.length → Bool) (loop final : BatchLoop events.length)
    (rest : List (Fin events.length)) (scan : Scan WorkspaceState (Fin events.length)) :
    Prop where
  holds : RoundInvariant conflicts final []
  state : final.state = scan.state
  pending :
    ∀ eventIndex, final.pending eventIndex = true ↔
      loop.pending eventIndex = true ∧ eventIndex ∉ rest ∨ eventIndex ∈ scan.kept
  appliedEvents :
    final.appliedEvents =
      loop.appliedEvents ++
        scan.advanced.map fun eventIndex => (events.get eventIndex).eventId
  progressed : final.progressed = (loop.progressed || !scan.advanced.isEmpty)

/-- A visit followed by the rest of the pass. -/
private theorem Drained.of_visited
    {loop visited final : BatchLoop events.length} {first : Fin events.length}
    {rest advanced kept : List (Fin events.length)} {state : WorkspaceState}
    {pending : Fin events.length → Bool} {scan : Scan WorkspaceState (Fin events.length)}
    (outcome : Visited conflicts loop visited rest state pending advanced)
    (left : Drained conflicts visited final rest scan)
    (pendingAfter :
      ∀ eventIndex,
        (pending eventIndex = true ∧ eventIndex ∉ rest ∨ eventIndex ∈ scan.kept) ↔
          loop.pending eventIndex = true ∧ eventIndex ∉ first :: rest ∨ eventIndex ∈ kept) :
    Drained conflicts loop final (first :: rest)
      { state := scan.state
        kept := kept
        advanced := advanced ++ scan.advanced } where
  holds := left.holds
  state := left.state
  pending := by
    intro eventIndex
    rw [left.pending eventIndex, outcome.pending]
    exact pendingAfter eventIndex
  appliedEvents := by
    rw [left.appliedEvents, outcome.appliedEvents, List.append_assoc, ← List.map_append]
  progressed := by
    rw [left.progressed, outcome.progressed]
    cases advanced <;> simp

private theorem popReady_of_done
    {loop : BatchLoop events.length} (holds : RoundInvariant conflicts loop []) :
    popReady loop = none := by
  have stableDone : loop.stableReadyEvents = [] := by
    apply List.eq_nil_iff_forall_not_mem.mpr
    intro eventIndex member
    exact List.not_mem_nil ((holds.ready eventIndex).mp (Or.inl member)).1
  have dynamicDone : loop.dynamicallyReadyEvents = [] := by
    apply List.eq_nil_iff_forall_not_mem.mpr
    intro eventIndex member
    exact List.not_mem_nil ((holds.ready eventIndex).mp (Or.inr member)).1
  unfold popReady
  rw [stableDone, dynamicDone]

/-- The inner loop is one pass over the positions it has still to visit. -/
private theorem drainReady_pass
    {conflicting : HashSet ChannelId}
    (agrees :
      ∀ eventIndex, conflicts eventIndex =
        channelDefinitionConflict conflicting (events.get eventIndex))
    (rest : List (Fin events.length)) (loop : BatchLoop events.length) (fuel : Nat)
    (holds : RoundInvariant conflicts loop rest) (enough : rest.length < fuel) :
    match StableReplay.pass (attemptAt events conflicting) loop.state rest with
    | .error failure => drainReady events conflicts fuel loop = .error failure
    | .ok scan =>
        ∃ final, drainReady events conflicts fuel loop = .ok final ∧
          Drained conflicts loop final rest scan := by
  induction rest generalizing loop fuel with
  | nil =>
      refine ⟨loop, ?_, holds, rfl, ?_, ?_, ?_⟩
      · cases fuel with
        | zero => rfl
        | succ fuel => rw [drainReady, popReady_of_done holds]
      · simp
      · simp
      · simp
  | cons first rest inductionHypothesis =>
      obtain ⟨fuel, rfl⟩ : ∃ smaller, fuel = smaller + 1 :=
        ⟨fuel - 1, by simp only [List.length_cons] at enough; omega⟩
      have restEnough : rest.length < fuel := by
        simpa using enough
      have firstPending := holds.restPending first List.mem_cons_self
      have notInRest := holds.first_notMem
      by_cases eligible : Eligible events conflicts loop.state first
      · have popping : popReady loop = some (first, popped loop first) := holds.pop eligible
        have visit := visitReady_spec agrees holds eligible
        rw [StableReplay.pass, drainReady, popping]
        dsimp only
        cases decision : attemptAt events conflicting loop.state first with
        | keep =>
            rw [decision] at visit
            obtain ⟨visited, finished, outcome⟩ := visit
            have later := inductionHypothesis visited fuel outcome.holds restEnough
            rw [outcome.state] at later
            rw [finished]
            dsimp only
            cases passed : StableReplay.pass (attemptAt events conflicting) loop.state rest with
            | error failure =>
                rw [passed] at later
                exact later
            | ok scan =>
                rw [passed] at later
                obtain ⟨final, drained, left⟩ := later
                refine ⟨final, drained, Drained.of_visited outcome left ?_⟩
                intro eventIndex
                by_cases same : eventIndex = first
                · subst same
                  simp [firstPending, notInRest]
                · simp [same]
        | drop =>
            rw [decision] at visit
            obtain ⟨visited, finished, outcome⟩ := visit
            have later := inductionHypothesis visited fuel outcome.holds restEnough
            rw [outcome.state] at later
            rw [finished]
            dsimp only
            cases passed : StableReplay.pass (attemptAt events conflicting) loop.state rest with
            | error failure =>
                rw [passed] at later
                exact later
            | ok scan =>
                rw [passed] at later
                obtain ⟨final, drained, left⟩ := later
                refine ⟨final, drained, Drained.of_visited outcome left ?_⟩
                intro eventIndex
                by_cases same : eventIndex = first
                · subst same
                  simp
                · simp [same]
        | advance next =>
            rw [decision] at visit
            obtain ⟨visited, finished, outcome⟩ := visit
            have later := inductionHypothesis visited fuel outcome.holds restEnough
            rw [outcome.state] at later
            rw [finished]
            dsimp only
            cases passed : StableReplay.pass (attemptAt events conflicting) next rest with
            | error failure =>
                rw [passed] at later
                exact later
            | ok scan =>
                rw [passed] at later
                obtain ⟨final, drained, left⟩ := later
                refine ⟨final, drained, Drained.of_visited outcome left ?_⟩
                intro eventIndex
                by_cases same : eventIndex = first
                · subst same
                  simp
                · simp [same]
        | abort failure =>
            rw [decision] at visit
            rw [visit]
      · have kept : attemptAt events conflicting loop.state first = .keep := by
          unfold attemptAt scanAttempt
          rw [if_pos]
          rw [← agrees]
          by_contra free
          rw [not_or, not_not] at free
          exact eligible ⟨free.2, Bool.eq_false_iff.mpr free.1⟩
        have later :=
          inductionHypothesis loop (fuel + 1) (holds.skip eligible)
            (Nat.lt_succ_of_lt restEnough)
        rw [StableReplay.pass, kept]
        cases passed : StableReplay.pass (attemptAt events conflicting) loop.state rest with
        | error failure =>
            rw [passed] at later
            exact later
        | ok scan =>
            rw [passed] at later
            obtain ⟨final, drained, left⟩ := later
            refine ⟨final, drained, left.holds, left.state, ?_, left.appliedEvents,
              left.progressed⟩
            intro eventIndex
            rw [left.pending eventIndex]
            by_cases same : eventIndex = first
            · subst same
              simp [firstPending, notInRest]
            · simp [same]

/-- After a pass with progress, the loop is set up for a pass over what it
kept. -/
private theorem nextRound_invariant
    {loop : BatchLoop events.length} {kept : List (Fin events.length)}
    (holds : RoundInvariant conflicts loop []) (sorted : kept.Pairwise (· < ·))
    (exactly : ∀ eventIndex, loop.pending eventIndex = true ↔ eventIndex ∈ kept)
    (progressed : Bool) :
    RoundInvariant conflicts
      { startNextRound loop with
        currentRound := loop.currentRound + 1
        progressed := progressed
        authorizationDeferred := [] }
      kept := by
  have noneReady :
      ∀ eventIndex,
        eventIndex ∉ loop.stableReadyEvents ∧ eventIndex ∉ loop.dynamicallyReadyEvents := by
    intro eventIndex
    rw [← not_or, holds.ready eventIndex]
    simp
  have dynamicDone : loop.dynamicallyReadyEvents = [] :=
    List.eq_nil_iff_forall_not_mem.mpr fun eventIndex => (noneReady eventIndex).2
  exact
    { counts := holds.counts
      waitingDistinct := holds.waitingDistinct
      waitingExact := holds.waitingExact
      settled := holds.settled
      restSorted := sorted
      restPending := fun eventIndex member => (exactly eventIndex).mpr member
      visited := fun eventIndex isPending outside =>
        absurd ((exactly eventIndex).mp isPending) outside
      ready := by
        intro eventIndex
        refine (holds.postponed eventIndex).trans ?_
        simp [exactly, startNextRound]
      readyDistinct := holds.postponedDistinct
      stableSorted := holds.deferredSorted
      dynamicSorted := holds.nextSorted
      postponed := by
        intro eventIndex
        constructor
        · intro member
          simp [startNextRound, dynamicDone] at member
        · rintro ⟨isPending, outside, _⟩
          exact absurd ((exactly eventIndex).mp isPending) outside
      postponedDistinct := by simp [startNextRound, dynamicDone]
      deferredSorted := List.Pairwise.nil
      nextSorted := holds.dynamicSorted
      rounds := by
        intro eventIndex
        left
        rcases holds.rounds eventIndex with now | ⟨later, _⟩
        · exact Nat.le_succ_of_le now
        · exact le_of_eq later }

/-- The outer loop is the sequence of passes over the pending positions. -/
private theorem runRounds_passes
    {conflicting : HashSet ChannelId}
    (agrees :
      ∀ eventIndex, conflicts eventIndex =
        channelDefinitionConflict conflicting (events.get eventIndex))
    (fuel : Nat) (loop : BatchLoop events.length) (kept : List (Fin events.length))
    (holds :
      RoundInvariant conflicts { loop with progressed := false, authorizationDeferred := [] } kept)
    (exactly : ∀ eventIndex, loop.pending eventIndex = true ↔ eventIndex ∈ kept) :
    match passes (attemptAt events conflicting) fuel loop.state kept with
    | .error failure => runRounds events conflicts fuel loop = .error failure
    | .ok scan =>
        ∃ final, runRounds events conflicts fuel loop = .ok final ∧
          final.state = scan.state ∧
            (∀ eventIndex, final.pending eventIndex = true ↔ eventIndex ∈ scan.kept) ∧
              final.appliedEvents =
                loop.appliedEvents ++
                  scan.advanced.map fun eventIndex => (events.get eventIndex).eventId := by
  induction fuel generalizing loop kept with
  | zero => exact ⟨loop, rfl, rfl, exactly, by simp⟩
  | succ fuel inductionHypothesis =>
      have enough : kept.length < events.length + 1 := by
        have distinct : kept.Nodup := holds.restSorted.imp fun below => ne_of_lt below
        have bound := List.Nodup.length_le_card distinct
        rw [Fintype.card_fin] at bound
        omega
      have drained :=
        drainReady_pass agrees kept
          { loop with progressed := false, authorizationDeferred := [] } (events.length + 1)
          holds enough
      rw [passes, runRounds]
      dsimp only at drained
      cases passed : StableReplay.pass (attemptAt events conflicting) loop.state kept with
      | error failure =>
          rw [passed] at drained
          dsimp only at drained ⊢
          rw [drained]
      | ok scan =>
          rw [passed] at drained
          obtain ⟨final, finished, left⟩ := drained
          have pendingAfter :
              ∀ eventIndex, final.pending eventIndex = true ↔ eventIndex ∈ scan.kept := by
            intro eventIndex
            rw [left.pending eventIndex]
            simp [exactly]
          have sorted := holds.restSorted.sublist (pass_kept_sublist passed)
          rw [finished]
          dsimp only
          by_cases stopped : scan.advanced = []
          · have noProgress : final.progressed = false := by
              rw [left.progressed, stopped]
              rfl
            rw [if_pos (List.isEmpty_iff.mpr stopped), if_pos noProgress]
            exact ⟨final, rfl, left.state, pendingAfter, left.appliedEvents⟩
          · have progress : ¬ final.progressed = false := by
              rw [left.progressed]
              simp [stopped]
            rw [if_neg (fun none => stopped (List.isEmpty_iff.mp none)), if_neg progress]
            by_cases idle :
                (startNextRound final).stableReadyEvents.isEmpty = true ∧
                  (startNextRound final).dynamicallyReadyEvents.isEmpty = true
            · -- nothing is ready any more, so the remaining passes move nothing
              rw [if_pos idle]
              have allKept :
                  ∀ eventIndex ∈ scan.kept,
                    attemptAt events conflicting scan.state eventIndex = .keep := by
                intro eventIndex member
                unfold attemptAt scanAttempt
                rw [if_pos]
                rw [← agrees]
                by_contra free
                rw [not_or, not_not] at free
                have postponed :=
                  (left.holds.postponed eventIndex).mpr
                    ⟨(pendingAfter eventIndex).mpr member, List.not_mem_nil,
                      by rw [left.state]; exact free.2, Bool.eq_false_iff.mpr free.1⟩
                rw [List.isEmpty_iff, List.isEmpty_iff] at idle
                simp only [startNextRound] at idle
                rw [idle.1, idle.2] at postponed
                simp at postponed
              rw [passes_of_all_kept fuel allKept]
              refine ⟨startNextRound final, rfl, left.state, pendingAfter, ?_⟩
              dsimp only
              rw [List.append_nil]
              exact left.appliedEvents
            · rw [if_neg idle]
              have later :=
                inductionHypothesis
                  { startNextRound final with currentRound := final.currentRound + 1 } scan.kept
                  (nextRound_invariant left.holds sorted pendingAfter false) pendingAfter
              have sameState :
                  ({ startNextRound final with
                      currentRound := final.currentRound + 1 } : BatchLoop _).state =
                    scan.state := left.state
              rw [sameState] at later
              cases continued : passes (attemptAt events conflicting) fuel scan.state scan.kept with
              | error failure =>
                  rw [continued] at later
                  exact later
              | ok rest =>
                  rw [continued] at later
                  obtain ⟨last, ended, lastState, lastPending, lastApplied⟩ := later
                  refine ⟨last, ended, lastState, lastPending, ?_⟩
                  rw [lastApplied, List.map_append, ← List.append_assoc]
                  exact congrArg (· ++ _) left.appliedEvents

/-- The causal index starts the first round. -/
private theorem startRounds_invariant
    (state : WorkspaceState) (conflicts : Fin events.length → Bool) :
    RoundInvariant conflicts
      { startRounds state events conflicts with
        progressed := false
        authorizationDeferred := [] }
      (List.finRange events.length) := by
  obtain ⟨counts, waiting, ready⟩ :=
    noteEvent_fold events conflicts state
      (Std.ExtTreeSet.ofList (events.map SignedEvent.eventId) compare)
      (List.finRange events.length) (List.nodup_finRange _)
      { missingParentCounts := fun _ => 0
        waitingByParent := ∅
        initiallyReadyEvents := [] }
      (fun _ _ => rfl)
  have waitingAt :
      ∀ eventIndex, (events.get eventIndex).eventId ∉ state.appliedEventIds →
        (causalIndex state events conflicts).waitingByParent.getD
            (events.get eventIndex).eventId [] =
          (List.finRange events.length).filter fun child =>
            decide ((events.get eventIndex).eventId ∈ (events.get child).event.parents) := by
    intro eventIndex unapplied
    have candidate :
        (events.get eventIndex).eventId ∈
          Std.ExtTreeSet.ofList (events.map SignedEvent.eventId) compare := by
      rw [Std.ExtTreeSet.mem_ofList, List.contains_iff_mem]
      exact List.mem_map_of_mem (List.get_mem events eventIndex)
    exact (waiting _ candidate unapplied).trans (by simp)
  have sorted : (List.finRange events.length).Pairwise (· < ·) :=
    List.pairwise_lt_finRange _
  have initially :
      (causalIndex state events conflicts).initiallyReadyEvents =
        (List.finRange events.length).filter fun eventIndex =>
          decide (Eligible events conflicts state eventIndex) :=
    ready.trans (by simp)
  exact
    { counts := by
        intro eventIndex
        refine (counts eventIndex).trans ?_
        rw [if_pos (List.mem_finRange eventIndex)]
        rfl
      waitingDistinct := by
        intro eventIndex unapplied
        dsimp only [startRounds] at unapplied ⊢
        rw [waitingAt eventIndex unapplied]
        exact (List.nodup_finRange _).filter _
      waitingExact := by
        intro eventIndex child unapplied
        dsimp only [startRounds] at unapplied ⊢
        rw [waitingAt eventIndex unapplied]
        simp
      settled := by
        intro eventIndex isSettled
        cases isSettled
      restSorted := sorted
      restPending := fun _ _ => rfl
      visited := fun eventIndex _ outside => absurd (List.mem_finRange eventIndex) outside
      ready := by
        intro eventIndex
        dsimp only [startRounds]
        rw [initially]
        simp
      readyDistinct := by
        dsimp only [startRounds]
        rw [initially, List.append_nil]
        exact (List.nodup_finRange _).filter _
      stableSorted := by
        dsimp only [startRounds]
        rw [initially]
        exact (sorted.imp fun below => le_of_lt below).sublist List.filter_sublist
      dynamicSorted := List.Pairwise.nil
      postponed := by
        intro eventIndex
        simp [startRounds]
      postponedDistinct := List.nodup_nil
      deferredSorted := List.Pairwise.nil
      nextSorted := List.Pairwise.nil
      rounds := fun _ => Or.inl (Nat.le_refl 0) }

end Rounds

/-- Indexed materialization is the stable replay, for every state and every
batch. -/
theorem applyBatch_eq_scanBatch (state : WorkspaceState) (events : List SignedEvent) :
    state.applyBatch events = state.scanBatch events := by
  unfold applyBatch scanBatch
  cases state.validateBatch events with
  | error raised => rfl
  | ok done =>
      dsimp only
      have rounds :=
        @runRounds_passes events _ (conflictingChannelIds events) (fun _ => rfl)
          (events.length + 1)
          (startRounds state events fun eventIndex =>
            channelDefinitionConflict (conflictingChannelIds events) (events.get eventIndex))
          (List.finRange events.length) (startRounds_invariant state _)
          (fun eventIndex => by simp [startRounds])
      have replayed :=
        @replay_map _ _ _ _ (scanAttempt (conflictingChannelIds events)) events.get state
          (List.finRange events.length)
      rw [List.map_get_finRange] at replayed
      rw [replayed]
      have enough :
          passes (attemptAt events (conflictingChannelIds events)) (events.length + 1) state
              (List.finRange events.length) =
            replay (attemptAt events (conflictingChannelIds events)) state
              (List.finRange events.length) := by
        rw [replay, List.length_finRange]
      rw [show (startRounds state events _).state = state from rfl, enough] at rounds
      cases scanned :
          replay (attemptAt events (conflictingChannelIds events)) state
            (List.finRange events.length) with
      | error failure =>
          rw [scanned] at rounds
          dsimp only at rounds
          simp only [rounds, Except.map]
      | ok scan =>
          rw [scanned] at rounds
          obtain ⟨final, ran, finalState, finalPending, finalApplied⟩ := rounds
          have stillPending :
              (List.finRange events.length).filter final.pending = scan.kept := by
            have sorted := List.pairwise_lt_finRange events.length
            have keptSorted := sorted.sublist (replay_kept_sublist scanned)
            apply (sorted.sublist List.filter_sublist).eq_of_mem_iff keptSorted
            intro eventIndex
            simp [finalPending]
          simp only [ran, Except.map, stillPending, finalState, finalApplied]
          simp [scanReport, Scan.map, startRounds, Function.comp_def]

end WorkspaceState

end Chaft

import Mathlib.Data.Finset.Card
import Chaft.Core.ApplyBatch
import Chaft.Core.StateEffects

/-!
# What a batch is for

`scanBatch` says what a batch is for: attempt the pending events in input
order, pass after pass, until nothing moves.  An event is kept while it
creates a disputed channel or has an unapplied parent, and is dropped once its
ID is applied.
-/

namespace Chaft

open Keyed Outcome StableReplay

/-! ## Disputed channels -/

/-- The event creates the channel. -/
def CreatesChannel (event : SignedEvent) (channelId : ChannelId) : Prop :=
  createdChannelId event.event.body = some channelId

instance (event : SignedEvent) (channelId : ChannelId) :
    Decidable (CreatesChannel event channelId) :=
  inferInstanceAs (Decidable (_ = _))

/-- Two events of the list with different IDs create the channel. -/
def DisputedChannel (events : List SignedEvent) (channelId : ChannelId) : Prop :=
  ∃ first ∈ events, ∃ second ∈ events,
    CreatesChannel first channelId ∧ CreatesChannel second channelId ∧
      first.eventId ≠ second.eventId

/-- What the loop over the creation events knows after a list of events. -/
private structure NotedCreations
    (events : List SignedEvent) (seen : ChannelCreations) : Prop where
  recorded :
    ∀ channelId eventId, seen.channelCreationEventIds[channelId]? = some eventId →
      ∃ event ∈ events, CreatesChannel event channelId ∧ event.eventId = eventId
  known :
    ∀ event ∈ events, ∀ channelId, CreatesChannel event channelId →
      ∃ eventId, seen.channelCreationEventIds[channelId]? = some eventId
  conflicting :
    ∀ channelId, channelId ∈ seen.conflictingChannelIds ↔
      ∃ event ∈ events, CreatesChannel event channelId ∧
        seen.channelCreationEventIds[channelId]? ≠ some event.eventId

private theorem noteChannelCreation_noted
    {events : List SignedEvent} {seen : ChannelCreations} (event : SignedEvent)
    (noted : NotedCreations events seen) :
    NotedCreations (events ++ [event]) (noteChannelCreation seen event) := by
  obtain ⟨recorded, known, conflicting⟩ := noted
  unfold noteChannelCreation
  cases created : createdChannelId event.event.body with
  | none =>
      constructor
      · grind [CreatesChannel]
      · grind [CreatesChannel]
      · grind [CreatesChannel]
  | some channelId =>
      dsimp only
      cases existing : seen.channelCreationEventIds[channelId]? with
      | none =>
          constructor
          · grind [CreatesChannel]
          · intro tested member testedId creates
            simp only [Std.ExtTreeMap.getElem?_insert, Std.LawfulEqCmp.compare_eq_iff_eq]
            by_cases same : channelId = testedId
            · exact ⟨event.eventId, by simp [same]⟩
            · rcases List.mem_append.mp member with earlier | isEvent
              · simpa [same] using known tested earlier testedId creates
              · rw [List.mem_singleton.mp isEvent, CreatesChannel, created] at creates
                exact absurd (Option.some.inj creates) same
          · grind [CreatesChannel]
      | some existingEventId =>
          dsimp only
          split
          · constructor
            · grind [CreatesChannel]
            · grind [CreatesChannel]
            · grind [CreatesChannel]
          · constructor
            · grind [CreatesChannel]
            · grind [CreatesChannel]
            · grind [CreatesChannel]

private theorem foldl_noteChannelCreation_noted
    (events earlier : List SignedEvent) (seen : ChannelCreations)
    (noted : NotedCreations earlier seen) :
    NotedCreations (earlier ++ events) (events.foldl noteChannelCreation seen) := by
  induction events generalizing earlier seen with
  | nil => simpa using noted
  | cons event rest inductionHypothesis =>
      have later := inductionHypothesis _ _ (noteChannelCreation_noted event noted)
      simpa using later

/-- The conflicting channel IDs are the disputed ones. -/
theorem mem_conflictingChannelIds_iff (events : List SignedEvent) (channelId : ChannelId) :
    channelId ∈ conflictingChannelIds events ↔ DisputedChannel events channelId := by
  have noted :=
    foldl_noteChannelCreation_noted events [] ⟨∅, ∅⟩
      ⟨by simp, by simp, by simp⟩
  rw [List.nil_append] at noted
  rw [conflictingChannelIds, noted.conflicting channelId]
  constructor
  · rintro ⟨second, secondMember, secondCreates, different⟩
    obtain ⟨eventId, first⟩ := noted.known second secondMember channelId secondCreates
    obtain ⟨event, member, creates, same⟩ := noted.recorded channelId eventId first
    refine ⟨event, member, second, secondMember, creates, secondCreates, ?_⟩
    intro equal
    rw [first, ← same, equal] at different
    exact different rfl
  · rintro ⟨first, firstMember, second, secondMember, firstCreates, secondCreates, different⟩
    by_cases isFirst :
        (events.foldl noteChannelCreation ⟨∅, ∅⟩).channelCreationEventIds[channelId]? =
          some first.eventId
    · refine ⟨second, secondMember, secondCreates, ?_⟩
      rw [isFirst]
      exact fun same => different (Option.some.inj same)
    · exact ⟨first, firstMember, firstCreates, isFirst⟩

theorem channelDefinitionConflict_iff (events : List SignedEvent) (event : SignedEvent) :
    channelDefinitionConflict (conflictingChannelIds events) event = true ↔
      ∃ channelId, CreatesChannel event channelId ∧ DisputedChannel events channelId := by
  unfold channelDefinitionConflict CreatesChannel
  cases createdChannelId event.event.body with
  | none => simp
  | some channelId => simp [mem_conflictingChannelIds_iff]

namespace WorkspaceState

/-- What one pass decides about an event. -/
def scanAttempt
    (conflicting : HashSet ChannelId) (state : WorkspaceState) (event : SignedEvent) :
    Attempt WorkspaceState BatchFailure :=
  if channelDefinitionConflict conflicting event = true ∨
      state.unappliedParentIds event ≠ [] then
    .keep
  else if event.eventId ∈ state.appliedEventIds then
    .drop
  else
    match state.applyReadyEvent event with
    | (.ok (), next) => .advance next
    | (.error (.authorization refusal), left) =>
        if refusal.abortsBatch then .abort (.authorization refusal, left) else .keep
    | (.error raised, left) => .abort (raised, left)

def scanReport (scan : Scan WorkspaceState SignedEvent) : MaterializationReport where
  appliedEvents := scan.advanced.map SignedEvent.eventId
  gaps := scan.kept.map (gapOf scan.state)

/-- The stable replay of a batch. -/
def scanBatch
    (state : WorkspaceState) (events : List SignedEvent) :
    Except CoreError MaterializationReport × WorkspaceState :=
  match state.validateBatch events with
  | .error raised => (.error raised, state)
  | .ok () =>
      match replay (scanAttempt (conflictingChannelIds events)) state events with
      | .error (raised, failed) => (.error raised, failed)
      | .ok scan => (.ok (scanReport scan), scan.state)

theorem validateBatch_eq_ok_iff (state : WorkspaceState) (events : List SignedEvent) :
    state.validateBatch events = .ok () ↔
      ∀ event ∈ events,
        validateSignedEventIds event = .ok () ∧
          event.event.workspaceId = state.workspaceId := by
  unfold validateBatch
  rw [checkAll_eq_ok_iff]
  apply forall₂_congr
  intro event _
  cases validateSignedEventIds event <;> simp [Except.mapError, Unique.exists_iff]

/-- An advance of the replay is an accepted event. -/
theorem scanAttempt_eq_advance_iff
    (conflicting : HashSet ChannelId) (state next : WorkspaceState) (event : SignedEvent) :
    scanAttempt conflicting state event = .advance next ↔
      channelDefinitionConflict conflicting event = false ∧
        state.unappliedParentIds event = [] ∧ event.eventId ∉ state.appliedEventIds ∧
          state.applyReadyEvent event = (.ok (), next) := by
  unfold scanAttempt
  split
  · rename_i held
    simp only [reduceCtorEq, false_iff]
    rintro ⟨undisputed, noneMissing, -⟩
    rcases held with disputed | missing
    · rw [undisputed] at disputed
      cases disputed
    · exact missing noneMissing
  · rename_i free
    rw [not_or, not_not] at free
    split
    · rename_i known
      simp [known]
    · rename_i unknown
      rcases applyReadyEvent_cases state event with
        ⟨_, outcome⟩ | ⟨refusal, _, _, outcome⟩ | ⟨reached, _, _, outcome⟩
      · simp [outcome]
      · rw [outcome]
        dsimp only
        split <;> simp
      · simp [outcome, free.1, free.2, unknown]

/-! ## Runs of a batch -/

/-- What the advances of a batch add to the applied IDs. -/
structure AppliedAlong
    (state : WorkspaceState) (applied : List SignedEvent) (final : WorkspaceState) :
    Prop where
  noRepeats : (applied.map SignedEvent.eventId).Nodup
  newIds : ∀ event ∈ applied, event.eventId ∉ state.appliedEventIds
  appliedIds :
    ∀ eventId, eventId ∈ final.appliedEventIds ↔
      eventId ∈ state.appliedEventIds ∨ eventId ∈ applied.map SignedEvent.eventId
  causalOrder :
    ∀ earlier event later, applied = earlier ++ event :: later →
      ∀ parentId ∈ event.event.parents,
        parentId ∈ state.appliedEventIds ∨ parentId ∈ earlier.map SignedEvent.eventId
  sameWorkspace : final.workspaceId = state.workspaceId

theorem appliedAlong_of_advances
    {conflicting : HashSet ChannelId} {state final : WorkspaceState}
    {applied : List SignedEvent}
    (ran : Advances (scanAttempt conflicting) state applied final) :
    AppliedAlong state applied final := by
  induction ran with
  | done state =>
      exact
        { noRepeats := List.nodup_nil
          newIds := by simp
          appliedIds := by simp
          causalOrder := by simp
          sameWorkspace := rfl }
  | @next state middle final event rest advanced _ inductionHypothesis =>
      obtain ⟨-, noneMissing, unapplied, applied⟩ :=
        (scanAttempt_eq_advance_iff _ _ _ _).mp advanced
      obtain ⟨-, -, sameWorkspace, -, recorded, -⟩ := applyReadyEvent_ok applied
      have memMiddle :
          ∀ eventId, eventId ∈ middle.appliedEventIds ↔
            event.eventId = eventId ∨ eventId ∈ state.appliedEventIds := by
        intro eventId
        rw [recorded, Std.ExtTreeSet.mem_insert, Std.LawfulEqCmp.compare_eq_iff_eq]
      have parentsApplied := (unappliedParentIds_eq_nil_iff state event).mp noneMissing
      refine
        { noRepeats := ?_
          newIds := ?_
          appliedIds := ?_
          causalOrder := ?_
          sameWorkspace := by rw [inductionHypothesis.sameWorkspace, sameWorkspace] }
      · rw [List.map_cons, List.nodup_cons]
        refine ⟨?_, inductionHypothesis.noRepeats⟩
        intro repeated
        obtain ⟨other, member, same⟩ := List.mem_map.mp repeated
        apply inductionHypothesis.newIds other member
        rw [memMiddle, same]
        exact Or.inl rfl
      · intro other member
        rcases List.mem_cons.mp member with same | later
        · rw [same]
          exact unapplied
        · intro known
          exact inductionHypothesis.newIds other later ((memMiddle _).mpr (Or.inr known))
      · intro eventId
        rw [inductionHypothesis.appliedIds, memMiddle, List.map_cons, List.mem_cons]
        tauto
      · intro earlier other later split parentId isParent
        cases earlier with
        | nil =>
            cases split
            exact Or.inl (parentsApplied parentId isParent)
        | cons first others =>
            rw [List.cons_append, List.cons.injEq] at split
            rcases inductionHypothesis.causalOrder others other later split.2 parentId
                isParent with before | inOthers
            · rcases (memMiddle parentId).mp before with isEvent | known
              · right
                rw [← split.1, List.map_cons, isEvent]
                exact List.mem_cons_self
              · exact Or.inl known
            · right
              rw [List.map_cons]
              exact List.mem_cons_of_mem _ inOthers

/-- Applied IDs stay applied. -/
theorem appliedEventIds_of_advances
    {conflicting : HashSet ChannelId} {state final : WorkspaceState}
    {applied : List SignedEvent}
    (ran : Advances (scanAttempt conflicting) state applied final) {eventId : EventId}
    (known : eventId ∈ state.appliedEventIds) :
    eventId ∈ final.appliedEventIds :=
  ((appliedAlong_of_advances ran).appliedIds eventId).mpr (Or.inl known)

theorem scanAttempt_eq_drop_iff
    (conflicting : HashSet ChannelId) (state : WorkspaceState) (event : SignedEvent) :
    scanAttempt conflicting state event = .drop ↔
      channelDefinitionConflict conflicting event = false ∧
        state.unappliedParentIds event = [] ∧ event.eventId ∈ state.appliedEventIds := by
  unfold scanAttempt
  split
  · rename_i held
    simp only [reduceCtorEq, false_iff]
    rintro ⟨undisputed, noneMissing, -⟩
    rcases held with disputed | missing
    · rw [undisputed] at disputed
      cases disputed
    · exact missing noneMissing
  · rename_i free
    rw [not_or, not_not] at free
    split
    · rename_i known
      simp [free.1, free.2, known]
    · rename_i unknown
      rcases applyReadyEvent_cases state event with
        ⟨_, outcome⟩ | ⟨refusal, _, _, outcome⟩ | ⟨reached, _, _, outcome⟩
      · simp [outcome, unknown]
      · rw [outcome]
        dsimp only
        split <;> simp [unknown]
      · simp [outcome, unknown]

/-- An event of the workspace is kept when it is disputed, misses a parent, or
is new and refused for a reason that only defers it. -/
theorem scanAttempt_eq_keep_iff
    (conflicting : HashSet ChannelId) (state : WorkspaceState) (event : SignedEvent) :
    scanAttempt conflicting state event = .keep ↔
      channelDefinitionConflict conflicting event = true ∨
        state.unappliedParentIds event ≠ [] ∨
          event.eventId ∉ state.appliedEventIds ∧
            event.event.workspaceId = state.workspaceId ∧
              ∃ refusal, state.accessIndex.authorize event = .error refusal ∧
                refusal.abortsBatch = false := by
  unfold scanAttempt
  split
  · rename_i held
    simp only [true_iff]
    rcases held with disputed | missing
    · exact Or.inl disputed
    · exact Or.inr (Or.inl missing)
  · rename_i free
    rw [not_or, not_not] at free
    split
    · rename_i known
      simp [free.1, free.2, known]
    · rename_i unknown
      rcases applyReadyEvent_cases state event with
        ⟨other, outcome⟩ | ⟨refusal, sameWorkspace, refused, outcome⟩ |
          ⟨reached, sameWorkspace, authorized, outcome⟩
      · simp [outcome, free.1, free.2, other]
      · rw [outcome]
        dsimp only
        cases aborts : refusal.abortsBatch <;>
          simp [free.1, free.2, unknown, sameWorkspace, refused, aborts]
      · simp [outcome, free.1, free.2, authorized]

/-! ## Missing parents -/

/-- The distinct unapplied parents of an event. -/
def missingParents (state : WorkspaceState) (event : SignedEvent) : Finset EventId :=
  event.event.parents.toFinset.filter fun parentId => parentId ∉ state.appliedEventIds

theorem mem_missingParents
    (state : WorkspaceState) (event : SignedEvent) (parentId : EventId) :
    parentId ∈ state.missingParents event ↔
      parentId ∈ event.event.parents ∧ parentId ∉ state.appliedEventIds := by
  simp [missingParents]

theorem missingParents_eq_empty_iff (state : WorkspaceState) (event : SignedEvent) :
    state.missingParents event = ∅ ↔ state.unappliedParentIds event = [] := by
  rw [unappliedParentIds_eq_nil_iff, Finset.eq_empty_iff_forall_notMem]
  simp only [mem_missingParents]
  constructor
  · intro none parentId member
    by_contra unapplied
    exact none parentId ⟨member, unapplied⟩
  · intro applied parentId missing
    exact missing.2 (applied parentId missing.1)

theorem missingParents_of_applied
    {state next : WorkspaceState} {appliedId : EventId}
    (recorded : next.appliedEventIds = state.appliedEventIds.insert appliedId)
    (event : SignedEvent) :
    next.missingParents event = (state.missingParents event).erase appliedId := by
  ext parentId
  rw [Finset.mem_erase, mem_missingParents, mem_missingParents, recorded,
    Std.ExtTreeSet.mem_insert, Std.LawfulEqCmp.compare_eq_iff_eq]
  tauto

end WorkspaceState

end Chaft

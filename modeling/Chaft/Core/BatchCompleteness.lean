import Chaft.Core.Reachable

/-!
# Batches are complete

What a successful batch promises about its report: the applied IDs are the new
ones and come in causal order, the gaps are the input events that are still
unapplied, in input order, and nothing in the gaps could be applied any more.

One kind of batch breaks the promise.  A creation event that the state has
already applied, offered again next to a rival for the same channel ID, is
never visited, and is reported as a gap although it is applied.
-/

namespace Chaft

open Keyed Outcome StableReplay Transition

namespace WorkspaceState

/-- Nothing can apply the event in the state: a parent is missing, a rival in
the batch disputes the channel it creates, or authorization refuses it. -/
def Stuck (events : List SignedEvent) (state : WorkspaceState) (event : SignedEvent) : Prop :=
  (∃ parentId ∈ event.event.parents, parentId ∉ state.appliedEventIds) ∨
    (∃ channelId, CreatesChannel event channelId ∧
      ∃ rival ∈ events, CreatesChannel rival channelId ∧ rival.eventId ≠ event.eventId) ∨
      ∃ refusal, state.accessIndex.authorize event = .error refusal

/-- The report of a batch is complete. -/
structure CompleteReport
    (state : WorkspaceState) (events : List SignedEvent) (report : MaterializationReport)
    (final : WorkspaceState) : Prop where
  noRepeats : report.appliedEvents.Nodup
  newIds :
    ∀ eventId ∈ report.appliedEvents, eventId ∉ state.appliedEventIds
  appliedIds :
    ∀ eventId, eventId ∈ final.appliedEventIds ↔
      eventId ∈ state.appliedEventIds ∨ eventId ∈ report.appliedEvents
  causalOrder :
    ∀ earlier eventId later, report.appliedEvents = earlier ++ eventId :: later →
      (∃ event ∈ events, event.eventId = eventId) ∧
        ∀ event ∈ events, event.eventId = eventId →
          ∀ parentId ∈ event.event.parents,
            parentId ∈ state.appliedEventIds ∨ parentId ∈ earlier
  gapsInOrder :
    report.gaps =
      (events.filter fun event => decide (event.eventId ∉ final.appliedEventIds)).map
        (gapOf final)
  stuck :
    ∀ event ∈ events, event.eventId ∉ final.appliedEventIds → Stuck events final event

/-- No event of the batch that the state has already applied creates a channel
that another event of the batch creates too. -/
def NoAppliedRival (state : WorkspaceState) (events : List SignedEvent) : Prop :=
  ∀ event ∈ events, event.eventId ∈ state.appliedEventIds →
    ∀ channelId, CreatesChannel event channelId →
      ∀ rival ∈ events, CreatesChannel rival channelId → rival.eventId = event.eventId

/-- Equal IDs belong to identical events, as they do where IDs are hashes. -/
def Identified (events : List SignedEvent) : Prop :=
  ∀ first ∈ events, ∀ second ∈ events, first.eventId = second.eventId → first = second

instance (events : List SignedEvent) : Decidable (Identified events) :=
  inferInstanceAs
    (Decidable
      (∀ first ∈ events, ∀ second ∈ events, first.eventId = second.eventId → first = second))

section Replays

variable {workspaceId : WorkspaceId} {history events : List SignedEvent}
  {state : WorkspaceState} {scan : Scan WorkspaceState SignedEvent}

/-- An event of the batch that is applied at the end was applied before the batch
or advanced it. -/
private theorem history_or_advanced
    (reached : Reachable workspaceId history state)
    (identified : Identified (history ++ events))
    (scanned : replay (scanAttempt (conflictingChannelIds events)) state events = .ok scan)
    {event : SignedEvent} (member : event ∈ events)
    (known : event.eventId ∈ scan.state.appliedEventIds) :
    event ∈ history ∧ event.eventId ∈ state.appliedEventIds ∨ event ∈ scan.advanced := by
  have along := appliedAlong_of_advances (replay_advances scanned)
  rcases (along.appliedIds event.eventId).mp known with before | inBatch
  · left
    obtain ⟨absorbed, inHistory, same⟩ :=
      List.mem_map.mp ((reached.ledger.mem_appliedEventIds event.eventId).mp before)
    have identical :=
      identified absorbed (List.mem_append_left events inHistory) event
        (List.mem_append_right history member) same
    exact ⟨identical ▸ inHistory, before⟩
  · right
    obtain ⟨applied, isAdvanced, same⟩ := List.mem_map.mp inBatch
    have identical :=
      identified applied
        (List.mem_append_right history (replay_advanced_subset scanned isAdvanced)) event
        (List.mem_append_right history member) same
    exact identical ▸ isAdvanced

private theorem undisputed_of_advanced
    (scanned : replay (scanAttempt (conflictingChannelIds events)) state events = .ok scan)
    {event : SignedEvent} (isAdvanced : event ∈ scan.advanced) :
    channelDefinitionConflict (conflictingChannelIds events) event = false := by
  obtain ⟨_, _, _, _, _, _, advanced, _⟩ :=
    (replay_advances scanned).exists_step isAdvanced
  exact ((scanAttempt_eq_advance_iff _ _ _ _).mp advanced).1

/-- The parents of an applied event of the batch are applied at the end. -/
private theorem parents_applied
    (reached : Reachable workspaceId history state)
    (identified : Identified (history ++ events))
    (scanned : replay (scanAttempt (conflictingChannelIds events)) state events = .ok scan)
    {event : SignedEvent} (member : event ∈ events)
    (known : event.eventId ∈ scan.state.appliedEventIds) :
    scan.state.unappliedParentIds event = [] := by
  rw [unappliedParentIds_eq_nil_iff]
  intro parentId isParent
  have along := appliedAlong_of_advances (replay_advances scanned)
  rcases history_or_advanced reached identified scanned member known with
    ⟨inHistory, _⟩ | isAdvanced
  · exact (along.appliedIds parentId).mpr
      (Or.inl (reached.ledger.parentsApplied event inHistory parentId isParent))
  · obtain ⟨earlier, later, split⟩ := List.append_of_mem isAdvanced
    rcases along.causalOrder earlier event later split parentId isParent with before | inBatch
    · exact (along.appliedIds parentId).mpr (Or.inl before)
    · rw [along.appliedIds, split, List.map_append]
      exact Or.inr (List.mem_append_left _ inBatch)

/-- Without an applied rival, a kept event is unapplied. -/
private theorem unapplied_of_kept
    (reached : Reachable workspaceId history state)
    (identified : Identified (history ++ events))
    (scanned : replay (scanAttempt (conflictingChannelIds events)) state events = .ok scan)
    (noRival : NoAppliedRival state events)
    {event : SignedEvent} (kept : event ∈ scan.kept) :
    event.eventId ∉ scan.state.appliedEventIds := by
  intro known
  have member := (replay_kept_sublist scanned).subset kept
  rcases (scanAttempt_eq_keep_iff _ _ _).mp (replay_fixpoint scanned event kept) with
    disputed | missing | ⟨unknown, _⟩
  · rcases history_or_advanced reached identified scanned member known with
      ⟨_, before⟩ | isAdvanced
    · obtain ⟨channelId, creates, first, firstMember, second, secondMember, firstCreates,
        secondCreates, different⟩ := (channelDefinitionConflict_iff events event).mp disputed
      have firstSame := noRival event member before channelId creates first firstMember firstCreates
      have secondSame :=
        noRival event member before channelId creates second secondMember secondCreates
      exact different (firstSame.trans secondSame.symm)
    · rw [undisputed_of_advanced scanned isAdvanced] at disputed
      cases disputed
  · exact missing (parents_applied reached identified scanned member known)
  · exact unknown known

/-- Whatever advanced or was dropped is applied at the end. -/
theorem applied_of_settled
    (scanned : replay (scanAttempt (conflictingChannelIds events)) state events = .ok scan)
    {event : SignedEvent}
    (settled :
      event ∈ scan.advanced ∨
        DroppedAlong (scanAttempt (conflictingChannelIds events)) state scan.advanced
          scan.state event) :
    event.eventId ∈ scan.state.appliedEventIds := by
  have along := appliedAlong_of_advances (replay_advances scanned)
  rcases settled with isAdvanced | ⟨middle, _, _, _, _, dropped, toFinal⟩
  · exact (along.appliedIds event.eventId).mpr (Or.inr (List.mem_map_of_mem isAdvanced))
  · exact appliedEventIds_of_advances toFinal ((scanAttempt_eq_drop_iff _ _ _).mp dropped).2.2

private theorem completeReport_of_noRival
    (reached : Reachable workspaceId history state)
    (identified : Identified (history ++ events))
    (scanned : replay (scanAttempt (conflictingChannelIds events)) state events = .ok scan)
    (noRival : NoAppliedRival state events) :
    CompleteReport state events (scanReport scan) scan.state := by
  have along := appliedAlong_of_advances (replay_advances scanned)
  have keptUnapplied :
      scan.kept.filter (fun event => decide (event.eventId ∉ scan.state.appliedEventIds)) =
        scan.kept := by
    rw [List.filter_eq_self]
    intro event kept
    exact decide_eq_true (unapplied_of_kept reached identified scanned noRival kept)
  have keptExactly :
      events.filter (fun event => decide (event.eventId ∉ scan.state.appliedEventIds)) =
        scan.kept := by
    rw [← keptUnapplied]
    refine (replay_kept_filter _ scanned ?_).symm
    intro event settled
    simpa using applied_of_settled scanned settled
  refine
    { noRepeats := along.noRepeats
      newIds := ?_
      appliedIds := along.appliedIds
      causalOrder := ?_
      gapsInOrder := ?_
      stuck := ?_ }
  · intro eventId listed
    obtain ⟨event, isAdvanced, same⟩ := List.mem_map.mp listed
    rw [← same]
    exact along.newIds event isAdvanced
  · intro earlier eventId later split
    obtain ⟨before, rest, whole, sameBefore, sameRest⟩ := List.map_eq_append_iff.mp split
    obtain ⟨event, after, sameList, sameId, -⟩ := List.map_eq_cons_iff.mp sameRest
    rw [sameList] at whole
    have isAdvanced : event ∈ scan.advanced := by
      rw [whole]
      simp
    have member := replay_advanced_subset scanned isAdvanced
    refine ⟨⟨event, member, sameId⟩, ?_⟩
    intro other otherMember otherId parentId isParent
    have identical :=
      identified other (List.mem_append_right history otherMember) event
        (List.mem_append_right history member) (otherId.trans sameId.symm)
    rw [identical] at isParent
    rw [← sameBefore]
    exact along.causalOrder before event after whole parentId isParent
  · rw [keptExactly]
    rfl
  · intro event member unapplied
    have kept : event ∈ scan.kept := by
      rw [← keptExactly, List.mem_filter]
      exact ⟨member, decide_eq_true unapplied⟩
    rcases (scanAttempt_eq_keep_iff _ _ _).mp (replay_fixpoint scanned event kept) with
      disputed | missing | ⟨_, _, refusal, refused, _⟩
    · obtain ⟨channelId, creates, first, firstMember, second, secondMember, firstCreates,
        secondCreates, different⟩ := (channelDefinitionConflict_iff events event).mp disputed
      refine Or.inr (Or.inl ⟨channelId, creates, ?_⟩)
      by_cases same : first.eventId = event.eventId
      · exact ⟨second, secondMember, secondCreates, fun equal => different (same.trans equal.symm)⟩
      · exact ⟨first, firstMember, firstCreates, same⟩
    · left
      rw [ne_eq, unappliedParentIds_eq_nil_iff, not_forall] at missing
      obtain ⟨parentId, isMissing⟩ := missing
      rw [Classical.not_imp] at isMissing
      exact ⟨parentId, isMissing⟩
    · exact Or.inr (Or.inr ⟨refusal, refused⟩)

private theorem noRival_of_completeReport
    (scanned : replay (scanAttempt (conflictingChannelIds events)) state events = .ok scan)
    (complete : CompleteReport state events (scanReport scan) scan.state) :
    NoAppliedRival state events := by
  intro event member known channelId creates rival rivalMember rivalCreates
  by_contra different
  have disputed :
      channelDefinitionConflict (conflictingChannelIds events) event = true := by
    rw [channelDefinitionConflict_iff]
    exact ⟨channelId, creates, rival, rivalMember, event, member, rivalCreates, creates, different⟩
  have kept : event ∈ scan.kept := by
    rcases replay_mem scanned member with kept | isAdvanced | ⟨_, _, _, _, _, dropped, _⟩
    · exact kept
    · rw [undisputed_of_advanced scanned isAdvanced] at disputed
      cases disputed
    · rw [((scanAttempt_eq_drop_iff _ _ _).mp dropped).1] at disputed
      cases disputed
  -- the gap of the applied event is reported, but only unapplied events may be
  have reported : gapOf scan.state event ∈ (scanReport scan).gaps :=
    List.mem_map_of_mem kept
  rw [complete.gapsInOrder] at reported
  obtain ⟨other, isUnapplied, sameGap⟩ := List.mem_map.mp reported
  have sameId : other.eventId = event.eventId := congrArg MissingHistoryGap.eventId sameGap
  have unapplied := of_decide_eq_true (List.mem_filter.mp isUnapplied).2
  rw [sameId] at unapplied
  exact unapplied (appliedEventIds_of_advances (replay_advances scanned) known)

end Replays

/-- A successful batch on a reachable state has a complete report if and only if
no event that the state has already applied is disputed by the batch. -/
theorem applyBatch_complete_iff
    (workspaceId : WorkspaceId) (history : List SignedEvent) (state : WorkspaceState)
    (reached : Reachable workspaceId history state)
    (events : List SignedEvent) (identified : Identified (history ++ events))
    (report : MaterializationReport) (final : WorkspaceState)
    (accepted : state.applyBatch events = (.ok report, final)) :
    CompleteReport state events report final ↔ NoAppliedRival state events := by
  obtain ⟨-, scan, scanned, rfl, rfl⟩ := replay_of_applyBatch accepted
  exact ⟨noRival_of_completeReport scanned,
    completeReport_of_noRival reached identified scanned⟩

/-- A channel of the workspace, and a rival definition of it. -/
def rivalHistory : List SignedEvent :=
  [draftEvent "e0" "root" none [] (.workspaceCreated "home"),
    draftEvent "e1" "root" none ["e0"] (.channelCreated ⟨"general"⟩ "general" false)]

def rivalBatch : List SignedEvent :=
  [draftEvent "e1" "root" none ["e0"] (.channelCreated ⟨"general"⟩ "general" false),
    draftEvent "e2" "root" none ["e0"] (.channelCreated ⟨"general"⟩ "rival" true)]

/-- The channel alone, offered again, is dropped. -/
theorem applyBatch_complete_iff_rivalHistory :
    CompleteReport (stateAfter rivalHistory) rivalHistory
      { appliedEvents := [], gaps := [] }
      ((stateAfter rivalHistory).applyBatch rivalHistory).2 := by
  refine (applyBatch_complete_iff ⟨"w"⟩ rivalHistory (stateAfter rivalHistory)
    (stateAfter_reachable (by decide +kernel)) rivalHistory (by decide +kernel) _ _
    (Prod.ext (by decide +kernel) rfl)).mpr ?_
  intro event member _ channelId creates rival rivalMember rivalCreates
  rcases List.mem_pair.mp member with first | second
  · rw [first] at creates
    cases creates
  · rcases List.mem_pair.mp rivalMember with rivalFirst | rivalSecond
    · rw [rivalFirst] at rivalCreates
      cases rivalCreates
    · rw [second, rivalSecond]

/-- With its rival in the batch, the applied channel definition is reported as a
gap. -/
theorem applyBatch_not_complete :
    ¬ ∀ (workspaceId : WorkspaceId) (history : List SignedEvent) (state : WorkspaceState),
      Reachable workspaceId history state →
        ∀ events, Identified (history ++ events) →
          ∀ report final, state.applyBatch events = (.ok report, final) →
            CompleteReport state events report final := by
  intro complete
  have reported :
      (stateAfter rivalHistory).applyBatch rivalBatch =
        (.ok
          { appliedEvents := []
            gaps :=
              [{ eventId := ⟨"e1"⟩, missingParentIds := [] },
                { eventId := ⟨"e2"⟩, missingParentIds := [] }] },
          stateAfter rivalHistory) := by
    decide +kernel
  have gaps :=
    (complete ⟨"w"⟩ rivalHistory (stateAfter rivalHistory)
      (stateAfter_reachable (by decide +kernel)) rivalBatch (by decide +kernel) _ _
      reported).gapsInOrder
  revert gaps
  decide +kernel

end WorkspaceState

end Chaft

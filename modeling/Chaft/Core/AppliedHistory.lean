import Chaft.Core.HistoryAgreement
import Chaft.Core.IndexCoherence
import Chaft.Core.OutsiderEvents
import Chaft.Library.CausalOrder

/-!
# The applied events as a history

The events that a batch applies, in the order of their application, are a history of
their own: it is in causal order, disputes no channel, has one root and materializes
to the same state.  What it authorizes, the state authorizes.
-/

namespace Chaft

open Keyed Outcome StableReplay Transition CausalOrder

namespace WorkspaceAccessIndex

/-- An index knows the channels that its history has created. -/
theorem mem_channels_of_run
    {workspaceId : WorkspaceId} {history : List SignedEvent} {index : WorkspaceAccessIndex}
    (ran : Run authorizeAndApply (new workspaceId) history index)
    {event : SignedEvent} (member : event ∈ history) {channelId : ChannelId}
    (creates : CreatesChannel event channelId) :
    channelId ∈ index.channels := by
  induction ran with
  | start => cases member
  | @extend earlier index next last _ _ accepted inductionHypothesis =>
      obtain ⟨-, rfl⟩ := (authorizeAndApply_eq_ok_iff _ _ _).mp accepted
      rw [applyAuthorized_channels]
      rcases List.mem_append.mp member with isEarlier | isLast
      · exact mem_channelsAfter (inductionHypothesis isEarlier)
      · rw [List.mem_singleton.mp isLast] at creates
        unfold CreatesChannel createdChannelId at creates
        unfold channelsAfter
        cases body : last.event.body with
        | channelCreated | directMessageChannelCreated =>
            simp only [body, Option.some.injEq] at creates
            simp only [Std.ExtTreeMap.mem_insert, Std.LawfulEqCmp.compare_eq_iff_eq]
            exact Or.inl creates
        | _ => simp [body] at creates

/-- No channel is created twice. -/
theorem not_mem_channels_of_authorized
    {index : WorkspaceAccessIndex} {event : SignedEvent} {channelId : ChannelId}
    (authorized : index.authorize event = .ok ()) (creates : CreatesChannel event channelId) :
    channelId ∉ index.channels := by
  obtain ⟨-, -, -, permitted⟩ := (authorize_eq_ok_iff _ _ _).mp authorized
  unfold CreatesChannel createdChannelId at creates
  cases body : event.event.body with
  | channelCreated | directMessageChannelCreated =>
      simp only [body, Option.some.injEq] at creates
      subst creates
      simp only [authorizeBody, body, bind_eq_ok_iff, requireNewChannelId_eq_ok_iff] at permitted
      grind
  | _ => simp [body] at creates

/-- A rooted index authorizes no second root. -/
theorem not_createsWorkspace_of_authorized
    {index : WorkspaceAccessIndex} {event : SignedEvent}
    (authorized : index.authorize event = .ok ()) (rooted : index.rootSeen = true) :
    ¬ CreatesWorkspace event := by
  obtain ⟨-, -, -, permitted⟩ := (authorize_eq_ok_iff _ _ _).mp authorized
  intro creates
  obtain ⟨name, body⟩ := creates.exists_name
  simp [authorizeBody, body, rooted] at permitted

/-- A history that is authorized event by event has one root. -/
theorem singleRoot_of_run
    {workspaceId : WorkspaceId} {history : List SignedEvent} {index : WorkspaceAccessIndex}
    (ran : Run authorizeAndApply (new workspaceId) history index) :
    WorkspaceState.SingleRoot history := by
  induction ran with
  | start =>
      intro first firstMember
      cases firstMember
  | @extend earlier index next last ran _ accepted inductionHypothesis =>
      have authorized := ((authorizeAndApply_eq_ok_iff _ _ _).mp accepted).1
      have noSecondRoot : CreatesWorkspace last → ∀ event, event ∉ earlier := by
        intro creates event isEarlier
        have rooted := rootSeen_of_run ran (List.ne_nil_of_mem isEarlier)
        exact not_createsWorkspace_of_authorized authorized rooted creates
      intro first firstMember second secondMember firstCreates secondCreates
      rw [List.mem_append, List.mem_singleton] at firstMember secondMember
      rcases firstMember with firstEarlier | rfl
      · rcases secondMember with secondEarlier | rfl
        · exact inductionHypothesis first firstEarlier second secondEarlier firstCreates
            secondCreates
        · exact absurd firstEarlier (noSecondRoot secondCreates first)
      · rcases secondMember with secondEarlier | rfl
        · exact absurd secondEarlier (noSecondRoot firstCreates second)
        · rfl

end WorkspaceAccessIndex

namespace WorkspaceState

section AppliedEvents

variable {workspaceId : WorkspaceId} {events : List SignedEvent}
  {scan : Scan WorkspaceState SignedEvent}

/-- The parents of an event. -/
def parentsOf (event : SignedEvent) : List EventId := event.event.parents

/-- A batch applies its events in causal order. -/
theorem causallyOrdered_of_advances
    {conflicting : HashSet ChannelId} {applied : List SignedEvent} {final : WorkspaceState}
    (ran : Advances (scanAttempt conflicting) (new workspaceId) applied final) :
    CausallyOrdered SignedEvent.eventId parentsOf applied := by
  have along := appliedAlong_of_advances ran
  intro earlier event later split
  constructor
  · intro parentId isParent
    rcases along.causalOrder earlier event later split parentId isParent with known | isEarlier
    · simp [new] at known
    · exact isEarlier
  · have distinct := along.noRepeats
    rw [split, List.map_append, List.map_cons, List.nodup_append] at distinct
    intro isEarlier
    exact distinct.2.2 _ isEarlier _ List.mem_cons_self rfl

/-- The applied events know each other by their IDs. -/
theorem identified_of_advances
    {conflicting : HashSet ChannelId} {applied : List SignedEvent} {final : WorkspaceState}
    (ran : Advances (scanAttempt conflicting) (new workspaceId) applied final) :
    Identified applied := by
  intro first firstMember second secondMember same
  exact List.inj_on_of_nodup_map (appliedAlong_of_advances ran).noRepeats firstMember
    secondMember same

/-- No event that a batch applies disputes a channel with another one. -/
theorem not_disputed_of_replay
    (scanned :
      replay (scanAttempt (conflictingChannelIds events)) (new workspaceId) events = .ok scan)
    (channelId : ChannelId) : ¬ DisputedChannel scan.advanced channelId := by
  rintro ⟨first, firstMember, second, secondMember, firstCreates, secondCreates, different⟩
  have drawn := replay_advanced_subset scanned
  exact (settled_of_replay scanned (Or.inl firstMember)).undisputed channelId firstCreates
    ⟨first, drawn firstMember, second, drawn secondMember, firstCreates, secondCreates, different⟩

/-- The applied events materialize to the same state again, in the same order. -/
theorem applyBatch_advanced
    (validated : (new workspaceId).validateBatch events = .ok ())
    (scanned :
      replay (scanAttempt (conflictingChannelIds events)) (new workspaceId) events = .ok scan) :
    (new workspaceId).applyBatch scan.advanced =
      (.ok { appliedEvents := scan.advanced.map SignedEvent.eventId, gaps := [] },
        scan.state) := by
  have validatedToo : (new workspaceId).validateBatch scan.advanced = .ok () := by
    rw [validateBatch_eq_ok_iff] at validated ⊢
    exact fun event member => validated event (replay_advanced_subset scanned member)
  have agrees :
      ∀ (state : WorkspaceState) (event : SignedEvent), event ∈ scan.advanced →
        scanAttempt (conflictingChannelIds scan.advanced) state event =
          scanAttempt (conflictingChannelIds events) state event := by
    intro state event member
    have undisputed :
        channelDefinitionConflict (conflictingChannelIds events) event = false :=
      (channelDefinitionConflict_eq_false_iff events event).mpr
        (settled_of_replay scanned (Or.inl member)).undisputed
    have undisputedToo :
        channelDefinitionConflict (conflictingChannelIds scan.advanced) event = false :=
      (channelDefinitionConflict_eq_false_iff scan.advanced event).mpr
        fun channelId _ => not_disputed_of_replay scanned channelId
    rw [scanAttempt, scanAttempt, undisputed, undisputedToo]
  have advances := (replay_advances scanned).of_agree agrees
  rw [applyBatch_eq_scanBatch, scanBatch, validatedToo]
  simp only [replay_of_advances advances, scanReport, List.map_nil]

/-- What the applied events authorize as a history, their state authorizes. -/
theorem authorize_of_advanced
    (validated : (new workspaceId).validateBatch events = .ok ())
    (scanned :
      replay (scanAttempt (conflictingChannelIds events)) (new workspaceId) events = .ok scan)
    {event : SignedEvent} (sameWorkspace : event.event.workspaceId = workspaceId)
    (parentsApplied : ∀ parentId ∈ event.event.parents, parentId ∈ scan.state.appliedEventIds)
    (authorized : authorizeEventWithHistory scan.advanced event = .ok ()) :
    scan.state.accessIndex.authorize event = .ok () := by
  by_contra refused
  have advances := replay_advances scanned
  have ordered := causallyOrdered_of_advances advances
  have agree :=
    (authorizeEventWithHistory_agrees_iff workspaceId scan.advanced
      (identified_of_advances advances)
      (WorkspaceAccessIndex.singleRoot_of_run
        (reachable_of_run (run_of_advances advances)).ledger.index)
      (fun event member parentId isParent => ordered.parent_mem member isParent)
      _ scan.state (applyBatch_advanced validated scanned) event sameWorkspace parentsApplied
      (fun channelId _ => not_disputed_of_replay scanned channelId)).mpr (Or.inr refused)
  obtain ⟨next, applied⟩ := agree.mp authorized
  exact refused (applyReadyEvent_ok ((apply_eq_ok_iff _ _ _).mp applied).2).2.1

/-- An event that the state after a batch authorizes creates no channel that an
applied event has created. -/
theorem not_createsChannel_of_authorized
    (scanned :
      replay (scanAttempt (conflictingChannelIds events)) (new workspaceId) events = .ok scan)
    {event : SignedEvent} (authorized : scan.state.accessIndex.authorize event = .ok ())
    {channelId : ChannelId} (creates : CreatesChannel event channelId)
    {other : SignedEvent} (isApplied : other ∈ scan.advanced) :
    ¬ CreatesChannel other channelId := by
  intro otherCreates
  have reached := reachable_of_run (run_of_advances (replay_advances scanned))
  exact WorkspaceAccessIndex.not_mem_channels_of_authorized authorized creates
    (WorkspaceAccessIndex.mem_channels_of_run reached.ledger.index isApplied otherCreates)

end AppliedEvents

end WorkspaceState

end Chaft

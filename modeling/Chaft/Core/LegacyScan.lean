import Mathlib.Data.List.Pairwise
import Chaft.Core.BatchRounds

/-!
# The indexed batch and the plain scan

Without repeated, applied or disputed events the two exceptions of the stable
replay never occur: nothing is dropped, and nothing is kept for a disputed
channel.  What remains is the plain scan.
-/

namespace Chaft

open Keyed Outcome StableReplay

namespace WorkspaceState

/-- The event is valid, new to the state, and creates no disputed channel. -/
private structure Fresh
    (conflicting : HashSet ChannelId) (state : WorkspaceState) (event : SignedEvent) :
    Prop where
  valid : validateSignedEventIds event = .ok ()
  sameWorkspace : event.event.workspaceId = state.workspaceId
  unapplied : event.eventId ∉ state.appliedEventIds
  undisputed : channelDefinitionConflict conflicting event = false

private theorem scanAttempt_of_fresh
    {conflicting : HashSet ChannelId} {state : WorkspaceState} {event : SignedEvent}
    (fresh : Fresh conflicting state event) :
    scanAttempt conflicting state event = legacyAttempt state event := by
  unfold scanAttempt legacyAttempt
  cases missing : state.unappliedParentIds event with
  | nil =>
      have noneMissing : state.missingParentIds event = .ok [] := by
        rw [missingParentIds_eq_ok_iff]
        exact ⟨fresh.valid, fresh.sameWorkspace, missing⟩
      simp only [noneMissing, fresh.undisputed, fresh.unapplied, Bool.false_eq_true, ne_eq,
        not_true_eq_false, or_self, if_false]
      all_goals rfl
  | cons first others =>
      have someMissing : state.missingParentIds event = .ok (first :: others) := by
        rw [missingParentIds_eq_ok_iff]
        exact ⟨fresh.valid, fresh.sameWorkspace, missing⟩
      rw [someMissing, if_pos (Or.inr (List.cons_ne_nil first others))]

private theorem legacyGaps_of_valid
    (state : WorkspaceState) (events : List SignedEvent)
    (valid :
      ∀ event ∈ events,
        validateSignedEventIds event = .ok () ∧
          event.event.workspaceId = state.workspaceId) :
    legacyGaps state events = .ok (events.map (gapOf state)) := by
  induction events with
  | nil => rfl
  | cons event rest inductionHypothesis =>
      have restValid := inductionHypothesis fun other member =>
        valid other (List.mem_cons_of_mem event member)
      have missing : state.missingParentIds event = .ok (state.unappliedParentIds event) := by
        rw [missingParentIds_eq_ok_iff]
        obtain ⟨eventValid, sameWorkspace⟩ := valid event List.mem_cons_self
        exact ⟨eventValid, sameWorkspace, rfl⟩
      rw [legacyGaps, missing, restValid]
      rfl

/-- For every state, and every batch of new events with distinct IDs that
disputes no channel, indexed materialization and the plain scan return the same
result and leave the same state.  No reachability is needed. -/
theorem applyBatch_eq_legacyStableScans
    (state : WorkspaceState) (events : List SignedEvent)
    (distinct : (events.map SignedEvent.eventId).Nodup)
    (unapplied : ∀ event ∈ events, event.eventId ∉ state.appliedEventIds)
    (undisputed :
      events.Pairwise fun first second =>
        ∀ channelId, CreatesChannel first channelId → ¬ CreatesChannel second channelId) :
    state.applyBatch events = state.applyBatchWithLegacyStableScans events := by
  rw [applyBatch_eq_scanBatch]
  unfold scanBatch applyBatchWithLegacyStableScans
  cases validated : state.validateBatch events with
  | error raised => rfl
  | ok done =>
      have valid := (validateBatch_eq_ok_iff state events).mp validated
      have noConflict :
          ∀ event, channelDefinitionConflict (conflictingChannelIds events) event = false := by
        intro event
        rw [Bool.eq_false_iff, ne_eq, channelDefinitionConflict_iff]
        rintro ⟨channelId, -, first, firstMember, second, secondMember, firstCreates,
          secondCreates, different⟩
        have notSame : first ≠ second := fun same => different (by rw [same])
        have symmetric :
            Std.Symm fun first second : SignedEvent =>
              ∀ channelId, CreatesChannel first channelId → ¬ CreatesChannel second channelId :=
          ⟨fun _ _ separate channelId creates other => separate channelId other creates⟩
        exact undisputed.forall firstMember secondMember notSame channelId firstCreates
          secondCreates
      obtain ⟨sameReplay, keptFresh⟩ :=
        @replay_congr _ _ _ (scanAttempt (conflictingChannelIds events)) legacyAttempt
          (Fresh (conflictingChannelIds events))
          (fun first second => first.eventId ≠ second.eventId)
          (fun _ _ different => different.symm)
          (fun _ _ fresh => scanAttempt_of_fresh fresh)
          (by
            intro current event other next _ otherFresh different advanced
            obtain ⟨_, _, _, applied⟩ := (scanAttempt_eq_advance_iff _ _ _ _).mp advanced
            obtain ⟨_, _, sameWorkspace, _, recorded, _⟩ := applyReadyEvent_ok applied
            refine ⟨otherFresh.valid, ?_, ?_, otherFresh.undisputed⟩
            · rw [sameWorkspace]
              exact otherFresh.sameWorkspace
            · rw [recorded, Std.ExtTreeSet.mem_insert, Std.LawfulEqCmp.compare_eq_iff_eq]
              rintro (same | member)
              · exact different same
              · exact otherFresh.unapplied member)
          state events (List.pairwise_map.mp distinct)
          (by
            intro event member
            obtain ⟨eventValid, sameWorkspace⟩ := valid event member
            exact ⟨eventValid, sameWorkspace, unapplied event member, noConflict event⟩)
      dsimp only
      rw [← sameReplay]
      cases scanned : replay (scanAttempt (conflictingChannelIds events)) state events with
      | error failure => rfl
      | ok scan =>
          have gaps :=
            legacyGaps_of_valid scan.state scan.kept fun event member =>
              have fresh := keptFresh scan scanned event member
              ⟨fresh.valid, fresh.sameWorkspace⟩
          simp only [gaps]
          rfl

/-- A message, the channel it belongs to and the workspace, latest first. -/
def lateHomeBatch : List SignedEvent :=
  [draftEvent "e2" "root" (some "general") ["e1"] (.messageCreated ⟨"m"⟩ "hello" []),
    draftEvent "e1" "root" none ["e0"] (.channelCreated ⟨"general"⟩ "general" false),
    draftEvent "e0" "root" none [] (.workspaceCreated "home")]

theorem applyBatch_eq_legacyStableScans_lateHomeBatch :
    (new ⟨"w"⟩).applyBatch lateHomeBatch =
      (new ⟨"w"⟩).applyBatchWithLegacyStableScans lateHomeBatch :=
  applyBatch_eq_legacyStableScans (new ⟨"w"⟩) lateHomeBatch (by decide)
    (by intro event _; simp [new])
    (by simp [lateHomeBatch, draftEvent, CreatesChannel, createdChannelId])

end WorkspaceState

end Chaft

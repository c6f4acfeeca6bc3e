import Chaft.Core.BatchRounds
import Chaft.Library.Run

/-!
# Reachable states

A state is reached from a new one by successful calls of `apply` and
`applyBatch`.  Reachability carries the history of the state: the events it
absorbed, in the order in which it absorbed them.  A batch contributes the
events of its report, which `apply` absorbs one by one just as the batch did.
-/

namespace Chaft

open Keyed Outcome StableReplay Transition

namespace WorkspaceState

/-- `apply` as a step that refuses or leads to the next state. -/
def applyStep (state : WorkspaceState) (event : SignedEvent) : Except CoreError WorkspaceState :=
  match state.apply event with
  | (.ok (), next) => .ok next
  | (.error raised, _) => .error raised

@[simp]
theorem applyStep_eq_ok_iff (state next : WorkspaceState) (event : SignedEvent) :
    state.applyStep event = .ok next ↔ state.apply event = (.ok (), next) := by
  unfold applyStep
  split
  · rename_i applied
    simp [applied]
  · rename_i applied
    simp [applied]

/-- The states of one workspace that successful calls reach, with the events
they absorbed. -/
inductive Reachable (workspaceId : WorkspaceId) : List SignedEvent → WorkspaceState → Prop
  | new : Reachable workspaceId [] (new workspaceId)
  | apply {history : List SignedEvent} {state next : WorkspaceState} {event : SignedEvent}
      (reached : Reachable workspaceId history state)
      (accepted : state.apply event = (.ok (), next)) :
      Reachable workspaceId (history ++ [event]) next
  | applyBatch {history events applied : List SignedEvent} {state next : WorkspaceState}
      {report : MaterializationReport}
      (reached : Reachable workspaceId history state)
      (accepted : state.applyBatch events = (.ok report, next))
      (drawn : applied ⊆ events)
      (listed : applied.map SignedEvent.eventId = report.appliedEvents)
      (replayed : Run applyStep state applied next) :
      Reachable workspaceId (history ++ applied) next

/-- The advances of a replayed batch are successful calls of `apply`. -/
theorem run_of_advances
    {conflicting : HashSet ChannelId} {state final : WorkspaceState}
    {applied : List SignedEvent}
    (ran : Advances (scanAttempt conflicting) state applied final) :
    Run applyStep state applied final := by
  induction ran with
  | done state => exact .start
  | next advanced _ inductionHypothesis =>
      apply Run.cons _ inductionHypothesis
      rw [applyStep_eq_ok_iff, apply_eq_ok_iff]
      obtain ⟨-, noneMissing, -, applied⟩ := (scanAttempt_eq_advance_iff _ _ _ _).mp advanced
      exact ⟨noneMissing, applied⟩

/-- The replay behind a successful batch. -/
theorem replay_of_applyBatch
    {state next : WorkspaceState} {events : List SignedEvent} {report : MaterializationReport}
    (accepted : state.applyBatch events = (.ok report, next)) :
    state.validateBatch events = .ok () ∧
      ∃ scan, replay (scanAttempt (conflictingChannelIds events)) state events = .ok scan ∧
        report = scanReport scan ∧ next = scan.state := by
  rw [applyBatch_eq_scanBatch] at accepted
  unfold scanBatch at accepted
  cases validated : state.validateBatch events with
  | error raised => simp [validated] at accepted
  | ok done =>
      refine ⟨rfl, ?_⟩
      rw [validated] at accepted
      dsimp only at accepted
      cases scanned : replay (scanAttempt (conflictingChannelIds events)) state events with
      | error failure => simp [scanned] at accepted
      | ok scan =>
          rw [scanned, Prod.mk.injEq, Except.ok.injEq] at accepted
          exact ⟨scan, rfl, accepted.1.symm, accepted.2.symm⟩

/-- Every successful batch has applied events as `Reachable.applyBatch` asks for
them. -/
theorem applied_of_applyBatch
    {state next : WorkspaceState} {events : List SignedEvent} {report : MaterializationReport}
    (accepted : state.applyBatch events = (.ok report, next)) :
    ∃ applied, applied ⊆ events ∧ applied.map SignedEvent.eventId = report.appliedEvents ∧
      Run applyStep state applied next := by
  obtain ⟨-, scan, scanned, rfl, rfl⟩ := replay_of_applyBatch accepted
  exact ⟨scan.advanced, replay_advanced_subset scanned, rfl,
    run_of_advances (replay_advances scanned)⟩

theorem Reachable.run
    {workspaceId : WorkspaceId} {history : List SignedEvent} {state : WorkspaceState}
    (reached : Reachable workspaceId history state) :
    Run applyStep (WorkspaceState.new workspaceId) history state := by
  induction reached with
  | new => exact .start
  | apply _ accepted inductionHypothesis =>
      exact .extend inductionHypothesis trivial ((applyStep_eq_ok_iff _ _ _).mpr accepted)
  | applyBatch _ _ _ _ replayed inductionHypothesis =>
      exact inductionHypothesis.append replayed

theorem reachable_of_run
    {workspaceId : WorkspaceId} {history : List SignedEvent} {state : WorkspaceState}
    (ran : Run applyStep (WorkspaceState.new workspaceId) history state) :
    Reachable workspaceId history state := by
  induction ran with
  | start => exact .new
  | extend _ _ accepted inductionHypothesis =>
      exact inductionHypothesis.apply ((applyStep_eq_ok_iff _ _ _).mp accepted)

/-- The state of workspace `w` after a list of events, if all are accepted. -/
def stateAfter (events : List SignedEvent) : WorkspaceState :=
  match Transition.run applyStep (WorkspaceState.new ⟨"w"⟩) events with
  | .ok state => state
  | .error _ => WorkspaceState.new ⟨"w"⟩

theorem stateAfter_reachable
    {events : List SignedEvent}
    (accepted : (Transition.run applyStep (WorkspaceState.new ⟨"w"⟩) events).isOk = true) :
    Reachable ⟨"w"⟩ events (stateAfter events) := by
  unfold stateAfter
  cases finished : Transition.run applyStep (WorkspaceState.new ⟨"w"⟩) events with
  | error raised => simp [finished, Except.isOk, Except.toBool] at accepted
  | ok state => exact reachable_of_run (run_of_run_eq_ok finished)

/-! ## The ledger of a reachable state -/

/-- What a state records about the events it absorbed. -/
structure Ledger
    (workspaceId : WorkspaceId) (history : List SignedEvent) (state : WorkspaceState) :
    Prop where
  ownWorkspace : state.workspaceId = workspaceId
  appliedEvents : state.appliedEvents = history.map SignedEvent.eventId
  mem_appliedEventIds :
    ∀ eventId, eventId ∈ state.appliedEventIds ↔ eventId ∈ history.map SignedEvent.eventId
  parentsApplied :
    ∀ event ∈ history, ∀ parentId ∈ event.event.parents, parentId ∈ state.appliedEventIds
  sameWorkspace : ∀ event ∈ history, event.event.workspaceId = workspaceId
  index :
    Run WorkspaceAccessIndex.authorizeAndApply (WorkspaceAccessIndex.new workspaceId) history
      state.accessIndex

/-- One successful call of `apply` extends the ledger. -/
theorem Ledger.apply
    {workspaceId : WorkspaceId} {history : List SignedEvent} {state next : WorkspaceState}
    {event : SignedEvent}
    (ledger : Ledger workspaceId history state)
    (accepted : state.apply event = (.ok (), next)) :
    Ledger workspaceId (history ++ [event]) next := by
  obtain ⟨noneMissing, applied⟩ := (apply_eq_ok_iff _ _ _).mp accepted
  obtain ⟨eventWorkspace, authorized, sameWorkspace, appliedEvents, recorded, index⟩ :=
    applyReadyEvent_ok applied
  have memAfter :
      ∀ eventId, eventId ∈ next.appliedEventIds ↔
        event.eventId = eventId ∨ eventId ∈ state.appliedEventIds := by
    intro eventId
    rw [recorded, Std.ExtTreeSet.mem_insert, Std.LawfulEqCmp.compare_eq_iff_eq]
  refine
    { ownWorkspace := by rw [sameWorkspace, ledger.ownWorkspace]
      appliedEvents := by rw [appliedEvents, ledger.appliedEvents, List.map_append]; rfl
      mem_appliedEventIds := ?_
      parentsApplied := ?_
      sameWorkspace := ?_
      index := ?_ }
  · intro eventId
    rw [memAfter, ledger.mem_appliedEventIds, List.map_append, List.mem_append]
    simp [or_comm, eq_comm]
  · intro other member parentId isParent
    rw [memAfter]
    right
    rcases List.mem_append.mp member with earlier | isEvent
    · exact ledger.parentsApplied other earlier parentId isParent
    · rw [List.mem_singleton.mp isEvent] at isParent
      exact (unappliedParentIds_eq_nil_iff state event).mp noneMissing parentId isParent
  · intro other member
    rcases List.mem_append.mp member with earlier | isEvent
    · exact ledger.sameWorkspace other earlier
    · rw [List.mem_singleton.mp isEvent, eventWorkspace, ledger.ownWorkspace]
  · refine .extend ledger.index trivial ?_
    rw [WorkspaceAccessIndex.authorizeAndApply_eq_ok_iff]
    exact ⟨authorized, index.symm⟩

/-- Every reachable state has the ledger of its history. -/
theorem Reachable.ledger
    {workspaceId : WorkspaceId} {history : List SignedEvent} {state : WorkspaceState}
    (reached : Reachable workspaceId history state) :
    Ledger workspaceId history state := by
  have ran := reached.run
  clear reached
  induction ran with
  | start =>
      exact
        { ownWorkspace := rfl
          appliedEvents := rfl
          mem_appliedEventIds := by simp [WorkspaceState.new]
          parentsApplied := by simp
          sameWorkspace := by simp
          index := .start }
  | extend _ _ accepted inductionHypothesis =>
      exact inductionHypothesis.apply ((applyStep_eq_ok_iff _ _ _).mp accepted)

end WorkspaceState

end Chaft

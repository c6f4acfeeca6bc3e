import Chaft.Library.Run
import Mathlib.Data.List.Permutation
import Mathlib.Data.List.Sublists
import Mathlib.Data.Set.Insert

/-!
# Schedules of actions that each happen once

A schedule takes actions one after the other, each at most once, as soon as it
is ready and the step accepts it.  Readiness depends on the actions already
done and only grows with them.  If any two actions that could come next can
follow each other in both orders with the same result, then all schedules that
leave nothing to do end alike.
-/

namespace Scheduling

open Outcome

universe u v w

variable {σ : Type u} {α : Type v} {ε : Type w}

/-- A state with the actions that led to it. -/
structure Configuration (σ : Type u) (α : Type v) where
  state : σ
  done : Set α

section Schedules

variable (step : σ → α → Except ε σ) (ready : Set α → α → Prop)

/-- The action has not happened, is ready, and leads to the next state. -/
structure Enabled (configuration : Configuration σ α) (action : α) (next : σ) : Prop where
  isNew : action ∉ configuration.done
  isReady : ready configuration.done action
  accepted : step configuration.state action = .ok next

inductive Schedule : Configuration σ α → List α → Configuration σ α → Prop
  | stop (configuration : Configuration σ α) : Schedule configuration [] configuration
  | next {configuration final : Configuration σ α} {action : α} {state : σ} {rest : List α}
      (enabled : Enabled step ready configuration action state)
      (later : Schedule ⟨state, insert action configuration.done⟩ rest final) :
      Schedule configuration (action :: rest) final

/-- Nothing is left to do. -/
def Finished (configuration : Configuration σ α) : Prop :=
  ∀ action next, ¬ Enabled step ready configuration action next

/-- Any two actions that could come next can follow each other in both orders,
with the same result, in every configuration that a schedule reaches. -/
def RaceFree (initial : Configuration σ α) : Prop :=
  ∀ actions configuration, Schedule step ready initial actions configuration →
    ∀ first second firstNext secondNext, first ≠ second →
      Enabled step ready configuration first firstNext →
        Enabled step ready configuration second secondNext →
          ∃ joined, step firstNext second = .ok joined ∧ step secondNext first = .ok joined

end Schedules

variable {step : σ → α → Except ε σ} {ready : Set α → α → Prop}

/-! ## What a schedule does -/

theorem Schedule.mem_done_iff
    {configuration final : Configuration σ α} {actions : List α}
    (scheduled : Schedule step ready configuration actions final) (tested : α) :
    tested ∈ final.done ↔ tested ∈ configuration.done ∨ tested ∈ actions := by
  induction scheduled with
  | stop configuration => simp
  | next _ _ inductionHypothesis =>
      rw [inductionHypothesis, Set.mem_insert_iff, List.mem_cons]
      tauto

theorem Schedule.nodup
    {configuration final : Configuration σ α} {actions : List α}
    (scheduled : Schedule step ready configuration actions final) :
    actions.Nodup ∧ ∀ action ∈ actions, action ∉ configuration.done := by
  induction scheduled with
  | stop configuration => simp
  | @next configuration final action state rest enabled _ inductionHypothesis =>
      obtain ⟨restNodup, restNew⟩ := inductionHypothesis
      refine ⟨List.nodup_cons.mpr ⟨?_, restNodup⟩, ?_⟩
      · exact fun again => restNew action again (Set.mem_insert action _)
      · intro other member
        rcases List.mem_cons.mp member with isAction | later
        · exact isAction ▸ enabled.isNew
        · exact fun wasDone => restNew other later (Set.mem_insert_of_mem action wasDone)

/-- The state of a schedule is the result of running its actions. -/
theorem Schedule.run_eq
    {configuration final : Configuration σ α} {actions : List α}
    (scheduled : Schedule step ready configuration actions final) :
    Transition.run step configuration.state actions = .ok final.state := by
  induction scheduled with
  | stop configuration => rfl
  | next enabled _ inductionHypothesis =>
      rw [Transition.run, enabled.accepted]
      exact inductionHypothesis

/-- Every action of a schedule was ready when it was taken. -/
theorem Schedule.ready_of_mem
    {configuration final : Configuration σ α} {actions : List α} {action : α}
    (scheduled : Schedule step ready configuration actions final) (member : action ∈ actions) :
    ∃ done, ready done action := by
  induction scheduled with
  | stop configuration => cases member
  | next enabled _ inductionHypothesis =>
      rcases List.mem_cons.mp member with isFirst | later
      · exact ⟨_, isFirst ▸ enabled.isReady⟩
      · exact inductionHypothesis later

/-! ## Races -/

theorem RaceFree.next
    {configuration : Configuration σ α} {action : α} {state : σ}
    (raceFree : RaceFree step ready configuration)
    (enabled : Enabled step ready configuration action state) :
    RaceFree step ready ⟨state, insert action configuration.done⟩ := by
  intro actions reached scheduled
  exact raceFree (action :: actions) reached (.next enabled scheduled)

/-- An action that is enabled at the start can be taken first in every schedule
that finishes. -/
theorem Schedule.takeFirst
    (grows : ∀ done action extra, ready done action → ready (insert extra done) action)
    {configuration final : Configuration σ α} {actions : List α}
    (scheduled : Schedule step ready configuration actions final)
    (finished : Finished step ready final) (raceFree : RaceFree step ready configuration)
    {first : α} {firstNext : σ} (firstEnabled : Enabled step ready configuration first firstNext) :
    ∃ rest, Schedule step ready ⟨firstNext, insert first configuration.done⟩ rest final := by
  induction scheduled generalizing firstNext with
  | stop configuration => exact absurd firstEnabled (finished first firstNext)
  | @next configuration final action state rest enabled later inductionHypothesis =>
      by_cases same : first = action
      · have sameNext : firstNext = state := by
          have accepted := firstEnabled.accepted
          rw [same, enabled.accepted] at accepted
          exact (Except.ok.inj accepted).symm
        rw [same, sameNext]
        exact ⟨rest, later⟩
      · obtain ⟨joined, actionThenFirst, firstThenAction⟩ :=
          raceFree [] configuration (.stop configuration) action first state firstNext
            (Ne.symm same) enabled firstEnabled
        have stillEnabled :
            Enabled step ready ⟨state, insert action configuration.done⟩ first joined :=
          { isNew := by
              rintro (isAction | wasDone)
              · exact same isAction
              · exact firstEnabled.isNew wasDone
            isReady := grows _ _ _ firstEnabled.isReady
            accepted := actionThenFirst }
        obtain ⟨others, scheduledOthers⟩ :=
          inductionHypothesis finished (raceFree.next enabled) stillEnabled
        have actionEnabled :
            Enabled step ready ⟨firstNext, insert first configuration.done⟩ action joined :=
          { isNew := by
              rintro (isFirst | wasDone)
              · exact same isFirst.symm
              · exact enabled.isNew wasDone
            isReady := grows _ _ _ enabled.isReady
            accepted := firstThenAction }
        refine ⟨action :: others, .next actionEnabled ?_⟩
        dsimp only
        rw [Set.insert_comm]
        exact scheduledOthers

/-- Without races all finished schedules end in the same configuration. -/
theorem finished_unique
    (grows : ∀ done action extra, ready done action → ready (insert extra done) action)
    {configuration left right : Configuration σ α} {leftActions rightActions : List α}
    (raceFree : RaceFree step ready configuration)
    (leftScheduled : Schedule step ready configuration leftActions left)
    (leftFinished : Finished step ready left)
    (rightScheduled : Schedule step ready configuration rightActions right)
    (rightFinished : Finished step ready right) :
    left = right := by
  induction rightScheduled generalizing leftActions with
  | stop configuration =>
      cases leftScheduled with
      | stop _ => rfl
      | next enabled _ => exact absurd enabled (rightFinished _ _)
  | next enabled _ inductionHypothesis =>
      obtain ⟨rest, scheduled⟩ :=
        leftScheduled.takeFirst grows leftFinished raceFree enabled
      exact inductionHypothesis (raceFree.next enabled) scheduled rightFinished

/-! ## Checking a finite list of actions -/

/-- If both actions are accepted, they can follow each other in both orders with
the same result. -/
def Commute (step : σ → α → Except ε σ) (state : σ) (first second : α) : Prop :=
  Ensures (fun firstNext =>
    Ensures (fun secondNext =>
      (step firstNext second).isOk = true ∧
        Ensures (fun left =>
          (step secondNext first).isOk = true ∧
            Ensures (fun right => left = right) (step secondNext first))
          (step firstNext second))
      (step state second))
    (step state first)

instance [DecidableEq σ] (step : σ → α → Except ε σ) (state : σ) (first second : α) :
    Decidable (Commute step state first second) := by
  unfold Commute
  infer_instance

theorem Commute.joined
    {state firstNext secondNext : σ} {first second : α}
    (commute : Commute step state first second)
    (firstAccepted : step state first = .ok firstNext)
    (secondAccepted : step state second = .ok secondNext) :
    ∃ joined, step firstNext second = .ok joined ∧ step secondNext first = .ok joined := by
  unfold Commute at commute
  rw [firstAccepted, secondAccepted] at commute
  dsimp only [Ensures] at commute
  cases left : step firstNext second with
  | error raised => simp [left, Except.isOk, Except.toBool] at commute
  | ok joined =>
      cases right : step secondNext first with
      | error raised => simp [left, right, Except.isOk, Except.toBool] at commute
      | ok other =>
          simp only [left, right] at commute
          exact ⟨joined, rfl, by rw [commute.2.2]⟩

/-- The lists without repetitions of some items. -/
def arrangements (items : List α) : List (List α) :=
  items.sublists.flatMap List.permutations'

theorem mem_arrangements
    {items actions : List α} (noRepeats : actions.Nodup) (drawn : actions ⊆ items) :
    actions ∈ arrangements items := by
  obtain ⟨chosen, permuted, isSublist⟩ := List.subperm_of_subset noRepeats drawn
  exact List.mem_flatMap.mpr
    ⟨chosen, List.mem_sublists.mpr isSublist, List.mem_permutations'.mpr permuted.symm⟩

/-- It is enough to look at all arrangements of the actions. -/
theorem raceFree_of_commute
    {items : List α} {initial : σ} (drawn : ∀ done action, ready done action → action ∈ items)
    (commute :
      ∀ actions ∈ arrangements items,
        Ensures (fun state =>
          ∀ first ∈ items, ∀ second ∈ items, first ≠ second → first ∉ actions →
            second ∉ actions → ready {action | action ∈ actions} first →
              ready {action | action ∈ actions} second → Commute step state first second)
          (Transition.run step initial actions)) :
    RaceFree step ready ⟨initial, ∅⟩ := by
  intro actions configuration scheduled first second firstNext secondNext different firstEnabled
    secondEnabled
  have isDone : configuration.done = {action | action ∈ actions} := by
    ext tested
    rw [scheduled.mem_done_iff]
    simp
  have listed : actions ∈ arrangements items := by
    apply mem_arrangements scheduled.nodup.1
    intro action member
    obtain ⟨done, isReady⟩ := scheduled.ready_of_mem member
    exact drawn done action isReady
  have atEnd := commute actions listed
  rw [scheduled.run_eq] at atEnd
  have firstReady := firstEnabled.isReady
  have secondReady := secondEnabled.isReady
  have firstNew := firstEnabled.isNew
  have secondNew := secondEnabled.isNew
  rw [isDone] at firstReady secondReady firstNew secondNew
  have commuting :=
    atEnd first (drawn _ _ firstReady) second (drawn _ _ secondReady) different firstNew secondNew
      firstReady secondReady
  exact commuting.joined firstEnabled.accepted secondEnabled.accepted

end Scheduling

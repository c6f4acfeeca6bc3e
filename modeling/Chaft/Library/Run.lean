import Chaft.Library.Outcome

/-!
# Runs of a step that can refuse

A step maps a state and an action to the next state or refuses.  A run feeds
it a list of actions; what a refusal does to the rest of the list tells the
two kinds of run apart.  The rules below carry an invariant from one accepted
step to a whole run.
-/

namespace Transition

open Outcome

universe u v w

variable {σ : Type u} {α : Type v} {ε : Type w}

/-- Take every action in turn; the first refusal ends the run. -/
def run (step : σ → α → Except ε σ) : σ → List α → Except ε σ
  | state, [] => .ok state
  | state, action :: rest => do
      let next ← step state action
      run step next rest

/-- Take every action in turn and skip those that are refused. -/
def runSkipping (step : σ → α → Except ε σ) : σ → List α → σ
  | state, [] => state
  | state, action :: rest =>
      match step state action with
      | .ok next => runSkipping step next rest
      | .error _ => runSkipping step state rest

/-- A run whose every action meets a guard in the state before it. -/
inductive GuardedRun
    (step : σ → α → Except ε σ) (guard : σ → α → Prop) (initial : σ) :
    List α → σ → Prop
  | start : GuardedRun step guard initial [] initial
  | extend {actions : List α} {state next : σ} {action : α}
      (earlier : GuardedRun step guard initial actions state)
      (guarded : guard state action)
      (accepted : step state action = .ok next) :
      GuardedRun step guard initial (actions ++ [action]) next

/-- A run without a guard. -/
abbrev Run (step : σ → α → Except ε σ) (initial : σ) : List α → σ → Prop :=
  GuardedRun step (fun _ _ => True) initial

/-- The states that some run reaches. -/
def Reachable (step : σ → α → Except ε σ) (initial final : σ) : Prop :=
  ∃ actions, Run step initial actions final

section Runs

variable {step : σ → α → Except ε σ} {guard : σ → α → Prop} {initial : σ}

/-- What holds at the start and survives every guarded step holds at the end. -/
theorem GuardedRun.invariant
    {property : σ → Prop} {actions : List α} {final : σ}
    (ran : GuardedRun step guard initial actions final)
    (atStart : property initial)
    (preserved :
      ∀ state action next,
        property state → guard state action → step state action = .ok next →
          property next) :
    property final := by
  induction ran with
  | start => exact atStart
  | extend _ guarded accepted inductionHypothesis =>
      exact preserved _ _ _ inductionHypothesis guarded accepted

theorem GuardedRun.weaken
    {weaker : σ → α → Prop} {actions : List α} {final : σ}
    (ran : GuardedRun step guard initial actions final)
    (implied : ∀ state action, guard state action → weaker state action) :
    GuardedRun step weaker initial actions final := by
  induction ran with
  | start => exact .start
  | extend _ guarded accepted inductionHypothesis =>
      exact .extend inductionHypothesis (implied _ _ guarded) accepted

/-- The actions of a run are among those that it lists. -/
theorem GuardedRun.listed
    {actions : List α} {final : σ} {allowed : α → Prop}
    (ran : GuardedRun step guard initial actions final)
    (every : ∀ action ∈ actions, allowed action) :
    GuardedRun step (fun state action => guard state action ∧ allowed action) initial
      actions final := by
  induction ran with
  | start => exact .start
  | extend _ guarded accepted inductionHypothesis =>
      apply GuardedRun.extend _ _ accepted
      · exact inductionHypothesis fun action member =>
          every action (List.mem_append_left _ member)
      · exact ⟨guarded, every _ (List.mem_append_right _ List.mem_cons_self)⟩

theorem GuardedRun.reachable
    {actions : List α} {final : σ}
    (ran : GuardedRun step guard initial actions final) :
    Reachable step initial final :=
  ⟨actions, ran.weaken fun _ _ _ => trivial⟩

theorem Reachable.invariant
    {property : σ → Prop} {final : σ}
    (reached : Reachable step initial final)
    (atStart : property initial)
    (preserved :
      ∀ state action next,
        property state → step state action = .ok next → property next) :
    property final := by
  obtain ⟨actions, ran⟩ := reached
  exact ran.invariant atStart fun state action next holds _ accepted =>
    preserved state action next holds accepted

theorem GuardedRun.append
    {earlier later : List α} {middle final : σ}
    (first : GuardedRun step guard initial earlier middle)
    (second : GuardedRun step guard middle later final) :
    GuardedRun step guard initial (earlier ++ later) final := by
  induction second with
  | start => simpa using first
  | extend _ guarded accepted inductionHypothesis =>
      rw [← List.append_assoc]
      exact .extend inductionHypothesis guarded accepted

theorem Run.single
    {action : α} {next : σ} (accepted : step initial action = .ok next) :
    Run step initial [action] next := by
  rw [← List.nil_append [action]]
  exact .extend .start trivial accepted

theorem Run.cons
    {action : α} {next final : σ} {rest : List α}
    (accepted : step initial action = .ok next)
    (ran : Run step next rest final) :
    Run step initial (action :: rest) final :=
  (Run.single accepted).append ran

/-- The computed run agrees with the relation. -/
theorem run_of_run_eq_ok
    {actions : List α} {initial final : σ}
    (finished : run step initial actions = .ok final) :
    Run step initial actions final := by
  induction actions generalizing initial with
  | nil =>
      cases finished
      exact .start
  | cons action rest inductionHypothesis =>
      rw [run, bind_eq_ok_iff] at finished
      obtain ⟨next, accepted, finished⟩ := finished
      exact Run.cons accepted (inductionHypothesis finished)

theorem exists_run_of_isOk
    {actions : List α} {initial : σ}
    (finished : (run step initial actions).isOk = true) :
    ∃ final, Run step initial actions final := by
  cases outcome : run step initial actions with
  | error raised => simp [outcome, Except.isOk, Except.toBool] at finished
  | ok final => exact ⟨final, run_of_run_eq_ok outcome⟩

/-- What survives every accepted step of the allowed actions survives a run
that skips the refused ones. -/
theorem runSkipping_invariant
    {property : σ → Prop} {allowed : α → Prop} {actions : List α} {initial : σ}
    (every : ∀ action, action ∈ actions → allowed action)
    (atStart : property initial)
    (preserved :
      ∀ state action next,
        property state → allowed action → step state action = .ok next →
          property next) :
    property (runSkipping step initial actions) := by
  induction actions generalizing initial with
  | nil => exact atStart
  | cons action rest inductionHypothesis =>
      have restAllowed : ∀ other, other ∈ rest → allowed other :=
        fun other member => every other (List.mem_cons_of_mem action member)
      rw [runSkipping]
      split
      · rename_i next accepted
        apply inductionHypothesis restAllowed
        exact preserved _ _ _ atStart (every action List.mem_cons_self) accepted
      · exact inductionHypothesis restAllowed atStart

end Runs

end Transition

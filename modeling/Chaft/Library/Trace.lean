import Mathlib.Data.List.Basic

/-!
# Traces of steps that cannot be refused

A state machine takes one step after the other.  A trace has an event if one of its steps is
one in the state before it; it is guarded if all of them are.
-/

namespace Trace

universe u v

variable {σ : Type u} {α : Type v} (perform : σ → α → σ)

def run (state : σ) (steps : List α) : σ :=
  steps.foldl perform state

/-- Some step is an event in the state before it. -/
def SomeStep (event : σ → α → Prop) : σ → List α → Prop
  | _, [] => False
  | state, step :: rest => event state step ∨ SomeStep event (perform state step) rest

/-- Every step meets a guard in the state before it. -/
def EveryStep (guard : σ → α → Prop) : σ → List α → Prop
  | _, [] => True
  | state, step :: rest => guard state step ∧ EveryStep guard (perform state step) rest

theorem run_cons (state : σ) (step : α) (rest : List α) :
    run perform state (step :: rest) = run perform (perform state step) rest :=
  rfl

theorem run_append (state : σ) (before after : List α) :
    run perform state (before ++ after) = run perform (run perform state before) after := by
  rw [run, List.foldl_append]
  rfl

theorem everyStep_append
    {guard : σ → α → Prop} {state : σ} {before after : List α}
    (guarded : EveryStep perform guard state (before ++ after)) :
    EveryStep perform guard (run perform state before) after := by
  induction before generalizing state with
  | nil => exact guarded
  | cons step rest inductionHypothesis => exact inductionHypothesis guarded.2

/-- What every step keeps holds at the end. -/
theorem run_keeps
    {invariant : σ → Prop}
    (keeps : ∀ state step, invariant state → invariant (perform state step))
    {state : σ} (holds : invariant state) (steps : List α) :
    invariant (run perform state steps) := by
  induction steps generalizing state with
  | nil => exact holds
  | cons step rest inductionHypothesis => exact inductionHypothesis (keeps state step holds)

/-- What every guarded step keeps holds at the end of a guarded trace. -/
theorem run_keeps_of_everyStep
    {invariant : σ → Prop} {guard : σ → α → Prop}
    (keeps : ∀ state step, invariant state → guard state step → invariant (perform state step))
    {state : σ} {steps : List α} (holds : invariant state)
    (guarded : EveryStep perform guard state steps) :
    invariant (run perform state steps) := by
  induction steps generalizing state with
  | nil => exact holds
  | cons step rest inductionHypothesis =>
      exact inductionHypothesis (keeps state step holds guarded.1) guarded.2

/-- What every guarded step keeps unless it is an event holds at the end of a guarded trace
without an event. -/
theorem run_keeps_or_someStep
    {invariant : σ → Prop} {guard event : σ → α → Prop}
    (keeps :
      ∀ state step, invariant state → guard state step →
        invariant (perform state step) ∨ event state step)
    {state : σ} {steps : List α} (holds : invariant state)
    (guarded : EveryStep perform guard state steps) :
    invariant (run perform state steps) ∨ SomeStep perform event state steps := by
  induction steps generalizing state with
  | nil => exact Or.inl holds
  | cons step rest inductionHypothesis =>
      rcases keeps state step holds guarded.1 with kept | isEvent
      · rcases inductionHypothesis kept guarded.2 with atEnd | later
        · exact Or.inl atEnd
        · exact Or.inr (Or.inr later)
      · exact Or.inr (Or.inl isEvent)

/-- What every step but an event keeps holds at the end of a trace without an event. -/
theorem run_keeps_of_not_someStep
    {invariant : σ → Prop} {event : σ → α → Prop}
    (keeps :
      ∀ state step, invariant state → ¬ event state step → invariant (perform state step))
    {state : σ} {steps : List α} (holds : invariant state)
    (noEvent : ¬ SomeStep perform event state steps) :
    invariant (run perform state steps) := by
  induction steps generalizing state with
  | nil => exact holds
  | cons step rest inductionHypothesis =>
      rw [SomeStep, not_or] at noEvent
      exact inductionHypothesis (keeps state step holds noEvent.1) noEvent.2

/-- A trace without an event is guarded against it. -/
theorem everyStep_of_not_someStep
    {guard event : σ → α → Prop} {state : σ} {steps : List α}
    (guarded : EveryStep perform guard state steps)
    (noEvent : ¬ SomeStep perform event state steps) :
    EveryStep perform (fun state step => guard state step ∧ ¬ event state step) state steps := by
  induction steps generalizing state with
  | nil => trivial
  | cons step rest inductionHypothesis =>
      rw [SomeStep, not_or] at noEvent
      exact ⟨⟨guarded.1, noEvent.1⟩, inductionHypothesis guarded.2 noEvent.2⟩

end Trace

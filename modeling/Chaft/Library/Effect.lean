import Chaft.Library.Outcome

/-!
# Effects that can fail

A computation changes a state and returns a value or a failure.  A failure keeps
the changes made before it.  The rules below carry an invariant of the state, or
what an action has established, through a sequence of actions.
-/

namespace Effects

variable {σ ε α β : Type}

/-- A computation on a state. -/
def Effect (σ ε α : Type) : Type := σ → Except ε α × σ

instance : Monad (Effect σ ε) where
  pure value := fun state => (.ok value, state)
  bind computation next := fun state =>
    match computation state with
    | (.ok value, after) => next value after
    | (.error raised, after) => (.error raised, after)

namespace Effect

/-- A computation that leaves the state alone. -/
def reads (look : σ → Except ε α) : Effect σ ε α := fun state => (look state, state)

/-- A computation that does not look at the state. -/
def lift (computation : Except ε α) : Effect σ ε α := reads fun _ => computation

def changes (change : σ → σ) : Effect σ ε Unit := fun state => (.ok (), change state)

/-- The failures of a computation under other names. -/
def mapError {ε' : Type} (rename : ε → ε') (computation : Effect σ ε α) : Effect σ ε' α :=
  fun state => ((computation state).1.mapError rename, (computation state).2)

/-- Repeat an action over a list and stop at the first failure. -/
def forEach (action : α → Effect σ ε Unit) : List α → Effect σ ε Unit
  | [] => pure ()
  | item :: rest => do
      action item
      forEach action rest

@[simp]
theorem pure_apply (value : α) (state : σ) :
    (pure value : Effect σ ε α) state = (.ok value, state) := rfl

@[simp]
theorem reads_apply (look : σ → Except ε α) (state : σ) :
    reads look state = (look state, state) := rfl

@[simp]
theorem lift_apply (computation : Except ε α) (state : σ) :
    lift computation state = (computation, state) := rfl

@[simp]
theorem changes_apply (change : σ → σ) (state : σ) :
    (changes change : Effect σ ε Unit) state = (.ok (), change state) := rfl

/-- A sequence succeeds when both of its parts do. -/
@[simp]
theorem reads_eq_ok_iff (look : σ → Except ε α) (state final : σ) (value : α) :
    reads look state = (.ok value, final) ↔ look state = .ok value ∧ state = final := by
  rw [reads_apply, Prod.mk.injEq]

@[simp]
theorem lift_eq_ok_iff (computation : Except ε α) (state final : σ) (value : α) :
    lift computation state = (.ok value, final) ↔ computation = .ok value ∧ state = final := by
  rw [lift_apply, Prod.mk.injEq]

@[simp]
theorem changes_eq_ok_iff (change : σ → σ) (state final : σ) (done : Unit) :
    (changes change : Effect σ ε Unit) state = (.ok done, final) ↔ change state = final := by
  rw [changes_apply, Prod.mk.injEq]
  simp

@[simp]
theorem pure_apply_eq_ok_iff (value returned : α) (state final : σ) :
    (pure value : Effect σ ε α) state = (.ok returned, final) ↔
      value = returned ∧ state = final := by
  rw [pure_apply, Prod.mk.injEq, Except.ok.injEq]

@[simp]
theorem bind_apply_eq_ok_iff
    (computation : Effect σ ε α) (next : α → Effect σ ε β)
    (state final : σ) (value : β) :
    (computation >>= next) state = (.ok value, final) ↔
      ∃ first middle,
        computation state = (.ok first, middle) ∧ next first middle = (.ok value, final) := by
  change (match computation state with
    | (.ok value, after) => next value after
    | (.error raised, after) => (.error raised, after)) = _ ↔ _
  cases outcome : computation state with
  | mk result after =>
      cases result with
      | error raised => simp
      | ok first => simp

@[simp]
theorem mapError_eq_ok_iff
    {ε' : Type} (rename : ε → ε') (computation : Effect σ ε α) (state final : σ) (value : α) :
    mapError rename computation state = (.ok value, final) ↔
      computation state = (.ok value, final) := by
  rw [mapError]
  cases outcome : computation state with
  | mk result after => cases result <;> simp [Except.mapError]

theorem forEach_map (action : β → Effect σ ε Unit) (project : α → β) (items : List α) :
    forEach action (items.map project) = forEach (fun item => action (project item)) items := by
  induction items with
  | nil => rfl
  | cons item rest inductionHypothesis =>
      rw [List.map_cons, forEach, forEach, inductionHypothesis]

/-- Renaming the failures of each action leaves the successes of all as they are. -/
theorem forEach_mapError_eq_ok_iff
    {ε' : Type} (rename : ε → ε') (action : α → Effect σ ε Unit) (items : List α)
    (state final : σ) (done : Unit) :
    forEach (fun item => mapError rename (action item)) items state = (.ok done, final) ↔
      forEach action items state = (.ok done, final) := by
  induction items generalizing state with
  | nil => simp only [forEach, pure_apply_eq_ok_iff]
  | cons item rest inductionHypothesis =>
      simp only [forEach, bind_apply_eq_ok_iff, mapError_eq_ok_iff, inductionHypothesis]

theorem bind_of_ok
    {computation : Effect σ ε α} {state after : σ} {value : α}
    (succeeded : computation state = (.ok value, after)) (next : α → Effect σ ε β) :
    (computation >>= next) state = next value after := by
  change (match computation state with
    | (.ok value, after) => next value after
    | (.error raised, after) => (.error raised, after)) = _
  rw [succeeded]

theorem bind_of_error
    {computation : Effect σ ε α} {state after : σ} {raised : ε}
    (failed : computation state = (.error raised, after)) (next : α → Effect σ ε β) :
    (computation >>= next) state = (.error raised, after) := by
  change (match computation state with
    | (.ok value, after) => next value after
    | (.error raised, after) => (.error raised, after)) = _
  rw [failed]

/-- An invariant survives the computation, whether it fails or not. -/
structure Preserves (property : σ → Prop) (computation : Effect σ ε α) : Prop where
  kept : ∀ state, property state → property (computation state).2

section Preserves

variable {property : σ → Prop}

theorem preserves_pure (value : α) :
    Preserves property (pure value : Effect σ ε α) :=
  ⟨fun _ holds => holds⟩

theorem preserves_reads (look : σ → Except ε α) : Preserves property (reads look) :=
  ⟨fun _ holds => holds⟩

theorem preserves_lift (computation : Except ε α) :
    Preserves property (lift computation) :=
  ⟨fun _ holds => holds⟩

theorem preserves_changes
    {change : σ → σ} (kept : ∀ state, property state → property (change state)) :
    Preserves property (changes change : Effect σ ε Unit) :=
  ⟨kept⟩

/-- The second part has to preserve the invariant for the values that the first
part can return. -/
theorem preserves_bind
    {computation : Effect σ ε α} {next : α → Effect σ ε β}
    (first : Preserves property computation)
    (second :
      ∀ state value middle,
        computation state = (.ok value, middle) → Preserves property (next value)) :
    Preserves property (computation >>= next) := by
  constructor
  intro state holds
  have kept := first.kept state holds
  cases outcome : computation state with
  | mk result after =>
      rw [outcome] at kept
      cases result with
      | error raised =>
          rw [bind_of_error outcome]
          exact kept
      | ok value =>
          rw [bind_of_ok outcome]
          exact (second state value after outcome).kept after kept

theorem preserves_mapError
    {ε' : Type} {rename : ε → ε'} {computation : Effect σ ε α}
    (preserves : Preserves property computation) :
    Preserves property (mapError rename computation) :=
  ⟨preserves.kept⟩

theorem preserves_forEach
    {action : α → Effect σ ε Unit} {items : List α}
    (each : ∀ item ∈ items, Preserves property (action item)) :
    Preserves property (forEach action items) := by
  induction items with
  | nil => exact preserves_pure ()
  | cons item rest inductionHypothesis =>
      apply preserves_bind (each item List.mem_cons_self)
      intro _ _ _ _
      apply inductionHypothesis
      intro other member
      exact each other (List.mem_cons_of_mem item member)

end Preserves

/-- A computation that leaves the state alone when it fails. -/
structure Atomic (computation : Effect σ ε α) : Prop where
  unchanged :
    ∀ state raised after, computation state = (.error raised, after) → after = state

theorem atomic_pure (value : α) : Atomic (pure value : Effect σ ε α) where
  unchanged := by
    intro state raised after failed
    cases failed

theorem atomic_changes (change : σ → σ) : Atomic (changes change : Effect σ ε Unit) where
  unchanged := by
    intro state raised after failed
    cases failed

/-- Reading first does no harm. -/
theorem atomic_reads_bind
    {look : σ → Except ε α} {next : α → Effect σ ε β} (rest : ∀ value, Atomic (next value)) :
    Atomic (reads look >>= next) where
  unchanged := by
    intro state raised after failed
    cases outcome : look state with
    | error earlier =>
        have stopped : reads look state = (.error earlier, state) := by
          rw [reads_apply, outcome]
        rw [bind_of_error stopped] at failed
        exact (congrArg Prod.snd failed).symm
    | ok value =>
        have passed : reads look state = (.ok value, state) := by
          rw [reads_apply, outcome]
        rw [bind_of_ok passed] at failed
        exact (rest value).unchanged state raised after failed

theorem atomic_lift_bind
    {computation : Except ε α} {next : α → Effect σ ε β} (rest : ∀ value, Atomic (next value)) :
    Atomic (lift computation >>= next) :=
  atomic_reads_bind rest

/-- What succeeds for every item succeeds for all of them. -/
theorem forEach_succeeds
    {action : α → Effect σ ε Unit} {items : List α}
    (each : ∀ item ∈ items, ∀ state, ∃ after, action item state = (.ok (), after))
    (state : σ) :
    ∃ final, forEach action items state = (.ok (), final) := by
  induction items generalizing state with
  | nil => exact ⟨state, rfl⟩
  | cons head rest inductionHypothesis =>
      obtain ⟨middle, headDone⟩ := each head List.mem_cons_self state
      obtain ⟨final, restDone⟩ :=
        inductionHypothesis (fun item member => each item (List.mem_cons_of_mem head member)) middle
      refine ⟨final, ?_⟩
      rw [forEach, bind_of_ok headDone]
      exact restDone

/-- A sequence of actions that all succeed has established what each of them
establishes and the others keep. -/
theorem forEach_establishes
    {action : α → Effect σ ε Unit} {items : List α} {state final : σ}
    (succeeded : forEach action items state = (.ok (), final))
    {established : α → σ → Prop}
    (each :
      ∀ item ∈ items, ∀ before after,
        action item before = (.ok (), after) → established item after)
    (kept :
      ∀ item, ∀ other ∈ items, Preserves (established item) (action other)) :
    ∀ item ∈ items, established item final := by
  induction items generalizing state with
  | nil =>
      intro item member
      cases member
  | cons head rest inductionHypothesis =>
      simp only [forEach, bind_apply_eq_ok_iff] at succeeded
      obtain ⟨_, middle, headDone, restDone⟩ := succeeded
      have later :=
        inductionHypothesis restDone
          (fun item member => each item (List.mem_cons_of_mem head member))
          (fun item other member => kept item other (List.mem_cons_of_mem head member))
      intro item member
      rcases List.mem_cons.mp member with rfl | member
      · have atHead := each item List.mem_cons_self state middle headDone
        have restKeeps : Preserves (established item) (forEach action rest) :=
          preserves_forEach fun other member =>
            kept item other (List.mem_cons_of_mem item member)
        have atEnd := restKeeps.kept middle atHead
        rw [restDone] at atEnd
        exact atEnd
      · exact later item member

end Effect

end Effects

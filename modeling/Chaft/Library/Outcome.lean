import Mathlib.Data.List.Sort

/-!
# Fallible computations

The early-return idioms of fallible code and when a chain of them succeeds or
fails.
-/

namespace Outcome

universe u v w

variable {ε : Type u} {α : Type v} {β : Type v}

/-- Fail unless a condition holds. -/
def ensure (condition : Prop) [Decidable condition] (error : ε) : Except ε Unit :=
  if condition then .ok () else .error error

/-- The value, or a failure where there is none. -/
def okOr (value : Option α) (error : ε) : Except ε α :=
  match value with
  | some present => .ok present
  | none => .error error

@[simp]
theorem ensure_eq_ok_iff
    (condition : Prop) [Decidable condition] (error : ε) (done : Unit) :
    ensure condition error = .ok done ↔ condition := by
  unfold ensure
  split <;> simp_all

@[simp]
theorem ensure_eq_error_iff
    (condition : Prop) [Decidable condition] (error raised : ε) :
    ensure condition error = .error raised ↔ ¬ condition ∧ error = raised := by
  unfold ensure
  split <;> simp_all

@[simp]
theorem okOr_eq_ok_iff (value : Option α) (error : ε) (present : α) :
    okOr value error = .ok present ↔ value = some present := by
  cases value <;> simp [okOr]

@[simp]
theorem okOr_eq_error_iff (value : Option α) (error raised : ε) :
    okOr value error = .error raised ↔ value = none ∧ error = raised := by
  cases value <;> simp [okOr]

@[simp]
theorem bind_eq_ok_iff
    (computation : Except ε α) (next : α → Except ε β) (final : β) :
    (computation >>= next) = .ok final ↔
      ∃ value, computation = .ok value ∧ next value = .ok final := by
  cases computation with
  | error raised => simp [bind, Except.bind]
  | ok value => simp [bind, Except.bind]

@[simp]
theorem bind_eq_error_iff
    (computation : Except ε α) (next : α → Except ε β) (raised : ε) :
    (computation >>= next) = .error raised ↔
      computation = .error raised ∨
        ∃ value, computation = .ok value ∧ next value = .error raised := by
  cases computation with
  | error earlier => simp [bind, Except.bind]
  | ok value => simp [bind, Except.bind]

@[simp]
theorem pure_eq_ok_iff (value final : α) :
    (pure value : Except ε α) = .ok final ↔ value = final := by
  simp [pure, Except.pure]

@[simp]
theorem pure_ne_error (value : α) (raised : ε) :
    (pure value : Except ε α) ≠ .error raised := by
  simp [pure, Except.pure]

/-- Renaming failures leaves successes as they are. -/
theorem renamed_eq_ok_iff
    {ε' : Type w} {rename : ε → ε'} {computation : Except ε α} {value : α} :
    computation.mapError rename = .ok value ↔ computation = .ok value := by
  cases computation <;> simp [Except.mapError]

/-- Repeat a check over a list and stop at the first failure. -/
def checkAll (check : α → Except ε Unit) : List α → Except ε Unit
  | [] => .ok ()
  | head :: tail => do
      check head
      checkAll check tail

/-- A repeated check succeeds when every single one does. -/
@[simp]
theorem checkAll_eq_ok_iff
    (check : α → Except ε Unit) (items : List α) (done : Unit) :
    checkAll check items = .ok done ↔ ∀ item, item ∈ items → check item = .ok () := by
  induction items with
  | nil => simp [checkAll]
  | cons head tail inductionHypothesis =>
      simp [checkAll, inductionHypothesis, Unique.exists_iff]

/-- A repeated check fails as some single one does. -/
theorem exists_of_checkAll_eq_error
    {check : α → Except ε Unit} {items : List α} {raised : ε}
    (failed : checkAll check items = .error raised) :
    ∃ item, item ∈ items ∧ check item = .error raised := by
  induction items with
  | nil => simp [checkAll] at failed
  | cons head tail inductionHypothesis =>
      rw [checkAll, bind_eq_error_iff] at failed
      rcases failed with atHead | ⟨_, _, later⟩
      · exact ⟨head, List.mem_cons_self, atHead⟩
      · obtain ⟨item, member, itemFailed⟩ := inductionHypothesis later
        exact ⟨item, List.mem_cons_of_mem head member, itemFailed⟩

/-- No two items have the same key, and none has a key that was seen before. -/
def checkDistinct
    {κ : Type w} [DecidableEq κ] (key : α → κ) (duplicate : α → ε) :
    List κ → List α → Except ε Unit
  | _, [] => .ok ()
  | seen, item :: rest => do
      ensure (key item ∉ seen) (duplicate item)
      checkDistinct key duplicate (key item :: seen) rest

theorem checkDistinct_eq_ok_iff
    {κ : Type w} [DecidableEq κ] {key : α → κ} {duplicate : α → ε}
    (items : List α) (seen : List κ) (done : Unit) :
    checkDistinct key duplicate seen items = .ok done ↔
      (items.map key).Nodup ∧ ∀ item ∈ items, key item ∉ seen := by
  induction items generalizing seen with
  | nil => simp [checkDistinct]
  | cons head tail inductionHypothesis =>
      simp only [checkDistinct, bind_eq_ok_iff, ensure_eq_ok_iff, inductionHypothesis,
        List.map_cons, List.nodup_cons, List.mem_cons, List.mem_map, not_or]
      constructor
      · rintro ⟨_, headNew, distinct, restNew⟩
        refine ⟨⟨?_, distinct⟩, ?_⟩
        · rintro ⟨item, member, same⟩
          exact (restNew item member).1 same
        · rintro item (rfl | member)
          · exact headNew
          · exact (restNew item member).2
      · rintro ⟨⟨headAbsent, distinct⟩, allNew⟩
        refine ⟨(), allNew head (.inl rfl), distinct, ?_⟩
        intro item member
        exact ⟨fun same => headAbsent ⟨item, member, same⟩, allNew item (.inr member)⟩

/-- Chains agree when they agree on the values that get through. -/
theorem bind_congr_ok
    {computation : Except ε α} {first second : α → Except ε β}
    (agree : ∀ value, computation = .ok value → first value = second value) :
    (computation >>= first) = (computation >>= second) := by
  cases computation with
  | error raised => rfl
  | ok value => exact agree value rfl

theorem checkAll_congr
    {first second : α → Except ε Unit} {items : List α}
    (agree : ∀ item ∈ items, first item = second item) :
    checkAll first items = checkAll second items := by
  induction items with
  | nil => rfl
  | cons head tail inductionHypothesis =>
      rw [checkAll, checkAll, agree head List.mem_cons_self,
        inductionHypothesis fun item member => agree item (List.mem_cons_of_mem head member)]

/-- What is written item by item is read back item by item. -/
theorem mapM_map_eq_ok
    {β : Type w} {write : α → β} {read : β → Except ε α}
    (readsBack : ∀ item, read (write item) = .ok item) (items : List α) :
    (items.map write).mapM read = .ok items := by
  induction items with
  | nil => rfl
  | cons head tail inductionHypothesis =>
      rw [List.map_cons, List.mapM_cons, readsBack, inductionHypothesis]
      rfl

theorem option_mapM_map_eq_ok
    {β : Type w} {write : α → β} {read : β → Except ε α}
    (readsBack : ∀ item, read (write item) = .ok item) (item : Option α) :
    (item.map write).mapM read = .ok item := by
  cases item with
  | none => rfl
  | some present =>
      rw [Option.map_some, Option.mapM_some, readsBack]
      rfl

theorem mapM_cons_eq_ok_iff
    {β : Type w} {read : α → Except ε β} {item : α} {items : List α} {results : List β} :
    (item :: items).mapM read = .ok results ↔
      ∃ result rest, read item = .ok result ∧ items.mapM read = .ok rest ∧
        result :: rest = results := by
  rw [List.mapM_cons]
  simp only [bind_eq_ok_iff, pure_eq_ok_iff]
  constructor
  · rintro ⟨result, isRead, rest, restRead, same⟩
    exact ⟨result, rest, isRead, restRead, same⟩
  · rintro ⟨result, rest, isRead, restRead, same⟩
    exact ⟨result, isRead, rest, restRead, same⟩

theorem length_of_mapM
    {β : Type w} {read : α → Except ε β} {items : List α} {results : List β}
    (allRead : items.mapM read = .ok results) : results.length = items.length := by
  induction items generalizing results with
  | nil =>
      cases allRead
      rfl
  | cons item rest inductionHypothesis =>
      obtain ⟨first, others, -, restRead, rfl⟩ := mapM_cons_eq_ok_iff.mp allRead
      rw [List.length_cons, List.length_cons, inductionHypothesis restRead]

/-- Every result was read from an item. -/
theorem exists_of_mem_mapM
    {β : Type w} {read : α → Except ε β} {items : List α} {results : List β}
    (allRead : items.mapM read = .ok results) :
    ∀ result ∈ results, ∃ item ∈ items, read item = .ok result := by
  induction items generalizing results with
  | nil =>
      cases allRead
      exact fun _ member => absurd member List.not_mem_nil
  | cons item rest inductionHypothesis =>
      obtain ⟨first, others, isRead, restRead, rfl⟩ := mapM_cons_eq_ok_iff.mp allRead
      intro result member
      rcases List.mem_cons.mp member with isFirst | isOther
      · rw [isFirst]
        exact ⟨item, List.mem_cons_self, isRead⟩
      · obtain ⟨source, sourceMember, sourceRead⟩ := inductionHypothesis restRead result isOther
        exact ⟨source, List.mem_cons_of_mem item sourceMember, sourceRead⟩

/-- All items can be read exactly when each can. -/
theorem exists_mapM_eq_ok_iff
    {β : Type w} {read : α → Except ε β} {items : List α} :
    (∃ results, items.mapM read = .ok results) ↔
      ∀ item ∈ items, ∃ result, read item = .ok result := by
  induction items with
  | nil => exact ⟨fun _ _ member => absurd member List.not_mem_nil, fun _ => ⟨[], rfl⟩⟩
  | cons item rest inductionHypothesis =>
      rw [List.forall_mem_cons, ← inductionHypothesis]
      constructor
      · rintro ⟨results, allRead⟩
        obtain ⟨result, others, isRead, restRead, -⟩ := mapM_cons_eq_ok_iff.mp allRead
        exact ⟨⟨result, isRead⟩, ⟨others, restRead⟩⟩
      · rintro ⟨⟨result, isRead⟩, ⟨others, restRead⟩⟩
        exact ⟨result :: others, mapM_cons_eq_ok_iff.mpr ⟨result, others, isRead, restRead, rfl⟩⟩

/-- Two readers give the same results exactly when they agree on every item. -/
theorem mapM_eq_ok_congr
    {β : Type w} {first second : α → Except ε β} {items : List α} {results : List β}
    (firstRead : items.mapM first = .ok results) :
    items.mapM second = .ok results ↔ ∀ item ∈ items, second item = first item := by
  induction items generalizing results with
  | nil =>
      cases firstRead
      simp [pure, Except.pure]
  | cons item rest inductionHypothesis =>
      obtain ⟨result, others, isRead, restRead, rfl⟩ := mapM_cons_eq_ok_iff.mp firstRead
      rw [mapM_cons_eq_ok_iff, List.forall_mem_cons, isRead, ← inductionHypothesis restRead]
      constructor
      · rintro ⟨secondResult, secondOthers, secondIsRead, secondRestRead, same⟩
        rw [List.cons.injEq] at same
        rw [← same.1, ← same.2]
        exact ⟨secondIsRead, secondRestRead⟩
      · rintro ⟨secondIsRead, secondRestRead⟩
        exact ⟨result, others, secondIsRead, secondRestRead, rfl⟩

/-- A loop that accepts items one by one succeeds when all items are acceptable at
its start and no two of them get in each other's way. -/
theorem foldlM_eq_ok_iff
    {σ : Type w} {step : σ → α → Except ε σ} {put : σ → α → σ} {accepts : σ → α → Prop}
    {apart : α → α → Prop}
    (step_iff :
      ∀ state item next, step state item = .ok next ↔ accepts state item ∧ put state item = next)
    (accepts_put :
      ∀ state item other,
        accepts (put state item) other ↔ accepts state other ∧ apart item other)
    (items : List α) (state final : σ) :
    items.foldlM step state = .ok final ↔
      (∀ item ∈ items, accepts state item) ∧ items.Pairwise apart ∧
        items.foldl put state = final := by
  induction items generalizing state with
  | nil => simp
  | cons item rest inductionHypothesis =>
      rw [List.foldlM_cons, bind_eq_ok_iff, List.pairwise_cons, List.foldl_cons]
      simp only [step_iff, inductionHypothesis, List.forall_mem_cons]
      constructor
      · rintro ⟨next, ⟨accepted, rfl⟩, restAccepted, restApart, finished⟩
        have each := fun other member => (accepts_put state item other).mp (restAccepted other member)
        exact ⟨⟨accepted, fun other member => (each other member).1⟩,
          ⟨fun other member => (each other member).2, restApart⟩, finished⟩
      · rintro ⟨⟨accepted, restAccepted⟩, ⟨itemApart, restApart⟩, finished⟩
        refine ⟨put state item, ⟨accepted, rfl⟩, ?_, restApart, finished⟩
        exact fun other member =>
          (accepts_put state item other).mpr ⟨restAccepted other member, itemApart other member⟩

/-- The value of a computation has a property, if there is one. -/
def Ensures (property : α → Prop) : Except ε α → Prop
  | .ok value => property value
  | .error _ => True

instance (property : α → Prop) [DecidablePred property] (computation : Except ε α) :
    Decidable (Ensures property computation) :=
  match computation with
  | .ok value => inferInstanceAs (Decidable (property value))
  | .error _ => inferInstanceAs (Decidable True)

/-- The last part of a sequence decides on its value. -/
theorem ensures_bind
    {property : β → Prop} {computation : Except ε α} {next : α → Except ε β}
    (each : ∀ value, computation = .ok value → Ensures property (next value)) :
    Ensures property (computation >>= next) := by
  cases computation with
  | error raised => trivial
  | ok value => exact each value rfl

/-! ## Which errors a computation raises -/

/-- Every error of a computation is allowed. -/
def OnlyRaises (allowed : ε → Prop) (computation : Except ε α) : Prop :=
  ∀ raised, computation = .error raised → allowed raised

section Raising

variable {allowed : ε → Prop}

theorem onlyRaises_ok (value : α) : OnlyRaises allowed (.ok value : Except ε α) := by
  intro raised failed
  cases failed

theorem onlyRaises_error
    {error : ε} (isAllowed : allowed error) :
    OnlyRaises allowed (.error error : Except ε α) := by
  intro raised failed
  cases failed
  exact isAllowed

theorem onlyRaises_ensure
    (condition : Prop) [Decidable condition] {error : ε} (isAllowed : allowed error) :
    OnlyRaises allowed (ensure condition error) := by
  intro raised failed
  rw [ensure_eq_error_iff] at failed
  exact failed.2 ▸ isAllowed

theorem onlyRaises_okOr
    (value : Option α) {error : ε} (isAllowed : allowed error) :
    OnlyRaises allowed (okOr value error) := by
  intro raised failed
  rw [okOr_eq_error_iff] at failed
  exact failed.2 ▸ isAllowed

theorem onlyRaises_bind
    {computation : Except ε α} {next : α → Except ε β}
    (first : OnlyRaises allowed computation)
    (later : ∀ value, OnlyRaises allowed (next value)) :
    OnlyRaises allowed (computation >>= next) := by
  intro raised failed
  rcases (bind_eq_error_iff _ _ _).mp failed with early | ⟨value, _, late⟩
  · exact first raised early
  · exact later value raised late

theorem onlyRaises_mapError
    {δ : Type} {computation : Except δ α} {rename : δ → ε}
    (isAllowed : ∀ error, allowed (rename error)) :
    OnlyRaises allowed (computation.mapError rename) := by
  intro raised failed
  cases computation with
  | ok value => cases failed
  | error error =>
      cases failed
      exact isAllowed error

theorem onlyRaises_mapM
    {f : α → Except ε β} (each : ∀ item, OnlyRaises allowed (f item)) (items : List α) :
    OnlyRaises allowed (items.mapM f) := by
  induction items with
  | nil => exact onlyRaises_ok []
  | cons item rest inductionHypothesis =>
      rw [List.mapM_cons]
      exact onlyRaises_bind (each item) fun _ =>
        onlyRaises_bind inductionHypothesis fun _ => onlyRaises_ok _

theorem onlyRaises_checkAll
    {check : α → Except ε Unit} {items : List α}
    (each : ∀ item ∈ items, OnlyRaises allowed (check item)) :
    OnlyRaises allowed (checkAll check items) := by
  intro raised failed
  obtain ⟨item, member, itemFailed⟩ := exists_of_checkAll_eq_error failed
  exact each item member raised itemFailed

end Raising

end Outcome

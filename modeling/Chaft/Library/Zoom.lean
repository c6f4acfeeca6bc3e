import Chaft.Library.Effect

/-!
# A part of a state

A computation on a part of a state leaves the other parts alone.
-/

namespace Effects.Effect

variable {σ ρ ε α : Type}

/-- A computation on the part of a state that `part` reads and `put` replaces. -/
def zoom (part : σ → ρ) (put : σ → ρ → σ) (computation : Effect ρ ε α) : Effect σ ε α :=
  fun state => ((computation (part state)).1, put state (computation (part state)).2)

variable {part : σ → ρ} {put : σ → ρ → σ} {computation : Effect ρ ε α}

theorem zoom_eq_ok_iff (state final : σ) (value : α) :
    zoom part put computation state = (.ok value, final) ↔
      ∃ after, computation (part state) = (.ok value, after) ∧ put state after = final := by
  rw [zoom]
  cases outcome : computation (part state) with
  | mk result after =>
      rw [Prod.mk.injEq]
      constructor
      · intro same
        exact ⟨after, by rw [← same.1], same.2⟩
      · intro found
        obtain ⟨other, same, isFinal⟩ := found
        obtain ⟨isOk, isOther⟩ := Prod.mk.inj same
        exact ⟨isOk, by rw [isOther]; exact isFinal⟩

end Effects.Effect

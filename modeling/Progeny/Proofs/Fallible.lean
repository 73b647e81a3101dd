import Mathlib.Init

/-!
# Computations that change a state and may fail

Drawing words and reading characters are both of this kind.
-/

namespace Progeny.Fallible

variable {σ ε α β : Type} {first : StateT σ (Except ε) α} {next : α → StateT σ (Except ε) β}
  {s s' : σ} {b : β}

theorem bind_eq (first : StateT σ (Except ε) α) (next : α → StateT σ (Except ε) β) (s : σ) :
    (first >>= next) s = match first s with
      | .ok (a, middle) => next a middle
      | .error e => .error e := by
  change (first s >>= fun run => next run.1 run.2) = _
  cases first s <;> rfl

theorem bind_eq_ok :
    (first >>= next) s = .ok (b, s') ↔
      ∃ a middle, first s = .ok (a, middle) ∧ next a middle = .ok (b, s') := by
  rw [bind_eq]
  constructor
  · intro h
    cases run : first s with
    | ok result =>
      rw [run] at h
      exact ⟨result.1, result.2, rfl, h⟩
    | error e => simp [run] at h
  · rintro ⟨a, middle, run, h⟩
    rw [run]
    exact h

end Progeny.Fallible

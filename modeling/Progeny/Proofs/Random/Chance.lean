import Progeny.Evolution.Config
import Progeny.Proofs.Double.Unit
import Progeny.Proofs.Random.Yields

/-!
# Tossing coins

A coin with a probability can be tossed, and one with probability zero never falls on `true`.  The
coins of a program compare its probability with a number below 1, so those of probability one always
fall on `true`.
-/

namespace Progeny.Draw

variable {listed : Nat}

theorem yields_chance {p : Float} (probability : 0.0 ≤ p ∧ p ≤ 1.0) :
    Yields listed (chance p) fun _ => True := by
  obtain ⟨low, high⟩ := probability
  unfold chance
  refine yields_ite (fun _ => yields_pure trivial) fun notSure => ?_
  refine yields_ite (fun _ => ?_) fun h => ?_
  · exact yields_word.bind fun _ _ => yields_pure trivial
  · exfalso
    apply h
    refine ⟨low, ?_⟩
    obtain ⟨hp, h1, atMost⟩ := Double.le_iff.mp high
    have different : Double.placeOf p ≠ Double.placeOf 1.0 := fun same =>
      notSure (Double.beq_iff.mpr ⟨hp, h1, same⟩)
    exact Double.lt_iff.mpr ⟨hp, h1, by omega⟩

theorem yields_chance_zero {p : Float} (zero : (p == 0.0) = true) :
    Yields listed (chance p) (· = false) := by
  obtain ⟨notSure, within, bound⟩ :
      ¬(p == 1.0) = true ∧ (0.0 ≤ p ∧ p < 1.0) ∧ coinBound p = 0 := by
    rcases Double.eq_zero_of_beq zero with rfl | rfl
    · decide +kernel
    · decide +kernel
  unfold chance
  rw [if_neg notSure, if_pos within, bound]
  refine yields_word.bind fun w _ => yields_pure (decide_eq_false ?_)
  rw [UInt64.lt_iff_toNat_lt]
  exact Nat.not_lt_zero _

/-- A program's own coin, where its probability is one. -/
theorem yields_willing : Yields listed (unit >>= fun x => pure (decide (x ≤ 1.0))) (· = true) := by
  refine yields_unit.bind fun x hx => yields_pure ?_
  obtain ⟨w, rfl⟩ := hx
  exact decide_eq_true (Double.le_of_lt (ofWord_lt_one w))

end Progeny.Draw

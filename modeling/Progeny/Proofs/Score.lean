import Progeny.Proofs.Double.Order
import Progeny.Proofs.Sequence.First
import Progeny.Selection

/-!
# Ranks, values and the best score

Three ways of comparing scores meet in a run.  The sort goes by rank, which is total; elitism
compares values, and a value that is not a number beats nothing; and the best score of a population
is a fold that skips what is not a number.  For scores that are numbers the first two agree, and the
best score is the least number that no number among the scores exceeds.
-/

namespace Progeny

open Double

namespace Score

variable {s t : Score}

theorem toBits_value (s : Score) :
    s.value.toBits.toBitVec = Float.Model.UnpackedFloat.pack Float.Model.Format.binary64
      (Float.Model.UnpackedFloat.unpack Float.Model.Format.binary64 s.bits.toBitVec) := rfl

theorem isNaN_value_iff : s.value.isNaN = true ↔ infinity < magnitude s.bits.toBitVec := by
  rw [isNaN_iff, toBits_value]
  constructor
  · intro above
    refine Nat.not_le.mp fun number => ?_
    rw [pack_unpack number] at above
    omega
  · intro above
    rw [unpack_eq_nan_iff.mpr above]
    decide

/-- The value of a score that is a number has the bits of the score. -/
theorem placeOf_value (number : s.value.isNaN = false) :
    placeOf s.value = place s.bits.toBitVec := by
  have within : ¬infinity < magnitude s.bits.toBitVec := by
    rw [← isNaN_value_iff, number]
    exact Bool.false_ne_true
  unfold placeOf
  rw [toBits_value, pack_unpack (by omega)]

/-- A pattern without the sign bit ranks at its place. -/
theorem rank_of_positive (positive : s.bits.toNat < 2 ^ 63) :
    s.rank = s.bits.toNat ∧ place s.bits.toBitVec = s.bits.toNat := by
  have low : s.bits < 0x8000000000000000 := UInt64.lt_iff_toNat_lt.mpr positive
  have bits : s.bits.toBitVec.toNat = s.bits.toNat := rfl
  constructor
  · unfold rank
    rw [if_pos low]
  · unfold place sign magnitude
    rw [bits, if_pos positive, Nat.mod_eq_of_lt positive]
    rfl

/-- A pattern with the sign bit ranks one below its place. -/
theorem rank_of_negative (negative : ¬s.bits.toNat < 2 ^ 63) :
    s.rank = (2 ^ 63 : Int) - s.bits.toNat - 1 ∧
      place s.bits.toBitVec = (2 ^ 63 : Int) - s.bits.toNat := by
  have bound := s.bits.toNat_lt
  have high : ¬s.bits < 0x8000000000000000 := fun low =>
    negative (UInt64.lt_iff_toNat_lt.mp low)
  have bits : s.bits.toBitVec.toNat = s.bits.toNat := rfl
  constructor
  · unfold rank
    rw [if_neg high]
    omega
  · unfold place sign magnitude
    rw [bits, if_neg negative]
    simp only [Float.Model.UnpackedFloat.Sign.apply]
    omega

theorem place_le_of_rank_le (h : s.rank ≤ t.rank) :
    place s.bits.toBitVec ≤ place t.bits.toBitVec := by
  by_cases hs : s.bits.toNat < 2 ^ 63
  · obtain ⟨rank_s, place_s⟩ := rank_of_positive hs
    by_cases ht : t.bits.toNat < 2 ^ 63
    · obtain ⟨rank_t, place_t⟩ := rank_of_positive ht
      omega
    · obtain ⟨rank_t, place_t⟩ := rank_of_negative ht
      omega
  · obtain ⟨rank_s, place_s⟩ := rank_of_negative hs
    by_cases ht : t.bits.toNat < 2 ^ 63
    · obtain ⟨rank_t, place_t⟩ := rank_of_positive ht
      omega
    · obtain ⟨rank_t, place_t⟩ := rank_of_negative ht
      omega

/-- Numbers are ranked by their values. -/
theorem value_le_of_rank_le (hs : s.value.isNaN = false) (ht : t.value.isNaN = false)
    (h : s.rank ≤ t.rank) : s.value ≤ t.value := by
  refine le_iff.mpr ⟨hs, ht, ?_⟩
  rw [placeOf_value hs, placeOf_value ht]
  exact place_le_of_rank_le h

theorem beats_iff : s.beats t = true ↔ t.value < s.value := decide_eq_true_iff

end Score

namespace ScoreSummary

open Sequence

/-- A scan for the number with the greatest key, which passes over what is not a number. -/
theorem isFirst_scan {better : Float → Float → Prop} [DecidableRel better] {key : Float → Int}
    (better_iff : ∀ x y, better x y ↔ x.isNaN = false ∧ y.isNaN = false ∧ key x < key y)
    {limit : Float} (number : limit.isNaN = false) (xs : List Float) :
    IsFirst (·.isNaN = false) key (limit :: xs)
      (xs.foldl (fun x y => if better x y ∨ x.isNaN then y else x) limit) := by
  have start : IsFirst (·.isNaN = false) key [limit] limit := isFirst_singleton number
  refine isFirst_foldl ?_ ?_ start xs
  · intro x y hx hy above
    exact if_pos (.inl ((better_iff x y).mpr ⟨hx, hy, above⟩))
  · intro x y hx kept
    refine if_neg ?_
    rintro (above | nan)
    · obtain ⟨-, hy, above⟩ := (better_iff x y).mp above
      exact absurd (kept hy) (Int.not_le.mpr above)
    · exact Bool.false_ne_true (hx.symm.trans nan)

variable {xs : List Float}

/-- The best of some scores is the number among them, and the negative infinity, that is greatest. -/
theorem isFirst_best (some : xs ≠ []) :
    IsFirst (·.isNaN = false) placeOf (-1.0 / 0.0 :: xs) (ofScores xs).best := by
  unfold ofScores
  rw [if_neg (by simpa using some)]
  exact isFirst_scan (fun _ _ => lt_iff) (by decide) xs

/-- The best of some scores is a number, whatever they are. -/
theorem isNaN_best (xs : List Float) : (ofScores xs).best.isNaN = false := by
  by_cases none : xs = []
  · subst none
    decide
  · exact (isFirst_best none).chosen

theorem le_best {x : Float} (mem : x ∈ xs) (number : x.isNaN = false) :
    x ≤ (ofScores xs).best := by
  have first := isFirst_best (List.ne_nil_of_mem mem)
  exact le_iff.mpr ⟨number, first.chosen, first.greatest x (List.mem_cons_of_mem _ mem) number⟩

/-- The best of some scores is the least number that no number among them exceeds. -/
theorem best_le_iff (some : xs ≠ []) {b : Float} (number : b.isNaN = false) :
    (ofScores xs).best ≤ b ↔ ∀ x ∈ xs, x.isNaN = false → x ≤ b := by
  have first := isFirst_best some
  constructor
  · intro bound x mem hx
    exact le_trans (le_best mem hx) bound
  · intro bounds
    obtain limit | mem := List.mem_cons.mp first.mem
    · refine le_iff.mpr ⟨first.chosen, number, ?_⟩
      rw [limit, placeOf_negative_infinity]
      exact (placeOf_bounds number).1
    · exact bounds _ mem first.chosen

end ScoreSummary

end Progeny

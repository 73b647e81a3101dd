import Progeny.Proofs.Score

/-!
# The best and the worst score

The best and the worst of some scores come out of two scans.  Each starts from the infinity that no
number is beyond, and passes over scores that are not numbers, so that it ends at a number in any
case, and at one of the scores if there is a number among them.  Up to the sign of a zero there is
one greatest and one smallest number among some scores, so neither the order of the scores nor what
is not a number among them has a part in the two.
-/

namespace Progeny.ScoreSummary

open Double Sequence

variable {xs ys : List Float}

/-- The worst of some scores is the number among them, and the infinity, that is smallest. -/
theorem isFirst_worst (some : xs ≠ []) :
    IsFirst (·.isNaN = false) (fun x => -placeOf x) (1.0 / 0.0 :: xs) (ofScores xs).worst := by
  have below (x y : Float) :
      y < x ↔ x.isNaN = false ∧ y.isNaN = false ∧ -placeOf x < -placeOf y := by
    rw [lt_iff, Int.neg_lt_neg_iff]
    exact and_left_comm
  unfold ofScores
  rw [if_neg (by simpa using some)]
  exact isFirst_scan below (by decide) xs

/-! ### Scans that start from a limit -/

section Limit

variable {key : Float → Int} {limit a : Float}

/-- A scan that starts from a limit reaches one of the numbers, if there are any. -/
theorem exists_reached (first : IsFirst (·.isNaN = false) key (limit :: xs) a)
    (least : ∀ x, x.isNaN = false → key limit ≤ key x) (number : ∃ x ∈ xs, x.isNaN = false) :
    ∃ x ∈ xs, x.isNaN = false ∧ key a = key x := by
  obtain same | mem := List.mem_cons.mp first.mem
  · obtain ⟨x, mem, hx⟩ := number
    have above : key x ≤ key a := first.greatest x (List.mem_cons_of_mem limit mem) hx
    have below : key a ≤ key x := same ▸ least x hx
    exact ⟨x, mem, hx, Int.le_antisymm below above⟩
  · exact ⟨a, mem, first.chosen, rfl⟩

/-- Without a number to go over to, a scan ends where it starts. -/
theorem eq_limit (first : IsFirst (·.isNaN = false) key (limit :: xs) a)
    (none : ∀ x ∈ xs, x.isNaN = true) : a = limit := by
  obtain same | mem := List.mem_cons.mp first.mem
  · exact same
  · exact absurd (first.chosen.symm.trans (none a mem)) Bool.false_ne_true

end Limit

/-! ### The extremes of the numbers -/

/-- `worst` and `best` are numbers, equal to some of the scores, and all scores that are numbers are
between them. -/
structure Extremes (xs : List Float) (worst best : Float) : Prop where
  isNaN_worst : worst.isNaN = false
  isNaN_best : best.isNaN = false
  worst_le_best : worst ≤ best
  worst_mem : ∃ x ∈ xs, (worst == x) = true
  best_mem : ∃ x ∈ xs, (best == x) = true
  between : ∀ x ∈ xs, x.isNaN = false → worst ≤ x ∧ x ≤ best

theorem extremes_ofScores (number : ∃ x ∈ xs, x.isNaN = false) :
    Extremes xs (ofScores xs).worst (ofScores xs).best := by
  obtain ⟨y, inside, hy⟩ := id number
  have some : xs ≠ [] := List.ne_nil_of_mem inside
  have best := isFirst_best some
  have worst := isFirst_worst some
  have between (x : Float) (mem : x ∈ xs) (hx : x.isNaN = false) :
      (ofScores xs).worst ≤ x ∧ x ≤ (ofScores xs).best := by
    have place := worst.greatest x (List.mem_cons_of_mem _ mem) hx
    exact ⟨le_iff.mpr ⟨worst.chosen, hx, Int.neg_le_neg_iff.mp place⟩, le_best mem hx⟩
  refine ⟨worst.chosen, best.chosen, ?_, ?_, ?_, between⟩
  · obtain ⟨lower, upper⟩ := between y inside hy
    exact le_trans lower upper
  · have least (x : Float) (hx : x.isNaN = false) : -placeOf (1.0 / 0.0) ≤ -placeOf x := by
      rw [placeOf_infinity]
      exact Int.neg_le_neg (placeOf_bounds hx).2
    obtain ⟨x, mem, hx, same⟩ := exists_reached worst least number
    exact ⟨x, mem, beq_iff.mpr ⟨worst.chosen, hx, Int.neg_inj.mp same⟩⟩
  · have least (x : Float) (hx : x.isNaN = false) : placeOf (-1.0 / 0.0) ≤ placeOf x := by
      rw [placeOf_negative_infinity]
      exact (placeOf_bounds hx).1
    obtain ⟨x, mem, hx, same⟩ := exists_reached best least number
    exact ⟨x, mem, beq_iff.mpr ⟨best.chosen, hx, same⟩⟩

section Unique

variable {worst best worst' best' : Float}

/-- The extremes of fewer numbers are no further apart. -/
theorem Extremes.encloses (h : Extremes xs worst best) (h' : Extremes ys worst' best')
    (among : ∀ x ∈ ys, x.isNaN = false → x ∈ xs) : worst ≤ worst' ∧ best' ≤ best := by
  obtain ⟨x, memX, sameX⟩ := h'.worst_mem
  obtain ⟨y, memY, sameY⟩ := h'.best_mem
  obtain ⟨-, hx, -⟩ := beq_iff.mp sameX
  obtain ⟨-, hy, -⟩ := beq_iff.mp sameY
  obtain ⟨lower, -⟩ := h.between x (among x memX hx) hx
  obtain ⟨-, upper⟩ := h.between y (among y memY hy) hy
  exact ⟨le_trans lower (beq_iff_le.mp sameX).2, le_trans (beq_iff_le.mp sameY).1 upper⟩

/-- Scores with the same numbers among them have equal extremes. -/
theorem Extremes.unique (h : Extremes xs worst best) (h' : Extremes ys worst' best')
    (same : ∀ x, x.isNaN = false → (x ∈ ys ↔ x ∈ xs)) :
    (worst' == worst) = true ∧ (best' == best) = true := by
  obtain ⟨worst_le, le_best⟩ := h.encloses h' fun x mem hx => (same x hx).mp mem
  obtain ⟨le_worst, best_le⟩ := h'.encloses h fun x mem hx => (same x hx).mpr mem
  exact ⟨beq_iff_le.mpr ⟨le_worst, worst_le⟩, beq_iff_le.mpr ⟨le_best, best_le⟩⟩

end Unique

/-- The scores that are numbers. -/
def numbers (xs : List Float) : List Float := xs.filter (!·.isNaN)

theorem mem_numbers {x : Float} : x ∈ numbers xs ↔ x ∈ xs ∧ x.isNaN = false := by
  rw [numbers, List.mem_filter, Bool.not_eq_true']

/-- Scores in another order have the same numbers among them. -/
theorem numbers_perm (perm : ys.Perm xs) : (numbers ys).Perm (numbers xs) := perm.filter _

/-- What is not a number may stand anywhere, or nowhere. -/
theorem numbers_append_cons {nan : Float} (h : nan.isNaN = true) (before after : List Float) :
    numbers (before ++ nan :: after) = numbers (before ++ after) := by
  have left : ¬(!nan.isNaN) = true := by
    rw [h]
    exact Bool.false_ne_true
  unfold numbers
  rw [List.filter_append, List.filter_append, List.filter_cons, if_neg left]

/-- If there is a number among some scores, then their best and their worst are numbers, equal to
some of them and beyond all others, and they stay equal whatever is done to the order of the scores
or to those that are not numbers.  If there is none, then they are the infinities. -/
theorem extremes_are_of_numbers (some : xs ≠ []) :
    ((∃ x ∈ xs, x.isNaN = false) →
      Extremes xs (ofScores xs).worst (ofScores xs).best ∧
      ∀ ys, (numbers ys).Perm (numbers xs) →
        ((ofScores ys).worst == (ofScores xs).worst) = true ∧
          ((ofScores ys).best == (ofScores xs).best) = true) ∧
    ((∀ x ∈ xs, x.isNaN = true) →
      (ofScores xs).best = .ofBits 0xFFF0000000000000 ∧
        (ofScores xs).worst = .ofBits 0x7FF0000000000000) := by
  constructor
  · intro number
    refine ⟨extremes_ofScores number, fun ys perm => ?_⟩
    have same (x : Float) (hx : x.isNaN = false) : x ∈ ys ↔ x ∈ xs := by
      have inside : x ∈ numbers ys ↔ x ∈ numbers xs := perm.mem_iff
      rw [mem_numbers, mem_numbers] at inside
      exact (and_iff_left hx).symm.trans (inside.trans (and_iff_left hx))
    have number' : ∃ x ∈ ys, x.isNaN = false := by
      obtain ⟨x, mem, hx⟩ := number
      exact ⟨x, (same x hx).mpr mem, hx⟩
    exact (extremes_ofScores number).unique (extremes_ofScores number') same
  · intro none
    have best := eq_limit (isFirst_best some) none
    have worst := eq_limit (isFirst_worst some) none
    rw [best, worst]
    decide

/-- Three numbers, and two patterns of either sign that are not numbers. -/
def mixed : List Float :=
  [.ofBits 0x7FF8000000000000, 2.0, -0.0, .ofBits 0xFFF8000000000000, -3.5]

theorem extremes_are_of_numbers_mixed :
    Extremes mixed (ofScores mixed).worst (ofScores mixed).best ∧
    (ofScores mixed).worst = -3.5 ∧ (ofScores mixed).best = 2.0 ∧
    ((ofScores [-0.0, -3.5, 2.0]).worst == (ofScores mixed).worst) = true ∧
    ((ofScores [-0.0, -3.5, 2.0]).best == (ofScores mixed).best) = true ∧
    (ofScores [.ofBits 0xFFF8000000000000]).best = .ofBits 0xFFF0000000000000 ∧
    (ofScores [.ofBits 0xFFF8000000000000]).worst = .ofBits 0x7FF0000000000000 := by
  have number : ∃ x ∈ mixed, x.isNaN = false := ⟨2.0, by simp [mixed], by decide⟩
  have kept : numbers [2.0, -0.0, -3.5] = numbers mixed :=
    ((numbers_append_cons (by decide) [] _).trans
      (numbers_append_cons (by decide) [2.0, -0.0] [-3.5])).symm
  have perm : (numbers [-0.0, -3.5, 2.0]).Perm (numbers mixed) := kept ▸ numbers_perm (by decide)
  have none : ∀ x ∈ [Float.ofBits 0xFFF8000000000000], x.isNaN = true := by decide
  obtain ⟨extremes, same⟩ := (extremes_are_of_numbers (by decide)).1 number
  obtain ⟨worst, best⟩ := same _ perm
  obtain ⟨lowest, highest⟩ := (extremes_are_of_numbers (List.cons_ne_nil _ _)).2 none
  exact ⟨extremes, by decide +kernel, by decide +kernel, worst, best, lowest, highest⟩

end Progeny.ScoreSummary

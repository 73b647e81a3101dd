import Progeny.Proofs.Double.Place

/-!
# The order of doubles

Doubles that are numbers compare like their places, and a comparison with what is not a number is
false.  So the order laws of integers hold for numbers, and a score that is a number has the place
of its bits.
-/

namespace Progeny.Double

open Float.Model

theorem toBits_injective {x y : Float} (h : x.toBits = y.toBits) : x = y := by
  obtain ⟨⟨_, _⟩⟩ := x
  obtain ⟨⟨_, _⟩⟩ := y
  cases h
  rfl

/-- The place of a double. -/
def placeOf (x : Float) : Int := place x.toBits.toBitVec

theorem isNaN_iff {x : Float} : x.isNaN = true ↔ infinity < magnitude x.toBits.toBitVec := by
  rw [← unpack_eq_nan_iff]
  change UnpackedFloat.isNaN (UnpackedFloat.unpack Format.binary64 x.toBits.toBitVec) = true ↔ _
  cases UnpackedFloat.unpack Format.binary64 x.toBits.toBitVec with
  | notANumber => exact iff_of_true rfl rfl
  | infinity => exact iff_of_false Bool.false_ne_true nofun
  | zero => exact iff_of_false Bool.false_ne_true nofun
  | finite => exact iff_of_false Bool.false_ne_true nofun

theorem isNaN_eq_false_iff {x : Float} :
    x.isNaN = false ↔ magnitude x.toBits.toBitVec ≤ infinity := by
  rw [← Bool.not_eq_true, isNaN_iff]
  omega

/-- The comparison of two doubles. -/
def compared (x y : Float) : Option Ordering := x.toModel.unpack.compare y.toModel.unpack

theorem compared_of_numbers {x y : Float} (hx : x.isNaN = false) (hy : y.isNaN = false) :
    compared x y = some (compare (placeOf x) (placeOf y)) :=
  compare_unpack (isNaN_eq_false_iff.mp hx) (isNaN_eq_false_iff.mp hy)

theorem compared_of_nan {x y : Float} (h : x.isNaN = true ∨ y.isNaN = true) :
    compared x y = none := by
  rcases h with h | h
  · have key : x.toModel.unpack = .notANumber := unpack_eq_nan_iff.mpr (isNaN_iff.mp h)
    unfold compared
    rw [key]
    rfl
  · have key : y.toModel.unpack = .notANumber := unpack_eq_nan_iff.mpr (isNaN_iff.mp h)
    unfold compared
    rw [key]
    cases x.toModel.unpack <;> rfl

/-- Two doubles that can be compared are numbers. -/
theorem compared_eq_some_iff {x y : Float} {o : Ordering} :
    compared x y = some o ↔
      x.isNaN = false ∧ y.isNaN = false ∧ compare (placeOf x) (placeOf y) = o := by
  cases hx : x.isNaN with
  | true => simp [compared_of_nan (.inl hx)]
  | false =>
    cases hy : y.isNaN with
    | true => simp [compared_of_nan (.inr hy)]
    | false => simp [compared_of_numbers hx hy]

theorem lt_iff {x y : Float} :
    x < y ↔ x.isNaN = false ∧ y.isNaN = false ∧ placeOf x < placeOf y := by
  rw [← Int.compare_eq_lt, ← compared_eq_some_iff]
  change decide ((compared x y == some .lt) = true) = true ↔ _
  simp

theorem beq_iff {x y : Float} :
    (x == y) = true ↔ x.isNaN = false ∧ y.isNaN = false ∧ placeOf x = placeOf y := by
  rw [← Int.compare_eq_eq, ← compared_eq_some_iff]
  change (compared x y == some .eq) = true ↔ _
  simp

theorem le_iff {x y : Float} :
    x ≤ y ↔ x.isNaN = false ∧ y.isNaN = false ∧ placeOf x ≤ placeOf y := by
  change decide ((compared x y).any (·.isLE) = true) = true ↔ _
  rw [decide_eq_true_iff]
  cases hx : x.isNaN with
  | true => simp [compared_of_nan (.inl hx)]
  | false =>
    cases hy : y.isNaN with
    | true => simp [compared_of_nan (.inr hy)]
    | false => simp [compared_of_numbers hx hy, Int.isLE_compare]

/-! ### Laws of the order -/

variable {x y z : Float}

theorem le_refl (number : x.isNaN = false) : x ≤ x := le_iff.mpr ⟨number, number, Int.le_refl _⟩

theorem le_trans (h : x ≤ y) (h' : y ≤ z) : x ≤ z := by
  rw [le_iff] at h h' ⊢
  obtain ⟨hx, -, first⟩ := h
  obtain ⟨-, hz, second⟩ := h'
  exact ⟨hx, hz, Int.le_trans first second⟩

theorem le_of_lt (h : x < y) : x ≤ y := by
  rw [lt_iff] at h
  obtain ⟨hx, hy, places⟩ := h
  rw [le_iff]
  exact ⟨hx, hy, Int.le_of_lt places⟩

theorem not_lt_of_le (h : x ≤ y) : ¬y < x := by
  intro h'
  rw [le_iff] at h
  rw [lt_iff] at h'
  omega

theorem le_of_not_lt (hx : x.isNaN = false) (hy : y.isNaN = false) (h : ¬y < x) : x ≤ y := by
  rw [lt_iff] at h
  rw [le_iff]
  exact ⟨hx, hy, Int.not_lt.mp fun above => h ⟨hy, hx, above⟩⟩

theorem lt_of_le_of_lt (h : x ≤ y) (h' : y < z) : x < z := by
  rw [le_iff] at h
  rw [lt_iff] at h' ⊢
  obtain ⟨hx, -, first⟩ := h
  obtain ⟨-, hz, second⟩ := h'
  exact ⟨hx, hz, by omega⟩

theorem lt_of_lt_of_le (h : x < y) (h' : y ≤ z) : x < z := by
  rw [le_iff] at h'
  rw [lt_iff] at h ⊢
  obtain ⟨hx, -, first⟩ := h
  obtain ⟨-, hz, second⟩ := h'
  exact ⟨hx, hz, by omega⟩

/-- Two doubles are equal as numbers when each is at most the other. -/
theorem beq_iff_le : (x == y) = true ↔ x ≤ y ∧ y ≤ x := by
  rw [beq_iff, le_iff, le_iff]
  constructor
  · rintro ⟨hx, hy, same⟩
    exact ⟨⟨hx, hy, by omega⟩, hy, hx, by omega⟩
  · rintro ⟨⟨hx, hy, first⟩, -, -, second⟩
    exact ⟨hx, hy, by omega⟩

theorem placeOf_zero : placeOf 0.0 = 0 := by decide

/-- Only the two zeros are equal to zero. -/
theorem eq_zero_of_beq (h : (x == 0.0) = true) : x = 0.0 ∨ x = -0.0 := by
  have same : placeOf x = placeOf 0.0 := (beq_iff.mp h).2.2
  have magnitude : magnitude x.toBits.toBitVec = 0 := by
    rw [placeOf_zero] at same
    unfold placeOf place at same
    cases side : sign x.toBits.toBitVec with
    | positive => simpa [side, UnpackedFloat.Sign.apply] using same
    | negative => simpa [side, UnpackedFloat.Sign.apply] using same
  have bound := x.toBits.toNat_lt
  have bits : x.toBits.toBitVec.toNat = x.toBits.toNat := rfl
  unfold Double.magnitude at magnitude
  obtain low | high : x.toBits.toNat = 0 ∨ x.toBits.toNat = 2 ^ 63 := by omega
  · exact .inl (toBits_injective (UInt64.toNat_inj.mp low))
  · exact .inr (toBits_injective (UInt64.toNat_inj.mp high))

/-- The numbers are between the infinities. -/
theorem placeOf_bounds (number : x.isNaN = false) :
    -(infinity : Int) ≤ placeOf x ∧ placeOf x ≤ infinity := by
  have within := isNaN_eq_false_iff.mp number
  unfold placeOf place
  cases sign x.toBits.toBitVec <;> simp only [UnpackedFloat.Sign.apply] <;> omega

theorem placeOf_infinity : placeOf (1.0 / 0.0) = infinity := by decide

theorem placeOf_negative_infinity : placeOf (-1.0 / 0.0) = -(infinity : Int) := by decide

end Progeny.Double

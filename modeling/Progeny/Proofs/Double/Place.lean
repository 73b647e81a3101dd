import Mathlib.Algebra.Group.Int.Defs
import Mathlib.Algebra.Group.Nat.Defs
import Progeny.Score

/-!
# The place of a double among the numbers

A double is one bit of sign, eleven of exponent and 52 of fraction.  The lower 63 bits, read as one
number, are its magnitude: doubles of one sign are in the order of their magnitudes, and a pattern
whose magnitude is above that of infinity stands for no number.  The place of a double is its
magnitude with its sign, so that the two zeros share a place.  The main statement is that the
comparison of two numbers is that of their places.
-/

namespace Progeny.Double

open Float.Model Float.Model.UnpackedFloat

/-- The bits of a double below its sign. -/
def magnitude (b : BitVec 64) : Nat := b.toNat % 2 ^ 63

/-- The magnitude of the infinities. -/
def infinity : Nat := 2047 * 2 ^ 52

def sign (b : BitVec 64) : Sign := if b.toNat < 2 ^ 63 then .positive else .negative

/-- The place of a double among the numbers. -/
def place (b : BitVec 64) : Int := (sign b).apply (magnitude b)

/-- `Stands s m u`: a double with sign `s` and magnitude `m` is unpacked to `u`. -/
inductive Stands (s : Sign) (m : Nat) : UnpackedFloat → Prop
  | nan : infinity < m → Stands s m .notANumber
  | infinite : m = infinity → Stands s m (.infinity s)
  | zero : m = 0 → Stands s m (.zero s)
  | finite (f : Nat) (e : Int) (h : 0 < f) : f < 2 ^ 53 → -1074 ≤ e → e < 972 →
      (m : Int) = (e + 1074) * 2 ^ 52 + f → 2 ^ 52 ≤ f ∨ e = -1074 → Stands s m (.finite s f e h)

/-! ### The fields of a pattern -/

theorem unpackMantissa_toNat (b : BitVec 64) :
    (@unpackMantissa Format.binary64 b).toNat = b.toNat % 2 ^ 52 := by
  simp only [unpackMantissa]
  simp [BitVec.extractLsb_toNat]

theorem unpackExponent_toNat (b : BitVec 64) :
    (@unpackExponent Format.binary64 b).toNat = b.toNat / 2 ^ 52 % 2 ^ 11 := by
  simp only [unpackExponent]
  simp [BitVec.extractLsb_toNat, Nat.shiftRight_eq_div_pow]

theorem unpackSign_toNat (b : BitVec 64) :
    (@unpackSign Format.binary64 b).toNat = b.toNat / 2 ^ 63 := by
  have := b.isLt
  change (b.extractLsb' 63 1).toNat = _
  simp [Nat.shiftRight_eq_div_pow]
  omega

theorem ofBitVec_unpackSign (b : BitVec 64) :
    Sign.ofBitVec (@unpackSign Format.binary64 b) = sign b := by
  have hs := unpackSign_toNat b
  have hb := b.isLt
  unfold Sign.ofBitVec sign
  split
  · rename_i h
    rw [h] at hs
    rw [if_pos]
    simp at hs
    omega
  · rename_i h
    rw [if_neg]
    intro hlt
    apply h
    apply BitVec.eq_of_toNat_eq
    rw [hs]
    simp
    omega

theorem toNat_implicit (m : BitVec 52) : (1#1 ++ m).toNat = 2 ^ 52 + m.toNat := by
  rw [BitVec.toNat_append, ← Nat.shiftLeft_add_eq_or_of_lt m.isLt]
  simp [Nat.shiftLeft_eq]

theorem unpackExponent_eq_iff (b : BitVec 64) (e : BitVec 11) :
    @unpackExponent Format.binary64 b = e ↔ b.toNat / 2 ^ 52 % 2 ^ 11 = e.toNat := by
  rw [← unpackExponent_toNat]
  exact BitVec.toNat_inj.symm

theorem unpackMantissa_eq_iff (b : BitVec 64) (m : BitVec 52) :
    @unpackMantissa Format.binary64 b = m ↔ b.toNat % 2 ^ 52 = m.toNat := by
  rw [← unpackMantissa_toNat]
  exact BitVec.toNat_inj.symm

theorem stands_unpack (b : BitVec 64) :
    Stands (sign b) (magnitude b) (UnpackedFloat.unpack Format.binary64 b) := by
  have bias : ((Format.binary64.exponentBias : Nat) : Int) = 1023 := by decide
  have hb := b.isLt
  have fields : magnitude b = b.toNat / 2 ^ 52 % 2 ^ 11 * 2 ^ 52 + b.toNat % 2 ^ 52 := by
    unfold magnitude
    omega
  have hexpo := unpackExponent_toNat b
  have hmant := unpackMantissa_toNat b
  have ones : (-1#11 : BitVec 11).toNat = 2047 := by decide
  unfold UnpackedFloat.unpack
  dsimp only
  rw [ofBitVec_unpackSign]
  by_cases he : b.toNat / 2 ^ 52 % 2 ^ 11 = 2047
  · rw [if_pos ((unpackExponent_eq_iff b (-1#11)).mpr he)]
    by_cases hm : b.toNat % 2 ^ 52 = 0
    · rw [if_pos ((unpackMantissa_eq_iff b 0#52).mpr hm)]
      exact .infinite (by unfold infinity; omega)
    · rw [if_neg (mt (unpackMantissa_eq_iff b 0#52).mp hm)]
      exact .nan (by unfold infinity; omega)
  · rw [if_neg (mt (unpackExponent_eq_iff b (-1#11)).mp he)]
    by_cases hz : b.toNat / 2 ^ 52 % 2 ^ 11 = 0
    · rw [if_pos ((unpackExponent_eq_iff b 0#11).mpr hz)]
      by_cases hm : b.toNat % 2 ^ 52 = 0
      · rw [dif_pos ((unpackMantissa_eq_iff b 0#52).mpr hm)]
        exact .zero (by omega)
      · rw [dif_neg (mt (unpackMantissa_eq_iff b 0#52).mp hm)]
        refine .finite _ _ _ ?_ ?_ ?_ ?_ ?_
        · omega
        · omega
        · omega
        · omega
        · right; omega
    · rw [if_neg (mt (unpackExponent_eq_iff b 0#11).mp hz)]
      have himp := toNat_implicit (@unpackMantissa Format.binary64 b)
      refine .finite _ _ _ ?_ ?_ ?_ ?_ ?_
      · omega
      · omega
      · omega
      · omega
      · left; omega

/-! ### Packing -/

theorem packComponents_toNat (s : Sign) (e : BitVec 11) (m : BitVec 52) :
    (packComponents Format.binary64 s e m).toNat =
      s.toBitVec.toNat * 2 ^ 63 + e.toNat * 2 ^ 52 + m.toNat := by
  unfold packComponents
  rw [BitVec.toNat_append, ← Nat.shiftLeft_add_eq_or_of_lt m.isLt, BitVec.toNat_append,
    ← Nat.shiftLeft_add_eq_or_of_lt e.isLt]
  simp only [Nat.shiftLeft_eq]
  omega

theorem toNat_eq_sign_magnitude (b : BitVec 64) :
    b.toNat = (sign b).toBitVec.toNat * 2 ^ 63 + magnitude b := by
  have hb := b.isLt
  unfold sign magnitude
  split
  · simp only [Sign.toBitVec, BitVec.toNat_ofNat]
    omega
  · simp only [Sign.toBitVec, BitVec.toNat_ofNat]
    omega

theorem pack_finite (s : Sign) (f : Nat) (e : Int) (h : 0 < f) :
    UnpackedFloat.pack Format.binary64 (.finite s f e h) =
      if 2 ^ 11 ≤ (e + 1075).toNat + 1 then packedInfinity Format.binary64 s
      else if f.log2 + 1 = 53 then
        packComponents Format.binary64 s (BitVec.ofNat 11 (e + 1075).toNat) (BitVec.ofNat 52 f)
      else packComponents Format.binary64 s 0#11 (BitVec.ofNat 52 f) := by
  have biased : e + 1023 + 52 = e + 1075 := by omega
  rw [← biased]
  rfl

/-- Packing gives back the pattern that a number was unpacked from. -/
theorem pack_toNat_of_stands {s : Sign} {m : Nat} {u : UnpackedFloat} (h : Stands s m u)
    (number : m ≤ infinity) :
    (UnpackedFloat.pack Format.binary64 u).toNat = s.toBitVec.toNat * 2 ^ 63 + m := by
  have bias : Format.binary64.exponentBias = 1023 := by decide
  have width : Format.binary64.mantissaBits = 53 := by decide
  have ones : (-1#11 : BitVec 11).toNat = 2047 := by decide
  cases h with
  | nan above => omega
  | infinite atTop =>
    have key := packComponents_toNat s (-1#11) 0#52
    unfold UnpackedFloat.pack packedInfinity
    rw [ones] at key
    unfold infinity at atTop
    simp only [BitVec.toNat_ofNat] at key
    exact key.trans (by omega)
  | zero none =>
    have key := packComponents_toNat s 0#11 0#52
    unfold UnpackedFloat.pack packedZero
    simp only [BitVec.toNat_ofNat] at key
    exact key.trans (by omega)
  | finite f e hf small low high value lead =>
    rw [pack_finite, if_neg (by omega)]
    by_cases normal : 2 ^ 52 ≤ f
    · have log : f.log2 = 52 := by
        have low := (Nat.le_log2 (by omega)).mpr normal
        have high := (Nat.log2_lt (by omega)).mpr small
        omega
      rw [if_pos (by omega), packComponents_toNat]
      simp only [BitVec.toNat_ofNat]
      omega
    · have log : f.log2 < 52 := (Nat.log2_lt (by omega)).mpr (by omega)
      rw [if_neg (by omega), packComponents_toNat]
      simp only [BitVec.toNat_ofNat]
      omega

theorem pack_unpack {b : BitVec 64} (number : magnitude b ≤ infinity) :
    UnpackedFloat.pack Format.binary64 (UnpackedFloat.unpack Format.binary64 b) = b := by
  apply BitVec.eq_of_toNat_eq
  rw [pack_toNat_of_stands (stands_unpack b) number, ← toNat_eq_sign_magnitude]

/-! ### Comparison -/

/-- Canonical mantissas and exponents compare like the magnitudes that they stand for. -/
theorem compare_then {f g m n : Nat} {d e : Int} (hf : f < 2 ^ 53) (hg : g < 2 ^ 53)
    (hd : -1074 ≤ d) (he : -1074 ≤ e)
    (hm : (m : Int) = (d + 1074) * 2 ^ 52 + f) (hn : (n : Int) = (e + 1074) * 2 ^ 52 + g)
    (leadf : 2 ^ 52 ≤ f ∨ d = -1074) (leadg : 2 ^ 52 ≤ g ∨ e = -1074) :
    (compare d e).then (compare f g) = compare (m : Int) n := by
  rcases Int.lt_trichotomy d e with below | rfl | above
  · rw [Int.compare_eq_lt.mpr below, Int.compare_eq_lt.mpr (by omega)]
    rfl
  · rw [Int.compare_eq_eq.mpr rfl]
    rcases Nat.lt_trichotomy f g with below | rfl | above
    · rw [Nat.compare_eq_lt.mpr below, Int.compare_eq_lt.mpr (by omega)]
      rfl
    · rw [Nat.compare_eq_eq.mpr rfl, Int.compare_eq_eq.mpr (by omega)]
      rfl
    · rw [Nat.compare_eq_gt.mpr above, Int.compare_eq_gt.mpr (by omega)]
      rfl
  · rw [Int.compare_eq_gt.mpr above, Int.compare_eq_gt.mpr (by omega)]
    rfl

theorem compare_neg (a b : Int) : compare (-a) (-b) = (compare a b).swap := by
  rcases Int.lt_trichotomy a b with below | rfl | above
  · rw [Int.compare_eq_lt.mpr below, Int.compare_eq_gt.mpr (by omega)]
    rfl
  · rw [Int.compare_eq_eq.mpr rfl, Int.compare_eq_eq.mpr rfl]
    rfl
  · rw [Int.compare_eq_gt.mpr above, Int.compare_eq_lt.mpr (by omega)]
    rfl

theorem some_lt {a b : Int} (h : a < b) : some Ordering.lt = some (compare a b) :=
  congrArg some (Int.compare_eq_lt.mpr h).symm

theorem some_eq {a b : Int} (h : a = b) : some Ordering.eq = some (compare a b) :=
  congrArg some (Int.compare_eq_eq.mpr h).symm

theorem some_gt {a b : Int} (h : b < a) : some Ordering.gt = some (compare a b) :=
  congrArg some (Int.compare_eq_gt.mpr h).symm

theorem compare_infinite {s t : Sign} {m n : Nat} {v : UnpackedFloat} (top : m = infinity)
    (hv : Stands t n v) (hn : n ≤ infinity) :
    (UnpackedFloat.infinity s).compare v = some (compare (s.apply m) (t.apply n)) := by
  unfold infinity at top hn
  cases hv with
  | nan above => unfold infinity at above; omega
  | infinite top' =>
    unfold infinity at top'
    cases s <;> cases t
    · exact some_eq (by simp only [Sign.apply]; omega)
    · exact some_lt (by simp only [Sign.apply]; omega)
    · exact some_gt (by simp only [Sign.apply]; omega)
    · exact some_eq (by simp only [Sign.apply]; omega)
  | zero none =>
    cases s
    · exact some_lt (by cases t <;> simp only [Sign.apply] <;> omega)
    · exact some_gt (by cases t <;> simp only [Sign.apply] <;> omega)
  | finite g e hg small low high value lead =>
    cases s
    · exact some_lt (by cases t <;> simp only [Sign.apply] <;> omega)
    · exact some_gt (by cases t <;> simp only [Sign.apply] <;> omega)

theorem compare_zero {s t : Sign} {m n : Nat} {v : UnpackedFloat} (none : m = 0)
    (hv : Stands t n v) (hn : n ≤ infinity) :
    (UnpackedFloat.zero s).compare v = some (compare (s.apply m) (t.apply n)) := by
  unfold infinity at hn
  cases hv with
  | nan above => unfold infinity at above; omega
  | infinite top =>
    unfold infinity at top
    cases t
    · exact some_gt (by cases s <;> simp only [Sign.apply] <;> omega)
    · exact some_lt (by cases s <;> simp only [Sign.apply] <;> omega)
  | zero none' => exact some_eq (by cases s <;> cases t <;> simp only [Sign.apply] <;> omega)
  | finite g e hg small low high value lead =>
    cases t
    · exact some_gt (by cases s <;> simp only [Sign.apply] <;> omega)
    · exact some_lt (by cases s <;> simp only [Sign.apply] <;> omega)

theorem compare_finite {s t : Sign} {m n f : Nat} {d : Int} {v : UnpackedFloat} (hf : 0 < f)
    (small : f < 2 ^ 53) (low : -1074 ≤ d) (high : d < 972)
    (value : (m : Int) = (d + 1074) * 2 ^ 52 + f) (lead : 2 ^ 52 ≤ f ∨ d = -1074)
    (hv : Stands t n v) (hn : n ≤ infinity) :
    (UnpackedFloat.finite s f d hf).compare v = some (compare (s.apply m) (t.apply n)) := by
  cases hv with
  | nan above => omega
  | infinite top =>
    unfold infinity at top
    cases t
    · exact some_gt (by cases s <;> simp only [Sign.apply] <;> omega)
    · exact some_lt (by cases s <;> simp only [Sign.apply] <;> omega)
  | zero none =>
    cases s
    · exact some_lt (by cases t <;> simp only [Sign.apply] <;> omega)
    · exact some_gt (by cases t <;> simp only [Sign.apply] <;> omega)
  | finite g e hg small' low' high' value' lead' =>
    have key := compare_then small small' low low' value value' lead lead'
    cases s <;> cases t
    · exact congrArg some ((congrArg Ordering.swap key).trans (compare_neg m n).symm)
    · exact some_lt (by simp only [Sign.apply]; omega)
    · exact some_gt (by simp only [Sign.apply]; omega)
    · exact congrArg some key

theorem compare_of_stands {s t : Sign} {m n : Nat} {u v : UnpackedFloat} (hu : Stands s m u)
    (hv : Stands t n v) (hm : m ≤ infinity) (hn : n ≤ infinity) :
    u.compare v = some (compare (s.apply m) (t.apply n)) := by
  cases hu with
  | nan above => omega
  | infinite top => exact compare_infinite top hv hn
  | zero none => exact compare_zero none hv hn
  | finite f d hf small low high value lead =>
    exact compare_finite hf small low high value lead hv hn

/-- Patterns of numbers compare like their places. -/
theorem compare_unpack {a b : BitVec 64} (ha : magnitude a ≤ infinity)
    (hb : magnitude b ≤ infinity) :
    (UnpackedFloat.unpack Format.binary64 a).compare (UnpackedFloat.unpack Format.binary64 b) =
      some (compare (place a) (place b)) :=
  compare_of_stands (stands_unpack a) (stands_unpack b) ha hb

theorem unpack_eq_nan_iff {b : BitVec 64} :
    UnpackedFloat.unpack Format.binary64 b = .notANumber ↔ infinity < magnitude b := by
  have key := stands_unpack b
  generalize UnpackedFloat.unpack Format.binary64 b = u at key
  constructor
  · rintro rfl
    cases key with
    | nan above => exact above
  · intro above
    unfold infinity at above
    cases key with
    | nan => rfl
    | infinite top => unfold infinity at top; omega
    | zero none => omega
    | finite f e hf small low high value lead => omega

end Progeny.Double

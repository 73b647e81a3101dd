import Progeny.Proofs.Double.Order
import Progeny.Random.Draw

/-!
# Numbers from words

The number in `[0, 1)` that is drawn from a word is the integer of its upper 53 bits, divided by
`2 ^ 53`.  Neither step rounds: an integer of at most 53 bits is moved up until it has exactly 53,
and the product with a power of two has the same mantissa with zero bits after it, which are dropped
again.  So the number lies below 1, whatever the word is.
-/

namespace Progeny

namespace Double

open Float.Model Float.Model.UnpackedFloat

/-! ### Unpacking what was packed -/

theorem Stands.unique {s : Sign} {m : Nat} {u v : UnpackedFloat} (h : Stands s m u)
    (h' : Stands s m v) : u = v := by
  cases h with
  | nan above =>
    cases h' with
    | nan => rfl
    | infinite top => omega
    | zero none => unfold infinity at above; omega
    | finite f e hf small low high value lead => unfold infinity at above; omega
  | infinite top =>
    unfold infinity at top
    cases h' with
    | nan above => unfold infinity at above; omega
    | infinite => rfl
    | zero none => omega
    | finite f e hf small low high value lead => omega
  | zero none =>
    cases h' with
    | nan above => unfold infinity at above; omega
    | infinite top => unfold infinity at top; omega
    | zero => rfl
    | finite f e hf small low high value lead => omega
  | finite f e hf small low high value lead =>
    cases h' with
    | nan above => unfold infinity at above; omega
    | infinite top => unfold infinity at top; omega
    | zero none => omega
    | finite f' e' hf' small' low' high' value' lead' =>
      obtain rfl : e = e' := by omega
      obtain rfl : f = f' := by omega
      rfl

theorem sign_pack {s : Sign} {m : Nat} {u : UnpackedFloat} (h : Stands s m u)
    (number : m ≤ infinity) :
    sign (UnpackedFloat.pack Format.binary64 u) = s ∧
      magnitude (UnpackedFloat.pack Format.binary64 u) = m := by
  have bits := pack_toNat_of_stands h number
  have within : m < 2 ^ 63 := by unfold infinity at number; omega
  unfold sign magnitude
  rw [bits]
  cases s with
  | positive =>
    have lead : Sign.positive.toBitVec.toNat = 0 := rfl
    rw [lead]
    exact ⟨if_pos (by omega), by omega⟩
  | negative =>
    have lead : Sign.negative.toBitVec.toNat = 1 := rfl
    rw [lead]
    exact ⟨if_neg (by omega), by omega⟩

theorem unpack_pack {s : Sign} {m : Nat} {u : UnpackedFloat} (h : Stands s m u)
    (number : m ≤ infinity) :
    UnpackedFloat.unpack Format.binary64 (UnpackedFloat.pack Format.binary64 u) = u := by
  have unpacked := stands_unpack (UnpackedFloat.pack Format.binary64 u)
  obtain ⟨sameSign, sameMagnitude⟩ := sign_pack h number
  rw [sameSign, sameMagnitude] at unpacked
  exact unpacked.unique h

/-! ### Rounding that drops zero bits -/

theorem shiftRight_exact (f k : Nat) :
    ExtendedMantissa.ofMantissaAndAccuracy (f * 2 ^ k) .exact >>> k = ⟨f, false, false⟩ := by
  induction k generalizing f with
  | zero =>
    rw [Nat.pow_zero, Nat.mul_one]
    rfl
  | succ k ih =>
    have doubled : f * 2 ^ (k + 1) = f * 2 * 2 ^ k := by rw [Nat.pow_succ']; ac_rfl
    change ExtendedMantissa.shiftRightOne (ExtendedMantissa.ofMantissaAndAccuracy _ _ >>> k) = _
    rw [doubled, ih]
    simp [ExtendedMantissa.shiftRightOne]

/-- The exponent at which a mantissa of 53 bits, with `k` further ones after them, is rounded. -/
theorem targetExponent_eq {f k : Nat} {e : Int} (low : 2 ^ 52 ≤ f) (high : f < 2 ^ 53)
    (least : -1074 ≤ e) :
    Format.binary64.targetExponent (totalExponent (f * 2 ^ k) (e - k)) = e := by
  have log : (f * 2 ^ k).log2 = 52 + k := by
    have positive : f * 2 ^ k ≠ 0 := by
      have := Nat.mul_pos (show 0 < f by omega) (Nat.two_pow_pos k)
      omega
    refine (Nat.log2_eq_iff positive).mpr ⟨?_, ?_⟩
    · rw [Nat.pow_add]
      exact Nat.mul_le_mul_right _ low
    · rw [Nat.add_right_comm, Nat.pow_add]
      exact Nat.mul_lt_mul_of_pos_right high (Nat.two_pow_pos k)
  have width : Format.binary64.mantissaBits = 53 := by decide
  have smallest : Format.binary64.minExponent = -1074 := by decide
  unfold Format.targetExponent totalExponent
  rw [log, width, smallest]
  omega

theorem shiftToTargetExponent_exact {f k : Nat} {e : Int} (low : 2 ^ 52 ≤ f) (high : f < 2 ^ 53)
    (least : -1074 ≤ e) :
    shiftToTargetExponent Format.binary64 (f * 2 ^ k) (e - k) .exact = (⟨f, false, false⟩, e) := by
  have amount : (e - (e - k)).toNat = k := by omega
  unfold shiftToTargetExponent
  rw [targetExponent_eq low high least]
  simp only [shiftToExponent, amount, shiftRight_exact, Int.sub_add_cancel]

theorem roundWithAccuracy_exact (s : Sign) {f : Nat} (k : Nat) {e : Int} (low : 2 ^ 52 ≤ f)
    (high : f < 2 ^ 53) (least : -1074 ≤ e) :
    roundWithAccuracy Format.binary64 s (f * 2 ^ k) (e - k) .exact =
      .finite s f e (by omega) := by
  have again := shiftToTargetExponent_exact (k := 0) low high least
  simp only [Nat.pow_zero, Nat.mul_one, Int.natCast_zero, Int.sub_zero] at again
  have kept : ExtendedMantissa.roundedMantissa ⟨f, false, false⟩ = f := rfl
  unfold roundWithAccuracy
  rw [shiftToTargetExponent_exact low high least]
  dsimp only
  rw [kept, again]
  have some : ¬f = 0 := by omega
  exact dif_neg some

/-- An integer of at most 53 bits, moved up until it has 53 of them. -/
theorem exists_ofNat {n : Nat} (positive : 0 < n) (few : n < 2 ^ 53) :
    ∃ (f : Nat) (e : Int) (h : 0 < f), 2 ^ 52 ≤ f ∧ f < 2 ^ 53 ∧ -52 ≤ e ∧ e ≤ 0 ∧
      UnpackedFloat.ofNat Format.binary64 n = .finite .positive f e h := by
  have bits := Nat.log2_self_le (Nat.ne_of_gt positive)
  have next := Nat.lt_log2_self (n := n)
  have log : n.log2 < 53 := (Nat.log2_lt (Nat.ne_of_gt positive)).mpr few
  obtain ⟨k, width⟩ := Nat.exists_eq_add_of_le (Nat.le_of_lt_succ log)
  have low : 2 ^ 52 ≤ n * 2 ^ k := by
    rw [width, Nat.pow_add]
    exact Nat.mul_le_mul_right _ bits
  have high : n * 2 ^ k < 2 ^ 53 := by
    have room : 2 ^ 53 = 2 ^ (n.log2 + 1) * 2 ^ k := by
      rw [← Nat.pow_add]
      congr 1
      omega
    rw [room]
    exact Nat.mul_lt_mul_of_pos_right next (Nat.two_pow_pos k)
  refine ⟨n * 2 ^ k, -k, by omega, low, high, by omega, by omega, ?_⟩
  have target : Format.binary64.targetExponent (totalExponent n 0) = -k := by
    have width : Format.binary64.mantissaBits = 53 := by decide
    have smallest : Format.binary64.minExponent = -1074 := by decide
    unfold Format.targetExponent totalExponent
    rw [width, smallest]
    omega
  have above : compare (n : Int) 0 = .gt := Int.compare_eq_gt.mpr (by omega)
  have rounded := roundWithAccuracy_exact .positive 0 low high (e := -k) (by omega)
  rw [Nat.pow_zero, Nat.mul_one, Int.natCast_zero, Int.sub_zero] at rounded
  have moved : UnpackedFloat.ofNat Format.binary64 n =
      roundWithAccuracy Format.binary64 .positive (n * 2 ^ k) (-k) .exact := by
    unfold UnpackedFloat.ofNat UnpackedFloat.ofInt UnpackedFloat.normalize
    simp only [above, Int.toNat_natCast, UnpackedFloat.round, target, decreaseExponent,
      Int.zero_sub, Int.neg_neg, Nat.shiftLeft_eq]
  exact moved.trans rounded

/-- A finite number of 53 bits, with the exponent of one that is below infinity. -/
theorem stands_finite {f : Nat} {e : Int} (h : 0 < f) (low : 2 ^ 52 ≤ f) (high : f < 2 ^ 53)
    (least : -1074 ≤ e) (most : e ≤ 0) :
    Stands .positive ((e + 1074).toNat * 2 ^ 52 + f) (.finite .positive f e h) ∧
      (e + 1074).toNat * 2 ^ 52 + f ≤ infinity :=
  ⟨.finite f e h high least (by omega) (by omega) (.inl low), by unfold infinity; omega⟩

/-- The factor is `2 ^ (-53)`. -/
theorem unpack_factor : (1.1102230246251565e-16 : Float).toModel.unpack =
    .finite .positive (2 ^ 52) (-105) (by decide) := rfl

/-! ### The drawn number -/

/-- The place of a drawn number is between those of 0 and 1. -/
theorem placeOf_ofWord (w : UInt64) :
    (Draw.ofWord w).isNaN = false ∧ 0 ≤ placeOf (Draw.ofWord w) ∧
      placeOf (Draw.ofWord w) < placeOf 1.0 := by
  have few : (w >>> 11).toNat < 2 ^ 53 := by
    have amount : (11 : UInt64).toNat % 64 = 11 := by decide
    rw [UInt64.toNat_shiftRight, amount, Nat.shiftRight_eq_div_pow]
    have := w.toNat_lt
    omega
  rcases Nat.eq_zero_or_pos (w >>> 11).toNat with none | some
  · have zero : w >>> 11 = 0 := UInt64.toNat_inj.mp none
    have same : Draw.ofWord w = 0.0 := by
      unfold Draw.ofWord
      rw [zero]
      rfl
    rw [same]
    decide
  · obtain ⟨f, e, h, low, high, least, most, whole⟩ := exists_ofNat some few
    obtain ⟨wholeStands, wholeNumber⟩ := stands_finite h low high (by omega) most
    obtain ⟨stands, number⟩ := stands_finite (e := e - 53) h low high (by omega) (by omega)
    have product : (Draw.ofWord w).toBits.toBitVec =
        UnpackedFloat.pack Format.binary64 (.finite .positive f (e - 53) h) := by
      have rounded := roundWithAccuracy_exact .positive 52 low high (e := e - 53) (by omega)
      have exponent : e + -105 = e - 53 - (52 : Nat) := by omega
      change UnpackedFloat.pack _ (UnpackedFloat.mul _
        (UnpackedFloat.unpack _ (UnpackedFloat.pack _ (UnpackedFloat.ofNat _ _))) _) = _
      rw [whole, unpack_pack wholeStands wholeNumber, unpack_factor]
      change UnpackedFloat.pack _ (roundWithAccuracy _ .positive (f * 2 ^ 52) (e + -105) .exact) = _
      rw [exponent, rounded]
    obtain ⟨sameSign, sameMagnitude⟩ := sign_pack stands number
    have place : placeOf (Draw.ofWord w) = ((e - 53 + 1074).toNat * 2 ^ 52 + f : Nat) := by
      unfold placeOf Double.place
      rw [product, sameSign, sameMagnitude]
      rfl
    have one : placeOf 1.0 = 1023 * 2 ^ 52 := by decide
    refine ⟨?_, by omega, by omega⟩
    rw [isNaN_eq_false_iff, product, sameMagnitude]
    exact number

end Double

namespace Draw

/-- The numbers that are drawn are not negative. -/
theorem zero_le_ofWord (w : UInt64) : 0.0 ≤ ofWord w := by
  obtain ⟨number, least, -⟩ := Double.placeOf_ofWord w
  refine Double.le_iff.mpr ⟨by decide, number, ?_⟩
  rw [Double.placeOf_zero]
  exact least

theorem ofWord_lt_one (w : UInt64) : ofWord w < 1.0 := by
  obtain ⟨number, -, below⟩ := Double.placeOf_ofWord w
  exact Double.lt_iff.mpr ⟨number, by decide, below⟩

end Draw

end Progeny

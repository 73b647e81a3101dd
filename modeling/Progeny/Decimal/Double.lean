/-!
# The exact value of a double

A finite double is `mantissa * 2 ^ exponent` with a sign of its own, so that zero comes in two
forms.  Every printed form of a double starts from this decoding and is exact from there on.
-/

namespace Progeny.Decimal

/-- A double, taken apart. -/
inductive Double where
  | nan
  | infinite (negative : Bool)
  | finite (negative : Bool) (mantissa : Nat) (exponent : Int)
  deriving DecidableEq, Repr

namespace Double

/-- Decodes the bit pattern of a double: one bit of sign, eleven of exponent, 52 of fraction. -/
def ofBits (bits : UInt64) : Double :=
  let negative := bits >>> 63 == 1
  let biased := ((bits >>> 52) &&& 0x7FF).toNat
  let fraction := (bits &&& 0xFFFFFFFFFFFFF).toNat
  if biased = 0x7FF then
    if fraction = 0 then .infinite negative else .nan
  else if biased = 0 then .finite negative fraction (-1074)
  else .finite negative (Nat.pow 2 52 + fraction) ((biased : Int) - 1075)

/-- Decodes a double. -/
def ofFloat (x : Float) : Double := ofBits x.toBits

/-- The text of a sign. -/
def signText (negative : Bool) : String := if negative then "-" else ""

end Double

/-- `numerator / denominator` rounded to the nearest number, a tie to the even one. -/
def roundHalfEven (numerator denominator : Nat) : Nat :=
  let floor := numerator / denominator
  let twice := 2 * (numerator % denominator)
  if twice < denominator then floor
  else if denominator < twice then floor + 1
  else if floor % 2 = 0 then floor else floor + 1

/-- Rounding moves by at most half a unit. -/
theorem roundHalfEven_near (n d : Nat) (hd : 0 < d) :
    2 * (roundHalfEven n d * d) ≤ 2 * n + d ∧ 2 * n ≤ 2 * (roundHalfEven n d * d) + d := by
  have key : n / d * d + n % d = n := by rw [Nat.mul_comm]; exact Nat.div_add_mod n d
  have rest : n % d < d := Nat.mod_lt n hd
  unfold roundHalfEven
  have step : (n / d + 1) * d = n / d * d + d := by rw [Nat.add_mul, Nat.one_mul]
  grind

end Progeny.Decimal

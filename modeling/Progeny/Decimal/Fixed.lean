import Progeny.Decimal.Double

/-!
# A fixed number of places

Literals and scores are written with a fixed number of decimal places.  The exact binary value is
rounded once, a tie goes to the even last digit, and the sign is written even when all digits are
zero.
-/

namespace Progeny.Decimal

/-- The digits of `n`, filled up with zeros on the left to at least `width`. -/
def padded (width n : Nat) : String :=
  let digits := n.repr
  String.ofList (List.replicate (width - digits.length) '0') ++ digits

/-- `n` units of `10 ^ (-places)`, written with a point. -/
def placed (places n : Nat) : String :=
  (n / Nat.pow 10 places).repr ++ "." ++ padded places (n % Nat.pow 10 places)

/-- `mantissa * 2 ^ exponent`, rounded to a number of units of `10 ^ (-places)`. -/
def unitsOf (places mantissa : Nat) (exponent : Int) : Nat :=
  match exponent with
  | .ofNat e => mantissa * Nat.pow 2 e * Nat.pow 10 places
  | .negSucc e => roundHalfEven (mantissa * Nat.pow 10 places) (Nat.pow 2 (e + 1))

/-- A double with `places` digits after the point, for `0 < places`. -/
def fixed (places : Nat) (x : Float) : String :=
  match Double.ofFloat x with
  | .nan => "NaN"
  | .infinite negative => Double.signText negative ++ "inf"
  | .finite negative mantissa exponent =>
    Double.signText negative ++ placed places (unitsOf places mantissa exponent)

example : fixed 2 12.346 = "12.35" := by decide +kernel
example : fixed 2 0.125 = "0.12" := by decide +kernel
example : fixed 2 (-0.001) = "-0.00" := by decide +kernel

end Progeny.Decimal

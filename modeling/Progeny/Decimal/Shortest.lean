import Progeny.Decimal.Double

/-!
# The fewest digits that read back

`shortest` gives the decimal with the fewest digits that lies in the interval of reals which round
to a given double, and of those the nearest to it.  A `Style` then says how such digits are laid
out: where positional notation ends, and what marks a whole number.
-/

namespace Progeny.Decimal

/-- A positive decimal `0.digits * 10 ^ point`, its digits read as one number of `length` digits. -/
structure Digits where
  digits : Nat
  length : Nat
  point : Int
  deriving DecidableEq, Repr

/-- `n * 2 ^ e`, as a numerator and a denominator. -/
def ratio (n : Nat) (e : Int) : Nat × Nat :=
  match e with
  | .ofNat e => (n * Nat.pow 2 e, 1)
  | .negSucc e => (n, Nat.pow 2 (e + 1))

/-- `numerator / (denominator * 10 ^ scale)`, as a numerator and a denominator. -/
def inUnits (numerator denominator : Nat) (scale : Int) : Nat × Nat :=
  match scale with
  | .ofNat s => (numerator, denominator * Nat.pow 10 s)
  | .negSucc s => (numerator * Nat.pow 10 (s + 1), denominator)

/-- The least `k` from `k₀` on with `numerator / denominator < 10 ^ k`, looked for `fuel` times. -/
def pointFrom (numerator denominator : Nat) : Nat → Int → Int
  | 0, k => k
  | fuel + 1, k =>
    let (n, d) := inUnits numerator denominator k
    if n < d then k else pointFrom numerator denominator fuel (k + 1)

/-- Takes the zeros off the end of `digits`. -/
def Digits.trim : Nat → Digits → Digits
  | 0, d => d
  | fuel + 1, d =>
    if d.length > 1 ∧ d.digits % 10 = 0 then trim fuel ⟨d.digits / 10, d.length - 1, d.point⟩ else d

/-- Which of two decimals is taken that are equally near. -/
inductive Tie where
  /-- The one whose last digit is even. -/
  | toEven
  /-- The greater one. -/
  | up
  deriving DecidableEq, Repr

/-- Whether the decimal above a value is taken if both are equally near. -/
def Tie.takesAbove (tie : Tie) (floor : Nat) : Bool :=
  match tie with
  | .toEven => floor % 2 == 1
  | .up => true

/-- Of the two decimals of `length` digits on either side of a value, the nearer one that `accepts`
takes. -/
def neighbour? (tie : Tie) (numerator denominator : Nat) (point : Int) (accepts : Nat → Int → Bool)
    (length : Nat) : Option Digits :=
  let scale := point - length
  let (n, d) := inUnits numerator denominator scale
  let floor := n / d
  let below := floor > 0 && accepts floor scale
  let above := accepts (floor + 1) scale
  let pickAbove := if below && above then
      2 * (n % d) > d || (2 * (n % d) == d && tie.takesAbove floor)
    else above
  if !below && !above then none
  else
    let digits := if pickAbove then floor + 1 else floor
    if digits = Nat.pow 10 length then some (Digits.trim 20 ⟨Nat.pow 10 (length - 1), length, point + 1⟩)
    else some (Digits.trim 20 ⟨digits, length, point⟩)

/-- The shortest decimal that reads back to `mantissa * 2 ^ exponent`, for a positive mantissa.
Reals within half a gap of the double round to it, and those at exactly half a gap do if the
mantissa is even; the gap below a power of two is half the gap above. -/
def shortest (tie : Tie) (mantissa : Nat) (exponent : Int) : Digits :=
  let (numerator, denominator) := ratio mantissa exponent
  let gapBelow := if mantissa = Nat.pow 2 52 ∧ exponent > -1074 then 1 else 2
  let (low, quarter) := ratio (4 * mantissa - gapBelow) (exponent - 2)
  let (high, quarter') := ratio (4 * mantissa + 2) (exponent - 2)
  let even := mantissa % 2 = 0
  let accepts (digits : Nat) (scale : Int) : Bool :=
    let (lowUnits, lowUnit) := inUnits low quarter scale
    let (highUnits, highUnit) := inUnits high quarter' scale
    if even then lowUnits ≤ digits * lowUnit && digits * highUnit ≤ highUnits
    else lowUnits < digits * lowUnit && digits * highUnit < highUnits
  let start : Int := ((mantissa.log2 : Int) + exponent) * 30103 / 100000 - 2
  let point := pointFrom numerator denominator 6 start
  ((List.range 17).findSome? fun n => neighbour? tie numerator denominator point accepts (n + 1)).getD
    ⟨0, 1, 1⟩

/-- How the digits of a number are laid out. -/
structure Style where
  /-- The least and the greatest place of the point for which no exponent is written; always
  positional if there is none. -/
  positional : Option (Int × Int)
  /-- What follows the digits of a whole number. -/
  whole : String
  /-- Which digits are taken if there are two equally good ones. -/
  tie : Tie

/-- Messages write every number in full. -/
def Style.message : Style := ⟨none, "", .up⟩

/-- Reports write `1037.1`, `12.0`, `1e+16` and `1.5e-7`. -/
def Style.report : Style := ⟨some (-4, 16), ".0", .toEven⟩

/-- `n` zeros. -/
def zeros (n : Nat) : String := String.ofList (List.replicate n '0')

/-- Digits with the point in its place. -/
def withPoint (style : Style) (d : Digits) : String :=
  let text := d.digits.repr
  if d.point ≤ 0 then "0." ++ zeros (-d.point).toNat ++ text
  else
    let whole := d.point.toNat
    if d.length ≤ whole then text ++ zeros (whole - d.length) ++ style.whole
    else String.ofList (text.toList.take whole) ++ "." ++ String.ofList (text.toList.drop whole)

/-- Digits with one of them before the point, and an exponent with its sign. -/
def scientific (d : Digits) : String :=
  let text := d.digits.repr.toList
  let tail := text.drop 1
  let exponent := d.point - 1
  String.ofList (text.take 1) ++ (if tail.isEmpty then "" else "." ++ String.ofList tail) ++ "e" ++
    (if exponent < 0 then "" else "+") ++ exponent.repr

/-- The text of a double. -/
def Style.render (style : Style) (x : Float) : String :=
  match Double.ofFloat x with
  | .nan => "NaN"
  | .infinite negative => Double.signText negative ++ "inf"
  | .finite negative 0 _ => Double.signText negative ++ "0" ++ style.whole
  | .finite negative mantissa exponent =>
    let d := shortest style.tie mantissa exponent
    let plain := match style.positional with
      | none => true
      | some (least, greatest) => least ≤ d.point && d.point ≤ greatest
    Double.signText negative ++ if plain then withPoint style d else scientific d

end Progeny.Decimal

import Progeny.Decimal.Double
import Progeny.Text.Utf8

/-!
# Formats

A number or a text is written by a format: flags, a width that it is filled up to, a precision, and a
letter that says in which form it is written.
-/

namespace Progeny.Host

open Text (Bytes bytesOf)
open Decimal (Double)

/-- A format. -/
structure Format where
  flags : List Char := []
  width : Nat := 0
  precision : Option Nat := none
  letter : Char

namespace Format

/-- Whether a flag is set. -/
def has (f : Format) (flag : Char) : Bool := f.flags.contains flag

/-- Fills a text up to the width, on the right if it is flagged so. -/
def fill (f : Format) (text : Bytes) : Bytes :=
  let blanks := List.replicate (f.width - text.length) (32 : UInt8)
  if f.has '-' then text ++ blanks else blanks ++ text

/-- A number with a sign or a mark before its digits; zeros may fill it up. -/
def number (f : Format) (zeros : Bool) (sign digits : String) : Bytes :=
  let length := sign.length + digits.length
  if zeros && f.has '0' && ! f.has '-' then
    bytesOf (sign ++ String.ofList (List.replicate (f.width - length) '0') ++ digits)
  else f.fill (bytesOf (sign ++ digits))

/-- The sign of a number. -/
def signOf (f : Format) (negative : Bool) : String :=
  if negative then "-" else if f.has '+' then "+" else if f.has ' ' then " " else ""

/-- The digits of a number in a base. -/
def digitsIn (base n : Nat) (upper : Bool) : String :=
  let cs := Nat.toDigits base n
  String.ofList (if upper then cs.map Char.toUpper else cs)

/-- Digits filled up with zeros to the precision; zero has no digits if none are asked for. -/
def withPrecision (f : Format) (n : Nat) (digits : String) : String :=
  match f.precision with
  | none => digits
  | some p =>
    if p = 0 && n = 0 then ""
    else String.ofList (List.replicate (p - digits.length) '0') ++ digits

/-- A whole number; one below zero is taken modulo `2 ^ 64` where the form knows no sign. -/
def int (f : Format) (n : Int) : Bytes :=
  let zeros := f.precision.isNone
  if f.letter = 'd' || f.letter = 'i' then
    f.number zeros (f.signOf (n < 0)) (f.withPrecision n.natAbs n.natAbs.repr)
  else
    let m := (n % Nat.pow 2 64).toNat
    if f.letter = 'o' then
      let digits := f.withPrecision m (digitsIn 8 m false)
      f.number zeros "" (if f.has '#' && ! digits.startsWith "0" then "0" ++ digits else digits)
    else if f.letter = 'x' || f.letter = 'X' then
      let upper := f.letter = 'X'
      f.number zeros (if f.has '#' && m ≠ 0 then (if upper then "0X" else "0x") else "")
        (f.withPrecision m (digitsIn 16 m upper))
    else f.number zeros "" (f.withPrecision m m.repr)

/-- A text, of which no more octets are written than the precision says. -/
def text (f : Format) (bytes : Bytes) : Bytes :=
  f.fill (match f.precision with
    | some p => bytes.take p
    | none => bytes)

/-- Zeros before a text. -/
def zeroed (width : Nat) (text : String) : String :=
  String.ofList (List.replicate (width - text.length) '0') ++ text

/-- `mantissa * 2 ^ exponent` in units of `10 ^ (-places)`, rounded. -/
def units (mantissa : Nat) (exponent places : Int) : Nat :=
  let numerator := mantissa * Nat.pow 2 exponent.toNat * Nat.pow 10 places.toNat
  let denominator := Nat.pow 2 (-exponent).toNat * Nat.pow 10 (-places).toNat
  Decimal.roundHalfEven numerator denominator

/-- A number with a fixed number of places. -/
def fixed (f : Format) (places mantissa : Nat) (exponent : Int) : String :=
  let n := units mantissa exponent places
  let whole := (n / Nat.pow 10 places).repr
  if places = 0 then if f.has '#' then whole ++ "." else whole
  else whole ++ "." ++ zeroed places (n % Nat.pow 10 places).repr

/-- The power of ten of the first digit of a positive number that is rounded to `places` digits behind
the first, and its digits. -/
def leading (places mantissa : Nat) (exponent : Int) : Int × Nat :=
  let guess : Int := ((mantissa.log2 : Int) + exponent) * 30103 / 100000
  let candidates := [guess + 2, guess + 1, guess, guess - 1, guess - 2]
  match candidates.find? fun k => Nat.pow 10 places ≤ units mantissa exponent (places - k) with
  | some k =>
    let n := units mantissa exponent (places - k)
    if n < Nat.pow 10 (places + 1) then (k, n) else (k + 1, n / 10)
  | none => (guess, units mantissa exponent (places - guess))

/-- An exponent of ten. -/
def exponentText (upper : Bool) (k : Int) : String :=
  (if upper then "E" else "e") ++ (if k < 0 then "-" else "+") ++ zeroed 2 k.natAbs.repr

/-- Digits with a point behind the first. -/
def pointed (f : Format) (places digits : Nat) : String :=
  let cs := (zeroed (places + 1) digits.repr).toList
  String.ofList (cs.take 1) ++
    (if places = 0 then if f.has '#' then "." else "" else "." ++ String.ofList (cs.drop 1))

/-- A text without the zeros at its end, and without a point there. -/
def trimmed (text : String) : String :=
  if text.toList.contains '.' then
    let cs := text.toList.reverse.dropWhile (· == '0')
    String.ofList ((if cs.head? = some '.' then cs.drop 1 else cs).reverse)
  else text

/-- A number with an exponent. -/
def scientific (f : Format) (upper : Bool) (places mantissa : Nat) (exponent : Int) : String :=
  let (k, n) := if mantissa = 0 then (0, 0) else leading places mantissa exponent
  f.pointed places n ++ exponentText upper k

/-- A number in the shorter of the two forms, with so many digits as the precision says. -/
def general (f : Format) (upper : Bool) (precision mantissa : Nat) (exponent : Int) : String :=
  let p := max precision 1
  let (k, n) := if mantissa = 0 then (0, 0) else leading (p - 1) mantissa exponent
  let shorten (text : String) : String := if f.has '#' then text else trimmed text
  if k < -4 || (p : Int) ≤ k then shorten (f.pointed (p - 1) n) ++ exponentText upper k
  else shorten (f.fixed (p - 1 - k).toNat mantissa exponent)

/-- A number in base sixteen, with an exponent of two. -/
def hexadecimal (f : Format) (upper : Bool) (mantissa : Nat) (exponent : Int) : String :=
  let shift := 52 - mantissa.log2
  let m := if mantissa = 0 then 0 else mantissa * Nat.pow 2 shift
  let k : Int := if mantissa = 0 then 0 else exponent - shift + 52
  let (whole, fraction) := match f.precision with
    | none => ((m / Nat.pow 2 52).repr, trimmed ("." ++ zeroed 13 (digitsIn 16 (m % Nat.pow 2 52) upper)))
    | some p =>
      let n := if p < 13 then Decimal.roundHalfEven m (Nat.pow 2 (52 - 4 * p)) else m * Nat.pow 2 (4 * p - 52)
      ((n / Nat.pow 2 (4 * p)).repr,
        if p = 0 then "" else "." ++ zeroed p (digitsIn 16 (n % Nat.pow 2 (4 * p)) upper))
  whole ++ fraction ++ (if upper then "P" else "p") ++ (if k < 0 then "-" else "+") ++ k.natAbs.repr

/-- A number that need not be whole. -/
def float (f : Format) (x : Float) : Bytes :=
  let upper := f.letter.isUpper
  let special (text : String) : String := if upper then text.toUpper else text
  match Double.ofFloat x with
  | .nan => f.fill (bytesOf (f.signOf (x.toBits >>> 63 == 1) ++ special "nan"))
  | .infinite negative => f.fill (bytesOf (f.signOf negative ++ special "inf"))
  | .finite negative mantissa exponent =>
    let precision := f.precision.getD 6
    let sign := f.signOf negative
    match f.letter.toLower with
    | 'f' => f.number true sign (f.fixed precision mantissa exponent)
    | 'e' => f.number true sign (f.scientific upper precision mantissa exponent)
    | 'g' => f.number true sign (f.general upper precision mantissa exponent)
    | _ => f.number true (sign ++ if upper then "0X" else "0x") (f.hexadecimal upper mantissa exponent)

/-- Reads flags, a width and a precision; `star` stands for a number that is given besides.  The result
is the flags, the width and the precision as they are written, and what follows. -/
structure Written where
  flags : List Char
  /-- `none` stands for a star. -/
  width : Option Nat
  precision : Option (Option Nat)
  rest : List Char

/-- The number that digits stand for, and what follows. -/
def digitsOf (cs : List Char) : Nat × List Char :=
  let digits := cs.takeWhile Char.isDigit
  (digits.foldl (fun n c => n * 10 + (c.toNat - '0'.toNat)) 0, cs.drop digits.length)

/-- Reads what stands between a percent sign and a letter. -/
def read (cs : List Char) : Written :=
  let flags := cs.takeWhile "#-+ 0".toList.contains
  let (width, rest) := number (cs.drop flags.length)
  match rest with
  | '.' :: rest =>
    let (precision, rest) := number rest
    ⟨flags, width, some precision, rest⟩
  | _ => ⟨flags, width, none, rest⟩
where
  number (cs : List Char) : Option Nat × List Char :=
    match cs with
    | '*' :: rest => (none, rest)
    | _ =>
      let (n, rest) := digitsOf cs
      (some n, rest)

example : (Format.float { letter := 'e' } 12345.678) = bytesOf "1.234568e+04" := by decide +kernel
example : (Format.float { letter := 'g' } 0.0001) = bytesOf "0.0001" := by decide +kernel

end Format

end Progeny.Host

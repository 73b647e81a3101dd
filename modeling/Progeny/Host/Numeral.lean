/-!
# Numerals

The numbers that stand at the beginning of a text: whole ones, whose form says their base, and others,
which may have a point and an exponent.
-/

namespace Progeny.Host.Numeral

/-- The value of a digit in a base. -/
def digit? (base : Nat) (c : Char) : Option Nat :=
  let n :=
    if c.isDigit then c.toNat - '0'.toNat
    else if 'a' ≤ c ∧ c ≤ 'z' then c.toNat - 'a'.toNat + 10
    else if 'A' ≤ c ∧ c ≤ 'Z' then c.toNat - 'A'.toNat + 10
    else base
  if n < base then some n else none

/-- The number that the digits at the beginning stand for, and what follows. -/
def digits (base : Nat) (text : List Char) : Nat × List Char :=
  let found := text.takeWhile fun c => (digit? base c).isSome
  (found.foldl (fun n c => n * base + (digit? base c).getD 0) 0, text.drop found.length)

/-- The number without a sign at the beginning, whose form says its base, and what follows. -/
def unsigned (text : List Char) : Nat × List Char :=
  match text with
  | '0' :: x :: c :: rest =>
    if (x = 'x' || x = 'X') && (digit? 16 c).isSome then digits 16 (c :: rest) else digits 8 text
  | '0' :: _ => digits 8 text
  | _ => digits 10 text

/-- The digits of a decimal number at the beginning: the number that they stand for, and what follows.
There may be a point among them and an exponent behind them. -/
def decimal? (text : List Char) : Option (Float × List Char) :=
  let whole := text.takeWhile Char.isDigit
  let rest := text.drop whole.length
  let fraction := match rest with
    | '.' :: more => more.takeWhile Char.isDigit
    | _ => []
  if whole.isEmpty && fraction.isEmpty then none
  else
    let rest := match rest with
      | '.' :: more => more.drop fraction.length
      | _ => rest
    let mantissa := (whole ++ fraction).foldl (fun n c => n * 10 + (c.toNat - '0'.toNat)) 0
    let (exponent, rest) : Int × List Char := match rest with
      | e :: more =>
        if e = 'e' || e = 'E' then
          let (negative, more) := match more with
            | '-' :: cs => (true, cs)
            | '+' :: cs => (false, cs)
            | _ => (false, more)
          let (n, left) := digits 10 more
          if left.length = more.length then (0, rest) else (if negative then -(n : Int) else n, left)
        else (0, rest)
      | [] => (0, [])
    let scale : Int := exponent - fraction.length
    some (if scale < 0 then Float.ofScientific mantissa true (min scale.natAbs 2000)
      else Float.ofScientific mantissa false (min scale.natAbs 2000), rest)

/-- The number at the beginning of a text, and what follows. -/
def float? (text : List Char) : Option (Float × List Char) :=
  let (negative, text) := match text with
    | '-' :: rest => (true, rest)
    | '+' :: rest => (false, rest)
    | _ => (false, text)
  let lower := text.map Char.toLower
  let sign (x : Float) : Float := if negative then -x else x
  if "infinity".toList.isPrefixOf lower then some (sign (1 / 0), text.drop 8)
  else if "inf".toList.isPrefixOf lower then some (sign (1 / 0), text.drop 3)
  else if "nan".toList.isPrefixOf lower then some (sign (0 / 0), text.drop 3)
  else match text with
    | '0' :: x :: c :: rest =>
      if (x = 'x' || x = 'X') && (digit? 16 c).isSome then
        let (n, left) := digits 16 (c :: rest)
        some (sign (Float.ofNat n), left)
      else (decimal? text).map fun (x, rest) => (sign x, rest)
    | _ => (decimal? text).map fun (x, rest) => (sign x, rest)

/-- The factors that letters behind a number stand for. -/
def factors : List (String × Nat) :=
  let powers (base : Nat) (suffix : String) : List (String × Nat) :=
    ["K", "M", "G", "T", "P", "E"].mapIdx fun i letter => (letter ++ suffix, Nat.pow base (i + 1))
  [("b", 512), ("c", 1), ("w", 2), ("k", 1024), ("m", Nat.pow 1024 2), ("kB", 1000)] ++
    powers 1024 "" ++ powers 1024 "iB" ++ powers 1000 "B"

/-- The number that digits stand for, with a factor behind them. -/
def sized? (text : String) : Option Nat :=
  let cs := text.toList
  let (n, rest) := digits 10 cs
  if rest.length = cs.length then none
  else if rest.isEmpty then some n
  else (factors.lookup (String.ofList rest)).map (n * ·)

end Progeny.Host.Numeral

import Progeny.Host.Format
import Progeny.Host.Numeral
import Progeny.Host.Options

/-!
# Progressions and factors

Tools that print numbers: those from one number to another in equal steps, and the factors of a number.
Steps are exact: a number is a whole number of units of some power of ten.
-/

namespace Progeny.Host.Progression

open Text (Bytes bytesOf)

/-- A number `units / 10 ^ places`, and the places that were written. -/
structure Decimal where
  units : Int
  places : Nat

/-- A number in smaller units. -/
def Decimal.scaled (d : Decimal) (places : Nat) : Int := d.units * Nat.pow 10 (places - d.places)

/-- The number that a text stands for. -/
def decimal? (text : String) : Option Decimal :=
  let (negative, cs) := match text.toList with
    | '-' :: rest => (true, rest)
    | '+' :: rest => (false, rest)
    | cs => (false, cs)
  let sign (n : Int) : Int := if negative then -n else n
  match cs with
  | '0' :: x :: rest =>
    if x = 'x' || x = 'X' then
      let (n, left) := Numeral.digits 16 rest
      if rest.isEmpty || ! left.isEmpty then none else some ⟨sign n, 0⟩
    else plain sign cs
  | _ => plain sign cs
where
  plain (sign : Int → Int) (cs : List Char) : Option Decimal :=
    let whole := cs.takeWhile Char.isDigit
    let rest := cs.drop whole.length
    let fraction := match rest with
      | '.' :: more => more.takeWhile Char.isDigit
      | _ => []
    let rest := match rest with
      | '.' :: more => more.drop fraction.length
      | _ => rest
    if whole.isEmpty && fraction.isEmpty then none
    else
      let n : Int := (Numeral.digits 10 (whole ++ fraction)).1
      match rest with
      | [] => some ⟨sign n, fraction.length⟩
      | e :: more =>
        if e ≠ 'e' && e ≠ 'E' then none
        else
          let (below, digits) := match more with
            | '-' :: ds => (true, ds)
            | '+' :: ds => (false, ds)
            | ds => (false, ds)
          let (k, left) := Numeral.digits 10 digits
          if digits.isEmpty || ! left.isEmpty || k > 1000 then none
          else if below then some ⟨sign n, fraction.length + k⟩
          else if k ≤ fraction.length then some ⟨sign n, fraction.length - k⟩
          else some ⟨sign (n * Nat.pow 10 (k - fraction.length)), 0⟩

/-- The text of a number of units, filled up with zeros to a width. -/
def textOf (places width : Nat) (units : Int) : String :=
  let digits := units.natAbs
  let body := if places = 0 then digits.repr
    else (digits / Nat.pow 10 places).repr ++ "." ++ Format.zeroed places (digits % Nat.pow 10 places).repr
  let sign := if units < 0 then "-" else ""
  sign ++ Format.zeroed (width - sign.length) body

/-- The numbers from `first` to `last`, but no more than `fuel`. -/
def terms (step last : Int) : (fuel : Nat) → Int → List Int
  | 0, _ => []
  | fuel + 1, n =>
    if (0 < step && last < n) || (step < 0 && n < last) then [] else n :: terms step last fuel (n + step)

/-- A format with one sign in it: what stands before it, its parts, and what stands behind it. -/
structure Shape where
  before : Bytes
  written : Format.Written
  letter : Char
  behind : Bytes

/-- The text up to a percent sign that stands for no other, and what follows that. -/
def upToSign : Bytes → Bytes × Option Bytes
  | [] => ([], none)
  | 37 :: 37 :: rest =>
    let (found, left) := upToSign rest
    (37 :: found, left)
  | 37 :: rest => ([], some rest)
  | b :: rest =>
    let (found, left) := upToSign rest
    (b :: found, left)

/-- Reads a format. -/
def shape? (text : String) : Except String Shape :=
  match upToSign (bytesOf text) with
  | (_, none) => .error ("format " ++ quoted text ++ " has no % directive")
  | (before, some rest) =>
    let written := Format.read (rest.map fun b => Char.ofNat b.toNat)
    match written.rest with
    | [] => .error ("format " ++ quoted text ++ " ends in %")
    | letter :: more =>
      if ! "aAeEfFgG".toList.contains letter then
        .error ("format " ++ quoted text ++ " has unknown %" ++ letter.toString ++ " directive")
      else match upToSign (more.map fun c => c.toNat.toUInt8) with
        | (behind, none) => .ok ⟨before, written, letter, behind⟩
        | _ => .error ("format " ++ quoted text ++ " has too many % directives")

/-- A number in a shape. -/
def Shape.show (shape : Shape) (x : Float) : Bytes :=
  let f : Format := {
    flags := shape.written.flags, width := shape.written.width.getD 0
    precision := shape.written.precision.bind id, letter := shape.letter }
  shape.before ++ f.float x ++ shape.behind

/-- The greatest number of terms that are printed. -/
def maxTerms : Nat := 1000000

/-- Prints the numbers from one to another in equal steps. -/
def seq : Tool := fun call =>
  let isNumber (text : String) : Bool := match text.toList with
    | '-' :: c :: _ => c.isDigit || c = '.'
    | _ => false
  let early := call.texts.takeWhile (! isNumber ·)
  let table := { OptionTable.of "f:s:w" [("format", 'f'), ("separator", 's'), ("equal-width", 'w')] with first := true }
  let late := call.texts.drop early.length
  let wants := early.getLast?.any fun text => text = "-f" || text = "-s"
  let (early, late) := if wants then (early ++ late.take 1, late.drop 1) else (early, late)
  match table.readFrom none early with
  | .error e => call.misused 1 e
  | .ok request =>
    let operands := request.operands ++ late
    match operands.drop 3, operands with
    | extra :: _, _ => call.misused 1 ("extra operand " ++ quoted extra)
    | [], [] => call.misused 1 "missing operand"
    | [], _ =>
      let endless := operands.getLast? = some "inf"
      let given := if endless then operands.dropLast else operands
      match given.find? fun text => (decimal? text).isNone with
      | some bad => call.misused 1 ("invalid floating point argument: " ++ quoted bad)
      | none =>
        let one : Decimal := ⟨1, 0⟩
        let found := given.filterMap decimal?
        let last := if endless then one else found.getLast?.getD one
        let others := if endless then found else found.dropLast
        let first := others.headD one
        let step := (others.drop 1).headD one
        let places := max first.places step.places
        let fine := max places last.places
        let stepText := (operands.drop 1).headD ""
        let shape := (request.value? 'f').map shape?
        if step.units = 0 then
          call.misused 1 ("invalid Zero increment value: " ++ quoted stepText)
        else match shape with
          | some (.error e) => call.failing 1 e
          | _ =>
            let limit := if endless then first.scaled fine + step.scaled fine * 100000 else last.scaled fine
            let numbers := terms (step.scaled fine) limit maxTerms (first.scaled fine)
            let separator := bytesOf ((request.value? 's').getD "\n")
            let coarse (n : Int) : Int := n / Nat.pow 10 (fine - places)
            let width := if request.asks 'w' then
                max (textOf places 0 (coarse (first.scaled fine))).length
                  ((textOf places 0 (coarse (last.scaled fine))).length)
              else 0
            let shown (n : Int) : Bytes := match shape with
              | some (.ok shape) =>
                shape.show (if n < 0 then -(Float.ofScientific n.natAbs true fine)
                  else Float.ofScientific n.natAbs true fine)
              | _ => bytesOf (textOf places width (coarse n))
            if numbers.isEmpty then call.idle
            else call.printing (separator.intercalate (numbers.map shown) ++ [lineFeed])

/-- The prime factors of a number from a possible factor on. -/
def factorsFrom : (fuel : Nat) → (divisor n : Nat) → List Nat
  | 0, _, n => [n]
  | fuel + 1, divisor, n =>
    if n < divisor * divisor then if n > 1 then [n] else []
    else if n % divisor = 0 then divisor :: factorsFrom fuel divisor (n / divisor)
    else factorsFrom fuel (divisor + 1) n

/-- Prints the prime factors of numbers. -/
def factor : Tool := fun call => call.parsing "h" [("exponents", 'h')] fun request =>
  let shown (texts : List String) : Reply :=
    let printed := texts.map fun text =>
      let bare := if text.startsWith "+" then (text.drop 1).toString else text
      match natural? bare with
      | some n => (1, line (String.join (n.repr :: ":" :: (if n = 0 then [] else factorsFrom 2000000 2 n).map (" " ++ ·.repr))))
      | none => (2, call.complaint (quoted text ++ " is not a valid positive integer"))
    { call.idle with printed := printed, status := if printed.all (·.1 = 1) then 0 else 1 }
  if request.operands.isEmpty then
    call.whenEnded { shown ((splitBytes (fun b => b == 32 || b == 9 || b == 10) call.input).filterMap fun word =>
      if word.isEmpty then none else some (Text.Utf8.decode word)) with unread := [] }
  else shown request.operands

end Progeny.Host.Progression

import Progeny.Host.Format
import Progeny.Host.Numeral
import Progeny.Shell.Arithmetic

/-!
# Printing

What the commands of a shell print that print their arguments: as they are, or by a format in which
arguments take the places of the signs for them.
-/

namespace Progeny.Shell

open Host
open Text (Bytes bytesOf)

namespace Printing

/-- The octets that letters behind a backslash stand for. -/
def escapes : List (Char × UInt8) :=
  [('\\', 92), ('a', 7), ('b', 8), ('e', 27), ('f', 12), ('n', 10), ('r', 13), ('t', 9), ('v', 11)]

/-- The character of an octet. -/
def charOf (b : UInt8) : Char := Char.ofNat b.toNat

/-- Whether an octet is a digit of an octal number. -/
def isOctal (b : UInt8) : Bool := 48 ≤ b && b ≤ 55

/-- What is meant behind a backslash, and what follows; unknown letters leave the backslash as it
is. -/
def escape (bytes : Bytes) : UInt8 × Bytes :=
  match bytes with
  | [] => (92, [])
  | b :: rest =>
    if isOctal b then
      let digits := (bytes.take 3).takeWhile isOctal
      let n := digits.foldl (fun n d => n * 8 + (d.toNat - 48)) 0
      (n.toUInt8, bytes.drop digits.length)
    else match escapes.lookup (charOf b) with
      | some octet => (octet, rest)
      | none => (92, bytes)

/-- Text in which backslashes are escapes, and whether it ends early. -/
def unescaped : (fuel : Nat) → Bytes → Bytes × Bool
  | 0, _ => ([], false)
  | _, [] => ([], false)
  | fuel + 1, b :: rest =>
    if b ≠ 92 then
      let (found, stopped) := unescaped fuel rest
      (b :: found, stopped)
    else match rest with
      | 99 :: _ => ([], true)
      | _ =>
        let behind := match rest with
          | 48 :: digit :: more => if isOctal digit then digit :: more else rest
          | _ => rest
        let (octet, left) := escape behind
        let (found, stopped) := unescaped fuel left
        (octet :: found, stopped)

/-- What the plain command prints. -/
def plain (args : List Bytes) : Bytes :=
  let quiet := args.head? = some (bytesOf "-n")
  let args := if quiet then args.drop 1 else args
  let (text, stopped) := unescaped (([32].intercalate args).length + 1) ([32].intercalate args)
  text ++ if quiet || stopped then [] else [10]

/-- What was printed by a format. -/
structure Formatted where
  output : Bytes := []
  warnings : List Bytes := []
  /-- The text of an error that stopped it. -/
  error : Option Bytes := none
  /-- It was asked to stop. -/
  stopped : Bool := false

/-- The state while a format is carried out: the arguments that are left, and what was printed,
backwards. -/
structure Course where
  args : List Bytes
  pieces : List Bytes := []
  warnings : List Bytes := []

/-- A computation that carries out a format; its failure is the text of an error, or none if it was
asked to stop. -/
abbrev Print := ExceptT (Option Bytes) (StateM Course)

/-- Prints octets. -/
def put (bytes : Bytes) : Print Unit := modify fun c => { c with pieces := bytes :: c.pieces }

/-- The next argument. -/
def next? : Print (Option Bytes) := do
  let c ← get
  match c.args with
  | [] => return none
  | a :: rest =>
    set { c with args := rest }
    return some a

/-- Warns. -/
def warn (arg : Bytes) (text : String) : Print Unit := modify fun c =>
  { c with warnings := (arg ++ bytesOf (": " ++ text)) :: c.warnings }

/-- Warns if an argument was not read to its end. -/
def checkRead (arg : Bytes) (left : List Char) : Print Unit := do
  if ! left.isEmpty then
    if left.length = arg.length then warn arg "expected numeric value"
    else warn arg "not completely converted"

/-- The whole number that an argument stands for. -/
def wholeOf (signed : Bool) : Print Int := do
  match ← next? with
  | none => return 0
  | some arg =>
    match arg with
    | 34 :: rest | 39 :: rest => return ((rest.head?.map (·.toNat)).getD 0 : Nat)
    | _ =>
      let cs := arg.map charOf
      let text := cs.dropWhile fun c => c.isWhitespace
      let (negative, digits) := match text with
        | '-' :: rest => (true, rest)
        | '+' :: rest => (false, rest)
        | _ => (false, text)
      if ! digits.head?.any Char.isDigit then
        checkRead arg cs
        return 0
      let (n, left) := Numeral.unsigned digits
      checkRead arg left
      let value : Int := if negative then -(n : Int) else n
      let low : Int := if signed then -(Nat.pow 2 63) else -(Nat.pow 2 64 - 1)
      let high : Int := if signed then Nat.pow 2 63 - 1 else Nat.pow 2 64 - 1
      if left.isEmpty && (value < low || high < value) then warn arg "Numerical result out of range"
      return max low (min high value)

/-- The number that an argument stands for. -/
def floatArgument : Print Float := do
  match ← next? with
  | none => return 0
  | some arg =>
    match arg with
    | 34 :: rest | 39 :: rest => return Float.ofNat ((rest.head?.map (·.toNat)).getD 0)
    | _ =>
      let cs := arg.map charOf
      match Numeral.float? (cs.dropWhile Char.isWhitespace) with
      | some (x, left) =>
        checkRead arg left
        return x
      | none =>
        checkRead arg cs
        return 0

/-- Prints an argument in the form that a letter says. -/
def convert (written : Format.Written) (letter : Char) (asWritten : String) : Print Unit := do
  let width ← match written.width with
    | some n => pure (n : Int)
    | none => wholeOf true
  let precision ← match written.precision with
    | none => pure none
    | some (some n) => pure (some (n : Int))
    | some none => some <$> wholeOf true
  let f : Format := {
    flags := if width < 0 then '-' :: written.flags else written.flags
    width := width.natAbs, precision := (precision.filter (0 ≤ ·)).map Int.toNat, letter := letter }
  if letter = 's' then put (f.text ((← next?).getD []))
  else if letter = 'b' then
    let arg := (← next?).getD []
    let (text, stopped) := unescaped (arg.length + 1) arg
    put (f.text text)
    if stopped then throw none
  else if letter = 'c' then put ({ f with precision := none }.text [((← next?).bind (·.head?)).getD 0])
  else if letter = 'd' || letter = 'i' then put (f.int (← wholeOf true))
  else if "ouxX".toList.contains letter then put (f.int (← wholeOf false))
  else if "aAeEfFgG".toList.contains letter then put (f.float (← floatArgument))
  else throw (some (bytesOf (asWritten ++ ": invalid directive")))

/-- Carries out a format once. -/
def once : (fuel : Nat) → Bytes → Print Unit
  | 0, _ => return ()
  | _, [] => return ()
  | fuel + 1, b :: rest => do
    if b = 92 then
      let (octet, left) := escape rest
      put [octet]
      once fuel left
    else if b ≠ 37 then
      put [b]
      once fuel rest
    else match rest with
      | 37 :: more =>
        put [37]
        once fuel more
      | _ =>
        let cs := rest.map charOf
        let written := Format.read cs
        match written.rest with
        | [] => throw (some (bytesOf "missing format character"))
        | letter :: _ =>
          let length := cs.length - written.rest.length + 1
          convert written letter (String.ofList ('%' :: cs.take length))
          once fuel (rest.drop length)

/-- Carries out a format as often as there are arguments for it. -/
def repeated (format : Bytes) : (fuel : Nat) → Print Unit
  | 0 => return ()
  | fuel + 1 => do
    let before := (← get).args.length
    once (format.length + 1) format
    let left := (← get).args.length
    if left ≠ before && left ≠ 0 then repeated format fuel

/-- What is printed by a format. -/
def formatted (format : Bytes) (args : List Bytes) : Formatted :=
  let (result, c) := (repeated format (args.length + 1)).run.run { args := args }
  let (error, stopped) := match result with
    | .ok _ => (none, false)
    | .error none => (none, true)
    | .error (some text) => (some text, false)
  ⟨c.pieces.reverse.flatten, c.warnings.reverse, error, stopped⟩

end Printing

end Progeny.Shell

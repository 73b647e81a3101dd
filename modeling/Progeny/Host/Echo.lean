import Progeny.Host.Format
import Progeny.Host.Numeral
import Progeny.Host.Options

/-!
# Printing arguments

The tools that print their arguments: as they are, or by a format in which arguments take the places of
the signs for them.
-/

namespace Progeny.Host.Echo

open Text (Bytes bytesOf)

/-- The octets that letters behind a backslash stand for. -/
def letters : List (UInt8 × UInt8) :=
  [(92, 92), (97, 7), (98, 8), (101, 27), (102, 12), (110, 10), (114, 13), (116, 9), (118, 11)]

/-- The value of a digit in a base. -/
def digit? (base : Nat) (b : UInt8) : Option Nat := Numeral.digit? base (Char.ofNat b.toNat)

/-- The number that no more than `most` digits stand for, and how many there are. -/
def digits (base most : Nat) (bytes : Bytes) : Nat × Nat :=
  let found := (bytes.take most).takeWhile fun b => (digit? base b).isSome
  (found.foldl (fun n b => n * base + (digit? base b).getD 0) 0, found.length)

/-- What an escape stands for. -/
inductive Escape where
  | octets (bytes : Bytes)
  /-- Nothing more is printed. -/
  | stop
  /-- A backslash that is no escape. -/
  | backslash
  /-- Digits are missing. -/
  | incomplete

/-- Reads an escape behind its backslash: what it stands for and how long it is.  With `zero`, octal
digits may have a zero in front of them; with `wide`, characters may be given by their numbers. -/
def escape (zero wide : Bool) (bytes : Bytes) : Escape × Nat :=
  match bytes with
  | [] => (.backslash, 0)
  | b :: rest =>
    match letters.lookup b with
    | some octet => (.octets [octet], 1)
    | none =>
      if b = 99 then (.stop, 1)
      else if b = 120 then
        let (n, count) := digits 16 2 rest
        if count = 0 then (if wide then (.incomplete, 1) else (.backslash, 0))
        else (.octets [n.toUInt8], 1 + count)
      else if wide && (b = 117 || b = 85) then
        let (n, count) := digits 16 (if b = 117 then 4 else 8) rest
        if count = 0 then (.incomplete, 1) else (.octets (bytesOf (Char.ofNat n).toString), 1 + count)
      else if wide && b = 34 then (.octets [34], 1)
      else if zero && b = 48 then
        let (n, count) := digits 8 3 rest
        (.octets [n.toUInt8], 1 + count)
      else
        let (n, count) := digits 8 3 bytes
        if count = 0 then (.backslash, 0) else (.octets [n.toUInt8], count)

/-- The octets that a text with escapes stands for, and whether an escape ended it. -/
def unescaped (zero wide : Bool) : (fuel : Nat) → Bytes → Bytes × Bool
  | 0, _ => ([], false)
  | _, [] => ([], false)
  | fuel + 1, b :: rest =>
    let after (found : Bytes) (n : Nat) : Bytes × Bool :=
      let (more, stopped) := unescaped zero wide fuel (rest.drop n)
      (found ++ more, stopped)
    if b = 92 then
      match escape zero wide rest with
      | (.octets found, n) => after found n
      | (.stop, _) => ([], true)
      | _ => after [b] 0
    else after [b] 0

/-- Prints its arguments with blanks between them. -/
def echo : Tool := fun call =>
  let isOption (arg : Bytes) : Bool := match arg with
    | 45 :: b :: rest => (b :: rest).all fun c => c == 110 || c == 101 || c == 69
    | _ => false
  let options := call.args.takeWhile isOption
  let given := (options.flatMap (·.drop 1))
  let args := call.args.drop options.length
  let text := [32].intercalate args
  let reads := (given.filter fun c => c == 101 || c == 69).getLast? = some 101
  let (found, stopped) := if reads then unescaped true false (text.length + 1) text else (text, false)
  call.printing (found ++ if stopped || given.contains 110 then [] else [lineFeed])

/-! ### Formats -/

/-- The state while a format is carried out: the arguments that are left, and what was printed,
backwards. -/
structure Course where
  args : List Bytes
  printed : List (Nat × Bytes) := []
  failed : Bool := false

/-- A computation that carries out a format; a failure is the text of an error, or none if it was asked
to stop. -/
abbrev Print := ExceptT (Option String) (StateM Course)

/-- Prints octets. -/
def put (bytes : Bytes) : Print Unit := modify fun c => { c with printed := (1, bytes) :: c.printed }

/-- Complains, but goes on. -/
def warn (call : Call) (text : String) : Print Unit := modify fun c =>
  { c with printed := (2, call.complaint text) :: c.printed, failed := true }

/-- The next argument. -/
def next? : Print (Option Bytes) := do
  let c ← get
  match c.args with
  | [] => return none
  | a :: rest =>
    set { c with args := rest }
    return some a

/-- Complains if a number was not read to its end. -/
def checkRead (call : Call) (arg : Bytes) (left : Nat) : Print Unit := do
  let text := quoted (Text.Utf8.decode arg)
  if left = arg.length && left ≠ 0 then warn call (text ++ ": expected a numeric value")
  else if left ≠ 0 then warn call (text ++ ": value not completely converted")

/-- The number of the character behind a quotation mark, if an argument is one. -/
def character? (call : Call) (arg : Bytes) : Print (Option Nat) := do
  match arg with
  | 34 :: b :: rest | 39 :: b :: rest =>
    match (Text.Utf8.decode (b :: rest)).toList with
    | c :: others =>
      if ! others.isEmpty then
        modify fun course => { course with
          printed := (2, call.complaint ("warning: " ++ String.ofList others ++
            ": character(s) following character constant have been ignored")) :: course.printed }
      return some c.toNat
    | [] => return none
  | _ => return none

/-- The whole number that the next argument stands for. -/
def whole (call : Call) (signed : Bool) : Print Int := do
  match ← next? with
  | none => return 0
  | some arg =>
    match ← character? call arg with
    | some n => return n
    | none =>
      let cs := arg.map fun b => Char.ofNat b.toNat
      let text := cs.dropWhile Char.isWhitespace
      let (negative, rest) := match text with
        | '-' :: rest => (true, rest)
        | '+' :: rest => (false, rest)
        | _ => (false, text)
      if ! rest.head?.any Char.isDigit then
        checkRead call arg arg.length
        return 0
      let (n, left) := Numeral.unsigned rest
      let value : Int := if negative then -(n : Int) else n
      let low : Int := if signed then -(Nat.pow 2 63) else -(Nat.pow 2 64 - 1)
      let high : Int := if signed then Nat.pow 2 63 - 1 else Nat.pow 2 64 - 1
      if value < low || high < value then
        warn call (quoted (Text.Utf8.decode arg) ++ ": Numerical result out of range")
      else checkRead call arg left.length
      return max low (min high value)

/-- The number that the next argument stands for. -/
def real (call : Call) : Print Float := do
  match ← next? with
  | none => return 0
  | some arg =>
    match ← character? call arg with
    | some n => return Float.ofNat n
    | none =>
      let cs := arg.map fun b => Char.ofNat b.toNat
      match Numeral.float? (cs.dropWhile Char.isWhitespace) with
      | some (x, left) =>
        checkRead call arg left.length
        return x
      | none =>
        checkRead call arg arg.length
        return 0

/-- A text in such a form that a shell reads it back. -/
def shellQuoted (bytes : Bytes) : Bytes :=
  let isPlain (b : UInt8) : Bool :=
    isDigit b || (65 ≤ b && b ≤ 90) || (97 ≤ b && b ≤ 122) || b ≥ 128 || (bytesOf "%+,-./:=@_").contains b
  if ! bytes.isEmpty && bytes.all isPlain then bytes
  else if bytes.contains 39 && ! (bytes.any fun b => (bytesOf "\"$\x60\\").contains b) then
    [34] ++ bytes ++ [34]
  else [39] ++ bytes.flatMap (fun b => if b = 39 then bytesOf "'\\''" else [b]) ++ [39]

/-- Prints the next argument in the form that a letter says. -/
def convert (call : Call) (written : Format.Written) (letter : Char) : Print Unit := do
  let width ← match written.width with
    | some n => pure (n : Int)
    | none => whole call true
  let precision ← match written.precision with
    | none => pure none
    | some (some n) => pure (some (n : Int))
    | some none => some <$> whole call true
  let f : Format := {
    flags := if width < 0 then '-' :: written.flags else written.flags
    width := width.natAbs, precision := (precision.filter (0 ≤ ·)).map Int.toNat, letter := letter }
  if letter = 's' then put (f.text ((← next?).getD []))
  else if letter = 'q' then put (shellQuoted ((← next?).getD []))
  else if letter = 'b' then
    let arg := (← next?).getD []
    let (text, stopped) := unescaped true true (arg.length + 1) arg
    put text
    if stopped then throw none
  else if letter = 'c' then
    put ({ f with precision := none }.text (((← next?).getD []).take 1))
  else if letter = 'd' || letter = 'i' then put (f.int (← whole call true))
  else if "ouxX".toList.contains letter then put (f.int (← whole call false))
  else put (f.float (← real call))

/-- The letters of forms. -/
def forms : List Char := "sqbcdiouxXaAeEfFgG".toList

/-- Carries out a format once. -/
def once (call : Call) : (fuel : Nat) → Bytes → Print Unit
  | 0, _ => return ()
  | _, [] => return ()
  | fuel + 1, b :: rest => do
    if b = 92 then
      match escape false true rest with
      | (.octets found, n) =>
        put found
        once call fuel (rest.drop n)
      | (.stop, _) => throw none
      | (.incomplete, _) => throw (some "missing hexadecimal number in escape")
      | (.backslash, _) =>
        put [b]
        once call fuel rest
    else if b ≠ 37 then
      put [b]
      once call fuel rest
    else match rest with
      | 37 :: more =>
        put [37]
        once call fuel more
      | _ =>
        let cs := rest.map fun c => Char.ofNat c.toNat
        let written := Format.read cs
        let modifiers := written.rest.takeWhile "hlLqjzt".toList.contains
        let behind := if written.rest.head? = some 'q' then written.rest else written.rest.drop modifiers.length
        let length := cs.length - behind.length + 1
        match behind.head?.filter forms.contains with
        | some letter =>
          convert call written letter
          once call fuel (rest.drop length)
        | none =>
          let shown := Text.Utf8.decode (37 :: rest.take length)
          throw (some (shown ++ ": invalid conversion specification"))

/-- Carries out a format as often as there are arguments for it. -/
def repeatedly (call : Call) (format : Bytes) : (fuel : Nat) → Print Unit
  | 0 => return ()
  | fuel + 1 => do
    let before := (← get).args.length
    once call (format.length + 1) format
    let left := (← get).args
    match left with
    | [] => return ()
    | extra :: _ =>
      if left.length = before then
        modify fun c => { c with printed := (2, call.complaint
          ("warning: ignoring excess arguments, starting with " ++ quoted (Text.Utf8.decode extra))) :: c.printed }
      else repeatedly call format fuel

/-- Prints its arguments by a format. -/
def printf : Tool := fun call =>
  match if call.args.head? = some (bytesOf "--") then call.args.drop 1 else call.args with
  | [] => call.misused 1 "missing operand"
  | format :: args =>
    let (result, c) := (repeatedly call format (args.length + 1)).run.run { args := args }
    let printed := c.printed.reverse
    match result with
    | .error (some e) => { call.idle with printed := printed ++ [(2, call.complaint e)], status := 1 }
    | _ => { call.idle with printed := printed, status := if c.failed then 1 else 0 }

end Progeny.Host.Echo

import Progeny.Sequence.Total

/-!
# Reading JSON

Values are read straight into the type that is wanted, from left to right, and the first fault ends
the reading: text that is no JSON, text that stops too early, or a value of another kind than the
one wanted.  Which of several faults is reported is thus a matter of position.

A value that nobody wants is passed over.  Passing over is lenient: escapes need not denote
characters, numbers may be of any size, and nesting may be of any depth.  In a `buffered` reading
the value is held back until its place in the result is known, and then all of it has to be proper.
-/

namespace Progeny.Json

/-- What is wrong with a text. -/
inductive Fault where
  /-- The text is no JSON. -/
  | malformed
  /-- A value is not of the kind that is wanted. -/
  | mismatched
  /-- The text stops too early. -/
  | unfinished
  deriving DecidableEq, Repr

/-- A computation that reads characters. -/
abbrev Reader := StateT (List Char) (Except Fault)

/-- How strictly values are read that are not used. -/
inductive Mode where
  | direct
  /-- Values may be nested less than `depth` deep from here. -/
  | buffered (depth : Nat)
  deriving DecidableEq, Repr

namespace Mode

/-- The mode inside a list or an object. -/
def inner : Mode → Mode
  | .direct => .direct
  | .buffered depth => .buffered (depth - 1)

end Mode

namespace Reader

variable {α β : Type}

/-- Whether a character may stand between the parts of a text. -/
def isSpace (c : Char) : Bool := c == ' ' || c == '\n' || c == '\t' || c == '\r'

/-- The next character; it is not taken. -/
def peek : Reader (Option Char) := fun cs => .ok (cs.head?, cs)

/-- The next character that is not a space; it is not taken. -/
def peekPart : Reader (Option Char) := fun cs =>
  let cs := cs.dropWhile isSpace
  .ok (cs.head?, cs)

/-- Takes the next character. -/
def advance : Reader Unit := fun cs => .ok ((), cs.drop 1)

/-- Takes the characters `rest`, the remaining letters of a keyword. -/
def keyword : List Char → Reader Unit
  | [] => return ()
  | c :: rest => do
    match ← peek with
    | none => throw .unfinished
    | some d =>
      advance
      if c = d then keyword rest else throw .malformed

/-! ### Strings -/

/-- The number that a hexadecimal digit stands for. -/
def hexDigit? (c : Char) : Option Nat :=
  if '0' ≤ c ∧ c ≤ '9' then some (c.toNat - '0'.toNat)
  else if 'a' ≤ c ∧ c ≤ 'f' then some (c.toNat - 'a'.toNat + 10)
  else if 'A' ≤ c ∧ c ≤ 'F' then some (c.toNat - 'A'.toNat + 10)
  else none

/-- The four hexadecimal digits of an escape.  The text is too short if fewer than four bytes are
left of it. -/
def hexFour : Reader Nat := fun cs =>
  if Sequence.total Char.utf8Size (cs.take 4) < 4 then .error .unfinished
  else match (cs.take 4).mapM hexDigit? with
    | some [a, b, c, d] => .ok (((a * 16 + b) * 16 + c) * 16 + d, cs.drop 4)
    | _ => .error .malformed

/-- Takes the character `c`, which has to come next inside a string. -/
def expectInString (c : Char) : Reader Unit := do
  match ← peek with
  | none => throw .unfinished
  | some d => if c = d then advance else throw .malformed

/-- The second half of a character that is written as two escapes, `high` being the first half. -/
def surrogatePair (high : Nat) : Reader Char := do
  expectInString '\\'
  expectInString 'u'
  let low ← hexFour
  if 0xDC00 ≤ low ∧ low ≤ 0xDFFF then
    return Char.ofNat ((high - 0xD800) * 0x400 + (low - 0xDC00) + 0x10000)
  else throw .malformed

/-- The character of a numeric escape. -/
def unicodeEscape : Reader Char := do
  let n ← hexFour
  if 0xDC00 ≤ n ∧ n ≤ 0xDFFF then throw .malformed
  else if 0xD800 ≤ n ∧ n ≤ 0xDBFF then surrogatePair n
  else return Char.ofNat n

/-- The character that a short escape stands for. -/
def shortEscape? (c : Char) : Option Char :=
  if c = '"' ∨ c = '\\' ∨ c = '/' then some c
  else if c = 'b' then some '\x08'
  else if c = 'f' then some '\x0c'
  else if c = 'n' then some '\n'
  else if c = 'r' then some '\r'
  else if c = 't' then some '\t'
  else none

/-- The character of an escape, after its backslash.  Unless `proper`, a numeric escape is only
looked at for its digits. -/
def escape (proper : Bool) : Reader Char := do
  match ← peek with
  | none => throw .unfinished
  | some c =>
    advance
    if c = 'u' then
      if proper then unicodeEscape
      else do
        let _ ← hexFour
        return ' '
    else match shortEscape? c with
      | some d => return d
      | none => throw .malformed

/-- One character of a string, or `none` for the quote that ends it. -/
def stringPart (proper : Bool) : Reader (Option Char) := do
  match ← peek with
  | none => throw .unfinished
  | some c =>
    advance
    if c = '"' then return none
    else if c = '\\' then return some (← escape proper)
    else if c.toNat < 0x20 then throw .malformed
    else return some c

/-- The characters of a string up to its quote, behind those that were `read`. -/
def stringRest (proper : Bool) : (fuel : Nat) → (read : List Char) → Reader String
  | 0, _ => throw .unfinished
  | fuel + 1, read => do
    match ← stringPart proper with
    | none => return String.ofList read.reverse
    | some c => stringRest proper fuel (c :: read)

/-- The string after its opening quote. -/
def stringBody (proper : Bool) : Reader String := fun cs =>
  stringRest proper (cs.length + 1) [] cs

/-! ### Numbers -/

/-- A number: a whole one that fits into 64 bits, or a double. -/
inductive Number where
  | whole (n : Int)
  | real (x : Float)

/-- The number as a double. -/
def Number.toFloat : Number → Float
  | .whole (.ofNat n) => n.toFloat
  | .whole (.negSucc n) => -(n + 1).toFloat
  | .real x => x

/-- The digit that a character stands for. -/
def digit? (c : Char) : Option Nat := if c.isDigit then some (c.toNat - '0'.toNat) else none

/-- The greatest significand that is counted exactly. -/
def maxSignificand : Nat := 18446744073709551615

/-- Takes digits as long as the significand stays countable; says how many. -/
def significandFrom : (significand taken : Nat) → List Char → (Nat × Nat) × List Char
  | s, n, [] => ((s, n), [])
  | s, n, c :: rest =>
    match digit? c with
    | none => ((s, n), c :: rest)
    | some d =>
      if s * 10 + d ≤ maxSignificand then significandFrom (s * 10 + d) (n + 1) rest
      else ((s, n), c :: rest)

/-- Takes all digits that follow; says how many. -/
def skipDigits : Reader Nat := fun cs =>
  .ok ((cs.takeWhile Char.isDigit).length, cs.dropWhile Char.isDigit)

/-- `10 ^ e` as a double. -/
def powerOfTen (e : Nat) : Float := Float.ofScientific 1 false e

/-- `f * 10 ^ exponent`, by one multiplication or one division after the exponent has been brought
near zero; `none` if it is too large. -/
def scaled? : (fuel : Nat) → Float → Int → Option Float
  | 0, f, _ => some f
  | fuel + 1, f, exponent =>
    if exponent.natAbs ≤ 308 then
      if 0 ≤ exponent then
        let product := f * powerOfTen exponent.natAbs
        if product.isInf then none else some product
      else some (f / powerOfTen exponent.natAbs)
    else if f == 0.0 then some f
    else if 0 ≤ exponent then none
    else scaled? fuel (f / powerOfTen 308) (exponent + 308)

/-- The double `± significand * 10 ^ exponent`. -/
def realOf (positive : Bool) (significand : Nat) (exponent : Int) : Reader Number :=
  match scaled? (exponent.natAbs / 308 + 2) significand.toFloat exponent with
  | none => throw .malformed
  | some f => return .real (if positive then f else -f)

/-- The exponent after its letter. -/
def exponentPart (positive : Bool) (significand : Nat) (exponent : Int) : Reader Number := do
  advance
  let sign ← peek
  if sign = some '+' ∨ sign = some '-' then advance
  match ← peek with
  | none => throw .unfinished
  | some c =>
    if !c.isDigit then throw .malformed
    let digits ← (fun cs => .ok (cs.takeWhile Char.isDigit, cs.dropWhile Char.isDigit) : Reader _)
    let e := digits.foldl (fun e c => e * 10 + (c.toNat - '0'.toNat)) 0
    realOf positive significand (if sign = some '-' then exponent - e else exponent + e)

/-- What may follow the digits after the point. -/
def afterFraction (positive : Bool) (significand : Nat) (exponent : Int) : Reader Number := do
  match ← peek with
  | some 'e' | some 'E' => exponentPart positive significand exponent
  | _ => realOf positive significand exponent

/-- The digits after the point.  Digits that the significand cannot count are dropped. -/
def fractionPart (positive : Bool) (significand : Nat) (exponent : Int) : Reader Number := do
  advance
  let (s, taken) ← (fun cs => .ok (significandFrom significand 0 cs) : Reader _)
  match ← peek with
  | some c =>
    if c.isDigit then
      let _ ← skipDigits
      afterFraction positive s (exponent - taken)
    else if taken = 0 then throw .malformed
    else afterFraction positive s (exponent - taken)
  | none => if taken = 0 then throw .unfinished else afterFraction positive s (exponent - taken)

/-- What may follow the whole digits of a double. -/
def afterWhole (positive : Bool) (significand : Nat) (exponent : Int) : Reader Number := do
  match ← peek with
  | some '.' => fractionPart positive significand exponent
  | some 'e' | some 'E' => exponentPart positive significand exponent
  | _ => realOf positive significand exponent

/-- The number with a significand that was counted in full. -/
def numberRest (positive : Bool) (significand : Nat) : Reader Number := do
  match ← peek with
  | some '.' | some 'e' | some 'E' => afterWhole positive significand 0
  | _ =>
    if positive then return .whole significand
    else if 0 < significand ∧ significand ≤ Nat.pow 2 63 then return .whole (-significand)
    else return .real (-significand.toFloat)

/-- A number after its sign. -/
def unsigned (positive : Bool) : Reader Number := do
  match ← peek with
  | none => throw .unfinished
  | some '0' =>
    advance
    match ← peek with
    | some c => if c.isDigit then throw .malformed else numberRest positive 0
    | none => numberRest positive 0
  | some c =>
    if !c.isDigit then throw .malformed
    let (s, _) ← (fun cs => .ok (significandFrom 0 0 cs) : Reader _)
    match ← peek with
    | some c =>
      if c.isDigit then
        let dropped ← skipDigits
        afterWhole positive s dropped
      else numberRest positive s
    | none => numberRest positive s

/-! ### Values -/

/-- Reports a value of the wrong kind, or a fault in it if it has one near its beginning. -/
def mismatch : Reader α := do
  match ← peek with
  | none => throw .malformed
  | some c =>
    if c = 'n' then
      advance
      keyword ['u', 'l', 'l']
    else if c = 't' then
      advance
      keyword ['r', 'u', 'e']
    else if c = 'f' then
      advance
      keyword ['a', 'l', 's', 'e']
    else if c = '-' then
      advance
      let _ ← unsigned false
    else if c.isDigit then
      let _ ← unsigned true
    else if c = '"' then
      advance
      let _ ← stringBody true
    else if c ≠ '[' ∧ c ≠ '\x7b' then throw .malformed
    throw .mismatched

/-- The next character that is not a space; the text has to go on. -/
def valueStart : Reader Char := do
  match ← peekPart with
  | none => throw .unfinished
  | some c => return c

/-- A string. -/
def text : Reader String := do
  if (← valueStart) = '"' then
    advance
    stringBody true
  else mismatch

/-- A number. -/
def number : Reader Number := do
  let c ← valueStart
  if c = '-' then
    advance
    unsigned false
  else if c.isDigit then unsigned true
  else mismatch

/-- A whole number of 64 bits without a sign. -/
def natural : Reader Nat := do
  match ← number with
  | .whole (.ofNat n) => return n
  | _ => throw .mismatched

/-- A double. -/
def float : Reader Float := do return (← number).toFloat

/-- Nothing, written `null`; a buffered reading also takes an object without members for it. -/
def nothing (mode : Mode) : Reader Unit := do
  let c ← valueStart
  if c = 'n' then
    advance
    keyword ['u', 'l', 'l']
  else if c = '\x7b' ∧ mode ≠ .direct then
    advance
    if (← valueStart) = '\x7d' then advance else throw .mismatched
  else mismatch

/-- A value that may be `null`. -/
def optional (value : Reader α) : Reader (Option α) := do
  match ← peekPart with
  | some 'n' =>
    advance
    keyword ['u', 'l', 'l']
    return none
  | _ => return some (← value)

/-! ### Lists -/

/-- Whether a list goes on; `first` says that none of its elements has been read. -/
def hasElement (first : Bool) : Reader Bool := do
  match ← peekPart with
  | none => throw .unfinished
  | some c =>
    if c = ']' then return false
    else if first then return true
    else if c = ',' then
      advance
      match ← peekPart with
      | none => throw .unfinished
      | some d => if d = ']' then throw .malformed else return true
    else throw .malformed

/-- The end of a list. -/
def endList : Reader Unit := do
  match ← peekPart with
  | none => throw .unfinished
  | some c => if c = ']' then advance else throw .malformed

/-- The elements of a list behind those that were `read`. -/
def elements (element : Reader α) : (fuel : Nat) → (read : List α) → Reader (List α)
  | 0, _ => throw .unfinished
  | fuel + 1, read => do
    if ← hasElement read.isEmpty then elements element fuel ((← element) :: read)
    else return read.reverse

/-- A list. -/
def list (element : Reader α) : Reader (List α) := do
  if (← valueStart) = '[' then
    advance
    let xs ← fun cs => elements element (cs.length + 1) [] cs
    endList
    return xs
  else mismatch

/-! ### Values that are passed over -/

/-- The number of characters left, which bounds any loop over them. -/
def left : Reader Nat := fun cs => .ok (cs.length + 1, cs)

/-- Digits, of which there has to be one. -/
def someDigits : Reader Unit := do
  if (← skipDigits) = 0 then throw .malformed

/-- An exponent, if there is one: its letter, at most one sign, and digits. -/
def skipExponent : Reader Unit := do
  let letter ← peek
  if letter = some 'e' ∨ letter = some 'E' then
    advance
    let sign ← peek
    if sign = some '+' ∨ sign = some '-' then advance
    someDigits

/-- A number of any size after its sign. -/
def skipNumber : Reader Unit := do
  if (← peek) = some '0' then
    advance
    if (← peek).any Char.isDigit then throw .malformed
  else someDigits
  if (← peek) = some '.' then
    advance
    someDigits
  skipExponent

/-- The colon between the name and the value of a member. -/
def colon : Reader Unit := do
  match ← peekPart with
  | none => throw .unfinished
  | some c => if c = ':' then advance else throw .malformed

/-- Whether an object goes on; if so, the next character opens a name. -/
def hasMember (first : Bool) : Reader Bool := do
  match ← peekPart with
  | none => throw .unfinished
  | some c =>
    if c = '\x7d' then return false
    else if first then if c = '"' then return true else throw .malformed
    else if c = ',' then
      advance
      match ← peekPart with
      | none => throw .unfinished
      | some d => if d = '"' then return true else throw .malformed
    else throw .malformed

/-- The end of an object. -/
def endObject : Reader Unit := do
  match ← peekPart with
  | none => throw .unfinished
  | some c => if c = '\x7d' then advance else throw .malformed

/-- Whether a further level of nesting is allowed. -/
def enter (mode : Mode) : Reader Unit :=
  match mode with
  | .direct => return ()
  | .buffered depth => if depth ≤ 1 then throw .malformed else return ()

/-- Goes on while there are elements. -/
def skipElements (skip : Reader Unit) : (fuel : Nat) → (first : Bool) → Reader Unit
  | 0, _ => throw .unfinished
  | fuel + 1, first => do
    if ← hasElement first then
      skip
      skipElements skip fuel false

/-- Goes on while there are members. -/
def skipMembers (proper : Bool) (skip : Reader Unit) : (fuel : Nat) → (first : Bool) → Reader Unit
  | 0, _ => throw .unfinished
  | fuel + 1, first => do
    if ← hasMember first then
      advance
      let _ ← stringBody proper
      colon
      skip
      skipMembers proper skip fuel false

/-- Passes over a value that is nested less than `fuel` deep. -/
def skipWithin : (fuel : Nat) → Mode → Reader Unit
  | 0, _ => throw .unfinished
  | fuel + 1, mode => do
    let proper := decide (mode ≠ .direct)
    let c ← valueStart
    if c = 'n' then
      advance
      keyword ['u', 'l', 'l']
    else if c = 't' then
      advance
      keyword ['r', 'u', 'e']
    else if c = 'f' then
      advance
      keyword ['a', 'l', 's', 'e']
    else if c = '-' then
      advance
      if proper then
        let _ ← unsigned false
      else skipNumber
    else if c.isDigit then
      if proper then
        let _ ← unsigned true
      else skipNumber
    else if c = '"' then
      advance
      let _ ← stringBody proper
    else if c = '[' then
      enter mode
      advance
      skipElements (skipWithin fuel mode.inner) (← left) true
      endList
    else if c = '\x7b' then
      enter mode
      advance
      skipMembers proper (skipWithin fuel mode.inner) (← left) true
      endObject
    else throw .malformed

/-- Passes over a value. -/
def skip (mode : Mode) : Reader Unit := do skipWithin (← left) mode

/-! ### Choices and records -/

/-- One of the named values. -/
def named (names : List (String × α)) (name : String) : Reader α :=
  match names.lookup name with
  | some a => return a
  | none => throw .mismatched

/-- A named value: its name, or an object whose one member has that name and no value. -/
def choice (mode : Mode) (names : List (String × α)) : Reader α := do
  match ← peekPart with
  | none => throw .unfinished
  | some c =>
    if c = '"' then
      advance
      named names (← stringBody true)
    else if c = '\x7b' then
      advance
      if (← valueStart) ≠ '"' then throw .malformed
      let a ← named names (← text)
      colon
      nothing mode.inner
      match ← peekPart with
      | none => throw .unfinished
      | some d =>
        if d = '\x7d' then
          advance
          return a
        else throw .malformed
    else throw .malformed

end Reader

/-- A field of a record that is being read into `ρ`. -/
structure FieldReader (ρ : Type) where
  name : String
  /-- Whether the field has been read already. -/
  isGiven : ρ → Bool
  /-- Reads the value of the field. -/
  read : Mode → ρ → Reader ρ

namespace FieldReader

variable {α ρ : Type}

/-- The field that is kept in one optional component of `ρ`. -/
def of (name : String) (get : ρ → Option α) (set : ρ → α → ρ) (value : Mode → Reader α) :
    FieldReader ρ where
  name := name
  isGiven r := (get r).isSome
  read mode r := do return set r (← value mode)

end FieldReader

namespace Reader

variable {ρ : Type}

/-- The fields of a record that is written as a list, in their order.  The list may stop early if
`partly`. -/
def fieldsInOrder (mode : Mode) (partly : Bool) : List (FieldReader ρ) → (first : Bool) → ρ → Reader ρ
  | [], _, r => return r
  | field :: rest, first, r => do
    if ← hasElement first then fieldsInOrder mode partly rest false (← field.read mode r)
    else if partly then return r
    else throw .mismatched

/-- The members of an object, of which `fields` are wanted, each at most once. -/
def fieldsByName (mode : Mode) (fields : List (FieldReader ρ)) :
    (fuel : Nat) → (first : Bool) → ρ → Reader ρ
  | 0, _, _ => throw .unfinished
  | fuel + 1, first, r => do
    if ← hasMember first then
      advance
      let name ← stringBody true
      match fields.find? (·.name == name) with
      | none =>
        colon
        skip mode
        fieldsByName mode fields fuel false r
      | some field =>
        if field.isGiven r then throw .mismatched
        colon
        fieldsByName mode fields fuel false (← field.read mode r)
    else return r

/-- A record that is written as an object, whose opening brace comes next.  Fields may be missing if
`partly`; other members are passed over. -/
def members (mode : Mode) (partly : Bool) (fields : List (FieldReader ρ)) (none : ρ) : Reader ρ := do
  enter mode
  advance
  let r ← fieldsByName mode.inner fields (← left) true none
  if !partly && !(fields.all (·.isGiven r)) then throw .mismatched
  endObject
  return r

/-- A record that is written as an object. -/
def object (mode : Mode) (partly : Bool) (fields : List (FieldReader ρ)) (none : ρ) : Reader ρ := do
  if (← valueStart) = '\x7b' then members mode partly fields none else mismatch

/-- A record, written as a list of its fields or as an object. -/
def record (mode : Mode) (partly : Bool) (fields : List (FieldReader ρ)) (none : ρ) : Reader ρ := do
  let c ← valueStart
  if c = '[' then
    enter mode
    advance
    let r ← fieldsInOrder mode.inner partly fields true none
    endList
    return r
  else if c = '\x7b' then members mode partly fields none
  else mismatch

/-- Reads a whole text, which may have nothing but spaces after the value. -/
def ofText {α : Type} (reader : Reader α) (text : String) : Except Fault α :=
  match reader text.toList with
  | .error fault => .error fault
  | .ok (a, rest) => if (rest.dropWhile isSpace).isEmpty then .ok a else .error .malformed

end Reader

end Progeny.Json

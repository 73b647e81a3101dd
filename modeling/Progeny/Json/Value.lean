import Progeny.Decimal.Shortest

/-!
# JSON values and their text

A value is written over several lines: each element of a list and each member of an object stands
on a line of its own, two spaces further to the right than what encloses it.  Empty lists and
objects stay on one line.  A double that is infinite or not a number is written as `null`.
-/

namespace Progeny.Json

/-- A JSON value; whole numbers and doubles are told apart. -/
inductive Value where
  | null
  | whole (n : Nat)
  | real (x : Float)
  | text (s : String)
  | list (elements : List Value)
  | object (members : List (String × Value))

namespace Value

/-- An optional value, `null` if there is none. -/
def optional {α : Type} (encode : α → Value) : Option α → Value
  | some a => encode a
  | none => .null

/-- A list of encoded values. -/
def listOf {α : Type} (encode : α → Value) (xs : List α) : Value := .list (xs.map encode)

/-- The hexadecimal digit of a number below 16. -/
def hexDigit (n : Nat) : Char := Nat.digitChar (n % 16)

/-- A character inside a string. -/
def escaped (c : Char) : List Char :=
  if c = '"' then ['\\', '"']
  else if c = '\\' then ['\\', '\\']
  else if c = '\x08' then ['\\', 'b']
  else if c = '\x0c' then ['\\', 'f']
  else if c = '\n' then ['\\', 'n']
  else if c = '\r' then ['\\', 'r']
  else if c = '\t' then ['\\', 't']
  else if c.toNat < 0x20 then ['\\', 'u', '0', '0', hexDigit (c.toNat / 16), hexDigit c.toNat]
  else [c]

/-- A string in quotes. -/
def quoted (s : String) : String :=
  String.ofList ('"' :: s.toList.flatMap escaped ++ ['"'])

/-- A double. -/
def realText (x : Float) : String :=
  if x.isFinite then Decimal.Style.report.render x else "null"

/-- A line feed and the space before a line at a given depth. -/
def lineStart (depth : Nat) : String := String.ofList ('\n' :: List.replicate (2 * depth) ' ')

/-- Parts, each on a line of its own, between two brackets. -/
def enclosed (opening closing : String) (depth : Nat) (parts : List String) : String :=
  if parts.isEmpty then opening ++ closing
  else opening ++ lineStart (depth + 1) ++ ("," ++ lineStart (depth + 1)).intercalate parts ++
    lineStart depth ++ closing

mutual

/-- The text of a value at a given depth. -/
def renderAt (depth : Nat) : Value → String
  | .null => "null"
  | .whole n => n.repr
  | .real x => realText x
  | .text s => quoted s
  | .list elements => enclosed "[" "]" depth (renderElements (depth + 1) elements)
  | .object members => enclosed "\x7b" "\x7d" depth (renderMembers (depth + 1) members)

/-- The texts of the elements of a list. -/
def renderElements (depth : Nat) : List Value → List String
  | [] => []
  | value :: rest => renderAt depth value :: renderElements depth rest

/-- The texts of the members of an object. -/
def renderMembers (depth : Nat) : List (String × Value) → List String
  | [] => []
  | (name, value) :: rest =>
    (quoted name ++ ": " ++ renderAt depth value) :: renderMembers depth rest

end

/-- The text of a value. -/
def render (value : Value) : String := value.renderAt 0

end Value

end Progeny.Json

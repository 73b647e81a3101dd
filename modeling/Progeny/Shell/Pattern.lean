import Progeny.Text.Utf8

/-!
# Patterns

File names, the arms of selections and the ends of parameters are matched against patterns: a star
stands for any octets, a question mark for one, and brackets for one of a set.  Octets in quotes, and
octets behind a backslash, stand for themselves.
-/

namespace Progeny.Shell

open Text (Bytes bytesOf)

/-- An octet of a word, and whether it was quoted. -/
structure Octet where
  quoted : Bool
  value : UInt8
  deriving DecidableEq

/-- A member of a set. -/
inductive Member where
  | range (low high : UInt8)
  /-- All octets of a kind. -/
  | kind (holds : UInt8 → Bool)

/-- An item of a pattern. -/
inductive PatternItem where
  | exactly (b : UInt8)
  | one
  | any
  | oneOf (negated : Bool) (members : List Member)

namespace Pattern

/-- Whether an octet has a special meaning of its own here. -/
def isSpecial (o : Octet) (c : Char) : Bool := ! o.quoted && o.value.toNat == c.toNat

/-- The kinds of octets that have names. -/
def kinds : List (String × (UInt8 → Bool)) :=
  let char (b : UInt8) : Char := Char.ofNat b.toNat
  let isGraph (b : UInt8) : Bool := 33 ≤ b && b ≤ 126
  [("alnum", fun b => (char b).isAlphanum),
   ("alpha", fun b => (char b).isAlpha),
   ("blank", fun b => b == 32 || b == 9),
   ("cntrl", fun b => b < 32 || b == 127),
   ("digit", fun b => (char b).isDigit),
   ("graph", isGraph),
   ("lower", fun b => (char b).isLower),
   ("print", fun b => isGraph b || b == 32),
   ("punct", fun b => isGraph b && ! (char b).isAlphanum),
   ("space", fun b => b == 32 || (9 ≤ b && b ≤ 13)),
   ("upper", fun b => (char b).isUpper),
   ("xdigit", fun b => (char b).isDigit || (97 ≤ b && b ≤ 102) || (65 ≤ b && b ≤ 70))]

/-- A kind of octets by its name, behind a bracket, and what follows. -/
def kind? (octets : List Octet) : Option (Member × List Octet) :=
  let text := octets.map (·.value)
  (kinds.find? fun (name, _) => (bytesOf (":" ++ name ++ ":]")).isPrefixOf text).map
    fun (name, holds) => (.kind holds, octets.drop (name.length + 3))

/-- The members of a set, up to the bracket that closes it, and what follows. -/
def members : (fuel : Nat) → List Octet → Option (List Member × List Octet)
  | 0, _ => none
  | _, [] => none
  | fuel + 1, a :: rest =>
    let (member, left) : Member × List Octet :=
      match if isSpecial a '[' then kind? rest else none with
      | some found => found
      | none =>
        match rest with
        | dash :: b :: tail =>
          if isSpecial dash '-' && ! isSpecial b ']' then (.range a.value b.value, tail)
          else (.range a.value a.value, rest)
        | _ => (.range a.value a.value, rest)
    match left with
    | [] => none
    | close :: tail =>
      if isSpecial close ']' then some ([member], tail)
      else (members fuel left).map fun (found, left) => (member :: found, left)

/-- A set, behind its opening bracket. -/
def set? (octets : List Octet) : Option (PatternItem × List Octet) :=
  let negated := octets.head?.any (isSpecial · '!')
  (members octets.length (if negated then octets.drop 1 else octets)).map
    fun (found, left) => (.oneOf negated found, left)

/-- Octets behind backslashes count as quoted. -/
def unescape : List Octet → List Octet
  | [] => []
  | [o] => [o]
  | a :: b :: rest =>
    if isSpecial a '\\' then { b with quoted := true } :: unescape rest
    else a :: unescape (b :: rest)

/-- Reads a pattern, in at most `fuel` items. -/
def itemsFrom : (fuel : Nat) → List Octet → List PatternItem
  | 0, _ => []
  | _, [] => []
  | fuel + 1, o :: rest =>
    if isSpecial o '*' then .any :: itemsFrom fuel rest
    else if isSpecial o '?' then .one :: itemsFrom fuel rest
    else if isSpecial o '[' then
      match set? rest with
      | some (item, left) => item :: itemsFrom fuel left
      | none => .exactly o.value :: itemsFrom fuel rest
    else .exactly o.value :: itemsFrom fuel rest

/-- Reads a pattern. -/
def items (octets : List Octet) : List PatternItem := itemsFrom octets.length (unescape octets)

/-- The place of an octet in the order of ranges, in which the upper half comes first. -/
def rank (b : UInt8) : UInt8 := b ^^^ 0x80

/-- Whether an octet is a member. -/
def Member.has (b : UInt8) : Member → Bool
  | .range low high => b == low || rank low ≤ rank b && rank b ≤ rank high
  | .kind holds => holds b

/-- Whether one octet matches one item. -/
def matchesOne (item : PatternItem) (b : UInt8) : Bool :=
  match item with
  | .exactly c => b == c
  | .one | .any => true
  | .oneOf negated members => negated != members.any (Member.has b)

/-- What is left of some octets behind any number of them. -/
def tails : Bytes → List Bytes
  | [] => [[]]
  | b :: rest => (b :: rest) :: tails rest

/-- Whether octets match a pattern as a whole. -/
def accepts : List PatternItem → Bytes → Bool
  | [], bytes => bytes.isEmpty
  | .any :: [], _ => true
  | .any :: rest, bytes => (tails bytes).any (accepts rest)
  | _ :: _, [] => false
  | item :: rest, b :: bytes => matchesOne item b && accepts rest bytes

/-- Whether a word has to be matched against file names. -/
def isPattern (octets : List Octet) : Bool :=
  octets.any fun o => isSpecial o '*' || isSpecial o '?' || isSpecial o '['

/-- Octets without what a pattern matches at their end or their beginning, the most or the least that
it matches. -/
def cutOff (atEnd longest : Bool) (pattern : List PatternItem) (bytes : Bytes) : Bytes :=
  let counts := List.range (bytes.length + 1)
  let counts := if longest == atEnd then counts else counts.reverse
  let found := counts.find? fun n => accepts pattern (if atEnd then bytes.drop n else bytes.take n)
  match found with
  | some n => if atEnd then bytes.take n else bytes.drop n
  | none => bytes

end Pattern

end Progeny.Shell

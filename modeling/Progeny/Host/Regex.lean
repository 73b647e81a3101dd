import Progeny.Text.Utf8

/-!
# Regular expressions

The expressions that the searching tools know, in their basic and their extended form.  What they are
matched with are symbols: characters, or octets that are no part of a character.  An expression is
matched by listing all places that it can end at, in order of preference; the first of the longest
matches at the first possible place is the one that counts.
-/

namespace Progeny.Host

open Text (Bytes bytesOf)

/-- A symbol: the number of a character, or an octet behind all of those. -/
abbrev Symbol := Nat

namespace Symbol

/-- The number of octets that a character has which begins with an octet. -/
def lengthFrom (b : UInt8) : Nat :=
  if b < 0xc2 then 1 else if b < 0xe0 then 2 else if b < 0xf0 then 3 else if b < 0xf5 then 4 else 1

/-- The symbols of some octets. -/
def ofBytes (bytes : Bytes) : List Symbol := go bytes.length bytes
where
  go : Nat → Bytes → List Symbol
    | 0, _ => []
    | _, [] => []
    | fuel + 1, b :: rest =>
      if b < 128 then b.toNat :: go fuel rest
      else
        let n := lengthFrom b
        match (Text.Utf8.decode ((b :: rest).take n)).toList with
        | [c] =>
          if n = 1 || c = Text.Utf8.replacement && (b :: rest).take n ≠ bytesOf "\ufffd" then
            (0x110000 + b.toNat) :: go fuel rest
          else c.toNat :: go fuel ((b :: rest).drop n)
        | _ => (0x110000 + b.toNat) :: go fuel rest

/-- The octets of some symbols. -/
def toBytes (symbols : List Symbol) : Bytes := symbols.flatMap fun n =>
  if n < 128 then [n.toUInt8]
  else if n < 0x110000 then bytesOf (Char.ofNat n).toString
  else [(n - 0x110000).toUInt8]

/-- The symbols of octets each of which is taken for itself. -/
def plain (bytes : Bytes) : List Symbol := bytes.map UInt8.toNat

/-- A letter in the other case. -/
def otherCase (n : Symbol) : Symbol :=
  let isIn (low high : Nat) : Bool := low ≤ n && n ≤ high
  if isIn 65 90 || (isIn 0xc0 0xde && n ≠ 0xd7) || isIn 0x391 0x3a9 || isIn 0x410 0x42f then n + 32
  else if isIn 97 122 || (isIn 0xe0 0xfe && n ≠ 0xf7) || isIn 0x3b1 0x3c9 || isIn 0x430 0x44f then n - 32
  else n

/-- The ranges of a named class. -/
def classRanges? (name : String) : Option (List (Symbol × Symbol)) :=
  let upper := [(65, 90), (0xc0, 0xd6), (0xd8, 0xde), (0x391, 0x3a9), (0x400, 0x42f)]
  let lower := [(97, 122), (0xdf, 0xf6), (0xf8, 0xff), (0x3b1, 0x3c9), (0x430, 0x45f)]
  let digit := [(48, 57)]
  let letter := [(0xaa, 0xaa), (0xb5, 0xb5), (0xba, 0xba), (0x100, 0x2c1), (0x370, 0x373), (0x376, 0x37d),
    (0x386, 0x1fff), (0x2c00, 0x2dff), (0x3005, 0x3007), (0x3031, 0xd7ff), (0xf900, 0xfdff),
    (0x20000, 0x3ffff)]
  let punct := [(33, 47), (58, 64), (91, 96), (123, 126)]
  let space := [(9, 13), (32, 32)]
  let other := [(0xa1, 0xa9), (0xab, 0xac), (0xae, 0xb4), (0xb6, 0xb9), (0xbb, 0xbf), (0xd7, 0xd7),
    (0xf7, 0xf7), (0x2010, 0x2bff), (0x3001, 0x3004), (0x3008, 0x3030), (0x1f000, 0x1ffff)]
  let alpha := upper ++ lower ++ letter
  [("upper", upper), ("lower", lower), ("digit", digit), ("alpha", alpha), ("alnum", alpha ++ digit),
   ("space", space), ("blank", [(9, 9), (32, 32)]), ("xdigit", digit ++ [(65, 70), (97, 102)]),
   ("punct", punct ++ other), ("cntrl", [(0, 31), (127, 127)]), ("graph", alpha ++ digit ++ punct ++ other),
   ("print", (32, 32) :: alpha ++ digit ++ punct ++ other)].lookup name

/-- Whether a symbol is in some ranges. -/
def isIn (ranges : List (Symbol × Symbol)) (n : Symbol) : Bool :=
  ranges.any fun (low, high) => low ≤ n && n ≤ high

/-- The symbols that words are made of. -/
def wordRanges : List (Symbol × Symbol) := (95, 95) :: (classRanges? "alnum").getD []

/-- Whether words are made of a symbol. -/
def isWordPart (n : Symbol) : Bool := isIn wordRanges n

end Symbol

/-- A regular expression. -/
inductive Regex where
  | empty
  /-- One symbol inside or outside some ranges. -/
  | oneOf (negated : Bool) (ranges : List (Symbol × Symbol))
  | lineStart
  | lineEnd
  | textStart
  | textEnd
  /-- A place at which a word begins or does not, and ends or does not, as far as is asked for. -/
  | edge (begins ends : Option Bool)
  | seq (left right : Regex)
  | alt (left right : Regex)
  | star (body : Regex)
  /-- What is matched here can be referred to by a number. -/
  | group (number : Nat) (body : Regex)
  /-- What a group has matched before. -/
  | again (number : Nat)

namespace Regex

/-- One symbol. -/
def symbol (n : Symbol) : Regex := .oneOf false [(n, n)]

/-! ### Matching -/

/-- How an expression is matched. -/
structure Mode where
  anyCase : Bool := false
  /-- Lines begin and end at line feeds, too. -/
  lines : Bool := false
  /-- Of several matches at one place the preferred one counts, not the longest. -/
  first : Bool := false

/-- A place in a text that a match has come to. -/
structure Place where
  /-- The symbol before it. -/
  before : Option Symbol
  /-- The number of symbols that follow, and those. -/
  left : Nat
  rest : List Symbol
  /-- What the groups have matched, the latest first. -/
  groups : List (Nat × List Symbol)

/-- Whether a symbol is one of those that an expression of one symbol stands for. -/
def holds (mode : Mode) (negated : Bool) (ranges : List (Symbol × Symbol)) (n : Symbol) : Bool :=
  negated != (Symbol.isIn ranges n || (mode.anyCase && Symbol.isIn ranges (Symbol.otherCase n)))

/-- Whether two texts are the same up to the case of letters, if that does not matter. -/
def agrees (mode : Mode) (a b : List Symbol) : Bool :=
  a.length = b.length &&
    (a.zip b).all fun (m, n) => m = n || (mode.anyCase && Symbol.otherCase m = n)

/-- The first of several places that are the same. -/
def distinct (places : List Place) : List Place :=
  match places with
  | [] | [_] => places
  | _ => (places.foldl (fun (seen, found) place =>
      if seen.contains place.left then (seen, found) else (place.left :: seen, place :: found))
      (([] : List Nat), [])).2.reverse

/-- The places that any number of steps lead to, the farthest of which are preferred; `seen` are those
that were passed before. -/
def iterate (step : Place → List Place) : (fuel : Nat) → (seen : List Nat) → Place → List Place × List Nat
  | 0, seen, place => ([place], seen)
  | fuel + 1, seen, place =>
    let (found, seen) := (step place).foldl (fun (found, seen) next =>
      if next.left < place.left && ! seen.contains next.left then
        let (more, seen) := iterate step fuel (next.left :: seen) next
        (found ++ more, seen)
      else (found, seen)) (([] : List Place), seen)
    (found ++ [place], seen)

/-- The place behind a symbol. -/
def Place.behind (place : Place) (n : Symbol) (rest : List Symbol) : Place :=
  { place with before := some n, left := place.left - 1, rest := rest }

/-- The places that a row of symbols leads to, the farthest first. -/
def rowEnds (holds : Symbol → Bool) : (passed : List Place) → Place → List Symbol → List Place
  | passed, place, [] => place :: passed
  | passed, place, n :: rest =>
    if holds n then rowEnds holds (place :: passed) (place.behind n rest) rest else place :: passed

/-- The places that a match can end at. -/
def ends (mode : Mode) : Regex → Place → List Place
  | .empty, place => [place]
  | .oneOf negated ranges, place =>
    match place.rest with
    | n :: rest => if holds mode negated ranges n then [place.behind n rest] else []
    | [] => []
  | .lineStart, place =>
    if place.before.all fun n => mode.lines && n = 10 then [place] else []
  | .lineEnd, place =>
    if place.rest.head?.all fun n => mode.lines && n = 10 then [place] else []
  | .textStart, place => if place.before.isNone then [place] else []
  | .textEnd, place => if place.rest.isEmpty then [place] else []
  | .edge begins closes, place =>
    let before := place.before.any Symbol.isWordPart
    let behind := place.rest.head?.any Symbol.isWordPart
    let fits (wanted : Option Bool) (holds : Bool) : Bool := wanted.all (· = holds)
    if begins = some true && closes = some true then if before != behind then [place] else []
    else if begins = some false && closes = some false then if before == behind then [place] else []
    else if fits begins (! before && behind) && fits closes (before && ! behind) then [place] else []
  | .seq left right, place => distinct ((ends mode left place).flatMap (ends mode right))
  | .alt left right, place => distinct (ends mode left place ++ ends mode right place)
  | .star (.oneOf negated ranges), place => rowEnds (holds mode negated ranges) [] place place.rest
  | .star body, place => (iterate (ends mode body) (place.left + 1) [place.left] place).1
  | .group number body, place =>
    (ends mode body place).map fun next =>
      { next with groups := (number, place.rest.take (place.left - next.left)) :: next.groups }
  | .again number, place =>
    match place.groups.lookup number with
    | none => []
    | some text =>
      if agrees mode text (place.rest.take text.length) then
        [{ place with
          before := (text.getLast?).or place.before, left := place.left - text.length
          rest := place.rest.drop text.length }]
      else []

/-- The first of the farthest places. -/
def farthest? (places : List Place) : Option Place :=
  places.foldl (fun best place =>
    match best with
    | none => some place
    | some found => if place.left < found.left then some place else some found) none

/-- A match in a text. -/
structure Match where
  before : List Symbol
  text : List Symbol
  after : List Symbol
  groups : List (Nat × List Symbol)

/-- The best match at one place that `accepted` holds of; `passed` is the part of the text before the
place, read backwards. -/
def matchAt? (regex : Regex) (mode : Mode) (accepted : Match → Bool) (passed rest : List Symbol)
    (left : Nat) : Option Match :=
  let start : Place := ⟨passed.head?, left, rest, []⟩
  let toMatch (place : Place) : Match :=
    ⟨passed.reverse, rest.take (left - place.left), place.rest, place.groups⟩
  let places := (ends mode regex start).filter (accepted <| toMatch ·)
  (if mode.first then places.head? else farthest? places).map toMatch

/-- The first match from a place on that `accepted` holds of. -/
def findFrom? (regex : Regex) (mode : Mode) (accepted : Match → Bool) (passed rest : List Symbol) :
    Option Match :=
  go passed rest rest.length
where
  go (passed : List Symbol) : List Symbol → Nat → Option Match
    | [], left => matchAt? regex mode accepted passed [] left
    | n :: rest, left =>
      (matchAt? regex mode accepted passed (n :: rest) left).or (go (n :: passed) rest (left - 1))

/-- The first match in a text. -/
def find? (regex : Regex) (mode : Mode) (text : List Symbol) : Option Match :=
  regex.findFrom? mode (fun _ => true) [] text

/-! ### Reading -/

/-- How expressions are written. -/
structure Dialect where
  /-- Special characters have their meaning without a backslash. -/
  extended : Bool
  /-- A sign that repeats needs something to repeat, and a parenthesis its partner. -/
  strict : Bool

/-- Why a text is no expression. -/
inductive Fault where
  | unmatchedBracket
  | lonelyBracket
  | unmatchedOpening
  | unmatchedClosing
  | unmatchedBrace
  | badBounds
  | tooBig
  | trailingBackslash
  | badReference
  | badClass
  | bareClass
  | badRange
  | nothingRepeated

/-- The text of a fault. -/
def Fault.message : Fault → String
  | .unmatchedBracket => "Unmatched [, [^, [:, [., or [="
  | .lonelyBracket => "Invalid regular expression"
  | .unmatchedOpening => "Unmatched ( or \\("
  | .unmatchedClosing => "Unmatched ) or \\)"
  | .unmatchedBrace => "Unmatched \\\x7b"
  | .badBounds => "Invalid content of \\\x7b\\\x7d"
  | .tooBig => "Regular expression too big"
  | .trailingBackslash => "Trailing backslash"
  | .badReference => "Invalid back reference"
  | .badClass => "Invalid character class name"
  | .bareClass => "character class syntax is [[:space:]], not [:space:]"
  | .badRange => "Invalid range end"
  | .nothingRepeated => "Invalid preceding regular expression"

/-- The symbol of a character. -/
def code (c : Char) : Symbol := c.toNat

/-- A name between two signs inside a bracket, and what follows. -/
def named? (sign : Symbol) (rest : List Symbol) : Option (List Symbol × List Symbol) :=
  go [] rest
where
  go (found : List Symbol) : List Symbol → Option (List Symbol × List Symbol)
    | [] => none
    | a :: rest =>
      if a = sign && rest.head? = some (code ']') then some (found.reverse, rest.drop 1)
      else go (a :: found) rest

/-- One end of a range, which may be written as `[.x.]`, and what follows. -/
def rangeEnd? (rest : List Symbol) : Except Fault (Symbol × List Symbol) :=
  match rest with
  | [] => .error .unmatchedBracket
  | 91 :: 46 :: more =>
    match named? 46 more with
    | some ([n], left) => .ok (n, left)
    | _ => .error .unmatchedBracket
  | n :: more => .ok (n, more)

/-- The ranges of a set up to its closing bracket, which may come first, and what follows. -/
def ranges : (fuel : Nat) → (first : Bool) → List Symbol →
    Except Fault (List (Symbol × Symbol) × List Symbol)
  | 0, _, _ => .error .unmatchedBracket
  | _, _, [] => .error .unmatchedBracket
  | fuel + 1, first, n :: rest => do
    if n = 93 && ! first then return ([], rest)
    match n :: rest with
    | 91 :: 58 :: more =>
      match named? 58 more with
      | none => throw .unmatchedBracket
      | some (name, left) =>
        match Symbol.classRanges? (String.ofList (name.map Char.ofNat)) with
        | none => throw .badClass
        | some found =>
          let (others, left) ← ranges fuel false left
          return (found ++ others, left)
    | 91 :: 61 :: more =>
      match named? 61 more with
      | some ([n], left) =>
        let (others, left) ← ranges fuel false left
        return ((n, n) :: others, left)
      | _ => throw .unmatchedBracket
    | all =>
      let (low, left) ← rangeEnd? all
      match left with
      | 45 :: next :: more =>
        if next = 93 then
          let (others, left) ← ranges fuel false left
          return ((low, low) :: others, left)
        else
          let (high, left) ← rangeEnd? (next :: more)
          if high < low then throw .badRange
          let (others, left) ← ranges fuel false left
          return ((low, high) :: others, left)
      | _ =>
        let (others, left) ← ranges fuel false left
        return ((low, low) :: others, left)

/-- A set behind its opening bracket, and what follows. -/
def set (rest : List Symbol) : Except Fault (Regex × List Symbol) := do
  match rest with
  | [] => throw .lonelyBracket
  | 94 :: more =>
    let (found, left) ← ranges (more.length + 1) true more
    return (.oneOf true found, left)
  | 58 :: more =>
    let (found, left) ← ranges (rest.length + 1) true rest
    let inner := more.take (more.length - left.length - 1)
    if inner.getLast? = some 58 && inner.length > 1 then throw .bareClass
    return (.oneOf false found, left)
  | _ =>
    let (found, left) ← ranges (rest.length + 1) true rest
    return (.oneOf false found, left)

/-- Whether a symbol is a decimal digit. -/
def isDigit (n : Symbol) : Bool := 48 ≤ n && n ≤ 57

/-- The greatest number of repetitions that can be asked for. -/
def maxTimes : Nat := 32767

/-- How often something is repeated, behind the opening brace, and what follows; the fault is
`unmatchedBrace` if the text ends before that is said. -/
def bounds (extended : Bool) (rest : List Symbol) :
    Except Fault ((Nat × Option Nat) × List Symbol) := do
  let number (rest : List Symbol) : Option Nat × List Symbol :=
    let digits := rest.takeWhile isDigit
    (if digits.isEmpty then none else some (digits.foldl (fun n d => n * 10 + (d - 48)) 0),
      rest.drop digits.length)
  let closed (rest : List Symbol) : Except Fault (List Symbol) :=
    match extended, rest with
    | _, [] => .error .unmatchedBrace
    | true, 125 :: left => .ok left
    | false, 92 :: 125 :: left => .ok left
    | _, _ => .error .badBounds
  let (low, left) := number rest
  let (high, left) : Option Nat × List Symbol := match left with
    | 44 :: more => number more
    | _ => (low, left)
  let isOpen := (rest.drop ((rest.takeWhile isDigit).length)).head? = some 44
  if low.isNone && ! isOpen then
    if left.isEmpty then throw .unmatchedBrace else throw .badBounds
  let left ← closed left
  if high.any (· < low.getD 0) then throw .badBounds
  if (high.or low).any (· > maxTimes) then throw .tooBig
  return ((low.getD 0, high), left)

/-- An expression, repeated. -/
def repeated (regex : Regex) (least : Nat) (most : Option Nat) : Regex :=
  let rest := match most with
    | none => .star regex
    | some most => (List.range (most - least)).foldl (fun r _ => .alt (.seq regex r) .empty) .empty
  (List.range least).foldl (fun r _ => .seq regex r) rest

/-- The expression that a letter behind a backslash stands for. -/
def letterClass? (n : Symbol) : Option Regex :=
  let space := (Symbol.classRanges? "space").getD []
  [(code 'w', Regex.oneOf false Symbol.wordRanges), (code 'W', .oneOf true Symbol.wordRanges),
   (code 's', .oneOf false space), (code 'S', .oneOf true space), (code '<', .edge (some true) none),
   (code '>', .edge none (some true)), (code 'b', .edge (some true) (some true)),
   (code 'B', .edge (some false) (some false)), (code '\x60', .textStart), (code '\'', .textEnd)].lookup n

/-- What stands next in an expression. -/
inductive Sign where
  | opening
  | closing
  | bar
  /-- A sign that repeats what stands before it. -/
  | times (least : Nat) (most : Option Nat)
  | brace
  | other
  | finish
  deriving DecidableEq

/-- The sign that stands next, and what follows it. -/
def sign (extended : Bool) (rest : List Symbol) : Sign × List Symbol :=
  let special (n : Symbol) : Sign :=
    ([(code '(', .opening), (code ')', .closing), (code '|', .bar), (code '\x7b', .brace),
      (code '+', .times 1 none), (code '?', .times 0 (some 1))].lookup n).getD .other
  match rest with
  | [] => (.finish, [])
  | 42 :: more => (.times 0 none, more)
  | 92 :: n :: more => if extended then (.other, rest) else (special n, more)
  | n :: more => if extended then (special n, more) else (.other, rest)

/-- What is read: the rest, and the groups that were begun and that are complete. -/
structure Reading where
  rest : List Symbol
  begun : Nat := 0
  complete : List Nat := []
  /-- Signs that repeat nothing were passed over. -/
  idle : List String := []

/-- A reader of a part of an expression. -/
abbrev Read := StateT Reading (Except Fault)

/-- Goes on behind what was read. -/
def advance (rest : List Symbol) : Read Unit := modify fun r => { r with rest := rest }

variable (dialect : Dialect)

/-- Repeats an expression as often as the signs behind it say. -/
def postfixes : (fuel : Nat) → (starred : Bool) → Regex → Read Regex
  | 0, _, regex => return regex
  | fuel + 1, starred, regex => do
    let r ← get
    match sign dialect.extended r.rest with
    | (.times least most, rest) =>
      if starred && dialect.strict && ! dialect.extended && least = 0 && most.isNone then
        throw .nothingRepeated
      advance rest
      postfixes fuel true (if least = 0 && most.isNone then .star regex else repeated regex least most)
    | (.brace, rest) =>
      match bounds dialect.extended rest with
      | .ok ((least, most), rest) =>
        advance rest
        postfixes fuel true (repeated regex least most)
      | .error e =>
        match dialect.extended && ! dialect.strict, e with
        | true, .badBounds =>
          if (rest.takeWhile fun n => isDigit n || n = 44).isEmpty then return regex else throw e
        | true, .unmatchedBrace => return regex
        | _, _ => throw e
    | _ => return regex

/-- One symbol or sign; `fresh` says that an expression begins here, and `inner` reads one in
parentheses. -/
def atom (fresh : Bool) (inner : Read Regex) : Read Regex := do
  let r ← get
  match r.rest with
  | [] => return .empty
  | 92 :: [] => throw .trailingBackslash
  | 92 :: n :: rest =>
    if ! dialect.extended && n = code '(' then
      advance rest
      inner
    else
      advance rest
      if isDigit n && n ≠ 48 then
        let number := n - 48
        if ! r.complete.contains number then throw .badReference
        return .again number
      else return (letterClass? n).getD (symbol n)
  | n :: rest =>
    advance rest
    let next := (sign dialect.extended rest).1
    if n = code '[' then
      let (found, rest) ← (set rest : Except Fault (Regex × List Symbol))
      advance rest
      return found
    else if n = code '.' then return .oneOf true [(0x110000, 0x1100ff)]
    else if n = code '^' && (fresh || dialect.extended) then return .lineStart
    else if n = code '$' && (dialect.extended || next = .finish || next = .closing || next = .bar) then
      return .lineEnd
    else if dialect.extended && n = code '(' then inner
    else return symbol n

/-- The parts of an alternative; `depth` is the number of groups around. -/
def branch (inner : Read Regex) (depth : Nat) : (fuel : Nat) → (fresh : Bool) → Regex → Read Regex
  | 0, _, regex => return regex
  | fuel + 1, fresh, regex => do
    let r ← get
    match sign dialect.extended r.rest with
    | (.finish, _) => return regex
    | (.bar, _) => return regex
    | (.closing, rest) =>
      if depth > 0 then return regex
      else if dialect.extended && ! dialect.strict then
        advance rest
        branch inner depth fuel false (.seq regex (← postfixes dialect fuel false (symbol (code ')'))))
      else throw .unmatchedClosing
    | (.times least most, rest) =>
      if fresh then
        if dialect.extended then
          if dialect.strict then throw .nothingRepeated
          else
            let text := if least = 1 then "+" else if most.isSome then "?" else "*"
            modify fun r => { r with rest := rest, idle := r.idle ++ [text] }
            branch inner depth fuel true regex
        else
          let literal := r.rest.getD (r.rest.length - rest.length - 1) 42
          advance rest
          branch inner depth fuel false (.seq regex (← postfixes dialect fuel false (symbol literal)))
      else
        advance rest
        branch inner depth fuel false regex
    | (.brace, rest) =>
      if dialect.strict then throw .nothingRepeated
      else
        match bounds dialect.extended rest with
        | .ok (_, left) =>
          if dialect.extended then
            modify fun r => { r with rest := left, idle := r.idle ++ ["\x7b...\x7d"] }
            branch inner depth fuel true regex
          else
            advance rest
            branch inner depth fuel false (.seq regex (symbol (code '\x7b')))
        | .error _ =>
          advance rest
          branch inner depth fuel false (.seq regex (symbol (code '\x7b')))
    | _ =>
      let starts := fresh && (r.rest.head? = some (code '^'))
      let found ← atom dialect fresh inner
      if starts then branch inner depth fuel true (.seq regex found)
      else branch inner depth fuel false (.seq regex (← postfixes dialect fuel false found))

/-- Alternatives up to the end of their group. -/
def alternatives : (fuel depth : Nat) → Read Regex
  | 0, _ => return .empty
  | fuel + 1, depth => do
    let inner : Read Regex := do
      let number := (← get).begun + 1
      modify fun r => { r with begun := number }
      let found ← alternatives fuel (depth + 1)
      match sign dialect.extended (← get).rest with
      | (.closing, rest) =>
        modify fun r => { r with rest := rest, complete := number :: r.complete }
        return .group number found
      | _ => throw .unmatchedOpening
    let first ← branch dialect inner depth ((← get).rest.length + 2) true .empty
    match sign dialect.extended (← get).rest with
    | (.bar, rest) =>
      advance rest
      return .alt first (← alternatives fuel depth)
    | _ => return first

/-- An expression that was read: what it is, how many groups it has, and which signs in it repeat
nothing. -/
structure Written where
  regex : Regex
  groups : Nat
  idle : List String

/-- Reads an expression. -/
def read (dialect : Dialect) (text : List Symbol) : Except Fault Written := do
  let (regex, r) ← (alternatives dialect (text.length + 2) 0).run { rest := text }
  return ⟨regex, r.begun, r.idle⟩

/-- The expression that matches the given symbols. -/
def literal (text : List Symbol) : Regex := text.foldr (fun n r => .seq (symbol n) r) .empty

end Regex

example : ((Regex.read ⟨false, false⟩ (Symbol.ofBytes (bytesOf "\\(a*\\)b\\1"))).toOption.bind fun r =>
    (r.regex.find? {} (Symbol.ofBytes (bytesOf "xaabaaa"))).map fun found => Symbol.toBytes found.text) =
      some (bytesOf "aabaa") := by decide +kernel

end Progeny.Host

import Progeny.Host.Numeral
import Progeny.Host.Options
import Progeny.Sequence.Total

/-!
# Sorting

Lines are compared by keys, which are parts of them, and by the whole line in the end.
-/

namespace Progeny.Host.Sorting

open Text (Bytes bytesOf)

/-- Whether an octet is a blank between fields. -/
def isBlank (b : UInt8) : Bool := b == 32 || b == 9 || b == 10

/-- An octet in upper case. -/
def raised (b : UInt8) : UInt8 := if 97 ≤ b && b ≤ 122 then b - 32 else b

/-- Compares octets. -/
def order : Bytes → Bytes → Ordering
  | [], [] => .eq
  | [], _ :: _ => .lt
  | _ :: _, [] => .gt
  | a :: as, b :: bs => if a = b then order as bs else compare a b

/-! ### Ways to compare -/

/-- A number as it is compared: its sign and its digits before and behind the point. -/
structure Number where
  negative : Bool
  whole : Nat
  fraction : Bytes

/-- The number at the beginning of a text, and what follows. -/
def number (text : Bytes) : Number × Bytes :=
  let text := text.dropWhile isBlank
  let (negative, digits) := match text with
    | 45 :: rest => (true, rest)
    | _ => (false, text)
  let whole := digits.takeWhile isDigit
  let rest := digits.drop whole.length
  let fraction := match rest with
    | 46 :: more => more.takeWhile isDigit
    | _ => []
  let rest := match rest with
    | 46 :: more => more.drop fraction.length
    | _ => rest
  (⟨negative, decimal whole, (fraction.reverse.dropWhile (· == 48)).reverse⟩, rest)

/-- Whether a number is zero. -/
def Number.isZero (n : Number) : Bool := n.whole = 0 && n.fraction.isEmpty

/-- Compares numbers. -/
def Number.order (a b : Number) : Ordering :=
  let size := (compare a.whole b.whole).then (Sorting.order a.fraction b.fraction)
  let below (n : Number) : Bool := n.negative && ! n.isZero
  match below a, below b with
  | true, false => .lt
  | false, true => .gt
  | true, true => size.swap
  | false, false => size

/-- Compares numbers with letters behind them that stand for powers. -/
def orderScaled (a b : Bytes) : Ordering :=
  let (m, restA) := number a
  let (n, restB) := number b
  let power (rest : Bytes) (n : Number) : Nat :=
    if n.isZero then 0
    else match rest with
      | b :: _ => ((bytesOf "KMGTPEZYRQ").idxOf? (if b = 107 then 75 else b)).elim 0 (· + 1)
      | [] => 0
  let below (n : Number) : Bool := n.negative && ! n.isZero
  if below m != below n then (if below m then .lt else .gt)
  else
    let powers := compare (power restA m) (power restB n)
    (if below m then powers.swap else powers).then (m.order n)

/-- The number of the month that a text begins with; zero if there is none. -/
def month (text : Bytes) : Nat :=
  let name := Text.Utf8.decode (((text.dropWhile isBlank).take 3).map raised)
  (["JAN", "FEB", "MAR", "APR", "MAY", "JUN", "JUL", "AUG", "SEP", "OCT", "NOV", "DEC"].idxOf? name).elim 0 (· + 1)

/-- Compares numbers that may have exponents; texts that are none come first. -/
def orderFloating (a b : Bytes) : Ordering :=
  let read (text : Bytes) : Option Float :=
    (Numeral.float? ((text.dropWhile isBlank).map fun c => Char.ofNat c.toNat)).map (·.1)
  match read a, read b with
  | none, none => .eq
  | none, some _ => .lt
  | some _, none => .gt
  | some x, some y =>
    if x.isNaN && y.isNaN then .eq
    else if x.isNaN then .lt
    else if y.isNaN then .gt
    else if x < y then .lt else if y < x then .gt else .eq

/-- The place of a character among those of versions; the end comes behind a tilde and before all others. -/
def versionPlace (text : Bytes) : Int :=
  match text with
  | [] => -1
  | b :: _ =>
    if isDigit b then 0
    else if (65 ≤ b && b ≤ 90) || (97 ≤ b && b ≤ 122) then b.toNat
    else if b = 126 then -2
    else b.toNat + 256

/-- Compares versions part by part: what are no digits, and then a number. -/
def orderParts : (fuel : Nat) → Bytes → Bytes → Ordering
  | 0, _, _ => .eq
  | _, [], [] => .eq
  | fuel + 1, a, b =>
    let isWord (text : Bytes) : Bool := text.head?.any (! isDigit ·)
    if isWord a || isWord b then
      let order := compare (versionPlace a) (versionPlace b)
      if order ≠ .eq then order else orderParts fuel (a.drop 1) (b.drop 1)
    else
      let digitsA := a.takeWhile isDigit
      let digitsB := b.takeWhile isDigit
      let order := compare (decimal digitsA) (decimal digitsB)
      if order ≠ .eq then order
      else if digitsA.isEmpty && digitsB.isEmpty then compare (versionPlace a) (versionPlace b)
      else orderParts fuel (a.drop digitsA.length) (b.drop digitsB.length)

/-- A version without the endings of file names behind it. -/
def withoutEndings (text : Bytes) : Bytes :=
  let isLetter (b : UInt8) : Bool := (65 ≤ b && b ≤ 90) || (97 ≤ b && b ≤ 122) || b == 126
  let pieces := splitBytes (· == 46) text
  let isEnding (piece : Bytes) : Bool := match piece with
    | b :: rest => isLetter b && rest.all fun c => isLetter c || isDigit c
    | [] => false
  let kept := (pieces.drop 1).reverse.dropWhile isEnding
  [46].intercalate (pieces.take 1 ++ kept.reverse)

/-- Compares versions. -/
def orderVersions (a b : Bytes) : Ordering :=
  let parts (a b : Bytes) : Ordering := orderParts (a.length + b.length + 2) a b
  (parts (withoutEndings a) (withoutEndings b)).then (parts a b)

/-! ### Keys -/

/-- A key: where it begins and ends, and the letters that say how it is compared. -/
structure Key where
  firstField : Nat := 0
  firstOctet : Nat := 0
  /-- The number of fields and octets up to its end; `none` if that is the end of the line. -/
  last : Option (Nat × Nat) := none
  letters : List Char := []
  skipsAtStart : Bool := false
  skipsAtEnd : Bool := false

/-- What follows a number of fields. -/
def behindFields (tab : Option UInt8) : Nat → Bytes → Bytes
  | 0, text => text
  | n + 1, text =>
    match tab with
    | some t => behindFields tab n ((text.dropWhile (· != t)).drop 1)
    | none => behindFields tab n ((text.dropWhile isBlank).dropWhile (! isBlank ·))

/-- The number of octets up to the end of a number of fields. -/
def endOfFields (tab : Option UInt8) (text : Bytes) (n : Nat) : Nat :=
  match tab with
  | none => text.length - (behindFields none n text).length
  | some t =>
    let pieces := (splitBytes (· == t) text).take n
    (Sequence.total (·.length) pieces + (pieces.length - 1))

/-- The part of a line that is a key. -/
def Key.part (key : Key) (tab : Option UInt8) (text : Bytes) : Bytes :=
  let from' := behindFields tab key.firstField text
  let from' := if key.skipsAtStart then from'.dropWhile isBlank else from'
  let start := min text.length (text.length - from'.length + key.firstOctet)
  let finish := match key.last with
    | none => text.length
    | some (fields, 0) => endOfFields tab text fields
    | some (fields, octets) =>
      let rest := behindFields tab (fields - 1) text
      let rest := if key.skipsAtEnd then rest.dropWhile isBlank else rest
      min text.length (text.length - rest.length + octets)
  (text.take finish).drop start

/-- Compares the keys of two lines. -/
def Key.order (key : Key) (a b : Bytes) : Ordering :=
  let has (c : Char) : Bool := key.letters.contains c
  let found :=
    if has 'n' then (number a).1.order (number b).1
    else if has 'g' then orderFloating a b
    else if has 'h' then orderScaled a b
    else if has 'M' then compare (month a) (month b)
    else if has 'V' then orderVersions a b
    else
      let kept (b : UInt8) : Bool :=
        if has 'd' then isBlank b || isDigit b || (65 ≤ b && b ≤ 90) || (97 ≤ b && b ≤ 122)
        else if has 'i' then 32 ≤ b && b ≤ 126
        else true
      let prepared (text : Bytes) : Bytes :=
        let text := text.filter kept
        if has 'f' then text.map raised else text
      Sorting.order (prepared a) (prepared b)
  if has 'r' then found.swap else found

/-- How lines are sorted. -/
structure Settings where
  keys : List Key
  tab : Option UInt8
  reverse : Bool
  stable : Bool
  unique : Bool

/-- A line and its keys. -/
abbrev Keyed := Bytes × List Bytes

/-- A line with its keys. -/
def Settings.keyed (s : Settings) (text : Bytes) : Keyed := (text, s.keys.map fun key => key.part s.tab text)

/-- Compares lines by their keys. -/
def Settings.orderKeys (s : Settings) (a b : Keyed) : Ordering :=
  if s.keys.isEmpty then
    let found := order a.1 b.1
    if s.reverse then found.swap else found
  else (s.keys.zip (a.2.zip b.2)).foldl (fun found (key, x, y) => found.then (key.order x y)) .eq

/-- Compares lines. -/
def Settings.order (s : Settings) (a b : Keyed) : Ordering :=
  let found := s.orderKeys a b
  if found ≠ .eq || s.keys.isEmpty || s.stable || s.unique then found
  else
    let whole := Sorting.order a.1 b.1
    if s.reverse then whole.swap else whole

/-! ### Reading of arguments -/

/-- The letters that say how keys are compared. -/
def keyLetters : List Char := "bdfgiMhnRrV".toList

/-- A number in a key, and what follows. -/
def keyNumber (what : String) (cs : List Char) : Except String (Nat × List Char) :=
  let (n, rest) := Numeral.digits 10 cs
  if rest.length = cs.length then
    .error ("invalid number " ++ what ++ ": invalid count at start of " ++ quoted (String.ofList cs))
  else .ok (n, rest)

/-- Reads a key as in `2,3.1n`. -/
def key? (text : String) : Except String Key := do
  let bad (why : String) : String := why ++ ": invalid field specification " ++ quoted text
  let octets (what : String) (cs : List Char) : Except String (Option Nat × List Char) :=
    match cs with
    | '.' :: rest => (keyNumber what rest).map fun (n, left) => (some n, left)
    | _ => .ok (none, cs)
  let (field, rest) ← keyNumber "at field start" text.toList
  if field = 0 then throw (bad "field number is zero")
  let (octet, rest) ← octets "after '.'" rest
  if octet = some 0 then throw (bad "character offset is zero")
  let first := rest.takeWhile keyLetters.contains
  let rest := rest.drop first.length
  let start : Key := {
    firstField := field - 1, firstOctet := octet.getD 1 - 1, skipsAtStart := first.contains 'b' }
  match rest with
  | [] => return { start with letters := first.filter (· ≠ 'b') }
  | ',' :: rest =>
    let (field, rest) ← keyNumber "after ','" rest
    if field = 0 then throw (bad "field number is zero")
    let (octet, rest) ← octets "after '.'" rest
    let second := rest.takeWhile keyLetters.contains
    if rest.length ≠ second.length then throw (bad "stray character in field spec")
    return { start with
      last := some (field, octet.getD 0), letters := (first ++ second).filter (· ≠ 'b')
      skipsAtEnd := second.contains 'b' }
  | _ => throw (bad "stray character in field spec")

/-- The letters of ways to compare that exclude each other, if there are such among some. -/
def clash? (letters : List Char) : Option String :=
  let ways := ['g', 'h', 'M', 'n'].filter letters.contains
  let others := if letters.any ['d', 'i', 'R', 'V'].contains then 1 else 0
  if ways.length + others > 1 then
    some (String.ofList ("dghiMnRV".toList.filter letters.contains))
  else none

/-- The letters of options that say how lines are compared. -/
def orderingOptions (request : Request) : List Char := keyLetters.filter request.asks

/-- The settings that are asked for. -/
def settings (request : Request) : Except String Settings := do
  let tab ← match request.value? 't' with
    | none => pure none
    | some "\\0" => pure (some 0)
    | some text => match bytesOf text with
      | [] => throw "empty tab"
      | [b] => pure (some b)
      | _ => throw ("multi-character tab " ++ quoted text)
  let given := orderingOptions request
  let common := given.filter (· ≠ 'b')
  let keys ← (request.values 'k').mapM key?
  let keys := keys.map fun key =>
    if key.letters.isEmpty && ! key.skipsAtStart && ! key.skipsAtEnd then
      { key with letters := common, skipsAtStart := given.contains 'b', skipsAtEnd := given.contains 'b' }
    else key
  let keys := if keys.isEmpty && given.any (· ≠ 'r') then
      [{ letters := common, skipsAtStart := given.contains 'b', skipsAtEnd := given.contains 'b' }]
    else keys
  match keys.findSome? fun key => clash? key.letters with
  | some letters => throw ("options '-" ++ letters ++ "' are incompatible")
  | none =>
    return ⟨keys, tab, given.contains 'r', request.asks 's', request.asks 'u'⟩

/-- Lines without those that have the same keys as the one before. -/
def withoutRepeats (s : Settings) (xs : List Keyed) : List Keyed :=
  (xs.splitBy fun a b => s.orderKeys a b == .eq).filterMap List.head?

/-- Merges lists, each of which is sorted. -/
def mergeAll (s : Settings) : (fuel : Nat) → List (List Keyed) → List Keyed
  | 0, _ => []
  | fuel + 1, lists =>
    let heads := lists.filter (! ·.isEmpty)
    let least := heads.foldl (fun (best : Option (Nat × Keyed) × Nat) xs =>
      match xs.head?, best.1 with
      | some x, some (i, y) => (if s.order x y == .lt then some (best.2, x) else some (i, y), best.2 + 1)
      | some x, none => (some (best.2, x), best.2 + 1)
      | none, _ => (best.1, best.2 + 1)) (none, 0)
    match least.1 with
    | none => []
    | some (i, x) => x :: mergeAll s fuel (heads.mapIdx fun j xs => if j = i then xs.drop 1 else xs)

/-- The first line that is out of order, and its number. -/
def disorder? (s : Settings) : (row : Nat) → List Keyed → Option (Nat × Bytes)
  | row, a :: b :: rest =>
    let found := s.order a b
    if found == .gt || (s.unique && found == .eq) then some (row + 1, b.1) else disorder? s (row + 1) (b :: rest)
  | _, _ => none

/-- The options of the tool. -/
def table : OptionTable :=
  .of "bcCdfghiMk:mno:rRsS:t:T:uVz" [("ignore-leading-blanks", 'b'), ("check", 'c'), ("dictionary-order", 'd'),
    ("ignore-case", 'f'), ("general-numeric-sort", 'g'), ("human-numeric-sort", 'h'),
    ("ignore-nonprinting", 'i'), ("month-sort", 'M'), ("key", 'k'), ("merge", 'm'), ("numeric-sort", 'n'),
    ("output", 'o'), ("reverse", 'r'), ("random-sort", 'R'), ("stable", 's'), ("buffer-size", 'S'),
    ("field-separator", 't'), ("temporary-directory", 'T'), ("unique", 'u'), ("version-sort", 'V'),
    ("zero-terminated", 'z')]

/-- Sorts lines. -/
def sort : Tool := fun call => call.withOptions table 2 fun request =>
  match settings request with
  | .error e => call.failing 2 e
  | .ok s =>
    call.reading request.operands fun found =>
      match found.findSome? fun (name, content) => match content with
        | .error .isDirectory => some ("read failed: " ++ shownName name ++ ": Is a directory")
        | .error .badDescriptor => some ("stat failed: " ++ name ++ ": Bad file descriptor")
        | .error e => some ("cannot read: " ++ shownName name ++ ": " ++ e.message)
        | .ok _ => none with
      | some e => call.failing 2 e
      | none =>
        let cut : UInt8 := if request.asks 'z' then 0 else lineFeed
        let linesIn (bytes : Bytes) : List Bytes :=
          let pieces := splitBytes (· == cut) bytes
          if pieces.getLast? = some [] then pieces.dropLast else pieces
        let contents := found.map fun (name, content) => match content with
          | .ok bytes => (name, (linesIn bytes).map s.keyed)
          | .error _ => (name, [])
        if request.asks 'c' || request.asks 'C' then
          match contents.findSome? fun (name, xs) => (disorder? s 1 xs).map (name, ·) with
          | none => call.idle
          | some (name, row, text) =>
            if request.asks 'C' then { call.idle with status := 1 }
            else call.failing 1 (name ++ ":" ++ row.repr ++ ": disorder: " ++ Text.Utf8.decode text)
        else
          let all := contents.flatMap (·.2)
          let sorted := if request.asks 'm' then mergeAll s (all.length + 1) (contents.map (·.2))
            else all.mergeSort fun a b => s.order a b != .gt
          let sorted := if s.unique then withoutRepeats s sorted else sorted
          let output := sorted.flatMap fun (text, _) => text ++ [cut]
          match request.value? 'o' with
          | none => call.printing output
          | some name =>
            match call.files.write call.directory name (0o666 - (0o666 &&& call.umask)) output with
            | .ok files => { call.idle with files := files }
            | .error e => call.failing 2 ("open failed: " ++ name ++ ": " ++ e.message)

end Progeny.Host.Sorting

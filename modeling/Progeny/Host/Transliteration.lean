import Progeny.Host.Options

/-!
# Transliteration

The tool that replaces octets by others, deletes them, or leaves one of several equal ones.
-/

namespace Progeny.Host.Transliteration

open Text (Bytes bytesOf)

/-- A part of a set. -/
inductive Part where
  | octet (b : UInt8)
  | range (low high : UInt8)
  | named (name : String)
  /-- An octet so often as is said, or as often as there is room for it. -/
  | times (b : UInt8) (count : Option Nat)

/-- The octets that letters behind a backslash stand for. -/
def escapes : List (UInt8 × UInt8) :=
  [(92, 92), (97, 7), (98, 8), (102, 12), (110, 10), (114, 13), (116, 9), (118, 11)]

/-- The octets of a set, and whether a backslash stood before each. -/
def plain : (fuel : Nat) → Bytes → List (UInt8 × Bool)
  | 0, _ => []
  | _, [] => []
  | _, [92] => [(92, true)]
  | fuel + 1, 92 :: b :: rest =>
    let isOctal (c : UInt8) : Bool := 48 ≤ c && c ≤ 55
    if isOctal b then
      let three := ((b :: rest).take 3).takeWhile isOctal
      let value (digits : Bytes) : Nat := digits.foldl (fun n d => n * 8 + (d.toNat - 48)) 0
      let digits := if value three > 255 then three.take 2 else three
      ((value digits).toUInt8, true) :: plain fuel ((b :: rest).drop digits.length)
    else ((escapes.lookup b).getD b, true) :: plain fuel rest
  | fuel + 1, b :: rest => (b, false) :: plain fuel rest

/-- What stands between two marks such as `:` and `:]`. -/
def between? (mark : UInt8) (octets : List (UInt8 × Bool)) : Option (Bytes × List (UInt8 × Bool)) :=
  go [] octets
where
  go (found : Bytes) : List (UInt8 × Bool) → Option (Bytes × List (UInt8 × Bool))
    | [] => none
    | (b, _) :: rest =>
      if b = mark && rest.head? = some (93, false) then some (found.reverse, rest.drop 1)
      else go (b :: found) rest

/-- The number of a repetition, which is octal if it begins with a zero. -/
def countOf? (digits : Bytes) : Option (Option Nat) :=
  if digits.isEmpty then some none
  else if ! digits.all isDigit then none
  else
    let base := if digits.head? = some 48 then 8 else 10
    let n := digits.foldl (fun n d => n * base + (d.toNat - 48)) 0
    some (if n = 0 then none else some n)

/-- The names of classes. -/
def classNames : List String :=
  ["alnum", "alpha", "blank", "cntrl", "digit", "graph", "lower", "print", "punct", "space", "upper", "xdigit"]

/-- An octet as a range shows it. -/
def shown (b : UInt8) : String :=
  if 32 ≤ b && b ≤ 126 then (Char.ofNat b.toNat).toString
  else "\\" ++ String.ofList ((Nat.toDigits 8 (512 + b.toNat)).drop 1)

/-- The parts of a set. -/
def parts : (fuel : Nat) → List (UInt8 × Bool) → Except String (List Part)
  | 0, _ => .ok []
  | _, [] => .ok []
  | fuel + 1, (91, false) :: (58, false) :: rest =>
    match between? 58 rest with
    | some (name, left) =>
      let text := Text.Utf8.decode name
      if classNames.contains text then (parts fuel left).map (.named text :: ·)
      else .error ("invalid character class " ++ quoted text)
    | none => (parts fuel ((58, false) :: rest)).map (.octet 91 :: ·)
  | fuel + 1, (91, false) :: (61, false) :: rest =>
    match between? 61 rest with
    | some ([b], left) => (parts fuel left).map (.octet b :: ·)
    | some (text, _) =>
      .error (Text.Utf8.decode text ++ ": equivalence class operand must be a single character")
    | none => (parts fuel ((61, false) :: rest)).map (.octet 91 :: ·)
  | fuel + 1, (91, false) :: (b, e) :: (42, false) :: rest =>
    let digits := (rest.takeWhile fun (c, escaped) => escaped || c != 93).map (·.1)
    match rest.drop digits.length, countOf? digits with
    | _ :: left, some count => (parts fuel left).map (.times b count :: ·)
    | _, _ => (parts fuel ((b, e) :: (42, false) :: rest)).map (.octet 91 :: ·)
  | fuel + 1, (low, _) :: (45, false) :: (high, _) :: rest =>
    if high < low then
      .error ("range-endpoints of '" ++ shown low ++ "-" ++ shown high ++ "' are in reverse collating sequence order")
    else (parts fuel rest).map (.range low high :: ·)
  | fuel + 1, (b, _) :: rest => (parts fuel rest).map (.octet b :: ·)

/-- Whether an octet is in a class. -/
def inClass (name : String) (b : UInt8) : Bool :=
  let upper := 65 ≤ b && b ≤ 90
  let lower := 97 ≤ b && b ≤ 122
  let digit := isDigit b
  let graph := 33 ≤ b && b ≤ 126
  match name with
  | "upper" => upper
  | "lower" => lower
  | "alpha" => upper || lower
  | "digit" => digit
  | "alnum" => upper || lower || digit
  | "xdigit" => digit || (65 ≤ b && b ≤ 70) || (97 ≤ b && b ≤ 102)
  | "space" => b == 32 || (9 ≤ b && b ≤ 13)
  | "blank" => b == 32 || b == 9
  | "cntrl" => b < 32 || b == 127
  | "graph" => graph
  | "print" => graph || b == 32
  | _ => graph && ! (upper || lower || digit)

/-- All octets. -/
def all : Bytes := (List.range 256).map Nat.toUInt8

/-- The octets of a part; one that fills up takes as much room as is given. -/
def Part.octets (room : Nat) : Part → Bytes
  | .octet b => [b]
  | .range low high => all.filter fun b => low ≤ b && b ≤ high
  | .named name => all.filter (inClass name)
  | .times b count => List.replicate (count.getD room) b

/-- The octets of a set. -/
def octetsOf (ps : List Part) : Bytes := ps.flatMap (Part.octets 0)

/-- The octets of a second set, a repetition without a count filling it up to a length. -/
def filled (ps : List Part) (length : Nat) : Bytes := ps.flatMap (Part.octets (length - (octetsOf ps).length))

/-- Leaves one of several equal octets in a row that are in a set. -/
def squeezed (isIn : UInt8 → Bool) (bytes : Bytes) : Bytes :=
  (bytes.foldl (fun found b => if found.head? = some b && isIn b then found else b :: found) ([] : Bytes)).reverse

/-- Replaces, deletes or squeezes octets. -/
def tr : Tool := fun call =>
  let table := { OptionTable.of "cCdst" [("complement", 'c'), ("delete", 'd'), ("squeeze-repeats", 's'),
    ("truncate-set1", 't')] with first := true }
  call.withOptions table 1 fun request =>
  let deletes := request.asks 'd'
  let squeezes := request.asks 's'
  let least := if deletes == squeezes then 2 else 1
  let most := if deletes && ! squeezes then 1 else 2
  let names := request.operands
  let misused (text more : String) : Reply :=
    call.telling (call.complaint text ++ (if more.isEmpty then [] else line more) ++ line call.hint) [] 1
  if names.length < least then
    match names.getLast? with
    | none => call.misused 1 "missing operand"
    | some last =>
      misused ("missing operand after " ++ quoted last)
        (if deletes then "Two strings must be given when both deleting and squeezing repeats."
          else "Two strings must be given when translating.")
  else match names.drop most with
  | extra :: _ =>
    misused ("extra operand " ++ quoted extra)
      (if most = 1 && names.length = 2 then
        "Only one string may be given when deleting without squeezing repeats." else "")
  | [] =>
    let given := call.args.drop (call.args.length - names.length)
    let read (bytes : Bytes) : Except String (List Part) :=
      parts (bytes.length + 1) (plain (bytes.length + 1) bytes)
    let endsOpen (bytes : Bytes) : Bool := (bytes.reverse.takeWhile (· == 92)).length % 2 = 1
    let warnings := (given.filter endsOpen).flatMap fun _ =>
      call.complaint "warning: an unescaped backslash at end of string is not portable"
    let second := given[1]?
    let translates := second.isSome && ! deletes
    let checked : Except String (List Part × List Part) := do
      let a ← read (given.headD [])
      let b ← read (second.getD [])
      if translates then
        if b.any fun part => match part with
            | .named name => name ≠ "upper" && name ≠ "lower"
            | _ => false then
          throw ("when translating, the only character classes that may appear in\nstring2 are 'upper' and 'lower'")
        if b.isEmpty && ! request.asks 't' then throw "when not truncating set1, string2 must be non-empty"
      return (a, b)
    match checked with
    | .error e => call.telling (warnings ++ call.complaint e) [] 1
    | .ok (a, b) =>
      let chosen := octetsOf a
      let source := if request.asks 'c' || request.asks 'C' then all.filter (! chosen.contains ·) else chosen
      let target := filled b source.length
      let source := if request.asks 't' && translates then source.take target.length else source
      let pairs := source.mapIdx fun i b => (b, target.getD i (target.getLast?.getD b))
      let replaced (b : UInt8) : UInt8 := (pairs.reverse.lookup b).getD b
      let work (bytes : Bytes) : Bytes :=
        let bytes := if deletes then bytes.filter (! source.contains ·)
          else if translates then bytes.map replaced else bytes
        if squeezes then squeezed (if second.isSome then target else source).contains bytes else bytes
      match call.inputError with
      | some e => call.telling (warnings ++ call.complaint ("read error: " ++ e.message)) [] 1
      | none =>
        if call.ended then
          { call.idle with printed := [(2, warnings), (1, work call.input)], unread := [] }
        else
          let output := work call.input
          { call.wanting with
            printed := [(2, warnings), (1, output.take (output.length / Call.blockSize * Call.blockSize))] }

end Progeny.Host.Transliteration

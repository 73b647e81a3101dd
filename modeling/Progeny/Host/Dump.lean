import Progeny.Host.Numeral
import Progeny.Host.Options

/-!
# Dumps

A dump shows octets as numbers or characters, block by block, each line with the place of its first octet.
-/

namespace Progeny.Host.Dump

open Text (Bytes bytesOf)

/-- How a group of octets is shown. -/
inductive Form where
  /-- The name of a character. -/
  | named
  | character
  | signed
  | unsigned
  | octal
  | hexadecimal

/-- How a line is shown. -/
structure Style where
  form : Form
  /-- The number of octets in a group. -/
  size : Nat
  /-- The characters are shown behind the numbers. -/
  trailer : Bool := false

/-- The number of digits that the greatest number of some octets has in a base. -/
def digitCount (base size : Nat) : Nat := (Nat.toDigits base (Nat.pow 256 size - 1)).length

/-- The width of a group. -/
def Style.width (style : Style) : Nat :=
  match style.form with
  | .named | .character => 3
  | .signed => (Nat.toDigits 10 (Nat.pow 256 style.size / 2)).length + 1
  | .unsigned => digitCount 10 style.size
  | .octal => digitCount 8 style.size
  | .hexadecimal => digitCount 16 style.size

/-- The names of the characters that cannot be printed. -/
def names : List String :=
  ["nul", "soh", "stx", "etx", "eot", "enq", "ack", "bel", "bs", "ht", "nl", "vt", "ff", "cr", "so", "si", "dle",
   "dc1", "dc2", "dc3", "dc4", "nak", "syn", "etb", "can", "em", "sub", "esc", "fs", "gs", "rs", "us", "sp"]

/-- A number with zeros before it. -/
def padded (base width n : Nat) : String :=
  let digits := Nat.toDigits base n
  String.ofList (List.replicate (width - digits.length) '0' ++ digits)

/-- A group of octets, of which the first counts least. -/
def Style.shown (style : Style) (octets : Bytes) : String :=
  let n := octets.foldr (fun b n => n * 256 + b.toNat) 0
  match style.form with
  | .named =>
    let n := n % 128
    if n = 127 then "del" else (names[n]?).getD (Char.ofNat n).toString
  | .character =>
    match [(0, "\\0"), (7, "\\a"), (8, "\\b"), (9, "\\t"), (10, "\\n"), (11, "\\v"), (12, "\\f"), (13, "\\r")].lookup n with
    | some text => text
    | none => if 32 ≤ n && n < 127 then (Char.ofNat n).toString else padded 8 3 n
  | .signed => if n < Nat.pow 256 style.size / 2 then n.repr else "-" ++ (Nat.pow 256 style.size - n).repr
  | .unsigned => n.repr
  | .octal => padded 8 style.width n
  | .hexadecimal => padded 16 style.width n

/-- What is to be shown. -/
structure Layout where
  styles : List Style
  /-- The number of octets on a line. -/
  perLine : Nat
  /-- The place of the octet with a number. -/
  place : Nat → String
  /-- Lines are shown even if they are the same as those before. -/
  verbose : Bool

/-- A row of groups in one style, of which the widest decides how wide each is. -/
def Layout.row (layout : Layout) (style : Style) (block : Bytes) : String :=
  let count := layout.perLine / style.size
  let total (style : Style) : Nat := (style.width + 1) * (layout.perLine / style.size)
  let extra := (layout.styles.foldl (fun n style => max n (total style)) 0) - total style
  let groups := (block.length + style.size - 1) / style.size
  let field (i : Nat) : String :=
    let octets := (block.drop (i * style.size)).take style.size
    let pad := extra * (count - i) / count - extra * (count - i - 1) / count
    aligned (style.width + 1 + pad) (style.shown octets)
  let text := String.join ((List.range groups).map field)
  if style.trailer then
    let visible := block.map fun b => if 32 ≤ b && b < 127 then Char.ofNat b.toNat else '.'
    text ++ aligned ((count - groups) * (style.width + 1)) "" ++ "  >" ++ String.ofList visible ++ "<"
  else text

/-- The lines of some octets from a place on; `before` is the block before them, and `starred` says that
blocks were passed over. -/
def Layout.lines (layout : Layout) : (fuel : Nat) → (before : Option Bytes) → (starred : Bool) → (start : Nat) →
    Bytes → List String
  | 0, _, _, _, _ => []
  | _, _, _, start, [] => let place := layout.place start; if place.isEmpty then [] else [place]
  | fuel + 1, before, starred, start, octets =>
    let block := octets.take layout.perLine
    let rest := octets.drop layout.perLine
    let next := start + block.length
    if ! layout.verbose && before = some block && block.length = layout.perLine then
      (if starred then [] else ["*"]) ++ layout.lines fuel before true next rest
    else
      let place := layout.place start
      let blank := aligned place.length ""
      let rows := layout.styles.mapIdx fun i style => (if i = 0 then place else blank) ++ layout.row style block
      rows ++ layout.lines fuel (some block) false next rest

/-! ### What is asked for -/

/-- The styles that a text stands for. -/
def styles (text : String) : (fuel : Nat) → List Char → Except String (List Style)
  | 0, _ => .ok []
  | _, [] => .ok []
  | fuel + 1, c :: rest => do
    let form ← match [('a', Form.named), ('c', .character), ('d', .signed), ('u', .unsigned), ('o', .octal),
        ('x', .hexadecimal)].lookup c with
      | some form => Except.ok form
      | none => .error ("invalid character '" ++ c.toString ++ "' in type string " ++ quoted text)
    let (size, rest) : Nat × List Char := match form, rest with
      | .named, _ | .character, _ => (1, rest)
      | _, s :: more =>
        match [('C', 1), ('S', 2), ('I', 4), ('L', 8)].lookup s with
        | some n => (n, more)
        | none => if s.isDigit then Numeral.digits 10 rest else (4, rest)
      | _, [] => (4, rest)
    if ! [1, 2, 4, 8].contains size then
      throw ("invalid type string " ++ quoted text ++ ";\nthis system doesn't provide a " ++ size.repr ++
        "-byte integral type")
    let trailer := rest.head? = some 'z'
    return ⟨form, size, trailer⟩ :: (← styles text fuel (if trailer then rest.drop 1 else rest))

/-- The styles that letters of options stand for. -/
def lettered : List (Char × String) :=
  [('a', "a"), ('b', "o1"), ('c', "c"), ('d', "u2"), ('h', "x2"), ('x', "x2"), ('i', "dI"), ('l', "dL"), ('I', "dL"),
   ('L', "dL"), ('o', "o2"), ('B', "o2"), ('s', "d2"), ('D', "u4"), ('H', "x4"), ('X', "x4"), ('O', "o4")]

/-- The options of the tool. -/
def table : OptionTable :=
  OptionTable.of "A:bcdhHiIlLN:j:oOst:vw::xXaBD" [("address-radix", 'A'), ("format", 't'), ("read-bytes", 'N'),
    ("skip-bytes", 'j'), ("output-duplicates", 'v'), ("width", 'w')]

/-- A number of octets that an option asks for, which may have a base and a factor. -/
def count? (request : Request) (c : Char) : Except String (Option Nat) :=
  match request.value? c with
  | none => .ok none
  | some text =>
    let (n, rest) := Numeral.unsigned text.toList
    if rest.length = text.length then .error ("invalid -" ++ c.toString ++ " argument '" ++ text ++ "'")
    else if rest.isEmpty then .ok (some n)
    else match Numeral.factors.lookup (String.ofList rest) with
      | some factor => .ok (some (n * factor))
      | none => .error ("invalid suffix in -" ++ c.toString ++ " argument '" ++ text ++ "'")

/-- The layout that is asked for. -/
def layout (request : Request) : Except String Layout := do
  let place ← match (request.value? 'A').getD "o" with
    | "o" => Except.ok (padded 8 7)
    | "d" => .ok (padded 10 7)
    | "x" => .ok (padded 16 6)
    | "n" => .ok fun _ => ""
    | text => .error ("invalid output address radix '" ++ text ++ "'; it must be one character from [doxn]")
  let asked ← request.options.mapM fun (c, value) => match lettered.lookup c with
    | some text => styles text text.length text.toList
    | none => if c = 't' then styles value value.length value.toList else .ok []
  let styles := if asked.flatten.isEmpty then [⟨.octal, 2, false⟩] else asked.flatten
  let perLine := match request.value? 'w' with
    | none => 16
    | some text => if text.isEmpty then 32 else (natural? text).getD 16
  return { styles := styles, perLine := max 1 perLine, place := place, verbose := request.asks 'v' }

/-- Shows octets as numbers or characters. -/
def od : Tool := fun call =>
  call.withOptions table 1 fun request =>
  let prepared : Except String (Layout × Option Nat × Option Nat) := do
    return (← layout request, ← count? request 'j', ← count? request 'N')
  match prepared with
  | .error text => call.failing 1 text
  | .ok (layout, skipped, most) =>
    let wanted := skipped.getD 0 + most.getD 0
    let isEnough := most.isSome && request.operands.all (· = "-") && wanted ≤ call.input.length
    let call := if isEnough then { call with ended := true } else call
    call.reading request.operands fun found =>
      let octets := found.flatMap fun (_, content) => content.toOption.getD []
      let complaints := found.flatMap fun (name, content) => match content with
        | .ok _ => []
        | .error e => call.complaint (shownName name ++ ": " ++ e.message)
      let start := skipped.getD 0
      if found.all fun (_, content) => content.toOption.isNone then call.telling complaints [] 1
      else if octets.length < start then
        call.telling (complaints ++ call.complaint "cannot skip past end of combined input") [] 1
      else
        let octets := octets.drop start
        let octets := match most with
          | some n => octets.take n
          | none => octets
        let lines := layout.lines (octets.length + 2) none false start octets
        call.telling complaints (bytesOf (String.join (lines.map (· ++ "\n")))) (if complaints.isEmpty then 0 else 1)

end Progeny.Host.Dump

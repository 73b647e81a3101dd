import Progeny.Host.Editing.Script
import Progeny.Host.Numeral
import Progeny.Sequence.Total

/-!
# Reading scripts

Commands are read one after the other from the parts of a script.  A text that ends in a backslash goes
on in the next part.
-/

namespace Progeny.Host.Editing

open Text (Bytes bytesOf)

/-- What is read. -/
structure Reading where
  /-- The parts that follow. -/
  sources : List Source := []
  origin : Origin := .argument 0
  rest : Bytes := []
  /-- The number of octets of the part that were read. -/
  used : Nat := 0
  line : Nat := 1
  /-- The commands, the latest first. -/
  found : List Command := []
  /-- The places of the braces that are open. -/
  opened : List (Origin × Nat) := []
  quiet : Bool := false
  /-- Expressions are written in the extended form. -/
  extended : Bool
  /-- Nothing is read or written but what is edited. -/
  confined : Bool
  files : FileTree

/-- A reader of a part of a script. -/
abbrev Read := StateT Reading (Except Fault)

namespace Read

variable {α : Type}

/-- The text is no script. -/
def fail (text : String) : Read α := do
  let r ← get
  throw { text := r.origin.told r.used r.line text }

/-- Goes on behind some octets. -/
def skip (count : Nat) : Read Unit := modify fun r =>
  { r with rest := r.rest.drop count, used := r.used + (r.rest.take count).length
           line := r.line + (r.rest.take count).count lineFeed }

/-- The next octet, which stays there. -/
def peek : Read (Option UInt8) := return (← get).rest.head?

/-- Whether an octet is a blank. -/
def isBlank (b : UInt8) : Bool := b = 32 || b = 9

/-- Passes over blanks. -/
def blanks : Read Unit := do skip ((← get).rest.takeWhile isBlank).length

/-- The text is no script, which shows in the octet that is next. -/
def failNext (text : String) : Read α := do
  skip 1
  fail text

/-- The end of a command. -/
def commandEnd : Read Unit := do
  blanks
  match ← peek with
  | none => return ()
  | some b =>
    if b = 125 || b = 35 then return ()
    else if b = lineFeed || b = 59 then skip 1
    else failNext "extra characters after command"

/-- A number; zero without digits. -/
def number : Read Nat := do
  let digits := (← get).rest.takeWhile isDigit
  skip digits.length
  return decimal digits

/-- The rest of the line. -/
def restOfLine : Read Bytes := do
  blanks
  let text := (← get).rest.takeWhile (· != lineFeed)
  skip (text.length + 1)
  return text

/-- The name of a file, which is not empty. -/
def fileName : Read String := do
  if (← get).confined then fail "e/r/w commands disabled in sandbox mode"
  let text ← restOfLine
  if text.isEmpty then fail "missing filename in r/R/w/W commands"
  return Text.Utf8.decode text

/-- Where lines are written, which is made empty. -/
def outlet (opener : FileTree → String → Except FileError FileTree) : Read Outlet := do
  let name ← fileName
  if name = "/dev/stdout" then return .descriptor 1
  else if name = "/dev/stderr" then return .descriptor 2
  else
    match opener (← get).files name with
    | .ok files =>
      modify fun r => { r with files := files }
      return .file name
    | .error e => throw { text := "couldn't open file " ++ name ++ ": " ++ e.message, status := 4 }

/-- A label, which ends at a blank, a semicolon or a brace. -/
def label : Read String := do
  blanks
  let text := (← get).rest.takeWhile fun b => ! isBlank b && b != lineFeed && b != 59 && b != 125
  skip text.length
  return Text.Utf8.decode text

end Read

/-! ### Escapes -/

/-- An octet given by a number, of which there are at most `most` digits. -/
def numbered? (base most : Nat) (rest : Bytes) : Option (UInt8 × Bytes) :=
  let digits := (rest.take most).takeWhile fun b => (Numeral.digit? base (Char.ofNat b.toNat)).isSome
  if digits.isEmpty then none
  else
    let n := digits.foldl (fun n b => n * base + (Numeral.digit? base (Char.ofNat b.toNat)).getD 0) 0
    some (n.toUInt8, rest.drop digits.length)

/-- The octet that an escape stands for, behind its backslash; whether it is given by its number; and
what follows. -/
def escape? (rest : Bytes) : Option (UInt8 × Bool × Bytes) :=
  let given (found : Option (UInt8 × Bytes)) : Option (UInt8 × Bool × Bytes) :=
    found.map fun (b, rest) => (b, true, rest)
  match rest with
  | [] => none
  | 120 :: more => given (numbered? 16 2 more)
  | 100 :: more => given (numbered? 10 3 more)
  | 111 :: more => given (numbered? 8 3 more)
  | 99 :: b :: more => some ((if 97 ≤ b && b ≤ 122 then b - 32 else b) ^^^ 64, true, more)
  | b :: more =>
    ([(97, 7), (102, 12), (110, 10), (114, 13), (116, 9), (118, 11)].lookup b).map fun c => (c, false, more)

/-- The octets that a text with escapes stands for; of other characters the backslash is dropped. -/
def plainText : (fuel : Nat) → Bytes → Bytes
  | 0, _ => []
  | _, [] => []
  | _, [92] => [92]
  | fuel + 1, 92 :: b :: rest =>
    match escape? (b :: rest) with
    | some (c, _, more) => c :: plainText fuel more
    | none => b :: plainText fuel rest
  | fuel + 1, b :: rest => b :: plainText fuel rest

/-- The length of a set up to its closing bracket, behind the opening one. -/
def setLength? (rest : Bytes) : Option Nat :=
  let lead := match rest with
    | 94 :: 93 :: _ => 2
    | 94 :: _ | 93 :: _ => 1
    | _ => 0
  (go rest.length (rest.drop lead)).map (lead + ·)
where
  go : Nat → Bytes → Option Nat
    | 0, _ => none
    | _, [] => none
    | fuel + 1, 91 :: b :: rest =>
      if b = 58 || b = 46 || b = 61 then
        let name := (rest.zip (rest.drop 1)).takeWhile (· != (b, 93))
        if name.length + 1 < rest.length then
          (go fuel (rest.drop (name.length + 2))).map (name.length + 4 + ·)
        else (go fuel (b :: rest)).map (1 + ·)
      else (go fuel (b :: rest)).map (1 + ·)
    | fuel + 1, b :: rest =>
      if b = 93 then some 1 else if b = lineFeed then none else (go fuel rest).map (1 + ·)

/-- The octets that have a meaning in expressions. -/
def special : Bytes := bytesOf "$*.[\\]^+?()|/\x7b\x7d"

/-- An expression without the escapes that stand for octets. -/
def plainRegex : (fuel : Nat) → Bytes → Bytes
  | 0, _ => []
  | _, [] => []
  | _, [92] => [92]
  | fuel + 1, 92 :: b :: rest =>
    match escape? (b :: rest) with
    | some (c, given, more) =>
      if given && special.contains c then 92 :: c :: plainRegex fuel more else c :: plainRegex fuel more
    | none => 92 :: b :: plainRegex fuel rest
  | fuel + 1, 91 :: rest =>
    match setLength? rest with
    | none => 91 :: plainRegex fuel rest
    | some n => 91 :: inSet n (rest.take n) ++ plainRegex fuel (rest.drop n)
  | fuel + 1, b :: rest => b :: plainRegex fuel rest
where
  inSet : Nat → Bytes → Bytes
    | 0, _ => []
    | _, [] => []
    | fuel + 1, 92 :: rest =>
      match escape? rest with
      | some (c, false, more) => c :: inSet fuel more
      | _ => 92 :: inSet fuel rest
    | fuel + 1, b :: rest => b :: inSet fuel rest

/-! ### Parts of commands -/

namespace Read

/-- The text up to a delimiter; a delimiter behind a backslash belongs to it, as does one in a set of an
expression. -/
def delimited? (mark : UInt8) (isRegex : Bool) : Read (Option Bytes) := do
  let text := (← get).rest
  let (found, length) := go text.length text
  skip length
  return found
where
  go : Nat → Bytes → Option Bytes × Nat
    | 0, _ => (none, 0)
    | _, [] => (none, 0)
    | _, [92] => if mark = 92 then (some [], 1) else (none, 1)
    | fuel + 1, 92 :: b :: rest =>
      if mark = 92 then (some [], 1)
      else
      let (found, length) := go fuel rest
      let kept : Bytes :=
        if b = lineFeed then [b]
        else if b = mark && (isRegex || b ≠ 38) then [b]
        else [92, b]
      (found.map (kept ++ ·), length + 2)
    | fuel + 1, b :: rest =>
      if b = lineFeed then (none, 0)
      else if b = mark then (some [], 1)
      else if isRegex && b = 91 then
        match setLength? rest with
        | some n =>
          let (found, length) := go fuel (rest.drop n)
          (found.map ((b :: rest.take n) ++ ·), length + n + 1)
        | none => (none, rest.length + 1)
      else
        let (found, length) := go fuel rest
        (found.map (b :: ·), length + 1)

/-- The delimiter that is next. -/
def delimiter (missing : String) : Read UInt8 := do
  match ← peek with
  | none => fail missing
  | some b =>
    skip 1
    if b ≥ 128 then fail "delimiter character is not a single-byte character"
    return b

/-- Reads an expression; an empty one stands for the last one that was used. -/
def finder (text : Bytes) (anyCase lines : Bool) (groups : Nat) : Read (Option Finder) := do
  if text.isEmpty then
    if anyCase || lines then fail "cannot specify modifiers on empty regexp"
    return none
  let symbols := Symbol.ofBytes (plainRegex text.length text)
  match Regex.read ⟨(← get).extended, true⟩ symbols with
  | .error .bareClass => throw { text := Regex.Fault.bareClass.message, status := 4 }
  | .error fault => fail fault.message
  | .ok written =>
    if written.groups < groups then fail ("invalid reference \\" ++ groups.repr ++ " on \x60s' command's RHS")
    return some ⟨written.regex, { anyCase := anyCase, lines := lines }⟩

/-- Letters behind an expression that say how it is matched. -/
def manners : (fuel : Nat) → (anyCase lines : Bool) → Read (Bool × Bool)
  | 0, anyCase, lines => return (anyCase, lines)
  | fuel + 1, anyCase, lines => do
    blanks
    match ← peek with
    | some 73 =>
      skip 1
      manners fuel true lines
    | some 77 =>
      skip 1
      manners fuel anyCase true
    | _ => return (anyCase, lines)

/-- An address, if there is one. -/
def address? : Read (Option Address) := do
  match ← peek with
  | some 36 =>
    skip 1
    return some .last
  | some 43 =>
    skip 1
    blanks
    return some (.plus (← number))
  | some 126 =>
    skip 1
    blanks
    return some (.multiple (← number))
  | some b =>
    if isDigit b then
      let n ← number
      blanks
      if (← peek) = some 126 then
        skip 1
        blanks
        let each ← number
        return some (if each = 0 then .line n else .step n each)
      return some (.line n)
    else if b = 47 || b = 92 then
      skip 1
      let mark ← if b = 92 then delimiter "unterminated address regex" else pure b
      match ← delimited? mark true with
      | none => fail "unterminated address regex"
      | some text =>
        let (anyCase, lines) ← manners (← get).rest.length false false
        return some (.found (← finder text anyCase lines 0))
    else return none
  | none => return none

/-- A selector. -/
def selector : Read Selector := do
  let start ← address?
  let selector : Selector ← match start with
    | none => pure {}
    | some address =>
      match address with
      | .plus _ | .multiple _ => fail "invalid usage of +N or ~N as first address"
      | _ => pure ()
      blanks
      let stop ← if (← peek) = some 44 then
          skip 1
          blanks
          match ← address? with
          | none => failNext "unexpected \x60,'"
          | some stop =>
            blanks
            pure (some stop)
        else pure none
      match address, stop with
      | .line 0, some (.found _) => pure ()
      | .line 0, _ => failNext "invalid usage of line address 0"
      | _, _ => pure ()
      pure { start := start, stop := stop }
  blanks
  if (← peek) = some 33 then
    skip 1
    blanks
    if (← peek) = some 33 then failNext "multiple \x60!'s"
    return { selector with negated := true }
  return selector

/-- The lines of a text up to one that does not end in a backslash; the result also says whether it goes
on in the next part of the script. -/
def textLines : Read (Bytes × Bool) := do
  let (text, length, goesOn) := go (← get).rest
  skip length
  return (plainText text.length text ++ [lineFeed], goesOn)
where
  go : Bytes → Bytes × Nat × Bool
    | [] => ([], 0, false)
    | [92] => ([], 1, true)
    | 92 :: b :: rest =>
      let (text, length, goesOn) := go rest
      (if b = lineFeed then b :: text else 92 :: b :: text, length + 2, goesOn)
    | b :: rest =>
      if b = lineFeed then ([], 1, false)
      else
        let (text, length, goesOn) := go rest
        (b :: text, length + 1, goesOn)

/-- Goes on with the next part of the script, if there is one. -/
def nextSource : Read Bool := do
  let r ← get
  match r.sources with
  | [] => return false
  | source :: sources =>
    set { r with sources := sources, origin := source.origin, rest := source.text, used := 0, line := 1 }
    return true

/-- A text that may go on in the next parts of the script. -/
def longText : (fuel : Nat) → Read Bytes
  | 0 => return []
  | fuel + 1 => do
    let (text, goesOn) ← textLines
    if goesOn && (← nextSource) then return text ++ (← longText fuel)
    return text

/-- The text of a command. -/
def text : Read Bytes := do
  blanks
  let r ← get
  match r.rest with
  | [] => fail "expected \\ after \x60a', \x60c' or \x60i'"
  | [92] =>
    skip 1
    if ← nextSource then longText r.sources.length else return []
  | 92 :: b :: _ =>
    skip 1
    if isBlank b then
      let gap := (r.rest.drop 1).takeWhile isBlank
      if (r.rest.drop (1 + gap.length)).head? = some lineFeed then skip (gap.length + 1)
    else if b = lineFeed then skip 1
    let (found, goesOn) ← textLines
    if goesOn && (← nextSource) then return found ++ (← longText r.sources.length)
    return found
  | _ =>
    let (found, goesOn) ← textLines
    if goesOn && (← nextSource) then return found ++ (← longText r.sources.length)
    return found

end Read

/-! ### Substitutions -/

/-- The pieces of what is put in place of a match; `text` is read backwards, what stands before. -/
def pieces : (fuel : Nat) → (text : List Symbol) → (casing first : Casing) → List Symbol → List Piece
  | 0, _, _, _, _ => []
  | _, text, casing, first, [] => if text.isEmpty then [] else [⟨text.reverse, none, casing, first⟩]
  | _, text, casing, first, [92] => [⟨(92 :: text).reverse, none, casing, first⟩]
  | fuel + 1, text, casing, first, 92 :: n :: rest =>
    let literal (c : Symbol) (rest : List Symbol) : List Piece :=
      ⟨(c :: text).reverse, none, casing, first⟩ :: pieces fuel [] casing .same rest
    let switched (next nextFirst : Casing) : List Piece :=
      (if text.isEmpty then [] else [⟨text.reverse, none, casing, first⟩]) ++ pieces fuel [] next nextFirst rest
    if Regex.isDigit n then
      ⟨text.reverse, some (n - 48), casing, first⟩ :: pieces fuel [] casing .same rest
    else match [(76, Casing.lower, Casing.same), (85, .upper, .same), (69, .same, .same), (108, casing, .lower),
        (117, casing, .upper)].lookup n with
    | some (next, nextFirst) => switched next nextFirst
    | none =>
      match if (n :: rest).all (· < 256) then escape? ((n :: rest).map Nat.toUInt8) else escape? [n.toUInt8] with
      | some (c, _, more) => literal c.toNat (rest.drop (rest.length - more.length))
      | none => literal n rest
  | fuel + 1, text, casing, first, 38 :: rest =>
    ⟨text.reverse, some 0, casing, first⟩ :: pieces fuel [] casing .same rest
  | fuel + 1, text, casing, first, n :: rest => pieces fuel (n :: text) casing first rest

/-- What is asked of a substitution behind its delimiters. -/
structure Wishes where
  anyCase : Bool := false
  lines : Bool := false
  every : Bool := false
  prints : Bool := false
  number : Option Nat := none
  outlet : Option Outlet := none

namespace Read

/-- Reads what is asked of a substitution. -/
def wishes (opener : FileTree → String → Except FileError FileTree) : (fuel : Nat) → Wishes → Read Wishes
  | 0, w => return w
  | fuel + 1, w => do
    match ← peek with
    | none => return w
    | some b =>
      if isDigit b then
        if w.number.isSome then failNext "multiple number options to \x60s' command"
        let n ← number
        if n = 0 then fail "number option to \x60s' command may not be zero"
        wishes opener fuel { w with number := some n }
      else if b = 125 || b = 35 then return w
      else
        skip 1
        if b = lineFeed || b = 59 then return w
        else if isBlank b then wishes opener fuel w
        else if b = 105 || b = 73 then wishes opener fuel { w with anyCase := true }
        else if b = 109 || b = 77 then wishes opener fuel { w with lines := true }
        else if b = 101 then
          if (← get).confined then fail "e/r/w commands disabled in sandbox mode"
          wishes opener fuel w
        else if b = 112 then
          if w.prints then fail "multiple \x60p' options to \x60s' command"
          wishes opener fuel { w with prints := true }
        else if b = 103 then
          if w.every then fail "multiple \x60g' options to \x60s' command"
          wishes opener fuel { w with every := true }
        else if b = 119 then
          let outlet ← outlet opener
          return { w with outlet := some outlet }
        else fail "unknown option to \x60s'"

/-- A substitution behind its letter. -/
def substitution (opener : FileTree → String → Except FileError FileTree) : Read Substitution := do
  let missing := "unterminated \x60s' command"
  let mark ← delimiter missing
  let regex ← (← delimited? mark true).elim (fail missing) pure
  let replacement ← (← delimited? mark false).elim (fail missing) pure
  let w ← wishes opener ((← get).rest.length + 1) {}
  let symbols := Symbol.ofBytes replacement
  let pieces := pieces (symbols.length + 1) [] .same .same symbols
  let groups := pieces.foldl (fun n piece => max n (piece.group.getD 0)) 0
  let finder ← finder regex w.anyCase w.lines groups
  return {
    finder := finder, pieces := pieces, number := w.number.getD 1, every := w.every, prints := w.prints
    outlet := w.outlet }

/-- The pairs of symbols of a transliteration, behind its letter. -/
def transliteration : Read (List (Symbol × Symbol)) := do
  let missing := "unterminated \x60y' command"
  let mark ← delimiter missing
  let part : Read (List Symbol) := do
    let found ← (← delimited? mark false).elim (fail missing) pure
    return Symbol.ofBytes (plainText found.length found)
  let sources ← part
  let targets ← part
  if sources.length ≠ targets.length then fail "strings for \x60y' command are different lengths"
  commandEnd
  return sources.zip targets

/-! ### Commands -/

/-- The actions that letters stand for by themselves. -/
def simpleActions : List (Char × Action) :=
  [('=', .number), ('d', .delete), ('D', .deleteLine), ('F', .fileName), ('g', .recall), ('G', .recallMore),
   ('h', .keep), ('H', .keepMore), ('n', .next), ('N', .join), ('p', .print), ('P', .printLine), ('z', .clear),
   ('x', .exchange)]

/-- Whether a selector has a second address. -/
def one (selector : Selector) : Read Unit := do
  if selector.stop.isSome then fail "command only uses one address"

/-- The status or the width behind a letter. -/
def argument : Read (Option Nat) := do
  blanks
  let n ← match ← peek with
    | some b => if isDigit b then some <$> number else pure none
    | none => pure none
  commandEnd
  return n

/-- The action of a command that begins with a letter, which was read. -/
def action (opener : FileTree → String → Except FileError FileTree) (selector : Selector) (letter : Char) :
    Read Action := do
  match simpleActions.lookup letter with
  | some action =>
    commandEnd
    return action
  | none =>
    match letter with
    | '\x7b' =>
      modify fun r => { r with opened := (r.origin, r.line) :: r.opened }
      return .opening
    | '\x7d' =>
      if (← get).opened.isEmpty then fail "unexpected \x60\x7d'"
      if selector.start.isSome then fail "\x60\x7d' doesn't want any addresses"
      commandEnd
      modify fun r => { r with opened := r.opened.drop 1 }
      return .closing
    | ':' =>
      if selector.start.isSome then fail ": doesn't want any addresses"
      let name ← label
      if name.isEmpty then fail "\":\" lacks a label"
      return .label name
    | 'b' => return .jump .always (← label)
    | 't' => return .jump .changed (← label)
    | 'T' => return .jump .unchanged (← label)
    | 'a' => return .append (← text)
    | 'i' => return .insert (← text)
    | 'c' => return .change (← text)
    | 'l' => return .list (← argument)
    | 'q' =>
      one selector
      return .quit true ((← argument).getD 0)
    | 'Q' =>
      one selector
      return .quit false ((← argument).getD 0)
    | 'r' => return .includeFile (← fileName)
    | 'R' => return .includeLine (← fileName)
    | 'w' => return .write (← outlet opener) true
    | 'W' => return .write (← outlet opener) false
    | 's' => return .substitute (← substitution opener)
    | 'y' => return .transliterate (← transliteration)
    | c => fail ("unknown command: \x60" ++ c.toString ++ "'")

/-- Passes over a comment, which may say that nothing is printed. -/
def comment (isFirst : Bool) (selector : Selector) : Read Unit := do
  if selector.start.isSome then fail "comments don't accept any addresses"
  let r ← get
  if isFirst && r.used = 1 && r.rest.head? = some 110 then
    modify fun r => { r with quiet := true }
  let _ ← restOfLine

/-- Reads a command, if there is one left in the part. -/
def command (opener : FileTree → String → Except FileError FileTree) (isFirst : Bool) : Read Bool := do
  let isGap (b : UInt8) : Bool := b = 59 || b = 32 || (9 ≤ b && b ≤ 13)
  skip ((← get).rest.takeWhile isGap).length
  if (← get).rest.isEmpty then return false
  let selector ← selector
  match ← peek with
  | none => fail "missing command"
  | some b =>
    skip 1
    if b = 35 then comment isFirst selector
    else if b = 118 then
      if (← label).toList.head?.any fun c => '5' ≤ c && c ≤ '9' then fail "expected newer version of sed"
    else
      let letter := if b < 128 then Char.ofNat b.toNat else Text.Utf8.replacement
      let action ← action opener selector letter
      modify fun r => { r with found := ⟨selector, action⟩ :: r.found }
    return true

/-- Reads all commands. -/
def commands (opener : FileTree → String → Except FileError FileTree) : (fuel : Nat) → (isFirst : Bool) → Read Unit
  | 0, _ => return ()
  | fuel + 1, isFirst => do
    if ← command opener isFirst then commands opener fuel isFirst
    else if ← nextSource then commands opener fuel false

end Read

/-- Reads a script; `opener` makes the files empty that are written. -/
def Script.read (sources : List Source) (extended confined : Bool) (files : FileTree)
    (opener : FileTree → String → Except FileError FileTree) : Except Fault (Script × FileTree) := do
  let fuel := Sequence.total (·.text.length + 2) sources
  let (_, r) ← (Read.nextSource *> Read.commands opener fuel true).run
    { sources := sources, extended := extended, confined := confined, files := files }
  match r.opened with
  | (origin, line) :: _ => throw { text := origin.told 0 line "unmatched \x60\x7b'" }
  | [] =>
    let labels := r.found.filterMap fun command => match command.action with
      | .label name => some name
      | _ => none
    let missing := r.found.reverse.findSome? fun command => match command.action with
      | .jump _ label => if label.isEmpty || labels.contains label then none else some label
      | _ => none
    match missing with
    | some label => throw { text := "can't find label for jump to \x60" ++ label ++ "'" }
    | none => return (⟨r.found.reverse, r.quiet⟩, r.files)

end Progeny.Host.Editing

import Progeny.Host.Glob
import Progeny.Host.Tool
import Progeny.Host.Numeral
import Progeny.Host.Options

/-!
# Searching

Lines that match a pattern are selected, and printed with the lines around them, or counted, or only the
names of the files that they are in.
-/

namespace Progeny.Host.Searching

open Text (Bytes bytesOf)

/-- The options of the tool.  The ones that have names only have letters that are not used otherwise. -/
def table : OptionTable :=
  .of ("0123456789A:B:C:D:EFGHILPTUVX:abcd:e:f:hiLlm:noqRrsuvwxyZz" ++ "à:á:â:ã:ä:å::æ:ç:è")
    [("after-context", 'A'), ("basic-regexp", 'G'), ("before-context", 'B'), ("binary-files", 'à'),
     ("byte-offset", 'b'), ("color", 'å'), ("colour", 'å'), ("context", 'C'), ("count", 'c'), ("devices", 'D'),
     ("directories", 'd'), ("exclude", 'á'), ("exclude-dir", 'â'), ("exclude-from", 'ã'),
     ("extended-regexp", 'E'), ("file", 'f'), ("files-with-matches", 'l'), ("files-without-match", 'L'),
     ("fixed-regexp", 'F'), ("fixed-strings", 'F'), ("group-separator", 'ä'), ("ignore-case", 'i'),
     ("include", 'æ'), ("initial-tab", 'T'), ("invert-match", 'v'), ("label", 'ç'), ("line-buffered", 'è'),
     ("line-number", 'n'), ("line-regexp", 'x'), ("max-count", 'm'), ("no-ignore-case", 'ê'),
     ("no-filename", 'h'), ("no-group-separator", 'é'), ("no-messages", 's'), ("null", 'Z'),
     ("null-data", 'z'), ("only-matching", 'o'), ("perl-regexp", 'P'), ("quiet", 'q'), ("recursive", 'r'),
     ("dereference-recursive", 'R'), ("regexp", 'e'), ("silent", 'q'), ("text", 'a'), ("binary", 'U'),
     ("with-filename", 'H'), ("word-regexp", 'w')]

/-- What is selected, and how it is shown. -/
structure Search where
  regex : Regex
  mode : Regex.Mode
  inverted : Bool
  wholeLines : Bool
  wholeWords : Bool
  /-- The greatest number of lines that are selected in a file. -/
  most : Option Nat
  before : Nat
  after : Nat
  /-- What stands between groups of lines that do not follow each other. -/
  separator : Option Bytes
  onlyMatches : Bool
  numbered : Bool
  placed : Bool
  /-- Nothing is shown of the lines themselves. -/
  silent : Bool
  /-- Octets that are no text are shown, too. -/
  anyOctets : Bool
  /-- The octet that ends a line. -/
  ending : UInt8
  /-- The octet behind the name of a file, where it is not the usual one. -/
  nameEnding : Option UInt8

namespace Search

/-- Whether a match is one that is asked for. -/
def accepts (s : Search) (found : Regex.Match) : Bool :=
  if s.wholeLines then found.before.isEmpty && found.after.isEmpty
  else if s.wholeWords then
    ! (found.before.getLast?.any Symbol.isWordPart) && ! (found.after.head?.any Symbol.isWordPart)
  else true

/-- The first match in a line behind what was passed. -/
def next? (s : Search) (passed rest : List Symbol) : Option Regex.Match :=
  if s.wholeLines then
    if passed.isEmpty then s.regex.matchAt? s.mode s.accepts [] rest rest.length else none
  else s.regex.findFrom? s.mode s.accepts passed.reverse rest

/-- Whether a line is selected. -/
def selects (s : Search) (text : Bytes) : Bool :=
  (s.next? [] (Symbol.ofBytes text)).isSome != s.inverted

/-- The matches in a line that hold something, each with the number of octets before it. -/
def parts (s : Search) : (fuel : Nat) → (passed rest : List Symbol) → List (Nat × Bytes)
  | 0, _, _ => []
  | fuel + 1, passed, rest =>
    match s.next? passed rest with
    | none => []
    | some found =>
      if found.text.isEmpty then
        match found.after with
        | [] => []
        | n :: after => parts s fuel (found.before ++ [n]) after
      else
        ((Symbol.toBytes found.before).length, Symbol.toBytes found.text) ::
          parts s fuel (found.before ++ found.text) found.after

/-- What stands before a line: the name of its file, its number and its place, each with a sign. -/
def lead (s : Search) (name : Option String) (number offset : Nat) (sign : UInt8) : Bytes :=
  (match name with
    | some name => bytesOf name ++ [s.nameEnding.getD sign]
    | none => []) ++
  (if s.numbered then bytesOf number.repr ++ [sign] else []) ++
  (if s.placed then bytesOf offset.repr ++ [sign] else [])

end Search

/-- The sign behind a name or a number in a line that was selected, and in another one. -/
def selectedSign : UInt8 := 58

/-- The sign behind a name or a number in a line that is shown beside a selected one. -/
def besideSign : UInt8 := 45

/-- A line of a file. -/
structure Row where
  text : Bytes
  number : Nat
  /-- The number of octets before the line. -/
  offset : Nat

/-- How far the lines of a file have been looked at. -/
structure Progress where
  /-- What was printed, the latest first. -/
  printed : List Bytes := []
  /-- How many lines were selected. -/
  count : Nat := 0
  /-- The lines that are shown if one behind them is selected, the last first. -/
  waiting : List Row := []
  /-- How many more lines are shown behind a selected one. -/
  following : Nat := 0
  /-- The number of the last line that was shown. -/
  last : Nat := 0
  /-- Lines were selected before, maybe in another file. -/
  begun : Bool := false
  /-- A line was not shown because it is no text. -/
  hidden : Bool := false
  /-- The number of octets up to the end of the last line that was selected. -/
  extent : Nat := 0

namespace Search

/-- Whether octets are no text. -/
def isGarbled (bytes : Bytes) : Bool := (Symbol.ofBytes bytes).any (0x110000 ≤ ·)

/-- Shows a line. -/
def display (s : Search) (name : Option String) (isSelected : Bool) (row : Row) (p : Progress) : Progress :=
  let sign := if isSelected then selectedSign else besideSign
  let pieces : List (Nat × Bytes) :=
    if s.onlyMatches then
      if isSelected && ! s.inverted then s.parts (row.text.length + 1) [] (Symbol.ofBytes row.text) else []
    else [(0, row.text)]
  let shown := pieces.filter fun (_, text) => s.anyOctets || ! isGarbled text
  let output := shown.flatMap fun (start, text) =>
    s.lead name row.number (row.offset + start) sign ++ text ++ [s.ending]
  { p with
    printed := output :: p.printed, last := row.number, hidden := p.hidden || shown.length < pieces.length }

/-- Goes on behind a line that is selected. -/
def select (s : Search) (name : Option String) (row : Row) (p : Progress) : Progress :=
  let p := { p with count := p.count + 1, extent := row.offset + row.text.length + 1 }
  if s.silent then { p with begun := true }
  else
    let earlier := p.waiting.take s.before
    let isApart := p.last + 1 ≠ row.number - earlier.length || p.last = 0
    let p := match s.separator with
      | some text => if p.begun && isApart then { p with printed := (text ++ [lineFeed]) :: p.printed } else p
      | none => p
    let p := earlier.reverse.foldl (fun p row => s.display name false row p) p
    let p := s.display name true row p
    { p with waiting := [], following := s.after, begun := true }

/-- Goes on behind a line that is not selected. -/
def pass (s : Search) (name : Option String) (row : Row) (p : Progress) : Progress :=
  if p.following > 0 then { s.display name false row p with following := p.following - 1 }
  else if s.before > 0 then { p with waiting := (row :: p.waiting).take s.before }
  else p

/-- Looks at lines one after the other. -/
def scan (s : Search) (name : Option String) : (number offset : Nat) → List Bytes → Progress → Progress
  | _, _, [], p => p
  | number, offset, text :: rest, p =>
    let row : Row := ⟨text, number, offset⟩
    let isFull := s.most.any (· ≤ p.count)
    if isFull && p.following = 0 then p
    else
      let p := if ! isFull && s.selects text then s.select name row p else s.pass name row p
      scan s name (number + 1) (offset + text.length + 1) rest p

/-- The lines in some octets. -/
def linesIn (s : Search) (bytes : Bytes) : List Bytes :=
  let pieces := splitBytes (· == s.ending) bytes
  if pieces.getLast? = some [] then pieces.dropLast else pieces

/-- Looks at a file.  Zeros in it say that it is no text; then it is not shown, and they end lines. -/
def look (s : Search) (name : Option String) (bytes : Bytes) (begun : Bool) : Progress :=
  if ! s.anyOctets && s.ending ≠ 0 && bytes.contains 0 then
    let lines := s.linesIn (bytes.map fun b => if b = 0 then lineFeed else b)
    let p := { s with silent := true }.scan name 1 0 lines { begun := begun }
    { p with hidden := p.count > 0 && ! s.silent }
  else s.scan name 1 0 (s.linesIn bytes) { begun := begun }

end Search

/-! ### What is asked for -/

/-- What is told of the files that are searched. -/
inductive Telling where
  | lines
  | counts
  /-- The names of the files in which something was selected, or of the others. -/
  | names (selected : Bool)
  /-- Nothing. -/
  | success
  deriving DecidableEq

/-- The letters that stand for kinds of symbols in the third form of expressions. -/
def spelled : List Symbol → List Symbol
  | 92 :: n :: rest =>
    let set := [(Regex.code 'd', "[0-9]"), (Regex.code 'D', "[^0-9]"), (Regex.code 'h', "[ \t]"),
      (Regex.code 't', "\t"), (Regex.code 'n', "\n")].lookup n
    match set with
    | some text => text.toList.map Char.toNat ++ spelled rest
    | none => 92 :: n :: spelled rest
  | n :: rest => n :: spelled rest
  | [] => []

/-- The form of expressions that is asked for; two different ones do not go together. -/
def form? (request : Request) : Except String Char :=
  match (request.options.map (·.1)).filter "EFGP".toList.contains with
  | [] => .ok 'G'
  | c :: rest => if rest.all (· = c) then .ok c else .error "conflicting matchers specified"

/-- The text of a fault in the third form of expressions. -/
def spelledMessage : Regex.Fault → String
  | .unmatchedOpening => "missing closing parenthesis"
  | .unmatchedClosing => "unmatched closing parenthesis"
  | .unmatchedBracket | .lonelyBracket => "missing terminating ] for character class"
  | .trailingBackslash => "\\ at end of pattern"
  | .nothingRepeated => "quantifier does not follow a repeatable item"
  | .badReference => "reference to non-existent subpattern"
  | other => other.message

/-- Reads the patterns: an expression that matches what any of them matches, and the signs in them that
repeat nothing. -/
def patterns (form : Char) (texts : List Bytes) : Except Regex.Fault (Regex × List String) := do
  let found ← texts.mapM fun text =>
    let symbols := Symbol.ofBytes text
    if form = 'F' then .ok (Regex.literal symbols, [])
    else
      let symbols := if form = 'P' then spelled symbols else symbols
      (Regex.read ⟨form ≠ 'G', form = 'P'⟩ symbols).map fun w => (w.regex, w.idle)
  match found with
  | [] => return (.oneOf false [], [])
  | (first, _) :: rest => return (rest.foldl (fun r (other, _) => .alt r other) first, found.flatMap (·.2))

/-- The number of lines that an option asks for; one that is too great asks for all. -/
def extent? (text : String) : Option Nat := if text.isEmpty then none else natural? text

/-- The numbers of lines shown before and behind a selected one, which are given by letters or as digits. -/
def context (request : Request) : Except String (Option Nat × Option Nat) := do
  let number (c : Char) : Except String (Option Nat) :=
    match request.value? c with
    | none => .ok none
    | some text => match extent? text with
      | some n => .ok (some n)
      | none => .error (text ++ ": invalid context length argument")
  let digits := String.ofList ((request.options.map (·.1)).filter Char.isDigit)
  let around ← number 'C'
  let both := (natural? digits).or around
  return ((← number 'B').or both, (← number 'A').or both)

/-- The greatest number of lines to be selected, if there is one. -/
def limit? (request : Request) : Except String (Option Nat) :=
  match request.value? 'm' with
  | none => .ok none
  | some text => match integer? text with
    | some n => .ok (if n < 0 then none else some n.toNat)
    | none => .error "invalid max count"

/-- What is to be searched for. -/
def search (request : Request) (regex : Regex) : Except String Search := do
  let (before, after) ← context request
  let asks := request.asks
  let silent := asks 'q' || asks 'l' || asks 'L' || asks 'c'
  let separator : Option Bytes :=
    if asks 'é' || (before.isNone && after.isNone) then none
    else some (bytesOf ((request.value? 'ä').getD "--"))
  return {
    regex := regex
    mode := { anyCase := (request.last? ['i', 'y', 'ê']).any (· ≠ 'ê'), lines := asks 'z', first := asks 'P' }
    inverted := asks 'v', wholeLines := asks 'x', wholeWords := asks 'w', most := ← limit? request
    before := before.getD 0, after := after.getD 0, separator := separator, onlyMatches := asks 'o'
    numbered := asks 'n', placed := asks 'b', silent := silent
    anyOctets := asks 'a' || request.value? 'à' = some "text", ending := if asks 'z' then 0 else lineFeed
    nameEnding := if asks 'Z' then some 0 else none }

/-- What is to be told. -/
def telling (isMuted : Bool) (request : Request) : Telling :=
  if isMuted || request.asks 'q' then .success
  else match request.last? ['l', 'L'] with
    | some c => .names (c = 'l')
    | none => if request.asks 'c' then .counts else .lines

/-! ### The tool -/

/-- A file that is searched. -/
structure Source where
  name : String
  content : Except FileError Bytes

/-- Whether a name is one of those that are to be searched below a directory. -/
def isWanted (request : Request) (isDirectory : Bool) (name : String) : Bool :=
  let fits (c : Char) : Bool := (request.values c).any (Glob.accepts · name)
  if isDirectory then ! fits 'â'
  else ! fits 'á' && ((request.values 'æ').isEmpty || fits 'æ')

/-- The files below a directory. -/
def below (call : Call) (request : Request) : (fuel : Nat) → (path : Path) → (lead : String) → List Source
  | 0, _, _ => []
  | fuel + 1, path, lead =>
    (call.files.children path).flatMap fun name =>
      let there := path ++ [name]
      let shown := lead ++ name
      match call.files.entryAt? there with
      | some (.directory _) =>
        if isWanted request true name then below call request fuel there (shown ++ "/") else []
      | some (.file _) => if isWanted request false name then [⟨shown, call.read shown⟩] else []
      | some (.link _) =>
        if request.last? ['r', 'R'] = some 'R' && isWanted request false name then
          match call.read shown with
          | .error .isDirectory => []
          | content => [⟨shown, content⟩]
        else []
      | _ => []

/-- The files that are named, and those below directories if that is asked for. -/
def sources (call : Call) (request : Request) (names : List String) : List Source :=
  let deep := request.asks 'r' || request.asks 'R' || request.value? 'd' = some "recurse"
  if deep && names.isEmpty then below call request 100 call.directory ""
  else (if names.isEmpty then ["-"] else names).flatMap fun name =>
    match if name = "-" then .error .notFound else call.find name with
    | .ok (path, .directory _) =>
      if deep then below call request 100 path (if name.endsWith "/" then name else name ++ "/")
      else if request.value? 'd' = some "skip" then []
      else [⟨name, .error .isDirectory⟩]
    | _ => [⟨name, call.readOrInput name⟩]

/-- What was found in all files. -/
structure Findings where
  printed : List (Nat × Bytes) := []
  found : Bool := false
  failed : Bool := false
  begun : Bool := false
  /-- The number of octets that were used of the input, if not all. -/
  used : Option Nat := none
  /-- Nothing more is to be looked at. -/
  ended : Bool := false

/-- Looks at one file more. -/
def Findings.look (call : Call) (s : Search) (telling : Telling) (quiet : Bool) (label : String)
    (named : String → Bool) (found : Findings) (source : Source) : Findings :=
  if found.ended then found
  else
    let shown := if source.name = "-" then label else source.name
    match source.content with
    | .error e =>
      { found with
        failed := true
        printed := if quiet then found.printed
          else (2, call.complaint (shown ++ ": " ++ e.message)) :: found.printed }
    | .ok bytes =>
      let p := s.look (if named source.name then some shown else none) bytes found.begun
      let isFound := p.count > 0
      let output : Bytes := match telling with
        | .success => []
        | .names selected => if isFound = selected then bytesOf shown ++ [s.nameEnding.getD lineFeed] else []
        | .counts => (if named source.name then bytesOf shown ++ [s.nameEnding.getD selectedSign] else []) ++
            line p.count.repr
        | .lines => p.printed.reverse.flatten
      let warnings : List (Nat × Bytes) :=
        if p.hidden && telling = .lines then [(2, call.complaint (shown ++ ": binary file matches"))] else []
      { found with
        printed := warnings ++ (1, output) :: found.printed, found := found.found || isFound, begun := p.begun
        used := if source.name = "-" && telling ≠ .success && s.most.any (· ≤ p.count) then some p.extent
          else found.used
        ended := telling = .success && isFound }

/-- The reply of a tool that was called in a wrong way. -/
def misused (call : Call) (text : String) : Reply :=
  call.telling ((if text.isEmpty then [] else call.complaint text) ++
    line ("Usage: " ++ call.name ++ " [OPTION]... PATTERNS [FILE]...") ++ line call.hint) [] 2

/-- The patterns that are given, or those in files, or else the first operand; and the other operands. -/
def given (call : Call) (request : Request) : Except String (Option (List Bytes × List String)) := do
  let pieces (bytes : Bytes) : List Bytes := splitBytes (· == lineFeed) bytes
  let found ← (request.options.filter fun (c, _) => c = 'e' || c = 'f').mapM fun (c, value) =>
    if c = 'e' then .ok (pieces (bytesOf value))
    else match call.readOrInput value with
      | .ok bytes => .ok ((linesOf bytes).map chomp)
      | .error e => .error (value ++ ": " ++ e.message)
  match found, request.operands with
  | [], [] => return none
  | [], pattern :: operands => return some (pieces (bytesOf pattern), operands)
  | found, operands => return some (found.flatten, operands)

/-- Prints the lines in which something is found. -/
def grep : Tool := fun call =>
  match table.readFrom none call.texts with
  | .error text => misused call text
  | .ok request =>
    let prepared : Except String (Option (Search × List String × List String)) := do
      let form ← form? request
      let _ ← limit? request
      let _ ← context request
      match ← given call request with
      | none => return none
      | some (texts, operands) =>
        match patterns form texts with
        | .error fault => throw (if form = 'P' then spelledMessage fault else fault.message)
        | .ok (regex, idle) => return some (← search request regex, operands, idle)
    match prepared with
    | .error text => call.failing 2 text
    | .ok none => misused call ""
    | .ok (some (s, operands, idle)) =>
      let telling := telling call.isMuted request
      let deep := request.asks 'r' || request.asks 'R'
      let named (name : String) : Bool := match request.last? ['H', 'h'] with
        | some c => c = 'H'
        | none => operands.length > 1 || (deep && operands.all (· ≠ name))
      let label := (request.value? 'ç').getD "(standard input)"
      let warnings := idle.map fun sign =>
        (2, call.complaint ("warning: " ++ sign ++ " at start of expression"))
      let finish (call : Call) : Reply :=
        let found := (sources call request operands).foldl
          (fun (found : Findings) source => found.look call s telling (request.asks 's') label named source) {}
        let unread := if Call.takesInput operands && ! deep && call.isFile then
            match found.used with
            | some n => call.input.drop n
            | none => []
          else call.input
        { call.idle with
          printed := warnings ++ found.printed.reverse, unread := unread, unprinted := 2
          status := if found.failed && ! found.ended then 2 else if found.found then 0 else 1 }
      let readsInput := ! deep && operands.all (· = "-")
      if s.most = some 0 then { call.idle with status := 1 }
      else if readsInput && ! call.ended then
        let partly := { call with input := Call.wholeLines call.input }
        let reply := finish { partly with ended := true }
        let count := (s.look none partly.input false).count
        let isEnough : Bool := match telling with
          | .success => count > 0
          | .names _ => count > 0
          | _ => s.most.any (· ≤ count) && s.after = 0
        if isEnough then { reply with unread := [] }
        else if telling ≠ .lines then call.wanting
        else
          let output := reply.printed.flatMap fun (n, bytes) => if n = 1 then bytes else []
          if request.asks 'è' then { call.wanting with printed := [(1, output)] }
          else call.wantingBehind output
      else if (Call.takesInput operands && ! deep) && ! call.ended then call.wanting
      else finish call

/-- Searches with patterns of a certain form. -/
def grepAs (form : String) : Tool := fun call =>
  grep { call with name := "grep", args := bytesOf form :: call.args }

end Progeny.Host.Searching

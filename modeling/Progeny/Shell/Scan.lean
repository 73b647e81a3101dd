import Progeny.Shell.Script
import Progeny.Sequence.Total

/-!
# Reading scripts

A script is read token by token, and a line at a time, so that the commands before an error are not
lost.  Each octet is taken for the character of its number.  Everything that may hold commands again,
such as a group or a command substitution, takes the reader of commands as an argument; `Scan.commands`
ties the knot with as many levels as were asked for.
-/

namespace Progeny.Shell

open Text (Bytes)

/-- A token. -/
inductive Token where
  | fileEnd
  | newline
  | word
  | redirection
  /-- An operator or a keyword. -/
  | sign (text : String)
  deriving DecidableEq

/-- How a token is called in an error. -/
def Token.name : Token → String
  | .fileEnd => "end of file"
  | .newline => "newline"
  | .word => "word"
  | .redirection => "redirection"
  | .sign text => "\"" ++ text ++ "\""

/-- Why a script cannot be read. -/
inductive SyntaxError where
  /-- A token does not belong where it is found. -/
  | unexpected (found : Token) (expected : Option Token)
  /-- Something is not closed, or not well formed. -/
  | broken (what : String)
  deriving DecidableEq

/-- The text of an error. -/
def SyntaxError.message : SyntaxError → String
  | .unexpected found none => found.name ++ " unexpected"
  | .unexpected found (some expected) =>
    found.name ++ " unexpected (expecting " ++ expected.name ++ ")"
  | .broken what => what

/-- What the next token may be besides itself. -/
structure Checks where
  /-- Line feeds are passed over. -/
  lineFeeds : Bool := false
  /-- It may be a keyword. -/
  keywords : Bool := false
  /-- It may be an alias. -/
  aliases : Bool := false

/-- The checks where a command begins. -/
def Checks.all : Checks := ⟨true, true, true⟩

/-- A document that stands below the line on which it is asked for. -/
structure Awaited where
  number : Nat
  ending : Bytes
  /-- Nothing in it is replaced. -/
  verbatim : Bool
  /-- Tabs at the beginnings of lines are dropped. -/
  tabs : Bool

/-- The state of a reader. -/
structure Reader where
  left : List Char
  line : Nat := 1
  /-- The last token. -/
  token : Token := .newline
  /-- The last token is to be read again. -/
  again : Bool := false
  checks : Checks := {}
  /-- The last word, and whether any of it was quoted. -/
  word : List Piece := []
  isQuoted : Bool := false
  /-- How the last redirection opens its target; `none` for a document, whose tabs may be dropped. -/
  opening : Option Opening × Nat × Bool := (none, 0, false)
  awaited : List Awaited := []
  /-- The documents that were found. -/
  documents : List (Nat × List Piece) := []
  /-- A number that no document has. -/
  fresh : Nat := 0
  aliases : List (String × Bytes) := []
  /-- The aliases that are being read, and how much is left behind them. -/
  active : List (String × Nat) := []

/-- A computation that reads a script; where the script cannot be read, the line and the error are
the result. -/
abbrev Scan := StateT Reader (Except (Nat × SyntaxError))

/-- What is read as one. -/
inductive Stretch where
  /-- The commands up to the end of a line. -/
  | line
  /-- A list of at least one command. -/
  | some
  /-- A list of commands that may be empty. -/
  | any
  /-- One command. -/
  | one
  deriving DecidableEq

/-- Where pieces of a word stand, which says what ends them and what is special among them. -/
inductive Region where
  /-- Nothing shields them. -/
  | plain
  /-- The text that ends a document. -/
  | ending
  /-- They are in double quotes. -/
  | quoted
  /-- They belong to a parameter in braces. -/
  | braced (quoted : Bool)
  | arithmetic
  | document
  deriving DecidableEq

/-- Whether text counts as quoted. -/
def Region.isQuoted : Region → Bool
  | .plain | .ending | .braced false => false
  | _ => true

namespace Scan

variable {α : Type}

/-- The character of an octet. -/
def charOf (b : UInt8) : Char := Char.ofNat b.toNat

/-- The octet of a character. -/
def octetOf (c : Char) : UInt8 := c.toNat.toUInt8

/-- What is left. -/
def left : Scan (List Char) := do return (← get).left

/-- More than the number of steps that any loop over the characters takes. -/
def fuel : Scan Nat := do
  let r ← get
  return (r.left.length + 4) * (Sequence.total (·.2.length) r.aliases + 1)

/-- Takes `n` characters. -/
def take (n : Nat) : Scan Unit := modify fun r =>
  { r with left := r.left.drop n, line := r.line + (r.left.take n).count '\n' }

/-- Takes a text if it comes next. -/
def accept (text : String) : Scan Bool := do
  if text.toList.isPrefixOf (← left) then
    take text.length
    return true
  else return false

/-- A failure. -/
def failWith (error : SyntaxError) : Scan α := fun r => .error (r.line, error)

/-- A failure because of the last token. -/
def fail : Scan α := fun r => .error (r.line, .unexpected r.token none)

/-- A failure because another token belongs in the place of the last one. -/
def failExpecting (token : Token) : Scan α := fun r => .error (r.line, .unexpected r.token (some token))

/-- Has the last token read again. -/
def back : Scan Unit := modify fun r => { r with again := true }

/-- Says what the next token may be. -/
def check (checks : Checks) : Scan Unit := modify fun r => { r with checks := checks }

/-- Whether a character ends a word. -/
def isMeta (c : Char) : Bool := " \t\n;&|<>()".toList.contains c

/-- The words that structure a script. -/
def keywords : List String :=
  ["!", "case", "do", "done", "elif", "else", "esac", "fi", "for", "if", "in", "then", "until",
   "while", "\x7b", "\x7d"]

/-- The tokens behind which a list of commands ends. -/
def closing : List Token :=
  .fileEnd :: [";;", ")", "do", "done", "elif", "else", "esac", "fi", "then", "\x7d"].map .sign

/-- Whether a character may begin a name. -/
def beginsName (c : Char) : Bool := c.isAlpha || c == '_'

/-- Whether a character may stand in a name. -/
def inName (c : Char) : Bool := c.isAlphanum || c == '_'

/-- Whether octets are a name. -/
def isName (bytes : Bytes) : Bool :=
  match bytes.map charOf with
  | [] => false
  | c :: rest => beginsName c && rest.all inName

/-- The text of octets, each of which is a character of its own. -/
def textual (bytes : Bytes) : String := String.ofList (bytes.map charOf)

/-- The names of the commands of the shell that no function may have. -/
def reserved : List String :=
  [".", ":", "break", "continue", "eval", "exec", "exit", "export", "readonly", "return", "set",
   "shift", "times", "trap", "unset"]

/-- Reads another text, and then goes on with this one. -/
def within (text : List Char) (scan : Scan α) : Scan α := do
  let outer ← get
  set { outer with left := text, again := false, checks := {}, awaited := [], active := [] }
  let a ← scan
  modify fun r =>
    { outer with documents := r.documents, fresh := r.fresh, line := r.line }
  return a

/-! ### Words -/

/-- A piece of plain text, joined to one that follows it. -/
def joinText (quoted : Bool) (c : Char) : List Piece → List Piece
  | .text q s :: rest =>
    if q = quoted then .text q (octetOf c :: s) :: rest
    else .text quoted [octetOf c] :: .text q s :: rest
  | rest => .text quoted [octetOf c] :: rest

/-- The characters up to one that `stop` holds of, and what follows. -/
def upTo (stop : Char → Bool) : Scan (List Char) := do
  let found := (← left).takeWhile (! stop ·)
  take found.length
  return found

/-- Takes line feeds behind backslashes. -/
def skipJoints : Scan Unit := do
  go (← fuel)
where
  go : Nat → Scan Unit
    | 0 => return ()
    | n + 1 => do if ← accept "\\\n" then go n

/-- Whether a character is the name of a parameter by itself. -/
def isSpecial (c : Char) : Bool := c.isDigit || "@*#?$!-".toList.contains c

/-- What follows the name of a parameter in braces. -/
def modifier : Scan Modifier := do
  let orEmpty ← accept ":"
  match ← left with
  | '\x7d' :: _ => return if orEmpty then .unknown else .plain
  | '-' :: _ => taking (.otherwise orEmpty)
  | '+' :: _ => taking (.instead orEmpty)
  | '=' :: _ => taking (.assigning orEmpty)
  | '?' :: _ => taking (.required orEmpty)
  | '%' :: _ =>
    if orEmpty then taking .unknown
    else if ← accept "%%" then return .cut true true
    else taking (.cut true false)
  | '#' :: _ =>
    if orEmpty then taking .unknown
    else if ← accept "##" then return .cut false true
    else taking (.cut false false)
  | _ => return .unknown
where
  taking (modifier : Modifier) : Scan Modifier := do
    take 1
    return modifier

/-- The name of a parameter in braces and what is done with its value. -/
def bracedName : Scan (String × Modifier) := do
  match ← left with
  | '#' :: '\x7d' :: _ =>
    take 1
    return ("#", .plain)
  | '#' :: c :: rest =>
    if c.isAlphanum || c == '_' then
      take 1
      let name ← named
      return (name, if (← left).head? = some '\x7d' then .length else .unknown)
    else if rest.head? = some '\x7d' && isSpecial c then
      take 2
      return (c.toString, .length)
    else
      take 1
      return ("#", ← modifier)
  | c :: _ =>
    if beginsName c || c.isDigit then
      let name ← named
      return (name, ← modifier)
    else if isSpecial c then
      take 1
      return (c.toString, ← modifier)
    else return ("", .unknown)
  | [] => return ("", .unknown)
where
  /-- A name, or a number. -/
  named : Scan String := do
    skipJoints
    match ← left with
    | c :: _ => return String.ofList (← upTo fun d => if c.isDigit then ! d.isDigit else ! inName d)
    | [] => return ""

/-- The failure of a text that ends inside a region. -/
def unclosed : Region → Scan α
  | .braced false => failWith (.broken "Missing '\x7d'")
  | .arithmetic => failWith (.broken "Missing '))'")
  | _ => failWith (.broken "Unterminated quoted string")

/-- The reader of commands. -/
abbrev Inner := Stretch → Scan Script

/-- The characters up to a backquote, without the backslashes that shield some of them, and how many
characters that were. -/
def backquotedText (quoted : Bool) : List Char → Option (List Char × Nat)
  | [] => none
  | '\x60' :: _ => some ([], 1)
  | '\\' :: c :: rest =>
    (backquotedText quoted rest).map fun (cs, n) =>
      (if c = '\n' then cs
        else if c = '\x60' || c = '\\' || c = '$' || (quoted && c = '"') then c :: cs
        else '\\' :: c :: cs, n + 2)
  | c :: rest => (backquotedText quoted rest).map fun (cs, n) => (c :: cs, n + 1)

/-- The pieces of a word up to the end of a region, which is taken as well if it is a sign that closes
the region.  `substitution` reads commands up to a parenthesis, `all` those of a whole text. -/
def pieces (substitution all : Scan Script) : (fuel : Nat) → (region : Region) → (depth : Nat) →
    Scan (List Piece)
  | 0, _, _ => fail
  | fuel + 1, region, depth => do
    let quoted := region.isQuoted
    let more : Scan (List Piece) := pieces substitution all fuel region depth
    match ← left with
    | [] =>
      match region with
      | .plain | .ending | .document => return []
      | _ => unclosed region
    | c :: rest =>
      if (region = .plain || region = .ending) && isMeta c then return []
      else if region = .quoted && c = '"' then
        take 1
        return []
      else if (region matches .braced _) && c = '\x7d' then
        take 1
        return []
      else if region = .arithmetic && c = ')' && depth = 0 then
        take 1
        skipJoints
        if ← accept ")" then return [] else return joinText quoted ')' (← more)
      else if region = .arithmetic && c = ')' then
        take 1
        return joinText quoted c (← pieces substitution all fuel region (depth - 1))
      else if region = .arithmetic && c = '(' then
        take 1
        return joinText quoted c (← pieces substitution all fuel region (depth + 1))
      else if c = '\'' && ! quoted then
        take 1
        let text ← upTo (· == '\'')
        if ! (← accept "'") then failWith (.broken "Unterminated quoted string")
        return .text true (text.map octetOf) :: (← more)
      else if c = '"' && region ≠ .arithmetic && region ≠ .document then
        take 1
        let inner ← pieces substitution all fuel .quoted 0
        return (if inner.isEmpty then [.text true []] else inner) ++ (← more)
      else if c = '\\' then
        match rest with
        | [] =>
          take 1
          return joinText true '\\' (← more)
        | '\n' :: _ =>
          take 2
          more
        | d :: _ =>
          take 2
          if quoted && ! ("$\x60\\".toList.contains d || (d = '"' && region ≠ .document)
              || (d = '\x7d' && region = .braced true)) then
            return joinText true '\\' (joinText true d (← more))
          else return joinText true d (← more)
      else if c = '$' && region ≠ .ending then
        take 1
        skipJoints
        let piece ← dollar fuel region
        return joined piece (← more)
      else if c = '\x60' && region ≠ .ending then
        take 1
        match backquotedText quoted (← left) with
        | none => failWith (.broken "EOF in backquote substitution")
        | some (text, n) =>
          let inner ← within text all
          let start := (← get).line
          take n
          modify fun r => { r with line := start }
          return .output quoted inner :: (← more)
      else
        take 1
        return joinText quoted c (← more)
where
  /-- A piece before others. -/
  joined (piece : Piece) (rest : List Piece) : List Piece :=
    match piece with
    | .text q [b] => joinText q (charOf b) rest
    | _ => piece :: rest
  /-- What follows a dollar sign, which stands for itself if nothing does. -/
  dollar (fuel : Nat) (region : Region) : Scan Piece := do
    let quoted := region.isQuoted
    match ← left with
    | '(' :: _ =>
      take 1
      skipJoints
      if ← accept "(" then return .arithmetic quoted (← pieces substitution all fuel .arithmetic 0)
      else return .output quoted (← substitution)
    | '\x7b' :: _ =>
      take 1
      let (name, modifier) ← bracedName
      let inner := ! modifier.takesPattern && quoted
      return .parameter quoted name modifier (← pieces substitution all fuel (.braced inner) 0)
    | c :: _ =>
      if beginsName c then return .parameter quoted (String.ofList (← upTo (! inName ·))) .plain []
      else if isSpecial c then
        take 1
        return .parameter quoted c.toString .plain []
      else return .text quoted [octetOf '$']
    | [] => return .text quoted [octetOf '$']

/-- The lines of a document, and how many characters they were with the line that ends it.  A line
feed behind a backslash joins lines, if anything in the document is replaced. -/
def documentLines (awaited : Awaited) : (fuel : Nat) → List Char → List Char × Nat
  | 0, _ => ([], 0)
  | _, [] => ([], 0)
  | fuel + 1, text =>
    let tabs := if awaited.tabs then (text.takeWhile (· == '\t')).length else 0
    let text := text.drop tabs
    let line := text.takeWhile (· != '\n')
    let ended := line.length < text.length
    if line.map octetOf = awaited.ending then ([], tabs + line.length + if ended then 1 else 0)
    else if ! ended then (line, tabs + line.length)
    else
      let joins := ! awaited.verbatim && (line.reverse.takeWhile (· == '\\')).length % 2 = 1
      let below := text.drop (line.length + 1)
      let (found, n) :=
        if joins then
          let next := below.takeWhile (· != '\n')
          let taken := next.length + if next.length < below.length then 1 else 0
          let (found, n) := documentLines awaited fuel (below.drop taken)
          (below.take taken ++ found, taken + n)
        else documentLines awaited fuel below
      (line ++ '\n' :: found, tabs + line.length + 1 + n)

/-- Takes the documents that are awaited. -/
def readDocuments (inner : Region → Scan (List Piece)) : Scan Unit := do
  let awaited := (← get).awaited
  modify fun r => { r with awaited := [] }
  go awaited
where
  go : List Awaited → Scan Unit
    | [] => return ()
    | awaited :: rest => do
      let text ← left
      let (found, n) := documentLines awaited (text.length + 1) text
      let pieces ← if awaited.verbatim then pure [.text true (found.map octetOf)]
        else
          let start := (← get).line
          let pieces ← within found (inner .document)
          modify fun r => { r with line := start }
          pure pieces
      take n
      modify fun r => { r with documents := (awaited.number, pieces) :: r.documents }
      go rest

/-! ### Tokens -/

/-- Takes blanks, line feeds behind backslashes, and comments. -/
def skipBlanks : Scan Unit := do
  go (← fuel)
where
  go : Nat → Scan Unit
    | 0 => return ()
    | n + 1 => do
      match ← left with
      | ' ' :: _ | '\t' :: _ =>
        take 1
        go n
      | '\\' :: '\n' :: _ =>
        take 2
        go n
      | '#' :: _ => do
        let _ ← upTo (· == '\n')
      | _ => return ()

/-- Notes the last token. -/
def note (token : Token) : Scan Token := do
  modify fun r => { r with token := token }
  return token

/-- Takes an operator, which is another one if it is doubled. -/
def operator (single double : String) : Scan Token := do
  take 1
  skipJoints
  if double.isEmpty then note (.sign single)
  else if ← accept single then note (.sign double) else note (.sign single)

/-- How a redirection opens its target, behind its sign, the descriptor that it is for by default, and
whether tabs of a document are dropped. -/
def opening : Scan (Option Opening × Nat × Bool) := do
  let given (text : String) (how : Opening) (n : Nat) : Scan (Option (Option Opening × Nat × Bool)) := do
    return if ← accept text then some (some how, n, false) else none
  if let some found ← given ">&" .duplicate 1 then return found
  if let some found ← given "<&" .duplicate 0 then return found
  if let some found ← given ">>" .append 1 then return found
  if let some found ← given ">|" (.output true) 1 then return found
  if let some found ← given "<>" .inputAndOutput 0 then return found
  if let some found ← given ">" (.output false) 1 then return found
  if ← accept "<<-" then return (none, 0, true)
  if ← accept "<<" then return (none, 0, false)
  let _ ← accept "<"
  return (some .input, 0, false)

variable (inner : Inner)

/-- The readers of tokens, which take the reader of commands in substitutions as arguments. -/
structure Substitutions where
  substitution : Scan Script
  all : Scan Script

variable (subs : Substitutions)

/-- The pieces of a region. -/
def region (kind : Region) : Scan (List Piece) := do
  pieces subs.substitution subs.all (← fuel) kind 0

/-- Reads a word, or the sign of a redirection, which may have the number of a descriptor before it. -/
def readWord : Scan Token := do
  let word ← region subs (if (← get).opening.1.isNone && (← get).token = .redirection then .ending
    else .plain)
  let isQuoted := word.any Piece.isQuoted
  let next := (← left).head?
  let isNumber := match word with
    | [] => true
    | [.text false [b]] => (charOf b).isDigit
    | _ => false
  if (next = some '<' || next = some '>') && isNumber then
    let (how, n, tabs) ← opening
    let descriptor := match word with
      | [.text false [b]] => b.toNat - 48
      | _ => n
    modify fun r => { r with opening := (how, descriptor, tabs) }
    note .redirection
  else
    modify fun r => { r with word := word, isQuoted := isQuoted }
    note .word

/-- The next token as it is written. -/
def nextToken : Scan Token := do
  let r ← get
  if r.again then
    set { r with again := false }
    return r.token
  skipBlanks
  match ← left with
  | [] => note .fileEnd
  | '\n' :: _ =>
    take 1
    note .newline
  | '&' :: _ => operator "&" "&&"
  | '|' :: _ => operator "|" "||"
  | ';' :: _ => operator ";" ";;"
  | '(' :: _ => operator "(" ""
  | ')' :: _ => operator ")" ""
  | _ => readWord subs

/-- Passes over line feeds, and over the documents behind them. -/
def passLineFeeds : Nat → Token → Scan Token
  | 0, token => return token
  | n + 1, token => do
    if token ≠ .newline then return token
    readDocuments (region subs)
    passLineFeeds n (← nextToken subs)

/-- Drops the aliases that were read to their ends; the result says whether one of them ends in a blank. -/
def leaveAliases : Scan Bool := do
  let r ← get
  let endsInBlank (name : String) : Bool :=
    ((r.aliases.lookup name).bind (·.getLast?)).any fun b => b == 32 || b == 9
  set { r with active := r.active.filter fun (_, behind) => behind ≤ r.left.length }
  return r.active.any fun (name, behind) => r.left.length ≤ behind && endsInBlank name

/-- The next token as it is meant by the given checks.  A word behind an alias that ends in a blank may be
an alias as well. -/
def readChecked (checks : Checks) : Nat → Scan Token
  | 0 => fail
  | n + 1 => do
    let first ← nextToken subs
    let token ← if checks.lineFeeds then passLineFeeds subs (← fuel) first else pure first
    let isBehindBlank ← leaveAliases
    let checks := { checks with aliases := checks.aliases || isBehindBlank }
    let r ← get
    set { r with checks := {} }
    match token, plainText? r.word with
    | .word, some text =>
      if r.isQuoted then return token
      let name := textual text
      if checks.keywords && keywords.contains name then note (.sign name)
      else if checks.aliases then
        match r.aliases.lookup name, r.active.lookup name with
        | some value, none =>
          set { r with left := value.map charOf ++ r.left, active := (name, r.left.length) :: r.active }
          readChecked checks n
        | _, _ => return token
      else return token
    | _, _ => return token

/-- The next token. -/
def readToken : Scan Token := do
  readChecked subs (← get).checks (← fuel)

/-- Reads a token, which has to be the given sign. -/
def expect (sign : String) : Scan Unit := do
  if (← readToken subs) ≠ .sign sign then failExpecting (.sign sign)

/-! ### Commands -/

/-- The target of a redirection, behind its sign. -/
def redirection : Scan Redirection := do
  let (how, descriptor, tabs) := (← get).opening
  if (← readToken subs) ≠ .word then fail
  let r ← get
  match how with
  | some how => return .opening descriptor how r.word
  | none =>
    let document : Awaited := ⟨r.fresh, textOf r.word, r.isQuoted, tabs⟩
    set { r with fresh := r.fresh + 1, awaited := r.awaited ++ [document] }
    return .document descriptor r.fresh

/-- A word as an assignment. -/
def assignment? : List Piece → Option (String × List Piece)
  | .text false s :: rest =>
    let name := s.takeWhile fun b => inName (charOf b)
    match s.drop name.length with
    | b :: value =>
      if charOf b = '=' && isName name then
        some (textual name, if value.isEmpty then rest else .text false value :: rest)
      else none
    | [] => none
  | _ => none

/-- The parts of a simple command, in the order in which they stand; without words there may still be
assignments. -/
def simpleFrom (line : Nat) : Nat → List (String × List Piece) → List (List Piece) →
    List Redirection → Scan Script
  | 0, _, _, _ => fail
  | n + 1, assignments, words, redirections => do
    check { aliases := words.isEmpty }
    match ← readToken subs with
    | .word =>
      let word := (← get).word
      match words.isEmpty, assignment? word with
      | true, some found => simpleFrom line n (found :: assignments) words redirections
      | _, _ => simpleFrom line n assignments (word :: words) redirections
    | .redirection => simpleFrom line n assignments words ((← redirection subs) :: redirections)
    | token =>
      match token, words, assignments, redirections with
      | .sign "(", [word], [], [] =>
        expect subs ")"
        match plainText? word with
        | some name =>
          if ! isName name || reserved.contains (textual name) then
            failWith (.broken "Bad function name")
          check .all
          return .define (← get).line (textual name) (← inner .one)
        | none => failWith (.broken "Bad function name")
      | _, _, _, _ =>
        back
        return .simple line assignments.reverse words.reverse redirections.reverse

/-- The rest of a condition, behind its first keyword. -/
def chooseFrom : Nat → Scan Script
  | 0 => fail
  | n + 1 => do
    let condition ← inner .some
    expect subs "then"
    let yes ← inner .some
    match ← readToken subs with
    | .sign "elif" => return .choose condition yes (← chooseFrom n)
    | .sign "else" => return .choose condition yes (← inner .some)
    | _ =>
      back
      return .choose condition yes .nothing

/-- The words of a loop over words. -/
def loopWords : Nat → Scan (List (List Piece))
  | 0 => fail
  | n + 1 => do
    match ← readToken subs with
    | .word =>
      let word := (← get).word
      return word :: (← loopWords n)
    | .newline | .sign ";" => return []
    | _ => fail

/-- A loop over words, behind its keyword. -/
def each (line : Nat) : Scan Script := do
  let token ← readToken subs
  let r ← get
  match token, plainText? r.word with
  | .word, some name =>
    if r.isQuoted || ! isName name then failWith (.broken "Bad for loop variable")
    check .all
    let words ← match ← readToken subs with
      | .sign "in" => some <$> loopWords subs (← fuel)
      | .sign ";" => pure none
      | _ =>
        back
        pure none
    check .all
    expect subs "do"
    return .each line (textual name) words (← inner .some)
  | _, _ => failWith (.broken "Bad for loop variable")

/-- The patterns of an arm of a selection, from the last token on. -/
def patterns : Nat → Scan (List (List Piece))
  | 0 => fail
  | n + 1 => do
    let word := (← get).word
    if (← readToken subs) = .sign "|" then
      let _ ← readToken subs
      return word :: (← patterns n)
    else if (← get).token = .sign ")" then return [word]
    else failExpecting (.sign ")")

/-- The arms of a selection. -/
def arms : Nat → Scan (List (List (List Piece) × Script))
  | 0 => fail
  | n + 1 => do
    check { lineFeeds := true, keywords := true }
    match ← readToken subs with
    | .sign "esac" => return []
    | token =>
      if token = .sign "(" then
        let _ ← readToken subs
      let found ← patterns subs (← fuel)
      let body ← inner .any
      check { lineFeeds := true, keywords := true }
      match ← readToken subs with
      | .sign "esac" => return [(found, body)]
      | .sign ";;" => return (found, body) :: (← arms n)
      | _ => failExpecting (.sign ";;")

/-- The redirections behind a command. -/
def redirections : Nat → Scan (List Redirection)
  | 0 => fail
  | n + 1 => do
    if (← readToken subs) = .redirection then
      let first ← redirection subs
      return first :: (← redirections n)
    else
      back
      return []

/-- A command with the redirections behind it. -/
def withRedirections (line : Nat) (command : Script) : Scan Script := do
  check { keywords := true, aliases := true }
  let found ← redirections subs (← fuel)
  match command, found with
  | .subshell line body _, _ => return .subshell line body found
  | _, [] => return command
  | _, _ => return .group line command found

/-- A command. -/
def command : Scan Script := do
  let line := (← get).line
  match ← readToken subs with
  | .sign "if" => closed line "fi" (chooseFrom inner subs (← fuel))
  | .sign "while" => closed line "done" (looping true)
  | .sign "until" => closed line "done" (looping false)
  | .sign "for" => closed line "done" (each inner subs line)
  | .sign "case" =>
    if (← readToken subs) ≠ .word then failExpecting .word
    let subject := (← get).word
    check .all
    expect subs "in"
    let found ← arms inner subs (← fuel)
    withRedirections subs line (.select line subject found)
  | .sign "(" => closed line ")" (return .subshell line (← inner .some) [])
  | .sign "\x7b" => closed line "\x7d" (inner .some)
  | .word | .redirection =>
    back
    simpleFrom inner subs (← get).line (← fuel) [] [] []
  | _ => fail
where
  closed (line : Nat) (sign : String) (scan : Scan Script) : Scan Script := do
    let found ← scan
    expect subs sign
    withRedirections subs line found
  looping (whileTrue : Bool) : Scan Script := do
    let condition ← inner .some
    expect subs "do"
    return .loop whileTrue condition (← inner .some)

/-- The commands of a pipeline behind its first. -/
def pipedFrom : Nat → Script → Scan Script
  | 0, first => return first
  | n + 1, first => do
    if (← readToken subs) = .sign "|" then
      check .all
      let next ← command inner subs
      return .pipe first (← pipedFrom n next)
    else
      back
      return first

/-- A pipeline. -/
def pipeline : Scan Script := do
  let negated := (← readToken subs) = .sign "!"
  if negated then check { keywords := true, aliases := true } else back
  let found ← pipedFrom inner subs (← fuel) (← command inner subs)
  return if negated then .negate found else found

/-- The pipelines behind the first that depend on how it ends. -/
def andOrFrom : Nat → Script → Scan Script
  | 0, first => return first
  | n + 1, first => do
    match ← readToken subs with
    | .sign "&&" =>
      check .all
      andOrFrom n (.both first (← pipeline inner subs))
    | .sign "||" =>
      check .all
      andOrFrom n (.either first (← pipeline inner subs))
    | _ =>
      back
      return first

/-- Two commands, one after the other. -/
def andThen : Script → Script → Script
  | .nothing, second => second
  | first, second => .sequence first second

/-- Commands up to the end of a stretch. -/
def listFrom (kind : Stretch) (sofar : Script) : Nat → Scan Script
  | 0 => fail
  | n + 1 => do
    let isLine := kind = .line
    check { lineFeeds := ! isLine, keywords := true, aliases := true }
    match ← readToken subs with
    | .newline =>
      readDocuments (region subs)
      return sofar
    | .fileEnd =>
      readDocuments (region subs)
      ended
    | token =>
      back
      if kind = .any && closing.contains token then return sofar
      let first ← andOrFrom inner subs (← fuel) (← pipeline inner subs)
      let kind := if kind = .some then .any else kind
      match ← readToken subs with
      | .sign "&" => listFrom kind (andThen sofar (.background first)) n
      | .sign ";" => listFrom kind (andThen sofar first) n
      | .newline =>
        back
        listFrom kind (andThen sofar first) n
      | .fileEnd =>
        readDocuments (region subs)
        let _ ← ended
        return andThen sofar first
      | _ =>
        if isLine then fail
        back
        return andThen sofar first
where
  /-- The end of the text, which is to be found again. -/
  ended : Scan Script := do
    modify fun r => { r with again := true, token := .fileEnd }
    return sofar

/-- The commands of a stretch; command substitutions in it are nested less than `depth` deep. -/
def commands : (depth : Nat) → Inner
  | 0, _ => fail
  | depth + 1, kind => do
    let inner := commands depth
    let all : Scan Script := inner .any
    let substitution : Scan Script := do
      let outer ← get
      set { outer with again := false, checks := {}, awaited := [] }
      let found ← inner .any
      if (← readToken ⟨fail, fail⟩) ≠ .sign ")" then failExpecting (.sign ")")
      within [] (readDocumentsOf (← get).awaited)
      modify fun r => { r with
        again := false, checks := outer.checks, awaited := outer.awaited, token := outer.token,
        word := outer.word, isQuoted := outer.isQuoted, opening := outer.opening }
      return found
    let subs : Substitutions := ⟨substitution, all⟩
    if kind = .one then command inner subs
    else listFrom inner subs kind .nothing (← fuel)
where
  readDocumentsOf (awaited : List Awaited) : Scan Unit := do
    modify fun r => { r with awaited := awaited }
    readDocuments fun _ => return []

end Scan

/-- More than the number of levels that commands are nested in. -/
def Reader.maxDepth : Nat := 1000

namespace Reader

/-- The commands of the next line. -/
def nextLine (reader : Reader) : Except (Nat × SyntaxError) (Script × Reader) :=
  Scan.commands maxDepth .line reader

/-- Whether a reader has come to the end. -/
def atEnd (reader : Reader) : Bool := reader.again && reader.token = .fileEnd

/-- A reader of a text. -/
def ofBytes (bytes : Bytes) : Reader := { left := bytes.map Scan.charOf }

end Reader

end Progeny.Shell

import Progeny.Shell.Launch

/-!
# Programs in other environments

A program is run with other variables, in another directory, or with arguments that stand together in one
text.  Such a text is split at blanks outside quotation marks; a backslash and a dollar sign have meanings
of their own in it.
-/

namespace Progeny.Shell.Environment

open Host
open Text (Bytes bytesOf)

/-! ### Splitting a text -/

/-- The words that were found, and the one that is being read. -/
structure Splitting where
  words : List Bytes := []
  word : Option Bytes := none
  /-- The quotation mark that is open. -/
  quote : Option UInt8 := none

namespace Splitting

/-- Begins a word, if none is being read. -/
def opened (s : Splitting) : Splitting := { s with word := some (s.word.getD []) }

/-- Puts octets at the end of the word that is being read. -/
def adding (s : Splitting) (octets : Bytes) : Splitting := { s with word := some (s.word.getD [] ++ octets) }

/-- Ends the word that is being read. -/
def closed (s : Splitting) : Splitting := { s with words := s.words ++ s.word.toList, word := none }

/-- Opens or closes quotation marks. -/
def turned (s : Splitting) (mark : UInt8) : Splitting :=
  { s.opened with quote := if s.quote.isSome then none else some mark }

end Splitting

/-- Whether an octet stands between words. -/
def isBlank (b : UInt8) : Bool := b == 32 || (9 ≤ b && b ≤ 13)

/-- The octet that a letter behind a backslash stands for. -/
def escaped? (b : UInt8) : Option UInt8 :=
  [(34, 34), (35, 35), (36, 36), (39, 39), (92, 92), (102, 12), (110, 10), (114, 13), (116, 9),
    (118, 11)].lookup b

/-- The name of a variable in braces that a text begins with, and what follows it. -/
def named? (text : Bytes) : Option (Bytes × Bytes) :=
  match text with
  | 123 :: rest =>
    let name := rest.takeWhile (· != 125)
    if Scan.isName name && name.length < rest.length then some (name, rest.drop (name.length + 1)) else none
  | _ => none

/-- Splits a text; `value` is that of a variable.  No more than `fuel` steps are taken, of which each takes
an octet at least. -/
def splitWithin (value : Bytes → Option Bytes) : (fuel : Nat) → Splitting → Bytes → Except String (List Bytes)
  | 0, s, _ => .ok s.closed.words
  | fuel + 1, s, text =>
    match text with
    | [] => if s.quote.isSome then .error "no terminating quote in -S string" else .ok s.closed.words
    | 39 :: rest => splitWithin value fuel (if s.quote = some 34 then s.adding [39] else s.turned 39) rest
    | 34 :: rest => splitWithin value fuel (if s.quote = some 39 then s.adding [34] else s.turned 34) rest
    | 92 :: rest =>
      if s.quote = some 39 && rest.head? ≠ some 92 && rest.head? ≠ some 39 then
        splitWithin value fuel (s.adding [92]) rest
      else match rest with
        | [] => .error "invalid backslash at end of string in -S"
        | 95 :: rest =>
          splitWithin value fuel (if s.quote = some 34 then s.adding [32] else s.closed) rest
        | 99 :: _ =>
          if s.quote = some 34 then .error "'\\c' must not appear in double-quoted -S string"
          else .ok s.closed.words
        | b :: rest =>
          match escaped? b with
          | some octet => splitWithin value fuel (s.adding [octet]) rest
          | none => .error ("invalid sequence '\\" ++ Text.Utf8.decode [b] ++ "' in -S")
    | 36 :: rest =>
      if s.quote = some 39 then splitWithin value fuel (s.adding [36]) rest
      else match named? rest with
        | none => .error ("only $\x7bVARNAME\x7d expansion is supported, error at: " ++ Text.Utf8.decode text)
        | some (name, rest) =>
          splitWithin value fuel (match value name with
            | some found => if found.isEmpty then s else s.adding found
            | none => s) rest
    | b :: rest =>
      if b == 35 && s.word.isNone then .ok s.closed.words
      else if isBlank b && s.quote.isNone then splitWithin value fuel s.closed rest
      else splitWithin value fuel (s.adding [b]) rest

/-- Splits a text. -/
def split (value : Bytes → Option Bytes) (text : Bytes) : Except String (List Bytes) :=
  splitWithin value (text.length + 1) {} text

/-! ### Arguments -/

/-- Arguments in which each text that is to be split was replaced by its words, and what is told of that. -/
structure Unfolded where
  words : List Bytes
  told : List String := []

/-- What is told of a text that is split. -/
def tellSplit (text : Bytes) (words : List Bytes) : List String :=
  let quotedBytes (octets : Bytes) : String := quoted (Text.Utf8.decode octets)
  match words with
  | [] => []
  | first :: rest =>
    ("split -S:  " ++ quotedBytes text) :: (" into:    " ++ quotedBytes first) ::
      rest.map fun word => "     &    " ++ quotedBytes word

/-- Splits the texts behind the options that ask for it; `isLoud` is whether more is told. -/
def unfold (value : Bytes → Option Bytes) :
    (fuel : Nat) → (isLoud : Bool) → (args : List Bytes) → Except String Unfolded
  | 0, _, args => .ok ⟨args, []⟩
  | _, _, [] => .ok ⟨[], []⟩
  | fuel + 1, isLoud, arg :: rest =>
    let done : Except String Unfolded := .ok ⟨arg :: rest, []⟩
    let splitting (isLoud : Bool) (kept : List Bytes) (text : Bytes) (rest : List Bytes) :
        Except String Unfolded := do
      let words ← split value text
      let later ← unfold value fuel isLoud (words ++ rest)
      return ⟨kept ++ later.words, (if isLoud then tellSplit text words else []) ++ later.told⟩
    let keeping (isLoud : Bool) (count : Nat) : Except String Unfolded := do
      let later ← unfold value fuel isLoud (rest.drop count)
      return { later with words := arg :: rest.take count ++ later.words }
    match arg with
    | [45, 45] | [45] => done
    | 45 :: 45 :: long =>
      let name := Text.Utf8.decode (long.takeWhile (· != 61))
      let attached := (long.drop name.utf8ByteSize).drop 1
      let isAttached := long.contains 61
      if "split-string".startsWith name then
        match isAttached, rest with
        | true, _ => splitting isLoud [] attached rest
        | false, text :: rest => splitting isLoud [] text rest
        | false, [] => done
      else if "unset".startsWith name || "chdir".startsWith name then keeping isLoud (if isAttached then 0 else 1)
      else keeping (isLoud || (2 ≤ name.length && "debug".startsWith name)) 0
    | 45 :: letters =>
      let plain := letters.takeWhile fun b => b == 105 || b == 48 || b == 118
      let isLoud := isLoud || plain.contains 118
      match letters.drop plain.length with
      | [] => keeping isLoud 0
      | 83 :: attached =>
        let kept : List Bytes := if plain.isEmpty then [] else [45 :: plain]
        match attached, rest with
        | [], text :: rest => splitting isLoud kept text rest
        | [], [] => done
        | _, _ => splitting isLoud kept attached rest
      | b :: attached => if b == 117 || b == 67 then keeping isLoud (if attached.isEmpty then 1 else 0) else done
    | _ => done

/-! ### The program -/

/-- The options. -/
def table : OptionTable :=
  { OptionTable.of "iu:C:0vS:" [("ignore-environment", 'i'), ("unset", 'u'), ("chdir", 'C'), ("null", '0'),
      ("debug", 'v'), ("split-string", 'S')] with first := true }

/-- What is told of a name or an option that has blanks in it. -/
def hint : String := "use -[v]S to pass options in shebang lines"

/-- Gives a value to a variable. -/
def bind (environment : List (String × Bytes)) (binding : Bytes) : List (String × Bytes) :=
  let (name, value) := Builtin.binding binding
  let value := value.getD []
  if (environment.lookup name).isSome then
    environment.map fun (known, old) => (known, if known = name then value else old)
  else environment ++ [(name, value)]

/-- Goes to another directory. -/
def enter (name : Bytes) (place : String) : Act Unit := do
  let s ← get
  let refuse (reason : String) : Act Unit :=
    Launch.refuse name 125 ("cannot change directory to '" ++ place ++ "': " ++ reason)
  match (← Act.machine).files.find s.directory place true with
  | .ok (path, .directory _) => modify fun s => { s with directory := path }
  | .ok _ => refuse FileError.notDirectory.message
  | .error e => refuse e.message

/-- Runs a program in another environment, or prints that. -/
def env (run : Runner) (name : Bytes) (args : List Bytes) : Act Unit := do
  let s ← get
  let value (variableName : Bytes) : Option Bytes := s.environment.lookup (Text.Utf8.decode variableName)
  let unfolded ← match unfold value 1000 false args with
    | .ok unfolded => pure unfolded
    | .error e => Launch.refuse name 125 e
  let request ← match table.readFrom none (unfolded.words.map Text.Utf8.decode) with
    | .ok request => pure request
    | .error e => do
      Launch.complain name e
      if e.startsWith "invalid option" && e.toList.any (fun c => c = '\t' || (e.endsWith "' '" && c = ' ')) then
        Launch.complain name hint
      Launch.misuse name 125 ""
  let isLoud := request.asks 'v'
  let tell (text : String) : Act Unit := if isLoud then Session.print 2 (line text) else pure ()
  Builtin.forEach (fun text => Session.print 2 (line text)) unfolded.told
  let words := Launch.operands unfolded.words request
  let isDashed := words.head? = some [45]
  let words := if isDashed && ! request.asks 'i' then words.drop 1 else words
  let bindings := words.takeWhile (·.contains 61)
  let words := words.drop bindings.length
  let isEmptied := isDashed || request.asks 'i'
  if isEmptied then tell "cleaning environ"
  else Builtin.forEach (fun unwanted => do
    tell ("unset:    " ++ unwanted)
    if unwanted.isEmpty || unwanted.toList.contains '=' then
      Launch.refuse name 125 ("cannot unset " ++ quoted unwanted ++ ": Invalid argument")) (request.values 'u')
  let kept := if isEmptied then [] else s.environment.filter fun (known, _) => ! (request.values 'u').contains known
  Builtin.forEach (fun binding => tell ("setenv:   " ++ Text.Utf8.decode binding)) bindings
  let environment := bindings.foldl bind kept
  let place := request.value? 'C'
  match words with
  | [] =>
    if place.isSome then Launch.misuse name 125 "must specify command with --chdir (-C)"
    let ending : Bytes := if request.asks '0' then [0] else [lineFeed]
    Session.print 1 (environment.flatMap fun (known, value) => bytesOf (known ++ "=") ++ value ++ ending)
    Launch.stop 0
  | program :: _ =>
    if request.asks '0' then Launch.misuse name 125 "cannot specify --null (-0) with command"
    set { s with bindings := environment.map fun (known, value) =>
      (known, ({ value := some value, exported := true } : Variable)) }
    match place with
    | none => pure ()
    | some place =>
      tell ("chdir:    '" ++ place ++ "'")
      enter name place
    tell ("executing: " ++ Text.Utf8.decode program)
    Builtin.forEach (fun (word, i) =>
      tell ("   arg[" ++ i.repr ++ "]= " ++ quoted (Text.Utf8.decode word))) words.zipIdx
    match ← Launch.find program with
    | .ok place =>
      run.program place program (words.drop 1)
      Act.exit
    | .error e =>
      Launch.complain name (quoted (Text.Utf8.decode program) ++ ": " ++ e.message)
      if e = .notFound && program.any isBlank then Launch.complain name hint
      Launch.stop (Launch.statusOf e)

end Progeny.Shell.Environment

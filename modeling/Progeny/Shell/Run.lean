import Progeny.Shell.Builtin.Jobs
import Progeny.Shell.Builtin.Limits
import Progeny.Shell.Builtin.Places
import Progeny.Shell.Builtin.Variables
import Progeny.Shell.Condition
import Progeny.Shell.Execute
import Progeny.Shell.Lookup
import Progeny.Shell.Printing
import Progeny.Shell.Redirect
import Progeny.Shell.Scan

/-!
# Running scripts

Each command is run by one step that takes the runner of its parts as an argument; `Run.within` ties the
knot.  Commands that are nested too deep, or go round a loop too often, never end.
-/

namespace Progeny.Shell

open Host
open Text (Bytes bytesOf)

/-- How a command is run. -/
structure Mode where
  /-- Its status is looked at by another command. -/
  tested : Bool := false
  /-- Nothing follows it in its process. -/
  last : Bool := false

/-- The runner of the parts of a command, and of the file at a path in the place of a process, which is
given its name and its arguments. -/
structure Runner where
  script : Mode → Script → Act Unit
  program : String → Bytes → List Bytes → Act Unit

namespace Run

variable (run : Runner)

/-! ### Texts and traps -/

/-- Runs the commands of a text, up to an error in it. -/
def text (mode : Mode) (bytes : Bytes) : Act Unit := do
  let s ← get
  go (bytes.length + 2) false { Reader.ofBytes bytes with fresh := s.freshDocument }
where
  go : Nat → Bool → Reader → Act Unit
    | 0, _, _ => return ()
    | fuel + 1, ran, reader => do
      match { reader with aliases := (← get).aliases }.nextLine with
      | .error (line, e) =>
        modify fun s => { s with line := line }
        Session.fail ("Syntax error: " ++ e.message)
      | .ok (script, reader) =>
        modify fun s => { s with
          documents := reader.documents ++ s.documents, freshDocument := reader.fresh }
        let isEmpty := script matches .nothing
        if ! isEmpty then run.script { mode with last := mode.last && reader.atEnd } script
        let ran := ran || ! isEmpty
        if reader.atEnd then
          if ! ran then Session.setStatus 0
        else go fuel ran { reader with documents := [] }

/-- Runs the commands for the signals that were caught. -/
def handleSignals : Act Unit := do
  if (← get).traps.isEmpty then return ()
  go 1000
where
  go : Nat → Act Unit
    | 0 => return ()
    | fuel + 1 => do
      let next ← Act.onMachine fun s m =>
        match (m.slot? s.pid).map (·.pending) with
        | some (n :: rest) => (some n, m.changeSlot s.pid fun slot => { slot with pending := rest })
        | _ => (none, m)
      match next with
      | none => return ()
      | some n =>
        match (← get).traps.lookup n with
        | none => go fuel
        | some commands =>
          let status := (← get).status
          text run {} commands
          Session.setStatus status
          go fuel

/-- Runs commands up to the end of their shell, and then those that are run when it ends. -/
def conclude (body : Act Unit) : Act Unit := do
  try
    body
    handleSignals run
  catch _ => pure ()
  let s ← get
  match s.traps.lookup 0 with
  | none => return ()
  | some commands =>
    set { s with traps := s.traps.filter (·.1 ≠ 0) }
    try
      text run {} commands
      Session.setStatus s.status
    catch
      | .failure | .exit => pure ()
      | _ => Session.setStatus s.status

/-- Runs a command in a process of its own, which is that of a shell. -/
def inProcess (mode : Mode) (script : Script) : Act Unit := do
  modify fun s => { s with jobs := [], traps := s.traps.filter (·.2.isEmpty) }
  conclude run (run.script { mode with last := true } script)

/-- Runs the commands of a substitution. -/
def inside : Expand.Inside := inProcess run {}

/-! ### Programs -/

/-- Tells that a program cannot be run. -/
def tellMissing (name : Bytes) (e : FileError) : Act Unit := do
  let isMissing := e = .notFound || e = .notDirectory
  Session.complain (name ++ bytesOf (if isMissing then ": not found" else ": " ++ e.message))
  Session.setStatus (if isMissing || e = .tooManyLinks then 127 else 126)

/-- The file that a name of a program stands for, in a path of its own or in the search path. -/
def findProgram (path : Option (List String)) (name : Bytes) : Act (Except FileError String) :=
  match path with
  | some path => Lookup.inPath path name
  | none => Lookup.find name

/-- The variables of a shell that was given some. -/
def startVariables (s : Session) (given : List (String × Bytes)) : List (String × Variable) :=
  let imported := (given.filter fun (name, _) => Builtin.isName name).map fun (name, value) =>
    (name, ({ value := some value, exported := true } : Variable))
  let own (name : String) (value : Bytes) : String × Variable := (name, { value := some value })
  let preset := [own "OPTIND" (bytesOf "1"), own "PATH" (bytesOf "/usr/local/sbin:/usr/local/bin:/usr/sbin:/usr/bin:/sbin:/bin"),
    own "PS1" (bytesOf "# "), own "PS2" (bytesOf "> "), own "PS4" (bytesOf "+ ")]
  let fixed := [own "IFS" Atom.Separators.blanks, own "OPTIND" (bytesOf "1"),
    own "PPID" (bytesOf s.parent.repr),
    ("PWD", ({ value := some (bytesOf s.place), exported := true } : Variable))]
  (preset ++ imported ++ fixed).foldl (fun found (name, value) =>
    Session.insertInRow found name value) []

/-- The session of a shell that begins in the process of another one. -/
def fresh (parent : Nat) (s : Session) (name : Bytes) (arguments : List Bytes) : Session :=
  let base : Session := {
    pid := s.pid, shell := s.pid, parent := parent, name := name, arguments := arguments
    directory := s.directory, place := s.place, umask := s.umask, limits := s.limits
    documents := s.documents, freshDocument := s.freshDocument }
  { base with bindings := startVariables base s.environment }

/-- Runs the text of a script as a shell of its own. -/
def asShell (name : Bytes) (arguments : List Bytes) (options : List Char) (bytes : Bytes) : Act Unit := do
  let slot ← Redirect.ownSlot
  modify fun s => { fresh slot.parent s name arguments with options := options }
  conclude run (text run {} bytes)

/-- The options of a shell, its other arguments, and whether the first of those is a script. -/
structure ShellCall where
  options : List Char := []
  isCommand : Bool := false
  isInput : Bool := false
  rest : List Bytes

/-- Reads the options of a shell. -/
def shellCall (args : List Bytes) : Act ShellCall := do
  modify fun s => { s with options := [], line := 0, command := none }
  let call ← go (args.length + 1) { rest := args }
  if call.isInput || (call.rest.isEmpty && ! call.isCommand) then Builtin.setOption true 's'
  if (← get).options.any fun c => c = 'i' || c = 'm' then Builtin.giveUpMonitor
  return { call with options := (← get).options }
where
  go : Nat → ShellCall → Act ShellCall
    | 0, call => return call
    | fuel + 1, call => do
      match call.rest with
      | [] => return call
      | arg :: rest =>
        if arg = [45] || arg = [45, 45] then return { call with rest := rest }
        else match arg with
          | sign :: letters =>
            if sign == 45 || sign == 43 then
              let call ← letters.foldlM (letter (sign == 45)) { call with rest := rest }
              go fuel call
            else return call
          | [] => return call
  /-- Takes one letter into account, of which some are known here alone. -/
  letter (isOn : Bool) (call : ShellCall) (b : UInt8) : Act ShellCall := do
    match Char.ofNat b.toNat with
    | 'c' => return { call with isCommand := true }
    | 's' => return { call with isInput := true }
    | 'l' => return call
    | 'o' =>
      Builtin.setNamed isOn call.rest.head?
      return { call with rest := call.rest.drop 1 }
    | c =>
      Builtin.setLetter isOn c
      return call

/-- Takes all of the input. -/
def takeInput : Nat → Act Bytes
  | 0 => return []
  | fuel + 1 => do
    match ← Session.readable 0 with
    | .bytes bytes _ ended =>
      if ended then
        Session.consume 0 bytes.length
        return bytes
      else
        Session.awaitMore 0 bytes.length
        takeInput fuel
    | _ => return []

/-- Runs the file at a path as a script. -/
def scriptFile (name : Bytes) (arguments : List Bytes) (options : List Char) : Act Unit := do
  let s ← get
  let m ← Act.machine
  match m.files.read s.directory (Text.Utf8.decode name) with
  | .ok content => asShell run name arguments options content
  | .error .isDirectory => asShell run name arguments options []
  | .error e =>
    Session.failWith (bytesOf "cannot open " ++ name ++ bytesOf (": " ++ Redirect.reason false e))

/-- Runs a shell in the place of the process. -/
def shell (name : Bytes) (args : List Bytes) : Act Unit := do
  modify fun s => { s with name := name }
  let call ← shellCall args
  if call.isCommand then
    match call.rest with
    | [] => Session.fail "-c requires an argument"
    | script :: names => asShell run (names.headD name) (names.drop 1) call.options script
  else match call.rest with
    | first :: rest =>
      if call.isInput then asShell run name call.rest call.options (← takeInput 100000)
      else scriptFile run first rest call.options
    | [] => asShell run name [] call.options (← takeInput 100000)

/-- Runs a program in a process of its own, and waits for it; or in the place of the process, if nothing
follows in that. -/
def external (mode : Mode) (path : Option (List String)) (name : Bytes) (args : List Bytes) : Act Unit := do
  match ← findProgram path name with
  | .error e =>
    tellMissing name e
    if ! (← Lookup.isThere (path.getD (Execute.searchPath (← get))) name) then Session.setStatus 127
  | .ok place =>
    if mode.last && (← get).traps.all (·.2.isEmpty) then
      run.program place name args
      Act.exit
    else Session.awaitForeground (← Session.forkForeground id (run.program place name args))

/-! ### Commands of the shell itself -/

/-- The commands whose errors end the shell, and before which assignments last. -/
def special : List String := Scan.reserved ++ ["local"]

/-- The other commands of the shell. -/
def ordinary : List String :=
  ["[", "alias", "bg", "cd", "command", "echo", "false", "fg", "getopts", "hash", "jobs", "kill",
   "printf", "pwd", "read", "test", "true", "type", "ulimit", "umask", "unalias", "wait"]

/-- The commands whose arguments may be assignments. -/
def assigners : List String := ["alias", "export", "local", "readonly"]

/-- Whether there is a command of the shell of a name. -/
def isBuiltin (name : String) : Bool := special.contains name || ordinary.contains name

/-- How a name of a command is told. -/
def meaning (brief : Bool) (path : Option (List String)) (arg : Bytes) : Act (Option Bytes) := do
  let s ← get
  let name := Text.Utf8.decode arg
  let told (text : String) : Option Bytes := some (if brief then arg else arg ++ bytesOf text)
  let placed (place verb : String) : Option Bytes :=
    some (if brief then bytesOf place else arg ++ bytesOf (verb ++ place))
  if Scan.keywords.contains name then return told " is a shell keyword"
  match s.aliases.lookup name with
  | some value =>
    return some (if brief then bytesOf ("alias " ++ name ++ "=") ++ Builtin.quoted value
      else arg ++ bytesOf " is an alias for " ++ value)
  | none =>
    if special.contains name then return told " is a special shell builtin"
    else if (s.functions.lookup name).isSome then return told " is a shell function"
    else if ordinary.contains name then return told " is a shell builtin"
    else match ← if path.isNone then Lookup.known? name else pure none with
    | some place => return placed place " is a tracked alias for "
    | none =>
      match ← findProgram path arg with
      | .ok place => return placed place " is "
      | .error _ =>
        let isThere := Lookup.isPath name &&
          ((← Act.machine).files.find s.directory name true).toOption.isSome
        return if isThere then (if brief then some arg else some (arg ++ bytesOf " is " ++ arg)) else none

/-- Tells what names of commands stand for. -/
def tellMeanings : List Bytes → Act Unit
  | [] => return ()
  | arg :: rest => do
    match ← meaning false none arg with
    | some told => Session.say (told ++ [lineFeed])
    | none =>
      Session.say (arg ++ bytesOf ": not found\n")
      Session.setStatus 127
    tellMeanings rest

/-- Remembers where programs are, or tells it. -/
def hash (args : List Bytes) : Act Unit := do
  let (found, names) ← Builtin.parse "r" args
  Session.setStatus 0
  if ! found.isEmpty then Session.forgetPrograms
  else if names.isEmpty then Builtin.forEach Session.sayLine (Lookup.listing (← get))
  else Builtin.forEach (fun arg => do
    let name := Text.Utf8.decode arg
    Lookup.forget name
    if ! isBuiltin name && ((← get).functions.lookup name).isNone then
      match ← Lookup.find arg with
      | .ok _ => pure ()
      | .error _ =>
        Session.complain (arg ++ bytesOf ": not found")
        Session.setStatus 1) names

/-- Gives meanings to names of commands, or tells them. -/
def setAliases (args : List Bytes) : Act Unit := do
  Session.setStatus 0
  let tell (name : String) (value : Bytes) : Act Unit :=
    Session.say (bytesOf (name ++ "=") ++ Builtin.quoted value ++ [lineFeed])
  if args.isEmpty then
    Builtin.forEach (fun (name, value) => tell name value) (← get).aliases
  else Builtin.forEach (fun arg => do
    match Builtin.binding arg with
    | (name, some value) =>
      modify fun s => { s with aliases := Session.insertInRow s.aliases name value }
    | (name, none) =>
      match (← get).aliases.lookup name with
      | some value => tell name value
      | none =>
        Session.print 2 (bytesOf ("alias: " ++ name ++ " not found\n"))
        Session.setStatus 1) args

/-- Takes meanings away from names of commands. -/
def unsetAliases (args : List Bytes) : Act Unit := do
  let (found, names) ← Builtin.parse "a" args
  Session.setStatus 0
  if ! found.isEmpty then modify fun s => { s with aliases := [] }
  Builtin.forEach (fun arg => do
    let name := Text.Utf8.decode arg
    if ((← get).aliases.lookup name).isNone then
      Session.print 2 (bytesOf ("unalias: " ++ name ++ " not found\n"))
      Session.setStatus 1
    modify fun s => { s with aliases := s.aliases.filter (·.1 ≠ name) }) names

/-- Leaves a shell or a function with a number, if one is given. -/
def leaveWith (args : List Bytes) (leave : Leave) : Act Unit := do
  match args with
  | [] => pure ()
  | arg :: _ => Session.setStatus (← Builtin.number arg)
  throw leave

/-- Leaves loops, or goes on with their next round. -/
def leaveLoops (args : List Bytes) (leave : Nat → Leave) : Act Unit := do
  let n ← match args with
    | [] => pure 1
    | arg :: _ => do
      let n ← Builtin.number arg
      if n = 0 then Session.failWith (bytesOf "Illegal number: " ++ arg)
      pure n
  Session.setStatus 0
  let loops := (← get).loops
  if loops ≠ 0 then throw (leave (min n loops))

/-- Runs the commands in a file. -/
def file (args : List Bytes) : Act Unit := do
  match args with
  | [] => Session.setStatus 0
  | arg :: _ =>
    let s ← get
    let m ← Act.machine
    let name := Text.Utf8.decode arg
    let candidates := if Lookup.isPath name then [name]
      else (Execute.searchPath s).map (Execute.within · name)
    let found := candidates.findSome? fun candidate =>
      match m.files.read s.directory candidate with
      | .ok content => some (candidate, content)
      | .error .isDirectory => if Lookup.isPath name then some (candidate, []) else none
      | .error _ => none
    match found with
    | some (candidate, content) =>
      modify fun s => { s with command := some candidate }
      try text run {} content
      catch
        | .leaveFunction => pure ()
        | other => throw other
    | none =>
      if Lookup.isPath name then
        Session.failWith (bytesOf "cannot open " ++ arg ++ bytesOf ": No such file")
      else Session.failWith (arg ++ bytesOf ": not found")

/-- Prints by a format. -/
def printFormatted (args : List Bytes) : Act Unit := do
  let (_, operands) ← Builtin.parse "" args
  match operands with
  | [] => Session.fail "usage: printf format [arg ...]"
  | format :: args =>
    let printed := Printing.formatted format args
    Builtin.forEach Session.complain printed.warnings
    match printed.error with
    | some e =>
      Session.complain e
      Session.say printed.output
      Session.setStatus 2
      throw .failure
    | none =>
      Session.say printed.output
      Session.setStatus (if printed.warnings.isEmpty then 0 else 1)

/-- Looks whether a condition holds. -/
def testCondition (args : List Bytes) : Act Unit := do
  let s ← get
  let m ← Act.machine
  match Condition.evaluate ⟨m.files, s.directory⟩ args with
  | .ok holds => Session.setStatus (if holds then 0 else 1)
  | .error e => Session.failWith e

/-- Runs a command of the shell. -/
def builtin (mode : Mode) (name : String) (args : List Bytes) : Act Unit := do
  match name with
  | ":" | "true" => Session.setStatus 0
  | "false" => Session.setStatus 1
  | "." => file run args
  | "[" =>
    if args.getLast? = some [93] then testCondition args.dropLast else Session.fail "missing ]"
  | "alias" => setAliases args
  | "bg" | "fg" => Builtin.controlJob args
  | "break" => leaveLoops args .stopLoop
  | "cd" => Builtin.changeDirectory args
  | "continue" => leaveLoops args .nextRound
  | "echo" =>
    Session.say (Printing.plain args)
    Session.setStatus 0
  | "eval" => text run mode ([32].intercalate args)
  | "exit" => leaveWith args .exit
  | "export" => Builtin.exportVariables args
  | "getopts" => Builtin.nextOption args
  | "hash" => hash args
  | "jobs" => Builtin.tellJobs args
  | "kill" => Builtin.kill args
  | "local" => Builtin.makeLocal args
  | "printf" => printFormatted args
  | "pwd" => Builtin.tellDirectory args
  | "read" => Builtin.readLine args
  | "readonly" => Builtin.protectVariables args
  | "return" => leaveWith args .leaveFunction
  | "set" => Builtin.setAll args
  | "shift" => Builtin.shift args
  | "test" => testCondition args
  | "times" =>
    Session.say (line "0m0.000000s 0m0.000000s" ++ line "0m0.000000s 0m0.000000s")
    Session.setStatus 0
  | "trap" => Builtin.setTraps args
  | "type" =>
    Session.setStatus 0
    tellMeanings args
  | "ulimit" => Builtin.limit args
  | "umask" => Builtin.changeMask args
  | "unalias" => unsetAliases args
  | "unset" => Builtin.unset args
  | "wait" => Builtin.waitFor args
  | _ => Session.setStatus 0

/-- The time that a command of the shell takes. -/
def builtinTime : Nat := 4

/-- Runs something in the name of a command of the shell.  An error ends the shell only if the command
is a special one. -/
def inName (name : String) (isSpecial : Bool) (body : Act Unit) : Act Unit := do
  let outer := (← get).command
  modify fun s => { s with command := some name, outputFailed := false }
  Act.pause builtinTime
  let body : Act Unit := do
    body
    if (← get).outputFailed then
      Session.complain (bytesOf (name ++ ": I/O error"))
      modify fun s => { s with status := s.status ||| 1, outputFailed := false }
  Act.afterwards
    (try body
      catch
        | .failure => if isSpecial then throw .failure
        | other => throw other)
    (modify fun s => { s with command := outer })

/-- Runs a program in the place of the shell. -/
def replace (args : List Bytes) : Act Unit := do
  match args with
  | [] => Session.setStatus 0
  | name :: args =>
    match ← Lookup.inPath (Execute.searchPath (← get)) name with
    | .ok place =>
      run.program place name args
      Act.exit
    | .error e =>
      tellMissing name e
      throw .exit

/-- Puts variables back that a function has kept. -/
def restore (kept : List (String × Option Variable)) : Act Unit := do
  if kept.any (·.1 = "PATH") then Session.forgetPrograms
  Builtin.forEach (fun (name, found) => Session.putVariable name found) kept

/-- Runs a function with arguments of its own. -/
def callFunction (body : Script) (mode : Mode) (args : List Bytes) : Act Unit := do
  let outer ← get
  modify fun s => { s with
    arguments := args, locals := some [], loops := 0, optionIndex := 1, optionOffset := none }
  Act.afterwards
    (try run.script { tested := mode.tested } body
      catch
        | .leaveFunction => pure ()
        | other => throw other) do
    restore ((← get).locals.getD [])
    modify fun s => { s with
      arguments := outer.arguments, locals := outer.locals, loops := outer.loops
      optionIndex := outer.optionIndex, optionOffset := outer.optionOffset }

/-! ### Simple commands -/

/-- What a command is, by its words. -/
inductive Kind where
  | nothing
  | special
  | ordinary
  | function (body : Script)
  | program

/-- What the first word of a command says that it is, behind the words that only say how it is looked
for: those left, whether errors do not end the shell, and the path that it is looked for in. -/
structure Call where
  kind : Kind
  words : List Bytes
  soft : Bool := false
  path : Option (List String) := none

/-- The path that programs are looked for in if no other is wanted. -/
def defaultPath : List String :=
  ["/usr/local/sbin", "/usr/local/bin", "/usr/sbin", "/usr/bin", "/sbin", "/bin"]

/-- What some words call. -/
def callOf (s : Session) : (fuel : Nat) → Call → Call
  | 0, call => call
  | _, { words := [], .. } => { kind := .nothing, words := [] }
  | fuel + 1, call =>
    let first := call.words.headD []
    let name := Text.Utf8.decode first
    if special.contains name then { call with kind := if call.soft then .ordinary else .special }
    else match if call.soft then none else s.functions.lookup name with
      | some body => { call with kind := .function body }
      | none =>
        if name = "command" then
          match call.words.drop 1 with
          | [45, 112] :: rest =>
            if rest.isEmpty then { call with kind := .ordinary }
            else callOf s fuel { call with words := rest, soft := true, path := some defaultPath }
          | [45, 45] :: rest =>
            if rest.isEmpty then { call with kind := .ordinary }
            else callOf s fuel { call with words := rest, soft := true }
          | (45 :: _ :: _) :: _ | [] => { call with kind := .ordinary }
          | rest => callOf s fuel { call with words := rest, soft := true }
        else if ordinary.contains name then { call with kind := .ordinary }
        else { call with kind := .program }

/-- Tells what a name stands for, as an option of the command that runs commands. -/
def describe (args : List Bytes) : Act Unit := do
  let (found, names) ← Builtin.parse "pvV" args
  let path := if found.any (·.1 = 'p') then some defaultPath else none
  Session.setStatus 0
  match names with
  | [] => return ()
  | name :: _ =>
    let brief := found.any (·.1 = 'v')
    match ← meaning brief path name with
    | some told => Session.say (told ++ [lineFeed])
    | none =>
      if ! brief then Session.say (name ++ bytesOf ": not found\n")
      Session.setStatus 127

/-- Shows a command before it is run, if that was asked for. -/
def trace (target : Option Target) (assigned : List (String × Bytes)) (words : List Bytes) : Act Unit := do
  let s ← get
  if s.options.contains 'x' then
    set { s with options := s.options.filter (· ≠ 'x') }
    let sign := (s.parameter? "PS4").getD []
    let cs := sign.map Scan.charOf
    let start ← match (Scan.region ⟨Scan.fail, Scan.fail⟩ .document).run { left := cs } with
      | .ok (word, _) => Expand.single (inside run) { tildes := false } word
      | .error _ => pure sign
    modify fun now => { now with options := s.options }
    let shown := assigned.map (fun (name, value) => bytesOf (name ++ "=") ++ value) ++ words
    Redirect.printOn target (start ++ [32].intercalate shown ++ [lineFeed])

/-- Expands the words of a command.  Behind the name of a command that assigns, assignments are not
split. -/
def expandWords : (words : List (List Piece)) → (sofar : List Bytes) → Act (List Bytes)
  | [], sofar => return sofar
  | word :: rest, sofar => do
    let s ← get
    let call := callOf s 20 { kind := .nothing, words := sofar }
    let assigns := match call.kind with
      | .special | .ordinary => assigners.contains (Text.Utf8.decode (call.words.headD []))
      | _ => false
    match if assigns then Scan.assignment? word else none with
    | some (name, value) =>
      let value ← Expand.single (inside run) { assignment := true } value
      expandWords rest (sofar ++ [bytesOf (name ++ "=") ++ value])
    | none =>
      let found ← Expand.fields (inside run) word
      expandWords rest (sofar ++ found)

/-- Assigns the values of words to variables; with `kept` they are given to programs, and are put back
afterwards. -/
def assignAll (kept : Bool) : List (String × List Piece) → Act (List (String × Bytes))
  | [] => return []
  | (name, word) :: rest => do
    let value ← Expand.single (inside run) { assignment := true } word
    if kept then Builtin.keep name
    Session.assign name value
    if kept then
      let s ← get
      Session.putVariable name (some { s.variableOf name with exported := true })
    return (name, value) :: (← assignAll kept rest)

/-- Runs something behind which the variables that were kept are put back. -/
def keeping (body : Act Unit) : Act Unit := do
  let outer := (← get).locals
  modify fun s => { s with locals := some [] }
  Act.afterwards body do
    restore ((← get).locals.getD [])
    modify fun s => { s with locals := outer }

/-- Runs what some words call. -/
def dispatch (mode : Mode) (call : Call) : Act Unit := do
  let name := call.words.headD []
  let text := Text.Utf8.decode name
  let args := call.words.drop 1
  match call.kind with
  | .nothing =>
    let s ← get
    Session.setStatus (s.substituted.getD 0)
  | .function body => callFunction run body mode args
  | .special =>
    inName text true (if text = "exec" then replace run args else builtin run mode text args)
  | .ordinary =>
    inName text false (if text = "command" then describe args
      else if text = "exec" then replace run args
      else builtin run mode text args)
  | .program => external run mode call.path name args

/-- Runs a simple command.  Before a special command, or without one, its assignments last. -/
def simple (mode : Mode) (line : Nat) (assignments : List (String × List Piece))
    (words : List (List Piece)) (rs : List Redirection) : Act Unit := do
  modify fun s => { s with line := line, substituted := none }
  let found ← expandWords run words []
  let call := callOf (← get) 20 { kind := .nothing, words := found }
  let ready ← Redirect.expand (inside run) rs
  let lasts := match call.kind with
    | .nothing | .special => true
    | _ => false
  let isSpecial := (call.kind matches .special)
  let refused : Act Unit := do if isSpecial then throw .failure
  let body (target : Option Target) : Act Unit := do
    if lasts then
      let assigned ← assignAll run false assignments
      trace run target assigned found
      dispatch run mode call
    else if assignments.isEmpty then
      trace run target [] found
      dispatch run mode call
    else keeping do
      let assigned ← assignAll run true assignments
      trace run target assigned found
      dispatch run mode call
  if call.words.head? = some (bytesOf "exec") && ! (call.kind matches .function _) then
    let target := (← Redirect.ownSlot).descriptors.lookup 2
    if ← Redirect.attempt ready then body target else refused
  else Redirect.under ready refused body

/-! ### Steps -/

/-- Runs the body of a loop once; the result says whether the loop goes on. -/
def oneRound (body : Act Unit) : Act Bool := do
  try
    body
    return true
  catch
    | .stopLoop n => if n ≤ 1 then return false else throw (.stopLoop (n - 1))
    | .nextRound n => if n ≤ 1 then return true else throw (.nextRound (n - 1))
    | other => throw other

/-- Runs a loop on a condition; `last` is the status of the last round. -/
def loop (whileTrue : Bool) (condition body : Act Unit) : (rounds last : Nat) → Act Unit
  | 0, _ => Act.hang
  | rounds + 1, last => do
    let goesOn ← oneRound condition
    if ! goesOn then return ()
    if ((← get).status == 0) == whileTrue then
      if ← oneRound body then loop whileTrue condition body rounds (← get).status
    else Session.setStatus last

/-- Runs a loop on words. -/
def each (name : String) (body : Act Unit) : List Bytes → Act Unit
  | [] => return ()
  | value :: rest => do
    Session.assign name value
    if ← oneRound body then each name body rest

/-- Runs something as the body of a loop. -/
def inLoop (body : Act Unit) : Act Unit := do
  modify fun s => { s with loops := s.loops + 1 }
  Act.afterwards body (modify fun s => { s with loops := s.loops - 1 })

/-- The arm of a selection that a text falls into. -/
def arm? (subject : Bytes) : List (List (List Piece) × Script) → Act (Option Script)
  | [] => return none
  | (patterns, script) :: rest => do
    if ← anyMatches patterns then return some script else arm? subject rest
where
  anyMatches : List (List Piece) → Act Bool
    | [] => return false
    | pattern :: more => do
      let octets ← Expand.octets (inside run) {} pattern
      if Pattern.accepts (Pattern.items octets) subject then return true else anyMatches more

/-- The commands of a pipeline. -/
def pipeline : Script → List Script
  | .pipe left right => left :: pipeline right
  | script => [script]

/-- Looks up the program that a command of a pipeline is, if its name needs no expansion. -/
def lookUpAhead (script : Script) : Act Unit := do
  match script with
  | .simple _ _ ([.text false word] :: _) _ =>
    let name := Text.Utf8.decode word
    let isKnown := isBuiltin name || ((← get).functions.lookup name).isSome
    if Builtin.isName name && ! isKnown then let _ ← Lookup.find word
  | _ => return ()

/-- What a process in the background is given in the place of what the shell has: it does not end at the
signals of a terminal, and the first process of a job has nothing to read. -/
def inBackground (isFirst : Bool) (slot : Slot) : Slot :=
  { slot with
    ignored := Signal.interrupt :: Signal.quit :: slot.ignored
    descriptors :=
      if isFirst then (0, .null) :: slot.descriptors.filter (·.1 ≠ 0) else slot.descriptors }

/-- Begins the processes of a pipeline, the first of which reads from `source` if there is one. -/
def beginPipeline (mode : Mode) (isBackground : Bool) : (source : Option Nat) → List Script → Act (List Nat)
  | _, [] => return []
  | source, script :: rest => do
    lookUpAhead script
    let target ← if rest.isEmpty then pure none else Act.onMachine fun _ m =>
      let (m, id) := m.newPipe
      (some id, m)
    let prepare (slot : Slot) : Slot :=
      let slot := if isBackground then inBackground source.isNone slot else slot
      let kept := slot.descriptors.filter fun (n, _) =>
        ! (n = 0 && source.isSome) && ! (n = 1 && target.isSome)
      { slot with descriptors :=
          (source.map fun id => (0, Target.pipe id false)).toList ++
            (target.map fun id => (1, Target.pipe id true)).toList ++ kept }
    let pid ← Act.fork prepare (inProcess run { tested := mode.tested } script)
    return pid :: (← beginPipeline mode isBackground target rest)

/-- Waits for the processes of a pipeline; the last of them has the status. -/
def awaitAll : List Nat → Act Unit
  | [] => return ()
  | pid :: rest => do
    Session.awaitForeground pid
    awaitAll rest

/-- Runs a command in the background. -/
def background (script : Script) : Act Unit := do
  let number ← Session.takeNumber
  let pids ← match script with
    | .pipe .. => beginPipeline run {} true none (pipeline script)
    | _ => pure [← Act.fork (inBackground true) (inProcess run {} script)]
  let job : Job := { number := number, pids := pids }
  modify fun s => { s with jobs := job :: s.jobs, lastJob := some job.pid }
  Session.setStatus 0

/-- More rounds than any loop is taken to have that ends. -/
def maxRounds : Nat := 1000000

/-- Ends the shell after a command that failed, if that was asked for and nobody looks at its status. -/
def decisive (mode : Mode) (body : Act Unit) : Act Unit := do
  body
  handleSignals run
  let s ← get
  if s.options.contains 'e' && ! mode.tested && s.status ≠ 0 then throw .exit

/-- Runs a command under redirections, its parts being run by `run`. -/
def grouped (line : Nat) (rs : List Redirection) (body : Act Unit) : Act Unit := do
  modify fun s => { s with line := line }
  let ready ← Redirect.expand (inside run) rs
  Redirect.under ready (pure ()) fun _ => body

/-- Runs a command, its parts being run by `run`. -/
def step (mode : Mode) (script : Script) : Act Unit := do
  let inner : Mode := { tested := mode.tested }
  if (← get).options.contains 'n' then return ()
  match script with
  | .nothing => return ()
  | .simple line assignments words rs =>
    decisive run mode (simple run mode line assignments words rs)
  | .pipe .. => decisive run mode do
    let _ ← Session.takeNumber
    let pids ← beginPipeline run mode false none (pipeline script)
    awaitAll pids
  | .negate script => do
    run.script { tested := true } script
    Session.setStatus (if (← get).status = 0 then 1 else 0)
  | .both left right => do
    run.script { tested := true } left
    if (← get).status = 0 then run.script mode right
  | .either left right => do
    run.script { tested := true } left
    if (← get).status ≠ 0 then run.script mode right
  | .sequence left right => do
    run.script inner left
    run.script mode right
  | .background script => background run script
  | .group line script rs => grouped run line rs (run.script inner script)
  | .subshell line script rs =>
    decisive run mode do
      let body : Act Unit := inProcess run inner script
      grouped run line rs do Session.awaitForeground (← Session.forkForeground id body)
  | .choose condition yes no => do
    run.script { tested := true } condition
    if (← get).status = 0 then run.script mode yes
    else
      Session.setStatus 0
      run.script mode no
  | .loop whileTrue condition body =>
    inLoop (loop whileTrue (run.script { tested := true } condition) (run.script inner body) maxRounds 0)
  | .each line name words body => do
    modify fun s => { s with line := line }
    let values ← match words with
      | some words => Expand.allFields (inside run) words
      | none => pure (← get).arguments
    Session.setStatus 0
    inLoop (each name (run.script inner body) values)
  | .select line word arms => do
    modify fun s => { s with line := line }
    let subject ← Expand.single (inside run) {} word
    match ← arm? run subject arms with
    | some .nothing | none => Session.setStatus 0
    | some script => run.script mode script
  | .define _ name body => do
    Lookup.forget name
    modify fun s => { s with functions := (name, body) :: s.functions.filter (·.1 ≠ name) }
    Session.setStatus 0

end Run

end Progeny.Shell

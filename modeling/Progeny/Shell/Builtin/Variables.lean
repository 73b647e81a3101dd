import Progeny.Shell.Builtin.Arguments

/-!
# Variables, arguments and options

The commands that give values and qualities to variables, read lines into them, go through options, and
change the arguments and the options of the shell.
-/

namespace Progeny.Shell.Builtin

open Host
open Text (Bytes bytesOf)

/-- The variables, sorted by their names. -/
def sortedVariables (s : Session) : List (String × Variable) :=
  s.bindings.mergeSort fun a b => noLater (bytesOf a.1) (bytesOf b.1)

/-- A name with its value, if it has one. -/
def shown (name : String) (value : Option Bytes) : Bytes :=
  bytesOf name ++ match value with
    | some value => [61] ++ quoted value
    | none => []

/-- Shows variables behind a word. -/
def showVariables (word : String) (chosen : Variable → Bool) : Act Unit := do
  let s ← get
  let lines := (sortedVariables s).filterMap fun (name, found) =>
    if chosen found then some (bytesOf word ++ shown name found.value ++ [lineFeed]) else none
  Session.say lines.flatten

/-- Gives a quality to variables, and values as far as there are any. -/
def mark (word : String) (quality : Variable → Variable) (chosen : Variable → Bool) (args : List Bytes) :
    Act Unit := do
  let (found, names) ← parse "p" args
  if ! found.isEmpty || names.isEmpty then showVariables (word ++ " ") chosen
  else forEach one names
  Session.setStatus 0
where
  one (arg : Bytes) : Act Unit := do
    let (name, value) := binding arg
    requireName name
    match value with
    | some value => Session.assign name value
    | none => pure ()
    let s ← get
    Session.putVariable name (some (quality (s.variableOf name)))

/-- Gives variables to programs. -/
def exportVariables : List Bytes → Act Unit :=
  mark "export" (fun found => { found with exported := true }) (·.exported)

/-- Protects variables. -/
def protectVariables : List Bytes → Act Unit :=
  mark "readonly" (fun found => { found with readOnly := true }) (·.readOnly)

/-- Keeps what a variable is, so that it is the same again behind the function that is running. -/
def keep (name : String) : Act Unit := do
  let s ← get
  match s.locals with
  | some kept => set { s with locals := some ((name, s.bindings.lookup name) :: kept) }
  | none => return ()

/-- Makes variables those of the function that is running. -/
def makeLocal (args : List Bytes) : Act Unit := do
  if (← get).locals.isNone then Session.fail "not in a function"
  forEach one args
  Session.setStatus 0
where
  one (arg : Bytes) : Act Unit := do
    let (name, value) := binding arg
    requireName name
    keep name
    match value with
    | some value => Session.assign name value
    | none => return ()

/-- Takes variables or functions away. -/
def unset (args : List Bytes) : Act Unit := do
  let (found, names) ← parse "vf" args
  let functions := found.getLast?.any (·.1 = 'f')
  forEach (one functions) names
  Session.setStatus 0
where
  one (functions : Bool) (arg : Bytes) : Act Unit := do
    let name := Text.Utf8.decode arg
    if functions then modify fun s => { s with functions := s.functions.filter (·.1 != name) }
    else
      requireName name
      if ((← get).variableOf name).readOnly then Session.fail (name ++ ": is read only")
      Session.putVariable name none
      if name = "PATH" then Session.forgetPrograms

/-- Drops the first arguments. -/
def shift (args : List Bytes) : Act Unit := do
  let n ← match args with
    | [] => pure 1
    | arg :: _ => number arg
  let s ← get
  if s.arguments.length < n then Session.fail "can't shift that many"
  set { s with arguments := s.arguments.drop n, optionIndex := 1, optionOffset := none }
  Session.setStatus 0

/-! ### Options of the shell -/

/-- The names of the options, with their letters as far as they have any. -/
def optionNames : List (String × Option Char) :=
  [("errexit", some 'e'), ("noglob", some 'f'), ("ignoreeof", some 'I'), ("interactive", some 'i'),
   ("monitor", some 'm'), ("noexec", some 'n'), ("stdin", some 's'), ("xtrace", some 'x'),
   ("verbose", some 'v'), ("vi", some 'V'), ("emacs", some 'E'), ("noclobber", some 'C'),
   ("allexport", some 'a'), ("notify", some 'b'), ("nounset", some 'u'), ("privileged", some 'p'),
   ("nolog", none), ("debug", none)]

/-- Turns an option on or off.  Of the two editors no more than one is on. -/
def setOption (on : Bool) (letter : Char) : Act Unit := modify fun s =>
  let isReplaced (other : Char) : Bool := on && ((letter = 'E' && other = 'V') || (letter = 'V' && other = 'E'))
  let others := s.options.filter fun other => other ≠ letter && ! isReplaced other
  { s with options := if on then letter :: others else others }

/-- Turns an option on or off by its letter. -/
def setLetter (on : Bool) (letter : Char) : Act Unit := do
  if optionNames.any (·.2 = some letter) then setOption on letter
  else Session.fail ("Illegal option " ++ (if on then "-" else "-") ++ letter.toString)

/-- Turns an option on or off by its name, or shows all options. -/
def setNamed (on : Bool) (name : Option Bytes) : Act Unit := do
  match name with
  | some name =>
    match optionNames.lookup (Text.Utf8.decode name) with
    | some (some letter) => setOption on letter
    | some none => return ()
    | none => Session.failWith (bytesOf "Illegal option -o " ++ name)
  | none =>
    let s ← get
    let isOn (letter : Option Char) : Bool := letter.any s.options.contains
    let lines := optionNames.map fun (name, letter) =>
      if on then
        line (name ++ String.ofList (List.replicate (16 - name.length) ' ') ++
          if isOn letter then "on" else "off")
      else line ((if isOn letter then "set -o " else "set +o ") ++ name)
    Session.say ((if on then line "Current option settings" else []) ++ lines.flatten)

/-- Turns options on or off.  The result is what follows them, and whether two dashes ended them. -/
def readOptions : (fuel : Nat) → List Bytes → Act (List Bytes × Bool)
  | 0, args => return (args, false)
  | _, [] => return ([], false)
  | fuel + 1, arg :: rest =>
    match arg with
    | [45] => do
      setOption false 'x'
      setOption false 'v'
      return (rest, false)
    | [45, 45] => return (rest, true)
    | b :: letters =>
      if b == 45 || b == 43 then do
        let rest ← letters.foldlM (fun (rest : List Bytes) (c : UInt8) => do
          if c == 111 then
            setNamed (b == 45) rest.head?
            return rest.drop 1
          else
            setLetter (b == 45) (Char.ofNat c.toNat)
            return rest) rest
        readOptions fuel rest
      else return (arg :: rest, false)
    | [] => return (arg :: rest, false)

/-- Gives up the control of jobs, for which there is no terminal. -/
def giveUpMonitor : Act Unit := do
  Session.complain (bytesOf "can't access tty; job control turned off")
  setOption false 'm'

/-- Turns options on or off and sets the arguments, or shows all variables. -/
def setAll (args : List Bytes) : Act Unit := do
  if args.isEmpty then showVariables "" (·.value.isSome)
  else
    let (rest, ended) ← readOptions (args.length + 1) args
    if (← get).options.contains 'm' then giveUpMonitor
    if ended || ! rest.isEmpty then
      modify fun s => { s with arguments := rest, optionIndex := 1, optionOffset := none }
  Session.setStatus 0

/-! ### Lines -/

/-- The octets of a line, and whether each of them may end a field, up to the line feed; with them
comes how many octets were looked at, or none if the line is not complete. -/
def lineOf (raw : Bool) : (escaped : Bool) → Bytes → List (UInt8 × Bool) × Option Nat
  | _, [] => ([], none)
  | true, b :: rest =>
    let (found, n) := lineOf raw false rest
    (if b == lineFeed then found else (b, false) :: found, n.map (· + 1))
  | false, b :: rest =>
    if b == lineFeed then ([], some 1)
    else
      let starts := ! raw && b == 92
      let (found, n) := lineOf raw starts rest
      (if starts || b == 0 then found else (b, true) :: found, n.map (· + 1))

/-- The last field, which is what is left, without the blanks at its end, and without a separator there
if it is the only one. -/
def lastField (s : Atom.Separators) (octets : List (UInt8 × Bool)) : Bytes :=
  let ends (o : UInt8 × Bool) : Bool := o.2 && s.has o.1
  let blank (o : UInt8 × Bool) : Bool := o.2 && s.isBlank o.1
  let text := octets.takeWhile (! ends ·)
  let rest := octets.drop text.length
  let alone := match rest.dropWhile blank with
    | [] => true
    | o :: more => ends o && (more.all blank)
  let kept := if alone then text else (octets.reverse.dropWhile blank).reverse
  kept.map (·.1)

/-- Splits a line into so many fields, the last of which takes what is left. -/
def lineFields (s : Atom.Separators) : (count : Nat) → List (UInt8 × Bool) → List Bytes
  | 0, _ => []
  | count + 1, octets =>
    let ends (o : UInt8 × Bool) : Bool := o.2 && s.has o.1
    let blank (o : UInt8 × Bool) : Bool := o.2 && s.isBlank o.1
    let octets := octets.dropWhile blank
    if count = 0 then [lastField s octets]
    else
      let field := octets.takeWhile (! ends ·)
      let rest := match octets.drop field.length with
        | [] => []
        | o :: more =>
          if blank o then
            match more.dropWhile blank with
            | [] => []
            | next :: after => if ends next then after.dropWhile blank else next :: after
          else more
      field.map (·.1) :: lineFields s count rest

/-- Takes a line from the input, as far as it comes. -/
def takeLine (raw : Bool) : (fuel : Nat) → Act (List (UInt8 × Bool) × Bool)
  | 0 => Act.hang
  | fuel + 1 => do
    match ← Session.readable 0 with
    | .bytes bytes _ ended =>
      match lineOf raw false bytes with
      | (found, some n) =>
        Session.consume 0 n
        return (found, true)
      | (found, none) =>
        if ended then
          Session.consume 0 bytes.length
          return (found, false)
        else
          Session.awaitMore 0 bytes.length
          takeLine raw fuel
    | _ => return ([], false)

/-- Reads a line into variables. -/
def readLine (args : List Bytes) : Act Unit := do
  let (found, names) ← parse "p:r" args
  if names.isEmpty then Session.fail "arg count"
  let (octets, complete) ← takeLine (found.any (·.1 = 'r')) 100000
  let s ← get
  let values := lineFields s.separators names.length octets
  forEach (fun (arg, value) => do
    let name := Text.Utf8.decode arg
    requireName name
    Session.assign name value) (names.zip values)
  Session.setStatus (if complete then 0 else 1)

/-! ### Options of scripts -/

/-- Goes on to the next option among some arguments. -/
def nextOption (args : List Bytes) : Act Unit := do
  match args with
  | letters :: name :: rest =>
    let s ← get
    let operands := if rest.isEmpty then s.arguments else rest
    let index := if operands.length + 1 < s.optionIndex then 1 else s.optionIndex
    let offset := if operands.length + 1 < s.optionIndex then none else s.optionOffset
    let current := (operands[index - 2]?).getD []
    let inside := match offset with
      | some n => if index ≤ 1 || current.length < n then [] else current.drop n
      | none => []
    let letter? : Option (UInt8 × Bytes × Nat) :=
      match inside with
      | c :: more => some (c, more, index)
      | [] => match operands[index - 1]? with
        | some (45 :: c :: more) => if c == 45 && more.isEmpty then none else some (c, more, index + 1)
        | _ => none
    match letter? with
    | none =>
      let passed := inside.isEmpty && operands[index - 1]? = some [45, 45]
      finish name 63 (if passed then index + 1 else index) none
      Session.setStatus 1
    | some (c, more, index) =>
      let silent := letters.head? = some 58
      let place := (if more.isEmpty then none else some (current' operands index - more.length) : Option Nat)
      match letters.dropWhile (· != c) with
      | [] =>
        if silent then Session.assign "OPTARG" [c]
        else
          Session.print 2 (bytesOf "Illegal option -" ++ [c, lineFeed])
          Session.putVariable "OPTARG" none
        finish name 63 index place
      | _ :: 58 :: _ =>
        match more, operands[index - 1]? with
        | [], none =>
          if silent then Session.assign "OPTARG" [c]
          else
            Session.print 2 (bytesOf "No arg for -" ++ [c] ++ bytesOf " option\n")
            Session.putVariable "OPTARG" none
          finish name (if silent then 58 else 63) index none
        | [], some value =>
          Session.assign "OPTARG" value
          finish name c (index + 1) none
        | _, _ =>
          Session.assign "OPTARG" more
          finish name c index none
      | _ =>
        Session.assign "OPTARG" []
        finish name c index place
      Session.setStatus 0
  | _ => Session.fail "Usage: getopts optstring var [arg...]"
where
  current' (operands : List Bytes) (index : Nat) : Nat := ((operands[index - 2]?).getD []).length
  finish (name : Bytes) (c : UInt8) (index : Nat) (offset : Option Nat) : Act Unit := do
    Session.assign "OPTIND" (bytesOf index.repr)
    Session.assign (Text.Utf8.decode name) [c]
    modify fun s => { s with optionIndex := index, optionOffset := offset }

end Progeny.Shell.Builtin

import Progeny.Host.Timing
import Progeny.Shell.Run

/-!
# Programs that begin other programs

They change the surroundings of a program and run it in their place, or begin programs and wait for
them.
-/

namespace Progeny.Shell.Launch

open Host
open Text (Bytes bytesOf)

variable (run : Runner)

/-- Ends the process. -/
def stop {α : Type} (status : Nat) : Act α := do
  Session.setStatus status
  Act.exit

/-- Prints a complaint of a program. -/
def complain (name : Bytes) (text : String) : Act Unit :=
  Session.print 2 (name ++ bytesOf (": " ++ text) ++ [lineFeed])

/-- Ends the process after a complaint. -/
def refuse {α : Type} (name : Bytes) (status : Nat) (text : String) : Act α := do
  complain name text
  stop status

/-- Ends the process, which was called in a wrong way. -/
def misuse {α : Type} (name : Bytes) (status : Nat) (text : String) : Act α := do
  if ! text.isEmpty then complain name text
  Session.print 2 (line (hintFor (Text.Utf8.decode name)))
  stop status

/-- Reads options, which end at the first operand. -/
def options (name : Bytes) (args : List Bytes) (status : Nat) (letters : String)
    (names : List (String × Char)) : Act Request :=
  match { OptionTable.of letters names with first := true }.readFrom none (args.map Text.Utf8.decode) with
  | .ok request => return request
  | .error e => misuse name status e

/-- The arguments behind the options. -/
def operands (args : List Bytes) (request : Request) : List Bytes :=
  args.drop (args.length - request.operands.length)

/-- The status of a program that does not find another one, or cannot run it. -/
def statusOf (e : FileError) : Nat := if e = .notFound then 127 else 126

/-- The file that a name of a program stands for. -/
def find (program : Bytes) : Act (Except FileError String) := do
  let s ← get
  Lookup.inPath (if (s.parameter? "PATH").isSome then Execute.searchPath s else ["/bin", "/usr/bin"]) program

/-- Runs a program in the place of this one; `tell` is the complaint if that is not possible. -/
def become (name : Bytes) (tell : String → String) (words : List Bytes) : Act Unit :=
  match words with
  | [] => return ()
  | program :: args => do
    match ← find program with
    | .ok place =>
      run.program place program args
      Act.exit
    | .error e => refuse name (statusOf e) (tell (Text.Utf8.decode program) ++ ": " ++ e.message)

/-- The complaint about a program that cannot be run. -/
def failedToRun (program : String) : String := "failed to run command " ++ quoted program

/-- Has a shell carry out a command of a tool; the result is its status and what it has printed, if that is
wanted. -/
def carryOut (order : Order) : Act (Nat × Bytes) := do
  let newPipe (pipe : Pipe) : Act Nat := Act.onMachine fun s m =>
    let (m, id) := m.newPipe
    (id, (m.setPipe id pipe).changeSlot s.pid fun slot => { slot with saved := .pipe id false :: slot.saved })
  let release (id : Nat) : Act Unit := Act.change fun s m =>
    m.changeSlot s.pid fun slot => { slot with saved := slot.saved.erase (.pipe id false) }
  let input? ← match order.input with
    | some bytes => some <$> newPipe ⟨if bytes.isEmpty then [] else [bytes], bytes.length⟩
    | none => pure none
  let output? ← if order.captures then some <$> newPipe ⟨[], 0⟩ else pure none
  let connect (slot : Slot) : Slot :=
    let given := (input?.toList.map fun id => (0, Target.pipe id false)) ++ output?.toList.map fun id => (1, .pipe id true)
    { slot with descriptors := given ++ slot.descriptors.filter fun (n, _) => (given.lookup n).isNone, saved := [] }
  let child ← Act.fork connect (run.program "/bin/sh" (bytesOf "sh") [bytesOf "-c", order.command])
  input?.forM release
  let found ← match output? with
    | some id => do
      let found ← Expand.outputOf.collect id 100000
      release id
      pure found
    | none => pure []
  match ← Session.awaitEnd child with
  | .exited status => return (status, found)
  | .killed n => return (256 + n, found)

/-! ### Surroundings -/

/-- Runs a program with another priority, or prints that; nothing else depends on the priority. -/
def nice (name : Bytes) (args : List Bytes) : Act Unit := do
  let args := match args with
    | (45 :: digits) :: rest =>
      let number := match digits with
        | 45 :: more => more
        | _ => digits
      if number.all isDigit && ! number.isEmpty then bytesOf "-n" :: digits :: rest else args
    | _ => args
  let request ← options name args 125 "n:" [("adjustment", 'n')]
  let s ← get
  match request.value? 'n' with
  | some text =>
    if (integer? text).isNone then refuse name 125 ("invalid adjustment " ++ quoted text)
  | none => pure ()
  let words := operands args request
  let current : Int := s.priority
  if words.isEmpty then
    if (request.value? 'n').isSome then misuse name 125 "a command must be given with an adjustment"
    Session.print 1 (line current.repr)
    stop 0
  let change := ((request.value? 'n').bind integer?).getD 10
  set { s with priority := max (-20) (min 19 (current + change)) }
  become run name quoted words

/-- Runs a program that is not ended when its terminal is closed. -/
def nohup (name : Bytes) (args : List Bytes) : Act Unit := do
  let request ← options name args 125 "" []
  let words := operands args request
  if words.isEmpty then misuse name 125 "missing operand"
  Act.change fun s m => m.changeSlot s.pid fun slot => { slot with ignored := 1 :: slot.ignored }
  become run name (fun program => "failed to run command '" ++ program ++ "'") words

/-- Runs a program with other buffers, on which nothing depends. -/
def stdbuf (name : Bytes) (args : List Bytes) : Act Unit := do
  let request ← options name args 125 "i:o:e:" [("input", 'i'), ("output", 'o'), ("error", 'e')]
  let words := operands args request
  if words.isEmpty then misuse name 125 "missing operand"
  become run name failedToRun words

/-- Puts the process into a group of its own. -/
def leaveGroup : Act Unit := Act.change fun s m => m.changeSlot s.pid fun slot => { slot with group := s.pid }

/-- Runs a program in a group of its own. -/
def setsid (name : Bytes) (args : List Bytes) : Act Unit := do
  let request ← options name args 1 "cfw" [("ctty", 'c'), ("fork", 'f'), ("wait", 'w')]
  let words := operands args request
  if words.isEmpty then misuse name 1 "no command specified"
  leaveGroup
  become run name (fun program => "failed to execute " ++ program) words

/-! ### Waiting for programs -/

/-- Begins a process that ends after a time and holds nothing open. -/
def alarm (time : Nat) : Act Nat :=
  Act.fork (fun slot => { slot with descriptors := [], group := 0 }) (Act.pause time)

/-- Ends a process that was begun to wait for a time. -/
def silence (pid : Nat) : Act Unit := Act.change fun _ m => m.finish pid (.exited 0)

/-- Waits for a process, but no longer than a time; the result says whether it has ended. -/
def awaitWithin (pid time : Nat) : Act Bool := do
  let clock ← alarm time
  Act.await fun m => ! m.isAlive pid || ! m.isAlive clock
  let ended := ! (← Act.machine).isAlive pid
  silence clock
  return ended

/-- Sends a signal to a process and to the others of its group. -/
def send (pid signal : Nat) : Act Unit := Act.change fun s m =>
  let m := m.signal pid signal
  (m.group s.pid).foldl (fun m other => if other = s.pid || other = pid then m else m.signal other signal) m

/-- Runs a program that is ended by a signal when its time is over. -/
def timeout (name : Bytes) (args : List Bytes) : Act Unit := do
  let request ← options name args 125 "s:k:v" [("signal", 's'), ("kill-after", 'k'), ("verbose", 'v'),
    ("preserve-status", 'p'), ("foreground", 'f')]
  let words := operands args request
  let span (text : String) : Act Nat := match Timing.span? text with
    | some time => return time
    | none => misuse name 125 ("invalid time interval " ++ quoted text)
  let killAfter ← match request.value? 'k' with
    | some text => some <$> span text
    | none => pure none
  let signal ← match request.value? 's' with
    | none => pure Signal.terminate
    | some text =>
      let bare := if text.toUpper.startsWith "SIG" then (text.drop 3).toString else text
      match Builtin.signal? (bytesOf bare) with
      | some n => pure n
      | none => misuse name 125 (quoted text ++ ": invalid signal")
  match words with
  | [] | [_] => misuse name 125 ""
  | duration :: program :: rest =>
    let time ← span (Text.Utf8.decode duration)
    if ! request.asks 'f' then leaveGroup
    let child ← Act.fork id (become run name failedToRun (program :: rest))
    let label := fun n => "sending signal " ++ ((Signal.name? n).getD n.repr) ++ " to command " ++
      quoted (Text.Utf8.decode program)
    let inTime ← if time = 0 then do
        let _ ← Session.awaitEnd child
        pure true
      else awaitWithin child time
    if ! inTime then
      if request.asks 'v' then complain name (label signal)
      send child signal
      match killAfter with
      | some later =>
        if later ≠ 0 then
          if ! (← awaitWithin child later) then
            if request.asks 'v' then complain name (label Signal.kill)
            send child Signal.kill
      | none => pure ()
    match ← Session.awaitEnd child with
    | .exited status => stop (if inTime || request.asks 'p' then status else 124)
    | .killed n =>
      if inTime || n = Signal.kill then
        Act.change fun s m => m.finish s.pid (.killed n)
        stop (128 + n)
      else stop (if request.asks 'p' then 128 + n else 124)

/-- Prints a line without end. -/
def yes (name : Bytes) (args : List Bytes) : Act Unit := do
  let words := if args.isEmpty then [bytesOf "y"] else args
  let text := [32].intercalate words ++ [lineFeed]
  let chunk := (List.replicate (8192 / text.length + 1) text).flatten
  go chunk 10000
where
  go (chunk : Bytes) : Nat → Act Unit
    | 0 => Act.hang
    | fuel + 1 => do
      match ← Session.write 1 chunk with
      | none =>
        Act.pause 20
        go chunk fuel
      | some e => refuse name 1 ("standard output: " ++ e.message)

/-! ### Arguments from the input -/

/-- Cuts octets into words, in which quotes and backslashes protect; the failure is the kind of a quote
that is not closed.  Each word says whether a line ends behind it. -/
def wordsOf : (fuel : Nat) → (word : Option Bytes) → Bytes → Except String (List (Bytes × Bool))
  | 0, _, _ => .ok []
  | _, word, [] => .ok (word.toList.map (·.reverse, true))
  | fuel + 1, word, b :: rest =>
    if b = 10 then do
      let others ← wordsOf fuel none rest
      return match word with
        | some found => (found.reverse, true) :: others
        | none => others
    else if b = 32 || b = 9 then
      match word with
      | some found => do
        let others ← wordsOf fuel none rest
        let closes := ((rest.dropWhile fun c => c == 32 || c == 9).head?.getD 10) == 10
        return (found.reverse, closes && b ≠ 32 && b ≠ 9) :: others
      | none => wordsOf fuel none rest
    else if b = 39 || b = 34 then
      let inner := rest.takeWhile fun c => c != b && c != 10
      match rest.drop inner.length with
      | c :: left =>
        if c = b then wordsOf fuel (some (inner.reverse ++ word.getD [])) left
        else .error (if b = 39 then "single" else "double")
      | [] => .error (if b = 39 then "single" else "double")
    else if b = 92 then
      match rest with
      | c :: left => wordsOf fuel (some (c :: word.getD [])) left
      | [] => .ok (word.toList.map (·.reverse, true))
    else wordsOf fuel (some (b :: word.getD [])) rest

/-- The lines that hold more than blanks, without the blanks before them. -/
def linesIn (bytes : Bytes) : List Bytes :=
  ((linesOf bytes).map fun text => (chomp text).dropWhile fun b => b == 32 || b == 9).filter
    (! ·.isEmpty)

/-- Pieces of a list with so many elements as are given; the last may have fewer. -/
def groupsOf {α : Type} (n : Nat) : (fuel : Nat) → List α → List (List α)
  | 0, _ | _, [] => []
  | fuel + 1, xs => xs.take n :: groupsOf n fuel (xs.drop n)

/-- Puts octets in all places of some others. -/
def substitute (sign value : Bytes) : (fuel : Nat) → Bytes → Bytes
  | 0, bytes => bytes
  | _, [] => []
  | fuel + 1, b :: rest =>
    if ! sign.isEmpty && sign.isPrefixOf (b :: rest) then
      value ++ substitute sign value fuel ((b :: rest).drop sign.length)
    else b :: substitute sign value fuel rest

/-- A word as a command that is shown has it: quoted if it holds anything unusual. -/
def shownWord (word : Bytes) : Bytes :=
  let plain (b : UInt8) : Bool :=
    isDigit b || (65 ≤ b && b ≤ 90) || (97 ≤ b && b ≤ 122) || 128 ≤ b || "%+,-./:@_=^#~".toList.any (·.toNat == b.toNat)
  if ! word.isEmpty && word.all plain then word else Builtin.quoted word

/-- What the program that begins programs on its input was asked for, besides their arguments. -/
structure Batches where
  /-- The groups of arguments of the programs. -/
  groups : List (List Bytes)
  /-- The text whose places they take. -/
  sign : Option Bytes

/-- Runs programs one after the other; the result is the status. -/
def inTurn (name program : Bytes) (shows : Bool) (initial : List Bytes) (sign : Option Bytes) :
    (status : Nat) → List (List Bytes) → Act Nat
  | status, [] => return status
  | status, given :: rest => do
    let args := match sign, given with
      | some sign, value :: _ => initial.map fun arg => substitute sign value (arg.length + 1) arg
      | _, _ => initial ++ given
    if shows then Session.print 2 ([32].intercalate ((program :: args).map shownWord) ++ [lineFeed])
    let told := Text.Utf8.decode program
    match ← find program with
    | .error e => refuse name (statusOf e) (told ++ ": " ++ e.message)
    | .ok place =>
      let null (slot : Slot) : Slot :=
        { slot with descriptors := (0, .null) :: slot.descriptors.filter (·.1 ≠ 0) }
      let child ← Act.fork null (run.program place program args)
      match ← Session.awaitEnd child with
      | .exited 255 => refuse name 124 (told ++ ": exited with status 255; aborting")
      | .exited n => inTurn name program shows initial sign (if n = 0 then status else 123) rest
      | .killed n => refuse name 125 (told ++ ": terminated by signal " ++ n.repr)

/-- Runs a program on arguments that are read from the input. -/
def xargs (name : Bytes) (args : List Bytes) : Act Unit := do
  let request ← options name args 1 "0d:E:e::I:i::L:l::n:P:prs:txa:" [("null", '0'), ("delimiter", 'd'),
    ("replace", 'i'), ("max-lines", 'l'), ("max-args", 'n'), ("max-procs", 'P'), ("no-run-if-empty", 'r'),
    ("max-chars", 's'), ("verbose", 't'), ("exit", 'x'), ("arg-file", 'a')]
  let count (c : Char) (text : String) : Act Nat := match natural? text with
    | some 0 => misuse name 1 ("value 0 for -" ++ c.toString ++ " option should be >= 1")
    | some n => return n
    | none => misuse name 1 ("invalid number \"" ++ text ++ "\" for -" ++ c.toString ++ " option")
  let counted (c : Char) : Act (Option Nat) := match request.value? c with
    | some text => some <$> count c text
    | none => return none
  let limit ← counted 'n'
  let lines ← counted 'L'
  let words := operands args request
  let (program, initial) := match words with
    | [] => (bytesOf "echo", [])
    | program :: initial => (program, initial)
  let s ← get
  let input ← match request.value? 'a' with
    | none => Run.takeInput 100000
    | some file => match (← Act.machine).files.read s.directory file with
      | .ok bytes => pure bytes
      | .error e => refuse name 1 ("Cannot open input file ‘" ++ file ++ "’: " ++ e.message)
  let sign := match request.value? 'I', request.value? 'i' with
    | some text, _ => some text
    | none, some text => some (if text.isEmpty then "\x7b\x7d" else text)
    | none, none => none
  let delimiter : Option UInt8 :=
    if request.asks '0' then some 0
    else (request.value? 'd').bind fun text => match text.toList with
      | ['\\', 'n'] => some 10
      | ['\\', 't'] => some 9
      | ['\\', '0'] => some 0
      | _ => (bytesOf text).head?
  let failed (kind : String) : Act (List (Bytes × Bool)) :=
    refuse name 1 ("unmatched " ++ kind ++
      " quote; by default quotes are special to xargs unless you use the -0 option")
  let found : List (Bytes × Bool) ← match delimiter with
    | some d =>
      let pieces := splitBytes (· == d) input
      pure ((if pieces.getLast? = some [] then pieces.dropLast else pieces).map (·, true))
    | none =>
      if sign.isSome then
        match wordsOf (input.length + 1) none input with
        | .ok _ => pure ((linesIn input).map (·, true))
        | .error kind => failed kind
      else match wordsOf (input.length + 1) none input with
        | .ok found => pure found
        | .error kind => failed kind
  let found := match request.value? 'E' with
    | some mark => found.takeWhile (·.1 ≠ bytesOf mark)
    | none => found
  let items := found.map (·.1)
  let groups : List (List Bytes) :=
    if sign.isSome then items.map ([·])
    else match lines, limit with
      | some n, _ => (groupsOf n (found.length + 1) (byLine found)).map List.flatten
      | none, some n => groupsOf n (items.length + 1) items
      | none, none => [items]
  let groups := if items.isEmpty then
      if request.asks 'r' || sign.isSome then [] else [[]]
    else groups
  stop (← inTurn run name program (request.asks 't') initial (sign.map bytesOf) 0 groups)
where
  /-- The words of each line. -/
  byLine (found : List (Bytes × Bool)) : List (List Bytes) :=
    found.foldr (fun (word, ends) later =>
      if ends then [word] :: later
      else match later with
        | line :: rest => (word :: line) :: rest
        | [] => [[word]]) []

end Progeny.Shell.Launch

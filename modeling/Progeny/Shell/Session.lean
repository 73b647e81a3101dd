import Progeny.Host.Process
import Progeny.Shell.Script

/-!
# Sessions

A session is the state of one shell, or of a program that was begun by one: its variables, functions,
options, and where it stands.  Its commands are actions that may change the session, act on the machine
and wait; an action is given what follows it, and makes a process of that.
-/

namespace Progeny.Shell

open Host
open Text (Bytes bytesOf)

/-- Why commands end early. -/
inductive Leave where
  /-- The shell ends. -/
  | exit
  /-- An error was told; it ends the shell, unless a command of the shell stops it. -/
  | failure
  /-- Loops are ended. -/
  | stopLoop (levels : Nat)
  /-- Loops go on with their next round. -/
  | nextRound (levels : Nat)
  /-- A function is left. -/
  | leaveFunction

/-- A variable. -/
structure Variable where
  value : Option Bytes := none
  /-- Programs are given it. -/
  exported : Bool := false
  readOnly : Bool := false

/-- Processes in the background. -/
structure Job where
  number : Nat
  /-- The processes, of which the last one gives the status. -/
  pids : List Nat
  /-- A command has waited until they had ended. -/
  isAwaited : Bool := false

/-- The process that a job is known by. -/
def Job.pid (job : Job) : Nat := job.pids.getLast?.getD 0

/-- Whether some process of a job has not ended. -/
def Job.isRunning (m : Machine) (job : Job) : Bool := job.pids.any (m.isAlive ·)

/-- A program whose place was looked up. -/
structure Remembered where
  name : String
  /-- Which of the directories of the search path it is in. -/
  index : Nat
  /-- The current directory is the one in which it was looked for. -/
  isCertain : Bool

/-- The state of a shell. -/
structure Session where
  /-- The number of the process. -/
  pid : Nat
  /-- The numbers of the process that the shell began as, and of the one that began it. -/
  shell : Nat
  parent : Nat
  /-- The name that the shell was called by. -/
  name : Bytes := bytesOf "sh"
  /-- The command that messages are given by, and the line that they are for. -/
  command : Option String := none
  line : Nat := 1
  arguments : List Bytes := []
  bindings : List (String × Variable) := []
  /-- The variables of the function that is running, if one is, as they were before. -/
  locals : Option (List (String × Option Variable)) := none
  /-- The current directory, and the path by which the shell came there. -/
  directory : Path := []
  place : String := "/"
  /-- The status of the last command. -/
  status : Nat := 0
  /-- The status of the last command substitution in a command. -/
  substituted : Option Nat := none
  lastJob : Option Nat := none
  /-- The jobs, from the latest on. -/
  jobs : List Job := []
  functions : List (String × Script) := []
  /-- The documents of the scripts that were read. -/
  documents : List (Nat × List Piece) := []
  freshDocument : Nat := 0
  aliases : List (String × Bytes) := []
  /-- The letters of the options that are on. -/
  options : List Char := []
  /-- The commands that are run at a signal, or at the end for the signal zero. -/
  traps : List (Nat × Bytes) := []
  /-- The permission bits that new files do not get. -/
  umask : Nat := 0o022
  /-- How much others go before it. -/
  priority : Int := 0
  /-- The limits that were changed, by their letters: the values, and their bounds. -/
  limits : List (Char × Option Nat × Option Nat) := []
  /-- The number of loops around the command that is running. -/
  loops : Nat := 0
  /-- The argument behind the one in which the next option is looked for, and where in it; there is no
  place in an argument that was read to its end. -/
  optionIndex : Nat := 1
  optionOffset : Option Nat := none
  remembered : List Remembered := []
  /-- Something that a command of the shell printed could not be written. -/
  outputFailed : Bool := false

/-- A computation in a session, which is given what follows it. -/
def Act (α : Type) : Type := Session → (Except Leave α → Session → Process) → Process

namespace Act

variable {α β : Type}

instance : Monad Act where
  pure a := fun s next => next (.ok a) s
  bind act f := fun s next => act s fun result s =>
    match result with
    | .ok a => f a s next
    | .error e => next (.error e) s

instance : MonadStateOf Session Act where
  get := fun s next => next (.ok s) s
  set s := fun _ next => next (.ok ()) s
  modifyGet f := fun s next => let (a, s) := f s; next (.ok a) s

instance : MonadExceptOf Leave Act where
  throw e := fun s next => next (.error e) s
  tryCatch act handle := fun s next => act s fun result s =>
    match result with
    | .ok a => next (.ok a) s
    | .error e => handle e s next

instance : Inhabited (Act α) := ⟨fun _ _ => .exit 0⟩

/-- Acts on the machine. -/
def onMachine (f : Session → Machine → α × Machine) : Act α := fun s next =>
  .step fun m => let (a, m) := f s m; (m, next (.ok a) s)

/-- The machine as it is. -/
def machine : Act Machine := onMachine fun _ m => (m, m)

/-- Changes the machine. -/
def change (f : Session → Machine → Machine) : Act Unit := onMachine fun s m => ((), f s m)

/-- Lets time go by. -/
def pause (time : Nat) : Act Unit := fun s next => .pause time (next (.ok ()) s)

/-- Waits until the machine is ready. -/
def await (isReady : Machine → Bool) : Act Unit := fun s next => .await isReady (next (.ok ()) s)

/-- Waits without end. -/
def hang : Act α := fun _ _ => .await (fun _ => false) (.exit 0)

/-- Ends the process. -/
def exit : Act α := fun s _ => .exit s.status

/-- Begins a process of its own, and gives its number. -/
def fork (prepare : Slot → Slot) (body : Act Unit) : Act Nat := fun s next =>
  .step fun m =>
    let (m, pid) := m.newProcess s.pid
    let child := body { s with pid := pid } fun _ s => .exit s.status
    (m.changeSlot pid prepare, .fork pid child (next (.ok pid) s))

/-- Runs a computation, and something else behind it, however it ends. -/
def afterwards (body : Act α) (rest : Act Unit) : Act α := do
  let a ← try body
    catch e =>
      rest
      throw e
  rest
  return a

end Act

namespace Session

/-- Sets the status. -/
def setStatus (status : Nat) : Act Unit := modify fun s => { s with status := status }

/-! ### Input and output -/

/-- The signal of a pipe that nobody reads, unless it is ignored, ends the process. -/
def breakPipe : Act Unit := Act.change fun s m => m.signal s.pid Signal.brokenPipe

/-- Why something could not be written. -/
inductive WriteError where
  | closed
  | broken
  | noSpace

/-- The text of an error. -/
def WriteError.message : WriteError → String
  | .closed => "Bad file descriptor"
  | .broken => "Broken pipe"
  | .noSpace => "No space left on device"

/-- Writes on a descriptor, and waits as often as is necessary, but no more than `fuel` times. -/
def writeWithin (descriptor : Nat) (bytes : Bytes) : (fuel : Nat) → Act (Option WriteError)
  | 0 => Act.hang
  | fuel + 1 => do
    let written ← Act.onMachine fun s m =>
      match m.write s.pid descriptor bytes with
      | .done m => (Written.done m, m)
      | other => (other, m)
    match written with
    | .done _ => return none
    | .closed => return some .closed
    | .noSpace => return some .noSpace
    | .broken =>
      breakPipe
      return some .broken
    | .wait =>
      let pid := (← get).pid
      Act.await fun m => match m.write pid descriptor bytes with
        | .wait => false
        | _ => true
      writeWithin descriptor bytes fuel

/-- Writes on a descriptor. -/
def write (descriptor : Nat) (bytes : Bytes) : Act (Option WriteError) :=
  if bytes.isEmpty then return none else writeWithin descriptor bytes 100000

/-- Prints on a descriptor; nothing happens if that is not possible. -/
def print (descriptor : Nat) (bytes : Bytes) : Act Unit := do
  let _ ← write descriptor bytes

/-- Complains in the name of the shell. -/
def complain (text : Bytes) : Act Unit := do
  let s ← get
  let command := match s.command with
    | some name => name ++ ": "
    | none => ""
  print 2 (s.name ++ bytesOf (": " ++ s.line.repr ++ ": " ++ command) ++ text ++ [10])

/-- Complains, and fails. -/
def failWith {α : Type} (text : Bytes) : Act α := do
  complain text
  setStatus 2
  throw .failure

/-- Complains, and fails. -/
def fail {α : Type} (text : String) : Act α := failWith (bytesOf text)

/-- Prints what a command of the shell has to say. -/
def say (bytes : Bytes) : Act Unit := do
  if (← write 1 bytes).isSome then modify fun s => { s with outputFailed := true }

/-- Prints a line. -/
def sayLine (text : String) : Act Unit := say (bytesOf text ++ [10])

/-- What can be read on a descriptor. -/
def readable (descriptor : Nat) : Act Readable := Act.onMachine fun s m => (m.readable s.pid descriptor, m)

/-- Takes octets that were read. -/
def consume (descriptor count : Nat) : Act Unit := Act.change fun s m => m.consume s.pid descriptor count

/-- Waits until more can be read than `count` octets, or no more will come. -/
def awaitMore (descriptor count : Nat) : Act Unit := do
  let pid := (← get).pid
  Act.await fun m => match m.readable pid descriptor with
    | .bytes bytes _ ended => ended || count < bytes.length
    | _ => true

/-! ### Variables -/

/-- The one of some rows of names that a name is in.  What has names is listed row by row, and in a row as
it came. -/
def rowOf (rows : Nat) (name : String) : Nat :=
  let octets := (bytesOf name).map (·.toNat)
  octets.foldl (· + ·) (octets.headD 0 * 16) % rows

/-- Puts what a name stands for among others, behind those of its row. -/
def insertInRow {α : Type} (named : List (String × α)) (name : String) (found : α) : List (String × α) :=
  if (named.lookup name).isSome then
    named.map fun (known, old) => (known, if known = name then found else old)
  else
    let row := rowOf 39 name
    let before := named.takeWhile fun (known, _) => rowOf 39 known ≤ row
    before ++ (name, found) :: named.drop before.length

/-- Puts a variable in the place of what there was of its name. -/
def putVariable (name : String) (found? : Option Variable) : Act Unit := modify fun s =>
  { s with bindings := match found? with
      | some found => insertInRow s.bindings name found
      | none => s.bindings.filter (·.1 != name) }

/-- The variable of a name, as far as there is one. -/
def variableOf (s : Session) (name : String) : Variable := (s.bindings.lookup name).getD {}

/-- Forgets where programs are. -/
def forgetPrograms : Act Unit := modify fun s => { s with remembered := [] }

/-- Gives a value to a variable. -/
def assign (name : String) (value : Bytes) : Act Unit := do
  let s ← get
  let found := s.variableOf name
  if found.readOnly then fail (name ++ ": is read only")
  putVariable name (some { found with
    value := some value, exported := found.exported || s.options.contains 'a' })
  if name = "PATH" then forgetPrograms
  if name = "OPTIND" then
    let index := (decimal? value).getD 1
    modify fun s => { s with optionIndex := max index 1, optionOffset := none }
where
  decimal? (bytes : Bytes) : Option Nat :=
    if bytes.isEmpty || ! bytes.all (fun b => 48 ≤ b && b ≤ 57) then none
    else some (bytes.foldl (fun (n : Nat) (d : UInt8) => n * 10 + (d.toNat - 48)) 0)

/-- The variables that programs are given. -/
def environment (s : Session) : List (String × Bytes) :=
  s.bindings.filterMap fun (name, found) =>
    if found.exported then found.value.map (name, ·) else none

/-! ### Processes -/

/-- Waits until a process has ended. -/
def awaitEnd (pid : Nat) : Act Ending := do
  Act.await fun m => ! m.isAlive pid
  Act.onMachine fun s m =>
    let m := m.look s.pid
    ((m.ending? pid).getD (.exited 0), if s.jobs.any (·.pids.contains pid) then m else m.forget pid)

/-- The number of the next job.  It may be that of a job that has ended and was waited for, which is
dropped. -/
def takeNumber : Act Nat := do
  let s ← get
  if s.jobs.isEmpty then return 1
  let m ← Act.machine
  let isFree (number : Nat) : Bool :=
    match s.jobs.find? (·.number = number) with
    | some job => job.isAwaited && ! job.isRunning m
    | none => true
  let number := (((List.range (s.jobs.length + 1)).map (· + 1)).find? isFree).getD (s.jobs.length + 1)
  set { s with jobs := s.jobs.filter (·.number ≠ number) }
  return number

/-- Begins a process that is waited for at once. -/
def forkForeground (prepare : Slot → Slot) (body : Act Unit) : Act Nat := do
  let _ ← takeNumber
  Act.fork prepare body

/-- Waits for a process in the foreground, whose ending by a signal is told. -/
def awaitForeground (pid : Nat) : Act Unit := do
  let ending ← awaitEnd pid
  match ending with
  | .killed signal =>
    if signal ≠ Signal.interrupt && signal ≠ Signal.brokenPipe then
      print 2 (bytesOf (Signal.description signal) ++ [10])
  | .exited _ => pure ()
  setStatus ending.status

end Session

end Progeny.Shell

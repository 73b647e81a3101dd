import Progeny.Shell.Builtin.Arguments

/-!
# Jobs and signals

The commands that wait for processes, send signals to them, and say what is done at a signal.
-/

namespace Progeny.Shell.Builtin

open Host
open Text (Bytes bytesOf)

/-- The signal of a text, which is a name or a number. -/
def signal? (arg : Bytes) : Option Nat :=
  let text := Text.Utf8.decode arg
  match natural? text with
  | some n => if n < Signal.count then some n else none
  | none =>
    let name := text.toUpper
    if name = "EXIT" then some 0 else Signal.ofName? name

/-- Says what is done at signals, or tells it. -/
def setTraps (args : List Bytes) : Act Unit := do
  let (_, operands) ← options [] (args.length + 1) args
  match operands with
  | [] =>
    let s ← get
    let known := (List.range Signal.count).filterMap fun n =>
      (s.traps.lookup n).map fun commands =>
        bytesOf "trap -- " ++ quoted commands ++ bytesOf (" " ++ (Signal.name? n).getD "") ++ [lineFeed]
    Session.say known.flatten
    Session.setStatus 0
  | first :: rest =>
    if rest.isEmpty || (signal? first).isSome then go none operands
    else go (if first = [45] then none else some first) rest
where
  go (commands : Option Bytes) : List Bytes → Act Unit
    | [] => Session.setStatus 0
    | arg :: rest => do
      match signal? arg with
      | none =>
        Session.print 2 (bytesOf "trap: " ++ arg ++ bytesOf ": bad trap\n")
        Session.setStatus 1
      | some n =>
        modify fun s =>
          let others := s.traps.filter (·.1 ≠ n)
          { s with traps := match commands with
              | some commands => (n, commands) :: others
              | none => others }
        Act.change fun s m => m.changeSlot s.pid fun slot =>
          let ignored := slot.ignored.filter (· ≠ n)
          let caught := slot.caught.filter (· ≠ n)
          match commands with
          | none => { slot with ignored := ignored, caught := caught }
          | some [] => { slot with ignored := n :: ignored, caught := caught }
          | some _ => { slot with ignored := ignored, caught := n :: caught }
        go commands rest

/-- The job that a text stands for; none stands for the latest one. -/
def jobOf (arg? : Option Bytes) : Act Job := do
  let s ← get
  let arg := arg?.getD (bytesOf "%%")
  let digits := Text.Utf8.decode (arg.drop 1)
  let (found, failure) :=
    if arg.head? ≠ some 37 then (none, bytesOf "No such job: " ++ arg)
    else if digits.isEmpty || digits = "%" || digits = "+" then (s.jobs.head?, bytesOf "No current job")
    else if digits = "-" then (s.jobs[1]?, bytesOf "No previous job")
    else ((natural? digits).bind fun n => s.jobs.find? (·.number = n), bytesOf "No such job: " ++ arg)
  match found with
  | some job => return job
  | none => Session.failWith failure

/-- Fails to put a job into the foreground, or to have it go on, since no terminal controls jobs. -/
def controlJob (args : List Bytes) : Act Unit := do
  let (_, operands) ← parse "" args
  let _ ← jobOf operands.head?
  Session.failWith (bytesOf "job " ++ operands.headD (bytesOf "(null)") ++
    bytesOf " not created under job control")

/-- The text that says how signals are sent. -/
def killUsage : String :=
  "Usage: kill [-s sigspec | -signum | -sigspec] [pid | job]... or\nkill -l [exitstatus]"

/-- Names signals. -/
def listSignals (operands : List Bytes) : Act Unit := do
  match operands with
  | [] => Session.say (("0" :: Signal.names).flatMap line)
  | arg :: _ =>
    let n ← number arg
    let n := if 128 < n then n - 128 else n
    match if n = 0 then none else Signal.name? n with
    | some name => Session.sayLine name
    | none => Session.failWith (bytesOf "invalid signal number or exit status: " ++ arg)
  Session.setStatus 0

/-- Sends a signal to a process, or to a group of processes; the result says whether there is one. -/
def sendTo (signal : Nat) (group : Bool) (n : Nat) : Act Bool := Act.onMachine fun s m =>
  if group then
    let n := if n = 0 then (m.slot? s.pid).elim 0 (·.group) else n
    if (m.group n).isEmpty then (false, m) else (true, m.signalGroup n signal)
  else if (m.slot? n).isSome then (true, m.signal n signal)
  else (false, m)

/-- Sends signals. -/
def kill (args : List Bytes) : Act Unit := do
  match args with
  | [] => Session.fail killUsage
  | (45 :: text) :: rest =>
    match signal? text with
    | some n => send n rest
    | none =>
      let (found, operands) ← parse "ls:" args
      if found.any (·.1 = 'l') then listSignals operands
      else match found.getLast? with
        | some (_, value) => match signal? value with
          | some n => send n operands
          | none => Session.failWith (bytesOf "invalid signal number or name: " ++ value)
        | none => send Signal.terminate operands
  | _ => send Signal.terminate args
where
  send (signal : Nat) (operands : List Bytes) : Act Unit := do
    if operands.isEmpty then Session.fail killUsage
    Session.setStatus 0
    forEach (one signal) operands
  one (signal : Nat) (arg : Bytes) : Act Unit := do
    let (group, n) ← match arg with
      | 37 :: _ => do pure (true, (← jobOf arg).pids.headD 0)
      | 45 :: digits => do pure (true, ← number digits)
      | _ => do
        let n ← number arg
        pure (n = 0, n)
    if ! (← sendTo signal group n) then
      Session.complain (bytesOf "No such process\n")
      Session.setStatus 1

/-- Waits until a process has ended, or a signal was caught; the result is the signal. -/
def awaitOrSignal (isReady : Machine → Bool) : Act (Option Nat) := do
  let pid := (← get).pid
  let hasPending (m : Machine) : Option Nat :=
    (m.slot? pid).bind fun slot => (slot.pending.filter (· ≠ Signal.child)).head?
  Act.await fun m => isReady m || (hasPending m).isSome
  return hasPending (← Act.machine)

/-- Waits for processes. -/
def waitFor (args : List Bytes) : Act Unit := do
  let (_, operands) ← parse "" args
  if operands.isEmpty then
    let jobs := (← get).jobs
    match ← awaitOrSignal fun m => ! jobs.any (·.isRunning m) with
    | some signal => Session.setStatus (128 + signal)
    | none => Session.setStatus 0
    modify fun s => { s with jobs := s.jobs.map fun job => { job with isAwaited := true } }
  else forEach one operands
where
  one (arg : Bytes) : Act Unit := do
    let found ← match arg with
      | 37 :: _ => do pure (some (← jobOf arg))
      | _ => do
        let pid ← number arg
        pure ((← get).jobs.find? (·.pid = pid))
    match found with
    | none => Session.setStatus 127
    | some job =>
      let seen := ((← Act.machine).slot? job.pid).any (·.seen)
      match ← awaitOrSignal fun m => ! job.isRunning m with
      | some signal => Session.setStatus (128 + signal)
      | none =>
        if seen then Session.setStatus (← Session.awaitEnd job.pid).status
        else Session.awaitForeground job.pid
        modify fun s => { s with jobs := s.jobs.map fun other =>
          if other.number = job.number then { other with isAwaited := true } else other }

/-- How the processes of a job are called. -/
def stateOf (m : Machine) (job : Job) : String :=
  if job.isRunning m then "Running"
  else match m.ending? job.pid with
    | none | some (.exited 0) => "Done"
    | some (.exited n) => "Done(" ++ n.repr ++ ")"
    | some (.killed n) => Signal.description n

/-- Tells a job, which is dropped if it has ended; `shows` is an option that says what is told. -/
def tellJob (shows : Option Char) (job : Job) : Act Unit := do
  let s ← get
  let m ← Act.machine
  let first := (job.pids.headD 0).repr
  let filled (text : String) : String := text.pushn ' ' (max 1 (33 - text.length))
  let sign := if s.jobs.head?.any (·.number = job.number) then "+ "
    else if s.jobs[1]?.any (·.number = job.number) then "- " else "  "
  let start := "[" ++ job.number.repr ++ "] " ++ sign
  if shows = some 'p' then Session.sayLine first
  else
    if shows = some 'l' then
      let others := (job.pids.drop 1).map fun pid =>
        " |\n" ++ filled ("".pushn ' ' start.length ++ pid.repr ++ " ")
      Session.sayLine (filled (start ++ first ++ " " ++ stateOf m job) ++ String.join others)
    else
      let others := (job.pids.drop 1).map fun _ => " | "
      Session.sayLine (filled (start ++ stateOf m job) ++ String.join others)
    if ! job.isRunning m then
      modify fun s => { s with jobs := s.jobs.filter (·.number ≠ job.number) }

/-- Tells jobs. -/
def tellJobs (args : List Bytes) : Act Unit := do
  let (found, operands) ← parse "lp" args
  let shows := found.getLast?.map (·.1)
  if operands.isEmpty then forEach (tellJob shows) (← get).jobs
  else forEach (fun arg => do tellJob shows (← jobOf (some arg))) operands
  Session.setStatus 0

end Progeny.Shell.Builtin

import Progeny.Host.Machine

/-!
# Processes

A process is what is still to come of a running program: its next action on the machine and what
follows.  Processes run beside each other; one runs until it pauses, waits or ends, and of those that
can go on the one that became ready first is next.  The clock moves only when no process can go on.
-/

namespace Progeny.Host

/-- What is still to come of a running program. -/
inductive Process where
  | exit (status : Nat)
  /-- An action that takes no time. -/
  | step (run : Machine → Machine × Process)
  /-- Nothing happens for a time. -/
  | pause (time : Nat) (next : Process)
  /-- Nothing happens until the machine is ready. -/
  | await (isReady : Machine → Bool) (next : Process)
  /-- Another process begins, whose number is given. -/
  | fork (number : Nat) (child next : Process)

/-- A process that does not run now. -/
structure Task where
  pid : Nat
  process : Process
  /-- When it may go on; `none` if that does not depend on the time. -/
  due : Option Nat
  isReady : Machine → Bool

namespace Task

/-- Whether a process can go on. -/
def canRun (m : Machine) (task : Task) : Bool :=
  (task.due.all (· ≤ m.now)) && task.isReady m && ! (m.slot? task.pid).any (·.stopped)

end Task

/-- The time until a new process runs. -/
def forkTime : Nat := 300

/-- A machine on which processes run, the first of which has waited longest. -/
structure Running where
  machine : Machine
  tasks : List Task

/-- How a run ended. -/
inductive Outcome where
  /-- It came to the state that was wanted. -/
  | reached
  /-- The time was up. -/
  | late
  /-- Nothing will happen any more, or too much happens. -/
  | stuck
  deriving DecidableEq

namespace Running

/-- The first task that can go on, and the others. -/
def pick? (m : Machine) : List Task → Option (Task × List Task)
  | [] => none
  | task :: rest =>
    if task.canRun m then some (task, rest)
    else (pick? m rest).map fun (found, others) => (found, task :: others)

/-- The next time at which a task may go on. -/
def nextTime? (m : Machine) (tasks : List Task) : Option Nat :=
  (tasks.filterMap fun task =>
    task.due.filter fun time => m.now < time && ! (m.slot? task.pid).any (·.stopped)).min?

/-- Runs processes until the machine is as wanted, or the time is up; `current` is the process that
runs now. -/
def runFrom (isDone : Machine → Bool) (limit : Machine → Option Nat) :
    (fuel : Nat) → Machine → (current : Option (Nat × Process)) → List Task → Outcome × Running
  | 0, m, _, tasks => (.stuck, ⟨m, tasks⟩)
  | fuel + 1, m, some (pid, process), tasks =>
    if ! m.isAlive pid then runFrom isDone limit fuel m none tasks
    else if (m.slot? pid).any (·.stopped) then
      runFrom isDone limit fuel m none (tasks ++ [⟨pid, process, none, fun _ => true⟩])
    else match process with
      | .exit status => runFrom isDone limit fuel (m.finish pid (.exited (status % 256))) none tasks
      | .step run =>
        let (m, next) := run m
        runFrom isDone limit fuel m (some (pid, next)) tasks
      | .pause time next =>
        runFrom isDone limit fuel m none (tasks ++ [⟨pid, next, some (m.now + time), fun _ => true⟩])
      | .await isReady next =>
        if isReady m then runFrom isDone limit fuel m (some (pid, next)) tasks
        else runFrom isDone limit fuel m none (tasks ++ [⟨pid, next, none, isReady⟩])
      | .fork number child next =>
        runFrom isDone limit fuel m (some (pid, next))
          (tasks ++ [⟨number, child, some (m.now + forkTime), fun _ => true⟩])
  | fuel + 1, m, none, tasks =>
    let tasks := tasks.filter fun task => m.isAlive task.pid
    if isDone m then (.reached, ⟨m, tasks⟩)
    else match pick? m tasks with
      | some (task, rest) => runFrom isDone limit fuel m (some (task.pid, task.process)) rest
      | none =>
        match nextTime? m tasks with
        | none => (.stuck, ⟨m, tasks⟩)
        | some time =>
          if (limit m).any (· < time) then (.late, ⟨m, tasks⟩)
          else runFrom isDone limit fuel (m.moved time) none tasks

/-- More steps than are taken in any run that ends. -/
def maxSteps : Nat := 6000000

/-- Runs processes until the machine is as wanted, or the time is up. -/
def run (running : Running) (isDone : Machine → Bool) (limit : Machine → Option Nat) :
    Outcome × Running :=
  runFrom isDone limit maxSteps running.machine none running.tasks

end Running

end Progeny.Host

import Progeny.Shell.Environment
import Progeny.Shell.Following
import Progeny.Shell.Seeking

/-!
# Running programs

The programs of the host, and how a machine begins to run one of them.
-/

namespace Progeny.Shell

open Host
open Text (Bytes bytesOf)

namespace Program

/-- The programs that run other programs, or print without end. -/
def launchers (run : Runner) : List (String × (Bytes → List Bytes → Act Unit)) :=
  [("sh", Run.shell run), ("dash", Run.shell run), ("env", Environment.env run), ("xargs", Launch.xargs run),
   ("timeout", Launch.timeout run), ("nice", Launch.nice run), ("nohup", Launch.nohup run),
   ("setsid", Launch.setsid run), ("stdbuf", Launch.stdbuf run), ("yes", Launch.yes),
   ("find", Seeking.find run), ("tail", Following.tail run)]

/-- Runs a program of the host in the place of the process. -/
def begin (run : Runner) (program : String) (name : Bytes) (args : List Bytes) : Act Unit := do
  Act.pause Execute.beginTime
  Act.change fun s m => m.changeSlot s.pid fun slot => { slot with caught := [] }
  Session.setStatus 0
  match (launchers run).lookup program with
  | some launch => launch name args
  | none => match tools.lookup program with
    | some tool => Execute.runTool (Launch.carryOut run) tool name args 100000 [] 0 []
    | none => Session.setStatus 127

/-- Runs the file at a path in the place of the process.  A text names the program that reads it, which
may be a text itself, but no more than `depth` times. -/
def execute (run : Runner) : (depth : Nat) → (place : String) → (name : Bytes) → List Bytes → Act Unit
  | 0, _, _, _ => Session.setStatus 126
  | depth + 1, place, name, args => do
    let s ← get
    match Execute.executable (← Act.machine).files s.directory place with
    | .error _ => Session.setStatus 126
    | .ok (.program program) => begin run program name args
    | .ok (.interpreted interpreter argument) =>
      execute run depth interpreter (bytesOf interpreter) (argument.toList ++ bytesOf place :: args)
    | .ok .script =>
      Act.pause Execute.beginTime
      Run.scriptFile run (bytesOf place) args []

/-- Ends a process whose commands are nested too deep. -/
def overflow : Act Unit := do
  Act.change fun s m => m.finish s.pid (.killed 11)
  Act.hang

/-- The runner of commands that are nested no deeper than `depth`. -/
def within : (depth : Nat) → Runner
  | 0 => { script := fun _ _ => overflow, program := fun _ _ _ => overflow }
  | depth + 1 => {
      script := fun mode script => Run.step (within depth) mode script
      program := fun place name args => execute (within depth) 6 place name args }

/-- How deep commands may be nested. -/
def maxDepth : Nat := 20000

/-- The variables that programs are given from the beginning. -/
def environment : List (String × Bytes) :=
  [("PATH", bytesOf (":".intercalate Run.defaultPath)), ("HOME", bytesOf "/root"),
   ("LC_CTYPE", bytesOf "C.UTF-8")]

/-- The number of the first process. -/
def firstProcess : Nat := 4242

/-- A machine on which the program at a path begins to run in a directory, with nothing to read and with
what it prints being lost, except for diagnostics. -/
def onMachine (files : FileTree) (directory : Path) (place name : String) (args : List String) : Running :=
  let slot : Slot := {
    parent := firstProcess - 1, group := firstProcess
    descriptors := [(0, .null), (1, .null), (2, .diagnostic)] }
  let session : Session := {
    pid := firstProcess, shell := firstProcess, parent := firstProcess - 1, directory := directory
    place := Path.render directory
    bindings := environment.map fun (name, value) =>
      (name, ({ value := some value, exported := true } : Variable)) }
  let main : Act Unit := execute (within maxDepth) 6 place (bytesOf name) (args.map bytesOf)
  { machine := {
      files := files, slots := [(firstProcess, slot)], nextProcess := firstProcess + 1 }
    tasks := [⟨firstProcess, main session fun _ s => .exit s.status, some 0, fun _ => true⟩] }

end Program

end Progeny.Shell

import Progeny.Compiler.External
import Progeny.Shell.Program

/-!
# A host for compilers

The files and the programs of the host as a platform for a compiler.  Whether a program can be begun
is decided by the host before any program runs: its name and its arguments must not hold a null,
none of them may be too long, and there must be a file that can be run.
-/

namespace Progeny.Host

open Text (Bytes bytesOf)

/-- The text of an error of the host. -/
def detailOf (e : FileError) : String := e.message ++ " (os error " ++ e.number.repr ++ ")"

/-- The number of octets from which on an argument is too long for a program. -/
def maxArgument : Nat := 131072

/-- The text of the path of a program, or why it cannot be begun. -/
def findProgram (files : FileTree) (directory : Path) (program : String) (arguments : List String) :
    Except String String :=
  if (program :: arguments).any (·.toList.contains '\x00') then
    .error "nul byte found in provided data"
  else if (program :: arguments).any (·.utf8ByteSize ≥ maxArgument) then
    .error "Argument list too long (os error 7)"
  else if ! program.toList.contains '/' && program.utf8ByteSize > Path.maxName then
    .error (detailOf .nameTooLong)
  else (Shell.Lookup.fileFor files directory Shell.Run.defaultPath program).mapError detailOf

/-- Runs a program to its end: the diagnostic, unless it is still running at the given time, and the
files. -/
def observe (running : Running) (limit : Nat) : Option String × FileTree :=
  let (outcome, running) :=
    running.run (fun m => ! m.isAlive Shell.Program.firstProcess) fun _ => some limit
  if outcome ≠ .reached then (none, running.machine.files)
  else
    let (_, running) := running.run (fun m => ! m.isHeld .diagnostic) fun _ => none
    (some (Text.Utf8.decode running.machine.diagnostic.reverse.flatten), running.machine.files)

/-- The host as a platform. -/
def platform : Platform FileTree Path String where
  temporary := Path.render temporary
  makeDirectory files path := Except.mapError detailOf do
    let made ← files.makeDirectory [] path 0o700
    return (made, ← made.locate [] path true)
  writeText files path text := (files.write [] path 0o644 (bytesOf text)).mapError detailOf
  find := findProgram
  run files directory place name arguments :=
    observe (Shell.Program.onMachine files directory place name arguments)
  removeAll files directory := files.removeAll directory

end Progeny.Host

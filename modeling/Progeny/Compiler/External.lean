import Progeny.Compiler.Basic

/-!
# Compilers that are programs of a host

The source is written into a scratch directory of its own, in which the program is run with the
path of the source as its last argument.  Its input is empty and what it prints as output is
dropped; what it prints as a diagnostic is the answer, whatever its status.  The scratch directory
is removed in the end.

The program is looked at in fixed intervals.  It is out of time if it is still running when it is
looked at and the time limit has passed; then all processes of its group are ended.  Otherwise the
diagnostic is complete when no process can print to it any more.

What the host makes of all this is not said here: its files, its programs and the paths to them are
those of a `Platform`, of which nothing is assumed.
-/

namespace Progeny

/-- What a compiler asks of the host that it is a program of.  `Files` is the state of the files,
`Directory` a place among them and `Command` a program that can be run; what fails does so with a
text that says why. -/
structure Platform (Files Directory Command : Type) where
  /-- The path of the directory for scratch directories. -/
  temporary : String
  /-- Makes a directory for its owner alone. -/
  makeDirectory : Files → String → Except String (Files × Directory)
  /-- Writes a text into a file of its own. -/
  writeText : Files → String → String → Except String Files
  /-- Finds a program by its name, to be run in a directory with some arguments. -/
  find : Files → Directory → String → List String → Except String Command
  /-- Runs a program under its name.  There is no diagnostic if it is still running at the given
  time, in millionths of a second. -/
  run : Files → Directory → Command → String → List String → Nat → Option String × Files
  /-- Removes a directory and all that it holds. -/
  removeAll : Files → Directory → Files

/-- A compiler that is a program of the host. -/
structure ExternalCompiler where
  program : String
  /-- The arguments before the path of the source. -/
  args : List String
  /-- The name of the source file. -/
  fileName : String
  /-- The time that one compilation may take. -/
  timeout : Duration
  /-- Where the scratch directory is made; the platform's own place if there is none. -/
  scratchRoot : Option String
  deriving DecidableEq, Repr

namespace ExternalCompiler

variable {Files Directory Command : Type}

/-- The compiler with the given settings. -/
def ofConfig (config : CompilerConfig) : ExternalCompiler where
  program := config.program
  args := config.args
  fileName := config.fileName
  timeout := .ofSeconds config.timeoutSecs
  scratchRoot := config.scratchRoot

/-- The name of the scratch directory; its last six letters are free. -/
def scratchName : String := "gencode-Xk3v9Q"

/-- The text of a path behind that of a directory. -/
def behind (directory name : String) : String :=
  if name.startsWith "/" then name
  else if directory.endsWith "/" then directory ++ name
  else directory ++ "/" ++ name

/-- The text of the path of the scratch directory. -/
def scratch (compiler : ExternalCompiler) (temporary : String) : String :=
  behind (behind temporary (compiler.scratchRoot.getD temporary)) scratchName

/-- The text of the path of the source. -/
def sourcePath (compiler : ExternalCompiler) (temporary : String) : String :=
  behind (compiler.scratch temporary) compiler.fileName

/-- The arguments of the program. -/
def arguments (compiler : ExternalCompiler) (temporary : String) : List String :=
  compiler.args ++ [compiler.sourcePath temporary]

/-- The interval in which a program is looked at, in millionths of a second. -/
def pollInterval : Nat := 5000

/-- When a program is looked at for the last time, in millionths of a second: it is the first time
that is not before the limit. -/
def lastLook (timeout : Duration) : Nat :=
  let interval := pollInterval * 1000
  (timeout.nanoseconds + interval - 1) / interval * pollInterval

/-- The files with the source in its scratch directory. -/
def prepare (compiler : ExternalCompiler) (platform : Platform Files Directory Command)
    (files : Files) (source : String) : Except CompileError (Files × Directory) := do
  let (made, directory) ←
    failing (platform.makeDirectory files (compiler.scratch platform.temporary))
  let written ← failing (platform.writeText made (compiler.sourcePath platform.temporary) source)
  return (written, directory)
where
  failing {α : Type} (result : Except String α) : Except CompileError α :=
    match result with
    | .ok a => .ok a
    | .error detail => .error (.scratchFile detail)

/-- The program, as it is run on the source in the scratch directory. -/
def find (compiler : ExternalCompiler) (platform : Platform Files Directory Command)
    (files : Files) (directory : Directory) : Except String Command :=
  platform.find files directory compiler.program (compiler.arguments platform.temporary)

/-- Compiles a source: the diagnostic, and the files afterwards. -/
def compile (compiler : ExternalCompiler) (platform : Platform Files Directory Command)
    (files : Files) (source : String) : Except CompileError String × Files :=
  match compiler.prepare platform files source with
  | .error e => (.error e, files)
  | .ok (prepared, directory) =>
    match compiler.find platform prepared directory with
    | .error detail =>
      (.error (.launch compiler.program detail), platform.removeAll prepared directory)
    | .ok command =>
      let (diagnostic, after) := platform.run prepared directory command compiler.program
        (compiler.arguments platform.temporary) (lastLook compiler.timeout)
      let result := match diagnostic with
        | some text => .ok text
        | none => .error (.timeout compiler.timeout)
      (result, platform.removeAll after directory)

/-- The greatest number of seconds that a time limit may have, counted from now. -/
def maxSeconds : Nat := Nat.pow 2 63 - 1 - 1000000

/-- The compiler as a function of the source alone, unless the end of its time limit cannot be told
when it has begun. -/
def toCompiler? (compiler : ExternalCompiler) (platform : Platform Files Directory Command)
    (files : Files) : Option Compiler :=
  let begins := match compiler.prepare platform files "" with
    | .ok (prepared, directory) => (compiler.find platform prepared directory).isOk
    | .error _ => false
  if begins && compiler.timeout.nanoseconds > maxSeconds * 1000000000 then none
  else some fun source => (compiler.compile platform files source).1

end ExternalCompiler

end Progeny

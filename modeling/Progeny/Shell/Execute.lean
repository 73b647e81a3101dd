import Progeny.Host.Catalogue
import Progeny.Shell.Builtin.Arguments
import Progeny.Sequence.Total

/-!
# Programs

A program is found by its name, in the directories of a path or as a file, and then runs in a process.
Most programs are tools, which are functions of what they read.
-/

namespace Progeny.Shell

open Host
open Text (Bytes bytesOf)

/-- What a file can be run as. -/
inductive Executable where
  /-- A program of the host. -/
  | program (name : String)
  /-- A text for the program at a path, which may be given an argument. -/
  | interpreted (interpreter : String) (argument : Option Bytes)
  /-- A text for a shell. -/
  | script

namespace Execute

/-- The path of the interpreter that the first line of a text names, and its argument. -/
def interpreterOf? (content : Bytes) : Option (String × Option Bytes) :=
  match content with
  | 35 :: 33 :: rest =>
    let isBlank (b : UInt8) : Bool := b == 32 || b == 9
    let line := (rest.takeWhile (· != lineFeed)).dropWhile isBlank
    let line := (line.reverse.dropWhile isBlank).reverse
    let interpreter := line.takeWhile (! isBlank ·)
    let argument := (line.drop interpreter.length).dropWhile isBlank
    if interpreter.isEmpty then none
    else some (Text.Utf8.decode interpreter, if argument.isEmpty then none else some argument)
  | _ => none

/-- What the file at a path is by itself, if it can be run. -/
def kindOf (files : FileTree) (directory : Path) (name : String) : Except FileError Executable :=
  match files.find directory name true with
  | .error e => .error e
  | .ok (_, .file number) =>
    match files.bodies.lookup number with
    | none => .error .notFound
    | some body =>
      if body.mode &&& 0o111 = 0 then .error .denied
      else match programIn? body.content with
        | some program => .ok (.program program)
        | none => match interpreterOf? body.content with
          | some (interpreter, argument) => .ok (.interpreted interpreter argument)
          | none => .ok .script
  | .ok _ => .error .denied

/-- How often an interpreter may be a text that has an interpreter itself. -/
def maxInterpreters : Nat := 4

/-- What the interpreter at a path is in the end. -/
def interpreterKind (files : FileTree) (directory : Path) : (more : Nat) → (name : String) →
    Except FileError Executable
  | more, name =>
    match kindOf files directory name, more with
    | .ok (.interpreted _ _), 0 => .error .tooManyLinks
    | .ok (.interpreted name _), more + 1 => interpreterKind files directory more name
    | kind, _ => kind

/-- What the file at a path can be run as.  A text whose interpreter is none is one for a shell. -/
def executable (files : FileTree) (directory : Path) (name : String) : Except FileError Executable :=
  match kindOf files directory name with
  | .ok (.interpreted interpreter argument) =>
    match interpreterKind files directory maxInterpreters interpreter with
    | .error e => .error e
    | .ok .script => .ok .script
    | .ok _ => .ok (.interpreted interpreter argument)
  | kind => kind

/-- The directories in which programs are looked for; an empty name is that of the current directory. -/
def searchPath (s : Session) : List String :=
  match s.parameter? "PATH" with
  | some value => (Text.Utf8.decode value).splitOn ":"
  | none => []

/-- The path of a name in a directory. -/
def within (place name : String) : String := if place.isEmpty then name else place ++ "/" ++ name

/-- The time that it takes to begin a program. -/
def beginTime : Nat := 700

/-- Prints what a tool has printed; the result says whether something could not be written. -/
def printAll : List (Nat × Bytes) → Act (Option Session.WriteError)
  | [] => return none
  | (n, bytes) :: rest => do
    let failed ← Session.write n bytes
    match failed with
    | some e => if n = 1 then return some e else printAll rest
    | none => printAll rest

/-- Runs a tool in the process of the session; `carryOut` is how a shell carries out a command for it.
`taken` is the input that it was given before, `shown` the number of octets that it has printed, and
`answers` what came of its commands. -/
def runTool (carryOut : Order → Act (Nat × Bytes)) (tool : Tool) (name : Bytes) (args : List Bytes) :
    (fuel : Nat) → (taken : Bytes) → (shown : Nat) → (answers : List (Nat × Bytes)) → Act Unit
  | 0, _, _, _ => Act.hang
  | fuel + 1, taken, shown, answers => do
    let (new, isFile, ended, inputError) := match ← Session.readable 0 with
      | .bytes bytes isFile ended => (bytes, isFile, ended, none)
      | .closed => ([], false, true, some FileError.badDescriptor)
      | .failed e => ([], false, true, some e)
    let reply ← Act.onMachine fun s m =>
      let call : Call := {
        name := Text.Utf8.decode name, args := args, input := taken ++ new, isFile := isFile,
        ended := ended, inputError := inputError, files := m.files, directory := s.directory,
        environment := s.environment, umask := s.umask, isMuted := m.target? s.pid 1 = some .null
        outputFile := match m.target? s.pid 1 with
          | some (.file id) => (m.opened.lookup id).map (·.number)
          | _ => none
        answers := answers }
      let reply := tool call
      (reply, if reply.wants then m else { m with files := reply.files })
    let failed ← printAll (behind shown reply.printed)
    if reply.wants then
      Session.consume 0 new.length
      Session.awaitMore 0 0
      runTool carryOut tool name args fuel (taken ++ new) (Sequence.total (·.2.length) reply.printed) answers
    else if let some order := reply.order then
      Session.consume 0 new.length
      let answer ← carryOut order
      runTool carryOut tool name args fuel (taken ++ new) (Sequence.total (·.2.length) reply.printed) (answers ++ [answer])
    else
      Session.consume 0 (new.length - reply.unread.length)
      if reply.delay ≠ 0 then Act.pause reply.delay
      match failed with
      | some e =>
        Session.print 2 (name ++ bytesOf (": " ++ reply.complains e.message) ++ [lineFeed])
        Session.setStatus reply.unprinted
      | none => Session.setStatus reply.status
      match reply.signal with
      | some signal => Act.change fun s m => m.finish s.pid (.killed signal)
      | none => return ()
where
  /-- What is left of what is printed behind a number of octets. -/
  behind : Nat → List (Nat × Bytes) → List (Nat × Bytes)
    | _, [] => []
    | count, (n, bytes) :: rest =>
      if count < bytes.length then (n, bytes.drop count) :: rest
      else behind (count - bytes.length) rest

end Execute

end Progeny.Shell

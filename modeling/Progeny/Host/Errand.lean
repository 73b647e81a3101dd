import Progeny.Host.Options
import Progeny.Host.Inspection

/-!
# Errands

An errand is what a tool does to the files one step after the other, telling what it did or could not do.
-/

namespace Progeny.Host

open Text (Bytes bytesOf)

/-- The state of an errand. -/
structure Doings where
  files : FileTree
  /-- What was told, and on which descriptor, the latest first. -/
  told : List (Nat × Bytes) := []
  failed : Bool := false
  /-- The answers that are left, line by line. -/
  answers : List Bytes := []

/-- What is done to the files step by step. -/
abbrev Errand := StateM Doings

namespace Errand

/-- Tells a line. -/
def say (text : String) : Errand Unit := modify fun d => { d with told := (1, line text) :: d.told }

/-- Complains in the name of the tool, and goes on. -/
def complain (call : Call) (text : String) : Errand Unit :=
  modify fun d => { d with told := (2, call.complaint text) :: d.told, failed := true }

/-- The files as they are now. -/
def files : Errand FileTree := return (← get).files

/-- Puts other files in their place. -/
def put (files : FileTree) : Errand Unit := modify fun d => { d with files := files }

/-- Does something to the files, or tells why it was not possible; the result says whether it was. -/
def attempt (call : Call) (told : FileError → String) (change : FileTree → Except FileError FileTree) :
    Errand Bool := do
  match change (← files) with
  | .ok changed =>
    put changed
    return true
  | .error e =>
    complain call (told e)
    return false

/-- Asks a question; the answer is no if it does not begin with the letter of yes. -/
def ask (call : Call) (question : String) : Errand Bool := do
  modify fun d => { d with told := (2, bytesOf (call.name ++ ": " ++ question)) :: d.told }
  let answers := (← get).answers
  modify fun d => { d with answers := answers.drop 1 }
  return ((answers.head?.bind List.head?).any fun b => b = 121 || b = 89)

/-- Something for each of some things. -/
def forEach {α : Type} (f : α → Errand Unit) : List α → Errand Unit
  | [] => return ()
  | a :: rest => do
    f a
    forEach f rest

/-- The reply of a tool that does an errand. -/
def reply (call : Call) (status : Nat) (errand : Errand Unit) : Reply :=
  let (_, done) := errand.run { files := call.files, answers := linesOf call.input }
  { call.idle with
    files := done.files, printed := done.told.reverse, status := if done.failed then status else 0 }

end Errand

namespace Call

/-- The bits of a new file. -/
def newBits (call : Call) (bits : Nat) : Nat := bits - (bits &&& call.umask)

end Call

/-- A text without the slashes at its end. -/
def withoutSlashes (text : String) : String :=
  String.ofList (text.toList.reverse.dropWhile (· == '/')).reverse

/-- The last name in a text that stands for a path. -/
def lastName (text : String) : String :=
  if text.isEmpty then ""
  else
    let stem := withoutSlashes text
    if stem.isEmpty then "/" else (stem.splitOn "/").getLast?.getD ""

/-- Everything before the last name in a text that stands for a path. -/
def parentName (text : String) : String :=
  let stem := withoutSlashes text
  if stem.isEmpty then if text.startsWith "/" then "/" else "."
  else match (stem.splitOn "/").dropLast with
    | [] => "."
    | names =>
      let parent := withoutSlashes ("/".intercalate names)
      if parent.isEmpty then "/" else parent

/-- A name inside a directory. -/
def inside (directory name : String) : String :=
  if directory.endsWith "/" then directory ++ name else directory ++ "/" ++ name

end Progeny.Host

import Progeny.Shell.Launch

/-!
# Following files

The last lines of files, and what is appended to the files afterwards.
-/

namespace Progeny.Shell.Following

open Host
open Text (Bytes bytesOf)

/-- A file that is followed: its name, its number, and how much of it was printed. -/
structure Followed where
  name : String
  number : Nat
  shown : Nat

/-- The content of a file. -/
def contentOf (m : Machine) (number : Nat) : Bytes := ((m.files.bodies.lookup number).map (·.content)).getD []

/-- Whether a file is not as it was shown. -/
def Followed.hasChanged (m : Machine) (file : Followed) : Bool :=
  (contentOf m file.number).length ≠ file.shown

/-- Prints what is new in files; `latest` is the name of the one that was printed last, if headings are
wanted. -/
def showNew (name : Bytes) (latest : Option String) : List Followed → Act (List Followed × Option String)
  | [] => return ([], latest)
  | file :: rest => do
    let content := contentOf (← Act.machine) file.number
    let isCut := content.length < file.shown
    let new := if isCut then content else content.drop file.shown
    if isCut then Launch.complain name (file.name ++ ": file truncated")
    let latest ← if new.isEmpty then pure latest else do
      if latest.any (· ≠ file.name) then
        Session.print 1 (lineFeed :: line ("==> " ++ Lines.heading file.name ++ " <=="))
      Session.print 1 new
      pure (latest.map fun _ => file.name)
    let (others, latest) ← showNew name latest rest
    return ({ file with shown := content.length } :: others, latest)

/-- Prints what is appended to files, as long as a process lives, if one is given. -/
def follow (name : Bytes) (owner : Option Nat) : (fuel : Nat) → (latest : Option String) → List Followed → Act Unit
  | 0, _, _ => Act.hang
  | fuel + 1, latest, files => do
    let isOver (m : Machine) : Bool := owner.any (! m.isAlive ·)
    Act.await fun m => isOver m || files.any (·.hasChanged m)
    let (files, latest) ← showNew name latest files
    if ! isOver (← Act.machine) then follow name owner fuel latest files

/-- Prints the last lines or octets of files, and follows them, if that is asked for. -/
def tail (run : Runner) (name : Bytes) (args : List Bytes) : Act Unit := do
  Execute.runTool (Launch.carryOut run) Lines.tail name args 100000 [] 0 []
  match Lines.following? (args.map Text.Utf8.decode) with
  | none => return ()
  | some request =>
    let s ← get
    let m ← Act.machine
    let owner := (request.value? 'à').bind String.toNat?
    let files := request.operands.filterMap fun operand =>
      match m.files.find s.directory operand true with
      | .ok (_, .file number) => some (⟨operand, number, (contentOf m number).length⟩ : Followed)
      | _ => none
    let reads := Call.takesInput request.operands
    let waits := if reads then ! (m.target? s.pid 0 matches some (.pipe _ _))
      else request.operands.any fun operand => (m.files.find s.directory operand true).toOption.isSome
    if waits || request.asks 'F' || request.asks 'á' then
      let isTitled := request.operands.length > 1 && ! request.asks 'q'
      follow name owner 100000 (if isTitled then some ((files.getLast?.map (·.name)).getD "") else none) files
    else if ! reads then
      Launch.complain name "no files remaining"
      Session.setStatus 1

end Progeny.Shell.Following

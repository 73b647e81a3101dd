import Progeny.Host.FileTree
import Progeny.Host.Signal

/-!
# Machines

A machine has files, a clock, pipes, open files, and processes that hold descriptors.  What is printed
as a diagnostic is collected.  The clock counts in millionths of a second.
-/

namespace Progeny.Host

open Text (Bytes)

/-- What a descriptor leads to. -/
inductive Target where
  | null
  | zero
  | random
  | full
  /-- What is written there is collected. -/
  | diagnostic
  | pipe (id : Nat) (writes : Bool)
  /-- An open file, which has a place of its own in the file. -/
  | file (id : Nat)
  | directory (path : Path)
  deriving DecidableEq

/-- An open file. -/
structure OpenFile where
  /-- The number of the file. -/
  number : Nat
  offset : Nat
  append : Bool
  reads : Bool
  writes : Bool

/-- What was written to a pipe and not yet read, the latest first. -/
structure Pipe where
  chunks : List Bytes
  size : Nat

/-- How a process ended. -/
inductive Ending where
  | exited (status : Nat)
  | killed (signal : Nat)
  deriving DecidableEq

/-- The status that an ending is told by. -/
def Ending.status : Ending → Nat
  | .exited n => n
  | .killed n => 128 + n

/-- What a machine knows of a process. -/
structure Slot where
  parent : Nat
  group : Nat
  descriptors : List (Nat × Target) := []
  /-- What is kept open besides the descriptors. -/
  saved : List Target := []
  ignored : List Nat := []
  caught : List Nat := []
  /-- The signals that were caught and not yet looked at. -/
  pending : List Nat := []
  stopped : Bool := false
  /-- How and when it ended. -/
  ended : Option (Ending × Nat) := none
  /-- The process that began it has looked at how it ended. -/
  seen : Bool := false

/-- A machine. -/
structure Machine where
  files : FileTree
  now : Nat := 0
  /-- What was printed as a diagnostic, the latest first. -/
  diagnostic : List Bytes := []
  pipes : List (Nat × Pipe) := []
  opened : List (Nat × OpenFile) := []
  slots : List (Nat × Slot) := []
  /-- A number that no pipe and no open file has. -/
  fresh : Nat := 0
  /-- The number of the next process. -/
  nextProcess : Nat := 4242

/-- What becomes of something that is written. -/
inductive Written where
  | done (machine : Machine)
  /-- There is no room now. -/
  | wait
  /-- Nobody will read it. -/
  | broken
  /-- The descriptor is not open for writing. -/
  | closed
  /-- There will be no room. -/
  | noSpace

/-- What can be read. -/
inductive Readable where
  /-- The octets that are there, and whether no others will come. -/
  | bytes (bytes : Bytes) (isFile ended : Bool)
  /-- The descriptor is not open for reading. -/
  | closed
  | failed (error : FileError)

namespace Machine

/-- What is known of a process. -/
def slot? (m : Machine) (pid : Nat) : Option Slot := m.slots.lookup pid

/-- Whether a process has not ended. -/
def isAlive (m : Machine) (pid : Nat) : Bool := (m.slot? pid).any (·.ended.isNone)

/-- How a process ended. -/
def ending? (m : Machine) (pid : Nat) : Option Ending := (m.slot? pid).bind fun slot => slot.ended.map (·.1)

/-- Changes what is known of a process. -/
def changeSlot (m : Machine) (pid : Nat) (f : Slot → Slot) : Machine :=
  { m with slots := m.slots.map fun (p, slot) => (p, if p = pid then f slot else slot) }

/-- What a descriptor of a process leads to. -/
def target? (m : Machine) (pid descriptor : Nat) : Option Target :=
  (m.slot? pid).bind (·.descriptors.lookup descriptor)

/-- Leads a descriptor of a process elsewhere, or closes it. -/
def setTarget (m : Machine) (pid descriptor : Nat) (target : Option Target) : Machine :=
  m.changeSlot pid fun slot =>
    let others := slot.descriptors.filter (·.1 != descriptor)
    { slot with descriptors := match target with
        | some target => (descriptor, target) :: others
        | none => others }

/-- Whether a process that has not ended keeps something open. -/
def isHeld (m : Machine) (target : Target) : Bool :=
  m.slots.any fun (_, slot) =>
    slot.ended.isNone && (slot.saved.contains target || slot.descriptors.any (·.2 == target))

/-! ### Pipes and open files -/

/-- The pipes that somebody keeps open, and those that have a name. -/
def heldPipes (m : Machine) : List (Nat × Pipe) :=
  m.pipes.filter fun (id, _) => id % 2 = 1 || m.isHeld (.pipe id false) || m.isHeld (.pipe id true)

/-- A new pipe. -/
def newPipe (m : Machine) : Machine × Nat :=
  ({ m with pipes := (2 * m.fresh, ⟨[], 0⟩) :: m.heldPipes, fresh := m.fresh + 1 }, 2 * m.fresh)

/-- A new open file. -/
def newOpen (m : Machine) (file : OpenFile) : Machine × Nat :=
  let held := m.opened.filter fun (id, _) => m.isHeld (.file id)
  ({ m with opened := (m.fresh, file) :: held, fresh := m.fresh + 1 }, m.fresh)

/-- Changes a pipe. -/
def setPipe (m : Machine) (id : Nat) (pipe : Pipe) : Machine :=
  { m with pipes := (id, pipe) :: m.pipes.filter (·.1 != id) }

/-- Changes an open file. -/
def setOpen (m : Machine) (id : Nat) (file : OpenFile) : Machine :=
  { m with opened := (id, file) :: m.opened.filter (·.1 != id) }

/-- The number of octets from which on a pipe takes no more. -/
def capacity : Nat := 65536

/-- The pipe that a named pipe stands for; the numbers of other pipes are even. -/
def fifoId (number : Nat) : Nat := 2 * number + 1

/-- The octets of an open file's content with some written over it. -/
def overwrite (content : Bytes) (offset : Nat) (bytes : Bytes) : Bytes :=
  content.take offset ++ List.replicate (offset - content.length) 0 ++ bytes ++
    content.drop (offset + bytes.length)

/-- The content of a file by its number. -/
def contentOf (m : Machine) (number : Nat) : Bytes :=
  ((m.files.bodies.lookup number).map (·.content)).getD []

/-- Writes to what a descriptor of a process leads to. -/
def write (m : Machine) (pid descriptor : Nat) (bytes : Bytes) : Written :=
  match m.target? pid descriptor with
  | none => .closed
  | some .null | some .zero | some .random => .done m
  | some .full => if bytes.isEmpty then .done m else .noSpace
  | some .diagnostic => .done { m with diagnostic := bytes :: m.diagnostic }
  | some (.pipe _ false) | some (.directory _) => .closed
  | some (.pipe id true) =>
    if ! m.isHeld (.pipe id false) then .broken
    else
      let pipe := (m.pipes.lookup id).getD ⟨[], 0⟩
      if pipe.size ≥ capacity then .wait
      else .done (m.setPipe id ⟨bytes :: pipe.chunks, pipe.size + bytes.length⟩)
  | some (.file id) =>
    match m.opened.lookup id with
    | none => .closed
    | some file =>
      if ! file.writes then .closed
      else
        let content := m.contentOf file.number
        let offset := if file.append then content.length else file.offset
        let files := m.files.setContent file.number (overwrite content offset bytes)
        .done ({ m with files := files }.setOpen id { file with offset := offset + bytes.length })

/-- What can be read from what a descriptor of a process leads to. -/
def readable (m : Machine) (pid descriptor : Nat) : Readable :=
  match m.target? pid descriptor with
  | none | some .diagnostic | some (.pipe _ true) => .closed
  | some .null => .bytes [] false true
  | some .zero | some .full => .bytes (List.replicate FileTree.maxRead 0) false true
  | some .random => .bytes FileTree.randomOctets false true
  | some (.directory _) => .failed .isDirectory
  | some (.pipe id false) =>
    let pipe := (m.pipes.lookup id).getD ⟨[], 0⟩
    .bytes pipe.chunks.reverse.flatten false (! m.isHeld (.pipe id true))
  | some (.file id) =>
    match m.opened.lookup id with
    | none => .closed
    | some file =>
      if file.reads then .bytes ((m.contentOf file.number).drop file.offset) true true else .closed

/-- Takes octets from what a descriptor of a process leads to, once they were read. -/
def consume (m : Machine) (pid descriptor count : Nat) : Machine :=
  match m.target? pid descriptor with
  | some (.pipe id false) =>
    match m.pipes.lookup id with
    | some pipe =>
      let rest := pipe.chunks.reverse.flatten.drop count
      m.setPipe id ⟨if rest.isEmpty then [] else [rest], rest.length⟩
    | none => m
  | some (.file id) =>
    match m.opened.lookup id with
    | some file => m.setOpen id { file with offset := file.offset + count }
    | none => m
  | _ => m

/-- The machine at a later time.  Files that are there from the beginning are older than all others. -/
def moved (m : Machine) (time : Nat) : Machine :=
  { m with now := time, files := { m.files with clock := time + 1 } }

/-! ### Processes -/

/-- A new process with the descriptors of another one. -/
def newProcess (m : Machine) (parent : Nat) : Machine × Nat :=
  let pid := m.nextProcess
  let slot : Slot := match m.slot? parent with
    | some slot => { slot with parent := parent, saved := [], caught := [], pending := [], ended := none, seen := false }
    | none => { parent := parent, group := pid }
  ({ m with slots := (pid, slot) :: m.slots, nextProcess := pid + 1 }, pid)

/-- Ends a process.  The one that began it is told, if it wants to be. -/
def finish (m : Machine) (pid : Nat) (ending : Ending) : Machine :=
  match m.slot? pid with
  | none => m
  | some slot =>
    if slot.ended.isSome then m
    else
      let m := m.changeSlot pid fun slot =>
        { slot with ended := some (ending, m.now), descriptors := [], saved := [] }
      m.changeSlot slot.parent fun parent =>
        if parent.caught.contains Signal.child then
          { parent with pending := parent.pending.filter (· ≠ Signal.child) ++ [Signal.child] }
        else parent

/-- Forgets a process. -/
def forget (m : Machine) (pid : Nat) : Machine := { m with slots := m.slots.filter (·.1 ≠ pid) }

/-- Notes that a process has looked at how those ended that it began. -/
def look (m : Machine) (parent : Nat) : Machine :=
  { m with slots := m.slots.map fun (pid, slot) =>
      (pid, if slot.parent = parent && slot.ended.isSome then { slot with seen := true } else slot) }

/-- Sends a signal to a process. -/
def signal (m : Machine) (pid signal : Nat) : Machine :=
  match m.slot? pid with
  | none => m
  | some slot =>
    if signal = 0 || slot.ended.isSome then m
    else if signal = Signal.kill then m.finish pid (.killed signal)
    else if signal = Signal.resume then m.changeSlot pid fun slot => { slot with stopped := false }
    else if slot.ignored.contains signal then m
    else if slot.caught.contains signal then
      m.changeSlot pid fun slot => { slot with pending := slot.pending ++ [signal] }
    else match Signal.effect signal with
      | .ends => m.finish pid (.killed signal)
      | .stops => m.changeSlot pid fun slot => { slot with stopped := true }
      | .nothing => m

/-- The processes of a group. -/
def group (m : Machine) (group : Nat) : List Nat :=
  (m.slots.filter fun (_, slot) => slot.group = group && slot.ended.isNone).map (·.1)

/-- Sends a signal to all processes of a group. -/
def signalGroup (m : Machine) (group signal : Nat) : Machine :=
  (m.group group).foldl (fun m pid => m.signal pid signal) m

end Machine

end Progeny.Host

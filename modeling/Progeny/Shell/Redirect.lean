import Progeny.Shell.Expand

/-!
# Redirections

Redirections are opened in order, after all their words were expanded.  One that cannot be opened is
told, and nothing behind it is opened.
-/

namespace Progeny.Shell

open Host
open Text (Bytes bytesOf)

namespace Redirect

/-- A redirection whose words were expanded. -/
inductive Ready where
  | opening (descriptor : Nat) (how : Opening) (target : Bytes)
  | document (descriptor : Nat) (content : Bytes)

/-- The descriptor that is led elsewhere. -/
def Ready.descriptor : Ready → Nat
  | .opening n _ _ | .document n _ => n

/-- Whether a text stands for a descriptor, or says that one is closed. -/
def namesDescriptor (target : Bytes) : Bool :=
  target = [45] || (target.length = 1 && target.all isDigit)

/-- Expands the words of redirections. -/
def expand (inside : Expand.Inside) : List Redirection → Act (List Ready)
  | [] => return []
  | .opening n how word :: rest => do
    let target ← Expand.single inside {} word
    if how = .duplicate && ! namesDescriptor target then Session.fail "Syntax error: Bad fd number"
    return .opening n how target :: (← expand inside rest)
  | .document n number :: rest => do
    let word := ((← get).documents.lookup number).getD []
    let content ← Expand.single inside { tildes := false } word
    return .document n content :: (← expand inside rest)

/-- The text of an error of opening. -/
def reason (creates : Bool) : FileError → String
  | .notFound | .notDirectory => if creates then "Directory nonexistent" else "No such file"
  | e => e.message

/-- Whether a redirection may make a file. -/
def creates : Opening → Bool
  | .input | .duplicate => false
  | _ => true

/-- Fails because a file cannot be opened. -/
def refuse {α : Type} (how : Opening) (name : Bytes) (e : FileError) : Act α :=
  Session.failWith (bytesOf (if creates how then "cannot create " else "cannot open ") ++ name ++
    bytesOf (": " ++ reason (creates how) e))

/-- What a device is opened as. -/
def targetOf (s : Session) (m : Machine) (writes : Bool) : Device → Except FileError Target
  | .null => .ok .null
  | .zero => .ok .zero
  | .random => .ok .random
  | .full => .ok .full
  | .fifo number => .ok (.pipe (Machine.fifoId number) writes)
  | .descriptor n => match m.target? s.pid n with
    | some target => .ok target
    | none => .error .notFound

/-- Opens a file. -/
def openFile (how : Opening) (name : Bytes) (s : Session) (m : Machine) : Except FileError (Target × Machine) := do
  let text := Text.Utf8.decode name
  let reads := how = .input || how = .inputAndOutput
  let opened (m : Machine) (number : Nat) : Target × Machine :=
    let (m, id) := m.newOpen ⟨number, 0, how = .append, reads, how ≠ .input⟩
    (.file id, m)
  match how with
  | .input =>
    match ← m.files.find s.directory text true with
    | (path, .directory _) => return (.directory path, m)
    | (_, .file number) => return opened m number
    | (_, .device device) => return (← targetOf s m false device, m)
    | (_, .link _) => throw .notFound
  | _ =>
    let protects := how = .output false && s.options.contains 'C'
    let (files, entry) ← m.files.openForWriting s.directory text (0o666 - (0o666 &&& s.umask)) protects
    let m := { m with files := files }
    match entry with
    | .file number =>
      let cleared := (how matches .output _)
      return opened (if cleared then { m with files := files.setContent number [] } else m) number
    | .device device => return (← targetOf s m true device, m)
    | _ => throw .isDirectory

/-- Waits until somebody has opened the other end of a pipe that has a name. -/
def awaitPartner : Target → Act Unit
  | .pipe id writes =>
    if id % 2 = 1 then
      Act.await fun m => m.isHeld (.pipe id (! writes)) || (m.pipes.lookup id).any fun p => p.size > 0
    else return ()
  | _ => return ()

/-- Opens a redirection. -/
def apply : Ready → Act Unit
  | .document n content => Act.change fun s m =>
    let (m, id) := m.newPipe
    (m.setPipe id ⟨if content.isEmpty then [] else [content], content.length⟩).setTarget s.pid n
      (some (.pipe id false))
  | .opening n .duplicate target =>
    match target with
    | [b] =>
      if b = 45 then Act.change fun s m => m.setTarget s.pid n none
      else do
        let source := decimal [b]
        let found ← Act.onMachine fun s m => (m.target? s.pid source, m)
        if found.isNone then Session.fail (source.repr ++ ": Bad file descriptor")
        Act.change fun s m => m.setTarget s.pid n found
    | _ => Session.fail "Syntax error: Bad fd number"
  | .opening n how target => do
    let result ← Act.onMachine fun s m => match openFile how target s m with
      | .error e => (Except.error e, m)
      | .ok (found, m) => (.ok found, m.setTarget s.pid n (some found))
    match result with
    | .error e => refuse how target e
    | .ok found => awaitPartner found

/-- Opens redirections in order; the result says whether all could be opened. -/
def attempt (rs : List Ready) : Act Bool := do
  try
    go rs
    return true
  catch
    | .failure => return false
    | other => throw other
where
  go : List Ready → Act Unit
    | [] => return ()
    | r :: rest => do
      apply r
      go rest

/-- What is known of the process of a shell. -/
def ownSlot : Act Slot := Act.onMachine fun s m => ((m.slot? s.pid).getD { parent := 0, group := 0 }, m)

/-- Runs something under redirections, which are undone afterwards; `refused` is run instead if they
cannot be opened.  What runs is given what the descriptor of diagnostics led to before. -/
def under (rs : List Ready) (refused : Act Unit) (body : Option Target → Act Unit) : Act Unit := do
  let slot ← ownSlot
  let before := slot.descriptors.lookup 2
  if rs.isEmpty then body before
  else
    let changed := rs.map Ready.descriptor
    Act.change fun s m => m.changeSlot s.pid fun slot =>
      { slot with saved := (changed.filterMap fun n => slot.descriptors.lookup n) ++ slot.saved }
    let run : Act Unit := do
      if ← attempt rs then body before else refused
    Act.afterwards run do
      Act.change fun s m =>
        changed.foldl (fun m n => m.setTarget s.pid n (slot.descriptors.lookup n))
          (m.changeSlot s.pid fun now => { now with saved := slot.saved })

/-- Prints where the descriptor of diagnostics led to. -/
def printOn (target : Option Target) (bytes : Bytes) : Act Unit := do
  let now ← Act.onMachine fun s m => (m.target? s.pid 2, m)
  Act.change fun s m => m.setTarget s.pid 2 target
  Session.print 2 bytes
  Act.change fun s m => m.setTarget s.pid 2 now

end Redirect

end Progeny.Shell

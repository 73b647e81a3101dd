import Progeny.Host.Finding
import Progeny.Shell.Launch

/-!
# Looking for files

The program that goes through directories and does something with what it finds there.
-/

namespace Progeny.Shell.Seeking

open Host
open Text (Bytes bytesOf)
open Finding (Found Criterion Action Route)

/-- The state of a search. -/
structure Search where
  failed : Bool := false
  /-- No more is looked for. -/
  stopped : Bool := false
  /-- What is in the directory at hand is not looked for. -/
  pruned : Bool := false
  /-- What programs are run for all together: the number, the words and the names. -/
  batches : List (Nat × List String × List (Path × String)) := []

/-- What a step of a search gives, and the search behind it. -/
abbrev Step (α : Type) := StateT Search Act α

variable (run : Runner) (name : Bytes)

/-- Complains, and remembers that. -/
def complain (text : String) : Step Unit := do
  Launch.complain name text
  modify fun d => { d with failed := true }

/-- The files as they are now. -/
def files : Step FileTree := do
  let m ← (Act.machine : Act Machine)
  return m.files

/-- Prints something, or adds it to a file. -/
def deliver (file : Option String) (bytes : Bytes) : Step Unit := do
  match file with
  | none => (Session.print 1 bytes : Act Unit)
  | some file => (Act.change fun s m => match m.files.openForWriting s.directory file 0o644 false with
      | .ok (files, .file number) =>
        let old := ((files.bodies.lookup number).map (·.content)).getD []
        { m with files := files.setContent number (old ++ bytes) }
      | _ => m : Act Unit)

/-- Runs a program and waits for it, in a directory if one is given; the result says whether it succeeded. -/
def launch (words : List String) (inside : Option Path) : Act Bool := do
  match words.map bytesOf with
  | [] => return true
  | program :: args =>
    let move : Act Unit := modify fun s => match inside with
      | some path => { s with directory := path }
      | none => s
    let child ← Act.fork id do
      move
      match ← Launch.find program with
      | .ok place =>
        run.program place program args
        Act.exit
      | .error e => Launch.refuse name 1 (quoted (Text.Utf8.decode program) ++ ": " ++ e.message)
    match ← Session.awaitEnd child with
    | .exited status => return status = 0
    | .killed _ => return false

/-- A name as a program that runs in its directory is given it. -/
def localName (found : Found) : String := if found.base.startsWith "/" then found.base else "./" ++ found.base

/-- Deletes something. -/
def delete (found : Found) : Step Bool := do
  if found.name = "." then return true
  let tree ← files
  let isFull := found.entry.isDirectory && ! (tree.children found.path).isEmpty
  if (tree.entryAt? found.path).isNone || isFull then
    complain name ("cannot delete " ++ quoted found.name ++ ": " ++
      (if isFull then FileError.notEmpty else FileError.notFound).message)
    return false
  (Act.change fun _ m => { m with files := m.files.remove found.path } : Act Unit)
  return true

/-- Does something with what was found. -/
def perform (found : Found) : Action → Step Bool
  | .print file ending => do
    deliver file (bytesOf found.name ++ ending)
    return true
  | .format file text => do
    deliver file (bytesOf (Finding.formatted (← files) found (text.length + 1) text.toList))
    return true
  | .delete => delete name found
  | .prune => do
    modify fun d => { d with pruned := true }
    return true
  | .quit => do
    modify fun d => { d with stopped := true }
    return true
  | .run words inside asks => do
    let given := if inside then localName found else found.name
    let command := words.map fun word => given.intercalate (word.splitOn "\x7b\x7d")
    let agreed : Bool ← if asks then do
        let label := "< " ++ words.headD "" ++ " ... " ++ found.name ++ " > ? "
        (Session.print 2 (bytesOf label) : Act Unit)
        let answer ← (Run.takeInput 100000 : Act Bytes)
        pure (answer.head?.any fun b => b = 121 || b = 89)
      else pure true
    if ! agreed then return false
    (launch run name command (if inside then some found.path.dropLast else none) : Act Bool)
  | .batch number words inside => do
    let given := if inside then localName found else found.name
    let place : Path := if inside then found.path.dropLast else []
    modify fun d =>
      let names := ((d.batches.lookup number).map (·.2)).getD []
      { d with batches := d.batches.filter (·.1 ≠ number) ++ [(number, words, names ++ [(place, given)])] }
    return true

/-- Whether something is what is looked for. -/
def holds (found : Found) : Criterion → Step Bool
  | .test test => return test.passes (← files) found
  | .act action => perform run name found action
  | .not a => return ! (← holds found a)
  | .both a b => do
    let first ← holds found a
    if ! first || (← get).stopped then return first else holds found b
  | .either a b => do
    let first ← holds found a
    if first || (← get).stopped then return first else holds found b
  | .list a b => do
    let first ← holds found a
    if (← get).stopped then return first else holds found b

/-- What a name inside a directory stands for; links are followed only if that is wanted. -/
def look (directory : Path) (text : String) (follows : Bool) : Step (Except FileError (Path × Entry)) := do
  let tree ← files
  return match tree.find directory text follows with
    | .ok (path, entry) => .ok (path, entry)
    | .error e => match follows, tree.find directory text false with
      | true, .ok found => .ok found
      | _, _ => .error e

/-- Looks at something, and at what is in it. -/
def visit (route : Route) (criterion : Criterion) : (fuel : Nat) → Found → Step Unit
  | 0, _ => return ()
  | fuel + 1, found => do
    let judge : Step Unit := do
      if route.least ≤ found.depth && ! (← get).stopped then
        let _ ← holds run name found criterion
    modify fun d => { d with pruned := false }
    if ! route.upwards then judge
    let pruned := (← get).pruned && ! route.upwards
    let descends := found.entry.isDirectory && ! pruned && route.most.all (found.depth < ·) && ! (← get).stopped
    if descends then
      let tree ← files
      if ! tree.isDirectory found.path then complain name (quoted found.name ++ ": " ++ FileError.notFound.message)
      else
        (tree.children found.path).forM fun child => do
          if ! (← get).stopped then
            match ← look found.path child route.follows with
            | .ok (path, entry) =>
              visit route criterion fuel
                { found with name := inside found.name child, depth := found.depth + 1, path := path, entry := entry }
            | .error _ => pure ()
    if route.upwards then judge

/-- Runs the programs that are run for all together. -/
def finish : Step Unit := do
  let batches := (← get).batches.mergeSort fun a b => a.1 ≤ b.1
  batches.forM fun (_, words, names) => do
    let places := (names.map (·.1)).eraseDups
    places.forM fun place => do
      let given := (names.filter (·.1 == place)).map (·.2)
      let succeeded ← (launch run name (words ++ given) (if place.isEmpty then none else some place) : Act Bool)
      if ! succeeded then modify fun d => { d with failed := true }

/-- Goes through all places that are named. -/
def search (order : Finding.Order) : Step Unit := do
  order.starts.forM fun start => do
    if ! (← get).stopped then
      let here := (← (MonadState.get : Act Session)).directory
      match ← look here start (order.route.follows || order.route.followsFirst) with
      | .ok (path, entry) => visit run name order.route order.criterion 4096 ⟨start, start, 0, path, entry⟩
      | .error e => complain name (quoted start ++ ": " ++ e.message)
  finish run name

/-- Looks for files. -/
def find (args : List Bytes) : Act Unit := do
  let s ← get
  let tree := (← Act.machine).files
  match Finding.order ⟨tree, s.directory⟩ (args.map Text.Utf8.decode) with
  | .error text => Launch.refuse name 1 text
  | .ok order =>
    order.criterion.outputs.forM fun file => Act.change fun s m =>
      match m.files.write s.directory file (0o666 - (0o666 &&& s.umask)) [] with
      | .ok files => { m with files := files }
      | .error _ => m
    let (_, done) ← (search run name order).run {}
    Launch.stop (if done.failed then 1 else 0)

end Progeny.Shell.Seeking

import Progeny.Shell.Execute

/-!
# Looking programs up

A shell looks for a program of a plain name in the directories of its search path, and remembers which of
them it was found in.  The directory is not looked for again until the search path changes; once the
current directory has changed, only the directories that are relative to it are looked at again.
-/

namespace Progeny.Shell.Lookup

open Host
open Text (Bytes bytesOf)

/-- Which of some numbered directories holds a program: the directory and its number, or what is wrong with
the last one that has something of the name. -/
def among (files : FileTree) (directory : Path) (name : String) (places : List (String × Nat)) :
    Except FileError (String × Nat) :=
  go .notFound places
where
  go (reason : FileError) : List (String × Nat) → Except FileError (String × Nat)
    | [] => .error reason
    | (place, index) :: rest =>
      match Execute.executable files directory (Execute.within place name) with
      | .ok _ => .ok (place, index)
      | .error .notFound | .error .notDirectory => go reason rest
      | .error other => go other rest

/-- Whether a name is that of a file wherever the search path leads. -/
def isPath (name : String) : Bool := name.toList.contains '/'

/-- The file that a name of a program stands for in the directories of a path. -/
def fileFor (files : FileTree) (directory : Path) (path : List String) (name : String) :
    Except FileError String := do
  let place ← if isPath name then .ok name
    else if name.isEmpty then .error .notFound
    else (among files directory name path.zipIdx).map fun (place, _) => Execute.within place name
  let _ ← Execute.executable files directory place
  return place

/-- The file that a name of a program stands for in the directories of a path, as it is now. -/
def inPath (path : List String) (name : Bytes) : Act (Except FileError String) := do
  let s ← get
  return fileFor (← Act.machine).files s.directory path (Text.Utf8.decode name)

/-- Which directories a program of a name is looked for in, after what is known of it. -/
def candidates (path : List String) : Option Remembered → List (String × Nat)
  | none => path.zipIdx
  | some known => path.zipIdx.filter fun (place, index) =>
      known.index ≤ index || (! known.isCertain && ! place.startsWith "/")

/-- Drops what is known of a program. -/
def forget (name : String) : Act Unit :=
  modify fun s => { s with remembered := s.remembered.filter (·.name ≠ name) }

/-- Remembers which directory of the search path a program is in. -/
def remember (name : String) (index : Nat) : Act Unit := modify fun s =>
  let found : Remembered := ⟨name, index, true⟩
  { s with remembered :=
      if s.remembered.any (·.name = name) then
        s.remembered.map fun old => if old.name = name then found else old
      else s.remembered ++ [found] }

/-- The file that a name of a program stands for in the search path.  Where it was found is remembered,
unless a function has the name. -/
def find (name : Bytes) : Act (Except FileError String) := do
  let s ← get
  let m ← Act.machine
  let text := Text.Utf8.decode name
  let path := Execute.searchPath s
  if isPath text || text.isEmpty || (s.functions.lookup text).isSome then inPath path name
  else
    let known := s.remembered.find? (·.name = text)
    let isCertain := known.any (·.isCertain)
    match among m.files s.directory text (candidates path known) with
    | .ok (place, index) =>
      if ! isCertain then remember text index
      return .ok (Execute.within place text)
    | .error e =>
      if ! isCertain then forget text
      return .error e

/-- The file that is remembered for a program. -/
def fileOf (s : Session) (known : Remembered) : String :=
  Execute.within ((Execute.searchPath s).getD known.index "") known.name

/-- The file that is remembered for a name. -/
def known? (name : String) : Act (Option String) := do
  let s ← get
  return (s.remembered.find? (·.name = name)).map (fileOf s)

/-- Whether a name is one of a file, or there is a file with it in the directories of a path. -/
def isThere (path : List String) (name : Bytes) : Act Bool := do
  let s ← get
  let m ← Act.machine
  let text := Text.Utf8.decode name
  return isPath text || path.any fun place =>
    match m.files.find s.directory (Execute.within place text) true with
    | .ok (_, .file _) => true
    | _ => false

/-- The lines that tell which programs are remembered; a star stands behind what is to be looked at again. -/
def listing (s : Session) : List String :=
  (s.remembered.mergeSort fun a b => Session.rowOf 31 a.name ≤ Session.rowOf 31 b.name).map fun known =>
    fileOf s known ++ (if known.isCertain then "" else "*")

/-- Looks again for what is relative to the current directory, which has changed. -/
def doubt : Act Unit :=
  modify fun s => { s with remembered := s.remembered.map fun known => { known with isCertain := false } }

end Progeny.Shell.Lookup

import Progeny.Text.Utf8

/-!
# File trees

A file tree maps paths to directories, files, links and devices.  A path is the list of names from the
root down, so that the list of no names is the root itself.  Two paths may lead to one file, and a file
that no path leads to any more can still be read by whoever has opened it; so a file is a number, under
which its content is kept.
-/

namespace Progeny.Host

open Text (Bytes bytesOf)

/-- The names from the root down. -/
abbrev Path := List String

/-- Why something cannot be done with a file. -/
inductive FileError where
  | notFound
  | denied
  | alreadyThere
  | notDirectory
  | isDirectory
  | invalid
  | nameTooLong
  | notEmpty
  | tooManyLinks
  | badDescriptor
  /-- What would be read is what is written. -/
  | isOutput
  deriving DecidableEq

namespace FileError

/-- The text of an error. -/
def message : FileError → String
  | .notFound => "No such file or directory"
  | .denied => "Permission denied"
  | .alreadyThere => "File exists"
  | .notDirectory => "Not a directory"
  | .isDirectory => "Is a directory"
  | .invalid => "Invalid argument"
  | .nameTooLong => "File name too long"
  | .notEmpty => "Directory not empty"
  | .tooManyLinks => "Too many levels of symbolic links"
  | .badDescriptor => "Bad file descriptor"
  | .isOutput => "input file is output file"

/-- The number of an error. -/
def number : FileError → Nat
  | .notFound => 2
  | .denied => 13
  | .alreadyThere => 17
  | .notDirectory => 20
  | .isDirectory => 21
  | .invalid => 22
  | .nameTooLong => 36
  | .notEmpty => 39
  | .tooManyLinks => 40
  | .badDescriptor => 9
  | .isOutput => 22

end FileError

/-- A device. -/
inductive Device where
  /-- It is empty, and what is written to it is lost. -/
  | null
  /-- It holds zeros without end. -/
  | zero
  /-- It holds octets of all values without end. -/
  | random
  /-- Nothing can be written to it. -/
  | full
  /-- What a descriptor leads to. -/
  | descriptor (n : Nat)
  /-- What is written to it is read from it, once. -/
  | fifo (number : Nat)
  deriving DecidableEq

/-- What is found at a path. -/
inductive Entry where
  | directory (mode : Nat)
  | file (number : Nat)
  | link (target : String)
  | device (device : Device)
  deriving DecidableEq

namespace Entry

/-- Whether an entry is a directory. -/
def isDirectory : Entry → Bool
  | .directory _ => true
  | _ => false

end Entry

/-- A file: its content, its permission bits, and when it was changed. -/
structure FileBody where
  content : Bytes
  mode : Nat
  changed : Nat := 0
  deriving DecidableEq

/-- The entries of a tree, one for each path, and the files, one for each number. -/
structure FileTree where
  entries : List (Path × Entry)
  bodies : List (Nat × FileBody)
  /-- A number that no file has. -/
  fresh : Nat
  /-- The time. -/
  clock : Nat := 0
  deriving DecidableEq

namespace Path

/-- The names in a text, between slashes. -/
def names (text : String) : List String := (text.splitOn "/").filter (! ·.isEmpty)

/-- The names that a text leads through: a slash at its end asks for a directory. -/
def steps (text : String) : List String :=
  names text ++ if text.endsWith "/" then ["."] else []

/-- The text of a path. -/
def render (path : Path) : String := "/" ++ "/".intercalate path

/-- The greatest number of octets in a name. -/
def maxName : Nat := 255

/-- The least number of octets that are too many for the text of a path. -/
def tooLong : Nat := 4096

end Path

namespace FileTree

/-- The entry at a path. -/
def entryAt? (tree : FileTree) (path : Path) : Option Entry :=
  if path.isEmpty then some (.directory 0o755) else tree.entries.lookup path

/-- Whether there is a directory at a path. -/
def isDirectory (tree : FileTree) (path : Path) : Bool := (tree.entryAt? path).any Entry.isDirectory

/-- The body of the file at a path. -/
def body? (tree : FileTree) (path : Path) : Option FileBody :=
  match tree.entryAt? path with
  | some (.file number) => tree.bodies.lookup number
  | _ => none

/-- More octets than are read of what has no end. -/
def maxRead : Nat := 1048576

/-- Octets of all values, as many as are read of what has no end. -/
def randomOctets : Bytes := (List.range (maxRead / 16)).map fun n => (n * 167 + n / 256).toUInt8

/-- More links than are followed on one way. -/
def maxLinks : Nat := 40

/-- Follows names from a path on.  A link at the end is followed only if `final`. -/
def follow (tree : FileTree) (final : Bool) : (fuel links : Nat) → Path → List String →
    Except FileError Path
  | 0, _, _, _ => .error .tooManyLinks
  | _, _, here, [] => .ok here
  | fuel + 1, links, here, name :: rest =>
    match tree.entryAt? here with
    | none => .error .notFound
    | some (.directory _) =>
      if name = "." then follow tree final fuel links here rest
      else if name = ".." then follow tree final fuel links here.dropLast rest
      else if name.utf8ByteSize > Path.maxName then .error .nameTooLong
      else
        let there := here ++ [name]
        match tree.entryAt? there with
        | some (.link target) =>
          if rest.isEmpty && ! final then .ok there
          else if links = 0 then .error .tooManyLinks
          else
            follow tree final fuel (links - 1) (if target.startsWith "/" then [] else here)
              (Path.steps target ++ rest)
        | some _ => follow tree final fuel links there rest
        | none => if rest.isEmpty then .ok there else .error .notFound
    | some _ => .error .notDirectory

/-- The path that a text stands for inside a directory.  There need not be anything at its end. -/
def locate (tree : FileTree) (directory : Path) (text : String) (final : Bool) :
    Except FileError Path :=
  if text.isEmpty then .error .notFound
  else if text.toList.contains '\x00' then .error .invalid
  else if text.utf8ByteSize ≥ Path.tooLong then .error .nameTooLong
  else
    follow tree final (Path.tooLong * maxLinks) maxLinks
      (if text.startsWith "/" then [] else directory) (Path.steps text)

/-- What a text stands for inside a directory: its path and the entry there. -/
def find (tree : FileTree) (directory : Path) (text : String) (final : Bool) :
    Except FileError (Path × Entry) := do
  let path ← tree.locate directory text final
  match tree.entryAt? path with
  | some entry => return (path, entry)
  | none => throw .notFound

/-- The content of the file that a text stands for. -/
def read (tree : FileTree) (directory : Path) (text : String) : Except FileError Bytes := do
  match ← tree.find directory text true with
  | (_, .directory _) => throw .isDirectory
  | (_, .file number) => return ((tree.bodies.lookup number).map (·.content)).getD []
  | (_, .device .zero) | (_, .device .full) => return List.replicate maxRead 0
  | (_, .device .random) => return randomOctets
  | _ => return []

/-! ### Changes -/

/-- The tree without the entry at a path. -/
def remove (tree : FileTree) (path : Path) : FileTree :=
  { tree with entries := tree.entries.filter (·.1 != path) }

/-- The tree without a path and all below it. -/
def removeAll (tree : FileTree) (path : Path) : FileTree :=
  { tree with entries := tree.entries.filter fun entry => ! path.isPrefixOf entry.1 }

/-- The tree with an entry at a path. -/
def put (tree : FileTree) (path : Path) (entry : Entry) : FileTree :=
  { tree with entries := tree.entries.filter (·.1 != path) ++ [(path, entry)] }

/-- The tree with another body of a file. -/
def setBody (tree : FileTree) (number : Nat) (body : FileBody) : FileTree :=
  { tree with bodies := (number, body) :: tree.bodies.filter (·.1 != number) }

/-- The tree with another content of a file. -/
def setContent (tree : FileTree) (number : Nat) (content : Bytes) : FileTree :=
  let mode := ((tree.bodies.lookup number).map (·.mode)).getD 0o644
  tree.setBody number ⟨content, mode, tree.clock⟩

/-- The tree with a new file at a path, and the number of the file. -/
def putFile (tree : FileTree) (path : Path) (body : FileBody) : FileTree × Nat :=
  let tree' := tree.put path (.file tree.fresh)
  let body' := { body with changed := tree.clock }
  ({ tree' with bodies := (tree.fresh, body') :: tree.bodies, fresh := tree.fresh + 1 }, tree.fresh)

/-- Opens what a text stands for, to write to it; a file is made if there is none.  With `keep` there
must be no file yet. -/
def openForWriting (tree : FileTree) (directory : Path) (text : String) (mode : Nat)
    (keep : Bool) : Except FileError (FileTree × Entry) := do
  let path ← tree.locate directory text true
  match tree.entryAt? path with
  | some (.directory _) => throw .isDirectory
  | some (.file number) => if keep then throw .alreadyThere else return (tree, .file number)
  | some entry => return (tree, entry)
  | none =>
    if ! tree.isDirectory path.dropLast then throw .notFound
    let (tree, number) := tree.putFile path ⟨[], mode, 0⟩
    return (tree, .file number)

/-- Writes the content of the file that a text stands for. -/
def write (tree : FileTree) (directory : Path) (text : String) (mode : Nat) (content : Bytes) :
    Except FileError FileTree := do
  let (tree, entry) ← tree.openForWriting directory text mode false
  match entry with
  | .file number => return tree.setContent number content
  | _ => return tree

/-- Makes a directory where there is nothing yet. -/
def makeDirectory (tree : FileTree) (directory : Path) (text : String) (mode : Nat) :
    Except FileError FileTree := do
  let stem := String.ofList (text.toList.reverse.dropWhile (· == '/')).reverse
  let path ← tree.locate directory (if stem.isEmpty then text else stem) false
  if (tree.entryAt? path).isSome then throw .alreadyThere
  if ! tree.isDirectory path.dropLast then throw .notFound
  return tree.put path (.directory mode)

/-- The names in a directory, sorted. -/
def children (tree : FileTree) (path : Path) : List String :=
  let here := tree.entries.filter fun entry => ! entry.1.isEmpty && entry.1.dropLast == path
  (here.filterMap (·.1.getLast?)).mergeSort fun s t => decide (s ≤ t)

/-- Moves a path and all below it. -/
def rename (tree : FileTree) (source target : Path) : FileTree :=
  let cleared := tree.removeAll target
  { cleared with entries := cleared.entries.map fun (path, entry) =>
      (if source.isPrefixOf path then target ++ path.drop source.length else path, entry) }

end FileTree

end Progeny.Host

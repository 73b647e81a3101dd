import Progeny.Host.Tool

/-!
# Looking at files

What can be said of a file by its kind, its permission bits, its size and its age, and what of two
files.
-/

namespace Progeny.Host

open Text (Bytes)

namespace FileTree

/-- The permission bits of an entry. -/
def modeOf (tree : FileTree) : Entry → Nat
  | .directory mode => mode
  | .file number => ((tree.bodies.lookup number).map (·.mode)).getD 0
  | .link _ => 0o777
  | .device _ => 0o666

/-- The entry that a text stands for inside a directory. -/
def entryOf? (tree : FileTree) (directory : Path) (text : String) (final : Bool) : Option (Path × Entry) :=
  (tree.find directory text final).toOption

/-- The body of the file that a text stands for inside a directory. -/
def bodyOf? (tree : FileTree) (directory : Path) (text : String) : Option FileBody :=
  match tree.entryOf? directory text true with
  | some (_, .file number) => tree.bodies.lookup number
  | _ => none

/-- The letters of what can be said of a file. -/
def traits : List Char :=
  ['b', 'c', 'd', 'e', 'f', 'g', 'G', 'h', 'k', 'L', 'N', 'O', 'p', 'r', 's', 'S', 'u', 'w', 'x']

/-- Whether something can be said of what a text stands for inside a directory. -/
def has (tree : FileTree) (directory : Path) (trait : Char) (text : String) : Bool :=
  let found := tree.entryOf? directory text true
  let mode := (found.map fun (_, entry) => tree.modeOf entry).getD 0
  let isKind (holds : Entry → Bool) : Bool := found.any fun (_, entry) => holds entry
  match trait with
  | 'e' | 'r' | 'w' | 'O' | 'G' => found.isSome
  | 'x' => isKind fun entry => entry.isDirectory || mode &&& 0o111 ≠ 0
  | 'f' => isKind fun entry => (entry matches .file _)
  | 'd' => isKind Entry.isDirectory
  | 'c' => isKind fun entry => (entry matches .device _) && ! (entry matches .device (.fifo _))
  | 'p' => isKind fun entry => (entry matches .device (.fifo _))
  | 'h' | 'L' => (tree.entryOf? directory text false).any fun (_, entry) => (entry matches .link _)
  | 's' => isKind Entry.isDirectory ||
      (tree.bodyOf? directory text).any fun body => ! body.content.isEmpty
  | 'u' => mode &&& 0o4000 ≠ 0
  | 'g' => mode &&& 0o2000 ≠ 0
  | 'k' => mode &&& 0o1000 ≠ 0
  | _ => false

/-- Whether the first of two files was changed later, or is the only one that is there. -/
def isNewer (tree : FileTree) (directory : Path) (a b : String) : Bool :=
  let changed (text : String) : Option Nat := (tree.bodyOf? directory text).map (·.changed)
  match changed a, changed b with
  | some m, some n => n < m
  | some _, none => true
  | _, _ => false

/-- Whether the first of two files was changed in a later second. -/
def isSecondsNewer (tree : FileTree) (directory : Path) (a b : String) : Bool :=
  let second? (text : String) : Option Nat := (tree.bodyOf? directory text).map fun body =>
    if body.changed = 0 then 0 else body.changed / 1000000 + 1
  match second? a, second? b with
  | some m, some n => n < m
  | _, _ => false

/-- Whether two texts stand for the same. -/
def isSame (tree : FileTree) (directory : Path) (a b : String) : Bool :=
  match tree.entryOf? directory a true, tree.entryOf? directory b true with
  | some (_, .file m), some (_, .file n) => m == n
  | some (p, _), some (q, _) => p == q
  | _, _ => false

end FileTree

end Progeny.Host

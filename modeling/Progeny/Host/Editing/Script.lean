import Progeny.Host.Regex
import Progeny.Host.Tool

/-!
# Scripts for editing

A script is a list of commands.  Each has a selector that says for which lines it is carried out.
-/

namespace Progeny.Host.Editing

open Text (Bytes)

/-- A regular expression of a script and the way it is matched. -/
structure Finder where
  regex : Regex
  mode : Regex.Mode

/-- Where a selection begins or ends.  Of expressions the last one that was used stands for one that is
not given. -/
inductive Address where
  | line (number : Nat)
  /-- Every so many lines from a first one on. -/
  | step (first each : Nat)
  | last
  | found (finder : Option Finder)
  /-- So many lines behind the beginning. -/
  | plus (count : Nat)
  /-- The next line whose number is a multiple. -/
  | multiple (of : Nat)

/-- The lines that a command is for. -/
structure Selector where
  start : Option Address := none
  stop : Option Address := none
  /-- It is for all other lines. -/
  negated : Bool := false

/-- What happens to the case of letters. -/
inductive Casing where
  | same
  | lower
  | upper
  deriving DecidableEq

/-- A part of what is put in place of a match: a text, and behind it what a group has matched. -/
structure Piece where
  text : List Symbol
  group : Option Nat
  casing : Casing
  /-- What happens to the first letter, whatever happens to the others. -/
  first : Casing

/-- Where lines are written. -/
inductive Outlet where
  /-- To the output, or to the file that is edited in place. -/
  | here
  | descriptor (n : Nat)
  | file (name : String)
  deriving DecidableEq

/-- What is put in place of matches, and of which. -/
structure Substitution where
  finder : Option Finder
  pieces : List Piece
  /-- The number of the first match that is replaced. -/
  number : Nat
  /-- All matches from that one on are replaced. -/
  every : Bool
  prints : Bool
  outlet : Option Outlet

/-- When a jump is made. -/
inductive Jump where
  | always
  /-- After a substitution that has changed something. -/
  | changed
  | unchanged
  deriving DecidableEq

/-- What a command does. -/
inductive Action where
  /-- The commands up to the brace that belongs to it are carried out together. -/
  | opening
  | closing
  | label (name : String)
  /-- Goes on behind a label, or at the end if it is empty. -/
  | jump (kind : Jump) (label : String)
  | append (text : Bytes)
  | insert (text : Bytes)
  | change (text : Bytes)
  | number
  | fileName
  | delete
  | deleteLine
  | print
  | printLine
  | clear
  | next
  | join
  | keep
  | keepMore
  | recall
  | recallMore
  | exchange
  /-- Shows what cannot be seen, in lines of a width. -/
  | list (width : Option Nat)
  | quit (prints : Bool) (status : Nat)
  | includeFile (name : String)
  | includeLine (name : String)
  | write (outlet : Outlet) (wholly : Bool)
  | substitute (substitution : Substitution)
  | transliterate (pairs : List (Symbol × Symbol))

/-- A command. -/
structure Command where
  selector : Selector
  action : Action

/-- A script, and whether it says itself that lines are not printed at the end. -/
structure Script where
  commands : List Command
  quiet : Bool

/-- Where a part of a script is from. -/
inductive Origin where
  | file (name : String)
  /-- It is given as an argument, one of several. -/
  | argument (number : Nat)

/-- A part of a script. -/
structure Source where
  origin : Origin
  text : Bytes

/-- Why there is no script, and the status of the tool then. -/
structure Fault where
  text : String
  status : Nat := 1

/-- The text of a fault in a part of a script, behind `used` octets and `line` lines of it. -/
def Origin.told (origin : Origin) (used line : Nat) (text : String) : String :=
  match origin with
  | .file name => "file " ++ name ++ " line " ++ line.repr ++ ": " ++ text
  | .argument n => "-e expression #" ++ n.repr ++ ", char " ++ used.repr ++ ": " ++ text

end Progeny.Host.Editing

import Progeny.Host.Regex
import Progeny.Host.Tool
import Progeny.Host.Comparison.Alignment

/-!
# Comparison by lines

How two contents differ, line by line, and the forms in which that is written.
-/

namespace Progeny.Host.Comparison

open Text (Bytes bytesOf)
open Sequence (Change)

/-- The form in which differences are written. -/
inductive Form where
  | normal
  /-- Both sides of a place, one after the other, with lines around it. -/
  | context
  /-- Both sides of a place mixed, with lines around it. -/
  | unified
  /-- Commands of a line editor, from the end to the beginning. -/
  | editor
  /-- Such commands from the beginning to the end. -/
  | forward
  /-- Commands that count lines. -/
  | counted
  /-- The sides in two columns. -/
  | columns
  deriving DecidableEq

/-- Where white space is looked at. -/
inductive Blanks where
  | everywhere
  /-- Not at the ends of lines. -/
  | untilEnd
  /-- It counts that there is some, not how much. -/
  | loosely
  | nowhere
  deriving DecidableEq

/-- How contents are compared and what is written. -/
structure Manner where
  form : Form := .normal
  /-- How many lines around a place are written. -/
  around : Nat := 0
  blanks : Blanks := .everywhere
  anyCase : Bool := false
  /-- Tabulators count as the blanks that they stand for. -/
  widensTabs : Bool := false
  ignoresBlankLines : Bool := false
  /-- Changes of lines with matches are left out. -/
  ignored : List Regex := []
  dropsReturns : Bool := false
  /-- The last match of this before a place is written in its heading. -/
  heading : Option Regex := none
  /-- What is compared is text in any case. -/
  isText : Bool := false
  /-- A tabulator stands before each line, and those of lines are written as blanks. -/
  indents : Bool := false
  expands : Bool := false
  tabSize : Nat := 8
  width : Nat := 130
  leftOnly : Bool := false
  hidesCommon : Bool := false
  /-- What is written in place of the names. -/
  labels : List String := []

namespace Manner

/-- Whether the form can tell whether the last line has an end. -/
def isExact (m : Manner) : Bool := m.form ≠ .editor && m.form ≠ .forward

/-- The lines of a content, as they are compared. -/
def linesIn (m : Manner) (content : Bytes) : Array Bytes :=
  let lines := (linesOf content).map fun line =>
    if m.dropsReturns && line.drop (line.length - 2) = [13, 10] then line.take (line.length - 2) ++ [lineFeed] else line
  (if m.isExact then lines else lines.map fun line => chomp line ++ [lineFeed]).toArray

/-- Whether an octet is white space. -/
def isBlank (b : UInt8) : Bool := b = 32 || (9 ≤ b && b ≤ 13)

/-- A line with blanks in place of tabulators. -/
def widened (size : Nat) : (column : Nat) → Bytes → Bytes
  | _, [] => []
  | column, b :: rest =>
    if b = 9 then
      let width := size - column % size
      List.replicate width 32 ++ widened size (column + width) rest
    else b :: widened size (if b = 13 then 0 else column + 1) rest

/-- A text in which white space stands as one blank. -/
def squeezed : Bytes → Bytes
  | a :: b :: rest => if isBlank a && isBlank b then squeezed (b :: rest)
    else (if isBlank a then 32 else a) :: squeezed (b :: rest)
  | [a] => [if isBlank a then 32 else a]
  | [] => []

/-- What two lines must have in common to count as alike. -/
def key (m : Manner) (line : Bytes) : Bytes :=
  let text := chomp line
  let trimmed (text : Bytes) : Bytes := (text.reverse.dropWhile isBlank).reverse
  let text := if m.widensTabs then widened m.tabSize 0 text else text
  let text := match m.blanks with
    | .everywhere => text
    | .untilEnd => trimmed text
    | .loosely => squeezed (trimmed text)
    | .nowhere => text.filter (! isBlank ·)
  let text := if m.anyCase then text.map fun b => if 65 ≤ b && b ≤ 90 then b + 32 else b else text
  if m.blanks = .everywhere && chomp line = line then text else text ++ [lineFeed]

/-- Whether a change of a line does not count. -/
def isTrivial (m : Manner) (line : Bytes) : Bool :=
  let text := chomp line
  let rest := if m.blanks = .everywhere then text
    else if m.blanks = .untilEnd then if text.all isBlank then [] else text
    else text.dropWhile isBlank
  (m.ignoresBlankLines && rest.isEmpty) ||
    m.ignored.any fun regex => (regex.find? {} (Symbol.ofBytes text)).isSome

end Manner

/-- Two contents that are compared, by lines, and how. -/
structure Pair where
  manner : Manner
  left : Array Bytes
  right : Array Bytes

/-- Some changes that are written together: the lines that they begin with, and those behind them. -/
structure Hunk where
  left : Nat
  leftEnd : Nat
  right : Nat
  rightEnd : Nat
  changes : List Change

namespace Hunk

/-- The lines that changes cover. -/
def of (changes : List Change) : Hunk :=
  match changes.head?, changes.getLast? with
  | some first, some last =>
    ⟨first.left, last.left + last.deleted, first.right, last.right + last.inserted, changes⟩
  | _, _ => ⟨0, 0, 0, 0, []⟩

/-- Whether lines are taken away. -/
def deletes (h : Hunk) : Bool := h.changes.any (0 < ·.deleted)

/-- Whether lines are added. -/
def inserts (h : Hunk) : Bool := h.changes.any (0 < ·.inserted)

end Hunk

namespace Pair

/-- How many lines two sequences have in common at their beginnings. -/
def common : List Bytes → List Bytes → Nat
  | a :: as, b :: bs => if a == b then common as bs + 1 else 0
  | _, _ => 0

/-- The changes from the left to the right content.  Lines that the ends have in common are not looked at,
except as many of them as are written around a place. -/
def changes (p : Pair) : List Change :=
  let left := p.left.toList
  let right := p.right.toList
  let before := common left right - p.manner.around
  let left := left.drop before
  let right := right.drop before
  let isOpen (lines : List Bytes) : Bool := lines.getLast?.any fun line => chomp line = line
  let behind := if isOpen left ≠ isOpen right then 0
    else common left.reverse right.reverse - p.manner.around
  let left := (left.take (left.length - behind)).map p.manner.key
  let right := (right.take (right.length - behind)).map p.manner.key
  let kinds := (left ++ right).eraseDups
  let numbers (keys : List Bytes) : Array Nat := (keys.map fun key => kinds.idxOf key).toArray
  (Sequence.changes (numbers left) (numbers right)).map fun c =>
    { c with left := c.left + before, right := c.right + before }

/-- The lines of a stretch. -/
def stretch (lines : Array Bytes) (low high : Nat) : List Bytes := (lines.extract low high).toList

/-- Whether all lines that a change covers are ones whose change does not count. -/
def ignores (p : Pair) (c : Change) : Bool :=
  (p.manner.ignoresBlankLines || ! p.manner.ignored.isEmpty) &&
    (stretch p.left c.left (c.left + c.deleted)).all p.manner.isTrivial &&
    (stretch p.right c.right (c.right + c.inserted)).all p.manner.isTrivial

/-- Puts changes together that have few lines between them. -/
def grouped (p : Pair) : List Change → List (List Change)
  | [] => []
  | c :: rest =>
    match grouped p rest with
    | (next :: more) :: groups =>
      let least := if p.ignores next then p.manner.around else 2 * p.manner.around + 1
      if next.left - (c.left + c.deleted) < least then (c :: next :: more) :: groups
      else [c] :: (next :: more) :: groups
    | groups => [c] :: groups

/-- The hunks that are written. -/
def hunks (p : Pair) : List Hunk :=
  let groups := if p.manner.form = .context || p.manner.form = .unified then p.grouped p.changes
    else p.changes.map fun c => [c]
  (groups.filter fun group => ! group.all p.ignores).map Hunk.of

/-! ### Lines -/

/-- The text of a line as it is written, without its end. -/
def textOf (p : Pair) (line : Bytes) : Bytes :=
  if p.manner.expands then Manner.widened p.manner.tabSize 0 (chomp line) else chomp line

/-- A line behind a sign. -/
def signed (p : Pair) (sign : String) (line : Bytes) : Bytes :=
  bytesOf sign ++ (if sign.isEmpty then [] else if p.manner.indents then [9] else [32]) ++ p.textOf line ++ [lineFeed] ++
    (if chomp line = line then bytesOf "\\ No newline at end of file\n" else [])

/-- Lines behind a sign. -/
def allSigned (p : Pair) (sign : String) (lines : List Bytes) : Bytes := lines.flatMap (p.signed sign)

/-- A range of lines: the first and the last, or only the last. -/
def range (separator : String) (low high : Nat) : String :=
  if low + 1 < high then (low + 1).repr ++ separator ++ high.repr else high.repr

/-- The letter of a change: lines are added, taken away or changed. -/
def letter (h : Hunk) : String := if ! h.deletes then "a" else if h.inserts then "c" else "d"

/-- A hunk in the normal form. -/
def normal (p : Pair) (h : Hunk) : Bytes :=
  line (range "," h.left h.leftEnd ++ letter h ++ range "," h.right h.rightEnd) ++
    p.allSigned "<" (stretch p.left h.left h.leftEnd) ++
    (if h.deletes && h.inserts then line "---" else []) ++
    p.allSigned ">" (stretch p.right h.right h.rightEnd)

/-- Lines that are entered in a line editor; a line of one point would end the entry and is mended. -/
def entered (p : Pair) : List Bytes → Bytes
  | [] => line "."
  | text :: rest =>
    if text = [46, lineFeed] then
      bytesOf "..\n.\ns/.//\n" ++ (if rest.isEmpty then [] else line "a" ++ entered p rest)
    else p.signed "" text ++ entered p rest

/-- A hunk as a command of a line editor. -/
def editor (p : Pair) (h : Hunk) : Bytes :=
  line (range "," h.left h.leftEnd ++ letter h) ++
    (if h.inserts then p.entered (stretch p.right h.right h.rightEnd) else [])

/-- A hunk as a command of a line editor that works from the beginning to the end. -/
def forward (p : Pair) (h : Hunk) : Bytes :=
  line (letter h ++ range " " h.left h.leftEnd) ++
    (if h.inserts then p.allSigned "" (stretch p.right h.right h.rightEnd) ++ line "." else [])

/-- A hunk as commands that count lines. -/
def counted (p : Pair) (h : Hunk) : Bytes :=
  let added := stretch p.right h.right h.rightEnd
  (if h.deletes then line ("d" ++ (h.left + 1).repr ++ " " ++ (h.leftEnd - h.left).repr) else []) ++
    (if h.inserts then
      line ("a" ++ h.leftEnd.repr ++ " " ++ (h.rightEnd - h.right).repr) ++
        added.flatMap fun text => p.textOf text ++ (if chomp text = text then [] else [lineFeed])
    else [])

/-- A hunk with the lines around it. -/
def widened (p : Pair) (h : Hunk) : Hunk :=
  let n := p.manner.around
  { h with
    left := h.left - n, right := h.right - n
    leftEnd := min (h.leftEnd + n) p.left.size, rightEnd := min (h.rightEnd + n) p.right.size }

/-- What stands in the heading of a hunk. -/
def title (p : Pair) (h : Hunk) : Bytes :=
  match p.manner.heading with
  | none => []
  | some regex =>
    match (stretch p.left 0 h.left).reverse.find? fun text => (regex.find? {} (Symbol.ofBytes (chomp text))).isSome with
    | none => []
    | some text =>
      let shown := ((chomp text).dropWhile Manner.isBlank).take 40
      [32] ++ (shown.reverse.dropWhile Manner.isBlank).reverse

/-- The lines of one side of a hunk with their signs; `starts` says where a change begins and how many
lines it covers. -/
def marked (p : Pair) (lines : Array Bytes) (low high : Nat) (changes : List (Nat × Nat × String)) : Bytes :=
  ((stretch lines low high).zipIdx low).flatMap fun (text, i) =>
    let sign := (changes.find? fun (start, count, _) => start ≤ i && i < start + count).elim " " (·.2.2)
    p.signed sign text

/-- A hunk with both sides one after the other. -/
def inContext (p : Pair) (h : Hunk) : Bytes :=
  let h := p.widened h
  let lefts := h.changes.map fun c => (c.left, c.deleted, if 0 < c.inserted then "!" else "-")
  let rights := h.changes.map fun c => (c.right, c.inserted, if 0 < c.deleted then "!" else "+")
  bytesOf "***************" ++ p.title h ++ [lineFeed] ++
    line ("*** " ++ range "," h.left h.leftEnd ++ " ****") ++
    (if h.deletes then p.marked p.left h.left h.leftEnd lefts else []) ++
    line ("--- " ++ range "," h.right h.rightEnd ++ " ----") ++
    (if h.inserts then p.marked p.right h.right h.rightEnd rights else [])

/-- A line behind a sign that stands next to it. -/
def close (p : Pair) (sign : String) (text : Bytes) : Bytes :=
  bytesOf sign ++ (if p.manner.indents then [9] else []) ++ p.signed "" text

/-- The lines of a hunk from a left line on. -/
def mixed (p : Pair) (last : Nat) : (start : Nat) → List Change → Bytes
  | start, [] => (stretch p.left start last).flatMap fun text =>
    (if p.manner.indents then [9] else [32]) ++ p.signed "" text
  | start, c :: rest =>
    ((stretch p.left start c.left).flatMap fun text => (if p.manner.indents then [9] else [32]) ++ p.signed "" text) ++
      (stretch p.left c.left (c.left + c.deleted)).flatMap (p.close "-") ++
      (stretch p.right c.right (c.right + c.inserted)).flatMap (p.close "+") ++
      mixed p last (c.left + c.deleted) rest

/-- A hunk with both sides mixed. -/
def unified (p : Pair) (h : Hunk) : Bytes :=
  let h := p.widened h
  let counted (low high : Nat) : String :=
    if high ≤ low then high.repr ++ ",0"
    else if high = low + 1 then high.repr
    else (low + 1).repr ++ "," ++ (high - low).repr
  bytesOf ("@@ -" ++ counted h.left h.leftEnd ++ " +" ++ counted h.right h.rightEnd ++ " @@") ++ p.title h ++
    [lineFeed] ++ p.mixed h.leftEnd h.left h.changes

/-! ### Columns -/

/-- The width of a column, and where the second one begins. -/
def layout (m : Manner) : Nat × Nat :=
  let unit := if m.expands then 1 else m.tabSize
  let least := unit + 3
  let middle := m.width / 2 + least / 2 + (if m.width % 2 = 1 && least % 2 = 1 then 1 else 0)
  let second := middle - middle % unit
  let half := min (second - 3) (m.width - second)
  (half, if half = 0 then m.width else second)

/-- What leads from one column to another. -/
def gap (m : Manner) : (fuel source target : Nat) → Bytes
  | 0, _, _ => []
  | fuel + 1, source, target =>
    let next := source + m.tabSize - source % m.tabSize
    if ! m.expands && next ≤ target then 9 :: gap m fuel next target
    else List.replicate (target - source) 32

/-- The part of a line that a column has room for, and the column behind it. -/
def cell (m : Manner) (room : Nat) : (read written : Nat) → Bytes → Bytes × Nat
  | _, written, [] => ([], written)
  | read, written, b :: rest =>
    if b = 9 then
      let width := m.tabSize - read % m.tabSize
      if read ≠ written then cell m room (read + width) written rest
      else if m.expands then
        let stop := min room (written + width)
        let (more, column) := cell m room (read + width) stop rest
        (List.replicate (stop - written) 32 ++ more, column)
      else if written + width < room then
        let (more, column) := cell m room (read + width) (written + width) rest
        (9 :: more, column)
      else cell m room (read + width) written rest
    else if b < 128 && b ≥ 32 && b ≠ 127 || b ≥ 192 then
      if read < room then
        let (more, column) := cell m room (read + 1) (read + 1) rest
        (b :: more, column)
      else cell m room (read + 1) written rest
    else
      let (more, column) := cell m room read written rest
      (if read < room then b :: more else more, column)

/-- A line of two columns. -/
def row (m : Manner) (left : Option Bytes) (sign : Char) (right : Option Bytes) : Bytes :=
  let (half, second) := layout m
  let ends (text : Option Bytes) : Bool := text.any fun text => chomp text ≠ text
  let (first, column) := (left.map fun text => cell m half 0 0 (chomp text)).getD ([], 0)
  let sign := if sign = '|' && ends left ≠ ends right then if ends left then '/' else '\\' else sign
  let middle := (half + second - 1) / 2
  let (first, column) := if sign = ' ' then (first, column)
    else (first ++ gap m (middle + 1) column middle ++ bytesOf sign.toString, max middle column + 1)
  let last := match right with
    | some text => if text.head? = some lineFeed then [] else gap m (second + 1) column second ++ (cell m half 0 0 (chomp text)).1
    | none => []
  first ++ last ++ (if ends left || ends right then [lineFeed] else [])

/-- Lines that both sides have. -/
def shared (p : Pair) (lefts rights : List Bytes) : Bytes :=
  let m := p.manner
  if m.hidesCommon then []
  else if m.leftOnly then lefts.flatMap fun text => row m (some text) '(' none
  else (lefts.zip rights).flatMap fun (a, b) => row m (some a) ' ' (some b)

/-- Both contents in two columns, from two lines on. -/
def inColumns (p : Pair) : (left right : Nat) → List Change → Bytes
  | x, y, [] => p.shared (stretch p.left x p.left.size) (stretch p.right y p.right.size)
  | x, y, c :: rest =>
    let m := p.manner
    let lefts := stretch p.left c.left (c.left + c.deleted)
    let rights := stretch p.right c.right (c.right + c.inserted)
    let both := min c.deleted c.inserted
    p.shared (stretch p.left x c.left) (stretch p.right y c.right) ++
      ((lefts.zip rights).flatMap fun (a, b) => row m (some a) '|' (some b)) ++
      ((rights.drop both).flatMap fun text => row m none '>' (some text)) ++
      ((lefts.drop both).flatMap fun text => row m (some text) '<' none) ++
      inColumns p (c.left + c.deleted) (c.right + c.inserted) rest

/-- All hunks as they are written, behind a heading. -/
def written (p : Pair) (heading : Bytes) : Bytes :=
  let hunks := p.hunks
  if p.manner.form = .columns then p.inColumns 0 0 (hunks.flatMap (·.changes))
  else if hunks.isEmpty then []
  else heading ++ match p.manner.form with
    | .context => hunks.flatMap p.inContext
    | .unified => hunks.flatMap p.unified
    | .editor => hunks.reverse.flatMap p.editor
    | .forward => hunks.flatMap p.forward
    | .counted => hunks.flatMap p.counted
    | _ => hunks.flatMap p.normal

end Pair

end Progeny.Host.Comparison

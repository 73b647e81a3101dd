/-!
# Alignment of two sequences

Two sequences are brought into line by leaving elements of both out, as few as possible.  Which of them
are left out is found by searching from both ends at once: a search holds, for each diagonal, how far it
came on it, and where the two searches meet, the sequences are cut.  Runs of elements that are left out
are then moved to where they stand best, and pairs of runs are the changes from one sequence to the other.
-/

namespace Progeny.Sequence

/-- Two sequences of numbers that are compared. -/
structure Rows where
  left : Array Nat
  right : Array Nat

/-- A stretch of each of two sequences. -/
structure Stretch where
  x : Int
  xEnd : Int
  y : Int
  yEnd : Int

/-- What was found so far on each diagonal, from the front and from the back. -/
structure Reached where
  front : Array Int
  back : Array Int

namespace Rows

/-- Whether the elements at two positions are alike. -/
def alike (rows : Rows) (x y : Int) : Bool :=
  0 ≤ x && 0 ≤ y && rows.left[x.toNat]? == rows.right[y.toNat]? && x.toNat < rows.left.size

/-- The number that is added to that of a diagonal to give its place in the tables. -/
def shift (rows : Rows) : Int := rows.right.size + 1

/-- The number of diagonals, with one on each side that is never reached. -/
def diagonals (rows : Rows) : Nat := rows.left.size + rows.right.size + 3

/-- What a table holds on a diagonal. -/
def reach (rows : Rows) (table : Array Int) (d : Int) : Int := table.getD (d + rows.shift).toNat 0

/-- A table with another entry on a diagonal. -/
def noting (rows : Rows) (table : Array Int) (d value : Int) : Array Int :=
  table.setIfInBounds (d + rows.shift).toNat value

/-- The last position on a diagonal up to which all elements are alike. -/
def slide (rows : Rows) (s : Stretch) : (fuel : Nat) → (x y : Int) → Int
  | 0, x, _ => x
  | fuel + 1, x, y =>
    if x < s.xEnd && y < s.yEnd && rows.alike x y then slide rows s fuel (x + 1) (y + 1) else x

/-- The first position on a diagonal from which on all elements are alike. -/
def slideBack (rows : Rows) (s : Stretch) : (fuel : Nat) → (x y : Int) → Int
  | 0, x, _ => x
  | fuel + 1, x, y =>
    if s.x < x && s.y < y && rows.alike (x - 1) (y - 1) then slideBack rows s fuel (x - 1) (y - 1) else x

/-- One more step from the front on every other diagonal from `d` down to `low`; the search ends where it
meets that from the back, which has come to the diagonals from `backLow` to `backHigh`, if `meets`. -/
def stepFront (rows : Rows) (s : Stretch) (meets : Bool) (low backLow backHigh : Int) :
    (fuel : Nat) → (d : Int) → Reached → Except (Int × Int) Reached
  | 0, _, r => .ok r
  | fuel + 1, d, r =>
    if d < low then .ok r
    else
      let below := rows.reach r.front (d - 1)
      let above := rows.reach r.front (d + 1)
      let start := if below < above then above else below + 1
      let x := slide rows s rows.diagonals start (start - d)
      if meets && backLow ≤ d && d ≤ backHigh && rows.reach r.back d ≤ x then .error (x, x - d)
      else stepFront rows s meets low backLow backHigh fuel (d - 2) { r with front := rows.noting r.front d x }

/-- One more step from the back, in the same way. -/
def stepBack (rows : Rows) (s : Stretch) (meets : Bool) (low frontLow frontHigh : Int) :
    (fuel : Nat) → (d : Int) → Reached → Except (Int × Int) Reached
  | 0, _, r => .ok r
  | fuel + 1, d, r =>
    if d < low then .ok r
    else
      let below := rows.reach r.back (d - 1)
      let above := rows.reach r.back (d + 1)
      let start := if below < above then below else above - 1
      let x := slideBack rows s rows.diagonals start (start - d)
      if meets && frontLow ≤ d && d ≤ frontHigh && x ≤ rows.reach r.front d then .error (x, x - d)
      else stepBack rows s meets low frontLow frontHigh fuel (d - 2) { r with back := rows.noting r.back d x }

/-- A position beyond all others. -/
def beyond (rows : Rows) : Int := rows.diagonals + 1

/-- Searches from both ends with more and more steps, until the searches meet. -/
def meeting (rows : Rows) (s : Stretch) : (fuel : Nat) → (frontLow frontHigh backLow backHigh : Int) →
    Reached → Int × Int
  | 0, _, _, _, _, _ => (s.x, s.yEnd)
  | fuel + 1, frontLow, frontHigh, backLow, backHigh, r =>
    let least := s.x - s.yEnd
    let most := s.xEnd - s.y
    let isOdd := ((s.x - s.y) - (s.xEnd - s.yEnd)) % 2 ≠ 0
    let steps := rows.diagonals
    let next : Except (Int × Int) (Int × Int × Int × Int × Reached) := do
      let (frontLow, front) := if least < frontLow then (frontLow - 1, rows.noting r.front (frontLow - 2) (-1))
        else (frontLow + 1, r.front)
      let (frontHigh, front) := if frontHigh < most then (frontHigh + 1, rows.noting front (frontHigh + 2) (-1))
        else (frontHigh - 1, front)
      let r ← stepFront rows s isOdd frontLow backLow backHigh steps frontHigh { r with front := front }
      let (backLow, back) := if least < backLow then (backLow - 1, rows.noting r.back (backLow - 2) rows.beyond)
        else (backLow + 1, r.back)
      let (backHigh, back) := if backHigh < most then (backHigh + 1, rows.noting back (backHigh + 2) rows.beyond)
        else (backHigh - 1, back)
      let r ← stepBack rows s (! isOdd) backLow frontLow frontHigh steps backHigh { r with back := back }
      return (frontLow, frontHigh, backLow, backHigh, r)
    match next with
    | .error found => found
    | .ok (frontLow, frontHigh, backLow, backHigh, r) => meeting rows s fuel frontLow frontHigh backLow backHigh r

/-- Where a stretch is cut. -/
def cut (rows : Rows) (s : Stretch) : Int × Int :=
  let empty : Array Int := Array.replicate rows.diagonals 0
  let front := s.x - s.y
  let back := s.xEnd - s.yEnd
  meeting rows s rows.diagonals front front back back
    ⟨rows.noting empty front s.x, rows.noting empty back s.xEnd⟩

/-- The positions in a stretch that are left out on the left and on the right. -/
def leftOut (rows : Rows) : (fuel : Nat) → Stretch → List Nat × List Nat
  | 0, _ => ([], [])
  | fuel + 1, s =>
    let x := slide rows s rows.diagonals s.x s.y
    let s : Stretch := { s with y := s.y + (x - s.x), x := x }
    let xEnd := slideBack rows s rows.diagonals s.xEnd s.yEnd
    let s : Stretch := { s with yEnd := s.yEnd - (s.xEnd - xEnd), xEnd := xEnd }
    let span (low high : Int) : List Nat := (List.range (high - low).toNat).map fun (k : Nat) => low.toNat + k
    if s.x = s.xEnd then ([], span s.y s.yEnd)
    else if s.y = s.yEnd then (span s.x s.xEnd, [])
    else
      let (x, y) := rows.cut s
      let (xs, ys) := leftOut rows fuel { s with xEnd := x, yEnd := y }
      let (xs', ys') := leftOut rows fuel { s with x := x, y := y }
      (xs ++ xs', ys ++ ys')

end Rows

/-! ### Runs -/

/-- Whether a position is marked; none outside the sequence is. -/
def marked (marks : Array Bool) (i : Int) : Bool := 0 ≤ i && marks.getD i.toNat false

/-- The first position from `i` on that is not marked. -/
def unmarkedFrom (marks : Array Bool) (i : Int) : (fuel : Nat) → Int
  | 0 => i
  | fuel + 1 => if marked marks i then unmarkedFrom marks (i + 1) fuel else i

/-- The last position up to `i` that is not marked. -/
def unmarkedUpTo (marks : Array Bool) (i : Int) : (fuel : Nat) → Int
  | 0 => i
  | fuel + 1 => if marked marks i then unmarkedUpTo marks (i - 1) fuel else i

/-- A sequence with marks, and the marks of the one that it is in line with. -/
structure Marking where
  values : Array Nat
  marks : Array Bool
  others : Array Bool

/-- A run of marked positions, and the position in the other sequence where its end belongs. -/
structure Run where
  start : Int
  stop : Int
  other : Int

namespace Marking

/-- More steps than there are positions. -/
def fuel (m : Marking) : Nat := m.marks.size + m.others.size + 2

/-- Marks or unmarks a position. -/
def set (m : Marking) (i : Int) (mark : Bool) : Marking :=
  { m with marks := m.marks.setIfInBounds i.toNat mark }

/-- Whether the elements at two positions are alike. -/
def alike (m : Marking) (i j : Int) : Bool := m.values[i.toNat]? == m.values[j.toNat]?

/-- Moves a run back by one position, and over the marked ones before it. -/
def back (m : Marking) (r : Run) : Marking × Run :=
  let m := (m.set (r.start - 1) true).set (r.stop - 1) false
  (m, ⟨unmarkedUpTo m.marks (r.start - 2) m.fuel + 1, r.stop - 1, unmarkedUpTo m.others (r.other - 1) m.fuel⟩)

/-- Moves a run back as far as the elements before it are like its last one. -/
def allBack : (fuel : Nat) → Marking → Run → Marking × Run
  | 0, m, r => (m, r)
  | fuel + 1, m, r =>
    if 0 < r.start && m.alike (r.start - 1) (r.stop - 1) then
      let (m, r) := m.back r
      allBack fuel m r
    else (m, r)

/-- Moves a run forth as far as the elements behind it are like its first one; `place` is the last of its
ends that belongs to a run of the other sequence. -/
def allForth : (fuel : Nat) → Marking → Run → (place : Int) → Marking × Run × Int
  | 0, m, r, place => (m, r, place)
  | fuel + 1, m, r, place =>
    if r.stop < m.marks.size && m.alike r.start r.stop then
      let m := (m.set r.start false).set r.stop true
      let stop := unmarkedFrom m.marks (r.stop + 1) m.fuel
      let other := unmarkedFrom m.others (r.other + 1) m.fuel
      allForth fuel m ⟨r.start + 1, stop, other⟩ (if other = r.other + 1 then place else stop)
    else (m, r, place)

/-- Moves a run back and forth until it grows no more. -/
def settle : (fuel : Nat) → Marking → Run → Marking × Run × Int
  | 0, m, r => (m, r, r.stop)
  | fuel + 1, m, r =>
    let length := r.stop - r.start
    let (m, r) := allBack m.fuel m r
    let place := if marked m.others (r.other - 1) then r.stop else m.marks.size
    let (m, r, place) := allForth m.fuel m r place
    if length = r.stop - r.start then (m, r, place) else settle fuel m r

/-- Moves a run back to a run of the other sequence. -/
def backTo (place : Int) : (fuel : Nat) → Marking → Run → Marking × Run
  | 0, m, r => (m, r)
  | fuel + 1, m, r =>
    if place < r.stop then
      let m := (m.set (r.start - 1) true).set (r.stop - 1) false
      backTo place fuel m ⟨r.start - 1, r.stop - 1, unmarkedUpTo m.others (r.other - 1) m.fuel⟩
    else (m, r)

/-- The next run from a position on. -/
def nextRun? (m : Marking) : (fuel : Nat) → (i other : Int) → Option Run
  | 0, _, _ => none
  | fuel + 1, i, other =>
    if m.marks.size ≤ i then none
    else if marked m.marks i then
      some ⟨i, unmarkedFrom m.marks i m.fuel, unmarkedFrom m.others other m.fuel⟩
    else nextRun? m fuel (i + 1) (unmarkedFrom m.others other m.fuel + 1)

/-- Moves all runs from a position on to where they stand best. -/
def shifted : (fuel : Nat) → (i other : Int) → Marking → Marking
  | 0, _, _, m => m
  | fuel + 1, i, other, m =>
    match m.nextRun? m.fuel i other with
    | none => m
    | some r =>
      let (m, r, place) := settle m.fuel m r
      let (m, r) := backTo place m.fuel m r
      shifted fuel r.stop r.other m

end Marking

/-! ### Changes -/

/-- A stretch of one sequence that another takes the place of. -/
structure Change where
  left : Nat
  right : Nat
  deleted : Nat
  inserted : Nat
  deriving DecidableEq, Repr

/-- The changes that marks stand for. -/
def changesOf (left right : Array Bool) : (fuel x y : Nat) → List Change
  | 0, _, _ => []
  | fuel + 1, x, y =>
    if left.size ≤ x && right.size ≤ y then []
    else if marked left x || marked right y then
      let x' := (unmarkedFrom left x (left.size + 1)).toNat
      let y' := (unmarkedFrom right y (right.size + 1)).toNat
      ⟨x, y, x' - x, y' - y⟩ :: changesOf left right fuel x' y'
    else changesOf left right fuel (x + 1) (y + 1)

/-- The changes that make one sequence out of another.  What has no like in the other is left out at once. -/
def changes (left right : Array Nat) : List Change :=
  let kept (mine others : Array Nat) : Array Nat := (Array.range mine.size).filter fun i =>
    (mine[i]?).any others.contains
  let xs := kept left right
  let ys := kept right left
  let values (all kept : Array Nat) : Array Nat := kept.map fun i => all.getD i 0
  let rows : Rows := ⟨values left xs, values right ys⟩
  let (outX, outY) := rows.leftOut (rows.diagonals + 1) ⟨0, xs.size, 0, ys.size⟩
  let marks (all kept : Array Nat) (out : List Nat) : Array Bool :=
    let start : Array Bool := Array.replicate all.size true
    let held := kept.foldl (fun (marks : Array Bool) i => marks.setIfInBounds i false) start
    out.foldl (fun (marks : Array Bool) k => marks.setIfInBounds (kept.getD k 0) true) held
  let marksX := marks left xs outX
  let marksY := marks right ys outY
  let size := left.size + right.size + 2
  let movedX := (Marking.shifted size 0 0 ⟨left, marksX, marksY⟩).marks
  let movedY := (Marking.shifted size 0 0 ⟨right, marksY, movedX⟩).marks
  changesOf movedX movedY size 0 0

end Progeny.Sequence

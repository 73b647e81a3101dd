/-!
# Edits of a sequence

Statements are sequences of tokens and programs are sequences of statements, and both are edited by
position.  No edit fails: a position past the end is moved to the last element, to the end, or to
nowhere, as each edit says.
-/

namespace Progeny.Sequence

variable {α : Type}

/-- `i`, or the last position if `i` is past it; 0 for the empty sequence. -/
def nearest (xs : List α) (i : Nat) : Nat := min i (xs.length - 1)

/-- The element nearest to position `i`; `none` only for the empty sequence. -/
def nearest? (xs : List α) (i : Nat) : Option α := xs[nearest xs i]?

/-- Overwrites the element nearest to position `i`. -/
def setNearest (xs : List α) (i : Nat) (a : α) : List α := xs.set (nearest xs i) a

/-- The elements from the position nearest to `low` up to `high`, which is not included. -/
def slice (xs : List α) (low high : Nat) : List α :=
  let low := nearest xs low
  (xs.drop low).take (min high xs.length - low)

/-- Inserts `ys` at position `i`, or at the end if `i` is past it. -/
def insertAll (xs : List α) (i : Nat) (ys : List α) : List α := xs.take i ++ ys ++ xs.drop i

/-- Inserts one element at position `i`, or at the end if `i` is past it. -/
def insert (xs : List α) (i : Nat) (a : α) : List α := insertAll xs i [a]

/-- Takes out the element at position `i`, if there is one. -/
def removeAt (xs : List α) (i : Nat) : Option α × List α := (xs[i]?, xs.eraseIdx i)

/-- Takes out the elements from `low` up to `high`, as many of these positions as exist. -/
def removeSpan (xs : List α) (low high : Nat) : List α × List α :=
  let low := min low xs.length
  let high := min high xs.length
  if low < high then ((xs.drop low).take (high - low), xs.take low ++ xs.drop high)
  else ([], xs)

/-- Exchanges the elements at two positions; nothing happens if one of them does not exist. -/
def swapAt (xs : List α) (i j : Nat) : List α :=
  match xs[i]?, xs[j]? with
  | some a, some b => (xs.set i b).set j a
  | _, _ => xs

/-- Exchanges the elements nearest to two positions. -/
def swapNearest (xs : List α) (i j : Nat) : List α := swapAt xs (nearest xs i) (nearest xs j)

/-- Every other element, beginning with the first. -/
def evens : List α → List α
  | [] => []
  | [a] => [a]
  | a :: _ :: rest => a :: evens rest

/-- Every other element, beginning with the second. -/
def odds (xs : List α) : List α := evens (xs.drop 1)

/-- Elements of two sequences in turn, and then the rest of the longer one. -/
def interleave : List α → List α → List α
  | [], ys => ys
  | xs, [] => xs
  | x :: xs, y :: ys => x :: y :: interleave xs ys

/-- The first element for which no other has a greater measure. -/
def firstMax (measure : α → Nat) : List α → Option α
  | [] => none
  | a :: rest => some (rest.foldl (fun best x => if measure x > measure best then x else best) a)

/-- The first element for which no other has a smaller measure. -/
def firstMin (measure : α → Nat) : List α → Option α
  | [] => none
  | a :: rest => some (rest.foldl (fun best x => if measure x < measure best then x else best) a)

/-- The elements moved `distance` places to the right, those at the end coming round. -/
def rotateRight (xs : List α) (distance : Nat) : List α :=
  xs.drop (xs.length - distance) ++ xs.take (xs.length - distance)

@[simp] theorem length_insertAll (xs : List α) (i : Nat) (ys : List α) :
    (insertAll xs i ys).length = xs.length + ys.length := by
  simp only [insertAll, List.length_append, List.length_take, List.length_drop]
  omega

@[simp] theorem length_swapAt (xs : List α) (i j : Nat) : (swapAt xs i j).length = xs.length := by
  unfold swapAt
  split <;> simp

@[simp] theorem length_swapNearest (xs : List α) (i j : Nat) :
    (swapNearest xs i j).length = xs.length := length_swapAt ..

@[simp] theorem length_rotateRight (xs : List α) (distance : Nat) :
    (rotateRight xs distance).length = xs.length := by
  simp only [rotateRight, List.length_append, List.length_drop, List.length_take]
  omega

theorem length_interleave (xs ys : List α) :
    (interleave xs ys).length = xs.length + ys.length := by
  fun_induction interleave xs ys with
  | case1 ys => simp
  | case2 xs => simp
  | case3 x xs y ys ih => simp [ih]; omega

end Progeny.Sequence

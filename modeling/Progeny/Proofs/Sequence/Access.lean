import Progeny.Sequence.Draw

/-!
# Accesses that fail

The edits of a sequence have a result for every position.  The accesses here take positions as they
are: one that does not exist is a failure.  At positions that exist the two do the same, so an edit
that is written with these accesses, and agrees with the one that is not, never makes an access that
fails.
-/

namespace Progeny.Sequence

open Draw

variable {α : Type}

/-- Puts elements in before a position, which may be the end. -/
def putAt (xs : List α) (i : Nat) (new : List α) : Draw (List α) :=
  if i ≤ xs.length then return insertAll xs i new else throw (.noMember i)

/-- Takes out the element at a position. -/
def takeAt (xs : List α) (i : Nat) : Draw (α × List α) := do
  let a ← memberAt xs i
  return (a, xs.eraseIdx i)

/-- Takes out the elements from `low` up to `high`. -/
def takeSpan (xs : List α) (low high : Nat) : Draw (List α × List α) :=
  if low ≤ high ∧ high ≤ xs.length then
    return ((xs.drop low).take (high - low), xs.take low ++ xs.drop high)
  else throw (.noMember high)

/-- Overwrites the element at a position, which is taken out. -/
def overwriteAt (xs : List α) (i : Nat) (new : α) : Draw (α × List α) := do
  let old ← memberAt xs i
  return (old, xs.set i new)

/-- Exchanges the elements at two positions. -/
def exchangeAt (xs : List α) (i j : Nat) : Draw (List α) := do
  let a ← memberAt xs i
  let b ← memberAt xs j
  return (xs.set i b).set j a

/-- Moves the elements to the right by a distance up to the length. -/
def turnBy (xs : List α) (distance : Nat) : Draw (List α) :=
  if distance ≤ xs.length then return rotateRight xs distance else throw (.noMember distance)

/-- Exchanges the elements at `i`, `i - 1`, … 1 each with one at or before it. -/
def exchangeFrom : Nat → List α → Draw (List α)
  | 0, xs => return xs
  | i + 1, xs => do
    let j ← index (i + 2)
    let exchanged ← exchangeAt xs (i + 1) j
    exchangeFrom i exchanged

/-! ### Where there is something -/

variable {xs : List α} {i j : Nat}

theorem memberAt_of_lt (h : i < xs.length) : memberAt xs i = pure xs[i] := by
  unfold memberAt
  rw [List.getElem?_eq_getElem h]

theorem putAt_of_le (h : i ≤ xs.length) (new : List α) :
    putAt xs i new = pure (insertAll xs i new) := if_pos h

theorem takeAt_of_lt (h : i < xs.length) : takeAt xs i = pure (xs[i], xs.eraseIdx i) := by
  unfold takeAt
  rw [memberAt_of_lt h, pure_bind]

theorem takeSpan_of_le {low high : Nat} (order : low ≤ high) (h : high ≤ xs.length) :
    takeSpan xs low high =
      pure ((xs.drop low).take (high - low), xs.take low ++ xs.drop high) := if_pos ⟨order, h⟩

theorem overwriteAt_of_lt (h : i < xs.length) (new : α) :
    overwriteAt xs i new = pure (xs[i], xs.set i new) := by
  unfold overwriteAt
  rw [memberAt_of_lt h, pure_bind]

theorem exchangeAt_of_lt (hi : i < xs.length) (hj : j < xs.length) :
    exchangeAt xs i j = pure (swapAt xs i j) := by
  unfold exchangeAt swapAt
  rw [memberAt_of_lt hi, memberAt_of_lt hj, pure_bind, pure_bind, List.getElem?_eq_getElem hi,
    List.getElem?_eq_getElem hj]

theorem turnBy_of_le (h : i ≤ xs.length) : turnBy xs i = pure (rotateRight xs i) := if_pos h

theorem exchangeFrom_of_le (h : i ≤ xs.length - 1) : exchangeFrom i xs = shuffleFrom i xs := by
  induction i generalizing xs with
  | zero => rfl
  | succ i ih =>
    unfold exchangeFrom shuffleFrom
    refine bind_congr fun j => ?_
    rw [exchangeAt_of_lt (by omega) (by omega), pure_bind]
    refine ih ?_
    rw [length_swapAt]
    omega

theorem insertAll_min (xs : List α) (i : Nat) (new : List α) :
    insertAll xs (min i xs.length) new = insertAll xs i new := by
  unfold insertAll
  rcases Nat.le_total i xs.length with inside | past
  · rw [Nat.min_eq_left inside]
  · rw [Nat.min_eq_right past, List.take_of_length_le past, List.drop_of_length_le past,
      List.take_length, List.drop_length]

end Progeny.Sequence

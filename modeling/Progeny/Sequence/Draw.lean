import Progeny.Random.Draw
import Progeny.Sequence.Edit

/-!
# Random edits of a sequence

The draws that statements and programs share.  A draw on the empty sequence reads no word.
-/

namespace Progeny.Sequence

variable {α : Type}

/-- A probability moved into `[0, 1]`; what is not a number stays. -/
def clampProbability (p : Float) : Float := if p < 0.0 then 0.0 else if p > 1.0 then 1.0 else p

/-- A position of a sequence. -/
def position? (xs : List α) : Draw (Option (Fin xs.length)) :=
  match xs with
  | [] => return none
  | x :: xs => do return some (← Draw.below (x :: xs).length)

/-- One number in `[0, 1)` is drawn for each element, and the element is kept if it is below `p`. -/
def thin (p : Float) : List α → Draw (List α)
  | [] => return []
  | a :: rest => do
    let kept := decide ((← Draw.unit) < p)
    let others ← thin p rest
    return if kept then a :: others else others

/-- Each element with probability `p`, in order. -/
def subset (xs : List α) (p : Float) : Draw (List α) := thin (clampProbability p) xs

/-- Exchanges the elements at `i`, `i - 1`, … 1 each with one at or before it. -/
def shuffleFrom : Nat → List α → Draw (List α)
  | 0, xs => return xs
  | i + 1, xs => do
    let j ← Draw.index (i + 2)
    shuffleFrom i (swapAt xs (i + 1) j)

/-- A random order. -/
def shuffle (xs : List α) : Draw (List α) := shuffleFrom (xs.length - 1) xs

/-- Exchanges two random positions, which may be the same. -/
def swapRandom (xs : List α) : Draw (List α) := do
  match ← position? xs with
  | none => return xs
  | some i =>
    match ← position? xs with
    | none => return xs
    | some j => return swapAt xs i j

/-- Takes out a random element. -/
def removeRandom (xs : List α) : Draw (Option α × List α) := do
  match ← position? xs with
  | none => return (none, xs)
  | some i => return removeAt xs i

/-- Takes out `n` random elements, or all of them. -/
def removeRandoms : Nat → List α → Draw (List α)
  | 0, xs => return xs
  | n + 1, xs => do
    match ← removeRandom xs with
    | (none, xs) => return xs
    | (some _, xs) => removeRandoms n xs

end Progeny.Sequence

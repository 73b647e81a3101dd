/-!
# Counting occurrences

The occurrences of elements are counted into a table first; then the elements are gone through once
more, and one that occurs more often than the best so far takes its place.
-/

namespace Progeny.Sequence

variable {α : Type} [DecidableEq α]

/-- A table of numbers of occurrences, with one more for `a`. -/
def countOne (a : α) : List (α × Nat) → List (α × Nat)
  | [] => [(a, 1)]
  | (b, n) :: table => if b = a then (b, n + 1) :: table else (b, n) :: countOne a table

/-- How often each element occurs. -/
def tally (xs : List α) : List (α × Nat) := xs.foldl (fun table a => countOne a table) []

/-- `best`, or `a` if it stands in the table with a greater number. -/
def preferred (table : List (α × Nat)) (best : Option (α × Nat)) (a : α) : Option (α × Nat) :=
  match table.lookup a, best with
  | none, _ => best
  | some n, none => some (a, n)
  | some n, some (b, most) => if n > most then some (a, n) else some (b, most)

/-- The first of the elements with the greatest number in a table; elements that do not stand in the
table are passed over. -/
def mostFrequent? (table : List (α × Nat)) (xs : List α) : Option α :=
  (xs.foldl (preferred table) none).map Prod.fst

end Progeny.Sequence

import Progeny.Proofs.Random.Spells
import Progeny.Proofs.Sequence.Contents
import Progeny.Sequence.Draw

/-!
# Random positions

The random edits of a sequence draw positions of it and then do what the edit does there.  A sequence
has a position unless it is empty, and then nothing is drawn; each of its positions is drawn for some
word.
-/

namespace Progeny.Sequence

open Draw

variable {α : Type} {listed : Nat}

/-- Only the empty sequence has no position. -/
theorem yields_position? (xs : List α) :
    Yields listed (position? xs) fun i => i = none → xs = [] := by
  cases xs with
  | nil => exact yields_pure fun _ => rfl
  | cons x xs => exact (yields_below (Nat.succ_pos _)).bind fun _ _ => yields_pure nofun

theorem reaches_position? {xs : List α} (i : Fin xs.length) (fits : xs.length ≤ Nat.pow 2 64) :
    Reaches (fun _ => position? xs) (some i) := by
  cases xs with
  | nil => exact i.elim0
  | cons x xs => exact (reaches_below i fits).bind (reaches_pure _)

theorem yields_swapRandom (xs : List α) : Yields listed (swapRandom xs) (·.Perm xs) := by
  refine (yields_position? xs).bind fun i _ => ?_
  cases i with
  | none => exact yields_pure (.refl xs)
  | some i =>
    refine (yields_position? xs).bind fun j _ => ?_
    cases j with
    | none => exact yields_pure (.refl xs)
    | some j => exact yields_pure (swapAt_perm xs i j)

/-- An element is taken out at some position, unless there is none. -/
theorem yields_removeRandom (xs : List α) :
    Yields listed (removeRandom xs) fun taken =>
      (∃ i < xs.length, taken = removeAt xs i) ∨ xs = [] ∧ taken = (none, []) := by
  refine (yields_position? xs).bind fun i empty => ?_
  cases i with
  | none =>
    obtain rfl := empty rfl
    exact yields_pure (.inr ⟨rfl, rfl⟩)
  | some i => exact yields_pure (.inl ⟨i, i.isLt, rfl⟩)

end Progeny.Sequence

/-!
# Totals over a sequence

The total of the weights of a sequence's elements.  Sizes and counts of statements and programs are
totals of those of their parts.
-/

namespace Progeny.Sequence

variable {α : Type}

/-- The weights of all elements, added up. -/
def total (weight : α → Nat) (xs : List α) : Nat := xs.foldl (fun n a => n + weight a) 0

theorem foldl_weight (weight : α → Nat) (xs : List α) (n : Nat) :
    xs.foldl (fun n a => n + weight a) n = n + total weight xs := by
  induction xs generalizing n with
  | nil => rfl
  | cons a xs ih =>
    simp only [total, List.foldl_cons, ih (n + weight a), ih (0 + weight a)]
    omega

@[simp] theorem total_nil (weight : α → Nat) : total weight [] = 0 := rfl

@[simp] theorem total_cons (weight : α → Nat) (a : α) (xs : List α) :
    total weight (a :: xs) = weight a + total weight xs := by
  rw [total, List.foldl_cons, foldl_weight, Nat.zero_add]

@[simp] theorem total_append (weight : α → Nat) (xs ys : List α) :
    total weight (xs ++ ys) = total weight xs + total weight ys := by
  rw [total, List.foldl_append]
  exact foldl_weight weight ys _

theorem total_length {β : Type} (f : α → List β) (xs : List α) :
    total (fun a => (f a).length) xs = (xs.flatMap f).length := by
  induction xs with
  | nil => rfl
  | cons a xs ih => rw [total_cons, ih, List.flatMap_cons, List.length_append]

end Progeny.Sequence

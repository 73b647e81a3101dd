import Progeny.Sequence.Edit

/-!
# What edits put in and take out

An edit of a sequence at a position changes its contents by what is put in or taken out there, and
nothing else is lost or repeated: what is left and what was taken out are together a permutation of
what was there and what was put in.  What is put in leaves the order of the others as it is, and one
removal takes at most one element out of a subsequence.
-/

namespace Progeny.Sequence

variable {α : Type}

theorem insertAll_perm (xs : List α) (i : Nat) (ys : List α) :
    (insertAll xs i ys).Perm (xs ++ ys) := by
  have moved : (xs.take i ++ (ys ++ xs.drop i)).Perm (xs.take i ++ (xs.drop i ++ ys)) :=
    List.perm_append_comm.append_left _
  rw [← List.append_assoc, ← List.append_assoc, List.take_append_drop] at moved
  exact moved

theorem eraseIdx_perm {xs : List α} {i : Nat} (h : i < xs.length) :
    (xs.eraseIdx i ++ [xs[i]]).Perm xs := by
  have split : xs.take i ++ ([xs[i]] ++ xs.drop (i + 1)) = xs := by
    rw [List.singleton_append, ← List.drop_eq_getElem_cons h, List.take_append_drop]
  have moved : (xs.take i ++ (xs.drop (i + 1) ++ [xs[i]])).Perm
      (xs.take i ++ ([xs[i]] ++ xs.drop (i + 1))) := List.perm_append_comm.append_left _
  rw [split, ← List.append_assoc, ← List.eraseIdx_eq_take_drop_succ] at moved
  exact moved

/-- Overwriting takes one element out and puts another in. -/
theorem set_perm {xs : List α} {i : Nat} (h : i < xs.length) (a : α) :
    (xs.set i a ++ [xs[i]]).Perm (xs ++ [a]) := by
  have put : (xs.set i a).Perm (xs.eraseIdx i ++ [a]) := by
    rw [List.set_eq_take_append_cons_drop, if_pos h, List.eraseIdx_eq_take_drop_succ,
      ← List.singleton_append, List.append_assoc]
    exact List.perm_append_comm.append_left _
  have swapped : (xs.eraseIdx i ++ [a] ++ [xs[i]]).Perm (xs.eraseIdx i ++ [xs[i]] ++ [a]) := by
    rw [List.append_assoc, List.append_assoc]
    exact List.perm_append_comm.append_left _
  exact (put.append_right _).trans (swapped.trans ((eraseIdx_perm h).append_right _))

theorem cut_perm (xs : List α) {low high : Nat} (h : low ≤ high) :
    (xs.take low ++ xs.drop high ++ (xs.drop low).take (high - low)).Perm xs := by
  have rest : (xs.drop low).take (high - low) ++ xs.drop high = xs.drop low := by
    have whole := List.take_append_drop (high - low) (xs.drop low)
    rw [List.drop_drop, Nat.add_sub_cancel' h] at whole
    exact whole
  have moved : (xs.take low ++ (xs.drop high ++ (xs.drop low).take (high - low))).Perm
      (xs.take low ++ ((xs.drop low).take (high - low) ++ xs.drop high)) :=
    List.perm_append_comm.append_left _
  rw [rest, List.take_append_drop, ← List.append_assoc] at moved
  exact moved

theorem mem_insert_iff {xs : List α} {i : Nat} {a b : α} :
    b ∈ insert xs i a ↔ b = a ∨ b ∈ xs := by
  rw [insert, (insertAll_perm xs i [a]).mem_iff, List.mem_append, List.mem_singleton, or_comm]

theorem swapAt_perm (xs : List α) (i j : Nat) : (swapAt xs i j).Perm xs := by
  unfold swapAt
  split
  · rename_i a b ha hb
    obtain ⟨hi, rfl⟩ := List.getElem?_eq_some_iff.mp ha
    obtain ⟨hj, rfl⟩ := List.getElem?_eq_some_iff.mp hb
    exact List.set_set_perm hi hj
  · exact .refl xs

/-! ### Sequences that grow -/

/-- `after` is `xs` with the elements `new` put in; those of `xs` keep their order. -/
structure Grows (xs new after : List α) : Prop where
  perm : after.Perm (xs ++ new)
  order : xs.Sublist after

theorem Grows.refl (xs : List α) : Grows xs [] xs where
  perm := by rw [List.append_nil]
  order := .refl xs

theorem Grows.trans {xs ys zs new more : List α} (h : Grows xs new ys) (h' : Grows ys more zs) :
    Grows xs (new ++ more) zs where
  perm := by
    rw [← List.append_assoc]
    exact h'.perm.trans (h.perm.append_right more)
  order := h.order.trans h'.order

theorem Grows.kept {xs new after : List α} (h : Grows xs new after) (none : new = []) :
    after = xs := by
  have length := h.perm.length_eq
  rw [none, List.append_nil] at length
  exact (h.order.eq_of_length length.symm).symm

theorem grows_insertAll (xs : List α) (i : Nat) (ys : List α) :
    Grows xs ys (insertAll xs i ys) where
  perm := insertAll_perm xs i ys
  order := by
    have around : (xs.take i ++ xs.drop i).Sublist (xs.take i ++ (ys ++ xs.drop i)) :=
      (List.sublist_append_right ys _).append_left _
    rw [List.take_append_drop, ← List.append_assoc] at around
    exact around

theorem grows_append (xs ys : List α) : Grows xs ys (xs ++ ys) where
  perm := .refl _
  order := List.sublist_append_left xs ys

/-- Where one element is taken out of `ys`, at most one is lost from a subsequence of it. -/
theorem exists_sublist_eraseIdx {xs ys : List α} (h : xs.Sublist ys) (i : Nat) :
    ∃ kept : List α,
      kept.Sublist xs ∧ xs.length ≤ kept.length + 1 ∧ kept.Sublist (ys.eraseIdx i) := by
  induction h generalizing i with
  | slnil => exact ⟨[], .slnil, Nat.zero_le _, .slnil⟩
  | @cons xs ys a sub ih =>
    cases i with
    | zero => exact ⟨xs, .refl xs, Nat.le_succ _, sub⟩
    | succ i =>
      obtain ⟨kept, within, length, left⟩ := ih i
      exact ⟨kept, within, length, left.cons a⟩
  | @cons_cons xs ys a sub ih =>
    cases i with
    | zero => exact ⟨xs, List.sublist_cons_self a xs, Nat.le_refl _, sub⟩
    | succ i =>
      obtain ⟨kept, within, length, left⟩ := ih i
      exact ⟨a :: kept, within.cons_cons a, Nat.succ_le_succ length, left.cons_cons a⟩

end Progeny.Sequence

import Progeny.Program.Random
import Progeny.Proofs.Sequence.Drawn

/-!
# Edits that only reorder

Some edits put the elements of a sequence in another order and do nothing else: whatever they draw,
what they leave is a permutation of what was there.  For a program these are the statements, and for
a statement the tokens; changing the order of the tokens in one statement permutes the tokens of
the whole program.
-/

namespace Progeny

open Draw

variable {listed : Nat}

/-! ### Sequences -/

namespace Sequence

variable {α : Type}

theorem swapNearest_perm (xs : List α) (i j : Nat) : (swapNearest xs i j).Perm xs :=
  swapAt_perm xs _ _

theorem rotateRight_perm (xs : List α) (distance : Nat) : (rotateRight xs distance).Perm xs := by
  refine List.perm_append_comm.trans ?_
  rw [List.take_append_drop]

theorem yields_shuffleFrom (i : Nat) (xs : List α) : Yields listed (shuffleFrom i xs) (·.Perm xs) := by
  induction i generalizing xs with
  | zero => exact yields_pure (.refl xs)
  | succ i ih =>
    refine (yields_index (Nat.succ_pos _)).bind fun j _ => ?_
    exact (ih _).mono fun ys perm => perm.trans (swapAt_perm xs (i + 1) j)

theorem yields_shuffle (xs : List α) : Yields listed (shuffle xs) (·.Perm xs) :=
  yields_shuffleFrom _ xs

end Sequence

/-! ### Statements -/

namespace Statement

theorem reverse_perm (s : Statement) : s.reverse.tokens.Perm s.tokens := List.reverse_perm s.tokens

theorem swap_perm (s : Statement) (i j : Nat) : (s.swap i j).tokens.Perm s.tokens :=
  Sequence.swapNearest_perm s.tokens i j

theorem yields_shuffle (s : Statement) :
    Yields listed s.shuffle fun t => t.tokens.Perm s.tokens :=
  (Sequence.yields_shuffle s.tokens).bind fun _ perm => yields_pure perm

theorem yields_swapRandom (s : Statement) :
    Yields listed s.swapRandom fun t => t.tokens.Perm s.tokens :=
  (Sequence.yields_swapRandom s.tokens).bind fun _ perm => yields_pure perm

end Statement

/-! ### Programs -/

namespace Program

theorem reverse_perm (p : Program) : p.reverse.statements.Perm p.statements :=
  List.reverse_perm p.statements

theorem sortBySize_perm (p : Program) : p.sortBySize.statements.Perm p.statements :=
  List.mergeSort_perm p.statements _

theorem swap_perm (p : Program) (i j : Nat) : (p.swap i j).statements.Perm p.statements :=
  Sequence.swapNearest_perm p.statements i j

theorem yields_shuffle (p : Program) :
    Yields listed p.shuffle fun q => q.statements.Perm p.statements :=
  (Sequence.yields_shuffle p.statements).bind fun _ perm => yields_pure perm

theorem yields_rotate (p : Program) :
    Yields listed p.rotate fun result => ∀ q, result = .ok q → q.statements.Perm p.statements := by
  refine (Sequence.yields_position? p.statements).bind fun distance _ => ?_
  cases distance with
  | none => exact yields_pure nofun
  | some distance =>
    refine yields_pure fun q rotated => ?_
    cases rotated
    exact Sequence.rotateRight_perm p.statements distance

theorem yields_swapRandom (p : Program) :
    Yields listed p.swapRandom fun result =>
      ∀ q, result = .ok q → q.statements.Perm p.statements := by
  refine yields_ite (fun _ => yields_pure nofun) fun _ => ?_
  refine (Sequence.yields_swapRandom p.statements).bind fun statements perm => ?_
  refine yields_pure fun q swapped => ?_
  cases swapped
  exact perm

/-- The tokens of all statements, in order. -/
def tokens (p : Program) : List Token := p.statements.flatMap (·.tokens)

theorem tokens_perm {p q : Program} (h : q.statements.Perm p.statements) :
    q.tokens.Perm p.tokens := h.flatMap_right _

/-- Reordering the tokens of one statement reorders those of the program. -/
theorem tokens_updateStatement_perm {p : Program} {i : Nat} {f : Statement → Statement}
    (h : ∀ s, p.statement? i = some s → (f s).tokens.Perm s.tokens) :
    (p.updateStatement i f).tokens.Perm p.tokens := by
  change ((p.statements.modify (Sequence.nearest p.statements i) f).flatMap _).Perm
    (p.statements.flatMap _)
  by_cases inside : Sequence.nearest p.statements i < p.statements.length
  · have found := h _ (List.getElem?_eq_getElem inside)
    rw [List.modify_eq_take_cons_drop inside]
    conv =>
      rhs
      rw [← List.take_append_drop (Sequence.nearest p.statements i) p.statements,
        List.drop_eq_getElem_cons inside]
    simp only [List.flatMap_append, List.flatMap_cons]
    exact (found.append_right _).append_left _
  · rw [List.modify_eq_self (Nat.le_of_not_lt inside)]

end Program

end Progeny

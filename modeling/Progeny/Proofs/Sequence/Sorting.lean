import Progeny.Program.Basic
import Progeny.Proofs.Sequence.First

/-!
# Stable sorts and extreme elements

A stable sort puts elements into ascending order and leaves those with one key in the order that they
had.  So it moves no element past another one with the same key, and which element is the first of
those with the greatest or the smallest key is the same before and after.  The first of the smallest
comes first; the first of the greatest comes last only if it is the only one.
-/

namespace Progeny

namespace Sequence

variable {α κ μ : Type} [LinearOrder κ] [LinearOrder μ] {key : α → κ} {rank : α → μ}
  {xs sorted : List α} {a : α}

/-- `sorted` holds the elements of `xs` by ascending keys, and those of each key in the order that
they have in `xs`. -/
structure SortedBy (key : α → κ) (xs sorted : List α) : Prop where
  perm : sorted.Perm xs
  ascending : sorted.Pairwise (key · ≤ key ·)
  stable : ∀ k, sorted.filter (key · = k) = xs.filter (key · = k)

theorem sortedBy_mergeSort (key : α → κ) (xs : List α) :
    SortedBy key xs (xs.mergeSort fun a b => key a ≤ key b) := by
  have trans (a b c : α) (ab : decide (key a ≤ key b) = true) (bc : decide (key b ≤ key c) = true) :
      decide (key a ≤ key c) = true :=
    decide_eq_true ((of_decide_eq_true ab).trans (of_decide_eq_true bc))
  have total (a b : α) : (decide (key a ≤ key b) || decide (key b ≤ key a)) = true := by
    simpa using le_total (key a) (key b)
  have perm := List.mergeSort_perm xs fun a b => decide (key a ≤ key b)
  refine ⟨perm, (List.pairwise_mergeSort trans total xs).imp of_decide_eq_true, fun k => ?_⟩
  have level : (xs.filter (key · = k)).Pairwise fun a b => decide (key a ≤ key b) = true := by
    refine List.pairwise_of_forall_mem_list fun a ha b hb => decide_eq_true ?_
    have same : key a = k := of_decide_eq_true (List.mem_filter.mp ha).2
    have same' : key b = k := of_decide_eq_true (List.mem_filter.mp hb).2
    rw [same, same']
  have kept := (List.sublist_mergeSort trans total level List.filter_sublist).filter (key · = k)
  rw [List.filter_filter] at kept
  simp only [Bool.and_self] at kept
  exact (kept.eq_of_length (perm.filter _).length_eq.symm).symm

/-- An ascending sequence is its own stable sort. -/
theorem mergeSort_of_ascending (ascending : xs.Pairwise (key · ≤ key ·)) :
    (xs.mergeSort fun a b => key a ≤ key b) = xs :=
  List.mergeSort_of_pairwise (ascending.imp decide_eq_true)

/-! ### Extreme elements -/

/-- A stable sort leaves the first of the greatest where it is found first, whatever order of the
keys it is the greatest by. -/
theorem SortedBy.isFirst_iff (h : SortedBy key xs sorted)
    (same : ∀ a b, rank a = rank b ↔ key a = key b) :
    IsFirst (fun _ => True) rank sorted a ↔ IsFirst (fun _ => True) rank xs a := by
  have level : sorted.find? (rank · = rank a) = xs.find? (rank · = rank a) := by
    simp only [same, ← List.head?_filter, h.stable]
  simp only [isFirst_iff_find?, true_and, level, h.perm.mem_iff]

/-- The first of an ascending sequence is the first of the smallest. -/
theorem head?_eq_some_iff_isFirst (ascending : xs.Pairwise (key · ≤ key ·)) :
    xs.head? = some a ↔ IsFirst (fun _ => True) (OrderDual.toDual ∘ key) xs a := by
  cases xs with
  | nil => exact iff_of_false nofun fun h => List.not_mem_nil h.mem
  | cons b rest =>
    have below := (List.pairwise_cons.mp ascending).1
    refine IsFirst.some_iff ⟨trivial, fun c mem _ => ?_, 0, rfl, fun j less => by omega⟩
    rcases List.mem_cons.mp mem with rfl | later
    · exact le_rfl
    · exact OrderDual.toDual_le_toDual.mpr (below c later)

variable {measure : α → Nat}

theorem SortedBy.firstMax_eq (h : SortedBy measure xs sorted) :
    firstMax measure sorted = firstMax measure xs := by
  refine Option.ext fun a => ?_
  rw [firstMax_eq_some_iff, firstMax_eq_some_iff]
  exact h.isFirst_iff fun _ _ => Iff.rfl

theorem SortedBy.firstMin_eq (h : SortedBy measure xs sorted) :
    firstMin measure sorted = firstMin measure xs := by
  refine Option.ext fun a => ?_
  rw [firstMin_eq_some_iff, firstMin_eq_some_iff]
  exact h.isFirst_iff fun _ _ => OrderDual.toDual_inj

theorem SortedBy.head?_eq (h : SortedBy measure xs sorted) :
    sorted.head? = firstMin measure sorted := by
  refine Option.ext fun a => ?_
  rw [firstMin_eq_some_iff]
  exact head?_eq_some_iff_isFirst h.ascending

end Sequence

/-! ### Programs -/

open Sequence

/-- What sorting a program by the sizes of its statements does, and what it has to do with the
longest and the shortest statement. -/
structure Program.SortsBySize (p : Program) : Prop where
  sorted : SortedBy Statement.size p.statements p.sortBySize.statements
  again : p.sortBySize.sortBySize = p.sortBySize
  longest : ∀ s, p.longest? = some s ↔ IsFirst (fun _ => True) Statement.size p.statements s
  shortest : ∀ s, p.shortest? = some s ↔
    IsFirst (fun _ => True) (OrderDual.toDual ∘ Statement.size) p.statements s
  longest_kept : p.sortBySize.longest? = p.longest?
  shortest_kept : p.sortBySize.shortest? = p.shortest?
  shortest_first : p.sortBySize.statements.head? = p.shortest?
  none_iff : ∀ found ∈ [p.longest?, p.shortest?, p.sortBySize.longest?, p.sortBySize.shortest?,
    p.sortBySize.statements.head?], found = none ↔ p.statements = []

/-- Sorting is stable, a second time it changes nothing, and before and after it the same statements
are the longest and the shortest one, of which the shortest comes first then. -/
theorem Program.sorting_keeps_extremes (p : Program) : p.SortsBySize := by
  have sorted : SortedBy Statement.size p.statements p.sortBySize.statements :=
    sortedBy_mergeSort Statement.size p.statements
  have longest : p.sortBySize.longest? = p.longest? := sorted.firstMax_eq
  have shortest : p.sortBySize.shortest? = p.shortest? := sorted.firstMin_eq
  have first : p.sortBySize.statements.head? = p.shortest? := sorted.head?_eq.trans shortest
  refine ⟨sorted, ?_, fun _ => firstMax_eq_some_iff, fun _ => firstMin_eq_some_iff, longest,
    shortest, first, ?_⟩
  · exact congrArg (fun ss => { p with statements := ss }) (mergeSort_of_ascending sorted.ascending)
  · have none_longest : p.longest? = none ↔ p.statements = [] := firstMax_eq_none_iff
    have none_shortest : p.shortest? = none ↔ p.statements = [] := firstMin_eq_none_iff
    rw [longest, shortest, first]
    simp only [List.forall_mem_cons, none_longest, none_shortest, iff_self, true_and, List.not_mem_nil,
      false_implies, implies_true]

end Progeny

import Mathlib.Data.List.TakeDrop
import Progeny.Program.Basic

/-!
# Copying a range and taking it out

Statements and programs copy a range of their elements, or take it out.  What is taken out are the
elements at the positions of the range and no others, whatever the bounds are.  A copy moves the
lower bound to the last element where it is past it, and so it is what would be taken out unless
there are elements and both bounds lie past them: then the last element is copied, and nothing would
be taken out.
-/

namespace Progeny

namespace Sequence

variable {α : Type}

/-- The elements at the positions from `low` up to `high`, which is not included. -/
def window (xs : List α) (low high : Nat) : List α :=
  (xs.zipIdx.filter fun entry => low ≤ entry.2 ∧ entry.2 < high).map Prod.fst

/-- There are elements, and both bounds are past the last one. -/
def Beyond (xs : List α) (low high : Nat) : Prop :=
  xs ≠ [] ∧ xs.length ≤ low ∧ xs.length ≤ high

variable {xs : List α} {low high : Nat}

/-- Where positions are counted from `start` on, those below `low` are dropped, and those that are
taken end before `high`. -/
theorem filter_zipIdx (xs : List α) (start low high : Nat) :
    ((xs.zipIdx start).filter fun entry => low ≤ entry.2 ∧ entry.2 < high).map Prod.fst =
      (xs.drop (low - start)).take (high - max low start) := by
  induction xs generalizing start with
  | nil => simp only [List.zipIdx_nil, List.filter_nil, List.map_nil, List.drop_nil, List.take_nil]
  | cons x xs ih =>
    rw [List.zipIdx_cons]
    by_cases before : start < low
    · have dropped : low - start = low - (start + 1) + 1 := by omega
      have bound : max low start = max low (start + 1) := by omega
      rw [List.filter_cons_of_neg (by simp only [decide_eq_true_eq]; omega), ih, dropped, bound,
        List.drop_succ_cons]
    · have none : low - start = 0 := by omega
      have none' : low - (start + 1) = 0 := by omega
      have bound : max low start = start := by omega
      have bound' : max low (start + 1) = start + 1 := by omega
      have tail := ih (start + 1)
      rw [none', bound', List.drop_zero] at tail
      rw [none, bound, List.drop_zero]
      by_cases inside : start < high
      · have taken : high - start = high - (start + 1) + 1 := by omega
        rw [List.filter_cons_of_pos (by simp only [decide_eq_true_eq]; omega), List.map_cons, tail,
          taken, List.take_succ_cons]
      · have nothing : high - start = 0 := by omega
        have nothing' : high - (start + 1) = 0 := by omega
        rw [List.filter_cons_of_neg (by simp only [decide_eq_true_eq]; omega), tail, nothing,
          nothing', List.take_zero, List.take_zero]

theorem window_eq (xs : List α) (low high : Nat) :
    window xs low high = (xs.drop low).take (high - low) := by
  unfold window
  rw [filter_zipIdx, Nat.sub_zero, Nat.max_eq_left (Nat.zero_le low)]

theorem length_window (xs : List α) (low high : Nat) :
    (window xs low high).length = min high xs.length - min low xs.length := by
  rw [window_eq, List.length_take, List.length_drop]
  omega

theorem window_eq_nil_iff : window xs low high = [] ↔ high ≤ low ∨ xs.length ≤ low := by
  rw [← List.length_eq_zero_iff, length_window]
  omega

theorem removeSpan_taken (xs : List α) (low high : Nat) :
    (removeSpan xs low high).1 = (xs.drop low).take (high - low) := by
  dsimp only [removeSpan]
  split
  · rename_i order
    have within : low ≤ xs.length := by omega
    rw [Nat.min_eq_left within]
    refine List.take_eq_take_iff.mpr ?_
    rw [List.length_drop]
    omega
  · refine (List.eq_nil_of_length_eq_zero ?_).symm
    rw [List.length_take, List.length_drop]
    omega

/-- What is left are the elements before the range and those after it. -/
theorem removeSpan_left (xs : List α) (low high : Nat) :
    (removeSpan xs low high).2 = xs.take low ++ xs.drop (max low high) := by
  dsimp only [removeSpan]
  split
  · rename_i order
    have within : min low xs.length = low := by omega
    have greater : max low high = high := by omega
    rw [within, greater]
    rcases Nat.le_total high xs.length with inside | past
    · rw [Nat.min_eq_left inside]
    · rw [Nat.min_eq_right past, List.drop_length, List.drop_of_length_le past]
  · rename_i order
    rcases Nat.lt_or_ge low xs.length with inside | past
    · have greater : max low high = low := by omega
      rw [greater, List.take_append_drop]
    · have past' : xs.length ≤ max low high := by omega
      rw [List.take_of_length_le past, List.drop_of_length_le past', List.append_nil]

theorem slice_of_beyond (beyond : Beyond xs low high) :
    slice xs low high = [xs.getLast beyond.1] := by
  obtain ⟨some, lowPast, highPast⟩ := beyond
  have positive := List.length_pos_iff.mpr some
  have last : min low (xs.length - 1) = xs.length - 1 := by omega
  have one : min high xs.length - (xs.length - 1) = 1 := by omega
  dsimp only [slice, nearest]
  rw [last, one, List.drop_length_sub_one some, List.take_one, List.head?_cons]
  rfl

theorem slice_of_not_beyond (within : ¬Beyond xs low high) :
    slice xs low high = window xs low high := by
  rw [window_eq]
  dsimp only [slice, nearest]
  by_cases inside : low < xs.length
  · have same : min low (xs.length - 1) = low := by omega
    rw [same]
    refine List.take_eq_take_iff.mpr ?_
    rw [List.length_drop]
    omega
  · have past : xs.length ≤ low := by omega
    rw [List.drop_of_length_le past, List.take_nil]
    by_cases empty : xs = []
    · rw [empty, List.drop_nil, List.take_nil]
    · -- the upper bound is not past the last element, from which on nothing is copied then
      have before : high < xs.length := Nat.not_le.mp fun highPast => within ⟨empty, past, highPast⟩
      have none : min high xs.length - min low (xs.length - 1) = 0 := by omega
      rw [none, List.take_zero]

/-- What is copied of a range, and what is taken out there and left then. -/
structure Ranges (xs : List α) (low high : Nat) (copied taken rest : List α) : Prop where
  removed : taken = window xs low high
  left : rest = xs.take low ++ xs.drop (max low high)
  length : taken.length = min high xs.length - min low xs.length
  nothing : taken = [] ↔ high ≤ low ∨ xs.length ≤ low
  agree : copied = taken ↔ ¬Beyond xs low high
  beyond : ∀ h : Beyond xs low high, copied = [xs.getLast h.1] ∧ taken = []

theorem ranges (xs : List α) (low high : Nat) :
    Ranges xs low high (slice xs low high) (removeSpan xs low high).1
      (removeSpan xs low high).2 := by
  have nothing (h : Beyond xs low high) : window xs low high = [] :=
    window_eq_nil_iff.mpr (.inr h.2.1)
  rw [removeSpan_taken, ← window_eq]
  refine ⟨rfl, removeSpan_left xs low high, length_window xs low high, window_eq_nil_iff, ?_,
    fun h => ⟨slice_of_beyond h, nothing h⟩⟩
  refine ⟨fun agree h => ?_, slice_of_not_beyond⟩
  rw [slice_of_beyond h, nothing h] at agree
  cases agree

end Sequence

/-- A statement and a program copy what they would take out, unless there are elements and both
bounds are past them; then they copy the last one, and nothing would be taken out. -/
theorem ranges_agree_iff (low high : Nat) :
    (∀ s : Statement, Sequence.Ranges s.tokens low high (s.range low high)
      (s.removeRange low high).1 (s.removeRange low high).2.tokens) ∧
    ∀ p : Program, Sequence.Ranges p.statements low high (p.range low high)
      (p.removeRange low high).1 (p.removeRange low high).2.statements :=
  ⟨fun s => Sequence.ranges s.tokens low high, fun p => Sequence.ranges p.statements low high⟩

/-- After three tokens there is none, but the last one is copied from there. -/
theorem range_copies_past_end :
    let s : Statement := ⟨[⟨"a"⟩, ⟨"b"⟩, ⟨"c"⟩]⟩
    s.range 3 3 = [⟨"c"⟩] ∧ (s.removeRange 3 3).1 = [] ∧
      s.range 5 4 = [⟨"c"⟩] ∧ (s.removeRange 5 4).1 = [] := by decide

end Progeny

import Progeny.Program.Random
import Progeny.Proofs.Double.Unit
import Progeny.Proofs.Random.Yields

/-!
# Random subsets

A random subset reads one word for each element and keeps the element if the number of its word is
below the probability.  How many words are read does not depend on what is kept, so two probabilities
that are tried on the same words are compared with the same numbers, and the greater one keeps what
the smaller one keeps.  As the numbers lie in `[0, 1)`, moving a probability there changes nothing.
-/

namespace Progeny

open Fallible

namespace Sequence

variable {α : Type} {p q : Float} {words : List UInt64} {i : Nat}

/-- The elements at some positions, as far as these exist. -/
def atPositions (xs : List α) (positions : List Nat) : List α := positions.filterMap (xs[·]?)

/-- The positions of the words whose numbers are below `p`. -/
def kept (p : Float) (words : List UInt64) : List Nat :=
  (List.range words.length).filter fun i => words[i]?.any (Draw.ofWord · < p)

theorem atPositions_succ (x : α) (xs : List α) (positions : List Nat) :
    atPositions (x :: xs) (positions.map (· + 1)) = atPositions xs positions := by
  unfold atPositions
  rw [List.filterMap_map]
  rfl

theorem atPositions_range (xs : List α) : atPositions xs (List.range xs.length) = xs := by
  induction xs with
  | nil => rfl
  | cons x xs ih =>
    rw [List.length_cons, List.range_succ_eq_map]
    exact congrArg (x :: ·) ((atPositions_succ x xs _).trans ih)

/-! ### Words and probabilities -/

/-- No number of a word lies between a probability and its place in `[0, 1]`. -/
theorem ofWord_lt_clampProbability_iff (word : UInt64) (p : Float) :
    Draw.ofWord word < clampProbability p ↔ Draw.ofWord word < p := by
  have least := Draw.zero_le_ofWord word
  have most := Draw.ofWord_lt_one word
  unfold clampProbability
  split
  · rename_i negative
    refine iff_of_false (Double.not_lt_of_le least) fun below => ?_
    exact Double.not_lt_of_le (Double.le_of_lt negative) (Double.lt_of_le_of_lt least below)
  · split
    · rename_i above
      exact iff_of_true most (Double.lt_of_lt_of_le most (Double.le_of_lt above))
    · rfl

theorem kept_sublist_range (p : Float) (words : List UInt64) :
    (kept p words).Sublist (List.range words.length) := List.filter_sublist

/-- On the same words, a greater probability keeps at least the same positions. -/
theorem kept_sublist_kept (h : p ≤ q) (words : List UInt64) :
    (kept p words).Sublist (kept q words) := by
  refine List.monotone_filter_right _ fun i below => ?_
  cases at_i : words[i]? with
  | none => simp [at_i] at below
  | some word =>
    simp only [at_i, Option.any_some, decide_eq_true_eq] at below ⊢
    exact Double.lt_of_lt_of_le below h

theorem kept_of_one_le (h : 1.0 ≤ p) (words : List UInt64) :
    kept p words = List.range words.length := by
  refine List.filter_eq_self.mpr fun i mem => ?_
  have inside := List.mem_range.mp mem
  rw [List.getElem?_eq_getElem inside]
  exact decide_eq_true (Double.lt_of_lt_of_le (Draw.ofWord_lt_one _) h)

/-- A probability that no number of a word is below keeps nothing. -/
theorem kept_eq_nil (none : ∀ word, ¬Draw.ofWord word < p) (words : List UInt64) :
    kept p words = [] := by
  refine List.filter_eq_nil_iff.mpr fun i _ => ?_
  cases words[i]? with
  | none => exact Bool.false_ne_true
  | some word => simpa using none word

theorem kept_of_le_zero (h : p ≤ 0.0) (words : List UInt64) : kept p words = [] :=
  kept_eq_nil (fun word => Double.not_lt_of_le (Double.le_trans h (Draw.zero_le_ofWord word))) words

theorem kept_of_isNaN (h : p.isNaN = true) (words : List UInt64) : kept p words = [] := by
  refine kept_eq_nil (fun word below => ?_) words
  obtain ⟨-, number, -⟩ := Double.lt_iff.mp below
  exact Bool.false_ne_true (number.symm.trans h)

/-! ### Draws -/

theorem kept_cons (p : Float) (word : UInt64) (words : List UInt64) :
    kept p (word :: words) =
      if Draw.ofWord word < p then 0 :: (kept p words).map (· + 1) else (kept p words).map (· + 1) := by
  unfold kept
  rw [List.length_cons, List.range_succ_eq_map, List.filter_cons, List.filter_map]
  simp [Function.comp_def]

theorem atPositions_kept_cons (x : α) (xs : List α) (word : UInt64) (words : List UInt64) :
    atPositions (x :: xs) (kept p (word :: words)) =
      if Draw.ofWord word < p then x :: atPositions xs (kept p words)
      else atPositions xs (kept p words) := by
  rw [kept_cons]
  split
  · exact congrArg (x :: ·) (atPositions_succ x xs _)
  · exact atPositions_succ x xs _

/-- Thinning out reads one word for each element, and keeps where the numbers are below `p`. -/
theorem thin_eq (p : Float) (xs : List α) :
    thin p xs =
      (fun words => atPositions xs (kept p words)) <$> Draw.replicate xs.length Draw.word := by
  induction xs with
  | nil => rfl
  | cons x xs ih =>
    rw [thin, ih]
    simp only [Draw.unit, Draw.replicate, List.length_cons, map_bind, bind_assoc, pure_bind,
      bind_map_left, map_pure, decide_eq_true_eq]
    refine bind_congr fun word => bind_congr fun words => congrArg pure ?_
    exact (atPositions_kept_cons x xs word words).symm

theorem subset_eq (xs : List α) (p : Float) :
    subset xs p =
      (fun words => atPositions xs (kept p words)) <$> Draw.replicate xs.length Draw.word := by
  unfold subset
  rw [thin_eq]
  unfold kept
  simp only [ofWord_lt_clampProbability_iff]

end Sequence

namespace Draw

theorem word_cases (source : Words) :
    (source.remaining = 0 ∧ word source = .error .dry) ∨
      ∃ w rest, word source = .ok (w, rest) ∧ rest.remaining + 1 = source.remaining := by
  obtain ⟨queued, generator, remaining⟩ := source
  cases remaining with
  | zero => exact .inl ⟨rfl, rfl⟩
  | succ left =>
    cases queued with
    | nil => exact .inr ⟨_, _, rfl, rfl⟩
    | cons w queued => exact .inr ⟨_, _, rfl, rfl⟩

/-- As many words are read as are asked for, or the source runs dry. -/
theorem replicate_word_cases (n : Nat) (source : Words) :
    (source.remaining < n ∧ replicate n word source = .error .dry) ∨
      ∃ words rest, replicate n word source = .ok (words, rest) ∧ words.length = n ∧
        rest.remaining + n = source.remaining := by
  induction n generalizing source with
  | zero => exact .inr ⟨[], source, rfl, rfl, rfl⟩
  | succ n ih =>
    rw [replicate, bind_eq]
    rcases word_cases source with ⟨none, dry⟩ | ⟨w, middle, drawn, one⟩
    · exact .inl ⟨by omega, by rw [dry]⟩
    · simp only [drawn, bind_eq]
      rcases ih middle with ⟨few, dry⟩ | ⟨words, rest, drawn, length, left⟩
      · exact .inl ⟨by omega, by rw [dry]⟩
      · refine .inr ⟨w :: words, rest, by rw [drawn]; rfl, congrArg (· + 1) length, by omega⟩

end Draw

namespace Sequence

variable {α : Type}

/-- What `draw` draws from `xs` with each probability. -/
structure Subsets (xs : List α) (draw : Float → Draw (List α)) : Prop where
  dry : ∀ source : Words, source.remaining < xs.length → ∀ p, draw p source = .error .dry
  drawn : ∀ source : Words, xs.length ≤ source.remaining → ∃ words rest,
    Draw.replicate xs.length Draw.word source = .ok (words, rest) ∧
    words.length = xs.length ∧ rest.remaining + xs.length = source.remaining ∧
    ∀ p, draw p source = .ok (atPositions xs (kept p words), rest)
  ordered : ∀ p words, (kept p words).Sublist (List.range words.length)
  monotone : ∀ p q, p ≤ q → ∀ words, (kept p words).Sublist (kept q words)
  all : ∀ p, 1.0 ≤ p → ∀ words, words.length = xs.length → atPositions xs (kept p words) = xs
  none : ∀ p : Float, p ≤ 0.0 ∨ p.isNaN → ∀ words, kept p words = []

theorem subsets (xs : List α) : Subsets xs (subset xs) where
  dry source short p := by
    rcases Draw.replicate_word_cases xs.length source with ⟨-, dry⟩ | ⟨words, rest, -, -, left⟩
    · rw [subset_eq, map_eq_pure_bind, bind_eq, dry]
    · omega
  drawn source enough := by
    rcases Draw.replicate_word_cases xs.length source with ⟨few, -⟩ | ⟨words, rest, drawn, length, left⟩
    · omega
    · refine ⟨words, rest, drawn, length, left, fun p => ?_⟩
      rw [subset_eq, map_eq_pure_bind, bind_eq, drawn]
      rfl
  ordered := kept_sublist_range
  monotone _ _ := kept_sublist_kept
  all p sure words length := by
    rw [kept_of_one_le sure, length, atPositions_range]
  none p never words := never.elim (kept_of_le_zero · words) (kept_of_isNaN · words)

end Sequence

/-- Random subsets of statements and of programs read one word for each element; on the same words, a
greater probability keeps what a smaller one keeps.  From 1 on everything is kept, and nothing up to 0
or with what is not a number. -/
theorem random_subsets_are_monotone :
    (∀ s : Statement, Sequence.Subsets s.tokens s.randomSubset) ∧
    ∀ p : Program, Sequence.Subsets p.statements p.randomSubset :=
  ⟨fun s => Sequence.subsets s.tokens, fun p => Sequence.subsets p.statements⟩

/-- The words have the numbers 0, 0.5 and 0.75. -/
theorem random_subsets_are_monotone_of_three :
    let s : Statement := ⟨["a", "b", "c"]⟩
    let words : List UInt64 := [0, 9223372036854775808, 13835058055282163712]
    (0.25 : Float) ≤ 1.0 / 0.0 ∧ Sequence.kept 0.25 words = [0] ∧
      s.randomSubset 0.75 (.thenZeros words 3) = .ok (["a", "b"], .thenZeros [] 0) ∧
      (Sequence.kept 0.25 words).Sublist (Sequence.kept (1.0 / 0.0) words) ∧
      Sequence.atPositions s.tokens (Sequence.kept (1.0 / 0.0) words) = s.tokens := by
  intro s words
  have subsets := random_subsets_are_monotone.1 s
  have below : (0.25 : Float) ≤ 1.0 / 0.0 := by decide
  exact ⟨below, by decide, by decide, subsets.monotone _ _ below words,
    subsets.all _ (by decide) words rfl⟩

end Progeny

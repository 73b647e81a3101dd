import Progeny.Proofs.Sequence.First
import Progeny.Statement.Basic

/-!
# The most common token

The most common token is found in two passes.  The first one counts into a table, which then holds
each counted element with the number of its occurrences.  The second one goes through the elements
and changes the best one only for one with a greater number, so it ends at the first of those with
the greatest.  Punctuation is not counted, so that it may be put in or left out anywhere.
-/

namespace Progeny

namespace Sequence

variable {α : Type} [DecidableEq α] {table : List (α × Nat)} {seen xs : List α} {a b : α} {n : Nat}

/-! ### Counting into a table -/

theorem lookup_cons_eq (a : α) (entry : α × Nat) (table : List (α × Nat)) :
    (entry :: table).lookup a = if entry.1 = a then some entry.2 else table.lookup a := by
  rw [List.lookup_cons]
  by_cases same : entry.1 = a
  · simp [same]
  · simp [same, beq_eq_false_iff_ne.mpr (Ne.symm same)]

theorem lookup_countOne (a b : α) (table : List (α × Nat)) :
    (countOne a table).lookup b =
      if a = b then some ((table.lookup a).getD 0 + 1) else table.lookup b := by
  induction table with
  | nil => exact lookup_cons_eq b (a, 1) []
  | cons entry table ih =>
    obtain ⟨c, n⟩ := entry
    by_cases same : c = a
    · subst same
      simp only [countOne, if_true, lookup_cons_eq, Option.getD_some]
      split <;> rfl
    · simp only [countOne, if_neg same, lookup_cons_eq, ih]
      by_cases here : c = b
      · rw [if_pos here, if_pos here, if_neg fun other => same (here.trans other.symm)]
      · rw [if_neg here, if_neg here]

/-- The table holds each of the elements seen, with the number of its occurrences, and no other. -/
def Counts (table : List (α × Nat)) (seen : List α) : Prop :=
  ∀ b, table.lookup b = if b ∈ seen then some (seen.count b) else none

theorem Counts.concat (h : Counts table seen) (a : α) : Counts (countOne a table) (seen ++ [a]) := by
  intro b
  rw [lookup_countOne, h a, h b]
  by_cases same : a = b
  · subst same
    by_cases mem : a ∈ seen
    · simp [mem]
    · simp [mem, List.count_eq_zero.mpr mem]
  · simp [same, Ne.symm same]

theorem Counts.foldl (h : Counts table seen) (rest : List α) :
    Counts (rest.foldl (fun table a => countOne a table) table) (seen ++ rest) := by
  induction rest generalizing table seen with
  | nil => rwa [List.append_nil]
  | cons a rest ih =>
    rw [List.append_cons]
    exact ih (h.concat a)

theorem counts_tally (xs : List α) : Counts (tally xs) xs := by
  have start : Counts ([] : List (α × Nat)) [] := fun _ => rfl
  exact start.foldl xs

/-! ### The search for the greatest number -/

/-- `a` is the first of the elements with the greatest number in the table. -/
abbrev IsMostFrequent (table : List (α × Nat)) (xs : List α) (a : α) : Prop :=
  IsFirst (fun b => (table.lookup b).isSome) (fun b => (table.lookup b).getD 0) xs a

/-- The best entry when some elements have been seen: none if none of them stands in the table, and
else that of the first with the greatest number. -/
inductive Leads (table : List (α × Nat)) (seen : List α) : Option (α × Nat) → Prop
  | none (unlisted : ∀ b ∈ seen, table.lookup b = none) : Leads table seen none
  | some {a : α} {n : Nat} (listed : table.lookup a = some n) (first : IsMostFrequent table seen a) :
    Leads table seen (some (a, n))

theorem Leads.concat {best : Option (α × Nat)} (h : Leads table seen best) (a : α) :
    Leads table (seen ++ [a]) (preferred table best a) := by
  unfold preferred
  cases entry : table.lookup a with
  | none =>
    cases h with
    | none unlisted =>
      exact .none (List.forall_mem_append.mpr ⟨unlisted, List.forall_mem_singleton.mpr entry⟩)
    | some listed first =>
      exact .some listed (first.concat fun some => by simp [entry] at some)
  | some n =>
    have here : (table.lookup a).isSome = true := by rw [entry, Option.isSome_some]
    cases h with
    | none unlisted =>
      refine .some entry (isFirst_concat_self here fun c mem listed => ?_)
      simp [unlisted c mem] at listed
    | @some b most listed first =>
      dsimp only
      split
      · rename_i greater
        exact .some entry (first.concat_self here (by simpa [listed, entry] using greater))
      · rename_i kept
        exact .some listed (first.concat fun _ => by simpa [listed, entry] using kept)

theorem Leads.foldl {best : Option (α × Nat)} (h : Leads table seen best) (rest : List α) :
    Leads table (seen ++ rest) (rest.foldl (preferred table) best) := by
  induction rest generalizing seen best with
  | nil => rwa [List.append_nil]
  | cons a rest ih =>
    rw [List.append_cons]
    exact ih (h.concat a)

theorem leads_foldl (table : List (α × Nat)) (xs : List α) :
    Leads table xs (xs.foldl (preferred table) none) := by
  have start : Leads table [] none := .none nofun
  exact start.foldl xs

theorem mostFrequent?_eq_some_iff : mostFrequent? table xs = some a ↔ IsMostFrequent table xs a := by
  have scanned := leads_foldl table xs
  unfold mostFrequent?
  generalize xs.foldl (preferred table) none = best at scanned ⊢
  cases scanned with
  | none unlisted =>
    refine iff_of_false nofun fun h => ?_
    have listed := h.chosen
    simp [unlisted a h.mem] at listed
  | some listed first => exact first.some_iff

theorem mostFrequent?_eq_none_iff :
    mostFrequent? table xs = none ↔ ∀ b ∈ xs, table.lookup b = none := by
  have scanned := leads_foldl table xs
  unfold mostFrequent?
  generalize xs.foldl (preferred table) none = best at scanned ⊢
  cases scanned with
  | none unlisted => exact iff_of_true rfl unlisted
  | @some a n listed first =>
    refine iff_of_false nofun fun unlisted => ?_
    rw [unlisted a first.mem] at listed
    cases listed

end Sequence

namespace Statement

open Sequence

variable {s s' : Statement} {t : Token}

/-- Each token that is not punctuation stands in the table with the number of its occurrences. -/
theorem lookup_tally (mem : t ∈ s.tokens) :
    (tally (s.tokens.filter (! isStructural ·))).lookup t =
      if isStructural t then none else some (s.tokens.count t) := by
  rw [counts_tally]
  cases structural : isStructural t with
  | true => simp [structural]
  | false => simp [mem, structural, List.count_filter]

theorem mostCommon?_eq_some_iff :
    s.mostCommon? = some t ↔ IsFirst (isStructural · = false) (s.tokens.count ·) s.tokens t := by
  have same (u : Token) (mem : u ∈ s.tokens) :
      ((tally (s.tokens.filter (! isStructural ·))).lookup u).isSome = true ↔
        isStructural u = false := by
    rw [lookup_tally mem]
    cases isStructural u <;> simp
  have equal (u : Token) (mem : u ∈ s.tokens) (counted : isStructural u = false) :
      ((tally (s.tokens.filter (! isStructural ·))).lookup u).getD 0 = s.tokens.count u := by
    rw [lookup_tally mem, counted]
    rfl
  unfold mostCommon?
  rw [mostFrequent?_eq_some_iff]
  constructor
  · exact IsFirst.congr same fun u mem listed => equal u mem ((same u mem).mp listed)
  · exact IsFirst.congr (fun u mem => (same u mem).symm) fun u mem counted =>
      (equal u mem counted).symm

theorem mostCommon?_eq_none_iff :
    s.mostCommon? = none ↔ ∀ t ∈ s.tokens, isStructural t = true := by
  unfold mostCommon?
  rw [mostFrequent?_eq_none_iff]
  refine forall₂_congr fun t mem => ?_
  rw [lookup_tally mem]
  cases isStructural t <;> simp

/-! ### What the most common token depends on -/

/-- Punctuation aside, both statements have each token equally often, and the tokens first occur in
the same order. -/
structure SameOccurrences (s s' : Statement) : Prop where
  counts : ∀ t, isStructural t = false → s'.tokens.count t = s.tokens.count t
  order : ∀ t ∈ s.tokens, ∀ u ∈ s.tokens, isStructural t = false → isStructural u = false →
    (s'.tokens.idxOf t ≤ s'.tokens.idxOf u ↔ s.tokens.idxOf t ≤ s.tokens.idxOf u)

theorem SameOccurrences.mem_iff (h : SameOccurrences s s') (counted : isStructural t = false) :
    t ∈ s'.tokens ↔ t ∈ s.tokens := by
  rw [← List.count_pos_iff, ← List.count_pos_iff, h.counts t counted]

theorem SameOccurrences.symm (h : SameOccurrences s s') : SameOccurrences s' s where
  counts t counted := (h.counts t counted).symm
  order t ht u hu counted counted' :=
    (h.order t ((h.mem_iff counted).mp ht) u ((h.mem_iff counted').mp hu) counted counted').symm

theorem SameOccurrences.isFirst (h : SameOccurrences s s')
    (first : IsFirst (isStructural · = false) (s.tokens.count ·) s.tokens t) :
    IsFirst (isStructural · = false) (s'.tokens.count ·) s'.tokens t := by
  rw [isFirst_iff_idxOf] at first ⊢
  obtain ⟨mem, counted, greatest, earliest⟩ := first
  refine ⟨(h.mem_iff counted).mpr mem, counted, fun u mem' counted' => ?_,
    fun u mem' counted' level => ?_⟩
  · rw [h.counts u counted', h.counts t counted]
    exact greatest u ((h.mem_iff counted').mp mem') counted'
  · have mem' := (h.mem_iff counted').mp mem'
    rw [h.counts u counted', h.counts t counted] at level
    exact (h.order t mem u mem' counted counted').mpr (earliest u mem' counted' level)

theorem SameOccurrences.mostCommon?_eq (h : SameOccurrences s s') :
    s'.mostCommon? = s.mostCommon? := by
  refine Option.ext fun t => ?_
  rw [mostCommon?_eq_some_iff, mostCommon?_eq_some_iff]
  exact ⟨h.symm.isFirst, h.isFirst⟩

/-- The tokens that are not punctuation. -/
def words (s : Statement) : List Token := s.tokens.filter (isStructural · = false)

theorem mostCommon?_eq_some_iff_words :
    s.mostCommon? = some t ↔ IsFirst (fun _ => True) (s.words.count ·) s.words t := by
  have equal (u : Token) (counted : isStructural u = false) :
      s.words.count u = s.tokens.count u := List.count_filter (decide_eq_true counted)
  rw [mostCommon?_eq_some_iff, words, isFirst_filter_iff]
  constructor
  · exact IsFirst.congr (fun _ _ => Iff.rfl) fun u _ counted => (equal u counted).symm
  · exact IsFirst.congr (fun _ _ => Iff.rfl) fun u _ counted => equal u counted

theorem mostCommon?_congr (same : s'.words = s.words) : s'.mostCommon? = s.mostCommon? := by
  refine Option.ext fun t => ?_
  rw [mostCommon?_eq_some_iff_words, mostCommon?_eq_some_iff_words, same]

theorem words_insertAll {marks : List Token} (structural : ∀ m ∈ marks, isStructural m = true)
    (i : Nat) : (s.insertAll i marks).words = s.words := by
  have none : marks.filter (isStructural · = false) = [] :=
    List.filter_eq_nil_iff.mpr fun m mem => by simp [structural m mem]
  change (s.tokens.take i ++ marks ++ s.tokens.drop i).filter _ = s.tokens.filter _
  rw [List.filter_append, List.filter_append, none, List.append_nil, ← List.filter_append,
    List.take_append_drop]

theorem extend_eq_insertAll (s : Statement) (ts : List Token) :
    s.extend ts = s.insertAll s.size ts := by
  unfold extend insertAll Sequence.insertAll size
  rw [List.take_length, List.drop_length, List.append_nil]

/-- What the most common token of a statement is, and what it depends on. -/
structure HasFirstMode (s : Statement) : Prop where
  none_iff : s.mostCommon? = none ↔ ∀ t ∈ s.tokens, isStructural t = true
  some_iff : ∀ t, s.mostCommon? = some t ↔
    IsFirst (isStructural · = false) (s.tokens.count ·) s.tokens t
  occurrences : ∀ s', SameOccurrences s s' → s'.mostCommon? = s.mostCommon?
  sprinkled : ∀ s' : Statement, s'.words = s.words → s'.mostCommon? = s.mostCommon?
  inserted : ∀ marks, (∀ m ∈ marks, isStructural m = true) →
    ∀ i, (s.insertAll i marks).mostCommon? = s.mostCommon?
  appended : ∀ marks, (∀ m ∈ marks, isStructural m = true) →
    (s.extend marks).mostCommon? = s.mostCommon?

/-- The most common token is the first of those that occur most often, punctuation aside; there is
none only in a statement of punctuation.  Nothing matters but how often the tokens occur and in which
order they first do, and punctuation nowhere. -/
theorem most_common_is_first_mode (s : Statement) : HasFirstMode s where
  none_iff := mostCommon?_eq_none_iff
  some_iff _ := mostCommon?_eq_some_iff
  occurrences _ same := same.mostCommon?_eq
  sprinkled _ same := mostCommon?_congr same
  inserted _ structural i := mostCommon?_congr (words_insertAll structural i)
  appended marks structural := by
    rw [extend_eq_insertAll]
    exact mostCommon?_congr (words_insertAll structural s.size)

/-- `b` reaches its two occurrences after `a`, but it occurs first. -/
theorem most_common_is_first_mode_of_tie :
    let s : Statement := ⟨["(", "b", "a", "a", "b", ";"]⟩
    let marks : List Token := [";", "(", ";"]
    s.mostCommon? = some "b" ∧ (∀ m ∈ marks, isStructural m = true) ∧
      (s.insertAll 1 marks).mostCommon? = some "b" ∧ (⟨marks⟩ : Statement).mostCommon? = none := by
  intro s marks
  have mode : s.mostCommon? = some "b" := by decide
  have structural : ∀ m ∈ marks, isStructural m = true := by decide
  exact ⟨mode, structural, ((most_common_is_first_mode s).inserted marks structural 1).trans mode,
    (most_common_is_first_mode ⟨marks⟩).none_iff.mpr structural⟩

end Statement

end Progeny

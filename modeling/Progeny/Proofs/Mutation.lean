import Progeny.Mutation
import Progeny.Proofs.Program.Drawn
import Progeny.Proofs.Sequence.Reordering

/-!
# What a mutation may do

Each of the five edits changes the statements of a program and nothing else.  What it may do to them
is a relation between the statements before and after it; behind its coin it may also do nothing, and
must where the coin never falls on `true`.  A mutation is a `Course` of these five in a row, and what
it may do as a whole, its balance, its bounds and the order that it keeps, is read off the course.
-/

namespace Progeny

open Draw Fallible

variable {listed : Nat}

/-- `q` is `p` with other statements, which `R` relates to those of `p`. -/
def Program.Changed (R : List Statement → List Statement → Prop) (p q : Program) : Prop :=
  ∃ after, R p.statements after ∧ q = { p with statements := after }

namespace Mutation

/-! ### The five edits -/

/-- The statements of some sentences of the grammar. -/
def sentences (drawn : List Grammar.Sentence) : List Statement := drawn.map fun d => ⟨d.tokens⟩

/-- Fewer than `bound` sentences are put in; none for a bound of 0 or 1. -/
def Inserts (bound : Nat) (ss after : List Statement) : Prop :=
  ∃ drawn, drawn.length < max bound 1 ∧ Sequence.Grows ss (sentences drawn) after

/-- At most one of the statements is put in a second time. -/
def Repeats (ss after : List Statement) : Prop :=
  ∃ copied, copied ⊆ ss ∧ copied.length ≤ 1 ∧ Sequence.Grows ss copied after

/-- At most one statement is taken out, and never the only one. -/
def Drops (ss after : List Statement) : Prop :=
  after = ss ∨ 1 < ss.length ∧ ∃ i < ss.length, after = ss.eraseIdx i

/-- At most one statement gets one token more. -/
def Retouches (ss after : List Statement) : Prop :=
  after = ss ∨ ∃ (i : Fin ss.length) (j : Nat) (t : Grammar.Single),
    after = ss.set i ((ss.get i).insert j t.token)

variable {ss after : List Statement} {p : Program}

theorem inserts_refl (bound : Nat) (ss : List Statement) : Inserts bound ss ss :=
  ⟨[], Nat.lt_of_lt_of_le Nat.one_pos (Nat.le_max_right bound 1), .refl ss⟩

theorem repeats_refl (ss : List Statement) : Repeats ss ss :=
  ⟨[], List.nil_subset ss, Nat.zero_le 1, .refl ss⟩

theorem Repeats.le_length (h : Repeats ss after) : ss.length ≤ after.length := by
  obtain ⟨copied, -, -, grows⟩ := h
  exact grows.order.length_le

theorem Drops.le_length (h : Drops ss after) :
    min ss.length (max (ss.length - 1) 1) ≤ after.length := by
  obtain rfl | ⟨several, i, inside, rfl⟩ := h
  · exact Nat.min_le_left _ _
  · rw [List.length_eraseIdx_of_lt inside]
    omega

/-- What is left, and what is taken out. -/
theorem Drops.balance (h : Drops ss after) :
    ∃ removed, removed.length ≤ 1 ∧ (after ++ removed).Perm ss := by
  obtain rfl | ⟨-, i, inside, rfl⟩ := h
  · exact ⟨[], Nat.zero_le 1, by rw [List.append_nil]⟩
  · exact ⟨[ss[i]], Nat.le_refl 1, Sequence.eraseIdx_perm inside⟩

/-- A subsequence loses at most one statement. -/
theorem Drops.order (h : Drops ss after) {earlier : List Statement} (sub : earlier.Sublist ss) :
    ∃ kept : List Statement,
      kept.Sublist earlier ∧ earlier.length ≤ kept.length + 1 ∧ kept.Sublist after := by
  obtain rfl | ⟨-, i, -, rfl⟩ := h
  · exact ⟨earlier, .refl earlier, Nat.le_succ _, sub⟩
  · exact Sequence.exists_sublist_eraseIdx sub i

theorem Retouches.length (h : Retouches ss after) : after.length = ss.length := by
  obtain rfl | ⟨i, j, t, rfl⟩ := h
  · rfl
  · exact List.length_set

theorem yields_insertSome (bound : Nat) (p : Program) :
    Yields listed (insertSome bound p) (p.Changed (Inserts bound)) := by
  refine (yields_below (by omega)).bind fun count _ => ?_
  refine (Program.yields_insertRandomStatements count p).mono fun q inserted => ?_
  obtain ⟨drawn, after, length, grows, rfl⟩ := inserted
  exact ⟨after, ⟨drawn, by omega, grows⟩, rfl⟩

theorem yields_orSame {edited : Draw (Except EditError Program)} {R : Program → Prop}
    (same : R p) (h : Yields listed edited fun result => ∀ q, result = .ok q → R q) :
    Yields listed (orSame p edited) R := by
  refine h.bind fun result hresult => ?_
  cases result with
  | ok q => exact yields_pure (hresult q rfl)
  | error e => exact yields_pure same

theorem yields_duplicate (p : Program) : Yields listed (duplicate p) (p.Changed Repeats) := by
  refine yields_orSame ⟨p.statements, repeats_refl _, rfl⟩ ?_
  refine (Sequence.yields_position? p.statements).bind fun i _ => ?_
  cases i with
  | none => exact yields_pure nofun
  | some i =>
    refine yields_pure fun q repeated => ?_
    cases repeated
    refine ⟨_, ⟨[p.statements.get i], ?_, Nat.le_refl 1, ?_⟩, rfl⟩
    · exact List.cons_subset.mpr ⟨List.get_mem p.statements i, List.nil_subset _⟩
    · exact Sequence.grows_insertAll p.statements (i + 1) _

theorem yields_removeOne (p : Program) : Yields listed (removeOne p) (p.Changed Drops) := by
  refine yields_ite (fun several => ?_) fun _ => yields_pure ⟨p.statements, .inl rfl, rfl⟩
  refine Yields.bind (P := fun taken => p.Changed Drops taken.2) ?_ fun _ taken => yields_pure taken
  refine (Sequence.yields_removeRandom p.statements).bind fun taken removed => yields_pure ?_
  obtain ⟨i, inside, rfl⟩ | ⟨none, -⟩ := removed
  · exact ⟨_, .inr ⟨several, i, inside, rfl⟩, rfl⟩
  · have size : p.size = 0 := List.length_eq_zero_iff.mpr none
    omega

theorem yields_swapTwo (p : Program) :
    Yields listed (swapTwo p) (p.Changed fun ss after => after.Perm ss) := by
  refine yields_orSame ⟨p.statements, .refl _, rfl⟩ ?_
  refine yields_ite (fun _ => yields_pure nofun) fun _ => ?_
  refine (Sequence.yields_swapRandom p.statements).bind fun after perm => yields_pure ?_
  intro q swapped
  cases swapped
  exact ⟨after, perm, rfl⟩

theorem yields_insertToken (p : Program) : Yields listed (insertToken p) (p.Changed Retouches) := by
  refine (Sequence.yields_position? p.statements).bind fun i _ => ?_
  cases i with
  | none => exact yields_pure ⟨p.statements, .inl rfl, rfl⟩
  | some i =>
    refine (Statement.yields_insertRandomToken _).bind fun s inserted => yields_pure ?_
    obtain ⟨j, t, rfl⟩ := inserted
    exact ⟨_, .inr ⟨i, j, t, rfl⟩, rfl⟩

/-! ### Behind a coin -/

/-- An edit behind a coin of probability `rate`, which leaves everything as it is where the coin
never falls on `true`. -/
structure Behind (rate : Float) (R : List Statement → List Statement → Prop)
    (ss after : List Statement) : Prop where
  change : R ss after
  never : (rate == 0.0) = true → after = ss

theorem yields_sometimes {rate : Float} (h : 0.0 ≤ rate ∧ rate ≤ 1.0)
    {edit : Program → Draw Program} {R : List Statement → List Statement → Prop}
    (same : R p.statements p.statements) (changed : Yields listed (edit p) (p.Changed R)) :
    Yields listed (sometimes rate edit p) (p.Changed (Behind rate R)) := by
  have kept : p.Changed (Behind rate R) p := ⟨p.statements, ⟨same, fun _ => rfl⟩, rfl⟩
  -- the edit is not reached where the coin never falls on `true`
  cases zero : rate == 0.0 with
  | true =>
    refine (yields_chance_zero zero).bind fun coin tails => ?_
    rw [tails]
    exact yields_pure kept
  | false =>
    refine (yields_chance h).bind fun _ _ => yields_ite (fun _ => ?_) fun _ => yields_pure kept
    refine changed.mono fun q hq => ?_
    obtain ⟨after, change, rfl⟩ := hq
    exact ⟨after, ⟨change, fun never => absurd (zero.symm.trans never) Bool.false_ne_true⟩, rfl⟩

/-- The statements before and after the five edits, with those between them. -/
inductive Course (config : MutationConfig) (ss after : List Statement) : Prop
  | mk {grown repeated reduced swapped : List Statement}
    (insert : Behind config.insertRate (Inserts config.maxInsertedStatements) ss grown)
    (duplicate : Behind config.duplicateRate Repeats grown repeated)
    (remove : Behind config.removeRate Drops repeated reduced)
    (swap : Behind config.swapRate (fun ss after => after.Perm ss) reduced swapped)
    (token : Behind config.tokenInsertRate Retouches swapped after)

variable {config : MutationConfig}

theorem Course.refl (config : MutationConfig) (ss : List Statement) : Course config ss ss :=
  .mk ⟨inserts_refl _ ss, fun _ => rfl⟩ ⟨repeats_refl ss, fun _ => rfl⟩ ⟨.inl rfl, fun _ => rfl⟩
    ⟨.refl ss, fun _ => rfl⟩ ⟨.inl rfl, fun _ => rfl⟩

theorem yields_edits (rates : ∀ rate ∈ config.rates, 0.0 ≤ rate.2 ∧ rate.2 ≤ 1.0) (p : Program) :
    Yields listed (edits config p) (p.Changed (Course config)) := by
  simp only [MutationConfig.rates, List.forall_mem_cons] at rates
  obtain ⟨insert, duplicate, remove, swap, token, -⟩ := rates
  refine (yields_sometimes insert (inserts_refl _ _) (yields_insertSome _ p)).bind fun _ hq => ?_
  obtain ⟨grown, inserted, rfl⟩ := hq
  refine (yields_sometimes duplicate (repeats_refl _) (yields_duplicate _)).bind fun _ hq => ?_
  obtain ⟨repeated, duplicated, rfl⟩ := hq
  refine (yields_sometimes remove (.inl rfl) (yields_removeOne _)).bind fun _ hq => ?_
  obtain ⟨reduced, removed, rfl⟩ := hq
  refine (yields_sometimes swap (.refl _) (yields_swapTwo _)).bind fun _ hq => ?_
  obtain ⟨swapped, exchanged, rfl⟩ := hq
  refine (yields_sometimes token (.inl rfl) (yields_insertToken _)).mono fun _ hq => ?_
  obtain ⟨after, retouched, rfl⟩ := hq
  exact ⟨after, ⟨inserted, duplicated, removed, exchanged, retouched⟩, rfl⟩

theorem safe_shouldMutate (p : Program) : Safe listed p.shouldMutate :=
  yields_unit.bind fun _ _ => safe_pure _

theorem yields_mutate (rates : ∀ rate ∈ config.rates, 0.0 ≤ rate.2 ∧ rate.2 ≤ 1.0) (p : Program) :
    Yields listed (mutate config p) (p.Changed (Course config)) := by
  refine (safe_shouldMutate p).bind fun allowed => yields_ite (fun _ => yields_edits rates p) ?_
  intro _
  exact yields_pure ⟨p.statements, .refl config _, rfl⟩

/-! ### What a course amounts to -/

/-- The statements after a course, but for the token that one of them got, and the one that was taken
out, are together those before it, the sentences that were drawn and the one that was copied. -/
theorem Course.balance (h : Course config ss after) :
    ∃ (drawn : List Grammar.Sentence) (copied removed middle : List Statement),
      drawn.length < max config.maxInsertedStatements 1 ∧ copied.length ≤ 1 ∧
      copied ⊆ ss ++ sentences drawn ∧ removed.length ≤ 1 ∧
      (middle ++ removed).Perm (ss ++ sentences drawn ++ copied) ∧ Retouches middle after := by
  obtain ⟨insert, duplicate, remove, swap, token⟩ := h
  obtain ⟨drawn, few, grows⟩ := insert.change
  obtain ⟨copied, inside, one, repeats⟩ := duplicate.change
  obtain ⟨removed, atMost, drops⟩ := remove.change.balance
  refine ⟨drawn, copied, removed, _, few, one, ?_, atMost, ?_, token.change⟩
  · exact List.Subset.trans inside grows.perm.subset
  · have whole := repeats.perm.trans (grows.perm.append_right copied)
    exact (swap.change.append_right removed).trans (drops.trans whole)

theorem Course.length_le (h : Course config ss after) :
    after.length ≤ ss.length + max config.maxInsertedStatements 1 := by
  obtain ⟨drawn, copied, removed, middle, few, one, -, -, balance, retouched⟩ := h.balance
  have length := balance.length_eq
  simp only [List.length_append, sentences, List.length_map] at length
  rw [retouched.length]
  omega

theorem Course.le_length (h : Course config ss after) :
    min ss.length (max (ss.length - 1) 1) ≤ after.length := by
  obtain ⟨insert, duplicate, remove, swap, token⟩ := h
  obtain ⟨drawn, -, grows⟩ := insert.change
  have grown := grows.order.length_le
  have repeated := duplicate.change.le_length
  have reduced := remove.change.le_length
  rw [token.change.length, swap.change.length_eq]
  omega

theorem Course.some (h : Course config ss after) (some : ss ≠ []) : after ≠ [] := by
  have least := h.le_length
  rw [← List.length_pos_iff] at some ⊢
  omega

/-- Without exchanges and new tokens all statements but one keep their order. -/
theorem Course.order (h : Course config ss after) (noSwaps : (config.swapRate == 0.0) = true)
    (noTokens : (config.tokenInsertRate == 0.0) = true) :
    ∃ kept : List Statement,
      kept.Sublist ss ∧ ss.length ≤ kept.length + 1 ∧ kept.Sublist after := by
  obtain ⟨insert, duplicate, remove, swap, token⟩ := h
  rw [token.never noTokens, swap.never noSwaps]
  obtain ⟨drawn, -, grows⟩ := insert.change
  obtain ⟨copied, -, -, repeats⟩ := duplicate.change
  -- what is removed is one of the sentences, the copy, or the one statement that may be lost
  exact remove.change.order (grows.order.trans repeats.order)

/-- Without sentences and new tokens there are no statements but those that were there. -/
theorem Course.subset (h : Course config ss after)
    (noStatements : (config.insertRate == 0.0) = true)
    (noTokens : (config.tokenInsertRate == 0.0) = true) : after ⊆ ss := by
  obtain ⟨insert, duplicate, remove, swap, token⟩ := h
  obtain rfl := insert.never noStatements
  obtain ⟨copied, inside, -, repeats⟩ := duplicate.change
  obtain ⟨removed, -, drops⟩ := remove.change.balance
  rw [token.never noTokens]
  intro s mem
  have left := List.mem_append_left removed (swap.change.subset mem)
  obtain old | copy := List.mem_append.mp (repeats.perm.subset (drops.subset left))
  · exact old
  · exact inside copy

/-! ### Mutants -/

/-- What a mutation may do to a program. -/
structure Mutant (config : MutationConfig) (p q : Program) : Prop where
  score : q.score = p.score
  diagnostic : q.diagnostic = p.diagnostic
  mutationProbability : q.mutationProbability = p.mutationProbability
  crossoverProbability : q.crossoverProbability = p.crossoverProbability
  size_le : q.size ≤ p.size + max config.maxInsertedStatements 1
  le_size : min p.size (max (p.size - 1) 1) ≤ q.size
  some : p.statements ≠ [] → q.statements ≠ []
  balance : ∃ (drawn : List Grammar.Sentence) (copied removed middle : List Statement),
    drawn.length < max config.maxInsertedStatements 1 ∧ copied.length ≤ 1 ∧
    copied ⊆ p.statements ++ sentences drawn ∧ removed.length ≤ 1 ∧
    (middle ++ removed).Perm (p.statements ++ sentences drawn ++ copied) ∧
    Retouches middle q.statements
  order : (config.swapRate == 0.0) = true → (config.tokenInsertRate == 0.0) = true →
    ∃ kept : List Statement,
      kept.Sublist p.statements ∧ p.size ≤ kept.length + 1 ∧ kept.Sublist q.statements

theorem mutant_of_changed {q : Program} (h : p.Changed (Course config) q) : Mutant config p q := by
  obtain ⟨after, course, rfl⟩ := h
  exact {
    score := rfl
    diagnostic := rfl
    mutationProbability := rfl
    crossoverProbability := rfl
    size_le := course.length_le
    le_size := course.le_length
    some := course.some
    balance := course.balance
    order := course.order }

/-- A program whose own coin does not allow it is not mutated, and no further word is read. -/
theorem mutate_of_refused (config : MutationConfig) (p : Program) {source rest : Words} {w : UInt64}
    (drawn : word source = .ok (w, rest)) (refused : ¬ofWord w ≤ p.mutationProbability) :
    mutate config p source = .ok (p, rest) := by
  have tails : p.shouldMutate source = .ok (false, rest) := by
    have coin : unit source = .ok (ofWord w, rest) := bind_eq_ok.mpr ⟨w, rest, drawn, rfl⟩
    refine bind_eq_ok.mpr ⟨ofWord w, rest, coin, ?_⟩
    rw [decide_eq_false refused]
    rfl
  exact bind_eq_ok.mpr ⟨false, rest, tails, rfl⟩

/-- A mutation changes nothing but statements, and of these only a few; a program whose own coin
refuses stays as it is, for one word. -/
theorem mutations_are_small (config : MutationConfig)
    (rates : ∀ rate ∈ config.rates, 0.0 ≤ rate.2 ∧ rate.2 ≤ 1.0) (p : Program) :
    (∀ source w rest, word source = .ok (w, rest) → ¬ofWord w ≤ p.mutationProbability →
      mutate config p source = .ok (p, rest)) ∧
    ∀ listed, Yields listed (mutate config p) (Mutant config p) := by
  refine ⟨fun source w rest drawn refused => mutate_of_refused config p drawn refused, ?_⟩
  intro listed
  exact (yields_mutate rates p).mono fun q changed => mutant_of_changed changed

/-- The settings of mutations that insert at most one statement, repeat one and remove one. -/
def renewing : MutationConfig where
  insertRate := 1.0
  maxInsertedStatements := 2
  duplicateRate := 1.0
  removeRate := 1.0

/-- One sentence more, and the first of two statements copied and taken out again. -/
theorem mutations_are_small_renewing :
    let p := Program.ofStatements [⟨[⟨"a"⟩]⟩, ⟨[⟨"b"⟩]⟩]
    let source := Words.thenZeros [0, 9223372036854775808, 9223372036854775808] 40
    ∃ q rest, mutate renewing p source = .ok (q, rest) ∧ q.size = 3 ∧ Mutant renewing p q := by
  intro p source
  have grown : (mutate renewing p source).toOption.map (·.1.size) = some 3 := by decide +kernel
  obtain ⟨⟨q, rest⟩, found, size⟩ := Option.map_eq_some_iff.mp grown
  have drawn := eq_ok_of_toOption found
  have small := (mutations_are_small renewing (by decide +kernel) p).2 0
  exact ⟨q, rest, drawn, size, small.result drawn⟩

end Mutation

end Progeny

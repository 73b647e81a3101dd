import Progeny.Proofs.Sequence.Access
import Progeny.Proofs.Sequence.Window
import Progeny.Proofs.Statement.Balance

/-!
# Batches of edits

Putting several elements in at once is putting them in one by one, each right after the one before
it, and taking out a range is taking out the element at its beginning as often as the range is long,
also where the range reaches past the end.  Taking out what was put in gives it back and leaves the
sequence as it was.  Statements and programs do all this as sequences do.
-/

namespace Progeny

variable {σ α : Type}

/-! ### One by one -/

/-- Inserts elements one by one, the first of them at position `i` and each other one right after
the one before it. -/
def insertEach (insert : σ → Nat → α → σ) : σ → Nat → List α → σ
  | s, _, [] => s
  | s, i, a :: as => insertEach insert (insert s i a) (i + 1) as

/-- Takes out what stands at position `i`, `n` times, and collects it. -/
def removeEach (remove : σ → Nat → Option α × σ) (i : Nat) : Nat → σ → List α × σ
  | 0, s => ([], s)
  | n + 1, s =>
    let (taken, rest) := remove s i
    let (others, left) := removeEach remove i n rest
    (taken.toList ++ others, left)

namespace Sequence

variable {xs before after : List α} {i : Nat}

theorem exists_before (inside : i ≤ xs.length) :
    ∃ before after, xs = before ++ after ∧ before.length = i :=
  ⟨xs.take i, xs.drop i, (List.take_append_drop i xs).symm, List.length_take_of_le inside⟩

theorem insertAll_before (before as after : List α) :
    insertAll (before ++ after) before.length as = before ++ as ++ after := by
  rw [insertAll, List.take_left, List.drop_left]

theorem insertAll_cons (inside : i ≤ xs.length) (a : α) (as : List α) :
    insertAll xs i (a :: as) = insertAll (insert xs i a) (i + 1) as := by
  obtain ⟨before, after, rfl, rfl⟩ := exists_before inside
  have later : before.length + 1 = (before ++ [a]).length := by
    rw [List.length_append, List.length_singleton]
  rw [insert, insertAll_before, insertAll_before, later, insertAll_before]
  simp only [List.append_assoc, List.cons_append, List.nil_append]

theorem insertAll_eq_insertEach (inside : i ≤ xs.length) (as : List α) :
    insertAll xs i as = insertEach insert xs i as := by
  induction as generalizing xs i with
  | nil => rw [insertAll, List.append_nil, List.take_append_drop, insertEach]
  | cons a as ih =>
    have longer : i + 1 ≤ (insert xs i a).length := by
      rw [insert, length_insertAll, List.length_singleton]
      omega
    rw [insertAll_cons inside, ih longer, insertEach]

/-! ### Taking out -/

theorem removeSpan_before (before after : List α) (high : Nat) :
    removeSpan (before ++ after) before.length high =
      (after.take (high - before.length), before ++ after.drop (high - before.length)) := by
  have bound : max before.length high = before.length + (high - before.length) := by omega
  refine Prod.ext ?_ ?_
  · rw [removeSpan_taken, List.drop_left]
  · rw [removeSpan_left, bound, List.take_left, List.drop_length_add_append]

theorem removeAt_before (before after : List α) (a : α) :
    removeAt (before ++ a :: after) before.length = (some a, before ++ after) := by
  rw [removeAt, List.getElem?_append_right (Nat.le_refl _), Nat.sub_self, List.getElem?_cons_zero,
    List.eraseIdx_append_of_length_le (Nat.le_refl _), Nat.sub_self, List.eraseIdx_cons_zero]

theorem removeAt_past (past : xs.length ≤ i) : removeAt xs i = (none, xs) := by
  rw [removeAt, List.getElem?_eq_none past, List.eraseIdx_of_length_le past]

theorem removeEach_past (past : xs.length ≤ i) (n : Nat) : removeEach removeAt i n xs = ([], xs) := by
  induction n with
  | zero => rfl
  | succ n ih =>
    simp only [removeEach, removeAt_past past, ih]
    rfl

theorem removeEach_before (before after : List α) (n : Nat) :
    removeEach removeAt before.length n (before ++ after) =
      (after.take n, before ++ after.drop n) := by
  induction n generalizing after with
  | zero => rfl
  | succ n ih =>
    cases after with
    | nil =>
      rw [List.append_nil, removeEach_past (Nat.le_refl _), List.take_nil, List.drop_nil,
        List.append_nil]
    | cons a after =>
      simp only [removeEach, removeAt_before, ih]
      rfl

theorem removeSpan_eq_removeEach (xs : List α) (low high : Nat) :
    removeSpan xs low high = removeEach removeAt low (high - low) xs := by
  rcases Nat.le_total low xs.length with inside | past
  · obtain ⟨before, after, rfl, rfl⟩ := exists_before inside
    rw [removeSpan_before, removeEach_before]
  · have nothing : ¬ min low xs.length < min high xs.length := by omega
    rw [removeEach_past past]
    exact if_neg nothing

theorem removeSpan_insertAll (inside : i ≤ xs.length) (as : List α) :
    removeSpan (insertAll xs i as) i (i + as.length) = (as, xs) := by
  obtain ⟨before, after, rfl, rfl⟩ := exists_before inside
  rw [insertAll_before, List.append_assoc, removeSpan_before, Nat.add_sub_cancel_left,
    List.take_left, List.drop_left]

end Sequence

/-! ### What wraps a sequence -/

/-- The edits that put in and take out several elements agree with those for one element, and the
one undoes the other. -/
structure Batches (size : σ → Nat) (insert : σ → Nat → α → σ) (insertAll : σ → Nat → List α → σ)
    (remove : σ → Nat → Option α × σ) (removeRange : σ → Nat → Nat → List α × σ) (s : σ) :
    Prop where
  inserted : ∀ i as, insertAll s i as = insertEach insert s (min i (size s)) as
  undone : ∀ i as,
    removeRange (insertAll s i as) (min i (size s)) (min i (size s) + as.length) = (as, s)
  removed : ∀ low high, removeRange s low high = removeEach remove low (high - low) s

section Wrapped

variable {wrap : List α → σ} {size : σ → Nat} {insert : σ → Nat → α → σ}
  {insertAll : σ → Nat → List α → σ} {remove : σ → Nat → Option α × σ}
  {removeRange : σ → Nat → Nat → List α × σ}

theorem insertEach_wrapped
    (inserts : ∀ xs i a, insert (wrap xs) i a = wrap (Sequence.insert xs i a)) (xs : List α)
    (i : Nat) (as : List α) :
    insertEach insert (wrap xs) i as = wrap (insertEach Sequence.insert xs i as) := by
  induction as generalizing xs i with
  | nil => rfl
  | cons a as ih =>
    rw [insertEach, inserts, ih]
    rfl

theorem removeEach_wrapped
    (removes : ∀ xs i, remove (wrap xs) i = (Sequence.removeAt xs i).map id wrap) (xs : List α)
    (i n : Nat) :
    removeEach remove i n (wrap xs) = (removeEach Sequence.removeAt i n xs).map id wrap := by
  induction n generalizing xs with
  | zero => rfl
  | succ n ih =>
    simp only [removeEach, removes, Prod.map_fst, Prod.map_snd, ih]
    rfl

/-- What is edited as a sequence is edited in batches as well as one by one. -/
theorem batches_wrapped (wrap : List α → σ) (sizes : ∀ xs, size (wrap xs) = xs.length)
    (inserts : ∀ xs i a, insert (wrap xs) i a = wrap (Sequence.insert xs i a))
    (insertsAll : ∀ xs i as, insertAll (wrap xs) i as = wrap (Sequence.insertAll xs i as))
    (removes : ∀ xs i, remove (wrap xs) i = (Sequence.removeAt xs i).map id wrap)
    (removesRange : ∀ xs low high,
      removeRange (wrap xs) low high = (Sequence.removeSpan xs low high).map id wrap)
    (xs : List α) : Batches size insert insertAll remove removeRange (wrap xs) where
  inserted i as := by
    have inside := Nat.min_le_right i xs.length
    rw [sizes, insertsAll, insertEach_wrapped inserts,
      ← Sequence.insertAll_eq_insertEach inside, Sequence.insertAll_min]
  undone i as := by
    have inside := Nat.min_le_right i xs.length
    rw [sizes, insertsAll, removesRange, ← Sequence.insertAll_min,
      Sequence.removeSpan_insertAll inside]
    rfl
  removed low high := by
    rw [removesRange, removeEach_wrapped removes, Sequence.removeSpan_eq_removeEach]

end Wrapped

/-! ### Statements and programs -/

theorem Statement.batches (s : Statement) :
    Batches size insert insertAll remove removeRange s :=
  batches_wrapped mk (fun _ => rfl) (fun _ _ _ => rfl) (fun _ _ _ => rfl) (fun _ _ => rfl)
    (fun _ _ _ => rfl) s.tokens

theorem Program.batches (p : Program) :
    Batches size insert insertAll remove removeRange p :=
  batches_wrapped (fun ss => { p with statements := ss }) (fun _ => rfl) (fun _ _ _ => rfl)
    (fun _ _ _ => rfl) (fun _ _ => rfl) (fun _ _ _ => rfl) p.statements

theorem Statement.append_eq_splice_of_le {s : Statement} {j : Nat} (past : s.size ≤ j)
    (other : Statement) : s.append other = s.splice j other := by
  have bound : min j s.tokens.length = s.size := Nat.min_eq_right past
  rw [append_eq_splice, splice, splice, insertAll, insertAll, ← Sequence.insertAll_min _ j, bound]

/-- Statements and programs are edited in batches as they are one by one, at any position and
for any bounds.  To append a statement is to splice it in at the end or anywhere after it, and to
prepend it is to splice it in at the beginning; what was spliced in can be taken out again as it
was. -/
theorem batches_agree :
    (∀ s : Statement, Batches Statement.size Statement.insert Statement.insertAll
      Statement.remove Statement.removeRange s) ∧
    (∀ p : Program, Batches Program.size Program.insert Program.insertAll
      Program.remove Program.removeRange p) ∧
    ∀ s other : Statement,
      (∀ j ≥ s.size, s.append other = s.splice j other) ∧
      s.prepend other = s.splice 0 other ∧
      ∀ j, (s.splice j other).removeRange (min j s.size) (min j s.size + other.size) =
        (other.tokens, s) :=
  ⟨Statement.batches, Program.batches, fun s other =>
    ⟨fun _ past => s.append_eq_splice_of_le past other, s.prepend_eq_splice other,
      fun j => s.batches.undone j other.tokens⟩⟩

/-- Positions and bounds past the end. -/
theorem batches_agree_past_end :
    let s : Statement := ⟨["a", "b"]⟩
    s.size ≤ 9 ∧ s.append ⟨["c"]⟩ = s.splice 9 ⟨["c"]⟩ ∧
      s.splice 9 ⟨["c"]⟩ = ⟨["a", "b", "c"]⟩ ∧
      s.removeRange 1 9 = removeEach Statement.remove 1 8 s ∧ s.removeRange 1 9 = ([⟨"b"⟩], ⟨["a"]⟩) := by
  intro s
  obtain ⟨statements, -, spliced⟩ := batches_agree
  have past : s.size ≤ 9 := by decide
  exact ⟨past, (spliced s ⟨["c"]⟩).1 9 past, rfl, (statements s).removed 1 9, rfl⟩

end Progeny

import Progeny.Proofs.Grammar.Nesting

/-!
# Balanced brackets

The brackets of a text nest when they are a Dyck word: the empty word, or a pair of brackets of one
kind around a word, followed by a word.  A statement is scanned with the brackets that are still open
on a stack.  What is left to be read then closes them: it is a word and the partner of the bracket
on top, and so on down the stack, and a last word.  This invariant is kept by every character of the
scan, so that the statements that are balanced are those whose brackets are a Dyck word.  Such words
leave the stack as they find it, and so a balanced statement can be put anywhere into another one.
-/

namespace Progeny.Statement

/-! ### Dyck words -/

/-- An opening bracket and the one that closes it. -/
inductive Pair : Char → Char → Prop
  | round : Pair '(' ')'
  | curly : Pair '\x7b' '\x7d'
  | square : Pair '[' ']'

/-- The words of brackets that nest. -/
inductive Dyck : List Char → Prop
  | empty : Dyck []
  | pair {o c : Char} {inner rest : List Char} :
      Pair o c → Dyck inner → Dyck rest → Dyck (o :: inner ++ c :: rest)

/-- Whether a character is a round, curly or square bracket. -/
def isBracket (c : Char) : Bool := ['(', ')', '\x7b', '\x7d', '[', ']'].contains c

/-- The texts of all tokens, with nothing between them. -/
def joined (s : Statement) : String := String.join (s.tokens.map (·.text))

/-- The brackets of a statement, in order. -/
def brackets (s : Statement) : List Char := s.joined.toList.filter isBracket

theorem Pair.around {o c : Char} (h : Pair o c) :
    isOpener o = true ∧ isOpener c = false ∧ openerOf? c = some o := by
  cases h <;> decide

theorem pair_of_openerOf? {o c : Char} (h : openerOf? c = some o) : Pair o c := by
  unfold openerOf? at h
  split at h
  · rename_i round
    cases h
    exact round ▸ .round
  · split at h
    · rename_i curly
      cases h
      exact curly ▸ .curly
    · split at h
      · rename_i square
        cases h
        exact square ▸ .square
      · cases h

theorem isBracket_eq (c : Char) : isBracket c = (isOpener c || (openerOf? c).isSome) := by
  have closes : (openerOf? c).isSome = (c == ')' || c == '\x7d' || c == ']') := by
    unfold openerOf?
    grind
  rw [closes]
  simp only [isBracket, isOpener, List.contains_cons, List.contains_nil]
  grind

theorem Dyck.append {word word' : List Char} (h : Dyck word) (h' : Dyck word') :
    Dyck (word ++ word') := by
  induction h with
  | empty => exact h'
  | pair partners inner _ _ ih => simpa using Dyck.pair partners inner ih

/-- A Dyck word leaves the brackets that are open as they are. -/
theorem Dyck.neutral {word : List Char} (h : Dyck word) : Neutral word := by
  induction h with
  | empty => exact neutral_nil
  | @pair o c inner rest partners _ _ inside behind =>
    obtain ⟨opens, notOpener, closes⟩ := partners.around
    have both := (inside.around opens notOpener closes).append behind
    simpa using both

/-! ### The scan -/

/-- What closes the open brackets, the innermost of which comes first: before the partner of each
stands a word, and a last word stands at the end. -/
inductive Closes : List Char → List Char → Prop
  | last {word : List Char} : Dyck word → Closes [] word
  | next {o c : Char} {opened word later : List Char} :
      Pair o c → Dyck word → Closes opened later → Closes (o :: opened) (word ++ c :: later)

theorem Closes.after {opened word later : List Char} (h : Closes opened later) (first : Dyck word) :
    Closes opened (word ++ later) := by
  cases h with
  | last second => exact .last (first.append second)
  | next partners second later =>
    rw [← List.append_assoc]
    exact .next partners (first.append second) later

/-- A bracket that was opened and everything up to its partner are a word. -/
theorem Closes.opening {o : Char} {opened later : List Char} (h : Closes (o :: opened) later) :
    Closes opened (o :: later) := by
  cases h with
  | @next _ c _ inner rest partners inside behind =>
    have word : Dyck (o :: inner ++ [c]) := .pair partners inside .empty
    have closed := behind.after word
    rw [List.append_assoc, List.singleton_append] at closed
    exact closed

theorem closes_of_bracketsClose {opened cs : List Char} (h : bracketsClose opened cs = true) :
    Closes opened (cs.filter isBracket) := by
  -- for all brackets that may be open, since each character can open or close one
  induction cs generalizing opened with
  | nil =>
    obtain rfl := List.isEmpty_iff.mp h
    exact .last .empty
  | cons c rest ih =>
    rw [bracketsClose] at h
    split at h
    · rename_i opens
      rw [List.filter_cons_of_pos (by rw [isBracket_eq, opens, Bool.true_or])]
      exact (ih h).opening
    · rename_i notOpener
      split at h
      · rename_i notCloser
        rw [List.filter_cons_of_neg (by simp [isBracket_eq, notOpener, notCloser])]
        exact ih h
      · rename_i o closes
        rw [List.filter_cons_of_pos (by simp [isBracket_eq, closes])]
        cases opened with
        | nil => cases h
        | cons top opened =>
          dsimp only at h
          split at h
          · rename_i same
            subst same
            exact .next (pair_of_openerOf? closes) .empty (ih h)
          · cases h

/-- Characters that are no brackets do not matter. -/
theorem bracketsClose_filter (opened cs : List Char) :
    bracketsClose opened (cs.filter isBracket) = bracketsClose opened cs := by
  induction cs generalizing opened with
  | nil => rfl
  | cons c rest ih =>
    by_cases bracket : isBracket c = true
    · rw [List.filter_cons_of_pos bracket, bracketsClose, bracketsClose]
      simp only [ih]
    · rw [List.filter_cons_of_neg bracket, ih]
      rw [isBracket_eq, Bool.or_eq_true, not_or] at bracket
      obtain ⟨notOpener, notCloser⟩ := bracket
      rw [Option.not_isSome_iff_eq_none] at notCloser
      rw [bracketsClose, if_neg notOpener, notCloser]

/-! ### Statements -/

theorem toList_joined (s : Statement) : s.joined.toList = s.characters := by
  rw [joined, String.toList_join, List.flatMap_map]
  rfl

theorem isBalanced_iff (s : Statement) : s.isBalanced = true ↔ Dyck s.brackets := by
  unfold brackets
  rw [toList_joined]
  constructor
  · intro balanced
    cases closes_of_bracketsClose balanced with
    | last word => exact word
  · intro word
    have closed := word.neutral [] []
    rw [List.append_nil, bracketsClose_filter] at closed
    exact closed

theorem neutral_of_isBalanced {s : Statement} (h : s.isBalanced = true) : Neutral s.characters := by
  have word := s.isBalanced_iff.mp h
  unfold brackets at word
  rw [toList_joined] at word
  intro opened later
  rw [← bracketsClose_filter, List.filter_append, word.neutral, bracketsClose_filter]

theorem append_eq_splice (s t : Statement) : s.append t = s.splice s.size t := by
  simp [append, extend, splice, insertAll, Sequence.insertAll, size]

theorem prepend_eq_splice (s t : Statement) : s.prepend t = s.splice 0 t := by
  simp [prepend, splice, insertAll, Sequence.insertAll]

/-- The balanced statements are those whose brackets are a Dyck word, so that only the joined text of
the tokens matters.  A balanced statement that is put in somewhere, also at the beginning or at the
end, changes nothing about the balance of the others. -/
theorem balanced_iff_dyck (s t : Statement) :
    (s.isBalanced = true ↔ Dyck s.brackets) ∧
    (s.joined = t.joined → s.isBalanced = t.isBalanced) ∧
    (t.isBalanced = true →
      (s.append t).isBalanced = s.isBalanced ∧ (s.prepend t).isBalanced = s.isBalanced ∧
        ∀ i, (s.splice i t).isBalanced = s.isBalanced) := by
  refine ⟨s.isBalanced_iff, fun sameText => ?_, fun balanced => ?_⟩
  · rw [Bool.eq_iff_iff, isBalanced_iff, isBalanced_iff, brackets, brackets, sameText]
  · have neutral := neutral_of_isBalanced balanced
    rw [append_eq_splice, prepend_eq_splice]
    exact ⟨s.isBalanced_splice _ neutral, s.isBalanced_splice _ neutral,
      fun i => s.isBalanced_splice i neutral⟩

/-- Brackets may be closed by other tokens than those that open them; what is put between is closed
before.  The second statement has its brackets in the wrong order. -/
theorem balanced_iff_dyck_torn :
    Dyck (brackets ⟨["f([", "0](", "x))"]⟩) ∧ ¬Dyck (brackets ⟨["f([", "0)", "]"]⟩) ∧
      isBalanced (splice ⟨["f([", "0](", "x))"]⟩ 1 ⟨["\x7b", ")\x7d("]⟩) = false ∧
      isBalanced (splice ⟨["f([", "0](", "x))"]⟩ 1 ⟨["\x7b(", ")\x7d"]⟩) = true := by
  obtain ⟨first, -, -⟩ := balanced_iff_dyck ⟨["f([", "0](", "x))"]⟩ ⟨["\x7b(", ")\x7d"]⟩
  obtain ⟨second, -, -⟩ := balanced_iff_dyck ⟨["f([", "0)", "]"]⟩ ⟨[]⟩
  obtain ⟨-, -, spliced⟩ := balanced_iff_dyck ⟨["f([", "0](", "x))"]⟩ ⟨["\x7b(", ")\x7d"]⟩
  refine ⟨first.mp (by decide), fun word => absurd (second.mpr word) (by decide), by decide, ?_⟩
  rw [(spliced (by decide)).2.2 1]
  decide

end Progeny.Statement

import Progeny.Text.Blank

/-!
# Texts in rows

The pieces between cuts are those of `List.splitOnP`.  A text that is written in rows, each with a
character that cuts at its end, has the pieces of its rows, and what follows the last row stays
apart from it.  So rows can be read back, and the words of a text are those of its rows if blanks
end them.
-/

namespace Progeny.Text

variable {α : Type} {cut : Char → Bool} {c : Char}

theorem pieces_eq_splitOnP (cut : Char → Bool) (cs : List Char) :
    pieces cut cs = cs.splitOnP cut := by
  induction cs with
  | nil => rw [List.splitOnP_nil, pieces, List.foldr_nil]
  | cons c cs ih =>
    obtain ⟨piece, rest, found⟩ := List.exists_cons_of_ne_nil (List.splitOnP_ne_nil cut cs)
    unfold pieces at ih ⊢
    rw [List.foldr_cons, ih, List.splitOnP_cons_eq_if_modifyHead, found]
    rfl

theorem pieces_append (cuts : cut c = true) (before after : List Char) :
    pieces cut (before ++ c :: after) = pieces cut before ++ pieces cut after := by
  simp only [pieces_eq_splitOnP]
  exact List.splitOnP_append_cons before after cuts

theorem pieces_whole {cs : List Char} (whole : ∀ d ∈ cs, cut d = false) : pieces cut cs = [cs] := by
  rw [pieces_eq_splitOnP]
  exact List.splitOnP_eq_singleton whole

/-- A text is not cut at a character that it does not contain. -/
theorem uncut_of_not_mem {cs : List Char} (absent : c ∉ cs) : ∀ d ∈ cs, (d == c) = false := by
  intro d mem
  refine beq_eq_false_iff_ne.mpr fun same => ?_
  subst same
  exact absent mem

theorem pieces_rows (cuts : cut c = true) (row : α → List Char) (as : List α) (after : List Char) :
    pieces cut (as.flatMap (fun a => row a ++ [c]) ++ after) =
      as.flatMap (fun a => pieces cut (row a)) ++ pieces cut after := by
  induction as with
  | nil => rfl
  | cons a as ih =>
    simp only [List.flatMap_cons, List.append_assoc, List.cons_append, List.nil_append]
    rw [pieces_append cuts, ih]

/-- Rows that are not cut themselves are read back. -/
theorem pieces_whole_rows (cuts : cut c = true) {row : α → List Char} {as : List α}
    (whole : ∀ a ∈ as, ∀ d ∈ row a, cut d = false) (after : List Char) :
    pieces cut (as.flatMap (fun a => row a ++ [c]) ++ after) = as.map row ++ pieces cut after := by
  have each : as.map (fun a => pieces cut (row a)) = as.map fun a => [row a] :=
    List.map_congr_left fun a mem => pieces_whole (whole a mem)
  rw [pieces_rows cuts, List.flatMap_def, each, ← List.flatMap_def, ← List.map_eq_flatMap]

/-! ### Words -/

theorem wordsOf_rows (blank : isBlank c = true) (row : α → List Char) (as : List α)
    (after : List Char) :
    wordsOf (as.flatMap (fun a => row a ++ [c]) ++ after) =
      as.flatMap (fun a => wordsOf (row a)) ++ wordsOf after := by
  unfold wordsOf
  rw [pieces_rows blank, List.filter_append, List.filter_flatMap]

theorem wordsOf_append (blank : isBlank c = true) (before after : List Char) :
    wordsOf (before ++ c :: after) = wordsOf before ++ wordsOf after := by
  unfold wordsOf
  rw [pieces_append blank, List.filter_append]

/-- A text without blanks is a word, unless it is empty. -/
theorem wordsOf_whole {cs : List Char} (some : cs ≠ []) (whole : ∀ d ∈ cs, isBlank d = false) :
    wordsOf cs = [cs] := by
  unfold wordsOf
  rw [pieces_whole whole]
  simp [some]

/-! ### Texts that are written piece by piece -/

/-- What a loop that only adds to a text has written. -/
theorem toList_foldl {write : String → α → String} {added : α → List Char}
    (adds : ∀ text a, (write text a).toList = text.toList ++ added a) (as : List α) (text : String) :
    (as.foldl write text).toList = text.toList ++ as.flatMap added := by
  induction as generalizing text with
  | nil => simp
  | cons a as ih => rw [List.foldl_cons, ih, adds, List.flatMap_cons, List.append_assoc]

end Progeny.Text

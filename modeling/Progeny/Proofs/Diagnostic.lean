import Progeny.Evaluation
import Progeny.Proofs.Text.Trim

/-!
# The normal form of a diagnostic

Three ways to cut a text meet here: into lines, by taking the blanks off the ends, and into words.
A line feed is a blank, and so is the carriage return that a line may end with, so cutting into lines
and trimming keeps the words apart as they were.  The rows of a normal form can be read back, so the
normal form of a normal form is the same text, and two texts have one normal form just if they have
the same rows.
-/

namespace Progeny

namespace Text

variable {cs : List Char}

/-! ### Rows -/

/-- What stands between line feeds, less the blanks at its ends, where something is left. -/
def rowsOf (cs : List Char) : List (List Char) :=
  ((pieces (· == '\n') cs).map trimOf).filter (! ·.isEmpty)

/-- Something that stands on one line, without blanks at its ends. -/
structure Row (cs : List Char) : Prop where
  some : cs ≠ []
  oneLine : '\n' ∉ cs
  tight : Tight cs

theorem uncut_of_mem_pieces {cut : Char → Bool} {piece : List Char}
    (mem : piece ∈ pieces cut cs) : ∀ c ∈ piece, cut c = false := by
  rw [pieces_eq_splitOnP] at mem
  induction cs generalizing piece with
  | nil =>
    obtain rfl := List.mem_singleton.mp mem
    exact List.forall_mem_nil _
  | cons c cs ih =>
    rw [List.splitOnP_cons_eq_if_modifyHead] at mem
    obtain ⟨first, rest, found⟩ := List.exists_cons_of_ne_nil (List.splitOnP_ne_nil cut cs)
    rw [found] at mem ih
    split at mem
    · rcases List.mem_cons.mp mem with rfl | later
      · exact List.forall_mem_nil _
      · exact ih later
    · rename_i uncut
      rcases List.mem_cons.mp mem with rfl | later
      · exact List.forall_mem_cons.mpr ⟨Bool.eq_false_iff.mpr uncut, ih List.mem_cons_self⟩
      · exact ih (List.mem_cons_of_mem _ later)

theorem mem_of_mem_trimOf {c : Char} (mem : c ∈ trimOf cs) : c ∈ cs := by
  obtain ⟨before, after, -, -, whole⟩ := exists_around cs
  rw [whole]
  exact List.mem_append_right _ (List.mem_append_left _ mem)

theorem row_of_mem {row : List Char} (mem : row ∈ rowsOf cs) : Row row := by
  obtain ⟨trimmed, kept⟩ := List.mem_filter.mp mem
  obtain ⟨piece, inside, rfl⟩ := List.mem_map.mp trimmed
  refine ⟨by simpa using kept, fun feed => ?_, tight_trimOf piece⟩
  exact absurd (uncut_of_mem_pieces inside '\n' (mem_of_mem_trimOf feed)) (by decide)

/-- Rows with line feeds between them are read back. -/
theorem rowsOf_intercalate {rows : List (List Char)} (h : ∀ row ∈ rows, Row row) :
    rowsOf (['\n'].intercalate rows) = rows := by
  by_cases none : rows = []
  · subst none
    rfl
  · have read : pieces (· == '\n') (['\n'].intercalate rows) = rows := by
      rw [pieces_eq_splitOnP, ← List.splitOn_eq_splitOnP]
      exact List.splitOn_intercalate '\n' (fun row mem => (h row mem).oneLine) none
    have trimmed : rows.map trimOf = rows :=
      (List.map_congr_left fun row mem => trimOf_eq_self_iff.mpr (h row mem).tight).trans
        (List.map_id rows)
    unfold rowsOf
    rw [read, trimmed]
    exact List.filter_eq_self.mpr fun row mem => by simpa using (h row mem).some

/-- It does not matter that a line may also end with a carriage return, and that what follows the
last line feed is not always a line. -/
theorem rowsOf_eq_linesOf (cs : List Char) :
    rowsOf cs = ((linesOf cs).map trimOf).filter (! ·.isEmpty) := by
  obtain ⟨found, last, split⟩ : ∃ found last, pieces (· == '\n') cs = found ++ [last] := by
    rw [pieces_eq_splitOnP]
    exact ⟨_, _, (List.dropLast_append_getLast (List.splitOnP_ne_nil _ cs)).symm⟩
  have returns : (trimOf ∘ withoutReturn) = trimOf := funext trimOf_withoutReturn
  dsimp only [rowsOf, linesOf]
  rw [split, List.dropLast_concat, List.getLast?_concat, Option.getD_some, List.map_append,
    List.map_append, List.filter_append, List.filter_append, List.map_map, returns]
  cases last with
  | nil => rfl
  | cons c last => rfl

theorem wordsOf_intercalate (rows : List (List Char)) :
    wordsOf (['\n'].intercalate rows) = rows.flatMap wordsOf := by
  induction rows with
  | nil => rfl
  | cons row rows ih =>
    by_cases none : rows = []
    · rw [none, List.intercalate_singleton, List.flatMap_singleton]
    · rw [List.intercalate_cons_of_ne_nil none, List.append_assoc, List.singleton_append,
        wordsOf_append (by decide), ih, List.flatMap_cons]

theorem flatMap_wordsOf_filter (rows : List (List Char)) :
    (rows.filter (! ·.isEmpty)).flatMap wordsOf = rows.flatMap wordsOf := by
  induction rows with
  | nil => rfl
  | cons row rows ih =>
    cases row with
    | nil => exact ih
    | cons c row => exact congrArg (wordsOf (c :: row) ++ ·) ih

/-- The words of a text are those of its rows. -/
theorem wordsOf_rowsOf (cs : List Char) : (rowsOf cs).flatMap wordsOf = wordsOf cs := by
  have trimmed : (fun piece => wordsOf (trimOf piece)) = wordsOf := funext wordsOf_trimOf
  have whole : ['\n'].intercalate (pieces (· == '\n') cs) = cs := by
    rw [pieces_eq_splitOnP, ← List.splitOn_eq_splitOnP]
    exact List.intercalate_splitOn '\n'
  calc (rowsOf cs).flatMap wordsOf
      = ((pieces (· == '\n') cs).map trimOf).flatMap wordsOf := flatMap_wordsOf_filter _
    _ = (pieces (· == '\n') cs).flatMap wordsOf := by rw [List.flatMap_map, trimmed]
    _ = wordsOf (['\n'].intercalate (pieces (· == '\n') cs)) := (wordsOf_intercalate _).symm
    _ = wordsOf cs := by rw [whole]

end Text

namespace Diagnostic

open Text

theorem trimmedLines_eq (raw : String) :
    trimmedLines raw = (rowsOf raw.toList).map String.ofList := by
  have texts : trim ∘ String.ofList = String.ofList ∘ trimOf := by
    funext line
    exact congrArg (fun cs => String.ofList (trimOf cs)) String.toList_ofList
  have kept : ((! ·.isEmpty) ∘ String.ofList) = fun cs : List Char => ! cs.isEmpty := by
    funext line
    change (! (String.ofList line).isEmpty) = ! line.isEmpty
    rw [Bool.not_inj_iff, Bool.eq_iff_iff, String.isEmpty_iff, List.isEmpty_iff,
      String.ofList_eq_empty_iff]
  unfold trimmedLines lines
  rw [rowsOf_eq_linesOf, List.map_map, texts, ← List.map_map, List.filter_map, kept]

theorem toList_normalize (raw : String) :
    (normalize raw).toList = ['\n'].intercalate (rowsOf raw.toList) := by
  have texts : String.toList ∘ String.ofList = id := funext fun _ => String.toList_ofList
  unfold normalize
  rw [String.toList_intercalate, trimmedLines_eq, List.map_map, texts, List.map_id]
  rfl

/-- The rows of a normal form are those of the text. -/
theorem rowsOf_normalize (raw : String) :
    rowsOf (normalize raw).toList = rowsOf raw.toList := by
  rw [toList_normalize]
  exact rowsOf_intercalate fun row => row_of_mem

theorem trimmedLines_normalize (raw : String) : trimmedLines (normalize raw) = trimmedLines raw := by
  rw [trimmedLines_eq, rowsOf_normalize, ← trimmedLines_eq]

theorem wordsOf_normalize (raw : String) :
    wordsOf (normalize raw).toList = wordsOf raw.toList := by
  rw [toList_normalize, wordsOf_intercalate, wordsOf_rowsOf]

/-- A text is in normal form: it consists of rows with a line feed between each two, and is empty if
there are none. -/
def Normal (text : String) : Prop :=
  ∃ rows : List String, text = "\n".intercalate rows ∧ ∀ row ∈ rows, Row row.toList

theorem normal_normalize (raw : String) : Normal (normalize raw) := by
  refine ⟨trimmedLines raw, rfl, fun row mem => ?_⟩
  rw [trimmedLines_eq] at mem
  obtain ⟨cs, inside, rfl⟩ := List.mem_map.mp mem
  rw [String.toList_ofList]
  exact row_of_mem inside

theorem normalize_eq_self_iff {text : String} : normalize text = text ↔ Normal text := by
  constructor
  · intro same
    rw [← same]
    exact normal_normalize text
  · rintro ⟨rows, rfl, isRow⟩
    have read : rowsOf ("\n".intercalate rows).toList = rows.map String.toList := by
      rw [String.toList_intercalate]
      exact rowsOf_intercalate (List.forall_mem_map.mpr isRow)
    rw [String.ext_iff, toList_normalize, read, String.toList_intercalate]
    rfl

/-- A normal form has the rows that it is of, so texts with one normal form have the same rows. -/
theorem normalize_eq_iff {a b : String} :
    normalize a = normalize b ↔ trimmedLines a = trimmedLines b := by
  constructor
  · intro same
    rw [← trimmedLines_normalize a, same, trimmedLines_normalize]
  · intro same
    unfold normalize
    rw [same]

/-! ### What is kept -/

/-- `text` is in normal form and has the words of `raw`, so it costs as much and counts as much. -/
structure NormalFormOf (raw text : String) : Prop where
  normal : Normal text
  settled : normalize text = text
  words : Text.words text = Text.words raw
  penalty : ∀ weights, Fitness.penalty weights text = Fitness.penalty weights raw
  counted : ∀ p : Program,
    (p.setDiagnostic text).diagnosticWordCount = (p.setDiagnostic raw).diagnosticWordCount

theorem wordCount_normalize (raw : String) : wordCount (normalize raw) = wordCount raw :=
  congrArg List.length (wordsOf_normalize raw)

theorem penalty_normalize (weights : FitnessConfig) (raw : String) :
    Fitness.penalty weights (normalize raw) = Fitness.penalty weights raw := by
  unfold Fitness.penalty
  rw [wordCount_normalize]

theorem normalFormOf_normalize (raw : String) : NormalFormOf raw (normalize raw) where
  normal := normal_normalize raw
  settled := normalize_eq_self_iff.mpr (normal_normalize raw)
  words := congrArg (·.map String.ofList) (wordsOf_normalize raw)
  penalty weights := penalty_normalize weights raw
  counted _ := wordCount_normalize raw

/-- The normal form is one: bringing it into normal form again changes nothing, it has the words of
the text, in order, and texts have the same normal form just if they have the same lines, trimmed
and without the blank ones.  So an evaluation stores as many words as the compiler printed, and
takes off the penalty for these. -/
theorem normal_form_keeps_words :
    (∀ raw, NormalFormOf raw (normalize raw)) ∧
    (∀ text, normalize text = text ↔ Normal text) ∧
    (∀ a b, normalize a = normalize b ↔ trimmedLines a = trimmedLines b) ∧
    ∀ compile weights p,
      (Evaluator.judge compile weights p).map Program.diagnosticWordCount =
        (compile p.render).map wordCount ∧
      (Evaluator.judge compile weights p).map Program.score =
        (compile p.render).map fun raw =>
          .ofFloat (Fitness.baseScore weights p p.render - Fitness.penalty weights raw) := by
  refine ⟨normalFormOf_normalize, fun _ => normalize_eq_self_iff, fun _ _ => normalize_eq_iff,
    fun compile weights p => ?_⟩
  unfold Evaluator.judge
  cases compile p.render with
  | error e => exact ⟨rfl, rfl⟩
  | ok raw =>
    refine ⟨congrArg Except.ok (wordCount_normalize raw), ?_⟩
    have taken := penalty_normalize weights raw
    simp only [Except.map, Program.setScore, Fitness.score, taken]

/-- A line may hold carriage returns and other blanks than spaces, also nothing else. -/
example : normalize "\u2003error: \u0085 a\r\r\n\u2028\n\t\rnote\r" =
    "error: \u0085 a\nnote" := by decide +kernel

end Diagnostic

end Progeny

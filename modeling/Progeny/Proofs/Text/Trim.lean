import Mathlib.Data.List.DropRight
import Progeny.Proofs.Text.Pieces

/-!
# Blanks at the ends

A text is tight when no blank stands at its beginning or at its end.  Every text is a tight one with
blanks around it, and there is only one such text: trimming finds it.  So blanks that are put around
a text change nothing about what trimming leaves, and nothing about the words.
-/

namespace Progeny.Text

variable {cs before core after : List Char} {s : String}

/-- Neither the first nor the last character is a blank. -/
structure Tight (cs : List Char) : Prop where
  first : ∀ c ∈ cs.head?, isBlank c = false
  last : ∀ c ∈ cs.getLast?, isBlank c = false

/-- There are only blanks. -/
def Blank (cs : List Char) : Prop := ∀ c ∈ cs, isBlank c = true

theorem blank_nil : Blank [] := List.forall_mem_nil _

theorem Blank.append (h : Blank before) (h' : Blank after) : Blank (before ++ after) :=
  List.forall_mem_append.mpr ⟨h, h'⟩

/-! ### Trimming -/

theorem trimOf_eq (cs : List Char) : trimOf cs = (cs.dropWhile isBlank).rdropWhile isBlank := rfl

theorem exists_around (cs : List Char) :
    ∃ before after, Blank before ∧ Blank after ∧ cs = before ++ (trimOf cs ++ after) := by
  refine ⟨cs.takeWhile isBlank, (cs.dropWhile isBlank).rtakeWhile isBlank, ?_, ?_, ?_⟩
  · exact fun c mem => List.mem_takeWhile_imp mem
  · exact fun c mem => List.mem_rtakeWhile_imp mem
  · rw [trimOf_eq, List.rdropWhile_append_rtakeWhile, List.takeWhile_append_dropWhile]

theorem tight_trimOf (cs : List Char) : Tight (trimOf cs) where
  first c first := by
    -- the second half of trimming leaves the beginning as it is
    obtain ⟨rest, whole⟩ := List.rdropWhile_prefix isBlank (cs.dropWhile isBlank)
    have head : (cs.dropWhile isBlank).head? = some c := by
      rw [← whole, List.head?_append, ← trimOf_eq, first]
      rfl
    have stopped := List.head?_dropWhile_not isBlank cs
    rw [head] at stopped
    exact stopped
  last c last := by
    obtain ⟨some, rfl⟩ := List.mem_getLast?_eq_getLast last
    exact Bool.eq_false_iff.mpr (List.rdropWhile_last_not isBlank _ some)

theorem dropWhile_blank_append (blank : Blank before) (first : ∀ c ∈ cs.head?, isBlank c = false) :
    (before ++ cs).dropWhile isBlank = cs := by
  rw [List.dropWhile_append_of_pos blank]
  cases cs with
  | nil => rfl
  | cons c cs => rw [List.dropWhile_cons_of_neg (by rw [first c rfl]; decide)]

/-- What is tight is found among blanks. -/
theorem trimOf_around (blank : Blank before) (tight : Tight core) (blank' : Blank after) :
    trimOf (before ++ (core ++ after)) = core := by
  rw [trimOf_eq]
  cases core with
  | nil =>
    have all : (before ++ ([] ++ after)).dropWhile isBlank = [] :=
      List.dropWhile_eq_nil_iff.mpr (blank.append blank')
    rw [all, List.rdropWhile_nil]
  | cons c core =>
    have backwards : Blank after.reverse := fun d mem => blank' d (List.mem_reverse.mp mem)
    have front : (before ++ (c :: core ++ after)).dropWhile isBlank = c :: core ++ after :=
      dropWhile_blank_append blank tight.first
    have back : (after.reverse ++ (c :: core).reverse).dropWhile isBlank = (c :: core).reverse := by
      refine dropWhile_blank_append backwards ?_
      rw [List.head?_reverse]
      exact tight.last
    rw [front, List.rdropWhile, List.reverse_append, back, List.reverse_reverse]

theorem trimOf_eq_self_iff : trimOf cs = cs ↔ Tight cs := by
  constructor
  · intro same
    rw [← same]
    exact tight_trimOf cs
  · intro tight
    have found := trimOf_around blank_nil tight blank_nil
    rw [List.nil_append, List.append_nil] at found
    exact found

instance (cs : List Char) : Decidable (Tight cs) := decidable_of_iff _ trimOf_eq_self_iff

theorem trim_eq_self_iff : trim s = s ↔ Tight s.toList := by
  rw [← trimOf_eq_self_iff, trim, String.ext_iff, String.toList_ofList]

/-- Blanks around a text do not change what trimming leaves of it. -/
theorem trimOf_blanks (blank : Blank before) (blank' : Blank after) (cs : List Char) :
    trimOf (before ++ (cs ++ after)) = trimOf cs := by
  obtain ⟨front, back, blankFront, blankBack, whole⟩ := exists_around cs
  have around : before ++ (cs ++ after) = before ++ front ++ (trimOf cs ++ (back ++ after)) := by
    rw [List.append_assoc, ← List.append_assoc (trimOf cs), ← List.append_assoc front, ← whole]
  rw [around]
  exact trimOf_around (blank.append blankFront) (tight_trimOf cs) (blankBack.append blank')

/-- A carriage return at the end of a line is a blank. -/
theorem trimOf_withoutReturn (line : List Char) : trimOf (withoutReturn line) = trimOf line := by
  unfold withoutReturn
  split
  · rename_i returned
    have whole : line = [] ++ (line.dropLast ++ ['\r']) :=
      (List.dropLast_append_getLast? _ returned).symm
    have ending : Blank ['\r'] := List.forall_mem_singleton.mpr (by decide)
    conv_rhs => rw [whole]
    exact (trimOf_blanks blank_nil ending line.dropLast).symm
  · rfl

/-! ### Words -/

theorem wordsOf_blanks_append (blank : Blank before) (cs : List Char) :
    wordsOf (before ++ cs) = wordsOf cs := by
  induction before with
  | nil => rfl
  | cons c before ih =>
    obtain ⟨first, rest⟩ := List.forall_mem_cons.mp blank
    exact (wordsOf_append first [] (before ++ cs)).trans (ih rest)

theorem wordsOf_append_blanks (blank : Blank after) (cs : List Char) :
    wordsOf (cs ++ after) = wordsOf cs := by
  cases after with
  | nil => rw [List.append_nil]
  | cons c after =>
    obtain ⟨first, rest⟩ := List.forall_mem_cons.mp blank
    have nothing := wordsOf_blanks_append rest []
    rw [List.append_nil] at nothing
    rw [wordsOf_append first, nothing]
    exact List.append_nil _

theorem wordsOf_trimOf (cs : List Char) : wordsOf (trimOf cs) = wordsOf cs := by
  obtain ⟨before, after, blank, blank', whole⟩ := exists_around cs
  conv_rhs => rw [whole]
  rw [wordsOf_blanks_append blank, wordsOf_append_blanks blank']

end Progeny.Text

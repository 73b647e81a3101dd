/-!
# Blanks, words and lines

Text is cut in three ways: into words at blanks, into lines at line feeds, and by taking the blanks
off both ends.  A blank is a character with the Unicode property White_Space.  All three are
functions on lists of characters, of which the functions on strings are the images.
-/

namespace Progeny.Text

/-- Whether a character has the property White_Space. -/
def isBlank (c : Char) : Bool :=
  (0x9 ≤ c.val && c.val ≤ 0xD) || c.val == 0x20 || c.val == 0x85 || c.val == 0xA0 ||
  c.val == 0x1680 || (0x2000 ≤ c.val && c.val ≤ 0x200A) || c.val == 0x2028 || c.val == 0x2029 ||
  c.val == 0x202F || c.val == 0x205F || c.val == 0x3000

/-- The pieces between the characters that `cut` holds of; one more piece than there are cuts. -/
def pieces (cut : Char → Bool) (cs : List Char) : List (List Char) :=
  cs.foldr (fun c found =>
    if cut c then [] :: found
    else match found with
      | [] => [[c]]
      | piece :: rest => (c :: piece) :: rest) [[]]

/-- The maximal runs of characters that are not blank. -/
def wordsOf (cs : List Char) : List (List Char) :=
  (pieces isBlank cs).filter (! ·.isEmpty)

/-- A line without the one carriage return that may end it. -/
def withoutReturn (line : List Char) : List Char :=
  if line.getLast? = some '\r' then line.dropLast else line

/-- The lines of a text.  A line feed ends a line, together with a carriage return right before it;
what follows the last line feed is a line only if it is not empty. -/
def linesOf (cs : List Char) : List (List Char) :=
  let found := pieces (· == '\n') cs
  let last := found.getLast?.getD []
  found.dropLast.map withoutReturn ++ if last.isEmpty then [] else [last]

/-- The characters from the first that is not blank to the last. -/
def trimOf (cs : List Char) : List Char :=
  ((cs.dropWhile isBlank).reverse.dropWhile isBlank).reverse

/-- The words of a text. -/
def words (s : String) : List String := (wordsOf s.toList).map String.ofList

/-- The lines of a text. -/
def lines (s : String) : List String := (linesOf s.toList).map String.ofList

/-- A text without the blanks at its ends. -/
def trim (s : String) : String := String.ofList (trimOf s.toList)

/-- The number of words of a text. -/
def wordCount (s : String) : Nat := (wordsOf s.toList).length

theorem isBlank_of_isWhitespace {c : Char} (h : c.isWhitespace) : isBlank c := by
  simp only [Char.isWhitespace, Bool.or_eq_true, decide_eq_true_eq] at h
  rcases h with ((h | h) | h) | h <;> subst h <;> decide

example : words " a\u00a0b\u3000 \t" = ["a", "b"] := by decide +kernel
example : lines "a\r\n\nb\r" = ["a", "", "b\r"] := by decide +kernel
example : trim "\u2003 x y\u0085" = "x y" := by decide +kernel

end Progeny.Text

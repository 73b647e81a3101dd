import Progeny.Text.Blank

/-!
# Diagnostics

What a compiler prints is brought into a normal form before it is counted and stored: the lines
that are not blank, without the blanks at their ends, and a line feed between each two.
-/

namespace Progeny.Diagnostic

/-- The lines that are not blank, without the blanks at their ends. -/
def trimmedLines (raw : String) : List String :=
  ((Text.lines raw).map Text.trim).filter (! ·.isEmpty)

/-- The normal form of a diagnostic. -/
def normalize (raw : String) : String := "\n".intercalate (trimmedLines raw)

end Progeny.Diagnostic

/-!
# Tokens

A token is the smallest piece of a program's text: a keyword, an operator, a literal, an identifier
or a punctuation mark.  Any text may be a token.
-/

namespace Progeny

/-- A piece of program text. -/
structure Token where
  text : String
  deriving DecidableEq, Repr, Hashable

namespace Token

instance : Coe String Token := ⟨Token.mk⟩

instance : Inhabited Token := ⟨⟨""⟩⟩

/-- The number of characters. -/
def size (t : Token) : Nat := t.text.length

/-- The order of the texts, character by character. -/
def compare (s t : Token) : Ordering :=
  if s.text < t.text then .lt else if s.text = t.text then .eq else .gt

end Token

end Progeny

import Progeny.Token

/-!
# The word pools

The fixed texts that generated programs are made of.
-/

namespace Progeny.Lexicon

/-- The keywords that occur as tokens of their own. -/
def keywords : List String :=
  ["bool", "break;", "char", "continue;", "const", "do", "double", "else", "false", "float",
   "for", "if", "int", "long", "void", "return", "short", "signed", "static", "true",
   "unsigned", "while"]

/-- The types that a variable is declared with. -/
def types : List String := ["bool", "char", "double", "float", "int", "long", "short"]

/-- The words that may stand before a type. -/
def modifiers : List String := ["const", "signed", "static", "unsigned"]

/-- The statements that leave a block. -/
def branches : List String := ["break;", "continue;", "return;"]

/-- The binary operators. -/
def operators : List String :=
  ["+", "-", "*", "/", "%", "==", "!=", ">", "<", ">=", "<=", "&&", "||", "&", "|"]

/-- The identifiers, which all programs share. -/
def variableNames : List String := ["i", "j", "k", "x", "y", "z", "a", "b", "c", "m", "n", "p"]

/-- The characters of character literals. -/
def alphabet : String := "0123456789ABCDEFGHIJKLMNOPQRSTUVWXYZabcdefghijklmnopqrstuvwxyz"

/-- What ends a statement. -/
def terminator : String := ";"

/-- The punctuation that is not counted as a frequent token. -/
def structural : List String := [";", "(", ")", "\x7b", "\x7d", "[", "]"]

/-- What opens a block. -/
def blockOpen : String := "\x7b"

/-- What closes a block. -/
def blockClose : String := "\x7d"

end Progeny.Lexicon

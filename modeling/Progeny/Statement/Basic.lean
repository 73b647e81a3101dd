import Progeny.Lexicon
import Progeny.Sequence.Edit
import Progeny.Sequence.Tally
import Progeny.Text.Blank
import Progeny.Sequence.Total

/-!
# Statements

A statement is an editable sequence of tokens.  Its text is each token followed by a space, and two
statements count as the same statement when their texts are equal.  Look-ups by text take the
blanks off the ends of the text that they look for; replacements do not.
-/

namespace Progeny

/-- A sequence of tokens. -/
structure Statement where
  tokens : List Token
  deriving DecidableEq, Repr, Inhabited

namespace Statement

/-- The statement without tokens. -/
def empty : Statement := ⟨[]⟩

/-- The words of a text as tokens. -/
def ofWords (text : String) : Statement := ⟨(Text.words text).map Token.mk⟩

/-- The number of tokens. -/
def size (s : Statement) : Nat := s.tokens.length

def isEmpty (s : Statement) : Bool := s.tokens.isEmpty

/-- Each token, followed by a space. -/
def render (s : Statement) : String :=
  s.tokens.foldl (fun text t => text ++ t.text ++ " ") ""

/-- Whether two statements have the same text. -/
def sameText (s t : Statement) : Bool := s.render == t.render

/-- The order of the sizes. -/
def compareSize (s t : Statement) : Ordering := Ord.compare s.size t.size

/-! ### Access and editing by position -/

/-- The token nearest to position `i`. -/
def get? (s : Statement) (i : Nat) : Option Token := Sequence.nearest? s.tokens i

/-- Overwrites the token nearest to position `i`. -/
def set (s : Statement) (i : Nat) (t : Token) : Statement := ⟨Sequence.setNearest s.tokens i t⟩

/-- The tokens from the position nearest to `low` up to `high`. -/
def range (s : Statement) (low high : Nat) : List Token := Sequence.slice s.tokens low high

/-- Adds a token at the end. -/
def push (s : Statement) (t : Token) : Statement := ⟨s.tokens ++ [t]⟩

/-- Inserts a token at position `i`, or at the end. -/
def insert (s : Statement) (i : Nat) (t : Token) : Statement := ⟨Sequence.insert s.tokens i t⟩

/-- Adds tokens at the end. -/
def extend (s : Statement) (ts : List Token) : Statement := ⟨s.tokens ++ ts⟩

/-- Inserts tokens at position `i`, or at the end. -/
def insertAll (s : Statement) (i : Nat) (ts : List Token) : Statement :=
  ⟨Sequence.insertAll s.tokens i ts⟩

/-- Adds another statement's tokens at the end. -/
def append (s other : Statement) : Statement := s.extend other.tokens

/-- Adds another statement's tokens at the beginning. -/
def prepend (s other : Statement) : Statement := ⟨other.tokens ++ s.tokens⟩

/-- Inserts another statement's tokens at position `i`, or at the end. -/
def splice (s : Statement) (i : Nat) (other : Statement) : Statement := s.insertAll i other.tokens

/-- Takes out the token at position `i`, if there is one. -/
def remove (s : Statement) (i : Nat) : Option Token × Statement :=
  (Sequence.removeAt s.tokens i).map id Statement.mk

/-- Takes out the tokens from `low` up to `high`, as many of these positions as exist. -/
def removeRange (s : Statement) (low high : Nat) : List Token × Statement :=
  (Sequence.removeSpan s.tokens low high).map id Statement.mk

/-- Takes out the first occurrence of each target, one target after the other. -/
def removeAll (s : Statement) (targets : List Token) : Statement :=
  ⟨targets.foldl (fun tokens t => tokens.erase t) s.tokens⟩

/-- Writes the tokens backwards. -/
def reverse (s : Statement) : Statement := ⟨s.tokens.reverse⟩

/-- Exchanges the tokens nearest to two positions. -/
def swap (s : Statement) (i j : Nat) : Statement := ⟨Sequence.swapNearest s.tokens i j⟩

/-! ### Look-up and replacement by text -/

/-- Puts `new` in the place of the first token with the text `old`. -/
def replaceFirst (s : Statement) (old : String) (new : Token) : Statement :=
  match s.tokens.findIdx? (·.text == old) with
  | some i => ⟨s.tokens.set i new⟩
  | none => s

/-- Puts `new` in the place of every token with the text `old`. -/
def replaceAll (s : Statement) (old : String) (new : Token) : Statement :=
  ⟨s.tokens.map fun t => if t.text == old then new else t⟩

/-- The position of the first token whose text is `target` without the blanks at its ends. -/
def indexOf? (s : Statement) (target : String) : Option Nat :=
  let target := Text.trim target
  s.tokens.findIdx? (·.text == target)

/-- Whether some token has the text `target`, less the blanks at its ends. -/
def contains (s : Statement) (target : String) : Bool :=
  let target := Text.trim target
  s.tokens.any (·.text == target)

/-- The number of tokens with the text `target`, less the blanks at its ends. -/
def count (s : Statement) (target : String) : Nat :=
  let target := Text.trim target
  s.tokens.countP (·.text == target)

/-! ### Measures -/

/-- The number of characters of all tokens. -/
def characterCount (s : Statement) : Nat := Sequence.total Token.size s.tokens

/-- Whether a token is punctuation. -/
def isStructural (t : Token) : Bool := Lexicon.structural.contains t.text

/-- The first of the tokens that occur most often, punctuation aside. -/
def mostCommon? (s : Statement) : Option Token :=
  Sequence.mostFrequent? (Sequence.tally (s.tokens.filter (! isStructural ·))) s.tokens

/-- The character that opens what `c` closes. -/
def openerOf? (c : Char) : Option Char :=
  if c = ')' then some '('
  else if c = '\x7d' then some '\x7b'
  else if c = ']' then some '['
  else none

/-- Whether `c` opens a pair. -/
def isOpener (c : Char) : Bool := c == '(' || c == '\x7b' || c == '['

/-- Reads brackets against the stack of those still open. -/
def bracketsClose : List Char → List Char → Bool
  | opened, [] => opened.isEmpty
  | opened, c :: rest =>
    if isOpener c then bracketsClose (c :: opened) rest
    else match openerOf? c with
      | none => bracketsClose opened rest
      | some o =>
        match opened with
        | top :: opened => if top = o then bracketsClose opened rest else false
        | [] => false

/-- The characters of all tokens. -/
def characters (s : Statement) : List Char := s.tokens.flatMap (·.text.toList)

/-- Whether the round, curly and square brackets of the text nest. -/
def isBalanced (s : Statement) : Bool := bracketsClose [] s.characters

end Statement

end Progeny

import Progeny.Score
import Progeny.Statement.Basic
import Progeny.Sequence.Total

/-!
# Programs

A program is a sequence of statements, wrapped in a main function when it is written out, together
with its fitness state, which is a score and the last diagnostic, and with the probabilities that
the genetic operators apply to it.  Programs with equal texts count as the same program.
-/

namespace Progeny

/-- A candidate program. -/
structure Program where
  statements : List Statement
  score : Score
  diagnostic : String
  mutationProbability : Float
  crossoverProbability : Float
  deriving DecidableEq

namespace Program

/-- The diagnostic of a program that was never evaluated. -/
def notCompiled : String := "not compiled yet"

/-- A program that was never evaluated and that the operators always apply to. -/
def ofStatements (statements : List Statement) : Program :=
  ⟨statements, .zero, notCompiled, 1.0, 1.0⟩

/-- The program without statements. -/
def empty : Program := ofStatements []

instance : Inhabited Program := ⟨empty⟩

/-- Other statements with the probabilities of `p`, never evaluated. -/
def withStatements (p : Program) (statements : List Statement) : Program :=
  { ofStatements statements with
    mutationProbability := p.mutationProbability
    crossoverProbability := p.crossoverProbability }

/-- A copy of `p` that was never evaluated. -/
def offspring (p : Program) : Program := p.withStatements p.statements

/-- The number of statements. -/
def size (p : Program) : Nat := p.statements.length

def isEmpty (p : Program) : Bool := p.statements.isEmpty

/-- The line that opens the main function. -/
def header : String := "int main()\x7b"

/-- What stands before each statement. -/
def indent : String := "   "

/-- The header, each statement indented on a line of its own, and the closing brace. -/
def render (p : Program) : String :=
  p.statements.foldl (fun text s => text ++ indent ++ s.render ++ "\n") (header ++ "\n") ++
    Lexicon.blockClose

/-- Whether two programs have the same text. -/
def sameText (p q : Program) : Bool := p.render == q.render

/-- The order of the sizes. -/
def compareSize (p q : Program) : Ordering := Ord.compare p.size q.size

/-- The order of the scores. -/
def compareScore (p q : Program) : Ordering := p.score.compare q.score

/-! ### Access and editing by position -/

/-- The same program with its statements changed; score and diagnostic stay. -/
def mapStatements (p : Program) (f : List Statement → List Statement) : Program :=
  { p with statements := f p.statements }

/-- The statement nearest to position `i`. -/
def statement? (p : Program) (i : Nat) : Option Statement := Sequence.nearest? p.statements i

/-- Changes the statement nearest to position `i`. -/
def updateStatement (p : Program) (i : Nat) (f : Statement → Statement) : Program :=
  p.mapStatements fun ss => ss.modify (Sequence.nearest ss i) f

/-- The statements from the position nearest to `low` up to `high`. -/
def range (p : Program) (low high : Nat) : List Statement := Sequence.slice p.statements low high

/-- Adds a statement at the end. -/
def push (p : Program) (s : Statement) : Program := p.mapStatements (· ++ [s])

/-- Inserts a statement at position `i`, or at the end. -/
def insert (p : Program) (i : Nat) (s : Statement) : Program :=
  p.mapStatements (Sequence.insert · i s)

/-- Adds statements at the end. -/
def extend (p : Program) (ss : List Statement) : Program := p.mapStatements (· ++ ss)

/-- Inserts statements at position `i`, or at the end. -/
def insertAll (p : Program) (i : Nat) (ss : List Statement) : Program :=
  p.mapStatements (Sequence.insertAll · i ss)

/-- The result of taking something out of the statements. -/
def taking {α : Type} (p : Program) (taken : α × List Statement) : α × Program :=
  (taken.1, { p with statements := taken.2 })

/-- Takes out the statement at position `i`, if there is one. -/
def remove (p : Program) (i : Nat) : Option Statement × Program :=
  p.taking (Sequence.removeAt p.statements i)

/-- Takes out the statements from `low` up to `high`, as many of these positions as exist. -/
def removeRange (p : Program) (low high : Nat) : List Statement × Program :=
  p.taking (Sequence.removeSpan p.statements low high)

/-- Takes out the first statement. -/
def removeFirst (p : Program) : Option Statement × Program := p.remove 0

/-- Takes out the last statement. -/
def removeLast (p : Program) : Option Statement × Program :=
  p.taking (p.statements.getLast?, p.statements.dropLast)

/-- Exchanges the statements nearest to two positions. -/
def swap (p : Program) (i j : Nat) : Program := p.mapStatements (Sequence.swapNearest · i j)

/-- Writes the statements backwards. -/
def reverse (p : Program) : Program := p.mapStatements List.reverse

/-- Sorts the statements by size; statements of one size keep their order. -/
def sortBySize (p : Program) : Program :=
  p.mapStatements (·.mergeSort fun s t => s.size ≤ t.size)

/-! ### Look-up by text -/

/-- The position of the first statement with the text of `s`. -/
def indexOfStatement? (p : Program) (s : Statement) : Option Nat :=
  p.statements.findIdx? (·.sameText s)

/-- Whether some statement has the text of `s`. -/
def containsStatement (p : Program) (s : Statement) : Bool := p.statements.any (·.sameText s)

/-- Takes out the first statement with the text of `s`. -/
def removeStatement (p : Program) (s : Statement) : Option Statement × Program :=
  match p.indexOfStatement? s with
  | some i => p.remove i
  | none => (none, p)

/-- Takes out the first statement with the text of each target, one target after the other. -/
def removeStatements (p : Program) (targets : List Statement) : Program :=
  targets.foldl (fun p s => (p.removeStatement s).2) p

/-- Puts `new` in the place of the first statement with the text of `old`, if there is one. -/
def replaceStatement? (p : Program) (old new : Statement) : Option Program :=
  (p.indexOfStatement? old).map fun i => p.mapStatements (·.set i new)

/-- Whether some statement contains the token `t`. -/
def containsToken (p : Program) (t : String) : Bool := p.statements.any (·.contains t)

/-- The position of the first statement that contains the token `t`. -/
def indexOfToken? (p : Program) (t : String) : Option Nat :=
  p.statements.findIdx? (·.contains t)

/-- The statements that contain the token `t`. -/
def containingToken (p : Program) (t : String) : List Statement :=
  p.statements.filter (·.contains t)

/-- The statements that contain one of the tokens `ts`. -/
def containingAny (p : Program) (ts : List String) : List Statement :=
  p.statements.filter fun s => ts.any s.contains

/-- The statements that contain all of the tokens `ts`. -/
def containingAll (p : Program) (ts : List String) : List Statement :=
  p.statements.filter fun s => ts.all s.contains

/-- The number of occurrences of the token `t`. -/
def count (p : Program) (t : String) : Nat := Sequence.total (·.count t) p.statements

/-! ### Measures -/

/-- The number of tokens. -/
def tokenCount (p : Program) : Nat := Sequence.total Statement.size p.statements

/-- The number of characters of all tokens. -/
def characterCount (p : Program) : Nat := Sequence.total Statement.characterCount p.statements

/-- The tokens, each of them once. -/
def distinctTokens (p : Program) : List Token := (p.statements.flatMap (·.tokens)).eraseDups

/-- The statements, those with equal texts once. -/
def distinctStatements (p : Program) : List Statement :=
  p.statements.foldl (fun seen s => if seen.any (·.sameText s) then seen else seen ++ [s]) []

/-- The first statement of the greatest size. -/
def longest? (p : Program) : Option Statement := Sequence.firstMax Statement.size p.statements

/-- The first statement of the smallest size. -/
def shortest? (p : Program) : Option Statement := Sequence.firstMin Statement.size p.statements

/-- The greatest size of a statement; 0 if there is none. -/
def longestSize (p : Program) : Nat := (p.longest?.map Statement.size).getD 0

/-- The smallest size of a statement; 0 if there is none. -/
def shortestSize (p : Program) : Nat := (p.shortest?.map Statement.size).getD 0

/-- The average size of a statement. -/
def averageSize? (p : Program) : Option Float :=
  if p.isEmpty then none else some (p.tokenCount.toFloat / p.size.toFloat)

/-- The statements at even positions. -/
def evenStatements (p : Program) : List Statement := Sequence.evens p.statements

/-- The statements at odd positions. -/
def oddStatements (p : Program) : List Statement := Sequence.odds p.statements

/-- Statements of two programs in turn, then the rest of the longer one; never evaluated. -/
def interleave (p q : Program) : Program :=
  ofStatements (Sequence.interleave p.statements q.statements)

/-! ### Fitness state -/

def setScore (p : Program) (score : Score) : Program := { p with score := score }

def setDiagnostic (p : Program) (text : String) : Program := { p with diagnostic := text }

/-- The number of words of the diagnostic. -/
def diagnosticWordCount (p : Program) : Nat := Text.wordCount p.diagnostic

end Program

end Progeny

import Progeny.Program.Basic
import Std.Data.HashSet

/-!
# Fitness

A program earns points for its tokens, its characters and its distinct words, and loses points for
each word of its diagnostic.
-/

namespace Progeny

/-- The weights of the fitness function. -/
structure FitnessConfig where
  /-- The weight of a word of the diagnostic; its magnitude is taken off. -/
  errorWordPenalty : Float := -1.0
  /-- The weight of a distinct word of the text. -/
  uniqueWordBonus : Float := 2.0
  /-- The weight of a token. -/
  lengthWordBonus : Float := 1.0
  /-- The weight of a character of the text that is neither blank nor a semicolon. -/
  lengthCharBonus : Float := 0.1
  deriving DecidableEq

namespace Fitness

/-- Whether a character of the text counts. -/
def counts (c : Char) : Bool := ! Text.isBlank c && c != ';'

/-- The number of characters that count. -/
def countedCharacters (text : String) : Nat := text.toList.countP counts

/-- The number of distinct words. -/
def distinctWords (text : String) : Nat := (Std.HashSet.ofList (Text.words text)).size

/-- The points for some numbers of tokens, characters and distinct words. -/
def points (weights : FitnessConfig) (tokens characters distinct : Nat) : Float :=
  weights.lengthWordBonus * tokens.toFloat + weights.lengthCharBonus * characters.toFloat +
    weights.uniqueWordBonus * distinct.toFloat

/-- The points of a program before it is compiled, measured on the text `rendered`. -/
def baseScore (weights : FitnessConfig) (p : Program) (rendered : String) : Float :=
  points weights p.tokenCount (countedCharacters rendered) (distinctWords rendered)

/-- The points that a diagnostic takes off. -/
def penalty (weights : FitnessConfig) (diagnostic : String) : Float :=
  weights.errorWordPenalty.abs * (Text.wordCount diagnostic).toFloat

/-- The score of a program with a given diagnostic.  With weights for which the difference is not a
number, as for infinite ones, it is `Score.nan`; see `Score.ofFloat` for its sign. -/
def score (weights : FitnessConfig) (p : Program) (diagnostic : String) : Score :=
  .ofFloat (baseScore weights p p.render - penalty weights diagnostic)

end Fitness

end Progeny

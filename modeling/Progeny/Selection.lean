import Progeny.Program.Basic
import Progeny.Random.Draw

/-!
# Selection and the statistics of scores

Survivors win tournaments between two random members, in which the first drawn has to be strictly
better.  The statistics of a population skip scores that are not numbers when they look for the
best and the worst one, and count them everywhere else.
-/

namespace Progeny

namespace Selection

/-- The winner of a tournament between two positions. -/
def winner (population : List Program) (first second : Fin population.length) :
    Fin population.length :=
  if (population.get first).score.beats (population.get second).score then first else second

/-- The position of the winner of a random tournament; none in the empty population. -/
def tournament (population : List Program) : Draw (Option (Fin population.length)) := do
  if population.isEmpty then return none
  else
    let first ← Draw.below population.length
    let second ← Draw.below population.length
    return some (winner population first second)

/-- The winners of `n` tournaments. -/
def select (population : List Program) : Nat → Draw (List Program)
  | 0 => return []
  | n + 1 => do
    let won ← tournament population
    let others ← select population n
    return match won with
      | some i => population.get i :: others
      | none => others

end Selection

/-- A summary of some scores. -/
structure ScoreSummary where
  mean : Float
  best : Float
  worst : Float
  /-- The standard deviation of the population. -/
  deviation : Float
  deriving DecidableEq

namespace ScoreSummary

/-- The larger of two numbers; a number, if one of them is. -/
def larger (x y : Float) : Float := if y > x ∨ x.isNaN then y else x

/-- The smaller of two numbers; a number, if one of them is. -/
def smaller (x y : Float) : Float := if y < x ∨ x.isNaN then y else x

/-- The sum from left to right, which is the negative zero for no numbers. -/
def sum (xs : List Float) : Float := xs.foldl (· + ·) (-0.0)

/-- The summary of some numbers; all zero if there are none. -/
def ofScores (xs : List Float) : ScoreSummary :=
  if xs.isEmpty then ⟨0.0, 0.0, 0.0, 0.0⟩
  else
    let n := xs.length.toFloat
    let mean := sum xs / n
    let variance := sum (xs.map fun x => (x - mean) * (x - mean)) / n
    { mean := mean
      best := xs.foldl larger (-1.0 / 0.0)
      worst := xs.foldl smaller (1.0 / 0.0)
      deviation := variance.sqrt }

/-- The summary of the scores of a population. -/
def ofPopulation (population : List Program) : ScoreSummary :=
  ofScores (population.map (·.score.value))

end ScoreSummary

end Progeny

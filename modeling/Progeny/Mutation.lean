import Progeny.Program.Random

/-!
# Mutation

A mutation is five edits in a row, each behind a coin of its own.  The coin of an edit is tossed
even when the program then offers nothing to edit.  Mutation leaves score and diagnostic as they
are and never takes the last statement away.
-/

namespace Progeny

/-- The settings of mutation. -/
structure MutationConfig where
  /-- The probability of inserting random statements. -/
  insertRate : Float := 0.3
  /-- Fewer statements than this are inserted at once. -/
  maxInsertedStatements : Nat := 20
  /-- The probability of repeating a random statement. -/
  duplicateRate : Float := 0.4
  /-- The probability of removing a random statement. -/
  removeRate : Float := 0.0
  /-- The probability of exchanging two random statements. -/
  swapRate : Float := 0.0
  /-- The probability of inserting a random token into a random statement. -/
  tokenInsertRate : Float := 0.0
  deriving DecidableEq

/-- The probabilities among the settings, with their names. -/
def MutationConfig.rates (config : MutationConfig) : List (String × Float) :=
  [("mutation.insert_rate", config.insertRate),
   ("mutation.duplicate_rate", config.duplicateRate),
   ("mutation.remove_rate", config.removeRate),
   ("mutation.swap_rate", config.swapRate),
   ("mutation.token_insert_rate", config.tokenInsertRate)]

namespace Mutation

/-- Applies an edit with probability `rate`. -/
def sometimes (rate : Float) (edit : Program → Draw Program) (p : Program) : Draw Program := do
  if ← Draw.chance rate then edit p else return p

/-- Inserts fewer than `bound` random statements; none for a bound of 0 or 1. -/
def insertSome (bound : Nat) (p : Program) : Draw Program := do
  let count ← Draw.below (max bound 1)
  p.insertRandomStatements count

/-- Keeps the program where an edit fails. -/
def orSame (p : Program) (edited : Draw (Except EditError Program)) : Draw Program := do
  match ← edited with
  | .ok q => return q
  | .error _ => return p

/-- Repeats a random statement, if there is one. -/
def duplicate (p : Program) : Draw Program := orSame p p.duplicateRandomStatement

/-- Removes a random statement of several. -/
def removeOne (p : Program) : Draw Program := do
  if p.size > 1 then return (← p.removeRandomStatement).2 else return p

/-- Exchanges two random statements, if there are any. -/
def swapTwo (p : Program) : Draw Program := orSame p p.swapRandom

/-- Inserts a random token into a random statement, if there is one. -/
def insertToken (p : Program) : Draw Program := do
  match ← Sequence.position? p.statements with
  | none => return p
  | some i =>
    let s ← (p.statements.get i).insertRandomToken
    return p.mapStatements (·.set i s)

/-- The five edits, each behind its coin. -/
def edits (config : MutationConfig) (p : Program) : Draw Program := do
  let p ← sometimes config.insertRate (insertSome config.maxInsertedStatements) p
  let p ← sometimes config.duplicateRate duplicate p
  let p ← sometimes config.removeRate removeOne p
  let p ← sometimes config.swapRate swapTwo p
  sometimes config.tokenInsertRate insertToken p

/-- Mutates a program if its own coin allows it. -/
def mutate (config : MutationConfig) (p : Program) : Draw Program := do
  if ← p.shouldMutate then edits config p else return p

/-- Mutates each program. -/
def mutateAll (config : MutationConfig) : List Program → Draw (List Program)
  | [] => return []
  | p :: rest => do
    let q ← mutate config p
    let others ← mutateAll config rest
    return q :: others

end Mutation

end Progeny

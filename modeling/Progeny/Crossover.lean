import Progeny.Program.Random

/-!
# Crossover

Two parents give one child.  The child has statements of both, the operator probabilities of the
first, and no fitness state.  A child without statements is replaced by a copy of the first parent.
-/

namespace Progeny

/-- How the second parent of a child is found. -/
inductive MatePolicy where
  /-- Any other member of the pool. -/
  | random
  /-- The next member of the pool, and after the last the first. -/
  | adjacent
  deriving DecidableEq, Repr

/-- How the statements of two parents are put together. -/
inductive CrossoverKind where
  /-- A beginning of the first and an end of the second parent. -/
  | onePoint
  /-- Statements of both in turn. -/
  | interleave
  /-- The first piece of the first parent and the second piece of the second, each parent being
  cut before one of its statements. -/
  | split
  deriving DecidableEq, Repr

/-- The settings of crossover. -/
structure CrossoverConfig where
  /-- The probability of putting parents together, against copying the first. -/
  crossoverRate : Float := 0.9
  matePolicy : MatePolicy := .random
  kind : CrossoverKind := .onePoint
  deriving DecidableEq

namespace Crossover

/-- The statements of a child by one cut of each parent, which may be at either end. -/
def onePoint (first second : Program) : Draw (List Statement) := do
  let i ← Draw.below (first.size + 1)
  let j ← Draw.below (second.size + 1)
  return first.statements.take i ++ second.statements.drop j

/-- The statements of a child from the head of one parent and the tail of the other. -/
def split (first second : Program) : Draw (List Statement) := do
  let (head, _) ← first.split
  let (_, tail) ← second.split
  return head.statements ++ tail.statements

/-- The statements of a child of the given kind. -/
def combine (kind : CrossoverKind) (first second : Program) : Draw (List Statement) :=
  match kind with
  | .onePoint => onePoint first second
  | .interleave => return (first.interleave second).statements
  | .split => split first second

/-- Whether parents are put together: a coin for the rate, and if it allows it a coin for the first
parent. -/
def applies (config : CrossoverConfig) (first : Program) : Draw Bool := do
  if ← Draw.chance config.crossoverRate then first.shouldCrossover else return false

/-- A child of two parents. -/
def child (config : CrossoverConfig) (first second : Program) : Draw Program := do
  if ← applies config first then
    let statements ← combine config.kind first second
    return if statements.isEmpty then first.offspring else first.withStatements statements
  else return first.offspring

/-- The position that a number below `n - 1` stands for when position `i` is left out. -/
def skipping (i drawn : Nat) : Nat := if i ≤ drawn then drawn + 1 else drawn

/-- The position of the mate of pool member `i` of `n`; its own if it is alone. -/
def mateIndex (policy : MatePolicy) (n i : Nat) : Draw Nat :=
  if n < 2 then return i
  else match policy with
    | .adjacent => return (i + 1) % n
    | .random => do return skipping i (← Draw.below (n - 1))

/-- The children of the members `parents`, the first of which is at position `i` of the pool. -/
def childrenFrom (config : CrossoverConfig) (pool : List Program) :
    Nat → List Program → Draw (List Program)
  | _, [] => return []
  | i, parent :: rest => do
    let mate ← mateIndex config.matePolicy pool.length i
    let born ← child config parent (← Draw.memberAt pool mate)
    let others ← childrenFrom config pool (i + 1) rest
    return born :: others

/-- One child for each member of the pool. -/
def children (config : CrossoverConfig) (pool : List Program) : Draw (List Program) :=
  childrenFrom config pool 0 pool

end Crossover

end Progeny

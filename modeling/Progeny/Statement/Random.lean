import Progeny.Grammar.Generate
import Progeny.Sequence.Draw
import Progeny.Statement.Basic

/-!
# Random edits of a statement
-/

namespace Progeny.Statement

/-- A random statement of the grammar. -/
def random : Draw Statement := do return ⟨← Grammar.statement⟩

/-- A random declaration of the grammar. -/
def randomDeclaration : Draw Statement := do return ⟨← Grammar.declaration⟩

/-- Inserts a random token of the grammar at a random place. -/
def insertRandomToken (s : Statement) : Draw Statement := do
  let i ← Draw.below (s.size + 1)
  let t ← Grammar.token
  return s.insert i t

/-- Inserts `n` random tokens, one after the other. -/
def insertRandomTokens : Nat → Statement → Draw Statement
  | 0, s => return s
  | n + 1, s => do insertRandomTokens n (← s.insertRandomToken)

/-- A token of the statement. -/
def randomToken (s : Statement) : Draw (Option Token) := Draw.choose s.tokens

/-- `n` tokens of the statement, any of them any number of times. -/
def randomTokens (s : Statement) (n : Nat) : Draw (List Token) :=
  if s.isEmpty then return [] else Draw.replicate n (Draw.member s.tokens)

/-- The tokens between two random positions, the later of which is not included. -/
def randomRun (s : Statement) : Draw (List Token) := do
  match ← Sequence.position? s.tokens with
  | none => return []
  | some i =>
    let j ← Draw.below s.tokens.length
    return (s.tokens.drop (min i.val j.val)).take (max i.val j.val - min i.val j.val)

/-- Each token with probability `p`, in order. -/
def randomSubset (s : Statement) (p : Float) : Draw (List Token) := Sequence.subset s.tokens p

/-- Takes out a random token. -/
def removeRandomToken (s : Statement) : Draw (Option Token × Statement) := do
  let (removed, tokens) ← Sequence.removeRandom s.tokens
  return (removed, ⟨tokens⟩)

/-- Takes out `n` random tokens, or all of them. -/
def removeRandomTokens (s : Statement) (n : Nat) : Draw Statement := do
  return ⟨← Sequence.removeRandoms n s.tokens⟩

/-- Puts the tokens in a random order. -/
def shuffle (s : Statement) : Draw Statement := do return ⟨← Sequence.shuffle s.tokens⟩

/-- Exchanges two random tokens, which may be the same. -/
def swapRandom (s : Statement) : Draw Statement := do return ⟨← Sequence.swapRandom s.tokens⟩

/-- Exchanges two random tokens `n` times. -/
def swapRandoms : Nat → Statement → Draw Statement
  | 0, s => return s
  | n + 1, s => do swapRandoms n (← s.swapRandom)

end Progeny.Statement

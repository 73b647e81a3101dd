import Progeny.Json.Reader
import Progeny.Json.Value
import Progeny.Program.Basic

/-!
# Programs as JSON

A token is a string, a statement and a program are objects.  All fields of a program have to be
given, and its probabilities are taken as they are.
-/

namespace Progeny

open Json

namespace Token

/-- A token. -/
def read : Reader Token := do return ⟨← Reader.text⟩

/-- A token as JSON. -/
def toJson (t : Token) : Value := .text t.text

end Token

namespace Statement

/-- The parts of a statement as they are read. -/
structure Parts where
  tokens : Option (List Token) := none

/-- The fields of a statement. -/
def fields : List (FieldReader Parts) :=
  [.of "tokens" Parts.tokens (fun r ts => { r with tokens := some ts })
     fun _ => Reader.list Token.read]

/-- A statement. -/
def read (mode : Mode) : Reader Statement := do
  let parts ← Reader.record mode false fields {}
  match parts.tokens with
  | some tokens => return ⟨tokens⟩
  | none => throw .mismatched

/-- A statement as JSON. -/
def toJson (s : Statement) : Value := .object [("tokens", .listOf Token.toJson s.tokens)]

end Statement

namespace Program

/-- The parts of a program as they are read. -/
structure Parts where
  statements : Option (List Statement) := none
  score : Option Float := none
  diagnostic : Option String := none
  mutationProbability : Option Float := none
  crossoverProbability : Option Float := none

/-- The fields of a program. -/
def fields : List (FieldReader Parts) :=
  [.of "statements" Parts.statements (fun r ss => { r with statements := some ss })
     fun mode => Reader.list (Statement.read mode.inner),
   .of "score" Parts.score (fun r x => { r with score := some x }) fun _ => Reader.float,
   .of "diagnostic" Parts.diagnostic (fun r s => { r with diagnostic := some s })
     fun _ => Reader.text,
   .of "mutation_probability" Parts.mutationProbability
     (fun r x => { r with mutationProbability := some x }) fun _ => Reader.float,
   .of "crossover_probability" Parts.crossoverProbability
     (fun r x => { r with crossoverProbability := some x }) fun _ => Reader.float]

/-- The program with the given parts, if all are given. -/
def ofParts? (parts : Parts) : Option Program := do
  return ⟨← parts.statements, .ofFloat (← parts.score), ← parts.diagnostic,
    ← parts.mutationProbability, ← parts.crossoverProbability⟩

/-- A program. -/
def read (mode : Mode) : Reader Program := do
  match ofParts? (← Reader.record mode false fields {}) with
  | some p => return p
  | none => throw .mismatched

/-- A program as JSON. -/
def toJson (p : Program) : Value :=
  .object
    [("statements", .listOf Statement.toJson p.statements),
     ("score", .real p.score.value),
     ("diagnostic", .text p.diagnostic),
     ("mutation_probability", .real p.mutationProbability),
     ("crossover_probability", .real p.crossoverProbability)]

end Program

end Progeny

import Progeny.Program.Basic
import Progeny.Statement.Random

/-!
# Random programs and random edits of a program

Four of the edits need a statement to work on and fail on the empty program without a draw.
-/

namespace Progeny

/-- An edit needed a statement and the program had none. -/
inductive EditError where
  | noStatements
  deriving DecidableEq, Repr

/-- The text of the error. -/
def EditError.message : EditError → String
  | .noStatements => "program has no statements"

namespace Program

/-- The greatest number of things of `octets` octets each that there is room for. -/
def roomFor (octets : Nat) : Nat := (Nat.pow 2 63 - 1) / octets

/-- The greatest number of statements that there is room for. -/
def maxStatements : Nat := roomFor 24

/-- A program of `k` statements, the first `declared` of which are declarations. -/
def randomWith (declared k : Nat) : Draw Program := do
  let declarations ← Draw.replicate declared Statement.randomDeclaration
  let others ← Draw.replicate (k - declared) Statement.random
  return ofStatements (declarations ++ others)

/-- A program of `k` statements, of which about the first quarter are declarations.  It is refused
before a word is read if their number cannot be computed or there is no room for `k` statements. -/
def random (k : Nat) : Draw Program := do
  let declared ← Grammar.declarationCount k.toUInt64
  if maxStatements < k then throw (.tooMany k)
  else randomWith declared.toNat k

theorem random_eq (k : Nat) (source : Words) :
    random k source = match Grammar.declarationCount k.toUInt64 with
      | .error failure => .error failure
      | .ok declared =>
        if maxStatements < k then .error (.tooMany k) else randomWith declared.toNat k source := by
  unfold random
  cases Grammar.declarationCount k.toUInt64 with
  | error failure => rfl
  | ok declared =>
    change (if maxStatements < k then throw (.tooMany k)
      else randomWith declared.toNat k) source = _
    split <;> rfl

/-- A number of statements that there is room for is far from the greatest word. -/
theorem fits_of_room {k : Nat} (room : k ≤ maxStatements) :
    k.toUInt64.toNat = k ∧ k + 2 < UInt64.size := by
  have most : maxStatements + 2 < UInt64.size := by decide
  exact ⟨UInt64.toNat_ofNat_of_lt (by omega), by omega⟩

theorem random_of_room {k : Nat} (room : k ≤ maxStatements) :
    random k = randomWith (Grammar.declared k) k := by
  obtain ⟨word, fits⟩ := fits_of_room room
  funext source
  obtain ⟨count, counted, quarter⟩ :=
    Grammar.exists_declarationCount (show k.toUInt64.toNat + 2 < UInt64.size by rwa [word])
  rw [random_eq, counted]
  simp only [if_neg (Nat.not_lt.mpr room), quarter, word]

/-- Without room a program is refused, and no word is read: by the overflow of the number of its
declarations, if there is that. -/
theorem random_of_no_room {k : Nat} (crowded : maxStatements < k) (source : Words) :
    random k source =
      .error (if UInt64.size ≤ k.toUInt64.toNat + 2 then .overflow else .tooMany k) := by
  rw [random_eq]
  cases count : Grammar.declarationCount k.toUInt64 with
  | error failure =>
    obtain ⟨beyond, rfl⟩ := Grammar.declarationCount_eq_error_iff.mp count
    rw [if_pos beyond]
  | ok declared =>
    have fits := (Grammar.declarationCount_eq_ok_iff.mp count).1
    rw [if_neg (Nat.not_le.mpr fits)]
    exact if_pos crowded

/-- Inserts a random statement at a random place. -/
def insertRandomStatement (p : Program) : Draw Program := do
  let i ← Draw.below (p.size + 1)
  let s ← Statement.random
  return p.insert i s

/-- Inserts `n` random statements, one after the other. -/
def insertRandomStatements : Nat → Program → Draw Program
  | 0, p => return p
  | n + 1, p => do insertRandomStatements n (← p.insertRandomStatement)

/-- A statement of the program. -/
def randomStatement (p : Program) : Draw (Option Statement) := Draw.choose p.statements

/-- The statements of a random length from a random position on. -/
def randomRun (p : Program) : Draw (List Statement) := do
  match ← Sequence.position? p.statements with
  | none => return []
  | some start =>
    let length ← Draw.below (p.size - start.val + 1)
    return (p.statements.drop start).take length

/-- Each statement with probability `x`, in order. -/
def randomSubset (p : Program) (x : Float) : Draw (List Statement) :=
  Sequence.subset p.statements x

/-- Takes out a random statement. -/
def removeRandomStatement (p : Program) : Draw (Option Statement × Program) := do
  return p.taking (← Sequence.removeRandom p.statements)

/-- Takes out `n` random statements, or all of them. -/
def removeRandomStatements (p : Program) (n : Nat) : Draw Program := do
  let rest ← Sequence.removeRandoms n p.statements
  return { p with statements := rest }

/-- Overwrites a random place with a copy of a random statement. -/
def replaceRandomStatement (p : Program) : Draw (Except EditError Program) := do
  match ← p.randomStatement with
  | none => return .error .noStatements
  | some copy =>
    let i ← Draw.below p.size
    return .ok (p.mapStatements (·.set i copy))

/-- Inserts a copy of a random statement right after it. -/
def duplicateRandomStatement (p : Program) : Draw (Except EditError Program) := do
  match ← Sequence.position? p.statements with
  | none => return .error .noStatements
  | some i => return .ok (p.insert (i + 1) (p.statements.get i))

/-- Puts the statements in a random order. -/
def shuffle (p : Program) : Draw Program := do
  let statements ← Sequence.shuffle p.statements
  return { p with statements := statements }

/-- Moves the statements to the right by a random distance, those at the end coming round. -/
def rotate (p : Program) : Draw (Except EditError Program) := do
  match ← Sequence.position? p.statements with
  | none => return .error .noStatements
  | some distance => return .ok (p.mapStatements (Sequence.rotateRight · distance))

/-- Exchanges two random statements, which may be the same. -/
def swapRandom (p : Program) : Draw (Except EditError Program) := do
  if p.isEmpty then return .error .noStatements
  else
    let statements ← Sequence.swapRandom p.statements
    return .ok { p with statements := statements }

/-- Cuts the program at a random position into two new ones, the second of which is never empty
unless the program is. -/
def split (p : Program) : Draw (Program × Program) := do
  match ← Sequence.position? p.statements with
  | none => return (empty, empty)
  | some cut => return (ofStatements (p.statements.take cut), ofStatements (p.statements.drop cut))

/-! ### Operator probabilities -/

def setMutationProbability (p : Program) (x : Float) : Program :=
  { p with mutationProbability := Sequence.clampProbability x }

def setCrossoverProbability (p : Program) (x : Float) : Program :=
  { p with crossoverProbability := Sequence.clampProbability x }

/-- Draws the mutation probability. -/
def randomizeMutationProbability (p : Program) : Draw Program := do
  let x ← Draw.unit
  return { p with mutationProbability := x }

/-- Draws the crossover probability. -/
def randomizeCrossoverProbability (p : Program) : Draw Program := do
  let x ← Draw.unit
  return { p with crossoverProbability := x }

/-- Tosses a coin for mutation. -/
def shouldMutate (p : Program) : Draw Bool := do
  return decide ((← Draw.unit) ≤ p.mutationProbability)

/-- Tosses a coin for crossover. -/
def shouldCrossover (p : Program) : Draw Bool := do
  return decide ((← Draw.unit) ≤ p.crossoverProbability)

end Program

end Progeny

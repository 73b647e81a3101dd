import Progeny.Compiler.Basic
import Progeny.Diagnostic
import Progeny.Fitness

/-!
# Evaluation of a population

An evaluator judges one program at a time.  It may keep a memory of type `σ` from one call to the
next, so that it can answer differently about the same program; one that does not is a function of
the program.  A program that cannot be judged stays as it is.  Evaluating a population judges every
program and then sorts by score; programs with the same score keep their order.
-/

namespace Progeny

/-- Judges programs: a judged program, or the reason why there is none. -/
abbrev Evaluator (σ : Type) := Program → StateM σ (Except CompileError Program)

namespace Evaluator

/-- The evaluator that judges by a function of the program. -/
def ofFunction (judge : Program → Except CompileError Program) : Evaluator Unit :=
  fun p => return judge p

/-- Compiles the text of a program; the diagnostic is brought into its normal form and stored
together with the score that it leads to. -/
def judge (compile : Compiler) (weights : FitnessConfig) (p : Program) :
    Except CompileError Program :=
  (compile p.render).map fun raw =>
    let diagnostic := Diagnostic.normalize raw
    (p.setDiagnostic diagnostic).setScore (Fitness.score weights p diagnostic)

/-- The evaluator around a compiler. -/
def ofCompiler (compile : Compiler) (weights : FitnessConfig) : Evaluator Unit :=
  ofFunction (judge compile weights)

end Evaluator

/-- How many programs were judged, and how many could not be. -/
structure EvaluationSummary where
  evaluated : Nat
  failures : Nat
  deriving DecidableEq, Repr

namespace Population

variable {σ : Type}

/-- Judges one program, which stays as it is on failure, and counts the failure. -/
def judgeOne (evaluator : Evaluator σ) (p : Program) : StateM σ (Program × Nat) := do
  match ← evaluator p with
  | .ok judged => return (judged, 0)
  | .error _ => return (p, 1)

/-- Judges the programs in order. -/
def judgeAll (evaluator : Evaluator σ) : List Program → StateM σ (List Program × Nat)
  | [] => return ([], 0)
  | p :: rest => do
    let (judged, failed) ← judgeOne evaluator p
    let (others, failures) ← judgeAll evaluator rest
    return (judged :: others, failed + failures)

/-- Sorts by score, the best program last. -/
def ranked (population : List Program) : List Program :=
  population.mergeSort fun p q => p.score.atMost q.score

/-- Judges and sorts a population. -/
def evaluate (evaluator : Evaluator σ) (population : List Program) :
    StateM σ (List Program × EvaluationSummary) := do
  let (judged, failures) ← judgeAll evaluator population
  return (ranked judged, ⟨population.length - failures, failures⟩)

end Population

end Progeny

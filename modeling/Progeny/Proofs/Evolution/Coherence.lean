import Progeny.Proofs.Evolution.Ending
import Progeny.Proofs.Program.BaseScore

/-!
# Scores are never stale

A program is coherent with a compiler when its score and its diagnostic are what the compiler makes
of the text that it has now.  Selection copies programs with their scores and mutation changes
statements under a score, but crossover stands between them: what is mutated was never evaluated.
So every population of a run is coherent, also where an evaluation failed and where elitism brought
an old program back.
-/

namespace Progeny

/-- The score and the diagnostic of `p` belong to its text: those of a program that was never
evaluated if the compiler fails on the text, and otherwise the normal form of what it prints and the
score that this leads to. -/
def Coherent (compile : Compiler) (weights : FitnessConfig) (p : Program) : Prop :=
  match compile p.render with
  | .error _ => p.score = .zero ∧ p.diagnostic = Program.notCompiled
  | .ok raw => p.diagnostic = Diagnostic.normalize raw ∧
      p.score =
        .ofFloat (Fitness.baseScore weights p p.render - Fitness.penalty weights p.diagnostic)

variable {compile : Compiler} {weights : FitnessConfig} {config : EvolutionConfig}

/-- What the evaluator makes of a program that was never evaluated is coherent. -/
theorem coherent_of_judged {born p : Program} (unevaluated : born.Unevaluated)
    (judged : Judged (.ofCompiler compile weights) born p) : Coherent compile weights p := by
  cases judged with
  | failed answered =>
    have answer : Evaluator.judge compile weights born = .error _ := congrArg Prod.fst answered
    unfold Coherent
    unfold Evaluator.judge at answer
    cases compiled : compile born.render with
    | error e => exact ⟨unevaluated.score, unevaluated.diagnostic⟩
    | ok raw =>
      rw [compiled] at answer
      cases answer
  | ok answered =>
    have answer : Evaluator.judge compile weights born = .ok p := congrArg Prod.fst answered
    unfold Evaluator.judge at answer
    cases compiled : compile born.render with
    | error e =>
      rw [compiled] at answer
      cases answer
    | ok raw =>
      rw [compiled] at answer
      cases answer
      have sameText : ((born.setDiagnostic (Diagnostic.normalize raw)).setScore
          (Fitness.score weights born (Diagnostic.normalize raw))).render = born.render := rfl
      unfold Coherent
      rw [sameText, compiled]
      simp only [Program.setScore, Program.setDiagnostic, Fitness.score, Fitness.baseScore,
        Program.tokenCount, and_self]

theorem Batch.coherent {size : Nat} {population : List Program}
    (batch : Batch (.ofCompiler compile weights) size population) :
    ∀ p ∈ population, Coherent compile weights p := by
  intro p mem
  obtain ⟨born, unevaluated, judged⟩ := batch.judged p mem
  exact coherent_of_judged unevaluated judged

/-- In every population of a run around a compiler, and in its outcome, each program has the score
and the diagnostic of its own text. -/
theorem scores_are_current (accepted : config.validate = .ok ()) (compile : Compiler)
    (weights : FitnessConfig) (seed : UInt64) (words : Words) (elapsed : Nat → Duration) :
    (∀ g run, Run.after config (.ofCompiler compile weights) words () g = .ok run →
      ∀ p ∈ run.population, Coherent compile weights p) ∧
    ∀ outcome,
      (evolveOn config (.ofCompiler compile weights) () seed words elapsed).result = .ok outcome →
      Coherent compile weights outcome.best := by
  have allowed := EvolutionConfig.validate_eq_ok_iff.mp accepted
  have populations (g : Nat) (run : Run Unit)
      (reached : Run.after config (.ofCompiler compile weights) words () g = .ok run) :
      ∀ p ∈ run.population, Coherent compile weights p :=
    (Run.batch_after allowed reached).coherent
  refine ⟨populations, fun outcome done => ?_⟩
  obtain ⟨last, reached, best, -⟩ := exists_last_of_outcome allowed done
  exact populations _ last reached outcome.best (List.mem_of_getLast? best)

/-- A run in which one founder and then both children of the first generation could not be compiled:
the elite stands above one of these, and the best program is a child of the second generation. -/
theorem scores_are_current_lively :
    ∃ run outcome,
      Run.after .lively (.ofCompiler .picky {}) (.ofSeed 1291) () 1 = .ok run ∧
      (evolve .lively (.ofCompiler .picky {}) () 1291 fun _ => .ofSeconds 0).result = .ok outcome ∧
      outcome.generations.map (·.failures) = [1, 2, 0] ∧ outcome.bestGeneration = 2 ∧
      (∀ p ∈ run.population, Coherent .picky {} p) ∧ Coherent .picky {} outcome.best := by
  have ends : (evolve .lively (.ofCompiler .picky {}) () 1291
      fun _ => .ofSeconds 0).result.toOption.map
        (fun o => (o.generations.map (·.failures), o.bestGeneration)) = some ([1, 2, 0], 2) := by
    simp only [evolve, evolveOn, Run.start, EvolutionConfig.lively, Run.proceed, Run.advance,
      Run.brood, Run.withElite, keepElite, Population.evaluate, Population.ranked_eq_foldr]
    delta Evaluator.ofCompiler Evaluator.ofFunction Evaluator.judge Fitness.score
    simp only [Compiler.picky, Program.baseScore_render, Program.toList_render,
      Statement.toList_render]
    decide +kernel
  obtain ⟨outcome, found, facts⟩ := Option.map_eq_some_iff.mp ends
  obtain ⟨failures, bestGeneration⟩ := Prod.mk.inj facts
  have done := eq_ok_of_toOption found
  have accepted := EvolutionConfig.validate_lively
  have allowed := EvolutionConfig.validate_eq_ok_iff.mp accepted
  obtain ⟨last, reached, -⟩ := exists_last_of_outcome allowed done
  obtain ⟨run, reachedRun, -⟩ := Run.exists_earlier allowed reached (show 1 ≤ 2 by decide)
  have current := scores_are_current accepted .picky {} 1291 (.ofSeed 1291) fun _ => .ofSeconds 0
  exact ⟨run, outcome, reachedRun, done, failures, bestGeneration, current.1 1 run reachedRun,
    current.2 outcome done⟩

end Progeny

import Progeny.Proofs.Evolution.Heredity

/-!
# A closed gene pool

Only two of the edits of a mutation draw from the grammar: random statements are inserted, and
random tokens.  The others repeat, drop and exchange statements that are there, and crossover puts
together statements of the parents.  So when the two coins never fall on `true`, every statement of
a run was drawn before its first generation.
-/

namespace Progeny

/-- Every statement of `p` is a statement of one of the programs `stock`. -/
def Program.DrawsOn (p : Program) (stock : List Program) : Prop :=
  ∀ s ∈ p.statements, ∃ q ∈ stock, s ∈ q.statements

variable {σ : Type} {config : EvolutionConfig} {evaluator : Evaluator σ} {words : Words}

theorem handedDown_drawsOn (allowed : config.Allowed)
    (noStatements : (config.mutation.insertRate == 0.0) = true)
    (noTokens : (config.mutation.tokenInsertRate == 0.0) = true) (rescores : evaluator.Rescores)
    (stock : List Program) :
    HandedDown config evaluator fun _ p => p.DrawsOn stock where
  bred g population some parents := by
    refine (Run.yields_breedingOf (Crossover.yields_childOf allowed.crossoverRate)
      (Mutation.yields_mutate allowed.mutationRates) some).mono fun children bred p mem s inside => ?_
    obtain ⟨first, firstInside, second, secondInside, child, crossed, changed⟩ := bred.2 p mem
    obtain ⟨after, course, rfl⟩ := changed
    rcases crossed.inherited s (course.subset noStatements noTokens inside) with mine | theirs
    · exact parents first firstInside s mine
    · exact parents second secondInside s theirs
  kept _ _ drawn := drawn
  judged _ p q drawn judged := by
    obtain ⟨score, diagnostic, rfl⟩ := judged.rescored rescores
    exact drawn

/-- A run that reached a generation started from random programs. -/
theorem Run.exists_founders (allowed : config.Allowed) {memory : σ} {g : Nat} {run : Run σ}
    (reached : Run.after config evaluator words memory g = .ok run) :
    ∃ founders, Run.Founders config words founders := by
  obtain ⟨start, started, -⟩ := Run.exists_earlier allowed reached (Nat.zero_le g)
  obtain ⟨programs, rest, drawn, -⟩ := Run.exists_drawn_of_start started
  exact ⟨programs, rest, drawn⟩

/-- Without insertions of statements and of tokens, and with an evaluator that changes only scores
and diagnostics, all statements of all generations, and of the outcome, are statements of the random
programs that the run started from. -/
theorem statements_are_inherited (accepted : config.validate = .ok ())
    (noStatements : (config.mutation.insertRate == 0.0) = true)
    (noTokens : (config.mutation.tokenInsertRate == 0.0) = true) (rescores : evaluator.Rescores)
    (memory : σ) (seed : UInt64) (words : Words) (elapsed : Nat → Duration) :
    (∀ g run, Run.after config evaluator words memory g = .ok run →
      ∃ founders, Run.Founders config words founders ∧
        ∀ p ∈ run.population, p.DrawsOn founders) ∧
    ∀ outcome, (evolveOn config evaluator memory seed words elapsed).result = .ok outcome →
      ∃ founders, Run.Founders config words founders ∧ outcome.best.DrawsOn founders := by
  have allowed := EvolutionConfig.validate_eq_ok_iff.mp accepted
  have populations (g : Nat) (run : Run σ)
      (reached : Run.after config evaluator words memory g = .ok run) :
      ∃ founders, Run.Founders config words founders ∧
        ∀ p ∈ run.population, p.DrawsOn founders := by
    obtain ⟨founders, drawn⟩ := Run.exists_founders allowed reached
    have handed := handedDown_drawsOn allowed noStatements noTokens rescores founders
    refine ⟨founders, drawn, handed.after allowed (fun others drawn' p mem s inside => ?_) reached⟩
    rw [← drawn.unique drawn'] at mem
    exact ⟨p, mem, inside⟩
  refine ⟨populations, fun outcome done => ?_⟩
  obtain ⟨last, reached, isLast, -⟩ := exists_last_of_outcome allowed done
  obtain ⟨founders, drawn, all⟩ := populations _ last reached
  exact ⟨founders, drawn, all outcome.best (List.mem_of_getLast? isLast)⟩

/-- The settings of a run whose mutations repeat, drop and exchange statements. -/
def EvolutionConfig.recombining : EvolutionConfig where
  statementsPerProgram := 2
  generations := 2
  populationSize := 2
  mutation := { insertRate := 0.0, duplicateRate := 0.5, removeRate := 0.5, swapRate := 0.5 }

/-- The best program of this run has twice as many statements as the founders. -/
theorem statements_are_inherited_recombining :
    ∃ founders outcome, Run.Founders .recombining (.ofSeed 11) founders ∧
      (evolve .recombining .sizes () 11 fun _ => .ofSeconds 0).result = .ok outcome ∧
      outcome.best.size = 4 ∧ outcome.best.DrawsOn founders := by
  have ends : (evolve .recombining .sizes () 11 fun _ => .ofSeconds 0).result.toOption.map
      (·.best.size) = some 4 := by
    simp only [evolve, evolveOn, Run.start, EvolutionConfig.recombining, Run.proceed, Run.advance,
      Run.brood, Run.withElite, keepElite, Population.evaluate, Population.ranked_eq_foldr]
    decide +kernel
  obtain ⟨outcome, found, size⟩ := Option.map_eq_some_iff.mp ends
  have done := eq_ok_of_toOption found
  have accepted : EvolutionConfig.recombining.validate = .ok () := by decide +kernel
  obtain ⟨-, best⟩ := statements_are_inherited accepted (by decide +kernel) (by decide +kernel)
    Evaluator.rescores_sizes () 11 (.ofSeed 11) fun _ => .ofSeconds 0
  obtain ⟨founders, drawn, inherited⟩ := best outcome done
  exact ⟨founders, outcome, drawn, done, size, inherited⟩

end Progeny

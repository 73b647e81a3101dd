import Progeny.Proofs.Evolution.GenePool
import Progeny.Proofs.Grammar.Completeness

/-!
# How fast programs grow

A child has at most the statements of both parents, and a mutation adds at most one copy and fewer
fresh statements than its bound.  So with `c` for that bound, at least one, the size of a program
and `c` together at most double from one generation to the next.  No program is ever empty:
crossover then takes the statements of the first parent, and mutation does not remove the last one.
-/

namespace Progeny

variable {σ : Type} {config : EvolutionConfig} {evaluator : Evaluator σ} {words : Words}

theorem Program.Initial.size {k : Nat} {p : Program} (h : p.Initial k) : p.size = k := by
  obtain ⟨body, rfl⟩ := h
  exact body.length_statements

theorem hereditary_size_pos (allowed : config.Allowed) (rescores : evaluator.Rescores) :
    Hereditary config evaluator fun _ p => p.statements ≠ [] where
  drawn p initial := by
    have positive := allowed.statementsPerProgram_pos
    rw [← initial.size] at positive
    exact List.length_pos_iff.mp positive
  bred _ _ p parents offspring := by
    obtain ⟨first, firstInside, second, -, child, crossed, edited⟩ := offspring
    exact edited.some (crossed.some (parents first firstInside))
  kept _ _ some := some
  judged _ p q some judged := by
    obtain ⟨score, diagnostic, rfl⟩ := judged.rescored rescores
    exact some

theorem handedDown_size_le (allowed : config.Allowed) (rescores : evaluator.Rescores) {c : Nat}
    (bound : c = max config.mutation.maxInsertedStatements 1) :
    HandedDown config evaluator fun g p =>
      p.size + c ≤ 2 ^ g * (config.statementsPerProgram + c) where
  bred g population some parents := by
    refine (Run.yields_breedingOf (Crossover.yields_child allowed.crossoverRate)
      (Mutation.yields_mutate allowed.mutationRates) some).mono fun children bred p mem => ?_
    obtain ⟨first, firstInside, second, secondInside, child, crossed, changed⟩ := bred.2 p mem
    have mine := parents first firstInside
    have theirs := parents second secondInside
    have born := crossed.size_le
    have mutated := (Mutation.mutant_of_changed changed).size_le
    rw [← bound] at mutated
    rw [Nat.pow_succ', Nat.mul_assoc]
    omega
  kept g p size := by
    rw [Nat.pow_succ', Nat.mul_assoc]
    omega
  judged _ p q size judged := by
    obtain ⟨score, diagnostic, rfl⟩ := judged.rescored rescores
    exact size

/-- With an evaluator that changes only scores and diagnostics, the programs of generation `g` have
some statements, and no more than the settings allow after `g` doublings. -/
theorem size_is_bounded (accepted : config.validate = .ok ()) (rescores : evaluator.Rescores)
    (memory : σ) (words : Words) {g : Nat} {run : Run σ}
    (reached : Run.after config evaluator words memory g = .ok run) :
    let k := config.statementsPerProgram
    let c := max config.mutation.maxInsertedStatements 1
    ∀ p ∈ run.population, 1 ≤ p.size ∧ p.size ≤ 2 ^ g * (k + c) - c := by
  intro k c p mem
  have allowed := EvolutionConfig.validate_eq_ok_iff.mp accepted
  have some := (hereditary_size_pos allowed rescores).after allowed reached p mem
  have founded (founders : List Program) (drawn : Run.Founders config words founders) :
      ∀ q ∈ founders, q.size + c ≤ 2 ^ 0 * (k + c) := by
    intro q inside
    rw [(drawn.initial q inside).size, Nat.pow_zero, Nat.one_mul]
  have size := (handedDown_size_le allowed rescores rfl).after allowed founded reached p mem
  exact ⟨List.length_pos_iff.mpr some, Nat.le_sub_of_add_le size⟩

/-- The settings of a run in which every child has all statements of both parents and a copy. -/
def EvolutionConfig.doubling : EvolutionConfig where
  generations := 2
  populationSize := 2
  crossover := { crossoverRate := 1.0, kind := .interleave }
  mutation := { insertRate := 0.0, maxInsertedStatements := 0, duplicateRate := 1.0 }

/-- Two generations of this run reach the bound. -/
theorem size_is_bounded_doubling :
    ∃ run, Run.after .doubling .sizes (.ofSeed 11) () 2 = .ok run ∧
      run.population.map (·.size) = [7, 7] ∧ 2 ^ 2 * (1 + 1) - 1 = 7 ∧
      ∀ p ∈ run.population, 1 ≤ p.size ∧ p.size ≤ 2 ^ 2 * (1 + 1) - 1 := by
  have sizes : (Run.after .doubling .sizes (.ofSeed 11) () 2).toOption.map
      (fun run => run.population.map (·.size)) = some [7, 7] := by
    simp only [Run.after, Run.start, EvolutionConfig.doubling, Run.advance, Run.brood,
      Run.withElite, keepElite, Population.evaluate, Population.ranked_eq_foldr]
    decide +kernel
  obtain ⟨run, found, reachesBound⟩ := Option.map_eq_some_iff.mp sizes
  have reached := eq_ok_of_toOption found
  have accepted : EvolutionConfig.doubling.validate = .ok () := by decide +kernel
  exact ⟨run, reached, reachesBound, rfl,
    size_is_bounded accepted Evaluator.rescores_sizes () (.ofSeed 11) reached⟩

end Progeny

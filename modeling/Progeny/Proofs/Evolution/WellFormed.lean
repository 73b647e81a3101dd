import Progeny.Proofs.Evolution.Heredity
import Progeny.Proofs.Fitness
import Progeny.Proofs.Grammar.Completeness
import Progeny.Proofs.Grammar.Nesting

/-!
# Programs stay well formed

A sentence is a well-formed statement: it has tokens, all of which the grammar emits, and its
brackets nest.  Single tokens that are inserted are plain, so that they can stand anywhere; and
crossover, which may leave a child without statements, then takes those of the first parent.  So
every program of a run is well formed, as long as the evaluator does not change programs.
-/

namespace Progeny

/-- The token is drawn by itself or in a statement, from some words. -/
def Grammar.Emits (t : Token) : Prop :=
  (∃ words, Draw.Spells Grammar.token words t) ∨
    ∃ words ts, Draw.Spells Grammar.statement words ts ∧ t ∈ ts

/-- Some solid tokens of the grammar, among which the brackets nest. -/
structure Statement.WellFormed (s : Statement) : Prop where
  some : s.tokens ≠ []
  balanced : s.isBalanced = true
  solid : ∀ t ∈ s.tokens, t.Solid
  emitted : ∀ t ∈ s.tokens, Grammar.Emits t

/-- Some well-formed statements, with operator probabilities that are still those of a new
program. -/
structure Program.WellFormed (p : Program) : Prop where
  some : p.statements ≠ []
  statements : ∀ s ∈ p.statements, s.WellFormed
  mutationProbability : p.mutationProbability = 1.0
  crossoverProbability : p.crossoverProbability = 1.0

/-! ### Statements -/

theorem Grammar.Sentence.wellFormed (d : Grammar.Sentence) : Statement.WellFormed ⟨d.tokens⟩ where
  some := d.tokens_ne_nil
  balanced := d.nests.isBalanced
  solid := d.nests.solid
  emitted t mem := by
    obtain ⟨words, spells⟩ := d.reached.spelled
    exact .inr ⟨words, d.tokens, spells, mem⟩

namespace Statement

theorem WellFormed.insert {s : Statement} (h : s.WellFormed) (i : Nat) (t : Grammar.Single) :
    (s.insert i t.token).WellFormed where
  some := List.ne_nil_of_mem (Sequence.mem_insert_iff.mpr (.inl rfl))
  balanced := by rw [isBalanced_insert s i t.plain_token, h.balanced]
  solid t' mem := by
    rcases Sequence.mem_insert_iff.mp mem with rfl | old
    · exact t.plain_token.solid
    · exact h.solid t' old
  emitted t' mem := by
    rcases Sequence.mem_insert_iff.mp mem with rfl | old
    · exact .inl t.reached.spelled
    · exact h.emitted t' old

theorem Grown.wellFormed {stock : List Statement} {s : Statement} (h : Grown stock s)
    (all : ∀ t ∈ stock, t.WellFormed) : s.WellFormed := by
  induction h with
  | kept mem => exact all _ mem
  | drawn d => exact d.wellFormed
  | inserted i t _ ih => exact ih.insert i t

end Statement

/-! ### Programs -/

namespace Program

theorem Initial.wellFormed {k : Nat} {p : Program} (positive : 0 < k) (h : p.Initial k) :
    p.WellFormed := by
  obtain ⟨body, rfl⟩ := h
  refine ⟨fun none => ?_, fun s mem => ?_, rfl, rfl⟩
  · have length := body.length_statements
    change body.statements = [] at none
    rw [none] at length
    simp at length
    omega
  · rcases List.mem_append.mp mem with declared | other
    · obtain ⟨d, -, rfl⟩ := List.mem_map.mp declared
      exact (Grammar.Sentence.declaration d).wellFormed
    · obtain ⟨d, -, rfl⟩ := List.mem_map.mp other
      exact d.wellFormed

theorem ChildOf.wellFormed {first second child : Program} (h : first.ChildOf second child)
    (fine : first.WellFormed) (fine' : second.WellFormed) : child.WellFormed where
  some := h.some fine.some
  statements s mem := (h.inherited s mem).elim (fine.statements s) (fine'.statements s)
  mutationProbability := h.mutationProbability.trans fine.mutationProbability
  crossoverProbability := h.crossoverProbability.trans fine.crossoverProbability

theorem Edited.wellFormed {p q : Program} (h : p.Edited q) (fine : p.WellFormed) :
    q.WellFormed where
  some := h.some fine.some
  statements s mem := (h.grown s mem).wellFormed fine.statements
  mutationProbability := h.mutationProbability.trans fine.mutationProbability
  crossoverProbability := h.crossoverProbability.trans fine.crossoverProbability

theorem OffspringOf.wellFormed {population : List Program} {p : Program}
    (h : p.OffspringOf population) (all : ∀ q ∈ population, q.WellFormed) : p.WellFormed := by
  obtain ⟨first, firstInside, second, secondInside, child, bred, edited⟩ := h
  exact edited.wellFormed (bred.wellFormed (all first firstInside) (all second secondInside))

end Program

/-! ### Runs -/

variable {σ : Type} {config : EvolutionConfig} {evaluator : Evaluator σ}

theorem Judged.wellFormed (rescores : evaluator.Rescores) {p q : Program}
    (judged : Judged evaluator p q) (fine : p.WellFormed) : q.WellFormed := by
  obtain ⟨score, diagnostic, rfl⟩ := judged.rescored rescores
  exact ⟨fine.some, fine.statements, fine.mutationProbability, fine.crossoverProbability⟩

theorem hereditary_wellFormed (allowed : config.Allowed) (rescores : evaluator.Rescores) :
    Hereditary config evaluator fun _ => Program.WellFormed where
  drawn _ initial := initial.wellFormed allowed.statementsPerProgram_pos
  bred _ _ _ parents offspring := offspring.wellFormed parents
  kept _ _ fine := fine
  judged _ _ _ fine judged := judged.wellFormed rescores fine

/-- With an evaluator that changes only scores and diagnostics, every program that a run scores or
keeps is well formed, and so is the one of its outcome. -/
theorem programs_are_wellFormed (accepted : config.validate = .ok ())
    (rescores : evaluator.Rescores) (memory : σ) (seed : UInt64) (words : Words)
    (elapsed : Nat → Duration) :
    (∀ g run, Run.after config evaluator words memory g = .ok run →
      ∀ p ∈ run.population, p.WellFormed) ∧
    (∀ g batch, Run.scored config evaluator words memory g = .ok batch →
      ∀ p ∈ batch, p.WellFormed) ∧
    ∀ outcome, (evolveOn config evaluator memory seed words elapsed).result = .ok outcome →
      outcome.best.WellFormed := by
  have allowed := EvolutionConfig.validate_eq_ok_iff.mp accepted
  have hereditary := hereditary_wellFormed allowed rescores
  refine ⟨fun g run reached => hereditary.after allowed reached,
    fun g batch reached => hereditary.scored allowed reached, fun outcome done => ?_⟩
  obtain ⟨last, reached, best, -⟩ := exists_last_of_outcome allowed done
  exact hereditary.after allowed reached outcome.best (List.mem_of_getLast? best)

/-- In the first generation of this run the elite of two statements takes the place of a child of
one, and the best program of the second generation has four. -/
theorem programs_are_wellFormed_lively :
    ∃ run batch outcome,
      Run.after .lively .sizes (.ofSeed 388) () 1 = .ok run ∧
      Run.scored .lively .sizes (.ofSeed 388) () 1 = .ok batch ∧
      (evolve .lively .sizes () 388 fun _ => .ofSeconds 0).result = .ok outcome ∧
      batch.map (·.size) = [1, 3] ∧ run.population.map (·.size) = [2, 3] ∧
      outcome.best.size = 4 ∧ (∀ p ∈ run.population, p.WellFormed) ∧
      (∀ p ∈ batch, p.WellFormed) ∧ outcome.best.WellFormed := by
  have reaches : (Run.after .lively .sizes (.ofSeed 388) () 1).toOption.map
      (·.population.map (·.size)) = some [2, 3] := by
    simp only [Run.after, Run.start, EvolutionConfig.lively, Run.advance, Run.brood, Run.withElite,
      keepElite, Population.evaluate, Population.ranked_eq_foldr]
    decide +kernel
  have scores : (Run.scored .lively .sizes (.ofSeed 388) () 1).toOption.map
      (·.map (·.size)) = some [1, 3] := by
    simp only [Run.scored, Run.after, Run.start, EvolutionConfig.lively, Run.brood,
      Population.evaluate, Population.ranked_eq_foldr]
    decide +kernel
  have ends : (evolve .lively .sizes () 388 fun _ => .ofSeconds 0).result.toOption.map
      (·.best.size) = some 4 := by
    simp only [evolve, evolveOn, Run.start, EvolutionConfig.lively, Run.proceed, Run.advance,
      Run.brood, Run.withElite, keepElite, Population.evaluate, Population.ranked_eq_foldr]
    decide +kernel
  obtain ⟨run, foundRun, sizes⟩ := Option.map_eq_some_iff.mp reaches
  obtain ⟨batch, foundBatch, batchSizes⟩ := Option.map_eq_some_iff.mp scores
  obtain ⟨outcome, found, size⟩ := Option.map_eq_some_iff.mp ends
  have reached := eq_ok_of_toOption foundRun
  have scored := eq_ok_of_toOption foundBatch
  have done := eq_ok_of_toOption found
  obtain ⟨members, children, best⟩ := programs_are_wellFormed EvolutionConfig.validate_lively
    Evaluator.rescores_sizes () 388 (.ofSeed 388) fun _ => .ofSeconds 0
  exact ⟨run, batch, outcome, reached, scored, done, batchSizes, sizes, size,
    members 1 run reached, children 1 batch scored, best outcome done⟩

end Progeny

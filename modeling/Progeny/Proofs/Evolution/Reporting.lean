import Mathlib.Data.Nat.Find
import Progeny.Proofs.Evolution.Ending

/-!
# Runs are safe and report every generation

Whatever its words are, a run that was allowed keeps the size of its population through all phases
and has no failure of its own.  How many words it draws is not bounded in advance, since words are
refused and expressions nest as the words have it; so the statement is about all supplies of words
at once.  Either no supply is ever enough, or there is a number of words that the run needs: on
fewer it runs dry, and on as many or more it always has the same trace.  And no words that a run was
given can keep it from its end: on enough zero words after them it comes there.
-/

namespace Progeny

variable {σ : Type}

/-- Each phase of the generation after `run` leaves as many programs as the settings ask for. -/
def Run.PhasesKeepSize (config : EvolutionConfig) (evaluator : Evaluator σ) (run : Run σ) : Prop :=
  ∀ pool words,
    Selection.select run.population config.populationSize run.words = .ok (pool, words) →
    pool.length = config.populationSize ∧
  ∀ children words', Crossover.children config.crossover pool words = .ok (children, words') →
    children.length = config.populationSize ∧
  ∀ mutated words'', Mutation.mutateAll config.mutation children words' = .ok (mutated, words'') →
    mutated.length = config.populationSize ∧
    (Population.evaluate evaluator mutated run.memory).1.1.length = config.populationSize ∧
    (withElite run.population (Population.evaluate evaluator mutated run.memory).1.1).length =
      config.populationSize

/-- Generation `g` is the first of the run at whose end more than the allowed time has passed. -/
def EvolutionConfig.FirstLate (config : EvolutionConfig) (elapsed : Nat → Duration) (g : Nat) :
    Prop :=
  1 ≤ g ∧ g ≤ config.generations ∧ config.IsLate elapsed g ∧
    ∀ h, 1 ≤ h → h < g → ¬config.IsLate elapsed h

/-- What a run says about itself: it is stopped by the first late generation, having reported all
generations up to it, and otherwise has an outcome, having reported all of them. -/
structure Reports (config : EvolutionConfig) (elapsed : Nat → Duration) (trace : Trace) :
    Prop where
  stopped : ∀ g, trace.result = .error (.timeBudgetExceeded config.timeLimit g) ↔
    config.FirstLate elapsed g
  reported : ∀ g, config.FirstLate elapsed g → trace.reported.length = g
  done : (∀ g, ¬config.FirstLate elapsed g) → ∃ outcome, trace.result = .ok outcome ∧
    trace.reported.length = config.generations ∧
    outcome.generations.map (·.generation) = List.range (config.generations + 1) ∧
    trace.reported = outcome.generations.drop 1

/-- The same source with the given number of words left. -/
def Words.upTo (words : Words) (supply : Nat) : Words := { words with remaining := supply }

variable {config : EvolutionConfig} {evaluator : Evaluator σ} {memory : σ} {seed : UInt64}
  {words : Words} {elapsed : Nat → Duration}

/-! ### Sizes -/

theorem Run.phasesKeepSize (allowed : config.Allowed) {run : Run σ}
    (batch : Batch evaluator config.populationSize run.population) :
    run.PhasesKeepSize config evaluator := by
  intro pool words selected
  have some := batch.ne_nil allowed.populationSize_pos
  have fromPopulation :=
    (Selection.yields_select some config.populationSize : Draw.Yields 0 _ _).result selected
  refine ⟨fromPopulation.1, fun children words' crossed => ?_⟩
  have newborn :=
    (Crossover.yields_children allowed.crossoverRate pool : Draw.Yields 0 _ _).result crossed
  have size : children.length = config.populationSize := newborn.1.trans fromPopulation.1
  refine ⟨size, fun mutated words'' changed => ?_⟩
  have pairs :=
    (Mutation.yields_mutateAll allowed.mutationRates children : Draw.Yields 0 _ _).result changed
  have size' : mutated.length = config.populationSize := pairs.length_eq.symm.trans size
  have offspring := offspring_of_forall₂ fromPopulation.2 newborn.2 pairs
  have evaluated : Batch evaluator config.populationSize _ :=
    batch_evaluate size' (fun p mem => (offspring p mem).unevaluated) run.memory
  exact ⟨size', evaluated.length, (batch.withElite evaluated).length⟩

/-! ### Reports -/

theorem EvolutionConfig.FirstLate.unique {g h : Nat} (hg : config.FirstLate elapsed g)
    (hh : config.FirstLate elapsed h) : g = h := by
  obtain ⟨positive, -, isLate, first⟩ := hg
  obtain ⟨positive', -, isLate', first'⟩ := hh
  rcases Nat.lt_trichotomy g h with less | same | greater
  · exact absurd isLate (first' g positive less)
  · exact same
  · exact absurd isLate' (first h positive' greater)

theorem Run.Recorded.length_reported {g : Nat} {run : Run σ} (recorded : run.Recorded g) :
    run.reported.length = g := by
  rw [recorded.reported, List.length_drop, recorded.length]
  omega

/-- Every ending of a run that did not run dry is a faithful report. -/
theorem Ending.reports {trace : Trace} (allowed : config.Allowed)
    (room : config.statementsPerProgram ≤ Program.maxStatements)
    (ending : Ending config evaluator memory seed words elapsed trace)
    (ends : trace.result ≠ .error (.draw .dry)) : Reports config elapsed trace := by
  cases ending with
  | unborn failed =>
    rw [Run.after_failure allowed room failed] at ends
    exact absurd rfl ends
  | broken reached before failed =>
    rw [Run.after_failure allowed room failed] at ends
    exact absurd rfl ends
  | late reached before inTime isLate =>
    rename_i g run
    have first : config.FirstLate elapsed (g + 1) :=
      ⟨by omega, before, isLate, fun h positive less => inTime h positive (by omega)⟩
    have recorded := Run.recorded_after allowed reached
    refine ⟨fun h => ⟨fun stopped => ?_, fun late => ?_⟩, fun h late => ?_, fun none => ?_⟩
    · cases stopped
      exact first
    · rw [first.unique late]
    · rw [← first.unique late]
      exact recorded.length_reported
    · exact absurd first (none (g + 1))
  | complete reached inTime =>
    rename_i run
    have none (g : Nat) : ¬config.FirstLate elapsed g := fun late =>
      inTime g late.1 late.2.1 late.2.2.1
    have recorded := Run.recorded_after allowed reached
    obtain ⟨best, -, finished⟩ :=
      Run.finish_eq allowed.populationSize_pos (Run.batch_after allowed reached)
    refine ⟨fun h => ⟨fun stopped => ?_, fun late => ?_⟩, fun h late => ?_, fun _ => ?_⟩
    · rw [finished] at stopped
      cases stopped
    · exact absurd late (none h)
    · exact absurd late (none h)
    · exact ⟨_, finished, recorded.length_reported, recorded.numbered, recorded.reported⟩

theorem check_of_validate (accepted : config.validate = .ok ())
    (room : config.checkRoom = .ok ()) : config.check = .ok () := by
  unfold EvolutionConfig.check
  rw [accepted]
  exact room

/-- A run that was allowed keeps the size of its population in every phase.  It draws for ever, or
needs a certain number of words, and then is stopped exactly by the first late generation and
otherwise has an outcome; either way it has reported each generation once and in order.  After any
words whatever, there are further ones with which it does not draw for ever. -/
theorem run_keeps_size_and_reports (accepted : config.validate = .ok ())
    (room : config.checkRoom = .ok ()) (evaluator : Evaluator σ) (memory : σ) (seed : UInt64)
    (words : Words) (elapsed : Nat → Duration) :
    (∀ supply g run, Run.after config evaluator (words.upTo supply) memory g = .ok run →
      run.population.length = config.populationSize ∧ run.PhasesKeepSize config evaluator) ∧
    ((∀ supply, (evolveOn config evaluator memory seed (words.upTo supply) elapsed).result =
        .error (.draw .dry)) ∨
      ∃ needed trace, Reports config elapsed trace ∧ ∀ supply,
        if needed ≤ supply then
          evolveOn config evaluator memory seed (words.upTo supply) elapsed = trace
        else (evolveOn config evaluator memory seed (words.upTo supply) elapsed).result =
          .error (.draw .dry)) ∧
    ∀ first, ∃ supply, Reports config elapsed
      (evolveOn config evaluator memory seed (.thenZeros first supply) elapsed) := by
  have allowed := EvolutionConfig.validate_eq_ok_iff.mp accepted
  have checked := check_of_validate accepted room
  have fits := EvolutionConfig.room_of_check checked
  refine ⟨fun supply g run reached => ?_, ?_, fun first => ?_⟩
  · have batch := Run.batch_after allowed reached
    exact ⟨batch.length, Run.phasesKeepSize allowed batch⟩
  · by_cases enough : ∃ supply,
        (evolveOn config evaluator memory seed (words.upTo supply) elapsed).result ≠
          .error (.draw .dry)
    · -- the least supply that is enough
      classical
      right
      have ends := Nat.find_spec enough
      refine ⟨Nat.find enough, _, (ending_evolveOn checked).reports allowed fits ends,
        fun supply => ?_⟩
      split
      · rename_i atLeast
        obtain ⟨more, rfl⟩ := Nat.exists_eq_add_of_le atLeast
        exact evolveOn_plus allowed ends more
      · rename_i fewer
        exact not_not.mp (Nat.find_min enough (Nat.not_le.mp fewer))
    · left
      intro supply
      by_contra ends
      exact enough ⟨supply, ends⟩
  · obtain ⟨supply, ends⟩ := evolveOn_ends allowed checked first
    exact ⟨supply, (ending_evolveOn checked).reports allowed fits ends⟩

/-- A run that needs 122 words, in which the best program grows by a statement in each
generation. -/
theorem run_reports_lively :
    ∃ trace, Reports .lively (fun _ => .ofSeconds 0) trace ∧
      trace.reported.map (·.scores.best) = [3.0, 4.0] ∧ ∀ supply,
        if 122 ≤ supply then
          evolveOn .lively .sizes () 388 ((Words.ofSeed 388).upTo supply) (fun _ => .ofSeconds 0) =
            trace
        else
          (evolveOn .lively .sizes () 388 ((Words.ofSeed 388).upTo supply)
            fun _ => .ofSeconds 0).result = .error (.draw .dry) := by
  have enough : (evolveOn .lively .sizes () 388 ((Words.ofSeed 388).upTo 122)
      fun _ => .ofSeconds 0).reported.map (·.scores.best) = [3.0, 4.0] ∧
      (evolveOn .lively .sizes () 388 ((Words.ofSeed 388).upTo 122)
        fun _ => .ofSeconds 0).result.toOption.isSome = true := by
    simp only [evolveOn, Run.start, EvolutionConfig.lively, Run.proceed, Run.advance, Run.brood,
      Run.withElite, keepElite, Population.evaluate, Population.ranked_eq_foldr]
    decide +kernel
  have few : (evolveOn .lively .sizes () 388 ((Words.ofSeed 388).upTo 121)
      fun _ => .ofSeconds 0).result.toOption.isSome = false := by
    simp only [evolveOn, Run.start, EvolutionConfig.lively, Run.proceed, Run.advance, Run.brood,
      Run.withElite, keepElite, Population.evaluate, Population.ranked_eq_foldr]
    decide +kernel
  obtain ⟨bests, ended⟩ := enough
  obtain ⟨-, runs, -⟩ := run_keeps_size_and_reports EvolutionConfig.validate_lively
    (by decide +kernel) .sizes () 388 (.ofSeed 388) fun _ => .ofSeconds 0
  obtain ⟨needed, trace, reports, runs⟩ := runs.resolve_left fun dry => by
    rw [dry 122] at ended
    cases ended
  have atMost : needed ≤ 122 := by
    by_contra fewer
    have dry := runs 122
    rw [if_neg fewer] at dry
    rw [dry] at ended
    cases ended
  have atLeast : ¬needed ≤ 121 := fun less => by
    obtain ⟨outcome, done, -⟩ := reports.done fun g late => Nat.not_lt_zero _ late.2.2.1
    have same := runs 121
    rw [if_pos less] at same
    rw [same, done] at few
    cases few
  obtain rfl : needed = 122 := by omega
  have same := runs 122
  rw [if_pos (Nat.le_refl _)] at same
  rw [same] at bests
  exact ⟨trace, reports, bests, runs⟩

end Progeny

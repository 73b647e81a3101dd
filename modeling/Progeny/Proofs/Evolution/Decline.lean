import Progeny.Proofs.Evolution.Elite
import Progeny.Proofs.Evolution.Ending

/-!
# When the best score declines

The best score of a generation skips scores that are not numbers, but the sort and elitism do not:
a positive one comes last and so is the elite, a negative one comes first and so is the worst child,
and neither can be compared.  Then elitism does nothing, and the best number of the generation
before is lost unless a child has one as great.  In all other cases the best score is kept.
-/

namespace Progeny

variable {σ : Type} {config : EvolutionConfig} {evaluator : Evaluator σ} {words : Words}
  {memory : σ} {seed : UInt64} {elapsed : Nat → Duration} {size : Nat}

/-- One step: when the best score after elitism is not at least that of the population before. -/
theorem Batch.best_withElite_lt_iff {population children : List Program} {elite worst : Program}
    (before : Batch evaluator size population) (isElite : population.getLast? = some elite)
    (isWorst : children.head? = some worst) :
    ¬(ScoreSummary.ofPopulation (Run.withElite population children)).best ≥
        (ScoreSummary.ofPopulation population).best ↔
      (elite.score.value.isNaN = true ∨ worst.score.value.isNaN = true) ∧
        ¬(ScoreSummary.ofPopulation children).best ≥
          (ScoreSummary.ofPopulation population).best := by
  by_cases nan : elite.score.value.isNaN = true ∨ worst.score.value.isNaN = true
  · rw [withElite_of_nan isElite isWorst nan]
    exact (and_iff_right nan).symm
  · have number : elite.score.value.isNaN = false := by
      simpa using fun h => nan (.inl h)
    have numberWorst : worst.score.value.isNaN = false := by
      simpa using fun h => nan (.inr h)
    have kept := Double.le_trans (before.best_le_last isElite number)
      (elite_le_best isElite isWorst number numberWorst)
    exact iff_of_false (not_not_intro kept) fun h => nan h.1

/-- In a run with an outcome, the best score of a generation is below that of the generation before
exactly if the elite or the worst child has no number for a score and no child is as good as the
best score was. -/
theorem best_declines_iff (accepted : config.validate = .ok ()) {outcome : Outcome}
    (done : (evolveOn config evaluator memory seed words elapsed).result = .ok outcome) {g : Nat}
    (consecutive : g < config.generations) :
    ∃ run brood elite worst earlier later,
      Run.after config evaluator words memory g = .ok run ∧
      run.population.getLast? = some elite ∧
      run.brood config evaluator = .ok brood ∧
      brood.members.head? = some worst ∧
      outcome.generations[g]? = some earlier ∧
      outcome.generations[g + 1]? = some later ∧
      (¬later.scores.best ≥ earlier.scores.best ↔
        (elite.score.value.isNaN = true ∨ worst.score.value.isNaN = true) ∧
          ¬(ScoreSummary.ofPopulation brood.members).best ≥ earlier.scores.best) := by
  have allowed := EvolutionConfig.validate_eq_ok_iff.mp accepted
  have positive := allowed.populationSize_pos
  obtain ⟨last, reachedLast, -, history, -⟩ := exists_last_of_outcome allowed done
  obtain ⟨next, reachedNext, -⟩ := Run.exists_earlier allowed reachedLast consecutive
  obtain ⟨run, reached, advanced⟩ := Run.exists_of_after_succ reachedNext
  have before := Run.batch_after allowed reached
  obtain ⟨brood, hatched, batch, rfl, -⟩ := Run.exists_brood_of_advance allowed before advanced
  have isElite := List.getLast?_eq_some_getLast (before.ne_nil positive)
  have isWorst := List.head?_eq_some_head (batch.ne_nil positive)
  obtain ⟨earlier, atEarlier, earlierScores⟩ := Option.map_eq_some_iff.mp
    (Run.history_scores allowed reachedLast (Nat.le_of_lt consecutive) reached)
  obtain ⟨later, atLater, laterScores⟩ := Option.map_eq_some_iff.mp
    (Run.history_scores allowed reachedLast consecutive reachedNext)
  have step := before.best_withElite_lt_iff isElite isWorst
  refine ⟨run, brood, _, _, earlier, later, reached, isElite, hatched, isWorst, ?_, ?_, ?_⟩
  · rw [history]
    exact atEarlier
  · rw [history]
    exact atLater
  · rw [earlierScores, laterScores]
    exact step

/-- Scores a program by the number of its tokens; if that is odd, the score is not a number. -/
def Evaluator.evenTokens : Evaluator Unit :=
  .ofFunction fun p => .ok (p.setScore (if p.tokenCount % 2 = 1 then .nan else .ofNat p.tokenCount))

/-- Two programs, of which the one with the score 8 is not the elite. -/
theorem bests_of_pair :
    (evolve { EvolutionConfig.smallest with populationSize := 2 } .evenTokens () 4
      fun _ => .ofSeconds 0).result.toOption.map (fun o => o.generations.map (·.scores.best)) =
        some [8.0, -1.0 / 0.0] := by
  simp only [evolve, evolveOn, Run.start, EvolutionConfig.smallest, Run.proceed, Run.advance,
    Run.brood, Run.withElite, keepElite, Population.evaluate, Population.ranked_eq_foldr]
  decide +kernel

theorem best_falls_past_nan :
    ({ EvolutionConfig.smallest with populationSize := 2 }).validate = .ok () ∧
    ∃ outcome earlier later,
      (evolve { EvolutionConfig.smallest with populationSize := 2 } .evenTokens () 4
        fun _ => .ofSeconds 0).result = .ok outcome ∧
      outcome.generations[0]? = some earlier ∧ outcome.generations[1]? = some later ∧
      ¬later.scores.best ≥ earlier.scores.best := by
  refine ⟨by decide +kernel, ?_⟩
  obtain ⟨outcome, found, bests⟩ := Option.map_eq_some_iff.mp bests_of_pair
  obtain ⟨earlier, rest, generations, first, others⟩ := List.map_eq_cons_iff.mp bests
  obtain ⟨later, none, rfl, second, -⟩ := List.map_eq_cons_iff.mp others
  refine ⟨outcome, earlier, later, eq_ok_of_toOption found, ?_, ?_, ?_⟩
  · rw [generations]
    rfl
  · rw [generations]
    rfl
  · rw [first, second]
    decide +kernel

theorem best_declines_of_pair :
    ∃ run brood elite worst,
      Run.after { EvolutionConfig.smallest with populationSize := 2 } .evenTokens (.ofSeed 4) () 0 =
        .ok run ∧
      run.population.getLast? = some elite ∧
      run.brood { EvolutionConfig.smallest with populationSize := 2 } .evenTokens = .ok brood ∧
      brood.members.head? = some worst ∧
      (elite.score.value.isNaN = true ∨ worst.score.value.isNaN = true) ∧
      ¬(ScoreSummary.ofPopulation brood.members).best ≥ 8.0 := by
  obtain ⟨outcome, found, bests⟩ := Option.map_eq_some_iff.mp bests_of_pair
  obtain ⟨run, brood, elite, worst, earlier, later, reached, isElite, hatched, isWorst, atEarlier,
    atLater, declines⟩ := best_declines_iff (g := 0) (by decide +kernel) (eq_ok_of_toOption found)
      (by decide)
  have first : earlier.scores.best = 8.0 := by
    have same := congrArg (·[0]?) bests
    simpa [atEarlier] using same
  have second : later.scores.best = -1.0 / 0.0 := by
    have same := congrArg (·[1]?) bests
    simpa [atLater] using same
  rw [first, second] at declines
  obtain ⟨nan, lost⟩ := declines.mp (by decide +kernel)
  exact ⟨run, brood, elite, worst, reached, isElite, hatched, isWorst, nan, lost⟩

end Progeny

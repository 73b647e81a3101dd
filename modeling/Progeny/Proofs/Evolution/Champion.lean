import Progeny.Proofs.Evolution.Elite
import Progeny.Proofs.Evolution.Ending

/-!
# The champion of a run

Where no score is anything but a number, ranks and values agree: the last program of a population is
its best, and elitism passes it on unless some child is at least as good.  So nothing that was ever
scored, the children that the elite replaced included, exceeds the last program of the current
population, and neither does any best score of the history.
-/

namespace Progeny

variable {σ : Type}

/-- The evaluator leaves no score that is not a number. -/
def Evaluator.LeavesNumbers (evaluator : Evaluator σ) : Prop :=
  ∀ p before q after, evaluator p before = (.ok q, after) → q.score.value.isNaN = false

/-- The programs of a generation as they were scored, before elitism. -/
def Run.scored (config : EvolutionConfig) (evaluator : Evaluator σ) (words : Words) (memory : σ) :
    Nat → Except EvolutionError (List Program)
  | 0 => do return (← start config evaluator words memory).population
  | g + 1 => do
    let run ← after config evaluator words memory g
    return (← run.brood config evaluator).members

variable {config : EvolutionConfig} {evaluator : Evaluator σ} {words : Words} {memory : σ}
  {seed : UInt64} {elapsed : Nat → Duration} {size : Nat} {population children : List Program}

/-! ### Batches of numbers -/

theorem Batch.isNaN_value (batch : Batch evaluator size population)
    (numbers : evaluator.LeavesNumbers) : ∀ p ∈ population, p.score.value.isNaN = false := by
  intro p mem
  obtain ⟨born, unevaluated, judged⟩ := batch.judged p mem
  cases judged with
  | failed answered =>
    rw [unevaluated.score]
    decide
  | ok answered => exact numbers _ _ _ _ answered

theorem Batch.value_le_last (batch : Batch evaluator size population)
    (numbers : evaluator.LeavesNumbers) {last : Program}
    (isLast : population.getLast? = some last) :
    ∀ p ∈ population, p.score.value ≤ last.score.value := by
  intro p mem
  exact Score.value_le_of_rank_le (batch.isNaN_value numbers p mem)
    (batch.isNaN_value numbers last (List.mem_of_getLast? isLast)) (batch.rank_le_last isLast p mem)

/-- The best score of a batch is the value of its last program. -/
theorem Batch.best_beq_last (batch : Batch evaluator size population)
    (numbers : evaluator.LeavesNumbers) {last : Program}
    (isLast : population.getLast? = some last) :
    (last.score.value == (ScoreSummary.ofPopulation population).best) = true := by
  have mem := List.mem_of_getLast? isLast
  have number := batch.isNaN_value numbers last mem
  exact Double.beq_iff_le.mpr ⟨le_best_of_mem mem number, batch.best_le_last isLast number⟩

/-- The last program after elitism is at least as good as the elite and as all children, that in
whose place the elite came included. -/
theorem Batch.le_last_withElite (before : Batch evaluator size population)
    (batch : Batch evaluator size children) (positive : 0 < size)
    (numbers : evaluator.LeavesNumbers) {elite last : Program}
    (isElite : population.getLast? = some elite)
    (isLast : (Run.withElite population children).getLast? = some last) :
    elite.score.value ≤ last.score.value ∧ ∀ p ∈ children, p.score.value ≤ last.score.value := by
  have mixed := before.withElite batch
  obtain ⟨worst, rest, rfl⟩ := List.exists_cons_of_ne_nil (batch.ne_nil positive)
  have number := before.isNaN_value numbers elite (List.mem_of_getLast? isElite)
  have numberWorst := batch.isNaN_value numbers worst List.mem_cons_self
  have eliteBelow : elite.score.value ≤ last.score.value :=
    Double.le_trans (elite_le_best isElite rfl number numberWorst)
      (Double.beq_iff_le.mp (mixed.best_beq_last numbers isLast)).2
  refine ⟨eliteBelow, fun p mem => ?_⟩
  have below := mixed.value_le_last numbers isLast
  rw [Run.withElite_eq isElite] at below
  obtain ⟨kept, -⟩ | ⟨other, others, same, beaten, replaced⟩ :=
    keepElite_cases (worst :: rest) elite
  · rw [kept] at below
    exact below p mem
  · cases same
    rcases List.mem_cons.mp mem with rfl | later
    · exact Double.le_trans (Double.le_of_lt (Score.beats_iff.mp beaten)) eliteBelow
    · rw [replaced] at below
      have perm := Population.ranked_perm (elite :: rest)
      exact below p (perm.mem_iff.mpr (List.mem_cons_of_mem _ later))

/-! ### Along a run -/

namespace Run

theorem scored_zero {run : Run σ} (reached : after config evaluator words memory 0 = .ok run) :
    scored config evaluator words memory 0 = .ok run.population := by
  rw [after] at reached
  rw [scored, reached]
  rfl

theorem scored_succ {g : Nat} {run : Run σ} {brood : Brood σ}
    (reached : after config evaluator words memory g = .ok run)
    (hatched : run.brood config evaluator = .ok brood) :
    scored config evaluator words memory (g + 1) = .ok brood.members := by
  rw [scored, reached]
  change (run.brood config evaluator >>= fun brood => pure brood.members) = _
  rw [hatched]
  rfl

/-- Nothing that the run scored so far, and no best score of its history, exceeds `best`. -/
structure Tops (config : EvolutionConfig) (evaluator : Evaluator σ) (words : Words) (memory : σ)
    (g : Nat) (run : Run σ) (best : Float) : Prop where
  scored : ∀ i ≤ g, ∃ batch, Run.scored config evaluator words memory i = .ok batch ∧
    ∀ p ∈ batch, p.score.value ≤ best
  history : ∀ stats ∈ run.history, stats.scores.best ≤ best

theorem tops_after (allowed : config.Allowed) (numbers : evaluator.LeavesNumbers) {g : Nat}
    {run : Run σ} (reached : after config evaluator words memory g = .ok run) :
    ∀ last, run.population.getLast? = some last →
      Tops config evaluator words memory g run last.score.value := by
  refine after_induction allowed
    (motive := fun g run => ∀ last, run.population.getLast? = some last →
      Tops config evaluator words memory g run last.score.value) ?_ ?_ reached
  · intro programs rest reached last isLast
    have batch := batch_after allowed reached
    refine ⟨fun i earlier => ?_, fun stats mem => ?_⟩
    · obtain rfl : i = 0 := by omega
      exact ⟨_, scored_zero reached, batch.value_le_last numbers isLast⟩
    · cases List.mem_singleton.mp mem
      exact (Double.beq_iff_le.mp (batch.best_beq_last numbers isLast)).2
  · intro g run brood reached ih hatched batch last isLast
    have before := batch_after allowed reached
    have positive := allowed.populationSize_pos
    have isElite := List.getLast?_eq_some_getLast (before.ne_nil positive)
    have earlierTops := ih _ isElite
    have mixed := before.withElite batch
    obtain ⟨eliteBelow, childrenBelow⟩ :=
      before.le_last_withElite batch positive numbers isElite isLast
    refine ⟨fun i earlier => ?_, fun stats mem => ?_⟩
    · rcases Nat.lt_or_eq_of_le earlier with past | rfl
      · obtain ⟨old, scoredOld, below⟩ := earlierTops.scored i (by omega)
        exact ⟨old, scoredOld, fun p mem => Double.le_trans (below p mem) eliteBelow⟩
      · exact ⟨_, scored_succ reached hatched, childrenBelow⟩
    · rcases List.mem_append.mp mem with old | new
      · exact Double.le_trans (earlierTops.history stats old) eliteBelow
      · cases List.mem_singleton.mp new
        exact (Double.beq_iff_le.mp (mixed.best_beq_last numbers isLast)).2

end Run

/-- The outcome of a run names its champion. -/
structure Champion (config : EvolutionConfig) (evaluator : Evaluator σ) (words : Words) (memory : σ)
    (outcome : Outcome) : Prop where
  /-- No program exceeds it in any batch that was scored. -/
  greatest : ∀ g ≤ config.generations, ∃ batch,
    Run.scored config evaluator words memory g = .ok batch ∧
      ∀ p ∈ batch, outcome.best.score.value ≥ p.score.value
  /-- Its score is the best one of the last generation. -/
  last : ∃ stats, outcome.generations.getLast? = some stats ∧
    (outcome.best.score.value == stats.scores.best) = true
  /-- Its score is the best one of the whole run. -/
  overall : (outcome.best.score.value == outcome.bestScore) = true
  /-- The best generation reached that score. -/
  reached : ∃ stats, outcome.generations[outcome.bestGeneration]? = some stats ∧
    (stats.scores.best == outcome.bestScore) = true
  /-- No generation before did. -/
  earliest : ∀ g < outcome.bestGeneration, ∀ stats, outcome.generations[g]? = some stats →
    (stats.scores.best == outcome.bestScore) = false

/-- With an evaluator that leaves only numbers, an outcome names the champion of the whole run. -/
theorem best_is_champion (accepted : config.validate = .ok ()) (numbers : evaluator.LeavesNumbers)
    {outcome : Outcome}
    (done : (evolveOn config evaluator memory seed words elapsed).result = .ok outcome) :
    Champion config evaluator words memory outcome := by
  have allowed := EvolutionConfig.validate_eq_ok_iff.mp accepted
  obtain ⟨last, reached, isBest, history, score, generation⟩ := exists_last_of_outcome allowed done
  have batch := Run.batch_after allowed reached
  have recorded := Run.recorded_after allowed reached
  have leads := Run.leads_after allowed reached
  have tops := Run.tops_after allowed numbers reached outcome.best isBest
  obtain ⟨latest, atLast, latestScores⟩ := Option.map_eq_some_iff.mp recorded.latest
  obtain ⟨leader, atLeader, leaderScore⟩ := Option.map_eq_some_iff.mp leads.reached
  have sameAsLatest : (outcome.best.score.value == latest.scores.best) = true := by
    rw [latestScores]
    exact batch.best_beq_last numbers isBest
  have leaderNumber := recorded.numbers leader (List.mem_of_getElem? atLeader)
  constructor
  · exact tops.scored
  · refine ⟨latest, ?_, sameAsLatest⟩
    rw [history, List.getLast?_eq_getElem?, recorded.length]
    exact atLast
  · rw [score]
    refine Double.beq_iff_le.mpr ⟨?_, ?_⟩
    · exact Double.le_trans (Double.beq_iff_le.mp sameAsLatest).1
        (leads.most latest (List.mem_of_getElem? atLast))
    · rw [← leaderScore]
      exact tops.history leader (List.mem_of_getElem? atLeader)
  · refine ⟨leader, ?_, ?_⟩
    · rw [history, generation]
      exact atLeader
    · rw [score, ← leaderScore]
      exact Double.beq_iff_le.mpr ⟨Double.le_refl leaderNumber, Double.le_refl leaderNumber⟩
  · intro g before stats atPosition
    rw [generation] at before
    rw [history] at atPosition
    rw [score]
    have less := leads.first g before stats atPosition
    refine Bool.eq_false_iff.mpr fun same => ?_
    exact Double.not_lt_of_le (Double.beq_iff_le.mp same).2 less

/-- Scores a program by what is left of its number of tokens after fives are taken away. -/
def Evaluator.modFive : Evaluator Unit :=
  .ofFunction fun p => .ok (p.setScore (.ofNat (p.tokenCount % 5)))

theorem Evaluator.leavesNumbers_modFive : Evaluator.modFive.LeavesNumbers := by
  intro p before q after answered
  have answer : Except.ok (p.setScore (.ofNat (p.tokenCount % 5))) = .ok q :=
    congrArg Prod.fst answered
  cases answer
  have numbers : ∀ rest < 5, (Score.ofNat rest).value.isNaN = false := by decide +kernel
  exact numbers _ (Nat.mod_lt _ (by decide))

/-- A run whose best program is found in the first generation and stays as the elite of the
second. -/
theorem best_is_champion_lively :
    ∃ outcome, (evolve .lively .modFive () 350 fun _ => .ofSeconds 0).result = .ok outcome ∧
      outcome.generations.map (·.scores.best) = [3.0, 4.0, 4.0] ∧ outcome.bestGeneration = 1 ∧
      Champion .lively .modFive (.ofSeed 350) () outcome := by
  have ends : (evolve .lively .modFive () 350 fun _ => .ofSeconds 0).result.toOption.map
      (fun o => (o.generations.map (·.scores.best), o.bestGeneration)) =
        some ([3.0, 4.0, 4.0], 1) := by
    simp only [evolve, evolveOn, Run.start, EvolutionConfig.lively, Run.proceed, Run.advance,
      Run.brood, Run.withElite, keepElite, Population.evaluate, Population.ranked_eq_foldr]
    decide +kernel
  obtain ⟨outcome, found, facts⟩ := Option.map_eq_some_iff.mp ends
  obtain ⟨bests, bestGeneration⟩ := Prod.mk.inj facts
  have done := eq_ok_of_toOption found
  exact ⟨outcome, done, bests, bestGeneration, best_is_champion EvolutionConfig.validate_lively
    Evaluator.leavesNumbers_modFive done⟩

end Progeny

import Progeny.Proofs.Evolution.Generation
import Progeny.Proofs.Score

/-!
# The course of a run

`Run.after` is the state at the end of each generation, whatever the clock shows.  What holds of the
first state and is kept by a generation holds of all of them: the population is a batch, the history
has one entry for each generation, and the best score so far is the first greatest one of the
history.  A generation only adds to what was recorded before it.
-/

namespace Progeny

namespace Run

variable {σ : Type} {config : EvolutionConfig} {evaluator : Evaluator σ} {words : Words}
  {memory : σ}

/-- The state at the end of a generation. -/
def after (config : EvolutionConfig) (evaluator : Evaluator σ) (words : Words) (memory : σ) :
    Nat → Except EvolutionError (Run σ)
  | 0 => start config evaluator words memory
  | g + 1 => do (← after config evaluator words memory g).advance config evaluator (g + 1)

theorem after_succ {g : Nat} {run : Run σ}
    (reached : after config evaluator words memory g = .ok run) :
    after config evaluator words memory (g + 1) = run.advance config evaluator (g + 1) := by
  rw [after, reached]
  rfl

theorem exists_of_after_succ {g : Nat} {next : Run σ}
    (reached : after config evaluator words memory (g + 1) = .ok next) :
    ∃ run, after config evaluator words memory g = .ok run ∧
      run.advance config evaluator (g + 1) = .ok next := by
  cases before : after config evaluator words memory g with
  | error e => simp [after, before, bind, Except.bind] at reached
  | ok run =>
    rw [after_succ before] at reached
    exact ⟨run, rfl, reached⟩

/-! ### What holds of every state -/

theorem batch_after (allowed : config.Allowed) {g : Nat} {run : Run σ}
    (reached : after config evaluator words memory g = .ok run) :
    Batch evaluator config.populationSize run.population := by
  induction g generalizing run with
  | zero =>
    obtain ⟨failure, failed, -⟩ | ⟨programs, rest, batch, started, -⟩ :=
      start_cases config evaluator words memory
    · rw [after, failed] at reached
      cases reached
    · rw [after, started] at reached
      cases reached
      exact batch
  | succ g ih =>
    obtain ⟨before, reachedBefore, advanced⟩ := exists_of_after_succ reached
    obtain ⟨brood, -, batch, rfl, -⟩ := exists_brood_of_advance allowed (ih reachedBefore) advanced
    exact (ih reachedBefore).withElite batch

/-- What holds of the first state and is kept from each state to the one that follows. -/
theorem after_induction (allowed : config.Allowed) {motive : Nat → Run σ → Prop}
    (initial : ∀ programs rest,
      after config evaluator words memory 0 = .ok (first evaluator programs rest memory) →
      motive 0 (first evaluator programs rest memory))
    (step : ∀ g run brood, after config evaluator words memory g = .ok run → motive g run →
      run.brood config evaluator = .ok brood →
      Batch evaluator config.populationSize brood.members →
      motive (g + 1) (run.follow (g + 1) brood))
    {g : Nat} {run : Run σ} (reached : after config evaluator words memory g = .ok run) :
    motive g run := by
  induction g generalizing run with
  | zero =>
    obtain ⟨failure, failed, -⟩ | ⟨programs, rest, -, started, -⟩ :=
      start_cases config evaluator words memory
    · rw [after, failed] at reached
      cases reached
    · rw [after, started] at reached
      cases reached
      exact initial programs rest started
  | succ g ih =>
    obtain ⟨before, reachedBefore, advanced⟩ := exists_of_after_succ reached
    obtain ⟨brood, hatched, batch, rfl, -⟩ :=
      exists_brood_of_advance allowed (batch_after allowed reachedBefore) advanced
    exact step g before brood reachedBefore (ih reachedBefore) hatched batch

/-- A state that was not reached: the words ran dry. -/
theorem after_failure (allowed : config.Allowed)
    (room : config.statementsPerProgram ≤ Program.maxStatements) {g : Nat} {e : EvolutionError}
    (failed : after config evaluator words memory g = .error e) : e = .draw .dry := by
  induction g with
  | zero =>
    obtain ⟨failure, refused, dry⟩ | ⟨programs, rest, -, started, -⟩ :=
      start_cases config evaluator words memory
    · rw [after, refused] at failed
      cases failed
      rw [dry room]
    · rw [after, started] at failed
      cases failed
  | succ g ih =>
    cases before : after config evaluator words memory g with
    | error e' =>
      rw [after, before] at failed
      cases failed
      exact ih before
    | ok run =>
      rw [after_succ before] at failed
      exact advance_failure allowed (batch_after allowed before) failed

/-! ### The history -/

/-- The history of a state at the end of generation `g`. -/
structure Recorded (g : Nat) (run : Run σ) : Prop where
  numbered : run.history.map (·.generation) = List.range (g + 1)
  reported : run.reported = run.history.drop 1
  latest : run.history[g]?.map (·.scores) = some (.ofPopulation run.population)
  numbers : ∀ stats ∈ run.history, stats.scores.best.isNaN = false

theorem Recorded.length {g : Nat} {run : Run σ} (recorded : run.Recorded g) :
    run.history.length = g + 1 := by
  simpa using congrArg List.length recorded.numbered

theorem Recorded.follow {g : Nat} {run : Run σ} (recorded : run.Recorded g) (brood : Brood σ) :
    (run.follow (g + 1) brood).Recorded (g + 1) where
  numbered := by
    simp [Run.follow, record, recorded.numbered, List.range_succ]
  reported := by
    have positive : 1 ≤ run.history.length := by
      rw [recorded.length]
      omega
    simp [Run.follow, record, recorded.reported, List.drop_append_of_le_length positive]
  latest := by
    simp [Run.follow, record, ← recorded.length]
  numbers := by
    intro stats mem
    rcases List.mem_append.mp mem with old | new
    · exact recorded.numbers stats old
    · cases List.mem_singleton.mp new
      exact ScoreSummary.isNaN_best _

theorem recorded_after (allowed : config.Allowed) {g : Nat} {run : Run σ}
    (reached : after config evaluator words memory g = .ok run) : run.Recorded g := by
  refine after_induction allowed (motive := fun g run => run.Recorded g) ?_ ?_ reached
  · intro programs rest _
    refine ⟨rfl, rfl, rfl, fun stats mem => ?_⟩
    cases List.mem_singleton.mp mem
    exact ScoreSummary.isNaN_best _
  · intro g run brood _ recorded _ _
    exact recorded.follow brood

/-! ### Going on -/

/-- The state that follows has a new best generation, or keeps the one that it had. -/
theorem follow_best_cases (g : Nat) (run : Run σ) (brood : Brood σ) :
    let best := (ScoreSummary.ofPopulation (withElite run.population brood.members)).best
    (run.bestScore < best ∧ (run.follow g brood).bestScore = best ∧
        (run.follow g brood).bestGeneration = g) ∨
      ¬run.bestScore < best ∧ (run.follow g brood).bestScore = run.bestScore ∧
        (run.follow g brood).bestGeneration = run.bestGeneration := by
  intro best
  by_cases better : run.bestScore < best
  · left
    refine ⟨better, ?_, ?_⟩
    · change (if decide (run.bestScore < best) = true then best else run.bestScore) = best
      rw [if_pos (decide_eq_true better)]
    · change (if decide (run.bestScore < best) = true then g else run.bestGeneration) = g
      rw [if_pos (decide_eq_true better)]
  · right
    refine ⟨better, ?_, ?_⟩
    · change (if decide (run.bestScore < best) = true then best else run.bestScore) = _
      rw [if_neg (by simpa using better)]
    · change (if decide (run.bestScore < best) = true then g else run.bestGeneration) = _
      rw [if_neg (by simpa using better)]

/-- What was recorded in a state is kept in a later one, and so is the best generation, unless a
greater score was reached. -/
structure Continues (later run : Run σ) : Prop where
  history : run.history <+: later.history
  reported : run.reported <+: later.reported
  best : run.bestScore < later.bestScore ∨
    later.bestScore = run.bestScore ∧ later.bestGeneration = run.bestGeneration

theorem Continues.refl (run : Run σ) : run.Continues run :=
  ⟨List.prefix_refl _, List.prefix_refl _, .inr ⟨rfl, rfl⟩⟩

theorem Continues.trans {first second third : Run σ} (h' : third.Continues second)
    (h : second.Continues first) : third.Continues first := by
  refine ⟨h.history.trans h'.history, h.reported.trans h'.reported, ?_⟩
  obtain greater | ⟨score, generation⟩ := h.best
  · left
    obtain greater' | ⟨score', -⟩ := h'.best
    · exact Double.lt_of_le_of_lt (Double.le_of_lt greater) greater'
    · rw [score']
      exact greater
  · rw [← score, ← generation]
    exact h'.best

theorem continues_follow (g : Nat) (run : Run σ) (brood : Brood σ) :
    (run.follow g brood).Continues run := by
  refine ⟨List.prefix_append _ _, List.prefix_append _ _, ?_⟩
  obtain ⟨better, score, -⟩ | ⟨-, kept⟩ := follow_best_cases g run brood
  · rw [score]
    exact .inl better
  · exact .inr kept

/-- Every generation before the last is one that the run went through, and the run went on from
it. -/
theorem exists_earlier (allowed : config.Allowed) {g : Nat} {run : Run σ}
    (reached : after config evaluator words memory g = .ok run) {i : Nat} (earlier : i ≤ g) :
    ∃ past, after config evaluator words memory i = .ok past ∧ run.Continues past := by
  induction g generalizing run with
  | zero =>
    obtain rfl : i = 0 := by omega
    exact ⟨run, reached, .refl run⟩
  | succ g ih =>
    rcases Nat.lt_or_eq_of_le earlier with before | rfl
    · obtain ⟨previous, reachedPrevious, advanced⟩ := exists_of_after_succ reached
      obtain ⟨past, reachedPast, continues⟩ := ih reachedPrevious (by omega)
      obtain ⟨brood, -, -, rfl, -⟩ :=
        exists_brood_of_advance allowed (batch_after allowed reachedPrevious) advanced
      exact ⟨past, reachedPast, (continues_follow _ previous brood).trans continues⟩
    · exact ⟨run, reached, .refl run⟩

/-- The scores of a generation that the run went through, as they stand in the history. -/
theorem history_scores (allowed : config.Allowed) {g i : Nat} {run past : Run σ}
    (reached : after config evaluator words memory g = .ok run) (earlier : i ≤ g)
    (reachedPast : after config evaluator words memory i = .ok past) :
    run.history[i]?.map (·.scores) = some (.ofPopulation past.population) := by
  obtain ⟨other, reachedOther, continues⟩ := exists_earlier allowed reached earlier
  obtain rfl : other = past := by
    rw [reachedPast] at reachedOther
    cases reachedOther
    rfl
  have recorded := recorded_after allowed reachedPast
  rw [← recorded.latest]
  congr 1
  exact (List.prefix_iff_getElem?.mp continues.history i (by rw [recorded.length]; omega)).trans
    (List.getElem?_eq_getElem _).symm

/-! ### The best generation so far -/

/-- The best score of a state is that of its best generation, no other is greater, and those of
earlier generations are smaller. -/
structure Leads (run : Run σ) : Prop where
  reached : run.history[run.bestGeneration]?.map (·.scores.best) = some run.bestScore
  most : ∀ stats ∈ run.history, stats.scores.best ≤ run.bestScore
  first : ∀ i < run.bestGeneration, ∀ stats, run.history[i]? = some stats →
    stats.scores.best < run.bestScore

theorem Leads.bestGeneration_lt {run : Run σ} (leads : run.Leads) :
    run.bestGeneration < run.history.length := by
  obtain ⟨stats, atBest, -⟩ := Option.map_eq_some_iff.mp leads.reached
  exact (List.getElem?_eq_some_iff.mp atBest).1

theorem Leads.isNaN_bestScore {g : Nat} {run : Run σ} (leads : run.Leads)
    (recorded : run.Recorded g) : run.bestScore.isNaN = false := by
  obtain ⟨stats, atBest, same⟩ := Option.map_eq_some_iff.mp leads.reached
  rw [← same]
  exact recorded.numbers stats (List.mem_of_getElem? atBest)

theorem Leads.follow {g : Nat} {run : Run σ} (leads : run.Leads) (recorded : run.Recorded g)
    (brood : Brood σ) : (run.follow (g + 1) brood).Leads := by
  have inside := leads.bestGeneration_lt
  have position := recorded.length
  have number := leads.isNaN_bestScore recorded
  set stats : GenerationStats := ⟨g + 1,
    .ofPopulation (withElite run.population brood.members), brood.failures⟩ with hstats
  have numberNow : stats.scores.best.isNaN = false := ScoreSummary.isNaN_best _
  have history : (run.follow (g + 1) brood).history = run.history ++ [stats] := rfl
  obtain ⟨better, score, generation⟩ | ⟨notBetter, score, generation⟩ :=
    follow_best_cases (g + 1) run brood
  · refine ⟨?_, fun entry mem => ?_, fun i before entry atPosition => ?_⟩
    · rw [score, generation, history, ← position]
      simp [hstats]
    · rw [score]
      rcases List.mem_append.mp (history ▸ mem) with old | new
      · exact Double.le_trans (leads.most entry old) (Double.le_of_lt better)
      · cases List.mem_singleton.mp new
        exact Double.le_refl numberNow
    · rw [history, List.getElem?_append_left (by omega)] at atPosition
      rw [score]
      exact Double.lt_of_le_of_lt (leads.most entry (List.mem_of_getElem? atPosition)) better
  · refine ⟨?_, fun entry mem => ?_, fun i before entry atPosition => ?_⟩
    · rw [score, generation, history, List.getElem?_append_left inside]
      exact leads.reached
    · rw [score]
      rcases List.mem_append.mp (history ▸ mem) with old | new
      · exact leads.most entry old
      · cases List.mem_singleton.mp new
        exact Double.le_of_not_lt numberNow number notBetter
    · rw [generation] at before
      rw [history, List.getElem?_append_left (by omega)] at atPosition
      rw [score]
      exact leads.first i before entry atPosition

theorem leads_after (allowed : config.Allowed) {g : Nat} {run : Run σ}
    (reached : after config evaluator words memory g = .ok run) : run.Leads := by
  refine after_induction allowed (motive := fun _ run => run.Leads) ?_ ?_ reached
  · intro programs rest _
    refine ⟨rfl, fun stats mem => ?_, fun i before => absurd before (Nat.not_lt_zero i)⟩
    cases List.mem_singleton.mp mem
    exact Double.le_refl (ScoreSummary.isNaN_best _)
  · intro g run brood reached leads _ _
    exact leads.follow (recorded_after allowed reached) brood

end Run

end Progeny

import Progeny.Proofs.Evolution.Course

/-!
# How a run ends

A run that was allowed ends in one of four ways: there is no first population; a generation has no
result; the time is over after a generation; or all generations are done.  Each of them names the
state in which the run ended.  A run whose words did not run dry ends in the same way on more words,
and whatever words it was given first, there is a number of zero words on which it does not run dry.
-/

namespace Progeny

variable {σ : Type}

/-- More than the allowed time has passed at the end of a generation. -/
def EvolutionConfig.IsLate (config : EvolutionConfig) (elapsed : Nat → Duration) (g : Nat) : Prop :=
  config.timeLimit.nanoseconds < (elapsed g).nanoseconds

/-- No generation up to `g` ended late. -/
def EvolutionConfig.InTime (config : EvolutionConfig) (elapsed : Nat → Duration) (g : Nat) : Prop :=
  ∀ h, 1 ≤ h → h ≤ g → ¬config.IsLate elapsed h

theorem EvolutionConfig.InTime.succ {config : EvolutionConfig} {elapsed : Nat → Duration} {g : Nat}
    (inTime : config.InTime elapsed g) (next : ¬config.IsLate elapsed (g + 1)) :
    config.InTime elapsed (g + 1) := by
  intro h positive bound
  rcases Nat.lt_or_eq_of_le bound with before | rfl
  · exact inTime h positive (by omega)
  · exact next

open Run in
/-- How a run on given words and readings of the clock can end, and with which trace. -/
inductive Ending (config : EvolutionConfig) (evaluator : Evaluator σ) (memory : σ) (seed : UInt64)
    (words : Words) (elapsed : Nat → Duration) : Trace → Prop
  | unborn {e : EvolutionError} (failed : after config evaluator words memory 0 = .error e) :
      Ending config evaluator memory seed words elapsed ⟨[], .error e⟩
  | broken {g : Nat} {run : Run σ} {e : EvolutionError}
      (reached : after config evaluator words memory g = .ok run) (before : g < config.generations)
      (failed : after config evaluator words memory (g + 1) = .error e) :
      Ending config evaluator memory seed words elapsed ⟨run.reported, .error e⟩
  | late {g : Nat} {run : Run σ} (reached : after config evaluator words memory (g + 1) = .ok run)
      (before : g < config.generations) (inTime : config.InTime elapsed g)
      (isLate : config.IsLate elapsed (g + 1)) :
      Ending config evaluator memory seed words elapsed
        ⟨run.reported, .error (.timeBudgetExceeded config.timeLimit (g + 1))⟩
  | complete {run : Run σ}
      (reached : after config evaluator words memory config.generations = .ok run)
      (inTime : config.InTime elapsed config.generations) :
      Ending config evaluator memory seed words elapsed ⟨run.reported, run.finish config seed⟩

namespace Run

variable {config : EvolutionConfig} {evaluator : Evaluator σ} {memory : σ} {seed : UInt64}
  {words : Words} {elapsed : Nat → Duration}

theorem checkTime_eq (config : EvolutionConfig) (elapsed : Nat → Duration) (g : Nat) :
    (config.IsLate elapsed g ∧
        checkTime config g (elapsed g) = .error (.timeBudgetExceeded config.timeLimit g)) ∨
      ¬config.IsLate elapsed g ∧ checkTime config g (elapsed g) = .ok () := by
  by_cases isLate : config.IsLate elapsed g
  · exact .inl ⟨isLate, if_pos isLate⟩
  · exact .inr ⟨isLate, if_neg isLate⟩

theorem ending_proceed {left g : Nat} {run : Run σ}
    (reached : after config evaluator words memory g = .ok run)
    (total : g + left = config.generations) (inTime : config.InTime elapsed g) :
    Ending config evaluator memory seed words elapsed
      (run.proceed config evaluator seed elapsed left (g + 1)) := by
  induction left generalizing g run with
  | zero =>
    obtain rfl : g = config.generations := by omega
    exact .complete reached inTime
  | succ left ih =>
    rw [proceed]
    cases advanced : run.advance config evaluator (g + 1) with
    | error e =>
      have failed := (after_succ reached).trans advanced
      exact .broken reached (by omega) failed
    | ok next =>
      have reachedNext := (after_succ reached).trans advanced
      obtain ⟨isLate, stopped⟩ | ⟨notLate, goes⟩ := checkTime_eq config elapsed (g + 1)
      · simp only [stopped]
        exact .late reachedNext (by omega) inTime isLate
      · simp only [goes]
        exact ih reachedNext (by omega) (inTime.succ notLate)

/-- The trace of a run on more words. -/
theorem proceed_plus (allowed : config.Allowed) {left g : Nat} {run : Run σ}
    (batch : Batch evaluator config.populationSize run.population)
    (ends : (run.proceed config evaluator seed elapsed left g).result ≠ .error (.draw .dry))
    (more : Nat) :
    (run.plus more).proceed config evaluator seed elapsed left g =
      run.proceed config evaluator seed elapsed left g := by
  induction left generalizing g run with
  | zero => rfl
  | succ left ih =>
    rw [proceed] at ends ⊢
    rw [proceed]
    cases advanced : run.advance config evaluator g with
    | error e =>
      rw [advanced] at ends
      rw [advance_failure allowed batch advanced] at ends
      exact absurd rfl ends
    | ok next =>
      rw [advanced] at ends
      obtain ⟨brood, -, hatched, rfl, steady⟩ := exists_brood_of_advance allowed batch advanced
      rw [steady more]
      obtain ⟨-, stopped⟩ | ⟨-, goes⟩ := checkTime_eq config elapsed g
      · simp only [stopped]
        rfl
      · simp only [goes] at ends ⊢
        exact ih (batch.withElite hatched) ends

/-- A state that is left with listed and then zero words goes on as it does on enough of them. -/
theorem proceed_plus_thenZeros (allowed : config.Allowed) {left g : Nat} {run : Run σ}
    (batch : Batch evaluator config.populationSize run.population) {rest : List UInt64}
    {unread supply : Nat} (words : run.words = .thenZeros rest unread)
    (ends : ((run.on (.thenZeros rest supply)).proceed config evaluator seed elapsed left
      g).result ≠ .error (.draw .dry)) :
    (run.plus supply).proceed config evaluator seed elapsed left g =
      (run.on (.thenZeros rest supply)).proceed config evaluator seed elapsed left g := by
  have onBatch : Batch evaluator config.populationSize
      (run.on (.thenZeros rest supply)).population := batch
  rw [plus_eq_on words]
  exact proceed_plus allowed onBatch ends unread

theorem finish_eq (positive : 0 < config.populationSize) {run : Run σ}
    (batch : Batch evaluator config.populationSize run.population) :
    ∃ best, run.population.getLast? = some best ∧
      run.finish config seed =
        .ok ⟨best, seed, run.history, run.bestScore, run.bestGeneration⟩ := by
  have some := batch.ne_nil positive
  refine ⟨run.population.getLast some, List.getLast?_eq_some_getLast some, ?_⟩
  unfold finish
  rw [List.getLast?_eq_some_getLast some]

theorem finish_ne_dry (config : EvolutionConfig) (seed : UInt64) (run : Run σ) :
    run.finish config seed ≠ .error (.draw .dry) := by
  unfold finish
  split <;> nofun

/-- Whatever words come first, enough zero words after them let the generations that are left end:
those of the next generation, and then those of the others. -/
theorem proceed_ends (allowed : config.Allowed) (left g : Nat) {run : Run σ}
    (batch : Batch evaluator config.populationSize run.population) (first : List UInt64) :
    ∃ supply, ((run.on (.thenZeros first supply)).proceed config evaluator seed elapsed left
      g).result ≠ .error (.draw .dry) := by
  induction left generalizing g run first with
  | zero => exact ⟨0, finish_ne_dry config seed _⟩
  | succ left ih =>
    obtain ⟨supply, next, rest, unread, nextBatch, words, advanced⟩ :=
      advance_ends allowed g batch first
    have onBatch : Batch evaluator config.populationSize
        (run.on (.thenZeros first supply)).population := batch
    obtain ⟨-, -, -, -, steady⟩ := exists_brood_of_advance allowed onBatch advanced
    obtain ⟨supply', ends⟩ := ih (g + 1) nextBatch rest
    refine ⟨supply + supply', ?_⟩
    have onBoth : (run.on (.thenZeros first (supply + supply'))).advance config evaluator g =
        .ok (next.plus supply') := steady supply'
    rw [proceed, onBoth]
    obtain ⟨-, stopped⟩ | ⟨-, goes⟩ := checkTime_eq config elapsed g
    · simp only [stopped]
      nofun
    · simp only [goes]
      rw [proceed_plus_thenZeros allowed nextBatch words ends]
      exact ends

end Run

variable {config : EvolutionConfig} {evaluator : Evaluator σ} {memory : σ} {seed : UInt64}
  {words : Words} {elapsed : Nat → Duration}

theorem ending_evolveOn (allowed : config.check = .ok ()) :
    Ending config evaluator memory seed words elapsed
      (evolveOn config evaluator memory seed words elapsed) := by
  unfold evolveOn
  simp only [allowed]
  cases started : Run.start config evaluator words memory with
  | error e => exact .unborn started
  | ok run =>
    exact Run.ending_proceed (g := 0) started (by omega) fun h positive bound => by omega

/-- A run whose words did not run dry has the same trace on more words. -/
theorem evolveOn_plus (allowed : config.Allowed)
    (ends : (evolveOn config evaluator memory seed words elapsed).result ≠ .error (.draw .dry))
    (more : Nat) :
    evolveOn config evaluator memory seed (words.plus more) elapsed =
      evolveOn config evaluator memory seed words elapsed := by
  unfold evolveOn at ends ⊢
  cases checked : config.check with
  | error e => rfl
  | ok _ =>
    simp only [checked] at ends ⊢
    obtain ⟨failure, failed, dry⟩ | ⟨programs, rest, batch, started, steady⟩ :=
      Run.start_cases config evaluator words memory
    · rw [failed, dry (EvolutionConfig.room_of_check checked)] at ends
      exact absurd rfl ends
    · rw [started] at ends
      rw [started, steady more]
      exact Run.proceed_plus allowed batch ends more

/-- A run whose generations all end in time either ran dry before its last one or has the outcome of
that generation's state. -/
theorem evolveOn_inTime (allowed : config.Allowed) (checked : config.check = .ok ())
    (inTime : config.InTime elapsed config.generations) :
    ((evolveOn config evaluator memory seed words elapsed).result = .error (.draw .dry) ∧
        ∀ last, Run.after config evaluator words memory config.generations ≠ .ok last) ∨
      ∃ last best, Run.after config evaluator words memory config.generations = .ok last ∧
        evolveOn config evaluator memory seed words elapsed =
          ⟨last.reported, .ok ⟨best, seed, last.history, last.bestScore, last.bestGeneration⟩⟩ := by
  have ending : Ending config evaluator memory seed words elapsed
      (evolveOn config evaluator memory seed words elapsed) := ending_evolveOn checked
  have room := EvolutionConfig.room_of_check checked
  -- a generation without a state leaves none to the generations after it
  have none {g : Nat} {e : EvolutionError} (bound : g ≤ config.generations)
      (failed : Run.after config evaluator words memory g = .error e) (last : Run σ) :
      Run.after config evaluator words memory config.generations ≠ .ok last := fun reached => by
    obtain ⟨past, reachedPast, -⟩ := Run.exists_earlier allowed reached bound
    rw [failed] at reachedPast
    cases reachedPast
  generalize evolveOn config evaluator memory seed words elapsed = trace at ending ⊢
  cases ending with
  | unborn failed =>
    rw [Run.after_failure allowed room failed]
    exact .inl ⟨rfl, none (Nat.zero_le _) failed⟩
  | broken reached before failed =>
    rw [Run.after_failure allowed room failed]
    exact .inl ⟨rfl, none before failed⟩
  | late reached before _ isLate => exact absurd isLate (inTime _ (by omega) before)
  | complete reached _ =>
    obtain ⟨best, -, finished⟩ :=
      Run.finish_eq allowed.populationSize_pos (Run.batch_after allowed reached)
    rw [finished]
    exact .inr ⟨_, best, reached, rfl⟩

/-- A run with an outcome went through all its generations, and its outcome is that of the state it
ended in. -/
theorem exists_last_of_outcome (allowed : config.Allowed) {outcome : Outcome}
    (done : (evolveOn config evaluator memory seed words elapsed).result = .ok outcome) :
    ∃ last, Run.after config evaluator words memory config.generations = .ok last ∧
      last.population.getLast? = some outcome.best ∧ outcome.generations = last.history ∧
      outcome.bestScore = last.bestScore ∧ outcome.bestGeneration = last.bestGeneration := by
  have accepted : config.check = .ok () := by
    cases checked : config.check with
    | error e =>
      unfold evolveOn at done
      simp [checked] at done
    | ok _ => rfl
  have ending : Ending config evaluator memory seed words elapsed
      (evolveOn config evaluator memory seed words elapsed) := ending_evolveOn accepted
  generalize evolveOn config evaluator memory seed words elapsed = trace at ending done
  cases ending with
  | unborn failed => cases done
  | broken reached before failed => cases done
  | late reached before inTime isLate => cases done
  | complete reached inTime =>
    rename_i last
    obtain ⟨best, isLast, finished⟩ :=
      Run.finish_eq allowed.populationSize_pos (Run.batch_after allowed reached)
    cases finished.symm.trans done
    exact ⟨last, reached, isLast, rfl, rfl, rfl⟩

/-- Whatever words come first, enough zero words after them let a run end. -/
theorem evolveOn_ends (allowed : config.Allowed) (checked : config.check = .ok ())
    (first : List UInt64) :
    ∃ supply, (evolveOn config evaluator memory seed (.thenZeros first supply) elapsed).result ≠
      .error (.draw .dry) := by
  obtain ⟨supply, run, rest, left, batch, words, started⟩ :=
    Run.start_ends (EvolutionConfig.room_of_check checked) evaluator memory first
  obtain ⟨supply', ends⟩ : ∃ supply', ((run.on (.thenZeros rest supply')).proceed config evaluator
      seed elapsed config.generations 1).result ≠ .error (.draw .dry) :=
    Run.proceed_ends allowed config.generations 1 batch rest
  refine ⟨supply + supply', ?_⟩
  have onBoth : Run.start config evaluator (.thenZeros first (supply + supply')) memory =
      .ok (run.plus supply') := Run.start_plus started supply'
  unfold evolveOn
  simp only [checked, onBoth]
  rw [Run.proceed_plus_thenZeros allowed batch words ends]
  exact ends

end Progeny

import Progeny.Proofs.Evolution.Reporting

/-!
# Longer runs

The number of generations decides when a run stops and nothing else: no phase draws by it, and the
best score so far looks at the past only.  So a run with more generations goes through the same
states as one with fewer and then goes on.  It has the statistics and the reports of the shorter
run at the beginning of its own, and its best score is greater or was reached at the same time.
-/

namespace Progeny

variable {σ : Type} {config : EvolutionConfig} {evaluator : Evaluator σ} {words : Words}
  {memory : σ} {seed : UInt64} {elapsed elapsed' : Nat → Duration} {later : Nat}

/-- The same settings for another number of generations. -/
def EvolutionConfig.lasting (config : EvolutionConfig) (generations : Nat) : EvolutionConfig :=
  { config with generations := generations }

theorem EvolutionConfig.Allowed.lasting (allowed : config.Allowed)
    (longer : config.generations ≤ later) : (config.lasting later).Allowed where
  counts := by
    have positive := allowed.counts
    simp only [EvolutionConfig.counts, List.forall_mem_cons] at positive ⊢
    obtain ⟨statements, generations, population⟩ := positive
    exact ⟨statements, Nat.lt_of_lt_of_le generations longer, population⟩
  rates := allowed.rates

/-- The states of a run do not depend on how long it lasts. -/
theorem Run.after_lasting (g : Nat) :
    after (config.lasting later) evaluator words memory g =
      after config evaluator words memory g := by
  induction g with
  | zero => rfl
  | succ g ih =>
    rw [after, after, ih]
    rfl

/-- What the outcome of a run of some generations has in common with that of a longer one. -/
structure Outcome.Extends (long short : Outcome) (generations : Nat) : Prop where
  length : short.generations.length = generations + 1
  history : long.generations.take (generations + 1) = short.generations
  best : long.bestScore ≥ short.bestScore
  bestGeneration : (long.bestScore == short.bestScore) = true →
    long.bestGeneration = short.bestGeneration

/-- Both runs have an outcome, and the longer one adds to the statistics and the reports of the
other. -/
def Trace.Extends (long short : Trace) (generations : Nat) : Prop :=
  ∃ outcome outcome', short.result = .ok outcome ∧ long.result = .ok outcome' ∧
    outcome'.Extends outcome generations ∧ short.reported <+: long.reported

/-- The outcomes of two states of a run, one of which goes on from the other. -/
theorem Run.Continues.outcome_extends (allowed : config.Allowed) {g : Nat} {last run : Run σ}
    (reached : after config evaluator words memory g = .ok run) (continues : last.Continues run)
    (best best' : Program) :
    (⟨best', seed, last.history, last.bestScore, last.bestGeneration⟩ : Outcome).Extends
      ⟨best, seed, run.history, run.bestScore, run.bestGeneration⟩ g := by
  have recorded := recorded_after allowed reached
  have number := (leads_after allowed reached).isNaN_bestScore recorded
  refine ⟨recorded.length, ?_, ?_, fun same => ?_⟩
  · rw [← recorded.length]
    exact (List.prefix_iff_eq_take.mp continues.history).symm
  · obtain greater | ⟨score, -⟩ := continues.best
    · exact Double.le_of_lt greater
    · change run.bestScore ≤ last.bestScore
      rw [score]
      exact Double.le_refl number
  · obtain greater | ⟨-, generation⟩ := continues.best
    · exact absurd greater (Double.not_lt_of_le (Double.beq_iff_le.mp same).1)
    · exact generation

/-- Two runs in time that differ in their number of generations only: the longer one runs dry, or
both have an outcome and the longer one extends the other.  After any words, there are further ones
on which it does not run dry. -/
theorem longer_run_extends (accepted : config.validate = .ok ())
    (room : config.checkRoom = .ok ()) (roomLater : (config.lasting later).checkRoom = .ok ())
    (longer : config.generations ≤ later) (evaluator : Evaluator σ) (memory : σ) (seed : UInt64)
    (inTime : config.InTime elapsed config.generations)
    (inTimeLater : (config.lasting later).InTime elapsed' later) :
    (config.lasting later).validate = .ok () ∧
    (∀ words,
      (evolveOn (config.lasting later) evaluator memory seed words elapsed').result =
          .error (.draw .dry) ∨
        (evolveOn (config.lasting later) evaluator memory seed words elapsed').Extends
          (evolveOn config evaluator memory seed words elapsed) config.generations) ∧
    ∀ first, ∃ supply,
      (evolveOn (config.lasting later) evaluator memory seed (.thenZeros first supply)
        elapsed').Extends
          (evolveOn config evaluator memory seed (.thenZeros first supply) elapsed)
          config.generations := by
  have allowed := EvolutionConfig.validate_eq_ok_iff.mp accepted
  have allowedLater := allowed.lasting longer
  have acceptedLater := EvolutionConfig.validate_eq_ok_iff.mpr allowedLater
  have checked := check_of_validate accepted room
  have checkedLater := check_of_validate acceptedLater roomLater
  have goes (words : Words) :
      (evolveOn (config.lasting later) evaluator memory seed words elapsed').result =
          .error (.draw .dry) ∨
        (evolveOn (config.lasting later) evaluator memory seed words elapsed').Extends
          (evolveOn config evaluator memory seed words elapsed) config.generations := by
    obtain ⟨dry, -⟩ | ⟨last, best', reachedLast, trace'⟩ :=
      evolveOn_inTime allowedLater checkedLater inTimeLater
    · exact .inl dry
    · right
      -- the longer run came through the state in which the other one ended
      obtain ⟨past, reached, continues⟩ := Run.exists_earlier allowedLater reachedLast longer
      rw [Run.after_lasting] at reached
      obtain ⟨-, none⟩ | ⟨run, best, reachedRun, trace⟩ := evolveOn_inTime allowed checked inTime
      · exact absurd reached (none past)
      · cases reached.symm.trans reachedRun
        rw [trace, trace']
        exact ⟨_, _, rfl, rfl, continues.outcome_extends allowed reached best best',
          continues.reported⟩
  refine ⟨acceptedLater, goes, fun first => ?_⟩
  obtain ⟨supply, ends⟩ := evolveOn_ends allowedLater checkedLater first
  exact ⟨supply, (goes _).resolve_left ends⟩

/-- Another generation of a run in which the best program grows by a statement each time. -/
theorem longer_run_extends_lively :
    (evolve (.lasting .lively 3) .sizes () 388 fun _ => .ofSeconds 0).Extends
      (evolve .lively .sizes () 388 fun _ => .ofSeconds 0) 2 ∧
    (evolve (.lasting .lively 3) .sizes () 388 fun _ => .ofSeconds 0).result.toOption.map
      (fun o => (o.generations.map (·.scores.best), o.bestGeneration)) =
        some ([2.0, 3.0, 4.0, 5.0], 3) := by
  have bests : (evolve (.lasting .lively 3) .sizes () 388 fun _ => .ofSeconds 0).result.toOption.map
      (fun o => (o.generations.map (·.scores.best), o.bestGeneration)) =
        some ([2.0, 3.0, 4.0, 5.0], 3) := by
    simp only [evolve, evolveOn, Run.start, EvolutionConfig.lasting, EvolutionConfig.lively,
      Run.proceed, Run.advance, Run.brood, Run.withElite, keepElite, Population.evaluate,
      Population.ranked_eq_foldr]
    decide +kernel
  have inTime (generations g : Nat) :
      (EvolutionConfig.lively.lasting generations).InTime (fun _ => .ofSeconds 0) g :=
    fun _ _ _ => Nat.not_lt_zero _
  obtain ⟨-, goes, -⟩ := longer_run_extends EvolutionConfig.validate_lively (by decide +kernel)
    (by decide +kernel) (show EvolutionConfig.lively.generations ≤ 3 by decide) .sizes () 388
    (inTime 2 2) (inTime 3 3)
  refine ⟨(goes (.ofSeed 388)).resolve_left fun dry => ?_, bests⟩
  rw [evolve, dry] at bests
  cases bests

end Progeny

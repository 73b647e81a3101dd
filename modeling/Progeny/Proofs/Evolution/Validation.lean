import Progeny.Proofs.Evolution.Generation
import Progeny.Proofs.Random.Failing

/-!
# What validation is for

Breeding has two operators that toss coins with the rates of the settings.  Crossover tosses its coin
first of all; mutation tosses its five coins one after the other, whatever the program has left to
edit, once the program's own coin has allowed it.  So one improper rate is enough for a failure that
more words do not heal, and settings whose counts are positive are allowed exactly when neither
operator has one.
-/

namespace Progeny

open Draw Fallible

variable {listed : Nat}

namespace Crossover

/-- The coin of the rate comes before all else. -/
theorem child_panics_iff (config : CrossoverConfig) (first second : Program) (source : Words) :
    Panics (child config first second) source ↔ Improper config.crossoverRate := by
  constructor
  · intro failed
    refine improper_iff.mpr fun rate => ?_
    have safe : Yields 0 (child config first second) _ := yields_child rate first second
    exact safe.not_panics failed
  · intro improper
    exact panics_bind.mpr (.inl (panics_bind.mpr (.inl (panics_chance improper source))))

end Crossover

namespace Mutation

theorem fails_sometimes {rate : Float} (improper : Improper rate) (edit : Program → Draw Program)
    (p : Program) : Fails listed (sometimes rate edit p) := (fails_chance improper).bind _

/-- An edit behind a coin, and what follows it, fail if the coin is none or what follows fails. -/
theorem fails_sometimes_bind {rate : Float} {edit next : Program → Draw Program} {p : Program}
    (safe : Safe listed (edit p)) (h : Improper rate ∨ ∀ q, Fails listed (next q)) :
    Fails listed (sometimes rate edit p >>= next) := by
  by_cases improper : Improper rate
  · exact (fails_sometimes improper edit p).bind next
  · have proper : 0.0 ≤ rate ∧ rate ≤ 1.0 := by
      rw [improper_iff, not_not] at improper
      exact improper
    have coin : Safe listed (sometimes rate edit p) :=
      (yields_chance proper).safe.bind fun _ => yields_ite (fun _ => safe) fun _ => safe_pure p
    exact coin.bind_fails fun q _ => h.resolve_left improper q

variable {config : MutationConfig}

theorem fails_edits (h : ∃ rate ∈ config.rates, Improper rate.2) (p : Program) :
    Fails listed (edits config p) := by
  simp only [MutationConfig.rates, List.exists_mem_cons_iff, List.not_mem_nil, false_and,
    exists_false, or_false] at h
  -- each coin fails, or one of those after it
  refine fails_sometimes_bind (yields_insertSome _ p).safe (h.imp_right fun h q => ?_)
  refine fails_sometimes_bind (yields_duplicate q).safe (h.imp_right fun h r => ?_)
  refine fails_sometimes_bind (yields_removeOne r).safe (h.imp_right fun h s => ?_)
  refine fails_sometimes_bind (yields_swapTwo s).safe (h.imp_right fun h t => ?_)
  exact fails_sometimes h insertToken t

/-- Proper rates are those that are not improper. -/
theorem proper_of_not_improper (h : ¬∃ rate ∈ config.rates, Improper rate.2) :
    ∀ rate ∈ config.rates, 0.0 ≤ rate.2 ∧ rate.2 ≤ 1.0 := by
  intro rate mem
  by_contra outside
  exact h ⟨rate, mem, improper_iff.mpr outside⟩

/-- Where the words are enough, a mutation fails if the program's own coin allows it and one of the
rates is improper, and otherwise not. -/
theorem mutate_panics_iff (p : Program) {source : Words}
    (enough : mutate config p source ≠ .error .dry) :
    Panics (mutate config p) source ↔
      (∃ rest, p.shouldMutate source = .ok (true, rest)) ∧
        ∃ rate ∈ config.rates, Improper rate.2 := by
  constructor
  · intro failed
    obtain coin | ⟨allowed, rest, tossed, failed⟩ := panics_bind.mp failed
    · have safe : Safe 0 p.shouldMutate := safe_shouldMutate p
      exact absurd coin safe.not_panics
    · cases allowed with
      | false => obtain ⟨e, failure, -⟩ := failed; cases failure
      | true =>
        refine ⟨⟨rest, tossed⟩, ?_⟩
        by_contra none
        have safe : Yields 0 (edits config p) _ := yields_edits (proper_of_not_improper none) p
        exact safe.not_panics failed
  · rintro ⟨⟨rest, tossed⟩, improper⟩
    cases result : mutate config p source with
    | ok drawn =>
      obtain ⟨allowed, rest', tossed', edited⟩ := bind_eq_ok.mp result
      rw [tossed] at tossed'
      cases tossed'
      have fails : Fails 0 (edits config p) := fails_edits improper p
      exact absurd edited fails.result
    | error e =>
      refine ⟨e, result, fun dry => ?_⟩
      rw [dry] at result
      exact enough result

/-- Enough words decide, for every program and all rates, whether a mutation fails. -/
theorem settles_mutate (config : MutationConfig) (p : Program) : Settles (mutate config p) := by
  refine Settles.bind (P := fun _ => True) (fun _ => safe_shouldMutate p) fun allowed _ => ?_
  cases allowed with
  | false => exact Yields.settles fun _ => safe_pure p
  | true =>
    by_cases improper : ∃ rate ∈ config.rates, Improper rate.2
    · exact Fails.settles fun _ => fails_edits improper p
    · exact Yields.settles fun _ => yields_edits (proper_of_not_improper improper) p

/-- A program that is always mutated lets every improper rate be seen. -/
theorem exists_panics (p : Program) (willing : p.mutationProbability = 1.0)
    (improper : ∃ rate ∈ config.rates, Improper rate.2) :
    ∃ source, Panics (mutate config p) source := by
  obtain ⟨enough, settled⟩ := settles_mutate config p []
  refine ⟨.thenZeros [] (enough + 0), (mutate_panics_iff p (settled 0)).mpr ⟨?_, improper⟩⟩
  have coin : Yields 0 p.shouldMutate (· = true) := by
    unfold Program.shouldMutate
    rw [willing]
    exact yields_willing
  cases tossed : p.shouldMutate (.thenZeros [] (enough + 0)) with
  | ok drawn =>
    obtain ⟨allowed, rest⟩ := drawn
    obtain rfl := coin.result tossed
    exact ⟨rest, rfl⟩
  | error e =>
    -- the coin only runs dry, and then the mutation does as well
    have dry := coin.failure tossed
    refine absurd ?_ (settled 0)
    change (p.shouldMutate >>= _) _ = _
    rw [bind_eq, tossed, dry]

end Mutation

/-- Settings with positive counts are allowed exactly when neither crossover nor mutation fails on any
words, but for running dry.  Crossover fails if and only if its rate is improper; mutation fails if
and only if the program's own coin allows it and one of the five rates is improper, as soon as the
words are enough to tell. -/
theorem validation_excludes_failures (config : EvolutionConfig)
    (positive : ∀ count ∈ config.counts, 0 < count.2) :
    (config.validate = .ok () ↔ ∀ first second source,
      ¬Panics (Crossover.child config.crossover first second) source ∧
        ¬Panics (Mutation.mutate config.mutation first) source) ∧
    (∀ first second source, Panics (Crossover.child config.crossover first second) source ↔
      Improper config.crossover.crossoverRate) ∧
    (∀ p source, Mutation.mutate config.mutation p source ≠ .error .dry →
      (Panics (Mutation.mutate config.mutation p) source ↔
        (∃ rest, p.shouldMutate source = .ok (true, rest)) ∧
          ∃ rate ∈ config.mutation.rates, Improper rate.2)) ∧
    ∀ p, Settles (Mutation.mutate config.mutation p) := by
  refine ⟨⟨fun accepted first second source => ?_, fun safe => ?_⟩,
    Crossover.child_panics_iff config.crossover, fun p source => Mutation.mutate_panics_iff p,
    Mutation.settles_mutate config.mutation⟩
  · have allowed := EvolutionConfig.validate_eq_ok_iff.mp accepted
    have safe : Yields 0 (Mutation.mutate config.mutation first) _ :=
      Mutation.yields_mutate allowed.mutationRates first
    refine ⟨fun failed => ?_, safe.not_panics⟩
    have improper := (Crossover.child_panics_iff config.crossover first second source).mp failed
    exact improper_iff.mp improper allowed.crossoverRate
  · refine EvolutionConfig.validate_eq_ok_iff.mpr ⟨positive, List.forall_mem_cons.mpr ⟨?_, ?_⟩⟩
    · by_contra outside
      have failed := Crossover.child_panics_iff config.crossover .empty .empty (.ofSeed 0)
      exact (safe .empty .empty (.ofSeed 0)).1 (failed.mpr (improper_iff.mpr outside))
    · refine Mutation.proper_of_not_improper fun improper => ?_
      obtain ⟨source, failed⟩ := Mutation.exists_panics .empty rfl improper
      exact (safe .empty .empty source).2 failed

/-- The settings of a run whose fourth mutation rate is not a number. -/
def EvolutionConfig.unswappable : EvolutionConfig where
  mutation := { swapRate := 0.0 / 0.0 }

/-- These settings are refused, and the mutation of the empty program fails at its fourth coin. -/
theorem validation_excludes_failures_unswappable :
    ¬EvolutionConfig.unswappable.validate = .ok () ∧
      Panics (Mutation.mutate EvolutionConfig.unswappable.mutation .empty) (.thenZeros [] 5) := by
  obtain ⟨gate, -, mutation, -⟩ :=
    validation_excludes_failures .unswappable (by decide +kernel)
  have allowed : Program.empty.shouldMutate (.thenZeros [] 5) = .ok (true, .thenZeros [] 4) := by
    decide +kernel
  have improper : ∃ rate ∈ EvolutionConfig.unswappable.mutation.rates, Improper rate.2 :=
    ⟨("mutation.swap_rate", 0.0 / 0.0),
      by simp [MutationConfig.rates, EvolutionConfig.unswappable], .inl (by decide +kernel)⟩
  have failed := (mutation .empty (.thenZeros [] 5) (by decide +kernel)).mpr ⟨⟨_, allowed⟩, improper⟩
  exact ⟨fun accepted => (gate.mp accepted .empty .empty _).2 failed, failed⟩

end Progeny

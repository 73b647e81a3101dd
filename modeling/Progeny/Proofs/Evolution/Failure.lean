import Progeny.Proofs.Evolution.Heredity

/-!
# Failed evaluations and the best program

A program that could not be evaluated keeps the score 0 that it was born with, takes part in the
sort and in elitism, and nothing in a population tells it from an evaluated one.  Here each program
carries along whether its own evaluation succeeded: the phases of a run are repeated on programs
with this mark, and forgetting the marks gives the run.  A failed program is the best of a run
exactly where the scores say so: not if some evaluated one scores above 0, and surely if there is a
failed one and all evaluated ones score below 0.
-/

namespace Progeny

/-- A program of a population, and whether its evaluation succeeded. -/
structure Assessed where
  program : Program
  succeeded : Bool

variable {σ : Type} {config : EvolutionConfig} {evaluator : Evaluator σ}

namespace Assessed

/-- What becomes of a program with an answer about it. -/
def ofAnswer (p : Program) : Except CompileError Program → Assessed
  | .ok judged => ⟨judged, true⟩
  | .error _ => ⟨p, false⟩

/-- Judges the programs in order. -/
def judgeAll (evaluator : Evaluator σ) : List Program → StateM σ (List Assessed)
  | [] => return []
  | p :: rest => do
    let answer ← evaluator p
    let others ← judgeAll evaluator rest
    return ofAnswer p answer :: others

/-- Sorts by score, the best program last. -/
def ranked (population : List Assessed) : List Assessed :=
  population.mergeSort fun a b => a.program.score.atMost b.program.score

/-- Judges and sorts a population. -/
def evaluate (evaluator : Evaluator σ) (programs : List Program) (memory : σ) : List Assessed :=
  ranked (judgeAll evaluator programs memory).1

/-- Puts `elite` in the place of the first of a sorted population if its score is greater, and sorts
again. -/
def keepElite (population : List Assessed) (elite : Assessed) : List Assessed :=
  match population with
  | [] => []
  | worst :: rest =>
    if elite.program.score.beats worst.program.score then ranked (elite :: rest) else population

/-- The best program of the population takes part in the next one. -/
def withElite (population children : List Assessed) : List Assessed :=
  match population.getLast? with
  | some elite => keepElite children elite
  | none => children

end Assessed

/-- The population at the end of a generation, with the marks. -/
def Run.assessed (config : EvolutionConfig) (evaluator : Evaluator σ) (words : Words) (memory : σ) :
    Nat → Except EvolutionError (List Assessed)
  | 0 => do
    let (programs, _) ← drawing (firstPrograms config) words
    return Assessed.evaluate evaluator programs memory
  | g + 1 => do
    let population ← assessed config evaluator words memory g
    let run ← after config evaluator words memory g
    let (children, _) ← breed config run.population run.words
    return Assessed.withElite population (Assessed.evaluate evaluator children run.memory)

namespace Assessed

/-! ### Forgetting the marks -/

theorem judgeAll_cons (evaluator : Evaluator σ) (p : Program) (rest : List Program) (memory : σ) :
    judgeAll evaluator (p :: rest) memory =
      let (answer, after) := evaluator p memory
      let others := judgeAll evaluator rest after
      (ofAnswer p answer :: others.1, others.2) := rfl

/-- The marks are those of the programs that are counted as failures. -/
theorem judgeAll_programs (evaluator : Evaluator σ) (programs : List Program) (memory : σ) :
    Population.judgeAll evaluator programs memory =
      (((judgeAll evaluator programs memory).1.map (·.program),
        (judgeAll evaluator programs memory).1.countP (! ·.succeeded)),
        (judgeAll evaluator programs memory).2) := by
  induction programs generalizing memory with
  | nil => rfl
  | cons p rest ih =>
    rw [Population.judgeAll_cons, judgeAll_cons]
    rcases answered : evaluator p memory with ⟨e | q, after⟩
    · simp [Population.judgeOne_of_error answered, ih, ofAnswer, Nat.add_comm]
    · simp [Population.judgeOne_of_ok answered, ih, ofAnswer]

theorem map_ranked (population : List Assessed) :
    (ranked population).map (·.program) = Population.ranked (population.map (·.program)) :=
  List.map_mergeSort fun _ _ _ _ => rfl

theorem map_evaluate (evaluator : Evaluator σ) (programs : List Program) (memory : σ) :
    (evaluate evaluator programs memory).map (·.program) =
      (Population.evaluate evaluator programs memory).1.1 := by
  rw [Population.evaluate_members, judgeAll_programs, evaluate, map_ranked]

theorem map_keepElite (population : List Assessed) (elite : Assessed) :
    (keepElite population elite).map (·.program) =
      Progeny.keepElite (population.map (·.program)) elite.program := by
  cases population with
  | nil => rfl
  | cons worst rest =>
    unfold keepElite Progeny.keepElite
    simp only [List.map_cons]
    split
    · rw [map_ranked, List.map_cons]
    · rfl

theorem map_withElite (population children : List Assessed) :
    (withElite population children).map (·.program) =
      Run.withElite (population.map (·.program)) (children.map (·.program)) := by
  unfold withElite Run.withElite
  rw [List.getLast?_map]
  cases population.getLast? with
  | none => rfl
  | some elite => exact map_keepElite children elite

/-! ### What the marks say -/

/-- The program and its mark are what some answer made of a program that was never evaluated. -/
def Answered (evaluator : Evaluator σ) (a : Assessed) : Prop :=
  ∃ born before answer after, born.Unevaluated ∧ evaluator born before = (answer, after) ∧
    a = ofAnswer born answer

theorem answered_evaluate {programs : List Program} (born : ∀ p ∈ programs, p.Unevaluated)
    (memory : σ) : ∀ a ∈ evaluate evaluator programs memory, a.Answered evaluator := by
  intro a mem
  replace mem := (List.mergeSort_perm _ _).mem_iff.mp mem
  induction programs generalizing memory with
  | nil => cases mem
  | cons p rest ih =>
    rw [List.forall_mem_cons] at born
    rcases List.mem_cons.mp mem with rfl | later
    · exact ⟨p, memory, _, _, born.1, rfl, rfl⟩
    · exact ih born.2 _ later

theorem mem_withElite {population children : List Assessed} {a : Assessed}
    (mem : a ∈ withElite population children) : a ∈ children ∨ a ∈ population := by
  unfold withElite at mem
  cases last : population.getLast? with
  | none =>
    rw [last] at mem
    exact .inl mem
  | some elite =>
    simp only [last] at mem
    cases children with
    | nil => exact .inl mem
    | cons worst rest =>
      simp only [keepElite] at mem
      split at mem
      · rcases List.mem_cons.mp ((List.mergeSort_perm _ _).mem_iff.mp mem) with rfl | other
        · exact .inr (List.mem_of_getLast? last)
        · exact .inl (List.mem_cons_of_mem _ other)
      · exact .inl mem

end Assessed

namespace Run

variable {words : Words} {memory : σ}

/-- A population of a run with marks that are told by the answers of the evaluator. -/
structure Marked (evaluator : Evaluator σ) (population : List Program) (final : List Assessed) :
    Prop where
  programs : final.map (·.program) = population
  answered : ∀ a ∈ final, a.Answered evaluator

theorem exists_assessed (allowed : config.Allowed) {g : Nat} {run : Run σ}
    (reached : after config evaluator words memory g = .ok run) :
    ∃ population, assessed config evaluator words memory g = .ok population ∧
      Marked evaluator run.population population := by
  refine after_induction allowed
    (motive := fun g run => ∃ population, assessed config evaluator words memory g =
      .ok population ∧ Marked evaluator run.population population) ?_ ?_ reached
  · intro programs rest started
    obtain ⟨programs, rest, drawn, initial, population⟩ := exists_drawn_of_start started
    refine ⟨Assessed.evaluate evaluator programs memory, ?_, ?_, ?_⟩
    · rw [assessed, drawn]
      rfl
    · rw [Assessed.map_evaluate, population]
    · exact Assessed.answered_evaluate (fun p mem => (initial p mem).unevaluated) memory
  · intro g run brood reached ih hatched _
    obtain ⟨population, assessedSo, marked⟩ := ih
    have some := (batch_after allowed reached).ne_nil allowed.populationSize_pos
    obtain ⟨children, rest, bred, offspring, members⟩ :=
      exists_offspring_of_brood allowed some hatched
    -- the marked run breeds from the population without marks, so both have the same children
    refine ⟨Assessed.withElite population (Assessed.evaluate evaluator children run.memory), ?_,
      ?_, fun a mem => ?_⟩
    · rw [assessed, assessedSo, reached]
      change (breed config run.population run.words >>= _) = _
      rw [bred]
      rfl
    · rw [Assessed.map_withElite, Assessed.map_evaluate, marked.programs, ← members]
      rfl
    · rcases Assessed.mem_withElite mem with child | old
      · exact Assessed.answered_evaluate (fun p mem => (offspring p mem).unevaluated) _ a child
      · exact marked.answered a old

end Run

/-! ### The best program -/

theorem Assessed.Answered.unevaluated {a : Assessed} (answered : a.Answered evaluator)
    (failed : a.succeeded = false) : a.program.Unevaluated := by
  obtain ⟨born, before, answer, after, unevaluated, -, rfl⟩ := answered
  cases answer with
  | error e => exact unevaluated
  | ok q => cases failed

variable {memory : σ} {seed : UInt64} {words : Words} {elapsed : Nat → Duration}

/-- With an evaluator that leaves only numbers, the best program of a run was evaluated if some
evaluated program of the last population scores above 0, which is what a failed program keeps; and
it was not if there is a failed program and all evaluated ones score below 0. -/
theorem best_succeeded_of_positive (accepted : config.validate = .ok ())
    (numbers : evaluator.LeavesNumbers) {outcome : Outcome}
    (done : (evolveOn config evaluator memory seed words elapsed).result = .ok outcome) :
    ∃ last final best,
      Run.after config evaluator words memory config.generations = .ok last ∧
      Run.assessed config evaluator words memory config.generations = .ok final ∧
      Run.Marked evaluator last.population final ∧
      final.getLast? = some best ∧ best.program = outcome.best ∧
      ((∃ a ∈ final, a.succeeded = true ∧ a.program.score.value > 0.0) → best.succeeded = true) ∧
      ((∃ a ∈ final, a.succeeded = false) →
        (∀ a ∈ final, a.succeeded = true → a.program.score.value < 0.0) →
        best.succeeded = false) := by
  have allowed := EvolutionConfig.validate_eq_ok_iff.mp accepted
  obtain ⟨last, reached, isBest, -⟩ := exists_last_of_outcome allowed done
  obtain ⟨final, assessedSo, marked⟩ := Run.exists_assessed allowed reached
  have batch := Run.batch_after allowed reached
  rw [← marked.programs, List.getLast?_map, Option.map_eq_some_iff] at isBest
  obtain ⟨best, isLast, same⟩ := isBest
  have inside := List.mem_of_getLast? isLast
  have zero : Score.zero.value = 0.0 := by decide +kernel
  have below : ∀ a ∈ final, a.program.score.value ≤ best.program.score.value := by
    intro a mem
    have lastOne : last.population.getLast? = some best.program := by
      rw [← marked.programs, List.getLast?_map, isLast]
      rfl
    refine batch.value_le_last numbers lastOne a.program ?_
    rw [← marked.programs]
    exact List.mem_map_of_mem mem
  refine ⟨last, final, best, reached, assessedSo, marked, isLast, same, ?_, ?_⟩
  -- no score is above that of the best, which is 0 if it failed
  · rintro ⟨a, mem, -, positive⟩
    by_contra failed
    have born := (marked.answered best inside).unevaluated (Bool.eq_false_iff.mpr failed)
    have bound := below a mem
    rw [born.score, zero] at bound
    exact Double.not_lt_of_le bound positive
  · rintro ⟨a, mem, failed⟩ negative
    by_contra succeeded
    have bound := below a mem
    rw [((marked.answered a mem).unevaluated failed).score, zero] at bound
    exact Double.not_lt_of_le bound (negative best inside (by simpa using succeeded))

/-! ### An evaluator that fails -/

/-- Gives all programs the same score, but cannot evaluate those with a point in their text. -/
def Evaluator.withoutPoint (score : Score) : Evaluator Unit :=
  .ofFunction fun p =>
    if p.render.toList.contains '.' then .error (.scratchFile "disk full")
    else .ok (p.setScore score)

theorem Evaluator.withoutPoint_cases {score : Score} {p : Program} {before after : Unit}
    {answer : Except CompileError Program}
    (answered : withoutPoint score p before = (answer, after)) :
    (∃ e, answer = .error e) ∨ answer = .ok (p.setScore score) := by
  have same : (if p.render.toList.contains '.' then
      .error (CompileError.scratchFile "disk full") else .ok (p.setScore score)) = answer :=
    congrArg Prod.fst answered
  split at same
  · exact .inl ⟨_, same.symm⟩
  · exact .inr same.symm

theorem Evaluator.leavesNumbers_withoutPoint {score : Score} (number : score.value.isNaN = false) :
    (withoutPoint score).LeavesNumbers := by
  intro p before q after answered
  obtain ⟨e, failed⟩ | judged := withoutPoint_cases answered
  · cases failed
  · cases judged
    exact number

/-- The scores tell the marks: failed programs keep 0, and all others have the one score. -/
theorem Assessed.succeeded_of_score_ne {score : Score} {a : Assessed}
    (answered : a.Answered (.withoutPoint score)) (h : a.program.score ≠ .zero) :
    a.succeeded = true := by
  by_contra failed
  exact h (answered.unevaluated (Bool.eq_false_iff.mpr failed)).score

theorem Assessed.failed_of_score_ne {score : Score} {a : Assessed}
    (answered : a.Answered (.withoutPoint score)) (h : a.program.score ≠ score) :
    a.succeeded = false := by
  obtain ⟨born, before, answer, after, -, answered, rfl⟩ := answered
  obtain ⟨e, rfl⟩ | rfl := Evaluator.withoutPoint_cases answered
  · rfl
  · exact absurd rfl h

/-- The settings of a run of two programs and one generation. -/
def EvolutionConfig.pair : EvolutionConfig := { EvolutionConfig.smallest with populationSize := 2 }

theorem pair_ends :
    (evolve .pair (.withoutPoint (.ofFloat (-1.0))) () 22
      fun _ => .ofSeconds 0).result.toOption.map (·.best.score) = some .zero ∧
    (evolve .pair (.withoutPoint (.ofFloat 1.0)) () 22
      fun _ => .ofSeconds 0).result.toOption.map (·.best.score) = some (.ofFloat 1.0) := by
  simp only [evolve, evolveOn, Run.start, EvolutionConfig.pair, EvolutionConfig.smallest,
    Run.proceed, Run.advance, Run.brood, Run.withElite, keepElite, Population.evaluate,
    Population.ranked_eq_foldr]
  decide +kernel

theorem pair_scores :
    (Run.after .pair (.withoutPoint (.ofFloat (-1.0))) (.ofSeed 22) () 1).toOption.map
      (fun run => run.population.map (·.score)) = some [.ofFloat (-1.0), .zero] := by
  simp only [Run.after, Run.start, EvolutionConfig.pair, EvolutionConfig.smallest, Run.advance,
    Run.brood, Run.withElite, keepElite, Population.evaluate, Population.ranked_eq_foldr]
  decide +kernel

/-- A failed program wins against one that was evaluated. -/
theorem failed_program_wins :
    EvolutionConfig.pair.validate = .ok () ∧
    (Evaluator.withoutPoint (.ofFloat (-1.0))).LeavesNumbers ∧
    ∃ outcome last final best,
      (evolve .pair (.withoutPoint (.ofFloat (-1.0))) () 22 fun _ => .ofSeconds 0).result =
        .ok outcome ∧
      Run.after .pair (.withoutPoint (.ofFloat (-1.0))) (.ofSeed 22) () 1 = .ok last ∧
      Run.assessed .pair (.withoutPoint (.ofFloat (-1.0))) (.ofSeed 22) () 1 = .ok final ∧
      Run.Marked (.withoutPoint (.ofFloat (-1.0))) last.population final ∧
      final.getLast? = some best ∧ best.program = outcome.best ∧
      (∃ a ∈ final, a.succeeded = true) ∧ best.succeeded = false := by
  have accepted : EvolutionConfig.pair.validate = .ok () := by decide +kernel
  refine ⟨accepted, Evaluator.leavesNumbers_withoutPoint (by decide +kernel), ?_⟩
  obtain ⟨outcome, found, -⟩ := Option.map_eq_some_iff.mp pair_ends.1
  have done := eq_ok_of_toOption found
  have allowed := EvolutionConfig.validate_eq_ok_iff.mp accepted
  obtain ⟨last, reached, isBest, -⟩ := exists_last_of_outcome allowed done
  obtain ⟨final, assessedSo, marked⟩ := Run.exists_assessed allowed reached
  have scores : final.map (·.program.score) = [.ofFloat (-1.0), .zero] := by
    obtain ⟨run, foundRun, scores⟩ := Option.map_eq_some_iff.mp pair_scores
    rw [show EvolutionConfig.pair.generations = 1 from rfl, eq_ok_of_toOption foundRun] at reached
    cases reached
    rw [← scores, ← marked.programs, List.map_map]
    rfl
  obtain ⟨evaluated, rest, rfl, first, others⟩ := List.map_eq_cons_iff.mp scores
  obtain ⟨best, none, rfl, second, empty⟩ := List.map_eq_cons_iff.mp others
  obtain rfl := List.map_eq_nil_iff.mp empty
  refine ⟨outcome, last, _, best, done, reached, assessedSo, marked, rfl, ?_, ?_, ?_⟩
  · rw [← marked.programs] at isBest
    exact Option.some.inj isBest
  · refine ⟨evaluated, List.mem_cons_self, ?_⟩
    refine Assessed.succeeded_of_score_ne (marked.answered _ List.mem_cons_self) ?_
    rw [first]
    decide +kernel
  · refine Assessed.failed_of_score_ne
      (marked.answered _ (List.mem_cons_of_mem _ List.mem_cons_self)) ?_
    rw [second]
    decide +kernel

theorem best_succeeded_of_pair :
    ∃ outcome final best,
      (evolve .pair (.withoutPoint (.ofFloat 1.0)) () 22 fun _ => .ofSeconds 0).result =
        .ok outcome ∧
      Run.assessed .pair (.withoutPoint (.ofFloat 1.0)) (.ofSeed 22) () 1 = .ok final ∧
      final.getLast? = some best ∧ best.program = outcome.best ∧
      (∃ a ∈ final, a.succeeded = true ∧ a.program.score.value > 0.0) ∧ best.succeeded = true := by
  obtain ⟨outcome, found, score⟩ := Option.map_eq_some_iff.mp pair_ends.2
  have done := eq_ok_of_toOption found
  obtain ⟨last, final, best, -, assessedSo, marked, isLast, same, succeeds, -⟩ :=
    best_succeeded_of_positive (by decide +kernel)
      (Evaluator.leavesNumbers_withoutPoint (by decide +kernel)) done
  have inside := List.mem_of_getLast? isLast
  have positive : ∃ a ∈ final, a.succeeded = true ∧ a.program.score.value > 0.0 := by
    rw [← same] at score
    refine ⟨best, inside, ?_, ?_⟩
    · refine Assessed.succeeded_of_score_ne (marked.answered best inside) ?_
      rw [score]
      decide +kernel
    · rw [score]
      decide +kernel
  exact ⟨outcome, final, best, done, assessedSo, isLast, same, positive, succeeds positive⟩

end Progeny

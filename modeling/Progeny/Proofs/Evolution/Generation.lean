import Progeny.Evolution.Run
import Progeny.Proofs.Breeding
import Progeny.Proofs.Evaluation

/-!
# One generation

With settings that are allowed, a generation cannot fail except by running out of words.  The
populations that it goes through are batches: they have the size that the settings ask for, they are
sorted, and each of their programs was either judged by the evaluator or is as it was born.  The
first population is a batch, the children of a batch are one, and so is what elitism makes of both.
-/

namespace Progeny

open Draw Fallible

/-! ### Allowed settings -/

/-- Positive counts, and rates that are probabilities. -/
structure EvolutionConfig.Allowed (config : EvolutionConfig) : Prop where
  counts : ∀ count ∈ config.counts, 0 < count.2
  rates : ∀ rate ∈ config.rates, 0.0 ≤ rate.2 ∧ rate.2 ≤ 1.0

namespace EvolutionConfig

variable {config : EvolutionConfig}

theorem validate_eq_ok_iff : config.validate = .ok () ↔ config.Allowed := by
  have noCountFault : config.countFault? = none ↔ ∀ count ∈ config.counts, 0 < count.2 := by
    simp [countFault?, Nat.pos_iff_ne_zero]
  have noRateFault : config.rateFault? = none ↔
      ∀ rate ∈ config.rates, 0.0 ≤ rate.2 ∧ rate.2 ≤ 1.0 := by
    simp [rateFault?, isProbability]
  have noFault : config.fault? = none ↔ config.countFault? = none ∧ config.rateFault? = none :=
    Option.or_eq_none_iff
  have accepts : config.validate = .ok () ↔ config.fault? = none := by
    unfold validate
    cases config.fault? <;> simp
  rw [accepts, noFault, noCountFault, noRateFault]
  exact ⟨fun h => ⟨h.1, h.2⟩, fun h => ⟨h.counts, h.rates⟩⟩

/-- The settings of a run of one program and one generation, without inserted and repeated
statements. -/
def smallest : EvolutionConfig where
  generations := 1
  populationSize := 1
  mutation := { insertRate := 0.0, duplicateRate := 0.0 }

/-- The settings of a short run in which about every other edit takes place. -/
def lively : EvolutionConfig where
  statementsPerProgram := 2
  generations := 2
  populationSize := 2
  mutation :=
    { insertRate := 0.5, maxInsertedStatements := 2, duplicateRate := 0.5, removeRate := 0.5,
      swapRate := 0.5, tokenInsertRate := 0.5 }

theorem validate_lively : lively.validate = .ok () := by decide +kernel

theorem Allowed.populationSize_pos (allowed : config.Allowed) : 0 < config.populationSize :=
  allowed.counts ("population_size", config.populationSize) (by simp [EvolutionConfig.counts])

theorem Allowed.statementsPerProgram_pos (allowed : config.Allowed) :
    0 < config.statementsPerProgram :=
  allowed.counts ("statements_per_program", config.statementsPerProgram)
    (by simp [EvolutionConfig.counts])

theorem Allowed.crossoverRate (allowed : config.Allowed) :
    0.0 ≤ config.crossover.crossoverRate ∧ config.crossover.crossoverRate ≤ 1.0 :=
  allowed.rates ("crossover.crossover_rate", config.crossover.crossoverRate)
    (by simp [EvolutionConfig.rates])

theorem Allowed.mutationRates (allowed : config.Allowed) :
    ∀ rate ∈ config.mutation.rates, 0.0 ≤ rate.2 ∧ rate.2 ≤ 1.0 :=
  fun rate mem => allowed.rates rate (List.mem_cons_of_mem _ mem)

/-- Settings that are let through leave room for the statements of a program. -/
theorem room_of_check (checked : config.check = .ok ()) :
    config.statementsPerProgram ≤ Program.maxStatements := by
  unfold check at checked
  cases accepted : config.validate with
  | error fault => simp [accepted] at checked
  | ok _ =>
    by_contra crowded
    simp only [accepted, checkRoom, if_pos (Nat.not_le.mp crowded)] at checked
    split at checked <;> cases checked

end EvolutionConfig

/-! ### Batches -/

variable {σ : Type}

/-- A sorted population of `size` programs, each of which `evaluator` judged as it was born. -/
structure Batch (evaluator : Evaluator σ) (size : Nat) (population : List Program) : Prop where
  length : population.length = size
  sorted : population.Pairwise fun p q => p.score.rank ≤ q.score.rank
  judged : ∀ p ∈ population, ∃ born : Program, born.Unevaluated ∧ Judged evaluator born p

variable {evaluator : Evaluator σ} {size : Nat}

theorem batch_evaluate {children : List Program} (length : children.length = size)
    (born : ∀ p ∈ children, p.Unevaluated) (memory : σ) :
    Batch evaluator size (Population.evaluate evaluator children memory).1.1 where
  length := by rw [Population.length_evaluate, length]
  sorted := Population.evaluate_pairwise evaluator children memory
  judged := by
    intro q hq
    obtain ⟨p, hp, judged⟩ := Population.exists_judged_of_mem_evaluate hq
    exact ⟨p, born p hp, judged⟩

theorem Batch.ne_nil {population : List Program} (batch : Batch evaluator size population)
    (positive : 0 < size) : population ≠ [] := by
  rintro rfl
  have := batch.length
  simp at this
  omega

/-- Nothing in a batch ranks above its last program. -/
theorem Batch.rank_le_last {population : List Program} (batch : Batch evaluator size population)
    {last : Program} (isLast : population.getLast? = some last) :
    ∀ p ∈ population, p.score.rank ≤ last.score.rank := by
  obtain ⟨before, rfl⟩ := List.getLast?_eq_some_iff.mp isLast
  intro p mem
  rcases List.mem_append.mp mem with earlier | same
  · exact (List.pairwise_append.mp batch.sorted).2.2 p earlier last (List.mem_singleton_self last)
  · cases List.mem_singleton.mp same
    exact Int.le_refl _

/-! ### Elitism -/

/-- Elitism keeps all children, or puts the elite in the place of the worst one, which it beats. -/
theorem keepElite_cases (population : List Program) (elite : Program) :
    (keepElite population elite = population ∧
        ∀ worst ∈ population.head?, elite.score.beats worst.score = false) ∨
      ∃ worst rest, population = worst :: rest ∧ elite.score.beats worst.score = true ∧
        keepElite population elite = Population.ranked (elite :: rest) := by
  cases population with
  | nil => exact .inl ⟨rfl, nofun⟩
  | cons worst rest =>
    cases beats : elite.score.beats worst.score with
    | false =>
      refine .inl ⟨if_neg (by simp [beats]), fun first isFirst => ?_⟩
      cases isFirst
      exact beats
    | true => exact .inr ⟨worst, rest, rfl, beats, if_pos beats⟩

theorem batch_keepElite {population : List Program} {elite : Program}
    (batch : Batch evaluator size population)
    (judged : ∃ born : Program, born.Unevaluated ∧ Judged evaluator born elite) :
    Batch evaluator size (keepElite population elite) := by
  obtain ⟨kept, -⟩ | ⟨worst, rest, rfl, -, replaced⟩ := keepElite_cases population elite
  · rw [kept]
    exact batch
  · have perm := Population.ranked_perm (elite :: rest)
    rw [replaced]
    refine ⟨?_, Population.ranked_pairwise _, fun p hp => ?_⟩
    · rw [perm.length_eq]
      exact batch.length
    · rcases List.mem_cons.mp (perm.mem_iff.mp hp) with rfl | others
      · exact judged
      · exact batch.judged p (List.mem_cons_of_mem _ others)

theorem Batch.withElite {population children : List Program}
    (before : Batch evaluator size population) (batch : Batch evaluator size children) :
    Batch evaluator size (Run.withElite population children) := by
  unfold Run.withElite
  cases last : population.getLast? with
  | none => exact batch
  | some elite => exact batch_keepElite batch (before.judged elite (List.mem_of_getLast? last))

/-! ### Words and sizes -/

namespace Run

variable {config : EvolutionConfig}

/-- The same state with `more` further words. -/
def plus (run : Run σ) (more : Nat) : Run σ := { run with words := run.words.plus more }

/-- The same state on other words. -/
def on (run : Run σ) (words : Words) : Run σ := { run with words := words }

theorem plus_eq_on {run : Run σ} {rest : List UInt64} {left : Nat}
    (words : run.words = .thenZeros rest left) (more : Nat) :
    run.plus more = (run.on (.thenZeros rest more)).plus left := by
  unfold plus on
  rw [words, Words.plus_thenZeros, Words.plus_thenZeros, Nat.add_comm]

end Run

/-- The same children with `more` further words. -/
def Brood.plus (brood : Brood σ) (more : Nat) : Brood σ :=
  { brood with words := brood.words.plus more }

namespace Run

variable {config : EvolutionConfig}

theorem checkSize_self (phase : Phase) (n : Nat) : checkSize phase n n = .ok () := by
  unfold checkSize
  rw [if_neg (Nat.lt_irrefl n), if_neg (Nat.lt_irrefl n)]

theorem drawing_bind {α β : Type} (draw : Draw α) (next : α → Draw β) (words : Words) :
    drawing (draw >>= next) words =
      drawing draw words >>= fun drawn => drawing (next drawn.1) drawn.2 := by
  unfold drawing
  rw [bind_eq]
  cases draw words <;> rfl

/-- After a draw, only what its results satisfy matters. -/
theorem drawing_bind_congr {α β : Type} {draw : Draw α} {P : α → Prop} (h : Yields 0 draw P)
    (words : Words) {f g : α × Words → Except EvolutionError β}
    (same : ∀ a rest, P a → f (a, rest) = g (a, rest)) :
    drawing draw words >>= f = drawing draw words >>= g := by
  unfold drawing
  cases drawn : draw words with
  | error e => rfl
  | ok result => exact same result.1 result.2 (h.result drawn)

theorem drawing_result {α : Type} {draw : Draw α} {P : α → Prop} (h : Yields 0 draw P)
    {words rest : Words} {a : α} (drawn : drawing draw words = .ok (a, rest)) : P a := by
  unfold drawing at drawn
  cases result : draw words with
  | error e => simp [result] at drawn
  | ok first =>
    rw [result] at drawn
    cases drawn
    exact h.result result

theorem drawing_cases {α : Type} {draw : Draw α} {P : α → Prop} (h : Yields 0 draw P)
    (words : Words) :
    drawing draw words = .error (.draw .dry) ∨
      ∃ a rest, P a ∧ drawing draw words = .ok (a, rest) ∧
        ∀ more, drawing draw (words.plus more) = .ok (a, rest.plus more) := by
  unfold drawing
  cases drawn : draw words with
  | error e =>
    left
    rw [h.failure drawn]
  | ok result =>
    right
    refine ⟨result.1, result.2, h.result drawn, rfl, fun more => ?_⟩
    rw [h.steady drawn more]

/-- Whatever words come first, enough zero words after them let a draw end. -/
theorem drawing_ends {α : Type} {draw : Draw α} {P : α → Prop} (first : List UInt64)
    (h : Yields (first.length + 1) draw P) :
    ∃ supply a rest left, P a ∧
      drawing draw (.thenZeros first supply) = .ok (a, .thenZeros rest left) := by
  obtain ⟨supply, a, rest, left, drawn, -⟩ := h.ends (Nat.lt_succ_self _)
  refine ⟨supply, a, rest, left, h.result drawn, ?_⟩
  unfold drawing
  rw [drawn]

/-! ### The children of a population -/

/-- The mutants of a pool's children have their parents in the population that the pool was taken
from. -/
theorem exists_parents_of_forall₂ {R : Program → Program → Program → Prop}
    {M : Program → Program → Prop} {population pool children mutated : List Program}
    (selected : ∀ p ∈ pool, p ∈ population)
    (bred : ∀ p ∈ children, ∃ first ∈ pool, ∃ second ∈ pool, R first second p)
    (edited : List.Forall₂ M children mutated) :
    ∀ p ∈ mutated, ∃ first ∈ population, ∃ second ∈ population, ∃ child,
      R first second child ∧ M child p := by
  intro p mem
  obtain ⟨child, inside, changed⟩ := exists_mem_of_forall₂ edited mem
  obtain ⟨first, firstInside, second, secondInside, born⟩ := bred child inside
  exact ⟨first, selected first firstInside, second, selected second secondInside, child, born,
    changed⟩

/-- The mutated children of a pool are offspring of the population that the pool was taken from. -/
theorem offspring_of_forall₂ {population pool children mutated : List Program}
    (selected : ∀ p ∈ pool, p ∈ population)
    (bred : ∀ p ∈ children, ∃ first ∈ pool, ∃ second ∈ pool, first.ChildOf second p)
    (edited : List.Forall₂ Program.Edited children mutated) :
    ∀ p ∈ mutated, p.OffspringOf population := exists_parents_of_forall₂ selected bred edited

/-- The phases of breeding without the checks between them. -/
def breeding (config : EvolutionConfig) (population : List Program) : Draw (List Program) := do
  let pool ← Selection.select population config.populationSize
  let children ← Crossover.children config.crossover pool
  Mutation.mutateAll config.mutation children

/-- What relates children to their parents and mutants to children relates what is bred to the
population. -/
theorem yields_breedingOf {R : Program → Program → Program → Prop} {M : Program → Program → Prop}
    {listed : Nat}
    (crossed : ∀ first second,
      Yields listed (Crossover.child config.crossover first second) (R first second))
    (mutated : ∀ p, Yields listed (Mutation.mutate config.mutation p) (M p))
    {population : List Program} (some : population ≠ []) :
    Yields listed (breeding config population) fun children =>
      children.length = config.populationSize ∧
        ∀ p ∈ children, ∃ first ∈ population, ∃ second ∈ population, ∃ child,
          R first second child ∧ M child p := by
  refine (Selection.yields_select some _).bind fun pool hpool => ?_
  refine (Crossover.yields_childrenOf crossed pool).bind fun children hchildren => ?_
  refine (Mutation.yields_mutateEach mutated children).mono fun mutants hmutants => ?_
  refine ⟨?_, exists_parents_of_forall₂ hpool.2 hchildren.2 hmutants⟩
  rw [← hmutants.length_eq, hchildren.1, hpool.1]

theorem yields_breeding (allowed : config.Allowed) {population : List Program}
    {listed : Nat} (some : population ≠ []) :
    Yields listed (breeding config population) fun children =>
      children.length = config.populationSize ∧ ∀ p ∈ children, p.OffspringOf population :=
  yields_breedingOf (Crossover.yields_childOf allowed.crossoverRate)
    (Mutation.yields_edited allowed.mutationRates) some

/-- The checks between the phases of breeding never refuse. -/
theorem breed_eq (allowed : config.Allowed) {population : List Program} (some : population ≠ [])
    (words : Words) :
    breed config population words = drawing (breeding config population) words := by
  unfold breed breeding
  rw [drawing_bind]
  refine drawing_bind_congr (Selection.yields_select some _) words fun pool rest hpool => ?_
  rw [drawing_bind]
  change (checkSize .selection config.populationSize pool.length >>= fun _ => _) = _
  rw [hpool.1, checkSize_self]
  refine drawing_bind_congr (Crossover.yields_children allowed.crossoverRate pool) rest
    fun children rest hchildren => ?_
  change (checkSize .crossover config.populationSize children.length >>= fun _ => _) = _
  rw [hchildren.1, hpool.1, checkSize_self]
  conv_rhs => rw [← bind_pure (drawing (Mutation.mutateAll config.mutation children) rest)]
  refine drawing_bind_congr (Mutation.yields_mutateAll allowed.mutationRates children) rest
    fun mutated rest hmutated => ?_
  change (checkSize .mutation config.populationSize mutated.length >>= fun _ => _) = _
  rw [← hmutated.length_eq, hchildren.1, hpool.1, checkSize_self]
  rfl

/-- Either the words run dry, or the evaluated children are a batch, whatever words follow. -/
theorem brood_cases (allowed : config.Allowed) {run : Run σ}
    (batch : Batch evaluator config.populationSize run.population) :
    run.brood config evaluator = .error (.draw .dry) ∨
      ∃ brood, Batch evaluator config.populationSize brood.members ∧
        run.brood config evaluator = .ok brood ∧
        ∀ more, (run.plus more).brood config evaluator = .ok (brood.plus more) := by
  have some := batch.ne_nil allowed.populationSize_pos
  unfold brood
  simp only [breed_eq allowed some, plus]
  obtain dry | ⟨children, rest, ⟨length, born⟩, drawn, steady⟩ :=
    drawing_cases (yields_breeding allowed some) run.words
  · left
    rw [dry]
    rfl
  · right
    rw [drawn]
    have unevaluated := fun p mem => (born p mem).unevaluated
    refine ⟨_, batch_evaluate length unevaluated run.memory, rfl, fun more => ?_⟩
    rw [steady more]
    rfl

/-! ### The step to the next population -/

/-- The state after `run` with the given children. -/
def follow (generation : Nat) (run : Run σ) (brood : Brood σ) : Run σ :=
  run.record (withElite run.population brood.members) brood.words brood.memory
    ⟨generation, .ofPopulation (withElite run.population brood.members), brood.failures⟩

theorem advance_eq {run : Run σ} {brood : Brood σ} (generation : Nat)
    (before : Batch evaluator config.populationSize run.population)
    (batch : Batch evaluator config.populationSize brood.members)
    (hatched : run.brood config evaluator = .ok brood) :
    run.advance config evaluator generation = .ok (run.follow generation brood) := by
  unfold advance
  rw [hatched]
  change (checkSize .elitism config.populationSize (withElite run.population brood.members).length
    >>= fun _ => _) = _
  rw [(before.withElite batch).length, checkSize_self]
  rfl

/-- A generation that has a result: its children are a batch, the state follows from them, and more
words do not change that. -/
theorem exists_brood_of_advance (allowed : config.Allowed) {generation : Nat} {run next : Run σ}
    (before : Batch evaluator config.populationSize run.population)
    (advanced : run.advance config evaluator generation = .ok next) :
    ∃ brood, run.brood config evaluator = .ok brood ∧
      Batch evaluator config.populationSize brood.members ∧ next = run.follow generation brood ∧
      ∀ more, (run.plus more).advance config evaluator generation = .ok (next.plus more) := by
  obtain dry | ⟨brood, batch, hatched, steady⟩ := brood_cases allowed before
  · simp [advance, dry, bind, Except.bind] at advanced
  · rw [advance_eq generation before batch hatched] at advanced
    cases advanced
    refine ⟨brood, hatched, batch, rfl, fun more => ?_⟩
    have beforeToo : Batch evaluator config.populationSize (run.plus more).population := before
    have batchToo : Batch evaluator config.populationSize (brood.plus more).members := batch
    exact advance_eq generation beforeToo batchToo (steady more)

/-- A generation without a result: the words ran dry. -/
theorem advance_failure (allowed : config.Allowed) {generation : Nat} {run : Run σ}
    {e : EvolutionError} (before : Batch evaluator config.populationSize run.population)
    (failed : run.advance config evaluator generation = .error e) : e = .draw .dry := by
  obtain dry | ⟨brood, batch, hatched, -⟩ := brood_cases allowed before
  · simp only [advance, dry, bind, Except.bind, Except.error.injEq] at failed
    exact failed.symm
  · rw [advance_eq generation before batch hatched] at failed
    cases failed

/-- Whatever words come first, enough zero words after them let a generation end. -/
theorem advance_ends (allowed : config.Allowed) (generation : Nat) {run : Run σ}
    (before : Batch evaluator config.populationSize run.population) (first : List UInt64) :
    ∃ supply next rest left, Batch evaluator config.populationSize next.population ∧
      next.words = .thenZeros rest left ∧
      (run.on (.thenZeros first supply)).advance config evaluator generation = .ok next := by
  have some := before.ne_nil allowed.populationSize_pos
  obtain ⟨supply, children, rest, left, ⟨length, born⟩, drawn⟩ :=
    drawing_ends first (yields_breeding allowed some)
  have batch : Batch evaluator _ _ :=
    batch_evaluate length (fun p mem => (born p mem).unevaluated) run.memory
  obtain ⟨brood, words, members, hatched⟩ : ∃ brood : Brood σ, brood.words = .thenZeros rest left ∧
      brood.members = (Population.evaluate evaluator children run.memory).1.1 ∧
      (run.on (.thenZeros first supply)).brood config evaluator = .ok brood := by
    unfold Run.brood
    simp only [breed_eq allowed some, on, drawn]
    exact ⟨⟨_, _, _, _⟩, rfl, rfl, rfl⟩
  rw [← members] at batch
  exact ⟨supply, _, rest, left, before.withElite batch, words,
    advance_eq generation before batch hatched⟩

/-! ### The first population -/

theorem yields_firstPrograms (room : config.statementsPerProgram ≤ Program.maxStatements)
    {listed : Nat} :
    Yields listed (firstPrograms config) fun programs => programs.length = config.populationSize ∧
      ∀ p ∈ programs, p.Initial config.statementsPerProgram :=
  yields_replicate (Program.yields_random room) _

/-- With too many statements in a program the first population is refused, unless there is none. -/
theorem firstPrograms_cases (config : EvolutionConfig) :
    (∀ listed, Yields listed (firstPrograms config) fun programs =>
      programs.length = config.populationSize ∧
        ∀ p ∈ programs, p.Initial config.statementsPerProgram) ∨
      Program.maxStatements < config.statementsPerProgram ∧
        ∃ failure, ∀ words, drawing (firstPrograms config) words = .error (.draw failure) := by
  by_cases room : config.statementsPerProgram ≤ Program.maxStatements
  · exact .inl fun _ => yields_firstPrograms room
  · unfold firstPrograms
    cases config.populationSize with
    | zero => exact .inl fun _ => yields_pure ⟨rfl, by simp⟩
    | succ n =>
      obtain ⟨failure, refused⟩ : ∃ failure, ∀ words,
          Program.random config.statementsPerProgram words = .error failure :=
        ⟨_, Program.random_of_no_room (Nat.not_le.mp room)⟩
      refine .inr ⟨Nat.not_le.mp room, failure, fun words => ?_⟩
      rw [drawing, replicate, Fallible.bind_eq, refused]

theorem firstPrograms_result {words rest : Words} {programs : List Program}
    (drawn : drawing (firstPrograms config) words = .ok (programs, rest)) :
    programs.length = config.populationSize ∧
      ∀ p ∈ programs, p.Initial config.statementsPerProgram := by
  obtain yields | ⟨-, failure, refused⟩ := firstPrograms_cases config
  · exact drawing_result (yields 0) drawn
  · rw [refused] at drawn
    cases drawn

/-- The state with the given first programs. -/
def first (evaluator : Evaluator σ) (programs : List Program) (words : Words) (memory : σ) :
    Run σ :=
  let ((population, summary), memory) := Population.evaluate evaluator programs memory
  let stats := ⟨0, .ofPopulation population, summary.failures⟩
  ⟨population, words, memory, [stats], [], stats.scores.best, 0⟩

theorem start_cases (config : EvolutionConfig) (evaluator : Evaluator σ) (words : Words)
    (memory : σ) :
    (∃ failure, start config evaluator words memory = .error (.draw failure) ∧
        (config.statementsPerProgram ≤ Program.maxStatements → failure = .dry)) ∨
      ∃ programs rest, Batch evaluator config.populationSize
          (first evaluator programs rest memory).population ∧
        start config evaluator words memory = .ok (first evaluator programs rest memory) ∧
        ∀ more, start config evaluator (words.plus more) memory =
          .ok ((first evaluator programs rest memory).plus more) := by
  unfold start
  obtain yields | ⟨crowded, failure, refused⟩ := firstPrograms_cases config
  · obtain dry | ⟨programs, rest, ⟨length, born⟩, drawn, steady⟩ := drawing_cases (yields 0) words
    · left
      rw [dry]
      exact ⟨.dry, rfl, fun _ => rfl⟩
    right
    rw [drawn]
    have unevaluated := fun p mem => (born p mem).unevaluated
    refine ⟨programs, rest, batch_evaluate length unevaluated memory, rfl, fun more => ?_⟩
    rw [steady more]
    rfl
  · left
    rw [refused]
    exact ⟨failure, rfl, fun room => absurd room (Nat.not_le.mpr crowded)⟩

/-- A run that starts does so in the same way on more words. -/
theorem start_plus {words : Words} {memory : σ} {run : Run σ}
    (started : start config evaluator words memory = .ok run) (more : Nat) :
    start config evaluator (words.plus more) memory = .ok (run.plus more) := by
  obtain ⟨failure, failed, -⟩ | ⟨programs, rest, -, startedSo, steady⟩ :=
    start_cases config evaluator words memory
  · rw [failed] at started
    cases started
  · rw [startedSo] at started
    cases started
    exact steady more

/-- Whatever words come first, enough zero words after them let a run start. -/
theorem start_ends (room : config.statementsPerProgram ≤ Program.maxStatements)
    (evaluator : Evaluator σ) (memory : σ) (first : List UInt64) :
    ∃ supply run rest left, Batch evaluator config.populationSize run.population ∧
      run.words = .thenZeros rest left ∧
      start config evaluator (.thenZeros first supply) memory = .ok run := by
  obtain ⟨supply, programs, rest, left, ⟨length, born⟩, drawn⟩ :=
    drawing_ends first (yields_firstPrograms room)
  refine ⟨supply, Run.first evaluator programs (.thenZeros rest left) memory, rest, left,
    batch_evaluate length (fun p mem => (born p mem).unevaluated) memory, rfl, ?_⟩
  unfold start
  rw [drawn]
  rfl

end Run

end Progeny

import Progeny.Evaluation
import Progeny.Evolution.Config
import Progeny.Selection

/-!
# Runs

A run starts from random programs, which are evaluated and so sorted.  Each generation selects,
crosses, mutates and evaluates; the best program of the generation before takes the place of the
worst new one if its score is greater.  After every phase the population has to have its size, and
after every generation the clock is read.

The state of a run is a value that `Run.advance` takes from one generation to the next.  `evolve`
iterates it against given readings of the clock, and `evolveWith` against a clock that is read as
the run goes on; the two agree wherever the readings do.
-/

namespace Progeny

/-- The phases after which the size of the population is checked. -/
inductive Phase where
  | selection
  | crossover
  | mutation
  | elitism
  | evolution
  deriving DecidableEq, Repr

/-- The name of a phase. -/
def Phase.name : Phase → String
  | .selection => "selection"
  | .crossover => "crossover"
  | .mutation => "mutation"
  | .elitism => "elitism"
  | .evolution => "evolution"

/-- Why a run ended without a result. -/
inductive EvolutionError where
  /-- The settings have a fault. -/
  | config (fault : ConfigError)
  /-- A phase left too few programs. -/
  | populationTooSmall (phase : Phase) (expected actual : Nat)
  /-- A phase left too many programs. -/
  | populationTooLarge (phase : Phase) (expected actual : Nat)
  /-- The time was over after a generation. -/
  | timeBudgetExceeded (limit : Duration) (generation : Nat)
  /-- A draw had no result. -/
  | draw (failure : DrawFailure)
  deriving DecidableEq

namespace EvolutionError

/-- The text of the error. -/
def message : EvolutionError → String
  | .config fault => fault.message
  | .populationTooSmall phase expected actual =>
    "population is too small after " ++ phase.name ++ ": " ++ actual.repr ++ " < " ++ expected.repr
  | .populationTooLarge phase expected actual =>
    "population is too large after " ++ phase.name ++ ": " ++ actual.repr ++ " > " ++ expected.repr
  | .timeBudgetExceeded limit generation =>
    "exceeded the time limit of " ++ limit.render ++ " after generation " ++ generation.repr
  | .draw .dry => "the source of random words ran dry"
  | .draw (.notProbability p) =>
    Decimal.Style.message.render p ++ " is not a probability"
  | .draw .emptyRange => "there is no number to draw from"
  | .draw (.noMember position) => "there is no member " ++ position.repr
  | .draw (.tooMany count) => "there is no room for " ++ count.repr ++ " of them"
  | .draw .overflow => "a count does not fit into a machine word"

end EvolutionError

/-- The statistics of one generation; generation 0 is the first population. -/
structure GenerationStats where
  generation : Nat
  scores : ScoreSummary
  /-- The number of programs that could not be evaluated. -/
  failures : Nat
  deriving DecidableEq

/-- Allows a population of the expected size. -/
def checkSize (phase : Phase) (expected actual : Nat) : Except EvolutionError Unit :=
  if actual < expected then .error (.populationTooSmall phase expected actual)
  else if expected < actual then .error (.populationTooLarge phase expected actual)
  else .ok ()

/-- Puts `elite` in the place of the first of a sorted population if its score is greater, and sorts
again. -/
def keepElite (population : List Program) (elite : Program) : List Program :=
  match population with
  | [] => []
  | worst :: rest =>
    if elite.score.beats worst.score then Population.ranked (elite :: rest) else population

/-- The state of a run between two generations. -/
structure Run (σ : Type) where
  population : List Program
  words : Words
  memory : σ
  /-- The statistics of all generations so far. -/
  history : List GenerationStats
  /-- The statistics that were reported on the way. -/
  reported : List GenerationStats
  bestScore : Float
  bestGeneration : Nat

/-- The children of a generation after their evaluation. -/
structure Brood (σ : Type) where
  members : List Program
  /-- The number of children that could not be evaluated. -/
  failures : Nat
  words : Words
  memory : σ

/-- The best program of the last generation and the statistics of the whole run. -/
structure Outcome where
  best : Program
  seed : UInt64
  generations : List GenerationStats
  /-- The best score of any generation. -/
  bestScore : Float
  /-- The generation that reached it first. -/
  bestGeneration : Nat
  deriving DecidableEq

/-- What a run leaves: the statistics that it reported on the way, one for each generation after
the first population, and its result. -/
structure Trace where
  reported : List GenerationStats
  result : Except EvolutionError Outcome

namespace Run

variable {σ : Type}

/-- A draw from the words of a run. -/
def drawing {α : Type} (draw : Draw α) (words : Words) : Except EvolutionError (α × Words) :=
  match draw words with
  | .ok drawn => .ok drawn
  | .error failure => .error (.draw failure)

/-- The programs that a run starts from, before they are evaluated. -/
def firstPrograms (config : EvolutionConfig) : Draw (List Program) :=
  Draw.replicate config.populationSize (Program.random config.statementsPerProgram)

/-- The first population, evaluated. -/
def start (config : EvolutionConfig) (evaluator : Evaluator σ) (words : Words) (memory : σ) :
    Except EvolutionError (Run σ) := do
  let (programs, words) ← drawing (firstPrograms config) words
  let ((population, summary), memory) := Population.evaluate evaluator programs memory
  let stats := ⟨0, .ofPopulation population, summary.failures⟩
  return ⟨population, words, memory, [stats], [], stats.scores.best, 0⟩

/-- The children of a population, before they are evaluated. -/
def breed (config : EvolutionConfig) (population : List Program) (words : Words) :
    Except EvolutionError (List Program × Words) := do
  let target := config.populationSize
  let (pool, words) ← drawing (Selection.select population target) words
  checkSize .selection target pool.length
  let (children, words) ← drawing (Crossover.children config.crossover pool) words
  checkSize .crossover target children.length
  let (children, words) ← drawing (Mutation.mutateAll config.mutation children) words
  checkSize .mutation target children.length
  return (children, words)

/-- The children of a run's population, evaluated and so sorted. -/
def brood (config : EvolutionConfig) (evaluator : Evaluator σ) (run : Run σ) :
    Except EvolutionError (Brood σ) := do
  let (children, words) ← breed config run.population run.words
  let ((members, summary), memory) := Population.evaluate evaluator children run.memory
  return ⟨members, summary.failures, words, memory⟩

/-- The best program of the population takes part in the next one. -/
def withElite (population children : List Program) : List Program :=
  match population.getLast? with
  | some elite => keepElite children elite
  | none => children

/-- The state after a generation with the given population and statistics. -/
def record (run : Run σ) (population : List Program) (words : Words) (memory : σ)
    (stats : GenerationStats) : Run σ :=
  let better := decide (stats.scores.best > run.bestScore)
  { population := population
    words := words
    memory := memory
    history := run.history ++ [stats]
    reported := run.reported ++ [stats]
    bestScore := if better then stats.scores.best else run.bestScore
    bestGeneration := if better then stats.generation else run.bestGeneration }

/-- One generation. -/
def advance (config : EvolutionConfig) (evaluator : Evaluator σ) (generation : Nat) (run : Run σ) :
    Except EvolutionError (Run σ) := do
  let brood ← run.brood config evaluator
  let population := withElite run.population brood.members
  checkSize .elitism config.populationSize population.length
  return run.record population brood.words brood.memory
    ⟨generation, .ofPopulation population, brood.failures⟩

/-- Refuses to go on after a generation at whose end more than the allowed time had passed. -/
def checkTime (config : EvolutionConfig) (generation : Nat) (elapsed : Duration) :
    Except EvolutionError Unit :=
  if config.timeLimit.nanoseconds < elapsed.nanoseconds then
    .error (.timeBudgetExceeded config.timeLimit generation)
  else .ok ()

/-- The result of a run that is over. -/
def finish (config : EvolutionConfig) (seed : UInt64) (run : Run σ) :
    Except EvolutionError Outcome :=
  match run.population.getLast? with
  | some best => .ok ⟨best, seed, run.history, run.bestScore, run.bestGeneration⟩
  | none => .error (.populationTooSmall .evolution config.populationSize 0)

/-- The generations from `generation` on, `left` of them; `elapsed` gives the time that has passed
at the end of each. -/
def proceed (config : EvolutionConfig) (evaluator : Evaluator σ) (seed : UInt64)
    (elapsed : Nat → Duration) : (left generation : Nat) → Run σ → Trace
  | 0, _, run => ⟨run.reported, run.finish config seed⟩
  | left + 1, generation, run =>
    match run.advance config evaluator generation with
    | .error e => ⟨run.reported, .error e⟩
    | .ok next =>
      match checkTime config generation (elapsed generation) with
      | .error e => ⟨next.reported, .error e⟩
      | .ok () => next.proceed config evaluator seed elapsed left (generation + 1)

/-- The generations from `generation` on, `left` of them, with a clock that is read after each. -/
def proceedWith {m : Type → Type} [Monad m] (config : EvolutionConfig) (evaluator : Evaluator σ)
    (seed : UInt64) (clock : Nat → m Duration) : (left generation : Nat) → Run σ → m Trace
  | 0, _, run => return ⟨run.reported, run.finish config seed⟩
  | left + 1, generation, run =>
    match run.advance config evaluator generation with
    | .error e => return ⟨run.reported, .error e⟩
    | .ok next => do
      match checkTime config generation (← clock generation) with
      | .error e => return ⟨next.reported, .error e⟩
      | .ok () => next.proceedWith config evaluator seed clock left (generation + 1)

theorem proceedWith_pure {m : Type → Type} [Monad m] [LawfulMonad m] (config : EvolutionConfig)
    (evaluator : Evaluator σ) (seed : UInt64) (elapsed : Nat → Duration) (left generation : Nat)
    (run : Run σ) :
    run.proceedWith config evaluator seed (fun g => (pure (elapsed g) : m Duration)) left generation
      = pure (run.proceed config evaluator seed elapsed left generation) := by
  fun_induction proceed config evaluator seed elapsed left generation run with
  | case1 => rfl
  | case2 generation run left e h => simp [proceedWith, h]
  | case3 generation run left next h e late => simp [proceedWith, h, late]
  | case4 generation run left next h inTime ih => simp [proceedWith, h, inTime, ih]

end Run

/-- Refuses settings that ask for more statements, programs or generations than there is room for.
The first population is one more than the generations that follow, and their number has to fit into
a machine word. -/
def EvolutionConfig.checkRoom (config : EvolutionConfig) : Except EvolutionError Unit :=
  if Program.roomFor 72 < config.populationSize then .error (.draw (.tooMany config.populationSize))
  else if Program.maxStatements < config.statementsPerProgram then
    .error (.draw (.tooMany config.statementsPerProgram))
  else if UInt64.size ≤ config.generations + 1 then .error (.draw .overflow)
  else if Program.roomFor 48 < config.generations + 1 then
    .error (.draw (.tooMany config.generations))
  else .ok ()

/-- Refuses settings that have a fault or that there is no room for. -/
def EvolutionConfig.check (config : EvolutionConfig) : Except EvolutionError Unit :=
  match config.validate with
  | .error fault => .error (.config fault)
  | .ok () => config.checkRoom

/-- A whole run on given words, with a clock that shows `elapsed g` after generation `g`. -/
def evolveOn {σ : Type} (config : EvolutionConfig) (evaluator : Evaluator σ) (memory : σ)
    (seed : UInt64) (words : Words) (elapsed : Nat → Duration) : Trace :=
  match config.check with
  | .error e => ⟨[], .error e⟩
  | .ok () =>
    match Run.start config evaluator words memory with
    | .error e => ⟨[], .error e⟩
    | .ok run => run.proceed config evaluator seed elapsed config.generations 1

/-- A whole run from a seed, on the words of its generator. -/
def evolve {σ : Type} (config : EvolutionConfig) (evaluator : Evaluator σ) (memory : σ)
    (seed : UInt64) (elapsed : Nat → Duration) : Trace :=
  evolveOn config evaluator memory seed (.ofSeed seed) elapsed

/-- A whole run from a seed, with a clock that is read after each generation. -/
def evolveWith {m : Type → Type} [Monad m] {σ : Type} (config : EvolutionConfig)
    (evaluator : Evaluator σ) (memory : σ) (seed : UInt64) (clock : Nat → m Duration) : m Trace :=
  match config.check with
  | .error e => return ⟨[], .error e⟩
  | .ok () =>
    match Run.start config evaluator (.ofSeed seed) memory with
    | .error e => return ⟨[], .error e⟩
    | .ok run => run.proceedWith config evaluator seed clock config.generations 1

theorem evolveWith_pure {m : Type → Type} [Monad m] [LawfulMonad m] {σ : Type}
    (config : EvolutionConfig) (evaluator : Evaluator σ) (memory : σ) (seed : UInt64)
    (elapsed : Nat → Duration) :
    evolveWith config evaluator memory seed (fun g => (pure (elapsed g) : m Duration))
      = pure (evolve config evaluator memory seed elapsed) := by
  unfold evolveWith evolve evolveOn
  split
  · rfl
  · split
    · rfl
    · exact Run.proceedWith_pure ..

end Progeny

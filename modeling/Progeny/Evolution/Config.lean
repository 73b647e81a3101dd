import Progeny.Crossover
import Progeny.Decimal.Shortest
import Progeny.Duration
import Progeny.Fitness
import Progeny.Mutation

/-!
# The settings of a run

A run is allowed when its three counts are positive and all its rates are probabilities.  The
counts are looked at before the rates, and both in a fixed order, so that of two faults always the
same one is reported.
-/

namespace Progeny

/-- A fault of the settings. -/
inductive ConfigError where
  /-- A count is zero. -/
  | notPositive (name : String)
  /-- A rate is not a number from 0 to 1. -/
  | rateOutOfRange (name : String) (value : Float)
  deriving DecidableEq

namespace ConfigError

/-- The text of the fault. -/
def message : ConfigError → String
  | .notPositive name => name ++ " must be a positive integer"
  | .rateOutOfRange name value =>
    name ++ " must be between 0 and 1, got " ++ Decimal.Style.message.render value

end ConfigError

/-- The settings of a run. -/
structure EvolutionConfig where
  /-- The number of statements of each program of the first population. -/
  statementsPerProgram : Nat := 1
  /-- The number of generations after the first population. -/
  generations : Nat := 10
  /-- The number of programs in every generation. -/
  populationSize : Nat := 10
  /-- What the words of the run come from; chosen anew if there is none. -/
  seed : Option UInt64 := none
  /-- The time that a run may take, in seconds. -/
  timeLimitSecs : Nat := 3600
  fitness : FitnessConfig := {}
  crossover : CrossoverConfig := {}
  mutation : MutationConfig := {}
  deriving DecidableEq

namespace EvolutionConfig

/-- The counts that have to be positive, with their names. -/
def counts (config : EvolutionConfig) : List (String × Nat) :=
  [("statements_per_program", config.statementsPerProgram),
   ("generations", config.generations),
   ("population_size", config.populationSize)]

/-- The rates that have to be probabilities, with their names. -/
def rates (config : EvolutionConfig) : List (String × Float) :=
  ("crossover.crossover_rate", config.crossover.crossoverRate) :: config.mutation.rates

/-- Whether a number is a probability. -/
def isProbability (x : Float) : Bool := decide (0.0 ≤ x ∧ x ≤ 1.0)

/-- The first count that is zero. -/
def countFault? (config : EvolutionConfig) : Option ConfigError :=
  (config.counts.find? (·.2 == 0)).map fun (name, _) => .notPositive name

/-- The first rate that is not a probability. -/
def rateFault? (config : EvolutionConfig) : Option ConfigError :=
  (config.rates.find? (! isProbability ·.2)).map fun (name, value) => .rateOutOfRange name value

/-- The first fault of the settings. -/
def fault? (config : EvolutionConfig) : Option ConfigError :=
  config.countFault?.or config.rateFault?

/-- Allows settings without a fault. -/
def validate (config : EvolutionConfig) : Except ConfigError Unit :=
  match config.fault? with
  | some fault => .error fault
  | none => .ok ()

/-- The time that a run may take. -/
def timeLimit (config : EvolutionConfig) : Duration := .ofSeconds config.timeLimitSecs

end EvolutionConfig

end Progeny

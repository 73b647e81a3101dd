import Progeny.Compiler.Basic
import Progeny.Evolution.Config

/-!
# Layers of settings

A layer gives some of the settings and leaves the others open.  A layer over full settings gives
full settings again: what the layer gives counts, and the rest is taken from below.  Each setting
is layered by itself, so an inner layer may give one rate of a group and leave the others alone.
-/

namespace Progeny

/-- Some of the weights of the fitness function. -/
structure FitnessLayer where
  errorWordPenalty : Option Float := none
  uniqueWordBonus : Option Float := none
  lengthWordBonus : Option Float := none
  lengthCharBonus : Option Float := none
  deriving DecidableEq

/-- The weights of the layer, and below them those of `base`. -/
def FitnessLayer.over (layer : FitnessLayer) (base : FitnessConfig) : FitnessConfig where
  errorWordPenalty := layer.errorWordPenalty.getD base.errorWordPenalty
  uniqueWordBonus := layer.uniqueWordBonus.getD base.uniqueWordBonus
  lengthWordBonus := layer.lengthWordBonus.getD base.lengthWordBonus
  lengthCharBonus := layer.lengthCharBonus.getD base.lengthCharBonus

/-- Some of the settings of crossover. -/
structure CrossoverLayer where
  crossoverRate : Option Float := none
  matePolicy : Option MatePolicy := none
  kind : Option CrossoverKind := none
  deriving DecidableEq

/-- The settings of the layer, and below them those of `base`. -/
def CrossoverLayer.over (layer : CrossoverLayer) (base : CrossoverConfig) : CrossoverConfig where
  crossoverRate := layer.crossoverRate.getD base.crossoverRate
  matePolicy := layer.matePolicy.getD base.matePolicy
  kind := layer.kind.getD base.kind

/-- Some of the settings of mutation. -/
structure MutationLayer where
  insertRate : Option Float := none
  maxInsertedStatements : Option Nat := none
  duplicateRate : Option Float := none
  removeRate : Option Float := none
  swapRate : Option Float := none
  tokenInsertRate : Option Float := none
  deriving DecidableEq

/-- The settings of the layer, and below them those of `base`. -/
def MutationLayer.over (layer : MutationLayer) (base : MutationConfig) : MutationConfig where
  insertRate := layer.insertRate.getD base.insertRate
  maxInsertedStatements := layer.maxInsertedStatements.getD base.maxInsertedStatements
  duplicateRate := layer.duplicateRate.getD base.duplicateRate
  removeRate := layer.removeRate.getD base.removeRate
  swapRate := layer.swapRate.getD base.swapRate
  tokenInsertRate := layer.tokenInsertRate.getD base.tokenInsertRate

/-- Some of the settings of a compiler. -/
structure CompilerLayer where
  program : Option String := none
  args : Option (List String) := none
  fileName : Option String := none
  timeoutSecs : Option Nat := none
  /-- The inner `none` gives the system's own place. -/
  scratchRoot : Option (Option String) := none
  deriving DecidableEq, Repr

/-- The settings of the layer, and below them those of `base`. -/
def CompilerLayer.over (layer : CompilerLayer) (base : CompilerConfig) : CompilerConfig where
  program := layer.program.getD base.program
  args := layer.args.getD base.args
  fileName := layer.fileName.getD base.fileName
  timeoutSecs := layer.timeoutSecs.getD base.timeoutSecs
  scratchRoot := layer.scratchRoot.getD base.scratchRoot

/-- Some of the settings of a run. -/
structure EvolutionLayer where
  statementsPerProgram : Option Nat := none
  generations : Option Nat := none
  populationSize : Option Nat := none
  /-- The inner `none` has a seed chosen anew. -/
  seed : Option (Option UInt64) := none
  timeLimitSecs : Option Nat := none
  fitness : Option FitnessLayer := none
  crossover : Option CrossoverLayer := none
  mutation : Option MutationLayer := none
  deriving DecidableEq

/-- The settings of the layer, and below them those of `base`. -/
def EvolutionLayer.over (layer : EvolutionLayer) (base : EvolutionConfig) : EvolutionConfig where
  statementsPerProgram := layer.statementsPerProgram.getD base.statementsPerProgram
  generations := layer.generations.getD base.generations
  populationSize := layer.populationSize.getD base.populationSize
  seed := layer.seed.getD base.seed
  timeLimitSecs := layer.timeLimitSecs.getD base.timeLimitSecs
  fitness := (layer.fitness.getD {}).over base.fitness
  crossover := (layer.crossover.getD {}).over base.crossover
  mutation := (layer.mutation.getD {}).over base.mutation

/-- Some of the settings of a run and of the compiler that judges its programs. -/
structure SettingsLayer where
  evolution : EvolutionLayer := {}
  compiler : Option CompilerLayer := none
  deriving DecidableEq

/-- The settings of a run and of the compiler that judges its programs. -/
structure Settings where
  evolution : EvolutionConfig := {}
  compiler : CompilerConfig := {}
  deriving DecidableEq

/-- The settings of the layer, and below them those of `base`. -/
def SettingsLayer.over (layer : SettingsLayer) (base : Settings) : Settings where
  evolution := layer.evolution.over base.evolution
  compiler := (layer.compiler.getD {}).over base.compiler

/-- Allows settings without a fault, those of the run being looked at first. -/
def Settings.validate (settings : Settings) : Except ConfigError Unit := do
  settings.evolution.validate
  if settings.compiler.timeoutSecs = 0 then throw (.notPositive "compiler.timeout_secs")

theorem EvolutionLayer.over_empty (base : EvolutionConfig) :
    ({} : EvolutionLayer).over base = base := rfl

theorem CompilerLayer.over_empty (base : CompilerConfig) :
    ({} : CompilerLayer).over base = base := rfl

end Progeny

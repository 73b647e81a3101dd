import Progeny.Json.Reader
import Progeny.Json.Value
import Progeny.Settings.Layer

/-!
# Settings as JSON

Settings are read as layers, so that a text may leave out any of them; each group is an object, or
a list of its first few settings in the order in which they stand here.  Full settings are written
with all their names.
-/

namespace Progeny

open Json

/-! ### Reading -/

/-- A seed, or `null` for none. -/
def readSeed : Reader (Option UInt64) :=
  Reader.optional do return (← Reader.natural).toUInt64

namespace FitnessLayer

/-- The weights and their names. -/
def fields : List (FieldReader FitnessLayer) :=
  [.of "error_word_penalty" errorWordPenalty (fun r x => { r with errorWordPenalty := some x })
     fun _ => Reader.float,
   .of "unique_word_bonus" uniqueWordBonus (fun r x => { r with uniqueWordBonus := some x })
     fun _ => Reader.float,
   .of "length_word_bonus" lengthWordBonus (fun r x => { r with lengthWordBonus := some x })
     fun _ => Reader.float,
   .of "length_char_bonus" lengthCharBonus (fun r x => { r with lengthCharBonus := some x })
     fun _ => Reader.float]

/-- Some of the weights. -/
def read (mode : Mode) : Reader FitnessLayer := Reader.record mode true fields {}

end FitnessLayer

namespace MatePolicy

/-- The policies and their names. -/
def names : List (String × MatePolicy) := [("random", random), ("adjacent", adjacent)]

/-- The name of a policy. -/
def name : MatePolicy → String
  | random => "random"
  | adjacent => "adjacent"

end MatePolicy

namespace CrossoverKind

/-- The kinds and their names. -/
def names : List (String × CrossoverKind) :=
  [("one_point", onePoint), ("interleave", interleave), ("split", split)]

/-- The name of a kind. -/
def name : CrossoverKind → String
  | onePoint => "one_point"
  | interleave => "interleave"
  | split => "split"

end CrossoverKind

namespace CrossoverLayer

/-- The settings of crossover and their names. -/
def fields : List (FieldReader CrossoverLayer) :=
  [.of "crossover_rate" crossoverRate (fun r x => { r with crossoverRate := some x })
     fun _ => Reader.float,
   .of "mate_policy" matePolicy (fun r x => { r with matePolicy := some x })
     fun mode => Reader.choice mode MatePolicy.names,
   .of "kind" kind (fun r x => { r with kind := some x })
     fun mode => Reader.choice mode CrossoverKind.names]

/-- Some of the settings of crossover. -/
def read (mode : Mode) : Reader CrossoverLayer := Reader.record mode true fields {}

end CrossoverLayer

namespace MutationLayer

/-- The settings of mutation and their names. -/
def fields : List (FieldReader MutationLayer) :=
  [.of "insert_rate" insertRate (fun r x => { r with insertRate := some x })
     fun _ => Reader.float,
   .of "max_inserted_statements" maxInsertedStatements
     (fun r n => { r with maxInsertedStatements := some n }) fun _ => Reader.natural,
   .of "duplicate_rate" duplicateRate (fun r x => { r with duplicateRate := some x })
     fun _ => Reader.float,
   .of "remove_rate" removeRate (fun r x => { r with removeRate := some x })
     fun _ => Reader.float,
   .of "swap_rate" swapRate (fun r x => { r with swapRate := some x })
     fun _ => Reader.float,
   .of "token_insert_rate" tokenInsertRate (fun r x => { r with tokenInsertRate := some x })
     fun _ => Reader.float]

/-- Some of the settings of mutation. -/
def read (mode : Mode) : Reader MutationLayer := Reader.record mode true fields {}

end MutationLayer

namespace CompilerLayer

/-- The settings of a compiler and their names. -/
def fields : List (FieldReader CompilerLayer) :=
  [.of "program" program (fun r s => { r with program := some s }) fun _ => Reader.text,
   .of "args" args (fun r xs => { r with args := some xs }) fun _ => Reader.list Reader.text,
   .of "file_name" fileName (fun r s => { r with fileName := some s }) fun _ => Reader.text,
   .of "timeout_secs" timeoutSecs (fun r n => { r with timeoutSecs := some n })
     fun _ => Reader.natural,
   .of "scratch_root" scratchRoot (fun r s => { r with scratchRoot := some s })
     fun _ => Reader.optional Reader.text]

/-- Some of the settings of a compiler. -/
def read (mode : Mode) : Reader CompilerLayer := Reader.record mode true fields {}

end CompilerLayer

namespace EvolutionLayer

/-- The settings of a run and their names. -/
def fields : List (FieldReader EvolutionLayer) :=
  [.of "statements_per_program" statementsPerProgram
     (fun r n => { r with statementsPerProgram := some n }) fun _ => Reader.natural,
   .of "generations" generations (fun r n => { r with generations := some n })
     fun _ => Reader.natural,
   .of "population_size" populationSize (fun r n => { r with populationSize := some n })
     fun _ => Reader.natural,
   .of "seed" seed (fun r s => { r with seed := some s }) fun _ => readSeed,
   .of "time_limit_secs" timeLimitSecs (fun r n => { r with timeLimitSecs := some n })
     fun _ => Reader.natural,
   .of "fitness" fitness (fun r layer => { r with fitness := some layer }) FitnessLayer.read,
   .of "crossover" crossover (fun r layer => { r with crossover := some layer })
     CrossoverLayer.read,
   .of "mutation" mutation (fun r layer => { r with mutation := some layer }) MutationLayer.read]

/-- Some of the settings of a run. -/
def read (mode : Mode) : Reader EvolutionLayer := Reader.record mode true fields {}

end EvolutionLayer

namespace SettingsLayer

/-- A setting of the run as a setting of the whole. -/
def evolutionField (field : FieldReader EvolutionLayer) : FieldReader SettingsLayer where
  name := field.name
  isGiven r := field.isGiven r.evolution
  read mode r := do return { r with evolution := ← field.read mode r.evolution }

/-- The settings of the run stand beside the group of the compiler.  The latter is read as it
comes, the others are held back. -/
def fields : List (FieldReader SettingsLayer) :=
  .of "compiler" compiler (fun r layer => { r with compiler := some layer })
    (fun _ => CompilerLayer.read .direct) ::
  EvolutionLayer.fields.map evolutionField

/-- The greatest depth to which values that are held back may be nested. -/
def maxDepth : Nat := 128

/-- The contents of a settings file. -/
def read : Reader SettingsLayer := Reader.object (.buffered maxDepth) true fields {}

/-- Reads the text of a settings file. -/
def ofText (text : String) : Except Fault SettingsLayer := Reader.ofText read text

end SettingsLayer

/-! ### Writing -/

/-- The weights as JSON. -/
def FitnessConfig.toJson (config : FitnessConfig) : Value :=
  .object
    [("error_word_penalty", .real config.errorWordPenalty),
     ("unique_word_bonus", .real config.uniqueWordBonus),
     ("length_word_bonus", .real config.lengthWordBonus),
     ("length_char_bonus", .real config.lengthCharBonus)]

/-- The settings of crossover as JSON. -/
def CrossoverConfig.toJson (config : CrossoverConfig) : Value :=
  .object
    [("crossover_rate", .real config.crossoverRate),
     ("mate_policy", .text config.matePolicy.name),
     ("kind", .text config.kind.name)]

/-- The settings of mutation as JSON. -/
def MutationConfig.toJson (config : MutationConfig) : Value :=
  .object
    [("insert_rate", .real config.insertRate),
     ("max_inserted_statements", .whole config.maxInsertedStatements),
     ("duplicate_rate", .real config.duplicateRate),
     ("remove_rate", .real config.removeRate),
     ("swap_rate", .real config.swapRate),
     ("token_insert_rate", .real config.tokenInsertRate)]

/-- The settings of a compiler as JSON. -/
def CompilerConfig.toJson (config : CompilerConfig) : Value :=
  .object
    [("program", .text config.program),
     ("args", .listOf .text config.args),
     ("file_name", .text config.fileName),
     ("timeout_secs", .whole config.timeoutSecs),
     ("scratch_root", .optional .text config.scratchRoot)]

/-- The settings of a run as JSON. -/
def EvolutionConfig.toJson (config : EvolutionConfig) : Value :=
  .object
    [("statements_per_program", .whole config.statementsPerProgram),
     ("generations", .whole config.generations),
     ("population_size", .whole config.populationSize),
     ("seed", .optional (fun seed => .whole seed.toNat) config.seed),
     ("time_limit_secs", .whole config.timeLimitSecs),
     ("fitness", config.fitness.toJson),
     ("crossover", config.crossover.toJson),
     ("mutation", config.mutation.toJson)]

end Progeny

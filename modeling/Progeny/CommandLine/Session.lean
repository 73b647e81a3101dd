import Progeny.CommandLine.Command
import Progeny.Settings.Json

/-!
# Answering a command line

The settings of a run come from three layers: the command line, over the settings file, over the
defaults.  Only the layered settings are looked at for faults, so a fault in the file does no harm
if the command line puts something else in its place.

The answer to a command line is what is printed and an exit code.  It depends on the world outside
in a few ways only, which `World` lists.
-/

namespace Progeny.CommandLine

/-- What a command needs from outside. -/
structure World (m : Type → Type) where
  /-- The text of a file, if it can be read. -/
  readFile : String → m (Option String)
  /-- A seed for a run that is given none. -/
  freshSeed : m UInt64
  /-- The time since the run began. -/
  elapsed : m Duration
  /-- The compiler with some settings, unless its time limit would end at no moment that the clock can
  show. -/
  compiler : CompilerConfig → Option Compiler

/-- Why a command was not carried out. -/
inductive CommandError where
  /-- There is no settings file at the path. -/
  | unreadable (path : String)
  /-- The settings file does not hold settings. -/
  | unparsable (path : String) (fault : Json.Fault)
  /-- The settings have a fault. -/
  | config (fault : ConfigError)
  /-- The run failed. -/
  | evolution (error : EvolutionError)
  /-- The time limit of the compiler ends at no moment that the clock can show. -/
  | unending
  deriving DecidableEq

namespace CommandError

/-- What is wrong with a text, in words. -/
def faultText : Json.Fault → String
  | .malformed => "it is not JSON"
  | .mismatched => "a value is not of the kind that is wanted"
  | .unfinished => "it ends too early"

/-- The text of the error. -/
def message : CommandError → String
  | .unreadable path => "failed to read config " ++ path
  | .unparsable path fault => "failed to parse config " ++ path ++ ": " ++ faultText fault
  | .config fault => fault.message
  | .evolution error => error.message
  | .unending => "the time limit of the compiler is too long"

/-- The exit code: 1 and 2 for a population that shrank or grew, 3 for a run that took too long, 4
for settings that are not allowed, and 101 for a command that could not be carried on. -/
def exitCode : CommandError → Nat
  | .evolution (.populationTooSmall ..) => 1
  | .evolution (.populationTooLarge ..) => 2
  | .evolution (.timeBudgetExceeded ..) => 3
  | .evolution (.config _) => 4
  | .evolution (.draw _) | .unending => 101
  | .config _ | .unreadable _ | .unparsable .. => 4

end CommandError

/-! ### Settings -/

/-- The settings that the options give.  No compiler arguments are none given. -/
def EvolveOptions.layer (options : EvolveOptions) : SettingsLayer where
  evolution := {
    statementsPerProgram := options.statements
    generations := options.generations
    populationSize := options.population
    seed := options.seed.map some
    timeLimitSecs := options.timeLimit }
  compiler := some {
    program := options.compiler
    args := if options.compilerArgs.isEmpty then none else some options.compilerArgs
    timeoutSecs := options.compileTimeout }

/-- The settings of the options, over those of a file, over the defaults. -/
def EvolveOptions.settings (options : EvolveOptions) (file : SettingsLayer) : Settings :=
  options.layer.over (file.over {})

/-- The settings of a run, if they have no fault. -/
def EvolveOptions.resolve (options : EvolveOptions) (file : SettingsLayer) :
    Except ConfigError Settings := do
  let settings := options.settings file
  settings.validate
  return settings

/-! ### Running -/

variable {m : Type → Type} [Monad m]

/-- The layer in the settings file; an empty one if none is named. -/
def readSettings (world : World m) : Option String → m (Except CommandError SettingsLayer)
  | none => return .ok {}
  | some path => do
    match ← world.readFile path with
    | none => return .error (.unreadable path)
    | some text =>
      match SettingsLayer.ofText text with
      | .error fault => return .error (.unparsable path fault)
      | .ok layer => return .ok layer

/-- The given seed, or a fresh one. -/
def seedOr (world : World m) : Option UInt64 → m UInt64
  | some seed => return seed
  | none => world.freshSeed

/-- Runs an evolution with the given settings. -/
def runEvolution (world : World m) (settings : Settings) : m (Except CommandError Report) := do
  let seed ← seedOr world settings.evolution.seed
  match world.compiler settings.compiler with
  | none => return .error .unending
  | some compiler =>
    let evaluator := Evaluator.ofCompiler compiler settings.evolution.fitness
    let trace ← evolveWith settings.evolution evaluator () seed fun _ => world.elapsed
    match trace.result with
    | .error e => return .error (.evolution e)
    | .ok outcome => return .ok ⟨outcome, ← world.elapsed⟩

/-- What `evolve` prints. -/
def evolveText (world : World m) (options : EvolveOptions) : m (Except CommandError String) := do
  match ← readSettings world options.config with
  | .error e => return .error e
  | .ok file =>
    match options.resolve file with
    | .error fault => return .error (.config fault)
    | .ok settings =>
      return (← runEvolution world settings).map (·.render (options.format.getD .text))

/-- The text of a seed and the random program that belongs to it. -/
def generatedText (statements : Nat) (seed : UInt64) : Except CommandError String :=
  match Program.random statements (.ofSeed seed) with
  | .error failure => .error (.evolution (.draw failure))
  | .ok (p, _) => .ok ("// seed: " ++ seed.toNat.repr ++ "\n" ++ p.render)

/-- What `generate` prints. -/
def generateText (world : World m) (options : GenerateOptions) :
    m (Except CommandError String) := do
  return generatedText (options.statements.getD 1) (← seedOr world options.seed)

/-- What a command prints. -/
def Command.text (world : World m) : Command → m (Except CommandError String)
  | .evolve options => evolveText world options
  | .generate options => generateText world options

/-- The answer to a command line. -/
structure Answer where
  exitCode : Nat
  /-- What is printed. -/
  output : Option String
  error : Option CommandError

namespace Answer

/-- How the program is used. -/
def usage : String :=
  "Usage: progeny [-v]... evolve [STATEMENTS] [GENERATIONS] [POPULATION] [OPTIONS]\n" ++
  "       progeny [-v]... generate [STATEMENTS] [-s SEED]"

/-- The name and the version of the program. -/
def version : String := "progeny 0.1.0"

/-- The answer when no command was read. -/
def ofRefusal : Refusal → Answer
  | .help => ⟨0, some usage, none⟩
  | .version => ⟨0, some version, none⟩
  | .usage => ⟨4, none, none⟩

/-- The answer to a command. -/
def ofResult : Except CommandError String → Answer
  | .ok text => ⟨0, some text, none⟩
  | .error e => ⟨e.exitCode, none, some e⟩

end Answer

/-- Reads a command line and carries it out. -/
def respond (world : World m) (arguments : List String) : m Answer := do
  match Command.read arguments with
  | .error refusal => return .ofRefusal refusal
  | .ok command => return .ofResult (← command.text world)

end Progeny.CommandLine

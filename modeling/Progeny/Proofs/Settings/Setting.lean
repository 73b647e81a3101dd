import Progeny.CommandLine.Session
import Progeny.Proofs.Json.Listing

/-!
# The settings one by one

Every setting has a name in one section of a settings file, a reader for its values, a slot in what
is read of the section, an option that stands for it or none, and a place among the full settings.
Layers count setting by setting: what an upper layer gives hides what the lower ones give, and
nothing else.
-/

namespace Progeny

open Json Fallible

/-- The groups of a settings file. -/
inductive Group where
  | fitness | crossover | mutation | compiler

namespace Group

/-- The name in a settings file. -/
def name : Group → String
  | fitness => "fitness"
  | crossover => "crossover"
  | mutation => "mutation"
  | compiler => "compiler"

/-- What is read of the group. -/
abbrev Layer : Group → Type
  | fitness => FitnessLayer
  | crossover => CrossoverLayer
  | mutation => MutationLayer
  | compiler => CompilerLayer

/-- The fields of the group. -/
def fields : (group : Group) → List (FieldReader group.Layer)
  | fitness => FitnessLayer.fields
  | crossover => CrossoverLayer.fields
  | mutation => MutationLayer.fields
  | compiler => CompilerLayer.fields

/-- The layer of the group that gives nothing. -/
def empty : (group : Group) → group.Layer
  | fitness => {}
  | crossover => {}
  | mutation => {}
  | compiler => {}

/-- How the group is read. -/
def mode : Group → Mode
  | fitness | crossover | mutation => (Mode.buffered SettingsLayer.maxDepth).inner
  | compiler => .direct

/-- What reads the group. -/
def value (group : Group) : Reader group.Layer :=
  Reader.record group.mode true group.fields group.empty

/-- What a layer gives of the group. -/
def get : (group : Group) → SettingsLayer → Option group.Layer
  | fitness => fun layer => layer.evolution.fitness
  | crossover => fun layer => layer.evolution.crossover
  | mutation => fun layer => layer.evolution.mutation
  | compiler => SettingsLayer.compiler

end Group

/-- Where settings stand in a settings file: beside the groups, or in one of them. -/
inductive Section where
  | top
  | group (group : Group)

namespace Section

/-- What is read of the section. -/
abbrev Layer : Section → Type
  | top => SettingsLayer
  | group g => g.Layer

/-- The fields of the section. -/
def fields : (sec : Section) → List (FieldReader sec.Layer)
  | top => SettingsLayer.fields
  | group g => g.fields

/-- How the values of the section are read. -/
def mode : Section → Mode
  | top => (Mode.buffered SettingsLayer.maxDepth).inner
  | group g => g.mode.inner

/-- What a layer gives of the section. -/
def get : (sec : Section) → SettingsLayer → Option sec.Layer
  | top => some
  | group g => g.get

end Section

/-- The settings, each with its section and the type of its values. -/
inductive Setting : Section → Type → Type where
  | statementsPerProgram : Setting .top Nat
  | generations : Setting .top Nat
  | populationSize : Setting .top Nat
  | seed : Setting .top (Option UInt64)
  | timeLimitSecs : Setting .top Nat
  | errorWordPenalty : Setting (.group .fitness) Float
  | uniqueWordBonus : Setting (.group .fitness) Float
  | lengthWordBonus : Setting (.group .fitness) Float
  | lengthCharBonus : Setting (.group .fitness) Float
  | crossoverRate : Setting (.group .crossover) Float
  | matePolicy : Setting (.group .crossover) MatePolicy
  | kind : Setting (.group .crossover) CrossoverKind
  | insertRate : Setting (.group .mutation) Float
  | maxInsertedStatements : Setting (.group .mutation) Nat
  | duplicateRate : Setting (.group .mutation) Float
  | removeRate : Setting (.group .mutation) Float
  | swapRate : Setting (.group .mutation) Float
  | tokenInsertRate : Setting (.group .mutation) Float
  | program : Setting (.group .compiler) String
  | args : Setting (.group .compiler) (List String)
  | fileName : Setting (.group .compiler) String
  | timeoutSecs : Setting (.group .compiler) Nat
  | scratchRoot : Setting (.group .compiler) (Option String)

namespace Setting

variable {α : Type} {sec : Section}

/-- The name in a settings file. -/
def name : Setting sec α → String
  | statementsPerProgram => "statements_per_program"
  | generations => "generations"
  | populationSize => "population_size"
  | seed => "seed"
  | timeLimitSecs => "time_limit_secs"
  | errorWordPenalty => "error_word_penalty"
  | uniqueWordBonus => "unique_word_bonus"
  | lengthWordBonus => "length_word_bonus"
  | lengthCharBonus => "length_char_bonus"
  | crossoverRate => "crossover_rate"
  | matePolicy => "mate_policy"
  | kind => "kind"
  | insertRate => "insert_rate"
  | maxInsertedStatements => "max_inserted_statements"
  | duplicateRate => "duplicate_rate"
  | removeRate => "remove_rate"
  | swapRate => "swap_rate"
  | tokenInsertRate => "token_insert_rate"
  | program => "program"
  | args => "args"
  | fileName => "file_name"
  | timeoutSecs => "timeout_secs"
  | scratchRoot => "scratch_root"

/-- What reads a value of the setting. -/
def value : Setting sec α → Reader α
  | statementsPerProgram | generations | populationSize | timeLimitSecs | maxInsertedStatements
  | timeoutSecs => Reader.natural
  | seed => readSeed
  | errorWordPenalty | uniqueWordBonus | lengthWordBonus | lengthCharBonus | crossoverRate
  | insertRate | duplicateRate | removeRate | swapRate | tokenInsertRate => Reader.float
  | matePolicy => Reader.choice (Section.group .crossover).mode MatePolicy.names
  | kind => Reader.choice (Section.group .crossover).mode CrossoverKind.names
  | program | fileName => Reader.text
  | args => Reader.list Reader.text
  | scratchRoot => Reader.optional Reader.text

/-- What a layer of the section gives for the setting. -/
def get : Setting sec α → sec.Layer → Option α
  | statementsPerProgram => fun layer => layer.evolution.statementsPerProgram
  | generations => fun layer => layer.evolution.generations
  | populationSize => fun layer => layer.evolution.populationSize
  | seed => fun layer => layer.evolution.seed
  | timeLimitSecs => fun layer => layer.evolution.timeLimitSecs
  | errorWordPenalty => FitnessLayer.errorWordPenalty
  | uniqueWordBonus => FitnessLayer.uniqueWordBonus
  | lengthWordBonus => FitnessLayer.lengthWordBonus
  | lengthCharBonus => FitnessLayer.lengthCharBonus
  | crossoverRate => CrossoverLayer.crossoverRate
  | matePolicy => CrossoverLayer.matePolicy
  | kind => CrossoverLayer.kind
  | insertRate => MutationLayer.insertRate
  | maxInsertedStatements => MutationLayer.maxInsertedStatements
  | duplicateRate => MutationLayer.duplicateRate
  | removeRate => MutationLayer.removeRate
  | swapRate => MutationLayer.swapRate
  | tokenInsertRate => MutationLayer.tokenInsertRate
  | program => CompilerLayer.program
  | args => CompilerLayer.args
  | fileName => CompilerLayer.fileName
  | timeoutSecs => CompilerLayer.timeoutSecs
  | scratchRoot => CompilerLayer.scratchRoot

/-- What a layer gives for the setting. -/
def given (s : Setting sec α) (layer : SettingsLayer) : Option α := (sec.get layer).bind s.get

/-- What the options give for the setting.  No compiler arguments are none given. -/
def commanded : Setting sec α → CommandLine.EvolveOptions → Option α
  | statementsPerProgram, options => options.statements
  | generations, options => options.generations
  | populationSize, options => options.population
  | seed, options => options.seed.map some
  | timeLimitSecs, options => options.timeLimit
  | program, options => options.compiler
  | args, options => if options.compilerArgs.isEmpty then none else some options.compilerArgs
  | timeoutSecs, options => options.compileTimeout
  | _, _ => none

/-- The setting among full settings. -/
def of : Setting sec α → Settings → α
  | statementsPerProgram, settings => settings.evolution.statementsPerProgram
  | generations, settings => settings.evolution.generations
  | populationSize, settings => settings.evolution.populationSize
  | seed, settings => settings.evolution.seed
  | timeLimitSecs, settings => settings.evolution.timeLimitSecs
  | errorWordPenalty, settings => settings.evolution.fitness.errorWordPenalty
  | uniqueWordBonus, settings => settings.evolution.fitness.uniqueWordBonus
  | lengthWordBonus, settings => settings.evolution.fitness.lengthWordBonus
  | lengthCharBonus, settings => settings.evolution.fitness.lengthCharBonus
  | crossoverRate, settings => settings.evolution.crossover.crossoverRate
  | matePolicy, settings => settings.evolution.crossover.matePolicy
  | kind, settings => settings.evolution.crossover.kind
  | insertRate, settings => settings.evolution.mutation.insertRate
  | maxInsertedStatements, settings => settings.evolution.mutation.maxInsertedStatements
  | duplicateRate, settings => settings.evolution.mutation.duplicateRate
  | removeRate, settings => settings.evolution.mutation.removeRate
  | swapRate, settings => settings.evolution.mutation.swapRate
  | tokenInsertRate, settings => settings.evolution.mutation.tokenInsertRate
  | program, settings => settings.compiler.program
  | args, settings => settings.compiler.args
  | fileName, settings => settings.compiler.fileName
  | timeoutSecs, settings => settings.compiler.timeoutSecs
  | scratchRoot, settings => settings.compiler.scratchRoot

end Setting

namespace SettingsLayer

variable {α β : Type} {mode : Mode} {name : String} {get : EvolutionLayer → Option α}
  {set : EvolutionLayer → α → EvolutionLayer} {value : Mode → Reader α} {r r' : SettingsLayer}
  {cs rest : List Char}

theorem evolutionField_read_eq_ok
    (h : (evolutionField (.of name get set value)).read mode r cs = .ok (r', rest)) :
    ∃ a, value mode cs = .ok (a, rest) ∧ r' = { r with evolution := set r.evolution a } := by
  obtain ⟨evolution, middle, read, h⟩ := bind_eq_ok.mp h
  cases h
  obtain ⟨a, middle, read, h⟩ := bind_eq_ok.mp read
  cases h
  exact ⟨a, read, rfl⟩

theorem fills_evolutionField {get' : SettingsLayer → Option α}
    (same : ∀ r, get' r = get r.evolution) (get_set : ∀ r a, get (set r a) = some a) :
    (evolutionField (.of name get set value)).Fills mode get' (value mode) where
  isGiven r := congrArg Option.isSome (same r).symm
  read r cs r' rest h := by
    obtain ⟨a, read, rfl⟩ := evolutionField_read_eq_ok h
    exact ⟨a, read, (same _).trans (get_set r.evolution a)⟩

theorem spares_evolutionField {other : SettingsLayer → Option β}
    (same : ∀ r a, other { r with evolution := set r.evolution a } = other r) :
    (evolutionField (.of name get set value)).Spares mode other := by
  intro r cs r' rest h
  obtain ⟨a, -, rfl⟩ := evolutionField_read_eq_ok h
  exact same r a

end SettingsLayer

/-! ### Slots -/

namespace Group

theorem known (g : Group) : g.name ∈ Section.top.fields.map (·.name) := by cases g <;> decide

theorem distinct (g : Group) : (g.fields.map (·.name)).Nodup := by cases g <;> decide

theorem cell (g : Group) : ∀ field ∈ Section.top.fields,
    if field.name = g.name then field.Fills Section.top.mode g.get g.value
    else field.Spares Section.top.mode g.get := by
  rw [← List.forall_iff_forall_mem]
  -- the fields one by one, of which one has the name of the group
  cases g <;> and_intros
  all_goals
    first
    | exact FieldReader.fills_of fun _ _ => rfl
    | exact FieldReader.spares_of fun _ _ => rfl
    | exact SettingsLayer.fills_evolutionField (fun _ => rfl) fun _ _ => rfl
    | exact SettingsLayer.spares_evolutionField fun _ _ => rfl

/-- The slot of the group among the fields of a settings file. -/
def slot (g : Group) : Slot Section.top.mode Section.top.fields g.Layer where
  name := g.name
  get := g.get
  value := g.value
  known := g.known
  cell := g.cell

end Group

namespace Setting

variable {α : Type} {sec : Section}

theorem known (s : Setting sec α) : s.name ∈ sec.fields.map (·.name) := by cases s <;> decide

theorem cell (s : Setting sec α) : ∀ field ∈ sec.fields,
    if field.name = s.name then field.Fills sec.mode s.get s.value
    else field.Spares sec.mode s.get := by
  rw [← List.forall_iff_forall_mem]
  -- the fields of the section one by one, of which one has the name of the setting
  cases s <;> and_intros
  all_goals
    first
    | exact FieldReader.fills_of fun _ _ => rfl
    | exact FieldReader.spares_of fun _ _ => rfl
    | exact SettingsLayer.fills_evolutionField (fun _ => rfl) fun _ _ => rfl
    | exact SettingsLayer.spares_evolutionField fun _ _ => rfl

/-- The slot of the setting among the fields of its section. -/
def slot (s : Setting sec α) : Slot sec.mode sec.fields α where
  name := s.name
  get := s.get
  value := s.value
  known := s.known
  cell := s.cell

/-! ### Layers -/

/-- A layer counts where it gives something, and what is below it everywhere else. -/
theorem of_over (s : Setting sec α) (layer : SettingsLayer) (base : Settings) :
    s.of (layer.over base) = (s.given layer).getD (s.of base) := by
  obtain ⟨⟨_, _, _, _, _, fitness, crossover, mutation⟩, compiler⟩ := layer
  cases s
  case statementsPerProgram | generations | populationSize | seed | timeLimitSecs => rfl
  case errorWordPenalty | uniqueWordBonus | lengthWordBonus | lengthCharBonus =>
    cases fitness <;> rfl
  case crossoverRate | matePolicy | kind => cases crossover <;> rfl
  case program | args | fileName | timeoutSecs | scratchRoot => cases compiler <;> rfl
  all_goals cases mutation <;> rfl

theorem given_layer (s : Setting sec α) (options : CommandLine.EvolveOptions) :
    s.given options.layer = s.commanded options := by
  cases s <;> rfl

/-- The options are over the file, and the file is over the defaults. -/
theorem of_settings (s : Setting sec α) (options : CommandLine.EvolveOptions)
    (file : SettingsLayer) :
    s.of (options.settings file) = (s.commanded options).getD ((s.given file).getD (s.of {})) := by
  rw [CommandLine.EvolveOptions.settings, of_over, of_over, given_layer]

end Setting

/-- Settings that agree on each setting are the same. -/
theorem Settings.eq_of_forall {a b : Settings}
    (same : ∀ {sec : Section} {α : Type} (s : Setting sec α), s.of a = s.of b) : a = b := by
  obtain ⟨⟨_, _, _, _, _, ⟨⟩, ⟨⟩, ⟨⟩⟩, ⟨⟩⟩ := a
  obtain ⟨⟨_, _, _, _, _, ⟨⟩, ⟨⟩, ⟨⟩⟩, ⟨⟩⟩ := b
  congr
  · exact same .statementsPerProgram
  · exact same .generations
  · exact same .populationSize
  · exact same .seed
  · exact same .timeLimitSecs
  · exact same .errorWordPenalty
  · exact same .uniqueWordBonus
  · exact same .lengthWordBonus
  · exact same .lengthCharBonus
  · exact same .crossoverRate
  · exact same .matePolicy
  · exact same .kind
  · exact same .insertRate
  · exact same .maxInsertedStatements
  · exact same .duplicateRate
  · exact same .removeRate
  · exact same .swapRate
  · exact same .tokenInsertRate
  · exact same .program
  · exact same .args
  · exact same .fileName
  · exact same .timeoutSecs
  · exact same .scratchRoot

end Progeny

import Progeny.Proofs.Evolution.Generation
import Progeny.Proofs.Settings.Setting

/-!
# The layers of a run

A settings file is an object of settings and of groups of settings, and may list others besides.
Over the defaults it counts for what it lists, and the options count over it for what they give.
Only the settings that come out are looked at for faults: a fault of the file that the options cover
does no harm, but there are no options to cover a rate.
-/

namespace Progeny

open Json CommandLine

variable {α : Type} {sec : Section} {text : String} {file : SettingsLayer}

/-! ### Listings of a settings file -/

/-- What the text of a settings file lists: the members of the one object that it is, and what is
listed in each of the groups among them. -/
structure Lists (text : String) (listing : Section → Listing) : Prop where
  top : ∃ rest, rest.all Reader.isSpace ∧
    ListsObject (Ends Section.top.mode Section.top.fields) text.toList (listing .top) rest
  group : ∀ (g : Group) (place : List Char), (listing .top).lookup g.name = some place →
    ∃ rest, ListsRecord (Ends g.mode.inner g.fields) (g.fields.map (·.name)) place
      (listing (.group g)) rest
  missing : ∀ g : Group, (listing .top).lookup g.name = none → listing (.group g) = []

/-- A setting has the value that is listed for it, if that is anything.  It is listed once at most,
and with a proper value. -/
structure Setting.Listed (s : Setting sec α) (listing : Section → Listing) (file : SettingsLayer) :
    Prop where
  given : s.given file = s.slot.listed (listing sec)
  once : ((listing sec).map Prod.fst).count s.name ≤ 1
  proper : ∀ place, (s.name, place) ∈ listing sec → ∃ a after, s.value place = .ok (a, after)

theorem Group.get_empty (g : Group) : g.slot.get {} = none := by cases g <;> rfl

theorem Setting.get_top_empty (s : Setting .top α) : s.slot.get {} = none := by cases s <;> rfl

theorem Setting.get_empty {g : Group} (s : Setting (.group g) α) : s.slot.get g.empty = none := by
  cases s <;> rfl

theorem Setting.given_group {g : Group} (s : Setting (.group g) α) (file : SettingsLayer) :
    s.given file = s.slot.get ((g.get file).getD g.empty) := by
  change (g.get file).bind s.get = _
  cases g.get file with
  | none => exact s.get_empty.symm
  | some layer => rfl

/-- A group of a file has a listing of its own, an empty one if the file leaves it out. -/
theorem Group.exists_listing {found : Listing} (g : Group) (takes : g.slot.Takes found {} file) :
    ∃ inner : Listing,
      (∀ place, found.lookup g.name = some place →
        ∃ rest, ListsRecord (Ends g.mode.inner g.fields) (g.fields.map (·.name)) place inner rest) ∧
      (found.lookup g.name = none → inner = []) ∧
      ∀ {α : Type} (s : Setting (.group g) α),
        s.slot.Takes inner g.empty ((g.get file).getD g.empty) := by
  have given : g.get file = (found.lookup g.name).bind (Reader.valueAt g.value) :=
    takes.eq_listed g.get_empty
  cases here : found.lookup g.name with
  | none =>
    rw [given, here]
    exact ⟨[], nofun, fun _ => rfl, fun s => s.slot.takes_nil g.empty⟩
  | some place =>
    obtain ⟨before, behind, split, -⟩ := List.lookup_eq_some_iff.mp here
    obtain ⟨layer, after, (read : g.value place = _)⟩ :=
      takes.proper place (split ▸ List.mem_append_cons_self)
    rw [given, here, Option.bind_some, Reader.valueAt_eq_some read]
    obtain ⟨inner, record, filled⟩ := Reader.record_lists g.distinct read
    refine ⟨inner, ?_, nofun, fun s => filled s.slot s.get_empty⟩
    rintro _ ⟨⟩
    exact ⟨after, record⟩

/-- What a file lists, from its members and from what each group lists. -/
def Section.listing (members : Listing) (inner : Group → Listing) : Section → Listing
  | top => members
  | group g => inner g

/-- A settings file that can be read has a listing. -/
theorem SettingsLayer.exists_listing (h : SettingsLayer.ofText text = .ok file) :
    ∃ listing, Lists text listing ∧
      ∀ {sec : Section} {α : Type} (s : Setting sec α), s.Listed listing file := by
  obtain ⟨rest, spaces, read⟩ := Reader.ofText_eq_ok h
  obtain ⟨found, object, takes⟩ := Reader.object_lists read
  choose inner record missing filled using fun g : Group => g.exists_listing (takes g.slot)
  refine ⟨Section.listing found inner, ⟨⟨rest, spaces, object⟩, record, missing⟩, fun {sec α} s => ?_⟩
  cases sec with
  | top =>
    have taken := takes s.slot
    exact ⟨taken.eq_listed s.get_top_empty, taken.count_le_one, taken.proper⟩
  | group g =>
    have taken := filled g s
    refine ⟨?_, taken.count_le_one, taken.proper⟩
    rw [s.given_group]
    exact taken.eq_listed s.get_empty

/-! ### Resolving -/

theorem Settings.validate_eq_ok_iff {settings : Settings} :
    settings.validate = .ok () ↔
      settings.evolution.validate = .ok () ∧ settings.compiler.timeoutSecs ≠ 0 := by
  unfold validate
  cases settings.evolution.validate with
  | error fault => exact iff_of_false nofun fun h => nomatch h.1
  | ok u =>
    by_cases zero : settings.compiler.timeoutSecs = 0
    · rw [if_pos zero]
      exact iff_of_false nofun fun h => h.2 zero
    · rw [if_neg zero]
      exact iff_of_true rfl ⟨rfl, zero⟩

/-- The settings that have to be probabilities. -/
def Setting.rates : List (Σ g : Group, Setting (.group g) Float) :=
  [⟨_, crossoverRate⟩, ⟨_, insertRate⟩, ⟨_, duplicateRate⟩, ⟨_, removeRate⟩, ⟨_, swapRate⟩,
   ⟨_, tokenInsertRate⟩]

theorem Setting.map_rates (settings : Settings) :
    settings.evolution.rates.map Prod.snd = rates.map fun rate => rate.2.of settings := rfl

/-- There is no option for a rate. -/
theorem Setting.commanded_rates (options : EvolveOptions) :
    ∀ rate ∈ rates, rate.2.commanded options = none := by
  simp [rates, commanded]

namespace CommandLine.EvolveOptions

variable {options : EvolveOptions} {settings : Settings} {file' : SettingsLayer}

theorem resolve_eq_ok_iff :
    options.resolve file = .ok settings ↔
      settings = options.settings file ∧ (options.settings file).validate = .ok () := by
  change ((options.settings file).validate >>= fun _ => pure (options.settings file)) = _ ↔ _
  cases (options.settings file).validate with
  | error fault => exact iff_of_false nofun fun h => nomatch h.2
  | ok u => exact ⟨fun h => ⟨(Except.ok.inj h).symm, rfl⟩, fun h => congrArg Except.ok h.1.symm⟩

/-- What the options give need not be looked for in the file. -/
theorem settings_congr
    (same : ∀ {sec : Section} {α : Type} (s : Setting sec α),
      s.commanded options = none → s.given file' = s.given file) :
    options.settings file' = options.settings file := by
  refine Settings.eq_of_forall fun s => ?_
  rw [s.of_settings, s.of_settings]
  cases given : s.commanded options with
  | none => rw [same s given]
  | some a => rfl

/-- A rate of the file is looked at for all options. -/
theorem exists_resolve_eq_error {rate : Σ g : Group, Setting (.group g) Float} {x : Float}
    (mem : rate ∈ Setting.rates) (given : rate.2.given file = some x)
    (improper : EvolutionConfig.isProbability x = false) :
    ∃ fault, options.resolve file = .error fault := by
  cases result : options.resolve file with
  | error fault => exact ⟨fault, rfl⟩
  | ok settings =>
    obtain ⟨rfl, valid⟩ := resolve_eq_ok_iff.mp result
    have allowed := EvolutionConfig.validate_eq_ok_iff.mp (Settings.validate_eq_ok_iff.mp valid).1
    have value : rate.2.of (options.settings file) = x := by
      rw [rate.2.of_settings, Setting.commanded_rates options rate mem, given]
      rfl
    have seen := List.mem_map_of_mem mem (f := fun rate => rate.2.of (options.settings file))
    rw [← Setting.map_rates, value] at seen
    obtain ⟨named, mem, rfl⟩ := List.mem_map.mp seen
    exact absurd (decide_eq_true (allowed.rates named mem)) (ne_true_of_eq_false improper)

end CommandLine.EvolveOptions

/-! ### The layers of a run -/

namespace CommandLine

/-- What the settings file of a run lists; nothing if no file is named. -/
def FileLists (world : World Id) (listing : Section → Listing) : Option String → Prop
  | none => ∀ sec, listing sec = []
  | some path => ∃ text, world.readFile path = some text ∧ Lists text listing

theorem readSettings_of_none {world : World Id} {path : String}
    (missing : world.readFile path = none) :
    readSettings world (some path) = Except.error (.unreadable path) := by
  dsimp only [readSettings]
  rw [missing]
  rfl

theorem readSettings_of_some {world : World Id} {path : String}
    (found : world.readFile path = some text) :
    readSettings world (some path) =
      (SettingsLayer.ofText text).mapError (CommandError.unparsable path) := by
  dsimp only [readSettings]
  rw [found]
  dsimp only [bind, pure]
  cases SettingsLayer.ofText text with
  | error fault => rfl
  | ok layer => rfl

theorem readSettings_eq_ok_iff {world : World Id} {path : String} :
    readSettings world (some path) = Except.ok file ↔
      ∃ text, world.readFile path = some text ∧ SettingsLayer.ofText text = .ok file := by
  cases found : world.readFile path with
  | none =>
    rw [readSettings_of_none found]
    refine iff_of_false nofun ?_
    rintro ⟨text, present, -⟩
    cases present
  | some text =>
    have read : (SettingsLayer.ofText text).mapError (CommandError.unparsable path) = .ok file ↔
        SettingsLayer.ofText text = .ok file := by
      cases SettingsLayer.ofText text <;> simp [Except.mapError]
    rw [readSettings_of_some found, read]
    constructor
    · exact fun read => ⟨text, rfl, read⟩
    · rintro ⟨text, same, read⟩
      cases same
      exact read

theorem exists_listing {world : World Id} {path : Option String}
    (loaded : readSettings world path = .ok file) :
    ∃ listing, FileLists world listing path ∧
      ∀ {sec : Section} {α : Type} (s : Setting sec α), s.Listed listing file := by
  cases path with
  | none =>
    cases loaded
    refine ⟨fun _ => [], fun _ => rfl, fun {sec α} s => ⟨?_, Nat.zero_le 1, nofun⟩⟩
    cases s <;> rfl
  | some path =>
    obtain ⟨text, content, read⟩ := readSettings_eq_ok_iff.mp loaded
    obtain ⟨listing, lists, listed⟩ := SettingsLayer.exists_listing read
    exact ⟨listing, ⟨text, content, lists⟩, listed⟩

/-- What the settings of a run come to: `settings` is what the options make of a file, whose text
has the given listing. -/
structure Layered (options : EvolveOptions) (listing : Section → Listing) (file : SettingsLayer)
    (settings : Settings) : Prop where
  /-- What the options give counts, else what the file lists, else the default. -/
  setting : ∀ {sec : Section} {α : Type} (s : Setting sec α),
    s.of settings = (s.commanded options).getD ((s.slot.listed (listing sec)).getD (s.of {}))
  /-- There is nothing else to the settings. -/
  only : ∀ other : Settings,
    (∀ {sec : Section} {α : Type} (s : Setting sec α), s.of other = s.of settings) →
    other = settings
  /-- They are looked at when they are complete, and refused or taken as they are. -/
  resolved : ∀ result, options.resolve file = .ok result ↔
    result = settings ∧ settings.evolution.validate = .ok () ∧ settings.compiler.timeoutSecs ≠ 0
  /-- Whatever stands in a file for a setting that the options give, it does no harm. -/
  harmless : ∀ file',
    (∀ {sec : Section} {α : Type} (s : Setting sec α),
      s.commanded options = none → s.given file' = s.given file) →
    options.resolve file' = options.resolve file
  /-- A rate in the file that is no probability is refused. -/
  rejected : ∀ rate ∈ Setting.rates, ∀ x, rate.2.slot.listed (listing (.group rate.1)) = some x →
    EvolutionConfig.isProbability x = false → ∃ fault, options.resolve file = .error fault

/-- For all options and every settings file that can be read, each setting of the run is the one of
the options, else the one that the file lists, in whatever order and whatever else it lists, else
the default.  The run is allowed exactly when the settings so found are. -/
theorem settings_are_layered (world : World Id) (options : EvolveOptions)
    (loaded : readSettings world options.config = .ok file) :
    ∃ listing settings, FileLists world listing options.config ∧
      (∀ {sec : Section} {α : Type} (s : Setting sec α), s.Listed listing file) ∧
      Layered options listing file settings := by
  obtain ⟨listing, lists, listed⟩ := exists_listing loaded
  refine ⟨listing, options.settings file, lists, listed, ?_, ?_, ?_, ?_, ?_⟩
  · intro sec α s
    rw [s.of_settings, (listed s).given]
  · exact fun other same => Settings.eq_of_forall same
  · intro result
    rw [EvolveOptions.resolve_eq_ok_iff, Settings.validate_eq_ok_iff]
  · intro file' same
    unfold EvolveOptions.resolve
    rw [EvolveOptions.settings_congr same]
  · intro rate mem x here improper
    exact EvolveOptions.exists_resolve_eq_error mem ((listed rate.2).given.trans here) improper

/-- A settings file without programs, whose compiler has no time. -/
def faultyFile : String :=
  "\x7b\"note\": [1, \x7b\"seed\": 3\x7d]," ++
  " \"compiler\": \x7b\"timeout_secs\": 0, \"flags\": null\x7d," ++
  " \"population_size\": 0, \"mutation\": [0.5], \"seed\": 7\x7d"

/-- What is read from this file. -/
def faultyLayer : SettingsLayer where
  evolution := {
    populationSize := some 0
    seed := some (some 7)
    mutation := some { insertRate := some 0.5 } }
  compiler := some { timeoutSecs := some 0 }

/-- A world with this file. -/
def faultyWorld : World Id where
  readFile path := if path = "faulty.json" then some faultyFile else none
  freshSeed := 0
  elapsed := .ofSeconds 0
  compiler _ := none

/-- Options that cover both faults of the file. -/
def coveringOptions : EvolveOptions :=
  { population := some 4, compileTimeout := some 3, config := some "faulty.json" }

/-- The file is read, and with these options the run is allowed: what they leave open is taken from
the file, and from the defaults what is left then. -/
theorem settings_are_layered_over_faults :
    readSettings faultyWorld coveringOptions.config = .ok faultyLayer ∧
      ∃ settings, coveringOptions.resolve faultyLayer = .ok settings ∧
        settings.evolution.populationSize = 4 ∧ settings.compiler.timeoutSecs = 3 ∧
        settings.evolution.seed = some 7 ∧ settings.evolution.mutation.insertRate = 0.5 ∧
        settings.evolution.generations = 10 := by
  have loaded : readSettings faultyWorld coveringOptions.config = .ok faultyLayer :=
    readSettings_eq_ok_iff.mpr ⟨faultyFile, rfl, by decide +kernel⟩
  obtain ⟨listing, settings, -, listed, layered⟩ :=
    settings_are_layered faultyWorld coveringOptions loaded
  have value {sec : Section} {α : Type} (s : Setting sec α) : s.of settings =
      (s.commanded coveringOptions).getD ((s.given faultyLayer).getD (s.of {})) := by
    rw [layered.setting, (listed s).given]
  have accepted :
      coveringOptions.resolve faultyLayer = .ok (coveringOptions.settings faultyLayer) := by
    decide +kernel
  have same := ((layered.resolved _).mp accepted).1
  exact ⟨loaded, settings, same ▸ accepted, value .populationSize, value .timeoutSecs, value .seed,
    value .insertRate, value .generations⟩

end CommandLine

end Progeny

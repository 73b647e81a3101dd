import Progeny.Proofs.Evolution.Champion

/-!
# What is handed down

The first programs are judged as they were drawn, and every child as it was bred from the population
before; elitism adds a program of that population.  So a property of programs holds throughout a run
if the programs that it starts from have it, and if breeding, judging and waiting for one generation
hand it down.  The property may depend on the generation, and on the programs of the start.
-/

namespace Progeny

variable {σ : Type} {config : EvolutionConfig} {evaluator : Evaluator σ}

theorem Run.mem_withElite {population children : List Program} {p : Program}
    (mem : p ∈ withElite population children) : p ∈ children ∨ p ∈ population := by
  cases last : population.getLast? with
  | none =>
    unfold withElite at mem
    rw [last] at mem
    exact .inl mem
  | some elite =>
    rw [withElite_eq last] at mem
    obtain ⟨kept, -⟩ | ⟨worst, rest, rfl, -, replaced⟩ := keepElite_cases children elite
    · rw [kept] at mem
      exact .inl mem
    · rw [replaced, (Population.ranked_perm _).mem_iff, List.mem_cons] at mem
      rcases mem with rfl | other
      · exact .inr (List.mem_of_getLast? last)
      · exact .inl (List.mem_cons_of_mem _ other)

namespace Run

variable {words : Words} {memory : σ}

/-- The first population is what the evaluator makes of programs as they are drawn. -/
theorem exists_drawn_of_start {run : Run σ}
    (started : start config evaluator words memory = .ok run) :
    ∃ programs rest,
      drawing (firstPrograms config) words = .ok (programs, rest) ∧
      (∀ p ∈ programs, p.Initial config.statementsPerProgram) ∧
      run.population = (Population.evaluate evaluator programs memory).1.1 := by
  unfold start at started
  cases drawn : drawing (firstPrograms config) words with
  | error e =>
    rw [drawn] at started
    cases started
  | ok result =>
    obtain ⟨programs, rest⟩ := result
    rw [drawn] at started
    cases started
    exact ⟨programs, rest, rfl, (firstPrograms_result drawn).2, rfl⟩

/-- The children of a population are what the evaluator makes of its offspring. -/
theorem exists_offspring_of_brood (allowed : config.Allowed) {run : Run σ} {brood : Brood σ}
    (some : run.population ≠ []) (hatched : run.brood config evaluator = .ok brood) :
    ∃ children rest, breed config run.population run.words = .ok (children, rest) ∧
      (∀ p ∈ children, p.OffspringOf run.population) ∧
      brood.members = (Population.evaluate evaluator children run.memory).1.1 := by
  unfold Run.brood at hatched
  obtain dry | ⟨children, rest, ⟨-, offspring⟩, drawn, -⟩ :=
    drawing_cases (yields_breeding allowed some) run.words
  · rw [breed_eq allowed some, dry] at hatched
    cases hatched
  · rw [← breed_eq allowed some] at drawn
    rw [drawn] at hatched
    cases hatched
    exact ⟨children, rest, drawn, offspring, rfl⟩

end Run

/-- The random programs that a run on `words` starts from. -/
def Run.Founders (config : EvolutionConfig) (words : Words) (founders : List Program) : Prop :=
  ∃ rest, drawing (firstPrograms config) words = .ok (founders, rest)

theorem Run.Founders.initial {words : Words} {founders : List Program}
    (h : Run.Founders config words founders) :
    ∀ p ∈ founders, p.Initial config.statementsPerProgram := by
  obtain ⟨rest, drawn⟩ := h
  exact (Run.firstPrograms_result drawn).2

theorem Run.Founders.unique {words : Words} {founders others : List Program}
    (h : Run.Founders config words founders) (h' : Run.Founders config words others) :
    founders = others := by
  obtain ⟨rest, drawn⟩ := h
  obtain ⟨rest', drawn'⟩ := h'
  cases drawn.symm.trans drawn'
  rfl

/-! ### Handing down -/

/-- `P g`, for the programs of generation `g`, is kept by breeding, by waiting for one generation
and by judging. -/
structure HandedDown (config : EvolutionConfig) (evaluator : Evaluator σ)
    (P : Nat → Program → Prop) : Prop where
  bred : ∀ g population, population ≠ [] → (∀ p ∈ population, P g p) →
    Draw.Yields 0 (Run.breeding config population) fun children => ∀ p ∈ children, P (g + 1) p
  kept : ∀ g p, P g p → P (g + 1) p
  judged : ∀ g p q, P g p → Judged evaluator p q → P g q

variable {words : Words} {memory : σ} {P : Nat → Program → Prop}

namespace HandedDown

theorem evaluated (h : HandedDown config evaluator P) {g : Nat} {programs : List Program}
    (born : ∀ p ∈ programs, P g p) (memory : σ) :
    ∀ p ∈ (Population.evaluate evaluator programs memory).1.1, P g p := by
  intro p mem
  obtain ⟨q, inside, judged⟩ := Population.exists_judged_of_mem_evaluate mem
  exact h.judged g q p (born q inside) judged

theorem start (h : HandedDown config evaluator P) {run : Run σ}
    (founded : ∀ founders, Run.Founders config words founders → ∀ p ∈ founders, P 0 p)
    (started : Run.start config evaluator words memory = .ok run) :
    ∀ p ∈ run.population, P 0 p := by
  obtain ⟨programs, rest, drawn, -, population⟩ := Run.exists_drawn_of_start started
  rw [population]
  exact h.evaluated (founded programs ⟨rest, drawn⟩) memory

theorem brood (h : HandedDown config evaluator P) (allowed : config.Allowed) {g : Nat}
    {run : Run σ} {brood : Brood σ} (some : run.population ≠ [])
    (parents : ∀ p ∈ run.population, P g p)
    (hatched : run.brood config evaluator = .ok brood) : ∀ p ∈ brood.members, P (g + 1) p := by
  obtain ⟨children, rest, drawn, -, members⟩ :=
    Run.exists_offspring_of_brood allowed some hatched
  rw [Run.breed_eq allowed some] at drawn
  rw [members]
  exact h.evaluated (Run.drawing_result (h.bred g run.population some parents) drawn) run.memory

/-- What the founders have and is handed down holds of all programs of all generations. -/
theorem after (h : HandedDown config evaluator P) (allowed : config.Allowed)
    (founded : ∀ founders, Run.Founders config words founders → ∀ p ∈ founders, P 0 p)
    {g : Nat} {run : Run σ} (reached : Run.after config evaluator words memory g = .ok run) :
    ∀ p ∈ run.population, P g p := by
  refine Run.after_induction allowed (motive := fun g run => ∀ p ∈ run.population, P g p) ?_ ?_
    reached
  · intro programs rest started
    exact h.start founded started
  · intro g run brood reached parents hatched _ p mem
    have some := (Run.batch_after allowed reached).ne_nil allowed.populationSize_pos
    -- the elite is one generation older than the children among which it is
    rcases Run.mem_withElite mem with child | old
    · exact h.brood allowed some parents hatched p child
    · exact h.kept g p (parents p old)

/-- It holds of the children as well that the elite replaces. -/
theorem scored (h : HandedDown config evaluator P) (allowed : config.Allowed)
    (founded : ∀ founders, Run.Founders config words founders → ∀ p ∈ founders, P 0 p)
    {g : Nat} {batch : List Program}
    (reached : Run.scored config evaluator words memory g = .ok batch) :
    ∀ p ∈ batch, P g p := by
  cases g with
  | zero =>
    cases started : Run.start config evaluator words memory with
    | error e => simp [Run.scored, started, bind, Except.bind] at reached
    | ok run =>
      rw [Run.scored_zero started] at reached
      cases reached
      exact h.start founded started
  | succ g =>
    cases before : Run.after config evaluator words memory g with
    | error e => simp [Run.scored, before, bind, Except.bind] at reached
    | ok run =>
      have some := (Run.batch_after allowed before).ne_nil allowed.populationSize_pos
      cases hatched : run.brood config evaluator with
      | error e => simp [Run.scored, before, hatched, bind, Except.bind] at reached
      | ok brood =>
        rw [Run.scored_succ before hatched] at reached
        cases reached
        exact h.brood allowed some (h.after allowed founded before) hatched

end HandedDown

/-- `P g`, for the programs of generation `g`, is a property that is handed down from programs as
they are drawn to all their offspring. -/
structure Hereditary (config : EvolutionConfig) (evaluator : Evaluator σ)
    (P : Nat → Program → Prop) : Prop where
  drawn : ∀ p, p.Initial config.statementsPerProgram → P 0 p
  bred : ∀ g population p, (∀ q ∈ population, P g q) → p.OffspringOf population → P (g + 1) p
  kept : ∀ g p, P g p → P (g + 1) p
  judged : ∀ g p q, P g p → Judged evaluator p q → P g q

namespace Hereditary

theorem handedDown (h : Hereditary config evaluator P) (allowed : config.Allowed) :
    HandedDown config evaluator P where
  bred g population some parents := by
    refine (Run.yields_breeding allowed some).mono fun children offspring p mem => ?_
    exact h.bred g population p parents (offspring.2 p mem)
  kept := h.kept
  judged := h.judged

theorem founded (h : Hereditary config evaluator P) {founders : List Program}
    (drawn : Run.Founders config words founders) : ∀ p ∈ founders, P 0 p :=
  fun p mem => h.drawn p (drawn.initial p mem)

theorem after (h : Hereditary config evaluator P) (allowed : config.Allowed) {g : Nat} {run : Run σ}
    (reached : Run.after config evaluator words memory g = .ok run) :
    ∀ p ∈ run.population, P g p :=
  (h.handedDown allowed).after allowed (fun _ => h.founded) reached

theorem scored (h : Hereditary config evaluator P) (allowed : config.Allowed) {g : Nat}
    {batch : List Program} (reached : Run.scored config evaluator words memory g = .ok batch) :
    ∀ p ∈ batch, P g p :=
  (h.handedDown allowed).scored allowed (fun _ => h.founded) reached

end Hereditary

end Progeny

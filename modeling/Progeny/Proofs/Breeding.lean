import Mathlib.Data.Set.List
import Progeny.Proofs.Evaluation
import Progeny.Proofs.Mating
import Progeny.Proofs.Mutation
import Progeny.Proofs.Selection

/-!
# Breeding is safe

Selection copies members of the population, crossover gives children that were never evaluated and
whose statements are their parents', and mutation changes statements and nothing else: each one
afterwards was there before, is a sentence of the grammar, or grew out of such a one by single
tokens.  With rates that are probabilities, and out of a population that is not empty, none of them
draws out of nothing, tosses a coin that is none or looks up a member that does not exist; each
gives as many programs as it is asked for, and can come to an end whatever words it was given.
-/

namespace Progeny

open Draw

variable {listed : Nat}

/-! ### Statements -/

/-- A statement of `stock`, a sentence, or one of these with single tokens inserted. -/
inductive Statement.Grown (stock : List Statement) : Statement → Prop
  | kept {s : Statement} : s ∈ stock → Grown stock s
  | drawn (d : Grammar.Sentence) : Grown stock ⟨d.tokens⟩
  | inserted {s : Statement} (i : Nat) (t : Grammar.Single) :
      Grown stock s → Grown stock (s.insert i t.token)

/-! ### Random programs -/

namespace Program

/-- A program with the fitness state of one that was never evaluated. -/
structure Unevaluated (p : Program) : Prop where
  score : p.score = .zero
  diagnostic : p.diagnostic = notCompiled

/-- `q` comes from `p` by changes of its statements. -/
structure Edited (p q : Program) : Prop where
  score : q.score = p.score
  diagnostic : q.diagnostic = p.diagnostic
  mutationProbability : q.mutationProbability = p.mutationProbability
  crossoverProbability : q.crossoverProbability = p.crossoverProbability
  /-- A program does not lose its last statement. -/
  some : p.statements ≠ [] → q.statements ≠ []
  grown : ∀ s ∈ q.statements, Statement.Grown p.statements s

theorem Unevaluated.of_edited {p q : Program} (h : p.Unevaluated) (edited : Edited p q) :
    q.Unevaluated :=
  ⟨edited.score.trans h.score, edited.diagnostic.trans h.diagnostic⟩

/-- A program as it is drawn: declarations, and then sentences of any kind. -/
def Initial (k : Nat) (p : Program) : Prop :=
  ∃ body : Grammar.Body k, p = ofStatements body.statements

theorem Initial.unevaluated {k : Nat} {p : Program} (h : p.Initial k) : p.Unevaluated := by
  obtain ⟨body, rfl⟩ := h
  exact ⟨rfl, rfl⟩

/-- Statements of a kind, drawn in a row. -/
theorem yields_row {Tree : Type} {make : Tree → Statement} {draw : Draw Statement}
    (h : Yields listed draw fun s => ∃ d, s = make d) (n : Nat) :
    Yields listed (replicate n draw) fun ss => ∃ ds : List Tree, ds.length = n ∧ ss = ds.map make :=
  (yields_replicate h n).mono fun ss hss => by
    obtain ⟨length, each⟩ := hss
    have made : ss ∈ Set.range (List.map make) := by
      rw [Set.range_list_map]
      exact fun s mem => (each s mem).imp fun d same => same.symm
    obtain ⟨ds, rfl⟩ := made
    exact ⟨ds, by rw [← length, List.length_map], rfl⟩

theorem yields_randomWith (k : Nat) :
    Yields listed (randomWith (Grammar.declared k) k) (Initial k) := by
  refine (yields_row Statement.yields_randomDeclaration _).bind fun ss hss => ?_
  refine (yields_row Statement.yields_random _).bind fun ss' hss' => yields_pure ?_
  obtain ⟨declarations, first, rfl⟩ := hss
  obtain ⟨sentences, rest, rfl⟩ := hss'
  exact ⟨⟨declarations, sentences, first, rest⟩, rfl⟩

theorem yields_random {k : Nat} (room : k ≤ maxStatements) :
    Yields listed (random k) (Initial k) := by
  rw [random_of_room room]
  exact yields_randomWith k

/-- A program that was drawn was not refused. -/
theorem room_of_random {k : Nat} {p : Program} {source rest : Words}
    (drawn : random k source = .ok (p, rest)) : k ≤ maxStatements := by
  by_contra crowded
  rw [random_of_no_room (Nat.not_le.mp crowded)] at drawn
  cases drawn

end Program

/-! ### Selection -/

namespace Selection

theorem yields_select {population : List Program} (some : population ≠ []) (n : Nat) :
    Yields listed (select population n) fun pool =>
      pool.length = n ∧ ∀ p ∈ pool, p ∈ population := by
  refine (yields_victors some n).mono fun pool ⟨drawn, length, same⟩ => ?_
  rw [same, List.length_map]
  refine ⟨length, fun p mem => ?_⟩
  obtain ⟨pair, -, rfl⟩ := List.mem_map.mp mem
  exact List.get_mem population _

end Selection

/-! ### Crossover -/

/-- A child of two parents: its statements are theirs, its operator probabilities those of the
first, and it was never evaluated. -/
structure Program.ChildOf (first second child : Program) : Prop where
  unevaluated : child.Unevaluated
  mutationProbability : child.mutationProbability = first.mutationProbability
  crossoverProbability : child.crossoverProbability = first.crossoverProbability
  some : first.statements ≠ [] → child.statements ≠ []
  inherited : ∀ s ∈ child.statements, s ∈ first.statements ∨ s ∈ second.statements

namespace Crossover

theorem Child.childOf {kind : CrossoverKind} {first second child : Program}
    (h : Child kind first second child) : first.ChildOf second child where
  unevaluated := ⟨h.score, h.diagnostic⟩
  mutationProbability := h.mutationProbability
  crossoverProbability := h.crossoverProbability
  some := h.some
  inherited s mem := by
    obtain copy | ⟨-, combination⟩ := h.statements
    · rw [copy] at mem
      exact .inl mem
    · exact combination.mem mem

variable {config : CrossoverConfig}

theorem yields_childOf (rate : 0.0 ≤ config.crossoverRate ∧ config.crossoverRate ≤ 1.0)
    (first second : Program) :
    Yields listed (child config first second) (first.ChildOf second) :=
  (yields_child rate first second).mono fun _ h => h.childOf

/-- What relates every child to its parents relates the children of a pool to two members of it. -/
theorem yields_childrenOf {R : Program → Program → Program → Prop}
    (each : ∀ first second, Yields listed (child config first second) (R first second))
    (pool : List Program) :
    Yields listed (children config pool) fun born =>
      born.length = pool.length ∧
        ∀ p ∈ born, ∃ first ∈ pool, ∃ second ∈ pool, R first second p := by
  have bred (i : Fin pool.length) : Yields listed (birth config pool i) fun p =>
      ∃ first ∈ pool, ∃ second ∈ pool, R first second p := by
    refine (yields_mate config.matePolicy i).bind fun m _ => (each _ _).mono fun p related => ?_
    exact ⟨_, List.get_mem pool i, _, List.get_mem pool m, related⟩
  rw [children_eq]
  refine (yields_mapM bred _).mono fun born related => ⟨?_, fun p mem => ?_⟩
  · rw [← related.length_eq, List.length_finRange]
  · obtain ⟨i, -, parents⟩ := exists_mem_of_forall₂ related mem
    exact parents

theorem yields_children (rate : 0.0 ≤ config.crossoverRate ∧ config.crossoverRate ≤ 1.0)
    (pool : List Program) :
    Yields listed (children config pool) fun born =>
      born.length = pool.length ∧
        ∀ p ∈ born, ∃ first ∈ pool, ∃ second ∈ pool, first.ChildOf second p :=
  yields_childrenOf (yields_childOf rate) pool

end Crossover

/-! ### Mutation -/

namespace Mutation

variable {config : MutationConfig}

/-- Only the last of the five edits touches a statement; the others keep, copy or draw it. -/
theorem Mutant.grown {p q : Program} (h : Mutant config p q) {s : Statement}
    (mem : s ∈ q.statements) : Statement.Grown p.statements s := by
  obtain ⟨drawn, copied, removed, middle, -, -, copies, -, balance, retouched⟩ := h.balance
  have earlier (t : Statement) (inside : t ∈ p.statements ++ sentences drawn) :
      Statement.Grown p.statements t := by
    obtain old | new := List.mem_append.mp inside
    · exact .kept old
    · obtain ⟨d, -, rfl⟩ := List.mem_map.mp new
      exact .drawn d
  have untouched (t : Statement) (inside : t ∈ middle) : Statement.Grown p.statements t := by
    have whole := balance.subset (List.mem_append_left removed inside)
    obtain first | copy := List.mem_append.mp whole
    · exact earlier t first
    · exact earlier t (copies copy)
  obtain same | ⟨i, j, t, same⟩ := retouched
  · rw [same] at mem
    exact untouched s mem
  · rw [same] at mem
    obtain old | rfl := List.mem_or_eq_of_mem_set mem
    · exact untouched s old
    · exact .inserted j t (untouched _ (List.getElem_mem i.isLt))

theorem Mutant.edited {p q : Program} (h : Mutant config p q) : p.Edited q where
  score := h.score
  diagnostic := h.diagnostic
  mutationProbability := h.mutationProbability
  crossoverProbability := h.crossoverProbability
  some := h.some
  grown _ mem := h.grown mem

theorem yields_edited (rates : ∀ rate ∈ config.rates, 0.0 ≤ rate.2 ∧ rate.2 ≤ 1.0) (p : Program) :
    Yields listed (mutate config p) p.Edited :=
  (yields_mutate rates p).mono fun _ changed => (mutant_of_changed changed).edited

theorem mutateAll_eq (config : MutationConfig) (population : List Program) :
    mutateAll config population = population.mapM (mutate config) := by
  induction population with
  | nil => rfl
  | cons p rest ih => rw [mutateAll, ih, List.mapM_cons]

/-- What relates every program to its mutant relates the programs to theirs, place by place. -/
theorem yields_mutateEach {R : Program → Program → Prop}
    (each : ∀ p, Yields listed (mutate config p) (R p)) (population : List Program) :
    Yields listed (mutateAll config population) fun mutated =>
      List.Forall₂ R population mutated := by
  rw [mutateAll_eq]
  exact yields_mapM each population

theorem yields_mutateAll (rates : ∀ rate ∈ config.rates, 0.0 ≤ rate.2 ∧ rate.2 ≤ 1.0)
    (population : List Program) :
    Yields listed (mutateAll config population) fun mutated =>
      List.Forall₂ Program.Edited population mutated :=
  yields_mutateEach (yields_edited rates) population

end Mutation

/-- A child of two members of a population, as it is after mutation. -/
def Program.OffspringOf (population : List Program) (p : Program) : Prop :=
  ∃ first ∈ population, ∃ second ∈ population, ∃ child, first.ChildOf second child ∧ child.Edited p

theorem Program.OffspringOf.unevaluated {population : List Program} {p : Program}
    (h : p.OffspringOf population) : p.Unevaluated := by
  obtain ⟨first, -, second, -, child, bred, edited⟩ := h
  exact bred.unevaluated.of_edited edited

end Progeny

import Mathlib.Algebra.BigOperators.Fin
import Mathlib.Data.Finset.Prod
import Mathlib.Data.Fintype.Prod
import Progeny.Proofs.Random.Spells
import Progeny.Proofs.Score

/-!
# Who wins tournaments

A tournament is decided by two positions, drawn one after the other, and a selection is a row of
tournaments whose winners are copied as they are.  In a population of `n` members there are `n * n`
pairs of positions.  If all scores are numbers, then a member wins the pairs in which it comes first
and the other is worse, and those in which it comes second and the other is not better.  So although
a tie goes to the second, only the score tells how many pairs a member wins, and a better one wins
more.
-/

namespace Progeny

open Draw

namespace Selection

/-! ### Pairs of draws -/

section Pairs

variable {population : List Program} {i j : Fin population.length}

/-- The number that the score of a member stands for. -/
def worth (population : List Program) (i : Fin population.length) : Float :=
  (population.get i).score.value

/-- The pairs of positions in which member `i` wins. -/
def won (population : List Program) (i : Fin population.length) :
    Finset (Fin population.length × Fin population.length) :=
  Finset.univ.filter fun drawn => winner population drawn.1 drawn.2 = i

/-- The members that are worse than member `i`. -/
def worse (population : List Program) (i : Fin population.length) :
    Finset (Fin population.length) :=
  Finset.univ.filter fun j => worth population j < worth population i

/-- The members that are not better than member `i`. -/
def notBetter (population : List Program) (i : Fin population.length) :
    Finset (Fin population.length) :=
  Finset.univ.filter fun j => worth population j ≤ worth population i

theorem winner_eq_iff {first second : Fin population.length} :
    winner population first second = i ↔
      first = i ∧ worth population second < worth population i ∨
        second = i ∧ ¬worth population i < worth population first := by
  unfold winner
  split
  · rename_i beats
    have better := Score.beats_iff.mp beats
    constructor
    · rintro rfl
      exact .inl ⟨rfl, better⟩
    · rintro (⟨rfl, -⟩ | ⟨rfl, notBetter⟩)
      · rfl
      · exact absurd better notBetter
  · rename_i loses
    have notBetter : ¬worth population second < worth population first :=
      mt Score.beats_iff.mpr loses
    constructor
    · rintro rfl
      exact .inr ⟨rfl, notBetter⟩
    · rintro (⟨rfl, better⟩ | ⟨rfl, -⟩)
      · exact absurd better notBetter
      · rfl

theorem worth_number (numbers : ∀ p ∈ population, p.score.value.isNaN = false)
    (i : Fin population.length) : (worth population i).isNaN = false :=
  numbers _ (List.get_mem population i)

theorem mem_worse : j ∈ worse population i ↔ worth population j < worth population i := by
  simp only [worse, Finset.mem_filter, Finset.mem_univ, true_and]

theorem mem_notBetter : j ∈ notBetter population i ↔ worth population j ≤ worth population i := by
  simp only [notBetter, Finset.mem_filter, Finset.mem_univ, true_and]

/-- A member wins as the first of a pair against those that are worse, and as the second against
those that are not better. -/
theorem won_eq (numbers : ∀ p ∈ population, p.score.value.isNaN = false)
    (i : Fin population.length) :
    won population i = {i} ×ˢ worse population i ∪ notBetter population i ×ˢ {i} := by
  ext ⟨first, second⟩
  have order : ¬worth population i < worth population first ↔
      worth population first ≤ worth population i :=
    ⟨Double.le_of_not_lt (worth_number numbers first) (worth_number numbers i), Double.not_lt_of_le⟩
  simp only [won, Finset.mem_filter, Finset.mem_univ, true_and, winner_eq_iff, Finset.mem_union,
    Finset.mem_product, Finset.mem_singleton, mem_worse, mem_notBetter, order]
  rw [and_comm (a := second = i)]

theorem card_won (numbers : ∀ p ∈ population, p.score.value.isNaN = false)
    (i : Fin population.length) :
    (won population i).card = (worse population i).card + (notBetter population i).card := by
  have apart : Disjoint ({i} ×ˢ worse population i) (notBetter population i ×ˢ {i}) := by
    rw [Finset.disjoint_left]
    rintro ⟨first, second⟩ asFirst asSecond
    -- the pair would be `i` twice, and `i` is not worse than itself
    simp only [Finset.mem_product, Finset.mem_singleton, mem_worse] at asFirst asSecond
    obtain ⟨rfl, less⟩ := asFirst
    obtain ⟨-, rfl⟩ := asSecond
    exact Double.not_lt_of_le (Double.le_refl (worth_number numbers _)) less
  rw [won_eq numbers, Finset.card_union_of_disjoint apart, Finset.card_product,
    Finset.card_product, Finset.card_singleton, Nat.one_mul, Nat.mul_one]

theorem sum_card_won (population : List Program) :
    ∑ i, (won population i).card = population.length * population.length := by
  have every := Finset.card_eq_sum_card_fiberwise (s := Finset.univ) (t := Finset.univ)
    (f := fun drawn : Fin population.length × Fin population.length =>
      winner population drawn.1 drawn.2) fun _ _ => Finset.mem_univ _
  rw [Finset.card_univ, Fintype.card_prod, Fintype.card_fin] at every
  exact every.symm

/-- What the scores of a population, which are numbers, tell of the pairs that its members win. -/
structure Pressure (population : List Program) : Prop where
  card : ∀ i, (won population i).card = (worse population i).card + (notBetter population i).card
  total : ∑ i, (won population i).card = population.length * population.length
  better : ∀ i j, worth population j < worth population i →
    (won population j).card < (won population i).card
  tied : ∀ i j, (worth population i == worth population j) = true →
    (won population i).card = (won population j).card
  worst : ∀ i, (∀ j, j ≠ i → worth population i < worth population j) →
    (won population i).card = 1

theorem pressure (numbers : ∀ p ∈ population, p.score.value.isNaN = false) :
    Pressure population where
  card := card_won numbers
  total := sum_card_won population
  better i j less := by
    have fewer : worse population j ⊆ worse population i := fun k below => by
      rw [mem_worse] at below ⊢
      exact Double.lt_of_le_of_lt (Double.le_of_lt below) less
    have more : notBetter population j ⊂ notBetter population i := by
      refine (Finset.ssubset_iff_of_subset fun k below => ?_).mpr ⟨i, ?_, ?_⟩
      · rw [mem_notBetter] at below ⊢
        exact Double.le_trans below (Double.le_of_lt less)
      · exact mem_notBetter.mpr (Double.le_refl (worth_number numbers i))
      · exact fun above => Double.not_lt_of_le (mem_notBetter.mp above) less
    rw [card_won numbers, card_won numbers]
    exact Nat.add_lt_add_of_le_of_lt (Finset.card_le_card fewer) (Finset.card_lt_card more)
  tied i j same := by
    obtain ⟨below, above⟩ := Double.beq_iff_le.mp same
    have worse_eq : worse population i = worse population j := by
      ext k
      rw [mem_worse, mem_worse]
      exact ⟨fun less => Double.lt_of_lt_of_le less below,
        fun less => Double.lt_of_lt_of_le less above⟩
    have notBetter_eq : notBetter population i = notBetter population j := by
      ext k
      rw [mem_notBetter, mem_notBetter]
      exact ⟨fun least => Double.le_trans least below, fun least => Double.le_trans least above⟩
    rw [card_won numbers, card_won numbers, worse_eq, notBetter_eq]
  worst i least := by
    have none : worse population i = ∅ := by
      refine Finset.eq_empty_of_forall_notMem fun k below => ?_
      rw [mem_worse] at below
      have other : k ≠ i := by
        rintro rfl
        exact Double.not_lt_of_le (Double.le_refl (worth_number numbers k)) below
      exact Double.not_lt_of_le (Double.le_of_lt below) (least k other)
    have only : notBetter population i = {i} := by
      ext k
      rw [mem_notBetter, Finset.mem_singleton]
      constructor
      · intro below
        by_contra other
        exact Double.not_lt_of_le below (least k other)
      · rintro rfl
        exact Double.le_refl (worth_number numbers k)
    rw [card_won numbers, none, only, Finset.card_empty, Finset.card_singleton]

end Pairs

/-! ### Tournaments -/

section Tournaments

variable {listed : Nat} {population : List Program}

/-- Two positions, drawn one after the other. -/
def drawPair (n : Nat) : Draw (Fin n × Fin n) := do
  let first ← Draw.below n
  let second ← Draw.below n
  return (first, second)

/-- The winner of the tournament that two positions decide. -/
def victor (population : List Program)
    (drawn : Fin population.length × Fin population.length) : Program :=
  population.get (winner population drawn.1 drawn.2)

theorem yields_drawPair {n : Nat} (positive : 0 < n) :
    Yields listed (drawPair n) fun _ => True :=
  (yields_below positive).bind fun _ _ => (yields_below positive).bind fun _ _ =>
    yields_pure trivial

theorem reaches_drawPair {n : Nat} (drawn : Fin n × Fin n) (fits : n ≤ Nat.pow 2 64) :
    Reaches (fun _ => drawPair n) drawn :=
  (reaches_below drawn.1 fits).bind ((reaches_below drawn.2 fits).bind (reaches_pure drawn))

theorem tournament_eq (some : population ≠ []) :
    tournament population = drawPair population.length >>= fun drawn =>
      pure (Option.some (winner population drawn.1 drawn.2)) := by
  unfold tournament drawPair
  rw [if_neg (mt List.isEmpty_iff.mp some)]
  simp only [bind_assoc, pure_bind]

theorem select_eq (some : population ≠ []) (n : Nat) :
    select population n = replicate n (drawPair population.length) >>= fun drawn =>
      pure (drawn.map (victor population)) := by
  induction n with
  | zero => rfl
  | succ n ih =>
    simp only [select, replicate, tournament_eq some, ih, bind_assoc, pure_bind]
    rfl

theorem select_nil (n : Nat) : select [] n = pure [] := by
  induction n with
  | zero => rfl
  | succ n ih =>
    simp only [select, ih]
    rfl

theorem yields_victors (some : population ≠ []) (n : Nat) :
    Yields listed (select population n) fun pool =>
      ∃ drawn : List (Fin population.length × Fin population.length),
        drawn.length = n ∧ pool = drawn.map (victor population) := by
  rw [select_eq some]
  have positive := List.length_pos_iff.mpr some
  refine (yields_replicate (yields_drawPair positive) n).bind fun drawn ⟨length, _⟩ => ?_
  exact yields_pure ⟨drawn, length, rfl⟩

theorem reaches_victors (some : population ≠ []) (fits : population.length ≤ Nat.pow 2 64)
    (drawn : List (Fin population.length × Fin population.length)) :
    Reaches (fun _ => select population drawn.length) (drawn.map (victor population)) := by
  rw [select_eq some]
  refine (reaches_replicate fun pair _ => reaches_drawPair pair fits).bind ?_
  exact reaches_pure (drawn.map (victor population))

/-- The winners of tournaments are those of pairs of positions: every tournament draws the next
pair, and every row of pairs is drawn for some words. -/
structure ByPairs (population : List Program) : Prop where
  tournament : tournament population = drawPair population.length >>= fun drawn =>
    pure (some (winner population drawn.1 drawn.2))
  select : ∀ n, select population n = replicate n (drawPair population.length) >>= fun drawn =>
    pure (drawn.map (victor population))
  selected : ∀ listed n, Yields listed (Selection.select population n) fun pool =>
    ∃ drawn : List (Fin population.length × Fin population.length),
      drawn.length = n ∧ pool = drawn.map (victor population)
  spelled : population.length ≤ 2 ^ 64 →
    ∀ drawn : List (Fin population.length × Fin population.length),
      ∃ words, Spells (Selection.select population drawn.length) words
        (drawn.map (victor population))

theorem byPairs (some : population ≠ []) : ByPairs population where
  tournament := tournament_eq some
  select := select_eq some
  selected _ := yields_victors some
  spelled fits drawn := (reaches_victors some fits drawn).spelled

end Tournaments

/-- In a population whose scores are numbers the pairs of positions that a member wins are as many
as the members that are worse and those that are not better.  Whatever the scores are, a selection
draws a row of pairs and copies the winners; from no members none is selected. -/
theorem selection_pressure (population : List Program) :
    ((∀ p ∈ population, p.score.value.isNaN = false) → Pressure population) ∧
      (population ≠ [] → ByPairs population) ∧
      (population = [] →
        tournament population = pure none ∧ ∀ n, select population n = pure []) := by
  refine ⟨pressure, byPairs, ?_⟩
  rintro rfl
  exact ⟨rfl, select_nil⟩

/-- Of nine pairs the worst of three members wins one, and the two others share the rest. -/
theorem selection_pressure_of_three :
    let population := [3, 1, 3].map fun n => Program.empty.setScore (.ofNat n)
    (∀ p ∈ population, p.score.value.isNaN = false) ∧ population ≠ [] ∧ ByPairs population ∧
      (won population (0 : Fin 3)).card = 4 ∧ (won population (1 : Fin 3)).card = 1 ∧
      (won population (2 : Fin 3)).card = 4 := by
  intro population
  have numbers : ∀ p ∈ population, p.score.value.isNaN = false := by decide
  obtain ⟨pressed, pairs, -⟩ := selection_pressure population
  have pressure := pressed numbers
  have worst : (won population (1 : Fin 3)).card = 1 :=
    pressure.worst (1 : Fin 3) (by decide)
  have tied := pressure.tied (0 : Fin 3) (2 : Fin 3) (by decide)
  have total : (won population (0 : Fin 3)).card + (won population (1 : Fin 3)).card +
      (won population (2 : Fin 3)).card = 3 * 3 :=
    (Fin.sum_univ_three fun i : Fin 3 => (won population i).card).symm.trans pressure.total
  exact ⟨numbers, nofun, pairs nofun, by omega, worst, by omega⟩

end Selection

end Progeny

import Mathlib.Data.Fin.SuccPred
import Mathlib.Data.List.FinRange
import Mathlib.Data.Set.Function
import Mathlib.Logic.Equiv.Fin.Rotate
import Progeny.Proofs.Crossover
import Progeny.Proofs.Sequence.Access

/-!
# Who mates with whom

Every member of a pool is once the first parent of a child, in the order of the pool.  The second
parent is another member, if there is one: the next one, so that each is the second parent of one
child, or one that is drawn, so that the numbers that can be drawn stand for the others, each of
them for a different one.  A member that is alone mates with itself, and nothing is drawn for that.
-/

namespace Progeny

open Draw

variable {listed : Nat}

namespace Crossover

variable {n : Nat}

/-! ### Mates -/

theorem skipping_lt (i : Fin n) (drawn : Fin (n - 1)) : skipping i drawn < n := by
  have := drawn.isLt
  unfold skipping
  split <;> omega

/-- The member that a drawn number stands for, `i` being left out. -/
def other (i : Fin n) (drawn : Fin (n - 1)) : Fin n := ⟨skipping i drawn, skipping_lt i drawn⟩

/-- The member after `i`, and after the last one the first. -/
def next (i : Fin n) : Fin n := ⟨(i + 1) % n, Nat.mod_lt _ i.pos⟩

/-- The mate of member `i`; its own if it is alone. -/
def mate (policy : MatePolicy) (i : Fin n) : Draw (Fin n) :=
  if n < 2 then return i
  else match policy with
    | .adjacent => return next i
    | .random => do return other i (← below (n - 1))

theorem mateIndex_eq (policy : MatePolicy) (i : Fin n) :
    mateIndex policy n i = mate policy i >>= fun m => pure m.val := by
  unfold mateIndex mate
  split
  · rfl
  · cases policy with
    | adjacent => rfl
    | random =>
      simp only [bind_assoc, pure_bind]
      rfl

theorem other_eq_succAbove (i : Fin (n + 1)) (drawn : Fin n) :
    other i drawn = i.succAbove drawn := by
  refine Fin.ext ?_
  change skipping i drawn = _
  unfold skipping
  split
  · rename_i least
    rw [Fin.succAbove_of_le_castSucc i drawn least]
    rfl
  · rename_i below
    rw [Fin.succAbove_of_castSucc_lt i drawn (Nat.not_le.mp below)]
    rfl

/-- The numbers below `n - 1` stand for all members but `i`, each for a different one. -/
theorem other_bijOn (i : Fin n) : Set.BijOn (other i) Set.univ {i}ᶜ := by
  cases n with
  | zero => exact i.elim0
  | succ n =>
    have same : other i = i.succAbove := funext (other_eq_succAbove i)
    rw [same]
    refine ⟨fun drawn _ => Fin.succAbove_ne i drawn, Fin.succAbove_right_injective.injOn, ?_⟩
    intro m different
    obtain ⟨drawn, found⟩ := Fin.exists_succAbove_eq different
    exact ⟨drawn, Set.mem_univ drawn, found⟩

theorem next_eq_finRotate : (next : Fin n → Fin n) = finRotate n := by
  cases n with
  | zero => exact funext fun i => i.elim0
  | succ n =>
    funext i
    rw [finRotate_apply]
    refine Fin.ext ?_
    rw [Fin.val_add]
    simp [next]

theorem next_bijective : Function.Bijective (next : Fin n → Fin n) := by
  rw [next_eq_finRotate]
  exact (finRotate n).bijective

theorem next_ne (several : 2 ≤ n) (i : Fin n) : next i ≠ i := by
  intro same
  have position : (i + 1) % n = i := congrArg Fin.val same
  have := i.isLt
  obtain inside | last : i + 1 < n ∨ i + 1 = n := by omega
  · rw [Nat.mod_eq_of_lt inside] at position
    omega
  · rw [last, Nat.mod_self] at position
    omega

/-- What is known of the mate `m` of member `i`. -/
structure Mate (policy : MatePolicy) (i m : Fin n) : Prop where
  apart : 2 ≤ n → m ≠ i
  adjacent : policy = .adjacent → m = next i
  random : policy = .random → 2 ≤ n → ∃ drawn, m = other i drawn

theorem mate_alone (policy : MatePolicy) (alone : n < 2) (i : Fin n) : Mate policy i i where
  apart several := by omega
  adjacent _ := by
    have := i.isLt
    have := (next i).isLt
    exact Fin.ext (by omega)
  random _ several := by omega

theorem mate_next (several : 2 ≤ n) (i : Fin n) : Mate .adjacent i (next i) where
  apart _ := next_ne several i
  adjacent _ := rfl
  random := nofun

theorem mate_other (i : Fin n) (drawn : Fin (n - 1)) : Mate .random i (other i drawn) where
  apart _ := (other_bijOn i).mapsTo (Set.mem_univ drawn)
  adjacent := nofun
  random _ _ := ⟨drawn, rfl⟩

theorem yields_mate (policy : MatePolicy) (i : Fin n) :
    Yields listed (mate policy i) (Mate policy i) := by
  refine yields_ite (fun alone => yields_pure (mate_alone policy alone i)) fun several => ?_
  cases policy with
  | adjacent => exact yields_pure (mate_next (Nat.not_lt.mp several) i)
  | random =>
    exact (yields_below (by omega)).bind fun drawn _ => yields_pure (mate_other i drawn)

/-! ### The children of a pool -/

variable {config : CrossoverConfig} {pool : List Program}

/-- The child of member `i` and the mate that is found for it. -/
def birth (config : CrossoverConfig) (pool : List Program) (i : Fin pool.length) :
    Draw Program := do
  let m ← mate config.matePolicy i
  child config (pool.get i) (pool.get m)

theorem childrenFrom_cons (config : CrossoverConfig) (pool parents : List Program)
    (i : Fin pool.length) :
    childrenFrom config pool i (pool.get i :: parents) =
      birth config pool i >>= fun born =>
        childrenFrom config pool (i + 1) parents >>= fun others => pure (born :: others) := by
  rw [childrenFrom, mateIndex_eq]
  simp only [birth, bind_assoc, pure_bind, Sequence.memberAt_of_lt (Fin.isLt _)]
  rfl

theorem childrenFrom_eq (config : CrossoverConfig) (pool : List Program) (i : Nat)
    (parents : List Program) (rest : pool.drop i = parents) :
    childrenFrom config pool i parents =
      ((List.finRange pool.length).drop i).mapM (birth config pool) := by
  induction parents generalizing i with
  | nil =>
    have past : (List.finRange pool.length).length ≤ i := by
      rw [List.length_finRange]
      exact List.drop_eq_nil_iff.mp rest
    rw [List.drop_of_length_le past]
    rfl
  | cons parent parents ih =>
    have inside : i < pool.length := by
      refine Nat.not_le.mp fun past => ?_
      rw [List.drop_of_length_le past] at rest
      cases rest
    rw [List.drop_eq_getElem_cons inside] at rest
    obtain ⟨rfl, later⟩ := List.cons.inj rest
    have member := childrenFrom_cons config pool parents ⟨i, inside⟩
    rw [ih (i + 1) later] at member
    have inside' : i < (List.finRange pool.length).length := by rwa [List.length_finRange]
    rw [List.drop_eq_getElem_cons inside', List.mapM_cons, List.getElem_finRange]
    exact member

theorem children_eq (config : CrossoverConfig) (pool : List Program) :
    children config pool = (List.finRange pool.length).mapM (birth config pool) :=
  childrenFrom_eq config pool 0 pool rfl

theorem yields_birth (rate : 0.0 ≤ config.crossoverRate ∧ config.crossoverRate ≤ 1.0)
    (i : Fin pool.length) :
    Yields listed (birth config pool i) fun born =>
      ∃ m, Mate config.matePolicy i m ∧ Gives (child config (pool.get i) (pool.get m)) born := by
  refine (yields_mate config.matePolicy i).bind fun m found => ?_
  exact (yields_child rate (pool.get i) (pool.get m)).gives.mono fun born given => ⟨m, found, given⟩

/-- The members of a pool with their mates, and a child of each. -/
def Mated (config : CrossoverConfig) (pool born : List Program) : Prop :=
  ∃ length : born.length = pool.length, ∃ mates : Fin pool.length → Fin pool.length,
    ∀ i, Mate config.matePolicy i (mates i) ∧
      Gives (child config (pool.get i) (pool.get (mates i))) (born.get (i.cast length.symm))

theorem yields_mated (rate : 0.0 ≤ config.crossoverRate ∧ config.crossoverRate ≤ 1.0)
    (pool : List Program) : Yields listed (children config pool) (Mated config pool) := by
  rw [children_eq]
  refine (yields_mapM (yields_birth rate) _).mono fun born each => ?_
  obtain ⟨length, each⟩ := List.forall₂_iff_get.mp each
  rw [List.length_finRange] at length
  have parents (i : Fin pool.length) : ∃ m, Mate config.matePolicy i m ∧
      Gives (child config (pool.get i) (pool.get m)) (born.get (i.cast length)) := by
    have inside : i < (List.finRange pool.length).length := by
      rw [List.length_finRange]
      exact i.isLt
    have here := each i inside (by rw [← length]; exact i.isLt)
    rw [List.get_eq_getElem, List.getElem_finRange] at here
    exact here
  choose mates found given using parents
  exact ⟨length.symm, mates, fun i => ⟨found i, given i⟩⟩

theorem children_single (config : CrossoverConfig) (p : Program) :
    children config [p] = child config p p >>= fun born => pure [born] := by
  unfold children childrenFrom
  rfl

/-- Crossover of a pool makes a child of every member and a mate.  The mate is another member if
there is one: each of the others stands for one number that can be drawn, or every member is the
mate of one.  A member that is alone is both parents of its child, and nothing but the child is
drawn; of no members there are no children. -/
theorem mating_is_unbiased (config : CrossoverConfig)
    (rate : 0.0 ≤ config.crossoverRate ∧ config.crossoverRate ≤ 1.0) (pool : List Program) :
    children config pool = (List.finRange pool.length).mapM (birth config pool) ∧
    (∀ listed, Yields listed (children config pool) (Mated config pool)) ∧
    (∀ i : Fin pool.length, Set.BijOn (other i) Set.univ {i}ᶜ) ∧
    Function.Bijective (next : Fin pool.length → Fin pool.length) ∧
    (∀ p, pool = [p] →
      children config pool = child config p p >>= fun born => pure [born]) ∧
    (pool = [] → children config pool = pure []) := by
  refine ⟨children_eq config pool, fun _ => yields_mated rate pool, other_bijOn, next_bijective,
    ?_, ?_⟩
  · rintro p rfl
    exact children_single config p
  · rintro rfl
    rfl

/-- Of two members each is the mate of the other. -/
theorem mating_is_unbiased_pair :
    let p := Program.ofStatements [⟨[⟨"a"⟩]⟩]
    let q := Program.ofStatements [⟨[⟨"b"⟩]⟩]
    let config : CrossoverConfig := {}
    (0.0 ≤ config.crossoverRate ∧ config.crossoverRate ≤ 1.0) ∧
      ∀ listed, Yields listed (children config [p, q]) fun born =>
        ∃ a b, born = [a, b] ∧ Gives (child config p q) a ∧ Gives (child config q p) b := by
  intro p q config
  have rate : 0.0 ≤ config.crossoverRate ∧ config.crossoverRate ≤ 1.0 := by decide +kernel
  obtain ⟨-, mated, -⟩ := mating_is_unbiased config rate [p, q]
  refine ⟨rate, fun listed => (mated listed).mono fun born ⟨length, mates, parents⟩ => ?_⟩
  obtain ⟨a, b, rfl⟩ := List.length_eq_two.mp length
  have first : mates (0 : Fin 2) = (1 : Fin 2) :=
    Fin.eq_one_of_ne_zero _ ((parents (0 : Fin 2)).1.apart (Nat.le_refl 2))
  have second : mates (1 : Fin 2) = (0 : Fin 2) := by
    by_contra other
    exact (parents (1 : Fin 2)).1.apart (Nat.le_refl 2) (Fin.eq_one_of_ne_zero _ other)
  have ofFirst := (parents (0 : Fin 2)).2
  have ofSecond := (parents (1 : Fin 2)).2
  rw [first] at ofFirst
  rw [second] at ofSecond
  exact ⟨a, b, rfl, ofFirst, ofSecond⟩

end Crossover

end Progeny

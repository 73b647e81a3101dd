import Progeny.Crossover
import Progeny.Proofs.Random.Chance
import Progeny.Proofs.Sequence.Drawn
import Progeny.Proofs.Sequence.Turns

/-!
# The children of two parents

A child that is not a copy of its first parent has statements of both parents, combined in the way of
its kind: `Combination` tells for each kind between which places a parent can be cut.  Nothing else is
a child; and where both coins are sure, every combination with some statements is the child for some
words.
-/

namespace Progeny

open Draw

variable {listed : Nat}

namespace Crossover

/-! ### Combinations -/

/-- A place before one of the statements, or the only place if there is none. -/
def Cut (ss : List Statement) (i : Nat) : Prop := i < ss.length ∨ ss = [] ∧ i = 0

/-- The statements that a child of a kind can have from both parents, which have the statements `ss`
and `ts`. -/
inductive Combination (ss ts : List Statement) : CrossoverKind → List Statement → Prop
  | onePoint {i j : Nat} :
      i ≤ ss.length → j ≤ ts.length → Combination ss ts .onePoint (ss.take i ++ ts.drop j)
  | interleave : Combination ss ts .interleave (Sequence.alternation ss ts)
  | split {i j : Nat} : Cut ss i → Cut ts j → Combination ss ts .split (ss.take i ++ ts.drop j)

variable {ss ts us : List Statement} {kind : CrossoverKind} {i : Nat}

theorem Cut.position (h : Cut ss i) (some : ss ≠ []) : i < ss.length := by
  obtain inside | ⟨none, -⟩ := h
  · exact inside
  · exact absurd none some

theorem Combination.mem (h : Combination ss ts kind us) {s : Statement} (mem : s ∈ us) :
    s ∈ ss ∨ s ∈ ts := by
  cases h with
  | onePoint => exact (List.mem_append.mp mem).imp List.mem_of_mem_take List.mem_of_mem_drop
  | interleave =>
    rw [← Sequence.interleave_eq_alternation] at mem
    exact Sequence.mem_interleave_iff.mp mem
  | split => exact (List.mem_append.mp mem).imp List.mem_of_mem_take List.mem_of_mem_drop

theorem Combination.length_le (h : Combination ss ts kind us) :
    us.length ≤ ss.length + ts.length := by
  have pieces (i j : Nat) : (ss.take i ++ ts.drop j).length ≤ ss.length + ts.length := by
    rw [List.length_append]
    exact Nat.add_le_add (List.take_sublist i ss).length_le (List.drop_sublist j ts).length_le
  cases h with
  | onePoint => exact pieces _ _
  | interleave =>
    rw [← Sequence.interleave_eq_alternation]
    exact Nat.le_of_eq (Sequence.length_interleave ss ts)
  | split => exact pieces _ _

/-- The piece of a second parent with statements is not empty, so its last statement is the child's. -/
theorem Combination.getLast?_eq (h : Combination ss ts .split us) (some : ts ≠ []) :
    us.getLast? = ts.getLast? := by
  cases h with
  | @split i j _ second =>
    have position := second.position some
    rw [List.getLast?_append, List.getLast?_drop, if_neg (by omega),
      List.getLast?_eq_some_getLast some, Option.some_or]

/-! ### What is drawn for a child -/

theorem yields_split (p : Program) :
    Yields listed p.split fun pieces =>
      ∃ i, Cut p.statements i ∧ pieces.1.statements = p.statements.take i ∧
        pieces.2.statements = p.statements.drop i := by
  refine (Sequence.yields_position? p.statements).bind fun cut empty => ?_
  cases cut with
  | none =>
    have none := empty rfl
    refine yields_pure ⟨0, .inr ⟨none, rfl⟩, rfl, ?_⟩
    rw [none]
    rfl
  | some cut => exact yields_pure ⟨cut, .inl cut.isLt, rfl, rfl⟩

theorem reaches_split {p : Program} (cut : Cut p.statements i) (fits : p.size ≤ Nat.pow 2 64) :
    Reaches (fun _ => p.split)
      (.ofStatements (p.statements.take i), .ofStatements (p.statements.drop i)) := by
  obtain inside | ⟨none, rfl⟩ := cut
  · exact (Sequence.reaches_position? ⟨i, inside⟩ fits).bind (reaches_pure _)
  · cases p
    cases none
    exact reaches_pure _

theorem yields_combine (kind : CrossoverKind) (first second : Program) :
    Yields listed (combine kind first second)
      (Combination first.statements second.statements kind) := by
  cases kind with
  | onePoint =>
    refine (yields_below (Nat.succ_pos _)).bind fun i _ => ?_
    refine (yields_below (Nat.succ_pos _)).bind fun j _ => yields_pure ?_
    exact .onePoint (Nat.le_of_lt_succ i.isLt) (Nat.le_of_lt_succ j.isLt)
  | interleave =>
    have alternation : Combination first.statements second.statements .interleave _ := .interleave
    rw [← Sequence.interleave_eq_alternation] at alternation
    exact yields_pure alternation
  | split =>
    refine (yields_split first).bind fun heads ⟨i, cut, head, _⟩ => ?_
    refine (yields_split second).bind fun tails ⟨j, cut', _, tail⟩ => yields_pure ?_
    rw [head, tail]
    exact .split cut cut'

theorem reaches_combine {first second : Program}
    (h : Combination first.statements second.statements kind us)
    (fits : first.size < Nat.pow 2 64) (fits' : second.size < Nat.pow 2 64) :
    Reaches (fun _ => combine kind first second) us := by
  cases h with
  | @onePoint i j before after =>
    refine (reaches_below ⟨i, Nat.lt_succ_of_le before⟩ fits).bind ?_
    exact (reaches_below ⟨j, Nat.lt_succ_of_le after⟩ fits').bind (reaches_pure _)
  | interleave =>
    rw [← Sequence.interleave_eq_alternation]
    exact reaches_pure _
  | split cut cut' =>
    refine (reaches_split cut (Nat.le_of_lt fits)).bind ?_
    exact (reaches_split cut' (Nat.le_of_lt fits')).bind (reaches_pure _)

/-! ### The coins -/

variable {config : CrossoverConfig} {first second : Program}

theorem safe_applies (rate : 0.0 ≤ config.crossoverRate ∧ config.crossoverRate ≤ 1.0)
    (first : Program) : Safe listed (applies config first) := by
  refine (yields_chance rate).bind fun _ _ => yields_ite (fun _ => ?_) fun _ => safe_pure _
  exact yields_unit.bind fun _ _ => safe_pure _

/-- A sure rate leaves only the coin of the first parent, which falls on `true` if it is sure. -/
theorem applies_eq (rate : config.crossoverRate = 1.0) (willing : first.crossoverProbability = 1.0) :
    applies config first = unit >>= fun x => pure (decide (x ≤ 1.0)) := by
  have sure : chance 1.0 = pure true := if_pos (by decide)
  unfold applies Program.shouldCrossover
  rw [rate, willing, sure, pure_bind]
  rfl

theorem yields_applies (rate : config.crossoverRate = 1.0)
    (willing : first.crossoverProbability = 1.0) :
    Yields listed (applies config first) (· = true) := by
  rw [applies_eq rate willing]
  exact yields_willing

theorem reaches_applies (rate : config.crossoverRate = 1.0)
    (willing : first.crossoverProbability = 1.0) :
    Reaches (fun _ => applies config first) true := by
  have sure : decide (ofWord 0 ≤ 1.0) = true := by decide
  rw [applies_eq rate willing, ← sure]
  exact (reaches_unit 0).bind (reaches_pure _)

/-! ### Children -/

/-- What can become of two parents: a program that was never evaluated, with the operator
probabilities of the first, and with the statements of the first or a combination of both. -/
structure Child (kind : CrossoverKind) (first second child : Program) : Prop where
  score : child.score = .zero
  diagnostic : child.diagnostic = Program.notCompiled
  mutationProbability : child.mutationProbability = first.mutationProbability
  crossoverProbability : child.crossoverProbability = first.crossoverProbability
  statements : child.statements = first.statements ∨
    child.statements ≠ [] ∧ Combination first.statements second.statements kind child.statements
  /-- A parent with statements has no empty children. -/
  some : first.statements ≠ [] → child.statements ≠ []

theorem Child.offspring (kind : CrossoverKind) (first second : Program) :
    Child kind first second first.offspring where
  score := rfl
  diagnostic := rfl
  mutationProbability := rfl
  crossoverProbability := rfl
  statements := .inl rfl
  some := id

theorem Child.withStatements (some : us ≠ [])
    (h : Combination first.statements second.statements kind us) :
    Child kind first second (first.withStatements us) where
  score := rfl
  diagnostic := rfl
  mutationProbability := rfl
  crossoverProbability := rfl
  statements := .inr ⟨some, h⟩
  some _ := some

theorem Child.size_le {child : Program} (h : Child kind first second child) :
    child.size ≤ first.size + second.size := by
  obtain copy | ⟨-, combination⟩ := h.statements
  · unfold Program.size
    rw [copy]
    exact Nat.le_add_right _ _
  · exact combination.length_le

theorem yields_born (first second : Program) :
    Yields listed (combine config.kind first second >>= fun statements =>
      pure (if statements.isEmpty then first.offspring else first.withStatements statements))
      (Child config.kind first second) := by
  refine (yields_combine config.kind first second).bind fun statements combination => yields_pure ?_
  split
  · exact .offspring config.kind first second
  · rename_i notEmpty
    exact .withStatements (fun none => notEmpty (List.isEmpty_iff.mpr none)) combination

theorem yields_child (rate : 0.0 ≤ config.crossoverRate ∧ config.crossoverRate ≤ 1.0)
    (first second : Program) :
    Yields listed (child config first second) (Child config.kind first second) := by
  refine (safe_applies rate first).bind fun applied => yields_ite (fun _ => ?_) fun _ => ?_
  · exact yields_born first second
  · exact yields_pure (.offspring config.kind first second)

theorem reaches_child (rate : config.crossoverRate = 1.0)
    (willing : first.crossoverProbability = 1.0)
    (fits : first.size < Nat.pow 2 64) (fits' : second.size < Nat.pow 2 64) (some : us ≠ [])
    (h : Combination first.statements second.statements config.kind us) :
    Reaches (fun _ => child config first second) (first.withStatements us) := by
  refine (reaches_applies rate willing).bind (.yes ?_ rfl)
  have notEmpty : ¬us.isEmpty = true := mt List.isEmpty_iff.mp some
  refine (reaches_combine h fits fits').bind ?_
  rw [if_neg notEmpty]
  exact reaches_pure _

/-- Two parents with statements, put together by the second piece of the second one. -/
theorem yields_child_split (kind : config.kind = .split) (rate : config.crossoverRate = 1.0)
    (willing : first.crossoverProbability = 1.0) (some : second.statements ≠ []) :
    Yields listed (child config first second) fun born =>
      born.statements.getLast? = second.statements.getLast? := by
  refine (yields_applies rate willing).bind fun applied sure => ?_
  rw [if_pos sure]
  refine (yields_combine config.kind first second).bind fun statements combination => ?_
  rw [kind] at combination
  have last := combination.getLast?_eq some
  -- the child is not empty, as it has a last statement
  have notEmpty : ¬statements.isEmpty = true := by
    intro empty
    rw [List.isEmpty_iff.mp empty, List.getLast?_nil, eq_comm, List.getLast?_eq_none_iff] at last
    exact some last
  refine yields_pure ?_
  rw [if_neg notEmpty]
  exact last

/-- Crossover gives copies of the first parent and combinations of both that have statements, and no
other programs.  Where both coins are sure it gives every such combination, of parents that are not
longer than a word counts; and by the pieces of two parents with statements it gives only children
that end as the second parent does. -/
theorem children_are_combinations (config : CrossoverConfig)
    (rate : 0.0 ≤ config.crossoverRate ∧ config.crossoverRate ≤ 1.0) (first second : Program) :
    (∀ listed, Yields listed (child config first second) (Child config.kind first second)) ∧
    (config.crossoverRate = 1.0 → first.crossoverProbability = 1.0 →
      (first.size < 2 ^ 64 → second.size < 2 ^ 64 → ∀ us, us ≠ [] →
        Combination first.statements second.statements config.kind us →
          ∃ words, Spells (child config first second) words (first.withStatements us)) ∧
      (config.kind = .split → first.statements ≠ [] → second.statements ≠ [] →
        ∀ listed, Yields listed (child config first second) fun born =>
          born.statements.getLast? = second.statements.getLast?)) := by
  refine ⟨fun _ => yields_child rate first second, fun always willing => ⟨?_, ?_⟩⟩
  · intro fits fits' us some combination
    exact (reaches_child always willing fits fits' some combination).spelled
  · intro kind _ some listed
    exact yields_child_split kind always willing some

/-- The first statement of one parent and the last of the other. -/
theorem children_are_combinations_split :
    let first := Program.ofStatements [⟨[⟨"a"⟩]⟩, ⟨[⟨"b"⟩]⟩]
    let second := Program.ofStatements [⟨[⟨"c"⟩]⟩, ⟨[⟨"d"⟩]⟩]
    ∃ words, Spells (child { crossoverRate := 1.0, kind := .split } first second) words
      (first.withStatements [⟨[⟨"a"⟩]⟩, ⟨[⟨"d"⟩]⟩]) := by
  intro first second
  have combination : Combination first.statements second.statements .split
      [⟨[⟨"a"⟩]⟩, ⟨[⟨"d"⟩]⟩] := .split (i := 1) (j := 1) (.inl (by decide)) (.inl (by decide))
  have config := children_are_combinations { crossoverRate := 1.0, kind := .split }
    (by decide +kernel) first second
  obtain ⟨every, -⟩ := config.2 rfl rfl
  exact every (by decide) (by decide) _ nofun combination

end Crossover

end Progeny

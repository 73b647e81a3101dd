import Progeny.Proofs.Random.Chance

/-!
# Draws that fail

A draw that tosses a coin with what is no probability fails, whatever the words are.  `Fails` is for
such draws what `Yields` is for the others: they have no result, they fail on enough words, and more
words do not save them.  Draws that only run dry may come before the coin.
-/

namespace Progeny.Draw

open Fallible

variable {α β : Type} {listed : Nat}

/-- `draw` fails on the words of `source`, and not because they are too few. -/
def Panics (draw : Draw α) (source : Words) : Prop := ∃ e, draw source = .error e ∧ e ≠ .dry

/-- `draw` has no result; it fails on fewer than `listed` words with enough zero words after them, and
where it fails it does on more words as well. -/
structure Fails (listed : Nat) (draw : Draw α) : Prop where
  result : ∀ {source rest : Words} {a : α}, draw source ≠ .ok (a, rest)
  steady : ∀ {source : Words}, Panics draw source → ∀ more, Panics draw (source.plus more)
  ends : ∀ {first : List UInt64}, first.length < listed →
    ∃ supply, Panics draw (.thenZeros first supply)

/-- Whatever words come before the zero words, enough of them settle whether there is a result or a
failure. -/
def Settles (draw : Draw α) : Prop :=
  ∀ first : List UInt64, ∃ enough, ∀ more, draw (.thenZeros first (enough + more)) ≠ .error .dry

/-! ### Sequences of draws -/

/-- A sequence fails where its first draw does, or the second one on the words that are left. -/
theorem panics_bind {draw : Draw α} {next : α → Draw β} {source : Words} :
    Panics (draw >>= next) source ↔
      Panics draw source ∨ ∃ a rest, draw source = .ok (a, rest) ∧ Panics (next a) rest := by
  unfold Panics
  rw [bind_eq]
  cases drawn : draw source with
  | ok first =>
    simp only [reduceCtorEq, false_and, exists_false, false_or, Except.ok.injEq]
    constructor
    · intro failed
      exact ⟨first.1, first.2, rfl, failed⟩
    · rintro ⟨a, rest, rfl, failed⟩
      exact failed
  | error e => simp

theorem Yields.not_panics {draw : Draw α} {P : α → Prop} {source : Words}
    (h : Yields listed draw P) : ¬Panics draw source := by
  rintro ⟨e, failed, notDry⟩
  exact notDry (h.failure failed)

/-- What follows a draw that fails is never drawn. -/
theorem Fails.bind {draw : Draw α} (h : Fails listed draw) (next : α → Draw β) :
    Fails listed (draw >>= next) where
  result drawn := by
    obtain ⟨a, middle, first, -⟩ := bind_eq_ok.mp drawn
    exact h.result first
  steady failed more := by
    obtain first | ⟨a, rest, drawn, -⟩ := panics_bind.mp failed
    · exact panics_bind.mpr (.inl (h.steady first more))
    · exact absurd drawn h.result
  ends short := by
    obtain ⟨supply, first⟩ := h.ends short
    exact ⟨supply, panics_bind.mpr (.inl first)⟩

/-- A draw that can only run dry comes to the one that fails. -/
theorem Yields.bind_fails {draw : Draw α} {next : α → Draw β} {P : α → Prop}
    (h : Yields listed draw P) (hnext : ∀ a, P a → Fails listed (next a)) :
    Fails listed (draw >>= next) where
  result drawn := by
    obtain ⟨a, middle, first, second⟩ := bind_eq_ok.mp drawn
    exact (hnext a (h.result first)).result second
  steady failed more := by
    obtain first | ⟨a, rest, drawn, second⟩ := panics_bind.mp failed
    · exact absurd first h.not_panics
    · have later := (hnext a (h.result drawn)).steady second more
      exact panics_bind.mpr (.inr ⟨a, rest.plus more, h.steady drawn more, later⟩)
  ends {first} short := by
    obtain ⟨supply, a, rest, left, drawn, fewer⟩ := h.ends short
    have ha := h.result drawn
    obtain ⟨supply', second⟩ := (hnext a ha).ends (Nat.lt_of_le_of_lt fewer short)
    -- the words that the first draw leaves over come on top of those that the second one needs
    have later := (hnext a ha).steady second left
    rw [Words.plus_thenZeros, Nat.add_comm] at later
    exact ⟨supply + supply', panics_bind.mpr (.inr ⟨a, _, h.steady drawn supply', later⟩)⟩

/-! ### Enough words -/

theorem Yields.settles {draw : Draw α} {P : α → Prop} (h : ∀ listed, Yields listed draw P) :
    Settles draw := by
  intro first
  obtain ⟨enough, a, rest, left, drawn⟩ := Yields.finishes h first
  refine ⟨enough, fun more dry => ?_⟩
  rw [drawn more] at dry
  cases dry

theorem Fails.settles {draw : Draw α} (h : ∀ listed, Fails listed draw) : Settles draw := by
  intro first
  have within := h (first.length + 1)
  obtain ⟨enough, failed⟩ := within.ends (Nat.lt_succ_self first.length)
  refine ⟨enough, fun more dry => ?_⟩
  obtain ⟨e, later, notDry⟩ := within.steady failed more
  rw [Words.plus_thenZeros, dry] at later
  cases later
  exact notDry rfl

theorem Settles.bind {draw : Draw α} {next : α → Draw β} {P : α → Prop}
    (h : ∀ listed, Yields listed draw P) (hnext : ∀ a, P a → Settles (next a)) :
    Settles (draw >>= next) := by
  intro first
  obtain ⟨enough, a, rest, left, drawn⟩ := Yields.finishes h first
  have ha := (h 0).result (drawn 0)
  obtain ⟨enough', settled⟩ := hnext a ha rest
  refine ⟨enough + enough', fun more dry => ?_⟩
  have reached := drawn (enough' + more)
  rw [← Nat.add_assoc, Nat.add_left_comm left] at reached
  rw [bind_eq, reached] at dry
  exact settled (left + more) dry

/-! ### Coins that are none -/

/-- Not a number, or outside of `[0, 1]`. -/
def Improper (x : Float) : Prop := x.isNaN = true ∨ x < 0.0 ∨ 1.0 < x

theorem improper_iff {x : Float} : Improper x ↔ ¬(0.0 ≤ x ∧ x ≤ 1.0) := by
  have zero : (0.0 : Float).isNaN = false := by decide
  have one : (1.0 : Float).isNaN = false := by decide
  unfold Improper
  cases number : x.isNaN with
  | true =>
    refine ⟨fun _ probability => ?_, fun _ => .inl rfl⟩
    have isNumber := (Double.le_iff.mp probability.1).2.1
    rw [number] at isNumber
    cases isNumber
  | false =>
    simp only [Double.le_iff, Double.lt_iff, number, zero, one, true_and, reduceCtorEq, false_or]
    omega

theorem chance_of_improper {p : Float} (h : Improper p) : chance p = throw (.notProbability p) := by
  have outside := improper_iff.mp h
  have notSure : ¬(p == 1.0) = true := by
    intro sure
    obtain ⟨high, low⟩ := Double.beq_iff_le.mp sure
    exact outside ⟨Double.le_trans (by decide) low, high⟩
  have notLower : ¬(0.0 ≤ p ∧ p < 1.0) := by
    rintro ⟨low, high⟩
    exact outside ⟨low, Double.le_of_lt high⟩
  unfold chance
  rw [if_neg notSure, if_neg notLower]

theorem panics_chance {p : Float} (h : Improper p) (source : Words) : Panics (chance p) source := by
  rw [chance_of_improper h]
  exact ⟨.notProbability p, rfl, nofun⟩

theorem fails_chance {p : Float} (h : Improper p) : Fails listed (chance p) where
  result drawn := by
    rw [chance_of_improper h] at drawn
    cases drawn
  steady _ _ := panics_chance h _
  ends _ := ⟨0, panics_chance h _⟩

end Progeny.Draw

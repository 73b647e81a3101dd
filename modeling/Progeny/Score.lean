/-!
# Scores

A score is a double.  Programs are ranked by a total order of all doubles, in which zeros and
not-a-numbers with different signs differ, so a score is kept as its bit pattern; its value is the
double with that pattern.
-/

namespace Progeny

/-- A double, told apart from every double with other bits. -/
structure Score where
  bits : UInt64
  deriving DecidableEq, Repr

namespace Score

/-- The number that a score stands for. -/
def value (s : Score) : Float := Float.ofBits s.bits

/-- A number as a score.  What is not a number gets the bits of `nan` however it was computed, and
so ranks above all numbers.  A processor is free in the sign: x86-64 computes `∞ - ∞` with the sign
bit, and a score with those bits would rank below all numbers. -/
def ofFloat (x : Float) : Score := ⟨x.toBits⟩

/-- A count as a score. -/
def ofNat (n : Nat) : Score := ofFloat n.toFloat

/-- The score of a program that was never evaluated. -/
def zero : Score := ⟨0⟩

/-- A score that is not a number. -/
def nan : Score := ⟨0x7FF8000000000000⟩

/-- The place of a score among all doubles: patterns without the sign bit rank by their bits, and
patterns with it rank below them, in the opposite order. -/
def rank (s : Score) : Int :=
  if s.bits < 0x8000000000000000 then (s.bits.toNat : Int)
  else (0x7FFFFFFFFFFFFFFF : Int) - s.bits.toNat

/-- The total order of all doubles. -/
def compare (s t : Score) : Ordering := Ord.compare s.rank t.rank

/-- Whether `s` ranks no higher than `t`. -/
def atMost (s t : Score) : Bool := s.rank ≤ t.rank

/-- Whether the value of `s` is greater than that of `t`; never, if one is not a number. -/
def beats (s t : Score) : Bool := decide (s.value > t.value)

theorem rank_injective {s t : Score} (h : s.rank = t.rank) : s = t := by
  have hs := s.bits.toNat_lt
  have ht := t.bits.toNat_lt
  have key : s.bits.toNat = t.bits.toNat := by
    unfold rank at h
    simp only [UInt64.lt_iff_toNat_lt] at h
    have big : (0x8000000000000000 : UInt64).toNat = 9223372036854775808 := by decide
    rw [big] at h
    split at h <;> split at h <;> omega
  cases s; cases t
  simpa [← UInt64.toNat_inj] using key

/-! ### Views of a score -/

/-- Squashed into `(-1, 1)`. -/
def tanh (s : Score) : Float := s.value.tanh

/-- Squashed into `(-π/2, π/2)`. -/
def arctan (s : Score) : Float := s.value.atan

/-- Squashed into `(0, 1)`. -/
def logistic (s : Score) : Float := 1.0 / (1.0 + (-s.value).exp)

/-- Zero in the place of what is not above zero. -/
def rectified (s : Score) : Float := if s.value > 0.0 then s.value else 0.0

/-- One, or zero for a negative score. -/
def step (s : Score) : Float := if s.value < 0.0 then 0.0 else 1.0

/-- The score itself, or `e ^ (s - 1)` for a negative score `s`. -/
def exponential (s : Score) : Float :=
  if s.value < 0.0 then (s.value - 1.0).exp else s.value

end Score

end Progeny

/-!
# The word generator

A run is driven by one stream of 64-bit words.  `Generator` is the state of xoshiro256++, whose
steps are shifts, rotations and exclusive ors of four words; `Generator.ofSeed` spreads a single
seed word over the whole state with eight steps of a congruential generator.
-/

namespace Progeny

/-- `x` rotated left by `k` bits, for `0 < k < 64`. -/
def rotateLeft (x k : UInt64) : UInt64 := (x <<< k) ||| (x >>> (64 - k))

/-- The four words of a xoshiro256++ state. -/
structure Generator where
  s0 : UInt64
  s1 : UInt64
  s2 : UInt64
  s3 : UInt64
  deriving DecidableEq, Repr

namespace Generator

/-- The state that yields the zero word for ever. -/
def zero : Generator := ⟨0, 0, 0, 0⟩

/-- The next word and the state after it. -/
def next (g : Generator) : UInt64 × Generator :=
  let word := rotateLeft (g.s0 + g.s3) 23 + g.s0
  let s2 := g.s2 ^^^ g.s0
  let s3 := g.s3 ^^^ g.s1
  (word, ⟨g.s0 ^^^ s3, g.s1 ^^^ s2, s2 ^^^ (g.s1 <<< 17), rotateLeft s3 45⟩)

/-- One step of the congruential generator that expands a seed. -/
def advanceSeed (state : UInt64) : UInt64 :=
  state * 6364136223846793005 + 11634580027462260723

/-- The 32 bits that a seed state gives out: its high half, folded, then rotated right by its top
five bits. -/
def seedBits (state : UInt64) : UInt32 :=
  let folded := (((state >>> 18) ^^^ state) >>> 27).toUInt32
  let amount := (state >>> 59).toUInt32
  (folded >>> amount) ||| (folded <<< ((32 - amount) % 32))

/-- Two consecutive outputs of the seed expansion, as one word with the first in the low half. -/
def seedWord (state : UInt64) : UInt64 × UInt64 :=
  let low := advanceSeed state
  let high := advanceSeed low
  ((seedBits low).toUInt64 ||| ((seedBits high).toUInt64 <<< 32), high)

/-- The state that belongs to a seed. -/
def ofSeed (seed : UInt64) : Generator :=
  let (s0, state) := seedWord seed
  let (s1, state) := seedWord state
  let (s2, state) := seedWord state
  let (s3, _) := seedWord state
  ⟨s0, s1, s2, s3⟩

theorem next_zero : zero.next = (0, zero) := by decide

end Generator

end Progeny

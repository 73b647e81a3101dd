import Progeny.Random.Generator

/-!
# Draws from a word stream

`Words` is a source of 64-bit words: first those that are queued, then those of a generator, and no
more than `remaining` of them altogether.  A `Draw` reads a source and hands back what is left of
it, so two draws in sequence never see the same word, and the number of words that a draw used is
the difference of the two `remaining` counts.

A draw fails in six ways only: the source runs dry, a coin is tossed with a number that is not a
probability, a number is asked for below zero numbers, a member is looked up that does not exist,
more things are asked for than there is room for, or a count leaves the machine word that it is kept
in.  Indices are drawn as `Fin n`, so an index that was drawn is always in range.
-/

namespace Progeny

/-- A source of words that is read from the front. -/
structure Words where
  queued : List UInt64
  generator : Generator
  remaining : Nat
  deriving DecidableEq, Repr

namespace Words

/-- More words than any run reads. -/
def plenty : Nat := Nat.pow 2 62

/-- The words of a seed's generator. -/
def ofSeed (seed : UInt64) : Words := ⟨[], .ofSeed seed, plenty⟩

/-- The listed words, then zero words, `limit` in all. -/
def thenZeros (queued : List UInt64) (limit : Nat) : Words := ⟨queued, .zero, limit⟩

/-- The first word and the rest of the source; `none` once the source is dry. -/
def next? (source : Words) : Option (UInt64 × Words) :=
  match source.remaining with
  | 0 => none
  | left + 1 =>
    match source.queued with
    | word :: queued => some (word, { source with queued := queued, remaining := left })
    | [] =>
      let (word, generator) := source.generator.next
      some (word, { source with generator := generator, remaining := left })

end Words

/-- Why a draw has no result. -/
inductive DrawFailure where
  /-- The source had no word left. -/
  | dry
  /-- A coin was to be tossed with `p`, which is not a number from 0 to 1. -/
  | notProbability (p : Float)
  /-- A number was to be drawn out of none. -/
  | emptyRange
  /-- The member at `position` was looked up, and there is none. -/
  | noMember (position : Nat)
  /-- More things were asked for than there is room for. -/
  | tooMany (count : Nat)
  /-- A count was to be computed that does not fit into a machine word. -/
  | overflow
  deriving DecidableEq

/-- A computation that reads words. -/
abbrev Draw (α : Type) := StateT Words (Except DrawFailure) α

namespace Draw

/-- One word. -/
def word : Draw UInt64 := fun source =>
  match source.next? with
  | some result => .ok result
  | none => .error .dry

/-- A number in `[0, 1)`: the top 53 bits of a word, scaled by `2 ^ (-53)`. -/
def ofWord (w : UInt64) : Float := (w >>> 11).toFloat * 1.1102230246251565e-16

/-- A uniform number in `[0, 1)`. -/
def unit : Draw Float := do return ofWord (← word)

/-- Words up to the first that `accept` takes, at most `fuel` of them. -/
def firstAccepted {α : Type} (accept : UInt64 → Option α) : Nat → Draw α
  | 0 => throw .dry
  | fuel + 1 => do
    match accept (← word) with
    | some a => return a
    | none => firstAccepted accept fuel

/-- The result for the first word that `accept` takes. -/
def untilAccepted {α : Type} (accept : UInt64 → Option α) : Draw α := fun source =>
  firstAccepted accept source.remaining source

/-- Scales `x`, a number of `bits` bits, to a number below `n`.  The product `x * n` is cut into a
high and a low part of `bits` bits each; the high part is the result, and a low part above the
largest multiple of `n` that is a power-of-two shift of it is refused, which keeps the results
equally likely. -/
def scale? (bits n x : Nat) (hx : x < Nat.pow 2 bits) : Option (Fin n) :=
  if x * n % Nat.pow 2 bits < n * Nat.pow 2 (bits - 1 - n.log2) then
    if h : 0 < n then
      some ⟨x * n / Nat.pow 2 bits, by
        have positive : 0 < Nat.pow 2 bits := Nat.two_pow_pos bits
        rw [Nat.div_lt_iff_lt_mul positive, Nat.mul_comm n]
        exact (Nat.mul_lt_mul_right h).mpr hx⟩
    else none
  else none

/-- A number below `n`, from whole words. -/
def below (n : Nat) : Draw (Fin n) :=
  if n = 0 then throw .emptyRange
  else untilAccepted fun w => scale? 64 n w.toNat w.toNat_lt

/-- A number below `n`, from the upper halves of words. -/
def belowNarrow (n : Nat) : Draw (Fin n) :=
  if n = 0 then throw .emptyRange
  else untilAccepted fun w => scale? 32 n (w >>> 32).toUInt32.toNat (w >>> 32).toUInt32.toNat_lt

/-- A position among `n`: from the upper halves of words as long as `n` is a number of 32 bits, and
from whole words beyond. -/
def index (n : Nat) : Draw (Fin n) := if n < UInt32.size then belowNarrow n else below n

/-- The bound that a word stays under when a coin of probability `p` falls on `true`. -/
def coinBound (p : Float) : UInt64 := (p * 18446744073709551616.0).toUInt64

/-- A coin that falls on `true` with probability `p`.  A sure coin is not tossed. -/
def chance (p : Float) : Draw Bool :=
  if p == 1.0 then return true
  else if 0.0 ≤ p ∧ p < 1.0 then do return decide ((← word) < coinBound p)
  else throw (.notProbability p)

/-- The member at a position of a list. -/
def memberAt {α : Type} (xs : List α) (position : Nat) : Draw α :=
  match xs[position]? with
  | some a => return a
  | none => throw (.noMember position)

/-- A member of a list, which must not be empty. -/
def member {α : Type} (xs : List α) : Draw α := do
  return xs.get (← index xs.length)

/-- A member of a list; nothing is drawn for the empty list. -/
def choose {α : Type} (xs : List α) : Draw (Option α) :=
  if xs.isEmpty then return none else do return some (← member xs)

/-- The results of `n` draws in a row. -/
def replicate {α : Type} : Nat → Draw α → Draw (List α)
  | 0, _ => return []
  | n + 1, draw => do
    let a ← draw
    let rest ← replicate n draw
    return a :: rest

end Draw

end Progeny

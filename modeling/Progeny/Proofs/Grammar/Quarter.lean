import Mathlib.Algebra.Order.Round
import Mathlib.Data.Rat.Floor
import Progeny.Proofs.Breeding

/-!
# A quarter of declarations

A quarter of the statements of a new program, a half rounded up, are declarations.  Their number is
found in machine words by an addition and a division.  It is a quarter of the count whenever the sum
fits into a word, which only the two greatest words do not allow: they have no number of
declarations, and a program of so many statements is refused on the spot.  There is no room for it
in any case; and where there is room, a new program has as many statements as were asked for.
-/

namespace Progeny.Grammar

open Draw

/-- A quarter, a half rounded up, as a division of whole numbers. -/
theorem round_quarter (k : ℕ) : round ((k : ℚ) / 4) = declared k := by
  have shifted : (k : ℚ) / 4 + 1 / 2 = ((k + 2 : ℕ) : ℚ) / (4 : ℕ) := by
    push_cast
    ring
  rw [round_eq, shifted]
  exact Rat.floor_natCast_div_natCast (k + 2) 4

theorem declared_near (k : ℕ) : k ≤ 4 * declared k + 1 ∧ 4 * declared k ≤ k + 2 := by
  unfold declared
  omega

theorem declared_mono {j k : ℕ} (le : j ≤ k) : declared j ≤ declared k :=
  Nat.div_le_div_right (Nat.add_le_add_right le 2)

theorem declared_succ_le (k : ℕ) : declared (k + 1) ≤ declared k + 1 := by
  unfold declared
  omega

/-! ### Counts as machine words -/

section Word

variable {k count : UInt64}

/-- `count` is a quarter of `k`; it is at most `k`, not less than the number of declarations among
any fewer statements, and greater by at most one than that among one statement less. -/
structure Quartered (k count : UInt64) : Prop where
  rounded : (count.toNat : ℤ) = round ((k.toNat : ℚ) / 4)
  near : k.toNat ≤ 4 * count.toNat + 1 ∧ 4 * count.toNat ≤ k.toNat + 2
  within : count ≤ k
  monotone : ∀ j ≤ k, ∃ fewer, declarationCount j = .ok fewer ∧ fewer ≤ count
  grows : ∀ j : UInt64, j.toNat + 1 = k.toNat →
    ∃ fewer, declarationCount j = .ok fewer ∧ count.toNat ≤ fewer.toNat + 1

theorem quartered_of_ok (counted : declarationCount k = .ok count) : Quartered k count := by
  obtain ⟨fits, quarter⟩ := declarationCount_eq_ok_iff.mp counted
  refine ⟨?_, ?_, ?_, fun j below => ?_, fun j next => ?_⟩
  · rw [round_quarter, quarter]
  · rw [quarter]
    exact declared_near k.toNat
  · rw [UInt64.le_iff_toNat_le, quarter]
    exact declared_le k.toNat
  · rw [UInt64.le_iff_toNat_le] at below
    obtain ⟨fewer, counted', quarter'⟩ := exists_declarationCount (k := j) (by omega)
    refine ⟨fewer, counted', ?_⟩
    rw [UInt64.le_iff_toNat_le, quarter, quarter']
    exact declared_mono below
  · obtain ⟨fewer, counted', quarter'⟩ := exists_declarationCount (k := j) (by omega)
    refine ⟨fewer, counted', ?_⟩
    rw [quarter, quarter', ← next]
    exact declared_succ_le j.toNat

/-- There is such a number exactly as long as the sum that it is found by fits into a word. -/
theorem exists_quartered_iff :
    (∃ count, declarationCount k = .ok count ∧ Quartered k count) ↔ k.toNat + 2 < UInt64.size := by
  constructor
  · rintro ⟨count, counted, -⟩
    exact (declarationCount_eq_ok_iff.mp counted).1
  · intro fits
    obtain ⟨count, counted, -⟩ := exists_declarationCount fits
    exact ⟨count, counted, quartered_of_ok counted⟩

theorem declarationCount_of_beyond (beyond : UInt64.size ≤ k.toNat + 2) :
    declarationCount k = .error .overflow :=
  declarationCount_eq_error_iff.mpr ⟨beyond, rfl⟩

end Word

/-! ### Whole programs -/

/-- `p` is as many declarations as were counted, and then other sentences up to `k`. -/
def Portioned (k count : UInt64) (p : Program) : Prop :=
  ∃ (declarations : List Declaration) (sentences : List Sentence),
    p = .ofStatements
      (declarations.map (fun d => ⟨d.tokens⟩) ++ sentences.map fun s => ⟨s.tokens⟩) ∧
    declarations.length = count.toNat ∧
    declarations.length + sentences.length = k.toNat

theorem yields_portioned (listed : ℕ) {k count : UInt64}
    (counted : declarationCount k = .ok count) :
    Yields listed (Program.randomWith count.toNat k.toNat) (Portioned k count) := by
  have quarter := (declarationCount_eq_ok_iff.mp counted).2
  rw [quarter]
  refine (Program.yields_randomWith k.toNat).mono fun p initial => ?_
  obtain ⟨body, rfl⟩ := initial
  have within := declared_le k.toNat
  refine ⟨body.declarations, body.sentences, rfl, body.first.trans quarter.symm, ?_⟩
  rw [body.first, body.rest]
  omega

/-- The number of declarations among `k` statements is a quarter of `k`, a half rounded up, with all
that goes with it, exactly if `k + 2` fits into a word; otherwise it overflows.  Where it is
`count`, the draws of `count` declarations and then of other sentences up to `k` come to an end
whatever words they read, and give a program of that kind.  A new program is these draws, if there
is room for it; otherwise it is refused, by the overflow of its count if that is what there is. -/
theorem declarations_are_quarter_iff (k : UInt64) :
    ((∃ count, declarationCount k = .ok count ∧ Quartered k count) ↔ k.toNat + 2 < UInt64.size) ∧
    (UInt64.size ≤ k.toNat + 2 → declarationCount k = .error .overflow) ∧
    (∀ count, declarationCount k = .ok count →
      Finishes (Program.randomWith count.toNat k.toNat) ∧
      ∀ source rest p, Program.randomWith count.toNat k.toNat source = .ok (p, rest) →
        Portioned k count p) ∧
    (k.toNat ≤ Program.maxStatements → ∃ count, declarationCount k = .ok count ∧
      Program.random k.toNat = Program.randomWith count.toNat k.toNat) ∧
    (Program.maxStatements < k.toNat → ∀ source, Program.random k.toNat source =
      .error (if UInt64.size ≤ k.toNat + 2 then .overflow else .tooMany k.toNat)) := by
  refine ⟨exists_quartered_iff, declarationCount_of_beyond, fun count counted => ⟨?_, ?_⟩,
    fun room => ?_, fun crowded source => ?_⟩
  · exact Yields.finishes fun listed => yields_portioned listed counted
  · exact fun _ _ _ drawn => (yields_portioned 0 counted).result drawn
  · obtain ⟨count, counted, quarter⟩ := exists_declarationCount (Program.fits_of_room room).2
    refine ⟨count, counted, ?_⟩
    rw [Program.random_of_room room, quarter]
  · have word : k.toNat.toUInt64 = k := UInt64.ofNat_toNat
    rw [Program.random_of_no_room crowded, word]

/-- The greatest count but one has no number of declarations, although its quarter is a word and one
more than the number for the count before it. -/
theorem declarations_overflow_before_quarter :
    declarationCount 18446744073709551613 = .ok 4611686018427387903 ∧
    declarationCount 18446744073709551614 = .error .overflow ∧
    round ((18446744073709551614 : ℚ) / 4) = 4611686018427387904 ∧
    ¬∃ count, declarationCount 18446744073709551614 = .ok count ∧
      Quartered 18446744073709551614 count := by
  refine ⟨by decide, by decide, ?_, fun quartered => ?_⟩
  · norm_num
  · exact absurd (exists_quartered_iff.mp quartered) (by decide)

end Progeny.Grammar

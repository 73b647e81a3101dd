import Progeny.Proofs.Random.Yields

/-!
# Words for a result

`Spells draw words a` says that `draw` gives `a` on exactly these words: it reads all of them, and
what follows makes no difference.  What is spelled by the parts of a sequence is spelled by the
whole, its words being those of the parts in the order of the draws.  Every number below a bound is
spelled by one word, and so is every member of a list.

A draw with a bound on its nesting is given as the family of the draws for all bounds.  `Reaches`
says that some words spell the result for every bound that is at least the number of these words;
so a family that reads a word before each nesting reaches what its parts reach, and the draw whose
bound is the number of words that are left does as well.
-/

namespace Progeny.Draw

open Fallible

variable {α β : Type}

/-- On the listed words, whatever follows them, `draw` gives `a` and leaves what follows. -/
def Spells (draw : Draw α) (words : List UInt64) (a : α) : Prop :=
  ∀ later generator supply,
    draw ⟨words ++ later, generator, words.length + supply⟩ = .ok (a, ⟨later, generator, supply⟩)

/-- Some words spell `a`, for every bound that is not below their number. -/
def Reaches (draws : Nat → Draw α) (a : α) : Prop :=
  ∃ words : List UInt64, ∀ bound, words.length ≤ bound → Spells (draws bound) words a

/-! ### Sequences of draws -/

theorem spells_pure (a : α) : Spells (pure a : Draw α) [] a := by
  intro later generator supply
  rw [List.nil_append, List.length_nil, Nat.zero_add]
  rfl

theorem Spells.bind {draw : Draw α} {next : α → Draw β} {words words' : List UInt64} {a : α} {b : β}
    (h : Spells draw words a) (hnext : Spells (next a) words' b) :
    Spells (draw >>= next) (words ++ words') b := by
  intro later generator supply
  have first := h (words' ++ later) generator (words'.length + supply)
  rw [← List.append_assoc, ← Nat.add_assoc, ← List.length_append] at first
  exact bind_eq_ok.mpr ⟨a, _, first, hnext later generator supply⟩

theorem Spells.reaches {draw : Draw α} {words : List UInt64} {a : α} (h : Spells draw words a) :
    Reaches (fun _ => draw) a := ⟨words, fun _ _ => h⟩

theorem Reaches.spelled {draw : Draw α} {a : α} (h : Reaches (fun _ => draw) a) :
    ∃ words, Spells draw words a := by
  obtain ⟨words, spells⟩ := h
  exact ⟨words, spells words.length (Nat.le_refl _)⟩

theorem reaches_pure (a : α) : Reaches (fun _ => (pure a : Draw α)) a := (spells_pure a).reaches

theorem Reaches.bind {draws : Nat → Draw α} {next : Nat → α → Draw β} {a : α} {b : β}
    (h : Reaches draws a) (hnext : Reaches (fun bound => next bound a) b) :
    Reaches (fun bound => draws bound >>= next bound) b := by
  obtain ⟨words, first⟩ := h
  obtain ⟨words', second⟩ := hnext
  refine ⟨words ++ words', fun bound enough => ?_⟩
  rw [List.length_append] at enough
  exact (first bound (by omega)).bind (second bound (by omega))

/-- The way that a comparison of numbers takes is found by evaluating it. -/
theorem Reaches.yes {c : Prop} [Decidable c] {yes no : Nat → Draw α} {a : α} (h : Reaches yes a)
    (holds : c := by decide) :
    Reaches (fun bound => if c then yes bound else no bound) a := by
  simpa only [if_pos holds] using h

theorem Reaches.no {c : Prop} [Decidable c] {yes no : Nat → Draw α} {a : α} (h : Reaches no a)
    (fails : ¬c := by decide) :
    Reaches (fun bound => if c then yes bound else no bound) a := by
  simpa only [if_neg fails] using h

theorem reaches_replicate {draws : Nat → Draw α} {as : List α} (h : ∀ a ∈ as, Reaches draws a) :
    Reaches (fun bound => replicate as.length (draws bound)) as := by
  induction as with
  | nil => exact reaches_pure []
  | cons a rest ih =>
    rw [List.forall_mem_cons] at h
    exact h.1.bind ((ih h.2).bind (reaches_pure _))

/-! ### Bounds on the nesting -/

/-- A family that reads at least one word before it nests one level deeper. -/
theorem Reaches.deeper {draws : Nat → Draw α} {head : Draw β} {next : Nat → β → Draw α}
    (step : ∀ bound, draws (bound + 1) = head >>= next bound) {words : List UInt64} {b : β} {a : α}
    (first : Spells head words b) (reads : words ≠ [])
    (h : Reaches (fun bound => next bound b) a) : Reaches draws a := by
  obtain ⟨words', second⟩ := h
  have positive := List.length_pos_iff.mpr reads
  refine ⟨words ++ words', fun bound enough => ?_⟩
  rw [List.length_append] at enough
  -- the level that is given up is paid for by a word, so the bound is still enough for the rest
  obtain ⟨less, rfl⟩ := Nat.exists_eq_add_of_lt (show 0 < bound by omega)
  rw [Nat.zero_add, step]
  exact first.bind (second less (by omega))

/-- There are as many words left as the words that spell a result, so they are bound enough. -/
theorem Reaches.bounded {draws : Nat → Draw α} {a : α} (h : Reaches draws a) :
    Reaches (fun _ => fun source => draws source.remaining source) a := by
  obtain ⟨words, spells⟩ := h
  refine ⟨words, fun _ _ later generator supply => ?_⟩
  exact spells (words.length + supply) (Nat.le_add_right _ _) later generator supply

/-! ### The basic draws -/

theorem spells_word (w : UInt64) : Spells word [w] w := by
  intro later generator supply
  rw [List.length_singleton, Nat.add_comm]
  rfl

theorem spells_unit (w : UInt64) : Spells unit [w] (ofWord w) :=
  (spells_word w).bind (spells_pure _)

theorem reaches_unit (w : UInt64) : Reaches (fun _ => unit) (ofWord w) := (spells_unit w).reaches

theorem spells_firstAccepted {accept : UInt64 → Option α} {w : UInt64} {a : α}
    (accepted : accept w = some a) (fuel : Nat) :
    Spells (firstAccepted accept (fuel + 1)) [w] a := by
  change Spells (firstAccepted accept (fuel + 1)) ([w] ++ []) a
  refine (spells_word w).bind ?_
  rw [accepted]
  exact spells_pure a

theorem spells_untilAccepted {accept : UInt64 → Option α} {w : UInt64} {a : α}
    (accepted : accept w = some a) : Spells (untilAccepted accept) [w] a := by
  intro later generator supply
  have first := spells_firstAccepted accepted supply later generator supply
  have enough : [w].length + supply = supply + 1 := Nat.add_comm 1 supply
  rw [enough] at first ⊢
  exact first

/-- Among the multiples of `n` that are cut by a range of at least `n`, each quotient below `n`
occurs with a remainder below `n`: it is that of the first multiple that reaches it. -/
theorem exists_multiple {n range i : Nat} (inside : i < n) (fits : n ≤ range) :
    ∃ x < range, x * n / range = i ∧ x * n % range < n := by
  obtain ⟨x, low, high⟩ : ∃ x, i * range ≤ x * n ∧ x * n < i * range + n := by
    -- the first multiple of `n` from `i * range` on
    refine ⟨(i * range + (n - 1)) / n, ?_, ?_⟩
    · have split := Nat.div_add_mod (i * range + (n - 1)) n
      have rest := Nat.mod_lt (i * range + (n - 1)) (Nat.zero_lt_of_lt inside)
      rw [Nat.mul_comm n] at split
      omega
    · have below := Nat.div_mul_le_self (i * range + (n - 1)) n
      omega
  have next : i * range + range ≤ n * range := by
    rw [← Nat.succ_mul]
    exact Nat.mul_le_mul_right range inside
  have quotient : x * n / range = i := by
    refine Nat.div_eq_of_lt_le low ?_
    rw [Nat.succ_mul]
    omega
  refine ⟨x, ?_, quotient, ?_⟩
  · refine Nat.lt_of_mul_lt_mul_right (a := n) ?_
    rw [Nat.mul_comm range]
    omega
  · have split := Nat.div_add_mod (x * n) range
    rw [quotient, Nat.mul_comm range] at split
    omega

/-- Every number below `n` is a scaled one. -/
theorem exists_scale? {bits n : Nat} (i : Fin n) (fits : n ≤ Nat.pow 2 bits) :
    ∃ (x : Nat) (hx : x < Nat.pow 2 bits), scale? bits n x hx = some i := by
  obtain ⟨x, hx, quotient, remainder⟩ := exists_multiple i.isLt fits
  refine ⟨x, hx, ?_⟩
  have least : n * 1 ≤ n * Nat.pow 2 (bits - 1 - n.log2) :=
    Nat.mul_le_mul_left n (Nat.two_pow_pos _)
  unfold scale?
  rw [if_pos (by omega), dif_pos i.pos]
  exact congrArg some (Fin.ext quotient)

theorem spells_below {n : Nat} (i : Fin n) (fits : n ≤ Nat.pow 2 64) :
    ∃ w, Spells (below n) [w] i := by
  obtain ⟨x, hx, scaled⟩ := exists_scale? i fits
  refine ⟨UInt64.ofNat x, ?_⟩
  unfold below
  rw [if_neg (Nat.ne_of_gt i.pos)]
  refine spells_untilAccepted ?_
  have same : (UInt64.ofNat x).toNat = x := UInt64.toNat_ofNat_of_lt hx
  simp only [same, scaled]

/-- A number of 32 bits is the upper half of some word. -/
theorem upperHalf_ofNat {x : Nat} (hx : x < UInt32.size) :
    (UInt64.ofNat (x * UInt32.size) >>> 32).toUInt32.toNat = x := by
  have whole : (UInt64.ofNat (x * UInt32.size)).toNat = x * UInt32.size := by
    refine UInt64.toNat_ofNat_of_lt ?_
    simp only [UInt32.size, UInt64.size] at hx ⊢
    omega
  have amount : (32 : UInt64).toNat % 64 = 32 := by decide
  rw [UInt64.toNat_toUInt32, UInt64.toNat_shiftRight, whole, amount, Nat.shiftRight_eq_div_pow]
  exact (congrArg (· % UInt32.size) (Nat.mul_div_cancel x (by decide))).trans (Nat.mod_eq_of_lt hx)

theorem spells_belowNarrow {n : Nat} (i : Fin n) (fits : n ≤ Nat.pow 2 32) :
    ∃ w, Spells (belowNarrow n) [w] i := by
  obtain ⟨x, hx, scaled⟩ := exists_scale? i fits
  refine ⟨UInt64.ofNat (x * UInt32.size), ?_⟩
  unfold belowNarrow
  rw [if_neg (Nat.ne_of_gt i.pos)]
  refine spells_untilAccepted ?_
  simp only [upperHalf_ofNat hx, scaled]

theorem reaches_below {n : Nat} (i : Fin n) (fits : n ≤ Nat.pow 2 64) :
    Reaches (fun _ => below n) i := by
  obtain ⟨w, spells⟩ := spells_below i fits
  exact spells.reaches

theorem reaches_belowNarrow {n : Nat} (i : Fin n) (fits : n ≤ Nat.pow 2 32) :
    Reaches (fun _ => belowNarrow n) i := by
  obtain ⟨w, spells⟩ := spells_belowNarrow i fits
  exact spells.reaches

theorem reaches_index {n : Nat} (i : Fin n) (fits : n ≤ Nat.pow 2 64) :
    Reaches (fun _ => index n) i := by
  unfold index
  split
  · rename_i narrow
    exact reaches_belowNarrow i (Nat.le_of_lt narrow)
  · exact reaches_below i fits

theorem reaches_member {xs : List α} {a : α} (mem : a ∈ xs) (fits : xs.length ≤ Nat.pow 2 64) :
    Reaches (fun _ => member xs) a := by
  obtain ⟨i, rfl⟩ := List.get_of_mem mem
  exact (reaches_index i fits).bind (reaches_pure _)

end Progeny.Draw

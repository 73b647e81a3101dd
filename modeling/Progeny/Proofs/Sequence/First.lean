import Mathlib.Order.Lattice
import Progeny.Sequence.Edit

/-!
# First among the greatest

A scan that keeps an element until it meets an eligible one with a greater key ends at the first of
the eligible elements with the greatest key.  So do the searches for the greatest and for the
smallest measure, for which every element is eligible, the search in a table, which passes over the
elements that do not stand there, and the search for the best score, which passes over those that
are not numbers.
-/

namespace Progeny.Sequence

variable {α κ : Type}

section Order

variable [LinearOrder κ] {eligible : α → Prop} {key : α → κ} {xs ys : List α} {a b : α}

/-- Of the eligible elements, `a` has the greatest key and stands before all others with it. -/
structure IsFirst (eligible : α → Prop) (key : α → κ) (xs : List α) (a : α) : Prop where
  chosen : eligible a
  greatest : ∀ b ∈ xs, eligible b → key b ≤ key a
  first : ∃ i : Nat, xs[i]? = some a ∧ ∀ j < i, ∀ b, xs[j]? = some b → eligible b → key b < key a

theorem IsFirst.mem (h : IsFirst eligible key xs a) : a ∈ xs :=
  let ⟨_, at_i, _⟩ := h.first
  List.mem_of_getElem? at_i

theorem IsFirst.unique (h : IsFirst eligible key xs a) (h' : IsFirst eligible key xs b) : a = b := by
  obtain ⟨i, at_i, before_i⟩ := h.first
  obtain ⟨j, at_j, before_j⟩ := h'.first
  rcases Nat.lt_trichotomy i j with less | rfl | less
  · exact absurd (h.greatest b h'.mem h'.chosen) (not_le_of_gt (before_j i less a at_i h.chosen))
  · exact Option.some.inj (at_i.symm.trans at_j)
  · exact absurd (h'.greatest a h.mem h.chosen) (not_le_of_gt (before_i j less b at_j h'.chosen))

theorem IsFirst.some_iff (h : IsFirst eligible key xs a) :
    some a = some b ↔ IsFirst eligible key xs b :=
  ⟨fun same => Option.some.inj same ▸ h, fun h' => congrArg some (h.unique h')⟩

theorem IsFirst.congr {eligible' : α → Prop} {key' : α → κ}
    (same : ∀ b ∈ xs, eligible b ↔ eligible' b) (equal : ∀ b ∈ xs, eligible b → key b = key' b)
    (h : IsFirst eligible key xs a) : IsFirst eligible' key' xs a where
  chosen := (same a h.mem).mp h.chosen
  greatest b mem hb := by
    have hb := (same b mem).mpr hb
    rw [← equal a h.mem h.chosen, ← equal b mem hb]
    exact h.greatest b mem hb
  first := by
    obtain ⟨i, at_i, before⟩ := h.first
    refine ⟨i, at_i, fun j less b at_j hb => ?_⟩
    have mem := List.mem_of_getElem? at_j
    have hb := (same b mem).mpr hb
    rw [← equal a h.mem h.chosen, ← equal b mem hb]
    exact before j less b at_j hb

/-- The first of the greatest is the first one that is found with its key. -/
theorem isFirst_iff_find? [DecidablePred eligible] :
    IsFirst eligible key xs a ↔
      (∀ b ∈ xs, eligible b → key b ≤ key a) ∧
        xs.find? (fun b => eligible b ∧ key b = key a) = some a := by
  constructor
  · intro h
    obtain ⟨i, at_i, before⟩ := h.first
    obtain ⟨inside, here⟩ := List.getElem?_eq_some_iff.mp at_i
    refine ⟨h.greatest, List.find?_eq_some_iff_getElem.mpr
      ⟨decide_eq_true ⟨h.chosen, rfl⟩, i, inside, here, fun j less => ?_⟩⟩
    have smaller := before j less _ (List.getElem?_eq_getElem (less.trans inside))
    simpa [← imp_iff_not_or] using fun hb => (smaller hb).ne
  · rintro ⟨greatest, found⟩
    obtain ⟨chosen, i, inside, here, before⟩ := List.find?_eq_some_iff_getElem.mp found
    refine ⟨(of_decide_eq_true chosen).1, greatest, i, List.getElem?_eq_some_iff.mpr ⟨inside, here⟩,
      fun j less b at_j hb => ?_⟩
    obtain ⟨inside', rfl⟩ := List.getElem?_eq_some_iff.mp at_j
    have unlike : eligible xs[j] → key xs[j] ≠ key a := by
      simpa [← imp_iff_not_or] using before j less
    exact (greatest _ (List.getElem_mem inside') hb).lt_of_ne (unlike hb)

/-- Elements that are not eligible may be left out. -/
theorem isFirst_filter_iff [DecidablePred eligible] :
    IsFirst (fun _ => True) key (xs.filter (eligible ·)) a ↔ IsFirst eligible key xs a := by
  rw [isFirst_iff_find?, isFirst_iff_find?, List.find?_filter]
  simp [and_imp]

theorem idxOf_le_of_getElem? [DecidableEq α] {i : Nat} (at_i : xs[i]? = some a) :
    xs.idxOf a ≤ i := by
  obtain ⟨inside, rfl⟩ := List.getElem?_eq_some_iff.mp at_i
  refine Nat.not_lt.mp fun before => ?_
  exact Bool.false_ne_true ((List.not_of_lt_findIdx before).symm.trans (beq_self_eq_true _))

/-- No other eligible element with the key of the first one occurs before it. -/
theorem isFirst_iff_idxOf [DecidableEq α] :
    IsFirst eligible key xs a ↔
      a ∈ xs ∧ eligible a ∧ (∀ b ∈ xs, eligible b → key b ≤ key a) ∧
        ∀ b ∈ xs, eligible b → key b = key a → xs.idxOf a ≤ xs.idxOf b := by
  constructor
  · intro h
    refine ⟨h.mem, h.chosen, h.greatest, fun b mem hb level => Nat.not_lt.mp fun earlier => ?_⟩
    obtain ⟨i, at_i, before⟩ := h.first
    have inside := List.idxOf_lt_length_iff.mpr mem
    have at_b : xs[xs.idxOf b]? = some b :=
      List.getElem?_eq_some_iff.mpr ⟨inside, List.getElem_idxOf inside⟩
    have earlier := earlier.trans_le (idxOf_le_of_getElem? at_i)
    exact (before _ earlier b at_b hb).ne level
  · rintro ⟨mem, chosen, greatest, earliest⟩
    have inside := List.idxOf_lt_length_iff.mpr mem
    refine ⟨chosen, greatest, xs.idxOf a,
      List.getElem?_eq_some_iff.mpr ⟨inside, List.getElem_idxOf inside⟩, fun j less b at_j hb => ?_⟩
    have mem' := List.mem_of_getElem? at_j
    refine (greatest b mem' hb).lt_of_ne fun level => ?_
    exact Nat.not_lt.mpr ((earliest b mem' hb level).trans (idxOf_le_of_getElem? at_j)) less

/-! ### One element more -/

/-- The first one stays the first one before an element that is no greater, or not eligible. -/
theorem IsFirst.concat (h : IsFirst eligible key xs a) (next : eligible b → key b ≤ key a) :
    IsFirst eligible key (xs ++ [b]) a where
  chosen := h.chosen
  greatest := List.forall_mem_append.mpr ⟨h.greatest, List.forall_mem_singleton.mpr next⟩
  first := by
    obtain ⟨i, at_i, before⟩ := h.first
    obtain ⟨inside, -⟩ := List.getElem?_eq_some_iff.mp at_i
    refine ⟨i, (List.getElem?_append_left inside).trans at_i, fun j less c at_j => ?_⟩
    rw [List.getElem?_append_left (less.trans inside)] at at_j
    exact before j less c at_j

theorem isFirst_concat_self (hb : eligible b) (above : ∀ c ∈ xs, eligible c → key c < key b) :
    IsFirst eligible key (xs ++ [b]) b where
  chosen := hb
  greatest := List.forall_mem_append.mpr
    ⟨fun c mem hc => (above c mem hc).le, List.forall_mem_singleton.mpr fun _ => le_rfl⟩
  first := by
    refine ⟨xs.length, List.getElem?_concat_length, fun j less c at_j => ?_⟩
    rw [List.getElem?_append_left less] at at_j
    exact above c (List.mem_of_getElem? at_j)

/-- A greater element takes the place of the first one. -/
theorem IsFirst.concat_self (h : IsFirst eligible key xs a) (hb : eligible b)
    (next : key a < key b) : IsFirst eligible key (xs ++ [b]) b :=
  isFirst_concat_self hb fun c mem hc => (h.greatest c mem hc).trans_lt next

/-! ### The scans for the greatest and for the smallest measure -/

/-- `step` goes over to what is eligible and better than the best one so far, and keeps that one
beside anything else. -/
theorem isFirst_foldl {step : α → α → α}
    (takes : ∀ best b, eligible best → eligible b → key best < key b → step best b = b)
    (keeps : ∀ best b, eligible best → (eligible b → key b ≤ key best) → step best b = best)
    {seen : List α} (h : IsFirst eligible key seen a) (rest : List α) :
    IsFirst eligible key (seen ++ rest) (rest.foldl step a) := by
  induction rest generalizing seen a with
  | nil => rwa [List.append_nil]
  | cons b rest ih =>
    rw [List.append_cons, List.foldl_cons]
    by_cases better : eligible b ∧ key a < key b
    · obtain ⟨hb, greater⟩ := better
      rw [takes a b h.chosen hb greater]
      exact ih (h.concat_self hb greater)
    · have kept (hb : eligible b) : key b ≤ key a := not_lt.mp fun greater => better ⟨hb, greater⟩
      rw [keeps a b h.chosen kept]
      exact ih (h.concat kept)

theorem isFirst_singleton (chosen : eligible a) : IsFirst eligible key [a] a := by
  have above : ∀ c ∈ ([] : List α), eligible c → key c < key a := nofun
  exact isFirst_concat_self chosen above

end Order

variable {measure : α → Nat} {xs : List α} {a : α}

theorem firstMax_eq_some_iff :
    firstMax measure xs = some a ↔ IsFirst (fun _ => True) measure xs a := by
  cases xs with
  | nil => exact iff_of_false nofun fun h => List.not_mem_nil h.mem
  | cons b rest =>
    refine (isFirst_foldl ?_ ?_ (isFirst_singleton trivial) rest).some_iff
    · exact fun best c _ _ greater => if_pos greater
    · exact fun best c _ kept => if_neg (not_lt_of_ge (kept trivial))

theorem firstMin_eq_some_iff :
    firstMin measure xs = some a ↔ IsFirst (fun _ => True) (OrderDual.toDual ∘ measure) xs a := by
  cases xs with
  | nil => exact iff_of_false nofun fun h => List.not_mem_nil h.mem
  | cons b rest =>
    refine (isFirst_foldl ?_ ?_ (isFirst_singleton trivial) rest).some_iff
    · exact fun best c _ _ smaller => if_pos (OrderDual.toDual_lt_toDual.mp smaller)
    · exact fun best c _ kept => if_neg (not_lt_of_ge (OrderDual.toDual_le_toDual.mp (kept trivial)))

theorem firstMax_eq_none_iff : firstMax measure xs = none ↔ xs = [] := by
  cases xs with
  | nil => exact iff_of_true rfl rfl
  | cons b rest => exact iff_of_false nofun nofun

theorem firstMin_eq_none_iff : firstMin measure xs = none ↔ xs = [] := by
  cases xs with
  | nil => exact iff_of_true rfl rfl
  | cons b rest => exact iff_of_false nofun nofun

end Progeny.Sequence

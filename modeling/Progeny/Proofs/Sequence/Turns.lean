import Progeny.Program.Basic

/-!
# Two sequences in turn

Two sequences are put together by taking their elements in turn, and a sequence is parted into the
elements at its even and at its odd positions.  What was parted and is put together again is as it
was.  The other way round, the parts are the two sequences just if these have one length or the
first has one element more: the rest of the longer one goes into both parts.
-/

namespace Progeny

namespace Sequence

variable {α : Type} {xs ys : List α} {i : Nat}

/-! ### Putting together -/

/-- The elements of two sequences, those at one position next to each other, and then the rest of
the longer sequence. -/
def alternation (xs ys : List α) : List α :=
  (xs.zip ys).flatMap (fun pair => [pair.1, pair.2]) ++ (xs.drop ys.length ++ ys.drop xs.length)

theorem interleave_eq_alternation (xs ys : List α) : interleave xs ys = alternation xs ys := by
  fun_induction interleave xs ys with
  | case1 ys =>
    simp only [alternation, List.zip_nil_left, List.flatMap_nil, List.nil_append, List.length_nil,
      List.drop_zero, List.drop_nil]
  | case2 xs =>
    simp only [alternation, List.zip_nil_right, List.flatMap_nil, List.nil_append, List.length_nil,
      List.drop_zero, List.drop_nil, List.append_nil]
  | case3 x xs y ys ih =>
    rw [ih]
    rfl

theorem mem_interleave_iff {xs ys : List α} {a : α} :
    a ∈ interleave xs ys ↔ a ∈ xs ∨ a ∈ ys := by
  fun_induction interleave xs ys with
  | case1 ys => simp
  | case2 xs => simp
  | case3 x xs y ys ih =>
    simp only [List.mem_cons, ih, or_assoc, or_left_comm]

/-! ### Parting -/

theorem evens_cons (x : α) (xs : List α) : evens (x :: xs) = x :: odds xs := by
  cases xs with
  | nil => rfl
  | cons y xs => rfl

theorem odds_cons (x : α) (xs : List α) : odds (x :: xs) = evens xs := rfl

theorem length_evens (xs : List α) :
    (evens xs).length = (odds xs).length ∨ (evens xs).length = (odds xs).length + 1 := by
  induction xs with
  | nil => exact .inl rfl
  | cons x xs ih =>
    rw [evens_cons, odds_cons, List.length_cons]
    omega

/-! ### Parting and putting together -/

theorem interleave_evens_odds (xs : List α) : interleave (evens xs) (odds xs) = xs := by
  fun_induction evens xs with
  | case1 => rfl
  | case2 a => rfl
  | case3 a b rest ih =>
    rw [odds_cons, evens_cons, interleave, ih]

theorem evens_odds_interleave (short : xs.length = ys.length ∨ xs.length = ys.length + 1) :
    evens (interleave xs ys) = xs ∧ odds (interleave xs ys) = ys := by
  fun_induction interleave xs ys with
  | case1 ys =>
    obtain rfl : ys = [] := List.eq_nil_of_length_eq_zero (by simpa [eq_comm] using short)
    exact ⟨rfl, rfl⟩
  | case2 xs some =>
    obtain ⟨x, rfl⟩ : ∃ x, xs = [x] := by
      refine List.length_eq_one_iff.mp (short.resolve_left ?_)
      exact fun none => some (List.eq_nil_of_length_eq_zero none)
    exact ⟨rfl, rfl⟩
  | case3 x xs y ys ih =>
    rw [List.length_cons, List.length_cons] at short
    obtain ⟨even, odd⟩ := ih (by omega)
    rw [evens_cons, odds_cons, odds_cons, evens_cons, even, odd]
    exact ⟨rfl, rfl⟩

/-- The parts are the two sequences only if the first is the longer one by at most one element. -/
theorem evens_odds_interleave_iff :
    evens (interleave xs ys) = xs ∧ odds (interleave xs ys) = ys ↔
      xs.length = ys.length ∨ xs.length = ys.length + 1 := by
  refine ⟨fun ⟨even, odd⟩ => ?_, evens_odds_interleave⟩
  have lengths := length_evens (interleave xs ys)
  rw [even, odd] at lengths
  exact lengths

/-! ### Positions -/

/-- The sequence that has a rest after turns with the other. -/
def longer (xs ys : List α) : List α := if xs.length ≤ ys.length then ys else xs

theorem getElem?_longer_cons (x y : α) (xs ys : List α) (i : Nat) :
    (longer (x :: xs) (y :: ys))[i + 1]? = (longer xs ys)[i]? := by
  unfold longer
  simp only [List.length_cons, Nat.add_le_add_iff_right]
  split
  · exact List.getElem?_cons_succ
  · exact List.getElem?_cons_succ

theorem getElem?_interleave_first (shared : i < min xs.length ys.length) :
    (interleave xs ys)[2 * i]? = xs[i]? := by
  fun_induction interleave xs ys generalizing i with
  | case1 ys => simp at shared
  | case2 xs some => simp at shared
  | case3 x xs y ys ih =>
    cases i with
    | zero => rfl
    | succ i => exact ih (by simp only [List.length_cons] at shared; omega)

theorem getElem?_interleave_second (shared : i < min xs.length ys.length) :
    (interleave xs ys)[2 * i + 1]? = ys[i]? := by
  fun_induction interleave xs ys generalizing i with
  | case1 ys => simp at shared
  | case2 xs some => simp at shared
  | case3 x xs y ys ih =>
    cases i with
    | zero => rfl
    | succ i => exact ih (by simp only [List.length_cons] at shared; omega)

theorem getElem?_interleave_rest (past : min xs.length ys.length ≤ i) :
    (interleave xs ys)[min xs.length ys.length + i]? = (longer xs ys)[i]? := by
  fun_induction interleave xs ys generalizing i with
  | case1 ys =>
    have longest : longer [] ys = ys := if_pos (Nat.zero_le _)
    rw [longest, List.length_nil, Nat.zero_min, Nat.zero_add]
  | case2 xs some =>
    have positive := List.length_pos_iff.mpr some
    have longest : longer xs [] = xs := if_neg (Nat.not_le.mpr positive)
    rw [longest, List.length_nil, Nat.min_zero, Nat.zero_add]
  | case3 x xs y ys ih =>
    simp only [List.length_cons, Nat.add_min_add_right] at past ⊢
    cases i with
    | zero => omega
    | succ i =>
      have position : min xs.length ys.length + 1 + (i + 1) =
          min xs.length ys.length + i + 1 + 1 := by omega
      rw [position, getElem?_longer_cons]
      exact ih (by omega)

/-- What stands where after turns of two sequences. -/
structure InTurn (xs ys zs : List α) : Prop where
  length : zs.length = xs.length + ys.length
  first : ∀ i < min xs.length ys.length, zs[2 * i]? = xs[i]?
  second : ∀ i < min xs.length ys.length, zs[2 * i + 1]? = ys[i]?
  rest : ∀ i ≥ min xs.length ys.length, zs[min xs.length ys.length + i]? = (longer xs ys)[i]?

theorem inTurn_interleave (xs ys : List α) : InTurn xs ys (interleave xs ys) where
  length := length_interleave xs ys
  first _ := getElem?_interleave_first
  second _ := getElem?_interleave_second
  rest _ := getElem?_interleave_rest

end Sequence

/-- Putting the statements at even and at odd positions together gives the program that they are of;
and parting a program that was put together gives the statements of both, just if the first has as
many as the second or one more.  For all programs it is settled what stands where. -/
theorem interleave_parts :
    (∀ p : Program, ((Program.ofStatements p.evenStatements).interleave
      (.ofStatements p.oddStatements)).statements = p.statements) ∧
    (∀ a b : Program, (a.interleave b).evenStatements = a.statements ∧
      (a.interleave b).oddStatements = b.statements ↔ a.size = b.size ∨ a.size = b.size + 1) ∧
    ∀ a b : Program, Sequence.InTurn a.statements b.statements (a.interleave b).statements :=
  ⟨fun p => Sequence.interleave_evens_odds p.statements,
    fun _ _ => Sequence.evens_odds_interleave_iff,
    fun a b => Sequence.inTurn_interleave a.statements b.statements⟩

end Progeny

import Progeny.Proofs.Program.Drawn
import Progeny.Proofs.Sequence.Reordering
import Progeny.Proofs.Sequence.Window

/-!
# The books of an edit

The books of an edit balance: what it leaves and what it takes out are together what there was and
what it puts in.  What goes in and what comes out is known for each kind of edit.  Where nothing does,
all statements keep their places, unless the edit is one of those that reorder; and what an edit
hands back is what it took out, or tells that it did nothing.
-/

namespace Progeny

open Draw

namespace Program

/-! ### Statements that are put in or taken out -/

/-- `taken.2` is `ss` with the statements `taken.1` taken out. -/
structure Splits (ss : List Statement) (taken : List Statement × List Statement) : Prop where
  perm : (taken.2 ++ taken.1).Perm ss
  kept : taken.1 = [] → taken.2 = ss

/-- One of the statements `ss`, or nothing if there is none. -/
def OneOf (ss picked : List Statement) : Prop :=
  (∃ s ∈ ss, picked = [s]) ∨ ss = [] ∧ picked = []

theorem splits_nothing (ss : List Statement) : Splits ss ([], ss) where
  perm := by rw [List.append_nil]
  kept _ := rfl

theorem splits_position {ss : List Statement} {i : Nat} (inside : i < ss.length) :
    Splits ss ([ss[i]], ss.eraseIdx i) where
  perm := Sequence.eraseIdx_perm inside
  kept := nofun

theorem Splits.trans {ss : List Statement} {first second : List Statement × List Statement}
    (h : Splits ss first) (h' : Splits first.2 second) :
    Splits ss (first.1 ++ second.1, second.2) where
  perm := by
    have swapped : (second.2 ++ (first.1 ++ second.1)).Perm (second.2 ++ (second.1 ++ first.1)) :=
      List.perm_append_comm.append_left _
    rw [← List.append_assoc second.2 second.1] at swapped
    exact (swapped.trans (h'.perm.append_right _)).trans h.perm
  kept none := by
    obtain ⟨first, second⟩ := List.append_eq_nil_iff.mp none
    rw [h'.kept second, h.kept first]

/-- Up to one statement is taken out, of those that there are. -/
theorem Splits.oneOf {ss : List Statement} {taken : List Statement × List Statement}
    (h : Splits ss taken) (length : taken.1.length = min 1 ss.length) : OneOf ss taken.1 := by
  cases ss with
  | nil => exact .inr ⟨rfl, List.eq_nil_of_length_eq_zero length⟩
  | cons s ss =>
    rw [List.length_cons, Nat.min_eq_left (Nat.succ_pos _)] at length
    obtain ⟨t, only⟩ := List.length_eq_one_iff.mp length
    refine .inl ⟨t, ?_, only⟩
    refine h.perm.mem_iff.mp (List.mem_append_right _ ?_)
    rw [only]
    exact List.mem_singleton_self t

theorem splits_getElem? (ss : List Statement) (i : Nat) :
    Splits ss (ss[i]?.toList, ss.eraseIdx i) := by
  by_cases inside : i < ss.length
  · rw [List.getElem?_eq_getElem inside]
    exact splits_position inside
  · rw [List.getElem?_eq_none (by omega), List.eraseIdx_of_length_le (by omega)]
    exact splits_nothing ss

theorem splits_first (ss : List Statement) : Splits ss (ss.head?.toList, ss.eraseIdx 0) := by
  rw [List.head?_eq_getElem?]
  exact splits_getElem? ss 0

theorem splits_last (ss : List Statement) : Splits ss (ss.getLast?.toList, ss.dropLast) := by
  cases last : ss.getLast? with
  | none =>
    obtain rfl := List.getLast?_eq_none_iff.mp last
    exact splits_nothing []
  | some s =>
    obtain ⟨before, rfl⟩ := List.getLast?_eq_some_iff.mp last
    rw [List.dropLast_concat]
    exact ⟨.refl _, nofun⟩

theorem splits_removeSpan (ss : List Statement) (low high : Nat) :
    Splits ss (Sequence.removeSpan ss low high) := by
  dsimp only [Sequence.removeSpan]
  split
  · rename_i order
    refine ⟨Sequence.cut_perm ss (Nat.le_of_lt order), fun none => ?_⟩
    have length := congrArg List.length none
    simp only [List.length_take, List.length_drop, List.length_nil] at length
    omega
  · exact splits_nothing ss

theorem splits_eraseP (ss : List Statement) (p : Statement → Bool) :
    Splits ss ((ss.find? p).toList, ss.eraseP p) := by
  obtain ⟨-, noMatch, same⟩ | ⟨i, inside, -, first, erased⟩ := findIdx?_cases ss p
  · rw [noMatch, same]
    exact splits_nothing ss
  · rw [first, erased]
    exact splits_position inside

theorem splits_firstMatches (targets ss : List Statement) :
    Splits ss (firstMatches targets ss) := by
  induction targets generalizing ss with
  | nil => exact splits_nothing ss
  | cons target targets ih => exact (splits_eraseP ss _).trans (ih _)

variable {listed : Nat}

theorem yields_takeRandoms (n : Nat) (ss : List Statement) :
    Yields listed (takeRandoms n ss) fun taken =>
      taken.1.length = min n ss.length ∧ Splits ss taken := by
  induction n generalizing ss with
  | zero => exact yields_pure ⟨(Nat.zero_min _).symm, splits_nothing ss⟩
  | succ n ih =>
    refine (Sequence.yields_position? ss).bind fun i empty => ?_
    cases i with
    | none =>
      obtain rfl := empty rfl
      exact yields_pure ⟨rfl, splits_nothing []⟩
    | some i =>
      simp only [Sequence.takeAt_of_lt i.isLt, pure_bind]
      refine (ih _).bind fun taken ⟨length, splits⟩ => yields_pure ⟨?_, ?_⟩
      · have inside := i.isLt
        rw [List.length_eraseIdx_of_lt inside] at length
        rw [List.length_cons, length]
        omega
      · exact (splits_position i.isLt).trans splits

/-! ### The books of one edit -/

namespace Edit

/-- Whether an edit changes the order of the statements only. -/
def reorders : Edit → Bool
  | reverse | shuffle | rotate | sortBySize | swap _ _ | swapRandom => true
  | _ => false

/-- Everything that an edit of `ss` is given, draws or copies, and puts in. -/
def Adds (ss : List Statement) (edit : Edit) (added : List Statement) : Prop :=
  match edit with
  | push s | insert _ s => added = [s]
  | extend new | insertAll _ new => added = new
  | insertRandomStatement => ∃ d : Grammar.Sentence, added = [⟨d.tokens⟩]
  | insertRandomStatements n =>
    ∃ ds : List Grammar.Sentence, ds.length = n ∧ added = ds.map fun d => ⟨d.tokens⟩
  | replaceStatement old new =>
    added = ((ss.find? (·.sameText old)).map fun _ => new).toList
  | replaceRandomStatement | duplicateRandomStatement => OneOf ss added
  | _ => added = []

/-- Everything that an edit of `ss` takes out or overwrites. -/
def Removes (ss : List Statement) (edit : Edit) (removed : List Statement) : Prop :=
  match edit with
  | remove i => removed = ss[i]?.toList
  | removeFirst => removed = ss.head?.toList
  | removeLast => removed = ss.getLast?.toList
  | removeStatement s | replaceStatement s _ => removed = (ss.find? (·.sameText s)).toList
  | removeStatements targets => removed = (firstMatches targets ss).1
  | removeRange low high => removed = (ss.drop low).take (high - low)
  | removeRandomStatement | replaceRandomStatement => OneOf ss removed
  | removeRandomStatements n => removed.length = min n ss.length
  | _ => removed = []

end Edit

/-- The books of an edit of `ss`. -/
structure Books (ss : List Statement) (edit : Edit) (m : Movement) : Prop where
  balance : (m.after ++ m.removed).Perm (ss ++ m.added)
  adds : edit.Adds ss m.added
  removes : edit.Removes ss m.removed
  /-- Where nothing moves, all statements keep their places. -/
  kept : (edit.reorders = true → ss = []) → m.removed = [] → m.added = [] → m.after = ss

variable {ss : List Statement} {edit : Edit}

theorem books_put {new after : List Statement} (h : Sequence.Grows ss new after)
    (adds : edit.Adds ss new) (removes : edit.Removes ss []) :
    Books ss edit (.put new after) where
  balance := by
    change (after ++ []).Perm (ss ++ new)
    rw [List.append_nil]
    exact h.perm
  adds := adds
  removes := removes
  kept _ _ none := h.kept none

theorem Splits.books {taken : List Statement × List Statement} (h : Splits ss taken)
    (adds : edit.Adds ss []) (removes : edit.Removes ss taken.1) : Books ss edit (.take taken) where
  balance := by
    change (taken.2 ++ taken.1).Perm (ss ++ [])
    rw [List.append_nil]
    exact h.perm
  adds := adds
  removes := removes
  kept _ none _ := h.kept none

/-- Overwriting takes out one statement and puts in another. -/
theorem books_overwrite {i : Nat} (inside : i < ss.length) {new : Statement}
    (adds : edit.Adds ss [new]) (removes : edit.Removes ss [ss[i]]) :
    Books ss edit (.overwrite new (ss[i], ss.set i new)) where
  balance := Sequence.set_perm inside new
  adds := adds
  removes := removes
  kept _ := nofun

theorem books_order {after : List Statement} (perm : after.Perm ss)
    (kept : (edit.reorders = true → ss = []) → after = ss)
    (adds : edit.Adds ss []) (removes : edit.Removes ss []) : Books ss edit (.order after) where
  balance := perm.append_right []
  adds := adds
  removes := removes
  kept order _ _ := kept order

/-- The reordering edits. -/
theorem books_reorder {after : List Statement} (perm : after.Perm ss)
    (reorders : edit.reorders = true) (adds : edit.Adds ss []) (removes : edit.Removes ss []) :
    Books ss edit (.order after) := by
  refine books_order perm (fun empty => ?_) adds removes
  rw [empty reorders] at perm ⊢
  exact perm.eq_nil

/-- The books balance for every edit, and no access of it fails. -/
theorem yields_moves (ss : List Statement) (edit : Edit) :
    Yields listed (edit.moves ss) (Books ss edit) := by
  cases edit with
  | push s => exact yields_pure (books_put (Sequence.grows_append ss [s]) rfl rfl)
  | insert i s =>
    rw [Edit.moves_insert]
    exact yields_pure (books_put (Sequence.grows_insertAll ss i [s]) rfl rfl)
  | extend new => exact yields_pure (books_put (Sequence.grows_append ss new) rfl rfl)
  | insertAll i new =>
    rw [Edit.moves_insertAll]
    exact yields_pure (books_put (Sequence.grows_insertAll ss i new) rfl rfl)
  | insertRandomStatement =>
    refine (yields_putRandoms 1 ss).bind fun drawn ⟨sentences, grows⟩ => yields_pure ?_
    refine books_put grows ?_ rfl
    obtain ⟨ds, length, same⟩ := sentences
    obtain ⟨d, rfl⟩ := List.length_eq_one_iff.mp length
    exact ⟨d, same⟩
  | insertRandomStatements n =>
    refine (yields_putRandoms n ss).bind fun drawn ⟨sentences, grows⟩ => yields_pure ?_
    exact books_put grows sentences rfl
  | remove i =>
    rw [Edit.moves_remove]
    exact yields_pure ((splits_getElem? ss i).books rfl rfl)
  | removeStatement s =>
    rw [Edit.moves_removeStatement]
    exact yields_pure ((splits_eraseP ss _).books rfl rfl)
  | removeStatements targets =>
    rw [Edit.moves_removeStatements]
    exact yields_pure ((splits_firstMatches targets ss).books rfl rfl)
  | removeRange low high =>
    rw [Edit.moves_removeRange]
    exact yields_pure ((splits_removeSpan ss low high).books rfl (Sequence.removeSpan_taken ss low high))
  | removeFirst =>
    rw [Edit.moves_removeFirst]
    exact yields_pure ((splits_first ss).books rfl rfl)
  | removeLast => exact yields_pure ((splits_last ss).books rfl rfl)
  | removeRandomStatement =>
    refine (yields_takeRandoms 1 ss).bind fun taken ⟨length, splits⟩ => yields_pure ?_
    exact splits.books rfl (splits.oneOf length)
  | removeRandomStatements n =>
    refine (yields_takeRandoms n ss).bind fun taken ⟨length, splits⟩ => yields_pure ?_
    exact splits.books rfl length
  | replaceStatement old new =>
    obtain ⟨none, noMatch, -⟩ | ⟨i, inside, found, first, -⟩ := findIdx?_cases ss (·.sameText old)
    · rw [Edit.moves_replaceStatement_of_none ss none]
      refine yields_pure (books_order (.refl ss) (fun _ => rfl) ?_ ?_)
      · rw [Edit.Adds, noMatch]
        rfl
      · rw [Edit.Removes, noMatch]
        rfl
    · rw [Edit.moves_replaceStatement ss inside found]
      refine yields_pure (books_overwrite inside ?_ ?_)
      · rw [Edit.Adds, first]
        rfl
      · rw [Edit.Removes, first]
        rfl
  | replaceRandomStatement =>
    rw [Edit.moves_replaceRandomStatement]
    refine (yields_choose ss).bind fun copy chosen => ?_
    obtain ⟨copy, mem, rfl⟩ | ⟨rfl, rfl⟩ := chosen
    · refine (yields_below (List.length_pos_of_mem mem)).bind fun i _ => yields_pure ?_
      have overwritten : OneOf ss [ss[i]] := .inl ⟨ss[i], List.getElem_mem i.isLt, rfl⟩
      exact books_overwrite i.isLt (.inl ⟨copy, mem, rfl⟩) overwritten
    · exact yields_pure (books_order (.refl []) (fun _ => rfl) (.inr ⟨rfl, rfl⟩) (.inr ⟨rfl, rfl⟩))
  | duplicateRandomStatement =>
    rw [Edit.moves_duplicateRandomStatement]
    refine (Sequence.yields_position? ss).bind fun i empty => ?_
    cases i with
    | none =>
      obtain rfl := empty rfl
      exact yields_pure (books_order (.refl []) (fun _ => rfl) (.inr ⟨rfl, rfl⟩) rfl)
    | some i =>
      refine yields_pure (books_put (Sequence.grows_insertAll ss (i + 1) [ss[i]]) ?_ rfl)
      exact .inl ⟨ss[i], List.getElem_mem i.isLt, rfl⟩
  | reverse => exact yields_pure (books_reorder (List.reverse_perm ss) rfl rfl rfl)
  | shuffle =>
    rw [Edit.moves_shuffle]
    refine (Sequence.yields_shuffle ss).bind fun after perm => yields_pure ?_
    exact books_reorder perm rfl rfl rfl
  | rotate =>
    rw [Edit.moves_rotate]
    refine (Sequence.yields_position? ss).bind fun distance empty => ?_
    cases distance with
    | none =>
      exact yields_pure (books_reorder (.refl ss) rfl rfl rfl)
    | some distance =>
      exact yields_pure (books_reorder (Sequence.rotateRight_perm ss distance) rfl rfl rfl)
  | sortBySize => exact yields_pure (books_reorder (List.mergeSort_perm ss _) rfl rfl rfl)
  | swap i j =>
    rw [Edit.moves_swap]
    exact yields_pure (books_reorder (Sequence.swapNearest_perm ss i j) rfl rfl rfl)
  | swapRandom =>
    rw [Edit.moves_swapRandom]
    refine (Sequence.yields_swapRandom ss).bind fun after perm => yields_pure ?_
    exact books_reorder perm rfl rfl rfl

/-! ### What the books say of the answer -/

/-- Whether an edit hands back that there was nothing to do. -/
def Answer.idle : Answer → Bool
  | .taken none | .takenAll [] | .replaced false | .tried (.error _) => true
  | _ => false

/-- Whether an edit fails when there is no statement. -/
def Edit.needsStatement : Edit → Bool
  | .replaceRandomStatement | .duplicateRandomStatement | .rotate | .swapRandom => true
  | _ => false

/-- The books of an edit, and what it hands back. -/
structure Account (ss : List Statement) (edit : Edit) (m : Movement) : Prop
    extends Books ss edit m where
  /-- A removal hands back what it took out. -/
  one : ∀ s, edit.answer ss m.removed = .taken s → m.removed = s.toList
  all : ∀ taken, edit.answer ss m.removed = .takenAll taken → m.removed = taken
  failed : edit.answer ss m.removed = .tried (.error .noStatements) ↔
    edit.needsStatement = true ∧ ss = []
  idle : (edit.answer ss m.removed).idle = true →
    m.removed = [] ∧ m.added = [] ∧ m.after = ss
  reordered : edit.reorders = true → m.removed = [] ∧ m.added = [] ∧ m.after.Perm ss

theorem OneOf.of_nil {picked : List Statement} (h : OneOf [] picked) : picked = [] := by
  obtain ⟨s, mem, -⟩ | ⟨-, none⟩ := h
  · cases mem
  · exact none

theorem OneOf.eq_toList {picked : List Statement} (h : OneOf ss picked) :
    picked = picked.head?.toList := by
  obtain ⟨s, -, rfl⟩ | ⟨-, rfl⟩ := h
  · rfl
  · rfl

theorem eq_toList_of_eq {picked : List Statement} {s : Option Statement} (h : picked = s.toList) :
    picked = picked.head?.toList := by
  rw [h, Option.head?_toList]

theorem Edit.failed_iff (ss removed : List Statement) (edit : Edit) :
    edit.answer ss removed = .tried (.error .noStatements) ↔
      edit.needsStatement = true ∧ ss = [] := by
  cases edit <;> cases ss <;> simp [answer, needsStatement]

variable {m : Movement}

theorem Books.one (h : Books ss edit m) {s : Option Statement}
    (taken : edit.answer ss m.removed = .taken s) : m.removed = s.toList := by
  have removes := h.removes
  cases edit with
  | remove i => exact Answer.taken.inj taken ▸ eq_toList_of_eq removes
  | removeStatement target => exact Answer.taken.inj taken ▸ eq_toList_of_eq removes
  | removeFirst => exact Answer.taken.inj taken ▸ eq_toList_of_eq removes
  | removeLast => exact Answer.taken.inj taken ▸ eq_toList_of_eq removes
  | removeRandomStatement => exact Answer.taken.inj taken ▸ OneOf.eq_toList removes
  | _ => nomatch taken

theorem Books.all {taken : List Statement}
    (takenAll : edit.answer ss m.removed = .takenAll taken) : m.removed = taken := by
  cases edit with
  | removeRange low high => exact Answer.takenAll.inj takenAll
  | _ => nomatch takenAll

theorem Books.reordered (h : Books ss edit m) (reorders : edit.reorders = true) :
    m.removed = [] ∧ m.added = [] ∧ m.after.Perm ss := by
  have nothing : m.removed = [] ∧ m.added = [] := by
    cases edit with
    | reverse => exact ⟨h.removes, h.adds⟩
    | shuffle => exact ⟨h.removes, h.adds⟩
    | rotate => exact ⟨h.removes, h.adds⟩
    | sortBySize => exact ⟨h.removes, h.adds⟩
    | swap i j => exact ⟨h.removes, h.adds⟩
    | swapRandom => exact ⟨h.removes, h.adds⟩
    | _ => nomatch reorders
  have balance := h.balance
  rw [nothing.1, nothing.2, List.append_nil, List.append_nil] at balance
  exact ⟨nothing.1, nothing.2, balance⟩

theorem Edit.removed_eq_nil {removed : List Statement}
    (busy : ∀ s rest, (edit.answer ss (s :: rest)).idle = false)
    (idle : (edit.answer ss removed).idle = true) : removed = [] := by
  cases removed with
  | nil => rfl
  | cons s rest => exact absurd idle (Bool.eq_false_iff.mp (busy s rest))

theorem Edit.statements_eq_nil {removed : List Statement}
    (busy : ∀ s rest, (edit.answer (s :: rest) removed).idle = false)
    (idle : (edit.answer ss removed).idle = true) : ss = [] := by
  cases ss with
  | nil => rfl
  | cons s rest => exact absurd idle (Bool.eq_false_iff.mp (busy s rest))

/-- Where what an edit hands back says so, nothing was done. -/
theorem Books.idle (h : Books ss edit m) (idle : (edit.answer ss m.removed).idle = true) :
    m.removed = [] ∧ m.added = [] ∧ m.after = ss := by
  have removes := h.removes
  have adds := h.adds
  have nothing : m.removed = [] ∧ m.added = [] ∧ (edit.reorders = true → ss = []) := by
    cases edit with
    | remove i => exact ⟨Edit.removed_eq_nil (fun _ _ => rfl) idle, adds, nofun⟩
    | removeStatement target => exact ⟨Edit.removed_eq_nil (fun _ _ => rfl) idle, adds, nofun⟩
    | removeFirst => exact ⟨Edit.removed_eq_nil (fun _ _ => rfl) idle, adds, nofun⟩
    | removeLast => exact ⟨Edit.removed_eq_nil (fun _ _ => rfl) idle, adds, nofun⟩
    | removeRandomStatement => exact ⟨Edit.removed_eq_nil (fun _ _ => rfl) idle, adds, nofun⟩
    | removeRange low high => exact ⟨Edit.removed_eq_nil (fun _ _ => rfl) idle, adds, nofun⟩
    | replaceStatement old new =>
      have none := Edit.removed_eq_nil (fun _ _ => rfl) idle
      rw [none] at removes
      have noMatch := Option.toList_eq_nil_iff.mp removes.symm
      rw [Edit.Adds, noMatch] at adds
      exact ⟨none, adds, nofun⟩
    | replaceRandomStatement =>
      obtain rfl := Edit.statements_eq_nil (fun _ _ => rfl) idle
      exact ⟨OneOf.of_nil removes, OneOf.of_nil adds, nofun⟩
    | duplicateRandomStatement =>
      obtain rfl := Edit.statements_eq_nil (fun _ _ => rfl) idle
      exact ⟨removes, OneOf.of_nil adds, nofun⟩
    | rotate => exact ⟨removes, adds, fun _ => Edit.statements_eq_nil (fun _ _ => rfl) idle⟩
    | swapRandom => exact ⟨removes, adds, fun _ => Edit.statements_eq_nil (fun _ _ => rfl) idle⟩
    | _ => nomatch idle
  obtain ⟨removed, added, places⟩ := nothing
  exact ⟨removed, added, h.kept places removed added⟩

theorem Books.account (h : Books ss edit m) : Account ss edit m where
  toBooks := h
  one _ := h.one
  all _ := Books.all
  failed := Edit.failed_iff ss m.removed edit
  idle := h.idle
  reordered := h.reordered

end Program

end Progeny

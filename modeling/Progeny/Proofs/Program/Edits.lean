import Progeny.Program.Random
import Progeny.Proofs.Sequence.Access

/-!
# Edits and their books

The edits of a program are the inputs of a little machine: an edit draws, changes the statements and
hands something back.  Here each edit is done a second time, on the statements alone, in a way that
keeps books and takes no access for granted: what is taken out and what is put in is written down,
and an access to a position that does not exist is a failure.  Both ways agree for all edits, so the
books are those of the program, and no access of an edit ever fails.
-/

namespace Progeny

open Draw

namespace Program

/-! ### Edits -/

/-- The edits of the statements of a program. -/
inductive Edit where
  | push (s : Statement)
  | insert (i : Nat) (s : Statement)
  | extend (new : List Statement)
  | insertAll (i : Nat) (new : List Statement)
  | insertRandomStatement
  | insertRandomStatements (n : Nat)
  | remove (i : Nat)
  | removeStatement (s : Statement)
  | removeStatements (targets : List Statement)
  | removeRange (low high : Nat)
  | removeFirst
  | removeLast
  | removeRandomStatement
  | removeRandomStatements (n : Nat)
  | replaceStatement (old new : Statement)
  | replaceRandomStatement
  | duplicateRandomStatement
  | reverse
  | shuffle
  | rotate
  | sortBySize
  | swap (i j : Nat)
  | swapRandom

/-- What an edit hands back. -/
inductive Answer where
  | nothing
  | taken (s : Option Statement)
  | takenAll (ss : List Statement)
  | replaced (done : Bool)
  | tried (result : Except EditError Unit)

/-- The result of an edit that can fail, which then leaves the program as it is. -/
def attempted (p : Program) : Except EditError Program → Answer × Program
  | .ok q => (.tried (.ok ()), q)
  | .error e => (.tried (.error e), p)

namespace Edit

/-- What an edit hands back, and the program that it leaves. -/
def apply (p : Program) : Edit → Draw (Answer × Program)
  | push s => return (.nothing, p.push s)
  | insert i s => return (.nothing, p.insert i s)
  | extend new => return (.nothing, p.extend new)
  | insertAll i new => return (.nothing, p.insertAll i new)
  | insertRandomStatement => return (.nothing, ← p.insertRandomStatement)
  | insertRandomStatements n => return (.nothing, ← Program.insertRandomStatements n p)
  | remove i => return (p.remove i).map .taken id
  | removeStatement s => return (p.removeStatement s).map .taken id
  | removeStatements targets => return (.nothing, p.removeStatements targets)
  | removeRange low high => return (p.removeRange low high).map .takenAll id
  | removeFirst => return p.removeFirst.map .taken id
  | removeLast => return p.removeLast.map .taken id
  | removeRandomStatement => return (← p.removeRandomStatement).map .taken id
  | removeRandomStatements n => return (.nothing, ← p.removeRandomStatements n)
  | replaceStatement old new =>
    match p.replaceStatement? old new with
    | some q => return (.replaced true, q)
    | none => return (.replaced false, p)
  | replaceRandomStatement => return p.attempted (← p.replaceRandomStatement)
  | duplicateRandomStatement => return p.attempted (← p.duplicateRandomStatement)
  | reverse => return (.nothing, p.reverse)
  | shuffle => return (.nothing, ← p.shuffle)
  | rotate => return p.attempted (← p.rotate)
  | sortBySize => return (.nothing, p.sortBySize)
  | swap i j => return (.nothing, p.swap i j)
  | swapRandom => return p.attempted (← p.swapRandom)

end Edit

/-! ### Books -/

/-- What is taken out, what is put in, and what there is then. -/
structure Movement where
  removed : List Statement
  added : List Statement
  after : List Statement

namespace Movement

/-- Statements are put in. -/
def put (new after : List Statement) : Movement := ⟨[], new, after⟩

/-- Statements are taken out. -/
def take (taken : List Statement × List Statement) : Movement := ⟨taken.1, [], taken.2⟩

/-- The statements are put into some order. -/
def order (after : List Statement) : Movement := ⟨[], [], after⟩

/-- A statement is overwritten. -/
def overwrite (new : Statement) (taken : Statement × List Statement) : Movement :=
  ⟨[taken.1], [new], taken.2⟩

end Movement

/-- Puts `n` random statements in, one after the other; they come before what there is then. -/
def putRandoms : Nat → List Statement → Draw (List Statement × List Statement)
  | 0, ss => return ([], ss)
  | n + 1, ss => do
    let i ← below (ss.length + 1)
    let s ← Statement.random
    let grown ← Sequence.putAt ss i [s]
    let (others, after) ← putRandoms n grown
    return (s :: others, after)

/-- Takes out the first statement with the text of each target, one target after the other. -/
def takeMatches : List Statement → List Statement → Draw (List Statement × List Statement)
  | [], ss => return ([], ss)
  | target :: targets, ss =>
    match ss.findIdx? (·.sameText target) with
    | none => takeMatches targets ss
    | some i => do
      let (s, rest) ← Sequence.takeAt ss i
      let (others, after) ← takeMatches targets rest
      return (s :: others, after)

/-- Takes out `n` random statements, or all of them. -/
def takeRandoms : Nat → List Statement → Draw (List Statement × List Statement)
  | 0, ss => return ([], ss)
  | n + 1, ss => do
    match ← Sequence.position? ss with
    | none => return ([], ss)
    | some i =>
      let (s, rest) ← Sequence.takeAt ss i
      let (others, after) ← takeRandoms n rest
      return (s :: others, after)

/-- Takes out the statement at a position, if there is one. -/
def takeIfAny (ss : List Statement) (i : Nat) : Draw (List Statement × List Statement) :=
  if i < ss.length then do
    let (s, rest) ← Sequence.takeAt ss i
    return ([s], rest)
  else return ([], ss)

namespace Edit

/-- An edit with its movements. -/
def moves (ss : List Statement) : Edit → Draw Movement
  | push s => return .put [s] (ss ++ [s])
  | insert i s => return .put [s] (← Sequence.putAt ss (min i ss.length) [s])
  | extend new => return .put new (ss ++ new)
  | insertAll i new => return .put new (← Sequence.putAt ss (min i ss.length) new)
  | insertRandomStatement => do
    let (drawn, after) ← putRandoms 1 ss
    return .put drawn after
  | insertRandomStatements n => do
    let (drawn, after) ← putRandoms n ss
    return .put drawn after
  | remove i => return .take (← takeIfAny ss i)
  | removeStatement s => return .take (← takeMatches [s] ss)
  | removeStatements targets => return .take (← takeMatches targets ss)
  | removeRange low high =>
    let low := min low ss.length
    let high := min high ss.length
    if low < high then return .take (← Sequence.takeSpan ss low high) else return .take ([], ss)
  | removeFirst => return .take (← takeIfAny ss 0)
  | removeLast => return .take (ss.getLast?.toList, ss.dropLast)
  | removeRandomStatement => return .take (← takeRandoms 1 ss)
  | removeRandomStatements n => return .take (← takeRandoms n ss)
  | replaceStatement old new =>
    match ss.findIdx? (·.sameText old) with
    | some i => return .overwrite new (← Sequence.overwriteAt ss i new)
    | none => return .order ss
  | replaceRandomStatement => do
    match ← choose ss with
    | none => return .order ss
    | some copy =>
      let i ← below ss.length
      return .overwrite copy (← Sequence.overwriteAt ss i copy)
  | duplicateRandomStatement => do
    match ← Sequence.position? ss with
    | none => return .order ss
    | some i =>
      let copy ← memberAt ss i
      return .put [copy] (← Sequence.putAt ss (i + 1) [copy])
  | reverse => return .order ss.reverse
  | shuffle => return .order (← Sequence.exchangeFrom (ss.length - 1) ss)
  | rotate => do
    match ← Sequence.position? ss with
    | none => return .order ss
    | some distance => return .order (← Sequence.turnBy ss distance)
  | sortBySize => return .order (ss.mergeSort fun s t => s.size ≤ t.size)
  | swap i j =>
    if ss.isEmpty then return .order ss
    else return .order (← Sequence.exchangeAt ss (Sequence.nearest ss i) (Sequence.nearest ss j))
  | swapRandom => do
    match ← Sequence.position? ss with
    | none => return .order ss
    | some i =>
      match ← Sequence.position? ss with
      | none => return .order ss
      | some j => return .order (← Sequence.exchangeAt ss i j)

/-- What an edit of `ss` hands back: removals hand back what they take out, and four edits fail
when there is no statement. -/
def answer (ss removed : List Statement) : Edit → Answer
  | remove _ | removeStatement _ | removeFirst | removeLast | removeRandomStatement =>
    .taken removed.head?
  | removeRange _ _ => .takenAll removed
  | replaceStatement _ _ => .replaced !removed.isEmpty
  | replaceRandomStatement | duplicateRandomStatement | rotate | swapRandom =>
    .tried (if ss.isEmpty then .error .noStatements else .ok ())
  | _ => .nothing

end Edit

/-! ### No access fails -/

section Agreement

variable {ss : List Statement}

theorem takeIfAny_eq (ss : List Statement) (i : Nat) :
    takeIfAny ss i = pure (ss[i]?.toList, ss.eraseIdx i) := by
  unfold takeIfAny
  split
  · rename_i inside
    rw [Sequence.takeAt_of_lt inside, pure_bind, List.getElem?_eq_getElem inside]
    rfl
  · rename_i past
    rw [List.getElem?_eq_none (by omega), List.eraseIdx_of_length_le (by omega)]
    rfl

/-- The first statement with the text of each target, of those that are left, and the others. -/
def firstMatches : List Statement → List Statement → List Statement × List Statement
  | [], ss => ([], ss)
  | target :: targets, ss =>
    let later := firstMatches targets (ss.eraseP (·.sameText target))
    ((ss.find? (·.sameText target)).toList ++ later.1, later.2)

theorem findIdx?_cases (ss : List Statement) (p : Statement → Bool) :
    (ss.findIdx? p = none ∧ ss.find? p = none ∧ ss.eraseP p = ss) ∨
    ∃ i, ∃ inside : i < ss.length, ss.findIdx? p = some i ∧ ss.find? p = some ss[i] ∧
      ss.eraseP p = ss.eraseIdx i := by
  cases found : ss.findIdx? p with
  | none =>
    have without := List.findIdx?_eq_none_iff.mp found
    refine .inl ⟨rfl, List.find?_eq_none.mpr fun s mem => ?_, List.eraseP_of_forall_not ?_⟩
    · simpa using without s mem
    · simpa using without
  | some i =>
    obtain ⟨inside, -, -⟩ := List.findIdx?_eq_some_iff_getElem.mp found
    refine .inr ⟨i, inside, rfl, ?_, ?_⟩
    · rw [List.find?_eq_bind_findIdx?_getElem?, found]
      exact List.getElem?_eq_getElem inside
    · rw [List.eraseP_eq_eraseIdx, found]

theorem takeMatches_eq (targets ss : List Statement) :
    takeMatches targets ss = pure (firstMatches targets ss) := by
  induction targets generalizing ss with
  | nil => rfl
  | cons target targets ih =>
    unfold takeMatches firstMatches
    obtain ⟨none, noMatch, same⟩ | ⟨i, inside, found, first, erased⟩ :=
      findIdx?_cases ss (·.sameText target)
    · rw [none, noMatch, same, ih]
      rfl
    · rw [found, first, erased]
      simp only [Sequence.takeAt_of_lt inside, pure_bind, ih]
      rfl

/-- What an edit of `p` with the given movements hands back, and the program that it leaves. -/
def Edit.outcome (p : Program) (edit : Edit) (m : Movement) : Answer × Program :=
  (edit.answer p.statements m.removed, { p with statements := m.after })

theorem insertRandomStatements_eq (n : Nat) (p : Program) :
    Program.insertRandomStatements n p =
      putRandoms n p.statements >>= fun drawn => pure { p with statements := drawn.2 } := by
  induction n generalizing p with
  | zero => rfl
  | succ n ih =>
    simp only [Program.insertRandomStatements, insertRandomStatement, putRandoms, bind_assoc,
      pure_bind]
    refine bind_congr fun i => bind_congr fun s => ?_
    rw [Sequence.putAt_of_le (by omega), pure_bind, ih]
    rfl

theorem insertRandomStatement_eq (p : Program) :
    p.insertRandomStatement = Program.insertRandomStatements 1 p := by
  simp only [Program.insertRandomStatements, bind_pure]

theorem removeRandom_eq (ss : List Statement) :
    Sequence.removeRandom ss = takeRandoms 1 ss >>= fun taken => pure (taken.1.head?, taken.2) := by
  simp only [Sequence.removeRandom, takeRandoms, bind_assoc]
  refine bind_congr fun i => ?_
  cases i with
  | none => rfl
  | some i =>
    simp only [Sequence.takeAt_of_lt i.isLt, Sequence.removeAt, pure_bind,
      List.getElem?_eq_getElem i.isLt]
    rfl

theorem removeRandoms_eq (n : Nat) (ss : List Statement) :
    Sequence.removeRandoms n ss = takeRandoms n ss >>= fun taken => pure taken.2 := by
  induction n generalizing ss with
  | zero => rfl
  | succ n ih =>
    simp only [Sequence.removeRandoms, Sequence.removeRandom, takeRandoms, bind_assoc]
    refine bind_congr fun i => ?_
    cases i with
    | none => rfl
    | some i =>
      simp only [Sequence.takeAt_of_lt i.isLt, Sequence.removeAt, pure_bind, bind_assoc,
        List.getElem?_eq_getElem i.isLt, ih]

theorem removeStatement_eq (p : Program) (s : Statement) :
    p.removeStatement s =
      (p.statements.find? (·.sameText s),
        { p with statements := p.statements.eraseP (·.sameText s) }) := by
  unfold removeStatement indexOfStatement?
  obtain ⟨none, noMatch, same⟩ | ⟨i, inside, found, first, erased⟩ :=
    findIdx?_cases p.statements (·.sameText s)
  · rw [none, noMatch, same]
  · rw [found, first, erased, ← List.getElem?_eq_getElem inside]
    rfl

theorem removeStatements_eq (p : Program) (targets : List Statement) :
    p.removeStatements targets =
      { p with statements := (firstMatches targets p.statements).2 } := by
  induction targets generalizing p with
  | nil => rfl
  | cons target targets ih =>
    change (p.removeStatement target).2.removeStatements targets = _
    rw [ih, removeStatement_eq]
    rfl

end Agreement

namespace Edit

/-! The movements of each edit, now that its accesses are known not to fail. -/

section Movements

variable (ss : List Statement)

theorem moves_insertAll (i : Nat) (new : List Statement) :
    (insertAll i new).moves ss = pure (.put new (Sequence.insertAll ss i new)) := by
  change Sequence.putAt ss (min i ss.length) new >>=
    (fun after => pure (Movement.put new after)) = _
  rw [Sequence.putAt_of_le (Nat.min_le_right i _), pure_bind, Sequence.insertAll_min]

theorem moves_insert (i : Nat) (s : Statement) :
    (insert i s).moves ss = pure (.put [s] (Sequence.insert ss i s)) :=
  moves_insertAll ss i [s]

theorem moves_remove (i : Nat) :
    (remove i).moves ss = pure (.take (ss[i]?.toList, ss.eraseIdx i)) := by
  change takeIfAny ss i >>= (fun taken => pure (Movement.take taken)) = _
  rw [takeIfAny_eq, pure_bind]

theorem moves_removeFirst :
    removeFirst.moves ss = pure (.take (ss.head?.toList, ss.eraseIdx 0)) := by
  rw [List.head?_eq_getElem?]
  exact moves_remove ss 0

theorem moves_removeStatements (targets : List Statement) :
    (removeStatements targets).moves ss = pure (.take (firstMatches targets ss)) := by
  change takeMatches targets ss >>= (fun taken => pure (Movement.take taken)) = _
  rw [takeMatches_eq, pure_bind]

theorem moves_removeStatement (s : Statement) :
    (removeStatement s).moves ss =
      pure (.take ((ss.find? (·.sameText s)).toList, ss.eraseP (·.sameText s))) := by
  have one : firstMatches [s] ss =
      ((ss.find? (·.sameText s)).toList, ss.eraseP (·.sameText s)) := by
    simp only [firstMatches, List.append_nil]
  rw [← one]
  exact moves_removeStatements ss [s]

theorem moves_removeRange (low high : Nat) :
    (removeRange low high).moves ss = pure (.take (Sequence.removeSpan ss low high)) := by
  change (if min low ss.length < min high ss.length then
      Sequence.takeSpan ss (min low ss.length) (min high ss.length) >>=
        fun taken => pure (Movement.take taken)
    else pure (Movement.take ([], ss))) = _
  unfold Sequence.removeSpan
  split
  · rename_i order
    rw [Sequence.takeSpan_of_le (Nat.le_of_lt order) (Nat.min_le_right high _), pure_bind,
      if_pos order]
  · rename_i order
    rw [if_neg order]

theorem moves_replaceStatement {old : Statement} {i : Nat} (inside : i < ss.length)
    (found : ss.findIdx? (·.sameText old) = some i) (new : Statement) :
    (replaceStatement old new).moves ss = pure (.overwrite new (ss[i], ss.set i new)) := by
  simp only [moves, found, Sequence.overwriteAt_of_lt inside, pure_bind]

theorem moves_replaceStatement_of_none {old : Statement}
    (none : ss.findIdx? (·.sameText old) = none) (new : Statement) :
    (replaceStatement old new).moves ss = pure (.order ss) := by
  simp only [moves, none]

theorem moves_replaceRandomStatement :
    replaceRandomStatement.moves ss = do
      match ← choose ss with
      | none => return .order ss
      | some copy =>
        let i ← below ss.length
        return .overwrite copy (ss[i], ss.set i copy) := by
  refine bind_congr fun copy => ?_
  cases copy with
  | none => rfl
  | some copy =>
    refine bind_congr fun i => ?_
    rw [Sequence.overwriteAt_of_lt i.isLt, pure_bind]
    rfl

theorem moves_duplicateRandomStatement :
    duplicateRandomStatement.moves ss = do
      match ← Sequence.position? ss with
      | none => return .order ss
      | some i => return .put [ss[i]] (Sequence.insert ss (i + 1) ss[i]) := by
  refine bind_congr fun i => ?_
  cases i with
  | none => rfl
  | some i =>
    simp only [Sequence.memberAt_of_lt i.isLt, Sequence.putAt_of_le i.isLt, pure_bind]
    rfl

theorem moves_shuffle :
    shuffle.moves ss = do
      let after ← Sequence.shuffle ss
      return .order after := by
  change Sequence.exchangeFrom (ss.length - 1) ss >>= (fun after => pure (Movement.order after)) = _
  rw [Sequence.exchangeFrom_of_le (Nat.le_refl _)]
  rfl

theorem moves_rotate :
    rotate.moves ss = do
      match ← Sequence.position? ss with
      | none => return .order ss
      | some distance => return .order (Sequence.rotateRight ss distance) := by
  refine bind_congr fun distance => ?_
  cases distance with
  | none => rfl
  | some distance =>
    simp only [Sequence.turnBy_of_le (Nat.le_of_lt distance.isLt), pure_bind]

theorem moves_swap (i j : Nat) :
    (swap i j).moves ss = pure (.order (Sequence.swapNearest ss i j)) := by
  cases ss with
  | nil => rfl
  | cons s ss =>
    have inside (k : Nat) : Sequence.nearest (s :: ss) k < (s :: ss).length := by
      unfold Sequence.nearest
      rw [List.length_cons]
      omega
    simp only [moves, List.isEmpty_cons, Bool.false_eq_true, if_false,
      Sequence.exchangeAt_of_lt (inside i) (inside j), pure_bind]
    rfl

theorem moves_swapRandom :
    swapRandom.moves ss = do
      let after ← Sequence.swapRandom ss
      return .order after := by
  simp only [moves, Sequence.swapRandom, bind_assoc]
  refine bind_congr fun i => ?_
  cases i with
  | none => rfl
  | some i =>
    simp only [bind_assoc]
    refine bind_congr fun j => ?_
    cases j with
    | none => rfl
    | some j => simp only [Sequence.exchangeAt_of_lt i.isLt j.isLt, pure_bind]

end Movements

/-- An edit of a program does what its books say. -/
theorem apply_eq (p : Program) (edit : Edit) :
    edit.apply p = edit.moves p.statements >>= fun m => pure (edit.outcome p m) := by
  cases edit with
  | push s => rfl
  | insert i s =>
    rw [moves_insert, pure_bind]
    rfl
  | extend new => rfl
  | insertAll i new =>
    rw [moves_insertAll, pure_bind]
    rfl
  | insertRandomStatement =>
    simp only [apply, moves, insertRandomStatement_eq, insertRandomStatements_eq, bind_assoc,
      pure_bind]
    rfl
  | insertRandomStatements n =>
    simp only [apply, moves, insertRandomStatements_eq, bind_assoc, pure_bind]
    rfl
  | remove i =>
    rw [moves_remove, pure_bind]
    simp only [outcome, answer, Movement.take, Option.head?_toList]
    rfl
  | removeStatement s =>
    rw [moves_removeStatement, pure_bind]
    simp only [apply, removeStatement_eq, outcome, answer, Movement.take, Option.head?_toList]
    rfl
  | removeStatements targets =>
    rw [moves_removeStatements, pure_bind, apply, removeStatements_eq]
    rfl
  | removeRange low high =>
    rw [moves_removeRange, pure_bind]
    rfl
  | removeFirst =>
    rw [moves_removeFirst, pure_bind]
    simp only [outcome, answer, Movement.take, Option.head?_toList]
    rw [List.head?_eq_getElem?]
    rfl
  | removeLast =>
    rw [moves, pure_bind]
    simp only [outcome, answer, Movement.take, Option.head?_toList]
    rfl
  | removeRandomStatement =>
    simp only [apply, moves, Program.removeRandomStatement, removeRandom_eq, bind_assoc, pure_bind]
    rfl
  | removeRandomStatements n =>
    simp only [apply, moves, Program.removeRandomStatements, removeRandoms_eq, bind_assoc,
      pure_bind]
    rfl
  | replaceStatement old new =>
    simp only [apply, Program.replaceStatement?, indexOfStatement?]
    obtain ⟨none, -, -⟩ | ⟨i, inside, found, -, -⟩ :=
      findIdx?_cases p.statements (·.sameText old)
    · rw [moves_replaceStatement_of_none _ none, pure_bind, none]
      rfl
    · rw [moves_replaceStatement _ inside found, pure_bind, found]
      rfl
  | replaceRandomStatement =>
    rw [moves_replaceRandomStatement]
    obtain ⟨ss, score, diagnostic, mutation, crossover⟩ := p
    cases ss with
    | nil => rfl
    | cons s ss =>
      simp only [apply, Program.replaceRandomStatement, randomStatement, choose,
        List.isEmpty_cons, Bool.false_eq_true, if_false, bind_assoc, pure_bind]
      rfl
  | duplicateRandomStatement =>
    rw [moves_duplicateRandomStatement]
    obtain ⟨ss, score, diagnostic, mutation, crossover⟩ := p
    cases ss with
    | nil => rfl
    | cons s ss =>
      simp only [apply, Program.duplicateRandomStatement, Sequence.position?, bind_assoc, pure_bind]
      rfl
  | reverse => rfl
  | shuffle =>
    simp only [moves_shuffle, apply, Program.shuffle, bind_assoc, pure_bind]
    rfl
  | rotate =>
    rw [moves_rotate]
    obtain ⟨ss, score, diagnostic, mutation, crossover⟩ := p
    cases ss with
    | nil => rfl
    | cons s ss =>
      simp only [apply, Program.rotate, Sequence.position?, bind_assoc, pure_bind]
      rfl
  | sortBySize => rfl
  | swap i j =>
    rw [moves_swap, pure_bind]
    rfl
  | swapRandom =>
    rw [moves_swapRandom]
    obtain ⟨ss, score, diagnostic, mutation, crossover⟩ := p
    cases ss with
    | nil => rfl
    | cons s ss =>
      simp only [apply, Program.swapRandom, isEmpty, List.isEmpty_cons, Bool.false_eq_true,
        if_false, bind_assoc, pure_bind]
      rfl

end Edit

end Program

end Progeny

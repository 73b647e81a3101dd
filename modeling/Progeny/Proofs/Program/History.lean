import Progeny.Proofs.Program.Ledger

/-!
# Histories of edits

Edits follow one another, each on what the one before has left.  Whatever the edits and whatever they
draw, each has its account, and over the whole history the books add up: no statement is lost and
none is repeated.
-/

namespace Progeny.Program

open Draw

variable {listed : Nat}

/-- Edits one after the other: what they hand back, and the last program. -/
def applyAll : List Edit → Program → Draw (List Answer × Program)
  | [], p => return ([], p)
  | edit :: edits, p => do
    let (answer, next) ← edit.apply p
    let (answers, last) ← applyAll edits next
    return (answer :: answers, last)

/-- The movements of edits one after the other. -/
def history : List Edit → List Statement → Draw (List Movement)
  | [], _ => return []
  | edit :: edits, ss => do
    let m ← edit.moves ss
    let later ← history edits m.after
    return m :: later

/-- The statements after some movements. -/
def final (ss : List Statement) (movements : List Movement) : List Statement :=
  movements.foldl (fun _ m => m.after) ss

/-- What edits with some movements hand back. -/
def answers : List Edit → List Statement → List Movement → List Answer
  | edit :: edits, ss, m :: later => edit.answer ss m.removed :: answers edits m.after later
  | _, _, _ => []

/-- Each movement of a history is accounted for by its edit and the statements that there were. -/
inductive Course : List Statement → List Edit → List Movement → Prop
  | done {ss : List Statement} : Course ss [] []
  | step {ss : List Statement} {edit : Edit} {edits : List Edit} {m : Movement}
      {later : List Movement} :
      Account ss edit m → Course m.after edits later → Course ss (edit :: edits) (m :: later)

/-- The books of a history add up. -/
theorem Course.balance {ss : List Statement} {edits : List Edit} {movements : List Movement}
    (h : Course ss edits movements) :
    (final ss movements ++ movements.flatMap (·.removed)).Perm
      (ss ++ movements.flatMap (·.added)) := by
  induction h with
  | done => exact .refl _
  | @step ss edit edits m later account _ ih =>
    rw [List.flatMap_cons, List.flatMap_cons]
    change (final m.after later ++ (m.removed ++ later.flatMap (·.removed))).Perm _
    calc
      List.Perm _ (m.removed ++ (final m.after later ++ later.flatMap (·.removed))) :=
        List.perm_append_comm_assoc ..
      List.Perm _ (m.removed ++ (m.after ++ later.flatMap (·.added))) := ih.append_left _
      List.Perm _ (m.after ++ m.removed ++ later.flatMap (·.added)) := by
        rw [List.append_assoc]
        exact List.perm_append_comm_assoc ..
      List.Perm _ (ss ++ m.added ++ later.flatMap (·.added)) := account.balance.append_right _
      List.Perm _ (ss ++ (m.added ++ later.flatMap (·.added))) := .of_eq (List.append_assoc ..)

theorem yields_history (edits : List Edit) (ss : List Statement) :
    Yields listed (history edits ss) (Course ss edits) := by
  induction edits generalizing ss with
  | nil => exact yields_pure .done
  | cons edit edits ih =>
    refine (yields_moves ss edit).bind fun m books => ?_
    refine (ih m.after).bind fun later course => ?_
    exact yields_pure (.step books.account course)

theorem applyAll_eq (edits : List Edit) (p : Program) :
    applyAll edits p = history edits p.statements >>= fun movements =>
      pure (answers edits p.statements movements,
        { p with statements := final p.statements movements }) := by
  induction edits generalizing p with
  | nil => rfl
  | cons edit edits ih =>
    simp only [applyAll, history, Edit.apply_eq, bind_assoc, pure_bind]
    refine bind_congr fun m => ?_
    rw [ih]
    simp only [bind_assoc, pure_bind]
    rfl

/-- A history of edits does what its movements say, and each of these is accounted for.  Together,
what is left and what was taken out is what there was and what was put in.  The movements are drawn
with accesses that fail at positions that do not exist, and yet a dry source is their only failure. -/
theorem edits_conserve_statements (edits : List Edit) (p : Program) (listed : Nat) :
    (applyAll edits p = do
      let movements ← history edits p.statements
      return (answers edits p.statements movements,
        { p with statements := final p.statements movements })) ∧
    Yields listed (history edits p.statements) fun movements =>
      Course p.statements edits movements ∧
      (final p.statements movements ++ movements.flatMap (·.removed)).Perm
        (p.statements ++ movements.flatMap (·.added)) := by
  refine ⟨applyAll_eq edits p, (yields_history edits p.statements).mono fun movements course => ?_⟩
  exact ⟨course, course.balance⟩

end Progeny.Program

import Progeny.Proofs.Grammar.Safety
import Progeny.Proofs.Program.Edits
import Progeny.Proofs.Sequence.Contents

/-!
# Statements from the grammar

A random statement has the tokens of a sentence, and a random token is one of the grammar.  Random
statements that are put into a program leave the others as they are and in their order.
-/

namespace Progeny

open Draw

variable {listed : Nat}

namespace Statement

theorem yields_random :
    Yields listed random fun s => ∃ d : Grammar.Sentence, s = ⟨d.tokens⟩ := by
  refine Grammar.yields_statement.bind fun ts hts => yields_pure ?_
  obtain ⟨d, rfl⟩ := hts
  exact ⟨d, rfl⟩

theorem yields_randomDeclaration :
    Yields listed randomDeclaration fun s => ∃ d : Grammar.Declaration, s = ⟨d.tokens⟩ := by
  refine Grammar.yields_declaration.bind fun ts hts => yields_pure ?_
  obtain ⟨d, rfl⟩ := hts
  exact ⟨d, rfl⟩

theorem yields_insertRandomToken (s : Statement) :
    Yields listed s.insertRandomToken fun s' =>
      ∃ (i : Nat) (t : Grammar.Single), s' = s.insert i t.token := by
  refine (yields_below (Nat.succ_pos _)).bind fun i _ => ?_
  refine Grammar.yields_token.bind fun t ht => yields_pure ?_
  obtain ⟨t, rfl⟩ := ht
  exact ⟨i, t, rfl⟩

end Statement

namespace Program

theorem yields_putRandoms (n : Nat) (ss : List Statement) :
    Yields listed (putRandoms n ss) fun drawn =>
      (∃ ds : List Grammar.Sentence, ds.length = n ∧ drawn.1 = ds.map fun d => ⟨d.tokens⟩) ∧
        Sequence.Grows ss drawn.1 drawn.2 := by
  induction n generalizing ss with
  | zero => exact yields_pure ⟨⟨[], rfl, rfl⟩, .refl ss⟩
  | succ n ih =>
    refine (yields_below (Nat.succ_pos _)).bind fun i _ => ?_
    refine Statement.yields_random.bind fun s hs => ?_
    rw [Sequence.putAt_of_le (by omega), pure_bind]
    refine (ih _).bind fun drawn ⟨others, grown⟩ => yields_pure ?_
    obtain ⟨d, rfl⟩ := hs
    obtain ⟨ds, length, others⟩ := others
    refine ⟨⟨d :: ds, congrArg (· + 1) length, congrArg (_ :: ·) others⟩, ?_⟩
    exact (Sequence.grows_insertAll ss i [⟨d.tokens⟩]).trans grown

/-- The random statements that are inserted are all that changes. -/
theorem yields_insertRandomStatements (n : Nat) (p : Program) :
    Yields listed (insertRandomStatements n p) fun q =>
      ∃ (ds : List Grammar.Sentence) (after : List Statement), ds.length = n ∧
        Sequence.Grows p.statements (ds.map fun d => ⟨d.tokens⟩) after ∧
        q = { p with statements := after } := by
  rw [insertRandomStatements_eq]
  refine (yields_putRandoms n p.statements).bind fun drawn grown => yields_pure ?_
  obtain ⟨⟨ds, length, same⟩, grows⟩ := grown
  rw [same] at grows
  exact ⟨ds, drawn.2, length, grows, rfl⟩

end Program

end Progeny

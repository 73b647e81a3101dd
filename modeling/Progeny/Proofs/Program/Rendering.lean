import Progeny.Program.Basic
import Progeny.Proofs.Text.Pieces

/-!
# Reading a text back

The text of a program is written in rows: a line for each statement, and in it a space after each
token.  As long as no token contains a space or a line feed, the rows can be told apart, whatever
else the tokens are: they may be empty, be the header or be the closing brace.  So the text
determines the statements, and to compare texts is to compare statements.  For a single statement
the spaces are enough.
-/

namespace Progeny

/-! ### What is written -/

/-- No token contains the character. -/
def Statement.Avoids (s : Statement) (c : Char) : Prop := ∀ t ∈ s.tokens, c ∉ t.text.toList

/-- No token of a statement contains the character. -/
def Program.Avoids (p : Program) (c : Char) : Prop := ∀ s ∈ p.statements, s.Avoids c

instance (s : Statement) (c : Char) : Decidable (s.Avoids c) :=
  inferInstanceAs (Decidable (∀ t ∈ s.tokens, c ∉ t.text.toList))

instance (p : Program) (c : Char) : Decidable (p.Avoids c) :=
  inferInstanceAs (Decidable (∀ s ∈ p.statements, s.Avoids c))

theorem Statement.toList_render (s : Statement) :
    s.render.toList = s.tokens.flatMap fun t => t.text.toList ++ [' '] := by
  have adds (text : String) (t : Token) :
      (text ++ t.text ++ " ").toList = text.toList ++ (t.text.toList ++ [' ']) := by
    simp
  unfold render
  rw [Text.toList_foldl adds]
  rfl

theorem Program.toList_render (p : Program) :
    p.render.toList = header.toList ++ '\n' ::
      (p.statements.flatMap (fun s => indent.toList ++ s.render.toList ++ ['\n']) ++
        Lexicon.blockClose.toList) := by
  have adds (text : String) (s : Statement) :
      (text ++ indent ++ s.render ++ "\n").toList =
        text.toList ++ (indent.toList ++ s.render.toList ++ ['\n']) := by
    simp
  unfold render
  rw [String.toList_append, Text.toList_foldl adds]
  simp

/-- Only tokens and the spaces after them stand in the text of a statement. -/
theorem Statement.Avoids.not_mem_render {s : Statement} {c : Char} (avoids : s.Avoids c)
    (other : c ≠ ' ') : c ∉ s.render.toList := by
  rw [s.toList_render]
  intro mem
  obtain ⟨t, inside, here⟩ := List.mem_flatMap.mp mem
  rcases List.mem_append.mp here with within | after
  · exact avoids t inside within
  · exact other (List.mem_singleton.mp after)

/-! ### Reading back -/

/-- The tokens of a line; each of them ends with a space. -/
def Statement.decode (line : List Char) : List Token :=
  (Text.pieces (· == ' ') line).dropLast.map fun piece => ⟨String.ofList piece⟩

/-- The tokens of each line between the first and the last one, less what stands before them. -/
def Program.decode (text : String) : List (List Token) :=
  ((Text.pieces (· == '\n') text.toList).drop 1).dropLast.map fun line =>
    Statement.decode (line.drop indent.length)

theorem Statement.decode_render {s : Statement} (spaceless : s.Avoids ' ') :
    decode s.render.toList = s.tokens := by
  have whole (t : Token) (mem : t ∈ s.tokens) : ∀ d ∈ t.text.toList, (d == ' ') = false :=
    Text.uncut_of_not_mem (spaceless t mem)
  have read : Text.pieces (· == ' ') s.render.toList =
      (s.tokens.map fun t => t.text.toList) ++ [[]] := by
    rw [s.toList_render, ← List.append_nil (List.flatMap _ _)]
    exact Text.pieces_whole_rows rfl whole []
  unfold decode
  rw [read, List.dropLast_concat, List.map_map]
  simp [Function.comp_def]

theorem Program.decode_render {p : Program} (spaceless : p.Avoids ' ') (oneLine : p.Avoids '\n') :
    decode p.render = p.statements.map (·.tokens) := by
  have whole (s : Statement) (mem : s ∈ p.statements) :
      ∀ d ∈ indent.toList ++ s.render.toList, (d == '\n') = false := by
    refine Text.uncut_of_not_mem fun inside => ?_
    rcases List.mem_append.mp inside with before | within
    · exact absurd before (by decide)
    · exact (oneLine s mem).not_mem_render (by decide) within
  have read : Text.pieces (· == '\n') p.render.toList =
      header.toList :: (p.statements.map (fun s => indent.toList ++ s.render.toList) ++
        [Lexicon.blockClose.toList]) := by
    have first : Text.pieces (· == '\n') header.toList = [header.toList] :=
      Text.pieces_whole (Text.uncut_of_not_mem (by decide))
    have last : Text.pieces (· == '\n') Lexicon.blockClose.toList =
        [Lexicon.blockClose.toList] := Text.pieces_whole (Text.uncut_of_not_mem (by decide))
    rw [p.toList_render, Text.pieces_append rfl, Text.pieces_whole_rows rfl whole, first, last]
    rfl
  unfold decode
  rw [read, List.drop_one, List.tail_cons, List.dropLast_concat, List.map_map]
  refine List.map_congr_left fun s mem => ?_
  change Statement.decode ((indent.toList ++ s.render.toList).drop indent.length) = s.tokens
  rw [← String.length_toList, List.drop_left]
  exact Statement.decode_render (spaceless s mem)

/-! ### Comparing texts -/

theorem Statement.sameText_iff {s t : Statement} (hs : s.Avoids ' ') (ht : t.Avoids ' ') :
    s.sameText t = true ↔ s.tokens = t.tokens := by
  unfold sameText
  rw [beq_iff_eq]
  constructor
  · intro same
    rw [← decode_render hs, ← decode_render ht, same]
  · intro same
    unfold render
    rw [same]

theorem Program.sameText_iff {p q : Program} (hp : p.Avoids ' ') (hp' : p.Avoids '\n')
    (hq : q.Avoids ' ') (hq' : q.Avoids '\n') :
    p.sameText q = true ↔ p.statements.map (·.tokens) = q.statements.map (·.tokens) := by
  unfold sameText
  rw [beq_iff_eq]
  constructor
  · intro same
    rw [← decode_render hp hp', ← decode_render hq hq', same]
  · intro same
    have statements : p.statements = q.statements :=
      (List.map_inj_right fun s t tokens => congrArg Statement.mk tokens).mp same
    unfold render
    rw [statements]

/-! ### Looking up by text -/

/-- Looking for the text of `s` finds the first place of `s` itself, or nothing if there is none. -/
structure Program.Finds (p : Program) (s : Statement) : Prop where
  absent : s ∉ p.statements →
    p.containsStatement s = false ∧ p.indexOfStatement? s = none ∧
    p.removeStatement s = (none, p) ∧ ∀ new, p.replaceStatement? s new = none
  present : ∀ before after, p.statements = before ++ s :: after → s ∉ before →
    p.containsStatement s = true ∧ p.indexOfStatement? s = some before.length ∧
    p.removeStatement s = (some s, { p with statements := before ++ after }) ∧
    ∀ new, p.replaceStatement? s new = some { p with statements := before ++ new :: after }

theorem Program.finds {p : Program} {s : Statement} (hp : p.Avoids ' ') (hs : s.Avoids ' ') :
    p.Finds s := by
  have self : s.sameText s = true := (Statement.sameText_iff hs hs).mpr rfl
  have different (t : Statement) (mem : t ∈ p.statements) (other : t ≠ s) :
      t.sameText s = false := by
    refine Bool.eq_false_iff.mpr fun same => other ?_
    exact congrArg Statement.mk ((Statement.sameText_iff (hp t mem) hs).mp same)
  constructor
  · intro absent
    have none (t : Statement) (mem : t ∈ p.statements) : t.sameText s = false :=
      different t mem fun same => absent (same ▸ mem)
    have index : p.indexOfStatement? s = .none := List.findIdx?_eq_none_iff.mpr none
    refine ⟨?_, index, ?_, fun new => ?_⟩
    · exact List.any_eq_false.mpr fun t mem => by simp [none t mem]
    · unfold removeStatement
      rw [index]
    · unfold replaceStatement?
      rw [index]
      rfl
  · intro before after split first
    have none (t : Statement) (mem : t ∈ before) : t.sameText s = false := by
      refine different t ?_ fun same => first (same ▸ mem)
      rw [split]
      exact List.mem_append_left _ mem
    have index : p.indexOfStatement? s = some before.length := by
      unfold indexOfStatement?
      rw [split, List.findIdx?_append, List.findIdx?_eq_none_iff.mpr none, List.findIdx?_cons, self]
      simp
    refine ⟨?_, index, ?_, fun new => ?_⟩
    · refine List.any_eq_true.mpr ⟨s, ?_, self⟩
      rw [split]
      exact List.mem_append_right _ List.mem_cons_self
    · unfold removeStatement
      rw [index]
      simp [remove, taking, Sequence.removeAt, split, List.eraseIdx_append_of_length_le]
    · unfold replaceStatement?
      rw [index]
      simp [mapStatements, split]

/-- The text of a program whose tokens contain no spaces and line feeds can be read back.  So two
such programs have the same text only if they have the same statements; two statements without
spaces in their tokens have the same text only if they have the same tokens; and looking for the
text of a statement is looking for the statement. -/
theorem text_determines_statements :
    (∀ p : Program, p.Avoids ' ' → p.Avoids '\n' →
      Program.decode p.render = p.statements.map (·.tokens)) ∧
    (∀ p q : Program, p.Avoids ' ' → p.Avoids '\n' → q.Avoids ' ' → q.Avoids '\n' →
      (p.sameText q = true ↔ p.statements.map (·.tokens) = q.statements.map (·.tokens))) ∧
    (∀ s t : Statement, s.Avoids ' ' → t.Avoids ' ' → (s.sameText t = true ↔ s.tokens = t.tokens)) ∧
    ∀ (p : Program) (s : Statement), p.Avoids ' ' → s.Avoids ' ' → p.Finds s :=
  ⟨fun _ => Program.decode_render, fun _ _ => Program.sameText_iff,
    fun _ _ => Statement.sameText_iff, fun _ _ => Program.finds⟩

/-- With a space in a token, different statements can have the same text. -/
example : Statement.sameText ⟨["a b"]⟩ ⟨["a", "b"]⟩ = true := by decide

/-- Statements whose tokens are empty or look like the lines around them. -/
def Program.deceptive : Program :=
  .ofStatements [⟨[]⟩, ⟨["int", "main()\x7b"]⟩, ⟨[""]⟩, ⟨["\x7d"]⟩, ⟨["", ""]⟩, ⟨[""]⟩]

theorem text_determines_deceptive_statements :
    Program.decode Program.deceptive.render =
        [[], [⟨"int"⟩, ⟨"main()\x7b"⟩], [⟨""⟩], [⟨"\x7d"⟩], [⟨""⟩, ⟨""⟩], [⟨""⟩]] ∧
    Program.deceptive.sameText Program.deceptive.reverse = false ∧
    Statement.sameText ⟨["", ""]⟩ ⟨[""]⟩ = false ∧
    Program.deceptive.indexOfStatement? ⟨[""]⟩ = some 2 := by
  obtain ⟨decodes, programs, statements, finds⟩ := text_determines_statements
  refine ⟨decodes .deceptive (by decide) (by decide), ?_, ?_, ?_⟩
  · refine Bool.eq_false_iff.mpr fun same => ?_
    have tokens := (programs .deceptive Program.deceptive.reverse (by decide) (by decide)
      (by decide) (by decide)).mp same
    exact absurd tokens (by decide)
  · refine Bool.eq_false_iff.mpr fun same => ?_
    have tokens := (statements ⟨["", ""]⟩ ⟨[""]⟩ (by decide) (by decide)).mp same
    exact absurd tokens (by decide)
  · exact ((finds .deceptive ⟨[""]⟩ (by decide) (by decide)).present
      [⟨[]⟩, ⟨["int", "main()\x7b"]⟩] [⟨["\x7d"]⟩, ⟨["", ""]⟩, ⟨[""]⟩] rfl (by decide)).2.1

end Progeny

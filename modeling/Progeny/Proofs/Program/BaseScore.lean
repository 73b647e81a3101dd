import Mathlib.Data.Finset.Card
import Progeny.Proofs.Fitness
import Progeny.Proofs.Grammar.Nesting
import Progeny.Proofs.Program.Rendering
import Progeny.Proofs.Sequence.Reordering

/-!
# What the base score depends on

The base score is measured on the text of a program, but the text around the tokens always counts
the same: its header and its closing brace are eleven characters and three words, the rest is
blank, and a blank after every token keeps the words of different tokens apart.  So all three
measures are functions of the tokens without their order, and every edit that only reorders
statements, or the tokens in a statement, leaves the base score as it is.
-/

namespace Progeny

open Draw

/-! ### Characters -/

theorem countP_flatMap_congr {α : Type} {counts : Char → Bool} {f g : α → List Char} {as : List α}
    (h : ∀ a ∈ as, (f a).countP counts = (g a).countP counts) :
    (as.flatMap f).countP counts = (as.flatMap g).countP counts := by
  rw [List.countP_flatMap, List.countP_flatMap]
  exact congrArg List.sum (List.map_congr_left h)

theorem Statement.countedCharacters_render (s : Statement) :
    Fitness.countedCharacters s.render =
      (s.tokens.flatMap (·.text.toList)).countP Fitness.counts := by
  unfold Fitness.countedCharacters
  rw [s.toList_render]
  refine countP_flatMap_congr fun t _ => ?_
  rw [List.countP_append]
  rfl

theorem Program.countedCharacters_render (p : Program) :
    Fitness.countedCharacters p.render =
      11 + (p.tokens.flatMap (·.text.toList)).countP Fitness.counts := by
  have rows : (p.statements.flatMap fun s =>
        indent.toList ++ s.render.toList ++ ['\n']).countP Fitness.counts =
      (p.tokens.flatMap (·.text.toList)).countP Fitness.counts := by
    rw [tokens, List.flatMap_assoc]
    refine countP_flatMap_congr fun s _ => ?_
    rw [List.countP_append, List.countP_append, ← s.countedCharacters_render]
    exact Nat.zero_add _
  have header : header.toList.countP Fitness.counts = 10 := by decide
  have line : ['\n'].countP Fitness.counts = 0 := by decide
  have closing : Lexicon.blockClose.toList.countP Fitness.counts = 1 := by decide
  unfold Fitness.countedCharacters
  rw [p.toList_render, List.countP_append, ← List.singleton_append, List.countP_append,
    List.countP_append, header, line, rows, closing]
  omega

/-! ### Words -/

theorem Statement.wordsOf_render (s : Statement) :
    Text.wordsOf s.render.toList = s.tokens.flatMap fun t => Text.wordsOf t.text.toList := by
  have nothing : Text.wordsOf [] = [] := rfl
  have rows := Text.wordsOf_rows (by decide : Text.isBlank ' ' = true)
    (fun t : Token => t.text.toList) s.tokens []
  rw [List.append_nil, ← s.toList_render, nothing, List.append_nil] at rows
  exact rows

/-- Blanks at the beginning belong to no word. -/
theorem Text.wordsOf_indent (cs : List Char) :
    wordsOf (Program.indent.toList ++ cs) = wordsOf cs := by
  have blank (rest : List Char) : wordsOf (' ' :: rest) = wordsOf rest :=
    wordsOf_append (by decide) [] rest
  change wordsOf (' ' :: ' ' :: ' ' :: cs) = wordsOf cs
  rw [blank, blank, blank]

theorem Program.words_render (p : Program) :
    Text.words p.render =
      ["int", "main()\x7b"] ++ (p.tokens.flatMap fun t => Text.words t.text) ++ ["\x7d"] := by
  have header : Text.wordsOf header.toList = ["int".toList, "main()\x7b".toList] := by decide
  have closing : Text.wordsOf Lexicon.blockClose.toList = ["\x7d".toList] := by decide
  have rows : (fun s : Statement => Text.wordsOf (indent.toList ++ s.render.toList)) =
      fun s => s.tokens.flatMap fun t => Text.wordsOf t.text.toList := by
    funext s
    rw [Text.wordsOf_indent, s.wordsOf_render]
  unfold Text.words
  rw [p.toList_render, Text.wordsOf_append (by decide), Text.wordsOf_rows (by decide), header,
    closing, rows, ← List.flatMap_assoc, ← tokens]
  simp [List.map_flatMap]

/-- The set of the words: three stand in every text, the others are those of the tokens. -/
theorem Program.toFinset_words_render (p : Program) :
    (Text.words p.render).toFinset =
      {"int", "main()\x7b", "\x7d"} ∪ (p.tokens.flatMap fun t => Text.words t.text).toFinset := by
  rw [p.words_render]
  ext word
  simp only [List.mem_toFinset, List.mem_append, List.mem_cons, Finset.mem_union,
    Finset.mem_insert, Finset.mem_singleton, List.not_mem_nil, or_false]
  tauto

theorem Token.Solid.words {t : Token} (solid : t.Solid) : Text.words t.text = [t.text] := by
  have some : t.text.toList ≠ [] := by simpa using solid.some
  unfold Text.words
  rw [Text.wordsOf_whole some solid.unbroken, List.map_singleton, String.ofList_toList]

theorem Program.words_of_solid {p : Program} (solid : ∀ t ∈ p.tokens, t.Solid) :
    (p.tokens.flatMap fun t => Text.words t.text).toFinset =
      (p.distinctTokens.map (·.text)).toFinset := by
  ext word
  have members : (∃ t ∈ p.tokens, word ∈ Text.words t.text) ↔ ∃ t ∈ p.tokens, t.text = word := by
    refine exists_congr fun t => and_congr_right fun mem => ?_
    rw [(solid t mem).words, List.mem_singleton, eq_comm]
  have distinct (t : Token) : t ∈ p.distinctTokens ↔ t ∈ p.tokens := List.mem_eraseDups
  simp only [List.mem_toFinset, List.mem_flatMap, List.mem_map, distinct, members]

/-! ### The base score -/

theorem Program.tokenCount_eq (p : Program) : p.tokenCount = p.tokens.length :=
  Sequence.total_length Statement.tokens p.statements

theorem Fitness.distinctWords_eq_card (text : String) :
    distinctWords text = (Text.words text).toFinset.card := by
  rw [distinctWords_eq, List.card_toFinset]

/-- The points on a program's own text, from its tokens alone. -/
theorem Program.baseScore_render (weights : FitnessConfig) (p : Program) :
    Fitness.baseScore weights p p.render =
      weights.lengthWordBonus * p.tokens.length.toFloat +
      weights.lengthCharBonus *
        (11 + (p.tokens.flatMap (·.text.toList)).countP Fitness.counts).toFloat +
      weights.uniqueWordBonus *
        ({"int", "main()\x7b", "\x7d"} ∪
          (p.tokens.flatMap fun t => Text.words t.text).toFinset).card.toFloat := by
  unfold Fitness.baseScore Fitness.points
  rw [p.tokenCount_eq, p.countedCharacters_render, Fitness.distinctWords_eq_card,
    p.toFinset_words_render]

/-- The programs have the same base score, each on its own text and under any weights. -/
def Program.SameBase (q p : Program) : Prop :=
  ∀ weights : FitnessConfig,
    Fitness.baseScore weights q q.render = Fitness.baseScore weights p p.render

/-- All that the base score measures is the same for the same tokens in another order. -/
theorem Program.SameBase.of_perm {p q : Program} (perm : q.tokens.Perm p.tokens) :
    q.SameBase p := by
  intro weights
  rw [q.baseScore_render, p.baseScore_render, perm.length_eq, (perm.flatMap_right _).countP_eq,
    List.toFinset_eq_of_perm _ _ (perm.flatMap_right _)]

/-- No edit that reorders the statements, or the tokens in one statement, changes the base score. -/
structure Program.KeepsBase (listed : Nat) (p : Program) : Prop where
  reverse : p.reverse.SameBase p
  shuffle : Yields listed p.shuffle (·.SameBase p)
  rotate : Yields listed p.rotate fun result => ∀ q, result = .ok q → q.SameBase p
  sortBySize : p.sortBySize.SameBase p
  swap : ∀ i j, (p.swap i j).SameBase p
  swapRandom : Yields listed p.swapRandom fun result => ∀ q, result = .ok q → q.SameBase p
  reverseWithin : ∀ i, (p.updateStatement i Statement.reverse).SameBase p
  shuffleWithin : ∀ i s, p.statement? i = some s →
    Yields listed s.shuffle fun t => (p.updateStatement i fun _ => t).SameBase p
  swapWithin : ∀ i j k, (p.updateStatement i (·.swap j k)).SameBase p
  swapRandomWithin : ∀ i s, p.statement? i = some s →
    Yields listed s.swapRandom fun t => (p.updateStatement i fun _ => t).SameBase p

theorem Program.keepsBase (listed : Nat) (p : Program) : p.KeepsBase listed := by
  have reordered {q : Program} (perm : q.statements.Perm p.statements) : q.SameBase p :=
    .of_perm (tokens_perm perm)
  have exchanged {i : Nat} {s t : Statement} (found : p.statement? i = some s)
      (perm : t.tokens.Perm s.tokens) : (p.updateStatement i fun _ => t).SameBase p := by
    refine .of_perm (tokens_updateStatement_perm fun s' found' => ?_)
    cases found.symm.trans found'
    exact perm
  constructor
  · exact reordered p.reverse_perm
  · exact p.yields_shuffle.mono fun _ => reordered
  · exact p.yields_rotate.mono fun _ rotated q same => reordered (rotated q same)
  · exact reordered p.sortBySize_perm
  · exact fun i j => reordered (p.swap_perm i j)
  · exact p.yields_swapRandom.mono fun _ swapped q same => reordered (swapped q same)
  · exact fun i => .of_perm (tokens_updateStatement_perm fun s _ => s.reverse_perm)
  · exact fun i s found => s.yields_shuffle.mono fun _ => exchanged found
  · exact fun i j k => .of_perm (tokens_updateStatement_perm fun s _ => s.swap_perm j k)
  · exact fun i s found => s.yields_swapRandom.mono fun _ => exchanged found

/-- What the base score measures on the text of a program is a function of its tokens without their
order: their number, the characters of them that count and eleven more, and their words and three
more.  The base score weighs these three numbers and adds them up. -/
theorem base_score_of_tokens (p : Program) :
    p.tokenCount = p.tokens.length ∧
    Fitness.countedCharacters p.render =
      11 + (p.tokens.flatMap (·.text.toList)).countP (fun c => ! Text.isBlank c && c != ';') ∧
    Fitness.distinctWords p.render = (Text.words p.render).toFinset.card ∧
    (Text.words p.render).toFinset =
      {"int", "main()\x7b", "\x7d"} ∪ (p.tokens.flatMap fun t => Text.words t.text).toFinset ∧
    ((∀ t ∈ p.tokens, t.Solid) → (Text.words p.render).toFinset =
      {"int", "main()\x7b", "\x7d"} ∪ (p.distinctTokens.map (·.text)).toFinset) ∧
    (∀ weights : FitnessConfig, Fitness.baseScore weights p p.render =
      weights.lengthWordBonus * p.tokens.length.toFloat +
      weights.lengthCharBonus * (11 + (p.tokens.flatMap (·.text.toList)).countP
        fun c => ! Text.isBlank c && c != ';').toFloat +
      weights.uniqueWordBonus * ({"int", "main()\x7b", "\x7d"} ∪
        (p.tokens.flatMap fun t => Text.words t.text).toFinset).card.toFloat) ∧
    (∀ q : Program, q.tokens.Perm p.tokens → q.SameBase p) ∧
    ∀ listed, p.KeepsBase listed := by
  refine ⟨p.tokenCount_eq, p.countedCharacters_render, Fitness.distinctWords_eq_card _,
    p.toFinset_words_render, fun solid => ?_, fun weights => p.baseScore_render weights,
    fun q => .of_perm, fun listed => p.keepsBase listed⟩
  rw [p.toFinset_words_render, Program.words_of_solid solid]

/-- A statement, and its tokens over three statements in another order: both have four tokens,
eleven characters of the frame and three of their own, and six words. -/
theorem base_score_of_torn_statement :
    let whole := Program.ofStatements [⟨["x", "=", "x", ";"]⟩]
    let torn := Program.ofStatements [⟨[";", "x"]⟩, ⟨[]⟩, ⟨["x", "="]⟩]
    torn.tokens.Perm whole.tokens ∧ torn.SameBase whole ∧
    (∀ t ∈ whole.tokens, t.Solid) ∧
    (Text.words whole.render).toFinset = {"int", "main()\x7b", "\x7d", "x", "=", ";"} ∧
    Fitness.baseScore {} whole whole.render = 4.0 + 0.1 * 14.0 + 2.0 * 6.0 ∧
    Fitness.baseScore {} torn torn.render = 4.0 + 0.1 * 14.0 + 2.0 * 6.0 := by
  intro whole torn
  have perm : torn.tokens.Perm whole.tokens := by decide
  have plain : ∀ t ∈ whole.tokens, t.Plain := by decide
  have solid : ∀ t ∈ whole.tokens, t.Solid := fun t mem => (plain t mem).solid
  obtain ⟨-, -, -, -, words, score, same, -⟩ := base_score_of_tokens whole
  have points : Fitness.baseScore {} whole whole.render = 4.0 + 0.1 * 14.0 + 2.0 * 6.0 :=
    (score {}).trans (by decide +kernel)
  refine ⟨perm, same torn perm, solid, (words solid).trans ?_, points, ?_⟩
  · decide
  · exact (same torn perm {}).trans points

end Progeny

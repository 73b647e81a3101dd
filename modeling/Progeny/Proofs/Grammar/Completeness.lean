import Progeny.Proofs.Grammar.Sentence
import Progeny.Proofs.Random.Spells

/-!
# Every sentence is drawn

For each derivation tree there are words on which the generator of its construct gives exactly its
tokens.  The words are put together along the tree, in the order of the draws: one for each choice
among constructs, taken from the middle of the numbers that lead there, one or two for each length
and each member of a pool, and then those of the parts.
-/

namespace Progeny.Grammar

open Draw

/-- The word that lies `k` hundredths of the way through all words. -/
def hundredths (k : Nat) : UInt64 := UInt64.ofNat (k * 184467440737095516)

/-- A number is drawn as the one that lies `k` hundredths of the way from 0 to 1. -/
theorem reaches_roll (k : Nat) {α : Type} {next : Nat → Float → Draw α} {a : α}
    (h : Reaches (fun bound => next bound (ofWord (hundredths k))) a) :
    Reaches (fun bound => unit >>= next bound) a := (reaches_unit _).bind h

/-! ### Terms -/

theorem Choice.reached {pool : List String} (choice : Choice pool)
    (fits : pool.length ≤ Nat.pow 2 64) : Reaches (fun _ => fromPool pool) choice.token :=
  (reaches_member choice.property fits).bind (reaches_pure _)

theorem Name.reached (name : Name) : Reaches (fun _ => variableName) name.token :=
  Choice.reached name (by decide)

theorem reaches_negated (negated : Bool) : Reaches (fun _ => chance 0.1) negated := by
  have tossed : chance 0.1 = (do return decide ((← word) < coinBound 0.1)) := by
    unfold chance
    rw [if_neg (by decide), if_pos (by decide)]
  rw [tossed]
  cases negated with
  | true =>
    refine (spells_word (hundredths 5)).reaches.bind ?_
    rw [show decide (hundredths 5 < coinBound 0.1) = true by decide]
    exact reaches_pure true
  | false =>
    refine (spells_word (hundredths 50)).reaches.bind ?_
    rw [show decide (hundredths 50 < coinBound 0.1) = false by decide]
    exact reaches_pure false

theorem reaches_wholeText {n : Int} (least : -100 ≤ n) (most : n ≤ 99) :
    Reaches (fun _ => wholeText) n.repr := by
  let i : Fin 200 := ⟨(n + 100).toNat, by omega⟩
  have value : (i.val : Int) - 100 = n := by
    change ((n + 100).toNat : Int) - 100 = n
    omega
  refine (reaches_belowNarrow i (by decide)).bind ?_
  rw [value]
  exact reaches_pure _

theorem reaches_characterText {c : Char} (inside : c ∈ Lexicon.alphabet.toList) :
    Reaches (fun _ => characterText) ("'" ++ c.toString ++ "'") := by
  have fits : Lexicon.alphabet.toList.length ≤ Nat.pow 2 64 := by
    rw [Lexicon.alphabet_toList]
    decide
  obtain ⟨i, rfl⟩ := List.get_of_mem inside
  exact (reaches_below i fits).bind (reaches_pure _)

theorem Literal.reached (value : Literal) : Reaches (fun _ => literal) value.token := by
  cases value with
  | fraction negated word =>
    refine (reaches_negated negated).bind (reaches_roll 25 ?_)
    refine .yes (Reaches.bind ?_ (reaches_pure _))
    exact (reaches_unit word).bind (reaches_pure _)
  | whole negated n least most =>
    refine (reaches_negated negated).bind (reaches_roll 70 ?_)
    refine .no (.yes ?_)
    exact (reaches_wholeText least most).bind (reaches_pure _)
  | character c inside =>
    refine (reaches_negated false).bind (reaches_roll 95 ?_)
    refine .no (.no ?_)
    exact (reaches_characterText inside).bind (reaches_pure _)

/-- Each of the four forms of a counted variable has its quarter of the numbers. -/
theorem reaches_stepped (w : UInt64) (name : Name) :
    Reaches (fun _ => stepped)
      (if ofWord w < 0.25 then ⟨"++" ++ name.val⟩
        else if ofWord w < 0.5 then ⟨"--" ++ name.val⟩
        else if ofWord w < 0.75 then ⟨name.val ++ "++"⟩
        else ⟨name.val ++ "--"⟩) :=
  (reaches_unit w).bind (name.reached.bind (reaches_pure _))

theorem reaches_negatable (w : UInt64) (name : Name) :
    Reaches (fun _ => negatable) (if ofWord w < 0.1 then ⟨"!" ++ name.val⟩ else name.token) :=
  (reaches_unit w).bind (name.reached.bind (reaches_pure _))

theorem Term.reached (value : Term) : Reaches (fun _ => term) value.token := by
  have ofName {t : Token} (h : Reaches (fun _ => stepped) t ∨ Reaches (fun _ => negatable) t) :
      Reaches (fun _ => term) t := by
    refine reaches_roll 75 (.no ?_)
    rcases h with h | h
    · exact reaches_roll 5 (.yes h)
    · exact reaches_roll 50 (.no h)
  cases value with
  | literal value =>
    exact reaches_roll 25 (.yes value.reached)
  | increment name =>
    have h := reaches_stepped (hundredths 12) name
    rw [if_pos (by decide)] at h
    exact ofName (.inl h)
  | decrement name =>
    have h := reaches_stepped (hundredths 37) name
    rw [if_neg (by decide), if_pos (by decide)] at h
    exact ofName (.inl h)
  | incremented name =>
    have h := reaches_stepped (hundredths 62) name
    rw [if_neg (by decide), if_neg (by decide), if_pos (by decide)] at h
    exact ofName (.inl h)
  | decremented name =>
    have h := reaches_stepped (hundredths 87) name
    rw [if_neg (by decide), if_neg (by decide), if_neg (by decide)] at h
    exact ofName (.inl h)
  | negated name =>
    have h := reaches_negatable (hundredths 5) name
    rw [if_pos (by decide)] at h
    exact ofName (.inr h)
  | plain name =>
    have h := reaches_negatable (hundredths 50) name
    rw [if_neg (by decide)] at h
    exact ofName (.inr h)

theorem spells_shortLength {most length : Nat} (short : length < most)
    (fits : most ≤ Nat.pow 2 64) :
    ∃ words, words ≠ [] ∧ Spells (shortLength most) words length := by
  obtain ⟨w, first⟩ := spells_below ⟨length, short⟩ fits
  obtain ⟨w', second⟩ := spells_below (Fin.last length) (by omega)
  exact ⟨_, List.cons_ne_nil _ _, first.bind (second.bind (spells_pure _))⟩

/-! ### Expressions -/

theorem reaches_isWrapped {length : Nat} {wrapped : Bool} (several : wrapped = true → 1 < length) :
    Reaches (fun _ => isWrapped length) wrapped := by
  cases wrapped with
  | true =>
    refine .yes (reaches_roll 10 ?_) (several rfl)
    rw [show decide (ofWord (hundredths 10) < 0.33) = true by decide]
    exact reaches_pure true
  | false =>
    by_cases more : 1 < length
    · refine .yes (reaches_roll 50 ?_) more
      rw [show decide (ofWord (hundredths 50) < 0.33) = false by decide]
      exact reaches_pure false
    · exact .no (reaches_pure false) more

/-- An operation is drawn for each pair, so that an expression nests only after its length. -/
theorem reaches_expressionWithin {first : Term} {parts : List (List Token)} (wrapped : Bool)
    (few : parts.length ≤ 6) (several : wrapped = true → 0 < parts.length)
    (h : ∀ part ∈ parts, Reaches (fun depth => operation (expressionWithin depth)) part) :
    Reaches expressionWithin
      (if wrapped then inParentheses (first.token :: parts.flatten)
        else first.token :: parts.flatten) := by
  have short : parts.length + 1 < 8 := by omega
  obtain ⟨words, reads, length⟩ := spells_shortLength short (by decide)
  refine .deeper (fun _ => rfl) length reads ?_
  refine (reaches_isWrapped fun yes => Nat.succ_lt_succ (several yes)).bind (first.reached.bind ?_)
  exact (reaches_replicate h).bind (reaches_pure _)

mutual

theorem Expression.reached : (e : Expression) → Reaches expressionWithin e.tokens
  | .bare first others few => by
    obtain ⟨parts, count, same, reached⟩ := others.reached
    rw [Expression.tokens, ← same]
    exact reaches_expressionWithin false (by omega) nofun reached
  | .wrapped first others few => by
    obtain ⟨parts, count, same, reached⟩ := others.reached
    rw [Expression.tokens, ← same]
    exact reaches_expressionWithin true (by omega) (fun _ => by omega) reached

theorem Operations.reached {n : Nat} : (o : Operations n) →
    ∃ parts : List (List Token), parts.length = n ∧ parts.flatten = o.tokens ∧
      ∀ part ∈ parts, Reaches (fun depth => operation (expressionWithin depth)) part
  | .none => ⟨[], rfl, rfl, nofun⟩
  | .term operator right others => by
    obtain ⟨parts, count, same, reached⟩ := others.reached
    refine ⟨[operator.token, right.token] :: parts, by simp [count],
      by simp [Operations.tokens, same], List.forall_mem_cons.mpr ⟨?_, reached⟩⟩
    refine (operator.reached (by decide)).bind (reaches_roll 25 ?_)
    exact .yes (right.reached.bind (reaches_pure _))
  | .nested operator right others => by
    obtain ⟨parts, count, same, reached⟩ := others.reached
    refine ⟨(operator.token :: right.tokens) :: parts, by simp [count],
      by simp [Operations.tokens, same], List.forall_mem_cons.mpr ⟨?_, reached⟩⟩
    refine (operator.reached (by decide)).bind (reaches_roll 75 ?_)
    exact .no (right.reached.bind (reaches_pure _))

end

theorem Expression.drawn (e : Expression) : Reaches (fun _ => expression) e.tokens :=
  e.reached.bounded

/-! ### Declarations and assignments -/

theorem reaches_modifiers (modifier : Option (Choice Lexicon.modifiers)) :
    Reaches (fun _ => modifiers) (modifier.map Choice.token).toList := by
  cases modifier with
  | none => exact reaches_roll 50 (.no (reaches_pure _))
  | some choice =>
    refine reaches_roll 12 (.yes ?_)
    exact (choice.reached (by decide)).bind (reaches_pure _)

theorem Initializer.reached (value : Initializer) :
    Reaches (fun _ => initializer) value.tokens := by
  cases value with
  | none =>
    exact reaches_roll 80 (.no (.no (reaches_pure _)))
  | value e =>
    exact reaches_roll 30 (.no (.yes (e.drawn.bind (reaches_pure _))))
  | choice test whenTrue whenFalse =>
    refine reaches_roll 5 (.yes ?_)
    exact test.drawn.bind (whenTrue.reached.bind (whenFalse.reached.bind (reaches_pure _)))

theorem Declaration.reached (d : Declaration) : Reaches (fun _ => declaration) d.tokens := by
  refine (reaches_modifiers d.modifier).bind ((d.type.reached (by decide)).bind ?_)
  exact d.name.reached.bind (d.value.reached.bind (reaches_pure _))

theorem Assignment.reached (a : Assignment) : Reaches (fun _ => assignment) a.tokens :=
  a.name.reached.bind (a.value.drawn.bind (reaches_pure _))

theorem reaches_condition (e : Expression) : Reaches (fun _ => condition) e.condition :=
  e.drawn.bind (reaches_pure _)

/-! ### Control statements and blocks -/

section Nesting

variable {blocks : Nat → Draw (List Token)}

theorem reaches_blockWithin {parts : List (List Token)} (some : 0 < parts.length)
    (few : parts.length ≤ 6)
    (h : ∀ part ∈ parts, Reaches (fun depth => item (controlOf (blockWithin depth))) part) :
    Reaches blockWithin
      ((Lexicon.blockOpen : Token) :: parts.flatten ++ [(Lexicon.blockClose : Token)]) := by
  obtain ⟨words, reads, length⟩ :=
    spells_shortLength (show parts.length - 1 < 6 by omega) (by decide)
  refine .deeper (fun _ => rfl) length reads ?_
  rw [Nat.sub_add_cancel some]
  exact (reaches_replicate h).bind (reaches_pure _)

/-- The arms and the default arm of a switch, whose bodies are drawn from a family of blocks. -/
theorem reaches_switch {name : Name} {parts : List (List Token)}
    {others : List Token} (few : parts.length ≤ 9)
    (h : ∀ part ∈ parts, Reaches (fun depth => switchArm (blocks depth)) part)
    (rest : Reaches (fun depth => defaultArm (blocks depth)) others) :
    Reaches (fun depth => controlOf (blocks depth))
      ([("switch" : Token), ("(" : Token), name.token, (")" : Token),
        (Lexicon.blockOpen : Token)] ++ parts.flatten ++ others ++
        [(Lexicon.blockClose : Token)]) := by
  obtain ⟨words, -, length⟩ := spells_shortLength (show parts.length < 10 by omega) (by decide)
  refine reaches_roll 95 (.no (.no (.no (.no ?_))))
  refine name.reached.bind (length.reaches.bind ?_)
  exact (reaches_replicate h).bind (rest.bind (reaches_pure _))

theorem reaches_switchArm {body : List Token} (value : Literal)
    (leaves : Bool) (h : Reaches blocks body) :
    Reaches (fun depth => switchArm (blocks depth))
      ([("case" : Token), value.token, (":" : Token)] ++ body ++
        (if leaves then [("break;" : Token)] else [])) := by
  refine value.reached.bind (h.bind ?_)
  cases leaves with
  | true =>
    refine reaches_roll 25 ?_
    rw [if_pos (show ofWord (hundredths 25) < 0.5 by decide)]
    exact reaches_pure _
  | false =>
    refine reaches_roll 75 ?_
    rw [if_neg (show ¬ofWord (hundredths 75) < 0.5 by decide)]
    exact reaches_pure _

end Nesting

mutual

theorem Block.reached : (b : Block) → Reaches blockWithin b.tokens
  | .mk items few => by
    obtain ⟨parts, count, same, reached⟩ := items.reached
    rw [Block.tokens, ← same]
    exact reaches_blockWithin (by omega) (by omega) reached

theorem Items.reached {n : Nat} : (i : Items n) →
    ∃ parts : List (List Token), parts.length = n ∧ parts.flatten = i.tokens ∧
      ∀ part ∈ parts, Reaches (fun depth => item (controlOf (blockWithin depth))) part
  | .none => ⟨[], rfl, rfl, nofun⟩
  | .some first others => by
    obtain ⟨parts, count, same, reached⟩ := others.reached
    refine ⟨first.tokens :: parts, by simp [count], by simp [Items.tokens, same], ?_⟩
    exact List.forall_mem_cons.mpr ⟨first.reached, reached⟩

theorem Item.reached : (i : Item) →
    Reaches (fun depth => item (controlOf (blockWithin depth))) i.tokens
  | .declaration d =>
    reaches_roll 10 (.yes d.reached)
  | .expression e => by
    exact reaches_roll 50 (.no (.yes (e.drawn.bind (reaches_pure _))))
  | .branch b => by
    refine reaches_roll 85 (.no (.no (.yes ?_)))
    exact (b.reached (by decide)).bind (reaches_pure _)
  | .control c => by
    exact reaches_roll 95 (.no (.no (.no (c.reached fun _ => id))))

-- The bodies come from blocks with a bound when they are inside of a block, and from those without
-- one otherwise; `lift` stands for both.
theorem Control.reached {blocks : Nat → Draw (List Token)}
    (lift : ∀ ts, Reaches blockWithin ts → Reaches blocks ts) : (c : Control) →
    Reaches (fun depth => controlOf (blocks depth)) c.tokens
  | .ifThen test body => by
    refine reaches_roll 15 (.yes ?_)
    exact (reaches_condition test).bind ((lift _ body.reached).bind (reaches_pure _))
  | .forLoop first test step body => by
    refine reaches_roll 40 (.no (.yes ?_))
    refine first.reached.bind (test.drawn.bind (step.drawn.bind ?_))
    exact (lift _ body.reached).bind (reaches_pure _)
  | .whileLoop test body => by
    refine reaches_roll 60 (.no (.no (.yes ?_)))
    exact (reaches_condition test).bind ((lift _ body.reached).bind (reaches_pure _))
  | .doWhile body test => by
    refine reaches_roll 80 (.no (.no (.no (.yes ?_))))
    exact (lift _ body.reached).bind ((reaches_condition test).bind (reaches_pure _))
  | .switch name arms few others => by
    obtain ⟨parts, count, same, reached⟩ := arms.reached lift
    rw [Control.tokens, ← same]
    exact reaches_switch (by omega) reached (others.reached lift)

theorem Arms.reached {n : Nat} {blocks : Nat → Draw (List Token)}
    (lift : ∀ ts, Reaches blockWithin ts → Reaches blocks ts) : (a : Arms n) →
    ∃ parts : List (List Token), parts.length = n ∧ parts.flatten = a.tokens ∧
      ∀ part ∈ parts, Reaches (fun depth => switchArm (blocks depth)) part
  | .none => ⟨[], rfl, rfl, nofun⟩
  | .some value body leaves others => by
    obtain ⟨parts, count, same, reached⟩ := others.reached lift
    have first := reaches_switchArm value leaves (lift _ body.reached)
    refine ⟨_, ?_, ?_, List.forall_mem_cons.mpr ⟨first, reached⟩⟩
    · rw [List.length_cons, count]
    · simp [Arms.tokens, same]

theorem DefaultArm.reached {blocks : Nat → Draw (List Token)}
    (lift : ∀ ts, Reaches blockWithin ts → Reaches blocks ts) : (a : DefaultArm) →
    Reaches (fun depth => defaultArm (blocks depth)) a.tokens
  | .none => reaches_roll 50 (.no (reaches_pure _))
  | .some body => by
    refine reaches_roll 12 (.yes ?_)
    exact (lift _ body.reached).bind (reaches_pure _)

end

theorem Block.drawn (b : Block) : Reaches (fun _ => block) b.tokens := b.reached.bounded

theorem Control.drawn (c : Control) : Reaches (fun _ => control) c.tokens :=
  c.reached fun _ h => h.bounded

theorem Sentence.reached (s : Sentence) : Reaches (fun _ => statement) s.tokens := by
  cases s with
  | declaration d =>
    exact reaches_roll 12 (.yes d.reached)
  | assignment a =>
    exact reaches_roll 37 (.no (.yes a.reached))
  | control c =>
    exact reaches_roll 75 (.no (.no c.drawn))

theorem Single.reached (value : Single) : Reaches (fun _ => Grammar.token) value.token := by
  cases value with
  | keyword choice =>
    exact reaches_roll 25 (.yes (choice.reached (by decide)))
  | operator choice =>
    refine reaches_roll 55 (.no ?_)
    exact .yes (choice.reached (by decide))
  | name choice =>
    refine reaches_roll 70 (.no ?_)
    exact .no (.yes choice.reached)
  | literal value =>
    refine reaches_roll 90 (.no ?_)
    exact .no (.no value.reached)

/-! ### Whole programs -/

theorem Body.length_statements {k : Nat} (body : Body k) : body.statements.length = k := by
  have := declared_le k
  simp only [Body.statements, List.length_append, List.length_map, body.first, body.rest]
  omega

theorem Declaration.drawn (d : Declaration) :
    Reaches (fun _ => Statement.randomDeclaration) ⟨d.tokens⟩ := d.reached.bind (reaches_pure _)

theorem Sentence.drawn (s : Sentence) : Reaches (fun _ => Statement.random) ⟨s.tokens⟩ :=
  s.reached.bind (reaches_pure _)

/-- Statements of a kind, drawn in a row. -/
theorem reaches_row {Tree : Type} {make : Tree → Statement} {draw : Draw Statement}
    (h : ∀ d, Reaches (fun _ => draw) (make d)) {ds : List Tree} {n : Nat} (count : ds.length = n) :
    Reaches (fun _ => replicate n draw) (ds.map make) := by
  rw [← count, ← List.length_map (f := make)]
  refine reaches_replicate fun s mem => ?_
  obtain ⟨d, -, rfl⟩ := List.mem_map.mp mem
  exact h d

theorem Body.reached {k : Nat} (body : Body k) :
    Reaches (fun _ => Program.randomWith (declared k) k) (.ofStatements body.statements) := by
  refine (reaches_row Declaration.drawn body.first).bind ?_
  exact (reaches_row Sentence.drawn body.rest).bind (reaches_pure _)

end Progeny.Grammar

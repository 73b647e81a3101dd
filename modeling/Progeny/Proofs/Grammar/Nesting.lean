import Progeny.Proofs.Grammar.Sentence
import Progeny.Statement.Basic

/-!
# Brackets and blanks

The brackets of every sentence nest.  A text without brackets and blanks is plain; all terms, words
and operators are plain, and brackets are opened and closed by the grammar only around what nests
itself.  Characters are neutral when the brackets that are open before them are open after them, so
that they can stand anywhere in a text whose brackets nest: plain tokens are neutral, and so is
every sentence.
-/

namespace Progeny

/-! ### Plain texts -/

namespace Text

/-- Whether a character is neither a blank nor a bracket. -/
def isPlain (c : Char) : Bool :=
  !isBlank c && !Statement.isOpener c && (Statement.openerOf? c).isNone

/-- A text without blanks and brackets. -/
def Plain (s : String) : Prop := ∀ c ∈ s.toList, isPlain c = true

instance (s : String) : Decidable (Plain s) :=
  decidable_of_iff (s.toList.all isPlain = true) List.all_eq_true

theorem isPlain_of_isDigit {c : Char} (digit : c.isDigit = true) : isPlain c = true := by
  have digits : ∀ n < 58, 48 ≤ n → isPlain (Char.ofNat n) = true := by decide
  simp only [Char.isDigit, Bool.and_eq_true, decide_eq_true_eq, UInt32.le_iff_toNat_le] at digit
  rw [← Char.ofNat_toNat c]
  exact digits c.val.toNat (Nat.lt_succ_of_le digit.2) digit.1

theorem Plain.append {s t : String} (hs : Plain s) (ht : Plain t) : Plain (s ++ t) := by
  intro c mem
  rw [String.toList_append, List.mem_append] at mem
  exact mem.elim (hs c) (ht c)

theorem plain_toString {c : Char} (plain : isPlain c = true) : Plain c.toString := by
  intro d mem
  rw [Char.toString_eq_singleton, String.toList_singleton, List.mem_singleton] at mem
  rw [mem, plain]

theorem plain_repr (n : Nat) : Plain n.repr := by
  intro c mem
  rw [Nat.toList_repr] at mem
  exact isPlain_of_isDigit (Nat.isDigit_of_mem_toDigits (by decide) (by decide) mem)

theorem plain_repr_int (n : Int) : Plain n.repr := by
  rw [Int.repr_eq_if]
  split
  · exact plain_repr _
  · exact Plain.append (by decide) (plain_repr _)

theorem plain_padded (width n : Nat) : Plain (Decimal.padded width n) := by
  refine Plain.append (fun c mem => ?_) (plain_repr n)
  rw [String.toList_ofList] at mem
  rw [List.eq_of_mem_replicate mem]
  decide

theorem plain_signText (negative : Bool) : Plain (Decimal.Double.signText negative) := by
  cases negative <;> decide

theorem plain_fixed (places : Nat) (x : Float) : Plain (Decimal.fixed places x) := by
  unfold Decimal.fixed
  split
  · decide
  · exact (plain_signText _).append (by decide)
  · refine (plain_signText _).append (((plain_repr _).append ?_).append (plain_padded _ _))
    decide

theorem fixed_ne_empty (places : Nat) (x : Float) : Decimal.fixed places x ≠ "" := by
  unfold Decimal.fixed Decimal.placed
  split <;> simp

theorem repr_int_ne_empty (n : Int) : n.repr ≠ "" := by
  rw [Int.repr_eq_if]
  split <;> simp

end Text

/-! ### Tokens -/

namespace Token

/-- Not empty, and without blanks. -/
structure Solid (t : Token) : Prop where
  some : t.text ≠ ""
  unbroken : ∀ c ∈ t.text.toList, Text.isBlank c = false

/-- Not empty, and without blanks and brackets. -/
def Plain (t : Token) : Prop := t.text ≠ "" ∧ Text.Plain t.text

instance (t : Token) : Decidable t.Plain := inferInstanceAs (Decidable (_ ∧ _))

theorem Plain.before {s : String} {t : Token} (hs : Text.Plain s) (ht : t.Plain) :
    Token.Plain ⟨s ++ t.text⟩ := ⟨by simp [ht.1], hs.append ht.2⟩

theorem Plain.after {t : Token} {s : String} (ht : t.Plain) (hs : Text.Plain s) :
    Token.Plain ⟨t.text ++ s⟩ := ⟨by simp [ht.1], ht.2.append hs⟩

theorem Solid.of_all {t : Token} (some : t.text ≠ "")
    (unbroken : t.text.toList.all (! Text.isBlank ·) = true) : t.Solid where
  some := some
  unbroken c mem := by simpa using List.all_eq_true.mp unbroken c mem

theorem Plain.solid {t : Token} (h : t.Plain) : t.Solid where
  some := h.1
  unbroken c mem := by
    have plain := h.2 c mem
    simp only [Text.isPlain, Bool.and_eq_true, Bool.not_eq_true'] at plain
    exact plain.1.1

end Token

/-! ### Neutral characters -/

namespace Statement

/-- Characters after which the same brackets are open as before. -/
def Neutral (cs : List Char) : Prop :=
  ∀ opened later, bracketsClose opened (cs ++ later) = bracketsClose opened later

theorem neutral_nil : Neutral [] := fun _ _ => rfl

theorem Neutral.append {cs cs' : List Char} (h : Neutral cs) (h' : Neutral cs') :
    Neutral (cs ++ cs') := by
  intro opened later
  rw [List.append_assoc, h, h']

theorem neutral_of_plain {cs : List Char} (h : ∀ c ∈ cs, Text.isPlain c = true) : Neutral cs := by
  induction cs with
  | nil => exact neutral_nil
  | cons c rest ih =>
    rw [List.forall_mem_cons] at h
    obtain ⟨plain, others⟩ := h
    simp only [Text.isPlain, Bool.and_eq_true, Bool.not_eq_true',
      Option.isNone_iff_eq_none] at plain
    obtain ⟨⟨-, notOpener⟩, notCloser⟩ := plain
    intro opened later
    rw [List.cons_append, bracketsClose, if_neg (by simp [notOpener]), notCloser]
    exact ih others opened later

theorem Neutral.around {o c : Char} {cs : List Char} (h : Neutral cs) (opens : isOpener o = true)
    (notOpener : isOpener c = false) (closes : openerOf? c = some o) :
    Neutral (o :: cs ++ [c]) := by
  intro opened later
  rw [List.append_assoc, List.cons_append, bracketsClose, if_pos opens, h, List.singleton_append,
    bracketsClose, if_neg (by simp [notOpener]), closes]
  exact if_pos rfl

/-- What neutral characters are put between does not matter. -/
theorem bracketsClose_insert {cs : List Char} (h : Neutral cs) (before later opened : List Char) :
    bracketsClose opened (before ++ (cs ++ later)) = bracketsClose opened (before ++ later) := by
  -- for all brackets that may be open, since each character before can open or close one
  induction before generalizing opened with
  | nil => exact h opened later
  | cons c rest ih =>
    rw [List.cons_append, List.cons_append, bracketsClose, bracketsClose]
    split
    · exact ih _
    · split
      · exact ih _
      · cases opened with
        | nil => rfl
        | cons top opened => simp only [ih]

/-- Tokens whose characters are neutral can be put anywhere. -/
theorem isBalanced_splice (s : Statement) (i : Nat) {t : Statement} (h : Neutral t.characters) :
    (s.splice i t).isBalanced = s.isBalanced := by
  have split : s.characters =
      characters ⟨s.tokens.take i⟩ ++ characters ⟨s.tokens.drop i⟩ := by
    simp only [characters, ← List.flatMap_append, List.take_append_drop]
  have spliced : (s.splice i t).characters =
      characters ⟨s.tokens.take i⟩ ++ (t.characters ++ characters ⟨s.tokens.drop i⟩) := by
    simp [characters, splice, insertAll, Sequence.insertAll]
  unfold isBalanced
  rw [spliced, split]
  exact bracketsClose_insert h _ _ _

theorem isBalanced_insert (s : Statement) (i : Nat) {t : Token} (plain : t.Plain) :
    (s.insert i t).isBalanced = s.isBalanced := by
  have neutral : Neutral (characters ⟨[t]⟩) := by
    simpa [characters] using neutral_of_plain plain.2
  exact s.isBalanced_splice i neutral

end Statement

/-! ### Tokens that nest -/

/-- Plain tokens, and round and curly brackets in pairs. -/
inductive Nested : List Token → Prop
  | nil : Nested []
  | plain {t : Token} : t.Plain → Nested [t]
  | append {ts us : List Token} : Nested ts → Nested us → Nested (ts ++ us)
  | round {ts : List Token} : Nested ts → Nested (("(" : Token) :: ts ++ [(")" : Token)])
  | curly {ts : List Token} : Nested ts →
      Nested ((Lexicon.blockOpen : Token) :: ts ++ [(Lexicon.blockClose : Token)])

namespace Nested

variable {ts : List Token}

theorem cons {t : Token} (plain : t.Plain) (h : Nested ts) : Nested (t :: ts) :=
  (Nested.plain plain).append h

theorem snoc {t : Token} (h : Nested ts) (plain : t.Plain) : Nested (ts ++ [t]) :=
  h.append (.plain plain)

theorem solid (h : Nested ts) : ∀ t ∈ ts, t.Solid := by
  have bracket {o c : Token} {inner : List Token} (opens : o.Solid) (closes : c.Solid)
      (inside : ∀ t ∈ inner, t.Solid) : ∀ t ∈ o :: inner ++ [c], t.Solid := by
    intro t mem
    rw [List.cons_append, List.mem_cons, List.mem_append, List.mem_singleton] at mem
    rcases mem with rfl | mem | rfl
    · exact opens
    · exact inside t mem
    · exact closes
  induction h with
  | nil => nofun
  | plain plain => exact List.forall_mem_singleton.mpr plain.solid
  | append _ _ left right => exact List.forall_mem_append.mpr ⟨left, right⟩
  | round _ ih => exact bracket (.of_all (by decide) rfl) (.of_all (by decide) rfl) ih
  | curly _ ih => exact bracket (.of_all (by decide) rfl) (.of_all (by decide) rfl) ih

theorem neutral (h : Nested ts) : Statement.Neutral (Statement.characters ⟨ts⟩) := by
  unfold Statement.characters
  induction h with
  | nil => exact Statement.neutral_nil
  | plain plain => simpa using Statement.neutral_of_plain plain.2
  | append _ _ left right => simpa using left.append right
  | round _ ih => simpa using ih.around (o := '(') (c := ')') (by decide) (by decide) (by decide)
  | curly _ ih =>
    have braces := ih.around (o := '\x7b') (c := '\x7d') (by decide) (by decide) (by decide)
    simpa [Lexicon.blockOpen, Lexicon.blockClose] using braces

theorem isBalanced (h : Nested ts) : Statement.isBalanced ⟨ts⟩ = true := by
  have closed := h.neutral [] []
  rw [List.append_nil] at closed
  exact closed

end Nested

/-! ### Sentences -/

namespace Grammar

theorem Choice.plain_token {pool : List String} (all : ∀ text ∈ pool, Token.Plain ⟨text⟩)
    (choice : Choice pool) : choice.token.Plain := all choice.val choice.property

theorem Name.plain_token (name : Name) : Token.Plain (Choice.token name) :=
  Choice.plain_token (by decide) name

theorem plain_operator (choice : Choice Lexicon.operators) : choice.token.Plain :=
  choice.plain_token (by decide)

theorem plain_signText (negated : Bool) : Text.Plain (signText negated) := by
  cases negated <;> decide

theorem Literal.plain_token (value : Literal) : value.token.Plain := by
  cases value with
  | fraction negated word =>
    refine ⟨?_, (plain_signText negated).append (Text.plain_fixed _ _)⟩
    simp [Literal.token, Text.fixed_ne_empty]
  | whole negated n least most =>
    refine ⟨?_, (plain_signText negated).append (Text.plain_repr_int n)⟩
    simp [Literal.token, Text.repr_int_ne_empty]
  | character c inside =>
    have all : Lexicon.alphabet.toList.all Text.isPlain = true := by
      rw [Lexicon.alphabet_toList]
      decide
    have letter : Text.Plain c.toString := Text.plain_toString (List.all_eq_true.mp all c inside)
    refine ⟨?_, ((show Text.Plain "'" by decide).append letter).append (by decide)⟩
    simp [Literal.token]

theorem Term.plain_token (value : Term) : value.token.Plain := by
  cases value with
  | literal value => exact value.plain_token
  | plain name => exact name.plain_token
  | increment name => exact .before (by decide) name.plain_token
  | decrement name => exact .before (by decide) name.plain_token
  | incremented name => exact .after name.plain_token (by decide)
  | decremented name => exact .after name.plain_token (by decide)
  | negated name => exact .before (by decide) name.plain_token

theorem Single.plain_token (value : Single) : value.token.Plain := by
  cases value with
  | keyword choice => exact choice.plain_token (by decide)
  | operator choice => exact plain_operator choice
  | name choice => exact choice.plain_token
  | literal value => exact value.plain_token

mutual

theorem Expression.nests : (e : Expression) → Nested e.tokens
  | .bare first others _ => .cons first.plain_token others.nests
  | .wrapped first others _ => .round (.cons first.plain_token others.nests)

theorem Operations.nests {n : Nat} : (o : Operations n) → Nested o.tokens
  | .none => .nil
  | .term operator right others =>
    .cons (plain_operator operator) (.cons right.plain_token others.nests)
  | .nested operator right others =>
    .append (.cons (plain_operator operator) right.nests) others.nests

end

theorem Initializer.nests (value : Initializer) : Nested value.tokens := by
  cases value with
  | none => exact .nil
  | value e => exact .cons (by decide) e.nests
  | choice test whenTrue whenFalse =>
    refine .append (.cons (by decide) test.nests) (.cons (by decide) ?_)
    exact .cons whenTrue.plain_token (.cons (by decide) (.plain whenFalse.plain_token))

theorem Declaration.nests (d : Declaration) : Nested d.tokens := by
  have modifier : Nested (d.modifier.map Choice.token).toList := by
    cases d.modifier with
    | none => exact .nil
    | some choice => exact .plain (choice.plain_token (by decide))
  have start : Nested [d.type.token, d.name.token] :=
    .cons (d.type.plain_token (by decide)) (.plain d.name.plain_token)
  exact ((modifier.append start).append d.value.nests).snoc (by decide)

theorem Assignment.nests (a : Assignment) : Nested a.tokens :=
  .snoc (.append (.cons a.name.plain_token (.plain (by decide))) a.value.nests)
    (by decide)

theorem Expression.condition_nests (e : Expression) : Nested e.condition := .round e.nests

mutual

theorem Block.nests : (b : Block) → Nested b.tokens
  | .mk items _ => .curly items.nests

theorem Items.nests {n : Nat} : (i : Items n) → Nested i.tokens
  | .none => .nil
  | .some first others => .append first.nests others.nests

theorem Item.nests : (i : Item) → Nested i.tokens
  | .declaration d => d.nests
  | .expression e => e.nests.snoc (by decide)
  | .branch b => .plain (b.plain_token (by decide))
  | .control c => c.nests

theorem Control.nests : (c : Control) → Nested c.tokens
  | .ifThen test body => .append (.cons (by decide) test.condition_nests) body.nests
  | .forLoop first test step body => by
    have head : Nested (("(" : Token) :: (first.tokens ++ test.tokens ++ [(";" : Token)] ++
        step.tokens) ++ [(")" : Token)]) :=
      .round (((first.nests.append test.nests).snoc (by decide)).append step.nests)
    have whole := (head.cons (t := "for") (by decide)).append body.nests
    simpa [Control.tokens] using whole
  | .whileLoop test body => .append (.cons (by decide) test.condition_nests) body.nests
  | .doWhile body test => by
    refine .snoc (.append (.snoc (.cons ?_ body.nests) ?_) test.condition_nests) ?_ <;>
      decide
  | .switch name arms _ others => by
    have head : Nested (("(" : Token) :: [name.token] ++ [(")" : Token)]) :=
      .round (.plain name.plain_token)
    have arms := Nested.curly (arms.nests.append others.nests)
    have whole := (head.cons (t := "switch") (by decide)).append arms
    simpa [Control.tokens] using whole

theorem Arms.nests {n : Nat} : (a : Arms n) → Nested a.tokens
  | .none => .nil
  | .some value body leaves others => by
    have head : Nested [("case" : Token), value.token, (":" : Token)] :=
      .cons (by decide) (.cons value.plain_token (.plain (by decide)))
    have leaving : Nested (if leaves then [("break;" : Token)] else []) := by
      cases leaves with
      | true => exact .plain (by decide)
      | false => exact .nil
    exact .append (.append (.append head body.nests) leaving) others.nests

theorem DefaultArm.nests : (a : DefaultArm) → Nested a.tokens
  | .none => .nil
  | .some body => .append (.cons (by decide) (.plain (by decide))) body.nests

end

theorem Sentence.nests (s : Sentence) : Nested s.tokens := by
  cases s with
  | declaration d => exact d.nests
  | assignment a => exact a.nests
  | control c => exact c.nests

theorem Declaration.tokens_ne_nil (d : Declaration) : d.tokens ≠ [] := by
  simp [Declaration.tokens]

theorem Sentence.tokens_ne_nil (s : Sentence) : s.tokens ≠ [] := by
  cases s with
  | declaration d => exact d.tokens_ne_nil
  | assignment a => simp [Sentence.tokens, Assignment.tokens]
  | control c => cases c <;> simp [Sentence.tokens, Control.tokens]

end Grammar

end Progeny

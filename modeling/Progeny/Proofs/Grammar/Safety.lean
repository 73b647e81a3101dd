import Progeny.Proofs.Grammar.Sentence
import Progeny.Proofs.Random.Chance

/-!
# Sentences are drawn safely

Each generator of the grammar draws sentences of its construct and nothing else: what it gives are
the tokens of some derivation tree.  No construct draws out of nothing or tosses a coin that is
none, and whatever words were drawn, each can still come to an end.  An expression and a block take
the number of words that are left as the bound of their nesting; a higher bound changes no result,
so that what they draw does not depend on it.  Each nested part is drawn after a number of its own,
and the zero word gives the number that nests nothing.
-/

namespace Progeny.Draw

variable {α β : Type} {listed : Nat}

/-- Trees of one kind are drawn as trees of another kind that takes them in. -/
theorem Yields.within {Tree Tree' : Type} {draw : Draw α} {tokens : Tree → α} {tokens' : Tree' → α}
    (h : Yields listed draw fun ts => ∃ d, tokens d = ts) (put : Tree → Tree')
    (same : ∀ d, tokens' (put d) = tokens d) :
    Yields listed draw fun ts => ∃ d, tokens' d = ts := by
  refine h.mono fun ts hts => ?_
  obtain ⟨d, rfl⟩ := hts
  exact ⟨put d, same d⟩

end Progeny.Draw

namespace Progeny.Grammar

open Draw

variable {listed : Nat}

/-! ### Tokens -/

theorem yields_shortLength {most : Nat} (positive : 0 < most) :
    Yields listed (shortLength most) (· < most) := by
  refine (yields_below positive).bind fun bound _ => ?_
  refine (yields_below (Nat.succ_pos _)).bind fun length _ => yields_pure ?_
  have := bound.isLt
  have := length.isLt
  omega

theorem yields_fromPool {pool : List String} (some : pool ≠ []) :
    Yields listed (fromPool pool) fun t => ∃ choice : Choice pool, choice.token = t :=
  (yields_member some).bind fun text inside => yields_pure ⟨⟨text, inside⟩, rfl⟩

theorem yields_variableName :
    Yields listed variableName fun t => ∃ name : Name, name.token = t := yields_fromPool (by decide)

theorem yields_operator :
    Yields listed operator fun t => ∃ choice : Choice Lexicon.operators, choice.token = t :=
  yields_fromPool (by decide)

theorem yields_fractionText :
    Yields listed fractionText fun text =>
      ∃ w, Decimal.fixed 2 (Draw.ofWord w * 200.0 - 100.0) = text := by
  refine yields_unit.bind fun x hx => yields_pure ?_
  obtain ⟨w, rfl⟩ := hx
  exact ⟨w, rfl⟩

theorem yields_wholeText :
    Yields listed wholeText fun text => ∃ n : Int, -100 ≤ n ∧ n ≤ 99 ∧ n.repr = text := by
  refine (yields_belowNarrow (by decide)).bind fun n _ => yields_pure ?_
  have := n.isLt
  exact ⟨n - 100, by omega, by omega, rfl⟩

theorem yields_characterText :
    Yields listed characterText fun text =>
      ∃ c ∈ Lexicon.alphabet.toList, "'" ++ c.toString ++ "'" = text := by
  have some : 0 < Lexicon.alphabet.toList.length := by
    rw [Lexicon.alphabet_toList]
    decide
  exact (yields_below some).bind fun i _ => yields_pure ⟨_, List.getElem_mem i.isLt, rfl⟩

theorem yields_literal :
    Yields listed literal fun t => ∃ value : Literal, value.token = t := by
  refine (yields_chance (by decide)).bind fun negated _ => yields_unit.bind fun _ _ => ?_
  refine yields_ite (fun _ => ?_) fun _ => yields_ite (fun _ => ?_) fun _ => ?_
  · refine yields_fractionText.bind fun text htext => yields_pure ?_
    obtain ⟨w, rfl⟩ := htext
    exact ⟨.fraction negated w, rfl⟩
  · refine yields_wholeText.bind fun text htext => yields_pure ?_
    obtain ⟨n, least, most, rfl⟩ := htext
    exact ⟨.whole negated n least most, rfl⟩
  · refine yields_characterText.bind fun text htext => yields_pure ?_
    obtain ⟨c, inside, rfl⟩ := htext
    exact ⟨.character c inside, rfl⟩

theorem yields_stepped : Yields listed stepped fun t => ∃ d : Term, d.token = t := by
  refine yields_unit.bind fun form _ => yields_variableName.bind fun t ht => yields_pure ?_
  obtain ⟨name, rfl⟩ := ht
  split
  · exact ⟨.increment name, rfl⟩
  · split
    · exact ⟨.decrement name, rfl⟩
    · split
      · exact ⟨.incremented name, rfl⟩
      · exact ⟨.decremented name, rfl⟩

theorem yields_negatable : Yields listed negatable fun t => ∃ d : Term, d.token = t := by
  refine yields_unit.bind fun negated _ => yields_variableName.bind fun t ht => yields_pure ?_
  obtain ⟨name, rfl⟩ := ht
  split
  · exact ⟨.negated name, rfl⟩
  · exact ⟨.plain name, rfl⟩

theorem yields_term : Yields listed term fun t => ∃ d : Term, d.token = t := by
  refine yields_unit.bind fun _ _ => yields_ite (fun _ => ?_) fun _ => ?_
  · exact yields_literal.within .literal fun _ => rfl
  · exact yields_unit.bind fun _ _ => yields_ite (fun _ => yields_stepped) fun _ => yields_negatable

/-! ### Repeated parts -/

/-- Parts that were drawn in a row make one tree, where a tree of one part can be put before a tree
of some number of them. -/
theorem exists_row {Tree : Nat → Type} {tokens : {n : Nat} → Tree n → List Token}
    (none : ∃ t : Tree 0, tokens t = [])
    (put : ∀ {n : Nat} (first : Tree 1) (others : Tree n),
      ∃ t : Tree (n + 1), tokens t = tokens first ++ tokens others)
    {parts : List (List Token)} {n : Nat} (count : parts.length = n)
    (h : ∀ ts ∈ parts, ∃ t : Tree 1, tokens t = ts) : ∃ t : Tree n, tokens t = parts.flatten := by
  induction parts generalizing n with
  | nil =>
    subst count
    exact none
  | cons ts rest ih =>
    rw [List.forall_mem_cons] at h
    obtain ⟨⟨first, rfl⟩, later⟩ := h
    obtain ⟨others, same⟩ := ih rfl later
    subst count
    rw [List.flatten_cons, ← same]
    exact put first others

theorem Operations.put {n : Nat} (first : Operations 1) (others : Operations n) :
    ∃ o : Operations (n + 1), o.tokens = first.tokens ++ others.tokens := by
  cases first with
  | term operator right last =>
    cases last
    exact ⟨.term operator right others, rfl⟩
  | nested operator right last =>
    cases last
    exact ⟨.nested operator right others, by simp [Operations.tokens]⟩

theorem Arms.put {n : Nat} (first : Arms 1) (others : Arms n) :
    ∃ a : Arms (n + 1), a.tokens = first.tokens ++ others.tokens := by
  cases first with
  | some value body leaves last =>
    cases last
    exact ⟨.some value body leaves others, by simp [Arms.tokens]⟩

theorem Items.put {n : Nat} (first : Items 1) (others : Items n) :
    ∃ i : Items (n + 1), i.tokens = first.tokens ++ others.tokens := by
  cases first with
  | some item last =>
    cases last
    exact ⟨.some item others, by simp [Items.tokens]⟩

/-! ### Expressions -/

/-- The number that is drawn before a nested expression is one word; the zero word gives a term. -/
theorem yields_operation {nested : Draw (List Token)}
    (h : Yields listed nested fun ts => ∃ e : Expression, e.tokens = ts) :
    Yields (listed + 1) (operation nested) fun ts => ∃ o : Operations 1, o.tokens = ts := by
  have flat {m : Nat} {choice : Choice Lexicon.operators} :
      Yields m (do return [choice.token, ← term]) fun ts => ∃ o : Operations 1, o.tokens = ts := by
    refine yields_term.bind fun t ht => yields_pure ?_
    obtain ⟨right, rfl⟩ := ht
    exact ⟨.term choice right .none, rfl⟩
  refine yields_operator.bind fun t ht => ?_
  obtain ⟨choice, rfl⟩ := ht
  refine yields_unit.bind_reads reads_unit (fun _ _ => yields_ite (fun _ => flat) fun _ => ?_) ?_
  · refine h.bind fun ts hts => yields_pure ?_
    obtain ⟨right, rfl⟩ := hts
    exact ⟨.nested choice right .none, by simp [Operations.tokens]⟩
  · rw [if_pos (by decide)]
    exact flat

theorem approximates_operation {nested nested' : Draw (List Token)}
    (h : Approximates nested nested') : Approximates (operation nested) (operation nested') := by
  refine (approximates_refl _).bind fun _ => (approximates_refl _).bind fun _ => ?_
  exact approximates_ite (approximates_refl _) (h.bind fun _ => approximates_refl _)

/-- An expression of a single term is never put into parentheses. -/
theorem yields_isWrapped (length : Nat) :
    Yields listed (isWrapped length) fun wrapped => wrapped = true → 1 < length :=
  yields_ite (fun several => yields_unit.bind fun _ _ => yields_pure fun _ => several)
    fun _ => yields_pure fun no => Bool.noConfusion no

theorem yields_expressionWithin (depth : Nat) :
    Yields depth (expressionWithin depth) fun ts => ∃ e : Expression, e.tokens = ts := by
  induction depth with
  | zero => exact yields_dry
  | succ depth ih =>
    refine (yields_shortLength (by decide)).bind fun length bound => ?_
    refine (yields_isWrapped length).bind fun wrapped several => yields_term.bind fun t ht => ?_
    refine (yields_replicate (yields_operation ih) _).bind fun parts hparts => yields_pure ?_
    obtain ⟨first, rfl⟩ := ht
    obtain ⟨count, each⟩ := hparts
    cases wrapped with
    | false =>
      obtain ⟨others, same⟩ := exists_row ⟨.none, rfl⟩ Operations.put count each
      exact ⟨.bare first others (by omega), by simp [Expression.tokens, same]⟩
    | true =>
      have more : 1 < length := several rfl
      have count : parts.length = length - 2 + 1 := by omega
      obtain ⟨others, same⟩ := exists_row ⟨.none, rfl⟩ Operations.put count each
      exact ⟨.wrapped first others (by omega), by simp [Expression.tokens, inParentheses, same]⟩

theorem approximates_expressionWithin (depth : Nat) :
    Approximates (expressionWithin depth) (expressionWithin (depth + 1)) := by
  induction depth with
  | zero => exact approximates_dry _
  | succ depth ih =>
    refine (approximates_refl _).bind fun _ => (approximates_refl _).bind fun _ => ?_
    refine (approximates_refl _).bind fun _ => ?_
    exact (approximates_replicate (approximates_operation ih) _).bind fun _ => approximates_refl _

theorem yields_expression :
    Yields listed expression fun ts => ∃ e : Expression, e.tokens = ts :=
  yields_bounded yields_expressionWithin approximates_expressionWithin

/-! ### Declarations and assignments -/

theorem yields_modifiers :
    Yields listed modifiers fun ts =>
      ∃ m : Option (Choice Lexicon.modifiers), (m.map Choice.token).toList = ts := by
  refine yields_unit.bind fun _ _ => yields_ite (fun _ => ?_) fun _ => yields_pure ⟨none, rfl⟩
  refine (yields_fromPool (by decide)).bind fun t ht => yields_pure ?_
  obtain ⟨choice, rfl⟩ := ht
  exact ⟨some choice, rfl⟩

theorem yields_initializer :
    Yields listed initializer fun ts => ∃ i : Initializer, i.tokens = ts := by
  refine yields_unit.bind fun _ _ => yields_ite (fun _ => ?_) fun _ =>
    yields_ite (fun _ => ?_) fun _ => yields_pure ⟨.none, rfl⟩
  · refine yields_expression.bind fun ts hts => ?_
    refine yields_term.bind fun t ht => yields_term.bind fun t' ht' => yields_pure ?_
    obtain ⟨condition, rfl⟩ := hts
    obtain ⟨whenTrue, rfl⟩ := ht
    obtain ⟨whenFalse, rfl⟩ := ht'
    exact ⟨.choice condition whenTrue whenFalse, rfl⟩
  · refine yields_expression.bind fun ts hts => yields_pure ?_
    obtain ⟨value, rfl⟩ := hts
    exact ⟨.value value, rfl⟩

theorem yields_declaration :
    Yields listed declaration fun ts => ∃ d : Declaration, d.tokens = ts := by
  refine yields_modifiers.bind fun before hbefore => ?_
  refine (yields_fromPool (by decide)).bind fun type htype => ?_
  refine yields_variableName.bind fun name hname => ?_
  refine yields_initializer.bind fun value hvalue => yields_pure ?_
  obtain ⟨modifier, rfl⟩ := hbefore
  obtain ⟨type, rfl⟩ := htype
  obtain ⟨name, rfl⟩ := hname
  obtain ⟨value, rfl⟩ := hvalue
  exact ⟨⟨modifier, type, name, value⟩, rfl⟩

theorem yields_assignment :
    Yields listed assignment fun ts => ∃ a : Assignment, a.tokens = ts := by
  refine yields_variableName.bind fun t ht => yields_expression.bind fun ts hts => yields_pure ?_
  obtain ⟨name, rfl⟩ := ht
  obtain ⟨value, rfl⟩ := hts
  exact ⟨⟨name, value⟩, rfl⟩

theorem yields_condition :
    Yields listed condition fun ts => ∃ e : Expression, e.condition = ts := by
  refine yields_expression.bind fun ts hts => yields_pure ?_
  obtain ⟨e, rfl⟩ := hts
  exact ⟨e, rfl⟩

/-! ### Control statements and blocks -/

section Nesting

variable {block block' : Draw (List Token)}

theorem yields_switchArm (h : Yields listed block fun ts => ∃ b : Block, b.tokens = ts) :
    Yields listed (switchArm block) fun ts => ∃ a : Arms 1, a.tokens = ts := by
  refine yields_literal.bind fun t ht => h.bind fun ts hts => ?_
  refine yields_unit.bind fun leave _ => yields_pure ?_
  obtain ⟨value, rfl⟩ := ht
  obtain ⟨body, rfl⟩ := hts
  exact ⟨.some value body (leave < 0.5) .none, by simp [Arms.tokens]⟩

theorem approximates_switchArm (h : Approximates block block') :
    Approximates (switchArm block) (switchArm block') :=
  (approximates_refl _).bind fun _ => h.bind fun _ => approximates_refl _

theorem yields_defaultArm (h : Yields listed block fun ts => ∃ b : Block, b.tokens = ts) :
    Yields listed (defaultArm block) fun ts => ∃ a : DefaultArm, a.tokens = ts := by
  refine yields_unit.bind fun _ _ => yields_ite (fun _ => ?_) fun _ => yields_pure ⟨.none, rfl⟩
  refine h.bind fun ts hts => yields_pure ?_
  obtain ⟨body, rfl⟩ := hts
  exact ⟨.some body, rfl⟩

theorem approximates_defaultArm (h : Approximates block block') :
    Approximates (defaultArm block) (defaultArm block') :=
  (approximates_refl _).bind fun _ =>
    approximates_ite (h.bind fun _ => approximates_refl _) (approximates_refl _)

theorem yields_switchStatement (h : Yields listed block fun ts => ∃ b : Block, b.tokens = ts) :
    Yields listed (switchStatement block) fun ts => ∃ c : Control, c.tokens = ts := by
  refine yields_variableName.bind fun t ht => ?_
  refine (yields_shortLength (by decide)).bind fun length bound => ?_
  refine (yields_replicate (yields_switchArm h) length).bind fun parts hparts => ?_
  refine (yields_defaultArm h).bind fun ts hts => yields_pure ?_
  obtain ⟨name, rfl⟩ := ht
  obtain ⟨arms, same⟩ := exists_row ⟨.none, rfl⟩ Arms.put hparts.1 hparts.2
  obtain ⟨others, rfl⟩ := hts
  exact ⟨.switch name arms (by omega) others, by simp [Control.tokens, same]⟩

theorem approximates_switchStatement (h : Approximates block block') :
    Approximates (switchStatement block) (switchStatement block') := by
  refine (approximates_refl _).bind fun _ => (approximates_refl _).bind fun count => ?_
  refine (approximates_replicate (approximates_switchArm h) count).bind fun _ => ?_
  exact (approximates_defaultArm h).bind fun _ => approximates_refl _

theorem yields_controlOf (h : Yields listed block fun ts => ∃ b : Block, b.tokens = ts) :
    Yields listed (controlOf block) fun ts => ∃ c : Control, c.tokens = ts := by
  refine yields_unit.bind fun _ _ => yields_ite (fun _ => ?_) fun _ => yields_ite (fun _ => ?_)
    fun _ => yields_ite (fun _ => ?_) fun _ => yields_ite (fun _ => ?_) fun _ => ?_
  · refine yields_condition.bind fun test htest => h.bind fun body hbody => yields_pure ?_
    obtain ⟨test, rfl⟩ := htest
    obtain ⟨body, rfl⟩ := hbody
    exact ⟨.ifThen test body, rfl⟩
  · refine yields_declaration.bind fun first hfirst => yields_expression.bind fun test htest => ?_
    refine yields_expression.bind fun step hstep => h.bind fun body hbody => yields_pure ?_
    obtain ⟨first, rfl⟩ := hfirst
    obtain ⟨test, rfl⟩ := htest
    obtain ⟨step, rfl⟩ := hstep
    obtain ⟨body, rfl⟩ := hbody
    exact ⟨.forLoop first test step body, rfl⟩
  · refine yields_condition.bind fun test htest => h.bind fun body hbody => yields_pure ?_
    obtain ⟨test, rfl⟩ := htest
    obtain ⟨body, rfl⟩ := hbody
    exact ⟨.whileLoop test body, rfl⟩
  · refine h.bind fun body hbody => yields_condition.bind fun test htest => yields_pure ?_
    obtain ⟨body, rfl⟩ := hbody
    obtain ⟨test, rfl⟩ := htest
    exact ⟨.doWhile body test, rfl⟩
  · exact yields_switchStatement h

theorem approximates_controlOf (h : Approximates block block') :
    Approximates (controlOf block) (controlOf block') := by
  refine (approximates_refl _).bind fun _ => approximates_ite ?_ (approximates_ite ?_
    (approximates_ite ?_ (approximates_ite ?_ ?_)))
  · exact (approximates_refl _).bind fun _ => h.bind fun _ => approximates_refl _
  · refine (approximates_refl _).bind fun _ => (approximates_refl _).bind fun _ => ?_
    exact (approximates_refl _).bind fun _ => h.bind fun _ => approximates_refl _
  · exact (approximates_refl _).bind fun _ => h.bind fun _ => approximates_refl _
  · exact h.bind fun _ => approximates_refl _
  · exact approximates_switchStatement h

end Nesting

/-- The number that is drawn before a control statement is one word; the zero word gives a
declaration. -/
theorem yields_item {control : Draw (List Token)}
    (h : Yields listed control fun ts => ∃ c : Control, c.tokens = ts) :
    Yields (listed + 1) (item control) fun ts => ∃ i : Items 1, i.tokens = ts := by
  have one (i : Item) : (Items.some i .none).tokens = i.tokens := by simp [Items.tokens]
  have declared {m : Nat} : Yields m declaration fun ts => ∃ i : Items 1, i.tokens = ts :=
    yields_declaration.within (fun d => .some (.declaration d) .none) fun _ => one _
  refine yields_unit.bind_reads reads_unit (fun _ _ => ?_) ?_
  · refine yields_ite (fun _ => declared) fun _ => yields_ite (fun _ => ?_) fun _ =>
      yields_ite (fun _ => ?_) fun _ => ?_
    · refine yields_expression.bind fun ts hts => yields_pure ?_
      obtain ⟨e, rfl⟩ := hts
      exact ⟨_, one (.expression e)⟩
    · refine (yields_fromPool (by decide)).bind fun t ht => yields_pure ?_
      obtain ⟨branch, rfl⟩ := ht
      exact ⟨_, one (.branch branch)⟩
    · exact h.within (fun c => .some (.control c) .none) fun _ => one _
  · rw [if_pos (by decide)]
    exact declared

theorem approximates_item {control control' : Draw (List Token)}
    (h : Approximates control control') : Approximates (item control) (item control') := by
  refine (approximates_refl _).bind fun _ => approximates_ite (approximates_refl _) ?_
  exact approximates_ite (approximates_refl _) (approximates_ite (approximates_refl _) h)

theorem yields_blockWithin (depth : Nat) :
    Yields depth (blockWithin depth) fun ts => ∃ b : Block, b.tokens = ts := by
  induction depth with
  | zero => exact yields_dry
  | succ depth ih =>
    refine (yields_shortLength (by decide)).bind fun length bound => ?_
    refine (yields_replicate (yields_item (yields_controlOf ih)) (length + 1)).bind
      fun parts hparts => yields_pure ?_
    obtain ⟨items, same⟩ := exists_row ⟨.none, rfl⟩ Items.put hparts.1 hparts.2
    exact ⟨.mk items (by omega), by simp [Block.tokens, same]⟩

theorem approximates_blockWithin (depth : Nat) :
    Approximates (blockWithin depth) (blockWithin (depth + 1)) := by
  induction depth with
  | zero => exact approximates_dry _
  | succ depth ih =>
    refine (approximates_refl _).bind fun length => ?_
    have items := approximates_item (approximates_controlOf ih)
    exact (approximates_replicate items (length + 1)).bind fun _ => approximates_refl _

theorem yields_block : Yields listed block fun ts => ∃ b : Block, b.tokens = ts :=
  yields_bounded yields_blockWithin approximates_blockWithin

theorem yields_control : Yields listed control fun ts => ∃ c : Control, c.tokens = ts :=
  yields_controlOf yields_block

theorem yields_statement : Yields listed statement fun ts => ∃ s : Sentence, s.tokens = ts := by
  refine yields_unit.bind fun _ _ => yields_ite (fun _ => ?_) fun _ => yields_ite (fun _ => ?_)
    fun _ => ?_
  · exact yields_declaration.within .declaration fun _ => rfl
  · exact yields_assignment.within .assignment fun _ => rfl
  · exact yields_control.within .control fun _ => rfl

theorem yields_token : Yields listed token fun t => ∃ s : Single, s.token = t := by
  refine yields_unit.bind fun _ _ => yields_ite (fun _ => ?_) fun _ => yields_ite (fun _ => ?_)
    fun _ => yields_ite (fun _ => ?_) fun _ => ?_
  · exact (yields_fromPool (by decide)).within .keyword fun _ => rfl
  · exact yields_operator.within .operator fun _ => rfl
  · exact yields_variableName.within .name fun _ => rfl
  · exact yields_literal.within .literal fun _ => rfl

end Progeny.Grammar

import Progeny.Proofs.Breeding
import Progeny.Proofs.Grammar.Completeness

/-!
# The language of the generators

What a generator draws is exactly the language of its construct: whenever it comes to an end, it
gives the tokens of a derivation tree, and every tree is what it draws from some words.  And no
words keep it from an end: a generator that reads zero words after them takes the shortest way out
of everything that it has begun.

A program of `k` statements is refused when there is no room for so many.  What is said of programs
is said of the draws of its statements, for every `k`, and of the whole, where it is not refused.
-/

namespace Progeny.Grammar

open Draw

/-- The literals are the texts that are drawn as literals. -/
theorem literal_iff (t : Token) :
    (∃ value : Literal, value.token = t) ↔ ∃ source rest, literal source = .ok (t, rest) := by
  constructor
  · rintro ⟨value, rfl⟩
    obtain ⟨words, spells⟩ := value.reached.spelled
    exact ⟨_, _, spells [] .zero 0⟩
  · rintro ⟨source, rest, drawn⟩
    exact (yields_literal : Yields 0 literal _).result drawn

/-- Whatever words are drawn, each generator that comes to an end gives a sentence of its own
construct.  The operands of these sentences are among the texts that are drawn as literals. -/
theorem drawn_in_grammar (source rest : Words) :
    (∀ t, (∃ value : Literal, value.token = t) ↔ ∃ source rest, literal source = .ok (t, rest)) ∧
    (∀ ts, expression source = .ok (ts, rest) → ∃ e : Expression, e.tokens = ts) ∧
    (∀ ts, declaration source = .ok (ts, rest) → ∃ d : Declaration, d.tokens = ts) ∧
    (∀ ts, assignment source = .ok (ts, rest) → ∃ a : Assignment, a.tokens = ts) ∧
    (∀ ts, control source = .ok (ts, rest) → ∃ c : Control, c.tokens = ts) ∧
    (∀ ts, block source = .ok (ts, rest) → ∃ b : Block, b.tokens = ts) ∧
    (∀ s, Statement.random source = .ok (s, rest) → ∃ d : Sentence, d.tokens = s.tokens) ∧
    (∀ k p, Program.randomWith (declared k) k source = .ok (p, rest) →
      p.size = k ∧ ∃ body : Body k, p = .ofStatements body.statements) ∧
    (∀ k p, Program.random k source = .ok (p, rest) →
      p.size = k ∧ ∃ body : Body k, p = .ofStatements body.statements) := by
  have whole (k : ℕ) (p : Program)
      (drawn : Program.randomWith (declared k) k source = .ok (p, rest)) :
      p.size = k ∧ ∃ body : Body k, p = .ofStatements body.statements := by
    obtain ⟨body, rfl⟩ := (Program.yields_randomWith k : Yields 0 _ _).result drawn
    exact ⟨body.length_statements, body, rfl⟩
  refine ⟨literal_iff, fun ts => (yields_expression : Yields 0 expression _).result,
    fun ts => (yields_declaration : Yields 0 declaration _).result,
    fun ts => (yields_assignment : Yields 0 assignment _).result,
    fun ts => (yields_control : Yields 0 control _).result,
    fun ts => (yields_block : Yields 0 block _).result, fun s drawn => ?_, whole,
    fun k p drawn => ?_⟩
  · obtain ⟨d, rfl⟩ := (Statement.yields_random : Yields 0 Statement.random _).result drawn
    exact ⟨d, rfl⟩
  · rw [Program.random_of_room (Program.room_of_random drawn)] at drawn
    exact whole k p drawn

example : assignment (.thenZeros [] 7) =
    .ok ([⟨"i"⟩, ⟨"="⟩, ⟨"--100.00"⟩, ⟨";"⟩], .thenZeros [] 0) := by decide +kernel

/-- Every sentence of every construct, of any depth, is drawn from some words, which are all that
is read. -/
theorem sentences_drawn :
    (∀ t, (∃ value : Literal, value.token = t) ↔ ∃ source rest, literal source = .ok (t, rest)) ∧
    (∀ e : Expression, ∃ words, Spells expression words e.tokens) ∧
    (∀ d : Declaration, ∃ words, Spells declaration words d.tokens) ∧
    (∀ a : Assignment, ∃ words, Spells assignment words a.tokens) ∧
    (∀ c : Control, ∃ words, Spells control words c.tokens) ∧
    (∀ b : Block, ∃ words, Spells block words b.tokens) ∧
    (∀ s : Sentence, ∃ words, Spells Statement.random words ⟨s.tokens⟩) ∧
    (∀ k (body : Body k), ∃ words,
      Spells (Program.randomWith (declared k) k) words (.ofStatements body.statements)) ∧
    (∀ k ≤ Program.maxStatements, ∀ body : Body k, ∃ words,
      Spells (Program.random k) words (.ofStatements body.statements)) := by
  refine ⟨literal_iff, fun e => e.drawn.spelled, fun d => d.reached.spelled,
    fun a => a.reached.spelled, fun c => c.drawn.spelled, fun b => b.drawn.spelled,
    fun s => s.drawn.spelled, fun _ body => body.reached.spelled, fun k room body => ?_⟩
  rw [Program.random_of_room room]
  exact body.reached.spelled

/-- Out of the numbers below a bound, a zero word gives the lowest one, and no other word is
read. -/
theorem below_zero (n more : Nat) :
    below (n + 1) (.thenZeros [] (more + 1)) = .ok (0, .thenZeros [] more) ∧
      belowNarrow (n + 1) (.thenZeros [] (more + 1)) = .ok (0, .thenZeros [] more) := by
  have positive := Nat.succ_pos n
  constructor
  · unfold below
    rw [if_neg (Nat.succ_ne_zero n)]
    exact untilAccepted_zero (scale?_zero positive _) more
  · unfold belowNarrow
    rw [if_neg (Nat.succ_ne_zero n)]
    exact untilAccepted_zero (scale?_zero positive _) more

/-- Every generator finishes, whatever words it is given before it is given zero words, each of
which is accepted as the lowest of the numbers that it can stand for.  So do the draws of the
statements of a program of any size; a program that there is no room for is refused before a word is
read. -/
theorem generators_finish :
    (∀ n more, below (n + 1) (.thenZeros [] (more + 1)) = .ok (0, .thenZeros [] more) ∧
      belowNarrow (n + 1) (.thenZeros [] (more + 1)) = .ok (0, .thenZeros [] more)) ∧
    Finishes keyword ∧ Finishes variableName ∧ Finishes operator ∧ Finishes typeName ∧
    Finishes modifier ∧ Finishes literal ∧ Finishes term ∧ Finishes Grammar.token ∧
    Finishes expression ∧ Finishes declaration ∧ Finishes assignment ∧ Finishes control ∧
    Finishes block ∧ Finishes Statement.random ∧
    (∀ k, Finishes (Program.randomWith (declared k) k)) ∧
    (∀ k ≤ Program.maxStatements, Finishes (Program.random k)) ∧
    (∀ k, Program.maxStatements < k →
      ∃ failure, failure ≠ .dry ∧ ∀ source, Program.random k source = .error failure) := by
  have pool {pool : List String} (some : pool ≠ []) : Finishes (fromPool pool) :=
    Yields.finishes fun _ => yields_fromPool some
  refine ⟨below_zero, pool (by decide), pool (by decide), pool (by decide), pool (by decide),
    pool (by decide), ?_, ?_, ?_, ?_, ?_, ?_, ?_, ?_, ?_, fun k => ?_, fun k room => ?_,
    fun k crowded => ⟨_, ?_, Program.random_of_no_room crowded⟩⟩
  · exact Yields.finishes fun _ => yields_literal
  · exact Yields.finishes fun _ => yields_term
  · exact Yields.finishes fun _ => yields_token
  · exact Yields.finishes fun _ => yields_expression
  · exact Yields.finishes fun _ => yields_declaration
  · exact Yields.finishes fun _ => yields_assignment
  · exact Yields.finishes fun _ => yields_control
  · exact Yields.finishes fun _ => yields_block
  · exact Yields.finishes fun _ => Statement.yields_random
  · exact Yields.finishes fun _ => Program.yields_randomWith k
  · exact Yields.finishes fun _ => Program.yields_random room
  · split <;> nofun

end Progeny.Grammar

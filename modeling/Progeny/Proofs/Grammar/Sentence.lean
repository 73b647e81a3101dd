import Progeny.Program.Random

/-!
# Derivation trees

The grammar by itself, apart from how its sentences are drawn: one type of trees for each construct,
and the tokens that a tree stands for.  A tree carries the bounds on its numbers of parts, so that
every tree is one of the grammar.  Repeated parts are counted in the type of their list.
-/

namespace Progeny

theorem Lexicon.alphabet_toList : alphabet.toList =
    ['0', '1', '2', '3', '4', '5', '6', '7', '8', '9',
      'A', 'B', 'C', 'D', 'E', 'F', 'G', 'H', 'I', 'J', 'K', 'L', 'M',
      'N', 'O', 'P', 'Q', 'R', 'S', 'T', 'U', 'V', 'W', 'X', 'Y', 'Z',
      'a', 'b', 'c', 'd', 'e', 'f', 'g', 'h', 'i', 'j', 'k', 'l', 'm',
      'n', 'o', 'p', 'q', 'r', 's', 't', 'u', 'v', 'w', 'x', 'y', 'z'] := String.toList_ofList

namespace Grammar

/-! ### Terms -/

/-- A text out of a pool. -/
abbrev Choice (pool : List String) : Type := { text : String // text ∈ pool }

def Choice.token {pool : List String} (choice : Choice pool) : Token := ⟨choice.val⟩

/-- A name of a variable. -/
abbrev Name : Type := Choice Lexicon.variableNames

/-- A literal: a number with two decimal places, a whole number, or a character.  Both kinds of
numbers can have a minus sign before their own. -/
inductive Literal where
  /-- The number that a word stands for, from `[0, 1)` stretched to `[-100, 100)`. -/
  | fraction (negated : Bool) (word : UInt64)
  | whole (negated : Bool) (n : Int) (least : -100 ≤ n) (most : n ≤ 99)
  | character (c : Char) (inside : c ∈ Lexicon.alphabet.toList)

/-- The sign before a number. -/
def signText (negated : Bool) : String := if negated then "-" else ""

def Literal.token : Literal → Token
  | fraction negated word =>
    ⟨signText negated ++ Decimal.fixed 2 (Draw.ofWord word * 200.0 - 100.0)⟩
  | whole negated n _ _ => ⟨signText negated ++ n.repr⟩
  | character c _ => ⟨"'" ++ c.toString ++ "'"⟩

/-- A single operand. -/
inductive Term where
  | literal (value : Literal)
  | plain (name : Name)
  /-- Counted up before its use. -/
  | increment (name : Name)
  /-- Counted down before its use. -/
  | decrement (name : Name)
  /-- Counted up after its use. -/
  | incremented (name : Name)
  /-- Counted down after its use. -/
  | decremented (name : Name)
  | negated (name : Name)

def Term.token : Term → Token
  | literal value => value.token
  | plain name => name.token
  | increment name => ⟨"++" ++ name.val⟩
  | decrement name => ⟨"--" ++ name.val⟩
  | incremented name => ⟨name.val ++ "++"⟩
  | decremented name => ⟨name.val ++ "--"⟩
  | negated name => ⟨"!" ++ name.val⟩

/-- What stands by itself when single tokens are drawn. -/
inductive Single where
  | keyword (choice : Choice Lexicon.keywords)
  | operator (choice : Choice Lexicon.operators)
  | name (choice : Name)
  | literal (value : Literal)

def Single.token : Single → Token
  | keyword choice => choice.token
  | operator choice => choice.token
  | name choice => choice.token
  | literal value => value.token

/-! ### Expressions -/

mutual

/-- A term and up to six operations on it; only with an operation may parentheses stand around. -/
inductive Expression : Type where
  | bare {n : Nat} (first : Term) (others : Operations n) (few : n ≤ 6)
  | wrapped {n : Nat} (first : Term) (others : Operations (n + 1)) (few : n + 1 ≤ 6)

/-- Binary operators, each with its right operand, which is a term or an expression. -/
inductive Operations : Nat → Type where
  | none : Operations 0
  | term {n : Nat} (operator : Choice Lexicon.operators) (right : Term) (others : Operations n) :
      Operations (n + 1)
  | nested {n : Nat} (operator : Choice Lexicon.operators) (right : Expression)
      (others : Operations n) : Operations (n + 1)

end

mutual

def Expression.tokens : Expression → List Token
  | .bare first others _ => first.token :: others.tokens
  | .wrapped first others _ => ("(" : Token) :: first.token :: others.tokens ++ [(")" : Token)]

def Operations.tokens {n : Nat} : Operations n → List Token
  | .none => []
  | .term operator right others => operator.token :: right.token :: others.tokens
  | .nested operator right others => operator.token :: right.tokens ++ others.tokens

end

/-! ### Declarations and assignments -/

/-- What a declared variable begins with. -/
inductive Initializer where
  | none
  | value (expression : Expression)
  /-- One of two terms, by a condition. -/
  | choice (condition : Expression) (whenTrue whenFalse : Term)

def Initializer.tokens : Initializer → List Token
  | none => []
  | value expression => ("=" : Token) :: expression.tokens
  | choice condition whenTrue whenFalse =>
    ("=" : Token) :: condition.tokens ++
      [("?" : Token), whenTrue.token, (":" : Token), whenFalse.token]

structure Declaration where
  modifier : Option (Choice Lexicon.modifiers)
  type : Choice Lexicon.types
  name : Name
  value : Initializer

def Declaration.tokens (d : Declaration) : List Token :=
  (d.modifier.map Choice.token).toList ++ [d.type.token, d.name.token] ++ d.value.tokens ++
    [(";" : Token)]

structure Assignment where
  name : Name
  value : Expression

def Assignment.tokens (a : Assignment) : List Token :=
  [a.name.token, ("=" : Token)] ++ a.value.tokens ++ [(";" : Token)]

/-! ### Control statements and blocks -/

mutual

/-- One to six items in braces. -/
inductive Block : Type where
  | mk {n : Nat} (items : Items (n + 1)) (few : n + 1 ≤ 6)

inductive Items : Nat → Type where
  | none : Items 0
  | some {n : Nat} (first : Item) (others : Items n) : Items (n + 1)

inductive Item : Type where
  | declaration (d : Declaration)
  | expression (e : Expression)
  | branch (b : Choice Lexicon.branches)
  | control (c : Control)

inductive Control : Type where
  | ifThen (test : Expression) (body : Block)
  | forLoop (first : Declaration) (test step : Expression) (body : Block)
  | whileLoop (test : Expression) (body : Block)
  | doWhile (body : Block) (test : Expression)
  | switch {n : Nat} (name : Name) (arms : Arms n) (few : n ≤ 9) (others : DefaultArm)

/-- The arms of a switch, some of which end by leaving it. -/
inductive Arms : Nat → Type where
  | none : Arms 0
  | some {n : Nat} (value : Literal) (body : Block) (leaves : Bool) (others : Arms n) : Arms (n + 1)

/-- The arm of a switch for all other values, if it has one. -/
inductive DefaultArm : Type where
  | none
  | some (body : Block)

end

/-- An expression in parentheses of its own, as after `if` and `while`. -/
def Expression.condition (e : Expression) : List Token :=
  ("(" : Token) :: e.tokens ++ [(")" : Token)]

mutual

def Block.tokens : Block → List Token
  | .mk items _ => (Lexicon.blockOpen : Token) :: items.tokens ++ [(Lexicon.blockClose : Token)]

def Items.tokens {n : Nat} : Items n → List Token
  | .none => []
  | .some first others => first.tokens ++ others.tokens

def Item.tokens : Item → List Token
  | .declaration d => d.tokens
  | .expression e => e.tokens ++ [(";" : Token)]
  | .branch b => [b.token]
  | .control c => c.tokens

def Control.tokens : Control → List Token
  | .ifThen test body => ("if" : Token) :: test.condition ++ body.tokens
  | .forLoop first test step body =>
    [("for" : Token), ("(" : Token)] ++ first.tokens ++ test.tokens ++ [(";" : Token)] ++
      step.tokens ++ [(")" : Token)] ++ body.tokens
  | .whileLoop test body => ("while" : Token) :: test.condition ++ body.tokens
  | .doWhile body test =>
    ("do" : Token) :: body.tokens ++ [("while" : Token)] ++ test.condition ++ [(";" : Token)]
  | .switch name arms _ others =>
    [("switch" : Token), ("(" : Token), name.token, (")" : Token), (Lexicon.blockOpen : Token)] ++
      arms.tokens ++ others.tokens ++ [(Lexicon.blockClose : Token)]

def Arms.tokens {n : Nat} : Arms n → List Token
  | .none => []
  | .some value body leaves others =>
    [("case" : Token), value.token, (":" : Token)] ++ body.tokens ++
      (if leaves then [("break;" : Token)] else []) ++ others.tokens

def DefaultArm.tokens : DefaultArm → List Token
  | .none => []
  | .some body => [("default" : Token), (":" : Token)] ++ body.tokens

end

/-- A statement. -/
inductive Sentence where
  | declaration (d : Declaration)
  | assignment (a : Assignment)
  | control (c : Control)

def Sentence.tokens : Sentence → List Token
  | declaration d => d.tokens
  | assignment a => a.tokens
  | control c => c.tokens

/-! ### Whole programs -/

/-- The statements of a new program of `k` statements. -/
structure Body (k : Nat) where
  declarations : List Declaration
  sentences : List Sentence
  first : declarations.length = declared k
  rest : sentences.length = k - declared k

def Body.statements {k : Nat} (body : Body k) : List Statement :=
  body.declarations.map (fun d => ⟨d.tokens⟩) ++ body.sentences.map fun s => ⟨s.tokens⟩

end Grammar

end Progeny

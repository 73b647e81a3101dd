import Progeny.Decimal.Fixed
import Progeny.Lexicon
import Progeny.Random.Draw

/-!
# Random sentences of a C-like grammar

Each construct is drawn by a chain of comparisons of one number in `[0, 1)` with fixed thresholds,
and lengths are drawn twice over, which makes short ones far more likely.  The thresholds and the
order of the draws fix what a seed generates.  An expression may hold expressions and a block may
hold blocks; every level reads words before it opens the next, so that nesting is bounded by the
words that the source has left.
-/

namespace Progeny.Grammar

/-- A number below a bound that is itself drawn from 1 to `most`. -/
def shortLength (most : Nat) : Draw Nat := do
  let bound ← Draw.below most
  return (← Draw.below (bound + 1)).val

/-- A token out of a pool. -/
def fromPool (pool : List String) : Draw Token := do return ⟨← Draw.member pool⟩

/-- A keyword. -/
def keyword : Draw Token := fromPool Lexicon.keywords

/-- A variable name. -/
def variableName : Draw Token := fromPool Lexicon.variableNames

/-- A binary operator. -/
def operator : Draw Token := fromPool Lexicon.operators

/-- A type. -/
def typeName : Draw Token := fromPool Lexicon.types

/-- A modifier of a type. -/
def modifier : Draw Token := fromPool Lexicon.modifiers

/-- A number with two decimal places, from -100 up to 100. -/
def fractionText : Draw String := do
  return Decimal.fixed 2 ((← Draw.unit) * 200.0 - 100.0)

/-- A whole number, from -100 up to 99. -/
def wholeText : Draw String := do
  let n ← Draw.belowNarrow 200
  return ((n.val : Int) - 100).repr

/-- A letter or digit in quotes. -/
def characterText : Draw String := do
  let alphabet := Lexicon.alphabet.toList
  let c := alphabet.get (← Draw.below alphabet.length)
  return "'" ++ c.toString ++ "'"

/-- A literal: half of them with a fraction, four in ten whole, the others characters.  One number
in ten has a minus sign before its own. -/
def literal : Draw Token := do
  let sign := if ← Draw.chance 0.1 then "-" else ""
  let roll ← Draw.unit
  if roll < 0.5 then return ⟨sign ++ (← fractionText)⟩
  else if roll < 0.9 then return ⟨sign ++ (← wholeText)⟩
  else return ⟨← characterText⟩

/-- Any token: a keyword, an operator, a variable or a literal. -/
def token : Draw Token := do
  let roll ← Draw.unit
  if roll < 0.5 then keyword
  else if roll < 0.6 then operator
  else if roll < 0.8 then variableName
  else literal

/-- A variable that is counted up or down, before or after its use. -/
def stepped : Draw Token := do
  let form ← Draw.unit
  let name ← variableName
  return if form < 0.25 then ⟨"++" ++ name.text⟩
    else if form < 0.5 then ⟨"--" ++ name.text⟩
    else if form < 0.75 then ⟨name.text ++ "++"⟩
    else ⟨name.text ++ "--"⟩

/-- A variable, one time in ten with a negation sign. -/
def negatable : Draw Token := do
  let negated ← Draw.unit
  let name ← variableName
  return if negated < 0.1 then ⟨"!" ++ name.text⟩ else name

/-- A term: a literal or a variable. -/
def term : Draw Token := do
  if (← Draw.unit) < 0.5 then literal
  else if (← Draw.unit) < 0.1 then stepped
  else negatable

/-- An operator and what stands to its right: a term or a nested expression. -/
def operation (nested : Draw (List Token)) : Draw (List Token) := do
  let op ← operator
  if (← Draw.unit) < 0.5 then return [op, ← term]
  else return op :: (← nested)

/-- Whether an expression of `length` terms is put into parentheses; one of a single term never
is, and nothing is drawn for it. -/
def isWrapped (length : Nat) : Draw Bool := do
  if length > 1 then return decide ((← Draw.unit) < 0.33)
  else return false

/-- Tokens in parentheses. -/
def inParentheses (tokens : List Token) : List Token := ("(" : Token) :: tokens ++ [(")" : Token)]

/-- An expression, nested less than `depth` deep. -/
def expressionWithin : Nat → Draw (List Token)
  | 0 => throw .dry
  | depth + 1 => do
    let length ← shortLength 8
    let wrapped ← isWrapped length
    let first ← term
    let others ← Draw.replicate (length - 1) (operation (expressionWithin depth))
    let tokens := first :: others.flatten
    return if wrapped then inParentheses tokens else tokens

/-- An infix expression of one to seven terms or nested expressions. -/
def expression : Draw (List Token) := fun source => expressionWithin source.remaining source

/-- A modifier, one time in four. -/
def modifiers : Draw (List Token) := do
  if (← Draw.unit) < 0.25 then return [← modifier] else return []

/-- How a declared variable begins: with a choice, with an expression, or with nothing. -/
def initializer : Draw (List Token) := do
  let roll ← Draw.unit
  if roll < 0.1 then
    let condition ← expression
    let whenTrue ← term
    let whenFalse ← term
    return ("=" : Token) :: condition ++ [("?" : Token), whenTrue, (":" : Token), whenFalse]
  else if roll < 0.6 then return ("=" : Token) :: (← expression)
  else return []

/-- A variable declaration. -/
def declaration : Draw (List Token) := do
  let before ← modifiers
  let type ← typeName
  let name ← variableName
  let value ← initializer
  return before ++ [type, name] ++ value ++ [(Lexicon.terminator : Token)]

/-- An assignment. -/
def assignment : Draw (List Token) := do
  let name ← variableName
  let value ← expression
  return [name, ("=" : Token)] ++ value ++ [(Lexicon.terminator : Token)]

/-- An expression in parentheses. -/
def condition : Draw (List Token) := do return inParentheses (← expression)

/-- One arm of a switch. -/
def switchArm (block : Draw (List Token)) : Draw (List Token) := do
  let value ← literal
  let body ← block
  let leave ← Draw.unit
  let leaving := if leave < 0.5 then [("break;" : Token)] else []
  return [("case" : Token), value, (":" : Token)] ++ body ++ leaving

/-- The arm of a switch for all other values, one time in four. -/
def defaultArm (block : Draw (List Token)) : Draw (List Token) := do
  if (← Draw.unit) < 0.25 then return [("default" : Token), (":" : Token)] ++ (← block)
  else return []

/-- A switch with up to nine arms. -/
def switchStatement (block : Draw (List Token)) : Draw (List Token) := do
  let name ← variableName
  let count ← shortLength 10
  let arms ← Draw.replicate count (switchArm block)
  let others ← defaultArm block
  return [("switch" : Token), ("(" : Token), name, (")" : Token), (Lexicon.blockOpen : Token)] ++
    arms.flatten ++ others ++ [(Lexicon.blockClose : Token)]

/-- A control statement with blocks from `block`. -/
def controlOf (block : Draw (List Token)) : Draw (List Token) := do
  let roll ← Draw.unit
  if roll < 0.3 then
    let test ← condition
    return ("if" : Token) :: test ++ (← block)
  else if roll < 0.5 then
    let first ← declaration
    let test ← expression
    let step ← expression
    let body ← block
    return [("for" : Token), ("(" : Token)] ++ first ++ test ++ [(Lexicon.terminator : Token)] ++
      step ++ [(")" : Token)] ++ body
  else if roll < 0.7 then
    let test ← condition
    return ("while" : Token) :: test ++ (← block)
  else if roll < 0.9 then
    let body ← block
    let test ← condition
    return ("do" : Token) :: body ++ [("while" : Token)] ++ test ++ [(Lexicon.terminator : Token)]
  else switchStatement block

/-- One item of a block: a declaration, an expression, a branch or a control statement. -/
def item (control : Draw (List Token)) : Draw (List Token) := do
  let roll ← Draw.unit
  if roll < 0.2 then declaration
  else if roll < 0.8 then return (← expression) ++ [(Lexicon.terminator : Token)]
  else if roll < 0.9 then return [← fromPool Lexicon.branches]
  else control

/-- A block, nested less than `depth` deep. -/
def blockWithin : Nat → Draw (List Token)
  | 0 => throw .dry
  | depth + 1 => do
    let length ← shortLength 6
    let items ← Draw.replicate (length + 1) (item (controlOf (blockWithin depth)))
    return (Lexicon.blockOpen : Token) :: items.flatten ++ [(Lexicon.blockClose : Token)]

/-- One to six items in braces. -/
def block : Draw (List Token) := fun source => blockWithin source.remaining source

/-- A control statement. -/
def control : Draw (List Token) := controlOf block

/-- The tokens of a statement: a declaration, an assignment or a control statement. -/
def statement : Draw (List Token) := do
  let roll ← Draw.unit
  if roll < 0.25 then declaration
  else if roll < 0.5 then assignment
  else control

/-! ### Whole programs -/

/-- A quarter of `k`, a half rounded up: how many of the `k` statements of a new program are
declarations. -/
def declared (k : Nat) : Nat := (k + 2) / 4

/-- The number of declarations in machine words.  It is found by a sum, which has to fit into a
word. -/
def declarationCount (k : UInt64) : Except DrawFailure UInt64 :=
  if k.toNat + 2 < UInt64.size then .ok ((k + 2) / 4) else .error .overflow

theorem declared_le (k : Nat) : declared k ≤ k := by
  unfold declared
  omega

theorem declarationCount_eq_ok_iff {k count : UInt64} :
    declarationCount k = .ok count ↔
      k.toNat + 2 < UInt64.size ∧ count.toNat = declared k.toNat := by
  have exact (fits : k.toNat + 2 < UInt64.size) : ((k + 2) / 4).toNat = declared k.toNat := by
    rw [UInt64.toNat_div, UInt64.toNat_add]
    exact congrArg (· / 4) (Nat.mod_eq_of_lt fits)
  unfold declarationCount
  split
  · rename_i fits
    rw [Except.ok.injEq, ← UInt64.toNat_inj, exact fits, eq_comm]
    simp [fits]
  · rename_i beyond
    simp [beyond]

theorem exists_declarationCount {k : UInt64} (fits : k.toNat + 2 < UInt64.size) :
    ∃ count, declarationCount k = .ok count ∧ count.toNat = declared k.toNat := by
  have counted : declarationCount k = .ok ((k + 2) / 4) := if_pos fits
  exact ⟨_, counted, (declarationCount_eq_ok_iff.mp counted).2⟩

theorem declarationCount_eq_error_iff {k : UInt64} {failure : DrawFailure} :
    declarationCount k = .error failure ↔ UInt64.size ≤ k.toNat + 2 ∧ failure = .overflow := by
  unfold declarationCount
  split
  · rename_i fits
    simp [Nat.not_le.mpr fits]
  · rename_i beyond
    simp [Nat.not_lt.mp beyond, eq_comm]

end Progeny.Grammar

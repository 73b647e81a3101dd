import Progeny.Host.Numeral
import Progeny.Text.Utf8

/-!
# Arithmetic

The value of an arithmetic expression over words of 64 bits, with the usual precedence.  Names stand
for variables, which may be given values on the way; those without a value count as zero.
-/

namespace Progeny.Shell.Arithmetic

open Host.Numeral (digits unsigned)
open Text (Bytes)

/-- A piece of an expression. -/
inductive Lexeme where
  | number (n : Int64)
  | name (s : String)
  | sign (s : String)
  /-- A character that has no place in an expression. -/
  | other
  deriving DecidableEq

/-- Why an expression has no value. -/
inductive Failure where
  | expecting (what : String)
  | divisionByZero
  /-- The value of a variable is no number. -/
  | illegal (value : Bytes)

/-- The word nearest to a number. -/
def clamped (n : Int) : Int64 := .ofInt (max (-(Nat.pow 2 63)) (min (Nat.pow 2 63 - 1) n))

/-- The number that a whole text stands for, which may have blanks and a sign. -/
def number? (bytes : Bytes) : Option Int64 :=
  let text := bytes.map fun b => Char.ofNat b.toNat
  let isSpace (c : Char) : Bool := c.isWhitespace || c == '\x0b' || c == '\x0c'
  let text := text.dropWhile isSpace
  let (negative, text) := match text with
    | '-' :: rest => (true, rest)
    | '+' :: rest => (false, rest)
    | _ => (false, text)
  let begins := text.head?.any Char.isDigit
  let (n, rest) := unsigned text
  if begins && (rest.dropWhile isSpace).isEmpty then some (clamped (if negative then -n else n))
  else none

/-- The operators, those before that others begin with. -/
def signs : List String :=
  ["<<=", ">>=", "<<", ">>", "<=", ">=", "==", "!=", "&&", "||", "+=", "-=", "*=", "/=", "%=", "&=",
   "^=", "|=", "+", "-", "*", "/", "%", "<", ">", "!", "(", ")", "&", "|", "^", "~", "?", ":", "="]

/-- Cuts an expression into pieces, in at most `fuel` steps. -/
def lexemes : (fuel : Nat) → List Char → List Lexeme
  | 0, _ => []
  | _, [] => []
  | fuel + 1, c :: rest =>
    let all := c :: rest
    if c = ' ' || c = '\t' || c = '\n' then lexemes fuel rest
    else if c.isDigit then
      let (n, left) := unsigned all
      .number (clamped n) :: lexemes fuel left
    else if c.isAlpha || c == '_' then
      let name := all.takeWhile fun c => c.isAlphanum || c == '_'
      .name (String.ofList name) :: lexemes fuel (all.drop name.length)
    else match signs.find? fun s => s.toList.isPrefixOf all with
      | some s => .sign s :: lexemes fuel (all.drop s.length)
      | none => [.other]

/-- The operators of each level, the loosest first. -/
def levels : List (List String) :=
  [["|"], ["^"], ["&"], ["==", "!="], ["<", ">", "<=", ">="], ["<<", ">>"], ["+", "-"],
   ["*", "/", "%"]]

/-- One for what holds and zero for what does not. -/
def truth (b : Bool) : Int64 := if b then 1 else 0

/-- The value of an operation. -/
def resultOf (op : String) (a b : Int64) : Except Failure Int64 :=
  match op with
  | "+" => .ok (a + b)
  | "-" => .ok (a - b)
  | "*" => .ok (a * b)
  | "/" => if b = 0 then .error .divisionByZero else .ok (a / b)
  | "%" => if b = 0 then .error .divisionByZero else .ok (a % b)
  | "<" => .ok (truth (a < b))
  | ">" => .ok (truth (b < a))
  | "<=" => .ok (truth (a ≤ b))
  | ">=" => .ok (truth (b ≤ a))
  | "==" => .ok (truth (a == b))
  | "!=" => .ok (truth (a != b))
  | "&" => .ok (a &&& b)
  | "|" => .ok (a ||| b)
  | "^" => .ok (a ^^^ b)
  | "<<" => .ok (a <<< b)
  | ">>" => .ok (a >>> b)
  | _ => .error (.expecting "primary")

/-- The state of an evaluation: the pieces that are left and the variables that were given values. -/
structure Course where
  left : List Lexeme
  given : List (String × Int64) := []

/-- A computation that evaluates an expression. -/
abbrev Eval := StateT Course (Except Failure)

/-- The value of a variable. -/
def valueOf (value : String → Option Bytes) (name : String) : Eval Int64 := do
  match (← get).given.lookup name with
  | some n => return n
  | none =>
    match value name with
    | none | some [] => return 0
    | some bytes =>
      match number? bytes with
      | some n => return n
      | none => throw (.illegal bytes)

/-- Takes the next piece if it is one of some operators. -/
def accept (ops : List String) : Eval (Option String) := do
  let c ← get
  match c.left with
  | .sign s :: rest =>
    if ops.contains s then
      set { c with left := rest }
      return some s
    else return none
  | _ => return none

/-- Takes the next piece, which has to be the given operator. -/
def expect (op what : String) : Eval Unit := do
  if (← accept [op]).isNone then throw (.expecting what)

/-- Operations of one level from the left, the operands being read by `operand`; nothing is worked out
unless `live`. -/
def chain (ops : List String) (operand : Eval Int64) (live : Bool) : (fuel : Nat) → Int64 → Eval Int64
  | 0, a => return a
  | fuel + 1, a => do
    match ← accept ops with
    | none => return a
    | some op =>
      let b ← operand
      let c ← if live then liftM (resultOf op a b) else pure b
      chain ops operand live fuel c

/-- An expression of the given levels and all tighter ones. -/
def ofLevels (atom : Eval Int64) (live : Bool) (fuel : Nat) : List (List String) → Eval Int64
  | [] => atom
  | ops :: tighter => do
    let a ← ofLevels atom live fuel tighter
    chain ops (ofLevels atom live fuel tighter) live fuel a

/-- The operators that give a value to a variable. -/
def assigning : List String := ["=", "+=", "-=", "*=", "/=", "%=", "&=", "^=", "|=", "<<=", ">>="]

/-- What is read: an operand, a conjunction, a disjunction, a choice or an assignment. -/
inductive Form where
  | operand
  | conjunction
  | disjunction
  | choice
  | assignment

/-- The value of a form; nothing is worked out unless `live`. -/
def form (value : String → Option Bytes) : (fuel : Nat) → Form → (live : Bool) → Eval Int64
  | 0, _, _ => throw (.expecting "primary")
  | fuel + 1, .operand, live => do
    let c ← get
    match c.left with
    | .number n :: rest =>
      set { c with left := rest }
      return n
    | .name s :: rest =>
      set { c with left := rest }
      if live then valueOf value s else return 0
    | .sign "(" :: rest =>
      set { c with left := rest }
      let a ← form value fuel .assignment live
      expect ")" "')'"
      return a
    | .sign s :: rest =>
      if ! ["+", "-", "!", "~"].contains s then throw (.expecting "primary")
      set { c with left := rest }
      let a ← form value fuel .operand live
      return if s = "-" then -a else if s = "!" then truth (a == 0) else if s = "~" then ~~~a else a
    | _ => throw (.expecting "primary")
  | fuel + 1, .conjunction, live => do
    let a ← ofLevels (form value fuel .operand live) live fuel levels
    match ← accept ["&&"] with
    | none => return a
    | some _ =>
      let b ← form value fuel .conjunction (live && a != 0)
      return truth (a != 0 && b != 0)
  | fuel + 1, .disjunction, live => do
    let a ← form value fuel .conjunction live
    match ← accept ["||"] with
    | none => return a
    | some _ =>
      let b ← form value fuel .disjunction (live && a == 0)
      return truth (a != 0 || b != 0)
  | fuel + 1, .choice, live => do
    let a ← form value fuel .disjunction live
    match ← accept ["?"] with
    | none => return a
    | some _ =>
      let b ← form value fuel .assignment (live && a != 0)
      expect ":" "':'"
      let c ← form value fuel .choice (live && a == 0)
      return if a != 0 then b else c
  | fuel + 1, .assignment, live => do
    let c ← get
    match c.left with
    | .name s :: .sign op :: rest =>
      if ! assigning.contains op then form value fuel .choice live
      else
        set { c with left := rest }
        let b ← form value fuel .assignment live
        if ! live then return b
        let n ← if op = "=" then pure b
          else do liftM (resultOf (op.dropEnd 1).toString (← valueOf value s) b)
        modify fun c => { c with given := (s, n) :: c.given }
        return n
    | _ => form value fuel .choice live

/-- The value of an expression, variables having the given values, and the variables that are given
values by it, the latest first. -/
def evaluate (value : String → Option Bytes) (text : Bytes) :
    Except Failure (Int64 × List (String × Int64)) := do
  let cs := text.map fun b => Char.ofNat b.toNat
  let pieces := lexemes (cs.length + 1) cs
  let (n, c) ← (form value (8 * pieces.length + 8) .assignment true).run { left := pieces }
  if ! c.left.isEmpty then throw (.expecting "EOF")
  return (n, c.given)

end Progeny.Shell.Arithmetic

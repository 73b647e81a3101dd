import Progeny.Host.Inspection

/-!
# Testing

The tool that tells by its status whether a condition holds.
-/

namespace Progeny.Host.Testing

open Text (Bytes)

/-- What a condition is looked at in, and its words. -/
structure Condition where
  files : FileTree
  directory : Path
  words : List String

/-- A computation on the words behind a position. -/
abbrev Reading := StateT Nat (Except String)

variable (c : Condition)

/-- The word at a distance from the position. -/
def peek (n : Nat) : Reading (Option String) := return c.words[(← get) + n]?

/-- Fails because a word is missing. -/
def beyond {α : Type} : Reading α := throw ("missing argument after " ++ quoted (c.words.getLast?.getD ""))

/-- Takes a word. -/
def take : Reading String := do
  match ← peek c 0 with
  | some word =>
    modify (· + 1)
    return word
  | none => beyond c

/-- The operators between two operands. -/
def binaries : List String :=
  ["=", "==", "!=", "-nt", "-ot", "-ef", "-eq", "-ne", "-lt", "-le", "-gt", "-ge"]

/-- Whether a word is an operator between two operands. -/
def isBinary (word : Option String) : Bool := word.any binaries.contains

/-- The letter of an operator on one operand. -/
def unary? (word : String) : Option Char :=
  match word.toList with
  | ['-', letter] => some letter
  | _ => none

/-- The number that a word stands for. -/
def number (word : String) : Reading Int := do
  let isSpace (c : Char) : Bool := c.isWhitespace
  let trimmed := ((word.toList.dropWhile isSpace).reverse.dropWhile isSpace).reverse
  match integer? (String.ofList trimmed) with
  | some n => return n
  | none => throw ("invalid integer " ++ quoted word)

/-- Whether a word holds something. -/
def single : Reading Bool := return ! (← take c).isEmpty

/-- Whether something holds of an operand. -/
def onOne : Reading Bool := do
  let word ← take c
  let letter := (unary? word).getD ' '
  if letter = 'n' || letter = 'z' || letter = 't' || FileTree.traits.contains letter then
    let operand ← take c
    if letter = 'n' then return ! operand.isEmpty
    else if letter = 'z' then return operand.isEmpty
    else if letter = 't' then
      let _ ← number operand
      return false
    else return c.files.has c.directory letter operand
  else throw (quoted word ++ ": unary operator expected")

/-- Whether something holds between two operands. -/
def onTwo : Reading Bool := do
  let a ← take c
  let operator ← take c
  let b ← take c
  match operator with
  | "=" | "==" => return a == b
  | "!=" => return a != b
  | "-nt" => return c.files.isNewer c.directory a b
  | "-ot" => return c.files.isNewer c.directory b a
  | "-ef" => return c.files.isSame c.directory a b
  | _ =>
    let m ← number a
    let n ← number b
    return match operator with
      | "-eq" => m == n
      | "-ne" => m != n
      | "-lt" => m < n
      | "-le" => m ≤ n
      | "-gt" => n < m
      | _ => n ≤ m

/-- What is read: a condition of a given number of words, or a part of one of any length. -/
inductive Form where
  | words (count : Nat)
  | disjunction
  | conjunction
  | term

/-- The value of a form. -/
def form : (fuel : Nat) → Form → Reading Bool
  | 0, _ => return false
  | fuel + 1, .words count => do
    let first := (← peek c 0).getD ""
    let second ← peek c 1
    let negated (n : Nat) : Reading Bool := do
      modify (· + 1)
      return ! (← form fuel (.words n))
    match count with
    | 0 => beyond c
    | 1 => single c
    | 2 =>
      if first = "!" then negated 1
      else if (unary? first).isSome then onOne c
      else beyond c
    | 3 =>
      if isBinary second then onTwo c
      else if first = "!" then negated 2
      else if first = "(" && (← peek c 2) = some ")" then
        modify (· + 1)
        let found ← single c
        modify (· + 1)
        return found
      else if second = some "-a" || second = some "-o" then form fuel .disjunction
      else throw (quoted (second.getD "") ++ ": binary operator expected")
    | 4 =>
      if first = "!" then negated 3
      else if first = "(" && (← peek c 3) = some ")" then
        modify (· + 1)
        let found ← form fuel (.words 2)
        modify (· + 1)
        return found
      else form fuel .disjunction
    | _ => form fuel .disjunction
  | fuel + 1, .disjunction => do
    let a ← form fuel .conjunction
    if (← peek c 0) = some "-o" then
      modify (· + 1)
      let b ← form fuel .disjunction
      return a || b
    else return a
  | fuel + 1, .conjunction => do
    let a ← form fuel .term
    if (← peek c 0) = some "-a" then
      modify (· + 1)
      let b ← form fuel .conjunction
      return a && b
    else return a
  | fuel + 1, .term => do
    match ← peek c 0 with
    | none => beyond c
    | some "!" =>
      modify (· + 1)
      return ! (← form fuel .term)
    | some "(" =>
      modify (· + 1)
      let behind := c.words.drop (← get)
      let near := (behind.take 4).takeWhile (· ≠ ")")
      let count := if near.length < 4 && near.length < behind.length then near.length else behind.length
      let found ← form fuel (.words count)
      match ← peek c 0 with
      | some ")" =>
        modify (· + 1)
        return found
      | some other => throw (quoted ")" ++ " expected, found " ++ other)
      | none => throw (quoted ")" ++ " expected")
    | some word =>
      let left := c.words.length - (← get)
      if 3 ≤ left && isBinary (← peek c 1) then onTwo c
      else if (unary? word).isSome && word ≠ "-a" && word ≠ "-o" && 2 ≤ left then onOne c
      else single c

/-- Whether a condition holds, or the text of an error. -/
def evaluate (c : Condition) : Except String Bool :=
  if c.words.isEmpty then .ok false
  else do
    let (holds, position) ← (form c (8 * c.words.length + 8) (.words c.words.length)).run 0
    match c.words[position]? with
    | some extra => throw ("extra argument " ++ quoted extra)
    | none => return holds

/-- Tells whether a condition holds. -/
def tell (call : Call) (words : List String) : Reply :=
  match evaluate ⟨call.files, call.directory, words⟩ with
  | .ok holds => { call.idle with status := if holds then 0 else 1 }
  | .error e => call.failing 2 e

/-- Tells whether the condition holds that its arguments make. -/
def test : Tool := fun call => tell call call.texts

/-- Tells whether the condition in brackets holds. -/
def bracket : Tool := fun call =>
  if call.texts.getLast? = some "]" then tell call call.texts.dropLast
  else call.failing 2 ("missing " ++ quoted "]")

end Progeny.Host.Testing

import Progeny.Host.Inspection
import Progeny.Shell.Arithmetic

/-!
# Conditions

A condition is a list of arguments: tests of files, texts and numbers, which may be put together by
signs and parentheses.
-/

namespace Progeny.Shell

open Host
open Text (Bytes bytesOf)

namespace Condition

/-- What an argument may be besides an operand. -/
inductive Kind where
  | unary
  | binary
  | negation
  | conjunction
  | disjunction
  | opening
  | closing
  deriving DecidableEq

/-- The operators on one operand. -/
def unaries : List String :=
  ["-r", "-w", "-x", "-e", "-f", "-d", "-c", "-b", "-p", "-u", "-g", "-k", "-s", "-t", "-z", "-n",
   "-h", "-L", "-O", "-G", "-S"]

/-- The operators between two operands. -/
def binaries : List String :=
  ["=", "!=", "<", ">", "-eq", "-ne", "-ge", "-gt", "-le", "-lt", "-nt", "-ot", "-ef"]

/-- What a text may be besides an operand. -/
def kind? (text : String) : Option Kind :=
  if unaries.contains text then some .unary
  else if binaries.contains text then some .binary
  else [("!", Kind.negation), ("-a", .conjunction), ("-o", .disjunction), ("(", .opening),
    (")", .closing)].lookup text

/-- What is looked at. -/
structure Surroundings where
  files : FileTree
  directory : Path

/-- An argument as it is meant where it stands. -/
inductive Meaning where
  | fin
  | operand
  | operator (kind : Kind) (text : String)
  deriving DecidableEq

/-- The meaning of the first of some arguments.  What may be an operator on one operand is an operand
if none follows, or if what follows is an operator between two. -/
def meaning : List Bytes → Meaning
  | [] => .fin
  | first :: rest =>
    let text := Text.Utf8.decode first
    match kind? text with
    | none => .operand
    | some .unary =>
      let isOperand : Bool := match rest with
        | [] => true
        | [_] => false
        | a :: _ => decide (kind? (Text.Utf8.decode a) = some .binary)
      if isOperand then .operand else .operator .unary text
    | some .opening => if rest.isEmpty then .operand else .operator .opening text
    | some kind => .operator kind text

/-- A computation on the arguments that are left, the first of which is looked at. -/
abbrev Reading := StateT (List Bytes) (Except Bytes)

/-- The number that an operand stands for. -/
def number (bytes : Bytes) : Reading Int := do
  let cs := (Text.Utf8.decode bytes).toList
  let isSpace (c : Char) : Bool := c.isWhitespace || c == '\x0b' || c == '\x0c'
  let trimmed := ((cs.dropWhile isSpace).reverse.dropWhile isSpace).reverse
  match integer? (String.ofList trimmed) with
  | some n => return n
  | none => throw (bytesOf "Illegal number: " ++ bytes)

/-- Whether something holds of an operand. -/
def testUnary (s : Surroundings) (operator : String) (operand : Bytes) : Reading Bool := do
  match operator.toList with
  | ['-', 'z'] => return operand.isEmpty
  | ['-', 'n'] => return ! operand.isEmpty
  | ['-', 't'] =>
    let _ ← number operand
    return false
  | ['-', trait] => return s.files.has s.directory trait (Text.Utf8.decode operand)
  | _ => return false

/-- Whether something holds between two operands. -/
def testBinary (s : Surroundings) (a : Bytes) (operator : String) (b : Bytes) : Reading Bool := do
  let left := Text.Utf8.decode a
  let right := Text.Utf8.decode b
  match operator with
  | "=" => return a == b
  | "!=" => return a != b
  | "<" => return a != b && noLater a b
  | ">" => return a != b && noLater b a
  | "-nt" => return s.files.isSecondsNewer s.directory left right
  | "-ot" => return s.files.isSecondsNewer s.directory right left
  | "-ef" => return s.files.isSame s.directory left right
  | _ =>
    let m ← number a
    let n ← number b
    return match operator with
      | "-eq" => m == n
      | "-ne" => m != n
      | "-ge" => n ≤ m
      | "-gt" => n < m
      | "-le" => m ≤ n
      | _ => m < n

/-- What is read: a disjunction, a conjunction, a negation or something primary. -/
inductive Form where
  | disjunction
  | conjunction
  | negation
  | primary

/-- The value of a form whose first argument has the given meaning; afterwards the last argument of the
form is looked at. -/
def form (s : Surroundings) : (fuel : Nat) → Form → Meaning → Reading Bool
  | 0, _, _ => return false
  | fuel + 1, .disjunction, first => do
    let a ← form s fuel .conjunction first
    match meaning ((← get).drop 1) with
    | .operator .disjunction _ =>
      modify (·.drop 2)
      let b ← form s fuel .disjunction (meaning (← get))
      return a || b
    | _ => return a
  | fuel + 1, .conjunction, first => do
    let a ← form s fuel .negation first
    match meaning ((← get).drop 1) with
    | .operator .conjunction _ =>
      modify (·.drop 2)
      let b ← form s fuel .conjunction (meaning (← get))
      return a && b
    | _ => return a
  | fuel + 1, .negation, first => do
    match first with
    | .operator .negation _ =>
      let next := meaning ((← get).drop 1)
      if next ≠ .fin then modify (·.drop 1)
      return ! (← form s fuel .negation next)
    | _ => form s fuel .primary first
  | fuel + 1, .primary, first => do
    match first with
    | .fin => return false
    | .operator .opening _ =>
      modify (·.drop 1)
      match meaning (← get) with
      | .operator .closing _ => return false
      | next =>
        let a ← form s fuel .disjunction next
        modify (·.drop 1)
        match meaning (← get) with
        | .operator .closing _ => return a
        | _ => throw (bytesOf "closing paren expected")
    | .operator .unary text =>
      modify (·.drop 1)
      match ← get with
      | [] => throw (bytesOf (text ++ ": argument expected"))
      | operand :: _ => testUnary s text operand
    | _ =>
      match ← get with
      | [] => return false
      | a :: rest =>
        match meaning rest with
        | .operator .binary text =>
          set (rest.drop 1)
          match rest.drop 1 with
          | [] => throw (bytesOf (text ++ ": argument expected"))
          | b :: _ => testBinary s a text b
        | _ => return ! a.isEmpty

/-- The value of a condition, or the text of an error. -/
def evaluate (s : Surroundings) (args : List Bytes) : Except Bytes Bool := do
  let texts := args.map Text.Utf8.decode
  let inner := (args.drop 1).dropLast
  let isBinary (text : Option String) : Bool := text.bind kind? = some .binary
  let parenthesised := texts.head? = some "(" && texts.getLast? = some ")"
  let plain (args : List Bytes) : Except Bytes Bool := run args (meaning args)
  if args.isEmpty then return false
  else if args.length = 3 && isBinary texts[1]? then run args .operand
  else if args.length = 3 || args.length = 4 then
    if parenthesised then plain inner
    else if texts.head? = some "!" then run args (.operator .negation "!")
    else plain args
  else plain args
where
  run (args : List Bytes) (first : Meaning) : Except Bytes Bool := do
    match (form s (4 * args.length + 4) .disjunction first).run args with
    | .error e => throw e
    | .ok (value, left) =>
      match left with
      | a :: _ :: _ => throw (a ++ bytesOf ": unexpected operator")
      | _ => return value

end Condition

end Progeny.Shell

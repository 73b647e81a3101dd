import Progeny.Host.Regex
import Progeny.Host.Tool

/-!
# Expressions

The value of an expression whose words are arguments: numbers and texts with operators between them.
-/

namespace Progeny.Host.Expression

open Text (Bytes)

/-- Why an expression has no value. -/
inductive Fault where
  | missing (after : String)
  | unexpected (word : String)
  | unexpectedClosing
  | notClosed (after : String)
  | notClosedBy (word : String)
  | notWhole
  | divisionByZero
  | pattern (fault : Regex.Fault)

/-- The text of a fault. -/
def Fault.message : Fault → String
  | .missing after => "syntax error: missing argument after " ++ quoted after
  | .unexpected word => "syntax error: unexpected argument " ++ quoted word
  | .unexpectedClosing => "syntax error: unexpected ')'"
  | .notClosed after => "syntax error: expecting ')' after " ++ quoted after
  | .notClosedBy word => "syntax error: expecting ')' instead of " ++ quoted word
  | .notWhole => "non-integer argument"
  | .divisionByZero => "division by zero"
  | .pattern fault => fault.message

/-- The words that were read, the latest first, and those that are left. -/
structure Words where
  read : List String
  left : List String

/-- A computation on words. -/
abbrev Reading := StateT Words (Except Fault)

/-- The whole number that a text stands for, which may have a minus sign. -/
def whole? (text : String) : Option Int := if text.startsWith "+" then none else integer? text

/-- Whether a value counts as false: it is empty, or a zero. -/
def isNull (text : String) : Bool := text.isEmpty || whole? text = some 0

/-- The next word. -/
def peek : Reading (Option String) := return (← get).left.head?

/-- Takes the next word. -/
def take : Reading String := do
  let w ← get
  match w.left with
  | [] => throw (.missing (w.read.headD ""))
  | word :: rest =>
    set (⟨word :: w.read, rest⟩ : Words)
    return word

/-- Takes the next word if it is one of some, and gives it. -/
def accept (words : List String) : Reading (Option String) := do
  match ← peek with
  | some word =>
    if words.contains word then
      let _ ← take
      return some word
    else return none
  | none => return none

/-- The operators on two operands, the loosest first. -/
def levels : List (List String) :=
  [["|"], ["&"], ["<", "<=", "=", "==", "!=", ">=", ">"], ["+", "-"], ["*", "/", "%"], [":"]]

/-- Where a pattern matches at the beginning of a text: what its first group holds, if it has one, or else
how many characters match. -/
def matched (text pattern : String) : Except Fault String :=
  match Regex.read ⟨false, false⟩ (Symbol.ofBytes (Text.bytesOf pattern)) with
  | .error fault => .error (.pattern fault)
  | .ok written =>
    let symbols := Symbol.ofBytes (Text.bytesOf text)
    match written.regex.matchAt? {} (fun _ => true) [] symbols symbols.length with
    | none => .ok (if written.groups = 0 then "0" else "")
    | some found =>
      if written.groups = 0 then .ok found.text.length.repr
      else .ok (Text.Utf8.decode (Symbol.toBytes ((found.groups.lookup 1).getD [])))

/-- The value of an operation; with `live` unset nothing is computed. -/
def resultOf (live : Bool) (op left right : String) : Except Fault String := do
  let truth (b : Bool) : String := if b then "1" else "0"
  let order : Ordering := match whole? left, whole? right with
    | some a, some b => compare a b
    | _, _ => if left = right then .eq else if noLater (Text.bytesOf left) (Text.bytesOf right) then .lt else .gt
  match op with
  | "|" => return if ! isNull left then left else if isNull right then "0" else right
  | "&" => return if isNull left || isNull right then "0" else left
  | "<" => return truth order.isLT
  | "<=" => return truth order.isLE
  | "=" | "==" => return truth order.isEq
  | "!=" => return truth (! order.isEq)
  | ">=" => return truth order.isGE
  | ">" => return truth order.isGT
  | ":" => if live then matched left right else return left
  | _ =>
    if ! live then return left
    match whole? left, whole? right with
    | some a, some b =>
      if op = "+" then return (a + b).repr
      else if op = "-" then return (a - b).repr
      else if op = "*" then return (a * b).repr
      else if b = 0 then throw .divisionByZero
      else return (if op = "/" then a.tdiv b else a.tmod b).repr
    | _, _ => throw .notWhole

/-- The characters of a text from a position on, which counts from one. -/
def part (text position length : String) : String :=
  match whole? position, whole? length with
  | some p, some n =>
    if p ≤ 0 || n ≤ 0 then ""
    else String.ofList ((text.toList.drop (p.toNat - 1)).take n.toNat)
  | _, _ => ""

/-- What is read: an operation of the first of some levels or a tighter one, or a function, or an
operand. -/
inductive Form where
  | levels (levels : List (List String))
  | chain (left : String) (ops : List String) (tighter : List (List String))
  | call
  | operand

/-- The value of a form. -/
def form (live : Bool) : (fuel : Nat) → Form → Reading String
  | 0, _ => return ""
  | fuel + 1, .levels [] => form live fuel .call
  | fuel + 1, .levels (ops :: tighter) => do
    let left ← form live fuel (.levels tighter)
    form live fuel (.chain left ops tighter)
  | fuel + 1, .chain left ops tighter => do
    match ← accept ops with
    | none => return left
    | some op =>
      let goesOn := if op = "|" then live && isNull left else if op = "&" then live && ! isNull left else live
      let right ← form goesOn fuel (.levels tighter)
      form live fuel (.chain (← resultOf goesOn op left right) ops tighter)
  | fuel + 1, .call => do
    match ← accept ["+", "length", "match", "index", "substr"] with
    | none => form live fuel .operand
    | some "+" => take
    | some "length" => return (← form live fuel .call).length.repr
    | some "match" =>
      let text ← form live fuel .call
      let pattern ← form live fuel .call
      if live then matched text pattern else return ""
    | some "index" =>
      let text ← form live fuel .call
      let set := (← form live fuel .call).toList
      return ((text.toList.findIdx? set.contains).map (· + 1) |>.getD 0).repr
    | some _ =>
      let text ← form live fuel .call
      let position ← form live fuel .call
      let length ← form live fuel .call
      return part text position length
  | fuel + 1, .operand => do
    let word ← take
    if word = "(" then
      let found ← form live fuel (.levels levels)
      let w ← get
      match w.left with
      | [] => throw (.notClosed (w.read.headD ""))
      | next :: _ =>
        if next = ")" then
          let _ ← take
          return found
        else throw (.notClosedBy next)
    else if word = ")" then throw .unexpectedClosing
    else return word

/-- Prints the value of the expression that its arguments make. -/
def expr : Tool := fun call =>
  let words := if call.texts.head? = some "--" then call.texts.drop 1 else call.texts
  if words.isEmpty then call.misused 2 "missing operand"
  else
    let result := do
      let (value, left) ← (form true (20 * words.length + 20) (.levels levels)).run ⟨[], words⟩
      match left.left with
      | [] => return value
      | word :: _ => throw (Fault.unexpected word)
    match result with
    | .ok value => { call.printing (line value) with status := if isNull value then 1 else 0 }
    | .error fault => call.failing 2 fault.message

end Progeny.Host.Expression

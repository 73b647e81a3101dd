import Progeny.Host.Regex

/-!
# Programs on records

A program says what is to be done with records of the input: rules, each with a pattern and an action, and
functions.
-/

namespace Progeny.Host.Records

open Text (Bytes)

/-- An operation on numbers. -/
inductive Operation where
  | plus
  | minus
  | times
  | divided
  | modulo
  | power
  deriving DecidableEq

/-- A comparison. -/
inductive Relation where
  | less
  | atMost
  | equal
  | unequal
  | atLeast
  | greater

/-- From where a record is read. -/
inductive Supply where
  | input
  | file
  | command

/-- An expression. -/
inductive Expr where
  | number (x : Float)
  | text (bytes : Bytes)
  /-- Whether something in the record matches. -/
  | regex (regex : Regex)
  | variable (name : String)
  | element (array : String) (subscripts : List Expr)
  | field (index : Expr)
  | assign (target : Expr) (operation : Option Operation) (value : Expr)
  /-- One more or one less; the value is that before or behind the change. -/
  | step (target : Expr) (up first : Bool)
  | choice (test yes no : Expr)
  | both (left right : Expr)
  | either (left right : Expr)
  | not (body : Expr)
  | sign (negative : Bool) (body : Expr)
  | operate (operation : Operation) (left right : Expr)
  | compare (relation : Relation) (left right : Expr)
  | join (left right : Expr)
  | fits (wanted : Bool) (text pattern : Expr)
  | member (subscripts : List Expr) (array : String)
  | builtin (name : String) (args : List Expr)
  | call (name : String) (args : List Expr)
  | read (supply : Supply) (source target : Option Expr)
  /-- In parentheses. -/
  | group (body : Expr)

namespace Expr

/-- Whether something can be assigned to an expression. -/
def isPlace : Expr → Bool
  | .variable _ | .element .. | .field _ => true
  | _ => false

end Expr

/-- Where something is printed. -/
inductive Sink where
  | new
  | more
  | command

/-- A statement. -/
inductive Stmt where
  | print (args : List Expr) (sink : Option (Sink × Expr))
  | format (args : List Expr) (sink : Option (Sink × Expr))
  | evaluate (e : Expr)
  | block (body : List Stmt)
  | choose (test : Expr) (yes : Stmt) (no : Option Stmt)
  /-- Repeats a body as long as a test holds, which is done first or not; something follows each time. -/
  | loop (first : Bool) (test : Option Expr) (body : Stmt) (step : Option Stmt)
  | each (name array : String) (body : Stmt)
  | next
  | nextFile
  | exit (status : Option Expr)
  | result (value : Option Expr)
  | leave
  | proceed
  | delete (array : String) (subscripts : Option (List Expr))

/-- When a rule is for a record. -/
inductive Pattern where
  | begin
  | finish
  | always
  | holds (test : Expr)
  /-- From a record to another. -/
  | range (start stop : Expr)

/-- A rule; without an action the record is printed. -/
structure Rule where
  pattern : Pattern
  action : Option Stmt

/-- A function. -/
structure Function where
  parameters : List String
  body : Stmt

/-- A program. -/
structure Program where
  rules : List Rule
  functions : List (String × Function)

end Progeny.Host.Records

import Progeny.Text.Utf8

/-!
# Scripts

The commands of a shell: simple commands with redirections, pipelines, lists, groups, conditions,
selections, loops and functions, and the words that they are made of.
-/

namespace Progeny.Shell

open Text (Bytes)

/-- What is done with the value of a parameter. -/
inductive Modifier where
  /-- Nothing. -/
  | plain
  /-- Its length is taken. -/
  | length
  /-- Something else takes its place when it is unset, or also when it is empty. -/
  | otherwise (orEmpty : Bool)
  /-- Something else takes its place when it is set, or only when it is not empty. -/
  | instead (orEmpty : Bool)
  /-- It is given a value when it is unset, or also when it is empty. -/
  | assigning (orEmpty : Bool)
  /-- It has to be set, or even not to be empty. -/
  | required (orEmpty : Bool)
  /-- What a pattern matches is cut off its beginning or its end. -/
  | cut (atEnd longest : Bool)
  /-- There is no such modifier. -/
  | unknown

/-- Whether the word of a modifier is a pattern. -/
def Modifier.takesPattern : Modifier → Bool
  | .cut _ _ => true
  | _ => false

/-- How a redirection opens its target. -/
inductive Opening where
  | input
  /-- An existing file loses its content, or may be protected from that. -/
  | output (always : Bool)
  | append
  | inputAndOutput
  /-- The target is the number of a descriptor. -/
  | duplicate
  deriving DecidableEq

mutual

/-- A piece of a word.  Pieces in quotes are neither split nor matched against file names. -/
inductive Piece where
  | text (quoted : Bool) (text : Bytes)
  | parameter (quoted : Bool) (name : String) (modifier : Modifier) (word : List Piece)
  | output (quoted : Bool) (script : Script)
  | arithmetic (quoted : Bool) (expression : List Piece)

/-- A redirection of a descriptor. -/
inductive Redirection where
  | opening (descriptor : Nat) (how : Opening) (target : List Piece)
  /-- The input is written out in the script itself, as the document of the given number. -/
  | document (descriptor number : Nat)

/-- A command; the lines are for messages. -/
inductive Script where
  | nothing
  /-- Assignments, words and redirections. -/
  | simple (line : Nat) (assignments : List (String × List Piece)) (words : List (List Piece))
      (redirections : List Redirection)
  | pipe (left right : Script)
  | negate (script : Script)
  | both (left right : Script)
  | either (left right : Script)
  | sequence (left right : Script)
  | background (script : Script)
  | group (line : Nat) (script : Script) (redirections : List Redirection)
  | subshell (line : Nat) (script : Script) (redirections : List Redirection)
  | choose (condition yes no : Script)
  | loop (whileTrue : Bool) (condition body : Script)
  /-- A loop over words, or over the arguments. -/
  | each (line : Nat) (name : String) (words : Option (List (List Piece))) (body : Script)
  | select (line : Nat) (word : List Piece) (arms : List (List (List Piece) × Script))
  /-- The body becomes a command of its own. -/
  | define (line : Nat) (name : String) (body : Script)

end

instance : Inhabited Script := ⟨.nothing⟩

/-- Whether any of a piece stood in quotes. -/
def Piece.isQuoted : Piece → Bool
  | .text q _ | .parameter q _ _ _ | .output q _ | .arithmetic q _ => q

/-- The text of a word that is one piece without quotes. -/
def plainText? : List Piece → Option Bytes
  | [.text false s] => some s
  | _ => none

/-- The text of a word without its quotes. -/
def textOf (word : List Piece) : Bytes := word.flatMap fun
  | .text _ s => s
  | _ => []

end Progeny.Shell

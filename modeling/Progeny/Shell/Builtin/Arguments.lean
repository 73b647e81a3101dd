import Progeny.Shell.Expand
import Progeny.Sequence.Total

/-!
# Arguments of the commands of a shell

Options are letters behind a dash and come before all operands.  Values are shown in such a way that a
shell reads them back.
-/

namespace Progeny.Shell.Builtin

open Host
open Text (Bytes bytesOf)

/-- The options and the operands of a command.  `letters` are the options that it has, those with a
value being followed by a colon. -/
def options (letters : List Char) : (fuel : Nat) → List Bytes → Act (List (Char × Bytes) × List Bytes)
  | 0, args => return ([], args)
  | _, [] => return ([], [])
  | fuel + 1, arg :: rest =>
    match arg with
    | 45 :: 45 :: [] => return ([], rest)
    | 45 :: c :: more => do
      let (found, rest) ← letter fuel (c :: more) rest
      let (others, operands) ← options letters fuel rest
      return (found ++ others, operands)
    | _ => return ([], arg :: rest)
where
  letter : Nat → Bytes → List Bytes → Act (List (Char × Bytes) × List Bytes)
    | 0, _, rest => return ([], rest)
    | _, [], rest => return ([], rest)
    | fuel + 1, b :: more, rest => do
      let c := Char.ofNat b.toNat
      if c = ':' || ! letters.contains c then
        Session.failWith (bytesOf "Illegal option -" ++ [b])
      if (letters.dropWhile (· ≠ c))[1]? = some ':' then
        match more, rest with
        | [], value :: rest => return ([(c, value)], rest)
        | [], [] => Session.failWith (bytesOf "No arg for -" ++ [b] ++ bytesOf " option")
        | _, _ => return ([(c, more)], rest)
      else
        let (found, rest) ← letter fuel more rest
        return ((c, []) :: found, rest)

/-- The options and the operands of a command. -/
def parse (letters : String) (args : List Bytes) : Act (List (Char × Bytes) × List Bytes) :=
  options letters.toList (Sequence.total (·.length) args + args.length + 1) args

/-- The number that an argument stands for. -/
def number (arg : Bytes) : Act Nat := do
  match natural? (Text.Utf8.decode arg) with
  | some n => return n
  | none => Session.failWith (bytesOf "Illegal number: " ++ arg)

/-- A text in single quotes, as far as it holds none, which are put in double quotes. -/
def quoted (bytes : Bytes) : Bytes :=
  go (bytes.length + 1) bytes
where
  go : Nat → Bytes → Bytes
    | 0, _ => []
    | fuel + 1, bytes =>
      let plain := bytes.takeWhile (· != 39)
      let rest := bytes.drop plain.length
      let quotes := rest.takeWhile (· == 39)
      let left := rest.drop quotes.length
      [39] ++ plain ++ [39] ++
        (if quotes.isEmpty then [] else [34] ++ quotes ++ [34]) ++
        (if left.isEmpty then [] else go fuel left)

/-- A name and the value that a text gives to it, if it gives one. -/
def binding (arg : Bytes) : String × Option Bytes :=
  let name := arg.takeWhile (· != 61)
  (Text.Utf8.decode name, if name.length < arg.length then some (arg.drop (name.length + 1)) else none)

/-- Whether a text is a name. -/
def isName (name : String) : Bool :=
  match name.toList with
  | [] => false
  | c :: rest => (c.isAlpha || c == '_') && rest.all fun c => c.isAlphanum || c == '_'

/-- Fails unless a text is a name. -/
def requireName (name : String) : Act Unit := do
  if ! isName name then Session.fail (name ++ ": bad variable name")

/-- Runs something for each of some things. -/
def forEach {α : Type} (f : α → Act Unit) : List α → Act Unit
  | [] => return ()
  | a :: rest => do
    f a
    forEach f rest

end Progeny.Shell.Builtin

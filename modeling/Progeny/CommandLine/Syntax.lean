/-!
# Arguments

A command takes switches and positional values.  A switch has a long name, written after two dashes,
and may have a letter, written after one.  Its value follows as an argument of its own or behind an
equals sign; letters may stand together, and the value of the last may follow it at once.  After an
argument of two dashes all others are positional.

Arguments are read from left to right, and the first fault or request for help ends the reading.
-/

namespace Progeny.CommandLine

/-- Why no command was read. -/
inductive Refusal where
  /-- Help was asked for. -/
  | help
  /-- The version was asked for. -/
  | version
  /-- The arguments are not those of a command. -/
  | usage
  deriving DecidableEq, Repr

/-- What a switch does to the options `ρ`. -/
inductive Effect (ρ : Type) where
  /-- Changes the options, unless it must not be given here. -/
  | flag (apply : ρ → Option ρ)
  /-- Takes a value; a value that begins with a dash is taken only with `anyText`. -/
  | value (anyText : Bool) (apply : ρ → String → Option ρ)
  /-- Ends the reading. -/
  | stop (refusal : Refusal)

/-- A switch. -/
structure Switch (ρ : Type) where
  long : String
  letter : Option Char
  effect : Effect ρ

/-- The switches and the positional values of a command. -/
structure Signature (ρ : Type) where
  switches : List (Switch ρ)
  positional : List (ρ → String → Option ρ)

variable {ρ : Type}

/-- A result, or a fault in the usage. -/
def orUsage {α : Type} : Option α → Except Refusal α
  | some a => .ok a
  | none => .error .usage

namespace Signature

/-- The switch with a long name. -/
def long? (signature : Signature ρ) (name : List Char) : Option (Switch ρ) :=
  signature.switches.find? fun s => s.long.toList == name

/-- The switch with a letter. -/
def letter? (signature : Signature ρ) (c : Char) : Option (Switch ρ) :=
  signature.switches.find? fun s => s.letter == some c

end Signature

/-- What is left to do after an argument that names switches. -/
inductive Progress (ρ : Type) where
  /-- The options so far. -/
  | done (options : ρ)
  /-- The next argument is a value for `apply`. -/
  | awaiting (anyText : Bool) (apply : String → Option ρ)

/-- The effect of a switch that has no value attached to it. -/
def Effect.bare (effect : Effect ρ) (options : ρ) : Except Refusal (Progress ρ) :=
  match effect with
  | .flag apply => return .done (← orUsage (apply options))
  | .value anyText apply => .ok (.awaiting anyText (apply options))
  | .stop refusal => .error refusal

/-- The effect of a switch with a value attached to it. -/
def Effect.attached (effect : Effect ρ) (options : ρ) (value : List Char) :
    Except Refusal (Progress ρ) :=
  match effect with
  | .value _ apply => return .done (← orUsage (apply options (String.ofList value)))
  | _ => .error .usage

/-- Reads an argument behind its two dashes. -/
def readLong (signature : Signature ρ) (options : ρ) (argument : List Char) :
    Except Refusal (Progress ρ) := do
  let name := argument.takeWhile (· != '=')
  let switch ← orUsage (signature.long? name)
  match argument.drop name.length with
  | [] => switch.effect.bare options
  | _ :: value => switch.effect.attached options value

/-- Reads the letters of an argument behind its dash.  What follows the letter of a switch that
takes a value is the value, less one equals sign. -/
def readLetters (signature : Signature ρ) : ρ → List Char → Except Refusal (Progress ρ)
  | options, [] => .ok (.done options)
  | options, c :: rest => do
    let switch ← orUsage (signature.letter? c)
    match switch.effect, rest with
    | .value .., '=' :: value => switch.effect.attached options value
    | .value .., _ :: _ => switch.effect.attached options rest
    | .value .., [] => switch.effect.bare options
    | .flag apply, _ => readLetters signature (← orUsage (apply options)) rest
    | .stop refusal, _ => .error refusal

/-- Whether an argument is taken for a switch: it begins with a dash and has more to it. -/
def looksLikeSwitch (argument : String) : Bool :=
  match argument.toList with
  | '-' :: _ :: _ => true
  | _ => false

/-- Reads an argument that names switches. -/
def readSwitches (signature : Signature ρ) (options : ρ) (argument : String) :
    Except Refusal (Progress ρ) :=
  match argument.toList with
  | '-' :: '-' :: name => readLong signature options name
  | _ :: letters => readLetters signature options letters
  | [] => .error .usage

/-- Gives positional values to the options. -/
def takePositional : List (ρ → String → Option ρ) → ρ → List String → Except Refusal ρ
  | _, options, [] => .ok options
  | [], _, _ :: _ => .error .usage
  | apply :: applies, options, argument :: rest => do
    takePositional applies (← orUsage (apply options argument)) rest

/-- Reads all arguments; `applies` are the positional values that are still to come. -/
def readAll (signature : Signature ρ) :
    List (ρ → String → Option ρ) → ρ → List String → Except Refusal ρ
  | _, options, [] => .ok options
  | applies, options, argument :: rest =>
    if argument = "--" then takePositional applies options rest
    else if looksLikeSwitch argument then do
      match ← readSwitches signature options argument, rest with
      | .done options, rest => readAll signature applies options rest
      | .awaiting _ _, [] => .error .usage
      | .awaiting anyText apply, value :: rest =>
        if looksLikeSwitch value && !anyText then .error .usage
        else readAll signature applies (← orUsage (apply value)) rest
    else match applies with
      | [] => .error .usage
      | apply :: applies => do
        readAll signature applies (← orUsage (apply options argument)) rest

/-- Reads the arguments of a command into options. -/
def Signature.read (signature : Signature ρ) (options : ρ) (arguments : List String) :
    Except Refusal ρ :=
  readAll signature signature.positional options arguments

end Progeny.CommandLine

import Progeny.CommandLine.Syntax
import Progeny.Report

/-!
# Commands

There are two commands: `evolve` runs an evolution and `generate` writes one random program.  Every
option may be given once, except for the arguments of the compiler, which add up.
-/

namespace Progeny.CommandLine

/-- The options of `evolve`. -/
structure EvolveOptions where
  statements : Option Nat := none
  generations : Option Nat := none
  population : Option Nat := none
  seed : Option UInt64 := none
  timeLimit : Option Nat := none
  compiler : Option String := none
  compilerArgs : List String := []
  compileTimeout : Option Nat := none
  /-- The path of the settings file. -/
  config : Option String := none
  /-- How many programs are evaluated at once; the result does not depend on it. -/
  threads : Option Nat := none
  format : Option ReportFormat := none
  /-- Whether progress is shown while the run goes on. -/
  progress : Bool := false
  deriving DecidableEq, Repr

/-- The options of `generate`. -/
structure GenerateOptions where
  statements : Option Nat := none
  seed : Option UInt64 := none
  deriving DecidableEq, Repr

/-- A command. -/
inductive Command where
  | evolve (options : EvolveOptions)
  | generate (options : GenerateOptions)
  deriving DecidableEq, Repr

/-! ### Values -/

/-- The number that some digits stand for; there has to be one. -/
def digits? (cs : List Char) : Option Nat :=
  if cs.isEmpty || ! cs.all Char.isDigit then none
  else some (cs.foldl (fun n c => n * 10 + (c.toNat - '0'.toNat)) 0)

/-- A number of 64 bits, which may have a plus sign. -/
def number? (text : String) : Option Nat :=
  let n? := match text.toList with
    | '+' :: cs => digits? cs
    | cs => digits? cs
  n?.filter (· < Nat.pow 2 64)

/-- A number of 64 bits that is not zero. -/
def positive? (text : String) : Option Nat := (number? text).filter (· ≠ 0)

/-- A seed. -/
def seed? (text : String) : Option UInt64 := (number? text).map Nat.toUInt64

/-- A path, which is not empty. -/
def path? (text : String) : Option String := if text.isEmpty then none else some text

/-- The value of an option that may be given once. -/
def once {α ρ : Type} (get : ρ → Option α) (set : ρ → α → ρ) (value? : String → Option α)
    (options : ρ) (text : String) : Option ρ :=
  if (get options).isSome then none else (value? text).map (set options)

/-! ### Signatures -/

/-- The switches of all commands.  What is logged on the way is no part of the answer, so asking
for more of it changes nothing. -/
def sharedSwitches {ρ : Type} : List (Switch ρ) :=
  [⟨"verbose", some 'v', .flag some⟩, ⟨"help", some 'h', .stop .help⟩]

/-- What may stand before the name of a command. -/
def outerSignature : Signature Unit where
  switches := ⟨"version", some 'V', .stop .version⟩ :: sharedSwitches
  positional := []

open EvolveOptions in
/-- The arguments of `evolve`. -/
def evolveSignature : Signature EvolveOptions where
  switches :=
    [⟨"seed", some 's', .value false (once seed (fun o n => { o with seed := some n }) seed?)⟩,
     ⟨"time-limit", none,
       .value false (once timeLimit (fun o n => { o with timeLimit := some n }) number?)⟩,
     ⟨"compiler", none,
       .value false (once compiler (fun o s => { o with compiler := some s }) some)⟩,
     ⟨"compiler-arg", none,
       .value true fun o s => some { o with compilerArgs := o.compilerArgs ++ [s] }⟩,
     ⟨"compile-timeout", none,
       .value false
         (once compileTimeout (fun o n => { o with compileTimeout := some n }) number?)⟩,
     ⟨"config", some 'c',
       .value false (once config (fun o s => { o with config := some s }) path?)⟩,
     ⟨"threads", some 'j',
       .value false (once threads (fun o n => { o with threads := some n }) number?)⟩,
     ⟨"format", some 'f',
       .value false
         (once format (fun o f => { o with format := some f }) fun s => ReportFormat.names.lookup s)⟩,
     ⟨"progress", some 'p',
       .flag fun o => if o.progress then none else some { o with progress := true }⟩] ++
    sharedSwitches
  positional :=
    [once statements (fun o n => { o with statements := some n }) positive?,
     once generations (fun o n => { o with generations := some n }) positive?,
     once population (fun o n => { o with population := some n }) positive?]

open GenerateOptions in
/-- The arguments of `generate`. -/
def generateSignature : Signature GenerateOptions where
  switches :=
    ⟨"seed", some 's', .value false (once seed (fun o n => { o with seed := some n }) seed?)⟩ ::
    sharedSwitches
  positional := [once statements (fun o n => { o with statements := some n }) positive?]

/-! ### Reading -/

/-- The names that help may be asked for by. -/
def helpTopics : List String := ["evolve", "generate", "help"]

/-- What `help` answers: help on everything or on one topic. -/
def helpOn : List String → Refusal
  | [] => .help
  | [topic] => if topic ∈ helpTopics then .help else .usage
  | _ => .usage

/-- Reads a command line. -/
def Command.read : List String → Except Refusal Command
  | [] => .error .usage
  | argument :: rest =>
    if argument = "evolve" then return .evolve (← evolveSignature.read {} rest)
    else if argument = "generate" then return .generate (← generateSignature.read {} rest)
    else if argument = "help" then .error (helpOn rest)
    else if looksLikeSwitch argument && argument ≠ "--" then do
      let _ ← readSwitches outerSignature () argument
      Command.read rest
    else .error .usage

end Progeny.CommandLine

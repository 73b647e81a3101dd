import Progeny.Host.Tool

/-!
# Options of tools

Options are letters behind a dash or names behind two dashes, and may take values.  They may stand
anywhere among the operands, up to two dashes that stand alone.
-/

namespace Progeny.Host

open Text (Bytes bytesOf)

/-- What follows an option. -/
inductive Taking where
  | nothing
  | value
  /-- A value only if it stands in the same argument. -/
  | maybe
  deriving DecidableEq, Repr

/-- The options of a tool. -/
structure OptionTable where
  letters : List (Char × Taking)
  /-- The names, and the letters that they stand for. -/
  names : List (String × Char) := []
  /-- Options end at the first operand. -/
  first : Bool := false

/-- What a tool was asked for. -/
structure Request where
  options : List (Char × String)
  operands : List String
  deriving Repr

namespace OptionTable

/-- The options with letters as in `ab:c::`, where one colon stands behind an option with a value and
two behind one that may have a value. -/
def lettersOf : List Char → List (Char × Taking)
  | c :: ':' :: ':' :: rest => (c, .maybe) :: lettersOf rest
  | c :: ':' :: rest => (c, .value) :: lettersOf rest
  | c :: rest => (c, .nothing) :: lettersOf rest
  | [] => []

/-- The options with the given letters. -/
def of (letters : String) (names : List (String × Char)) : OptionTable :=
  { letters := lettersOf letters.toList, names := names }

/-- Adds an option to a request. -/
def withOption (c : Char) (value : String) (request : Request) : Request :=
  { request with options := (c, value) :: request.options }

/-- Reads the letters of one argument; the result also says which letter still waits for its value. -/
def readLetters (table : OptionTable) : List Char → Except String (List (Char × String) × Option Char)
  | [] => .ok ([], none)
  | c :: rest =>
    match table.letters.lookup c with
    | none => .error ("invalid option -- '" ++ c.toString ++ "'")
    | some .nothing => do
      let (found, waiting) ← readLetters table rest
      return ((c, "") :: found, waiting)
    | some .maybe => .ok ([(c, String.ofList rest)], none)
    | some .value =>
      if rest.isEmpty then .ok ([], some c) else .ok ([(c, String.ofList rest)], none)

/-- The letter that a name stands for, of which the first part is enough if no other name begins so;
`written` is the whole argument behind its dashes. -/
def nameFor (table : OptionTable) (name written : String) : Except String Char :=
  match table.names.lookup name with
  | some c => .ok c
  | none =>
    match table.names.filter fun (long, _) => long.startsWith name with
    | [] => .error ("unrecognized option '--" ++ written ++ "'")
    | (_, c) :: more =>
      if more.all (·.2 = c) then .ok c
      else
        let all := table.names.filter fun (long, _) => long.startsWith name
        .error ("option '--" ++ written ++ "' is ambiguous; possibilities:" ++
          String.join (all.map fun (long, _) => " '--" ++ long ++ "'"))

/-- The full name of an option that was given by the first part of its name. -/
def fullName (table : OptionTable) (name : String) : String :=
  ((table.names.find? fun (long, _) => long == name).map (·.1)).getD
    (((table.names.find? fun (long, _) => long.startsWith name).map (·.1)).getD name)

/-- Reads an option by its name; the result also says whether it still waits for its value. -/
def readName (table : OptionTable) (text : String) : Except String ((Char × String) × Bool) := do
  let name := (text.splitOn "=").headD ""
  let value? := if text.toList.contains '=' then some ((text.drop (name.length + 1)).toString) else none
  let c ← table.nameFor name text
  match (table.letters.lookup c).getD .nothing, value? with
  | .nothing, none => return ((c, ""), false)
  | .nothing, some _ => throw ("option '--" ++ table.fullName name ++ "' doesn't allow an argument")
  | .value, none => return ((c, ""), true)
  | _, value => return ((c, value.getD ""), false)

/-- Reads arguments; `waiting` is the option that takes the next one as its value, and how it was
written. -/
def readFrom (table : OptionTable) : (waiting : Option (Char × String)) → List String →
    Except String Request
  | none, [] => .ok ⟨[], []⟩
  | some (_, written), [] => .error ("option " ++ written)
  | some (c, _), value :: rest => return withOption c value (← readFrom table none rest)
  | none, text :: rest =>
    match text.toList with
    | ['-', '-'] => .ok ⟨[], rest⟩
    | '-' :: '-' :: name => do
      let ((c, value), waits) ← table.readName (String.ofList name)
      if waits then
        readFrom table
          (some (c, "'--" ++ table.fullName (String.ofList name) ++ "' requires an argument")) rest
      else return withOption c value (← readFrom table none rest)
    | '-' :: c :: cs => do
      let (found, waiting) ← table.readLetters (c :: cs)
      let later ← readFrom table
        (waiting.map fun c => (c, "requires an argument -- '" ++ c.toString ++ "'")) rest
      return found.foldr (fun (c, value) request => withOption c value request) later
    | _ =>
      if table.first then .ok ⟨[], text :: rest⟩
      else do
        let later ← readFrom table none rest
        return { later with operands := text :: later.operands }

end OptionTable

namespace Request

/-- Whether an option was given. -/
def asks (request : Request) (c : Char) : Bool := request.options.any (·.1 == c)

/-- The value of an option, the last one counting. -/
def value? (request : Request) (c : Char) : Option String := request.options.reverse.lookup c

/-- All values of an option. -/
def values (request : Request) (c : Char) : List String :=
  (request.options.filter (·.1 == c)).map (·.2)

/-- The last of some options that was given. -/
def last? (request : Request) (cs : List Char) : Option Char :=
  ((request.options.filter fun (c, _) => cs.contains c).getLast?).map (·.1)

end Request

namespace Call

/-- Reads the options of a call, and goes on with them; a call with wrong options is answered with
`status`. -/
def withOptions (call : Call) (table : OptionTable) (status : Nat) (go : Request → Reply) : Reply :=
  match table.readFrom none call.texts with
  | .error text => call.misused status text
  | .ok request => go request

/-- Reads options that are letters and names without values to take care of. -/
def parsing (call : Call) (letters : String) (names : List (String × Char)) (go : Request → Reply) :
    Reply :=
  call.withOptions (.of letters names) 1 go

end Call

end Progeny.Host

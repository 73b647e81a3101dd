import Progeny.Host.Records.Parser
import Progeny.Host.Records.Value

/-!
# The state of a program on records

Its variables, the record and its fields, the files that it reads and writes, and the operations on them.
-/

namespace Progeny.Host.Records

open Text (Bytes bytesOf)

/-- What a name stands for. -/
inductive Binding where
  | value (v : Value)
  | array (id : Nat)
  /-- Nothing yet; an array of that name would have the given number. -/
  | fresh (id : Nat)

/-- Where something is printed. -/
inductive Outlet where
  | descriptor (n : Nat)
  | file (name : String)
  /-- What was printed for a command, the latest first. -/
  | command (printed : List Bytes)

/-- Why the usual order is left. -/
inductive Stop where
  | leave
  | proceed
  | next
  | nextFile
  | exit (status : Option Nat)
  | result (v : Value)
  | failed (text : String)
  /-- Something cannot be read or written. -/
  | refused (text : String)
  /-- More input is needed. -/
  | starved
  | order (order : Order)
  | endless

/-- The state of a program. -/
structure State where
  call : Call
  files : FileTree
  /-- What was printed, the latest first, and what will be when that is wanted. -/
  told : List (Nat × Bytes) := []
  waiting : List Bytes := []
  globals : List (String × Binding) := []
  locals : List (String × Binding) := []
  arrays : List (Nat × Table) := []
  fresh : Nat := 0
  record : Bytes := []
  fields : Array Value := #[]
  /-- What is left of the file that is read, if there is one. -/
  current : Option Bytes := none
  /-- More input may come behind that. -/
  isOpen : Bool := false
  /-- The next of the arguments, and whether one of them was a file. -/
  argument : Nat := 1
  hadFile : Bool := false
  reads : Bool := false
  /-- What is left of other files and of what commands have printed. -/
  readers : List (Bytes × Bytes) := []
  outlets : List (Bytes × Outlet) := []
  /-- The rules by two patterns that go on. -/
  active : List Nat := []
  answers : List (Nat × Bytes)
  seed : Nat := 1
  status : Nat := 0
  /-- The number of steps that are left. -/
  steps : Nat := 3000000

/-- A step of a program. -/
abbrev Run := EStateM Stop State

namespace Run

/-- Takes a step. -/
def tick : Run Unit := do
  let s ← get
  if s.steps = 0 then throw .endless
  set { s with steps := s.steps - 1 }

/-! ### Variables -/

/-- A number that no array has. -/
def freshId : Run Nat := do
  let s ← get
  set { s with fresh := s.fresh + 1 }
  return s.fresh

/-- Puts something in the place of what a name stands for. -/
def bind (name : String) (binding : Binding) : Run Unit := modify fun s =>
  let replaced (all : List (String × Binding)) : List (String × Binding) :=
    all.map fun (n, old) => (n, if n == name then binding else old)
  if (s.locals.lookup name).isSome then { s with locals := replaced s.locals }
  else if (s.globals.lookup name).isSome then { s with globals := replaced s.globals }
  else { s with globals := (name, binding) :: s.globals }

/-- What a name stands for. -/
def binding (name : String) : Run Binding := do
  let s ← get
  match (s.locals.lookup name).or (s.globals.lookup name) with
  | some found => return found
  | none =>
    let found := Binding.fresh (← freshId)
    bind name found
    return found

/-- The number of the array of a name. -/
def arrayId (name : String) : Run Nat := do
  match ← binding name with
  | .array id => return id
  | .fresh id =>
    bind name (.array id)
    return id
  | .value _ => throw (.failed ("can't use scalar " ++ name ++ " as array"))

/-- The array of a name. -/
def table (name : String) : Run Table := do
  let id ← arrayId name
  return ((← get).arrays.lookup id).getD {}

/-- Puts an array in the place of that of a name. -/
def setTable (name : String) (t : Table) : Run Unit := do
  let id ← arrayId name
  modify fun s => { s with arrays := (id, t) :: s.arrays.filter (·.1 != id) }

/-- The text of a variable. -/
def textOf (name : String) : Run Bytes := do
  match ← binding name with
  | .value (.number x) => return Value.numberText (bytesOf "%.6g") x
  | .value v => return v.toText []
  | _ => return []

/-- The format for numbers that become texts. -/
def conversion : Run Bytes := textOf "CONVFMT"

/-- A value as text. -/
def toText (v : Value) : Run Bytes := do
  match v with
  | .number x =>
    match whole? x with
    | some n => return bytesOf (toString n)
    | none => return Value.numberText (← conversion) x
  | v => return v.toText []

/-! ### Fields -/

/-- How a text is split. -/
inductive Splitter where
  | blanks
  | octets
  | octet (b : UInt8)
  | regex (r : Regex)

/-- The splitter that a text stands for. -/
def splitter (text : Bytes) : Run Splitter :=
  match text with
  | [] => return .octets
  | [b] => return if b = 32 then .blanks else .octet b
  | _ =>
    match regexOf text with
    | .ok r => return .regex r
    | .error fault => throw (.failed (regexComplaint fault text))

/-- The parts of a text between matches of an expression that are not empty. -/
def splitAtMatches (r : Regex) : (fuel : Nat) → (passed rest : List Symbol) → List (List Symbol)
  | 0, _, rest => [rest]
  | fuel + 1, passed, rest =>
    match r.findFrom? {} (fun found => ! found.text.isEmpty) passed rest with
    | none => [rest]
    | some found =>
      found.before.drop passed.length ::
        splitAtMatches r fuel (found.text.reverse ++ found.before.reverse) found.after

/-- The parts of a text. -/
def Splitter.split (splitter : Splitter) (bytes : Bytes) : List Bytes :=
  if bytes.isEmpty then []
  else match splitter with
    | .blanks => (splitBytes isBlank bytes).filter (! ·.isEmpty)
    | .octets => bytes.map ([·])
    | .octet b => splitBytes (· == b) bytes
    | .regex r => (splitAtMatches r (bytes.length + 1) [] (symbolsOf bytes)).map octetsOf

/-- The splitter of records, which also splits at line feeds if records may have several lines. -/
def fieldSplitter : Run Splitter := do
  let text ← textOf "FS"
  let found ← splitter text
  if (← textOf "RS").isEmpty then
    match found with
    | .octet b => return .regex (.alt (.symbol (octetSymbol b)) (.symbol 10))
    | .regex r => return .regex (.alt r (.symbol 10))
    | other => return other
  return found

/-- Makes a text the record. -/
def setRecord (bytes : Bytes) : Run Unit := do
  let fields := ((← fieldSplitter).split bytes).map Value.loose
  modify fun s => { s with record := bytes, fields := fields.toArray }

/-- Joins the fields to the record. -/
def joinFields : Run Unit := do
  let separator ← textOf "OFS"
  let texts ← (← get).fields.toList.mapM toText
  modify fun s => { s with record := separator.intercalate texts }

/-- Makes the number of fields what is asked for. -/
def setCount (n : Nat) : Run Unit := do
  let missing : List Value := List.replicate (n - (← get).fields.size) (.loose [])
  modify fun s => { s with fields := ((s.fields.toList ++ missing).take n).toArray }
  joinFields

/-- A field; the record is the one with the number zero. -/
def field (n : Int) : Run Value := do
  let s ← get
  if n < 0 then throw (.failed ("negative field index $" ++ toString n))
  if n = 0 then return .loose s.record
  return (s.fields[n.toNat - 1]?).getD (.loose [])

/-- Puts a value in the place of a field. -/
def setField (n : Int) (v : Value) : Run Unit := do
  if n < 0 then throw (.failed ("negative field index $" ++ toString n))
  if n = 0 then setRecord (← toText v)
  else
    let index := n.toNat - 1
    modify fun s =>
      let missing := Array.replicate (n.toNat - s.fields.size) (Value.loose [])
      { s with fields := (s.fields ++ missing).setIfInBounds index v }
    joinFields

/-- The value of a variable. -/
def valueOf (name : String) : Run Value := do
  if name = "NF" then return .ofNat (← get).fields.size
  match ← binding name with
  | .value v => return v
  | .fresh _ => return .unset
  | .array _ => throw (.failed ("can't use array " ++ name ++ " as scalar"))

/-- Gives a value to a variable. -/
def setVariable (name : String) (v : Value) : Run Unit := do
  if name = "NF" then setCount (truncated v.toNumber).toNat
  else bind name (.value v)

/-! ### Output -/

/-- Prints what waits. -/
def flush : Run Unit := modify fun s =>
  if s.waiting.isEmpty then s else { s with told := (1, s.waiting.reverse.flatten) :: s.told, waiting := [] }

/-- Prints on a descriptor. -/
def print (n : Nat) (bytes : Bytes) : Run Unit := modify fun s =>
  if n = 1 then { s with waiting := bytes :: s.waiting } else { s with told := (n, bytes) :: s.told }

/-- Has a command carried out. -/
def ask (order : Order) : Run (Nat × Bytes) := do
  match (← get).answers with
  | answer :: rest =>
    modify fun s => { s with answers := rest }
    return answer
  | [] => throw (.order order)

/-- The complaint about a file that cannot be opened. -/
def cannotOpen (name : Bytes) (purpose : String) (e : FileError) : Stop :=
  .refused ("cannot open \"" ++ Text.Utf8.decode name ++ "\"" ++ purpose ++ " (" ++ e.message ++ ")")

/-- The outlet of a name, which is opened if it was not. -/
def outlet (sink : Sink) (name : Bytes) : Run Outlet := do
  let s ← get
  match s.outlets.lookup name with
  | some found => return found
  | none =>
    let text := Text.Utf8.decode name
    let opened : Outlet ← match sink with
      | .command => do
        flush
        pure (.command [])
      | _ =>
        if text = "/dev/stdout" || text = "-" then pure (.descriptor 1)
        else if text = "/dev/stderr" then pure (.descriptor 2)
        else
          match s.files.openForWriting s.call.directory text (0o666 - (0o666 &&& s.call.umask)) false with
          | .error e => throw (cannotOpen name " for output" e)
          | .ok (files, .file number) =>
            let files := if sink matches .new then files.setContent number [] else files
            set { s with files := files }
            pure (.file text)
          | .ok (_, .device (.descriptor n)) => pure (.descriptor n)
          | .ok _ => pure (.file text)
    modify fun s => { s with outlets := (name, opened) :: s.outlets }
    return opened

/-- Prints to an outlet. -/
def printTo (sink : Sink) (name bytes : Bytes) : Run Unit := do
  match ← outlet sink name with
  | .descriptor n => print n bytes
  | .command printed =>
    modify fun s => { s with
      outlets := s.outlets.map fun (n, o) => (n, if n == name then .command (bytes :: printed) else o) }
  | .file text =>
    let s ← get
    let before := (s.files.read s.call.directory text).toOption.getD []
    match s.files.write s.call.directory text 0o644 (before ++ bytes) with
    | .ok files => set { s with files := files }
    | .error _ => return ()

/-- Closes what has a name; the result is the status, if there was anything. -/
def close (name : Bytes) : Run (Option Nat) := do
  let s ← get
  match s.outlets.lookup name with
  | some found =>
    set { s with outlets := s.outlets.filter (·.1 != name) }
    match found with
    | .command printed => return some (← ask { command := name, input := some printed.reverse.flatten }).1
    | _ => return some 0
  | none =>
    if (s.readers.lookup name).isSome then
      set { s with readers := s.readers.filter (·.1 != name) }
      return some 0
    else return none

/-- Closes all outlets, the latest first. -/
def closeAll : (fuel : Nat) → Run Unit
  | 0 => return ()
  | fuel + 1 => do
    match (← get).outlets with
    | [] => return ()
    | (name, _) :: _ =>
      let _ ← close name
      closeAll fuel

/-! ### Input -/

/-- The record at the beginning of a text, and what follows; `none` if there is no more. -/
def recordIn (isOpen : Bool) (rest : Bytes) : Run (Option (Bytes × Bytes)) := do
  let last : Run (Option (Bytes × Bytes)) := do
    if isOpen then throw .starved
    return if rest.isEmpty then none else some (rest, [])
  match ← textOf "RS" with
  | [b] =>
    let text := rest.takeWhile (· != b)
    match rest.drop text.length with
    | [] => last
    | _ :: left => return some (text, left)
  | [] =>
    let rest := rest.dropWhile (· == lineFeed)
    let rec go (text : Bytes) : Bytes → Bytes × Option Bytes
      | 10 :: 10 :: left => (text.reverse, some (left.dropWhile (· == lineFeed)))
      | [10] => (text.reverse, none)
      | b :: left => go (b :: text) left
      | [] => (text.reverse, none)
    match go [] rest with
    | (text, some left) => return some (text, left)
    | (text, none) =>
      if isOpen then throw .starved
      return if rest.isEmpty then none else some (text, [])
  | separator =>
    match regexOf separator with
    | .error fault => throw (.failed (regexComplaint fault separator))
    | .ok r =>
      match r.findFrom? {} (fun found => ! found.text.isEmpty) [] (symbolsOf rest) with
      | none => last
      | some found =>
        if isOpen && found.after.isEmpty then throw .starved
        return some (octetsOf found.before, octetsOf found.after)

/-- The parts of an assignment that stands among the arguments. -/
def assignment? (argument : Bytes) : Option (String × Bytes) :=
  let name := argument.takeWhile fun b => isLetter b || isDigit b
  match argument.drop name.length with
  | 61 :: value =>
    if name.head?.any isLetter then some (Text.Utf8.decode name, unescape (value.length + 1) value) else none
  | _ => none

/-- Goes on to the next file among the arguments; the result says whether there is one. -/
def nextFile : (fuel : Nat) → Run Bool
  | 0 => return false
  | fuel + 1 => do
    let s ← get
    let opening (name : Bytes) (content : Except FileError Bytes) (isOpen : Bool) : Run Bool := do
      match content with
      | .error .isDirectory => throw (.refused "read error (Is a directory)")
      | .error e => throw (cannotOpen name "" e)
      | .ok bytes =>
        modify fun s => { s with current := some bytes, isOpen := isOpen, hadFile := true, reads := s.reads || isOpen }
        return true
    let input : Run Bool := do
      modify fun s => { s with reads := true }
      opening (bytesOf "-") (s.call.readOrInput "-") (! s.call.ended)
    let count := truncated (← valueOf "ARGC").toNumber
    if (s.argument : Int) < count then
      set { s with argument := s.argument + 1 }
      let value := ((← table "ARGV").get? (.number s.argument)).getD .unset
      let name ← toText value
      if name.isEmpty then nextFile fuel
      else match assignment? name with
        | some (assigned, value) =>
          setVariable assigned (.loose value)
          nextFile fuel
        | none =>
          setVariable "FILENAME" (.text name)
          setVariable "FNR" (.ofNat 0)
          let text := Text.Utf8.decode name
          if text = "-" || text = "/dev/stdin" then input
          else opening name ({ s.call with files := s.files }.read text) false
    else if s.hadFile then return false
    else
      modify fun s => { s with hadFile := true }
      input

/-- The next record of the input, if there is one. -/
def nextRecord : (fuel : Nat) → Run (Option Bytes)
  | 0 => return none
  | fuel + 1 => do
    let s ← get
    match s.current with
    | none => if ← nextFile (s.argument + 1000) then nextRecord fuel else return none
    | some rest =>
      match ← recordIn s.isOpen rest with
      | none =>
        modify fun s => { s with current := none }
        nextRecord fuel
      | some (text, left) =>
        modify fun s => { s with current := some left }
        let count (name : String) : Run Unit := do
          setVariable name (.number ((← valueOf name).toNumber + 1))
        count "NR"
        count "FNR"
        return some text

end Run

end Progeny.Host.Records

import Progeny.Host.Tool
import Progeny.Shell.Arithmetic
import Progeny.Shell.Pattern
import Progeny.Shell.Session

/-!
# Words

Parameters, command substitutions and arithmetic are replaced by their values; what was not quoted is
then split into fields and matched against the names of files.
-/

namespace Progeny.Shell

open Host
open Text (Bytes bytesOf)

/-- A part of an expanded word. -/
inductive Atom where
  /-- An octet, and whether a field may end at it. -/
  | octet (o : Octet) (splits : Bool)
  /-- There is a field here, even if it is empty. -/
  | mark
  /-- One argument ends here and the next begins. -/
  | gap (quoted : Bool)
  deriving DecidableEq

namespace Atom

/-- A value, which is split unless it is quoted. -/
def value (quoted : Bool) (bytes : Bytes) : List Atom :=
  (if quoted then [.mark] else []) ++ bytes.map fun b => .octet ⟨quoted, b⟩ (! quoted)

/-- Text as it is written, which is not split. -/
def written (quoted : Bool) (bytes : Bytes) : List Atom :=
  (if quoted then [.mark] else []) ++ bytes.map fun b => .octet ⟨quoted, b⟩ false

/-- Text that takes the place of a value is split where it is not quoted. -/
def asValue (atoms : List Atom) : List Atom := atoms.map fun
  | .octet o _ => .octet o (! o.quoted)
  | atom => atom

/-- The octets among some atoms, which are not split; `between` stands for the end of an argument. -/
def octets (between : Bytes) (atoms : List Atom) : List Octet := atoms.flatMap fun
  | .octet o _ => [o]
  | .gap _ => between.map fun b => ⟨true, b⟩
  | .mark => []

/-- The octets that fields are split at: blanks, and signs that are no blanks. -/
structure Separators where
  all : Bytes

namespace Separators

/-- The blanks among the octets that fields are split at by default. -/
def blanks : Bytes := [32, 9, 10]

def has (s : Separators) (b : UInt8) : Bool := s.all.contains b

def isBlank (s : Separators) (b : UInt8) : Bool := s.has b && blanks.contains b

end Separators

/-- Splits atoms into fields.  `field` is the field so far, backwards; `skipping` says that a separator
has just ended a field, and whether a sign may still belong to it. -/
def fieldsFrom (s : Separators) : (field : List Atom) → (skipping : Option Bool) → List Atom →
    List (List Atom)
  | field, _, [] => if field.isEmpty then [] else [field.reverse]
  | field, skipping, atom :: rest =>
    match atom with
    | .octet o true =>
      if ! s.has o.value then fieldsFrom s (atom :: field) none rest
      else if s.isBlank o.value then
        if skipping.isSome || field.isEmpty then fieldsFrom s field skipping rest
        else field.reverse :: fieldsFrom s [] (some true) rest
      else if skipping = some true then fieldsFrom s field (some false) rest
      else field.reverse :: fieldsFrom s [] (some false) rest
    | .gap false =>
      if field.isEmpty then fieldsFrom s field skipping rest
      else field.reverse :: fieldsFrom s [] none rest
    | .gap true => field.reverse :: fieldsFrom s [] none rest
    | _ => fieldsFrom s (atom :: field) none rest

end Atom

namespace Session

/-- The letters of the options, in the order in which they are told. -/
def optionLetters : List Char := "ubaCEVvxsnmiIfe".toList

/-- The value of a parameter; `none` if it is unset. -/
def parameter? (s : Session) (name : String) : Option Bytes :=
  if name = "#" then some (bytesOf s.arguments.length.repr)
  else if name = "?" then some (bytesOf s.status.repr)
  else if name = "$" then some (bytesOf s.shell.repr)
  else if name = "!" then s.lastJob.map fun n => bytesOf n.repr
  else if name = "-" then some (bytesOf (String.ofList (optionLetters.filter s.options.contains)))
  else match natural? name with
    | some 0 => some s.name
    | some (n + 1) => s.arguments[n]?
    | none => (s.bindings.lookup name).bind (·.value)

/-- The octets that fields are split at. -/
def separators (s : Session) : Atom.Separators :=
  ⟨((s.bindings.lookup "IFS").bind (·.value)).getD Atom.Separators.blanks⟩

/-- What stands between arguments that are put together. -/
def joint (s : Session) : Bytes :=
  match (s.bindings.lookup "IFS").bind (·.value) with
  | some separators => separators.take 1
  | none => [32]

end Session

/-! ### File names -/

/-- What matches the components of a path behind what was found so far. -/
def pathsFrom (files : FileTree) (directory : Path) : (before : Bytes) → List (List Octet) → List Bytes
  | before, [] => [before]
  | before, component :: rest =>
    let inside := if before.isEmpty then "." else Text.Utf8.decode before
    let found : List Bytes :=
      if Pattern.isPattern component then
        match files.locate directory inside true with
        | .error _ => []
        | .ok path =>
          if ! files.isDirectory path then []
          else
            let hidden := (Pattern.unescape component).head?.any (·.value == 46)
            let pattern := Pattern.items component
            ("." :: ".." :: files.children path).filterMap fun name =>
              if hidden == name.startsWith "." && Pattern.accepts pattern (bytesOf name) then
                some (before ++ bytesOf name)
              else none
      else [before ++ (Pattern.unescape component).map (·.value)]
    let exists? (name : Bytes) : Bool :=
      (files.find directory (Text.Utf8.decode name) false).toOption.isSome
    if rest.isEmpty then found.filter exists?
    else found.flatMap fun name => pathsFrom files directory (name ++ [47]) rest

/-- The names of files that a field matches, or the field itself. -/
def matching (files : FileTree) (directory : Path) (field : List Octet) : List Bytes :=
  let literal := field.map (·.value)
  if ! Pattern.isPattern field then [literal]
  else
    let components := field.foldr (fun o found =>
      if o.value == 47 then [] :: found
      else match found with
        | [] => [[o]]
        | component :: rest => (o :: component) :: rest) [[]]
    match pathsFrom files directory [] components with
    | [] => [literal]
    | found => found.mergeSort noLater

namespace Expand

/-- Octets without the line feeds at their end. -/
def withoutFinalFeeds (bytes : Bytes) : Bytes := (bytes.reverse.dropWhile (· == lineFeed)).reverse

/-- All arguments, each of them a field if they are quoted. -/
def allArguments (quoted : Bool) (arguments : List Bytes) : List Atom :=
  [Atom.gap quoted].intercalate (arguments.map (Atom.value quoted))

/-- The directory that a tilde with a name behind it stands for. -/
def homeOf? (s : Session) (name : Bytes) : Option Bytes :=
  if name.isEmpty then s.parameter? "HOME"
  else if name = bytesOf "root" then some (bytesOf "/root")
  else none

/-- How a word is expanded. -/
structure Context where
  /-- It is split into fields. -/
  splits : Bool := false
  /-- Tildes may stand for directories. -/
  tildes : Bool := true
  /-- It is a value that is assigned, so that tildes may also stand behind colons. -/
  assignment : Bool := false

/-- Text in which a tilde stands for a directory where one may begin.  `isLast` says that nothing
follows the text. -/
def tildesFrom (s : Session) (assignment isLast : Bool) : (fuel : Nat) → (begins : Bool) → Bytes →
    List Atom
  | 0, _, bytes => Atom.written false bytes
  | _, _, [] => []
  | fuel + 1, begins, b :: rest =>
    let name := rest.takeWhile fun b => b != 47 && ! (assignment && b == 58)
    let after := rest.drop name.length
    let home := if begins && b == 126 && ! (after.isEmpty && ! isLast) then homeOf? s name else none
    match home with
    | some home =>
      Atom.written true home ++ tildesFrom s assignment isLast fuel false after
    | none =>
      Atom.written false [b] ++ tildesFrom s assignment isLast fuel (assignment && b == 58) rest

/-- The atoms of text that is not quoted. -/
def textAtoms (s : Session) (context : Context) (isFirst isLast : Bool) (bytes : Bytes) : List Atom :=
  if context.tildes && bytes.contains 126 then
    tildesFrom s context.assignment isLast (bytes.length + 1) isFirst bytes
  else Atom.written false bytes

/-- The runner of the commands of a substitution, in a process of their own. -/
abbrev Inside := Script → Act Unit

/-- The text of a failure of arithmetic. -/
def arithmeticMessage (text : Bytes) : Arithmetic.Failure → Bytes
  | .illegal value => bytesOf "Illegal number: " ++ value
  | .divisionByZero => bytesOf "arithmetic expression: division by zero: \"" ++ text ++ [34]
  | .expecting what => bytesOf ("arithmetic expression: expecting " ++ what ++ ": \"") ++ text ++ [34]

/-- The value of an expression. -/
def arithmetic (text : Bytes) : Act Bytes := do
  match Arithmetic.evaluate (← get).parameter? text with
  | .error e => Session.failWith (arithmeticMessage text e)
  | .ok (n, given) =>
    assignAll given.reverse
    return bytesOf (toString n.toInt)
where
  assignAll : List (String × Int64) → Act Unit
    | [] => return ()
    | (name, n) :: rest => do
      Session.assign name (bytesOf (toString n.toInt))
      assignAll rest

/-- What the commands of a substitution print. -/
def outputOf (inside : Inside) (script : Script) : Act Bytes := do
  if script matches .nothing then
    modify fun s => { s with substituted := some 0 }
    return []
  let id ← Act.onMachine fun s m =>
    let (m, id) := m.newPipe
    (id, m.changeSlot s.pid fun slot => { slot with saved := .pipe id false :: slot.saved })
  let pid ← Session.forkForeground
    (fun slot => { slot with descriptors := (1, .pipe id true) :: slot.descriptors.filter (·.1 != 1) })
    (inside script)
  let found ← collect id 100000
  Act.change fun s m =>
    m.changeSlot s.pid fun slot => { slot with saved := slot.saved.erase (.pipe id false) }
  let outer := (← get).status
  Session.awaitForeground pid
  modify fun s => { s with substituted := some s.status, status := outer }
  return withoutFinalFeeds (found.filter (· != 0))
where
  collect (id : Nat) : Nat → Act Bytes
    | 0 => Act.hang
    | fuel + 1 => do
      Act.await fun m =>
        ((m.pipes.lookup id).any fun pipe => pipe.size > 0) || ! m.isHeld (.pipe id true)
      let found ← Act.onMachine fun _ m =>
        (((m.pipes.lookup id).map fun pipe => pipe.chunks.reverse.flatten).getD [], m.setPipe id ⟨[], 0⟩)
      if found.isEmpty then return []
      else return found ++ (← collect id fuel)

/-- The value of a parameter that was asked for without a modifier. -/
def plain (s : Session) (quoted splits : Bool) (name : String) (value : Bytes) : List Atom :=
  if name = "@" && (splits || ! quoted) then allArguments (quoted && splits) s.arguments
  else if name = "*" && ! quoted then allArguments false s.arguments
  else if name = "@" || name = "*" then Atom.value quoted (s.joint.intercalate s.arguments)
  else Atom.value quoted value

/-- The atoms of a parameter, `word` being expanded where it is needed. -/
def parameter (splits quoted : Bool) (name : String) (modifier : Modifier) (word : Act (List Atom)) :
    Act (List Atom) := do
  let s ← get
  let isAll := name = "@" || name = "*"
  let found := if isAll then
      if s.arguments.isEmpty then none else some (s.joint.intercalate s.arguments)
    else s.parameter? name
  let isSet (orEmpty : Bool) : Bool := match found with
    | some value => ! (orEmpty && value.isEmpty)
    | none => isAll && ! orEmpty
  let value := found.getD []
  let whole := plain s quoted splits name value
  let given : Act (List Atom) := do
    let atoms ← word
    return if quoted then .mark :: atoms else Atom.asValue atoms
  let requireSet : Act Unit := do
    if s.options.contains 'u' && found.isNone && ! isAll then
      Session.fail (name ++ ": parameter not set")
  match modifier with
  | .plain =>
    requireSet
    return whole
  | .length =>
    requireSet
    return Atom.value quoted (bytesOf value.length.repr)
  | .otherwise orEmpty => if isSet orEmpty then return whole else given
  | .instead orEmpty => if isSet orEmpty then given else return Atom.value quoted []
  | .assigning orEmpty =>
    if isSet orEmpty then return whole
    if ! (name.toList.head?.any fun c => c.isAlpha || c == '_') then
      Session.fail (name ++ ": bad variable name")
    let atoms ← word
    let new := (Atom.octets s.joint atoms).map (·.value)
    Session.assign name new
    return Atom.value quoted new
  | .required orEmpty =>
    if isSet orEmpty then return whole
    let text := (Atom.octets s.joint (← word)).map (·.value)
    let otherwise := if orEmpty then "parameter not set or null" else "parameter not set"
    Session.failWith (bytesOf (name ++ ": ") ++ if text.isEmpty then bytesOf otherwise else text)
  | .cut atEnd longest =>
    requireSet
    let pattern := Pattern.items (Atom.octets s.joint (← word))
    return Atom.value quoted (Pattern.cutOff atEnd longest pattern value)
  | .unknown => Session.fail "Bad substitution"

/-- Whether a quoted piece comes next. -/
def nextIsQuoted : List Piece → Bool
  | piece :: _ => piece.isQuoted
  | [] => false

mutual

/-- The atoms of a piece; `alone` says that no other quoted piece stands beside it. -/
def piece (inside : Inside) (context : Context) (alone isFirst isLast : Bool) : Piece → Act (List Atom)
  | .text true bytes => return Atom.written true bytes
  | .text false bytes => return textAtoms (← get) context isFirst isLast bytes
  | .parameter quoted name modifier word => do
    let found ← parameter context.splits quoted name modifier
      (pieces inside { context with tildes := true, assignment := false } false true word)
    return if quoted && name = "@" && ! alone then .mark :: found else found
  | .output quoted script => return Atom.value quoted (← outputOf inside script)
  | .arithmetic quoted expression => do
    let atoms ← pieces inside { tildes := false } false true expression
    let text := (Atom.octets (← get).joint atoms).map (·.value)
    return Atom.value quoted (← arithmetic text)

/-- The atoms of some pieces; `afterQuoted` says that a quoted piece stands before them. -/
def pieces (inside : Inside) (context : Context) (afterQuoted isFirst : Bool) :
    List Piece → Act (List Atom)
  | [] => return []
  | p :: rest => do
    let alone := ! afterQuoted && ! nextIsQuoted rest
    let atoms ← piece inside context alone isFirst rest.isEmpty p
    return atoms ++ (← pieces inside context p.isQuoted false rest)

end

/-- The fields that a word stands for. -/
def fields (inside : Inside) (word : List Piece) : Act (List Bytes) := do
  let atoms ← pieces inside { splits := true } false true word
  let s ← get
  let found := (Atom.fieldsFrom s.separators [] none atoms).map (Atom.octets [])
  if s.options.contains 'f' then return found.map fun field => field.map (·.value)
  else if found.any Pattern.isPattern then
    let files := (← Act.machine).files
    return found.flatMap fun field => matching files s.directory field
  else return found.map fun field => field.map (·.value)

/-- The fields that some words stand for. -/
def allFields (inside : Inside) : List (List Piece) → Act (List Bytes)
  | [] => return []
  | word :: rest => do
    let found ← fields inside word
    return found ++ (← allFields inside rest)

/-- The octets of a word that is not split. -/
def octets (inside : Inside) (context : Context) (word : List Piece) : Act (List Octet) := do
  let atoms ← pieces inside context false true word
  return Atom.octets (← get).joint atoms

/-- The value of a word that is not split. -/
def single (inside : Inside) (context : Context) (word : List Piece) : Act Bytes := do
  return (← octets inside context word).map (·.value)

end Expand

end Progeny.Shell

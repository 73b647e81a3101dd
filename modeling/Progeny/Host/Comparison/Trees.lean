import Progeny.Host.Comparison.Lines
import Progeny.Host.Comparison.Octets
import Progeny.Host.Errand
import Progeny.Host.Glob

/-!
# Comparison of files and directories

The tool that tells how two files differ line by line, or all files of two directories.
-/

namespace Progeny.Host.Comparison

open Text (Bytes bytesOf)

/-- The options.  Letters that are no ASCII stand for options that have a name only. -/
def lineOptions : OptionTable := .of
  "0123456789abBcC:dD:eEfF:hHiI:lL:nNpPqrsS:tTuU:vwW:x:yZàéèêë:ï::ôüç::ú::"
  [("normal", 'à'), ("strip-trailing-cr", 'é'), ("left-column", 'è'), ("suppress-common-lines", 'ê'),
   ("tabsize", 'ë'), ("color", 'ï'), ("no-dereference", 'ô'), ("suppress-blank-empty", 'ü'),
   ("context", 'ç'), ("unified", 'ú'), ("text", 'a'), ("ignore-space-change", 'b'), ("ignore-blank-lines", 'B'),
   ("minimal", 'd'), ("ed", 'e'), ("ignore-tab-expansion", 'E'), ("forward-ed", 'f'),
   ("show-function-line", 'F'), ("speed-large-files", 'H'), ("ignore-case", 'i'),
   ("ignore-matching-lines", 'I'), ("paginate", 'l'), ("label", 'L'), ("rcs", 'n'), ("new-file", 'N'),
   ("show-c-function", 'p'), ("unidirectional-new-file", 'P'), ("brief", 'q'), ("recursive", 'r'),
   ("report-identical-files", 's'), ("starting-file", 'S'), ("expand-tabs", 't'), ("initial-tab", 'T'),
   ("version", 'v'), ("ignore-all-space", 'w'), ("width", 'W'), ("exclude", 'x'), ("side-by-side", 'y'),
   ("ignore-trailing-space", 'Z')]

/-- What is asked for. -/
structure Scope where
  manner : Manner := {}
  form : Option Form := none
  /-- The number of lines around a place that was given by digits. -/
  digits : Option Nat := none
  /-- Such a number was given with its option. -/
  explicit : Bool := false
  /-- It is only told whether there is a difference. -/
  brief : Bool := false
  /-- It is told of files that are alike, too. -/
  tellsAlike : Bool := false
  deep : Bool := false
  /-- A file that is missing on either side, or only on the left one, counts as an empty one. -/
  fillsAny : Bool := false
  fillsLeft : Bool := false
  excluded : List String := []
  /-- The options, as they were written. -/
  switches : String := ""

namespace Scope

/-- Asks for a form; there can be only one. -/
def withForm (s : Scope) (form : Form) : Except String Scope :=
  if s.form.any (· ≠ form) then .error "conflicting output style options" else .ok { s with form := some form }

/-- Asks for a form with at least `n` lines around a place. -/
def withLines (s : Scope) (form : Form) (n : Nat) : Except String Scope :=
  { s with manner := { s.manner with around := max s.manner.around n } }.withForm form

/-- Asks for a form with as many lines as a text says. -/
def withText (s : Scope) (form : Form) (text : String) : Except String Scope :=
  match natural? text with
  | some n => { s with explicit := true }.withLines form n
  | none => .error ("invalid context length '" ++ text ++ "'")

/-- Takes less of the white space into account. -/
def withBlanks (s : Scope) (blanks : Blanks) : Scope :=
  let rank : Blanks → Nat
    | .everywhere => 0
    | .untilEnd => 1
    | .loosely => 2
    | .nowhere => 3
  if rank s.manner.blanks < rank blanks then { s with manner := { s.manner with blanks := blanks } } else s

/-- The expression that a text stands for. -/
def expression (text : String) : Except String Regex :=
  match Regex.read ⟨false, false⟩ (Symbol.ofBytes (bytesOf text)) with
  | .ok written => .ok written.regex
  | .error fault => .error (text ++ ": " ++ fault.message)

/-- Adds an option. -/
def adding (s : Scope) (option : Char × String) : Except String Scope := do
  let m := s.manner
  let (letter, value) := option
  match letter with
  | 'a' => return { s with manner := { m with isText := true } }
  | 'b' => return s.withBlanks .loosely
  | 'Z' => return s.withBlanks .untilEnd
  | 'w' => return s.withBlanks .nowhere
  | 'B' => return { s with manner := { m with ignoresBlankLines := true } }
  | 'E' => return { s with manner := { m with widensTabs := true } }
  | 'i' => return { s with manner := { m with anyCase := true } }
  | 'I' => return { s with manner := { m with ignored := m.ignored ++ [← expression value] } }
  | 'é' => return { s with manner := { m with dropsReturns := true } }
  | 'F' => return { s with manner := { m with heading := some (← expression value) } }
  | 'p' => return { s with manner := { m with heading := some (← expression "^[[:alpha:]$_]") } }
  | 't' => return { s with manner := { m with expands := true } }
  | 'T' => return { s with manner := { m with indents := true } }
  | 'è' => return { s with manner := { m with leftOnly := true } }
  | 'ê' => return { s with manner := { m with hidesCommon := true } }
  | 'L' => return { s with manner := { m with labels := m.labels ++ [value] } }
  | 'W' => match natural? value with
    | some n => if n = 0 then throw ("invalid width '" ++ value ++ "'") else return { s with manner := { m with width := n } }
    | none => throw ("invalid width '" ++ value ++ "'")
  | 'ë' => match natural? value with
    | some n => if n = 0 then throw ("invalid tabsize '" ++ value ++ "'") else return { s with manner := { m with tabSize := n } }
    | none => throw ("invalid tabsize '" ++ value ++ "'")
  | 'c' => s.withLines .context 3
  | 'u' => s.withLines .unified 3
  | 'C' => s.withText .context value
  | 'U' => s.withText .unified value
  | 'ç' => if value.isEmpty then s.withLines .context 3 else s.withText .context value
  | 'ú' => if value.isEmpty then s.withLines .unified 3 else s.withText .unified value
  | 'e' => s.withForm .editor
  | 'f' => s.withForm .forward
  | 'n' => s.withForm .counted
  | 'y' => s.withForm .columns
  | 'à' => s.withForm .normal
  | 'q' => return { s with brief := true }
  | 's' => return { s with tellsAlike := true }
  | 'r' => return { s with deep := true }
  | 'N' => return { s with fillsAny := true }
  | 'P' => return { s with fillsLeft := true }
  | 'x' => return { s with excluded := value :: s.excluded }
  | d =>
    if d.isDigit then return { s with digits := some (s.digits.getD 0 * 10 + (d.toNat - 48)) } else return s

/-- The scope when all options were added. -/
def finished (s : Scope) (heads : Bool) : Scope :=
  let m := s.manner
  let form := s.form.getD (if heads then .context else .normal)
  let around := if s.form.isNone && heads then 3 else m.around
  let around := match s.digits with
    | some n =>
      if (form = .context || form = .unified) && (around < n || (n < around && ! s.explicit)) then n else around
    | none => around
  { s with manner := { m with form := form, around := around } }

end Scope

/-- The options among arguments, as they were written, each behind a blank. -/
def switchesIn : (takes : Bool) → List String → String
  | _, [] => ""
  | true, text :: rest => " " ++ shownName text ++ switchesIn false rest
  | false, text :: rest =>
    match text.toList with
    | ['-', '-'] => ""
    | '-' :: '-' :: name =>
      let takes := ((lineOptions.readName (String.ofList name)).toOption.map (·.2)).getD false
      " " ++ shownName text ++ switchesIn takes rest
    | '-' :: c :: cs =>
      let takes := ((lineOptions.readLetters (c :: cs)).toOption.bind (·.2)).isSome
      " " ++ shownName text ++ switchesIn takes rest
    | _ => switchesIn false rest

/-- The scope that options ask for. -/
def scopeOf (call : Call) (request : Request) : Except String Scope := do
  let s ← request.options.foldlM (fun (s : Scope) option => s.adding option) {}
  let s := { s.finished (request.asks 'p') with switches := switchesIn false call.texts }
  match request.operands with
  | [_, _] => return s
  | _ :: _ :: extra :: _ => throw ("extra operand '" ++ extra ++ "'")
  | operands =>
    throw ("missing operand after '" ++ (operands.getLast?.getD (call.texts.getLast?.getD call.name)) ++ "'")

/-- What was printed, and the status. -/
structure Findings where
  printed : List (Nat × Bytes) := []
  status : Nat := 0

/-- What was found first, and what later. -/
def Findings.then (a b : Findings) : Findings := ⟨a.printed ++ b.printed, max a.status b.status⟩

/-- A finding that is told in a line. -/
def found (text : String) : Findings := ⟨[(1, line text)], 1⟩

/-- A fault that is complained about. -/
def fault (call : Call) (text : String) : Findings := ⟨[(2, call.complaint text)], 2⟩

/-- The two lines over places with lines around them. -/
def headingOf (m : Manner) (left right : String) : Bytes :=
  let name (k : Nat) (given : String) : String := match m.labels[k]? with
    | some label => label
    | none =>
      if m.form = .context then given ++ "\tThu Jan  1 00:00:00 1970"
      else given ++ "\t1970-01-01 00:00:00.000000000 +0000"
  match m.form with
  | .context => line ("*** " ++ name 0 left) ++ line ("--- " ++ name 1 right)
  | .unified => line ("--- " ++ name 0 left) ++ line ("+++ " ++ name 1 right)
  | _ => []

/-- How two contents differ. -/
def contents (call : Call) (s : Scope) (inside : Bool) (left right : String) (a b : Bytes) : Findings :=
  let m := s.manner
  let label (k : Nat) (name : String) : String := (m.labels[k]?).getD name
  let names := label 0 left ++ " and " ++ label 1 right
  let isBinary := ! m.isText && (a.contains 0 || b.contains 0)
  let hidden := s.brief && ! (m.ignoresBlankLines || m.anyCase || m.blanks ≠ .everywhere || m.widensTabs ||
    m.dropsReturns || ! m.ignored.isEmpty)
  let pair : Pair := ⟨m, m.linesIn a, m.linesIn b⟩
  let alike : Findings := if s.tellsAlike then ⟨[(1, line ("Files " ++ names ++ " are identical"))], 0⟩ else {}
  let open? (name : String) (bytes : Bytes) : List (Nat × Bytes) :=
    if m.isExact || bytes.isEmpty || bytes.getLast? = some lineFeed then []
    else [(2, call.complaint (name ++ ": No newline at end of file") ++ [lineFeed])]
  if a == b && (m.form ≠ .columns || s.brief || isBinary) then alike
  else if isBinary || hidden then found ((if s.brief then "Files " else "Binary files ") ++ names ++ " differ")
  else if s.brief then if pair.hunks.isEmpty then alike else found ("Files " ++ names ++ " differ")
  else
    let first := if inside then line ("diff" ++ s.switches ++ " " ++ shownName left ++ " " ++ shownName right) else []
    let differs := ! pair.hunks.isEmpty
    let output := pair.written (first ++ headingOf m left right)
    let isOpen := open? left a ++ open? right b
    if differs then ⟨isOpen ++ [(1, output)], if isOpen.isEmpty then 1 else 2⟩
    else
      let plain : Findings := ⟨isOpen ++ [(1, output)], 0⟩
      plain.then alike

/-- What a file is called by its kind. -/
def kindOf (files : FileTree) : Entry → String
  | .directory _ => "directory"
  | .file number =>
    if ((files.bodies.lookup number).map (·.content.isEmpty)).getD true then "regular empty file" else "regular file"
  | .link _ => "symbolic link"
  | .device (.fifo _) => "fifo"
  | .device _ => "character special file"

/-- What is on one side. -/
inductive Side where
  | missing
  | directory (path : Path)
  | content (bytes : Bytes) (kind : String)

/-- What a name stands for. -/
def sideOf (call : Call) (name : String) : Except FileError Side := do
  if name = "-" then return .content (← call.readOrInput name) "fifo"
  match ← call.find name with
  | (path, .directory _) => return .directory path
  | (_, entry) => return .content (← call.read name) (kindOf call.files entry)

/-- How what is on two sides differs; `depth` limits how far directories are gone into, and `parents` are
the directories that it stands in. -/
def sides (call : Call) (s : Scope) : (depth : Nat) → (parents : Option (String × String)) → (left right : String) →
    Side → Side → Findings
  | 0, _, _, _, _, _ => {}
  | depth + 1, parents, left, right, a, b =>
    let children (path : Path) : List String :=
      (call.files.children path).filter fun name => ! s.excluded.any (Glob.accepts · name)
    let only (isLeft : Bool) : Findings :=
      let name := lastName (if isLeft then left else right)
      let parent := (parents.map fun (x, y) => if isLeft then x else y).getD ""
      found ("Only in " ++ parent ++ ": " ++ name)
    let within (names : List String) (here : Option Path × Option Path) : Findings :=
      names.foldl (fun done name =>
        let l := inside left name
        let r := inside right name
        let side (here : Option Path) (full : String) : Except FileError Side := match here with
          | none => .ok .missing
          | some path => if (children path).contains name then sideOf call full else .ok .missing
        let next : Findings := match side here.1 l, side here.2 r with
          | .error e, .ok _ => fault call (l ++ ": " ++ e.message)
          | .ok _, .error e => fault call (r ++ ": " ++ e.message)
          | .error e, .error e' => (fault call (l ++ ": " ++ e.message)).then (fault call (r ++ ": " ++ e'.message))
          | .ok a, .ok b => sides call s depth (some (left, right)) l r a b
        done.then next) {}
    let merged (a b : List String) : List String :=
      (a ++ b.filter (! a.contains ·)).mergeSort fun x y => noLater (bytesOf x) (bytesOf y)
    match a, b with
    | .missing, .missing => {}
    | .directory p, .directory q =>
      if p = q then {}
      else if parents.isSome && ! s.deep then ⟨[(1, line ("Common subdirectories: " ++ left ++ " and " ++ right))], 0⟩
      else within (merged (children p) (children q)) (some p, some q)
    | .missing, .directory q =>
      if s.deep && (s.fillsAny || s.fillsLeft) then within (children q) (none, some q) else only false
    | .directory p, .missing => if s.deep && s.fillsAny then within (children p) (some p, none) else only true
    | .missing, .content bytes _ =>
      if s.fillsAny || s.fillsLeft then contents call s parents.isSome left right [] bytes else only false
    | .content bytes _, .missing =>
      if s.fillsAny then contents call s parents.isSome left right bytes [] else only true
    | .directory _, .content _ kind => found ("File " ++ left ++ " is a directory while file " ++ right ++ " is a " ++ kind)
    | .content _ kind, .directory _ => found ("File " ++ left ++ " is a " ++ kind ++ " while file " ++ right ++ " is a directory")
    | .content x _, .content y _ => contents call s parents.isSome left right x y

/-- How what two names stand for differs; if one of them is a directory, the file of that name in it. -/
def named (call : Call) (s : Scope) (left right : String) : Findings :=
  let isDirectory (name : String) : Bool := name ≠ "-" && ((call.find name).toOption.any (·.2.isDirectory))
  let isThere (name : String) : Bool := name = "-" || (call.find name).toOption.isSome
  if (left = "-" && isDirectory right) || (right = "-" && isDirectory left) then
    fault call "cannot compare '-' to a directory"
  else
    let (left, right) :=
      if isDirectory left && ! isDirectory right && isThere right then (inside left (lastName right), right)
      else if isDirectory right && ! isDirectory left && isThere left then (left, inside right (lastName left))
      else (left, right)
    let side (name other : String) (fills : Bool) : Except Findings Side := match sideOf call name with
      | .ok side => .ok side
      | .error e =>
        if e = .notFound && fills && isThere other then .ok .missing else .error (fault call (name ++ ": " ++ e.message))
    match side left right (s.fillsAny || s.fillsLeft), side right left s.fillsAny with
    | .error a, .error b => a.then b
    | .error a, .ok _ => a
    | .ok _, .error b => b
    | .ok a, .ok b => sides call s 64 none left right a b

/-- Tells how two files or directories differ. -/
def diff : Tool := fun call =>
  match lineOptions.readFrom none call.texts with
  | .error text => refused call text
  | .ok request =>
    if request.asks 'v' then call.printing (line (call.name ++ " (GNU diffutils) 3.10"))
    else match scopeOf call request, request.operands with
    | .error text, _ => refused call text
    | .ok s, [left, right] =>
      if Call.takesInput [left, right] && ! call.ended then call.wanting
      else
        let found := named call s left right
        { call.idle with
          printed := found.printed, status := found.status, unprinted := 2
          unread := if Call.takesInput [left, right] then [] else call.input }
    | .ok _, _ => call.idle

end Progeny.Host.Comparison

import Progeny.Host.Editing.Reader
import Progeny.Host.Errand
import Progeny.Sequence.Total

/-!
# Editing

Lines are read one after the other, and the commands of a script are carried out on each.  What is left of
it is printed at the end, and the next line follows.
-/

namespace Progeny.Host.Editing

open Text (Bytes bytesOf)

/-! ### Replacements -/

/-- A symbol in the case that is asked for. -/
def Casing.apply (casing : Casing) (n : Symbol) : Symbol :=
  let isIn (name : String) : Bool := Symbol.isIn ((Symbol.classRanges? name).getD []) n
  match casing with
  | .same => n
  | .lower => if isIn "upper" then Symbol.otherCase n else n
  | .upper => if isIn "lower" then Symbol.otherCase n else n

/-- A text in the case that is asked for, and its first letter in another. -/
def cased (casing first : Casing) : List Symbol → List Symbol
  | [] => []
  | n :: rest => (if first = .same then casing else first).apply n :: rest.map casing.apply

/-- What is put in place of a match; `carried` is the case of the first letter of what is next. -/
def expand (found : Regex.Match) : (carried : Casing) → List Piece → List Symbol
  | _, [] => []
  | carried, piece :: rest =>
    let first := if piece.first = .same then carried else piece.first
    let lead := cased piece.casing first piece.text
    let first := if piece.text.isEmpty then first else .same
    match piece.group with
    | none => lead ++ expand found .same rest
    | some n =>
      let text := if n = 0 then found.text else (found.groups.lookup n).getD []
      if text.isEmpty then lead ++ expand found (if piece.first = .same then .same else first) rest
      else lead ++ cased piece.casing first text ++ expand found .same rest

/-- Replaces matches from a place on; `passed` is what stands before it, read backwards, `count` the number
of matches before it, and `left` the length of what stood before the end of the last one. -/
def replaceFrom (finder : Finder) (s : Substitution) : (fuel count : Nat) → (left : Option Nat) →
    (passed rest : List Symbol) → Option (List Symbol)
  | 0, _, _, _, _ => none
  | fuel + 1, count, left, passed, rest =>
    let isNew (found : Regex.Match) : Bool := ! found.text.isEmpty || left ≠ some found.before.length
    match finder.regex.findFrom? finder.mode isNew passed rest with
    | none => none
    | some found =>
      let skipped := found.before.drop passed.length
      let there := found.before.length + found.text.length
      let count := count + 1
      let behind (text : List Symbol) (goesOn : Bool) : Option (List Symbol) :=
        let more := if ! goesOn then none
          else if found.text.isEmpty then match found.after with
            | [] => none
            | n :: after =>
              (replaceFrom finder s fuel count none (n :: found.before.reverse) after).map (n :: ·)
          else replaceFrom finder s fuel count (some there) (found.text.reverse ++ found.before.reverse) found.after
        if count < s.number then more.map ((skipped ++ text) ++ ·)
        else some (skipped ++ text ++ more.getD found.after)
      if count < s.number then behind found.text true else behind (expand found .same s.pieces) s.every

/-! ### The state -/

/-- A text, and whether the sign that ends lines follows it. -/
structure Space where
  text : List Symbol := []
  ended : Bool := true

/-- What is printed behind a line. -/
inductive Addition where
  | text (bytes : Bytes)
  | file (name : String)

/-- Where a selection by two addresses has come to. -/
inductive Extent where
  | before
  /-- It may be known at which line it ends. -/
  | inside (stop : Option Nat)
  | behind

/-- Why no more is edited. -/
inductive Stop where
  | over (status : Nat)
  | failed (status : Nat) (text : String)
  /-- More input is needed. -/
  | starved
  | endless

/-- What is to be done. -/
structure Job where
  call : Call
  commands : Array Command
  quiet : Bool
  /-- Each file begins with the first line. -/
  separate : Bool
  /-- Files are edited in place; what is kept of them is named as is said. -/
  inPlace : Option String
  /-- The octet that ends lines. -/
  ending : UInt8
  width : Nat

/-- What was done. -/
structure State where
  files : FileTree
  /-- What was printed, the latest first. -/
  told : List (Nat × Bytes) := []
  status : Nat := 0
  /-- The files that are left. -/
  names : List String
  name : String := "-"
  /-- The lines that are left of the file that is read. -/
  lines : List Bytes := []
  /-- More lines may come. -/
  isOpen : Bool := false
  /-- The input was read. -/
  reads : Bool := false
  number : Nat := 0
  space : Space := {}
  held : Space := {}
  changed : Bool := false
  extents : List (Nat × Extent) := []
  additions : List Addition := []
  /-- The outlets to which a line without its end was written. -/
  unended : List Outlet := []
  finder : Option Finder := none
  /-- The lines that are left of the files from which single lines are taken. -/
  taken : List (String × List Bytes) := []
  /-- What was written to the file that is edited in place, the latest first. -/
  edited : Option (List Bytes) := none

/-- A step of editing. -/
abbrev Edit := EStateM Stop State

namespace Job

variable (job : Job)

/-- Lines with the octets that end them. -/
def linesOf (bytes : Bytes) : List Bytes :=
  if job.ending = lineFeed then Host.linesOf bytes
  else
    let pieces := splitBytes (· == job.ending) bytes
    (pieces.dropLast.map (· ++ [job.ending])) ++ (pieces.drop (pieces.length - 1)).filter (! ·.isEmpty)

/-! ### Output -/

/-- Writes octets, behind the end that a line before them lacks. -/
def emit (outlet : Outlet) (bytes : Bytes) : Edit Unit := do
  let s ← get
  let bytes := if s.unended.contains outlet then job.ending :: bytes else bytes
  let s := { s with unended := s.unended.filter (· != outlet) }
  match outlet with
  | .here =>
    match s.edited with
    | some written => set { s with edited := some (bytes :: written) }
    | none => set { s with told := (1, bytes) :: s.told }
  | .descriptor n => set { s with told := (n, bytes) :: s.told }
  | .file name =>
    let before := ((s.files.read job.call.directory name).toOption).getD []
    match s.files.write job.call.directory name 0o644 (before ++ bytes) with
    | .ok files => set { s with files := files }
    | .error _ => set s

/-- Writes a text, which ends as it was read. -/
def emitSpace (outlet : Outlet) (space : Space) : Edit Unit := do
  job.emit outlet (Symbol.toBytes space.text ++ if space.ended then [job.ending] else [])
  if ! space.ended then modify fun s => { s with unended := outlet :: s.unended }

/-- Prints what was added behind the line. -/
def flush : Edit Unit := do
  let additions := (← get).additions
  modify fun s => { s with additions := [] }
  additions.forM fun
    | .text bytes => job.emit .here bytes
    | .file name => do
      let call := { job.call with files := (← get).files }
      job.emit .here ((call.read name).toOption.getD [])

/-! ### Input -/

/-- Puts what was written into the file that is edited. -/
def store : Edit Unit := do
  let s ← get
  match s.edited with
  | none => return ()
  | some written =>
    let call := { job.call with files := s.files }
    let suffix := job.inPlace.getD ""
    let s : State := { s with edited := none, unended := s.unended.filter (· != Outlet.here) }
    match call.findLink s.name, call.find s.name with
    | .ok (path, _), .ok (_, .file number) =>
      let mode := ((s.files.bodies.lookup number).map FileBody.mode).getD 0o644
      let last := path.getLast?.getD ""
      let backup := if suffix.toList.contains '*' then suffix.replace "*" last else last ++ suffix
      let files ← if suffix.isEmpty then pure s.files
        else
          let place : Except FileError Path := if backup.toList.contains '/' then s.files.locate job.call.directory backup false
            else .ok (path.dropLast ++ [backup])
          match place with
          | .ok target =>
            if s.files.isDirectory target.dropLast then pure (s.files.rename path target)
            else throw (Stop.failed 4 ("cannot rename " ++ s.name ++ ": " ++ FileError.notFound.message))
          | .error e => throw (Stop.failed 4 ("cannot rename " ++ s.name ++ ": " ++ e.message))
      set { s with files := (files.putFile path ⟨written.reverse.flatten, mode, 0⟩).1 }
    | _, _ => set s

/-- What the file with a name holds. -/
def content (name : String) : Edit (Option Bytes) := do
  let s ← get
  let call := { job.call with files := s.files }
  if name = "-" && job.inPlace.isNone then
    match call.inputError with
    | some e => throw (.failed 4 ("read error on stdin: " ++ e.message))
    | none =>
      set { s with reads := true }
      return some call.input
  else
    match call.read name with
    | .ok bytes =>
      if job.inPlace.isSome then
        match call.find name with
        | .ok (_, .file _) => pure ()
        | _ => throw (.failed 4 ("couldn't edit " ++ name ++ ": not a regular file"))
      return some bytes
    | .error .isDirectory =>
      if job.inPlace.isSome then throw (.failed 4 ("couldn't edit " ++ name ++ ": not a regular file"))
      else throw (.failed 4 ("read error on " ++ name ++ ": " ++ FileError.isDirectory.message))
    | .error e =>
      let text := call.complaint ("can't read " ++ name ++ ": " ++ e.message)
      set { s with told := (2, text) :: s.told, status := 2 }
      return none

/-- The next line, if there is one. -/
def nextLine? : (fuel : Nat) → Edit (Option Bytes)
  | 0 => return none
  | fuel + 1 => do
    let s ← get
    match s.lines with
    | line :: rest =>
      set { s with lines := rest, number := s.number + 1 }
      return some line
    | [] =>
      if s.isOpen then throw .starved
      job.store
      let s ← get
      match s.names with
      | [] => return none
      | name :: names =>
        set { s with names := names }
        match ← job.content name with
        | none => nextLine? fuel
        | some bytes =>
          let isOpen := name = "-" && ! job.call.ended
          let lines := job.linesOf bytes
          modify fun s => { s with
            name := name, lines := if isOpen then lines.dropLast else lines, isOpen := isOpen
            edited := if job.inPlace.isSome then some [] else none }
          if job.separate then
            modify fun s => { s with number := 0, held := {}, extents := [], taken := [] }
          nextLine? fuel

/-- Whether the line is the last one. -/
def isLast : Edit Bool := do
  let s ← get
  let call := { job.call with files := s.files }
  return s.lines.isEmpty && ! s.isOpen &&
    (job.separate || s.names.all fun name => (call.readOrInput name).toOption.all List.isEmpty)

/-- Reads a line; `joined` says that it comes behind the text, not in its place. -/
def advance (joined : Bool) : Edit Unit := do
  job.flush
  match ← job.nextLine? ((← get).names.length + 2) with
  | none => throw (.over (← get).status)
  | some line =>
    let ended := line.getLast? = some job.ending
    let text := Symbol.ofBytes (if ended then line.dropLast else line)
    modify fun s => { s with
      changed := false
      space := ⟨if joined then s.space.text ++ job.ending.toNat :: text else text, ended⟩ }

/-! ### Selection -/

/-- The expression that is meant, which is the last one from now on. -/
def finder (given : Option Finder) : Edit Finder := do
  match given.or (← get).finder with
  | none => throw (.failed 1 "-e expression #1, char 0: no previous regular expression")
  | some finder =>
    modify fun s => { s with finder := some finder }
    return finder

/-- Whether the line is at an address. -/
def isAt (address : Address) : Edit Bool := do
  let number := (← get).number
  match address with
  | .line n => return number = n
  | .step first each => return first ≤ number && (number - first) % each = 0
  | .last => job.isLast
  | .found given =>
    let finder ← finder given
    return (finder.regex.find? finder.mode (← get).space.text).isSome
  | .plus _ | .multiple _ => return false

/-- Whether the line is selected by two addresses. -/
def isBetween (place : Nat) (start stop : Address) : Edit Bool := do
  let s ← get
  let number := s.number
  let move (extent : Extent) : Edit Unit :=
    modify fun s => { s with extents := (place, extent) :: s.extents.filter (·.1 != place) }
  let fresh : Extent := match start with
    | .line 0 => .inside none
    | _ => .before
  match (s.extents.lookup place).getD fresh with
  | .inside (some last) =>
    if last ≤ number then move .behind
    return number ≤ last
  | .inside none =>
    if ← job.isAt stop then move .behind
    return true
  | extent =>
    let starts ← match start, extent with
      | .line _, .behind => pure false
      | .line n, _ => pure (n ≤ number)
      | address, _ => job.isAt address
    if ! starts then return false
    let upTo (last : Nat) : Edit Bool := do
      if last ≤ number then
        move .behind
        match start with
        | .line n => return number ≤ last || number = n
        | _ => return true
      else
        move (.inside (some last))
        return true
    match stop with
    | .line last => upTo last
    | .plus count => upTo (number + count)
    | .multiple n => upTo (if n = 0 then number else (number + n - 1) / n * n)
    | _ =>
      move (.inside none)
      return true

/-- Whether the line is selected. -/
def isSelected (place : Nat) (selector : Selector) : Edit Bool := do
  let holds ← match selector.start, selector.stop with
    | none, _ => pure true
    | some start, none => job.isAt start
    | some start, some stop => job.isBetween place start stop
  return holds != selector.negated

/-! ### Commands -/

/-- How a script goes on. -/
inductive Flow where
  | next
  /-- Behind a label, or at the end without one. -/
  | jump (label : String)
  | cycle
  /-- With the next line, and nothing is printed. -/
  | dropped
  /-- At the beginning, with what is left of the line. -/
  | again

/-- The sign of an octet in a list. -/
def shown (b : UInt8) : Bytes :=
  match [(92, "\\\\"), (7, "\\a"), (8, "\\b"), (12, "\\f"), (10, "\\n"), (13, "\\r"), (9, "\\t"), (11, "\\v")].lookup b with
  | some text => bytesOf text
  | none =>
    if 32 ≤ b && b < 127 then [b]
    else bytesOf ("\\" ++ String.ofList ((Nat.toDigits 8 (512 + b.toNat)).drop 1))

/-- A text with signs for what cannot be seen, cut to a width. -/
def listed (width : Nat) (bytes : Bytes) : Bytes :=
  let (printed, _) := bytes.foldl (fun ((printed, column) : List Bytes × Nat) b =>
    let sign := shown b
    if width > 0 && column + sign.length > width - 1 then (sign :: [92, lineFeed] :: printed, sign.length)
    else (sign :: printed, column + sign.length)) ([], 0)
  printed.reverse.flatten ++ [36, lineFeed]

/-- Carries out a substitution. -/
def substitute (s : Substitution) : Edit Unit := do
  let finder ← finder s.finder
  let space := (← get).space
  match replaceFrom finder s (space.text.length + 2) 0 none [] space.text with
  | none => return ()
  | some text =>
    let space := { space with text := text }
    modify fun s => { s with space := space, changed := true }
    if s.prints then job.emitSpace .here space
    if let some outlet := s.outlet then job.emitSpace outlet space

/-- Takes a line from a file, which is printed behind this one. -/
def takeLine (name : String) : Edit Unit := do
  let s ← get
  let call := { job.call with files := s.files }
  let lines := (s.taken.lookup name).getD (job.linesOf ((call.read name).toOption.getD []))
  set { s with
    taken := (name, lines.drop 1) :: s.taken.filter (·.1 != name)
    additions := s.additions ++ (lines.take 1).map Addition.text }

/-- The first line of a text. -/
def firstLine (space : Space) : Space :=
  let text := space.text.takeWhile (· != job.ending.toNat)
  ⟨text, space.ended || text.length < space.text.length⟩

/-- Prints the text if lines are printed at the end. -/
def autoprint : Edit Unit := do
  if ! job.quiet then job.emitSpace .here (← get).space

/-- Carries out the action of the command at a place. -/
def perform (place : Nat) (action : Action) : Edit Flow := do
  let s ← get
  let space := s.space
  let add (addition : Addition) : Edit Unit := set { s with additions := s.additions ++ [addition] }
  let joined (a b : Space) : Space := ⟨a.text ++ job.ending.toNat :: b.text, b.ended⟩
  match action with
  | .opening | .closing | .label _ => pure ()
  | .jump kind label =>
    let goes := kind = .always || s.changed = (kind = .changed)
    if kind ≠ .always then set { s with changed := false }
    if goes then return .jump label
  | .append text => add (.text text)
  | .insert text => job.emit .here text
  | .change text =>
    match s.extents.lookup place with
    | some (.inside _) => pure ()
    | _ => job.emit .here text
    return .dropped
  | .number => job.emit .here (line s.number.repr)
  | .fileName => job.emit .here (line s.name)
  | .delete => return .dropped
  | .deleteLine =>
    let first := space.text.takeWhile (· != job.ending.toNat)
    if first.length = space.text.length then return .dropped
    set { s with space := { space with text := space.text.drop (first.length + 1) } }
    return .again
  | .print => job.emitSpace .here space
  | .printLine => job.emitSpace .here (job.firstLine space)
  | .clear => set { s with space := { space with text := [] } }
  | .next =>
    if ← job.isLast then return .cycle
    job.autoprint
    job.advance false
  | .join =>
    if ← job.isLast then return .cycle
    job.advance true
  | .keep => set { s with held := space }
  | .keepMore => set { s with held := joined s.held space }
  | .recall => set { s with space := s.held }
  | .recallMore => set { s with space := joined space s.held }
  | .exchange => set { s with space := s.held, held := space }
  | .list width => job.emit .here (listed (width.getD job.width) (Symbol.toBytes space.text))
  | .quit prints status =>
    if prints then
      job.autoprint
      job.flush
    throw (.over status)
  | .includeFile name => add (.file name)
  | .includeLine name => job.takeLine name
  | .write outlet wholly => job.emitSpace outlet (if wholly then space else { job.firstLine space with ended := true })
  | .substitute s => job.substitute s
  | .transliterate pairs =>
    set { s with space := { space with text := space.text.map fun n => (pairs.lookup n).getD n } }
  return .next

/-- The place behind the brace that belongs to the one at a place. -/
def behindBlock (place : Nat) : Nat := go (job.commands.size - place) (place + 1) 0
where
  go : (fuel place depth : Nat) → Nat
    | 0, place, _ => place
    | fuel + 1, place, depth =>
      match (job.commands[place]?).map Command.action with
      | some .opening => go fuel (place + 1) (depth + 1)
      | some .closing => if depth = 0 then place + 1 else go fuel (place + 1) (depth - 1)
      | _ => go fuel (place + 1) depth

/-- The place of a label; without a name it is the end. -/
def placeOf (label : String) : Nat :=
  if label.isEmpty then job.commands.size
  else (job.commands.findIdx? fun command => match command.action with
    | .label name => name = label
    | _ => false).getD job.commands.size

/-- Carries out the commands from a place on, and goes on with the next lines. -/
def run : (fuel : Nat) → (place : Nat) → Edit Unit
  | 0, _ => throw .endless
  | fuel + 1, place => do
    match job.commands[place]? with
    | none =>
      job.autoprint
      job.advance false
      run fuel 0
    | some command =>
      if ← job.isSelected place command.selector then
        match ← job.perform place command.action with
        | .next => run fuel (place + 1)
        | .jump label => run fuel (job.placeOf label)
        | .cycle => run fuel job.commands.size
        | .dropped =>
          job.advance false
          run fuel 0
        | .again =>
          job.flush
          run fuel 0
      else
        match command.action with
        | .opening => run fuel (job.behindBlock place)
        | _ => run fuel (place + 1)

end Job

/-! ### The tool -/

/-- The options of the tool. -/
def table : OptionTable :=
  OptionTable.of "nEre:f:i::suzl:áà" [("quiet", 'n'), ("silent", 'n'), ("regexp-extended", 'E'), ("expression", 'e'),
    ("file", 'f'), ("in-place", 'i'), ("separate", 's'), ("unbuffered", 'u'), ("null-data", 'z'),
    ("zero-terminated", 'z'), ("line-length", 'l'), ("posix", 'á'), ("follow-symlinks", 'á'), ("debug", 'á'),
    ("sandbox", 'à')]

/-- The parts of a script that options give; `number` of them were given as arguments before. -/
def parts (call : Call) : (number : Nat) → List (Char × String) → Except Fault (List Source)
  | _, [] => .ok []
  | number, (c, value) :: rest => do
    if c = 'e' then return ⟨.argument (number + 1), bytesOf value⟩ :: (← parts call (number + 1) rest)
    match call.readOrInput value with
    | .ok bytes =>
      let text := if bytes.getLast? = some lineFeed then bytes.dropLast else bytes
      return ⟨.file value, text⟩ :: (← parts call number rest)
    | .error .isDirectory => throw ⟨"read error on " ++ value ++ ": " ++ FileError.isDirectory.message, 4⟩
    | .error e => throw ⟨"couldn't open file " ++ value ++ ": " ++ e.message, 4⟩

/-- The parts of the script, and the files that are edited. -/
def sources (call : Call) (request : Request) : Except Fault (List Source × List String) := do
  let given := request.options.filter fun (c, _) => c = 'e' || c = 'f'
  match given, request.operands with
  | [], [] => throw ⟨"", 1⟩
  | [], script :: names => return (← parts call 0 [('e', script)], names)
  | _, names => return (← parts call 0 given, names)

/-- More than the time for which anything runs. -/
def forever : Nat := Nat.pow 10 15

/-- Edits lines by a script. -/
def sed : Tool := fun call =>
  let usage := line ("Usage: " ++ call.name ++ " [OPTION]... \x7bscript-only-if-no-other-script\x7d [input-file]...")
  match table.readFrom none call.texts with
  | .error text => call.telling (call.complaint text ++ usage) [] 1
  | .ok request =>
    let asks := request.asks
    let takesScript := (request.values 'f').contains "-"
    let opener (files : FileTree) (name : String) : Except FileError FileTree :=
      files.write call.directory name (call.newBits 0o666) []
    let prepared : Except Fault ((Script × FileTree) × List String) := do
      let (sources, names) ← sources call request
      return (← Script.read sources (asks 'E' || asks 'r') (asks 'à') call.files opener, names)
    if takesScript && ! call.ended then call.wanting
    else match prepared with
    | .error fault =>
      call.telling (if fault.text.isEmpty then usage else call.complaint fault.text) [] fault.status
    | .ok ((script, files), names) =>
      let inPlace := request.value? 'i'
      if inPlace.isSome && names.isEmpty then call.failing 4 "no input files"
      else
        let names := if names.isEmpty then ["-"] else names
        let call := if takesScript then { call with input := [] } else call
        let job : Job := {
          call := call, commands := script.commands.toArray, quiet := script.quiet || asks 'n'
          separate := asks 's' || inPlace.isSome, inPlace := inPlace, ending := if asks 'z' then 0 else lineFeed
          width := ((request.value? 'l').bind natural?).getD 70 }
        let size (name : String) : Nat := ((call.readOrInput name).toOption.getD []).count job.ending
        let fuel := 20000 + 300 * Sequence.total size names
        let edit : Edit Unit := do
          job.advance false
          job.run fuel 0
        let start : State := { files := files, names := names }
        let (stop, s) : Stop × State := match EStateM.run edit start with
          | EStateM.Result.ok _ s => (.endless, s)
          | EStateM.Result.error stop s => (stop, s)
        let told := s.told.reverse
        let output := (told.filter (·.1 = 1)).flatMap (·.2)
        let told := if asks 'u' then told else told.filter (·.1 ≠ 1) ++ [(1, output)]
        let unread := if ! s.reads then call.input else if call.isFile && s.name = "-" then s.lines.flatten else []
        match stop with
        | .endless => { call.idle with printed := told, files := s.files, delay := forever }
        | .starved => if asks 'u' then { call.wanting with printed := [(1, output)] } else call.wantingBehind output
        | .failed status text =>
          { call.idle with
            printed := told ++ [(2, call.complaint text)], status := status, files := s.files, unread := unread
            unprinted := 4 }
        | .over status =>
          let files := match EStateM.run job.store s with
            | EStateM.Result.ok _ s => s.files
            | EStateM.Result.error _ s => s.files
          { call.idle with
            printed := told, status := status, files := files, unread := unread, unprinted := 4
            complains := fun reason => "couldn't flush stdout: " ++ reason }

end Progeny.Host.Editing

import Progeny.Host.Errand
import Progeny.Host.Glob
import Progeny.Host.Permission
import Progeny.Sequence.Total

/-!
# Listing

What is in directories, and what is known of files.
-/

namespace Progeny.Host.Listing

open Text (Bytes bytesOf)

/-! ### Files -/

/-- Something that is listed. -/
structure Item where
  name : String
  path : Path
  entry : Entry

/-- The letter of a kind of entries. -/
def kindLetter : Entry → Char
  | .directory _ => 'd'
  | .file _ => '-'
  | .link _ => 'l'
  | .device (.fifo _) => 'p'
  | .device _ => 'c'

/-- The number of octets of a directory. -/
def directorySize : Nat := 4096

/-- The number of octets in a file. -/
def sizeOf (files : FileTree) (entry : Entry) : Nat :=
  match entry with
  | .directory _ => directorySize
  | .file number => ((files.bodies.lookup number).map (·.content.length)).getD 0
  | .link target => target.utf8ByteSize
  | .device _ => 0

/-- The number of thousands of octets that a file takes. -/
def blocksOf (files : FileTree) (entry : Entry) : Nat :=
  match entry with
  | .link _ => 0
  | _ => (sizeOf files entry + 4095) / 4096 * 4

/-- How many names a file has. -/
def linksOf (files : FileTree) (path : Path) (entry : Entry) : Nat :=
  match entry with
  | .file _ => (files.entries.filter (·.2 == entry)).length
  | .directory _ => 2 + ((files.children path).filter fun name => files.isDirectory (path ++ [name])).length
  | _ => 1

/-- The time of the last change. -/
def timeOf (files : FileTree) (entry : Entry) : Nat :=
  match entry with
  | .file number => ((files.bodies.lookup number).map (·.changed)).getD 0
  | _ => 0

/-- A number that a file has alone. -/
def numberOf (files : FileTree) (path : Path) (entry : Entry) : Nat :=
  match entry with
  | .file number => 1000000 + number
  | _ => 2000000 + (files.entries.takeWhile (·.1 != path)).length

/-- The letters of the kind and the permission bits. -/
def modeLetters (files : FileTree) (entry : Entry) : String :=
  String.ofList (kindLetter entry :: (Permission.letters (files.modeOf entry)).toList)

/-! ### Lists -/

/-- What of the names in a directory is listed. -/
inductive Hidden where
  | none
  /-- Names that begin with a point. -/
  | almost
  /-- All, with the directory itself and the one above. -/
  | all
  deriving DecidableEq

/-- A name as it is shown. -/
def shown (request : Request) (files : FileTree) (item : Item) : String :=
  let escaped (spaces : Bool) : String := String.join (item.name.toList.map fun c => match c with
    | '\\' => "\\\\"
    | '\n' => "\\n"
    | '\t' => "\\t"
    | '"' => if spaces then "\"" else "\\\""
    | ' ' => if spaces then "\\ " else " "
    | c => c.toString)
  let name := match request.last? ['b', 'Q', 'N', 'q'] with
    | some 'b' => escaped true
    | some 'Q' => "\"" ++ escaped false ++ "\""
    | some 'q' => String.ofList (item.name.toList.map fun c => if c.toNat < 32 then '?' else c)
    | _ => item.name
  let sign := match item.entry with
    | .directory _ => if request.asks 'F' || request.asks 'p' then "/" else ""
    | .link _ => if request.asks 'F' && ! request.asks 'l' then "@" else ""
    | .device (.fifo _) => if request.asks 'F' then "|" else ""
    | entry => if request.asks 'F' && files.modeOf entry &&& 0o111 ≠ 0 && (entry matches .file _) then "*" else ""
  name ++ sign

/-- Blanks and tabs from one column to another. -/
def indent : (fuel source target : Nat) → String
  | 0, _, _ => ""
  | fuel + 1, source, target =>
    if source ≥ target then ""
    else if target / 8 > (source + 1) / 8 then "\t" ++ indent fuel (source + 8 - source % 8) target
    else " " ++ indent fuel (source + 1) target

/-- Names in columns, which go down or, if `across`, to the right. -/
def columns (across : Bool) (width : Nat) (names : List String) : List String :=
  let count := names.length
  let widthsFor (cols : Nat) : List Nat :=
    let rows := (count + cols - 1) / cols
    (List.range cols).map fun col =>
      let members := names.zipIdx.filter fun (_, i) => if across then i % cols = col else i / rows = col
      (members.map fun (name, _) => name.length + 2).foldl max 0
  let fits (cols : Nat) : Bool :=
    let widths := widthsFor cols
    widths.all (· > 0) && Sequence.total id widths - 2 < width
  let cols := ((List.range (min count (width / 3 + 1))).reverse.map (· + 1)).find? fits
  let cols := cols.getD 1
  let rows := (count + cols - 1) / cols
  let widths := widthsFor cols
  (List.range rows).map fun row =>
    let line := (List.range cols).filterMap fun col =>
      (names[if across then row * cols + col else col * rows + row]?).map fun name => (name, col)
    let line := if across then line else line.filter fun (_, col) => col * rows + row < count
    (line.foldl (fun (text, position, start) (name, col) =>
      let gap := if col = 0 then "" else indent 200 position start
      (text ++ gap ++ name, start + name.length, start + widths.getD col 0)) ("", 0, 0)).1

/-- Items in long lines. -/
def longLines (request : Request) (files : FileTree) (items : List Item) : List String :=
  let size (item : Item) : String :=
    let n := sizeOf files item.entry
    if request.asks 'h' && n ≥ 1024 then
      let tenths := (n * 10 + 1023) / 1024
      if tenths < 100 then (tenths / 10).repr ++ "." ++ (tenths % 10).repr ++ "K" else ((n + 1023) / 1024).repr ++ "K"
    else n.repr
  let owner := if request.asks 'n' then "0" else "root"
  let fields := items.map fun item =>
    [(linksOf files item.path item.entry).repr, size item]
  let widthOf (k : Nat) : Nat := (fields.map fun row => (row.getD k "").length).foldl max 0
  (items.zip fields).map fun (item, row) =>
    let owners := (if request.asks 'g' then "" else " " ++ owner) ++
      (if request.asks 'o' || request.asks 'G' then "" else " " ++ owner)
    let target := match item.entry with
      | .link target => " -> " ++ target
      | _ => ""
    modeLetters files item.entry ++ " " ++ aligned (widthOf 0) (row.getD 0 "") ++ owners ++ " " ++
      aligned (widthOf 1) (row.getD 1 "") ++ " Jan  1 00:00 " ++ shown request files item ++ target

/-- Items with what is asked for before their names. -/
def lines (request : Request) (files : FileTree) (items : List Item) : List String :=
  let numbers := items.map fun item => (numberOf files item.path item.entry).repr
  let blocks := items.map fun item => (blocksOf files item.entry).repr
  let widthOf (texts : List String) : Nat := (texts.map String.length).foldl max 0
  let lead (item : Item) : String :=
    (if request.asks 'i' then
      aligned (widthOf numbers) (numberOf files item.path item.entry).repr ++ " " else "") ++
    (if request.asks 's' then aligned (widthOf blocks) (blocksOf files item.entry).repr ++ " " else "")
  let isLong := (request.last? ['l', 'g', 'o', 'n', '1', 'C', 'x', 'm']).any "lgon".toList.contains
    || ((request.asks 'l' || request.asks 'n' || request.asks 'g' || request.asks 'o') &&
      ! (request.last? ['l', 'g', 'o', 'n', 'C', 'x', 'm']).any "Cxm".toList.contains)
  let width := ((request.value? 'w').bind natural?).getD 80
  if isLong then
    (items.zip (longLines request files items)).map fun (item, text) => lead item ++ text
  else
    let names := items.map fun item => lead item ++ shown request files item
    match request.last? ['1', 'C', 'x', 'm'] with
    | some 'C' => columns false width names
    | some 'x' => columns true width names
    | some 'm' => wrapped width names
    | _ => names
where
  /-- Names with commas between them, in lines of a width. -/
  wrapped (width : Nat) (names : List String) : List String :=
    let pieces := names.zipIdx.map fun (name, i) => if i + 1 < names.length then name ++ "," else name
    let (done, current) := pieces.foldl (fun (done, current) piece =>
      if current = "" then (done, piece)
      else if current.length + 1 + piece.length < width then (done, current ++ " " ++ piece)
      else (done ++ [current], piece)) (([] : List String), "")
    if names.isEmpty then [] else done ++ [current]

/-- Items in the order that is asked for. -/
def sorted (request : Request) (files : FileTree) (items : List Item) : List Item :=
  let byName := items.mergeSort fun a b => decide (a.name ≤ b.name)
  let extension (name : String) : String :=
    match (name.splitOn ".").getLast? with
    | some last => if name.toList.contains '.' then "." ++ last else ""
    | none => ""
  let found := match request.last? ['t', 'S', 'U', 'f', 'X', 'v'] with
    | some 't' => byName.mergeSort fun a b => timeOf files b.entry ≤ timeOf files a.entry
    | some 'S' => byName.mergeSort fun a b => sizeOf files b.entry ≤ sizeOf files a.entry
    | some 'U' | some 'f' => items
    | some 'X' => byName.mergeSort fun a b => decide (extension a.name ≤ extension b.name)
    | _ => byName
  let found := if request.asks 'r' then found.reverse else found
  if request.asks 'à' then
    found.filter (·.entry.isDirectory) ++ found.filter fun item => ! item.entry.isDirectory
  else found

/-- What is in a directory. -/
def members (request : Request) (files : FileTree) (path : Path) : List Item :=
  let hidden : Hidden := match request.last? ['a', 'A', 'f'] with
    | some 'A' => .almost
    | some _ => .all
    | none => .none
  let names := (files.children path).filter fun name =>
    (hidden ≠ .none || ! name.startsWith ".") && ! (request.asks 'B' && name.endsWith "~") &&
      ! ((request.values 'I').any (Glob.accepts · name))
  let own := names.filterMap fun name => (files.entryAt? (path ++ [name])).map fun entry =>
    (⟨name, path ++ [name], entry⟩ : Item)
  let around : List Item := if hidden = .all then
      [⟨".", path, .directory 0o755⟩, ⟨"..", path.dropLast, .directory 0o755⟩] else []
  sorted request files (around ++ own)

/-- The lines for a directory. -/
def directoryLines (request : Request) (files : FileTree) (path : Path) : List String :=
  let items := members request files path
  let counts := request.asks 'l' || request.asks 's' || request.asks 'n' || request.asks 'g' || request.asks 'o'
  (if counts then ["total " ++ (Sequence.total (fun item => blocksOf files item.entry) items).repr] else []) ++
    lines request files items

/-- Directories with those below them. -/
def below (request : Request) (files : FileTree) : (fuel : Nat) → (name : String) → Path → List (String × Path)
  | 0, _, _ => []
  | fuel + 1, name, path =>
    (name, path) :: if ! request.asks 'R' then [] else
      (members request files path).flatMap fun item =>
        if item.entry.isDirectory && item.name ≠ "." && item.name ≠ ".." then
          below request files fuel (inside name item.name) item.path
        else []

/-- The options of the tool that lists. -/
def table : OptionTable :=
  .of "aAbBcCdfFgGhHiI:klLmnNopqQrRsStT:uUvw:xX1Zàá::â::ã::" [("all", 'a'), ("almost-all", 'A'), ("escape", 'b'),
    ("ignore-backups", 'B'), ("directory", 'd'), ("classify", 'F'), ("no-group", 'G'), ("human-readable", 'h'),
    ("inode", 'i'), ("ignore", 'I'), ("dereference", 'L'), ("numeric-uid-gid", 'n'), ("literal", 'N'),
    ("hide-control-chars", 'q'), ("quote-name", 'Q'), ("reverse", 'r'), ("recursive", 'R'), ("size", 's'),
    ("width", 'w'), ("group-directories-first", 'à'), ("color", 'á'), ("time", 'â'), ("sort", 'ã')]

/-- Lists files and what is in directories. -/
def ls : Tool := fun call =>
  call.withOptions table 2 fun request =>
  let names := if request.operands.isEmpty then ["."] else request.operands
  let follows := ! (request.asks 'd' || request.asks 'l' || request.asks 'F') || request.asks 'L' || request.asks 'H'
  let looked := names.map fun name =>
    let found : Except FileError (Path × Entry) := match call.files.find call.directory name follows with
      | .ok found => .ok found
      | .error e => match call.findLink name with
        | .ok found => .ok found
        | .error _ => if name = "." then .ok (call.directory, .directory 0o755) else .error e
    (name, found)
  let complaints := looked.flatMap fun (name, found) => match found with
    | .error e => call.complaint ("cannot access " ++ quotedName name ++ ": " ++ e.message)
    | .ok _ => []
  let items := sorted request call.files (looked.filterMap fun (name, found) => match found with
    | .ok (path, entry) => some ⟨name, path, entry⟩
    | .error _ => none)
  let isSection (item : Item) : Bool := item.entry.isDirectory && ! request.asks 'd'
  let plain := items.filter fun item => ! isSection item
  let sections := (items.filter isSection).flatMap fun item =>
    below request call.files 100 item.name item.path
  let titled := names.length > 1 || request.asks 'R'
  let parts : List (List String) :=
    (if plain.isEmpty then [] else [lines request call.files plain]) ++
    sections.map fun (name, path) =>
      (if titled then [name ++ ":"] else []) ++ directoryLines request call.files path
  let output := [lineFeed].intercalate (parts.map fun part => part.flatMap line)
  { call.idle with
    printed := [(2, complaints), (1, output)], unprinted := 2, status := if complaints.isEmpty then 0 else 2 }

/-- Lists files in a certain form. -/
def listAs (form : String) : Tool := fun call => ls { call with args := bytesOf form :: call.args }

/-! ### What is known of a file -/

/-- The name of a kind of files. -/
def kindName (files : FileTree) (entry : Entry) : String :=
  match entry with
  | .directory _ => "directory"
  | .file _ => if sizeOf files entry = 0 then "regular empty file" else "regular file"
  | .link _ => "symbolic link"
  | .device (.fifo _) => "fifo"
  | .device _ => "character special file"

/-- The bits of a kind of files. -/
def kindBits : Entry → Nat
  | .directory _ => 0o40000
  | .file _ => 0o100000
  | .link _ => 0o120000
  | .device (.fifo _) => 0o10000
  | .device _ => 0o20000

/-- What a letter behind a percent sign stands for. -/
def property (files : FileTree) (name : String) (item : Item) (letter : Char) : Option String :=
  let mode := files.modeOf item.entry
  let time := timeOf files item.entry
  match letter with
  | 'n' => some name
  | 'N' => some (quotedName name ++ match item.entry with
      | .link target => " -> " ++ quotedName target
      | _ => "")
  | 's' => some (sizeOf files item.entry).repr
  | 'F' => some (kindName files item.entry)
  | 'a' => some (Permission.octal 1 mode)
  | 'A' => some (modeLetters files item.entry)
  | 'f' => some (String.ofList (Nat.toDigits 16 (kindBits item.entry + mode)))
  | 'h' => some (linksOf files item.path item.entry).repr
  | 'i' => some (numberOf files item.path item.entry).repr
  | 'U' | 'G' => some "root"
  | 'u' | 'g' | 't' | 'T' => some "0"
  | 'b' => some (blocksOf files item.entry * 2).repr
  | 'B' => some "512"
  | 'o' => some "4096"
  | 'd' => some "2049"
  | 'D' => some "801"
  | 'm' => some "/"
  | 'X' | 'Y' | 'Z' => some (time / 1000000).repr
  | 'W' => some "0"
  | 'w' => some "-"
  | '%' => some "%"
  | _ => none

/-- A format with its letters replaced; escapes are replaced, too, if `escapes`. -/
def formatted (files : FileTree) (name : String) (item : Item) (escapes : Bool) : (fuel : Nat) → List Char → String
  | 0, _ => ""
  | _, [] => ""
  | fuel + 1, '%' :: rest =>
    let flags := rest.takeWhile fun c => c.isDigit || c == '-' || c == '#' || c == '.'
    match rest.drop flags.length with
    | c :: more =>
      let text := (property files name item c).getD "?"
      let width := (natural? (String.ofList (flags.filter Char.isDigit))).getD 0
      let padded := if flags.contains '-' then
          text ++ String.ofList (List.replicate (width - text.length) ' ') else aligned width text
      padded ++ formatted files name item escapes fuel more
    | [] => "%"
  | fuel + 1, '\\' :: c :: rest =>
    if ! escapes then "\\" ++ formatted files name item escapes fuel (c :: rest)
    else
      let letter := match c with
        | 'n' => "\n"
        | 't' => "\t"
        | 'r' => "\r"
        | c => c.toString
      letter ++ formatted files name item escapes fuel rest
  | fuel + 1, c :: rest => c.toString ++ formatted files name item escapes fuel rest

/-- Tells what is known of files. -/
def stat : Tool := fun call =>
  call.withOptions (.of "c:fLtà:" [("format", 'c'), ("dereference", 'L'), ("terse", 't'), ("file-system", 'f'),
    ("printf", 'à')]) 1 fun request =>
  if request.operands.isEmpty then call.misused 1 "missing operand"
  else Errand.reply call 1 <| Errand.forEach (fun name => do
    let files ← Errand.files
    match files.find call.directory name (request.asks 'L') with
    | .error e => Errand.complain call ("cannot statx " ++ quotedName name ++ ": " ++ e.message)
    | .ok (path, entry) =>
      let item : Item := ⟨name, path, entry⟩
      let text (escapes : Bool) (format : String) : String :=
        formatted files name item escapes (format.length + 1) format.toList
      match request.value? 'à', request.value? 'c' with
      | some format, _ => modify fun d => { d with told := (1, bytesOf (text true format)) :: d.told }
      | none, some format => Errand.say (text false format)
      | none, none =>
        Errand.say (text false "  File: %n")
        Errand.say (text false "  Size: %-10s\tBlocks: %-10b IO Block: %-6o %F")
        Errand.say (text false "Device: 8,1\tInode: %-10i  Links: %h")
        Errand.say (text false "Access: (0%a/%A)  Uid: (    0/    root)   Gid: (    0/    root)"))
    request.operands

end Progeny.Host.Listing

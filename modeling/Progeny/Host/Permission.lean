import Progeny.Host.Errand

/-!
# Permissions

Permission bits are written as letters in nine places, or as octal digits, or as changes of the bits that
are there.
-/

namespace Progeny.Host.Permission

open Text (Bytes bytesOf)

/-- The nine letters of permission bits. -/
def letters (mode : Nat) : String :=
  let place (shift special : Nat) (on off : Char) : List Char :=
    let bits := (mode >>> shift) &&& 7
    let executes := bits &&& 1 ≠ 0
    [if bits &&& 4 ≠ 0 then 'r' else '-', if bits &&& 2 ≠ 0 then 'w' else '-',
     if mode &&& special ≠ 0 then (if executes then on else off) else if executes then 'x' else '-']
  String.ofList (place 6 0o4000 's' 'S' ++ place 3 0o2000 's' 'S' ++ place 0 0o1000 't' 'T')

/-- The octal digits of permission bits, at least so many. -/
def octal (width mode : Nat) : String :=
  let digits := Nat.toDigits 8 mode
  String.ofList (List.replicate (width - digits.length) '0' ++ digits)

/-- One change: for whom (nobody in particular, if there are no bits), how, and which letters. -/
structure Change where
  whom : Nat
  sign : Char
  letters : List Char

/-- The bits that a letter for somebody stands for. -/
def whomBits : Char → Nat
  | 'u' => 0o4700
  | 'g' => 0o2070
  | 'o' => 0o1007
  | 'a' => 0o7777
  | _ => 0

/-- The signs and letters behind those for somebody. -/
def changesFor (whom : Nat) : (fuel : Nat) → List Char → Option (List Change)
  | 0, _ => none
  | _, [] => some []
  | fuel + 1, sign :: rest =>
    if "+-=".toList.contains sign then
      let found := rest.takeWhile "rwxXstugo".toList.contains
      (changesFor whom fuel (rest.drop found.length)).map (⟨whom, sign, found⟩ :: ·)
    else none

/-- Reads changes of permission bits. -/
def changes? (text : String) : Option (List Change) := do
  let clauses ← (text.splitOn ",").mapM fun clause =>
    let whom := clause.toList.takeWhile "ugoa".toList.contains
    let rest := clause.toList.drop whom.length
    if rest.isEmpty then none
    else changesFor (whom.foldl (fun bits c => bits ||| whomBits c) 0) (rest.length + 1) rest
  return clauses.flatten

/-- The bits after a change. -/
def Change.apply (change : Change) (umask : Nat) (isDirectory : Bool) (mode : Nat) : Nat :=
  let executes := isDirectory || mode &&& 0o111 ≠ 0
  let copied (shift : Nat) : Nat :=
    let bits := (mode >>> shift) &&& 7
    bits * 0o111
  let bits := change.letters.foldl (fun bits c => bits ||| match c with
    | 'r' => 0o444
    | 'w' => 0o222
    | 'x' => 0o111
    | 'X' => if executes then 0o111 else 0
    | 's' => 0o6000
    | 't' => 0o1000
    | 'u' => copied 6
    | 'g' => copied 3
    | _ => copied 0) 0
  let value := if change.whom = 0 then bits - (bits &&& umask) else bits &&& change.whom
  match change.sign with
  | '+' => mode ||| value
  | '-' => mode - (mode &&& value)
  | _ =>
    let kept := if change.whom = 0 then 0 else mode - (mode &&& change.whom)
    kept ||| value

/-- What a text makes of permission bits. -/
def read? (text : String) : Option (Nat → Bool → Nat → Nat) :=
  let cs := text.toList
  if ! cs.isEmpty && cs.all fun c => '0' ≤ c && c ≤ '7' then
    let value := cs.foldl (fun n c => n * 8 + (c.toNat - '0'.toNat)) 0
    if value ≤ 0o7777 then some fun _ _ _ => value else none
  else (changes? text).map fun found umask isDirectory mode =>
    found.foldl (fun mode change => change.apply umask isDirectory mode) mode

end Permission

namespace FileTree

/-- Gives other permission bits to what is at a path. -/
def setMode (tree : FileTree) (path : Path) (mode : Nat) : FileTree :=
  match tree.entryAt? path with
  | some (.file number) =>
    match tree.bodies.lookup number with
    | some body => tree.setBody number { body with mode := mode }
    | none => tree
  | some (.directory _) =>
    { tree with entries := tree.entries.map fun (p, entry) =>
        (p, if p = path then .directory mode else entry) }
  | _ => tree

end FileTree

namespace Permission

/-- The options of the tool that changes permission bits. -/
def table : OptionTable :=
  .of "cfRvà:" [("changes", 'c'), ("quiet", 'f'), ("silent", 'f'), ("recursive", 'R'), ("verbose", 'v'),
    ("reference", 'à')]

/-- Changes the bits of what is at a path, and of what is below it. -/
def changeAt (call : Call) (request : Request) (change : Nat → Bool → Nat → Nat) :
    (fuel : Nat) → (name : String) → Path → Errand Unit
  | 0, _, _ => return ()
  | fuel + 1, name, path => do
    let files ← Errand.files
    match files.entryAt? path with
    | none => return ()
    | some entry =>
      let old := files.modeOf entry
      let new := change call.umask entry.isDirectory old
      Errand.put (files.setMode path new)
      let told (mode : Nat) : String := octal 4 mode ++ " (" ++ letters mode ++ ")"
      if old ≠ new && (request.asks 'v' || request.asks 'c') then
        Errand.say ("mode of '" ++ name ++ "' changed from " ++ told old ++ " to " ++ told new)
      else if old = new && request.asks 'v' then
        Errand.say ("mode of '" ++ name ++ "' retained as " ++ told old)
      if request.asks 'R' && entry.isDirectory then
        Errand.forEach (fun child => do
          match (← Errand.files).entryAt? (path ++ [child]) with
          | some (.link _) => return ()
          | _ => changeAt call request change fuel (inside name child) (path ++ [child]))
          (files.children path)

/-- Changes the permission bits of files. -/
def chmod : Tool := fun call =>
  let isMode (text : String) : Bool :=
    text.length > 1 && text.startsWith "-" && (text.toList.drop 1).all "rwxXstugoa,=+-01234567".toList.contains
  let texts := call.texts
  let given := texts.find? isMode
  let others := match given with
    | some mode => texts.erase mode
    | none => texts
  match table.readFrom none others with
  | .error text => call.misused 1 text
  | .ok request =>
    let (mode?, names) := match request.value? 'à', given, request.operands with
      | some _, _, names => (none, names)
      | none, some mode, names => (some mode, names)
      | none, none, mode :: names => (some mode, names)
      | none, none, [] => (none, [])
    match mode?, names with
    | none, [] => call.misused 1 "missing operand"
    | some mode, [] => call.misused 1 ("missing operand after " ++ quoted mode)
    | mode?, names =>
      let change? : Option (Nat → Bool → Nat → Nat) := match mode? with
        | some mode => read? mode
        | none => (request.value? 'à').bind fun name =>
            (call.find name).toOption.map fun (_, entry) _ _ _ => call.files.modeOf entry
      match change? with
      | none => call.misused 1 ("invalid mode: " ++ quoted (mode?.getD ""))
      | some change =>
        Errand.reply call 1 <| Errand.forEach (fun name => do
          match (← Errand.files).find call.directory name true with
          | .ok (path, _) => changeAt call request change 100 name path
          | .error e =>
            if request.asks 'f' then modify fun d => { d with failed := true }
            else Errand.complain call ("cannot access '" ++ name ++ "': " ++ e.message)) names

end Permission

end Progeny.Host

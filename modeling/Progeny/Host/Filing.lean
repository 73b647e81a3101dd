import Progeny.Host.Numeral
import Progeny.Host.Permission

/-!
# Filing

Tools that make files, directories and links, or remove them.
-/

namespace Progeny.Host

open Text (Bytes bytesOf)

namespace FileTree

/-- The tree with a new name for what is at a path; there must be nothing at the new one. -/
def link (tree : FileTree) (path target : Path) : Except FileError FileTree := do
  if (tree.entryAt? target).isSome then throw .alreadyThere
  if ! tree.isDirectory target.dropLast then throw .notFound
  match tree.entryAt? path with
  | some entry => return tree.put target entry
  | none => throw .notFound

/-- The tree with a link at a path. -/
def putLink (tree : FileTree) (path : Path) (target : String) : Except FileError FileTree := do
  if target.isEmpty then throw .notFound
  if (tree.entryAt? path).isSome then throw .alreadyThere
  if ! tree.isDirectory path.dropLast then throw .notFound
  return tree.put path (.link target)

/-- The tree without a directory that holds nothing. -/
def removeDirectory (tree : FileTree) (path : Path) : Except FileError FileTree :=
  match tree.entryAt? path with
  | none => .error .notFound
  | some (.directory _) => if (tree.children path).isEmpty then .ok (tree.remove path) else .error .notEmpty
  | some _ => .error .notDirectory

end FileTree

namespace Filing

/-! ### Making files -/

/-- Makes empty files of names that there are none of, and gives the others a new time. -/
def touch : Tool := fun call =>
  call.withOptions (.of "acd:fhmr:t:à:" [("no-create", 'c'), ("date", 'd'), ("no-dereference", 'h'),
    ("reference", 'r'), ("time", 'à')]) 1 fun request =>
  let names := request.operands
  let isDate (text : String) : Bool := text.toList.any Char.isDigit || text = "now" || text = "yesterday"
  let isStamp (text : String) : Bool :=
    let digits := text.toList.takeWhile Char.isDigit
    [8, 10, 12].contains digits.length && (digits.length = text.length || text.length = digits.length + 3)
  let wrong := ((request.value? 'd').filter (! isDate ·)).or ((request.value? 't').filter (! isStamp ·))
  match wrong with
  | some text => call.failing 1 ("invalid date format " ++ quoted text)
  | none =>
    let reference := (request.value? 'r').map fun name => (name, call.files.bodyOf? call.directory name)
    match reference, names with
    | some (name, none), _ => call.failing 1 ("failed to get attributes of " ++ quoted name ++ ": No such file or directory")
    | _, [] => call.misused 1 "missing file operand"
    | _, names =>
      let time : Nat := match reference with
        | some (_, some body) => body.changed
        | _ => if (request.value? 'd').isSome || (request.value? 't').isSome then 0 else call.files.clock
      Errand.reply call 1 <| Errand.forEach (fun name => do
        let files ← Errand.files
        let cannot (e : FileError) : Errand Unit :=
          Errand.complain call (if e = .notFound && name.endsWith "/" then "setting times of '" ++ name ++ "': " ++ e.message
            else "cannot touch " ++ quotedName name ++ ": " ++ e.message)
        match files.find call.directory name true with
        | .ok (_, .file number) =>
          match files.bodies.lookup number with
          | some body => Errand.put (files.setBody number { body with changed := time })
          | none => return ()
        | .ok _ => return ()
        | .error _ =>
          if request.asks 'c' then return ()
          if name.endsWith "/" then cannot .notFound
          else match files.openForWriting call.directory name (call.newBits 0o666) false with
            | .ok (files, .file number) =>
              Errand.put (match files.bodies.lookup number with
                | some body => files.setBody number { body with changed := time }
                | none => files)
            | .ok (files, _) => Errand.put files
            | .error e => cannot e) names

/-- Cuts files to a size, or makes them so long. -/
def truncate : Tool := fun call =>
  call.withOptions (.of "cor:s:" [("no-create", 'c'), ("io-blocks", 'o'), ("reference", 'r'), ("size", 's')])
    1 fun request =>
  let text := (request.value? 's').getD "0"
  let (sign, digits) := match text.toList with
    | c :: rest => if "+-<>/%".toList.contains c then (some c, String.ofList rest) else (none, text)
    | [] => (none, "")
  if (request.value? 's').isNone && (request.value? 'r').isNone then
    call.misused 1 ("you must specify either " ++ quoted "--size" ++ " or " ++ quoted "--reference")
  else match Numeral.sized? digits with
    | none => call.failing 1 ("Invalid number: " ++ quoted text)
    | some n =>
      if request.operands.isEmpty then call.misused 1 "missing file operand"
      else
        let base? := (request.value? 'r').map fun name =>
          ((call.files.bodyOf? call.directory name).map (·.content.length)).getD 0
        Errand.reply call 1 <| Errand.forEach (fun name => do
          let files ← Errand.files
          let isThere := (files.find call.directory name true).toOption.isSome
          if ! isThere && request.asks 'c' then return ()
          match files.openForWriting call.directory name (call.newBits 0o666) false with
          | .error e => Errand.complain call ("cannot open " ++ quotedName name ++ " for writing: " ++ e.message)
          | .ok (files, .file number) =>
            let content := ((files.bodies.lookup number).map (·.content)).getD []
            let old := base?.getD content.length
            let size := match sign, (request.value? 's') with
              | _, none => old
              | none, _ => n
              | some '+', _ => old + n
              | some '-', _ => old - n
              | some '<', _ => min old n
              | some '>', _ => max old n
              | some '/', _ => old / n * n
              | some _, _ => (old + n - 1) / n * n
            Errand.put (files.setContent number (content.take size ++ List.replicate (size - content.length) 0))
          | .ok (files, _) => Errand.put files) request.operands

/-- Makes pipes that have names. -/
def mkfifo : Tool := fun call =>
  call.withOptions (.of "m:Z" [("mode", 'm')]) 1 fun request =>
  if request.operands.isEmpty then call.misused 1 "missing operand"
  else Errand.reply call 1 <| Errand.forEach (fun name => do
    let _ ← Errand.attempt call (fun e => "cannot create fifo " ++ quotedName name ++ ": " ++ e.message)
      fun files => do
        let path ← files.locate call.directory name false
        if (files.entryAt? path).isSome then throw .alreadyThere
        if ! files.isDirectory path.dropLast then throw .notFound
        return { files.put path (.device (.fifo files.fresh)) with fresh := files.fresh + 1 }) request.operands

/-- Letters and digits that are different for different numbers. -/
def scramble : (count : Nat) → Nat → List Char
  | 0, _ => []
  | count + 1, n =>
    let letters := "abcdefghijklmnopqrstuvwxyzABCDEFGHIJKLMNOPQRSTUVWXYZ0123456789".toList
    let next := (n * 25214903917 + 11) % Nat.pow 2 48
    letters.getD (next / Nat.pow 2 20 % 62) 'a' :: scramble count next

/-- Makes a file or a directory with a name that nothing had before. -/
def mktemp : Tool := fun call =>
  call.withOptions (.of "dp:qtuVà:" [("directory", 'd'), ("dry-run", 'u'), ("quiet", 'q'), ("suffix", 'à'),
    ("tmpdir", 'p')]) 1 fun request =>
  match request.operands with
  | _ :: _ :: _ => call.misused 1 "too many templates"
  | operands =>
    let template := operands.headD "tmp.XXXXXXXXXX"
    let place := ((request.value? 'p').filter (! ·.isEmpty)).getD
      ((((call.environment.lookup "TMPDIR").map Text.Utf8.decode).filter (! ·.isEmpty)).getD "/tmp")
    let suffix := (request.value? 'à').getD ""
    let backwards := template.toList.reverse
    let tail := if (request.value? 'à').isSome then [] else backwards.takeWhile (· != 'X')
    let marks := (backwards.drop tail.length).takeWhile (· == 'X')
    let complain (text : String) : Reply :=
      if request.asks 'q' then { call.idle with status := 1 } else call.failing 1 text
    if marks.length < 3 then complain ("too few X's in template " ++ quoted template)
    else
      let head := String.ofList (backwards.drop (tail.length + marks.length)).reverse
      let inTmp := operands.isEmpty || (request.value? 'p').isSome || request.asks 't'
      let name := (if inTmp then inside place head else head) ++
        String.ofList (scramble marks.length (call.files.fresh * 7919 + call.files.clock)) ++
        String.ofList tail.reverse ++ suffix
      let whole := if inTmp then inside place (template ++ suffix) else template ++ suffix
      let made : Except FileError FileTree :=
        if request.asks 'u' then .ok call.files
        else if request.asks 'd' then
          (call.files.makeDirectory call.directory name 0o700).map fun files =>
            { files with fresh := files.fresh + 1 }
        else (call.files.openForWriting call.directory name 0o600 true).map (·.1)
      match made with
      | .ok files => { call.printing (line name) with files := files }
      | .error e => complain ("failed to create " ++ (if request.asks 'd' then "directory" else "file") ++
          " via template " ++ quoted whole ++ ": " ++ e.message)

/-! ### Directories -/

/-- The paths that lead to a path, with itself. -/
def steps (text : String) : List String :=
  let names := Path.names text
  let start := if text.startsWith "/" then "/" else ""
  (List.range names.length).map fun n => start ++ "/".intercalate (names.take (n + 1))

/-- Makes directories. -/
def mkdir : Tool := fun call =>
  call.withOptions (.of "m:pvZ" [("mode", 'm'), ("parents", 'p'), ("verbose", 'v')]) 1 fun request =>
  let bits? : Option Nat := match request.value? 'm' with
    | none => some (call.newBits 0o777)
    | some text => (Permission.read? text).map fun change => change call.umask true 0o777
  match bits?, request.operands with
  | _, [] => call.misused 1 "missing operand"
  | none, _ => call.failing 1 ("invalid mode " ++ quoted ((request.value? 'm').getD ""))
  | some bits, names =>
    let make (name : String) (bits : Nat) : Errand Bool := do
      let isMade ← Errand.attempt call (fun e => "cannot create directory " ++ quoted name ++ ": " ++ e.message)
        fun files => files.makeDirectory call.directory name bits
      if isMade && request.asks 'v' then Errand.say (call.name ++ ": created directory " ++ quotedName name)
      return isMade
    Errand.reply call 1 <| Errand.forEach (fun name => do
      if ! request.asks 'p' then
        let _ ← make name bits
      else
        let whole := steps name
        let _ ← whole.foldlM (fun (going : Bool) (step : String) => do
          if ! going then return false
          let files ← Errand.files
          match files.find call.directory step true with
          | .ok (_, .directory _) => return true
          | .ok _ =>
            Errand.complain call ("cannot create directory " ++ quoted step ++ ": " ++
              (if step = whole.getLastD "" then "File exists" else "Not a directory"))
            return false
          | .error _ => make step (if step = whole.getLastD "" then bits else call.newBits 0o777 ||| 0o300)) true
        if name.isEmpty then
          let _ ← make name bits) names

/-- Removes directories that hold nothing. -/
def rmdir : Tool := fun call =>
  call.withOptions (.of "pvà" [("parents", 'p'), ("verbose", 'v'), ("ignore-fail-on-non-empty", 'à')]) 1
    fun request =>
  if request.operands.isEmpty then call.misused 1 "missing operand"
  else
    let drop (name : String) : Errand Bool := do
      if request.asks 'v' then Errand.say (call.name ++ ": removing directory, " ++ quotedName name)
      let files ← Errand.files
      let isLink : Bool := name.endsWith "/" && (files.find call.directory (withoutSlashes name) false).toOption.any
        fun (_, entry) => (entry matches .link _)
      let result : Except FileError FileTree := do
        let path ← files.locate call.directory name false
        if lastName name = "." then throw .invalid
        files.removeDirectory path
      match result with
      | .ok files =>
        Errand.put files
        return true
      | .error e =>
        if e ≠ .notEmpty || ! request.asks 'à' then
          Errand.complain call ("failed to remove " ++ quotedName name ++ ": " ++
            (if isLink then "Symbolic link not followed" else e.message))
        return false
    Errand.reply call 1 <| Errand.forEach (fun name => do
      let names := if request.asks 'p' then (steps name).reverse else [name]
      let _ ← names.foldlM (fun (going : Bool) (step : String) => if going then drop step else return false) true)
      request.operands

/-! ### Removing -/

/-- Which question is asked before something is removed. -/
def question (entry : Entry) (isEmpty : Bool) (name : String) : String :=
  let kind := match entry with
    | .directory _ => "directory"
    | .file _ => if isEmpty then "regular empty file" else "regular file"
    | .link _ => "symbolic link"
    | .device (.fifo _) => "fifo"
    | .device _ => "character special file"
  "remove " ++ kind ++ " " ++ quotedName name ++ "? "

/-- Removes what is at a path, and before that what is below it. -/
def removeAt (call : Call) (request : Request) : (fuel : Nat) → (name : String) → Path → Errand Unit
  | 0, _, _ => return ()
  | fuel + 1, name, path => do
    let files ← Errand.files
    match files.entryAt? path with
    | none => return ()
    | some entry =>
      if entry.isDirectory then
        Errand.forEach (fun child => removeAt call request fuel (inside name child) (path ++ [child]))
          (files.children path)
      let isEmpty := (files.body? path).any (·.content.isEmpty)
      let asks := request.last? ['f', 'i'] = some 'i'
      if asks then
        if ! (← Errand.ask call (question entry isEmpty name)) then return ()
      let files ← Errand.files
      if entry.isDirectory && ! (files.children path).isEmpty then return ()
      Errand.put (files.remove path)
      if request.asks 'v' then
        Errand.say ("removed " ++ (if entry.isDirectory then "directory " else "") ++ quotedName name)

/-- Removes files, and directories if that is asked for. -/
def rm : Tool := fun call =>
  call.withOptions (.of "dfiIrRvàáâ" [("dir", 'd'), ("force", 'f'), ("interactive", 'i'), ("recursive", 'r'),
    ("verbose", 'v'), ("no-preserve-root", 'à'), ("preserve-root", 'á'), ("one-file-system", 'â')]) 1 fun request =>
  let deep := request.asks 'r' || request.asks 'R'
  if request.operands.isEmpty then
    if request.asks 'f' then call.idle else call.misused 1 "missing operand"
  else if request.asks 'i' && ! call.ended then call.wanting
  else
    Errand.reply call 1 <| Errand.forEach (fun name => do
      let files ← Errand.files
      let cannot (e : FileError) : Errand Unit :=
        Errand.complain call ("cannot remove " ++ quotedName name ++ ": " ++ e.message)
      match files.find call.directory name false with
      | .error e =>
        if request.asks 'f' && (e = .notFound || e = .notDirectory) then return () else cannot e
      | .ok (path, entry) =>
        let last := lastName name
        if entry.isDirectory && deep && (last = "." || last = "..") then
          Errand.complain call ("refusing to remove '.' or '..' directory: skipping " ++ quotedName name)
        else if entry.isDirectory && deep && path.isEmpty then do
          Errand.complain call "it is dangerous to operate recursively on '/'"
          Errand.complain call "use --no-preserve-root to override this failsafe"
        else if ! entry.isDirectory then removeAt call request 1 name path
        else if deep then removeAt call request 1000 (if name = "/" then name else withoutSlashes name) path
        else if request.asks 'd' then
          if (files.children path).isEmpty then removeAt call request 1 name path else cannot .notEmpty
        else cannot .isDirectory) request.operands

/-- Removes one name of a file. -/
def unlink : Tool := fun call =>
  call.withOptions (.of "" []) 1 fun request =>
  match request.operands with
  | [] => call.misused 1 "missing operand"
  | [name] =>
    let cannot (e : FileError) : Reply := call.failing 1 ("cannot unlink " ++ quotedName name ++ ": " ++ e.message)
    match call.findLink name with
    | .error e => cannot e
    | .ok (_, .directory _) => cannot .isDirectory
    | .ok (path, _) => { call.idle with files := call.files.remove path }
  | _ :: extra :: _ => call.misused 1 ("extra operand " ++ quoted extra)

/-! ### Links -/

/-- Gives a file a second name. -/
def linkTo : Tool := fun call =>
  call.withOptions (.of "" []) 1 fun request =>
  match request.operands with
  | [] => call.misused 1 "missing operand"
  | [name] => call.misused 1 ("missing operand after " ++ quoted name)
  | [name, target] =>
    let made : Except FileError FileTree := do
      let (path, _) ← call.findLink name
      call.files.link path (← call.files.locate call.directory target false)
    match made with
    | .ok files => { call.idle with files := files }
    | .error e => call.failing 1 ("cannot create link " ++ quotedName target ++ " to " ++ quotedName name ++ ": " ++ e.message)
  | _ :: _ :: extra :: _ => call.misused 1 ("extra operand " ++ quoted extra)

/-- Where links, copies or moved files are to be put. -/
inductive Destination where
  /-- Under their own names into a directory. -/
  | into (directory : String)
  /-- At this name. -/
  | at (name : String)

/-- Whether a name leads to a directory. -/
def isDirectory (call : Call) (files : FileTree) (name : String) (final : Bool) : Bool :=
  (files.find call.directory name final).toOption.any fun (_, entry) => entry.isDirectory

/-- What is put where; the failure is a complaint, which says whether help is to be offered.  A link to a
directory stands for it only if `final`. -/
def placing (call : Call) (kind : String) (target? : Option String) (exact final : Bool) (names : List String) :
    Except (Bool × String) (List String × Destination) := do
  let noTarget (target : String) : Bool × String :=
    match call.find target with
    | .error e => (false, "target " ++ quotedName target ++ ": " ++ e.message)
    | .ok _ => (false, "target " ++ quotedName target ++ ": Not a directory")
  match target?, names with
  | _, [] => throw (true, "missing " ++ kind ++ " operand")
  | some target, names =>
    if isDirectory call call.files target true then return (names, .into target) else throw (noTarget target)
  | none, [name] => throw (true, "missing destination " ++ kind ++ " operand after " ++ quotedName name)
  | none, [name, target] =>
    if ! exact && isDirectory call call.files target final then return ([name], .into target)
    else return ([name], .at target)
  | none, first :: second :: third :: rest =>
    if exact then throw (true, "extra operand " ++ quotedName third)
    let target := (third :: rest).getLastD third
    let names := (first :: second :: third :: rest).dropLast
    if isDirectory call call.files target true then return (names, .into target) else throw (noTarget target)

/-- The name that something of a name gets. -/
def Destination.nameFor (destination : Destination) (name : String) : String :=
  match destination with
  | .into directory => inside directory (lastName name)
  | .at target => target

/-- Makes links. -/
def ln : Tool := fun call =>
  call.withOptions (.of "bdfFinPrLsS:t:Tv" [("force", 'f'), ("interactive", 'i'), ("no-dereference", 'n'),
    ("physical", 'P'), ("relative", 'r'), ("symbolic", 's'), ("suffix", 'S'), ("target-directory", 't'),
    ("no-target-directory", 'T'), ("verbose", 'v'), ("logical", 'L'), ("backup", 'b')]) 1 fun request =>
  let symbolic := request.asks 's'
  let placed : Except (Bool × String) (List String × Destination) :=
    match request.operands, request.value? 't' with
    | [name], none => if request.asks 'T' then
        .error (true, "missing destination file operand after " ++ quotedName name) else .ok ([name], .into ".")
    | names, target? => placing call "file" target? (request.asks 'T') (! request.asks 'n') names
  match placed with
  | .error (helps, text) => if helps then call.misused 1 text else call.failing 1 text
  | .ok (names, destination) =>
    Errand.reply call 1 <| Errand.forEach (fun name => do
      let shownTarget := destination.nameFor name
      let files ← Errand.files
      let kind := if symbolic then "symbolic" else "hard"
      let source := files.find call.directory name (request.asks 'L')
      match symbolic, source with
      | false, .error e => Errand.complain call ("failed to access " ++ quotedName name ++ ": " ++ e.message)
      | false, .ok (_, .directory _) =>
        Errand.complain call (shownName name ++ ": hard link not allowed for directory")
      | _, _ =>
        let made : Except FileError FileTree := do
          let path ← files.locate call.directory shownTarget false
          let isSame := source.toOption.any fun (source, entry) => ! symbolic && files.entryAt? path = some entry && source = path
          let cleared := if request.asks 'f' && ! isSame && ! (files.entryAt? path).any Entry.isDirectory then
            files.remove path else files
          if symbolic then
            let text := if request.asks 'r' then
                let target := (files.locate call.directory name true).toOption.getD []
                let here := path.dropLast
                let common := ((target.zip here).takeWhile fun (a, b) => a == b).length
                "/".intercalate ((here.drop common).map (fun _ => "..") ++ target.drop common)
              else name
            cleared.putLink path text
          else match source with
            | .ok (source, _) => cleared.link source path
            | .error e => .error e
        match made with
        | .ok files =>
          Errand.put files
          if request.asks 'v' then
            Errand.say (quotedName shownTarget ++ (if symbolic then " -> " else " => ") ++ quotedName name)
        | .error e =>
          let arrow := if symbolic then (if e = .alreadyThere then "" else " -> " ++ quotedName name)
            else if e = .alreadyThere then "" else " => " ++ quotedName name
          let arrow := if symbolic && e = .notFound && ! name.isEmpty then "" else arrow
          Errand.complain call ("failed to create " ++ kind ++ " link " ++ quotedName shownTarget ++ arrow ++ ": " ++
            e.message)) names

/-! ### Copies of what is read -/

/-- Copies what it reads to its output and to files. -/
def tee : Tool := fun call =>
  call.withOptions (.of "aip" [("append", 'a'), ("ignore-interrupts", 'i')]) 1 fun request =>
  let begin (files : FileTree) (name : String) :
      Except FileError (FileTree × Option Nat × Bytes × Option Nat × Option String) := do
    let (files, entry) ← files.openForWriting call.directory name (call.newBits 0o666) false
    match entry with
    | .file number =>
      let old := ((files.bodies.lookup number).map (·.content)).getD []
      return (files, some number, if request.asks 'a' then old else [], none, none)
    | .device (.descriptor n) => return (files, none, [], some n, none)
    | .device .full => return (files, none, [], none, some name)
    | _ => return (files, none, [], none, none)
  let (files, opened, complaints) := request.operands.foldl (fun (files, opened, complaints) name =>
    match begin files name with
    | .ok (files, found) => (files, opened ++ [found], complaints)
    | .error e => (files, opened, complaints ++ call.complaint (shownName name ++ ": " ++ e.message)))
    (call.files, ([] : List (Option Nat × Bytes × Option Nat × Option String)), [])
  if ! call.ended then
    { call.wanting with printed := [(2, complaints), (1, call.input)] }
  else
    let written := opened.foldl (fun files (number?, before, _) => match number? with
      | some number => files.setContent number (before ++ call.input)
      | none => files) files
    let copies := opened.filterMap fun (_, _, descriptor?, _) => descriptor?.map fun n => (n, call.input)
    let full := if call.input.isEmpty then [] else opened.filterMap fun (_, _, _, full?) =>
      full?.map fun name => (2, call.complaint (shownName name ++ ": No space left on device"))
    { call.idle with
      files := written, printed := [(2, complaints), (1, call.input)] ++ copies ++ full, unread := []
      complains := fun reason => "'standard output': " ++ reason
      status := if complaints.isEmpty && full.isEmpty then 0 else 1 }

end Filing

end Progeny.Host

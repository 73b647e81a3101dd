import Progeny.Host.Filing

/-!
# Copying and moving

Tools that copy files and directories, or give them other names.
-/

namespace Progeny.Host.Copying

open Text (Bytes bytesOf)
open Filing (Destination placing)

/-- How files are copied. -/
structure Style where
  deep : Bool
  /-- Links are copied themselves. -/
  keepsLinks : Bool
  /-- Permission bits are copied even if new files do not get them. -/
  keepsBits : Bool
  force : Bool
  asks : Bool
  /-- What is there already stays. -/
  keepsOld : Bool
  onlyNewer : Bool
  tells : Bool
  links : Bool
  symbolic : Bool
  exact : Bool
  bits : Option Nat := none

/-- Whether two names lead to the same file. -/
def isSame (files : FileTree) (source : Path × Entry) (target : Path × Entry) : Bool :=
  source.1 = target.1 || (match source.2, target.2 with
    | .file a, .file b => a = b
    | _, _ => false) && files.isDirectory source.1.dropLast

/-- Copies what is at a path to a name; `outer` is the path that was to be copied first. -/
def copyAt (call : Call) (style : Style) (outer : Path) : (fuel : Nat) → (name : String) → Path → (target : String) →
    Errand Unit
  | 0, _, _, _ => return ()
  | fuel + 1, name, path, target => do
    let files ← Errand.files
    let told : Errand Unit := do
      if style.tells then Errand.say (quotedName name ++ " -> " ++ quotedName target)
    let cannotMake (e : FileError) : Errand Unit :=
      Errand.complain call ("cannot create regular file " ++ quotedName target ++ ": " ++
        (if e = .notFound && target.endsWith "/" then "Not a directory" else e.message))
    match files.entryAt? path with
    | none => return ()
    | some (.directory mode) =>
      if ! style.deep then
        Errand.complain call ("-r not specified; omitting directory " ++ quotedName name)
      else match files.locate call.directory target true with
        | .error e => Errand.complain call ("cannot create directory " ++ quotedName target ++ ": " ++ e.message)
        | .ok place =>
          if outer.isPrefixOf place && outer ≠ place && path = outer then
            Errand.complain call ("cannot copy a directory, " ++ quotedName name ++ ", into itself, " ++
              quotedName target)
          else
            match files.entryAt? place with
            | some (.directory _) => return ()
            | some _ =>
              Errand.complain call ("cannot overwrite non-directory " ++ quotedName target ++ " with directory " ++
                quotedName name)
            | none =>
              if ! files.isDirectory place.dropLast then
                Errand.complain call ("cannot create directory " ++ quotedName target ++ ": No such file or directory")
              else
                let bits := if style.keepsBits then mode else call.newBits mode
                Errand.put (files.put place (.directory bits))
                told
            if (← Errand.files).isDirectory place then
              Errand.forEach (fun child =>
                copyAt call style outer fuel (inside name child) (path ++ [child]) (inside target child))
                (files.children path)
    | some entry =>
      let there := files.find call.directory target false
      let reached := files.find call.directory target true
      match reached with
      | .ok (_, .directory _) =>
        Errand.complain call ("cannot overwrite directory " ++ quotedName target ++ " with non-directory" ++
          (if outer = path then "" else " " ++ quotedName name))
      | _ =>
        let isKept ← match there, reached with
          | .ok found, target? =>
            if isSame files (path, entry) found || (target?.toOption.any (isSame files (path, entry) ·)) then do
              if ! style.links then
                Errand.complain call (quotedName name ++ " and " ++ quotedName target ++ " are the same file")
              pure true
            else if style.keepsOld then pure true
            else if style.onlyNewer then
              let time (found : Path × Entry) : Nat := ((files.body? found.1).map (·.changed)).getD 0
              pure (time (path, entry) ≤ time found)
            else if style.asks then do
              let agreed ← Errand.ask call ("overwrite " ++ quotedName target ++ "? ")
              pure (! agreed)
            else pure false
          | .error _, _ => pure false
        if isKept then return ()
        let isThere := there.toOption.isSome
        let files ← Errand.files
        let made : Except FileError FileTree :=
          if style.links || style.symbolic then do
            let place ← files.locate call.directory target false
            let files := if isThere && style.force then files.remove place else files
            if style.symbolic then files.putLink place name else files.link path place
          else match entry with
            | .link text => do
              let place ← files.locate call.directory target false
              if ! files.isDirectory place.dropLast then throw .notFound
              return files.put place (.link text)
            | .file number => do
              let body := files.bodies.lookup number
              let mode := (body.map (·.mode)).getD 0o644
              let (files, made) ← files.openForWriting call.directory target (call.newBits mode) false
              match made with
              | .file new =>
                let files := files.setContent new ((body.map (·.content)).getD [])
                let files := if style.keepsBits then match files.bodies.lookup new with
                    | some fresh => files.setBody new { fresh with mode := mode, changed := (body.map (·.changed)).getD 0 }
                    | none => files
                  else files
                match style.bits, files.bodies.lookup new with
                | some bits, some fresh => return files.setBody new { fresh with mode := bits }
                | _, _ => return files
              | _ => return files
            | _ => do
              let content ← call.read name
              files.write call.directory target (call.newBits 0o666) content
        match made with
        | .ok files =>
          Errand.put files
          told
        | .error e =>
          if style.symbolic || style.links then
            Errand.complain call ("cannot create " ++ (if style.links then "hard" else "symbolic") ++ " link " ++
              quotedName target ++ " to " ++ quotedName name ++ ": " ++ e.message)
          else cannotMake e

/-- Copies what names lead to. -/
def copyAll (call : Call) (style : Style) (names : List String) (destination : Destination) : Errand Unit :=
  Errand.forEach (fun name => do
    let files ← Errand.files
    match files.find call.directory name (! style.keepsLinks) with
    | .error e => Errand.complain call ("cannot stat " ++ quotedName name ++ ": " ++ e.message)
    | .ok (path, _) =>
      let target := match destination, lastName name with
        | .into directory, "." => inside directory "."
        | destination, _ => destination.nameFor name
      copyAt call style path 200 (if name.length > 1 then withoutSlashes name else name) path target) names

/-- Copies files and directories. -/
def cp : Tool := fun call =>
  call.withOptions (.of "abdfiHlLnPprRsS:t:Tuvxà::á::â" [("archive", 'a'), ("backup", 'b'), ("force", 'f'),
    ("interactive", 'i'), ("dereference", 'L'), ("link", 'l'), ("no-clobber", 'n'), ("no-dereference", 'P'),
    ("recursive", 'r'), ("symbolic-link", 's'), ("target-directory", 't'), ("no-target-directory", 'T'),
    ("update", 'u'), ("verbose", 'v'), ("preserve", 'à'), ("no-preserve", 'á'), ("parents", 'â')]) 1 fun request =>
  let asks := request.asks
  let deep := asks 'r' || asks 'R' || asks 'a'
  let links := match request.last? ['L', 'P', 'd', 'a', 'H'] with
    | some 'L' => false
    | some 'H' => false
    | some _ => true
    | none => deep
  let style : Style := {
    deep := deep, keepsLinks := links, keepsBits := asks 'p' || asks 'a' || asks 'à', force := asks 'f'
    asks := request.last? ['i', 'n', 'f'] = some 'i', keepsOld := asks 'n', onlyNewer := asks 'u', tells := asks 'v'
    links := asks 'l', symbolic := asks 's', exact := asks 'T' }
  let warning := if asks 'n' then call.complaint
      "warning: behavior of -n is non-portable and may change in future; use --update=none instead" else []
  match placing call "file" (request.value? 't') (asks 'T') true request.operands with
  | .error (helps, text) => if helps then call.misused 1 text else call.failing 1 text
  | .ok (names, destination) =>
    if style.asks && ! call.ended then call.wanting
    else
      let reply := Errand.reply call 1 (copyAll call style names destination)
      { reply with printed := (2, warning) :: reply.printed }

/-- Copies files with permission bits, or makes directories. -/
def install : Tool := fun call =>
  call.withOptions (.of "bcCdDg:m:o:psS:t:Tv" [("directory", 'd'), ("mode", 'm'), ("owner", 'o'), ("group", 'g'),
    ("target-directory", 't'), ("no-target-directory", 'T'), ("verbose", 'v'), ("strip", 's'), ("compare", 'C')])
    1 fun request =>
  let mode? : Option Nat := match request.value? 'm' with
    | none => some 0o755
    | some text => (Permission.read? text).map fun change => change 0 false 0
  match mode? with
  | none => call.failing 1 ("invalid mode " ++ quoted ((request.value? 'm').getD ""))
  | some mode =>
    let make (bits : Nat) (step : String) : Errand Unit := do
      let files ← Errand.files
      if ! Filing.isDirectory call files step true then
        let isMade ← Errand.attempt call (fun e => "cannot create directory " ++ quotedName step ++ ": " ++ e.message)
          fun files => files.makeDirectory call.directory step bits
        if isMade && request.asks 'v' then Errand.say (call.name ++ ": creating directory " ++ quotedName step)
    if request.asks 'd' then
      if request.operands.isEmpty then call.misused 1 "missing file operand"
      else Errand.reply call 1 <|
        Errand.forEach (fun name => Errand.forEach (make mode) (Filing.steps name)) request.operands
    else
      let style : Style := {
        deep := false, keepsLinks := false, keepsBits := false, force := true, asks := false, keepsOld := false
        onlyNewer := false, tells := request.asks 'v', links := false, symbolic := false, exact := request.asks 'T'
        bits := some mode }
      match placing call "file" (request.value? 't') (request.asks 'T') true request.operands with
      | .error (helps, text) => if helps then call.misused 1 text else call.failing 1 text
      | .ok (names, destination) =>
        let leading := match destination with
          | .at name => if request.asks 'D' then Filing.steps (parentName name) else []
          | .into _ => []
        Errand.reply call 1 do
          Errand.forEach (make 0o755) leading
          copyAll call style names destination

/-- Gives something that a name leads to another name. -/
def move (call : Call) (request : Request) (destination : Destination) (name : String) : Errand Unit := do
  let files ← Errand.files
  let target := destination.nameFor name
  match files.find call.directory name false with
  | .error e => Errand.complain call ("cannot stat " ++ quotedName name ++ ": " ++ e.message)
  | .ok (path, entry) =>
    let cannot (why : String) : Errand Unit :=
      Errand.complain call ("cannot move " ++ quotedName name ++ " to " ++ quotedName target ++ ": " ++ why)
    let last := lastName name
    if last = "." || last = ".." then cannot "Device or resource busy"
    else match files.locate call.directory (if entry.isDirectory then withoutSlashes target else target) false with
      | .error e =>
        cannot (if e = .notFound && target.endsWith "/" && ! entry.isDirectory then "Not a directory" else e.message)
      | .ok place =>
        let there := files.entryAt? place
        if path = place && (entry.isDirectory = false) || (there.any fun found => isSame files (path, entry) (place, found))
            && ! entry.isDirectory then
          Errand.complain call (quotedName name ++ " and " ++ quotedName target ++ " are the same file")
        else if entry.isDirectory && path.isPrefixOf place then
          Errand.complain call ("cannot move " ++ quotedName name ++ " to a subdirectory of itself, " ++ quotedName target)
        else if ! files.isDirectory place.dropLast then cannot "No such file or directory"
        else
          let isAllowed ← match there with
            | none => pure true
            | some found =>
              if found.isDirectory && ! entry.isDirectory then do
                Errand.complain call ("cannot overwrite directory " ++ quotedName target ++ " with non-directory " ++
                  quotedName name)
                pure false
              else if entry.isDirectory && ! found.isDirectory then do
                Errand.complain call ("cannot overwrite non-directory " ++ quotedName target ++ " with directory " ++
                  quotedName name)
                pure false
              else if found.isDirectory && ! (files.children place).isEmpty then do
                Errand.complain call ("cannot overwrite " ++ quotedName target ++ ": Directory not empty")
                pure false
              else match request.last? ['i', 'n', 'f'] with
                | some 'n' => do
                  Errand.complain call ("not replacing " ++ quotedName target)
                  pure false
                | some 'i' => Errand.ask call ("overwrite " ++ quotedName target ++ "? ")
                | _ =>
                  if request.asks 'u' then
                    let time (place : Path) : Nat := ((files.body? place).map (·.changed)).getD 0
                    pure (time place < time path)
                  else pure true
          if isAllowed then
            Errand.put ((← Errand.files).rename path place)
            if request.asks 'v' then
              Errand.say ("renamed " ++ quotedName name ++ " -> " ++ quotedName target)

/-- Gives files and directories other names. -/
def mv : Tool := fun call =>
  call.withOptions (.of "bfinS:t:Tuv" [("backup", 'b'), ("force", 'f'), ("interactive", 'i'), ("no-clobber", 'n'),
    ("suffix", 'S'), ("target-directory", 't'), ("no-target-directory", 'T'), ("update", 'u'), ("verbose", 'v')])
    1 fun request =>
  match placing call "file" (request.value? 't') (request.asks 'T') true request.operands with
  | .error (helps, text) => if helps then call.misused 1 text else call.failing 1 text
  | .ok (names, destination) =>
    if request.asks 'i' && ! call.ended then call.wanting
    else Errand.reply call 1 (Errand.forEach (move call request destination) names)

end Progeny.Host.Copying

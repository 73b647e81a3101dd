import Progeny.Host.Errand

/-!
# Names of files

Tools that take the names of files apart, or tell where they lead to.
-/

namespace Progeny.Host.Naming

open Text (Bytes bytesOf)

/-- The line of a name, which may end with a zero instead. -/
def ended (request : Request) (name : String) : Bytes :=
  bytesOf name ++ [if request.asks 'z' then 0 else lineFeed]

/-- Prints the last names of paths, without a given ending. -/
def basename : Tool := fun call =>
  call.withOptions { OptionTable.of "as:z" [("multiple", 'a'), ("suffix", 's'), ("zero", 'z')] with first := true }
    1 fun request =>
  let bare (ending text : String) : String :=
    let name := lastName text
    if name ≠ ending && ending.toList.reverse.isPrefixOf name.toList.reverse then
      String.ofList (name.toList.take (name.length - ending.length))
    else name
  let many := request.asks 'a' || request.asks 's'
  match request.operands with
  | [] => call.misused 1 "missing operand"
  | text :: rest =>
    if many then
      call.printing ((text :: rest).flatMap fun text => ended request (bare ((request.value? 's').getD "") text))
    else match rest with
      | [] => call.printing (ended request (lastName text))
      | [ending] => call.printing (ended request (bare ending text))
      | _ :: extra :: _ => call.misused 1 ("extra operand " ++ quoted extra)

/-- Prints what stands before the last names of paths. -/
def dirname : Tool := fun call =>
  call.withOptions (.of "z" [("zero", 'z')]) 1 fun request =>
  match request.operands with
  | [] => call.misused 1 "missing operand"
  | names => call.printing (names.flatMap fun name => ended request (parentName name))

/-- Prints the working directory. -/
def pwd : Tool := fun call =>
  call.withOptions (.of "LP" [("logical", 'L'), ("physical", 'P')]) 1 fun request =>
  let known := (call.environment.lookup "PWD").map Text.Utf8.decode
  let logical := known.filter fun text =>
    text.startsWith "/" && (call.files.locate call.directory text true).toOption = some call.directory
  let place := if request.last? ['L', 'P'] = some 'L' then logical.getD (Path.render call.directory)
    else Path.render call.directory
  let warning := if request.operands.isEmpty then [] else call.complaint "ignoring non-option arguments"
  call.telling warning (line place) 0

/-- How many names of a path need not lead anywhere. -/
inductive Missing where
  | none
  | last
  | all
  deriving DecidableEq

/-- Follows names from a path on as far as they lead anywhere, and as they are written from there on. -/
def followFar (files : FileTree) (directory : Path) (text : String) : Path :=
  let names := Path.names text
  let start : Path := if text.startsWith "/" then [] else directory
  names.foldl (fun here name =>
    if name = "." then here
    else if name = ".." then here.dropLast
    else ((files.locate here name true).toOption).getD (here ++ [name])) start

/-- The path that a text leads to. -/
def resolve (call : Call) (missing : Missing) (text : String) : Except FileError Path := do
  if missing = .all && ! text.isEmpty then return followFar call.files call.directory text
  let path ← call.files.locate call.directory text true
  match call.files.entryAt? path with
  | some _ => return path
  | none => if missing = .last && call.files.isDirectory path.dropLast then return path else throw .notFound

/-- The way from one path to another. -/
def way : Path → Path → String
  | a :: rest, b :: more => if a = b then way rest more else climb (a :: rest) (b :: more)
  | source, target => climb source target
where
  /-- Up from all of one path and down another. -/
  climb (source target : Path) : String :=
    let names := source.map (fun _ => "..") ++ target
    if names.isEmpty then "." else "/".intercalate names

/-- Prints where names lead to. -/
def realpath : Tool := fun call =>
  call.withOptions (.of "eEmLPqszà:á:" [("canonicalize-existing", 'e'), ("canonicalize-missing", 'm'),
    ("logical", 'L'), ("physical", 'P'), ("quiet", 'q'), ("strip", 's'), ("no-symlinks", 's'), ("zero", 'z'),
    ("relative-to", 'à'), ("relative-base", 'á')]) 1 fun request =>
  if request.operands.isEmpty then call.misused 1 "missing operand"
  else
    let missing : Missing := match request.last? ['e', 'm'] with
      | some 'e' => .none
      | some _ => .all
      | none => .last
    let written (text : String) : Path :=
      (Path.names text).foldl (fun here name =>
        if name = "." then here else if name = ".." then here.dropLast else here ++ [name])
        (if text.startsWith "/" then [] else call.directory)
    let base := (request.value? 'à').map fun text => (resolve call .all text).toOption.getD []
    Errand.reply call 1 <| Errand.forEach (fun name => do
      let found := if request.asks 's' && ! name.isEmpty then .ok (written name) else resolve call missing name
      match found with
      | .ok path =>
        let text := match base with
          | some base => way base path
          | none => Path.render path
        modify fun d => { d with told := (1, ended request text) :: d.told }
      | .error e =>
        if request.asks 'q' then modify fun d => { d with failed := true }
        else Errand.complain call ((if name.isEmpty then "''" else shownName name) ++ ": " ++ e.message))
      request.operands

/-- Prints the targets of links, or where names lead to. -/
def readlink : Tool := fun call =>
  call.withOptions (.of "efmnqsvz" [("canonicalize", 'f'), ("canonicalize-existing", 'e'),
    ("canonicalize-missing", 'm'), ("no-newline", 'n'), ("quiet", 'q'), ("silent", 's'), ("verbose", 'v'),
    ("zero", 'z')]) 1 fun request =>
  let names := request.operands
  if names.isEmpty then call.misused 1 "missing operand"
  else
    let bare := request.asks 'n' && names.length = 1
    Errand.reply call 1 <| Errand.forEach (fun name => do
      let found : Except FileError String := match request.last? ['e', 'f', 'm'] with
        | some c =>
          (resolve call (if c = 'e' then .none else if c = 'f' then .last else .all) name).map Path.render
        | none => match call.findLink name with
          | .ok (_, .link target) => .ok target
          | .ok _ => .error .invalid
          | .error e => .error e
      match found with
      | .ok text =>
        let output := if bare then bytesOf text else ended request text
        modify fun d => { d with told := (1, output) :: d.told }
      | .error e =>
        if request.asks 'v' then Errand.complain call (shownName name ++ ": " ++ e.message)
        else modify fun d => { d with failed := true }) names

end Progeny.Host.Naming

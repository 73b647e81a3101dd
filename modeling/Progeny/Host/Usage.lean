import Progeny.Host.Errand

/-!
# Limits and sizes

Tools that tell how much room files take, what limits the host sets, and whether a name keeps to them.
-/

namespace Progeny.Host.Usage

open Text (Bytes bytesOf)

/-! ### Room -/

/-- The size of the units in which room is given to files. -/
def unit : Nat := 4096

/-- How much room an entry takes, or how long it is. -/
def roomOf (files : FileTree) (apparent : Bool) : Entry → Nat
  | .file number =>
    let length := ((files.bodies.lookup number).map (·.content.length)).getD 0
    if apparent then length else (length + unit - 1) / unit * unit
  | .directory _ => unit
  | .link target => if apparent then target.utf8ByteSize else 0
  | .device _ => 0

/-- A size in a short form: at least two digits, and a letter. -/
def short (n : Nat) : String :=
  go 8 n 1 ["", "K", "M", "G", "T", "P", "E"]
where
  go : (fuel n divisor : Nat) → List String → String
    | 0, n, _, _ | _, n, _, [] => n.repr
    | fuel + 1, n, divisor, letter :: rest =>
      let whole := (n + divisor - 1) / divisor
      let tenths := (10 * n + divisor - 1) / divisor
      if divisor = 1 && n < 1024 then n.repr
      else if divisor ≠ 1 && tenths < 100 then (tenths / 10).repr ++ "." ++ (tenths % 10).repr ++ letter
      else if divisor ≠ 1 && whole < 1024 then whole.repr ++ letter
      else go fuel n (divisor * 1024) rest

/-- What is told of a name and of all below it: the sizes and the names, what is in a directory before it. -/
def sizes (files : FileTree) (apparent : Bool) : (fuel : Nat) → (depth : Nat) → (name : String) → Path → Entry →
    Nat × List (Nat × Nat × String × Bool)
  | 0, _, _, _, _ => (0, [])
  | fuel + 1, depth, name, path, entry =>
    if entry.isDirectory then
      let (total, told) := (files.children path).foldl (fun (total, told) child =>
        match files.entryAt? (path ++ [child]) with
        | none => (total, told)
        | some entry =>
          let (size, more) := sizes files apparent fuel (depth + 1) (inside name child) (path ++ [child]) entry
          (total + size, told ++ more)) (roomOf files apparent entry, [])
      (total, told ++ [(depth, total, name, true)])
    else
      let size := roomOf files apparent entry
      (size, [(depth, size, name, false)])

/-- Tells how much room files take. -/
def du : Tool := fun call =>
  call.parsing "abcd:hkmsxLPSB:" [("all", 'a'), ("apparent-size", 'A'), ("bytes", 'b'), ("total", 'c'),
    ("max-depth", 'd'), ("human-readable", 'h'), ("summarize", 's')] fun request =>
  let apparent := request.asks 'b' || request.asks 'A'
  let shown (n : Nat) : String :=
    if request.asks 'b' then n.repr
    else if request.asks 'h' then short n
    else if request.asks 'm' then ((n + 1048575) / 1048576).repr
    else ((n + 1023) / 1024).repr
  let limit := if request.asks 's' then some 0 else (request.value? 'd').bind natural?
  let names := if request.operands.isEmpty then ["."] else request.operands
  let (printed, total) := names.foldl (fun (printed, total) name =>
    match call.findLink name with
    | .error e => (printed ++ [(2, call.complaint ("cannot access " ++ quotedName name ++ ": " ++ e.message))], total)
    | .ok (path, entry) =>
      let (size, told) := sizes call.files apparent 4096 0 name path entry
      let chosen := told.filter fun (depth, _, _, isDirectory) =>
        (isDirectory || request.asks 'a' || depth = 0) && limit.all (depth ≤ ·)
      (printed ++ [(1, chosen.flatMap fun (_, size, name, _) => line (shown size ++ "\t" ++ name))], total + size))
    ([], 0)
  let sum := if request.asks 'c' then [(1, line (shown total ++ "\ttotal"))] else []
  { call.idle with printed := printed ++ sum, status := if printed.any (·.1 = 2) then 1 else 0 }

/-! ### Limits -/

/-- What the host says of itself. -/
def constants : List (String × String) :=
  [("PATH", "/bin:/usr/bin"), ("CS_PATH", "/bin:/usr/bin"), ("ARG_MAX", "2097152"), ("PAGESIZE", "4096"),
   ("PAGE_SIZE", "4096"), ("LONG_BIT", "64"), ("WORD_BIT", "32"), ("CHAR_BIT", "8"), ("INT_MAX", "2147483647"),
   ("INT_MIN", "-2147483648"), ("UINT_MAX", "4294967295"), ("LONG_MAX", "9223372036854775807"), ("CLK_TCK", "100"),
   ("OPEN_MAX", "1048576"), ("_NPROCESSORS_ONLN", "4"), ("_NPROCESSORS_CONF", "4"), ("_POSIX_VERSION", "200809"),
   ("LINE_MAX", "2048"), ("SHRT_MAX", "32767"), ("SSIZE_MAX", "32767"), ("NL_ARGMAX", "4096")]

/-- What the host says of a file. -/
def fileConstants : List (String × String) :=
  [("NAME_MAX", "255"), ("PATH_MAX", "4096"), ("PIPE_BUF", "4096"), ("LINK_MAX", "127")]

/-- Tells a limit. -/
def getconf : Tool := fun call =>
  let usage := { call.telling (line "Usage: getconf [-v specification] variable_name [pathname]" ++
    line "       getconf -a [pathname]") [] 2 with status := 2 }
  match call.texts with
  | [name] => match constants.lookup name with
    | some value => call.printing (line value)
    | none =>
      if (fileConstants.lookup name).isSome then usage
      else call.failing 2 ("Unrecognized variable \x60" ++ name ++ "'")
  | [name, file] => match fileConstants.lookup name with
    | some value => match call.find file with
      | .ok _ => call.printing (line value)
      | .error e => call.failing 1 (file ++ ": " ++ e.message)
    | none => call.failing 2 ("Unrecognized variable \x60" ++ name ++ "'")
  | _ => usage

/-! ### Names -/

/-- What is wrong with a name. -/
def nameFault? (call : Call) (portable basic : Bool) (name : String) : Option String :=
  let parts := (name.splitOn "/").filter (! ·.isEmpty)
  let isPlain (c : Char) : Bool := (c.isAlphanum && c.toNat < 128) || "._-/".toList.contains c
  if basic && parts.any (·.startsWith "-") then some ("leading '-' in a component of file name " ++ quotedName name)
  else if (basic || portable) && name.isEmpty then some "empty file name"
  else match if portable then name.toList.find? (! isPlain ·) else none with
    | some c => some ("non-portable character " ++ quoted c.toString ++ " in file name " ++ quotedName name)
    | none =>
      let limits := if portable then (256, 14) else (4096, 255)
      if limits.1 ≤ name.utf8ByteSize then
        some ("limit " ++ (limits.1 - 1).repr ++ " exceeded by length " ++ name.utf8ByteSize.repr ++ " of file name " ++
          quotedName name)
      else match parts.find? fun part => limits.2 < part.utf8ByteSize with
        | some part =>
          some ("limit " ++ limits.2.repr ++ " exceeded by length " ++ part.utf8ByteSize.repr ++
            " of file name component " ++ quotedName part)
        | none =>
          if portable then none
          else match call.findLink name with
            | .ok _ => none
            | .error e => if e = .notFound && ! name.isEmpty then none else some (quotedName name ++ ": " ++ e.message)

/-- Looks whether names can be given to files. -/
def pathchk : Tool := fun call => call.parsing "pPà" [("portability", 'à')] fun request =>
  if request.operands.isEmpty then call.misused 1 "missing operand"
  else
    let all := request.asks 'à'
    let faults := request.operands.filterMap (nameFault? call (request.asks 'p' || all) (request.asks 'P' || all))
    call.telling (faults.flatMap call.complaint) [] (if faults.isEmpty then 0 else 1)

end Progeny.Host.Usage

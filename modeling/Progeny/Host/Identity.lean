import Progeny.Host.Inspection
import Progeny.Host.Options

/-!
# Who and where

Tools that tell who uses the host, what it is, and what a program was given.
-/

namespace Progeny.Host.Identity

open Text (Bytes bytesOf)

/-- Prints the name of the user. -/
def whoami : Tool := fun call => match call.texts with
  | [] => call.printing (line "root")
  | extra :: _ => call.misused 1 ("extra operand " ++ quoted extra)

/-- Prints the numbers and names of the user and the groups. -/
def id : Tool := fun call =>
  call.parsing "ugGnrz" [("user", 'u'), ("group", 'g'), ("groups", 'G'), ("name", 'n'), ("real", 'r')] fun request =>
  let one := request.asks 'u' || request.asks 'g' || request.asks 'G'
  if one then call.printing (line (if request.asks 'n' then "root" else "0"))
  else call.printing (line "uid=0(root) gid=0(root) groups=0(root)")

/-- Prints the names of the groups. -/
def groups : Tool := fun call => call.printing (line "root")

/-- Prints what the host is. -/
def uname : Tool := fun call =>
  call.parsing "amnopirsv" [("kernel-name", 's'), ("machine", 'm'), ("operating-system", 'o')] fun request =>
  let known := [('s', "Linux"), ('n', "localhost"), ('r', "6.1.0"), ('m', "x86_64"), ('o', "GNU/Linux")]
  let wanted := known.filter fun (c, _) => request.asks c || request.asks 'a'
  match request.operands with
  | extra :: _ => call.misused 1 ("extra operand " ++ quoted extra)
  | [] => call.printing (line (" ".intercalate ((if wanted.isEmpty then known.take 1 else wanted).map (·.2))))

/-- Tells that there is no terminal. -/
def tty : Tool := fun call => { call.printing (line "not a tty") with status := 1 }

/-- Tells that nobody has logged in. -/
def logname : Tool := fun call => call.failing 1 "no login name"

/-- Prints variables that the program was given. -/
def printenv : Tool := fun call =>
  call.parsing "0" [("null", '0')] fun request =>
  let ending : Bytes := if request.asks '0' then [0] else [lineFeed]
  if request.operands.isEmpty then
    call.printing (call.environment.flatMap fun (name, value) => bytesOf (name ++ "=") ++ value ++ ending)
  else
    let found := request.operands.map fun name => call.environment.lookup name
    { call.printing (found.flatMap fun value => match value with
        | some value => value ++ ending
        | none => []) with status := if found.all Option.isSome then 0 else 1 }

/-- Prints where programs are. -/
def which : Tool := fun call =>
  let path := (Text.Utf8.decode ((call.environment.lookup "PATH").getD [])).splitOn ":"
  let names := call.texts.filter (! ·.startsWith "-")
  let isProgram (name : String) : Bool :=
    call.files.has call.directory 'f' name && call.files.has call.directory 'x' name
  let found := names.map fun name =>
    if name.toList.contains '/' then if isProgram name then some name else none
    else (path.map (· ++ "/" ++ name)).find? isProgram
  { call.printing (found.flatMap fun place => match place with
      | some place => line place
      | none => []) with status := if ! names.isEmpty && found.all Option.isSome then 0 else 1 }

/-- Prints one line. -/
def telling (text : String) : Tool := fun call => call.printing (line text)

end Progeny.Host.Identity

import Progeny.Shell.Builtin.Arguments
import Progeny.Shell.Lookup

/-!
# Directories and permissions

The commands that change and tell the current directory and the permission bits of new files.
-/

namespace Progeny.Shell.Builtin

open Host
open Text (Bytes bytesOf)

/-- The text of a path in which a name behind another one goes up again.  Two slashes at its beginning,
but no more, stay two. -/
def simplified (place text : String) : String :=
  let start := if text.startsWith "/" then [] else Path.names place
  let whole := if text.startsWith "/" then text else place
  let isDouble := whole.startsWith "//" && ! whole.startsWith "///"
  let found := Path.render ((Path.names text).foldl (fun names name =>
    if name = "." then names else if name = ".." then names.dropLast else names ++ [name]) start)
  if isDouble then "/" ++ found else found

/-- Goes to a directory; the result says whether there is one. -/
def enter (physical : Bool) (target : String) : Act Bool := do
  let s ← get
  let text := if physical then target else simplified s.place target
  let files := (← Act.machine).files
  match files.find s.directory text true with
  | .ok (path, .directory _) =>
    let place := if physical then Path.render path else text
    let put (name value : String) : Act Unit := do
      Session.assign name (bytesOf value)
      let s ← get
      Session.putVariable name (some { s.variableOf name with exported := true })
    put "OLDPWD" s.place
    put "PWD" place
    modify fun s => { s with directory := path, place := place }
    Lookup.doubt
    return true
  | _ => return false

/-- The directories in which a relative target is looked for. -/
def places (s : Session) (target : Bytes) : List Bytes :=
  let text := Text.Utf8.decode target
  let direct := ["/", "./", "../"].any (text.startsWith ·) || text = "." || text = ".."
  match s.parameter? "CDPATH" with
  | some value => if direct then [[]] else splitBytes (· == 58) value
  | none => [[]]

/-- Goes to another directory. -/
def changeDirectory (args : List Bytes) : Act Unit := do
  let (found, operands) ← parse "LP" args
  let physical := found.getLast?.any (·.1 = 'P')
  let s ← get
  let target := match operands with
    | [] => (s.parameter? "HOME").getD []
    | [45] :: _ => (s.parameter? "OLDPWD").getD []
    | target :: _ => target
  let shows := operands.head? = some [45]
  go physical shows target (if target.isEmpty then [[]] else places s target)
  Session.setStatus 0
where
  go (physical shows : Bool) (target : Bytes) : List Bytes → Act Unit
    | [] => Session.failWith (bytesOf "can't cd to " ++ target)
    | place :: rest => do
      let text := if place.isEmpty then target else place ++ [47] ++ target
      if ← enter physical (if text.isEmpty then "." else Text.Utf8.decode text) then
        if shows || ! place.isEmpty then Session.sayLine (← get).place
      else go physical shows target rest

/-- Tells the current directory. -/
def tellDirectory (args : List Bytes) : Act Unit := do
  let (found, _) ← parse "LP" args
  let s ← get
  Session.sayLine (if found.getLast?.any (·.1 = 'P') then Path.render s.directory else s.place)
  Session.setStatus 0

/-- The permission bits that letters stand for. -/
def bitsOf (letters : List Char) : Nat :=
  (if letters.contains 'r' then 4 else 0) + (if letters.contains 'w' then 2 else 0) +
    if letters.contains 'x' then 1 else 0

/-- The letters of permission bits. -/
def lettersOf (bits : Nat) : String :=
  (if bits &&& 4 ≠ 0 then "r" else "") ++ (if bits &&& 2 ≠ 0 then "w" else "") ++
    if bits &&& 1 ≠ 0 then "x" else ""

/-- A mode that is changed by a text such as `u=rwx,g-w`. -/
def changedMode? (mode : Nat) (text : String) : Option Nat :=
  (text.splitOn ",").foldl (fun mode clause => mode.bind fun mode => one mode clause.toList) (some mode)
where
  one (mode : Nat) (clause : List Char) : Option Nat :=
    let whom := clause.takeWhile "ugoa".toList.contains
    let whom := if whom.isEmpty || whom.contains 'a' then "ugo".toList else whom
    match clause.dropWhile "ugoa".toList.contains with
    | op :: letters =>
      if ! "+-=".toList.contains op || ! letters.all "rwxXst".toList.contains then none
      else
        let shifts : List Nat := whom.map fun c => if c = 'u' then 6 else if c = 'g' then 3 else 0
        let letters := if letters.contains 'X' && mode &&& 0o111 ≠ 0 then 'x' :: letters else letters
        let bits := (shifts.map fun n => bitsOf letters <<< n).foldl (· ||| ·) 0
        let all := (shifts.map fun n => 7 <<< n).foldl (· ||| ·) 0
        let special := (if letters.contains 's' then
            (if whom.contains 'u' then 0o4000 else 0) ||| (if whom.contains 'g' then 0o2000 else 0)
          else 0) ||| if letters.contains 't' then 0o1000 else 0
        some (match op with
          | '+' => mode ||| bits ||| special
          | '-' => mode - (mode &&& (bits ||| special))
          | _ => (mode - (mode &&& all)) ||| bits ||| special)
    | [] => none

/-- The number that octal digits stand for. -/
def octal? (text : String) : Option Nat :=
  let cs := text.toList
  if cs.isEmpty || ! cs.all (fun c => '0' ≤ c && c ≤ '7') then none
  else some (cs.foldl (fun n c => n * 8 + (c.toNat - '0'.toNat)) 0)

/-- Tells or changes the permission bits that new files do not get. -/
def changeMask (args : List Bytes) : Act Unit := do
  let (found, operands) ← parse "S" args
  let s ← get
  let inverse (mode : Nat) : Nat := 0o777 - (0o777 &&& mode)
  match operands with
  | [] =>
    if found.isEmpty then
      Session.sayLine (String.ofList (Nat.toDigits 8 (0o10000 + s.umask)).tail)
    else
      let mode := inverse s.umask
      Session.sayLine ("u=" ++ lettersOf (mode >>> 6 &&& 7) ++ ",g=" ++ lettersOf (mode >>> 3 &&& 7) ++
        ",o=" ++ lettersOf (mode &&& 7))
  | arg :: _ =>
    let text := Text.Utf8.decode arg
    if text.toList.head?.any Char.isDigit then
      match octal? text with
      | some n => set { s with umask := n &&& 0o777 }
      | none => Session.failWith (bytesOf "Illegal number: " ++ arg)
    else match changedMode? (inverse s.umask) text with
      | some mode => set { s with umask := inverse mode }
      | none => Session.failWith (bytesOf "Illegal mode: " ++ arg)
  Session.setStatus 0

end Progeny.Shell.Builtin

import Progeny.Host.Glob
import Progeny.Host.Permission

/-!
# Criteria for files

The language in which it is said which files are looked for in directories, and what is done with them.
An argument is a test, an action or a sign; tests and actions follow one another, and each is looked at
only if what stands before it makes that necessary.
-/

namespace Progeny.Host.Finding

open Text (Bytes bytesOf)

/-- A number, or all below or above it. -/
structure Count where
  sign : Ordering
  number : Nat

/-- Whether a number is counted in. -/
def Count.holds (c : Count) (n : Nat) : Bool :=
  match c.sign with
  | .lt => n < c.number
  | .eq => n = c.number
  | .gt => c.number < n

/-- Something that was found. -/
structure Found where
  /-- Its name, as it is told, and the one that the search began with. -/
  name : String
  start : String
  /-- How many directories lie between the two. -/
  depth : Nat
  path : Path
  entry : Entry

/-- What can be asked of something. -/
inductive Test where
  | always (answer : Bool)
  | name (pattern : String) (anyCase : Bool)
  /-- The same of the whole of its name. -/
  | wholeName (pattern : String) (anyCase : Bool)
  | expression (regex : Regex) (anyCase : Bool)
  | target (pattern : String) (anyCase : Bool)
  | kind (letters : List Char)
  /-- The kind of what a link leads to. -/
  | targetKind (letters : List Char)
  | size (count : Count) (unit : Nat)
  | empty
  /-- Exactly these permission bits, all of them (a dash) or any of them (a slash). -/
  | bits (mask : Nat) (how : Char)
  | newer (time : Nat)
  | same (path : Path) (entry : Entry)
  | links (count : Count)
  | owner (count : Count)
  | age (count : Count)
  | executable

/-- What can be done with something. -/
inductive Action where
  /-- Its name is printed, to a file if one is named. -/
  | print (file : Option String) (ending : Bytes)
  | format (file : Option String) (text : String)
  | delete
  | prune
  | quit
  /-- A program is run, in its directory if `inside`, after a question if `asks`. -/
  | run (words : List String) (inside asks : Bool)
  /-- A program is run for all together. -/
  | batch (number : Nat) (words : List String) (inside : Bool)

/-- What is looked for. -/
inductive Criterion where
  | test (test : Test)
  | act (action : Action)
  | not (a : Criterion)
  | both (a b : Criterion)
  | either (a b : Criterion)
  /-- Both are looked at; the second one counts. -/
  | list (a b : Criterion)

/-- How directories are gone through. -/
structure Route where
  least : Nat := 0
  most : Option Nat := none
  /-- What is in a directory comes before it. -/
  upwards : Bool := false
  /-- Links are followed, everywhere or only at the beginning. -/
  follows : Bool := false
  followsFirst : Bool := false

/-- The files that something is written to. -/
def Criterion.outputs : Criterion → List String
  | .act (.print file _) | .act (.format file _) => file.toList
  | .test _ | .act _ => []
  | .not a => outputs a
  | .both a b | .either a b | .list a b => outputs a ++ outputs b

/-! ### Tests -/

/-- The letter of a kind. -/
def kindLetter : Entry → Char
  | .directory _ => 'd'
  | .file _ => 'f'
  | .link _ => 'l'
  | .device (.fifo _) => 'p'
  | .device _ => 'c'

/-- The size of an entry. -/
def sizeOf (files : FileTree) : Entry → Nat
  | .file number => ((files.bodies.lookup number).map (·.content.length)).getD 0
  | .directory _ => 4096
  | .link target => target.utf8ByteSize
  | .device _ => 0

/-- When an entry was changed. -/
def timeOf (files : FileTree) : Entry → Nat
  | .file number => ((files.bodies.lookup number).map (·.changed)).getD 0
  | _ => files.clock

/-- How many paths lead to an entry. -/
def linksOf (files : FileTree) (found : Found) : Nat :=
  match found.entry with
  | .directory _ =>
    2 + (files.children found.path).countP fun name => files.isDirectory (found.path ++ [name])
  | entry => files.entries.countP (·.2 == entry)

/-- The last part of the name of something. -/
def Found.base (found : Found) : String := lastName found.name

/-- Whether something passes a test. -/
def Test.passes (files : FileTree) (found : Found) : Test → Bool
  | .always answer => answer
  | .name pattern anyCase => Glob.accepts pattern found.base anyCase
  | .wholeName pattern anyCase => Glob.accepts pattern found.name anyCase
  | .expression regex anyCase =>
    let symbols := Symbol.ofBytes (bytesOf found.name)
    (regex.matchAt? { anyCase := anyCase } (·.after.isEmpty) [] symbols symbols.length).isSome
  | .target pattern anyCase => match found.entry with
    | .link place => Glob.accepts pattern place anyCase
    | _ => false
  | .kind letters => letters.contains (kindLetter found.entry)
  | .targetKind letters =>
    let entry := match files.find found.path.dropLast (found.path.getLast?.getD ".") true with
      | .ok (_, entry) => entry
      | .error _ => found.entry
    letters.contains (kindLetter entry)
  | .size count unit => count.holds ((sizeOf files found.entry + unit - 1) / unit)
  | .empty => match found.entry with
    | .directory _ => (files.children found.path).isEmpty
    | .file _ => sizeOf files found.entry = 0
    | _ => false
  | .bits mask how =>
    let mode := files.modeOf found.entry
    if how = '-' then mode &&& mask = mask else if how = '/' then mask = 0 || mode &&& mask ≠ 0 else mode = mask
  | .newer time => time < timeOf files found.entry
  | .same path entry => found.path = path || (found.entry = entry && ! entry.isDirectory)
  | .links count => count.holds (linksOf files found)
  | .owner count => count.holds 0
  | .age count => count.holds 0
  | .executable => found.entry.isDirectory || files.modeOf found.entry &&& 0o111 ≠ 0

/-! ### Formats -/

/-- What a letter in a format stands for. -/
def directive (files : FileTree) (found : Found) (c : Char) : String :=
  match c with
  | 'p' => found.name
  | 'f' => found.base
  | 'h' =>
    if found.depth = 0 && ! found.name.toList.contains '/' then "." else
      let parts := found.name.splitOn "/"
      if parts.length < 2 then "." else "/".intercalate parts.dropLast
  | 'P' => ((found.name.drop found.start.length).toString.dropWhile (· == '/')).toString
  | 'H' => found.start
  | 's' => (sizeOf files found.entry).repr
  | 'b' => ((sizeOf files found.entry + 4095) / 4096 * 8).repr
  | 'k' => ((sizeOf files found.entry + 4095) / 4096 * 4).repr
  | 'd' => found.depth.repr
  | 'm' => String.ofList (Nat.toDigits 8 (files.modeOf found.entry))
  | 'M' =>
    let letter := kindLetter found.entry
    (if letter = 'f' then '-' else letter).toString ++ Permission.letters (files.modeOf found.entry)
  | 'y' => (kindLetter found.entry).toString
  | 'l' => match found.entry with
    | .link target => target
    | _ => ""
  | 'n' => (linksOf files found).repr
  | 'u' | 'g' => "root"
  | 'U' | 'G' => "0"
  | _ => ""

/-- Fills a width with blanks, on the right after a dash. -/
def filled (width : List Char) (text : String) : String :=
  let left := width.head? = some '-'
  let n := (String.ofList (if left then width.drop 1 else width)).toNat?.getD 0
  let gap := String.ofList (List.replicate (n - text.length) ' ')
  if left then text ++ gap else gap ++ text

/-- What a format says of something. -/
def formatted (files : FileTree) (found : Found) : (fuel : Nat) → List Char → String
  | 0, _ | _, [] => ""
  | fuel + 1, '\\' :: c :: rest =>
    let octal := (c :: rest).takeWhile fun d => '0' ≤ d && d ≤ '7'
    if octal.isEmpty then
      match [('n', "\n"), ('t', "\t"), ('r', "\r"), ('a', "\x07"), ('b', "\x08"), ('f', "\x0c"), ('v', "\x0b"),
          ('\\', "\\")].lookup c with
      | some text => text ++ formatted files found fuel rest
      | none => if c = 'c' then "" else "\\" ++ c.toString ++ formatted files found fuel rest
    else
      let digits := octal.take 3
      let n := digits.foldl (fun n d => n * 8 + (d.toNat - 48)) 0
      (Char.ofNat n).toString ++ formatted files found fuel ((c :: rest).drop digits.length)
  | fuel + 1, '%' :: rest =>
    let width := rest.takeWhile fun c => c.isDigit || c = '-'
    match rest.drop width.length with
    | '%' :: rest => "%" ++ formatted files found fuel rest
    | c :: rest =>
      let (text, rest) := if c = 'T' || c = 'A' || c = 'C' then ("1970", rest.drop 1) else (directive files found c, rest)
      filled width text ++ formatted files found fuel rest
    | [] => "%"
  | fuel + 1, c :: rest => c.toString ++ formatted files found fuel rest

/-! ### Reading -/

/-- The parts of what is looked for. -/
inductive Sign where
  | opening
  | closing
  | negation
  | and
  | or
  | comma
  | plain (criterion : Criterion)

/-- How the sign is called. -/
def Sign.text : Sign → String
  | .opening => "("
  | .closing => ")"
  | .negation => "!"
  | .and => "-a"
  | .or => "-o"
  | .comma => ","
  | .plain _ => ""

/-- What was read so far. -/
structure Reading where
  left : List String
  route : Route := {}
  /-- Expressions are read as extended ones. -/
  extended : Bool := false
  batches : Nat := 0
  /-- Something is done with what is found. -/
  acts : Bool := false
  /-- The test that was read last. -/
  last : String := ""

/-- Reads arguments. -/
abbrev Read := StateT Reading (Except String)

/-- What tests may need to know of the files. -/
structure Surroundings where
  files : FileTree
  directory : Path

/-- Whether an argument belongs to what is looked for, rather than being a place to look at. -/
def isExpression (text : String) (first : Bool) : Bool :=
  match text.toList with
  | '-' :: _ :: _ => true
  | [')'] | [','] => ! first
  | ['('] | ['!'] => true
  | _ => false

/-- The argument of a test. -/
def argument (name : String) : Read String := do
  match (← get).left with
  | [] => throw ("missing argument to \x60" ++ name ++ "'")
  | text :: rest =>
    modify fun r => { r with left := rest }
    return text

/-- The number that an argument stands for. -/
def countOf (name text : String) : Except String Count :=
  let (sign, digits) := match text.toList with
    | '+' :: rest => (Ordering.gt, String.ofList rest)
    | '-' :: rest => (Ordering.lt, String.ofList rest)
    | _ => (Ordering.eq, text)
  match natural? digits with
  | some n => .ok ⟨sign, n⟩
  | none => .error ("invalid argument \x60" ++ text ++ "' to \x60" ++ name ++ "'")

/-- The letters of kinds, separated by commas. -/
def kindsOf (name text : String) : Except String (List Char) := do
  let parts := (text.splitOn ",").map String.toList
  if text.isEmpty then throw ("Arguments to " ++ name ++ " should contain at least one letter")
  match parts.find? fun part => part.length ≠ 1 with
  | some [] => throw ("Last file type in list argument to " ++ name ++ " is missing, i.e., list is ending on: ','")
  | some (c :: _) =>
    if "bcdpflsD".toList.contains c then throw ("Must separate multiple arguments to " ++ name ++ " using: ','")
    else throw ("Unknown argument to " ++ name ++ ": " ++ c.toString)
  | none =>
    let letters := parts.flatten
    match letters.find? (! "bcdpflsD".toList.contains ·) with
    | some c => throw ("Unknown argument to " ++ name ++ ": " ++ c.toString)
    | none => return letters

/-- The size that an argument stands for, and its unit. -/
def sizeIn (text : String) : Except String (Count × Nat) := do
  let units := [('c', 1), ('w', 2), ('b', 512), ('k', 1024), ('M', 1048576), ('G', 1073741824)]
  match text.toList.reverse with
  | [] => throw "invalid null argument to -size"
  | c :: rest =>
    let number (text : String) : Except String Count := match countOf "" text with
      | .ok count => .ok count
      | .error _ => .error ("Invalid argument \x60" ++ text ++ "' to -size")
    if c.isDigit then return (← number text, 512)
    else match units.lookup c with
      | some unit => return (← number (String.ofList rest.reverse), unit)
      | none => throw ("invalid -size type \x60" ++ c.toString ++ "'")

/-- The permission bits that an argument stands for. -/
def bitsIn (text : String) : Except String Test :=
  let (how, rest) := match text.toList with
    | '-' :: rest => ('-', String.ofList rest)
    | '/' :: rest => ('/', String.ofList rest)
    | _ => ('=', text)
  match Permission.read? rest with
  | some change => .ok (.bits (change 0 false 0) how)
  | none => .error ("invalid mode " ++ quoted text)

/-- The words of a program up to the sign that ends them, and whether it is run for all together. -/
def commandWords (together : Bool) : (before : List String) → List String → Option (List String × Bool × List String)
  | _, [] => none
  | before, ";" :: rest => if before.isEmpty then none else some (before.reverse, false, rest)
  | before, text :: rest =>
    if together && text = "+" && before.head? = some "\x7b\x7d" && before.length > 1 then
      some (before.reverse, true, rest)
    else commandWords together (text :: before) rest

/-- An expression in the usual manner of this language, in which some signs need no backslash. -/
def usual : List Char → List Char
  | '\\' :: c :: rest => if c = '+' || c = '?' then c :: usual rest else '\\' :: c :: usual rest
  | c :: rest => if c = '+' || c = '?' then '\\' :: c :: usual rest else c :: usual rest
  | [] => []

/-- Looks for a file that a test compares with. -/
def reference (at' : Surroundings) (text : String) : Except String (Path × Entry) :=
  match at'.files.find at'.directory text true with
  | .ok found => .ok found
  | .error e => .error (quoted text ++ ": " ++ e.message)

/-- Reads one test or action. -/
def primary (at' : Surroundings) (word : String) : Read Criterion := do
  let value := argument word
  let test (t : Test) : Read Criterion := return .test t
  let act (a : Action) : Read Criterion := do
    modify fun r => { r with acts := true }
    return .act a
  let counted (of : Count → Test) : Read Criterion := do
    let count ← (countOf word (← value) : Except String Count)
    test (of count)
  let command (inside asks : Bool) : Read Criterion := do
    match commandWords (! asks) [] (← get).left with
    | none => throw ("missing argument to \x60" ++ word ++ "'")
    | some (words, together, rest) =>
      modify fun r => { r with left := rest }
      if ! together then act (.run words inside asks)
      else
        let words := words.dropLast
        if words.contains "\x7b\x7d" then
          throw ("Only one instance of \x7b\x7d is supported with " ++ word ++ " ... +")
        let number := (← get).batches
        modify fun r => { r with batches := number + 1 }
        act (.batch number words inside)
  let depth : Read Nat := do
    let text ← value
    match natural? text with
    | some n => return n
    | none => throw ("Expected a positive decimal integer argument to " ++ word ++ ", but got " ++ quoted text)
  let known (what text : String) : Read Criterion :=
    if text = "root" || text = "0" then test (.always true)
    else if (natural? text).isSome then test (.always false)
    else throw (quoted text ++ " is not the name of " ++ what)
  let ignored : Read Criterion := test (.always true)
  let expression (anyCase : Bool) : Read Criterion := do
    let text ← value
    let extended := (← get).extended
    let written := if extended then text else String.ofList (usual text.toList)
    match Regex.read ⟨extended, false⟩ (Symbol.ofBytes (bytesOf written)) with
    | .ok found => test (.expression found.regex anyCase)
    | .error fault => throw ("failed to compile regular expression '" ++ text ++ "': " ++ fault.message)
  match word with
  | "-name" => test (.name (← value) false)
  | "-iname" => test (.name (← value) true)
  | "-path" | "-wholename" => test (.wholeName (← value) false)
  | "-ipath" | "-iwholename" => test (.wholeName (← value) true)
  | "-regex" => expression false
  | "-iregex" => expression true
  | "-lname" => test (.target (← value) false)
  | "-ilname" => test (.target (← value) true)
  | "-type" => test (.kind (← (kindsOf word (← value) : Except String (List Char))))
  | "-xtype" => test (.targetKind (← (kindsOf word (← value) : Except String (List Char))))
  | "-size" =>
    let (count, unit) ← (sizeIn (← value) : Except String (Count × Nat))
    test (.size count unit)
  | "-empty" => test .empty
  | "-perm" => test (← (bitsIn (← value) : Except String Test))
  | "-newer" | "-anewer" | "-cnewer" | "-newermm" =>
    let (_, entry) ← (reference at' (← value) : Except String (Path × Entry))
    test (.newer (timeOf at'.files entry))
  | "-samefile" =>
    let (path, entry) ← (reference at' (← value) : Except String (Path × Entry))
    test (.same path entry)
  | "-links" => counted .links
  | "-inum" => counted fun _ => .always false
  | "-uid" | "-gid" => counted .owner
  | "-mtime" | "-atime" | "-ctime" | "-mmin" | "-amin" | "-cmin" => counted .age
  | "-user" => known "a known user" (← value)
  | "-group" => known "an existing group" (← value)
  | "-nouser" | "-nogroup" | "-false" => test (.always false)
  | "-true" | "-readable" | "-writable" => test (.always true)
  | "-executable" => test .executable
  | "-maxdepth" =>
    let n ← depth
    modify fun r => { r with route := { r.route with most := some n } }
    ignored
  | "-mindepth" =>
    let n ← depth
    modify fun r => { r with route := { r.route with least := n } }
    ignored
  | "-depth" | "-d" =>
    modify fun r => { r with route := { r.route with upwards := true } }
    ignored
  | "-follow" =>
    modify fun r => { r with route := { r.route with follows := true } }
    ignored
  | "-regextype" =>
    let text ← value
    modify fun r => { r with extended := ["posix-extended", "egrep", "posix-egrep", "awk", "gnu-awk", "posix-awk"].contains text }
    ignored
  | "-xdev" | "-mount" | "-noleaf" | "-daystart" | "-warn" | "-nowarn" | "-ignore_readdir_race"
  | "-noignore_readdir_race" => ignored
  | "-print" => act (.print none [lineFeed])
  | "-print0" => act (.print none [0])
  | "-fprint" => act (.print (some (← value)) [lineFeed])
  | "-fprint0" => act (.print (some (← value)) [0])
  | "-printf" => act (.format none (← value))
  | "-fprintf" =>
    let file ← value
    act (.format (some file) (← value))
  | "-ls" => act (.format none "%k %M %n %u %g %s %p\\n")
  | "-exec" => command false false
  | "-execdir" => command true false
  | "-ok" => command false true
  | "-okdir" => command true true
  | "-delete" =>
    modify fun r => { r with route := { r.route with upwards := true } }
    act .delete
  | "-prune" => return .act .prune
  | "-quit" => return .act .quit
  | _ => throw ("unknown predicate \x60" ++ word ++ "'")

/-- Reads the signs of what is looked for. -/
def signs (at' : Surroundings) : (fuel : Nat) → Read (List Sign)
  | 0 => return []
  | fuel + 1 => do
    match (← get).left with
    | [] => return []
    | word :: rest =>
      if ! isExpression word false then
        let before := (← get).last
        let hint := if before.isEmpty || (at'.files.find at'.directory word false).toOption.isNone then ""
          else "\nfind: possible unquoted pattern after predicate \x60" ++ before ++ "'?"
        throw ("paths must precede expression: \x60" ++ word ++ "'" ++ hint)
      modify fun r => { r with left := rest }
      let sign ← match word with
        | "(" => pure Sign.opening
        | ")" => pure Sign.closing
        | "!" | "-not" => pure Sign.negation
        | "-a" | "-and" => pure Sign.and
        | "-o" | "-or" => pure Sign.or
        | "," => pure Sign.comma
        | _ => Sign.plain <$> primary at' word
      modify fun r => { r with last := word }
      return sign :: (← signs at' fuel)

/-- A criterion, and the signs behind it. -/
abbrev Part := Except String (Criterion × List Sign)

/-- What stands behind a sign, or at the beginning. -/
def operand : (fuel : Nat) → (before : Option Sign) → List Sign → Part
  | 0, _, _ => .error "invalid expression"
  | fuel + 1, before, signs =>
    match signs with
    | [] => match before with
      | some .opening =>
        .error "invalid expression; expected to find a ')' but didn't see one. Perhaps you need an extra predicate after '('"
      | some sign => .error ("expected an expression after '" ++ sign.text ++ "'")
      | none => .error "invalid expression"
    | .plain c :: rest => .ok (c, rest)
    | .negation :: rest => do
      let (c, rest) ← operand fuel (some .negation) rest
      return (.not c, rest)
    | .opening :: .closing :: _ => .error "invalid expression; empty parentheses are not allowed."
    | .opening :: rest => do
      let (c, rest) ← sequence fuel 0 (some .opening) rest
      match rest with
      | .closing :: rest => return (c, rest)
      | _ => throw "invalid expression; I was expecting to find a ')' somewhere but did not see one."
    | .closing :: _ => match before with
      | some sign => .error ("expected an expression between '" ++ sign.text ++ "' and ')'")
      | none => .error "invalid expression; you have too many ')'"
    | sign :: _ =>
      match before with
      | none | some .opening =>
        .error ("invalid expression; you have used a binary operator '" ++ sign.text ++ "' with nothing before it.")
      | some before => .error ("expected an expression after '" ++ before.text ++ "'")
where
  /-- Operands with signs of some level between them: commas, alternatives or conjunctions. -/
  sequence : (fuel level : Nat) → (before : Option Sign) → List Sign → Part
    | 0, _, _, _ => .error "invalid expression"
    | fuel + 1, level, before, signs =>
      if 2 < level then operand fuel before signs
      else do
        let (c, rest) ← sequence fuel (level + 1) before signs
        more fuel level c rest
  /-- What follows an operand. -/
  more : (fuel level : Nat) → Criterion → List Sign → Part
    | 0, _, _, _ => .error "invalid expression"
    | fuel + 1, level, c, signs =>
      match level, signs with
      | 0, .comma :: rest => do
        let (d, rest) ← sequence fuel 1 (some .comma) rest
        more fuel level (.list c d) rest
      | 1, .or :: rest => do
        let (d, rest) ← sequence fuel 2 (some .or) rest
        more fuel level (.either c d) rest
      | 2, .and :: rest => do
        let (d, rest) ← operand fuel (some .and) rest
        more fuel level (.both c d) rest
      | 2, .plain _ :: _ | 2, .negation :: _ | 2, .opening :: _ => do
        let (d, rest) ← operand fuel (some .and) signs
        more fuel level (.both c d) rest
      | _, _ => .ok (c, signs)

/-- What is looked for, and how. -/
structure Order where
  starts : List String
  route : Route
  criterion : Criterion

/-- Reads arguments. -/
def order (at' : Surroundings) (args : List String) : Except String Order := do
  let manners := args.takeWhile fun text => ["-H", "-L", "-P"].contains text
  let rest := args.drop manners.length
  let starts := rest.takeWhile (! isExpression · true)
  let route : Route := match manners.getLast? with
    | some "-L" => { follows := true }
    | some "-H" => { followsFirst := true }
    | _ => {}
  let left := rest.drop starts.length
  let (found, r) ← (signs at' (left.length + 1)).run { left := left, route := route }
  let printing : Criterion := .act (.print none [lineFeed])
  let criterion ← if found.isEmpty then pure printing
    else do
      let (c, rest) ← operand.sequence (8 * found.length + 8) 0 none found
      if ! rest.isEmpty then throw "invalid expression; you have too many ')'"
      pure (if r.acts then c else .both c printing)
  return ⟨if starts.isEmpty then ["."] else starts, r.route, criterion⟩

end Progeny.Host.Finding

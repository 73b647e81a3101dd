import Progeny.Host.FileTree

/-!
# Tools

A tool is a program of the host: a function of its arguments, its input and the files.
-/

namespace Progeny.Host

open Text (Bytes bytesOf)

/-- A command that a tool has a shell carry out. -/
structure Order where
  command : Bytes
  /-- What the command reads, if not the input of the tool. -/
  input : Option Bytes := none
  /-- What the command prints is given to the tool. -/
  captures : Bool := false

/-- What a tool is given. -/
structure Call where
  /-- The name that the tool is called by. -/
  name : String
  args : List Bytes
  input : Bytes
  /-- The input is a file, so that what is not used of it can be given back. -/
  isFile : Bool
  /-- No more input will come. -/
  ended : Bool
  /-- Why there is no input. -/
  inputError : Option FileError := none
  files : FileTree
  directory : Path
  environment : List (String × Bytes)
  /-- The permission bits that new files do not get. -/
  umask : Nat
  /-- What it prints is lost. -/
  isMuted : Bool := false
  /-- The number of the file that it prints to. -/
  outputFile : Option Nat := none
  /-- The statuses of the commands that it had carried out, and what they printed. -/
  answers : List (Nat × Bytes) := []

/-- What a tool leaves. -/
structure Reply where
  /-- What was printed, and on which descriptor, in order. -/
  printed : List (Nat × Bytes)
  status : Nat
  files : FileTree
  /-- The input that was not read. -/
  unread : Bytes
  /-- The time that the tool took, in millionths of a second. -/
  delay : Nat := 0
  /-- More input is needed; nothing has happened yet. -/
  wants : Bool := false
  /-- A command is carried out before the tool goes on. -/
  order : Option Order := none
  /-- The signal that ended the tool. -/
  signal : Option Nat := none
  /-- The status if something cannot be printed. -/
  unprinted : Nat := 1
  /-- What is said then, and why it cannot be printed. -/
  complains : String → String := fun reason => "write error: " ++ reason

/-- A program of the host. -/
abbrev Tool := Call → Reply

/-! ### Lines and numbers -/

/-- The octet that ends a line. -/
def lineFeed : UInt8 := 10

/-- Lines with the line feeds that end them; the last may have none. -/
def linesOf (bytes : Bytes) : List Bytes :=
  bytes.foldr (fun b found =>
    if b == lineFeed then [b] :: found
    else match found with
      | [] => [[b]]
      | line :: rest => (b :: line) :: rest) []

/-- A line without its line feed. -/
def chomp (line : Bytes) : Bytes :=
  if line.getLast? = some lineFeed then line.dropLast else line

/-- A line with a line feed. -/
def line (text : String) : Bytes := bytesOf text ++ [lineFeed]

/-- The octets of lines, each of which gets a line feed. -/
def unlines (lines : List Bytes) : Bytes := lines.flatMap (· ++ [lineFeed])

/-- Whether an octet is a decimal digit. -/
def isDigit (b : UInt8) : Bool := 48 ≤ b && b ≤ 57

/-- The number that decimal digits stand for. -/
def decimal (digits : Bytes) : Nat :=
  digits.foldl (fun (n : Nat) (d : UInt8) => n * 10 + (d.toNat - 48)) 0

/-- The number without a sign that a text stands for. -/
def natural? (text : String) : Option Nat :=
  let cs := text.toList
  if cs.isEmpty || ! cs.all Char.isDigit then none
  else some (cs.foldl (fun n c => n * 10 + (c.toNat - '0'.toNat)) 0)

/-- The whole number that a text stands for, which may have a sign. -/
def integer? (text : String) : Option Int :=
  match text.toList with
  | '-' :: cs => (natural? (String.ofList cs)).map fun n => -(n : Int)
  | '+' :: cs => (natural? (String.ofList cs)).map fun n => (n : Int)
  | _ => (natural? text).map fun n => (n : Int)

/-- A text with blanks before it, to fill a width. -/
def aligned (width : Nat) (text : String) : String :=
  String.ofList (List.replicate (width - text.length) ' ') ++ text

/-- Splits octets at the ones that `cut` holds of; one more piece than there are cuts. -/
def splitBytes (cut : UInt8 → Bool) (bytes : Bytes) : List Bytes :=
  bytes.foldr (fun b found =>
    if cut b then [] :: found
    else match found with
      | [] => [[b]]
      | field :: rest => (b :: field) :: rest) [[]]

/-- Whether octets come no later than others, octet by octet. -/
def noLater : Bytes → Bytes → Bool
  | [], _ => true
  | _ :: _, [] => false
  | a :: as, b :: bs => if a == b then noLater as bs else a < b

/-- A text in quotation marks; what cannot be printed in it is written as an escape. -/
def quoted (text : String) : String :=
  let shown (c : Char) : String :=
    if c = '\\' then "\\\\"
    else match [('\n', "\\n"), ('\t', "\\t"), ('\r', "\\r"), ('\x07', "\\a"), ('\x08', "\\b"),
        ('\x0b', "\\v"), ('\x0c', "\\f")].lookup c with
      | some letter => letter
      | none =>
        if c.toNat < 32 || c.toNat = 127 then
          let digits := String.ofList (Nat.toDigits 8 c.toNat)
          "\\" ++ String.ofList (List.replicate (3 - digits.length) '0') ++ digits
        else c.toString
  "‘" ++ String.join (text.toList.map shown) ++ "’"

/-- A name in such quotation marks as a shell reads it with. -/
def quotedName (name : String) : String :=
  if name.toList.contains '\'' && ! name.toList.any "\"$\x60\\\n\t".toList.contains then "\"" ++ name ++ "\""
  else "'" ++ String.join (name.toList.map fun c => match c with
    | '\'' => "'\\''"
    | '\n' => "'$'\\n''"
    | '\t' => "'$'\\t''"
    | _ => c.toString) ++ "'"

/-- A name, in quotation marks if a shell would not read it as it is. -/
def shownName (name : String) : String :=
  let isSpecial (c : Char) : Bool := " !\"$&'()*;<=>?[\\^\x60|\n\t\r".toList.contains c
  let starts := name.startsWith "#" || name.startsWith "~"
  if name.isEmpty || starts || name = "\x7b" || name = "\x7d" || name.toList.any isSpecial then quotedName name
  else name

/-- The line that says where help on a tool is found. -/
def hintFor (name : String) : String := "Try '" ++ name ++ " --help' for more information."

namespace Call

/-- The arguments as text. -/
def texts (call : Call) : List String := call.args.map Text.Utf8.decode

/-- The reply of a tool that did nothing, which is its success. -/
def idle (call : Call) : Reply := { printed := [], status := 0, files := call.files, unread := call.input }

/-- The reply of a tool that printed something and succeeded. -/
def printing (call : Call) (output : Bytes) : Reply := { call.idle with printed := [(1, output)] }

/-- The reply of a tool that complained before it printed. -/
def telling (call : Call) (errors output : Bytes) (status : Nat) : Reply :=
  { call.idle with printed := [(2, errors), (1, output)], status := status }

/-- A complaint in the name of the tool. -/
def complaint (call : Call) (text : String) : Bytes := line (call.name ++ ": " ++ text)

/-- The reply of a tool that failed with a complaint. -/
def failing (call : Call) (status : Nat) (text : String) : Reply :=
  call.telling (call.complaint text) [] status

/-- The line that says where help is found. -/
def hint (call : Call) : String := hintFor call.name

/-- The reply of a tool that was called in a wrong way. -/
def misused (call : Call) (status : Nat) (text : String) : Reply :=
  call.telling (call.complaint text ++ line call.hint) [] status

/-- What a text names. -/
def find (call : Call) (name : String) : Except FileError (Path × Entry) :=
  call.files.find call.directory name true

/-- What a text names, a link at its end not being followed. -/
def findLink (call : Call) (name : String) : Except FileError (Path × Entry) :=
  call.files.find call.directory name false

/-- The content of the file that a text names. -/
def read (call : Call) (name : String) : Except FileError Bytes :=
  match call.find name with
  | .ok (_, .device (.descriptor 0)) => .ok call.input
  | _ => call.files.read call.directory name

/-- What a text names, a dash standing for the input. -/
def readOrInput (call : Call) (name : String) : Except FileError Bytes :=
  if name = "-" then
    match call.inputError with
    | some e => .error e
    | none => .ok call.input
  else call.read name

/-- Whether any of some names stands for the input. -/
def takesInput (names : List String) : Bool :=
  names.isEmpty || names.contains "-" || names.contains "/dev/stdin"

/-- The reply of a tool that waits for more input. -/
def wanting (call : Call) : Reply := { call.idle with wants := true }

/-- The number of octets that tools print at a time. -/
def blockSize : Nat := 4096

/-- The reply of a tool that waits for more input, and prints what of its output fills blocks. -/
def wantingBehind (call : Call) (output : Bytes) : Reply :=
  { call.wanting with printed := [(1, output.take (output.length / blockSize * blockSize))] }

/-- Goes on when all input is there. -/
def whenEnded (call : Call) (go : Reply) : Reply := if call.ended then go else call.wanting

/-- What is read, by the names that it was given by; without names the input is read. -/
def sources (call : Call) (names : List String) : List (String × Except FileError Bytes) :=
  (if names.isEmpty then ["-"] else names).map fun name => (name, call.readOrInput name)

/-- The reply of a tool that reads all of what is named. -/
def reading (call : Call) (names : List String)
    (go : List (String × Except FileError Bytes) → Reply) : Reply :=
  if takesInput names then
    if call.ended then { go (call.sources names) with unread := [] } else call.wanting
  else { go (call.sources names) with unread := call.input }

/-- The part of some octets that is complete lines. -/
def wholeLines (bytes : Bytes) : Bytes := (bytes.reverse.dropWhile (· != lineFeed)).reverse

/-- The reply of a tool that prints what it makes of one source after the other, or `told` about one that
cannot be read; `refuses` says which are not read at all. -/
def eachSource {σ : Type} (call : Call) (names : List String) (told : String → FileError → String)
    (start : σ) (f : σ → Bytes → Bytes × σ) (refuses : String → Option FileError := fun _ => none) : Reply :=
  if names.all (· = "-") && ! call.ended then call.wantingBehind (f start (wholeLines call.input)).1
  else call.reading names fun found =>
    let (printed, _, failed) := found.foldl (fun (printed, state, failed) (name, content) =>
      match refuses name, content with
      | none, .ok bytes =>
        let (output, state) := f state bytes
        ((1, output) :: printed, state, failed)
      | none, .error e | some e, _ => ((2, call.complaint (told name e)) :: printed, state, true)) ([], start, false)
    { call.idle with printed := printed.reverse, status := if failed then 1 else 0 }

/-- What most tools tell of a file that cannot be read. -/
def named (name : String) (e : FileError) : String := shownName name ++ ": " ++ e.message

/-- The reply of a tool that prints what it makes of all that it reads together. -/
def together (call : Call) (names : List String) (told : String → FileError → String) (status : Nat)
    (f : Bytes → Bytes) : Reply :=
  call.reading names fun found =>
    let bytes := found.flatMap fun (_, content) => match content with
      | .ok bytes => bytes
      | .error _ => []
    let complaints := found.flatMap fun (name, content) => match content with
      | .ok _ => []
      | .error e => call.complaint (told name e)
    call.telling complaints (f bytes) (if complaints.isEmpty then 0 else status)

end Call

end Progeny.Host

import Progeny.Host.Numeral
import Progeny.Host.Options
import Progeny.Host.Regex

/-!
# Lines

Tools that print what they read line by line: all of it or a part, in its order or the reverse, with
numbers, or cut to a width.
-/

namespace Progeny.Host.Lines

open Text (Bytes bytesOf)

/-! ### All lines -/

/-- How lines are printed. -/
structure Style where
  numbers : Bool
  /-- Only lines that hold something have numbers. -/
  skips : Bool
  squeezes : Bool
  ends : Bool
  tabs : Bool
  marks : Bool

/-- What stands for an octet that cannot be printed. -/
def Style.shown (style : Style) (b : UInt8) : Bytes :=
  if b = 9 then if style.tabs then [94, 73] else [9]
  else if ! style.marks || b = lineFeed then [b]
  else
    let low (b : UInt8) : Bytes :=
      if b < 32 then [94, b + 64] else if b = 127 then [94, 63] else [b]
    if b < 128 then low b else [77, 45] ++ low (b - 128)

/-- The state between two lines: the number of the last one, whether a line goes on, and whether the one
before it held nothing. -/
structure Position where
  number : Nat := 0
  inside : Bool := false
  blank : Bool := false

/-- What is printed of a line. -/
def Style.line (style : Style) (state : Position) (text : Bytes) : Bytes × Position :=
  let isBlank := text = [lineFeed] && ! state.inside
  if isBlank && state.blank && style.squeezes then ([], state)
  else
    let counts := style.numbers && ! state.inside && ! (style.skips && isBlank)
    let number := if counts then state.number + 1 else state.number
    let lead := if counts then bytesOf (aligned 6 number.repr ++ "\t") else []
    let body := (chomp text).flatMap style.shown
    let ended := text.getLast? = some lineFeed
    let tail := if ended then (if style.ends then [36, lineFeed] else [lineFeed]) else []
    (lead ++ body ++ tail, ⟨number, ! ended, isBlank⟩)

/-- What is printed of some lines. -/
def Style.lines (style : Style) (state : Position) (bytes : Bytes) : Bytes × Position :=
  let (printed, state) := (linesOf bytes).foldl (fun (printed, state) text =>
    let (output, state) := style.line state text
    (output :: printed, state)) ([], state)
  (printed.reverse.flatten, state)

/-- Prints what it reads. -/
def cat : Tool := fun call =>
  call.parsing "AbeEnstTuv" [("number-nonblank", 'b'), ("number", 'n'), ("squeeze-blank", 's'),
    ("show-nonprinting", 'v'), ("show-ends", 'E'), ("show-tabs", 'T'), ("show-all", 'A')] fun request =>
  let asks (cs : List Char) : Bool := cs.any request.asks
  let style : Style := {
    numbers := asks ['n', 'b'], skips := asks ['b'], squeezes := asks ['s'], ends := asks ['E', 'e', 'A']
    tabs := asks ['T', 't', 'A'], marks := asks ['v', 'e', 't', 'A'] }
  let names := request.operands
  let isOutput (name : String) : Option FileError := match call.find name with
    | .ok (_, .file number) =>
      if call.outputFile = some number && (call.files.bodies.lookup number).any (! ·.content.isEmpty) then
        some .isOutput
      else none
    | _ => none
  let reply :=
    if request.options.all (·.1 = 'u') then
      if names.all (· = "-") && ! call.ended then { call.wanting with printed := [(1, call.input)] }
      else call.eachSource names Call.named () (fun _ bytes => (bytes, ())) isOutput
    else call.eachSource names Call.named {} style.lines isOutput
  let closing := if call.inputError = some .badDescriptor && Call.takesInput names && ! reply.wants then
      [(2, call.complaint "closing standard input: Bad file descriptor")]
    else []
  { reply with
    printed := reply.printed ++ closing
    complains := fun reason => (if reason = FileError.badDescriptor.message then "standard output: " else "write error: ") ++ reason }

/-- Prints each line from its end to its beginning. -/
def rev : Tool := fun call =>
  call.parsing "0V" [("zero", '0')] fun request =>
  let reversed (bytes : Bytes) : Bytes := (linesOf bytes).flatMap fun text =>
    let body := chomp text
    Text.bytesOf (String.ofList (Text.Utf8.decode body).toList.reverse) ++ text.drop body.length
  if request.operands.isEmpty then
    call.eachSource [] Call.named () fun _ bytes => (reversed bytes, ())
  else
    let found := request.operands.map fun name => (name, call.read name)
    let complaints := found.flatMap fun (name, content) => match content with
      | .ok _ => []
      | .error e => call.complaint ("cannot open " ++ name ++ ": " ++ e.message)
    let outputs := found.flatMap fun (_, content) => match content with
      | .ok bytes => reversed bytes
      | .error _ => []
    call.telling complaints outputs (if complaints.isEmpty then 0 else 1)

/-- Cuts octets behind each place where others stand in them, which are not empty; `before` says that
they are cut before it. -/
def cutAt (sign : Bytes) (before : Bool) : (fuel : Nat) → (piece : Bytes) → Bytes → List Bytes
  | 0, piece, _ => [piece.reverse]
  | _, piece, [] => if piece.isEmpty then [] else [piece.reverse]
  | fuel + 1, piece, b :: rest =>
    if sign.isPrefixOf (b :: rest) then
      let left := (b :: rest).drop sign.length
      if before then piece.reverse :: cutAt sign before fuel sign.reverse left
      else (sign.reverse ++ piece).reverse :: cutAt sign before fuel [] left
    else cutAt sign before fuel (b :: piece) rest

/-- Prints the lines from the last to the first. -/
def tac : Tool := fun call =>
  call.parsing "brs:" [("before", 'b'), ("regex", 'r'), ("separator", 's')] fun request =>
  let sign := bytesOf ((request.value? 's').getD "\n")
  let turned (bytes : Bytes) : Bytes :=
    if sign.isEmpty then bytes
    else (cutAt sign (request.asks 'b') (bytes.length + 1) [] bytes).reverse.flatten
  let told (name : String) (e : FileError) : String :=
    if e = .isDirectory then name ++ ": read error: Invalid argument"
    else "failed to open '" ++ name ++ "' for reading: " ++ e.message
  if ! call.ended then call.wanting else call.eachSource request.operands told () fun _ bytes => (turned bytes, ())

/-! ### The first and the last -/

/-- The name of a source in a heading. -/
def heading (name : String) : String := if name = "-" then "standard input" else name

/-- A part that is asked for: how many lines or octets, and whether they are counted from the other
end. -/
structure Extent where
  lines : Bool
  count : Nat
  fromOther : Bool

/-- The first lines or octets; or all but the last. -/
def Extent.first (extent : Extent) (bytes : Bytes) : Bytes :=
  if extent.lines then
    let found := linesOf bytes
    let n := if extent.fromOther then found.length - extent.count else extent.count
    (found.take n).flatten
  else bytes.take (if extent.fromOther then bytes.length - extent.count else extent.count)

/-- The last lines or octets; or all from a place on. -/
def Extent.last (extent : Extent) (bytes : Bytes) : Bytes :=
  if extent.lines then
    let found := linesOf bytes
    (found.drop (if extent.fromOther then extent.count - 1 else found.length - extent.count)).flatten
  else bytes.drop (if extent.fromOther then extent.count - 1 else bytes.length - extent.count)

/-- Arguments whose first one may be an option as in `-5`, which asks for a count in its place. -/
def withCount (args : List String) : List String :=
  match args with
  | [] => []
  | text :: others => match text.toList with
    | '-' :: c :: rest =>
      (if c.isDigit then "-n" ++ String.ofList (c :: rest) else text) :: others
    | _ => args

/-- What a tool prints that prints a part of each source. -/
def parts (call : Call) (request : Request) (part : Bytes → Bytes) : Reply :=
  let names := request.operands
  let titled := request.last? ['q', 'v'] = some 'v' || (names.length > 1 && ! request.asks 'q')
  call.reading names fun found =>
    let (printed, _, failed) := found.foldl (fun (printed, first, failed) (name, content) =>
      let title := if titled then
          (if first then [] else [lineFeed]) ++ line ("==> " ++ heading name ++ " <==")
        else []
      match content with
      | .ok bytes => ((1, title ++ part bytes) :: printed, false, failed)
      | .error .isDirectory =>
        ((2, call.complaint ("error reading '" ++ heading name ++ "': " ++ FileError.message .isDirectory)) ::
          (1, title) :: printed, false, true)
      | .error .badDescriptor =>
        ((2, call.complaint ("error reading '" ++ heading name ++ "': Bad file descriptor") ++
          call.complaint (name ++ ": Bad file descriptor")) :: (1, title) :: printed, false, true)
      | .error e =>
        ((2, call.complaint ("cannot open '" ++ name ++ "' for reading: " ++ e.message)) :: printed, first, true))
      ([], true, false)
    { call.idle with printed := printed.reverse, status := if failed then 1 else 0 }

/-- The names of the options of tools that print a part. -/
def partNames : List (String × Char) :=
  [("bytes", 'c'), ("lines", 'n'), ("quiet", 'q'), ("silent", 'q'), ("verbose", 'v'), ("zero-terminated", 'z')]

/-- The extent that is asked for, or the text of an error. -/
def extent (request : Request) (sign : Char) : Except String Extent :=
  let letter := (request.last? ['c', 'n']).getD 'n'
  let lines := letter = 'n'
  let text := (request.value? letter).getD "10"
  let bare := match text.toList with
    | c :: rest => if c = '-' || c = '+' then String.ofList rest else text
    | [] => text
  match Numeral.sized? bare with
  | some n => .ok ⟨lines, n, text.toList.head? = some sign⟩
  | none => .error ("invalid number of " ++ (if lines then "lines" else "bytes") ++ ": " ++ quoted bare)

/-- Prints the first lines or octets. -/
def head : Tool := fun call =>
  let table := OptionTable.of "c:n:qvz" partNames
  let trailing := call.texts.head?.bind fun text => match text.toList with
    | '-' :: c :: rest =>
      if c.isDigit then (rest.dropWhile Char.isDigit).find? (! "bcklmqvz".toList.contains ·) else none
    | _ => none
  match trailing with
  | some c => call.misused 1 ("invalid trailing option -- " ++ c.toString)
  | none =>
  match table.readFrom none (withCount call.texts) with
  | .error e => call.misused 1 e
  | .ok request =>
    match extent request '-' with
    | .error e => call.failing 1 e
    | .ok extent =>
      let enough := ! extent.fromOther && (if extent.lines then call.input.count lineFeed ≥ extent.count
        else call.input.length ≥ extent.count)
      let call := if request.operands.length ≤ 1 && enough then { call with ended := true } else call
      let reply := parts call request extent.first
      if Call.takesInput request.operands && call.isFile && ! reply.wants then
        { reply with unread := call.input.drop (extent.first call.input).length }
      else reply

/-- The options of the tool that prints the last lines or octets. -/
def tailTable : OptionTable :=
  .of "c:fn:qvzs:Fà:áâ::" (partNames ++ [("sleep-interval", 's'), ("pid", 'à'), ("retry", 'á'), ("follow", 'â')])

/-- The count that an argument asks for that begins with its sign. -/
def countOf? (text : String) : Option String :=
  match text.toList with
  | sign :: c :: rest =>
    let digits := (c :: rest).takeWhile Char.isDigit
    let left := (c :: rest).drop digits.length
    if (sign = '+' || sign = '-') && ! digits.isEmpty then
      if left.isEmpty || left = ['l'] then some ("-n" ++ String.ofList (sign :: digits))
      else if left = ['c'] then some ("-c" ++ String.ofList (sign :: digits))
      else none
    else none
  | _ => none

/-- Arguments of which the first may be a count, if there is no more than one behind it. -/
def withLastCount (args : List String) : List String :=
  match args with
  | first :: rest => if rest.length ≤ 1 then (countOf? first).getD first :: rest else first :: rest
  | [] => []

/-- The request that some arguments are, if it asks for files to be followed. -/
def following? (args : List String) : Option Request :=
  match tailTable.readFrom none (withLastCount args) with
  | .error _ => none
  | .ok request =>
    let isWanted := request.asks 'f' || request.asks 'F' || request.asks 'â'
    if isWanted && (extent request '+').toOption.isSome then some request else none

/-- Prints the last lines or octets. -/
def tail : Tool := fun call =>
  let args := withLastCount call.texts
  let wrong := args.head?.bind fun text => match text.toList with
    | '-' :: c :: _ => if c.isDigit then some c else none
    | _ => none
  match wrong with
  | some c => call.failing 1 ("option used in invalid context -- " ++ c.toString)
  | none =>
  match tailTable.readFrom none args with
  | .error e => call.misused 1 e
  | .ok request =>
    match extent request '+' with
    | .error e => call.failing 1 e
    | .ok extent => parts call request extent.last

/-! ### Numbers -/

/-- The number of a line in a width. -/
def numberText (format : String) (width : Nat) (n : Int) : String :=
  let digits := n.natAbs.repr
  let sign := if n < 0 then "-" else ""
  let gap := width - (sign ++ digits).length
  if format = "ln" then sign ++ digits ++ String.ofList (List.replicate gap ' ')
  else if format = "rz" then sign ++ String.ofList (List.replicate gap '0') ++ digits
  else String.ofList (List.replicate gap ' ') ++ sign ++ digits

/-- Which lines have numbers. -/
inductive Numbering where
  | all
  | filled
  | none
  | matching (regex : Regex)

/-- What a text says of the lines that have numbers. -/
def numbering? (text : String) : Option Numbering :=
  match text.toList with
  | ['a'] => some .all
  | ['t'] => some .filled
  | ['n'] => some .none
  | 'p' :: rest => match Regex.read ⟨false, false⟩ (Symbol.ofBytes (bytesOf (String.ofList rest))) with
    | .ok written => some (.matching written.regex)
    | .error _ => Option.none
  | _ => Option.none

/-- A place among pages of lines: the next number, the part of the page and the empty lines before it. -/
structure Pagination where
  next : Int
  part : Char := 'b'
  blanks : Nat := 0

/-- Prints lines with their numbers. -/
def nl : Tool := fun call =>
  call.parsing "b:d:f:h:i:l:n:ps:v:w:" [("body-numbering", 'b'), ("section-delimiter", 'd'),
    ("footer-numbering", 'f'), ("header-numbering", 'h'), ("line-increment", 'i'), ("join-blank-lines", 'l'),
    ("number-format", 'n'), ("no-renumber", 'p'), ("number-separator", 's'),
    ("starting-line-number", 'v'), ("number-width", 'w')] fun request =>
  let kinds := [('b', "t", "body"), ('f', "n", "footer"), ('h', "n", "header")]
  let styles := kinds.map fun (c, usual, _) => (c, (numbering? ((request.value? c).getD usual)).getD .none)
  let wrongStyle := kinds.findSome? fun (c, usual, name) =>
    let text := (request.value? c).getD usual
    if (numbering? text).isNone then some ("invalid " ++ name ++ " numbering style: " ++ quoted text) else Option.none
  let wrongNumber := [('v', "starting line number"), ('i', "line number increment"),
      ('l', "line number of blank lines")].findSome? fun (c, name) =>
    match request.value? c with
    | some text => if (integer? text).isNone then some ("invalid " ++ name ++ ": " ++ quoted text) else Option.none
    | none => Option.none
  let format := (request.value? 'n').getD "rn"
  let separator := (request.value? 's').getD "\t"
  let widthText := (request.value? 'w').getD "6"
  let start := ((request.value? 'v').bind integer?).getD 1
  let step := ((request.value? 'i').bind integer?).getD 1
  let joined := ((request.value? 'l').bind natural?).getD 1
  let sign := match (request.value? 'd').getD "" |>.toList with
    | [] => "\\:"
    | [c] => String.ofList [c, ':']
    | cs => String.ofList cs
  let badExpression := kinds.any fun (c, _, _) => (request.value? c).any fun text =>
    text.startsWith "p" && (numbering? text).isNone
  match wrongStyle, wrongNumber with
  | some text, _ => if badExpression then call.failing 1 "Invalid regular expression" else call.misused 1 text
  | _, some text => call.failing 1 text
  | none, none =>
  if ! ["ln", "rn", "rz"].contains format then
    call.misused 1 ("invalid line numbering format: " ++ quoted format)
  else match (integer? widthText).map Int.toNat with
    | none => call.failing 1 ("invalid line number field width: " ++ quoted widthText)
    | some 0 =>
      call.failing 1 ("invalid line number field width: " ++ quoted widthText ++ ": Numerical result out of range")
    | some width =>
      let gap := bytesOf (String.ofList (List.replicate (width + separator.length) ' '))
      let part? (body : Bytes) : Option Char :=
        [(3, 'h'), (2, 'b'), (1, 'f')].findSome? fun (count, part) =>
          if body = bytesOf (String.join (List.replicate count sign)) then some part else Option.none
      let one (s : Pagination) (body : Bytes) : Bytes × Pagination :=
        match part? body with
        | some part =>
          ([lineFeed], { next := if request.asks 'p' then s.next else start, part := part, blanks := 0 })
        | none =>
          let waits := joined > 1 && body.isEmpty && s.blanks + 1 < joined
          let counts := match (styles.lookup s.part).getD .none with
            | .all => ! waits
            | .filled => ! body.isEmpty
            | .none => false
            | .matching regex => (regex.find? {} (Symbol.ofBytes body)).isSome
          let lead := if counts then bytesOf (numberText format width s.next ++ separator) else gap
          (lead ++ body ++ [lineFeed],
            { s with next := if counts then s.next + step else s.next, blanks := if waits then s.blanks + 1 else 0 })
      let number (s : Pagination) (bytes : Bytes) : Bytes × Pagination :=
        let (printed, s) := (linesOf bytes).foldl (fun (printed, s) text =>
          let (output, s) := one s (chomp text)
          (output :: printed, s)) ([], s)
        (printed.reverse.flatten, s)
      call.eachSource request.operands Call.named { next := start } number

/-! ### Widths -/

/-- The column behind an octet. -/
def columnBehind (octets : Bool) (column : Nat) (b : UInt8) : Nat :=
  if octets then column + 1
  else if b = 9 then column + 8 - column % 8
  else if b = 8 then column - 1
  else if b = 13 then 0
  else column + 1

/-- Cuts a line to a width, behind a blank if that is asked for. -/
def folded (width : Nat) (octets spaces : Bool) : (fuel : Nat) → (piece : Bytes) → (column : Nat) →
    Bytes → Bytes
  | 0, piece, _, _ => piece.reverse
  | _, piece, _, [] => piece.reverse
  | fuel + 1, piece, column, b :: rest =>
    let behind := columnBehind octets column b
    if behind ≤ width || piece.isEmpty then folded width octets spaces fuel (b :: piece) behind rest
    else
      let back := if spaces then piece.takeWhile fun c => c != 32 && c != 9 else []
      if spaces && back.length < piece.length then
        let kept := piece.drop back.length
        kept.reverse ++ [lineFeed] ++ folded width octets spaces fuel [] 0 (back.reverse ++ b :: rest)
      else piece.reverse ++ [lineFeed] ++ folded width octets spaces fuel [] 0 (b :: rest)

/-- Options as in `-5`, which ask for a width in their place. -/
def withWidths (letter : Char) (args : List String) : List String := args.map fun text =>
  match text.toList with
  | '-' :: c :: rest => if c.isDigit then String.ofList ('-' :: letter :: c :: rest) else text
  | _ => text

/-- Cuts lines to a width. -/
def fold : Tool := fun call =>
  let table := OptionTable.of "bsw:" [("bytes", 'b'), ("spaces", 's'), ("width", 'w')]
  match table.readFrom none (withWidths 'w' call.texts) with
  | .error e => call.misused 1 e
  | .ok request =>
    let text := (request.value? 'w').getD "80"
    match natural? text with
    | none => call.failing 1 ("invalid number of columns: " ++ quoted text)
    | some 0 => call.failing 1 ("invalid number of columns: " ++ quoted text ++ ": Numerical result out of range")
    | some width =>
      let cut (bytes : Bytes) : Bytes := (linesOf bytes).flatMap fun text =>
        let body := chomp text
        folded width (request.asks 'b') (request.asks 's') (2 * (body.length + 1) * (body.length + 1)) [] 0 body ++
          text.drop body.length
      call.eachSource request.operands Call.named () fun _ bytes => (cut bytes, ())

/-- The stops of tabulators: one width for all, or columns. -/
def stopsOf? (text : String) : Option (List Nat) :=
  ((text.splitOn ",").flatMap (·.splitOn " ")).mapM natural?

/-- The column of the next stop. -/
def nextStop (stops : List Nat) (column : Nat) : Nat :=
  match stops with
  | [n] => if n = 0 then column + 1 else column + n - column % n
  | _ => (stops.find? (column < ·)).getD (column + 1)

/-- Puts blanks in the places of tabulators. -/
def expanded (stops : List Nat) (initial : Bool) (text : Bytes) : Bytes :=
  let (printed, _, _) := text.foldl (fun (printed, column, leading) (b : UInt8) =>
    if b = 9 && (leading || ! initial) then
      let stop := nextStop stops column
      (List.replicate (stop - column) 32 ++ printed, stop, leading)
    else (b :: printed, if b = 8 then column - 1 else column + 1, leading && (b == 32 || b == 9)))
    (([] : Bytes), 0, true)
  printed.reverse

/-- Puts blanks in the places of tabulators. -/
def expand : Tool := fun call =>
  let table := OptionTable.of "it:" [("initial", 'i'), ("tabs", 't')]
  match table.readFrom none (withWidths 't' call.texts) with
  | .error e => call.misused 1 e
  | .ok request =>
    let text := (request.value? 't').getD "8"
    match stopsOf? text with
    | none => call.failing 1 ("tab size contains invalid character(s): " ++ quoted text)
    | some stops =>
      call.eachSource request.operands Call.named () fun _ bytes =>
        ((linesOf bytes).flatMap fun text =>
          expanded stops (request.asks 'i') (chomp text) ++ text.drop (chomp text).length, ())

/-- Puts tabulators in the places of blanks: of those that begin a line, or of all in a row of at least
two. -/
def unexpanded (stops : List Nat) (all : Bool) : (fuel : Nat) → (column : Nat) → (leading : Bool) → Bytes → Bytes
  | 0, _, _, bytes => bytes
  | _, _, _, [] => []
  | fuel + 1, column, leading, b :: rest =>
    if (b = 32 || b = 9) && (leading || all) then
      let row := (b :: rest).takeWhile fun c => c == 32 || c == 9
      let left := (b :: rest).drop row.length
      let final := row.foldl (fun column (c : UInt8) => if c = 9 then nextStop stops column else column + 1) column
      let single := row = [32]
      (if single && nextStop stops column = final && ! leading then row
        else filled final (row.length + final + 1) column) ++
        unexpanded stops all fuel final leading left
    else b :: unexpanded stops all fuel (column + 1) false rest
where
  filled (final : Nat) : Nat → Nat → Bytes
    | 0, _ => []
    | fuel + 1, column =>
      let stop := nextStop stops column
      if stop ≤ final then 9 :: filled final fuel stop else List.replicate (final - column) 32

/-- Puts tabulators in the places of blanks. -/
def unexpand : Tool := fun call =>
  call.parsing "at:f" [("all", 'a'), ("tabs", 't'), ("first-only", 'f')] fun request =>
  let text := (request.value? 't').getD "8"
  match stopsOf? text with
  | none => call.failing 1 ("tab size contains invalid character(s): " ++ quoted text)
  | some stops =>
    let all := (request.asks 'a' || request.asks 't') && ! request.asks 'f'
    call.eachSource request.operands Call.named () fun _ bytes =>
      ((linesOf bytes).flatMap fun text =>
        unexpanded stops all (text.length + 1) 0 true (chomp text) ++ text.drop (chomp text).length, ())

/-! ### Pieces -/

/-- The name of a piece by its number, in letters or in digits. -/
def pieceName (digits : Bool) (length n : Nat) : String :=
  let base := if digits then 10 else 26
  let first := if digits then '0'.toNat else 'a'.toNat
  String.ofList ((List.range length).reverse.map fun i => Char.ofNat (first + n / Nat.pow base i % base))

/-- Cuts a list into pieces of a length. -/
def chunks {α : Type} (size : Nat) : (fuel : Nat) → List α → List (List α)
  | 0, _ | _, [] => []
  | fuel + 1, xs => xs.take size :: chunks size fuel (xs.drop size)

/-- Writes pieces of what it reads into files. -/
def split : Tool := fun call =>
  call.parsing "a:b:C:de:l:n:x" [("suffix-length", 'a'), ("bytes", 'b'), ("line-bytes", 'C'),
    ("numeric-suffixes", 'd'), ("lines", 'l'), ("number", 'n')] fun request =>
  let counted (c : Char) (what initial : String) : Except String (Option Nat) :=
    match request.value? c with
    | none => .ok ((natural? initial))
    | some text => match Numeral.sized? text with
      | some 0 | none => .error ("invalid number of " ++ what ++ ": " ++ quoted text)
      | some n => .ok (some n)
  let found : Except String (Bytes → List Bytes) := do
    let lines ← counted 'l' "lines" "1000"
    let octets ← counted 'b' "bytes" ""
    let number ← counted 'n' "chunks" ""
    return fun bytes =>
      match octets, number with
      | some n, _ => chunks n (bytes.length + 1) bytes
      | _, some n =>
        let size := bytes.length / n
        (List.range n).map fun i =>
          (bytes.drop (i * size)).take (if i + 1 = n then bytes.length else size)
      | none, none => (chunks (lines.getD 1000) (bytes.length + 1) (linesOf bytes)).map List.flatten
  match found with
  | .error e => call.failing 1 e
  | .ok pieces =>
    let name := request.operands.headD "-"
    let stem := (request.operands.drop 1).headD "x"
    let length := ((request.value? 'a').bind natural?).getD 2
    match call.readOrInput name with
    | .error e => call.failing 1 ("cannot open '" ++ name ++ "' for reading: " ++ e.message)
    | .ok bytes =>
      let files := (pieces bytes).zipIdx.foldl (fun files (piece, i) =>
        let target := stem ++ pieceName (request.asks 'd') length i
        (files.write call.directory target (0o666 - (0o666 &&& call.umask)) piece).toOption.getD files) call.files
      if Call.takesInput [name] then call.whenEnded { call.idle with files := files, unread := [] }
      else { call.idle with files := files }

end Progeny.Host.Lines

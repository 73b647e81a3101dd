import Progeny.Host.Options
import Progeny.Sequence.Total

/-!
# Fields

Tools that take lines apart at delimiters, put them side by side, or compare each line with the one
before it or with those of another file.
-/

namespace Progeny.Host.Fields

open Text (Bytes bytesOf)

/-! ### Counts -/

/-- The number of words. -/
def wordsIn (bytes : Bytes) : Nat :=
  (bytes.foldl (fun (found : Nat × Bool) (b : UInt8) =>
    if b == 32 || (9 ≤ b && b ≤ 13) then (found.1, false)
    else (if found.2 then found.1 else found.1 + 1, true)) (0, false)).1

/-- The number of columns that a character takes. -/
def columnsOf (c : Char) : Nat :=
  let n := c.toNat
  if n < 32 || n = 127 then 0
  else if (0x1100 ≤ n && n ≤ 0x115f) || (0x2e80 ≤ n && n ≤ 0xa4cf) || (0xac00 ≤ n && n ≤ 0xd7a3) ||
      (0xf900 ≤ n && n ≤ 0xfaff) || (0xfe30 ≤ n && n ≤ 0xfe6f) || (0xff00 ≤ n && n ≤ 0xff60) ||
      (0x1f300 ≤ n && n ≤ 0x1faff) then 2
  else if 0x300 ≤ n && n ≤ 0x36f then 0
  else 1

/-- The number of columns of the longest line. -/
def longest (text : String) : Nat :=
  let (most, last) := text.toList.foldl (fun (most, column) c =>
    if c = '\n' || c = '\r' || c = '\x0c' then (max most column, 0)
    else if c = '\t' then (most, column + 8 - column % 8)
    else (most, column + columnsOf c)) (0, 0)
  max most last

/-- The number of characters. -/
def charactersIn (bytes : Bytes) : Nat :=
  ((Text.Utf8.decode bytes).toList.filter (· ≠ Text.Utf8.replacement)).length

/-- The counts that are asked for by letters; the longest line counts once for all files. -/
structure Counts where
  letters : List Char
  values : List Nat

/-- The counts of some octets. -/
def countsOf (letters : List Char) (bytes : Bytes) : List Nat := letters.map fun c =>
  match c with
  | 'l' => bytes.count lineFeed
  | 'w' => wordsIn bytes
  | 'm' => charactersIn bytes
  | 'c' => bytes.length
  | _ => longest (Text.Utf8.decode bytes)

/-- The width that counts are written in. -/
def countWidth (call : Call) (letters : List Char) (names : List String) : Nat :=
  if names.length ≤ 1 && letters.length = 1 then 1
  else
    let sizes := (if names.isEmpty then ["-"] else names).map fun name =>
      if name = "-" then
        if call.inputError = some .isDirectory then (0, false) else (call.input.length, call.isFile)
      else match call.find name with
        | .ok (_, .file number) => (((call.files.bodies.lookup number).map (·.content.length)).getD 0, true)
        | .ok _ => (0, false)
        | .error _ => (0, true)
    let total := Sequence.total (·.1) (sizes.filter (·.2))
    max total.repr.length (if sizes.any (! ·.2) then 7 else 1)

/-- Counts lines, words and octets. -/
def wc : Tool := fun call =>
  call.parsing "clLmwt:" [("bytes", 'c'), ("chars", 'm'), ("lines", 'l'), ("words", 'w'),
    ("max-line-length", 'L'), ("total", 't')] fun request =>
  let wanted := ['l', 'w', 'm', 'c', 'L'].filter request.asks
  let letters := if wanted.isEmpty then ['l', 'w', 'c'] else wanted
  let names := request.operands
  let totals := (request.value? 't').getD "auto"
  call.reading names fun found =>
    let width := if totals = "only" then 1 else countWidth call letters names
    let row (counts : List Nat) (name : String) : Bytes :=
      line (" ".intercalate (counts.map fun n => aligned width n.repr) ++ if name.isEmpty then "" else " " ++ name)
    let add (a b : List Nat) : List Nat :=
      (letters.zip (a.zip b)).map fun (c, m, n) => if c = 'L' then max m n else m + n
    let shown (name : String) : String := if names.isEmpty then "" else name
    let (printed, total, failed) := found.foldl (fun (printed, total, failed) (name, content) =>
      match content with
      | .ok bytes =>
        let counts := countsOf letters bytes
        (if totals = "only" then printed else (1, row counts (shown name)) :: printed, add total counts, failed)
      | .error .isDirectory =>
        ((1, row (letters.map fun _ => 0) (shown name)) ::
          (2, call.complaint (Call.named name .isDirectory)) :: printed, total, true)
      | .error e =>
        let before := if e = .badDescriptor then call.complaint ("'standard input': " ++ e.message) else []
        ((2, before ++ call.complaint (Call.named name e)) :: printed, total, true))
      ([], letters.map fun _ => 0, false)
    let sums := if totals = "only" || totals = "always" || (totals = "auto" && names.length > 1) then
        [(1, row total (if totals = "only" then "" else "total"))]
      else []
    { call.idle with printed := printed.reverse ++ sums, status := if failed then 1 else 0 }

/-! ### Parts of lines -/

/-- Ranges of positions, the first of which is one; the last has no end if it is missing. -/
abbrev Ranges := List (Nat × Option Nat)

/-- Whether a position is in a range. -/
def inRanges (ranges : Ranges) (i : Nat) : Bool := ranges.any fun (low, high) => low ≤ i && high.all (i ≤ ·)

/-- The state while ranges are read: the ranges, the first number of the one that is read and whether it
was written, whether a dash was read, and the number that is read. -/
structure RangeState where
  done : Ranges := []
  low : Option Nat := none
  dash : Bool := false
  value : Option Nat := none

/-- Reads ranges as in `1,3-5,7-`. -/
def ranges? (fields : Bool) (text : String) : Except String Ranges :=
  go text.toList {}
where
  fromOne : String :=
    if fields then "fields are numbered from 1" else "byte/character positions are numbered from 1"
  close (s : RangeState) : Except String RangeState :=
    if s.dash then
      match s.low, s.value with
      | none, none => .error "invalid range with no endpoint: -"
      | low, none => .ok { done := s.done ++ [(low.getD 1, none)] }
      | low, some high =>
        if high < low.getD 1 then .error "invalid decreasing range"
        else .ok { done := s.done ++ [(low.getD 1, some high)] }
    else match s.value with
      | none | some 0 => .error fromOne
      | some n => .ok { done := s.done ++ [(n, some n)] }
  go : List Char → RangeState → Except String Ranges
    | [], s => (close s).map (·.done)
    | c :: rest, s =>
      if c = '-' then
        if s.dash then .error (if fields then "invalid field range" else "invalid byte or character range")
        else if s.value = some 0 then .error fromOne
        else go rest { s with dash := true, low := s.value, value := none }
      else if c = ',' || c = ' ' || c = '\t' then
        match close s with
        | .ok s => go rest s
        | .error e => .error e
      else if c.isDigit then
        go rest { s with value := some (s.value.getD 0 * 10 + (c.toNat - '0'.toNat)) }
      else .error ((if fields then "invalid field value " else "invalid byte/character position ") ++
        quoted (String.ofList (c :: rest)))

/-- Ranges in order, those that have positions in common being joined. -/
def joined (ranges : Ranges) : Ranges :=
  (ranges.mergeSort fun a b => decide (a.1 ≤ b.1)).foldr (fun (low, high) later =>
    match later with
    | (next, end') :: rest =>
      if high.all (next ≤ ·) then
        (low, match high, end' with
          | some a, some b => some (max a b)
          | _, _ => none) :: rest
      else (low, high) :: later
    | [] => [(low, high)]) []

/-- The octets of a line at the positions in some ranges, with a delimiter between two ranges. -/
def octetsAt (chosen : Nat → Bool) (starts : List Nat) (delimiter : Bytes) (body : Bytes) : Bytes :=
  (((body.zipIdx 1).filter fun (_, i) => chosen i).foldl (fun (printed, some') (b, i) =>
    (b :: (if some' && starts.contains i then delimiter.reverse else []) ++ printed, true))
    (([] : Bytes), false)).1.reverse

/-- Prints parts of each line. -/
def cut : Tool := fun call =>
  call.parsing "b:c:d:f:nszCO:" [("bytes", 'b'), ("characters", 'c'), ("fields", 'f'), ("delimiter", 'd'),
    ("only-delimited", 's'), ("complement", 'C'), ("output-delimiter", 'O'), ("zero-terminated", 'z')]
    fun request =>
  let lists := request.options.filter fun (c, _) => ['b', 'c', 'f'].contains c
  let delimiter := (request.value? 'd').map bytesOf
  match lists with
  | [] =>
    if delimiter.any (·.length > 1) then call.misused 1 "the delimiter must be a single character"
    else call.misused 1 "you must specify a list of bytes, characters, or fields"
  | _ :: _ :: _ => call.misused 1 "only one list may be specified"
  | [(letter, text)] =>
    let fields := letter = 'f'
    if delimiter.any (·.length > 1) then call.misused 1 "the delimiter must be a single character"
    else if ! fields && delimiter.isSome then
      call.misused 1 "an input delimiter may be specified only when operating on fields"
    else if ! fields && request.asks 's' then
      call.misused 1 "suppressing non-delimited lines makes sense\n\tonly when operating on fields"
    else match ranges? fields text with
      | .error e => call.misused 1 e
      | .ok ranges =>
        let ranges := joined ranges
        let chosen (i : Nat) : Bool := inRanges ranges i != request.asks 'C'
        let d : UInt8 := match delimiter with
          | some (b :: _) => b
          | some [] => 0
          | none => 9
        let outer := (request.value? 'O').map bytesOf
        let cutLine (text : Bytes) : Bytes :=
          let body := chomp text
          if fields then
            let pieces := splitBytes (· == d) body
            if pieces.length ≤ 1 then if request.asks 's' then [] else body ++ [lineFeed]
            else
              let kept := ((pieces.zipIdx 1).filter fun (_, i) => chosen i).map (·.1)
              (outer.getD [d]).intercalate kept ++ [lineFeed]
          else
            let starts := if request.asks 'C' then
                (List.range (body.length + 2)).filter fun i => chosen i && ! chosen (i - 1)
              else ranges.map (·.1)
            octetsAt chosen starts (outer.getD []) body ++ [lineFeed]
        call.eachSource request.operands Call.named () fun _ bytes =>
          ((linesOf bytes).flatMap cutLine, ())

/-! ### Side by side -/

/-- The delimiters in a text with escapes; an empty one stands for none. -/
def delimiters? : List UInt8 → Option (List Bytes)
  | [] => some []
  | 92 :: [] => none
  | 92 :: b :: rest =>
    let one : Bytes := match [(48, []), (98, [8]), (102, [12]), (110, [10]), (114, [13]), (116, [9]),
        (118, [11])].lookup b with
      | some found => found
      | none => [b]
    (delimiters? rest).map (one :: ·)
  | b :: rest => (delimiters? rest).map ([b] :: ·)

/-- The pieces of a row with delimiters between them, which are used in turn. -/
def delimited (ds : List Bytes) (pieces : List Bytes) : Bytes :=
  (pieces.zipIdx.map fun (piece, i) =>
    piece ++ if i + 1 = pieces.length then [] else ds.getD (i % max ds.length 1) []).flatten

/-- Takes one line of each source in turn; the input may be a source several times. -/
def rowsOf : (fuel : Nat) → (input : List Bytes) → List (Option (List Bytes)) → List (List Bytes)
  | 0, _, _ => []
  | fuel + 1, input, sources =>
    let (taken, left, input) := sources.foldl (fun (taken, left, input) source =>
      match source with
      | none => match input with
        | first :: rest => (some first :: taken, none :: left, rest)
        | [] => (none :: taken, none :: left, [])
      | some (first :: rest) => (some first :: taken, some rest :: left, input)
      | some [] => (none :: taken, some [] :: left, input)) (([] : List (Option Bytes)), [], input)
    if taken.all Option.isNone then []
    else taken.reverse.map (·.getD []) :: rowsOf fuel input left.reverse

/-- Prints lines of several files side by side, or all lines of each file in a row. -/
def paste : Tool := fun call =>
  call.parsing "d:sz" [("delimiters", 'd'), ("serial", 's'), ("zero-terminated", 'z')] fun request =>
  let text := (request.value? 'd').getD "\t"
  match delimiters? (bytesOf text) with
  | none => call.failing 1 ("delimiter list ends with an unescaped backslash: " ++ text)
  | some ds =>
    let ds := if ds.isEmpty then [[]] else ds
    let names := if request.operands.isEmpty then ["-"] else request.operands
    let body (bytes : Bytes) : List Bytes := (linesOf bytes).map chomp
    let ending : Bytes := if request.asks 'z' then [0] else [lineFeed]
    if request.asks 's' then
      call.eachSource names Call.named () fun _ bytes => (delimited ds (body bytes) ++ ending, ())
    else call.reading names fun found =>
      let failure := found.findSome? fun (name, content) => match content with
        | .error .isDirectory => none
        | .error e => some (Call.named name e)
        | .ok _ => none
      match failure with
      | some e => call.failing 1 e
      | none =>
        let sources := found.map fun (name, content) =>
          if name = "-" then none
          else match content with
            | .ok bytes => some (body bytes)
            | .error _ => some []
        let complaints := found.flatMap fun (name, content) => match content with
          | .error e => call.complaint (Call.named name e)
          | .ok _ => []
        let rows := rowsOf (call.input.length + Sequence.total (fun s => (s.getD []).length) sources + 1)
          (body call.input) sources
        call.telling complaints (rows.flatMap fun row => delimited ds row ++ ending)
          (if complaints.isEmpty then 0 else 1)

/-! ### Rows of equal lines -/

/-- An octet in lower case. -/
def lowered (b : UInt8) : UInt8 := if 65 ≤ b && b ≤ 90 then b + 32 else b

/-- A line without the fields at its beginning, which have blanks before them. -/
def withoutFields : Nat → Bytes → Bytes
  | 0, text => text
  | n + 1, text =>
    let isBlank (b : UInt8) : Bool := b == 32 || b == 9
    withoutFields n ((text.dropWhile isBlank).dropWhile (! isBlank ·))

/-- Prints each of several equal lines in a row once, only those that are repeated or not, or all of
them. -/
def uniq : Tool := fun call =>
  let table := OptionTable.of "cdDuf:is:w:zg::" [("count", 'c'), ("repeated", 'd'), ("all-repeated", 'D'),
    ("unique", 'u'), ("skip-fields", 'f'), ("ignore-case", 'i'), ("skip-chars", 's'), ("check-chars", 'w'),
    ("zero-terminated", 'z'), ("group", 'g')]
  call.withOptions table 1 fun request =>
  let number (c : Char) (what : String) : Except String (Option Nat) :=
    match request.value? c with
    | none => .ok none
    | some text => match natural? text with
      | some n => .ok (some n)
      | none => .error (text ++ ": invalid number of " ++ what)
  let numbers := do
    let fields ← number 'f' "fields to skip"
    let skipped ← number 's' "bytes to skip"
    let checked ← number 'w' "bytes to compare"
    return (fields.getD 0, skipped.getD 0, checked)
  match numbers, request.operands.drop 2 with
  | .error e, _ => call.failing 1 e
  | _, extra :: _ => call.misused 1 ("extra operand " ++ quoted extra)
  | .ok (fields, skipped, checked), [] =>
    if request.asks 'c' && request.asks 'D' then
      call.misused 1 "printing all duplicated lines and repeat counts is meaningless"
    else
      let name := request.operands.headD "-"
      match call.readOrInput name with
      | .error .isDirectory => call.failing 1 ("error reading '" ++ name ++ "': Is a directory")
      | .error e => call.failing 1 (Call.named name e)
      | .ok bytes =>
        let key (text : Bytes) : Bytes :=
          let rest := (withoutFields fields text).drop skipped
          let rest := match checked with
            | some n => rest.take n
            | none => rest
          if request.asks 'i' then rest.map lowered else rest
        let groups := ((linesOf bytes).map chomp).splitBy fun a b => key a == key b
        let once := request.asks 'u'
        let repeated := request.asks 'd'
        let shown (group : List Bytes) : Bytes :=
          let many := group.length > 1
          if request.asks 'D' then if many && ! once then unlines group else []
          else if (once && many) || (repeated && ! many) then []
          else (if request.asks 'c' then bytesOf (aligned 7 group.length.repr ++ " ") else []) ++
            group.headD [] ++ [lineFeed]
        let output := if request.asks 'g' then [lineFeed].intercalate (groups.map unlines)
          else groups.flatMap shown
        let reply := { call.printing output with unread := if name = "-" then [] else call.input }
        if name = "-" && ! call.ended then call.wanting
        else match request.operands.drop 1 with
          | [] | ["-"] => reply
          | target :: _ =>
            match call.files.write call.directory target (0o666 - (0o666 &&& call.umask)) output with
            | .ok files => { reply with printed := [], files := files }
            | .error e => call.failing 1 (Call.named target e)

/-! ### Two files -/

/-- The operands of a tool that compares two files. -/
def twoOperands (call : Call) (operands : List String) (go : String → String → Reply) : Reply :=
  match operands with
  | [] => call.misused 1 "missing operand"
  | [name] => call.misused 1 ("missing operand after " ++ quoted name)
  | [left, right] => go left right
  | _ :: _ :: extra :: _ => call.misused 1 ("extra operand " ++ quoted extra)

/-- How two lists of lines are merged: what is printed, how many lines are in the first, the second and
both, and what is told of lists that are not sorted. -/
structure Merged where
  printed : List (Nat × Bytes) := []
  counts : Nat × Nat × Nat := (0, 0, 0)
  unpaired : Bool := false
  told : List Nat := []

/-- Merges two sorted lists of lines. -/
def merge (call : Call) (checks : Option Bool) (show' : Nat → Bytes → Bytes) : (fuel : Nat) → List Bytes →
    List Bytes → Merged → Merged
  | 0, _, _, m => m
  | fuel + 1, left, right, m =>
    let check (file : Nat) (xs : List Bytes) (m : Merged) : Merged :=
      match xs with
      | a :: b :: _ =>
        let isChecked := checks = some true || (checks.isNone && m.unpaired)
        if isChecked && ! m.told.contains file && ! noLater a b then
          { m with
            told := file :: m.told
            printed := (2, call.complaint ("file " ++ file.repr ++ " is not in sorted order")) :: m.printed }
        else m
      | _ => m
    match left, right with
    | [], [] => m
    | a :: left', [] =>
      let m := { m with printed := (1, show' 1 a) :: m.printed, counts := (m.counts.1 + 1, m.counts.2), unpaired := true }
      merge call checks show' fuel left' [] (check 1 left m)
    | [], b :: right' =>
      let m := { m with
        printed := (1, show' 2 b) :: m.printed, counts := (m.counts.1, m.counts.2.1 + 1, m.counts.2.2), unpaired := true }
      merge call checks show' fuel [] right' (check 2 right m)
    | a :: left', b :: right' =>
      if a = b then
        let m := { m with
          printed := (1, show' 3 a) :: m.printed, counts := (m.counts.1, m.counts.2.1, m.counts.2.2 + 1) }
        merge call checks show' fuel left' right' (check 2 right (check 1 left m))
      else if noLater a b then
        let m := { m with
          printed := (1, show' 1 a) :: m.printed, counts := (m.counts.1 + 1, m.counts.2), unpaired := true }
        merge call checks show' fuel left' right (check 1 left m)
      else
        let m := { m with
          printed := (1, show' 2 b) :: m.printed, counts := (m.counts.1, m.counts.2.1 + 1, m.counts.2.2)
          unpaired := true }
        merge call checks show' fuel left right' (check 2 right m)

/-- Prints which lines two sorted files have in common and which not. -/
def comm : Tool := fun call =>
  call.parsing "123zt:ckn" [("output-delimiter", 't'), ("total", 'c'), ("check-order", 'k'),
    ("nocheck-order", 'n'), ("zero-terminated", 'z')] fun request =>
  twoOperands call request.operands fun left right =>
    call.reading [left, right] fun found =>
      match found with
      | [(_, .ok a), (_, .ok b)] =>
        let d := bytesOf ((request.value? 't').getD "\t")
        let show' (column : Nat) (text : Bytes) : Bytes :=
          if request.asks (Char.ofNat ('0'.toNat + column)) then []
          else
            let before := (if column = 1 || request.asks '1' then [] else d) ++
              (if column ≤ 2 || request.asks '2' then [] else d)
            before ++ text ++ [lineFeed]
        let lines (bytes : Bytes) : List Bytes := (linesOf bytes).map chomp
        let checks := if request.asks 'k' then some true else if request.asks 'n' then some false else none
        let m := merge call checks show' (a.length + b.length + 2) (lines a) (lines b) {}
        let total := if request.asks 'c' then
            d.intercalate [bytesOf m.counts.1.repr, bytesOf m.counts.2.1.repr, bytesOf m.counts.2.2.repr,
              bytesOf "total"] ++ [lineFeed]
          else []
        let final := if m.told.isEmpty then [] else [(2, call.complaint "input is not in sorted order")]
        { call.idle with
          printed := m.printed.reverse ++ [(1, total)] ++ final
          status := if m.told.isEmpty then 0 else 1 }
      | _ =>
        match found.findSome? fun (name, content) => match content with
          | .error e => some (Call.named name e)
          | .ok _ => none with
        | some e => call.failing 1 e
        | none => call.idle

/-- How lines are joined. -/
structure Joining where
  delimiter : Option UInt8
  left : Nat
  right : Nat
  anyCase : Bool
  /-- The fields that are printed: the file and the number, zero standing for the common field. -/
  format : List (Nat × Nat)
  empty : Bytes

/-- The fields of a line. -/
def Joining.fields (j : Joining) (text : Bytes) : List Bytes :=
  match j.delimiter with
  | some d => splitBytes (· == d) text
  | none => (splitBytes (fun b => b == 32 || b == 9) text).filter (! ·.isEmpty)

/-- A joined line; a missing side has no fields. -/
def Joining.row (j : Joining) (key : Bytes) (a b : List Bytes) : Bytes :=
  let others (at' : Nat) (fields : List Bytes) : List Bytes :=
    ((fields.zipIdx 1).filter fun (_, i) => i ≠ at').map (·.1)
  let filled (text : Bytes) : Bytes := if text.isEmpty then j.empty else text
  let pieces := if j.format.isEmpty then key :: (others j.left a ++ others j.right b)
    else j.format.map fun (file, n) =>
      if file = 0 then key else filled ((if file = 1 then a else b).getD (n - 1) [])
  [j.delimiter.getD 32].intercalate pieces ++ [lineFeed]

/-- Joins two lists of lines that are sorted by their keys; the lines without a partner are printed for
the files in `alone`, and those with one if `paired`. -/
def Joining.run (j : Joining) (alone : List Nat) (paired : Bool) : (fuel : Nat) →
    List (Bytes × List Bytes) → List (Bytes × List Bytes) → List Bytes
  | 0, _, _ => []
  | _, [], right => if alone.contains 2 then right.map fun (k, b) => j.row k [] b else []
  | _, left, [] => if alone.contains 1 then left.map fun (k, a) => j.row k a [] else []
  | fuel + 1, (k, a) :: left, (l, b) :: right =>
    if k = l then
      let as := ((k, a) :: left).takeWhile (·.1 = k)
      let bs := ((l, b) :: right).takeWhile (·.1 = k)
      (if paired then as.flatMap fun (_, a) => bs.map fun (_, b) => j.row k a b else []) ++
        run j alone paired fuel (((k, a) :: left).drop as.length) (((l, b) :: right).drop bs.length)
    else if noLater k l then
      (if alone.contains 1 then [j.row k a []] else []) ++ run j alone paired fuel left ((l, b) :: right)
    else (if alone.contains 2 then [j.row l [] b] else []) ++ run j alone paired fuel ((k, a) :: left) right

/-- Joins lines of two files that have a field in common. -/
def join : Tool := fun call =>
  call.parsing "a:e:ij:o:t:v:1:2:z" [("ignore-case", 'i'), ("zero-terminated", 'z')] fun request =>
  let number (c : Char) : Except String (Option Nat) := match request.value? c with
    | none => .ok none
    | some text => match natural? text with
      | some 0 | none => .error ("invalid field number: " ++ quoted text)
      | some n => .ok (some n)
  let found : Except String Joining := do
    let both ← number 'j'
    let left ← number '1'
    let right ← number '2'
    let format := ((request.value? 'o').getD "").toList.map fun c => if c = ',' then ' ' else c
    let format := ((String.ofList format).splitOn " ").filterMap fun text => match text.splitOn "." with
      | [file, n] => (natural? file).bind fun f => (natural? n).map (f, ·)
      | [_] => if text = "0" then some (0, 0) else none
      | _ => none
    return ⟨(request.value? 't').bind fun t => (bytesOf t).head?, (left.or both).getD 1,
      (right.or both).getD 1, request.asks 'i', format, bytesOf ((request.value? 'e').getD "")⟩
  match found with
  | .error e => call.failing 1 e
  | .ok j =>
    let alone := (request.values 'a' ++ request.values 'v').filterMap natural?
    twoOperands call request.operands fun left right =>
      call.reading [left, right] fun found =>
        match found with
        | [(_, .ok a), (_, .ok b)] =>
          let keyed (at' : Nat) (bytes : Bytes) : List (Bytes × List Bytes) :=
            ((linesOf bytes).map chomp).map fun text =>
              let fields := j.fields text
              let key := fields.getD (at' - 1) []
              (if j.anyCase then key.map lowered else key, fields)
          call.printing (j.run alone (request.values 'v').isEmpty (a.length + b.length + 2) (keyed j.left a)
            (keyed j.right b)).flatten
        | _ =>
          match found.findSome? fun (name, content) => match content with
            | .error e => some (Call.named name e)
            | .ok _ => none with
          | some e => call.failing 1 e
          | none => call.idle

end Progeny.Host.Fields

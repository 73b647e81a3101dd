import Progeny.Host.Inspection
import Progeny.Host.Options

/-!
# Dates

A moment is a number of seconds since the beginning of 1970.  Moments are written by a format, and read
from words: dates, times of the day and spans.  All of them are in universal time.
-/

namespace Progeny.Host.Calendar

open Text (Bytes bytesOf)

/-- A moment: the seconds since the beginning of 1970, and billionths of a second. -/
structure Moment where
  seconds : Int
  billionths : Nat := 0

/-- A day of a year. -/
structure Day where
  year : Int
  month : Nat
  day : Nat

/-- The number of days from the beginning of 1970 to a day; a day past the end of a month is one of a later
month. -/
def daysTo (year : Int) (month : Nat) (day : Int) : Int :=
  let y := if month ≤ 2 then year - 1 else year
  let era := y / 400
  let yearOfEra := y - era * 400
  let shifted : Int := (month + 9) % 12
  let dayOfYear := (153 * shifted + 2) / 5 + day - 1
  era * 146097 + yearOfEra * 365 + yearOfEra / 4 - yearOfEra / 100 + dayOfYear - 719468

/-- The day that is so many days after the first one of 1970. -/
def dayAfter (days : Int) : Day :=
  let z := days + 719468
  let era := z / 146097
  let dayOfEra := z - era * 146097
  let yearOfEra := (dayOfEra - dayOfEra / 1460 + dayOfEra / 36524 - dayOfEra / 146096) / 365
  let dayOfYear := dayOfEra - (365 * yearOfEra + yearOfEra / 4 - yearOfEra / 100)
  let shifted := (5 * dayOfYear + 2) / 153
  let month := if shifted < 10 then shifted + 3 else shifted - 9
  ⟨yearOfEra + era * 400 + (if month ≤ 2 then 1 else 0), month.toNat, (dayOfYear - (153 * shifted + 2) / 5 + 1).toNat⟩

example : daysTo 2000 3 1 = 11017 ∧ (dayAfter 11016).day = 29 ∧ (dayAfter 11016).month = 2 := by decide

/-- The names of the months. -/
def monthNames : List String :=
  ["January", "February", "March", "April", "May", "June", "July", "August", "September", "October", "November",
   "December"]

/-- The names of the days of the week. -/
def weekdayNames : List String := ["Sunday", "Monday", "Tuesday", "Wednesday", "Thursday", "Friday", "Saturday"]

namespace Moment

/-- The days since the beginning of 1970. -/
def days (t : Moment) : Int := t.seconds / 86400

/-- The day. -/
def date (t : Moment) : Day := dayAfter t.days

/-- The second of the day. -/
def second (t : Moment) : Nat := (t.seconds % 86400).toNat

/-- The day of the week, from Sunday on. -/
def weekday (t : Moment) : Nat := ((t.days + 4) % 7).toNat

/-- The day of the year, from zero on. -/
def yearDay (t : Moment) : Nat := (t.days - daysTo t.date.year 1 1).toNat

/-- The week of the year, and the year that it belongs to: that of its Thursday. -/
def week (t : Moment) : Int × Nat :=
  let thursday := t.days - ((t.weekday + 6) % 7 : Nat) + 3
  let year := (dayAfter thursday).year
  (year, ((thursday - daysTo year 1 1) / 7).toNat + 1)

end Moment

/-! ### Formats -/

/-- What a letter of a format stands for: a text, or a number with its width and what fills that. -/
inductive Piece where
  | text (s : String)
  | number (n : Int) (width : Nat) (fill : Char)

/-- How a piece is changed by the signs before its letter. -/
structure Signs where
  fill : Option Char := none
  /-- Nothing is filled. -/
  bare : Bool := false
  upper : Bool := false
  swaps : Bool := false
  width : Option Nat := none

/-- A piece as it is written. -/
def Piece.render (signs : Signs) : Piece → String
  | .text s =>
    let s := if signs.upper then s.toUpper else if signs.swaps then if s = s.toUpper then s.toLower else s.toUpper else s
    let gap := signs.width.getD 0 - s.length
    String.ofList (List.replicate gap (signs.fill.getD ' ')) ++ s
  | .number n width fill =>
    let digits := n.natAbs.repr
    let width := signs.width.getD width
    let fill := signs.fill.getD fill
    let gap := if signs.bare then 0 else width - digits.length
    (if n < 0 then "-" else "") ++ String.ofList (List.replicate gap fill) ++ digits

/-- Writes a moment by a format; `fuel` bounds formats in formats. -/
def written (t : Moment) : (fuel : Nat) → List Char → String
  | 0, _ | _, [] => ""
  | fuel + 1, '%' :: rest => Id.run do
    let flags := rest.takeWhile "_-0^#+".toList.contains
    let afterFlags := rest.drop flags.length
    let digits := afterFlags.takeWhile Char.isDigit
    let signs : Signs := {
      fill := (flags.reverse.find? "_0".toList.contains).map fun c => if c = '_' then ' ' else '0'
      bare := flags.contains '-', upper := flags.contains '^', swaps := flags.contains '#'
      width := if digits.isEmpty then none else natural? (String.ofList digits) }
    let body := (afterFlags.drop digits.length).dropWhile fun c => c = 'E' || c = 'O'
    let colons := body.takeWhile (· = ':')
    match body.drop colons.length with
    | [] => return "%" ++ String.ofList rest
    | c :: left =>
      let d := t.date
      let hour := t.second / 3600
      let twelve := if hour % 12 = 0 then 12 else hour % 12
      let name (names : List String) (k : Nat) : String := names.getD k ""
      let formatted (text : String) : Option Piece := some (.text (written t fuel text.toList))
      let two (n : Nat) : Option Piece := some (.number n 2 '0')
      let isAfternoon := 12 ≤ hour
      let piece? : Option Piece := match c with
        | '%' => some (.text "%")
        | 'n' => some (.text "\n")
        | 't' => some (.text "\t")
        | 'a' => some (.text ((name weekdayNames t.weekday).take 3).toString)
        | 'A' => some (.text (name weekdayNames t.weekday))
        | 'b' | 'h' => some (.text ((name monthNames (d.month - 1)).take 3).toString)
        | 'B' => some (.text (name monthNames (d.month - 1)))
        | 'c' => formatted "%a %b %e %H:%M:%S %Y"
        | 'C' => some (.number (d.year / 100) 2 '0')
        | 'd' => two d.day
        | 'D' | 'x' => formatted "%m/%d/%y"
        | 'e' => some (.number d.day 2 ' ')
        | 'F' => formatted "%Y-%m-%d"
        | 'g' => some (.number (t.week.1 % 100) 2 '0')
        | 'G' => some (.number t.week.1 4 '0')
        | 'H' => two hour
        | 'I' => two twelve
        | 'j' => some (.number (t.yearDay + 1) 3 '0')
        | 'k' => some (.number hour 2 ' ')
        | 'l' => some (.number twelve 2 ' ')
        | 'm' => two d.month
        | 'M' => two (t.second / 60 % 60)
        | 'N' => some (.text
            (((String.ofList (List.replicate (9 - t.billionths.repr.length) '0') ++ t.billionths.repr).take
              (signs.width.getD 9)).toString))
        | 'p' => some (.text (if signs.swaps then if isAfternoon then "pm" else "am" else if isAfternoon then "PM" else "AM"))
        | 'P' => some (.text (if isAfternoon then "pm" else "am"))
        | 'q' => some (.number ((d.month + 2) / 3) 1 '0')
        | 'r' => formatted "%I:%M:%S %p"
        | 'R' => formatted "%H:%M"
        | 's' => some (.number t.seconds 1 '0')
        | 'S' => two (t.second % 60)
        | 'T' | 'X' => formatted "%H:%M:%S"
        | 'u' => some (.number (if t.weekday = 0 then 7 else t.weekday) 1 '0')
        | 'U' => two ((t.yearDay + 7 - t.weekday) / 7)
        | 'V' => two t.week.2
        | 'w' => some (.number t.weekday 1 '0')
        | 'W' => two ((t.yearDay + 7 - (t.weekday + 6) % 7) / 7)
        | 'y' => some (.number (d.year % 100) 2 '0')
        | 'Y' => some (.number d.year 4 '0')
        | 'z' => some (.text (match colons.length with
            | 0 => "+0000"
            | 1 => "+00:00"
            | 2 => "+00:00:00"
            | _ => "+00"))
        | 'Z' => some (.text "UTC")
        | _ => none
      let signs := if c = 'p' then { signs with swaps := false } else signs
      match piece? with
      | some piece => return piece.render signs ++ written t fuel left
      | none =>
        let shown := rest.take (rest.length - left.length)
        return "%" ++ String.ofList shown ++ written t fuel left
  | fuel + 1, c :: rest => c.toString ++ written t fuel rest

/-! ### Reading -/

/-- What was read of a date. -/
structure Wish where
  day : Option Day := none
  /-- The day and the month, if the year may follow. -/
  monthDay : Option (Nat × Option Nat) := none
  seconds : Option Nat := none
  billionths : Nat := 0
  /-- How far the zone is ahead, in seconds. -/
  zone : Int := 0
  months : Int := 0
  days : Int := 0
  shift : Int := 0
  weekday : Option (Nat × Int) := none
  /-- Something was said of the day or the time. -/
  isAbsolute : Bool := false

/-- The place of a name of which the first three letters are enough. -/
def namePlace? (names : List String) (word : String) : Option Nat :=
  if word.length < 3 then none
  else names.findIdx? fun name => name.toLower.startsWith (if word.endsWith "." then (word.dropEnd 1).toString else word)

/-- A span of a number of units. -/
def Wish.adding (w : Wish) (n : Int) (unit : String) : Option Wish :=
  let unit := if unit.endsWith "s" then (unit.dropEnd 1).toString else unit
  match unit with
  | "year" => some { w with months := w.months + 12 * n }
  | "month" => some { w with months := w.months + n }
  | "fortnight" => some { w with days := w.days + 14 * n }
  | "week" => some { w with days := w.days + 7 * n }
  | "day" => some { w with days := w.days + n }
  | "hour" => some { w with shift := w.shift + 3600 * n }
  | "minute" | "min" => some { w with shift := w.shift + 60 * n }
  | "second" | "sec" => some { w with shift := w.shift + n }
  | _ => none

/-- The difference of a zone that is written as hours and minutes behind a sign. -/
def zone? (text : List Char) : Option Int :=
  let value (sign : Int) (rest : List Char) : Option Int :=
    let digits := rest.filter (· ≠ ':')
    if ! digits.all Char.isDigit || digits.isEmpty then none
    else
      let n := (natural? (String.ofList digits)).getD 0
      some (sign * (if digits.length ≤ 2 then n * 3600 else (n / 100 * 3600 + n % 100 * 60 : Nat)))
  match text with
  | [] | ['z'] => some 0
  | '+' :: rest => value 1 rest
  | '-' :: rest => value (-1) rest
  | _ => none

/-- A time of the day: hours, minutes, and perhaps seconds and a zone. -/
def Wish.withTime? (w : Wish) (text : String) : Option Wish := do
  let cs := text.toList
  let clock := cs.takeWhile fun c => c.isDigit || c = ':' || c = '.'
  let zone ← zone? (cs.drop clock.length)
  let parts := (String.ofList clock).splitOn ":"
  let (whole, fraction) := match parts.getLast?.map (·.splitOn ".") with
    | some [whole, fraction] => (parts.dropLast ++ [whole], fraction)
    | _ => (parts, "")
  let numbers ← whole.mapM natural?
  match numbers with
  | [h, m] | [h, m, _] =>
    let s := numbers.getD 2 0
    if 24 < h || 59 < m || 60 < s then none
    else
      let digits := (fraction.toList ++ List.replicate 9 '0').take 9
      some { w with
        seconds := some (h * 3600 + m * 60 + s), zone := zone, isAbsolute := true
        billionths := (natural? (String.ofList digits)).getD 0 }
  | _ => none

/-- Whether there is such a day. -/
def Day.isValid (d : Day) : Bool :=
  1 ≤ d.month && d.month ≤ 12 && 1 ≤ d.day && (dayAfter (daysTo d.year d.month d.day)).month = d.month

/-- Adds a day, if there is such a one. -/
def Wish.withDay? (w : Wish) (year : Int) (month day : Nat) : Option Wish :=
  let d : Day := ⟨year, month, day⟩
  if d.isValid then some { w with day := some d, isAbsolute := true } else none

/-- A year of which two digits were written. -/
def fullYear (text : String) : Option Int :=
  (natural? text).map fun (n : Nat) => if text.length ≤ 2 then if n < 69 then 2000 + (n : Int) else 1900 + (n : Int) else (n : Int)

/-- A day that is written in numbers. -/
def Wish.withNumbers? (w : Wish) (thisYear : Int) (text : String) : Option Wish := do
  match text.splitOn "-", text.splitOn "/" with
  | [y, m, d], _ =>
    match natural? m with
    | some month => w.withDay? (← fullYear y) month (← natural? d)
    | none => w.withDay? (← fullYear d) ((← namePlace? monthNames m) + 1) (← natural? y)
  | _, [a, b, c] =>
    if 2 < a.length then w.withDay? (← fullYear a) (← natural? b) (← natural? c)
    else w.withDay? (← fullYear c) (← natural? a) (← natural? b)
  | _, [m, d] => w.withDay? thisYear (← natural? m) (← natural? d)
  | _, _ => none

/-- Reads words. -/
def wordsFrom (thisYear : Int) : (fuel : Nat) → Wish → List String → Option Wish
  | 0, _, _ => none
  | _, w, [] => some w
  | fuel + 1, w, word :: rest =>
    let more (w : Wish) : Option Wish := wordsFrom thisYear fuel w rest
    let ordinals := [("next", (1 : Int)), ("last", -1), ("this", 0), ("third", 3), ("fourth", 4), ("fifth", 5)]
    match [("now", (0 : Int)), ("today", 0), ("tomorrow", 1), ("yesterday", -1)].lookup word with
    | some n => more { w with days := w.days + n }
    | none =>
    if ["utc", "gmt", "z"].contains word then more { w with zone := 0 }
    else if word = "midnight" then more { w with seconds := some 0, isAbsolute := true }
    else if word = "noon" then more { w with seconds := some 43200, isAbsolute := true }
    else if word = "am" || word = "pm" then
      match w.seconds with
      | some s => more { w with seconds := some (s % 43200 + if word = "pm" then 43200 else 0) }
      | none => none
    else match ordinals.lookup word, rest with
    | some n, unit :: later =>
      match w.adding n unit with
      | some w => wordsFrom thisYear fuel w later
      | none => match namePlace? weekdayNames unit with
        | some k => wordsFrom thisYear fuel { w with weekday := some (k, n), isAbsolute := true } later
        | none => none
    | some _, [] => none
    | none, _ =>
    match namePlace? weekdayNames word, namePlace? monthNames word with
    | some k, _ => more { w with weekday := some (k, 0), isAbsolute := true }
    | none, some k =>
      match rest, w.monthDay with
      | _, some (day, none) => more { w with monthDay := some (day, some (k + 1)) }
      | day :: later, none => match natural? day with
        | some d => wordsFrom thisYear fuel { w with monthDay := some (d, some (k + 1)), isAbsolute := true } later
        | none => none
      | _, _ => none
    | none, none =>
    let cs := word.toList
    let sign := cs.head?.any fun c => c = '+' || c = '-'
    let digits := (if sign then cs.drop 1 else cs).takeWhile Char.isDigit
    let tail := (if sign then cs.drop 1 else cs).drop digits.length
    let n : Int := (natural? (String.ofList digits)).getD 0
    let n := if cs.head? = some '-' then -n else n
    if ! digits.isEmpty && (tail.isEmpty || tail.all Char.isAlpha) && ! (tail.head? = some 't' && 8 ≤ digits.length) then
      let (unit?, later) := if tail.isEmpty then (rest.head?, rest.drop 1) else (some (String.ofList tail), rest)
      let spanned := unit?.bind fun unit =>
        let isPast := later.head? = some "ago"
        (w.adding (if isPast then -n else n) unit).map fun w => (w, if isPast then later.drop 1 else later)
      match spanned with
      | some (w, later) => wordsFrom thisYear fuel w later
      | none =>
        if (tail = "am".toList || tail = "pm".toList) && 1 ≤ n && n ≤ 12 then
          more { w with
            seconds := some ((n.toNat % 12 + if tail = "pm".toList then 12 else 0) * 3600), isAbsolute := true }
        else if ! tail.isEmpty then none
        else if sign then
          if w.seconds.isSome then (zone? cs).bind fun zone => more { w with zone := zone } else none
        else match w.monthDay, digits.length with
          | some (day, some month), _ =>
            if w.day.isSome then none
            else (w.withDay? ((fullYear word).getD thisYear) month day).bind fun w => more { w with monthDay := none }
          | none, 8 =>
            (w.withDay? (n / 10000) (n.toNat / 100 % 100) (n.toNat % 100)).bind more
          | none, 4 =>
            if 2400 ≤ n || 60 ≤ n % 100 then none
            else more { w with seconds := some (n.toNat / 100 * 3600 + n.toNat % 100 * 60), isAbsolute := true }
          | none, k => if k ≤ 2 then
              if (rest.head?.bind (namePlace? monthNames)).isSome then
                more { w with monthDay := some (n.toNat, none), isAbsolute := true }
              else if n < 24 then more { w with seconds := some (n.toNat * 3600), isAbsolute := true } else none
            else none
          | _, _ => none
    else
      let parts := word.splitOn "t"
      match w.withTime? word, w.withNumbers? thisYear word, parts with
      | some w, _, _ => more w
      | none, some w, _ => more w
      | none, none, [date, time] =>
        let dated := if date.length = 8 && (natural? date).isSome then
            let n := (natural? date).getD 0
            w.withDay? ((n / 10000 : Nat) : Int) (n / 100 % 100) (n % 100)
          else w.withNumbers? thisYear date
        (dated.bind (·.withTime? time)).bind more
      | _, _, _ => none

/-- The moment that a text stands for. -/
def moment? (now : Moment) (text : String) : Option Moment := do
  match text.toList with
  | '@' :: rest =>
    let negative := rest.head? = some '-'
    let body := String.ofList (if negative then rest.drop 1 else rest)
    let (whole, fraction) := match body.splitOn "." with
      | [whole, fraction] => (whole, fraction)
      | _ => (body, "")
    let seconds ← natural? whole
    let n ← natural? (String.ofList ((fraction.toList ++ List.replicate 9 '0').take 9))
    if ! negative then some ⟨seconds, n⟩
    else if n = 0 then some ⟨-(seconds : Int), 0⟩ else some ⟨-(seconds : Int) - 1, 1000000000 - n⟩
  | _ =>
    let spaced := text.toLower.map fun c => if c = ',' || c = '\t' || c = '\n' then ' ' else c
    let words := (spaced.splitOn " ").filter (! ·.isEmpty)
    let w ← wordsFrom now.date.year (words.length + 1) {} words
    let w ← match w.day, w.monthDay with
      | none, some (day, some month) => w.withDay? now.date.year month day
      | _, some (_, none) => none
      | _, _ => some w
    let base : Day := w.day.getD now.date
    let total := base.year * 12 + (base.month - 1 : Nat) + w.months
    let days := daysTo (total / 12) ((total % 12).toNat + 1) base.day + w.days
    let days := match w.weekday, w.day with
      | some (k, n), none =>
        let today := ((days + 4) % 7).toNat
        days + ((k + 7 - today) % 7 : Nat) + 7 * (n - if 0 < n && today ≠ k then 1 else 0)
      | _, _ => days
    let second := if w.isAbsolute || words.isEmpty then w.seconds.getD 0 else now.second
    let n := if w.isAbsolute || words.isEmpty then w.billionths else now.billionths
    return ⟨days * 86400 + second - w.zone + w.shift, n⟩

/-! ### The tool -/

/-- The moment at which the host begins. -/
def beginning : Int := 1767225600

/-- The formats that are asked for by name. -/
def isoFormat? : String → Option String
  | "" | "date" => some "%Y-%m-%d"
  | "hours" => some "%Y-%m-%dT%H%:z"
  | "minutes" => some "%Y-%m-%dT%H:%M%:z"
  | "seconds" => some "%Y-%m-%dT%H:%M:%S%:z"
  | "ns" => some "%Y-%m-%dT%H:%M:%S,%N%:z"
  | _ => none

/-- Prints a date. -/
def date : Tool := fun call =>
  call.withOptions (.of "d:f:I::r:Rs:uà:é" [("date", 'd'), ("file", 'f'), ("iso-8601", 'I'), ("reference", 'r'),
    ("rfc-email", 'R'), ("rfc-822", 'R'), ("rfc-2822", 'R'), ("set", 's'), ("utc", 'u'), ("universal", 'u'),
    ("uct", 'u'), ("rfc-3339", 'à'), ("debug", 'é')]) 1 fun request =>
  let now : Moment := ⟨beginning + (call.files.clock / 1000000 : Nat), call.files.clock % 1000000 * 1000⟩
  let named : Option String := match request.last? ['I', 'R', 'à'] with
    | some 'I' => isoFormat? ((request.value? 'I').getD "")
    | some 'R' => some "%a, %d %b %Y %H:%M:%S %z"
    | some 'à' => (isoFormat? ((request.value? 'à').getD "")).map fun format =>
        String.ofList (format.toList.map fun c => if c = 'T' && ! format.isEmpty then ' ' else if c = ',' then '.' else c)
    | _ => none
  match request.operands with
  | _ :: extra :: _ => call.misused 1 ("extra operand " ++ quoted extra)
  | operands =>
    let operand := operands.headD ""
    if ! operands.isEmpty && ! operand.startsWith "+" then call.failing 1 ("invalid date " ++ quoted operand)
    else if operand.startsWith "+" && named.isSome then call.failing 1 "multiple output formats specified"
    else
      let format := if operand.startsWith "+" then (operand.drop 1).toString
        else named.getD "%a %b %e %H:%M:%S %Z %Y"
      let asked : Except String Moment := match request.value? 'r', request.value? 'd', request.value? 's' with
        | some file, _, _ => match call.find file with
          | .ok _ => .ok ⟨beginning + ((((call.files.bodyOf? call.directory file).map (·.changed)).getD 0) / 1000000 : Nat), 0⟩
          | .error e => .error (Call.named file e)
        | none, some text, _ | none, none, some text => match moment? now text with
          | some t => .ok t
          | none => .error ("invalid date " ++ quoted text)
        | none, none, none => .ok now
      match asked with
      | .error text => call.failing 1 text
      | .ok t =>
        let shown := line (written t (format.length * 8 + 8) format.toList)
        if request.asks 's' then call.telling (call.complaint "cannot set date: Operation not permitted") shown 1
        else call.printing shown

end Progeny.Host.Calendar

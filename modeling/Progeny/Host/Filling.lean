import Progeny.Host.Options

/-!
# Filled lines

The tool that breaks paragraphs into lines of about one length.  Each way to break a paragraph has a cost,
and the cheapest one is taken: lines should come close to a goal, differ little in length, and end where
sentences do.
-/

namespace Progeny.Host.Filling

open Text (Bytes bytesOf)

/-- A word of a paragraph. -/
structure Word where
  text : Bytes
  /-- The blanks behind it. -/
  space : Nat
  /-- It begins with an opening bracket or quote. -/
  opens : Bool
  /-- It ends with a punctuation mark, or with one of those that end a sentence. -/
  isMarked : Bool
  isPeriod : Bool
  /-- A sentence ends with it. -/
  isFinal : Bool

/-- How paragraphs are filled. -/
structure Measure where
  width : Nat := 75
  goal : Nat := 70
  /-- Lines are not joined. -/
  splits : Bool := false
  /-- One blank stands between words, and two between sentences. -/
  isUniform : Bool := false
  /-- The first line may be indented in its own way, or must be. -/
  isCrown : Bool := false
  isTagged : Bool := false

/-- Whether an octet is among some characters. -/
def isAmong (signs : String) (b : UInt8) : Bool := (bytesOf signs).contains b

/-- Whether an octet is a punctuation mark. -/
def isMark (b : UInt8) : Bool :=
  (33 ≤ b && b ≤ 47) || (58 ≤ b && b ≤ 64) || (91 ≤ b && b ≤ 96) || (123 ≤ b && b ≤ 126)

/-- A word with what its letters say of it. -/
def wordOf (text : Bytes) : Word :=
  let core := text.reverse.dropWhile (isAmong ")]'\"")
  let last := if core.isEmpty then text.head? else core.head?
  { text := text, space := 1, isFinal := false
    opens := text.head?.any (isAmong "(['\x60\""), isMarked := text.getLast?.any isMark
    isPeriod := last.any (isAmong ".?!") }

/-- A line: the column of its first word, and its words.  Tabulators lead to columns that eight divides. -/
def wordsIn (m : Measure) (line : Bytes) : Nat × List Word :=
  let isBlank (b : UInt8) : Bool := b == 32 || b == 9
  let widen (column : Nat) (blanks : Bytes) : Nat :=
    blanks.foldl (fun (column : Nat) (b : UInt8) => if b == 9 then (column / 8 + 1) * 8 else column + 1) column
  let lead := line.takeWhile isBlank
  let start := widen 0 lead
  (start, go isBlank widen (line.length + 1) start (line.drop lead.length))
where
  go (isBlank : UInt8 → Bool) (widen : Nat → Bytes → Nat) : (fuel column : Nat) → Bytes → List Word
    | 0, _, _ | _, _, [] => []
    | fuel + 1, column, rest =>
      let text := rest.takeWhile (! isBlank ·)
      let left := rest.drop text.length
      let blanks := left.takeWhile isBlank
      let column := column + text.length
      let behind := widen column blanks
      let word := wordOf text
      let left := left.drop blanks.length
      let isLast := left.isEmpty
      let isFinal := word.isPeriod && (isLast || 1 < behind - column)
      let space := if isLast || m.isUniform then if isFinal then 2 else 1 else behind - column
      { word with space := space, isFinal := isFinal } :: go isBlank widen fuel behind left

/-! ### Costs -/

/-- The square of ten times a length. -/
def unevenness (n : Int) : Int := n * 10 * (n * 10)

/-- The cost of a line that begins with the first of some words, which follow the given ones. -/
def baseCost (before : List Word) (word : Word) : Int :=
  let line : Int := 4900
  let entry : Int := match before with
    | [] => 0
    | previous :: earlier =>
      if previous.isPeriod then if previous.isFinal then -2500 else 360000
      else if previous.isMarked then -1600
      else if ! earlier.isEmpty && (earlier.head?).any (·.isFinal) then 40000 / (previous.text.length + 2)
      else 0
  let start : Int := if word.opens then -1600 else if word.isFinal then 22500 / (word.text.length + 2) else 0
  line + entry + start

/-- The best way to break what begins with a word: its cost, the length of its first line and the number of
words in that. -/
structure Plan where
  cost : Int
  length : Nat
  words : Nat
  deriving Inhabited

/-- The best plan for words that begin in a column, given the plans for what follows each of them. -/
def choose (m : Measure) (isFirst : Bool) (lastLength : Nat) (base : Int) :
    (count length : Nat) → List Word → List Plan → Option Plan → Option Plan
  | _, _, [], _, best => best
  | count, length, word :: rest, plans, best =>
    let length := length + word.text.length
    if 0 < count && m.width ≤ length then best
    else
      let isEnd := rest.isEmpty
      let later := plans.head?
      let cost : Int :=
        if isEnd then 0
        else
          let n : Int := (m.goal : Int) - length
          let ragged : Int := match later with
            | some plan => if plan.words = rest.length then 0 else unevenness ((length : Int) - plan.length) / 2
            | none => 0
          unevenness n + ragged + (later.elim 0 (·.cost))
      let cost := if isFirst && 0 < lastLength then cost + unevenness ((length : Int) - lastLength) / 2 else cost
      let plan : Plan := ⟨cost + base, length, count + 1⟩
      let best := if best.all fun found => plan.cost < found.cost then some plan else best
      choose m isFirst lastLength base (count + 1) (length + word.space) rest (plans.drop 1) best

/-- The plans for all ends of some words, the one for all of them first; `before` are the words before
those, the nearest first. -/
def plans (m : Measure) (first other lastLength : Nat) : (before : List Word) → List Word → List Plan
  | _, [] => []
  | before, word :: rest =>
    let later := plans m first other lastLength (word :: before) rest
    let isFirst := before.isEmpty
    let plan := choose m isFirst lastLength (baseCost before word) 0 (if isFirst then first else other) (word :: rest)
      later none
    plan.getD ⟨0, 0, 1⟩ :: later

/-- Some columns, with tabulators if there were some. -/
def indent (tabs : Bool) (width : Nat) : Bytes :=
  let stops := width / 8
  if tabs && 1 < stops * 8 then List.replicate stops 9 ++ List.replicate (width % 8) 32 else List.replicate width 32

/-- A line of words. -/
def lineOf (tabs : Bool) (start : Nat) (words : List Word) : Bytes :=
  match words.reverse with
  | [] => []
  | last :: earlier =>
    indent tabs start ++ (earlier.reverse.flatMap fun word => word.text ++ List.replicate word.space 32) ++ last.text ++
      [lineFeed]

/-- The lines of a paragraph by its plans. -/
def broken (tabs : Bool) (other : Nat) : (fuel start : Nat) → List Word → List Plan → Bytes
  | 0, _, _, _ => []
  | fuel + 1, start, words, plans =>
    match words, plans with
    | [], _ | _, [] => []
    | words, plan :: _ =>
      lineOf tabs start (words.take plan.words) ++
        broken tabs other fuel other (words.drop plan.words) (plans.drop plan.words)

/-- Fills a paragraph: the columns of its first line and of the others, and its words. -/
def filled (m : Measure) (tabs : Bool) (first other : Nat) (words : List Word) : Bytes :=
  let words := match words.reverse with
    | last :: earlier => (({ last with isPeriod := true, isFinal := true } : Word) :: earlier).reverse
    | [] => []
  broken tabs other (words.length + 1) first words (plans m first other 0 [] words)

/-- Fills all paragraphs. -/
def paragraphs (m : Measure) (tabs : Bool) : (fuel : Nat) → List Bytes → Bytes
  | 0, _ | _, [] => []
  | fuel + 1, text :: rest =>
    let (first, words) := wordsIn m text
    if words.isEmpty then lineFeed :: paragraphs m tabs fuel rest
    else
      let lines := rest.map (wordsIn m)
      let isSame (line : Nat × List Word) : Bool := ! line.2.isEmpty
      let next? := (lines.head?).filter isSame
      let other := if m.splits then first
        else if m.isCrown then next?.elim first (·.1)
        else if m.isTagged then next?.elim (if first = 0 then 3 else 0) fun next =>
          if next.1 ≠ first then next.1 else if first = 0 then 3 else 0
        else first
      let joins := if m.splits then false
        else if m.isTagged then next?.any (·.1 ≠ first)
        else true
      let more := if joins then lines.takeWhile fun line => isSame line && line.1 = other else []
      filled m tabs first other (words ++ more.flatMap (·.2)) ++ paragraphs m tabs fuel (rest.drop more.length)

/-- Breaks paragraphs into lines of about one length. -/
def fmt : Tool := fun call =>
  let args := match call.texts with
    | text :: rest => match text.toList with
      | '-' :: c :: cs => if c.isDigit then ("-w" ++ String.ofList (c :: cs)) :: rest else text :: rest
      | _ => text :: rest
    | [] => []
  { call with args := args.map bytesOf }.parsing "cg:p:stuw:" [("crown-margin", 'c'), ("goal", 'g'), ("prefix", 'p'),
    ("split-only", 's'), ("tagged-paragraph", 't'), ("uniform-spacing", 'u'), ("width", 'w')] fun request =>
  let wrong := ((request.values 'w').find? fun text => (natural? text).isNone).map fun text =>
    "invalid width: " ++ quoted text
  let large := ((request.values 'w').find? fun text => (natural? text).any (2500 < ·)).map fun text =>
    "invalid width: " ++ quoted text ++ ": Numerical result out of range"
  match wrong.or large with
  | some text => call.failing 1 text
  | none =>
    let goal? := (request.value? 'g').bind natural?
    let width := ((request.value? 'w').bind natural?).getD (goal?.elim 75 (· + 10))
    let m : Measure := {
      width := width, goal := goal?.getD (width * 187 / 200), splits := request.asks 's'
      isUniform := request.asks 'u', isCrown := request.asks 'c', isTagged := request.asks 't' }
    call.eachSource request.operands (fun name e => "cannot open " ++ quotedName name ++ " for reading: " ++ e.message)
      () fun _ bytes =>
        let lines := (linesOf bytes).map chomp
        (paragraphs m (bytes.contains 9) (lines.length + 1) lines, ())

end Progeny.Host.Filling

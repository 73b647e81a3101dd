import Progeny.Host.Errand
import Progeny.Host.Records.State

/-!
# Running programs on records

Rules are carried out for one record after the other, between those for the beginning and those for the
end.
-/

namespace Progeny.Host.Records

open Text (Bytes bytesOf)
open Decimal (Double)

namespace Run

/-! ### Numbers -/

/-- What is left of a number when another one is taken from it as often as possible. -/
def remainder (x y : Float) : Float :=
  match Double.ofFloat x, Double.ofFloat y with
  | .finite negative m e, .finite _ n f =>
    if n = 0 then 0 / 0
    else
      let low := min e f
      let a := m * Nat.pow 2 (e - low).toNat
      let b := n * Nat.pow 2 (f - low).toNat
      let found := (Float.ofNat (a % b)).scaleB low
      if negative then -found else found
  | .finite .., .infinite _ => x
  | _, _ => 0 / 0

/-- The result of an operation. -/
def operate (operation : Operation) (x y : Float) : Float :=
  match operation with
  | .plus => x + y
  | .minus => x - y
  | .times => x * y
  | .divided => x / y
  | .modulo => remainder x y
  | .power => x.pow y

/-- Whether a comparison holds; `none` stands for numbers that cannot be compared. -/
def holds (relation : Relation) (order : Option Ordering) : Bool :=
  match relation, order with
  | .unequal, none => true
  | _, none => false
  | .less, some o => o = .lt
  | .atMost, some o => o ≠ .gt
  | .equal, some o => o = .eq
  | .unequal, some o => o ≠ .eq
  | .atLeast, some o => o ≠ .lt
  | .greater, some o => o = .gt

/-! ### Formats -/

/-- Carries out a format; the second part of the result says what is wrong with it. -/
def format (conversion : Bytes) (name : String) (whole : Bytes) : (fuel count : Nat) → Bytes → List Value →
    Bytes × Option String
  | 0, _, _, _ => ([], none)
  | _, _, [], _ => ([], none)
  | fuel + 1, count, 37 :: 37 :: rest, args =>
    let (more, fault) := format conversion name whole fuel count rest args
    (37 :: more, fault)
  | fuel + 1, count, 37 :: rest, args =>
    let quotedFormat := name ++ "(\"" ++ Text.Utf8.decode whole ++ "\")"
    let missing : Option String := some ("not enough arguments passed to " ++ quotedFormat)
    let improper : Option String :=
      some ("improper conversion(number " ++ (count + 1).repr ++ ") in " ++ quotedFormat)
    let written := Format.read (rest.map fun b => Char.ofNat b.toNat)
    let stars := (if written.width.isNone then 1 else 0) + (if written.precision = some none then 1 else 0)
    if args.length < stars then ([], missing)
    else
      let number (v : Option Value) : Int := ((v.map fun v => truncated v.toNumber)).getD 0
      let width : Int := match written.width with
        | some n => n
        | none => number args.head?
      let precision : Option Nat := match written.precision with
        | none => none
        | some (some n) => some n
        | some none => some (number (args.drop (stars - 1)).head?).toNat
      let args := args.drop stars
      match written.rest with
      | [] => ([], improper)
      | letter :: left =>
        let f : Format := {
          flags := if width < 0 then '-' :: written.flags else written.flags, width := width.natAbs, precision := precision
          letter := letter }
        let letter := if letter = 'u' then 'u' else letter
        let write : Option (Value → Bytes) :=
          if letter = 's' then some fun v => f.text (v.toText conversion)
          else if letter = 'c' then some fun v =>
            match v with
            | .number x => f.fill [(truncated x).toNat.toUInt8]
            | .loose bytes =>
              if Value.isNumeral bytes then f.fill [(truncated (Value.leading bytes)).toNat.toUInt8]
              else f.fill (bytes.take 1)
            | v => f.fill (match v.toText [] with
              | [] => [0]
              | b :: _ => [b])
          else if "dioxXu".toList.contains letter then some fun v => f.int (truncated v.toNumber)
          else if "eEfFgG".toList.contains letter then some fun v => f.float v.toNumber
          else none
        match write, args with
        | none, _ => ([], improper)
        | some _, [] => ([], missing)
        | some write, v :: args =>
          let (more, fault) := format conversion name whole fuel (count + 1) (rest.drop (rest.length - left.length)) args
          (write v ++ more, fault)
  | fuel + 1, count, b :: rest, args =>
    let (more, fault) := format conversion name whole fuel count rest args
    (b :: more, fault)

/-! ### Replacements -/

/-- What is put in place of a match. -/
def replacement (found : Bytes) : Bytes → Bytes
  | 92 :: 92 :: 38 :: rest => 92 :: found ++ replacement found rest
  | 92 :: 38 :: rest => 38 :: replacement found rest
  | 38 :: rest => found ++ replacement found rest
  | b :: rest => b :: replacement found rest
  | [] => []

/-- Replaces matches, all or only the first; the result says how many there were. -/
def replaceFrom (r : Regex) (every : Bool) (by' : Bytes) : (fuel : Nat) → (left : Option Nat) →
    (passed rest : List Symbol) → Bytes × Nat
  | 0, _, _, rest => (octetsOf rest, 0)
  | fuel + 1, left, passed, rest =>
    let isNew (found : Regex.Match) : Bool := ! found.text.isEmpty || left ≠ some found.before.length
    match r.findFrom? {} isNew passed rest with
    | none => (octetsOf rest, 0)
    | some found =>
      let lead := octetsOf (found.before.drop passed.length)
      let put := lead ++ replacement (octetsOf found.text) by'
      if ! every then (put ++ octetsOf found.after, 1)
      else
        let next := found.text.reverse ++ found.before.reverse
        let (more, count) : Bytes × Nat :=
          match found.text, found.after with
          | [], [] => ([], 0)
          | [], n :: after =>
            let (more, count) := replaceFrom r every by' fuel none (n :: next) after
            (octetsOf [n] ++ more, count)
          | _, after => replaceFrom r every by' fuel (some next.length) next after
        (put ++ more, count + 1)

/-- The part of a text from a place on, of a length. -/
def part (bytes : Bytes) (start : Float) (length : Option Float) : Bytes :=
  let start := truncated start
  match length with
  | none => bytes.drop (start.toNat - 1)
  | some length =>
    let length := truncated length
    let count := if start < 1 then length - start else length
    (bytes.drop (start.toNat - 1)).take count.toNat

/-- The place of a text in another one, from one on; zero if it is not there. -/
def placeOf (text : Bytes) : (place : Nat) → Bytes → Nat
  | _, [] => 0
  | place, b :: rest =>
    if text.isPrefixOf (b :: rest) then place else placeOf text (place + 1) rest

/-! ### Expressions and statements -/

variable (program : Program)

/-- The text of a list of subscripts. -/
def joinedKey (values : List Value) : Run Table.Key := do
  match values with
  | [.number x] =>
    match whole? x with
    | some n => return .number n
    | none => return .text (← toText (.number x))
  | values =>
    let texts ← values.mapM toText
    return .text ((← textOf "SUBSEP").intercalate texts)

mutual

/-- The value of an expression. -/
def value : (fuel : Nat) → Expr → Run Value
  | 0, _ => throw .endless
  | fuel + 1, e => do
    match e with
    | .number x => return .number x
    | .text bytes => return .text bytes
    | .regex r => return .ofBool (r.find? {} (symbolsOf (← get).record)).isSome
    | .variable name => valueOf name
    | .element name subscripts =>
      let key ← keyOf fuel subscripts
      let t ← table name
      match t.get? key with
      | some v =>
        setTable name (t.looked key)
        return v
      | none =>
        setTable name (t.put key .unset)
        return .unset
    | .field index => field (truncated (← value fuel index).toNumber)
    | .assign target operation source =>
      match operation with
      | none =>
        let v ← value fuel source
        store fuel target v
        return v
      | some operation =>
        let change ← value fuel source
        let old ← value fuel target
        let v := Value.number (operate operation old.toNumber change.toNumber)
        store fuel target v
        return v
    | .step target up first =>
      let old := (← value fuel target).toNumber
      let new := if up then old + 1 else old - 1
      store fuel target (.number new)
      return .number (if first then new else old)
    | .choice test yes no => if (← value fuel test).isTrue then value fuel yes else value fuel no
    | .both left right =>
      if (← value fuel left).isTrue then return .ofBool (← value fuel right).isTrue else return .ofBool false
    | .either left right =>
      if (← value fuel left).isTrue then return .ofBool true else return .ofBool (← value fuel right).isTrue
    | .not body => return .ofBool (! (← value fuel body).isTrue)
    | .sign negative body =>
      let x := (← value fuel body).toNumber
      return .number (if negative then -x else x)
    | .operate operation left right =>
      let x ← value fuel left
      let y ← value fuel right
      return .number (operate operation x.toNumber y.toNumber)
    | .compare relation left right =>
      let x ← value fuel left
      let y ← value fuel right
      return .ofBool (holds relation (Value.order (← conversion) x y))
    | .join left right =>
      let x ← toText (← value fuel left)
      let y ← toText (← value fuel right)
      return .text (x ++ y)
    | .fits wanted text pattern =>
      let bytes ← toText (← value fuel text)
      let r ← regexFor fuel pattern
      return .ofBool ((r.find? {} (symbolsOf bytes)).isSome = wanted)
    | .member subscripts name =>
      let key ← keyOf fuel subscripts
      return .ofBool ((← table name).get? key).isSome
    | .builtin name args => builtin fuel name args
    | .call name args => call fuel name args
    | .read supply source target => read fuel supply source target
    | .group body => value fuel body

/-- The values of expressions. -/
def values : (fuel : Nat) → List Expr → Run (List Value)
  | 0, _ => throw .endless
  | _, [] => return []
  | fuel + 1, e :: rest => do
    let v ← value fuel e
    return v :: (← values fuel rest)

/-- The key that subscripts stand for. -/
def keyOf : (fuel : Nat) → List Expr → Run Table.Key
  | 0, _ => throw .endless
  | fuel + 1, subscripts => do joinedKey (← values fuel subscripts)

/-- Gives a value to what can have one. -/
def store : (fuel : Nat) → Expr → Value → Run Unit
  | 0, _, _ => throw .endless
  | fuel + 1, target, v => do
    match target with
    | .variable name => setVariable name v
    | .element name subscripts =>
      let key ← keyOf fuel subscripts
      setTable name ((← table name).put key v)
    | .field index => setField (truncated (← value fuel index).toNumber) v
    | .group body => store fuel body v
    | _ => return ()

/-- The regular expression that an expression stands for. -/
def regexFor : (fuel : Nat) → Expr → Run Regex
  | 0, _ => throw .endless
  | fuel + 1, e => do
    match e with
    | .regex r => return r
    | .group body => regexFor fuel body
    | _ =>
      let bytes ← toText (← value fuel e)
      match regexOf bytes with
      | .ok r => return r
      | .error fault => throw (.failed (regexComplaint fault bytes))

/-- The value of a function that there is from the beginning. -/
def builtin : (fuel : Nat) → String → List Expr → Run Value
  | 0, _, _ => throw .endless
  | fuel + 1, name, args => do
    let text (e : Expr) : Run Bytes := do toText (← value fuel e)
    let number (e : Expr) : Run Float := return (← value fuel e).toNumber
    let computed (f : Float → Float) (e : Expr) : Run Value := return .number (f (← number e))
    match name, args with
    | "length", [] => return .ofNat (← get).record.length
    | "length", [.variable array] =>
      match ← binding array with
      | .array id => return .ofNat ((((← get).arrays.lookup id).getD {}).cells.length)
      | _ => return .ofNat (← toText (← valueOf array)).length
    | "length", [e] => return .ofNat (← text e).length
    | "substr", [e, start] => return .text (part (← text e) (← number start) none)
    | "substr", [e, start, length] =>
      let bytes ← text e
      let start ← number start
      return .text (part bytes start (some (← number length)))
    | "index", [whole, inner] =>
      let whole ← text whole
      return .ofNat (placeOf (← text inner) 1 whole)
    | "split", e :: .variable array :: rest =>
      let bytes ← text e
      let splitter ← match rest with
        | [] => fieldSplitter
        | separator :: _ => match separator with
          | .regex r => pure (Splitter.regex r)
          | separator => splitter (← text separator)
      let parts := splitter.split bytes
      setTable array (Table.ofList (parts.map .loose))
      return .ofNat parts.length
    | "sub", pattern :: by' :: rest => substitute fuel false pattern by' rest
    | "gsub", pattern :: by' :: rest => substitute fuel true pattern by' rest
    | "match", [e, pattern] =>
      let bytes ← text e
      let r ← regexFor fuel pattern
      let (start, length) : Nat × Int := match r.find? {} (symbolsOf bytes) with
        | some found => (found.before.length + 1, found.text.length)
        | none => (0, -1)
      setVariable "RSTART" (.ofNat start)
      setVariable "RLENGTH" (.number (floatOf length))
      return .ofNat start
    | "sprintf", form :: rest =>
      let form ← text form
      let args ← values fuel rest
      let (bytes, fault) := format (← conversion) "sprintf" form (form.length + 1) 0 form args
      match fault with
      | some text => throw (.failed text)
      | none => return .text bytes
    | "sin", [e] => computed Float.sin e
    | "cos", [e] => computed Float.cos e
    | "atan2", [y, x] =>
      let y ← number y
      return .number (y.atan2 (← number x))
    | "exp", [e] => computed Float.exp e
    | "log", [e] => computed Float.log e
    | "sqrt", [e] => computed Float.sqrt e
    | "int", [e] => computed (fun x => if x < 0 then x.ceil else x.floor) e
    | "rand", _ =>
      let seed := ((← get).seed * 1103515245 + 12345) % Nat.pow 2 31
      modify fun s => { s with seed := seed }
      return .number (Float.ofNat seed / Float.ofNat (Nat.pow 2 31))
    | "srand", rest =>
      let old := (← get).seed
      let new ← match rest with
        | e :: _ => number e
        | [] => pure 0
      modify fun s => { s with seed := (truncated new).toNat }
      return .ofNat old
    | "tolower", [e] => return .text ((← text e).map fun b => if 65 ≤ b && b ≤ 90 then b + 32 else b)
    | "toupper", [e] => return .text ((← text e).map fun b => if 97 ≤ b && b ≤ 122 then b - 32 else b)
    | "system", [e] =>
      let command ← text e
      flush
      return .ofNat (← ask { command := command }).1
    | "close", [e] =>
      match ← close (← text e) with
      | some status => return .ofNat status
      | none => return .number (-1)
    | "fflush", _ =>
      flush
      return .number 0
    | "systime", _ => return .ofNat 1700000000
    | _, _ => return .unset

/-- Replaces matches in a text, which is the record if none is given. -/
def substitute : (fuel : Nat) → (every : Bool) → (pattern by' : Expr) → List Expr → Run Value
  | 0, _, _, _, _ => throw .endless
  | fuel + 1, every, pattern, by', rest => do
    let r ← regexFor fuel pattern
    let by' ← toText (← value fuel by')
    let target := rest.headD (.field (.number 0))
    let bytes ← toText (← value fuel target)
    let symbols := symbolsOf bytes
    let (found, count) := replaceFrom r every by' (symbols.length + 2) none [] symbols
    if count > 0 then store fuel target (.text found)
    return .ofNat count

/-- The value of a function of the program. -/
def call : (fuel : Nat) → String → List Expr → Run Value
  | 0, _, _ => throw .endless
  | fuel + 1, name, args => do
    tick
    match program.functions.lookup name with
    | none => return .unset
    | some f =>
      let bindings ← arguments fuel args
      let missing ← (f.parameters.drop bindings.length).mapM fun _ => return Binding.fresh (← freshId)
      let outer := (← get).locals
      modify fun s => { s with locals := f.parameters.zip (bindings ++ missing) }
      let v ← try
          statement fuel f.body
          pure Value.unset
        catch
          | .result v => pure v
          | stop => throw stop
      modify fun s => { s with locals := outer }
      return v

/-- What arguments stand for. -/
def arguments : (fuel : Nat) → List Expr → Run (List Binding)
  | 0, _ => throw .endless
  | _, [] => return []
  | fuel + 1, e :: rest => do
    let found ← match e with
      | .variable "NF" => pure (Binding.value (← valueOf "NF"))
      | .variable name => binding name
      | e => pure (Binding.value (← value fuel e))
    return found :: (← arguments fuel rest)

/-- Reads a record; the value says whether there was one, or that it could not be looked for. -/
def read : (fuel : Nat) → Supply → (source target : Option Expr) → Run Value
  | 0, _, _, _ => throw .endless
  | fuel + 1, supply, source, target => do
    let found (bytes : Bytes) : Run Value := do
      match target with
      | some place => store fuel place (.loose bytes)
      | none => setRecord bytes
      return .number 1
    match supply with
    | .input =>
      match ← nextRecord 100000 with
      | some bytes => found bytes
      | none => return .number 0
    | _ =>
      let name ← match source with
        | some e => toText (← value fuel e)
        | none => pure []
      let s ← get
      let content : Option Bytes ← match s.readers.lookup name with
        | some rest => pure (some rest)
        | none =>
          match supply with
          | .command => do
            flush
            pure (some (← ask { command := name, captures := true }).2)
          | _ =>
            let text := Text.Utf8.decode name
            if text = "-" || text = "/dev/stdin" then
              if ! s.call.ended then throw .starved
              modify fun s => { s with reads := true }
            pure ({ s.call with files := s.files }.readOrInput text).toOption
      match content with
      | none => return .number (-1)
      | some rest =>
        let put (rest : Bytes) : Run Unit := modify fun s =>
          { s with readers := (name, rest) :: s.readers.filter (·.1 != name) }
        match ← recordIn false rest with
        | none =>
          put []
          return .number 0
        | some (bytes, left) =>
          put left
          if supply matches .command then
            if target.isNone then setVariable "NR" (.number ((← valueOf "NR").toNumber + 1))
          found bytes

/-- Carries out a statement. -/
def statement : (fuel : Nat) → Stmt → Run Unit
  | 0, _ => throw .endless
  | fuel + 1, s => do
    tick
    let put (sink : Option (Sink × Expr)) (bytes : Bytes) : Run Unit := do
      match sink with
      | none => print 1 bytes
      | some (sink, e) => printTo sink (← toText (← value fuel e)) bytes
    match s with
    | .print args sink =>
      let shown (v : Value) : Run Bytes := do
        match v with
        | .number x => return Value.numberText (← textOf "OFMT") x
        | v => return v.toText []
      let bytes ← if args.isEmpty then pure (← get).record else do
        let texts ← (← values fuel args).mapM shown
        pure ((← textOf "OFS").intercalate texts)
      put sink (bytes ++ (← textOf "ORS"))
    | .format args sink =>
      match ← values fuel args with
      | [] => return ()
      | form :: rest =>
        let form ← toText form
        let (bytes, fault) := format (← conversion) "printf" form (form.length + 1) 0 form rest
        put sink bytes
        match fault with
        | some text => throw (.failed text)
        | none => return ()
    | .evaluate e =>
      let _ ← value fuel e
    | .block body => statements fuel body
    | .choose test yes no =>
      if (← value fuel test).isTrue then statement fuel yes
      else match no with
        | some no => statement fuel no
        | none => return ()
    | .loop first test body step => loop fuel first test body step
    | .each name array body =>
      let id ← arrayId array
      let t := (((← get).arrays.lookup id).getD {}).withTexts
      modify fun s => { s with arrays := (id, t) :: s.arrays.filter (·.1 != id) }
      each fuel name t.keys body
    | .next => throw .next
    | .nextFile => throw .nextFile
    | .exit none => throw (.exit none)
    | .exit (some e) => throw (.exit (some (((truncated (← value fuel e).toNumber) % 256).toNat)))
    | .result none => throw (.result .unset)
    | .result (some e) => throw (.result (← value fuel e))
    | .leave => throw .leave
    | .proceed => throw .proceed
    | .delete array none => setTable array {}
    | .delete array (some subscripts) =>
      let key ← keyOf fuel subscripts
      setTable array ((← table array).erase key)

/-- Carries out statements. -/
def statements : (fuel : Nat) → List Stmt → Run Unit
  | 0, _ => throw .endless
  | _, [] => return ()
  | fuel + 1, s :: rest => do
    statement fuel s
    statements fuel rest

/-- Carries out a body as often as a test holds. -/
def loop : (fuel : Nat) → (first : Bool) → Option Expr → Stmt → Option Stmt → Run Unit
  | 0, _, _, _, _ => throw .endless
  | fuel + 1, first, test, body, step => do
    tick
    let goes ← if ! first then pure true else match test with
      | some e => pure (← value fuel e).isTrue
      | none => pure true
    if goes then
      let left ← try
          statement fuel body
          pure false
        catch
          | .leave => pure true
          | .proceed => pure false
          | stop => throw stop
      if ! left then
        match step with
        | some s => statement fuel s
        | none => pure ()
        loop fuel true test body step

/-- Carries out a body for each of some keys. -/
def each : (fuel : Nat) → String → List Bytes → Stmt → Run Unit
  | 0, _, _, _ => throw .endless
  | _, _, [], _ => return ()
  | fuel + 1, name, key :: rest, body => do
    setVariable name (.text key)
    let left ← try
        statement fuel body
        pure false
      catch
        | .leave => pure true
        | .proceed => pure false
        | stop => throw stop
    if ! left then each fuel name rest body

end

/-! ### Programs -/

/-- How deep expressions and how long loops may be. -/
def depth : Nat := 3000000

/-- Carries out the rules for the beginning or for the end. -/
def special (isWanted : Pattern → Bool) : Run Unit := do
  program.rules.forM fun rule => do
    if isWanted rule.pattern then
      match rule.action with
      | some action => statement program depth action
      | none => return ()

/-- Carries out the rules that are for the record; `place` is that of the first of them. -/
def rulesFrom : (place : Nat) → List Rule → Run Unit
  | _, [] => return ()
  | place, rule :: rest => do
    let isWanted ← match rule.pattern with
      | .begin | .finish => pure false
      | .always => pure true
      | .holds test => pure (← value program depth test).isTrue
      | .range start stop => do
        let isActive := (← get).active.contains place
        let starts ← if isActive then pure true else pure (← value program depth start).isTrue
        if starts then
          let ends := (← value program depth stop).isTrue
          modify fun s => { s with
            active := if ends then s.active.filter (· != place) else place :: s.active.filter (· != place) }
        pure starts
    if isWanted then
      match rule.action with
      | some action => statement program depth action
      | none => print 1 ((← get).record ++ (← textOf "ORS"))
    rulesFrom (place + 1) rest

/-- Carries out the rules for each record that is left. -/
def records : (fuel : Nat) → Run Unit
  | 0 => throw .endless
  | fuel + 1 => do
    match ← nextRecord 100000 with
    | none => return ()
    | some bytes =>
      setRecord bytes
      let skips ← try
          rulesFrom program 0 program.rules
          pure false
        catch
          | .next => pure false
          | .nextFile => pure true
          | stop => throw stop
      if skips then modify fun s => { s with current := none }
      records fuel

/-- Carries out a program. -/
def whole : Run Unit := do
  let isBegin (p : Pattern) : Bool := p matches .begin
  let isFinish (p : Pattern) : Bool := p matches .finish
  let reads := program.rules.any fun rule => ! isBegin rule.pattern
  let guarded (body : Run Unit) : Run Bool := try
      body
      pure false
    catch
      | .exit status =>
        modify fun s => { s with status := status.getD s.status, locals := [] }
        pure true
      | stop => throw stop
  let exits ← guarded do
    special program isBegin
    if reads then records program depth
  let _ := exits
  let _ ← guarded (special program isFinish)
  closeAll ((← get).outlets.length + 1)
  flush

end Run

/-! ### The tool -/

/-- What the arguments ask for. -/
structure Wishes where
  separator : Option String := none
  assignments : List String := []
  files : List String := []
  /-- The program and its arguments. -/
  rest : List String := []

/-- Reads the options. -/
def wishes : (fuel : Nat) → Wishes → List String → Except String Wishes
  | 0, w, rest => .ok { w with rest := rest }
  | _, w, [] => .ok w
  | fuel + 1, w, arg :: rest =>
    let put (c : Char) (value : String) (rest : List String) : Except String Wishes :=
      if c = 'F' then wishes fuel { w with separator := some value } rest
      else if c = 'v' then wishes fuel { w with assignments := w.assignments ++ [value] } rest
      else if c = 'f' then wishes fuel { w with files := w.files ++ [value] } rest
      else wishes fuel w rest
    match arg.toList with
    | ['-', '-'] => .ok { w with rest := rest }
    | ['-'] => .ok { w with rest := arg :: rest }
    | '-' :: c :: value =>
      if "FvfW".toList.contains c then
        if value.isEmpty then match rest with
          | next :: rest => put c next rest
          | [] => .error ("option -" ++ c.toString ++ " lacks argument")
        else put c (String.ofList value) rest
      else .error ("not an option: " ++ arg)
    | _ => .ok { w with rest := arg :: rest }

/-- The variables that there are before a program begins. -/
def initial (call : Call) (w : Wishes) (args : List String) : State :=
  let texts : List (String × String) :=
    [("FS", " "), ("OFS", " "), ("RS", "\n"), ("ORS", "\n"), ("CONVFMT", "%.6g"), ("OFMT", "%.6g"), ("SUBSEP", "\x1c"),
     ("FILENAME", "")]
  let numbers : List (String × Int) := [("NR", 0), ("FNR", 0), ("RSTART", 0), ("RLENGTH", -1), ("ARGC", args.length)]
  let bytes (text : String) : Bytes := unescape (text.utf8ByteSize + 1) (bytesOf text)
  let separator := w.separator.toList.map fun text => ("FS", Binding.value (.text (bytes text)))
  let given := w.assignments.filterMap fun text =>
    (Run.assignment? (bytesOf text)).map fun (name, value) => (name, Binding.value (.loose value))
  let defaults : List (String × Binding) :=
    texts.map (fun (name, text) => (name, Binding.value (.text (bytesOf text)))) ++
      numbers.map fun (name, n) => (name, Binding.value (.number (floatOf n)))
  let environment := call.environment.foldl (fun (t : Table) (name, value) =>
    t.put (.text (bytesOf name)) (.loose value)) {}
  let arguments := args.zipIdx.foldl (fun (t : Table) (arg, i) =>
    t.put (.number i) (.loose (bytesOf arg))) {}
  { call := call, files := call.files, answers := call.answers
    globals := given.reverse ++ separator ++ [("ENVIRON", .array 0), ("ARGV", .array 1)] ++ defaults
    arrays := [(0, environment), (1, arguments)], fresh := 2 }

/-- Carries out a program for each record of what it reads. -/
def awk : Tool := fun call =>
  let failing (text : String) : Reply := call.failing 2 text
  match wishes (call.args.length + 1) {} call.texts with
  | .error text => failing text
  | .ok w =>
    let loaded : Except String (Bytes × List String) := do
      match w.assignments.find? fun text => (Run.assignment? (bytesOf text)).isNone with
      | some text => throw ("improper assignment: -v " ++ text)
      | none => pure ()
      match w.files, w.rest with
      | [], [] => throw ""
      | [], program :: args => return (bytesOf program, args)
      | files, args =>
        let texts ← files.mapM fun file => match call.readOrInput file with
          | .ok bytes => Except.ok (bytes ++ [lineFeed])
          | .error e => .error ("cannot open \"" ++ file ++ "\" (" ++ e.message ++ ")")
        return (texts.flatten, args)
    match loaded with
    | .error text =>
      if text.isEmpty then call.telling (line "Usage: mawk [Options] [Program] [file ...]") [] 0 else failing text
    | .ok (text, args) =>
      match Program.read text with
      | .error text => failing text
      | .ok program =>
        let start := initial call w (call.name :: args)
        let (stop, s) : Option Stop × State := match EStateM.run (Run.whole program) start with
          | EStateM.Result.ok _ s => (none, s)
          | EStateM.Result.error stop s => (some stop, s)
        let told := s.told.reverse
        let waiting := s.waiting.reverse.flatten
        let unread := if s.reads then [] else call.input
        let refusing (text : Bytes) : Reply :=
          { call.idle with
            printed := told ++ [(2, text), (1, waiting)], status := 2, files := s.files, unread := unread, unprinted := 2 }
        match stop with
        | none =>
          { call.idle with
            printed := told, status := s.status, files := s.files, unread := unread, unprinted := 2
            complains := fun reason => "close failed on file \"/dev/stdout\" (" ++ reason ++ ")" }
        | some .starved =>
          let output := told.flatMap fun (n, bytes) => if n = 1 then bytes else []
          call.wantingBehind (output ++ waiting)
        | some .endless => { call.idle with printed := told, files := s.files, delay := Nat.pow 10 15 }
        | some (.order order) => { call.idle with printed := told, files := s.files, order := some order }
        | some (.refused text) => refusing (call.complaint text)
        | some (.failed text) =>
          let shown (name : String) : Bytes := match s.globals.lookup name with
            | some (.value v) => v.toText []
            | _ => []
          refusing (call.complaint ("run time error: " ++ text) ++ bytesOf "\tFILENAME=\"" ++ shown "FILENAME" ++
            bytesOf "\" FNR=" ++ shown "FNR" ++ bytesOf " NR=" ++ shown "NR" ++ [lineFeed])
        | some _ => { call.idle with printed := told ++ [(1, waiting)], files := s.files, unread := unread }

end Progeny.Host.Records

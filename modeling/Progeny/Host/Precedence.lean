import Progeny.Host.Options

/-!
# Precedence

The tool that puts items into an order in which each comes after those that have to precede it, and the one
that puts lines into no particular order.
-/

namespace Progeny.Host.Precedence

open Text (Bytes bytesOf)

/-- An item: how many items that have not been printed precede it, and those that it precedes, the one named
last being first. -/
structure Item where
  name : Bytes
  before : Nat := 0
  after : List Bytes := []
  isPrinted : Bool := false

/-- Changes the item of a name. -/
def change (name : Bytes) (f : Item → Item) (items : List Item) : List Item :=
  items.map fun item => if item.name == name then f item else item

/-- Adds a name, in the order of the names. -/
def add (name : Bytes) (items : List Item) : List Item :=
  if items.any (·.name == name) then items
  else items.takeWhile (noLater ·.name name) ++ { name := name } :: items.dropWhile (noLater ·.name name)

/-- The items of pairs of names, the first of which precedes the second. -/
def itemsOf : List Bytes → List Item → List Item
  | a :: b :: rest, items =>
    let items := add b (add a items)
    itemsOf rest (if a == b then items
      else change b (fun item => { item with before := item.before + 1 })
        (change a (fun item => { item with after := b :: item.after }) items))
  | _, items => items

/-- Prints items that nothing precedes any more, and then those that thereby have nothing before them. -/
def release : (fuel : Nat) → (queue : List Bytes) → List Item → List Bytes × List Item
  | 0, _, items | _, [], items => ([], items)
  | fuel + 1, name :: queue, items =>
    let after := ((items.find? (·.name == name)).map (·.after)).getD []
    let items := change name (fun item => { item with isPrinted := true }) items
    let (queue, items) := after.foldl (fun (queue, items) next =>
      let items := change next (fun item => { item with before := item.before - 1 }) items
      let isFree := (items.find? (·.name == next)).any (·.before = 0)
      (if isFree then queue ++ [next] else queue, items)) (queue, items)
    let (printed, items) := release fuel queue items
    (name :: printed, items)

/-- Goes back along a chain of items from its head, item by item in their order, until an item of the chain
is met again: the members of the loop, and the pair that is taken out of it. -/
def loop (items : List Item) : (fuel : Nat) → (chain : List Bytes) → List Item → Option (List Bytes × Bytes × Bytes)
  | 0, _, _ => none
  | fuel + 1, chain, [] => loop items fuel chain items
  | fuel + 1, chain, item :: rest =>
    if item.isPrinted || item.before = 0 then loop items fuel chain rest
    else match chain with
      | [] => loop items fuel [item.name] rest
      | head :: _ =>
        if ! item.after.contains head then loop items fuel chain rest
        else if chain.dropLast.contains item.name then
          some (chain.takeWhile (· != item.name) ++ [item.name], item.name, head)
        else loop items fuel (item.name :: chain) rest

/-- Puts items into order; what is printed, and on which descriptor. -/
def sorted (complain : String → Bytes) (source : String) : (fuel : Nat) → List Item → List (Nat × Bytes)
  | 0, _ => []
  | fuel + 1, items =>
    let free := (items.filter fun item => item.before = 0 && ! item.isPrinted).map (·.name)
    let (printed, items) := release (items.length + 1) free items
    let lines := [(1, unlines printed)]
    if items.all (·.isPrinted) then lines
    else
      let size := items.length
      match loop items ((size + 2) * (size + 2)) [] items with
      | none => lines
      | some (members, a, b) =>
        let told := complain (source ++ ": input contains a loop:") ++
          members.flatMap fun name => complain (Text.Utf8.decode name)
        let items := change b (fun item => { item with before := item.before - 1 })
          (change a (fun item => { item with after := item.after.erase b }) items)
        lines ++ (2, told) :: sorted complain source fuel items

/-- Prints items in an order that keeps to pairs of them. -/
def tsort : Tool := fun call => call.parsing "" [] fun request =>
  match request.operands with
  | _ :: extra :: _ => call.misused 1 ("extra operand " ++ quoted extra)
  | operands =>
    let source := operands.headD "-"
    call.reading operands fun found =>
      match found.head? with
      | some (_, .error e) => call.failing 1 (Call.named source e)
      | some (_, .ok bytes) =>
        let words := (splitBytes (fun b => b == 32 || b == 9 || b == 10) bytes).filter (! ·.isEmpty)
        if words.length % 2 = 1 then call.failing 1 (shownName source ++ ": input contains an odd number of tokens")
        else
          let printed := sorted call.complaint (shownName source) (words.length + 1) (itemsOf words [])
          { call.idle with printed := printed, status := if printed.any (·.1 = 2) then 1 else 0 }
      | none => call.idle

/-- Lines in another order: one after the other is taken from a place that wanders. -/
def mixed : (fuel seed : Nat) → List Bytes → List Bytes
  | 0, _, lines => lines
  | fuel + 1, seed, lines =>
    let next := (seed * 1103515245 + 12345) % 2147483648
    let k := next / 65536 % lines.length
    match lines[k]? with
    | none => []
    | some line => line :: mixed fuel next (lines.eraseIdx k)

/-- Prints lines, arguments or numbers in no particular order. -/
def shuf : Tool := fun call =>
  call.parsing "ei:n:o:rzà:" [("echo", 'e'), ("input-range", 'i'), ("head-count", 'n'), ("output", 'o'),
    ("repeat", 'r'), ("zero-terminated", 'z'), ("random-source", 'à')] fun request =>
  let ending : UInt8 := if request.asks 'z' then 0 else lineFeed
  let badCount := (request.values 'n').find? fun text => (natural? text).isNone
  let most := ((request.values 'n').filterMap natural?).min?
  let finish (reply : Reply) (lines : List Bytes) : Reply :=
    let order := mixed lines.length 4242 lines
    let chosen := if request.asks 'r' then
        if lines.isEmpty then [] else (List.range (most.getD 10000)).filterMap fun k => order[k % order.length]?
      else most.elim order (order.take ·)
    let output := chosen.flatMap (· ++ [ending])
    match request.value? 'o' with
    | none => { reply with printed := [(1, output)] }
    | some file => match reply.files.write call.directory file (0o666 - (0o666 &&& call.umask)) output with
      | .ok files => { reply with files := files }
      | .error e => { reply with printed := [(2, call.complaint (Call.named file e))], status := 1 }
  match badCount, request.value? 'i' with
  | some text, _ => call.failing 1 ("invalid line count: " ++ quoted text)
  | none, some range =>
    let bad := call.failing 1 ("invalid input range: " ++ quoted range)
    match (range.splitOn "-").map natural? with
    | [some low, some high] =>
      if high + 1 < low then bad
      else match request.operands with
        | extra :: _ => call.misused 1 ("extra operand " ++ quoted extra)
        | [] => finish call.idle ((List.range (high + 1 - low)).map fun k => bytesOf (low + k).repr)
    | _ => bad
  | none, none =>
    if request.asks 'e' then finish call.idle (request.operands.map bytesOf)
    else match request.operands with
      | _ :: extra :: _ => call.misused 1 ("extra operand " ++ quoted extra)
      | operands =>
        if most = some 0 then call.idle
        else call.reading operands fun found => match found.head? with
          | some (name, .error e) => call.failing 1 (Call.named name e)
          | some (_, .ok bytes) =>
            let pieces := splitBytes (· == ending) bytes
            finish call.idle (if pieces.getLast? = some [] then pieces.dropLast else pieces)
          | none => call.idle

end Progeny.Host.Precedence

import Progeny.Host.Inspection
import Progeny.Host.Numeral
import Progeny.Host.Options

/-!
# Comparison by octets

The tool that tells where two files differ first, or all places where they differ.
-/

namespace Progeny.Host.Comparison

open Text (Bytes bytesOf)

/-- How much is told. -/
inductive Telling where
  | first
  /-- The places of all octets that differ. -/
  | all
  | nothing
  /-- Only what cannot be told by the status. -/
  | status
  deriving DecidableEq

/-- The options. -/
def octetOptions : OptionTable := .of "bi:ln:sv"
  [("print-bytes", 'b'), ("ignore-initial", 'i'), ("verbose", 'l'), ("bytes", 'n'), ("quiet", 's'),
   ("silent", 's'), ("version", 'v')]

/-- The reply of a tool that was called in a wrong way and names itself also where it offers help. -/
def refused (call : Call) (text : String) : Reply :=
  call.telling (call.complaint text ++ call.complaint call.hint) [] 2

/-- An octet in three octal digits. -/
def octal (b : UInt8) : String := aligned 3 (String.ofList (Nat.toDigits 8 b.toNat))

/-- An octet as it is seen. -/
def visible (b : UInt8) : Bytes :=
  let low := b &&& 127
  let sign : Bytes := if low < 32 then [94, low + 64] else if low = 127 then [94, 63] else [low]
  (if b < 128 then [] else bytesOf "M-") ++ sign

/-- The numbers of octets that are left out at the beginnings, or the text that is none. -/
def skips (text : String) : Except String (Nat × Nat) :=
  let size (part whole : String) : Except String Nat := match Numeral.sized? part with
    | some n => .ok n
    | none => .error whole
  match text.splitOn ":" with
  | left :: right :: rest => do return (← size left text, ← size (":".intercalate (right :: rest)) (":".intercalate (right :: rest)))
  | _ => do
    let n ← size text text
    return (n, n)

/-- What is asked for. -/
structure Inquiry where
  left : String
  right : String
  skip : Nat × Nat
  limit : Option Nat
  telling : Telling
  /-- The octets themselves are shown. -/
  shows : Bool

/-- What is asked for by options and operands. -/
def inquiry (call : Call) (request : Request) : Except String Inquiry := do
  let badSkip (text : String) : String := "invalid --ignore-initial value '" ++ text ++ "'"
  let skip ← (request.values 'i').foldlM (fun (skip : Nat × Nat) text => match skips text with
    | .ok (m, n) => Except.ok (max skip.1 m, max skip.2 n)
    | .error part => .error (badSkip part)) (0, 0)
  let limit ← (request.values 'n').foldlM (fun (limit : Option Nat) text => match Numeral.sized? text with
    | some n => Except.ok (some (limit.elim n (min n)))
    | none => .error ("invalid --bytes value '" ++ text ++ "'")) none
  if request.asks 'l' && request.asks 's' then throw "options -l and -s are incompatible"
  let skipOf (k : Nat) (given : Nat) : Except String Nat := match request.operands[k]? with
    | none => .ok given
    | some text => match Numeral.sized? text with
      | some n => .ok (max given n)
      | none => .error (badSkip text)
  match request.operands with
  | [] => throw ("missing operand after '" ++ (call.texts.getLast?.getD call.name) ++ "'")
  | left :: rest =>
    let first ← skipOf 2 skip.1
    let second ← skipOf 3 skip.2
    match rest.drop 3 with
    | extra :: _ => throw ("extra operand '" ++ extra ++ "'")
    | [] =>
      let telling : Telling := if request.asks 's' then .status else if call.isMuted then .nothing
        else if request.asks 'l' then .all else .first
      return ⟨left, rest.headD "-", (first, second), limit, telling, request.asks 'b'⟩

/-- The places where octets differ, counted from one, and the octets. -/
def differences (left right : Bytes) : List (Nat × UInt8 × UInt8) :=
  ((left.zip right).zipIdx 1).filterMap fun ((a, b), k) => if a == b then none else some (k, a, b)

/-- The number of line feeds. -/
def feeds (bytes : Bytes) : Nat := bytes.count lineFeed

/-- What is told of two contents, on which descriptor, and the status. -/
def told (call : Call) (q : Inquiry) (width : Nat) (left right : Bytes) : List (Nat × Bytes) × Nat :=
  let common := min left.length right.length
  let found := differences left right
  let atEnd : List (Nat × Bytes) :=
    let name := if left.length < right.length then q.left else q.right
    let line :=
      if q.telling ≠ .first then ""
      else
        let lines := feeds (left.take common)
        if (left.take common).getLast? = some lineFeed then ", line " ++ lines.repr
        else ", in line " ++ (lines + 1).repr
    let place := if common = 0 then " which is empty" else " after byte " ++ common.repr ++ line
    if q.telling = .status then [] else [(2, call.complaint ("EOF on " ++ name ++ place))]
  let isShort := left.length ≠ right.length
  match q.telling, found with
  | .all, found =>
    let shown := found.flatMap fun (k, a, b) =>
      bytesOf (aligned width k.repr ++ " " ++ octal a) ++
        (if q.shows then
          let sign := visible a
          bytesOf " " ++ sign ++ List.replicate (4 - sign.length) 32 ++ bytesOf (" " ++ octal b ++ " ") ++ visible b
        else bytesOf (" " ++ octal b)) ++ [lineFeed]
    ((if isShort then atEnd else []) ++ [(1, shown)], if found.isEmpty && ! isShort then 0 else 1)
  | .first, (k, a, b) :: _ =>
    let line := (feeds (left.take (k - 1)) + 1).repr
    let unit := if q.shows then "byte" else "char"
    let text := bytesOf (q.left ++ " " ++ q.right ++ " differ: " ++ unit ++ " " ++ k.repr ++ ", line " ++ line) ++
      (if q.shows then
        bytesOf (" is " ++ octal a ++ " ") ++ visible a ++ bytesOf (" " ++ octal b ++ " ") ++ visible b
      else [])
    ([(1, text ++ [lineFeed])], 1)
  | _, _ :: _ => ([], 1)
  | _, [] => if isShort then (atEnd, 1) else ([], 0)

/-- Tells where two files differ. -/
def cmp : Tool := fun call =>
  match octetOptions.readFrom none call.texts with
  | .error text => refused call text
  | .ok request =>
    if request.asks 'v' then call.printing (line (call.name ++ " (GNU diffutils) 3.10"))
    else match inquiry call request with
    | .error text => refused call text
    | .ok q =>
      let isOne := q.left = q.right || (q.left ≠ "-" && q.right ≠ "-" && call.files.isSame call.directory q.left q.right)
      if isOne && q.skip.1 = q.skip.2 && (call.readOrInput q.left).toOption.isSome then call.idle
      else
        let names := if q.right = "-" then [q.right, q.left] else [q.left, q.right]
        let faults := names.filterMap fun name => match call.readOrInput name with
          | .ok _ => none
          | .error e => some (name, e)
        match faults.find? (·.2 ≠ .isDirectory), faults with
        | some (name, e), _ | none, (name, e) :: _ =>
          if q.telling = .status && e ≠ .isDirectory then { call.idle with status := 2 }
          else call.failing 2 (name ++ ": " ++ e.message)
        | none, [] =>
          let content (name : String) (skip : Nat) : Bytes :=
            let bytes := ((call.readOrInput name).toOption.getD []).drop skip
            q.limit.elim bytes (bytes.take ·)
          let left := content q.left q.skip.1
          let right := content q.right q.skip.2
          let sizes := [(q.left, left), (q.right, right)].filterMap fun (name, bytes) =>
            if name = "-" && ! call.isFile then none else some bytes.length
          let most := sizes.foldl min (q.limit.getD 9223372036854775807)
          let (printed, status) := told call q most.repr.length left right
          let reply := { call.idle with printed := printed, status := status, unread := [] }
          if ! Call.takesInput [q.left, q.right] then { reply with unread := call.input }
          else if call.ended || (q.telling ≠ .all && ! (differences left right).isEmpty) then reply
          else call.wanting

end Progeny.Host.Comparison

import Progeny.Host.Errand
import Progeny.Host.Numeral

/-!
# Blocks

The tool that copies octets block by block, from a place of the input to a place of the output.
-/

namespace Progeny.Host.Blocks

open Text (Bytes bytesOf)

/-- What is asked for. -/
structure Plan where
  input : Option String := none
  output : Option String := none
  /-- The size of blocks that are read, and of those that are written. -/
  inSize : Nat := 512
  outSize : Nat := 512
  /-- Each block is written as it was read. -/
  straight : Bool := false
  count : Option Nat := none
  skip : Nat := 0
  seek : Nat := 0
  conversions : List String := []
  inFlags : List String := []
  outFlags : List String := []
  /-- What is told at the end. -/
  level : String := ""

/-- Why there is no plan, and whether help is offered. -/
structure Refusal where
  text : String
  hinted : Bool := true

/-- A number, which may be a product and have factors behind its parts. -/
def number? (text : String) : Option Nat :=
  (text.splitOn "x").foldl (fun n part => match n, Numeral.sized? part with
    | some n, some m => some (n * m)
    | _, _ => none) (some 1)

/-- The conversions that there are. -/
def conversionNames : List String :=
  ["lcase", "ucase", "swab", "notrunc", "noerror", "sync", "nocreat", "excl", "fsync", "fdatasync", "sparse"]

/-- The manners of reading and writing that there are. -/
def flagNames : List String :=
  ["append", "direct", "directory", "dsync", "sync", "fullblock", "nonblock", "noatime", "nocache", "noctty", "nofollow",
   "count_bytes", "skip_bytes", "seek_bytes"]

/-- Adds an operand to a plan. -/
def Plan.with (plan : Plan) (operand : String) : Except Refusal Plan := do
  let unknown : Refusal := { text := "unrecognized operand '" ++ operand ++ "'" }
  let name :: more@(_ :: _) := operand.splitOn "=" | throw unknown
  let value := "=".intercalate more
  let number : Except Refusal Nat := match number? value with
    | some n => .ok n
    | none => .error ⟨"invalid number: '" ++ value ++ "'", false⟩
  let size : Except Refusal Nat := do
    let n ← number
    if n = 0 then throw ⟨"invalid number: '" ++ value ++ "'", false⟩
    return n
  let among (known : List String) (kind : String) : Except Refusal (List String) := do
    let words := value.splitOn ","
    match words.find? (! known.contains ·) with
    | some word => throw { text := "invalid " ++ kind ++ ": " ++ quoted word }
    | none => return words
  match name with
  | "if" => return { plan with input := some value }
  | "of" => return { plan with output := some value }
  | "bs" =>
    let n ← size
    return { plan with inSize := n, outSize := n, straight := true }
  | "ibs" => return { plan with inSize := ← size }
  | "obs" => return { plan with outSize := ← size }
  | "cbs" =>
    let _ ← size
    return plan
  | "count" => return { plan with count := some (← number) }
  | "skip" | "iseek" => return { plan with skip := ← number }
  | "seek" | "oseek" => return { plan with seek := ← number }
  | "conv" => return { plan with conversions := plan.conversions ++ (← among conversionNames "conversion") }
  | "iflag" => return { plan with inFlags := plan.inFlags ++ (← among flagNames "input flag") }
  | "oflag" => return { plan with outFlags := plan.outFlags ++ (← among flagNames "output flag") }
  | "status" =>
    if ! ["none", "noxfer", "progress"].contains value then throw { text := "invalid status level: " ++ quoted value }
    return { plan with level := value }
  | _ => throw unknown

namespace Plan

variable (plan : Plan)

/-- The number of octets that are passed over. -/
def start : Nat := if plan.inFlags.contains "skip_bytes" then plan.skip else plan.skip * plan.inSize

/-- The greatest number of octets that are read. -/
def most? : Option Nat :=
  plan.count.map fun n => if plan.inFlags.contains "count_bytes" then n else n * plan.inSize

/-- The place at which writing begins. -/
def place : Nat := if plan.outFlags.contains "seek_bytes" then plan.seek else plan.seek * plan.outSize

/-- Two octets each in the other order. -/
def swapped : Bytes → Bytes
  | a :: b :: rest => b :: a :: swapped rest
  | rest => rest

/-- The octets that are written for those that were read. -/
def converted (bytes : Bytes) : Bytes :=
  let converts := plan.conversions.contains
  let missing := (plan.inSize - bytes.length % plan.inSize) % plan.inSize
  let bytes := if converts "sync" then bytes ++ List.replicate missing 0 else bytes
  let bytes := if converts "swab" then swapped bytes else bytes
  if converts "ucase" then bytes.map fun b => if 97 ≤ b && b ≤ 122 then b - 32 else b
  else if converts "lcase" then bytes.map fun b => if 65 ≤ b && b ≤ 90 then b + 32 else b
  else bytes

/-- The numbers of blocks that were filled and that were not. -/
def records (size count : Nat) : String :=
  (count / size).repr ++ "+" ++ (if count % size = 0 then "0" else "1")

/-- What is told at the end. -/
def report (read written : Nat) : Bytes :=
  if plan.level = "none" then []
  else
    line (records plan.inSize read ++ " records in") ++
      line (records (if plan.straight then plan.inSize else plan.outSize) written ++ " records out") ++
      (if plan.level = "noxfer" then [] else line (written.repr ++ " bytes copied, 0.0001 s, 1.0 MB/s"))

end Plan

/-- Reads the operands. -/
def plan (texts : List String) : Except Refusal Plan :=
  texts.foldlM (fun (plan : Plan) text => plan.with text) {}

/-- Copies octets block by block. -/
def dd : Tool := fun call =>
  let refused (refusal : Refusal) : Reply :=
    if refusal.hinted then call.misused 1 refusal.text else call.failing 1 refusal.text
  let texts := if call.texts.head? = some "--" then call.texts.drop 1 else call.texts
  match texts.find? (·.startsWith "-") with
  | some text => refused { text := "invalid option -- '" ++ String.ofList ((text.toList.drop 1).take 1) ++ "'" }
  | none =>
    match plan texts with
    | .error refusal => refused refusal
    | .ok plan =>
      let readsInput := plan.input.all (· = "/dev/stdin")
      let wanted := plan.most?.map (· + plan.start)
      let isEnough := call.ended || wanted.any (· ≤ call.input.length)
      let content : Except FileError Bytes := match plan.input with
        | none => call.readOrInput "-"
        | some name => call.read name
      let inputName := plan.input.getD "standard input"
      let going (bytes : Bytes) (complaint : Bytes) : Reply :=
        let there := bytes.drop plan.start
        let taken := match plan.most? with
          | some n => there.take n
          | none => there
        let written := plan.converted taken
        let unread := if readsInput then bytes.drop (plan.start + taken.length) else call.input
        let isFar := bytes.length < plan.start && plan.level ≠ "none"
        let warnings := if isFar then call.complaint (quotedName inputName ++ ": cannot skip to specified offset") else []
        let told := complaint ++ warnings ++ plan.report taken.length written.length
        let status := if complaint.isEmpty then 0 else 1
        let reply : Reply := { call.idle with
          unread := unread, status := status, complains := fun reason => "error writing 'standard output': " ++ reason }
        let printing (n : Nat) : Reply := { reply with printed := [(n, written), (2, told)] }
        match plan.output with
        | none => printing 1
        | some name =>
          let failing (e : FileError) : Reply :=
            call.failing 1 ("failed to open " ++ quotedName name ++ ": " ++ e.message)
          let opened := call.files.openForWriting call.directory name (call.newBits 0o666) false
          match opened with
          | .error e => failing e
          | .ok (files, .file number) =>
            let before := ((files.bodies.lookup number).map FileBody.content).getD []
            let keeps := plan.conversions.contains "notrunc"
            let place := if keeps && plan.outFlags.contains "append" then before.length else plan.place
            let lead := before.take place ++ List.replicate (place - before.length) 0
            let tail := if keeps then before.drop (place + written.length) else []
            { reply with files := files.setContent number (lead ++ written ++ tail), printed := [(2, told)] }
          | .ok (_, .device (.descriptor n)) => printing n
          | .ok (files, _) => { reply with files := files, printed := [(2, told)] }
      if readsInput && ! isEnough then call.wanting
      else match content with
        | .error .isDirectory => going [] (call.complaint ("error reading " ++ quotedName inputName ++ ": Is a directory"))
        | .error e =>
          if readsInput then going [] (call.complaint ("error reading " ++ quotedName inputName ++ ": " ++ e.message))
          else call.failing 1 ("failed to open " ++ quotedName inputName ++ ": " ++ e.message)
        | .ok bytes => going bytes []

end Progeny.Host.Blocks

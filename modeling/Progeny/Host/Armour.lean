import Progeny.Host.Options

/-!
# Armour

Octets written with letters and digits only, each of which stands for some bits.
-/

namespace Progeny.Host.Armour

open Text (Bytes bytesOf)

/-- A way to write octets. -/
structure Code where
  /-- The number of bits that a sign stands for. -/
  bits : Nat
  /-- The number of signs in a group, which stands for whole octets. -/
  group : Nat
  signs : String

/-- The code with 64 signs. -/
def sixtyFour : Code :=
  ⟨6, 4, "ABCDEFGHIJKLMNOPQRSTUVWXYZabcdefghijklmnopqrstuvwxyz0123456789+/"⟩

/-- The code with 32 signs. -/
def thirtyTwo : Code := ⟨5, 8, "ABCDEFGHIJKLMNOPQRSTUVWXYZ234567"⟩

/-- The sign that fills a group. -/
def filler : UInt8 := 61

namespace Code

variable (code : Code)

/-- The number of octets in a group. -/
def octets : Nat := code.bits * code.group / 8

/-- Digits of a number in a base, from the greatest on. -/
def digits (base : Nat) : (count n : Nat) → List Nat
  | 0, _ => []
  | count + 1, n => n / Nat.pow base count % base :: digits base count n

/-- The signs of octets. -/
def encode : (fuel : Nat) → Bytes → Bytes
  | 0, _ => []
  | _, [] => []
  | fuel + 1, bytes =>
    let block := bytes.take code.octets
    let missing := code.octets - block.length
    let n := (block ++ List.replicate missing 0).foldl (fun (n : Nat) (b : UInt8) => n * 256 + b.toNat) 0
    let used := (block.length * 8 + code.bits - 1) / code.bits
    let signs := (digits (Nat.pow 2 code.bits) code.group n).map fun d => ((bytesOf code.signs)[d]?).getD filler
    signs.take used ++ List.replicate (code.group - used) filler ++ encode fuel (bytes.drop code.octets)

/-- The number that a sign stands for. -/
def value? (b : UInt8) : Option Nat := (bytesOf code.signs).idxOf? b

/-- The octets that signs stand for, and whether all of them do. -/
def decode : (fuel : Nat) → Bytes → Bytes × Bool
  | 0, _ => ([], true)
  | _, [] => ([], true)
  | fuel + 1, signs =>
    let block := signs.take code.group
    let values := (block.map code.value?).takeWhile Option.isSome
    let fill := block.drop values.length
    let count := values.length * code.bits / 8
    let padded := values ++ List.replicate (code.group - values.length) (some 0)
    let n := padded.foldl (fun (n : Nat) (d : Option Nat) => n * Nat.pow 2 code.bits + d.getD 0) 0
    let found := ((digits 256 code.octets n).map Nat.toUInt8).take count
    let isWhole := block.length = code.group && fill.all (· = filler) && values.length ≠ 0 &&
      values.length = (count * 8 + code.bits - 1) / code.bits
    if isWhole then
      let (more, good) := decode fuel (signs.drop code.group)
      (found ++ more, good)
    else (found, false)

end Code

/-- Octets in lines of a width; without one there is one line, which has no end. -/
def wrapped (width : Nat) : (fuel : Nat) → Bytes → Bytes
  | 0, _ => []
  | _, [] => []
  | fuel + 1, bytes =>
    if width = 0 then bytes else bytes.take width ++ lineFeed :: wrapped width fuel (bytes.drop width)

/-- Writes octets in a code, or reads them. -/
def tool (code : Code) : Tool := fun call =>
  call.withOptions (.of "diw:" [("decode", 'd'), ("ignore-garbage", 'i'), ("wrap", 'w')]) 1 fun request =>
  match (request.value? 'w').map fun text => (text, natural? text) with
  | some (text, none) => call.failing 1 ("invalid wrap size: " ++ quotedName text)
  | width =>
    let width := (width.bind (·.2)).getD 76
    match request.operands with
    | _ :: extra :: _ => call.misused 1 ("extra operand " ++ quotedName extra)
    | names =>
      call.reading names fun found =>
        match found.head?.map Prod.snd with
        | some (.ok bytes) =>
          if request.asks 'd' then
            let isKnown (b : UInt8) : Bool := b = filler || (code.value? b).isSome
            let signs := bytes.filter fun b => if request.asks 'i' then isKnown b else b ≠ lineFeed
            let (output, good) := code.decode (signs.length + 1) signs
            let complaints := if good then [] else call.complaint "invalid input"
            { call.idle with printed := [(1, output), (2, complaints)], status := if good then 0 else 1 }
          else
            let signs := code.encode (bytes.length + 1) bytes
            call.printing (wrapped width (signs.length + 1) signs)
        | some (.error .isDirectory) => call.failing 1 "read error: Is a directory"
        | some (.error e) => call.failing 1 (Call.named (names.headD "-") e)
        | none => call.idle

example : sixtyFour.encode 4 (bytesOf "hi\n!") = bytesOf "aGkKIQ==" := by decide +kernel

end Progeny.Host.Armour

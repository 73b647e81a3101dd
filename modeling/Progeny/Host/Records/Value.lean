import Progeny.Host.Format
import Progeny.Host.Numeral
import Progeny.Host.Tool

/-!
# Values

The values that programs on records compute with, and tables of them.  A table can be gone through in the
order of its lists, into which keys are spread by their octets.
-/

namespace Progeny.Host.Records

open Text (Bytes bytesOf)
open Decimal (Double)

/-- A value. -/
inductive Value where
  | unset
  | number (x : Float)
  | text (bytes : Bytes)
  /-- A text that was read, which may stand for a number. -/
  | loose (bytes : Bytes)

/-- Whether an octet is a blank between numbers. -/
def isBlank (b : UInt8) : Bool := b = 32 || b = 9 || b = lineFeed

/-- The whole number that a number is, if it is one that is not too great. -/
def whole? (x : Float) : Option Int :=
  match Double.ofFloat x with
  | .finite negative mantissa exponent =>
    let magnitude : Option Nat :=
      if exponent ≥ 0 then
        if exponent > 64 then none else some (mantissa * Nat.pow 2 exponent.toNat)
      else
        let unit := Nat.pow 2 (-exponent).toNat
        if mantissa % unit = 0 then some (mantissa / unit) else none
    match magnitude with
    | some n => if n < Nat.pow 2 64 then some (if negative then -(n : Int) else n) else none
    | none => none
  | _ => none

/-- A number without what is behind its point; those that are too great are cut. -/
def truncated (x : Float) : Int :=
  match Double.ofFloat x with
  | .finite negative mantissa exponent =>
    let n := if exponent ≥ 0 then mantissa * Nat.pow 2 (min exponent.toNat 1100) else mantissa / Nat.pow 2 (-exponent).toNat
    if negative then -(min n (Nat.pow 2 63) : Nat) else (min n (Nat.pow 2 64 - 1) : Nat)
  | .infinite negative => if negative then -(Nat.pow 2 63) else Nat.pow 2 63 - 1
  | .nan => -(Nat.pow 2 63)

/-- The number that whole numbers stand for. -/
def floatOf (n : Int) : Float := if n < 0 then -(Float.ofNat n.natAbs) else Float.ofNat n.natAbs

/-- A number by a format for it. -/
def formatted (format : Bytes) (x : Float) : Bytes :=
  if x.isNaN then bytesOf "-nan"
  else match (Text.Utf8.decode format).toList with
  | '%' :: rest =>
    let written := Format.read rest
    match written.rest with
    | letter :: _ =>
      let f : Format := {
        flags := written.flags, width := written.width.getD 0, precision := (written.precision.map (·.getD 0))
        letter := letter }
      if "eEfFgG".toList.contains letter then f.float x else f.int (truncated x)
    | [] => format
  | _ => format

namespace Value

/-- The number at the beginning of a text. -/
def leading (bytes : Bytes) : Float :=
  let chars := (bytes.dropWhile isBlank).map fun b => Char.ofNat b.toNat
  match Numeral.float? chars with
  | some (x, _) => x
  | none => 0

/-- Whether all of a text stands for a number. -/
def isNumeral (bytes : Bytes) : Bool :=
  let text := ((bytes.dropWhile isBlank).reverse.dropWhile isBlank).reverse
  let chars := text.map fun b => Char.ofNat b.toNat
  let starts := match chars with
    | c :: _ => c.isDigit || c = '+' || c = '-' || c = '.'
    | [] => false
  starts && (Numeral.float? chars).any fun (_, rest) => rest.isEmpty

/-- A value as a number. -/
def toNumber : Value → Float
  | .unset => 0
  | .number x => x
  | .text bytes | .loose bytes => leading bytes

/-- A number as text, by a format for those that are not whole. -/
def numberText (format : Bytes) (x : Float) : Bytes :=
  match whole? x with
  | some n => bytesOf (toString n)
  | none => formatted format x

/-- A value as text. -/
def toText (format : Bytes) : Value → Bytes
  | .unset => []
  | .number x => numberText format x
  | .text bytes | .loose bytes => bytes

/-- Whether a value counts as true. -/
def isTrue : Value → Bool
  | .unset => false
  | .number x => ! (x == 0)
  | .text bytes => ! bytes.isEmpty
  | .loose bytes => if isNumeral bytes then ! (leading bytes == 0) else ! bytes.isEmpty

/-- The number that a value is, or that a text that was read stands for. -/
def number? : Value → Option Float
  | .unset => some 0
  | .number x => some x
  | .text _ => none
  | .loose bytes => if isNumeral bytes then some (leading bytes) else none

/-- Compares values as numbers if both are, and as texts if not; numbers that are none cannot be compared. -/
def order (format : Bytes) (a b : Value) : Option Ordering :=
  match a.number?, b.number? with
  | some x, some y => if x < y then some .lt else if y < x then some .gt else if x == y then some .eq else none
  | _, _ =>
    let (s, t) := (a.toText format, b.toText format)
    some (if s = t then .eq else if noLater s t then .lt else .gt)

/-- One for what holds, and zero for what does not. -/
def ofBool (holds : Bool) : Value := .number (if holds then 1 else 0)

/-- A whole number. -/
def ofNat (n : Nat) : Value := .number (Float.ofNat n)

end Value

/-! ### Tables -/

/-- A table of values.  Keys that are numbers and keys that are texts are found in lists of their own. -/
structure Table where
  cells : List (Bytes × Value) := []
  /-- The numbers, the latest used first. -/
  numbers : List Int := []
  /-- The texts, the latest used first. -/
  texts : List Bytes := []
  /-- All keys are in lists as texts. -/
  hasTexts : Bool := false

namespace Table

/-- The number of lists. -/
def listCount : Nat := 64

/-- The list that a text is in. -/
def listOf (key : Bytes) : Nat :=
  (key.foldl (fun (h : UInt32) b => (h ^^^ b.toUInt32) * 16777619) 2166136261).toNat % listCount

/-- The text of a number. -/
def numberKey (n : Int) : Bytes := bytesOf (toString n)

/-- A table whose keys are all in lists as texts. -/
def withTexts (t : Table) : Table :=
  if t.hasTexts then t
  else
    let inOrder := (List.range listCount).flatMap fun i => t.numbers.filter fun (n : Int) => (n % (listCount : Int)).toNat = i
    let texts := inOrder.foldl (fun texts n =>
      let key := numberKey n
      if texts.contains key then texts else key :: texts) t.texts
    { t with texts := texts, hasTexts := true }

/-- A table in which a text was looked up that is in it. -/
def usingText (t : Table) (key : Bytes) : Table :=
  let t := t.withTexts
  if t.texts.head? = some key then t else { t with texts := key :: t.texts.filter (· != key) }

/-- A table in which a number was looked up that is in it. -/
def usingNumber (t : Table) (n : Int) : Table :=
  if t.numbers.head? = some n then t
  else if t.numbers.contains n then { t with numbers := n :: t.numbers.filter (· != n) }
  else
    let t := if t.hasTexts then t.usingText (numberKey n) else t
    { t with numbers := n :: t.numbers }

/-- A key as it is looked up. -/
inductive Key where
  | number (n : Int)
  | text (bytes : Bytes)

/-- The text of a key. -/
def Key.bytes : Key → Bytes
  | .number n => numberKey n
  | .text bytes => bytes

/-- The value at a key. -/
def get? (t : Table) (key : Key) : Option Value := t.cells.lookup key.bytes

/-- A table in which a key was looked up. -/
def looked (t : Table) : Key → Table
  | .number n => t.usingNumber n
  | .text bytes => t.usingText bytes

/-- Puts a value at a key. -/
def put (t : Table) (key : Key) (value : Value) : Table :=
  let bytes := key.bytes
  let t := t.looked key
  if (t.cells.lookup bytes).isSome then
    { t with cells := t.cells.map fun (k, old) => (k, if k == bytes then value else old) }
  else { t with cells := (bytes, value) :: t.cells }

/-- Takes a key away. -/
def erase (t : Table) (key : Key) : Table :=
  let bytes := key.bytes
  { t with
    cells := t.cells.filter (·.1 != bytes), numbers := t.numbers.filter (numberKey · != bytes)
    texts := t.texts.filter (· != bytes) }

/-- The keys in the order of the lists. -/
def keys (t : Table) : List Bytes :=
  let texts := t.withTexts.texts.map fun key => (listOf key, key)
  (List.range listCount).flatMap fun i => (texts.filter (·.1 = i)).map (·.2)

/-- The table of some values, from one on. -/
def ofList (values : List Value) : Table :=
  { cells := values.mapIdx fun i v => (numberKey (i + 1), v)
    numbers := ((List.range values.length).map fun i => ((i + 1 : Nat) : Int)).reverse }

end Table

end Progeny.Host.Records

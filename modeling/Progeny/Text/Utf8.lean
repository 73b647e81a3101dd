/-!
# UTF-8

Octets are read as UTF-8 by a machine with one step for each octet.  Octets that are not part of a
character are replaced: each longest beginning of a character that is broken off, and each octet that
cannot begin one, gives one replacement character.
-/

namespace Progeny.Text

/-- Octets. -/
abbrev Bytes := List UInt8

/-- The UTF-8 octets of a text. -/
def bytesOf (s : String) : Bytes := s.toUTF8.toList

namespace Utf8

/-- Where a machine stands. -/
inductive State where
  /-- Between two characters. -/
  | between
  /-- Inside a character: the bits so far, the number of octets to come, and the bounds of the next
  of them. -/
  | inside (bits toCome : Nat) (low high : UInt8)
  deriving DecidableEq, Repr

/-- What stands for octets that are no character. -/
def replacement : Char := '\ufffd'

/-- Begins a character.  The bounds of a second octet shut out what could be written shorter, the
halves of surrogate pairs, and what is beyond the last character. -/
def start (b : UInt8) : List Char × State :=
  if b < 0x80 then ([Char.ofNat b.toNat], .between)
  else if b < 0xC2 then ([replacement], .between)
  else if b < 0xE0 then ([], .inside (b.toNat - 0xC0) 1 0x80 0xBF)
  else if b = 0xE0 then ([], .inside 0 2 0xA0 0xBF)
  else if b = 0xED then ([], .inside 0xD 2 0x80 0x9F)
  else if b < 0xF0 then ([], .inside (b.toNat - 0xE0) 2 0x80 0xBF)
  else if b = 0xF0 then ([], .inside 0 3 0x90 0xBF)
  else if b < 0xF4 then ([], .inside (b.toNat - 0xF0) 3 0x80 0xBF)
  else if b = 0xF4 then ([], .inside 4 3 0x80 0x8F)
  else ([replacement], .between)

/-- Reads one octet: the characters that are complete with it, and where the machine stands then. -/
def step (state : State) (b : UInt8) : List Char × State :=
  match state with
  | .between => start b
  | .inside bits toCome low high =>
    if low ≤ b ∧ b ≤ high then
      let bits := bits * 64 + (b.toNat - 0x80)
      if toCome ≤ 1 then ([Char.ofNat bits], .between)
      else ([], .inside bits (toCome - 1) 0x80 0xBF)
    else
      let (found, state) := start b
      (replacement :: found, state)

/-- The characters of the octets that are left. -/
def decodeFrom : State → Bytes → List Char
  | .between, [] => []
  | .inside .., [] => [replacement]
  | state, b :: rest =>
    let (found, state) := step state b
    found ++ decodeFrom state rest

/-- The text of some octets. -/
def decode (bytes : Bytes) : String := String.ofList (decodeFrom .between bytes)

example : decode [97, 255, 98, 195, 40, 226, 130] = "a\ufffdb\ufffd(\ufffd" := by decide +kernel
example : decode [0xED, 0xA0, 0x80] = "\ufffd\ufffd\ufffd" := by decide +kernel
example : decode [0xF0, 0x9F, 0x98, 0x80] = "😀" := by decide +kernel

end Utf8

end Progeny.Text

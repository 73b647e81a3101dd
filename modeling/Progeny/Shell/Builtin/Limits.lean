import Progeny.Shell.Builtin.Arguments

/-!
# Limits

The command that tells and sets the limits of processes.  Nothing else depends on them.
-/

namespace Progeny.Shell.Builtin

open Host
open Text (Bytes bytesOf)

/-- A limit: its letter, what it is for, and its values, of which the second bounds the first. -/
structure Limit where
  letter : Char
  label : String
  soft : Option Nat
  hard : Option Nat

/-- The limits that processes have from the beginning. -/
def firstLimits : List Limit :=
  [⟨'t', "time(seconds)", none, none⟩, ⟨'f', "file(blocks)", none, none⟩,
   ⟨'d', "data(kbytes)", none, none⟩, ⟨'s', "stack(kbytes)", some 8192, none⟩,
   ⟨'c', "coredump(blocks)", some 0, none⟩, ⟨'m', "memory(kbytes)", none, none⟩,
   ⟨'l', "locked memory(kbytes)", some 8192, some 8192⟩, ⟨'p', "process", some 128620, some 128620⟩,
   ⟨'n', "nofiles", some 20000, some 20000⟩, ⟨'v', "vmemory(kbytes)", none, none⟩,
   ⟨'w', "locks", none, none⟩, ⟨'r', "rtprio", some 0, some 0⟩]

/-- The text of the value of a limit. -/
def Limit.value (limit : Limit) (isHard : Bool) : String :=
  ((if isHard then limit.hard else limit.soft).map Nat.repr).getD "unlimited"

/-- The limits as they are. -/
def limitsOf (s : Session) : List Limit := firstLimits.map fun limit =>
  match s.limits.lookup limit.letter with
  | some (soft, hard) => { limit with soft := soft, hard := hard }
  | none => limit

/-- Tells or sets a limit. -/
def limit (args : List Bytes) : Act Unit := do
  let (found, operands) ← parse "HSatfdscmlpnvwr" args
  Session.setStatus 0
  let letters := found.map (·.1)
  let isHard := letters.filter (fun c => c = 'H' || c = 'S') |>.getLast?.any (· = 'H')
  let limits := limitsOf (← get)
  let chosen := ((letters.filter fun c => c ≠ 'H' && c ≠ 'S').getLast?).getD 'f'
  match operands with
  | [] =>
    if letters.contains 'a' then
      forEach (fun limit => Session.sayLine
        (limit.label.pushn ' ' (20 - limit.label.length) ++ " " ++ limit.value isHard)) limits
    else forEach (fun limit => Session.sayLine (limit.value isHard)) (limits.filter (·.letter = chosen))
  | value :: rest =>
    if letters.contains 'a' || ! rest.isEmpty then Session.fail "too many arguments"
    let new ← if value = bytesOf "unlimited" then pure none
      else match natural? (Text.Utf8.decode value) with
        | some n => pure (some n)
        | none => Session.fail "bad number"
    let both := ! letters.any fun c => c = 'H' || c = 'S'
    forEach (fun limit => modify fun s =>
      let values := (if both || ! isHard then new else limit.soft, if both || isHard then new else limit.hard)
      { s with limits := (chosen, values) :: s.limits.filter (·.1 ≠ chosen) })
      (limits.filter (·.letter = chosen))

end Progeny.Shell.Builtin

import Progeny.Host.Numeral
import Progeny.Host.Options
import Progeny.Sequence.Total

/-!
# Times

Spans of time as tools take them: a number of seconds, or of minutes, hours or days by the letter behind
it.
-/

namespace Progeny.Host.Timing

/-- The number of seconds that a letter stands for. -/
def units : List (Char × Nat) := [('s', 1), ('m', 60), ('h', 3600), ('d', 86400)]

/-- The millionths of a second that a text stands for; those of a number without end are more than any
program runs. -/
def span? (text : String) : Option Nat :=
  match Numeral.float? text.toList with
  | none => none
  | some (x, rest) =>
    let factor : Option Nat := match rest with
      | [] => some 1
      | [c] => units.lookup c
      | _ => none
    if x.isNaN || x < 0 then none
    else factor.map fun n => (Float.ceil (Float.ofNat n * x * 1000000)).toUInt64.toNat

/-- Waits for a span of time. -/
def sleep : Tool := fun call => call.parsing "" [] fun request =>
  let bad := request.operands.filter fun text => (span? text).isNone
  if request.operands.isEmpty then call.misused 1 "missing operand"
  else if bad.isEmpty then
    { call.idle with delay := Sequence.total (fun text => (span? text).getD 0) request.operands }
  else
    let complaints := bad.flatMap fun text => call.complaint ("invalid time interval " ++ quoted text)
    call.telling (complaints ++ line call.hint) [] 1

end Progeny.Host.Timing

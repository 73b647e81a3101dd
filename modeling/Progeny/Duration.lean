/-!
# Durations

A duration is a number of nanoseconds.  It is written in the largest of the units s, ms, µs and ns
of which it holds at least one, with as many decimal places as it needs.
-/

namespace Progeny

/-- A length of time. -/
structure Duration where
  nanoseconds : Nat
  deriving DecidableEq, Repr

namespace Duration

def ofSeconds (n : Nat) : Duration := ⟨1000000000 * n⟩

def ofMilliseconds (n : Nat) : Duration := ⟨1000000 * n⟩

/-- The digits of `n / 10 ^ places` after the point, without zeros at the end. -/
def places : Nat → Nat → List Char
  | 0, _ => []
  | k + 1, n =>
    if n % Nat.pow 10 (k + 1) = 0 then []
    else Nat.digitChar (n / Nat.pow 10 k % 10) :: places k n

/-- `n` of the smallest units, in a unit of `10 ^ k` of them. -/
def inUnit (n k : Nat) (unit : String) : String :=
  let tail := places k n
  (n / Nat.pow 10 k).repr ++ (if tail.isEmpty then "" else "." ++ String.ofList tail) ++ unit

/-- The text of a duration. -/
def render (d : Duration) : String :=
  let n := d.nanoseconds
  if 1000000000 ≤ n then inUnit n 9 "s"
  else if 1000000 ≤ n then inUnit n 6 "ms"
  else if 1000 ≤ n then inUnit n 3 "µs"
  else inUnit n 0 "ns"

example : (ofMilliseconds 30).render = "30ms" := by decide +kernel
example : (ofMilliseconds 1500).render = "1.5s" := by decide +kernel
example : (ofSeconds 0).render = "0ns" := by decide +kernel

end Duration

end Progeny

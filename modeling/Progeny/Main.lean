import Progeny.CommandLine.Session
import Progeny.Host.Platform

/-!
# The program

Carries out the command line that it is called with.
-/

open Progeny CommandLine

/-- The text of a file, if it can be read. -/
def readText (path : String) : IO (Option String) := do
  try return some (← IO.FS.readFile ⟨path⟩)
  catch _ => return none

/-- The world outside; `start` is when the program was started, in nanoseconds. -/
def outside (start : Nat) : World IO where
  readFile := readText
  freshSeed := return (← IO.rand 0 (Nat.pow 2 64 - 1)).toUInt64
  elapsed := return ⟨(← IO.monoNanosNow) - start⟩
  compiler config := (ExternalCompiler.ofConfig config).toCompiler? Host.platform Host.initialFiles

def main (arguments : List String) : IO UInt32 := do
  let answer ← respond (outside (← IO.monoNanosNow)) arguments
  if let some text := answer.output then IO.println text
  if let some e := answer.error then IO.eprintln ("Error: " ++ e.message)
  return answer.exitCode.toUInt32

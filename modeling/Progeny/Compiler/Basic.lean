import Progeny.Duration

/-!
# Compilers

A compiler turns the text of a program into a diagnostic, or fails to run to its end.
-/

namespace Progeny

/-- Why a program could not be compiled. -/
inductive CompileError where
  /-- The source could not be written; `detail` says why. -/
  | scratchFile (detail : String)
  /-- The compiler could not be started; `detail` says why. -/
  | launch (program detail : String)
  /-- The compiler was still running when its time was over. -/
  | timeout (limit : Duration)
  /-- The diagnostic could not be read; `detail` says why. -/
  | diagnosticRead (detail : String)
  deriving DecidableEq, Repr

namespace CompileError

/-- The text of the error. -/
def message : CompileError → String
  | .scratchFile detail => "failed to write scratch source: " ++ detail
  | .launch program detail => "failed to launch compiler \x60" ++ program ++ "\x60: " ++ detail
  | .timeout limit => "compiler exceeded timeout of " ++ limit.render
  | .diagnosticRead detail => "failed to read compiler diagnostics: " ++ detail

end CompileError

/-- A compiler: the diagnostic for each source text. -/
abbrev Compiler := String → Except CompileError String

/-- The settings of a compiler that is a program of its own. -/
structure CompilerConfig where
  /-- The name of the program. -/
  program : String := "gcc"
  /-- The arguments before the path of the source. -/
  args : List String := ["-pipe"]
  /-- The name of the source file. -/
  fileName : String := "main.cpp"
  /-- The time that one compilation may take, in seconds. -/
  timeoutSecs : Nat := 10
  /-- Where scratch directories are made; the system's own place if there is none. -/
  scratchRoot : Option String := none
  deriving DecidableEq, Repr

end Progeny

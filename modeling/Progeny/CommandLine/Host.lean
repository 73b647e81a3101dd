import Progeny.CommandLine.Session
import Progeny.Host.Platform

/-!
# Command lines on a host

The world of a command line whose files are those of a host and whose clock stands still.
-/

namespace Progeny.CommandLine

open Host

/-- The world of a host. -/
def World.onHost (files : FileTree) (seed : UInt64) (elapsed : Duration) : World Id where
  readFile name := (files.read temporary name).toOption.map Text.Utf8.decode
  freshSeed := seed
  elapsed := elapsed
  compiler config := (ExternalCompiler.ofConfig config).toCompiler? platform files

end Progeny.CommandLine

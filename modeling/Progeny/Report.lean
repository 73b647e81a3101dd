import Progeny.Decimal.Fixed
import Progeny.Evolution.Run
import Progeny.Json.Value

/-!
# Run reports

What is printed about a finished run: a text for people, or one JSON object for other programs.
-/

namespace Progeny

/-- The form of a report. -/
inductive ReportFormat where
  | text
  | json
  deriving DecidableEq, Repr

/-- The forms and their names. -/
def ReportFormat.names : List (String × ReportFormat) := [("text", text), ("json", json)]

/-- The statistics of a generation as JSON. -/
def GenerationStats.toJson (stats : GenerationStats) : Json.Value :=
  .object
    [("generation", .whole stats.generation),
     ("best_score", .real stats.scores.best),
     ("mean_score", .real stats.scores.mean),
     ("worst_score", .real stats.scores.worst),
     ("score_std", .real stats.scores.deviation),
     ("evaluation_failures", .whole stats.failures)]

/-- A finished run and the time that it took. -/
structure Report where
  outcome : Outcome
  elapsed : Duration
  deriving DecidableEq

namespace Report

/-- The elapsed time in seconds. -/
def seconds (report : Report) : Float := report.elapsed.nanoseconds.toFloat / 1000000000.0

/-- The report for people. -/
def toText (report : Report) : String :=
  let best := report.outcome.best
  "Score = " ++ Decimal.fixed 2 best.score.value ++ "\n" ++
  "Errors:\n " ++ best.diagnostic ++ "\n" ++
  "Program:\n" ++ best.render ++ "\n" ++
  "Seed: " ++ report.outcome.seed.toNat.repr ++ "\n" ++
  "Finished in " ++ Decimal.fixed 3 report.seconds ++ " seconds"

/-- The report for other programs. -/
def toJson (report : Report) : Json.Value :=
  let best := report.outcome.best
  .object
    [("score", .real best.score.value),
     ("diagnostic", .text best.diagnostic),
     ("program", .text best.render),
     ("seed", .whole report.outcome.seed.toNat),
     ("best_generation", .whole report.outcome.bestGeneration),
     ("generations", .listOf GenerationStats.toJson report.outcome.generations),
     ("elapsed_seconds", .real report.seconds)]

/-- The report in the given form. -/
def render (report : Report) : ReportFormat → String
  | .text => report.toText
  | .json => report.toJson.render

end Report

end Progeny

import NeighborBench.Report.Summary

/-! # The report of a test -/

namespace NeighborBench

structure Report where
  testName : String
  testId : String
  startedAt : String
  finishedAt : String
  numRuns : Nat
  steps : List StepSummary
  /-- The results of every run, if the test asks for them. -/
  runs : Option (List (List StepResult))

namespace Report

def toJson (r : Report) : Json :=
  let runs := match r.runs with
    | none => []
    | some runs => [("runs", .array (runs.map fun run => .array (run.map (·.toJson))))]
  .object ([("test_name", .string r.testName), ("test_id", .string r.testId),
    ("started_at", .string r.startedAt), ("finished_at", .string r.finishedAt),
    ("num_runs", .int r.numRuns), ("steps", .array (r.steps.map (·.toJson)))] ++ runs)

def text (r : Report) : String := r.toJson.prettyText

end Report

end NeighborBench

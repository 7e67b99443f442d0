import NeighborBench.Fingerprint
import NeighborBench.Measure
import NeighborBench.Report.Statistics
import NeighborBench.Step.Config

/-! # What the runs of a test have in common

Steps are matched by their place in the list. A measure that is a series in any run is summed up over
all trials of all runs; otherwise it is averaged over the runs.
-/

namespace NeighborBench

inductive MeasureSummary (α : Type := Float) where
  | series (stats : SeriesStats α)
  | scalar (mean : α)

structure StepSummary (α : Type := Float) where
  label : String
  configHash : String
  measures : List (String × MeasureSummary α)

namespace MeasureSummary

variable {α : Type}

def seriesOf : List (Measure α) → List (List α)
  | [] => []
  | .series values :: rest => values :: seriesOf rest
  | .scalar _ :: rest => seriesOf rest

def scalarsOf : List (Measure α) → List α
  | [] => []
  | .series _ :: rest => scalarsOf rest
  | .scalar value :: rest => value :: scalarsOf rest

def ofMeasures [Double α] (measures : List (Measure α)) : MeasureSummary α :=
  match seriesOf measures with
  | [] =>
    let values := scalarsOf measures
    scalar (Statistics.sum values / Double.ofNat (max 1 values.length))
  | found => series (SeriesStats.ofValues found.flatten)

def toJson : MeasureSummary → Json
  | series stats => stats.toJson
  | scalar mean => .object [("mean", .float mean)]

end MeasureSummary

namespace StepSummary

/-- Every value of every measure, under the name of the measure. -/
def collect {α : Type} (results : List (StepResult α)) : List (String × List (Measure α)) :=
  (results.flatMap (·.measures)).foldl (fun all (name, measure) => Keyed.collect name measure all) []

def ofResults {α : Type} [Double α] (config : StepConfig) (results : List (StepResult α)) :
    StepSummary α where
  label := (results.getLast?.map (·.label)).getD config.stepName
  configHash := config.effective.fingerprint
  measures := (collect results).map fun (name, found) => (name, .ofMeasures found)

def toJson (s : StepSummary) : Json :=
  .object [("label", .string s.label), ("config_hash", .string s.configHash),
    ("measures", .object (s.measures.map fun (name, m) => (name, m.toJson)))]

end StepSummary

/-- One summary for each step of the list; a run may be shorter than the list. -/
def summarize {α : Type} [Double α] (configs : List StepConfig) (runs : List (List (StepResult α))) :
    List (StepSummary α) :=
  configs.mapIdx fun i config => .ofResults config (runs.filterMap (·[i]?))

end NeighborBench

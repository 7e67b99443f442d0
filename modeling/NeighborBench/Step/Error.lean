import NeighborBench.Dataset.Basic
import NeighborBench.Json.Printer
import NeighborBench.Search.Basic
import NeighborBench.Step.Status

/-! # Why a step cannot be built or fails -/

namespace NeighborBench

/-! ## Faults of a configuration -/

inductive ConfigPart where
  | own
  | implicit
  deriving DecidableEq, Repr

def ConfigPart.name : ConfigPart → String
  | own => "config"
  | implicit => "implicit config"

inductive ValueType where
  | string
  | integer
  | boolean
  deriving DecidableEq, Repr

def ValueType.name : ValueType → String
  | string => "string"
  | integer => "integer"
  | boolean => "boolean"

inductive ConfigFault where
  | notMapping (part : ConfigPart) (step : String) (got : Json)
  | wrongType (key step : String) (expected : ValueType) (got : Json)
  | missing (key step : String)
  | portOutOfRange (step : String) (port : Int)
  | notPositive (key step : String) (value : Int)
  | negativeCount (step : String) (value : Int)
  | noNeighbors (step : String)
  | noClient (step reason : String)
  | unknownKind (label : String)
  | repeatedKind (label : String)
  | dataset (error : DatasetError)
  | other (text : String)

def ConfigFault.message : ConfigFault → String
  | notMapping part step got =>
    s!"{part.name} for step `{step}` must be a mapping, got {got.text}"
  | wrongType key step expected got =>
    s!"invalid type for `{key}` in step `{step}`: expected {expected.name}, got {got.text}"
  | missing key step => s!"`{key}` must be set for step `{step}`"
  | portOutOfRange step port => s!"`port` out of range for step `{step}`: {port}"
  | notPositive key step value => s!"`{key}` must be positive for step `{step}`, got {value}"
  | negativeCount step value => s!"`query_count` must be >= 0 for step `{step}`, got {value}"
  | noNeighbors step =>
    s!"`neighbors_path` must be set for step `{step}` when `calculate_recall` is true"
  | noClient step reason => s!"cannot build search client for step `{step}`: {reason}"
  | unknownKind label => s!"invalid step `{label}`"
  | repeatedKind label => s!"step kind `{label}` is already registered"
  | dataset error => error.message
  | other text => text

/-! ## Errors of a step -/

inductive StepError where
  | configuration (fault : ConfigFault)
  | transport (trial : Nat) (fault : SearchFault)
  | degenerateRecall
  | dataset (error : DatasetError)
  | status (current next : Status)
  | missingMeasure (label measure : String)
  /-- No list can be reserved for so many entries. The program ends itself there, and nobody sees what
  it leaves inside. -/
  | noRoom (entries : Nat)

namespace StepError

/-- A format that nobody reads is a fault of the configuration; other errors stay with the data. -/
def ofDataset : DatasetError → StepError
  | .unsupportedFormat name => configuration (.dataset (.unsupportedFormat name))
  | .featureDisabled name => configuration (.dataset (.featureDisabled name))
  | error => dataset error

def message : StepError → String
  | configuration fault => s!"configuration error: {fault.message}"
  | transport trial fault => s!"transport error at trial {trial}: {fault.message}"
  | degenerateRecall => "recall is undefined: no query has true neighbors within k"
  | dataset error => s!"dataset error: {error.message}"
  | status current next => s!"invalid step status transition {current.name} -> {next.name}"
  | missingMeasure label measure => s!"step `{label}` did not produce measure `{measure}`"
  | noRoom _ => "capacity overflow"

def diagnostic : StepError → String
  | configuration fault => s!"Configuration({Text.quoted fault.message})"
  | transport trial fault => s!"Transport \x7b trial: {trial}, source: {fault.diagnostic} \x7d"
  | degenerateRecall => "DegenerateRecall"
  | dataset error => s!"Dataset({error.diagnostic})"
  | status current next => s!"Status \x7b from: {current.name}, to: {next.name} \x7d"
  | missingMeasure label measure =>
    s!"MissingMeasure \x7b label: {Text.quoted label}, measure: {Text.quoted measure} \x7d"
  | noRoom entries => s!"NoRoom \x7b entries: {entries} \x7d"

/-- Whether the program ends itself instead of answering. -/
def endsProgram : StepError → Bool
  | noRoom _ => true
  | dataset (.countTooLarge ..) => true
  | _ => false

end StepError

/-- How many entries of so many bytes a list can be reserved for at once, if there is memory enough. -/
def roomFor (bytes : Nat) : Nat := 0x7FFF_FFFF_FFFF_FFFF / bytes

end NeighborBench

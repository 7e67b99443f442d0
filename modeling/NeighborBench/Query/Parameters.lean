import NeighborBench.Dataset.Source
import NeighborBench.Step.Config

/-! # Parameters of a query step -/

namespace NeighborBench

/-! ## What holds for keys that are left out -/

namespace Defaults

def endpoint : String := "localhost"

def localPort : Int := 9200

def remotePort : Int := 80

def port (host : String) : Int := if host = endpoint then localPort else remotePort

/-- In seconds. -/
def timeout : Int := 60

def k : Int := 100

def r : Int := 1

def datasetFormat : String := hdf5Format

end Defaults

/-! ## Parameters -/

structure QueryParameters where
  connection : Connection
  /-- Neighbours asked for. -/
  k : Nat
  /-- Neighbours that the second recall looks at. -/
  r : Nat
  indexName : String
  fieldName : String
  calculateRecall : Bool
  queries : DatasetRef
  neighborsFormat : String
  neighborsPath : Option String

namespace QueryParameters

def portLimit : Int := 65535

/-- Resolves keys one after another; the first that is wrong is the error. -/
def ofConfig (c : StepConfig) : Except StepError QueryParameters := do
  let endpoint ← c.string "endpoint" (some Defaults.endpoint)
  let port ← c.int "port" (some (Defaults.port endpoint))
  if port < 0 || portLimit < port then
    throw (.configuration (.portOutOfRange c.stepName port))
  let timeout ← c.positive "timeout" Defaults.timeout
  let k ← c.positive "k" Defaults.k
  let r ← c.positive "r" Defaults.r
  let indexName ← c.string "index_name" none
  let fieldName ← c.string "field_name" none
  let calculateRecall ← c.bool "calculate_recall" (some false)
  let format ← c.string "dataset_format" (some Defaults.datasetFormat)
  let path ← c.string "dataset_path" none
  let neighborsFormat ← c.string "neighbors_format" (some Defaults.datasetFormat)
  let neighborsPath ← c.optionalString "neighbors_path"
  pure {
    connection := ⟨endpoint, port.toNat, timeout⟩
    k, r, indexName, fieldName, calculateRecall
    queries := ⟨format, path, .query⟩
    neighborsFormat, neighborsPath }

/-- How many queries to send to a dataset of a size: all of them unless fewer are asked for. -/
def queryCount (c : StepConfig) (size : Nat) : Except StepError Nat := do
  let all : Int := min size 0x7FFF_FFFF_FFFF_FFFF
  let requested ← c.int "query_count" (some all)
  if requested < 0 then throw (.configuration (.negativeCount c.stepName requested))
  else pure (min requested.toNat size)

end QueryParameters

end NeighborBench

import NeighborBench.Json.Basic
import NeighborBench.Text.Blank
import NeighborBench.Text.Integer

/-! # What the environment says of connections -/

namespace NeighborBench

/-- Where to connect unless something nearer to a step says otherwise. -/
structure ConnectionDefaults where
  endpoint : Option String := none
  port : Option Nat := none
  deriving DecidableEq, Repr

namespace ConnectionDefaults

def endpointVariable : String := "KNNPERF_ENDPOINT"

def portVariable : String := "KNNPERF_PORT"

/-- Blanks around a value do not count. An empty endpoint counts as absent, and so does a port that
is none. -/
def ofLookup (lookup : String → Option String) : ConnectionDefaults where
  endpoint := ((lookup endpointVariable).map Text.trim).filter (· ≠ "")
  port := ((lookup portVariable).map Text.trim).bind Text.readPort?

/-- What `upper` leaves open, `lower` says. -/
def orElse (upper lower : ConnectionDefaults) : ConnectionDefaults where
  endpoint := upper.endpoint.or lower.endpoint
  port := upper.port.or lower.port

/-- The values as parameters of a step. -/
def implicit (d : ConnectionDefaults) : Fields :=
  d.endpoint.toList.map (fun e => ("endpoint", .string e)) ++
    d.port.toList.map fun p => ("port", .int p)

end ConnectionDefaults

end NeighborBench

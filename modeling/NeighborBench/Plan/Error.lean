import NeighborBench.Step.Error
import NeighborBench.Yaml.Fault

/-! # Why a test cannot run or fails -/

namespace NeighborBench

/-- The two lists of steps in a test. -/
inductive Part where
  | setup
  | steps
  deriving DecidableEq, Repr

def Part.name : Part → String
  | setup => "setup"
  | steps => "steps"

inductive PlanFault where
  | noRuns (test : String)
  | noSteps (test : String)
  | unnamed (part : Part) (index : Nat)
  deriving DecidableEq, Repr

def PlanFault.message : PlanFault → String
  | noRuns test => s!"test `{test}`: num_runs must be >= 1"
  | noSteps test => s!"test `{test}` has no steps"
  | unnamed part index => s!"{part.name}[{index}] needs a string `name`"

inductive TestError where
  | file (fault : FileFault)
  | yaml (fault : Yaml.Fault)
  | plan (fault : PlanFault)
  | step (error : StepError)

namespace TestError

def message : TestError → String
  | file fault => s!"io error: {fault.message}"
  | yaml fault => s!"invalid test file: {fault.message}"
  | plan fault => s!"invalid test configuration: {fault.message}"
  | step error => error.message

def diagnostic : TestError → String
  | file fault => s!"Io({fault.diagnostic})"
  | yaml fault => s!"Yaml(Error({Text.quoted fault.message}))"
  | plan fault => s!"Config({Text.quoted fault.message})"
  | step error => s!"Step({error.diagnostic})"

end TestError

end NeighborBench

import NeighborBench.Environment
import NeighborBench.Plan.Error
import NeighborBench.Step.Config

/-! # Tests

A test has steps that are run once before it, and steps that are run and measured a number of times.
-/

namespace NeighborBench

structure TestPlan where
  connection : ConnectionDefaults
  name : String
  id : Option String
  runs : Nat
  /-- The report also holds the results of each run. -/
  showsRuns : Bool
  setup : List Fields
  steps : List Fields

namespace TestPlan

/-- A test has a run and a step. -/
def check (plan : TestPlan) : Except PlanFault TestPlan :=
  if plan.runs = 0 then .error (.noRuns plan.name)
  else if plan.steps.isEmpty then .error (.noSteps plan.name)
  else .ok plan

def entries (plan : TestPlan) : Part → List Fields
  | .setup => plan.setup
  | .steps => plan.steps

/-- What every step of the test takes as said: the test's own connection before the environment's. -/
def implicit (plan : TestPlan) (environment : ConnectionDefaults) : Fields :=
  (plan.connection.orElse environment).implicit

def nameKey : String := "name"

/-- An entry as the configuration of a step: its name says which kind of step it is. -/
def stepConfig (implicit : Fields) (entry : Fields) : Option StepConfig :=
  match Keyed.get? nameKey entry with
  | some (.string name) => some ⟨name, Keyed.erase nameKey entry, implicit⟩
  | _ => none

/-- Entries from a place on; the first without a name is the error. -/
def namedFrom (part : Part) (implicit : Fields) (i : Nat) :
    List Fields → Except PlanFault (List StepConfig)
  | [] => .ok []
  | entry :: rest =>
    match stepConfig implicit entry with
    | none => .error (.unnamed part i)
    | some config => (config :: ·) <$> namedFrom part implicit (i + 1) rest

def stepConfigs (plan : TestPlan) (environment : ConnectionDefaults) (part : Part) :
    Except PlanFault (List StepConfig) :=
  namedFrom part (plan.implicit environment) 0 (plan.entries part)

end TestPlan

end NeighborBench

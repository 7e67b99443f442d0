import NeighborBench.Engine
import NeighborBench.Plan.Basic
import NeighborBench.Report.Basic

/-! # Running a test

Every name is checked first. Then the setup runs once and its results are dropped, and the steps run
as often as the test asks, built anew each time.
-/

namespace NeighborBench

/-- What marks a report as one of its kind. -/
structure Marks (m : Type → Type) where
  freshId : m String
  now : m String

namespace Registry

variable {m : Type → Type} [Monad m] {σ : Type} [StepKind m σ]

def checkKinds (r : Registry m σ) (configs : List StepConfig) : Except StepError Unit :=
  match configs.find? fun c => !r.contains c.stepName with
  | some unknown => .error (.configuration (.unknownKind unknown.stepName))
  | none => .ok ()

/-- Runs a list so many times, and stops at the first run that fails. All steps come back as they
were left. -/
def runTimes (r : Registry m σ) (configs : List StepConfig) :
    Nat → m (Except StepError (List (List StepResult)) × List (Step σ))
  | 0 => pure (.ok [], [])
  | n + 1 => do
    match ← r.run configs with
    | (.error e, left) => pure (.error e, left)
    | (.ok results, left) =>
      let (rest, more) ← r.runTimes configs n
      pure (rest.map (results :: ·), left ++ more)

/-- What a run takes of the memory that is reserved for the results of all of them. -/
def runBytes : Nat := 24

/-- The setup, which may be empty, and then the runs, once there is room for the results of as many. -/
def runPlan (r : Registry m σ) (setup steps : List StepConfig) (runs : Nat) :
    m (Except StepError (List (List StepResult)) × List (Step σ)) := do
  match ← r.run setup with
  | (.error e, left) => pure (.error e, left)
  | (.ok _, left) =>
    if roomFor runBytes < runs then pure (.error (.noRoom runs), left)
    else
      let (outcome, more) ← r.runTimes steps runs
      pure (outcome, left ++ more)

end Registry

namespace TestPlan

/-- The configurations of setup and steps, once every step is known to have a name. -/
def configs (plan : TestPlan) (environment : ConnectionDefaults) :
    Except TestError (List StepConfig × List StepConfig) := do
  let setup ← (plan.stepConfigs environment .setup).mapError .plan
  let steps ← (plan.stepConfigs environment .steps).mapError .plan
  pure (setup, steps)

variable {m : Type → Type} [Monad m] {σ : Type} [StepKind m σ]

/-- The report of a test, or the first error, and all steps as they were left. -/
def run (plan : TestPlan) (registry : Registry m σ) (environment : ConnectionDefaults)
    (marks : Marks m) : m (Except TestError Report × List (Step σ)) :=
  match plan.configs environment with
  | .error e => pure (.error e, [])
  | .ok (setup, steps) =>
    match registry.checkKinds (setup ++ steps) with
    | .error e => pure (.error (.step e), [])
    | .ok () => do
      let testId ← match plan.id with
        | some id => pure id
        | none => marks.freshId
      let startedAt ← marks.now
      let (outcome, left) ← registry.runPlan setup steps plan.runs
      match outcome with
      | .error e => pure (.error (.step e), left)
      | .ok runs =>
        let finishedAt ← marks.now
        let report : Report := {
          testName := plan.name
          testId, startedAt, finishedAt
          numRuns := plan.runs
          steps := summarize steps runs
          runs := if plan.showsRuns then some runs else none }
        pure (.ok report, left)

end TestPlan

end NeighborBench

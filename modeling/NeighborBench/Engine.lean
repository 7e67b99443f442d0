import NeighborBench.Registry

/-! # Running a list of steps

All steps are built before the first one runs, and a failure ends the list.
-/

namespace NeighborBench.Registry

variable {m : Type → Type} [Monad m] {σ : Type}

def build (r : Registry m σ) : List StepConfig → m (Except StepError (List (Step σ)))
  | [] => pure (.ok [])
  | config :: rest => do
    match ← r.create config with
    | .error e => pure (.error e)
    | .ok step =>
      let steps ← r.build rest
      pure (steps.map (step :: ·))

variable [StepKind m σ]

/-- Runs steps in order; answers the results, or the first error, and the steps as they were left. -/
def runSteps : List (Step σ) → m (Except StepError (List StepResult) × List (Step σ))
  | [] => pure (.ok [], [])
  | step :: rest => do
    let (outcome, step) ← step.execute (m := m)
    match outcome with
    | .error e => pure (.error e, step :: rest)
    | .ok result =>
      let (outcome, rest) ← runSteps rest
      pure (outcome.map (result :: ·), step :: rest)

def run (r : Registry m σ) (configs : List StepConfig) :
    m (Except StepError (List StepResult) × List (Step σ)) := do
  match ← r.build configs with
  | .error e => pure (.error e, [])
  | .ok steps => runSteps steps

end NeighborBench.Registry

import NeighborBench.Measure
import NeighborBench.Step.Error

/-! # Running a step

A step runs once. It ends completed if its action answers every measure that it declares, and failed
otherwise.
-/

namespace NeighborBench

def Status.advance (current next : Status) : Except StepError Status :=
  if current.canBecome next then .ok next else .error (.status current next)

/-- A kind of step: what it is called, which measures it promises, and the work that makes them. The
work may change the step, but its status is not the work's to write. -/
class StepKind (m : Type → Type) (σ : Type) where
  label : σ → String
  declared : σ → List String
  action : σ → m (Except StepError Measures × σ)

structure Step (σ : Type) where
  body : σ
  status : Status := .initialized

/-- The measures, if no declared one is missing; the first that is missing is the error. -/
def checkMeasures (label : String) (declared : List String) (measures : Measures) :
    Except StepError Measures :=
  match declared.find? fun name => (Keyed.get? name measures).isNone with
  | some name => .error (.missingMeasure label name)
  | none => .ok measures

namespace Step

/-- Moves a step that is running to its last status. The answer stands only if it can be moved. -/
def close {σ : Type} (step : Step σ) (next : Status) (answer : Except StepError StepResult) :
    Except StepError StepResult × Step σ :=
  match step.status.advance next with
  | .error e => (.error e, step)
  | .ok status => (answer, { step with status })

variable {m : Type → Type} [Monad m] {σ : Type} [StepKind m σ]

def execute (step : Step σ) : m (Except StepError StepResult × Step σ) :=
  match step.status.advance .running with
  | .error e => pure (.error e, step)
  | .ok current => do
    let (outcome, body) ← StepKind.action (m := m) step.body
    let label := StepKind.label m body
    match outcome.bind (checkMeasures label (StepKind.declared m body)) with
    | .ok measures => pure (close ⟨body, current⟩ .completed (.ok ⟨label, measures⟩))
    | .error e => pure (close ⟨body, current⟩ .failed (.error e))

/-- A step that is running may end either way, so its own answer always stands. -/
theorem execute_eq (step : Step σ) :
    step.execute (m := m) =
      match step.status.advance .running with
      | .error e => pure (.error e, step)
      | .ok _ => (do
        let (outcome, body) ← StepKind.action (m := m) step.body
        let label := StepKind.label m body
        match outcome.bind (checkMeasures label (StepKind.declared m body)) with
        | .ok measures => pure (.ok ⟨label, measures⟩, ⟨body, .completed⟩)
        | .error e => pure (.error e, ⟨body, .failed⟩)) := by
  unfold execute
  cases hadvance : step.status.advance .running with
  | error e => rfl
  | ok current =>
    have hcurrent : current = .running := by
      unfold Status.advance at hadvance
      split at hadvance <;> simp_all
    rw [hcurrent]
    rfl

end Step

/-- Steps of two kinds side by side. -/
instance {m : Type → Type} [Monad m] {σ τ : Type} [StepKind m σ] [StepKind m τ] :
    StepKind m (σ ⊕ τ) where
  label
    | .inl s => StepKind.label m s
    | .inr t => StepKind.label m t
  declared
    | .inl s => StepKind.declared m s
    | .inr t => StepKind.declared m t
  action
    | .inl s => do
      let (outcome, s) ← StepKind.action s
      pure (outcome, .inl s)
    | .inr t => do
      let (outcome, t) ← StepKind.action t
      pure (outcome, .inr t)

end NeighborBench

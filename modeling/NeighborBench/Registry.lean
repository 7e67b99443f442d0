import NeighborBench.Step.Config
import NeighborBench.Step.Lifecycle

/-! # Kinds of steps by label -/

namespace NeighborBench

/-- What builds a step. It hands the step over in any status. -/
abbrev Constructor (m : Type → Type) (σ : Type) := StepConfig → m (Except StepError (Step σ))

/-- Constructors in increasing order of their labels. -/
structure Registry (m : Type → Type) (σ : Type) where
  kinds : List (String × Constructor m σ) := []

namespace Registry

variable {m : Type → Type} {σ : Type}

def contains (r : Registry m σ) (label : String) : Bool := (Keyed.get? label r.kinds).isSome

def labels (r : Registry m σ) : List String := Keyed.keys r.kinds

/-- A label belongs to the first constructor that takes it. -/
def register (r : Registry m σ) (label : String) (build : Constructor m σ) :
    Except StepError (Registry m σ) :=
  if r.contains label then .error (.configuration (.repeatedKind label))
  else .ok ⟨Keyed.insert label build r.kinds⟩

variable [Monad m]

def create (r : Registry m σ) (config : StepConfig) : m (Except StepError (Step σ)) :=
  match Keyed.get? config.stepName r.kinds with
  | none => pure (.error (.configuration (.unknownKind config.stepName)))
  | some build => build config

def diagnostic (r : Registry m σ) : String :=
  let labels := ", ".intercalate (r.labels.map Text.quoted)
  s!"StepRegistry \x7b labels: [{labels}] \x7d"

end Registry

end NeighborBench

import NeighborBench.Dataset.Memory
import NeighborBench.Proofs.Plan.Lists
import NeighborBench.Proofs.Query.Building
import NeighborBench.Proofs.Query.Faults
import NeighborBench.Proofs.Text.Integer

/-! # Where a step of a test connects to

What a step says of its connection stands over what the test says, and that over the environment.
The layers are asked for each key by itself; only the port that is left to the end depends on the
endpoint.
-/

namespace NeighborBench

/-! ## Layers -/

namespace TestPlan

/-- An entry says nothing at a key that it lacks or that is null. -/
def Silent (entry : Fields) (key : String) : Prop :=
  Keyed.get? key entry = none ∨ Keyed.get? key entry = some .null

section

variable (lookup : String → Option String) (plan : TestPlan) (entry : Fields)

end

end TestPlan

/-! ## The environment -/

namespace ConnectionDefaults

variable (lookup : String → Option String)

end ConnectionDefaults

/-! ## Looking up in an entry -/

namespace StepConfig

theorem present?_eq_some_iff (fields : Fields) (key : String) (value : Json) :
    present? fields key = some value ↔ Keyed.get? key fields = some value ∧ value ≠ .null := by
  have hnull : value.isNull = false ↔ value ≠ .null := by cases value <;> simp [Json.isNull]
  simp [present?, Option.filter_eq_some_iff, hnull]

theorem present?_eq_none_iff (fields : Fields) (key : String) :
    present? fields key = none ↔ TestPlan.Silent fields key := by
  unfold TestPlan.Silent present?
  rcases Keyed.get? key fields with _ | value
  · simp
  · cases value <;> simp [Option.filter, Json.isNull]

end StepConfig

namespace TestPlan

section

variable (lookup : String → Option String) (plan : TestPlan) (entry : Fields) (name : String)

end

end TestPlan

/-! ## Parameters that cannot be resolved -/

namespace StepConfig

variable (c : StepConfig) (key : String)

end StepConfig

namespace TestPlan

section

variable (lookup : String → Option String) (plan : TestPlan) (entry : Fields) (name : String)

end

end TestPlan

end NeighborBench

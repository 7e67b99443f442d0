import NeighborBench.Step.Error

/-! # Parameters of a step

A parameter is looked up among the step's own values first and among the implicit ones after that. A
null counts as absent.
-/

namespace NeighborBench

structure StepConfig where
  stepName : String
  config : Fields := []
  implicit : Fields := []

namespace StepConfig

def fieldsOf (part : ConfigPart) (step : String) : Json → Except StepError Fields
  | .object fields => .ok fields
  | .null => .ok []
  | got => .error (.configuration (.notMapping part step got))

def ofJson (step : String) (config implicit : Json) : Except StepError StepConfig := do
  let config ← fieldsOf .own step config
  let implicit ← fieldsOf .implicit step implicit
  pure ⟨step, config, implicit⟩

/-- Both layers as one object, the step's own values on top. -/
def effective (c : StepConfig) : Json := Json.merge (.object c.implicit) (.object c.config)

def present? (fields : Fields) (key : String) : Option Json :=
  (Keyed.get? key fields).filter fun value => !value.isNull

def lookup (c : StepConfig) (key : String) : Option Json :=
  match present? c.config key with
  | some value => some value
  | none => present? c.implicit key

def resolve {α : Type} (c : StepConfig) (key : String) (expected : ValueType) (default : Option α)
    (convert : Json → Option α) : Except StepError α :=
  match c.lookup key with
  | some got =>
    match convert got with
    | some value => .ok value
    | none => .error (.configuration (.wrongType key c.stepName expected got))
  | none =>
    match default with
    | some value => .ok value
    | none => .error (.configuration (.missing key c.stepName))

def string (c : StepConfig) (key : String) (default : Option String) : Except StepError String :=
  c.resolve key .string default Json.asString?

def int (c : StepConfig) (key : String) (default : Option Int) : Except StepError Int :=
  c.resolve key .integer default Json.asInt?

def bool (c : StepConfig) (key : String) (default : Option Bool) : Except StepError Bool :=
  c.resolve key .boolean default Json.asBool?

def optionalString (c : StepConfig) (key : String) : Except StepError (Option String) :=
  match c.lookup key with
  | some _ => some <$> c.string key none
  | none => .ok none

def positive (c : StepConfig) (key : String) (default : Int) : Except StepError Nat := do
  let value ← c.int key (some default)
  if 0 < value then pure value.toNat
  else throw (.configuration (.notPositive key c.stepName value))

end StepConfig

end NeighborBench

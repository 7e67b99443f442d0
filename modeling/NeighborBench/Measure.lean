import NeighborBench.Json.Printer
import NeighborBench.Json.Tree

/-! # What a step measures -/

namespace NeighborBench

inductive Measure (α : Type := Float) where
  | series (values : List α)
  | scalar (value : α)

namespace Measure

def isSeries {α : Type} : Measure α → Bool
  | series _ => true
  | scalar _ => false

def toJson : Measure → Json
  | series values => .array (values.map .float)
  | scalar value => .float value

/-- Any number is a scalar; an array of numbers is a series. -/
def ofTree? : Json.Tree → Option Measure
  | .array items => (items.mapM Json.Tree.asFloat?).map series
  | tree => tree.asFloat?.map scalar

end Measure

/-- Measures in the order in which their names first came. -/
abbrev Measures (α : Type := Float) := List (String × Measure α)

def Measures.toJson (measures : Measures) : Json :=
  .object (measures.map fun (name, measure) => (name, measure.toJson))

def Measures.ofTree? : Json.Tree → Option Measures
  | .object fields => do
    let entries ← fields.mapM fun (name, tree) => do
      let name ← name
      let measure ← Measure.ofTree? tree
      some (name, measure)
    some (entries.foldl (fun measures (name, measure) => Keyed.put name measure measures) [])
  | _ => none

structure StepResult (α : Type := Float) where
  label : String
  measures : Measures α

namespace StepResult

def get? (result : StepResult) (name : String) : Option Measure := Keyed.get? name result.measures

def toJson (result : StepResult) : Json :=
  .object [("label", .string result.label), ("measures", Measures.toJson result.measures)]

def ofTree? (tree : Json.Tree) : Option StepResult := do
  match ← tree.record? ["label", "measures"] with
  | [some label, some measures] =>
    let label ← label.asText?
    let measures ← Measures.ofTree? measures
    some ⟨label, measures⟩
  | _ => none

def ofText? (text : String) : Option StepResult := (Json.Tree.ofText? text).bind ofTree?

end StepResult

end NeighborBench

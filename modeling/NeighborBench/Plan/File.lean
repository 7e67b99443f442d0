import NeighborBench.Plan.Basic
import NeighborBench.Yaml.Value

/-! # Files of tests -/

namespace NeighborBench.TestPlan

open Yaml (Node Reading)

def knownFields : List String :=
  ["endpoint", "port", "test_name", "test_id", "num_runs", "show_runs", "setup", "steps"]

/-- The known fields of a mapping, each of which may come once. -/
def known (found : List (String × Node)) : Except Yaml.Fault (List (String × Node)) :=
  let known := found.filter fun (key, _) => knownFields.contains key
  match known.find? fun (key, _) => 1 < (Keyed.keys known).count key with
  | some (key, _) => .error (.repeatedField key)
  | none => .ok known

def portLimit : Nat := 65535

def runLimit : Nat := 0xFFFF_FFFF_FFFF_FFFF

/-- Values in a step stand below the document, the list and the step. -/
def valueDepth : Nat := Yaml.depthLimit - 3

def readField {α : Type} (fields : List (String × Node)) (name : String) (default : Option α)
    (read : Node → Reading α) : Reading α :=
  match Keyed.get? name fields, default with
  | some node, _ => read node
  | none, some value => pure value
  | none, none => throw (.missingField name)

def readSteps (n : Node) : Reading (List Fields) := do
  let items ← Reading.items n
  items.mapM (Reading.fields valueDepth)

def read : Reading TestPlan := do
  match (← ReaderT.read).root with
  | .mapping _ entries =>
    let found ← entries.mapM fun (key, value) => do
      let key ← Reading.text key
      pure (key, value)
    match known found with
    | .error fault => throw fault
    | .ok fields =>
      let text := Reading.optional Reading.text
      let endpoint ← readField fields "endpoint" (some none) text
      let port ← readField fields "port" (some none) (Reading.optional (Reading.nat portLimit))
      let name ← readField fields "test_name" none Reading.text
      let id ← readField fields "test_id" (some none) text
      let runs ← readField fields "num_runs" (some 1) (Reading.nat runLimit)
      let showsRuns ← readField fields "show_runs" (some false) Reading.bool
      let setup ← readField fields "setup" (some []) readSteps
      let steps ← readField fields "steps" (some []) readSteps
      pure { connection := ⟨endpoint, port⟩, name, id, runs, showsRuns, setup, steps }
  | _ => throw (.wrongType "a mapping")

def ofYaml (text : String) : Except TestError TestPlan := do
  let document ← (Yaml.Document.ofText text).mapError .yaml
  let plan ← (Reading.run read document).mapError .yaml
  plan.check.mapError .plan

def ofEntry (found : Except FileFault Entry) : Except TestError TestPlan := do
  let entry ← found.mapError .file
  let text ← entry.text.mapError .file
  ofYaml text

end NeighborBench.TestPlan

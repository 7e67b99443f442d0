import NeighborBench.Measure
import NeighborBench.Proofs.Json.Printed
import NeighborBench.Proofs.Json.Record

/-! # Results survive their texts

A series is told from a scalar by its brackets, and a name stands once, so the reader finds the label
and the measures where they were. Whether a result comes back as it was is a matter of its numbers
alone: each has to be read back from its own text.
-/

namespace NeighborBench

open Json (ReadsBack)

/-! ## Numbers of a result -/

def Measure.numbers : Measure → List Float
  | series values => values
  | scalar value => [value]

def StepResult.numbers (result : StepResult) : List Float :=
  result.measures.flatMap fun entry => entry.2.numbers

/-! ## Measures -/

theorem Measure.ofTree?_tree_iff (measure : Measure) :
    ofTree? (Json.tree measure.toJson) = some measure ↔ ∀ x ∈ measure.numbers, ReadsBack x := by
  simp only [Json.readsBack_iff_tree]
  cases measure with
  | series values =>
    simp only [toJson, numbers, Json.tree, Json.itemTrees_eq, ofTree?, Option.map_eq_some_iff,
      series.injEq, exists_eq_right, mapM_eq_some_iff, List.forall₂_map_left_iff, List.map_map,
      List.forall₂_same, Function.comp_apply]
  | scalar value =>
    simp only [toJson, numbers, List.forall_mem_singleton]
    unfold Json.tree
    split
    · simp [ofTree?]
    · simp [ofTree?]

/-- One entry for each field, under its name. -/
def Measures.Entries (measures found : Measures) : Prop :=
  List.Forall₂ (fun entry other =>
    entry.1 = other.1 ∧ Measure.ofTree? (Json.tree entry.2.toJson) = some other.2) measures found

theorem Measures.Entries.keys_eq {measures found : Measures} (h : Entries measures found) :
    Keyed.keys measures = Keyed.keys found := by
  induction h with
  | nil => rfl
  | cons hentry _ ih => exact congrArg₂ List.cons hentry.1 ih

theorem Measures.entries_self_iff (measures : Measures) :
    Entries measures measures ↔ ∀ entry ∈ measures, ∀ x ∈ entry.2.numbers, ReadsBack x := by
  unfold Entries
  simp only [List.forall₂_same, true_and, Measure.ofTree?_tree_iff]

theorem Measures.ofTree?_eq_some_iff (measures read : Measures) :
    ofTree? (Json.tree measures.toJson) = some read ↔
      ∃ found, Entries measures found ∧
        found.foldl (fun placed (name, measure) => Keyed.put name measure placed) [] = read := by
  -- Reading takes each field by itself, and then places the entries by their names.
  unfold Entries
  simp only [toJson, Json.tree, Json.fieldTrees_eq, ofTree?, Option.bind_eq_bind,
    Option.bind_eq_some_iff, mapM_eq_some_iff, List.map_map, List.forall₂_map_left_iff,
    Option.some.injEq, Function.comp_apply, exists_eq_left', Prod.ext_iff]
  simp only [and_left_comm, exists_eq_right_right]

theorem Measures.ofTree?_tree_iff (measures : Measures) (distinct : (Keyed.keys measures).Nodup) :
    ofTree? (Json.tree measures.toJson) = some measures ↔
      ∀ entry ∈ measures, ∀ x ∈ entry.2.numbers, ReadsBack x := by
  rw [ofTree?_eq_some_iff, ← entries_self_iff]
  constructor
  · rintro ⟨found, hfound, hplaced⟩
    rw [Keyed.foldl_put_of_nodup found (hfound.keys_eq ▸ distinct)] at hplaced
    rwa [← hplaced] at hfound ⊢
  · intro h
    exact ⟨measures, h, Keyed.foldl_put_of_nodup measures distinct⟩

/-! ## Records in their order -/

theorem Json.Tree.record?_in_order (keyed : List (String × Tree))
    (distinct : (Keyed.keys keyed).Nodup) :
    record? (Keyed.keys keyed) (.object (keyedFields keyed)) =
      some (keyed.map fun field => some field.2) := by
  have hknown : known (Keyed.keys keyed) keyed = keyed := by
    apply List.filter_eq_self.mpr
    intro field hfield
    simpa [Keyed.keys] using ⟨field.2, hfield⟩
  rw [record?_keyed, hknown, if_pos distinct, Keyed.keys, List.map_map]
  congr 1
  apply List.map_congr_left
  intro field hfield
  exact Keyed.get?_of_mem field.1 field.2 keyed distinct hfield

namespace StepResult

theorem ofTree?_tree (result read : StepResult) :
    ofTree? (Json.tree result.toJson) = some read ↔
      result.label = read.label ∧
        Measures.ofTree? (Json.tree result.measures.toJson) = some read.measures := by
  have hrecord := Json.Tree.record?_in_order [("label", .string (some result.label)),
    ("measures", Json.tree result.measures.toJson)] (by simp [Keyed.keys])
  have htree : Json.tree result.toJson = .object (Json.Tree.keyedFields
      [("label", .string (some result.label)), ("measures", Json.tree result.measures.toJson)]) := by
    simp [toJson, Json.tree, Json.fieldTrees_eq, Json.Tree.keyedFields]
  obtain ⟨label, measures⟩ := read
  simp only [Keyed.keys, List.map_cons, List.map_nil] at hrecord
  rw [htree, ofTree?, hrecord]
  simp [Json.Tree.asText?, Option.bind_eq_some_iff, and_comm]

theorem ofTree?_tree_iff (result : StepResult) (distinct : (Keyed.keys result.measures).Nodup) :
    ofTree? (Json.tree result.toJson) = some result ↔ ∀ x ∈ result.numbers, ReadsBack x := by
  rw [ofTree?_tree, Measures.ofTree?_tree_iff result.measures distinct]
  simp only [true_and, numbers, List.mem_flatMap, forall_exists_index, and_imp]
  constructor
  · intro h x entry hentry hx
    exact h entry hentry x hx
  · intro h entry hentry x hx
    exact h x entry hentry hx

/-! ## Main statement -/

/-- The text of a result, on one line or indented, is read as the same result if and only if each of
its numbers is read back from its own text: the same label, and the same measures in their order, each
series as a series and each scalar as a scalar. -/
theorem text_survives_iff (result : StepResult) (distinct : (Keyed.keys result.measures).Nodup) :
    (ofText? result.toJson.text = some result ↔ ∀ x ∈ result.numbers, ReadsBack x) ∧
      (ofText? result.toJson.prettyText = some result ↔ ∀ x ∈ result.numbers, ReadsBack x) := by
  unfold ofText?
  rw [Json.ofText?_text, Json.ofText?_prettyText, Option.bind_some]
  exact ⟨result.ofTree?_tree_iff distinct, result.ofTree?_tree_iff distinct⟩

/-- Names and a label with characters that are escaped, a series without numbers, and numbers of both
signs and many sizes. -/
def variedResult : StepResult where
  label := "query \"né\"\n"
  measures := [("took", .series [12.5, -0.0, 1e300]), ("", .series []), ("recall@K\x01", .scalar 0.5)]

theorem variedResult_survives :
    (Keyed.keys variedResult.measures).Nodup ∧ (∀ x ∈ variedResult.numbers, ReadsBack x) ∧
      ofText? variedResult.toJson.text = some variedResult ∧
      ofText? variedResult.toJson.prettyText = some variedResult := by
  have distinct : (Keyed.keys variedResult.measures).Nodup := by decide
  have numbers : ∀ x ∈ variedResult.numbers, ReadsBack x := by
    simp only [Json.readsBack_iff]
    decide +kernel
  obtain ⟨compact, indented⟩ := text_survives_iff variedResult distinct
  exact ⟨distinct, numbers, compact.mpr numbers, indented.mpr numbers⟩

end StepResult

end NeighborBench

import NeighborBench.Proofs.Plan.Connection

/-! # Values of keys

A key resolves if its value is of the right type, and without a value if it has a default. So whether
it resolves can be said of the two layers in which it is looked up.
-/

namespace NeighborBench

open TestPlan (Silent)

namespace StepConfig

/-- The step's own value of a key, or the implicit one under a key where it says nothing itself. -/
def Says (c : StepConfig) (key : String) (value : Json) : Prop :=
  value ≠ .null ∧ (Keyed.get? key c.config = some value ∨
    Silent c.config key ∧ Keyed.get? key c.implicit = some value)

theorem lookup_eq_some_iff (c : StepConfig) (key : String) (value : Json) :
    c.lookup key = some value ↔ c.Says key value := by
  unfold lookup Says
  cases hown : present? c.config key with
  | some own =>
    have hsaid := (present?_eq_some_iff c.config key own).mp hown
    have hloud : ¬Silent c.config key := by
      rw [← present?_eq_none_iff, hown]
      nofun
    simp only [hsaid.1, hloud, false_and, or_false, Option.some.injEq]
    constructor
    · rintro rfl
      exact ⟨hsaid.2, rfl⟩
    · exact And.right
  | none =>
    have silent := (present?_eq_none_iff c.config key).mp hown
    have hnone : value ≠ .null → Keyed.get? key c.config ≠ some value := by
      intro hne hsaid
      rw [(present?_eq_some_iff c.config key value).mpr ⟨hsaid, hne⟩] at hown
      cases hown
    simp only [present?_eq_some_iff]
    tauto

/-! ## Values of the right type -/

section

variable {α : Type} (c : StepConfig) (key : String) (convert : Json → Option α) (P : α → Prop)

/-- If the key has a value, then one of the right type, of which `P` holds. -/
def Allows : Prop := ∀ value, c.Says key value → ∃ a, convert value = some a ∧ P a

/-- The key has such a value. -/
def Requires : Prop := ∃ value, c.Says key value ∧ ∃ a, convert value = some a ∧ P a

theorem resolve_default_iff (expected : ValueType) (default : α) (hdefault : P default) :
    (∃ a, c.resolve key expected (some default) convert = .ok a ∧ P a) ↔
      c.Allows key convert P := by
  unfold Allows resolve
  simp only [← lookup_eq_some_iff]
  cases c.lookup key with
  | none => simp [hdefault]
  | some got => cases hconvert : convert got <;> simp [hconvert]

theorem resolve_required_iff (expected : ValueType) :
    (∃ a, c.resolve key expected none convert = .ok a ∧ P a) ↔ c.Requires key convert P := by
  unfold Requires resolve
  simp only [← lookup_eq_some_iff]
  cases c.lookup key with
  | none => simp
  | some got => cases hconvert : convert got <;> simp [hconvert]

end

theorem resolve_iff_requires {α : Type} (c : StepConfig) (key : String) (convert : Json → Option α)
    (P : α → Prop) (expected : ValueType) (default a : α) (hdefault : ¬P default)
    (h : c.resolve key expected (some default) convert = .ok a) : P a ↔ c.Requires key convert P := by
  unfold resolve at h
  unfold Requires
  simp only [← lookup_eq_some_iff]
  cases hlookup : c.lookup key with
  | none =>
    rw [hlookup] at h
    cases h
    simp [hdefault]
  | some got =>
    rw [hlookup] at h
    cases hconvert : convert got with
    | none => simp [hconvert] at h
    | some b =>
      obtain rfl : b = a := by simpa [hconvert] using h
      simp [hconvert]

/-! ## Texts and positive numbers -/

/-- If the key has a value, then a text. -/
def AllowsText (c : StepConfig) (key : String) : Prop := c.Allows key Json.asString? fun _ => True

def RequiresText (c : StepConfig) (key : String) : Prop :=
  c.Requires key Json.asString? fun _ => True

theorem string_iff (c : StepConfig) (key default : String) :
    (∃ text, c.string key (some default) = .ok text) ↔ c.AllowsText key := by
  unfold AllowsText
  rw [← c.resolve_default_iff key Json.asString? (fun _ => True) .string default trivial]
  simp only [and_true, string]

theorem requiredString_iff (c : StepConfig) (key : String) :
    (∃ text, c.string key none = .ok text) ↔ c.RequiresText key := by
  unfold RequiresText
  rw [← c.resolve_required_iff key Json.asString? (fun _ => True) .string]
  simp only [and_true, string]

theorem positive_iff (c : StepConfig) (key : String) (default : Int) (hdefault : 0 < default) :
    (∃ n, c.positive key default = .ok n) ↔ c.Allows key Json.asInt? (0 < ·) := by
  rw [← resolve_default_iff c key Json.asInt? (0 < ·) .integer default hdefault]
  simp only [positive_eq_ok]
  constructor
  · rintro ⟨n, hpos, hn⟩
    exact ⟨n, hn, by omega⟩
  · rintro ⟨a, ha, hpos⟩
    refine ⟨a.toNat, by omega, ?_⟩
    rw [Int.toNat_of_nonneg (by omega)]
    exact ha

theorem optionalString_iff (c : StepConfig) (key : String) :
    (∃ text, c.optionalString key = .ok text) ↔ c.AllowsText key := by
  unfold optionalString string resolve AllowsText Allows
  simp only [← lookup_eq_some_iff]
  cases c.lookup key with
  | none => simp
  | some got => cases hconvert : got.asString? <;> simp [hconvert]

theorem optionalString_isSome_iff (c : StepConfig) (key : String) (found : Option String)
    (h : c.optionalString key = .ok found) : found.isSome ↔ c.RequiresText key := by
  unfold optionalString string resolve at h
  unfold RequiresText Requires
  simp only [← lookup_eq_some_iff]
  cases hlookup : c.lookup key with
  | none =>
    rw [hlookup] at h
    cases h
    simp
  | some got =>
    rw [hlookup] at h
    cases hconvert : got.asString? with
    | none => simp [hconvert] at h
    | some text =>
      obtain rfl : some text = found := by simpa [hconvert] using h
      simp [hconvert]

end StepConfig

end NeighborBench

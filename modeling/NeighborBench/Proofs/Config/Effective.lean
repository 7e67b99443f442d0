import NeighborBench.Fingerprint
import NeighborBench.Step.Config

/-! # What the effective object says of a configuration

A look-up passes over a null, but in the effective object a null of the step's own replaces the
implicit value. So the object speaks for the configuration at every key but those.
-/

namespace NeighborBench

/-- Two resolutions end alike: with one value, or with errors of one kind. -/
def SameOutcome {α : Type} : Except StepError α → Except StepError α → Prop
  | .ok a, .ok b => a = b
  | .error e, .error f => e.ctorIdx = f.ctorIdx
  | _, _ => False

theorem SameOutcome.refl {α : Type} (x : Except StepError α) : SameOutcome x x := by
  cases x <;> rfl

namespace StepConfig

/-! ## The effective object as a configuration -/

/-- The configuration that has the effective object as its only layer. -/
def flattened (c : StepConfig) : StepConfig := ⟨c.stepName, Keyed.merge c.implicit c.config, []⟩

theorem ofJson_effective (c : StepConfig) :
    ofJson c.stepName c.effective (.object []) = .ok c.flattened := rfl

theorem flattened_eq_of_effective_eq (c d : StepConfig) (hname : d.stepName = c.stepName)
    (h : d.effective = c.effective) : d.flattened = c.flattened := by
  have hfields : Keyed.merge d.implicit d.config = Keyed.merge c.implicit c.config := by
    simpa [effective, Json.merge] using h
  rw [flattened, flattened, hname, hfields]

/-- A null among the step's own values stands over an implicit value. -/
def Hides (c : StepConfig) (key : String) (value : Json) : Prop :=
  Keyed.get? key c.config = some .null ∧ present? c.implicit key = some value

theorem present?_of_null (fields : Fields) (key : String)
    (h : Keyed.get? key fields = some .null) : present? fields key = none := by
  rw [present?, h]
  rfl

theorem present?_of_none (fields : Fields) (key : String) (h : Keyed.get? key fields = none) :
    present? fields key = none := by
  rw [present?, h]
  rfl

/-! ## Look-ups -/

theorem lookup_of_hides (c : StepConfig) (key : String) (value : Json) (h : c.Hides key value) :
    c.lookup key = some value := by
  rw [lookup, present?_of_null _ _ h.1]
  exact h.2

theorem flattened_get? (c : StepConfig) (distinct : (Keyed.keys c.config).Nodup) (key : String) :
    Keyed.get? key c.flattened.config = (Keyed.get? key c.config).or (Keyed.get? key c.implicit) :=
  Keyed.get?_merge key c.implicit c.config distinct

theorem flattened_lookup (c : StepConfig) (key : String) :
    c.flattened.lookup key = present? c.flattened.config key := by
  rw [lookup, show c.flattened.implicit = [] from rfl, present?_of_none [] key rfl]
  cases present? c.flattened.config key <;> rfl

theorem flattened_lookup_of_hides (c : StepConfig) (distinct : (Keyed.keys c.config).Nodup)
    (key : String) (value : Json) (h : c.Hides key value) : c.flattened.lookup key = none := by
  rw [flattened_lookup, present?_of_null]
  rw [flattened_get? c distinct, h.1, Option.some_or]

theorem flattened_lookup_of_not_hides (c : StepConfig) (distinct : (Keyed.keys c.config).Nodup)
    (key : String) (h : ∀ value, ¬ c.Hides key value) : c.flattened.lookup key = c.lookup key := by
  have hmerged := flattened_get? c distinct key
  rw [flattened_lookup, lookup]
  rcases hown : Keyed.get? key c.config with _ | own
  · -- Only the implicit value is left, and both sides read it.
    rw [hown, Option.none_or] at hmerged
    rw [present?_of_none _ _ hown, present?, hmerged, present?]
  · rw [hown, Option.some_or] at hmerged
    by_cases hnull : own = .null
    · -- A null that hides nothing: the key is absent on both sides.
      subst hnull
      rw [present?_of_null _ _ hown, present?_of_null _ _ hmerged]
      rcases himplicit : present? c.implicit key with _ | value
      · rfl
      · exact absurd ⟨hown, himplicit⟩ (h value)
    · have hkept : ∀ fields : Fields, Keyed.get? key fields = some own →
          present? fields key = some own := by
        intro fields hfields
        rw [present?, hfields]
        cases own <;> simp_all [Json.isNull]
      rw [hkept _ hmerged, hkept _ hown]

/-! ## Resolving -/

theorem resolve_eq_of_lookup_eq {α : Type} (c d : StepConfig) (hname : c.stepName = d.stepName)
    (key : String) (hlookup : c.lookup key = d.lookup key) (expected : ValueType)
    (default : Option α) (convert : Json → Option α) :
    c.resolve key expected default convert = d.resolve key expected default convert := by
  unfold resolve
  rw [hlookup, hname]

theorem optionalString_eq_of_lookup_eq (c d : StepConfig) (hname : c.stepName = d.stepName)
    (key : String) (hlookup : c.lookup key = d.lookup key) :
    c.optionalString key = d.optionalString key := by
  unfold optionalString string
  rw [resolve_eq_of_lookup_eq c d hname key hlookup, hlookup]

theorem resolve_flattened_iff {α : Type} (c : StepConfig)
    (distinct : (Keyed.keys c.config).Nodup) (key : String) (expected : ValueType)
    (default : Option α) (convert : Json → Option α) :
    SameOutcome (c.resolve key expected default convert)
        (c.flattened.resolve key expected default convert) ↔
      ∀ value, c.Hides key value → convert value = default := by
  -- Behind a null that hides a value stands the default, and that may be the same.
  by_cases hidden : ∃ value, c.Hides key value
  · obtain ⟨value, h⟩ := hidden
    have hmine : c.lookup key = some value := lookup_of_hides c key value h
    have hflat : c.flattened.lookup key = none := flattened_lookup_of_hides c distinct key value h
    have hiff : (∀ other, c.Hides key other → convert other = default) ↔
        convert value = default := by
      constructor
      · intro hall
        exact hall value h
      · intro heq other hother
        have hsame := (lookup_of_hides c key other hother).symm.trans hmine
        rw [Option.some.inj hsame, heq]
    unfold resolve
    rw [hiff, hmine, hflat]
    rcases hvalue : convert value with _ | a <;> rcases default with _ | b <;>
      simp [SameOutcome, hvalue, StepError.ctorIdx]
  · have hno : ∀ value, ¬ c.Hides key value := fun value h => hidden ⟨value, h⟩
    have hlookup := flattened_lookup_of_not_hides c distinct key hno
    rw [resolve_eq_of_lookup_eq c.flattened c rfl key hlookup]
    exact ⟨fun _ value h => absurd h (hno value), fun _ => SameOutcome.refl _⟩

theorem optionalString_flattened_iff (c : StepConfig) (distinct : (Keyed.keys c.config).Nodup)
    (key : String) :
    SameOutcome (c.optionalString key) (c.flattened.optionalString key) ↔
      ∀ value, ¬ c.Hides key value := by
  constructor
  · intro same value h
    unfold optionalString at same
    rw [lookup_of_hides c key value h, flattened_lookup_of_hides c distinct key value h] at same
    -- The hidden value is a string or an error here, and absent there.
    rcases hstring : c.string key none with e | s <;> rw [hstring] at same
    · exact same
    · cases same
  · intro hno
    have hlookup := flattened_lookup_of_not_hides c distinct key hno
    rw [optionalString_eq_of_lookup_eq c.flattened c rfl key hlookup]
    exact SameOutcome.refl _

/-- At a key, two configurations end alike whatever type and default are asked for. -/
structure AgreesAt (c d : StepConfig) (key : String) : Prop where
  string : ∀ default, SameOutcome (c.string key default) (d.string key default)
  optionalString : SameOutcome (c.optionalString key) (d.optionalString key)
  int : ∀ default, SameOutcome (c.int key default) (d.int key default)
  bool : ∀ default, SameOutcome (c.bool key default) (d.bool key default)

theorem agreesAt_flattened_iff (c : StepConfig) (distinct : (Keyed.keys c.config).Nodup)
    (key : String) : c.AgreesAt c.flattened key ↔ ∀ value, ¬ c.Hides key value := by
  constructor
  · intro h
    exact (optionalString_flattened_iff c distinct key).mp h.optionalString
  · intro hno
    have hvacuous : ∀ {α : Type} (convert : Json → Option α) (default : Option α),
        ∀ value, c.Hides key value → convert value = default :=
      fun _ _ value h => absurd h (hno value)
    exact {
      string := fun _ => (resolve_flattened_iff c distinct key _ _ _).mpr (hvacuous _ _)
      optionalString := (optionalString_flattened_iff c distinct key).mpr hno
      int := fun _ => (resolve_flattened_iff c distinct key _ _ _).mpr (hvacuous _ _)
      bool := fun _ => (resolve_flattened_iff c distinct key _ _ _).mpr (hvacuous _ _) }

theorem AgreesAt.of_lookup_eq {c d e : StepConfig} {key : String} (h : c.AgreesAt d key)
    (hname : d.stepName = e.stepName) (hlookup : d.lookup key = e.lookup key) :
    c.AgreesAt e key := by
  have hresolve : ∀ {α : Type} expected default (convert : Json → Option α),
      d.resolve key expected default convert = e.resolve key expected default convert :=
    fun expected default convert =>
      resolve_eq_of_lookup_eq d e hname key hlookup expected default convert
  constructor
  · intro default
    have hsame : d.string key default = e.string key default := hresolve .string default Json.asString?
    rw [← hsame]
    exact h.string default
  · rw [← optionalString_eq_of_lookup_eq d e hname key hlookup]
    exact h.optionalString
  · intro default
    have hsame : d.int key default = e.int key default := hresolve .integer default Json.asInt?
    rw [← hsame]
    exact h.int default
  · intro default
    have hsame : d.bool key default = e.bool key default := hresolve .boolean default Json.asBool?
    rw [← hsame]
    exact h.bool default

/-- The effective object, read as a configuration, resolves every key as the configuration does, but
for the keys where a null hides an implicit value: there it answers the default. So of two
configurations with one effective object, one that hides nothing at a key agrees with exactly those
that hide nothing there. -/
theorem effective_agrees_iff (c : StepConfig) (distinct : (Keyed.keys c.config).Nodup)
    (key : String) :
    ∃ hashed, ofJson c.stepName c.effective (.object []) = .ok hashed ∧
      (c.AgreesAt hashed key ↔ ∀ value, ¬ c.Hides key value) ∧
      (∀ default, SameOutcome (c.string key default) (hashed.string key default) ↔
        ∀ value, c.Hides key value → value.asString? = default) ∧
      (∀ default, SameOutcome (c.int key default) (hashed.int key default) ↔
        ∀ value, c.Hides key value → value.asInt? = default) ∧
      (∀ default, SameOutcome (c.bool key default) (hashed.bool key default) ↔
        ∀ value, c.Hides key value → value.asBool? = default) ∧
      (SameOutcome (c.optionalString key) (hashed.optionalString key) ↔
        ∀ value, ¬ c.Hides key value) ∧
      ∀ d : StepConfig, (Keyed.keys d.config).Nodup → d.stepName = c.stepName →
        d.effective = c.effective → (∀ value, ¬ d.Hides key value) →
        (c.AgreesAt d key ↔ ∀ value, ¬ c.Hides key value) := by
  refine ⟨c.flattened, ofJson_effective c, agreesAt_flattened_iff c distinct key,
    fun _ => resolve_flattened_iff c distinct key _ _ _,
    fun _ => resolve_flattened_iff c distinct key _ _ _,
    fun _ => resolve_flattened_iff c distinct key _ _ _,
    optionalString_flattened_iff c distinct key, ?_⟩
  intro d hdistinct hname heffective hno
  have hflat : d.flattened = c.flattened := flattened_eq_of_effective_eq c d hname heffective
  have hlookup : d.lookup key = c.flattened.lookup key := by
    rw [← hflat]
    exact (flattened_lookup_of_not_hides d hdistinct key hno).symm
  rw [← agreesAt_flattened_iff c distinct key]
  constructor
  · intro h
    exact h.of_lookup_eq hname hlookup
  · intro h
    exact h.of_lookup_eq hname.symm hlookup.symm

/-- A null over the implicit `k` of 10: the step uses 10 where the default is 100. -/
def hidesTen : StepConfig := ⟨"query", [("index_name", .string "idx"), ("k", .null)], [("k", .int 10)]⟩

theorem hidesTen_agrees :
    (Keyed.keys hidesTen.config).Nodup ∧
      ∃ hashed, ofJson hidesTen.stepName hidesTen.effective (.object []) = .ok hashed ∧
        ¬ hidesTen.AgreesAt hashed "k" ∧
        SameOutcome (hidesTen.int "k" (some 10)) (hashed.int "k" (some 10)) := by
  obtain ⟨hashed, hread, hall, -, hint, -⟩ := effective_agrees_iff hidesTen (by decide) "k"
  refine ⟨by decide, hashed, hread, ?_, ?_⟩
  · rw [hall]
    intro hno
    exact hno (.int 10) ⟨rfl, rfl⟩
  · rw [hint]
    rintro value ⟨-, h⟩
    cases h
    rfl

/-- The fingerprint does not tell a step that uses 10 from one that uses the default. -/
theorem hidden_value_not_in_fingerprint :
    let plain : StepConfig := ⟨"query", hidesTen.config, []⟩
    hidesTen.effective = plain.effective ∧
      hidesTen.effective.fingerprint = plain.effective.fingerprint ∧
      hidesTen.int "k" (some 100) = .ok 10 ∧ plain.int "k" (some 100) = .ok 100 ∧
      ∀ hashed, ofJson hidesTen.stepName hidesTen.effective (.object []) = .ok hashed →
        ¬ SameOutcome (hidesTen.int "k" (some 100)) (hashed.int "k" (some 100)) := by
  refine ⟨rfl, rfl, rfl, rfl, ?_⟩
  intro hashed hread
  rw [ofJson_effective] at hread
  cases hread
  intro same
  cases same

end StepConfig

end NeighborBench

import NeighborBench.Fingerprint
import NeighborBench.Proofs.Dataset.Decoding
import NeighborBench.Proofs.Json.Canonical
import NeighborBench.Proofs.Keyed
import NeighborBench.Step.Config

/-! # A fingerprint stands for one configuration

Nothing is lost on the way from the effective object to the bytes that are hashed, nor from the
digest to its digits. Only the hash function itself can give two configurations one fingerprint.
-/

namespace NeighborBench

/-! ## Merged fields -/

theorem Json.Regular.insert (key : String) {value : Json} {fields : Fields}
    (hvalue : value.Regular) (hfields : (Json.object fields).Regular) :
    (Json.object (Keyed.insert key value fields)).Regular := by
  cases hfields with
  | object _ sorted regular =>
    refine .object _ (Keyed.insert_sorted key value fields sorted) ?_
    intro field hfield
    rcases Keyed.mem_insert hfield with rfl | hfield
    · exact hvalue
    · exact regular field hfield

theorem Json.Regular.merge {lower upper : Fields} (hlower : (Json.object lower).Regular)
    (hupper : ∀ field ∈ upper, field.2.Regular) :
    (Json.object (Keyed.merge lower upper)).Regular := by
  induction upper generalizing lower with
  | nil => exact hlower
  | cons field rest ih =>
    have hinsert := Json.Regular.insert field.1 (hupper field (by simp)) hlower
    exact ih hinsert fun f hf => hupper f (by simp [hf])

/-- Both layers are objects that can be. -/
structure StepConfig.Regular (c : StepConfig) : Prop where
  config : (Json.object c.config).Regular
  implicit : (Json.object c.implicit).Regular

theorem StepConfig.Regular.effective {c : StepConfig} (h : c.Regular) : c.effective.Regular := by
  have hvalues : ∀ field ∈ c.config, field.2.Regular := by
    cases h.config with
    | object _ _ regular => exact regular
  exact h.implicit.merge hvalues

/-! ## The digits of a digest -/

namespace Sha256

theorem hexDigit_injective : ∀ m < 16, ∀ n < 16, Text.hexDigit m = Text.hexDigit n → m = n := by
  decide

def wordDigits (word : UInt32) : List Char :=
  (List.range 8).map fun i => Text.hexDigit (word.toNat >>> (4 * (7 - i)) % 16)

theorem wordDigits_length (word : UInt32) : (wordDigits word).length = 8 := by simp [wordDigits]

theorem eq_of_digits (n : ℕ) {a b : ℕ} (ha : a < 16 ^ n) (hb : b < 16 ^ n)
    (h : ∀ k < n, a / 16 ^ k % 16 = b / 16 ^ k % 16) : a = b := by
  induction n generalizing a b with
  | zero => omega
  | succ n ih =>
    have hlast := h 0 (by omega)
    have hrest : a / 16 = b / 16 := by
      apply ih
      · exact Nat.div_lt_of_lt_mul (pow_succ' 16 n ▸ ha)
      · exact Nat.div_lt_of_lt_mul (pow_succ' 16 n ▸ hb)
      · intro k hk
        have hnext := h (k + 1) (by omega)
        rwa [pow_succ', ← Nat.div_div_eq_div_mul, ← Nat.div_div_eq_div_mul] at hnext
    rw [pow_zero, Nat.div_one, Nat.div_one] at hlast
    omega

theorem wordDigits_injective (v w : UInt32) (h : wordDigits v = wordDigits w) : v = w := by
  rw [← UInt32.toNat_inj]
  apply eq_of_digits 8 v.toNat_lt w.toNat_lt
  intro k hk
  -- The digits are written from the highest place down.
  have hsame := List.map_inj_left.mp h (7 - k) (List.mem_range.mpr (by omega))
  have hdigit := hexDigit_injective _ (Nat.mod_lt _ (by decide)) _ (Nat.mod_lt _ (by decide)) hsame
  have hplace : 7 - (7 - k) = k := by omega
  rwa [hplace, Nat.shiftRight_eq_div_pow, Nat.shiftRight_eq_div_pow, Nat.pow_mul] at hdigit

theorem flatMap_wordDigits_injective (vs ws : List UInt32)
    (h : vs.flatMap wordDigits = ws.flatMap wordDigits) : vs = ws := by
  induction vs generalizing ws with
  | nil =>
    cases ws with
    | nil => rfl
    | cons w ws =>
      have hlength := congrArg List.length h
      simp [wordDigits_length] at hlength
      omega
  | cons v vs ih =>
    cases ws with
    | nil =>
      have hlength := congrArg List.length h
      simp [wordDigits_length] at hlength
    | cons w ws =>
      rw [List.flatMap_cons, List.flatMap_cons] at h
      obtain ⟨hword, hrest⟩ := List.append_inj h
        ((wordDigits_length v).trans (wordDigits_length w).symm)
      rw [wordDigits_injective v w hword, ih ws hrest]

theorem hex_eq_iff (m n : List UInt8) : hex m = hex n ↔ digest m = digest n := by
  constructor
  · intro h
    exact flatMap_wordDigits_injective _ _ (String.ofList_injective h)
  · intro h
    rw [hex, h, hex]

/-- Two messages of one digest. -/
def Collision (m n : List UInt8) : Prop := m ≠ n ∧ digest m = digest n

end Sha256

/-! ## Fingerprints -/

/-- The bytes that are hashed. -/
def Json.message (value : Json) : List UInt8 := value.canonicalText.toUTF8.toList

theorem Json.Regular.message_injective {a b : Json} (ha : a.Regular) (hb : b.Regular)
    (h : a.message = b.message) : a = b := by
  apply ha.canonicalText_injective hb
  rw [← String.toByteArray_inj, ← String.toUTF8_eq_toByteArray, ← String.toUTF8_eq_toByteArray]
  apply ByteArray.ext
  rw [message, message, toList_eq_data, toList_eq_data] at h
  exact Array.toList_inj.mp h

theorem Json.Regular.fingerprint_eq_iff {a b : Json} (ha : a.Regular) (hb : b.Regular) :
    a.fingerprint = b.fingerprint ↔ a = b ∨ Sha256.Collision a.message b.message := by
  have hhex : a.fingerprint = b.fingerprint ↔ Sha256.digest a.message = Sha256.digest b.message :=
    Sha256.hex_eq_iff _ _
  rw [hhex]
  constructor
  · intro h
    by_cases heq : a = b
    · exact .inl heq
    · exact .inr ⟨fun hmessage => heq (ha.message_injective hb hmessage), h⟩
  · rintro (rfl | hcollision)
    · rfl
    · exact hcollision.2

/-- Values of one canonical text are equal, whatever they nest: numbers by kind and value, the sign of
a zero included. So where two configurations differ in their effective objects, they have one
fingerprint exactly if the bytes of the two texts are a collision. -/
theorem canonicalText_determines_value :
    (∀ a b : Json, a.Regular → b.Regular → (a.canonicalText = b.canonicalText ↔ a = b)) ∧
      ∀ c d : StepConfig, c.Regular → d.Regular → c.effective ≠ d.effective →
        (c.effective.fingerprint = d.effective.fingerprint ↔
          Sha256.Collision c.effective.message d.effective.message) := by
  constructor
  · intro a b ha hb
    constructor
    · exact ha.canonicalText_injective hb
    · rintro rfl
      rfl
  · intro c d hc hd hne
    rw [hc.effective.fingerprint_eq_iff hd.effective, or_iff_right hne]

/-- A `k` that is an integer, over an implicit one. -/
def wholeOne : StepConfig :=
  ⟨"query", [("k", .int 1)], [("field_name", .string "a\"b"), ("k", .int 10)]⟩

/-- The same with a `k` that is a double. -/
def doubleOne : StepConfig := { wholeOne with config := [("k", .float 1.0)] }

theorem wholeOne_apart_from_doubleOne :
    wholeOne.Regular ∧ doubleOne.Regular ∧ wholeOne.effective ≠ doubleOne.effective ∧
      wholeOne.effective.canonicalText ≠ doubleOne.effective.canonicalText ∧
      (wholeOne.effective.fingerprint = doubleOne.effective.fingerprint ↔
        Sha256.Collision wholeOne.effective.message doubleOne.effective.message) := by
  have himplicit : (Json.object wholeOne.implicit).Regular := by
    refine .object _ (by decide) ?_
    intro field hfield
    simp only [wholeOne, List.mem_cons, List.not_mem_nil, or_false] at hfield
    rcases hfield with rfl | rfl
    · exact .string _
    · exact .int _
  have hwhole : wholeOne.Regular := by
    refine ⟨.object _ (by decide) ?_, himplicit⟩
    intro field hfield
    rw [List.mem_singleton.mp hfield]
    exact .int 1
  have hdouble : doubleOne.Regular := by
    refine ⟨.object _ (by decide) ?_, himplicit⟩
    intro field hfield
    rw [List.mem_singleton.mp hfield]
    exact .float 1.0 (by decide)
  have hne : wholeOne.effective ≠ doubleOne.effective := by
    have hints : wholeOne.effective =
        .object [("field_name", .string "a\"b"), ("k", .int 1)] := rfl
    have hdoubles : doubleOne.effective =
        .object [("field_name", .string "a\"b"), ("k", .float 1.0)] := rfl
    rw [hints, hdoubles]
    simp
  obtain ⟨hvalues, hconfigs⟩ := canonicalText_determines_value
  refine ⟨hwhole, hdouble, hne, ?_, hconfigs _ _ hwhole hdouble hne⟩
  rwa [ne_eq, hvalues _ _ hwhole.effective hdouble.effective]

end NeighborBench

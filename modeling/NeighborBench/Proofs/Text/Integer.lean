import NeighborBench.Text.Integer

/-! # Which texts are numbers

A text is read as a port if and only if it is a row of decimal digits, perhaps behind a plus sign,
whose value is that of a port.
-/

namespace NeighborBench.Text

theorem digitValue?_ten (c : Char) :
    digitValue? 10 c = if c.isDigit then some (c.toNat - '0'.toNat) else none := by
  have hdigit : c.isDigit = true ↔ '0' ≤ c ∧ c ≤ '9' := by simp [Char.isDigit, Char.le_def]
  unfold digitValue?
  by_cases h : '0' ≤ c ∧ c ≤ '9'
  · have hnine : c.toNat ≤ '9'.toNat := h.2
    have hlt : c.toNat - '0'.toNat < 10 := by
      change c.toNat ≤ 57 at hnine
      change c.toNat - 48 < 10
      omega
    rw [if_pos h, if_pos (hdigit.mpr h)]
    simpa using hlt
  · -- Letters stand for ten and more, so none of them is a decimal digit.
    rw [if_neg h, if_neg (mt hdigit.mp h)]
    split
    · simp
    · split <;> simp

theorem digitsValue?_ten {digits : List Char} (h : ∀ c ∈ digits, c.isDigit = true) :
    digitsValue? 10 digits = some (Nat.ofDigitChars 10 digits 0) := by
  have hread : digits.mapM (digitValue? 10) = some (digits.map fun c => c.toNat - '0'.toNat) := by
    induction digits with
    | nil => rfl
    | cons c rest ih =>
      obtain ⟨hc, hrest⟩ := List.forall_mem_cons.mp h
      rw [List.mapM_cons, digitValue?_ten, if_pos hc, ih hrest]
      rfl
  rw [digitsValue?, hread, Option.map_some, List.foldl_map, Nat.ofDigitChars_eq_foldl]
  simp only [Nat.mul_comm]

end NeighborBench.Text

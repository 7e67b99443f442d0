import NeighborBench.Proofs.Double.Bits
import NeighborBench.Single

/-! # Numbers of 32 bits

What number the bits stand for. A byte keeps its number when it is stored, and a stored number keeps
its own when it is widened to a double.
-/

namespace NeighborBench

namespace Single

/-- The number that the bits stand for, unless they stand for none. -/
def value? (x : Single) : Option ℚ :=
  let sign : ℚ := if x.bits.toNat < 0x8000_0000 then 1 else -1
  if x.exponentField = 255 then none
  else if x.exponentField = 0 then some (sign * x.fractionField * 2 ^ (-149 : ℤ))
  else some (sign * (0x80_0000 + x.fractionField) * 2 ^ ((x.exponentField : ℤ) - 150))

/-! ## Bytes -/

/-- A number is moved up until its top bit is bit `w`, and that bit is taken away. -/
theorem leading_one (n w : ℕ) (hn : n ≠ 0) (hw : Nat.log2 n ≤ w) :
    (n - 2 ^ Nat.log2 n) * 2 ^ (w - Nat.log2 n) < 2 ^ w ∧
      2 ^ w + (n - 2 ^ Nat.log2 n) * 2 ^ (w - Nat.log2 n) = n * 2 ^ (w - Nat.log2 n) := by
  have hlow : 2 ^ Nat.log2 n ≤ n := Nat.log2_self_le hn
  have hhigh : n < 2 * 2 ^ Nat.log2 n := by
    rw [← Nat.pow_succ']
    exact Nat.lt_log2_self
  have hunit : 2 ^ Nat.log2 n * 2 ^ (w - Nat.log2 n) = 2 ^ w := by
    rw [← Nat.pow_add, Nat.add_sub_cancel' hw]
  rw [← hunit]
  refine ⟨Nat.mul_lt_mul_of_pos_right (by omega) (by positivity), ?_⟩
  rw [← Nat.add_mul, Nat.add_sub_cancel' hlow]

end Single

/-! ## Widening -/

namespace Single

/-- What a double has of a number that was widened to it. -/
structure Widened (x : Single) (y : Float) : Prop where
  value : Double.value? y = x.value?
  sign : x.isNaN = false → (y.toBits.toNat < 0x8000_0000_0000_0000 ↔ x.bits.toNat < 0x8000_0000)

/-- What the exponent and the fraction make, without the sign. -/
def scaled (x : Single) : ℚ :=
  if x.exponentField = 0 then x.fractionField * 2 ^ (-149 : ℤ)
  else (0x80_0000 + x.fractionField) * 2 ^ ((x.exponentField : ℤ) - 150)

theorem value?_eq (x : Single) (finite : x.exponentField ≠ 255) :
    x.value? = some ((if x.bits.toNat < 0x8000_0000 then 1 else -1) * x.scaled) := by
  rw [value?, if_neg finite, scaled]
  split_ifs <;> simp only [mul_assoc]

theorem toBits_widen {x : Single} (exponent fraction : ℕ) (hfraction : fraction < 0x10_0000_0000_0000)
    (hexponent : exponent < 2047 ∨ exponent = 2047 ∧ fraction = 0)
    (h : x.widenedBits = x.bits.toNat / 0x8000_0000 * 0x8000_0000_0000_0000 +
      exponent * 0x10_0000_0000_0000 + fraction) : x.widen.toBits.toNat = x.widenedBits := by
  have hbits : x.bits.toNat < 0x1_0000_0000 := x.bits.toNat_lt
  have hof : (UInt64.ofNat x.widenedBits).toNat = x.widenedBits :=
    UInt64.toNat_ofNat_of_lt' (by rw [h, UInt64.size]; omega)
  rw [widen, Double.toBits_ofBits _ (by rw [hof]; omega), hof]

theorem Widened.of_fields {x : Single} (finite : x.exponentField ≠ 255) (exponent fraction : ℕ)
    (hexponent : exponent < 2047) (hfraction : fraction < 0x10_0000_0000_0000)
    (h : x.widenedBits = x.bits.toNat / 0x8000_0000 * 0x8000_0000_0000_0000 +
      exponent * 0x10_0000_0000_0000 + fraction)
    (hscaled : Double.scaled exponent fraction = x.scaled) : x.Widened x.widen := by
  have hbits : x.bits.toNat < 0x1_0000_0000 := x.bits.toNat_lt
  have htoBits := toBits_widen exponent fraction hfraction (.inl hexponent) h
  have hsign : x.widen.toBits.toNat < 0x8000_0000_0000_0000 ↔ x.bits.toNat < 0x8000_0000 := by
    rw [htoBits, h]
    omega
  have hfield : x.widen.toBits.toNat / 0x10_0000_0000_0000 % 0x800 = exponent := by
    rw [htoBits, h]
    omega
  have hrest : x.widen.toBits.toNat % 0x10_0000_0000_0000 = fraction := by
    rw [htoBits, h]
    omega
  refine ⟨?_, fun _ => hsign⟩
  rw [value?_eq x finite, ← hscaled]
  simp only [Double.value?, hfield, hrest, hsign, if_neg (Nat.ne_of_lt hexponent)]

theorem widened_normal (x : Single) (finite : x.exponentField ≠ 255) (h : x.exponentField ≠ 0) :
    x.Widened x.widen := by
  have hexponent : x.exponentField < 0x100 := Nat.mod_lt _ (by decide)
  have hfraction : x.fractionField < 0x80_0000 := Nat.mod_lt _ (by decide)
  refine .of_fields finite (x.exponentField + 896) (x.fractionField * 0x2000_0000)
    (by omega) (by omega) ?_ ?_
  · simp only [widenedBits, if_neg finite, if_neg h]
  · have hpower : (2 : ℚ) ^ ((x.exponentField : ℤ) - 150) =
        0x2000_0000 * 2 ^ (((x.exponentField + 896 : ℕ) : ℤ) - 1075) := by
      have hsum : (x.exponentField : ℤ) - 150 = 29 + (((x.exponentField + 896 : ℕ) : ℤ) - 1075) := by
        omega
      rw [hsum, zpow_add₀ two_ne_zero]
      norm_num
    rw [Double.scaled, if_neg (by omega), scaled, if_neg h, hpower]
    push_cast
    ring

theorem widened_subnormal (x : Single) (h : x.exponentField = 0) (hne : x.fractionField ≠ 0) :
    x.Widened x.widen := by
  have hfraction : x.fractionField < 0x80_0000 := Nat.mod_lt _ (by decide)
  have htop : Nat.log2 x.fractionField < 23 := (Nat.log2_lt hne).mpr hfraction
  obtain ⟨hrest, hsum⟩ := leading_one x.fractionField 52 hne (by omega)
  refine .of_fields (by omega) (Nat.log2 x.fractionField + 874)
    ((x.fractionField - 2 ^ Nat.log2 x.fractionField) * 2 ^ (52 - Nat.log2 x.fractionField))
    (by omega) hrest ?_ ?_
  · simp only [widenedBits, h, if_neg hne, if_true, Nat.shiftLeft_eq, Nat.one_mul]
    rfl
  · rw [Double.scaled, if_neg (by omega), scaled, if_pos h]
    generalize x.fractionField = f at *
    generalize Nat.log2 f = top at *
    have hcast : (0x10_0000_0000_0000 + ((f - 2 ^ top) * 2 ^ (52 - top) : ℕ) : ℚ) =
        f * 2 ^ (52 - top) := by
      exact_mod_cast hsum
    have hexponents : ((52 - top : ℕ) : ℤ) + (((top + 874 : ℕ) : ℤ) - 1075) = -149 := by omega
    have hpowers : (2 : ℚ) ^ (52 - top) * 2 ^ (((top + 874 : ℕ) : ℤ) - 1075) = 2 ^ (-149 : ℤ) := by
      rw [← zpow_natCast, ← zpow_add₀ two_ne_zero, hexponents]
    rw [hcast, mul_assoc, hpowers]

theorem widened_special (x : Single) (h : x.exponentField = 255) : x.Widened x.widen := by
  have hbits : x.bits.toNat < 0x1_0000_0000 := x.bits.toNat_lt
  have hfraction : x.fractionField < 0x80_0000 := Nat.mod_lt _ (by decide)
  have hwidened : x.widenedBits = x.bits.toNat / 0x8000_0000 * 0x8000_0000_0000_0000 +
      2047 * 0x10_0000_0000_0000 + x.fractionField * 0x2000_0000 := by
    simp only [widenedBits, h, if_true]
  have hnone : x.value? = none := by rw [value?, if_pos h]
  by_cases hinfinite : x.fractionField = 0
  · rw [hinfinite, Nat.zero_mul] at hwidened
    have htoBits := toBits_widen 2047 0 (by decide) (.inr ⟨rfl, rfl⟩) hwidened
    refine ⟨?_, fun _ => by rw [htoBits, hwidened]; omega⟩
    rw [hnone, Double.value?, if_pos (by rw [htoBits, hwidened]; omega)]
  · -- No number has no sign, and no bits but one choice of them.
    have hof : (UInt64.ofNat x.widenedBits).toNat = x.widenedBits :=
      UInt64.toNat_ofNat_of_lt' (by rw [hwidened, UInt64.size]; omega)
    have hnan : x.widen.toBits = 0x7FF8_0000_0000_0000 :=
      Double.toBits_nan _ (by rw [hof, hwidened]; omega) (by rw [hof, hwidened]; omega)
    refine ⟨?_, fun hnumber => ?_⟩
    · rw [hnone, Double.value?, hnan]
      rfl
    · simp [isNaN, h, hinfinite] at hnumber

/-- Each number of 32 bits is a double, its sign included, and is widened to that one. -/
theorem widen_widened (x : Single) : x.Widened x.widen := by
  by_cases hspecial : x.exponentField = 255
  · exact widened_special x hspecial
  by_cases hexponent : x.exponentField = 0
  · by_cases hfraction : x.fractionField = 0
    · refine .of_fields hspecial 0 0 (by decide) (by decide) ?_ ?_
      · simp [widenedBits, hexponent, hfraction]
      · simp [Double.scaled, scaled, hexponent, hfraction]
    · exact widened_subnormal x hexponent hfraction
  · exact widened_normal x hspecial hexponent

theorem forall_widened (vectors : List (List Single)) :
    List.Forall₂ (List.Forall₂ Widened) vectors (vectors.map (·.map widen)) :=
  List.forall₂_map_right_iff.mpr <| List.forall₂_same.mpr fun _ _ =>
    List.forall₂_map_right_iff.mpr <| List.forall₂_same.mpr fun x _ => x.widen_widened

end Single

end NeighborBench

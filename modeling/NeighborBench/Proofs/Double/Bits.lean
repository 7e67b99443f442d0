import Mathlib

-- No part of Mathlib alone brings the lemmas on the bits of doubles.

/-! # Bits of doubles

Which number the bits stand for, and which bits stay as they are. All bits do but those that stand for
no number at all: of these a double knows one choice.
-/

namespace NeighborBench.Double

open Float.Model (Format UnpackedFloat)
open Float.Model.UnpackedFloat

/-- What the exponent and the fraction of a double make, without the sign. -/
def scaled (exponent fraction : ℕ) : ℚ :=
  if exponent = 0 then fraction * 2 ^ (-1074 : ℤ)
  else (0x10_0000_0000_0000 + fraction) * 2 ^ ((exponent : ℤ) - 1075)

/-- The number that the bits of a double stand for, unless they stand for none. -/
def value? (x : Float) : Option ℚ :=
  let bits := x.toBits.toNat
  let sign : ℚ := if bits < 0x8000_0000_0000_0000 then 1 else -1
  let exponent := bits / 0x10_0000_0000_0000 % 0x800
  if exponent = 2047 then none else some (sign * scaled exponent (bits % 0x10_0000_0000_0000))

/-! ## Fields -/

theorem unpackExponent_eq_iff (b : UInt64) :
    @unpackExponent .binary64 b.toBitVec = -1#11 ↔
      b.toNat / 0x10_0000_0000_0000 % 0x800 = 2047 := by
  rw [← BitVec.toNat_inj, unpackExponent_def, BitVec.extractLsb'_toNat, Nat.shiftRight_eq_div_pow]
  exact Iff.rfl

theorem unpackMantissa_eq_iff (b : UInt64) :
    @unpackMantissa .binary64 b.toBitVec = 0#52 ↔ b.toNat % 0x10_0000_0000_0000 = 0 := by
  rw [← BitVec.toNat_inj, unpackMantissa_def, BitVec.extractLsb'_toNat, Nat.shiftRight_zero]
  exact Iff.rfl

theorem isFinite_iff (x : Float) :
    x.isFinite = true ↔ x.toBits.toNat / 0x10_0000_0000_0000 % 0x800 ≠ 2047 := by
  rw [ne_eq, ← unpackExponent_eq_iff]
  change UnpackedFloat.isFinite (if @unpackExponent .binary64 x.toBits.toBitVec = -1#11 then
    if @unpackMantissa .binary64 x.toBits.toBitVec = 0#52 then _ else _ else _) = true ↔ _
  by_cases special : @unpackExponent .binary64 x.toBits.toBitVec = -1#11
  · rw [if_pos special]
    refine iff_of_false ?_ (not_not.mpr special)
    split <;> exact Bool.false_ne_true
  · rw [if_neg special]
    refine iff_of_true ?_ special
    split
    · split <;> rfl
    · rfl

/-! ## Bits that are kept -/

theorem toBits_ofBits (b : UInt64) (h : b.toNat / 0x10_0000_0000_0000 % 0x800 = 2047 →
    b.toNat % 0x10_0000_0000_0000 = 0) : (Float.ofBits b).toBits = b := by
  have valid : Format.binary64.Valid b.toBitVec :=
    ⟨fun hexponent hfraction => absurd ((unpackMantissa_eq_iff b).mpr
      (h ((unpackExponent_eq_iff b).mp hexponent))) hfraction⟩
  exact congrArg Float.toBits (Float.ofBits_toBits ⟨⟨b, valid⟩⟩)

/-- All bits that stand for no number become the same ones. -/
theorem toBits_nan (b : UInt64) (hexponent : b.toNat / 0x10_0000_0000_0000 % 0x800 = 2047)
    (hfraction : b.toNat % 0x10_0000_0000_0000 ≠ 0) :
    (Float.ofBits b).toBits = 0x7FF8_0000_0000_0000 := by
  have hunpack : unpack Format.binary64 b.toBitVec = .notANumber := by
    change (if @unpackExponent .binary64 b.toBitVec = -1#11 then
      if @unpackMantissa .binary64 b.toBitVec = 0#52 then _ else _ else _) = _
    rw [if_pos ((unpackExponent_eq_iff b).mpr hexponent),
      if_neg (mt (unpackMantissa_eq_iff b).mp hfraction)]
  change (⟨pack Format.binary64 (unpack Format.binary64 b.toBitVec)⟩ : UInt64) = _
  rw [hunpack]
  rfl

end NeighborBench.Double

import NeighborBench.Proofs.Double.Rounding

/-! # Products of doubles

The product of two mantissas has all of its bits at one of two places, and is rounded there.
-/

namespace NeighborBench.Double

open Float.Model (Format UnpackedFloat totalExponent)
open Float.Model.UnpackedFloat

theorem log2_mul_two_pow (n k : Nat) (h : n ≠ 0) : (n * 2 ^ k).log2 = n.log2 + k := by
  induction k with
  | zero => rw [Nat.pow_zero, Nat.mul_one, Nat.add_zero]
  | succ k ih =>
    have hne : n * 2 ^ k ≠ 0 := Nat.mul_ne_zero h (Nat.two_pow_pos k).ne'
    rw [Nat.pow_succ, ← Nat.mul_assoc, Nat.mul_comm, Nat.log2_two_mul hne, ih, Nat.add_assoc]

theorem rounds_of_whole (n s : Nat) (e : Int) (hlog : n.log2 = 52 + s) (hmin : -1074 ≤ e + s)
    (hmax : e + s ≤ 970) :
    Rounds (.ofModel (.pack (roundWithAccuracy Format.binary64 .positive n e .exact)))
      n (2 ^ s) (e + s) := by
  have h := rounds_of_fraction n 1 s e Nat.one_pos (by rwa [Nat.div_one]) hmin hmax
  rwa [Nat.div_one, Nat.mod_one, Nat.one_mul] at h

theorem log2_product {m m' : Nat} (hm : 2 ^ 52 ≤ m ∧ m < 2 ^ 53) (hm' : 2 ^ 52 ≤ m' ∧ m' < 2 ^ 53) :
    ∃ s, (m * m').log2 = 52 + s ∧ 52 ≤ s ∧ s ≤ 53 := by
  have hlow : 2 ^ 52 * 2 ^ 52 ≤ m * m' := Nat.mul_le_mul hm.1 hm'.1
  have hhigh : m * m' < 2 ^ 53 * 2 ^ 53 := Nat.mul_lt_mul'' hm.2 hm'.2
  have hpos : m * m' ≠ 0 := by omega
  have hleast : 104 ≤ (m * m').log2 := (Nat.le_log2 hpos).mpr hlow
  have hmost : (m * m').log2 < 106 := (Nat.log2_lt hpos).mpr hhigh
  exact ⟨(m * m').log2 - 52, by omega, by omega, by omega⟩

theorem Normal.mul {x y : Float} {m m' : Nat} {e e' : Int} (hx : Normal x m e) (hy : Normal y m' e')
    (hmin : -1126 ≤ e + e') (hmax : e + e' ≤ 917) :
    ∃ s, (m * m').log2 = 52 + s ∧ Rounds (x * y) (m * m') (2 ^ s) (e + e' + s) := by
  obtain ⟨_, hx'⟩ := hx.unpack
  obtain ⟨_, hy'⟩ := hy.unpack
  obtain ⟨s, hlog, hlow, hhigh⟩ := log2_product hx.mantissa hy.mantissa
  have hproduct : x * y = .ofModel (.pack
      (UnpackedFloat.mul Format.binary64 x.toModel.unpack y.toModel.unpack)) := rfl
  rw [hx', hy'] at hproduct
  rw [hproduct]
  exact ⟨s, hlog, rounds_of_whole (m * m') s (e + e') hlog (by omega) (by omega)⟩

theorem normal_one : Normal 1 (2 ^ 52) (-52) := ⟨⟨by decide, rfl⟩, by decide, by decide⟩

theorem Normal.mul_one {x : Float} {m : Nat} {e : Int} (h : Normal x m e) (hmax : e ≤ 969) :
    x * 1 = x := by
  have hm := h.mantissa
  have hmin := h.exponent.1
  obtain ⟨s, hlog, hrounds⟩ := h.mul normal_one (by omega) (by omega)
  obtain rfl : s = 52 := by
    rw [log2_mul_two_pow m 52 (by omega), log2_of_mantissa hm] at hlog
    omega
  have hplace : e + -52 + (52 : Nat) = e := by omega
  rw [hplace] at hrounds
  exact (hrounds.normal_of_exact (Nat.two_pow_pos 52) hm.2).eq h

end NeighborBench.Double

import Mathlib.Algebra.Order.Field.Power
import Mathlib.Data.Rat.Cast.Order
import Mathlib.Tactic.FieldSimp
import Mathlib.Tactic.Linarith
import Mathlib.Tactic.Positivity
import Mathlib.Tactic.Ring
import NeighborBench.Decimal.Shortest

/-! # The shortest decimal tells doubles apart

The reals that read back as one double lie between its midpoints to the neighbours. The search ends
at such a real, and those of two doubles are never the same.
-/

namespace NeighborBench.Decimal

def Scaled.value (s : Scaled) : ℚ := s.significand * 10 ^ s.exponent

namespace Binary

/-! ## What reads back -/

def bottom (b : Binary) : ℚ := b.lowest * 2 ^ (b.exponent - 2)

def top (b : Binary) : ℚ := b.highest * 2 ^ (b.exponent - 2)

/-- The midpoints themselves go to the neighbour that is even. -/
def Near (b : Binary) (v : ℚ) : Prop :=
  if b.mantissa % 2 = 0 then b.bottom ≤ v ∧ v ≤ b.top else b.bottom < v ∧ v < b.top

theorem Near.le {b : Binary} {v : ℚ} (h : b.Near v) : b.bottom ≤ v ∧ v ≤ b.top := by
  unfold Near at h
  split at h
  · exact h
  · exact ⟨h.1.le, h.2.le⟩

theorem scales_eq (p q : ℤ) :
    ∃ unit : ℚ, 0 < unit ∧ ((scales p q).1 : ℚ) = 10 ^ p * unit ∧
      ((scales p q).2 : ℚ) = 2 ^ q * unit := by
  -- Both powers are measured in one unit.
  have hsplit : ∀ (x : ℚ) (n : ℤ), x ≠ 0 → x ^ n.toNat = x ^ n * x ^ (-n).toNat := by
    intro x n hx
    rw [← zpow_natCast, ← zpow_natCast, ← zpow_add₀ hx]
    congr 1
    omega
  refine ⟨10 ^ (-p).toNat * 2 ^ (-q).toNat, by positivity, ?_, ?_⟩
  · simp only [scales, Nat.shiftLeft_eq, Nat.pow_eq, Nat.cast_mul, Nat.cast_pow, Nat.cast_ofNat]
    rw [hsplit 10 p (by norm_num)]
    ring
  · simp only [scales, Nat.shiftLeft_eq, Nat.pow_eq, Nat.cast_mul, Nat.cast_pow, Nat.cast_ofNat]
    rw [hsplit 2 q (by norm_num)]
    ring

theorem scales_le_iff (p q : ℤ) (m n : ℕ) :
    m * (scales p q).2 ≤ n * (scales p q).1 ↔ (m : ℚ) * 2 ^ q ≤ n * 10 ^ p := by
  obtain ⟨unit, hunit, hten, htwo⟩ := scales_eq p q
  rw [← Nat.cast_le (α := ℚ), Nat.cast_mul, Nat.cast_mul, hten, htwo, ← mul_assoc, ← mul_assoc,
    mul_le_mul_iff_left₀ hunit]

theorem scales_ge_iff (p q : ℤ) (m n : ℕ) :
    n * (scales p q).1 ≤ m * (scales p q).2 ↔ (n : ℚ) * 10 ^ p ≤ m * 2 ^ q := by
  obtain ⟨unit, hunit, hten, htwo⟩ := scales_eq p q
  rw [← Nat.cast_le (α := ℚ), Nat.cast_mul, Nat.cast_mul, hten, htwo, ← mul_assoc, ← mul_assoc,
    mul_le_mul_iff_left₀ hunit]

theorem readsBack_iff (b : Binary) (c : ℕ) (p : ℤ) :
    b.readsBack c p = true ↔ b.Near (c * 10 ^ p) := by
  have hbottom := scales_le_iff p (b.exponent - 2) b.lowest c
  have htop := scales_ge_iff p (b.exponent - 2) b.highest c
  have hbottom' := scales_ge_iff p (b.exponent - 2) b.lowest c
  have htop' := scales_le_iff p (b.exponent - 2) b.highest c
  unfold readsBack Near bottom top
  by_cases heven : b.mantissa % 2 = 0
  · simp only [heven, if_true, Bool.and_eq_true, decide_eq_true_eq, hbottom, htop]
  · simp only [heven, if_false, Bool.and_eq_true, decide_eq_true_eq, ← not_le, hbottom', htop']

/-! ## A grid that is fine enough -/

theorem onGrid?_near (b : Binary) (p : ℤ) (c : ℕ) (h : b.onGrid? p = some c) :
    b.Near (c * 10 ^ p) := by
  rw [← readsBack_iff]
  unfold onGrid? at h
  simp only at h
  split at h
  · next hlow hhigh =>
    split at h
    · cases h
      exact hlow
    · cases h
      exact hhigh
  · next hlow _ =>
    cases h
    exact hlow
  · next _ hhigh =>
    cases h
    exact hhigh
  · cases h

theorem readsBack_of_lt (b : Binary) (c : ℕ) (p : ℤ)
    (hbottom : b.lowest * (scales p (b.exponent - 2)).2 < c * (scales p (b.exponent - 2)).1)
    (htop : c * (scales p (b.exponent - 2)).1 < b.highest * (scales p (b.exponent - 2)).2) :
    b.readsBack c p = true := by
  by_cases heven : b.mantissa % 2 = 0
  · simp [readsBack, heven, hbottom.le, htop.le]
  · simp [readsBack, heven, hbottom, htop]

theorem scales_pos (p q : ℤ) : 0 < (scales p q).1 ∧ 0 < (scales p q).2 := by
  simp only [scales, Nat.shiftLeft_eq, Nat.pow_eq]
  constructor <;> positivity

theorem onGrid?_isSome (b : Binary) (p : ℤ) (hmantissa : 0 < b.mantissa)
    (hstep : (scales p (b.exponent - 2)).1 < (b.highest - b.lowest) * (scales p (b.exponent - 2)).2) :
    (b.onGrid? p).isSome := by
  -- Steps that are shorter than the interval do not jump over it.
  obtain ⟨hten, htwo⟩ := scales_pos p (b.exponent - 2)
  have hlow : ∀ c, _ → _ → b.readsBack c p = true := fun c => b.readsBack_of_lt c p
  unfold onGrid?
  generalize scales p (b.exponent - 2) = unit at hstep hlow hten htwo ⊢
  obtain ⟨ten, two⟩ := unit
  simp only at hstep hlow hten htwo ⊢
  have hbelow : b.lowest < b.quarters := by
    unfold lowest quarters
    split <;> omega
  have habove : b.quarters < b.highest := by
    unfold highest
    omega
  have hbottom : b.lowest * two < b.quarters * two := Nat.mul_lt_mul_of_pos_right hbelow htwo
  have htop : b.quarters * two < b.highest * two := Nat.mul_lt_mul_of_pos_right habove htwo
  have hvalue := Nat.div_add_mod (b.quarters * two) ten
  have hrest := Nat.mod_lt (b.quarters * two) hten
  rw [Nat.sub_mul] at hstep
  rw [Nat.mul_comm] at hvalue
  have hnext : (b.quarters * two / ten + 1) * ten = b.quarters * two / ten * ten + ten :=
    Nat.succ_mul _ _
  have hone : b.readsBack (b.quarters * two / ten) p = true ∨
      b.readsBack (b.quarters * two / ten + 1) p = true := by
    by_cases hnear : b.lowest * two < b.quarters * two / ten * ten
    · exact .inl (hlow _ hnear (by omega))
    · exact .inr (hlow _ (by omega) (by omega))
  split <;> simp_all

/-! ## Magnitudes -/

theorem ten_pow_le_two_pow : ∀ n < 1100, 10 ^ (n * 30103 / 100000) ≤ 2 ^ n := by decide +kernel

theorem two_pow_le_ten_pow : ∀ n < 1100, 2 ^ n ≤ 10 ^ ((n * 30103 + 99999) / 100000) := by
  decide +kernel

theorem zpow_estimate_le (l : ℤ) (hlow : -1100 < l) (hhigh : l < 1100) :
    (10 : ℚ) ^ (l * 30103 / 100000) ≤ 2 ^ l := by
  rcases Int.eq_nat_or_neg l with ⟨n, rfl | rfl⟩
  · have hnat := ten_pow_le_two_pow n (by omega)
    have hfloor : (n : ℤ) * 30103 / 100000 = ((n * 30103 / 100000 : ℕ) : ℤ) := by omega
    rw [hfloor, zpow_natCast, zpow_natCast]
    exact_mod_cast hnat
  · have hnat := two_pow_le_ten_pow n (by omega)
    have hfloor : -(n : ℤ) * 30103 / 100000 = -(((n * 30103 + 99999) / 100000 : ℕ) : ℤ) := by omega
    rw [hfloor, zpow_neg, zpow_neg, zpow_natCast, zpow_natCast]
    apply inv_anti₀ (by positivity)
    exact_mod_cast hnat

/-- What is known of the magnitude of a positive double. -/
structure Double (b : Binary) : Prop where
  mantissa_pos : 0 < b.mantissa
  mantissa_lt : b.mantissa < 2 ^ 53
  exponent_ge : -1074 ≤ b.exponent
  exponent_le : b.exponent ≤ 971
  atPowerOfTwo : b.atPowerOfTwo = true → b.mantissa = 2 ^ 52

theorem magnitude_le (b : Binary) (double : b.Double) :
    (10 : ℚ) ^ (b.magnitude - 1) ≤ b.quarters * 2 ^ (b.exponent - 2) := by
  have hge := double.exponent_ge
  have hle := double.exponent_le
  have hquarters : b.quarters < 2 ^ 55 := by
    have := double.mantissa_lt
    unfold quarters
    omega
  have hpos : b.quarters ≠ 0 := by
    have := double.mantissa_pos
    unfold quarters
    omega
  have hlog : b.quarters.log2 < 55 := (Nat.log2_lt hpos).mpr hquarters
  unfold magnitude
  simp only
  split
  · next hlt =>
    -- The estimate was kept, and the power of two that it was made from is no larger.
    have hestimate := zpow_estimate_le (b.quarters.log2 + (b.exponent - 2)) (by omega) (by omega)
    have hself : ((2 ^ b.quarters.log2 : ℕ) : ℚ) ≤ b.quarters :=
      Nat.cast_le.mpr (Nat.log2_self_le hpos)
    rw [add_sub_cancel_right]
    calc (10 : ℚ) ^ ((b.quarters.log2 + (b.exponent - 2)) * 30103 / 100000)
      _ ≤ 2 ^ ((b.quarters.log2 : ℤ) + (b.exponent - 2)) := hestimate
      _ = (2 ^ b.quarters.log2 : ℕ) * 2 ^ (b.exponent - 2) := by
        rw [zpow_add₀ (by norm_num), zpow_natCast, Nat.cast_pow, Nat.cast_ofNat]
      _ ≤ b.quarters * 2 ^ (b.exponent - 2) := by gcongr
  · next hge =>
    rw [add_sub_cancel_right]
    have hscaled := (scales_ge_iff ((b.quarters.log2 + (b.exponent - 2)) * 30103 / 100000 + 1)
      (b.exponent - 2) b.quarters 1).mp (by simpa using hge)
    simpa using hscaled

theorem onGrid?_seventeen (b : Binary) (double : b.Double) :
    (b.onGrid? (b.magnitude - 17)).isSome := by
  have hpos := double.mantissa_pos
  have hwidth : b.quarters < (b.highest - b.lowest) * 10 ^ 16 := by
    have hlt := double.mantissa_lt
    have hpower := double.atPowerOfTwo
    unfold highest lowest quarters
    split
    · next h =>
      have hmantissa := hpower h
      omega
    · omega
  have hstep : (10 : ℚ) ^ (b.magnitude - 17) <
      (b.highest - b.lowest : ℕ) * 2 ^ (b.exponent - 2) := by
    have hsplit : (10 : ℚ) ^ (b.magnitude - 1) = 10 ^ (b.magnitude - 17) * 10 ^ 16 := by
      rw [← zpow_natCast, ← zpow_add₀ (by norm_num)]
      congr 1
      omega
    have hmagnitude := b.magnitude_le double
    have hquarters : (b.quarters : ℚ) < (b.highest - b.lowest : ℕ) * 10 ^ 16 := by
      exact_mod_cast hwidth
    have hunit : (0 : ℚ) < 2 ^ (b.exponent - 2) := by positivity
    rw [hsplit] at hmagnitude
    have hscaled := mul_lt_mul_of_pos_right hquarters hunit
    linarith
  apply b.onGrid?_isSome _ hpos
  by_contra hcoarse
  have hscaled := (scales_le_iff (b.magnitude - 17) (b.exponent - 2) (b.highest - b.lowest) 1).mp
    (by simpa using hcoarse)
  simp only [Nat.cast_one, one_mul] at hscaled
  exact absurd hstep (not_lt.mpr hscaled)

/-! ## The search -/

theorem value_stripZeros (fuel : ℕ) (s : Scaled) : (stripZeros fuel s).value = s.value := by
  induction fuel generalizing s with
  | zero => rfl
  | succ fuel ih =>
    unfold stripZeros
    split
    · next hzero =>
      have hten : s.significand = s.significand / 10 * 10 := by omega
      rw [ih, Scaled.value, Scaled.value, zpow_add₀ (by norm_num), zpow_one]
      conv_rhs => rw [hten]
      push_cast
      ring
    · rfl

theorem search_near (b : Binary) (magnitude : ℤ) (left digits : ℕ)
    (h : ∃ i < left, (b.onGrid? (magnitude - (digits + i : ℕ))).isSome) :
    b.Near (b.search magnitude left digits).value := by
  induction left generalizing digits with
  | zero =>
    obtain ⟨i, hi, -⟩ := h
    omega
  | succ left ih =>
    unfold search
    simp only
    split
    · next c hc =>
      rw [value_stripZeros]
      exact b.onGrid?_near _ c hc
    · next hnone =>
      apply ih
      obtain ⟨i, hi, hsome⟩ := h
      cases i with
      | zero => simp [hnone] at hsome
      | succ i => exact ⟨i, by omega, by rwa [Nat.add_right_comm, Nat.add_assoc]⟩

/-- The shortest decimal of a double reads back as that double. -/
theorem shortest_near (b : Binary) (double : b.Double) : b.Near b.shortest.value :=
  b.search_near b.magnitude 17 1 ⟨16, by omega, b.onGrid?_seventeen double⟩

/-! ## Neighbours -/

/-- The bits of the first magnitude that is not finite. -/
def infinite : ℕ := 0x7FF0_0000_0000_0000

theorem ofBits_double (n : ℕ) (hpos : 0 < n) (hlt : n < infinite) : (ofBits n).Double := by
  unfold infinite at hlt
  unfold ofBits
  simp only
  split
  · next hzero =>
    refine ⟨?_, ?_, ?_, ?_, nofun⟩
    · simp only
      omega
    · simp only
      omega
    · simp
    · simp
  · next hnormal =>
    refine ⟨?_, ?_, ?_, ?_, ?_⟩
    · simp only
      omega
    · simp only
      omega
    · simp only
      omega
    · simp only
      omega
    · intro h
      simp only [decide_eq_true_eq] at h
      simp only [h.1]
      norm_num

theorem ofBits_parity (n : ℕ) : (ofBits n).mantissa % 2 = n % 2 := by
  unfold ofBits
  simp only
  split
  · simp only
    omega
  · simp only
    omega

theorem ofBits_fields (biased fraction : ℕ) (hbiased : biased < 0x800)
    (hfraction : fraction < 0x10_0000_0000_0000) :
    ofBits (biased * 0x10_0000_0000_0000 + fraction) =
      if biased = 0 then ⟨fraction, -1074, false⟩
      else ⟨fraction + 0x10_0000_0000_0000, (biased : ℤ) - 1075, fraction = 0 ∧ 1 < biased⟩ := by
  have hlow : (biased * 0x10_0000_0000_0000 + fraction) % 0x10_0000_0000_0000 = fraction := by omega
  have hhigh : (biased * 0x10_0000_0000_0000 + fraction) / 0x10_0000_0000_0000 % 0x800 = biased := by
    omega
  simp only [ofBits, hlow, hhigh]

theorem top_eq_bottom_within (b c : Binary) (hexponent : c.exponent = b.exponent)
    (hmantissa : c.mantissa = b.mantissa + 1) (hpower : c.atPowerOfTwo = false) :
    b.top = c.bottom := by
  have hends : b.highest = c.lowest := by
    simp only [highest, lowest, quarters, hpower, hmantissa, Bool.false_eq_true, if_false]
    omega
  rw [top, bottom, hends, hexponent]

theorem top_eq_bottom_across (b c : Binary) (hexponent : c.exponent = b.exponent + 1)
    (hbelow : b.mantissa + 1 = 2 * c.mantissa) (hpower : c.atPowerOfTwo = true) :
    b.top = c.bottom := by
  -- Across a power of two the unit doubles.
  have hends : b.highest = 2 * c.lowest := by
    simp only [highest, lowest, quarters, hpower, if_true]
    omega
  have hunit : (2 : ℚ) ^ (b.exponent + 1 - 2) = 2 * 2 ^ (b.exponent - 2) := by
    rw [add_sub_right_comm, zpow_add_one₀ (by norm_num), mul_comm]
  rw [top, bottom, hends, hexponent, hunit]
  push_cast
  ring

theorem top_eq_bottom (n : ℕ) (hlt : n < infinite) : (ofBits n).top = (ofBits (n + 1)).bottom := by
  obtain ⟨biased, fraction, hfraction, rfl⟩ : ∃ biased fraction, fraction < 0x10_0000_0000_0000 ∧
      n = biased * 0x10_0000_0000_0000 + fraction :=
    ⟨n / 0x10_0000_0000_0000, n % 0x10_0000_0000_0000, by omega, by omega⟩
  have hbiased : biased + 1 < 0x800 := by
    unfold infinite at hlt
    omega
  have hfields := ofBits_fields biased fraction (by omega) hfraction
  by_cases hlast : fraction + 1 < 0x10_0000_0000_0000
  · have hnext := ofBits_fields biased (fraction + 1) (by omega) hlast
    rw [Nat.add_assoc, hfields, hnext]
    by_cases hzero : biased = 0
    · rw [if_pos hzero, if_pos hzero]
      exact top_eq_bottom_within _ _ rfl rfl rfl
    · rw [if_neg hzero, if_neg hzero]
      exact top_eq_bottom_within _ _ rfl (Nat.add_right_comm _ _ _) (by simp)
  · have hnext := ofBits_fields (biased + 1) 0 hbiased (by omega)
    have hplace : biased * 0x10_0000_0000_0000 + fraction + 1 =
        (biased + 1) * 0x10_0000_0000_0000 + 0 := by omega
    rw [if_neg (Nat.succ_ne_zero biased)] at hnext
    rw [hplace, hfields, hnext]
    by_cases hzero : biased = 0
    · -- The first normal double has the unit of those below it.
      rw [if_pos hzero]
      exact top_eq_bottom_within _ _ (by simp [hzero]) (by simp only; omega) (by simp [hzero])
    · rw [if_neg hzero]
      exact top_eq_bottom_across _ _ (by push_cast; ring) (by simp only; omega)
        (decide_eq_true ⟨rfl, by omega⟩)

theorem bottom_lt_top (b : Binary) : b.bottom < b.top := by
  have hends : b.lowest < b.highest := by
    unfold lowest highest
    split <;> omega
  unfold bottom top
  gcongr

theorem top_le_bottom (i j : ℕ) (hlt : i < j) (hj : j ≤ infinite) :
    (ofBits i).top ≤ (ofBits j).bottom := by
  induction j with
  | zero => omega
  | succ j ih =>
    have hstep := top_eq_bottom j (by omega)
    rcases Nat.lt_succ_iff_lt_or_eq.mp hlt with hbelow | rfl
    · calc (ofBits i).top
        _ ≤ (ofBits j).bottom := ih hbelow (by omega)
        _ ≤ (ofBits j).top := (ofBits j).bottom_lt_top.le
        _ = (ofBits (j + 1)).bottom := hstep
    · exact hstep.le

/-- A real that is near to two doubles would be a midpoint that goes to both, and only one of two
neighbours is even. -/
theorem not_near_both (i j : ℕ) (hlt : i < j) (hj : j < infinite) (v : ℚ) (hi : (ofBits i).Near v) :
    ¬(ofBits j).Near v := by
  intro hj'
  have htop := hi.le.2
  have hbottom := hj'.le.1
  have horder := top_le_bottom i j hlt hj.le
  have hmiddle := top_eq_bottom i (by omega)
  have hnext : j = i + 1 := by
    by_contra hfar
    have hbetween := top_le_bottom (i + 1) j (by omega) hj.le
    have hwidth := (ofBits (i + 1)).bottom_lt_top
    linarith
  subst hnext
  have hparity := ofBits_parity i
  have hparity' := ofBits_parity (i + 1)
  unfold Near at hi hj'
  split at hi
  · split at hj'
    · omega
    · linarith [hj'.1]
  · linarith [hi.2]

theorem near_injective (i j : ℕ) (hi : i < infinite) (hj : j < infinite) (v : ℚ)
    (hnear : (ofBits i).Near v) (hnear' : (ofBits j).Near v) : i = j := by
  rcases Nat.lt_trichotomy i j with hlt | heq | hlt
  · exact absurd hnear' (not_near_both i j hlt hj v hnear)
  · exact heq
  · exact absurd hnear (not_near_both j i hlt hi v hnear')

theorem Near.pos {b : Binary} {v : ℚ} (double : b.Double) (h : b.Near v) : 0 < v := by
  have hpos := double.mantissa_pos
  have hlowest : 0 < b.lowest := by
    unfold lowest quarters
    split <;> omega
  have hbottom : 0 < b.bottom := by
    unfold bottom
    positivity
  exact hbottom.trans_le h.le.1

theorem shortest_value_pos (n : ℕ) (hpos : 0 < n) (hlt : n < infinite) :
    0 < (ofBits n).shortest.value := by
  have double := ofBits_double n hpos hlt
  exact (shortest_near _ double).pos double

theorem shortest_value_injective (i j : ℕ) (hi : 0 < i) (hi' : i < infinite) (hj : 0 < j)
    (hj' : j < infinite) (h : (ofBits i).shortest.value = (ofBits j).shortest.value) : i = j := by
  have hnear := shortest_near _ (ofBits_double i hi hi')
  have hnear' := shortest_near _ (ofBits_double j hj hj')
  rw [← h] at hnear'
  exact near_injective i j hi' hj' _ hnear hnear'

end Binary

end NeighborBench.Decimal

import NeighborBench.Proofs.Double.Bits

/-! # Rounding to doubles

A quotient of whole numbers is rounded to the nearest double, and to the even one of two that are
equally near. The rounding keeps two bits behind the mantissa, which say of the rest all that it has
to know.
-/

namespace NeighborBench.Double

open Float.Model (Format UnpackedFloat totalExponent)
open Float.Model.UnpackedFloat

/-! ## The nearest whole number -/

/-- The whole number nearest to `num / den`, and the even one of two that are equally near. -/
def nearest (num den : Nat) : Nat :=
  if 2 * (num % den) < den then num / den
  else if den < 2 * (num % den) then num / den + 1
  else num / den + num / den % 2

theorem nearest_bounds (num den : Nat) :
    num / den ≤ nearest num den ∧ nearest num den ≤ num / den + 1 := by
  unfold nearest
  split_ifs <;> omega

theorem le_nearest (num den g : Nat) (hden : 0 < den) (h : g * den ≤ num) : g ≤ nearest num den := by
  have hfloor : g ≤ num / den := (Nat.le_div_iff_mul_le hden).mpr h
  have hbounds := nearest_bounds num den
  omega

theorem nearest_mul_self (g den : Nat) (hden : 0 < den) : nearest (g * den) den = g := by
  unfold nearest
  rw [Nat.mul_mod_left, Nat.mul_div_cancel g hden, if_pos (by omega)]

theorem nearest_le (num den g : Nat) (hden : 0 < den) (h : num ≤ g * den) : nearest num den ≤ g := by
  rcases h.eq_or_lt with heq | hlt
  · rw [heq, nearest_mul_self g den hden]
  · have hfloor : num / den < g := (Nat.div_lt_iff_lt_mul hden).mpr hlt
    have hbounds := nearest_bounds num den
    omega

theorem nearest_within (num den : Nat) (hden : 0 < den) :
    2 * num ≤ 2 * (nearest num den * den) + den ∧ 2 * (nearest num den * den) ≤ 2 * num + den := by
  have hvalue := Nat.mod_add_div' num den
  have hrest := Nat.mod_lt num hden
  have hnext : (num / den + 1) * den = num / den * den + den := Nat.succ_mul _ _
  unfold nearest
  split_ifs
  · omega
  · omega
  · rcases Nat.mod_two_eq_zero_or_one (num / den) with heven | hodd
    · rw [heven, Nat.add_zero]
      omega
    · rw [hodd]
      omega

theorem nearest_le_of_lt_half (num den g : Nat) (h : 2 * num < 2 * (g * den) + den) :
    nearest num den ≤ g := by
  have hbounds := nearest_bounds num den
  have hvalue := Nat.mod_add_div' num den
  rcases Nat.lt_trichotomy (num / den) g with hlt | rfl | hgt
  · omega
  · unfold nearest
    rw [if_pos (by omega)]
  · have hstep : (g + 1) * den ≤ num / den * den := Nat.mul_le_mul_right den hgt
    rw [Nat.succ_mul] at hstep
    omega

theorem nearest_mono (num other den : Nat) (h : num ≤ other) :
    nearest num den ≤ nearest other den := by
  have hfloor : num / den ≤ other / den := Nat.div_le_div_right h
  rcases hfloor.eq_or_lt with heq | hlt
  · have hnum := Nat.mod_add_div num den
    have hother := Nat.mod_add_div other den
    rw [heq] at hnum
    unfold nearest
    rw [heq]
    split_ifs <;> omega
  · have hbounds := nearest_bounds num den
    have hbounds' := nearest_bounds other den
    omega

theorem nearest_mul_right (num den k : Nat) (hk : 0 < k) :
    nearest (num * k) (den * k) = nearest num den := by
  have hscale : ∀ a b : Nat, a * k < b * k ↔ a < b := fun a b => Nat.mul_lt_mul_right hk
  unfold nearest
  rw [Nat.mul_div_mul_right num den hk, Nat.mul_mod_mul_right, ← Nat.mul_assoc]
  simp only [hscale]

/-! ## Two bits behind the mantissa -/

/-- The mantissa is the whole part of `num / den`, and the two bits say how far it is from half way to
the next one. -/
structure Stands (em : ExtendedMantissa) (num den : Nat) : Prop where
  mantissa : em.mantissa = num / den
  roundBit : em.roundBit = true ↔ den ≤ 2 * (num % den)
  stickyBit : em.stickyBit = true ↔ 2 * (num % den) ≠ 0 ∧ 2 * (num % den) ≠ den

theorem stands_of_fraction (num den : Nat) (hden : 0 < den) :
    Stands (.ofMantissaAndAccuracy (num / den) (accuracyOfFraction (num % den) den)) num den := by
  have hrest := Nat.mod_lt num hden
  unfold accuracyOfFraction
  split
  · next h =>
    constructor <;> simp [ExtendedMantissa.ofMantissaAndAccuracy, h]
    omega
  · next h =>
    rcases hcompare : compare (2 * (num % den)) den with _ | _ | _
    · rw [Nat.compare_eq_lt] at hcompare
      constructor <;> simp [ExtendedMantissa.ofMantissaAndAccuracy] <;> omega
    · rw [Nat.compare_eq_eq] at hcompare
      constructor <;> simp [ExtendedMantissa.ofMantissaAndAccuracy] <;> omega
    · rw [Nat.compare_eq_gt] at hcompare
      constructor <;> simp [ExtendedMantissa.ofMantissaAndAccuracy] <;> omega

theorem Stands.shiftRightOne {em : ExtendedMantissa} {num den : Nat} (h : Stands em num den)
    (hden : 0 < den) : Stands em.shiftRightOne num (den * 2) := by
  have hrest : num % (den * 2) = num % den + den * (num / den % 2) := Nat.mod_mul
  -- The bit that is shifted out is the last one of the mantissa.
  have hparity : num / den % 2 = 0 ∧ num % (den * 2) = num % den ∨
      num / den % 2 = 1 ∧ num % (den * 2) = num % den + den := by
    rcases Nat.mod_two_eq_zero_or_one (num / den) with hodd | hodd <;> rw [hodd] at hrest <;> omega
  have hlt := Nat.mod_lt num hden
  constructor
  · simp [ExtendedMantissa.shiftRightOne, h.mantissa, Nat.div_div_eq_div_mul]
  · simp only [ExtendedMantissa.shiftRightOne, h.mantissa, bne_iff_ne]
    omega
  · simp only [ExtendedMantissa.shiftRightOne, Bool.or_eq_true, h.roundBit, h.stickyBit]
    omega

theorem Stands.shiftRight {em : ExtendedMantissa} {num den : Nat} (h : Stands em num den)
    (hden : 0 < den) (s : Nat) : Stands (em >>> s) num (den * 2 ^ s) := by
  induction s with
  | zero => rwa [Nat.pow_zero, Nat.mul_one]
  | succ s ih =>
    have hnext := ih.shiftRightOne (Nat.mul_pos hden (Nat.two_pow_pos s))
    rwa [Nat.mul_assoc, ← Nat.pow_succ] at hnext

theorem Stands.roundedMantissa {em : ExtendedMantissa} {num den : Nat} (h : Stands em num den) :
    em.roundedMantissa = nearest num den := by
  have hround := h.roundBit
  have hsticky := h.stickyBit
  unfold nearest
  rw [← h.mantissa]
  rcases em with ⟨m, _ | _, _ | _⟩ <;>
    simp only [ExtendedMantissa.roundedMantissa, ExtendedMantissa.accuracy,
      Accuracy.roundToNearestEven, Bool.false_eq_true, false_iff, true_iff] at * <;>
    split_ifs <;> omega

/-! ## Doubles of full precision -/

/-- The positive double `mantissa · 2 ^ exponent`, whose mantissa has all of its bits. -/
structure Normal (x : Float) (m : Nat) (e : Int) : Prop where
  packed : ∃ pos, x = .ofModel (.pack (.finite .positive m e pos))
  mantissa : 2 ^ 52 ≤ m ∧ m < 2 ^ 53
  exponent : -1074 ≤ e ∧ e ≤ 971

theorem Normal.eq {x y : Float} {m : Nat} {e : Int} (hx : Normal x m e) (hy : Normal y m e) : x = y := by
  obtain ⟨_, hx⟩ := hx.packed
  obtain ⟨_, hy⟩ := hy.packed
  rw [hx, hy]

theorem log2_of_mantissa {m : Nat} (h : 2 ^ 52 ≤ m ∧ m < 2 ^ 53) : m.log2 = 52 :=
  (Nat.log2_eq_iff (by omega)).mpr h

section

variable {m b : Nat} {e : Int} (hm : 2 ^ 52 ≤ m ∧ m < 2 ^ 53) (hb : (b : Int) = e + 1075)
  (hfits : 1 ≤ b ∧ b ≤ 2046)

include hm hb hfits

theorem pack_of_mantissa (pos : 0 < m) : pack Format.binary64 (.finite .positive m e pos) =
    packComponents Format.binary64 .positive (BitVec.ofNat 11 b) (BitVec.ofNat 52 m) := by
  have hbiased : (e + 1023 + 52).toNat = b := by omega
  unfold pack
  change (if 2 ^ 11 ≤ (e + 1023 + 52).toNat + 1 then _
    else if m.log2 + 1 = 53 then packComponents Format.binary64 .positive
      (BitVec.ofNat 11 (e + 1023 + 52).toNat) (BitVec.ofNat 52 m) else _) = _
  rw [hbiased, if_neg (by omega), if_pos (by rw [log2_of_mantissa hm])]

theorem unpack_of_components (pos : 0 < m) : UnpackedFloat.unpack Format.binary64
    (packComponents Format.binary64 .positive (BitVec.ofNat 11 b) (BitVec.ofNat 52 m)) =
      .finite .positive m e pos := by
  have hexponent : (BitVec.ofNat 11 b).toNat = b := by
    rw [BitVec.toNat_ofNat]
    omega
  -- Neither the exponent of small numbers nor that of infinity.
  have hzero : BitVec.ofNat 11 b ≠ 0#11 := by
    intro hzero
    rw [hzero, BitVec.toNat_zero] at hexponent
    omega
  have hones : BitVec.ofNat 11 b ≠ -1#11 := by
    intro hones
    rw [hones] at hexponent
    change 2047 = b at hexponent
    omega
  have hmantissa : (1#1 ++ BitVec.ofNat 52 m).toNat = m := by
    rw [BitVec.toNat_append, ← Nat.shiftLeft_add_eq_or_of_lt (BitVec.isLt _), BitVec.toNat_ofNat]
    change 2 ^ 52 + m % 2 ^ 52 = m
    omega
  have hplace : (b : Int) - ((Format.binary64.exponentBias : Int) + 52) = e := by
    rw [hb]
    change e + 1075 - (1023 + 52) = e
    omega
  unfold UnpackedFloat.unpack
  simp only [unpackExponent_packComponents, unpackMantissa_packComponents,
    unpackSign_packComponents, if_neg hones, if_neg hzero, hexponent, hmantissa]
  change UnpackedFloat.finite (Sign.ofBitVec 0#1) m
    ((b : Int) - ((Format.binary64.exponentBias : Int) + 52)) _ = _
  simp only [hplace]
  rfl

end

theorem Normal.unpack {x : Float} {m : Nat} {e : Int} (h : Normal x m e) :
    ∃ pos, x.toModel.unpack = .finite .positive m e pos := by
  obtain ⟨pos, hx⟩ := h.packed
  obtain ⟨hmin, hmax⟩ := h.exponent
  obtain ⟨b, hb⟩ : ∃ b : Nat, (b : Int) = e + 1075 := ⟨(e + 1075).toNat, by omega⟩
  have hfits : 1 ≤ b ∧ b ≤ 2046 := by omega
  refine ⟨pos, ?_⟩
  rw [hx]
  change UnpackedFloat.unpack Format.binary64 (pack Format.binary64 (.finite .positive m e pos)) = _
  rw [pack_of_mantissa h.mantissa hb hfits pos, unpack_of_components h.mantissa hb hfits pos]

theorem Normal.toBits {x : Float} {m : Nat} {e : Int} (h : Normal x m e) :
    x.toBits.toNat = (e + 1075).toNat * 0x10_0000_0000_0000 + (m - 0x10_0000_0000_0000) := by
  have hm := h.mantissa
  obtain ⟨pos, hx⟩ := h.packed
  obtain ⟨hmin, hmax⟩ := h.exponent
  obtain ⟨b, hb⟩ : ∃ b : Nat, (b : Int) = e + 1075 := ⟨(e + 1075).toNat, by omega⟩
  have hpack := pack_of_mantissa hm hb (by omega) pos
  rw [hx]
  change (pack Format.binary64 (.finite .positive m e pos)).toNat = _
  rw [hpack]
  change (0#1 ++ BitVec.ofNat 11 b ++ BitVec.ofNat 52 m).toNat = _
  rw [BitVec.toNat_append, BitVec.toNat_append, ← Nat.shiftLeft_add_eq_or_of_lt (BitVec.isLt _),
    ← Nat.shiftLeft_add_eq_or_of_lt (BitVec.isLt _)]
  simp only [BitVec.toNat_ofNat, Nat.shiftLeft_eq]
  omega

theorem le_iff_unpack (x y : Float) :
    x ≤ y ↔ x.toModel.unpack.le y.toModel.unpack = true := by
  change decide (x.toModel.unpack.le y.toModel.unpack = true) = true ↔ _
  rw [decide_eq_true_iff]

theorem Normal.le_of_lex {x y : Float} {m m' : Nat} {e e' : Int} (hx : Normal x m e)
    (hy : Normal y m' e') (h : e < e' ∨ e = e' ∧ m ≤ m') : x ≤ y := by
  obtain ⟨_, hx⟩ := hx.unpack
  obtain ⟨_, hy⟩ := hy.unpack
  rw [le_iff_unpack, hx, hy]
  change ((compare e e').then (compare m m')).isLE = true
  rcases h with hlt | ⟨rfl, hle⟩
  · rw [Int.compare_eq_lt.mpr hlt]
    rfl
  · rw [Int.compare_eq_eq.mpr rfl]
    exact Nat.isLE_compare.mpr hle

/-! ## Rounding -/

/-- `x` is the double nearest to `num / den · 2 ^ e`. A mantissa that is rounded up may need one bit
more. -/
inductive Rounds (x : Float) (num den : Nat) (e : Int) : Prop where
  | kept (normal : Normal x (nearest num den) e)
  | carried (full : nearest num den = 2 ^ 53) (normal : Normal x (2 ^ 52) (e + 1))

theorem Rounds.normal {x : Float} {num den : Nat} {e : Int} (h : Rounds x num den e) :
    ∃ m f, Normal x m f ∧ e ≤ f ∧ f ≤ e + 1 := by
  rcases h with hx | ⟨-, hx⟩
  · exact ⟨_, _, hx, by omega, by omega⟩
  · exact ⟨_, _, hx, by omega, by omega⟩

theorem Rounds.lex {x y : Float} {num den num' den' : Nat} {e e' : Int} (hx : Rounds x num den e)
    (hy : Rounds y num' den' e') (h : e < e' ∨ e = e' ∧ nearest num den ≤ nearest num' den') :
    ∃ m f m' f', Normal x m f ∧ Normal y m' f' ∧ (f < f' ∨ f = f' ∧ m ≤ m') ∧
      e ≤ f ∧ f' ≤ e' + 1 := by
  rcases hx with hx | ⟨hfull, hx⟩ <;> rcases hy with hy | ⟨hfull', hy⟩ <;>
    refine ⟨_, _, _, _, hx, hy, ?_, by omega, by omega⟩
  · exact h
  · omega
  · have hlow := hy.mantissa
    omega
  · omega

theorem Rounds.le_of_lex {x y : Float} {num den num' den' : Nat} {e e' : Int}
    (hx : Rounds x num den e) (hy : Rounds y num' den' e')
    (h : e < e' ∨ e = e' ∧ nearest num den ≤ nearest num' den') : x ≤ y := by
  obtain ⟨m, f, m', f', hx, hy, hlex, -⟩ := hx.lex hy h
  exact hx.le_of_lex hy hlex

theorem Rounds.normal_of_exact {x : Float} {m den : Nat} {e : Int} (h : Rounds x (m * den) den e)
    (hden : 0 < den) (hm : m < 2 ^ 53) : Normal x m e := by
  rcases h with hx | ⟨hfull, -⟩
  · rwa [nearest_mul_self m den hden] at hx
  · rw [nearest_mul_self m den hden] at hfull
    omega

theorem targetExponent_eq (m s : Nat) (e : Int) (hlog : m.log2 = 52 + s) (hmin : -1074 ≤ e + s) :
    Format.binary64.targetExponent (totalExponent m e) = e + s := by
  unfold Format.targetExponent totalExponent
  rw [hlog]
  change max (((52 + s : Nat) : Int) + 1 + e - 53) (-1074) = _
  omega

theorem shift_fraction (m s : Nat) (e : Int) (acc : Accuracy) (hlog : m.log2 = 52 + s)
    (hmin : -1074 ≤ e + s) :
    shiftToTargetExponent Format.binary64 m e acc =
      (ExtendedMantissa.ofMantissaAndAccuracy m acc >>> s, e + s) := by
  have hshift : (e + s - e).toNat = s := by omega
  unfold shiftToTargetExponent shiftToExponent
  rw [targetExponent_eq m s e hlog hmin]
  simp only [hshift]

theorem roundWithAccuracy_of_shifts {m : Nat} {e e₁ e₂ : Int} {acc : Accuracy}
    {first second : ExtendedMantissa}
    (h₁ : shiftToTargetExponent Format.binary64 m e acc = (first, e₁))
    (h₂ : shiftToTargetExponent Format.binary64 first.roundedMantissa e₁ .exact = (second, e₂))
    (pos : 0 < second.mantissa) :
    roundWithAccuracy Format.binary64 .positive m e acc =
      .finite .positive second.mantissa e₂ pos := by
  -- A second shift makes room where the rounding has filled the mantissa.
  unfold roundWithAccuracy
  simp only [h₁, h₂]
  rw [dif_neg (by omega)]

theorem rounds_of_fraction (num den s : Nat) (e : Int) (hden : 0 < den)
    (hlog : (num / den).log2 = 52 + s) (hmin : -1074 ≤ e + s) (hmax : e + s ≤ 970) :
    Rounds (.ofModel (.pack (roundWithAccuracy Format.binary64 .positive (num / den) e
      (accuracyOfFraction (num % den) den)))) num (den * 2 ^ s) (e + s) := by
  -- The fraction is cut off where its mantissa has all of its bits, and rounded there.
  have hstands := (stands_of_fraction num den hden).shiftRight hden s
  have hscaled : 0 < den * 2 ^ s := Nat.mul_pos hden (Nat.two_pow_pos s)
  have hpos : num / den ≠ 0 := by
    intro hzero
    rw [hzero, Nat.log2_zero] at hlog
    omega
  obtain ⟨hfloor, hceil⟩ := (Nat.log2_eq_iff hpos).mp hlog
  have hlow : 2 ^ 52 ≤ nearest num (den * 2 ^ s) := by
    apply le_nearest num (den * 2 ^ s) _ hscaled
    calc 2 ^ 52 * (den * 2 ^ s)
      _ = 2 ^ (52 + s) * den := by ring
      _ ≤ num := (Nat.le_div_iff_mul_le hden).mp hfloor
  have hhigh : nearest num (den * 2 ^ s) ≤ 2 ^ 53 := by
    apply nearest_le num (den * 2 ^ s) _ hscaled
    calc num
      _ ≤ 2 ^ (52 + s + 1) * den := le_of_lt ((Nat.div_lt_iff_lt_mul hden).mp hceil)
      _ = 2 ^ 53 * (den * 2 ^ s) := by ring
  have hfirst := shift_fraction (num / den) s e (accuracyOfFraction (num % den) den) hlog hmin
  rcases hhigh.lt_or_eq with hfits | hfull
  · have hsecond := shift_fraction (nearest num (den * 2 ^ s)) 0 (e + s) .exact
      (log2_of_mantissa ⟨hlow, hfits⟩) (by omega)
    rw [← hstands.roundedMantissa, Int.natCast_zero, Int.add_zero] at hsecond
    have hpos : 0 < nearest num (den * 2 ^ s) := by omega
    rw [← hstands.roundedMantissa] at hlow hfits hpos
    rw [roundWithAccuracy_of_shifts hfirst hsecond hpos]
    apply Rounds.kept
    rw [← hstands.roundedMantissa]
    exact ⟨⟨hpos, rfl⟩, ⟨hlow, hfits⟩, ⟨hmin, by omega⟩⟩
  · have hsecond := shift_fraction (2 ^ 53) 1 (e + s) .exact Nat.log2_two_pow (by omega)
    have hhalf : ExtendedMantissa.ofMantissaAndAccuracy (2 ^ 53) .exact >>> 1 =
        ⟨2 ^ 52, false, false⟩ := rfl
    rw [hhalf, ← hfull, ← hstands.roundedMantissa] at hsecond
    rw [roundWithAccuracy_of_shifts hfirst hsecond (by decide)]
    exact .carried hfull ⟨⟨by decide, rfl⟩, by decide, by omega⟩

end NeighborBench.Double

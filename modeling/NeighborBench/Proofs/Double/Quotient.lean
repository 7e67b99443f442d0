import NeighborBench.Proofs.Double.Product

/-! # Quotients of whole numbers as doubles

Two whole numbers are rounded to doubles, and their quotient is rounded again. Rounding keeps the
order, so the quotient of a part and its whole is between zero and one.
-/

namespace NeighborBench.Double

open Float.Model (Format UnpackedFloat totalExponent)
open Float.Model.UnpackedFloat

/-! ## Whole numbers -/

theorem rounds_shifted (n j : Nat) (hpos : n ≠ 0) (hj : 52 ≤ n.log2 + j) (hlog : n.log2 ≤ 1000) :
    Rounds (.ofModel (.pack (roundWithAccuracy Format.binary64 .positive (n * 2 ^ j) (-j) .exact)))
      (n * 2 ^ 52) (2 ^ n.log2) (n.log2 - 52) := by
  obtain ⟨s, hs⟩ : ∃ s, n.log2 + j = 52 + s := ⟨n.log2 + j - 52, by omega⟩
  have hplace : (-j : Int) + s = n.log2 - 52 := by omega
  have hrounds := rounds_of_whole (n * 2 ^ j) s (-j) (by rw [log2_mul_two_pow n j hpos, hs])
    (by omega) (by omega)
  have hsame : nearest (n * 2 ^ j) (2 ^ s) = nearest (n * 2 ^ 52) (2 ^ n.log2) := by
    rw [← nearest_mul_right (n * 2 ^ j) (2 ^ s) (2 ^ 52) (Nat.two_pow_pos 52),
      ← nearest_mul_right (n * 2 ^ 52) (2 ^ n.log2) (2 ^ j) (Nat.two_pow_pos j), ← Nat.pow_add,
      ← Nat.pow_add, hs, Nat.add_comm s, Nat.mul_right_comm]
  rw [hplace] at hrounds
  rcases hrounds with hx | ⟨hfull, hx⟩
  · rw [hsame] at hx
    exact .kept hx
  · rw [hsame] at hfull
    exact .carried hfull hx

theorem rounds_toFloat (n : Nat) (hpos : n ≠ 0) (hsmall : n < 2 ^ 53) :
    Rounds n.toUInt64.toFloat (n * 2 ^ 52) (2 ^ n.log2) (n.log2 - 52) := by
  have hlog : n.log2 < 53 := (Nat.log2_lt hpos).mpr hsmall
  have hvalue : n.toUInt64.toNat = n := by
    rw [Nat.toUInt64, UInt64.toNat_ofNat']
    omega
  have htarget : Format.binary64.targetExponent (totalExponent n 0) = n.log2 - 52 := by
    unfold Format.targetExponent totalExponent
    change max ((n.log2 : Int) + 1 + 0 - 53) (-1074) = _
    omega
  have hshift : (-((n.log2 : Int) - 52)).toNat = 52 - n.log2 := by omega
  have hwhole : UnpackedFloat.ofNat Format.binary64 n =
      roundWithAccuracy Format.binary64 .positive (n * 2 ^ (52 - n.log2)) (-(52 - n.log2 : Nat))
        .exact := by
    unfold UnpackedFloat.ofNat UnpackedFloat.ofInt UnpackedFloat.normalize
    rw [Int.compare_eq_gt.mpr (by omega)]
    simp only [UnpackedFloat.round, Int.toNat_natCast, htarget, decreaseExponent, Int.zero_sub, hshift,
      Nat.shiftLeft_eq]
  change Rounds (.ofModel (.pack (UnpackedFloat.ofNat Format.binary64 n.toUInt64.toNat))) _ _ _
  rw [hvalue, hwhole]
  exact rounds_shifted n (52 - n.log2) hpos (by omega) (by omega)

theorem ofScientific_whole (n : Nat) (hpos : n ≠ 0) :
    ofScientific Format.binary64 n 0 =
      roundWithAccuracy Format.binary64 .positive (n * 2 ^ 53) (-(53 : Nat)) .exact := by
  have hlimit : (0 : Int) < 2 ^ Format.binary64.exponentBits := by decide
  have hten : 10 ^ Int.toNat 0 = 1 := rfl
  unfold UnpackedFloat.ofScientific
  rw [dif_neg hpos, if_neg (by decide), if_neg (by omega), if_pos (by decide)]
  unfold UnpackedFloat.mul
  simp only [hten, Nat.mul_one, Int.add_zero, Nat.shiftLeft_eq]
  rfl

theorem rounds_ofNat (n : Nat) (hpos : n ≠ 0) (hlog : n.log2 ≤ 1000) :
    Rounds (Float.ofNat n) (n * 2 ^ 52) (2 ^ n.log2) (n.log2 - 52) := by
  change Rounds (Float.ofScientific n false 0) _ _ _
  unfold Float.ofScientific
  by_cases hsmall : n < 2 ^ 53
  · have hrounds := rounds_toFloat n hpos hsmall
    have hlog : n.log2 < 53 := (Nat.log2_lt hpos).mpr hsmall
    obtain ⟨m, e, hnormal, -, hmax⟩ := hrounds.normal
    rw [dif_pos ⟨hsmall, by decide⟩]
    change Rounds (n.toUInt64.toFloat * 1) _ _ _
    rwa [hnormal.mul_one (by omega)]
  · rw [dif_neg (by omega)]
    change Rounds (.ofModel (.pack (ofScientific Format.binary64 n 0))) _ _ _
    rw [ofScientific_whole n hpos]
    exact rounds_shifted n 53 hpos (by omega) hlog

theorem normal_ofNat (n : Nat) (hpos : n ≠ 0) (hsmall : n < 2 ^ 53) :
    Normal (.ofNat n) (n * 2 ^ (52 - n.log2)) (n.log2 - 52) := by
  have hlog : n.log2 < 53 := (Nat.log2_lt hpos).mpr hsmall
  have hfull : (n * 2 ^ (52 - n.log2)).log2 = 52 := by
    rw [log2_mul_two_pow n _ hpos]
    omega
  have hbounds := (Nat.log2_eq_iff (Nat.mul_ne_zero hpos (Nat.two_pow_pos _).ne')).mp hfull
  have hsplit : n * 2 ^ 52 = n * 2 ^ (52 - n.log2) * 2 ^ n.log2 := by
    rw [Nat.mul_assoc, ← Nat.pow_add, Nat.sub_add_cancel (by omega)]
  have hrounds := rounds_ofNat n hpos (by omega)
  rw [hsplit] at hrounds
  exact hrounds.normal_of_exact (Nat.two_pow_pos _) hbounds.2

/-! ## Quotients -/

theorem divCore_of_normal {m m' : Nat} {e e' : Int} (hm : 2 ^ 52 ≤ m ∧ m < 2 ^ 53)
    (hm' : 2 ^ 52 ≤ m' ∧ m' < 2 ^ 53) (hmin : -1021 ≤ e - e') :
    divCore Format.binary64 m e m' e' =
      (m * 2 ^ 53 / m', e - e' - 53, accuracyOfFraction (m * 2 ^ 53 % m') m') := by
  have htarget : Format.binary64.targetExponent (totalExponent m e - totalExponent m' e') =
      e - e' - 53 := by
    unfold Format.targetExponent totalExponent
    rw [log2_of_mantissa hm, log2_of_mantissa hm']
    change max ((((52 : Nat) : Int) + 1 + e - (((52 : Nat) : Int) + 1 + e')) - 53) (-1074) = _
    omega
  have hleast : min (e - e') (e - e' - 53) = e - e' - 53 := by omega
  have hshift : (e - e' - (e - e' - 53)).toNat = 53 := by omega
  unfold divCore
  simp only [htarget, hleast, hshift, Nat.shiftLeft_eq]

theorem log2_quotient {m m' : Nat} (hm : 2 ^ 52 ≤ m ∧ m < 2 ^ 53) (hm' : 2 ^ 52 ≤ m' ∧ m' < 2 ^ 53) :
    ∃ s, (m * 2 ^ 53 / m').log2 = 52 + s ∧ (s = 0 ∧ m < m' ∨ s = 1 ∧ m' ≤ m) := by
  -- The quotient has one bit more unless its dividend has the smaller mantissa.
  have hpos : 0 < m' := by omega
  have hlow : 2 ^ 52 ≤ m * 2 ^ 53 / m' := by
    rw [Nat.le_div_iff_mul_le hpos]
    omega
  by_cases hlt : m < m'
  · refine ⟨0, (Nat.log2_eq_iff (by omega)).mpr ⟨hlow, ?_⟩, .inl ⟨rfl, hlt⟩⟩
    rw [Nat.div_lt_iff_lt_mul hpos]
    omega
  · refine ⟨1, (Nat.log2_eq_iff (by omega)).mpr ⟨?_, ?_⟩, .inr ⟨rfl, by omega⟩⟩
    · rw [Nat.le_div_iff_mul_le hpos]
      omega
    · rw [Nat.div_lt_iff_lt_mul hpos]
      omega

theorem Normal.div {x y : Float} {m m' : Nat} {e e' : Int} (hx : Normal x m e) (hy : Normal y m' e')
    (hmin : -1021 ≤ e - e') (hmax : e - e' ≤ 1000) :
    ∃ s : Nat, (s = 0 ∧ m < m' ∨ s = 1 ∧ m' ≤ m) ∧
      Rounds (x / y) (m * 2 ^ 53) (m' * 2 ^ s) (e - e' - 53 + s) := by
  obtain ⟨s, hlog, hs⟩ := log2_quotient hx.mantissa hy.mantissa
  obtain ⟨_, hx'⟩ := hx.unpack
  obtain ⟨_, hy'⟩ := hy.unpack
  refine ⟨s, hs, ?_⟩
  have hquotient : x / y = .ofModel (.pack
      (UnpackedFloat.div Format.binary64 x.toModel.unpack y.toModel.unpack)) := rfl
  rw [hx', hy', UnpackedFloat.div, divCore_of_normal hx.mantissa hy.mantissa hmin] at hquotient
  rw [hquotient]
  exact rounds_of_fraction _ _ s _ (by omega) hlog (by omega) (by omega)

theorem nearest_quotient_lt {m m' s : Nat} (hm : 2 ^ 52 ≤ m ∧ m < 2 ^ 53)
    (hm' : 2 ^ 52 ≤ m' ∧ m' < 2 ^ 53) (hs : s = 0 ∧ m < m' ∨ s = 1 ∧ m' ≤ m) :
    nearest (m * 2 ^ 53) (m' * 2 ^ s) < 2 ^ 53 := by
  have hfits : m * 2 ^ 53 ≤ (2 ^ 53 - 1) * (m' * 2 ^ s) := by
    rcases hs with ⟨rfl, hlt⟩ | ⟨rfl, hge⟩
    · omega
    · omega
  have hle := nearest_le (m * 2 ^ 53) (m' * 2 ^ s) (2 ^ 53 - 1)
    (Nat.mul_pos (by omega) (Nat.two_pow_pos s)) hfits
  omega

theorem Normal.normal_div {x y : Float} {m m' : Nat} {e e' : Int} (hx : Normal x m e)
    (hy : Normal y m' e') (hmin : -1021 ≤ e - e') (hmax : e - e' ≤ 1000) :
    ∃ s : Nat, s ≤ 1 ∧ Normal (x / y) (nearest (m * 2 ^ 53) (m' * 2 ^ s)) (e - e' - 53 + s) := by
  -- The mantissa of a quotient never needs one bit more.
  obtain ⟨s, hs, hrounds⟩ := hx.div hy hmin hmax
  have hlt := nearest_quotient_lt hx.mantissa hy.mantissa hs
  rcases hrounds with hnormal | ⟨hfull, -⟩
  · exact ⟨s, by omega, hnormal⟩
  · omega

/-! ## A part and its whole -/

theorem Normal.nonneg {x : Float} {m : Nat} {e : Int} (h : Normal x m e) : 0 ≤ x := by
  obtain ⟨_, hx⟩ := h.unpack
  have hzero : (0 : Float).toModel.unpack = .zero .positive := rfl
  rw [le_iff_unpack, hx, hzero]
  rfl

theorem Normal.zero_div {x : Float} {m : Nat} {e : Int} (h : Normal x m e) : 0 / x = 0 := by
  obtain ⟨_, hx⟩ := h.unpack
  have hzero : (0 : Float).toModel.unpack = .zero .positive := rfl
  have hquotient : 0 / x = .ofModel (.pack
      (UnpackedFloat.div Format.binary64 (0 : Float).toModel.unpack x.toModel.unpack)) := rfl
  rw [hx, hzero] at hquotient
  exact hquotient

theorem Normal.div_le_one {x y : Float} {m m' : Nat} {e e' : Int} (hx : Normal x m e)
    (hy : Normal y m' e') (hlex : e < e' ∨ e = e' ∧ m ≤ m') (hmin : -1021 ≤ e - e') : x / y ≤ 1 := by
  obtain ⟨s, hs, hrounds⟩ := hx.div hy hmin (by omega)
  have hone : Rounds 1 (2 ^ 52 * 1) 1 (-52) := by
    apply Rounds.kept
    rw [nearest_mul_self _ 1 Nat.one_pos]
    exact normal_one
  apply hrounds.le_of_lex hone
  have hlow := hx.mantissa
  rcases hlex with hlt | ⟨rfl, hle⟩
  · omega
  · rcases hs with ⟨rfl, hlt⟩ | ⟨rfl, hge⟩
    · omega
    · have hsame : m = m' := by omega
      subst hsame
      refine .inr ⟨by omega, ?_⟩
      rw [nearest_mul_self _ 1 Nat.one_pos]
      apply nearest_le _ _ _ (by omega)
      omega

theorem Normal.div_self {x : Float} {m : Nat} {e : Int} (h : Normal x m e) : x / x = 1 := by
  obtain ⟨s, hs, hrounds⟩ := h.div h (by omega) (by omega)
  have hone : s = 1 := by omega
  subst hone
  have hlow := h.mantissa
  have hwhole : m * 2 ^ 53 = 2 ^ 52 * (m * 2 ^ 1) := by omega
  have hplace : e - e - 53 + (1 : Nat) = -52 := by omega
  rw [hwhole, hplace] at hrounds
  exact (hrounds.normal_of_exact (by omega) (by decide)).eq normal_one

theorem ofNat_div_ofNat (c d : Nat) (hcd : c ≤ d) (hpos : d ≠ 0) (hlog : d.log2 ≤ 1000) :
    0 ≤ Float.ofNat c / Float.ofNat d ∧ Float.ofNat c / Float.ofNat d ≤ 1 ∧
      (c = d → Float.ofNat c / Float.ofNat d = 1) := by
  have hd := rounds_ofNat d hpos hlog
  by_cases hc : c = 0
  · subst hc
    obtain ⟨m, e, hnormal, -⟩ := hd.normal
    have hzero : Float.ofNat 0 / Float.ofNat d = 0 := hnormal.zero_div
    rw [hzero]
    exact ⟨by decide, by decide, fun h => absurd h.symm hpos⟩
  · have hle : c.log2 ≤ d.log2 := (Nat.le_log2 hpos).mpr ((Nat.log2_self_le hc).trans hcd)
    have hlex : (c.log2 : Int) - 52 < d.log2 - 52 ∨ (c.log2 : Int) - 52 = d.log2 - 52 ∧
        nearest (c * 2 ^ 52) (2 ^ c.log2) ≤ nearest (d * 2 ^ 52) (2 ^ d.log2) := by
      rcases hle.lt_or_eq with hlt | heq
      · omega
      · rw [heq]
        exact .inr ⟨rfl, nearest_mono _ _ _ (Nat.mul_le_mul_right _ hcd)⟩
    obtain ⟨m, e, m', e', hx, hy, hlex, hlow, hhigh⟩ :=
      (rounds_ofNat c hc (hle.trans hlog)).lex hd hlex
    obtain ⟨s, -, hquotient⟩ := hx.div hy (by omega) (by omega)
    obtain ⟨_, _, hnormal, -⟩ := hquotient.normal
    refine ⟨hnormal.nonneg, hx.div_le_one hy hlex (by omega), ?_⟩
    rintro rfl
    exact hx.div_self

end NeighborBench.Double

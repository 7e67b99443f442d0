import NeighborBench.Proofs.Decimal.Shortest
import NeighborBench.Proofs.Double.Quotient
import NeighborBench.Report.Statistics

/-! # Ranks of percentiles

A rank is computed by a division and a product, both rounded, and a ceiling. The product never falls
below the whole number under the exact share, and it passes the one above only where the share is
that whole number: there the double nearest to `p / 100` decides.
-/

namespace NeighborBench.Double

theorem normal_hundredth (p : ℕ) (hpos : 1 ≤ p) (hp : p ≤ 100) :
    ∃ t : ℕ, 52 ≤ t ∧ t < 60 ∧ Normal (.ofNat p / 100) (nearest (p * 2 ^ t) 100) (-t) := by
  have hlog : p.log2 < 7 := (Nat.log2_lt (by omega)).mpr (by omega)
  have hhundred : Nat.log2 100 = 6 := by decide
  have hx := normal_ofNat p (by omega) (by omega)
  have hy := normal_ofNat 100 (by omega) (by omega)
  obtain ⟨s, hs, hnormal⟩ := hx.normal_div hy (by omega) (by omega)
  refine ⟨59 - p.log2 - s, by omega, by omega, ?_⟩
  have hnum : p * 2 ^ (52 - p.log2) * 2 ^ 53 = p * 2 ^ (59 - p.log2 - s) * 2 ^ (46 + s) := by
    rw [Nat.mul_assoc, Nat.mul_assoc, ← Nat.pow_add, ← Nat.pow_add]
    congr 2
    omega
  have hden : 100 * 2 ^ (52 - Nat.log2 100) * 2 ^ s = 100 * 2 ^ (46 + s) := by
    rw [hhundred, Nat.mul_assoc, ← Nat.pow_add]
  have hplace : (p.log2 : ℤ) - 52 - (Nat.log2 100 - 52) - 53 + s = -(59 - p.log2 - s : ℕ) := by
    omega
  rw [hnum, hden, nearest_mul_right _ _ _ (Nat.two_pow_pos _), hplace] at hnormal
  exact hnormal

end NeighborBench.Double

namespace NeighborBench.Statistics

open Double

/-! ## Ceilings -/

theorem ceiling_eq {x : Float} {m u : ℕ} (h : Normal x m (-u)) :
    ceiling x = (m + (2 ^ u - 1)) / 2 ^ u := by
  have hm := h.mantissa
  have hmin := h.exponent.1
  obtain ⟨biased, hbiased⟩ : ∃ biased, biased + u = 1075 := ⟨1075 - u, by omega⟩
  have hbits := h.toBits
  rw [show (-(u : ℤ) + 1075).toNat = biased by omega] at hbits
  have hfields := Decimal.Binary.ofBits_fields biased (m - 0x10_0000_0000_0000) (by omega)
    (by omega)
  have hmantissa : m - 0x10_0000_0000_0000 + 0x10_0000_0000_0000 = m := by omega
  rw [if_neg (by omega), hmantissa] at hfields
  have hleft : ((biased : ℤ) - 1075).toNat = 0 := by omega
  have hright : (-((biased : ℤ) - 1075)).toNat = u := by omega
  have hsmall : (m + (2 ^ u - 1)) / 2 ^ u ≤ m := by
    have hunit := Nat.one_le_two_pow (n := u)
    have hscaled := Nat.mul_le_mul_right m hunit
    rw [Nat.div_le_iff_le_mul_add_pred hunit]
    omega
  unfold ceiling
  rw [hbits]
  simp only
  rw [if_neg (by omega), if_neg (by omega), if_neg (by omega), hfields, hleft, hright,
    Nat.shiftLeft_zero, Nat.one_shiftLeft]
  apply Nat.min_eq_right
  unfold rankLimit
  exact hsmall.trans (by omega)

theorem ceiling_le_iff {x : Float} {m u : ℕ} (h : Normal x m (-u)) (r : ℕ) :
    ceiling x ≤ r ↔ m ≤ r * 2 ^ u := by
  have hunit := Nat.one_le_two_pow (n := u)
  rw [ceiling_eq h, Nat.div_le_iff_le_mul_add_pred hunit, Nat.mul_comm]
  omega

theorem ceiling_le_iff_of_rounds {x : Float} {num den u : ℕ} (h : Rounds x num den (-(u + 1 : ℕ)))
    (r : ℕ) : ceiling x ≤ r ↔ nearest num den ≤ r * 2 ^ (u + 1) := by
  rcases h with hx | ⟨hfull, hx⟩
  · exact ceiling_le_iff hx r
  · have hplace : -((u + 1 : ℕ) : ℤ) + 1 = -u := by omega
    have htwice : r * 2 ^ (u + 1) = r * 2 ^ u * 2 := by rw [Nat.pow_succ, Nat.mul_assoc]
    rw [hplace] at hx
    rw [ceiling_le_iff hx r, hfull, htwice]
    omega

/-! ## Shares -/

theorem rounded_le_of_le {m n t u r : ℕ} (h : m * n ≤ r * 2 ^ t) :
    nearest (m * n * 2 ^ u) (2 ^ t) ≤ r * 2 ^ u := by
  apply nearest_le _ _ _ (Nat.two_pow_pos t)
  calc m * n * 2 ^ u
    _ ≤ r * 2 ^ t * 2 ^ u := Nat.mul_le_mul_right _ h
    _ = r * 2 ^ u * 2 ^ t := by ring

/-- `p / 100 · n` as it is computed: `p / 100` is rounded to `t` places behind the point, and `n`
times that to `u` places. -/
structure Share (p n m t u : ℕ) : Prop where
  hundredth : m = nearest (p * 2 ^ t) 100
  fine : 52 ≤ t
  places : 12 ≤ u
  few : n ≤ 2 ^ 40
  full : m * n * 2 ^ u < 2 ^ 53 * 2 ^ t

section

variable {p n m t u r : ℕ} (h : Share p n m t u)

include h

theorem Share.error : 100 * m ≤ p * 2 ^ t + 50 ∧ p * 2 ^ t ≤ 100 * m + 50 := by
  have hwithin := nearest_within (p * 2 ^ t) 100 (by decide)
  rw [← h.hundredth] at hwithin
  omega

theorem Share.le_of_rounded_le (hle : nearest (m * n * 2 ^ u) (2 ^ t) ≤ r * 2 ^ u) :
    p * n ≤ 100 * r := by
  by_contra hgt
  obtain ⟨-, herror⟩ := h.error
  have hfew := h.few
  have hfine : 2 ^ 52 ≤ 2 ^ t := Nat.pow_le_pow_right (by decide) h.fine
  have hplaces : 2 ^ 12 ≤ 2 ^ u := Nat.pow_le_pow_right (by decide) h.places
  have hunit : 2 ^ t * 2 ^ 12 ≤ 2 ^ t * 2 ^ u := Nat.mul_le_mul_left _ hplaces
  have hcoarse : 3200 * (n * 2 ^ u) ≤ 2 ^ t * 2 ^ u := by
    rw [← Nat.mul_assoc]
    exact Nat.mul_le_mul_right _ (by omega)
  have hexact : 100 * (r * (2 ^ t * 2 ^ u)) + 2 ^ t * 2 ^ u ≤
      100 * (m * n * 2 ^ u) + 50 * (n * 2 ^ u) := by
    calc 100 * (r * (2 ^ t * 2 ^ u)) + 2 ^ t * 2 ^ u
      _ = (100 * r + 1) * 2 ^ t * 2 ^ u := by ring
      _ ≤ p * n * 2 ^ t * 2 ^ u := Nat.mul_le_mul_right _ (Nat.mul_le_mul_right _ (by omega))
      _ = p * 2 ^ t * (n * 2 ^ u) := by ring
      _ ≤ (100 * m + 50) * (n * 2 ^ u) := Nat.mul_le_mul_right _ herror
      _ = 100 * (m * n * 2 ^ u) + 50 * (n * 2 ^ u) := by ring
  have hshare : (r * 2 ^ u + 1) * 2 ^ t ≤ m * n * 2 ^ u := by
    calc (r * 2 ^ u + 1) * 2 ^ t
      _ = r * (2 ^ t * 2 ^ u) + 2 ^ t := by ring
      _ ≤ m * n * 2 ^ u := by omega
  have hnearest := le_nearest _ _ _ (Nat.two_pow_pos t) hshare
  omega

theorem Share.rounded_le_of_lt (hlt : p * n < 100 * r) :
    nearest (m * n * 2 ^ u) (2 ^ t) ≤ r * 2 ^ u := by
  obtain ⟨herror, -⟩ := h.error
  have hfew := h.few
  have hfine : 2 ^ 52 ≤ 2 ^ t := Nat.pow_le_pow_right (by decide) h.fine
  have hexact : 100 * (m * n) ≤ 100 * (r * 2 ^ t) := by
    calc 100 * (m * n)
      _ = 100 * m * n := by ring
      _ ≤ (p * 2 ^ t + 50) * n := Nat.mul_le_mul_right n herror
      _ = p * n * 2 ^ t + 50 * n := by ring
      _ ≤ p * n * 2 ^ t + 2 ^ t := by omega
      _ = (p * n + 1) * 2 ^ t := by ring
      _ ≤ 100 * r * 2 ^ t := Nat.mul_le_mul_right _ hlt
      _ = 100 * (r * 2 ^ t) := by ring
  exact rounded_le_of_le (by omega)

theorem Share.rounded_le_of_eq (hclose : 2 ^ 54 * (100 * m) ≤ (2 ^ 54 + 1) * (p * 2 ^ t))
    (heq : p * n = 100 * r) : nearest (m * n * 2 ^ u) (2 ^ t) ≤ r * 2 ^ u := by
  -- Nor does it pass the exact one where that is whole, if the rounding of `p / 100` has added its
  -- `2 ^ 54`th part at most: `n` times that is less than half of the last place.
  have hexact : 100 * (2 ^ 54 * (m * n)) ≤ 100 * ((2 ^ 54 + 1) * (r * 2 ^ t)) := by
    calc 100 * (2 ^ 54 * (m * n))
      _ = 2 ^ 54 * (100 * m) * n := by ring
      _ ≤ (2 ^ 54 + 1) * (p * 2 ^ t) * n := Nat.mul_le_mul_right n hclose
      _ = (2 ^ 54 + 1) * (p * n * 2 ^ t) := by ring
      _ = 100 * ((2 ^ 54 + 1) * (r * 2 ^ t)) := by
        rw [heq]
        ring
  rcases Nat.le_total (m * n) (r * 2 ^ t) with hbelow | habove
  · exact rounded_le_of_le hbelow
  · have hfull : r * 2 ^ t * 2 ^ u < 2 ^ 53 * 2 ^ t := (Nat.mul_le_mul_right _ habove).trans_lt h.full
    have hscaled : 2 ^ 54 * (m * n * 2 ^ u) ≤ (2 ^ 54 + 1) * (r * 2 ^ t * 2 ^ u) := by
      calc 2 ^ 54 * (m * n * 2 ^ u)
        _ = 2 ^ 54 * (m * n) * 2 ^ u := (Nat.mul_assoc _ _ _).symm
        _ ≤ (2 ^ 54 + 1) * (r * 2 ^ t) * 2 ^ u := Nat.mul_le_mul_right _ (by omega)
        _ = (2 ^ 54 + 1) * (r * 2 ^ t * 2 ^ u) := Nat.mul_assoc _ _ _
    have hsame : r * 2 ^ u * 2 ^ t = r * 2 ^ t * 2 ^ u := by ring
    apply nearest_le_of_lt_half
    rw [hsame]
    omega

end

theorem share_of_count (p n : ℕ) (hp : 1 ≤ p ∧ p ≤ 100) (hn : 1 ≤ n ∧ n ≤ 2 ^ 40) :
    ∃ m t u, Share p n m t u ∧ t < 60 ∧ (2 ^ 52 ≤ m ∧ m < 2 ^ 53) ∧
      ∀ r, ceiling (.ofNat p / 100 * .ofNat n) ≤ r ↔
        nearest (m * n * 2 ^ u) (2 ^ t) ≤ r * 2 ^ u := by
  obtain ⟨t, hfine, ht, hx⟩ := normal_hundredth p hp.1 hp.2
  have hlog : n.log2 < 41 := (Nat.log2_lt (by omega)).mpr (by omega)
  have hy := normal_ofNat n (by omega) (by omega)
  obtain ⟨k, hk⟩ : ∃ k, k + n.log2 = 52 := ⟨52 - n.log2, by omega⟩
  rw [show 52 - n.log2 = k by omega, show (n.log2 : ℤ) - 52 = -k by omega] at hy
  generalize hm : nearest (p * 2 ^ t) 100 = m at hx
  obtain ⟨s, hs, hrounds⟩ := hx.mul hy (by omega) (by omega)
  have hne : m * (n * 2 ^ k) ≠ 0 := by
    have hmpos := hx.mantissa.1
    have hnpos := hy.mantissa.1
    exact Nat.mul_ne_zero (by omega) (by omega)
  obtain ⟨hlow, hhigh⟩ := (Nat.log2_eq_iff hne).mp hs
  have hmt : m ≤ 2 ^ t := by
    have hwithin := nearest_within (p * 2 ^ t) 100 (by decide)
    have hwhole : p * 2 ^ t ≤ 100 * 2 ^ t := Nat.mul_le_mul_right _ hp.2
    rw [hm] at hwithin
    omega
  have hsmall : 52 + s ≤ t + 40 + k := by
    rw [← Nat.pow_le_pow_iff_right (a := 2) (by decide)]
    calc 2 ^ (52 + s)
      _ ≤ m * (n * 2 ^ k) := hlow
      _ ≤ 2 ^ t * (2 ^ 40 * 2 ^ k) := Nat.mul_le_mul hmt (Nat.mul_le_mul_right _ hn.2)
      _ = 2 ^ (t + 40 + k) := by ring
  obtain ⟨u, hu⟩ : ∃ u, s + (u + 1) = t + k := ⟨t + k - s - 1, by omega⟩
  have hscale : 2 ^ s * 2 ^ (u + 1) = 2 ^ t * 2 ^ k := by rw [← Nat.pow_add, ← Nat.pow_add, hu]
  have hshift : m * (n * 2 ^ k) * 2 ^ (u + 1) = m * n * 2 ^ (u + 1) * 2 ^ k := by ring
  have hsame : nearest (m * (n * 2 ^ k)) (2 ^ s) = nearest (m * n * 2 ^ (u + 1)) (2 ^ t) := by
    rw [← nearest_mul_right _ (2 ^ s) _ (Nat.two_pow_pos (u + 1)), hshift, hscale,
      nearest_mul_right _ _ _ (Nat.two_pow_pos k)]
  have hfull : m * n * 2 ^ (u + 1) < 2 ^ 53 * 2 ^ t := by
    apply Nat.lt_of_mul_lt_mul_right (a := 2 ^ k)
    calc m * n * 2 ^ (u + 1) * 2 ^ k
      _ = m * (n * 2 ^ k) * 2 ^ (u + 1) := hshift.symm
      _ < 2 ^ (52 + s + 1) * 2 ^ (u + 1) := Nat.mul_lt_mul_of_pos_right hhigh (Nat.two_pow_pos _)
      _ = 2 ^ 53 * (2 ^ s * 2 ^ (u + 1)) := by ring
      _ = 2 ^ 53 * 2 ^ t * 2 ^ k := by rw [hscale, Nat.mul_assoc]
  refine ⟨m, t, u + 1, ⟨hm.symm, hfine, by omega, hn.2, hfull⟩, ht, hx.mantissa, fun r => ?_⟩
  rw [show (-t : ℤ) + -k + s = -(u + 1 : ℕ) by omega] at hrounds
  rw [ceiling_le_iff_of_rounds hrounds r, hsame]

/-! ## Ranks -/

/-- The rank, counted from one, of the least of `n` values that `p` percent of them do not exceed. -/
def nearestRank (p n : ℕ) : ℕ := ⌈(p * n : ℚ) / 100⌉₊

theorem nearestRank_le_iff (p n r : ℕ) : nearestRank p n ≤ r ↔ p * n ≤ 100 * r := by
  unfold nearestRank
  rw [Nat.ceil_le, div_le_iff₀ (by norm_num), mul_comm (r : ℚ)]
  exact_mod_cast Iff.rfl

theorem nearestRank_eq (p n : ℕ) : nearestRank p n = (p * n + 99) / 100 := by
  apply eq_of_forall_ge_iff
  intro r
  rw [nearestRank_le_iff]
  omega

theorem nearestRank_bounds {p n : ℕ} (hp : 1 ≤ p ∧ p ≤ 100) (hn : 1 ≤ n) :
    1 ≤ nearestRank p n ∧ nearestRank p n ≤ n := by
  have hpos : 1 ≤ p * n := Nat.mul_pos hp.1 hn
  have hle : p * n ≤ 100 * n := Nat.mul_le_mul_right n hp.2
  rw [nearestRank_eq]
  omega

theorem nearestRank_mono {p q : ℕ} (h : p ≤ q) (n : ℕ) : nearestRank p n ≤ nearestRank q n := by
  have hle : p * n ≤ q * n := Nat.mul_le_mul_right n h
  rw [nearestRank_eq, nearestRank_eq]
  omega

/-- The rank that is computed is the nearest rank or the one after it, and the latter only where the
share is whole. -/
theorem rank_near (p n : ℕ) (hp : 1 ≤ p ∧ p ≤ 100) (hn : 1 ≤ n ∧ n ≤ 2 ^ 40) :
    rank (.ofNat p) n = nearestRank p n ∨
      100 ∣ p * n ∧ nearestRank p n < n ∧ rank (.ofNat p) n = nearestRank p n + 1 := by
  obtain ⟨m, t, u, hshare, -, -, hceiling⟩ := share_of_count p n hp hn
  have hbounds := nearestRank_bounds hp hn.1
  have hlow : nearestRank p n ≤ ceiling (.ofNat p / 100 * .ofNat n) := by
    rw [nearestRank_le_iff]
    exact hshare.le_of_rounded_le ((hceiling _).mp le_rfl)
  have habove : ∀ r, p * n < 100 * r → ceiling (.ofNat p / 100 * .ofNat n) ≤ r := fun r hlt =>
    (hceiling r).mpr (hshare.rounded_le_of_lt hlt)
  have hwhole : p * n ≤ 100 * nearestRank p n := (nearestRank_le_iff p n _).mp le_rfl
  have hnext := habove (nearestRank p n + 1) (by omega)
  unfold rank
  by_cases heq : p * n = 100 * nearestRank p n
  · have hdvd : 100 ∣ p * n := ⟨_, heq⟩
    omega
  · have hsame := habove (nearestRank p n) (by omega)
    omega

/-- The double nearest to `p / 100` is above it by a `2 ^ 54`th part of it at most. -/
def Close (p : ℕ) : Prop :=
  ∀ t ∈ [52, 53, 54, 55, 56, 57, 58, 59],
    2 ^ 52 ≤ nearest (p * 2 ^ t) 100 → nearest (p * 2 ^ t) 100 < 2 ^ 53 →
      2 ^ 54 * (100 * nearest (p * 2 ^ t) 100) ≤ (2 ^ 54 + 1) * (p * 2 ^ t)

instance (p : ℕ) : Decidable (Close p) :=
  inferInstanceAs (Decidable (∀ t ∈ _, _))

theorem rank_of_close {p n : ℕ} (hp : 1 ≤ p ∧ p ≤ 100) (hn : 1 ≤ n ∧ n ≤ 2 ^ 40) (h : Close p) :
    rank (.ofNat p) n = nearestRank p n := by
  obtain ⟨m, t, u, hshare, ht, hmantissa, hceiling⟩ := share_of_count p n hp hn
  rcases rank_near p n hp hn with hrank | ⟨hdvd, hlt, hrank⟩
  · exact hrank
  · have hbounds := nearestRank_bounds hp hn.1
    have hfine := hshare.fine
    have hclose := h t (by simp only [List.mem_cons]; omega)
    rw [← hshare.hundredth] at hclose
    have heq : p * n = 100 * nearestRank p n := by
      rw [nearestRank_eq]
      omega
    have hle := (hceiling _).mpr (hshare.rounded_le_of_eq (hclose hmantissa.1 hmantissa.2) heq)
    unfold rank at hrank
    omega

/-- The percentages whose doubles are too far above them, each with a count at which it matters. -/
def overshot : List (ℕ × ℕ) :=
  [(7, 100), (14, 50), (17, 300), (27, 900), (28, 25), (34, 150), (54, 450), (55, 100), (56, 25),
    (67, 1500), (68, 75), (81, 300)]

def overshooting : List ℕ := overshot.map (·.1)

theorem close_of_not_overshooting : ∀ p ≤ 100, p ∉ overshooting → Close p := by decide +kernel

theorem rank_of_overshot :
    ∀ entry ∈ overshot, rank (.ofNat entry.1) entry.2 = (entry.1 * entry.2 + 99) / 100 + 1 := by
  decide +kernel

theorem overshot_bounds :
    ∀ entry ∈ overshot, (1 ≤ entry.2 ∧ entry.2 ≤ 2 ^ 40) ∧ 1 ≤ entry.1 ∧ entry.1 ≤ 100 := by
  decide

end NeighborBench.Statistics

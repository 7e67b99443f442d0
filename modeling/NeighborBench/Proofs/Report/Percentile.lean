import NeighborBench.Proofs.Report.Order
import NeighborBench.Proofs.Report.Rank

/-! # Percentiles by rank

A percentile is the value of its nearest rank wherever the rank that is computed is the nearest one,
and the percentages of the report are among those for which it always is.
-/

namespace NeighborBench.Statistics

/-! ## Values by rank -/

section

variable {α : Type} [Double α]

/-- The value comes `r`th, counted from one, when all of them stand in order. -/
def HasRank (values : List α) (r : ℕ) (x : α) : Prop :=
  ∃ ordered : List α, ordered.Perm values ∧ Ordered ordered ∧ 1 ≤ r ∧ ordered[r - 1]? = some x

theorem Ordered.hasRank_iff {values : List α} (h : Ordered values) (r : ℕ) (x : α) :
    HasRank values r x ↔ 1 ≤ r ∧ values[r - 1]? = some x := by
  constructor
  · rintro ⟨ordered, hperm, hordered, hr, hx⟩
    rw [hordered.eq_of_perm h hperm] at hx
    exact ⟨hr, hx⟩
  · rintro ⟨hr, hx⟩
    exact ⟨values, .refl _, h, hr, hx⟩

theorem hasRank_sorted_iff (values : List α) (r : ℕ) (x : α) :
    HasRank (sorted values) r x ↔ HasRank values r x := by
  have hperm := sorted_perm values
  constructor
  · rintro ⟨ordered, h, hrest⟩
    exact ⟨ordered, h.trans hperm, hrest⟩
  · rintro ⟨ordered, h, hrest⟩
    exact ⟨ordered, h.trans hperm.symm, hrest⟩

theorem place_le_of_hasRank {values : List α} {r r' : ℕ} {x y : α} (hx : HasRank values r x)
    (hy : HasRank values r' y) (hle : r ≤ r') : place x ≤ place y := by
  obtain ⟨ordered, hperm, hordered, hr, hx⟩ := hx
  obtain ⟨others, hperm', hothers, -, hy⟩ := hy
  rw [hothers.eq_of_perm hordered (hperm'.trans hperm.symm)] at hy
  obtain ⟨hi, rfl⟩ := List.getElem?_eq_some_iff.mp hx
  obtain ⟨hj, rfl⟩ := List.getElem?_eq_some_iff.mp hy
  rcases Nat.eq_or_lt_of_le hle with rfl | hlt
  · exact le_rfl
  · exact List.pairwise_iff_getElem.mp hordered _ _ hi hj (by omega)

theorem HasRank.unique {values : List α} {r : ℕ} {x y : α} (hx : HasRank values r x)
    (hy : HasRank values r y) : x = y :=
  place_injective (Int.le_antisymm (place_le_of_hasRank hx hy le_rfl)
    (place_le_of_hasRank hy hx le_rfl))

theorem percentile_of_rank {values : List α} (h : Ordered values) {p : Float} {r : ℕ}
    (hrank : rank p values.length = r) (hr : 1 ≤ r) (hle : r ≤ values.length) :
    ∃ x, percentile values p = some x ∧ HasRank values r x := by
  have hx : values[r - 1]? = some values[r - 1] := List.getElem?_eq_getElem (by omega)
  refine ⟨values[r - 1], ?_, (h.hasRank_iff r _).mpr ⟨hr, hx⟩⟩
  unfold percentile
  rw [hrank, hx]

/-- The percentile `p` of the values is the one of the nearest rank. -/
def Nearest (p : ℕ) (values : List α) : Prop :=
  ∃ x, percentile values (.ofNat p) = some x ∧ HasRank values (nearestRank p values.length) x

theorem nearest_of_close {p : ℕ} {values : List α} (hp : 1 ≤ p ∧ p ≤ 100) (hclose : Close p)
    (h : Ordered values) (hne : values ≠ []) (hfew : values.length ≤ 2 ^ 40) : Nearest p values := by
  have hn := List.length_pos_iff.mpr hne
  have hbounds := nearestRank_bounds hp hn
  exact percentile_of_rank h (rank_of_close hp ⟨hn, hfew⟩ hclose) hbounds.1 hbounds.2

end

/-- Two steps, the upper one behind `low` values. -/
def ladder (low n : ℕ) : List Float := List.replicate low 0 ++ List.replicate (n - low) 1

theorem ordered_ladder (low n : ℕ) : Ordered (ladder low n) := by
  have hle : place (0 : Float) ≤ place (1 : Float) := by decide
  unfold Ordered ladder
  rw [List.pairwise_append]
  refine ⟨List.pairwise_replicate.mpr (.inr le_rfl), List.pairwise_replicate.mpr (.inr le_rfl), ?_⟩
  intro x hx y hy
  rw [List.eq_of_mem_replicate hx, List.eq_of_mem_replicate hy]
  exact hle

theorem length_ladder {low n : ℕ} (h : low ≤ n) : (ladder low n).length = n := by
  simp only [ladder, List.length_append, List.length_replicate]
  omega

theorem not_nearest_ladder {p low n : ℕ} (hpos : 1 ≤ low) (hlt : low < n)
    (hlow : nearestRank p n = low) (hrank : rank (.ofNat p) n = low + 1) : ¬Nearest p (ladder low n) := by
  have hlength := length_ladder hlt.le
  have hone : (ladder low n)[low]? = some 1 := by simp [ladder, hlt]
  have hzero : (ladder low n)[low - 1]? = some 0 := by
    unfold ladder
    rw [List.getElem?_append_left (by simp; omega), List.getElem?_replicate_of_lt (by omega)]
  rintro ⟨x, hx, hx'⟩
  rw [percentile, hlength, hrank, Nat.add_sub_cancel, hone] at hx
  rw [(ordered_ladder low n).hasRank_iff, hlength, hlow, hzero] at hx'
  have hne : (1 : Float) ≠ 0 := by decide
  exact hne (Option.some.inj (hx.trans hx'.2.symm))

theorem exists_not_nearest {p : ℕ} (h : p ∈ overshooting) :
    ∃ values : List Float, Ordered values ∧ values ≠ [] ∧ values.length ≤ 2 ^ 40 ∧
      ¬Nearest p values := by
  obtain ⟨⟨q, n⟩, hentry, hq⟩ := List.mem_map.mp h
  obtain rfl : q = p := hq
  obtain ⟨hn, hp⟩ := overshot_bounds _ hentry
  have hrank := rank_of_overshot _ hentry
  rw [← nearestRank_eq] at hrank
  have hbounds := nearestRank_bounds hp hn.1
  rcases rank_near q n hp hn with hsame | ⟨-, hlt, -⟩
  · simp only at hrank
    omega
  · have hlength := length_ladder hlt.le
    refine ⟨ladder (nearestRank q n) n, ordered_ladder _ _, ?_, by omega,
      not_nearest_ladder hbounds.1 hlt rfl hrank⟩
    rw [← List.length_pos_iff]
    omega

/-! ## Main statements -/

/-- The percentiles of a series are its values of the nearest rank, and they are in order. -/
theorem reported_percentiles_have_nearest_rank {α : Type} [Double α] (values : List α)
    (hne : values ≠ []) (hfew : values.length ≤ 2 ^ 40) :
    let stats := SeriesStats.ofValues values
    let n := values.length
    ∃ x y z, stats.p50 = some x ∧ stats.p90 = some y ∧ stats.p99 = some z ∧
      HasRank values ⌈(50 * n : ℚ) / 100⌉₊ x ∧ HasRank values ⌈(90 * n : ℚ) / 100⌉₊ y ∧
      HasRank values ⌈(99 * n : ℚ) / 100⌉₊ z ∧ place x ≤ place y ∧ place y ≤ place z := by
  intro stats n
  have hordered : Ordered (sorted values) := ordered_sorted values
  have hlength : (sorted values).length = n := (sorted_perm values).length_eq
  have hall : ∀ p, 1 ≤ p ∧ p ≤ 100 → Close p →
      ∃ x, percentile (sorted values) (.ofNat p) = some x ∧ HasRank values (nearestRank p n) x := by
    intro p hp hclose
    obtain ⟨x, hx, hrank⟩ := nearest_of_close hp hclose hordered
      (fun hnil => hne ((sorted_eq_nil_iff values).mp hnil)) (hlength ▸ hfew)
    rw [hlength, hasRank_sorted_iff] at hrank
    exact ⟨x, hx, hrank⟩
  obtain ⟨x, hx, hx'⟩ := hall 50 (by decide) (by decide +kernel)
  obtain ⟨y, hy, hy'⟩ := hall 90 (by decide) (by decide +kernel)
  obtain ⟨z, hz, hz'⟩ := hall 99 (by decide) (by decide +kernel)
  exact ⟨x, y, z, hx, hy, hz, hx', hy', hz',
    place_le_of_hasRank hx' hy' (nearestRank_mono (by decide) n),
    place_le_of_hasRank hy' hz' (nearestRank_mono (by decide) n)⟩

/-- The whole numbers from one on, as doubles. -/
def upTo (n : ℕ) : List Float := (List.range' 1 n).map Float.ofNat

/-- The double nearest to `0.9` is above it, and ten times that is still rounded to nine. -/
theorem ten_descending_ranked :
    let values := (upTo 10).reverse
    values ≠ [] ∧ values.length ≤ 2 ^ 40 ∧ (SeriesStats.ofValues values).p50 = some 5 ∧
      (SeriesStats.ofValues values).p90 = some 9 ∧ (SeriesStats.ofValues values).p99 = some 10 ∧
      HasRank values 5 5 ∧ HasRank values 9 9 ∧ HasRank values 10 10 := by
  intro values
  have hne : values ≠ [] := by decide
  have hlength : values.length = 10 := by decide
  have hfew : values.length ≤ 2 ^ 40 := by omega
  have hordered : Ordered (upTo 10) := by decide
  have hperm : (upTo 10).Perm values := (List.reverse_perm _).symm
  have hfive : HasRank values 5 5 := ⟨upTo 10, hperm, hordered, by decide, by decide⟩
  have hnine : HasRank values 9 9 := ⟨upTo 10, hperm, hordered, by decide, by decide⟩
  have hten : HasRank values 10 10 := ⟨upTo 10, hperm, hordered, by decide, by decide⟩
  obtain ⟨x, y, z, hx, hy, hz, hx', hy', hz', -⟩ :=
    reported_percentiles_have_nearest_rank values hne hfew
  rw [hlength, show ⌈(50 * (10 : ℕ) : ℚ) / 100⌉₊ = 5 by norm_num] at hx'
  rw [hlength, show ⌈(90 * (10 : ℕ) : ℚ) / 100⌉₊ = 9 by norm_num] at hy'
  rw [hlength, show ⌈(99 * (10 : ℕ) : ℚ) / 100⌉₊ = 10 by norm_num] at hz'
  rw [hx'.unique hfive] at hx
  rw [hy'.unique hnine] at hy
  rw [hz'.unique hten] at hz
  exact ⟨hne, hfew, hx, hy, hz, hfive, hnine, hten⟩

/-- A whole percentage has the nearest rank or, where the share is whole, the rank after it. It has
the nearest rank of all series unless it is one of twelve. -/
theorem whole_percentage_has_nearest_rank_iff (p : ℕ) (hp : 1 ≤ p ∧ p ≤ 100) :
    (∀ values : List Float, Ordered values → values ≠ [] → values.length ≤ 2 ^ 40 →
      Nearest p values ∨ 100 ∣ p * values.length ∧
        ∃ x, percentile values (.ofNat p) = some x ∧
          HasRank values (nearestRank p values.length + 1) x) ∧
    ((∀ values : List Float, Ordered values → values ≠ [] → values.length ≤ 2 ^ 40 →
      Nearest p values) ↔ p ∉ overshooting) := by
  refine ⟨fun values hordered hne hfew => ?_, fun hall hmem => ?_, fun hnot => ?_⟩
  · have hn := List.length_pos_iff.mpr hne
    have hbounds := nearestRank_bounds hp hn
    rcases rank_near p values.length hp ⟨hn, hfew⟩ with hrank | ⟨hdvd, hlt, hrank⟩
    · exact .inl (percentile_of_rank hordered hrank hbounds.1 hbounds.2)
    · exact .inr ⟨hdvd, percentile_of_rank hordered hrank (by omega) hlt⟩
  · obtain ⟨values, hordered, hne, hfew, hnot⟩ := exists_not_nearest hmem
    exact hnot (hall values hordered hne hfew)
  · intro values hordered hne hfew
    exact nearest_of_close hp (close_of_not_overshooting p hp.2 hnot) hordered hne hfew

/-- The double nearest to `0.58` is below it. Fifty times that is not quite 29, as a double too, and
its ceiling is 29. -/
theorem twenty_ninth_of_fifty :
    (1 ≤ 58 ∧ 58 ≤ 100) ∧ Nearest 58 (upTo 50) := by
  obtain ⟨-, hall⟩ := whole_percentage_has_nearest_rank_iff 58 (by decide)
  exact ⟨by decide, hall.mpr (by decide) (upTo 50) (by decide +kernel) (by decide) (by decide)⟩

/-- The share of 28 percent of 25 values is seven, and the eighth value is answered: the double nearest
to `0.28` is above it, and 25 times that is rounded up. -/
theorem eighth_of_twenty_five :
    Ordered (upTo 25) ∧ nearestRank 28 25 = 7 ∧ (upTo 25)[7 - 1]? = some 7 ∧
      percentile (upTo 25) (.ofNat 28) = some 8 ∧ ¬Nearest 28 (upTo 25) := by
  have hordered : Ordered (upTo 25) := by decide
  have hlength : (upTo 25).length = 25 := by decide
  have hrank : nearestRank 28 25 = 7 := nearestRank_eq 28 25
  have hseventh : (upTo 25)[7 - 1]? = some 7 := by decide
  have hanswer : percentile (upTo 25) (.ofNat 28) = some 8 := by decide +kernel
  refine ⟨hordered, hrank, hseventh, hanswer, ?_⟩
  rintro ⟨x, hx, hx'⟩
  rw [hordered.hasRank_iff, hlength, hrank, hseventh] at hx'
  have hne : (8 : Float) ≠ 7 := by decide
  exact hne (Option.some.inj ((hanswer.symm.trans hx).trans hx'.2.symm))

end NeighborBench.Statistics

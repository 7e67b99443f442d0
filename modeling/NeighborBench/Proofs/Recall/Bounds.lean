import NeighborBench.Proofs.Double.Quotient
import NeighborBench.Proofs.Recall.Definition
import Mathlib.Algebra.Order.BigOperators.Group.Finset

/-! # Bounds of recall

There are never more hits than slots, and neither goes down when `r` or `k` goes up. The quotient of
the two may go down.
-/

namespace NeighborBench

namespace Recall

/-! ## One query -/

theorem mem_trueIds (k : Nat) (row : List Int) (id : Int) :
    id ∈ trueIds k row ↔ id ≠ -1 ∧ id ∈ row.take k := by
  unfold trueIds
  rw [Finset.mem_filter, List.mem_toFinset, and_comm]

section

variable {r r' k k' : Nat} (returned row : List Int)

theorem trueIds_mono (hk : k ≤ k') : trueIds k row ⊆ trueIds k' row := by
  intro id h
  rw [mem_trueIds] at h ⊢
  exact ⟨h.1, List.take_subset_take_left row hk h.2⟩

theorem slotsOf_mono (hr : r ≤ r') (hk : k ≤ k') : slotsOf r k row ≤ slotsOf r' k' row := by
  have hcard := Finset.card_le_card (trueIds_mono row hk)
  unfold slotsOf
  omega

theorem hitsOf_mono (hr : r ≤ r') (hk : k ≤ k') :
    hitsOf r k returned row ≤ hitsOf r' k' returned row := by
  apply Finset.card_le_card
  intro j hj
  simp only [Finset.mem_filter, Finset.mem_range] at hj ⊢
  obtain ⟨hslot, id, hid, htrue⟩ := hj
  exact ⟨hslot.trans_le (slotsOf_mono row hr hk), id, hid, trueIds_mono row hk htrue⟩

theorem hitsOf_le_slotsOf : hitsOf r k returned row ≤ slotsOf r k row := by
  have hfilter := Finset.card_filter_le (Finset.range (slotsOf r k row))
    fun j => ∃ id ∈ returned[j]?, id ∈ trueIds k row
  rwa [Finset.card_range] at hfilter

end

/-- The list begins with the true neighbours of the row, each once, in any order. -/
def Opens (k : Nat) (returned row : List Int) : Prop :=
  ∃ ids : List Int, ids <+: returned ∧ ids.Nodup ∧ ∀ id, id ∈ ids ↔ id ≠ -1 ∧ id ∈ row.take k

theorem Opens.hitsOf_eq {k : Nat} {returned row : List Int} (opens : Opens k returned row) (r : Nat) :
    hitsOf r k returned row = slotsOf r k row := by
  obtain ⟨ids, ⟨rest, rfl⟩, hnodup, hids⟩ := opens
  have hsame : ids.toFinset = trueIds k row := by
    apply Finset.ext
    intro id
    rw [List.mem_toFinset, hids, mem_trueIds]
  have hcard := List.toFinset_card_of_nodup hnodup
  rw [hsame] at hcard
  unfold hitsOf
  rw [Finset.filter_true_of_mem, Finset.card_range]
  intro j hj
  -- There are no more slots than true neighbours, so each slot is within the list's beginning.
  have hlt : j < ids.length := by
    have hslot := Finset.mem_range.mp hj
    unfold slotsOf at hslot
    omega
  refine ⟨ids[j], ?_, ?_⟩
  · rw [List.getElem?_append_left hlt, List.getElem?_eq_getElem hlt]
    rfl
  · rw [mem_trueIds, ← hids]
    exact List.getElem_mem hlt

/-! ## All queries -/

section

variable {r r' k k' : Nat} (results rows : List (List Int)) (c n : Nat)

theorem slotsOver_mono (hr : r ≤ r') (hk : k ≤ k') :
    slotsOver r k rows c n ≤ slotsOver r' k' rows c n :=
  Finset.sum_le_sum fun _ _ => slotsOf_mono _ hr hk

theorem hitsOver_mono (hr : r ≤ r') (hk : k ≤ k') :
    hitsOver r k results rows c n ≤ hitsOver r' k' results rows c n :=
  Finset.sum_le_sum fun _ _ => hitsOf_mono _ _ hr hk

theorem hitsOver_le_slotsOver : hitsOver r k results rows c n ≤ slotsOver r k rows c n :=
  Finset.sum_le_sum fun _ _ => hitsOf_le_slotsOf _ _

theorem slotsOver_le : slotsOver r k rows c n ≤ n * r := by
  calc slotsOver r k rows c n
    _ ≤ ∑ _i ∈ Finset.range n, r := Finset.sum_le_sum fun _ _ => Nat.min_le_left _ _
    _ = n * r := by rw [Finset.sum_const_nat fun _ _ => rfl, Finset.card_range]

theorem slotsOver_log2_le (hr : r < rowNumberLimit) (hn : n < rowNumberLimit) :
    (slotsOver r k rows c n).log2 ≤ 1000 := by
  -- As many slots as two machine words can count are far from the largest double.
  have hle := slotsOver_le (r := r) (k := k) rows c n
  have hlt : n * r < 2 ^ 128 := by
    calc n * r
      _ ≤ (2 ^ 64 - 1) * (2 ^ 64 - 1) := by
        unfold rowNumberLimit at hr hn
        exact Nat.mul_le_mul (by omega) (by omega)
      _ < 2 ^ 128 := by decide
  by_cases hzero : slotsOver r k rows c n = 0
  · rw [hzero]
    decide
  · have hlog := (Nat.log2_lt hzero).mpr (hle.trans_lt hlt)
    omega

theorem quotient_unit (hr : r < rowNumberLimit) (hn : n < rowNumberLimit)
    (hslots : slotsOver r k rows c n ≠ 0) : ∃ v, quotient r k results rows c n = .ok v ∧
      0 ≤ v ∧ v ≤ 1 ∧ (hitsOver r k results rows c n = slotsOver r k rows c n → v = 1) := by
  refine ⟨_, if_neg hslots, ?_⟩
  exact Double.ofNat_div_ofNat _ _ (hitsOver_le_slotsOver results rows c n) hslots
    (slotsOver_log2_le rows c n hr hn)

end

/-! ## Counts for every `r` and `k` -/

/-- What the counts of `n` queries are like from the first row on, and the recall that comes of
them. -/
structure Bounded (results rows : List (List Int)) (n : Nat) (count : Nat → Nat → Counts) :
    Prop where
  part : ∀ r k, (count r k).hits ≤ (count r k).slots
  /-- A machine word holds `r`. -/
  unit : ∀ r k, r < rowNumberLimit → (count r k).slots ≠ 0 →
    ∃ v, (count r k).ratio = .ok v ∧ 0 ≤ v ∧ v ≤ 1
  mono : ∀ r r' k k', r ≤ r' → k ≤ k' →
    (count r k).hits ≤ (count r' k').hits ∧ (count r k).slots ≤ (count r' k').slots
  saturated : ∀ r k, k ≤ r → count r k = count k k
  /-- Each hit is in a slot, and it is a neighbour of the row other than the sentinel. -/
  genuine : ∀ r k, (count r k).hits = ∑ i ∈ Finset.range n,
    ((Finset.range (slotsOf r k (listAt rows i))).filter fun j =>
      ∃ id ∈ (listAt results i)[j]?, id ≠ -1 ∧ id ∈ (listAt rows i).take k).card
  perfect : ∀ k, (∀ i < n, Opens k (listAt results i) (listAt rows i)) →
    ∀ r, 1 ≤ r → r < rowNumberLimit → (count r k).slots ≠ 0 → (count r k).ratio = .ok 1

theorem bounded_over (results rows : List (List Int)) (n : Nat) (hn : n < rowNumberLimit) :
    Bounded results rows n fun r k =>
      ⟨hitsOver r k results rows 0 n, slotsOver r k rows 0 n⟩ := by
  constructor
  · exact fun r k => hitsOver_le_slotsOver results rows 0 n
  · intro r k hr hslots
    obtain ⟨v, hv, hzero, hone, -⟩ := quotient_unit results rows 0 n hr hn hslots
    exact ⟨v, hv, hzero, hone⟩
  · exact fun r r' k k' hr hk =>
      ⟨hitsOver_mono results rows 0 n hr hk, slotsOver_mono rows 0 n hr hk⟩
  · intro r k h
    rw [hitsOver_of_le r k results rows 0 n h, slotsOver_of_le r k rows 0 n h]
  · intro r k
    simp only [hitsOver, hitsOf, mem_trueIds, Nat.zero_add]
  · intro k hopens r _ hr hslots
    obtain ⟨v, hv, -, -, hfull⟩ := quotient_unit results rows 0 n hr hn hslots
    have hevery : hitsOver r k results rows 0 n = slotsOver r k rows 0 n := by
      apply Finset.sum_congr rfl
      intro i hi
      rw [Nat.zero_add]
      exact (hopens i (Finset.mem_range.mp hi)).hitsOf_eq r
    rw [hfull hevery] at hv
    exact hv

/-- Over a tape of ids in front of its first row, the hits are a part of the slots, both grow with `r`
and `k` and stay as they are from `r = k` on, no sentinel is a hit, and recall is 1 where each list of
results begins with all that is true of its row. -/
theorem counts_bounded {δ : Type} [Dataset δ] {At : Nat → δ → Prop} {rows : List (List Int)}
    (tape : Tape At (.ids rows)) (first : δ) (placed : At 0 first) (queries : Nat)
    (word : queries < rowNumberLimit) (results : List (List Int)) :
    ∃ count : Nat → Nat → Counts,
      (∀ r k, (counts r k queries results first).1 = .ok (count r k) ∧
        (evaluate r k queries results first).1 = (count r k).ratio) ∧
      Bounded results rows (min queries rows.length) count := by
  have hn : min queries rows.length < rowNumberLimit :=
    Nat.lt_of_le_of_lt (Nat.min_le_left _ _) word
  refine ⟨_, ?_, bounded_over results rows _ hn⟩
  intro r k
  obtain ⟨after, hcounts, -⟩ := counts_at tape r k queries results 0 first placed
  rw [evaluate, hcounts]
  exact ⟨rfl, rfl⟩

/-- A second slot lowers recall from 1 to a half, with as many hits as before. The other query is
answered by a sentinel, which its row has too. -/
theorem second_slot_is_missed :
    let rows : List (List Int) := [[1, 2], [-1]]
    let results : List (List Int) := [[1, 5], [-1]]
    let first := Memory.mk (.ids rows) 0
    ∃ count : Nat → Nat → Counts,
      (∀ r k, (counts r k 2 results first).1 = .ok (count r k) ∧
        (evaluate r k 2 results first).1 = (count r k).ratio) ∧
      Bounded results rows 2 count ∧
      count 1 2 = ⟨1, 1⟩ ∧ count 2 2 = ⟨1, 2⟩ ∧ (count 1 1).ratio = .ok 1 := by
  intro rows results first
  obtain ⟨count, hcounts, hbounded⟩ :=
    counts_bounded (tape_memory (.ids rows) (by decide)) first rfl 2 (by decide) results
  have hcount : ∀ r k, .ok (count r k) = (counts r k 2 results first).1 :=
    fun r k => (hcounts r k).1.symm
  have hopens : ∀ i < 2, Opens 1 (listAt results i) (listAt rows i) := by
    intro i hi
    match i, hi with
    | 0, _ => exact ⟨[1], ⟨[5], rfl⟩, by decide, by simp [rows, listAt]⟩
    | 1, _ => exact ⟨[], ⟨[-1], rfl⟩, by decide, by simp [rows, listAt]⟩
  refine ⟨count, hcounts, hbounded, Except.ok.inj (hcount 1 2), Except.ok.inj (hcount 2 2), ?_⟩
  have hone : count 1 1 = ⟨1, 1⟩ := Except.ok.inj (hcount 1 1)
  exact hbounded.perfect 1 hopens 1 (by decide) (by decide) (by rw [hone]; decide)

end Recall

end NeighborBench

import NeighborBench.Proofs.Recall.Bounds

/-! # Ids that are returned twice

The true neighbours of a query are a set, while its hits are counted place by place. So recall is what
a comparison of sets gives if no true neighbour is returned twice, and it is more otherwise.
-/

namespace NeighborBench

namespace Recall

/-! ## One query -/

/-- The returned ids that a query looks at. -/
def inspected (r k : Nat) (returned row : List Int) : List Int := returned.take (slotsOf r k row)

/-- The true neighbours among them, as a set. -/
def found (r k : Nat) (returned row : List Int) : Finset Int :=
  (trueIds k row).filter (· ∈ inspected r k returned row)

/-- No true neighbour is looked at twice. -/
def Once (r k : Nat) (returned row : List Int) : Prop :=
  ∀ id ∈ trueIds k row, (inspected r k returned row).count id ≤ 1

theorem once_of_nodup (r k : Nat) (returned row : List Int) (h : returned.Nodup) :
    Once r k returned row := by
  intro id _
  apply List.nodup_iff_count_le_one.mp
  unfold inspected
  exact h.sublist (List.take_sublist _ _)

theorem countP_mem (ids : List Int) (s : Finset Int) :
    ids.countP (fun id => decide (id ∈ s)) = ∑ id ∈ s, ids.count id := by
  induction ids with
  | nil => simp
  | cons id rest ih =>
    simp only [List.countP_cons, List.count_cons, Finset.sum_add_distrib, ih]
    simp

theorem hitsOf_eq_sum (r k : Nat) (returned row : List Int) :
    hitsOf r k returned row = ∑ id ∈ trueIds k row, (inspected r k returned row).count id := by
  -- A true neighbour is as many hits as there are places that it is found in.
  rw [← countP_mem, inspected, countP_take]
  rfl

theorem card_found (r k : Nat) (returned row : List Int) : (found r k returned row).card =
    ∑ id ∈ trueIds k row, if id ∈ inspected r k returned row then 1 else 0 := by
  rw [found, Finset.card_filter]

theorem ite_mem_le_count (ids : List Int) (id : Int) :
    (if id ∈ ids then 1 else 0) ≤ ids.count id := by
  split
  · exact List.count_pos_iff.mpr ‹_›
  · exact Nat.zero_le _

theorem card_found_le (r k : Nat) (returned row : List Int) :
    (found r k returned row).card ≤ hitsOf r k returned row := by
  rw [card_found, hitsOf_eq_sum]
  exact Finset.sum_le_sum fun id _ => ite_mem_le_count _ id

theorem ite_mem_eq_count_iff (ids : List Int) (id : Int) :
    (if id ∈ ids then 1 else 0) = ids.count id ↔ ids.count id ≤ 1 := by
  by_cases hmem : id ∈ ids
  · have hpos := List.count_pos_iff.mpr hmem
    simp only [hmem, if_true]
    omega
  · simp [hmem, List.count_eq_zero_of_not_mem hmem]

theorem hitsOf_le_card_found_iff (r k : Nat) (returned row : List Int) :
    hitsOf r k returned row ≤ (found r k returned row).card ↔ Once r k returned row := by
  have hle := card_found_le r k returned row
  -- The two sums are equal if and only if no term of the one is below that of the other.
  have hsame := Finset.sum_eq_sum_iff_of_le (s := trueIds k row)
    fun id _ => ite_mem_le_count (inspected r k returned row) id
  rw [← card_found, ← hitsOf_eq_sum] at hsame
  simp only [ite_mem_eq_count_iff] at hsame
  rw [Once, ← hsame]
  omega

/-! ## All queries -/

/-- Recall of the sets: the neighbours found, each once, among the slots. -/
def setQuotient (r k : Nat) (results rows : List (List Int)) (c n : Nat) : Except StepError Float :=
  Counts.ratio ⟨∑ i ∈ Finset.range n, (found r k (listAt results i) (listAt rows (c + i))).card,
    slotsOver r k rows c n⟩

theorem quotient_eq_setQuotient (r k : Nat) (results rows : List (List Int)) (c n : Nat)
    (once : ∀ i < n, Once r k (listAt results i) (listAt rows (c + i))) :
    quotient r k results rows c n = setQuotient r k results rows c n := by
  have hhits : hitsOver r k results rows c n =
      ∑ i ∈ Finset.range n, (found r k (listAt results i) (listAt rows (c + i))).card := by
    apply Finset.sum_congr rfl
    intro i hi
    have hle := (hitsOf_le_card_found_iff r k _ _).mpr (once i (Finset.mem_range.mp hi))
    exact hle.antisymm (card_found_le r k _ _)
  rw [setQuotient, ← hhits]
  rfl

/-- A query has as many hits as it finds neighbours if none of them is looked at twice, and more
otherwise. If every query is of the first kind, recall is that of the sets. -/
theorem credited_once {δ : Type} [Dataset δ] {At : Nat → δ → Prop} {rows : List (List Int)}
    (tape : Tape At (.ids rows)) (r k queries : Nat) (results : List (List Int)) (c : Nat) (d : δ)
    (place : At c d) :
    let n := min queries (rows.length - c)
    let row := fun i => listAt rows (c + i)
    let query := fun i => ofRow r k (listAt results i) (row i)
    (counts r k queries results d).1 =
        .ok ⟨∑ i ∈ Finset.range n, (query i).hits, ∑ i ∈ Finset.range n, (query i).slots⟩ ∧
      (∀ i, (found r k (listAt results i) (row i)).card ≤ (query i).hits ∧
        ((query i).hits ≤ (found r k (listAt results i) (row i)).card ↔
          Once r k (listAt results i) (row i)) ∧
        ((listAt results i).Nodup → Once r k (listAt results i) (row i))) ∧
      ((∀ i < n, Once r k (listAt results i) (row i)) →
        (evaluate r k queries results d).1 = setQuotient r k results rows c n) := by
  intro n row query
  obtain ⟨after, hcounts, -⟩ := counts_at tape r k queries results c d place
  obtain ⟨_, hevaluate, -⟩ := evaluate_at tape r k queries results c d place
  refine ⟨?_, ?_, ?_⟩
  · rw [hcounts]
    simp only [query, ofRow_eq]
    rfl
  · intro i
    simp only [query, ofRow_eq]
    exact ⟨card_found_le r k _ _, hitsOf_le_card_found_iff r k _ _, once_of_nodup r k _ _⟩
  · intro once
    rw [hevaluate]
    exact quotient_eq_setQuotient r k results rows c n once

/-- An id that is in its row twice is still one neighbour, and looked at once. -/
theorem found_once_of_two :
    (evaluate 2 3 1 [[7, 8, 7]] (Memory.mk (.ids [[7, 7, 5]]) 0)).1 =
      .ok (Float.ofNat 1 / Float.ofNat 2) := by
  obtain ⟨-, hquery, hall⟩ := credited_once (tape_memory (.ids [[7, 7, 5]]) (by decide)) 2 3 1
    [[7, 8, 7]] 0 _ rfl
  have once : ∀ i < 1, Once 2 3 (listAt [[7, 8, 7]] i) (listAt [[7, 7, 5]] (0 + i)) := by
    intro i hi
    obtain rfl : i = 0 := by omega
    exact (hquery 0).2.1.mp (by decide)
  rw [hall once]
  rfl

/-- The same id in both slots: two hits, although one neighbour of two was found. -/
theorem repeated_id_fills_two_slots :
    (counts 2 2 1 [[7, 7]] (Memory.mk (.ids [[7, 5]]) 0)).1 = .ok ⟨2, 2⟩ ∧
      ¬(ofRow 2 2 [7, 7] [7, 5]).hits ≤ (found 2 2 [7, 7] [7, 5]).card ∧
      ∃ places sets, (evaluate 2 2 1 [[7, 7]] (Memory.mk (.ids [[7, 5]]) 0)).1 = .ok places ∧
        setQuotient 2 2 [[7, 7]] [[7, 5]] 0 1 = .ok sets ∧ sets < places := by
  refine ⟨rfl, by decide, Float.ofNat 2 / Float.ofNat 2, Float.ofNat 1 / Float.ofNat 2, rfl, rfl, ?_⟩
  decide

end Recall

end NeighborBench

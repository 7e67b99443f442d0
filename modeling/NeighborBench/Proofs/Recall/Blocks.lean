import NeighborBench.Proofs.Recall.Bounds
import Mathlib.Algebra.BigOperators.Fin

/-! # Recall in blocks

Two calls, the second from where the first one stopped, count together what one call over all of their
queries does. So the order of the queries does not matter, nor does the order of the ids of a row.
-/

namespace NeighborBench

namespace Recall

/-! ## One call -/

theorem Counts.zero_add (count : Counts) : Counts.zero.add count = count := by
  unfold Counts.add Counts.zero
  simp only [Nat.zero_add]

theorem Counts.add_assoc (a b count : Counts) : (a.add b).add count = a.add (b.add count) := by
  unfold Counts.add
  simp only [Nat.add_assoc]

/-- A call from `d` on that comes to `count`, and leaves the neighbours as `after`. -/
structure Comes {δ : Type} [Dataset δ] (r k queries : Nat) (results : List (List Int)) (d : δ)
    (count : Counts) (after : δ) : Prop where
  counts_eq : counts r k queries results d = (.ok count, after)
  evaluate_eq : evaluate r k queries results d = (count.ratio, after)
  /-- A call without recall has counted nothing. -/
  degenerate : count.ratio = .error .degenerateRecall ↔ count = ⟨0, 0⟩

section

variable {δ : Type} [Dataset δ] {At : Nat → δ → Prop} {rows : List (List Int)}

theorem ratio_eq_degenerate_iff (count : Counts) (part : count.hits ≤ count.slots) :
    count.ratio = .error .degenerateRecall ↔ count = ⟨0, 0⟩ := by
  obtain ⟨hits, slots⟩ := count
  change hits ≤ slots at part
  unfold Counts.ratio
  by_cases hnone : slots = 0
  · have hhits : hits = 0 := by omega
    simp [hnone, hhits]
  · simp [hnone]

theorem comes_at (tape : Tape At (.ids rows)) (r k queries : Nat) (results : List (List Int)) (c : Nat)
    (d : δ) (h : At c d) : ∃ after, Comes r k queries results d
        ⟨hitsOver r k results rows c (min queries (rows.length - c)),
          slotsOver r k rows c (min queries (rows.length - c))⟩ after ∧
      At (c + min queries (rows.length - c)) after := by
  obtain ⟨after, hcounts, hafter⟩ := counts_at tape r k queries results c d h
  refine ⟨after, ⟨hcounts, ?_, ?_⟩, hafter⟩
  · rw [evaluate, hcounts]
  · exact ratio_eq_degenerate_iff _ (hitsOver_le_slotsOver results rows c _)

/-! ## One call after another -/

theorem counts_append (tape : Tape At (.ids rows)) (r k b : Nat) (A B : List (List Int)) (c : Nat)
    (d : δ) (h : At c d) (hrows : c + A.length ≤ rows.length) : ∃ first middle,
      counts r k A.length A d = (.ok first, middle) ∧ At (c + A.length) middle ∧
      counts r k (A.length + b) (A ++ B) d =
        ((counts r k b B middle).1.map first.add, (counts r k b B middle).2) := by
  -- As long as every query of the first call has its row, the second call starts where a call over
  -- all of the queries is by then.
  induction A generalizing c d with
  | nil =>
    refine ⟨.zero, d, rfl, h, ?_⟩
    have hzero : Counts.zero.add = id := funext Counts.zero_add
    rw [hzero, List.nil_append, List.length_nil, Nat.zero_add]
    cases hrest : counts r k b B d with
    | mk answer after => cases answer <;> rfl
  | cons returned A ih =>
    rw [List.length_cons] at hrows
    have hlt : c < rows.length := by omega
    have hplus : A.length + 1 + b = A.length + b + 1 := by omega
    have hplace : c + 1 + A.length = c + (A.length + 1) := by omega
    obtain ⟨next, hread, hnext⟩ := tape.next c d h hlt
    obtain ⟨first, middle, hfirst, hmiddle, hall⟩ := ih (c + 1) next hnext (by omega)
    rw [hplace] at hmiddle
    refine ⟨(ofRow r k returned (listAt rows c)).add first, middle, ?_, hmiddle, ?_⟩
    · rw [List.length_cons, counts, hread, slice_next rows c hlt]
      simp only [Rows.asIds, List.tail_cons, List.headD_cons, hfirst]
      rfl
    · rw [List.length_cons, hplus, List.cons_append, counts, hread, slice_next rows c hlt]
      simp only [Rows.asIds, List.tail_cons, List.headD_cons, hall]
      cases hrest : (counts r k b B middle).1 with
      | error e => rfl
      | ok second => simp only [Except.map, Counts.add_assoc]

theorem comes_append (tape : Tape At (.ids rows)) (r k b : Nat) (A B : List (List Int)) (c : Nat)
    (d : δ) (h : At c d) (hrows : c + (A.length + b) ≤ rows.length) :
    ∃ first second middle last, Comes r k A.length A d first middle ∧
      Comes r k b B middle second last ∧
      Comes r k (A.length + b) (A ++ B) d (first.add second) last ∧
      At (c + (A.length + b)) last := by
  obtain ⟨first, middle, hfirst, hmiddle, hall⟩ := counts_append tape r k b A B c d h (by omega)
  obtain ⟨left, hcomes, -⟩ := comes_at tape r k A.length A c d h
  obtain ⟨last, hsecond, -⟩ := comes_at tape r k b B (c + A.length) middle hmiddle
  obtain ⟨after, hwhole, hafter⟩ := comes_at tape r k (A.length + b) (A ++ B) c d h
  have hends : min (A.length + b) (rows.length - c) = A.length + b := by omega
  rw [hends] at hafter
  rw [hsecond.counts_eq, hwhole.counts_eq] at hall
  obtain ⟨hcount, rfl⟩ := Prod.mk.inj hall
  rw [Except.ok.inj hcount] at hwhole
  cases hcomes.counts_eq.symm.trans hfirst
  exact ⟨_, _, _, _, hcomes, hsecond, hwhole, hafter⟩

end

/-! ## Another order -/

/-- Queries in another order, each with its results and its row. In the first `k` places of a row the
ids may have changed as long as they are the same set. -/
structure Rearranged (k : Nat) (results rows others changed : List (List Int)) (c n : Nat)
    (σ : Equiv.Perm (Fin n)) : Prop where
  length : changed.length = rows.length
  lists : ∀ i : Fin n, listAt others i = listAt results (σ i)
  sets : ∀ (i : Fin n) (id : Int),
    id ∈ (listAt changed (c + i)).take k ↔ id ∈ (listAt rows (c + σ i)).take k

theorem trueIds_of_mem_iff (k : Nat) (row other : List Int)
    (h : ∀ id, id ∈ other.take k ↔ id ∈ row.take k) : trueIds k other = trueIds k row := by
  apply Finset.ext
  intro id
  rw [mem_trueIds, mem_trueIds, h]

section

variable {k : Nat} {results rows others changed : List (List Int)} {c n : Nat}
  {σ : Equiv.Perm (Fin n)}

theorem Rearranged.slotsOver_eq (h : Rearranged k results rows others changed c n σ) (r : Nat) :
    slotsOver r k changed c n = slotsOver r k rows c n := by
  unfold slotsOver
  rw [Finset.sum_range, Finset.sum_range]
  calc ∑ i : Fin n, slotsOf r k (listAt changed (c + i))
    _ = ∑ i : Fin n, slotsOf r k (listAt rows (c + σ i)) := by
      apply Finset.sum_congr rfl
      intro i _
      rw [slotsOf, slotsOf, trueIds_of_mem_iff k _ _ (h.sets i)]
    _ = ∑ i : Fin n, slotsOf r k (listAt rows (c + i)) :=
      Equiv.sum_comp σ fun i => slotsOf r k (listAt rows (c + i))

theorem Rearranged.hitsOver_eq (h : Rearranged k results rows others changed c n σ) (r : Nat) :
    hitsOver r k others changed c n = hitsOver r k results rows c n := by
  unfold hitsOver
  rw [Finset.sum_range, Finset.sum_range]
  calc ∑ i : Fin n, hitsOf r k (listAt others i) (listAt changed (c + i))
    _ = ∑ i : Fin n, hitsOf r k (listAt results (σ i)) (listAt rows (c + σ i)) := by
      apply Finset.sum_congr rfl
      intro i _
      rw [hitsOf, hitsOf, slotsOf, slotsOf, trueIds_of_mem_iff k _ _ (h.sets i), h.lists i]
    _ = ∑ i : Fin n, hitsOf r k (listAt results i) (listAt rows (c + i)) :=
      Equiv.sum_comp σ fun i => hitsOf r k (listAt results i) (listAt rows (c + i))

end

section

variable {δ : Type} [Dataset δ] {At : Nat → δ → Prop} {rows : List (List Int)}

/-- Where every query has its row, two calls one after the other count what a single call over all of
the queries does, and leave the neighbours as it does. A call over the queries in another order has
the same outcome. -/
theorem calls_add_up_in_any_order (tape : Tape At (.ids rows)) (r k c : Nat) (d : δ) (h : At c d) :
    (∀ (A B : List (List Int)) (b : Nat), c + (A.length + b) ≤ rows.length →
      ∃ first second middle last, Comes r k A.length A d first middle ∧
        Comes r k b B middle second last ∧
        Comes r k (A.length + b) (A ++ B) d (first.add second) last ∧
        At (c + (A.length + b)) last) ∧
    ∀ (queries : Nat) (results others changed : List (List Int))
      (σ : Equiv.Perm (Fin (min queries (rows.length - c)))),
      Rearranged k results rows others changed c (min queries (rows.length - c)) σ →
      ∀ {ε : Type} [Dataset ε] (At' : Nat → ε → Prop) (_ : Tape At' (.ids changed)) (d' : ε),
        At' c d' → ∃ count after after', Comes r k queries results d count after ∧
          Comes r k queries others d' count after' ∧
          At (c + min queries (rows.length - c)) after ∧
          At' (c + min queries (rows.length - c)) after' := by
  refine ⟨fun A B b hrows => comes_append tape r k b A B c d h hrows, ?_⟩
  intro queries results others changed σ same ε _ At' tape' d' h'
  obtain ⟨after, hcomes, hafter⟩ := comes_at tape r k queries results c d h
  obtain ⟨after', hcomes', hafter'⟩ := comes_at tape' r k queries others c d' h'
  rw [same.length] at hcomes' hafter'
  rw [same.hitsOver_eq, same.slotsOver_eq] at hcomes'
  exact ⟨_, after, after', hcomes, hcomes', hafter, hafter'⟩

end

/-- Two queries from row 1 on, in one call and in two, and the other way round over rows in which an
id is doubled and two are swapped. -/
theorem two_of_three_either_way :
    let rows : List (List Int) := [[9], [7, 5], [4]]
    let changed : List (List Int) := [[], [4, 4], [5, 7]]
    (∃ middle last, Comes 2 2 1 [[7, 9]] (Memory.mk (.ids rows) 1) ⟨1, 2⟩ middle ∧
      Comes 2 2 1 [[4]] middle ⟨1, 1⟩ last ∧
      Comes 2 2 2 [[7, 9], [4]] (Memory.mk (.ids rows) 1) ⟨2, 3⟩ last) ∧
    ∃ after, Comes 2 2 2 [[4], [7, 9]] (Memory.mk (.ids changed) 1) ⟨2, 3⟩ after := by
  intro rows changed
  obtain ⟨hblocks, horder⟩ :=
    calls_add_up_in_any_order (tape_memory (.ids rows) (by decide)) 2 2 1 _ rfl
  constructor
  · obtain ⟨first, second, middle, last, hfirst, hsecond, hwhole, -⟩ :=
      hblocks [[7, 9]] [[4]] 1 (by decide)
    cases hfirst.counts_eq
    cases hsecond.counts_eq
    exact ⟨_, _, hfirst, hsecond, hwhole⟩
  · let swap : Equiv.Perm (Fin 2) := Equiv.swap 0 1
    have same : Rearranged 2 [[7, 9], [4]] rows [[4], [7, 9]] changed 1 2 swap := by
      constructor
      · rfl
      · decide
      · intro i id
        match i with
        | 0 => simp [rows, changed, listAt, swap]
        | 1 => simp [rows, changed, listAt, swap, or_comm]
    obtain ⟨count, -, after, -, hcomes, -⟩ := horder 2 _ _ changed swap same
      (fun c m => m = Memory.mk (.ids changed) c) (tape_memory (.ids changed) (by decide)) _ rfl
    cases hcomes.counts_eq
    exact ⟨_, hcomes⟩

end Recall

end NeighborBench

import NeighborBench.Proofs.Dataset.Tape
import NeighborBench.Proofs.Keyed
import NeighborBench.Recall
import Mathlib.Algebra.BigOperators.Group.Finset.Piecewise

/-! # Recall by its definition

Recall over some queries is hits over slots, both summed query by query, with the true neighbours of
each query taken as a set. The loop that reads one row after another computes it from any row on.
-/

namespace NeighborBench

open Dataset (Call history Fit)

/-! ## The definition -/

namespace Recall

/-- The true neighbours among the first `k` ids of a row. -/
def trueIds (k : Nat) (row : List Int) : Finset Int := (row.take k).toFinset.filter (· ≠ -1)

def slotsOf (r k : Nat) (row : List Int) : Nat := min r (trueIds k row).card

/-- The slots that hold a true neighbour. -/
def hitsOf (r k : Nat) (returned row : List Int) : Nat :=
  ((Finset.range (slotsOf r k row)).filter fun j => ∃ id ∈ returned[j]?, id ∈ trueIds k row).card

/-- The list that has a number, or no ids where there is none. -/
def listAt (lists : List (List Int)) (i : Nat) : List Int := lists[i]?.getD []

def slotsOver (r k : Nat) (rows : List (List Int)) (c n : Nat) : Nat :=
  ∑ i ∈ Finset.range n, slotsOf r k (listAt rows (c + i))

def hitsOver (r k : Nat) (results rows : List (List Int)) (c n : Nat) : Nat :=
  ∑ i ∈ Finset.range n, hitsOf r k (listAt results i) (listAt rows (c + i))

/-- Recall over `n` queries, of which the first has its true neighbours in row `c`. -/
def quotient (r k : Nat) (results rows : List (List Int)) (c n : Nat) : Except StepError Float :=
  if slotsOver r k rows c n = 0 then .error .degenerateRecall
  else .ok (Float.ofNat (hitsOver r k results rows c n) / Float.ofNat (slotsOver r k rows c n))

/-! ## One query -/

theorem mem_truth (k : Nat) (row : List Int) (id : Int) :
    id ∈ truth k row ↔ id ∈ trueIds k row := by
  unfold truth trueIds
  rw [List.mem_eraseDups, List.mem_filter, Finset.mem_filter, List.mem_toFinset, sentinelId,
    decide_eq_true_eq]

theorem truth_length (k : Nat) (row : List Int) :
    (truth k row).length = (trueIds k row).card := by
  have hsame : (truth k row).toFinset = trueIds k row := by
    apply Finset.ext
    intro id
    rw [List.mem_toFinset, mem_truth]
  have hnodup : (truth k row).Nodup := nodup_eraseDups _
  rw [← hsame, List.toFinset_card_of_nodup hnodup]

theorem countP_take (ids : List Int) (p : Int → Prop) [DecidablePred p] (n : Nat) :
    (ids.take n).countP (fun id => decide (p id)) =
      ((Finset.range n).filter fun j => ∃ id ∈ ids[j]?, p id).card := by
  induction n generalizing ids with
  | zero => rfl
  | succ n ih =>
    rw [Finset.card_filter, Finset.sum_range_succ', ← Finset.card_filter]
    cases ids with
    | nil => simp
    | cons id rest =>
      rw [List.take_succ_cons, List.countP_cons, ih]
      simp

theorem ofRow_eq (r k : Nat) (returned row : List Int) :
    ofRow r k returned row = ⟨hitsOf r k returned row, slotsOf r k row⟩ := by
  have hslots : min r (truth k row).length = slotsOf r k row := by
    rw [slotsOf, truth_length]
  have hcontains : (truth k row).contains = fun id => decide (id ∈ trueIds k row) := by
    funext id
    rw [List.contains_eq_mem, decide_eq_decide, mem_truth]
  rw [ofRow, hslots, hcontains, countP_take, hitsOf]

/-! ## Slots -/

theorem card_trueIds_le (k : Nat) (row : List Int) : (trueIds k row).card ≤ k := by
  calc (trueIds k row).card
    _ ≤ (row.take k).toFinset.card := Finset.card_filter_le _ _
    _ ≤ (row.take k).length := List.toFinset_card_le _
    _ ≤ k := List.length_take_le k row

theorem slotsOf_of_le (r k : Nat) (row : List Int) (h : k ≤ r) : slotsOf r k row = slotsOf k k row := by
  have hcard := card_trueIds_le k row
  unfold slotsOf
  omega

theorem slotsOver_of_le (r k : Nat) (rows : List (List Int)) (c n : Nat) (h : k ≤ r) :
    slotsOver r k rows c n = slotsOver k k rows c n := by
  unfold slotsOver
  simp only [slotsOf_of_le r k _ h]

theorem hitsOver_of_le (r k : Nat) (results rows : List (List Int)) (c n : Nat) (h : k ≤ r) :
    hitsOver r k results rows c n = hitsOver k k results rows c n := by
  unfold hitsOver hitsOf
  simp only [slotsOf_of_le r k _ h]

theorem slotsOver_eq_zero_iff (r k : Nat) (rows : List (List Int)) (c n : Nat) (hr : 0 < r) :
    slotsOver r k rows c n = 0 ↔ ∀ i < n, (trueIds k (listAt rows (c + i))).card = 0 := by
  unfold slotsOver slotsOf
  rw [Finset.sum_eq_zero_iff]
  simp only [Finset.mem_range]
  constructor
  · intro h i hi
    have := h i hi
    omega
  · intro h i hi
    rw [h i hi, Nat.min_zero]

/-! ## Row after row -/

theorem slice_next (rows : List (List Int)) (c : Nat) (h : c < rows.length) :
    (Rows.ids rows).slice c (c + 1) = .ids [listAt rows c] := by
  have hone : c + 1 - c = 1 := by omega
  simp [Rows.slice, hone, listAt, List.take_one, h]

section

variable {δ : Type} [Dataset δ] {rows : List (List Int)}

/-- The counts of a tape of ids from row `c` on, and the row that it is then in front of. -/
theorem counts_at {At : Nat → δ → Prop} (tape : Tape At (.ids rows)) (r k queries : Nat)
    (results : List (List Int)) (c : Nat) (d : δ) (h : At c d) :
    ∃ after, counts r k queries results d =
        (.ok ⟨hitsOver r k results rows c (min queries (rows.length - c)),
          slotsOver r k rows c (min queries (rows.length - c))⟩, after) ∧
      At (c + min queries (rows.length - c)) after := by
  induction queries generalizing results c d with
  | zero =>
    refine ⟨d, ?_, by rwa [Nat.zero_min]⟩
    rw [Nat.zero_min]
    rfl
  | succ queries ih =>
    by_cases hlt : c < rows.length
    · -- The first query takes row `c`, and the others are one place further in both lists.
      have hcount : min (queries + 1) (rows.length - c) =
          min queries (rows.length - (c + 1)) + 1 := by omega
      have hplace : ∀ i, c + 1 + i = c + (i + 1) := fun i => by omega
      have htail : ∀ i, listAt results.tail i = listAt results (i + 1) := by
        intro i
        rw [listAt, listAt, List.getElem?_tail]
      have hhead : results.headD [] = listAt results 0 := by cases results <;> rfl
      obtain ⟨next, hread, hnext⟩ := tape.next c d h hlt
      obtain ⟨after, hcounts, hafter⟩ := ih results.tail (c + 1) next hnext
      refine ⟨after, ?_, by rwa [hcount, ← hplace]⟩
      rw [counts, hread, slice_next rows c hlt]
      simp only [Rows.asIds, hcounts, hcount, Except.map, ofRow_eq, Counts.add, hhead]
      simp only [hitsOver, slotsOver, hplace, htail]
      rw [Finset.sum_range_succ', Finset.sum_range_succ', Nat.add_comm (hitsOf ..),
        Nat.add_comm (slotsOf ..)]
      rfl
    · have hcount : min (queries + 1) (rows.length - c) = 0 := by omega
      obtain ⟨after, hread, hafter⟩ := tape.finished c d h (Nat.le_of_not_lt hlt)
      refine ⟨after, ?_, by rwa [hcount]⟩
      rw [counts, hread, hcount]
      rfl

theorem evaluate_at {At : Nat → δ → Prop} (tape : Tape At (.ids rows)) (r k queries : Nat)
    (results : List (List Int)) (c : Nat) (d : δ) (h : At c d) :
    ∃ after, evaluate r k queries results d =
        (quotient r k results rows c (min queries (rows.length - c)), after) ∧
      At (c + min queries (rows.length - c)) after := by
  obtain ⟨after, hcounts, hafter⟩ := counts_at tape r k queries results c d h
  refine ⟨after, ?_, hafter⟩
  rw [evaluate, hcounts]
  rfl

/-- Rows of ids in a dataset that is `position c` in front of row `c`. -/
abbrev Supplies (position : Nat → δ) (rows : List (List Int)) : Prop :=
  Tape (fun c d => d = position c) (.ids rows)

theorem evaluate_eq {position : Nat → δ} (supplies : Supplies position rows) (r k queries : Nat)
    (results : List (List Int)) (c : Nat) :
    evaluate r k queries results (position c) =
      (quotient r k results rows c (min queries (rows.length - c)),
        position (c + min queries (rows.length - c))) := by
  obtain ⟨_, hevaluate, rfl⟩ := evaluate_at supplies r k queries results c (position c) rfl
  exact hevaluate

end

/-! ## Where rows come from -/

theorem supplies_memory (rows : List (List Int)) (h : rows.length < rowNumberLimit) :
    Supplies (Memory.mk (.ids rows)) rows := tape_memory (.ids rows) h

theorem supplies_file (b : BigAnn) (whole : b.Whole) (rows : List (List Int))
    (hrows : b.payload = .ids rows) (h : b.rows < rowNumberLimit) : Supplies b.atRow rows := by
  have tape := tape_file b whole h
  rwa [hrows] at tape

/-! ## What has no part in recall -/

theorem hitsOf_congr (r k : Nat) (returned others row : List Int)
    (h : ∀ j < slotsOf r k row, others[j]? = returned[j]?) :
    hitsOf r k others row = hitsOf r k returned row := by
  unfold hitsOf
  congr 1
  apply Finset.filter_congr
  intro j hj
  rw [h j (Finset.mem_range.mp hj)]

theorem trueIds_congr (k : Nat) (row other : List Int) (h : other.take k = row.take k) :
    trueIds k other = trueIds k row := by
  unfold trueIds
  rw [h]

theorem quotient_congr (r k : Nat) (results others rows changed : List (List Int)) (c n : Nat)
    (hrows : ∀ i < n, (listAt changed (c + i)).take k = (listAt rows (c + i)).take k)
    (hresults : ∀ i < n, ∀ j < slotsOf r k (listAt rows (c + i)),
      (listAt others i)[j]? = (listAt results i)[j]?) :
    quotient r k others changed c n = quotient r k results rows c n := by
  have htrue : ∀ i ∈ Finset.range n,
      trueIds k (listAt changed (c + i)) = trueIds k (listAt rows (c + i)) := by
    intro i hi
    exact trueIds_congr k _ _ (hrows i (Finset.mem_range.mp hi))
  have hslots : slotsOver r k changed c n = slotsOver r k rows c n := by
    apply Finset.sum_congr rfl
    intro i hi
    rw [slotsOf, slotsOf, htrue i hi]
  have hhits : hitsOver r k others changed c n = hitsOver r k results rows c n := by
    apply Finset.sum_congr rfl
    intro i hi
    rw [← hitsOf_congr r k _ _ _ (hresults i (Finset.mem_range.mp hi)), hitsOf, hitsOf, slotsOf,
      slotsOf, htrue i hi]
  rw [quotient, quotient, hslots, hhits]

/-! ## Recall from any row on -/

/-- What recall has to be over ids in a dataset that is `position c` at row `c`. -/
structure Defined {δ : Type} [Dataset δ] (r k queries : Nat) (results : List (List Int))
    (position : Nat → δ) (rows : List (List Int)) (c n : Nat) : Prop where
  /-- The quotient, and the cursor behind the rows that were used. -/
  value : evaluate r k queries results (position c) =
    (quotient r k results rows c n, position (c + n))
  /-- Queries past the last row count for nothing. -/
  clamped : evaluate r k n results (position c) = evaluate r k queries results (position c)
  /-- Lists past the last query, ids past the slots of theirs and ids past `k` in a row count for
  nothing. -/
  unread : ∀ others changed : List (List Int), changed.length = rows.length →
    (∀ i < n, (listAt changed (c + i)).take k = (listAt rows (c + i)).take k) →
    (∀ i < n, ∀ j < slotsOf r k (listAt rows (c + i)),
      (listAt others i)[j]? = (listAt results i)[j]?) →
    (evaluate r k queries others (Memory.mk (.ids changed) c)).1 =
      (evaluate r k queries results (position c)).1

theorem defined_of_supplies {δ : Type} [Dataset δ] {position : Nat → δ} {rows : List (List Int)}
    (supplies : Supplies position rows) (h : rows.length < rowNumberLimit) (r k queries : Nat)
    (results : List (List Int)) (c : Nat) :
    Defined r k queries results position rows c (min queries (rows.length - c)) := by
  have hmin : min (min queries (rows.length - c)) (rows.length - c) =
      min queries (rows.length - c) := by omega
  constructor
  · exact evaluate_eq supplies r k queries results c
  · rw [evaluate_eq supplies, evaluate_eq supplies, hmin]
  · intro others changed hlength hrows hresults
    have hchanged := supplies_memory changed (by rwa [hlength])
    rw [evaluate_eq supplies, evaluate_eq hchanged, hlength]
    exact quotient_congr r k results others rows changed c _ hrows hresults

/-- Over rows of ids in memory, and over an accepted file of ids after any calls, recall is the
quotient of its definition from the row at the cursor on. -/
theorem evaluate_by_definition (r k queries : Nat) (results : List (List Int)) :
    (∀ (rows : List (List Int)) (c : Nat), rows.length < rowNumberLimit →
      Defined r k queries results (Memory.mk (.ids rows)) rows c
        (min queries (rows.length - c))) ∧
    ∀ (path : String) (bytes : ByteArray) (b : BigAnn) (calls : List Call),
      BigAnn.openEntry path .i32 (.file bytes) = .ok b →
      Fit Memory.cursor calls ⟨BigAnn.decoded .i32 bytes b.rows b.dim, 0⟩ →
      ∃ rows, BigAnn.decoded .i32 bytes b.rows b.dim = .ids rows ∧
        let c := (history calls b).2.cursor
        (history calls b).2 = b.atRow c ∧
        Defined r k queries results b.atRow rows c (min queries (b.rows - c)) := by
  constructor
  · intro rows c h
    exact defined_of_supplies (supplies_memory rows h) h r k queries results c
  · intro path bytes b calls accepted fit
    have hb := BigAnn.accepted_of_openEntry path .i32 bytes b accepted
    obtain ⟨rows, hrows⟩ : ∃ rows, BigAnn.decoded .i32 bytes b.rows b.dim = .ids rows := ⟨_, rfl⟩
    have hpayload : b.payload = .ids rows := by rw [hb.payload_eq, hrows]
    have hlength : b.rows = rows.length := by
      rw [← b.payload_length, hpayload]
      rfl
    have hlimit : b.rows < rowNumberLimit := Nat.lt_trans hb.rows_lt (by decide)
    have hrun := BigAnn.history_opened .i32 bytes b hb calls (by rwa [BigAnn.inMemory, hb.payload_eq])
    refine ⟨rows, hrows, ?_, ?_⟩
    · rw [hrun]
      rfl
    · rw [hlength]
      exact defined_of_supplies (supplies_file b hb.whole rows hpayload hlimit)
        (by rwa [← hlength]) r k queries results _

/-- Of two slots one is hit, by an id that is twice in its row. The next row has no true neighbour,
and there is no other row. In the file, the row that is left has no true neighbour either. -/
theorem one_of_two_slots :
    let rows : List (List Int) := [[4], [7, 7, 5], [-1, -1]]
    let b : BigAnn :=
      { bytes := BigAnn.withDistances, element := .i32, rows := 2, dim := 1, offset := 8 }
    evaluate 2 3 9 [[8, 7], [7]] (Memory.mk (.ids rows) 1) =
        (.ok (Float.ofNat 1 / Float.ofNat 2), Memory.mk (.ids rows) 3) ∧
      (history [.read 1] b).2 = b.atRow 1 ∧
      evaluate 2 3 9 [[8, 7], [7]] (b.atRow 1) = (.error .degenerateRecall, b.atRow 2) := by
  intro rows b
  obtain ⟨hmemory, hfile⟩ := evaluate_by_definition 2 3 9 [[8, 7], [7]]
  refine ⟨?_, ?_⟩
  · have hslots : slotsOver 2 3 rows 1 2 = 2 := by decide
    have hhits : hitsOver 2 3 [[8, 7], [7]] rows 1 2 = 1 := by decide
    rw [(hmemory rows 1 (by decide)).value]
    change (quotient 2 3 [[8, 7], [7]] rows 1 2, _) = _
    rw [quotient, hslots, hhits]
    rfl
  · have hfit : Fit Memory.cursor [.read 1] ⟨BigAnn.decoded .i32 BigAnn.withDistances 2 1, 0⟩ := by
      simp only [Fit, Call.Fits]
      decide
    obtain ⟨found, hfound, hplace, hdefined⟩ :=
      hfile "truth.ibin" BigAnn.withDistances b [.read 1] BigAnn.withDistances_accepted hfit
    rw [BigAnn.withDistances_decoded] at hfound
    cases hfound
    have hcursor : (history [.read 1] b).2.cursor = 1 := rfl
    rw [hcursor] at hplace hdefined
    refine ⟨hplace, ?_⟩
    rw [hdefined.value]
    have hslots : slotsOver 2 3 [[5], [-1]] 1 1 = 0 := by decide
    change (quotient 2 3 [[8, 7], [7]] [[5], [-1]] 1 1, _) = _
    rw [quotient, hslots]
    rfl

end Recall

end NeighborBench

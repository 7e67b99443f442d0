import Mathlib.Data.List.TakeDrop
import NeighborBench.Proofs.Dataset.Batches

/-! # The cursor of rows in memory

What is returned after a reset is known from how many rows were asked for since then, and from
nothing else. What carries this is that the cursor has the number of rows returned.
-/

namespace NeighborBench

/-! ## Rows one by one -/

abbrev Row := List Single ⊕ List Int

namespace Rows

def entries : Rows → List Row
  | vectors rows => rows.map .inl
  | ids rows => rows.map .inr

@[simp] theorem length_entries (rows : Rows) : rows.entries.length = rows.length := by
  cases rows <;> simp [entries, length]

@[simp] theorem kind_slice (rows : Rows) (start stop : Nat) :
    (rows.slice start stop).kind = rows.kind := by
  cases rows <;> rfl

theorem entries_slice (rows : Rows) (start stop : Nat) :
    (rows.slice start stop).entries = (rows.entries.drop start).take (stop - start) := by
  cases rows <;> simp [entries, slice, List.map_take, List.map_drop]

theorem length_slice (rows : Rows) (start stop : Nat) :
    (rows.slice start stop).length = min (stop - start) (rows.length - start) := by
  rw [← length_entries, entries_slice, List.length_take, List.length_drop, length_entries]

end Rows

/-! ## Since the last reset -/

namespace Dataset

/-- Rows that were asked for, of which so many before the call. -/
def Call.requested (before : Nat) : Call → Nat
  | .read count => before + count
  | .reset => 0

def requested (calls : List Call) : Nat := calls.foldl Call.requested 0

/-- Rows that were returned, of which these before the answer. -/
def Answer.returned (before : List Row) : Answer → List Row
  | .batch (.ok (some rows)) => before ++ rows.entries
  | .batch _ => before
  | .rewound _ => []

def returned (answers : List Answer) : List Row := answers.foldl Answer.returned []

end Dataset

open Dataset (Call perform history Fit requested returned)

namespace Memory

/-- So many rows were asked for and these were returned. -/
structure Reached (asked : Nat) (seen : List Row) (m : Memory) : Prop where
  cursor : m.cursor = min asked m.size
  seen : seen = m.rows.entries.take m.cursor

theorem reached_start (rows : Rows) : Reached 0 [] ⟨rows, 0⟩ := ⟨by simp, by simp⟩

namespace Reached

variable {asked : Nat} {seen : List Row} {m : Memory}

theorem cursor_le (h : Reached asked seen m) : m.cursor ≤ m.size := by
  rw [h.cursor]
  exact Nat.min_le_right _ _

theorem length_seen (h : Reached asked seen m) : seen.length = m.cursor := by
  rw [h.seen, List.length_take, Rows.length_entries]
  exact Nat.min_eq_left h.cursor_le

theorem seen_eq_entries_iff (h : Reached asked seen m) :
    seen = m.rows.entries ↔ m.size ≤ m.cursor := by
  rw [h.seen, List.take_eq_self_iff, Rows.length_entries, size]

theorem read (h : Reached asked seen m) (count : Nat) (fits : m.cursor + count < rowNumberLimit) :
    Reached (asked + count) ((Dataset.Answer.batch (m.read count).1).returned seen)
      (m.read count).2 := by
  have hcursor := h.cursor
  by_cases hend : m.size ≤ m.cursor
  · rw [read_at_end m count hend]
    refine ⟨?_, h.seen⟩
    change m.cursor = min (asked + count) m.size
    omega
  -- In front of the end the rows that are read follow those that were seen.
  · rw [read_of_lt m count (by omega) fits]
    refine ⟨?_, ?_⟩
    · change min (m.cursor + count) m.size = min (asked + count) m.size
      omega
    · change seen ++ (m.rows.slice m.cursor (min (m.cursor + count) m.size)).entries =
        m.rows.entries.take (min (m.cursor + count) m.size)
      have hnext : min (m.cursor + count) m.size =
          m.cursor + (min (m.cursor + count) m.size - m.cursor) := by omega
      rw [Rows.entries_slice, h.seen]
      conv_rhs => rw [hnext, List.take_add]

theorem perform (h : Reached asked seen m) (call : Call) (fits : call.Fits m.cursor) :
    Reached (call.requested asked) ((perform call m).1.returned seen) (perform call m).2 := by
  cases call with
  | read count => exact h.read count fits
  -- Nothing is asked for and nothing seen since a reset that was just made.
  | reset => exact reached_start m.rows

theorem history (h : Reached asked seen m) (calls : List Call) (fit : Fit Memory.cursor calls m) :
    Reached (calls.foldl Call.requested asked)
      ((history calls m).1.foldl Dataset.Answer.returned seen) (history calls m).2 := by
  induction calls generalizing asked seen m with
  | nil => exact h
  | cons call rest ih => exact ih (h.perform call fit.1) fit.2

end Reached

theorem history_reached (rows : Rows) (calls : List Call) (fit : Fit cursor calls ⟨rows, 0⟩) :
    Reached (requested calls) (returned (history calls (Memory.mk rows 0)).1)
      (history calls (Memory.mk rows 0)).2 :=
  (reached_start rows).history calls fit

theorem Reached.read_before_end {asked : Nat} {seen : List Row} {m : Memory}
    (h : Reached asked seen m) (left : seen ≠ m.rows.entries) (count : Nat)
    (fits : m.cursor + count < rowNumberLimit) :
    ∃ batch, (m.read count).1 = .ok (some batch) ∧ batch.kind = m.rows.kind ∧
      batch.length = min count (m.size - m.cursor) ∧
      batch.entries = (m.rows.entries.drop m.cursor).take count := by
  have hlt : m.cursor < m.size := Nat.lt_of_not_le fun hend => left (h.seen_eq_entries_iff.mpr hend)
  rw [read_of_lt m count hlt fits]
  refine ⟨_, rfl, Rows.kind_slice _ _ _, ?_, ?_⟩
  · have hlength := m.rows.length_slice m.cursor (min (m.cursor + count) m.size)
    rw [← size] at hlength
    omega
  · have hleft : (m.rows.entries.drop m.cursor).length = m.size - m.cursor := by
      rw [List.length_drop, Rows.length_entries, size]
    have hcount : min (m.cursor + count) m.size - m.cursor =
        min count (m.rows.entries.drop m.cursor).length := by omega
    rw [Rows.entries_slice, hcount, ← List.take_eq_take_min]

/-- After any calls, the rows that were returned since the last reset are as many of the first rows
as were asked for since then, or all of them. The cursor has their number and the size stays. A read
answers nothing if and only if all rows were returned, and this goes on until a reset; before, it
answers the next rows, which may be none. In what batches the rows are asked for does not matter. -/
theorem reads_return_the_first_rows (rows : Rows) (calls : List Call)
    (fit : Fit cursor calls ⟨rows, 0⟩) :
    let m := (history calls (Memory.mk rows 0)).2
    let seen := returned (history calls (Memory.mk rows 0)).1
    seen = rows.entries.take (min (requested calls) rows.length) ∧
      m.cursor = seen.length ∧ m.cursor ≤ Dataset.size m ∧ Dataset.size m = rows.length ∧
      (∀ answer ∈ (history calls (Memory.mk rows 0)).1, answer.isError = false) ∧
      (∀ count, m.cursor + count < rowNumberLimit →
        ((Dataset.read count m).1 = .ok none ↔ seen = rows.entries) ∧
        (seen ≠ rows.entries → ∃ batch, (Dataset.read count m).1 = .ok (some batch) ∧
          batch.kind = rows.kind ∧ batch.length = min count (Dataset.size m - m.cursor) ∧
          batch.entries = (rows.entries.drop m.cursor).take count)) ∧
      (seen = rows.entries → ∀ counts : List Nat, (history (counts.map .read) m).1 =
        List.replicate counts.length (.batch (.ok none))) ∧
      ∀ others : List Call, Fit cursor others (Memory.mk rows 0) →
        requested others = requested calls →
        returned (history others (Memory.mk rows 0)).1 = seen := by
  intro m seen
  have hrows : m.rows = rows := history_rows calls ⟨rows, 0⟩
  have hsize : m.size = rows.length := by rw [size, hrows]
  have hreached : Reached (requested calls) seen m := history_reached rows calls fit
  have hseen : seen = rows.entries.take (min (requested calls) rows.length) := by
    rw [hreached.seen, hreached.cursor, hrows, hsize]
  have hbefore := hreached.read_before_end
  have hall := hreached.seen_eq_entries_iff
  rw [hrows] at hbefore hall
  refine ⟨hseen, hreached.length_seen.symm, hreached.cursor_le, hsize,
    history_isError calls _ fit, fun count fits => ⟨⟨?_, ?_⟩, ?_⟩, ?_, ?_⟩
  · intro hnone
    by_contra left
    obtain ⟨batch, hbatch, -⟩ := hbefore left count fits
    cases hbatch.symm.trans hnone
  · intro hseen
    exact congrArg Prod.fst (m.read_at_end count (hall.mp hseen))
  · intro left
    exact hbefore left count fits
  · intro hseen counts
    have hat : m = ⟨rows, m.cursor⟩ := by rw [← hrows]
    exact (batched_memory rows).history_finished counts m.cursor m hat (hsize ▸ hall.mp hseen)
  · intro others fitOthers same
    have hothers := history_reached rows others fitOthers
    rw [hothers.seen, hothers.cursor, size, history_rows, same, hseen]

/-- Two batches that ask for six of three rows, with nothing asked for in between. -/
theorem six_of_three_rows :
    let rows : Rows := .ids [[1], [2], [3]]
    let calls : List Call := [.read 2, .reset, .read 1, .read 0, .read 5]
    Fit cursor calls ⟨rows, 0⟩ ∧ Fit cursor [.read 6] ⟨rows, 0⟩ ∧
      returned (history calls (Memory.mk rows 0)).1 = rows.entries ∧
      returned (history [.read 6] (Memory.mk rows 0)).1 = rows.entries ∧
      ∀ count < 100, (Dataset.read count (history calls (Memory.mk rows 0)).2).1 = .ok none := by
  intro rows calls
  have hfit : Fit cursor calls ⟨rows, 0⟩ := by
    simp only [calls, Fit, Call.Fits]
    decide
  have hfitOnce : Fit cursor [.read 6] ⟨rows, 0⟩ := by
    simp only [Fit, Call.Fits]
    decide
  obtain ⟨hseen, hcursor, -, -, -, hread, -, hchunks⟩ :=
    reads_return_the_first_rows rows calls hfit
  have hall : returned (history calls (Memory.mk rows 0)).1 = rows.entries := hseen
  refine ⟨hfit, hfitOnce, hall, (hchunks [.read 6] hfitOnce rfl).trans hall, ?_⟩
  intro count hcount
  refine (hread count ?_).1.mpr hall
  rw [hcursor, hall]
  change 3 + count < 0x1_0000_0000_0000_0000
  omega

end Memory

end NeighborBench

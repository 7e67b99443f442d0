import Mathlib.Algebra.Ring.Nat
import NeighborBench.Proofs.Dataset.BigAnn

/-! # Reading rows in batches

A dataset whose reads answer the rows that come next, so many at a time, and at the end nothing. Rows
in memory are one, and so are the rows of a file that was accepted.
-/

namespace NeighborBench

open Dataset (perform history)

/-- Rows that are read in batches; `At c d` says that `d` is in front of row `c`. A read may ask for
more rows than are left. -/
structure Batched {δ : Type} [Dataset δ] (At : Nat → δ → Prop) (rows : Rows) : Prop where
  size : ∀ c d, At c d → Dataset.size d = rows.length
  next : ∀ c d count, At c d → c < rows.length → c + count < rowNumberLimit → ∃ after,
    Dataset.read count d = (.ok (some (rows.slice c (min (c + count) rows.length))), after) ∧
      At (min (c + count) rows.length) after
  finished : ∀ c d count, At c d → rows.length ≤ c → ∃ after,
    Dataset.read count d = (.ok none, after) ∧ At c after
  rewinds : ∀ c d, At c d → ∃ after, Dataset.reset d = (.ok (), after) ∧ At 0 after

/-! ## Memory and files -/

theorem batched_memory (rows : Rows) : Batched (fun c m => m = Memory.mk rows c) rows := by
  constructor
  · rintro c m rfl
    rfl
  · rintro c m count rfl hlt fits
    exact ⟨_, Memory.read_of_lt ⟨rows, c⟩ count hlt fits, rfl⟩
  · rintro c m count rfl hend
    exact ⟨_, Memory.read_at_end ⟨rows, c⟩ count hend, rfl⟩
  · rintro c m rfl
    exact ⟨_, rfl, rfl⟩

theorem batched_file (b : BigAnn) (whole : b.Whole) :
    Batched (fun c d => d = b.atRow c) b.payload := by
  have hlength := b.payload_length
  constructor
  · rintro c d rfl
    exact hlength.symm
  · rintro c d count rfl hlt fits
    rw [hlength] at hlt ⊢
    exact ⟨_, b.read_atRow whole c count hlt fits, rfl⟩
  · rintro c d count rfl hend
    exact ⟨_, (b.atRow c).read_at_end count (by rwa [hlength] at hend), rfl⟩
  · rintro c d rfl
    refine ⟨b.atRow 0, ?_, rfl⟩
    simp [Dataset.reset, BigAnn.reset, BigAnn.atRow, BigAnn.rowOffset]

/-! ## Reading to the end -/

namespace Batched

variable {δ : Type} [Dataset δ] {At : Nat → δ → Prop} {rows : Rows}

theorem history_finished (batched : Batched At rows) (counts : List Nat) (c : Nat) (d : δ)
    (h : At c d) (hend : rows.length ≤ c) :
    (history (counts.map .read) d).1 = List.replicate counts.length (.batch (.ok none)) := by
  induction counts generalizing d with
  | nil => rfl
  | cons count rest ih =>
    obtain ⟨after, hread, hafter⟩ := batched.finished c d count h hend
    have hrest := ih after hafter
    simp only [List.map_cons, history, perform, hread, hrest]
    rfl

end Batched

end NeighborBench

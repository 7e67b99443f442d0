import NeighborBench.Proofs.Dataset.Batches

/-! # Tapes

A dataset that never fails when its rows are read one by one. Rows in memory are one, and so are the
rows of a file that was accepted.
-/

namespace NeighborBench

/-- Rows that are read one by one; `At c d` says that `d` is in front of row `c`. -/
structure Tape {δ : Type} [Dataset δ] (At : Nat → δ → Prop) (rows : Rows) : Prop where
  size : ∀ c d, At c d → Dataset.size d = rows.length
  next : ∀ c d, At c d → c < rows.length → ∃ after,
    Dataset.read 1 d = (.ok (some (rows.slice c (c + 1))), after) ∧ At (c + 1) after
  finished : ∀ c d, At c d → rows.length ≤ c → ∃ after,
    Dataset.read 1 d = (.ok none, after) ∧ At c after
  rewinds : ∀ c d, At c d → ∃ after, Dataset.reset d = (.ok (), after) ∧ At 0 after

theorem Rows.slice_vectors (rows : List (List Single)) (c : Nat) (h : c < rows.length) :
    (Rows.vectors rows).slice c (c + 1) = .vectors [rows[c]] := by
  have hone : c + 1 - c = 1 := by omega
  simp [Rows.slice, hone, List.take_one, h]

/-- A dataset that answers as another one does, as long as the two are related. -/
structure Mirrors {δ ε : Type} [Dataset δ] [Dataset ε] (R : δ → ε → Prop) : Prop where
  size : ∀ d e, R d e → Dataset.size e = Dataset.size d
  read : ∀ d e, R d e → ∃ after,
    Dataset.read 1 e = ((Dataset.read 1 d).1, after) ∧ R (Dataset.read 1 d).2 after
  reset : ∀ d e, R d e → ∃ after,
    Dataset.reset e = ((Dataset.reset d).1, after) ∧ R (Dataset.reset d).2 after

theorem Tape.mirrored {δ ε : Type} [Dataset δ] [Dataset ε] {At : Nat → δ → Prop} {rows : Rows}
    (tape : Tape At rows) {R : δ → ε → Prop} (mirrors : Mirrors R) :
    Tape (fun c e => ∃ d, R d e ∧ At c d) rows := by
  constructor
  · rintro c e ⟨d, hrel, h⟩
    rw [mirrors.size d e hrel]
    exact tape.size c d h
  · rintro c e ⟨d, hrel, h⟩ hlt
    obtain ⟨after, hread, hafter⟩ := tape.next c d h hlt
    obtain ⟨left, hleft, hrel⟩ := mirrors.read d e hrel
    rw [hread] at hleft hrel
    exact ⟨left, hleft, after, hrel, hafter⟩
  · rintro c e ⟨d, hrel, h⟩ hend
    obtain ⟨after, hread, hafter⟩ := tape.finished c d h hend
    obtain ⟨left, hleft, hrel⟩ := mirrors.read d e hrel
    rw [hread] at hleft hrel
    exact ⟨left, hleft, after, hrel, hafter⟩
  · rintro c e ⟨d, hrel, h⟩
    obtain ⟨after, hreset, hafter⟩ := tape.rewinds c d h
    obtain ⟨left, hleft, hrel⟩ := mirrors.reset d e hrel
    rw [hreset] at hleft hrel
    exact ⟨left, hleft, after, hrel, hafter⟩

/-! ## Memory and files -/

theorem Batched.tape {δ : Type} [Dataset δ] {At : Nat → δ → Prop} {rows : Rows}
    (batched : Batched At rows) (h : rows.length < rowNumberLimit) : Tape At rows := by
  constructor
  · exact batched.size
  · intro c d hat hlt
    have hnext := batched.next c d 1 hat hlt (Nat.lt_of_le_of_lt hlt h)
    rwa [Nat.min_eq_left hlt] at hnext
  · exact fun c d hat hend => batched.finished c d 1 hat hend
  · exact batched.rewinds

theorem tape_memory (rows : Rows) (h : rows.length < rowNumberLimit) :
    Tape (fun c m => m = Memory.mk rows c) rows := (batched_memory rows).tape h

theorem tape_file (b : BigAnn) (whole : b.Whole) (h : b.rows < rowNumberLimit) :
    Tape (fun c d => d = b.atRow c) b.payload :=
  (batched_file b whole).tape (by rwa [b.payload_length])

/-! ## A dataset of either kind -/

instance {δ ε : Type} [Dataset δ] [Dataset ε] : Dataset (δ ⊕ ε) where
  size
    | .inl d => Dataset.size d
    | .inr d => Dataset.size d
  read count
    | .inl d =>
      let (found, d) := Dataset.read count d
      (found, .inl d)
    | .inr d =>
      let (found, d) := Dataset.read count d
      (found, .inr d)
  reset
    | .inl d =>
      let (done, d) := Dataset.reset d
      (done, .inl d)
    | .inr d =>
      let (done, d) := Dataset.reset d
      (done, .inr d)

theorem mirrors_inl {δ ε : Type} [Dataset δ] [Dataset ε] :
    Mirrors fun (d : δ) (e : δ ⊕ ε) => e = .inl d := by
  constructor
  · rintro d _ rfl
    rfl
  · rintro d _ rfl
    exact ⟨_, rfl, rfl⟩
  · rintro d _ rfl
    exact ⟨_, rfl, rfl⟩

theorem mirrors_inr {δ ε : Type} [Dataset δ] [Dataset ε] :
    Mirrors fun (d : ε) (e : δ ⊕ ε) => e = .inr d := by
  constructor
  · rintro d _ rfl
    rfl
  · rintro d _ rfl
    exact ⟨_, rfl, rfl⟩
  · rintro d _ rfl
    exact ⟨_, rfl, rfl⟩

/-- Rows in memory or in a file. -/
abbrev Stored := Memory ⊕ BigAnn

namespace Stored

def cursor : Stored → Nat
  | .inl m => m.cursor
  | .inr b => b.cursor

/-- A dataset as it is when it was just opened. A list in memory has no more rows than there are row
numbers. -/
inductive Opened : Stored → Prop where
  | memory (rows : Rows) (fits : rows.length < rowNumberLimit) : Opened (.inl ⟨rows, 0⟩)
  | file (path : String) (element : Element) (bytes : ByteArray) (b : BigAnn)
    (accepted : BigAnn.openEntry path element (.file bytes) = .ok b) : Opened (.inr b)

theorem Opened.tape {d : Stored} (opened : d.Opened) :
    ∃ (At : Nat → Stored → Prop) (rows : Rows), Tape At rows ∧ At 0 d ∧
      ∀ c d, At c d → d.cursor = c := by
  cases opened with
  | memory rows fits =>
    refine ⟨_, rows, (tape_memory rows fits).mirrored mirrors_inl, ⟨_, rfl, rfl⟩, ?_⟩
    rintro c _ ⟨m, rfl, rfl⟩
    rfl
  | file path element bytes b accepted =>
    have hb := BigAnn.accepted_of_openEntry path element bytes b accepted
    have hlimit : b.rows < rowNumberLimit := Nat.lt_trans hb.rows_lt (by decide)
    refine ⟨_, b.payload, (tape_file b hb.whole hlimit).mirrored mirrors_inr,
      ⟨b, rfl, hb.eq_atRow⟩, ?_⟩
    rintro c _ ⟨d, rfl, rfl⟩
    rfl

end Stored

end NeighborBench

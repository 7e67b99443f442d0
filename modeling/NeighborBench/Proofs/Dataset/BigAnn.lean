import NeighborBench.Proofs.Dataset.Decoding
import NeighborBench.Proofs.Dataset.History

/-! # Big-ann files as rows in memory

An accepted file answers every call as its decoded rows would from memory. What carries this is that
the state of the file is known from the row the cursor is at: the next byte to read is the first one
of that row.
-/

namespace NeighborBench

open Dataset (Call Answer perform history Fit)

namespace Rows

theorem slice_rows (element : Element) (chunks : List (List UInt8)) (start stop : Nat) :
    (element.rows chunks).slice start stop =
      element.rows ((chunks.drop start).take (stop - start)) := by
  cases element <;> simp [Element.rows, slice, List.map_drop, List.map_take]

end Rows

namespace BigAnn

/-! ## Decoded rows -/

/-- The file with its cursor at row `i` and its reader at the first byte of that row. -/
def atRow (b : BigAnn) (i : Nat) : BigAnn := { b with cursor := i, offset := b.rowOffset i }

/-- The decoded rows in memory. -/
def inMemory (b : BigAnn) : Memory := ⟨b.payload, 0⟩

theorem payload_length (b : BigAnn) : b.payload.length = b.rows := by
  unfold payload decoded
  cases b.element <;> simp [Rows.length]

theorem payload_slice (b : BigAnn) (whole : b.Whole) (start stop : Nat) (h : stop ≤ b.rows) :
    b.payload.slice start stop =
      b.element.rows ((List.range' start (stop - start)).map b.chunk) := by
  rw [← rows_chunks b whole, Rows.slice_rows, ← List.map_drop, ← List.map_take,
    List.range_eq_range', List.drop_range', List.take_range'_of_length_ge (by omega)]
  simp

/-! ## Reading -/

theorem chunks_rowOffset (b : BigAnn) (n i : Nat) (h : b.rowOffset (i + n) ≤ b.bytes.size) :
    b.chunks n (b.rowOffset i) = (.ok ((List.range' i n).map b.chunk), b.rowOffset (i + n)) := by
  induction n generalizing i with
  | zero => rfl
  | succ n ih =>
    have hrow : b.rowOffset (i + 1) ≤ b.bytes.size :=
      Nat.le_trans (b.rowOffset_mono (i + 1) (i + (n + 1)) (by omega)) h
    have hrest : i + 1 + n = i + (n + 1) := by omega
    rw [chunks]
    simp only [← rowOffset_succ]
    rw [if_pos hrow, ih (i + 1) (by rwa [hrest]), hrest]
    rfl

theorem read_at_end (b : BigAnn) (count : Nat) (h : b.rows ≤ b.cursor) :
    b.read count = (.ok none, b) := by
  rw [read, if_pos h]

theorem read_atRow (b : BigAnn) (whole : b.Whole) (i count : Nat) (h : i < b.rows)
    (fits : i + count < rowNumberLimit) :
    (b.atRow i).read count =
      (.ok (some (b.payload.slice i (min (i + count) b.rows))), b.atRow (min (i + count) b.rows)) := by
  have hstop : i + (min (i + count) b.rows - i) = min (i + count) b.rows := by omega
  have hinside : b.rowOffset (i + (min (i + count) b.rows - i)) ≤ b.bytes.size := by
    refine Nat.le_trans (b.rowOffset_mono _ b.rows ?_) whole
    omega
  -- The cursor has no part in what bytes are read.
  have hchunks : (b.atRow i).chunks (min (i + count) b.rows - i) (b.rowOffset i) =
      (.ok ((List.range' i (min (i + count) b.rows - i)).map b.chunk),
        b.rowOffset (min (i + count) b.rows)) := by
    have := (b.atRow i).chunks_rowOffset (min (i + count) b.rows - i) i hinside
    rwa [hstop] at this
  rw [payload_slice b whole _ _ (Nat.min_le_right _ _), read, if_neg (by simp only [atRow]; omega),
    if_neg (by simp only [atRow]; omega)]
  simp only [atRow] at hchunks ⊢
  rw [hchunks]

/-- One call: the answer is the one from memory, and the reader is at the first byte of the row
where memory's cursor is. -/
theorem perform_atRow (b : BigAnn) (whole : b.Whole) (call : Call) (m : Memory)
    (hrows : m.rows = b.payload) (fits : call.Fits m.cursor) :
    perform call (b.atRow m.cursor) = ((perform call m).1, b.atRow (perform call m).2.cursor) := by
  have hsize : m.size = b.rows := by rw [Memory.size, hrows, payload_length]
  cases call with
  | reset =>
    change (Answer.rewound (.ok ()), _) = (Answer.rewound (.ok ()), b.atRow 0)
    simp [atRow, rowOffset]
  | read count =>
    change (Answer.batch ((b.atRow m.cursor).read count).1, ((b.atRow m.cursor).read count).2) =
      (Answer.batch (m.read count).1, b.atRow (m.read count).2.cursor)
    by_cases hend : b.rows ≤ m.cursor
    · rw [read_at_end (b.atRow m.cursor) count hend, Memory.read_at_end m count (by omega)]
    · rw [read_atRow b whole m.cursor count (by omega) fits,
        Memory.read_of_lt m count (by omega) fits, hrows, hsize]

theorem history_atRow (b : BigAnn) (whole : b.Whole) (calls : List Call) (m : Memory)
    (hrows : m.rows = b.payload) (fit : Fit Memory.cursor calls m) :
    history calls (b.atRow m.cursor) =
      ((history calls m).1, b.atRow (history calls m).2.cursor) := by
  induction calls generalizing m with
  | nil => rfl
  | cons call rest ih =>
    have hstep := perform_atRow b whole call m hrows fit.1
    have hrest := ih (perform call m).2 (by rw [Memory.perform_rows, hrows]) fit.2
    simp only [history, hstep, hrest]

/-! ## Opening -/

theorem header?_lt (bytes : ByteArray) (rows dim : Nat) (h : header? bytes = some (rows, dim)) :
    rows < 0x1_0000_0000 ∧ dim < 0x1_0000_0000 := by
  unfold header? at h
  split at h
  · rename_i hwords
    cases h
    have hlt := wordsOf_lt (bytes.extract 0 headerLength).toList
    rw [hwords] at hlt
    exact ⟨hlt _ (by simp), hlt _ (by simp)⟩
  · cases h

theorem fileLength?_eq_some (rows dim width length : Nat)
    (h : fileLength? rows dim width = some length) :
    length = rows * dim * width + headerLength ∧ length < lengthLimit := by
  simp only [fileLength?] at h
  split at h
  · rename_i hlt
    cases h
    exact ⟨rfl, hlt⟩
  · cases h

/-- What is known of a file once it is open. -/
structure Accepted (element : Element) (bytes : ByteArray) (b : BigAnn) : Prop where
  header : header? bytes = some (b.rows, b.dim)
  file : b = { bytes, element, rows := b.rows, dim := b.dim, offset := headerLength }
  whole : b.Whole

theorem accepted_of_openEntry (path : String) (element : Element) (bytes : ByteArray) (b : BigAnn)
    (h : openEntry path element (.file bytes) = .ok b) : Accepted element bytes b := by
  unfold openEntry at h
  simp only [Entry.bytes] at h
  split at h
  · cases h
  · rename_i rows dim hheader
    split at h
    · rename_i plain paired hplain hpaired
      obtain ⟨rfl, -⟩ := fileLength?_eq_some _ _ _ _ hplain
      obtain ⟨rfl, -⟩ := fileLength?_eq_some _ _ _ _ hpaired
      split at h
      · rename_i hlength
        cases h
        refine ⟨hheader, rfl, ?_⟩
        have hcases : bytes.size = rows * dim * element.width + headerLength ∨
            (element = .i32 ∧ bytes.size = rows * dim * pairWidth + headerLength) := by
          simpa using hlength
        simp only [Whole, rowOffset, rowLength, pairWidth, ← Nat.mul_assoc] at hcases ⊢
        rcases hcases with hlength | ⟨rfl, hlength⟩
        · omega
        · -- With the distances there are twice as many bytes as the ids need.
          simp only [Element.width]
          omega
      · cases h
    · cases h

theorem Accepted.eq_atRow {element : Element} {bytes : ByteArray} {b : BigAnn}
    (h : Accepted element bytes b) : b = b.atRow 0 := by
  rw [h.file]
  simp [atRow, rowOffset]

theorem Accepted.payload_eq {element : Element} {bytes : ByteArray} {b : BigAnn}
    (h : Accepted element bytes b) : b.payload = decoded element bytes b.rows b.dim := by
  have helement : b.element = element := by rw [h.file]
  have hbytes : b.bytes = bytes := by rw [h.file]
  rw [payload, helement, hbytes]

theorem Accepted.rows_lt {element : Element} {bytes : ByteArray} {b : BigAnn}
    (h : Accepted element bytes b) : b.rows < 0x1_0000_0000 := (header?_lt bytes b.rows b.dim h.header).1

theorem payload_eq_of_prefix (element : Element) (bytes other : ByteArray) (b d : BigAnn)
    (hb : Accepted element bytes b) (hd : Accepted element other d)
    (same : other.extract 0 (b.rowOffset b.rows) = bytes.extract 0 (b.rowOffset b.rows)) :
    d.payload = b.payload := by
  have hextract : ∀ i j, j ≤ b.rowOffset b.rows → other.extract i j = bytes.extract i j := by
    intro i j hj
    have := congrArg (·.extract i j) same
    simpa [ByteArray.extract_extract, Nat.min_eq_left hj] using this
  have hheader : header? other = header? bytes := by
    rw [header?, header?, hextract 0 headerLength (Nat.le_add_right _ _)]
  rw [hd.header, hb.header] at hheader
  have hrows : d.rows = b.rows := congrArg (fun header => (header.getD (0, 0)).1) hheader
  have hdim : d.dim = b.dim := congrArg (fun header => (header.getD (0, 0)).2) hheader
  have helement : d.element = b.element := by rw [hd.file, hb.file]
  have hdbytes : d.bytes = other := by rw [hd.file]
  have hbbytes : b.bytes = bytes := by rw [hb.file]
  have hoffset : ∀ i, d.rowOffset i = b.rowOffset i := by
    intro i
    rw [rowOffset, rowOffset, rowLength, rowLength, hdim, helement]
  have hchunk : ∀ i ∈ List.range b.rows, d.chunk i = b.chunk i := by
    intro i hi
    have hlast := b.rowOffset_mono (i + 1) b.rows (List.mem_range.mp hi)
    rw [chunk, chunk, hoffset, hoffset, hdbytes, hbbytes, hextract _ _ hlast]
  rw [← rows_chunks d hd.whole, ← rows_chunks b hb.whole, helement, hrows,
    List.map_congr_left hchunk]

/-! ## Whole histories -/

theorem history_opened (element : Element) (bytes : ByteArray) (b : BigAnn)
    (h : Accepted element bytes b) (calls : List Call) (fit : Fit Memory.cursor calls b.inMemory) :
    history calls b =
      ((history calls b.inMemory).1, b.atRow (history calls b.inMemory).2.cursor) := by
  have := history_atRow b h.whole calls b.inMemory rfl fit
  rwa [show b.atRow b.inMemory.cursor = b from h.eq_atRow.symm] at this

/-- A file that is accepted answers every call as its decoded rows do from memory, and never with an
error. Its reader stands at the first byte of the row at the cursor, its size stays the same, and no
byte past the last row is ever seen in an answer. -/
theorem accepted_file_answers_as_memory (path : String) (element : Element) (bytes : ByteArray)
    (b : BigAnn) (accepted : openEntry path element (.file bytes) = .ok b) (calls : List Call)
    (fit : Fit Memory.cursor calls ⟨decoded element bytes b.rows b.dim, 0⟩) :
    let memory : Memory := ⟨decoded element bytes b.rows b.dim, 0⟩
    (history calls b).1 = (history calls memory).1 ∧
      (∀ answer ∈ (history calls b).1, answer.isError = false) ∧
      Dataset.size (history calls b).2 = Dataset.size b ∧
      Dataset.size (history calls memory).2 = Dataset.size memory ∧
      Dataset.size memory = Dataset.size b ∧
      (history calls b).2.cursor = (history calls memory).2.cursor ∧
      (history calls b).2.offset = 8 + (history calls b).2.cursor * b.dim * element.width ∧
      ∀ otherPath other d, openEntry otherPath element (.file other) = .ok d →
        other.extract 0 (8 + b.rows * b.dim * element.width) =
          bytes.extract 0 (8 + b.rows * b.dim * element.width) →
        (history calls d).1 = (history calls b).1 := by
  have hb := accepted_of_openEntry path element bytes b accepted
  have helement : b.element = element := by rw [hb.file]
  have hmemory : (⟨decoded element bytes b.rows b.dim, 0⟩ : Memory) = b.inMemory := by
    rw [inMemory, hb.payload_eq]
  have hlength : ∀ i, b.rowOffset i = 8 + i * b.dim * element.width := by
    intro i
    rw [rowOffset, rowLength, helement, Nat.mul_assoc]
    rfl
  rw [hmemory] at fit ⊢
  have hrun := history_opened element bytes b hb calls fit
  refine ⟨by rw [hrun], ?_, by rw [hrun]; rfl, ?_, b.payload_length, by rw [hrun]; rfl, ?_, ?_⟩
  · rw [hrun]
    exact Memory.history_isError calls b.inMemory fit
  · change (history calls b.inMemory).2.rows.length = b.inMemory.rows.length
    rw [Memory.history_rows]
  · rw [hrun]
    exact hlength _
  · intro otherPath other d hopen same
    have hd := accepted_of_openEntry otherPath element other d hopen
    rw [← hlength] at same
    have hpayload := payload_eq_of_prefix element bytes other b d hb hd same
    have hsame : d.inMemory = b.inMemory := by rw [inMemory, inMemory, hpayload]
    rw [history_opened element other d hd calls (by rwa [hsame]), hrun, hsame]

/-- Two rows of one id each, and a distance for each behind them. -/
def withDistances : ByteArray :=
  ⟨#[2, 0, 0, 0, 1, 0, 0, 0, 5, 0, 0, 0, 255, 255, 255, 255, 7, 0, 0, 0, 9, 0, 0, 0]⟩

theorem withDistances_accepted :
    openEntry "truth.ibin" .i32 (.file withDistances) =
      .ok { bytes := withDistances, element := .i32, rows := 2, dim := 1, offset := 8 } := by
  have hheader : header? withDistances = some (2, 1) := by
    rw [header?, toList_eq_data]
    rfl
  simp only [openEntry, Entry.bytes, hheader]
  rfl

theorem withDistances_decoded : decoded .i32 withDistances 2 1 = .ids [[5], [-1]] := by decide

theorem withDistances_answers :
    let calls : List Call := [.read 1, .read 5, .read 1, .reset, .read 0]
    let b : BigAnn := { bytes := withDistances, element := .i32, rows := 2, dim := 1, offset := 8 }
    openEntry "truth.ibin" .i32 (.file withDistances) = .ok b ∧
      Fit Memory.cursor calls ⟨decoded .i32 withDistances 2 1, 0⟩ ∧
      (history calls b).1 = [.batch (.ok (some (.ids [[5]]))), .batch (.ok (some (.ids [[-1]]))),
        .batch (.ok none), .rewound (.ok ()), .batch (.ok (some (.ids [])))] := by
  intro calls b
  have hfit : Fit Memory.cursor calls ⟨decoded .i32 withDistances 2 1, 0⟩ := by
    simp only [calls, Fit, Call.Fits]
    decide
  obtain ⟨hanswers, -⟩ := accepted_file_answers_as_memory "truth.ibin" .i32 withDistances b
    withDistances_accepted calls hfit
  refine ⟨withDistances_accepted, hfit, ?_⟩
  rw [hanswers, withDistances_decoded]
  rfl

end BigAnn

end NeighborBench

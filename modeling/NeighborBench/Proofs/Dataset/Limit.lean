import NeighborBench.Proofs.Dataset.Tape

/-! # The last row number

The end of a batch is counted before it is cut to the rows that are there. So a read may fail for the
number of rows that it asks for, and whether it does depends on where the cursor is.
-/

namespace NeighborBench

open Dataset (Call perform history)

/-- What a read of so many rows from row `c` on has to answer: nothing at the end, and otherwise the
rows that are left, up to their number. -/
def Rows.due (rows : Rows) (c count : Nat) : Option Rows :=
  if rows.length ≤ c then .none else some (rows.slice c (c + min count (rows.length - c)))

theorem Memory.read_tooLarge (m : Memory) (count : Nat) (h : m.cursor < m.size)
    (large : rowNumberLimit ≤ m.cursor + count) :
    m.read count = (.error (.countTooLarge m.cursor count), m) := by
  rw [read, if_neg (by omega), if_pos large]

theorem BigAnn.read_tooLarge (b : BigAnn) (count : Nat) (h : b.cursor < b.rows)
    (large : rowNumberLimit ≤ b.cursor + count) :
    b.read count = (.error (.countTooLarge b.cursor count), b) := by
  rw [read, if_neg (by omega), if_pos large]

namespace Stored

def rows : Stored → Rows
  | .inl m => m.rows
  | .inr b => b.payload

/-- In front of row `c`. The reader of a file is at the first byte of that row. -/
inductive At (rows : Rows) (c : Nat) : Stored → Prop where
  | memory : At rows c (.inl ⟨rows, c⟩)
  | file (b : BigAnn) (whole : b.Whole) (payload : b.payload = rows) : At rows c (.inr (b.atRow c))

theorem Opened.at {d : Stored} (opened : d.Opened) : At d.rows 0 d := by
  cases opened with
  | memory rows fits => exact .memory
  | file path element bytes b accepted =>
    have hb := BigAnn.accepted_of_openEntry path element bytes b accepted
    have hfile : At b.payload 0 (.inr (b.atRow 0)) := .file b hb.whole rfl
    rwa [← hb.eq_atRow] at hfile

namespace At

variable {rows : Rows} {c : Nat} {d : Stored}

theorem cursor_eq (h : At rows c d) : d.cursor = c := by
  cases h <;> rfl

theorem size_eq (h : At rows c d) : Dataset.size d = rows.length := by
  cases h with
  | memory => rfl
  | file b whole payload => exact payload ▸ b.payload_length.symm

theorem reset (h : At rows c d) : At rows 0 (Dataset.reset d).2 := by
  cases h with
  | memory => exact .memory
  | file b whole payload =>
    have hstart : (Dataset.reset (Sum.inr (b.atRow c) : Stored)).2 = .inr (b.atRow 0) := by
      simp [Dataset.reset, BigAnn.reset, BigAnn.atRow, BigAnn.rowOffset]
    rw [hstart]
    exact .file b whole payload

theorem read_at_end (h : At rows c d) (count : Nat) (hend : rows.length ≤ c) :
    Dataset.read count d = (.ok none, d) := by
  cases h with
  | memory => simp only [Dataset.read, Memory.read_at_end ⟨rows, c⟩ count hend]
  | file b whole payload =>
    have hrows : b.rows ≤ c := by rwa [← b.payload_length, payload]
    simp only [Dataset.read, (b.atRow c).read_at_end count hrows]

theorem read_of_lt (h : At rows c d) (count : Nat) (hlt : c < rows.length)
    (fits : c + count < rowNumberLimit) :
    ∃ after, Dataset.read count d =
        (.ok (some (rows.slice c (min (c + count) rows.length))), after) ∧
      At rows (min (c + count) rows.length) after := by
  cases h with
  | memory =>
    refine ⟨.inl ⟨rows, min (c + count) rows.length⟩, ?_, .memory⟩
    simp only [Dataset.read, Memory.read_of_lt ⟨rows, c⟩ count hlt fits]
    rfl
  | file b whole payload =>
    have hlength : rows.length = b.rows := by rw [← payload, b.payload_length]
    rw [hlength] at hlt ⊢
    refine ⟨.inr (b.atRow (min (c + count) b.rows)), ?_, .file b whole payload⟩
    simp only [Dataset.read, b.read_atRow whole c count hlt fits, payload]

theorem read_tooLarge (h : At rows c d) (count : Nat) (hlt : c < rows.length)
    (large : rowNumberLimit ≤ c + count) :
    Dataset.read count d = (.error (.countTooLarge c count), d) := by
  cases h with
  | memory => simp only [Dataset.read, Memory.read_tooLarge ⟨rows, c⟩ count hlt large]
  | file b whole payload =>
    have hrows : c < b.rows := by rwa [← b.payload_length, payload]
    simp only [Dataset.read, (b.atRow c).read_tooLarge count hrows large]
    rfl

theorem perform (h : At rows c d) (hc : c ≤ rows.length) (call : Call) :
    ∃ next ≤ rows.length, At rows next (perform call d).2 := by
  -- A call leaves the cursor in front of a row or at the end, also if it fails.
  cases call with
  | reset => exact ⟨0, Nat.zero_le _, h.reset⟩
  | read count =>
    change ∃ next ≤ rows.length, At rows next (Dataset.read count d).2
    by_cases hend : rows.length ≤ c
    · rw [h.read_at_end count hend]
      exact ⟨c, hc, h⟩
    by_cases large : rowNumberLimit ≤ c + count
    · rw [h.read_tooLarge count (by omega) large]
      exact ⟨c, hc, h⟩
    · obtain ⟨after, hread, hafter⟩ := h.read_of_lt count (by omega) (by omega)
      rw [hread]
      exact ⟨_, Nat.min_le_right _ _, hafter⟩

theorem history (h : At rows c d) (hc : c ≤ rows.length) (calls : List Call) :
    ∃ last ≤ rows.length, At rows last (history calls d).2 := by
  induction calls generalizing c d with
  | nil => exact ⟨c, hc, h⟩
  | cons call rest ih =>
    obtain ⟨next, hnext, hat⟩ := h.perform hc call
    exact ih hat hnext

theorem read_eq_due_iff (h : At rows c d) (count : Nat) :
    (Dataset.read count d).1 = .ok (rows.due c count) ↔
      rows.length ≤ c ∨ c + count < rowNumberLimit := by
  by_cases hend : rows.length ≤ c
  · simp [h.read_at_end count hend, Rows.due, hend]
  by_cases large : rowNumberLimit ≤ c + count
  · simp [h.read_tooLarge count (by omega) large]
    omega
  · obtain ⟨after, hread, -⟩ := h.read_of_lt count (by omega) (by omega)
    have hstop : min (c + count) rows.length = c + min count (rows.length - c) := by omega
    have hdue : rows.due c count = some (rows.slice c (min (c + count) rows.length)) := by
      rw [Rows.due, if_neg hend, hstop]
    rw [hread, hdue]
    simp
    omega

end At

/-- Whatever was called before, a read answers what is due if and only if all rows were read or the
number of the row at which it would end fits a word; otherwise it fails and leaves everything as it
is. So a read of any number of rows that fits a word is answered if and only if the cursor is at the
first row or at the end. -/
theorem read_answers_what_is_due_iff (d : Stored) (opened : d.Opened) (calls : List Call) :
    let left := (Dataset.history calls d).2
    left.cursor ≤ Dataset.size left ∧ Dataset.size left = d.rows.length ∧
      (∀ count, ((Dataset.read count left).1 = .ok (d.rows.due left.cursor count) ↔
        Dataset.size left ≤ left.cursor ∨ left.cursor + count < 2 ^ 64)) ∧
      (∀ count, left.cursor < Dataset.size left → 2 ^ 64 ≤ left.cursor + count →
        Dataset.read count left = (.error (.countTooLarge left.cursor count), left)) ∧
      ((∀ count < 2 ^ 64, (Dataset.read count left).1 = .ok (d.rows.due left.cursor count)) ↔
        left.cursor = 0 ∨ left.cursor = Dataset.size left) := by
  intro left
  obtain ⟨c, hc, hat⟩ := opened.at.history (Nat.zero_le _) calls
  have hcursor : left.cursor = c := hat.cursor_eq
  have hsize : Dataset.size left = d.rows.length := hat.size_eq
  rw [hcursor, hsize]
  refine ⟨hc, rfl, hat.read_eq_due_iff, hat.read_tooLarge, ?_⟩
  constructor
  · intro hall
    have hlast := (hat.read_eq_due_iff (2 ^ 64 - 1)).mp (hall _ (by omega))
    unfold rowNumberLimit at hlast
    omega
  · intro hplace count hcount
    refine (hat.read_eq_due_iff count).mpr ?_
    unfold rowNumberLimit
    omega

/-- One of three rows is read. Then one row less may be asked for than a word can count. -/
theorem after_a_row_less_may_be_asked :
    let d : Stored := .inl ⟨.ids [[1], [2], [3]], 0⟩
    let left := (Dataset.history [.read 1] d).2
    d.Opened ∧ left.cursor = 1 ∧
      (Dataset.read (2 ^ 64 - 2) left).1 = .ok (some (.ids [[2], [3]])) ∧
      Dataset.read (2 ^ 64 - 1) left = (.error (.countTooLarge 1 (2 ^ 64 - 1)), left) := by
  intro d left
  have hopened : d.Opened := .memory _ (by decide)
  obtain ⟨-, -, hread, hlarge, -⟩ := read_answers_what_is_due_iff d hopened [.read 1]
  exact ⟨hopened, rfl, (hread _).mpr (by decide), hlarge _ (by decide) (by decide)⟩

/-- One of three rows is read, and then as many are asked for as a word can count. -/
theorem largest_count_fails_after_a_row :
    let d : Stored := .inl ⟨.ids [[1], [2], [3]], 0⟩
    let left := (Dataset.history [.read 1] d).2
    d.rows.due left.cursor (2 ^ 64 - 1) = some (.ids [[2], [3]]) ∧
      (Dataset.read (2 ^ 64 - 1) left).1 ≠ .ok (d.rows.due left.cursor (2 ^ 64 - 1)) := by
  decide

end Stored

end NeighborBench

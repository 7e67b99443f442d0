import NeighborBench.Dataset.Memory

/-! # Histories of a dataset

What a dataset answers to calls that are made one after another, in any order.
-/

namespace NeighborBench.Dataset

inductive Call where
  | read (count : Nat)
  | reset
  deriving DecidableEq, Repr

inductive Answer where
  | batch (found : Except DatasetError (Option Rows))
  | rewound (done : Except DatasetError Unit)
  deriving Repr

def Answer.isError : Answer → Bool
  | batch (.error _) => true
  | rewound (.error _) => true
  | _ => false

section

variable {δ : Type} [Dataset δ]

def perform : Call → δ → Answer × δ
  | .read count, d =>
    let (found, d) := Dataset.read count d
    (.batch found, d)
  | .reset, d =>
    let (done, d) := Dataset.reset d
    (.rewound done, d)

/-- The answers to calls, and the dataset that they leave. -/
def history : List Call → δ → List Answer × δ
  | [], d => ([], d)
  | call :: rest, d =>
    let (answer, d) := perform call d
    let (answers, d) := history rest d
    (answer :: answers, d)

/-- No read counts past the last row number that a word can hold. -/
def Call.Fits (cursor : Nat) : Call → Prop
  | .read count => cursor + count < rowNumberLimit
  | .reset => True

/-- Each call fits where it is made. -/
def Fit (cursor : δ → Nat) : List Call → δ → Prop
  | [], _ => True
  | call :: rest, d => call.Fits (cursor d) ∧ Fit cursor rest (perform call d).2

end

end NeighborBench.Dataset

/-! ## Rows in memory -/

namespace NeighborBench.Memory

open Dataset (Call perform history Fit)

theorem read_at_end (m : Memory) (count : Nat) (h : m.size ≤ m.cursor) :
    m.read count = (.ok none, m) := by
  rw [read, if_pos h]

theorem read_of_lt (m : Memory) (count : Nat) (h : m.cursor < m.size)
    (fits : m.cursor + count < rowNumberLimit) :
    m.read count = (.ok (some (m.rows.slice m.cursor (min (m.cursor + count) m.size))),
      { m with cursor := min (m.cursor + count) m.size }) := by
  rw [read, if_neg (by omega), if_neg (by omega)]

@[simp] theorem perform_rows (call : Call) (m : Memory) : (perform call m).2.rows = m.rows := by
  cases call with
  | read count =>
    change (m.read count).2.rows = m.rows
    unfold read
    split
    · rfl
    · split <;> rfl
  | reset => rfl

theorem perform_isError (call : Call) (m : Memory) (fits : call.Fits m.cursor) :
    (perform call m).1.isError = false := by
  cases call with
  | read count =>
    change (Dataset.Answer.batch (m.read count).1).isError = false
    by_cases hend : m.size ≤ m.cursor
    · rw [read_at_end m count hend]
      rfl
    · rw [read_of_lt m count (by omega) fits]
      rfl
  | reset => rfl

@[simp] theorem history_rows (calls : List Call) (m : Memory) :
    (history calls m).2.rows = m.rows := by
  induction calls generalizing m with
  | nil => rfl
  | cons call rest ih =>
    change (history rest (perform call m).2).2.rows = m.rows
    rw [ih, perform_rows]

theorem history_isError (calls : List Call) (m : Memory) (fit : Fit cursor calls m) :
    ∀ answer ∈ (history calls m).1, answer.isError = false := by
  induction calls generalizing m with
  | nil =>
    intro answer h
    cases h
  | cons call rest ih =>
    intro answer h
    rcases List.mem_cons.mp h with rfl | h
    · exact perform_isError call m fit.1
    · exact ih _ fit.2 answer h

end NeighborBench.Memory

import NeighborBench.Dataset.Basic

/-! # Rows held in memory -/

namespace NeighborBench

structure Memory where
  rows : Rows
  cursor : Nat := 0
  deriving DecidableEq, Repr

namespace Memory

def size (m : Memory) : Nat := m.rows.length

def read (count : Nat) (m : Memory) : Except DatasetError (Option Rows) × Memory :=
  if m.size ≤ m.cursor then (.ok none, m)
  else if rowNumberLimit ≤ m.cursor + count then (.error (.countTooLarge m.cursor count), m)
  else
    let stop := min (m.cursor + count) m.size
    (.ok (some (m.rows.slice m.cursor stop)), { m with cursor := stop })

def reset (m : Memory) : Except DatasetError Unit × Memory := (.ok (), { m with cursor := 0 })

instance : Dataset Memory := ⟨size, read, reset⟩

end Memory

end NeighborBench

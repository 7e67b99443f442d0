import NeighborBench.Dataset.Basic
import NeighborBench.Step.Error

/-! # Recall

Of the slots that could hold a true neighbour, the part that does.
-/

namespace NeighborBench

/-- An id that stands for no neighbour. -/
def sentinelId : Int := -1

namespace Recall

/-- Hits among slots. -/
structure Counts where
  hits : Nat
  slots : Nat
  deriving DecidableEq, Repr

def Counts.zero : Counts := ⟨0, 0⟩

def Counts.add (a b : Counts) : Counts := ⟨a.hits + b.hits, a.slots + b.slots⟩

/-- The true neighbours of a row, each once. -/
def truth (k : Nat) (row : List Int) : List Int :=
  ((row.take k).filter (· ≠ sentinelId)).eraseDups

/-- One query: the first ids that were returned, no more than there are true neighbours or `r`. -/
def ofRow (r k : Nat) (returned row : List Int) : Counts :=
  let truth := truth k row
  let slots := min r truth.length
  ⟨(returned.take slots).countP truth.contains, slots⟩

variable {δ : Type} [Dataset δ]

/-- Counts over so many queries, each against the next row of the neighbours. Rows may run out. -/
def counts (r k : Nat) : Nat → List (List Int) → δ → Except DatasetError Counts × δ
  | 0, _, neighbors => (.ok .zero, neighbors)
  | queries + 1, results, neighbors =>
    match Dataset.read 1 neighbors with
    | (.error e, neighbors) => (.error e, neighbors)
    | (.ok none, neighbors) => (.ok .zero, neighbors)
    | (.ok (some batch), neighbors) =>
      match batch.asIds with
      | .error e => (.error e, neighbors)
      | .ok [] => (.ok .zero, neighbors)
      | .ok (row :: _) =>
        let (rest, neighbors) := counts r k queries results.tail neighbors
        (rest.map (ofRow r k (results.headD []) row).add, neighbors)

def Counts.ratio (c : Counts) : Except StepError Float :=
  if c.slots = 0 then .error .degenerateRecall
  else .ok (Float.ofNat c.hits / Float.ofNat c.slots)

/-- Recall from the cursor of the neighbours on. -/
def evaluate (r k queries : Nat) (results : List (List Int)) (neighbors : δ) :
    Except StepError Float × δ :=
  match counts r k queries results neighbors with
  | (.error e, neighbors) => (.error (.ofDataset e), neighbors)
  | (.ok c, neighbors) => (c.ratio, neighbors)

end Recall

end NeighborBench

import NeighborBench.Proofs.Dataset.Batches
import NeighborBench.Proofs.Single
import NeighborBench.Recall

/-! # The format of big-ann files

A matrix is written as its header and its elements row by row. What is written so is opened and reads
back, and a file is opened only if its length is one that its header asks for.
-/

namespace NeighborBench

open Dataset (history)

/-! ## Elements as bytes -/

namespace Element

abbrev Value : Element → Type
  | f32 => Single
  | u8 => UInt8
  | i32 => Int32

end Element

/-- The bytes of a word, the low one first. -/
def wordBytes (w : UInt32) : List UInt8 :=
  [w.toUInt8, (w >>> 8).toUInt8, (w >>> 16).toUInt8, (w >>> 24).toUInt8]

theorem length_wordsOf (bytes : List UInt8) : (wordsOf bytes).length = bytes.length / 4 := by
  induction bytes using wordsOf.induct with
  | case1 a b c d rest ih =>
    simp only [wordsOf, List.length_cons, ih]
    omega
  | case2 bytes h =>
    have hshort : bytes.length < 4 := by
      rcases bytes with _ | ⟨a, _ | ⟨b, _ | ⟨c, _ | ⟨d, rest⟩⟩⟩⟩
      case cons.cons.cons.cons => exact (h a b c d rest rfl).elim
      all_goals simp
    rw [wordsOf, Nat.div_eq_of_lt hshort]
    · rfl
    · exact h

namespace Element

def bytesOf : (element : Element) → element.Value → List UInt8
  | f32, x => wordBytes x.bits
  | u8, b => [b]
  | i32, n => wordBytes n.toUInt32

def rowBytes (element : Element) (row : List element.Value) : List UInt8 :=
  row.flatMap element.bytesOf

end Element

/-! ## Files that are opened -/

namespace BigAnn

def opened (element : Element) (bytes : ByteArray) : BigAnn where
  bytes := bytes
  element := element
  rows := wordAt bytes 0
  dim := wordAt bytes 4
  offset := headerLength

/-- A matrix as a file, with what stands after it. -/
def written (element : Element) (matrix : List (List element.Value)) (dim : Nat)
    (tail : List UInt8) : ByteArray :=
  ⟨(wordBytes (.ofNat matrix.length) ++ wordBytes (.ofNat dim) ++
    (matrix.map element.rowBytes).flatten ++ tail).toArray⟩

section

variable (element : Element) (matrix : List (List element.Value)) (dim : Nat) (tail : List UInt8)

variable {matrix dim} (hrows : ∀ row ∈ matrix, row.length = dim)

include hrows

end

end BigAnn

end NeighborBench

import NeighborBench.Dataset.BigAnn
import Mathlib.Data.List.Range

/-! # What the bytes of a big-ann file mean

The rows of a file, element by element: element `j` of row `i` stands at a place that the header
determines. A reader that takes whole rows of bytes finds the same elements.
-/

namespace NeighborBench

/-! ## Bytes -/

theorem toList_loop (bytes : ByteArray) (i : Nat) (seen : List UInt8) :
    ByteArray.toList.loop bytes i seen = seen.reverse ++ bytes.data.toList.drop i := by
  -- The walk along a byte array puts what is left of it behind what was seen.
  fun_induction ByteArray.toList.loop bytes i seen with
  | case1 i seen hlt ih =>
    have hi : i < bytes.data.toList.length := hlt
    have hget : bytes.get! i = bytes.data.toList[i] := getElem!_pos bytes.data i hlt
    rw [ih, hget, List.reverse_cons, List.append_assoc, List.drop_eq_getElem_cons hi]
    rfl
  | case2 i seen hend =>
    rw [List.drop_eq_nil_of_le (Nat.le_of_not_lt hend), List.append_nil]

theorem toList_eq_data (bytes : ByteArray) : bytes.toList = bytes.data.toList :=
  toList_loop bytes 0 []

theorem toList_extract (bytes : ByteArray) (i n : Nat) (h : i + n ≤ bytes.size) :
    (bytes.extract i (i + n)).toList = (List.range n).map fun k => bytes.get! (i + k) := by
  have hsize : bytes.size = bytes.data.size := rfl
  rw [toList_eq_data]
  apply List.ext_getElem
  · simp
    omega
  · intro k hk _
    have hlt : i + k < bytes.data.size := by
      simp at hk
      omega
    simp [ByteArray.get!, getElem!_pos bytes.data (i + k) hlt]

/-! ## Words -/

theorem word_lt (a b c d : UInt8) : word a b c d < 0x1_0000_0000 := by
  have ha := a.toNat_lt
  have hb := b.toNat_lt
  have hc := c.toNat_lt
  have hd := d.toNat_lt
  unfold word
  omega

theorem wordsOf_lt (bytes : List UInt8) : ∀ n ∈ wordsOf bytes, n < 0x1_0000_0000 := by
  induction bytes using wordsOf.induct with
  | case1 a b c d rest ih =>
    intro n hn
    rcases List.mem_cons.mp hn with rfl | hn
    · exact word_lt a b c d
    · exact ih n hn
  | case2 bytes h =>
    intro n hn
    rw [wordsOf] at hn
    · cases hn
    · exact h

theorem wordsOf_range (n : Nat) (f : Nat → UInt8) :
    wordsOf ((List.range (n * 4)).map f) =
      (List.range n).map fun j =>
        word (f (j * 4)) (f (j * 4 + 1)) (f (j * 4 + 2)) (f (j * 4 + 3)) := by
  induction n generalizing f with
  | zero => rfl
  | succ n ih =>
    have hfirst : List.range ((n + 1) * 4) = [0, 1, 2, 3] ++ (List.range (n * 4)).map (4 + ·) := by
      rw [Nat.succ_mul, Nat.add_comm, List.range_add]
      rfl
    have hplace : ∀ j, (j + 1) * 4 = 4 + j * 4 := fun j => by omega
    rw [hfirst, List.map_append, List.map_map, List.range_succ_eq_map]
    simp only [List.map_cons, List.map_nil, List.cons_append, List.nil_append, wordsOf, ih]
    simp [Function.comp_def, hplace, Nat.add_assoc]

/-! ## Rows -/

namespace BigAnn

/-- The word whose first byte has a number. -/
def wordAt (bytes : ByteArray) (i : Nat) : Nat :=
  word (bytes.get! i) (bytes.get! (i + 1)) (bytes.get! (i + 2)) (bytes.get! (i + 3))

/-- All rows, each element read where it stands. -/
def decoded (element : Element) (bytes : ByteArray) (rows dim : Nat) : Rows :=
  let place (i j : Nat) := headerLength + (i * dim + j) * element.width
  match element with
  | .f32 => .vectors ((List.range rows).map fun i =>
      (List.range dim).map fun j => ⟨UInt32.ofNat (wordAt bytes (place i j))⟩)
  | .u8 => .vectors ((List.range rows).map fun i =>
      (List.range dim).map fun j => Single.ofByte (bytes.get! (place i j)))
  | .i32 => .ids ((List.range rows).map fun i =>
      (List.range dim).map fun j => signedWord (wordAt bytes (place i j)))

/-- Where row `i` begins. -/
def rowOffset (b : BigAnn) (i : Nat) : Nat := headerLength + i * b.rowLength

/-- The bytes of row `i`. -/
def chunk (b : BigAnn) (i : Nat) : List UInt8 :=
  (b.bytes.extract (b.rowOffset i) (b.rowOffset (i + 1))).toList

/-- The file has all bytes that its header asks for. -/
def Whole (b : BigAnn) : Prop := b.rowOffset b.rows ≤ b.bytes.size

/-- The rows of the file. -/
def payload (b : BigAnn) : Rows := decoded b.element b.bytes b.rows b.dim

theorem rowOffset_succ (b : BigAnn) (i : Nat) :
    b.rowOffset (i + 1) = b.rowOffset i + b.rowLength := by
  rw [rowOffset, rowOffset, Nat.succ_mul]
  omega

theorem rowOffset_mono (b : BigAnn) (i j : Nat) (h : i ≤ j) : b.rowOffset i ≤ b.rowOffset j :=
  Nat.add_le_add_left (Nat.mul_le_mul_right _ h) _

theorem chunk_eq_map (b : BigAnn) (whole : b.Whole) (i : Nat) (h : i < b.rows) :
    b.chunk i = (List.range b.rowLength).map fun k => b.bytes.get! (b.rowOffset i + k) := by
  have hlast : b.rowOffset i + b.rowLength ≤ b.bytes.size := by
    rw [← rowOffset_succ]
    exact Nat.le_trans (b.rowOffset_mono (i + 1) b.rows h) whole
  rw [chunk, rowOffset_succ, toList_extract _ _ _ hlast]

theorem wordsOf_chunk (b : BigAnn) (whole : b.Whole) (i : Nat) (h : i < b.rows)
    (hwidth : b.element.width = 4) :
    wordsOf (b.chunk i) =
      (List.range b.dim).map fun j => wordAt b.bytes (headerLength + (i * b.dim + j) * 4) := by
  have hplace : ∀ j, headerLength + (i * b.dim + j) * 4 = b.rowOffset i + j * 4 := by
    intro j
    rw [rowOffset, rowLength, hwidth, Nat.add_mul, Nat.mul_assoc, Nat.add_assoc]
  rw [chunk_eq_map b whole i h, rowLength, hwidth, wordsOf_range]
  simp only [hplace, wordAt, Nat.add_assoc]

theorem rows_chunks (b : BigAnn) (whole : b.Whole) :
    b.element.rows ((List.range b.rows).map b.chunk) = b.payload := by
  rw [payload]
  rcases helement : b.element with _ | _ | _ <;>
    simp only [Element.rows, decoded, List.map_map, Rows.vectors.injEq, Rows.ids.injEq]
  all_goals
    apply List.map_congr_left
    intro i hi
    have hlt := List.mem_range.mp hi
    have hwidth : b.element.width = Element.width _ := congrArg Element.width helement
  case f32 =>
    rw [Function.comp_apply, singlesOf, wordsOf_chunk b whole i hlt hwidth, List.map_map]
    rfl
  case u8 =>
    have hone : b.rowLength = b.dim := by rw [rowLength, hwidth, Element.width, Nat.mul_one]
    rw [Function.comp_apply, chunk_eq_map b whole i hlt, List.map_map]
    simp only [rowOffset, hone, Element.width, Nat.mul_one, Nat.add_assoc]
    rfl
  case i32 =>
    rw [Function.comp_apply, idsOf, wordsOf_chunk b whole i hlt hwidth, List.map_map]
    rfl

end BigAnn

end NeighborBench

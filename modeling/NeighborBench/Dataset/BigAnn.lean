import NeighborBench.Dataset.Basic

/-! # Big-ann files

A header of two words, the number of rows and the number of elements in each, and then the elements
row by row; every word has its low byte first. A file of neighbours may also hold the distances after
the ids.
-/

namespace NeighborBench

/-! ## Elements -/

inductive Element where
  | f32
  | u8
  | i32
  deriving DecidableEq, Repr

namespace Element

def width : Element → Nat
  | f32 => 4
  | u8 => 1
  | i32 => 4

/-- The element that the extension of a path names. -/
def ofPath (path : String) : Except DatasetError Element :=
  match Path.extension? path with
  | some "fbin" => .ok f32
  | some "u8bin" => .ok u8
  | some "ibin" => .ok i32
  | found => .error (.format (.unknownExtension path found))

def kind : Element → RowKind
  | f32 => .vector
  | u8 => .vector
  | i32 => .id

end Element

def word (a b c d : UInt8) : Nat :=
  a.toNat + 0x100 * b.toNat + 0x1_0000 * c.toNat + 0x100_0000 * d.toNat

/-- A word read as a number with a sign. -/
def signedWord (n : Nat) : Int := if n < 0x8000_0000 then n else (n : Int) - 0x1_0000_0000

/-- Whole words from the front of the bytes. -/
def wordsOf : List UInt8 → List Nat
  | a :: b :: c :: d :: rest => word a b c d :: wordsOf rest
  | _ => []

def singlesOf (bytes : List UInt8) : List Single :=
  (wordsOf bytes).map fun n => ⟨UInt32.ofNat n⟩

def idsOf (bytes : List UInt8) : List Int := (wordsOf bytes).map signedWord

/-- Rows from the bytes of each. -/
def Element.rows (element : Element) (chunks : List (List UInt8)) : Rows :=
  match element with
  | f32 => .vectors (chunks.map singlesOf)
  | u8 => .vectors (chunks.map fun bytes => bytes.map Single.ofByte)
  | i32 => .ids (chunks.map idsOf)

/-! ## Open files -/

/-- An open file: `offset` is where the next byte is read. -/
structure BigAnn where
  bytes : ByteArray
  element : Element
  rows : Nat
  dim : Nat
  cursor : Nat := 0
  offset : Nat

namespace BigAnn

def headerLength : Nat := 8

/-- File lengths are counted in words of 64 bits. -/
def lengthLimit : Nat := 0x1_0000_0000_0000_0000

/-- The length of a file of elements of a width, if it can be counted. -/
def fileLength? (rows dim width : Nat) : Option Nat :=
  let length := rows * dim * width + headerLength
  if length < lengthLimit then some length else none

/-- The width of an id and its distance. -/
def pairWidth : Nat := 8

def header? (bytes : ByteArray) : Option (Nat × Nat) :=
  match wordsOf (bytes.extract 0 headerLength).toList with
  | [rows, dim] => some (rows, dim)
  | _ => none

def openEntry (path : String) (element : Element) (entry : Entry) : Except DatasetError BigAnn :=
  match entry.bytes with
  | .error fault => .error (.format (.header path fault))
  | .ok bytes =>
    match header? bytes with
    | none => .error (.format (.header path .unexpectedEnd))
    | some (rows, dim) =>
      match fileLength? rows dim element.width, fileLength? rows dim pairWidth with
      | some plain, some paired =>
        if bytes.size = plain || (element = .i32 && bytes.size = paired) then
          .ok { bytes, element, rows, dim, offset := headerLength }
        else .error (.format (.wrongLength path rows dim plain bytes.size))
      | _, _ => .error (.format (.tooLarge path rows dim))

def rowLength (b : BigAnn) : Nat := b.dim * b.element.width

/-- The bytes of so many rows from an offset on, and the offset after them. -/
def chunks (b : BigAnn) : Nat → Nat → Except FileFault (List (List UInt8)) × Nat
  | 0, offset => (.ok [], offset)
  | n + 1, offset =>
    let next := offset + b.rowLength
    if next ≤ b.bytes.size then
      let (rest, stop) := b.chunks n next
      (rest.map ((b.bytes.extract offset next).toList :: ·), stop)
    else (.error .unexpectedEnd, b.bytes.size)

def read (count : Nat) (b : BigAnn) : Except DatasetError (Option Rows) × BigAnn :=
  if b.rows ≤ b.cursor then (.ok none, b)
  else if rowNumberLimit ≤ b.cursor + count then (.error (.countTooLarge b.cursor count), b)
  else
    let stop := min (b.cursor + count) b.rows
    match b.chunks (stop - b.cursor) b.offset with
    | (.ok chunks, offset) =>
      (.ok (some (b.element.rows chunks)), { b with cursor := stop, offset })
    | (.error fault, offset) => (.error (.io fault), { b with offset })

def reset (b : BigAnn) : Except DatasetError Unit × BigAnn :=
  (.ok (), { b with cursor := 0, offset := headerLength })

instance : Dataset BigAnn := ⟨rows, read, reset⟩

end BigAnn

end NeighborBench

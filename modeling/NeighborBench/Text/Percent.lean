import NeighborBench.Text.Integer
import NeighborBench.Text.Quoted
import NeighborBench.Text.Utf8

/-! # Bytes written with percent signs -/

namespace NeighborBench.Text

def utf8 (c : Char) : List UInt8 := (String.singleton c).toUTF8.toList

/-- The byte that two digits write. -/
def hexByte? (high low : Char) : Option UInt8 :=
  (digitsValue? 16 [high, low]).map UInt8.ofNat

/-- A percent sign and two digits are a byte; any other percent sign stands for itself. -/
def percentDecoded : List Char → List UInt8
  | '%' :: a :: b :: rest =>
    match hexByte? a b with
    | some byte => byte :: percentDecoded rest
    | none => utf8 '%' ++ percentDecoded (a :: b :: rest)
  | c :: rest => utf8 c ++ percentDecoded rest
  | [] => []

/-- Refuses a percent sign that stands for itself. -/
def percentDecoded? : List Char → Option (List UInt8)
  | [] => some []
  | '%' :: a :: b :: rest => do
    let byte ← hexByte? a b
    let bytes ← percentDecoded? rest
    some (byte :: bytes)
  | '%' :: _ => none
  | c :: rest => (percentDecoded? rest).map (utf8 c ++ ·)

def percentEncoded (b : UInt8) : List Char :=
  ['%', (hexDigit (b.toNat / 16)).toUpper, (hexDigit (b.toNat % 16)).toUpper]

/-- Leaves a class of characters as they are, and writes all others as bytes. -/
def encodeUnless (kept : Char → Bool) (text : List Char) : List Char :=
  text.flatMap fun c => if kept c then [c] else (utf8 c).flatMap percentEncoded

end NeighborBench.Text

import NeighborBench.Decimal.Literal

/-! # Numbers written in decimal

A sign, digits with a point among them or at either end, and an exponent; sign, point and exponent
may be left out.
-/

namespace NeighborBench.Decimal

structure Written where
  negative : Bool
  whole : List Nat
  fraction : List Nat
  exponent : Int

def digitsOf (text : List Char) : List Nat × List Char :=
  ((text.takeWhile Char.isDigit).map fun c => c.toNat - '0'.toNat, text.dropWhile Char.isDigit)

def signOf : List Char → Bool × List Char
  | '-' :: rest => (true, rest)
  | '+' :: rest => (false, rest)
  | rest => (false, rest)

/-- The exponent at the end of a number. -/
def exponentOf? : List Char → Option Int
  | [] => some 0
  | mark :: rest =>
    if mark = 'e' || mark = 'E' then
      let (negative, rest) := signOf rest
      match digitsOf rest with
      | (d :: ds, []) =>
        let size : Int := digitsValue (d :: ds)
        some (if negative then -size else size)
      | _ => none
    else none

def Written.ofChars? (text : List Char) : Option Written := do
  let (negative, rest) := signOf text
  let (whole, rest) := digitsOf rest
  let (fraction, rest) := match rest with
    | '.' :: rest => digitsOf rest
    | rest => ([], rest)
  if whole.isEmpty && fraction.isEmpty then none
  else
    let exponent ← exponentOf? rest
    some ⟨negative, whole, fraction, exponent⟩

/-- The nearest double. -/
def Written.value (w : Written) : Float :=
  let size := nearest (digitsValue (w.whole ++ w.fraction)) (w.exponent - w.fraction.length)
  if w.negative then -size else size

end NeighborBench.Decimal

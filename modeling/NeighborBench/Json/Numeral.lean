import NeighborBench.Json.Basic
import NeighborBench.Decimal.Literal

/-! # JSON numbers as they are written

The digits of a number are gathered into a significand of 64 bits; a number that needs a power of
ten is that significand, rounded, times or over one double that is the power.
-/

namespace NeighborBench.Json

structure Numeral where
  negative : Bool
  whole : List Nat
  fraction : List Nat
  /-- A sign (`true` below zero) and digits, if the number has an exponent. -/
  exponent : Option (Bool × List Nat)
  deriving DecidableEq, Repr

/-- Adds digits while the significand fits in 64 bits; answers it and how many were added. -/
def gather : Nat → List Nat → Nat × Nat
  | n, [] => (n, 0)
  | n, d :: rest =>
    if n * 10 + d < 0x1_0000_0000_0000_0000 then
      let (m, count) := gather (n * 10 + d) rest
      (m, count + 1)
    else (n, 0)

def powerOfTen (n : Nat) : Float := Float.ofScientific 1 false n

/-- One step by a power of ten; a value below every such power comes down 308 places at a time. -/
def scale (x : Float) (exponent : Int) : Option Float :=
  if 0 ≤ exponent then
    if exponent ≤ 308 then
      let y := x * powerOfTen exponent.natAbs
      if y.isInf then none else some y
    else if x == 0 then some x
    else none
  else if -308 ≤ exponent then some (x / powerOfTen exponent.natAbs)
  else if x == 0 then some x
  else scale (x / powerOfTen 308) (exponent + 308)
termination_by exponent.natAbs
decreasing_by omega

namespace Numeral

/-- Past this the exponent is not gathered any further. -/
def exponentLimit : Nat := 0x7FFF_FFFF

def signed (n : Numeral) (x : Float) : Float := if n.negative then -x else x

/-- The number's value; `none` if it is too large for a double. -/
def value? (n : Numeral) : Option Json :=
  let (whole, taken) := gather 0 n.whole
  let skipped := n.whole.length - taken
  if n.fraction.isEmpty && n.exponent.isNone && skipped = 0 then
    if !n.negative then some (.int whole)
    else if whole = 0 || 0x8000_0000_0000_0000 < whole then some (.float (-Float.ofNat whole))
    else some (.int (-whole))
  else
    let (significand, places) := gather whole n.fraction
    let exponent : Int := skipped - places
    let scaled (e : Int) := (scale (Float.ofNat significand) e).map fun x => .float (n.signed x)
    match n.exponent with
    | none => scaled exponent
    | some (below, digits) =>
      let size := Decimal.digitsValue digits
      if exponentLimit < size then
        if significand ≠ 0 && !below then none else some (.float (n.signed 0))
      else scaled (if below then exponent - size else exponent + size)

/-- Every number is also a double. -/
def asFloat? (n : Numeral) : Option Float :=
  match n.value? with
  | some (.int i) => some (Float.ofInt i)
  | some (.float x) => some x
  | _ => none

end Numeral

end NeighborBench.Json

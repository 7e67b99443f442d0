import NeighborBench.Decimal.Shortest
import NeighborBench.Double
import NeighborBench.Json.Basic

/-! # Statistics of a series

Percentiles have the nearest rank, in the order that sets negative zero before zero and a number that
is none at the end.
-/

namespace NeighborBench

namespace Statistics

/-! ## Order -/

/-- The place of a double in the total order of doubles. -/
def place {α : Type} [Double α] (x : α) : Int :=
  let bits := (Double.bits x).toNat
  if bits < 0x8000_0000_0000_0000 then bits else 0x7FFF_FFFF_FFFF_FFFF - (bits : Int)

def sorted {α : Type} [Double α] (values : List α) : List α :=
  values.mergeSort fun a b => decide (place a ≤ place b)

/-! ## Ranks -/

def rankLimit : Nat := 0xFFFF_FFFF_FFFF_FFFF

/-- The least whole number from `x` up, kept between zero and the limit. -/
def ceiling (x : Float) : Nat :=
  let bits := x.toBits.toNat
  if 0x8000_0000_0000_0000 ≤ bits then 0
  else if bits = 2047 * 0x10_0000_0000_0000 then rankLimit
  else if 2047 * 0x10_0000_0000_0000 < bits then 0
  else
    let b := Decimal.Binary.ofBits bits
    let unit := 1 <<< (-b.exponent).toNat
    min rankLimit ((b.mantissa <<< b.exponent.toNat + (unit - 1)) / unit)

/-- The rank of percentile `p` among `n` values, counted from one. -/
def rank (p : Float) (n : Nat) : Nat := max 1 (min (ceiling (p / 100 * Float.ofNat n)) n)

def percentile {α : Type} (sorted : List α) (p : Float) : Option α :=
  sorted[rank p sorted.length - 1]?

/-! ## Means -/

def sum {α : Type} [Double α] (values : List α) : α := values.foldl (· + ·) Double.negativeZero

end Statistics

structure SeriesStats (α : Type := Float) where
  count : Nat
  mean : Option α
  p50 : Option α
  p90 : Option α
  p99 : Option α

namespace SeriesStats

def ofValues {α : Type} [Double α] (values : List α) : SeriesStats α :=
  let sorted := Statistics.sorted values
  { count := sorted.length
    mean := if sorted.isEmpty then none else some (Statistics.sum sorted / Double.ofNat sorted.length)
    p50 := Statistics.percentile sorted 50
    p90 := Statistics.percentile sorted 90
    p99 := Statistics.percentile sorted 99 }

def toJson (s : SeriesStats) : Json :=
  let number (x : Option Float) : Json := x.elim .null .float
  .object [("count", .int s.count), ("mean", number s.mean), ("p50", number s.p50),
    ("p90", number s.p90), ("p99", number s.p99)]

end SeriesStats

end NeighborBench

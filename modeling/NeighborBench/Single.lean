/-! # Numbers of 32 bits

A vector's coordinates are kept as the bits they were stored with.
-/

namespace NeighborBench

structure Single where
  bits : UInt32
  deriving DecidableEq, Repr

namespace Single

def exponentField (x : Single) : Nat := x.bits.toNat / 0x80_0000 % 0x100

def fractionField (x : Single) : Nat := x.bits.toNat % 0x80_0000

def isNaN (x : Single) : Bool := x.exponentField = 255 && x.fractionField ≠ 0

/-- The bits of the double with the same value. -/
def widenedBits (x : Single) : Nat :=
  let sign := x.bits.toNat / 0x8000_0000 * 0x8000_0000_0000_0000
  let e := x.exponentField
  let f := x.fractionField
  if e = 255 then sign + 2047 * 0x10_0000_0000_0000 + f * 0x2000_0000
  else if e = 0 then
    if f = 0 then sign
    else
      let top := Nat.log2 f
      sign + (top + 874) * 0x10_0000_0000_0000 + (f - 1 <<< top) <<< (52 - top)
  else sign + (e + 896) * 0x10_0000_0000_0000 + f * 0x2000_0000

def widen (x : Single) : Float := Float.ofBits (UInt64.ofNat x.widenedBits)

/-- A byte as the number of the same value. -/
def ofByte (b : UInt8) : Single :=
  let n := b.toNat
  if n = 0 then ⟨0⟩
  else
    let top := Nat.log2 n
    ⟨UInt32.ofNat ((top + 127) * 0x80_0000 + (n - 1 <<< top) <<< (23 - top))⟩

example : (ofByte 1).bits = 0x3F800000 ∧ (ofByte 200).bits = 0x43480000 := by decide

end Single

end NeighborBench

/-! # The shortest decimal that reads back

A finite double is `mantissa · 2 ^ exponent`. Every real nearer to it than to its neighbours reads
back as it, and so do the two midpoints when the mantissa is even.
-/

namespace NeighborBench.Decimal

/-- `mantissa · 2 ^ exponent`; `atPowerOfTwo` when the neighbour below is at half the distance of the
neighbour above. -/
structure Binary where
  mantissa : Nat
  exponent : Int
  atPowerOfTwo : Bool
  deriving DecidableEq, Repr

/-- The magnitude that the bits of a finite double spell. -/
def Binary.ofBits (bits : Nat) : Binary :=
  let fraction := bits % 0x10_0000_0000_0000
  let biased : Nat := bits / 0x10_0000_0000_0000 % 0x800
  if biased = 0 then ⟨fraction, -1074, false⟩
  else ⟨fraction + 0x10_0000_0000_0000, (biased : Int) - 1075, fraction = 0 ∧ 1 < biased⟩

/-- `significand · 10 ^ exponent`. -/
structure Scaled where
  significand : Nat
  exponent : Int
  deriving DecidableEq, Repr

/-- What `10 ^ p` and `2 ^ q` measure on one common scale. -/
def scales (p q : Int) : Nat × Nat :=
  (Nat.pow 10 p.toNat <<< (-q).toNat, Nat.pow 10 (-p).toNat <<< q.toNat)

namespace Binary

/-- Quarters of a unit of the mantissa, so that midpoints are whole. -/
def quarters (b : Binary) : Nat := 4 * b.mantissa

def lowest (b : Binary) : Nat := if b.atPowerOfTwo then b.quarters - 1 else b.quarters - 2

def highest (b : Binary) : Nat := b.quarters + 2

/-- `c · 10 ^ p` reads back as `b`. -/
def readsBack (b : Binary) (c : Nat) (p : Int) : Bool :=
  let (ten, two) := scales p (b.exponent - 2)
  if b.mantissa % 2 = 0 then b.lowest * two ≤ c * ten && c * ten ≤ b.highest * two
  else b.lowest * two < c * ten && c * ten < b.highest * two

/-- The least `k` with `b < 10 ^ k`. -/
def magnitude (b : Binary) : Int :=
  let q := b.exponent - 2
  let guess := (Nat.log2 b.quarters + q) * 30103 / 100000 + 1
  let (ten, two) := scales guess q
  if b.quarters * two < ten then guess else guess + 1

/-- The neighbour of `b` on the grid of `10 ^ p` that reads back: the nearer of two, and the even one
when both are equally near. -/
def onGrid? (b : Binary) (p : Int) : Option Nat :=
  let (ten, two) := scales p (b.exponent - 2)
  let value := b.quarters * two
  let low := value / ten
  let below := value - low * ten
  let above := ten - below
  let lowFirst := below < above || (below = above && low % 2 = 0)
  match b.readsBack low p, b.readsBack (low + 1) p with
  | true, true => some (if lowFirst then low else low + 1)
  | true, false => some low
  | false, true => some (low + 1)
  | false, false => none

end Binary

/-- Drops trailing zeros; the fuel is the number of digits. -/
def stripZeros : Nat → Scaled → Scaled
  | 0, s => s
  | fuel + 1, s =>
    if s.significand % 10 = 0 then stripZeros fuel ⟨s.significand / 10, s.exponent + 1⟩ else s

/-- Tries one more digit each time; seventeen always suffice. -/
def Binary.search (b : Binary) (magnitude : Int) : Nat → Nat → Scaled
  | 0, _ => ⟨b.mantissa, b.exponent⟩
  | left + 1, digits =>
    let p := magnitude - digits
    match b.onGrid? p with
    | some c => stripZeros digits ⟨c, p⟩
    | none => b.search magnitude left (digits + 1)

/-- The shortest decimal of a positive finite double. -/
def Binary.shortest (b : Binary) : Scaled := b.search b.magnitude 17 1

end NeighborBench.Decimal

/-! # Numbers of 64 bits

Doubles are told apart by their bits. There may be many that are no number, and what is said of
doubles in general holds for all of them.
-/

namespace NeighborBench

class Double (α : Type) extends Add α, Div α where
  bits : α → UInt64
  bits_injective : ∀ x y, bits x = bits y → x = y
  ofNat : Nat → α
  /-- What a sum starts from. -/
  negativeZero : α

/-- All that are no number are one. -/
instance : Double Float where
  bits := Float.toBits
  bits_injective
    | ⟨⟨_, _⟩⟩, ⟨⟨_, _⟩⟩, rfl => rfl
  ofNat := Float.ofNat
  negativeZero := -0.0

end NeighborBench

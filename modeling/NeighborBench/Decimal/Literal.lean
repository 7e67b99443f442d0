/-! # Decimal literals as doubles -/

namespace NeighborBench.Decimal

/-- The value of a row of digits. -/
def digitsValue (digits : List Nat) : Nat := digits.foldl (fun n d => n * 10 + d) 0

/-- The double nearest to `significand · 10 ^ exponent`. The guards keep the powers small: past them
the value is zero or infinite whatever the digits are. -/
def nearest (significand : Nat) (exponent : Int) : Float :=
  let magnitude := (Nat.repr significand).length + exponent
  if significand = 0 || magnitude < -400 then 0
  else if 400 < magnitude then Float.ofBits 0x7FF0000000000000
  else if exponent < 0 then Float.ofScientific significand true exponent.natAbs
  else Float.ofScientific significand false exponent.natAbs

end NeighborBench.Decimal

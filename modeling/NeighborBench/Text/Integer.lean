/-! # Whole numbers in decimal -/

namespace NeighborBench.Text

inductive IntegerFault where
  | empty
  | badDigit
  | tooLarge
  | tooSmall
  deriving DecidableEq, Repr

def IntegerFault.message : IntegerFault → String
  | .empty => "cannot parse integer from empty string"
  | .badDigit => "invalid digit found in string"
  | .tooLarge => "number too large to fit in target type"
  | .tooSmall => "number too small to fit in target type"

/-- The value of a digit in a base up to sixteen. -/
def digitValue? (base : Nat) (c : Char) : Option Nat :=
  let value :=
    if '0' ≤ c ∧ c ≤ '9' then some (c.toNat - '0'.toNat)
    else if 'a' ≤ c ∧ c ≤ 'f' then some (c.toNat - 'a'.toNat + 10)
    else if 'A' ≤ c ∧ c ≤ 'F' then some (c.toNat - 'A'.toNat + 10)
    else none
  value.filter (· < base)

/-- The value of a row of digits, none of which is out of place. -/
def digitsValue? (base : Nat) (digits : List Char) : Option Nat :=
  (digits.mapM (digitValue? base)).map fun ds => ds.foldl (fun n d => n * base + d) 0

/-- Reads digits from the left and stops at the first fault: a character that is no digit, or a
value past `limit`, which is reported as `past`. -/
def readDigits (base limit : Nat) (past : IntegerFault) : Nat → List Char → Except IntegerFault Nat
  | acc, [] => .ok acc
  | acc, c :: rest =>
    match digitValue? base c with
    | none => .error .badDigit
    | some d =>
      if acc * base + d ≤ limit then readDigits base limit past (acc * base + d) rest
      else .error past

/-- Reads an integer of `lowest` to `highest` with an optional sign. A minus sign is a digit out of
place where no number below zero is allowed. -/
def readInteger (base : Nat) (lowest highest : Int) (text : List Char) : Except IntegerFault Int :=
  match text with
  | [] => .error .empty
  | ['+'] => .error .badDigit
  | ['-'] => .error .badDigit
  | '+' :: digits => Int.ofNat <$> readDigits base highest.toNat .tooLarge 0 digits
  | '-' :: digits =>
    if lowest < 0 then
      (fun n => -Int.ofNat n) <$> readDigits base (-lowest).toNat .tooSmall 0 digits
    else .error .badDigit
  | digits => Int.ofNat <$> readDigits base highest.toNat .tooLarge 0 digits

def readInt64 (s : String) : Except IntegerFault Int :=
  readInteger 10 (-0x8000_0000_0000_0000) 0x7FFF_FFFF_FFFF_FFFF s.toList

def readPort? (s : String) : Option Nat :=
  match readInteger 10 0 65535 s.toList with
  | .ok n => some n.toNat
  | .error _ => none

end NeighborBench.Text

/-! # UTF-8 bytes as characters

Bytes that spell no character are kept as holes, one for each longest piece that could still have
become a character.
-/

namespace NeighborBench.Text

/-- How many bytes follow a lead byte, and the range of the first of them. -/
def leadShape (lead : Nat) : Option (Nat × Nat × Nat) :=
  if lead < 0xC2 then none
  else if lead < 0xE0 then some (1, 0x80, 0xBF)
  else if lead = 0xE0 then some (2, 0xA0, 0xBF)
  else if lead = 0xED then some (2, 0x80, 0x9F)
  else if lead < 0xF0 then some (2, 0x80, 0xBF)
  else if lead = 0xF0 then some (3, 0x90, 0xBF)
  else if lead < 0xF4 then some (3, 0x80, 0xBF)
  else if lead = 0xF4 then some (3, 0x80, 0x8F)
  else none

/-- The payload bits of a lead byte that `more` bytes follow. -/
def leadBits (lead more : Nat) : Nat :=
  match more with
  | 1 => lead % 0x20
  | 2 => lead % 0x10
  | _ => lead % 0x08

/-- Takes `more` continuation bytes; stops before the first byte that cannot be one. -/
def continued (acc : Nat) : Nat → Nat → Nat → List UInt8 → Option Nat × List UInt8
  | 0, _, _, rest => (some acc, rest)
  | _ + 1, _, _, [] => (none, [])
  | more + 1, low, high, b :: rest =>
    if low ≤ b.toNat ∧ b.toNat ≤ high then
      continued (acc * 0x40 + b.toNat % 0x40) more 0x80 0xBF rest
    else (none, b :: rest)

theorem continued_length (acc more low high : Nat) (bytes : List UInt8) :
    (continued acc more low high bytes).2.length ≤ bytes.length := by
  fun_induction continued acc more low high bytes with
  | case1 => simp
  | case2 => simp
  | case3 _ _ _ _ _ _ _ ih => simp only [List.length_cons]; omega
  | case4 => simp

def decode : List UInt8 → List (Option Char)
  | [] => []
  | b :: rest =>
    if b < 0x80 then some (Char.ofNat b.toNat) :: decode rest
    else
      match leadShape b.toNat with
      | none => none :: decode rest
      | some (more, low, high) =>
        let taken := continued (leadBits b.toNat more) more low high rest
        taken.1.map Char.ofNat :: decode taken.2
termination_by bytes => bytes.length
decreasing_by
  all_goals simp_wf
  all_goals
    have := continued_length (leadBits b.toNat more) more low high rest
    omega

/-- The text that the bytes spell, if every byte belongs to a character. -/
def utf8? (bytes : List UInt8) : Option String :=
  ((decode bytes).mapM id).map String.ofList

/-- The text with a replacement character in each hole. -/
def utf8Lossy (bytes : List UInt8) : String :=
  String.ofList ((decode bytes).map (·.getD '\uFFFD'))

/-- A text without holes. -/
def whole (s : String) : List (Option Char) := s.toList.map some

end NeighborBench.Text

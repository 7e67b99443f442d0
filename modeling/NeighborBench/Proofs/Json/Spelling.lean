import NeighborBench.Json.Printer
import NeighborBench.Proofs.Json.Numeral

/-! # How numbers are spelled

A spelling has the parts of a number as characters, the way a printer puts them: a point only in front
of digits, and a sign in every exponent. It is a case of the grammar, so the reader finds it again.
-/

namespace NeighborBench.Json

/-! ## Spellings -/

structure Spelling where
  negative : Bool
  whole : List Char
  fraction : List Char
  /-- A sign (`true` below zero) and digits. -/
  exponent : Option (Bool × List Char)

def pointChars : List Char → List Char
  | [] => []
  | c :: rest => '.' :: c :: rest

def exponentChars : Option (Bool × List Char) → List Char
  | none => []
  | some (below, digits) => 'e' :: (if below then '-' else '+') :: digits

namespace Spelling

def chars (s : Spelling) : List Char :=
  signChars s.negative ++ s.whole ++ pointChars s.fraction ++ exponentChars s.exponent

def numeral (s : Spelling) : Numeral :=
  ⟨s.negative, digitValues s.whole, digitValues s.fraction,
    s.exponent.map fun (below, digits) => (below, digitValues digits)⟩

/-- Only digits, at least one where there have to be some, and no zero in front of others. -/
structure Valid (s : Spelling) : Prop where
  whole : AllDigits s.whole
  fraction : AllDigits s.fraction
  whole_ne : s.whole ≠ []
  leading : ∀ rest, s.whole = '0' :: rest → rest = []
  exponent : ∀ e ∈ s.exponent, e.2 ≠ [] ∧ AllDigits e.2

end Spelling

/-! ## Reading -/

theorem writesFraction_pointChars (cs : List Char) (h : AllDigits cs) :
    WritesFraction (digitValues cs) (pointChars cs) := by
  cases cs with
  | nil => exact .none
  | cons c cs => exact .point ⟨by simp, h, rfl⟩

theorem writesExponent_exponentChars (exponent : Option (Bool × List Char))
    (h : ∀ e ∈ exponent, e.2 ≠ [] ∧ AllDigits e.2) :
    WritesExponent (exponent.map fun (below, digits) => (below, digitValues digits))
      (exponentChars exponent) := by
  cases exponent with
  | none => exact .none
  | some e =>
    obtain ⟨hne, hall⟩ := h e rfl
    exact .signed e.1 (.inl rfl) ⟨hne, hall, rfl⟩

theorem Spelling.Valid.writes {s : Spelling} (valid : s.Valid) : WritesNumeral s.numeral s.chars :=
  .mk ⟨valid.whole_ne, valid.whole, rfl⟩ valid.leading
    (writesFraction_pointChars s.fraction valid.fraction)
    (writesExponent_exponentChars s.exponent valid.exponent)

/-- What may follow a value: nothing, a comma or the end of an array or object. -/
def Ends (text : List Char) : Prop := Starts (fun c => c = ',' ∨ c = ']' ∨ c = '}') text

theorem Ends.stops {rest : List Char} (h : Ends rest) : Stops (rest.map some) := by
  cases rest with
  | nil => exact nofun
  | cons c rest => exact stops_mark (h c rfl) _

theorem Spelling.Valid.numeral? {s : Spelling} (valid : s.Valid) (rest : List Char)
    (ends : Ends rest) :
    numeral? ((s.chars ++ rest).map some) = some (s.numeral, rest.map some) := by
  rw [List.map_append]
  exact valid.writes.numeral? ends.stops

theorem Spelling.Valid.numeral_eq {s t : Spelling} (hs : s.Valid) (ht : t.Valid)
    (rest others : List Char) (ends : Ends rest) (ends' : Ends others)
    (h : s.chars ++ rest = t.chars ++ others) : s.numeral = t.numeral ∧ rest = others := by
  have hread := hs.numeral? rest ends
  rw [h, ht.numeral? others ends'] at hread
  simp only [Option.some.injEq, Prod.mk.injEq] at hread
  exact ⟨hread.1.symm, (List.map_injective_iff.mpr (fun _ _ => Option.some.inj) hread.2).symm⟩

end NeighborBench.Json

import NeighborBench.Proofs.Text.Percent
import NeighborBench.Search.Url

/-! # Forms in queries

A query holds pairs of a name and a value. Marks that part the pairs are written as bytes where they
belong to a name or a value, so a pair that was written is read as that pair and no other.
-/

namespace NeighborBench.Url

open Text (bytes percentDecoded percentEncoded)

/-! ## Reading -/

/-- A plus sign stands for a blank. -/
def blankForPlus (c : Char) : Char := if c = '+' then ' ' else c

def formDecoded (text : List Char) : List UInt8 := percentDecoded (text.map blankForPlus)

/-- Pairs stand between ampersands, and a name goes up to the first equals sign. -/
def pairs (query : String) : List (List UInt8 × List UInt8) :=
  (query.toList.splitOn '&').map fun pair =>
    (formDecoded (pair.takeWhile (· ≠ '=')), formDecoded ((pair.dropWhile (· ≠ '=')).drop 1))

/-! ## Bytes -/

/-- How a form writes a byte. -/
def formByte (b : UInt8) : List Char :=
  let c := Char.ofNat b.toNat
  if b < 0x80 && (c.isAlphanum || "*-._".toList.contains c) then [c]
  else if c = ' ' then ['+']
  else percentEncoded b

theorem formText_toList (s : String) : (formText s).toList = (bytes s).flatMap formByte := by
  rw [formText, String.toList_ofList, toList_eq_data]
  rfl

theorem formByte_blanks (b : UInt8) :
    (formByte b).map blankForPlus = percentEncoded b ∨
      b < 0x80 ∧ Char.ofNat b.toNat ≠ '%' ∧ (formByte b).map blankForPlus = [Char.ofNat b.toNat] :=
  Text.forall_byte (P := fun b => (formByte b).map blankForPlus = percentEncoded b ∨
    b < 0x80 ∧ Char.ofNat b.toNat ≠ '%' ∧ (formByte b).map blankForPlus = [Char.ofNat b.toNat])
    (by decide +kernel) b

theorem formDecoded_formByte (b : UInt8) (rest : List Char) :
    formDecoded (formByte b ++ rest) = b :: formDecoded rest := by
  unfold formDecoded
  rw [List.map_append]
  rcases formByte_blanks b with hdigits | ⟨hlow, hpercent, hchar⟩
  · have hread := Text.percentDecoded_percentEncoded [b] (rest.map blankForPlus)
    rw [hdigits]
    simpa using hread
  · have plain : ¬Text.BeginsEscape (Char.ofNat b.toNat :: rest.map blankForPlus) := by
      rintro ⟨_, _, _, _, heq, -⟩
      exact hpercent (List.cons.inj heq).1
    rw [hchar, List.singleton_append, Text.percentDecoded_plain plain, Text.utf8_ofNat b hlow,
      List.singleton_append]

theorem formDecoded_formText (s : String) : formDecoded (formText s).toList = bytes s := by
  rw [formText_toList]
  induction bytes s with
  | nil => rfl
  | cons b bs ih => rw [List.flatMap_cons, formDecoded_formByte, ih]

theorem not_mem_formText {mark : Char} (h : ∀ b, mark ∉ formByte b) (s : String) :
    mark ∉ (formText s).toList := by
  rw [formText_toList]
  intro hmark
  obtain ⟨b, -, hb⟩ := List.mem_flatMap.mp hmark
  exact h b hb

theorem ampersand_not_mem_formText (s : String) : '&' ∉ (formText s).toList := by
  apply not_mem_formText
  exact Text.forall_byte (P := fun b => '&' ∉ formByte b) (by decide +kernel)

theorem equals_not_mem_formText (s : String) : '=' ∉ (formText s).toList := by
  apply not_mem_formText
  exact Text.forall_byte (P := fun b => '=' ∉ formByte b) (by decide +kernel)

/-! ## Pairs -/

theorem pairs_pair (name value : String) :
    pairs (formText name ++ "=" ++ formText value) = [(bytes name, bytes value)] := by
  have hmarks : '&' ∉ (formText name).toList ++ '=' :: (formText value).toList := by
    simp [ampersand_not_mem_formText]
  have hone : (formText name ++ "=" ++ formText value).toList.splitOn '&' =
      [(formText name).toList ++ '=' :: (formText value).toList] := by
    rw [List.splitOn_eq_splitOnP, String.toList_append, String.toList_append, List.append_assoc]
    apply List.splitOnP_eq_singleton
    intro c hc
    rw [beq_eq_false_iff_ne]
    rintro rfl
    exact hmarks hc
  have hname := Text.ne_of_unmarked (equals_not_mem_formText name)
  unfold pairs
  rw [hone, List.map_singleton, List.takeWhile_append_of_pos hname, List.dropWhile_append_of_pos hname]
  simp [formDecoded_formText]

end NeighborBench.Url

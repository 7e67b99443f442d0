import Mathlib.Data.List.Flatten
import NeighborBench.Proofs.Dataset.Decoding
import NeighborBench.Proofs.Text.ByteOrder
import NeighborBench.Text.Percent

/-! # Percent signs and the bytes that they stand for

Bytes that were written with percent signs are read back. In any other text a percent sign stands for
itself unless two digits follow it, so a text stands for its own bytes if and only if none does.
-/

namespace NeighborBench.Text

/-! ## Bytes of characters -/

theorem utf8_eq (c : Char) : utf8 c = String.utf8EncodeChar c := by
  unfold utf8
  rw [toList_eq_data]
  change bytes (String.singleton c) = _
  rw [bytes_eq, String.toList_singleton, List.flatMap_singleton]

theorem bytes_eq_flatMap (s : String) : bytes s = s.toList.flatMap utf8 := by
  rw [bytes_eq, funext utf8_eq]

theorem bytes_injective : Function.Injective bytes := fun _ _ h =>
  String.toByteArray_inj.mp (ByteArray.ext (Array.toList_inj.mp h))

/-- How many bytes a text takes. -/
def byteLength (text : List Char) : Nat := (text.flatMap utf8).length

@[simp] theorem byteLength_nil : byteLength [] = 0 := rfl

@[simp] theorem byteLength_cons (c : Char) (rest : List Char) :
    byteLength (c :: rest) = (utf8 c).length + byteLength rest := by
  simp [byteLength]

theorem length_bytes (s : String) : (bytes s).length = byteLength s.toList := by
  rw [bytes_eq_flatMap, byteLength]

theorem length_utf8_pos (c : Char) : 0 < (utf8 c).length := by
  apply List.length_pos_of_ne_nil
  rw [utf8_eq]
  exact String.utf8EncodeChar_ne_nil

theorem byteLength_le_of_sublist {part text : List Char} (h : part.Sublist text) :
    byteLength part ≤ byteLength text :=
  (h.flatMap utf8).length_le

theorem eq_of_sublist {part text : List Char} (h : part.Sublist text)
    (hbytes : byteLength text ≤ byteLength part) : part = text := by
  induction h with
  | slnil => rfl
  | cons c h ih =>
    have hc := length_utf8_pos c
    have hle := byteLength_le_of_sublist h
    rw [byteLength_cons] at hbytes
    omega
  | cons_cons c h ih =>
    simp only [byteLength_cons] at hbytes
    rw [ih (by omega)]

theorem ne_of_unmarked {mark : Char} {text : List Char} (h : mark ∉ text) :
    ∀ c ∈ text, decide (c ≠ mark) = true := by
  intro c hc
  apply decide_eq_true
  rintro rfl
  exact h hc

theorem forall_byte {P : UInt8 → Prop} (h : ∀ n < 256, P (UInt8.ofNat n)) (b : UInt8) : P b := by
  have hb := h b.toNat b.toNat_lt
  rwa [UInt8.ofNat_toNat] at hb

theorem utf8_ofNat (b : UInt8) : b < 0x80 → utf8 (Char.ofNat b.toNat) = [b] :=
  forall_byte (P := fun b => b < 0x80 → utf8 (Char.ofNat b.toNat) = [b]) (by decide +kernel) b

/-! ## Escapes -/

/-- A percent sign with two digits behind it comes first. -/
def BeginsEscape (text : List Char) : Prop :=
  ∃ a b rest byte, text = '%' :: a :: b :: rest ∧ hexByte? a b = some byte

/-- Somewhere two digits follow a percent sign. -/
def HasEscape (text : List Char) : Prop := ∃ before rest, text = before ++ rest ∧ BeginsEscape rest

theorem hexByte?_digits {a b : Char} {byte : UInt8} (h : hexByte? a b = some byte) :
    (digitValue? 16 a).isSome ∧ (digitValue? 16 b).isSome := by
  unfold hexByte? digitsValue? at h
  cases ha : digitValue? 16 a with
  | none => simp [ha] at h
  | some m =>
    cases hb : digitValue? 16 b with
    | none => simp [ha, hb] at h
    | some n => simp

theorem percentDecoded_plain {c : Char} {rest : List Char} (h : ¬BeginsEscape (c :: rest)) :
    percentDecoded (c :: rest) = utf8 c ++ percentDecoded rest := by
  rw [percentDecoded.eq_def]
  split
  · next a b more heq =>
    obtain ⟨rfl, rfl⟩ := List.cons.inj heq
    split
    · next byte hbyte => exact absurd ⟨a, b, more, byte, rfl, hbyte⟩ h
    · rfl
  · next heq =>
    obtain ⟨rfl, rfl⟩ := List.cons.inj heq
    rfl
  · next heq => cases heq

theorem percentDecoded_escape {a b : Char} {byte : UInt8} (h : hexByte? a b = some byte)
    (rest : List Char) : percentDecoded ('%' :: a :: b :: rest) = byte :: percentDecoded rest := by
  rw [percentDecoded, h]

/-- Induction over a text that takes each escape as one. -/
@[elab_as_elim]
theorem percent_induction {P : List Char → Prop} (nil : P [])
    (escape : ∀ a b byte rest, hexByte? a b = some byte → P rest → P ('%' :: a :: b :: rest))
    (plain : ∀ c rest, ¬BeginsEscape (c :: rest) → P rest → P (c :: rest)) (text : List Char) :
    P text := by
  induction text using percentDecoded.induct with
  | case1 a b rest byte h ih => exact escape a b byte rest h ih
  | case2 a b rest h ih =>
    refine plain '%' _ ?_ ih
    rintro ⟨a', b', rest', byte, heq, hbyte⟩
    simp only [List.cons.injEq, true_and] at heq
    obtain ⟨rfl, rfl, rfl⟩ := heq
    rw [h] at hbyte
    cases hbyte
  | case3 c rest h ih =>
    refine plain c rest ?_ ih
    rintro ⟨a, b, more, byte, heq, -⟩
    obtain ⟨rfl, rfl⟩ := List.cons.inj heq
    exact h a b more rfl rfl
  | case4 => exact nil

theorem HasEscape.tail {c : Char} {rest : List Char} (h : HasEscape (c :: rest))
    (plain : ¬BeginsEscape (c :: rest)) : HasEscape rest := by
  obtain ⟨before, more, heq, begins⟩ := h
  cases before with
  | nil =>
    rw [List.nil_append] at heq
    exact absurd (heq ▸ begins) plain
  | cons d before => exact ⟨before, more, (List.cons.inj heq).2, begins⟩

theorem length_percentDecoded_le (text : List Char) :
    (percentDecoded text).length ≤ byteLength text := by
  induction text using percent_induction with
  | nil => simp [percentDecoded]
  | escape a b byte rest h ih =>
    have ha := length_utf8_pos a
    rw [percentDecoded_escape h]
    simp only [byteLength_cons, List.length_cons]
    omega
  | plain c rest h ih =>
    rw [percentDecoded_plain h]
    simp only [byteLength_cons, List.length_append]
    omega

theorem length_percentDecoded_lt {text : List Char} (h : HasEscape text) :
    (percentDecoded text).length < byteLength text := by
  -- An escape is one byte for at least three.
  induction text using percent_induction with
  | nil =>
    obtain ⟨before, rest, heq, a, b, more, byte, rfl, -⟩ := h
    simp at heq
  | escape a b byte rest hbyte ih =>
    have hrest := length_percentDecoded_le rest
    have hpercent := length_utf8_pos '%'
    have ha := length_utf8_pos a
    rw [percentDecoded_escape hbyte]
    simp only [byteLength_cons, List.length_cons]
    omega
  | plain c rest plain ih =>
    have hrest := ih (h.tail plain)
    rw [percentDecoded_plain plain]
    simp only [byteLength_cons, List.length_append]
    omega

theorem percentDecoded_eq_iff (text : List Char) :
    percentDecoded text = text.flatMap utf8 ↔ ¬HasEscape text := by
  constructor
  · intro h escape
    have hlt := length_percentDecoded_lt escape
    rw [h] at hlt
    exact absurd hlt (Nat.lt_irrefl _)
  · intro h
    induction text using percent_induction with
    | nil => simp [percentDecoded]
    | escape a b byte rest hbyte =>
      exact absurd ⟨[], _, rfl, a, b, rest, byte, rfl, hbyte⟩ h
    | plain c rest plain ih =>
      rw [percentDecoded_plain plain, List.flatMap_cons, ih]
      rintro ⟨before, more, rfl, begins⟩
      exact h ⟨c :: before, more, rfl, begins⟩

/-! ## Bytes that are written -/

theorem hexByte?_percentEncoded (b : UInt8) :
    hexByte? (hexDigit (b.toNat / 16)).toUpper (hexDigit (b.toNat % 16)).toUpper = some b :=
  forall_byte (P := fun b => hexByte? (hexDigit (b.toNat / 16)).toUpper
    (hexDigit (b.toNat % 16)).toUpper = some b) (by decide +kernel) b

theorem percentDecoded_percentEncoded (bs : List UInt8) (rest : List Char) :
    percentDecoded (bs.flatMap percentEncoded ++ rest) = bs ++ percentDecoded rest := by
  induction bs with
  | nil => simp
  | cons b bs ih =>
    simp only [List.flatMap_cons, percentEncoded, List.cons_append, List.nil_append] at ih ⊢
    rw [percentDecoded_escape (hexByte?_percentEncoded b), ih]

/-! ## Texts in which some characters are written as bytes -/

section

variable {kept : Char → Bool}

theorem encodeUnless_eq_cons {text : List Char} {c : Char} {rest : List Char} (hne : c ≠ '%')
    (h : encodeUnless kept text = c :: rest) :
    ∃ more, text = c :: more ∧ encodeUnless kept more = rest := by
  -- What begins with another character than a percent sign begins with what was kept.
  cases text with
  | nil => cases h
  | cons d more =>
    unfold encodeUnless at h
    rw [List.flatMap_cons] at h
    split at h
    · obtain ⟨rfl, rfl⟩ := List.cons.inj h
      exact ⟨more, rfl, rfl⟩
    · obtain ⟨b, bs, hb⟩ := List.exists_cons_of_ne_nil (List.ne_nil_of_length_pos (length_utf8_pos d))
      rw [hb] at h
      simp only [List.flatMap_cons, percentEncoded, List.cons_append] at h
      exact absurd (List.cons.inj h).1.symm hne

variable (percent : kept '%' = true)
  (digit : ∀ c, (digitValue? 16 c).isSome = true → kept c = true)
include percent digit

theorem percentDecoded_encodeUnless (text : List Char) :
    percentDecoded (encodeUnless kept text) = percentDecoded text := by
  induction text using percent_induction with
  | nil => rfl
  | escape a b byte rest h ih =>
    obtain ⟨ha, hb⟩ := hexByte?_digits h
    have hkept : encodeUnless kept ('%' :: a :: b :: rest) =
        '%' :: a :: b :: encodeUnless kept rest := by
      simp [encodeUnless, percent, digit a ha, digit b hb]
    rw [hkept, percentDecoded_escape h, percentDecoded_escape h, ih]
  | plain c rest plain ih =>
    have hcons : encodeUnless kept (c :: rest) =
        (if kept c then [c] else (utf8 c).flatMap percentEncoded) ++ encodeUnless kept rest := by
      simp [encodeUnless]
    rw [hcons, percentDecoded_plain plain]
    split
    · rw [List.singleton_append, percentDecoded_plain, ih]
      rintro ⟨a, b, more, byte, htext, hbyte⟩
      obtain ⟨rfl, hrest⟩ := List.cons.inj htext
      obtain ⟨ha, hb⟩ := hexByte?_digits hbyte
      have hne : ∀ {d : Char}, (digitValue? 16 d).isSome = true → d ≠ '%' := by
        rintro d hd rfl
        cases hd
      obtain ⟨rest, rfl, heq⟩ := encodeUnless_eq_cons (hne ha) hrest
      obtain ⟨rest, rfl, -⟩ := encodeUnless_eq_cons (hne hb) heq
      exact plain ⟨a, b, rest, byte, rfl, hbyte⟩
    · rw [percentDecoded_percentEncoded, ih]

end

end NeighborBench.Text

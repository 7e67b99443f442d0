import Mathlib.Data.String.Basic

/-! # Texts and their bytes in order

Characters are ordered by their numbers. Their UTF-8 bytes have the same order, so texts that are
sorted are sorted by their bytes.
-/

namespace NeighborBench.Text

theorem toNat_ofNat_of_lt (n : Nat) (h : n < 256) : (UInt8.ofNat n).toNat = n := by
  rw [UInt8.toNat_ofNat']
  omega

theorem quotient_lex {m n : Nat} (h : m < n) : m / 64 < n / 64 ∨ m / 64 = n / 64 ∧ m % 64 < n % 64 := by
  omega

theorem number_lt (c : Char) : c.val.toNat < 0x110000 := by
  rcases c.valid with hlow | hhigh
  · change c.val.toNat < _ at hlow
    omega
  · exact hhigh.2

theorem utf8EncodeChar_lt {c d : Char} (h : c < d) (u v : List UInt8) :
    String.utf8EncodeChar c ++ u < String.utf8EncodeChar d ++ v := by
  -- More bytes begin with a greater one, and as many bytes are the digits of the number.
  have hlt : c.val.toNat < d.val.toNat := h
  have hd := number_lt d
  unfold String.utf8EncodeChar
  simp only
  generalize c.val.toNat = m at hlt
  generalize d.val.toNat = n at hlt hd
  have hm : m / 4096 = m / 64 / 64 ∧ m / 262144 = m / 64 / 64 / 64 := by omega
  have hn : n / 4096 = n / 64 / 64 ∧ n / 262144 = n / 64 / 64 / 64 := by omega
  have hlead : m / 64 / 64 / 64 % 8 = m / 64 / 64 / 64 ∧ n / 64 / 64 / 64 % 8 = n / 64 / 64 / 64 := by
    omega
  have hlast := quotient_lex hlt
  have hthird := @quotient_lex (m / 64) (n / 64)
  have hsecond := @quotient_lex (m / 64 / 64) (n / 64 / 64)
  -- One to four bytes for either of them.
  split_ifs <;>
    simp (disch := omega) only [List.cons_append, List.nil_append, List.cons_lt_cons_iff,
      UInt8.lt_iff_toNat_lt, ← UInt8.toNat_inj, toNat_ofNat_of_lt, hm, hn, hlead] <;>
    omega

theorem flatMap_utf8EncodeChar_lt {cs ds : List Char} (h : cs < ds) :
    cs.flatMap String.utf8EncodeChar < ds.flatMap String.utf8EncodeChar := by
  induction h with
  | @nil d ds =>
    obtain ⟨b, bs, hb⟩ := List.exists_cons_of_ne_nil (String.utf8EncodeChar_ne_nil (c := d))
    rw [List.flatMap_nil, List.flatMap_cons, hb]
    exact List.nil_lt_cons _ _
  | rel hlt =>
    rw [List.flatMap_cons, List.flatMap_cons]
    exact utf8EncodeChar_lt hlt _ _
  | cons _ ih =>
    rw [List.flatMap_cons, List.flatMap_cons]
    exact List.append_left_lt ih

def bytes (s : String) : List UInt8 := s.toUTF8.data.toList

theorem bytes_eq (s : String) : bytes s = s.toList.flatMap String.utf8EncodeChar := by
  change s.toByteArray.data.toList = _
  rw [← String.utf8Encode_toList, List.utf8Encode, List.toList_data_toByteArray]

theorem bytes_lt {s t : String} (h : s < t) : bytes s < bytes t := by
  rw [bytes_eq, bytes_eq]
  exact flatMap_utf8EncodeChar_lt h

end NeighborBench.Text

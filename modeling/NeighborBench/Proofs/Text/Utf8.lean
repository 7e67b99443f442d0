import Mathlib.Data.List.Basic
import NeighborBench.Text.Utf8

/-! # What bytes show

Bytes are taken apart into the encodings of characters. Where none stands, there is a hole: for the
longest beginning of an encoding that is there, or for one byte that begins none. Bytes show one row
of glyphs only, and it is the one that they are decoded to.
-/

namespace NeighborBench.Text

/-! ## Glyphs -/

/-- The bytes begin the encoding of some character, or are all of it. -/
def Begins (bytes : List UInt8) : Prop := ∃ c, bytes <+: String.utf8EncodeChar c

/-- The glyphs of bytes, with a hole for each piece that encodes nothing. -/
inductive Shows : List UInt8 → List (Option Char) → Prop where
  | nil : Shows [] []
  | char {rest : List UInt8} {glyphs : List (Option Char)} (c : Char) (h : Shows rest glyphs) :
      Shows (String.utf8EncodeChar c ++ rest) (some c :: glyphs)
  | cut {rest : List UInt8} {glyphs : List (Option Char)} (piece : List UInt8) (ne : piece ≠ [])
      (begins : Begins piece) (unfinished : ∀ c, piece ≠ String.utf8EncodeChar c)
      (longest : ∀ b ∈ rest.head?, ¬Begins (piece ++ [b])) (h : Shows rest glyphs) :
      Shows (piece ++ rest) (none :: glyphs)
  | stray {rest : List UInt8} {glyphs : List (Option Char)} (b : UInt8) (strange : ¬Begins [b])
      (h : Shows rest glyphs) : Shows (b :: rest) (none :: glyphs)

/-! ## Encodings one behind another -/

theorem utf8EncodeChar_prefix_free {c d : Char} {x y : List UInt8}
    (h : String.utf8EncodeChar c ++ x = String.utf8EncodeChar d ++ y) : c = d ∧ x = y := by
  have hc := @ByteArray.utf8DecodeChar?_utf8EncodeChar_append x.toByteArray c
  have hd := @ByteArray.utf8DecodeChar?_utf8EncodeChar_append y.toByteArray d
  rw [← List.toByteArray_append] at hc hd
  rw [h, hd] at hc
  obtain rfl := Option.some.inj hc
  exact ⟨rfl, List.append_cancel_left h⟩

theorem Begins.of_prefix {x y : List UInt8} (h : Begins y) (le : x <+: y) : Begins x := by
  obtain ⟨c, hc⟩ := h
  exact ⟨c, le.trans hc⟩

theorem prefix_of_longest {x y rest more : List UInt8} (h : x ++ rest = y ++ more)
    (begins : Begins y) (longest : ∀ b ∈ rest.head?, ¬Begins (x ++ [b])) : y <+: x := by
  have hx : x <+: y ++ more := ⟨rest, h⟩
  rcases List.prefix_or_prefix_of_prefix hx (List.prefix_append y more) with ⟨left, hleft⟩ | hle
  · cases left with
    | nil => exact ⟨[], by rw [← hleft, List.append_nil, List.append_nil]⟩
    | cons b left =>
      -- The next byte would still belong to the beginning.
      rw [← hleft, List.append_assoc] at h
      have hrest := List.append_cancel_left h
      refine absurd (begins.of_prefix ⟨left, ?_⟩) (longest b (by rw [hrest]; rfl))
      rw [← hleft, List.append_assoc]
      rfl
  · exact hle

theorem not_cut_of_char {c : Char} {piece rest more : List UInt8}
    (h : String.utf8EncodeChar c ++ rest = piece ++ more) (begins : Begins piece)
    (unfinished : ∀ c, piece ≠ String.utf8EncodeChar c)
    (longest : ∀ b ∈ more.head?, ¬Begins (piece ++ [b])) : False := by
  obtain ⟨left, hleft⟩ := prefix_of_longest h.symm ⟨c, List.prefix_refl _⟩ longest
  obtain ⟨d, after, hafter⟩ := begins
  -- The encoding would begin the one that the piece begins.
  have hencodings : String.utf8EncodeChar c ++ (left ++ after) = String.utf8EncodeChar d ++ [] := by
    rw [← List.append_assoc, hleft, hafter, List.append_nil]
  obtain ⟨-, hnone⟩ := utf8EncodeChar_prefix_free hencodings
  obtain ⟨rfl, -⟩ := List.append_eq_nil_iff.mp hnone
  exact unfinished c (by rw [← hleft, List.append_nil])

theorem begins_head {piece rest : List UInt8} (ne : piece ≠ []) (begins : Begins piece) {b : UInt8}
    {more : List UInt8} (h : b :: more = piece ++ rest) : Begins [b] := by
  obtain ⟨first, others, rfl⟩ := List.exists_cons_of_ne_nil ne
  obtain ⟨rfl, -⟩ := List.cons.inj h
  exact begins.of_prefix ⟨others, rfl⟩

theorem char_begins (c : Char) : Begins (String.utf8EncodeChar c) := ⟨c, List.prefix_refl _⟩

theorem Shows.unique {bytes : List UInt8} {glyphs others : List (Option Char)}
    (h : Shows bytes glyphs) (h' : Shows bytes others) : glyphs = others := by
  -- The induction is on the first reading; the same bytes cannot begin as two kinds of glyphs.
  induction h generalizing others with
  | nil =>
    generalize hbytes : ([] : List UInt8) = bytes at h'
    cases h' with
    | nil => rfl
    | char c => exact absurd (List.append_eq_nil_iff.mp hbytes.symm).1 String.utf8EncodeChar_ne_nil
    | cut piece ne => exact absurd (List.append_eq_nil_iff.mp hbytes.symm).1 ne
    | stray => cases hbytes
  | @char rest glyphs c h ih =>
    generalize hbytes : String.utf8EncodeChar c ++ rest = bytes at h'
    cases h' with
    | nil => exact absurd (List.append_eq_nil_iff.mp hbytes).1 String.utf8EncodeChar_ne_nil
    | char d h' =>
      obtain ⟨rfl, rfl⟩ := utf8EncodeChar_prefix_free hbytes
      rw [ih h']
    | cut piece _ begins unfinished longest =>
      exact (not_cut_of_char hbytes begins unfinished longest).elim
    | stray b strange =>
      exact absurd (begins_head String.utf8EncodeChar_ne_nil (char_begins c) hbytes.symm) strange
  | @cut rest glyphs piece ne begins unfinished longest h ih =>
    generalize hbytes : piece ++ rest = bytes at h'
    cases h' with
    | nil => exact absurd (List.append_eq_nil_iff.mp hbytes).1 ne
    | char d => exact (not_cut_of_char hbytes.symm begins unfinished longest).elim
    | cut other _ begins' _ longest' h' =>
      -- Both pieces are the longest that begin an encoding.
      have hle := prefix_of_longest hbytes begins' longest
      have hge := prefix_of_longest hbytes.symm begins longest'
      obtain rfl := hle.eq_of_length_le hge.length_le
      obtain rfl := List.append_cancel_left hbytes
      rw [ih h']
    | stray b strange => exact absurd (begins_head ne begins hbytes.symm) strange
  | @stray rest glyphs b strange h ih =>
    generalize hbytes : b :: rest = bytes at h'
    cases h' with
    | nil => cases hbytes
    | char c => exact absurd (begins_head String.utf8EncodeChar_ne_nil (char_begins c) hbytes) strange
    | cut piece ne begins => exact absurd (begins_head ne begins hbytes) strange
    | stray other _ h' =>
      obtain ⟨-, rfl⟩ := List.cons.inj hbytes
      rw [ih h']

/-! ## Bytes that follow a lead -/

/-- So many bytes that may follow a lead, the first of them within a range. -/
inductive Follows : Nat → Nat → Nat → List UInt8 → Prop where
  | nil (low high : Nat) : Follows 0 low high []
  | cons {more low high : Nat} {b : UInt8} {rest : List UInt8} (low_le : low ≤ b.toNat)
      (le_high : b.toNat ≤ high) (h : Follows more 0x80 0xBF rest) :
      Follows (more + 1) low high (b :: rest)

/-- The number that a lead begins and the bytes behind it go on with. -/
def joined (acc : Nat) (tail : List UInt8) : Nat :=
  tail.foldl (fun n b => n * 0x40 + b.toNat % 0x40) acc

theorem exists_follows (more : Nat) {low high : Nat} (le : low ≤ high) (small : high < 256) :
    ∃ tail, Follows more low high tail := by
  induction more generalizing low high with
  | zero => exact ⟨[], .nil low high⟩
  | succ more ih =>
    obtain ⟨rest, hrest⟩ := @ih 0x80 0xBF (by decide) (by decide)
    have hlow : (UInt8.ofNat low).toNat = low := UInt8.toNat_ofNat_of_lt' (Nat.lt_of_le_of_lt le small)
    exact ⟨UInt8.ofNat low :: rest, .cons (by omega) (by omega) hrest⟩

/-- What is taken behind a lead is all that may follow it, or as much of that as there is. -/
inductive Taken (acc more low high : Nat) : List UInt8 → Option Nat × List UInt8 → Prop where
  | all (tail : List UInt8) {rest : List UInt8} (follows : Follows more low high tail) :
      Taken acc more low high (tail ++ rest) (some (joined acc tail), rest)
  | part (tail : List UInt8) {rest : List UInt8} (begins : ∃ b more', Follows more low high (tail ++ b :: more'))
      (longest : ∀ b ∈ rest.head?, ∀ more', ¬Follows more low high (tail ++ b :: more')) :
      Taken acc more low high (tail ++ rest) (none, rest)

theorem continued_taken (acc more low high : Nat) (bytes : List UInt8) (le : low ≤ high)
    (small : high < 256) :
    Taken acc more low high bytes (continued acc more low high bytes) := by
  fun_induction continued acc more low high bytes with
  | case1 acc low high rest => exact .all [] (.nil low high)
  | case2 acc more low high =>
    -- The bytes are at an end, and one more could have followed.
    obtain ⟨tail, htail⟩ := exists_follows (more + 1) le small
    obtain _ | ⟨hlow, hhigh, hrest⟩ := htail
    exact .part [] ⟨_, _, .cons hlow hhigh hrest⟩ (by simp)
  | case3 acc more low high b rest hb ih =>
    have htaken := ih (by decide) (by decide)
    generalize continued (acc * 0x40 + b.toNat % 0x40) more 0x80 0xBF rest = found at htaken ⊢
    cases htaken with
    | all tail follows => exact .all (b :: tail) (.cons hb.1 hb.2 follows)
    | part tail begins longest =>
      obtain ⟨next, others, hnext⟩ := begins
      refine .part (b :: tail) ⟨next, others, .cons hb.1 hb.2 hnext⟩ fun d hd others h => ?_
      obtain _ | ⟨-, -, h⟩ := h
      exact longest d hd others h
  | case4 acc more low high b rest hb =>
    -- The next byte is out of range, so nothing is taken.
    obtain ⟨tail, htail⟩ := exists_follows (more + 1) le small
    obtain _ | ⟨hlow, hhigh, hrest⟩ := htail
    refine .part [] ⟨_, _, .cons hlow hhigh hrest⟩ ?_
    rintro _ ⟨⟩ others h
    obtain _ | ⟨hlow, hhigh, -⟩ := h
    exact hb ⟨hlow, hhigh⟩

/-! ## Leads -/

theorem leadShape_two : ∀ q < 0x20, 2 ≤ q → leadShape (0xC0 + q) = some (1, 0x80, 0xBF) := by
  decide

theorem leadShape_three : ∀ q < 0x10, leadShape (0xE0 + q) =
    some (2, if q = 0 then 0xA0 else 0x80, if q = 0xD then 0x9F else 0xBF) := by
  decide

theorem leadShape_four : ∀ q < 5, leadShape (0xF0 + q) =
    some (3, if q = 0 then 0x90 else 0x80, if q = 4 then 0x8F else 0xBF) := by
  decide

/-- A lead is of one of three shapes. -/
inductive Lead : Nat → Nat → Nat → Nat → Prop where
  | two (q : Nat) (lt : q < 0x20) (le : 2 ≤ q) : Lead (0xC0 + q) 1 0x80 0xBF
  | three (q : Nat) (lt : q < 0x10) :
      Lead (0xE0 + q) 2 (if q = 0 then 0xA0 else 0x80) (if q = 0xD then 0x9F else 0xBF)
  | four (q : Nat) (lt : q < 5) :
      Lead (0xF0 + q) 3 (if q = 0 then 0x90 else 0x80) (if q = 4 then 0x8F else 0xBF)

theorem Lead.leadShape {n more low high : Nat} (h : Lead n more low high) :
    leadShape n = some (more, low, high) := by
  cases h with
  | two q lt le => exact leadShape_two q lt le
  | three q lt => exact leadShape_three q lt
  | four q lt => exact leadShape_four q lt

theorem lead_of_leadShape {n more low high : Nat} (h : leadShape n = some (more, low, high)) :
    Lead n more low high := by
  have hbounds : 0xC2 ≤ n ∧ n < 0xF5 := by
    unfold Text.leadShape at h
    split at h
    · cases h
    · grind
  obtain ⟨hlow, hhigh⟩ := hbounds
  rcases Nat.lt_or_ge n 0xE0 with htwo | hthree
  · obtain ⟨q, rfl⟩ := Nat.exists_eq_add_of_le (show 0xC0 ≤ n by omega)
    rw [leadShape_two q (by omega) (by omega)] at h
    cases h
    exact .two q (by omega) (by omega)
  rcases Nat.lt_or_ge n 0xF0 with hthree' | hfour
  · obtain ⟨q, rfl⟩ := Nat.exists_eq_add_of_le hthree
    rw [leadShape_three q (by omega)] at h
    cases h
    exact .three q (by omega)
  · obtain ⟨q, rfl⟩ := Nat.exists_eq_add_of_le hfour
    rw [leadShape_four q (by omega)] at h
    cases h
    exact .four q (by omega)

theorem Lead.range {n more low high : Nat} (h : Lead n more low high) :
    low ≤ high ∧ high < 256 := by
  cases h with
  | two q lt le => decide
  | three q lt => split <;> split <;> omega
  | four q lt => split <;> split <;> omega

theorem Lead.le {n more low high : Nat} (h : Lead n more low high) : 0x80 ≤ n := by
  cases h <;> omega

theorem Lead.unique {n more low high more' low' high' : Nat} (h : Lead n more low high)
    (h' : Lead n more' low' high') : more = more' ∧ low = low' ∧ high = high' := by
  have hshape := h.leadShape
  rw [h'.leadShape] at hshape
  cases hshape
  exact ⟨rfl, rfl, rfl⟩

/-! ## The encoding of one character -/

theorem toNat_ofNat_byte {n : Nat} (h : n < 256) : (UInt8.ofNat n).toNat = n :=
  UInt8.toNat_ofNat_of_lt' h

theorem val_toNat_ofNat {n : Nat} (h : n.isValidChar) : (Char.ofNat n).val.toNat = n := by
  unfold Char.ofNat
  rw [dif_pos h]
  rfl

theorem follows_byte {v more low high : Nat} {rest : List UInt8} (low_le : low ≤ v % 0x40 + 0x80)
    (le_high : v % 0x40 + 0x80 ≤ high) (h : Follows more 0x80 0xBF rest) :
    Follows (more + 1) low high (UInt8.ofNat (v % 0x40 + 0x80) :: rest) := by
  have hbyte : (UInt8.ofNat (v % 0x40 + 0x80)).toNat = v % 0x40 + 0x80 :=
    toNat_ofNat_byte (by omega)
  exact .cons (by omega) (by omega) h

theorem lead_of_encoding {c : Char} {b : UInt8} {tail : List UInt8}
    (h : String.utf8EncodeChar c = b :: tail) :
    b.toNat < 0x80 ∧ tail = [] ∨
      ∃ more low high, Lead b.toNat more low high ∧ Follows more low high tail := by
  have hvalid : c.val.toNat.isValidChar := c.valid
  unfold Nat.isValidChar at hvalid
  unfold String.utf8EncodeChar at h
  simp only at h
  generalize c.val.toNat = v at h hvalid
  have htail : ∀ n, Follows 1 0x80 0xBF [UInt8.ofNat (n % 0x40 + 0x80)] := fun n =>
    follows_byte (by omega) (by omega) (.nil _ _)
  split at h
  · -- One byte.
    cases h
    left
    rw [toNat_ofNat_byte (by omega)]
    exact ⟨by omega, rfl⟩
  right
  split at h
  · -- Two bytes.
    cases h
    have hlead := Lead.two (v / 0x40 % 0x20) (by omega) (by omega)
    rw [Nat.add_comm] at hlead
    rw [toNat_ofNat_byte (by omega)]
    exact ⟨_, _, _, hlead, htail v⟩
  split at h
  · -- Three bytes: the first that follows may not make the number too small, or half a pair.
    cases h
    have hlead := Lead.three (v / 0x1000 % 0x10) (by omega)
    rw [Nat.add_comm] at hlead
    rw [toNat_ofNat_byte (by omega)]
    refine ⟨_, _, _, hlead, follows_byte ?_ ?_ (htail v)⟩
    · split <;> omega
    · split <;> omega
  · -- Four bytes: here it may not make the number too small or too large.
    cases h
    have hlead := Lead.four (v / 0x40000 % 0x08) (by omega)
    rw [Nat.add_comm] at hlead
    rw [toNat_ofNat_byte (by omega)]
    refine ⟨_, _, _, hlead, follows_byte ?_ ?_ (follows_byte (by omega) (by omega) (htail v))⟩
    · split <;> omega
    · split <;> omega

theorem ofNat_eq_byte {n : Nat} {b : UInt8} (h : n = b.toNat) : UInt8.ofNat n = b := by
  rw [h, UInt8.ofNat_toNat]

theorem encoding_of_follows {b : UInt8} {more low high : Nat} {tail : List UInt8}
    (lead : Lead b.toNat more low high) (follows : Follows more low high tail) :
    String.utf8EncodeChar (Char.ofNat (joined (leadBits b.toNat more) tail)) = b :: tail := by
  generalize hb : b.toNat = n at lead ⊢
  cases lead with
  | two q lt le =>
    obtain _ | @⟨_, _, _, x, _, hx, hx', _ | _⟩ := follows
    have hvalue : joined (leadBits (0xC0 + q) 1) [x] = q * 0x40 + (x.toNat - 0x80) := by
      simp only [joined, leadBits, List.foldl_cons, List.foldl_nil]
      omega
    rw [hvalue]
    unfold String.utf8EncodeChar
    simp only
    rw [val_toNat_ofNat (by unfold Nat.isValidChar; omega), if_neg (by omega), if_pos (by omega),
      ofNat_eq_byte (b := b) (by omega), ofNat_eq_byte (b := x) (by omega)]
  | three q lt =>
    obtain _ | @⟨_, _, _, x, _, hx, hx', _ | @⟨_, _, _, y, _, hy, hy', _ | _⟩⟩ := follows
    have hlow : 0x80 ≤ x.toNat ∧ (q = 0 → 0xA0 ≤ x.toNat) := by split at hx <;> omega
    have hhigh : x.toNat ≤ 0xBF ∧ (q = 0xD → x.toNat ≤ 0x9F) := by split at hx' <;> omega
    have hvalue : joined (leadBits (0xE0 + q) 2) [x, y] =
        q * 0x1000 + (x.toNat - 0x80) * 0x40 + (y.toNat - 0x80) := by
      simp only [joined, leadBits, List.foldl_cons, List.foldl_nil]
      omega
    rw [hvalue]
    unfold String.utf8EncodeChar
    simp only
    rw [val_toNat_ofNat (by unfold Nat.isValidChar; omega), if_neg (by omega), if_neg (by omega),
      if_pos (by omega), ofNat_eq_byte (b := b) (by omega), ofNat_eq_byte (b := x) (by omega),
      ofNat_eq_byte (b := y) (by omega)]
  | four q lt =>
    obtain _ | @⟨_, _, _, x, _, hx, hx', _ | @⟨_, _, _, y, _, hy, hy',
      _ | @⟨_, _, _, z, _, hz, hz', _ | _⟩⟩⟩ := follows
    have hlow : 0x80 ≤ x.toNat ∧ (q = 0 → 0x90 ≤ x.toNat) := by split at hx <;> omega
    have hhigh : x.toNat ≤ 0xBF ∧ (q = 4 → x.toNat ≤ 0x8F) := by split at hx' <;> omega
    have hvalue : joined (leadBits (0xF0 + q) 3) [x, y, z] =
        q * 0x40000 + (x.toNat - 0x80) * 0x1000 + (y.toNat - 0x80) * 0x40 + (z.toNat - 0x80) := by
      simp only [joined, leadBits, List.foldl_cons, List.foldl_nil]
      omega
    rw [hvalue]
    unfold String.utf8EncodeChar
    simp only
    rw [val_toNat_ofNat (by unfold Nat.isValidChar; omega), if_neg (by omega), if_neg (by omega),
      if_neg (by omega), ofNat_eq_byte (b := b) (by omega), ofNat_eq_byte (b := x) (by omega),
      ofNat_eq_byte (b := y) (by omega), ofNat_eq_byte (b := z) (by omega)]

theorem encoding_of_small {b : UInt8} (h : b.toNat < 0x80) :
    String.utf8EncodeChar (Char.ofNat b.toNat) = [b] := by
  unfold String.utf8EncodeChar
  simp only
  rw [val_toNat_ofNat (by unfold Nat.isValidChar; omega), if_pos (by omega), UInt8.ofNat_toNat]

/-! ## Decoding -/

theorem Lead.follows {b : UInt8} {more low high : Nat} (lead : Lead b.toNat more low high) {c : Char}
    {tail : List UInt8} (h : String.utf8EncodeChar c = b :: tail) : Follows more low high tail := by
  rcases lead_of_encoding h with ⟨hsmall, -⟩ | ⟨more', low', high', hlead, hfollows⟩
  · exact absurd hsmall (Nat.not_lt.mpr lead.le)
  · obtain ⟨rfl, rfl, rfl⟩ := lead.unique hlead
    exact hfollows

theorem Lead.begins_iff {b : UInt8} {more low high : Nat} (lead : Lead b.toNat more low high)
    {tail : List UInt8} : Begins (b :: tail) ↔ ∃ rest, Follows more low high (tail ++ rest) := by
  constructor
  · rintro ⟨c, rest, hc⟩
    exact ⟨rest, lead.follows hc.symm⟩
  · rintro ⟨rest, hfollows⟩
    exact ⟨_, rest, (encoding_of_follows lead hfollows).symm⟩

theorem Follows.length_eq {more low high : Nat} {tail : List UInt8} (h : Follows more low high tail) :
    tail.length = more := by
  induction h with
  | nil low high => rfl
  | cons low_le le_high h ih => exact congrArg (· + 1) ih

theorem shows_decode (bytes : List UInt8) : Shows bytes (decode bytes) := by
  fun_induction decode bytes with
  | case1 => exact .nil
  | case2 b rest hb ih =>
    have hsmall : b.toNat < 0x80 := hb
    have hshows := Shows.char (Char.ofNat b.toNat) ih
    rwa [encoding_of_small hsmall] at hshows
  | case3 b rest hb hshape ih =>
    -- No encoding begins with this byte.
    refine .stray b ?_ ih
    rintro ⟨c, tail, hc⟩
    rcases lead_of_encoding hc.symm with ⟨hsmall, -⟩ | ⟨more, low, high, hlead, -⟩
    · exact hb hsmall
    · rw [hlead.leadShape] at hshape
      cases hshape
  | case4 b rest hb more low high hshape taken ih =>
    have hlead := lead_of_leadShape hshape
    have htaken := continued_taken (leadBits b.toNat more) more low high rest hlead.range.1
      hlead.range.2
    change Taken _ _ _ _ _ taken at htaken
    generalize taken = found at htaken ih ⊢
    cases htaken with
    | @all tail left follows =>
      have hshows := Shows.char (Char.ofNat (joined (leadBits b.toNat more) tail)) ih
      rwa [encoding_of_follows hlead follows] at hshows
    | @part tail left begins longest =>
      refine .cut (b :: tail) (by simp) ?_ ?_ ?_ ih
      · obtain ⟨next, others, hnext⟩ := begins
        exact hlead.begins_iff.mpr ⟨_, hnext⟩
      · -- A whole encoding would be as long as the one that the piece begins.
        intro c hc
        obtain ⟨next, others, hnext⟩ := begins
        have hwhole := (hlead.follows hc.symm).length_eq
        have hlonger := hnext.length_eq
        rw [List.length_append, List.length_cons] at hlonger
        omega
      · intro d hd hbegins
        rw [List.cons_append, hlead.begins_iff] at hbegins
        obtain ⟨others, hothers⟩ := hbegins
        rw [List.append_assoc] at hothers
        exact longest d hd others hothers

/-- Bytes are decoded to the glyphs that they show. -/
theorem decode_eq_iff (bytes : List UInt8) (glyphs : List (Option Char)) :
    decode bytes = glyphs ↔ Shows bytes glyphs := by
  constructor
  · rintro rfl
    exact shows_decode bytes
  · exact (shows_decode bytes).unique

theorem decode_encoded (cs : List Char) : decode (cs.flatMap String.utf8EncodeChar) = cs.map some := by
  rw [decode_eq_iff]
  induction cs with
  | nil => exact .nil
  | cons c cs ih => exact .char c ih

end NeighborBench.Text

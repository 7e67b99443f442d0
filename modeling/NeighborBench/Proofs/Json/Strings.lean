import NeighborBench.Json.Printer
import NeighborBench.Json.Tree
import NeighborBench.Proofs.Success

/-! # The grammar of strings

A string is written by its pieces between quotes. Its text tells which string it is and where it ends,
so strings that are printed are read back.
-/

namespace NeighborBench.Json

/-! ## Digits and letters -/

/-- The value of a digit in base sixteen. -/
inductive HexDigit : Char → Nat → Prop where
  | decimal {c : Char} (low : '0' ≤ c) (high : c ≤ '9') : HexDigit c (c.toNat - 0x30)
  | small {c : Char} (low : 'a' ≤ c) (high : c ≤ 'f') : HexDigit c (c.toNat - 0x61 + 10)
  | capital {c : Char} (low : 'A' ≤ c) (high : c ≤ 'F') : HexDigit c (c.toNat - 0x41 + 10)

theorem HexDigit.lt {c : Char} {n : Nat} (h : HexDigit c n) : n < 16 := by
  cases h with
  | decimal _ high | small _ high | capital _ high =>
    have hle : c.toNat ≤ _ := high
    simp at hle
    omega

theorem digitValue?_eq_some_iff (c : Char) (n : Nat) :
    Text.digitValue? 16 c = some n ↔ HexDigit c n := by
  constructor
  · intro h
    obtain ⟨hvalue, -⟩ := Option.filter_eq_some_iff.mp h
    split at hvalue
    · next hc =>
      cases hvalue
      exact .decimal hc.1 hc.2
    split at hvalue
    · next hc =>
      cases hvalue
      exact .small hc.1 hc.2
    split at hvalue
    · next hc =>
      cases hvalue
      exact .capital hc.1 hc.2
    · cases hvalue
  · intro h
    have hlt := h.lt
    -- The ranges lie apart, so only the test for the digit's own range succeeds.
    have hapart : ∀ {a b : Char}, a < b → b ≤ c → ¬c ≤ a := fun hab hb hc =>
      Char.not_le.mpr hab (Char.le_trans hb hc)
    unfold Text.digitValue?
    cases h with
    | decimal low high => simp [low, high, hlt]
    | small low high =>
      have hdecimal := hapart (show '9' < 'a' by decide) low
      simp [hdecimal, low, high, hlt]
    | capital low high =>
      have hdecimal := hapart (show '9' < 'A' by decide) low
      have hsmall : ¬('a' ≤ c) := fun hc => hapart (show 'F' < 'a' by decide) hc high
      simp [hdecimal, hsmall, low, high, hlt]

/-- The letters that stand behind a backslash, each with the character that it is written for. -/
def escapes : List (Char × Char) :=
  [('"', '"'), ('\\', '\\'), ('/', '/'), ('b', '\x08'), ('f', '\x0c'), ('n', '\n'), ('r', '\r'),
    ('t', '\t')]

theorem escape?_eq_some_iff (letter c : Char) : escape? letter = some c ↔ (letter, c) ∈ escapes := by
  constructor
  · intro h
    unfold escape? at h
    split at h <;> cases h <;> simp [escapes]
  · intro h
    simp only [escapes, List.mem_cons, Prod.mk.injEq, List.not_mem_nil, or_false] at h
    rcases h with ⟨rfl, rfl⟩ | ⟨rfl, rfl⟩ | ⟨rfl, rfl⟩ | ⟨rfl, rfl⟩ | ⟨rfl, rfl⟩ | ⟨rfl, rfl⟩ |
      ⟨rfl, rfl⟩ | ⟨rfl, rfl⟩ <;> rfl

/-! ## Pieces -/

/-- A character stands for itself, or a backslash stands before its letter or its number. -/
inductive Piece.Writes : Piece → Glyphs → Prop where
  | plain {c : Char} (quote : c ≠ '"') (slash : c ≠ '\\') (high : 0x20 ≤ c.toNat) :
      Writes (.char c) [some c]
  | letter {letter c : Char} (stands : (letter, c) ∈ escapes) :
      Writes (.char c) [some '\\', some letter]
  | unit {a b c d : Char} {i j k l : Nat} (first : HexDigit a i) (second : HexDigit b j)
      (third : HexDigit c k) (fourth : HexDigit d l) :
      Writes (.unit (i * 0x1000 + j * 0x100 + k * 0x10 + l))
        [some '\\', some 'u', some a, some b, some c, some d]
  | hole : Writes .hole [none]

/-- Pieces one behind another. -/
inductive WritesPieces : List Piece → Glyphs → Prop where
  | nil : WritesPieces [] []
  | cons {p : Piece} {ps : List Piece} {x y : Glyphs} (first : p.Writes x)
      (others : WritesPieces ps y) : WritesPieces (p :: ps) (x ++ y)

theorem hexUnit?_of_digits {a b c d : Char} {i j k l : Nat} (first : HexDigit a i)
    (second : HexDigit b j) (third : HexDigit c k) (fourth : HexDigit d l) :
    hexUnit? (some a) (some b) (some c) (some d) =
      some (i * 0x1000 + j * 0x100 + k * 0x10 + l) := by
  rw [← digitValue?_eq_some_iff] at first second third fourth
  simp only [hexUnit?, Text.digitsValue?, List.mapM_cons, List.mapM_nil, first, second, third, fourth,
    bind, Option.bind, pure, Option.map_some, List.foldl_cons, List.foldl_nil, Option.some.injEq]
  omega

theorem Piece.Writes.pieces {p : Piece} {x : Glyphs} (h : p.Writes x) (rest : Glyphs) :
    pieces (x ++ rest) = (pieces rest).map fun (more, left) => (p :: more, left) := by
  cases h with
  | @plain c hquote hslash hhigh =>
    rw [List.singleton_append, pieces.eq_4 _ _ hquote (fun _ _ _ _ _ _ h => hslash h)
      (fun _ _ _ h => hslash h)]
    simp only [hslash, Nat.not_lt.mpr hhigh, decide_false, Bool.or_self, Bool.false_eq_true, if_false]
    cases Json.pieces rest <;> rfl
  | @letter letter c hstands =>
    have hne : letter ≠ 'u' := by
      rintro rfl
      simp [escapes] at hstands
    rw [List.cons_append, List.singleton_append, pieces.eq_3 _ _ fun _ _ _ _ _ _ h => hne h,
      (escape?_eq_some_iff letter c).mpr hstands]
    cases Json.pieces rest <;> rfl
  | unit first second third fourth =>
    simp only [List.cons_append, List.nil_append]
    rw [pieces.eq_2, hexUnit?_of_digits first second third fourth]
    cases Json.pieces rest <;> rfl
  | hole =>
    rw [List.singleton_append, Json.pieces]
    cases Json.pieces rest <;> rfl

theorem WritesPieces.pieces {ps : List Piece} {x : Glyphs} (h : WritesPieces ps x) (rest : Glyphs) :
    pieces (x ++ some '"' :: rest) = some (ps, rest) := by
  induction h with
  | nil => rfl
  | cons first _ ih => rw [List.append_assoc, first.pieces, ih, Option.map_some]

theorem cons_sound {p : Piece} {ps : List Piece} {x left rest : Glyphs} (first : p.Writes x)
    (others : ∀ {more}, pieces left = some (more, rest) →
      ∃ y, WritesPieces more y ∧ left = y ++ some '"' :: rest)
    (h : (do
      let (more, rest) ← pieces left
      some (p :: more, rest)) = some (ps, rest)) :
    ∃ y, WritesPieces ps y ∧ x ++ left = y ++ some '"' :: rest := by
  obtain ⟨⟨more, found⟩, hmore, h⟩ := Option.bind_eq_some_iff.mp h
  cases h
  obtain ⟨y, writes, rfl⟩ := others hmore
  exact ⟨x ++ y, .cons first writes, by rw [List.append_assoc]⟩

theorem hexUnit?_sound {a b c d : Option Char} {n : Nat} (h : hexUnit? a b c d = some n) :
    (Piece.unit n).Writes [some '\\', some 'u', a, b, c, d] := by
  obtain ⟨a, rfl, h⟩ := Option.bind_eq_some_iff.mp h
  obtain ⟨b, rfl, h⟩ := Option.bind_eq_some_iff.mp h
  obtain ⟨c, rfl, h⟩ := Option.bind_eq_some_iff.mp h
  obtain ⟨d, rfl, h⟩ := Option.bind_eq_some_iff.mp h
  obtain ⟨values, hvalues, rfl⟩ := Option.map_eq_some_iff.mp h
  rw [mapM_eq_some_iff] at hvalues
  simp only [digitValue?_eq_some_iff] at hvalues
  obtain _ | @⟨_, i, _, _, first, _ | @⟨_, j, _, _, second, _ | @⟨_, k, _, _, third,
    _ | @⟨_, l, _, _, fourth, _ | _⟩⟩⟩⟩ := hvalues
  have hvalue : [i, j, k, l].foldl (fun n d => n * 16 + d) 0 =
      i * 0x1000 + j * 0x100 + k * 0x10 + l := by
    simp only [List.foldl_cons, List.foldl_nil]
    omega
  rw [hvalue]
  exact .unit first second third fourth

theorem pieces_sound {g rest : Glyphs} {ps : List Piece} (h : pieces g = some (ps, rest)) :
    ∃ x, WritesPieces ps x ∧ g = x ++ some '"' :: rest := by
  fun_induction pieces g generalizing ps with
  | case1 left =>
    cases h
    exact ⟨[], .nil, rfl⟩
  | case2 a b c d left ih =>
    obtain ⟨n, hunit, hothers⟩ := Option.bind_eq_some_iff.mp h
    exact cons_sound (hexUnit?_sound hunit) ih hothers
  | case3 letter left _ ih =>
    obtain ⟨c, hstands, h⟩ := Option.bind_eq_some_iff.mp h
    exact cons_sound (.letter ((escape?_eq_some_iff letter c).mp hstands)) ih h
  | case4 => cases h
  | case5 c left hquote _ _ hplain ih =>
    simp only [Bool.or_eq_true, decide_eq_true_eq, not_or, Nat.not_lt] at hplain
    exact cons_sound (.plain hquote hplain.1 hplain.2) ih h
  | case6 left ih => exact cons_sound .hole ih h
  | case7 => cases h

/-! ## What pieces spell -/

/-- A character that a number alone stands for is outside of the halves; one above the first plane is
written by two halves. -/
inductive Spells : List Piece → List Char → Prop where
  | nil : Spells [] []
  | char {ps : List Piece} {cs : List Char} (c : Char) (h : Spells ps cs) :
      Spells (.char c :: ps) (c :: cs)
  | unit {ps : List Piece} {cs : List Char} (c : Char) (h : Spells ps cs) :
      Spells (.unit c.toNat :: ps) (c :: cs)
  | pair {high low : Nat} {ps : List Piece} {cs : List Char} {c : Char}
      (isHigh : 0xD800 ≤ high ∧ high < 0xDC00) (isLow : 0xDC00 ≤ low ∧ low < 0xE000)
      (joined : c.toNat = 0x10000 + (high - 0xD800) * 0x400 + (low - 0xDC00)) (h : Spells ps cs) :
      Spells (.unit high :: .unit low :: ps) (c :: cs)

/-- The number of a piece has four digits. -/
def Piece.Short : Piece → Prop
  | .unit n => n < 0x10000
  | _ => True

theorem Piece.Writes.short {p : Piece} {x : Glyphs} (h : p.Writes x) : p.Short := by
  cases h with
  | plain | letter | hole => trivial
  | unit first second third fourth =>
    have hfirst := first.lt
    have hsecond := second.lt
    have hthird := third.lt
    have hfourth := fourth.lt
    show _ < 0x10000
    omega

theorem WritesPieces.short {ps : List Piece} {x : Glyphs} (h : WritesPieces ps x) :
    ∀ p ∈ ps, p.Short := by
  induction h with
  | nil => nofun
  | cons first others ih => exact List.forall_mem_cons.mpr ⟨first.short, ih⟩

theorem toNat_ofNat {n : Nat} (small : n < 0x110000) (whole : ¬(0xD800 ≤ n ∧ n < 0xE000)) :
    (Char.ofNat n).toNat = n := by
  have hvalid : n.isValidChar := by
    unfold Nat.isValidChar
    omega
  rw [Char.ofNat, dif_pos hvalid]
  rfl

theorem toNat_whole (c : Char) : ¬(0xD800 ≤ c.toNat ∧ c.toNat < 0xE000) := by
  have hvalid : c.toNat.isValidChar := c.valid
  unfold Nat.isValidChar at hvalid
  omega

theorem spelled_unit (n : Nat) (rest : List Piece) (whole : ¬(0xD800 ≤ n ∧ n < 0xE000)) :
    spelled (.unit n :: rest) = (spelled rest).map (Char.ofNat n :: ·) := by
  have hhigh : ¬(0xD800 ≤ n ∧ n < 0xDC00) := by omega
  have hlow : ¬(0xDC00 ≤ n ∧ n < 0xE000) := by omega
  rcases rest with _ | ⟨_ | _ | low, rest⟩ <;> simp [spelled, hhigh, hlow, whole]

theorem Spells.unit_ofNat {n : Nat} {ps : List Piece} {cs : List Char} (short : n < 0x10000)
    (whole : ¬(0xD800 ≤ n ∧ n < 0xE000)) (h : Spells ps cs) :
    Spells (.unit n :: ps) (Char.ofNat n :: cs) := by
  have hspells := h.unit (Char.ofNat n)
  rwa [toNat_ofNat (by omega) whole] at hspells

theorem spelled_sound {ps : List Piece} {cs : List Char} (short : ∀ p ∈ ps, p.Short)
    (h : spelled ps = some cs) : Spells ps cs := by
  fun_induction spelled ps generalizing cs with
  | case1 =>
    cases h
    exact .nil
  | case2 c rest ih =>
    obtain ⟨others, hothers, rfl⟩ := Option.map_eq_some_iff.mp h
    exact .char c (ih (fun p hp => short p (.tail _ hp)) hothers)
  | case3 => cases h
  | case4 high low rest hhigh hlow ih =>
    obtain ⟨others, hothers, rfl⟩ := Option.map_eq_some_iff.mp h
    have hrest := ih (fun p hp => short p (.tail _ (.tail _ hp))) hothers
    exact .pair hhigh hlow (toNat_ofNat (by omega) (by omega)) hrest
  | case5 => cases h
  | case6 => cases h
  | case7 high low rest hhigh hlow ih =>
    obtain ⟨others, hothers, rfl⟩ := Option.map_eq_some_iff.mp h
    have hrest := ih (fun p hp => short p (.tail _ hp)) hothers
    exact .unit_ofNat (short _ (.head _)) (by omega) hrest
  | case8 => cases h
  | case9 n rest _ hwhole ih =>
    obtain ⟨others, hothers, rfl⟩ := Option.map_eq_some_iff.mp h
    have hrest := ih (fun p hp => short p (.tail _ hp)) hothers
    exact .unit_ofNat (short _ (.head _)) hwhole hrest

theorem Spells.spelled {ps : List Piece} {cs : List Char} (h : Spells ps cs) :
    spelled ps = some cs := by
  induction h with
  | nil => rfl
  | char c h ih => rw [Json.spelled, ih, Option.map_some]
  | unit c h ih => rw [spelled_unit _ _ (toNat_whole c), ih, Option.map_some, Char.ofNat_toNat]
  | @pair high low ps cs c isHigh isLow joined h ih =>
    rw [Json.spelled, if_pos isHigh, if_pos isLow, ih, Option.map_some, ← joined, Char.ofNat_toNat]

/-! ## Whole strings -/

/-- The pieces between quotes. They may spell no text. -/
inductive WritesString : Option String → Glyphs → Prop where
  | text {ps : List Piece} {x : Glyphs} {cs : List Char} (writes : WritesPieces ps x)
      (spells : Spells ps cs) : WritesString (some (String.ofList cs)) (some '"' :: x ++ [some '"'])
  | nothing {ps : List Piece} {x : Glyphs} (writes : WritesPieces ps x)
      (barred : ∀ cs, ¬Spells ps cs) : WritesString none (some '"' :: x ++ [some '"'])

theorem WritesPieces.writesString {ps : List Piece} {x : Glyphs} (h : WritesPieces ps x) :
    WritesString ((spelled ps).map String.ofList) (some '"' :: x ++ [some '"']) := by
  cases hspelled : spelled ps with
  | some cs => exact .text h (spelled_sound h.short hspelled)
  | none => exact .nothing h fun cs hcs => by simp [hcs.spelled] at hspelled

theorem WritesString.pieces {s : Option String} {x : Glyphs} (h : WritesString s x) :
    ∃ ps y, WritesPieces ps y ∧ s = (spelled ps).map String.ofList ∧
      x = some '"' :: y ++ [some '"'] := by
  cases h with
  | text writes spells => exact ⟨_, _, writes, by rw [spells.spelled, Option.map_some], rfl⟩
  | @nothing ps y writes barred =>
    refine ⟨ps, y, writes, ?_, rfl⟩
    cases hspelled : spelled ps with
    | some cs => exact absurd (spelled_sound writes.short hspelled) (barred cs)
    | none => rfl

theorem WritesString.string? {s : Option String} {x : Glyphs} (h : WritesString s x) (rest : Glyphs) :
    ∃ body, x ++ rest = some '"' :: body ∧ string? body = some (s, rest) := by
  obtain ⟨ps, y, writes, rfl, rfl⟩ := h.pieces
  refine ⟨y ++ some '"' :: rest, by simp, ?_⟩
  rw [Json.string?, writes.pieces, Option.map_some]

theorem string?_sound {g rest : Glyphs} {s : Option String} (h : string? g = some (s, rest)) :
    ∃ x, WritesString s x ∧ some '"' :: g = x ++ rest := by
  obtain ⟨⟨ps, left⟩, hpieces, h⟩ := Option.map_eq_some_iff.mp h
  cases h
  obtain ⟨x, writes, rfl⟩ := pieces_sound hpieces
  exact ⟨_, writes.writesString, by simp⟩

/-! ## Printed strings -/

/-- A control character without a letter of its own is written by its number. -/
def pieceOf (c : Char) : Piece := if (escapedChar c).length = 6 then .unit c.toNat else .char c

theorem hexDigit_value : ∀ n < 16, Text.digitValue? 16 (Text.hexDigit n) = some n := by
  decide

theorem control_writes {n : Nat} (h : n < 0x20) :
    (Piece.unit n).Writes [some '\\', some 'u', some '0', some '0', some (Text.hexDigit (n / 16)),
      some (Text.hexDigit (n % 16))] := by
  have hvalue : ∀ m < 16, HexDigit (Text.hexDigit m) m := fun m hm =>
    (digitValue?_eq_some_iff _ _).mp (hexDigit_value m hm)
  have hwrites := Piece.Writes.unit (hvalue 0 (by decide)) (hvalue 0 (by decide))
    (hvalue (n / 16) (by omega)) (hvalue (n % 16) (by omega))
  rwa [show 0 * 0x1000 + 0 * 0x100 + n / 16 * 0x10 + n % 16 = n by omega] at hwrites

theorem pieceOf_writes (c : Char) : (pieceOf c).Writes ((escapedChar c).map some) := by
  unfold pieceOf escapedChar
  split
  case h_8 hquote hslash _ _ _ _ _ =>
    split
    · next hlow => exact control_writes hlow
    · next hhigh => exact .plain hquote hslash (Nat.not_lt.mp hhigh)
  all_goals exact .letter (by decide)

theorem escaped_writes (cs : List Char) :
    WritesPieces (cs.map pieceOf) ((cs.flatMap escapedChar).map some) := by
  induction cs with
  | nil => exact .nil
  | cons c cs ih =>
    rw [List.flatMap_cons, List.map_append]
    exact .cons (pieceOf_writes c) ih

theorem pieceOf_spells (c : Char) {ps : List Piece} {cs : List Char} (h : Spells ps cs) :
    Spells (pieceOf c :: ps) (c :: cs) := by
  unfold pieceOf
  split
  · exact h.unit c
  · exact h.char c

theorem map_pieceOf_spells (cs : List Char) : Spells (cs.map pieceOf) cs := by
  induction cs with
  | nil => exact .nil
  | cons c cs ih => exact pieceOf_spells c ih

theorem string?_escaped (s : String) (rest : List Char) :
    string? ((s.toList.flatMap escapedChar ++ '"' :: rest).map some) = some (some s, rest.map some) := by
  rw [string?, List.map_append, List.map_cons, (escaped_writes s.toList).pieces]
  simp only [Option.map_some, (map_pieceOf_spells s.toList).spelled, String.ofList_toList]

theorem stringChars_unique (s t : String) (u v : List Char)
    (h : stringChars s ++ u = stringChars t ++ v) : s = t ∧ u = v := by
  have htail : s.toList.flatMap escapedChar ++ '"' :: u = t.toList.flatMap escapedChar ++ '"' :: v := by
    simpa [stringChars] using h
  have hread := string?_escaped s u
  rw [htail, string?_escaped t v] at hread
  simp only [Option.some.injEq, Prod.mk.injEq] at hread
  exact ⟨hread.1.symm, (List.map_inj_right (fun _ _ => Option.some.inj)).mp hread.2.symm⟩

end NeighborBench.Json

import Mathlib.Data.List.Basic
import NeighborBench.Json.Tree

/-! # The grammar of numbers

A number is a sign, digits, digits behind a point, and an exponent. The reader takes the longest text
that is one, so it finds the parts again where what follows cannot go on with the number.
-/

namespace NeighborBench.Json

/-- The first element, if there is one, has a property. -/
def Starts {α : Type} (p : α → Prop) (text : List α) : Prop := ∀ c ∈ text.head?, p c

/-! ## Digits -/

def digitValues (cs : List Char) : List Nat := cs.map fun c => c.toNat - '0'.toNat

def AllDigits (cs : List Char) : Prop := ∀ c ∈ cs, c.isDigit = true

theorem isDigit_iff (c : Char) : c.isDigit = true ↔ '0' ≤ c ∧ c ≤ '9' := by
  simp [Char.isDigit, Char.le_def]

/-- No digit comes first. -/
abbrev NoDigit (rest : Glyphs) : Prop := Starts (fun g => ∀ c ∈ g, c.isDigit = false) rest

theorem digits_of_noDigit (rest : Glyphs) (h : NoDigit rest) : digits rest = ([], rest) := by
  match rest with
  | [] => rfl
  | none :: rest => rfl
  | some c :: rest =>
    have hc : ¬('0' ≤ c ∧ c ≤ '9') := by
      rw [← isDigit_iff, h (some c) rfl c rfl]
      simp
    simp [digits, hc]

theorem digits_append (cs : List Char) (rest : Glyphs) (hdigits : AllDigits cs)
    (hrest : NoDigit rest) : digits (cs.map some ++ rest) = (digitValues cs, rest) := by
  induction cs with
  | nil => exact digits_of_noDigit rest hrest
  | cons c cs ih =>
    have hc := (isDigit_iff c).mp (hdigits c (by simp))
    have hread := ih fun d hd => hdigits d (by simp [hd])
    simp [digits, hc, hread, digitValues]

theorem digits_sound (g : Glyphs) :
    ∃ cs, AllDigits cs ∧ digitValues cs = (digits g).1 ∧ g = cs.map some ++ (digits g).2 := by
  fun_induction digits g with
  | case1 c rest hc ds left hread ih =>
    rw [hread] at ih
    obtain ⟨cs, hall, hvalues, htext⟩ := ih
    refine ⟨c :: cs, ?_, congrArg (_ :: ·) hvalues, congrArg (_ :: ·) htext⟩
    intro d hd
    rcases List.mem_cons.mp hd with rfl | hd
    · exact (isDigit_iff d).mpr hc
    · exact hall d hd
  | case2 c rest hc => exact ⟨[], by simp [AllDigits], rfl, rfl⟩
  | case3 g hg => exact ⟨[], by simp [AllDigits], rfl, rfl⟩

/-- Digits, at least one. -/
structure WritesDigits (ds : List Nat) (cs : List Char) : Prop where
  ne : cs ≠ []
  all : AllDigits cs
  values : digitValues cs = ds

theorem WritesDigits.digits? {ds : List Nat} {cs : List Char} (h : WritesDigits ds cs) (rest : Glyphs)
    (hrest : NoDigit rest) : digits? (cs.map some ++ rest) = some (ds, rest) := by
  rw [Json.digits?, digits_append cs rest h.all hrest, h.values]
  obtain ⟨c, cs, rfl⟩ := List.exists_cons_of_ne_nil h.ne
  rw [← h.values]
  rfl

theorem digits?_sound {g rest : Glyphs} {ds : List Nat} (h : digits? g = some (ds, rest)) :
    ∃ cs, WritesDigits ds cs ∧ g = cs.map some ++ rest := by
  obtain ⟨cs, hall, hvalues, htext⟩ := digits_sound g
  unfold digits? at h
  split at h
  · cases h
  · next found left hne heq =>
    cases h
    rw [heq] at hvalues htext
    refine ⟨cs, ⟨?_, hall, hvalues⟩, htext⟩
    rintro rfl
    exact hne hvalues.symm

/-! ## The other parts -/

def signChars (negative : Bool) : List Char := if negative then ['-'] else []

/-- Nothing, or a point and digits. -/
inductive WritesFraction : List Nat → List Char → Prop where
  | none : WritesFraction [] []
  | point {ds : List Nat} {cs : List Char} (digits : WritesDigits ds cs) :
      WritesFraction ds ('.' :: cs)

/-- Nothing, or a letter and digits that a sign may stand before. -/
inductive WritesExponent : Option (Bool × List Nat) → List Char → Prop where
  | none : WritesExponent none []
  | bare {letter : Char} {ds : List Nat} {cs : List Char} (letter_eq : letter = 'e' ∨ letter = 'E')
      (digits : WritesDigits ds cs) : WritesExponent (some (false, ds)) (letter :: cs)
  | signed {letter : Char} {ds : List Nat} {cs : List Char} (below : Bool)
      (letter_eq : letter = 'e' ∨ letter = 'E') (digits : WritesDigits ds cs) :
      WritesExponent (some (below, ds)) (letter :: (if below then '-' else '+') :: cs)

/-- No zero stands in front of other digits. -/
inductive WritesNumeral : Numeral → List Char → Prop where
  | mk {negative : Bool} {whole fraction : List Nat} {exponent : Option (Bool × List Nat)}
      {w f e : List Char} (digits : WritesDigits whole w)
      (leading : ∀ rest, w = '0' :: rest → rest = []) (point : WritesFraction fraction f)
      (power : WritesExponent exponent e) :
      WritesNumeral ⟨negative, whole, fraction, exponent⟩ (signChars negative ++ w ++ f ++ e)

theorem WritesNumeral.head {n : Numeral} {cs : List Char} (h : WritesNumeral n cs) :
    ∃ c rest, cs = c :: rest ∧ (c = '-' ∨ c.isDigit = true) := by
  obtain ⟨digits, -, -, -⟩ := h
  rename_i negative whole fraction exponent w f e
  cases negative with
  | true => exact ⟨'-', w ++ f ++ e, by simp [signChars], .inl rfl⟩
  | false =>
    obtain ⟨c, rest, rfl⟩ := List.exists_cons_of_ne_nil digits.ne
    exact ⟨c, rest ++ f ++ e, rfl, .inr (digits.all c List.mem_cons_self)⟩

/-! ## Reading what is written -/

/-- Nothing comes first that could go on with a number. -/
def Stops (rest : Glyphs) : Prop :=
  Starts (fun g => ∀ c ∈ g, c.isDigit = false ∧ c ≠ '.' ∧ c ≠ 'e' ∧ c ≠ 'E') rest

theorem Stops.noDigit {rest : Glyphs} (h : Stops rest) : NoDigit rest :=
  fun g hg c hc => (h g hg c hc).1

theorem stops_mark {c : Char} (h : c = ',' ∨ c = ']' ∨ c = '}') (rest : Glyphs) :
    Stops (some c :: rest) := by
  rintro g ⟨⟩ d ⟨⟩
  rcases h with rfl | rfl | rfl <;> decide

theorem exponent?_of_stops {rest : Glyphs} (h : Stops rest) : exponent? rest = some (none, rest) := by
  match rest with
  | [] => rfl
  | none :: rest => rfl
  | some c :: rest =>
    obtain ⟨-, -, hlower, hupper⟩ := h (some c) rfl c rfl
    simp [exponent?, hlower, hupper]

theorem WritesDigits.head {ds : List Nat} {cs : List Char} (h : WritesDigits ds cs) :
    ∃ c rest, cs = c :: rest ∧ c ≠ '+' ∧ c ≠ '-' := by
  obtain ⟨c, rest, rfl⟩ := List.exists_cons_of_ne_nil h.ne
  have hdigit := h.all c (by simp)
  refine ⟨c, rest, rfl, ?_, ?_⟩
  · rintro rfl
    cases hdigit
  · rintro rfl
    cases hdigit

theorem WritesExponent.exponent? {exponent : Option (Bool × List Nat)} {cs : List Char}
    (h : WritesExponent exponent cs) {rest : Glyphs} (stops : Stops rest) :
    exponent? (cs.map some ++ rest) = some (exponent, rest) := by
  cases h with
  | none => exact exponent?_of_stops stops
  | bare hletter digits =>
    have hread := digits.digits? rest stops.noDigit
    obtain ⟨c, cs, rfl, hplus, hminus⟩ := digits.head
    rw [List.map_cons, List.map_cons, List.cons_append, List.cons_append] at *
    simp only [Json.exponent?, hletter, Bool.or_eq_true, decide_eq_true_eq, if_true]
    split
    · next heq => simp [hplus] at heq
    · next heq => simp [hminus] at heq
    · rw [hread]
      rfl
  | signed below hletter digits =>
    have hread := digits.digits? rest stops.noDigit
    cases below <;> simp [Json.exponent?, hletter, hread]

theorem WritesExponent.starts {exponent : Option (Bool × List Nat)} {cs : List Char}
    (h : WritesExponent exponent cs) {rest : Glyphs} (stops : Stops rest) :
    Starts (fun g => ∀ c ∈ g, c.isDigit = false ∧ c ≠ '.') (cs.map some ++ rest) := by
  have hletter : ∀ {letter : Char}, letter = 'e' ∨ letter = 'E' →
      letter.isDigit = false ∧ letter ≠ '.' := by
    rintro letter (rfl | rfl) <;> decide
  cases h with
  | none => exact fun g hg c hc => ⟨(stops g hg c hc).1, (stops g hg c hc).2.1⟩
  | bare h digits =>
    rintro g ⟨⟩ c ⟨⟩
    exact hletter h
  | signed below h digits =>
    rintro g ⟨⟩ c ⟨⟩
    exact hletter h

theorem WritesFraction.fraction? {fraction : List Nat} {cs : List Char}
    (h : WritesFraction fraction cs) {rest : Glyphs}
    (hrest : Starts (fun g => ∀ c ∈ g, c.isDigit = false ∧ c ≠ '.') rest) :
    fraction? (cs.map some ++ rest) = some (fraction, rest) := by
  cases h with
  | none =>
    refine fraction?.eq_2 rest fun left heq => ?_
    subst heq
    exact (hrest _ rfl _ rfl).2 rfl
  | point digits => exact digits.digits? rest fun g hg c hc => (hrest g hg c hc).1

theorem WritesFraction.noDigit {fraction : List Nat} {cs : List Char}
    (h : WritesFraction fraction cs) {rest : Glyphs} (hrest : NoDigit rest) :
    NoDigit (cs.map some ++ rest) := by
  cases h with
  | none => exact hrest
  | point digits =>
    rintro g ⟨⟩ c ⟨⟩
    rfl

theorem WritesDigits.whole? {whole : List Nat} {cs : List Char} (h : WritesDigits whole cs)
    (leading : ∀ rest, cs = '0' :: rest → rest = []) {rest : Glyphs} (hrest : NoDigit rest) :
    whole? (cs.map some ++ rest) = some (whole, rest) := by
  -- The reader refuses the value zero in front of others, and only the character for zero has it.
  have hvalues : ∀ head others, whole ≠ 0 :: head :: others := by
    rintro head others rfl
    obtain ⟨c, left, rfl, hzero, hleft⟩ := List.map_eq_cons_iff.mp h.values
    have hc := (isDigit_iff c).mp (h.all c (by simp))
    have hle : '0'.toNat ≤ c.toNat := hc.1
    have hchar : c = '0' := Char.toNat_inj.mp (by omega)
    rw [leading left (by rw [hchar])] at hleft
    cases hleft
  rw [Json.whole?, h.digits? rest hrest]
  split
  · next heq =>
    cases heq
    exact absurd rfl (hvalues _ _)
  · rfl

theorem WritesNumeral.numeral? {n : Numeral} {cs : List Char} (h : WritesNumeral n cs)
    {rest : Glyphs} (stops : Stops rest) :
    numeral? (cs.map some ++ rest) = some (n, rest) := by
  obtain ⟨digits, leading, point, power⟩ := h
  rename_i negative whole fraction exponent w f e
  have hexponent := power.exponent? stops
  have hstarts := power.starts stops
  have hfraction := point.fraction? hstarts
  have hwhole := digits.whole? leading (point.noDigit fun g hg c hc => (hstarts g hg c hc).1)
  have htext : (signChars negative ++ w ++ f ++ e).map some ++ rest =
      (signChars negative).map some ++
        (w.map some ++ (f.map some ++ (e.map some ++ rest))) := by
    simp
  rw [htext]
  unfold Json.numeral?
  cases negative with
  | true =>
    simp only [signChars, if_true, List.map_cons, List.map_nil, List.singleton_append, hwhole,
      hfraction, hexponent, bind, Option.bind]
  | false =>
    obtain ⟨c, left, rfl, -, hminus⟩ := digits.head
    simp only [signChars, Bool.false_eq_true, if_false, List.map_nil, List.nil_append]
    split
    · next heq => simp [hminus] at heq
    · simp only [hwhole, hfraction, hexponent, bind, Option.bind]

/-! ## What is read was written -/

theorem power_sound {below : Bool} {g rest : Glyphs} {exponent : Option (Bool × List Nat)}
    (h : ((digits? g).map fun (ds, rest) => (some (below, ds), rest)) = some (exponent, rest)) :
    ∃ ds cs, exponent = some (below, ds) ∧ WritesDigits ds cs ∧ g = cs.map some ++ rest := by
  obtain ⟨⟨ds, left⟩, hread, heq⟩ := Option.map_eq_some_iff.mp h
  cases heq
  obtain ⟨cs, digits, htext⟩ := digits?_sound hread
  exact ⟨ds, cs, rfl, digits, htext⟩

theorem exponent?_sound {g rest : Glyphs} {exponent : Option (Bool × List Nat)}
    (h : exponent? g = some (exponent, rest)) :
    ∃ cs, WritesExponent exponent cs ∧ g = cs.map some ++ rest := by
  unfold exponent? at h
  split at h
  · next letter left =>
    split at h
    · next hletter =>
      have hletter : letter = 'e' ∨ letter = 'E' := by simpa using hletter
      split at h
      · obtain ⟨ds, cs, rfl, digits, rfl⟩ := power_sound h
        exact ⟨_, .signed false hletter digits, rfl⟩
      · obtain ⟨ds, cs, rfl, digits, rfl⟩ := power_sound h
        exact ⟨_, .signed true hletter digits, rfl⟩
      · obtain ⟨ds, cs, rfl, digits, rfl⟩ := power_sound h
        exact ⟨_, .bare hletter digits, rfl⟩
    · cases h
      exact ⟨[], .none, rfl⟩
  · cases h
    exact ⟨[], .none, rfl⟩

theorem fraction?_sound {g rest : Glyphs} {fraction : List Nat}
    (h : fraction? g = some (fraction, rest)) :
    ∃ cs, WritesFraction fraction cs ∧ g = cs.map some ++ rest := by
  unfold fraction? at h
  split at h
  · obtain ⟨cs, digits, rfl⟩ := digits?_sound h
    exact ⟨_, .point digits, rfl⟩
  · cases h
    exact ⟨[], .none, rfl⟩

theorem whole?_sound {g rest : Glyphs} {whole : List Nat} (h : whole? g = some (whole, rest)) :
    ∃ cs, WritesDigits whole cs ∧ (∀ left, cs = '0' :: left → left = []) ∧
      g = cs.map some ++ rest := by
  unfold whole? at h
  split at h
  · cases h
  · next hzero =>
    obtain ⟨cs, digits, rfl⟩ := digits?_sound h
    refine ⟨cs, digits, ?_, rfl⟩
    rintro (_ | ⟨d, left⟩) rfl
    · rfl
    · exact absurd h (by rw [← digits.values]; exact hzero _ _ _)

theorem unsigned_sound {negative : Bool} {g rest : Glyphs} {n : Numeral}
    (h : (do
      let (whole, rest) ← whole? g
      let (fraction, rest) ← fraction? rest
      let (exponent, rest) ← exponent? rest
      some ((⟨negative, whole, fraction, exponent⟩ : Numeral), rest)) = some (n, rest)) :
    ∃ cs, WritesNumeral n (signChars negative ++ cs) ∧ g = cs.map some ++ rest := by
  obtain ⟨⟨whole, afterWhole⟩, hwhole, h⟩ := Option.bind_eq_some_iff.mp h
  obtain ⟨⟨fraction, afterFraction⟩, hfraction, h⟩ := Option.bind_eq_some_iff.mp h
  obtain ⟨⟨exponent, left⟩, hexponent, h⟩ := Option.bind_eq_some_iff.mp h
  cases h
  obtain ⟨w, digits, leading, rfl⟩ := whole?_sound hwhole
  obtain ⟨f, point, rfl⟩ := fraction?_sound hfraction
  obtain ⟨e, power, rfl⟩ := exponent?_sound hexponent
  refine ⟨w ++ f ++ e, ?_, by simp⟩
  rw [← List.append_assoc, ← List.append_assoc]
  exact .mk digits leading point power

theorem numeral?_sound {g rest : Glyphs} {n : Numeral} (h : numeral? g = some (n, rest)) :
    ∃ cs, WritesNumeral n cs ∧ g = cs.map some ++ rest := by
  unfold numeral? at h
  split at h
  next negative unsigned hsign =>
  obtain ⟨cs, writes, rfl⟩ := unsigned_sound h
  refine ⟨_, writes, ?_⟩
  split at hsign
  · cases hsign
    rfl
  · cases hsign
    rfl

end NeighborBench.Json

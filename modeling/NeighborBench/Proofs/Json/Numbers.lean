import NeighborBench.Proofs.Decimal.Shortest
import NeighborBench.Proofs.Double.Bits
import NeighborBench.Proofs.Json.Spelling

/-! # Numbers by their texts

The text of an integer is its digits. The text of a finite double has a fraction or an exponent, and
its digits are those of the shortest decimal. So a text belongs to one number.
-/

namespace NeighborBench.Json

open Decimal (digitsValue Binary)

/-! ## Digits of a natural number -/

theorem repr_toList (n : ℕ) : (Nat.repr n).toList = Nat.toDigits 10 n := by
  rw [Nat.repr_eq_ofList_toDigits, String.toList_ofList]

theorem allDigits_repr (n : ℕ) : AllDigits (Nat.repr n).toList := by
  rw [repr_toList]
  intro c hc
  exact Nat.isDigit_of_mem_toDigits (by omega) (by omega) hc

theorem repr_ne_nil (n : ℕ) : (Nat.repr n).toList ≠ [] := by
  rw [repr_toList]
  exact Nat.toDigits_ne_nil

theorem digitChar_ne_zero : ∀ n < 10, 0 < n → Nat.digitChar n ≠ '0' := by decide

theorem repr_head (n : ℕ) (hpos : 0 < n) (rest : List Char) :
    (Nat.repr n).toList ≠ '0' :: rest := by
  rw [repr_toList]
  induction n using Nat.strongRecOn generalizing rest with
  | _ n ih =>
    rw [Nat.toDigits_eq_if (by omega)]
    split
    · next hlt =>
      have hchar := digitChar_ne_zero n hlt hpos
      simp [hchar]
    · next hge =>
      obtain ⟨c, cs, hcs⟩ := List.exists_cons_of_ne_nil (Nat.toDigits_ne_nil (n := n / 10) (b := 10))
      have hc : c ≠ '0' := by
        have := ih (n / 10) (by omega) (by omega) cs
        rw [hcs] at this
        simpa using this
      rw [hcs]
      simp [hc]

theorem repr_leading (n : ℕ) (rest : List Char) (h : (Nat.repr n).toList = '0' :: rest) :
    rest = [] := by
  rcases Nat.eq_zero_or_pos n with rfl | hpos
  · rw [repr_toList, Nat.toDigits_zero] at h
    simpa using h.symm
  · exact absurd h (repr_head n hpos rest)

theorem digitsValue_digitValues (cs : List Char) :
    digitsValue (digitValues cs) = Nat.ofDigitChars 10 cs 0 := by
  unfold digitsValue digitValues
  rw [List.foldl_map, Nat.ofDigitChars_eq_foldl]
  simp only [Nat.mul_comm]

theorem value_repr (n : ℕ) : Nat.ofDigitChars 10 (Nat.repr n).toList 0 = n := by
  rw [repr_toList, Nat.ofDigitChars_ten_toDigits]

/-! ## What a number is worth -/

namespace Numeral

/-- The power of ten that the exponent writes. -/
def power (n : Numeral) : ℤ :=
  match n.exponent with
  | none => 0
  | some (below, digits) => if below then -digitsValue digits else digitsValue digits

/-- The exact value, without its sign. -/
def magnitude (n : Numeral) : ℚ :=
  digitsValue (n.whole ++ n.fraction) * 10 ^ (n.power - n.fraction.length)

end Numeral

theorem Spelling.magnitude_numeral (s : Spelling) :
    s.numeral.magnitude = (Nat.ofDigitChars 10 (s.whole ++ s.fraction) 0 : ℕ) *
      10 ^ (s.numeral.power - s.fraction.length) := by
  unfold Numeral.magnitude
  rw [← digitsValue_digitValues]
  simp [numeral, digitValues]

/-! ## Integers -/

def intSpelling (i : ℤ) : Spelling := ⟨decide (i < 0), (Nat.repr i.natAbs).toList, [], none⟩

theorem intSpelling_valid (i : ℤ) : (intSpelling i).Valid where
  whole := allDigits_repr _
  fraction := nofun
  whole_ne := repr_ne_nil _
  leading := repr_leading _
  exponent := nofun

theorem intSpelling_chars (i : ℤ) : (intSpelling i).chars = (Int.repr i).toList := by
  rw [Int.repr_eq_if]
  by_cases hneg : i < 0
  · have habs : i.natAbs = (-i).toNat := by omega
    rw [if_neg (by omega)]
    simp [Spelling.chars, signChars, intSpelling, hneg, habs, pointChars, exponentChars]
  · have habs : i.natAbs = i.toNat := by omega
    rw [if_pos (by omega)]
    simp [Spelling.chars, signChars, intSpelling, hneg, habs, pointChars, exponentChars]

theorem intSpelling_injective (i j : ℤ) (h : (intSpelling i).numeral = (intSpelling j).numeral) :
    i = j := by
  have hsign : (i < 0) ↔ (j < 0) := by
    have := congrArg Numeral.negative h
    simpa [intSpelling, Spelling.numeral] using this
  have habs : i.natAbs = j.natAbs := by
    have := congrArg (fun n => digitsValue n.whole) h
    simpa [intSpelling, Spelling.numeral, digitsValue_digitValues, value_repr] using this
  omega

/-! ## Doubles -/

def positionalSpelling (negative : Bool) (digits : List Char) (exponent : ℤ) : Spelling :=
  if exponent < 0 then
    ⟨negative, ['0'], List.replicate (exponent.natAbs - 1) '0' ++ digits, none⟩
  else
    let whole := exponent.natAbs + 1
    let padded := digits ++ List.replicate (whole - digits.length) '0'
    let fraction := digits.drop whole
    ⟨negative, padded.take whole, if fraction.isEmpty then ['0'] else fraction, none⟩

def scientificSpelling (negative : Bool) (digits : List Char) (exponent : ℤ) : Spelling :=
  ⟨negative, digits.take 1, digits.drop 1,
    some (decide (exponent < 0), (Nat.repr exponent.natAbs).toList)⟩

theorem pointChars_of_ne_nil (digits : List Char) (h : digits ≠ []) :
    pointChars digits = '.' :: digits := by
  cases digits with
  | nil => exact absurd rfl h
  | cons c cs => rfl

theorem positionalSpelling_chars (negative : Bool) (digits : List Char) (exponent : ℤ)
    (hne : digits ≠ []) :
    (positionalSpelling negative digits exponent).chars =
      signChars negative ++ positionalChars digits exponent := by
  unfold positionalSpelling positionalChars
  split
  · rw [Spelling.chars, pointChars_of_ne_nil _ (by simp [hne])]
    simp [exponentChars]
  · have hfraction : (if (digits.drop (exponent.natAbs + 1)).isEmpty then ['0']
        else digits.drop (exponent.natAbs + 1)) ≠ [] := by
      split
      · simp
      · simp_all
    rw [Spelling.chars, pointChars_of_ne_nil _ hfraction]
    simp [exponentChars]

theorem scientificSpelling_chars (negative : Bool) (digits : List Char) (exponent : ℤ) :
    (scientificSpelling negative digits exponent).chars =
      signChars negative ++ scientificChars digits exponent := by
  rcases digits with _ | ⟨c, _ | ⟨d, rest⟩⟩ <;> by_cases hneg : exponent < 0 <;>
    simp [scientificSpelling, scientificChars, Spelling.chars, exponentChars, pointChars, hneg]

section

variable {digits : List Char} (hdigits : AllDigits digits) (hne : digits ≠ [])
  (hhead : ∀ rest, digits ≠ '0' :: rest)
include hdigits hne hhead

theorem positionalSpelling_valid (negative : Bool) (exponent : ℤ) :
    (positionalSpelling negative digits exponent).Valid := by
  have hzeros : ∀ n, AllDigits (digits ++ List.replicate n '0') := by
    intro n c hc
    rcases List.mem_append.mp hc with hc | hc
    · exact hdigits c hc
    · rw [List.eq_of_mem_replicate hc]
      rfl
  unfold positionalSpelling
  split
  · refine ⟨by simp [AllDigits], ?_, by simp, by simp, by simp⟩
    intro c hc
    rcases List.mem_append.mp hc with hc | hc
    · rw [List.eq_of_mem_replicate hc]
      rfl
    · exact hdigits c hc
  · refine ⟨fun c hc => hzeros _ c (List.mem_of_mem_take hc), ?_, ?_, ?_, by simp⟩
    · intro c hc
      simp only at hc
      split at hc
      · rw [List.mem_singleton.mp hc]
        rfl
      · exact hdigits c (List.mem_of_mem_drop hc)
    · simp [hne]
    · intro rest h
      obtain ⟨c, cs, rfl⟩ := List.exists_cons_of_ne_nil hne
      have hc : c = '0' := by
        simp only [List.cons_append, List.take_succ_cons, List.cons.injEq] at h
        exact h.1
      exact absurd rfl (hc ▸ hhead cs)

theorem scientificSpelling_valid (negative : Bool) (exponent : ℤ) :
    (scientificSpelling negative digits exponent).Valid := by
  refine ⟨fun c hc => hdigits c (List.mem_of_mem_take hc),
    fun c hc => hdigits c (List.mem_of_mem_drop hc), by simp [scientificSpelling, hne], ?_, ?_⟩
  · intro rest h
    obtain ⟨c, cs, rfl⟩ := List.exists_cons_of_ne_nil hne
    have hone : [c] = '0' :: rest := by simpa [scientificSpelling] using h
    simpa using (List.cons.inj hone).2.symm
  · intro e he
    obtain rfl : (decide (exponent < 0), (Nat.repr exponent.natAbs).toList) = e := by
      simpa [scientificSpelling] using he
    exact ⟨repr_ne_nil _, allDigits_repr _⟩

end

theorem positionalSpelling_magnitude (negative : Bool) (digits : List Char) (exponent least : ℤ)
    (hne : digits ≠ []) (hexponent : exponent = least + (digits.length - 1 : ℕ)) :
    (positionalSpelling negative digits exponent).numeral.magnitude =
      (Nat.ofDigitChars 10 digits 0 : ℕ) * 10 ^ least := by
  -- A point among digits, or zeros around them, and the same power of ten.
  have hlength : 0 < digits.length := List.length_pos_of_ne_nil hne
  rw [Spelling.magnitude_numeral]
  unfold positionalSpelling
  split
  · next hneg =>
    have hzeros : Nat.ofDigitChars 10
        (['0'] ++ (List.replicate (exponent.natAbs - 1) '0' ++ digits)) 0 =
        Nat.ofDigitChars 10 digits 0 := by
      simp [Nat.ofDigitChars_append, Nat.ofDigitChars_cons, Nat.ofDigitChars_replicate_zero]
    have hplaces : (0 : ℤ) - ((List.replicate (exponent.natAbs - 1) '0' ++ digits).length : ℕ) =
        least := by
      rw [List.length_append, List.length_replicate]
      omega
    simp only [hzeros]
    congr 2
  · next hpos =>
    by_cases hshort : digits.length ≤ exponent.natAbs + 1
    · -- All digits are in front of the point, with zeros up to it.
      have hwhole : (digits ++ List.replicate (exponent.natAbs + 1 - digits.length) '0').take
          (exponent.natAbs + 1) =
          digits ++ List.replicate (exponent.natAbs + 1 - digits.length) '0' := by
        apply List.take_of_length_le
        rw [List.length_append, List.length_replicate]
        omega
      have hfraction : digits.drop (exponent.natAbs + 1) = [] := List.drop_eq_nil_of_le hshort
      have hvalue : Nat.ofDigitChars 10
          (digits ++ List.replicate (exponent.natAbs + 1 - digits.length) '0' ++ ['0']) 0 =
          Nat.ofDigitChars 10 digits 0 * 10 ^ (exponent.natAbs + 1 - digits.length) * 10 := by
        simp [Nat.ofDigitChars_append, Nat.ofDigitChars_cons, Nat.ofDigitChars_replicate_zero]
        ring
      have hplaces : least = ((exponent.natAbs + 1 - digits.length : ℕ) : ℤ) := by omega
      simp only [hwhole, hfraction, List.isEmpty_nil, if_true, hvalue]
      have hpower : (10 : ℚ) ^ ((0 : ℤ) - (1 : ℕ)) = 1 / 10 := by norm_num
      change (_ : ℚ) * 10 ^ ((0 : ℤ) - (1 : ℕ)) = _
      rw [hpower, hplaces, zpow_natCast]
      push_cast
      ring
    · have hwhole : (digits ++ List.replicate (exponent.natAbs + 1 - digits.length) '0').take
          (exponent.natAbs + 1) = digits.take (exponent.natAbs + 1) := by
        rw [List.take_append_of_le_length (by omega)]
      have hfraction : (digits.drop (exponent.natAbs + 1)).isEmpty = false := by
        simp
        omega
      simp only [hwhole, hfraction, Bool.false_eq_true, if_false, List.take_append_drop]
      have hplaces : (0 : ℤ) - ((digits.drop (exponent.natAbs + 1)).length : ℕ) = least := by
        rw [List.length_drop]
        omega
      congr 2

theorem scientificSpelling_magnitude (negative : Bool) (digits : List Char) (exponent least : ℤ)
    (hne : digits ≠ []) (hexponent : exponent = least + (digits.length - 1 : ℕ)) :
    (scientificSpelling negative digits exponent).numeral.magnitude =
      (Nat.ofDigitChars 10 digits 0 : ℕ) * 10 ^ least := by
  have hlength : 0 < digits.length := List.length_pos_of_ne_nil hne
  have hpower : (scientificSpelling negative digits exponent).numeral.power = exponent := by
    have hvalue : digitsValue (digitValues (Nat.repr exponent.natAbs).toList) = exponent.natAbs := by
      rw [digitsValue_digitValues, value_repr]
    simp only [scientificSpelling, Spelling.numeral, Numeral.power, Option.map_some, hvalue]
    by_cases hneg : exponent < 0
    · simp only [hneg, decide_true, if_true]
      omega
    · simp only [hneg, decide_false, Bool.false_eq_true, if_false]
      omega
  have hplaces : exponent - ((digits.drop 1).length : ℕ) = least := by
    rw [List.length_drop]
    omega
  rw [Spelling.magnitude_numeral, hpower]
  simp only [scientificSpelling, List.take_append_drop, hplaces]

/-! ## The text of a double -/

/-- The bits below the sign. -/
def magnitudeBits (x : Float) : ℕ := x.toBits.toNat % 0x8000_0000_0000_0000

def isNegative (x : Float) : Bool := x.toBits.toNat / 0x8000_0000_0000_0000 = 1

def floatSpelling (x : Float) : Spelling :=
  if magnitudeBits x = 0 then ⟨isNegative x, ['0'], ['0'], none⟩
  else
    let short := (Binary.ofBits (magnitudeBits x)).shortest
    let digits := (Nat.repr short.significand).toList
    let exponent := short.exponent + (digits.length - 1 : ℕ)
    if positional.1 ≤ exponent ∧ exponent < positional.2 then
      positionalSpelling (isNegative x) digits exponent
    else scientificSpelling (isNegative x) digits exponent

theorem magnitudeBits_lt (x : Float) (h : x.isFinite = true) : magnitudeBits x < Binary.infinite := by
  have hexponent := (Double.isFinite_iff x).mp h
  have hbits : x.toBits.toNat < 0x1_0000_0000_0000_0000 := x.toBits.toNat_lt
  unfold magnitudeBits Binary.infinite
  omega

theorem floatSpelling_chars (x : Float) (h : x.isFinite = true) :
    (floatSpelling x).chars = floatChars x := by
  have hexponent := (Double.isFinite_iff x).mp h
  have hsign : signChars (isNegative x) =
      if x.toBits.toNat / 0x8000_0000_0000_0000 = 1 then ['-'] else [] := by
    simp [signChars, isNegative]
  simp only [floatChars, hexponent, if_false, ← hsign]
  unfold floatSpelling magnitudeBits
  split
  · simp [Spelling.chars, pointChars, exponentChars]
  · simp only
    split
    · exact positionalSpelling_chars _ _ _ (repr_ne_nil _)
    · exact scientificSpelling_chars _ _ _

theorem shortest_significand_pos (x : Float) (h : x.isFinite = true) (hne : magnitudeBits x ≠ 0) :
    0 < (Binary.ofBits (magnitudeBits x)).shortest.significand := by
  have hpos := Binary.shortest_value_pos _ (Nat.pos_of_ne_zero hne) (magnitudeBits_lt x h)
  apply Nat.pos_of_ne_zero
  intro hzero
  rw [Decimal.Scaled.value, hzero] at hpos
  simp at hpos

theorem floatSpelling_valid (x : Float) (h : x.isFinite = true) : (floatSpelling x).Valid := by
  unfold floatSpelling
  split
  · exact ⟨by simp [AllDigits], by simp [AllDigits], by simp, by simp, nofun⟩
  · next hne =>
    have hpos := shortest_significand_pos x h hne
    have hhead := repr_head _ hpos
    simp only
    split
    · exact positionalSpelling_valid (allDigits_repr _) (repr_ne_nil _) hhead _ _
    · exact scientificSpelling_valid (allDigits_repr _) (repr_ne_nil _) hhead _ _

theorem floatSpelling_magnitude (x : Float) :
    (floatSpelling x).numeral.magnitude =
      if magnitudeBits x = 0 then 0 else (Binary.ofBits (magnitudeBits x)).shortest.value := by
  unfold floatSpelling
  split
  · rw [Spelling.magnitude_numeral]
    simp [Nat.ofDigitChars_cons]
  · simp only
    split
    · rw [positionalSpelling_magnitude _ _ _ _ (repr_ne_nil _) rfl, value_repr]
      rfl
    · rw [scientificSpelling_magnitude _ _ _ _ (repr_ne_nil _) rfl, value_repr]
      rfl

theorem floatSpelling_negative (x : Float) : (floatSpelling x).negative = isNegative x := by
  unfold floatSpelling positionalSpelling scientificSpelling
  split
  · rfl
  · simp only
    split
    · split <;> rfl
    · rfl

theorem floatSpelling_ne_int (x : Float) (i : ℤ) : (floatSpelling x).numeral ≠ (intSpelling i).numeral := by
  intro h
  have hfraction := congrArg Numeral.fraction h
  have hexponent := congrArg Numeral.exponent h
  have hone : (floatSpelling x).fraction ≠ [] ∨ (floatSpelling x).exponent ≠ none := by
    unfold floatSpelling
    split
    · simp
    · simp only
      split
      · unfold positionalSpelling
        split
        · simp
        · simp only
          split <;> simp_all
      · simp [scientificSpelling]
  rcases hone with hne | hne
  · apply hne
    simpa [Spelling.numeral, intSpelling, digitValues] using hfraction
  · apply hne
    simpa [Spelling.numeral, intSpelling] using hexponent

theorem magnitudeBits_injective (x y : Float) (hx : x.isFinite = true) (hy : y.isFinite = true)
    (h : (floatSpelling x).numeral.magnitude = (floatSpelling y).numeral.magnitude) :
    magnitudeBits x = magnitudeBits y := by
  rw [floatSpelling_magnitude, floatSpelling_magnitude] at h
  have hltx := magnitudeBits_lt x hx
  have hlty := magnitudeBits_lt y hy
  by_cases hzero : magnitudeBits x = 0
  · by_cases hzero' : magnitudeBits y = 0
    · rw [hzero, hzero']
    · have hpos := Binary.shortest_value_pos _ (Nat.pos_of_ne_zero hzero') hlty
      rw [if_pos hzero, if_neg hzero'] at h
      exact absurd h hpos.ne
  · have hpos := Binary.shortest_value_pos _ (Nat.pos_of_ne_zero hzero) hltx
    by_cases hzero' : magnitudeBits y = 0
    · rw [if_neg hzero, if_pos hzero'] at h
      exact absurd h hpos.ne'
    · rw [if_neg hzero, if_neg hzero'] at h
      exact Binary.shortest_value_injective _ _ (Nat.pos_of_ne_zero hzero) hltx
        (Nat.pos_of_ne_zero hzero') hlty h

theorem floatSpelling_injective (x y : Float) (hx : x.isFinite = true) (hy : y.isFinite = true)
    (h : (floatSpelling x).numeral = (floatSpelling y).numeral) : x = y := by
  have hsign : isNegative x = isNegative y := by
    rw [← floatSpelling_negative, ← floatSpelling_negative]
    exact congrArg Numeral.negative h
  have hsize := magnitudeBits_injective x y hx hy (congrArg Numeral.magnitude h)
  have hxbits : x.toBits.toNat < 0x1_0000_0000_0000_0000 := x.toBits.toNat_lt
  have hybits : y.toBits.toNat < 0x1_0000_0000_0000_0000 := y.toBits.toNat_lt
  rw [← Float.toBits_inj, ← UInt64.toNat_inj]
  unfold magnitudeBits at hsize
  simp only [isNegative, decide_eq_decide] at hsign
  omega

end NeighborBench.Json

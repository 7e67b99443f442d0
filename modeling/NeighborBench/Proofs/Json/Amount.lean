import Mathlib.Data.Nat.Digits.Defs
import NeighborBench.Json.Numeral

/-! # Which double a number is read as

A whole number that fits in 64 bits is rounded once. Of any other number the digits in front are
kept while they fit, and what is kept is rounded and brought to its place by one power of ten, or by
several where it has to come down far.
-/

namespace NeighborBench.Json

/-! ## Digits -/

/-- The value of a row of digits, the first of which counts most. -/
def decimal (digits : List Nat) : Nat := Nat.ofDigits 10 digits.reverse

@[simp] theorem decimal_nil : decimal [] = 0 := rfl

theorem decimal_cons (d : Nat) (digits : List Nat) :
    decimal (d :: digits) = decimal digits + 10 ^ digits.length * d :=
  Nat.ofDigits_reverse_cons digits d

theorem foldl_digits (digits : List Nat) (start : Nat) :
    digits.foldl (fun n d => n * 10 + d) start = start * 10 ^ digits.length + decimal digits := by
  induction digits generalizing start with
  | nil => simp
  | cons d digits ih =>
    rw [List.foldl_cons, ih, decimal_cons, List.length_cons, pow_succ]
    ring

theorem digitsValue_eq (digits : List Nat) : Decimal.digitsValue digits = decimal digits := by
  rw [Decimal.digitsValue, foldl_digits, Nat.zero_mul, Nat.zero_add]

/-- The digits that are kept behind a value, and those from the first that no longer fits. -/
structure Keeps (start : Nat) (kept left : List Nat) (value : Nat) : Prop where
  value_eq : value = start * 10 ^ kept.length + decimal kept
  fits : value < 2 ^ 64
  full : ∀ d ∈ left.head?, 2 ^ 64 ≤ value * 10 + d

theorem keeps_nil {start : Nat} {left : List Nat} (fits : start < 2 ^ 64)
    (full : ∀ d ∈ left.head?, 2 ^ 64 ≤ start * 10 + d) : Keeps start [] left start :=
  ⟨by simp, fits, full⟩

theorem keeps_cons_iff {start d value : Nat} {kept left : List Nat} :
    Keeps start (d :: kept) left value ↔ Keeps (start * 10 + d) kept left value := by
  have hvalue : start * 10 ^ (d :: kept).length + decimal (d :: kept) =
      (start * 10 + d) * 10 ^ kept.length + decimal kept := by
    rw [decimal_cons, List.length_cons, pow_succ]
    ring
  constructor
  · rintro ⟨value_eq, fits, full⟩
    exact ⟨value_eq.trans hvalue, fits, full⟩
  · rintro ⟨value_eq, fits, full⟩
    exact ⟨value_eq.trans hvalue.symm, fits, full⟩

theorem Keeps.start_lt {start value : Nat} {kept left : List Nat} (h : Keeps start kept left value) :
    start < 2 ^ 64 := by
  have hle : start ≤ start * 10 ^ kept.length := Nat.le_mul_of_pos_right _ (by positivity)
  have hvalue := h.value_eq
  have hfits := h.fits
  omega

theorem exists_keeps (digits : List Nat) {start : Nat} (fits : start < 2 ^ 64) :
    ∃ kept left value, digits = kept ++ left ∧ Keeps start kept left value := by
  induction digits generalizing start with
  | nil => exact ⟨[], [], start, rfl, keeps_nil fits nofun⟩
  | cons d digits ih =>
    by_cases hd : start * 10 + d < 2 ^ 64
    · obtain ⟨kept, left, value, rfl, keeps⟩ := ih hd
      exact ⟨d :: kept, left, value, rfl, keeps_cons_iff.mpr keeps⟩
    · refine ⟨[], d :: digits, start, rfl, keeps_nil fits ?_⟩
      rintro _ ⟨⟩
      exact Nat.le_of_not_lt hd

theorem Keeps.gather {start value : Nat} {kept left : List Nat} (h : Keeps start kept left value) :
    gather start (kept ++ left) = (value, kept.length) := by
  induction kept generalizing start with
  | nil =>
    obtain rfl : value = start := by simpa using h.value_eq
    cases left with
    | nil => rfl
    | cons d left =>
      have hfull := h.full d rfl
      rw [List.nil_append, Json.gather, if_neg (by omega)]
      rfl
  | cons d kept ih =>
    have hrest := keeps_cons_iff.mp h
    have hfits := hrest.start_lt
    rw [List.cons_append, Json.gather, if_pos (by omega), ih hrest]
    rfl

theorem Keeps.left_eq_nil_iff {value : Nat} {kept left : List Nat} (h : Keeps 0 kept left value) :
    left = [] ↔ decimal (kept ++ left) < 2 ^ 64 := by
  obtain ⟨rfl, fits, full⟩ := h
  rw [Nat.zero_mul, Nat.zero_add] at fits full
  cases left with
  | nil => simpa using fits
  | cons d left =>
    -- The first digit that is left already makes the value too large.
    have hfull := full d rfl
    have htotal : (decimal kept * 10 + d) * 10 ^ left.length + decimal left =
        decimal (kept ++ d :: left) := by
      rw [← foldl_digits, ← digitsValue_eq, ← digitsValue_eq]
      simp only [Decimal.digitsValue, List.foldl_append, List.foldl_cons]
    have hle : decimal kept * 10 + d ≤ (decimal kept * 10 + d) * 10 ^ left.length :=
      Nat.le_mul_of_pos_right _ (by positivity)
    simp only [reduceCtorEq, false_iff, Nat.not_lt]
    omega

/-! ## Powers of ten -/

/-- A double times a power of ten. The power is a double itself, so one below all of these is reached
in several steps. -/
inductive Scales : Float → Int → Float → Prop where
  | up {x : Float} {e : Nat} (le : e ≤ 308)
      (finite : (x * Float.ofScientific 1 false e).isInf = false) :
      Scales x e (x * Float.ofScientific 1 false e)
  | down {x : Float} {e : Nat} (pos : 0 < e) (le : e ≤ 308) :
      Scales x (-e) (x / Float.ofScientific 1 false e)
  | zero {x : Float} {e : Int} (far : 308 < e.natAbs) (zero : (x == 0) = true) : Scales x e x
  | further {x y : Float} {e : Int} (far : e < -308) (nonzero : (x == 0) = false)
      (h : Scales (x / Float.ofScientific 1 false 308) (e + 308) y) : Scales x e y

theorem scale_sound {x y : Float} {e : Int} (h : scale x e = some y) : Scales x e y := by
  fun_induction scale x e with
  | case1 => cases h
  | case2 x e hpos hle y' hfinite =>
    rw [← Option.some.inj h]
    obtain ⟨n, rfl⟩ := Int.eq_ofNat_of_zero_le hpos
    exact .up (by omega) (Bool.eq_false_iff.mpr hfinite)
  | case3 x e hpos hfar hzero =>
    cases h
    exact .zero (by omega) hzero
  | case4 => cases h
  | case5 x e hneg hle =>
    cases h
    obtain ⟨n, rfl⟩ := Int.eq_negSucc_of_lt_zero (Int.not_le.mp hneg)
    exact .down (Nat.succ_pos n) (by omega)
  | case6 x e hneg hfar hzero =>
    cases h
    exact .zero (by omega) hzero
  | case7 x e hneg hfar hnonzero ih => exact .further (by omega) (Bool.eq_false_iff.mpr hnonzero) (ih h)

theorem Scales.scale {x y : Float} {e : Int} (h : Scales x e y) : scale x e = some y := by
  induction h with
  | @up x e le finite =>
    rw [Json.scale, if_pos (by omega), if_pos (by omega)]
    simp [powerOfTen, finite]
  | @down x e pos le =>
    rw [Json.scale, if_neg (by omega), if_pos (by omega)]
    simp [powerOfTen]
  | @zero x e far zero =>
    rw [Json.scale]
    simp only [zero, if_true]
    split
    · exact if_neg (by omega)
    · exact if_neg (by omega)
  | @further x y e far nonzero h ih =>
    rw [Json.scale, if_neg (by omega), if_neg (by omega), nonzero]
    exact ih

/-! ## Numbers -/

namespace Numeral

/-- A whole number that fits in 64 bits. -/
structure IsShort (n : Numeral) : Prop where
  fraction : n.fraction = []
  exponent : n.exponent = none
  fits : decimal n.whole < 2 ^ 64

/-- The value of the digits that are kept, and the power of ten that the others leave it short of.
Digits behind the point follow those in front of it, also where some of these were left out. -/
inductive Gathers (n : Numeral) : Nat → Int → Prop where
  | mk {front skipped behind passed : List Nat} {whole value : Nat}
      (whole_eq : n.whole = front ++ skipped) (fraction_eq : n.fraction = behind ++ passed)
      (begins : Keeps 0 front skipped whole) (goesOn : Keeps whole behind passed value) :
      Gathers n value (skipped.length - behind.length)

/-- The power of ten that an exponent of at most 31 bits stands for. -/
inductive Power (n : Numeral) : Int → Prop where
  | none (h : n.exponent = none) : Power n 0
  | up {ds : List Nat} (h : n.exponent = some (false, ds)) (le : decimal ds < 2 ^ 31) :
      Power n (decimal ds)
  | down {ds : List Nat} (h : n.exponent = some (true, ds)) (le : decimal ds < 2 ^ 31) :
      Power n (-decimal ds)

/-- The doubles that numbers are read as. An exponent of more than 31 bits is not looked at: the number
is zero, or it is too large. -/
inductive Means (n : Numeral) : Float → Prop where
  | short (h : n.IsShort) :
      Means n (if n.negative then -Float.ofNat (decimal n.whole) else Float.ofNat (decimal n.whole))
  | scaled {value : Nat} {places power : Int} {x : Float} (long : ¬n.IsShort)
      (gathers : n.Gathers value places) (hpower : n.Power power)
      (scales : Scales (.ofNat value) (places + power) x) :
      Means n (if n.negative then -x else x)
  | vanishes {value : Nat} {places : Int} {below : Bool} {ds : List Nat}
      (gathers : n.Gathers value places) (h : n.exponent = some (below, ds))
      (far : 2 ^ 31 ≤ decimal ds) (small : value = 0 ∨ below = true) :
      Means n (if n.negative then -0 else 0)

theorem Gathers.eq_gather {n : Numeral} {value : Nat} {places : Int} (h : n.Gathers value places) :
    ∃ whole taken count, gather 0 n.whole = (whole, taken) ∧ gather whole n.fraction = (value, count) ∧
      places = ((n.whole.length - taken : Nat) : Int) - count ∧
      (n.whole.length - taken = 0 ↔ decimal n.whole < 2 ^ 64) := by
  obtain @⟨front, skipped, behind, passed, whole, value, whole_eq, fraction_eq, begins, goesOn⟩ := h
  refine ⟨whole, front.length, behind.length, ?_, ?_, ?_, ?_⟩
  · rw [whole_eq, begins.gather]
  · rw [fraction_eq, goesOn.gather]
  · rw [whole_eq, List.length_append, Nat.add_sub_cancel_left]
  · rw [whole_eq, List.length_append, Nat.add_sub_cancel_left, ← begins.left_eq_nil_iff,
      List.length_eq_zero_iff]

theorem ofInt_neg {n : Nat} (h : n ≠ 0) : Float.ofInt (-(n : Int)) = -Float.ofNat n := by
  cases n with
  | zero => exact absurd rfl h
  | succ n => rfl

theorem IsShort.asFloat? {n : Numeral} (h : n.IsShort) :
    n.asFloat? = some (n.signed (.ofNat (decimal n.whole))) := by
  -- The sign of a zero is kept, and no whole number is rounded twice.
  obtain ⟨hfraction, hexponent, hfits⟩ := h
  have hkeeps : Keeps 0 n.whole [] (decimal n.whole) := ⟨by simp, hfits, nofun⟩
  have hgather := hkeeps.gather
  rw [List.append_nil] at hgather
  have hvalue : n.value? = if !n.negative then some (.int (decimal n.whole))
      else if decimal n.whole = 0 || 0x8000_0000_0000_0000 < decimal n.whole
        then some (.float (-Float.ofNat (decimal n.whole)))
      else some (.int (-(decimal n.whole : Int))) := by
    simp [value?, hgather, hfraction, hexponent]
  unfold Numeral.asFloat? signed
  rw [hvalue]
  cases n.negative with
  | false => rfl
  | true =>
    simp only [Bool.not_true, Bool.false_eq_true, if_false, if_true, Bool.or_eq_true,
      decide_eq_true_eq]
    by_cases hsize : decimal n.whole = 0 ∨ 0x8000_0000_0000_0000 < decimal n.whole
    · rw [if_pos hsize]
    · rw [if_neg hsize]
      simp only [ofInt_neg (not_or.mp hsize).1]

theorem exists_gathers (n : Numeral) : ∃ value places, n.Gathers value places := by
  obtain ⟨front, skipped, whole, hwhole, begins⟩ := exists_keeps n.whole (Nat.two_pow_pos 64)
  obtain ⟨behind, passed, value, hfraction, goesOn⟩ := exists_keeps n.fraction begins.fits
  exact ⟨value, _, .mk hwhole hfraction begins goesOn⟩

theorem exponentLimit_lt_iff (n : Nat) : exponentLimit < n ↔ 2 ^ 31 ≤ n := Iff.rfl

theorem exists_power_or_far (n : Numeral) :
    (∃ e, n.Power e) ∨ ∃ below ds, n.exponent = some (below, ds) ∧ 2 ^ 31 ≤ decimal ds := by
  rcases hexponent : n.exponent with _ | ⟨below, ds⟩
  · exact .inl ⟨0, .none hexponent⟩
  rcases Nat.lt_or_ge (decimal ds) (2 ^ 31) with hle | hfar
  · cases below with
    | false => exact .inl ⟨_, .up hexponent hle⟩
    | true => exact .inl ⟨_, .down hexponent hle⟩
  · exact .inr ⟨below, ds, rfl, hfar⟩

theorem isShort_iff {n : Numeral} {taken : Nat}
    (hfits : n.whole.length - taken = 0 ↔ decimal n.whole < 2 ^ 64) :
    (n.fraction.isEmpty && n.exponent.isNone && n.whole.length - taken = 0) = true ↔ n.IsShort := by
  simp only [Bool.and_eq_true, List.isEmpty_iff, Option.isNone_iff_eq_none, decide_eq_true_eq, hfits]
  exact ⟨fun ⟨⟨h, h'⟩, h''⟩ => ⟨h, h', h''⟩, fun ⟨h, h', h''⟩ => ⟨⟨h, h'⟩, h''⟩⟩

theorem Gathers.asFloat?_of_power {n : Numeral} {value : Nat} {places e : Int}
    (h : n.Gathers value places) (long : ¬n.IsShort) (power : n.Power e) :
    n.asFloat? = (scale (.ofNat value) (places + e)).map n.signed := by
  obtain ⟨whole, taken, count, hwhole, hfraction, rfl, hfits⟩ := h.eq_gather
  have hlong := mt (isShort_iff hfits).mp long
  unfold Numeral.asFloat? value?
  simp only [hwhole, hfraction]
  rw [if_neg hlong]
  cases power with
  | none h =>
    simp only [h, Int.add_zero]
    cases scale _ _ <;> rfl
  | @up ds h le =>
    have hle : ¬exponentLimit < decimal ds := by simpa [exponentLimit_lt_iff] using le
    simp only [h, hle, Bool.false_eq_true, if_false, digitsValue_eq]
    cases scale _ _ <;> rfl
  | @down ds h le =>
    have hle : ¬exponentLimit < decimal ds := by simpa [exponentLimit_lt_iff] using le
    simp only [h, hle, if_true, if_false, digitsValue_eq, ← Int.sub_eq_add_neg]
    cases scale _ _ <;> rfl

theorem Gathers.asFloat?_of_far {n : Numeral} {value : Nat} {places : Int} {below : Bool}
    {ds : List Nat} (h : n.Gathers value places) (hexponent : n.exponent = some (below, ds))
    (far : 2 ^ 31 ≤ decimal ds) (x : Float) :
    n.asFloat? = some x ↔ (value = 0 ∨ below = true) ∧ n.signed 0 = x := by
  obtain ⟨whole, taken, count, hwhole, hfraction, rfl, hfits⟩ := h.eq_gather
  have hlong := mt (isShort_iff hfits).mp fun short => by simp [short.exponent] at hexponent
  have hfar := (exponentLimit_lt_iff (decimal ds)).mpr far
  unfold Numeral.asFloat? value?
  simp only [hwhole, hfraction]
  rw [if_neg hlong]
  simp only [hexponent, digitsValue_eq, hfar, if_true]
  cases below with
  | true => simp [signed]
  | false =>
    by_cases hvalue : value = 0
    · simp [hvalue, signed]
    · simp [hvalue]

/-- The double that a number is read as, if there is one. -/
theorem asFloat?_eq_some_iff (n : Numeral) (x : Float) : n.asFloat? = some x ↔ n.Means x := by
  obtain ⟨value, places, hgathers⟩ := n.exists_gathers
  constructor
  · intro h
    by_cases hshort : n.IsShort
    · rw [hshort.asFloat?] at h
      cases h
      exact .short hshort
    rcases n.exists_power_or_far with ⟨e, hpower⟩ | ⟨below, ds, hexponent, hfar⟩
    · rw [hgathers.asFloat?_of_power hshort hpower] at h
      obtain ⟨y, hscale, rfl⟩ := Option.map_eq_some_iff.mp h
      exact .scaled hshort hgathers hpower (scale_sound hscale)
    · obtain ⟨hsmall, rfl⟩ := (hgathers.asFloat?_of_far hexponent hfar x).mp h
      exact .vanishes hgathers hexponent hfar hsmall
  · intro h
    cases h with
    | short h => exact h.asFloat?
    | scaled long gathers power scales =>
      rw [gathers.asFloat?_of_power long power, scales.scale, Option.map_some, signed]
    | vanishes gathers h far small => exact (gathers.asFloat?_of_far h far _).mpr ⟨small, rfl⟩

end Numeral

end NeighborBench.Json

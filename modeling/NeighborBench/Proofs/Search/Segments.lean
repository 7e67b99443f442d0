import Mathlib
import NeighborBench.Proofs.Text.Percent
import NeighborBench.Search.Url

-- No part of Mathlib alone brings the lemmas on letters in lower case.

/-! # Segments of paths

A path is split at its slashes, and then dots are resolved. So a segment that is left is a piece of the
text without slashes, written with escapes that stand for the same bytes, or it is empty.
-/

namespace NeighborBench

open Text (HasEscape percentDecoded)

/-! ## Small and large letters -/

namespace Text

theorem eq_of_toLower_eq {c mark : Char} (hmark : mark.isAlpha = false) (h : c.toLower = mark) :
    c = mark := by
  have hletter : c.isAlpha = false := by rwa [← Char.isAlpha_toLower_eq_isAlpha, h]
  rw [← h, Char.toLower_eq_of_not_isUpper]
  simp only [Char.isAlpha, Bool.or_eq_false_iff] at hletter
  simp [hletter.1]

theorem forall_ascii {P : Char → Prop} (h : ∀ n < 128, P (Char.ofNat n)) (c : Char)
    (hc : c.toNat < 128) : P c := by
  have hn := h c.toNat hc
  rwa [Char.ofNat_toNat] at hn

theorem digitValue?_toLower (c : Char) : digitValue? 16 c.toLower = digitValue? 16 c := by
  by_cases hc : c.isUpper = true
  · simp only [Char.isUpper, decide_eq_true_eq] at hc
    have hhigh : c.toNat ≤ 90 := hc.2
    exact forall_ascii (P := fun c => digitValue? 16 c.toLower = digitValue? 16 c)
      (by decide +kernel) c (by omega)
  · rw [Char.toLower_eq_of_not_isUpper hc]

theorem toNat_of_digitValue? {c : Char} (h : (digitValue? 16 c).isSome = true) : c.toNat < 128 := by
  by_contra hc
  have hlarge : ∀ d : Char, d.toNat < 128 → ¬c ≤ d := fun d hd hle => by
    have hle : c.toNat ≤ d.toNat := hle
    omega
  unfold digitValue? at h
  simp [hlarge '9' (by decide), hlarge 'f' (by decide), hlarge 'F' (by decide)] at h

theorem HasEscape.of_toLower {text : List Char} (h : HasEscape (text.map Char.toLower)) :
    HasEscape text := by
  obtain ⟨_, _, htext, a, b, more, byte, rfl, hbyte⟩ := h
  obtain ⟨before, rest, rfl, -, hrest⟩ := List.map_eq_append_iff.mp htext
  obtain ⟨percent, digits, rfl, hpercent, hdigits⟩ := List.map_eq_cons_iff.mp hrest
  obtain ⟨high, digits, rfl, rfl, hlow⟩ := List.map_eq_cons_iff.mp hdigits
  obtain ⟨low, more, rfl, rfl, -⟩ := List.map_eq_cons_iff.mp hlow
  obtain rfl := eq_of_toLower_eq (by decide) hpercent
  refine ⟨before, _, rfl, high, low, more, byte, rfl, ?_⟩
  simpa [hexByte?, digitsValue?, digitValue?_toLower] using hbyte

end Text

namespace Url

/-! ## Dots -/

/-- A segment that names the same place or the next higher one. -/
def IsDots (segment : List Char) : Prop := isDot segment = true ∨ isDoubleDot segment = true

instance (segment : List Char) : Decidable (IsDots segment) := inferInstanceAs (Decidable (_ ∨ _))

theorem toLower_eq_iff (segment : List Char) (s : String) :
    (String.ofList segment).toLower = s ↔ segment.map Char.toLower = s.toList := by
  rw [← String.toList_inj, String.toLower, String.toList_map, String.toList_ofList]

theorem IsDots.eq_or_hasEscape {segment : List Char} (h : IsDots segment) :
    segment = ['.'] ∨ segment = ['.', '.'] ∨ HasEscape segment := by
  have hescape : ∀ before rest, segment.map Char.toLower = before ++ '%' :: '2' :: 'e' :: rest →
      HasEscape segment := by
    intro before rest hlower
    apply HasEscape.of_toLower
    rw [hlower]
    exact ⟨before, _, rfl, '2', 'e', rest, 0x2E, rfl, by decide⟩
  simp only [IsDots, isDot, isDoubleDot, List.contains_cons, List.contains_nil, Bool.or_false,
    Bool.or_eq_true, beq_iff_eq, toLower_eq_iff] at h
  have hdot : ∀ {c : Char}, c.toLower = '.' → c = '.' := Text.eq_of_toLower_eq (by decide)
  rcases h with (h | h) | h | h | h | h
  · obtain ⟨c, rfl, hc⟩ := List.map_eq_singleton_iff.mp h
    obtain rfl := hdot hc
    exact .inl rfl
  · exact .inr (.inr (hescape [] [] h))
  · obtain ⟨c, more, rfl, hc, hmore⟩ := List.map_eq_cons_iff.mp h
    obtain ⟨d, rfl, hd⟩ := List.map_eq_singleton_iff.mp hmore
    obtain rfl := hdot hc
    obtain rfl := hdot hd
    exact .inr (.inl rfl)
  · exact .inr (.inr (hescape ['.'] [] h))
  · exact .inr (.inr (hescape [] ['.'] h))
  · exact .inr (.inr (hescape [] ['%', '2', 'e'] h))

/-! ## Pieces between slashes -/

theorem splitSlashes_eq (text : List Char) : splitSlashes text = text.splitOnP isSlash := by
  induction text with
  | nil => rfl
  | cons c rest ih =>
    obtain ⟨first, more, hrest⟩ := List.exists_cons_of_ne_nil (List.splitOnP_ne_nil isSlash rest)
    rw [List.splitOnP_cons_eq_if_modifyHead, splitSlashes, ih, hrest]
    rfl

theorem splitSlashes_ne_nil (text : List Char) : splitSlashes text ≠ [] := by
  rw [splitSlashes_eq]
  exact List.splitOnP_ne_nil _ _

theorem splitSlashes_slash (text more : List Char) :
    splitSlashes (text ++ '/' :: more) = splitSlashes text ++ splitSlashes more := by
  simp only [splitSlashes_eq]
  exact List.splitOnP_append_cons text more rfl

theorem splitSlashes_plain {text : List Char} (h : ∀ c ∈ text, isSlash c = false) :
    splitSlashes text = [text] := by
  rw [splitSlashes_eq]
  exact List.splitOnP_eq_singleton h

theorem mem_splitSlashes {text piece : List Char} (h : piece ∈ splitSlashes text) :
    piece.Sublist text ∧ ∀ c ∈ piece, isSlash c = false := by
  induction text generalizing piece with
  | nil =>
    rw [splitSlashes, List.mem_singleton] at h
    subst h
    simp
  | cons c rest ih =>
    obtain ⟨first, more, hrest⟩ := List.exists_cons_of_ne_nil (splitSlashes_ne_nil rest)
    rw [splitSlashes] at h
    split at h
    · rcases List.mem_cons.mp h with rfl | hpiece
      · simp
      · exact (ih hpiece).imp_left (List.Sublist.cons c)
    · next hslash =>
      rw [hrest] at h ih
      rcases List.mem_cons.mp h with rfl | hpiece
      · obtain ⟨hsub, hfirst⟩ := ih (List.mem_cons_self ..)
        rw [Bool.not_eq_true] at hslash
        exact ⟨hsub.cons_cons c, List.forall_mem_cons.mpr ⟨hslash, hfirst⟩⟩
      · exact (ih (List.mem_cons_of_mem _ hpiece)).imp_left (List.Sublist.cons c)

/-! ## Dots that are resolved -/

theorem resolved_cons {above : List String} {segment : List Char} {rest : List (List Char)}
    (h : ¬IsDots segment) :
    resolved above (segment :: rest) = resolved (pathText segment :: above) rest := by
  simp only [IsDots, not_or, Bool.not_eq_true] at h
  rw [resolved, h.1, h.2]
  rfl

theorem mem_resolved {above : List String} {pieces : List (List Char)} {segment : String}
    (h : segment ∈ resolved above pieces) :
    segment ∈ above ∨ segment = "" ∨ ∃ piece ∈ pieces, ¬IsDots piece ∧ segment = pathText piece := by
  -- Dots at the end leave an empty segment. Every other segment is a piece.
  induction pieces generalizing above with
  | nil => exact .inl (List.mem_reverse.mp h)
  | cons piece rest ih =>
    have hlater : (∃ later ∈ rest, ¬IsDots later ∧ segment = pathText later) →
        ∃ later ∈ piece :: rest, ¬IsDots later ∧ segment = pathText later := by
      rintro ⟨later, hmem, hplain⟩
      exact ⟨later, List.mem_cons_of_mem _ hmem, hplain⟩
    rw [resolved] at h
    split at h
    · split at h
      · rcases List.mem_cons.mp (List.mem_reverse.mp h) with hempty | habove
        · exact .inr (.inl hempty)
        · exact .inl (List.mem_of_mem_drop habove)
      · exact (ih h).imp List.mem_of_mem_drop (Or.imp_right hlater)
    · next hdouble =>
      split at h
      · split at h
        · rcases List.mem_cons.mp (List.mem_reverse.mp h) with hempty | habove
          · exact .inr (.inl hempty)
          · exact .inl habove
        · exact (ih h).imp_right (Or.imp_right hlater)
      · next hdot =>
        rcases ih h with hmem | hmore
        · rcases List.mem_cons.mp hmem with hpiece | habove
          · exact .inr (.inr ⟨piece, List.mem_cons_self .., not_or.mpr ⟨hdot, hdouble⟩, hpiece⟩)
          · exact .inl habove
        · exact .inr (hmore.imp_right hlater)

theorem percentDecoded_pathText (segment : List Char) :
    percentDecoded (pathText segment).toList = percentDecoded segment := by
  rw [pathText, String.toList_ofList]
  apply Text.percentDecoded_encodeUnless (by decide)
  intro c hc
  exact Text.forall_ascii (P := fun c => (Text.digitValue? 16 c).isSome = true → _ = true)
    (by decide +kernel) c (Text.toNat_of_digitValue? hc) hc

end Url

end NeighborBench

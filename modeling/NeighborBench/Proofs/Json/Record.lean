import Mathlib.Data.List.Nodup
import NeighborBench.Json.Tree
import NeighborBench.Proofs.Keyed
import NeighborBench.Proofs.Success

/-! # Records read from trees

A record is an object, of which other fields are passed over, or an array of the fields in order.
-/

namespace NeighborBench.Json.Tree

/-- Every key of an object has to be a text, and none of the names may come twice. An array may lack
fields at its end. -/
inductive IsRecord (names : List String) : Tree → Prop where
  | object {fields : List (Option String × Tree)} (texts : ∀ f ∈ fields, f.1.isSome)
      (once : ∀ name ∈ names, fields.countP (·.1 = some name) ≤ 1) : IsRecord names (.object fields)
  | array {items : List Tree} (few : items.length ≤ names.length) : IsRecord names (.array items)

/-- The tree of a field: in an object under its name, in an array at its place. -/
inductive HasField (names : List String) (name : String) : Tree → Tree → Prop where
  | object {fields : List (Option String × Tree)} {value : Tree} (mem : (some name, value) ∈ fields) :
      HasField names name (.object fields) value
  | array {items : List Tree} {value : Tree} (i : Nat) (place : names[i]? = some name)
      (item : items[i]? = some value) : HasField names name (.array items) value

/-! ## Objects -/

section

variable (names : List String) (keyed : List (String × Tree))

/-- Fields whose keys are texts. -/
def keyedFields : List (Option String × Tree) := keyed.map fun field => (some field.1, field.2)

theorem mapM_key_eq_some_iff (fields : List (Option String × Tree)) :
    (fields.mapM fun (key, tree) => key.map fun k => (k, tree)) = some keyed ↔
      fields = keyedFields keyed := by
  rw [mapM_eq_some_iff]
  constructor
  · intro h
    induction h with
    | nil => rfl
    | @cons field entry fields keyed hfield _ ih =>
      obtain ⟨key, hkey, rfl⟩ := Option.map_eq_some_iff.mp hfield
      rw [ih]
      exact congrArg (· :: _) (Prod.ext hkey rfl)
  · rintro rfl
    induction keyed with
    | nil => exact .nil
    | cons entry keyed ih => exact .cons rfl ih

/-- The fields that have one of the names. -/
def known : List (String × Tree) := keyed.filter fun field => names.contains field.1

theorem nodup_known_iff :
    (Keyed.keys (known names keyed)).Nodup ↔
      ∀ name ∈ names, (keyedFields keyed).countP (·.1 = some name) ≤ 1 := by
  have hkeys : Keyed.keys (known names keyed) = (Keyed.keys keyed).filter names.contains := by
    rw [Keyed.keys, Keyed.keys, known, List.filter_map]
    rfl
  have hcount : ∀ name, (keyedFields keyed).countP (·.1 = some name) =
      (Keyed.keys keyed).count name := by
    intro name
    rw [keyedFields, List.countP_map, Keyed.keys, List.count, List.countP_map]
    congr 1
    funext field
    rw [Bool.eq_iff_iff]
    simp
  rw [List.nodup_iff_count_le_one, hkeys]
  simp only [hcount]
  constructor
  · intro h name hname
    have := h name
    rwa [List.count_filter (by simpa using hname)] at this
  · intro h name
    by_cases hname : name ∈ names
    · rw [List.count_filter (by simpa using hname)]
      exact h name hname
    · rw [List.count_eq_zero_of_not_mem (by simp [hname])]
      omega

theorem get?_known {name : String} (hname : name ∈ names)
    (distinct : (Keyed.keys (known names keyed)).Nodup) (value : Tree) :
    Keyed.get? name (known names keyed) = some value ↔
      HasField names name (.object (keyedFields keyed)) value := by
  constructor
  · intro h
    have hmem := Keyed.mem_of_get? name value _ h
    exact .object (List.mem_map_of_mem (f := fun field => (some field.1, field.2))
      (List.mem_of_mem_filter hmem))
  · rintro ⟨hmem⟩
    obtain ⟨field, hfield, heq⟩ := List.mem_map.mp hmem
    obtain ⟨rfl, rfl⟩ : field.1 = name ∧ field.2 = value := by simpa using heq
    apply Keyed.get?_of_mem _ _ _ distinct
    exact List.mem_filter.mpr ⟨hfield, by simpa using hname⟩

theorem isRecord_keyed_iff :
    IsRecord names (.object (keyedFields keyed)) ↔ (Keyed.keys (known names keyed)).Nodup := by
  rw [nodup_known_iff]
  constructor
  · rintro ⟨-, once⟩
    exact once
  · intro once
    refine .object ?_ once
    intro f hf
    obtain ⟨field, -, rfl⟩ := List.mem_map.mp hf
    rfl

theorem record?_keyed :
    record? names (.object (keyedFields keyed)) =
      if (Keyed.keys (known names keyed)).Nodup then
        some (names.map fun name => Keyed.get? name (known names keyed))
      else none := by
  have hkeyed := (mapM_key_eq_some_iff keyed (keyedFields keyed)).mpr rfl
  have hlength : (known names keyed).length = (Keyed.keys (known names keyed)).length := by
    rw [Keyed.keys, List.length_map]
  simp only [← length_eraseDups_eq_iff, ← hlength]
  unfold record?
  simp only [hkeyed, bind, Option.bind]
  rfl

end

/-! ## Records -/

/-- What stands in the fields of a record, one for each name. -/
def Fills (names : List String) (tree : Tree) (found : List (Option Tree)) : Prop :=
  List.Forall₂ (fun name value? => ∀ value, value? = some value ↔ HasField names name tree value)
    names found

theorem hasField_array_iff {names : List String} (nodup : names.Nodup) {items : List Tree}
    {value : Tree} (i : Nat) (hi : i < names.length) :
    HasField names names[i] (.array items) value ↔ items[i]? = some value := by
  -- A name stands at one place, so an array has one item for it at most.
  constructor
  · rintro (_ | ⟨j, place, item⟩)
    obtain ⟨hj, heq⟩ := List.getElem?_eq_some_iff.mp place
    rwa [(nodup.getElem_inj_iff).mp heq] at item
  · intro item
    exact .array i (List.getElem?_eq_getElem hi) item

theorem fills_array {names : List String} (nodup : names.Nodup) {items : List Tree}
    (few : items.length ≤ names.length) :
    Fills names (.array items)
      (items.map some ++ List.replicate (names.length - items.length) none) := by
  refine List.forall₂_iff_get.mpr ⟨?_, ?_⟩
  · rw [List.length_append, List.length_map, List.length_replicate]
    omega
  · intro i hi hfound value
    simp only [List.get_eq_getElem]
    rw [hasField_array_iff nodup i hi, List.getElem_append]
    -- A short array lacks the fields behind its end.
    split
    · next hshort =>
      rw [List.length_map] at hshort
      simp [List.getElem?_eq_getElem hshort]
    · next hlong =>
      rw [List.length_map] at hlong
      simp [List.getElem?_eq_none (Nat.not_lt.mp hlong)]

theorem fills_keyed (names : List String) (keyed : List (String × Tree))
    (distinct : (Keyed.keys (known names keyed)).Nodup) :
    Fills names (.object (keyedFields keyed))
      (names.map fun name => Keyed.get? name (known names keyed)) := by
  apply List.forall₂_map_right_iff.mpr
  apply List.forall₂_same.mpr
  intro name hname value
  exact get?_known names keyed hname distinct value

theorem exists_keyed {fields : List (Option String × Tree)} (texts : ∀ f ∈ fields, f.1.isSome) :
    ∃ keyed, fields = keyedFields keyed := by
  induction fields with
  | nil => exact ⟨[], rfl⟩
  | cons field fields ih =>
    obtain ⟨htext, hothers⟩ := List.forall_mem_cons.mp texts
    obtain ⟨key, hkey⟩ := Option.isSome_iff_exists.mp htext
    obtain ⟨keyed, rfl⟩ := ih hothers
    exact ⟨(key, field.2) :: keyed, congrArg (· :: _) (Prod.ext hkey rfl)⟩

theorem IsRecord.read {names : List String} {tree : Tree} (record : IsRecord names tree) :
    ∃ found, record? names tree = some found := by
  cases record with
  | array few => exact ⟨_, if_pos few⟩
  | object texts once =>
    obtain ⟨keyed, rfl⟩ := exists_keyed texts
    have distinct := (isRecord_keyed_iff names keyed).mp (.object texts once)
    exact ⟨_, by rw [record?_keyed, if_pos distinct]⟩

theorem record?_sound {names : List String} (nodup : names.Nodup) {tree : Tree}
    {found : List (Option Tree)} (h : record? names tree = some found) :
    IsRecord names tree ∧ Fills names tree found := by
  cases tree with
  | array items =>
    rw [record?] at h
    split at h
    · next few =>
      cases h
      exact ⟨.array few, fills_array nodup few⟩
    · cases h
  | object fields =>
    obtain ⟨keyed, hkeyed, -⟩ := Option.bind_eq_some_iff.mp h
    rw [(mapM_key_eq_some_iff keyed fields).mp hkeyed] at h ⊢
    rw [record?_keyed] at h
    split at h
    · next distinct =>
      cases h
      exact ⟨(isRecord_keyed_iff names keyed).mpr distinct, fills_keyed names keyed distinct⟩
    · cases h
  | null | bool | number | string => cases h

/-! ## Records of one field -/

theorem record?_one_sound {name : String} {tree : Tree} {found : List (Option Tree)}
    (h : record? [name] tree = some found) :
    IsRecord [name] tree ∧ ∃ value?, found = [value?] ∧
      ∀ value, value? = some value ↔ HasField [name] name tree value := by
  obtain ⟨record, fills⟩ := record?_sound (List.nodup_singleton name) h
  obtain _ | ⟨hvalue, _ | _⟩ := fills
  exact ⟨record, _, rfl, hvalue⟩

theorem IsRecord.read_one {name : String} {tree : Tree} (record : IsRecord [name] tree) :
    ∃ value?, record? [name] tree = some [value?] ∧
      ∀ value, value? = some value ↔ HasField [name] name tree value := by
  obtain ⟨found, hfound⟩ := record.read
  obtain ⟨-, value?, rfl, hvalue⟩ := record?_one_sound hfound
  exact ⟨value?, hfound, hvalue⟩

end NeighborBench.Json.Tree

import Mathlib.Data.List.Induction
import Mathlib.Data.List.Perm.Subperm
import Mathlib.Data.String.Basic
import NeighborBench.Keyed

/-! # Keys that stand once

A list without repeats is what is left when repeats are taken out. Where each key stands once, looking
it up finds what stands there. Keys that are put in where they belong stay in strictly increasing
order, and so they stand once.
-/

namespace NeighborBench

/-! ## Lists without repeats -/

theorem nodup_eraseDups {α : Type _} [BEq α] [LawfulBEq α] (xs : List α) : xs.eraseDups.Nodup := by
  match xs with
  | [] => exact List.nodup_nil
  | x :: rest =>
    rw [List.eraseDups_cons]
    apply List.nodup_cons.mpr
    constructor
    · intro hmem
      have hkept := List.mem_eraseDups.mp hmem
      simp at hkept
    · exact nodup_eraseDups (rest.filter fun other => !other == x)
termination_by xs.length
decreasing_by
  exact Nat.lt_succ_of_le (List.length_filter_le _ _)

theorem length_eraseDups_eq_iff {α : Type _} [BEq α] [LawfulBEq α] (xs : List α) :
    xs.eraseDups.length = xs.length ↔ xs.Nodup := by
  constructor
  · intro hlength
    have hsub : List.Subperm xs.eraseDups xs :=
      List.subperm_of_subset (nodup_eraseDups xs) fun _ => List.mem_eraseDups.mp
    exact (hsub.perm_of_length_le hlength.ge).nodup_iff.mp (nodup_eraseDups xs)
  · intro hnodup
    have hperm := (List.perm_ext_iff_of_nodup (nodup_eraseDups xs) hnodup).mpr fun _ =>
      List.mem_eraseDups
    exact hperm.length_eq

namespace Keyed

variable {α : Type _}

/-! ## Looking up -/

theorem get?_of_mem (key : String) (value : α) (entries : List (String × α))
    (distinct : (keys entries).Nodup) (h : (key, value) ∈ entries) :
    get? key entries = some value := by
  induction entries with
  | nil => cases h
  | cons entry rest ih =>
    obtain ⟨k, v⟩ := entry
    simp only [keys, List.map_cons, List.nodup_cons] at distinct
    rcases List.mem_cons.mp h with h | h
    · cases h
      simp [get?]
    · have hne : k ≠ key := by
        rintro rfl
        exact distinct.1 (List.mem_map_of_mem (f := (·.1)) h)
      rw [get?, if_neg hne]
      exact ih distinct.2 h

theorem mem_of_get? (key : String) (value : α) (entries : List (String × α))
    (h : get? key entries = some value) : (key, value) ∈ entries := by
  induction entries with
  | nil => cases h
  | cons entry rest ih =>
    obtain ⟨k, v⟩ := entry
    rw [get?] at h
    split at h
    · next hk =>
      cases h
      simp [hk]
    · exact List.mem_cons_of_mem _ (ih h)

/-! ## Keys in increasing order -/

theorem mem_insert {key : String} {value : α} {entries : List (String × α)} {entry : String × α}
    (h : entry ∈ insert key value entries) : entry = (key, value) ∨ entry ∈ entries := by
  induction entries with
  | nil => simpa [insert] using h
  | cons head rest ih =>
    obtain ⟨k, v⟩ := head
    rw [insert] at h
    split at h
    · simpa using h
    · split at h
      · have hmem := List.mem_cons.mp h
        exact hmem.imp_right fun hrest => by simp [hrest]
      · rcases List.mem_cons.mp h with rfl | hrest
        · simp
        · exact (ih hrest).imp_right fun hrest => by simp [hrest]

theorem insert_sorted (key : String) (value : α) (entries : List (String × α))
    (sorted : entries.Pairwise fun f g => f.1 < g.1) :
    (insert key value entries).Pairwise fun f g => f.1 < g.1 := by
  induction entries with
  | nil => simp [insert]
  | cons head rest ih =>
    obtain ⟨k, v⟩ := head
    obtain ⟨hhead, hrest⟩ := List.pairwise_cons.mp sorted
    rw [insert]
    split
    · -- The new key stands in front of all others.
      next hlt =>
      refine List.pairwise_cons.mpr ⟨?_, sorted⟩
      intro entry hentry
      rcases List.mem_cons.mp hentry with rfl | hentry
      · exact hlt
      · exact lt_trans hlt (hhead entry hentry)
    · next hnlt =>
      split
      · next heq => exact List.pairwise_cons.mpr ⟨heq ▸ hhead, hrest⟩
      · next hne =>
        have hlt : k < key := lt_of_le_of_ne (not_lt.mp hnlt) (Ne.symm hne)
        refine List.pairwise_cons.mpr ⟨?_, ih hrest⟩
        intro entry hentry
        rcases mem_insert hentry with rfl | hentry
        · exact hlt
        · exact hhead entry hentry

/-! ## Keys in the order in which they came -/

theorem put_of_not_mem (key : String) (value : α) (entries : List (String × α))
    (h : key ∉ keys entries) : put key value entries = entries ++ [(key, value)] := by
  induction entries with
  | nil => simp [put]
  | cons entry rest ih =>
    obtain ⟨k, v⟩ := entry
    simp only [keys, List.map_cons, List.mem_cons, not_or] at h
    rw [put, if_neg (Ne.symm h.1), ih h.2, List.cons_append]

theorem foldl_put_of_nodup (entries : List (String × α)) (distinct : (keys entries).Nodup) :
    entries.foldl (fun placed (key, value) => put key value placed) [] = entries := by
  induction entries using List.reverseRecOn with
  | nil => rfl
  | append_singleton front last ih =>
    obtain ⟨key, value⟩ := last
    simp only [keys, List.map_append, List.map_singleton] at distinct
    obtain ⟨hfront, -, hnew⟩ := List.nodup_append.mp distinct
    rw [List.foldl_append, ih hfront, List.foldl_cons, List.foldl_nil]
    apply put_of_not_mem
    intro hmem
    exact hnew key hmem key (by simp) rfl

end Keyed

end NeighborBench

/-! # Lists of keyed values

`put` and `collect` keep the order in which keys first came; `insert` keeps keys in increasing order.
-/

namespace NeighborBench.Keyed

variable {α : Type _}

def get? (key : String) : List (String × α) → Option α
  | [] => none
  | (k, v) :: rest => if k = key then some v else get? key rest

def keys (entries : List (String × α)) : List String := entries.map (·.1)

/-- The last value of a key stands where the key came first. -/
def put (key : String) (value : α) : List (String × α) → List (String × α)
  | [] => [(key, value)]
  | (k, v) :: rest => if k = key then (key, value) :: rest else (k, v) :: put key value rest

/-- Adds a value to those that a key has. -/
def collect (key : String) (value : α) : List (String × List α) → List (String × List α)
  | [] => [(key, [value])]
  | (k, vs) :: rest => if k = key then (k, vs ++ [value]) :: rest else (k, vs) :: collect key value rest

def insert (key : String) (value : α) : List (String × α) → List (String × α)
  | [] => [(key, value)]
  | (k, v) :: rest =>
    if key < k then (key, value) :: (k, v) :: rest
    else if key = k then (key, value) :: rest
    else (k, v) :: insert key value rest

def erase (key : String) (entries : List (String × α)) : List (String × α) :=
  entries.filter (·.1 ≠ key)

/-- The entries of both; where both have a key, the value is the upper one's. -/
def merge (lower upper : List (String × α)) : List (String × α) :=
  upper.foldl (fun entries (k, v) => insert k v entries) lower

def ofList (entries : List (String × α)) : List (String × α) := merge [] entries

/-! ## Views -/

@[simp] theorem get?_nil (key : String) : get? key ([] : List (String × α)) = none := rfl

theorem get?_map {β : Type _} (f : String → α → β) (key : String) (entries : List (String × α)) :
    get? key (entries.map fun (k, v) => (k, f k v)) = (get? key entries).map (f key) := by
  induction entries with
  | nil => rfl
  | cons entry rest ih =>
    obtain ⟨k, v⟩ := entry
    rw [List.map_cons, get?, get?, ih]
    split
    · next h =>
      subst h
      rfl
    · rfl

theorem get?_insert (key other : String) (value : α) (entries : List (String × α)) :
    get? other (insert key value entries) =
      if key = other then some value else get? other entries := by
  induction entries with
  | nil => simp [insert, get?]
  | cons entry rest ih =>
    obtain ⟨k, v⟩ := entry
    by_cases hlt : key < k
    · simp [insert, hlt, get?]
    · grind [insert, get?]

theorem get?_eq_none_iff (key : String) (entries : List (String × α)) :
    get? key entries = none ↔ key ∉ keys entries := by
  induction entries with
  | nil => simp [keys]
  | cons entry rest ih =>
    obtain ⟨k, v⟩ := entry
    by_cases hk : k = key
    · simp [get?, keys, hk]
    · simpa [get?, keys, hk, Ne.symm hk] using ih

/-- The upper entries win. A key that they have twice would have its first value in a look-up and
its last one after the merge. -/
theorem get?_merge (key : String) (lower upper : List (String × α)) (h : (keys upper).Nodup) :
    get? key (merge lower upper) = (get? key upper).or (get? key lower) := by
  induction upper generalizing lower with
  | nil => rfl
  | cons entry rest ih =>
    obtain ⟨k, v⟩ := entry
    simp only [keys, List.map_cons, List.nodup_cons] at h
    have hstep : merge lower ((k, v) :: rest) = merge (insert k v lower) rest := rfl
    rw [hstep, ih _ h.2, get?_insert]
    by_cases hk : k = key
    · subst hk
      simp [get?, (get?_eq_none_iff k rest).mpr h.1]
    · simp [get?, hk]

end NeighborBench.Keyed

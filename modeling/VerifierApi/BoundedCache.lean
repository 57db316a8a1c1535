import Mathlib.Data.List.AList

/-!
# Caches of bounded size

The entries of a cache are an association list with one entry for each key.
A cache which evicts what was least recently used keeps its entries in the
order of their last use, the most recent one first.
-/

namespace VerifierApi

variable {κ ν : Type} [DecidableEq κ]

/-! ## The number of keys -/

theorem length_keys_insert_of_mem {entries : AList fun _ : κ => ν} {key : κ}
    {value : ν} (h : key ∈ entries) :
    (entries.insert key value).keys.length = entries.keys.length := by
  have hmem := AList.mem_keys.mp h
  have hpos := List.length_pos_of_mem hmem
  rw [AList.keys_insert, List.length_cons, List.length_erase_of_mem hmem]
  omega

theorem length_keys_insert_le (entries : AList fun _ : κ => ν) (key : κ)
    (value : ν) :
    (entries.insert key value).keys.length ≤ entries.keys.length + 1 := by
  rw [AList.keys_insert, List.length_cons]
  have hle :=
    (List.erase_sublist : (entries.keys.erase key).Sublist _).length_le
  omega

/-! ## The least recently used entry -/

omit [DecidableEq κ] in
theorem nodupKeys_dropLast (entries : AList fun _ : κ => ν) :
    entries.entries.dropLast.NodupKeys :=
  entries.nodupKeys.sublist (List.dropLast_sublist _)

/-- The entries without the last one. -/
def dropOldest (entries : AList fun _ : κ => ν) : AList fun _ : κ => ν :=
  ⟨entries.entries.dropLast, nodupKeys_dropLast entries⟩

omit [DecidableEq κ] in
theorem length_keys_dropOldest (entries : AList fun _ : κ => ν) :
    (dropOldest entries).keys.length = entries.keys.length - 1 := by
  simp [dropOldest, AList.keys, List.keys]

theorem lookup_dropOldest_subset {entries : AList fun _ : κ => ν} {key : κ}
    {value : ν} (h : (dropOldest entries).lookup key = some value) :
    entries.lookup key = some value := by
  have hmem := AList.mem_lookup_iff.mp h
  exact AList.mem_lookup_iff.mpr ((List.dropLast_sublist _).mem hmem)

/-- The entries of a cache, the most recently used one first. -/
structure LruCache (κ ν : Type) (capacity : ℕ) where
  entries : AList fun _ : κ => ν
  bounded : entries.keys.length ≤ capacity

namespace LruCache

variable {capacity : ℕ}

def empty : LruCache κ ν capacity where
  entries := ∅
  bounded := by simp

def lookup (cache : LruCache κ ν capacity) (key : κ) : Option ν :=
  cache.entries.lookup key

/-- The cache with the entry of a key moved to the front. -/
def touch (cache : LruCache κ ν capacity) (key : κ) :
    LruCache κ ν capacity :=
  match h : cache.entries.lookup key with
  | none => cache
  | some value =>
    { entries := cache.entries.insert key value
      bounded := by
        have hmem : key ∈ cache.entries :=
          AList.lookup_isSome.mp (by simp [h])
        rw [length_keys_insert_of_mem hmem]
        exact cache.bounded }

/-- A known key is refreshed.  A new one is put in front, and the entry at
the back goes when there are too many. -/
def store (cache : LruCache κ ν capacity) (key : κ) (value : ν) :
    LruCache κ ν capacity :=
  if hmem : key ∈ cache.entries then
    { entries := cache.entries.insert key value
      bounded := by
        rw [length_keys_insert_of_mem hmem]
        exact cache.bounded }
  else
    if hfull : capacity < (cache.entries.insert key value).keys.length then
      { entries := dropOldest (cache.entries.insert key value)
        bounded := by
          have hle := length_keys_insert_le cache.entries key value
          have hbound := cache.bounded
          rw [length_keys_dropOldest]
          omega }
    else
      { entries := cache.entries.insert key value
        bounded := by omega }

@[simp] theorem lookup_empty (key : κ) :
    (empty : LruCache κ ν capacity).lookup key = none := by
  simp [lookup, empty]

@[simp] theorem lookup_touch (cache : LruCache κ ν capacity) (key other : κ) :
    (cache.touch key).lookup other = cache.lookup other := by
  unfold touch lookup
  split
  next => rfl
  next value hvalue =>
    by_cases hkey : other = key
    · subst hkey
      simp [hvalue]
    · simp [AList.lookup_insert_ne hkey]

theorem lookup_store_subset {cache : LruCache κ ν capacity} {key other : κ}
    {value found : ν}
    (h : (cache.store key value).lookup other = some found) :
    (other = key ∧ found = value) ∨ cache.lookup other = some found := by
  have hinsert : (cache.entries.insert key value).lookup other =
      some found := by
    unfold store lookup at h
    split at h
    next => exact h
    next =>
      split at h
      next => exact lookup_dropOldest_subset h
      next => exact h
  by_cases hkey : other = key
  · subst hkey
    rw [AList.lookup_insert, Option.some.injEq] at hinsert
    exact .inl ⟨rfl, hinsert.symm⟩
  · rw [AList.lookup_insert_ne hkey] at hinsert
    exact .inr hinsert

end LruCache

end VerifierApi

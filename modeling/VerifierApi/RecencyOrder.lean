import VerifierApi.BoundedCache

/-!
# The order of the last uses

The distinct keys of a history of uses, the latest use first.  A cache which
evicts what was least recently used holds an initial part of this order: a key
which was evicted has at least as many keys before it as the cache holds, and
stays behind them until it is stored again.
-/

namespace VerifierApi

variable {κ ν : Type} [DecidableEq κ]

/-- The distinct keys of a list of uses which starts with the latest one. -/
def recency : List κ → List κ
  | [] => []
  | key :: earlier => key :: (recency earlier).erase key

@[simp] theorem mem_recency {uses : List κ} {key : κ} :
    key ∈ recency uses ↔ key ∈ uses := by
  induction uses with
  | nil => simp [recency]
  | cons last earlier ih =>
    by_cases hkey : key = last
    · simp [recency, hkey]
    · simp [recency, hkey, List.mem_erase_of_ne hkey, ih]

theorem take_erase_of_mem {keys : List κ} {key : κ} {n : ℕ}
    (h : key ∈ keys.take (n + 1)) :
    (keys.erase key).take n = (keys.take (n + 1)).erase key := by
  induction keys generalizing n with
  | nil => simp at h
  | cons first rest ih =>
    by_cases hfirst : first = key
    · subst hfirst
      simp
    · have hrest : key ∈ rest.take n := by
        rw [List.take_succ_cons, List.mem_cons] at h
        exact h.resolve_left fun heq => hfirst heq.symm
      cases n with
      | zero => simp at hrest
      | succ m =>
        rw [List.erase_cons_tail (by simpa using hfirst), List.take_succ_cons,
          ih hrest, List.take_succ_cons (i := m + 1),
          List.erase_cons_tail (by simpa using hfirst)]

theorem take_erase_of_notMem {keys : List κ} {key : κ} {n : ℕ}
    (h : key ∉ keys.take n) : (keys.erase key).take n = keys.take n := by
  induction keys generalizing n with
  | nil => simp
  | cons first rest ih =>
    cases n with
    | zero => simp
    | succ m =>
      rw [List.take_succ_cons, List.mem_cons, not_or] at h
      rw [List.erase_cons_tail (by simpa using Ne.symm h.1),
        List.take_succ_cons, ih h.2, List.take_succ_cons]

/-- The use of a key among the first ones moves it to the front of them. -/
theorem take_recency_cons_of_mem {uses : List κ} {key : κ} {n : ℕ}
    (h : key ∈ (recency uses).take n) :
    (recency (key :: uses)).take n =
      key :: ((recency uses).take n).erase key := by
  cases n with
  | zero => simp at h
  | succ m =>
    rw [recency, List.take_succ_cons, take_erase_of_mem h]

/-- The use of another key puts it in front of them, and the last one falls
out where there are too many. -/
theorem take_recency_cons_of_notMem {uses : List κ} {key : κ} {n : ℕ}
    (h : key ∉ (recency uses).take n) :
    (recency (key :: uses)).take n =
      (key :: (recency uses).take n).take n := by
  cases n with
  | zero => simp
  | succ m =>
    have hstart : (recency uses).take m =
        ((recency uses).take (m + 1)).take m := by
      rw [List.take_take, Nat.min_eq_left (Nat.le_succ m)]
    have hbefore : key ∉ (recency uses).take m := by
      intro hmem
      rw [hstart] at hmem
      exact h (List.mem_of_mem_take hmem)
    rw [recency, List.take_succ_cons, take_erase_of_notMem hbefore,
      List.take_succ_cons, ← hstart]

/-! ## Keys and values of a cache -/

namespace LruCache

variable {capacity : ℕ} {cache : LruCache κ ν capacity} {key : κ} {value : ν}

theorem entries_touch (h : cache.lookup key = some value) :
    (cache.touch key).entries = cache.entries.insert key value := by
  unfold lookup at h
  unfold touch
  split
  next hnone => simp [h] at hnone
  next found hfound =>
    obtain rfl := Option.some.inj (h.symm.trans hfound)
    rfl

theorem touch_of_none (h : cache.lookup key = none) :
    cache.touch key = cache := by
  unfold lookup at h
  unfold touch
  split
  next => rfl
  next found hfound => simp [h] at hfound

theorem keys_touch (h : cache.lookup key = some value) :
    (cache.touch key).entries.keys = key :: cache.entries.keys.erase key := by
  rw [entries_touch h, AList.keys_insert]

theorem entries_store_of_mem (h : key ∈ cache.entries) :
    (cache.store key value).entries = cache.entries.insert key value := by
  unfold store
  rw [dif_pos h]

theorem keys_store_of_mem (h : key ∈ cache.entries) :
    (cache.store key value).entries.keys =
      key :: cache.entries.keys.erase key := by
  rw [entries_store_of_mem h, AList.keys_insert]

theorem entries_insert_of_notMem (h : key ∉ cache.entries) :
    (cache.entries.insert key value).entries =
      ⟨key, value⟩ :: cache.entries.entries := by
  rw [AList.entries_insert, List.kerase_of_notMem_keys h]

theorem entries_store_of_notMem (h : key ∉ cache.entries) :
    (cache.store key value).entries.entries =
      (⟨key, value⟩ :: cache.entries.entries).take capacity := by
  have hbound := cache.bounded
  have hkeys : cache.entries.keys.length = cache.entries.entries.length := by
    simp [AList.keys, List.keys]
  have hlength : (cache.entries.insert key value).keys.length =
      cache.entries.entries.length + 1 := by
    rw [AList.keys_insert, List.length_cons,
      List.erase_of_not_mem (AList.mem_keys.not.mp h), hkeys]
  unfold store
  rw [dif_neg h]
  split
  next hfull =>
    have hcapacity : cache.entries.entries.length = capacity := by omega
    simp only [dropOldest, entries_insert_of_notMem h]
    rw [List.dropLast_eq_take, List.length_cons, hcapacity,
      Nat.add_sub_cancel]
  next hroom =>
    rw [entries_insert_of_notMem h, List.take_of_length_le]
    rw [List.length_cons]
    omega

theorem keys_store_of_notMem (h : key ∉ cache.entries) :
    (cache.store key value).entries.keys =
      (key :: cache.entries.keys).take capacity := by
  simp [AList.keys, List.keys, entries_store_of_notMem h, List.map_take]

theorem value_of_lookup_store {found : ν}
    (h : (cache.store key value).lookup key = some found) :
    found = value := by
  by_cases hmem : key ∈ cache.entries
  · rw [lookup, entries_store_of_mem hmem, AList.lookup_insert] at h
    exact (Option.some.inj h).symm
  · rcases lookup_store_subset h with ⟨-, hvalue⟩ | hold
    · exact hvalue
    · exact absurd (AList.lookup_isSome.mp (by rw [← lookup, hold]; rfl)) hmem

/-! ## Histories -/

theorem mem_keys_of_lookup (h : cache.lookup key = some value) :
    key ∈ cache.entries.keys :=
  AList.mem_keys.mp (AList.lookup_isSome.mp (by rw [← lookup, h]; rfl))

/-- A hit is a use. -/
theorem keys_touch_eq_recency {uses : List κ}
    (hkeys : cache.entries.keys = (recency uses).take capacity)
    (h : cache.lookup key = some value) :
    (cache.touch key).entries.keys =
      (recency (key :: uses)).take capacity := by
  have hmem := mem_keys_of_lookup h
  rw [hkeys] at hmem
  rw [keys_touch h, hkeys, take_recency_cons_of_mem hmem]

/-- A store is a use. -/
theorem keys_store_eq_recency {uses : List κ}
    (hkeys : cache.entries.keys = (recency uses).take capacity) :
    (cache.store key value).entries.keys =
      (recency (key :: uses)).take capacity := by
  by_cases hmem : key ∈ cache.entries
  · have hfirst : key ∈ (recency uses).take capacity := hkeys ▸ hmem
    rw [keys_store_of_mem hmem, hkeys, take_recency_cons_of_mem hfirst]
  · have hnotFirst : key ∉ (recency uses).take capacity := hkeys ▸ hmem
    rw [keys_store_of_notMem hmem, hkeys,
      take_recency_cons_of_notMem hnotFirst]

end LruCache

end VerifierApi

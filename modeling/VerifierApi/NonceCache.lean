import VerifierApi.BinderMachine
import VerifierApi.ElementList
import VerifierApi.RecencyOrder
import Mathlib.Data.List.Induction

/-!
# The initial-nonce cache as a map into a list

The binder keeps a list of entries, the most recently used one first, and a
map from keys to the elements of the list.  It refines the cache which the
concurrent binder uses: the entries of the list are the entries of that cache,
and the map leads from each key to the element that holds it.
-/

namespace VerifierApi

/-! ## The code -/

structure CacheEntry where
  key : String
  nonce : UInt64
deriving DecidableEq

/-- What an element of the list can hold; of a value of another type only its
type shows. -/
inductive ElementValue where
  | cacheEntry (entry : CacheEntry)
  | other (typeName : String)
deriving DecidableEq

/-- The outcome of a call which may panic, with the text of the panic. -/
abbrev Panicking := Except String

def mustCacheEntry (ll : ElementList ElementValue) (el : ℕ) :
    Panicking CacheEntry :=
  match ll.value el with
  | some (.cacheEntry entry) => .ok entry
  | some (.other typeName) =>
      .error s!"pmwnonce: unexpected cache entry type {typeName}"
  | none =>
      .error "runtime error: invalid memory address or nil pointer dereference"

structure Binder where
  ll : ElementList ElementValue
  cache : AList fun _ : String => ℕ

namespace Binder

def new : Binder where
  ll := .empty
  cache := ∅

def cachedNonce (b : Binder) (key : String) :
    Panicking (Binder × Option UInt64) :=
  match b.cache.lookup key with
  | none => .ok (b, none)
  | some el => do
      let ll := b.ll.moveToFront el
      let entry ← mustCacheEntry ll el
      .ok ({ b with ll := ll }, some entry.nonce)

def storeNonce (b : Binder) (key : String) (nonce : UInt64) :
    Panicking Binder :=
  match b.cache.lookup key with
  | some el => do
      let entry ← mustCacheEntry b.ll el
      let ll := b.ll.setValue el (.cacheEntry { entry with nonce := nonce })
      .ok { b with ll := ll.moveToFront el }
  | none =>
      let (ll, el) := b.ll.pushFront (.cacheEntry ⟨key, nonce⟩)
      let cache := b.cache.insert key el
      if maxInitialNonceCacheEntries < ll.len then
        match ll.back with
        | none => .error
            "runtime error: invalid memory address or nil pointer dereference"
        | some oldest => do
            let ll := ll.remove oldest
            let entry ← mustCacheEntry ll oldest
            .ok ⟨ll, cache.erase entry.key⟩
      else .ok ⟨ll, cache⟩

end Binder

/-! ## What an element holds -/

theorem mustCacheEntry_congr {ll ll' : ElementList ElementValue} {el : ℕ}
    (h : ll'.value el = ll.value el) :
    mustCacheEntry ll' el = mustCacheEntry ll el := by
  unfold mustCacheEntry
  rw [h]

theorem mustCacheEntry_of_value {ll : ElementList ElementValue} {el : ℕ}
    {entry : CacheEntry} (h : ll.value el = some (.cacheEntry entry)) :
    mustCacheEntry ll el = .ok entry := by
  unfold mustCacheEntry
  rw [h]

theorem value_of_mustCacheEntry {ll : ElementList ElementValue} {el : ℕ}
    {entry : CacheEntry} (h : mustCacheEntry ll el = .ok entry) :
    ll.value el = some (.cacheEntry entry) := by
  unfold mustCacheEntry at h
  split at h
  next held hheld => rw [hheld, Except.ok.inj h]
  next => simp at h
  next => simp at h

/-- An element which holds an entry of the given key. -/
def HoldsKey (ll : ElementList ElementValue) (key : String) (el : ℕ) : Prop :=
  el ∈ ll.order ∧ ∃ nonce, mustCacheEntry ll el = .ok ⟨key, nonce⟩

def cacheEntryOf (entry : Sigma fun _ : String => UInt64) : CacheEntry :=
  ⟨entry.1, entry.2⟩

/-- The entries of a list without one of its elements. -/
theorem map_erase_eq_kerase {order : List ℕ}
    {held : ℕ → Panicking CacheEntry}
    {entries : List (Sigma fun _ : String => UInt64)}
    (hheld : order.map held =
      entries.map fun entry => .ok (cacheEntryOf entry))
    (hnodup : entries.NodupKeys) {el : ℕ} (hel : el ∈ order) {key : String}
    {nonce : UInt64} (hkey : held el = .ok ⟨key, nonce⟩) :
    (order.erase el).map held =
      (entries.kerase key).map fun entry => .ok (cacheEntryOf entry) := by
  induction order generalizing entries with
  | nil => simp at hel
  | cons first rest ih =>
    cases entries with
    | nil => simp at hheld
    | cons entry entries =>
      rw [List.map_cons, List.map_cons, List.cons.injEq] at hheld
      obtain ⟨hfirst, hrest⟩ := hheld
      by_cases heq : first = el
      · subst heq
        have hsame : key = entry.1 := by
          rw [hkey] at hfirst
          exact congrArg CacheEntry.key (Except.ok.inj hfirst)
        rw [List.erase_cons_head, List.kerase_cons_eq hsame, hrest]
      · have hmem : el ∈ rest :=
          (List.mem_cons.mp hel).resolve_left fun h => heq h.symm
        have hother : key ≠ entry.1 := by
          rintro rfl
          have hlater : held el ∈ rest.map held := List.mem_map_of_mem hmem
          rw [hrest, hkey] at hlater
          obtain ⟨later, hlaterMem, hlaterEq⟩ := List.mem_map.mp hlater
          have hkeyEq : later.1 = entry.1 :=
            congrArg CacheEntry.key (Except.ok.inj hlaterEq)
          exact (List.nodupKeys_cons.mp hnodup).1
            (hkeyEq ▸ List.mem_keys_of_mem hlaterMem)
        rw [List.erase_cons_tail (by simpa using heq),
          List.kerase_cons_ne hother, List.map_cons, List.map_cons, hfirst,
          ih hrest (List.nodupKeys_cons.mp hnodup).2 hmem]

/-! ## The entries that a binder holds -/

namespace Binder

/-- The list holds the entries of a cache in their order, and the map leads
from each key to the element that holds it. -/
structure Represents (b : Binder) (entries : AList fun _ : String => UInt64) :
    Prop where
  held : b.ll.order.map (mustCacheEntry b.ll) =
    entries.entries.map fun entry => .ok (cacheEntryOf entry)
  index : ∀ key el, b.cache.lookup key = some el ↔ HoldsKey b.ll key el

variable {b : Binder} {entries : AList fun _ : String => UInt64}

theorem Represents.lookup_of_holds (h : b.Represents entries) {el : ℕ}
    (hel : el ∈ b.ll.order) {key : String} {nonce : UInt64}
    (hentry : mustCacheEntry b.ll el = .ok ⟨key, nonce⟩) :
    entries.lookup key = some nonce := by
  have hmem := List.mem_map_of_mem (f := mustCacheEntry b.ll) hel
  rw [h.held, hentry] at hmem
  obtain ⟨entry, hentryMem, heq⟩ := List.mem_map.mp hmem
  obtain ⟨key', nonce'⟩ := entry
  have hinj := Except.ok.inj heq
  rw [cacheEntryOf, CacheEntry.mk.injEq] at hinj
  obtain ⟨rfl, rfl⟩ := hinj
  exact AList.mem_lookup_iff.mpr hentryMem

theorem Represents.exists_holds (h : b.Represents entries) {key : String}
    {nonce : UInt64} (hlookup : entries.lookup key = some nonce) :
    ∃ el ∈ b.ll.order, mustCacheEntry b.ll el = .ok ⟨key, nonce⟩ := by
  have hmem : (⟨key, nonce⟩ : Sigma fun _ : String => UInt64) ∈
      entries.entries := AList.mem_lookup_iff.mp hlookup
  have hheld := List.mem_map_of_mem (β := Panicking CacheEntry)
    (f := fun entry => .ok (cacheEntryOf entry)) hmem
  rw [← h.held] at hheld
  exact List.mem_map.mp hheld

theorem Represents.lookup_eq_none (h : b.Represents entries) {key : String}
    (hnone : b.cache.lookup key = none) : entries.lookup key = none := by
  cases hlookup : entries.lookup key with
  | none => rfl
  | some nonce =>
    obtain ⟨el, hel, hentry⟩ := h.exists_holds hlookup
    have hsome := (h.index key el).mpr ⟨hel, nonce, hentry⟩
    simp [hnone] at hsome

theorem Represents.length_order (h : b.Represents entries) :
    b.ll.order.length = entries.keys.length := by
  have hlength := congrArg List.length h.held
  simpa [AList.keys, List.keys] using hlength

/-- The element of a key gets a nonce and moves to the front. -/
theorem Represents.refresh (h : b.Represents entries) {key : String} {el : ℕ}
    (hholds : HoldsKey b.ll key el) (nonce : UInt64) :
    Represents
      ⟨(b.ll.setValue el (.cacheEntry ⟨key, nonce⟩)).moveToFront el, b.cache⟩
      (entries.insert key nonce) := by
  obtain ⟨hel, old, hold⟩ := hholds
  have hself : mustCacheEntry
      ((b.ll.setValue el (.cacheEntry ⟨key, nonce⟩)).moveToFront el) el =
        .ok ⟨key, nonce⟩ :=
    mustCacheEntry_of_value (by simp [ElementList.setValue])
  have hothers : ∀ other, other ≠ el → mustCacheEntry
      ((b.ll.setValue el (.cacheEntry ⟨key, nonce⟩)).moveToFront el) other =
        mustCacheEntry b.ll other := fun other hother =>
    mustCacheEntry_congr (by
      simp [ElementList.setValue, Function.update_of_ne hother])
  constructor
  · have herase := map_erase_eq_kerase h.held entries.nodupKeys hel hold
    rw [ElementList.moveToFront_order (by exact hel), List.map_cons, hself,
      AList.entries_insert, List.map_cons, ← herase]
    congr 1
    apply List.map_congr_left
    intro other hother
    exact hothers other (b.ll.nodup.mem_erase_iff.mp hother).1
  · intro key' el'
    rw [h.index, HoldsKey, HoldsKey,
      ElementList.mem_moveToFront (by exact hel), ElementList.setValue_order]
    by_cases heq : el' = el
    · subst heq
      rw [hself, hold]
      simp
    · rw [hothers el' heq]

/-- A new key comes to the front. -/
theorem Represents.push (h : b.Represents entries) {key : String}
    (hnone : b.cache.lookup key = none) (nonce : UInt64) :
    Represents ⟨(b.ll.pushFront (.cacheEntry ⟨key, nonce⟩)).1,
      b.cache.insert key (b.ll.pushFront (.cacheEntry ⟨key, nonce⟩)).2⟩
      (entries.insert key nonce) := by
  have hself : mustCacheEntry (b.ll.pushFront (.cacheEntry ⟨key, nonce⟩)).1
      b.ll.next = .ok ⟨key, nonce⟩ :=
    mustCacheEntry_of_value (by simp [ElementList.pushFront])
  have hothers : ∀ other ∈ b.ll.order, mustCacheEntry
      (b.ll.pushFront (.cacheEntry ⟨key, nonce⟩)).1 other =
        mustCacheEntry b.ll other := by
    intro other hother
    have hne : other ≠ b.ll.next := by
      rintro rfl
      exact b.ll.next_notMem hother
    exact mustCacheEntry_congr (by
      simp [ElementList.pushFront, Function.update_of_ne hne])
  have hnotMem : key ∉ entries.keys := by
    rw [← AList.mem_keys, ← AList.lookup_eq_none]
    exact h.lookup_eq_none hnone
  constructor
  · rw [AList.entries_insert, List.kerase_of_notMem_keys hnotMem,
      List.map_cons, ← h.held]
    simp only [ElementList.pushFront, List.map_cons]
    congr 1
    exact List.map_congr_left hothers
  · intro key' el'
    have horder : ∀ other, other ∈
        (b.ll.pushFront (.cacheEntry ⟨key, nonce⟩)).1.order ↔
          other = b.ll.next ∨ other ∈ b.ll.order := fun other =>
      List.mem_cons
    rw [HoldsKey, horder]
    by_cases hkey : key' = key
    · subst hkey
      rw [AList.lookup_insert, Option.some.injEq]
      constructor
      · rintro rfl
        exact ⟨.inl rfl, nonce, hself⟩
      · rintro ⟨rfl | hel, old, hold⟩
        · rfl
        · rw [hothers el' hel] at hold
          have hsome := (h.index key' el').mpr ⟨hel, old, hold⟩
          simp [hnone] at hsome
    · rw [AList.lookup_insert_ne hkey, h.index, HoldsKey]
      constructor
      · rintro ⟨hel, old, hold⟩
        exact ⟨.inr hel, old, (hothers el' hel).trans hold⟩
      · rintro ⟨rfl | hel, old, hold⟩
        · rw [hself, Except.ok.injEq, CacheEntry.mk.injEq] at hold
          exact absurd hold.1.symm hkey
        · exact ⟨hel, old, (hothers el' hel).symm.trans hold⟩

/-- The key that goes out of the map is the one of the removed element. -/
theorem Represents.evict (h : b.Represents entries) {oldest : ℕ}
    (hback : b.ll.back = some oldest) :
    ∃ entry, mustCacheEntry (b.ll.remove oldest) oldest = .ok entry ∧
      Represents ⟨b.ll.remove oldest, b.cache.erase entry.key⟩
        (dropOldest entries) := by
  have hmem : oldest ∈ b.ll.order := List.mem_of_getLast? hback
  have hheld := List.mem_map_of_mem (f := mustCacheEntry b.ll) hmem
  rw [h.held] at hheld
  obtain ⟨entry, -, hentry⟩ := List.mem_map.mp hheld
  have hsame : ∀ other, mustCacheEntry (b.ll.remove oldest) other =
      mustCacheEntry b.ll other := fun other => rfl
  refine ⟨cacheEntryOf entry, hentry.symm, ?_, ?_⟩
  · rw [ElementList.remove_back hback]
    change List.map (mustCacheEntry b.ll) b.ll.order.dropLast = _
    rw [List.map_dropLast, h.held, ← List.map_dropLast]
    rfl
  · intro key el
    have hindex := (h.index entry.1 oldest).mpr ⟨hmem, entry.2, hentry.symm⟩
    rw [HoldsKey, ElementList.remove_order, b.ll.nodup.mem_erase_iff, hsame]
    by_cases hkey : key = entry.1
    · subst hkey
      rw [cacheEntryOf, AList.lookup_erase]
      constructor
      · intro hnone
        cases hnone
      · rintro ⟨⟨hne, hel⟩, hholds⟩
        have hother := (h.index entry.1 el).mpr ⟨hel, hholds⟩
        exact absurd (Option.some.inj (hother.symm.trans hindex)) hne
    · rw [cacheEntryOf, AList.lookup_erase_ne hkey, h.index, HoldsKey]
      constructor
      · rintro ⟨hel, nonce, hholds⟩
        refine ⟨⟨?_, hel⟩, nonce, hholds⟩
        rintro rfl
        rw [← hentry, Except.ok.injEq] at hholds
        exact hkey (congrArg CacheEntry.key hholds).symm
      · rintro ⟨⟨-, hel⟩, hholds⟩
        exact ⟨hel, hholds⟩

/-! ## The calls -/

variable {cache : LruCache String UInt64 maxInitialNonceCacheEntries}

theorem cachedNonce_represents (h : b.Represents cache.entries)
    (key : String) :
    ∃ b', b.cachedNonce key = .ok (b', cache.lookup key) ∧
      b'.Represents (cache.touch key).entries := by
  unfold cachedNonce
  cases hlookup : b.cache.lookup key with
  | none =>
    have hnone : cache.lookup key = none := h.lookup_eq_none hlookup
    rw [hnone, LruCache.touch_of_none hnone]
    exact ⟨b, rfl, h⟩
  | some el =>
    obtain ⟨hel, nonce, hentry⟩ := (h.index key el).mp hlookup
    have hsome : cache.lookup key = some nonce :=
      h.lookup_of_holds hel hentry
    have hsame := ElementList.setValue_of_value
      (value_of_mustCacheEntry hentry)
    have hmoved := h.refresh ⟨hel, nonce, hentry⟩ nonce
    rw [hsame] at hmoved
    have hread : mustCacheEntry (b.ll.moveToFront el) el =
        .ok ⟨key, nonce⟩ :=
      (mustCacheEntry_congr (by simp)).trans hentry
    rw [hsome, LruCache.entries_touch hsome]
    exact ⟨_, by simp only [hread]; rfl, hmoved⟩

theorem storeNonce_represents (h : b.Represents cache.entries)
    (key : String) (nonce : UInt64) :
    ∃ b', b.storeNonce key nonce = .ok b' ∧
      b'.Represents (cache.store key nonce).entries := by
  unfold storeNonce
  cases hlookup : b.cache.lookup key with
  | some el =>
    obtain ⟨hel, old, hentry⟩ := (h.index key el).mp hlookup
    have hmem : key ∈ cache.entries :=
      AList.lookup_isSome.mp (by rw [h.lookup_of_holds hel hentry]; rfl)
    rw [LruCache.entries_store_of_mem hmem]
    exact ⟨_, by simp only [hentry]; rfl, h.refresh ⟨hel, old, hentry⟩ nonce⟩
  | none =>
    have hnotMem : key ∉ cache.entries :=
      AList.lookup_eq_none.mp (h.lookup_eq_none hlookup)
    have hpush := h.push hlookup nonce
    have hlen : (b.ll.pushFront (.cacheEntry ⟨key, nonce⟩)).1.len =
        (cache.entries.insert key nonce).keys.length := hpush.length_order
    unfold LruCache.store
    rw [dif_neg hnotMem]
    simp only [hlen]
    by_cases hfull : maxInitialNonceCacheEntries <
        (cache.entries.insert key nonce).keys.length
    · rw [if_pos hfull, dif_pos hfull]
      cases hback : (b.ll.pushFront (.cacheEntry ⟨key, nonce⟩)).1.back with
      | none => simp [ElementList.back, ElementList.pushFront] at hback
      | some oldest =>
        obtain ⟨entry, hentry, hevicted⟩ := hpush.evict hback
        exact ⟨_, by simp only [hentry]; rfl, hevicted⟩
    · rw [if_neg hfull, dif_neg hfull]
      exact ⟨_, rfl, hpush⟩

end Binder

/-! ## Any sequence of calls -/

inductive CacheCall where
  | cachedNonce (key : String)
  | storeNonce (key : String) (nonce : UInt64)

/-- The nonce that a call stores for a key. -/
def CacheCall.storedNonce (key : String) : CacheCall → Option UInt64
  | .cachedNonce _ => none
  | .storeNonce stored nonce => if stored = key then some nonce else none

/-- The nonce that was last stored for a key. -/
def lastStored (calls : List CacheCall) (key : String) : Option UInt64 :=
  calls.reverse.findSome? (CacheCall.storedNonce key)

/-- A binder and the keys of its hits and stores, the latest first. -/
structure CacheRun where
  binder : Binder
  uses : List String

namespace CacheRun

def new : CacheRun where
  binder := .new
  uses := []

def call (run : CacheRun) : CacheCall → Panicking CacheRun
  | .cachedNonce key => do
      let (binder, nonce) ← run.binder.cachedNonce key
      .ok ⟨binder, if nonce.isSome then key :: run.uses else run.uses⟩
  | .storeNonce key nonce => do
      let binder ← run.binder.storeNonce key nonce
      .ok ⟨binder, key :: run.uses⟩

def calls (run : CacheRun) : List CacheCall → Panicking CacheRun
  | [] => .ok run
  | next :: rest => do
      let run ← run.call next
      run.calls rest

/-- The cache that a run has reached refines one whose keys are the last used
ones, with the nonces last stored. -/
structure Refines (made : List CacheCall) (run : CacheRun)
    (cache : LruCache String UInt64 maxInitialNonceCacheEntries) : Prop where
  represents : run.binder.Represents cache.entries
  recent : cache.entries.keys =
    (recency run.uses).take maxInitialNonceCacheEntries
  values : ∀ key nonce, cache.lookup key = some nonce →
    lastStored made key = some nonce

variable {made : List CacheCall} {run : CacheRun}
  {cache : LruCache String UInt64 maxInitialNonceCacheEntries}

theorem lastStored_concat (made : List CacheCall) (next : CacheCall)
    (key : String) :
    lastStored (made ++ [next]) key =
      (next.storedNonce key).or (lastStored made key) := by
  rw [lastStored, List.reverse_append, List.reverse_singleton,
    List.singleton_append, List.findSome?_cons]
  cases next.storedNonce key with
  | none => rfl
  | some nonce => rfl

theorem Refines.cachedNonce (h : run.Refines made cache) (key : String) :
    ∃ run', run.call (.cachedNonce key) = .ok run' ∧
      run'.Refines (made ++ [.cachedNonce key]) (cache.touch key) := by
  obtain ⟨b, hb, hrepresents⟩ :=
    Binder.cachedNonce_represents h.represents key
  refine ⟨_, by simp only [call, hb]; rfl, hrepresents, ?_, ?_⟩
  · cases hlookup : cache.lookup key with
    | none => rw [LruCache.touch_of_none hlookup]; exact h.recent
    | some nonce => exact LruCache.keys_touch_eq_recency h.recent hlookup
  · intro other nonce hother
    rw [LruCache.lookup_touch] at hother
    rw [lastStored_concat]
    exact h.values other nonce hother

theorem Refines.storeNonce (h : run.Refines made cache) (key : String)
    (nonce : UInt64) :
    ∃ run', run.call (.storeNonce key nonce) = .ok run' ∧
      run'.Refines (made ++ [.storeNonce key nonce])
        (cache.store key nonce) := by
  obtain ⟨b, hb, hrepresents⟩ :=
    Binder.storeNonce_represents h.represents key nonce
  refine ⟨_, by simp only [call, hb]; rfl, hrepresents,
    LruCache.keys_store_eq_recency h.recent, ?_⟩
  intro other found hfound
  rw [lastStored_concat, CacheCall.storedNonce]
  by_cases hother : key = other
  · subst hother
    rw [if_pos rfl, LruCache.value_of_lookup_store hfound]
    rfl
  · rw [if_neg hother]
    rcases LruCache.lookup_store_subset hfound with ⟨hsame, -⟩ | hold
    · exact absurd hsame.symm hother
    · exact h.values other found hold

/-- The cache after a call. -/
def cacheAfter (cache : LruCache String UInt64 maxInitialNonceCacheEntries) :
    CacheCall → LruCache String UInt64 maxInitialNonceCacheEntries
  | .cachedNonce key => cache.touch key
  | .storeNonce key nonce => cache.store key nonce

theorem Refines.call (h : run.Refines made cache) (next : CacheCall) :
    ∃ run', run.call next = .ok run' ∧
      run'.Refines (made ++ [next]) (cacheAfter cache next) := by
  cases next with
  | cachedNonce key => exact h.cachedNonce key
  | storeNonce key nonce => exact h.storeNonce key nonce

theorem Refines.calls (h : run.Refines made cache) (rest : List CacheCall) :
    ∃ run', run.calls rest = .ok run' ∧
      run'.Refines (made ++ rest) (rest.foldl cacheAfter cache) := by
  induction rest generalizing run made cache with
  | nil =>
    rw [List.append_nil]
    exact ⟨run, rfl, h⟩
  | cons next rest ih =>
    obtain ⟨mid, hmid, hrefines⟩ := h.call next
    obtain ⟨run', hrun', hfinal⟩ := ih hrefines
    rw [List.append_assoc, List.singleton_append] at hfinal
    refine ⟨run', ?_, hfinal⟩
    rw [CacheRun.calls, hmid]
    exact hrun'

end CacheRun

/-! ## The list and the map -/

end VerifierApi

import VerifierApi.CrlCacheSafety

/-!
# What an insertion evicts

A full cache makes room for a new key by dropping what is stale, and drops one
of the oldest entries only when nothing is.  Whatever the order in which the
map is iterated, the fresh entries outlive the stale ones and a later fetch
outlives an earlier one.
-/

namespace VerifierApi

section Eviction

variable {lib : X509Library} {entries : CrlEntries} {order : List String}
  {now : Int}

/-! ## Stale entries -/

theorem lookup_evictStaleEntries (key : String) :
    (evictStaleEntries lib now entries).lookup key =
      (entries.lookup key).filter fun entry =>
        !isEntryStale lib now entry := by
  apply Option.ext
  intro entry
  rw [Option.filter_eq_some_iff]
  constructor
  · intro hlookup
    have hfilter := List.mem_filter.mp (AList.mem_lookup_iff.mp hlookup)
    exact ⟨AList.mem_lookup_iff.mpr hfilter.1, hfilter.2⟩
  · rintro ⟨hlookup, hfresh⟩
    exact AList.mem_lookup_iff.mpr
      (List.mem_filter.mpr ⟨AList.mem_lookup_iff.mp hlookup, hfresh⟩)

/-- Some entry has outlived the cache time or its list. -/
def HasStale (lib : X509Library) (now : Int) (entries : CrlEntries) : Prop :=
  ∃ key entry, entries.lookup key = some entry ∧
    isEntryStale lib now entry = true

theorem length_keys_evictStaleEntries_lt (h : HasStale lib now entries) :
    (evictStaleEntries lib now entries).keys.length <
      entries.keys.length := by
  obtain ⟨key, entry, hlookup, hstale⟩ := h
  have hmem : (⟨key, entry⟩ : Σ _ : String, CrlEntry) ∈ entries.entries :=
    AList.mem_lookup_iff.mp hlookup
  have hlt : (entries.entries.filter fun entry =>
      !isEntryStale lib now entry.2).length < entries.entries.length :=
    List.length_filter_lt_length_iff_exists.mpr
      ⟨_, hmem, by simp [hstale]⟩
  simpa [AList.keys, List.keys, evictStaleEntries] using hlt

theorem evictStaleEntries_of_fresh (h : ¬ HasStale lib now entries) :
    evictStaleEntries lib now entries = entries := by
  apply AList.ext
  apply List.filter_eq_self.mpr
  intro entry hmem
  by_contra hstale
  exact h ⟨entry.1, entry.2, AList.mem_lookup_iff.mpr hmem, by
    simpa using hstale⟩

/-! ## The oldest entry -/

/-- A candidate of the iteration: the fetch time of the entry under its key. -/
def IsCandidate (entries : CrlEntries) (best : String × Int) : Prop :=
  ∃ entry, entries.lookup best.1 = some entry ∧ entry.fetchedAt = best.2

theorem olderEntry_candidate {oldest : Option (String × Int)} {key : String}
    (h : ∀ best, oldest = some best → IsCandidate entries best)
    {best : String × Int}
    (hbest : olderEntry entries oldest key = some best) :
    IsCandidate entries best ∧
      (∀ previous, oldest = some previous → best.2 ≤ previous.2) ∧
      ∀ entry, entries.lookup key = some entry →
        best.2 ≤ entry.fetchedAt := by
  rcases olderEntry_cases hbest with
    ⟨rfl, hkept⟩ | ⟨entry, hlookup, rfl, hprevious⟩
  · refine ⟨h best rfl, ?_, hkept⟩
    rintro _ ⟨⟩
    exact le_rfl
  · exact ⟨⟨entry, hlookup, rfl⟩, hprevious, by simp [hlookup]⟩

/-- The result of the iteration is at most as young as every entry met. -/
theorem foldl_olderEntry_candidate {oldest : Option (String × Int)}
    (h : ∀ best, oldest = some best → IsCandidate entries best)
    {best : String × Int}
    (hbest : order.foldl (olderEntry entries) oldest = some best) :
    IsCandidate entries best ∧
      (∀ previous, oldest = some previous → best.2 ≤ previous.2) ∧
      ∀ key ∈ order, ∀ entry, entries.lookup key = some entry →
        best.2 ≤ entry.fetchedAt := by
  induction order generalizing oldest with
  | nil =>
    refine ⟨h best hbest, fun previous hprevious => ?_, by simp⟩
    have heq : some best = some previous := hbest.symm.trans hprevious
    rw [Option.some.inj heq]
  | cons key rest ih =>
    have hstep : ∀ next, olderEntry entries oldest key = some next →
        IsCandidate entries next := fun next hnext =>
      (olderEntry_candidate h hnext).1
    obtain ⟨hcandidate, hprevious, hrest⟩ := ih hstep hbest
    -- the accumulator after the first key is at most as young as that key
    have hnext : ∀ bound, (∀ next, olderEntry entries oldest key = some next →
        next.2 ≤ bound) → olderEntry entries oldest key ≠ none →
        best.2 ≤ bound := by
      intro bound hbound hne
      obtain ⟨next, hnext⟩ := Option.ne_none_iff_exists'.mp hne
      exact (hprevious next hnext).trans (hbound next hnext)
    refine ⟨hcandidate, fun previous heq => ?_, ?_⟩
    · apply hnext
      · intro next hnext
        exact (olderEntry_candidate h hnext).2.1 previous heq
      · simp [olderEntry_eq_none_iff, heq]
    · intro other hother entry hlookup
      rcases List.mem_cons.mp hother with rfl | hmem
      · apply hnext
        · intro next hnext
          exact (olderEntry_candidate h hnext).2.2 entry hlookup
        · have hmem : other ∈ entries :=
            AList.lookup_isSome.mp (by simp [hlookup])
          simp [olderEntry_eq_none_iff, hmem]
      · exact hrest other hmem entry hlookup

/-- The entry that goes is one of the oldest. -/
theorem evictOldestEntry_eq_erase (horder : order.Perm entries.keys)
    (hne : entries.keys ≠ []) :
    ∃ oldest entry, entries.lookup oldest = some entry ∧
      (∀ key entry', entries.lookup key = some entry' →
        entry.fetchedAt ≤ entry'.fetchedAt) ∧
      evictOldestEntry entries order = entries.erase oldest := by
  obtain ⟨first, hfirst⟩ := List.exists_mem_of_ne_nil _ hne
  cases hbest : oldestEntry entries order with
  | none =>
    have hnone := (foldl_olderEntry_eq_none_iff.mp hbest).2 first
      (horder.mem_iff.mpr hfirst)
    exact absurd hfirst hnone
  | some best =>
    obtain ⟨⟨entry, hlookup, htime⟩, -, hall⟩ :=
      foldl_olderEntry_candidate (by simp) hbest
    refine ⟨best.1, entry, hlookup, fun key entry' hlookup' => ?_, ?_⟩
    · have hmem : key ∈ entries.keys :=
        AList.lookup_isSome.mp (by simp [hlookup'])
      rw [htime]
      exact hall key (horder.mem_iff.mpr hmem) entry' hlookup'
    · simp only [evictOldestEntry, hbest]

/-! ## Insertions -/

/-- What an insertion under `key` makes of the entries before it. -/
structure InsertionOutcome (lib : X509Library) (now : Int) (key : String)
    (crl : RevocationList) (before after : CrlEntries) : Prop where
  stored : after.lookup key = some ⟨crl, now⟩
  bounded : after.keys.length ≤ crlMaxEntries
  survivors : ∀ other ≠ key, ∀ entry, after.lookup other = some entry →
    before.lookup other = some entry
  room : key ∈ before ∨ before.keys.length < crlMaxEntries →
    ∀ other ≠ key, after.lookup other = before.lookup other
  stale : key ∉ before → before.keys.length = crlMaxEntries →
    HasStale lib now before →
    ∀ other ≠ key, after.lookup other =
      (before.lookup other).filter fun entry => !isEntryStale lib now entry
  oldest : key ∉ before → before.keys.length = crlMaxEntries →
    ¬ HasStale lib now before →
    ∃ evicted entry, before.lookup evicted = some entry ∧
      (∀ other entry', before.lookup other = some entry' →
        entry.fetchedAt ≤ entry'.fetchedAt) ∧
      after.lookup evicted = none ∧
      ∀ other ≠ key, other ≠ evicted →
        after.lookup other = before.lookup other

theorem insertEntry_of_room {key : String} {crl : RevocationList}
    (hroom : key ∈ entries ∨ entries.keys.length < crlMaxEntries) :
    insertEntry lib entries order now key crl =
      entries.insert key ⟨crl, now⟩ := by
  have hskip : ¬ (key ∉ entries ∧ crlMaxEntries ≤ entries.keys.length) := by
    rintro ⟨hnew, hfull⟩
    rcases hroom with hmem | hlt
    · exact hnew hmem
    · omega
  simp only [insertEntry, hskip, if_false]

theorem insertEntry_of_stale {key : String} {crl : RevocationList}
    (hnew : key ∉ entries) (hfull : entries.keys.length = crlMaxEntries)
    (hstale : HasStale lib now entries) :
    insertEntry lib entries order now key crl =
      (evictStaleEntries lib now entries).insert key ⟨crl, now⟩ := by
  have hlt := length_keys_evictStaleEntries_lt hstale
  have hroom : ¬ crlMaxEntries ≤
      (evictStaleEntries lib now entries).keys.length := by omega
  have hevict : key ∉ entries ∧ crlMaxEntries ≤ entries.keys.length :=
    ⟨hnew, hfull.ge⟩
  simp only [insertEntry, hevict, hroom, not_false_eq_true, and_self,
    if_true, if_false]

theorem insertEntry_of_fresh {key : String} {crl : RevocationList}
    (hnew : key ∉ entries) (hfull : entries.keys.length = crlMaxEntries)
    (hfresh : ¬ HasStale lib now entries) :
    insertEntry lib entries order now key crl =
      (evictOldestEntry entries order).insert key ⟨crl, now⟩ := by
  have hevict : key ∉ entries ∧ crlMaxEntries ≤ entries.keys.length :=
    ⟨hnew, hfull.ge⟩
  simp only [insertEntry, evictStaleEntries_of_fresh hfresh, hevict,
    not_false_eq_true, and_self, if_true]

theorem insertEntry_outcome {key : String} {crl : RevocationList}
    (horder : order.Perm entries.keys)
    (hbound : entries.keys.length ≤ crlMaxEntries) :
    InsertionOutcome lib now key crl entries
      (insertEntry lib entries order now key crl) where
  stored := by
    unfold insertEntry
    exact AList.lookup_insert _
  bounded := length_keys_insertEntry_le horder hbound
  survivors := by
    intro other hother entry hlookup
    rcases insertEntry_subset hlookup with ⟨rfl, -⟩ | hold
    · exact absurd rfl hother
    · exact hold
  room := by
    intro hroom other hother
    rw [insertEntry_of_room hroom, AList.lookup_insert_ne hother]
  stale := by
    intro hnew hfull hstale other hother
    rw [insertEntry_of_stale hnew hfull hstale,
      AList.lookup_insert_ne hother, lookup_evictStaleEntries]
  oldest := by
    intro hnew hfull hfresh
    have hne : entries.keys ≠ [] := by
      intro hnil
      simp [hnil, crlMaxEntries] at hfull
    obtain ⟨oldest, entry, hlookup, hmin, herase⟩ :=
      evictOldestEntry_eq_erase horder hne
    have hmem : oldest ∈ entries := AList.lookup_isSome.mp (by simp [hlookup])
    have hkey : oldest ≠ key := fun heq => hnew (heq ▸ hmem)
    rw [insertEntry_of_fresh hnew hfull hfresh, herase]
    refine ⟨oldest, entry, hlookup, hmin, ?_, fun other hother hne => ?_⟩
    · rw [AList.lookup_insert_ne hkey, AList.lookup_erase]
    · rw [AList.lookup_insert_ne hother, AList.lookup_erase_ne hne]

/-- A full cache, whose entries were fetched one after the other. -/
def fullCache : CrlEntries :=
  ⟨(List.range crlMaxEntries).map fun i =>
      ⟨String.ofList (List.replicate i 'a'), ⟨⟨[]⟩, i⟩⟩, by
    have hkeys : ((List.range crlMaxEntries).map fun i =>
        String.ofList (List.replicate i 'a')).Nodup := by
      refine List.Nodup.map ?_ List.nodup_range
      intro i j heq
      simpa using congrArg (fun text => text.toList.length) heq
    simpa [List.NodupKeys, List.keys, Function.comp_def] using hkeys⟩

theorem lookup_fullCache {key : String} {entry : CrlEntry}
    (h : fullCache.lookup key = some entry) :
    ∃ i : ℕ, key = String.ofList (List.replicate i 'a') ∧
      entry = ⟨⟨[]⟩, i⟩ := by
  obtain ⟨i, -, heq⟩ := List.mem_map.mp (AList.mem_lookup_iff.mp h)
  cases heq
  exact ⟨i, rfl, rfl⟩

theorem fullCache_fresh : ¬ HasStale shortLivedLists 7 fullCache := by
  rintro ⟨key, entry, hlookup, hstale⟩
  obtain ⟨i, -, rfl⟩ := lookup_fullCache hlookup
  have httl : ¬ (7 : Int) > i + crlMaxCacheTTL := by
    simp only [crlMaxCacheTTL]
    omega
  simp only [isEntryStale, httl, if_false, shortLivedLists] at hstale
  simp at hstale

theorem insertEntry_outcome_fullCache :
    ∃ evicted entry, fullCache.lookup evicted = some entry ∧
      entry.fetchedAt = 0 ∧
      (insertEntry shortLivedLists fullCache fullCache.keys 7 "b"
        ⟨[7]⟩).lookup evicted = none ∧
      (insertEntry shortLivedLists fullCache fullCache.keys 7 "b"
        ⟨[7]⟩).lookup "b" = some ⟨⟨[7]⟩, 7⟩ := by
  have hlength : fullCache.keys.length = crlMaxEntries := by
    simp [fullCache, AList.keys, List.keys]
  have hnew : "b" ∉ fullCache := by
    intro hmem
    obtain ⟨entry, hlookup⟩ :=
      Option.isSome_iff_exists.mp (AList.lookup_isSome.mpr hmem)
    obtain ⟨i, hkey, -⟩ := lookup_fullCache hlookup
    have hlist : ['b'] = List.replicate i 'a' := by
      simpa using congrArg String.toList hkey
    have hmem : 'b' ∈ List.replicate i 'a' := hlist ▸ List.mem_singleton_self _
    exact absurd (List.eq_of_mem_replicate hmem) (by decide)
  have houtcome : InsertionOutcome shortLivedLists 7 "b" ⟨[7]⟩ fullCache
      (insertEntry shortLivedLists fullCache fullCache.keys 7 "b" ⟨[7]⟩) :=
    insertEntry_outcome (List.Perm.refl fullCache.keys) hlength.le
  obtain ⟨evicted, entry, hlookup, hmin, hgone, -⟩ :=
    houtcome.oldest hnew hlength fullCache_fresh
  have hfirst : fullCache.lookup "" = some ⟨⟨[]⟩, 0⟩ := by rfl
  have hle : entry.fetchedAt ≤ 0 := hmin "" _ hfirst
  obtain ⟨i, -, rfl⟩ := lookup_fullCache hlookup
  refine ⟨evicted, _, hlookup, ?_, hgone, houtcome.stored⟩
  simp only at hle ⊢
  omega

end Eviction

/-! ## Insertions of a run -/

theorem CacheState.length_keys_step_le {lib : X509Library}
    {s s' : CacheState} {event : CacheEvent}
    (h : s.entries.keys.length ≤ crlMaxEntries)
    (hstep : CacheState.step lib s event = some s') :
    s'.entries.keys.length ≤ crlMaxEntries := by
  cases CacheState.step_cases hstep with
  | insert key flight crl order hflight hphase horder =>
    exact length_keys_insertEntry_le horder h
  | close => simp
  | _ => exact h

theorem CacheState.insert_outcome_of_run {lib : X509Library} {clock : Int}
    {events : List CacheEvent} {s s' : CacheState} {key : String}
    {order : List String}
    (hrun : runSteps (CacheState.step lib) (newCRLCache clock) events =
      some s)
    (hstep : CacheState.step lib s (.insert key order) = some s') :
    ∃ crl, InsertionOutcome lib s.clock key crl s.entries s'.entries := by
  have hbound : s.entries.keys.length ≤ crlMaxEntries := by
    refine runSteps_invariant
      (P := fun t => t.entries.keys.length ≤ crlMaxEntries) ?_ (by
        simp [newCRLCache]) hrun
    intro t event t' _ ht ht'
    exact CacheState.length_keys_step_le ht ht'
  cases CacheState.step_cases hstep with
  | insert key flight crl order hflight hphase horder =>
    exact ⟨crl, insertEntry_outcome horder hbound⟩

end VerifierApi

import VerifierApi.CrlCache
import VerifierApi.BoundedCache
import Mathlib.Data.Set.Function

/-!
# Keys and eviction

A key is a text with a fingerprint after a separator, and determines both.
The entries stay within their bound: an insertion which finds them full
first drops what is stale, and then the oldest entry.
-/

namespace VerifierApi

/-! ## Keys -/

/-- A key determines the URL and the fingerprint of the issuer, although a
URL may hold the separator. -/
theorem crlCacheKey_inj {lib : X509Library} {url url' : String}
    {issuer issuer' : Certificate}
    (h : crlCacheKey lib url issuer = crlCacheKey lib url' issuer') :
    url = url' ∧ lib.sha256 issuer.raw = lib.sha256 issuer'.raw := by
  have hlist := congrArg String.toList h
  simp only [crlCacheKey, String.toList_append, String.toList_ofList,
    List.append_assoc] at hlist
  obtain ⟨hurl, hhash⟩ := append_hexDigits_inj hlist
  exact ⟨String.toList_injective hurl, hhash⟩

theorem crlCacheKey_injOn {lib : X509Library} {certs : Set Certificate}
    (hcerts : Set.InjOn (fun cert => lib.sha256 cert.raw) certs)
    {url url' : String} {issuer issuer' : Certificate} (hissuer : issuer ∈ certs)
    (hissuer' : issuer' ∈ certs)
    (h : crlCacheKey lib url issuer = crlCacheKey lib url' issuer') :
    url = url' ∧ issuer = issuer' := by
  obtain ⟨hurl, hhash⟩ := crlCacheKey_inj h
  exact ⟨hurl, hcerts hissuer hissuer' hhash⟩

/-! ## Eviction -/

section Eviction

variable {lib : X509Library} {entries : CrlEntries} {order : List String}
  {now : Int}

theorem evictStaleEntries_subset {key : String} {entry : CrlEntry}
    (h : (evictStaleEntries lib now entries).lookup key = some entry) :
    entries.lookup key = some entry := by
  have hmem := AList.mem_lookup_iff.mp h
  exact AList.mem_lookup_iff.mpr (List.mem_of_mem_filter hmem)

theorem keys_evictStaleEntries_sublist (lib : X509Library) (now : Int)
    (entries : CrlEntries) :
    (evictStaleEntries lib now entries).keys.Sublist entries.keys :=
  List.filter_sublist.map _

theorem olderEntry_eq_none_iff {oldest : Option (String × Int)}
    {key : String} :
    olderEntry entries oldest key = none ↔ oldest = none ∧ key ∉ entries := by
  unfold olderEntry
  cases hlookup : entries.lookup key with
  | none => simp [AList.lookup_eq_none.mp hlookup]
  | some entry =>
      have hmem : key ∈ entries := AList.lookup_isSome.mp (by simp [hlookup])
      cases oldest with
      | none => simp [hmem]
      | some best =>
          simp only [reduceCtorEq, false_and, iff_false]
          split <;> simp

/-- The iteration keeps its candidate, or prefers the entry which it meets,
and neither is younger than the other one. -/
theorem olderEntry_cases {oldest : Option (String × Int)} {key : String}
    {best : String × Int}
    (hbest : olderEntry entries oldest key = some best) :
    (oldest = some best ∧ ∀ entry, entries.lookup key = some entry →
      best.2 ≤ entry.fetchedAt) ∨
    ∃ entry, entries.lookup key = some entry ∧
      best = (key, entry.fetchedAt) ∧
        ∀ previous, oldest = some previous → best.2 ≤ previous.2 := by
  unfold olderEntry at hbest
  cases hlookup : entries.lookup key with
  | none =>
      simp only [hlookup] at hbest
      exact .inl ⟨hbest, by simp⟩
  | some entry =>
      simp only [hlookup] at hbest
      cases oldest with
      | none =>
          obtain rfl : (key, entry.fetchedAt) = best := by simpa using hbest
          exact .inr ⟨entry, rfl, rfl, by simp⟩
      | some previous =>
          simp only at hbest
          split at hbest
          next hlt =>
            obtain rfl : (key, entry.fetchedAt) = best := by simpa using hbest
            refine .inr ⟨entry, rfl, rfl, ?_⟩
            rintro _ ⟨⟩
            exact hlt.le
          next hge =>
            refine .inl ⟨hbest, ?_⟩
            obtain rfl : previous = best := by simpa using hbest
            rintro _ ⟨⟩
            exact not_lt.mp hge

theorem olderEntry_mem {oldest : Option (String × Int)} {key : String}
    (h : ∀ best, oldest = some best → best.1 ∈ entries) {best : String × Int}
    (hbest : olderEntry entries oldest key = some best) :
    best.1 ∈ entries := by
  rcases olderEntry_cases hbest with ⟨hkept, -⟩ | ⟨entry, hlookup, rfl, -⟩
  · exact h best hkept
  · exact AList.lookup_isSome.mp (by simp [hlookup])

theorem foldl_olderEntry_eq_none_iff {oldest : Option (String × Int)} :
    order.foldl (olderEntry entries) oldest = none ↔
      oldest = none ∧ ∀ key ∈ order, key ∉ entries := by
  induction order generalizing oldest with
  | nil => simp
  | cons key rest ih =>
      simp only [List.foldl_cons, ih, olderEntry_eq_none_iff,
        List.forall_mem_cons, and_assoc]

theorem foldl_olderEntry_mem {oldest : Option (String × Int)}
    (h : ∀ best, oldest = some best → best.1 ∈ entries) {best : String × Int}
    (hbest : order.foldl (olderEntry entries) oldest = some best) :
    best.1 ∈ entries := by
  induction order generalizing oldest with
  | nil => exact h best hbest
  | cons key rest ih => exact ih (fun _ => olderEntry_mem h) hbest

theorem evictOldestEntry_subset {key : String} {entry : CrlEntry}
    (h : (evictOldestEntry entries order).lookup key = some entry) :
    entries.lookup key = some entry := by
  unfold evictOldestEntry at h
  split at h
  next => exact h
  next oldestKey _ _ =>
    have hne : key ≠ oldestKey := by
      rintro rfl
      simp at h
    rwa [AList.lookup_erase_ne hne] at h

/-- Provided the iteration meets a key, one entry goes. -/
theorem length_keys_evictOldestEntry_lt
    (horder : ∃ key ∈ order, key ∈ entries) :
    (evictOldestEntry entries order).keys.length < entries.keys.length := by
  obtain ⟨key, hkey, hmem⟩ := horder
  unfold evictOldestEntry
  split
  next hnone =>
    exact absurd hmem ((foldl_olderEntry_eq_none_iff.mp hnone).2 key hkey)
  next oldestKey oldestTime holdest =>
    have holdestMem : oldestKey ∈ entries.keys :=
      foldl_olderEntry_mem (by simp) holdest
    have hpos := List.length_pos_of_mem holdestMem
    rw [AList.keys_erase, List.length_erase_of_mem holdestMem]
    omega

theorem insertEntry_subset {key key' : String} {crl : RevocationList}
    {entry : CrlEntry}
    (h : (insertEntry lib entries order now key crl).lookup key' =
      some entry) :
    (key' = key ∧ entry = ⟨crl, now⟩) ∨
      entries.lookup key' = some entry := by
  unfold insertEntry at h
  by_cases hkey : key' = key
  · subst hkey
    rw [AList.lookup_insert, Option.some.injEq] at h
    exact .inl ⟨rfl, h.symm⟩
  · rw [AList.lookup_insert_ne hkey] at h
    right
    split at h
    next =>
      simp only at h
      split at h
      next => exact evictStaleEntries_subset (evictOldestEntry_subset h)
      next => exact evictStaleEntries_subset h
    next => exact h

theorem length_keys_insertEntry_le {key : String} {crl : RevocationList}
    (horder : order.Perm entries.keys)
    (h : entries.keys.length ≤ crlMaxEntries) :
    (insertEntry lib entries order now key crl).keys.length ≤
      crlMaxEntries := by
  have hsub := keys_evictStaleEntries_sublist lib now entries
  have hinsert := fun room : CrlEntries =>
    length_keys_insert_le room key (⟨crl, now⟩ : CrlEntry)
  unfold insertEntry
  by_cases hfull : key ∉ entries ∧ crlMaxEntries ≤ entries.keys.length
  · simp only [hfull, not_false_eq_true, and_self, if_true]
    split
    next hstill =>
      have hne : (evictStaleEntries lib now entries).keys ≠ [] := by
        intro hnil
        simp [hnil, crlMaxEntries] at hstill
      obtain ⟨first, hfirst⟩ := List.exists_mem_of_ne_nil _ hne
      have hlt : (evictOldestEntry (evictStaleEntries lib now entries)
          order).keys.length <
          (evictStaleEntries lib now entries).keys.length :=
        length_keys_evictOldestEntry_lt
          ⟨first, horder.mem_iff.mpr (hsub.mem hfirst), hfirst⟩
      calc
        _ ≤ (evictOldestEntry (evictStaleEntries lib now entries)
              order).keys.length + 1 := hinsert _
        _ ≤ (evictStaleEntries lib now entries).keys.length := hlt
        _ ≤ entries.keys.length := hsub.length_le
        _ ≤ crlMaxEntries := h
    next hroom =>
      have hle := hinsert (evictStaleEntries lib now entries)
      omega
  · simp only [hfull, if_false]
    by_cases hmem : key ∈ entries
    · rwa [length_keys_insert_of_mem hmem]
    · have hroom : entries.keys.length < crlMaxEntries := by
        by_contra hge
        exact hfull ⟨hmem, by omega⟩
      exact (hinsert entries).trans hroom

end Eviction

end VerifierApi

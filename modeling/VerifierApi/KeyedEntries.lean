import Mathlib.Data.Finset.Card
import Mathlib.Data.List.AList

/-!
# A map built from a list of entries

A later entry replaces an earlier one of the same key.  The map does not show
how often a key occurs: where the keys are distinct it holds every entry, and
where they are not, the order of the entries decides what it holds.
-/

namespace VerifierApi

variable {ε κ ν : Type} [DecidableEq κ] {key : ε → κ} {value : ε → ν}

def collapse (key : ε → κ) (value : ε → ν) (entries : List ε) :
    AList fun _ : κ => ν :=
  entries.foldl (fun m entry => m.insert (key entry) (value entry)) ∅

theorem collapse_append_singleton (entries : List ε) (entry : ε) :
    collapse key value (entries ++ [entry]) =
      (collapse key value entries).insert (key entry) (value entry) := by
  simp [collapse, List.foldl_append]

theorem mem_collapse {entries : List ε} {k : κ} :
    k ∈ collapse key value entries ↔ k ∈ entries.map key := by
  induction entries using List.reverseRecOn with
  | nil => simp [collapse]
  | append_singleton entries entry ih =>
      rw [collapse_append_singleton, AList.mem_insert, ih, List.map_append,
        List.mem_append, List.map_singleton, List.mem_singleton]
      exact Or.comm

theorem length_keys_collapse (entries : List ε) :
    (collapse key value entries).keys.length =
      (entries.map key).toFinset.card := by
  have hkeys : (collapse key value entries).keys.toFinset =
      (entries.map key).toFinset := by
    ext k
    rw [List.mem_toFinset, List.mem_toFinset, ← AList.mem_keys, mem_collapse]
  rw [← hkeys]
  exact (List.toFinset_card_of_nodup (AList.keys_nodup _)).symm

theorem exists_of_lookup_collapse {entries : List ε} {k : κ} {v : ν}
    (h : (collapse key value entries).lookup k = some v) :
    ∃ entry ∈ entries, key entry = k ∧ value entry = v := by
  induction entries using List.reverseRecOn with
  | nil => simp [collapse] at h
  | append_singleton entries entry ih =>
      rw [collapse_append_singleton] at h
      by_cases hk : k = key entry
      · subst hk
        rw [AList.lookup_insert, Option.some.injEq] at h
        exact ⟨entry, by simp, rfl, h⟩
      · rw [AList.lookup_insert_ne hk] at h
        obtain ⟨other, hmem, hkey, hvalue⟩ := ih h
        exact ⟨other, List.mem_append_left _ hmem, hkey, hvalue⟩

theorem exists_lookup_collapse {entries : List ε} {k : κ}
    (hk : k ∈ entries.map key) :
    ∃ entry ∈ entries, key entry = k ∧
      (collapse key value entries).lookup k = some (value entry) := by
  have hsome : ((collapse key value entries).lookup k).isSome := by
    rw [AList.lookup_isSome, mem_collapse]
    exact hk
  obtain ⟨v, hv⟩ := Option.isSome_iff_exists.mp hsome
  obtain ⟨entry, hmem, hkey, hvalue⟩ := exists_of_lookup_collapse hv
  exact ⟨entry, hmem, hkey, by rw [hv, hvalue]⟩

theorem lookup_collapse_of_nodup {entries : List ε}
    (hnodup : (entries.map key).Nodup) {entry : ε}
    (hmem : entry ∈ entries) :
    (collapse key value entries).lookup (key entry) =
      some (value entry) := by
  have hk : key entry ∈ entries.map key := List.mem_map_of_mem hmem
  obtain ⟨other, hother, hkey, hlookup⟩ :=
    exists_lookup_collapse hk
  obtain rfl : other = entry :=
    List.inj_on_of_nodup_map hnodup hother hmem hkey
  exact hlookup

/-- Among two lists of entries the second one counts. -/
theorem lookup_collapse_append_of_mem {entries entries' : List ε} {k : κ}
    (hk : k ∈ entries'.map key) :
    (collapse key value (entries ++ entries')).lookup k =
      (collapse key value entries').lookup k := by
  induction entries' using List.reverseRecOn with
  | nil => simp at hk
  | append_singleton rest entry ih =>
      rw [← List.append_assoc, collapse_append_singleton,
        collapse_append_singleton]
      by_cases hlast : k = key entry
      · subst hlast
        rw [AList.lookup_insert, AList.lookup_insert]
      · rw [AList.lookup_insert_ne hlast, AList.lookup_insert_ne hlast]
        apply ih
        simpa [hlast] using hk

/-- The entries can be reordered so that every key shows a value which each
of them has. -/
theorem exists_perm_lookup_collapse [DecidableEq ν] {entries : List ε}
    {v : ν}
    (h : ∀ k ∈ entries.map key, ∃ entry ∈ entries,
      key entry = k ∧ value entry = v) :
    ∃ entries', entries'.Perm entries ∧ ∀ k ∈ entries.map key,
      (collapse key value entries').lookup k = some v := by
  let last := entries.filter fun entry => value entry = v
  let first := entries.filter fun entry => !decide (value entry = v)
  have hperm : (first ++ last).Perm entries :=
    List.perm_append_comm.trans (List.filter_append_perm _ _)
  refine ⟨first ++ last, hperm, ?_⟩
  intro k hk
  obtain ⟨entry, hmem, rfl, hvalue⟩ := h k hk
  have hlast : key entry ∈ last.map key :=
    List.mem_map_of_mem (List.mem_filter.mpr ⟨hmem, by simpa using hvalue⟩)
  obtain ⟨other, hother, -, hlookup⟩ := exists_lookup_collapse hlast
  have hgood := (List.mem_filter.mp hother).2
  rw [lookup_collapse_append_of_mem hlast, hlookup, of_decide_eq_true hgood]

end VerifierApi

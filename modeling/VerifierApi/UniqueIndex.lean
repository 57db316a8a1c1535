import VerifierApi.Fallible
import Mathlib.Data.List.AList

/-!
# Indexing rows by a key which must be unique

The loop reads a list of rows into a map.  Reading a row may fail, may skip
the row, or may produce a key and a value; a key which is already present is
an error.  On success the map is exactly the relation which the rows spell
out, whatever their order.
-/

namespace VerifierApi

variable {ε ρ κ ν : Type} [DecidableEq κ]

def indexUnique (read : ρ → Except ε (Option (κ × ν))) (duplicate : κ → ε) :
    List ρ → AList (fun _ : κ => ν) → Except ε (AList (fun _ : κ => ν))
  | [], index => .ok index
  | row :: rest, index =>
      match read row with
      | .error e => .error e
      | .ok none => indexUnique read duplicate rest index
      | .ok (some (key, value)) =>
          if (index.lookup key).isSome then .error (duplicate key)
          else indexUnique read duplicate rest (index.insert key value)

variable {read : ρ → Except ε (Option (κ × ν))} {duplicate : κ → ε}

/-- The first row is skipped, or it spells a key which is not there yet. -/
theorem indexUnique_cons_eq_ok_iff {row : ρ} {rest : List ρ}
    {index result : AList (fun _ : κ => ν)} :
    indexUnique read duplicate (row :: rest) index = .ok result ↔
      (read row = .ok none ∧
        indexUnique read duplicate rest index = .ok result) ∨
      ∃ own stored, read row = .ok (some (own, stored)) ∧
        index.lookup own = none ∧
        indexUnique read duplicate rest (index.insert own stored) =
          .ok result := by
  cases hread : read row with
  | error e => simp [indexUnique, hread]
  | ok entry =>
      cases entry with
      | none => simp [indexUnique, hread]
      | some pair =>
          obtain ⟨own, stored⟩ := pair
          by_cases hfresh : index.lookup own = none
          · simp [indexUnique, hread, hfresh]
          · have hsome : (index.lookup own).isSome = true :=
              Option.isSome_iff_ne_none.mpr hfresh
            simp [indexUnique, hread, hfresh, hsome]

theorem indexUnique_reads
    {rows : List ρ} {index result : AList (fun _ : κ => ν)}
    (h : indexUnique read duplicate rows index = .ok result) :
    ∀ row ∈ rows, ∃ entry, read row = .ok entry := by
  induction rows generalizing index with
  | nil => simp
  | cons row rest ih =>
      rw [List.forall_mem_cons]
      rcases indexUnique_cons_eq_ok_iff.mp h with
        ⟨hread, hrest⟩ | ⟨own, stored, hread, -, hrest⟩
      · exact ⟨⟨none, hread⟩, ih hrest⟩
      · exact ⟨⟨some (own, stored), hread⟩, ih hrest⟩

theorem indexUnique_fails {P : ε → Prop}
    (hread : ∀ row, FailsWith P (read row)) (hduplicate : ∀ key, P (duplicate key))
    (rows : List ρ) (index : AList (fun _ : κ => ν)) :
    FailsWith P (indexUnique read duplicate rows index) := by
  induction rows generalizing index with
  | nil => exact FailsWith.ok _
  | cons row rest ih =>
      unfold indexUnique
      split
      next err herr => exact FailsWith.error (hread row err herr)
      next => exact ih index
      next key value _ =>
        exact FailsWith.of_ite (fun _ => .error (hduplicate key))
          (fun _ => ih _)

/-- On success the map holds what it held before and what the rows say. -/
theorem lookup_indexUnique
    {rows : List ρ} {index result : AList (fun _ : κ => ν)}
    (h : indexUnique read duplicate rows index = .ok result)
    (key : κ) (value : ν) :
    result.lookup key = some value ↔
      index.lookup key = some value ∨
        ∃ row ∈ rows, read row = .ok (some (key, value)) := by
  induction rows generalizing index with
  | nil =>
      simp only [indexUnique, Except.ok.injEq] at h
      simp [h]
  | cons row rest ih =>
      rcases indexUnique_cons_eq_ok_iff.mp h with
        ⟨hread, hrest⟩ | ⟨own, stored, hread, hnone, hrest⟩
      · rw [ih hrest]
        simp [hread]
      · rw [ih hrest]
        by_cases hkey : key = own
        · subst key
          rw [AList.lookup_insert, hnone]
          simp [hread]
        · rw [AList.lookup_insert_ne hkey]
          have hother : read row ≠ .ok (some (key, value)) := by
            rw [hread]
            intro heq
            simp only [Except.ok.injEq, Option.some.injEq,
              Prod.mk.injEq] at heq
            exact hkey heq.1.symm
          simp [hother]

theorem indexUnique_fresh
    {rows : List ρ} {index result : AList (fun _ : κ => ν)}
    (h : indexUnique read duplicate rows index = .ok result) :
    ∀ row ∈ rows, ∀ key value, read row = .ok (some (key, value)) →
      index.lookup key = none := by
  induction rows generalizing index with
  | nil => simp
  | cons row rest ih =>
      rw [List.forall_mem_cons]
      rcases indexUnique_cons_eq_ok_iff.mp h with
        ⟨hread, hrest⟩ | ⟨own, stored, hread, hnone, hrest⟩
      · simp only [hread, Except.ok.injEq, reduceCtorEq, false_implies,
          implies_true, true_and]
        exact ih hrest
      · constructor
        · intro key value hvalue
          simp only [hread, Except.ok.injEq, Option.some.injEq,
            Prod.mk.injEq] at hvalue
          rw [← hvalue.1]
          exact hnone
        · intro other hother key value hvalue
          have hlookup := ih hrest other hother key value hvalue
          by_cases hkey : key = own
          · rw [hkey, AList.lookup_insert] at hlookup
            simp at hlookup
          · rwa [AList.lookup_insert_ne hkey] at hlookup

theorem indexUnique_distinct
    {rows : List ρ} {index result : AList (fun _ : κ => ν)}
    (h : indexUnique read duplicate rows index = .ok result) :
    rows.Pairwise (fun row other =>
      ∀ key value value', read row = .ok (some (key, value)) →
        read other ≠ .ok (some (key, value'))) := by
  induction rows generalizing index with
  | nil => simp
  | cons row rest ih =>
      rcases indexUnique_cons_eq_ok_iff.mp h with
        ⟨hread, hrest⟩ | ⟨own, stored, hread, -, hrest⟩
      · refine List.pairwise_cons.mpr ⟨?_, ih hrest⟩
        simp [hread]
      · refine List.pairwise_cons.mpr ⟨?_, ih hrest⟩
        intro other hother key value value' hvalue hclash
        simp only [hread, Except.ok.injEq, Option.some.injEq,
          Prod.mk.injEq] at hvalue
        -- The key of the first row is in the map when the others are read.
        have hlookup :=
          indexUnique_fresh hrest other hother key value' hclash
        rw [← hvalue.1, AList.lookup_insert] at hlookup
        simp at hlookup

theorem indexUnique_succeeds
    {rows : List ρ} {index : AList (fun _ : κ => ν)}
    (hreads : ∀ row ∈ rows, ∃ entry, read row = .ok entry)
    (hfresh : ∀ row ∈ rows, ∀ key value,
      read row = .ok (some (key, value)) → index.lookup key = none)
    (hpairwise : rows.Pairwise (fun row other =>
      ∀ key value value', read row = .ok (some (key, value)) →
        read other ≠ .ok (some (key, value')))) :
    ∃ result, indexUnique read duplicate rows index = .ok result := by
  induction rows generalizing index with
  | nil => exact ⟨index, rfl⟩
  | cons row rest ih =>
      obtain ⟨entry, hread⟩ := hreads row (by simp)
      have hreadsRest : ∀ other ∈ rest, ∃ entry, read other = .ok entry :=
        fun other hother => hreads other (List.mem_cons_of_mem row hother)
      obtain ⟨hhead, htail⟩ := List.pairwise_cons.mp hpairwise
      cases entry with
      | none =>
          have hrest : ∃ result,
              indexUnique read duplicate rest index = .ok result := by
            apply ih hreadsRest _ htail
            intro other hother
            exact hfresh other (List.mem_cons_of_mem row hother)
          obtain ⟨result, hresult⟩ := hrest
          exact ⟨result, indexUnique_cons_eq_ok_iff.mpr
            (.inl ⟨hread, hresult⟩)⟩
      | some pair =>
          obtain ⟨own, stored⟩ := pair
          have hnone : index.lookup own = none :=
            hfresh row (by simp) own stored hread
          have hrest : ∃ result, indexUnique read duplicate rest
              (index.insert own stored) = .ok result := by
            apply ih hreadsRest _ htail
            intro other hother key value hvalue
            have hkey : key ≠ own := by
              intro heq
              subst key
              exact hhead other hother own stored value hread hvalue
            rw [AList.lookup_insert_ne hkey]
            exact hfresh other (List.mem_cons_of_mem row hother)
              key value hvalue
          obtain ⟨result, hresult⟩ := hrest
          exact ⟨result, indexUnique_cons_eq_ok_iff.mpr
            (.inr ⟨own, stored, hread, hnone, hresult⟩)⟩

omit [DecidableEq κ] in
/-- Images are pairwise distinct exactly when each fibre has at most one
element. -/
theorem pairwise_ne_iff_fibre_le_one [DecidableEq κ]
    (key : ρ → κ) (rows : List ρ) :
    rows.Pairwise (fun row other => key row ≠ key other) ↔
      ∀ value, (rows.filter (fun row => key row = value)).length ≤ 1 := by
  have hnodup :
      rows.Pairwise (fun row other => key row ≠ key other) ↔
        (rows.map key).Nodup := by
    rw [List.Nodup, List.pairwise_map]
  rw [hnodup, List.nodup_iff_count_le_one]
  apply forall_congr'
  intro value
  rw [List.count, List.countP_map, List.countP_eq_length_filter]
  have hfilter :
      rows.filter ((fun other => other == value) ∘ key) =
        rows.filter (fun row => key row = value) := by
    apply List.filter_congr
    intro row _
    simp [beq_eq_decide]
  rw [hfilter]

end VerifierApi

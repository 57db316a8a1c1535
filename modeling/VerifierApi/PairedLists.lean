import Mathlib.Data.List.Forall2

/-!
# Lists related entry by entry

Rules for `List.Forall₂` used to follow the entries of a batch through the
stages of a computation.
-/

namespace VerifierApi

variable {α β γ : Type} {R : α → β → Prop} {S : α → γ → Prop}

theorem forall₂_exists_left {xs : List α} {ys : List β}
    (h : List.Forall₂ R xs ys) {y : β} (hy : y ∈ ys) :
    ∃ x ∈ xs, R x y := by
  induction h with
  | nil => simp at hy
  | @cons x z xs ys hxy hrest ih =>
      rcases List.mem_cons.mp hy with rfl | htail
      · exact ⟨x, List.mem_cons_self .., hxy⟩
      · obtain ⟨x', hx', hR⟩ := ih htail
        exact ⟨x', List.mem_cons_of_mem _ hx', hR⟩

theorem exists_forall₂ {xs : List α} (h : ∀ x ∈ xs, ∃ y, R x y) :
    ∃ ys, List.Forall₂ R xs ys := by
  induction xs with
  | nil => exact ⟨[], List.Forall₂.nil⟩
  | cons x rest ih =>
      obtain ⟨y, hy⟩ := h x (List.mem_cons_self ..)
      obtain ⟨ys, hys⟩ := ih fun x' hx' => h x' (List.mem_cons_of_mem _ hx')
      exact ⟨y :: ys, .cons hy hys⟩

theorem forall₂_exists_right {xs : List α} {ys : List β}
    (h : List.Forall₂ R xs ys) {x : α} (hx : x ∈ xs) :
    ∃ y ∈ ys, R x y := by
  exact forall₂_exists_left h.flip hx

theorem forall₂_mem_left {xs : List α} {ys : List β}
    (h : List.Forall₂ R xs ys) :
    List.Forall₂ (fun x y => x ∈ xs ∧ R x y) xs ys :=
  (List.forall₂_and_left _ _).mpr ⟨fun _ hx => hx, h⟩

/-- Two lists related to a common third one are related to each other. -/
theorem forall₂_of_common {T : β → γ → Prop}
    {xs : List α} {ys : List β} {zs : List γ}
    (hR : List.Forall₂ R xs ys) (hS : List.Forall₂ S xs zs)
    (hT : ∀ x ∈ xs, ∀ y z, R x y → S x z → T y z) :
    List.Forall₂ T ys zs := by
  induction hR generalizing zs with
  | nil =>
      rw [List.forall₂_nil_left_iff.mp hS]
      exact List.Forall₂.nil
  | @cons x y xs ys hxy _ ih =>
      obtain ⟨z, rest, hxz, hrest, rfl⟩ := List.forall₂_cons_left_iff.mp hS
      refine List.Forall₂.cons (hT x (List.mem_cons_self ..) y z hxy hxz) ?_
      apply ih hrest
      intro x' hx'
      exact hT x' (List.mem_cons_of_mem _ hx')

theorem forall₂_comp {T : β → γ → Prop}
    {xs : List α} {ys : List β} {zs : List γ}
    (hR : List.Forall₂ R xs ys) (hT : List.Forall₂ T ys zs) :
    List.Forall₂ (fun x z => ∃ y, R x y ∧ T y z) xs zs := by
  induction hR generalizing zs with
  | nil =>
      rw [List.forall₂_nil_left_iff.mp hT]
      exact List.Forall₂.nil
  | @cons x y xs ys hxy _ ih =>
      obtain ⟨z, rest, hyz, hrest, rfl⟩ := List.forall₂_cons_left_iff.mp hT
      exact List.Forall₂.cons ⟨y, hxy, hyz⟩ (ih hrest)

/-- An intermediate entry for each pair gives an intermediate list. -/
theorem forall₂_exists_between {T : γ → β → Prop}
    {xs : List α} {ys : List β} (h : List.Forall₂ R xs ys)
    (hbetween : ∀ x y, R x y → ∃ z, S x z ∧ T z y) :
    ∃ zs, List.Forall₂ S xs zs ∧ List.Forall₂ T zs ys := by
  induction h with
  | nil => exact ⟨[], .nil, .nil⟩
  | cons hxy _ ih =>
      obtain ⟨z, hxz, hzy⟩ := hbetween _ _ hxy
      obtain ⟨zs, hxs, hys⟩ := ih
      exact ⟨z :: zs, .cons hxz hxs, .cons hzy hys⟩

theorem forall₂_map_eq {f : α → γ} {g : β → γ} {xs : List α} {ys : List β}
    (h : List.Forall₂ R xs ys) (hfg : ∀ x y, R x y → f x = g y) :
    xs.map f = ys.map g := by
  induction h with
  | nil => rfl
  | cons hxy _ ih => rw [List.map_cons, List.map_cons, hfg _ _ hxy, ih]

theorem forall₂_append_left_iff {xs xs' : List α} {zs : List β} :
    List.Forall₂ R (xs ++ xs') zs ↔
      ∃ ys ys', List.Forall₂ R xs ys ∧ List.Forall₂ R xs' ys' ∧
        zs = ys ++ ys' := by
  induction xs generalizing zs with
  | nil => simp
  | cons x xs ih =>
      rw [List.cons_append, List.forall₂_cons_left_iff]
      constructor
      · rintro ⟨z, rest, hxz, hrest, rfl⟩
        obtain ⟨ys, ys', hys, hys', rfl⟩ := ih.mp hrest
        exact ⟨z :: ys, ys', .cons hxz hys, hys', rfl⟩
      · rintro ⟨ys, ys', hys, hys', rfl⟩
        obtain ⟨z, rest, hxz, hrest, rfl⟩ :=
          List.forall₂_cons_left_iff.mp hys
        exact ⟨z, rest ++ ys', hxz, ih.mpr ⟨rest, ys', hrest, hys', rfl⟩,
          rfl⟩

/-- Distinctness carries over to a list related by a function backwards. -/
theorem forall₂_nodup {xs : List α} {ys : List β}
    (h : List.Forall₂ R xs ys) (hnodup : xs.Nodup)
    (hinj : ∀ x x' y, R x y → R x' y → x = x') : ys.Nodup := by
  induction h with
  | nil => exact List.nodup_nil
  | @cons x y xs ys hxy hrest ih =>
      rw [List.nodup_cons] at hnodup ⊢
      refine ⟨?_, ih hnodup.2⟩
      intro hmem
      obtain ⟨x', hx', hR⟩ := forall₂_exists_left hrest hmem
      exact hnodup.1 (hinj x x' y hxy hR ▸ hx')

end VerifierApi

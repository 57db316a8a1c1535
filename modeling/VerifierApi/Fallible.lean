import VerifierApi.PairedLists

/-!
# Fallible computations

Rules for sequences of checks in `Except`: when a sequence succeeds, when it
fails, and which property every error of a sequence has.
-/

namespace VerifierApi

variable {ε ε' α β : Type}

/-- A check: it fails with the given error unless the condition holds. -/
def ensure (p : Prop) [Decidable p] (err : ε) : Except ε Unit :=
  if p then .ok () else .error err

theorem ensure_eq_ok {p : Prop} [Decidable p] {err : ε} {u : Unit} :
    ensure p err = .ok u ↔ p := by
  unfold ensure
  split <;> simp_all

theorem ensure_eq_error {p : Prop} [Decidable p] {err err' : ε} :
    ensure p err = .error err' ↔ ¬ p ∧ err = err' := by
  unfold ensure
  split <;> simp_all

/-- A lookup: it fails with the given error when there is no value. -/
def require (value : Option α) (err : ε) : Except ε α :=
  match value with
  | some a => .ok a
  | none => .error err

theorem require_eq_ok {value : Option α} {err : ε} {a : α} :
    require value err = .ok a ↔ value = some a := by
  cases value <;> simp [require]

theorem require_eq_error {value : Option α} {err err' : ε} :
    require value err = .error err' ↔ value = none ∧ err = err' := by
  cases value <;> simp [require]

theorem exists_unit {p : Unit → Prop} : (∃ u, p u) ↔ p () := by
  constructor
  · rintro ⟨⟨⟩, hp⟩
    exact hp
  · intro hp
    exact ⟨(), hp⟩

theorem bind_eq_ok {x : Except ε α} {f : α → Except ε β} {b : β} :
    x >>= f = .ok b ↔ ∃ a, x = .ok a ∧ f a = .ok b := by
  cases x with
  | error err => simp [bind, Except.bind]
  | ok a => simp [bind, Except.bind]

theorem ensure_bind_eq_ok {p : Prop} [Decidable p] {err : ε}
    {f : Unit → Except ε β} {b : β} :
    ensure p err >>= f = .ok b ↔ p ∧ f () = .ok b := by
  rw [bind_eq_ok]
  constructor
  · rintro ⟨u, hp, hf⟩
    exact ⟨ensure_eq_ok.mp hp, hf⟩
  · rintro ⟨hp, hf⟩
    exact ⟨(), ensure_eq_ok.mpr hp, hf⟩

theorem bind_eq_error {x : Except ε α} {f : α → Except ε β} {err : ε} :
    x >>= f = .error err ↔
      x = .error err ∨ ∃ a, x = .ok a ∧ f a = .error err := by
  cases x with
  | error err' => simp [bind, Except.bind]
  | ok a => simp [bind, Except.bind]

theorem mapError_eq_ok {g : ε → ε'} {x : Except ε α} {a : α} :
    x.mapError g = .ok a ↔ x = .ok a := by
  cases x <;> simp [Except.mapError]

theorem mapError_eq_error {g : ε → ε'} {x : Except ε α} {err : ε'} :
    x.mapError g = .error err ↔ ∃ cause, x = .error cause ∧ g cause = err := by
  cases x <;> simp [Except.mapError]

theorem exists_ok_or_error (x : Except ε α) :
    (∃ a, x = .ok a) ∨ ∃ err, x = .error err := by
  cases x with
  | error err => exact .inr ⟨err, rfl⟩
  | ok a => exact .inl ⟨a, rfl⟩

theorem mapM_eq_ok_iff {f : α → Except ε β} {xs : List α} {ys : List β} :
    xs.mapM f = .ok ys ↔ List.Forall₂ (fun x y => f x = .ok y) xs ys := by
  induction xs generalizing ys with
  | nil =>
      rw [List.mapM_nil, List.forall₂_nil_left_iff]
      constructor
      · intro h
        simpa [pure, Except.pure] using h.symm
      · rintro rfl
        rfl
  | cons x rest ih =>
      rw [List.mapM_cons, bind_eq_ok, List.forall₂_cons_left_iff]
      constructor
      · rintro ⟨y, hy, h⟩
        obtain ⟨tail, htail, h⟩ := bind_eq_ok.mp h
        simp only [pure, Except.pure, Except.ok.injEq] at h
        exact ⟨y, tail, hy, ih.mp htail, h.symm⟩
      · rintro ⟨y, tail, hy, htail, rfl⟩
        exact ⟨y, hy, bind_eq_ok.mpr ⟨tail, ih.mpr htail, rfl⟩⟩

theorem mapM_eq_ok_map {f : α → Except ε β} {g : α → β} {xs : List α}
    (h : ∀ x ∈ xs, f x = .ok (g x)) : xs.mapM f = .ok (xs.map g) := by
  rw [mapM_eq_ok_iff, List.forall₂_map_right_iff, List.forall₂_same]
  exact h

/-- Every error of the computation has the property. -/
def FailsWith (P : ε → Prop) (x : Except ε α) : Prop :=
  ∀ err, x = .error err → P err

namespace FailsWith

variable {P Q : ε → Prop} {x : Except ε α}

theorem ok (a : α) : FailsWith P (.ok a : Except ε α) := by
  intro err h
  simp at h

theorem error {err : ε} (h : P err) :
    FailsWith P (.error err : Except ε α) := by
  intro err' herr
  simp only [Except.error.injEq] at herr
  exact herr ▸ h

theorem mono (hx : FailsWith P x) (h : ∀ err, P err → Q err) :
    FailsWith Q x := by
  intro err herr
  exact h err (hx err herr)

theorem ensure {p : Prop} [Decidable p] {err : ε} (h : P err) :
    FailsWith P (ensure p err) := by
  intro err' herr
  obtain ⟨-, rfl⟩ := ensure_eq_error.mp herr
  exact h

theorem bind {f : α → Except ε β} (hx : FailsWith P x)
    (hf : ∀ a, x = .ok a → FailsWith P (f a)) :
    FailsWith P (x >>= f) := by
  intro err herr
  rcases bind_eq_error.mp herr with hleft | ⟨a, ha, hright⟩
  · exact hx err hleft
  · exact hf a ha err hright

theorem ensure_bind {p : Prop} [Decidable p] {err : ε}
    {f : Unit → Except ε β} (h : P err) (hf : p → FailsWith P (f ())) :
    FailsWith P (VerifierApi.ensure p err >>= f) := by
  apply bind (ensure h)
  intro _ hp
  exact hf (ensure_eq_ok.mp hp)

theorem mapError {R : ε' → Prop} {g : ε → ε'} (hx : FailsWith P x)
    (h : ∀ err, P err → R (g err)) : FailsWith R (x.mapError g) := by
  intro err herr
  obtain ⟨cause, hcause, rfl⟩ := mapError_eq_error.mp herr
  exact h cause (hx cause hcause)

theorem mapError_of_forall {R : ε' → Prop} {g : ε → ε'}
    (h : ∀ err, R (g err)) : FailsWith R (x.mapError g) := by
  intro err herr
  obtain ⟨cause, -, rfl⟩ := mapError_eq_error.mp herr
  exact h cause

/-- A computation which always answers reports nothing. -/
theorem mapError_of_total {R : ε' → Prop} {g : ε → ε'}
    (h : ∃ a, x = .ok a) : FailsWith R (x.mapError g) := by
  obtain ⟨a, rfl⟩ := h
  exact ok a

theorem mapM {f : α → Except ε β} {xs : List α}
    (hf : ∀ x ∈ xs, FailsWith P (f x)) : FailsWith P (xs.mapM f) := by
  induction xs with
  | nil => exact ok _
  | cons x rest ih =>
      rw [List.mapM_cons]
      apply bind (hf x (List.mem_cons_self ..))
      intro y _
      apply bind (ih fun z hz => hf z (List.mem_cons_of_mem _ hz))
      intro ys _
      exact ok _

theorem mapM_iff {C : α → Prop} {f : α → Except ε β} {g : α → β}
    {xs : List α} (hok : ∀ x ∈ xs, C x → f x = .ok (g x))
    (herror : ∀ x ∈ xs, ¬ C x → ∃ err, f x = .error err ∧ P err) :
    (∃ err, xs.mapM f = .error err ∧ P err) ↔ ∃ x ∈ xs, ¬ C x := by
  constructor
  · rintro ⟨err, herr, -⟩
    by_contra hall
    have hC : ∀ x ∈ xs, C x := by
      intro x hx
      by_contra hnot
      exact hall ⟨x, hx, hnot⟩
    rw [mapM_eq_ok_map fun x hx => hok x hx (hC x hx)] at herr
    simp at herr
  · rintro ⟨x, hx, hnot⟩
    have hfails : FailsWith P (xs.mapM f) := by
      apply mapM
      intro y hy err herr
      by_cases hC : C y
      · rw [hok y hy hC] at herr
        simp at herr
      · obtain ⟨err', herr', hP⟩ := herror y hy hC
        rw [herr', Except.error.injEq] at herr
        rwa [← herr]
    rcases exists_ok_or_error (xs.mapM f) with ⟨ys, hys⟩ | ⟨err, herr⟩
    · obtain ⟨err, herr, -⟩ := herror x hx hnot
      obtain ⟨y, -, hy⟩ := forall₂_exists_right (mapM_eq_ok_iff.mp hys) hx
      rw [herr] at hy
      simp at hy
    · exact ⟨err, herr, hfails err herr⟩

theorem of_ite {p : Prop} [Decidable p] {y : Except ε α}
    (hx : p → FailsWith P x) (hy : ¬ p → FailsWith P y) :
    FailsWith P (if p then x else y) := by
  split
  next hp => exact hx hp
  next hp => exact hy hp

end FailsWith

end VerifierApi

import VerifierApi.StepMachine
import Mathlib.Algebra.BigOperators.Group.Finset.Basic
import Mathlib.Algebra.Order.BigOperators.Group.Finset

/-!
# Progress of a machine

Two arguments by a measure.  A potential which every step pays into bounds
the number of steps which a run can take.  A machine which is never stuck,
and whose steps lower a measure, can be run to rest from every state.
-/

namespace VerifierApi

variable {σ ε : Type} {step : σ → ε → Option σ} {P : σ → Prop}

/-- A potential which falls at every step of a class bounds their number. -/
theorem runSteps_countP (potential : σ → ℕ) (counted : ε → Bool)
    (hstep : ∀ s event s', step s event = some s' →
      potential s' + (if counted event then 1 else 0) ≤ potential s)
    {s s' : σ} {events : List ε}
    (hrun : runSteps step s events = some s') :
    potential s' + events.countP counted ≤ potential s := by
  induction events generalizing s with
  | nil =>
      obtain rfl : s = s' := by simpa [runSteps] using hrun
      simp
  | cons event rest ih =>
      obtain ⟨next, hnext, hrest⟩ := runSteps_cons.mp hrun
      have hpaid := hstep s event next hnext
      have hrestPaid := ih hrest
      rw [List.countP_cons]
      omega

/-- Driven by steps of a class, the machine comes to rest. -/
theorem exists_run_to_rest {driven : ε → Prop} {rest : σ → Prop}
    {work : σ → ℕ}
    (hprogress : ∀ s, P s → ¬ rest s →
      ∃ event s', driven event ∧ step s event = some s' ∧ P s' ∧
        work s' < work s)
    {s : σ} (hinit : P s) :
    ∃ events s', (∀ event ∈ events, driven event) ∧
      events.length ≤ work s ∧ runSteps step s events = some s' ∧ P s' ∧
      rest s' := by
  induction hwork : work s using Nat.strong_induction_on generalizing s with
  | _ amount ih =>
      by_cases hrest : rest s
      · exact ⟨[], s, by simp, Nat.zero_le _, rfl, hinit, hrest⟩
      · obtain ⟨event, next, hdriven, hnext, hP, hlt⟩ :=
          hprogress s hinit hrest
        rw [hwork] at hlt
        obtain ⟨events, s', hall, hlength, hrun, hfinal⟩ :=
          ih (work next) hlt hP rfl
        refine ⟨event :: events, s', ?_, ?_, ?_, hfinal⟩
        · intro other hother
          rcases List.mem_cons.mp hother with rfl | htail
          · exact hdriven
          · exact hall other htail
        · rw [List.length_cons]
          omega
        · exact runSteps_cons.mpr ⟨next, hnext, hrun⟩

/-! ## The work of the rows of a table -/

section Table

variable {κ β : Type}

/-- The weight of the rows under the given keys. -/
def tableWork (weight : Option β → ℕ) (keys : Finset κ)
    (table : κ → Option β) : ℕ :=
  ∑ key ∈ keys, weight (table key)

theorem tableWork_update [DecidableEq κ] {weight : Option β → ℕ}
    {keys : Finset κ} {table : κ → Option β} {key : κ} (hkey : key ∈ keys)
    (row : Option β) :
    tableWork weight keys (Function.update table key row) +
        weight (table key) =
      tableWork weight keys table + weight row := by
  unfold tableWork
  have hothers : ∑ other ∈ keys.erase key,
      weight (Function.update table key row other) =
        ∑ other ∈ keys.erase key, weight (table other) := by
    apply Finset.sum_congr rfl
    intro other hother
    rw [Function.update_of_ne (Finset.ne_of_mem_erase hother)]
  rw [← Finset.sum_erase_add keys _ hkey, ← Finset.sum_erase_add keys
    (fun other => weight (table other)) hkey, hothers, Function.update_self]
  omega

/-- The table has rows under the given keys only. -/
def SupportedBy (keys : Finset κ) (table : κ → Option β) : Prop :=
  ∀ key, table key ≠ none → key ∈ keys

theorem SupportedBy.mem {keys : Finset κ} {table : κ → Option β}
    (h : SupportedBy keys table) {key : κ} {row : β}
    (hrow : table key = some row) : key ∈ keys := by
  apply h
  simp [hrow]

theorem SupportedBy.update [DecidableEq κ] {keys : Finset κ}
    {table : κ → Option β} (h : SupportedBy keys table) {key : κ} {row : Option β}
    (hkey : row ≠ none → key ∈ keys) :
    SupportedBy keys (Function.update table key row) := by
  intro other hother
  by_cases heq : other = key
  · subst heq
    rw [Function.update_self] at hother
    exact hkey hother
  · rw [Function.update_of_ne heq] at hother
    exact h other hother

end Table

end VerifierApi

import Mathlib.Data.Nat.Notation

/-!
# Attempts in a loop

A loop of attempts whose closures share a captured state.  The loop is given
by its operation, by the condition that breaks it and by what happens during
each delay.  Its runs are described by the attempts they make: an induction on
`Attempts` has one case for each way in which an attempt ends.
-/

namespace VerifierApi

/-- The closures of a loop over the captured state `σ`.  An operation returns
a result also when it fails, and a delay may end with an error. -/
structure RetryLoop (σ τ ε : Type) where
  operation : ℕ → σ → σ × τ × Option ε
  breakOn : σ → ε → Bool
  delay : ℕ → Option ε
  maxAttempts : ℕ

namespace RetryLoop

variable {σ τ ε : Type} (loop : RetryLoop σ τ ε)

/-- The iterations that remain, after a last result and a last error. -/
def iterate : ℕ → ℕ → σ → τ → Option ε → σ × τ × Option ε
  | 0, _, captured, lastResult, lastErr => (captured, lastResult, lastErr)
  | remaining + 1, attempt, captured, _, _ =>
      match loop.operation attempt captured with
      | (captured', result, none) => (captured', result, none)
      | (captured', result, some err) =>
          if loop.breakOn captured' err then (captured', result, some err)
          else if attempt < loop.maxAttempts then
            match loop.delay attempt with
            | some cause => (captured', result, some cause)
            | none =>
                iterate remaining (attempt + 1) captured' result (some err)
          else iterate remaining (attempt + 1) captured' result (some err)

def run (noAttempts : ε) (captured : σ) (zero : τ) : σ × τ × Option ε :=
  if loop.maxAttempts = 0 then (captured, zero, some noAttempts)
  else loop.iterate loop.maxAttempts 1 captured zero none

/-- The run from an attempt on, up to the last attempt it makes. -/
inductive Attempts : ℕ → σ → ℕ → σ × τ × Option ε → Prop
  | success {attempt : ℕ} {captured captured' : σ} {result : τ}
      (hop : loop.operation attempt captured = (captured', result, none)) :
      Attempts attempt captured attempt (captured', result, none)
  | broken {attempt : ℕ} {captured captured' : σ} {result : τ} {err : ε}
      (hop : loop.operation attempt captured = (captured', result, some err))
      (hbreak : loop.breakOn captured' err = true) :
      Attempts attempt captured attempt (captured', result, some err)
  | cancelled {attempt : ℕ} {captured captured' : σ} {result : τ}
      {err cause : ε}
      (hop : loop.operation attempt captured = (captured', result, some err))
      (hbreak : loop.breakOn captured' err = false)
      (hlt : attempt < loop.maxAttempts)
      (hdelay : loop.delay attempt = some cause) :
      Attempts attempt captured attempt (captured', result, some cause)
  | exhausted {captured captured' : σ} {result : τ} {err : ε}
      (hop : loop.operation loop.maxAttempts captured =
        (captured', result, some err))
      (hbreak : loop.breakOn captured' err = false) :
      Attempts loop.maxAttempts captured loop.maxAttempts
        (captured', result, some err)
  | again {attempt last : ℕ} {captured captured' : σ} {result : τ} {err : ε}
      {outcome : σ × τ × Option ε}
      (hop : loop.operation attempt captured = (captured', result, some err))
      (hbreak : loop.breakOn captured' err = false)
      (hlt : attempt < loop.maxAttempts)
      (hdelay : loop.delay attempt = none)
      (hrest : Attempts (attempt + 1) captured' last outcome) :
      Attempts attempt captured last outcome

variable {loop}

theorem iterate_attempts {remaining attempt : ℕ}
    (hremaining : attempt + remaining = loop.maxAttempts)
    (captured : σ) (lastResult : τ) (lastErr : Option ε) :
    ∃ last, loop.Attempts attempt captured last
      (loop.iterate (remaining + 1) attempt captured lastResult lastErr) := by
  induction remaining generalizing attempt captured lastResult lastErr with
  | zero =>
    have hlast : attempt = loop.maxAttempts := by omega
    subst hlast
    refine ⟨loop.maxAttempts, ?_⟩
    rcases hop : loop.operation loop.maxAttempts captured with
      ⟨captured', result, _ | err⟩
    · simp only [iterate, hop]
      exact .success hop
    · cases hbreak : loop.breakOn captured' err with
      | true =>
        simp only [iterate, hop, hbreak, if_true]
        exact .broken hop hbreak
      | false =>
        simp only [iterate, hop, hbreak, Nat.lt_irrefl, Bool.false_eq_true,
          if_false]
        exact .exhausted hop hbreak
  | succ remaining ih =>
    have hlt : attempt < loop.maxAttempts := by omega
    have hnext : attempt + 1 + remaining = loop.maxAttempts := by omega
    rcases hop : loop.operation attempt captured with
      ⟨captured', result, _ | err⟩
    · refine ⟨attempt, ?_⟩
      rw [iterate, hop]
      exact .success hop
    · cases hbreak : loop.breakOn captured' err with
      | true =>
        refine ⟨attempt, ?_⟩
        rw [iterate, hop]
        simp only [hbreak, if_true]
        exact .broken hop hbreak
      | false =>
        cases hdelay : loop.delay attempt with
        | some cause =>
          refine ⟨attempt, ?_⟩
          rw [iterate, hop]
          simp only [hbreak, hlt, hdelay, Bool.false_eq_true, if_false,
            if_true]
          exact .cancelled hop hbreak hlt hdelay
        | none =>
          obtain ⟨last, hrest⟩ := ih hnext captured' result (some err)
          refine ⟨last, ?_⟩
          rw [iterate, hop]
          simp only [hbreak, hlt, hdelay, Bool.false_eq_true, if_false,
            if_true]
          exact .again hop hbreak hlt hdelay hrest

theorem run_attempts (hmax : 1 ≤ loop.maxAttempts) (noAttempts : ε)
    (captured : σ) (zero : τ) :
    ∃ last, loop.Attempts 1 captured last
      (loop.run noAttempts captured zero) := by
  obtain ⟨remaining, hremaining⟩ := Nat.exists_eq_add_of_le hmax
  have hpos : loop.maxAttempts ≠ 0 := by omega
  have hfuel : loop.maxAttempts = remaining + 1 := by omega
  rw [run, if_neg hpos]
  have hiterate := iterate_attempts hremaining.symm captured zero none
  rwa [← hfuel] at hiterate

theorem Attempts.last_mem {attempt last : ℕ} {captured : σ}
    {outcome : σ × τ × Option ε}
    (h : loop.Attempts attempt captured last outcome)
    (hattempt : attempt ≤ loop.maxAttempts) :
    attempt ≤ last ∧ last ≤ loop.maxAttempts := by
  induction h with
  | success => exact ⟨Nat.le_refl _, hattempt⟩
  | broken => exact ⟨Nat.le_refl _, hattempt⟩
  | cancelled => exact ⟨Nat.le_refl _, hattempt⟩
  | exhausted => exact ⟨Nat.le_refl _, Nat.le_refl _⟩
  | again hop hbreak hlt hdelay hrest ih =>
    obtain ⟨hle, hmax⟩ := ih hlt
    exact ⟨Nat.le_of_succ_le hle, hmax⟩

end RetryLoop

end VerifierApi

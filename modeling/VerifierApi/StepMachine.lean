import Mathlib.Data.List.Basic
import Mathlib.Logic.Function.Basic

/-!
# Runs of a step function

A machine is a partial step function on states, driven by a list of events.
What every step preserves holds at the end of every run.  The parties of a
machine live in tables, of which a step updates a row.  What a party has seen
is read off the steps which were taken, with their states.
-/

namespace VerifierApi

variable {σ ε : Type}

/-- The state after a list of events, if every step is enabled. -/
def runSteps (step : σ → ε → Option σ) : σ → List ε → Option σ
  | s, [] => some s
  | s, event :: rest => (step s event).bind fun s' => runSteps step s' rest

theorem runSteps_cons {step : σ → ε → Option σ} {s s' : σ} {event : ε}
    {rest : List ε} :
    runSteps step s (event :: rest) = some s' ↔
      ∃ next, step s event = some next ∧ runSteps step next rest = some s' := by
  simp [runSteps, Option.bind_eq_some_iff]

theorem runSteps_append {step : σ → ε → Option σ} {s s' : σ}
    {before after : List ε} :
    runSteps step s (before ++ after) = some s' ↔
      ∃ mid, runSteps step s before = some mid ∧
        runSteps step mid after = some s' := by
  induction before generalizing s with
  | nil => simp [runSteps]
  | cons event rest ih =>
      simp only [List.cons_append, runSteps_cons, ih]
      constructor
      · rintro ⟨next, hnext, mid, hmid, hafter⟩
        exact ⟨mid, ⟨next, hnext, hmid⟩, hafter⟩
      · rintro ⟨mid, ⟨next, hnext, hmid⟩, hafter⟩
        exact ⟨next, hnext, mid, hmid, hafter⟩

/-- Events may be taken from a fixed class, of which the invariant speaks. -/
theorem runSteps_invariant {step : σ → ε → Option σ} {events : List ε}
    {P : σ → Prop}
    (hstep : ∀ s event s', event ∈ events → P s → step s event = some s' →
      P s')
    {s s' : σ} (hinit : P s) (hrun : runSteps step s events = some s') :
    P s' := by
  induction events generalizing s with
  | nil =>
      obtain rfl : s = s' := by simpa [runSteps] using hrun
      exact hinit
  | cons event rest ih =>
      obtain ⟨next, hnext, hrest⟩ := runSteps_cons.mp hrun
      apply ih
      · intro t other t' hother
        exact hstep t other t' (List.mem_cons_of_mem _ hother)
      · exact hstep s event next (List.mem_cons_self ..) hinit hnext
      · exact hrest

/-- A run simulates the run without the events which are left out, if these
do not disturb the relation. -/
theorem runSteps_filter {step : σ → ε → Option σ} {keep : ε → Bool}
    {R : σ → σ → Prop} {events : List ε}
    (hkeep : ∀ s t s' event, event ∈ events → keep event = true → R s s' →
      step s event = some t → ∃ t', step s' event = some t' ∧ R t t')
    (hskip : ∀ s t s' event, event ∈ events → keep event = false → R s s' →
      step s event = some t → R t s')
    {s t s' : σ} (hinit : R s s') (hrun : runSteps step s events = some t) :
    ∃ t', runSteps step s' (events.filter keep) = some t' ∧ R t t' := by
  induction events generalizing s s' with
  | nil =>
      obtain rfl : s = t := by simpa [runSteps] using hrun
      exact ⟨s', rfl, hinit⟩
  | cons event rest ih =>
      obtain ⟨next, hnext, hrest⟩ := runSteps_cons.mp hrun
      have hmem : event ∈ event :: rest := List.mem_cons_self ..
      have hrestKeep := fun u v u' other hother =>
        hkeep u v u' other (List.mem_cons_of_mem event hother)
      have hrestSkip := fun u v u' other hother =>
        hskip u v u' other (List.mem_cons_of_mem event hother)
      by_cases hevent : keep event = true
      · obtain ⟨next', hnext', hrel⟩ :=
          hkeep s next s' event hmem hevent hinit hnext
        obtain ⟨t', hrun', hfinal⟩ := ih hrestKeep hrestSkip hrel hrest
        rw [List.filter_cons_of_pos hevent]
        exact ⟨t', runSteps_cons.mpr ⟨next', hnext', hrun'⟩, hfinal⟩
      · have hrel := hskip s next s' event hmem (by simpa using hevent) hinit
          hnext
        rw [List.filter_cons_of_neg hevent]
        exact ih hrestKeep hrestSkip hrel hrest

/-- The steps of a run, each with the state in which it is taken. -/
def stepsOf (step : σ → ε → Option σ) : σ → List ε → List (σ × ε)
  | _, [] => []
  | s, event :: rest =>
      (s, event) :: (step s event).elim [] fun s' => stepsOf step s' rest

theorem stepsOf_cons {step : σ → ε → Option σ} {s next : σ} {event : ε}
    {rest : List ε} (hnext : step s event = some next) :
    stepsOf step s (event :: rest) =
      (s, event) :: stepsOf step next rest := by
  simp [stepsOf, hnext]

theorem stepsOf_events {step : σ → ε → Option σ} {s s' : σ}
    {events : List ε} (hrun : runSteps step s events = some s') :
    (stepsOf step s events).map Prod.snd = events := by
  induction events generalizing s with
  | nil => rfl
  | cons event rest ih =>
      obtain ⟨next, hnext, hrest⟩ := runSteps_cons.mp hrun
      rw [stepsOf_cons hnext, List.map_cons, ih hrest]

/-- An invariant may speak of the steps that were taken. -/
theorem runSteps_history {step : σ → ε → Option σ} {events : List ε}
    (P : List (σ × ε) → σ → Prop)
    (hstep : ∀ past s event s', P past s → step s event = some s' →
      P (past ++ [(s, event)]) s')
    {s s' : σ} (hinit : P [] s) (hrun : runSteps step s events = some s') :
    P (stepsOf step s events) s' := by
  -- the steps of the rest come after the ones that were taken
  have hfrom : ∀ past, P past s → P (past ++ stepsOf step s events) s' := by
    clear hinit
    induction events generalizing s with
    | nil =>
        obtain rfl : s = s' := by simpa [runSteps] using hrun
        intro past hpast
        simpa [stepsOf] using hpast
    | cons event rest ih =>
        obtain ⟨next, hnext, hrest⟩ := runSteps_cons.mp hrun
        intro past hpast
        rw [stepsOf_cons hnext, List.append_cons]
        exact ih hrest _ (hstep past s event next hpast hnext)
  exact hfrom [] hinit

/-- The rows of an updated table are the new row and old ones. -/
theorem forall_update_some {α β : Type} [DecidableEq α] {table : α → Option β}
    {P : α → β → Prop} {key : α} {row : Option β}
    (hold : ∀ k b, table k = some b → P k b)
    (hrow : ∀ b, row = some b → P key b) :
    ∀ k b, Function.update table key row k = some b → P k b := by
  intro k b hkb
  by_cases hkey : k = key
  · subst hkey
    rw [Function.update_self] at hkb
    exact hrow b hkb
  · rw [Function.update_of_ne hkey] at hkb
    exact hold k b hkb

end VerifierApi

import VerifierApi.NetworkPin
import VerifierApi.RunProgress

/-!
# Progress of the network pin

The lock is held by at most one request, and a request gives it back on every
path.  No interleaving leaves a run stuck: whatever the node answers, every
run takes a bounded number of steps, and the runs under way can be brought
to their end.
-/

namespace VerifierApi

namespace Multisig

/-! ## Steps and their actors -/

/-- The run which takes the step. -/
def PinEvent.actor : PinEvent → Option ℕ
  | .verify id _ => some id
  | .verifyNetwork id => some id
  | .load id => some id
  | .compare id => some id
  | .lock id => some id
  | .probe id _ => some id
  | .stamp id => some id
  | .store id => some id
  | .unlock id => some id
  | .tick _ => none

/-- Steps of runs under way, in which the node gives the answers of a
schedule. -/
def PinEvent.Driven (answers : ℕ → Except ExternalError ServerInfoResult) :
    PinEvent → Prop
  | .verify _ _ => False
  | .verifyNetwork _ => False
  | .probe id answer => answer = answers id
  | .tick _ => False
  | _ => True

/-- The steps which a run has left, at most. -/
def PinPhase.stepsLeft : PinPhase → ℕ
  | .started => 9
  | .loaded _ => 8
  | .waiting => 7
  | .locked => 6
  | .lockedLoaded _ => 5
  | .probing => 4
  | .matched _ => 3
  | .stamped _ _ => 2
  | .returning _ => 1
  | .fetching _ => 0
  | .refused _ => 0
  | .booted _ => 0

/-- With its start, a run takes ten steps at most. -/
def pinBudget : Option PinRun → ℕ
  | none => 10
  | some run => run.phase.stepsLeft

/-- The run has left the gate. -/
def PinPhase.Done (phase : PinPhase) : Prop :=
  phase.stepsLeft = 0

/-! ## The lock -/

/-- Between the lock and the unlock of a request. -/
def PinRun.InSection (run : PinRun) : Prop :=
  match run.party, run.phase with
  | .request, .locked => True
  | .request, .lockedLoaded _ => True
  | .request, .probing => True
  | .request, .matched _ => True
  | .request, .stamped _ _ => True
  | .request, .returning _ => True
  | _, _ => False

/-- The probe at startup passes through none of the phases around the
lock. -/
def PinRun.Formed (run : PinRun) : Prop :=
  match run.party, run.phase with
  | .startup, .probing => True
  | .startup, .matched _ => True
  | .startup, .stamped _ _ => True
  | .startup, .booted _ => True
  | .startup, _ => False
  | .request, .booted _ => False
  | .request, _ => True

namespace PinState

/-- Who is in the section holds the lock, and only then. -/
structure Exclusive (s : PinState) : Prop where
  formed : ∀ id run, s.runs id = some run → run.Formed
  owner : ∀ id run, s.runs id = some run →
    (run.InSection ↔ s.verifyMu = some id)
  owned : ∀ id, s.verifyMu = some id → ∃ run, s.runs id = some run

theorem newXRPVerifier_exclusive (clock : Int) :
    (newXRPVerifier clock).Exclusive :=
  ⟨by simp [newXRPVerifier], by simp [newXRPVerifier],
    by simp [newXRPVerifier]⟩

variable {s : PinState} {id : ℕ}

/-- A run which neither enters nor leaves the section moves. -/
theorem Exclusive.setRun (h : s.Exclusive) {run : PinRun}
    (hformed : run.Formed)
    (hsection : run.InSection ↔ s.verifyMu = some id) :
    (s.setRun id run).Exclusive where
  formed := forall_update_some h.formed (by rintro _ ⟨⟩; exact hformed)
  owner := forall_update_some h.owner (by rintro _ ⟨⟩; exact hsection)
  owned other hother := by
    by_cases heq : other = id
    · subst heq
      exact ⟨run, Function.update_self ..⟩
    · obtain ⟨own, hown⟩ := h.owned other hother
      refine ⟨own, ?_⟩
      simpa [PinState.setRun, Function.update_of_ne heq] using hown

/-- The lock passes to a run which enters the section. -/
theorem Exclusive.lock (h : s.Exclusive) (hfree : s.verifyMu = none)
    {run : PinRun} (hformed : run.Formed) (hsection : run.InSection) :
    PinState.Exclusive { s.setRun id run with verifyMu := some id } where
  formed := forall_update_some h.formed (by rintro _ ⟨⟩; exact hformed)
  owner := by
    intro other own hown
    by_cases heq : other = id
    · subst heq
      simp only [PinState.setRun, Function.update_self,
        Option.some.injEq] at hown
      subst hown
      simp [hsection]
    · simp only [PinState.setRun, Function.update_of_ne heq] at hown
      have hother := h.owner other own hown
      rw [hfree] at hother
      simp only [reduceCtorEq, iff_false] at hother
      simp [hother, Ne.symm heq]
  owned := by
    rintro other ⟨⟩
    exact ⟨run, Function.update_self ..⟩

/-- The run which holds the lock gives it back. -/
theorem Exclusive.unlock (h : s.Exclusive) (hheld : s.verifyMu = some id)
    {run : PinRun} (hformed : run.Formed) (hsection : ¬ run.InSection) :
    PinState.Exclusive { s.setRun id run with verifyMu := none } where
  formed := forall_update_some h.formed (by rintro _ ⟨⟩; exact hformed)
  owner := by
    intro other own hown
    by_cases heq : other = id
    · subst heq
      simp only [PinState.setRun, Function.update_self,
        Option.some.injEq] at hown
      subst hown
      simp [hsection]
    · simp only [PinState.setRun, Function.update_of_ne heq] at hown
      have hother := h.owner other own hown
      rw [hheld, Option.some.injEq] at hother
      have hout : ¬ own.InSection := fun hin => heq (hother.mp hin).symm
      simp [hout]
  owned := by simp

/-- Steps which touch neither the runs nor the lock. -/
theorem Exclusive.of_eq (h : s.Exclusive) {s' : PinState}
    (hruns : s'.runs = s.runs) (hlock : s'.verifyMu = s.verifyMu) :
    s'.Exclusive := by
  obtain ⟨hformed, howner, howned⟩ := h
  constructor
  · rw [hruns]
    exact hformed
  · rw [hruns, hlock]
    exact howner
  · rw [hruns, hlock]
    exact howned

theorem Exclusive.move (h : s.Exclusive) {run run' : PinRun}
    (hrun : s.runs id = some run) (hformed : run'.Formed)
    (hsame : run'.InSection ↔ run.InSection) :
    (s.setRun id run').Exclusive :=
  h.setRun hformed (hsame.trans (h.owner id run hrun))

theorem Exclusive.not_held (h : s.Exclusive) (hfree : s.runs id = none) :
    s.verifyMu ≠ some id := by
  intro hheld
  obtain ⟨run, hrun⟩ := h.owned id hheld
  simp [hfree] at hrun

/-- A run in a phase which only requests reach is a request. -/
theorem Exclusive.request (h : s.Exclusive) {run : PinRun}
    (hrun : s.runs id = some run)
    (hphase : ∀ startedAt, ¬ PinRun.Formed ⟨.startup, startedAt, run.phase⟩) :
    run.party = .request := by
  have hformed := h.formed id run hrun
  obtain ⟨party, startedAt, phase⟩ := run
  cases party with
  | request => rfl
  | startup => exact absurd hformed (hphase startedAt)

theorem startPhase_outside (req : RequestBody) (startedAt : Int) :
    PinRun.Formed ⟨.request, startedAt, startPhase req⟩ ∧
      ¬ PinRun.InSection ⟨.request, startedAt, startPhase req⟩ := by
  unfold startPhase
  split <;> simp [PinRun.Formed, PinRun.InSection]

/-- A probe keeps a request in the section and the startup outside. -/
theorem probedPhase_section (source : SourceName) (party : PinParty)
    (startedAt : Int) (answer : Except ExternalError ServerInfoResult) :
    PinRun.Formed ⟨party, startedAt, probedPhase source party answer⟩ ∧
      (PinRun.InSection
          ⟨party, startedAt, probedPhase source party answer⟩ ↔
        party = .request) := by
  unfold probedPhase
  cases party <;> split <;>
    simp [PinRun.Formed, PinRun.InSection, failedPhase]

theorem Exclusive.step {source : SourceName} (h : s.Exclusive)
    {event : PinEvent} {s' : PinState}
    (hstep : s.step source event = some s') : s'.Exclusive := by
  cases step_cases hstep with
  | verify id req hfree =>
      obtain ⟨hformed, hout⟩ := startPhase_outside req s.clock
      exact h.setRun hformed (iff_of_false hout (h.not_held hfree))
  | verifyNetwork id hfree =>
      exact h.setRun (by simp [PinRun.Formed])
        (iff_of_false (by simp [PinRun.InSection]) (h.not_held hfree))
  | load id run phase hrun hphase =>
      rcases hphase with ⟨hold, rfl⟩ | ⟨hold, rfl⟩
      all_goals
        have hparty := h.request hrun (by simp [hold, PinRun.Formed])
        refine h.move hrun ?_ ?_ <;>
          simp [PinRun.Formed, PinRun.InSection, hparty, hold]
  | compare id run last phase hrun hphase =>
      rcases hphase with ⟨hold, rfl⟩ | ⟨hold, rfl⟩
      · have hparty := h.request hrun (by simp [hold, PinRun.Formed])
        unfold comparedPhase
        refine h.move hrun ?_ ?_ <;> split <;>
          simp [PinRun.Formed, PinRun.InSection, hparty, hold]
      · have hparty := h.request hrun (by simp [hold, PinRun.Formed])
        unfold lockedComparedPhase
        refine h.move hrun ?_ ?_ <;> split <;>
          simp [PinRun.Formed, PinRun.InSection, hparty, hold]
  | lock id run hrun hphase hfree =>
      have hparty := h.request hrun (by simp [hphase, PinRun.Formed])
      exact h.lock hfree (by simp [PinRun.Formed, hparty])
        (by simp [PinRun.InSection, hparty])
  | probe id run answer hrun hphase =>
      obtain ⟨hformed, hsection⟩ := probedPhase_section source run.party
        run.startedAt answer
      have hold : run.InSection ↔ run.party = .request := by
        cases hparty : run.party <;>
          simp [PinRun.InSection, hparty, hphase]
      exact (h.move hrun hformed (hsection.trans hold.symm)).of_eq rfl rfl
  | stamp id run answer hrun hphase =>
      refine h.move hrun ?_ ?_ <;> cases hparty : run.party <;>
        simp [PinRun.Formed, PinRun.InSection, hparty, hphase]
  | store id run answer time hrun hphase =>
      have hmoved : (s.setRun id { run with
          phase := storedPhase time run.party }).Exclusive := by
        refine h.move hrun ?_ ?_ <;> cases hparty : run.party <;>
          simp [PinRun.Formed, PinRun.InSection, hparty, hphase, storedPhase]
      exact hmoved.of_eq rfl rfl
  | unlock id run result hrun hphase =>
      have hparty := h.request hrun (by simp [hphase, PinRun.Formed])
      have hheld := (h.owner id run hrun).mp
        (by simp [PinRun.InSection, hparty, hphase])
      apply h.unlock hheld
      · cases result <;> simp [PinRun.Formed, hparty, returnedPhase]
      · cases result <;> simp [PinRun.InSection, hparty, returnedPhase]
  | tick elapsed => exact h.of_eq rfl rfl

/-! ## The steps of one run -/

theorem stepsLeft_startPhase (req : RequestBody) :
    (startPhase req).stepsLeft ≤ 9 := by
  unfold startPhase
  split <;> simp [PinPhase.stepsLeft]

theorem stepsLeft_probedPhase (source : SourceName) (party : PinParty)
    (answer : Except ExternalError ServerInfoResult) :
    (probedPhase source party answer).stepsLeft ≤ 3 := by
  unfold probedPhase
  cases party <;> split <;> simp [PinPhase.stepsLeft, failedPhase]

/-- A step of a run lowers what it has left, and moves no other run. -/
theorem step_runs {source : SourceName} {event : PinEvent} {s' : PinState}
    (hstep : s.step source event = some s') :
    (event.actor = none ∧ s'.runs = s.runs) ∨
      ∃ id run', event.actor = some id ∧
        s'.runs = Function.update s.runs id (some run') ∧
        run'.phase.stepsLeft < pinBudget (s.runs id) := by
  cases step_cases hstep with
  | tick elapsed => exact .inl ⟨rfl, rfl⟩
  | verify id req hfree =>
      have hle := stepsLeft_startPhase req
      refine .inr ⟨id, _, rfl, rfl, ?_⟩
      simp only [hfree, pinBudget]
      omega
  | verifyNetwork id hfree =>
      refine .inr ⟨id, _, rfl, rfl, ?_⟩
      simp [hfree, pinBudget, PinPhase.stepsLeft]
  | load id run phase hrun hphase =>
      refine .inr ⟨id, _, rfl, rfl, ?_⟩
      rcases hphase with ⟨hold, rfl⟩ | ⟨hold, rfl⟩ <;>
        simp [hrun, hold, pinBudget, PinPhase.stepsLeft]
  | compare id run last phase hrun hphase =>
      refine .inr ⟨id, _, rfl, rfl, ?_⟩
      rcases hphase with ⟨hold, rfl⟩ | ⟨hold, rfl⟩
      · unfold comparedPhase
        split <;> simp [hrun, hold, pinBudget, PinPhase.stepsLeft]
      · unfold lockedComparedPhase
        split <;> simp [hrun, hold, pinBudget, PinPhase.stepsLeft]
  | lock id run hrun hphase hfree =>
      refine .inr ⟨id, _, rfl, rfl, ?_⟩
      simp [hrun, hphase, pinBudget, PinPhase.stepsLeft]
  | probe id run answer hrun hphase =>
      have hbudget : pinBudget (s.runs id) = 4 := by
        simp [hrun, hphase, pinBudget, PinPhase.stepsLeft]
      refine .inr ⟨id, _, rfl, rfl, ?_⟩
      rw [hbudget]
      exact Nat.lt_succ_of_le
        (stepsLeft_probedPhase source run.party answer)
  | stamp id run answer hrun hphase =>
      refine .inr ⟨id, _, rfl, rfl, ?_⟩
      simp [hrun, hphase, pinBudget, PinPhase.stepsLeft]
  | store id run answer time hrun hphase =>
      refine .inr ⟨id, _, rfl, rfl, ?_⟩
      cases run.party <;>
        simp [hrun, hphase, pinBudget, PinPhase.stepsLeft, storedPhase]
  | unlock id run result hrun hphase =>
      refine .inr ⟨id, _, rfl, rfl, ?_⟩
      cases result <;>
        simp [hrun, hphase, pinBudget, PinPhase.stepsLeft, returnedPhase]

theorem step_budget {source : SourceName} {event : PinEvent} {s' : PinState}
    (hstep : s.step source event = some s') (id : ℕ) :
    pinBudget (s'.runs id) + (if event.actor = some id then 1 else 0) ≤
      pinBudget (s.runs id) := by
  rcases step_runs hstep with ⟨hactor, hruns⟩ | ⟨own, run', hactor, hruns,
    hlt⟩
  · simp [hactor, hruns]
  · rw [hruns, hactor]
    by_cases heq : id = own
    · subst heq
      simp only [Function.update_self, if_true]
      exact hlt
    · simp [Function.update_of_ne heq, Ne.symm heq]

/-! ## No run is stuck -/

section Driven

variable (source : SourceName)
  (answers : ℕ → Except ExternalError ServerInfoResult)

/-- A run which does not wait for the lock can take its next step. -/
theorem exists_own_step {run : PinRun} (hrun : s.runs id = some run)
    (hwaiting : run.phase ≠ .waiting) (hleft : ¬ run.phase.Done) :
    ∃ event : PinEvent, event.Driven answers ∧
      (s.step source event).isSome := by
  obtain ⟨party, startedAt, phase⟩ := run
  cases phase with
  | started => exact ⟨.load id, trivial, by simp [PinState.step, hrun]⟩
  | loaded last => exact ⟨.compare id, trivial, by simp [PinState.step, hrun]⟩
  | waiting => exact absurd rfl hwaiting
  | locked => exact ⟨.load id, trivial, by simp [PinState.step, hrun]⟩
  | lockedLoaded last =>
      exact ⟨.compare id, trivial, by simp [PinState.step, hrun]⟩
  | probing =>
      exact ⟨.probe id (answers id), rfl, by simp [PinState.step, hrun]⟩
  | matched answer =>
      exact ⟨.stamp id, trivial, by simp [PinState.step, hrun]⟩
  | stamped answer time =>
      exact ⟨.store id, trivial, by simp [PinState.step, hrun]⟩
  | returning result =>
      exact ⟨.unlock id, trivial, by simp [PinState.step, hrun]⟩
  | fetching ground => exact absurd rfl hleft
  | refused err => exact absurd rfl hleft
  | booted result => exact absurd rfl hleft

theorem InSection.phase {run : PinRun} (h : run.InSection) :
    run.phase ≠ .waiting ∧ ¬ run.phase.Done := by
  obtain ⟨party, startedAt, phase⟩ := run
  cases party <;> cases phase <;>
    simp_all [PinRun.InSection, PinPhase.Done, PinPhase.stepsLeft]

/-- A run which waits is passed by, or the holder of the lock moves. -/
theorem exists_driven_step (h : s.Exclusive) {run : PinRun}
    (hrun : s.runs id = some run) (hleft : ¬ run.phase.Done) :
    ∃ event : PinEvent, event.Driven answers ∧
      (s.step source event).isSome := by
  by_cases hwaiting : run.phase = .waiting
  · cases hlock : s.verifyMu with
    | none =>
        obtain ⟨party, startedAt, phase⟩ := run
        subst hwaiting
        exact ⟨.lock id, trivial, by simp [PinState.step, hrun, hlock]⟩
    | some holder =>
        obtain ⟨own, hown⟩ := h.owned holder hlock
        have hsection := (h.owner holder own hown).mpr hlock
        obtain ⟨hpasses, hmoves⟩ := InSection.phase hsection
        exact exists_own_step source answers hown hpasses hmoves
  · exact exists_own_step source answers hrun hwaiting hleft

end Driven

end PinState

/-- The runs which have been started. -/
def startedRuns (events : List PinEvent) : Finset ℕ :=
  (events.filterMap PinEvent.actor).toFinset

namespace PinState

theorem supported_step {source : SourceName} {ids : Finset ℕ}
    {s s' : PinState} {event : PinEvent} (h : SupportedBy ids s.runs)
    (hactor : ∀ id, event.actor = some id → id ∈ ids)
    (hstep : s.step source event = some s') : SupportedBy ids s'.runs := by
  rcases step_runs hstep with ⟨-, hruns⟩ | ⟨id, run', hid, hruns, -⟩
  · rw [hruns]
    exact h
  · rw [hruns]
    exact h.update fun _ => hactor id hid

theorem exists_run_of_driven {source : SourceName}
    {answers : ℕ → Except ExternalError ServerInfoResult}
    {s s' : PinState} {event : PinEvent} (hdriven : event.Driven answers)
    (hstep : s.step source event = some s') :
    ∃ id run, event.actor = some id ∧ s.runs id = some run := by
  cases step_cases hstep with
  | verify id req hfree => exact hdriven.elim
  | verifyNetwork id hfree => exact hdriven.elim
  | load id run phase hrun hphase => exact ⟨id, run, rfl, hrun⟩
  | compare id run last phase hrun hphase => exact ⟨id, run, rfl, hrun⟩
  | lock id run hrun hphase hfree => exact ⟨id, run, rfl, hrun⟩
  | probe id run answer hrun hphase => exact ⟨id, run, rfl, hrun⟩
  | stamp id run answer hrun hphase => exact ⟨id, run, rfl, hrun⟩
  | store id run answer time hrun hphase => exact ⟨id, run, rfl, hrun⟩
  | unlock id run result hrun hphase => exact ⟨id, run, rfl, hrun⟩
  | tick elapsed => exact hdriven.elim

/-- A driven step takes work off the runs under way. -/
theorem work_driven {source : SourceName}
    {answers : ℕ → Except ExternalError ServerInfoResult} {ids : Finset ℕ}
    {s s' : PinState} {event : PinEvent} (h : SupportedBy ids s.runs)
    (hdriven : event.Driven answers)
    (hstep : s.step source event = some s') :
    SupportedBy ids s'.runs ∧
      tableWork pinBudget ids s'.runs < tableWork pinBudget ids s.runs := by
  obtain ⟨id, run, hid, hrun⟩ := exists_run_of_driven hdriven hstep
  have hmem := h.mem hrun
  rcases step_runs hstep with ⟨hnone, -⟩ | ⟨own, run', hown, hruns, hlt⟩
  · simp [hid] at hnone
  · obtain rfl : id = own := by simpa [hid] using hown
    have hwork : tableWork pinBudget ids
          (Function.update s.runs id (some run')) + pinBudget (s.runs id) =
        tableWork pinBudget ids s.runs + pinBudget (some run') :=
      tableWork_update hmem (some run')
    have hweight : pinBudget (some run') = run'.phase.stepsLeft := rfl
    rw [hruns]
    refine ⟨h.update fun _ => hmem, ?_⟩
    omega

theorem run_progress_invariant {source : SourceName} {clock : Int}
    {events : List PinEvent} {s : PinState}
    (hrun : runSteps (PinState.step source) (newXRPVerifier clock) events =
      some s) :
    s.Exclusive ∧ SupportedBy (startedRuns events) s.runs := by
  refine runSteps_invariant (P := fun t => t.Exclusive ∧
    SupportedBy (startedRuns events) t.runs) ?_
    ⟨newXRPVerifier_exclusive clock, by simp [SupportedBy,
      newXRPVerifier]⟩ hrun
  rintro t event t' hmem ⟨hexclusive, hsupported⟩ hstep
  refine ⟨hexclusive.step hstep, supported_step hsupported ?_ hstep⟩
  intro id hid
  exact List.mem_toFinset.mpr (List.mem_filterMap.mpr ⟨event, hmem, hid⟩)

/-- A driven step keeps the runs which there are. -/
theorem isSome_of_driven {source : SourceName}
    {answers : ℕ → Except ExternalError ServerInfoResult}
    {s s' : PinState} {event : PinEvent} (hdriven : event.Driven answers)
    (hstep : s.step source event = some s') (id : ℕ) :
    (s'.runs id).isSome = (s.runs id).isSome := by
  obtain ⟨own, run, hown, hrun⟩ := exists_run_of_driven hdriven hstep
  rcases step_runs hstep with ⟨hnone, -⟩ | ⟨other, run', hother, hruns, -⟩
  · simp [hown] at hnone
  · obtain rfl : own = other := by simpa [hown] using hother
    rw [hruns]
    by_cases heq : id = own
    · subst heq
      simp [hrun]
    · rw [Function.update_of_ne heq]

end PinState

/-- Whatever the order of the steps: at most one request is between the lock
and the unlock, no run takes more than ten steps, and whatever the node
answers from here on, the runs under way can all leave the gate, after which
the lock is free. -/
theorem network_gate_progress (source : SourceName) (clock : Int)
    (events : List PinEvent) (s : PinState)
    (hrun : runSteps (PinState.step source) (newXRPVerifier clock) events =
      some s) :
    (∀ id id' run run', s.runs id = some run → s.runs id' = some run' →
      run.InSection → run'.InSection → id = id') ∧
    (∀ id, (events.countP fun event => event.actor = some id) ≤ 10) ∧
    ∀ answers, ∃ more s', (∀ event ∈ more, event.Driven answers) ∧
      runSteps (PinState.step source) s more = some s' ∧
      s'.verifyMu = none ∧
      ∀ id, (s'.runs id).isSome = (s.runs id).isSome ∧
        ∀ run, s'.runs id = some run → run.phase.Done := by
  obtain ⟨hexclusive, hsupported⟩ := PinState.run_progress_invariant hrun
  refine ⟨?_, ?_, ?_⟩
  · intro id id' run run' hown hown' hsection hsection'
    have hheld := (hexclusive.owner id run hown).mp hsection
    have hheld' := (hexclusive.owner id' run' hown').mp hsection'
    simpa [hheld] using hheld'
  · intro id
    have hbudget : ∀ (t : PinState) event t',
        t.step source event = some t' →
        pinBudget (t'.runs id) +
            (if decide (event.actor = some id) then 1 else 0) ≤
          pinBudget (t.runs id) := by
      intro t event t' hstep
      simpa using PinState.step_budget hstep id
    have hcount := runSteps_countP _ _ hbudget hrun
    simp only [newXRPVerifier, pinBudget] at hcount
    omega
  · intro answers
    let reached : PinState → Prop := fun t =>
      t.Exclusive ∧ SupportedBy (startedRuns events) t.runs ∧
        ∀ id, (t.runs id).isSome = (s.runs id).isSome
    have hprogress : ∀ t, reached t →
        ¬ (∀ id run, t.runs id = some run → run.phase.Done) →
        ∃ event t', PinEvent.Driven answers event ∧
          t.step source event = some t' ∧ reached t' ∧
          tableWork pinBudget (startedRuns events) t'.runs <
            tableWork pinBudget (startedRuns events) t.runs := by
      rintro t ⟨hexclusive, hsupported, hsame⟩ hunfinished
      push Not at hunfinished
      obtain ⟨id, run, hown, hleft⟩ := hunfinished
      obtain ⟨event, hdriven, hstep⟩ :=
        PinState.exists_driven_step source answers hexclusive hown hleft
      obtain ⟨t', hstep⟩ := Option.isSome_iff_exists.mp hstep
      obtain ⟨hsupported', hless⟩ :=
        PinState.work_driven hsupported hdriven hstep
      refine ⟨event, t', hdriven, hstep,
        ⟨hexclusive.step hstep, hsupported', ?_⟩, hless⟩
      intro other
      rw [PinState.isSome_of_driven hdriven hstep, hsame]
    obtain ⟨more, s', hdriven, -, hmore, ⟨hexclusive', -, hsame⟩, hdone⟩ :=
      exists_run_to_rest hprogress
        ⟨hexclusive, hsupported, fun _ => rfl⟩
    refine ⟨more, s', hdriven, hmore, ?_, fun id => ⟨hsame id, hdone id⟩⟩
    cases hlock : s'.verifyMu with
    | none => rfl
    | some holder =>
        obtain ⟨own, hown⟩ := hexclusive'.owned holder hlock
        have hsection := (hexclusive'.owner holder own hown).mpr hlock
        exact absurd (hdone holder own hown)
          (PinState.InSection.phase hsection).2

/-- The three requests, with one more which waits while the lock is held. -/
theorem network_gate_progress_threeRequests :
    ∃ s, runSteps (PinState.step .testXRP) (newXRPVerifier 1000)
        (threeRequests.take 8 ++
          [.verify 4 sampleRequest, .load 4, .compare 4]) = some s ∧
      s.verifyMu = some 1 ∧
      ∃ more s', runSteps (PinState.step .testXRP) s more = some s' ∧
        s'.verifyMu = none ∧
        ∀ run, s'.runs 4 = some run → run.phase.Done := by
  have hrun : runSteps (PinState.step .testXRP) (newXRPVerifier 1000)
      (threeRequests.take 8 ++
        [.verify 4 sampleRequest, .load 4, .compare 4]) =
      some ((runSteps (PinState.step .testXRP) (newXRPVerifier 1000)
        (threeRequests.take 8 ++
          [.verify 4 sampleRequest, .load 4, .compare 4])).getD
            (newXRPVerifier 0)) := rfl
  obtain ⟨-, -, hends⟩ := network_gate_progress .testXRP 1000 _ _ hrun
  obtain ⟨more, s', -, hmore, hlock, hdone⟩ :=
    hends fun _ => .error ⟨"connection refused", [.netError]⟩
  exact ⟨_, hrun, rfl, more, s', hmore, hlock, fun run => (hdone 4).2 run⟩

end Multisig

end VerifierApi

import VerifierApi.MultisigVerifier
import VerifierApi.StepMachine

/-!
# The network pin as a concurrent machine

Any number of requests, and the probe at startup, run against one
confirmation time.  A request loads the time and compares it with the clock
without the lock, then once more under the lock, and then probes the node.
The probe at startup takes no lock.  The load, the reading of the clock and
the store of a confirmation are steps of their own, and the node may answer
every probe differently.  Two logs, which no step reads, keep the probes and
the confirmations.
-/

namespace VerifierApi

namespace Multisig

/-! ## States and steps -/

/-- Why a request was let through: the time it loaded and the clock it
compared it with, or a confirmation of its own. -/
inductive PinGround where
  | fresh (last now : Int)
  | probed (time : Int)

inductive PinPhase where
  | started
  | loaded (last : Int)
  | waiting
  | locked
  | lockedLoaded (last : Int)
  | probing
  | matched (answer : Except ExternalError ServerInfoResult)
  | stamped (answer : Except ExternalError ServerInfoResult) (time : Int)
  | returning (result : Except GoError PinGround)
  | fetching (ground : PinGround)
  | refused (err : GoError)
  | booted (result : Except GoError Unit)

inductive PinParty where
  | request
  | startup
deriving DecidableEq

structure PinRun where
  party : PinParty
  startedAt : Int
  phase : PinPhase

/-- A confirmation stored by a run, with the answer that it rests on. -/
structure Confirmation where
  run : ℕ
  answer : Except ExternalError ServerInfoResult
  recordedAt : Int

structure PinState where
  lastVerifiedNano : Int
  clock : Int
  verifyMu : Option ℕ
  runs : ℕ → Option PinRun
  probes : List (ℕ × Except ExternalError ServerInfoResult)
  confirmations : List Confirmation

def newXRPVerifier (clock : Int) : PinState where
  lastVerifiedNano := 0
  clock := clock
  verifyMu := none
  runs := fun _ => none
  probes := []
  confirmations := []

inductive PinEvent where
  | verify (id : ℕ) (req : RequestBody)
  | verifyNetwork (id : ℕ)
  | load (id : ℕ)
  | compare (id : ℕ)
  | lock (id : ℕ)
  | probe (id : ℕ) (answer : Except ExternalError ServerInfoResult)
  | stamp (id : ℕ)
  | store (id : ℕ)
  | unlock (id : ℕ)
  | tick (elapsed : ℕ)

/-- A wrong network fails the boot; any other failure does not. -/
def bootResult (err : GoError) : Except GoError Unit :=
  if err.has .networkMismatch then .error err else .ok ()

namespace PinState

variable (source : SourceName)

def setRun (s : PinState) (id : ℕ) (run : PinRun) : PinState :=
  { s with runs := Function.update s.runs id (some run) }

/-- The phase in which a request starts: its shape is checked first. -/
def startPhase (req : RequestBody) : PinPhase :=
  match validateMultisigRequest req.publicKeys req.threshold with
  | .error err => .refused (ErrorValue.chained errInvalidRequest err)
  | .ok _ => .started

def comparedPhase (last now : Int) : PinPhase :=
  if verifiedFresh last now then .fetching (.fresh last now) else .waiting

def lockedComparedPhase (last now : Int) : PinPhase :=
  if verifiedFresh last now then .returning (.ok (.fresh last now))
  else .probing

def failedPhase (err : GoError) : PinParty → PinPhase
  | .request => .returning (.error err)
  | .startup => .booted (bootResult err)

def probedPhase (party : PinParty)
    (answer : Except ExternalError ServerInfoResult) : PinPhase :=
  match checkNetwork source answer with
  | .ok _ => .matched answer
  | .error err => failedPhase err party

def storedPhase (time : Int) : PinParty → PinPhase
  | .request => .returning (.ok (.probed time))
  | .startup => .booted (.ok ())

def returnedPhase : Except GoError PinGround → PinPhase
  | .ok ground => .fetching ground
  | .error err => .refused err

/-- The store of a confirmation. -/
def confirm (s : PinState) (id : ℕ) (run : PinRun)
    (answer : Except ExternalError ServerInfoResult) (time : Int) :
    PinState :=
  { s.setRun id { run with phase := storedPhase time run.party } with
    lastVerifiedNano := time
    confirmations := ⟨id, answer, time⟩ :: s.confirmations }

def step (s : PinState) : PinEvent → Option PinState
  | .verify id req =>
      if (s.runs id).isNone then
        some (s.setRun id ⟨.request, s.clock, startPhase req⟩)
      else none
  | .verifyNetwork id =>
      if (s.runs id).isNone then
        some (s.setRun id ⟨.startup, s.clock, .probing⟩)
      else none
  | .load id =>
      match s.runs id with
      | some ⟨party, startedAt, .started⟩ =>
          some (s.setRun id ⟨party, startedAt, .loaded s.lastVerifiedNano⟩)
      | some ⟨party, startedAt, .locked⟩ =>
          some (s.setRun id
            ⟨party, startedAt, .lockedLoaded s.lastVerifiedNano⟩)
      | _ => none
  | .compare id =>
      match s.runs id with
      | some ⟨party, startedAt, .loaded last⟩ =>
          some (s.setRun id ⟨party, startedAt, comparedPhase last s.clock⟩)
      | some ⟨party, startedAt, .lockedLoaded last⟩ =>
          some (s.setRun id
            ⟨party, startedAt, lockedComparedPhase last s.clock⟩)
      | _ => none
  | .lock id =>
      match s.runs id with
      | some ⟨party, startedAt, .waiting⟩ =>
          if s.verifyMu.isNone then
            some { s.setRun id ⟨party, startedAt, .locked⟩ with
              verifyMu := some id }
          else none
      | _ => none
  | .probe id answer =>
      match s.runs id with
      | some ⟨party, startedAt, .probing⟩ =>
          some { s.setRun id
              ⟨party, startedAt, probedPhase source party answer⟩ with
            probes := (id, answer) :: s.probes }
      | _ => none
  | .stamp id =>
      match s.runs id with
      | some ⟨party, startedAt, .matched answer⟩ =>
          some (s.setRun id ⟨party, startedAt, .stamped answer s.clock⟩)
      | _ => none
  | .store id =>
      match s.runs id with
      | some ⟨party, startedAt, .stamped answer time⟩ =>
          some (s.confirm id ⟨party, startedAt, .stamped answer time⟩
            answer time)
      | _ => none
  | .unlock id =>
      match s.runs id with
      | some ⟨party, startedAt, .returning result⟩ =>
          some { s.setRun id ⟨party, startedAt, returnedPhase result⟩ with
            verifyMu := none }
      | _ => none
  | .tick elapsed => some { s with clock := s.clock + elapsed }

end PinState

/-- What a step can do, with its guards. -/
inductive PinStep (source : SourceName) (s : PinState) :
    PinEvent → PinState → Prop
  | verify (id : ℕ) (req : RequestBody) (hfree : s.runs id = none) :
      PinStep source s (.verify id req)
        (s.setRun id ⟨.request, s.clock, PinState.startPhase req⟩)
  | verifyNetwork (id : ℕ) (hfree : s.runs id = none) :
      PinStep source s (.verifyNetwork id)
        (s.setRun id ⟨.startup, s.clock, .probing⟩)
  | load (id : ℕ) (run : PinRun) (phase : PinPhase)
      (hrun : s.runs id = some run)
      (hphase :
        (run.phase = .started ∧ phase = .loaded s.lastVerifiedNano) ∨
        (run.phase = .locked ∧ phase = .lockedLoaded s.lastVerifiedNano)) :
      PinStep source s (.load id) (s.setRun id { run with phase := phase })
  | compare (id : ℕ) (run : PinRun) (last : Int) (phase : PinPhase)
      (hrun : s.runs id = some run)
      (hphase :
        (run.phase = .loaded last ∧
          phase = PinState.comparedPhase last s.clock) ∨
        (run.phase = .lockedLoaded last ∧
          phase = PinState.lockedComparedPhase last s.clock)) :
      PinStep source s (.compare id) (s.setRun id { run with phase := phase })
  | lock (id : ℕ) (run : PinRun) (hrun : s.runs id = some run)
      (hphase : run.phase = .waiting) (hfree : s.verifyMu = none) :
      PinStep source s (.lock id)
        { s.setRun id { run with phase := .locked } with
          verifyMu := some id }
  | probe (id : ℕ) (run : PinRun)
      (answer : Except ExternalError ServerInfoResult)
      (hrun : s.runs id = some run) (hphase : run.phase = .probing) :
      PinStep source s (.probe id answer)
        { s.setRun id { run with
            phase := PinState.probedPhase source run.party answer } with
          probes := (id, answer) :: s.probes }
  | stamp (id : ℕ) (run : PinRun)
      (answer : Except ExternalError ServerInfoResult)
      (hrun : s.runs id = some run) (hphase : run.phase = .matched answer) :
      PinStep source s (.stamp id)
        (s.setRun id { run with phase := .stamped answer s.clock })
  | store (id : ℕ) (run : PinRun)
      (answer : Except ExternalError ServerInfoResult) (time : Int)
      (hrun : s.runs id = some run)
      (hphase : run.phase = .stamped answer time) :
      PinStep source s (.store id) (s.confirm id run answer time)
  | unlock (id : ℕ) (run : PinRun) (result : Except GoError PinGround)
      (hrun : s.runs id = some run) (hphase : run.phase = .returning result) :
      PinStep source s (.unlock id)
        { s.setRun id { run with
            phase := PinState.returnedPhase result } with
          verifyMu := none }
  | tick (elapsed : ℕ) :
      PinStep source s (.tick elapsed) { s with clock := s.clock + elapsed }

theorem PinState.step_cases {source : SourceName} {s s' : PinState}
    {event : PinEvent} (h : s.step source event = some s') :
    PinStep source s event s' := by
  cases event with
  | verify id req =>
      simp only [step, Option.isNone_iff_eq_none] at h
      split at h
      next hfree =>
        obtain rfl := Option.some.inj h
        exact .verify id req hfree
      next => simp at h
  | verifyNetwork id =>
      simp only [step, Option.isNone_iff_eq_none] at h
      split at h
      next hfree =>
        obtain rfl := Option.some.inj h
        exact .verifyNetwork id hfree
      next => simp at h
  | load id =>
      simp only [step] at h
      split at h
      next hrun =>
        obtain rfl := Option.some.inj h
        exact .load id _ _ hrun (.inl ⟨rfl, rfl⟩)
      next hrun =>
        obtain rfl := Option.some.inj h
        exact .load id _ _ hrun (.inr ⟨rfl, rfl⟩)
      next => simp at h
  | compare id =>
      simp only [step] at h
      split at h
      next hrun =>
        obtain rfl := Option.some.inj h
        exact .compare id _ _ _ hrun (.inl ⟨rfl, rfl⟩)
      next hrun =>
        obtain rfl := Option.some.inj h
        exact .compare id _ _ _ hrun (.inr ⟨rfl, rfl⟩)
      next => simp at h
  | lock id =>
      simp only [step, Option.isNone_iff_eq_none] at h
      split at h
      next hrun =>
        split at h
        next hfree =>
          obtain rfl := Option.some.inj h
          exact .lock id _ hrun rfl hfree
        next => simp at h
      next => simp at h
  | probe id answer =>
      simp only [step] at h
      split at h
      next hrun =>
        obtain rfl := Option.some.inj h
        exact .probe id _ answer hrun rfl
      next => simp at h
  | stamp id =>
      simp only [step] at h
      split at h
      next hrun =>
        obtain rfl := Option.some.inj h
        exact .stamp id _ _ hrun rfl
      next => simp at h
  | store id =>
      simp only [step] at h
      split at h
      next hrun =>
        obtain rfl := Option.some.inj h
        exact .store id _ _ _ hrun rfl
      next => simp at h
  | unlock id =>
      simp only [step] at h
      split at h
      next hrun =>
        obtain rfl := Option.some.inj h
        exact .unlock id _ _ hrun rfl
      next => simp at h
  | tick elapsed =>
      obtain rfl := Option.some.inj h
      exact .tick elapsed

/-! ## Where a confirmation comes from -/

/-- The node answered with exactly the given network. -/
def ProbeMatches (expected : UInt32)
    (answer : Except ExternalError ServerInfoResult) : Prop :=
  ∃ result, answer = .ok result ∧ result.status = "success" ∧
    result.networkID = some expected

theorem checkNetwork_eq_ok_iff {source : SourceName} {expected : UInt32}
    (hsource : expectedNetworkID source = some expected)
    {answer : Except ExternalError ServerInfoResult} {u : Unit} :
    checkNetwork source answer = .ok u ↔ ProbeMatches expected answer := by
  unfold checkNetwork ProbeMatches
  rw [hsource]
  simp only [fetchNetworkID, bind_eq_ok, mapError_eq_ok, ensure_eq_ok,
    require_eq_ok, exists_const, Except.ok.injEq]
  constructor
  · rintro ⟨networkID, ⟨result, hanswer, hstatus, rfl⟩, got, hgot, rfl⟩
    exact ⟨result, hanswer, hstatus, hgot⟩
  · rintro ⟨result, hanswer, hstatus, hnetwork⟩
    exact ⟨some expected, ⟨result, hanswer, hstatus, hnetwork⟩, expected,
      rfl, rfl⟩

namespace PinState

/-- A time which is zero or of a stored confirmation. -/
def Recorded (s : PinState) (last : Int) : Prop :=
  last = 0 ∨ ∃ c ∈ s.confirmations, c.recordedAt = last

def GroundBacked (s : PinState) (id : ℕ) (startedAt : Int) :
    PinGround → Prop
  | .fresh last now => last ≠ 0 ∧ s.Recorded last ∧
      now - last < networkVerifyTTL ∧ startedAt ≤ now ∧ now ≤ s.clock
  | .probed time => startedAt ≤ time ∧
      ∃ c ∈ s.confirmations, c.run = id ∧ c.recordedAt = time

def PhaseBacked (expected : UInt32) (s : PinState) (id : ℕ)
    (startedAt : Int) : PinPhase → Prop
  | .loaded last => s.Recorded last
  | .lockedLoaded last => s.Recorded last
  | .matched answer => ProbeMatches expected answer ∧
      (id, answer) ∈ s.probes
  | .stamped answer time => ProbeMatches expected answer ∧
      (id, answer) ∈ s.probes ∧ startedAt ≤ time ∧ time ≤ s.clock
  | .returning (.ok ground) => s.GroundBacked id startedAt ground
  | .fetching ground => s.GroundBacked id startedAt ground
  | _ => True

structure RunBacked (expected : UInt32) (s : PinState) (id : ℕ)
    (run : PinRun) : Prop where
  startedAt_le : run.startedAt ≤ s.clock
  phase : s.PhaseBacked expected id run.startedAt run.phase

structure Backed (expected : UInt32) (s : PinState) : Prop where
  last : s.Recorded s.lastVerifiedNano
  confirmations : ∀ c ∈ s.confirmations, ProbeMatches expected c.answer ∧
    (c.run, c.answer) ∈ s.probes ∧ c.recordedAt ≤ s.clock
  runs : ∀ id run, s.runs id = some run → s.RunBacked expected id run

/-! ## What a step adds -/

/-- The clock and the logs only grow. -/
structure Grows (s s' : PinState) : Prop where
  clock : s.clock ≤ s'.clock
  probes : s.probes ⊆ s'.probes
  confirmations : s.confirmations ⊆ s'.confirmations

variable {expected : UInt32} {s s' : PinState} {id : ℕ} {run : PinRun}
  {startedAt : Int}

theorem Recorded.mono (hgrows : Grows s s') {last : Int}
    (h : s.Recorded last) : s'.Recorded last := by
  rcases h with hzero | ⟨c, hc, htime⟩
  · exact .inl hzero
  · exact .inr ⟨c, hgrows.confirmations hc, htime⟩

theorem GroundBacked.mono (hgrows : Grows s s') {ground : PinGround}
    (h : s.GroundBacked id startedAt ground) :
    s'.GroundBacked id startedAt ground := by
  cases ground with
  | fresh last now =>
      obtain ⟨hzero, hrecorded, hfresh, hstart, hclock⟩ := h
      exact ⟨hzero, hrecorded.mono hgrows, hfresh, hstart,
        hclock.trans hgrows.clock⟩
  | probed time =>
      obtain ⟨hstart, c, hc, hrun, htime⟩ := h
      exact ⟨hstart, c, hgrows.confirmations hc, hrun, htime⟩

theorem PhaseBacked.mono (hgrows : Grows s s') {phase : PinPhase}
    (h : s.PhaseBacked expected id startedAt phase) :
    s'.PhaseBacked expected id startedAt phase := by
  cases phase with
  | loaded last => exact Recorded.mono hgrows h
  | lockedLoaded last => exact Recorded.mono hgrows h
  | matched answer => exact ⟨h.1, hgrows.probes h.2⟩
  | stamped answer time =>
      obtain ⟨hmatch, hprobe, hstart, htime⟩ := h
      exact ⟨hmatch, hgrows.probes hprobe, hstart,
        htime.trans hgrows.clock⟩
  | returning result =>
      cases result with
      | ok ground => exact GroundBacked.mono hgrows h
      | error err => trivial
  | fetching ground => exact GroundBacked.mono hgrows h
  | _ => trivial

theorem RunBacked.mono (hgrows : Grows s s')
    (h : s.RunBacked expected id run) : s'.RunBacked expected id run where
  startedAt_le := h.startedAt_le.trans hgrows.clock
  phase := h.phase.mono hgrows

/-- A step which stores nothing: one run moves to a phase that is backed. -/
theorem Backed.move (h : s.Backed expected) (hgrows : Grows s s')
    (hlast : s'.lastVerifiedNano = s.lastVerifiedNano)
    (hconfirmations : s'.confirmations = s.confirmations)
    (hruns : s'.runs = Function.update s.runs id (some run))
    (hrun : s'.RunBacked expected id run) : s'.Backed expected where
  last := by
    rw [hlast]
    exact h.last.mono hgrows
  confirmations := by
    intro c hc
    rw [hconfirmations] at hc
    obtain ⟨hmatch, hprobe, htime⟩ := h.confirmations c hc
    exact ⟨hmatch, hgrows.probes hprobe, htime.trans hgrows.clock⟩
  runs := by
    rw [hruns]
    apply forall_update_some
    · intro other own hown
      exact (h.runs other own hown).mono hgrows
    · rintro _ ⟨⟩
      exact hrun

theorem grows_of_eq (hclock : s'.clock = s.clock)
    (hprobes : s.probes ⊆ s'.probes)
    (hconfirmations : s.confirmations ⊆ s'.confirmations) : Grows s s' where
  clock := by rw [hclock]
  probes := hprobes
  confirmations := hconfirmations

theorem Backed.setRun (h : s.Backed expected)
    (hstart : run.startedAt ≤ s.clock)
    (hphase : s.PhaseBacked expected id run.startedAt run.phase) :
    (s.setRun id run).Backed expected := by
  have hgrows : Grows s (s.setRun id run) :=
    grows_of_eq rfl (fun _ hmem => hmem) (fun _ hmem => hmem)
  have hrun : s.RunBacked expected id run := ⟨hstart, hphase⟩
  exact h.move hgrows rfl rfl rfl (hrun.mono hgrows)

theorem startPhase_backed (req : RequestBody) :
    s.PhaseBacked expected id startedAt (startPhase req) := by
  unfold startPhase
  split
  next => trivial
  next => trivial

/-- A time that passes the comparison is of a stored confirmation. -/
theorem groundBacked_of_fresh (id : ℕ) {last : Int} (hlast : s.Recorded last)
    (hstart : startedAt ≤ s.clock)
    (hfresh : verifiedFresh last s.clock = true) :
    s.GroundBacked id startedAt (.fresh last s.clock) := by
  simp only [verifiedFresh, decide_eq_true_eq] at hfresh
  exact ⟨hfresh.1, hlast, hfresh.2, hstart, le_refl _⟩

theorem comparedPhase_backed {last : Int} (hlast : s.Recorded last)
    (hstart : startedAt ≤ s.clock) :
    s.PhaseBacked expected id startedAt (comparedPhase last s.clock) := by
  unfold comparedPhase
  split
  next hfresh =>
    exact groundBacked_of_fresh id hlast hstart hfresh
  next => trivial

theorem lockedComparedPhase_backed {last : Int} (hlast : s.Recorded last)
    (hstart : startedAt ≤ s.clock) :
    s.PhaseBacked expected id startedAt
      (lockedComparedPhase last s.clock) := by
  unfold lockedComparedPhase
  split
  next hfresh =>
    exact groundBacked_of_fresh id hlast hstart hfresh
  next => trivial

theorem probedPhase_backed {source : SourceName}
    (hsource : expectedNetworkID source = some expected) {party : PinParty}
    {answer : Except ExternalError ServerInfoResult}
    (hprobe : (id, answer) ∈ s.probes) :
    s.PhaseBacked expected id startedAt
      (probedPhase source party answer) := by
  unfold probedPhase
  split
  next u hok =>
    exact ⟨(checkNetwork_eq_ok_iff hsource).mp hok, hprobe⟩
  next err _ =>
    cases party with
    | request => trivial
    | startup => trivial

theorem returnedPhase_backed {result : Except GoError PinGround}
    (h : s.PhaseBacked expected id startedAt (.returning result)) :
    s.PhaseBacked expected id startedAt (returnedPhase result) := by
  cases result with
  | ok ground => exact h
  | error err => trivial

theorem Backed.confirm (h : s.Backed expected)
    {answer : Except ExternalError ServerInfoResult} {time : Int}
    (hrun : s.runs id = some run)
    (hphase : run.phase = .stamped answer time) :
    (s.confirm id run answer time).Backed expected := by
  have hgrows : Grows s (s.confirm id run answer time) :=
    grows_of_eq rfl (fun _ hmem => hmem) (List.subset_cons_self _ _)
  have hown := h.runs id run hrun
  have hstamped := hown.phase
  rw [hphase] at hstamped
  obtain ⟨hmatch, hprobe, hstart, htime⟩ := hstamped
  constructor
  · exact .inr ⟨⟨id, answer, time⟩, List.mem_cons_self, rfl⟩
  · intro c hc
    rcases List.mem_cons.mp hc with hnew | hold
    · subst hnew
      exact ⟨hmatch, hprobe, htime⟩
    · exact h.confirmations c hold
  · apply forall_update_some
    · intro other own hother
      exact (h.runs other own hother).mono hgrows
    · rintro _ ⟨⟩
      refine ⟨hown.startedAt_le, ?_⟩
      cases hparty : run.party with
      | request =>
          simp only [storedPhase]
          exact ⟨hstart, ⟨id, answer, time⟩, List.mem_cons_self, rfl, rfl⟩
      | startup =>
          simp only [storedPhase]
          trivial

theorem newXRPVerifier_backed (clock : Int) :
    (newXRPVerifier clock).Backed expected where
  last := .inl rfl
  confirmations := by simp [newXRPVerifier]
  runs := by simp [newXRPVerifier]

theorem Backed.step {source : SourceName}
    (hsource : expectedNetworkID source = some expected)
    (h : s.Backed expected) {event : PinEvent}
    (hstep : s.step source event = some s') : s'.Backed expected := by
  cases step_cases hstep with
  | verify id req hfree => exact h.setRun (le_refl _) (startPhase_backed req)
  | verifyNetwork id hfree => exact h.setRun (le_refl _) trivial
  | load id run phase hrun hphase =>
      apply h.setRun
      · exact (h.runs id run hrun).startedAt_le
      · rcases hphase with ⟨-, rfl⟩ | ⟨-, rfl⟩
        · exact h.last
        · exact h.last
  | compare id run last phase hrun hphase =>
      have hown := h.runs id run hrun
      have hloaded := hown.phase
      apply h.setRun
      · exact hown.startedAt_le
      · rcases hphase with ⟨hlast, rfl⟩ | ⟨hlast, rfl⟩
        · rw [hlast] at hloaded
          exact comparedPhase_backed hloaded hown.startedAt_le
        · rw [hlast] at hloaded
          exact lockedComparedPhase_backed hloaded hown.startedAt_le
  | lock id run hrun hphase hfree =>
      have hstart := (h.runs id run hrun).startedAt_le
      exact h.move (grows_of_eq rfl (fun _ hmem => hmem) fun _ hmem => hmem)
        rfl rfl rfl ⟨hstart, trivial⟩
  | probe id run answer hrun hphase =>
      have hstart := (h.runs id run hrun).startedAt_le
      exact h.move (grows_of_eq rfl (List.subset_cons_self _ _)
        fun _ hmem => hmem) rfl rfl rfl
        ⟨hstart, probedPhase_backed hsource List.mem_cons_self⟩
  | stamp id run answer hrun hphase =>
      have hown := h.runs id run hrun
      have hmatched := hown.phase
      rw [hphase] at hmatched
      apply h.setRun
      · exact hown.startedAt_le
      · exact ⟨hmatched.1, hmatched.2, hown.startedAt_le, le_refl _⟩
  | store id run answer time hrun hphase => exact h.confirm hrun hphase
  | unlock id run result hrun hphase =>
      have hown := h.runs id run hrun
      have hreturning := hown.phase
      rw [hphase] at hreturning
      have hgrows : Grows s { s.setRun id { run with
          phase := returnedPhase result } with verifyMu := none } :=
        grows_of_eq rfl (fun _ hmem => hmem) (fun _ hmem => hmem)
      exact h.move hgrows rfl rfl rfl
        ⟨hown.startedAt_le, (returnedPhase_backed hreturning).mono hgrows⟩
  | tick elapsed =>
      have hgrows : Grows s { s with clock := s.clock + elapsed } :=
        ⟨by simp, fun _ hmem => hmem, fun _ hmem => hmem⟩
      constructor
      · exact h.last.mono hgrows
      · intro c hc
        obtain ⟨hmatch, hprobe, htime⟩ := h.confirmations c hc
        exact ⟨hmatch, hprobe, htime.trans hgrows.clock⟩
      · intro id run hrun
        exact (h.runs id run hrun).mono hgrows

theorem Backed.of_run {source : SourceName}
    (hsource : expectedNetworkID source = some expected) {clock : Int}
    {events : List PinEvent}
    (hrun : runSteps (PinState.step source) (newXRPVerifier clock) events =
      some s) :
    s.Backed expected := by
  apply runSteps_invariant _ (newXRPVerifier_backed clock) hrun
  intro t event t' _ hbacked hstep
  exact hbacked.step hsource hstep

/-- Only the store of a matching probe changes the confirmation time. -/
theorem Backed.lastVerifiedNano_changes {source : SourceName}
    (h : s.Backed expected) {event : PinEvent}
    (hstep : s.step source event = some s')
    (hne : s'.lastVerifiedNano ≠ s.lastVerifiedNano) :
    ∃ id answer, event = .store id ∧ (id, answer) ∈ s.probes ∧
      ProbeMatches expected answer := by
  cases step_cases hstep with
  | store id run answer time hrun hphase =>
      have hstamped := (h.runs id run hrun).phase
      rw [hphase] at hstamped
      exact ⟨id, answer, rfl, hstamped.2.1, hstamped.1⟩
  | _ => exact absurd rfl hne

/-! ## Without a successful probe -/

/-- The probe of the run has matched, and its confirmation is not stored
yet. -/
def Pending : PinPhase → Prop
  | .matched _ => True
  | .stamped _ _ => True
  | _ => False

/-- Since the given state no probe has matched. -/
structure Quiet (t u : PinState) : Prop where
  confirmations : u.confirmations = t.confirmations
  clock : t.clock ≤ u.clock
  pending : ∀ id run, u.runs id = some run → ¬ Pending run.phase
  startedAt : ∀ id run, u.runs id = some run → t.runs id = none →
    t.clock ≤ run.startedAt

variable {t u u' : PinState}

theorem Quiet.move (h : Quiet t u) (hclock : u'.clock = u.clock)
    (hconfirmations : u'.confirmations = u.confirmations)
    (hruns : u'.runs = Function.update u.runs id (some run))
    (hphase : ¬ Pending run.phase)
    (hstart : t.runs id = none → t.clock ≤ run.startedAt) : Quiet t u' where
  confirmations := hconfirmations.trans h.confirmations
  clock := by
    rw [hclock]
    exact h.clock
  pending := by
    rw [hruns]
    apply forall_update_some h.pending
    rintro _ ⟨⟩
    exact hphase
  startedAt := by
    rw [hruns]
    apply forall_update_some h.startedAt
    rintro _ ⟨⟩
    exact hstart

theorem not_pending_startPhase (req : RequestBody) :
    ¬ Pending (startPhase req) := by
  unfold startPhase
  split
  next => exact not_false
  next => exact not_false

theorem not_pending_probedPhase {source : SourceName}
    (hsource : expectedNetworkID source = some expected) {party : PinParty}
    {answer : Except ExternalError ServerInfoResult}
    (hmismatch : ¬ ProbeMatches expected answer) :
    ¬ Pending (probedPhase source party answer) := by
  unfold probedPhase
  split
  next u hok =>
    exact absurd ((checkNetwork_eq_ok_iff hsource).mp hok) hmismatch
  next err _ =>
    cases party with
    | request => exact not_false
    | startup => exact not_false

theorem Quiet.step {source : SourceName}
    (hsource : expectedNetworkID source = some expected) (h : Quiet t u)
    {event : PinEvent}
    (hprobe : ∀ id answer, event = .probe id answer →
      ¬ ProbeMatches expected answer)
    (hstep : u.step source event = some u') : Quiet t u' := by
  cases step_cases hstep with
  | verify id req hfree =>
      exact h.move rfl rfl rfl (not_pending_startPhase req)
        fun _ => h.clock
  | verifyNetwork id hfree =>
      exact h.move rfl rfl rfl not_false fun _ => h.clock
  | load id run phase hrun hphase =>
      refine h.move rfl rfl rfl ?_ (h.startedAt id run hrun)
      rcases hphase with ⟨-, rfl⟩ | ⟨-, rfl⟩
      · exact not_false
      · exact not_false
  | compare id run last phase hrun hphase =>
      refine h.move rfl rfl rfl ?_ (h.startedAt id run hrun)
      rcases hphase with ⟨-, rfl⟩ | ⟨-, rfl⟩
      · unfold comparedPhase
        split <;> exact not_false
      · unfold lockedComparedPhase
        split <;> exact not_false
  | lock id run hrun hphase hfree =>
      exact h.move rfl rfl rfl not_false (h.startedAt id run hrun)
  | probe id run answer hrun hphase =>
      exact h.move rfl rfl rfl
        (not_pending_probedPhase hsource (hprobe id answer rfl))
        (h.startedAt id run hrun)
  | stamp id run answer hrun hphase =>
      have hpending := h.pending id run hrun
      rw [hphase] at hpending
      exact absurd trivial hpending
  | store id run answer time hrun hphase =>
      have hpending := h.pending id run hrun
      rw [hphase] at hpending
      exact absurd trivial hpending
  | unlock id run result hrun hphase =>
      refine h.move rfl rfl rfl ?_ (h.startedAt id run hrun)
      cases result with
      | ok ground => exact not_false
      | error err => exact not_false
  | tick elapsed =>
      have hclock : u.clock ≤ u.clock + elapsed := by simp
      exact ⟨h.confirmations, h.clock.trans hclock, h.pending, h.startedAt⟩

theorem Quiet.of_run {source : SourceName}
    (hsource : expectedNetworkID source = some expected)
    (hpending : ∀ id run, t.runs id = some run → ¬ Pending run.phase)
    {events : List PinEvent}
    (hprobes : ∀ id answer, .probe id answer ∈ events →
      ¬ ProbeMatches expected answer)
    (hrun : runSteps (PinState.step source) t events = some u) :
    Quiet t u := by
  have hstart : Quiet t t :=
    ⟨rfl, le_refl _, hpending, fun id run hown hnone => by simp [hown] at hnone⟩
  apply runSteps_invariant _ hstart hrun
  intro v event v' hevent hquiet hstep
  refine hquiet.step hsource ?_ hstep
  rintro id answer rfl
  exact hprobes id answer hevent

/-- When every confirmation has expired and no probe matches any more, a new
request is not let through. -/
theorem Quiet.not_fetching (hquiet : Quiet t u) (hbacked : u.Backed expected)
    (hexpired : ∀ c ∈ t.confirmations,
      c.recordedAt + networkVerifyTTL ≤ t.clock)
    (hnew : t.runs id = none) (hrun : u.runs id = some run)
    (ground : PinGround) : run.phase ≠ .fetching ground := by
  intro hphase
  have hstart := hquiet.startedAt id run hrun hnew
  have hground := (hbacked.runs id run hrun).phase
  rw [hphase] at hground
  cases ground with
  | fresh last now =>
      obtain ⟨hzero, hrecorded, hfresh, hnow, -⟩ := hground
      rcases hrecorded with habsent | ⟨c, hc, rfl⟩
      · exact hzero habsent
      · rw [hquiet.confirmations] at hc
        have hold := hexpired c hc
        omega
  | probed time =>
      obtain ⟨htime, c, hc, -, rfl⟩ := hground
      rw [hquiet.confirmations] at hc
      have hold := hexpired c hc
      have hpositive : (0 : Int) < networkVerifyTTL := by decide
      omega

end PinState

/-- The gate of a request has answered. -/
def PinPhase.Answered : PinPhase → Prop
  | .fetching _ => True
  | .refused _ => True
  | _ => False

/-- Whatever the order of the steps and the answers of the node: a request
which is let through rests on a matching probe, of its own or confirmed
within the TTL; no other probe changes the confirmation time; and without
one the requests are refused. -/
theorem network_pinned (source : SourceName) (expected : UInt32)
    (hsource : expectedNetworkID source = some expected) (clock : Int)
    (events : List PinEvent) (s : PinState)
    (hrun : runSteps (PinState.step source) (newXRPVerifier clock) events =
      some s) :
    (∀ id run ground, s.runs id = some run →
      run.phase = .fetching ground →
      ∃ c ∈ s.confirmations, (c.run, c.answer) ∈ s.probes ∧
        ProbeMatches expected c.answer ∧
        ((∃ now, ground = .fresh c.recordedAt now ∧
            run.startedAt ≤ now ∧ now ≤ s.clock ∧
            now - c.recordedAt < networkVerifyTTL) ∨
          (ground = .probed c.recordedAt ∧ c.run = id))) ∧
    (∀ before event after t t', events = before ++ event :: after →
      runSteps (PinState.step source) (newXRPVerifier clock) before =
        some t →
      t.step source event = some t' →
      t'.lastVerifiedNano ≠ t.lastVerifiedNano →
      ∃ id answer, event = .store id ∧ (id, answer) ∈ t.probes ∧
        ProbeMatches expected answer) ∧
    (∀ before after t, events = before ++ after →
      runSteps (PinState.step source) (newXRPVerifier clock) before =
        some t →
      (∀ id run, t.runs id = some run → ¬ PinState.Pending run.phase) →
      (∀ c ∈ t.confirmations, c.recordedAt + networkVerifyTTL ≤ t.clock) →
      (∀ id answer, .probe id answer ∈ after →
        ¬ ProbeMatches expected answer) →
      ∀ id run, t.runs id = none → s.runs id = some run →
        run.phase.Answered → ∃ err, run.phase = .refused err) := by
  have hbacked := PinState.Backed.of_run hsource hrun
  refine ⟨?_, ?_, ?_⟩
  · intro id run ground hown hphase
    have hground := (hbacked.runs id run hown).phase
    rw [hphase] at hground
    cases ground with
    | fresh last now =>
        obtain ⟨hzero, hrecorded, hfresh, hstart, hclock⟩ := hground
        rcases hrecorded with habsent | ⟨c, hc, rfl⟩
        · exact absurd habsent hzero
        · obtain ⟨hmatch, hprobe, -⟩ := hbacked.confirmations c hc
          exact ⟨c, hc, hprobe, hmatch,
            .inl ⟨now, rfl, hstart, hclock, hfresh⟩⟩
    | probed time =>
        obtain ⟨-, c, hc, hid, rfl⟩ := hground
        obtain ⟨hmatch, hprobe, -⟩ := hbacked.confirmations c hc
        exact ⟨c, hc, hprobe, hmatch, .inr ⟨rfl, hid⟩⟩
  · rintro before event after t t' rfl hbefore hstep hne
    have hbackedBefore := PinState.Backed.of_run hsource hbefore
    exact hbackedBefore.lastVerifiedNano_changes hstep hne
  · rintro before after t rfl hbefore hpending hexpired hprobes id run hnew
      hown hanswered
    obtain ⟨mid, hmid, hafter⟩ := runSteps_append.mp hrun
    obtain rfl := Option.some.inj (hbefore.symm.trans hmid)
    have hquiet := PinState.Quiet.of_run hsource hpending hprobes hafter
    cases hphase : run.phase with
    | fetching ground =>
        exact absurd hphase
          (hquiet.not_fetching hbacked hexpired hnew hown ground)
    | refused err => exact ⟨err, rfl⟩
    | _ => simp [hphase, PinPhase.Answered] at hanswered

def sampleRequest : RequestBody :=
  ⟨"rAccount", [[1]], 1⟩

/-- The node is down at startup, then confirmed by the first request; the
second finds the confirmation fresh, and the third one, after it has
expired, meets the wrong network. -/
def threeRequests : List PinEvent :=
  [.verifyNetwork 0, .probe 0 (.error ⟨"connection refused", [.netError]⟩),
    .verify 1 sampleRequest, .load 1, .compare 1, .lock 1, .load 1,
    .compare 1, .probe 1 (.ok ⟨"success", some 1⟩), .stamp 1, .store 1,
    .unlock 1, .tick 600000000000, .verify 2 sampleRequest, .load 2,
    .compare 2, .tick 1800000000000, .verify 3 sampleRequest, .load 3,
    .compare 3, .lock 3, .load 3, .compare 3,
    .probe 3 (.ok ⟨"success", some 0⟩), .unlock 3]

theorem network_pinned_threeRequests :
    ∃ s, runSteps (PinState.step .testXRP) (newXRPVerifier 1000)
        threeRequests = some s ∧
      (∃ run ground, s.runs 2 = some run ∧ run.phase = .fetching ground ∧
        ∃ c ∈ s.confirmations, ProbeMatches 1 c.answer ∧
          ∃ now, ground = .fresh c.recordedAt now ∧
            now - c.recordedAt < networkVerifyTTL) ∧
      ∃ run err, s.runs 3 = some run ∧ run.phase = .refused err := by
  have hrun : runSteps (PinState.step .testXRP) (newXRPVerifier 1000)
      threeRequests = some ((runSteps (PinState.step .testXRP)
        (newXRPVerifier 1000) threeRequests).getD (newXRPVerifier 0)) := rfl
  have hpinned := network_pinned .testXRP 1 rfl 1000 threeRequests _ hrun
  refine ⟨_, hrun, ?_, _, _, rfl, rfl⟩
  obtain ⟨c, hc, -, hmatch, hground⟩ := hpinned.1 2
    ⟨.request, 600000001000, .fetching (.fresh 1000 600000001000)⟩
    (.fresh 1000 600000001000) rfl rfl
  rcases hground with ⟨now, hnow, -, -, hfresh⟩ | ⟨hprobed, -⟩
  · exact ⟨_, _, rfl, rfl, c, hc, hmatch, now, hnow, hfresh⟩
  · cases hprobed

end Multisig

end VerifierApi

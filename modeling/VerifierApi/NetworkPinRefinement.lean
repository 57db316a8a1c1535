import VerifierApi.NetworkPinProgress
import VerifierApi.ServiceLifecycle

/-!
# The gate and the sequential verifier

The machine takes the checks of many requests in small steps over one
confirmation time.  Each request by itself does what the sequential verifier
does on the times, the clocks and the answer which this request has read, and
the probe at startup does what it does on its answer.
-/

namespace VerifierApi

namespace Multisig

/-! ## What a run reads -/

/-- The requests which start a run, and the times, the clocks and the answers
that the run has read, in order. -/
structure Observations where
  requests : List RequestBody
  loads : List Int
  clocks : List Int
  answers : List (Except ExternalError ServerInfoResult)

namespace Observations

def empty : Observations := ⟨[], [], [], []⟩

/-- The loads and the clocks are those of the state in which the step is
taken.  The clock that is stored as a confirmation decides nothing. -/
def observe (id : ℕ) (seen : Observations) :
    PinState × PinEvent → Observations
  | (_, .verify own req) =>
      if own = id then { seen with requests := seen.requests ++ [req] }
      else seen
  | (s, .load own) =>
      if own = id then
        { seen with loads := seen.loads ++ [s.lastVerifiedNano] }
      else seen
  | (s, .compare own) =>
      if own = id then { seen with clocks := seen.clocks ++ [s.clock] }
      else seen
  | (_, .probe own answer) =>
      if own = id then { seen with answers := seen.answers ++ [answer] }
      else seen
  | _ => seen

def ofSteps (id : ℕ) (steps : List (PinState × PinEvent)) : Observations :=
  steps.foldl (observe id) empty

/-- What a run reads while the machine takes the events from its start. -/
def ofRun (source : SourceName) (clock : Int) (events : List PinEvent)
    (id : ℕ) : Observations :=
  ofSteps id (stepsOf (PinState.step source) (newXRPVerifier clock) events)

/-- The reads of the sequential verifier.  What the run has not read is not
looked at, and stands for nothing. -/
def reads (seen : Observations)
    (accountInfo : Except ExternalError AccountInfoResult) : Reads where
  lastVerifiedNano := seen.loads.headD 0
  now := seen.clocks.headD 0
  lockedLastVerifiedNano := seen.loads.tail.headD 0
  lockedNow := seen.clocks.tail.headD 0
  serverInfo := seen.answers.headD (.error ⟨"", []⟩)
  accountInfo := accountInfo

theorem ofSteps_concat (id : ℕ) (steps : List (PinState × PinEvent))
    (step : PinState × PinEvent) :
    ofSteps id (steps ++ [step]) = (ofSteps id steps).observe id step := by
  simp [ofSteps]

/-- A run sees nothing of the steps of the others. -/
theorem observe_of_ne {id : ℕ} {event : PinEvent}
    (hactor : event.actor ≠ some id) (seen : Observations) (s : PinState) :
    seen.observe id (s, event) = seen := by
  cases event <;> simp_all [observe, PinEvent.actor]

theorem requests_observe (id : ℕ) (seen : Observations)
    (step : PinState × PinEvent) :
    seen.requests ⊆ (seen.observe id step).requests := by
  fun_cases observe id seen step <;> simp

theorem mem_requests {id : ℕ} {req : RequestBody} {s : PinState}
    {steps : List (PinState × PinEvent)}
    (hmem : (s, PinEvent.verify id req) ∈ steps) :
    req ∈ (ofSteps id steps).requests := by
  induction steps using List.reverseRecOn with
  | nil => simp at hmem
  | append_singleton past step ih =>
      rw [ofSteps_concat]
      rcases List.mem_append.mp hmem with hpast | hlast
      · exact requests_observe _ _ _ (ih hpast)
      · obtain rfl := List.mem_singleton.mp hlast
        simp [observe]

/-- One check has found no fresh time, and the times in the list are loaded
since. -/
def StaleOnce (seen : Observations) (req : RequestBody) (loads : List Int) :
    Prop :=
  ∃ last now, verifiedFresh last now = false ∧
    seen = ⟨[req], last :: loads, [now], []⟩

/-- Neither check has found a fresh time. -/
def StaleTwice (seen : Observations) (req : RequestBody)
    (answers : List (Except ExternalError ServerInfoResult)) : Prop :=
  ∃ last now locked lockedNow, verifiedFresh last now = false ∧
    verifiedFresh locked lockedNow = false ∧
    seen = ⟨[req], [last, locked], [now, lockedNow], answers⟩

/-- The sequential gate gives this result on the reads of the run. -/
def Judged (seen : Observations) (source : SourceName) (req : RequestBody)
    (result : Except GoError Unit) : Prop :=
  seen.requests = [req] ∧
    ∀ accountInfo, ensureNetworkVerified source (seen.reads accountInfo) =
      result

end Observations

/-! ## Runs that are explained by their reads -/

section Explained

variable (source : SourceName)

def StartupExplained (seen : Observations) : PinPhase → Prop
  | .probing => seen = .empty
  | .matched answer => seen = ⟨[], [], [], [answer]⟩ ∧
      checkNetwork source answer = .ok ()
  | .stamped answer _ => seen = ⟨[], [], [], [answer]⟩ ∧
      checkNetwork source answer = .ok ()
  | .booted result => ∃ answer, seen = ⟨[], [], [], [answer]⟩ ∧
      verifyNetwork source answer = result
  | _ => False

def GateExplained (req : RequestBody) (seen : Observations) :
    PinPhase → Prop
  | .started => seen = ⟨[req], [], [], []⟩
  | .loaded last => seen = ⟨[req], [last], [], []⟩
  | .waiting => seen.StaleOnce req []
  | .locked => seen.StaleOnce req []
  | .lockedLoaded last => seen.StaleOnce req [last]
  | .probing => seen.StaleTwice req []
  | .matched answer => seen.StaleTwice req [answer] ∧
      checkNetwork source answer = .ok ()
  | .stamped answer _ => seen.StaleTwice req [answer] ∧
      checkNetwork source answer = .ok ()
  | .returning result => seen.Judged source req (result.map fun _ => ())
  | .fetching _ => seen.Judged source req (.ok ())
  | .refused err => seen.Judged source req (.error err)
  | .booted _ => False

/-- A run is where the sequential verifier would be on the reads of the
run. -/
inductive RunExplained (seen : Observations) : Option PinRun → Prop
  | absent (hseen : seen = .empty) : RunExplained seen .none
  | startup (startedAt : Int) (phase : PinPhase)
      (h : StartupExplained source seen phase) :
      RunExplained seen (some ⟨.startup, startedAt, phase⟩)
  | malformed (startedAt : Int) (req : RequestBody) (err : GoError)
      (hseen : seen = ⟨[req], [], [], []⟩)
      (hshape :
        validateMultisigRequest req.publicKeys req.threshold = .error err) :
      RunExplained seen (some ⟨.request, startedAt,
        .refused (ErrorValue.chained errInvalidRequest err)⟩)
  | request (startedAt : Int) (req : RequestBody) (phase : PinPhase)
      (hshape :
        validateMultisigRequest req.publicKeys req.threshold = .ok ())
      (h : GateExplained source req seen phase) :
      RunExplained seen (some ⟨.request, startedAt, phase⟩)

end Explained

section Steps

variable {source : SourceName} {seen seen' : Observations}
  {req : RequestBody}

/-- Only a request of a wrong shape is refused before it reads anything, and
takes no step any more. -/
theorem RunExplained.move {run : PinRun} {old phase : PinPhase}
    (h : RunExplained source seen (some run)) (hold : run.phase = old)
    (hmoves : ∀ err, old ≠ .refused err)
    (hstartup : run.party = .startup → StartupExplained source seen old →
      StartupExplained source seen' phase)
    (hgate : run.party = .request → ∀ req,
      GateExplained source req seen old →
      GateExplained source req seen' phase) :
    RunExplained source seen' (some { run with phase := phase }) := by
  subst hold
  cases h with
  | startup startedAt old h => exact .startup _ _ (hstartup rfl h)
  | malformed startedAt req err hseen hshape => exact absurd rfl (hmoves _)
  | request startedAt req old hshape h =>
      exact .request _ req _ hshape (hgate rfl req h)

theorem startPhase_explained (startedAt : Int) :
    RunExplained source ⟨[req], [], [], []⟩
      (some ⟨.request, startedAt, PinState.startPhase req⟩) := by
  unfold PinState.startPhase
  split
  next err hshape => exact .malformed _ _ _ rfl hshape
  next hshape => exact .request _ _ _ hshape rfl

theorem comparedPhase_explained (last now : Int) :
    GateExplained source req ⟨[req], [last], [now], []⟩
      (PinState.comparedPhase last now) := by
  unfold PinState.comparedPhase
  split
  next hfresh =>
    refine ⟨rfl, fun accountInfo => ?_⟩
    simp [ensureNetworkVerified, Observations.reads, hfresh]
  next hstale => exact ⟨last, now, by simpa using hstale, rfl⟩

theorem lockedComparedPhase_explained {last now : Int}
    (hstale : verifiedFresh last now = false) (locked lockedNow : Int) :
    GateExplained source req ⟨[req], [last, locked], [now, lockedNow], []⟩
      (PinState.lockedComparedPhase locked lockedNow) := by
  unfold PinState.lockedComparedPhase
  split
  next hfresh =>
    refine ⟨rfl, fun accountInfo => ?_⟩
    simp [ensureNetworkVerified, Observations.reads, hfresh, Except.map]
  next hlocked =>
    exact ⟨last, now, locked, lockedNow, hstale, by simpa using hlocked, rfl⟩

/-- After two checks which found no fresh time, the probe decides. -/
theorem Observations.StaleTwice.judged (source : SourceName)
    {answer : Except ExternalError ServerInfoResult}
    (h : seen.StaleTwice req [answer]) :
    seen.Judged source req (checkNetwork source answer) := by
  obtain ⟨last, now, locked, lockedNow, hstale, hlocked, rfl⟩ := h
  refine ⟨rfl, fun accountInfo => ?_⟩
  simp [ensureNetworkVerified, Observations.reads, hstale, hlocked]

theorem probedPhase_gate {answer : Except ExternalError ServerInfoResult}
    (h : seen.StaleTwice req [answer]) :
    GateExplained source req seen
      (PinState.probedPhase source .request answer) := by
  unfold PinState.probedPhase
  split
  next hmatch => exact ⟨h, hmatch⟩
  next err herr =>
    have hjudged := h.judged source
    rw [herr] at hjudged
    exact hjudged

theorem probedPhase_startup
    (answer : Except ExternalError ServerInfoResult) :
    StartupExplained source ⟨[], [], [], [answer]⟩
      (PinState.probedPhase source .startup answer) := by
  unfold PinState.probedPhase
  split
  next hmatch => exact ⟨rfl, hmatch⟩
  next err herr => exact ⟨answer, rfl, by simp [verifyNetwork, herr]⟩

variable {s s' : PinState} {id : ℕ} {event : PinEvent}

/-- A step of the run itself.  The loads, the comparisons and the lock are of
requests only. -/
theorem RunExplained.ownStep (h : RunExplained source seen (s.runs id))
    (hactor : event.actor = some id)
    (hstep : s.step source event = some s') :
    RunExplained source (seen.observe id (s, event)) (s'.runs id) := by
  cases PinState.step_cases hstep with
  | verify own req hfree =>
      obtain rfl : own = id := Option.some.inj hactor
      rw [hfree] at h
      obtain ⟨rfl⟩ := h
      simp only [PinState.setRun, Function.update_self, Observations.observe,
        if_true]
      exact startPhase_explained _
  | verifyNetwork own hfree =>
      obtain rfl : own = id := Option.some.inj hactor
      rw [hfree] at h
      obtain ⟨rfl⟩ := h
      simp only [PinState.setRun, Function.update_self]
      exact .startup _ _ rfl
  | load own run phase hrun hphase =>
      obtain rfl : own = id := Option.some.inj hactor
      rw [hrun] at h
      simp only [PinState.setRun, Function.update_self, Observations.observe,
        if_true]
      rcases hphase with ⟨hold, rfl⟩ | ⟨hold, rfl⟩
      · refine h.move hold (by simp) (fun _ hnot => hnot.elim) ?_
        rintro - req rfl
        rfl
      · refine h.move hold (by simp) (fun _ hnot => hnot.elim) ?_
        rintro - req ⟨last, now, hstale, rfl⟩
        exact ⟨last, now, hstale, rfl⟩
  | compare own run last phase hrun hphase =>
      obtain rfl : own = id := Option.some.inj hactor
      rw [hrun] at h
      simp only [PinState.setRun, Function.update_self, Observations.observe,
        if_true]
      rcases hphase with ⟨hold, rfl⟩ | ⟨hold, rfl⟩
      · refine h.move hold (by simp) (fun _ hnot => hnot.elim) ?_
        rintro - req rfl
        exact comparedPhase_explained _ _
      · refine h.move hold (by simp) (fun _ hnot => hnot.elim) ?_
        rintro - req ⟨before, now, hstale, rfl⟩
        exact lockedComparedPhase_explained hstale _ _
  | lock own run hrun hphase hfree =>
      obtain rfl : own = id := Option.some.inj hactor
      rw [hrun] at h
      simp only [PinState.setRun, Function.update_self]
      exact h.move hphase (by simp) (fun _ hnot => hnot.elim)
        fun _ req hstale => hstale
  | probe own run answer hrun hphase =>
      obtain rfl : own = id := Option.some.inj hactor
      rw [hrun] at h
      simp only [PinState.setRun, Function.update_self, Observations.observe,
        if_true]
      refine h.move hphase (by simp) ?_ ?_
      · rintro hparty rfl
        rw [hparty]
        exact probedPhase_startup answer
      · rintro hparty req ⟨last, now, locked, lockedNow, hstale, hlocked, rfl⟩
        rw [hparty]
        exact probedPhase_gate
          ⟨last, now, locked, lockedNow, hstale, hlocked, rfl⟩
  | stamp own run answer hrun hphase =>
      obtain rfl : own = id := Option.some.inj hactor
      rw [hrun] at h
      simp only [PinState.setRun, Function.update_self]
      exact h.move hphase (by simp) (fun _ hmatched => hmatched)
        fun _ req hmatched => hmatched
  | store own run answer time hrun hphase =>
      obtain rfl : own = id := Option.some.inj hactor
      rw [hrun] at h
      simp only [PinState.confirm, PinState.setRun, Function.update_self]
      refine h.move hphase (by simp) ?_ ?_
      · rintro hparty ⟨hseen, hmatch⟩
        rw [hparty]
        exact ⟨answer, hseen, by simp [verifyNetwork, hmatch]⟩
      · rintro hparty req ⟨hstale, hmatch⟩
        -- the probe has matched, so that the sequential gate is passed
        have hjudged := hstale.judged source
        rw [hmatch] at hjudged
        rw [hparty]
        exact hjudged
  | unlock own run result hrun hphase =>
      obtain rfl : own = id := Option.some.inj hactor
      rw [hrun] at h
      simp only [PinState.setRun, Function.update_self]
      refine h.move hphase (by simp) (fun _ hnot => hnot.elim) ?_
      intro _ req hjudged
      cases result with
      | ok ground => exact hjudged
      | error err => exact hjudged
  | tick elapsed => cases hactor

theorem RunExplained.step (h : RunExplained source seen (s.runs id))
    (hstep : s.step source event = some s') :
    RunExplained source (seen.observe id (s, event)) (s'.runs id) := by
  by_cases hactor : event.actor = some id
  · exact h.ownStep hactor hstep
  · rw [Observations.observe_of_ne hactor]
    rcases PinState.step_runs hstep with ⟨-, hruns⟩ |
      ⟨own, run', hown, hruns, -⟩
    · rw [hruns]
      exact h
    · have hne : id ≠ own := by
        rintro rfl
        exact hactor hown
      rw [hruns, Function.update_of_ne hne]
      exact h

theorem runExplained_of_run {clock : Int} {events : List PinEvent}
    (hrun : runSteps (PinState.step source) (newXRPVerifier clock) events =
      some s) (id : ℕ) :
    RunExplained source (.ofRun source clock events id) (s.runs id) := by
  apply runSteps_history (fun past t => RunExplained source
    (.ofSteps id past) (t.runs id)) _ (.absent rfl) hrun
  intro past t event t' hexplained hstep
  rw [Observations.ofSteps_concat]
  exact hexplained.step hstep

end Steps

/-! ## The sequential verifier -/

/-- `Verify` past the gate. -/
def XRPVerifier.verifyAccount (x : XRPVerifier)
    (answer : Except ExternalError AccountInfoResult) (req : RequestBody) :
    Except GoError ResponseBody := do
  let accountInfo ← fetchAccountInfo answer req.accountAddress
  match x.validateMultisigConfiguration accountInfo req with
  | .error _ => .ok ⟨.error, 0⟩
  | .ok sequence => .ok ⟨.ok, sequence⟩

/-- What the gate has answered. -/
def PinPhase.gateResult : PinPhase → Option (Except GoError Unit)
  | .fetching _ => some (.ok ())
  | .refused err => some (.error err)
  | _ => none

theorem StartupExplained.gateResult_ne {source : SourceName}
    {seen : Observations} {phase : PinPhase}
    (h : StartupExplained source seen phase)
    (result : Except GoError Unit) : phase.gateResult ≠ some result := by
  cases phase with
  | fetching ground => exact h.elim
  | refused err => exact h.elim
  | _ => simp [PinPhase.gateResult]

theorem GateExplained.judged {source : SourceName} {seen : Observations}
    {req : RequestBody} {phase : PinPhase} {result : Except GoError Unit}
    (h : GateExplained source req seen phase)
    (hresult : phase.gateResult = some result) :
    seen.Judged source req result := by
  cases phase with
  | fetching ground =>
      obtain rfl := Option.some.inj hresult
      exact h
  | refused err =>
      obtain rfl := Option.some.inj hresult
      exact h
  | _ => cases hresult

theorem verify_of_judged (x : XRPVerifier) {seen : Observations}
    {req : RequestBody} {result : Except GoError Unit}
    (hshape : validateMultisigRequest req.publicKeys req.threshold = .ok ())
    (hjudged : seen.Judged x.sourceID req result)
    (accountInfo : Except ExternalError AccountInfoResult) :
    x.verify (seen.reads accountInfo) req =
      result.bind fun _ => x.verifyAccount accountInfo req := by
  unfold XRPVerifier.verify
  rw [hshape, hjudged.2]
  rfl

theorem verify_of_wrong_shape (x : XRPVerifier) (reads : Reads)
    {req : RequestBody} {err : GoError}
    (hshape :
      validateMultisigRequest req.publicKeys req.threshold = .error err) :
    x.verify reads req =
      .error (ErrorValue.chained errInvalidRequest err) := by
  unfold XRPVerifier.verify
  rw [hshape]
  rfl

/-- Whatever the order of the steps and the answers of the node: a request
whose gate has answered gets from the sequential verifier, on the reads of
its own steps, the same refusal or the check of its account; and the probe
at startup ends as the sequential one does on the answer it was given. -/
theorem gate_refines_verify (source : SourceName) (clock : Int)
    (events : List PinEvent) (s : PinState)
    (hrun : runSteps (PinState.step source) (newXRPVerifier clock) events =
      some s) (id : ℕ) (run : PinRun) (hown : s.runs id = some run) :
    (∀ req result, .verify id req ∈ events →
      run.phase.gateResult = some result →
      ∀ x : XRPVerifier, x.sourceID = source → ∀ accountInfo,
        x.verify ((Observations.ofRun source clock events id).reads
            accountInfo) req =
          result.bind fun _ => x.verifyAccount accountInfo req) ∧
    (∀ result, run.phase = .booted result →
      ∃ answer, (Observations.ofRun source clock events id).answers =
          [answer] ∧
        verifyNetwork source answer = result) := by
  have hexplained := runExplained_of_run hrun id
  rw [hown] at hexplained
  generalize hseen : Observations.ofRun source clock events id = seen at *
  have hrequests : ∀ req, .verify id req ∈ events → req ∈ seen.requests := by
    intro req hmem
    rw [← stepsOf_events hrun] at hmem
    obtain ⟨⟨t, event⟩, hstep, rfl⟩ := List.mem_map.mp hmem
    rw [← hseen]
    exact Observations.mem_requests hstep
  constructor
  · rintro req result hstart hresult x rfl accountInfo
    have hreq := hrequests req hstart
    cases hexplained with
    | startup startedAt phase h =>
        exact absurd hresult (h.gateResult_ne result)
    | malformed startedAt own err hempty hshape =>
        -- refused before the gate, whatever is read there
        obtain rfl : req = own := by simpa [hempty] using hreq
        obtain rfl := Option.some.inj hresult
        exact verify_of_wrong_shape x _ hshape
    | request startedAt own phase hshape h =>
        have hjudged := h.judged hresult
        obtain rfl : req = own := by simpa [hjudged.1] using hreq
        exact verify_of_judged x hshape hjudged accountInfo
  · rintro result hphase
    cases hexplained with
    | startup startedAt phase h =>
        obtain rfl : phase = .booted result := hphase
        obtain ⟨answer, rfl, hresult⟩ := h
        exact ⟨answer, rfl, hresult⟩
    | malformed startedAt own err hempty hshape => cases hphase
    | request startedAt own phase hshape h =>
        obtain rfl : phase = .booted result := hphase
        exact h.elim

/-- The sequential verifier refuses the third request for the network which
this request has probed, and the node which is down does not fail the
startup. -/
theorem gate_refines_verify_threeRequests :
    (∃ err : GoError, err.has .networkMismatch = true ∧
      ∀ x : XRPVerifier, x.sourceID = .testXRP → ∀ accountInfo,
        x.verify ((Observations.ofRun .testXRP 1000 threeRequests 3).reads
          accountInfo) sampleRequest = .error err) ∧
    ∃ answer, (Observations.ofRun .testXRP 1000 threeRequests 0).answers =
        [answer] ∧ verifyNetwork .testXRP answer = .ok () := by
  have hrun : runSteps (PinState.step .testXRP) (newXRPVerifier 1000)
      threeRequests = some ((runSteps (PinState.step .testXRP)
        (newXRPVerifier 1000) threeRequests).getD (newXRPVerifier 0)) := rfl
  have hrefines := gate_refines_verify .testXRP 1000 threeRequests _ hrun
  constructor
  · have hstart : .verify 3 sampleRequest ∈ threeRequests := by
      simp [threeRequests]
    exact ⟨_, rfl, (hrefines 3 _ rfl).1 sampleRequest _ hstart rfl⟩
  · exact (hrefines 0 _ rfl).2 (.ok ()) rfl

end Multisig

end VerifierApi

import VerifierApi.RetryLoop
import VerifierApi.TeeVerifier

/-!
# The retried lookup of a signing policy

The lookup and the loop around it communicate through captured variables: the
closure stores the hash and the state, the breaking condition reads the state,
and the caller returns what is left of both.  The zero value of the state is
`TeeSampleValid`, so that the returned triple is only right because every
attempt stores a state before the loop looks at it.
-/

namespace VerifierApi

/-- The three results of a lookup. -/
structure PolicyLookup where
  hash : Hash
  state : TeeSampleState
  err : Option GoError

/-- `FetchSigningPolicyHashFromChain`, on the answer of the Relay caller. -/
def lookupSigningPolicyHash (answer : Except GoError Hash) : PolicyLookup :=
  match answer with
  | .error err =>
      ⟨zeroHash, (mapFetchErrorToState "ToSigningPolicyHash" err).1,
        some (mapFetchErrorToState "ToSigningPolicyHash" err).2⟩
  | .ok signingPolicyHashBytes => ⟨signingPolicyHashBytes, .valid, none⟩

/-- The captured variables, with the attempts that performed a lookup. -/
structure PolicyCapture where
  hash : Hash
  finalState : TeeSampleState
  performed : List ℕ

/-- The loop of the retried lookup, on the answers of the Relay caller to its
calls and on the errors of the context during its delays. -/
def policyRetryLoop (answers : ℕ → Except GoError Hash)
    (delay : ℕ → Option ContextError) (maxAttempts : ℕ) :
    RetryLoop PolicyCapture Unit GoError where
  operation attempt captured :=
    let lookup := lookupSigningPolicyHash (answers attempt)
    let performed := captured.performed ++ [attempt]
    match lookup.err with
    | some err =>
        (⟨captured.hash, lookup.state, performed⟩, (), some err)
    | none => (⟨lookup.hash, lookup.state, performed⟩, (), none)
  breakOn captured _ := captured.finalState = .invalid
  delay attempt := (delay attempt).map fun err => err.toExternal.toGoError
  maxAttempts := maxAttempts

structure PolicyRetryResult extends PolicyLookup where
  performed : List ℕ

/-- `FetchSigningPolicyHashFromChainWithRetry`, with its three results and
the attempts that performed a lookup. -/
def retrySigningPolicyHash (answers : ℕ → Except GoError Hash)
    (delay : ℕ → Option ContextError) (maxAttempts : ℕ) :
    PolicyRetryResult :=
  let (captured, _, err) := (policyRetryLoop answers delay maxAttempts).run
    (.new "maxAttempts must be at least 1") ⟨zeroHash, .valid, []⟩ ()
  match err with
  | some err =>
      ⟨⟨zeroHash, captured.finalState, some (.wrapf
        s!"fetchSigningPolicyHashFromChainWithRetry failed after {maxAttempts} attempts"
        err)⟩, captured.performed⟩
  | none => ⟨⟨captured.hash, captured.finalState, none⟩, captured.performed⟩

/-! ## Failures of a lookup -/

/-- The state under which a failed call of the Relay caller is reported. -/
def failureState (err : GoError) : TeeSampleState :=
  (mapFetchErrorToState "ToSigningPolicyHash" err).1

theorem failureState_ne_valid (err : GoError) :
    failureState err ≠ .valid := by
  unfold failureState mapFetchErrorToState classifyFetchError
    mapTransportError classifyHTTPStatus
  grind

/-- The error under which a failed call of the Relay caller is reported. -/
def failureError (err : GoError) : GoError :=
  (mapFetchErrorToState "ToSigningPolicyHash" err).2

theorem lookupSigningPolicyHash_error (err : GoError) :
    lookupSigningPolicyHash (.error err) =
      ⟨zeroHash, failureState err, some (failureError err)⟩ := rfl

/-- A call that fails in a way which another attempt may repair. -/
def TransientFailure (answer : Except GoError Hash) : Prop :=
  ∃ err, answer = .error err ∧ failureState err ≠ .invalid

def DeterministicFailure (answer : Except GoError Hash) : Prop :=
  ∃ err, answer = .error err ∧ failureState err = .invalid

section Retry

variable {answers : ℕ → Except GoError Hash}
  {delay : ℕ → Option ContextError} {maxAttempts : ℕ}

/-! ## One attempt -/

theorem operation_ok {attempt : ℕ} {hash : Hash}
    (h : answers attempt = .ok hash) (captured : PolicyCapture) :
    (policyRetryLoop answers delay maxAttempts).operation attempt captured =
      (⟨hash, .valid, captured.performed ++ [attempt]⟩, (), none) := by
  simp only [policyRetryLoop, h, lookupSigningPolicyHash]

theorem operation_error {attempt : ℕ} {err : GoError}
    (h : answers attempt = .error err) (captured : PolicyCapture) :
    (policyRetryLoop answers delay maxAttempts).operation attempt captured =
      (⟨captured.hash, failureState err, captured.performed ++ [attempt]⟩,
        (), some (failureError err)) := by
  simp only [policyRetryLoop, h, lookupSigningPolicyHash_error]

theorem breakOn_iff {captured : PolicyCapture} {err : GoError} :
    (policyRetryLoop answers delay maxAttempts).breakOn captured err =
      true ↔ captured.finalState = .invalid := by
  simp only [policyRetryLoop, decide_eq_true_eq]

theorem ne_invalid_of_breakOn {captured : PolicyCapture} {err : GoError}
    (h : (policyRetryLoop answers delay maxAttempts).breakOn captured err =
      false) : captured.finalState ≠ .invalid := by
  intro hstate
  rw [breakOn_iff.mpr hstate] at h
  simp at h

/-- What an attempt that reports no error did. -/
theorem operation_eq_none {attempt : ℕ} {captured captured' : PolicyCapture}
    (h : (policyRetryLoop answers delay maxAttempts).operation attempt
      captured = (captured', (), none)) :
    ∃ hash, answers attempt = .ok hash ∧
      captured' = ⟨hash, .valid, captured.performed ++ [attempt]⟩ := by
  cases hanswer : answers attempt with
  | ok hash =>
    rw [operation_ok hanswer] at h
    exact ⟨hash, rfl, (Prod.mk.inj h).1.symm⟩
  | error err =>
    rw [operation_error hanswer] at h
    simp at h

/-- What an attempt that reports an error did. -/
theorem operation_eq_some {attempt : ℕ} {captured captured' : PolicyCapture}
    {reported : GoError}
    (h : (policyRetryLoop answers delay maxAttempts).operation attempt
      captured = (captured', (), some reported)) :
    ∃ err, answers attempt = .error err ∧ reported = failureError err ∧
      captured' = ⟨captured.hash, failureState err,
        captured.performed ++ [attempt]⟩ := by
  cases hanswer : answers attempt with
  | ok hash =>
    rw [operation_ok hanswer] at h
    simp at h
  | error err =>
    rw [operation_error hanswer] at h
    simp only [Prod.mk.injEq, Option.some.injEq, true_and] at h
    exact ⟨err, rfl, h.2.symm, h.1.symm⟩

/-! ## A run of attempts -/

/-- How the last attempt leaves the captured variables and the error. -/
inductive LastAttempt (answers : ℕ → Except GoError Hash)
    (delay : ℕ → Option ContextError) (maxAttempts last : ℕ) :
    PolicyCapture → Option GoError → Prop
  | found {captured : PolicyCapture} {hash : Hash}
      (hanswer : answers last = .ok hash) (hhash : captured.hash = hash)
      (hstate : captured.finalState = .valid) :
      LastAttempt answers delay maxAttempts last captured none
  | broken {captured : PolicyCapture} {err : GoError}
      (hanswer : answers last = .error err)
      (hstate : captured.finalState = failureState err)
      (hinvalid : failureState err = .invalid) :
      LastAttempt answers delay maxAttempts last captured
        (some (failureError err))
  | cancelled {captured : PolicyCapture} {err : GoError}
      {cause : ContextError} (hanswer : answers last = .error err)
      (hstate : captured.finalState = failureState err)
      (hinvalid : failureState err ≠ .invalid) (hlt : last < maxAttempts)
      (hdelay : delay last = some cause) :
      LastAttempt answers delay maxAttempts last captured
        (some cause.toExternal.toGoError)
  | exhausted {captured : PolicyCapture} {err : GoError}
      (hanswer : answers last = .error err)
      (hstate : captured.finalState = failureState err)
      (hinvalid : failureState err ≠ .invalid) (hlast : last = maxAttempts) :
      LastAttempt answers delay maxAttempts last captured
        (some (failureError err))

/-- The attempts of a run are consecutive, all but the last one fail
transiently, and the last one decides. -/
structure AttemptsOutcome (answers : ℕ → Except GoError Hash)
    (delay : ℕ → Option ContextError) (maxAttempts first last : ℕ)
    (before : List ℕ) (captured : PolicyCapture) (err : Option GoError) :
    Prop where
  performed : captured.performed =
    before ++ List.range' first (last + 1 - first)
  retried : ∀ k, first ≤ k → k < last →
    TransientFailure (answers k) ∧ delay k = none
  ended : LastAttempt answers delay maxAttempts last captured err

theorem range'_single (attempt : ℕ) :
    List.range' attempt (attempt + 1 - attempt) = [attempt] := by
  have hone : attempt + 1 - attempt = 1 := by omega
  rw [hone]
  rfl

theorem attempts_outcome {attempt last : ℕ} {captured : PolicyCapture}
    {outcome : PolicyCapture × Unit × Option GoError}
    (hattempt : attempt ≤ maxAttempts)
    (h : (policyRetryLoop answers delay maxAttempts).Attempts attempt
      captured last outcome) :
    AttemptsOutcome answers delay maxAttempts attempt last
      captured.performed outcome.1 outcome.2.2 := by
  induction h with
  | @success attempt captured captured' result hop =>
    obtain ⟨hash, hanswer, rfl⟩ := operation_eq_none hop
    refine ⟨?_, by omega, .found hanswer rfl rfl⟩
    rw [range'_single]
  | @broken attempt captured captured' result reported hop hbreak =>
    obtain ⟨err, hanswer, rfl, rfl⟩ := operation_eq_some hop
    refine ⟨?_, by omega, .broken hanswer rfl (breakOn_iff.mp hbreak)⟩
    rw [range'_single]
  | @cancelled attempt captured captured' result reported cause hop hbreak
      hlt hdelay =>
    obtain ⟨err, hanswer, rfl, rfl⟩ := operation_eq_some hop
    have hinvalid : failureState err ≠ .invalid :=
      ne_invalid_of_breakOn hbreak
    obtain ⟨context, hcontext, rfl⟩ := Option.map_eq_some_iff.mp hdelay
    refine ⟨?_, by omega, .cancelled hanswer rfl hinvalid hlt hcontext⟩
    rw [range'_single]
  | @exhausted captured captured' result reported hop hbreak =>
    obtain ⟨err, hanswer, rfl, rfl⟩ := operation_eq_some hop
    have hinvalid : failureState err ≠ .invalid :=
      ne_invalid_of_breakOn hbreak
    refine ⟨?_, by omega, .exhausted hanswer rfl hinvalid rfl⟩
    rw [range'_single]
  | @again attempt last captured captured' result reported outcome hop hbreak
      hlt hdelay hrest ih =>
    obtain ⟨err, hanswer, rfl, rfl⟩ := operation_eq_some hop
    have hinvalid : failureState err ≠ .invalid :=
      ne_invalid_of_breakOn hbreak
    have hrest' := ih hlt
    have hlast := (hrest.last_mem hlt).1
    refine ⟨?_, ?_, hrest'.ended⟩
    · rw [hrest'.performed, List.append_assoc]
      have hlength : last + 1 - attempt = last + 1 - (attempt + 1) + 1 := by
        omega
      rw [hlength, List.range'_succ]
      rfl
    · intro k hfirst hklt
      rcases Nat.eq_or_lt_of_le hfirst with rfl | hlater
      · exact ⟨⟨err, hanswer, hinvalid⟩, Option.map_eq_none_iff.mp hdelay⟩
      · exact hrest'.retried k hlater hklt

/-! ## The returned triple -/

/-- The error behind the returned one: that of the context when it ended
during the delay after the last attempt, else that of the last lookup. -/
def lastError (delay : ℕ → Option ContextError) (maxAttempts last : ℕ)
    (err : GoError) : GoError :=
  if failureState err ≠ .invalid ∧ last < maxAttempts then
    match delay last with
    | some cause => cause.toExternal.toGoError
    | none => failureError err
  else failureError err

/-- What the retried lookup returns after `last` lookups. -/
structure PolicyRetryOutcome (answers : ℕ → Except GoError Hash)
    (delay : ℕ → Option ContextError) (maxAttempts last : ℕ)
    (result : PolicyRetryResult) : Prop where
  performed : result.performed = List.range' 1 last
  one_le : 1 ≤ last
  last_le : last ≤ maxAttempts
  retried : ∀ k, 1 ≤ k → k < last →
    TransientFailure (answers k) ∧ delay k = none
  stopped : last = maxAttempts ∨ (∃ hash, answers last = .ok hash) ∨
    DeterministicFailure (answers last) ∨ delay last ≠ none
  succeeds_iff : result.err = none ↔
    ∃ k ∈ result.performed, ∃ hash, answers k = .ok hash
  success : ∀ k ∈ result.performed, ∀ hash, answers k = .ok hash →
    result.hash = hash ∧ result.state = .valid
  failure : result.err ≠ none → ∃ err, answers last = .error err ∧
    result.hash = zeroHash ∧ result.state = failureState err ∧
    result.state ≠ .valid ∧
    result.err = some (.wrapf
      s!"fetchSigningPolicyHashFromChainWithRetry failed after {maxAttempts} attempts"
      (lastError delay maxAttempts last err))

theorem AttemptsOutcome.eq_last {last k : ℕ} {before : List ℕ}
    {captured : PolicyCapture} {err : Option GoError} {hash : Hash}
    (h : AttemptsOutcome answers delay maxAttempts 1 last before captured err)
    (hmem : k ∈ List.range' 1 last) (hanswer : answers k = .ok hash) :
    k = last := by
  have hbounds : 1 ≤ k ∧ k < 1 + last := List.mem_range'_1.mp hmem
  by_contra hne
  obtain ⟨⟨cause, herror, -⟩, -⟩ := h.retried k hbounds.1 (by omega)
  rw [hanswer] at herror
  simp at herror

/-- The triple that the caller of the loop makes of its outcome. -/
def PolicyRetryResult.ofLoop (maxAttempts : ℕ) (captured : PolicyCapture)
    (err : Option GoError) : PolicyRetryResult :=
  match err with
  | some err =>
      ⟨⟨zeroHash, captured.finalState, some (.wrapf
        s!"fetchSigningPolicyHashFromChainWithRetry failed after {maxAttempts} attempts"
        err)⟩, captured.performed⟩
  | none => ⟨⟨captured.hash, captured.finalState, none⟩, captured.performed⟩

theorem retrySigningPolicyHash_eq :
    retrySigningPolicyHash answers delay maxAttempts =
      .ofLoop maxAttempts
        ((policyRetryLoop answers delay maxAttempts).run
          (.new "maxAttempts must be at least 1")
          ⟨zeroHash, .valid, []⟩ ()).1
        ((policyRetryLoop answers delay maxAttempts).run
          (.new "maxAttempts must be at least 1")
          ⟨zeroHash, .valid, []⟩ ()).2.2 := rfl

/-- A loop that ended without success never had one. -/
theorem AttemptsOutcome.no_success {last : ℕ} {before : List ℕ}
    {captured : PolicyCapture} {reported : Option GoError} {err : GoError}
    (h : AttemptsOutcome answers delay maxAttempts 1 last before captured
      reported)
    (hlast : answers last = .error err) :
    ∀ k ∈ List.range' 1 last, ∀ hash, answers k ≠ .ok hash := by
  intro k hmem hash hanswer
  have heq := h.eq_last hmem hanswer
  rw [heq, hlast] at hanswer
  simp at hanswer

theorem AttemptsOutcome.failed {last : ℕ} {captured : PolicyCapture}
    {err reported : GoError}
    (h : AttemptsOutcome answers delay maxAttempts 1 last [] captured
      (some reported))
    (hbounds : 1 ≤ last ∧ last ≤ maxAttempts)
    (hanswer : answers last = .error err)
    (hstate : captured.finalState = failureState err)
    (hreported : reported = lastError delay maxAttempts last err)
    (hstopped : last = maxAttempts ∨ DeterministicFailure (answers last) ∨
      delay last ≠ none) :
    PolicyRetryOutcome answers delay maxAttempts last
      (.ofLoop maxAttempts captured (some reported)) := by
  have hperformed : captured.performed = List.range' 1 last := by
    simpa using h.performed
  have hnone := h.no_success hanswer
  refine ⟨hperformed, hbounds.1, hbounds.2, h.retried, ?_, ?_, ?_, ?_⟩
  · rcases hstopped with hmax | hdeterministic | hdelay
    · exact .inl hmax
    · exact .inr (.inr (.inl hdeterministic))
    · exact .inr (.inr (.inr hdelay))
  · simp only [PolicyRetryResult.ofLoop, reduceCtorEq, false_iff]
    rintro ⟨k, hmem, hash, hfound⟩
    rw [hperformed] at hmem
    exact hnone k hmem hash hfound
  · intro k hmem hash hfound
    rw [PolicyRetryResult.ofLoop, hperformed] at hmem
    exact absurd hfound (hnone k hmem hash)
  · intro _
    refine ⟨err, hanswer, rfl, hstate, ?_, by rw [← hreported]; rfl⟩
    rw [PolicyRetryResult.ofLoop, hstate]
    exact failureState_ne_valid err

theorem AttemptsOutcome.result {last : ℕ} {captured : PolicyCapture}
    {err : Option GoError}
    (h : AttemptsOutcome answers delay maxAttempts 1 last [] captured err)
    (hbounds : 1 ≤ last ∧ last ≤ maxAttempts) :
    PolicyRetryOutcome answers delay maxAttempts last
      (.ofLoop maxAttempts captured err) := by
  cases h.ended with
  | @found hash hanswer hhash hstate =>
    have hperformed : captured.performed = List.range' 1 last := by
      simpa using h.performed
    have hmem : last ∈ List.range' 1 last :=
      List.mem_range'_1.mpr (by omega)
    refine ⟨hperformed, hbounds.1, hbounds.2, h.retried,
      .inr (.inl ⟨hash, hanswer⟩), ?_, ?_, ?_⟩
    · simp only [PolicyRetryResult.ofLoop, true_iff, hperformed]
      exact ⟨last, hmem, hash, hanswer⟩
    · intro k hk hash' hanswer'
      rw [PolicyRetryResult.ofLoop, hperformed] at hk
      rw [h.eq_last hk hanswer', hanswer] at hanswer'
      rw [← Except.ok.inj hanswer']
      exact ⟨hhash, hstate⟩
    · intro herr
      simp [PolicyRetryResult.ofLoop] at herr
  | broken hanswer hstate hinvalid =>
    apply h.failed hbounds hanswer hstate
    · simp only [lastError, hinvalid, ne_eq, not_true_eq_false, false_and,
        if_false]
    · exact .inr (.inl ⟨_, hanswer, hinvalid⟩)
  | cancelled hanswer hstate hinvalid hlt hdelay =>
    apply h.failed hbounds hanswer hstate
    · simp only [lastError, hinvalid, hlt, hdelay, ne_eq, not_false_eq_true,
        and_self, if_true]
    · exact .inr (.inr (by simp [hdelay]))
  | exhausted hanswer hstate hinvalid hlast =>
    apply h.failed hbounds hanswer hstate
    · simp only [lastError, hlast, Nat.lt_irrefl, and_false, if_false]
    · exact .inl hlast

theorem retrySigningPolicyHash_outcome
    (answers : ℕ → Except GoError Hash) (delay : ℕ → Option ContextError)
    {maxAttempts : ℕ} (hmax : 1 ≤ maxAttempts) :
    ∃ last, PolicyRetryOutcome answers delay maxAttempts last
      (retrySigningPolicyHash answers delay maxAttempts) := by
  have hloop : 1 ≤ (policyRetryLoop answers delay maxAttempts).maxAttempts :=
    hmax
  obtain ⟨last, hattempts⟩ := RetryLoop.run_attempts hloop
    (.new "maxAttempts must be at least 1") ⟨zeroHash, .valid, []⟩ ()
  refine ⟨last, ?_⟩
  rw [retrySigningPolicyHash_eq]
  exact (attempts_outcome hmax hattempts).result (hattempts.last_mem hmax)

/-- A transient failure, a lookup that answers, and no third lookup. -/
theorem retrySigningPolicyHash_outcome_secondAttempt :
    (retrySigningPolicyHash
        (fun attempt => if attempt = 2 then .ok (FixedBytes.ofNat 32 7)
          else .error (.new "connection refused"))
        (fun _ => none) 3).performed = [1, 2] := by
  obtain ⟨last, houtcome⟩ := retrySigningPolicyHash_outcome
    (fun attempt => if attempt = 2 then .ok (FixedBytes.ofNat 32 7)
      else .error (.new "connection refused"))
    (fun _ => none) (show 1 ≤ 3 by decide)
  have hfirst : last ≠ 1 := by
    rintro rfl
    rcases houtcome.stopped with hmax | ⟨hash, hash'⟩ | ⟨err, herr, hstate⟩ | h
    · simp at hmax
    · simp at hash'
    · obtain rfl : ErrorValue.new "connection refused" = err := by
        simpa using herr
      exact absurd hstate (by decide)
    · simp at h
  have hthird : ¬ 2 < last := by
    intro hlt
    obtain ⟨⟨err, herr, -⟩, -⟩ := houtcome.retried 2 (by decide) hlt
    simp at herr
  have htwo : last = 2 := by
    have hone := houtcome.one_le
    omega
  rw [houtcome.performed, htwo]
  rfl

/-! ## The two models of the retried lookup -/

/-- The three results as a state and a result. -/
def PolicyLookup.outcome (lookup : PolicyLookup) :
    TeeSampleState × Except GoError Hash :=
  (lookup.state,
    match lookup.err with
    | none => .ok lookup.hash
    | some err => .error err)

/-- An outcome of the loop as a state and a result. -/
def loopOutcome (outcome : PolicyCapture × Unit × Option GoError) :
    TeeSampleState × Except GoError Hash :=
  (outcome.1.finalState,
    match outcome.2.2 with
    | none => .ok outcome.1.hash
    | some err => .error err)

theorem fetchSigningPolicyHashFromChain_eq (cutover : Option UInt32)
    (relays : RelayAnswers) (signingPolicyID : UInt32) :
    fetchSigningPolicyHashFromChain cutover relays signingPolicyID =
      (lookupSigningPolicyHash (toSigningPolicyHash cutover relays
        signingPolicyID.toNat)).outcome := by
  unfold fetchSigningPolicyHashFromChain
  cases toSigningPolicyHash cutover relays signingPolicyID.toNat <;> rfl

theorem outcome_ofLoop (outcome : PolicyCapture × Unit × Option GoError) :
    (PolicyRetryResult.ofLoop maxAttempts outcome.1 outcome.2.2).outcome =
      ((loopOutcome outcome).1, (loopOutcome outcome).2.mapError (.wrapf
        s!"fetchSigningPolicyHashFromChainWithRetry failed after {maxAttempts} attempts")) := by
  obtain ⟨captured, -, err⟩ := outcome
  cases err <;> rfl

theorem retryFrom_eq_iterate_of_ok {remaining attempt : ℕ} {hash : Hash}
    (hanswer : answers attempt = .ok hash) (captured : PolicyCapture)
    (lastErr : Option GoError) :
    Fetcher.retryFrom
        (fun attempt => (lookupSigningPolicyHash (answers attempt)).outcome)
        (fun state => state = .invalid) delay remaining attempt =
      loopOutcome ((policyRetryLoop answers delay maxAttempts).iterate
        (remaining + 1) attempt captured () lastErr) := by
  rw [RetryLoop.iterate, operation_ok hanswer]
  cases remaining with
  | zero => rw [Fetcher.retryFrom, hanswer]; rfl
  | succ remaining => rw [Fetcher.retryFrom, hanswer]; rfl

theorem retryFrom_eq_iterate {remaining attempt : ℕ}
    (hremaining : attempt + remaining = maxAttempts)
    (captured : PolicyCapture) (lastErr : Option GoError) :
    Fetcher.retryFrom
        (fun attempt => (lookupSigningPolicyHash (answers attempt)).outcome)
        (fun state => state = .invalid) delay remaining attempt =
      loopOutcome ((policyRetryLoop answers delay maxAttempts).iterate
        (remaining + 1) attempt captured () lastErr) := by
  have hmax : (policyRetryLoop answers delay maxAttempts).maxAttempts =
      maxAttempts := rfl
  have hdelay : ∀ k, (policyRetryLoop answers delay maxAttempts).delay k =
      (delay k).map fun err => err.toExternal.toGoError := fun _ => rfl
  have herror : ∀ err, (lookupSigningPolicyHash (.error err)).outcome =
      (failureState err, .error (failureError err)) := fun _ => rfl
  induction remaining generalizing attempt captured lastErr with
  | zero =>
    have hlast : ¬ attempt < maxAttempts := by omega
    cases hanswer : answers attempt with
    | ok hash => exact retryFrom_eq_iterate_of_ok hanswer captured lastErr
    | error err =>
      rw [RetryLoop.iterate, operation_error hanswer, Fetcher.retryFrom,
        hanswer, herror]
      simp only [hmax, hlast, if_false, RetryLoop.iterate]
      split <;> rfl
  | succ remaining ih =>
    have hlt : attempt < maxAttempts := by omega
    have hnext : attempt + 1 + remaining = maxAttempts := by omega
    cases hanswer : answers attempt with
    | ok hash => exact retryFrom_eq_iterate_of_ok hanswer captured lastErr
    | error err =>
      rw [RetryLoop.iterate, operation_error hanswer, Fetcher.retryFrom,
        hanswer, herror]
      simp only [hmax, hlt, hdelay, if_true, breakOn_iff, decide_eq_true_eq]
      by_cases hinvalid : failureState err = .invalid
      · rw [if_pos hinvalid, if_pos hinvalid]
        rfl
      · rw [if_neg hinvalid, if_neg hinvalid]
        cases delay attempt with
        | some cause => rfl
        | none => exact ih hnext _ _

end Retry

/-- The state and the result of the faithful loop are those of the verifier
model. -/
theorem fetchSigningPolicyHashFromChainWithRetry_eq
    (cutover : Option UInt32) (relays : ℕ → RelayAnswers)
    (delay : ℕ → Option ContextError) (signingPolicyID : UInt32)
    (maxAttempts : ℕ) :
    fetchSigningPolicyHashFromChainWithRetry cutover relays delay
        signingPolicyID maxAttempts =
      (retrySigningPolicyHash
        (fun attempt => toSigningPolicyHash cutover (relays attempt)
          signingPolicyID.toNat) delay maxAttempts).outcome := by
  rw [retrySigningPolicyHash_eq, outcome_ofLoop]
  simp only [fetchSigningPolicyHashFromChainWithRetry, Fetcher.retry,
    fetchSigningPolicyHashFromChain_eq]
  cases maxAttempts with
  | zero => rfl
  | succ remaining =>
    have hrun : 1 + remaining = remaining + 1 := Nat.add_comm 1 remaining
    have hloop : Fetcher.retryFrom
        (fun attempt => (lookupSigningPolicyHash (toSigningPolicyHash cutover
          (relays attempt) signingPolicyID.toNat)).outcome)
        (fun state => state = .invalid) delay remaining 1 = loopOutcome _ :=
      retryFrom_eq_iterate hrun ⟨zeroHash, .valid, []⟩ none
    simp only [hloop]
    rfl

end VerifierApi

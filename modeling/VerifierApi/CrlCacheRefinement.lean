import VerifierApi.CrlCacheSafety

/-!
# The calls of the machine

A call which returns in a run of the machine returns what the call function
gives on some observations, provided the fetches of the run are those of the
HTTP client.  The executions are explained first, and their results reach the
calls under the same key.
-/

namespace VerifierApi

namespace CacheState

variable (lib : X509Library) (urls : UrlLibrary) (certs : Set Certificate)

/-- The completion of a fetch is an outcome of the HTTP client. -/
def FromNetwork : CacheEvent → Prop
  | .fetchDone key outcome => ∃ lookup exchange, ∀ url, ∀ issuer ∈ certs,
      key = crlCacheKey lib url issuer →
        outcome = fetchCRLBytes urls url lookup exchange
  | _ => True

def FlightResult (url : String) (issuer : Certificate)
    (result : Except GoError RevocationList) : Prop :=
  ∃ view, (runFlight lib urls url issuer view).result = result

def CallResult (url : String) (issuer : Certificate)
    (result : Except GoError RevocationList) : Prop :=
  ∃ view, (callCRL lib urls url issuer view).result = result

def FlightExplained (flight : Flight) : FlightPhase → Prop
  | .accepted crl => FlightResult lib urls flight.url flight.issuer (.ok crl)
  | .finished result => FlightResult lib urls flight.url flight.issuer result
  | _ => True

def CallExplained (call : Call) : CallPhase → Prop
  | .delivered result _ => FlightResult lib urls call.url call.issuer result
  | .returned result _ => CallResult lib urls call.url call.issuer result
  | _ => True

structure Explained (s : CacheState) : Prop where
  invariant : s.Invariant lib certs
  flights : ∀ key flight, s.flights key = some flight →
    FlightExplained lib urls flight flight.phase
  calls : ∀ id call, s.calls id = some call →
    CallExplained lib urls call call.phase

section Results

variable {lib urls certs} {url : String} {issuer : Certificate}

theorem FlightResult.of_cachedFresh {now : Int} {entry : Option CrlEntry}
    {result : Except GoError RevocationList}
    (h : cachedFresh lib now issuer entry = result.map some) :
    FlightResult lib urls url issuer result := by
  refine ⟨⟨entry, now, (.ok []), .redirected "", false⟩, ?_⟩
  cases result with
  | error err => simp_all [runFlight, TeeRun.check, Except.bind, Except.map]
  | ok crl => simp_all [runFlight, TeeRun.check, Except.bind, Except.map]

theorem FlightResult.of_fetch {lookup : LookupAnswer} {exchange : Exchange} :
    FlightResult lib urls url issuer
      (((fetchCRLBytes urls url lookup exchange).mapError tagFetchError).bind
        (validateCRL lib url issuer)) := by
  refine ⟨⟨none, 0, lookup, exchange, false⟩, ?_⟩
  simp [runFlight, TeeRun.check, Except.bind, cachedFresh]

theorem CallResult.of_cachedFresh {now : Int} {entry : Option CrlEntry}
    {result : Except GoError RevocationList}
    (h : cachedFresh lib now issuer entry = result.map some) :
    CallResult lib urls url issuer result := by
  refine ⟨⟨entry, now, ⟨none, 0, (.ok []), .redirected "", false⟩, none⟩, ?_⟩
  cases result with
  | error err => simp_all [callCRL, TeeRun.check, Except.bind, Except.map]
  | ok crl => simp_all [callCRL, TeeRun.check, Except.bind, Except.map]

theorem FlightResult.received {result : Except GoError RevocationList}
    (h : FlightResult lib urls url issuer result) :
    CallResult lib urls url issuer
      (result.bind (receiveCRL lib issuer)) := by
  obtain ⟨view, rfl⟩ := h
  refine ⟨⟨none, 0, view, none⟩, ?_⟩
  simp [callCRL, TeeRun.check, Except.bind, cachedFresh]

theorem CallResult.of_cancelled (err : ContextError) :
    CallResult lib urls url issuer (.error err.toExternal.toGoError) := by
  refine ⟨⟨none, 0, ⟨none, 0, (.ok []), .redirected "", false⟩, some err⟩, ?_⟩
  simp [callCRL, TeeRun.check, Except.bind, cachedFresh]

end Results

section Steps

variable {lib urls certs} {s s' : CacheState}

theorem flightExplained_judged {flight : Flight} (entry : Option CrlEntry) :
    FlightExplained lib urls flight (s.flightJudged lib flight entry) := by
  unfold flightJudged
  split
  next err hhit => exact .of_cachedFresh (by rw [hhit]; rfl)
  next crl hhit => exact .of_cachedFresh (by rw [hhit]; rfl)
  next => trivial

theorem callExplained_judged {call : Call} (entry : Option CrlEntry) :
    CallExplained lib urls call (s.judged lib call entry) := by
  unfold judged
  split
  next err hhit => exact .of_cachedFresh (by rw [hhit]; rfl)
  next crl hhit => exact .of_cachedFresh (by rw [hhit]; rfl)
  next => trivial

theorem flightExplained_fetchJudged {flight : Flight}
    {outcome : Except GoError (List UInt8)} {lookup : LookupAnswer}
    {exchange : Exchange}
    (h : outcome = fetchCRLBytes urls flight.url lookup exchange) :
    FlightExplained lib urls flight (fetchJudged lib flight outcome) := by
  have hresult : FlightResult lib urls flight.url flight.issuer
      ((outcome.mapError tagFetchError).bind
        (validateCRL lib flight.url flight.issuer)) := h ▸ .of_fetch
  cases outcome with
  | error err => exact hresult
  | ok data =>
      simp only [Except.mapError, Except.bind] at hresult
      unfold fetchJudged
      simp only
      split
      next err hinvalid =>
        rw [hinvalid] at hresult
        exact hresult
      next crl hvalid =>
        rw [hvalid] at hresult
        exact hresult

theorem callExplained_deliver
    (hcerts : Set.InjOn (fun cert => lib.sha256 cert.raw) certs)
    (h : s.Explained lib urls certs) {key : String} {flight : Flight}
    {result : Except GoError RevocationList}
    (hflight : s.flights key = some flight)
    (hphase : flight.phase = .finished result) {id : ℕ} {call : Call}
    (hcall : s.deliver lib key result id = some call) :
    CallExplained lib urls call call.phase := by
  obtain ⟨before, hbefore, hcall⟩ := Option.map_eq_some_iff.mp hcall
  split at hcall
  next hwaiting =>
    split at hcall
    next hkey =>
      obtain rfl := hcall
      have hbacked := h.invariant.flights key flight hflight
      obtain ⟨hurl, hissuer⟩ := crlCacheKey_injOn hcerts hbacked.issuer_mem
        (h.invariant.calls id before hbefore).issuer_mem
        (hbacked.key_eq.symm.trans hkey.symm)
      have hresult : FlightExplained lib urls flight (.finished result) :=
        hphase ▸ h.flights key flight hflight
      simp only [FlightExplained, hurl, hissuer] at hresult
      exact hresult
    next =>
      obtain rfl := hcall
      exact h.calls id before hbefore
  next =>
    obtain rfl := hcall
    exact h.calls id before hbefore

theorem Explained.step
    (hcerts : Set.InjOn (fun cert => lib.sha256 cert.raw) certs)
    {event : CacheEvent} (h : s.Explained lib urls certs)
    (hissuer : IssuerIn certs event)
    (hnetwork : FromNetwork lib urls certs event)
    (hstep : s.step lib event = some s') :
    s'.Explained lib urls certs := by
  have hinv := h.invariant.step hcerts hissuer hstep
  have hcalls : ∀ id call, CallExplained lib urls call call.phase →
      ∀ other found, Function.update s.calls id (some call) other =
        some found → CallExplained lib urls found found.phase := by
    intro id call hcall
    exact forall_update_some h.calls
      (fun _ heq => Option.some.inj heq ▸ hcall)
  have hflights : ∀ key flight, FlightExplained lib urls flight flight.phase →
      ∀ other found, Function.update s.flights key (some flight) other =
        some found → FlightExplained lib urls found found.phase := by
    intro key flight hflight
    exact forall_update_some h.flights
      (fun _ heq => Option.some.inj heq ▸ hflight)
  cases CacheState.step_cases hstep with
  | call id url issuer hfree => exact ⟨hinv, h.flights, hcalls _ _ trivial⟩
  | lookup id call hcall hphase => exact ⟨hinv, h.flights, hcalls _ _ trivial⟩
  | judge id call entry hcall hphase =>
      exact ⟨hinv, h.flights, hcalls _ _ (callExplained_judged entry)⟩
  | share id call hcall hphase =>
      refine ⟨hinv, hflights _ _ ?_, hcalls _ _ trivial⟩
      unfold CacheState.shared
      cases hflight : s.flights (call.key lib) with
      | none => trivial
      | some flight => exact h.flights _ flight hflight
  | flightLookup key flight hflight hphase =>
      exact ⟨hinv, hflights _ _ trivial, h.calls⟩
  | flightJudge key flight entry hflight hphase =>
      exact ⟨hinv, hflights _ _ (flightExplained_judged entry), h.calls⟩
  | fetchDone key flight outcome hflight hphase =>
      have hbacked := h.invariant.flights key flight hflight
      obtain ⟨lookup, exchange, houtcome⟩ := hnetwork
      refine ⟨hinv, hflights _ _ ?_, h.calls⟩
      exact flightExplained_fetchJudged
        (houtcome flight.url flight.issuer hbacked.issuer_mem hbacked.key_eq)
  | insert key flight crl order hflight hphase horder =>
      have hresult : FlightExplained lib urls flight (.accepted crl) :=
        hphase ▸ h.flights key flight hflight
      exact ⟨hinv, hflights _ _ hresult, h.calls⟩
  | broadcast key flight result hflight hphase =>
      refine ⟨hinv, forall_update_some h.flights (by simp), ?_⟩
      intro id call hcall
      exact callExplained_deliver hcerts h hflight hphase hcall
  | receive id call result time hcall hphase =>
      have hresult : CallExplained lib urls call (.delivered result time) :=
        hphase ▸ h.calls id call hcall
      exact ⟨hinv, h.flights, hcalls _ _ hresult.received⟩
  | cancel id call err hcall hphase =>
      exact ⟨hinv, h.flights, hcalls _ _ (CallResult.of_cancelled err)⟩
  | tick elapsed => exact ⟨hinv, h.flights, h.calls⟩
  | close => exact ⟨hinv, h.flights, h.calls⟩

/-- Every call which returns in a run is the call function, on the
observations it made. -/
theorem returned_eq_callCRL
    (hcerts : Set.InjOn (fun cert => lib.sha256 cert.raw) certs)
    {clock : Int} {events : List CacheEvent}
    (hevents : ∀ event ∈ events,
      IssuerIn certs event ∧ FromNetwork lib urls certs event)
    (hrun : runSteps (CacheState.step lib) (newCRLCache clock) events =
      some s) {id : ℕ} {call : Call}
    {result : Except GoError RevocationList} {time : Int}
    (hcall : s.calls id = some call)
    (hphase : call.phase = .returned result time) :
    ∃ view, (callCRL lib urls call.url call.issuer view).result = result := by
  have hexplained : s.Explained lib urls certs := by
    refine runSteps_invariant ?_
      ⟨newCRLCache_invariant lib certs clock, by simp [newCRLCache],
        by simp [newCRLCache]⟩ hrun
    intro t event t' hevent ht hstep
    obtain ⟨hissuer, hnetwork⟩ := hevents event hevent
    exact ht.step hcerts hissuer hnetwork hstep
  have hresult : CallExplained lib urls call (.returned result time) :=
    hphase ▸ hexplained.calls id call hcall
  exact hresult

end Steps

end CacheState

end VerifierApi

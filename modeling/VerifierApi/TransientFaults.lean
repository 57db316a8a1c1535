import VerifierApi.CrlForToken
import VerifierApi.TeeErrors

/-!
# Transient faults of a TEE verification

The faults of a run are events of its trace.  A run all of whose faults are
transient is never answered by a terminal verdict.  On the way an error of a
revocation check is an outage when it carries the mark of one, or ended with
the context; the marks survive the joins over distribution points and the
wrapping on the way up.
-/

namespace VerifierApi

/-! ## Transient faults -/

/-- The transport to the proxy failed, or it answered with an error. -/
def Exchange.ProxyTransient : Exchange → Prop
  | .transportError _ => True
  | .answered statusCode body =>
      statusCode ≠ 200 ∨ ∃ err, body = .error err
  | _ => False

/-- The transport to a distribution point failed, or it answered with a
server error, a timeout or a rate limit. -/
def Exchange.CrlTransient : Exchange → Prop
  | .transportError _ => True
  | .answered statusCode body =>
      (500 ≤ statusCode ∧ statusCode < 600) ∨ statusCode = 408 ∨
        statusCode = 429 ∨ (statusCode = 200 ∧ ∃ err, body = .error err)
  | _ => False

/-- The resolver was cut short, or says that it may work later. -/
def ExternalError.ResolverTransient (err : ExternalError) : Prop :=
  err.toGoError.isContextError = true ∨
    ∃ isTemporary isTimeout,
      err.toGoError.as? asDNSError = some (isTemporary, isTimeout) ∧
      (isTemporary || isTimeout) = true

/-- The read was cut short, the network failed, or the node answered with an
error that does not blame the request. -/
def ExternalError.RelayTransient (err : ExternalError) : Prop :=
  err.toGoError.isContextError = true ∨
    (err.toGoError.as? asNetError).isSome = true ∨
    (err.toGoError.is (.external .ethereumNotFound) = false ∧
      ((∃ code, err.toGoError.as? asRPCHTTPError = some code ∧
          code ≠ 400 ∧ code ≠ 404) ∨
        (err.toGoError.as? asRPCHTTPError = none ∧
          ∃ code, err.toGoError.as? asRPCError = some code ∧
            code ∉ invalidRPCCodes)))

def Fault.Transient : Fault → Prop
  | .cancelled _ => True
  | .proxyLookup _ => True
  | .proxyExchange exchange => exchange.ProxyTransient
  | .crlLookup err => err.ResolverTransient
  | .crlExchange exchange => exchange.CrlTransient
  | .relayLookup err => err.RelayTransient
  | .check => False

def TeeEvent.Transient : TeeEvent → Prop
  | .crlFetch _ _ => True
  | .fault f => f.Transient

/-! ## Outages -/

/-- An error which is reported as an unfinished verification. -/
def Outage (err : GoError) : Prop :=
  err.has .teeRevocationUnavailable = true ∨ err.isContextError = true

namespace Outage

variable {err : GoError}

theorem wrapf (text : String) (h : Outage err) :
    Outage (.wrapf text err) := by
  simpa [Outage, ErrorValue.has, ErrorValue.isContextError] using h

theorem join {errs : List GoError} (hmem : err ∈ errs) (h : Outage err) :
    Outage (.join errs) := by
  simp only [Outage, ErrorValue.has, ErrorValue.isContextError,
    ErrorValue.is_join, Bool.or_eq_true, List.any_eq_true] at h ⊢
  rcases h with hrevocation | hdeadline | hcanceled
  · exact .inl ⟨err, hmem, hrevocation⟩
  · exact .inr (.inl ⟨err, hmem, hdeadline⟩)
  · exact .inr (.inr ⟨err, hmem, hcanceled⟩)

theorem of_cancelled (cause : ContextError) :
    Outage cause.toExternal.toGoError :=
  .inr cause.isContextError

theorem classifyDataVerificationError_notTerminal (h : Outage err)
    (hcrl : CrlError err) :
    NotTerminal (classifyDataVerificationError err) := by
  have hcond : (err.has .teeRevocationUnavailable || err.isContextError) =
      true := by simpa [Outage] using h
  unfold classifyDataVerificationError
  rw [if_pos hcond]
  exact hcrl.notTerminal.wrapf _

/-- A transient failure of a fetch is tagged; one that ended with a context
is recognised without the tag. -/
theorem tagFetchError
    (h : isTransientFetchError err = true ∨ err.isContextError = true) :
    Outage (tagFetchError err) := by
  unfold VerifierApi.tagFetchError
  by_cases htransient : isTransientFetchError err = true
  · rw [if_pos htransient]
    left
    simp [ErrorValue.has, errTEERevocationUnavailable]
  · rw [if_neg htransient]
    rcases h with htagged | hcontext
    · exact absurd htagged htransient
    · exact Outage.wrapf _ (.inr hcontext)

end Outage

/-! ## The faults of a fetch -/

theorem as?_external {α : Type} (err : ExternalError)
    (query : Mark → Option α) :
    err.toGoError.as? query =
      err.marks.findSome? fun mark => query (.external mark) := by
  simp [ErrorValue.as?, ExternalError.toGoError, List.findSome?_map,
    Function.comp_def]

theorem as?_httpStatusError_external (err : ExternalError) :
    err.toGoError.as? asHTTPStatusError = none := by
  rw [as?_external, List.findSome?_eq_none_iff]
  exact fun _ _ => rfl

theorem as?_dnsError_transport (err : TransportError) :
    err.toExternal.toGoError.as? asDNSError = none := by
  rw [as?_external, List.findSome?_eq_none_iff]
  intro mark hmark
  obtain ⟨transportMark, -, rfl⟩ := List.mem_map.mp hmark
  cases transportMark <;> rfl

theorem isTransientFetchError_transport (text : String)
    (err : TransportError) :
    isTransientFetchError (.wrapf2 text err errHTTPFetch) = true := by
  have hsentinels : (ErrorValue.wrapf2 text (err : GoError)
      errHTTPFetch).sentinels = [.httpFetch] := by
    simp [errHTTPFetch]
  have hstatus : (ErrorValue.wrapf2 text (err : GoError)
      errHTTPFetch).as? asHTTPStatusError = none := by
    rw [ErrorValue.as?_wrapf2, as?_httpStatusError_external]
    rfl
  have hdns : (ErrorValue.wrapf2 text (err : GoError)
      errHTTPFetch).as? asDNSError = none := by
    rw [ErrorValue.as?_wrapf2, as?_dnsError_transport]
    rfl
  unfold isTransientFetchError
  simp [has_eq, hsentinels, hstatus, hdns]

theorem isTransientFetchError_status {url : String} {statusCode : ℕ}
    (h : (500 ≤ statusCode ∧ statusCode < 600) ∨ statusCode = 408 ∨
      statusCode = 429) :
    isTransientFetchError (Fetcher.httpStatusError url statusCode) =
      true := by
  have hsentinels :
      (Fetcher.httpStatusError url statusCode).sentinels = [.httpFetch] := by
    simp [Fetcher.httpStatusError, errHTTPFetch]
  have hstatus : (Fetcher.httpStatusError url statusCode).as?
      asHTTPStatusError = some (statusCode : Int) := rfl
  unfold isTransientFetchError
  simp only [has_eq, hsentinels, hstatus]
  simp
  omega

theorem isTransientFetchError_exchange {url : String} {exchange : Exchange}
    {err : GoError} (herr : Fetcher.fetchBytesPinned url exchange = .error err)
    (h : exchange.CrlTransient) : isTransientFetchError err = true := by
  cases exchange with
  | requestError cause => exact absurd h id
  | redirected location => exact absurd h id
  | transportError cause =>
      obtain rfl := Except.error.inj herr
      exact isTransientFetchError_transport _ cause
  | answered statusCode body =>
      have hnotFound : statusCode ≠ 404 := by
        rintro rfl
        simp [Exchange.CrlTransient] at h
      simp only [Fetcher.fetchBytesPinned, if_neg hnotFound] at herr
      by_cases hok : statusCode = 200
      · rw [if_pos hok] at herr
        have hbody : ∃ cause, body = .error cause := by
          simpa [Exchange.CrlTransient, hok] using h
        obtain ⟨cause, rfl⟩ := hbody
        obtain rfl := Except.error.inj herr
        exact isTransientFetchError_transport _ cause
      · rw [if_neg hok] at herr
        obtain rfl := Except.error.inj herr
        apply isTransientFetchError_status
        simpa [Exchange.CrlTransient, hok] using h

theorem resolver_outage {err : ExternalError} {text before : String}
    (h : err.ResolverTransient) :
    Outage (tagFetchError (.wrapf before (urlErrorCause text err))) := by
  apply Outage.tagFetchError
  rcases h with hcontext | ⟨isTemporary, isTimeout, hdns, hflag⟩
  · right
    simp only [ErrorValue.isContextError, Bool.or_eq_true] at hcontext ⊢
    simpa [urlErrorCause, errURLValidation] using hcontext
  · left
    have hsentinels : (ErrorValue.wrapf before
        (urlErrorCause text err)).sentinels = [.urlValidation] := by
      rw [sentinels_wrapf, sentinels_urlErrorCause]
    have hchain : ∀ {α : Type} (query : Mark → Option α),
        (ErrorValue.wrapf before (urlErrorCause text err)).as? query =
          (query (.sentinel .urlValidation)).or
            (err.toGoError.as? query) := by
      intro α query
      rw [ErrorValue.as?_wrapf]
      simp [urlErrorCause, ErrorValue.errorf, ErrorValue.as?,
        errURLValidation, ErrorValue.sentinel, List.findSome?_cons]
      cases query (.sentinel .urlValidation) <;> rfl
    unfold isTransientFetchError
    simp [has_eq, hsentinels, hchain, as?_httpStatusError_external, hdns,
      asHTTPStatusError, asDNSError]
    simpa using hflag

theorem fetchCRLBytes_outage {urls : UrlLibrary} {url : String}
    {lookup : LookupAnswer} {exchange : Exchange} {err : GoError}
    (herr : fetchCRLBytes urls url lookup exchange = .error err)
    (h : (fetchCRLFault urls url lookup exchange).Transient) :
    Outage (tagFetchError err) := by
  unfold fetchCRLFault at h
  rcases bind_eq_error.mp herr with hresolve | ⟨resolved, hresolve, hfetch⟩
  · obtain ⟨cause, hcause, rfl⟩ := mapError_eq_error.mp hresolve
    simp only [hcause] at h
    split at h
    next external hlookup =>
      obtain ⟨host, hhost⟩ := resolveExternalURL_of_lookupError hlookup
      obtain rfl := Except.error.inj (hcause.symm.trans hhost)
      exact resolver_outage h
    next => exact absurd h id
  · rw [mapError_eq_ok] at hresolve
    simp only [hresolve] at h
    exact .tagFetchError (.inl (isTransientFetchError_exchange hfetch h))

/-! ## The faults of a call -/

/-- The faults of the run tell about its outcome: there is none without an
error, one with an error, and a transient one makes the error an outage. -/
structure FaultFaithful {α : Type} (x : TeeRun α) : Prop where
  silent : ∀ a, x.result = .ok a → ∀ f, .fault f ∉ x.events
  reported : ∀ err, x.result = .error err → ∃ f, .fault f ∈ x.events
  outage : ∀ err f, x.result = .error err → .fault f ∈ x.events →
    f.Transient → Outage err

namespace FaultFaithful

variable {α β : Type}

theorem pure (a : α) : FaultFaithful (Pure.pure a : TeeRun α) := by
  constructor <;> simp

theorem lift {f : Fault} {x : Except GoError α}
    (h : f.Transient → FailsWith Outage x) :
    FaultFaithful (Traced.lift (.fault f) x) := by
  cases x with
  | ok a => exact pure a
  | error err =>
      refine ⟨by simp, by simp, ?_⟩
      intro err' f' herr hmem htransient
      obtain rfl : err = err' := by simpa using herr
      obtain rfl : f' = f := by simpa using hmem
      exact h htransient err rfl

theorem check (x : Except GoError α) : FaultFaithful (TeeRun.check x) :=
  lift fun h => absurd h id

theorem fail {f : Fault} {err : GoError} (h : Outage err) :
    FaultFaithful (Traced.fail (.fault f) err : TeeRun α) :=
  lift (x := .error err) fun _ => .error h

theorem bind {x : TeeRun α} {g : α → TeeRun β} (hx : FaultFaithful x)
    (hg : ∀ a, x.result = .ok a → FaultFaithful (g a)) :
    FaultFaithful (x >>= g) := by
  refine ⟨?_, ?_, ?_⟩
  · intro b hb f hmem
    obtain ⟨a, ha, hb⟩ := Traced.result_bind_eq_ok.mp hb
    rcases Traced.mem_events_bind hmem with hleft | ⟨a', ha', hright⟩
    · exact hx.silent a ha f hleft
    · obtain rfl := Except.ok.inj (ha.symm.trans ha')
      exact (hg a ha).silent b hb f hright
  · intro err herr
    rcases Traced.result_bind_eq_error herr with hleft | ⟨a, ha, hright⟩
    · obtain ⟨f, hf⟩ := hx.reported err hleft
      exact ⟨f, Traced.mem_events_bind_left hf⟩
    · obtain ⟨f, hf⟩ := (hg a ha).reported err hright
      exact ⟨f, Traced.mem_events_bind_right ha hf⟩
  · intro err f herr hmem htransient
    rcases Traced.result_bind_eq_error herr with hleft | ⟨a, ha, hright⟩
    · rw [Traced.events_bind_error hleft] at hmem
      exact hx.outage err f hleft hmem htransient
    · rw [Traced.events_bind_ok ha] at hmem
      rcases List.mem_append.mp hmem with hfirst | hsecond
      · exact absurd hfirst (hx.silent a ha f)
      · exact (hg a ha).outage err f hright hsecond htransient

theorem report {events : List TeeEvent} (h : ∀ f, .fault f ∉ events) :
    FaultFaithful (Traced.report events : TeeRun Unit) :=
  ⟨fun _ _ => h, by simp, by simp⟩

end FaultFaithful

section Calls

variable {lib : X509Library} {urls : UrlLibrary} {issuer : Certificate}

theorem fault_notMem_fetches {url : String} {view : FlightView} (f : Fault) :
    .fault f ∉ view.fetches lib url issuer := by
  unfold FlightView.fetches
  split
  next => simp
  next =>
    split
    next => simp
    next => simp

theorem runFlight_faultFaithful (url : String) (view : FlightView) :
    FaultFaithful (runFlight lib urls url issuer view) := by
  refine FaultFaithful.bind (.check _) fun hit _ => ?_
  cases hit with
  | some crl => exact .pure crl
  | none =>
      refine FaultFaithful.bind (.lift ?_) fun data _ => .check _
      intro htransient err herr
      obtain ⟨cause, hcause, rfl⟩ := mapError_eq_error.mp herr
      exact fetchCRLBytes_outage hcause htransient

theorem callCRL_faultFaithful (url : String) (view : CallView) :
    FaultFaithful (callCRL lib urls url issuer view) := by
  refine FaultFaithful.bind (.check _) fun hit _ => ?_
  cases hit with
  | some crl => exact .pure crl
  | none =>
      refine FaultFaithful.bind (.report fault_notMem_fetches) fun _ _ => ?_
      cases view.cancelled with
      | some cause => exact .fail (.of_cancelled cause)
      | none =>
          exact FaultFaithful.bind (runFlight_faultFaithful url view.flight)
            fun crl _ => .check _

/-! ## The faults of a certificate -/

/-- A loop which fails has tried every point, and its error is an outage as
soon as one of the errors it joins is. -/
theorem fetchFirstFrom_outage {certName : CertName} {views : ℕ → CallView}
    {points : List String} {first : ℕ} {errs : List GoError} {err : GoError}
    (herr : (fetchFirstFrom lib urls certName issuer views points first
      errs).result = .error err) :
    (∀ cause ∈ errs, Outage cause → Outage err) ∧
      ∀ j (hj : j < points.length), ∃ cause,
        (callCRL lib urls (points.get ⟨j, hj⟩) issuer
          (views (first + j))).result = .error cause ∧
        (Outage cause → Outage err) := by
  induction points generalizing first errs with
  | nil =>
      obtain rfl := Except.error.inj herr
      exact ⟨fun cause hcause h => (Outage.join hcause h).wrapf _, by simp⟩
  | cons url rest ih =>
      unfold fetchFirstFrom at herr
      simp only at herr
      split at herr
      next => simp at herr
      next own hown =>
        obtain ⟨hjoined, hpoints⟩ := ih herr
        refine ⟨?_, ?_⟩
        · intro cause hcause
          exact hjoined cause (List.mem_append_left _ hcause)
        · intro j hj
          cases j with
          | zero =>
              refine ⟨own, hown, ?_⟩
              intro h
              exact hjoined (.wrapf url own)
                (List.mem_append_right _ (List.mem_singleton.mpr rfl))
                (h.wrapf url)
          | succ j =>
              obtain ⟨cause, hcause, h⟩ := hpoints j (by simpa using hj)
              refine ⟨cause, ?_, h⟩
              rw [← Nat.add_assoc, Nat.add_right_comm]
              exact hcause

/-- The first call of a loop reports its faults in the loop. -/
theorem mem_fetchFirstFrom_events {certName : CertName}
    {views : ℕ → CallView} {url : String} {rest : List String} {first : ℕ}
    {errs : List GoError} {event : TeeEvent}
    (h : event ∈ (callCRL lib urls url issuer (views first)).events) :
    event ∈ (fetchFirstFrom lib urls certName issuer views (url :: rest)
      first errs).events := by
  unfold fetchFirstFrom
  simp only [getOrFetchCRL]
  split
  next => exact h
  next => exact List.mem_append_left _ h

theorem fetchFirstCRL_error {certName : CertName} {points : List String}
    {views : ℕ → CallView} {err : GoError}
    (herr : (fetchFirstCRL lib urls certName points issuer views).result =
      .error err) :
    points ≠ [] ∧ (fetchFirstFrom lib urls certName issuer views points 0
      []).result = .error err := by
  unfold fetchFirstCRL at herr
  split at herr
  next => simp at herr
  next hne =>
    refine ⟨by simpa using hne, ?_⟩
    rcases Traced.result_bind_eq_error herr with h | ⟨crl, -, h⟩
    · exact h
    · simp at h

theorem fetchFirstCRL_failsUnder (certName : CertName)
    (points : List String) (views : ℕ → CallView) :
    (fetchFirstCRL lib urls certName points issuer views).FailsUnder
      TeeEvent.Transient Outage := by
  intro err herr hevents
  obtain ⟨hne, hloop⟩ := fetchFirstCRL_error herr
  cases points with
  | nil => exact absurd rfl hne
  | cons url rest =>
      obtain ⟨-, hpoints⟩ := fetchFirstFrom_outage hloop
      obtain ⟨cause, hcause, h⟩ := hpoints 0 (by simp)
      have hfaithful : FaultFaithful
          (callCRL lib urls url issuer (views 0)) :=
        callCRL_faultFaithful url (views 0)
      obtain ⟨f, hf⟩ := hfaithful.reported cause hcause
      have hmem : .fault f ∈ (fetchFirstCRL lib urls certName (url :: rest)
          issuer views).events :=
        Traced.mem_events_bind_left (mem_fetchFirstFrom_events hf)
      exact h (hfaithful.outage cause f hcause hf (hevents _ hmem))

end Calls

/-! ## The faults of a verification -/

theorem check_failsUnder {α : Type} {Q : GoError → Prop}
    (x : Except GoError α) :
    (TeeRun.check x).FailsUnder TeeEvent.Transient Q :=
  Traced.FailsUnder.lift fun h => absurd h id

section Verification

variable {J : Type} {lib : TeeLibrary J} {v : TeeVerifier} {view : TeeView}

theorem fetchCRLsForToken_failsUnder {tokens : TokenLibrary J}
    {x509 : X509Library} {urls : UrlLibrary} (tokenView : TokenView)
    (attestationToken : String) (expectedRoot : Option Certificate) :
    (fetchCRLsForToken x509 tokens urls tokenView attestationToken
      expectedRoot).FailsUnder TeeEvent.Transient Outage := by
  refine (check_failsUnder _).bind fun certs _ => ?_
  refine Traced.FailsUnder.forkJoin_bind fun hleaf hintermediate => ?_
  refine ((fetchFirstCRL_failsUnder _ _ _).ofExcept hleaf).bind
    fun _ _ => ?_
  exact ((fetchFirstCRL_failsUnder _ _ _).ofExcept hintermediate).bind
    fun _ _ => .pure _

theorem dataVerification_failsUnder (response : TeeInfoResponse)
    (expectedTeeID : Address) :
    (dataVerification lib v view response expectedTeeID).FailsUnder
      TeeEvent.Transient Outage := by
  unfold dataVerification
  split
  next => exact .pure _
  next =>
    split
    next => exact .pure _
    next =>
      refine (check_failsUnder _).bind fun _ _ => ?_
      refine Traced.FailsUnder.bind ?_ fun crls _ => check_failsUnder _
      refine Traced.FailsUnder.mapError (Q := Outage) ?_
        fun err h => h.wrapf _
      unfold tokenCRLs
      split
      next => exact fetchCRLsForToken_failsUnder _ _ _
      next => exact .pure _

/-- A proxy which cannot be reached, or which answers with an error, is
reported without a terminal identity. -/
theorem fetchJSONPinned_notTerminal {α : Type}
    {unmarshal : List UInt8 → Except ExternalError α}
    {typeName url : String} {exchange : Exchange}
    (h : exchange.ProxyTransient) :
    FailsWith NotTerminal
      ((Fetcher.fetchJSONPinned unmarshal typeName url exchange).mapError
        challengeFetchError) := by
  have hbytes : ∃ err, Fetcher.fetchBytesPinned url exchange = .error err ∧
      (err.sentinels = [.httpFetch] ∨ err.sentinels = [.notFound]) := by
    cases exchange with
    | requestError err => exact absurd h id
    | redirected location => exact absurd h id
    | transportError err => exact ⟨_, rfl, .inl (by simp [errHTTPFetch])⟩
    | answered statusCode body =>
        simp only [Fetcher.fetchBytesPinned]
        split
        next => exact ⟨_, rfl, .inr (by simp [errNotFound])⟩
        next =>
          split
          next hok =>
            have hbody : ∃ err, body = .error err := by
              simpa [Exchange.ProxyTransient, hok] using h
            obtain ⟨err, rfl⟩ := hbody
            exact ⟨_, rfl, .inl (by simp [errHTTPFetch])⟩
          next =>
            exact ⟨_, rfl, .inl (by
              simp [Fetcher.httpStatusError, errHTTPFetch])⟩
  obtain ⟨err, herr, hsentinels⟩ := hbytes
  have hjson : Fetcher.fetchJSONPinned unmarshal typeName url exchange =
      .error err := by
    rw [Fetcher.fetchJSONPinned, herr]
    rfl
  rw [hjson]
  refine FailsWith.error ?_
  unfold challengeFetchError
  rcases hsentinels with hs | hs
  · exact .of_sentinels [.httpFetch] (by simp [has_eq, hs]) (by decide)
  · exact .of_sentinels [.actionResultNotFound, .notFound]
      (by simp [has_eq, hs, errActionResultNotFound]) (by decide)

theorem fetchBoundResult_failsUnder (req : TeeRequestBody) :
    (fetchBoundResult lib v view req).FailsUnder TeeEvent.Transient
      NotTerminal := by
  refine Traced.FailsUnder.bind ?_ fun fetched _ => ?_
  · refine Traced.FailsUnder.mapError (Q := NotTerminal) ?_
      fun err h => h.wrapf _
    refine (check_failsUnder _).bind fun reqURL _ => ?_
    refine Traced.FailsUnder.bind ?_ fun _ _ => ?_
    · refine Traced.FailsUnder.lift fun _ => ?_
      exact (resolveExternalURL_sentinels _ _ _ _).mono
        fun err h => .of_sentinels _ h (by decide)
    · refine Traced.FailsUnder.bind ?_ fun actionResp _ => ?_
      · exact Traced.FailsUnder.lift fetchJSONPinned_notTerminal
      · exact (check_failsUnder _).bind fun _ _ => .pure _
  · exact (check_failsUnder _).bind fun _ _ => .pure _

theorem classifyFetchError_notTerminal {err : ExternalError}
    (h : err.RelayTransient) :
    NotTerminal (classifyFetchError err).2 := by
  have hkinds : (classifyFetchError err).2 ∈
      [errContext, errNetwork, errRPC] := by
    unfold classifyFetchError mapTransportError
    by_cases hcontext : err.toGoError.isContextError = true
    · simp [hcontext]
    by_cases hnet : (err.toGoError.as? asNetError).isSome = true
    · simp [hcontext, hnet]
    rcases h with hcontext' | hnet' | ⟨hfound, hhttp | ⟨hnone, hrpc⟩⟩
    · exact absurd hcontext' hcontext
    · exact absurd hnet' hnet
    · obtain ⟨code, hcode, hbad, hmissing⟩ := hhttp
      simp [hcontext, hnet, hfound, hcode, classifyHTTPStatus, hbad, hmissing]
    · obtain ⟨code, hcode, hvalid⟩ := hrpc
      simp [hcontext, hnet, hfound, hnone, hcode, hvalid]
  simp only [List.mem_cons, List.not_mem_nil, or_false] at hkinds
  rcases hkinds with hkind | hkind | hkind
  · exact hkind ▸ .of_sentinels [.context] rfl (by decide)
  · exact hkind ▸ .of_sentinels [.network] rfl (by decide)
  · exact hkind ▸ .of_sentinels [.rpc] rfl (by decide)

theorem signingPolicyRun_failsUnder (info : TeeInfo) (side : PolicySide) :
    (signingPolicyRun v view info side).FailsUnder TeeEvent.Transient
      NotTerminal := by
  refine Traced.FailsUnder.lift fun htransient => ?_
  refine FailsWith.mapError (P := NotTerminal) ?_ fun err h => h.wrapf _
  simp only [chainMaxAttempts, Fetcher.retry, Fetcher.retryFrom,
    fetchSigningPolicyHashFromChain, toSigningPolicyHash]
  simp only [TeeEvent.Transient, relayFault] at htransient
  split at htransient
  next err hanswer =>
    rw [hanswer]
    exact .error (NotTerminal.wrapf _
      (classifyFetchError_notTerminal htransient))
  next => exact absurd htransient id

theorem checkSigningPolicies_failsUnder (info : TeeInfo) :
    (checkSigningPolicies v view info).FailsUnder TeeEvent.Transient
      NotTerminal := by
  refine Traced.FailsUnder.forkJoin_bind fun hinitial hlast => ?_
  refine Traced.FailsUnder.bind ?_ fun initialHash _ => ?_
  · intro err herr _
    obtain ⟨cause, hcause, rfl⟩ := mapError_eq_error.mp herr
    exact (signingPolicyRun_failsUnder info .initial cause hcause
      hinitial).wrapf _
  · refine Traced.FailsUnder.bind ?_ fun lastHash _ => ?_
    · intro err herr _
      obtain ⟨cause, hcause, rfl⟩ := mapError_eq_error.mp herr
      exact (signingPolicyRun_failsUnder info .last cause hcause
        hlast).wrapf _
    · exact (check_failsUnder _).bind fun _ _ => check_failsUnder _

theorem verify_failsUnder (lib : TeeLibrary J) (v : TeeVerifier)
    (view : TeeView) (req : TeeRequestBody) :
    (v.verify lib view req).FailsUnder TeeEvent.Transient NotTerminal := by
  refine (fetchBoundResult_failsUnder req).bind fun bound _ => ?_
  refine Traced.FailsUnder.forkJoin_bind fun hdata hpolicies => ?_
  refine Traced.FailsUnder.bind ?_ fun statusInfo _ => ?_
  · intro err herr _
    obtain ⟨cause, hcause, rfl⟩ := mapError_eq_error.mp herr
    exact (dataVerification_failsUnder _ _ cause hcause
      hdata).classifyDataVerificationError_notTerminal
        (dataVerification_crlError _ _ cause hcause)
  · exact ((checkSigningPolicies_failsUnder _).ofExcept hpolicies).bind
      fun _ _ => .pure _

end Verification

end VerifierApi

import VerifierApi.TeeVerifier

/-!
# The errors of the TEE verifier

Which identities the errors of each function can carry.  Every error of the
verification is either free of terminal identities, or a validation failure
without an outage, or invalid input; on all of these the two endpoints agree.
-/

namespace VerifierApi

/-! ## Kinds of errors -/

/-- No identity which either endpoint treats as terminal. -/
def NotTerminal (err : GoError) : Prop :=
  ∀ s ∈ err.sentinels,
    s ∉ terminalSentinels ++ granularTEESentinels ++ maskedSentinels

namespace NotTerminal

variable {err cause : GoError}

theorem wrapf (text : String) (h : NotTerminal err) :
    NotTerminal (.wrapf text err) := by
  unfold NotTerminal
  rw [sentinels_wrapf]
  exact h

theorem external (err : ExternalError) : NotTerminal err := by
  simp [NotTerminal]

theorem of_sentinels (sentinels : List Sentinel)
    (h : err.sentinels = sentinels)
    (hsentinels : ∀ s ∈ sentinels,
      s ∉ terminalSentinels ++ granularTEESentinels ++ maskedSentinels) :
    NotTerminal err := by
  unfold NotTerminal
  rw [h]
  exact hsentinels

theorem classifyVerifyStatus_eq (h : NotTerminal err) :
    (classifyVerifyStatus err).1 = .retry := by
  rw [classifyVerifyStatus_eq_retry_iff, Ne,
    classifyVerifyStatus_eq_rejected_iff, any_has_iff, any_has_iff]
  rintro (⟨s, hs, hmem⟩ | ⟨-, s, hs, hmem⟩)
  · exact h s hs (List.mem_append_left _ hmem)
  · exact h s hs (List.mem_append_right _ hmem)

theorem consistent (h : NotTerminal err) : Consistent err := by
  constructor
  · intro hany
    obtain ⟨s, hs, hmem⟩ := any_has_iff.mp hany
    exact absurd
      (List.mem_append_left _ (List.mem_append_right _ hmem)) (h s hs)
  · intro _ hany
    obtain ⟨s, hs, hmem⟩ := any_has_iff.mp hany
    exact absurd (List.mem_append_right _ hmem) (h s hs)

end NotTerminal

/-- A failed validation which is no outage of the revocation check. -/
structure InvalidData (err : GoError) : Prop where
  dataValidation : .teeDataValidation ∈ err.sentinels
  no_outage : .teeRevocationUnavailable ∉ err.sentinels

theorem InvalidData.wrapf {err : GoError} (text : String)
    (h : InvalidData err) : InvalidData (.wrapf text err) := by
  constructor
  · rw [sentinels_wrapf]
    exact h.dataValidation
  · rw [sentinels_wrapf]
    exact h.no_outage

theorem InvalidData.consistent {err : GoError} (h : InvalidData err) :
    Consistent err := by
  have hmasked : maskedSentinels.any err.has :=
    any_has_iff.mpr ⟨_, h.dataValidation, by simp [maskedSentinels]⟩
  refine ⟨fun _ => by simp [List.any_append, hmasked], ?_⟩
  intro hhas
  rw [has_eq, decide_eq_true_eq] at hhas
  exact absurd hhas h.no_outage

/-- What the verification of a TEE can fail with. -/
def TeeError (err : GoError) : Prop :=
  NotTerminal err ∨ InvalidData err ∨ err.sentinels = [.invalidInput]

theorem TeeError.wrapf {err : GoError} (text : String) (h : TeeError err) :
    TeeError (.wrapf text err) := by
  rcases h with hretry | hinvalid | hinput
  · exact .inl (hretry.wrapf text)
  · exact .inr (.inl (hinvalid.wrapf text))
  · exact .inr (.inr (by rw [sentinels_wrapf, hinput]))

theorem TeeError.consistent {err : GoError} (h : TeeError err) :
    Consistent err := by
  rcases h with hretry | hinvalid | hinput
  · exact hretry.consistent
  · exact hinvalid.consistent
  · apply Consistent.of_forall
    · simp [hinput, granularTEESentinels]
    · simp [hinput]

/-! ## Revocation lists -/

def crlSentinels : List Sentinel :=
  [.teeRevocationUnavailable, .urlValidation, .redirect, .httpFetch,
    .notFound, .responseTooLarge]

def CrlError (err : GoError) : Prop :=
  ∀ s ∈ err.sentinels, s ∈ crlSentinels

namespace CrlError

variable {err cause : GoError}

theorem new (text : String) : CrlError (.new text) := by
  simp [CrlError]

theorem external (err : ExternalError) : CrlError err := by
  simp [CrlError]

theorem wrapf (text : String) (h : CrlError err) :
    CrlError (.wrapf text err) := by
  unfold CrlError
  rw [sentinels_wrapf]
  exact h

theorem join {errs : List GoError} (h : ∀ err ∈ errs, CrlError err) :
    CrlError (.join errs) := by
  unfold CrlError
  rw [sentinels_join]
  intro s hs
  obtain ⟨err, herr, hs⟩ := List.mem_flatMap.mp hs
  exact h err herr s hs

theorem tagFetchError (h : CrlError err) : CrlError (tagFetchError err) := by
  unfold VerifierApi.tagFetchError
  split
  · unfold CrlError
    rw [sentinels_wrapf2]
    intro s hs
    rcases List.mem_append.mp hs with hown | hs
    · simp_all [errTEERevocationUnavailable, crlSentinels]
    · exact h s hs
  · exact h.wrapf _

theorem notTerminal (h : CrlError err) : NotTerminal err := by
  intro s hs
  have hmem := h s hs
  simp only [crlSentinels, List.mem_cons, List.not_mem_nil, or_false] at hmem
  rcases hmem with rfl | rfl | rfl | rfl | rfl | rfl <;> decide

end CrlError

section Lists

variable {lib : X509Library} {urls : UrlLibrary}

theorem verifyCRLIssuer_crlError (crl : RevocationList)
    (issuer : Certificate) :
    FailsWith CrlError (verifyCRLIssuer lib crl issuer) :=
  FailsWith.ensure_bind (.new _) fun _ =>
    FailsWith.mapError_of_forall .external

theorem cachedFresh_crlError (now : Int) (issuer : Certificate)
    (entry : Option CrlEntry) :
    FailsWith CrlError (cachedFresh lib now issuer entry) := by
  unfold cachedFresh
  split
  next => exact .ok _
  next found =>
    split
    next => exact .ok _
    next =>
      exact ((verifyCRLIssuer_crlError _ _).mapError
        fun err h => h.wrapf _).bind fun _ _ => .ok _

theorem fetchCRLBytes_crlError (url : String) (lookup : LookupAnswer)
    (exchange : Exchange) :
    FailsWith CrlError (fetchCRLBytes urls url lookup exchange) := by
  refine FailsWith.bind ?_ fun _ _ => ?_
  · refine (resolveExternalURL_sentinels _ _ _ _).mapError fun err h => ?_
    refine CrlError.wrapf _ ?_
    simp [CrlError, h, crlSentinels]
  · refine (Fetcher.fetchBytesPinned_sentinels url exchange).mono
      fun err h => ?_
    simp only [List.mem_cons, List.not_mem_nil, or_false] at h
    rcases h with h | h | h | h | h <;> simp [CrlError, h, crlSentinels]

theorem validateCRL_crlError (url : String) (issuer : Certificate)
    (data : List UInt8) :
    FailsWith CrlError (validateCRL lib url issuer data) := by
  refine FailsWith.bind (FailsWith.mapError_of_forall fun err =>
    CrlError.wrapf _ (.external err)) fun crl _ => ?_
  refine FailsWith.bind ((verifyCRLIssuer_crlError _ _).mapError
    fun err h => h.wrapf _) fun _ _ => ?_
  exact FailsWith.ensure_bind (.new _) fun _ => .ok _

theorem runFlight_crlError (url : String) (issuer : Certificate)
    (view : FlightView) :
    FailsWith CrlError (runFlight lib urls url issuer view).result := by
  refine Traced.failsWith_bind ?_ fun hit _ => ?_
  · rw [TeeRun.check, Traced.result_lift]
    exact cachedFresh_crlError _ _ _
  · cases hit with
    | some crl => exact .ok _
    | none =>
        refine Traced.failsWith_bind ?_ fun data _ => ?_
        · rw [Traced.result_lift]
          exact (fetchCRLBytes_crlError _ _ _).mapError
            fun err h => h.tagFetchError
        · rw [TeeRun.check, Traced.result_lift]
          exact validateCRL_crlError _ _ _

theorem callCRL_crlError (url : String) (issuer : Certificate)
    (view : CallView) :
    FailsWith CrlError (callCRL lib urls url issuer view).result := by
  refine Traced.failsWith_bind ?_ fun hit _ => ?_
  · rw [TeeRun.check, Traced.result_lift]
    exact cachedFresh_crlError _ _ _
  · cases hit with
    | some crl => exact .ok _
    | none =>
        refine Traced.failsWith_bind (.ok _) fun _ _ => ?_
        cases view.cancelled with
        | some cause => exact .error (.external _)
        | none =>
            refine Traced.failsWith_bind (runFlight_crlError _ _ _)
              fun crl _ => ?_
            rw [TeeRun.check, Traced.result_lift]
            exact ((verifyCRLIssuer_crlError _ _).mapError
              fun err h => h.wrapf _).bind fun _ _ => .ok _

theorem fetchFirstFrom_crlError {certName : CertName} {issuer : Certificate}
    {views : ℕ → CallView} {points : List String} {first : ℕ}
    {errs : List GoError} (herrs : ∀ err ∈ errs, CrlError err) :
    FailsWith CrlError (fetchFirstFrom lib urls certName issuer views points
      first errs).result := by
  induction points generalizing first errs with
  | nil => exact .error (CrlError.wrapf _ (.join herrs))
  | cons url rest ih =>
      unfold fetchFirstFrom
      simp only
      split
      next => exact .ok _
      next err hcall =>
        apply ih
        intro err' herr'
        rcases List.mem_append.mp herr' with hold | hnew
        · exact herrs err' hold
        · obtain rfl := List.mem_singleton.mp hnew
          exact (callCRL_crlError _ _ _ err hcall).wrapf _

theorem fetchFirstCRL_crlError (certName : CertName) (points : List String)
    (issuer : Certificate) (views : ℕ → CallView) :
    FailsWith CrlError
      (fetchFirstCRL lib urls certName points issuer views).result := by
  unfold fetchFirstCRL
  split
  next => exact .ok _
  next =>
    exact Traced.failsWith_bind (fetchFirstFrom_crlError (by simp))
      fun _ _ => .ok _

end Lists

/-! ## Data verification -/

section Token

variable {J : Type} {lib : X509Library} {tokens : TokenLibrary J}

theorem tokenCertificates_crlError (attestationToken : String) :
    FailsWith CrlError (tokenCertificates tokens attestationToken) := by
  refine FailsWith.bind (FailsWith.mapError_of_forall fun err =>
    CrlError.wrapf _ (.external err)) fun header _ => ?_
  cases header with
  | missing => exact .error (.new _)
  | other => exact .error (.new _)
  | slice values =>
      exact FailsWith.mapError_of_forall fun err =>
        CrlError.wrapf _ (.external err)

theorem checkCertValidity_crlError (cert : Certificate) (name : String)
    (now : Int) : FailsWith CrlError (checkCertValidity lib cert name now) :=
  FailsWith.ensure_bind (.new _) fun _ => FailsWith.ensure (.new _)

theorem validateX5CChain_crlError (root intermediate leaf : Certificate)
    (now : Int) :
    FailsWith CrlError (validateX5CChain lib root intermediate leaf now) := by
  refine FailsWith.bind (checkCertValidity_crlError _ _ _) fun _ _ => ?_
  refine FailsWith.bind (checkCertValidity_crlError _ _ _) fun _ _ => ?_
  refine FailsWith.bind (checkCertValidity_crlError _ _ _) fun _ _ => ?_
  refine FailsWith.bind (FailsWith.mapError_of_forall fun err =>
    CrlError.wrapf _ (.external err)) fun _ _ => ?_
  exact FailsWith.mapError_of_forall fun err =>
    CrlError.wrapf _ (.external err)

theorem acceptedChain_crlError (attestationToken : String)
    (expectedRoot : Option Certificate) (now : Int) :
    FailsWith CrlError
      (acceptedChain lib tokens attestationToken expectedRoot now) := by
  refine FailsWith.bind (tokenCertificates_crlError _) fun certs _ => ?_
  refine FailsWith.ensure_bind (.new _) fun _ => ?_
  exact ((validateX5CChain_crlError _ _ _ _).mapError
    fun err h => h.wrapf _).bind fun _ _ => .ok _

theorem fetchCRLsForToken_crlError (urls : UrlLibrary) (view : TokenView)
    (attestationToken : String) (expectedRoot : Option Certificate) :
    FailsWith CrlError (fetchCRLsForToken lib tokens urls view
      attestationToken expectedRoot).result := by
  refine Traced.failsWith_bind ?_ fun certs _ => ?_
  · rw [TeeRun.check, Traced.result_lift]
    exact acceptedChain_crlError _ _ _
  · refine Traced.failsWith_bind (.ok _) fun outcome houtcome => ?_
    rw [forkJoin_result, Except.ok.injEq] at houtcome
    subst houtcome
    refine Traced.failsWith_bind (fetchFirstCRL_crlError _ _ _ _)
      fun _ _ => ?_
    exact Traced.failsWith_bind (fetchFirstCRL_crlError _ _ _ _)
      fun _ _ => .ok _

end Token

section Verification

variable {J : Type} {lib : TeeLibrary J} {v : TeeVerifier} {view : TeeView}

theorem validateClaims_crlError (claims : GoogleTeeClaims) :
    FailsWith CrlError (validateClaims lib claims) := by
  refine FailsWith.ensure_bind (.new _) fun _ => ?_
  refine FailsWith.bind ?_ fun status _ => ?_
  · refine FailsWith.of_ite (fun _ => ?_) fun _ => .ok _
    refine FailsWith.bind ?_ fun _ _ => .ok _
    intro err herr
    obtain ⟨-, rfl⟩ := require_eq_error.mp herr
    exact .new _
  · refine FailsWith.bind (FailsWith.mapError_of_forall fun err =>
      CrlError.wrapf _ (.external err)) fun _ _ => ?_
    exact FailsWith.bind (FailsWith.mapError_of_forall fun err =>
      CrlError.wrapf _ (.external err)) fun _ _ => .ok _

theorem validateToken_crlError (response : TeeInfoResponse)
    (expectedTeeID : Address)
    (leafCRL intermediateCRL : Option RevocationList) :
    FailsWith CrlError (validateToken lib v response expectedTeeID leafCRL
      intermediateCRL) := by
  refine FailsWith.bind (FailsWith.mapError_of_forall fun err =>
    CrlError.wrapf _ (.external err)) fun _ _ => ?_
  refine FailsWith.bind (FailsWith.mapError_of_forall fun err =>
    CrlError.wrapf _ (.external err)) fun _ _ => ?_
  refine FailsWith.bind (FailsWith.mapError_of_forall fun err =>
    CrlError.wrapf _ (.external err)) fun _ _ => ?_
  refine FailsWith.ensure_bind (.new _) fun _ => ?_
  exact (validateClaims_crlError _).mapError fun err h => h.wrapf _

theorem tokenCRLs_crlError (attestationToken : String) :
    FailsWith CrlError (tokenCRLs lib v view attestationToken).result := by
  unfold tokenCRLs
  split
  next => exact fetchCRLsForToken_crlError _ _ _ _
  next => exact .ok _

theorem dataVerification_crlError (response : TeeInfoResponse)
    (expectedTeeID : Address) :
    FailsWith CrlError
      (dataVerification lib v view response expectedTeeID).result := by
  unfold dataVerification
  split
  next => exact .ok _
  next =>
    split
    next => exact .ok _
    next =>
      refine Traced.failsWith_bind ?_ fun _ _ => ?_
      · rw [TeeRun.check, Traced.result_lift]
        exact FailsWith.ensure (.new _)
      · refine Traced.failsWith_bind
          ((tokenCRLs_crlError _).mapError fun err h => h.wrapf _)
          fun crls _ => ?_
        obtain ⟨leafCRL, intermediateCRL⟩ := crls
        simp only [TeeRun.check, Traced.result_lift]
        exact validateToken_crlError _ _ _ _

/-- An outage stays retryable, anything else becomes a validation failure. -/
theorem CrlError.classifyDataVerificationError {err : GoError}
    (h : CrlError err) : TeeError (classifyDataVerificationError err) := by
  unfold VerifierApi.classifyDataVerificationError
  split
  next => exact .inl (h.notTerminal.wrapf _)
  next houtage =>
    have hno : .teeRevocationUnavailable ∉ err.sentinels := by
      simp only [has_eq, Bool.or_eq_true, decide_eq_true_eq] at houtage
      exact fun hmem => houtage (.inl hmem)
    refine .inr (.inl ⟨?_, ?_⟩)
    · simp [errTEEAttestationInvalid, errTEEDataValidation]
    · simp [errTEEAttestationInvalid, errTEEDataValidation, hno]

/-! ## The proxy and the chain -/

theorem teeError_of_dataValidation {err : GoError}
    (h : .teeDataValidation ∈ err.sentinels)
    (hno : .teeRevocationUnavailable ∉ err.sentinels) : TeeError err :=
  .inr (.inl ⟨h, hno⟩)

theorem challengeFetchError_teeError {err : GoError}
    (h : err.sentinels ∈ [[], [.redirect, .httpFetch], [.httpFetch],
      [.notFound], [.responseTooLarge]]) :
    TeeError (challengeFetchError err) := by
  unfold challengeFetchError
  simp only [List.mem_cons, List.not_mem_nil, or_false] at h
  rcases h with h | h | h | h | h
  · exact .inl (.of_sentinels [] (by simp [has_eq, h]) (by decide))
  · exact .inl (.of_sentinels [.redirect, .httpFetch]
      (by simp [has_eq, h]) (by decide))
  · exact .inl (.of_sentinels [.httpFetch] (by simp [has_eq, h])
      (by decide))
  · exact .inl (.of_sentinels [.actionResultNotFound, .notFound]
      (by simp [has_eq, h, errActionResultNotFound]) (by decide))
  · apply teeError_of_dataValidation
    · simp [has_eq, h, errTEEResponseMalformed, errTEEDataValidation]
    · simp [has_eq, h, errTEEResponseMalformed, errTEEDataValidation]

theorem decodeChallengeResult_teeError (actionResp : ActionResponse) :
    FailsWith TeeError (decodeChallengeResult lib actionResp) := by
  have hmalformed : ∀ (text : String) (causes : List GoError),
      (∀ cause ∈ causes, cause.sentinels = []) →
      TeeError (.errorf text (errTEEResponseMalformed :: causes)) := by
    intro text causes hcauses
    have hnil : causes.flatMap ErrorValue.sentinels = [] :=
      List.flatMap_eq_nil_iff.mpr hcauses
    apply teeError_of_dataValidation
    · simp [errTEEResponseMalformed, errTEEDataValidation]
    · rw [sentinels_errorf, List.flatMap_cons, hnil]
      simp [errTEEResponseMalformed, errTEEDataValidation]
  refine FailsWith.ensure_bind (hmalformed _ [] (by simp)) fun _ => ?_
  refine FailsWith.ensure_bind (hmalformed _ [] (by simp)) fun _ => ?_
  refine FailsWith.bind (FailsWith.mapError_of_forall fun err =>
    hmalformed _ [err.toGoError] (by simp)) fun teeInfo _ => ?_
  refine FailsWith.bind (FailsWith.mapError_of_forall fun err =>
    .inl (NotTerminal.wrapf _ (.external err))) fun _ _ => ?_
  exact FailsWith.bind (FailsWith.mapError_of_forall fun err =>
    hmalformed _ [err.toGoError] (by simp)) fun _ _ => .ok _

theorem fetchTEEChallengeResult_teeError (baseURL : String)
    (challengeInstructionID : Hash) (allowPrivateNetworks : Bool) :
    FailsWith TeeError (fetchTEEChallengeResult lib view baseURL
      challengeInstructionID allowPrivateNetworks).result := by
  refine Traced.failsWith_bind ?_ fun reqURL _ => ?_
  · rw [TeeRun.check, Traced.result_lift]
    exact FailsWith.mapError_of_forall fun err =>
      .inl (NotTerminal.wrapf _ (.external err))
  · refine Traced.failsWith_bind ?_ fun _ _ => ?_
    · rw [Traced.result_lift]
      exact (resolveExternalURL_sentinels _ _ _ _).mono fun err h =>
        .inl (.of_sentinels _ h (by decide))
    · refine Traced.failsWith_bind ?_ fun actionResp _ => ?_
      · rw [Traced.result_lift]
        refine FailsWith.mapError (P := fun err => err.sentinels ∈
          [[], [.redirect, .httpFetch], [.httpFetch], [.notFound],
            [.responseTooLarge]]) ?_ fun err =>
              challengeFetchError_teeError
        exact (Fetcher.fetchBytesPinned_sentinels _ _).bind fun _ _ =>
          FailsWith.mapError_of_forall fun err => by simp
      · refine Traced.failsWith_bind ?_ fun _ _ => .ok _
        rw [TeeRun.check, Traced.result_lift]
        exact decodeChallengeResult_teeError _

theorem verifyActionResult_sentinels (actionResp : ActionResponse)
    (expectedInstructionID : Hash) (expectedTeeID : Address)
    (chainID : UInt64) :
    FailsWith (fun err => err.sentinels = [])
      (verifyActionResult lib actionResp expectedInstructionID expectedTeeID
        chainID) := by
  refine FailsWith.ensure_bind rfl fun _ => ?_
  refine FailsWith.ensure_bind rfl fun _ => ?_
  refine FailsWith.ensure_bind rfl fun _ => ?_
  refine FailsWith.ensure_bind rfl fun _ => ?_
  refine FailsWith.ensure_bind rfl fun _ => ?_
  refine FailsWith.bind (FailsWith.mapError_of_forall fun err => by simp)
    fun _ _ => ?_
  exact FailsWith.mapError_of_forall fun err => by simp

theorem checkChallengeResult_teeError (req : TeeRequestBody)
    (actionResp : ActionResponse) (response : TeeInfoResponse)
    (dataSigner : Address) :
    FailsWith TeeError (checkChallengeResult lib v req actionResp response
      dataSigner) := by
  have hinvalid : ∀ (text : String) (err : GoError),
      .teeRevocationUnavailable ∉ err.sentinels →
      TeeError (.wrapf2 text err errTEEDataValidation) := by
    intro text err hno
    apply teeError_of_dataValidation
    · simp [errTEEDataValidation]
    · simp [errTEEDataValidation, hno]
  refine FailsWith.ensure_bind (hinvalid _ _
    (by simp [errTEEChallengeMismatch])) fun _ => ?_
  refine FailsWith.ensure_bind (hinvalid _ _
    (by simp [errTEEChainIDMismatch])) fun _ => ?_
  refine FailsWith.ensure_bind (hinvalid _ _
    (by simp [errTEEProxySignerMismatch])) fun _ => ?_
  refine (verifyActionResult_sentinels _ _ _ _).mapError fun err h => ?_
  apply teeError_of_dataValidation
  · simp [errTEEActionResultMismatch, errTEEDataValidation]
  · simp [errTEEActionResultMismatch, errTEEDataValidation, h]

theorem signingPolicyRun_teeError (info : TeeInfo) (side : PolicySide) :
    FailsWith TeeError (signingPolicyRun v view info side).result := by
  rw [signingPolicyRun, Traced.result_lift]
  refine FailsWith.mapError (P := TeeError) ?_ fun err h => h.wrapf _
  simp only [chainMaxAttempts, Fetcher.retry, Fetcher.retryFrom,
    fetchSigningPolicyHashFromChain]
  cases toSigningPolicyHash v.cfg.relayCutover (view.relay side 1)
      (side.id info).toNat with
  | ok hash => exact .ok _
  | error err =>
      refine .error (TeeError.wrapf _ ?_)
      have hclass := classifyFetchError_sentinels err
      simp only [List.mem_cons, List.not_mem_nil, or_false] at hclass
      rcases hclass with h | h | h | h | h
      · exact .inl (.of_sentinels _ h (by decide))
      · exact .inl (.of_sentinels _ h (by decide))
      · exact .inr (.inr h)
      · exact .inl (.of_sentinels _ h (by decide))
      · exact .inl (.of_sentinels _ h (by decide))

theorem checkSigningPolicies_teeError (info : TeeInfo) :
    FailsWith TeeError (checkSigningPolicies v view info).result := by
  have hhash : ∀ side hash,
      FailsWith TeeError (checkPolicyHash info side hash) := by
    intro side hash
    refine FailsWith.ensure (teeError_of_dataValidation ?_ ?_)
    · simp [errTEESigningPolicyHash, errTEEDataValidation]
    · simp [errTEESigningPolicyHash, errTEEDataValidation]
  refine Traced.failsWith_bind (.ok _) fun outcome houtcome => ?_
  rw [forkJoin_result, Except.ok.injEq] at houtcome
  subst houtcome
  refine Traced.failsWith_bind
    ((signingPolicyRun_teeError _ _).mapError fun err h => h.wrapf _)
    fun initialHash _ => ?_
  refine Traced.failsWith_bind
    ((signingPolicyRun_teeError _ _).mapError fun err h => h.wrapf _)
    fun lastHash _ => ?_
  refine Traced.failsWith_bind ?_ fun _ _ => ?_
  · rw [TeeRun.check, Traced.result_lift]
    exact hhash _ _
  · rw [TeeRun.check, Traced.result_lift]
    exact hhash _ _

theorem TeeVerifier.verify_teeError (lib : TeeLibrary J) (v : TeeVerifier)
    (view : TeeView) (req : TeeRequestBody) :
    FailsWith TeeError (v.verify lib view req).result := by
  refine Traced.failsWith_bind ?_ fun bound _ => ?_
  · refine Traced.failsWith_bind ((fetchTEEChallengeResult_teeError _ _
      _).mapError fun err h => h.wrapf _) fun fetched _ => ?_
    refine Traced.failsWith_bind ?_ fun _ _ => .ok _
    rw [TeeRun.check, Traced.result_lift]
    exact checkChallengeResult_teeError _ _ _ _
  · refine Traced.failsWith_bind (.ok _) fun outcome houtcome => ?_
    rw [forkJoin_result, Except.ok.injEq] at houtcome
    subst houtcome
    refine Traced.failsWith_bind ((dataVerification_crlError _ _).mapError
      fun err h => h.classifyDataVerificationError) fun statusInfo _ => ?_
    exact Traced.failsWith_bind (checkSigningPolicies_teeError _)
      fun _ _ => .ok _

end Verification

end VerifierApi

import VerifierApi.TeeVerifier

/-!
# Complete mediation of the TEE check

A response is returned exactly when every gate is passed.  The gates are
collected by the function which enforces them: the answer of the proxy, its
binding to the request, the signing policies, and the attestation token,
which two bypasses replace.
-/

namespace VerifierApi

section Gates

variable {J : Type} (lib : TeeLibrary J) (v : TeeVerifier) (view : TeeView)
  (req : TeeRequestBody)

/-- The proxy of the request answered with the action response. -/
def ProxyAnswered (actionResp : ActionResponse) : Prop :=
  ∃ reqURL resolved,
    challengeURL lib (formatProxyURL v req.url) req.instructionId =
      .ok reqURL ∧
    resolveExternalURL lib.urls view.proxyLookup (formatProxyURL v req.url)
      v.cfg.allowPrivateNetworks = .ok resolved ∧
    Fetcher.fetchJSONPinned lib.unmarshalActionResponse
      "types.ActionResponse" reqURL view.proxyExchange = .ok actionResp

/-- The action response is bound to the request, its challenge, the chain,
the proxy and the TEE. -/
structure Bound (actionResp : ActionResponse) (response : TeeInfoResponse) :
    Prop where
  data_ne_nil : actionResp.result.data ≠ []
  data_valid : lib.jsonValid actionResp.result.data = true
  data_decodes :
    lib.unmarshalTeeInfoResponse actionResp.result.data = .ok response
  challenge : response.teeInfo.challenge = req.challenge
  chainID : response.teeInfo.chainID = v.cfg.chainID
  proxySigner : ∃ proxySignHash,
    lib.payloadHash .proxyActionResult response.teeInfo.chainID
      (lib.actionResultHash actionResp.result) = .ok proxySignHash ∧
    lib.signatureToSignersAddress proxySignHash actionResp.proxySignature =
      .ok req.teeProxyId
  instruction : actionResp.result.id = req.instructionId
  status : actionResp.result.status = 1
  opType : actionResp.result.opType = lib.opReg
  opCommand : actionResp.result.opCommand = lib.opTEEAttestation
  signature_ne_nil : actionResp.signature ≠ []
  teeSigner : ∃ signHash,
    lib.payloadHash .teeActionResult response.teeInfo.chainID
      (lib.actionResultHash actionResp.result) = .ok signHash ∧
    lib.verifySignature signHash actionResp.signature req.teeId = .ok ()

/-- The Relay that owns the id of a reported policy knows it by the reported
hash. -/
def PoliciesOnChain (info : TeeInfo) : Prop :=
  ∀ side, relayAnswer v.cfg.relayCutover (view.relay side 1)
    (PolicySide.id info side).toNat = some (.ok (PolicySide.hash info side))

/-- The token is valid for the audience of the verifier, with the hash of the
reported data for its nonce, and belongs to the TEE of the request. -/
structure TokenValid (response : TeeInfoResponse) (statusInfo : StatusInfo) :
    Prop where
  audience : v.cfg.teeAudience ≠ ""
  validated : ∃ leafCRL intermediateCRL teeInfoHash claims receivedTeeIDs,
    (tokenCRLs lib v view response.attestation).result =
      .ok (leafCRL, intermediateCRL) ∧
    lib.teeInfoHash response.teeInfo = .ok teeInfoHash ∧
    lib.parseAndValidatePKIToken response.attestation
      v.cfg.googleRootCertificate leafCRL intermediateCRL {
        audience := v.cfg.teeAudience
        eatNonce := String.ofList (hexDigits teeInfoHash)
        allowedDebugStatuses :=
          if v.cfg.allowTeeDebug then [] else ["disabled-since-boot"]
        issuer := lib.confidentialSpaceIssuer
        allowedHWModels := confidentialHWModels
        requireSecBoot := true } = .ok claims ∧
    lib.pubKeysToAddresses [response.teeInfo.publicKey] =
      .ok receivedTeeIDs ∧
    receivedTeeIDs.head? = some req.teeId ∧
    validateClaims lib claims = .ok statusInfo

/-- One of the two bypasses, or a valid token. -/
inductive Attested (response : TeeInfoResponse) : StatusInfo → Prop
  | e2e (h : v.cfg.disableAttestationCheckE2E = true) :
      Attested response bypassInfo
  | magicPass (h : response.attestation = magicPass) :
      Attested response bypassInfo
  | token (hE2E : v.cfg.disableAttestationCheckE2E = false)
      (hpass : response.attestation ≠ VerifierApi.magicPass)
      {statusInfo : StatusInfo}
      (h : TokenValid lib v view req response statusInfo) :
      Attested response statusInfo

end Gates

section Mediation

variable {J : Type} {lib : TeeLibrary J} {v : TeeVerifier} {view : TeeView}
  {req : TeeRequestBody}

theorem verifyActionResult_eq_ok_iff {actionResp : ActionResponse}
    {expectedInstructionID : Hash} {expectedTeeID : Address}
    {chainID : UInt64} {u : Unit} :
    verifyActionResult lib actionResp expectedInstructionID expectedTeeID
        chainID = .ok u ↔
      actionResp.result.id = expectedInstructionID ∧
      actionResp.result.status = 1 ∧
      actionResp.result.opType = lib.opReg ∧
      actionResp.result.opCommand = lib.opTEEAttestation ∧
      actionResp.signature ≠ [] ∧
      ∃ signHash, lib.payloadHash .teeActionResult chainID
          (lib.actionResultHash actionResp.result) = .ok signHash ∧
        lib.verifySignature signHash actionResp.signature expectedTeeID =
          .ok () := by
  simp only [verifyActionResult, bind_eq_ok, ensure_eq_ok, mapError_eq_ok,
    exists_unit]

theorem decodeChallengeResult_eq_ok_iff {actionResp : ActionResponse}
    {response : TeeInfoResponse} {signer : Address} :
    decodeChallengeResult lib actionResp = .ok (response, signer) ↔
      actionResp.result.data ≠ [] ∧
      lib.jsonValid actionResp.result.data = true ∧
      lib.unmarshalTeeInfoResponse actionResp.result.data = .ok response ∧
      ∃ proxySignHash,
        lib.payloadHash .proxyActionResult response.teeInfo.chainID
          (lib.actionResultHash actionResp.result) = .ok proxySignHash ∧
        lib.signatureToSignersAddress proxySignHash
          actionResp.proxySignature = .ok signer := by
  simp only [decodeChallengeResult, bind_eq_ok, ensure_eq_ok, mapError_eq_ok,
    exists_unit, Except.ok.injEq, Prod.mk.injEq]
  constructor
  · rintro ⟨hne, hvalid, _, hdecode, signHash, hhash, _, hsigner, rfl, rfl⟩
    exact ⟨hne, hvalid, hdecode, signHash, hhash, hsigner⟩
  · rintro ⟨hne, hvalid, hdecode, signHash, hhash, hsigner⟩
    exact ⟨hne, hvalid, response, hdecode, signHash, hhash, signer, hsigner,
      rfl, rfl⟩

theorem fetchTEEChallengeResult_eq_ok_iff {actionResp : ActionResponse}
    {response : TeeInfoResponse} {signer : Address} :
    (fetchTEEChallengeResult lib view (formatProxyURL v req.url)
        req.instructionId v.cfg.allowPrivateNetworks).result =
        .ok (actionResp, response, signer) ↔
      ProxyAnswered lib v view req actionResp ∧
        decodeChallengeResult lib actionResp = .ok (response, signer) := by
  simp only [fetchTEEChallengeResult, Traced.result_bind_eq_ok,
    TeeRun.check, Traced.result_lift, Traced.result_pure, Except.ok.injEq,
    mapError_eq_ok, Prod.exists, Prod.mk.injEq, ProxyAnswered]
  constructor
  · rintro ⟨reqURL, hurl, resolved, hresolved, _, hfetch, _, _, hdecode,
      rfl, rfl, rfl⟩
    exact ⟨⟨reqURL, resolved, hurl, hresolved, hfetch⟩, hdecode⟩
  · rintro ⟨⟨reqURL, resolved, hurl, hresolved, hfetch⟩, hdecode⟩
    exact ⟨reqURL, hurl, resolved, hresolved, actionResp, hfetch, response,
      signer, hdecode, rfl, rfl, rfl⟩

theorem fetchBoundResult_eq_ok_iff {actionResp : ActionResponse}
    {response : TeeInfoResponse} :
    (fetchBoundResult lib v view req).result = .ok (actionResp, response) ↔
      ProxyAnswered lib v view req actionResp ∧
        Bound lib v req actionResp response := by
  simp only [fetchBoundResult, Traced.result_bind_eq_ok,
    Traced.result_mapError, mapError_eq_ok, TeeRun.check,
    Traced.result_lift, Traced.result_pure, Except.ok.injEq, Prod.exists,
    Prod.mk.injEq, fetchTEEChallengeResult_eq_ok_iff,
    decodeChallengeResult_eq_ok_iff, checkChallengeResult, bind_eq_ok,
    ensure_eq_ok, exists_unit, verifyActionResult_eq_ok_iff]
  constructor
  · rintro ⟨_, _, signer, ⟨hanswered, hne, hvalid, hdecode, signHash, hhash,
      hsigner⟩, ⟨hchallenge, hchain, rfl, hid, hstatus, htype, hcommand,
      hsignature, htee⟩, rfl, rfl⟩
    exact ⟨hanswered, hne, hvalid, hdecode, hchallenge, hchain,
      ⟨signHash, hhash, hsigner⟩, hid, hstatus, htype, hcommand, hsignature,
      htee⟩
  · rintro ⟨hanswered, hbound⟩
    obtain ⟨signHash, hhash, hsigner⟩ := hbound.proxySigner
    exact ⟨actionResp, response, req.teeProxyId,
      ⟨hanswered, hbound.data_ne_nil, hbound.data_valid,
        hbound.data_decodes, signHash, hhash, hsigner⟩,
      ⟨hbound.challenge, hbound.chainID, rfl, hbound.instruction,
        hbound.status, hbound.opType, hbound.opCommand,
        hbound.signature_ne_nil, hbound.teeSigner⟩, rfl, rfl⟩

theorem toSigningPolicyHash_eq_ok_iff {cutover : Option UInt32}
    {answers : RelayAnswers} {id : ℕ} {hash : Hash} :
    toSigningPolicyHash cutover answers id = .ok hash ↔
      relayAnswer cutover answers id = some (.ok hash) := by
  unfold toSigningPolicyHash
  cases relayAnswer cutover answers id with
  | none => simp
  | some answer => simp [mapError_eq_ok]

/-- With one attempt a lookup is the first read. -/
theorem fetchSigningPolicyHash_eq_ok_iff {cutover : Option UInt32}
    {answers : ℕ → RelayAnswers} {delay : ℕ → Option ContextError}
    {signingPolicyID : UInt32} {hash : Hash} :
    (fetchSigningPolicyHashFromChainWithRetry cutover answers delay
        signingPolicyID chainMaxAttempts).2 = .ok hash ↔
      relayAnswer cutover (answers 1) signingPolicyID.toNat =
        some (.ok hash) := by
  rw [← toSigningPolicyHash_eq_ok_iff]
  simp only [fetchSigningPolicyHashFromChainWithRetry, chainMaxAttempts,
    Fetcher.retry, Fetcher.retryFrom, mapError_eq_ok,
    fetchSigningPolicyHashFromChain]
  cases toSigningPolicyHash cutover (answers 1) signingPolicyID.toNat with
  | error err => simp
  | ok hash => simp

theorem checkSigningPolicies_eq_ok_iff {info : TeeInfo} {u : Unit} :
    (checkSigningPolicies v view info).result = .ok u ↔
      PoliciesOnChain v view info := by
  simp only [checkSigningPolicies, Traced.result_bind_eq_ok,
    forkJoin_result, Except.ok.injEq, Prod.exists, Prod.mk.injEq,
    Traced.result_ofExcept, mapError_eq_ok, TeeRun.check,
    Traced.result_lift, checkPolicyHash, ensure_eq_ok, exists_unit,
    signingPolicyRun, PoliciesOnChain]
  constructor
  · rintro ⟨_, _, ⟨rfl, rfl⟩, initialHash, hinitial, lastHash, hlast, rfl,
      rfl⟩ side
    cases side with
    | initial => exact fetchSigningPolicyHash_eq_ok_iff.mp hinitial
    | last => exact fetchSigningPolicyHash_eq_ok_iff.mp hlast
  · intro h
    exact ⟨_, _, ⟨rfl, rfl⟩, _,
      fetchSigningPolicyHash_eq_ok_iff.mpr (h .initial), _,
      fetchSigningPolicyHash_eq_ok_iff.mpr (h .last), rfl, rfl⟩

theorem validateToken_eq_ok_iff {response : TeeInfoResponse}
    {expectedTeeID : Address}
    {leafCRL intermediateCRL : Option RevocationList}
    {statusInfo : StatusInfo} :
    validateToken lib v response expectedTeeID leafCRL intermediateCRL =
        .ok statusInfo ↔
      ∃ teeInfoHash claims receivedTeeIDs,
        lib.teeInfoHash response.teeInfo = .ok teeInfoHash ∧
        lib.parseAndValidatePKIToken response.attestation
          v.cfg.googleRootCertificate leafCRL intermediateCRL
          (attestationPolicy lib v teeInfoHash) = .ok claims ∧
        lib.pubKeysToAddresses [response.teeInfo.publicKey] =
          .ok receivedTeeIDs ∧
        receivedTeeIDs.head? = some expectedTeeID ∧
        validateClaims lib claims = .ok statusInfo := by
  simp only [validateToken, bind_eq_ok, mapError_eq_ok, ensure_eq_ok,
    exists_unit]
  constructor
  · rintro ⟨teeInfoHash, hhash, claims, hclaims, receivedTeeIDs, hids,
      hrest⟩
    exact ⟨teeInfoHash, claims, receivedTeeIDs, hhash, hclaims, hids, hrest⟩
  · rintro ⟨teeInfoHash, claims, receivedTeeIDs, hhash, hclaims, hids,
      hrest⟩
    exact ⟨teeInfoHash, hhash, claims, hclaims, receivedTeeIDs, hids, hrest⟩

theorem tokenRun_eq_ok_iff {response : TeeInfoResponse}
    {statusInfo : StatusInfo}
    (hE2E : v.cfg.disableAttestationCheckE2E = false)
    (hpass : response.attestation ≠ magicPass) :
    (dataVerification lib v view response req.teeId).result =
        .ok statusInfo ↔
      TokenValid lib v view req response statusInfo := by
  simp only [dataVerification, hE2E, hpass, Bool.false_eq_true, if_false,
    Traced.result_bind_eq_ok, TeeRun.check, Traced.result_lift,
    ensure_eq_ok, exists_unit, Traced.result_mapError, mapError_eq_ok,
    Prod.exists, validateToken_eq_ok_iff]
  constructor
  · rintro ⟨haudience, leafCRL, intermediateCRL, hcrls, teeInfoHash, claims,
      receivedTeeIDs, hrest⟩
    exact ⟨haudience, leafCRL, intermediateCRL, teeInfoHash, claims,
      receivedTeeIDs, hcrls, hrest⟩
  · rintro ⟨haudience, leafCRL, intermediateCRL, teeInfoHash, claims,
      receivedTeeIDs, hcrls, hrest⟩
    exact ⟨haudience, leafCRL, intermediateCRL, hcrls, teeInfoHash, claims,
      receivedTeeIDs, hrest⟩

theorem dataVerification_eq_ok_iff {response : TeeInfoResponse}
    {statusInfo : StatusInfo} :
    (dataVerification lib v view response req.teeId).result =
        .ok statusInfo ↔
      Attested lib v view req response statusInfo := by
  by_cases hE2E : v.cfg.disableAttestationCheckE2E = true
  · have hrun : dataVerification lib v view response req.teeId =
        pure bypassInfo := if_pos hE2E
    rw [hrun, Traced.result_pure, Except.ok.injEq]
    constructor
    · rintro rfl
      exact .e2e hE2E
    · intro h
      cases h with
      | e2e => rfl
      | magicPass => rfl
      | token hoff => simp [hoff] at hE2E
  · have hoff : v.cfg.disableAttestationCheckE2E = false := by
      simpa using hE2E
    by_cases hpass : response.attestation = magicPass
    · have hrun : dataVerification lib v view response req.teeId =
          pure bypassInfo := (if_neg hE2E).trans (if_pos hpass)
      rw [hrun, Traced.result_pure, Except.ok.injEq]
      constructor
      · rintro rfl
        exact .magicPass hpass
      · intro h
        cases h with
        | e2e => rfl
        | magicPass => rfl
        | token _ hother => exact absurd hpass hother
    · rw [tokenRun_eq_ok_iff hoff hpass]
      constructor
      · exact .token hoff hpass
      · intro h
        cases h with
        | e2e hon => exact absurd hon hE2E
        | magicPass hmagic => exact absurd hmagic hpass
        | token _ _ hvalid => exact hvalid

theorem verify_eq_ok_iff_gates {body : TeeResponseBody} :
    (v.verify lib view req).result = .ok body ↔
      ∃ actionResp response statusInfo,
        ProxyAnswered lib v view req actionResp ∧
        Bound lib v req actionResp response ∧
        PoliciesOnChain v view response.teeInfo ∧
        Attested lib v view req response statusInfo ∧
        body = responseBody response.teeInfo statusInfo := by
  simp only [TeeVerifier.verify, Traced.result_bind_eq_ok,
    forkJoin_result, Except.ok.injEq, Prod.exists, Prod.mk.injEq,
    Traced.result_ofExcept, mapError_eq_ok, Traced.result_pure,
    fetchBoundResult_eq_ok_iff]
  constructor
  · rintro ⟨actionResp, response, ⟨hanswered, hbound⟩, _, _, ⟨rfl, rfl⟩,
      statusInfo, hattested, u, hpolicies, rfl⟩
    exact ⟨actionResp, response, statusInfo, hanswered, hbound,
      checkSigningPolicies_eq_ok_iff.mp hpolicies,
      dataVerification_eq_ok_iff.mp hattested, rfl⟩
  · rintro ⟨actionResp, response, statusInfo, hanswered, hbound,
      hpolicies, hattested, rfl⟩
    exact ⟨actionResp, response, ⟨hanswered, hbound⟩, _, _, ⟨rfl, rfl⟩,
      statusInfo, dataVerification_eq_ok_iff.mpr hattested, (),
      checkSigningPolicies_eq_ok_iff.mpr hpolicies, rfl⟩

theorem exists_attested_iff {response : TeeInfoResponse} :
    (∃ statusInfo, Attested lib v view req response statusInfo) ↔
      v.cfg.disableAttestationCheckE2E = true ∨
        response.attestation = magicPass ∨
        ∃ statusInfo, TokenValid lib v view req response statusInfo := by
  constructor
  · rintro ⟨statusInfo, hattested⟩
    cases hattested with
    | e2e hE2E => exact .inl hE2E
    | magicPass hpass => exact .inr (.inl hpass)
    | token _ _ hvalid => exact .inr (.inr ⟨_, hvalid⟩)
  · intro hattested
    by_cases hE2E : v.cfg.disableAttestationCheckE2E = true
    · exact ⟨_, .e2e hE2E⟩
    · by_cases hpass : response.attestation = magicPass
      · exact ⟨_, .magicPass hpass⟩
      · rcases hattested with hon | hmagic | ⟨statusInfo, hvalid⟩
        · exact absurd hon hE2E
        · exact absurd hmagic hpass
        · exact ⟨statusInfo, .token (by simpa using hE2E) hpass hvalid⟩

/-- A response is returned, whatever the schedules, exactly when every gate
is passed, and it then reports what the gates established. -/
theorem verify_mediates {J : Type} (lib : TeeLibrary J) (v : TeeVerifier)
    (view : TeeView) (req : TeeRequestBody) :
    (∀ body, (v.verify lib view req).result = .ok body ↔
      ∃ actionResp response statusInfo,
        ProxyAnswered lib v view req actionResp ∧
        Bound lib v req actionResp response ∧
        PoliciesOnChain v view response.teeInfo ∧
        Attested lib v view req response statusInfo ∧
        body = responseBody response.teeInfo statusInfo) ∧
    ((∃ body, (v.verify lib view req).result = .ok body) ↔
      ∃ actionResp response,
        ProxyAnswered lib v view req actionResp ∧
        Bound lib v req actionResp response ∧
        PoliciesOnChain v view response.teeInfo ∧
        (v.cfg.disableAttestationCheckE2E = true ∨
          response.attestation = magicPass ∨
          ∃ statusInfo, TokenValid lib v view req response statusInfo)) := by
  refine ⟨fun body => verify_eq_ok_iff_gates, ?_⟩
  simp only [verify_eq_ok_iff_gates, ← exists_attested_iff]
  constructor
  · rintro ⟨_, actionResp, response, statusInfo, hanswered, hbound,
      hpolicies, hattested, -⟩
    exact ⟨actionResp, response, hanswered, hbound, hpolicies, statusInfo,
      hattested⟩
  · rintro ⟨actionResp, response, hanswered, hbound, hpolicies, statusInfo,
      hattested⟩
    exact ⟨_, actionResp, response, statusInfo, hanswered, hbound, hpolicies,
      hattested, rfl⟩

end Mediation

end VerifierApi

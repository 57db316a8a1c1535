import VerifierApi.Sentinels
import VerifierApi.IndexerStore

/-!
# The verification endpoints

Two endpoints run the same verification.  `verify` answers with an envelope
whose status tells the relay whether to retry; `prepareResponseBody` answers
with an HTTP status.  Each has its own switch over the identities of the
error.  The switches differ on some sets of identities, and `Consistent` is
the region where they agree.
-/

namespace VerifierApi

/-- The verdict of the envelope. -/
inductive Status where
  | verified
  | retry
  | rejected
deriving DecidableEq, Repr

structure VerifierResponse where
  status : Status
  responseBody : List UInt8
  message : String
deriving DecidableEq, Repr

/-- An error answer of the HTTP framework. -/
structure HTTPError where
  status : ℕ
  message : String
deriving DecidableEq, Repr

/-- The cases of `classifyVerifyStatus` in source order. -/
def verifyStatusCases (err : GoError) : List (Bool × Status × String) :=
  [(err.has .batchRangeTooLarge,
      .rejected, "batch range too large"),
    (err.has .reissueLimitExceeded,
      .rejected, "reissue limit exceeded"),
    (err.has .invalidRequest,
      .rejected, "invalid request"),
    (err.has .missingPayEvent,
      .rejected, "missing pay event for the payment"),
    (err.has .missingTransaction,
      .rejected, "missing transaction for the payment"),
    (err.has .rpcNonSuccess,
      .rejected, "source reported a non-success result"),
    (err.has .recordNotFound,
      .rejected, "record not found"),
    (err.has .teeChallengeMismatch,
      .rejected, "TEE challenge mismatch"),
    (err.has .teeChainIDMismatch,
      .rejected, "TEE chain id mismatch"),
    (err.has .teeProxySignerMismatch,
      .rejected, "TEE proxy signer mismatch"),
    (err.has .teeSigningPolicyHash,
      .rejected, "TEE signing policy hash mismatch"),
    (err.has .teeAttestationInvalid,
      .rejected, "TEE attestation invalid"),
    (err.has .teeResponseMalformed,
      .rejected, "TEE response malformed"),
    (err.has .teeActionResultMismatch,
      .rejected, "TEE action result mismatch"),
    (err.has .teeRevocationUnavailable,
      .retry, "TEE revocation check unavailable"),
    (err.has .teeDataValidation,
      .rejected, "TEE data validation failed"),
    (err.has .invalidInput,
      .rejected, "invalid input"),
    (err.isContextError,
      .retry, "verification timed out"),
    (err.has .fetchAccountInfo || err.has .fetchServerInfo ||
        err.has .rpcTransient,
      .retry, "source RPC unavailable"),
    (err.has .networkMismatch,
      .retry, "source network not verified"),
    (err.has .database,
      .retry, "database unavailable"),
    (err.has .dataSource,
      .retry, "data source returned unusable data"),
    (err.has .network || err.has .rpc || err.has .context ||
        err.has .unknown,
      .retry, "network or RPC error"),
    (err.has .httpFetch,
      .retry, "upstream fetch failed"),
    (err.has .actionResultNotFound,
      .retry, "action result not available")]

def classifyVerifyStatus (err : GoError) : Status × String :=
  switch (.retry, "unexpected error") (verifyStatusCases err)

def classifyVerifyError (err : GoError) : HTTPError :=
  let msg := "Verification failed"
  switch ⟨500, msg⟩
    [([Sentinel.batchRangeTooLarge, .reissueLimitExceeded,
        .invalidRequest].any err.has, ⟨400, msg⟩),
      ([Sentinel.missingPayEvent, .missingTransaction, .rpcNonSuccess,
        .recordNotFound, .teeDataValidation, .invalidInput].any err.has,
        ⟨422, msg⟩),
      (err.isContextError ||
        [Sentinel.fetchAccountInfo, .fetchServerInfo, .rpcTransient,
          .networkMismatch, .database, .dataSource, .network, .rpc, .context,
          .unknown, .httpFetch, .actionResultNotFound,
          .teeRevocationUnavailable].any err.has, ⟨503, msg⟩)]

/-! ## The two switches as sets of identities -/

/-- Identities both endpoints treat as terminal wherever they occur. -/
def terminalSentinels : List Sentinel :=
  [.batchRangeTooLarge, .reissueLimitExceeded, .invalidRequest,
    .missingPayEvent, .missingTransaction, .rpcNonSuccess, .recordNotFound]

/-- Identities which only the envelope looks for. -/
def granularTEESentinels : List Sentinel :=
  [.teeChallengeMismatch, .teeChainIDMismatch, .teeProxySignerMismatch,
    .teeSigningPolicyHash, .teeAttestationInvalid, .teeResponseMalformed,
    .teeActionResultMismatch]

/-- Identities which an outage of the revocation check hides from the
envelope. -/
def maskedSentinels : List Sentinel :=
  [.teeDataValidation, .invalidInput]

theorem classifyVerifyStatus_fst (err : GoError) :
    (classifyVerifyStatus err).1 =
      if (terminalSentinels ++ granularTEESentinels).any err.has then .rejected
      else if err.has .teeRevocationUnavailable then .retry
      else if maskedSentinels.any err.has then .rejected
      else .retry := by
  -- fourteen rejections, the revocation outage, two rejections, retries
  have hcases : verifyStatusCases err =
      (verifyStatusCases err).take 14 ++
        ((err.has .teeRevocationUnavailable, .retry,
            "TEE revocation check unavailable") ::
          (((verifyStatusCases err).drop 15).take 2 ++
            (verifyStatusCases err).drop 17)) := rfl
  have hretry :
      (switch (Status.retry, "unexpected error")
        ((verifyStatusCases err).drop 17)).1 = .retry := by
    apply switch_forall (P := fun value : Status × String => value.1 = .retry)
    · rfl
    · simp [verifyStatusCases]
  unfold classifyVerifyStatus
  rw [hcases, switch_append (f := Prod.fst) (b := Status.rejected)
    (by simp [verifyStatusCases]), switch_cons, apply_ite Prod.fst,
    switch_append (f := Prod.fst) (b := Status.rejected)
      (by simp [verifyStatusCases]), hretry]
  rfl

theorem classifyVerifyStatus_eq_rejected_iff (err : GoError) :
    (classifyVerifyStatus err).1 = .rejected ↔
      (terminalSentinels ++ granularTEESentinels).any err.has ∨
        err.has .teeRevocationUnavailable = false ∧
          maskedSentinels.any err.has := by
  rw [classifyVerifyStatus_fst]
  split_ifs <;> simp_all

theorem classifyVerifyStatus_ne_verified (err : GoError) :
    (classifyVerifyStatus err).1 ≠ .verified := by
  rw [classifyVerifyStatus_fst]
  split_ifs <;> simp

theorem classifyVerifyStatus_eq_retry_iff (err : GoError) :
    (classifyVerifyStatus err).1 = .retry ↔
      (classifyVerifyStatus err).1 ≠ .rejected := by
  have hverified := classifyVerifyStatus_ne_verified err
  cases hstatus : (classifyVerifyStatus err).1 <;> simp_all

theorem classifyVerifyStatus_message_ne_empty (err : GoError) :
    (classifyVerifyStatus err).2 ≠ "" := by
  apply switch_forall (P := fun value : Status × String => value.2 ≠ "")
  · simp
  · simp [verifyStatusCases]

theorem classifyVerifyError_status (err : GoError) :
    (classifyVerifyError err).status ∈ [400, 422, 503, 500] := by
  apply switch_forall (P := fun value : HTTPError =>
    value.status ∈ [400, 422, 503, 500])
  · simp
  · simp

theorem classifyVerifyError_terminal_iff (err : GoError) :
    ((classifyVerifyError err).status = 400 ∨
        (classifyVerifyError err).status = 422) ↔
      (terminalSentinels ++ maskedSentinels).any err.has := by
  have hany :
      (terminalSentinels ++ maskedSentinels).any err.has =
        ([Sentinel.batchRangeTooLarge, .reissueLimitExceeded,
            .invalidRequest].any err.has ||
          [Sentinel.missingPayEvent, .missingTransaction, .rpcNonSuccess,
            .recordNotFound, .teeDataValidation,
            .invalidInput].any err.has) := by
    rw [← List.any_append]
    rfl
  rw [hany, Bool.or_eq_true]
  unfold classifyVerifyError
  simp only [switch_cons, switch_nil]
  split_ifs <;> simp_all

/-- The verdict on an outcome of a verification. -/
def verdict {T : Type} : Except GoError T → Status
  | .ok _ => .verified
  | .error err => (classifyVerifyStatus err).1

theorem verdict_eq_verified_iff {T : Type} {outcome : Except GoError T} :
    verdict outcome = .verified ↔ ∃ response, outcome = .ok response := by
  cases outcome with
  | ok response => simp [verdict]
  | error err => simp [verdict, classifyVerifyStatus_ne_verified]

/-! ## Where the switches agree -/

/-- A granular TEE identity comes with one that the HTTP switch knows, and
an outage of the revocation check with none that it would hide. -/
def Consistent (err : GoError) : Prop :=
  (granularTEESentinels.any err.has →
      (terminalSentinels ++ maskedSentinels).any err.has) ∧
    (err.has .teeRevocationUnavailable → maskedSentinels.any err.has →
      (terminalSentinels ++ granularTEESentinels).any err.has)

theorem rejected_iff_terminal_iff_consistent (err : GoError) :
    ((classifyVerifyStatus err).1 = .rejected ↔
        (classifyVerifyError err).status = 400 ∨
          (classifyVerifyError err).status = 422) ↔
      Consistent err := by
  rw [classifyVerifyStatus_eq_rejected_iff, classifyVerifyError_terminal_iff]
  unfold Consistent
  simp only [List.any_append]
  cases terminalSentinels.any err.has <;>
    cases granularTEESentinels.any err.has <;>
    cases maskedSentinels.any err.has <;>
    cases err.has .teeRevocationUnavailable <;> simp

theorem any_has_iff {err : GoError} {sentinels : List Sentinel} :
    sentinels.any err.has ↔ ∃ s ∈ err.sentinels, s ∈ sentinels := by
  rw [List.any_eq_true]
  constructor
  · rintro ⟨s, hs, hhas⟩
    rw [has_eq, decide_eq_true_eq] at hhas
    exact ⟨s, hhas, hs⟩
  · rintro ⟨s, hhas, hs⟩
    refine ⟨s, hs, ?_⟩
    rw [has_eq, decide_eq_true_eq]
    exact hhas

/-- Without a TEE identity of the special kinds there is nothing to check. -/
theorem Consistent.of_forall {err : GoError}
    (hgranular : ∀ s ∈ err.sentinels, s ∉ granularTEESentinels)
    (hrevocation : .teeRevocationUnavailable ∉ err.sentinels) :
    Consistent err := by
  constructor
  · intro hany
    obtain ⟨s, hs, hmem⟩ := any_has_iff.mp hany
    exact absurd hmem (hgranular s hs)
  · intro hhas
    rw [has_eq, decide_eq_true_eq] at hhas
    exact absurd hhas hrevocation

/-- Faults of the indexer are never terminal. -/
theorem IndexerFault.classifyVerifyStatus_eq {err : GoError}
    (h : IndexerFault err) : (classifyVerifyStatus err).1 = .retry := by
  rw [classifyVerifyStatus_eq_retry_iff, Ne,
    classifyVerifyStatus_eq_rejected_iff, any_has_iff, any_has_iff]
  rintro (⟨s, hs, hmem⟩ | ⟨-, s, hs, hmem⟩)
  · rcases h s hs with rfl | rfl <;>
      simp [terminalSentinels, granularTEESentinels] at hmem
  · rcases h s hs with rfl | rfl <;> simp [maskedSentinels] at hmem

theorem IndexerFault.consistent {err : GoError}
    (h : IndexerFault err) : Consistent err := by
  apply Consistent.of_forall
  · intro s hs
    rcases h s hs with rfl | rfl <;> simp [granularTEESentinels]
  · intro hmem
    rcases h _ hmem with hs | hs <;> simp at hs

/-- An error with one package-level identity, a terminal one. -/
def TerminalError (err : GoError) : Prop :=
  ∃ s ∈ terminalSentinels, err.sentinels = [s]

theorem TerminalError.wrapf {err : GoError} (text : String)
    (h : TerminalError err) : TerminalError (.wrapf text err) := by
  unfold TerminalError
  rw [sentinels_wrapf]
  exact h

theorem TerminalError.consistent {err : GoError} (h : TerminalError err) :
    Consistent err := by
  obtain ⟨s, hs, herr⟩ := h
  have hterminal : terminalSentinels.any err.has :=
    any_has_iff.mpr ⟨s, by simp [herr], hs⟩
  unfold Consistent
  simp [List.any_append, hterminal]

/-! ## The endpoints -/

/-- The configuration of one deployment.  The two codecs are the ABI
library's, at the argument types of the attestation type. -/
structure EncodedAndABI (S T : Type) where
  attestationType : String
  attestationTypeEncoded : Hash
  sourceID : String
  sourceIDEncoded : Hash
  abiDecodeRequestData : List UInt8 → Except ExternalError S
  abiEncodeData : T → Except ExternalError (List UInt8)

structure AttestationRequest where
  attestationType : Hash
  sourceID : Hash
  requestBody : List UInt8

structure AttestationResponseData (V : Type) where
  responseData : V
  responseBody : List UInt8

section Endpoints

variable {S T V : Type} (config : EncodedAndABI S T)

def validateSystemAndRequestAttestationNameAndSourceID
    (requestAttestationName requestSourceID : String) :
    Except GoError Unit :=
  ensure (requestAttestationName = config.attestationTypeEncoded.hex ∧
      requestSourceID = config.sourceIDEncoded.hex)
    (.new ("attestation type and source id combination not supported: (" ++
      requestAttestationName ++ ", " ++ requestSourceID ++
      "). This source supports attestation type '" ++
      config.attestationType ++ "' (" ++
      config.attestationTypeEncoded.hex ++ ") and source id '" ++
      config.sourceID ++ "' (" ++ config.sourceIDEncoded.hex ++ ")"))

def decodeRequest (requestBody : List UInt8) : Except GoError S :=
  (config.abiDecodeRequestData requestBody).mapError
    fun err : ExternalError => err.toGoError

def encodeResponse (data : T) : Except GoError (List UInt8) :=
  (config.abiEncodeData data).mapError
    fun err : ExternalError => .wrapf "encoding response data failed" err

def rejectedResponse (safeMessage : String) : VerifierResponse :=
  ⟨.rejected, [], safeMessage⟩

def retryResponse (safeMessage : String) : VerifierResponse :=
  ⟨.retry, [], safeMessage⟩

variable (verifier : S → Except GoError T) (fromInternal : T → V)
  (request : AttestationRequest)

/-- The endpoint `verify`: every outcome is an envelope. -/
def verifyEndpoint : VerifierResponse :=
  match validateSystemAndRequestAttestationNameAndSourceID config
      request.attestationType.hex request.sourceID.hex with
  | .error _ => rejectedResponse "unsupported attestation type or source id"
  | .ok () =>
      match decodeRequest config request.requestBody with
      | .error _ => rejectedResponse "malformed request body"
      | .ok requestData =>
          match verifier requestData with
          | .error err =>
              ⟨(classifyVerifyStatus err).1, [], (classifyVerifyStatus err).2⟩
          | .ok responseData =>
              match encodeResponse config responseData with
              | .error _ => retryResponse "response encoding failed"
              | .ok encodedResponse => ⟨.verified, encodedResponse, ""⟩

/-- The endpoint `prepareResponseBody`: failures are HTTP errors. -/
def prepareResponseBodyEndpoint :
    Except HTTPError (AttestationResponseData V) := do
  (validateSystemAndRequestAttestationNameAndSourceID config
    request.attestationType.hex request.sourceID.hex).mapError
      fun _ => ⟨400, "Request validation failed"⟩
  let requestData ← (decodeRequest config request.requestBody).mapError
    fun _ => ⟨400, "Decoding request body to data failed"⟩
  let responseData ← (verifier requestData).mapError classifyVerifyError
  let encodedResponse ← (encodeResponse config responseData).mapError
    fun _ => ⟨500, "Encoding data to response body failed"⟩
  pure ⟨fromInternal responseData, encodedResponse⟩

end Endpoints

/-- What it means that an envelope and an HTTP answer tell the same story. -/
structure Agree {V : Type} (envelope : VerifierResponse)
    (answer : Except HTTPError (AttestationResponseData V)) : Prop where
  verified : ∀ b, (envelope.status = .verified ∧ envelope.responseBody = b) ↔
    ∃ data, answer = .ok data ∧ data.responseBody = b
  rejected : envelope.status = .rejected ↔
    ∃ e, answer = .error e ∧ (e.status = 400 ∨ e.status = 422)
  retry : envelope.status = .retry ↔
    ∃ e, answer = .error e ∧ (e.status = 503 ∨ e.status = 500)
  responseBody_ne_nil : envelope.responseBody ≠ [] ↔
    envelope.status = .verified
  message_ne_empty : envelope.message ≠ "" ↔ envelope.status ≠ .verified

theorem Agree.of_error {V : Type} {status : Status} {message : String}
    {e : HTTPError} (hmessage : message ≠ "") (hverified : status ≠ .verified)
    (hcode : e.status ∈ [400, 422, 503, 500])
    (hrejected : status = .rejected ↔ e.status = 400 ∨ e.status = 422) :
    Agree ⟨status, [], message⟩
      (.error e : Except HTTPError (AttestationResponseData V)) := by
  have hretry :
      status = .retry ↔ ¬ (e.status = 400 ∨ e.status = 422) := by
    rw [← hrejected]
    cases status <;> simp_all
  refine ⟨by simp [hverified], by simp [hrejected], ?_, by simp [hverified],
    by simp [hverified, hmessage]⟩
  rw [hretry]
  simp only [List.mem_cons, List.not_mem_nil, or_false] at hcode
  simp only [Except.error.injEq, exists_eq_left']
  omega

theorem Agree.of_ok {V : Type} {responseData : V} {body : List UInt8}
    (hbody : body ≠ []) :
    Agree ⟨.verified, body, ""⟩ (.ok ⟨responseData, body⟩) := by
  refine ⟨?_, by simp, by simp, by simp [hbody], by simp⟩
  intro b
  simp

theorem endpoints_agree {S T V : Type} (config : EncodedAndABI S T)
    (verifier : S → Except GoError T) (fromInternal : T → V)
    (request : AttestationRequest)
    (hencode : ∀ t bytes, config.abiEncodeData t = .ok bytes → bytes ≠ [])
    (hverifier : ∀ req, FailsWith Consistent (verifier req)) :
    Agree (verifyEndpoint config verifier request)
      (prepareResponseBodyEndpoint config verifier fromInternal request) := by
  unfold verifyEndpoint prepareResponseBodyEndpoint
  cases validateSystemAndRequestAttestationNameAndSourceID config
      request.attestationType.hex request.sourceID.hex with
  | error err => exact .of_error (by simp) (by simp) (by simp) (by simp)
  | ok u =>
      cases decodeRequest config request.requestBody with
      | error err => exact .of_error (by simp) (by simp) (by simp) (by simp)
      | ok requestData =>
          simp only [Except.mapError, bind, Except.bind]
          cases hverify : verifier requestData with
          | error err =>
              exact .of_error (classifyVerifyStatus_message_ne_empty err)
                (classifyVerifyStatus_ne_verified err)
                (classifyVerifyError_status err)
                ((rejected_iff_terminal_iff_consistent err).mpr
                  (hverifier requestData err hverify))
          | ok responseData =>
              cases hbytes : encodeResponse config responseData with
              | error err =>
                  simp only [hbytes]
                  exact .of_error (by simp) (by simp) (by simp) (by simp)
              | ok bytes =>
                  simp only [hbytes]
                  exact .of_ok
                    (hencode responseData bytes (mapError_eq_ok.mp hbytes))

end VerifierApi

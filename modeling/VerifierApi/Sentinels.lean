import VerifierApi.ErrorChain
import VerifierApi.Fallible

/-!
# The error identities of the service

Every package-level error of the verifiers, the typed errors which the
classifiers look for, and the errors of code outside the repository.  An
outside error can never wrap a sentinel of the service: its type has no room
for one.
-/

namespace VerifierApi

/-- The package-level errors, package by package. -/
inductive Sentinel where
  -- the XRP fee-proof verifier
  | batchRangeTooLarge
  | missingPayEvent
  | missingTransaction
  | reissueLimitExceeded
  -- the XRP multisig verifier and its client
  | validationFailed
  | invalidRequest
  | networkMismatch
  | rpcNonSuccess
  | rpcTransient
  | fetchAccountInfo
  | fetchServerInfo
  -- the payment database
  | recordNotFound
  | database
  | dataSource
  -- the TEE verifier
  | teeDataValidation
  | actionResultNotFound
  | teeChallengeMismatch
  | teeChainIDMismatch
  | teeProxySignerMismatch
  | teeSigningPolicyHash
  | teeAttestationInvalid
  | teeActionResultMismatch
  | teeResponseMalformed
  | teeRevocationUnavailable
  | urlValidation
  -- the error classes of chain reads
  | network
  | rpc
  | invalidInput
  | context
  | unknown
  -- the HTTP fetcher
  | notFound
  | httpFetch
  | redirect
  | responseTooLarge
deriving DecidableEq, Repr

/-- What the service recognises in an error of foreign code. -/
inductive ExternalMark where
  | contextCanceled
  | contextDeadlineExceeded
  | netError
  | dnsError (isTemporary isTimeout : Bool)
  | ethereumNotFound
  | rpcHTTPError (statusCode : Int)
  | rpcError (errorCode : Int)
deriving DecidableEq, Repr

/-- An identity in the unwrap tree of an error. -/
inductive Mark where
  | sentinel (sentinel : Sentinel)
  | httpStatusError (code : Int)
  | external (mark : ExternalMark)
deriving DecidableEq, Repr

abbrev GoError := ErrorValue Mark

/-- An error raised by code outside the repository. -/
structure ExternalError where
  text : String
  marks : List ExternalMark := []
deriving DecidableEq, Repr

/-- The foreign error as an error value of the service. -/
def ExternalError.toGoError (err : ExternalError) : GoError :=
  ⟨err.text, err.marks.map .external⟩

instance : Coe ExternalError GoError := ⟨ExternalError.toGoError⟩

/-- `errors.Is` against a package-level error. -/
def ErrorValue.has (err : GoError) (sentinel : Sentinel) : Bool :=
  err.is (.sentinel sentinel)

/-- `errors.Is` against `context.Canceled` or `context.DeadlineExceeded`. -/
def ErrorValue.isContextError (err : GoError) : Bool :=
  err.is (.external .contextDeadlineExceeded) ||
    err.is (.external .contextCanceled)

/-- The package-level errors of the unwrap tree, in preorder. -/
def ErrorValue.sentinels (err : GoError) : List Sentinel :=
  err.chain.filterMap fun
    | .sentinel sentinel => some sentinel
    | _ => none

theorem has_eq (err : GoError) (sentinel : Sentinel) :
    err.has sentinel = decide (sentinel ∈ err.sentinels) := by
  unfold ErrorValue.has ErrorValue.is ErrorValue.sentinels
  rw [decide_eq_decide, List.mem_filterMap]
  constructor
  · intro hmem
    exact ⟨.sentinel sentinel, hmem, rfl⟩
  · rintro ⟨mark, hmem, hmark⟩
    cases mark <;> simp_all

/-- The error of a context that is done. -/
inductive ContextError where
  | canceled
  | deadlineExceeded
deriving DecidableEq, Repr

def ContextError.toExternal : ContextError → ExternalError
  | .canceled => ⟨"context canceled", [.contextCanceled]⟩
  | .deadlineExceeded =>
      ⟨"context deadline exceeded", [.contextDeadlineExceeded, .netError]⟩

@[simp] theorem ContextError.isContextError (err : ContextError) :
    err.toExternal.toGoError.isContextError = true := by
  cases err <;> rfl

/-! ## How the formatting functions keep identities -/

section Sentinels

variable (text : String) (err cause : GoError)

@[simp] theorem sentinels_external (err : ExternalError) :
    err.toGoError.sentinels = [] := by
  simp [ErrorValue.sentinels, ExternalError.toGoError]

@[simp] theorem sentinels_new :
    (ErrorValue.new text : GoError).sentinels = [] := rfl

@[simp] theorem sentinels_sentinel (own : Sentinel) :
    (ErrorValue.sentinel (.sentinel own) text : GoError).sentinels = [own] :=
  rfl

@[simp] theorem sentinels_errorf (wrapped : List GoError) :
    (ErrorValue.errorf text wrapped).sentinels =
      wrapped.flatMap ErrorValue.sentinels := by
  simp only [ErrorValue.sentinels, ErrorValue.errorf]
  rw [List.filterMap_flatMap]
  rfl

@[simp] theorem sentinels_node (own : Sentinel) (wrapped : List GoError) :
    (ErrorValue.node (.sentinel own) text wrapped).sentinels =
      own :: wrapped.flatMap ErrorValue.sentinels := by
  rw [← sentinels_errorf text wrapped]
  rfl

@[simp] theorem sentinels_node_httpStatusError
    (code : Int) (wrapped : List GoError) :
    (ErrorValue.node (.httpStatusError code) text wrapped).sentinels =
      wrapped.flatMap ErrorValue.sentinels := by
  rw [← sentinels_errorf text wrapped]
  rfl

@[simp] theorem sentinels_join (errs : List GoError) :
    (ErrorValue.join errs).sentinels =
      errs.flatMap ErrorValue.sentinels := by
  rw [← sentinels_errorf "" errs]
  rfl

@[simp] theorem sentinels_wrapf :
    (ErrorValue.wrapf text err).sentinels = err.sentinels := by
  simp [ErrorValue.wrapf]

@[simp] theorem sentinels_wrapf2 :
    (ErrorValue.wrapf2 text err cause).sentinels =
      err.sentinels ++ cause.sentinels := by
  simp [ErrorValue.wrapf2]

@[simp] theorem sentinels_wrapfCause :
    (ErrorValue.wrapfCause text err cause).sentinels =
      err.sentinels ++ cause.sentinels := by
  simp [ErrorValue.wrapfCause]

@[simp] theorem sentinels_chained :
    (ErrorValue.chained err cause).sentinels =
      err.sentinels ++ cause.sentinels := by
  simp [ErrorValue.chained]

end Sentinels

/-! ## The package-level values -/

section Values

open ErrorValue

def errBatchRangeTooLarge : GoError :=
  .sentinel (.sentinel .batchRangeTooLarge) "batch range too large"

def errMissingPayEvent : GoError :=
  .sentinel (.sentinel .missingPayEvent) "missing pay event for paymentId"

def errMissingTransaction : GoError :=
  .sentinel (.sentinel .missingTransaction)
    "missing transaction for paymentId"

def errReissueLimitExceeded : GoError :=
  .sentinel (.sentinel .reissueLimitExceeded) "reissue scan limit exceeded"

def errValidationFailed : GoError :=
  .sentinel (.sentinel .validationFailed) "multisig account validation failed"

def errInvalidRequest : GoError :=
  .sentinel (.sentinel .invalidRequest) "invalid multisig request"

def errNetworkMismatch : GoError :=
  .sentinel (.sentinel .networkMismatch) "XRPL node is on the wrong network"

def errRPCNonSuccess : GoError :=
  .sentinel (.sentinel .rpcNonSuccess) "XRP RPC returned non-success status"

def errRPCTransient : GoError :=
  .sentinel (.sentinel .rpcTransient) "XRP RPC temporarily unavailable"

def errFetchAccountInfo : GoError :=
  .sentinel (.sentinel .fetchAccountInfo) "cannot get account info"

def errFetchServerInfo : GoError :=
  .sentinel (.sentinel .fetchServerInfo) "cannot get server info"

def errRecordNotFound : GoError :=
  .sentinel (.sentinel .recordNotFound) "record not found"

def errDatabase : GoError :=
  .sentinel (.sentinel .database) "database error"

def errDataSource : GoError :=
  .sentinel (.sentinel .dataSource) "data source returned unusable data"

def errTEEDataValidation : GoError :=
  .sentinel (.sentinel .teeDataValidation) "TEE data validation failed"

def errActionResultNotFound : GoError :=
  .sentinel (.sentinel .actionResultNotFound) "action result not found"

def errTEEChallengeMismatch : GoError :=
  .sentinel (.sentinel .teeChallengeMismatch) "TEE challenge mismatch"

def errTEEChainIDMismatch : GoError :=
  .sentinel (.sentinel .teeChainIDMismatch) "TEE chain id mismatch"

def errTEEProxySignerMismatch : GoError :=
  .sentinel (.sentinel .teeProxySignerMismatch) "TEE proxy signer mismatch"

def errTEESigningPolicyHash : GoError :=
  .sentinel (.sentinel .teeSigningPolicyHash)
    "TEE signing policy hash mismatch"

-- The next three chain the generic validation error; the revocation outage
-- after them deliberately does not.
def errTEEAttestationInvalid : GoError :=
  .node (.sentinel .teeAttestationInvalid)
    "TEE attestation invalid: TEE data validation failed"
    [errTEEDataValidation]

def errTEEActionResultMismatch : GoError :=
  .node (.sentinel .teeActionResultMismatch)
    "TEE action result mismatch: TEE data validation failed"
    [errTEEDataValidation]

def errTEEResponseMalformed : GoError :=
  .node (.sentinel .teeResponseMalformed)
    "TEE response malformed: TEE data validation failed"
    [errTEEDataValidation]

def errTEERevocationUnavailable : GoError :=
  .sentinel (.sentinel .teeRevocationUnavailable)
    "TEE revocation check unavailable"

def errURLValidation : GoError :=
  .sentinel (.sentinel .urlValidation) "URL validation failed"

def errNetwork : GoError :=
  .sentinel (.sentinel .network) "network error"

def errRPC : GoError :=
  .sentinel (.sentinel .rpc) "rpc error"

def errInvalidInput : GoError :=
  .sentinel (.sentinel .invalidInput) "invalid input"

def errContext : GoError :=
  .sentinel (.sentinel .context) "context error"

def errUnknown : GoError :=
  .sentinel (.sentinel .unknown) "unknown error"

def errNotFound : GoError :=
  .sentinel (.sentinel .notFound) "resource not found (404)"

def errHTTPFetch : GoError :=
  .sentinel (.sentinel .httpFetch) "HTTP fetch failed"

def errRedirect : GoError :=
  .sentinel (.sentinel .redirect) "redirects are not allowed"

def errResponseTooLarge : GoError :=
  .sentinel (.sentinel .responseTooLarge) "response body exceeds size limit"

end Values

/-! ## Faults of the indexer -/

/-- No package-level error occurs in the error beyond the two which stand
for unusable indexer data. -/
def IndexerFault (err : GoError) : Prop :=
  ∀ s ∈ err.sentinels, s = .database ∨ s = .dataSource

namespace IndexerFault

theorem new (text : String) : IndexerFault (.new text) := by
  simp [IndexerFault]

theorem external (err : ExternalError) : IndexerFault err := by
  simp [IndexerFault]

theorem errDatabase : IndexerFault errDatabase := by
  simp [IndexerFault, VerifierApi.errDatabase]

theorem errDataSource : IndexerFault errDataSource := by
  simp [IndexerFault, VerifierApi.errDataSource]

variable {err cause : GoError}

theorem wrapf (text : String) (h : IndexerFault err) :
    IndexerFault (.wrapf text err) := by
  unfold IndexerFault
  rw [sentinels_wrapf]
  exact h

theorem wrapf2 (text : String) (h : IndexerFault err)
    (hcause : IndexerFault cause) :
    IndexerFault (.wrapf2 text err cause) := by
  unfold IndexerFault
  rw [sentinels_wrapf2]
  intro s hs
  rcases List.mem_append.mp hs with hleft | hright
  · exact h s hleft
  · exact hcause s hright

theorem wrapfCause (text : String) (h : IndexerFault err)
    (hcause : IndexerFault cause) :
    IndexerFault (.wrapfCause text err cause) := by
  unfold IndexerFault
  rw [sentinels_wrapfCause, ← sentinels_wrapf2 text]
  exact wrapf2 text h hcause

end IndexerFault

end VerifierApi

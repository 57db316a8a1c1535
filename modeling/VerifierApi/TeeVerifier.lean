import VerifierApi.CrlCache
import VerifierApi.VerifyHandler

/-!
# The TEE availability verifier

A request names a TEE, its proxy and a challenge.  The proxy is asked for the
action result of the challenge, the result is bound to the request by its
two signatures, and then the attestation of the TEE and the signing policies
it reports are checked concurrently.

Hashes, signatures, JSON and the validation of attestation tokens belong to
libraries.  What the network and the chain answer in a run is collected in a
view of the run.
-/

namespace VerifierApi

/-! ## Data -/

structure PublicKey where
  x : Hash
  y : Hash
deriving DecidableEq

structure TeeState where
  systemState : List UInt8
  systemStateVersion : Hash
  state : List UInt8
  stateVersion : Hash
deriving DecidableEq

structure TeeInfo where
  challenge : Hash
  publicKey : PublicKey
  initialSigningPolicyID : UInt32
  initialSigningPolicyHash : Hash
  lastSigningPolicyID : UInt32
  lastSigningPolicyHash : Hash
  state : TeeState
  teeTimestamp : UInt64
  chainID : UInt64
deriving DecidableEq

structure TeeInfoResponse where
  teeInfo : TeeInfo
  attestation : String
deriving DecidableEq

structure ActionResult where
  id : Hash
  submissionTag : String
  status : UInt8
  log : String
  opType : Hash
  opCommand : Hash
  additionalResultStatus : List UInt8
  data : List UInt8
deriving DecidableEq

structure ActionResponse where
  result : ActionResult
  signature : List UInt8
  proxySignature : List UInt8
deriving DecidableEq

/-- The domains of the two signatures on an action result. -/
inductive SigningTag where
  | proxyActionResult
  | teeActionResult
deriving DecidableEq, Repr

/-- The claims the verifier reads; a token may carry no attributes at all. -/
structure GoogleTeeClaims where
  swName : String
  debugStatus : String
  supportAttributes : Option (List String)
  imageID : String
  hwModel : String
deriving DecidableEq

/-- What a token has to meet, as the attestation library checks it. -/
structure AttestationPolicy where
  audience : String
  eatNonce : String
  allowedDebugStatuses : List String
  issuer : String
  allowedHWModels : List String
  requireSecBoot : Bool
deriving DecidableEq

inductive AvailabilityCheckStatus where
  | ok
  | obsolete
deriving DecidableEq, Repr

structure StatusInfo where
  codeHash : Hash
  platform : Hash
  status : AvailabilityCheckStatus
deriving DecidableEq

structure TeeRequestBody where
  teeId : Address
  teeProxyId : Address
  url : String
  challenge : Hash
  instructionId : Hash

structure TeeResponseBody where
  status : AvailabilityCheckStatus
  teeTimestamp : UInt64
  codeHash : Hash
  platform : Hash
  initialSigningPolicyId : UInt32
  lastSigningPolicyId : UInt32
  state : TeeState
deriving DecidableEq

/-- The libraries of the TEE verifier. -/
structure TeeLibrary (J : Type) where
  x509 : X509Library
  tokens : TokenLibrary J
  urls : UrlLibrary
  checksumHex : Address → String
  quoteBytes : List UInt8 → String
  unmarshalActionResponse : List UInt8 → Except ExternalError ActionResponse
  jsonValid : List UInt8 → Bool
  unmarshalTeeInfoResponse :
    List UInt8 → Except ExternalError TeeInfoResponse
  actionResultHash : ActionResult → Hash
  payloadHash : SigningTag → UInt64 → Hash → Except ExternalError Hash
  signatureToSignersAddress :
    Hash → List UInt8 → Except ExternalError Address
  verifySignature : Hash → List UInt8 → Address → Except ExternalError Unit
  opReg : Hash
  opTEEAttestation : Hash
  teeInfoHash : TeeInfo → Except ExternalError (List UInt8)
  confidentialSpaceIssuer : String
  parseAndValidatePKIToken : String → Option Certificate →
    Option RevocationList → Option RevocationList → AttestationPolicy →
    Except ExternalError GoogleTeeClaims
  pubKeysToAddresses : List PublicKey → Except ExternalError (List Address)
  claimsCodeHash : GoogleTeeClaims → Except ExternalError Hash
  claimsPlatform : GoogleTeeClaims → Except ExternalError Hash

/-- A big-endian byte string. -/
def FixedBytes.ofNat (n value : ℕ) : FixedBytes n where
  bytes := (List.range n).reverse.map fun i => UInt8.ofNat (value / 256 ^ i)
  length_bytes := by simp

def e2eTestPlatform : Hash :=
  .ofNat 32
    0x544553545f504c4154464f524d00000000000000000000000000000000000000

def e2eTestCodeHash : Hash :=
  .ofNat 32
    0x194844cf417dde867073e5ab7199fa4d21fd82b5dbe2bdea8b3d7fc18d10fdc2

def magicPass : String := "magic_pass"

def confidentialHWModels : List String :=
  ["GCP_AMD_SEV", "GCP_AMD_SEV_ES", "GCP_INTEL_TDX"]

/-! ## The Relay -/

inductive RelayContract where
  | current
  | next
deriving DecidableEq, Repr

/-- What the two contracts answer to a lookup. -/
abbrev RelayAnswers := RelayContract → ℕ → Except ExternalError Hash

def maxRewardEpochID : ℕ := 2 ^ 24 - 1

/-- The answer of the contract that owns the id.  With a cutover an id that
no contract can own has none. -/
def relayAnswer (cutover : Option UInt32) (answers : RelayAnswers) (id : ℕ) :
    Option (Except ExternalError Hash) :=
  match cutover with
  | none => some (answers .current id)
  | some startingRewardEpoch =>
      if maxRewardEpochID < id then none
      else if startingRewardEpoch.toNat ≤ id then some (answers .next id)
      else some (answers .current id)

def toSigningPolicyHash (cutover : Option UInt32) (answers : RelayAnswers)
    (id : ℕ) : Except GoError Hash :=
  match relayAnswer cutover answers id with
  | none => .error
      (.new s!"signing-policy id {id} is outside the supported range")
  | some answer => answer.mapError fun err : ExternalError => err.toGoError

/-- The fault behind a failed lookup. -/
def relayFault (cutover : Option UInt32) (answers : RelayAnswers) (id : ℕ) :
    Fault :=
  match relayAnswer cutover answers id with
  | some (.error err) => .relayLookup err
  | _ => .check

def chainMaxAttempts : ℕ := 1

def fetchSigningPolicyHashFromChain (cutover : Option UInt32)
    (answers : RelayAnswers) (signingPolicyID : UInt32) :
    TeeSampleState × Except GoError Hash :=
  match toSigningPolicyHash cutover answers signingPolicyID.toNat with
  | .ok hash => (.valid, .ok hash)
  | .error err =>
      ((mapFetchErrorToState "ToSigningPolicyHash" err).1,
        .error (mapFetchErrorToState "ToSigningPolicyHash" err).2)

def fetchSigningPolicyHashFromChainWithRetry (cutover : Option UInt32)
    (answers : ℕ → RelayAnswers) (delay : ℕ → Option ContextError)
    (signingPolicyID : UInt32) (maxAttempts : ℕ) :
    TeeSampleState × Except GoError Hash :=
  let outcome := Fetcher.retry TeeSampleState.valid maxAttempts
    (fun attempt => fetchSigningPolicyHashFromChain cutover (answers attempt)
      signingPolicyID)
    (fun state => state = .invalid) delay
  (outcome.1, outcome.2.mapError (.wrapf
    s!"fetchSigningPolicyHashFromChainWithRetry failed after {maxAttempts} attempts"))

/-- The two policies of a report. -/
inductive PolicySide where
  | initial
  | last
deriving DecidableEq, Repr

def PolicySide.text : PolicySide → String
  | .initial => "initial"
  | .last => "last"

def PolicySide.id (info : TeeInfo) : PolicySide → UInt32
  | .initial => info.initialSigningPolicyID
  | .last => info.lastSigningPolicyID

def PolicySide.hash (info : TeeInfo) : PolicySide → Hash
  | .initial => info.initialSigningPolicyHash
  | .last => info.lastSigningPolicyHash

/-! ## A run -/

structure TeeConfig where
  relayCutover : Option UInt32
  allowTeeDebug : Bool
  disableAttestationCheckE2E : Bool
  allowPrivateNetworks : Bool
  googleRootCertificate : Option Certificate
  teeAudience : String
  chainID : UInt64

/-- What a run observes: the answers to its requests, in the order in which
they are made, and the schedules of its goroutines. -/
structure TeeView where
  proxyLookup : LookupAnswer
  proxyExchange : Exchange
  token : TokenView
  relay : PolicySide → ℕ → RelayAnswers
  delay : PolicySide → ℕ → Option ContextError
  policySchedule : List Side
  verifySchedule : List Side

structure TeeVerifier where
  cfg : TeeConfig
  hasCRLCache : Bool

section Verifier

variable {J : Type} (lib : TeeLibrary J) (v : TeeVerifier) (view : TeeView)

/-! ## The proxy -/

def proxyFault (baseURL : String) (allowPrivateNetworks : Bool) : Fault :=
  match lookupError lib.urls view.proxyLookup baseURL
      allowPrivateNetworks with
  | some err => .proxyLookup err
  | none => .check

/-- The identity under which a failed fetch is reported. -/
def challengeFetchError (err : GoError) : GoError :=
  if err.has .notFound then .chained errActionResultNotFound err
  else if err.has .responseTooLarge then
    .chained errTEEResponseMalformed err
  else err

def challengeURL (baseURL : String) (challengeInstructionID : Hash) :
    Except GoError String :=
  (lib.urls.joinPath baseURL ["action", "result",
    String.ofList (hexDigits challengeInstructionID.bytes)]).mapError
      fun err : ExternalError =>
        .wrapf s!"invalid proxy URL {quote baseURL}" err

/-- The decoding of an action response and the signer of its proxy. -/
def decodeChallengeResult (actionResp : ActionResponse) :
    Except GoError (TeeInfoResponse × Address) := do
  let data := actionResp.result.data
  let preview := lib.quoteBytes (data.take 128)
  ensure (data ≠ [])
    (.errorf
      s!"{errTEEResponseMalformed.text}: TEE challenge result data is empty"
      [errTEEResponseMalformed])
  ensure (lib.jsonValid data = true)
    (.errorf
      s!"{errTEEResponseMalformed.text}: TEE challenge result data is not valid JSON (len={data.length}, preview={preview})"
      [errTEEResponseMalformed])
  let teeInfo ← (lib.unmarshalTeeInfoResponse data).mapError
    fun err : ExternalError =>
      .errorf s!"{errTEEResponseMalformed.text}: unmarshal TEE result: {err.text}"
        [errTEEResponseMalformed, err]
  let proxySignHash ← (lib.payloadHash .proxyActionResult
    teeInfo.teeInfo.chainID (lib.actionResultHash actionResp.result)).mapError
      fun err : ExternalError =>
        .wrapf "hashing proxy signature payload" err
  let signer ← (lib.signatureToSignersAddress proxySignHash
    actionResp.proxySignature).mapError fun err : ExternalError =>
      .errorf s!"{errTEEResponseMalformed.text}: recover signer: {err.text}"
        [errTEEResponseMalformed, err]
  .ok (teeInfo, signer)

def fetchTEEChallengeResult (baseURL : String)
    (challengeInstructionID : Hash) (allowPrivateNetworks : Bool) :
    TeeRun (ActionResponse × TeeInfoResponse × Address) := do
  let reqURL ← TeeRun.check (challengeURL lib baseURL challengeInstructionID)
  let _ ← Traced.lift (.fault (proxyFault lib view baseURL
      allowPrivateNetworks))
    (resolveExternalURL lib.urls view.proxyLookup baseURL
      allowPrivateNetworks)
  let actionResp ← Traced.lift (.fault (.proxyExchange view.proxyExchange))
    ((Fetcher.fetchJSONPinned lib.unmarshalActionResponse
      "types.ActionResponse" reqURL view.proxyExchange).mapError
        challengeFetchError)
  let (response, signer) ← TeeRun.check
    (decodeChallengeResult lib actionResp)
  pure (actionResp, response, signer)

def verifyActionResult (actionResp : ActionResponse)
    (expectedInstructionID : Hash) (expectedTeeID : Address)
    (chainID : UInt64) : Except GoError Unit := do
  let result := actionResp.result
  let additionalStatus :=
    String.ofList (hexDigits result.additionalResultStatus)
  ensure (result.id = expectedInstructionID)
    (.new
      s!"action result instruction ID mismatch: expected {expectedInstructionID.hex}, got {result.id.hex}")
  ensure (result.status = 1)
    (.new
      s!"action result status not success: status={result.status}, log={quote result.log}, additionalStatus={additionalStatus}")
  ensure (result.opType = lib.opReg)
    (.new
      s!"action result OPType mismatch: expected {lib.opReg.hex}, got {result.opType.hex}")
  ensure (result.opCommand = lib.opTEEAttestation)
    (.new
      s!"action result OPCommand mismatch: expected {lib.opTEEAttestation.hex}, got {result.opCommand.hex}")
  ensure (actionResp.signature ≠ [])
    (.new "missing TEE signature on action result")
  let signHash ← (lib.payloadHash .teeActionResult chainID
    (lib.actionResultHash result)).mapError fun err : ExternalError =>
      .wrapf "computing action result sign hash" err
  (lib.verifySignature signHash actionResp.signature expectedTeeID).mapError
    fun err : ExternalError =>
      .wrapf
        s!"TEE signature on action result does not match expected TEE {lib.checksumHex expectedTeeID}"
        err

/-! ## The attestation -/

/-- A production TEE without the stable attribute is obsolete. -/
def claimsStatus (claims : GoogleTeeClaims) :
    Except GoError AvailabilityCheckStatus :=
  if claims.debugStatus = "disabled-since-boot" then do
    let attributes ← require claims.supportAttributes
      (.new "ConfidentialSpace component has no supported attributes")
    .ok (if "STABLE" ∈ attributes then .ok else .obsolete)
  else .ok .ok

def validateClaims (claims : GoogleTeeClaims) : Except GoError StatusInfo := do
  ensure (claims.swName = "CONFIDENTIAL_SPACE")
    (.new
      s!"SWName check failed: expected CONFIDENTIAL_SPACE, got {quote claims.swName}")
  let status ← claimsStatus claims
  let codeHash ← (lib.claimsCodeHash claims).mapError
    fun err : ExternalError =>
      ErrorValue.wrapf
        s!"cannot convert container.image_id {quote claims.imageID} to Bytes32"
        err
  let platform ← (lib.claimsPlatform claims).mapError
    fun err : ExternalError =>
      ErrorValue.wrapf s!"cannot convert HWModel {claims.hwModel} to Bytes32"
        err
  .ok ⟨codeHash, platform, status⟩

def attestationPolicy (teeInfoHash : List UInt8) : AttestationPolicy where
  audience := v.cfg.teeAudience
  eatNonce := String.ofList (hexDigits teeInfoHash)
  allowedDebugStatuses :=
    if v.cfg.allowTeeDebug then [] else ["disabled-since-boot"]
  issuer := lib.confidentialSpaceIssuer
  allowedHWModels := confidentialHWModels
  requireSecBoot := true

/-- The checks on the token once its revocation lists are there. -/
def validateToken (response : TeeInfoResponse) (expectedTeeID : Address)
    (leafCRL intermediateCRL : Option RevocationList) :
    Except GoError StatusInfo := do
  let infoData := response.teeInfo
  let teeInfoHash ← (lib.teeInfoHash infoData).mapError
    fun err : ExternalError => .wrapf "cannot create hash of teeInfo" err
  let claims ← (lib.parseAndValidatePKIToken response.attestation
    v.cfg.googleRootCertificate leafCRL intermediateCRL
    (attestationPolicy lib v teeInfoHash)).mapError
      fun err : ExternalError =>
        .wrapf "cannot validate certificate signature" err
  let receivedTeeIDs ← (lib.pubKeysToAddresses [infoData.publicKey]).mapError
    fun err : ExternalError => .wrapf "cannot retrieve TEE ID from" err
  let received := (receivedTeeIDs.head?.map lib.checksumHex).getD ""
  ensure (receivedTeeIDs.head? = some expectedTeeID)
    (.new
      s!"expected TEE ID {lib.checksumHex expectedTeeID}, got: {received}")
  (validateClaims lib claims).mapError (.wrapf "cannot validate claims")

def bypassInfo : StatusInfo :=
  ⟨e2eTestCodeHash, e2eTestPlatform, .ok⟩

/-- The lists for the token; none without a cache. -/
def tokenCRLs (attestationToken : String) :
    TeeRun (Option RevocationList × Option RevocationList) :=
  if v.hasCRLCache then
    fetchCRLsForToken lib.x509 lib.tokens lib.urls view.token
      attestationToken v.cfg.googleRootCertificate
  else pure (none, none)

def dataVerification (response : TeeInfoResponse) (expectedTeeID : Address) :
    TeeRun StatusInfo :=
  if v.cfg.disableAttestationCheckE2E then pure bypassInfo
  else if response.attestation = magicPass then pure bypassInfo
  else do
    TeeRun.check (ensure (v.cfg.teeAudience ≠ "")
      (.new
        "refusing to build attestation policy with empty TeeAudience: would skip audience enforcement"))
    let (leafCRL, intermediateCRL) ←
      (tokenCRLs lib v view response.attestation).mapError
        (.wrapf "CRL preprocessing failed")
    TeeRun.check
      (validateToken lib v response expectedTeeID leafCRL intermediateCRL)

def classifyDataVerificationError (err : GoError) : GoError :=
  if err.has .teeRevocationUnavailable || err.isContextError then
    .wrapf "data verification could not complete" err
  else .chained errTEEAttestationInvalid err

/-! ## The signing policies -/

def signingPolicyRun (info : TeeInfo) (side : PolicySide) : TeeRun Hash :=
  Traced.lift
    (.fault (relayFault v.cfg.relayCutover (view.relay side 1)
      (side.id info).toNat))
    (fetchSigningPolicyHashFromChainWithRetry v.cfg.relayCutover
      (view.relay side) (view.delay side) (side.id info)
      chainMaxAttempts).2

def checkPolicyHash (info : TeeInfo) (side : PolicySide) (hash : Hash) :
    Except GoError Unit :=
  ensure (hash = side.hash info)
    (.wrapf2 s!"failed to validate {side.text} signing policy hash"
      errTEESigningPolicyHash errTEEDataValidation)

def policyError (info : TeeInfo) (side : PolicySide) (err : GoError) :
    GoError :=
  .wrapf
    s!"cannot retrieve {side.text} signing policy hash for ID {(side.id info).toNat}"
    err

def checkSigningPolicies (info : TeeInfo) : TeeRun Unit := do
  let (initialSigningRes, lastSigningRes) ← forkJoin view.policySchedule
    (signingPolicyRun v view info .initial)
    (signingPolicyRun v view info .last)
  let initialHash ← Traced.ofExcept
    (initialSigningRes.mapError (policyError info .initial))
  let lastHash ← Traced.ofExcept
    (lastSigningRes.mapError (policyError info .last))
  TeeRun.check (checkPolicyHash info .initial initialHash)
  TeeRun.check (checkPolicyHash info .last lastHash)

/-! ## The verification -/

def formatProxyURL (url : String) : String :=
  if v.cfg.disableAttestationCheckE2E then
    url.replace "localhost" "host.docker.internal"
  else url

/-- The checks which bind the answer of the proxy to the request. -/
def checkChallengeResult (req : TeeRequestBody) (actionResp : ActionResponse)
    (response : TeeInfoResponse) (dataSigner : Address) :
    Except GoError Unit := do
  let info := response.teeInfo
  ensure (info.challenge = req.challenge)
    (.wrapf2
      s!"challenge does not match: expected {req.challenge.hex}, got {info.challenge.hex}"
      errTEEChallengeMismatch errTEEDataValidation)
  ensure (info.chainID = v.cfg.chainID)
    (.wrapf2
      s!"chainID does not match: attestation reports {info.chainID}, verifier serves {v.cfg.chainID}"
      errTEEChainIDMismatch errTEEDataValidation)
  ensure (dataSigner = req.teeProxyId)
    (.wrapf2
      s!"proxy signer does not match: expected {lib.checksumHex req.teeProxyId}, got {lib.checksumHex dataSigner}"
      errTEEProxySignerMismatch errTEEDataValidation)
  (verifyActionResult lib actionResp req.instructionId req.teeId
    info.chainID).mapError (.chained errTEEActionResultMismatch)

/-- The answer of the proxy, bound to the request. -/
def fetchBoundResult (req : TeeRequestBody) :
    TeeRun (ActionResponse × TeeInfoResponse) := do
  let instruction := String.ofList (hexDigits req.instructionId.bytes)
  let (actionResp, response, dataSigner) ←
    (fetchTEEChallengeResult lib view (formatProxyURL v req.url)
      req.instructionId v.cfg.allowPrivateNetworks).mapError
        (.wrapf
          s!"cannot fetch TEE data for (TEE={lib.checksumHex req.teeId}, URL={req.url}, instruction={instruction})")
  TeeRun.check (checkChallengeResult lib v req actionResp response dataSigner)
  pure (actionResp, response)

def responseBody (info : TeeInfo) (statusInfo : StatusInfo) :
    TeeResponseBody where
  status := statusInfo.status
  teeTimestamp := info.teeTimestamp
  codeHash := statusInfo.codeHash
  platform := statusInfo.platform
  initialSigningPolicyId := info.initialSigningPolicyID
  lastSigningPolicyId := info.lastSigningPolicyID
  state := info.state

namespace TeeVerifier

def verify (req : TeeRequestBody) : TeeRun TeeResponseBody := do
  let (_, response) ← fetchBoundResult lib v view req
  let (dvRes, spRes) ← forkJoin view.verifySchedule
    (dataVerification lib v view response req.teeId)
    (checkSigningPolicies v view response.teeInfo)
  let statusInfo ← Traced.ofExcept
    (dvRes.mapError classifyDataVerificationError)
  Traced.ofExcept spRes
  pure (responseBody response.teeInfo statusInfo)

end TeeVerifier

end Verifier

end VerifierApi

import VerifierApi.BootedProcess
import VerifierApi.EndpointAgreement
import VerifierApi.MultisigVerdict
import VerifierApi.PaymentBinding
import VerifierApi.TeeMediation
import VerifierApi.TransientVerdict

/-!
# Requests to a booted process

A request passes the router and the check of its key, and is answered by the
service of its attestation type, with the configuration that was built from
the environment.  What a `VERIFIED` envelope of a process says can be read off
its settings: the client, the names in the request, and the checks that the
settings ask for.
-/

namespace VerifierApi

/-! ## The handlers -/

/-- What a service reads while it answers a request. -/
structure World (J : Type) where
  teeLibrary : TeeLibrary J
  teeView : TeeView
  pmwLibrary : PmwLibrary
  db : List DBTransaction
  cChainDb : List DbLog
  convertDatabaseLogToChainLog : DbLog → Except ExternalError ChainLog
  paymentReads : PaymentStatus.Reads
  feeReads : FeeProof.Reads
  multisigReads : Multisig.Reads
  xrpAddressFromPubKey : List UInt8 → Except ExternalError String

/-- The verifier of payments over the databases of the configuration. -/
def PMWConfig.pmwSource {S T J : Type} (cfg : PMWConfig S T) (w : World J) :
    PmwSource where
  library := w.pmwLibrary
  repo := newDBRepo w.db w.cChainDb cfg.flareTeeManagerContractAddress
    w.convertDatabaseLogToChainLog
  sourceIDEncoded := cfg.sourceIDEncoded
  parsedTeeInstructionsABI := cfg.parsedTeeInstructionsABI

def TeeAvailabilityCheckConfig.verifier (cfg : TeeAvailabilityCheckConfig) :
    TeeVerifier :=
  ⟨cfg.teeConfig, true⟩

def PMWMultisigAccountConfig.verifier {J : Type}
    (cfg : PMWMultisigAccountConfig) (w : World J) : Multisig.XRPVerifier :=
  ⟨cfg.source.sourceName, w.xrpAddressFromPubKey⟩

/-- What the handlers of an attestation type are registered with: its
configuration, the tags and the conversion of the bodies with decoded data,
and its verifier. -/
structure Handlers (J : Type) where
  {S T : Type}
  config : LoadedConfig S T
  validStruct : (isURL : String → Bool) → S → Bool
  toInternal : S → Except GoError S
  verifier : World J → S → Except GoError T

def Handlers.verify {J : Type} (h : Handlers J) (w : World J)
    (request : AttestationRequest) : VerifierResponse :=
  verifyEndpoint h.config.toEncodedAndABI (h.verifier w) request

/-! The bodies with decoded data have the fields of the internal requests,
of the same types.  A field that is required is not the zero value. -/

def TeeRequestBody.validStruct (isURL : String → Bool)
    (body : TeeRequestBody) : Bool :=
  body.teeId ≠ zeroAddress ∧ body.teeProxyId ≠ zeroAddress ∧
    body.url ≠ "" ∧ isURL body.url ∧ body.challenge ≠ zeroHash ∧
    body.instructionId ≠ zeroHash

def PaymentStatus.RequestBody.validStruct (body : RequestBody) : Bool :=
  body.opType ≠ zeroHash ∧ body.senderAddress ≠ "" ∧ body.paymentId ≠ 0

def FeeProof.RequestBody.validStruct (body : RequestBody) : Bool :=
  body.opType ≠ zeroHash ∧ body.senderAddress ≠ "" ∧
    body.firstPaymentId ≠ 0 ∧ body.batchCount ≠ 0 ∧ body.untilTimestamp ≠ 0

def Multisig.RequestBody.validStruct (body : RequestBody) : Bool :=
  body.accountAddress ≠ "" ∧ 1 ≤ body.publicKeys.length ∧
    1 ≤ body.threshold

/-- The one conversion that can fail. -/
def Multisig.RequestBody.toInternal (body : RequestBody) :
    Except GoError RequestBody := do
  validateMultisigRequest body.publicKeys body.threshold
  .ok body

namespace RegisteredService

def handlers {J : Type} : RegisteredService → Handlers J
  | teeAvailabilityCheck cfg _ => {
      config := cfg.toLoadedConfig
      validStruct := TeeRequestBody.validStruct
      toInternal := .ok
      verifier w req := (cfg.verifier.verify w.teeLibrary w.teeView req).result }
  | pmwPaymentStatus service => {
      config := service.config.toLoadedConfig
      validStruct := fun _ => PaymentStatus.RequestBody.validStruct
      toInternal := .ok
      verifier w := PaymentStatus.XRPVerifier.verify
        (service.config.pmwSource w) w.paymentReads }
  | pmwMultisigAccountConfigured cfg => {
      config := cfg.toLoadedConfig
      validStruct := fun _ => Multisig.RequestBody.validStruct
      toInternal := Multisig.RequestBody.toInternal
      verifier w := (cfg.verifier w).verify w.multisigReads }
  | pmwFeeProof service => {
      config := service.config.toLoadedConfig
      validStruct := fun _ => FeeProof.RequestBody.validStruct
      toInternal := .ok
      verifier w := (FeeProof.newXRPVerifier
        (service.config.pmwSource w)).verify w.feeReads }

def verify {J : Type} (w : World J) (request : AttestationRequest)
    (service : RegisteredService) : VerifierResponse :=
  service.handlers.verify w request

end RegisteredService

/-- The check of the framework before a body gets to a handler. -/
def AttestationRequest.resolve (req : AttestationRequest) : List GoError :=
  if req.requestBody.length = 0 then [.new "requestBody cannot be empty"]
  else []

/-- The answer to a request for a route of an endpoint, if it gets to the
handler with its body. -/
def Process.answer {A : Type} (p : Process) (endpoint : Endpoint)
    (handle : AttestationRequest → RegisteredService → A)
    (router : Server.Router) (req : Server.Request)
    (body : AttestationRequest) : Option A :=
  match p.server.serve router req with
  | .handled (.attestation t routed) =>
      if routed = endpoint ∧ body.resolve = [] then
        (p.find t).map (handle body)
      else none
  | _ => none

/-- The answer of a `verify` route. -/
def Process.verify {J : Type} (p : Process) (router : Server.Router)
    (w : World J) (req : Server.Request) (body : AttestationRequest) :
    Option VerifierResponse :=
  p.answer .verify (RegisteredService.verify w) router req body

/-! ## Verified envelopes -/

theorem hex_injective {n : ℕ} {a b : FixedBytes n} (h : a.hex = b.hex) :
    a = b :=
  removeHexPrefix_hex_injective (congrArg removeHexPrefix h)

/-- The request names the type and the source of the configuration. -/
structure Names {S T : Type} (config : EncodedAndABI S T)
    (request : AttestationRequest) : Prop where
  attestationType : request.attestationType = config.attestationTypeEncoded
  sourceID : request.sourceID = config.sourceIDEncoded

theorem names_iff {S T : Type} {config : EncodedAndABI S T}
    {request : AttestationRequest} :
    Names config request ↔
      validateSystemAndRequestAttestationNameAndSourceID config
        request.attestationType.hex request.sourceID.hex = .ok () := by
  rw [validateSystemAndRequestAttestationNameAndSourceID, ensure_eq_ok]
  constructor
  · rintro ⟨htype, hsource⟩
    exact ⟨congrArg _ htype, congrArg _ hsource⟩
  · rintro ⟨htype, hsource⟩
    exact ⟨hex_injective htype, hex_injective hsource⟩

theorem verifyEndpoint_eq_verified_iff {S T : Type}
    {config : EncodedAndABI S T} {verifier : S → Except GoError T}
    {request : AttestationRequest} {responseBody : List UInt8} :
    verifyEndpoint config verifier request =
        ⟨.verified, responseBody, ""⟩ ↔
      Names config request ∧ ∃ requestData responseData,
        config.abiDecodeRequestData request.requestBody = .ok requestData ∧
        verifier requestData = .ok responseData ∧
        config.abiEncodeData responseData = .ok responseBody := by
  rw [names_iff, verifyEndpoint]
  cases validateSystemAndRequestAttestationNameAndSourceID config
      request.attestationType.hex request.sourceID.hex with
  | error err => simp [rejectedResponse]
  | ok u =>
      cases hdecode : config.abiDecodeRequestData request.requestBody with
      | error err => simp [decodeRequest, hdecode, Except.mapError,
          rejectedResponse]
      | ok requestData =>
          simp only [decodeRequest, hdecode, Except.mapError]
          cases hverify : verifier requestData with
          | error err =>
              have hstatus := classifyVerifyStatus_ne_verified err
              simp [hstatus, hverify]
          | ok responseData =>
              simp only [encodeResponse]
              cases hencode : config.abiEncodeData responseData with
              | error err =>
                  simp [Except.mapError, retryResponse, hverify, hencode]
              | ok bytes => simp [Except.mapError, hverify, hencode]

/-- A verified envelope has no message. -/
theorem verifyEndpoint_of_status {S T : Type} {config : EncodedAndABI S T}
    {verifier : S → Except GoError T} {request : AttestationRequest}
    (h : (verifyEndpoint config verifier request).status = .verified) :
    verifyEndpoint config verifier request =
      ⟨.verified, (verifyEndpoint config verifier request).responseBody,
        ""⟩ := by
  revert h
  unfold verifyEndpoint
  split
  next => exact fun h => by cases h
  next =>
      split
      next => exact fun h => by cases h
      next requestData _ =>
          split
          next err _ =>
            exact fun h => absurd h (classifyVerifyStatus_ne_verified err)
          next =>
              split
              next => exact fun h => by cases h
              next => exact fun _ => rfl

/-! ## The names of a service -/

variable {b : Backends} {lib : ConfigLibrary} {env : EnvConfig}

/-- The words of a configuration that was built are those of its type and of
the source of the environment. -/
theorem ServiceLoads.encoded {J : Type} {n : ℕ}
    {service : RegisteredService} (h : ServiceLoads b lib env n service) :
    (service.handlers (J := J)).config.attestationTypeEncoded =
        service.attestationType.encoded ∧
      (service.handlers (J := J)).config.sourceIDEncoded =
        env.sourceID.encoded := by
  cases h with
  | teeAvailabilityCheck cfg hconfig hloads =>
      obtain ⟨-, _, _, _, _, _, -, -, -, -, -, rfl⟩ :=
        buildTeeAvailabilityCheckConfig_eq_ok_iff.mp hconfig
      exact ⟨rfl, rfl⟩
  | pmwPaymentStatus cfg hconfig hloads =>
      obtain ⟨-, _, _, _, -, -, -, rfl⟩ :=
        buildPMWConfig_eq_ok_iff.mp hconfig
      exact ⟨rfl, rfl⟩
  | pmwMultisigAccountConfigured cfg hconfig hsource hnetwork =>
      obtain ⟨-, -, _, _, -, -, rfl⟩ :=
        buildPMWMultisigAccountConfiguredConfig_eq_ok_iff.mp hconfig
      exact ⟨rfl, rfl⟩
  | pmwFeeProof cfg hconfig hloads =>
      obtain ⟨-, _, _, _, -, -, -, rfl⟩ :=
        buildPMWConfig_eq_ok_iff.mp hconfig
      exact ⟨rfl, rfl⟩

theorem ServiceLoads.names_iff {J : Type} {n : ℕ}
    {service : RegisteredService} (h : ServiceLoads b lib env n service)
    {request : AttestationRequest} :
    Names (service.handlers (J := J)).config.toEncodedAndABI request ↔
      request.attestationType = service.attestationType.encoded ∧
        request.sourceID = env.sourceID.encoded := by
  obtain ⟨htype, hsource⟩ := h.encoded (J := J)
  rw [← htype, ← hsource]
  exact ⟨fun hnames => ⟨hnames.attestationType, hnames.sourceID⟩,
    fun hboth => ⟨hboth.1, hboth.2⟩⟩

theorem ServiceLoads.names_of_verified {J : Type} {w : World J} {n : ℕ}
    {service : RegisteredService} (h : ServiceLoads b lib env n service)
    {request : AttestationRequest}
    (hverified : (service.verify w request).status = .verified) :
    request.attestationType = service.attestationType.encoded ∧
      request.sourceID = env.sourceID.encoded := by
  obtain ⟨hnames, -⟩ := verifyEndpoint_eq_verified_iff.mp
    (verifyEndpoint_of_status hverified)
  exact h.names_iff.mp hnames

/-! ## Requests to a process -/

theorem Process.answer_eq_some_iff {A : Type} {p : Process}
    {endpoint : Endpoint} {handle : AttestationRequest → RegisteredService → A}
    {router : Server.Router} {req : Server.Request}
    {body : AttestationRequest} {answer : A} :
    p.answer endpoint handle router req body = some answer ↔
      body.requestBody ≠ [] ∧
      ∃ t, p.server.serve router req = .handled (.attestation t endpoint) ∧
        ∃ service, p.find t = some service ∧
          handle body service = answer := by
  have hresolve : body.resolve = [] ↔ body.requestBody ≠ [] := by
    simp [AttestationRequest.resolve]
  unfold Process.answer
  simp only [hresolve]
  split
  next t routed hserve =>
      rw [Option.ite_none_right_eq_some, Option.map_eq_some_iff]
      constructor
      · rintro ⟨⟨rfl, hne⟩, service, hfind, hanswer⟩
        exact ⟨hne, t, hserve, service, hfind, hanswer⟩
      · rintro ⟨hne, t', hserve', service, hfind, hanswer⟩
        rw [hserve] at hserve'
        obtain ⟨rfl, rfl⟩ : t = t' ∧ routed = endpoint := by
          simpa using hserve'
        exact ⟨⟨rfl, hne⟩, service, hfind, hanswer⟩
  next hother =>
      constructor
      · intro h
        cases h
      · rintro ⟨-, t, hserve, -⟩
        exact absurd hserve (hother t endpoint)

theorem Process.verify_eq_some_iff {J : Type} {p : Process}
    {router : Server.Router} {w : World J} {req : Server.Request}
    {body : AttestationRequest} {answer : VerifierResponse} :
    p.verify router w req body = some answer ↔
      body.requestBody ≠ [] ∧
      ∃ t, p.server.serve router req = .handled (.attestation t .verify) ∧
        ∃ service, p.find t = some service ∧
          service.verify w body = answer :=
  Process.answer_eq_some_iff

/-- What a `VERIFIED` envelope of a found service says. -/
theorem Process.verify_eq_verified_iff {J : Type} {p : Process}
    {router : Server.Router} {w : World J} {req : Server.Request}
    {t : AttestationType} {service : RegisteredService}
    (hserve : p.server.serve router req = .handled (.attestation t .verify))
    (hfind : p.find t = some service) {body : AttestationRequest}
    {bytes : List UInt8} :
    p.verify router w req body = some ⟨.verified, bytes, ""⟩ ↔
      body.requestBody ≠ [] ∧
      Names (service.handlers (J := J)).config.toEncodedAndABI body ∧
      ∃ data response,
        service.handlers.config.abiDecodeRequestData body.requestBody =
          .ok data ∧
        service.handlers.verifier w data = .ok response ∧
        service.handlers.config.abiEncodeData response = .ok bytes := by
  rw [Process.verify_eq_some_iff]
  constructor
  · rintro ⟨hne, t', hserve', service', hfind', hanswer⟩
    rw [hserve] at hserve'
    obtain rfl : t = t' := by simpa using hserve'
    rw [hfind] at hfind'
    obtain rfl := Option.some.inj hfind'
    exact ⟨hne, verifyEndpoint_eq_verified_iff.mp hanswer⟩
  · rintro ⟨hne, hverified⟩
    exact ⟨hne, t, hserve, service, hfind,
      verifyEndpoint_eq_verified_iff.mpr hverified⟩

/-! ## A process of the TEE source -/

deriving instance DecidableEq for TeeRequestBody, Multisig.RequestBody

namespace SmallProcess

open Server

/-- The distribution points serve the lists of the issuers. -/
def teeView : TeeView where
  proxyLookup := .ok []
  proxyExchange := .answered 200 (.ok [1])
  token :=
    ⟨1, fun name _ => ⟨none, 1, ⟨none, 1, .ok [],
      .answered 200 (.ok (if name = .leaf then [2] else [1])), false⟩, none⟩,
      []⟩
  relay _ _ _ _ := .ok zeroHash
  delay _ _ := none
  policySchedule := []
  verifySchedule := []

def world : World Unit where
  teeLibrary := SmallTee.lib
  teeView := teeView
  pmwLibrary := SmallLedger.library
  db := []
  cChainDb := []
  convertDatabaseLogToChainLog := SmallLedger.convert
  paymentReads := SmallLedger.paymentReads
  feeReads := SmallLedger.feeReads
  multisigReads := Multisig.twoSignerReads
  xrpAddressFromPubKey := Multisig.twoKeyVerifier.xrpAddressFromPubKey

/-! The fields of requests and responses, in the order of their types. -/

def uint (n : ℕ) : AbiValue :=
  .bytes32 (SmallLedger.word n)

def text (s : String) : AbiValue :=
  .string (textBytes s)

def address (a : Address) : AbiValue :=
  .bytes32 ⟨List.replicate 12 0 ++ a.bytes, by simp [a.length_bytes]⟩

def teeRequestValues (req : TeeRequestBody) : List AbiValue :=
  [address req.teeId, address req.teeProxyId, text req.url,
    .bytes32 req.challenge, .bytes32 req.instructionId]

def teeResponseValues (response : TeeResponseBody) : List AbiValue :=
  [uint (if response.status = .ok then 0 else 1),
    .uint64 response.teeTimestamp, .bytes32 response.codeHash,
    .bytes32 response.platform, uint response.initialSigningPolicyId.toNat,
    uint response.lastSigningPolicyId.toNat,
    .string response.state.systemState,
    .bytes32 response.state.systemStateVersion,
    .string response.state.state, .bytes32 response.state.stateVersion]

def paymentRequestValues (req : PaymentStatus.RequestBody) :
    List AbiValue :=
  [.bytes32 req.opType, text req.senderAddress, .uint64 req.paymentId]

def paymentResponseValues (response : PaymentStatus.ResponseBody) :
    List AbiValue :=
  [text response.recipientAddress, .string response.tokenId,
    uint (response.amount.getD 0).toNat, uint (response.maxFee.getD 0).toNat,
    .bytes32 response.paymentReference,
    uint (if response.transactionStatus = .success then 0 else 1),
    text response.revertReason, uint response.receivedAmount.toNat,
    uint response.transactionFee.toNat, .bytes32 response.transactionId,
    .uint64 response.blockNumber, .uint64 response.blockTimestamp]

def multisigRequestValues (req : Multisig.RequestBody) : List AbiValue :=
  text req.accountAddress :: .uint64 req.threshold ::
    req.publicKeys.map AbiValue.string

def multisigResponseValues (response : Multisig.ResponseBody) :
    List AbiValue :=
  [uint (if response.status = .ok then 0 else 1), .uint64 response.sequence]

def feeRequestValues (req : FeeProof.RequestBody) : List AbiValue :=
  [.bytes32 req.opType, text req.senderAddress, .uint64 req.firstPaymentId,
    .uint64 req.batchCount, .uint64 req.untilTimestamp]

def feeResponseValues (response : FeeProof.ResponseBody) : List AbiValue :=
  [.uint64 response.lastPaymentId, uint response.actualFee.toNat,
    uint response.estimatedFee.toNat]

/-- A codec which knows one request. -/
def codec {S T : Type} [DecidableEq S] (request : S)
    (requestValues : S → List AbiValue) (responseValues : T → List AbiValue) :
    AbiCodec S T where
  decodeRequest data :=
    if data = abiEncode (requestValues request) then .ok request
    else .error ⟨"abi: cannot unmarshal", []⟩
  encodeRequest data :=
    if data = request then .ok (abiEncode (requestValues request))
    else .error ⟨"abi: cannot marshal", []⟩
  encodeResponse response := .ok (abiEncode (responseValues response))

def teeCodec : AbiCodec TeeRequestBody TeeResponseBody :=
  codec SmallTee.request teeRequestValues teeResponseValues

def paymentCodec :
    AbiCodec PaymentStatus.RequestBody PaymentStatus.ResponseBody :=
  codec (SmallLedger.paymentRequest 1) paymentRequestValues
    paymentResponseValues

def multisigCodec : AbiCodec Multisig.RequestBody Multisig.ResponseBody :=
  codec Multisig.twoKeyRequest multisigRequestValues multisigResponseValues

def feeCodec : AbiCodec FeeProof.RequestBody FeeProof.ResponseBody :=
  codec (SmallLedger.feeRequest 1 1) feeRequestValues feeResponseValues

/-- The one request of the type which the process decodes. -/
def requestBytes : AttestationType → List UInt8
  | .availabilityCheck => abiEncode (teeRequestValues SmallTee.request)
  | .pmwPaymentStatus =>
      abiEncode (paymentRequestValues (SmallLedger.paymentRequest 1))
  | .pmwMultisigAccountConfigured =>
      abiEncode (multisigRequestValues Multisig.twoKeyRequest)
  | .pmwFeeProof => abiEncode (feeRequestValues (SmallLedger.feeRequest 1 1))

def library : ConfigLibrary where
  addresses := sampleAddresses
  teeInstructionsABI := .ok SmallLedger.abi
  loadGoogleRootCert := .ok ⟨[1]⟩
  availabilityCheckABI := .ok teeCodec
  paymentStatusABI := .ok paymentCodec
  multisigABI := .ok multisigCodec
  feeProofABI := .ok feeCodec

/-- Everything outside answers. -/
def backends : Backends where
  gormOpen _ _ _ := .ok ()
  sqlDB _ := .ok ()
  sqlClose _ := .ok ()
  dial _ _ := .ok ()
  newTeePaymentsCaller _ _ := .ok ()
  newRelayCaller _ _ := .ok ()
  serverInfo _ := .error ⟨"connection refused", []⟩
  checksumHex := FixedBytes.hex

def process : Process :=
  .start backends library sampleEnv sampleDeployment

theorem booted :
    Booted backends library sampleGetenv sampleEnv process :=
  .start loadEnvConfig_sampleGetenv (by decide) rfl (by decide) rfl

def body : AttestationRequest :=
  ⟨AttestationType.availabilityCheck.encoded, SourceID.tee.encoded,
    requestBytes .availabilityCheck⟩

/-- The response on the one TEE. -/
def response : TeeResponseBody where
  status := .ok
  teeTimestamp := SmallTee.info.teeTimestamp
  codeHash := zeroHash
  platform := zeroHash
  initialSigningPolicyId := SmallTee.info.initialSigningPolicyID
  lastSigningPolicyId := SmallTee.info.lastSigningPolicyID
  state := SmallTee.info.state

/-- The other key, without a query. -/
def otherRequest : Request where
  method := "POST"
  target := textBytes "/verifier/tee/sgb/TeeAvailabilityCheck/verify"
  apiKey := textBytes "0123456789abcdef"

theorem verify_sampleRequest :
    process.verify sampleServer.literalRouter world sampleRequest body =
      some ⟨.verified, abiEncode (teeResponseValues response), ""⟩ := by
  decide +kernel

theorem verify_otherRequest :
    process.verify sampleServer.literalRouter world otherRequest body =
      some ⟨.verified, abiEncode (teeResponseValues response), ""⟩ := by
  decide +kernel

end SmallProcess

/-- One request body is verified under one attestation type and one source
only, by whatever processes and under whatever keys it is asked for. -/
theorem verified_names {J J' : Type} {b b' : Backends}
    {lib lib' : ConfigLibrary} {getenv getenv' : Environment.Getenv}
    {env env' : EnvConfig} {p p' : Process}
    (hp : Booted b lib getenv env p) (hp' : Booted b' lib' getenv' env' p')
    {router router' : Server.Router} {w : World J} {w' : World J'}
    {req req' : Server.Request} {body : AttestationRequest}
    {answer answer' : VerifierResponse}
    (hanswer : p.verify router w req body = some answer)
    (hanswer' : p'.verify router' w' req' body = some answer')
    (hverified : answer.status = .verified)
    (hverified' : answer'.status = .verified) :
    env.sourceID = env'.sourceID ∧ ∃ t,
      p.server.serve router req = .handled (.attestation t .verify) ∧
      p'.server.serve router' req' = .handled (.attestation t .verify) ∧
      body.attestationType = t.encoded ∧
      body.sourceID = env.sourceID.encoded := by
  obtain ⟨-, t, hserve, service, hfind, rfl⟩ :=
    Process.verify_eq_some_iff.mp hanswer
  obtain ⟨-, t', hserve', service', hfind', rfl⟩ :=
    Process.verify_eq_some_iff.mp hanswer'
  obtain ⟨rfl, n, hloads⟩ := hp.serviceLoads hfind
  obtain ⟨rfl, n', hloads'⟩ := hp'.serviceLoads hfind'
  obtain ⟨htype, hsource⟩ := hloads.names_of_verified hverified
  obtain ⟨htype', hsource'⟩ := hloads'.names_of_verified hverified'
  have hsame : service.attestationType = service'.attestationType :=
    AttestationType.encoded_injective (htype.symm.trans htype')
  rw [← hsame] at hserve'
  exact ⟨SourceID.encoded_injective (hsource.symm.trans hsource'), _, hserve,
    hserve', htype, hsource⟩

open SmallProcess Server in
theorem verified_names_twoKeys : ∃ t,
    sampleServer.serve sampleServer.literalRouter sampleRequest =
        .handled (.attestation t .verify) ∧
      sampleServer.serve sampleServer.literalRouter otherRequest =
        .handled (.attestation t .verify) ∧
      body.attestationType = t.encoded ∧
      body.sourceID = SourceID.tee.encoded :=
  (verified_names booted booted verify_sampleRequest verify_otherRequest rfl
    rfl).2

/-! ## The TEE check of a process -/

/-- The verifier that the settings stand for, with what was parsed and loaded
for it. -/
def EnvConfig.teeVerifier (env : EnvConfig) (root : Certificate)
    (cutover : Address × UInt32) (chainID : UInt64) : TeeVerifier where
  cfg := {
    relayCutover := newRelayCaller cutover.1 cutover.2
    allowTeeDebug := flagOn env.allowTeeDebug
    disableAttestationCheckE2E := flagOn env.disableAttestationCheckE2E
    allowPrivateNetworks := flagOn env.allowPrivateNetworks
    googleRootCertificate := some root
    teeAudience := env.expectedAudience
    chainID := chainID }
  hasCRLCache := true

/-- A booted process of the TEE source answers `VERIFIED` exactly when the
request passes the router and the key check, names the type and the source,
and decodes to a request for which every gate of the check is passed under the
settings of the process. -/
theorem tee_process_exact {getenv : Environment.Getenv} {p : Process}
    (hp : Booted b lib getenv env p) (hsource : env.sourceID = .tee)
    (router : Server.Router) :
    ∃ root cutover chainID codec,
      lib.loadGoogleRootCert = .ok root ∧
      parseRelayCutover lib.addresses env.toCutoverEnv
        (lib.addresses.hexToAddress env.relayContractAddress) =
          .ok cutover ∧
      parseChainID env.chainID = .ok chainID ∧
      lib.availabilityCheckABI = .ok codec ∧
      ∀ (J : Type) (w : World J) req body bytes,
        p.verify router w req body = some ⟨.verified, bytes, ""⟩ ↔
          p.server.serve router req =
            .handled (.attestation .availabilityCheck .verify) ∧
          body.requestBody ≠ [] ∧
          body.attestationType = AttestationType.availabilityCheck.encoded ∧
          body.sourceID = SourceID.tee.encoded ∧
          ∃ data actionResp response statusInfo,
            let v := env.teeVerifier root cutover chainID
            codec.decodeRequest body.requestBody = .ok data ∧
            ProxyAnswered w.teeLibrary v w.teeView data actionResp ∧
            Bound w.teeLibrary v data actionResp response ∧
            PoliciesOnChain v w.teeView response.teeInfo ∧
            Attested w.teeLibrary v w.teeView data response statusInfo ∧
            codec.encodeResponse (responseBody response.teeInfo statusInfo) =
              .ok bytes := by
  obtain ⟨cfg, hservices, hconfig, -⟩ := teeService_of_loads hsource
    (Server.servedAttestationTypes_of_loadEnvConfig hp.environment) hp.loads
  obtain ⟨-, slug, codec, root, cutover, chainID, -, hcodec, hroot,
    hcutover, hchainID, hcfg⟩ :=
    buildTeeAvailabilityCheckConfig_eq_ok_iff.mp hconfig
  refine ⟨root, cutover, chainID, codec, hroot, hcutover, hchainID, hcodec,
    ?_⟩
  intro J w req body bytes
  have hverifier : cfg.verifier = env.teeVerifier root cutover chainID := by
    rw [hcfg]
    rfl
  have hfind : ∀ t service,
      p.find t = some service ↔ t = .availabilityCheck ∧
        service = .teeAvailabilityCheck cfg ⟨0, .flareRPC⟩ := by
    intro t service
    rw [Process.find, hservices]
    cases t <;> simp [RegisteredService.attestationType, eq_comm]
  have hnames : Names cfg.toEncodedAndABI body ↔
      body.attestationType = AttestationType.availabilityCheck.encoded ∧
        body.sourceID = SourceID.tee.encoded := by
    rw [hcfg, ← hsource]
    exact ⟨fun h => ⟨h.attestationType, h.sourceID⟩, fun h => ⟨h.1, h.2⟩⟩
  have hdecode : cfg.abiDecodeRequestData = codec.decodeRequest := by
    rw [hcfg]
    rfl
  have hencode : cfg.abiEncodeData = codec.encodeResponse := by
    rw [hcfg]
    rfl
  have hverified : RegisteredService.verify w body
        (.teeAvailabilityCheck cfg ⟨0, .flareRPC⟩) =
          ⟨.verified, bytes, ""⟩ ↔
      Names cfg.toEncodedAndABI body ∧ ∃ data response,
        codec.decodeRequest body.requestBody = .ok data ∧
        ((env.teeVerifier root cutover chainID).verify w.teeLibrary w.teeView
          data).result = .ok response ∧
        codec.encodeResponse response = .ok bytes := by
    rw [← hdecode, ← hencode, ← hverifier]
    exact verifyEndpoint_eq_verified_iff
  simp only [Process.verify_eq_some_iff, hfind]
  constructor
  · rintro ⟨hne, _, hserve, _, ⟨rfl, rfl⟩, hanswer⟩
    obtain ⟨hboth, data, _, hdata, hrun, hbytes⟩ := hverified.mp hanswer
    obtain ⟨actionResp, response, statusInfo, hanswered, hbound, hpolicies,
      hattested, rfl⟩ := verify_eq_ok_iff_gates.mp hrun
    obtain ⟨htype, hsourceID⟩ := hnames.mp hboth
    exact ⟨hserve, hne, htype, hsourceID, data, actionResp, response, statusInfo,
      hdata, hanswered, hbound, hpolicies, hattested, hbytes⟩
  · rintro ⟨hserve, hne, htype, hsourceID, data, actionResp, response,
      statusInfo, hdata, hanswered, hbound, hpolicies, hattested, hbytes⟩
    have hrun := verify_eq_ok_iff_gates.mpr ⟨actionResp, response, statusInfo,
      hanswered, hbound, hpolicies, hattested, rfl⟩
    exact ⟨hne, _, hserve, _, ⟨rfl, rfl⟩, hverified.mpr
      ⟨hnames.mpr ⟨htype, hsourceID⟩, data, _, hdata, hrun, hbytes⟩⟩

open SmallProcess Server in
theorem tee_process_exact_sample :
    ∃ data actionResp response statusInfo,
      let v := sampleEnv.teeVerifier ⟨[1]⟩ (zeroAddress, 0) 14
      ProxyAnswered SmallTee.lib v teeView data actionResp ∧
        Bound SmallTee.lib v data actionResp response ∧
        PoliciesOnChain v teeView response.teeInfo ∧
        Attested SmallTee.lib v teeView data response statusInfo := by
  obtain ⟨root, cutover, chainID, codec, hroot, hcutover, hchainID, -,
    hexact⟩ := tee_process_exact booted rfl sampleServer.literalRouter
  obtain rfl : root = ⟨[1]⟩ := (Except.ok.inj hroot).symm
  obtain rfl : cutover = (zeroAddress, 0) := (Except.ok.inj hcutover).symm
  have hfourteen : parseChainID sampleEnv.chainID = .ok 14 := by decide
  obtain rfl : chainID = 14 :=
    Except.ok.inj (hchainID.symm.trans hfourteen)
  obtain ⟨-, -, -, -, data, actionResp, response, statusInfo, -, hanswered,
    hbound, hpolicies, hattested, -⟩ :=
      (hexact Unit world sampleRequest body _).mp verify_sampleRequest
  exact ⟨data, actionResp, response, statusInfo, hanswered, hbound,
    hpolicies, hattested⟩

end VerifierApi

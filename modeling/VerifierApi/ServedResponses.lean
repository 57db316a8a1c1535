import VerifierApi.LedgerProcess
import VerifierApi.NonceCache

/-!
# The responses of a booted process

`prepareResponseBody` answers with the bytes of a response and with its data,
which is converted from the response of the verifier through pointers to its
amounts.  No pointer of a verified response is nil, the bytes are those of
`verify`, and they encode the data.
-/

namespace VerifierApi

/-! ## The data of a response -/

/-- The data of a payment.  Its amounts are values, where the response of the
verifier has pointers. -/
structure PaymentStatus.ResponseData where
  recipientAddress : String
  tokenId : List UInt8
  amount : Int
  maxFee : Int
  paymentReference : Hash
  transactionStatus : TransactionStatus
  revertReason : String
  receivedAmount : Int
  transactionFee : Int
  transactionId : Hash
  blockNumber : UInt64
  blockTimestamp : UInt64
deriving DecidableEq

/-- The value behind a pointer. -/
def deref {α : Type} : Option α → Panicking α
  | some v => .ok v
  | none =>
      .error "runtime error: invalid memory address or nil pointer dereference"

@[simp] theorem deref_eq_ok {α : Type} {pointer : Option α} {v : α} :
    deref pointer = .ok v ↔ pointer = some v := by
  cases pointer <;> simp [deref]

def PaymentStatus.ResponseData.fromInternal (data : ResponseBody) :
    Panicking ResponseData := do
  let amount ← deref data.amount
  let maxFee ← deref data.maxFee
  .ok {
    recipientAddress := data.recipientAddress
    tokenId := data.tokenId
    amount := amount
    maxFee := maxFee
    paymentReference := data.paymentReference
    transactionStatus := data.transactionStatus
    revertReason := data.revertReason
    receivedAmount := data.receivedAmount
    transactionFee := data.transactionFee
    transactionId := data.transactionId
    blockNumber := data.blockNumber
    blockTimestamp := data.blockTimestamp }

/-- The data of a response.  The other three have the fields of the response
of the verifier. -/
inductive ResponseData where
  | teeAvailabilityCheck (data : TeeResponseBody)
  | pmwPaymentStatus (data : PaymentStatus.ResponseData)
  | pmwMultisigAccountConfigured (data : Multisig.ResponseBody)
  | pmwFeeProof (data : FeeProof.ResponseBody)
deriving DecidableEq

def ResponseData.attestationType : ResponseData → AttestationType
  | teeAvailabilityCheck _ => .availabilityCheck
  | pmwPaymentStatus _ => .pmwPaymentStatus
  | pmwMultisigAccountConfigured _ => .pmwMultisigAccountConfigured
  | pmwFeeProof _ => .pmwFeeProof

def RegisteredService.fromInternal {J : Type} :
    (service : RegisteredService) → (service.handlers (J := J)).T →
      Panicking ResponseData
  | teeAvailabilityCheck _ _, data => .ok (.teeAvailabilityCheck data)
  | pmwPaymentStatus _, data => do
      let converted ← PaymentStatus.ResponseData.fromInternal data
      .ok (.pmwPaymentStatus converted)
  | pmwMultisigAccountConfigured _, data =>
      .ok (.pmwMultisigAccountConfigured data)
  | pmwFeeProof _, data => .ok (.pmwFeeProof data)

/-! ## The endpoint -/

/-- The answer of `prepareResponseBody`.  The data is converted last. -/
def RegisteredService.prepareResponseBody {J : Type} (w : World J)
    (request : AttestationRequest) (service : RegisteredService) :
    Panicking (Except HTTPError (AttestationResponseData ResponseData)) :=
  match prepareResponseBodyEndpoint
      (service.handlers (J := J)).config.toEncodedAndABI
      (service.handlers.verifier w) service.fromInternal request with
  | .error e => .ok (.error e)
  | .ok answer => do
      let data ← answer.responseData
      .ok (.ok ⟨data, answer.responseBody⟩)

/-- The answer of a `prepareResponseBody` route. -/
def Process.prepareResponseBody {J : Type} (p : Process)
    (router : Server.Router) (w : World J) (req : Server.Request)
    (body : AttestationRequest) :
    Option (Panicking
      (Except HTTPError (AttestationResponseData ResponseData))) :=
  p.answer .prepareResponseBody (RegisteredService.prepareResponseBody w)
    router req body

/-! ## The conversion -/

/-- The response that is converted to the data. -/
def PaymentStatus.ResponseData.internal (data : ResponseData) :
    ResponseBody where
  recipientAddress := data.recipientAddress
  tokenId := data.tokenId
  amount := some data.amount
  maxFee := some data.maxFee
  paymentReference := data.paymentReference
  transactionStatus := data.transactionStatus
  revertReason := data.revertReason
  receivedAmount := data.receivedAmount
  transactionFee := data.transactionFee
  transactionId := data.transactionId
  blockNumber := data.blockNumber
  blockTimestamp := data.blockTimestamp

theorem PaymentStatus.ResponseData.fromInternal_eq_ok_iff
    {response : ResponseBody} {data : ResponseData} :
    fromInternal response = .ok data ↔ response = data.internal := by
  obtain ⟨_, _, amount, maxFee, _, _, _, _, _, _, _, _⟩ := response
  simp only [fromInternal, internal, bind_eq_ok, deref_eq_ok,
    Except.ok.injEq]
  constructor
  · rintro ⟨_, rfl, _, rfl, rfl⟩
    rfl
  · intro h
    cases h
    exact ⟨_, rfl, _, rfl, rfl⟩

/-- A verified payment has both of its amounts. -/
theorem PaymentStatus.XRPVerifier.fromInternal_of_verify {x : XRPVerifier}
    {reads : Reads} {req : RequestBody} {response : ResponseBody}
    (h : x.verify reads req = .ok response) :
    ∃ data, ResponseData.fromInternal response = .ok data := by
  obtain ⟨-, -, event, -, tx, -, raw, -, -, hbuild⟩ := verify_eq_ok_iff.mp h
  have hbuilds := buildPaymentStatusResponse_builds hbuild
  obtain ⟨amount, hamount, -⟩ :=
    (exceedsMaxXRPDrops_eq_false_iff _).mp hbuilds.amountBound
  obtain ⟨maxFee, hmaxFee, -⟩ :=
    (exceedsMaxXRPDrops_eq_false_iff _).mp hbuilds.maxFeeBound
  obtain ⟨-, -, hamount', hmaxFee', -⟩ := hbuilds.fromMessage
  refine ⟨_, bind_eq_ok.mpr ⟨amount, ?_, bind_eq_ok.mpr ⟨maxFee, ?_, rfl⟩⟩⟩
  · rw [deref_eq_ok, hamount', hamount]
  · rw [deref_eq_ok, hmaxFee', hmaxFee]

namespace RegisteredService

/-- Whatever a service verifies is converted without a panic. -/
theorem fromInternal_of_verifier {J : Type} {service : RegisteredService}
    {w : World J} {request : (service.handlers (J := J)).S}
    {response : (service.handlers (J := J)).T}
    (h : service.handlers.verifier w request = .ok response) :
    ∃ data, service.fromInternal response = .ok data := by
  cases service with
  | teeAvailabilityCheck cfg client => exact ⟨_, rfl⟩
  | pmwPaymentStatus payments =>
      obtain ⟨data, hdata⟩ :=
        PaymentStatus.XRPVerifier.fromInternal_of_verify h
      exact ⟨_, bind_eq_ok.mpr ⟨data, hdata, rfl⟩⟩
  | pmwMultisigAccountConfigured cfg => exact ⟨_, rfl⟩
  | pmwFeeProof fees => exact ⟨_, rfl⟩

end RegisteredService

/-! ## Prepared responses -/

/-- The bytes encode the response that is converted to the data. -/
def ConfigLibrary.Encodes (lib : ConfigLibrary) (bytes : List UInt8) :
    ResponseData → Prop
  | .teeAvailabilityCheck data => ∃ codec,
      lib.availabilityCheckABI = .ok codec ∧
        codec.encodeResponse data = .ok bytes
  | .pmwPaymentStatus data => ∃ codec,
      lib.paymentStatusABI = .ok codec ∧
        codec.encodeResponse data.internal = .ok bytes
  | .pmwMultisigAccountConfigured data => ∃ codec,
      lib.multisigABI = .ok codec ∧ codec.encodeResponse data = .ok bytes
  | .pmwFeeProof data => ∃ codec,
      lib.feeProofABI = .ok codec ∧ codec.encodeResponse data = .ok bytes

theorem ServiceLoads.encodes {J : Type} {b : Backends} {lib : ConfigLibrary}
    {env : EnvConfig} {n : ℕ} {service : RegisteredService}
    (h : ServiceLoads b lib env n service)
    {response : (service.handlers (J := J)).T} {data : ResponseData}
    {bytes : List UInt8}
    (hbytes : service.handlers.config.abiEncodeData response = .ok bytes)
    (hdata : service.fromInternal response = .ok data) :
    data.attestationType = service.attestationType ∧
      lib.Encodes bytes data := by
  cases h with
  | teeAvailabilityCheck cfg hconfig hloads =>
      obtain ⟨-, slug, codec, root, cutover, chainID, -, hcodec, -, -, -,
        rfl⟩ := buildTeeAvailabilityCheckConfig_eq_ok_iff.mp hconfig
      obtain rfl := Except.ok.inj hdata
      exact ⟨rfl, codec, hcodec, hbytes⟩
  | pmwPaymentStatus cfg hconfig hloads =>
      obtain ⟨-, slug, codec, abi, -, hcodec, -, rfl⟩ :=
        buildPMWConfig_eq_ok_iff.mp hconfig
      obtain ⟨converted, hconverted, hdata⟩ := bind_eq_ok.mp hdata
      obtain rfl := Except.ok.inj hdata
      obtain rfl :=
        PaymentStatus.ResponseData.fromInternal_eq_ok_iff.mp hconverted
      exact ⟨rfl, codec, hcodec, hbytes⟩
  | pmwMultisigAccountConfigured cfg hconfig hsource hnetwork =>
      obtain ⟨-, -, slug, codec, -, hcodec, rfl⟩ :=
        buildPMWMultisigAccountConfiguredConfig_eq_ok_iff.mp hconfig
      obtain rfl := Except.ok.inj hdata
      exact ⟨rfl, codec, hcodec, hbytes⟩
  | pmwFeeProof cfg hconfig hloads =>
      obtain ⟨-, slug, codec, abi, -, hcodec, -, rfl⟩ :=
        buildPMWConfig_eq_ok_iff.mp hconfig
      obtain rfl := Except.ok.inj hdata
      exact ⟨rfl, codec, hcodec, hbytes⟩

theorem prepareResponseBodyEndpoint_eq_ok_iff {S T V : Type}
    {config : EncodedAndABI S T} {verifier : S → Except GoError T}
    {fromInternal : T → V} {request : AttestationRequest}
    {answer : AttestationResponseData V} :
    prepareResponseBodyEndpoint config verifier fromInternal request =
        .ok answer ↔
      Names config request ∧ ∃ requestData responseData,
        config.abiDecodeRequestData request.requestBody = .ok requestData ∧
        verifier requestData = .ok responseData ∧
        config.abiEncodeData responseData = .ok answer.responseBody ∧
        answer.responseData = fromInternal responseData := by
  rw [names_iff]
  simp only [prepareResponseBodyEndpoint, decodeRequest, encodeResponse,
    bind_eq_ok, mapError_eq_ok, exists_unit]
  constructor
  · rintro ⟨hnames, data, hdata, response, hresponse, bytes, hbytes, hanswer⟩
    obtain rfl := Except.ok.inj hanswer
    exact ⟨hnames, data, response, hdata, hresponse, hbytes, rfl⟩
  · rintro ⟨hnames, data, response, hdata, hresponse, hbytes, hanswer⟩
    refine ⟨hnames, data, hdata, response, hresponse, _, hbytes, ?_⟩
    rw [← hanswer]
    rfl

namespace RegisteredService

variable {J : Type} {service : RegisteredService} {w : World J}
  {request : AttestationRequest}

theorem prepareResponseBody_eq_ok_iff {data : ResponseData}
    {bytes : List UInt8} :
    service.prepareResponseBody w request = .ok (.ok ⟨data, bytes⟩) ↔
      ∃ answer, prepareResponseBodyEndpoint
          (service.handlers (J := J)).config.toEncodedAndABI
          (service.handlers.verifier w) service.fromInternal request =
            .ok answer ∧
        answer.responseData = .ok data ∧ answer.responseBody = bytes := by
  unfold prepareResponseBody
  cases prepareResponseBodyEndpoint
      (service.handlers (J := J)).config.toEncodedAndABI
      (service.handlers.verifier w) service.fromInternal request with
  | error e => simp
  | ok answer =>
      simp only [bind_eq_ok, Except.ok.injEq, exists_eq_left']
      constructor
      · rintro ⟨data', hdata, hanswer⟩
        cases hanswer
        exact ⟨hdata, rfl⟩
      · rintro ⟨hdata, rfl⟩
        exact ⟨data, hdata, rfl⟩

/-- The response that is prepared, read off its checks. -/
theorem prepareResponseBody_eq_prepared_iff {data : ResponseData}
    {bytes : List UInt8} :
    service.prepareResponseBody w request = .ok (.ok ⟨data, bytes⟩) ↔
      Names (service.handlers (J := J)).config.toEncodedAndABI request ∧
      ∃ requestData responseData,
        service.handlers.config.abiDecodeRequestData request.requestBody =
          .ok requestData ∧
        service.handlers.verifier w requestData = .ok responseData ∧
        service.handlers.config.abiEncodeData responseData = .ok bytes ∧
        service.fromInternal responseData = .ok data := by
  simp only [prepareResponseBody_eq_ok_iff,
    prepareResponseBodyEndpoint_eq_ok_iff]
  constructor
  · rintro ⟨⟨_, _⟩, ⟨hnames, requestData, responseData, hrequest, hresponse,
      hbytes, rfl⟩, hdata, rfl⟩
    exact ⟨hnames, requestData, responseData, hrequest, hresponse, hbytes,
      hdata⟩
  · rintro ⟨hnames, requestData, responseData, hrequest, hresponse, hbytes,
      hdata⟩
    exact ⟨⟨_, bytes⟩, ⟨hnames, requestData, responseData, hrequest,
      hresponse, hbytes, rfl⟩, hdata, rfl⟩

/-- The endpoint never panics. -/
theorem exists_prepareResponseBody :
    ∃ answer, service.prepareResponseBody w request = .ok answer := by
  unfold prepareResponseBody
  cases hanswer : prepareResponseBodyEndpoint
      (service.handlers (J := J)).config.toEncodedAndABI
      (service.handlers.verifier w) service.fromInternal request with
  | error e => exact ⟨_, rfl⟩
  | ok answer =>
      obtain ⟨-, requestData, responseData, -, hresponse, -, hdata⟩ :=
        prepareResponseBodyEndpoint_eq_ok_iff.mp hanswer
      obtain ⟨data, hconverted⟩ := fromInternal_of_verifier hresponse
      rw [← hdata] at hconverted
      exact ⟨_, bind_eq_ok.mpr ⟨data, hconverted, rfl⟩⟩

/-- The two endpoints answer with the same bytes. -/
theorem prepared_iff_verified {bytes : List UInt8} :
    (∃ data, service.prepareResponseBody w request =
        .ok (.ok ⟨data, bytes⟩)) ↔
      service.verify w request = ⟨.verified, bytes, ""⟩ := by
  unfold verify Handlers.verify
  rw [verifyEndpoint_eq_verified_iff]
  simp only [prepareResponseBody_eq_prepared_iff]
  constructor
  · rintro ⟨data, hnames, requestData, responseData, hrequest, hresponse,
      hbytes, -⟩
    exact ⟨hnames, requestData, responseData, hrequest, hresponse, hbytes⟩
  · rintro ⟨hnames, requestData, responseData, hrequest, hresponse, hbytes⟩
    obtain ⟨data, hdata⟩ := fromInternal_of_verifier hresponse
    exact ⟨data, hnames, requestData, responseData, hrequest, hresponse,
      hbytes, hdata⟩

end RegisteredService

/-! ## Responses of a process -/

theorem Process.prepareResponseBody_eq_some_iff {J : Type} {p : Process}
    {router : Server.Router} {w : World J} {req : Server.Request}
    {body : AttestationRequest}
    {outcome : Panicking
      (Except HTTPError (AttestationResponseData ResponseData))} :
    p.prepareResponseBody router w req body = some outcome ↔
      body.requestBody ≠ [] ∧ ∃ t, p.server.serve router req =
          .handled (.attestation t .prepareResponseBody) ∧
        ∃ service, p.find t = some service ∧
          service.prepareResponseBody w body = outcome :=
  Process.answer_eq_some_iff

section Booted

variable {b : Backends} {lib : ConfigLibrary}
  {getenv : Environment.Getenv} {env : EnvConfig} {p : Process}

theorem Booted.encodes_of_prepared {J : Type}
    (hp : Booted b lib getenv env p) {router : Server.Router} {w : World J}
    {req : Server.Request} {body : AttestationRequest}
    {data : ResponseData} {bytes : List UInt8}
    (h : p.prepareResponseBody router w req body =
      some (.ok (.ok ⟨data, bytes⟩))) :
    p.server.serve router req =
        .handled (.attestation data.attestationType .prepareResponseBody) ∧
      lib.Encodes bytes data := by
  obtain ⟨-, t, hserve, service, hfind, hanswer⟩ :=
    Process.prepareResponseBody_eq_some_iff.mp h
  obtain ⟨-, requestData, response, -, -, hbytes, hdata⟩ :=
    RegisteredService.prepareResponseBody_eq_prepared_iff.mp hanswer
  obtain ⟨rfl, n, hloads⟩ := hp.serviceLoads hfind
  obtain ⟨htype, hencodes⟩ := hloads.encodes hbytes hdata
  rw [htype]
  exact ⟨hserve, hencodes⟩

/-- The two response endpoints of a booted process, under whatever keys and
spellings of their paths: neither panics while it converts a response, they
answer with the same bytes, and the bytes encode the data that stands next to
them. -/
theorem served_responses {J : Type} (hp : Booted b lib getenv env p)
    {t : AttestationType} {router router' : Server.Router}
    {req req' : Server.Request}
    (hverify : p.server.serve router req =
      .handled (.attestation t .verify))
    (hprepare : p.server.serve router' req' =
      .handled (.attestation t .prepareResponseBody))
    (w : World J) (body : AttestationRequest) :
    (∀ outcome, p.prepareResponseBody router' w req' body = some outcome →
      ∃ answer, outcome = .ok answer) ∧
    (∀ bytes, p.verify router w req body = some ⟨.verified, bytes, ""⟩ ↔
      ∃ data, p.prepareResponseBody router' w req' body =
        some (.ok (.ok ⟨data, bytes⟩))) ∧
    ∀ data bytes, p.prepareResponseBody router' w req' body =
        some (.ok (.ok ⟨data, bytes⟩)) →
      data.attestationType = t ∧ lib.Encodes bytes data := by
  refine ⟨?_, ?_, ?_⟩
  · intro outcome h
    obtain ⟨-, _, -, service, -, rfl⟩ :=
      Process.prepareResponseBody_eq_some_iff.mp h
    exact RegisteredService.exists_prepareResponseBody
  · intro bytes
    simp only [Process.verify_eq_some_iff,
      Process.prepareResponseBody_eq_some_iff, hverify, hprepare]
    constructor
    · rintro ⟨hne, _, ⟨⟩, service, hfind, hanswer⟩
      obtain ⟨data, hdata⟩ :=
        RegisteredService.prepared_iff_verified.mpr hanswer
      exact ⟨data, hne, t, rfl, service, hfind, hdata⟩
    · rintro ⟨data, hne, _, ⟨⟩, service, hfind, hdata⟩
      exact ⟨hne, t, rfl, service, hfind,
        RegisteredService.prepared_iff_verified.mp ⟨data, hdata⟩⟩
  · intro data bytes h
    obtain ⟨hserve, hencodes⟩ := hp.encodes_of_prepared h
    rw [hprepare] at hserve
    simp only [Server.Answer.handled.injEq, Operation.attestation.injEq,
      and_true] at hserve
    exact ⟨hserve.symm, hencodes⟩

/-- A booted process has one service for each attestation type of its source
and no other, and whatever request reaches an attestation route with a body is
answered by the service of the route. -/
theorem routes_answer (hp : Booted b lib getenv env p)
    {router : Server.Router} (hrouter : p.server.MatchesRoutes router) :
    p.services.map RegisteredService.attestationType =
        sourceAttestationTypes env.sourceID ∧
    ∀ req t endpoint, p.server.serve router req =
        .handled (.attestation t endpoint) →
      ∃ service ∈ p.services, service.attestationType = t ∧
        (∀ other ∈ p.services, other.attestationType = t →
          other = service) ∧
        ∀ (J : Type) (w : World J) body, body.requestBody ≠ [] →
          (endpoint = .verify → p.verify router w req body =
            some (service.verify w body)) ∧
          (endpoint = .prepareResponseBody →
            p.prepareResponseBody router w req body =
              some (service.prepareResponseBody w body)) := by
  refine ⟨hp.services, ?_⟩
  intro req t endpoint hserve
  obtain ⟨service, hservice, rfl, hfind⟩ :=
    hp.exists_service hrouter hserve
  refine ⟨service, hservice, rfl,
    fun other hother => hp.service_unique hservice hother, ?_⟩
  intro J w body hne
  constructor
  · rintro rfl
    exact Process.verify_eq_some_iff.mpr
      ⟨hne, _, hserve, service, hfind, rfl⟩
  · rintro rfl
    exact Process.prepareResponseBody_eq_some_iff.mpr
      ⟨hne, _, hserve, service, hfind, rfl⟩

end Booted

deriving instance DecidableEq for AttestationResponseData

namespace SmallLedgerProcess

def prepareRequest : Server.Request where
  method := "POST"
  target := textBytes
    "/verifier/testxrp/coston/PMWMultisigAccountConfigured/prepareResponseBody"
  apiKey := textBytes "0123456789abcdef"

theorem serve_prepareRequest :
    process.server.serve process.server.literalRouter prepareRequest =
      .handled
        (.attestation .pmwMultisigAccountConfigured .prepareResponseBody) := by
  decide

/-- What the process prepares for the account in the given world. -/
def prepared (w : World Unit) : Option (Panicking
    (Except HTTPError (AttestationResponseData ResponseData))) :=
  process.prepareResponseBody process.server.literalRouter w prepareRequest
    (verifyBody .pmwMultisigAccountConfigured)

/-- The account is configured. -/
def Prepared (w : World Unit) : Prop :=
  ∃ bytes, prepared w =
    some (.ok (.ok ⟨.pmwMultisigAccountConfigured ⟨.ok, 42⟩, bytes⟩))

open SmallProcess in
theorem prepared_world : Prepared world :=
  ⟨abiEncode (multisigResponseValues ⟨.ok, 42⟩), by decide +kernel⟩

end SmallLedgerProcess

open SmallLedgerProcess in
theorem served_responses_multisig :
    ∃ data bytes, prepared world = some (.ok (.ok ⟨data, bytes⟩)) ∧
      data.attestationType = .pmwMultisigAccountConfigured ∧
      SmallProcess.library.Encodes bytes data := by
  have hserve : process.server.serve process.server.literalRouter
      (verifyRequest AttestationType.pmwMultisigAccountConfigured.text) =
        .handled (.attestation .pmwMultisigAccountConfigured .verify) := by
    decide +kernel
  obtain ⟨bytes, h⟩ := verified_multisig
  obtain ⟨-, hsame, hencodes⟩ := served_responses booted hserve
    serve_prepareRequest world (verifyBody .pmwMultisigAccountConfigured)
  obtain ⟨data, hdata⟩ := (hsame bytes).mp h
  exact ⟨data, bytes, hdata, hencodes data bytes hdata⟩

open SmallLedgerProcess in
theorem routes_answer_multisig : ∃ service ∈ process.services,
    service.attestationType = .pmwMultisigAccountConfigured ∧
      prepared world = some (service.prepareResponseBody world
        (verifyBody .pmwMultisigAccountConfigured)) := by
  obtain ⟨service, hservice, htype, -, hanswers⟩ := (routes_answer booted
    (Server.matchesRoutes_literalRouter _)).2 _ _ _ serve_prepareRequest
  exact ⟨service, hservice, htype, (hanswers Unit world _
    (List.cons_ne_nil _ _)).2 rfl⟩

end VerifierApi

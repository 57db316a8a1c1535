import VerifierApi.ServedRequests

/-!
# Prepared requests

`prepareRequestBody` checks and encodes the data of a request, so that a
client can send the bytes on to `verify`.  The bytes are decoded to the data
they were prepared from, whatever happens in between, and what a preparation
refuses is what the verification of the same data rejects as invalid.
-/

namespace VerifierApi

/-! ## The endpoint -/

/-- A request with decoded data. -/
structure AttestationRequestData (S : Type) where
  attestationType : Hash
  sourceID : Hash
  requestData : S

section Endpoint

variable {S T : Type}

def encodeRequest (config : LoadedConfig S T) (data : S) :
    Except GoError (List UInt8) :=
  (config.abiEncodeRequest data).mapError
    fun err : ExternalError => .wrapf "encoding request data failed" err

def prepareRequestBody (toInternal : S → Except GoError S)
    (body : AttestationRequestData S) (config : LoadedConfig S T) :
    Except GoError (List UInt8) := do
  let requestData ← (toInternal body.requestData).mapError fun err =>
    ErrorValue.wrapf "converting request body to data failed" err
  encodeRequest config requestData

end Endpoint

namespace Handlers

variable {J : Type} (h : Handlers J)

/-- The endpoint `prepareRequestBody`; the framework refuses data which its
tags do not allow. -/
def prepareRequestBodyEndpoint (isURL : String → Bool)
    (body : AttestationRequestData h.S) :
    Except HTTPError (List UInt8) := do
  ensure (h.validStruct isURL body.requestData = true)
    ⟨422, "validation failed"⟩
  (validateSystemAndRequestAttestationNameAndSourceID
    h.config.toEncodedAndABI body.attestationType.hex
    body.sourceID.hex).mapError fun _ => ⟨400, "Request validation failed"⟩
  (prepareRequestBody h.toInternal body h.config).mapError
    fun _ => ⟨400, "Prepare request failed"⟩

/-- The envelope for the outcome of a verification. -/
def envelope (w : World J) (data : h.S) : VerifierResponse :=
  match h.verifier w data with
  | .error err =>
      ⟨(classifyVerifyStatus err).1, [], (classifyVerifyStatus err).2⟩
  | .ok responseData =>
      match encodeResponse h.config.toEncodedAndABI responseData with
      | .error _ => retryResponse "response encoding failed"
      | .ok encodedResponse => ⟨.verified, encodedResponse, ""⟩

end Handlers

/-! ## From the data to the envelope -/

/-- The codec reads back what it wrote. -/
structure AbiCodec.RoundTrips {S T : Type} (codec : AbiCodec S T) : Prop where
  ne_nil : ∀ data bytes, codec.encodeRequest data = .ok bytes → bytes ≠ []
  decode_encode : ∀ data bytes, codec.encodeRequest data = .ok bytes →
    codec.decodeRequest bytes = .ok data

structure ConfigLibrary.RoundTrips (lib : ConfigLibrary) : Prop where
  availabilityCheck : ∀ codec, lib.availabilityCheckABI = .ok codec →
    codec.RoundTrips
  paymentStatus : ∀ codec, lib.paymentStatusABI = .ok codec →
    codec.RoundTrips
  multisig : ∀ codec, lib.multisigABI = .ok codec → codec.RoundTrips
  feeProof : ∀ codec, lib.feeProofABI = .ok codec → codec.RoundTrips

namespace Handlers

variable {J : Type} {h : Handlers J}

theorem verify_of_decoded {w : World J} {request : AttestationRequest}
    {data : h.S} (hnames : Names h.config.toEncodedAndABI request)
    (hdecode : h.config.abiDecodeRequestData request.requestBody =
      .ok data) : h.verify w request = h.envelope w data := by
  rw [names_iff] at hnames
  simp only [verify, verifyEndpoint, hnames, decodeRequest, hdecode,
    Except.mapError, envelope]
  cases h.verifier w data with
  | error err => rfl
  | ok responseData => rfl

theorem prepareRequestBodyEndpoint_eq_ok_iff {isURL : String → Bool}
    {body : AttestationRequestData h.S} {bytes : List UInt8} :
    h.prepareRequestBodyEndpoint isURL body = .ok bytes ↔
      h.validStruct isURL body.requestData = true ∧
      Names h.config.toEncodedAndABI
        ⟨body.attestationType, body.sourceID, bytes⟩ ∧
      ∃ data, h.toInternal body.requestData = .ok data ∧
        h.config.abiEncodeRequest data = .ok bytes := by
  simp only [prepareRequestBodyEndpoint, prepareRequestBody, encodeRequest,
    bind_eq_ok, ensure_eq_ok, mapError_eq_ok, exists_const, names_iff]
  constructor
  · rintro ⟨hstruct, ⟨⟩, hnames, data, hdata, hbytes⟩
    exact ⟨hstruct, hnames, data, hdata, hbytes⟩
  · rintro ⟨hstruct, hnames, data, hdata, hbytes⟩
    exact ⟨hstruct, (), hnames, data, hdata, hbytes⟩

theorem prepareRequestBodyEndpoint_refused_iff {isURL : String → Bool}
    {body : AttestationRequestData h.S} :
    h.prepareRequestBodyEndpoint isURL body =
        .error ⟨400, "Prepare request failed"⟩ ↔
      h.validStruct isURL body.requestData = true ∧
      Names h.config.toEncodedAndABI
        ⟨body.attestationType, body.sourceID, []⟩ ∧
      ¬ ∃ data bytes, h.toInternal body.requestData = .ok data ∧
        h.config.abiEncodeRequest data = .ok bytes := by
  have hprepared : (∃ data bytes,
      h.toInternal body.requestData = .ok data ∧
        h.config.abiEncodeRequest data = .ok bytes) ↔
      ∃ bytes, prepareRequestBody h.toInternal body h.config = .ok bytes := by
    simp only [prepareRequestBody, encodeRequest, bind_eq_ok, mapError_eq_ok]
    exact exists_comm
  rw [hprepared, names_iff]
  simp only [prepareRequestBodyEndpoint, bind_eq_error, ensure_eq_error,
    ensure_eq_ok, mapError_eq_error, mapError_eq_ok]
  constructor
  · rintro (⟨-, h422⟩ | ⟨-, hstruct, ⟨_, -, hnames⟩ | ⟨⟨⟩, hnames, err, herr,
      -⟩⟩)
    · exact absurd h422 (by simp)
    · exact absurd hnames (by simp)
    · refine ⟨hstruct, hnames, ?_⟩
      rintro ⟨bytes, hbytes⟩
      rw [herr] at hbytes
      cases hbytes
  · rintro ⟨hstruct, hnames, hfails⟩
    rcases exists_ok_or_error (prepareRequestBody h.toInternal body h.config)
      with hok | ⟨err, herr⟩
    · exact absurd hok hfails
    · exact .inr ⟨(), hstruct, .inr ⟨(), hnames, err, herr, trivial⟩⟩

end Handlers

/-- Only the conversion of signer lists checks anything, and it keeps the
data. -/
theorem RegisteredService.eq_of_toInternal {J : Type}
    {service : RegisteredService}
    {data data' : (service.handlers (J := J)).S}
    (h : service.handlers.toInternal data = .ok data') : data' = data := by
  cases service with
  | teeAvailabilityCheck cfg client => exact (Except.ok.inj h).symm
  | pmwPaymentStatus service => exact (Except.ok.inj h).symm
  | pmwMultisigAccountConfigured cfg =>
      obtain ⟨-, -, hdata⟩ := bind_eq_ok.mp h
      exact (Except.ok.inj hdata).symm
  | pmwFeeProof service => exact (Except.ok.inj h).symm

theorem ServiceLoads.roundTrips {J : Type} {b : Backends}
    {lib : ConfigLibrary} {env : EnvConfig} {n : ℕ}
    {service : RegisteredService} (h : ServiceLoads b lib env n service)
    (hlib : lib.RoundTrips) {data : (service.handlers (J := J)).S}
    {bytes : List UInt8}
    (hbytes : service.handlers.config.abiEncodeRequest data = .ok bytes) :
    bytes ≠ [] ∧
      service.handlers.config.abiDecodeRequestData bytes = .ok data := by
  cases h with
  | teeAvailabilityCheck cfg hconfig hloads =>
      obtain ⟨-, _, codec, _, _, _, -, hcodec, -, -, -, rfl⟩ :=
        buildTeeAvailabilityCheckConfig_eq_ok_iff.mp hconfig
      have hlaw := hlib.availabilityCheck codec hcodec
      exact ⟨hlaw.ne_nil _ _ hbytes, hlaw.decode_encode _ _ hbytes⟩
  | pmwPaymentStatus cfg hconfig hloads =>
      obtain ⟨-, _, codec, _, -, hcodec, -, rfl⟩ :=
        buildPMWConfig_eq_ok_iff.mp hconfig
      have hlaw := hlib.paymentStatus codec hcodec
      exact ⟨hlaw.ne_nil _ _ hbytes, hlaw.decode_encode _ _ hbytes⟩
  | pmwMultisigAccountConfigured cfg hconfig hsource hnetwork =>
      obtain ⟨-, -, _, codec, -, hcodec, rfl⟩ :=
        buildPMWMultisigAccountConfiguredConfig_eq_ok_iff.mp hconfig
      have hlaw := hlib.multisig codec hcodec
      exact ⟨hlaw.ne_nil _ _ hbytes, hlaw.decode_encode _ _ hbytes⟩
  | pmwFeeProof cfg hconfig hloads =>
      obtain ⟨-, _, codec, _, -, hcodec, -, rfl⟩ :=
        buildPMWConfig_eq_ok_iff.mp hconfig
      have hlaw := hlib.feeProof codec hcodec
      exact ⟨hlaw.ne_nil _ _ hbytes, hlaw.decode_encode _ _ hbytes⟩

/-! ## A process of a ledger -/

namespace SmallLedgerProcess

open Environment

def getenv : Getenv := fun name =>
  if name = envPort then "8080"
  else if name = envSourceID then "testXRP"
  else if name = envAPIKeys then "0123456789abcdef"
  else if name = envDestinationChainURLSlug then "coston"
  else if name = envSourceRPCURL then "http://127.0.0.1:51234"
  else if name = envFlareRPCURL then "http://127.0.0.1:9650"
  else if name = envFlareTeeManagerContractAddress then nextRelayText
  else if name = envTeePaymentsContractAddress then nextRelayText
  else if name = envSourceDatabaseURL then "host=127.0.0.1 dbname=indexer"
  else if name = envCChainDatabaseURL then "indexer@tcp(127.0.0.1)/indexer"
  else ""

def env : EnvConfig where
  relayCutoverContractAddress := ""
  relayCutoverStartingRewardEpoch := ""
  sourceRPCURL := "http://127.0.0.1:51234"
  flareRPCURL := "http://127.0.0.1:9650"
  relayContractAddress := ""
  flareTeeManagerContractAddress := nextRelayText
  teePaymentsContractAddress := nextRelayText
  sourceDatabaseURL := "host=127.0.0.1 dbname=indexer"
  cChainDatabaseURL := "indexer@tcp(127.0.0.1)/indexer"
  allowTeeDebug := ""
  disableAttestationCheckE2E := ""
  allowPrivateNetworks := ""
  teeAudience := ""
  chainID := ""
  destinationChainURLSlug := "coston"
  sourceURLSlug := ""
  port := "8080"
  apiKeys := ["0123456789abcdef"]
  attestationType := none
  attestationTypes := sourceAttestationTypes .testXRP
  sourceID := .testXRP

theorem loadEnvConfig_getenv : loadEnvConfig getenv = .ok env :=
  loadEnvConfig_eq_ok_iff.mpr ⟨by decide, by decide, by decide, rfl⟩

def deployment : Deployment where
  source := .testXRP
  sourceSlug := ⟨"testxrp", by decide⟩
  destinationSlug := ⟨"coston", by decide⟩

open SmallProcess in
def process : Process :=
  .start backends library env deployment

open SmallProcess in
theorem booted : Booted backends library getenv env process :=
  .start loadEnvConfig_getenv (by decide) rfl (by decide) rfl

def multisigConfig : PMWMultisigAccountConfig where
  toLoadedConfig := env.loadedConfig .pmwMultisigAccountConfigured "testxrp"
    SmallProcess.multisigCodec
  sourceRPCURL := "http://127.0.0.1:51234"

theorem find_multisig : process.find .pmwMultisigAccountConfigured =
    some (.pmwMultisigAccountConfigured multisigConfig) := rfl

theorem codec_roundTrips {S T : Type} [DecidableEq S] {request : S}
    {requestValues : S → List AbiValue} {responseValues : T → List AbiValue}
    (hne : requestValues request ≠ []) :
    (SmallProcess.codec request requestValues responseValues).RoundTrips := by
  have hencode : ∀ data bytes, (SmallProcess.codec request requestValues
      responseValues).encodeRequest data = .ok bytes →
        data = request ∧ bytes = abiEncode (requestValues request) := by
    intro data bytes h
    simp only [SmallProcess.codec] at h
    split_ifs at h with hdata
    exact ⟨hdata, (Except.ok.inj h).symm⟩
  constructor
  · intro data bytes h
    obtain ⟨-, rfl⟩ := hencode data bytes h
    exact abiEncode_ne_nil hne
  · intro data bytes h
    obtain ⟨rfl, rfl⟩ := hencode data bytes h
    simp [SmallProcess.codec]

theorem library_roundTrips : SmallProcess.library.RoundTrips where
  availabilityCheck _ h :=
    Except.ok.inj h ▸ codec_roundTrips (List.cons_ne_nil _ _)
  paymentStatus _ h :=
    Except.ok.inj h ▸ codec_roundTrips (List.cons_ne_nil _ _)
  multisig _ h := Except.ok.inj h ▸ codec_roundTrips (List.cons_ne_nil _ _)
  feeProof _ h := Except.ok.inj h ▸ codec_roundTrips (List.cons_ne_nil _ _)

def request : Server.Request where
  method := "POST"
  target := textBytes
    "/verifier/testxrp/coston/PMWMultisigAccountConfigured/verify"
  apiKey := textBytes "0123456789abcdef"

theorem serve_request :
    process.server.serve process.server.literalRouter request =
      .handled (.attestation .pmwMultisigAccountConfigured .verify) := by
  decide

def body : AttestationRequestData Multisig.RequestBody :=
  ⟨AttestationType.pmwMultisigAccountConfigured.encoded,
    SourceID.testXRP.encoded, Multisig.twoKeyRequest⟩

end SmallLedgerProcess

/-! ## Prepared at a process -/

/-- What was prepared is verified as the data it was prepared from, under
whatever key, path and outside world, and nothing else is prepared to the
same bytes. -/
theorem prepared_is_verified {J : Type} {b : Backends} {lib : ConfigLibrary}
    {getenv : Environment.Getenv} {env : EnvConfig} {p : Process}
    (hp : Booted b lib getenv env p) (hlib : lib.RoundTrips)
    {t : AttestationType} {service : RegisteredService}
    (hfind : p.find t = some service) {isURL : String → Bool}
    {body : AttestationRequestData (service.handlers (J := J)).S}
    {bytes : List UInt8}
    (hprepared : service.handlers.prepareRequestBodyEndpoint isURL body =
      .ok bytes) :
    (∀ (w : World J) router req,
      p.server.serve router req = .handled (.attestation t .verify) →
      p.verify router w req ⟨body.attestationType, body.sourceID, bytes⟩ =
        some (service.handlers.envelope w body.requestData)) ∧
    ∀ (isURL' : String → Bool)
      (body' : AttestationRequestData (service.handlers (J := J)).S),
      service.handlers.prepareRequestBodyEndpoint isURL' body' = .ok bytes →
        body' = body := by
  obtain ⟨htype, n, hloads⟩ := hp.serviceLoads hfind
  have hread : ∀ (isURL : String → Bool)
      (body : AttestationRequestData (service.handlers (J := J)).S),
      service.handlers.prepareRequestBodyEndpoint isURL body = .ok bytes →
      Names (service.handlers (J := J)).config.toEncodedAndABI
          ⟨body.attestationType, body.sourceID, bytes⟩ ∧
        bytes ≠ [] ∧ (service.handlers (J := J)).config.abiDecodeRequestData
          bytes = .ok body.requestData := by
    intro isURL body h
    obtain ⟨-, hnames, data, hdata, hbytes⟩ :=
      Handlers.prepareRequestBodyEndpoint_eq_ok_iff.mp h
    obtain rfl := RegisteredService.eq_of_toInternal hdata
    exact ⟨hnames, hloads.roundTrips hlib hbytes⟩
  obtain ⟨hnames, hne, hdecode⟩ := hread isURL body hprepared
  constructor
  · intro w router req hserve
    exact Process.verify_eq_some_iff.mpr ⟨hne, t, hserve, service, hfind,
      Handlers.verify_of_decoded hnames hdecode⟩
  · intro isURL' body' hprepared'
    obtain ⟨hnames', -, hdecode'⟩ := hread isURL' body' hprepared'
    have hdata : body'.requestData = body.requestData :=
      Except.ok.inj (hdecode'.symm.trans hdecode)
    have hattestationType : body'.attestationType = body.attestationType :=
      hnames'.attestationType.trans hnames.attestationType.symm
    have hsourceID : body'.sourceID = body.sourceID :=
      hnames'.sourceID.trans hnames.sourceID.symm
    cases body
    cases body'
    simp_all

open SmallLedgerProcess in
theorem prepared_is_verified_twoKeys :
    process.verify process.server.literalRouter SmallProcess.world request
        ⟨body.attestationType, body.sourceID,
          SmallProcess.requestBytes .pmwMultisigAccountConfigured⟩ =
      some ((RegisteredService.pmwMultisigAccountConfigured
        multisigConfig).handlers.envelope SmallProcess.world
          Multisig.twoKeyRequest) := by
  have hprepared : (RegisteredService.pmwMultisigAccountConfigured
      multisigConfig).handlers.prepareRequestBodyEndpoint (J := Unit)
        (fun _ => false) body =
          .ok (SmallProcess.requestBytes .pmwMultisigAccountConfigured) :=
    rfl
  exact (prepared_is_verified booted library_roundTrips find_multisig
    hprepared).1 SmallProcess.world _ _ serve_request

/-! ## Requests for signer lists -/

theorem classifyVerifyStatus_eq_invalidRequest_iff {err : GoError} :
    (classifyVerifyStatus err).2 = "invalid request" ↔
      err.has .batchRangeTooLarge = false ∧
        err.has .reissueLimitExceeded = false ∧
        err.has .invalidRequest = true := by
  have hcases : verifyStatusCases err = (verifyStatusCases err).take 3 ++
      (verifyStatusCases err).drop 3 := (List.take_append_drop 3 _).symm
  have hrest : (switch (Status.retry, "unexpected error")
      ((verifyStatusCases err).drop 3)).2 ≠ "invalid request" := by
    apply switch_forall
      (P := fun value : Status × String => value.2 ≠ "invalid request")
    · simp
    · simp [verifyStatusCases]
  rw [classifyVerifyStatus, hcases]
  simp only [verifyStatusCases, List.take_succ_cons, List.take_zero,
    List.cons_append, List.nil_append, switch_cons]
  cases err.has .batchRangeTooLarge <;>
    cases err.has .reissueLimitExceeded <;>
    cases err.has .invalidRequest <;> simp
  exact hrest

namespace Multisig.XRPVerifier

variable {x : XRPVerifier} {reads : Reads} {req : RequestBody}

/-- Only the shape of a request makes it invalid. -/
theorem verify_fails_of_wellFormed (hshape : ¬ Malformed req) :
    FailsWith (fun err => .invalidRequest ∉ err.sentinels)
      (x.verify reads req) := by
  have hfault : ∀ err, NodeFault err → .invalidRequest ∉ err.sentinels := by
    intro err h hmem
    simpa using h _ hmem
  have hvalid : validateMultisigRequest req.publicKeys req.threshold =
      .ok () := not_not.mp (mt malformed_iff.mpr hshape)
  unfold verify
  rw [hvalid]
  refine FailsWith.bind (FailsWith.ok _) fun _ _ => ?_
  refine FailsWith.bind ((ensureNetworkVerified_fails _ _).mono hfault)
    fun _ _ => ?_
  refine FailsWith.bind ?_ fun accountInfo _ => ?_
  · refine FailsWith.bind ?_ fun result _ => ?_
    · refine FailsWith.mapError_of_forall fun err => ?_
      simp [errFetchAccountInfo]
    · refine FailsWith.ensure_bind ?_ fun _ => .ok _
      unfold rpcStatusError
      split
      · simp [errRPCTransient]
      · simp [errRPCNonSuccess]
  · split
    next => exact FailsWith.ok _
    next => exact FailsWith.ok _

theorem verify_of_malformed_message (hmalformed : Malformed req) :
    ∃ err, x.verify reads req = .error err ∧
      classifyVerifyStatus err = (.rejected, "invalid request") := by
  obtain ⟨err, herr, hinvalid⟩ : ∃ err, x.verify reads req = .error err ∧
      err.has .invalidRequest = true := verify_of_malformed hmalformed
  rw [has_eq, decide_eq_true_eq] at hinvalid
  refine ⟨err, herr, ?_⟩
  rcases x.verify_fails reads req err herr with ⟨s, -, hs⟩ | hfault
  · obtain rfl : .invalidRequest = s := by simpa [hs] using hinvalid
    simp [classifyVerifyStatus, verifyStatusCases, switch_cons, has_eq, hs]
  · simpa using hfault _ hinvalid

end Multisig.XRPVerifier

theorem Multisig.RequestBody.toInternal_eq_ok_iff
    {req data : Multisig.RequestBody} :
    req.toInternal = .ok data ↔
      ¬ Multisig.XRPVerifier.Malformed req ∧ data = req := by
  simp only [toInternal, bind_eq_ok, Multisig.XRPVerifier.malformed_iff,
    not_not, Except.ok.injEq, eq_comm (a := req)]
  constructor
  · rintro ⟨⟨⟩, hvalid, rfl⟩
    exact ⟨hvalid, rfl⟩
  · rintro ⟨hvalid, rfl⟩
    exact ⟨(), hvalid, rfl⟩

/-- Of the tags, only the address is checked nowhere else. -/
theorem Multisig.RequestBody.validStruct_iff {req : Multisig.RequestBody}
    (hshape : ¬ Multisig.XRPVerifier.Malformed req) :
    req.validStruct = true ↔ req.accountAddress ≠ "" := by
  simp only [Multisig.XRPVerifier.Malformed, not_or] at hshape
  obtain ⟨hkeys, -, -, -, hthreshold⟩ := hshape
  have hlength : 1 ≤ req.publicKeys.length :=
    List.length_pos_iff.mpr hkeys
  have hone : 1 ≤ req.threshold := by
    have hpos : req.threshold.toNat ≠ 0 :=
      fun hzero => hthreshold (UInt64.toNat_inj.mp hzero)
    rw [UInt64.le_iff_toNat_le]
    have hunit : (1 : UInt64).toNat = 1 := rfl
    omega
  simp [validStruct, hlength, hone]

/-- The envelope tells a malformed request from all others. -/
theorem Multisig.envelope_spec {J : Type} (cfg : PMWMultisigAccountConfig)
    (w : World J) (req : Multisig.RequestBody) :
    let answer := (RegisteredService.pmwMultisigAccountConfigured
      cfg).handlers.envelope w req
    (Multisig.XRPVerifier.Malformed req →
      answer = rejectedResponse "invalid request") ∧
    (answer.message = "invalid request" →
      Multisig.XRPVerifier.Malformed req) := by
  constructor
  · intro hmalformed
    obtain ⟨err, herr, hclass⟩ : ∃ err,
        (cfg.verifier w).verify w.multisigReads req = .error err ∧ _ :=
      Multisig.XRPVerifier.verify_of_malformed_message hmalformed
    simp [Handlers.envelope, RegisteredService.handlers, herr, hclass,
      rejectedResponse]
  · intro hmessage
    by_contra hshape
    have hfails : FailsWith _
        ((cfg.verifier w).verify w.multisigReads req) :=
      Multisig.XRPVerifier.verify_fails_of_wellFormed hshape
    cases houtcome : (cfg.verifier w).verify w.multisigReads req with
    | error err =>
        simp only [Handlers.envelope, RegisteredService.handlers, houtcome]
          at hmessage
        obtain ⟨-, -, hinvalid⟩ :=
          classifyVerifyStatus_eq_invalidRequest_iff.mp hmessage
        rw [has_eq, decide_eq_true_eq] at hinvalid
        exact hfails err houtcome hinvalid
    | ok response =>
        simp only [Handlers.envelope, RegisteredService.handlers, houtcome]
          at hmessage
        split at hmessage <;> simp [retryResponse] at hmessage

/-- The preparation and the verification judge the shape of a request by the
same checks: what is prepared is never rejected as invalid, and what the
preparation refuses for its shape is rejected so when its encoding is sent to
`verify` directly. -/
theorem multisig_paths_agree {J : Type} {b : Backends} {lib : ConfigLibrary}
    {getenv : Environment.Getenv} {env : EnvConfig} {p : Process}
    (hp : Booted b lib getenv env p) (hlib : lib.RoundTrips)
    {cfg : PMWMultisigAccountConfig}
    (hfind : p.find .pmwMultisigAccountConfigured =
      some (.pmwMultisigAccountConfigured cfg))
    {req : Multisig.RequestBody} {bytes : List UInt8}
    (hbytes : cfg.abiEncodeRequest req = .ok bytes) :
    let t := AttestationType.pmwMultisigAccountConfigured
    let h : Handlers J :=
      (RegisteredService.pmwMultisigAccountConfigured cfg).handlers
    let malformed := Multisig.XRPVerifier.Malformed req
    (∀ isURL,
      let prepared := h.prepareRequestBodyEndpoint isURL
        ⟨t.encoded, env.sourceID.encoded, req⟩
      (prepared = .ok bytes ↔ req.accountAddress ≠ "" ∧ ¬ malformed) ∧
      (prepared = .error ⟨400, "Prepare request failed"⟩ ↔
        req.validStruct = true ∧ malformed)) ∧
    ∀ (w : World J) router request,
      p.server.serve router request = .handled (.attestation t .verify) →
      ∃ answer,
        p.verify router w request
          ⟨t.encoded, env.sourceID.encoded, bytes⟩ = some answer ∧
        (malformed → answer = rejectedResponse "invalid request") ∧
        (answer.message = "invalid request" → malformed) := by
  intro t h malformed
  obtain ⟨-, n, hloads⟩ := hp.serviceLoads hfind
  have hnames : ∀ requestBody, Names h.config.toEncodedAndABI
      ⟨t.encoded, env.sourceID.encoded, requestBody⟩ :=
    fun _ => hloads.names_iff.mpr ⟨rfl, rfl⟩
  obtain ⟨hne, hdecode⟩ := hloads.roundTrips (J := J) hlib hbytes
  have hconvert : ∀ data, h.toInternal req = .ok data ↔
      ¬ malformed ∧ data = req :=
    fun _ => Multisig.RequestBody.toInternal_eq_ok_iff
  refine ⟨fun isURL => ⟨?_, ?_⟩, ?_⟩
  · rw [Handlers.prepareRequestBodyEndpoint_eq_ok_iff]
    constructor
    · rintro ⟨hstruct, -, data, hdata, -⟩
      obtain ⟨hshape, -⟩ := (hconvert data).mp hdata
      exact ⟨(Multisig.RequestBody.validStruct_iff hshape).mp hstruct,
        hshape⟩
    · rintro ⟨haddress, hshape⟩
      exact ⟨(Multisig.RequestBody.validStruct_iff hshape).mpr haddress,
        hnames bytes, req, (hconvert req).mpr ⟨hshape, rfl⟩, hbytes⟩
  · rw [Handlers.prepareRequestBodyEndpoint_refused_iff]
    constructor
    · rintro ⟨hstruct, -, hfails⟩
      refine ⟨hstruct, by_contra fun hshape => hfails ?_⟩
      exact ⟨req, bytes, (hconvert req).mpr ⟨hshape, rfl⟩, hbytes⟩
    · rintro ⟨hstruct, hmalformed⟩
      refine ⟨hstruct, hnames [], ?_⟩
      rintro ⟨data, _, hdata, -⟩
      exact ((hconvert data).mp hdata).1 hmalformed
  · intro w router request hserve
    have hrun := Handlers.verify_of_decoded (w := w) (hnames bytes) hdecode
    exact ⟨_, Process.verify_eq_some_iff.mpr
      ⟨hne, t, hserve, _, hfind, hrun⟩, Multisig.envelope_spec cfg w req⟩

open SmallLedgerProcess in
theorem multisig_paths_agree_twoKeys :
    ∃ answer, process.verify process.server.literalRouter SmallProcess.world
        request ⟨body.attestationType, body.sourceID,
          SmallProcess.requestBytes .pmwMultisigAccountConfigured⟩ =
            some answer ∧
      answer.message ≠ "invalid request" := by
  have hbytes : multisigConfig.abiEncodeRequest Multisig.twoKeyRequest =
      .ok (SmallProcess.requestBytes .pmwMultisigAccountConfigured) := rfl
  obtain ⟨-, hverify⟩ := multisig_paths_agree (J := Unit) booted
    library_roundTrips find_multisig hbytes
  obtain ⟨answer, hanswer, -, hmessage⟩ :=
    hverify SmallProcess.world _ request serve_request
  refine ⟨answer, hanswer, fun h => ?_⟩
  rcases hmessage h with hkeys | hkeys | hkeys | hkeys | hthreshold
  · exact absurd hkeys (List.cons_ne_nil _ _)
  · exact absurd hkeys (by decide)
  · exact absurd hkeys (by decide)
  · exact absurd hkeys (by decide)
  · exact absurd hthreshold (by decide)

end VerifierApi

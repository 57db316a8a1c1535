import VerifierApi.IndexerReplicas
import VerifierApi.PreparedRequests

/-!
# Processes of a ledger

A process of a ledger verifies a body exactly when its databases and its node
show what the body asks for, under the manager contract and the source of its
settings.  Processes whose databases were indexed from one ledger never
verify one body with different bytes, however they are configured otherwise.
-/

namespace VerifierApi

/-! ## What the outside shows -/

/-- The payment is settled by the only row under the sequence of its only
event, and that sequence is the assigned one. -/
structure PaymentStatus.Shown (x : XRPVerifier) (reads : Reads)
    (req : RequestBody) (response : ResponseBody) : Prop where
  instructionFault : reads.instructionFault = none
  transactionFault : reads.transactionFault = none
  settled : ∃ event : x.PayEvent req.opType req.senderAddress req.paymentId,
    (∃ initial, reads.initialNonce = .ok initial ∧
      AssignedSequence initial req.paymentId event.message.nonce) ∧
    ∃ tx, x.repo.transactionRows req.senderAddress event.message.nonce =
        [tx] ∧
      Settles x.library event.message tx response

/-- Every payment of the batch has its estimate and its row. -/
structure FeeProof.Shown (x : XRPVerifier) (reads : Reads)
    (req : RequestBody) (response : ResponseBody) : Prop where
  range : req.ValidRange
  payEventsFault : reads.payEventsFault = none
  transactionsFault : reads.transactionsFault = none
  settled : ∃ evaluation : Evaluation,
    List.Forall₂ (fun paymentId estimate => ∃ event,
      x.Estimates reads req paymentId estimate event)
      req.paymentIDs evaluation.payments ∧
    List.Forall₂ (fun (payment : PaymentEstimate) row =>
      x.Pays req payment.sequence row)
      evaluation.payments evaluation.rows ∧
    response = {
      lastPaymentId := req.firstPaymentId + req.batchCount - 1
      actualFee := evaluation.actualFee
      estimatedFee := evaluation.estimatedFee }

/-- The node answers for the account, whose configuration decides. -/
structure Multisig.Shown (x : XRPVerifier) (reads : Reads)
    (req : RequestBody) (response : ResponseBody) : Prop where
  wellFormed : ¬ XRPVerifier.Malformed req
  network : ensureNetworkVerified x.sourceID reads = .ok ()
  answered : ∃ info, reads.accountInfo = .ok info ∧
    info.status = "success" ∧
    (x.Configured info req ∧
        response = ⟨.ok, info.accountData.sequence⟩ ∨
      ¬ x.Configured info req ∧ response = ⟨.error, 0⟩)

theorem PaymentStatus.verify_eq_ok_iff_shown {x : XRPVerifier}
    {reads : Reads} {req : RequestBody} {response : ResponseBody} :
    x.verify reads req = .ok response ↔ Shown x reads req response := by
  rw [XRPVerifier.verify_eq_ok_iff]
  constructor
  · rintro ⟨hlogFault, htxFault, hsettled⟩
    exact ⟨hlogFault, htxFault, hsettled⟩
  · rintro ⟨hlogFault, htxFault, hsettled⟩
    exact ⟨hlogFault, htxFault, hsettled⟩

theorem FeeProof.verify_eq_ok_iff_shown {source : PmwSource} {reads : Reads}
    {req : RequestBody} {response : ResponseBody}
    (hkeep : KeepsInstructionTopic
      source.repo.convertDatabaseLogToChainLog) :
    (newXRPVerifier source).verify reads req = .ok response ↔
      Shown (newXRPVerifier source) reads req response := by
  have hkeepFees : KeepsInstructionTopic
      (newXRPVerifier source).repo.convertDatabaseLogToChainLog := hkeep
  simp only [XRPVerifier.verify_eq_ok_iff,
    XRPVerifier.evaluate_eq_ok_iff hkeepFees,
    XRPVerifier.validateBatchRange_eq_ok_iff]
  constructor
  · rintro ⟨evaluation, ⟨hrange, hpayFault, htxFault, hestimates, hrows⟩,
      hresponse⟩
    exact ⟨hrange, hpayFault, htxFault,
      ⟨evaluation, hestimates, hrows, hresponse⟩⟩
  · rintro ⟨hrange, hpayFault, htxFault,
      ⟨evaluation, hestimates, hrows, hresponse⟩⟩
    exact ⟨evaluation, ⟨hrange, hpayFault, htxFault, hestimates, hrows⟩,
      hresponse⟩

/-- No answer of the node lists a signer twice. -/
def Multisig.Reads.DistinctSigners (reads : Reads) : Prop :=
  ∀ info, reads.accountInfo = .ok info →
    ∀ signerList, info.HasSignerList signerList → signerList.accounts.Nodup

theorem Multisig.verify_eq_ok_iff_shown {x : XRPVerifier} {reads : Reads}
    {req : RequestBody} {response : ResponseBody}
    (hdistinct : reads.DistinctSigners) :
    x.verify reads req = .ok response ↔ Shown x reads req response := by
  constructor
  · intro h
    have hshape := XRPVerifier.not_malformed_of_verify h
    have hrun := h
    simp only [XRPVerifier.verify, fetchAccountInfo, bind_eq_ok,
      mapError_eq_ok, ensure_eq_ok, exists_unit, Except.ok.injEq] at hrun
    obtain ⟨-, hnetwork, -, ⟨info, hinfo, hstatus, -⟩, -⟩ := hrun
    obtain ⟨hok, hother⟩ := XRPVerifier.verify_of_wellFormed hshape hnetwork
      hinfo hstatus (hdistinct info hinfo)
    refine ⟨hshape, hnetwork, info, hinfo, hstatus, ?_⟩
    by_cases hconfigured : x.Configured info req
    · have hresponse := (hok info.accountData.sequence).mpr
        ⟨hconfigured, rfl⟩
      exact .inl ⟨hconfigured, Except.ok.inj (h.symm.trans hresponse)⟩
    · have hresponse := hother hconfigured
      exact .inr ⟨hconfigured, Except.ok.inj (h.symm.trans hresponse)⟩
  · rintro ⟨hshape, hnetwork, info, hinfo, hstatus, hverdict⟩
    obtain ⟨hok, hother⟩ := XRPVerifier.verify_of_wellFormed hshape hnetwork
      hinfo hstatus (hdistinct info hinfo)
    rcases hverdict with ⟨hconfigured, rfl⟩ | ⟨hconfigured, rfl⟩
    · exact (hok _).mpr ⟨hconfigured, rfl⟩
    · exact hother hconfigured

/-! ## What a process verifies -/

/-- On its route the process answers `VERIFIED` exactly when the body has
data, names the type and the source, decodes to a request, and what is shown
for that request is encoded to the bytes. -/
def Process.VerifiesShown {J S T : Type} (p : Process) (w : World J)
    (source : SourceID) (t : AttestationType) (codec : AbiCodec S T)
    (shown : S → T → Prop) : Prop :=
  ∀ router req body bytes,
    p.server.serve router req = .handled (.attestation t .verify) →
    (p.verify router w req body = some ⟨.verified, bytes, ""⟩ ↔
      body.requestBody ≠ [] ∧ body.attestationType = t.encoded ∧
      body.sourceID = source.encoded ∧ ∃ data response,
        codec.decodeRequest body.requestBody = .ok data ∧
        shown data response ∧ codec.encodeResponse response = .ok bytes)

/-- The databases and the codecs that the settings stand for. -/
def EnvConfig.pmwSource {J : Type} (env : EnvConfig) (lib : ConfigLibrary)
    (abi : TeeInstructionsABI) (w : World J) : PmwSource where
  library := w.pmwLibrary
  repo := newDBRepo w.db w.cChainDb
    (lib.addresses.hexToAddress env.flareTeeManagerContractAddress)
    w.convertDatabaseLogToChainLog
  sourceIDEncoded := env.sourceID.encoded
  parsedTeeInstructionsABI := abi

/-- The verifier of accounts that the settings stand for. -/
def EnvConfig.multisigVerifier {J : Type} (env : EnvConfig) (w : World J) :
    Multisig.XRPVerifier :=
  ⟨env.sourceID.sourceName, w.xrpAddressFromPubKey⟩

section Booted

variable {b : Backends} {lib : ConfigLibrary}
  {getenv : Environment.Getenv} {env : EnvConfig} {p : Process}

/-- A booted process answers on each of its routes as the service that was
loaded for it. -/
theorem Booted.verify_eq_verified_iff {J : Type}
    (hp : Booted b lib getenv env p) {t : AttestationType}
    {service : RegisteredService} (hfind : p.find t = some service)
    {w : World J} {router : Server.Router} {req : Server.Request}
    (hserve : p.server.serve router req = .handled (.attestation t .verify))
    {body : AttestationRequest} {bytes : List UInt8} :
    p.verify router w req body = some ⟨.verified, bytes, ""⟩ ↔
      body.requestBody ≠ [] ∧ body.attestationType = t.encoded ∧
      body.sourceID = env.sourceID.encoded ∧ ∃ data response,
        service.handlers.config.abiDecodeRequestData body.requestBody =
          .ok data ∧
        service.handlers.verifier w data = .ok response ∧
        service.handlers.config.abiEncodeData response = .ok bytes := by
  obtain ⟨rfl, n, hloads⟩ := hp.serviceLoads hfind
  rw [Process.verify_eq_verified_iff hserve hfind, hloads.names_iff,
    and_assoc]

/-- A booted process of a ledger verifies exactly the payments, the fees and
the accounts that its databases and its node show. -/
theorem ledger_process_exact (hp : Booted b lib getenv env p)
    (hsource : env.sourceID ≠ .tee) :
    ∃ abi paymentCodec feeCodec multisigCodec,
      lib.teeInstructionsABI = .ok abi ∧
      lib.paymentStatusABI = .ok paymentCodec ∧
      lib.feeProofABI = .ok feeCodec ∧
      lib.multisigABI = .ok multisigCodec ∧
      ∀ (J : Type) (w : World J),
        let source := env.pmwSource lib abi w
        p.VerifiesShown w env.sourceID .pmwPaymentStatus paymentCodec
          (PaymentStatus.Shown source w.paymentReads) ∧
        (KeepsInstructionTopic w.convertDatabaseLogToChainLog →
          p.VerifiesShown w env.sourceID .pmwFeeProof feeCodec
            (FeeProof.Shown (FeeProof.newXRPVerifier source) w.feeReads)) ∧
        (w.multisigReads.DistinctSigners →
          p.VerifiesShown w env.sourceID .pmwMultisigAccountConfigured
            multisigCodec (Multisig.Shown (env.multisigVerifier w)
              w.multisigReads)) := by
  obtain ⟨multisig, payment, fee, hservices, ⟨hmultisig, -⟩,
    ⟨hpayment, -⟩, hfee, -⟩ := ledgerServices_of_loads hsource
      (Server.servedAttestationTypes_of_loadEnvConfig hp.environment) hp.loads
  have hfind : ∀ t, p.find t = [.pmwMultisigAccountConfigured multisig,
      .pmwPaymentStatus (.at payment 1), .pmwFeeProof (.at fee 2)].find?
        fun service => service.attestationType = t := by
    intro t
    rw [Process.find, hservices]
  obtain ⟨-, slug, paymentCodec, abi, -, hpaymentCodec, habi, rfl⟩ :=
    buildPMWConfig_eq_ok_iff.mp hpayment
  obtain ⟨-, slug', feeCodec, abi', -, hfeeCodec, habi', rfl⟩ :=
    buildPMWConfig_eq_ok_iff.mp hfee
  obtain rfl : abi = abi' := Except.ok.inj (habi.symm.trans habi')
  obtain ⟨-, -, slug'', multisigCodec, -, hmultisigCodec, rfl⟩ :=
    buildPMWMultisigAccountConfiguredConfig_eq_ok_iff.mp hmultisig
  refine ⟨abi, paymentCodec, feeCodec, multisigCodec, habi, hpaymentCodec,
    hfeeCodec, hmultisigCodec, ?_⟩
  intro J w source
  refine ⟨?_, fun hkeep => ?_, fun hdistinct => ?_⟩
  · intro router req body bytes hserve
    rw [hp.verify_eq_verified_iff (hfind .pmwPaymentStatus) hserve]
    simp only [← PaymentStatus.verify_eq_ok_iff_shown]
    rfl
  · intro router req body bytes hserve
    rw [hp.verify_eq_verified_iff (hfind .pmwFeeProof) hserve]
    have hkeepSource : KeepsInstructionTopic
        source.repo.convertDatabaseLogToChainLog := hkeep
    simp only [← FeeProof.verify_eq_ok_iff_shown hkeepSource]
    rfl
  · intro router req body bytes hserve
    rw [hp.verify_eq_verified_iff (hfind .pmwMultisigAccountConfigured)
      hserve]
    simp only [← Multisig.verify_eq_ok_iff_shown hdistinct]
    rfl

end Booted

/-! ## A ledger that the sample process reads -/

namespace SmallLedgerProcess

def logRow (log : SmallLedger.SampleLog) : DbLog :=
  { SmallLedger.logRow log with
    address := "0000000000000000000000000000000000000002" }

def world : World Unit :=
  { SmallProcess.world with
    db := SmallLedger.txs
    cChainDb := SmallLedger.logs.map logRow }

/-- A request for a `verify` route, whose path is the slug of the type. -/
def verifyRequest (path : String) : Server.Request where
  method := "POST"
  target := textBytes s!"/verifier/testxrp/coston/{path}/verify"
  apiKey := textBytes "0123456789abcdef"

def verifyBody (t : AttestationType) : AttestationRequest :=
  ⟨t.encoded, SourceID.testXRP.encoded, SmallProcess.requestBytes t⟩

/-- What the process answers for the type in the given world. -/
def answer (w : World Unit) (t : AttestationType) : Option VerifierResponse :=
  process.verify process.server.literalRouter w (verifyRequest t.text)
    (verifyBody t)

/-- The answer of the process is a `VERIFIED` envelope. -/
def Verified (w : World Unit) (t : AttestationType) : Prop :=
  ∃ bytes, answer w t = some ⟨.verified, bytes, ""⟩

/-- The response on the first payment. -/
def paymentResponse : PaymentStatus.ResponseBody :=
  SmallLedger.paymentResponse (FixedBytes.replicate 32 0xaa) SmallLedger.tx1

open SmallProcess in
theorem verified_payment : Verified world .pmwPaymentStatus :=
  ⟨abiEncode (paymentResponseValues paymentResponse), by decide +kernel⟩

open SmallProcess in
theorem verified_fees : Verified world .pmwFeeProof :=
  ⟨abiEncode (feeResponseValues ⟨1, 12, 25⟩), by decide +kernel⟩

open SmallProcess in
theorem verified_multisig : Verified world .pmwMultisigAccountConfigured :=
  ⟨abiEncode (multisigResponseValues ⟨.ok, 42⟩), by decide +kernel⟩

theorem distinctSigners : world.multisigReads.DistinctSigners := by
  intro info hinfo signerList hlist
  obtain rfl := Except.ok.inj hinfo
  have hsigners : signerList = Multisig.twoSigners := by
    simpa [Multisig.AccountInfoResult.HasSignerList,
      Multisig.twoSignerAccount, eq_comm] using hlist
  rw [hsigners]
  exact Multisig.twoSigners_nodup

end SmallLedgerProcess

open SmallLedgerProcess in
theorem ledger_process_exact_testXRP :
    let source := env.pmwSource SmallProcess.library SmallLedger.abi world
    (∃ data response,
      PaymentStatus.Shown source SmallLedger.paymentReads data response) ∧
    (∃ data response, FeeProof.Shown (FeeProof.newXRPVerifier source)
      SmallLedger.feeReads data response) ∧
    ∃ data response, Multisig.Shown (env.multisigVerifier world)
      Multisig.twoSignerReads data response := by
  obtain ⟨abi, _, _, _, habi, -, -, -, hexact⟩ :=
    ledger_process_exact booted (by decide)
  obtain rfl : abi = SmallLedger.abi := (Except.ok.inj habi).symm
  obtain ⟨hpayment, hfees, hmultisig⟩ := hexact Unit world
  refine ⟨?_, ?_, ?_⟩
  · obtain ⟨bytes, h⟩ := verified_payment
    obtain ⟨-, -, -, data, response, -, hshown, -⟩ :=
      (hpayment _ _ _ bytes (by decide +kernel)).mp h
    exact ⟨data, response, hshown⟩
  · obtain ⟨bytes, h⟩ := verified_fees
    obtain ⟨-, -, -, data, response, -, hshown, -⟩ :=
      (hfees SmallLedger.keepsInstructionTopic _ _ _ bytes
        (by decide +kernel)).mp h
    exact ⟨data, response, hshown⟩
  · obtain ⟨bytes, h⟩ := verified_multisig
    obtain ⟨-, -, -, data, response, -, hshown, -⟩ :=
      (hmultisig distinctSigners _ _ _ bytes (by decide +kernel)).mp h
    exact ⟨data, response, hshown⟩

/-! ## Processes over one ledger -/

/-- The tables are parts of those of the ledger, read by the same code. -/
structure World.Behind {J J' : Type} (w : World J) (ledger : World J') :
    Prop where
  db : w.db.Subperm ledger.db
  cChainDb : w.cChainDb.Subperm ledger.cChainDb
  pmwLibrary : w.pmwLibrary = ledger.pmwLibrary
  convert : w.convertDatabaseLogToChainLog =
    ledger.convertDatabaseLogToChainLog

def World.IndexedUpTo {J J' : Type} (w : World J) (ledger : World J')
    (timestamp : UInt64) : Prop :=
  ∀ row ∈ ledger.cChainDb, row.timestamp ≤ timestamp → row ∈ w.cChainDb

theorem World.Behind.newDBRepo {J J' : Type} {w : World J}
    {ledger : World J'} (h : w.Behind ledger) (contractAddress : Address) :
    (newDBRepo w.db w.cChainDb contractAddress
        w.convertDatabaseLogToChainLog).Behind
      (newDBRepo ledger.db ledger.cChainDb contractAddress
        ledger.convertDatabaseLogToChainLog) :=
  ⟨h.db, h.cChainDb, rfl, h.convert⟩

section Booted

variable {b : Backends} {lib : ConfigLibrary}
  {getenv : Environment.Getenv} {env : EnvConfig} {p : Process}

/-- Settings of one source which name the same manager contract. -/
theorem World.Behind.pmwSource {J J' : Type} {w : World J}
    {ledger : World J'} (h : w.Behind ledger) {env' : EnvConfig}
    (hsource : env.sourceID = env'.sourceID)
    (hmanager : lib.addresses.hexToAddress
        env.flareTeeManagerContractAddress =
      lib.addresses.hexToAddress env'.flareTeeManagerContractAddress)
    (abi : TeeInstructionsABI) :
    (env.pmwSource lib abi w).Behind (env'.pmwSource lib abi ledger) := by
  unfold EnvConfig.pmwSource
  rw [hsource, hmanager]
  exact ⟨h.pmwLibrary, rfl, rfl, h.newDBRepo _⟩

/-- Behind a verified body is a service of the type that the body names. -/
theorem Booted.service_of_verified {J : Type}
    (hp : Booted b lib getenv env p) {w : World J} {router : Server.Router}
    {req : Server.Request} {body : AttestationRequest} {bytes : List UInt8}
    (h : p.verify router w req body = some ⟨.verified, bytes, ""⟩)
    {t : AttestationType} (htype : body.attestationType = t.encoded) :
    body.sourceID = env.sourceID.encoded ∧
    ∃ n service, ServiceLoads b lib env n service ∧
      service.attestationType = t ∧ ∃ data response,
        service.handlers.config.abiDecodeRequestData body.requestBody =
          .ok data ∧
        service.handlers.verifier w data = .ok response ∧
        service.handlers.config.abiEncodeData response = .ok bytes := by
  obtain ⟨-, t', hserve, service, hfind, -⟩ :=
    Process.verify_eq_some_iff.mp h
  obtain ⟨-, htype', hsource, hshown⟩ :=
    (hp.verify_eq_verified_iff hfind hserve).mp h
  have hsame : t' = t :=
    AttestationType.encoded_injective (htype'.symm.trans htype)
  obtain ⟨hserved, n, hloads⟩ := hp.serviceLoads hfind
  exact ⟨hsource, n, service, hloads, hserved.trans hsame, hshown⟩

theorem ServiceLoads.payment {n : ℕ} {service : RegisteredService}
    (h : ServiceLoads b lib env n service)
    (htype : service.attestationType = .pmwPaymentStatus) :
    ∃ cfg, service = .pmwPaymentStatus (.at cfg n) ∧
      buildPMWPaymentStatusConfig lib env = .ok cfg := by
  cases h with
  | pmwPaymentStatus cfg hconfig hloads => exact ⟨cfg, rfl, hconfig⟩
  | teeAvailabilityCheck => cases htype
  | pmwMultisigAccountConfigured => cases htype
  | pmwFeeProof => cases htype

theorem ServiceLoads.fee {n : ℕ} {service : RegisteredService}
    (h : ServiceLoads b lib env n service)
    (htype : service.attestationType = .pmwFeeProof) :
    ∃ cfg, service = .pmwFeeProof (.at cfg n) ∧
      buildPMWFeeProofConfig lib env = .ok cfg := by
  cases h with
  | pmwFeeProof cfg hconfig hloads => exact ⟨cfg, rfl, hconfig⟩
  | teeAvailabilityCheck => cases htype
  | pmwPaymentStatus => cases htype
  | pmwMultisigAccountConfigured => cases htype

/-- A verified payment is one which the databases of the process verify. -/
theorem Booted.payment_of_verified {J : Type}
    (hp : Booted b lib getenv env p) {w : World J} {router : Server.Router}
    {req : Server.Request} {body : AttestationRequest} {bytes : List UInt8}
    (h : p.verify router w req body = some ⟨.verified, bytes, ""⟩)
    (htype : body.attestationType =
      AttestationType.pmwPaymentStatus.encoded) :
    ∃ abi codec data response, lib.teeInstructionsABI = .ok abi ∧
      lib.paymentStatusABI = .ok codec ∧
      codec.decodeRequest body.requestBody = .ok data ∧
      PaymentStatus.XRPVerifier.verify (env.pmwSource lib abi w)
        w.paymentReads data = .ok response ∧
      codec.encodeResponse response = .ok bytes := by
  obtain ⟨-, n, service, hloads, hserved, hshown⟩ :=
    hp.service_of_verified h htype
  obtain ⟨cfg, rfl, hconfig⟩ := hloads.payment hserved
  obtain ⟨-, slug, codec, abi, -, hcodec, habi, rfl⟩ :=
    buildPMWConfig_eq_ok_iff.mp hconfig
  obtain ⟨data, response, hdata, hresponse, hbytes⟩ := hshown
  exact ⟨abi, codec, data, response, habi, hcodec, hdata, hresponse, hbytes⟩

theorem Booted.fees_of_verified {J : Type}
    (hp : Booted b lib getenv env p) {w : World J} {router : Server.Router}
    {req : Server.Request} {body : AttestationRequest} {bytes : List UInt8}
    (h : p.verify router w req body = some ⟨.verified, bytes, ""⟩)
    (htype : body.attestationType = AttestationType.pmwFeeProof.encoded) :
    ∃ abi codec data response, lib.teeInstructionsABI = .ok abi ∧
      lib.feeProofABI = .ok codec ∧
      codec.decodeRequest body.requestBody = .ok data ∧
      (FeeProof.newXRPVerifier (env.pmwSource lib abi w)).verify w.feeReads
        data = .ok response ∧
      codec.encodeResponse response = .ok bytes := by
  obtain ⟨-, n, service, hloads, hserved, hshown⟩ :=
    hp.service_of_verified h htype
  obtain ⟨cfg, rfl, hconfig⟩ := hloads.fee hserved
  obtain ⟨-, slug, codec, abi, -, hcodec, habi, rfl⟩ :=
    buildPMWConfig_eq_ok_iff.mp hconfig
  obtain ⟨data, response, hdata, hresponse, hbytes⟩ := hshown
  exact ⟨abi, codec, data, response, habi, hcodec, hdata, hresponse, hbytes⟩

end Booted

namespace SmallLedgerProcess

/-- A replica without the second transaction and without the reissue. -/
def replica : World Unit :=
  { world with
    db := [SmallLedger.tx1]
    cChainDb := (SmallLedger.logs.take 2).map logRow }

open SmallProcess in
theorem verified_payment_replica : Verified replica .pmwPaymentStatus :=
  ⟨abiEncode (paymentResponseValues paymentResponse), by decide +kernel⟩

theorem replica_behind : replica.Behind world where
  db := List.Sublist.subperm (List.Sublist.cons_cons SmallLedger.tx1
    (List.nil_sublist [SmallLedger.tx2]))
  cChainDb := by
    apply List.Sublist.subperm
    exact (List.take_sublist 2 SmallLedger.logs).map logRow
  pmwLibrary := rfl
  convert := rfl

theorem uniqueRows (contractAddress : Address) :
    (newDBRepo world.db world.cChainDb contractAddress
      world.convertDatabaseLogToChainLog).UniqueRows := by
  have htopics : (SmallLedger.logs.map logRow).Pairwise fun row other =>
      row.topic2 ≠ other.topic2 := by
    rw [List.pairwise_map]
    exact SmallLedger.pairwise_topic2.imp fun hne => by
      simpa only [logRow] using hne
  exact .of_pairwise htopics SmallLedger.pairwise_sequence

end SmallLedgerProcess

/-- Processes over one ledger with the same manager contract never verify one
body with different bytes, whatever their other settings, their keys and
their reads are: payments agree as they stand, and fees once both processes
have indexed the window of the request.  The fees that were paid agree even
before. -/
theorem processes_agree {J J' L : Type} {b b' : Backends}
    {lib : ConfigLibrary} {getenv getenv' : Environment.Getenv}
    {env env' : EnvConfig} {p p' : Process}
    (hp : Booted b lib getenv env p) (hp' : Booted b' lib getenv' env' p')
    (hmanager : lib.addresses.hexToAddress
        env'.flareTeeManagerContractAddress =
      lib.addresses.hexToAddress env.flareTeeManagerContractAddress)
    {ledger : World L} {w : World J} {w' : World J'}
    (hw : w.Behind ledger) (hw' : w'.Behind ledger)
    (hunique : (newDBRepo ledger.db ledger.cChainDb
      (lib.addresses.hexToAddress env.flareTeeManagerContractAddress)
      ledger.convertDatabaseLogToChainLog).UniqueRows)
    (hkeep : KeepsInstructionTopic ledger.convertDatabaseLogToChainLog)
    {router router' : Server.Router} {req req' : Server.Request}
    {body : AttestationRequest} {bytes bytes' : List UInt8}
    (h : p.verify router w req body = some ⟨.verified, bytes, ""⟩)
    (h' : p'.verify router' w' req' body = some ⟨.verified, bytes', ""⟩) :
    (body.attestationType = AttestationType.pmwPaymentStatus.encoded →
      bytes' = bytes) ∧
    (body.attestationType = AttestationType.pmwFeeProof.encoded →
      ∃ codec data response response', lib.feeProofABI = .ok codec ∧
        codec.decodeRequest body.requestBody = .ok data ∧
        codec.encodeResponse response = .ok bytes ∧
        codec.encodeResponse response' = .ok bytes' ∧
        FeeProof.ResponseBody.actualFee response' =
          FeeProof.ResponseBody.actualFee response ∧
        (w.IndexedUpTo ledger data.untilTimestamp →
          w'.IndexedUpTo ledger data.untilTimestamp → bytes' = bytes)) := by
  have hsource : ∀ t : AttestationType, body.attestationType = t.encoded →
      env'.sourceID = env.sourceID := by
    intro t htype
    have hnames := (hp.service_of_verified h htype).1
    have hnames' := (hp'.service_of_verified h' htype).1
    exact SourceID.encoded_injective (hnames'.symm.trans hnames)
  constructor
  · intro htype
    obtain ⟨abi, codec, data, response, habi, hcodec, hdata, hresponse,
      hbytes⟩ := hp.payment_of_verified h htype
    obtain ⟨abi', codec', data', response', habi', hcodec', hdata',
      hresponse', hbytes'⟩ := hp'.payment_of_verified h' htype
    obtain rfl : abi = abi' := Except.ok.inj (habi.symm.trans habi')
    obtain rfl : codec = codec' := Except.ok.inj (hcodec.symm.trans hcodec')
    obtain rfl : data = data' := Except.ok.inj (hdata.symm.trans hdata')
    have hleft : (env.pmwSource lib abi w).Behind
        (env.pmwSource lib abi ledger) := hw.pmwSource rfl rfl abi
    have hright := hw'.pmwSource (hsource _ htype) hmanager abi
    obtain ⟨hlogFault, htxFault, -⟩ :=
      PaymentStatus.XRPVerifier.verify_eq_ok_iff.mp hresponse
    have honLedger := PaymentStatus.XRPVerifier.verify_onLedger hleft hunique
      hresponse hlogFault htxFault rfl
    obtain rfl := PaymentStatus.XRPVerifier.response_onReplica hright
      honLedger hresponse'
    exact Except.ok.inj (hbytes'.symm.trans hbytes)
  · intro htype
    obtain ⟨abi, codec, data, response, habi, hcodec, hdata, hresponse,
      hbytes⟩ := hp.fees_of_verified h htype
    obtain ⟨abi', codec', data', response', habi', hcodec', hdata',
      hresponse', hbytes'⟩ := hp'.fees_of_verified h' htype
    obtain rfl : abi = abi' := Except.ok.inj (habi.symm.trans habi')
    obtain rfl : codec = codec' := Except.ok.inj (hcodec.symm.trans hcodec')
    obtain rfl : data = data' := Except.ok.inj (hdata.symm.trans hdata')
    have hleft : (env.pmwSource lib abi w).Behind
        (env.pmwSource lib abi ledger) := hw.pmwSource rfl rfl abi
    have hright := hw'.pmwSource (hsource _ htype) hmanager abi
    obtain ⟨hactual, -, hsame⟩ := FeeProof.responses_agree hleft hright
      hunique hkeep hresponse hresponse'
    refine ⟨codec, data, response, response', hcodec, hdata, hbytes, hbytes',
      hactual, fun hindexed hindexed' => ?_⟩
    obtain rfl := hsame hindexed hindexed'
    exact Except.ok.inj (hbytes'.symm.trans hbytes)

open SmallLedgerProcess in
theorem processes_agree_replica :
    answer replica .pmwPaymentStatus = answer world .pmwPaymentStatus := by
  obtain ⟨bytes, h⟩ := verified_payment
  obtain ⟨bytes', h'⟩ := verified_payment_replica
  have hworld : world.Behind world :=
    ⟨List.Subperm.refl _, List.Subperm.refl _, rfl, rfl⟩
  have hbytes := (processes_agree booted booted rfl hworld replica_behind
    (uniqueRows _) SmallLedger.keepsInstructionTopic h h').1 rfl
  rw [h, h', hbytes]

end VerifierApi

import VerifierApi.DropsAmount
import VerifierApi.IndexerReads
import VerifierApi.InstructionEvent
import VerifierApi.SequenceBinder

/-!
# The payment-status verifier

One payment is looked up through its instruction event; the event is bound
to the request and to the initial nonce, and the transaction row which its
sequence names is bound to the row's own payload before a response is built
from it.
-/

namespace VerifierApi

/-- The fields of a transaction payload which the verifier uses. -/
structure RawTransactionData where
  account : String
  transactionType : String
  fee : String
  sequence : UInt64
  hash : String
  metaData : TransactionMetaData

structure TxIdentity where
  account : String
  sequence : UInt64
  hash : String

/-- Library code called by the PMW verifiers.  The three decoders read the
same payload text into three different structures. -/
structure PmwLibrary where
  keccak256 : Keccak
  foldNonASCII : Char → Char
  hex32StringToCommonHash : String → Except ExternalError Hash
  isValidXAddress : String → Bool
  xAddressToClassicAddress : String → Except ExternalError String
  unmarshalTransaction : String → Except ExternalError RawTransactionData
  unmarshalIdentity : String → Except ExternalError TxIdentity
  unmarshalFee : String → Except ExternalError String

/-- What a PMW verifier is built from. -/
structure PmwSource where
  library : PmwLibrary
  repo : DBRepo
  sourceIDEncoded : Hash
  parsedTeeInstructionsABI : TeeInstructionsABI

def maxResponseSize : ℕ := 2 ^ 20

namespace PmwSource

def payInstructionID (x : PmwSource) (opType : Hash) (sender : String)
    (paymentId : UInt64) : Except GoError Hash :=
  generateInstructionID x.library.keccak256 opType x.sourceIDEncoded sender
    paymentId

/-- The fee proof files its pay events as the payment status does. -/
theorem generatePayInstructionID_eq (x : PmwSource) (opType : Hash)
    (sender : String) (paymentId : UInt64) :
    generatePayInstructionID x.library.keccak256 opType x.sourceIDEncoded
      sender paymentId = x.payInstructionID opType sender paymentId :=
  rfl

theorem payInstructionID_total (x : PmwSource) (opType : Hash)
    (sender : String) (paymentId : UInt64) :
    ∃ id, x.payInstructionID opType sender paymentId = .ok id := by
  unfold payInstructionID generateInstructionID
  exact generateInstructionIDFor_total _ _ _ _ _ _ _

/-- The event of a payment, bound to it: the only log under the payment's
instruction id, decoded, and consistent with the request. -/
structure PayEvent (x : PmwSource) (opType : Hash) (sender : String)
    (paymentId : UInt64) where
  id : Hash
  eventHash : String
  row : DbLog
  log : ChainLog
  eventData : TeeInstructionsSent
  message : PaymentInstructionMessage
  id_eq : x.payInstructionID opType sender paymentId = .ok id
  eventHash_eq :
    teeInstructionsSentEventSignature x.parsedTeeInstructionsABI =
      .ok eventHash
  onlyRow : x.repo.instructionLogs eventHash id = [row]
  converts : x.repo.convertDatabaseLogToChainLog row = .ok log
  decodes : DecodesTo log x.parsedTeeInstructionsABI .pay opType eventData
    message
  sourceId : message.sourceId = x.sourceIDEncoded
  senderAddress : message.senderAddress = sender
  paymentId_eq : message.paymentId = paymentId

theorem PayEvent.id_unique {x : PmwSource} {opType : Hash}
    {sender : String} {paymentId : UInt64}
    (event : x.PayEvent opType sender paymentId) {id : Hash}
    (h : x.payInstructionID opType sender paymentId = .ok id) :
    event.id = id := by
  simpa using event.id_eq.symm.trans h

theorem PayEvent.eventHash_unique {x : PmwSource} {opType : Hash}
    {sender : String} {paymentId : UInt64}
    (event : x.PayEvent opType sender paymentId) {eventHash : String}
    (h : teeInstructionsSentEventSignature x.parsedTeeInstructionsABI =
      .ok eventHash) :
    event.eventHash = eventHash := by
  simpa using event.eventHash_eq.symm.trans h

theorem PayEvent.decode_eq {x : PmwSource} {opType : Hash}
    {sender : String} {paymentId : UInt64}
    (event : x.PayEvent opType sender paymentId) :
    decodeTeeInstructionsSentEventData event.log x.parsedTeeInstructionsABI
      .pay opType = .ok event.message :=
  decodeTeeInstructionsSentEventData_eq_ok_iff.mpr ⟨_, event.decodes⟩

theorem PayEvent.consistent {x : PmwSource} {opType : Hash}
    {sender : String} {paymentId : UInt64}
    (event : x.PayEvent opType sender paymentId) :
    checkInstructionConsistency event.message x.sourceIDEncoded sender
      paymentId = .ok () :=
  checkInstructionConsistency_eq_ok_iff.mpr
    ⟨event.sourceId, event.senderAddress, event.paymentId_eq⟩

theorem PayEvent.message_unique
    {x : PmwSource} {opType : Hash} {sender : String} {paymentId : UInt64}
    (e e' : x.PayEvent opType sender paymentId) :
    e.message = e'.message := by
  have hid : e.id = e'.id := e.id_unique e'.id_eq
  have hevent : e.eventHash = e'.eventHash :=
    e.eventHash_unique e'.eventHash_eq
  have hrow : e.row = e'.row := by
    have hrows := e.onlyRow
    rw [hid, hevent, e'.onlyRow] at hrows
    simpa using hrows.symm
  have hlog : e.log = e'.log := by
    have hconverts := e.converts
    rw [hrow, e'.converts] at hconverts
    simpa using hconverts.symm
  have hdecodes := e.decode_eq
  rw [hlog, e'.decode_eq] at hdecodes
  simpa using hdecodes.symm

end PmwSource

namespace PaymentStatus

abbrev XRPVerifier := PmwSource

structure RequestBody where
  opType : Hash
  senderAddress : String
  paymentId : UInt64
deriving DecidableEq

inductive TransactionStatus where
  | success
  | reverted
deriving DecidableEq, Repr

structure ResponseBody where
  recipientAddress : String
  tokenId : List UInt8
  amount : Option Int
  maxFee : Option Int
  paymentReference : Hash
  transactionStatus : TransactionStatus
  revertReason : String
  receivedAmount : Int
  transactionFee : Int
  transactionId : Hash
  blockNumber : UInt64
  blockTimestamp : UInt64
deriving DecidableEq

/-- The outcomes of the reads which one run performs. -/
structure Reads where
  instructionFault : Option ExternalError
  initialNonce : NonceAnswer
  transactionFault : Option ExternalError

/-! ## The response builder -/

def getTransactionStatus (result : String) :
    Except GoError TransactionStatus :=
  if result.utf8ByteSize < 3 then
    .error (.wrapf s!"transaction result too short: {quote result}"
      errDatabase)
  else if (textBytes result).take 3 = textBytes "tes" then .ok .success
  else if (textBytes result).take 3 = textBytes "tec" then .ok .reverted
  else
    .error (.wrapf
      s!"non-validated or unrecognized XRPL transaction result code {quote result}"
      errDatabase)

def checkDropsBound (name : String) : Option Int → Except GoError Unit
  | none => .error (.wrapf s!"{name} is nil" errDatabase)
  | some v =>
      ensure (exceedsMaxXRPDrops (some v) = false)
        (.wrapf
          s!"{name} {v} exceeds total XRP supply in drops ({maxXRPDrops})"
          errDatabase)

def normalizeRecipient (library : PmwLibrary) (address : String) :
    Except ExternalError String :=
  if library.isValidXAddress address then
    library.xAddressToClassicAddress address
  else .ok address

def buildPaymentStatusResponse (library : PmwLibrary)
    (raw : RawTransactionData) (paymentMsg : PaymentInstructionMessage)
    (tx : DBTransaction) : Except GoError ResponseBody := do
  ensure (raw.transactionType = "Payment")
    (.new s!"expected Payment transaction, got {quote raw.transactionType}")
  ensure (paymentMsg.tokenId = [])
    (.new "non-native payments (TokenId set) are not supported")
  checkDropsBound "payment amount" paymentMsg.amount
  checkDropsBound "payment maxFee" paymentMsg.maxFee
  let transactionResult ←
    (getTransactionStatus raw.metaData.transactionResult).mapError
      (.wrapf "cannot parse transaction status")
  let transactionFee ← (parseNonNegativeBigInt raw.fee).mapError
    (.wrapf s!"invalid transaction fee {quote raw.fee}")
  checkDropsBound "transaction fee" (some transactionFee)
  let hashBytes ← (library.hex32StringToCommonHash tx.hash).mapError
    fun err : ExternalError =>
      .wrapf s!"invalid transaction hash {tx.hash}" err
  let recipientClassic ←
    (normalizeRecipient library paymentMsg.recipientAddress).mapError
      fun err : ExternalError =>
        .wrapf s!"invalid recipient address {paymentMsg.recipientAddress}" err
  let receivedAmount ←
    (findReceivedAmountForAddress raw.metaData recipientClassic).mapError
      (.wrapf
        s!"cannot calculate received amount for recipient {paymentMsg.recipientAddress}")
  checkDropsBound "received amount" (some receivedAmount)
  .ok {
    recipientAddress := paymentMsg.recipientAddress
    tokenId := paymentMsg.tokenId
    amount := paymentMsg.amount
    maxFee := paymentMsg.maxFee
    paymentReference := paymentMsg.paymentReference
    transactionStatus := transactionResult
    revertReason :=
      if transactionResult ≠ .success then raw.metaData.transactionResult
      else ""
    receivedAmount := receivedAmount
    transactionFee := transactionFee
    transactionId := hashBytes
    blockNumber := tx.blockNumber
    blockTimestamp := tx.timestamp }

theorem getTransactionStatus_fails (result : String) :
    FailsWith IndexerFault (getTransactionStatus result) := by
  unfold getTransactionStatus
  refine FailsWith.of_ite (fun _ => .error (.wrapf _ .errDatabase)) fun _ => ?_
  refine FailsWith.of_ite (fun _ => .ok _) fun _ => ?_
  exact FailsWith.of_ite (fun _ => .ok _)
    (fun _ => .error (.wrapf _ .errDatabase))

theorem checkDropsBound_eq_ok_iff {name : String} {v : Option Int}
    {u : Unit} :
    checkDropsBound name v = .ok u ↔ exceedsMaxXRPDrops v = false := by
  cases v with
  | none => simp [checkDropsBound, exceedsMaxXRPDrops]
  | some v => exact ensure_eq_ok

theorem checkDropsBound_fails (name : String) (v : Option Int) :
    FailsWith IndexerFault (checkDropsBound name v) := by
  cases v with
  | none => exact FailsWith.error (.wrapf _ .errDatabase)
  | some v => exact FailsWith.ensure (.wrapf _ .errDatabase)

/-- What the response of a successful build is made of. -/
structure Builds (library : PmwLibrary) (raw : RawTransactionData)
    (paymentMsg : PaymentInstructionMessage) (tx : DBTransaction)
    (response : ResponseBody) : Prop where
  transactionType : raw.transactionType = "Payment"
  tokenId : paymentMsg.tokenId = []
  amountBound : exceedsMaxXRPDrops paymentMsg.amount = false
  maxFeeBound : exceedsMaxXRPDrops paymentMsg.maxFee = false
  status : getTransactionStatus raw.metaData.transactionResult =
    .ok response.transactionStatus
  fee : parseNonNegativeBigInt raw.fee = .ok response.transactionFee
  feeBound : exceedsMaxXRPDrops (some response.transactionFee) = false
  transactionId : library.hex32StringToCommonHash tx.hash =
    .ok response.transactionId
  received : ∃ recipient,
    normalizeRecipient library paymentMsg.recipientAddress = .ok recipient ∧
      findReceivedAmountForAddress raw.metaData recipient =
        .ok response.receivedAmount
  receivedBound : exceedsMaxXRPDrops (some response.receivedAmount) = false
  fromMessage : response.recipientAddress = paymentMsg.recipientAddress ∧
    response.tokenId = paymentMsg.tokenId ∧
    response.amount = paymentMsg.amount ∧
    response.maxFee = paymentMsg.maxFee ∧
    response.paymentReference = paymentMsg.paymentReference
  fromRow : response.blockNumber = tx.blockNumber ∧
    response.blockTimestamp = tx.timestamp

theorem buildPaymentStatusResponse_builds
    {library : PmwLibrary} {raw : RawTransactionData}
    {paymentMsg : PaymentInstructionMessage} {tx : DBTransaction}
    {response : ResponseBody}
    (h : buildPaymentStatusResponse library raw paymentMsg tx =
      .ok response) :
    Builds library raw paymentMsg tx response := by
  simp only [buildPaymentStatusResponse, bind_eq_ok, ensure_eq_ok,
    mapError_eq_ok, checkDropsBound_eq_ok_iff, exists_const] at h
  obtain ⟨htype, htoken, hamount, hmaxFee, status, hstatus, fee, hfee,
    hfeeBound, id, hid, recipient, hrecipient, received, hreceived,
    hreceivedBound, hresponse⟩ := h
  simp only [Except.ok.injEq] at hresponse
  subst response
  exact ⟨htype, htoken, hamount, hmaxFee, hstatus, hfee, hfeeBound, hid,
    ⟨recipient, hrecipient, hreceived⟩, hreceivedBound,
    ⟨rfl, rfl, rfl, rfl, rfl⟩, ⟨rfl, rfl⟩⟩

theorem buildPaymentStatusResponse_fails
    (library : PmwLibrary) (raw : RawTransactionData)
    (paymentMsg : PaymentInstructionMessage) (tx : DBTransaction) :
    FailsWith IndexerFault
      (buildPaymentStatusResponse library raw paymentMsg tx) := by
  unfold buildPaymentStatusResponse
  refine FailsWith.ensure_bind (.new _) fun _ => ?_
  refine FailsWith.ensure_bind (.new _) fun _ => ?_
  refine FailsWith.bind (checkDropsBound_fails _ _) fun _ _ => ?_
  refine FailsWith.bind (checkDropsBound_fails _ _) fun _ _ => ?_
  refine FailsWith.bind ?_ fun status _ => ?_
  · exact (getTransactionStatus_fails _).mapError fun _ h => .wrapf _ h
  refine FailsWith.bind ?_ fun fee _ => ?_
  · exact (parseNonNegativeBigInt_fails _).mapError fun _ h => .wrapf _ h
  refine FailsWith.bind (checkDropsBound_fails _ _) fun _ _ => ?_
  refine FailsWith.bind ?_ fun id _ => ?_
  · exact FailsWith.mapError_of_forall fun err => .wrapf _ (.external err)
  refine FailsWith.bind ?_ fun recipient _ => ?_
  · exact FailsWith.mapError_of_forall fun err => .wrapf _ (.external err)
  refine FailsWith.bind ?_ fun received _ => ?_
  · exact (findReceivedAmountForAddress_fails _ _).mapError
      fun _ h => .wrapf _ h
  exact FailsWith.bind (checkDropsBound_fails _ _) fun _ _ => .ok _

/-! ## Verification -/

def parseRawTransactionData (library : PmwLibrary) (response : String) :
    Except GoError RawTransactionData := do
  ensure (response.utf8ByteSize ≤ maxResponseSize)
    (.wrapf
      s!"XRP transaction response too large: {response.utf8ByteSize} bytes (max {maxResponseSize})"
      errDatabase)
  let raw ← (library.unmarshalTransaction response).mapError
    fun err : ExternalError =>
      .wrapfCause "cannot unmarshal XRP transaction response"
        errDataSource err
  ensure (raw.metaData.transactionResult ≠ "")
    (.wrapf "missing transaction result in raw transaction data"
      errDataSource)
  .ok raw

theorem parseRawTransactionData_eq_ok_iff
    {library : PmwLibrary} {response : String} {raw : RawTransactionData} :
    parseRawTransactionData library response = .ok raw ↔
      response.utf8ByteSize ≤ maxResponseSize ∧
        library.unmarshalTransaction response = .ok raw ∧
        raw.metaData.transactionResult ≠ "" := by
  simp only [parseRawTransactionData, bind_eq_ok, ensure_eq_ok,
    mapError_eq_ok, exists_const, Except.ok.injEq]
  constructor
  · rintro ⟨hsize, decoded, hdecode, hresult, rfl⟩
    exact ⟨hsize, hdecode, hresult⟩
  · rintro ⟨hsize, hdecode, hresult⟩
    exact ⟨hsize, raw, hdecode, hresult, rfl⟩

theorem parseRawTransactionData_fails
    (library : PmwLibrary) (response : String) :
    FailsWith IndexerFault (parseRawTransactionData library response) := by
  unfold parseRawTransactionData
  refine FailsWith.ensure_bind (.wrapf _ .errDatabase) fun _ => ?_
  refine FailsWith.bind ?_ fun raw _ => ?_
  · exact FailsWith.mapError_of_forall fun err =>
      .wrapfCause _ .errDataSource (.external err)
  exact FailsWith.ensure_bind (.wrapf _ .errDataSource) fun _ => .ok _

namespace XRPVerifier

def verify (x : XRPVerifier) (reads : Reads) (req : RequestBody) :
    Except GoError ResponseBody := do
  let instructionID ←
    (x.payInstructionID req.opType req.senderAddress req.paymentId).mapError
      (.wrapf "cannot generate instruction ID")
  let eventHash ←
    teeInstructionsSentEventSignature x.parsedTeeInstructionsABI
  let chainLog ← x.repo.fetchInstructionLog reads.instructionFault
    eventHash instructionID
  let paymentMessage ← decodeTeeInstructionsSentEventData chainLog
    x.parsedTeeInstructionsABI .pay req.opType
  checkInstructionConsistency paymentMessage x.sourceIDEncoded
    req.senderAddress req.paymentId
  verifySequence reads.initialNonce req.senderAddress req.paymentId
    paymentMessage.nonce
  let dbTransaction ← x.repo.fetchTransactionBySourceAndSequence
    reads.transactionFault req.senderAddress paymentMessage.nonce
  let rawTransactionData ←
    parseRawTransactionData x.library dbTransaction.response
  checkRowConsistency x.library.foldNonASCII rawTransactionData.hash
    rawTransactionData.account rawTransactionData.sequence dbTransaction
  (buildPaymentStatusResponse x.library rawTransactionData paymentMessage
    dbTransaction).mapError (.wrapf "cannot build payment status response")

/-- The row of a payment, bound to its event, and the response built from
both. -/
structure Attested (x : XRPVerifier) (req : RequestBody)
    (message : PaymentInstructionMessage) (response : ResponseBody) where
  tx : DBTransaction
  raw : RawTransactionData
  onlyRow : x.repo.transactionRows req.senderAddress message.nonce = [tx]
  size : tx.response.utf8ByteSize ≤ maxResponseSize
  unmarshals : x.library.unmarshalTransaction tx.response = .ok raw
  result : raw.metaData.transactionResult ≠ ""
  hash : equalFold x.library.foldNonASCII raw.hash tx.hash = true
  account : raw.account = tx.sourceAddress
  sequence : raw.sequence = tx.sequence
  builds : Builds x.library raw message tx response

variable {x : XRPVerifier} {reads : Reads} {req : RequestBody}

theorem Attested.mem_transactionRows
    {message : PaymentInstructionMessage} {response : ResponseBody}
    (a : x.Attested req message response) :
    a.tx ∈ x.repo.db ∧ a.tx.sourceAddress = req.senderAddress ∧
      a.tx.sequence = message.nonce := by
  apply DBRepo.mem_transactionRows.mp
  simp [a.onlyRow]

/-- A successful run rests on a bound event, an assigned sequence and a
bound row. -/
theorem verify_attested {response : ResponseBody}
    (h : x.verify reads req = .ok response) :
    ∃ event : x.PayEvent req.opType req.senderAddress req.paymentId,
      (∃ initial, reads.initialNonce = .ok initial ∧
        AssignedSequence initial req.paymentId event.message.nonce) ∧
      Nonempty (x.Attested req event.message response) ∧
      reads.instructionFault = none ∧ reads.transactionFault = none := by
  simp only [verify, bind_eq_ok, mapError_eq_ok,
    DBRepo.fetchInstructionLog_eq_ok_iff,
    decodeTeeInstructionsSentEventData_eq_ok_iff,
    checkInstructionConsistency_eq_ok_iff, verifySequence_eq_ok_iff,
    DBRepo.fetchTransactionBySourceAndSequence_eq_ok_iff,
    parseRawTransactionData_eq_ok_iff, checkRowConsistency_eq_ok_iff,
    exists_const] at h
  obtain ⟨id, hid, eventHash, hevent, log, ⟨hlogFault, row, hrow, hlog⟩,
    message, ⟨eventData, hdecodes⟩, ⟨hsource, hsender, hpayment⟩, hassigned,
    tx, ⟨htxFault, htx⟩, raw, ⟨hsize, hraw, hresult⟩,
    ⟨hhash, haccount, hsequence⟩, hbuild⟩ := h
  exact ⟨⟨id, eventHash, row, log, eventData, message, hid, hevent, hrow,
    hlog, hdecodes, hsource, hsender, hpayment⟩, hassigned,
    ⟨⟨tx, raw, htx, hsize, hraw, hresult, hhash, haccount, hsequence,
      buildPaymentStatusResponse_builds hbuild⟩⟩, hlogFault, htxFault⟩

/-- The two reasons for a missing record: no log under the instruction id,
or no row under the sequence of a bound event. -/
def RecordMissing (x : XRPVerifier) (reads : Reads) (req : RequestBody) :
    Prop :=
  (∃ id eventHash,
    x.payInstructionID req.opType req.senderAddress req.paymentId = .ok id ∧
    teeInstructionsSentEventSignature x.parsedTeeInstructionsABI =
      .ok eventHash ∧
    x.repo.instructionLogs eventHash id = []) ∨
  ∃ event : x.PayEvent req.opType req.senderAddress req.paymentId,
    (∃ initial, reads.initialNonce = .ok initial ∧
      AssignedSequence initial req.paymentId event.message.nonce) ∧
    x.repo.transactionRows req.senderAddress event.message.nonce = []

/-- Every error is a missing record or an indexer fault. -/
theorem verify_fails :
    FailsWith (fun err => (err.sentinels = [.recordNotFound] ∧
        x.RecordMissing reads req) ∨ IndexerFault err)
      (x.verify reads req) := by
  unfold verify
  refine FailsWith.bind ?_ fun id hid => ?_
  · exact .mapError_of_total (x.payInstructionID_total _ _ _)
  rw [mapError_eq_ok] at hid
  refine FailsWith.bind ?_ fun eventHash hevent => ?_
  · exact (teeInstructionsSentEventSignature_fails _).mono fun _ h => .inr h
  refine FailsWith.bind ?_ fun log hlog => ?_
  · refine DBRepo.fetchInstructionLog_fails.mono ?_
    rintro err (⟨hmissing, hnil⟩ | hfault)
    · exact .inl ⟨hmissing, .inl ⟨id, eventHash, hid, hevent, hnil⟩⟩
    · exact .inr hfault
  refine FailsWith.bind ?_ fun message hmessage => ?_
  · exact (decodeTeeInstructionsSentEventData_fails _ _ _ _).mono
      fun _ h => .inr h
  refine FailsWith.bind ?_ fun _ hconsistent => ?_
  · exact (checkInstructionConsistency_fails _ _ _ _).mono fun _ h => .inr h
  refine FailsWith.bind ?_ fun _ hassigned => ?_
  · exact (verifySequence_fails _ _ _ _).mono fun _ h => .inr h
  refine FailsWith.bind ?_ fun tx _ => ?_
  · refine DBRepo.fetchTransactionBySourceAndSequence_fails.mono ?_
    rintro err (⟨hmissing, hnil⟩ | hfault)
    · obtain ⟨-, row, hrow, hconverts⟩ :=
        DBRepo.fetchInstructionLog_eq_ok_iff.mp hlog
      obtain ⟨eventData, hdecodes⟩ :=
        decodeTeeInstructionsSentEventData_eq_ok_iff.mp hmessage
      obtain ⟨hsource, hsender, hpayment⟩ :=
        checkInstructionConsistency_eq_ok_iff.mp hconsistent
      refine .inl ⟨hmissing, .inr ⟨⟨id, eventHash, row, log, eventData,
        message, hid, hevent, hrow, hconverts, hdecodes, hsource, hsender,
        hpayment⟩, verifySequence_eq_ok_iff.mp hassigned, hnil⟩⟩
    · exact .inr hfault
  refine FailsWith.bind ?_ fun raw _ => ?_
  · exact (parseRawTransactionData_fails _ _).mono fun _ h => .inr h
  refine FailsWith.bind ?_ fun _ _ => ?_
  · exact (checkRowConsistency_fails _ _ _ _ _).mono fun _ h => .inr h
  · exact (buildPaymentStatusResponse_fails _ _ _ _).mapError
      fun _ h => .inr (.wrapf _ h)

end XRPVerifier

end PaymentStatus

end VerifierApi

import VerifierApi.PaymentStatusVerifier
import Mathlib.Data.Nat.Size

/-!
# The fee-proof verifier

A batch of consecutive payments is proved at once.  The pay events of the
batch and the transaction rows of its sequences are read by one query each;
the reissues of a payment are scanned one by one.
-/

namespace VerifierApi

namespace FeeProof

def maxBatchRange : UInt64 := 200

def maxReissuesPerPayment : UInt64 := 32

/-- The batch cap of an instance; zero stands for the default. -/
structure XRPVerifier extends PmwSource where
  maxBatchRange : UInt64

def newXRPVerifier (source : PmwSource) : XRPVerifier where
  toPmwSource := source
  maxBatchRange := 0

structure RequestBody where
  opType : Hash
  senderAddress : String
  firstPaymentId : UInt64
  batchCount : UInt64
  untilTimestamp : UInt64
deriving DecidableEq

structure ResponseBody where
  lastPaymentId : UInt64
  actualFee : Int
  estimatedFee : Int
deriving DecidableEq

/-- The outcomes of the reads which one run performs.  The nonce is read
once for each payment, a reissue once for each payment and number. -/
structure Reads where
  payEventsFault : Option ExternalError
  initialNonce : UInt64 → NonceAnswer
  reissueFault : UInt64 → UInt64 → Option ExternalError
  transactionsFault : Option ExternalError

namespace XRPVerifier

def validateBatchRange (x : XRPVerifier) (req : RequestBody) :
    Except GoError Unit := do
  ensure (req.batchCount ≠ 0)
    (.wrapf "batchCount must be greater than 0" errBatchRangeTooLarge)
  let maxBatch :=
    if x.maxBatchRange = 0 then FeeProof.maxBatchRange else x.maxBatchRange
  ensure (req.batchCount ≤ maxBatch)
    (.wrapf s!"batchCount {req.batchCount} exceeds max size {maxBatch}"
      errBatchRangeTooLarge)
  ensure (req.firstPaymentId ≤ maxUint64 - (req.batchCount - 1))
    (.wrapf
      s!"paymentId range from {req.firstPaymentId} count {req.batchCount} overflows uint64"
      errBatchRangeTooLarge)

end XRPVerifier

def RequestBody.paymentIDs (req : RequestBody) : List UInt64 :=
  (List.range req.batchCount.toNat).map fun i =>
    req.firstPaymentId + UInt64.ofNat i

/-! ## The reissues of a payment -/

/-- How `%s` prints an amount which may be nil. -/
def dropsText : Option Int → String
  | none => "<nil>"
  | some v => toString v

namespace XRPVerifier

variable (x : XRPVerifier) (reads : Reads) (req : RequestBody)
  (eventHash : String) (paymentId : UInt64)

def reissueInstructionID (reissueNum : UInt64) : Except GoError Hash :=
  generateReissueInstructionID x.library.keccak256 req.opType
    x.sourceIDEncoded req.senderAddress paymentId reissueNum

/-- One reissue read: a missing reissue and a reissue after the window both
count as none. -/
def fetchReissue (cannotFetch : String) (reissueNum : UInt64) :
    Except GoError (Option ChainLog) := do
  let reissueID ←
    (x.reissueInstructionID req paymentId reissueNum).mapError
      (.wrapf
        s!"cannot generate reissue instruction ID for paymentId {paymentId}, reissue {reissueNum}")
  match x.repo.fetchInstructionLogResult
      (reads.reissueFault paymentId reissueNum) eventHash reissueID with
  | .error err =>
      if err.has .recordNotFound then .ok none
      else .error (.wrapf cannotFetch err)
  | .ok reissueResult =>
      if reissueResult.blockTimestamp > req.untilTimestamp then .ok none
      else .ok (some reissueResult.log)

/-- One iteration of the scan: the fee budget of the reissue, or none when
the scan ends here. -/
def reissueMaxFee (reissueNum : UInt64) : Except GoError (Option Int) := do
  let log ← x.fetchReissue reads req eventHash paymentId
    s!"cannot fetch reissue event for paymentId {paymentId}, reissue {reissueNum}"
    reissueNum
  match log with
  | none => .ok none
  | some log => do
      let reissueMessage ←
        (decodeTeeInstructionsSentEventData log x.parsedTeeInstructionsABI
          .reissue req.opType).mapError
          (.wrapf
            s!"cannot decode reissue event for paymentId {paymentId}, reissue {reissueNum}")
      (checkInstructionConsistency reissueMessage x.sourceIDEncoded
        req.senderAddress paymentId).mapError
        (.wrapf s!"paymentId {paymentId}, reissue {reissueNum}")
      ensure (exceedsMaxXRPDrops reissueMessage.maxFee = false)
        (.wrapf
          s!"paymentId {paymentId}, reissue {reissueNum}: maxFee {dropsText reissueMessage.maxFee} exceeds total supply in drops"
          errDatabase)
      .ok reissueMessage.maxFee

/-- The loop over the reissue numbers: the fee budgets it counted, and
whether it ended before the cap. -/
def scanReissues : ℕ → UInt64 → Except GoError (List Int × Bool)
  | 0, _ => .ok ([], false)
  | remaining + 1, reissueNum => do
      match ← x.reissueMaxFee reads req eventHash paymentId reissueNum with
      | none => .ok ([], true)
      | some maxFee => do
          let (fees, terminatedEarly) ←
            scanReissues remaining (reissueNum + 1)
          .ok (maxFee :: fees, terminatedEarly)

/-- After a full scan the next reissue is probed: exactly as many reissues
as the cap are accepted, one more is not. -/
def probeReissueCap : Except GoError Unit := do
  let next ← x.fetchReissue reads req eventHash paymentId
    s!"cannot probe reissue cap for paymentId {paymentId}"
    (maxReissuesPerPayment + 1)
  ensure (next = none)
    (.errorf
      s!"paymentId {paymentId}: {errReissueLimitExceeded.text} (cap {maxReissuesPerPayment})"
      [errReissueLimitExceeded])

/-- The reissue scan of a payment. -/
def countReissues : Except GoError (List Int) := do
  let (fees, terminatedEarly) ← x.scanReissues reads req eventHash paymentId
    maxReissuesPerPayment.toNat 1
  if terminatedEarly then .ok fees
  else do
    x.probeReissueCap reads req eventHash paymentId
    .ok fees

end XRPVerifier

/-- What a reissue adds to the estimate of its payment. -/
def residual (payMaxFee reissueMaxFee : Int) : Int :=
  if reissueMaxFee - payMaxFee > 0 then reissueMaxFee - payMaxFee else 0

def residuals (payMaxFee : Int) (reissues : List Int) : Int :=
  (reissues.map (residual payMaxFee)).sum

/-! ## Estimated fees -/

/-- The sequence of one payment and its share of the estimated fee. -/
structure PaymentEstimate where
  paymentId : UInt64
  sequence : UInt64
  estimatedFee : Int
deriving DecidableEq

namespace XRPVerifier

variable (x : XRPVerifier) (reads : Reads) (req : RequestBody)
  (eventHash : String) (payLogs : AList fun _ : Hash => ChainLog)

def estimatePayment (paymentId : UInt64) (payID : Hash) :
    Except GoError PaymentEstimate := do
  let payLog ← require (payLogs.lookup payID)
    (.wrapf s!"paymentId {paymentId}" errMissingPayEvent)
  let payMessage ←
    (decodeTeeInstructionsSentEventData payLog x.parsedTeeInstructionsABI
      .pay req.opType).mapError
      (.wrapf s!"cannot decode pay event for paymentId {paymentId}")
  (checkInstructionConsistency payMessage x.sourceIDEncoded
    req.senderAddress paymentId).mapError
    (.wrapf s!"paymentId {paymentId}")
  (verifySequence (reads.initialNonce paymentId) req.senderAddress paymentId
    payMessage.nonce).mapError (.wrapf s!"paymentId {paymentId}")
  ensure (exceedsMaxXRPDrops payMessage.maxFee = false)
    (.wrapf
      s!"paymentId {paymentId}: pay maxFee {dropsText payMessage.maxFee} exceeds total supply in drops"
      errDatabase)
  let payMaxFee := payMessage.maxFee.getD 0
  let reissues ← x.countReissues reads req eventHash paymentId
  .ok {
    paymentId := paymentId
    sequence := payMessage.nonce
    estimatedFee := payMaxFee + residuals payMaxFee reissues }

/-- The estimates of the payments of a batch, one for each entry of the
parallel slices `paymentIDs` and `payIDs`. -/
def computeEstimatedFee (payments : List (UInt64 × Hash)) :
    Except GoError (List PaymentEstimate) :=
  payments.mapM fun payment =>
    x.estimatePayment reads req eventHash payLogs payment.1 payment.2

end XRPVerifier

/-! ## Actual fees -/

def checkTxRowConsistency (library : PmwLibrary) (tx : DBTransaction) :
    Except GoError Unit := do
  ensure (tx.response.utf8ByteSize ≤ maxResponseSize)
    (.wrapf
      s!"XRP transaction response too large: {tx.response.utf8ByteSize} bytes (max {maxResponseSize})"
      errDatabase)
  let id ← (library.unmarshalIdentity tx.response).mapError
    fun err : ExternalError =>
      .wrapfCause "cannot unmarshal transaction response" errDataSource err
  checkRowConsistency library.foldNonASCII id.hash id.account id.sequence tx

def parseTxFee (library : PmwLibrary) (response : String) :
    Except GoError Int := do
  ensure (response.utf8ByteSize ≤ maxResponseSize)
    (.wrapf
      s!"XRP transaction response too large: {response.utf8ByteSize} bytes (max {maxResponseSize})"
      errDatabase)
  let rawFee ← (library.unmarshalFee response).mapError
    fun err : ExternalError =>
      .wrapfCause "cannot unmarshal transaction response" errDataSource err
  ensure (rawFee ≠ "")
    (.wrapf "missing Fee in transaction response" errDataSource)
  let fee ← (parseNonNegativeBigInt rawFee).mapError
    fun err => .wrapfCause s!"cannot parse Fee {quote rawFee}" errDataSource err
  ensure (exceedsMaxXRPDrops (some fee) = false)
    (.wrapf s!"XRP Fee {fee} exceeds total supply in drops ({maxXRPDrops})"
      errDatabase)
  .ok fee

/-- A row whose fee was added, with that fee. -/
structure FeeRow where
  tx : DBTransaction
  fee : Int

def paymentFeeRow (library : PmwLibrary)
    (txMap : AList fun _ : UInt64 => DBTransaction)
    (paymentId sequence : UInt64) : Except GoError FeeRow := do
  let tx ← require (txMap.lookup sequence)
    (.wrapf s!"paymentId {paymentId} (sequence {sequence})"
      errMissingTransaction)
  (checkTxRowConsistency library tx).mapError
    (.wrapf s!"paymentId {paymentId} (sequence {sequence})")
  let fee ← (parseTxFee library tx.response).mapError
    (.wrapf
      s!"cannot parse fee for paymentId {paymentId} (sequence {sequence})")
  .ok ⟨tx, fee⟩

namespace XRPVerifier

variable (x : XRPVerifier) (reads : Reads) (req : RequestBody)

/-- The rows of the batch with their fees; the actual fee is their sum. -/
def computeActualFee (payments : List PaymentEstimate) :
    Except GoError (List FeeRow) := do
  let txMap ← (x.repo.fetchTransactionsBySourceAndSequences
    reads.transactionsFault req.senderAddress
    (payments.map PaymentEstimate.sequence)).mapError
    (.wrapf "cannot fetch transactions")
  payments.mapM fun payment =>
    paymentFeeRow x.library txMap payment.paymentId payment.sequence

end XRPVerifier

/-! ## Verification -/

/-- `big.Int.BitLen`. -/
def bitLen (v : Int) : ℕ :=
  v.natAbs.size

/-- What a run has computed when it reaches its last check. -/
structure Evaluation where
  payments : List PaymentEstimate
  rows : List FeeRow

def Evaluation.estimatedFee (evaluation : Evaluation) : Int :=
  (evaluation.payments.map PaymentEstimate.estimatedFee).sum

def Evaluation.actualFee (evaluation : Evaluation) : Int :=
  (evaluation.rows.map FeeRow.fee).sum

namespace XRPVerifier

variable (x : XRPVerifier) (reads : Reads) (req : RequestBody)

/-- A run up to its last check. -/
def evaluate : Except GoError Evaluation := do
  x.validateBatchRange req
  let eventHash ←
    teeInstructionsSentEventSignature x.parsedTeeInstructionsABI
  let payments ← req.paymentIDs.mapM fun paymentId => do
    let payID ←
      (generatePayInstructionID x.library.keccak256 req.opType
        x.sourceIDEncoded req.senderAddress paymentId).mapError
        (.wrapf
          s!"cannot generate pay instruction ID for paymentId {paymentId}")
    .ok (paymentId, payID)
  let payLogs ← (x.repo.fetchInstructionLogs reads.payEventsFault eventHash
    (payments.map Prod.snd)).mapError (.wrapf "cannot fetch pay events")
  let estimates ←
    x.computeEstimatedFee reads req eventHash payLogs payments
  let rows ← x.computeActualFee reads req estimates
  .ok ⟨estimates, rows⟩

def verify : Except GoError ResponseBody := do
  let evaluation ← x.evaluate reads req
  let estimatedBits := bitLen evaluation.estimatedFee
  let actualBits := bitLen evaluation.actualFee
  ensure (estimatedBits ≤ 256 ∧ actualBits ≤ 256)
    (.wrapf
      s!"fee sum exceeds uint256 (estimated bits={estimatedBits}, actual bits={actualBits})"
      errDatabase)
  .ok {
    lastPaymentId := req.firstPaymentId + req.batchCount - 1
    actualFee := evaluation.actualFee
    estimatedFee := evaluation.estimatedFee }

end XRPVerifier

end FeeProof

end VerifierApi

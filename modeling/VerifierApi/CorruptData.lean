import VerifierApi.PaymentBinding
import VerifierApi.VerifyHandler

/-!
# Corrupt indexer data is never terminal

The kinds of corrupt data which the payment verifiers may meet, and the
verdicts they lead to.  A verifier rejects for a missing record, an invalid
batch or too many reissues, and for nothing else.
-/

namespace VerifierApi

/-- An outcome which is rejected for the given reason only, and never
verified over corrupt data. -/
structure SoundVerdict {T : Type} (outcome : Except GoError T)
    (reason corrupt : Prop) : Prop where
  rejected : verdict outcome = .rejected → reason
  retry : (∃ err, outcome = .error err) → ¬ reason →
    verdict outcome = .retry
  not_verified : corrupt → verdict outcome ≠ .verified
  corrupt_retry : corrupt → ¬ reason → verdict outcome = .retry

theorem SoundVerdict.of_fails {T : Type} {outcome : Except GoError T}
    {reason corrupt : Prop}
    (hfails : FailsWith (fun err => reason ∨ IndexerFault err) outcome)
    (hcorrupt : ∀ response, outcome = .ok response → ¬ corrupt) :
    SoundVerdict outcome reason corrupt := by
  have hretry : (∃ err, outcome = .error err) → ¬ reason →
      verdict outcome = .retry := by
    rintro ⟨err, rfl⟩ hreason
    rcases hfails err rfl with h | hfault
    · exact absurd h hreason
    · exact hfault.classifyVerifyStatus_eq
  have hverified : corrupt → verdict outcome ≠ .verified := by
    intro hdata hstatus
    obtain ⟨response, hok⟩ := verdict_eq_verified_iff.mp hstatus
    exact hcorrupt response hok hdata
  refine ⟨?_, hretry, hverified, ?_⟩
  · intro hstatus
    by_contra hreason
    rcases exists_ok_or_error outcome with ⟨response, hok⟩ | herror
    · rw [verdict_eq_verified_iff.mpr ⟨response, hok⟩] at hstatus
      simp at hstatus
    · rw [hretry herror hreason] at hstatus
      simp at hstatus
  · intro hdata hreason
    rcases exists_ok_or_error outcome with ⟨response, hok⟩ | herror
    · exact absurd hdata (hcorrupt response hok)
    · exact hretry herror hreason

/-! ## Kinds of corruption -/

/-- Faults of the logs filed under one instruction id. -/
inductive CorruptLogs (x : PmwSource) (command : Command) (opType : Hash)
    (sender : String) (paymentId : UInt64) (rows : List DbLog) : Prop
  | duplicate (h : 2 ≤ rows.length)
  | unconvertible (row : DbLog) (err : ExternalError) (hrow : rows = [row])
      (h : x.repo.convertDatabaseLogToChainLog row = .error err)
  | undecodable (row : DbLog) (log : ChainLog) (err : GoError)
      (hrow : rows = [row])
      (hlog : x.repo.convertDatabaseLogToChainLog row = .ok log)
      (h : decodeTeeInstructionsSentEventData log x.parsedTeeInstructionsABI
        command opType = .error err)
  | mismatch (row : DbLog) (log : ChainLog)
      (message : PaymentInstructionMessage) (hrow : rows = [row])
      (hlog : x.repo.convertDatabaseLogToChainLog row = .ok log)
      (hmessage : decodeTeeInstructionsSentEventData log
        x.parsedTeeInstructionsABI command opType = .ok message)
      (h : ¬ (message.sourceId = x.sourceIDEncoded ∧
        message.senderAddress = sender ∧ message.paymentId = paymentId))

/-- Faults of the rows filed under one sequence, for a decoder of their
payload and the identity it finds there. -/
inductive CorruptRows {α : Type} (library : PmwLibrary)
    (unmarshal : String → Except ExternalError α)
    (identity : α → TxIdentity) (rows : List DBTransaction) : Prop
  | duplicate (h : 2 ≤ rows.length)
  | oversize (tx : DBTransaction) (hrow : rows = [tx])
      (h : maxResponseSize < tx.response.utf8ByteSize)
  | malformed (tx : DBTransaction) (err : ExternalError) (hrow : rows = [tx])
      (h : unmarshal tx.response = .error err)
  | mismatch (tx : DBTransaction) (raw : α) (hrow : rows = [tx])
      (hraw : unmarshal tx.response = .ok raw)
      (h : ¬ (equalFold library.foldNonASCII (identity raw).hash tx.hash ∧
        (identity raw).account = tx.sourceAddress ∧
        (identity raw).sequence = tx.sequence))

theorem not_corruptLogs {x : PmwSource} {command : Command} {opType : Hash}
    {sender : String} {paymentId : UInt64} {row : DbLog} {log : ChainLog}
    {message : PaymentInstructionMessage}
    (hlog : x.repo.convertDatabaseLogToChainLog row = .ok log)
    (hmessage : decodeTeeInstructionsSentEventData log
      x.parsedTeeInstructionsABI command opType = .ok message)
    (hmatch : message.sourceId = x.sourceIDEncoded ∧
      message.senderAddress = sender ∧ message.paymentId = paymentId) :
    ¬ CorruptLogs x command opType sender paymentId [row] := by
  intro h
  cases h with
  | duplicate h => simp at h
  | unconvertible row' err hrow h =>
      obtain rfl : row = row' := by simpa using hrow
      simp [hlog] at h
  | undecodable row' log' err hrow hlog' h =>
      obtain rfl : row = row' := by simpa using hrow
      obtain rfl : log = log' := by simpa [hlog] using hlog'
      simp [hmessage] at h
  | mismatch row' log' message' hrow hlog' hmessage' h =>
      obtain rfl : row = row' := by simpa using hrow
      obtain rfl : log = log' := by simpa [hlog] using hlog'
      obtain rfl : message = message' := by simpa [hmessage] using hmessage'
      exact h hmatch

theorem not_corruptLogs_nil {x : PmwSource} {command : Command}
    {opType : Hash} {sender : String} {paymentId : UInt64} :
    ¬ CorruptLogs x command opType sender paymentId [] := by
  intro h
  cases h with
  | duplicate h => simp at h
  | unconvertible row err hrow h => simp at hrow
  | undecodable row log err hrow hlog h => simp at hrow
  | mismatch row log message hrow hlog hmessage h => simp at hrow

theorem PmwSource.PayEvent.not_corruptLogs {x : PmwSource} {opType : Hash}
    {sender : String} {paymentId : UInt64}
    (event : x.PayEvent opType sender paymentId) {id : Hash}
    {eventHash : String}
    (hid : x.payInstructionID opType sender paymentId = .ok id)
    (hevent : teeInstructionsSentEventSignature x.parsedTeeInstructionsABI =
      .ok eventHash) :
    ¬ CorruptLogs x .pay opType sender paymentId
      (x.repo.instructionLogs eventHash id) := by
  obtain rfl := event.id_unique hid
  obtain rfl := event.eventHash_unique hevent
  rw [event.onlyRow]
  exact VerifierApi.not_corruptLogs event.converts event.decode_eq
    ⟨event.sourceId, event.senderAddress, event.paymentId_eq⟩

theorem not_corruptRows {α : Type} {library : PmwLibrary}
    {unmarshal : String → Except ExternalError α}
    {identity : α → TxIdentity} {tx : DBTransaction} {raw : α}
    (hsize : tx.response.utf8ByteSize ≤ maxResponseSize)
    (hraw : unmarshal tx.response = .ok raw)
    (hmatch : equalFold library.foldNonASCII (identity raw).hash tx.hash ∧
      (identity raw).account = tx.sourceAddress ∧
      (identity raw).sequence = tx.sequence) :
    ¬ CorruptRows library unmarshal identity [tx] := by
  intro h
  cases h with
  | duplicate h => simp at h
  | oversize tx' hrow h =>
      obtain rfl : tx = tx' := by simpa using hrow
      omega
  | malformed tx' err hrow h =>
      obtain rfl : tx = tx' := by simpa using hrow
      simp [hraw] at h
  | mismatch tx' raw' hrow hraw' h =>
      obtain rfl : tx = tx' := by simpa using hrow
      obtain rfl : raw = raw' := by simpa [hraw] using hraw'
      exact h hmatch

/-! ## Payment status -/

namespace PaymentStatus

def RawTransactionData.identity (raw : RawTransactionData) : TxIdentity :=
  ⟨raw.account, raw.sequence, raw.hash⟩

/-- Faults of a payload against the event it settles. -/
inductive CorruptPayment (library : PmwLibrary) (raw : RawTransactionData)
    (message : PaymentInstructionMessage) (tx : DBTransaction) : Prop
  | missingResult (h : raw.metaData.transactionResult = "")
  | transactionType (h : raw.transactionType ≠ "Payment")
  | nonNative (h : message.tokenId ≠ [])
  | amount (h : exceedsMaxXRPDrops message.amount = true)
  | maxFee (h : exceedsMaxXRPDrops message.maxFee = true)
  | resultCode
      (h : (textBytes raw.metaData.transactionResult).take 3 ≠
          textBytes "tes" ∧
        (textBytes raw.metaData.transactionResult).take 3 ≠ textBytes "tec")
  | malformedFee (err : GoError)
      (h : parseNonNegativeBigInt raw.fee = .error err)
  | feeMagnitude (fee : Int) (hfee : parseNonNegativeBigInt raw.fee = .ok fee)
      (h : exceedsMaxXRPDrops (some fee) = true)
  | malformedHash (err : ExternalError)
      (h : library.hex32StringToCommonHash tx.hash = .error err)
  | recipient (err : ExternalError)
      (h : normalizeRecipient library message.recipientAddress = .error err)
  | received (recipient : String) (err : GoError)
      (hrecipient : normalizeRecipient library message.recipientAddress =
        .ok recipient)
      (h : findReceivedAmountForAddress raw.metaData recipient = .error err)
  | receivedMagnitude (recipient : String) (received : Int)
      (hrecipient : normalizeRecipient library message.recipientAddress =
        .ok recipient)
      (hreceived : findReceivedAmountForAddress raw.metaData recipient =
        .ok received)
      (h : exceedsMaxXRPDrops (some received) = true)

/-- The corrupt data and failed reads which one run may meet. -/
inductive Corrupt (x : XRPVerifier) (reads : Reads) (req : RequestBody) :
    Prop
  | database
      (h : reads.instructionFault ≠ none ∨ reads.transactionFault ≠ none)
  | rpc (err : ExternalError) (h : reads.initialNonce = .error err)
  | logs (id : Hash) (eventHash : String)
      (hid : x.payInstructionID req.opType req.senderAddress req.paymentId =
        .ok id)
      (hevent : teeInstructionsSentEventSignature
        x.parsedTeeInstructionsABI = .ok eventHash)
      (h : CorruptLogs x .pay req.opType req.senderAddress req.paymentId
        (x.repo.instructionLogs eventHash id))
  | sequence
      (event : x.PayEvent req.opType req.senderAddress req.paymentId)
      (initial : UInt64) (hinitial : reads.initialNonce = .ok initial)
      (h : ¬ AssignedSequence initial req.paymentId event.message.nonce)
  | rows (event : x.PayEvent req.opType req.senderAddress req.paymentId)
      (h : CorruptRows x.library x.library.unmarshalTransaction
        RawTransactionData.identity
        (x.repo.transactionRows req.senderAddress event.message.nonce))
  | payment (event : x.PayEvent req.opType req.senderAddress req.paymentId)
      (tx : DBTransaction) (raw : RawTransactionData)
      (hrow : x.repo.transactionRows req.senderAddress event.message.nonce =
        [tx])
      (hraw : x.library.unmarshalTransaction tx.response = .ok raw)
      (h : CorruptPayment x.library raw event.message tx)

theorem Builds.not_corruptPayment {library : PmwLibrary}
    {raw : RawTransactionData} {message : PaymentInstructionMessage}
    {tx : DBTransaction} {response : ResponseBody}
    (hbuilds : Builds library raw message tx response)
    (hresult : raw.metaData.transactionResult ≠ "") :
    ¬ CorruptPayment library raw message tx := by
  obtain ⟨recipient, hrecipient, hreceived⟩ := hbuilds.received
  intro h
  cases h with
  | missingResult h => exact hresult h
  | transactionType h => exact h hbuilds.transactionType
  | nonNative h => exact h hbuilds.tokenId
  | amount h => simp [hbuilds.amountBound] at h
  | maxFee h => simp [hbuilds.maxFeeBound] at h
  | resultCode h =>
      have hstatus := hbuilds.status
      unfold getTransactionStatus at hstatus
      rw [if_neg h.1, if_neg h.2] at hstatus
      split at hstatus <;> simp at hstatus
  | malformedFee err h => simp [hbuilds.fee] at h
  | feeMagnitude fee hfee h =>
      obtain rfl : response.transactionFee = fee := by
        simpa [hbuilds.fee] using hfee
      simp [hbuilds.feeBound] at h
  | malformedHash err h => simp [hbuilds.transactionId] at h
  | recipient err h => simp [hrecipient] at h
  | received recipient' err hrecipient' h =>
      obtain rfl : recipient = recipient' := by
        simpa [hrecipient] using hrecipient'
      simp [hreceived] at h
  | receivedMagnitude recipient' received' hrecipient' hreceived' h =>
      obtain rfl : recipient = recipient' := by
        simpa [hrecipient] using hrecipient'
      obtain rfl : response.receivedAmount = received' := by
        simpa [hreceived] using hreceived'
      simp [hbuilds.receivedBound] at h

theorem XRPVerifier.not_corrupt_of_verify {x : XRPVerifier} {reads : Reads}
    {req : RequestBody} {response : ResponseBody}
    (h : x.verify reads req = .ok response) : ¬ Corrupt x reads req := by
  obtain ⟨event, ⟨initial, hinitial, hassigned⟩, ⟨a⟩, hfault, hfault'⟩ :=
    verify_attested h
  intro hcorrupt
  cases hcorrupt with
  | database h => simp [hfault, hfault'] at h
  | rpc err h => simp [hinitial] at h
  | logs id eventHash hid hevent h =>
      exact event.not_corruptLogs hid hevent h
  | sequence event' initial' hinitial' h =>
      obtain rfl : initial = initial' := by simpa [hinitial] using hinitial'
      rw [event'.message_unique event] at h
      exact h hassigned
  | rows event' h =>
      rw [event'.message_unique event, a.onlyRow] at h
      exact not_corruptRows a.size a.unmarshals
        ⟨a.hash, a.account, a.sequence⟩ h
  | payment event' tx raw hrow hraw h =>
      rw [event'.message_unique event, a.onlyRow] at hrow
      obtain rfl : a.tx = tx := by simpa using hrow
      obtain rfl : a.raw = raw := by simpa [a.unmarshals] using hraw
      rw [event'.message_unique event] at h
      exact a.builds.not_corruptPayment a.result h

theorem XRPVerifier.verify_soundVerdict (x : XRPVerifier) (reads : Reads)
    (req : RequestBody) :
    SoundVerdict (x.verify reads req) (x.RecordMissing reads req)
      (Corrupt x reads req) := by
  refine SoundVerdict.of_fails ?_ fun response h => not_corrupt_of_verify h
  exact verify_fails.mono fun err h => h.imp_left And.right

end PaymentStatus

/-! ## Fee proof -/

namespace FeeProof

namespace XRPVerifier

variable {x : XRPVerifier} {reads : Reads} {req : RequestBody}
  {eventHash : String} {paymentId : UInt64}

/-- The reasons for which a fee proof is refused. -/
inductive Refused (x : XRPVerifier) (reads : Reads) (req : RequestBody) :
    Prop
  | batchRange (h : ¬ req.ValidRange)
  | payLog (p : UInt64) (hp : p ∈ req.paymentIDs) (id : Hash)
      (eventHash : String)
      (hid : x.payInstructionID req.opType req.senderAddress p = .ok id)
      (hevent : teeInstructionsSentEventSignature
        x.parsedTeeInstructionsABI = .ok eventHash)
      (h : x.repo.instructionLogs eventHash id = [])
  | reissues (p : UInt64) (hp : p ∈ req.paymentIDs) (eventHash : String)
      (hevent : teeInstructionsSentEventSignature
        x.parsedTeeInstructionsABI = .ok eventHash)
      (h : x.ReissuesExceedCap req eventHash p)
  | transaction (p : UInt64) (hp : p ∈ req.paymentIDs)
      (event : x.PayEvent req.opType req.senderAddress p) (initial : UInt64)
      (hinitial : reads.initialNonce p = .ok initial)
      (hassigned : AssignedSequence initial p event.message.nonce)
      (h : x.repo.transactionRows req.senderAddress event.message.nonce = [])

/-- Faults of one reissue: its read fails, or finds several logs or a log
which does not convert, or its log in the window is corrupt, or its budget
exceeds the supply. -/
inductive CorruptReissue (x : XRPVerifier) (reads : Reads)
    (req : RequestBody) (eventHash : String)
    (paymentId reissueNum : UInt64) : Prop
  | database (h : reads.reissueFault paymentId reissueNum ≠ none)
  | unreadable (id : Hash)
      (hid : x.reissueInstructionID req paymentId reissueNum = .ok id)
      (h : ¬ x.repo.Readable eventHash id)
  | logs (id : Hash)
      (hid : x.reissueInstructionID req paymentId reissueNum = .ok id)
      (hwindow : ∀ row ∈ x.repo.instructionLogs eventHash id,
        row.timestamp ≤ req.untilTimestamp)
      (h : CorruptLogs x.toPmwSource .reissue req.opType req.senderAddress
        paymentId (x.repo.instructionLogs eventHash id))
  | maxFee (id : Hash) (row : DbLog) (log : ChainLog)
      (message : PaymentInstructionMessage)
      (hid : x.reissueInstructionID req paymentId reissueNum = .ok id)
      (hrow : x.repo.instructionLogs eventHash id = [row])
      (hwindow : row.timestamp ≤ req.untilTimestamp)
      (hlog : x.repo.convertDatabaseLogToChainLog row = .ok log)
      (hmessage : decodeTeeInstructionsSentEventData log
        x.parsedTeeInstructionsABI .reissue req.opType = .ok message)
      (h : exceedsMaxXRPDrops message.maxFee = true)

/-- Faults of the fee in a payload. -/
inductive CorruptFee (library : PmwLibrary) (response : String) : Prop
  | malformed (err : ExternalError)
      (h : library.unmarshalFee response = .error err)
  | missing (h : library.unmarshalFee response = .ok "")
  | invalid (rawFee : String) (err : GoError)
      (hraw : library.unmarshalFee response = .ok rawFee)
      (h : parseNonNegativeBigInt rawFee = .error err)
  | magnitude (rawFee : String) (fee : Int)
      (hraw : library.unmarshalFee response = .ok rawFee)
      (hfee : parseNonNegativeBigInt rawFee = .ok fee)
      (h : exceedsMaxXRPDrops (some fee) = true)

/-- The corrupt data and failed reads which one run may meet.  A reissue is
met when every reissue before it lies in the window. -/
inductive Corrupt (x : XRPVerifier) (reads : Reads) (req : RequestBody) :
    Prop
  | database
      (h : reads.payEventsFault ≠ none ∨ reads.transactionsFault ≠ none)
  | rpc (p : UInt64) (hp : p ∈ req.paymentIDs) (err : ExternalError)
      (h : reads.initialNonce p = .error err)
  | logs (p : UInt64) (hp : p ∈ req.paymentIDs) (id : Hash)
      (eventHash : String)
      (hid : x.payInstructionID req.opType req.senderAddress p = .ok id)
      (hevent : teeInstructionsSentEventSignature
        x.parsedTeeInstructionsABI = .ok eventHash)
      (h : CorruptLogs x.toPmwSource .pay req.opType req.senderAddress p
        (x.repo.instructionLogs eventHash id))
  | sequence (p : UInt64) (hp : p ∈ req.paymentIDs)
      (event : x.PayEvent req.opType req.senderAddress p) (initial : UInt64)
      (hinitial : reads.initialNonce p = .ok initial)
      (h : ¬ AssignedSequence initial p event.message.nonce)
  | payMaxFee (p : UInt64) (hp : p ∈ req.paymentIDs)
      (event : x.PayEvent req.opType req.senderAddress p)
      (h : exceedsMaxXRPDrops event.message.maxFee = true)
  | reissue (p : UInt64) (hp : p ∈ req.paymentIDs) (eventHash : String)
      (hevent : teeInstructionsSentEventSignature
        x.parsedTeeInstructionsABI = .ok eventHash)
      (k : ℕ) (hk : k < maxReissuesPerPayment.toNat)
      (hbefore : ∀ i < k,
        x.ReissueInWindow req eventHash p (1 + UInt64.ofNat i))
      (h : x.CorruptReissue reads req eventHash p (1 + UInt64.ofNat k))
  | probe (p : UInt64) (hp : p ∈ req.paymentIDs) (eventHash : String)
      (id : Hash)
      (hevent : teeInstructionsSentEventSignature
        x.parsedTeeInstructionsABI = .ok eventHash)
      (hbefore : ∀ i < maxReissuesPerPayment.toNat,
        x.ReissueInWindow req eventHash p (1 + UInt64.ofNat i))
      (hid : x.reissueInstructionID req p (maxReissuesPerPayment + 1) =
        .ok id)
      (h : reads.reissueFault p (maxReissuesPerPayment + 1) ≠ none ∨
        ¬ x.repo.Readable eventHash id)
  | rows (p : UInt64) (hp : p ∈ req.paymentIDs)
      (event : x.PayEvent req.opType req.senderAddress p)
      (h : CorruptRows x.library x.library.unmarshalIdentity id
        (x.repo.transactionRows req.senderAddress event.message.nonce))
  | fee (p : UInt64) (hp : p ∈ req.paymentIDs)
      (event : x.PayEvent req.opType req.senderAddress p)
      (tx : DBTransaction)
      (hrow : x.repo.transactionRows req.senderAddress event.message.nonce =
        [tx])
      (h : CorruptFee x.library tx.response)

theorem estimatePayment_fails {payLogs : AList fun _ : Hash => ChainLog}
    {payID : Hash} :
    FailsWith (fun err =>
        (TerminalError err ∧ (payLogs.lookup payID = none ∨
          x.ReissuesExceedCap req eventHash paymentId)) ∨ IndexerFault err)
      (x.estimatePayment reads req eventHash payLogs paymentId payID) := by
  unfold estimatePayment
  refine FailsWith.bind ?_ fun payLog _ => ?_
  · intro err herr
    obtain ⟨hnone, rfl⟩ := require_eq_error.mp herr
    refine .inl ⟨?_, .inl hnone⟩
    exact ⟨.missingPayEvent, by simp [terminalSentinels],
      by simp [errMissingPayEvent]⟩
  refine FailsWith.bind ?_ fun message _ => ?_
  · exact (decodeTeeInstructionsSentEventData_fails _ _ _ _).mapError
      fun _ h => .inr (.wrapf _ h)
  refine FailsWith.bind ?_ fun _ _ => ?_
  · exact (checkInstructionConsistency_fails _ _ _ _).mapError
      fun _ h => .inr (.wrapf _ h)
  refine FailsWith.bind ?_ fun _ _ => ?_
  · exact (verifySequence_fails _ _ _ _).mapError
      fun _ h => .inr (.wrapf _ h)
  refine FailsWith.ensure_bind (.inr (.wrapf _ .errDatabase)) fun _ => ?_
  refine FailsWith.bind ?_ fun reissues _ => .ok _
  refine countReissues_fails.mono ?_
  rintro err (⟨hsentinels, hcap⟩ | hfault)
  · exact .inl ⟨⟨_, by simp [terminalSentinels], hsentinels⟩, .inr hcap⟩
  · exact .inr hfault

theorem checkTxRowConsistency_fails (library : PmwLibrary)
    (tx : DBTransaction) :
    FailsWith IndexerFault (checkTxRowConsistency library tx) := by
  unfold checkTxRowConsistency
  refine FailsWith.ensure_bind (.wrapf _ .errDatabase) fun _ => ?_
  refine FailsWith.bind ?_ fun id _ => checkRowConsistency_fails _ _ _ _ _
  exact FailsWith.mapError_of_forall fun err =>
    .wrapfCause _ .errDataSource (.external err)

theorem parseTxFee_fails (library : PmwLibrary) (response : String) :
    FailsWith IndexerFault (parseTxFee library response) := by
  unfold parseTxFee
  refine FailsWith.ensure_bind (.wrapf _ .errDatabase) fun _ => ?_
  refine FailsWith.bind ?_ fun rawFee _ => ?_
  · exact FailsWith.mapError_of_forall fun err =>
      .wrapfCause _ .errDataSource (.external err)
  refine FailsWith.ensure_bind (.wrapf _ .errDataSource) fun _ => ?_
  refine FailsWith.bind ?_ fun fee _ => ?_
  · exact (parseNonNegativeBigInt_fails _).mapError
      fun _ h => .wrapfCause _ .errDataSource h
  exact FailsWith.ensure_bind (.wrapf _ .errDatabase) fun _ => .ok _

theorem paymentFeeRow_fails {library : PmwLibrary}
    {txMap : AList fun _ : UInt64 => DBTransaction} {sequence : UInt64} :
    FailsWith (fun err =>
        (TerminalError err ∧ txMap.lookup sequence = none) ∨
          IndexerFault err)
      (paymentFeeRow library txMap paymentId sequence) := by
  unfold paymentFeeRow
  refine FailsWith.bind ?_ fun tx _ => ?_
  · intro err herr
    obtain ⟨hnone, rfl⟩ := require_eq_error.mp herr
    refine .inl ⟨?_, hnone⟩
    exact ⟨.missingTransaction, by simp [terminalSentinels],
      by simp [errMissingTransaction]⟩
  refine FailsWith.bind ?_ fun _ _ => ?_
  · exact (checkTxRowConsistency_fails _ _).mapError
      fun _ h => .inr (.wrapf _ h)
  refine FailsWith.bind ?_ fun fee _ => .ok _
  exact (parseTxFee_fails _ _).mapError fun _ h => .inr (.wrapf _ h)

/-- The pay logs which a run has read. -/
structure PayStage (x : XRPVerifier) (reads : Reads) (req : RequestBody)
    (eventHash : String) (payments : List (UInt64 × Hash))
    (payLogs : AList fun _ : Hash => ChainLog) : Prop where
  event : teeInstructionsSentEventSignature x.parsedTeeInstructionsABI =
    .ok eventHash
  payIDs : x.HasPayIDs req payments
  logs : x.repo.fetchInstructionLogs reads.payEventsFault eventHash
    (payments.map Prod.snd) = .ok payLogs

/-- What a stage of the run does not find, or finds too often. -/
inductive Missed (x : XRPVerifier) (reads : Reads) (req : RequestBody) : Prop
  | batchRange (h : x.validateBatchRange req ≠ .ok ())
  | payLog (eventHash : String) (payments : List (UInt64 × Hash))
      (payLogs : AList fun _ : Hash => ChainLog)
      (stage : x.PayStage reads req eventHash payments payLogs)
      (payment : UInt64 × Hash) (hmem : payment ∈ payments)
      (h : payLogs.lookup payment.2 = none)
  | reissues (eventHash : String) (payments : List (UInt64 × Hash))
      (payLogs : AList fun _ : Hash => ChainLog)
      (stage : x.PayStage reads req eventHash payments payLogs)
      (payment : UInt64 × Hash) (hmem : payment ∈ payments)
      (h : x.ReissuesExceedCap req eventHash payment.1)
  | transaction (eventHash : String) (payments : List (UInt64 × Hash))
      (payLogs : AList fun _ : Hash => ChainLog)
      (stage : x.PayStage reads req eventHash payments payLogs)
      (estimates : List PaymentEstimate)
      (hestimates : List.Forall₂ (fun payment estimate =>
        x.estimatePayment reads req eventHash payLogs payment.1 payment.2 =
          .ok estimate) payments estimates)
      (txMap : AList fun _ : UInt64 => DBTransaction)
      (htxMap : x.repo.fetchTransactionsBySourceAndSequences
        reads.transactionsFault req.senderAddress
        (estimates.map PaymentEstimate.sequence) = .ok txMap)
      (estimate : PaymentEstimate) (hmem : estimate ∈ estimates)
      (h : txMap.lookup estimate.sequence = none)

/-- Every error of a run says that something is missing, or it is an indexer
fault. -/
theorem evaluate_fails_missed :
    FailsWith (fun err =>
        (TerminalError err ∧ x.Missed reads req) ∨ IndexerFault err)
      (x.evaluate reads req) := by
  unfold evaluate
  refine FailsWith.bind ?_ fun _ _ => ?_
  · intro err herr
    refine .inl ⟨⟨.batchRangeTooLarge, by simp [terminalSentinels],
      validateBatchRange_fails _ _ err herr⟩, .batchRange ?_⟩
    simp [herr]
  refine FailsWith.bind ?_ fun eventHash hevent => ?_
  · exact (teeInstructionsSentEventSignature_fails _).mono fun _ h => .inr h
  refine FailsWith.bind ?_ fun payments hpayments => ?_
  · refine FailsWith.mapM fun p _ => ?_
    exact FailsWith.bind (.mapError_of_total (x.payInstructionID_total _ _ p))
      fun _ _ => .ok _
  refine FailsWith.bind ?_ fun payLogs hpayLogs => ?_
  · exact DBRepo.fetchInstructionLogs_fails.mapError
      fun _ h => .inr (.wrapf _ h)
  simp only [PmwSource.generatePayInstructionID_eq, mapM_eq_ok_iff,
    bind_eq_ok, mapError_eq_ok, Except.ok.injEq, exists_payID_iff]
    at hpayments hpayLogs
  have hstage : x.PayStage reads req eventHash payments payLogs :=
    ⟨hevent, hpayments, hpayLogs⟩
  refine FailsWith.bind ?_ fun estimates hestimates => ?_
  · refine FailsWith.mapM fun payment hmem => ?_
    refine estimatePayment_fails.mono ?_
    rintro err (⟨hterminal, hnone | hcap⟩ | hfault)
    · exact .inl ⟨hterminal, .payLog _ _ _ hstage payment hmem hnone⟩
    · exact .inl ⟨hterminal, .reissues _ _ _ hstage payment hmem hcap⟩
    · exact .inr hfault
  have hpairs := mapM_eq_ok_iff.mp hestimates
  refine FailsWith.bind ?_ fun rows _ => .ok _
  refine FailsWith.bind ?_ fun txMap htxMap => ?_
  · exact DBRepo.fetchTransactions_fails.mapError
      fun _ h => .inr (.wrapf _ h)
  rw [mapError_eq_ok] at htxMap
  refine FailsWith.mapM fun estimate hmem => ?_
  refine paymentFeeRow_fails.mono ?_
  rintro err (⟨hterminal, hnone⟩ | hfault)
  · exact .inl ⟨hterminal, .transaction _ _ _ hstage estimates hpairs txMap
      htxMap estimate hmem hnone⟩
  · exact .inr hfault

theorem Missed.refused {source : PmwSource}
    (hkeep : KeepsInstructionTopic source.repo.convertDatabaseLogToChainLog)
    (h : (newXRPVerifier source).Missed reads req) :
    Refused (newXRPVerifier source) reads req := by
  cases h with
  | batchRange h => exact .batchRange (mt validateBatchRange_eq_ok_iff.mpr h)
  | payLog eventHash payments payLogs stage payment hmem h =>
      obtain ⟨p, hp, rfl, hid⟩ := forall₂_exists_left stage.payIDs hmem
      have hnil := DBRepo.instructionLogs_eq_nil_of_lookup hkeep
        stage.logs (List.mem_map_of_mem hmem) h
      exact .payLog _ hp _ _ hid stage.event hnil
  | reissues eventHash payments payLogs stage payment hmem h =>
      obtain ⟨p, hp, rfl, -⟩ := forall₂_exists_left stage.payIDs hmem
      exact .reissues _ hp _ stage.event h
  | transaction eventHash payments payLogs stage estimates hestimates txMap
      htxMap estimate hmem h =>
      have hnil := DBRepo.transactionRows_eq_nil_of_lookup htxMap
        (List.mem_map_of_mem hmem) h
      obtain ⟨payment, hpayment, hestimate⟩ :=
        forall₂_exists_left hestimates hmem
      obtain ⟨p, hp, rfl, hid⟩ :=
        forall₂_exists_left stage.payIDs hpayment
      obtain ⟨event, hevents⟩ := estimates_of_estimatePayment hkeep
        stage.event stage.logs (List.mem_map_of_mem hpayment) hid
        hestimate
      obtain ⟨initial, hinitial, hassigned⟩ := hevents.assigned
      rw [hevents.sequence_eq] at hassigned hnil
      exact .transaction _ hp event initial hinitial hassigned hnil

theorem evaluate_fails {source : PmwSource}
    (hkeep : KeepsInstructionTopic
      source.repo.convertDatabaseLogToChainLog) :
    FailsWith (fun err =>
        (TerminalError err ∧ Refused (newXRPVerifier source) reads req) ∨
          IndexerFault err)
      ((newXRPVerifier source).evaluate reads req) := by
  refine evaluate_fails_missed.mono ?_
  rintro err (⟨hterminal, hmissed⟩ | hfault)
  · exact .inl ⟨hterminal, hmissed.refused hkeep⟩
  · exact .inr hfault

theorem verify_fails {source : PmwSource}
    (hkeep : KeepsInstructionTopic
      source.repo.convertDatabaseLogToChainLog) :
    FailsWith (fun err =>
        (TerminalError err ∧ Refused (newXRPVerifier source) reads req) ∨
          IndexerFault err)
      ((newXRPVerifier source).verify reads req) := by
  unfold verify
  refine FailsWith.bind (evaluate_fails hkeep) fun evaluation _ => ?_
  exact FailsWith.ensure_bind (.inr (.wrapf _ .errDatabase)) fun _ => .ok _

theorem readable_of_skipped {id : Hash}
    (h : x.repo.instructionLogs eventHash id = [] ∨
      ∃ row log, x.repo.instructionLogs eventHash id = [row] ∧
        x.repo.convertDatabaseLogToChainLog row = .ok log ∧
        req.untilTimestamp < row.timestamp) :
    x.repo.Readable eventHash id :=
  h.imp_right fun ⟨row, log, hrow, hlog, _⟩ => ⟨row, log, hrow, hlog⟩

/-- A skipped reissue lies outside the window, where nothing is read from
its log. -/
theorem not_corruptReissue_of_skipped {reissueNum : UInt64}
    {cannotFetch : String}
    (h : x.fetchReissue reads req eventHash paymentId cannotFetch
      reissueNum = .ok none) :
    ¬ x.CorruptReissue reads req eventHash paymentId reissueNum := by
  have hout := fetchReissue_not_inWindow h
  obtain ⟨hfault, id, hid, hrows⟩ := fetchReissue_eq_none_iff.mp h
  intro hcorrupt
  cases hcorrupt with
  | database h => exact h hfault
  | unreadable id' hid' h =>
      obtain rfl : id = id' := by simpa [hid] using hid'
      exact h (readable_of_skipped hrows)
  | logs id' hid' hwindow h =>
      obtain rfl : id = id' := by simpa [hid] using hid'
      rcases hrows with hnil | ⟨row, log, hrow, -, -⟩
      · rw [hnil] at h
        exact not_corruptLogs_nil h
      · have hle := hwindow row (by simp [hrow])
        exact hout ⟨id, row, hid, hrow, hle⟩
  | maxFee id' row log message hid' hrow hwindow hlog hmessage h =>
      exact hout ⟨id', row, hid', hrow, hwindow⟩

theorem not_corruptReissue_of_counted {reissueNum : UInt64}
    {cannotFetch : String} {log : ChainLog} {maxFee : Int}
    (h : x.fetchReissue reads req eventHash paymentId cannotFetch
      reissueNum = .ok (some log))
    (hcounts : x.CountsFor req paymentId log maxFee) :
    ¬ x.CorruptReissue reads req eventHash paymentId reissueNum := by
  obtain ⟨hfault, id, hid, row, hrow, hlog, -⟩ :=
    fetchReissue_eq_some_iff.mp h
  obtain ⟨message, hmessage, hconsistent, hfee⟩ := hcounts.decodes
  have hbound : exceedsMaxXRPDrops message.maxFee = false :=
    (exceedsMaxXRPDrops_eq_false_iff _).mpr
      ⟨maxFee, hfee, hcounts.nonneg, hcounts.le_supply⟩
  intro hcorrupt
  cases hcorrupt with
  | database h => exact h hfault
  | unreadable id' hid' h =>
      obtain rfl : id = id' := by simpa [hid] using hid'
      exact h (.inr ⟨row, log, hrow, hlog⟩)
  | logs id' hid' hwindow h =>
      obtain rfl : id = id' := by simpa [hid] using hid'
      rw [hrow] at h
      exact not_corruptLogs hlog hmessage
        (checkInstructionConsistency_eq_ok_iff.mp hconsistent) h
  | maxFee id' row' log' message' hid' hrow' hwindow hlog' hmessage' h =>
      obtain rfl : id = id' := by simpa [hid] using hid'
      obtain rfl : row = row' := by simpa [hrow] using hrow'
      obtain rfl : log = log' := by simpa [hlog] using hlog'
      obtain rfl : message = message' := by
        simpa [hmessage] using hmessage'
      rw [hbound] at h
      contradiction

theorem reissueMaxFee_not_corrupt {reissueNum : UInt64}
    {maxFee : Option Int}
    (h : x.reissueMaxFee reads req eventHash paymentId reissueNum =
      .ok maxFee) :
    ¬ x.CorruptReissue reads req eventHash paymentId reissueNum := by
  cases maxFee with
  | none =>
      exact not_corruptReissue_of_skipped
        ((reissueMaxFee_eq_none_iff "").mp h)
  | some maxFee =>
      obtain ⟨log, hlog, hcounts⟩ := (reissueMaxFee_eq_some_iff "").mp h
      exact not_corruptReissue_of_counted hlog hcounts

/-- A scan reads every reissue whose predecessors lie in the window, and it
ends early only at one which does not. -/
theorem scanReissues_reaches {remaining : ℕ} {reissueNum : UInt64}
    {fees : List Int} {terminatedEarly : Bool}
    (h : x.scanReissues reads req eventHash paymentId remaining
      reissueNum = .ok (fees, terminatedEarly)) :
    (∀ k < remaining, (∀ i < k, x.ReissueInWindow req eventHash paymentId
        (reissueNum + UInt64.ofNat i)) →
      ∃ maxFee, x.reissueMaxFee reads req eventHash paymentId
        (reissueNum + UInt64.ofNat k) = .ok maxFee) ∧
    ((∀ i < remaining, x.ReissueInWindow req eventHash paymentId
        (reissueNum + UInt64.ofNat i)) → terminatedEarly = false) := by
  induction remaining generalizing reissueNum fees with
  | zero =>
      simp only [scanReissues, Except.ok.injEq, Prod.mk.injEq] at h
      simp [← h.2]
  | succ remaining ih =>
      unfold scanReissues at h
      obtain ⟨maxFee, hfee, h⟩ := bind_eq_ok.mp h
      have hzero : reissueNum + UInt64.ofNat 0 = reissueNum := by simp
      cases maxFee with
      | none =>
          have hout := fetchReissue_not_inWindow
            ((reissueMaxFee_eq_none_iff "").mp hfee)
          refine ⟨?_, ?_⟩
          · intro k hk hbefore
            cases k with
            | zero => exact ⟨none, by rw [hzero, hfee]⟩
            | succ k => exact absurd (hzero ▸ hbefore 0 (by omega)) hout
          · intro hall
            exact absurd (hzero ▸ hall 0 (by omega)) hout
      | some fee =>
          obtain ⟨⟨rest, early⟩, hrest, h⟩ := bind_eq_ok.mp h
          simp only [Except.ok.injEq, Prod.mk.injEq] at h
          obtain ⟨-, rfl⟩ := h
          obtain ⟨hreach, hfull⟩ := ih hrest
          simp only [succ_add_ofNat] at hreach hfull
          refine ⟨?_, ?_⟩
          · intro k hk hbefore
            cases k with
            | zero => exact ⟨some fee, by rw [hzero, hfee]⟩
            | succ k =>
                exact hreach k (by omega)
                  fun i hi => hbefore (i + 1) (by omega)
          · intro hall
            exact hfull fun i hi => hall (i + 1) (by omega)

theorem parseTxFee_not_corrupt {library : PmwLibrary} {response : String}
    {fee : Int} (h : parseTxFee library response = .ok fee) :
    ¬ CorruptFee library response := by
  simp only [parseTxFee, bind_eq_ok, ensure_eq_ok, mapError_eq_ok,
    exists_const, Except.ok.injEq] at h
  obtain ⟨-, rawFee, hraw, hne, parsed, hparsed, hbound, rfl⟩ := h
  intro hcorrupt
  cases hcorrupt with
  | malformed err h => simp [hraw] at h
  | missing h =>
      obtain rfl : rawFee = "" := by simpa [hraw] using h
      exact hne rfl
  | invalid rawFee' err hraw' h =>
      obtain rfl : rawFee = rawFee' := by simpa [hraw] using hraw'
      simp [hparsed] at h
  | magnitude rawFee' fee' hraw' hfee' h =>
      obtain rfl : rawFee = rawFee' := by simpa [hraw] using hraw'
      obtain rfl : parsed = fee' := by simpa [hparsed] using hfee'
      simp [hbound] at h

theorem checkTxRowConsistency_not_corrupt {library : PmwLibrary}
    {tx : DBTransaction} (h : checkTxRowConsistency library tx = .ok ()) :
    ¬ CorruptRows library library.unmarshalIdentity id [tx] := by
  simp only [checkTxRowConsistency, bind_eq_ok, ensure_eq_ok,
    mapError_eq_ok, exists_const, checkRowConsistency_eq_ok_iff] at h
  obtain ⟨hsize, identity, hidentity, hmatch⟩ := h
  exact not_corruptRows hsize hidentity hmatch

theorem countReissues_not_corrupt {reissues : List Int}
    (h : x.countReissues reads req eventHash paymentId = .ok reissues)
    {k : ℕ} (hk : k < maxReissuesPerPayment.toNat)
    (hbefore : ∀ i < k,
      x.ReissueInWindow req eventHash paymentId (1 + UInt64.ofNat i)) :
    ¬ x.CorruptReissue reads req eventHash paymentId
      (1 + UInt64.ofNat k) := by
  obtain ⟨⟨fees, early⟩, hscan, -⟩ := bind_eq_ok.mp h
  obtain ⟨maxFee, hfee⟩ := (scanReissues_reaches hscan).1 k hk hbefore
  exact reissueMaxFee_not_corrupt hfee

/-- A series which fills the cap ends with it. -/
theorem countReissues_probe {reissues : List Int}
    (h : x.countReissues reads req eventHash paymentId = .ok reissues)
    (hall : ∀ i < maxReissuesPerPayment.toNat,
      x.ReissueInWindow req eventHash paymentId (1 + UInt64.ofNat i)) :
    ∃ cannotFetch, x.fetchReissue reads req eventHash paymentId cannotFetch
      (maxReissuesPerPayment + 1) = .ok none := by
  obtain ⟨⟨fees, early⟩, hscan, h⟩ := bind_eq_ok.mp h
  obtain rfl := (scanReissues_reaches hscan).2 hall
  obtain ⟨_, hprobe, -⟩ := bind_eq_ok.mp h
  obtain ⟨next, hnext, hnone⟩ := bind_eq_ok.mp hprobe
  obtain rfl := ensure_eq_ok.mp hnone
  exact ⟨_, hnext⟩

theorem not_reissuesExceedCap {reissues : List Int}
    (h : x.countReissues reads req eventHash paymentId = .ok reissues) :
    ¬ x.ReissuesExceedCap req eventHash paymentId := by
  intro hexceed
  obtain ⟨cannotFetch, hprobe⟩ :=
    countReissues_probe h fun i hi => hexceed i hi.le
  have hnext : maxReissuesPerPayment + 1 =
      1 + UInt64.ofNat maxReissuesPerPayment.toNat := by decide
  rw [hnext] at hprobe
  exact fetchReissue_not_inWindow hprobe (hexceed _ le_rfl)

/-- Behind a verified batch stand the event and the transaction of each of
its payments. -/
theorem payment_of_evaluate {source : PmwSource} {evaluation : Evaluation}
    (hkeep : KeepsInstructionTopic source.repo.convertDatabaseLogToChainLog)
    (h : (newXRPVerifier source).evaluate reads req = .ok evaluation)
    {p : UInt64} (hp : p ∈ req.paymentIDs) :
    ∃ estimate event,
      (newXRPVerifier source).Estimates reads req p estimate event ∧
        ∃ row, (newXRPVerifier source).Pays req event.message.nonce row := by
  obtain ⟨-, -, -, hestimates, hpays⟩ := (evaluate_eq_ok_iff hkeep).mp h
  obtain ⟨estimate, hmem, event, hestimate⟩ :=
    forall₂_exists_right hestimates hp
  obtain ⟨row, -, hrow⟩ := forall₂_exists_right hpays hmem
  rw [hestimate.sequence_eq] at hrow
  exact ⟨estimate, event, hestimate, row, hrow⟩

theorem Estimates.maxFee_within_supply {estimate : PaymentEstimate}
    {event : x.PayEvent req.opType req.senderAddress paymentId}
    (h : x.Estimates reads req paymentId estimate event) :
    exceedsMaxXRPDrops event.message.maxFee = false := by
  obtain ⟨maxFee, reissues, hmaxFee, hnonneg, hbound, -⟩ := h.estimate_eq
  exact (exceedsMaxXRPDrops_eq_false_iff _).mpr
    ⟨maxFee, hmaxFee, hnonneg, hbound⟩

theorem Estimates.exists_reissues {estimate : PaymentEstimate}
    {event : x.PayEvent req.opType req.senderAddress paymentId}
    (h : x.Estimates reads req paymentId estimate event)
    (hevent : teeInstructionsSentEventSignature
      x.parsedTeeInstructionsABI = .ok eventHash) :
    ∃ reissues,
      x.countReissues reads req eventHash paymentId = .ok reissues := by
  obtain ⟨maxFee, reissues, -, -, -, hreissues, -⟩ := h.estimate_eq
  obtain rfl := event.eventHash_unique hevent
  exact ⟨reissues, hreissues⟩

theorem not_corrupt_of_verify {source : PmwSource} {response : ResponseBody}
    (hkeep : KeepsInstructionTopic source.repo.convertDatabaseLogToChainLog)
    (h : (newXRPVerifier source).verify reads req = .ok response) :
    ¬ Corrupt (newXRPVerifier source) reads req := by
  obtain ⟨evaluation, hevaluation, -⟩ := verify_eq_ok_iff.mp h
  obtain ⟨-, hfault, hfault', -⟩ := (evaluate_eq_ok_iff hkeep).mp hevaluation
  intro hcorrupt
  cases hcorrupt with
  | database h => simp [hfault, hfault'] at h
  | rpc p hp err h =>
      obtain ⟨estimate, event, hestimate, -⟩ :=
        payment_of_evaluate hkeep hevaluation hp
      obtain ⟨initial, hinitial, -⟩ := hestimate.assigned
      simp [hinitial] at h
  | logs p hp id eventHash hid hevent h =>
      obtain ⟨estimate, event, -⟩ := payment_of_evaluate hkeep hevaluation hp
      exact event.not_corruptLogs hid hevent h
  | sequence p hp event' initial' hinitial' h =>
      obtain ⟨estimate, event, hestimate, -⟩ :=
        payment_of_evaluate hkeep hevaluation hp
      obtain ⟨initial, hinitial, hassigned⟩ := hestimate.assigned
      obtain rfl : initial = initial' := by simpa [hinitial] using hinitial'
      rw [event'.message_unique event, ← hestimate.sequence_eq] at h
      exact h hassigned
  | payMaxFee p hp event' h =>
      obtain ⟨estimate, event, hestimate, -⟩ :=
        payment_of_evaluate hkeep hevaluation hp
      rw [event'.message_unique event, hestimate.maxFee_within_supply] at h
      contradiction
  | reissue p hp eventHash hevent k hk hbefore h =>
      obtain ⟨estimate, event, hestimate, -⟩ :=
        payment_of_evaluate hkeep hevaluation hp
      obtain ⟨reissues, hreissues⟩ := hestimate.exists_reissues hevent
      exact countReissues_not_corrupt hreissues hk hbefore h
  | probe p hp eventHash id hevent hbefore hid h =>
      obtain ⟨estimate, event, hestimate, -⟩ :=
        payment_of_evaluate hkeep hevaluation hp
      obtain ⟨reissues, hreissues⟩ := hestimate.exists_reissues hevent
      obtain ⟨cannotFetch, hprobe⟩ := countReissues_probe hreissues hbefore
      obtain ⟨hnone, id', hid', hrows⟩ := fetchReissue_eq_none_iff.mp hprobe
      obtain rfl : id = id' := by simpa [hid] using hid'
      rcases h with hne | hunreadable
      · exact hne hnone
      · exact hunreadable (readable_of_skipped hrows)
  | rows p hp event' h =>
      obtain ⟨estimate, event, -, row, hpaysRow⟩ :=
        payment_of_evaluate hkeep hevaluation hp
      rw [event'.message_unique event, hpaysRow.onlyRow] at h
      exact checkTxRowConsistency_not_corrupt hpaysRow.consistent h
  | fee p hp event' tx hrow h =>
      obtain ⟨estimate, event, -, row, hpaysRow⟩ :=
        payment_of_evaluate hkeep hevaluation hp
      rw [event'.message_unique event, hpaysRow.onlyRow] at hrow
      obtain rfl : row.tx = tx := by simpa using hrow
      exact parseTxFee_not_corrupt hpaysRow.fee h

/-- What one run has verified is refused to no other, whatever faults it
meets. -/
theorem not_refused_of_evaluate {source : PmwSource} {reads' : Reads}
    {evaluation : Evaluation}
    (hkeep : KeepsInstructionTopic source.repo.convertDatabaseLogToChainLog)
    (h : (newXRPVerifier source).evaluate reads req = .ok evaluation) :
    ¬ Refused (newXRPVerifier source) reads' req := by
  obtain ⟨hrange, -⟩ := (evaluate_eq_ok_iff hkeep).mp h
  intro hrefused
  cases hrefused with
  | batchRange hnot =>
      exact hnot (validateBatchRange_eq_ok_iff.mp hrange)
  | payLog p hp id eventHash hid hevent hnil =>
      obtain ⟨estimate, event, -⟩ := payment_of_evaluate hkeep h hp
      obtain rfl := event.id_unique hid
      obtain rfl := event.eventHash_unique hevent
      simp [event.onlyRow] at hnil
  | reissues p hp eventHash hevent hexceed =>
      obtain ⟨estimate, event, hestimate, -⟩ :=
        payment_of_evaluate hkeep h hp
      obtain ⟨reissues, hreissues⟩ := hestimate.exists_reissues hevent
      exact not_reissuesExceedCap hreissues hexceed
  | transaction p hp event' initial hinitial hassigned hnil =>
      obtain ⟨estimate, event, -, row, hpays⟩ :=
        payment_of_evaluate hkeep h hp
      rw [event'.message_unique event, hpays.onlyRow] at hnil
      simp at hnil

theorem verify_soundVerdict {source : PmwSource}
    (hkeep : KeepsInstructionTopic
      source.repo.convertDatabaseLogToChainLog) :
    SoundVerdict ((newXRPVerifier source).verify reads req)
      (Refused (newXRPVerifier source) reads req)
      (Corrupt (newXRPVerifier source) reads req) := by
  refine SoundVerdict.of_fails ?_
    fun response h => not_corrupt_of_verify hkeep h
  exact (verify_fails hkeep).mono fun err h => h.imp_left And.right

end XRPVerifier

end FeeProof

/-! ## Both verifiers -/

theorem corrupt_data_not_terminal (source : PmwSource)
    (hkeep : KeepsInstructionTopic
      source.repo.convertDatabaseLogToChainLog) :
    (∀ reads req, SoundVerdict
      (PaymentStatus.XRPVerifier.verify source reads req)
      (PaymentStatus.XRPVerifier.RecordMissing source reads req)
      (PaymentStatus.Corrupt source reads req)) ∧
    (∀ reads req, SoundVerdict
      ((FeeProof.newXRPVerifier source).verify reads req)
      (FeeProof.XRPVerifier.Refused (FeeProof.newXRPVerifier source) reads
        req)
      (FeeProof.XRPVerifier.Corrupt (FeeProof.newXRPVerifier source) reads
        req)) := by
  constructor
  · intro reads req
    exact PaymentStatus.XRPVerifier.verify_soundVerdict source reads req
  · intro reads req
    exact FeeProof.XRPVerifier.verify_soundVerdict hkeep

theorem corrupt_data_not_terminal_smallLedger :
    verdict (PaymentStatus.XRPVerifier.verify SmallLedger.source
        { SmallLedger.paymentReads with
          initialNonce := .error ⟨"connection refused", [.netError]⟩ }
        (SmallLedger.paymentRequest 1)) = .retry ∧
      verdict (SmallLedger.feeVerifier.verify
        { SmallLedger.feeReads with
          transactionsFault := some ⟨"connection refused", [.netError]⟩ }
        (SmallLedger.feeRequest 1 2)) = .retry := by
  obtain ⟨hpayment, hfee⟩ := corrupt_data_not_terminal SmallLedger.source
    SmallLedger.keepsInstructionTopic
  constructor
  · refine (hpayment _ _).corrupt_retry (.rpc _ rfl) ?_
    let event := SmallLedger.payEvent SmallLedger.payLog1
    rintro (⟨id, eventHash, hid, hevent, hnil⟩ | ⟨_, ⟨_, hinitial, -⟩, -⟩)
    · obtain rfl := event.id_unique hid
      obtain rfl := event.eventHash_unique hevent
      simp [event.onlyRow] at hnil
    · cases hinitial
  · refine (hfee _ _).corrupt_retry (.database (.inr (by simp))) ?_
    exact FeeProof.XRPVerifier.not_refused_of_evaluate
      SmallLedger.keepsInstructionTopic SmallLedger.evaluate_batch

end VerifierApi

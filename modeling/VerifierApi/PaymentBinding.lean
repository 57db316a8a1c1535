import VerifierApi.FeeProofBounds

/-!
# Identity binding and transaction uniqueness

A successful payment-status run pins down one log of the C-chain table and
one row of the transaction table.  Since the assigned sequences of distinct
payments differ, no row backs two payments, neither across payment-status
runs nor inside or across fee-proof batches.
-/

namespace VerifierApi

/-- The nonce read, whenever it answers, answers the given value. -/
def PaymentStatus.Reads.AnswersWith (reads : PaymentStatus.Reads)
    (n : UInt64) : Prop :=
  ∀ m, reads.initialNonce = .ok m → m = n

/-- The nonce reads, whenever they answer, answer the given value. -/
def FeeProof.Reads.AnswersWith (reads : FeeProof.Reads) (n : UInt64) : Prop :=
  ∀ p m, reads.initialNonce p = .ok m → m = n

/-! ## A small ledger

Two payments of one account, the first of them reissued once.  The ledger
serves as the concrete input of the results below. -/

namespace SmallLedger

def word (n : ℕ) : Hash :=
  ⟨abiWord n, by simp [abiWord]⟩

def textWord (text : String) : Hash :=
  FixedBytes.rightPad 32 (textBytes text)

def eventID : Hash :=
  textWord "TeeInstructionsSent"

def pay1 : Hash :=
  word 0xfd29d34722112b138c90254008d16247ae020b1991f648419ae412ea6ebc549d

def pay2 : Hash :=
  word 0x80230bbf56895482f9d4bcf61b5e7111ff0b6b885682db1ae28841531b9f0d55

def reissue1 : Hash :=
  word 0xd0e48633677dea5fb477e14d3e907d4f5e12f40b4ee85ec250bfaadc99b6ee21

def reissue2 : Hash :=
  word 0x7d78cc6b59124c2e71187dfbab5220f20477188ff909223f25b1caba3a585c2a

def secondReissue1 : Hash :=
  word 0x098eba8ec7097e48beb70a4a14bb83d5adabff3242aaa851d2b033aacdeb2539

/-- The hash on the five preimages which the runs on this ledger hash, told
apart by their command, payment and reissue number. -/
def keccak256 : Keccak := fun preimage =>
  match preimage.getD 32 0, preimage.getD 159 0, preimage.getD 191 0 with
  | 0x50, 1, 0 => pay1
  | 0x50, 2, 0 => pay2
  | 0x52, 1, 1 => reissue1
  | 0x52, 2, 1 => reissue2
  | 0x52, 1, 2 => secondReissue1
  | _, _, _ => zeroHash

def hex32StringToCommonHash (text : String) : Except ExternalError Hash :=
  match decodeHexDigits (removeHexPrefix text).toList with
  | some bytes =>
      if bytes.length = 32 then .ok (FixedBytes.rightPad 32 bytes)
      else .error ⟨"invalid length", []⟩
  | none => .error ⟨"invalid hex", []⟩

def convert (row : DbLog) : Except ExternalError ChainLog :=
  match decodeHexDigits row.topic0.toList, decodeHexDigits row.topic1.toList,
      decodeHexDigits row.topic2.toList, decodeHexDigits row.data.toList with
  | some topic0, some topic1, some topic2, some data =>
      .ok ⟨[topic0, topic1, topic2].map (FixedBytes.rightPad 32), data⟩
  | _, _, _, _ => .error ⟨"invalid hex", []⟩

theorem decodeHexDigits_removeHexPrefix (word : Hash) :
    decodeHexDigits (removeHexPrefix word.hex).toList = some word.bytes := by
  rw [removeHexPrefix_hex, String.toList_ofList]
  exact decodeHexDigits_hexDigits word.bytes

theorem rightPad_bytes (word : Hash) :
    FixedBytes.rightPad 32 word.bytes = word := by
  apply FixedBytes.ext
  simp [FixedBytes.rightPad, word.length_bytes]

theorem convert_of_topics {row : DbLog} {topic0 topic1 topic2 : Hash}
    {data : List UInt8} (htopic0 : row.topic0 = removeHexPrefix topic0.hex)
    (htopic1 : row.topic1 = removeHexPrefix topic1.hex)
    (htopic2 : row.topic2 = removeHexPrefix topic2.hex)
    (hdata : row.data = String.ofList (hexDigits data)) :
    convert row = .ok ⟨[topic0, topic1, topic2], data⟩ := by
  unfold convert
  rw [htopic0, htopic1, htopic2, hdata, String.toList_ofList]
  simp only [decodeHexDigits_removeHexPrefix, decodeHexDigits_hexDigits,
    List.map_cons, List.map_nil, rightPad_bytes]

theorem keepsInstructionTopic : KeepsInstructionTopic convert := by
  intro row log id hconvert htopic
  unfold convert at hconvert
  rw [htopic, decodeHexDigits_removeHexPrefix] at hconvert
  split at hconvert
  next topic0 topic1 topic2 data _ _ htopic2 _ =>
    simp only [Option.some.injEq] at htopic2
    simp only [Except.ok.injEq] at hconvert
    subst hconvert
    simp [← htopic2, rightPad_bytes]
  next => simp at hconvert

def tx1 : DBTransaction where
  hash := "AAAAAAAAAAAAAAAAAAAAAAAAAAAAAAAAAAAAAAAAAAAAAAAAAAAAAAAAAAAAAAAA"
  blockNumber := 7
  timestamp := 40
  response :=
    "\x7b\"Account\":\"rSender\",\"TransactionType\":\"Payment\"," ++
      "\"Fee\":\"12\",\"Sequence\":100,\"hash\":\"" ++
      "AAAAAAAAAAAAAAAAAAAAAAAAAAAAAAAAAAAAAAAAAAAAAAAAAAAAAAAAAAAAAAAA" ++
      "\",\"metaData\":\x7b\"TransactionResult\":\"tesSUCCESS\"\x7d\x7d"
  sequence := 100
  sourceAddress := "rSender"

def tx2 : DBTransaction where
  hash := "BBBBBBBBBBBBBBBBBBBBBBBBBBBBBBBBBBBBBBBBBBBBBBBBBBBBBBBBBBBBBBBB"
  blockNumber := 8
  timestamp := 50
  response :=
    "\x7b\"Account\":\"rSender\",\"TransactionType\":\"Payment\"," ++
      "\"Fee\":\"12\",\"Sequence\":101,\"hash\":\"" ++
      "BBBBBBBBBBBBBBBBBBBBBBBBBBBBBBBBBBBBBBBBBBBBBBBBBBBBBBBBBBBBBBBB" ++
      "\",\"metaData\":\x7b\"TransactionResult\":\"tesSUCCESS\"\x7d\x7d"
  sequence := 101
  sourceAddress := "rSender"

def txs : List DBTransaction :=
  [tx1, tx2]

def rawOf (tx : DBTransaction) : RawTransactionData where
  account := tx.sourceAddress
  transactionType := "Payment"
  fee := "12"
  sequence := tx.sequence
  hash := tx.hash
  metaData := ⟨"tesSUCCESS", []⟩

/-- The payloads of the ledger, decoded. -/
def unmarshal (response : String) : Except ExternalError RawTransactionData :=
  if response = tx1.response then .ok (rawOf tx1)
  else if response = tx2.response then .ok (rawOf tx2)
  else .error ⟨"invalid character", []⟩

def library : PmwLibrary where
  keccak256 := keccak256
  foldNonASCII := id
  hex32StringToCommonHash := hex32StringToCommonHash
  isValidXAddress _ := false
  xAddressToClassicAddress _ := .error ⟨"invalid x-address", []⟩
  unmarshalTransaction := unmarshal
  unmarshalIdentity response := do
    let raw ← unmarshal response
    .ok ⟨raw.account, raw.sequence, raw.hash⟩
  unmarshalFee response := do
    let raw ← unmarshal response
    .ok raw.fee

/-- An event with two words and a message of three bytes. -/
def abi : TeeInstructionsABI where
  teeInstructionsSent := some {
    id := eventID
    unpack data := .ok {
      opType := FixedBytes.rightPad 32 (data.take 32)
      opCommand := FixedBytes.rightPad 32 ((data.drop 32).take 32)
      message := data.drop 64 } }
  decodeMessage _ bytes :=
    match bytes with
    | [nonce, paymentId, maxFee] => .ok {
        sourceId := textWord "testXRP"
        senderAddress := "rSender"
        recipientAddress := "rRecipient"
        tokenId := []
        amount := some 1000000
        maxFee := some maxFee.toNat
        paymentReference := zeroHash
        nonce := nonce.toUInt64
        paymentId := paymentId.toUInt64 }
    | _ => .error ⟨"invalid message", []⟩

structure SampleLog where
  id : Hash
  command : Command
  message : List UInt8
  timestamp : UInt64
deriving DecidableEq

def logData (log : SampleLog) : List UInt8 :=
  (textWord "F_XRP").bytes ++ (textWord log.command.text).bytes ++ log.message

def logRow (log : SampleLog) : DbLog where
  address := "contract"
  topic0 := removeHexPrefix eventID.hex
  topic1 := removeHexPrefix zeroHash.hex
  topic2 := removeHexPrefix log.id.hex
  topic3 := ""
  data := String.ofList (hexDigits (logData log))
  blockNumber := log.timestamp
  logIndex := 0
  timestamp := log.timestamp

def logs : List SampleLog :=
  [⟨pay1, .pay, [100, 1, 20], 10⟩, ⟨pay2, .pay, [101, 2, 20], 20⟩,
    ⟨reissue1, .reissue, [100, 1, 25], 30⟩]

def source : PmwSource where
  library := library
  repo := {
    db := txs
    cChainDb := logs.map logRow
    contractAddress := "contract"
    convertDatabaseLogToChainLog := convert }
  sourceIDEncoded := textWord "testXRP"
  parsedTeeInstructionsABI := abi

section LogRow

variable (log : SampleLog)

theorem logRow_topic0 : (logRow log).topic0 = removeHexPrefix eventID.hex := by
  simp only [logRow]

theorem logRow_topic1 : (logRow log).topic1 = removeHexPrefix zeroHash.hex := by
  simp only [logRow]

theorem logRow_topic2 : (logRow log).topic2 = removeHexPrefix log.id.hex := by
  simp only [logRow]

theorem logRow_data :
    (logRow log).data = String.ofList (hexDigits (logData log)) := by
  simp only [logRow]

theorem convert_logRow :
    convert (logRow log) =
      .ok ⟨[eventID, zeroHash, log.id], logData log⟩ := by
  apply convert_of_topics
  · exact logRow_topic0 log
  · exact logRow_topic1 log
  · exact logRow_topic2 log
  · exact logRow_data log

end LogRow

theorem instructionLogs_source (id : Hash) :
    source.repo.instructionLogs eventID.hex id =
      (logs.filter fun log => log.id = id).map logRow := by
  refine DBRepo.instructionLogs_map ?_ logRow_topic0 logRow_topic1
    logRow_topic2 rfl id
  intro log
  rfl

def paymentReads : PaymentStatus.Reads :=
  ⟨none, .ok 100, none⟩

theorem paymentReads_answersWith : paymentReads.AnswersWith 100 := by
  intro m hm
  simpa [paymentReads] using hm.symm

def paymentRequest (paymentId : UInt64) : PaymentStatus.RequestBody :=
  ⟨textWord "F_XRP", "rSender", paymentId⟩

def paymentResponse (transactionId : Hash) (tx : DBTransaction) :
    PaymentStatus.ResponseBody where
  recipientAddress := "rRecipient"
  tokenId := []
  amount := some 1000000
  maxFee := some 20
  paymentReference := zeroHash
  transactionStatus := .success
  revertReason := ""
  receivedAmount := 0
  transactionFee := 12
  transactionId := transactionId
  blockNumber := tx.blockNumber
  blockTimestamp := tx.timestamp

def message (nonce paymentId : UInt64) (maxFee : Int) :
    PaymentInstructionMessage where
  sourceId := textWord "testXRP"
  senderAddress := "rSender"
  recipientAddress := "rRecipient"
  tokenId := []
  amount := some 1000000
  maxFee := some maxFee
  paymentReference := zeroHash
  nonce := nonce
  paymentId := paymentId

theorem eventSignature :
    teeInstructionsSentEventSignature source.parsedTeeInstructionsABI =
      .ok eventID.hex := by
  simp only [teeInstructionsSentEventSignature, source, abi]

/-- The events of the two payments. -/
structure PayLog (paymentId nonce : UInt64) (log : SampleLog) : Prop where
  id_eq : source.payInstructionID (textWord "F_XRP") "rSender" paymentId =
    .ok log.id
  only : (logs.filter fun other => other.id = log.id) = [log]
  size : (logData log).length ≤ maxEventDataSize
  unpacks : abiDecodeEventData abi (logData log) =
    .ok ⟨textWord "F_XRP", textWord "PAY", log.message⟩
  decodes : abi.decodeMessage .pay log.message =
    .ok (message nonce paymentId 20)

def log1 : SampleLog := ⟨pay1, .pay, [100, 1, 20], 10⟩

def log2 : SampleLog := ⟨pay2, .pay, [101, 2, 20], 20⟩

theorem payLog1 : PayLog 1 100 log1 :=
  ⟨by decide, by decide, by decide,
    by decide, by decide⟩

theorem payLog2 : PayLog 2 101 log2 :=
  ⟨by decide, by decide, by decide,
    by decide, by decide⟩

theorem PayLog.onlyRow {paymentId nonce : UInt64} {log : SampleLog}
    (h : PayLog paymentId nonce log) :
    source.repo.instructionLogs eventID.hex log.id = [logRow log] := by
  rw [instructionLogs_source, h.only, List.map_singleton]

theorem PayLog.decodesTo {paymentId nonce : UInt64} {log : SampleLog}
    (h : PayLog paymentId nonce log) :
    DecodesTo ⟨[eventID, zeroHash, log.id], logData log⟩ abi .pay
      (textWord "F_XRP") ⟨textWord "F_XRP", textWord "PAY", log.message⟩
      (message nonce paymentId 20) := by
  have hcommand : stringToCommonHash Command.pay.text =
      .ok (textWord "PAY") := by decide
  exact ⟨h.size, h.unpacks, rfl, hcommand, h.decodes⟩

/-- The rows of the two payments. -/
structure PayRow (nonce : UInt64) (tx : DBTransaction) (id : Hash) :
    Prop where
  only : txs.filter (fun other => other.sourceAddress = "rSender" ∧
    other.sequence = nonce) = [tx]
  size : tx.response.utf8ByteSize ≤ maxResponseSize
  unmarshals : source.library.unmarshalTransaction tx.response =
    .ok (rawOf tx)
  hash : source.library.hex32StringToCommonHash tx.hash = .ok id

theorem payRow1 : PayRow 100 tx1 (FixedBytes.replicate 32 0xaa) where
  only := rfl
  size := by decide +kernel
  unmarshals := by simp only [source, library, unmarshal, if_true]
  hash := by decide

theorem payRow2 : PayRow 101 tx2 (FixedBytes.replicate 32 0xbb) where
  only := rfl
  size := by decide +kernel
  unmarshals := by
    have hne : tx2.response ≠ tx1.response := by decide
    simp only [source, library, unmarshal, if_neg hne, if_true]
  hash := by decide

theorem builds_payment {nonce paymentId : UInt64} {tx : DBTransaction}
    {id : Hash}
    (hid : source.library.hex32StringToCommonHash tx.hash = .ok id) :
    PaymentStatus.buildPaymentStatusResponse source.library (rawOf tx)
        (message nonce paymentId 20) tx =
      .ok (paymentResponse id tx) := by
  have hstatus : PaymentStatus.getTransactionStatus "tesSUCCESS" =
      .ok .success := by decide
  have hfee : parseNonNegativeBigInt "12" = .ok 12 := by decide
  have hbound : ∀ n ∈ [1000000, 20, 12, 0],
      exceedsMaxXRPDrops (some n) = false := by decide
  have hrecipient : PaymentStatus.normalizeRecipient source.library
      "rRecipient" = .ok "rRecipient" := by
    simp [PaymentStatus.normalizeRecipient, source, library]
  have hreceived : findReceivedAmountForAddress ⟨"tesSUCCESS", []⟩
      "rRecipient" = .ok 0 := by decide
  simp only [PaymentStatus.buildPaymentStatusResponse, bind_eq_ok,
    ensure_eq_ok, mapError_eq_ok, PaymentStatus.checkDropsBound_eq_ok_iff,
    exists_const, rawOf, message, true_and]
  refine ⟨hbound 1000000 (by simp), hbound 20 (by simp), .success, hstatus,
    12, hfee, hbound 12 (by simp), id, hid, "rRecipient", hrecipient, 0,
    hreceived, hbound 0 (by simp), ?_⟩
  simp [paymentResponse]

theorem verify_payment {paymentId nonce : UInt64} {log : SampleLog}
    {tx : DBTransaction} {id : Hash} (hlog : PayLog paymentId nonce log)
    (hassigned : AssignedSequence 100 paymentId nonce)
    (hrow : PayRow nonce tx id) :
    PaymentStatus.XRPVerifier.verify source paymentReads
        (paymentRequest paymentId) =
      .ok (paymentResponse id tx) := by
  have hresult : (rawOf tx).metaData.transactionResult ≠ "" := by
    simp [rawOf]
  have hmem : tx ∈ txs.filter (fun other =>
      other.sourceAddress = "rSender" ∧ other.sequence = nonce) := by
    rw [hrow.only]
    simp
  simp only [PaymentStatus.XRPVerifier.verify, bind_eq_ok, mapError_eq_ok,
    DBRepo.fetchInstructionLog_eq_ok_iff,
    decodeTeeInstructionsSentEventData_eq_ok_iff,
    checkInstructionConsistency_eq_ok_iff, verifySequence_eq_ok_iff,
    DBRepo.fetchTransactionBySourceAndSequence_eq_ok_iff,
    PaymentStatus.parseRawTransactionData_eq_ok_iff,
    checkRowConsistency_eq_ok_iff, exists_const]
  refine ⟨log.id, hlog.id_eq, eventID.hex, eventSignature, _,
    ⟨rfl, logRow log, hlog.onlyRow, convert_logRow log⟩,
    message nonce paymentId 20, ⟨_, hlog.decodesTo⟩, ⟨rfl, rfl, rfl⟩,
    ⟨100, rfl, hassigned⟩, tx, ⟨rfl, hrow.only⟩, rawOf tx,
    ⟨hrow.size, hrow.unmarshals, hresult⟩, ⟨?_, rfl, rfl⟩,
    builds_payment hrow.hash⟩
  simp [equalFold, rawOf]

theorem verify_payment1 :
    PaymentStatus.XRPVerifier.verify source paymentReads
        (paymentRequest 1) =
      .ok (paymentResponse (FixedBytes.replicate 32 0xaa) tx1) :=
  verify_payment payLog1 ⟨by decide, by decide⟩ payRow1

theorem verify_payment2 :
    PaymentStatus.XRPVerifier.verify source paymentReads
        (paymentRequest 2) =
      .ok (paymentResponse (FixedBytes.replicate 32 0xbb) tx2) :=
  verify_payment payLog2 ⟨by decide, by decide⟩ payRow2

def feeReads : FeeProof.Reads :=
  ⟨none, fun _ => .ok 100, fun _ _ => none, none⟩

theorem feeReads_answersWith : feeReads.AnswersWith 100 := by
  intro p m hm
  simpa [feeReads] using hm.symm

def feeRequest (first count : UInt64) : FeeProof.RequestBody :=
  ⟨textWord "F_XRP", "rSender", first, count, 60⟩

theorem mem_paymentIDs {p : UInt64}
    (hp : p ∈ (feeRequest 1 2).paymentIDs) : p = 1 ∨ p = 2 := by
  have hids : (feeRequest 1 2).paymentIDs = [1, 2] := by decide
  simpa [hids] using hp

def feeVerifier : FeeProof.XRPVerifier :=
  FeeProof.newXRPVerifier source

theorem feeVerifier_convert :
    feeVerifier.repo.convertDatabaseLogToChainLog = convert := by
  rfl

theorem feeVerifier_instructionLogs (id : Hash) :
    feeVerifier.repo.instructionLogs eventID.hex id =
      (logs.filter fun log => log.id = id).map logRow := by
  rw [← instructionLogs_source]
  rfl

/-- The event of a logged payment. -/
def payEvent {paymentId nonce : UInt64} {log : SampleLog}
    (h : PayLog paymentId nonce log) :
    source.PayEvent (textWord "F_XRP") "rSender" paymentId where
  id := log.id
  eventHash := eventID.hex
  row := logRow log
  log := ⟨[eventID, zeroHash, log.id], logData log⟩
  eventData := ⟨textWord "F_XRP", textWord "PAY", log.message⟩
  message := message nonce paymentId 20
  id_eq := h.id_eq
  eventHash_eq := eventSignature
  onlyRow := h.onlyRow
  converts := convert_logRow log
  decodes := h.decodesTo
  sourceId := rfl
  senderAddress := rfl
  paymentId_eq := rfl

section Reissues

variable {first count paymentId reissueNum : UInt64} {id : Hash}

theorem reissueMaxFee_missing
    (hid : feeVerifier.reissueInstructionID (feeRequest 1 1) paymentId
      reissueNum = .ok id)
    (hnil : logs.filter (fun log => log.id = id) = []) :
    feeVerifier.reissueMaxFee feeReads (feeRequest first count) eventID.hex
      paymentId reissueNum = .ok none := by
  rw [FeeProof.XRPVerifier.reissueMaxFee_eq_none_iff "",
    FeeProof.XRPVerifier.fetchReissue_eq_none_iff]
  refine ⟨rfl, id, hid, .inl ?_⟩
  rw [feeVerifier_instructionLogs, hnil, List.map_nil]

theorem countReissues_missing
    (hid : feeVerifier.reissueInstructionID (feeRequest 1 1) paymentId 1 =
      .ok id)
    (hnil : logs.filter (fun log => log.id = id) = []) :
    feeVerifier.countReissues feeReads (feeRequest first count) eventID.hex
      paymentId = .ok [] := by
  unfold FeeProof.XRPVerifier.countReissues
  refine bind_eq_ok.mpr ⟨([], true), ?_, rfl⟩
  exact bind_eq_ok.mpr ⟨none, reissueMaxFee_missing hid hnil, rfl⟩

def reissueLog : SampleLog := ⟨reissue1, .reissue, [100, 1, 25], 30⟩

theorem instructionLogs_first :
    feeVerifier.repo.instructionLogs eventID.hex reissue1 =
      [logRow reissueLog] := by
  have honly : (logs.filter fun log => log.id = reissue1) =
      [reissueLog] := by decide
  rw [feeVerifier_instructionLogs, honly, List.map_singleton]

theorem countsFor_first :
    feeVerifier.CountsFor (feeRequest first count) 1
      ⟨[eventID, zeroHash, reissue1], logData reissueLog⟩ 25 := by
  have hdecodes : DecodesTo ⟨[eventID, zeroHash, reissue1],
      logData reissueLog⟩ abi .reissue (textWord "F_XRP")
      ⟨textWord "F_XRP", textWord "REISSUE", [100, 1, 25]⟩
      (message 100 1 25) :=
    ⟨by decide, by decide, rfl, by decide, by decide⟩
  refine ⟨⟨message 100 1 25, ?_, ?_, rfl⟩, by decide, by decide⟩
  · exact decodeTeeInstructionsSentEventData_eq_ok_iff.mpr ⟨_, hdecodes⟩
  · exact checkInstructionConsistency_eq_ok_iff.mpr ⟨rfl, rfl, rfl⟩

theorem reissueMaxFee_first :
    feeVerifier.reissueMaxFee feeReads (feeRequest first count) eventID.hex
      1 1 = .ok (some 25) := by
  have hid : feeVerifier.reissueInstructionID (feeRequest 1 1) 1 1 =
      .ok reissue1 := by decide
  rw [FeeProof.XRPVerifier.reissueMaxFee_eq_some_iff ""]
  refine ⟨⟨[eventID, zeroHash, reissue1], logData reissueLog⟩, ?_,
    countsFor_first⟩
  refine FeeProof.XRPVerifier.fetchReissue_eq_some_iff.mpr
    ⟨rfl, reissue1, hid, logRow reissueLog, instructionLogs_first, ?_, ?_⟩
  · rw [feeVerifier_convert, convert_logRow, reissueLog]
  · have htime : (30 : UInt64) ≤ 60 := by decide
    simpa only [logRow, reissueLog, feeRequest] using htime

theorem countReissues_first :
    feeVerifier.countReissues feeReads (feeRequest first count) eventID.hex
      1 = .ok [25] := by
  have hid : feeVerifier.reissueInstructionID (feeRequest 1 1) 1 2 =
      .ok secondReissue1 := by decide
  have hnil : (logs.filter fun log => log.id = secondReissue1) = [] := by
    decide
  unfold FeeProof.XRPVerifier.countReissues
  refine bind_eq_ok.mpr ⟨([25], true), ?_, rfl⟩
  refine bind_eq_ok.mpr ⟨some 25, reissueMaxFee_first, ?_⟩
  refine bind_eq_ok.mpr ⟨([], true), ?_, rfl⟩
  exact bind_eq_ok.mpr ⟨none, reissueMaxFee_missing hid hnil, rfl⟩

theorem estimates1 :
    feeVerifier.Estimates feeReads (feeRequest first count) 1
      ⟨1, 100, 25⟩ (payEvent payLog1) where
  paymentId_eq := rfl
  sequence_eq := rfl
  assigned := ⟨100, rfl, by decide, by decide⟩
  estimate_eq := ⟨20, [25], rfl, by decide, by decide, countReissues_first,
    by decide⟩

theorem reissueID2 :
    feeVerifier.reissueInstructionID (feeRequest 1 1) 2 1 =
      .ok reissue2 := by
  decide

theorem estimates2 :
    feeVerifier.Estimates feeReads (feeRequest first count) 2
      ⟨2, 101, 20⟩ (payEvent payLog2) where
  paymentId_eq := rfl
  sequence_eq := rfl
  assigned := ⟨100, rfl, by decide, by decide⟩
  estimate_eq := ⟨20, [], rfl, by decide, by decide,
    countReissues_missing reissueID2 (by decide), by decide⟩

theorem pays {nonce : UInt64} {tx : DBTransaction}
    (hrow : PayRow nonce tx id) :
    feeVerifier.Pays (feeRequest first count) nonce ⟨tx, 12⟩ where
  onlyRow := hrow.only
  consistent := by
    refine ensure_bind_eq_ok.mpr ⟨hrow.size, ?_⟩
    refine bind_eq_ok.mpr ⟨⟨tx.sourceAddress, tx.sequence, tx.hash⟩,
      mapError_eq_ok.mpr (bind_eq_ok.mpr
        ⟨rawOf tx, hrow.unmarshals, rfl⟩), ?_⟩
    exact checkRowConsistency_eq_ok_iff.mpr
      ⟨by simp [equalFold], rfl, rfl⟩
  fee := by
    have hfee : parseNonNegativeBigInt "12" = .ok 12 := by decide
    have hbound : exceedsMaxXRPDrops (some 12) = false := by decide
    refine ensure_bind_eq_ok.mpr ⟨hrow.size, ?_⟩
    refine bind_eq_ok.mpr ⟨"12", mapError_eq_ok.mpr (bind_eq_ok.mpr
      ⟨rawOf tx, hrow.unmarshals, rfl⟩), ?_⟩
    refine ensure_bind_eq_ok.mpr ⟨by decide, ?_⟩
    refine bind_eq_ok.mpr ⟨12, mapError_eq_ok.mpr hfee, ?_⟩
    exact ensure_bind_eq_ok.mpr ⟨hbound, rfl⟩

end Reissues

theorem evaluate_first :
    feeVerifier.evaluate feeReads (feeRequest 1 1) =
      .ok ⟨[⟨1, 100, 25⟩], [⟨tx1, 12⟩]⟩ :=
  (FeeProof.XRPVerifier.evaluate_eq_ok_iff keepsInstructionTopic).mpr
    ⟨by decide, rfl, rfl, .cons ⟨_, estimates1⟩ .nil,
      .cons (pays payRow1) .nil⟩

theorem evaluate_second :
    feeVerifier.evaluate feeReads (feeRequest 2 1) =
      .ok ⟨[⟨2, 101, 20⟩], [⟨tx2, 12⟩]⟩ :=
  (FeeProof.XRPVerifier.evaluate_eq_ok_iff keepsInstructionTopic).mpr
    ⟨by decide, rfl, rfl, .cons ⟨_, estimates2⟩ .nil,
      .cons (pays payRow2) .nil⟩

theorem evaluate_batch :
    feeVerifier.evaluate feeReads (feeRequest 1 2) =
      .ok ⟨[⟨1, 100, 25⟩, ⟨2, 101, 20⟩], [⟨tx1, 12⟩, ⟨tx2, 12⟩]⟩ :=
  (FeeProof.XRPVerifier.evaluate_eq_ok_iff keepsInstructionTopic).mpr
    ⟨by decide, rfl, rfl,
      .cons ⟨_, estimates1⟩ (.cons ⟨_, estimates2⟩ .nil),
      .cons (pays payRow1) (.cons (pays payRow2) .nil)⟩

end SmallLedger

namespace PaymentStatus

namespace XRPVerifier

variable {x : XRPVerifier} {reads reads' : Reads} {req req' : RequestBody}
  {response response' : ResponseBody}

/-- A successful run binds its response to one log, one row and the initial
nonce, whatever the tables hold. -/
theorem verify_binds_identity
    (x : XRPVerifier) (reads : Reads) (req : RequestBody)
    (response : ResponseBody) (N : Hash → String → UInt64)
    (hnonce : reads.AnswersWith (N x.sourceIDEncoded req.senderAddress))
    (h : x.verify reads req = .ok response) :
    ∃ id eventHash row log eventData message tx raw,
      generateInstructionID x.library.keccak256 req.opType
        x.sourceIDEncoded req.senderAddress req.paymentId = .ok id ∧
      teeInstructionsSentEventSignature x.parsedTeeInstructionsABI =
        .ok eventHash ∧
      (x.repo.cChainDb.filter fun row =>
        row.address = x.repo.contractAddress ∧
          row.topic0 = removeHexPrefix eventHash ∧
          row.topic1 = removeHexPrefix zeroHash.hex ∧
          row.topic2 = removeHexPrefix id.hex) = [row] ∧
      x.repo.convertDatabaseLogToChainLog row = .ok log ∧
      abiDecodeEventData x.parsedTeeInstructionsABI log.data =
        .ok eventData ∧
      eventData.opType = req.opType ∧
      stringToCommonHash "PAY" = .ok eventData.opCommand ∧
      x.parsedTeeInstructionsABI.decodeMessage .pay eventData.message =
        .ok message ∧
      message.sourceId = x.sourceIDEncoded ∧
      message.senderAddress = req.senderAddress ∧
      message.paymentId = req.paymentId ∧
      1 ≤ req.paymentId.toNat ∧
      message.nonce.toNat =
        (N x.sourceIDEncoded req.senderAddress).toNat +
          req.paymentId.toNat - 1 ∧
      (x.repo.db.filter fun tx =>
        tx.sourceAddress = req.senderAddress ∧
          tx.sequence = message.nonce) = [tx] ∧
      tx.response.utf8ByteSize ≤ 2 ^ 20 ∧
      x.library.unmarshalTransaction tx.response = .ok raw ∧
      raw.account = req.senderAddress ∧
      raw.sequence = message.nonce ∧
      equalFold x.library.foldNonASCII raw.hash tx.hash = true ∧
      raw.transactionType = "Payment" ∧
      message.tokenId = [] ∧
      x.library.hex32StringToCommonHash tx.hash =
        .ok response.transactionId ∧
      response.blockNumber = tx.blockNumber ∧
      response.blockTimestamp = tx.timestamp ∧
      parseNonNegativeBigInt raw.fee = .ok response.transactionFee ∧
      response.recipientAddress = message.recipientAddress ∧
      response.amount = message.amount ∧
      response.maxFee = message.maxFee ∧
      response.paymentReference = message.paymentReference := by
  obtain ⟨event, ⟨initial, hinitial, hassigned⟩, ⟨attested⟩, -⟩ :=
    verify_attested h
  have hN := hnonce initial hinitial
  rw [hN] at hassigned
  obtain ⟨hone, hsequence⟩ := hassigned
  have hbuilds := attested.builds
  obtain ⟨-, haddress, hnonceRow⟩ := attested.mem_transactionRows
  have hlogs : (x.repo.cChainDb.filter fun row =>
      row.address = x.repo.contractAddress ∧
        row.topic0 = removeHexPrefix event.eventHash ∧
        row.topic1 = removeHexPrefix zeroHash.hex ∧
        row.topic2 = removeHexPrefix event.id.hex) = [event.row] := by
    rw [← event.onlyRow]
    apply List.filter_congr
    intro row _
    simp [DBRepo.matchesEvent, Bool.decide_and, Bool.and_assoc]
  refine ⟨event.id, event.eventHash, event.row, event.log, event.eventData,
    event.message, attested.tx, attested.raw, event.id_eq,
    event.eventHash_eq, hlogs, event.converts, event.decodes.unpacks,
    event.decodes.opType, event.decodes.opCommand, event.decodes.decodes,
    event.sourceId, event.senderAddress, event.paymentId_eq, hone,
    by omega, attested.onlyRow, attested.size, attested.unmarshals, ?_, ?_,
    attested.hash, hbuilds.transactionType, hbuilds.tokenId,
    hbuilds.transactionId, hbuilds.fromRow.1, hbuilds.fromRow.2,
    hbuilds.fee, hbuilds.fromMessage.1, hbuilds.fromMessage.2.2.1,
    hbuilds.fromMessage.2.2.2.1, hbuilds.fromMessage.2.2.2.2⟩
  · rw [attested.account, haddress]
  · rw [attested.sequence, hnonceRow]

theorem verify_binds_identity_smallLedger :
    ∃ tx ∈ SmallLedger.txs, tx.sequence.toNat = 100 + 1 - 1 ∧
      SmallLedger.source.library.hex32StringToCommonHash tx.hash =
        .ok (FixedBytes.replicate 32 0xaa) := by
  obtain ⟨-, -, -, -, -, message, tx, -, -, -, -, -, -, -, -, -, -, -, -, -,
    hnonce, honly, -, -, -, -, -, -, -, hid, -⟩ :=
    verify_binds_identity SmallLedger.source SmallLedger.paymentReads
      (SmallLedger.paymentRequest 1) _ (fun _ _ => 100)
      SmallLedger.paymentReads_answersWith SmallLedger.verify_payment1
  have hmem : tx ∈ SmallLedger.source.repo.db.filter fun tx =>
      tx.sourceAddress = (SmallLedger.paymentRequest 1).senderAddress ∧
        tx.sequence = message.nonce := by
    rw [honly]
    simp
  obtain ⟨hdb, hrow⟩ := List.mem_filter.mp hmem
  refine ⟨tx, hdb, ?_, hid⟩
  rw [(of_decide_eq_true hrow).2, hnonce]
  rfl

/-- Two runs which rest on the same row are runs for the same payment. -/
theorem sameRow_samePayment {n n' : UInt64}
    (hreads : reads.AnswersWith n) (hreads' : reads'.AnswersWith n')
    (hsame : req.senderAddress = req'.senderAddress → n = n')
    {message message' : PaymentInstructionMessage}
    (hassigned : ∃ initial, reads.initialNonce = .ok initial ∧
      AssignedSequence initial req.paymentId message.nonce)
    (hassigned' : ∃ initial, reads'.initialNonce = .ok initial ∧
      AssignedSequence initial req'.paymentId message'.nonce)
    (a : x.Attested req message response)
    (a' : x.Attested req' message' response') (htx : a.tx = a'.tx) :
    req.senderAddress = req'.senderAddress ∧
      req.paymentId = req'.paymentId := by
  obtain ⟨-, haddress, hnonce⟩ := a.mem_transactionRows
  obtain ⟨-, haddress', hnonce'⟩ := a'.mem_transactionRows
  have hsender : req.senderAddress = req'.senderAddress := by
    rw [← haddress, ← haddress', htx]
  refine ⟨hsender, ?_⟩
  obtain ⟨initial, hinitial, hassigned⟩ := hassigned
  obtain ⟨initial', hinitial', hassigned'⟩ := hassigned'
  have heq : initial = initial' := by
    rw [hreads initial hinitial, hreads' initial' hinitial', hsame hsender]
  rw [← hnonce, htx, hnonce', heq] at hassigned
  exact hassigned.paymentId_inj hassigned'

end XRPVerifier

end PaymentStatus

/-! ## Transactions behind a batch -/

namespace FeeProof

namespace XRPVerifier

variable {x : XRPVerifier} {reads reads' : Reads} {req req' : RequestBody}

/-- The row of a payment of the batch carries the sequence assigned to that
payment. -/
theorem evaluate_rows {n : UInt64} {evaluation : Evaluation}
    (hreads : reads.AnswersWith n)
    (h : x.evaluate reads req = .ok evaluation) :
    List.Forall₂ (fun paymentId row => row.tx ∈ x.repo.db ∧
      row.tx.sourceAddress = req.senderAddress ∧
      AssignedSequence n paymentId row.tx.sequence)
      req.paymentIDs evaluation.rows := by
  obtain ⟨-, eventHash, -, payments, payLogs, txMap, hpayments, -,
    hestimates, htxMap, hrows⟩ := evaluate_eq_ok_iff_stages.mp h
  have hstages := forall₂_comp (forall₂_comp hpayments hestimates)
    (forall₂_mem_left hrows)
  refine List.Forall₂.imp ?_ hstages
  rintro p row ⟨estimate, ⟨payment, ⟨rfl, -⟩, hestimate⟩, hmem, hrow⟩
  obtain ⟨log, message, -, -, -, ⟨initial, hinitial, hassigned⟩, maxFee,
    reissues, -, -, -, -, rfl⟩ := estimatePayment_eq_ok_iff.mp hestimate
  have hlookup := (paymentFeeRow_eq_ok_iff.mp hrow).1
  have honly := (DBRepo.lookup_fetchTransactions htxMap
    (List.mem_map_of_mem hmem) _).mp hlookup
  obtain ⟨hdb, haddress, hsequence⟩ := DBRepo.mem_transactionRows.mp
    (show row.tx ∈ x.repo.transactionRows _ _ by rw [honly]; simp)
  refine ⟨hdb, haddress, ?_⟩
  rw [hsequence, ← hreads _ _ hinitial]
  exact hassigned

theorem nodup_rows {n : UInt64} {evaluation : Evaluation}
    (hreads : reads.AnswersWith n) (hpayments : req.paymentIDs.Nodup)
    (h : x.evaluate reads req = .ok evaluation) :
    (evaluation.rows.map FeeRow.tx).Nodup := by
  have hsequences : List.Forall₂
      (fun paymentId tx => AssignedSequence n paymentId tx.sequence)
      req.paymentIDs (evaluation.rows.map FeeRow.tx) := by
    rw [List.forall₂_map_right_iff]
    exact (evaluate_rows hreads h).imp fun _ _ hrow => hrow.2.2
  apply forall₂_nodup hsequences hpayments
  intro p p' tx hp hp'
  exact hp.paymentId_inj hp'

theorem disjoint_rows {n : UInt64} {evaluation evaluation' : Evaluation}
    (hreads : reads.AnswersWith n) (hreads' : reads'.AnswersWith n)
    (h : x.evaluate reads req = .ok evaluation)
    (h' : x.evaluate reads' req' = .ok evaluation')
    (hdisjoint : req.paymentIDs.Disjoint req'.paymentIDs) :
    (evaluation.rows.map FeeRow.tx).Disjoint
      (evaluation'.rows.map FeeRow.tx) := by
  intro tx htx htx'
  obtain ⟨row, hrow, rfl⟩ := List.mem_map.mp htx
  obtain ⟨row', hrow', hsame⟩ := List.mem_map.mp htx'
  obtain ⟨p, hp, -, -, hassigned⟩ :=
    forall₂_exists_left (evaluate_rows hreads h) hrow
  obtain ⟨p', hp', -, -, hassigned'⟩ :=
    forall₂_exists_left (evaluate_rows hreads' h') hrow'
  rw [hsame] at hassigned'
  rw [hassigned.paymentId_inj hassigned'] at hp
  exact hdisjoint hp hp'

end XRPVerifier

end FeeProof

def HashesDiffer (library : PmwLibrary) (tx tx' : DBTransaction) : Prop :=
  ∀ hash hash', library.hex32StringToCommonHash tx.hash = .ok hash →
    library.hex32StringToCommonHash tx'.hash = .ok hash' → hash ≠ hash'

instance (library : PmwLibrary) : Std.Symm (HashesDiffer library) where
  symm _ _ hdiffer hash hash' hhash hhash' :=
    (hdiffer hash' hash hhash' hhash).symm

/-- No two rows of the table have the same hash as a 32-byte value. -/
def DistinctHashes (source : PmwSource) : Prop :=
  source.repo.db.Pairwise (HashesDiffer source.library)

/-- One transaction never backs two payments. -/
theorem transactions_back_one_payment
    (source : PmwSource) (hdistinct : DistinctHashes source)
    (N : Hash → String → UInt64) :
    (∀ (reads reads' : PaymentStatus.Reads)
      (req req' : PaymentStatus.RequestBody)
      (response response' : PaymentStatus.ResponseBody),
      reads.AnswersWith (N source.sourceIDEncoded req.senderAddress) →
      reads'.AnswersWith (N source.sourceIDEncoded req'.senderAddress) →
      PaymentStatus.XRPVerifier.verify source reads req = .ok response →
      PaymentStatus.XRPVerifier.verify source reads' req' = .ok response' →
      (req.senderAddress, req.paymentId) ≠
        (req'.senderAddress, req'.paymentId) →
      response.transactionId ≠ response'.transactionId) ∧
    (∀ (reads : FeeProof.Reads) (req : FeeProof.RequestBody)
      (response : FeeProof.ResponseBody),
      reads.AnswersWith (N source.sourceIDEncoded req.senderAddress) →
      (FeeProof.newXRPVerifier source).verify reads req = .ok response →
      ∃ evaluation,
        (FeeProof.newXRPVerifier source).evaluate reads req =
          .ok evaluation ∧
        response.actualFee = (evaluation.rows.map FeeProof.FeeRow.fee).sum ∧
        evaluation.rows.length = req.batchCount.toNat ∧
        (evaluation.rows.map FeeProof.FeeRow.tx).Nodup ∧
        ∀ row ∈ evaluation.rows, row.tx ∈ source.repo.db) ∧
    (∀ (reads reads' : FeeProof.Reads) (req req' : FeeProof.RequestBody)
      (evaluation evaluation' : FeeProof.Evaluation),
      req.senderAddress = req'.senderAddress →
      reads.AnswersWith (N source.sourceIDEncoded req.senderAddress) →
      reads'.AnswersWith (N source.sourceIDEncoded req'.senderAddress) →
      (FeeProof.newXRPVerifier source).evaluate reads req =
        .ok evaluation →
      (FeeProof.newXRPVerifier source).evaluate reads' req' =
        .ok evaluation' →
      req.paymentIDs.Disjoint req'.paymentIDs →
      (evaluation.rows.map FeeProof.FeeRow.tx).Disjoint
        (evaluation'.rows.map FeeProof.FeeRow.tx)) := by
  refine ⟨?_, ?_, ?_⟩
  · intro reads reads' req req' response response' hreads hreads' h h' hne
      heq
    obtain ⟨event, hassigned, ⟨a⟩, -⟩ :=
      PaymentStatus.XRPVerifier.verify_attested h
    obtain ⟨event', hassigned', ⟨a'⟩, -⟩ :=
      PaymentStatus.XRPVerifier.verify_attested h'
    have htx : a.tx ≠ a'.tx := by
      intro htx
      obtain ⟨hsender, hpayment⟩ :=
        PaymentStatus.XRPVerifier.sameRow_samePayment hreads hreads'
          (fun hsender => by rw [hsender]) hassigned hassigned' a a' htx
      exact hne (by rw [hsender, hpayment])
    exact hdistinct.forall a.mem_transactionRows.1
      a'.mem_transactionRows.1 htx _ _ a.builds.transactionId
      a'.builds.transactionId heq
  · intro reads req response hreads h
    obtain ⟨evaluation, hevaluation, rfl⟩ :=
      FeeProof.XRPVerifier.verify_eq_ok_iff.mp h
    have hrange := FeeProof.XRPVerifier.validateBatchRange_eq_ok_iff.mp
      (FeeProof.XRPVerifier.evaluate_eq_ok_iff_stages.mp hevaluation).1
    have hrows := FeeProof.XRPVerifier.evaluate_rows hreads hevaluation
    refine ⟨evaluation, hevaluation, rfl,
      (FeeProof.XRPVerifier.evaluate_bounds hevaluation).2.1, ?_, ?_⟩
    · exact FeeProof.XRPVerifier.nodup_rows hreads hrange.nodup_paymentIDs
        hevaluation
    · intro row hrow
      obtain ⟨p, -, hdb, -⟩ := forall₂_exists_left hrows hrow
      exact hdb
  · intro reads reads' req req' evaluation evaluation' hsender hreads
      hreads' h h' hdisjoint
    rw [← hsender] at hreads'
    exact FeeProof.XRPVerifier.disjoint_rows hreads hreads' h h' hdisjoint

theorem SmallLedger.distinctHashes : DistinctHashes SmallLedger.source := by
  refine List.pairwise_pair.mpr ?_
  intro hash hash' hhash hhash'
  rw [SmallLedger.payRow1.hash, Except.ok.injEq] at hhash
  rw [SmallLedger.payRow2.hash, Except.ok.injEq] at hhash'
  rw [← hhash, ← hhash']
  decide

theorem transactions_back_one_payment_smallLedger :
    (FixedBytes.replicate 32 0xaa : Hash) ≠ FixedBytes.replicate 32 0xbb ∧
    (∃ evaluation,
      SmallLedger.feeVerifier.evaluate SmallLedger.feeReads
        (SmallLedger.feeRequest 1 2) = .ok evaluation ∧
      evaluation.rows.length = 2 ∧
      (evaluation.rows.map FeeProof.FeeRow.tx).Nodup) ∧
    [SmallLedger.tx1].Disjoint [SmallLedger.tx2] := by
  obtain ⟨hpayments, hbatch, hbatches⟩ := transactions_back_one_payment
    SmallLedger.source SmallLedger.distinctHashes (fun _ _ => 100)
  refine ⟨?_, ?_, ?_⟩
  · exact hpayments SmallLedger.paymentReads SmallLedger.paymentReads
      (SmallLedger.paymentRequest 1) (SmallLedger.paymentRequest 2) _ _
      SmallLedger.paymentReads_answersWith
      SmallLedger.paymentReads_answersWith
      SmallLedger.verify_payment1 SmallLedger.verify_payment2 (by decide)
  · obtain ⟨evaluation, hevaluation, -, hlength, hnodup, -⟩ :=
      hbatch SmallLedger.feeReads (SmallLedger.feeRequest 1 2) _
        SmallLedger.feeReads_answersWith
        (FeeProof.XRPVerifier.verify_eq_ok_iff.mpr
          ⟨_, SmallLedger.evaluate_batch, rfl⟩)
    exact ⟨evaluation, hevaluation, hlength, hnodup⟩
  · have hfirst : (SmallLedger.feeRequest 1 1).paymentIDs = [1] := rfl
    have hsecond : (SmallLedger.feeRequest 2 1).paymentIDs = [2] := rfl
    have hdisjoint : (SmallLedger.feeRequest 1 1).paymentIDs.Disjoint
        (SmallLedger.feeRequest 2 1).paymentIDs := by
      rw [hfirst, hsecond]
      simp
    exact hbatches SmallLedger.feeReads SmallLedger.feeReads
      (SmallLedger.feeRequest 1 1) (SmallLedger.feeRequest 2 1) _ _ rfl
      SmallLedger.feeReads_answersWith SmallLedger.feeReads_answersWith
      SmallLedger.evaluate_first SmallLedger.evaluate_second hdisjoint

end VerifierApi

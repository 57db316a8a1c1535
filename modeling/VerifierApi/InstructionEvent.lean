import VerifierApi.AbiEncoding
import VerifierApi.IndexerStore

/-!
# Instruction identifiers and instruction events

The instruction id is the hash of the Solidity encoding of the operation,
the account and the payment.  An event found under such an id is decoded in
two stages and bound back to the operation it was looked up for.
-/

namespace VerifierApi

inductive Command where
  | pay
  | reissue
deriving DecidableEq, Repr

def Command.text : Command → String
  | .pay => "PAY"
  | .reissue => "REISSUE"

/-- The bytes of a text. -/
def textBytes (text : String) : List UInt8 :=
  text.toByteArray.data.toList

/-- A short text as a 32-byte word, padded with zeros on the right.  It stands
for a conversion of the chain library. -/
def stringToCommonHash (text : String) : Except ExternalError Hash :=
  if (textBytes text).length ≤ 32 then
    .ok (FixedBytes.rightPad 32 (textBytes text))
  else .error ⟨"string " ++ text ++ " too long", []⟩

/-! ## Instruction ids -/

/-- `abi.encode(bytes32, bytes32, bytes32, string, uint64, uint64)`: six
head words, of which the fourth is the offset of the string, and the string
with its length. -/
def packInstruction (opType opCommand sourceID : Hash)
    (account : List UInt8) (paymentId reissueNumber : UInt64) : List UInt8 :=
  opType.bytes ++ opCommand.bytes ++ sourceID.bytes ++ abiWord 192 ++
    abiWord paymentId.toNat ++ abiWord reissueNumber.toNat ++
    abiWord account.length ++ account ++
    List.replicate ((account.length + 31) / 32 * 32 - account.length) 0

/-- Hashing is library code. -/
abbrev Keccak := List UInt8 → Hash

/-- The id over the bytes of the account, of which nothing is assumed. -/
def generateInstructionIDOfBytes (keccak256 : Keccak) (command : Command)
    (opType sourceID : Hash) (account : List UInt8)
    (paymentId reissueNumber : UInt64) : Except GoError Hash :=
  match stringToCommonHash command.text with
  | .error err =>
      .error (.wrapf s!"cannot convert {command.text} to Bytes32" err)
  | .ok opCommand =>
      .ok (keccak256 (packInstruction opType opCommand sourceID account
        paymentId reissueNumber))

def generateInstructionIDFor (keccak256 : Keccak) (command : Command)
    (opType sourceID : Hash) (accountAddress : String)
    (paymentId reissueNumber : UInt64) : Except GoError Hash :=
  generateInstructionIDOfBytes keccak256 command opType sourceID
    (textBytes accountAddress) paymentId reissueNumber

/-- Pay events always use reissue number zero. -/
def generateInstructionID (keccak256 : Keccak) (opType sourceID : Hash)
    (accountAddress : String) (paymentId : UInt64) : Except GoError Hash :=
  generateInstructionIDFor keccak256 .pay opType sourceID accountAddress
    paymentId 0

def generatePayInstructionID := generateInstructionID

def generateReissueInstructionID (keccak256 : Keccak)
    (opType sourceID : Hash) (accountAddress : String)
    (paymentId reissueNumber : UInt64) : Except GoError Hash :=
  generateInstructionIDFor keccak256 .reissue opType sourceID accountAddress
    paymentId reissueNumber

theorem stringToCommonHash_command (command : Command) :
    ∃ word, stringToCommonHash command.text = .ok word := by
  cases command <;> exact ⟨_, rfl⟩

theorem generateInstructionIDFor_total
    (keccak256 : Keccak) (command : Command) (opType sourceID : Hash)
    (accountAddress : String) (paymentId reissueNumber : UInt64) :
    ∃ id, generateInstructionIDFor keccak256 command opType sourceID
      accountAddress paymentId reissueNumber = .ok id := by
  obtain ⟨word, hword⟩ := stringToCommonHash_command command
  unfold generateInstructionIDFor generateInstructionIDOfBytes
  rw [hword]
  exact ⟨_, rfl⟩

/-! ## Events -/

/-- The wrapper of an instruction event. -/
structure TeeInstructionsSent where
  opType : Hash
  opCommand : Hash
  message : List UInt8
deriving DecidableEq

/-- The payment instruction carried by a wrapper. -/
structure PaymentInstructionMessage where
  sourceId : Hash
  senderAddress : String
  recipientAddress : String
  tokenId : List UInt8
  amount : Option Int
  maxFee : Option Int
  paymentReference : Hash
  nonce : UInt64
  paymentId : UInt64
deriving DecidableEq

structure EventABI where
  id : Hash
  unpack : List UInt8 → Except ExternalError TeeInstructionsSent

/-- The parsed ABI, of which the verifiers use one event, and the argument
decoder of the payment messages. -/
structure TeeInstructionsABI where
  teeInstructionsSent : Option EventABI
  decodeMessage :
    Command → List UInt8 → Except ExternalError PaymentInstructionMessage

def eventNameTeeInstructionsSent : String := "TeeInstructionsSent"

def teeInstructionsSentEventSignature (abi : TeeInstructionsABI) :
    Except GoError String :=
  match abi.teeInstructionsSent with
  | none =>
      .error (.new
        s!"ABI does not contain event {eventNameTeeInstructionsSent}")
  | some event => .ok event.id.hex

def maxEventDataSize : ℕ := 2 ^ 20

def abiDecodeEventData (abi : TeeInstructionsABI) (data : List UInt8) :
    Except ExternalError TeeInstructionsSent :=
  match abi.teeInstructionsSent with
  | none =>
      .error ⟨s!"ABI unpack failed for event {eventNameTeeInstructionsSent}",
        []⟩
  | some event => event.unpack data

def decodeInstructionEnvelope (log : ChainLog) (abi : TeeInstructionsABI)
    (command : Command) (expectedOpType : Hash) :
    Except GoError (List UInt8) := do
  ensure (log.data.length ≤ maxEventDataSize)
    (.wrapf
      s!"event data too large ({log.data.length} bytes, max {maxEventDataSize})"
      errDataSource)
  let eventData ← (abiDecodeEventData abi log.data).mapError
    fun err : ExternalError =>
      .wrapfCause s!"cannot decode event {eventNameTeeInstructionsSent}"
        errDataSource err
  ensure (eventData.opType = expectedOpType)
    (.wrapf
      s!"DB inconsistency: event OpType {eventData.opType.hex} != expected {expectedOpType.hex}"
      errDatabase)
  let expectedOpCommand ← (stringToCommonHash command.text).mapError
    fun err : ExternalError =>
      .wrapf s!"cannot convert command {command.text} to hash" err
  ensure (eventData.opCommand = expectedOpCommand)
    (.wrapf
      s!"DB inconsistency: event OpCommand {eventData.opCommand.hex} != expected {expectedOpCommand.hex} ({command.text})"
      errDatabase)
  .ok eventData.message

def decodeTeeInstructionsSentEventData (log : ChainLog)
    (abi : TeeInstructionsABI) (command : Command) (expectedOpType : Hash) :
    Except GoError PaymentInstructionMessage := do
  let messageData ← decodeInstructionEnvelope log abi command expectedOpType
  (abi.decodeMessage command messageData).mapError fun err : ExternalError =>
    .wrapfCause
      s!"cannot decode {eventNameTeeInstructionsSent} message arguments"
      errDataSource err

/-- A decoded event was small enough, unpacked, and carries the operation it
was looked up for. -/
structure DecodesTo (log : ChainLog) (abi : TeeInstructionsABI)
    (command : Command) (expectedOpType : Hash)
    (eventData : TeeInstructionsSent)
    (message : PaymentInstructionMessage) : Prop where
  size : log.data.length ≤ maxEventDataSize
  unpacks : abiDecodeEventData abi log.data = .ok eventData
  opType : eventData.opType = expectedOpType
  opCommand : stringToCommonHash command.text = .ok eventData.opCommand
  decodes : abi.decodeMessage command eventData.message = .ok message

theorem decodeTeeInstructionsSentEventData_eq_ok_iff
    {log : ChainLog} {abi : TeeInstructionsABI} {command : Command}
    {expectedOpType : Hash} {message : PaymentInstructionMessage} :
    decodeTeeInstructionsSentEventData log abi command expectedOpType =
        .ok message ↔
      ∃ eventData,
        DecodesTo log abi command expectedOpType eventData message := by
  unfold decodeTeeInstructionsSentEventData decodeInstructionEnvelope
  simp only [bind_eq_ok, ensure_eq_ok, mapError_eq_ok]
  constructor
  · rintro ⟨messageData, ⟨-, hsize, eventData, hunpacks, -, hopType,
      expectedOpCommand, hcommand, -, hopCommand, hmessage⟩, hdecodes⟩
    simp only [Except.ok.injEq] at hmessage
    subst messageData expectedOpCommand
    exact ⟨eventData, hsize, hunpacks, hopType, hcommand, hdecodes⟩
  · rintro ⟨eventData, hsize, hunpacks, hopType, hcommand, hdecodes⟩
    exact ⟨eventData.message, ⟨(), hsize, eventData, hunpacks, (), hopType,
      eventData.opCommand, hcommand, (), rfl, rfl⟩, hdecodes⟩

theorem teeInstructionsSentEventSignature_fails (abi : TeeInstructionsABI) :
    FailsWith IndexerFault (teeInstructionsSentEventSignature abi) := by
  unfold teeInstructionsSentEventSignature
  split
  next => exact FailsWith.error (.new _)
  next => exact FailsWith.ok _

theorem decodeTeeInstructionsSentEventData_fails
    (log : ChainLog) (abi : TeeInstructionsABI) (command : Command)
    (expectedOpType : Hash) :
    FailsWith IndexerFault
      (decodeTeeInstructionsSentEventData log abi command
        expectedOpType) := by
  unfold decodeTeeInstructionsSentEventData decodeInstructionEnvelope
  apply FailsWith.bind
  · refine FailsWith.ensure_bind (.wrapf _ .errDataSource) fun _ => ?_
    apply FailsWith.bind
    · exact FailsWith.mapError_of_forall fun err =>
        .wrapfCause _ .errDataSource (.external err)
    · intro eventData _
      refine FailsWith.ensure_bind (.wrapf _ .errDatabase) fun _ => ?_
      apply FailsWith.bind
      · exact FailsWith.mapError_of_forall fun err =>
          .wrapf _ (.external err)
      · intro expectedOpCommand _
        exact FailsWith.ensure_bind (.wrapf _ .errDatabase) fun _ => .ok _
  · intro messageData _
    exact FailsWith.mapError_of_forall fun err =>
      .wrapfCause _ .errDataSource (.external err)

/-! ## Binding rows and events to the request -/

/-- Simple case folding of a character.  The ASCII letters are folded here;
the folding of the remaining characters is a table of the standard library. -/
def foldRune (foldNonASCII : Char → Char) (c : Char) : Char :=
  if c.toNat < 128 then c.toLower else foldNonASCII c

def equalFold (foldNonASCII : Char → Char) (a b : String) : Bool :=
  a.toList.map (foldRune foldNonASCII) = b.toList.map (foldRune foldNonASCII)

def checkRowConsistency (foldNonASCII : Char → Char)
    (jsonHash jsonAccount : String) (jsonSequence : UInt64)
    (tx : DBTransaction) : Except GoError Unit := do
  ensure (equalFold foldNonASCII jsonHash tx.hash = true)
    (.wrapf
      s!"DB inconsistency: JSON hash {quote jsonHash} != column Hash {quote tx.hash}"
      errDatabase)
  ensure (jsonAccount = tx.sourceAddress)
    (.wrapf
      s!"DB inconsistency: JSON Account {quote jsonAccount} != column SourceAddress {quote tx.sourceAddress}"
      errDatabase)
  ensure (jsonSequence = tx.sequence)
    (.wrapf
      s!"DB inconsistency: JSON Sequence {jsonSequence} != column Sequence {tx.sequence}"
      errDatabase)

theorem checkRowConsistency_eq_ok_iff
    {foldNonASCII : Char → Char} {jsonHash jsonAccount : String}
    {jsonSequence : UInt64} {tx : DBTransaction} {u : Unit} :
    checkRowConsistency foldNonASCII jsonHash jsonAccount jsonSequence tx =
        .ok u ↔
      equalFold foldNonASCII jsonHash tx.hash = true ∧
        jsonAccount = tx.sourceAddress ∧ jsonSequence = tx.sequence := by
  simp only [checkRowConsistency, bind_eq_ok, ensure_eq_ok, exists_const]

theorem checkRowConsistency_fails
    (foldNonASCII : Char → Char) (jsonHash jsonAccount : String)
    (jsonSequence : UInt64) (tx : DBTransaction) :
    FailsWith IndexerFault
      (checkRowConsistency foldNonASCII jsonHash jsonAccount
        jsonSequence tx) := by
  unfold checkRowConsistency
  refine FailsWith.ensure_bind (.wrapf _ .errDatabase) fun _ => ?_
  refine FailsWith.ensure_bind (.wrapf _ .errDatabase) fun _ => ?_
  exact FailsWith.ensure (.wrapf _ .errDatabase)

def checkInstructionConsistency (msg : PaymentInstructionMessage)
    (sourceID : Hash) (senderAddress : String) (paymentId : UInt64) :
    Except GoError Unit := do
  ensure (msg.sourceId = sourceID)
    (.wrapf
      s!"DB inconsistency: event SourceId {msg.sourceId.hex} != expected {sourceID.hex}"
      errDatabase)
  ensure (msg.senderAddress = senderAddress)
    (.wrapf
      s!"DB inconsistency: event SenderAddress {quote msg.senderAddress} != expected {quote senderAddress}"
      errDatabase)
  ensure (msg.paymentId = paymentId)
    (.wrapf
      s!"DB inconsistency: event PaymentId {msg.paymentId} != expected {paymentId}"
      errDatabase)

theorem checkInstructionConsistency_eq_ok_iff
    {msg : PaymentInstructionMessage} {sourceID : Hash}
    {senderAddress : String} {paymentId : UInt64} {u : Unit} :
    checkInstructionConsistency msg sourceID senderAddress paymentId =
        .ok u ↔
      msg.sourceId = sourceID ∧ msg.senderAddress = senderAddress ∧
        msg.paymentId = paymentId := by
  simp only [checkInstructionConsistency, bind_eq_ok, ensure_eq_ok,
    exists_const]

theorem checkInstructionConsistency_fails
    (msg : PaymentInstructionMessage) (sourceID : Hash)
    (senderAddress : String) (paymentId : UInt64) :
    FailsWith IndexerFault
      (checkInstructionConsistency msg sourceID senderAddress
        paymentId) := by
  unfold checkInstructionConsistency
  refine FailsWith.ensure_bind (.wrapf _ .errDatabase) fun _ => ?_
  refine FailsWith.ensure_bind (.wrapf _ .errDatabase) fun _ => ?_
  exact FailsWith.ensure (.wrapf _ .errDatabase)

end VerifierApi

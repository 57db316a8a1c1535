import VerifierApi.HexText
import VerifierApi.Sentinels
import VerifierApi.UniqueIndex
import Mathlib.Data.List.Sort

/-!
# The indexer tables and the reads on them

The C-chain log table and the XRP transaction table are lists of rows with
arbitrary contents.  A read selects the rows which its `WHERE` clause
matches, orders them and keeps at most `LIMIT` of them; it may also fail, in
which case it returns no rows.  The failure that a particular read meets is
an argument of the read.  Texts are compared byte by byte, as under a binary
collation: where the collation of a MySQL column ignores case, its clause may
match further rows, and the results are about tables in which it does not.
-/

namespace VerifierApi

abbrev Hash := FixedBytes 32
abbrev Address := FixedBytes 20

namespace FixedBytes

/-- The prefixed lower-case text of a byte string. -/
def hex {n : ℕ} (value : FixedBytes n) : String :=
  "0x" ++ String.ofList (hexDigits value.bytes)

end FixedBytes

def zeroHash : Hash :=
  FixedBytes.replicate 32 0

def trimPrefix (before text : String) : String :=
  if before.toList.isPrefixOf text.toList then
    String.ofList (text.toList.drop before.toList.length)
  else text

def removeHexPrefix (text : String) : String :=
  trimPrefix "0X" (trimPrefix "0x" text)

theorem removeHexPrefix_hex {n : ℕ} (value : FixedBytes n) :
    removeHexPrefix value.hex = String.ofList (hexDigits value.bytes) := by
  have hfirst :
      trimPrefix "0x" value.hex =
        String.ofList (hexDigits value.bytes) := by
    have hprefix :
        "0x".toList.isPrefixOf
          ("0x" ++ String.ofList (hexDigits value.bytes)).toList = true := by
      rw [List.isPrefixOf_iff_prefix, String.toList_append]
      exact List.prefix_append _ _
    unfold trimPrefix FixedBytes.hex
    rw [if_pos hprefix, String.toList_append, List.drop_left,
      String.toList_ofList]
  have hsecond :
      ¬ "0X".toList.isPrefixOf
        (String.ofList (hexDigits value.bytes)).toList = true := by
    rw [List.isPrefixOf_iff_prefix]
    intro hprefix
    have hmem := hprefix.subset (show 'X' ∈ "0X".toList by decide)
    rw [String.toList_ofList] at hmem
    exact hexDigits_ne_upperX value.bytes hmem
  unfold removeHexPrefix
  rw [hfirst]
  unfold trimPrefix
  rw [if_neg hsecond]

theorem removeHexPrefix_hex_injective {n : ℕ} {a b : FixedBytes n}
    (h : removeHexPrefix a.hex = removeHexPrefix b.hex) : a = b := by
  rw [removeHexPrefix_hex, removeHexPrefix_hex] at h
  have hdigits := congrArg String.toList h
  rw [String.toList_ofList, String.toList_ofList] at hdigits
  exact FixedBytes.ext (hexDigits_injective hdigits)

/-! ## Rows -/

/-- A row of the C-chain log table; the columns are stored as text. -/
structure DbLog where
  address : String
  topic0 : String
  topic1 : String
  topic2 : String
  topic3 : String
  data : String
  blockNumber : UInt64
  logIndex : UInt64
  timestamp : UInt64
deriving DecidableEq

/-- What the verifiers read of a chain log. -/
structure ChainLog where
  topics : List Hash
  data : List UInt8
deriving DecidableEq

/-- A row of the `transactions` table of the XRP indexer. -/
structure DBTransaction where
  hash : String
  blockNumber : UInt64
  timestamp : UInt64
  response : String
  sequence : UInt64
  sourceAddress : String
deriving DecidableEq

/-- Both PMW verifiers hold a repository over the same two tables.  The
conversion of a log row is library code. -/
structure DBRepo where
  db : List DBTransaction
  cChainDb : List DbLog
  contractAddress : String
  convertDatabaseLogToChainLog : DbLog → Except ExternalError ChainLog

def normalizeAddress (address : Address) : String :=
  removeHexPrefix address.hex

def newDBRepo (db : List DBTransaction) (cChainDb : List DbLog)
    (contractAddress : Address)
    (convert : DbLog → Except ExternalError ChainLog) : DBRepo where
  db := db
  cChainDb := cChainDb
  contractAddress := normalizeAddress contractAddress
  convertDatabaseLogToChainLog := convert

/-- The library conversion keeps the instruction topic: a row whose third
topic column is the text of a hash converts to a log with that topic. -/
def KeepsInstructionTopic
    (convert : DbLog → Except ExternalError ChainLog) : Prop :=
  ∀ row log (id : Hash), convert row = .ok log →
    row.topic2 = removeHexPrefix id.hex → log.topics[2]? = some id

/-- A read which expects one row.  It asks for two, so that a duplicate is
an error and not an arbitrary pick. -/
def readSingle {ρ : Type} (fault : Option ExternalError) (rows : List ρ)
    (cannotFetch duplicate : String) : Except GoError ρ :=
  match fault with
  | some err => .error (.wrapf2 cannotFetch errDatabase err)
  | none =>
      match rows.take 2 with
      | [] => .error (.wrapf cannotFetch errRecordNotFound)
      | [row] => .ok row
      | _ => .error (.wrapf duplicate errDatabase)

/-! ## Reads of the log table -/

namespace DBRepo

/-- The part of the `WHERE` clause which does not name an instruction: the
configured emitter, the event, and extension id zero. -/
def matchesEvent (repo : DBRepo) (eventHash : String) (row : DbLog) : Bool :=
  row.address = repo.contractAddress ∧
    row.topic0 = removeHexPrefix eventHash ∧
    row.topic1 = removeHexPrefix zeroHash.hex

def instructionLogs (repo : DBRepo) (eventHash : String) (id : Hash) :
    List DbLog :=
  repo.cChainDb.filter fun row =>
    repo.matchesEvent eventHash row && row.topic2 = removeHexPrefix id.hex

def anyInstructionLogs (repo : DBRepo) (eventHash : String)
    (ids : List Hash) : List DbLog :=
  repo.cChainDb.filter fun row =>
    repo.matchesEvent eventHash row &&
      decide (row.topic2 ∈ ids.map fun id => removeHexPrefix id.hex)

/-- `ORDER BY block_number ASC, log_index ASC`. -/
def orderLogs (rows : List DbLog) : List DbLog :=
  rows.insertionSort fun a b =>
    a.blockNumber < b.blockNumber ∨
      (a.blockNumber = b.blockNumber ∧ a.logIndex ≤ b.logIndex)

/-- The row of one instruction, which both repositories read alike. -/
def fetchInstructionRow (repo : DBRepo) (fault : Option ExternalError)
    (eventHash : String) (id : Hash) : Except GoError DbLog :=
  readSingle fault (orderLogs (repo.instructionLogs eventHash id))
    s!"cannot fetch log for instruction {id.hex}, eventHash {eventHash}"
    s!"duplicate logs for instruction {id.hex}, eventHash {eventHash}"

/-- `FetchInstructionLog` of the payment-status repository. -/
def fetchInstructionLog (repo : DBRepo) (fault : Option ExternalError)
    (eventHash : String) (id : Hash) : Except GoError ChainLog := do
  let row ← repo.fetchInstructionRow fault eventHash id
  (repo.convertDatabaseLogToChainLog row).mapError ExternalError.toGoError

end DBRepo

structure InstructionLogResult where
  log : ChainLog
  blockTimestamp : UInt64

namespace DBRepo

/-- `FetchInstructionLog` of the fee-proof repository, which also reports
the timestamp of the row. -/
def fetchInstructionLogResult (repo : DBRepo) (fault : Option ExternalError)
    (eventHash : String) (id : Hash) :
    Except GoError InstructionLogResult := do
  let row ← repo.fetchInstructionRow fault eventHash id
  let log ← (repo.convertDatabaseLogToChainLog row).mapError
    ExternalError.toGoError
  .ok ⟨log, row.timestamp⟩

/-- How the batch read files one row: a log with fewer than three topics is
skipped. -/
def fileInstructionRow (repo : DBRepo) (row : DbLog) :
    Except GoError (Option (Hash × ChainLog)) :=
  match repo.convertDatabaseLogToChainLog row with
  | .error err => .error (.wrapf "cannot convert log" err)
  | .ok log => .ok (log.topics[2]?.map fun key => (key, log))

/-- `FetchInstructionLogs` of the fee-proof repository. -/
def fetchInstructionLogs (repo : DBRepo) (fault : Option ExternalError)
    (eventHash : String) (ids : List Hash) :
    Except GoError (AList fun _ : Hash => ChainLog) :=
  if ids.isEmpty then .ok ∅
  else
    match fault with
    | some err =>
        .error (.wrapf2
          s!"cannot fetch instruction logs, eventHash {eventHash}"
          errDatabase err)
    | none =>
        indexUnique repo.fileInstructionRow
          (fun key => .wrapf
            s!"duplicate logs for instruction {key.hex}, eventHash {eventHash}"
            errDatabase)
          (orderLogs (repo.anyInstructionLogs eventHash ids)) ∅

/-! ## Reads of the transaction table -/

def transactionRows (repo : DBRepo) (source : String) (sequence : UInt64) :
    List DBTransaction :=
  repo.db.filter fun tx => tx.sourceAddress = source ∧ tx.sequence = sequence

/-- `FetchTransactionBySourceAndSequence`. -/
def fetchTransactionBySourceAndSequence (repo : DBRepo)
    (fault : Option ExternalError) (source : String) (nonce : UInt64) :
    Except GoError DBTransaction :=
  readSingle fault
    ((repo.transactionRows source nonce).insertionSort
      fun a b => a.hash ≤ b.hash)
    s!"cannot fetch transaction for source {source}, nonce {nonce}"
    s!"duplicate transactions for source {source}, nonce {nonce}"

def anyTransactionRows (repo : DBRepo) (source : String)
    (nonces : List UInt64) : List DBTransaction :=
  repo.db.filter fun tx => tx.sourceAddress = source ∧ tx.sequence ∈ nonces

def fileTransaction (tx : DBTransaction) :
    Except GoError (Option (UInt64 × DBTransaction)) :=
  .ok (some (tx.sequence, tx))

/-- `FetchTransactionsBySourceAndSequences`. -/
def fetchTransactionsBySourceAndSequences (repo : DBRepo)
    (fault : Option ExternalError) (source : String)
    (nonces : List UInt64) :
    Except GoError (AList fun _ : UInt64 => DBTransaction) :=
  if nonces.isEmpty then .ok ∅
  else
    match fault with
    | some err =>
        .error (.wrapf2 s!"cannot fetch transactions for source {source}"
          errDatabase err)
    | none =>
        indexUnique fileTransaction
          (fun sequence => .wrapf
            s!"duplicate transactions for source {source}, sequence {sequence}"
            errDatabase)
          (repo.anyTransactionRows source nonces) ∅

end DBRepo

end VerifierApi

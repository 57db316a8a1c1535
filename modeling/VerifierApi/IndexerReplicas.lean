import VerifierApi.FeeProofAdditivity
import VerifierApi.FeeProofWindow

/-!
# Replicas of the indexer tables

Instances of the service read replicas of the indexer tables, and one replica
may have indexed less of the ledger than another.  A replica which is behind
never contradicts one which is ahead: it repeats the answer, reports a record
as missing, or, for a fee proof, has seen fewer reissues.
-/

namespace VerifierApi

theorem eq_nil_or_singleton_of_subperm {α : Type} {xs : List α} {x : α}
    (h : xs.Subperm [x]) : xs = [] ∨ xs = [x] := by
  rcases eq_nil_or_singleton h.length_le with hnil | ⟨y, rfl⟩
  · exact .inl hnil
  · have hmem : y ∈ [x] := h.subset (List.mem_singleton_self y)
    exact .inr (by rw [List.mem_singleton.mp hmem])

theorem readSingle_nil {ρ : Type} {cannotFetch duplicate : String} :
    ∃ err, readSingle none ([] : List ρ) cannotFetch duplicate =
        .error err ∧ err.sentinels = [.recordNotFound] := by
  refine ⟨.wrapf cannotFetch errRecordNotFound, rfl, ?_⟩
  rw [sentinels_wrapf]
  rfl

/-- The tables which the replicas index hold one log for an instruction and
one transaction for a sequence. -/
structure DBRepo.UniqueRows (repo : DBRepo) : Prop where
  logs : ∀ eventHash id, (repo.instructionLogs eventHash id).length ≤ 1
  transactions : ∀ source nonce,
    (repo.transactionRows source nonce).length ≤ 1

theorem DBRepo.UniqueRows.of_pairwise {repo : DBRepo}
    (hlogs : repo.cChainDb.Pairwise fun row other =>
      row.topic2 ≠ other.topic2)
    (htxs : repo.db.Pairwise fun tx other => tx.sequence ≠ other.sequence) :
    repo.UniqueRows where
  logs eventHash id := by
    have hrows := (pairwise_ne_iff_fibre_le_one _ _).mp hlogs
      (removeHexPrefix id.hex)
    refine le_trans (List.Sublist.length_le ?_) hrows
    unfold DBRepo.instructionLogs
    apply List.monotone_filter_right
    intro row hrow
    exact (Bool.and_eq_true_iff.mp hrow).2
  transactions source nonce := by
    have hrows := (pairwise_ne_iff_fibre_le_one _ _).mp htxs nonce
    refine le_trans (List.Sublist.length_le ?_) hrows
    unfold DBRepo.transactionRows
    apply List.monotone_filter_right
    intro tx htx
    simp only [decide_eq_true_eq] at htx ⊢
    exact htx.2

/-- A repository over part of the rows of another one. -/
structure DBRepo.Behind (repo ahead : DBRepo) : Prop where
  db : repo.db.Subperm ahead.db
  cChainDb : repo.cChainDb.Subperm ahead.cChainDb
  contractAddress : repo.contractAddress = ahead.contractAddress
  convert : repo.convertDatabaseLogToChainLog =
    ahead.convertDatabaseLogToChainLog

namespace DBRepo.Behind

variable {repo ahead : DBRepo} {eventHash : String} {id : Hash}
  {source : String} {nonce : UInt64}

theorem instructionLogs (h : repo.Behind ahead) :
    (repo.instructionLogs eventHash id).Subperm
      (ahead.instructionLogs eventHash id) := by
  unfold DBRepo.instructionLogs DBRepo.matchesEvent
  rw [h.contractAddress]
  exact h.cChainDb.filter _

theorem transactionRows (h : repo.Behind ahead) :
    (repo.transactionRows source nonce).Subperm
      (ahead.transactionRows source nonce) :=
  h.db.filter _

/-- Of a single log ahead the replica has that log or none. -/
theorem instructionLogs_of_singleton (h : repo.Behind ahead) {row : DbLog}
    (hrow : ahead.instructionLogs eventHash id = [row]) :
    repo.instructionLogs eventHash id = [] ∨
      repo.instructionLogs eventHash id = [row] := by
  apply eq_nil_or_singleton_of_subperm
  rw [← hrow]
  exact h.instructionLogs

theorem transactionRows_of_singleton (h : repo.Behind ahead)
    {tx : DBTransaction} (htx : ahead.transactionRows source nonce = [tx]) :
    repo.transactionRows source nonce = [] ∨
      repo.transactionRows source nonce = [tx] := by
  apply eq_nil_or_singleton_of_subperm
  rw [← htx]
  exact h.transactionRows

theorem singleton_of_unique (h : repo.Behind ahead)
    (hunique : ahead.UniqueRows) {row : DbLog}
    (hrow : row ∈ repo.instructionLogs eventHash id) :
    ahead.instructionLogs eventHash id = [row] := by
  have hmem := h.instructionLogs.subset hrow
  rcases eq_nil_or_singleton (hunique.logs eventHash id) with
    hnil | ⟨other, hother⟩
  · simp [hnil] at hmem
  · rw [hother, List.mem_singleton] at hmem
    rw [hother, hmem]

theorem transaction_of_unique (h : repo.Behind ahead)
    (hunique : ahead.UniqueRows) {tx : DBTransaction}
    (htx : repo.transactionRows source nonce = [tx]) :
    ahead.transactionRows source nonce = [tx] := by
  have hmem : tx ∈ ahead.transactionRows source nonce := by
    apply h.transactionRows.subset
    simp [htx]
  rcases eq_nil_or_singleton (hunique.transactions source nonce) with
    hnil | ⟨other, hother⟩
  · simp [hnil] at hmem
  · rw [hother, List.mem_singleton] at hmem
    rw [hother, hmem]

end DBRepo.Behind

/-- The same verifier configuration over a replica which is behind. -/
structure PmwSource.Behind (source ahead : PmwSource) : Prop where
  library : source.library = ahead.library
  sourceIDEncoded : source.sourceIDEncoded = ahead.sourceIDEncoded
  parsedTeeInstructionsABI : source.parsedTeeInstructionsABI =
    ahead.parsedTeeInstructionsABI
  repo : source.repo.Behind ahead.repo

namespace PmwSource

variable {source ahead : PmwSource} {opType : Hash} {sender : String}
  {paymentId : UInt64}

theorem Behind.payInstructionID (h : source.Behind ahead) :
    source.payInstructionID opType sender paymentId =
      ahead.payInstructionID opType sender paymentId := by
  unfold PmwSource.payInstructionID
  rw [h.library, h.sourceIDEncoded]

/-- The event of the replica ahead, where the replica has indexed its log. -/
def PayEvent.onReplica (event : ahead.PayEvent opType sender paymentId)
    (h : source.Behind ahead)
    (hrow : source.repo.instructionLogs event.eventHash event.id =
      [event.row]) :
    source.PayEvent opType sender paymentId where
  id := event.id
  eventHash := event.eventHash
  row := event.row
  log := event.log
  eventData := event.eventData
  message := event.message
  id_eq := h.payInstructionID.trans event.id_eq
  eventHash_eq := by
    rw [h.parsedTeeInstructionsABI]
    exact event.eventHash_eq
  onlyRow := hrow
  converts := by
    rw [h.repo.convert]
    exact event.converts
  decodes := by
    rw [h.parsedTeeInstructionsABI]
    exact event.decodes
  sourceId := by
    rw [h.sourceIDEncoded]
    exact event.sourceId
  senderAddress := event.senderAddress
  paymentId_eq := event.paymentId_eq

theorem PayEvent.id_eq_of_behind (h : source.Behind ahead)
    (event : ahead.PayEvent opType sender paymentId)
    (event' : source.PayEvent opType sender paymentId) :
    event'.id = event.id :=
  event'.id_unique (h.payInstructionID.trans event.id_eq)

theorem PayEvent.eventHash_eq_of_behind (h : source.Behind ahead)
    (event : ahead.PayEvent opType sender paymentId)
    (event' : source.PayEvent opType sender paymentId) :
    event'.eventHash = event.eventHash := by
  apply event'.eventHash_unique
  rw [h.parsedTeeInstructionsABI]
  exact event.eventHash_eq

/-- An event of a replica is the event ahead, if there is one. -/
theorem PayEvent.message_eq_of_behind (h : source.Behind ahead)
    (event : ahead.PayEvent opType sender paymentId)
    (event' : source.PayEvent opType sender paymentId) :
    event'.message = event.message := by
  have honly := event'.onlyRow
  rw [event.id_eq_of_behind h event', event.eventHash_eq_of_behind h event']
    at honly
  rcases h.repo.instructionLogs_of_singleton event.onlyRow with
    hnil | hrow
  · simp [hnil] at honly
  · exact event'.message_unique (event.onReplica h hrow)

/-- With unique rows the event of the replica behind is one of the replica
ahead. -/
def PayEvent.onLedger (event : source.PayEvent opType sender paymentId)
    (h : source.Behind ahead) (hunique : ahead.repo.UniqueRows) :
    ahead.PayEvent opType sender paymentId where
  id := event.id
  eventHash := event.eventHash
  row := event.row
  log := event.log
  eventData := event.eventData
  message := event.message
  id_eq := h.payInstructionID.symm.trans event.id_eq
  eventHash_eq := by
    rw [← h.parsedTeeInstructionsABI]
    exact event.eventHash_eq
  onlyRow := by
    apply h.repo.singleton_of_unique hunique
    simp [event.onlyRow]
  converts := by
    rw [← h.repo.convert]
    exact event.converts
  decodes := by
    rw [← h.parsedTeeInstructionsABI]
    exact event.decodes
  sourceId := by
    rw [← h.sourceIDEncoded]
    exact event.sourceId
  senderAddress := event.senderAddress
  paymentId_eq := event.paymentId_eq

end PmwSource

/-! ## Payment status -/

namespace PaymentStatus

/-- What a run makes of the row which it found. -/
def Settles (library : PmwLibrary) (message : PaymentInstructionMessage)
    (tx : DBTransaction) (response : ResponseBody) : Prop :=
  ∃ raw, parseRawTransactionData library tx.response = .ok raw ∧
    checkRowConsistency library.foldNonASCII raw.hash raw.account
      raw.sequence tx = .ok () ∧
    buildPaymentStatusResponse library raw message tx = .ok response

theorem Settles.unique {library : PmwLibrary}
    {message : PaymentInstructionMessage} {tx : DBTransaction}
    {response response' : ResponseBody}
    (h : Settles library message tx response)
    (h' : Settles library message tx response') : response' = response := by
  obtain ⟨raw, hraw, -, hbuild⟩ := h
  obtain ⟨raw', hraw', -, hbuild'⟩ := h'
  obtain rfl : raw = raw' := by simpa using hraw.symm.trans hraw'
  simpa using hbuild'.symm.trans hbuild

namespace XRPVerifier

variable {x ahead : XRPVerifier} {reads reads' : Reads} {req : RequestBody}
  {response : ResponseBody}

theorem verify_eq_ok_iff :
    x.verify reads req = .ok response ↔
      reads.instructionFault = none ∧ reads.transactionFault = none ∧
      ∃ event : x.PayEvent req.opType req.senderAddress req.paymentId,
        (∃ initial, reads.initialNonce = .ok initial ∧
          AssignedSequence initial req.paymentId event.message.nonce) ∧
        ∃ tx, x.repo.transactionRows req.senderAddress
            event.message.nonce = [tx] ∧
          Settles x.library event.message tx response := by
  simp only [verify, bind_eq_ok, mapError_eq_ok,
    DBRepo.fetchInstructionLog_eq_ok_iff,
    decodeTeeInstructionsSentEventData_eq_ok_iff,
    checkInstructionConsistency_eq_ok_iff, verifySequence_eq_ok_iff,
    DBRepo.fetchTransactionBySourceAndSequence_eq_ok_iff, exists_unit]
  constructor
  · rintro ⟨id, hid, eventHash, hevent, log, ⟨hlogFault, row, hrow, hlog⟩,
      message, ⟨eventData, hdecodes⟩, ⟨hsource, hsender, hpayment⟩,
      hassigned, tx, ⟨htxFault, htx⟩, hsettles⟩
    exact ⟨hlogFault, htxFault, ⟨id, eventHash, row, log, eventData,
      message, hid, hevent, hrow, hlog, hdecodes, hsource, hsender,
      hpayment⟩, hassigned, tx, htx, hsettles⟩
  · rintro ⟨hlogFault, htxFault, event, hassigned, tx, htx, hsettles⟩
    exact ⟨event.id, event.id_eq, event.eventHash, event.eventHash_eq,
      event.log, ⟨hlogFault, event.row, event.onlyRow, event.converts⟩,
      event.message, ⟨event.eventData, event.decodes⟩,
      ⟨event.sourceId, event.senderAddress, event.paymentId_eq⟩, hassigned,
      tx, ⟨htxFault, htx⟩, hsettles⟩

/-- A log which is not indexed is a missing record. -/
theorem verify_of_noLog {id : Hash} {eventHash : String}
    (hid : x.payInstructionID req.opType req.senderAddress req.paymentId =
      .ok id)
    (hevent : teeInstructionsSentEventSignature x.parsedTeeInstructionsABI =
      .ok eventHash)
    (hfault : reads.instructionFault = none)
    (hnil : x.repo.instructionLogs eventHash id = []) :
    ∃ err, x.verify reads req = .error err ∧
      err.sentinels = [.recordNotFound] := by
  obtain ⟨err, hrow, hmissing⟩ :
      ∃ err, x.repo.fetchInstructionRow none eventHash id = .error err ∧
        err.sentinels = [.recordNotFound] := by
    unfold DBRepo.fetchInstructionRow
    rw [hnil]
    exact readSingle_nil
  refine ⟨err, ?_, hmissing⟩
  refine bind_eq_error.mpr (.inr ⟨id, mapError_eq_ok.mpr hid, ?_⟩)
  refine bind_eq_error.mpr (.inr ⟨eventHash, hevent, ?_⟩)
  rw [hfault]
  exact bind_eq_error.mpr (.inl (bind_eq_error.mpr (.inl hrow)))

/-- A transaction which is not indexed is a missing record. -/
theorem verify_of_noTransaction
    (event : x.PayEvent req.opType req.senderAddress req.paymentId)
    (hassigned : ∃ initial, reads.initialNonce = .ok initial ∧
      AssignedSequence initial req.paymentId event.message.nonce)
    (hlogFault : reads.instructionFault = none)
    (htxFault : reads.transactionFault = none)
    (hnil : x.repo.transactionRows req.senderAddress event.message.nonce =
      []) :
    ∃ err, x.verify reads req = .error err ∧
      err.sentinels = [.recordNotFound] := by
  have hlog : x.repo.fetchInstructionLog reads.instructionFault
      event.eventHash event.id = .ok event.log :=
    DBRepo.fetchInstructionLog_eq_ok_iff.mpr
      ⟨hlogFault, event.row, event.onlyRow, event.converts⟩
  obtain ⟨err, hrow, hmissing⟩ :
      ∃ err, x.repo.fetchTransactionBySourceAndSequence
          reads.transactionFault req.senderAddress event.message.nonce =
            .error err ∧ err.sentinels = [.recordNotFound] := by
    unfold DBRepo.fetchTransactionBySourceAndSequence
    rw [hnil, htxFault]
    exact readSingle_nil
  refine ⟨err, ?_, hmissing⟩
  refine bind_eq_error.mpr
    (.inr ⟨event.id, mapError_eq_ok.mpr event.id_eq, ?_⟩)
  refine bind_eq_error.mpr (.inr ⟨event.eventHash, event.eventHash_eq, ?_⟩)
  refine bind_eq_error.mpr (.inr ⟨event.log, hlog, ?_⟩)
  refine bind_eq_error.mpr (.inr ⟨event.message, event.decode_eq, ?_⟩)
  refine bind_eq_error.mpr (.inr ⟨(), event.consistent, ?_⟩)
  refine bind_eq_error.mpr
    (.inr ⟨(), verifySequence_eq_ok_iff.mpr hassigned, ?_⟩)
  exact bind_eq_error.mpr (.inl hrow)

/-- Whatever a replica which is behind verifies, the replica ahead verified
to the same response. -/
theorem response_onReplica {source ahead : PmwSource}
    {reads reads' : Reads} {req : RequestBody}
    {response response' : ResponseBody} (hbehind : source.Behind ahead)
    (h : XRPVerifier.verify ahead reads req = .ok response)
    (h' : XRPVerifier.verify source reads' req = .ok response') :
    response' = response := by
  obtain ⟨-, -, event, -, tx, htx, hsettles⟩ := verify_eq_ok_iff.mp h
  obtain ⟨-, -, event', -, tx', htx', hsettles'⟩ := verify_eq_ok_iff.mp h'
  rw [event.message_eq_of_behind hbehind event'] at htx' hsettles'
  rcases hbehind.repo.transactionRows_of_singleton htx with hnil | hrow
  · simp [hnil] at htx'
  · obtain rfl : tx = tx' := by simpa using hrow.symm.trans htx'
    rw [hbehind.library] at hsettles'
    exact hsettles.unique hsettles'

/-- With unique rows a run on the replica behind which succeeds succeeds on
the replica ahead, with whatever reads that do not fail and give its nonce. -/
theorem verify_onLedger {source ahead : PmwSource}
    {reads reads' : Reads} {req : RequestBody} {response : ResponseBody}
    (hbehind : source.Behind ahead) (hunique : ahead.repo.UniqueRows)
    (h : XRPVerifier.verify source reads req = .ok response)
    (hlogFault : reads'.instructionFault = none)
    (htxFault : reads'.transactionFault = none)
    (hnonce : reads'.initialNonce = reads.initialNonce) :
    XRPVerifier.verify ahead reads' req = .ok response := by
  obtain ⟨-, -, event, hassigned, tx, htx, hsettles⟩ := verify_eq_ok_iff.mp h
  rw [← hnonce] at hassigned
  refine verify_eq_ok_iff.mpr ⟨hlogFault, htxFault,
    event.onLedger hbehind hunique, hassigned, tx,
    hbehind.repo.transaction_of_unique hunique htx, ?_⟩
  rw [← hbehind.library]
  exact hsettles

/-- With reads which do not fail, the replica behind repeats the answer of the
replica ahead or finds a record missing. -/
theorem repeats_or_missing {source ahead : PmwSource}
    {reads reads' : Reads} {req : RequestBody} {response : ResponseBody}
    (hbehind : source.Behind ahead)
    (h : XRPVerifier.verify ahead reads req = .ok response)
    (hlogFault : reads'.instructionFault = none)
    (htxFault : reads'.transactionFault = none)
    (hnonce : reads'.initialNonce = reads.initialNonce) :
    XRPVerifier.verify source reads' req = .ok response ∨
      ∃ err, XRPVerifier.verify source reads' req = .error err ∧
        err.sentinels = [.recordNotFound] := by
  obtain ⟨-, -, event, hassigned, tx, htx, hsettles⟩ := verify_eq_ok_iff.mp h
  rw [← hnonce] at hassigned
  rcases hbehind.repo.instructionLogs_of_singleton event.onlyRow with
    hnoLog | hlog
  · right
    have hevent := event.eventHash_eq
    rw [← hbehind.parsedTeeInstructionsABI] at hevent
    exact verify_of_noLog (hbehind.payInstructionID.trans event.id_eq)
      hevent hlogFault hnoLog
  · let event' := event.onReplica hbehind hlog
    rcases hbehind.repo.transactionRows_of_singleton htx with hnoTx | hrow
    · right
      exact verify_of_noTransaction event' hassigned hlogFault htxFault hnoTx
    · left
      refine verify_eq_ok_iff.mpr ⟨hlogFault, htxFault, event', hassigned,
        tx, hrow, ?_⟩
      rw [hbehind.library]
      exact hsettles

/-- Two replicas of which one is behind.  With unique rows, what the one
behind verified the one ahead verifies as well, when its reads do not fail;
and the one behind never contradicts the answer of the one ahead, whatever
its reads do: with reads which do not fail it repeats the answer or finds a
record missing. -/
theorem status_on_replica (source ahead : PmwSource)
    (hbehind : source.Behind ahead) (reads reads' : Reads)
    (req : RequestBody) (response : ResponseBody) :
    (ahead.repo.UniqueRows →
      XRPVerifier.verify source reads req = .ok response →
      reads'.instructionFault = none → reads'.transactionFault = none →
      reads'.initialNonce = reads.initialNonce →
      XRPVerifier.verify ahead reads' req = .ok response) ∧
    (XRPVerifier.verify ahead reads req = .ok response →
      (∀ response', XRPVerifier.verify source reads' req = .ok response' →
        response' = response) ∧
      (reads'.instructionFault = none → reads'.transactionFault = none →
        reads'.initialNonce = reads.initialNonce →
        XRPVerifier.verify source reads' req = .ok response ∨
          ∃ err, XRPVerifier.verify source reads' req = .error err ∧
            err.sentinels = [.recordNotFound])) := by
  constructor
  · intro hunique h hlogFault htxFault hnonce
    exact verify_onLedger hbehind hunique h hlogFault htxFault hnonce
  · intro h
    constructor
    · intro response' h'
      exact response_onReplica hbehind h h'
    · intro hlogFault htxFault hnonce
      exact repeats_or_missing hbehind h hlogFault htxFault hnonce

end XRPVerifier

end PaymentStatus

namespace SmallLedger

/-- A replica without the second transaction and without the reissue. -/
def replica : PmwSource :=
  { source with
    repo := { source.repo with
      db := [tx1]
      cChainDb := (logs.take 2).map logRow } }

theorem replica_behind : replica.Behind source where
  library := rfl
  sourceIDEncoded := rfl
  parsedTeeInstructionsABI := rfl
  repo := {
    db := List.Sublist.subperm (List.Sublist.cons_cons tx1
      (List.nil_sublist [tx2]))
    cChainDb := by
      apply List.Sublist.subperm
      exact (List.take_sublist 2 logs).map logRow
    contractAddress := rfl
    convert := rfl }

theorem pairwise_topic2 : logs.Pairwise fun log other =>
    (logRow log).topic2 ≠ (logRow other).topic2 := by
  have hids : logs.Pairwise fun log other => log.id ≠ other.id := by decide
  refine hids.imp fun hne heq => hne ?_
  rw [logRow_topic2, logRow_topic2] at heq
  exact removeHexPrefix_hex_injective heq

theorem pairwise_sequence : txs.Pairwise fun tx other =>
    tx.sequence ≠ other.sequence := by
  decide

theorem uniqueRows : source.repo.UniqueRows :=
  .of_pairwise (List.pairwise_map.mpr pairwise_topic2) pairwise_sequence

theorem replica_instructionLogs {log : SampleLog}
    (h : ((logs.take 2).filter fun other => other.id = log.id) = [log]) :
    replica.repo.instructionLogs eventID.hex log.id = [logRow log] := by
  have hlogs : replica.repo.instructionLogs eventID.hex log.id =
      ((logs.take 2).filter fun other => other.id = log.id).map logRow :=
    DBRepo.instructionLogs_map (fun _ => rfl) logRow_topic0 logRow_topic1
      logRow_topic2 rfl log.id
  rw [hlogs, h, List.map_singleton]

theorem replica_payEvents {p : UInt64} (hp : p = 1 ∨ p = 2) :
    Nonempty (replica.PayEvent (textWord "F_XRP") "rSender" p) := by
  rcases hp with rfl | rfl
  · exact ⟨(payEvent payLog1).onReplica replica_behind
      (replica_instructionLogs (by decide))⟩
  · exact ⟨(payEvent payLog2).onReplica replica_behind
      (replica_instructionLogs (by decide))⟩

/-- The replica has indexed the first payment. -/
theorem replica_verifies :
    ∃ response, PaymentStatus.XRPVerifier.verify replica
      paymentReads (paymentRequest 1) =
        .ok response := by
  have hnonce : AssignedSequence 100 1 100 := ⟨by decide, by decide⟩
  refine ⟨_, PaymentStatus.XRPVerifier.verify_eq_ok_iff.mpr ⟨rfl, rfl,
    (payEvent payLog1).onReplica
      replica_behind (replica_instructionLogs (by decide)),
    ⟨100, rfl, hnonce⟩, tx1, rfl,
    rawOf tx1, ?_, ?_,
    builds_payment payRow1.hash⟩⟩
  · exact PaymentStatus.parseRawTransactionData_eq_ok_iff.mpr
      ⟨payRow1.size, payRow1.unmarshals, by decide⟩
  · refine checkRowConsistency_eq_ok_iff.mpr ⟨?_, rfl, rfl⟩
    simp [equalFold, rawOf]

end SmallLedger

/-- The replica has not indexed the transaction of the second payment, and
the one ahead verifies what it verifies of the first. -/
theorem PaymentStatus.status_on_replica_smallLedger :
    (∃ response, PaymentStatus.XRPVerifier.verify SmallLedger.source
      SmallLedger.paymentReads (SmallLedger.paymentRequest 1) =
        .ok response) ∧
    ∃ err, PaymentStatus.XRPVerifier.verify SmallLedger.replica
        SmallLedger.paymentReads (SmallLedger.paymentRequest 2) =
          .error err ∧ err.sentinels = [.recordNotFound] := by
  have hnever : ∀ response, PaymentStatus.XRPVerifier.verify
      SmallLedger.replica SmallLedger.paymentReads
      (SmallLedger.paymentRequest 2) ≠ .ok response := by
    intro response hresponse
    obtain ⟨event, -, ⟨attested⟩, -⟩ :=
      PaymentStatus.XRPVerifier.verify_attested hresponse
    have hmessage := (SmallLedger.payEvent
      SmallLedger.payLog2).message_eq_of_behind SmallLedger.replica_behind
      event
    obtain ⟨hdb, -, hsequence⟩ := attested.mem_transactionRows
    have htx : attested.tx = SmallLedger.tx1 := by
      simpa [SmallLedger.replica] using hdb
    rw [htx, hmessage] at hsequence
    exact absurd hsequence (by decide)
  have hreplicas := PaymentStatus.XRPVerifier.status_on_replica
    SmallLedger.replica SmallLedger.source SmallLedger.replica_behind
    SmallLedger.paymentReads SmallLedger.paymentReads
  constructor
  · obtain ⟨response, hresponse⟩ := SmallLedger.replica_verifies
    exact ⟨response, (hreplicas (SmallLedger.paymentRequest 1) response).1
      SmallLedger.uniqueRows hresponse rfl rfl rfl⟩
  · rcases ((hreplicas (SmallLedger.paymentRequest 2) _).2
      SmallLedger.verify_payment2).2 rfl rfl rfl with hok | hmissing
    · exact absurd hok (hnever _)
    · exact hmissing

/-! ## Fee proofs -/

namespace FeeProof

/-- No read of a run fails. -/
structure Reads.Faultless (reads : Reads) : Prop where
  payEvents : reads.payEventsFault = none
  reissues : ∀ paymentId reissueNum,
    reads.reissueFault paymentId reissueNum = none
  transactions : reads.transactionsFault = none

namespace XRPVerifier

variable {x ahead : XRPVerifier} {reads reads' : Reads} {req : RequestBody}
  {eventHash : String} {paymentId : UInt64}

theorem reissueInstructionID_behind
    (h : x.toPmwSource.Behind ahead.toPmwSource) (reissueNum : UInt64) :
    x.reissueInstructionID req paymentId reissueNum =
      ahead.reissueInstructionID req paymentId reissueNum := by
  unfold reissueInstructionID
  rw [h.library, h.sourceIDEncoded]

/-- Where the replica ahead has fetched a reissue or none, the replica
fetches the same or none. -/
theorem fetchReissue_behind (h : x.toPmwSource.Behind ahead.toPmwSource)
    {cannotFetch : String} {reissueNum : UInt64} {found : Option ChainLog}
    (hahead : ahead.fetchReissue reads req eventHash paymentId cannotFetch
      reissueNum = .ok found)
    (hfault : reads'.reissueFault paymentId reissueNum = none) :
    x.fetchReissue reads' req eventHash paymentId cannotFetch reissueNum =
        .ok none ∨
      x.fetchReissue reads' req eventHash paymentId cannotFetch reissueNum =
        .ok found := by
  cases found with
  | none =>
      left
      obtain ⟨-, id, hid, hrows⟩ := fetchReissue_eq_none_iff.mp hahead
      rw [← reissueInstructionID_behind h] at hid
      refine fetchReissue_eq_none_iff.mpr ⟨hfault, id, hid, ?_⟩
      rcases hrows with hnil | ⟨row, log, hrow, hconverts, htime⟩
      · have hrows : (x.repo.instructionLogs eventHash id).Subperm
            (ahead.repo.instructionLogs eventHash id) :=
          h.repo.instructionLogs
        rw [hnil, List.subperm_nil] at hrows
        exact .inl hrows
      · rcases h.repo.instructionLogs_of_singleton hrow with hnil | hsame
        · exact .inl hnil
        · rw [← h.repo.convert] at hconverts
          exact .inr ⟨row, log, hsame, hconverts, htime⟩
  | some log =>
      obtain ⟨-, id, hid, row, hrow, hconverts, htime⟩ :=
        fetchReissue_eq_some_iff.mp hahead
      rw [← reissueInstructionID_behind h] at hid
      rcases h.repo.instructionLogs_of_singleton hrow with hnil | hsame
      · left
        exact fetchReissue_eq_none_iff.mpr ⟨hfault, id, hid, .inl hnil⟩
      · right
        rw [← h.repo.convert] at hconverts
        exact fetchReissue_eq_some_iff.mpr
          ⟨hfault, id, hid, row, hsame, hconverts, htime⟩

theorem CountsFor.behind (h : x.toPmwSource.Behind ahead.toPmwSource)
    {log : ChainLog} {maxFee : Int}
    (hcounts : ahead.CountsFor req paymentId log maxFee) :
    x.CountsFor req paymentId log maxFee := by
  obtain ⟨message, hdecodes, hconsistent, hfee⟩ := hcounts.decodes
  rw [← h.parsedTeeInstructionsABI] at hdecodes
  rw [← h.sourceIDEncoded] at hconsistent
  exact ⟨⟨message, hdecodes, hconsistent, hfee⟩, hcounts.nonneg,
    hcounts.le_supply⟩

theorem reissueMaxFee_behind (h : x.toPmwSource.Behind ahead.toPmwSource)
    {reissueNum : UInt64} {fee : Option Int}
    (hahead : ahead.reissueMaxFee reads req eventHash paymentId reissueNum =
      .ok fee)
    (hfault : reads'.reissueFault paymentId reissueNum = none) :
    x.reissueMaxFee reads' req eventHash paymentId reissueNum = .ok none ∨
      x.reissueMaxFee reads' req eventHash paymentId reissueNum =
        .ok fee := by
  cases fee with
  | none =>
      rw [reissueMaxFee_eq_none_iff ""] at hahead ⊢
      exact .inl ((or_self_iff).mp (fetchReissue_behind h hahead hfault))
  | some maxFee =>
      obtain ⟨log, hlog, hcounts⟩ :=
        (reissueMaxFee_eq_some_iff "").mp hahead
      rcases fetchReissue_behind h hlog hfault with hnone | hsome
      · exact .inl ((reissueMaxFee_eq_none_iff "").mpr hnone)
      · exact .inr ((reissueMaxFee_eq_some_iff "").mpr
          ⟨log, hsome, hcounts.behind h⟩)

/-- The scan on the replica counts a prefix, and it reaches the cap only if
the scan ahead does. -/
theorem scanReissues_behind (h : x.toPmwSource.Behind ahead.toPmwSource)
    (hfault : ∀ reissueNum, reads'.reissueFault paymentId reissueNum = none)
    {remaining : ℕ} {reissueNum : UInt64} {fees : List Int} {early : Bool}
    (hahead : ahead.scanReissues reads req eventHash paymentId remaining
      reissueNum = .ok (fees, early)) :
    ∃ fees' early', x.scanReissues reads' req eventHash paymentId remaining
        reissueNum = .ok (fees', early') ∧
      fees' <+: fees ∧ (early' = false → early = false) := by
  induction remaining generalizing reissueNum fees with
  | zero =>
      simp only [scanReissues, Except.ok.injEq, Prod.mk.injEq] at hahead
      obtain ⟨rfl, rfl⟩ := hahead
      exact ⟨[], false, rfl, List.prefix_rfl, fun _ => rfl⟩
  | succ remaining ih =>
      unfold scanReissues at hahead
      obtain ⟨fee, hfee, hahead⟩ := bind_eq_ok.mp hahead
      have hstops (hnone : x.reissueMaxFee reads' req eventHash paymentId
          reissueNum = .ok none) :
          x.scanReissues reads' req eventHash paymentId (remaining + 1)
            reissueNum = .ok ([], true) :=
        bind_eq_ok.mpr ⟨none, hnone, rfl⟩
      rcases reissueMaxFee_behind h hfee (hfault _) with hnone | hsame
      · exact ⟨[], true, hstops hnone, List.nil_prefix, by simp⟩
      · cases fee with
        | none => exact ⟨[], true, hstops hsame, List.nil_prefix, by simp⟩
        | some maxFee =>
            obtain ⟨⟨rest, restEarly⟩, hrest, hahead⟩ :=
              bind_eq_ok.mp hahead
            simp only [Except.ok.injEq, Prod.mk.injEq] at hahead
            obtain ⟨rfl, rfl⟩ := hahead
            obtain ⟨rest', early', hrest', hprefix, hearly⟩ := ih hrest
            refine ⟨maxFee :: rest', early', ?_, ?_, hearly⟩
            · refine bind_eq_ok.mpr ⟨some maxFee, hsame, ?_⟩
              exact bind_eq_ok.mpr ⟨(rest', early'), hrest', rfl⟩
            · exact (List.prefix_cons_inj maxFee).mpr hprefix

theorem countReissues_behind (h : x.toPmwSource.Behind ahead.toPmwSource)
    (hfault : ∀ reissueNum, reads'.reissueFault paymentId reissueNum = none)
    {fees : List Int}
    (hahead : ahead.countReissues reads req eventHash paymentId =
      .ok fees) :
    ∃ fees', x.countReissues reads' req eventHash paymentId = .ok fees' ∧
      fees' <+: fees := by
  obtain ⟨⟨scanned, early⟩, hscan, hahead⟩ := bind_eq_ok.mp hahead
  obtain ⟨fees', early', hscan', hprefix, hearly⟩ :=
    scanReissues_behind h hfault hscan
  have hscanned : scanned = fees := by
    cases early with
    | true => simpa using hahead
    | false =>
        obtain ⟨_, -, hfees⟩ := bind_eq_ok.mp hahead
        simpa using hfees
  rw [hscanned] at hprefix
  refine ⟨fees', bind_eq_ok.mpr ⟨(fees', early'), hscan', ?_⟩, hprefix⟩
  cases early' with
  | true => rfl
  | false =>
      rw [hearly rfl] at hahead
      obtain ⟨_, hprobe, -⟩ := bind_eq_ok.mp hahead
      obtain ⟨next, hnext, hnone⟩ := bind_eq_ok.mp hprobe
      rw [ensure_eq_ok.mp hnone] at hnext
      have hnext' := or_self_iff.mp
        (fetchReissue_behind h hnext (hfault (maxReissuesPerPayment + 1)))
      refine bind_eq_ok.mpr ⟨(), ?_, rfl⟩
      exact bind_eq_ok.mpr ⟨none, hnext', ensure_eq_ok.mpr rfl⟩

/-! A fault can stop a run, but not change its answer. -/

theorem fetchReissue_of_ok {cannotFetch : String} {reissueNum : UInt64}
    {found : Option ChainLog} (hfaultless : reads'.Faultless)
    (h : x.fetchReissue reads req eventHash paymentId cannotFetch
      reissueNum = .ok found) :
    x.fetchReissue reads' req eventHash paymentId cannotFetch reissueNum =
      .ok found := by
  cases found with
  | none =>
      obtain ⟨-, hnone⟩ := fetchReissue_eq_none_iff.mp h
      exact fetchReissue_eq_none_iff.mpr ⟨hfaultless.reissues _ _, hnone⟩
  | some log =>
      obtain ⟨-, hsome⟩ := fetchReissue_eq_some_iff.mp h
      exact fetchReissue_eq_some_iff.mpr ⟨hfaultless.reissues _ _, hsome⟩

theorem reissueMaxFee_of_ok {reissueNum : UInt64} {fee : Option Int}
    (hfaultless : reads'.Faultless)
    (h : x.reissueMaxFee reads req eventHash paymentId reissueNum =
      .ok fee) :
    x.reissueMaxFee reads' req eventHash paymentId reissueNum = .ok fee := by
  obtain ⟨found, hfound, h⟩ := bind_eq_ok.mp h
  exact bind_eq_ok.mpr ⟨found, fetchReissue_of_ok hfaultless hfound, h⟩

theorem scanReissues_of_ok (hfaultless : reads'.Faultless) {remaining : ℕ}
    {reissueNum : UInt64} {result : List Int × Bool}
    (h : x.scanReissues reads req eventHash paymentId remaining reissueNum =
      .ok result) :
    x.scanReissues reads' req eventHash paymentId remaining reissueNum =
      .ok result := by
  induction remaining generalizing reissueNum result with
  | zero => exact h
  | succ remaining ih =>
      unfold scanReissues at h
      obtain ⟨fee, hfee, h⟩ := bind_eq_ok.mp h
      refine bind_eq_ok.mpr ⟨fee, reissueMaxFee_of_ok hfaultless hfee, ?_⟩
      cases fee with
      | none => exact h
      | some maxFee =>
          obtain ⟨rest, hrest, h⟩ := bind_eq_ok.mp h
          exact bind_eq_ok.mpr ⟨rest, ih hrest, h⟩

theorem countReissues_of_ok (hfaultless : reads'.Faultless)
    {fees : List Int}
    (h : x.countReissues reads req eventHash paymentId = .ok fees) :
    x.countReissues reads' req eventHash paymentId = .ok fees := by
  obtain ⟨⟨scanned, early⟩, hscan, h⟩ := bind_eq_ok.mp h
  refine bind_eq_ok.mpr
    ⟨(scanned, early), scanReissues_of_ok hfaultless hscan, ?_⟩
  cases early with
  | true => exact h
  | false =>
      obtain ⟨_, hprobe, h⟩ := bind_eq_ok.mp h
      obtain ⟨next, hnext, hnone⟩ := bind_eq_ok.mp hprobe
      exact bind_eq_ok.mpr ⟨(), bind_eq_ok.mpr
        ⟨next, fetchReissue_of_ok hfaultless hnext, hnone⟩, h⟩

/-! ## The payments of a batch on a replica -/

theorem Estimates.behind (h : x.toPmwSource.Behind ahead.toPmwSource)
    {event : ahead.PayEvent req.opType req.senderAddress paymentId}
    {event' : x.PayEvent req.opType req.senderAddress paymentId}
    {estimate estimate' : PaymentEstimate}
    (hahead : ahead.Estimates reads req paymentId estimate event)
    (hbehind : x.Estimates reads' req paymentId estimate' event') :
    LowerEstimate estimate' estimate := by
  have hmessage := event.message_eq_of_behind h event'
  have hsame := event.eventHash_eq_of_behind h event'
  obtain ⟨maxFee, fees, hmaxFee, hnonneg, -, hfees, hestimate⟩ :=
    hahead.estimate_eq
  obtain ⟨maxFee', fees', hmaxFee', -, -, hfees', hestimate'⟩ :=
    hbehind.estimate_eq
  obtain rfl : maxFee = maxFee' := by
    rw [hmessage, hmaxFee] at hmaxFee'
    simpa using hmaxFee'
  have hfaultless : (Reads.faultless 0).Faultless :=
    ⟨rfl, fun _ _ => rfl, rfl⟩
  obtain ⟨counted, hcounted, hprefix⟩ := countReissues_behind h
    (fun _ => hfaultless.reissues _ _) hfees
  have hcounted' := countReissues_of_ok hfaultless hfees'
  rw [hsame, hcounted] at hcounted'
  obtain rfl : counted = fees' := by simpa using hcounted'
  have hle : residuals maxFee counted ≤ residuals maxFee fees :=
    residuals_le_of_prefix hprefix
  have hresiduals := residuals_nonneg maxFee counted
  refine ⟨?_, ?_, ?_, ?_⟩
  · rw [hbehind.paymentId_eq, hahead.paymentId_eq]
  · rw [hbehind.sequence_eq, hahead.sequence_eq, hmessage]
  · omega
  · omega

theorem Pays.behind (h : x.toPmwSource.Behind ahead.toPmwSource)
    {sequence : UInt64} {row row' : FeeRow}
    (hahead : ahead.Pays req sequence row)
    (hbehind : x.Pays req sequence row') : row' = row := by
  have htx : row'.tx = row.tx := by
    rcases h.repo.transactionRows_of_singleton hahead.onlyRow with
      hnil | hsame
    · have honly := hbehind.onlyRow
      simp [hnil] at honly
    · simpa using hbehind.onlyRow.symm.trans hsame
  have hfee : row'.fee = row.fee := by
    have hparsed := hbehind.fee
    rw [h.library, htx, hahead.fee] at hparsed
    simpa using hparsed.symm
  obtain ⟨tx, fee⟩ := row
  obtain ⟨tx', fee'⟩ := row'
  rw [FeeRow.mk.injEq]
  exact ⟨htx, hfee⟩

theorem evaluate_behind
    (hkeep : KeepsInstructionTopic ahead.repo.convertDatabaseLogToChainLog)
    (h : x.toPmwSource.Behind ahead.toPmwSource)
    {evaluation evaluation' : Evaluation}
    (hahead : ahead.evaluate reads req = .ok evaluation)
    (hbehind : x.evaluate reads' req = .ok evaluation') :
    evaluation'.rows = evaluation.rows ∧
      evaluation'.estimatedFee ≤ evaluation.estimatedFee := by
  have hkeep' := hkeep
  rw [← h.repo.convert] at hkeep'
  obtain ⟨-, -, -, hestimates, hrows⟩ := settled_of_evaluate hkeep hahead
  obtain ⟨-, -, -, hestimates', hrows'⟩ := settled_of_evaluate hkeep' hbehind
  have hlower : List.Forall₂ LowerEstimate evaluation'.payments
      evaluation.payments := by
    refine forall₂_of_common hestimates' hestimates ?_
    rintro p - estimate' estimate ⟨event', hestimate'⟩ ⟨event, hestimate⟩
    exact hestimate.behind h hestimate'
  constructor
  · have hpaired := forall₂_comp hlower hrows
    have hsame : List.Forall₂ Eq evaluation'.rows evaluation.rows := by
      refine forall₂_of_common hrows' hpaired ?_
      rintro estimate' - row' row hpays' ⟨estimate, hle, hpays⟩
      rw [hle.sequence_eq] at hpays'
      exact hpays.behind h hpays'
    exact List.forall₂_eq_eq_eq ▸ hsame
  · apply List.Forall₂.sum_le_sum
    rw [List.forall₂_map_left_iff, List.forall₂_map_right_iff]
    exact hlower.imp fun _ _ hle => hle.le

/-- What a batch on a replica can be refused for. -/
def MissingRow (x : XRPVerifier) (req : RequestBody) (err : GoError) : Prop :=
  (err.sentinels = [.missingPayEvent] ∧ ∃ p ∈ req.paymentIDs,
    IsEmpty (x.PayEvent req.opType req.senderAddress p)) ∨
  (err.sentinels = [.missingTransaction] ∧ ∃ p ∈ req.paymentIDs,
    ∃ event : x.PayEvent req.opType req.senderAddress p,
      x.repo.transactionRows req.senderAddress event.message.nonce = [])

theorem estimatePayment_behind_fails
    (hkeep : KeepsInstructionTopic x.repo.convertDatabaseLogToChainLog)
    (h : x.toPmwSource.Behind ahead.toPmwSource)
    (hfaultless : reads'.Faultless)
    (hnonce : reads'.initialNonce paymentId = reads.initialNonce paymentId)
    {event : ahead.PayEvent req.opType req.senderAddress paymentId}
    {estimate : PaymentEstimate}
    (hahead : ahead.Estimates reads req paymentId estimate event)
    {ids : List Hash} {payLogs : AList fun _ : Hash => ChainLog}
    (hpayLogs : x.repo.fetchInstructionLogs reads'.payEventsFault
      event.eventHash ids = .ok payLogs)
    (hmem : event.id ∈ ids) (hp : paymentId ∈ req.paymentIDs) :
    FailsWith (MissingRow x req) (x.estimatePayment reads' req
      event.eventHash payLogs paymentId event.id) := by
  cases hlookup : payLogs.lookup event.id with
  | none =>
      unfold estimatePayment
      rw [hlookup]
      refine FailsWith.error (.inl ⟨by simp [errMissingPayEvent],
        paymentId, hp, ⟨fun found => ?_⟩⟩)
      -- an event of the payment would be the one which was looked up
      have honly := found.onlyRow
      rw [event.id_eq_of_behind h found, event.eventHash_eq_of_behind h found]
        at honly
      have hfound := (DBRepo.lookup_fetchInstructionLogs hkeep hpayLogs hmem
        found.log).mpr ⟨found.row, honly, found.converts⟩
      simp [hlookup] at hfound
  | some log =>
      obtain ⟨row, honly, -⟩ :=
        (DBRepo.lookup_fetchInstructionLogs hkeep hpayLogs hmem log).mp
          hlookup
      have hrow : x.repo.instructionLogs event.eventHash event.id =
          [event.row] := by
        rcases h.repo.instructionLogs_of_singleton event.onlyRow with
          hnil | hsame
        · simp [hnil] at honly
        · exact hsame
      obtain ⟨maxFee, fees, hmaxFee, hnonneg, hbound, hfees, -⟩ :=
        hahead.estimate_eq
      obtain ⟨fees', hfees', -⟩ := countReissues_behind h
        (fun _ => hfaultless.reissues _ _) hfees
      have hassigned := hahead.assigned
      rw [← hnonce, hahead.sequence_eq] at hassigned
      let event' := event.onReplica h hrow
      have hestimates : x.Estimates reads' req paymentId
          ⟨paymentId, event.message.nonce,
            maxFee + residuals maxFee fees'⟩ event' :=
        ⟨rfl, rfl, hassigned, maxFee, fees', hmaxFee, hnonneg, hbound,
          hfees', rfl⟩
      have hpayLogs' : x.repo.fetchInstructionLogs reads'.payEventsFault
          event'.eventHash ids = .ok payLogs := hpayLogs
      have hmem' : event'.id ∈ ids := hmem
      have hok :=
        estimatePayment_of_estimates hkeep hpayLogs' hmem' hestimates
      simp only [event', PmwSource.PayEvent.onReplica] at hok
      rw [hok]
      exact FailsWith.ok _

theorem paymentFeeRow_behind_fails
    (h : x.toPmwSource.Behind ahead.toPmwSource)
    {sequences : List UInt64} {sequence : UInt64}
    {txMap : AList fun _ : UInt64 => DBTransaction}
    (htxMap : x.repo.fetchTransactionsBySourceAndSequences
      reads'.transactionsFault req.senderAddress sequences = .ok txMap)
    (hmem : sequence ∈ sequences) {row : FeeRow}
    (hahead : ahead.Pays req sequence row) {p : UInt64}
    (hp : p ∈ req.paymentIDs)
    {event : x.PayEvent req.opType req.senderAddress p}
    (hsequence : event.message.nonce = sequence) :
    FailsWith (MissingRow x req)
      (paymentFeeRow x.library txMap paymentId sequence) := by
  cases hlookup : txMap.lookup sequence with
  | none =>
      unfold paymentFeeRow
      rw [hlookup]
      refine FailsWith.error (.inr ⟨by simp [errMissingTransaction], p, hp,
        event, ?_⟩)
      rw [hsequence]
      rcases h.repo.transactionRows_of_singleton hahead.onlyRow with
        hnil | hsame
      · exact hnil
      · have hfound :=
          (DBRepo.lookup_fetchTransactions htxMap hmem row.tx).mpr hsame
        simp [hlookup] at hfound
  | some tx =>
      have honly :=
        (DBRepo.lookup_fetchTransactions htxMap hmem tx).mp hlookup
      have htx : x.repo.transactionRows req.senderAddress sequence =
          [row.tx] := by
        rcases h.repo.transactionRows_of_singleton hahead.onlyRow with
          hnil | hsame
        · simp [hnil] at honly
        · exact hsame
      have hpays : x.Pays req sequence row := by
        refine ⟨htx, ?_, ?_⟩
        · rw [h.library]
          exact hahead.consistent
        · rw [h.library]
          exact hahead.fee
      rw [(paymentFeeRow_eq_ok_iff_pays htxMap hmem).mpr hpays]
      exact FailsWith.ok _

theorem fetchInstructionLogs_behind
    (hkeep : KeepsInstructionTopic x.repo.convertDatabaseLogToChainLog)
    (h : x.toPmwSource.Behind ahead.toPmwSource)
    {payments : List (UInt64 × Hash)}
    (hevent : teeInstructionsSentEventSignature
      ahead.parsedTeeInstructionsABI = .ok eventHash)
    (hpayments : x.HasPayIDs req payments)
    (hevents : ∀ p ∈ req.paymentIDs,
      Nonempty (ahead.PayEvent req.opType req.senderAddress p)) :
    ∃ payLogs, x.repo.fetchInstructionLogs none eventHash
      (payments.map Prod.snd) = .ok payLogs := by
  rw [DBRepo.fetchInstructionLogs_succeeds_iff hkeep]
  intro id hid
  obtain ⟨payment, hmem, rfl⟩ := List.mem_map.mp hid
  obtain ⟨p, hp, rfl, hpid⟩ := forall₂_exists_left hpayments hmem
  obtain ⟨event⟩ := hevents payment.1 hp
  have hown : event.id = payment.2 :=
    event.id_unique (h.payInstructionID.symm.trans hpid)
  have hsame : event.eventHash = eventHash := event.eventHash_unique hevent
  have honly := event.onlyRow
  rw [hown, hsame] at honly
  rcases h.repo.instructionLogs_of_singleton honly with hnil | hrow
  · exact .inl hnil
  · refine .inr ⟨event.row, event.log, hrow, ?_⟩
    rw [h.repo.convert]
    exact event.converts

/-- The rows which a batch asks for were unique ahead, so that the replica
finds them unique or missing. -/
theorem evaluate_behind_fails
    (hkeep : KeepsInstructionTopic ahead.repo.convertDatabaseLogToChainLog)
    (h : x.toPmwSource.Behind ahead.toPmwSource)
    (hfaultless : reads'.Faultless)
    (hnonce : ∀ p, reads'.initialNonce p = reads.initialNonce p)
    (hrange : x.validateBatchRange req = .ok ()) {evaluation : Evaluation}
    (hahead : ahead.evaluate reads req = .ok evaluation) :
    FailsWith (MissingRow x req) (x.evaluate reads' req) := by
  have hkeep' := hkeep
  rw [← h.repo.convert] at hkeep'
  obtain ⟨-, -, -, hestimates, hrows⟩ := settled_of_evaluate hkeep hahead
  unfold evaluate
  rw [hrange]
  refine FailsWith.bind (.ok _) fun _ _ => ?_
  refine FailsWith.bind ?_ fun eventHash hevent => ?_
  · obtain ⟨p, hp⟩ :=
      List.exists_mem_of_ne_nil _ (paymentIDs_ne_nil hrange)
    obtain ⟨-, -, event, -⟩ := forall₂_exists_right hestimates hp
    rw [h.parsedTeeInstructionsABI, event.eventHash_eq]
    exact FailsWith.ok _
  refine FailsWith.bind ?_ fun payments hpayments => ?_
  · refine FailsWith.mapM fun p _ => FailsWith.bind ?_ fun _ _ => .ok _
    exact .mapError_of_total (x.payInstructionID_total _ _ _)
  have hids : x.HasPayIDs req payments := by
    unfold HasPayIDs
    simpa only [PmwSource.generatePayInstructionID_eq, mapM_eq_ok_iff,
      bind_eq_ok, mapError_eq_ok, Except.ok.injEq, exists_payID_iff]
      using hpayments
  have hevent' := hevent
  rw [h.parsedTeeInstructionsABI] at hevent'
  refine FailsWith.bind ?_ fun payLogs hpayLogs => ?_
  · rw [hfaultless.payEvents]
    refine .mapError_of_total (fetchInstructionLogs_behind hkeep' h hevent'
      hids fun p hp => ?_)
    obtain ⟨-, -, event, -⟩ := forall₂_exists_right hestimates hp
    exact ⟨event⟩
  rw [mapError_eq_ok] at hpayLogs
  refine FailsWith.bind ?_ fun estimates' hestimates' => ?_
  · refine FailsWith.mapM fun payment hmem => ?_
    obtain ⟨p, hp, rfl, hpid⟩ := forall₂_exists_left hids hmem
    obtain ⟨estimate, -, event, hestimate⟩ :=
      forall₂_exists_right hestimates hp
    have hown : event.id = payment.2 :=
      event.id_unique (h.payInstructionID.symm.trans hpid)
    obtain rfl : event.eventHash = eventHash :=
      event.eventHash_unique hevent'
    have hlisted : event.id ∈ payments.map Prod.snd :=
      hown ▸ List.mem_map_of_mem hmem
    rw [← hown]
    exact estimatePayment_behind_fails hkeep' h hfaultless (hnonce _)
      hestimate hpayLogs hlisted hp
  have hsettled : List.Forall₂ (fun paymentId estimate' => ∃ event',
      x.Estimates reads' req paymentId estimate' event')
      req.paymentIDs estimates' := by
    have hcomputed := forall₂_mem_left (mapM_eq_ok_iff.mp hestimates')
    apply List.Forall₂.imp _ (forall₂_comp hids hcomputed)
    rintro p estimate' ⟨payment, ⟨rfl, hpid⟩, hmem, hestimate'⟩
    exact estimates_of_estimatePayment hkeep' hevent hpayLogs
      (List.mem_map_of_mem hmem) hpid hestimate'
  have hlower :
      List.Forall₂ LowerEstimate estimates' evaluation.payments := by
    refine forall₂_of_common hsettled hestimates ?_
    rintro p - estimate' estimate ⟨event', hestimate'⟩ ⟨event, hestimate⟩
    exact hestimate.behind h hestimate'
  have hpaired := forall₂_comp hlower hrows
  refine FailsWith.bind ?_ fun rows _ => .ok _
  refine FailsWith.bind ?_ fun txMap htxMap => ?_
  · rw [hfaultless.transactions]
    refine .mapError_of_total ?_
    rw [DBRepo.fetchTransactions_succeeds_iff]
    intro sequence hsequence
    obtain ⟨estimate', hmem, rfl⟩ := List.mem_map.mp hsequence
    obtain ⟨row, -, estimate, hle, hpays⟩ := forall₂_exists_right hpaired hmem
    rw [hle.sequence_eq]
    rcases h.repo.transactionRows_of_singleton hpays.onlyRow with
      hnil | hrow
    · simp [hnil]
    · simp [hrow]
  · rw [mapError_eq_ok] at htxMap
    refine FailsWith.mapM fun estimate' hmem => ?_
    obtain ⟨row, -, estimate, hle, hpays⟩ := forall₂_exists_right hpaired hmem
    rw [← hle.sequence_eq] at hpays
    obtain ⟨p, hp, event', hestimate'⟩ := forall₂_exists_left hsettled hmem
    exact paymentFeeRow_behind_fails h htxMap (List.mem_map_of_mem hmem)
      hpays hp hestimate'.sequence_eq.symm

end XRPVerifier

/-- A batch which is proved on the replica ahead is never contradicted on a
replica which is behind, whatever its reads do: the actual fees agree, and
fewer reissues are counted.  With reads which do not fail it can only be
refused for a pay event or a transaction which the replica has not indexed. -/
theorem fees_on_replica (source ahead : PmwSource)
    (hbehind : source.Behind ahead)
    (hkeep : KeepsInstructionTopic ahead.repo.convertDatabaseLogToChainLog)
    (reads reads' : Reads) (req : RequestBody) (response : ResponseBody)
    (h : (newXRPVerifier ahead).verify reads req = .ok response) :
    (∀ response', (newXRPVerifier source).verify reads' req =
        .ok response' →
      response'.lastPaymentId = response.lastPaymentId ∧
      response'.actualFee = response.actualFee ∧
      response'.estimatedFee ≤ response.estimatedFee) ∧
    (reads'.Faultless →
      (∀ p, reads'.initialNonce p = reads.initialNonce p) →
      ∀ err, (newXRPVerifier source).verify reads' req = .error err →
        (err.sentinels = [.missingPayEvent] ∧ ∃ p ∈ req.paymentIDs,
          IsEmpty (source.PayEvent req.opType req.senderAddress p)) ∨
        (err.sentinels = [.missingTransaction] ∧ ∃ p ∈ req.paymentIDs,
          ∃ event : source.PayEvent req.opType req.senderAddress p,
            source.repo.transactionRows req.senderAddress
              event.message.nonce = [])) := by
  obtain ⟨evaluation, hevaluation, rfl⟩ :=
    XRPVerifier.verify_eq_ok_iff.mp h
  constructor
  · intro response' h'
    obtain ⟨evaluation', hevaluation', rfl⟩ :=
      XRPVerifier.verify_eq_ok_iff.mp h'
    obtain ⟨hrows, hle⟩ := XRPVerifier.evaluate_behind hkeep hbehind
      hevaluation hevaluation'
    refine ⟨rfl, ?_, hle⟩
    simp only [Evaluation.actualFee, hrows]
  · intro hfaultless hnonce err herr
    have hvalid := (XRPVerifier.evaluate_eq_ok_iff_stages.mp hevaluation).1
    have hrange : (newXRPVerifier source).validateBatchRange req = .ok () :=
      XRPVerifier.validateBatchRange_eq_ok_iff.mpr
        (XRPVerifier.validateBatchRange_eq_ok_iff.mp hvalid)
    exact XRPVerifier.evaluate_behind_fails hkeep hbehind hfaultless hnonce
      hrange hevaluation err (XRPVerifier.verify_eq_error_iff.mp herr)

end FeeProof

/-- The replica has no transaction of the second payment. -/
theorem SmallLedger.replica_refuses :
    ∃ err, (FeeProof.newXRPVerifier replica).verify feeReads
      (feeRequest 1 2) = .error err := by
  rcases exists_ok_or_error ((FeeProof.newXRPVerifier replica).verify
    feeReads (feeRequest 1 2)) with ⟨response, hok⟩ | herror
  · obtain ⟨evaluation, hevaluation, -⟩ :=
      FeeProof.XRPVerifier.verify_eq_ok_iff.mp hok
    obtain ⟨-, -, -, hestimates, hrows⟩ :=
      FeeProof.XRPVerifier.settled_of_evaluate keepsInstructionTopic
        hevaluation
    have hsecond : 2 ∈ (feeRequest 1 2).paymentIDs := by decide
    obtain ⟨estimate, hmem, event, hestimate⟩ :=
      forall₂_exists_right hestimates hsecond
    obtain ⟨row, -, hpays⟩ := forall₂_exists_right hrows hmem
    have honly := hpays.onlyRow
    rw [hestimate.sequence_eq,
      (payEvent payLog2).message_eq_of_behind replica_behind event] at honly
    cases honly
  · exact herror

/-- The replica has the pay events of a batch, but not its second
transaction. -/
theorem fees_on_replica_smallLedger :
    ∃ err, (FeeProof.newXRPVerifier SmallLedger.replica).verify
        SmallLedger.feeReads (SmallLedger.feeRequest 1 2) = .error err ∧
      err.sentinels = [.missingTransaction] := by
  have hahead : (FeeProof.newXRPVerifier SmallLedger.source).verify
      SmallLedger.feeReads (SmallLedger.feeRequest 1 2) = .ok ⟨2, 24, 45⟩ :=
    FeeProof.XRPVerifier.verify_eq_ok_iff.mpr
      ⟨_, SmallLedger.evaluate_batch, rfl⟩
  obtain ⟨-, hfails⟩ := FeeProof.fees_on_replica SmallLedger.replica
    SmallLedger.source SmallLedger.replica_behind
    SmallLedger.keepsInstructionTopic SmallLedger.feeReads
    SmallLedger.feeReads (SmallLedger.feeRequest 1 2) ⟨2, 24, 45⟩ hahead
  obtain ⟨err, herr⟩ := SmallLedger.replica_refuses
  refine ⟨err, herr, ?_⟩
  rcases hfails ⟨rfl, fun _ _ => rfl, rfl⟩ (fun _ => rfl) err herr with
    ⟨-, p, hp, hmissing⟩ | ⟨hsentinels, -⟩
  · obtain ⟨event⟩ := SmallLedger.replica_payEvents
      (SmallLedger.mem_paymentIDs hp)
    exact hmissing.elim event
  · exact hsentinels

/-! ## Two replicas of one ledger -/

/-- The replica has indexed every log up to the timestamp. -/
def DBRepo.IndexedUpTo (repo ledger : DBRepo) (timestamp : UInt64) : Prop :=
  ∀ row ∈ ledger.cChainDb, row.timestamp ≤ timestamp → row ∈ repo.cChainDb

namespace FeeProof

namespace XRPVerifier

variable {x y ledger : XRPVerifier} {reads reads' : Reads}
  {req : RequestBody} {eventHash : String} {paymentId : UInt64}

/-- Two replicas which have passed the window fetch the same reissues. -/
theorem fetchReissue_indexed
    (hx : x.toPmwSource.Behind ledger.toPmwSource)
    (hy : y.toPmwSource.Behind ledger.toPmwSource)
    (hunique : ledger.repo.UniqueRows)
    (hindexed : y.repo.IndexedUpTo ledger.repo req.untilTimestamp)
    {cannotFetch : String} {reissueNum : UInt64} {log : ChainLog}
    {found : Option ChainLog}
    (hsome : x.fetchReissue reads req eventHash paymentId cannotFetch
      reissueNum = .ok (some log))
    (hfound : y.fetchReissue reads' req eventHash paymentId cannotFetch
      reissueNum = .ok found) :
    found = some log := by
  obtain ⟨-, id, hid, row, hrow, hconverts, htime⟩ :=
    fetchReissue_eq_some_iff.mp hsome
  have hledger : ledger.repo.instructionLogs eventHash id = [row] := by
    apply hx.repo.singleton_of_unique hunique
    simp [hrow]
  have hmem : row ∈ ledger.repo.instructionLogs eventHash id := by
    simp [hledger]
  have hy_row : y.repo.instructionLogs eventHash id = [row] := by
    rcases hy.repo.instructionLogs_of_singleton hledger with hnil | hsame
    · have hindexed_row := hindexed row (List.mem_of_mem_filter hmem) htime
      have hmatches := (List.mem_filter.mp hmem).2
      have hmem' : row ∈ y.repo.instructionLogs eventHash id := by
        apply List.mem_filter.mpr
        refine ⟨hindexed_row, ?_⟩
        simpa only [DBRepo.matchesEvent, hy.repo.contractAddress] using
          hmatches
      simp [hnil] at hmem'
    · exact hsame
  have hid' := hid
  rw [reissueInstructionID_behind hx, ← reissueInstructionID_behind hy]
    at hid'
  rw [hx.repo.convert, ← hy.repo.convert] at hconverts
  have hsame : y.fetchReissue (Reads.faultless 0) req eventHash paymentId
      cannotFetch reissueNum = .ok (some log) :=
    fetchReissue_eq_some_iff.mpr
      ⟨rfl, id, hid', row, hy_row, hconverts, htime⟩
  have hfaultless : (Reads.faultless 0).Faultless :=
    ⟨rfl, fun _ _ => rfl, rfl⟩
  have hown := fetchReissue_of_ok hfaultless hfound
  rw [hsame] at hown
  simpa using hown.symm

/-- The two replicas and the ledger which both have indexed. -/
structure Indexed (x y ledger : XRPVerifier) (req : RequestBody) : Prop where
  left : x.toPmwSource.Behind ledger.toPmwSource
  right : y.toPmwSource.Behind ledger.toPmwSource
  unique : ledger.repo.UniqueRows
  leftIndexed : x.repo.IndexedUpTo ledger.repo req.untilTimestamp
  rightIndexed : y.repo.IndexedUpTo ledger.repo req.untilTimestamp

theorem Indexed.fetchReissue (h : Indexed x y ledger req)
    {cannotFetch : String} {reissueNum : UInt64}
    {found found' : Option ChainLog}
    (hx : x.fetchReissue reads req eventHash paymentId cannotFetch
      reissueNum = .ok found)
    (hy : y.fetchReissue reads' req eventHash paymentId cannotFetch
      reissueNum = .ok found') :
    found' = found := by
  cases found with
  | some log =>
      exact fetchReissue_indexed h.left h.right h.unique h.rightIndexed hx hy
  | none =>
      cases found' with
      | none => rfl
      | some log =>
          exact (fetchReissue_indexed h.right h.left h.unique h.leftIndexed
            hy hx).symm

theorem Indexed.reissueMaxFee (h : Indexed x y ledger req)
    {reissueNum : UInt64} {fee fee' : Option Int}
    (hx : x.reissueMaxFee reads req eventHash paymentId reissueNum =
      .ok fee)
    (hy : y.reissueMaxFee reads' req eventHash paymentId reissueNum =
      .ok fee') :
    fee' = fee := by
  obtain ⟨found, hfound, hx⟩ := bind_eq_ok.mp hx
  obtain ⟨found', hfound', hy⟩ := bind_eq_ok.mp hy
  obtain rfl := h.fetchReissue hfound hfound'
  simp only [h.left.parsedTeeInstructionsABI, h.left.sourceIDEncoded] at hx
  simp only [h.right.parsedTeeInstructionsABI, h.right.sourceIDEncoded] at hy
  simpa using hy.symm.trans hx

theorem Indexed.scanReissues (h : Indexed x y ledger req) {remaining : ℕ}
    {reissueNum : UInt64} {result result' : List Int × Bool}
    (hx : x.scanReissues reads req eventHash paymentId remaining
      reissueNum = .ok result)
    (hy : y.scanReissues reads' req eventHash paymentId remaining
      reissueNum = .ok result') :
    result' = result := by
  induction remaining generalizing reissueNum result result' with
  | zero => simpa [XRPVerifier.scanReissues] using hy.symm.trans hx
  | succ remaining ih =>
      unfold XRPVerifier.scanReissues at hx hy
      obtain ⟨fee, hfee, hx⟩ := bind_eq_ok.mp hx
      obtain ⟨fee', hfee', hy⟩ := bind_eq_ok.mp hy
      obtain rfl := h.reissueMaxFee hfee hfee'
      cases fee' with
      | none => simpa using hy.symm.trans hx
      | some maxFee =>
          obtain ⟨rest, hrest, hx⟩ := bind_eq_ok.mp hx
          obtain ⟨rest', hrest', hy⟩ := bind_eq_ok.mp hy
          obtain rfl := ih hrest hrest'
          simpa using hy.symm.trans hx

theorem Indexed.countReissues (h : Indexed x y ledger req)
    {fees fees' : List Int}
    (hx : x.countReissues reads req eventHash paymentId = .ok fees)
    (hy : y.countReissues reads' req eventHash paymentId = .ok fees') :
    fees' = fees := by
  obtain ⟨⟨scanned, early⟩, hscan, hx⟩ := bind_eq_ok.mp hx
  obtain ⟨⟨scanned', early'⟩, hscan', hy⟩ := bind_eq_ok.mp hy
  obtain ⟨rfl, rfl⟩ := Prod.mk.injEq .. ▸ h.scanReissues hscan hscan'
  cases early' with
  | true => simpa using hy.symm.trans hx
  | false =>
      obtain ⟨_, -, hx⟩ := bind_eq_ok.mp hx
      obtain ⟨_, -, hy⟩ := bind_eq_ok.mp hy
      simpa using hy.symm.trans hx

/-- The payments of the two replicas, as the ledger has them. -/
theorem estimates_onLedger
    (hx : x.toPmwSource.Behind ledger.toPmwSource)
    (hy : y.toPmwSource.Behind ledger.toPmwSource)
    (hunique : ledger.repo.UniqueRows)
    {event : x.PayEvent req.opType req.senderAddress paymentId}
    {event' : y.PayEvent req.opType req.senderAddress paymentId}
    {estimate estimate' : PaymentEstimate}
    (h : x.Estimates reads req paymentId estimate event)
    (h' : y.Estimates reads' req paymentId estimate' event') :
    event'.message = event.message ∧
      event'.eventHash = event.eventHash ∧
      estimate'.sequence = estimate.sequence := by
  let onLedger := event.onLedger hx hunique
  have hmessage : event'.message = event.message :=
    onLedger.message_eq_of_behind hy event'
  have hevent : event'.eventHash = event.eventHash := by
    apply event'.eventHash_unique
    rw [hy.parsedTeeInstructionsABI]
    exact onLedger.eventHash_eq
  refine ⟨hmessage, hevent, ?_⟩
  rw [h.sequence_eq, h'.sequence_eq, hmessage]

theorem Pays.onLedger
    (hx : x.toPmwSource.Behind ledger.toPmwSource)
    (hunique : ledger.repo.UniqueRows) {sequence : UInt64} {row : FeeRow}
    (h : x.Pays req sequence row) : ledger.Pays req sequence row := by
  refine ⟨hx.repo.transaction_of_unique hunique h.onlyRow, ?_, ?_⟩
  · rw [← hx.library]
    exact h.consistent
  · rw [← hx.library]
    exact h.fee

theorem Indexed.estimatedFee (h : Indexed x y ledger req)
    {event : x.PayEvent req.opType req.senderAddress paymentId}
    {event' : y.PayEvent req.opType req.senderAddress paymentId}
    {estimate estimate' : PaymentEstimate}
    (hx : x.Estimates reads req paymentId estimate event)
    (hy : y.Estimates reads' req paymentId estimate' event') :
    estimate'.estimatedFee = estimate.estimatedFee := by
  obtain ⟨hmessage, hevent, -⟩ :=
    estimates_onLedger h.left h.right h.unique hx hy
  obtain ⟨maxFee, fees, hmaxFee, -, -, hfees, hestimate⟩ := hx.estimate_eq
  obtain ⟨maxFee', fees', hmaxFee', -, -, hfees', hestimate'⟩ :=
    hy.estimate_eq
  rw [hmessage, hmaxFee] at hmaxFee'
  obtain rfl : maxFee = maxFee' := by simpa using hmaxFee'
  rw [hevent] at hfees'
  rw [hestimate, hestimate', h.countReissues hfees hfees']

theorem evaluate_agree
    (hkeep : KeepsInstructionTopic ledger.repo.convertDatabaseLogToChainLog)
    (hx : x.toPmwSource.Behind ledger.toPmwSource)
    (hy : y.toPmwSource.Behind ledger.toPmwSource)
    (hunique : ledger.repo.UniqueRows)
    {evaluation evaluation' : Evaluation}
    (h : x.evaluate reads req = .ok evaluation)
    (h' : y.evaluate reads' req = .ok evaluation') :
    evaluation'.rows = evaluation.rows ∧
      (Indexed x y ledger req →
        evaluation'.estimatedFee = evaluation.estimatedFee) := by
  have hkeepx := hkeep
  rw [← hx.repo.convert] at hkeepx
  have hkeepy := hkeep
  rw [← hy.repo.convert] at hkeepy
  obtain ⟨-, -, -, hestimates, hrows⟩ := settled_of_evaluate hkeepx h
  obtain ⟨-, -, -, hestimates', hrows'⟩ := settled_of_evaluate hkeepy h'
  constructor
  · have hsequences : List.Forall₂ (fun estimate' estimate =>
        PaymentEstimate.sequence estimate' =
          PaymentEstimate.sequence estimate)
        evaluation'.payments evaluation.payments := by
      refine forall₂_of_common hestimates' hestimates ?_
      rintro p - estimate' estimate ⟨event', hright⟩ ⟨event, hleft⟩
      exact (estimates_onLedger hx hy hunique hleft hright).2.2
    have hsame : List.Forall₂ Eq evaluation'.rows evaluation.rows := by
      refine forall₂_of_common hrows' (forall₂_comp hsequences hrows) ?_
      rintro estimate' - row' row hpays' ⟨estimate, hsequence, hpays⟩
      rw [hsequence] at hpays'
      exact (hpays.onLedger hx hunique).behind hy hpays'
    exact List.forall₂_eq_eq_eq ▸ hsame
  · intro hindexed
    have hfees : List.Forall₂ (fun estimate' estimate =>
        PaymentEstimate.estimatedFee estimate' =
          PaymentEstimate.estimatedFee estimate)
        evaluation'.payments evaluation.payments := by
      refine forall₂_of_common hestimates' hestimates ?_
      rintro p - estimate' estimate ⟨event', hright⟩ ⟨event, hleft⟩
      exact hindexed.estimatedFee hleft hright
    unfold Evaluation.estimatedFee
    rw [forall₂_map_eq hfees fun _ _ hfee => hfee]

end XRPVerifier

theorem responses_agree {ledger left right : PmwSource}
    (hleft : left.Behind ledger) (hright : right.Behind ledger)
    (hunique : ledger.repo.UniqueRows)
    (hkeep : KeepsInstructionTopic
      ledger.repo.convertDatabaseLogToChainLog)
    {reads reads' : Reads} {req : RequestBody}
    {response response' : ResponseBody}
    (h : (newXRPVerifier left).verify reads req = .ok response)
    (h' : (newXRPVerifier right).verify reads' req = .ok response') :
    response'.actualFee = response.actualFee ∧
      response'.lastPaymentId = response.lastPaymentId ∧
      (left.repo.IndexedUpTo ledger.repo req.untilTimestamp →
        right.repo.IndexedUpTo ledger.repo req.untilTimestamp →
        response' = response) := by
  obtain ⟨evaluation, hevaluation, rfl⟩ := XRPVerifier.verify_eq_ok_iff.mp h
  obtain ⟨evaluation', hevaluation', rfl⟩ :=
    XRPVerifier.verify_eq_ok_iff.mp h'
  have hkeepFees : KeepsInstructionTopic
      (newXRPVerifier ledger).repo.convertDatabaseLogToChainLog := hkeep
  obtain ⟨hrows, hestimated⟩ := XRPVerifier.evaluate_agree hkeepFees hleft
    hright hunique hevaluation hevaluation'
  have hactual : evaluation'.actualFee = evaluation.actualFee := by
    unfold Evaluation.actualFee
    rw [hrows]
  refine ⟨hactual, rfl, fun hindexed hindexed' => ?_⟩
  rw [hactual, hestimated ⟨hleft, hright, hunique, hindexed, hindexed'⟩]

end FeeProof

/-- Two replicas of one ledger which both answer give the same payment status,
and the same actual fee and last payment id; their estimated fees agree once
both have indexed the window of the request. -/
theorem replicas_agree (ledger left right : PmwSource)
    (hleft : left.Behind ledger) (hright : right.Behind ledger)
    (hunique : ledger.repo.UniqueRows)
    (hkeep : KeepsInstructionTopic
      ledger.repo.convertDatabaseLogToChainLog) :
    (∀ reads reads' req response response',
      PaymentStatus.XRPVerifier.verify left reads req = .ok response →
      PaymentStatus.XRPVerifier.verify right reads' req = .ok response' →
      response' = response) ∧
    ∀ reads reads' req response response',
      (FeeProof.newXRPVerifier left).verify reads req = .ok response →
      (FeeProof.newXRPVerifier right).verify reads' req = .ok response' →
      response'.actualFee = response.actualFee ∧
        response'.lastPaymentId = response.lastPaymentId ∧
        (left.repo.IndexedUpTo ledger.repo req.untilTimestamp →
          right.repo.IndexedUpTo ledger.repo req.untilTimestamp →
          response' = response) := by
  constructor
  · intro reads reads' req response response' h h'
    obtain ⟨hlogFault, htxFault, -⟩ :=
      PaymentStatus.XRPVerifier.verify_eq_ok_iff.mp h
    have honLedger := PaymentStatus.XRPVerifier.verify_onLedger hleft hunique
      h hlogFault htxFault rfl
    exact PaymentStatus.XRPVerifier.response_onReplica hright honLedger h'
  · intro reads reads' req response response' h h'
    exact FeeProof.responses_agree hleft hright hunique hkeep h h'

theorem replicas_agree_smallLedger :
    PaymentStatus.XRPVerifier.verify SmallLedger.replica
      SmallLedger.paymentReads (SmallLedger.paymentRequest 1) =
        .ok (SmallLedger.paymentResponse
          (FixedBytes.replicate 32 0xaa) SmallLedger.tx1) := by
  obtain ⟨response, hresponse⟩ := SmallLedger.replica_verifies
  have hsource : SmallLedger.source.Behind SmallLedger.source :=
    ⟨rfl, rfl, rfl, List.Subperm.refl _, List.Subperm.refl _, rfl, rfl⟩
  have hsame := (replicas_agree SmallLedger.source SmallLedger.source
    SmallLedger.replica hsource SmallLedger.replica_behind
    SmallLedger.uniqueRows SmallLedger.keepsInstructionTopic).1
    SmallLedger.paymentReads SmallLedger.paymentReads
    (SmallLedger.paymentRequest 1) _ response SmallLedger.verify_payment1
    hresponse
  rw [hresponse, hsame]

end VerifierApi

import VerifierApi.PaymentBinding

/-!
# Batch reads and single reads

A batch read answers exactly when the single read of every key of the batch
finds its row or reports that there is none.  The map is then the graph of
the single reads on the keys of the batch, whatever the table holds besides.
-/

namespace VerifierApi

/-- A read that finds its row, or reports `ErrRecordNotFound`. -/
def FoundOrMissing {α : Type} (outcome : Except GoError α) : Prop :=
  FailsWith (fun err => err.has .recordNotFound = true) outcome

theorem foundOrMissing_error_iff {α : Type} {err : GoError} :
    FoundOrMissing (.error err : Except GoError α) ↔
      Sentinel.recordNotFound ∈ err.sentinels := by
  have hhas : err.has .recordNotFound = true ↔
      Sentinel.recordNotFound ∈ err.sentinels := by
    rw [has_eq, decide_eq_true_eq]
  rw [← hhas]
  constructor
  · intro h
    exact h err rfl
  · intro h
    exact FailsWith.error h

theorem foundOrMissing_bind_iff {α β : Type} {outcome : Except GoError α}
    {next : α → Except GoError β} :
    FoundOrMissing (outcome >>= next) ↔
      FoundOrMissing outcome ∧
        ∀ value, outcome = .ok value → FoundOrMissing (next value) := by
  unfold FoundOrMissing
  constructor
  · intro h
    constructor
    · intro err herr
      exact h err (bind_eq_error.mpr (.inl herr))
    · intro value hvalue err herr
      exact h err (bind_eq_error.mpr (.inr ⟨value, hvalue, herr⟩))
  · rintro ⟨hfirst, hnext⟩
    exact FailsWith.bind hfirst hnext

theorem foundOrMissing_external_iff {α : Type}
    {outcome : Except ExternalError α} :
    FoundOrMissing (outcome.mapError ExternalError.toGoError) ↔
      ∃ value, outcome = .ok value := by
  cases outcome with
  | ok value =>
    simp only [Except.ok.injEq, exists_eq', iff_true]
    exact FailsWith.ok value
  | error err =>
    rw [Except.mapError, foundOrMissing_error_iff]
    simp

theorem readSingle_foundOrMissing_iff {ρ : Type}
    {fault : Option ExternalError} {rows : List ρ}
    {cannotFetch duplicate : String} :
    FoundOrMissing (readSingle fault rows cannotFetch duplicate) ↔
      fault = none ∧ rows.length ≤ 1 := by
  cases fault with
  | some cause =>
    rw [readSingle, foundOrMissing_error_iff]
    simp [errDatabase]
  | none =>
    cases rows with
    | nil => simp [readSingle, foundOrMissing_error_iff, errRecordNotFound]
    | cons row more =>
      cases more with
      | nil =>
        simp only [List.length_singleton, le_refl, and_self, iff_true]
        exact FailsWith.ok row
      | cons other rest =>
        simp [readSingle, foundOrMissing_error_iff, errDatabase]

namespace DBRepo

variable {repo : DBRepo} {fault : Option ExternalError}
  {eventHash : String} {id : Hash}

theorem readable_iff :
    repo.Readable eventHash id ↔
      (repo.instructionLogs eventHash id).length ≤ 1 ∧
        ∀ row, repo.instructionLogs eventHash id = [row] →
          ∃ log, repo.convertDatabaseLogToChainLog row = .ok log := by
  constructor
  · intro h
    refine ⟨h.length_le_one, fun row hrow => ?_⟩
    rcases h with hnil | ⟨single, log, hsingle, hlog⟩
    · simp [hnil] at hrow
    · rw [hsingle] at hrow
      obtain rfl : single = row := by simpa using hrow
      exact ⟨log, hlog⟩
  · rintro ⟨hlength, hconvert⟩
    rcases eq_nil_or_singleton hlength with hnil | ⟨row, hrow⟩
    · exact .inl hnil
    · obtain ⟨log, hlog⟩ := hconvert row hrow
      exact .inr ⟨row, log, hrow, hlog⟩

theorem fetchInstructionRow_foundOrMissing_iff :
    FoundOrMissing (repo.fetchInstructionRow fault eventHash id) ↔
      fault = none ∧ (repo.instructionLogs eventHash id).length ≤ 1 := by
  unfold fetchInstructionRow
  rw [readSingle_foundOrMissing_iff, (orderLogs_perm _).length_eq]

theorem fetchInstructionLog_foundOrMissing_iff :
    FoundOrMissing (repo.fetchInstructionLog fault eventHash id) ↔
      fault = none ∧ repo.Readable eventHash id := by
  unfold fetchInstructionLog
  rw [foundOrMissing_bind_iff, fetchInstructionRow_foundOrMissing_iff,
    readable_iff, and_assoc]
  simp only [foundOrMissing_external_iff, fetchInstructionRow_eq_ok_iff]
  constructor
  · rintro ⟨rfl, hlength, hconvert⟩
    exact ⟨rfl, hlength, fun row hrow => hconvert row ⟨rfl, hrow⟩⟩
  · rintro ⟨rfl, hlength, hconvert⟩
    exact ⟨rfl, hlength, fun row hrow => hconvert row hrow.2⟩

/-- The two repositories disagree only on the timestamp they report. -/
theorem fetchInstructionLog_eq_map :
    repo.fetchInstructionLog fault eventHash id =
      (repo.fetchInstructionLogResult fault eventHash id).map
        InstructionLogResult.log := by
  unfold fetchInstructionLog fetchInstructionLogResult
  cases repo.fetchInstructionRow fault eventHash id with
  | error err => rfl
  | ok row =>
    cases hconvert : repo.convertDatabaseLogToChainLog row with
    | error err => simp [hconvert, bind, Except.bind, Except.map, Except.mapError]
    | ok log => simp [hconvert, bind, Except.bind, Except.map, Except.mapError]

theorem fetchTransaction_foundOrMissing_iff {source : String}
    {nonce : UInt64} :
    FoundOrMissing
        (repo.fetchTransactionBySourceAndSequence fault source nonce) ↔
      fault = none ∧ (repo.transactionRows source nonce).length ≤ 1 := by
  unfold fetchTransactionBySourceAndSequence
  rw [readSingle_foundOrMissing_iff,
    (List.perm_insertionSort _ _).length_eq]

/-! ## Batches -/

theorem fetchInstructionLogs_succeeds_iff_single
    (hkeep : KeepsInstructionTopic repo.convertDatabaseLogToChainLog)
    (ids : List Hash) :
    (∃ logs, repo.fetchInstructionLogs fault eventHash ids = .ok logs) ↔
      ∀ id ∈ ids,
        FoundOrMissing (repo.fetchInstructionLog fault eventHash id) := by
  simp only [fetchInstructionLog_foundOrMissing_iff]
  cases fault with
  | none => simpa using fetchInstructionLogs_succeeds_iff hkeep
  | some err =>
    cases ids with
    | nil => simp [fetchInstructionLogs]
    | cons first others =>
      constructor
      · rintro ⟨logs, hlogs⟩
        have hfault := fault_of_fetchInstructionLogs (by simp) hlogs
        simp at hfault
      · intro h
        have hfault := (h first List.mem_cons_self).1
        simp at hfault

theorem mem_of_lookup_fetchInstructionLogs
    (hkeep : KeepsInstructionTopic repo.convertDatabaseLogToChainLog)
    {ids : List Hash} {logs : AList fun _ : Hash => ChainLog}
    (hlogs : repo.fetchInstructionLogs fault eventHash ids = .ok logs)
    {log : ChainLog} (hlookup : logs.lookup id = some log) : id ∈ ids := by
  unfold fetchInstructionLogs at hlogs
  split at hlogs
  next =>
    obtain rfl : ∅ = logs := by simpa using hlogs
    simp at hlookup
  next =>
    cases fault with
    | some err => simp at hlogs
    | none =>
      simp only at hlogs
      rw [lookup_indexUnique hlogs] at hlookup
      simp only [AList.lookup_empty, reduceCtorEq, false_or] at hlookup
      obtain ⟨row, hrow, hfile⟩ := hlookup
      obtain ⟨other, hother, hmem⟩ := mem_orderLogs.mp hrow
      obtain ⟨_, -, hkey⟩ := (fileInstructionRow_eq_ok_iff hkeep hmem).mp hfile
      have hid : id = other := by
        simp only [Option.some.injEq, Prod.mk.injEq] at hkey
        exact hkey.1
      exact hid ▸ hother

theorem lookup_fetchInstructionLogs_iff_single
    (hkeep : KeepsInstructionTopic repo.convertDatabaseLogToChainLog)
    {ids : List Hash} {logs : AList fun _ : Hash => ChainLog}
    (hlogs : repo.fetchInstructionLogs fault eventHash ids = .ok logs)
    (id : Hash) (log : ChainLog) :
    logs.lookup id = some log ↔
      id ∈ ids ∧ repo.fetchInstructionLog fault eventHash id = .ok log := by
  rw [fetchInstructionLog_eq_ok_iff]
  by_cases hid : id ∈ ids
  · have hfault :=
      fault_of_fetchInstructionLogs (List.ne_nil_of_mem hid) hlogs
    rw [lookup_fetchInstructionLogs hkeep hlogs hid]
    simp only [hid, hfault, true_and]
  · simp only [hid, false_and, iff_false]
    intro hlookup
    exact hid (mem_of_lookup_fetchInstructionLogs hkeep hlogs hlookup)

theorem fetchTransactions_succeeds_iff_single {source : String}
    (nonces : List UInt64) :
    (∃ txs, repo.fetchTransactionsBySourceAndSequences fault source nonces =
        .ok txs) ↔
      ∀ nonce ∈ nonces, FoundOrMissing
        (repo.fetchTransactionBySourceAndSequence fault source nonce) := by
  simp only [fetchTransaction_foundOrMissing_iff]
  cases fault with
  | none => simpa using fetchTransactions_succeeds_iff
  | some err =>
    cases nonces with
    | nil => simp [fetchTransactionsBySourceAndSequences]
    | cons first others =>
      constructor
      · rintro ⟨txs, htxs⟩
        have hfault := fault_of_fetchTransactions (by simp) htxs
        simp at hfault
      · intro h
        have hfault := (h first List.mem_cons_self).1
        simp at hfault

theorem mem_of_lookup_fetchTransactions {source : String}
    {nonces : List UInt64} {txs : AList fun _ : UInt64 => DBTransaction}
    (htxs : repo.fetchTransactionsBySourceAndSequences fault source nonces =
      .ok txs)
    {nonce : UInt64} {tx : DBTransaction}
    (hlookup : txs.lookup nonce = some tx) : nonce ∈ nonces := by
  unfold fetchTransactionsBySourceAndSequences at htxs
  split at htxs
  next =>
    obtain rfl : ∅ = txs := by simpa using htxs
    simp at hlookup
  next =>
    cases fault with
    | some err => simp at htxs
    | none =>
      simp only at htxs
      rw [lookup_indexUnique htxs] at hlookup
      simp only [AList.lookup_empty, reduceCtorEq, false_or,
        fileTransaction, Except.ok.injEq, Option.some.injEq,
        Prod.mk.injEq] at hlookup
      obtain ⟨row, hrow, hsequence, -⟩ := hlookup
      obtain ⟨other, hother, hmem⟩ := mem_anyTransactionRows.mp hrow
      rw [← hsequence, (mem_transactionRows.mp hmem).2.2]
      exact hother

theorem lookup_fetchTransactions_iff_single {source : String}
    {nonces : List UInt64} {txs : AList fun _ : UInt64 => DBTransaction}
    (htxs : repo.fetchTransactionsBySourceAndSequences fault source nonces =
      .ok txs)
    (nonce : UInt64) (tx : DBTransaction) :
    txs.lookup nonce = some tx ↔
      nonce ∈ nonces ∧
        repo.fetchTransactionBySourceAndSequence fault source nonce =
          .ok tx := by
  rw [fetchTransactionBySourceAndSequence_eq_ok_iff]
  by_cases hnonce : nonce ∈ nonces
  · have hfault :=
      fault_of_fetchTransactions (List.ne_nil_of_mem hnonce) htxs
    rw [lookup_fetchTransactions htxs hnonce]
    simp only [hnonce, hfault, true_and]
  · simp only [hnonce, false_and, iff_false]
    intro hlookup
    exact hnonce (mem_of_lookup_fetchTransactions htxs hlookup)

/-! ## Agreement -/

theorem batch_reads_agree (repo : DBRepo)
    (hkeep : KeepsInstructionTopic repo.convertDatabaseLogToChainLog)
    (fault : Option ExternalError) :
    (∀ (eventHash : String) (ids : List Hash),
      ((∃ logs, repo.fetchInstructionLogs fault eventHash ids = .ok logs) ↔
        ∀ id ∈ ids,
          FoundOrMissing (repo.fetchInstructionLog fault eventHash id)) ∧
      ∀ logs, repo.fetchInstructionLogs fault eventHash ids = .ok logs →
        ∀ id log, logs.lookup id = some log ↔
          id ∈ ids ∧
            repo.fetchInstructionLog fault eventHash id = .ok log) ∧
    (∀ (eventHash : String) (id : Hash),
      repo.fetchInstructionLog fault eventHash id =
        (repo.fetchInstructionLogResult fault eventHash id).map
          InstructionLogResult.log) ∧
    ∀ (source : String) (nonces : List UInt64),
      ((∃ txs, repo.fetchTransactionsBySourceAndSequences fault source
          nonces = .ok txs) ↔
        ∀ nonce ∈ nonces, FoundOrMissing
          (repo.fetchTransactionBySourceAndSequence fault source nonce)) ∧
      ∀ txs, repo.fetchTransactionsBySourceAndSequences fault source nonces =
          .ok txs →
        ∀ nonce tx, txs.lookup nonce = some tx ↔
          nonce ∈ nonces ∧
            repo.fetchTransactionBySourceAndSequence fault source nonce =
              .ok tx := by
  refine ⟨fun eventHash ids => ⟨?_, fun logs hlogs => ?_⟩,
    fun eventHash id => fetchInstructionLog_eq_map,
    fun source nonces => ⟨?_, fun txs htxs => ?_⟩⟩
  · exact fetchInstructionLogs_succeeds_iff_single hkeep ids
  · exact lookup_fetchInstructionLogs_iff_single hkeep hlogs
  · exact fetchTransactions_succeeds_iff_single nonces
  · exact lookup_fetchTransactions_iff_single htxs

end DBRepo

namespace SmallLedger

theorem batch_reads_agree_smallLedger :
    (∃ logs, source.repo.fetchInstructionLogs none eventID.hex
        [log1.id, secondReissue1, log1.id] = .ok logs ∧
      logs.lookup log1.id =
        some ⟨[eventID, zeroHash, log1.id], logData log1⟩) ∧
    ∃ batch, source.repo.fetchTransactionsBySourceAndSequences none
        "rSender" [100, 7, 100] = .ok batch ∧
      batch.lookup 100 = some tx1 ∧ batch.lookup 101 = none := by
  have hagree := source.repo.batch_reads_agree keepsInstructionTopic none
  constructor
  · have hconvert : source.repo.convertDatabaseLogToChainLog (logRow log1) =
        .ok ⟨[eventID, zeroHash, log1.id], logData log1⟩ := by
      have hsource : ∀ row, source.repo.convertDatabaseLogToChainLog row =
          convert row := fun _ => rfl
      rw [hsource]
      exact convert_logRow log1
    have hlogs := hagree.1 eventID.hex [log1.id, secondReissue1, log1.id]
    have hfound : source.repo.fetchInstructionLog none eventID.hex log1.id =
        .ok ⟨[eventID, zeroHash, log1.id], logData log1⟩ :=
      DBRepo.fetchInstructionLog_eq_ok_iff.mpr
        ⟨rfl, logRow log1, payLog1.onlyRow, hconvert⟩
    have hmissing : source.repo.instructionLogs eventID.hex secondReissue1 =
        [] := by
      rw [instructionLogs_source]
      have hnone : (logs.filter fun log => log.id = secondReissue1) = [] := by
        decide
      rw [hnone, List.map_nil]
    have hsingle : ∀ id ∈ [log1.id, secondReissue1, log1.id], FoundOrMissing
        (source.repo.fetchInstructionLog none eventID.hex id) := by
      intro id hid
      rw [DBRepo.fetchInstructionLog_foundOrMissing_iff]
      simp only [List.mem_cons, List.not_mem_nil, or_false] at hid
      rcases hid with rfl | rfl | rfl
      · exact ⟨rfl, .inr ⟨_, _, payLog1.onlyRow, hconvert⟩⟩
      · exact ⟨rfl, .inl hmissing⟩
      · exact ⟨rfl, .inr ⟨_, _, payLog1.onlyRow, hconvert⟩⟩
    obtain ⟨batch, hbatch⟩ := hlogs.1.mpr hsingle
    exact ⟨batch, hbatch,
      (hlogs.2 batch hbatch log1.id _).mpr ⟨by simp, hfound⟩⟩
  · have htxs := hagree.2.2 "rSender" [100, 7, 100]
    have hrows : source.repo.transactionRows "rSender" 100 = [tx1] ∧
        source.repo.transactionRows "rSender" 7 = [] := by
      simp [DBRepo.transactionRows, source, txs, tx1, tx2]
    have hfound : source.repo.fetchTransactionBySourceAndSequence none
        "rSender" 100 = .ok tx1 :=
      DBRepo.fetchTransactionBySourceAndSequence_eq_ok_iff.mpr
        ⟨rfl, hrows.1⟩
    have hsingle : ∀ nonce ∈ [100, 7, 100], FoundOrMissing
        (source.repo.fetchTransactionBySourceAndSequence none "rSender"
          nonce) := by
      intro nonce hnonce
      rw [DBRepo.fetchTransaction_foundOrMissing_iff]
      simp only [List.mem_cons, List.not_mem_nil, or_false] at hnonce
      rcases hnonce with rfl | rfl | rfl <;> simp [hrows]
    obtain ⟨batch, hbatch⟩ := htxs.1.mpr hsingle
    have hfirst : batch.lookup 100 = some tx1 :=
      (htxs.2 batch hbatch 100 tx1).mpr ⟨by simp, hfound⟩
    have hother : batch.lookup 101 = none := by
      by_contra hlookup
      obtain ⟨tx, htx⟩ := Option.ne_none_iff_exists'.mp hlookup
      have hmem := ((htxs.2 batch hbatch 101 tx).mp htx).1
      simp at hmem
    exact ⟨batch, hbatch, hfirst, hother⟩

end SmallLedger

end VerifierApi

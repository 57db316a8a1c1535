import VerifierApi.IndexerStore

/-!
# What the indexer reads return

The single-row reads answer exactly when one row matches.  The batch reads
answer exactly when every single-row read would answer or report a missing
row, and then hold the same rows.
-/

namespace VerifierApi

theorem take_two_eq_nil_iff {α : Type} (rows : List α) :
    rows.take 2 = [] ↔ rows = [] := by
  cases rows <;> simp

theorem take_two_eq_singleton_iff {α : Type} (rows : List α) (row : α) :
    rows.take 2 = [row] ↔ rows = [row] := by
  cases rows with
  | nil => simp
  | cons first rest => cases rest <;> simp

theorem eq_nil_or_singleton {α : Type} {rows : List α}
    (h : rows.length ≤ 1) : rows = [] ∨ ∃ row, rows = [row] := by
  cases rows with
  | nil => exact .inl rfl
  | cons row rest =>
      obtain rfl : rest = [] := by simpa using h
      exact .inr ⟨row, rfl⟩

section ReadSingle

variable {ρ : Type} {fault : Option ExternalError} {rows : List ρ}
  {cannotFetch duplicate : String}

theorem readSingle_eq_ok_iff {row : ρ} :
    readSingle fault rows cannotFetch duplicate = .ok row ↔
      fault = none ∧ rows = [row] := by
  cases fault with
  | some err => simp [readSingle]
  | none =>
      rw [← take_two_eq_singleton_iff]
      simp only [readSingle, true_and]
      split
      next h => simp [h]
      next other h => simp [h]
      next h1 h2 =>
        simp only [reduceCtorEq, false_iff]
        intro h
        exact h2 row h

/-- The order in which the rows come does not matter. -/
theorem readSingle_eq_ok_iff_of_perm {rows' : List ρ} {row : ρ}
    (hperm : rows.Perm rows') :
    readSingle fault rows cannotFetch duplicate = .ok row ↔
      fault = none ∧ rows' = [row] := by
  rw [readSingle_eq_ok_iff, ← List.perm_singleton, ← List.perm_singleton]
  constructor
  · rintro ⟨hfault, hrows⟩
    exact ⟨hfault, hperm.symm.trans hrows⟩
  · rintro ⟨hfault, hrows⟩
    exact ⟨hfault, hperm.trans hrows⟩

/-- A read of rows fails because there are none, or as an indexer fault. -/
def MissingOrFault {ρ : Type} (rows : List ρ) (err : GoError) : Prop :=
  (err.sentinels = [.recordNotFound] ∧ rows = []) ∨ IndexerFault err

theorem readSingle_fails :
    FailsWith (MissingOrFault rows)
      (readSingle fault rows cannotFetch duplicate) := by
  cases fault with
  | some cause =>
      exact FailsWith.error (.inr (.wrapf2 _ .errDatabase (.external cause)))
  | none =>
      simp only [readSingle]
      split
      next hnil =>
        apply FailsWith.error
        exact .inl ⟨by simp [errRecordNotFound],
          (take_two_eq_nil_iff rows).mp hnil⟩
      next => exact FailsWith.ok _
      next => exact FailsWith.error (.inr (.wrapf _ .errDatabase))

theorem has_recordNotFound_eq_false {err : GoError}
    (h : IndexerFault err) : err.has .recordNotFound = false := by
  rw [has_eq, decide_eq_false_iff_not]
  intro hmem
  rcases h _ hmem with heq | heq <;> simp at heq

theorem MissingOrFault.of_perm {rows' : List ρ} {err : GoError}
    (hperm : rows.Perm rows') (h : MissingOrFault rows err) :
    MissingOrFault rows' err := by
  rcases h with ⟨hmissing, hnil⟩ | hfault
  · rw [hnil] at hperm
    exact .inl ⟨hmissing, List.nil_perm.mp hperm⟩
  · exact .inr hfault

end ReadSingle

namespace DBRepo

variable {repo : DBRepo} {fault : Option ExternalError}
  {eventHash : String} {id : Hash}

theorem orderLogs_perm (rows : List DbLog) : (orderLogs rows).Perm rows :=
  List.perm_insertionSort _ rows

/-! ## Single-row reads -/

theorem fetchInstructionRow_eq_ok_iff {row : DbLog} :
    repo.fetchInstructionRow fault eventHash id = .ok row ↔
      fault = none ∧ repo.instructionLogs eventHash id = [row] :=
  readSingle_eq_ok_iff_of_perm (orderLogs_perm _)

theorem fetchInstructionRow_fails :
    FailsWith (MissingOrFault (repo.instructionLogs eventHash id))
      (repo.fetchInstructionRow fault eventHash id) :=
  readSingle_fails.mono fun _ h => h.of_perm (orderLogs_perm _)

theorem fetchInstructionLog_eq_ok_iff {log : ChainLog} :
    repo.fetchInstructionLog fault eventHash id = .ok log ↔
      fault = none ∧ ∃ row,
        repo.instructionLogs eventHash id = [row] ∧
        repo.convertDatabaseLogToChainLog row = .ok log := by
  simp only [fetchInstructionLog, bind_eq_ok, mapError_eq_ok,
    fetchInstructionRow_eq_ok_iff, and_assoc, exists_and_left]

theorem fetchInstructionLog_fails :
    FailsWith (MissingOrFault (repo.instructionLogs eventHash id))
      (repo.fetchInstructionLog fault eventHash id) := by
  apply FailsWith.bind fetchInstructionRow_fails
  intro row _
  exact FailsWith.mapError_of_forall fun err => .inr (.external err)

theorem fetchInstructionLogResult_eq_ok_iff
    {result : InstructionLogResult} :
    repo.fetchInstructionLogResult fault eventHash id = .ok result ↔
      fault = none ∧ ∃ row,
        repo.instructionLogs eventHash id = [row] ∧
        repo.convertDatabaseLogToChainLog row = .ok result.log ∧
        row.timestamp = result.blockTimestamp := by
  simp only [fetchInstructionLogResult, bind_eq_ok, mapError_eq_ok,
    fetchInstructionRow_eq_ok_iff, and_assoc, exists_and_left,
    Except.ok.injEq]
  constructor
  · rintro ⟨hfault, row, hrows, log, hlog, rfl⟩
    exact ⟨hfault, row, hrows, hlog, rfl⟩
  · rintro ⟨hfault, row, hrows, hlog, htime⟩
    exact ⟨hfault, row, hrows, result.log, hlog, by rw [htime]⟩

theorem fetchInstructionLogResult_fails :
    FailsWith (MissingOrFault (repo.instructionLogs eventHash id))
      (repo.fetchInstructionLogResult fault eventHash id) := by
  apply FailsWith.bind fetchInstructionRow_fails
  intro row _
  apply FailsWith.bind
  · exact FailsWith.mapError_of_forall fun err => .inr (.external err)
  · intro log _
    exact FailsWith.ok _

theorem fetchInstructionLogResult_of_nil
    (hnil : repo.instructionLogs eventHash id = []) :
    ∃ err, repo.fetchInstructionLogResult fault eventHash id =
      .error err := by
  cases hresult : repo.fetchInstructionLogResult fault eventHash id with
  | error err => exact ⟨err, rfl⟩
  | ok result =>
      obtain ⟨-, row, hrow, -⟩ :=
        fetchInstructionLogResult_eq_ok_iff.mp hresult
      simp [hnil] at hrow

/-- A row is reported as missing only where the database answered. -/
theorem fetchInstructionLogResult_missing_iff {err : GoError}
    (herr : repo.fetchInstructionLogResult fault eventHash id = .error err) :
    err.has .recordNotFound = true ↔
      fault = none ∧ repo.instructionLogs eventHash id = [] := by
  constructor
  · intro hmissing
    cases fault with
    | some cause =>
        obtain rfl := Except.error.inj herr
        rw [has_recordNotFound_eq_false
          (.wrapf2 _ .errDatabase (.external cause))] at hmissing
        contradiction
    | none =>
        rcases fetchInstructionLogResult_fails err herr with
          ⟨-, hnil⟩ | hfault
        · exact ⟨rfl, hnil⟩
        · rw [has_recordNotFound_eq_false hfault] at hmissing
          contradiction
  · rintro ⟨rfl, hnil⟩
    simp only [fetchInstructionLogResult, fetchInstructionRow, hnil] at herr
    obtain rfl := Except.error.inj herr
    rw [has_eq, sentinels_wrapf]
    rfl

theorem fetchTransactionBySourceAndSequence_eq_ok_iff
    {source : String} {nonce : UInt64} {tx : DBTransaction} :
    repo.fetchTransactionBySourceAndSequence fault source nonce = .ok tx ↔
      fault = none ∧ repo.transactionRows source nonce = [tx] :=
  readSingle_eq_ok_iff_of_perm (List.perm_insertionSort _ _)

theorem fetchTransactionBySourceAndSequence_fails
    {source : String} {nonce : UInt64} :
    FailsWith (MissingOrFault (repo.transactionRows source nonce))
      (repo.fetchTransactionBySourceAndSequence fault source nonce) :=
  readSingle_fails.mono fun _ h => h.of_perm (List.perm_insertionSort _ _)

/-! ## Batch reads -/

theorem mem_anyInstructionLogs {ids : List Hash} {row : DbLog} :
    row ∈ repo.anyInstructionLogs eventHash ids ↔
      ∃ id ∈ ids, row ∈ repo.instructionLogs eventHash id := by
  simp only [anyInstructionLogs, instructionLogs, List.mem_filter,
    Bool.and_eq_true, decide_eq_true_eq, List.mem_map]
  constructor
  · rintro ⟨hmem, hevent, id, hid, htopic⟩
    exact ⟨id, hid, hmem, hevent, htopic.symm⟩
  · rintro ⟨id, hid, hmem, hevent, htopic⟩
    exact ⟨hmem, hevent, id, hid, htopic.symm⟩

theorem topic2_of_mem_instructionLogs {row : DbLog}
    (hrow : row ∈ repo.instructionLogs eventHash id) :
    row.topic2 = removeHexPrefix id.hex := by
  simp only [instructionLogs, List.mem_filter, Bool.and_eq_true,
    decide_eq_true_eq] at hrow
  exact hrow.2.2

theorem instructionLogs_map {α : Type} {logs : List α} {row : α → DbLog}
    {key : α → Hash}
    (haddress : ∀ log, (row log).address = repo.contractAddress)
    (htopic0 : ∀ log, (row log).topic0 = removeHexPrefix eventHash)
    (htopic1 : ∀ log, (row log).topic1 = removeHexPrefix zeroHash.hex)
    (htopic2 : ∀ log, (row log).topic2 = removeHexPrefix (key log).hex)
    (htable : repo.cChainDb = logs.map row) (id : Hash) :
    repo.instructionLogs eventHash id =
      (logs.filter fun log => key log = id).map row := by
  unfold instructionLogs
  rw [htable, List.filter_map]
  refine congrArg (List.map row) (List.filter_congr ?_)
  intro log _
  by_cases hid : key log = id
  · simp [matchesEvent, haddress, htopic0, htopic1, htopic2, hid]
  · have hne : removeHexPrefix (key log).hex ≠ removeHexPrefix id.hex :=
      fun heq => hid (removeHexPrefix_hex_injective heq)
    simp [htopic2, hid, hne]

theorem fileInstructionRow_eq_ok_iff
    (hkeep : KeepsInstructionTopic repo.convertDatabaseLogToChainLog)
    {row : DbLog} (hrow : row ∈ repo.instructionLogs eventHash id)
    {entry : Option (Hash × ChainLog)} :
    repo.fileInstructionRow row = .ok entry ↔
      ∃ log, repo.convertDatabaseLogToChainLog row = .ok log ∧
        entry = some (id, log) := by
  unfold fileInstructionRow
  cases hconvert : repo.convertDatabaseLogToChainLog row with
  | error err => simp
  | ok log =>
      have htopic :=
        hkeep row log id hconvert (topic2_of_mem_instructionLogs hrow)
      simp [htopic, eq_comm]

theorem filter_anyInstructionLogs {ids : List Hash} (hid : id ∈ ids) :
    (repo.anyInstructionLogs eventHash ids).filter
        (fun row => row.topic2 = removeHexPrefix id.hex) =
      repo.instructionLogs eventHash id := by
  unfold anyInstructionLogs instructionLogs
  rw [List.filter_filter]
  apply List.filter_congr
  intro row _
  by_cases htopic : row.topic2 = removeHexPrefix id.hex
  · have hany : row.topic2 ∈ ids.map fun id => removeHexPrefix id.hex :=
      List.mem_map.mpr ⟨id, hid, htopic.symm⟩
    simp [htopic, htopic ▸ hany]
  · simp [htopic]

/-- The rows of a batch carry pairwise distinct instruction topics exactly
when no instruction of the batch has two rows. -/
theorem pairwise_topic2_iff {ids : List Hash} :
    (orderLogs (repo.anyInstructionLogs eventHash ids)).Pairwise
        (fun row other => row.topic2 ≠ other.topic2) ↔
      ∀ id ∈ ids, (repo.instructionLogs eventHash id).length ≤ 1 := by
  rw [pairwise_ne_iff_fibre_le_one]
  have hfibre : ∀ value,
      ((orderLogs (repo.anyInstructionLogs eventHash ids)).filter
        (fun row => row.topic2 = value)).length =
      ((repo.anyInstructionLogs eventHash ids).filter
        (fun row => row.topic2 = value)).length := by
    intro value
    exact ((orderLogs_perm _).filter _).length_eq
  constructor
  · intro h id hid
    have hid' := h (removeHexPrefix id.hex)
    rwa [hfibre, filter_anyInstructionLogs hid] at hid'
  · intro h value
    rw [hfibre]
    by_cases hvalue : ∃ id ∈ ids, removeHexPrefix id.hex = value
    · obtain ⟨id, hid, rfl⟩ := hvalue
      rw [filter_anyInstructionLogs hid]
      exact h id hid
    · have hempty :
          (repo.anyInstructionLogs eventHash ids).filter
            (fun row => row.topic2 = value) = [] := by
        apply List.filter_eq_nil_iff.mpr
        intro row hrow htopic
        obtain ⟨id, hid, hmem⟩ := mem_anyInstructionLogs.mp hrow
        apply hvalue
        refine ⟨id, hid, ?_⟩
        rw [← topic2_of_mem_instructionLogs hmem]
        simpa using htopic
      simp [hempty]

/-- A row list of one instruction which a read can use: no row, or one row
which converts. -/
def Readable (repo : DBRepo) (eventHash : String) (id : Hash) : Prop :=
  repo.instructionLogs eventHash id = [] ∨
    ∃ row log, repo.instructionLogs eventHash id = [row] ∧
      repo.convertDatabaseLogToChainLog row = .ok log

theorem Readable.length_le_one (h : repo.Readable eventHash id) :
    (repo.instructionLogs eventHash id).length ≤ 1 := by
  rcases h with hnil | ⟨row, log, hsingle, -⟩
  · simp [hnil]
  · simp [hsingle]

theorem readable_of_length_le_one
    (hlength : (repo.instructionLogs eventHash id).length ≤ 1)
    (hconvert : ∀ row ∈ repo.instructionLogs eventHash id,
      ∃ log, repo.convertDatabaseLogToChainLog row = .ok log) :
    repo.Readable eventHash id := by
  rcases eq_nil_or_singleton hlength with hnil | ⟨row, hrow⟩
  · exact .inl hnil
  · obtain ⟨log, hlog⟩ := hconvert row (by simp [hrow])
    exact .inr ⟨row, log, hrow, hlog⟩

theorem mem_orderLogs {ids : List Hash} {row : DbLog} :
    row ∈ orderLogs (repo.anyInstructionLogs eventHash ids) ↔
      ∃ id ∈ ids, row ∈ repo.instructionLogs eventHash id := by
  rw [(orderLogs_perm _).mem_iff]
  exact mem_anyInstructionLogs

theorem fault_of_fetchInstructionLogs {ids : List Hash}
    {logs : AList fun _ : Hash => ChainLog} (hne : ids ≠ [])
    (hlogs : repo.fetchInstructionLogs fault eventHash ids = .ok logs) :
    fault = none := by
  cases fault with
  | none => rfl
  | some err => simp [fetchInstructionLogs, hne] at hlogs

theorem fileInstructionRow_of_readable
    (hkeep : KeepsInstructionTopic repo.convertDatabaseLogToChainLog)
    (hreadable : repo.Readable eventHash id) {row : DbLog}
    (hrow : row ∈ repo.instructionLogs eventHash id) :
    ∃ log, repo.fileInstructionRow row = .ok (some (id, log)) := by
  rcases hreadable with hnil | ⟨single, log, hsingle, hlog⟩
  · rw [hnil] at hrow
    simp at hrow
  · have hrowEq : row = single := by
      rw [hsingle] at hrow
      simpa using hrow
    subst row
    exact ⟨log, (fileInstructionRow_eq_ok_iff hkeep hrow).mpr
      ⟨log, hlog, rfl⟩⟩

theorem fileInstructionRow_ne_of_topic2
    (hkeep : KeepsInstructionTopic repo.convertDatabaseLogToChainLog)
    {ids : List Hash} {row other : DbLog}
    (hrow : row ∈ orderLogs (repo.anyInstructionLogs eventHash ids))
    (hother : other ∈ orderLogs (repo.anyInstructionLogs eventHash ids))
    (hne : row.topic2 ≠ other.topic2) (key : Hash) (value value' : ChainLog)
    (hfile : repo.fileInstructionRow row = .ok (some (key, value))) :
    repo.fileInstructionRow other ≠ .ok (some (key, value')) := by
  intro hfile'
  obtain ⟨id, -, hmem⟩ := mem_orderLogs.mp hrow
  obtain ⟨id', -, hmem'⟩ := mem_orderLogs.mp hother
  obtain ⟨log, -, hkey⟩ :=
    (fileInstructionRow_eq_ok_iff hkeep hmem).mp hfile
  obtain ⟨log', -, hkey'⟩ :=
    (fileInstructionRow_eq_ok_iff hkeep hmem').mp hfile'
  simp only [Option.some.injEq, Prod.mk.injEq] at hkey hkey'
  apply hne
  rw [topic2_of_mem_instructionLogs hmem,
    topic2_of_mem_instructionLogs hmem', ← hkey.1, ← hkey'.1]

/-- Rows which are filed without a clash carry distinct topics. -/
theorem readable_of_filed
    (hkeep : KeepsInstructionTopic repo.convertDatabaseLogToChainLog)
    {ids : List Hash}
    (hreads : ∀ row ∈ orderLogs (repo.anyInstructionLogs eventHash ids),
      ∃ entry, repo.fileInstructionRow row = .ok entry)
    (hdistinct : (orderLogs (repo.anyInstructionLogs eventHash ids)).Pairwise
      fun row other => ∀ key value value',
        repo.fileInstructionRow row = .ok (some (key, value)) →
          repo.fileInstructionRow other ≠ .ok (some (key, value'))) :
    ∀ id ∈ ids, repo.Readable eventHash id := by
  have hconvert : ∀ id ∈ ids, ∀ row ∈ repo.instructionLogs eventHash id,
      ∃ log, repo.convertDatabaseLogToChainLog row = .ok log ∧
        repo.fileInstructionRow row = .ok (some (id, log)) := by
    intro id hid row hrow
    obtain ⟨entry, hentry⟩ := hreads row (mem_orderLogs.mpr ⟨id, hid, hrow⟩)
    obtain ⟨log, hlog, hsome⟩ :=
      (fileInstructionRow_eq_ok_iff hkeep hrow).mp hentry
    exact ⟨log, hlog, by rw [hentry, hsome]⟩
  have htopics : (orderLogs (repo.anyInstructionLogs eventHash ids)).Pairwise
      (fun row other => row.topic2 ≠ other.topic2) := by
    apply List.Pairwise.imp_of_mem _ hdistinct
    intro row other hrow hother hclash htopic
    obtain ⟨id, hid, hmem⟩ := mem_orderLogs.mp hrow
    obtain ⟨id', hid', hmem'⟩ := mem_orderLogs.mp hother
    have hsame : id = id' := by
      apply removeHexPrefix_hex_injective
      rw [← topic2_of_mem_instructionLogs hmem, htopic,
        topic2_of_mem_instructionLogs hmem']
    subst id'
    obtain ⟨log, -, hfile⟩ := hconvert id hid row hmem
    obtain ⟨log', -, hfile'⟩ := hconvert id hid other hmem'
    exact hclash id log log' hfile hfile'
  intro id hid
  apply readable_of_length_le_one (pairwise_topic2_iff.mp htopics id hid)
  intro row hrow
  obtain ⟨log, hlog, -⟩ := hconvert id hid row hrow
  exact ⟨log, hlog⟩

/-- The batch read succeeds exactly when every instruction of the batch is
readable on its own. -/
theorem fetchInstructionLogs_succeeds_iff
    (hkeep : KeepsInstructionTopic repo.convertDatabaseLogToChainLog)
    {ids : List Hash} :
    (∃ logs, repo.fetchInstructionLogs none eventHash ids = .ok logs) ↔
      ∀ id ∈ ids, repo.Readable eventHash id := by
  cases ids with
  | nil => simp [fetchInstructionLogs]
  | cons first others =>
      simp only [fetchInstructionLogs, List.isEmpty_cons,
        Bool.false_eq_true, if_false]
      constructor
      · rintro ⟨logs, hlogs⟩
        exact readable_of_filed hkeep (indexUnique_reads hlogs)
          (indexUnique_distinct hlogs)
      · intro hreadable
        apply indexUnique_succeeds
        · intro row hrow
          obtain ⟨id, hid, hmem⟩ := mem_orderLogs.mp hrow
          obtain ⟨log, hfile⟩ :=
            fileInstructionRow_of_readable hkeep (hreadable id hid) hmem
          exact ⟨_, hfile⟩
        · intro row _ key value _
          simp
        · have htopics := pairwise_topic2_iff.mpr fun id hid =>
            (hreadable id hid).length_le_one
          apply List.Pairwise.imp_of_mem _ htopics
          intro row other hrow hother hne
          exact fileInstructionRow_ne_of_topic2 hkeep hrow hother hne

/-- The batch read holds for each of its instructions the log of that
instruction's only row. -/
theorem lookup_fetchInstructionLogs
    (hkeep : KeepsInstructionTopic repo.convertDatabaseLogToChainLog)
    {ids : List Hash} {logs : AList fun _ : Hash => ChainLog}
    (hlogs : repo.fetchInstructionLogs fault eventHash ids = .ok logs)
    (hid : id ∈ ids) (log : ChainLog) :
    logs.lookup id = some log ↔
      ∃ row, repo.instructionLogs eventHash id = [row] ∧
        repo.convertDatabaseLogToChainLog row = .ok log := by
  have hnonempty : ids.isEmpty = false := by
    cases ids with
    | nil => simp at hid
    | cons first others => rfl
  cases fault with
  | some err => simp [fetchInstructionLogs, hnonempty] at hlogs
  | none =>
      have hreadable :=
        (fetchInstructionLogs_succeeds_iff hkeep).mp ⟨logs, hlogs⟩ id hid
      simp only [fetchInstructionLogs, hnonempty, Bool.false_eq_true,
        if_false] at hlogs
      rw [lookup_indexUnique hlogs]
      simp only [AList.lookup_empty, reduceCtorEq, false_or]
      constructor
      · rintro ⟨row, hrow, hfile⟩
        obtain ⟨id', hid', hmem⟩ := mem_orderLogs.mp hrow
        obtain ⟨log', hconvert, hkey⟩ :=
          (fileInstructionRow_eq_ok_iff hkeep hmem).mp hfile
        simp only [Option.some.injEq, Prod.mk.injEq] at hkey
        obtain ⟨rfl, rfl⟩ := hkey
        refine ⟨row, ?_, hconvert⟩
        rcases hreadable with hnil | ⟨single, log', hsingle, -⟩
        · rw [hnil] at hmem
          simp at hmem
        · rw [hsingle] at hmem ⊢
          rw [List.mem_singleton.mp hmem]
      · rintro ⟨row, hsingle, hconvert⟩
        have hmem : row ∈ repo.instructionLogs eventHash id := by
          simp [hsingle]
        refine ⟨row, mem_orderLogs.mpr ⟨id, hid, hmem⟩, ?_⟩
        exact (fileInstructionRow_eq_ok_iff hkeep hmem).mpr
          ⟨log, hconvert, rfl⟩

theorem instructionLogs_eq_nil_of_lookup
    (hkeep : KeepsInstructionTopic repo.convertDatabaseLogToChainLog)
    {ids : List Hash} {logs : AList fun _ : Hash => ChainLog}
    (hlogs : repo.fetchInstructionLogs fault eventHash ids = .ok logs)
    (hid : id ∈ ids) (hlookup : logs.lookup id = none) :
    repo.instructionLogs eventHash id = [] := by
  have hfault := fault_of_fetchInstructionLogs (List.ne_nil_of_mem hid) hlogs
  subst hfault
  rcases (fetchInstructionLogs_succeeds_iff hkeep).mp ⟨logs, hlogs⟩ id hid
    with hnil | ⟨row, log, hrow, hlog⟩
  · exact hnil
  · rw [(lookup_fetchInstructionLogs hkeep hlogs hid log).mpr
      ⟨row, hrow, hlog⟩] at hlookup
    simp at hlookup

theorem fetchInstructionLogs_fails {ids : List Hash} :
    FailsWith IndexerFault
      (repo.fetchInstructionLogs fault eventHash ids) := by
  unfold fetchInstructionLogs
  refine FailsWith.of_ite (fun _ => .ok _) fun _ => ?_
  split
  next err => exact FailsWith.error (.wrapf2 _ .errDatabase (.external err))
  next =>
    apply indexUnique_fails
    · intro row
      unfold fileInstructionRow
      split
      next err _ => exact FailsWith.error (.wrapf _ (.external err))
      next => exact FailsWith.ok _
    · intro key
      exact .wrapf _ .errDatabase

theorem mem_anyTransactionRows
    {source : String} {nonces : List UInt64} {tx : DBTransaction} :
    tx ∈ repo.anyTransactionRows source nonces ↔
      ∃ nonce ∈ nonces, tx ∈ repo.transactionRows source nonce := by
  simp only [anyTransactionRows, transactionRows, List.mem_filter,
    decide_eq_true_eq]
  constructor
  · rintro ⟨hmem, hsource, hsequence⟩
    exact ⟨tx.sequence, hsequence, hmem, hsource, rfl⟩
  · rintro ⟨nonce, hnonce, hmem, hsource, hsequence⟩
    exact ⟨hmem, hsource, hsequence ▸ hnonce⟩

theorem mem_transactionRows
    {source : String} {nonce : UInt64} {tx : DBTransaction} :
    tx ∈ repo.transactionRows source nonce ↔
      tx ∈ repo.db ∧ tx.sourceAddress = source ∧ tx.sequence = nonce := by
  simp [transactionRows]

theorem filter_anyTransactionRows {source : String} {nonces : List UInt64}
    (nonce : UInt64) :
    (repo.anyTransactionRows source nonces).filter
        (fun tx => tx.sequence = nonce) =
      if nonce ∈ nonces then repo.transactionRows source nonce else [] := by
  unfold anyTransactionRows transactionRows
  rw [List.filter_filter]
  by_cases hnonce : nonce ∈ nonces
  · rw [if_pos hnonce]
    apply List.filter_congr
    intro tx _
    by_cases hsequence : tx.sequence = nonce
    · simp [hsequence, hnonce]
    · simp [hsequence]
  · rw [if_neg hnonce]
    apply List.filter_eq_nil_iff.mpr
    intro tx _ htx
    simp only [Bool.and_eq_true, decide_eq_true_eq] at htx
    exact hnonce (htx.1 ▸ htx.2.2)

/-- The rows of a batch carry pairwise distinct sequences exactly when no
sequence of the batch has two rows. -/
theorem pairwise_sequence_iff {source : String} {nonces : List UInt64} :
    (repo.anyTransactionRows source nonces).Pairwise
        (fun tx other => tx.sequence ≠ other.sequence) ↔
      ∀ nonce ∈ nonces, (repo.transactionRows source nonce).length ≤ 1 := by
  rw [pairwise_ne_iff_fibre_le_one]
  constructor
  · intro h nonce hnonce
    have hlength := h nonce
    rwa [filter_anyTransactionRows, if_pos hnonce] at hlength
  · intro h nonce
    rw [filter_anyTransactionRows]
    by_cases hnonce : nonce ∈ nonces
    · rw [if_pos hnonce]
      exact h nonce hnonce
    · simp [hnonce]

theorem fault_of_fetchTransactions {source : String} {nonces : List UInt64}
    {txs : AList fun _ : UInt64 => DBTransaction} (hne : nonces ≠ [])
    (htxs : repo.fetchTransactionsBySourceAndSequences fault source nonces =
      .ok txs) :
    fault = none := by
  cases fault with
  | none => rfl
  | some err => simp [fetchTransactionsBySourceAndSequences, hne] at htxs

/-- The batch read of transactions succeeds exactly when no sequence of the
batch has two rows. -/
theorem fetchTransactions_succeeds_iff
    {source : String} {nonces : List UInt64} :
    (∃ txs, repo.fetchTransactionsBySourceAndSequences
        none source nonces = .ok txs) ↔
      ∀ nonce ∈ nonces, (repo.transactionRows source nonce).length ≤ 1 := by
  cases nonces with
  | nil => simp [fetchTransactionsBySourceAndSequences]
  | cons first others =>
      rw [← pairwise_sequence_iff]
      simp only [fetchTransactionsBySourceAndSequences, List.isEmpty_cons,
        Bool.false_eq_true, if_false]
      constructor
      · rintro ⟨txs, htxs⟩
        apply List.Pairwise.imp _ (indexUnique_distinct htxs)
        intro tx other hclash heq
        exact hclash tx.sequence tx other rfl (by
          simp [fileTransaction, heq])
      · intro hdistinct
        apply indexUnique_succeeds
        · intro tx _
          exact ⟨_, rfl⟩
        · intro tx _ key value _
          simp
        · apply List.Pairwise.imp _ hdistinct
          intro tx other hne key value value' hfile hfile'
          simp only [fileTransaction, Except.ok.injEq, Option.some.injEq,
            Prod.mk.injEq] at hfile hfile'
          exact hne (hfile.1.trans hfile'.1.symm)

theorem fetchTransactions_fails {source : String} {nonces : List UInt64} :
    FailsWith IndexerFault
      (repo.fetchTransactionsBySourceAndSequences fault source nonces) := by
  unfold fetchTransactionsBySourceAndSequences
  refine FailsWith.of_ite (fun _ => .ok _) fun _ => ?_
  split
  next err => exact FailsWith.error (.wrapf2 _ .errDatabase (.external err))
  next =>
    apply indexUnique_fails
    · intro tx
      exact FailsWith.ok _
    · intro key
      exact .wrapf _ .errDatabase

theorem lookup_fetchTransactions
    {source : String} {nonces : List UInt64}
    {txs : AList fun _ : UInt64 => DBTransaction}
    (htxs : repo.fetchTransactionsBySourceAndSequences
      fault source nonces = .ok txs)
    {nonce : UInt64} (hnonce : nonce ∈ nonces) (tx : DBTransaction) :
    txs.lookup nonce = some tx ↔
      repo.transactionRows source nonce = [tx] := by
  have hnonempty : nonces.isEmpty = false := by
    cases nonces with
    | nil => simp at hnonce
    | cons first others => rfl
  cases fault with
  | some err =>
      simp [fetchTransactionsBySourceAndSequences, hnonempty] at htxs
  | none =>
      have hlength :=
        fetchTransactions_succeeds_iff.mp ⟨txs, htxs⟩ nonce hnonce
      simp only [fetchTransactionsBySourceAndSequences, hnonempty,
        Bool.false_eq_true, if_false] at htxs
      rw [lookup_indexUnique htxs]
      simp only [AList.lookup_empty, reduceCtorEq, false_or,
        fileTransaction, Except.ok.injEq, Option.some.injEq, Prod.mk.injEq]
      constructor
      · rintro ⟨row, hrow, hsequence, rfl⟩
        obtain ⟨other, -, hmem⟩ := mem_anyTransactionRows.mp hrow
        have hother := (mem_transactionRows.mp hmem).2.2
        have hrowMem : row ∈ repo.transactionRows source nonce := by
          rw [← hsequence, hother]
          exact hmem
        rcases eq_nil_or_singleton hlength with hnil | ⟨single, hsingle⟩
        · simp [hnil] at hrowMem
        · rw [hsingle] at hrowMem
          rw [hsingle, List.mem_singleton.mp hrowMem]
      · intro hsingle
        have hmem : tx ∈ repo.transactionRows source nonce := by
          simp [hsingle]
        exact ⟨tx, mem_anyTransactionRows.mpr ⟨nonce, hnonce, hmem⟩,
          (mem_transactionRows.mp hmem).2.2, rfl⟩

theorem transactionRows_eq_nil_of_lookup
    {source : String} {nonces : List UInt64}
    {txs : AList fun _ : UInt64 => DBTransaction}
    (htxs : repo.fetchTransactionsBySourceAndSequences
      fault source nonces = .ok txs)
    {nonce : UInt64} (hnonce : nonce ∈ nonces)
    (hlookup : txs.lookup nonce = none) :
    repo.transactionRows source nonce = [] := by
  have hfault := fault_of_fetchTransactions (List.ne_nil_of_mem hnonce) htxs
  subst hfault
  have hlength := fetchTransactions_succeeds_iff.mp ⟨txs, htxs⟩ nonce hnonce
  rcases eq_nil_or_singleton hlength with hnil | ⟨tx, hsingle⟩
  · exact hnil
  · rw [(lookup_fetchTransactions htxs hnonce tx).mpr hsingle] at hlookup
    simp at hlookup

end DBRepo

end VerifierApi

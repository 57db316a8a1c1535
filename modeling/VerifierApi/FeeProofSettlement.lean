import VerifierApi.FeeProofVerifier
import VerifierApi.PairedLists

/-!
# What a fee-proof run computes

A run of the fee-proof verifier treats its payments independently: it
succeeds exactly when every payment of the batch has a bound event with a
complete reissue scan and a bound transaction row.  The batch queries are
invisible in this description.
-/

namespace VerifierApi

namespace FeeProof

/-! ## Batch range -/

namespace RequestBody

variable {req : RequestBody}

/-- The range of the batch in exact arithmetic, with the default cap. -/
structure ValidRange (req : RequestBody) : Prop where
  positive : 1 ≤ req.batchCount.toNat
  cap : req.batchCount.toNat ≤ 200
  bound : req.firstPaymentId.toNat + req.batchCount.toNat ≤ 2 ^ 64

theorem ValidRange.toNat_paymentId (hrange : req.ValidRange) {i : ℕ}
    (hi : i < req.batchCount.toNat) :
    (req.firstPaymentId + UInt64.ofNat i).toNat =
      req.firstPaymentId.toNat + i := by
  have hbound := hrange.bound
  rw [UInt64.toNat_add, UInt64.toNat_ofNat']
  omega

theorem ValidRange.mem_paymentIDs (hrange : req.ValidRange) {p : UInt64} :
    p ∈ req.paymentIDs ↔
      req.firstPaymentId.toNat ≤ p.toNat ∧
        p.toNat < req.firstPaymentId.toNat + req.batchCount.toNat := by
  unfold paymentIDs
  rw [List.mem_map]
  constructor
  · rintro ⟨i, hi, rfl⟩
    have hlt := List.mem_range.mp hi
    rw [hrange.toNat_paymentId hlt]
    omega
  · rintro ⟨hlow, hhigh⟩
    have hlt : p.toNat - req.firstPaymentId.toNat < req.batchCount.toNat := by
      omega
    refine ⟨p.toNat - req.firstPaymentId.toNat, List.mem_range.mpr hlt, ?_⟩
    apply UInt64.toNat_inj.mp
    rw [hrange.toNat_paymentId hlt]
    omega

theorem ValidRange.map_toNat_paymentIDs (hrange : req.ValidRange) :
    req.paymentIDs.map UInt64.toNat =
      (List.range req.batchCount.toNat).map
        (req.firstPaymentId.toNat + ·) := by
  unfold paymentIDs
  rw [List.map_map, List.map_inj_left]
  intro i hi
  exact hrange.toNat_paymentId (List.mem_range.mp hi)

/-- The sum before the subtraction may wrap; the result does not. -/
theorem ValidRange.toNat_lastPaymentId (hrange : req.ValidRange) :
    (req.firstPaymentId + req.batchCount - 1).toNat =
      req.firstPaymentId.toNat + req.batchCount.toNat - 1 := by
  have hpositive := hrange.positive
  have hbound := hrange.bound
  rw [UInt64.toNat_sub, UInt64.toNat_add]
  simp only [UInt64.toNat_one]
  omega

theorem ValidRange.lastPaymentId_mem (hrange : req.ValidRange) :
    req.firstPaymentId + req.batchCount - 1 ∈ req.paymentIDs := by
  have hpositive := hrange.positive
  rw [hrange.mem_paymentIDs, hrange.toNat_lastPaymentId]
  omega

theorem ValidRange.le_lastPaymentId (hrange : req.ValidRange) {p : UInt64}
    (hp : p ∈ req.paymentIDs) :
    p ≤ req.firstPaymentId + req.batchCount - 1 := by
  have hmem := hrange.mem_paymentIDs.mp hp
  rw [UInt64.le_iff_toNat_le, hrange.toNat_lastPaymentId]
  omega

theorem ValidRange.nodup_paymentIDs (hrange : req.ValidRange) :
    req.paymentIDs.Nodup := by
  unfold paymentIDs
  refine List.Nodup.map_on ?_ List.nodup_range
  intro i hi j hj hij
  have hnat := congrArg UInt64.toNat hij
  rw [hrange.toNat_paymentId (List.mem_range.mp hi),
    hrange.toNat_paymentId (List.mem_range.mp hj)] at hnat
  omega

theorem length_paymentIDs : req.paymentIDs.length = req.batchCount.toNat := by
  simp [paymentIDs]

end RequestBody

namespace XRPVerifier

theorem validateBatchRange_eq_ok_iff {source : PmwSource}
    {req : RequestBody} {u : Unit} :
    (newXRPVerifier source).validateBatchRange req = .ok u ↔
      req.ValidRange := by
  have hcap : (req.batchCount ≤ FeeProof.maxBatchRange) ↔
      req.batchCount.toNat ≤ 200 := by
    rw [UInt64.le_iff_toNat_le]
    rfl
  simp only [validateBatchRange, newXRPVerifier, if_true, bind_eq_ok,
    ensure_eq_ok, exists_const, hcap]
  constructor
  · rintro ⟨hpositive, hcap, hbound⟩
    exact ⟨one_le_toNat_iff.mpr hpositive, hcap,
      (le_maxUint64_sub_iff hpositive).mp hbound⟩
  · rintro ⟨hpositive, hcap, hbound⟩
    have hne := one_le_toNat_iff.mp hpositive
    exact ⟨hne, hcap, (le_maxUint64_sub_iff hne).mpr hbound⟩

theorem validateBatchRange_fails (x : XRPVerifier) (req : RequestBody) :
    FailsWith (fun err => err.sentinels = [.batchRangeTooLarge])
      (x.validateBatchRange req) := by
  unfold validateBatchRange
  have hsentinels : ∀ text, (ErrorValue.wrapf text
      errBatchRangeTooLarge).sentinels = [.batchRangeTooLarge] := by
    simp [errBatchRangeTooLarge]
  refine FailsWith.ensure_bind (hsentinels _) fun _ => ?_
  refine FailsWith.ensure_bind (hsentinels _) fun _ => ?_
  exact FailsWith.ensure (hsentinels _)

end XRPVerifier

/-! ## Reissues -/

namespace XRPVerifier

variable {x : XRPVerifier} {reads : Reads} {req : RequestBody}
  {eventHash : String} {paymentId : UInt64}

/-- The reissue with the given number exists and lies in the window. -/
def ReissueInWindow (x : XRPVerifier) (req : RequestBody)
    (eventHash : String) (paymentId reissueNum : UInt64) : Prop :=
  ∃ id row, x.reissueInstructionID req paymentId reissueNum = .ok id ∧
    x.repo.instructionLogs eventHash id = [row] ∧
    row.timestamp ≤ req.untilTimestamp

theorem reissueInstructionID_total (x : XRPVerifier) (req : RequestBody)
    (paymentId reissueNum : UInt64) :
    ∃ id, x.reissueInstructionID req paymentId reissueNum = .ok id := by
  unfold reissueInstructionID generateReissueInstructionID
  exact generateInstructionIDFor_total _ _ _ _ _ _ _

theorem fetchReissue_eq_some_iff {cannotFetch : String}
    {reissueNum : UInt64} {log : ChainLog} :
    x.fetchReissue reads req eventHash paymentId cannotFetch reissueNum =
        .ok (some log) ↔
      reads.reissueFault paymentId reissueNum = none ∧
      ∃ id, x.reissueInstructionID req paymentId reissueNum = .ok id ∧
        ∃ row, x.repo.instructionLogs eventHash id = [row] ∧
          x.repo.convertDatabaseLogToChainLog row = .ok log ∧
          row.timestamp ≤ req.untilTimestamp := by
  obtain ⟨id, hid⟩ := x.reissueInstructionID_total req paymentId reissueNum
  simp only [fetchReissue, bind_eq_ok, mapError_eq_ok, hid,
    Except.ok.injEq, exists_eq_left']
  constructor
  · intro h
    split at h
    next => split at h <;> simp at h
    next result hresult =>
      split at h
      next => simp at h
      next htime =>
        simp only [Except.ok.injEq, Option.some.injEq] at h
        obtain ⟨hfault, row, hrow, hconvert, htimestamp⟩ :=
          DBRepo.fetchInstructionLogResult_eq_ok_iff.mp hresult
        refine ⟨hfault, row, hrow, h ▸ hconvert, ?_⟩
        rw [htimestamp]
        exact UInt64.not_lt.mp htime
  · rintro ⟨hfault, row, hrow, hconvert, htime⟩
    have hresult : x.repo.fetchInstructionLogResult
        (reads.reissueFault paymentId reissueNum) eventHash id =
          .ok ⟨log, row.timestamp⟩ :=
      DBRepo.fetchInstructionLogResult_eq_ok_iff.mpr
        ⟨hfault, row, hrow, hconvert, rfl⟩
    rw [hresult]
    simp only [gt_iff_lt, UInt64.not_lt.mpr htime, if_false]

/-- No reissue is fetched when there is no row, or when the only row lies
after the window. -/
theorem fetchReissue_eq_none_iff {cannotFetch : String}
    {reissueNum : UInt64} :
    x.fetchReissue reads req eventHash paymentId cannotFetch reissueNum =
        .ok none ↔
      reads.reissueFault paymentId reissueNum = none ∧
      ∃ id, x.reissueInstructionID req paymentId reissueNum = .ok id ∧
        (x.repo.instructionLogs eventHash id = [] ∨
          ∃ row log, x.repo.instructionLogs eventHash id = [row] ∧
            x.repo.convertDatabaseLogToChainLog row = .ok log ∧
            req.untilTimestamp < row.timestamp) := by
  obtain ⟨id, hid⟩ := x.reissueInstructionID_total req paymentId reissueNum
  simp only [fetchReissue, bind_eq_ok, mapError_eq_ok, hid,
    Except.ok.injEq, exists_eq_left']
  constructor
  · intro h
    split at h
    next err herr =>
      split at h
      next hmissing =>
        obtain ⟨hfault, hnil⟩ :=
          (DBRepo.fetchInstructionLogResult_missing_iff herr).mp hmissing
        exact ⟨hfault, .inl hnil⟩
      next => simp at h
    next result hresult =>
      split at h
      next htime =>
        obtain ⟨hfault, row, hrow, hconvert, htimestamp⟩ :=
          DBRepo.fetchInstructionLogResult_eq_ok_iff.mp hresult
        exact ⟨hfault, .inr ⟨row, result.log, hrow, hconvert,
          htimestamp ▸ htime⟩⟩
      next => simp at h
  · rintro ⟨hfault, hnil | ⟨row, log, hrow, hconvert, htime⟩⟩
    · obtain ⟨err, herr⟩ :=
        DBRepo.fetchInstructionLogResult_of_nil hnil
      have hmissing := (DBRepo.fetchInstructionLogResult_missing_iff herr).mpr
        ⟨hfault, hnil⟩
      rw [herr]
      simp only [hmissing, if_true]
    · have hresult : x.repo.fetchInstructionLogResult
          (reads.reissueFault paymentId reissueNum) eventHash id =
            .ok ⟨log, row.timestamp⟩ :=
        DBRepo.fetchInstructionLogResult_eq_ok_iff.mpr
          ⟨hfault, row, hrow, hconvert, rfl⟩
      rw [hresult]
      simp only [gt_iff_lt, htime, if_true]

theorem fetchReissue_inWindow {cannotFetch : String} {reissueNum : UInt64}
    {log : ChainLog}
    (h : x.fetchReissue reads req eventHash paymentId cannotFetch
      reissueNum = .ok (some log)) :
    x.ReissueInWindow req eventHash paymentId reissueNum := by
  obtain ⟨-, id, hid, row, hrow, -, htime⟩ := fetchReissue_eq_some_iff.mp h
  exact ⟨id, row, hid, hrow, htime⟩

theorem fetchReissue_not_inWindow {cannotFetch : String}
    {reissueNum : UInt64}
    (h : x.fetchReissue reads req eventHash paymentId cannotFetch
      reissueNum = .ok none) :
    ¬ x.ReissueInWindow req eventHash paymentId reissueNum := by
  obtain ⟨-, id, hid, hrows⟩ := fetchReissue_eq_none_iff.mp h
  rintro ⟨id', row, hid', hrow, hwindow⟩
  obtain rfl : id = id' := by simpa [hid] using hid'
  rcases hrows with hnil | ⟨row', log, hrow', -, htime⟩
  · simp [hnil] at hrow
  · obtain rfl : row = row' := by simpa [hrow] using hrow'
    exact absurd htime (UInt64.not_lt.mpr hwindow)

theorem fetchReissue_fails (cannotFetch : String) (reissueNum : UInt64) :
    FailsWith IndexerFault
      (x.fetchReissue reads req eventHash paymentId cannotFetch
        reissueNum) := by
  unfold fetchReissue
  refine FailsWith.bind ?_ fun id _ => ?_
  · exact .mapError_of_total (x.reissueInstructionID_total _ _ _)
  split
  next err herr =>
    refine FailsWith.of_ite (fun _ => .ok _) fun hfound => .error ?_
    rcases DBRepo.fetchInstructionLogResult_fails err herr with
      ⟨hmissing, -⟩ | hfault
    · exact absurd (by rw [has_eq, hmissing]; rfl) hfound
    · exact .wrapf _ hfault
  next => exact FailsWith.of_ite (fun _ => .ok _) (fun _ => .ok _)

theorem reissueMaxFee_fails (reissueNum : UInt64) :
    FailsWith IndexerFault
      (x.reissueMaxFee reads req eventHash paymentId reissueNum) := by
  unfold reissueMaxFee
  refine FailsWith.bind (fetchReissue_fails _ _) fun log _ => ?_
  split
  next => exact FailsWith.ok _
  next log =>
    refine FailsWith.bind ?_ fun message _ => ?_
    · exact (decodeTeeInstructionsSentEventData_fails _ _ _ _).mapError
        fun _ h => .wrapf _ h
    refine FailsWith.bind ?_ fun _ _ => ?_
    · exact (checkInstructionConsistency_fails _ _ _ _).mapError
        fun _ h => .wrapf _ h
    exact FailsWith.ensure_bind (.wrapf _ .errDatabase) fun _ => .ok _

/-- The scan ends where no reissue is fetched. -/
theorem reissueMaxFee_eq_none_iff (cannotFetch : String)
    {reissueNum : UInt64} :
    x.reissueMaxFee reads req eventHash paymentId reissueNum = .ok none ↔
      x.fetchReissue reads req eventHash paymentId cannotFetch reissueNum =
        .ok none := by
  constructor
  · intro h
    unfold reissueMaxFee at h
    obtain ⟨log, hlog, h⟩ := bind_eq_ok.mp h
    cases log with
    | none =>
        exact fetchReissue_eq_none_iff.mpr (fetchReissue_eq_none_iff.mp hlog)
    | some log =>
        obtain ⟨message, -, h⟩ := bind_eq_ok.mp h
        obtain ⟨_, -, h⟩ := bind_eq_ok.mp h
        obtain ⟨hbound, hfee⟩ := ensure_bind_eq_ok.mp h
        obtain ⟨n, hn, -, -⟩ := (exceedsMaxXRPDrops_eq_false_iff _).mp hbound
        simp [hn] at hfee
  · intro h
    have hnone := fetchReissue_eq_none_iff.mp h
    exact bind_eq_ok.mpr ⟨none, fetchReissue_eq_none_iff.mpr hnone, rfl⟩

/-- What the decoded event of a reissue has to satisfy. -/
structure CountsFor (x : XRPVerifier) (req : RequestBody)
    (paymentId : UInt64) (log : ChainLog) (maxFee : Int) : Prop where
  decodes : ∃ message,
    decodeTeeInstructionsSentEventData log x.parsedTeeInstructionsABI
      .reissue req.opType = .ok message ∧
    checkInstructionConsistency message x.sourceIDEncoded req.senderAddress
      paymentId = .ok () ∧
    message.maxFee = some maxFee
  nonneg : 0 ≤ maxFee
  le_supply : maxFee ≤ (maxXRPDrops : Int)

/-- A reissue is counted when it is fetched and its event is bound to the
payment. -/
theorem reissueMaxFee_eq_some_iff (cannotFetch : String)
    {reissueNum : UInt64} {maxFee : Int} :
    x.reissueMaxFee reads req eventHash paymentId reissueNum =
        .ok (some maxFee) ↔
      ∃ log, x.fetchReissue reads req eventHash paymentId cannotFetch
          reissueNum = .ok (some log) ∧
        x.CountsFor req paymentId log maxFee := by
  constructor
  · intro h
    unfold reissueMaxFee at h
    obtain ⟨log, hlog, h⟩ := bind_eq_ok.mp h
    cases log with
    | none => simp at h
    | some log =>
        have hfetch := fetchReissue_eq_some_iff.mp hlog
        obtain ⟨message, hdecodes, h⟩ := bind_eq_ok.mp h
        obtain ⟨_, hconsistent, h⟩ := bind_eq_ok.mp h
        obtain ⟨hbound, hfee⟩ := ensure_bind_eq_ok.mp h
        simp only [Except.ok.injEq] at hfee
        rw [hfee, exceedsMaxXRPDrops_eq_false_iff] at hbound
        obtain ⟨n, hn, hnonneg, hmax⟩ := hbound
        obtain rfl : maxFee = n := by simpa using hn
        exact ⟨log, fetchReissue_eq_some_iff.mpr hfetch,
          ⟨message, mapError_eq_ok.mp hdecodes,
            mapError_eq_ok.mp hconsistent, hfee⟩, hnonneg, hmax⟩
  · rintro ⟨log, hlog, ⟨message, hdecodes, hconsistent, hfee⟩, hnonneg,
      hmax⟩
    have hfetch := fetchReissue_eq_some_iff.mp hlog
    have hbound : exceedsMaxXRPDrops message.maxFee = false := by
      rw [hfee, exceedsMaxXRPDrops_eq_false_iff]
      exact ⟨maxFee, rfl, hnonneg, hmax⟩
    refine bind_eq_ok.mpr
      ⟨some log, fetchReissue_eq_some_iff.mpr hfetch, ?_⟩
    refine bind_eq_ok.mpr ⟨message, mapError_eq_ok.mpr hdecodes, ?_⟩
    refine bind_eq_ok.mpr ⟨(), mapError_eq_ok.mpr hconsistent, ?_⟩
    exact ensure_bind_eq_ok.mpr ⟨hbound, congrArg Except.ok hfee⟩

theorem reissueMaxFee_eq_some {reissueNum : UInt64} {maxFee : Int}
    (h : x.reissueMaxFee reads req eventHash paymentId reissueNum =
      .ok (some maxFee)) :
    x.ReissueInWindow req eventHash paymentId reissueNum ∧
      0 ≤ maxFee ∧ maxFee ≤ (maxXRPDrops : Int) := by
  obtain ⟨log, hlog, hcounts⟩ := (reissueMaxFee_eq_some_iff "").mp h
  exact ⟨fetchReissue_inWindow hlog, hcounts.nonneg, hcounts.le_supply⟩

theorem scanReissues_fails (remaining : ℕ) (reissueNum : UInt64) :
    FailsWith IndexerFault
      (x.scanReissues reads req eventHash paymentId remaining
        reissueNum) := by
  induction remaining generalizing reissueNum with
  | zero => exact FailsWith.ok _
  | succ remaining ih =>
      unfold scanReissues
      refine FailsWith.bind (reissueMaxFee_fails _) fun fee _ => ?_
      split
      next => exact FailsWith.ok _
      next maxFee =>
        exact FailsWith.bind (ih _) fun result _ => .ok _

theorem succ_add_ofNat (n : UInt64) (i : ℕ) :
    n + 1 + UInt64.ofNat i = n + UInt64.ofNat (i + 1) := by
  rw [UInt64.ofNat_add, UInt64.add_assoc, UInt64.add_comm 1]
  rfl

/-- What the scan has established when it stops. -/
structure Scanned (x : XRPVerifier) (req : RequestBody)
    (eventHash : String) (paymentId : UInt64) (remaining : ℕ)
    (reissueNum : UInt64) (fees : List Int) (terminatedEarly : Bool) :
    Prop where
  length_le : fees.length ≤ remaining
  complete : terminatedEarly = false → fees.length = remaining
  inWindow : ∀ i < fees.length,
    x.ReissueInWindow req eventHash paymentId
      (reissueNum + UInt64.ofNat i)
  bounded : ∀ fee ∈ fees, 0 ≤ fee ∧ fee ≤ (maxXRPDrops : Int)

theorem scanReissues_scanned {remaining : ℕ} {reissueNum : UInt64}
    {fees : List Int} {terminatedEarly : Bool}
    (h : x.scanReissues reads req eventHash paymentId remaining reissueNum =
      .ok (fees, terminatedEarly)) :
    x.Scanned req eventHash paymentId remaining reissueNum fees
      terminatedEarly := by
  induction remaining generalizing reissueNum fees with
  | zero =>
      simp only [scanReissues, Except.ok.injEq, Prod.mk.injEq] at h
      obtain ⟨rfl, rfl⟩ := h
      exact ⟨le_refl _, fun _ => rfl, by simp, by simp⟩
  | succ remaining ih =>
      unfold scanReissues at h
      obtain ⟨fee, hfee, h⟩ := bind_eq_ok.mp h
      split at h
      next =>
        simp only [Except.ok.injEq, Prod.mk.injEq] at h
        obtain ⟨rfl, rfl⟩ := h
        exact ⟨by simp, by simp, by simp, by simp⟩
      next maxFee =>
        obtain ⟨⟨rest, early⟩, hrest, h⟩ := bind_eq_ok.mp h
        simp only [Except.ok.injEq, Prod.mk.injEq] at h
        obtain ⟨rfl, rfl⟩ := h
        have hscanned := ih hrest
        obtain ⟨hwindow, hbound⟩ := reissueMaxFee_eq_some hfee
        refine ⟨?_, ?_, ?_, ?_⟩
        · have := hscanned.length_le
          simpa using this
        · intro hearly
          simpa using hscanned.complete hearly
        · intro i hi
          cases i with
          | zero => simpa using hwindow
          | succ i =>
              have hnext := hscanned.inWindow i (by simpa using hi)
              rwa [succ_add_ofNat] at hnext
        · intro other hother
          rcases List.mem_cons.mp hother with rfl | htail
          · exact hbound
          · exact hscanned.bounded other htail

/-- More reissues in the window than the cap allows. -/
def ReissuesExceedCap (x : XRPVerifier) (req : RequestBody)
    (eventHash : String) (paymentId : UInt64) : Prop :=
  ∀ i ≤ maxReissuesPerPayment.toNat,
    x.ReissueInWindow req eventHash paymentId (1 + UInt64.ofNat i)

theorem countReissues_fails :
    FailsWith (fun err => (err.sentinels = [.reissueLimitExceeded] ∧
        x.ReissuesExceedCap req eventHash paymentId) ∨ IndexerFault err)
      (x.countReissues reads req eventHash paymentId) := by
  unfold countReissues
  refine FailsWith.bind ?_ fun ⟨fees, early⟩ hscan => ?_
  · exact (scanReissues_fails _ _).mono fun _ h => .inr h
  refine FailsWith.of_ite (fun _ => .ok _) fun hearly => ?_
  refine FailsWith.bind ?_ fun _ _ => .ok _
  unfold probeReissueCap
  refine FailsWith.bind ?_ fun next hnext => ?_
  · exact (fetchReissue_fails _ _).mono fun _ h => .inr h
  intro err herr
  obtain ⟨hsome, rfl⟩ := ensure_eq_error.mp herr
  obtain ⟨log, rfl⟩ := Option.ne_none_iff_exists'.mp hsome
  refine .inl ⟨by simp [errReissueLimitExceeded], ?_⟩
  have hscanned := scanReissues_scanned hscan
  intro i hi
  by_cases hlast : i = maxReissuesPerPayment.toNat
  · subst i
    exact fetchReissue_inWindow hnext
  · apply hscanned.inWindow
    rw [hscanned.complete (by simpa using hearly)]
    omega

theorem countReissues_bounded {reissues : List Int}
    (h : x.countReissues reads req eventHash paymentId = .ok reissues) :
    reissues.length ≤ 32 ∧
      ∀ fee ∈ reissues, 0 ≤ fee ∧ fee ≤ (maxXRPDrops : Int) := by
  unfold countReissues at h
  obtain ⟨⟨fees, early⟩, hscan, h⟩ := bind_eq_ok.mp h
  have hscanned := scanReissues_scanned hscan
  have hfees : fees = reissues := by
    simp only at h
    split at h
    next => simpa using h
    next =>
      obtain ⟨_, -, h⟩ := bind_eq_ok.mp h
      simpa using h
  subst fees
  exact ⟨hscanned.length_le, hscanned.bounded⟩

/-! ## Payments of a batch -/

/-- The event side of a payment: its bound event, and the estimate which
the event and the counted reissues give. -/
structure Estimates (x : XRPVerifier) (reads : Reads) (req : RequestBody)
    (paymentId : UInt64) (estimate : PaymentEstimate)
    (event : x.PayEvent req.opType req.senderAddress paymentId) :
    Prop where
  paymentId_eq : estimate.paymentId = paymentId
  sequence_eq : estimate.sequence = event.message.nonce
  assigned : ∃ initial, reads.initialNonce paymentId = .ok initial ∧
    AssignedSequence initial paymentId estimate.sequence
  estimate_eq : ∃ maxFee reissues,
    event.message.maxFee = some maxFee ∧
    0 ≤ maxFee ∧ maxFee ≤ (maxXRPDrops : Int) ∧
    x.countReissues reads req event.eventHash paymentId = .ok reissues ∧
    estimate.estimatedFee = maxFee + residuals maxFee reissues

/-- The ledger side of a payment: the only row under its sequence, and the
fee of that row. -/
structure Pays (x : XRPVerifier) (req : RequestBody) (sequence : UInt64)
    (row : FeeRow) : Prop where
  onlyRow : x.repo.transactionRows req.senderAddress sequence = [row.tx]
  consistent : checkTxRowConsistency x.library row.tx = .ok ()
  fee : parseTxFee x.library row.tx.response = .ok row.fee

theorem estimatePayment_eq_ok_iff
    {payLogs : AList fun _ : Hash => ChainLog} {payID : Hash}
    {estimate : PaymentEstimate} :
    x.estimatePayment reads req eventHash payLogs paymentId payID =
        .ok estimate ↔
      ∃ log message, payLogs.lookup payID = some log ∧
        decodeTeeInstructionsSentEventData log x.parsedTeeInstructionsABI
          .pay req.opType = .ok message ∧
        checkInstructionConsistency message x.sourceIDEncoded
          req.senderAddress paymentId = .ok () ∧
        (∃ initial, reads.initialNonce paymentId = .ok initial ∧
          AssignedSequence initial paymentId message.nonce) ∧
        ∃ maxFee reissues, message.maxFee = some maxFee ∧
          0 ≤ maxFee ∧ maxFee ≤ (maxXRPDrops : Int) ∧
          x.countReissues reads req eventHash paymentId = .ok reissues ∧
          estimate = ⟨paymentId, message.nonce,
            maxFee + residuals maxFee reissues⟩ := by
  simp only [estimatePayment, bind_eq_ok, require_eq_ok, mapError_eq_ok,
    ensure_eq_ok, verifySequence_eq_ok_iff, exists_unit, Except.ok.injEq]
  simp only [exceedsMaxXRPDrops_eq_false_iff]
  constructor
  · rintro ⟨log, hlog, message, hmessage, hconsistent, hassigned,
      ⟨maxFee, hmaxFee, hnonneg, hbound⟩, reissues, hreissues, rfl⟩
    refine ⟨log, message, hlog, hmessage, hconsistent, hassigned, maxFee,
      reissues, hmaxFee, hnonneg, hbound, hreissues, ?_⟩
    rw [hmaxFee]
    rfl
  · rintro ⟨log, message, hlog, hmessage, hconsistent, hassigned, maxFee,
      reissues, hmaxFee, hnonneg, hbound, hreissues, rfl⟩
    refine ⟨log, hlog, message, hmessage, hconsistent, hassigned,
      ⟨maxFee, hmaxFee, hnonneg, hbound⟩, reissues, hreissues, ?_⟩
    rw [hmaxFee]
    rfl

/-- With a sound pay event only the scan of the reissues can fail. -/
theorem estimatePayment_eq_bind
    {payLogs : AList fun _ : Hash => ChainLog} {payID : Hash}
    {log : ChainLog} {message : PaymentInstructionMessage} {payMaxFee : Int}
    (hlog : payLogs.lookup payID = some log)
    (hdecodes : decodeTeeInstructionsSentEventData log
      x.parsedTeeInstructionsABI .pay req.opType = .ok message)
    (hconsistent : checkInstructionConsistency message x.sourceIDEncoded
      req.senderAddress paymentId = .ok ())
    (hassigned : ∃ initial, reads.initialNonce paymentId = .ok initial ∧
      AssignedSequence initial paymentId message.nonce)
    (hfee : message.maxFee = some payMaxFee) (hnonneg : 0 ≤ payMaxFee)
    (hsupply : payMaxFee ≤ (maxXRPDrops : Int)) :
    x.estimatePayment reads req eventHash payLogs paymentId payID =
      x.countReissues reads req eventHash paymentId >>= fun reissues =>
        .ok ⟨paymentId, message.nonce,
          payMaxFee + residuals payMaxFee reissues⟩ := by
  have hsequence : verifySequence (reads.initialNonce paymentId)
      req.senderAddress paymentId message.nonce = .ok () :=
    verifySequence_eq_ok_iff.mpr hassigned
  have hbound : exceedsMaxXRPDrops (some payMaxFee) = false :=
    (exceedsMaxXRPDrops_eq_false_iff _).mpr
      ⟨payMaxFee, rfl, hnonneg, hsupply⟩
  unfold estimatePayment
  rw [hlog]
  simp only [require, bind, Except.bind, Except.mapError, hdecodes,
    hconsistent, hsequence, ensure, hfee, hbound, if_true, Option.getD_some]

theorem paymentFeeRow_eq_ok_iff {library : PmwLibrary}
    {txMap : AList fun _ : UInt64 => DBTransaction}
    {paymentId sequence : UInt64} {row : FeeRow} :
    paymentFeeRow library txMap paymentId sequence = .ok row ↔
      txMap.lookup sequence = some row.tx ∧
        checkTxRowConsistency library row.tx = .ok () ∧
        parseTxFee library row.tx.response = .ok row.fee := by
  simp only [paymentFeeRow, bind_eq_ok, require_eq_ok, mapError_eq_ok,
    exists_unit, Except.ok.injEq]
  constructor
  · rintro ⟨tx, htx, hconsistent, fee, hfee, rfl⟩
    exact ⟨htx, hconsistent, hfee⟩
  · rintro ⟨htx, hconsistent, hfee⟩
    exact ⟨row.tx, htx, hconsistent, row.fee, hfee, rfl⟩

theorem exists_payID_iff {payment : UInt64 × Hash} :
    (∃ payID, x.payInstructionID req.opType req.senderAddress paymentId =
        .ok payID ∧ (paymentId, payID) = payment) ↔
      payment.1 = paymentId ∧
        x.payInstructionID req.opType req.senderAddress paymentId =
          .ok payment.2 := by
  obtain ⟨own, payID⟩ := payment
  simp only [Prod.mk.injEq]
  constructor
  · rintro ⟨payID', hid, rfl, rfl⟩
    exact ⟨rfl, hid⟩
  · rintro ⟨rfl, hid⟩
    exact ⟨payID, hid, rfl, rfl⟩

/-- The stages of a successful run, with the batch queries in sight. -/
theorem evaluate_eq_ok_iff_stages {evaluation : Evaluation} :
    x.evaluate reads req = .ok evaluation ↔
      x.validateBatchRange req = .ok () ∧
      ∃ eventHash,
        teeInstructionsSentEventSignature x.parsedTeeInstructionsABI =
          .ok eventHash ∧
        ∃ payments payLogs txMap,
          List.Forall₂ (fun paymentId payment => payment.1 = paymentId ∧
            x.payInstructionID req.opType req.senderAddress paymentId =
              .ok payment.2) req.paymentIDs payments ∧
          x.repo.fetchInstructionLogs reads.payEventsFault eventHash
            (payments.map Prod.snd) = .ok payLogs ∧
          List.Forall₂ (fun payment estimate =>
            x.estimatePayment reads req eventHash payLogs payment.1
              payment.2 = .ok estimate) payments evaluation.payments ∧
          x.repo.fetchTransactionsBySourceAndSequences
            reads.transactionsFault req.senderAddress
            (evaluation.payments.map PaymentEstimate.sequence) =
              .ok txMap ∧
          List.Forall₂ (fun payment row =>
            paymentFeeRow x.library txMap payment.paymentId
              payment.sequence = .ok row)
            evaluation.payments evaluation.rows := by
  simp only [evaluate, computeEstimatedFee, computeActualFee,
    PmwSource.generatePayInstructionID_eq, bind_eq_ok, mapError_eq_ok,
    mapM_eq_ok_iff, Except.ok.injEq, exists_payID_iff]
  constructor
  · rintro ⟨_, hrange, eventHash, hevent, payments, hpayments, payLogs,
      hpayLogs, estimates, hestimates, rows, ⟨txMap, htxMap, hrows⟩, rfl⟩
    exact ⟨hrange, eventHash, hevent, payments, payLogs, txMap, hpayments,
      hpayLogs, hestimates, htxMap, hrows⟩
  · rintro ⟨hrange, eventHash, hevent, payments, payLogs, txMap, hpayments,
      hpayLogs, hestimates, htxMap, hrows⟩
    exact ⟨(), hrange, eventHash, hevent, payments, hpayments, payLogs,
      hpayLogs, evaluation.payments, hestimates, evaluation.rows,
      ⟨txMap, htxMap, hrows⟩, rfl⟩

theorem paymentIDs_ne_nil (h : x.validateBatchRange req = .ok ()) :
    req.paymentIDs ≠ [] := by
  obtain ⟨hpositive, -⟩ := ensure_bind_eq_ok.mp h
  have hone := one_le_toNat_iff.mpr hpositive
  apply List.ne_nil_of_length_pos
  rw [RequestBody.length_paymentIDs]
  exact hone

theorem estimates_of_estimatePayment
    (hkeep : KeepsInstructionTopic x.repo.convertDatabaseLogToChainLog)
    {ids : List Hash} {payLogs : AList fun _ : Hash => ChainLog}
    {payID : Hash} {estimate : PaymentEstimate}
    (hevent : teeInstructionsSentEventSignature x.parsedTeeInstructionsABI =
      .ok eventHash)
    (hpayLogs : x.repo.fetchInstructionLogs reads.payEventsFault eventHash
      ids = .ok payLogs)
    (hmem : payID ∈ ids)
    (hid : x.payInstructionID req.opType req.senderAddress paymentId =
      .ok payID)
    (h : x.estimatePayment reads req eventHash payLogs paymentId payID =
      .ok estimate) :
    ∃ event, x.Estimates reads req paymentId estimate event := by
  obtain ⟨log, message, hlog, hmessage, hconsistent, hassigned, maxFee,
    reissues, hmaxFee, hnonneg, hbound, hreissues, rfl⟩ :=
    estimatePayment_eq_ok_iff.mp h
  obtain ⟨row, hrow, hconverts⟩ :=
    (DBRepo.lookup_fetchInstructionLogs hkeep hpayLogs hmem log).mp hlog
  obtain ⟨eventData, hdecodes⟩ :=
    decodeTeeInstructionsSentEventData_eq_ok_iff.mp hmessage
  obtain ⟨hsource, hsender, hpayment⟩ :=
    checkInstructionConsistency_eq_ok_iff.mp hconsistent
  exact ⟨⟨payID, eventHash, row, log, eventData, message, hid, hevent, hrow,
    hconverts, hdecodes, hsource, hsender, hpayment⟩,
    ⟨rfl, rfl, hassigned, maxFee, reissues, hmaxFee, hnonneg, hbound,
      hreissues, rfl⟩⟩

theorem estimatePayment_of_estimates
    (hkeep : KeepsInstructionTopic x.repo.convertDatabaseLogToChainLog)
    {ids : List Hash} {payLogs : AList fun _ : Hash => ChainLog}
    {estimate : PaymentEstimate}
    {event : x.PayEvent req.opType req.senderAddress paymentId}
    (hpayLogs : x.repo.fetchInstructionLogs reads.payEventsFault
      event.eventHash ids = .ok payLogs)
    (hmem : event.id ∈ ids)
    (h : x.Estimates reads req paymentId estimate event) :
    x.estimatePayment reads req event.eventHash payLogs paymentId event.id =
      .ok estimate := by
  obtain ⟨maxFee, reissues, hmaxFee, hnonneg, hbound, hreissues, heq⟩ :=
    h.estimate_eq
  obtain ⟨initial, hinitial, hassigned⟩ := h.assigned
  rw [h.sequence_eq] at hassigned
  apply estimatePayment_eq_ok_iff.mpr
  refine ⟨event.log, event.message, ?_, ?_, ?_, ⟨initial, hinitial,
    hassigned⟩, maxFee, reissues, hmaxFee, hnonneg, hbound, hreissues, ?_⟩
  · exact (DBRepo.lookup_fetchInstructionLogs hkeep hpayLogs hmem _).mpr
      ⟨event.row, event.onlyRow, event.converts⟩
  · exact event.decode_eq
  · exact event.consistent
  · obtain ⟨own, sequence, fee⟩ := estimate
    rw [PaymentEstimate.mk.injEq]
    exact ⟨h.paymentId_eq, h.sequence_eq, heq⟩

/-- The instruction ids of the payments of the batch, in its order. -/
def HasPayIDs (x : XRPVerifier) (req : RequestBody)
    (payments : List (UInt64 × Hash)) : Prop :=
  List.Forall₂ (fun paymentId payment => payment.1 = paymentId ∧
    x.payInstructionID req.opType req.senderAddress paymentId =
      .ok payment.2) req.paymentIDs payments

theorem HasPayIDs.map_fst {payments : List (UInt64 × Hash)}
    (h : x.HasPayIDs req payments) :
    payments.map Prod.fst = req.paymentIDs := by
  have hmap := forall₂_map_eq h.flip fun payment p hpayment => hpayment.1
  rw [hmap]
  exact List.map_id _

theorem exists_hasPayIDs : ∃ payments, x.HasPayIDs req payments := by
  apply exists_forall₂
  intro p _
  obtain ⟨id, hid⟩ := x.payInstructionID_total req.opType req.senderAddress p
  exact ⟨(p, id), rfl, hid⟩

theorem fetchInstructionLogs_of_events
    (hkeep : KeepsInstructionTopic x.repo.convertDatabaseLogToChainLog)
    {payments : List (UInt64 × Hash)}
    (hevent : teeInstructionsSentEventSignature x.parsedTeeInstructionsABI =
      .ok eventHash)
    (hpayments : x.HasPayIDs req payments)
    (hevents : ∀ p ∈ req.paymentIDs,
      Nonempty (x.PayEvent req.opType req.senderAddress p)) :
    ∃ payLogs, x.repo.fetchInstructionLogs none eventHash
      (payments.map Prod.snd) = .ok payLogs := by
  rw [DBRepo.fetchInstructionLogs_succeeds_iff hkeep]
  intro id hid
  obtain ⟨payment, hmem, rfl⟩ := List.mem_map.mp hid
  obtain ⟨p, hp, rfl, hpid⟩ := forall₂_exists_left hpayments hmem
  obtain ⟨event⟩ := hevents payment.1 hp
  have hid : event.id = payment.2 := event.id_unique hpid
  have hsame : event.eventHash = eventHash := event.eventHash_unique hevent
  rw [← hid, ← hsame]
  exact .inr ⟨event.row, event.log, event.onlyRow, event.converts⟩

theorem fetchTransactions_of_pays {estimates : List PaymentEstimate}
    {rows : List FeeRow}
    (hrows : List.Forall₂ (fun (payment : PaymentEstimate) row =>
      x.Pays req payment.sequence row) estimates rows) :
    ∃ txMap, x.repo.fetchTransactionsBySourceAndSequences none
      req.senderAddress (estimates.map PaymentEstimate.sequence) =
        .ok txMap := by
  rw [DBRepo.fetchTransactions_succeeds_iff]
  intro sequence hsequence
  obtain ⟨payment, hmem, rfl⟩ := List.mem_map.mp hsequence
  obtain ⟨row, -, hpays⟩ := forall₂_exists_right hrows hmem
  simp [hpays.onlyRow]

theorem paymentFeeRow_eq_ok_iff_pays {sequences : List UInt64}
    {txMap : AList fun _ : UInt64 => DBTransaction}
    {fault : Option ExternalError}
    (htxMap : x.repo.fetchTransactionsBySourceAndSequences fault
      req.senderAddress sequences = .ok txMap)
    {sequence : UInt64} (hmem : sequence ∈ sequences) {row : FeeRow} :
    paymentFeeRow x.library txMap paymentId sequence = .ok row ↔
      x.Pays req sequence row := by
  have hlookup := DBRepo.lookup_fetchTransactions htxMap hmem row.tx
  rw [paymentFeeRow_eq_ok_iff, hlookup]
  constructor
  · intro h
    exact ⟨h.1, h.2.1, h.2.2⟩
  · intro h
    exact ⟨h.onlyRow, h.consistent, h.fee⟩

theorem settled_of_evaluate
    (hkeep : KeepsInstructionTopic x.repo.convertDatabaseLogToChainLog)
    {evaluation : Evaluation} (h : x.evaluate reads req = .ok evaluation) :
    x.validateBatchRange req = .ok () ∧
      reads.payEventsFault = none ∧ reads.transactionsFault = none ∧
      List.Forall₂ (fun paymentId estimate => ∃ event,
        x.Estimates reads req paymentId estimate event)
        req.paymentIDs evaluation.payments ∧
      List.Forall₂ (fun (payment : PaymentEstimate) row =>
        x.Pays req payment.sequence row)
        evaluation.payments evaluation.rows := by
  obtain ⟨hrange, eventHash, hevent, payments, payLogs, txMap, hpayments,
    hpayLogs, hestimates, htxMap, hrows⟩ := evaluate_eq_ok_iff_stages.mp h
  have hpaymentsNe : payments ≠ [] := by
    intro hnil
    rw [hnil] at hpayments
    exact paymentIDs_ne_nil hrange (List.forall₂_nil_right_iff.mp hpayments)
  have hestimatesNe : evaluation.payments ≠ [] := by
    intro hnil
    rw [hnil] at hestimates
    exact hpaymentsNe (List.forall₂_nil_right_iff.mp hestimates)
  have hpayFault : reads.payEventsFault = none := by
    apply DBRepo.fault_of_fetchInstructionLogs _ hpayLogs
    simpa using hpaymentsNe
  have htxFault : reads.transactionsFault = none := by
    apply DBRepo.fault_of_fetchTransactions _ htxMap
    simpa using hestimatesNe
  refine ⟨hrange, hpayFault, htxFault, ?_, ?_⟩
  · have hpaired := forall₂_comp hpayments (forall₂_mem_left hestimates)
    apply List.Forall₂.imp _ hpaired
    rintro paymentId estimate ⟨payment, ⟨rfl, hid⟩, hmem, hestimate⟩
    exact estimates_of_estimatePayment hkeep hevent hpayLogs
      (List.mem_map_of_mem hmem) hid hestimate
  · apply List.Forall₂.imp _ (forall₂_mem_left hrows)
    rintro payment row ⟨hmem, hrow⟩
    exact (paymentFeeRow_eq_ok_iff_pays htxMap
      (List.mem_map_of_mem hmem)).mp hrow

theorem evaluate_of_settled
    (hkeep : KeepsInstructionTopic x.repo.convertDatabaseLogToChainLog)
    {evaluation : Evaluation} (hrange : x.validateBatchRange req = .ok ())
    (hpayFault : reads.payEventsFault = none)
    (htxFault : reads.transactionsFault = none)
    (hestimates : List.Forall₂ (fun paymentId estimate => ∃ event,
      x.Estimates reads req paymentId estimate event)
      req.paymentIDs evaluation.payments)
    (hrows : List.Forall₂ (fun (payment : PaymentEstimate) row =>
      x.Pays req payment.sequence row)
      evaluation.payments evaluation.rows) :
    x.evaluate reads req = .ok evaluation := by
  obtain ⟨first, hfirst⟩ :=
    List.exists_mem_of_ne_nil _ (paymentIDs_ne_nil hrange)
  obtain ⟨-, -, firstEvent, -⟩ := forall₂_exists_right hestimates hfirst
  have hevent := firstEvent.eventHash_eq
  obtain ⟨payments, hpayments⟩ : ∃ payments, x.HasPayIDs req payments :=
    exists_hasPayIDs
  obtain ⟨payLogs, hpayLogs⟩ :=
    fetchInstructionLogs_of_events hkeep hevent hpayments fun p hp => by
      obtain ⟨-, -, event, -⟩ := forall₂_exists_right hestimates hp
      exact ⟨event⟩
  obtain ⟨txMap, htxMap⟩ := fetchTransactions_of_pays hrows
  rw [← hpayFault] at hpayLogs
  rw [← htxFault] at htxMap
  apply evaluate_eq_ok_iff_stages.mpr
  refine ⟨hrange, firstEvent.eventHash, hevent, payments, payLogs, txMap,
    hpayments, hpayLogs, ?_, htxMap, ?_⟩
  · refine forall₂_of_common (forall₂_mem_left hpayments.flip).flip
      hestimates ?_
    rintro p - payment estimate ⟨hmem, rfl, hid⟩ ⟨event, hestimate⟩
    have hown : event.id = payment.2 := event.id_unique hid
    have hsame : event.eventHash = firstEvent.eventHash :=
      event.eventHash_unique hevent
    rw [← hsame] at hpayLogs ⊢
    rw [← hown]
    apply estimatePayment_of_estimates hkeep hpayLogs _ hestimate
    rw [hown]
    exact List.mem_map_of_mem hmem
  · apply List.Forall₂.imp _ (forall₂_mem_left hrows)
    rintro payment row ⟨hmem, hpays⟩
    exact (paymentFeeRow_eq_ok_iff_pays htxMap
      (List.mem_map_of_mem hmem)).mpr hpays

/-- A run settles every payment of its batch on its own. -/
theorem evaluate_eq_ok_iff
    (hkeep : KeepsInstructionTopic x.repo.convertDatabaseLogToChainLog)
    {evaluation : Evaluation} :
    x.evaluate reads req = .ok evaluation ↔
      x.validateBatchRange req = .ok () ∧
      reads.payEventsFault = none ∧ reads.transactionsFault = none ∧
      List.Forall₂ (fun paymentId estimate => ∃ event,
        x.Estimates reads req paymentId estimate event)
        req.paymentIDs evaluation.payments ∧
      List.Forall₂ (fun (payment : PaymentEstimate) row =>
        x.Pays req payment.sequence row)
        evaluation.payments evaluation.rows := by
  constructor
  · exact settled_of_evaluate hkeep
  · rintro ⟨hrange, hpayFault, htxFault, hestimates, hrows⟩
    exact evaluate_of_settled hkeep hrange hpayFault htxFault hestimates
      hrows

end XRPVerifier

end FeeProof

end VerifierApi

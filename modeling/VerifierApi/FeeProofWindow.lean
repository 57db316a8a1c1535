import VerifierApi.PaymentBinding

/-!
# The window of the reissues

A fee proof counts the reissues up to a timestamp.  An earlier timestamp cuts
the scan of each payment short and leaves the rest of the run as it is: a
batch which is proved with the later one is proved with the earlier one, at
most at the same estimated fee.  The timestamps of the reissues need not be
increasing.
-/

namespace VerifierApi

namespace FeeProof

/-- The same request with another window. -/
def RequestBody.withUntil (req : RequestBody) (untilTimestamp : UInt64) :
    RequestBody :=
  { req with untilTimestamp := untilTimestamp }

theorem residuals_le_of_prefix {payMaxFee : Int} {fees fees' : List Int}
    (h : fees <+: fees') :
    residuals payMaxFee fees ≤ residuals payMaxFee fees' := by
  obtain ⟨rest, rfl⟩ := h
  have hrest := residuals_nonneg payMaxFee rest
  have hsum : residuals payMaxFee (fees ++ rest) =
      residuals payMaxFee fees + residuals payMaxFee rest := by
    simp [residuals]
  omega

namespace XRPVerifier

variable {x : XRPVerifier} {reads : Reads} {req : RequestBody}
  {eventHash : String} {paymentId : UInt64} {t t' : UInt64}

/-! ## One reissue -/

theorem fetchReissue_earlier_of_none (ht : t ≤ t')
    {cannotFetch : String} {reissueNum : UInt64}
    (h : x.fetchReissue reads (req.withUntil t') eventHash paymentId
      cannotFetch reissueNum = .ok none) :
    x.fetchReissue reads (req.withUntil t) eventHash paymentId cannotFetch
      reissueNum = .ok none := by
  obtain ⟨hfault, id, hid, hrows⟩ := fetchReissue_eq_none_iff.mp h
  apply fetchReissue_eq_none_iff.mpr
  refine ⟨hfault, id, hid, ?_⟩
  rcases hrows with hnil | ⟨row, log, hrow, hconverts, htime⟩
  · exact .inl hnil
  · exact .inr ⟨row, log, hrow, hconverts, UInt64.lt_of_le_of_lt ht htime⟩

/-- A reissue of the later window lies in the earlier one, or ends the
scan there. -/
theorem fetchReissue_earlier_of_some {cannotFetch : String}
    {reissueNum : UInt64} {log : ChainLog}
    (h : x.fetchReissue reads (req.withUntil t') eventHash paymentId
      cannotFetch reissueNum = .ok (some log)) :
    x.fetchReissue reads (req.withUntil t) eventHash paymentId cannotFetch
        reissueNum = .ok none ∨
      x.fetchReissue reads (req.withUntil t) eventHash paymentId cannotFetch
        reissueNum = .ok (some log) := by
  obtain ⟨hfault, id, hid, row, hrow, hconverts, -⟩ :=
    fetchReissue_eq_some_iff.mp h
  by_cases hafter : t < row.timestamp
  · left
    exact fetchReissue_eq_none_iff.mpr
      ⟨hfault, id, hid, .inr ⟨row, log, hrow, hconverts, hafter⟩⟩
  · right
    exact fetchReissue_eq_some_iff.mpr
      ⟨hfault, id, hid, row, hrow, hconverts, UInt64.not_lt.mp hafter⟩

theorem reissueMaxFee_earlier_of_none (ht : t ≤ t') {reissueNum : UInt64}
    (h : x.reissueMaxFee reads (req.withUntil t') eventHash paymentId
      reissueNum = .ok none) :
    x.reissueMaxFee reads (req.withUntil t) eventHash paymentId reissueNum =
      .ok none := by
  rw [reissueMaxFee_eq_none_iff ""] at h ⊢
  exact fetchReissue_earlier_of_none ht h

theorem reissueMaxFee_earlier_of_some {reissueNum : UInt64} {maxFee : Int}
    (h : x.reissueMaxFee reads (req.withUntil t') eventHash paymentId
      reissueNum = .ok (some maxFee)) :
    x.reissueMaxFee reads (req.withUntil t) eventHash paymentId reissueNum =
        .ok none ∨
      x.reissueMaxFee reads (req.withUntil t) eventHash paymentId
        reissueNum = .ok (some maxFee) := by
  obtain ⟨log, hlog, hcounts⟩ := (reissueMaxFee_eq_some_iff "").mp h
  rcases fetchReissue_earlier_of_some hlog with hnone | hsome
  · left
    exact (reissueMaxFee_eq_none_iff "").mpr hnone
  · right
    exact (reissueMaxFee_eq_some_iff "").mpr
      ⟨log, hsome, hcounts.decodes, hcounts.nonneg, hcounts.le_supply⟩

/-! ## The reissues of a payment -/

/-- The earlier scan counts a prefix, and it reaches the cap only if the
later one does. -/
theorem scanReissues_earlier (ht : t ≤ t') {remaining : ℕ}
    {reissueNum : UInt64} {fees' : List Int} {terminatedEarly' : Bool}
    (h : x.scanReissues reads (req.withUntil t') eventHash paymentId
      remaining reissueNum = .ok (fees', terminatedEarly')) :
    ∃ fees terminatedEarly,
      x.scanReissues reads (req.withUntil t) eventHash paymentId remaining
        reissueNum = .ok (fees, terminatedEarly) ∧
      fees <+: fees' ∧
      (terminatedEarly = false → terminatedEarly' = false) := by
  induction remaining generalizing reissueNum fees' with
  | zero =>
      simp only [scanReissues, Except.ok.injEq, Prod.mk.injEq] at h
      obtain ⟨rfl, rfl⟩ := h
      exact ⟨[], false, rfl, List.prefix_rfl, fun _ => rfl⟩
  | succ remaining ih =>
      unfold scanReissues at h
      obtain ⟨fee, hfee, h⟩ := bind_eq_ok.mp h
      cases fee with
      | none =>
          simp only [Except.ok.injEq, Prod.mk.injEq] at h
          obtain ⟨rfl, rfl⟩ := h
          have hnone := reissueMaxFee_earlier_of_none ht hfee
          exact ⟨[], true, bind_eq_ok.mpr ⟨none, hnone, rfl⟩,
            List.prefix_rfl, by simp⟩
      | some maxFee =>
          obtain ⟨⟨rest', early'⟩, hrest', h⟩ := bind_eq_ok.mp h
          simp only [Except.ok.injEq, Prod.mk.injEq] at h
          obtain ⟨rfl, rfl⟩ := h
          rcases reissueMaxFee_earlier_of_some hfee with hnone | hsome
          · exact ⟨[], true, bind_eq_ok.mpr ⟨none, hnone, rfl⟩,
              List.nil_prefix, by simp⟩
          · obtain ⟨rest, early, hrest, hprefix, hearly⟩ := ih hrest'
            refine ⟨maxFee :: rest, early, ?_, ?_, hearly⟩
            · refine bind_eq_ok.mpr ⟨some maxFee, hsome, ?_⟩
              exact bind_eq_ok.mpr ⟨(rest, early), hrest, rfl⟩
            · exact (List.prefix_cons_inj maxFee).mpr hprefix

theorem probeReissueCap_earlier (ht : t ≤ t')
    (h : x.probeReissueCap reads (req.withUntil t') eventHash paymentId =
      .ok ()) :
    x.probeReissueCap reads (req.withUntil t) eventHash paymentId =
      .ok () := by
  obtain ⟨next, hnext, hnone⟩ := bind_eq_ok.mp h
  rw [ensure_eq_ok.mp hnone] at hnext
  exact bind_eq_ok.mpr
    ⟨none, fetchReissue_earlier_of_none ht hnext, ensure_eq_ok.mpr rfl⟩

theorem countReissues_earlier (ht : t ≤ t') {fees' : List Int}
    (h : x.countReissues reads (req.withUntil t') eventHash paymentId =
      .ok fees') :
    ∃ fees, x.countReissues reads (req.withUntil t) eventHash paymentId =
      .ok fees ∧ fees <+: fees' := by
  obtain ⟨⟨scanned', early'⟩, hscan', h⟩ := bind_eq_ok.mp h
  obtain ⟨scanned, early, hscan, hprefix, hearly⟩ :=
    scanReissues_earlier ht hscan'
  have hscanned : scanned' = fees' := by
    cases early' with
    | true => simpa using h
    | false =>
        obtain ⟨_, -, hfees⟩ := bind_eq_ok.mp h
        simpa using hfees
  rw [hscanned] at hprefix
  refine ⟨scanned, bind_eq_ok.mpr ⟨(scanned, early), hscan, ?_⟩, hprefix⟩
  cases early with
  | true => rfl
  | false =>
      rw [hearly rfl] at h
      obtain ⟨_, hprobe, -⟩ := bind_eq_ok.mp h
      exact bind_eq_ok.mpr ⟨(), probeReissueCap_earlier ht hprobe, rfl⟩

/-! ## A batch -/

/-- The estimate of a payment under an earlier window. -/
structure LowerEstimate (estimate estimate' : PaymentEstimate) : Prop where
  paymentId_eq : estimate.paymentId = estimate'.paymentId
  sequence_eq : estimate.sequence = estimate'.sequence
  nonneg : 0 ≤ estimate.estimatedFee
  le : estimate.estimatedFee ≤ estimate'.estimatedFee

theorem estimatePayment_earlier (ht : t ≤ t')
    {payLogs : AList fun _ : Hash => ChainLog} {payID : Hash}
    {estimate' : PaymentEstimate}
    (h : x.estimatePayment reads (req.withUntil t') eventHash payLogs
      paymentId payID = .ok estimate') :
    ∃ estimate, x.estimatePayment reads (req.withUntil t) eventHash payLogs
        paymentId payID = .ok estimate ∧
      LowerEstimate estimate estimate' := by
  obtain ⟨log, message, hlog, hmessage, hconsistent, hassigned, maxFee,
    reissues', hmaxFee, hnonneg, hbound, hreissues', rfl⟩ :=
    estimatePayment_eq_ok_iff.mp h
  obtain ⟨reissues, hreissues, hprefix⟩ :=
    countReissues_earlier ht hreissues'
  have hestimate : x.estimatePayment reads (req.withUntil t) eventHash
      payLogs paymentId payID = .ok ⟨paymentId, message.nonce,
        maxFee + residuals maxFee reissues⟩ :=
    estimatePayment_eq_ok_iff.mpr ⟨log, message, hlog, hmessage, hconsistent,
      hassigned, maxFee, reissues, hmaxFee, hnonneg, hbound, hreissues, rfl⟩
  have hle : residuals maxFee reissues ≤ residuals maxFee reissues' :=
    residuals_le_of_prefix hprefix
  refine ⟨_, hestimate, rfl, rfl, (estimatePayment_bounds hestimate).1, ?_⟩
  exact Int.add_le_add_left hle maxFee

/-- The rows of a run depend on the sequences of its payments only. -/
theorem evaluate_earlier (ht : t ≤ t') {evaluation' : Evaluation}
    (h : x.evaluate reads (req.withUntil t') = .ok evaluation') :
    ∃ evaluation, x.evaluate reads (req.withUntil t) = .ok evaluation ∧
      evaluation.rows = evaluation'.rows ∧
      0 ≤ evaluation.estimatedFee ∧
      evaluation.estimatedFee ≤ evaluation'.estimatedFee := by
  obtain ⟨hrange, eventHash, hevent, payments, payLogs, txMap, hpayments,
    hpayLogs, hestimates', htxMap, hrows⟩ := evaluate_eq_ok_iff_stages.mp h
  obtain ⟨estimates, hestimates, hlower⟩ :=
    forall₂_exists_between hestimates' fun _ _ hestimate =>
      estimatePayment_earlier ht hestimate
  have hsequences : estimates.map PaymentEstimate.sequence =
      evaluation'.payments.map PaymentEstimate.sequence :=
    forall₂_map_eq hlower fun _ _ hle => hle.sequence_eq
  refine ⟨⟨estimates, evaluation'.rows⟩, ?_, rfl, ?_, ?_⟩
  · apply evaluate_eq_ok_iff_stages.mpr
    refine ⟨hrange, eventHash, hevent, payments, payLogs, txMap, hpayments,
      hpayLogs, hestimates, ?_, ?_⟩
    · rw [hsequences]
      exact htxMap
    · apply List.Forall₂.imp _ (forall₂_comp hlower hrows)
      rintro estimate row ⟨estimate', hle, hrow⟩
      rw [hle.paymentId_eq, hle.sequence_eq]
      exact hrow
  · apply List.sum_nonneg
    intro amount hamount
    obtain ⟨estimate, hmem, rfl⟩ := List.mem_map.mp hamount
    obtain ⟨estimate', -, hle⟩ := forall₂_exists_right hlower hmem
    exact hle.nonneg
  · apply List.Forall₂.sum_le_sum
    rw [List.forall₂_map_left_iff, List.forall₂_map_right_iff]
    exact hlower.imp fun _ _ hle => hle.le

theorem bitLen_mono {v w : Int} (hnonneg : 0 ≤ v) (h : v ≤ w) :
    bitLen v ≤ bitLen w := by
  unfold bitLen
  apply Nat.size_le_size
  omega

/-- Whatever the tables hold: a batch which is proved up to a timestamp is
proved up to every earlier one, with the same actual fee and at most the
estimated fee. -/
theorem verify_earlier (x : XRPVerifier) (reads : Reads) (req : RequestBody)
    (t₁ t₂ : UInt64) (ht : t₁ ≤ t₂) (response₂ : ResponseBody)
    (h : x.verify reads (req.withUntil t₂) = .ok response₂) :
    ∃ response₁, x.verify reads (req.withUntil t₁) = .ok response₁ ∧
      response₁.actualFee = response₂.actualFee ∧
      response₁.lastPaymentId = response₂.lastPaymentId ∧
      response₁.estimatedFee ≤ response₂.estimatedFee := by
  obtain ⟨evaluation₂, hevaluation₂, h⟩ := bind_eq_ok.mp h
  obtain ⟨⟨hestimatedBits, hactualBits⟩, hresponse⟩ :=
    ensure_bind_eq_ok.mp h
  obtain ⟨evaluation₁, hevaluation₁, hrows, hnonneg, hle⟩ :=
    evaluate_earlier ht hevaluation₂
  have hactual : evaluation₁.actualFee = evaluation₂.actualFee := by
    unfold Evaluation.actualFee
    rw [hrows]
  simp only [Except.ok.injEq] at hresponse
  subst hresponse
  refine ⟨⟨req.firstPaymentId + req.batchCount - 1, evaluation₁.actualFee,
    evaluation₁.estimatedFee⟩, ?_, hactual, rfl, hle⟩
  refine bind_eq_ok.mpr ⟨evaluation₁, hevaluation₁, ?_⟩
  refine ensure_bind_eq_ok.mpr ⟨⟨?_, ?_⟩, rfl⟩
  · exact (bitLen_mono hnonneg hle).trans hestimatedBits
  · rw [hactual]
    exact hactualBits

end XRPVerifier

end FeeProof

/-- The reissue of the first payment falls out of the window. -/
theorem verify_earlier_smallLedger :
    ∃ response, SmallLedger.feeVerifier.verify SmallLedger.feeReads
        ((SmallLedger.feeRequest 1 2).withUntil 29) = .ok response ∧
      response.actualFee = 24 ∧ response.lastPaymentId = 2 ∧
      response.estimatedFee ≤ 45 := by
  have hlater : SmallLedger.feeVerifier.verify SmallLedger.feeReads
      ((SmallLedger.feeRequest 1 2).withUntil 60) = .ok ⟨2, 24, 45⟩ :=
    FeeProof.XRPVerifier.verify_eq_ok_iff.mpr
      ⟨_, SmallLedger.evaluate_batch, rfl⟩
  exact FeeProof.XRPVerifier.verify_earlier SmallLedger.feeVerifier
    SmallLedger.feeReads (SmallLedger.feeRequest 1 2) 29 60 (by decide)
    ⟨2, 24, 45⟩ hlater

end VerifierApi

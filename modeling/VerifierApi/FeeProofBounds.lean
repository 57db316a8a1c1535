import VerifierApi.FeeProofSettlement
import Mathlib.Algebra.Order.BigOperators.Group.List
import Mathlib.Tactic.Linarith

/-!
# Magnitudes of the fee sums

Every amount which enters a fee sum is at most the total supply, so that the
sums of a batch stay far below the last check of a run.
-/

namespace VerifierApi

namespace FeeProof

theorem residual_nonneg (payMaxFee reissueMaxFee : Int) :
    0 ≤ residual payMaxFee reissueMaxFee := by
  unfold residual
  split <;> omega

theorem residual_eq_zero_iff {payMaxFee reissueMaxFee : Int} :
    residual payMaxFee reissueMaxFee = 0 ↔ reissueMaxFee ≤ payMaxFee := by
  unfold residual
  split <;> omega

theorem residual_le {payMaxFee reissueMaxFee bound : Int}
    (hpay : 0 ≤ payMaxFee) (hbound : 0 ≤ bound)
    (hreissue : reissueMaxFee ≤ bound) :
    residual payMaxFee reissueMaxFee ≤ bound := by
  unfold residual
  split <;> omega

theorem sum_bounds {amounts : List Int} {bound : Int}
    (h : ∀ amount ∈ amounts, 0 ≤ amount ∧ amount ≤ bound) :
    0 ≤ amounts.sum ∧ amounts.sum ≤ amounts.length * bound := by
  induction amounts with
  | nil => simp
  | cons amount rest ih =>
      obtain ⟨hlow, hhigh⟩ := h amount (List.mem_cons_self ..)
      obtain ⟨hrestLow, hrestHigh⟩ :=
        ih fun other hother => h other (List.mem_cons_of_mem _ hother)
      rw [List.sum_cons, List.length_cons]
      push_cast
      constructor <;> linarith

theorem residuals_nonneg (payMaxFee : Int) (reissues : List Int) :
    0 ≤ residuals payMaxFee reissues := by
  apply List.sum_nonneg
  intro amount hamount
  obtain ⟨reissue, -, rfl⟩ := List.mem_map.mp hamount
  exact residual_nonneg payMaxFee reissue

theorem residuals_eq_zero_iff {payMaxFee : Int} {reissues : List Int} :
    residuals payMaxFee reissues = 0 ↔
      ∀ reissue ∈ reissues, reissue ≤ payMaxFee := by
  induction reissues with
  | nil => simp [residuals]
  | cons reissue rest ih =>
      have hrest := residuals_nonneg payMaxFee rest
      have hfirst := residual_nonneg payMaxFee reissue
      have hsum : residuals payMaxFee (reissue :: rest) =
          residual payMaxFee reissue + residuals payMaxFee rest := by
        simp [residuals]
      rw [hsum, List.forall_mem_cons, ← ih, ← residual_eq_zero_iff]
      omega

theorem bitLen_le_256 {v : Int} (hnonneg : 0 ≤ v) (hbound : v < 2 ^ 256) :
    bitLen v ≤ 256 := by
  unfold bitLen
  rw [Nat.size_le]
  have hcast : (v.natAbs : Int) = v := Int.natAbs_of_nonneg hnonneg
  have hlt : (v.natAbs : Int) < ((2 ^ 256 : ℕ) : Int) := by
    rw [hcast]
    exact_mod_cast hbound
  exact_mod_cast hlt

theorem parseTxFee_bounds {library : PmwLibrary} {response : String}
    {fee : Int} (h : parseTxFee library response = .ok fee) :
    0 ≤ fee ∧ fee ≤ (maxXRPDrops : Int) := by
  simp only [parseTxFee, bind_eq_ok, ensure_eq_ok, mapError_eq_ok,
    exists_const, Except.ok.injEq] at h
  obtain ⟨-, rawFee, -, -, parsed, -, hbound, rfl⟩ := h
  obtain ⟨n, hn, hnonneg, hmax⟩ :=
    (exceedsMaxXRPDrops_eq_false_iff _).mp hbound
  simp only [Option.some.injEq] at hn
  rw [hn]
  exact ⟨hnonneg, hmax⟩

namespace XRPVerifier

variable {x : XRPVerifier} {reads : Reads} {req : RequestBody}
  {eventHash : String} {paymentId : UInt64}

theorem estimatePayment_bounds
    {payLogs : AList fun _ : Hash => ChainLog} {payID : Hash}
    {estimate : PaymentEstimate}
    (h : x.estimatePayment reads req eventHash payLogs paymentId payID =
      .ok estimate) :
    0 ≤ estimate.estimatedFee ∧
      estimate.estimatedFee ≤ 33 * (maxXRPDrops : Int) := by
  obtain ⟨log, message, -, -, -, -, maxFee, reissues, -, hnonneg, hbound,
    hreissues, rfl⟩ := estimatePayment_eq_ok_iff.mp h
  obtain ⟨hlength, hfees⟩ := countReissues_bounded hreissues
  have hmax : (0 : Int) ≤ (maxXRPDrops : Int) := by decide
  have hsum : residuals maxFee reissues ≤
      (reissues.map (residual maxFee)).length * (maxXRPDrops : Int) := by
    apply (sum_bounds _).2
    intro amount hamount
    obtain ⟨reissue, hreissue, rfl⟩ := List.mem_map.mp hamount
    exact ⟨residual_nonneg _ _,
      residual_le hnonneg hmax (hfees reissue hreissue).2⟩
  rw [List.length_map] at hsum
  have hcount : (reissues.length : Int) * (maxXRPDrops : Int) ≤
      32 * (maxXRPDrops : Int) := by
    apply mul_le_mul_of_nonneg_right _ hmax
    exact_mod_cast hlength
  have hresiduals := residuals_nonneg maxFee reissues
  simp only
  constructor <;> linarith

theorem evaluate_bounds {evaluation : Evaluation}
    (h : x.evaluate reads req = .ok evaluation) :
    evaluation.payments.length = req.batchCount.toNat ∧
      evaluation.rows.length = req.batchCount.toNat ∧
      (∀ payment ∈ evaluation.payments, 0 ≤ payment.estimatedFee ∧
        payment.estimatedFee ≤ 33 * (maxXRPDrops : Int)) ∧
      ∀ row ∈ evaluation.rows, 0 ≤ row.fee ∧
        row.fee ≤ (maxXRPDrops : Int) := by
  obtain ⟨-, eventHash, -, payments, payLogs, txMap, hpayments, -,
    hestimates, -, hrows⟩ := evaluate_eq_ok_iff_stages.mp h
  have hlength : evaluation.payments.length = req.batchCount.toNat := by
    rw [← hestimates.length_eq, ← hpayments.length_eq,
      RequestBody.length_paymentIDs]
  refine ⟨hlength, by rw [← hrows.length_eq, hlength], ?_, ?_⟩
  · intro payment hpayment
    obtain ⟨key, -, hestimate⟩ := forall₂_exists_left hestimates hpayment
    exact estimatePayment_bounds hestimate
  · intro row hrow
    obtain ⟨payment, -, hfee⟩ := forall₂_exists_left hrows hrow
    exact parseTxFee_bounds (paymentFeeRow_eq_ok_iff.mp hfee).2.2

/-- The sums of a run are at most the supply for each payment, and for each
of its reissues up to the cap. -/
theorem sums_of_evaluate {evaluation : Evaluation}
    (h : x.evaluate reads req = .ok evaluation) :
    (0 ≤ evaluation.estimatedFee ∧ evaluation.estimatedFee ≤
      req.batchCount.toNat * (33 * (maxXRPDrops : Int))) ∧
    (0 ≤ evaluation.actualFee ∧ evaluation.actualFee ≤
      req.batchCount.toNat * (maxXRPDrops : Int)) := by
  obtain ⟨hpayments, hrows, hestimates, hfees⟩ := evaluate_bounds h
  constructor
  · rw [← hpayments, ← List.length_map PaymentEstimate.estimatedFee]
    apply sum_bounds
    intro amount hamount
    obtain ⟨payment, hpayment, rfl⟩ := List.mem_map.mp hamount
    exact hestimates payment hpayment
  · rw [← hrows, ← List.length_map FeeRow.fee]
    apply sum_bounds
    intro amount hamount
    obtain ⟨row, hrow, rfl⟩ := List.mem_map.mp hamount
    exact hfees row hrow

/-- The last check of a run never fails. -/
theorem bitLen_of_evaluate {source : PmwSource} {evaluation : Evaluation}
    (h : (newXRPVerifier source).evaluate reads req = .ok evaluation) :
    bitLen evaluation.estimatedFee ≤ 256 ∧
      bitLen evaluation.actualFee ≤ 256 := by
  have hrange := validateBatchRange_eq_ok_iff.mp
    (evaluate_eq_ok_iff_stages.mp h).1
  obtain ⟨⟨hestimated, hestimatedMax⟩, hactual, hactualMax⟩ :=
    sums_of_evaluate h
  have hcap : (req.batchCount.toNat : Int) ≤ 200 := by
    exact_mod_cast hrange.cap
  have hmax : (maxXRPDrops : Int) = 100000000000000000 := rfl
  rw [hmax] at hestimatedMax hactualMax
  constructor
  · apply bitLen_le_256 hestimated
    linarith
  · apply bitLen_le_256 hactual
    linarith

theorem verify_eq_ok_iff {source : PmwSource} {response : ResponseBody} :
    (newXRPVerifier source).verify reads req = .ok response ↔
      ∃ evaluation,
        (newXRPVerifier source).evaluate reads req = .ok evaluation ∧
        response = {
          lastPaymentId := req.firstPaymentId + req.batchCount - 1
          actualFee := evaluation.actualFee
          estimatedFee := evaluation.estimatedFee } := by
  simp only [verify, bind_eq_ok, ensure_eq_ok, exists_const,
    Except.ok.injEq]
  constructor
  · rintro ⟨evaluation, hevaluation, -, rfl⟩
    exact ⟨evaluation, hevaluation, rfl⟩
  · rintro ⟨evaluation, hevaluation, rfl⟩
    exact ⟨evaluation, hevaluation, bitLen_of_evaluate hevaluation, rfl⟩

theorem verify_eq_error_iff {source : PmwSource} {err : GoError} :
    (newXRPVerifier source).verify reads req = .error err ↔
      (newXRPVerifier source).evaluate reads req = .error err := by
  unfold verify
  rw [bind_eq_error]
  constructor
  · rintro (herror | ⟨evaluation, hevaluation, hlast⟩)
    · exact herror
    · rcases bind_eq_error.mp hlast with hcheck | ⟨_, -, hreturn⟩
      · exact absurd (bitLen_of_evaluate hevaluation)
          (ensure_eq_error.mp hcheck).1
      · simp at hreturn
  · intro herror
    exact .inl herror

/-- A run estimates the payments of the request, in their order. -/
theorem paymentIds_of_evaluate {evaluation : Evaluation}
    (h : x.evaluate reads req = .ok evaluation) :
    evaluation.payments.map PaymentEstimate.paymentId = req.paymentIDs := by
  obtain ⟨-, eventHash, -, payments, payLogs, txMap, hpayments, -, hestimates,
    -⟩ := evaluate_eq_ok_iff_stages.mp h
  have hids : x.HasPayIDs req payments := hpayments
  rw [← hids.map_fst]
  refine forall₂_map_eq hestimates.flip fun estimate payment hestimate => ?_
  obtain ⟨-, message, -, -, -, -, maxFee, reissues, -, -, -, -, rfl⟩ :=
    estimatePayment_eq_ok_iff.mp hestimate
  rfl

/-- The batch range in exact arithmetic, the payments of an accepted range,
and the payments of a run with the magnitudes of the sums which reach its last
check. -/
theorem range_and_magnitude (source : PmwSource) (reads : Reads)
    (req : RequestBody) :
    ((newXRPVerifier source).validateBatchRange req = .ok () ↔
      1 ≤ req.batchCount.toNat ∧ req.batchCount.toNat ≤ 200 ∧
        req.firstPaymentId.toNat + req.batchCount.toNat - 1 ≤ 2 ^ 64 - 1) ∧
    ((newXRPVerifier source).validateBatchRange req = .ok () →
      req.paymentIDs.map UInt64.toNat =
          (List.range req.batchCount.toNat).map
            (req.firstPaymentId.toNat + ·) ∧
        ∀ response, (newXRPVerifier source).verify reads req =
            .ok response →
          response.lastPaymentId ∈ req.paymentIDs ∧
            ∀ p ∈ req.paymentIDs, p ≤ response.lastPaymentId) ∧
    (∀ evaluation,
      (newXRPVerifier source).evaluate reads req = .ok evaluation →
      evaluation.payments.map PaymentEstimate.paymentId = req.paymentIDs ∧
        0 ≤ evaluation.estimatedFee ∧
        evaluation.estimatedFee ≤ 33 * 10 ^ 17 * req.batchCount.toNat ∧
        0 ≤ evaluation.actualFee ∧
        evaluation.actualFee ≤ 10 ^ 17 * req.batchCount.toNat) ∧
    ∀ err, (newXRPVerifier source).verify reads req = .error err →
      (newXRPVerifier source).evaluate reads req = .error err := by
  refine ⟨?_, ?_, ?_, fun err => verify_eq_error_iff.mp⟩
  · rw [validateBatchRange_eq_ok_iff]
    constructor
    · rintro ⟨hpositive, hcap, hbound⟩
      exact ⟨hpositive, hcap, by omega⟩
    · rintro ⟨hpositive, hcap, hbound⟩
      exact ⟨hpositive, hcap, by omega⟩
  · intro hvalid
    have hrange := validateBatchRange_eq_ok_iff.mp hvalid
    refine ⟨hrange.map_toNat_paymentIDs, ?_⟩
    intro response hverify
    obtain ⟨evaluation, -, rfl⟩ := verify_eq_ok_iff.mp hverify
    exact ⟨hrange.lastPaymentId_mem, fun p hp => hrange.le_lastPaymentId hp⟩
  · intro evaluation hevaluation
    obtain ⟨⟨hestimated, hestimatedMax⟩, hactual, hactualMax⟩ :=
      sums_of_evaluate hevaluation
    have hmax : (maxXRPDrops : Int) = 10 ^ 17 := by decide
    rw [hmax] at hestimatedMax hactualMax
    refine ⟨paymentIds_of_evaluate hevaluation, hestimated, ?_, hactual, ?_⟩
    · linarith
    · linarith

end XRPVerifier

end FeeProof

end VerifierApi

import VerifierApi.PaymentBinding

/-!
# Splitting a fee-proof batch

A batch may be cut at any payment: the two parts succeed exactly when the
whole does, and their fees add up.
-/

namespace VerifierApi

namespace FeeProof

/-- Reads which do not fail, under a fixed initial nonce. -/
def Reads.faultless (n : UInt64) : Reads where
  payEventsFault := none
  initialNonce _ := .ok n
  reissueFault _ _ := none
  transactionsFault := none

namespace RequestBody

variable {req : RequestBody} {first n m : UInt64}

def withRange (req : RequestBody) (first count : UInt64) : RequestBody :=
  { req with firstPaymentId := first, batchCount := count }

theorem toNat_add_of_cap (hcap : n.toNat + m.toNat ≤ 200) :
    (n + m).toNat = n.toNat + m.toNat := by
  rw [UInt64.toNat_add]
  omega

theorem paymentIDs_append (hcap : n.toNat + m.toNat ≤ 200) :
    (req.withRange first (n + m)).paymentIDs =
      (req.withRange first n).paymentIDs ++
        (req.withRange (first + n) m).paymentIDs := by
  simp only [paymentIDs, withRange, toNat_add_of_cap hcap]
  rw [List.range_add, List.map_append, List.map_map]
  refine congrArg _ (List.map_congr_left ?_)
  intro i _
  simp only [Function.comp_apply]
  rw [UInt64.ofNat_add, UInt64.ofNat_toNat, UInt64.add_assoc]

theorem validRange_whole (hn : 1 ≤ n.toNat)
    (hcap : n.toNat + m.toNat ≤ 200)
    (hbound : first.toNat + n.toNat + m.toNat ≤ 2 ^ 64) :
    (req.withRange first (n + m)).ValidRange := by
  have hsum := toNat_add_of_cap hcap
  constructor <;> simp only [withRange, hsum] <;> omega

theorem validRange_left (hn : 1 ≤ n.toNat)
    (hcap : n.toNat + m.toNat ≤ 200)
    (hbound : first.toNat + n.toNat + m.toNat ≤ 2 ^ 64) :
    (req.withRange first n).ValidRange := by
  constructor <;> simp only [withRange] <;> omega

theorem validRange_right (hm : 1 ≤ m.toNat)
    (hcap : n.toNat + m.toNat ≤ 200)
    (hbound : first.toNat + n.toNat + m.toNat ≤ 2 ^ 64) :
    (req.withRange (first + n) m).ValidRange := by
  have hsum : (first + n).toNat = first.toNat + n.toNat := by
    rw [UInt64.toNat_add]
    omega
  constructor <;> simp only [withRange, hsum] <;> omega

end RequestBody

namespace XRPVerifier

variable {x : XRPVerifier} {reads : Reads} {req : RequestBody}
  {first count first' count' paymentId : UInt64} {eventHash : String}

theorem scanReissues_withRange (remaining : ℕ) (reissueNum : UInt64) :
    x.scanReissues reads (req.withRange first count) eventHash paymentId
        remaining reissueNum =
      x.scanReissues reads req eventHash paymentId remaining
        reissueNum := by
  induction remaining generalizing reissueNum with
  | zero => rfl
  | succ remaining ih =>
      have hfee : x.reissueMaxFee reads (req.withRange first count) eventHash
            paymentId reissueNum =
          x.reissueMaxFee reads req eventHash paymentId reissueNum := rfl
      simp only [scanReissues, hfee, ih]

theorem countReissues_withRange :
    x.countReissues reads (req.withRange first count) eventHash paymentId =
      x.countReissues reads req eventHash paymentId := by
  have hprobe : x.probeReissueCap reads (req.withRange first count) eventHash
        paymentId =
      x.probeReissueCap reads req eventHash paymentId := rfl
  simp only [countReissues, scanReissues_withRange, hprobe]

/-- Where a payment stands in a batch does not matter. -/
theorem estimates_withRange {estimate : PaymentEstimate} :
    (∃ event, x.Estimates reads (req.withRange first count) paymentId
        estimate event) ↔
      ∃ event, x.Estimates reads req paymentId estimate event := by
  constructor
  · rintro ⟨event, hestimates⟩
    refine ⟨event, hestimates.paymentId_eq, hestimates.sequence_eq,
      hestimates.assigned, ?_⟩
    simpa only [countReissues_withRange] using hestimates.estimate_eq
  · rintro ⟨event, hestimates⟩
    refine ⟨event, hestimates.paymentId_eq, hestimates.sequence_eq,
      hestimates.assigned, ?_⟩
    simpa only [countReissues_withRange] using hestimates.estimate_eq

theorem pays_withRange {sequence : UInt64} {row : FeeRow} :
    x.Pays (req.withRange first count) sequence row ↔
      x.Pays req sequence row := by
  constructor
  · rintro ⟨honly, hconsistent, hfee⟩
    exact ⟨honly, hconsistent, hfee⟩
  · rintro ⟨honly, hconsistent, hfee⟩
    exact ⟨honly, hconsistent, hfee⟩

theorem evaluate_faultless_iff {source : PmwSource} {n : UInt64}
    (hkeep : KeepsInstructionTopic source.repo.convertDatabaseLogToChainLog)
    (hrange : (req.withRange first count).ValidRange)
    {evaluation : Evaluation} :
    (newXRPVerifier source).evaluate (.faultless n)
        (req.withRange first count) = .ok evaluation ↔
      List.Forall₂ (fun paymentId estimate => ∃ event,
        (newXRPVerifier source).Estimates (.faultless n) req paymentId
          estimate event)
        (req.withRange first count).paymentIDs evaluation.payments ∧
      List.Forall₂ (fun (payment : PaymentEstimate) row =>
        (newXRPVerifier source).Pays req payment.sequence row)
        evaluation.payments evaluation.rows := by
  rw [evaluate_eq_ok_iff hkeep, validateBatchRange_eq_ok_iff]
  simp only [hrange, estimates_withRange, pays_withRange, Reads.faultless,
    true_and]

/-- The evaluation of a whole batch is the concatenation of the evaluations
of its parts. -/
theorem evaluate_append {source : PmwSource} {N first n m : UInt64}
    (hkeep : KeepsInstructionTopic source.repo.convertDatabaseLogToChainLog)
    (hn : 1 ≤ n.toNat) (hm : 1 ≤ m.toNat)
    (hcap : n.toNat + m.toNat ≤ 200)
    (hbound : first.toNat + n.toNat + m.toNat ≤ 2 ^ 64)
    {evaluation : Evaluation} :
    (newXRPVerifier source).evaluate (.faultless N)
        (req.withRange first (n + m)) = .ok evaluation ↔
      ∃ left right,
        (newXRPVerifier source).evaluate (.faultless N)
          (req.withRange first n) = .ok left ∧
        (newXRPVerifier source).evaluate (.faultless N)
          (req.withRange (first + n) m) = .ok right ∧
        evaluation = ⟨left.payments ++ right.payments,
          left.rows ++ right.rows⟩ := by
  simp only [evaluate_faultless_iff hkeep
      (RequestBody.validRange_whole hn hcap hbound),
    evaluate_faultless_iff hkeep
      (RequestBody.validRange_left hn hcap hbound),
    evaluate_faultless_iff hkeep
      (RequestBody.validRange_right hm hcap hbound),
    RequestBody.paymentIDs_append hcap]
  constructor
  · rintro ⟨hestimates, hrows⟩
    obtain ⟨lefts, rights, hleft, hright, hpayments⟩ :=
      forall₂_append_left_iff.mp hestimates
    rw [hpayments] at hrows
    obtain ⟨leftRows, rightRows, hleftRows, hrightRows, hrowsEq⟩ :=
      forall₂_append_left_iff.mp hrows
    refine ⟨⟨lefts, leftRows⟩, ⟨rights, rightRows⟩, ⟨hleft, hleftRows⟩,
      ⟨hright, hrightRows⟩, ?_⟩
    cases evaluation
    simp_all
  · rintro ⟨left, right, ⟨hleft, hleftRows⟩, ⟨hright, hrightRows⟩, rfl⟩
    exact ⟨forall₂_append_left_iff.mpr ⟨_, _, hleft, hright, rfl⟩,
      forall₂_append_left_iff.mpr ⟨_, _, hleftRows, hrightRows, rfl⟩⟩

theorem verify_additive
    (source : PmwSource)
    (hkeep : KeepsInstructionTopic source.repo.convertDatabaseLogToChainLog)
    (N : Hash → String → UInt64) (opType : Hash) (sender : String)
    (untilTimestamp first n m : UInt64)
    (hn : 1 ≤ n.toNat) (hm : 1 ≤ m.toNat)
    (hcap : n.toNat + m.toNat ≤ 200)
    (hbound : first.toNat + n.toNat + m.toNat - 1 ≤ 2 ^ 64 - 1) :
    let run := fun first count =>
      (newXRPVerifier source).verify
        (.faultless (N source.sourceIDEncoded sender))
        ⟨opType, sender, first, count, untilTimestamp⟩
    ((∃ whole, run first (n + m) = .ok whole) ↔
      (∃ left, run first n = .ok left) ∧
        ∃ right, run (first + n) m = .ok right) ∧
    ∀ whole left right,
      run first (n + m) = .ok whole → run first n = .ok left →
      run (first + n) m = .ok right →
      whole.actualFee = left.actualFee + right.actualFee ∧
        whole.estimatedFee = left.estimatedFee + right.estimatedFee ∧
        whole.lastPaymentId = right.lastPaymentId := by
  intro run
  have hbound' : first.toNat + n.toNat + m.toNat ≤ 2 ^ 64 := by omega
  let base : RequestBody := ⟨opType, sender, 0, 0, untilTimestamp⟩
  have hrun : ∀ first count response, run first count = .ok response ↔
      ∃ evaluation,
        (newXRPVerifier source).evaluate
          (.faultless (N source.sourceIDEncoded sender))
          (base.withRange first count) = .ok evaluation ∧
        response = ⟨first + count - 1, evaluation.actualFee,
          evaluation.estimatedFee⟩ := by
    intro first count response
    exact verify_eq_ok_iff
  constructor
  · constructor
    · rintro ⟨whole, hwhole⟩
      obtain ⟨evaluation, hevaluation, -⟩ := (hrun _ _ _).mp hwhole
      obtain ⟨left, right, hleft, hright, -⟩ :=
        (evaluate_append hkeep hn hm hcap hbound').mp hevaluation
      exact ⟨⟨_, (hrun _ _ _).mpr ⟨left, hleft, rfl⟩⟩,
        ⟨_, (hrun _ _ _).mpr ⟨right, hright, rfl⟩⟩⟩
    · rintro ⟨⟨leftResponse, hleft⟩, ⟨rightResponse, hright⟩⟩
      obtain ⟨left, hleft, -⟩ := (hrun _ _ _).mp hleft
      obtain ⟨right, hright, -⟩ := (hrun _ _ _).mp hright
      exact ⟨_, (hrun _ _ _).mpr ⟨_,
        (evaluate_append hkeep hn hm hcap hbound').mpr
          ⟨left, right, hleft, hright, rfl⟩, rfl⟩⟩
  · intro whole leftResponse rightResponse hwhole hleft hright
    obtain ⟨evaluation, hevaluation, rfl⟩ := (hrun _ _ _).mp hwhole
    obtain ⟨left, hleftEval, rfl⟩ := (hrun _ _ _).mp hleft
    obtain ⟨right, hrightEval, rfl⟩ := (hrun _ _ _).mp hright
    have happend := (evaluate_append hkeep hn hm hcap hbound').mpr
      ⟨left, right, hleftEval, hrightEval, rfl⟩
    rw [hevaluation, Except.ok.injEq] at happend
    subst happend
    refine ⟨?_, ?_, ?_⟩
    · simp [Evaluation.actualFee]
    · simp [Evaluation.estimatedFee]
    · simp only [UInt64.add_assoc]

end XRPVerifier

end FeeProof

theorem verify_additive_smallLedger :
    SmallLedger.feeVerifier.verify (.faultless 100)
        (SmallLedger.feeRequest 1 2) = .ok ⟨2, 24, 45⟩ ∧
      (24 : Int) = 12 + 12 ∧ (45 : Int) = 25 + 20 := by
  have hwhole : SmallLedger.feeVerifier.verify (.faultless 100)
      (SmallLedger.feeRequest 1 2) = .ok ⟨2, 24, 45⟩ :=
    FeeProof.XRPVerifier.verify_eq_ok_iff.mpr
      ⟨_, SmallLedger.evaluate_batch, rfl⟩
  have hleft : SmallLedger.feeVerifier.verify (.faultless 100)
      (SmallLedger.feeRequest 1 1) = .ok ⟨1, 12, 25⟩ :=
    FeeProof.XRPVerifier.verify_eq_ok_iff.mpr
      ⟨_, SmallLedger.evaluate_first, rfl⟩
  have hright : SmallLedger.feeVerifier.verify (.faultless 100)
      (SmallLedger.feeRequest 2 1) = .ok ⟨2, 12, 20⟩ :=
    FeeProof.XRPVerifier.verify_eq_ok_iff.mpr
      ⟨_, SmallLedger.evaluate_second, rfl⟩
  obtain ⟨-, hsum⟩ := FeeProof.XRPVerifier.verify_additive
    SmallLedger.source SmallLedger.keepsInstructionTopic (fun _ _ => 100)
    (SmallLedger.textWord "F_XRP") "rSender" 60 1 1 1 (by decide)
    (by decide) (by decide) (by decide)
  obtain ⟨hactual, hestimated, -⟩ :=
    hsum ⟨2, 24, 45⟩ ⟨1, 12, 25⟩ ⟨2, 12, 20⟩ hwhole hleft hright
  exact ⟨hwhole, hactual, hestimated⟩

end VerifierApi

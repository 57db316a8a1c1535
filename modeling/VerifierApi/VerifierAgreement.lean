import VerifierApi.FeeProofAdditivity

/-!
# Agreement of the two PMW verifiers

A payment which the payment-status verifier attests is a batch of one for
the fee-proof verifier.  The two read the event and the row through
different queries and decode the payload into different structures; they
still find the same event, the same row and the same fee, so that only the
reissue scan can make the batch fail.
-/

namespace VerifierApi

/-- The three decoders read the same fields of a payload. -/
def DecodersAgree (library : PmwLibrary) : Prop :=
  ∀ response raw, library.unmarshalTransaction response = .ok raw →
    library.unmarshalIdentity response =
        .ok ⟨raw.account, raw.sequence, raw.hash⟩ ∧
      library.unmarshalFee response = .ok raw.fee

namespace FeeProof

theorem paymentIDs_one (opType : Hash) (sender : String)
    (paymentId untilTimestamp : UInt64) :
    (RequestBody.mk opType sender paymentId 1 untilTimestamp).paymentIDs =
      [paymentId] := by
  have hone : List.range (1 : UInt64).toNat = [0] := by decide
  simp only [RequestBody.paymentIDs, hone, List.map_cons, List.map_nil]
  rw [show UInt64.ofNat 0 = 0 from rfl, UInt64.add_zero]

theorem validRange_one (opType : Hash) (sender : String)
    (paymentId untilTimestamp : UInt64) :
    (RequestBody.mk opType sender paymentId 1
      untilTimestamp).ValidRange := by
  have hone : (1 : UInt64).toNat = 1 := rfl
  have hlt := paymentId.toNat_lt
  constructor <;> simp only [hone] <;> omega

theorem pays_of_attested {source : PmwSource}
    (hdecoders : DecodersAgree source.library)
    {req : PaymentStatus.RequestBody} {feeReq : RequestBody}
    {message : PaymentInstructionMessage}
    {response : PaymentStatus.ResponseBody}
    (hsender : feeReq.senderAddress = req.senderAddress)
    (attested :
      PaymentStatus.XRPVerifier.Attested source req message response) :
    (newXRPVerifier source).Pays feeReq message.nonce
      ⟨attested.tx, response.transactionFee⟩ := by
  obtain ⟨hidentity, hfee⟩ := hdecoders _ _ attested.unmarshals
  have hparse := attested.builds.fee
  have hnonempty : attested.raw.fee ≠ "" := by
    intro hempty
    have hfail : (parseNonNegativeBigInt "").isOk = false := by
      decide
    rw [hempty] at hparse
    rw [hparse] at hfail
    simp [Except.isOk, Except.toBool] at hfail
  refine ⟨?_, ?_, ?_⟩
  · rw [hsender]
    exact attested.onlyRow
  · refine ensure_bind_eq_ok.mpr ⟨attested.size, ?_⟩
    refine bind_eq_ok.mpr ⟨_, mapError_eq_ok.mpr hidentity, ?_⟩
    exact checkRowConsistency_eq_ok_iff.mpr
      ⟨attested.hash, attested.account, attested.sequence⟩
  · refine ensure_bind_eq_ok.mpr ⟨attested.size, ?_⟩
    refine bind_eq_ok.mpr ⟨_, mapError_eq_ok.mpr hfee, ?_⟩
    refine ensure_bind_eq_ok.mpr ⟨hnonempty, ?_⟩
    refine bind_eq_ok.mpr ⟨_, mapError_eq_ok.mpr hparse, ?_⟩
    exact ensure_bind_eq_ok.mpr ⟨attested.builds.feeBound, rfl⟩

namespace XRPVerifier

variable {x : XRPVerifier} {reads : Reads} {req : RequestBody}

/-- A failing reissue scan of the only payment is the error of the run. -/
theorem evaluate_error_of_countReissues
    (hkeep : KeepsInstructionTopic x.repo.convertDatabaseLogToChainLog)
    {paymentId : UInt64} (hrange : x.validateBatchRange req = .ok ())
    (hids : req.paymentIDs = [paymentId])
    (hfault : reads.payEventsFault = none)
    (event : x.PayEvent req.opType req.senderAddress paymentId)
    (hassigned : ∃ initial, reads.initialNonce paymentId = .ok initial ∧
      AssignedSequence initial paymentId event.message.nonce)
    (hmaxFee : exceedsMaxXRPDrops event.message.maxFee = false)
    {err : GoError}
    (herr : x.countReissues reads req event.eventHash paymentId =
      .error err) :
    x.evaluate reads req = .error err := by
  obtain ⟨payLogs, hpayLogs⟩ : ∃ payLogs,
      x.repo.fetchInstructionLogs reads.payEventsFault event.eventHash
        [event.id] = .ok payLogs := by
    rw [hfault, DBRepo.fetchInstructionLogs_succeeds_iff hkeep]
    intro id hid
    rw [List.mem_singleton.mp hid]
    exact .inr ⟨event.row, event.log, event.onlyRow, event.converts⟩
  have hlookup : payLogs.lookup event.id = some event.log :=
    (DBRepo.lookup_fetchInstructionLogs hkeep hpayLogs
      (List.mem_singleton_self _) _).mpr
      ⟨event.row, event.onlyRow, event.converts⟩
  have hestimate : x.estimatePayment reads req event.eventHash payLogs
      paymentId event.id = .error err := by
    obtain ⟨maxFee, hfee, hnonneg, hsupply⟩ :=
      (exceedsMaxXRPDrops_eq_false_iff _).mp hmaxFee
    rw [estimatePayment_eq_bind hlookup event.decode_eq event.consistent
      hassigned hfee hnonneg hsupply, herr]
    rfl
  refine bind_eq_error.mpr (.inr ⟨(), hrange, ?_⟩)
  refine bind_eq_error.mpr (.inr ⟨_, event.eventHash_eq, ?_⟩)
  refine bind_eq_error.mpr (.inr ⟨[(paymentId, event.id)], ?_, ?_⟩)
  · rw [hids, mapM_eq_ok_iff]
    refine .cons (bind_eq_ok.mpr ⟨event.id, ?_, rfl⟩) .nil
    exact mapError_eq_ok.mpr event.id_eq
  refine bind_eq_error.mpr (.inr ⟨payLogs, mapError_eq_ok.mpr hpayLogs, ?_⟩)
  refine bind_eq_error.mpr (.inl ?_)
  rw [computeEstimatedFee, List.mapM_cons, hestimate]
  rfl

end XRPVerifier

theorem verifiers_agree
    (source : PmwSource)
    (hkeep : KeepsInstructionTopic source.repo.convertDatabaseLogToChainLog)
    (hdecoders : DecodersAgree source.library)
    (opType : Hash) (sender : String) (p untilTimestamp : UInt64)
    (paymentReads : PaymentStatus.Reads) (feeReads : Reads)
    (hpayEvents : feeReads.payEventsFault = none)
    (htransactions : feeReads.transactionsFault = none)
    (hnonce : feeReads.initialNonce p = paymentReads.initialNonce)
    (response : PaymentStatus.ResponseBody)
    (h : PaymentStatus.XRPVerifier.verify source paymentReads
      ⟨opType, sender, p⟩ = .ok response) :
    ∃ eventHash g,
      teeInstructionsSentEventSignature source.parsedTeeInstructionsABI =
        .ok eventHash ∧
      response.maxFee = some g ∧
      ((∃ err,
        (newXRPVerifier source).countReissues feeReads
          ⟨opType, sender, p, 1, untilTimestamp⟩ eventHash p = .error err ∧
        (newXRPVerifier source).verify feeReads
          ⟨opType, sender, p, 1, untilTimestamp⟩ = .error err) ∨
      ∃ reissues estimatedFee,
        (newXRPVerifier source).countReissues feeReads
          ⟨opType, sender, p, 1, untilTimestamp⟩ eventHash p =
            .ok reissues ∧
        (newXRPVerifier source).verify feeReads
          ⟨opType, sender, p, 1, untilTimestamp⟩ =
            .ok ⟨p, response.transactionFee, estimatedFee⟩ ∧
        g ≤ estimatedFee ∧
        (estimatedFee = g ↔ ∀ reissue ∈ reissues, reissue ≤ g)) := by
  obtain ⟨event, hassigned, ⟨attested⟩, -⟩ :=
    PaymentStatus.XRPVerifier.verify_attested h
  have hbuilds := attested.builds
  obtain ⟨g, hg, hnonneg, hbound⟩ :=
    (exceedsMaxXRPDrops_eq_false_iff _).mp hbuilds.maxFeeBound
  let feeReq : RequestBody := ⟨opType, sender, p, 1, untilTimestamp⟩
  have hids : feeReq.paymentIDs = [p] := paymentIDs_one _ _ _ _
  have hrange : (newXRPVerifier source).validateBatchRange feeReq = .ok () :=
    XRPVerifier.validateBatchRange_eq_ok_iff.mpr (validRange_one _ _ _ _)
  rw [← hnonce] at hassigned
  refine ⟨event.eventHash, g, event.eventHash_eq,
    hbuilds.fromMessage.2.2.2.1.trans hg, ?_⟩
  rcases exists_ok_or_error ((newXRPVerifier source).countReissues feeReads
    feeReq event.eventHash p) with ⟨reissues, hreissues⟩ | ⟨err, herr⟩
  · right
    refine ⟨reissues, g + residuals g reissues, hreissues, ?_, ?_, ?_⟩
    · apply XRPVerifier.verify_eq_ok_iff.mpr
      have hestimates : (newXRPVerifier source).Estimates feeReads feeReq p
          ⟨p, event.message.nonce, g + residuals g reissues⟩ event :=
        ⟨rfl, rfl, hassigned, g, reissues, hg, hnonneg, hbound, hreissues,
          rfl⟩
      refine ⟨⟨[⟨p, event.message.nonce, g + residuals g reissues⟩],
        [⟨attested.tx, response.transactionFee⟩]⟩, ?_, ?_⟩
      · apply (XRPVerifier.evaluate_eq_ok_iff hkeep).mpr
        refine ⟨hrange, hpayEvents, htransactions, ?_, ?_⟩
        · rw [hids]
          exact .cons ⟨event, hestimates⟩ .nil
        · exact .cons (pays_of_attested hdecoders rfl attested) .nil
      · simp [Evaluation.actualFee, Evaluation.estimatedFee]
    · have := residuals_nonneg g reissues
      omega
    · rw [← residuals_eq_zero_iff]
      omega
  · left
    refine ⟨err, herr, bind_eq_error.mpr (.inl ?_)⟩
    exact XRPVerifier.evaluate_error_of_countReissues hkeep hrange hids
      hpayEvents event hassigned hbuilds.maxFeeBound herr

end FeeProof

theorem SmallLedger.decodersAgree :
    DecodersAgree SmallLedger.source.library := by
  intro response raw hraw
  have hunmarshal : SmallLedger.unmarshal response = .ok raw := hraw
  constructor
  · exact bind_eq_ok.mpr ⟨raw, hunmarshal, rfl⟩
  · exact bind_eq_ok.mpr ⟨raw, hunmarshal, rfl⟩

theorem verifiers_agree_smallLedger :
    ∃ estimatedFee,
      SmallLedger.feeVerifier.verify SmallLedger.feeReads
        (SmallLedger.feeRequest 1 1) = .ok ⟨1, 12, estimatedFee⟩ ∧
      20 ≤ estimatedFee ∧ estimatedFee ≠ 20 := by
  obtain ⟨eventHash, g, hevent, hg, hrun⟩ := FeeProof.verifiers_agree
    SmallLedger.source SmallLedger.keepsInstructionTopic
    SmallLedger.decodersAgree (SmallLedger.textWord "F_XRP") "rSender" 1 60
    SmallLedger.paymentReads SmallLedger.feeReads rfl rfl rfl _
    SmallLedger.verify_payment1
  obtain rfl : SmallLedger.eventID.hex = eventHash := by
    simpa using SmallLedger.eventSignature.symm.trans hevent
  obtain rfl : 20 = g := by
    simpa [SmallLedger.paymentResponse] using hg
  have hcount : SmallLedger.feeVerifier.countReissues SmallLedger.feeReads
      (SmallLedger.feeRequest 1 1) SmallLedger.eventID.hex 1 = .ok [25] :=
    SmallLedger.countReissues_first
  rcases hrun with ⟨err, herr, -⟩ | ⟨reissues, fee, hreissues, hverify, hle,
    hexact⟩
  · have hclash := herr.symm.trans hcount
    simp at hclash
  · obtain rfl : reissues = [25] := by
      simpa using hreissues.symm.trans hcount
    refine ⟨fee, hverify, hle, ?_⟩
    intro hfee
    have hall := hexact.mp hfee 25 (by simp)
    omega

end VerifierApi

import VerifierApi.InstructionIds
import VerifierApi.PaymentBinding
import Mathlib.Data.List.GetD
import Mathlib.Data.Nat.Find

/-!
# The estimated fee of a batch

Over tables without corrupt events, the estimated fee is a sum which can be
read off the tables: each payment contributes its own fee budget and, for
each reissue of its unbroken series in the window, what the reissue allows
beyond that budget.  The run fails only if some series is longer than the
cap.
-/

namespace VerifierApi

namespace FeeProof

namespace XRPVerifier

variable {x : XRPVerifier} {reads : Reads} {req : RequestBody}
  {eventHash : String} {paymentId : UInt64}

/-! ## The series of reissues -/

/-- The reissues from the first one on, up to the given number, exist and
lie in the window. -/
def ReissuesThrough (x : XRPVerifier) (req : RequestBody)
    (eventHash : String) (paymentId : UInt64) (r : ℕ) : Prop :=
  ∀ k, 1 ≤ k → k ≤ r →
    x.ReissueInWindow req eventHash paymentId (UInt64.ofNat k)

open Classical in
/-- The length of the longest series. -/
noncomputable def reissueCount (x : XRPVerifier) (req : RequestBody)
    (eventHash : String) (paymentId : UInt64) : ℕ :=
  Nat.findGreatest (x.ReissuesThrough req eventHash paymentId) (2 ^ 64 - 1)

theorem reissuesThrough_reissueCount :
    x.ReissuesThrough req eventHash paymentId
      (x.reissueCount req eventHash paymentId) := by
  classical
  have hzero : x.ReissuesThrough req eventHash paymentId 0 := by
    intro k hlow hhigh
    omega
  exact Nat.findGreatest_spec (Nat.zero_le _) hzero

/-- The series breaks behind its last reissue. -/
theorem not_inWindow_reissueCount
    (h : x.reissueCount req eventHash paymentId + 1 < 2 ^ 64) :
    ¬ x.ReissueInWindow req eventHash paymentId
      (UInt64.ofNat (x.reissueCount req eventHash paymentId + 1)) := by
  classical
  intro hnext
  apply Nat.findGreatest_is_greatest (Nat.lt_succ_self _)
    (Nat.le_sub_one_of_lt h)
  intro k hlow hhigh
  by_cases hlast : k = x.reissueCount req eventHash paymentId + 1
  · rw [hlast]
    exact hnext
  · apply reissuesThrough_reissueCount k hlow
    change k ≤ x.reissueCount req eventHash paymentId + 1 at hhigh
    omega

theorem reissueCount_eq {r : ℕ} (hr : r + 1 < 2 ^ 64)
    (hthrough : x.ReissuesThrough req eventHash paymentId r)
    (hnext : ¬ x.ReissueInWindow req eventHash paymentId
      (UInt64.ofNat (r + 1))) :
    x.reissueCount req eventHash paymentId = r := by
  classical
  have hle : r ≤ x.reissueCount req eventHash paymentId :=
    Nat.le_findGreatest (by omega) hthrough
  by_contra hne
  exact hnext (reissuesThrough_reissueCount (r + 1) (by omega) (by omega))

/-! ## The scan -/

/-- The scan counts up to the first number which ends it, or up to the
cap. -/
theorem scanReissues_eq {count remaining : ℕ} {reissueNum : UInt64}
    {fee : ℕ → Int}
    (hcounted : ∀ i < count, i < remaining →
      x.reissueMaxFee reads req eventHash paymentId
        (reissueNum + UInt64.ofNat i) = .ok (some (fee i)))
    (hend : count < remaining →
      x.reissueMaxFee reads req eventHash paymentId
        (reissueNum + UInt64.ofNat count) = .ok none) :
    x.scanReissues reads req eventHash paymentId remaining reissueNum =
      .ok ((List.range (min count remaining)).map fee,
        decide (count < remaining)) := by
  induction remaining generalizing count reissueNum fee with
  | zero => simp [scanReissues]
  | succ remaining ih =>
      unfold scanReissues
      cases count with
      | zero =>
          have hnone : x.reissueMaxFee reads req eventHash paymentId
              reissueNum = .ok none := by
            simpa using hend (Nat.succ_pos remaining)
          rw [hnone]
          simp [bind, Except.bind]
      | succ count =>
          have hfirst : x.reissueMaxFee reads req eventHash paymentId
              reissueNum = .ok (some (fee 0)) := by
            simpa using hcounted 0 (Nat.succ_pos count)
              (Nat.succ_pos remaining)
          have hrest : x.scanReissues reads req eventHash paymentId remaining
              (reissueNum + 1) =
                .ok ((List.range (min count remaining)).map
                  (fun i => fee (i + 1)), decide (count < remaining)) := by
            apply ih
            · intro i hi hremaining
              rw [succ_add_ofNat]
              exact hcounted (i + 1) (by omega) (by omega)
            · intro hcount
              rw [succ_add_ofNat]
              exact hend (by omega)
          rw [hfirst]
          simp [bind, Except.bind, hrest, Nat.add_min_add_right,
            List.range_succ_eq_map, Function.comp_def]

/-! ## Sound tables -/

/-- The reissues of a payment, as far as they exist, are sound: each has a
single row, whose event is bound to the payment and within the supply. -/
def SoundReissues (x : XRPVerifier) (req : RequestBody) (eventHash : String)
    (paymentId : UInt64) (maxFee : UInt64 → Int) : Prop :=
  ∀ reissueNum id, reissueNum ≠ 0 →
    x.reissueInstructionID req paymentId reissueNum = .ok id →
    x.repo.instructionLogs eventHash id = [] ∨
      ∃ row log, x.repo.instructionLogs eventHash id = [row] ∧
        x.repo.convertDatabaseLogToChainLog row = .ok log ∧
        x.CountsFor req paymentId log (maxFee reissueNum)

variable {maxFee : UInt64 → Int} {reissueNum : UInt64}

/-- In a sound table a reissue is counted exactly if it lies in the
window. -/
theorem SoundReissues.counts
    (h : x.SoundReissues req eventHash paymentId maxFee)
    (hfault : reads.reissueFault paymentId reissueNum = none)
    (hwindow : x.ReissueInWindow req eventHash paymentId reissueNum)
    (hnum : reissueNum ≠ 0) (cannotFetch : String) :
    ∃ log, x.fetchReissue reads req eventHash paymentId cannotFetch
        reissueNum = .ok (some log) ∧
      x.CountsFor req paymentId log (maxFee reissueNum) := by
  obtain ⟨id, row, hid, hrow, htime⟩ := hwindow
  rcases h reissueNum id hnum hid with
    hnil | ⟨row', log, hrow', hconverts, hcounts⟩
  · simp [hrow] at hnil
  · obtain rfl : row = row' := by simpa [hrow] using hrow'
    refine ⟨log, fetchReissue_eq_some_iff.mpr ?_, hcounts⟩
    exact ⟨hfault, id, hid, row, hrow, hconverts, htime⟩

theorem SoundReissues.ends
    (h : x.SoundReissues req eventHash paymentId maxFee)
    (hfault : reads.reissueFault paymentId reissueNum = none)
    (hwindow : ¬ x.ReissueInWindow req eventHash paymentId reissueNum)
    (hnum : reissueNum ≠ 0) (cannotFetch : String) :
    x.fetchReissue reads req eventHash paymentId cannotFetch reissueNum =
      .ok none := by
  obtain ⟨id, hid⟩ := x.reissueInstructionID_total req paymentId reissueNum
  apply fetchReissue_eq_none_iff.mpr
  refine ⟨hfault, id, hid, ?_⟩
  rcases h reissueNum id hnum hid with
    hnil | ⟨row, log, hrow, hconverts, -⟩
  · exact .inl hnil
  · refine .inr ⟨row, log, hrow, hconverts, ?_⟩
    by_contra htime
    exact hwindow ⟨id, row, hid, hrow, UInt64.not_lt.mp htime⟩

/-! ## The reissues of a payment -/

theorem ofNat_ne_zero_of_le {k : ℕ} (hlow : 1 ≤ k) (hhigh : k ≤ 33) :
    UInt64.ofNat k ≠ 0 := by
  intro h
  have hnat := congrArg UInt64.toNat h
  rw [UInt64.toNat_ofNat'] at hnat
  have hmod : k % 2 ^ 64 = k := Nat.mod_eq_of_lt (by omega)
  rw [hmod] at hnat
  simp at hnat
  omega

theorem one_add_ofNat (i : ℕ) :
    1 + UInt64.ofNat i = UInt64.ofNat (i + 1) := by
  rw [UInt64.ofNat_add, UInt64.add_comm]
  rfl

theorem SoundReissues.scan
    (h : x.SoundReissues req eventHash paymentId maxFee)
    (hfault : ∀ reissueNum, reads.reissueFault paymentId reissueNum = none) :
    x.scanReissues reads req eventHash paymentId
        maxReissuesPerPayment.toNat 1 =
      .ok ((List.range (min (x.reissueCount req eventHash paymentId)
          32)).map (fun i => maxFee (UInt64.ofNat (i + 1))),
        decide (x.reissueCount req eventHash paymentId < 32)) := by
  apply scanReissues_eq
  · intro i hi hcap
    change i < 32 at hcap
    rw [one_add_ofNat, reissueMaxFee_eq_some_iff ""]
    apply h.counts (hfault _)
    · exact reissuesThrough_reissueCount (i + 1) (by omega) (by omega)
    · exact ofNat_ne_zero_of_le (by omega) (by omega)
  · intro hcap
    change x.reissueCount req eventHash paymentId < 32 at hcap
    rw [one_add_ofNat, reissueMaxFee_eq_none_iff ""]
    apply h.ends (hfault _)
    · exact not_inWindow_reissueCount (by omega)
    · exact ofNat_ne_zero_of_le (by omega) (by omega)

theorem SoundReissues.count
    (h : x.SoundReissues req eventHash paymentId maxFee)
    (hfault : ∀ reissueNum, reads.reissueFault paymentId reissueNum = none)
    (hcap : x.reissueCount req eventHash paymentId ≤ 32) :
    x.countReissues reads req eventHash paymentId =
      .ok ((List.range (x.reissueCount req eventHash paymentId)).map
        fun i => maxFee (UInt64.ofNat (i + 1))) := by
  unfold countReissues
  rw [h.scan hfault, Nat.min_eq_left hcap]
  by_cases hearly : x.reissueCount req eventHash paymentId < 32
  · simp [bind, Except.bind, hearly]
  · -- Exactly as many reissues as the cap: the probe finds no other one.
    have hcount : x.reissueCount req eventHash paymentId = 32 := by omega
    have hnext : ¬ x.ReissueInWindow req eventHash paymentId
        (maxReissuesPerPayment + 1) := by
      have hbreak : ¬ x.ReissueInWindow req eventHash paymentId
          (UInt64.ofNat (x.reissueCount req eventHash paymentId + 1)) :=
        not_inWindow_reissueCount (by omega)
      rw [hcount] at hbreak
      exact hbreak
    have hprobe : x.probeReissueCap reads req eventHash paymentId =
        .ok () := by
      refine bind_eq_ok.mpr ⟨none, ?_, ensure_eq_ok.mpr rfl⟩
      exact h.ends (hfault _) hnext (by decide) _
    simp [bind, Except.bind, hearly, hprobe]

theorem SoundReissues.exceeds
    (h : x.SoundReissues req eventHash paymentId maxFee)
    (hfault : ∀ reissueNum, reads.reissueFault paymentId reissueNum = none)
    (hcap : 32 < x.reissueCount req eventHash paymentId) :
    ∃ err, x.countReissues reads req eventHash paymentId = .error err ∧
      err.has .reissueLimitExceeded = true := by
  have hnext : x.ReissueInWindow req eventHash paymentId
      (maxReissuesPerPayment + 1) :=
    reissuesThrough_reissueCount 33 (by omega) hcap
  obtain ⟨log, hlog, -⟩ := h.counts (hfault _) hnext (by decide)
    s!"cannot probe reissue cap for paymentId {paymentId}"
  have hlate : ¬ x.reissueCount req eventHash paymentId < 32 := by omega
  unfold countReissues probeReissueCap
  rw [h.scan hfault, hlog]
  simp [bind, Except.bind, hlate, ensure, has_eq, errReissueLimitExceeded]

/-! ## A batch -/

/-- Tables in which every payment of the batch has one sound pay event, and
sound reissues. -/
structure SoundTables (x : XRPVerifier) (reads : Reads) (req : RequestBody)
    (eventHash : String) (payMaxFee : UInt64 → Int)
    (nonce : UInt64 → UInt64) (reissueMaxFee : UInt64 → UInt64 → Int) :
    Prop where
  eventHash_eq :
    teeInstructionsSentEventSignature x.parsedTeeInstructionsABI =
      .ok eventHash
  payEventsFault : reads.payEventsFault = none
  reissueFault : ∀ p k, reads.reissueFault p k = none
  payEvent : ∀ p ∈ req.paymentIDs,
    ∃ event : x.PayEvent req.opType req.senderAddress p,
      event.message.maxFee = some (payMaxFee p) ∧
      event.message.nonce = nonce p
  nonneg : ∀ p ∈ req.paymentIDs, 0 ≤ payMaxFee p
  le_supply : ∀ p ∈ req.paymentIDs, payMaxFee p ≤ (maxXRPDrops : Int)
  assigned : ∀ p ∈ req.paymentIDs, ∃ initial,
    reads.initialNonce p = .ok initial ∧ AssignedSequence initial p (nonce p)
  reissues : ∀ p ∈ req.paymentIDs,
    x.SoundReissues req eventHash p (reissueMaxFee p)

variable {payMaxFee : UInt64 → Int} {nonce : UInt64 → UInt64}
  {reissueMaxFee : UInt64 → UInt64 → Int}

/-- What a payment contributes to the estimated fee. -/
noncomputable def exactEstimate (x : XRPVerifier) (req : RequestBody)
    (eventHash : String) (payMaxFee : UInt64 → Int)
    (reissueMaxFee : UInt64 → UInt64 → Int) (p : UInt64) : Int :=
  payMaxFee p +
    ((List.range (x.reissueCount req eventHash p)).map fun i =>
      max 0 (reissueMaxFee p (UInt64.ofNat (i + 1)) - payMaxFee p)).sum

theorem residual_eq_max (payMaxFee reissueMaxFee : Int) :
    residual payMaxFee reissueMaxFee = max 0 (reissueMaxFee - payMaxFee) := by
  unfold residual
  split <;> omega

theorem SoundTables.estimatePayment
    (hkeep : KeepsInstructionTopic x.repo.convertDatabaseLogToChainLog)
    (h : x.SoundTables reads req eventHash payMaxFee nonce reissueMaxFee)
    {ids : List Hash} {payLogs : AList fun _ : Hash => ChainLog}
    (hpayLogs : x.repo.fetchInstructionLogs reads.payEventsFault eventHash
      ids = .ok payLogs)
    {p : UInt64} {payID : Hash} (hp : p ∈ req.paymentIDs)
    (hmem : payID ∈ ids)
    (hid : x.payInstructionID req.opType req.senderAddress p = .ok payID) :
    (x.reissueCount req eventHash p ≤ 32 →
      x.estimatePayment reads req eventHash payLogs p payID =
        .ok ⟨p, nonce p,
          x.exactEstimate req eventHash payMaxFee reissueMaxFee p⟩) ∧
    (32 < x.reissueCount req eventHash p →
      ∃ err, x.estimatePayment reads req eventHash payLogs p payID =
        .error err ∧ err.has .reissueLimitExceeded = true) := by
  obtain ⟨event, hfee, hnonce⟩ := h.payEvent p hp
  have hown : event.id = payID := event.id_unique hid
  have hsame : event.eventHash = eventHash :=
    event.eventHash_unique h.eventHash_eq
  have hlog : payLogs.lookup payID = some event.log := by
    apply (DBRepo.lookup_fetchInstructionLogs hkeep hpayLogs hmem _).mpr
    rw [← hown, ← hsame]
    exact ⟨event.row, event.onlyRow, event.converts⟩
  have hassigned : ∃ initial, reads.initialNonce p = .ok initial ∧
      AssignedSequence initial p event.message.nonce := by
    rw [hnonce]
    exact h.assigned p hp
  have hbind : x.estimatePayment reads req eventHash payLogs p payID = _ :=
    estimatePayment_eq_bind hlog event.decode_eq event.consistent hassigned
      hfee (h.nonneg p hp) (h.le_supply p hp)
  have hfault : ∀ k, reads.reissueFault p k = none := h.reissueFault p
  rw [hbind, hnonce]
  constructor
  · intro hcap
    rw [(h.reissues p hp).count hfault hcap]
    simp [bind, Except.bind, exactEstimate, residuals, residual_eq_max,
      Function.comp_def]
  · intro hcap
    obtain ⟨err, herr, hhas⟩ := (h.reissues p hp).exceeds hfault hcap
    rw [herr]
    exact ⟨err, rfl, hhas⟩

/-- Over sound tables the run of the events fails exactly if some payment
has more reissues in the window than the cap allows, and otherwise returns
the exact sum and the sequences in the order of the payments. -/
theorem computeEstimatedFee_exact (x : XRPVerifier) (reads : Reads)
    (req : RequestBody)
    (hkeep : KeepsInstructionTopic x.repo.convertDatabaseLogToChainLog)
    (eventHash : String) (payMaxFee : UInt64 → Int)
    (nonce : UInt64 → UInt64) (reissueMaxFee : UInt64 → UInt64 → Int)
    (htables : x.SoundTables reads req eventHash payMaxFee nonce
      reissueMaxFee)
    (payments : List (UInt64 × Hash))
    (hpayments : x.HasPayIDs req payments) :
    ∃ payLogs, x.repo.fetchInstructionLogs reads.payEventsFault eventHash
        (payments.map Prod.snd) = .ok payLogs ∧
      ((∃ err, x.computeEstimatedFee reads req eventHash payLogs payments =
          .error err ∧ err.has .reissueLimitExceeded = true) ↔
        ∃ p ∈ req.paymentIDs, maxReissuesPerPayment.toNat <
          x.reissueCount req eventHash p) ∧
      ((∀ p ∈ req.paymentIDs, x.reissueCount req eventHash p ≤
          maxReissuesPerPayment.toNat) →
        ∃ estimates,
          x.computeEstimatedFee reads req eventHash payLogs payments =
            .ok estimates ∧
          (estimates.map PaymentEstimate.estimatedFee).sum =
            (req.paymentIDs.map fun p => payMaxFee p +
              ((List.range (x.reissueCount req eventHash p)).map fun i =>
                max 0 (reissueMaxFee p (UInt64.ofNat (i + 1)) -
                  payMaxFee p)).sum).sum ∧
          estimates.map PaymentEstimate.sequence =
            req.paymentIDs.map nonce) := by
  obtain ⟨payLogs, hpayLogs⟩ := fetchInstructionLogs_of_events hkeep
    htables.eventHash_eq hpayments fun p hp => by
      obtain ⟨event, -⟩ := htables.payEvent p hp
      exact ⟨event⟩
  rw [← htables.payEventsFault] at hpayLogs
  have hpayment : ∀ payment ∈ payments,
      (x.reissueCount req eventHash payment.1 ≤ 32 →
        x.estimatePayment reads req eventHash payLogs payment.1 payment.2 =
          .ok ⟨payment.1, nonce payment.1, x.exactEstimate req eventHash
            payMaxFee reissueMaxFee payment.1⟩) ∧
      (32 < x.reissueCount req eventHash payment.1 →
        ∃ err, x.estimatePayment reads req eventHash payLogs payment.1
          payment.2 = .error err ∧
            err.has .reissueLimitExceeded = true) := by
    intro payment hmem
    obtain ⟨p, hp, rfl, hid⟩ := forall₂_exists_left hpayments hmem
    exact htables.estimatePayment hkeep hpayLogs hp
      (List.mem_map_of_mem hmem) hid
  have hcap : maxReissuesPerPayment.toNat = 32 := rfl
  rw [hcap]
  refine ⟨payLogs, hpayLogs, ?_, ?_⟩
  · have hexists : (∃ p ∈ req.paymentIDs,
          32 < x.reissueCount req eventHash p) ↔
        ∃ payment ∈ payments,
          ¬ x.reissueCount req eventHash payment.1 ≤ 32 := by
      rw [← hpayments.map_fst]
      simp
    rw [hexists]
    refine FailsWith.mapM_iff (fun payment hmem => (hpayment payment hmem).1)
      fun payment hmem hmore => ?_
    exact (hpayment payment hmem).2 (Nat.lt_of_not_le hmore)
  · intro hall
    rw [← hpayments.map_fst, List.forall_mem_map] at hall
    refine ⟨_, mapM_eq_ok_map fun payment hmem =>
      (hpayment payment hmem).1 (hall payment hmem), ?_, ?_⟩
    · rw [← hpayments.map_fst, List.map_map, List.map_map]
      rfl
    · rw [← hpayments.map_fst, List.map_map, List.map_map]
      rfl

end XRPVerifier

end FeeProof

namespace SmallLedger

theorem getD_packInstruction (opType opCommand sourceID : Hash)
    (account : List UInt8) (paymentId reissueNumber : UInt64) {i : ℕ}
    (hi : i < 160) :
    (packInstruction opType opCommand sourceID account paymentId
        reissueNumber).getD i 0 =
      (opType.bytes ++ opCommand.bytes ++ sourceID.bytes ++ abiWord 192 ++
        abiWord paymentId.toNat).getD i 0 := by
  have hlength : i < (opType.bytes ++ opCommand.bytes ++ sourceID.bytes ++
      abiWord 192 ++ abiWord paymentId.toNat).length := by
    simpa [opType.length_bytes, opCommand.length_bytes,
      sourceID.length_bytes] using hi
  rw [← List.getD_append _ (abiWord reissueNumber.toNat ++
    (abiWord account.length ++ (account ++ List.replicate
      ((account.length + 31) / 32 * 32 - account.length) 0))) _ _ hlength]
  simp only [packInstruction, List.append_assoc]

/-- The hash is known on the first two numbers of the reissues. -/
theorem reissueID_cases {paymentId reissueNum : UInt64} {id : Hash}
    (hpayment : paymentId = 1 ∨ paymentId = 2)
    (h : feeVerifier.reissueInstructionID (feeRequest 1 2) paymentId
      reissueNum = .ok id) :
    (paymentId = 1 ∧ id = reissue1) ∨ id = reissue2 ∨
      id = secondReissue1 ∨ id = zeroHash := by
  have hgenerated : feeVerifier.reissueInstructionID (feeRequest 1 2)
      paymentId reissueNum = .ok (keccak256 (packInstruction
        (textWord "F_XRP") (IdRequest.commandWord .reissue)
        (textWord "testXRP") (textBytes "rSender") paymentId
        reissueNum)) :=
    generateInstructionIDOfBytes_eq keccak256 .reissue (textWord "F_XRP")
      (textWord "testXRP") (textBytes "rSender") paymentId reissueNum
  obtain rfl := Except.ok.inj (h.symm.trans hgenerated)
  unfold keccak256
  rw [getD_packInstruction _ _ _ _ _ _ (by decide),
    getD_packInstruction _ _ _ _ _ _ (by decide)]
  have hcommand : ((textWord "F_XRP").bytes ++
      (IdRequest.commandWord .reissue).bytes ++ (textWord "testXRP").bytes ++
      abiWord 192 ++ abiWord paymentId.toNat).getD 32 0 = 0x52 := by
    rcases hpayment with rfl | rfl <;> decide
  have hnumber : ((textWord "F_XRP").bytes ++
      (IdRequest.commandWord .reissue).bytes ++ (textWord "testXRP").bytes ++
      abiWord 192 ++ abiWord paymentId.toNat).getD 159 0 =
        UInt8.ofNat paymentId.toNat := by
    rcases hpayment with rfl | rfl <;> decide
  rw [hcommand, hnumber]
  rcases hpayment with rfl | rfl
  · split <;> simp_all
  · split <;> simp_all

theorem soundReissues {paymentId : UInt64}
    (hpayment : paymentId = 1 ∨ paymentId = 2) :
    feeVerifier.SoundReissues (feeRequest 1 2) eventID.hex paymentId
      (fun _ => 25) := by
  intro reissueNum id _ hid
  rcases reissueID_cases hpayment hid with ⟨rfl, rfl⟩ | hother
  · right
    refine ⟨logRow reissueLog, ⟨[eventID, zeroHash, reissue1],
      logData reissueLog⟩, instructionLogs_first, ?_, countsFor_first⟩
    rw [feeVerifier_convert, convert_logRow, reissueLog]
  · left
    have hnil : logs.filter (fun log => log.id = id) = [] := by
      rcases hother with rfl | rfl | rfl <;> decide
    rw [feeVerifier_instructionLogs, hnil, List.map_nil]

theorem soundTables :
    feeVerifier.SoundTables feeReads (feeRequest 1 2) eventID.hex
      (fun _ => 20) (fun p => 99 + p) (fun _ _ => 25) where
  eventHash_eq := eventSignature
  payEventsFault := rfl
  reissueFault := fun _ _ => rfl
  payEvent := by
    intro p hp
    rcases mem_paymentIDs hp with rfl | rfl
    · exact ⟨payEvent payLog1, rfl, rfl⟩
    · exact ⟨payEvent payLog2, rfl, rfl⟩
  nonneg := by
    intro p _
    decide
  le_supply := by
    intro p _
    decide
  assigned := by
    intro p hp
    rcases mem_paymentIDs hp with rfl | rfl
    · exact ⟨100, rfl, by decide, by decide⟩
    · exact ⟨100, rfl, by decide, by decide⟩
  reissues := fun p hp => soundReissues (mem_paymentIDs hp)

theorem not_inWindow_of_missing {paymentId reissueNum : UInt64} {id : Hash}
    (hid : feeVerifier.reissueInstructionID (feeRequest 1 2) paymentId
      reissueNum = .ok id)
    (hnil : logs.filter (fun log => log.id = id) = []) :
    ¬ feeVerifier.ReissueInWindow (feeRequest 1 2) eventID.hex paymentId
      reissueNum := by
  rintro ⟨id', row, hid', hrow, -⟩
  obtain rfl := Except.ok.inj (hid.symm.trans hid')
  rw [feeVerifier_instructionLogs, hnil] at hrow
  simp at hrow

theorem reissueCount_first :
    feeVerifier.reissueCount (feeRequest 1 2) eventID.hex 1 = 1 := by
  apply FeeProof.XRPVerifier.reissueCount_eq (by decide)
  · intro k hlow hhigh
    obtain rfl : k = 1 := by omega
    refine ⟨reissue1, logRow reissueLog, by decide, instructionLogs_first,
      ?_⟩
    have htime : (30 : UInt64) ≤ 60 := by decide
    simpa only [logRow, reissueLog, feeRequest] using htime
  · have hid : feeVerifier.reissueInstructionID (feeRequest 1 2) 1 2 =
        .ok secondReissue1 := by decide
    exact not_inWindow_of_missing hid (by decide)

theorem reissueCount_second :
    feeVerifier.reissueCount (feeRequest 1 2) eventID.hex 2 = 0 := by
  apply FeeProof.XRPVerifier.reissueCount_eq (by decide)
  · intro k hlow hhigh
    omega
  · have hid : feeVerifier.reissueInstructionID (feeRequest 1 2) 2 1 =
        .ok reissue2 := by decide
    exact not_inWindow_of_missing hid (by decide)

end SmallLedger

/-- The reissue of the first payment adds five drops. -/
theorem computeEstimatedFee_exact_smallLedger :
    ∃ payLogs estimates,
      SmallLedger.feeVerifier.computeEstimatedFee SmallLedger.feeReads
          (SmallLedger.feeRequest 1 2) SmallLedger.eventID.hex payLogs
          [(1, SmallLedger.pay1), (2, SmallLedger.pay2)] = .ok estimates ∧
        (estimates.map FeeProof.PaymentEstimate.estimatedFee).sum = 45 ∧
        estimates.map FeeProof.PaymentEstimate.sequence = [100, 101] := by
  have hpayments : SmallLedger.feeVerifier.HasPayIDs
      (SmallLedger.feeRequest 1 2)
      [(1, SmallLedger.pay1), (2, SmallLedger.pay2)] :=
    .cons ⟨rfl, by decide⟩ (.cons ⟨rfl, by decide⟩ .nil)
  have hids : (SmallLedger.feeRequest 1 2).paymentIDs = [1, 2] := by decide
  have hcap : ∀ p ∈ (SmallLedger.feeRequest 1 2).paymentIDs,
      SmallLedger.feeVerifier.reissueCount (SmallLedger.feeRequest 1 2)
        SmallLedger.eventID.hex p ≤
          FeeProof.maxReissuesPerPayment.toNat := by
    intro p hp
    rcases SmallLedger.mem_paymentIDs hp with rfl | rfl
    · rw [SmallLedger.reissueCount_first]
      decide
    · rw [SmallLedger.reissueCount_second]
      decide
  obtain ⟨payLogs, -, -, hexact⟩ :=
    FeeProof.XRPVerifier.computeEstimatedFee_exact SmallLedger.feeVerifier
      SmallLedger.feeReads (SmallLedger.feeRequest 1 2)
      SmallLedger.keepsInstructionTopic SmallLedger.eventID.hex
      (fun _ => 20) (fun p => 99 + p) (fun _ _ => 25)
      SmallLedger.soundTables _ hpayments
  obtain ⟨estimates, hestimates, hsum, hsequences⟩ := hexact hcap
  refine ⟨payLogs, estimates, hestimates, ?_, ?_⟩
  · rw [hsum, hids]
    simp [SmallLedger.reissueCount_first, SmallLedger.reissueCount_second]
  · rw [hsequences, hids]
    decide

end VerifierApi

import VerifierApi.CorruptData
import VerifierApi.MultisigVerifier
import VerifierApi.TeeErrors

/-!
# The endpoints agree on every attestation type

For arbitrary errors the two switches differ.  The errors which the four
verifiers return stay in the region where the switches agree, so that both
endpoints tell the same story about every outcome.
-/

namespace VerifierApi

theorem PaymentStatus.XRPVerifier.verify_consistent
    (x : PaymentStatus.XRPVerifier) (reads : PaymentStatus.Reads)
    (req : PaymentStatus.RequestBody) :
    FailsWith Consistent (x.verify reads req) := by
  refine PaymentStatus.XRPVerifier.verify_fails.mono ?_
  rintro err (⟨hmissing, -⟩ | hfault)
  · have hterminal : TerminalError err :=
      ⟨.recordNotFound, by simp [terminalSentinels], hmissing⟩
    exact hterminal.consistent
  · exact hfault.consistent

namespace FeeProof.XRPVerifier

theorem evaluate_consistent (x : XRPVerifier) (reads : Reads)
    (req : RequestBody) : FailsWith Consistent (x.evaluate reads req) := by
  refine evaluate_fails_missed.mono ?_
  rintro err (⟨hterminal, -⟩ | hfault)
  · exact hterminal.consistent
  · exact hfault.consistent

theorem verify_consistent (x : XRPVerifier) (reads : Reads)
    (req : RequestBody) : FailsWith Consistent (x.verify reads req) := by
  refine FailsWith.bind (x.evaluate_consistent reads req) fun _ _ => ?_
  exact FailsWith.ensure_bind
    (IndexerFault.errDatabase.wrapf _).consistent fun _ => .ok _

end FeeProof.XRPVerifier

/-- The verification behind the endpoints of one attestation type, with the
answers which its run meets. -/
inductive Verification :
    (S T : Type) → (S → Except GoError T) → Prop
  | teeAvailabilityCheck {J : Type} (lib : TeeLibrary J) (v : TeeVerifier)
      (view : TeeView) :
      Verification TeeRequestBody TeeResponseBody
        fun req => (v.verify lib view req).result
  | pmwPaymentStatus (x : PaymentStatus.XRPVerifier)
      (reads : PaymentStatus.Reads) :
      Verification PaymentStatus.RequestBody PaymentStatus.ResponseBody
        (x.verify reads)
  | pmwMultisigAccountConfigured (x : Multisig.XRPVerifier)
      (reads : Multisig.Reads) :
      Verification Multisig.RequestBody Multisig.ResponseBody
        (x.verify reads)
  | pmwFeeProof (x : FeeProof.XRPVerifier) (reads : FeeProof.Reads) :
      Verification FeeProof.RequestBody FeeProof.ResponseBody
        (x.verify reads)

theorem Verification.consistent {S T : Type}
    {verifier : S → Except GoError T} (h : Verification S T verifier)
    (req : S) : FailsWith Consistent (verifier req) := by
  cases h with
  | teeAvailabilityCheck lib v view =>
      exact (v.verify_teeError lib view req).mono
        fun err herr => herr.consistent
  | pmwPaymentStatus x reads => exact x.verify_consistent reads req
  | pmwMultisigAccountConfigured x reads => exact x.verify_consistent reads req
  | pmwFeeProof x reads => exact x.verify_consistent reads req

/-- On the same request and the same outcome the two endpoints agree. -/
theorem verify_agrees_with_prepareResponseBody {S T V : Type}
    (verifier : S → Except GoError T) (h : Verification S T verifier)
    (config : EncodedAndABI S T) (fromInternal : T → V)
    (request : AttestationRequest)
    (hencode : ∀ t bytes, config.abiEncodeData t = .ok bytes → bytes ≠ []) :
    Agree (verifyEndpoint config verifier request)
      (prepareResponseBodyEndpoint config verifier fromInternal request) :=
  endpoints_agree config verifier fromInternal request hencode h.consistent

/-- A deployment whose requests name no keys at all. -/
def keylessConfig :
    EncodedAndABI Multisig.RequestBody Multisig.ResponseBody where
  attestationType := "PMWMultisigAccountConfigured"
  attestationTypeEncoded := zeroHash
  sourceID := "testXRP"
  sourceIDEncoded := zeroHash
  abiDecodeRequestData := fun _ => .ok ⟨"rAccount", [], 1⟩
  abiEncodeData := fun _ => .ok [1]

def keylessVerifier : Multisig.RequestBody →
    Except GoError Multisig.ResponseBody :=
  Multisig.XRPVerifier.verify ⟨.testXRP, fun _ => .error ⟨"no key", []⟩⟩
    ⟨0, 0, 0, 0, .error ⟨"connection refused", []⟩,
      .error ⟨"connection refused", []⟩⟩

theorem verify_agrees_keyless :
    (verifyEndpoint keylessConfig keylessVerifier
        ⟨zeroHash, zeroHash, []⟩).status = .rejected ∧
      Agree (verifyEndpoint keylessConfig keylessVerifier
          ⟨zeroHash, zeroHash, []⟩)
        (prepareResponseBodyEndpoint keylessConfig keylessVerifier id
          ⟨zeroHash, zeroHash, []⟩) := by
  refine ⟨by decide, ?_⟩
  exact verify_agrees_with_prepareResponseBody keylessVerifier
    (.pmwMultisigAccountConfigured _ _) keylessConfig id _
    (by simp [keylessConfig])

end VerifierApi

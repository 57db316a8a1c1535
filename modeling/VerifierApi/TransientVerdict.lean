import VerifierApi.TransientFaults

/-!
# Verdicts under transient faults

The revocation check of a token reports one certificate: the leaf when the
loop over its distribution points fails, and otherwise the intermediate.  A
transient fault at a point of the reported certificate keeps the verdict
retryable; one at the other certificate is not looked at.
-/

namespace VerifierApi

/-! ## The reported certificate -/

def CertName.points (x509 : X509Library) (certs : X5CCertificates) :
    CertName → List String
  | .leaf => x509.crlDistributionPoints certs.leaf
  | .intermediate => x509.crlDistributionPoints certs.intermediate

def CertName.issuer (certs : X5CCertificates) : CertName → Certificate
  | .leaf => certs.intermediate
  | .intermediate => certs.root

section Reported

variable {J : Type} (lib : TeeLibrary J) (v : TeeVerifier) (view : TeeView)
  (certs : X5CCertificates) (name : CertName)

/-- The loop over the points of a certificate. -/
def certRun : TeeRun (Option RevocationList) :=
  fetchFirstCRL lib.x509 lib.urls name (name.points lib.x509 certs)
    (name.issuer certs) (view.token.calls name)

/-- The call for one of its points. -/
def pointRun (j : Fin (name.points lib.x509 certs).length) :
    TeeRun RevocationList :=
  getOrFetchCRL lib.x509 lib.urls ((name.points lib.x509 certs).get j)
    (some (name.issuer certs)) (view.token.calls name j)

def AllPointsFail : Prop :=
  name.points lib.x509 certs ≠ [] ∧
    ∀ j, ∃ err, (pointRun lib view certs name j).result = .error err

/-- Some point of the certificate fails by a transient fault, or the wait for
it was cut short. -/
def TransientPoint : Prop :=
  ∃ j f, .fault f ∈ (pointRun lib view certs name j).events ∧
    f.Transient ∧
    ∃ err, (pointRun lib view certs name j).result = .error err

def Reported : Prop :=
  AllPointsFail lib view certs name ∧
    (name = .intermediate → ¬ AllPointsFail lib view certs .leaf)

/-- The token is not bypassed, and its chain is accepted. -/
structure TokenPath (response : TeeInfoResponse) : Prop where
  e2e : v.cfg.disableAttestationCheckE2E = false
  magicPass : response.attestation ≠ magicPass
  audience : v.cfg.teeAudience ≠ ""
  cache : v.hasCRLCache = true
  chain : acceptedChain lib.x509 lib.tokens response.attestation
    v.cfg.googleRootCertificate view.token.now = .ok certs

end Reported

section Verdict

variable {J : Type} {lib : TeeLibrary J} {v : TeeVerifier} {view : TeeView}
  {certs : X5CCertificates} {name : CertName}

theorem certRun_points {err : GoError}
    (h : (certRun lib view certs name).result = .error err) :
    name.points lib.x509 certs ≠ [] ∧
      ∀ j, ∃ cause,
        (pointRun lib view certs name j).result = .error cause ∧
        (Outage cause → Outage err) := by
  obtain ⟨hne, hloop⟩ := fetchFirstCRL_error h
  refine ⟨hne, ?_⟩
  intro j
  obtain ⟨cause, hcause, houtage⟩ :=
    (fetchFirstFrom_outage hloop).2 j.val j.isLt
  rw [Nat.zero_add] at hcause
  exact ⟨cause, hcause, houtage⟩

theorem certRun_fails_iff :
    (∃ err, (certRun lib view certs name).result = .error err) ↔
      AllPointsFail lib view certs name := by
  constructor
  · rintro ⟨err, herr⟩
    obtain ⟨hne, hpoints⟩ := certRun_points herr
    refine ⟨hne, ?_⟩
    intro j
    obtain ⟨cause, hcause, -⟩ := hpoints j
    exact ⟨cause, hcause⟩
  · rintro ⟨hne, hpoints⟩
    apply fetchFirstCRL_eq_error hne
    intro j hj
    rw [Nat.zero_add]
    exact hpoints ⟨j, hj⟩

theorem certRun_outage {err : GoError}
    (h : (certRun lib view certs name).result = .error err)
    (htransient : TransientPoint lib view certs name) : Outage err := by
  obtain ⟨j, f, hf, hkind, -⟩ := htransient
  obtain ⟨cause, hcause, houtage⟩ := (certRun_points h).2 j
  exact houtage
    ((callCRL_faultFaithful _ _).outage cause f hcause hf hkind)

/-- The error of the reported certificate is the one of the token. -/
theorem fetchCRLsForToken_of_reported {response : TeeInfoResponse}
    (hpath : TokenPath lib v view certs response)
    (hreported : Reported lib view certs name) :
    ∃ err, (certRun lib view certs name).result = .error err ∧
      (fetchCRLsForToken lib.x509 lib.tokens lib.urls view.token
        response.attestation v.cfg.googleRootCertificate).result =
          .error err := by
  obtain ⟨hfail, hleaf⟩ := hreported
  obtain ⟨err, herr⟩ := certRun_fails_iff.mpr hfail
  refine ⟨err, herr, ?_⟩
  unfold fetchCRLsForToken
  simp only [Traced.result_bind, TeeRun.check, Traced.result_lift,
    hpath.chain, Except.bind, forkJoin_result, Traced.result_ofExcept]
  cases name with
  | leaf =>
      have hown : (fetchFirstCRL lib.x509 lib.urls .leaf
          (lib.x509.crlDistributionPoints certs.leaf) certs.intermediate
          (view.token.calls .leaf)).result = .error err := herr
      rw [hown]
  | intermediate =>
      have hown : (fetchFirstCRL lib.x509 lib.urls .intermediate
          (lib.x509.crlDistributionPoints certs.intermediate) certs.root
          (view.token.calls .intermediate)).result = .error err := herr
      rcases exists_ok_or_error (certRun lib view certs .leaf).result with
        ⟨crl, hcrl⟩ | hleafFails
      · have hother : (fetchFirstCRL lib.x509 lib.urls .leaf
            (lib.x509.crlDistributionPoints certs.leaf) certs.intermediate
            (view.token.calls .leaf)).result = .ok crl := hcrl
        rw [hother, hown]
      · exact absurd (certRun_fails_iff.mp hleafFails) (hleaf rfl)

theorem dataVerification_of_reported {response : TeeInfoResponse}
    {expectedTeeID : Address} (hpath : TokenPath lib v view certs response)
    (hreported : Reported lib view certs name) :
    ∃ err, (certRun lib view certs name).result = .error err ∧
      (dataVerification lib v view response expectedTeeID).result =
        .error (.wrapf "CRL preprocessing failed" err) := by
  obtain ⟨err, herr, htoken⟩ := fetchCRLsForToken_of_reported hpath hreported
  refine ⟨err, herr, ?_⟩
  have haudience : ensure (v.cfg.teeAudience ≠ "")
      (ErrorValue.new
        "refusing to build attestation policy with empty TeeAudience: would skip audience enforcement" :
          GoError) = .ok () := if_pos hpath.audience
  simp only [dataVerification, hpath.e2e, Bool.false_eq_true, if_false,
    hpath.magicPass, Traced.result_bind, TeeRun.check, Traced.result_lift,
    haudience, Except.bind, Traced.result_mapError, tokenCRLs, hpath.cache,
    if_true, htoken, Except.mapError]

/-- With a transient fault at the reported certificate the data verification
ends with an error which is not terminal. -/
theorem dataVerification_notTerminal {response : TeeInfoResponse}
    {expectedTeeID : Address} (hpath : TokenPath lib v view certs response)
    (hreported : Reported lib view certs name)
    (htransient : TransientPoint lib view certs name) :
    ∃ err, (dataVerification lib v view response expectedTeeID).result =
        .error err ∧
      NotTerminal (classifyDataVerificationError err) := by
  obtain ⟨err, herr, hdata⟩ := dataVerification_of_reported hpath hreported
  refine ⟨_, hdata, ?_⟩
  exact ((certRun_outage herr htransient).wrapf
    _).classifyDataVerificationError_notTerminal
      (dataVerification_crlError _ _ _ hdata)

theorem verify_of_dataVerification_error {req : TeeRequestBody}
    {actionResp : ActionResponse} {response : TeeInfoResponse}
    {err : GoError}
    (hbound : (fetchBoundResult lib v view req).result =
      .ok (actionResp, response))
    (hdata : (dataVerification lib v view response req.teeId).result =
      .error err) :
    (v.verify lib view req).result =
      .error (classifyDataVerificationError err) := by
  simp only [TeeVerifier.verify, Traced.result_bind, hbound, Except.bind,
    forkJoin_result, Traced.result_ofExcept, hdata, Except.mapError]

theorem transient_never_terminal {J : Type} (lib : TeeLibrary J)
    (v : TeeVerifier) (view : TeeView) (req : TeeRequestBody) :
    (∀ err, (v.verify lib view req).result = .error err →
      (∀ f, .fault f ∈ (v.verify lib view req).events → f.Transient) →
      (classifyVerifyStatus err).1 = .retry) ∧
    (∀ actionResp response certs name,
      (fetchBoundResult lib v view req).result =
        .ok (actionResp, response) →
      TokenPath lib v view certs response →
      Reported lib view certs name →
      TransientPoint lib view certs name →
      verdict (v.verify lib view req).result = .retry) ∧
    (∀ response err,
      (dataVerification lib v view response req.teeId).result = .error err →
      (classifyVerifyStatus (classifyDataVerificationError err)).1 =
        .rejected →
      ∀ certs name, TokenPath lib v view certs response →
        Reported lib view certs name →
        ¬ TransientPoint lib view certs name) := by
  refine ⟨?_, ?_, ?_⟩
  · intro err herr hfaults
    refine (verify_failsUnder lib v view req err herr ?_).classifyVerifyStatus_eq
    intro event hevent
    cases event with
    | crlFetch url issuer => trivial
    | fault f => exact hfaults f hevent
  · intro actionResp response certs name hbound hpath hreported htransient
    obtain ⟨err, hdata, hkind⟩ :=
      dataVerification_notTerminal hpath hreported htransient
    rw [verify_of_dataVerification_error hbound hdata]
    exact hkind.classifyVerifyStatus_eq
  · intro response err herr hrejected certs name hpath hreported htransient
    obtain ⟨err', hdata, hkind⟩ :=
      dataVerification_notTerminal hpath hreported htransient
    obtain rfl := Except.error.inj (herr.symm.trans hdata)
    simp [hkind.classifyVerifyStatus_eq] at hrejected

end Verdict

/-! ## A leaf and an intermediate with one point each -/

namespace SmallTee

def certs : X5CCertificates := ⟨⟨[1]⟩, ⟨[2]⟩, ⟨[3]⟩⟩

def x509 : X509Library where
  rawSubject := Certificate.raw
  subject := fun _ => "CN=small"
  notBefore := fun _ => 0
  notAfter := fun _ => 100
  crlDistributionPoints := fun cert =>
    if cert.raw = [1] then [] else ["http://8.8.8.8/crl"]
  checkSignatureFrom := fun _ _ => .ok ()
  crlRawIssuer := RevocationList.raw
  crlIssuer := fun _ => "CN=small"
  crlNextUpdate := fun _ => some 100
  crlCheckSignatureFrom := fun _ _ => .ok ()
  pemDecode := fun _ => none
  parseRevocationList := fun data => .ok ⟨data⟩
  sha256 := fun raw => .rightPad 32 raw
  formatTime := fun _ => ""

def urls : UrlLibrary where
  parse := fun _ => .ok ⟨"http", "8.8.8.8", false, "8.8.8.8", ""⟩
  joinPath := fun base elems => .ok ("/".intercalate (base :: elems))
  parseIP := fun _ => some [8, 8, 8, 8]
  ipString := fun _ => "8.8.8.8"
  lowerNonASCII := id

def info : TeeInfo where
  challenge := zeroHash
  publicKey := ⟨zeroHash, zeroHash⟩
  initialSigningPolicyID := 1
  initialSigningPolicyHash := zeroHash
  lastSigningPolicyID := 2
  lastSigningPolicyHash := zeroHash
  state := ⟨[], zeroHash, [], zeroHash⟩
  teeTimestamp := 1
  chainID := 14

def actionResp : ActionResponse :=
  ⟨⟨zeroHash, "threshold", 1, "", zeroHash, zeroHash, [], [123, 125]⟩, [1],
    [1]⟩

def lib : TeeLibrary Unit where
  x509 := x509
  tokens := ⟨fun _ => .ok (.slice [()]), fun _ => .ok certs⟩
  urls := urls
  checksumHex := FixedBytes.hex
  quoteBytes := fun _ => ""
  unmarshalActionResponse := fun _ => .ok actionResp
  jsonValid := fun _ => true
  unmarshalTeeInfoResponse := fun _ => .ok ⟨info, "token"⟩
  actionResultHash := fun _ => zeroHash
  payloadHash := fun _ _ hash => .ok hash
  signatureToSignersAddress := fun _ _ => .ok (.replicate 20 0)
  verifySignature := fun _ _ _ => .ok ()
  opReg := zeroHash
  opTEEAttestation := zeroHash
  teeInfoHash := fun _ => .ok []
  confidentialSpaceIssuer := ""
  parseAndValidatePKIToken := fun _ _ _ _ _ =>
    .ok ⟨"CONFIDENTIAL_SPACE", "enabled", none, "", ""⟩
  pubKeysToAddresses := fun _ => .ok [.replicate 20 0]
  claimsCodeHash := fun _ => .ok zeroHash
  claimsPlatform := fun _ => .ok zeroHash

def verifier : TeeVerifier :=
  ⟨⟨none, false, false, false, some ⟨[1]⟩, "audience", 14⟩, true⟩

def request : TeeRequestBody :=
  ⟨.replicate 20 0, .replicate 20 0, "http://8.8.8.8", zeroHash, zeroHash⟩

/-- The distribution points answer with the given status codes. -/
def view (leaf intermediate : ℕ) : TeeView where
  proxyLookup := .ok []
  proxyExchange := .answered 200 (.ok [1])
  token :=
    ⟨1, fun name _ => ⟨none, 1, ⟨none, 1, .ok [],
      .answered (if name = .leaf then leaf else intermediate) (.ok []),
      false⟩, none⟩, []⟩
  relay := fun _ _ _ _ => .ok zeroHash
  delay := fun _ _ => none
  policySchedule := []
  verifySchedule := []

/-- A fault which the answer of a server with the given code is. -/
def isStatusFault (code : ℕ) : TeeEvent → Bool
  | .fault (.crlExchange (.answered statusCode _)) => statusCode = code
  | _ => false

def isCrlFetch : TeeEvent → Bool
  | .crlFetch _ _ => true
  | _ => false

theorem bound (leaf intermediate : ℕ) :
    (fetchBoundResult lib verifier (view leaf intermediate)
      request).result = .ok (actionResp, ⟨info, "token"⟩) := rfl

theorem tokenPath (leaf intermediate : ℕ) :
    TokenPath lib verifier (view leaf intermediate) certs
      ⟨info, "token"⟩ where
  e2e := rfl
  magicPass := by decide
  audience := by decide
  cache := rfl
  chain := rfl

theorem exists_error {α : Type} {run : TeeRun α}
    (h : run.result.isOk = false) : ∃ err, run.result = .error err := by
  rcases exists_ok_or_error run.result with ⟨a, ha⟩ | herr
  · simp [ha, Except.isOk, Except.toBool] at h
  · exact herr

theorem exists_statusFault {code : ℕ} {α : Type} {run : TeeRun α}
    (h : run.events.any (isStatusFault code) = true) :
    ∃ body, .fault (.crlExchange (.answered code body)) ∈ run.events := by
  rw [List.any_eq_true] at h
  obtain ⟨event, hmem, hevent⟩ := h
  unfold isStatusFault at hevent
  split at hevent
  next statusCode body =>
    rw [decide_eq_true_eq] at hevent
    exact ⟨body, hevent ▸ hmem⟩
  next => simp at hevent

theorem all_transient {α : Type} {run : TeeRun α}
    (h : run.events.all (fun event =>
      isCrlFetch event || isStatusFault 503 event) = true) :
    ∀ f, .fault f ∈ run.events → f.Transient := by
  intro f hf
  have hevent := List.all_eq_true.mp h _ hf
  simp only [isCrlFetch, Bool.false_or] at hevent
  unfold isStatusFault at hevent
  split at hevent
  next statusCode body heq =>
    rw [decide_eq_true_eq] at hevent
    cases heq
    exact .inl ⟨by omega, by omega⟩
  next => simp at hevent

theorem allPointsFail {name : CertName} {leaf intermediate : ℕ}
    (h : ∀ j, (pointRun lib (view leaf intermediate) certs name
      j).result.isOk = false) :
    AllPointsFail lib (view leaf intermediate) certs name := by
  refine ⟨?_, fun j => exists_error (h j)⟩
  cases name with
  | leaf => exact List.cons_ne_nil _ _
  | intermediate => exact List.cons_ne_nil _ _

theorem transientPoint {name : CertName} {leaf intermediate : ℕ}
    (j : Fin (name.points lib.x509 certs).length)
    (hevents : (pointRun lib (view leaf intermediate) certs name
      j).events.any (isStatusFault 503) = true)
    (h : (pointRun lib (view leaf intermediate) certs name
      j).result.isOk = false) :
    TransientPoint lib (view leaf intermediate) certs name := by
  obtain ⟨body, hmem⟩ := exists_statusFault hevents
  exact ⟨j, _, hmem, .inl ⟨by decide, by decide⟩, exists_error h⟩

end SmallTee

open SmallTee in
/-- Both points are down; or the leaf's is and the intermediate's answers
404. -/
theorem transient_never_terminal_leafDown :
    (∃ err, (verifier.verify lib (view 503 503) request).result =
        .error err ∧
      (classifyVerifyStatus err).1 = .retry) ∧
    verdict (verifier.verify lib (view 503 404) request).result =
      .retry := by
  constructor
  · have hfails : (verifier.verify lib (view 503 503)
        request).result.isOk = false := by decide
    obtain ⟨err, herr⟩ := exists_error hfails
    refine ⟨err, herr, ?_⟩
    apply (transient_never_terminal lib verifier (view 503 503)
      request).1 err herr
    apply all_transient
    decide
  · refine (transient_never_terminal lib verifier (view 503 404)
      request).2.1 actionResp ⟨info, "token"⟩ certs .leaf (bound 503 404)
        (tokenPath 503 404) ⟨allPointsFail ?_, by simp⟩
        (transientPoint ⟨0, by decide⟩ ?_ ?_)
    · decide
    · decide
    · decide

open SmallTee in
/-- The intermediate's point is down and the leaf's answers 404: the error of
the leaf is reported, and the verdict is terminal. -/
theorem unreported_outage_terminal :
    ¬ ∀ (J : Type) (lib : TeeLibrary J) (v : TeeVerifier) (view : TeeView)
      (req : TeeRequestBody) (actionResp : ActionResponse)
      (response : TeeInfoResponse) (certs : X5CCertificates)
      (name : CertName),
      (fetchBoundResult lib v view req).result =
        .ok (actionResp, response) →
      TokenPath lib v view certs response →
      AllPointsFail lib view certs name →
      TransientPoint lib view certs name →
      verdict (v.verify lib view req).result = .retry := by
  intro h
  have hretry : verdict
      (verifier.verify lib (view 404 503) request).result =
        .retry := by
    refine h Unit lib verifier (view 404 503) request actionResp
      ⟨info, "token"⟩ certs .intermediate (bound 404 503)
      (tokenPath 404 503) (allPointsFail ?_)
      (transientPoint ⟨0, by decide⟩ ?_ ?_)
    · decide
    · decide
    · decide
  have hrejected : verdict
      (verifier.verify lib (view 404 503) request).result =
        .rejected := by decide
  rw [hrejected] at hretry
  cases hretry

end VerifierApi

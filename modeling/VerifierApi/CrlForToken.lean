import VerifierApi.CrlCache

/-!
# Revocation lists for a token

A URL of a token is only fetched when the chain of the token was accepted.
A missing revocation list means that its certificate names no distribution
point; otherwise the list verifies against the issuer and stems from the
first distribution point that answered.
-/

namespace VerifierApi

section Calls

variable {lib : X509Library} {urls : UrlLibrary} {url : String}
  {issuer : Certificate}

theorem TeeRun.mem_check_events {α : Type} {x : Except GoError α}
    {event : TeeEvent} (h : event ∈ (TeeRun.check x).events) :
    event = .fault .check :=
  Traced.mem_lift_events h

theorem cachedFresh_verified {now : Int} {entry : Option CrlEntry}
    {crl : RevocationList}
    (h : cachedFresh lib now issuer entry = .ok (some crl)) :
    verifyCRLIssuer lib crl issuer = .ok () := by
  cases entry with
  | none => simp [cachedFresh] at h
  | some entry =>
      simp only [cachedFresh] at h
      split at h
      next => simp at h
      next =>
        obtain ⟨_, hverify, h⟩ := bind_eq_ok.mp h
        obtain rfl : entry.crl = crl := by simpa using h
        exact mapError_eq_ok.mp hverify

theorem receiveCRL_eq_ok_iff {crl crl' : RevocationList} :
    receiveCRL lib issuer crl = .ok crl' ↔
      verifyCRLIssuer lib crl issuer = .ok () ∧ crl = crl' := by
  simp [receiveCRL, bind_eq_ok, mapError_eq_ok, exists_unit]

theorem callCRL_verified {view : CallView} {crl : RevocationList}
    (h : (callCRL lib urls url issuer view).result = .ok crl) :
    verifyCRLIssuer lib crl issuer = .ok () := by
  unfold callCRL at h
  obtain ⟨hit, hhit, h⟩ := Traced.result_bind_eq_ok.mp h
  rw [TeeRun.check, Traced.result_lift] at hhit
  cases hit with
  | some cached =>
      obtain rfl : cached = crl := by simpa using h
      exact cachedFresh_verified hhit
  | none =>
      obtain ⟨_, -, h⟩ := Traced.result_bind_eq_ok.mp h
      split at h
      next => simp at h
      next =>
        obtain ⟨shared, -, h⟩ := Traced.result_bind_eq_ok.mp h
        rw [TeeRun.check, Traced.result_lift] at h
        obtain ⟨hverify, rfl⟩ := receiveCRL_eq_ok_iff.mp h
        exact hverify

theorem runFlight_fetches {view : FlightView} {u : String}
    {i : Certificate} :
    .crlFetch u i ∉ (runFlight lib urls url issuer view).events := by
  unfold runFlight
  intro h
  rcases Traced.mem_events_bind h with h | ⟨hit, -, h⟩
  · simpa using TeeRun.mem_check_events h
  · cases hit with
    | some crl => simp at h
    | none =>
        rcases Traced.mem_events_bind h with h | ⟨data, -, h⟩
        · simpa using Traced.mem_lift_events h
        · simpa using TeeRun.mem_check_events h

theorem callCRL_fetches {view : CallView} {u : String} {i : Certificate}
    (h : .crlFetch u i ∈ (callCRL lib urls url issuer view).events) :
    u = url ∧ i = issuer := by
  unfold callCRL at h
  rcases Traced.mem_events_bind h with h | ⟨hit, -, h⟩
  · simpa using TeeRun.mem_check_events h
  · cases hit with
    | some crl => simp at h
    | none =>
        rcases Traced.mem_events_bind h with h | ⟨_, -, h⟩
        · rw [Traced.events_report] at h
          unfold FlightView.fetches at h
          split at h
          · simp at h
          · split at h
            next => simpa using h
            next => simp at h
        · split at h
          next => simp at h
          next =>
            rcases Traced.mem_events_bind h with h | ⟨crl, -, h⟩
            · exact absurd h runFlight_fetches
            · simpa using TeeRun.mem_check_events h

end Calls

/-! ## The loop over the distribution points -/

/-- The answer of the first call which succeeds, in list order. -/
def FirstSuccess (lib : X509Library) (urls : UrlLibrary)
    (issuer : Certificate) (views : ℕ → CallView) (points : List String)
    (first : ℕ) (crl : RevocationList) : Prop :=
  ∃ before url after, points = before ++ url :: after ∧
    (getOrFetchCRL lib urls url (some issuer)
      (views (first + before.length))).result = .ok crl ∧
    ∀ j (h : j < before.length), ∃ err,
      (getOrFetchCRL lib urls (before.get ⟨j, h⟩) (some issuer)
        (views (first + j))).result = .error err

/-- Every call of the loop fails. -/
def AllFail (lib : X509Library) (urls : UrlLibrary) (issuer : Certificate)
    (views : ℕ → CallView) (points : List String) (first : ℕ) : Prop :=
  ∀ j (h : j < points.length), ∃ err,
    (getOrFetchCRL lib urls (points.get ⟨j, h⟩) (some issuer)
      (views (first + j))).result = .error err

section Loop

variable {lib : X509Library} {urls : UrlLibrary} {certName : CertName}
  {issuer : Certificate} {views : ℕ → CallView}

theorem FirstSuccess.verified {points : List String} {first : ℕ}
    {crl : RevocationList}
    (h : FirstSuccess lib urls issuer views points first crl) :
    verifyCRLIssuer lib crl issuer = .ok () := by
  obtain ⟨before, url, after, -, hok, -⟩ := h
  exact callCRL_verified hok

theorem fetchFirstFrom_fetches {points : List String} {first : ℕ}
    {errs : List GoError} {u : String} {i : Certificate}
    (h : .crlFetch u i ∈ (fetchFirstFrom lib urls certName issuer views
      points first errs).events) :
    u ∈ points ∧ i = issuer := by
  induction points generalizing first errs with
  | nil => simp [fetchFirstFrom] at h
  | cons url rest ih =>
      unfold fetchFirstFrom at h
      simp only at h
      split at h
      next crl hcall =>
        obtain ⟨rfl, rfl⟩ := callCRL_fetches h
        simp
      next err hcall =>
        rcases List.mem_append.mp h with h | h
        · obtain ⟨rfl, rfl⟩ := callCRL_fetches h
          simp
        · obtain ⟨hmem, hissuer⟩ := ih h
          exact ⟨List.mem_cons_of_mem _ hmem, hissuer⟩

theorem fetchFirstFrom_eq_ok {points : List String} {first : ℕ}
    {errs : List GoError} {crl : RevocationList}
    (h : (fetchFirstFrom lib urls certName issuer views points first
      errs).result = .ok crl) :
    FirstSuccess lib urls issuer views points first crl := by
  induction points generalizing first errs with
  | nil => simp [fetchFirstFrom] at h
  | cons url rest ih =>
      unfold fetchFirstFrom at h
      simp only at h
      split at h
      next found hcall =>
        obtain rfl : found = crl := by simpa using h
        exact ⟨[], url, rest, rfl, hcall, by simp⟩
      next err hcall =>
        obtain ⟨before, u, after, hpoints, hok, hfail⟩ := ih h
        refine ⟨url :: before, u, after, by simp [hpoints], ?_, ?_⟩
        · rw [List.length_cons, ← Nat.add_assoc, Nat.add_right_comm]
          exact hok
        · intro j hj
          cases j with
          | zero => exact ⟨err, hcall⟩
          | succ j =>
              obtain ⟨err', herr'⟩ := hfail j (by simpa using hj)
              refine ⟨err', ?_⟩
              rw [← Nat.add_assoc, Nat.add_right_comm]
              exact herr'

theorem fetchFirstFrom_eq_error {points : List String} {first : ℕ}
    {errs : List GoError}
    (hfail : AllFail lib urls issuer views points first) :
    ∃ err, (fetchFirstFrom lib urls certName issuer views points first
      errs).result = .error err := by
  rcases exists_ok_or_error (fetchFirstFrom lib urls certName issuer views
    points first errs).result with ⟨crl, hok⟩ | herror
  · obtain ⟨before, url, after, rfl, hcall, -⟩ := fetchFirstFrom_eq_ok hok
    obtain ⟨err, herr⟩ := hfail before.length (by simp)
    simp [hcall] at herr
  · exact herror

theorem fetchFirstCRL_eq_ok {points : List String}
    {crl : Option RevocationList}
    (h : (fetchFirstCRL lib urls certName points issuer views).result =
      .ok crl) :
    (crl = none ↔ points = []) ∧
      ∀ found, crl = some found →
        FirstSuccess lib urls issuer views points 0 found := by
  unfold fetchFirstCRL at h
  split at h
  next hempty =>
    obtain rfl : none = crl := by simpa using h
    simpa using hempty
  next hne =>
    obtain ⟨found, hfound, h⟩ := Traced.result_bind_eq_ok.mp h
    obtain rfl : some found = crl := by simpa using h
    refine ⟨by simpa using hne, ?_⟩
    rintro _ ⟨⟩
    exact fetchFirstFrom_eq_ok hfound

theorem fetchFirstCRL_eq_error {points : List String}
    (hne : points ≠ []) (hfail : AllFail lib urls issuer views points 0) :
    ∃ err, (fetchFirstCRL lib urls certName points issuer views).result =
      .error err := by
  rcases exists_ok_or_error (fetchFirstCRL lib urls certName points issuer
    views).result with ⟨crl, hok⟩ | herror
  · unfold fetchFirstCRL at hok
    simp only [List.isEmpty_iff, hne, if_false] at hok
    obtain ⟨found, hfound, -⟩ := Traced.result_bind_eq_ok.mp hok
    obtain ⟨err, herr⟩ := fetchFirstFrom_eq_error hfail
    rw [herr] at hfound
    simp at hfound
  · exact herror

theorem fetchFirstCRL_fetches {points : List String} {u : String}
    {i : Certificate}
    (h : .crlFetch u i ∈
      (fetchFirstCRL lib urls certName points issuer views).events) :
    u ∈ points ∧ i = issuer := by
  unfold fetchFirstCRL at h
  split at h
  next => simp at h
  next =>
    rcases Traced.mem_events_bind h with h | ⟨crl, -, h⟩
    · exact fetchFirstFrom_fetches h
    · simp at h

end Loop

/-! ## The chain -/

/-- The chain of a token under a trusted root, at the time of its check. -/
structure AcceptedChain {J : Type} (lib : X509Library)
    (tokens : TokenLibrary J) (attestationToken : String)
    (trusted : Certificate) (now : Int) (certs : X5CCertificates) :
    Prop where
  certificates : tokenCertificates tokens attestationToken = .ok certs
  root : trusted = certs.root
  rootWindow : lib.notBefore certs.root ≤ now ∧
    now ≤ lib.notAfter certs.root
  intermediateWindow : lib.notBefore certs.intermediate ≤ now ∧
    now ≤ lib.notAfter certs.intermediate
  leafWindow : lib.notBefore certs.leaf ≤ now ∧
    now ≤ lib.notAfter certs.leaf
  intermediateSigned :
    lib.checkSignatureFrom certs.intermediate certs.root = .ok ()
  leafSigned : lib.checkSignatureFrom certs.leaf certs.intermediate = .ok ()

section Token

variable {J : Type} {lib : X509Library} {tokens : TokenLibrary J}
  {urls : UrlLibrary} {view : TokenView} {attestationToken : String}
  {trusted : Certificate}

theorem checkCertValidity_eq_ok_iff {cert : Certificate} {name : String}
    {now : Int} {u : Unit} :
    checkCertValidity lib cert name now = .ok u ↔
      lib.notBefore cert ≤ now ∧ now ≤ lib.notAfter cert := by
  simp only [checkCertValidity, bind_eq_ok, ensure_eq_ok, exists_const]

theorem acceptedChain_eq_ok_iff {now : Int} {certs : X5CCertificates} :
    acceptedChain lib tokens attestationToken (some trusted) now =
        .ok certs ↔
      AcceptedChain lib tokens attestationToken trusted now certs := by
  have hraw : trusted.raw = certs.root.raw ↔ trusted = certs.root := by
    cases trusted
    cases certs.root
    simp
  simp only [acceptedChain, validateX5CChain, bind_eq_ok, ensure_eq_ok,
    mapError_eq_ok, checkCertValidity_eq_ok_iff, exists_unit,
    Except.ok.injEq, Option.some.injEq, forall_eq']
  constructor
  · rintro ⟨_, hcerts, hroot, ⟨hrootWindow, hintermediateWindow,
      hleafWindow, hintermediate, hleaf⟩, rfl⟩
    exact ⟨hcerts, hraw.mp hroot, hrootWindow, hintermediateWindow,
      hleafWindow, hintermediate, hleaf⟩
  · rintro ⟨hcerts, hroot, hrootWindow, hintermediateWindow, hleafWindow,
      hintermediate, hleaf⟩
    exact ⟨certs, hcerts, hraw.mpr hroot, ⟨hrootWindow,
      hintermediateWindow, hleafWindow, hintermediate, hleaf⟩, rfl⟩

theorem fetchCRLsForToken_eq_ok_iff {expectedRoot : Option Certificate}
    {crls : Option RevocationList × Option RevocationList} :
    (fetchCRLsForToken lib tokens urls view attestationToken
        expectedRoot).result = .ok crls ↔
      ∃ certs, acceptedChain lib tokens attestationToken expectedRoot
          view.now = .ok certs ∧
        (fetchFirstCRL lib urls .leaf (lib.crlDistributionPoints certs.leaf)
          certs.intermediate (view.calls .leaf)).result = .ok crls.1 ∧
        (fetchFirstCRL lib urls .intermediate
          (lib.crlDistributionPoints certs.intermediate) certs.root
          (view.calls .intermediate)).result = .ok crls.2 := by
  unfold fetchCRLsForToken
  simp only [Traced.result_bind_eq_ok, TeeRun.check, Traced.result_lift,
    forkJoin_result, Except.ok.injEq, Traced.result_ofExcept,
    exists_eq_left', Traced.result_pure]
  constructor
  · rintro ⟨certs, hcerts, leafCRL, hleaf, intermediateCRL, hintermediate,
      rfl⟩
    exact ⟨certs, hcerts, hleaf, hintermediate⟩
  · rintro ⟨certs, hcerts, hleaf, hintermediate⟩
    exact ⟨certs, hcerts, crls.1, hleaf, crls.2, hintermediate, rfl⟩

theorem fetchCRLsForToken_fetches {u : String} {i : Certificate}
    (h : .crlFetch u i ∈ (fetchCRLsForToken lib tokens urls view
      attestationToken (some trusted)).events) :
    ∃ certs, AcceptedChain lib tokens attestationToken trusted view.now
        certs ∧
      ((u ∈ lib.crlDistributionPoints certs.leaf ∧
          i = certs.intermediate) ∨
        (u ∈ lib.crlDistributionPoints certs.intermediate ∧
          i = certs.root)) := by
  unfold fetchCRLsForToken at h
  rcases Traced.mem_events_bind h with h | ⟨certs, hcerts, h⟩
  · simpa using TeeRun.mem_check_events h
  · rw [TeeRun.check, Traced.result_lift] at hcerts
    refine ⟨certs, acceptedChain_eq_ok_iff.mp hcerts, ?_⟩
    rcases Traced.mem_events_bind h with h | ⟨outcome, -, h⟩
    · rcases mem_forkJoin_events.mp h with h | h
      · exact .inl (fetchFirstCRL_fetches h)
      · exact .inr (fetchFirstCRL_fetches h)
    · rcases Traced.mem_events_bind h with h | ⟨leafCRL, -, h⟩
      · simp at h
      · rcases Traced.mem_events_bind h with h | ⟨intermediateCRL, -, h⟩
        · simp at h
        · simp at h

/-- Neither an unvalidated URL is fetched, nor is the revocation check of a
certificate with distribution points skipped. -/
theorem fetchCRLsForToken_never_skips (lib : X509Library)
    (tokens : TokenLibrary J) (urls : UrlLibrary) (view : TokenView)
    (attestationToken : String) (trusted : Certificate) :
    (∀ url issuer,
      .crlFetch url issuer ∈ (fetchCRLsForToken lib tokens urls view
        attestationToken (some trusted)).events →
      ∃ certs, AcceptedChain lib tokens attestationToken trusted view.now
          certs ∧
        ((url ∈ lib.crlDistributionPoints certs.leaf ∧
            issuer = certs.intermediate) ∨
          (url ∈ lib.crlDistributionPoints certs.intermediate ∧
            issuer = certs.root))) ∧
    (∀ leafCRL intermediateCRL,
      (fetchCRLsForToken lib tokens urls view attestationToken
        (some trusted)).result = .ok (leafCRL, intermediateCRL) →
      ∃ certs, AcceptedChain lib tokens attestationToken trusted view.now
          certs ∧
        (leafCRL = none ↔ lib.crlDistributionPoints certs.leaf = []) ∧
        (intermediateCRL = none ↔
          lib.crlDistributionPoints certs.intermediate = []) ∧
        (∀ crl, leafCRL = some crl →
          verifyCRLIssuer lib crl certs.intermediate = .ok () ∧
          FirstSuccess lib urls certs.intermediate (view.calls .leaf)
            (lib.crlDistributionPoints certs.leaf) 0 crl) ∧
        (∀ crl, intermediateCRL = some crl →
          verifyCRLIssuer lib crl certs.root = .ok () ∧
          FirstSuccess lib urls certs.root (view.calls .intermediate)
            (lib.crlDistributionPoints certs.intermediate) 0 crl)) ∧
    (∀ certs, AcceptedChain lib tokens attestationToken trusted view.now
        certs →
      ((lib.crlDistributionPoints certs.leaf ≠ [] ∧
          AllFail lib urls certs.intermediate (view.calls .leaf)
            (lib.crlDistributionPoints certs.leaf) 0) ∨
        (lib.crlDistributionPoints certs.intermediate ≠ [] ∧
          AllFail lib urls certs.root (view.calls .intermediate)
            (lib.crlDistributionPoints certs.intermediate) 0)) →
      ∃ err, (fetchCRLsForToken lib tokens urls view attestationToken
        (some trusted)).result = .error err) := by
  refine ⟨fun url issuer h => fetchCRLsForToken_fetches h, ?_, ?_⟩
  · intro leafCRL intermediateCRL h
    obtain ⟨certs, hcerts, hleaf, hintermediate⟩ :=
      fetchCRLsForToken_eq_ok_iff.mp h
    obtain ⟨hleafNone, hleafFirst⟩ := fetchFirstCRL_eq_ok hleaf
    obtain ⟨hintermediateNone, hintermediateFirst⟩ :=
      fetchFirstCRL_eq_ok hintermediate
    refine ⟨certs, acceptedChain_eq_ok_iff.mp hcerts, hleafNone,
      hintermediateNone, ?_, ?_⟩
    · intro crl hcrl
      exact ⟨(hleafFirst crl hcrl).verified, hleafFirst crl hcrl⟩
    · intro crl hcrl
      exact ⟨(hintermediateFirst crl hcrl).verified,
        hintermediateFirst crl hcrl⟩
  · intro certs haccepted hfail
    rcases exists_ok_or_error (fetchCRLsForToken lib tokens urls view
      attestationToken (some trusted)).result with ⟨crls, hok⟩ | herror
    · obtain ⟨certs', hcerts', hleaf, hintermediate⟩ :=
        fetchCRLsForToken_eq_ok_iff.mp hok
      have hsame : certs = certs' := by
        simpa [acceptedChain_eq_ok_iff.mpr haccepted] using hcerts'
      subst hsame
      rcases hfail with ⟨hne, hall⟩ | ⟨hne, hall⟩
      · obtain ⟨err, herr⟩ := fetchFirstCRL_eq_error hne hall
        rw [herr] at hleaf
        simp at hleaf
      · obtain ⟨err, herr⟩ := fetchFirstCRL_eq_error hne hall
        rw [herr] at hintermediate
        simp at hintermediate
    · exact herror

end Token

end VerifierApi

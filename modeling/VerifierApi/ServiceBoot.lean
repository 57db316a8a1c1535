import VerifierApi.ServiceLifecycle

/-!
# When a process boots

Every constructor of a service succeeds under a condition on the settings and
on what the outside answers.  Together they say exactly when the module loads,
and which services it returns.
-/

namespace VerifierApi

variable {b : Backends} {lib : ConfigLibrary} {env : EnvConfig}

/-! ## Single services -/

/-- A database which connects within the attempts and can be unwrapped. -/
structure DBOpens (b : Backends) (db : ServiceDB) (service : ℕ)
    (url : String) : Prop where
  connects : ∃ n, 1 ≤ n ∧ n ≤ db.options.maxAttempts ∧
    b.gormOpen ⟨service, .database db⟩
      (db.withTimeouts (textBytes url)) n = .ok ()
  unwraps : b.sqlDB ⟨service, .database db⟩ = .ok ()

theorem DBOptions.attempts_connected_iff {opts : DBOptions}
    {answers : ℕ → Except ExternalError Unit} :
    (opts.attempts answers).connected = true ↔
      ∃ n, 1 ≤ n ∧ n ≤ opts.maxAttempts ∧ answers n = .ok () := by
  have hrun := opts.attempts_run answers
  rw [hrun.connected_iff]
  generalize opts.attempts answers = run at hrun
  constructor
  · rintro ⟨hle, hanswer⟩
    exact ⟨_, Nat.le_add_right 1 _, hle, hanswer⟩
  · rintro ⟨n, hone, hle, hanswer⟩
    by_contra hnot
    have hfailed : run.connected = false := by
      rw [← Bool.not_eq_true, hrun.connected_iff]
      exact hnot
    have hlast := hrun.exhausted hfailed
    have herror := hrun.failed (n - 1) (by omega)
    rw [Nat.add_sub_cancel' hone, hanswer] at herror
    cases herror

theorem initServiceDB_eq_ok_iff {db : ServiceDB} {service : ℕ}
    {url : String} {handle : Handle} :
    (initServiceDB b db service url).result = .ok handle ↔
      DBOpens b db service url ∧ handle = ⟨service, .database db⟩ := by
  simp only [initServiceDB, initDBWithRetries]
  split_ifs with hconnected
  · have hconnects := DBOptions.attempts_connected_iff.mp hconnected
    cases hsql : b.sqlDB ⟨service, .database db⟩ with
    | error err =>
        simp only [Except.mapError, Except.map]
        constructor
        · intro h
          cases h
        · rintro ⟨hopens, -⟩
          rw [hopens.unwraps] at hsql
          cases hsql
    | ok u =>
        simp only [Except.mapError, Except.map, Except.ok.injEq]
        constructor
        · rintro rfl
          exact ⟨⟨hconnects, hsql⟩, rfl⟩
        · rintro ⟨-, rfl⟩
          rfl
  · constructor
    · intro h
      cases h
    · rintro ⟨hopens, -⟩
      exact absurd (DBOptions.attempts_connected_iff.mpr hopens.connects)
        hconnected

theorem dialFlare_eq_ok_iff {service : ℕ} {rpcURL : String}
    {handle : Handle} :
    (dialFlare b service rpcURL).result = .ok handle ↔
      b.dial ⟨service, .flareRPC⟩ rpcURL = .ok () ∧
        handle = ⟨service, .flareRPC⟩ := by
  unfold dialFlare
  cases hdial : b.dial ⟨service, .flareRPC⟩ rpcURL with
  | error err => simp [hdial]
  | ok u => simp [hdial, eq_comm]

theorem newOnChainBinder_eq_ok_iff {service : ℕ} {rpcURL : String}
    {contractAddr : Address} {handle : Handle} :
    (newOnChainBinder b service rpcURL contractAddr).result = .ok handle ↔
      b.dial ⟨service, .flareRPC⟩ rpcURL = .ok () ∧
      b.newTeePaymentsCaller ⟨service, .flareRPC⟩ contractAddr = .ok () ∧
        handle = ⟨service, .flareRPC⟩ := by
  simp only [newOnChainBinder, Traced.result_bind_eq_ok, dialFlare_eq_ok_iff,
    Traced.result_onError, Traced.result_ofExcept, mapError_eq_ok,
    Traced.result_pure, Except.ok.injEq]
  constructor
  · rintro ⟨_, ⟨hdial, rfl⟩, _, hcaller, rfl⟩
    exact ⟨hdial, hcaller, rfl⟩
  · rintro ⟨hdial, hcaller, rfl⟩
    exact ⟨_, ⟨hdial, rfl⟩, (), hcaller, rfl⟩

/-- What a service which reads payments needs of the outside. -/
structure PMWLoads {S T : Type} (b : Backends) (service : ℕ)
    (cfg : PMWConfig S T) : Prop where
  source : cfg.source ≠ .tee
  sourceDB : DBOpens b .source service cfg.sourceDatabaseURL
  cChainDB : DBOpens b .cChain service cfg.cchainDatabaseURL
  dials : b.dial ⟨service, .flareRPC⟩ cfg.flareRPCURL = .ok ()
  caller : b.newTeePaymentsCaller ⟨service, .flareRPC⟩
    cfg.teePaymentsContractAddress = .ok ()

theorem constructorForSource_eq_ok_iff {source : SourceID} {u : Unit} :
    constructorForSource source = .ok u ↔ source ≠ .tee := by
  cases source <;> simp [constructorForSource]

/-- A service with the handles of its position. -/
def PMWService.at {S T : Type} (cfg : PMWConfig S T) (service : ℕ) :
    PMWService S T :=
  ⟨cfg, ⟨service, .database .source⟩, ⟨service, .database .cChain⟩,
    ⟨service, .flareRPC⟩⟩

theorem newPMWService_eq_ok_iff {S T : Type} {t : AttestationType}
    {service : ℕ} {config : Except GoError (PMWConfig S T)}
    {s : PMWService S T} :
    (newPMWService b t service config).result = .ok s ↔
      ∃ cfg, config = .ok cfg ∧ PMWLoads b service cfg ∧
        s = .at cfg service := by
  simp only [newPMWService, Traced.result_bind_eq_ok, Traced.result_onError,
    Traced.result_ofExcept, Traced.result_mapError, mapError_eq_ok,
    constructorForSource_eq_ok_iff, initServiceDB_eq_ok_iff,
    newOnChainBinder_eq_ok_iff, Traced.result_pure, Except.ok.injEq]
  constructor
  · rintro ⟨cfg, hconfig, _, hsource, _, ⟨hdb, rfl⟩, _, ⟨hcdb, rfl⟩, _,
      ⟨hdial, hcaller, rfl⟩, rfl⟩
    exact ⟨cfg, hconfig, ⟨hsource, hdb, hcdb, hdial, hcaller⟩, rfl⟩
  · rintro ⟨cfg, hconfig, h, rfl⟩
    exact ⟨cfg, hconfig, (), h.source, _, ⟨h.sourceDB, rfl⟩, _,
      ⟨h.cChainDB, rfl⟩, _, ⟨h.dials, h.caller, rfl⟩, rfl⟩

theorem newTeeVerifier_eq_ok_iff {cfg : TeeAvailabilityCheckConfig}
    {service : ℕ} {handle : Handle} :
    (newTeeVerifier b cfg service).result = .ok handle ↔
      b.dial ⟨service, .flareRPC⟩ cfg.flareRPCURL = .ok () ∧
      b.newRelayCaller ⟨service, .flareRPC⟩ cfg.relayContractAddress =
        .ok () ∧
      (cfg.relayCutoverContractAddress ≠ zeroAddress →
        b.newRelayCaller ⟨service, .flareRPC⟩
          cfg.relayCutoverContractAddress = .ok ()) ∧
        handle = ⟨service, .flareRPC⟩ := by
  simp only [newTeeVerifier, Traced.result_bind_eq_ok, dialFlare_eq_ok_iff,
    Traced.result_onError, Traced.result_ofExcept, mapError_eq_ok]
  by_cases hcutover : cfg.relayCutoverContractAddress = zeroAddress
  · simp only [hcutover, ne_eq, not_true, if_false, Traced.result_pure,
      Except.ok.injEq, false_implies, true_and]
    constructor
    · rintro ⟨_, ⟨hdial, rfl⟩, _, hcaller, rfl⟩
      exact ⟨hdial, hcaller, rfl⟩
    · rintro ⟨hdial, hcaller, rfl⟩
      exact ⟨_, ⟨hdial, rfl⟩, (), hcaller, rfl⟩
  · simp only [hcutover, ne_eq, not_false_eq_true, if_true, true_implies,
      Traced.result_bind_eq_ok, Traced.result_onError,
      Traced.result_ofExcept, mapError_eq_ok, Traced.result_pure,
      Except.ok.injEq]
    constructor
    · rintro ⟨_, ⟨hdial, rfl⟩, _, hcaller, _, hnext, rfl⟩
      exact ⟨hdial, hcaller, hnext, rfl⟩
    · rintro ⟨hdial, hcaller, hnext, rfl⟩
      exact ⟨_, ⟨hdial, rfl⟩, (), hcaller, (), hnext, rfl⟩

namespace Multisig

/-- The node answers with a network other than that of the source. -/
def OnOtherNetwork (source : SourceName)
    (answer : Except ExternalError ServerInfoResult) : Prop :=
  ∃ expected result got, expectedNetworkID source = some expected ∧
    answer = .ok result ∧ result.status = "success" ∧
      result.networkID = some got ∧ got ≠ expected

theorem fetchNetworkID_eq_ok_iff
    {answer : Except ExternalError ServerInfoResult}
    {networkID : Option UInt32} :
    fetchNetworkID answer = .ok networkID ↔ ∃ result,
      answer = .ok result ∧ result.status = "success" ∧
        result.networkID = networkID := by
  simp only [fetchNetworkID, bind_eq_ok, mapError_eq_ok, ensure_eq_ok,
    exists_const, Except.ok.injEq]

theorem onOtherNetwork_iff {source : SourceName} {expected : UInt32}
    (hsource : expectedNetworkID source = some expected)
    {answer : Except ExternalError ServerInfoResult} :
    OnOtherNetwork source answer ↔ ∃ got,
      fetchNetworkID answer = .ok (some got) ∧ got ≠ expected := by
  simp only [OnOtherNetwork, hsource, fetchNetworkID_eq_ok_iff,
    Option.some.injEq]
  constructor
  · rintro ⟨_, result, got, rfl, hanswer, hstatus, hgot, hne⟩
    exact ⟨got, ⟨result, hanswer, hstatus, hgot⟩, hne⟩
  · rintro ⟨got, ⟨result, hanswer, hstatus, hgot⟩, hne⟩
    exact ⟨expected, result, got, rfl, hanswer, hstatus, hgot, hne⟩

theorem has_networkMismatch_fetchNetworkID
    {answer : Except ExternalError ServerInfoResult} {err : GoError}
    (h : fetchNetworkID answer = .error err) :
    err.has .networkMismatch = false := by
  simp only [fetchNetworkID, bind_eq_error, mapError_eq_error,
    ensure_eq_error] at h
  rcases h with ⟨cause, -, rfl⟩ | ⟨result, -, ⟨-, rfl⟩ | ⟨-, -, h⟩⟩
  · simp [has_eq, errFetchServerInfo]
  · simp [has_eq, errFetchServerInfo]
  · cases h

theorem verifyNetwork_eq_ok_iff {source : SourceName}
    {answer : Except ExternalError ServerInfoResult} {u : Unit} :
    verifyNetwork source answer = .ok u ↔ ¬ OnOtherNetwork source answer := by
  unfold verifyNetwork checkNetwork
  cases hsource : expectedNetworkID source with
  | none => simp [OnOtherNetwork, hsource]
  | some expected =>
      rw [onOtherNetwork_iff hsource]
      cases hfetch : fetchNetworkID answer with
      | error err =>
          have herr := has_networkMismatch_fetchNetworkID hfetch
          simp [bind, Except.bind, bootResult, herr]
      | ok networkID =>
          cases networkID with
          | none =>
              simp [bind, Except.bind, require, bootResult, has_eq,
                errFetchServerInfo]
          | some got =>
              by_cases hgot : got = expected
              · simp [bind, Except.bind, require, ensure, hgot]
              · simp [bind, Except.bind, require, ensure, hgot, bootResult,
                  has_eq, errNetworkMismatch]

end Multisig

theorem newMultisigService_eq_ok_iff {service : ℕ}
    {cfg : PMWMultisigAccountConfig} :
    newMultisigService b lib env service = .ok cfg ↔
      buildPMWMultisigAccountConfiguredConfig lib env = .ok cfg ∧
        cfg.source ≠ .tee ∧ ¬ Multisig.OnOtherNetwork cfg.source.sourceName
          (b.serverInfo service) := by
  simp only [newMultisigService, bind_eq_ok, mapError_eq_ok,
    constructorForSource_eq_ok_iff, Multisig.verifyNetwork_eq_ok_iff,
    Except.ok.injEq]
  constructor
  · rintro ⟨_, hconfig, _, ⟨_, hsource, hnetwork⟩, rfl⟩
    exact ⟨hconfig, hsource, hnetwork⟩
  · rintro ⟨hconfig, hsource, hnetwork⟩
    exact ⟨cfg, hconfig, (), ⟨(), hsource, hnetwork⟩, rfl⟩

/-! ## The module -/

/-- What the TEE check needs of the outside. -/
structure TeeLoads (b : Backends) (service : ℕ)
    (cfg : TeeAvailabilityCheckConfig) : Prop where
  dials : b.dial ⟨service, .flareRPC⟩ cfg.flareRPCURL = .ok ()
  relay : b.newRelayCaller ⟨service, .flareRPC⟩ cfg.relayContractAddress =
    .ok ()
  nextRelay : cfg.relayCutoverContractAddress ≠ zeroAddress →
    b.newRelayCaller ⟨service, .flareRPC⟩ cfg.relayCutoverContractAddress =
      .ok ()

/-- A service that loads at a position, with what it needs for it. -/
inductive ServiceLoads (b : Backends) (lib : ConfigLibrary)
    (env : EnvConfig) (service : ℕ) : RegisteredService → Prop
  | teeAvailabilityCheck (cfg : TeeAvailabilityCheckConfig)
      (config : buildTeeAvailabilityCheckConfig lib env = .ok cfg)
      (loads : TeeLoads b service cfg) :
      ServiceLoads b lib env service
        (.teeAvailabilityCheck cfg ⟨service, .flareRPC⟩)
  | pmwPaymentStatus (cfg)
      (config : buildPMWPaymentStatusConfig lib env = .ok cfg)
      (loads : PMWLoads b service cfg) :
      ServiceLoads b lib env service (.pmwPaymentStatus (.at cfg service))
  | pmwMultisigAccountConfigured (cfg)
      (config : buildPMWMultisigAccountConfiguredConfig lib env = .ok cfg)
      (source : cfg.source ≠ .tee)
      (network : ¬ Multisig.OnOtherNetwork cfg.source.sourceName
        (b.serverInfo service)) :
      ServiceLoads b lib env service (.pmwMultisigAccountConfigured cfg)
  | pmwFeeProof (cfg) (config : buildPMWFeeProofConfig lib env = .ok cfg)
      (loads : PMWLoads b service cfg) :
      ServiceLoads b lib env service (.pmwFeeProof (.at cfg service))

theorem newTeeAvailabilityService_eq_ok_iff {service : ℕ}
    {loaded : TeeAvailabilityCheckConfig × Handle} :
    (newTeeAvailabilityService b lib env service).result = .ok loaded ↔
      buildTeeAvailabilityCheckConfig lib env = .ok loaded.1 ∧
        TeeLoads b service loaded.1 ∧ loaded.2 = ⟨service, .flareRPC⟩ := by
  obtain ⟨cfg, client⟩ := loaded
  simp only [newTeeAvailabilityService, Traced.result_bind_eq_ok,
    Traced.result_ofExcept, Traced.result_mapError, mapError_eq_ok,
    newTeeVerifier_eq_ok_iff, Traced.result_pure, Except.ok.injEq,
    Prod.mk.injEq]
  constructor
  · rintro ⟨_, hconfig, _, ⟨hdial, hrelay, hnext, rfl⟩, rfl, rfl⟩
    exact ⟨hconfig, ⟨hdial, hrelay, hnext⟩, rfl⟩
  · rintro ⟨hconfig, h, rfl⟩
    exact ⟨cfg, hconfig, _, ⟨h.dials, h.relay, h.nextRelay, rfl⟩, rfl, rfl⟩

theorem registerVerifier_eq_ok_iff {t : AttestationType} {service : ℕ}
    {loaded : RegisteredService} :
    (registerVerifier b lib env t service).result = .ok loaded ↔
      loaded.attestationType = t ∧ ServiceLoads b lib env service loaded := by
  cases t with
  | availabilityCheck =>
      simp only [registerVerifier, Traced.result_bind_eq_ok,
        newTeeAvailabilityService_eq_ok_iff, Traced.result_pure,
        Except.ok.injEq]
      constructor
      · rintro ⟨⟨cfg, client⟩, ⟨hconfig, hloads, rfl⟩, rfl⟩
        exact ⟨rfl, .teeAvailabilityCheck cfg hconfig hloads⟩
      · rintro ⟨htype, h⟩
        cases h with
        | teeAvailabilityCheck cfg hconfig hloads =>
            exact ⟨(cfg, ⟨service, .flareRPC⟩), ⟨hconfig, hloads, rfl⟩, rfl⟩
        | pmwPaymentStatus => cases htype
        | pmwMultisigAccountConfigured => cases htype
        | pmwFeeProof => cases htype
  | pmwPaymentStatus =>
      simp only [registerVerifier, newPaymentService,
        Traced.result_bind_eq_ok, newPMWService_eq_ok_iff,
        Traced.result_pure, Except.ok.injEq]
      constructor
      · rintro ⟨_, ⟨cfg, hconfig, hloads, rfl⟩, rfl⟩
        exact ⟨rfl, .pmwPaymentStatus cfg hconfig hloads⟩
      · rintro ⟨htype, h⟩
        cases h with
        | teeAvailabilityCheck => cases htype
        | pmwPaymentStatus cfg hconfig hloads =>
            exact ⟨_, ⟨cfg, hconfig, hloads, rfl⟩, rfl⟩
        | pmwMultisigAccountConfigured => cases htype
        | pmwFeeProof => cases htype
  | pmwMultisigAccountConfigured =>
      simp only [registerVerifier, Traced.result_bind_eq_ok,
        Traced.result_ofExcept, newMultisigService_eq_ok_iff,
        Traced.result_pure, Except.ok.injEq]
      constructor
      · rintro ⟨cfg, ⟨hconfig, hsource, hnetwork⟩, rfl⟩
        exact ⟨rfl,
          .pmwMultisigAccountConfigured cfg hconfig hsource hnetwork⟩
      · rintro ⟨htype, h⟩
        cases h with
        | teeAvailabilityCheck => cases htype
        | pmwPaymentStatus => cases htype
        | pmwMultisigAccountConfigured cfg hconfig hsource hnetwork =>
            exact ⟨cfg, ⟨hconfig, hsource, hnetwork⟩, rfl⟩
        | pmwFeeProof => cases htype
  | pmwFeeProof =>
      simp only [registerVerifier, newFeeProofService,
        Traced.result_bind_eq_ok, newPMWService_eq_ok_iff,
        Traced.result_pure, Except.ok.injEq]
      constructor
      · rintro ⟨_, ⟨cfg, hconfig, hloads, rfl⟩, rfl⟩
        exact ⟨rfl, .pmwFeeProof cfg hconfig hloads⟩
      · rintro ⟨htype, h⟩
        cases h with
        | teeAvailabilityCheck => cases htype
        | pmwPaymentStatus => cases htype
        | pmwMultisigAccountConfigured => cases htype
        | pmwFeeProof cfg hconfig hloads =>
            exact ⟨_, ⟨cfg, hconfig, hloads, rfl⟩, rfl⟩

/-- The builders do not read the type that the loop sets. -/
theorem ServiceLoads.setType {service : ℕ} {loaded : RegisteredService}
    {t : Option AttestationType} :
    ServiceLoads b lib { env with attestationType := t } service loaded ↔
      ServiceLoads b lib env service loaded := by
  constructor
  · intro h
    cases h with
    | teeAvailabilityCheck cfg hconfig hloads =>
        exact .teeAvailabilityCheck cfg hconfig hloads
    | pmwPaymentStatus cfg hconfig hloads =>
        exact .pmwPaymentStatus cfg hconfig hloads
    | pmwMultisigAccountConfigured cfg hconfig hsource hnetwork =>
        exact .pmwMultisigAccountConfigured cfg hconfig hsource hnetwork
    | pmwFeeProof cfg hconfig hloads => exact .pmwFeeProof cfg hconfig hloads
  · intro h
    cases h with
    | teeAvailabilityCheck cfg hconfig hloads =>
        exact .teeAvailabilityCheck cfg hconfig hloads
    | pmwPaymentStatus cfg hconfig hloads =>
        exact .pmwPaymentStatus cfg hconfig hloads
    | pmwMultisigAccountConfigured cfg hconfig hsource hnetwork =>
        exact .pmwMultisigAccountConfigured cfg hconfig hsource hnetwork
    | pmwFeeProof cfg hconfig hloads => exact .pmwFeeProof cfg hconfig hloads

theorem loadServices_eq_ok_iff {loaded services : List RegisteredService}
    {types : List AttestationType} :
    (loadServices b lib env loaded types).result = .ok services ↔
      ∃ more, services = loaded ++ more ∧
        more.map RegisteredService.attestationType = types ∧
        ∀ i (h : i < more.length),
          ServiceLoads b lib env (loaded.length + i) more[i] := by
  induction types generalizing loaded with
  | nil =>
      simp only [loadServices, Traced.result_pure, Except.ok.injEq,
        List.map_eq_nil_iff]
      constructor
      · rintro rfl
        exact ⟨[], by simp, rfl, by simp⟩
      · rintro ⟨_, rfl, rfl, -⟩
        simp
  | cons t rest ih =>
      simp only [loadServices, Traced.result_bind_eq_ok,
        Traced.result_onError, registerVerifier_eq_ok_iff,
        ServiceLoads.setType, ih]
      constructor
      · rintro ⟨service, ⟨htype, hloads⟩, more, rfl, hmore, hall⟩
        refine ⟨service :: more, by simp, by simp [htype, hmore], ?_⟩
        intro i hi
        cases i with
        | zero => exact hloads
        | succ i =>
            have hnext := hall i (Nat.lt_of_succ_lt_succ hi)
            have hindex : loaded.length + 1 + i = loaded.length + (i + 1) := by
              omega
            rw [List.length_append, List.length_singleton, hindex] at hnext
            exact hnext
      · rintro ⟨more, rfl, hmore, hall⟩
        cases more with
        | nil => cases hmore
        | cons service more =>
            obtain ⟨htype, hrest⟩ := List.cons.inj hmore
            refine ⟨service, ⟨htype, hall 0 (Nat.zero_lt_succ _)⟩, more,
              by simp, hrest, ?_⟩
            intro i hi
            have hnext := hall (i + 1) (Nat.succ_lt_succ hi)
            have hindex : loaded.length + (i + 1) = loaded.length + 1 + i := by
              omega
            rw [hindex] at hnext
            rw [List.length_append, List.length_singleton]
            exact hnext

/-- The module loads exactly when every served type does, each at its place
in the list. -/
theorem loadModule_eq_ok_iff {services : List RegisteredService} :
    (loadModule b lib env).result = .ok services ↔
      (∃ slug, sourceURLSlug env.sourceID env.sourceURLSlug = .ok slug) ∧
      services.map RegisteredService.attestationType =
        env.servedAttestationTypes ∧
      ∀ i (h : i < services.length),
        ServiceLoads b lib env i services[i] := by
  simp only [loadModule, Traced.result_bind_eq_ok, Traced.result_ofExcept,
    loadServices_eq_ok_iff, List.nil_append, List.length_nil, Nat.zero_add]
  constructor
  · rintro ⟨slug, hslug, _, rfl, htypes, hall⟩
    exact ⟨⟨slug, hslug⟩, htypes, hall⟩
  · rintro ⟨⟨slug, hslug⟩, htypes, hall⟩
    exact ⟨slug, hslug, services, rfl, htypes, hall⟩

end VerifierApi

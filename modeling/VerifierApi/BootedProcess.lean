import VerifierApi.ServerAccess
import VerifierApi.ServiceBoot

/-!
# Booted processes

A process reads its settings, loads its services and serves them under the
slugs of its deployment.  Whether it boots can be read off the settings and
the answers of the databases and nodes.
-/

namespace VerifierApi

/-- A booted process. -/
structure Process where
  server : Server
  services : List RegisteredService

def Process.find (p : Process) (t : AttestationType) :
    Option RegisteredService :=
  p.services.find? fun service => service.attestationType = t

/-- A process that was booted from an environment: its settings are accepted,
its services are loaded, and its routes stand under the slugs of the
settings. -/
structure Booted (b : Backends) (lib : ConfigLibrary)
    (getenv : Environment.Getenv) (env : EnvConfig) (p : Process) :
    Prop where
  environment : Environment.loadEnvConfig getenv = .ok env
  loads : (loadModule b lib env).result = .ok p.services
  server : p.server = .ofEnvironment env p.server.deployment
  source : p.server.deployment.source = env.sourceID
  sourceSlug : sourceURLSlug env.sourceID env.sourceURLSlug =
    .ok p.server.deployment.sourceSlug.text
  destinationSlug :
    p.server.deployment.destinationSlug.text = env.destinationChainURLSlug

/-- The process that is started on accepted settings. -/
def Process.start (b : Backends) (lib : ConfigLibrary) (env : EnvConfig)
    (deployment : Deployment) : Process where
  server := .ofEnvironment env deployment
  services := ((loadModule b lib env).result.toOption).getD []

theorem Booted.start {getenv : Environment.Getenv} {deployment : Deployment}
    (henv : Environment.loadEnvConfig getenv = .ok env)
    (hloads : (loadModule b lib env).result.isOk = true)
    (hsource : deployment.source = env.sourceID)
    (hsourceSlug : sourceURLSlug env.sourceID env.sourceURLSlug =
      .ok deployment.sourceSlug.text)
    (hdestinationSlug :
      deployment.destinationSlug.text = env.destinationChainURLSlug) :
    Booted b lib getenv env (.start b lib env deployment) where
  environment := henv
  loads := by
    rcases exists_ok_or_error (loadModule b lib env).result with
      ⟨services, h⟩ | ⟨err, h⟩
    · simp [Process.start, h, Except.toOption]
    · rw [h] at hloads
      cases hloads
  server := rfl
  source := hsource
  sourceSlug := hsourceSlug
  destinationSlug := hdestinationSlug

section Booted

variable {b : Backends} {lib : ConfigLibrary}
  {getenv : Environment.Getenv} {env : EnvConfig} {p : Process}

/-- What is found at a route is a service that was loaded for its type. -/
theorem Booted.serviceLoads (hp : Booted b lib getenv env p)
    {t : AttestationType} {service : RegisteredService}
    (hfind : p.find t = some service) :
    service.attestationType = t ∧ ∃ n, ServiceLoads b lib env n service := by
  obtain ⟨-, -, hall⟩ := loadModule_eq_ok_iff.mp hp.loads
  obtain ⟨n, hn, rfl⟩ :=
    List.getElem_of_mem (List.mem_of_find?_eq_some hfind)
  have hfound := List.find?_some hfind
  exact ⟨of_decide_eq_true hfound, n, hall n hn⟩

/-- A process has one service for each type of its source, in order. -/
theorem Booted.services (hp : Booted b lib getenv env p) :
    p.services.map RegisteredService.attestationType =
      sourceAttestationTypes env.sourceID := by
  obtain ⟨-, htypes, -⟩ := loadModule_eq_ok_iff.mp hp.loads
  rw [htypes, Server.servedAttestationTypes_of_loadEnvConfig hp.environment]

theorem Booted.service_unique (hp : Booted b lib getenv env p)
    {service other : RegisteredService} (hservice : service ∈ p.services)
    (hother : other ∈ p.services)
    (htype : other.attestationType = service.attestationType) :
    other = service := by
  have hnodup := sourceAttestationTypes_nodup env.sourceID
  rw [← hp.services] at hnodup
  exact List.inj_on_of_nodup_map hnodup hother hservice htype

/-- An attestation route that is routed finds its service. -/
theorem Booted.exists_service (hp : Booted b lib getenv env p)
    {router : Server.Router} (hrouter : p.server.MatchesRoutes router)
    {req : Server.Request} {t : AttestationType} {endpoint : Endpoint}
    (hserve : p.server.serve router req =
      .handled (.attestation t endpoint)) :
    ∃ service ∈ p.services, service.attestationType = t ∧
      p.find t = some service := by
  obtain ⟨⟨hmem, -⟩, -⟩ := (Server.serve_eq_handled_iff hrouter).mp hserve
  have htypes : p.server.attestationTypes =
      p.services.map RegisteredService.attestationType := by
    obtain ⟨-, hall, -⟩ := loadModule_eq_ok_iff.mp hp.loads
    rw [hp.server, hall]
    rfl
  rw [mem_registeredOperations, htypes] at hmem
  rcases hmem with hhealth | ⟨t', ht', endpoint', hop⟩
  · cases hhealth
  · obtain ⟨service, hservice, htype⟩ := List.mem_map.mp ht'
    cases hop
    have hfound : (p.find t).isSome = true := by
      rw [Process.find, List.find?_isSome]
      exact ⟨service, hservice, decide_eq_true htype⟩
    obtain ⟨found, hfind⟩ := Option.isSome_iff_exists.mp hfound
    have hsame := List.find?_some hfind
    exact ⟨found, List.mem_of_find?_eq_some hfind, of_decide_eq_true hsame,
      hfind⟩

end Booted

/-! ## When a process boots -/

section Boots

variable {b : Backends} {lib : ConfigLibrary}
  {getenv : Environment.Getenv} {env : EnvConfig}

/-- The databases and the node answer a service which reads payments. -/
structure PMWReached (b : Backends) (lib : ConfigLibrary) (env : EnvConfig)
    (service : ℕ) : Prop where
  sourceDB : DBOpens b .source service env.sourceDatabaseURL
  cChainDB : DBOpens b .cChain service env.cChainDatabaseURL
  dials : b.dial ⟨service, .flareRPC⟩ env.flareRPCURL = .ok ()
  caller : b.newTeePaymentsCaller ⟨service, .flareRPC⟩
    (lib.addresses.hexToAddress env.teePaymentsContractAddress) = .ok ()

/-- What a process of a ledger needs to boot.  Its first service checks the
network, and the other two read payments. -/
structure LedgerBoots (b : Backends) (lib : ConfigLibrary)
    (env : EnvConfig) : Prop where
  source : env.sourceID ≠ .tee
  settings : PMWAccepted lib env
  sourceRPCURL : env.sourceRPCURL ≠ ""
  sourceSlug : ∃ slug, sourceURLSlug env.sourceID env.sourceURLSlug =
    .ok slug
  multisigABI : ∃ codec, lib.multisigABI = .ok codec
  paymentStatusABI : ∃ codec, lib.paymentStatusABI = .ok codec
  feeProofABI : ∃ codec, lib.feeProofABI = .ok codec
  teeInstructionsABI : ∃ abi, lib.teeInstructionsABI = .ok abi
  network : ¬ Multisig.OnOtherNetwork env.sourceID.sourceName
    (b.serverInfo 0)
  payments : PMWReached b lib env 1
  fees : PMWReached b lib env 2

/-- What a process of the TEE source needs to boot. -/
structure TeeBoots (b : Backends) (lib : ConfigLibrary) (env : EnvConfig) :
    Prop where
  settings : TeeAccepted lib env
  sourceSlug : ∃ slug, sourceURLSlug env.sourceID env.sourceURLSlug =
    .ok slug
  availabilityCheckABI : ∃ codec, lib.availabilityCheckABI = .ok codec
  googleRootCert : ∃ root, lib.loadGoogleRootCert = .ok root
  chainID : ∃ chainID, parseChainID env.chainID = .ok chainID
  dials : b.dial ⟨0, .flareRPC⟩ env.flareRPCURL = .ok ()
  relay : b.newRelayCaller ⟨0, .flareRPC⟩
    (lib.addresses.hexToAddress env.relayContractAddress) = .ok ()
  cutover : ∃ cutover, parseRelayCutover lib.addresses env.toCutoverEnv
      (lib.addresses.hexToAddress env.relayContractAddress) = .ok cutover ∧
    (cutover.1 ≠ zeroAddress →
      b.newRelayCaller ⟨0, .flareRPC⟩ cutover.1 = .ok ())

theorem teeBoots_iff :
    TeeBoots b lib env ↔ env.sourceID = .tee ∧
      ∃ cfg, buildTeeAvailabilityCheckConfig lib env = .ok cfg ∧
        TeeLoads b 0 cfg := by
  constructor
  · intro h
    obtain ⟨slug, hslug⟩ := h.sourceSlug
    obtain ⟨codec, hcodec⟩ := h.availabilityCheckABI
    obtain ⟨root, hroot⟩ := h.googleRootCert
    obtain ⟨chainID, hchainID⟩ := h.chainID
    obtain ⟨cutover, hcutover, hnext⟩ := h.cutover
    exact ⟨h.settings.source, _,
      buildTeeAvailabilityCheckConfig_eq_ok_iff.mpr ⟨h.settings, slug, codec,
        root, cutover, chainID, hslug, hcodec, hroot, hcutover, hchainID,
        rfl⟩, ⟨h.dials, h.relay, hnext⟩⟩
  · rintro ⟨-, cfg, hconfig, hloads⟩
    obtain ⟨hsettings, slug, codec, root, cutover, chainID, hslug, hcodec,
      hroot, hcutover, hchainID, rfl⟩ :=
        buildTeeAvailabilityCheckConfig_eq_ok_iff.mp hconfig
    exact {
      settings := hsettings
      sourceSlug := ⟨slug, hslug⟩
      availabilityCheckABI := ⟨codec, hcodec⟩
      googleRootCert := ⟨root, hroot⟩
      chainID := ⟨chainID, hchainID⟩
      dials := hloads.dials
      relay := hloads.relay
      cutover := ⟨cutover, hcutover, hloads.nextRelay⟩ }

theorem pmwLoads_iff {S T : Type} {t : AttestationType}
    {abiArguments : Except GoError (AbiCodec S T)} {service : ℕ} :
    (∃ cfg, buildPMWConfig lib t abiArguments env = .ok cfg ∧
        PMWLoads b service cfg) ↔
      env.sourceID ≠ .tee ∧ PMWAccepted lib env ∧
      (∃ slug, sourceURLSlug env.sourceID env.sourceURLSlug = .ok slug) ∧
      (∃ codec, abiArguments = .ok codec) ∧
      (∃ abi, lib.teeInstructionsABI = .ok abi) ∧
      PMWReached b lib env service := by
  constructor
  · rintro ⟨cfg, hconfig, h⟩
    obtain ⟨hsettings, slug, codec, abi, hslug, hcodec, habi, rfl⟩ :=
      buildPMWConfig_eq_ok_iff.mp hconfig
    exact ⟨h.source, hsettings, ⟨slug, hslug⟩, ⟨codec, hcodec⟩, ⟨abi, habi⟩,
      ⟨h.sourceDB, h.cChainDB, h.dials, h.caller⟩⟩
  · rintro ⟨hsource, hsettings, ⟨slug, hslug⟩, ⟨codec, hcodec⟩, ⟨abi, habi⟩,
      h⟩
    exact ⟨_, buildPMWConfig_eq_ok_iff.mpr ⟨hsettings, slug, codec, abi,
      hslug, hcodec, habi, rfl⟩,
      ⟨hsource, h.sourceDB, h.cChainDB, h.dials, h.caller⟩⟩

theorem ledgerBoots_iff :
    LedgerBoots b lib env ↔
      (∃ cfg, buildPMWMultisigAccountConfiguredConfig lib env = .ok cfg ∧
        cfg.source ≠ .tee ∧ ¬ Multisig.OnOtherNetwork cfg.source.sourceName
          (b.serverInfo 0)) ∧
      (∃ cfg, buildPMWPaymentStatusConfig lib env = .ok cfg ∧
        PMWLoads b 1 cfg) ∧
      ∃ cfg, buildPMWFeeProofConfig lib env = .ok cfg ∧
        PMWLoads b 2 cfg := by
  unfold buildPMWPaymentStatusConfig buildPMWFeeProofConfig
  rw [pmwLoads_iff, pmwLoads_iff]
  constructor
  · intro h
    obtain ⟨slug, hslug⟩ := h.sourceSlug
    obtain ⟨codec, hcodec⟩ := h.multisigABI
    refine ⟨⟨_, buildPMWMultisigAccountConfiguredConfig_eq_ok_iff.mpr
      ⟨h.sourceRPCURL, h.settings.destinationSlug, slug, codec, hslug, hcodec,
        rfl⟩, h.source, h.network⟩, ?_, ?_⟩
    · exact ⟨h.source, h.settings, h.sourceSlug, h.paymentStatusABI,
        h.teeInstructionsABI, h.payments⟩
    · exact ⟨h.source, h.settings, h.sourceSlug, h.feeProofABI,
        h.teeInstructionsABI, h.fees⟩
  · rintro ⟨⟨cfg, hconfig, -, hnetwork⟩, ⟨hsource, hsettings, hslug,
      hpayment, habi, hpayments⟩, -, -, -, hfee, -, hfees⟩
    obtain ⟨hrpc, -, slug, codec, -, hcodec, rfl⟩ :=
      buildPMWMultisigAccountConfiguredConfig_eq_ok_iff.mp hconfig
    exact {
      source := hsource
      settings := hsettings
      sourceRPCURL := hrpc
      sourceSlug := hslug
      multisigABI := ⟨codec, hcodec⟩
      paymentStatusABI := hpayment
      feeProofABI := hfee
      teeInstructionsABI := habi
      network := hnetwork
      payments := hpayments
      fees := hfees }

theorem sourceAttestationTypes_ledger {source : SourceID}
    (h : source ≠ .tee) : sourceAttestationTypes source =
      [.pmwMultisigAccountConfigured, .pmwPaymentStatus, .pmwFeeProof] := by
  cases source with
  | tee => exact absurd rfl h
  | xrp => rfl
  | testXRP => rfl

/-- The one service of a process of the TEE source. -/
theorem teeService_of_loads {services : List RegisteredService}
    (hsource : env.sourceID = .tee)
    (htypes : env.servedAttestationTypes =
      sourceAttestationTypes env.sourceID)
    (h : (loadModule b lib env).result = .ok services) :
    ∃ cfg, services = [.teeAvailabilityCheck cfg ⟨0, .flareRPC⟩] ∧
      buildTeeAvailabilityCheckConfig lib env = .ok cfg ∧
      TeeLoads b 0 cfg := by
  obtain ⟨-, hservices, hall⟩ := loadModule_eq_ok_iff.mp h
  rw [htypes, hsource] at hservices
  obtain ⟨service, rfl, htype⟩ := List.map_eq_singleton_iff.mp hservices
  have hloads : ServiceLoads b lib env 0 service := hall 0 Nat.zero_lt_one
  cases hloads with
  | teeAvailabilityCheck cfg hconfig hloads =>
      exact ⟨cfg, rfl, hconfig, hloads⟩
  | pmwPaymentStatus => cases htype
  | pmwMultisigAccountConfigured => cases htype
  | pmwFeeProof => cases htype

/-- The three services of a process of a ledger. -/
theorem ledgerServices_of_loads {services : List RegisteredService}
    (hsource : env.sourceID ≠ .tee)
    (htypes : env.servedAttestationTypes =
      sourceAttestationTypes env.sourceID)
    (h : (loadModule b lib env).result = .ok services) :
    ∃ multisig payment fee,
      services = [.pmwMultisigAccountConfigured multisig,
        .pmwPaymentStatus (.at payment 1), .pmwFeeProof (.at fee 2)] ∧
      (buildPMWMultisigAccountConfiguredConfig lib env = .ok multisig ∧
        multisig.source ≠ .tee ∧ ¬ Multisig.OnOtherNetwork
          multisig.source.sourceName (b.serverInfo 0)) ∧
      (buildPMWPaymentStatusConfig lib env = .ok payment ∧
        PMWLoads b 1 payment) ∧
      buildPMWFeeProofConfig lib env = .ok fee ∧ PMWLoads b 2 fee := by
  obtain ⟨-, hservices, hall⟩ := loadModule_eq_ok_iff.mp h
  rw [htypes, sourceAttestationTypes_ledger hsource] at hservices
  obtain ⟨s0, rest, rfl, htype0, hrest⟩ := List.map_eq_cons_iff.mp hservices
  obtain ⟨s1, rest, rfl, htype1, hrest⟩ := List.map_eq_cons_iff.mp hrest
  obtain ⟨s2, rfl, htype2⟩ := List.map_eq_singleton_iff.mp hrest
  have hloads0 : ServiceLoads b lib env 0 s0 := hall 0 (by simp)
  have hloads1 : ServiceLoads b lib env 1 s1 := hall 1 (by simp)
  have hloads2 : ServiceLoads b lib env 2 s2 := hall 2 (by simp)
  obtain ⟨multisig, rfl, hmultisig⟩ : ∃ multisig,
      s0 = .pmwMultisigAccountConfigured multisig ∧
        buildPMWMultisigAccountConfiguredConfig lib env = .ok multisig ∧
        multisig.source ≠ .tee ∧ ¬ Multisig.OnOtherNetwork
          multisig.source.sourceName (b.serverInfo 0) := by
    cases hloads0 with
    | pmwMultisigAccountConfigured cfg hconfig hsource hnetwork =>
        exact ⟨cfg, rfl, hconfig, hsource, hnetwork⟩
    | teeAvailabilityCheck => cases htype0
    | pmwPaymentStatus => cases htype0
    | pmwFeeProof => cases htype0
  obtain ⟨payment, rfl, hpayment⟩ : ∃ payment,
      s1 = .pmwPaymentStatus (.at payment 1) ∧
        buildPMWPaymentStatusConfig lib env = .ok payment ∧
        PMWLoads b 1 payment := by
    cases hloads1 with
    | pmwPaymentStatus cfg hconfig hloads => exact ⟨cfg, rfl, hconfig, hloads⟩
    | teeAvailabilityCheck => cases htype1
    | pmwMultisigAccountConfigured => cases htype1
    | pmwFeeProof => cases htype1
  obtain ⟨fee, rfl, hfee⟩ : ∃ fee, s2 = .pmwFeeProof (.at fee 2) ∧
      buildPMWFeeProofConfig lib env = .ok fee ∧ PMWLoads b 2 fee := by
    cases hloads2 with
    | pmwFeeProof cfg hconfig hloads => exact ⟨cfg, rfl, hconfig, hloads⟩
    | teeAvailabilityCheck => cases htype2
    | pmwMultisigAccountConfigured => cases htype2
    | pmwPaymentStatus => cases htype2
  exact ⟨multisig, payment, fee, rfl, hmultisig, hpayment, hfee⟩

theorem loadModule_tee_iff (hsource : env.sourceID = .tee)
    (htypes : env.servedAttestationTypes =
      sourceAttestationTypes env.sourceID) :
    (∃ services, (loadModule b lib env).result = .ok services) ↔
      TeeBoots b lib env := by
  rw [teeBoots_iff]
  constructor
  · rintro ⟨services, h⟩
    obtain ⟨cfg, -, hconfig, hloads⟩ :=
      teeService_of_loads hsource htypes h
    exact ⟨hsource, cfg, hconfig, hloads⟩
  · rintro ⟨-, cfg, hconfig, hloads⟩
    obtain ⟨-, slug, _, _, _, _, hslug, -⟩ :=
      buildTeeAvailabilityCheckConfig_eq_ok_iff.mp hconfig
    refine ⟨[.teeAvailabilityCheck cfg ⟨0, .flareRPC⟩],
      loadModule_eq_ok_iff.mpr ⟨⟨slug, hslug⟩, ?_, ?_⟩⟩
    · rw [htypes, hsource]
      rfl
    · intro i hi
      obtain rfl : i = 0 := Nat.lt_one_iff.mp hi
      exact .teeAvailabilityCheck cfg hconfig hloads

theorem loadModule_ledger_iff (hsource : env.sourceID ≠ .tee)
    (htypes : env.servedAttestationTypes =
      sourceAttestationTypes env.sourceID) :
    (∃ services, (loadModule b lib env).result = .ok services) ↔
      LedgerBoots b lib env := by
  rw [ledgerBoots_iff]
  constructor
  · rintro ⟨services, h⟩
    obtain ⟨multisig, payment, fee, -, hmultisig, hpayment, hfee⟩ :=
      ledgerServices_of_loads hsource htypes h
    exact ⟨⟨multisig, hmultisig⟩, ⟨payment, hpayment⟩, fee, hfee⟩
  · rintro ⟨⟨multisig, hmultisig, hsource', hnetwork⟩,
      ⟨payment, hpayment, hpaymentLoads⟩, fee, hfee, hfeeLoads⟩
    obtain ⟨-, -, slug, _, hslug, -⟩ :=
      buildPMWMultisigAccountConfiguredConfig_eq_ok_iff.mp hmultisig
    refine ⟨[.pmwMultisigAccountConfigured multisig,
      .pmwPaymentStatus (.at payment 1), .pmwFeeProof (.at fee 2)],
      loadModule_eq_ok_iff.mpr ⟨⟨slug, hslug⟩, ?_, ?_⟩⟩
    · rw [htypes, sourceAttestationTypes_ledger hsource]
      rfl
    · intro i hi
      match i with
      | 0 =>
          exact .pmwMultisigAccountConfigured multisig hmultisig hsource'
            hnetwork
      | 1 => exact .pmwPaymentStatus payment hpayment hpaymentLoads
      | 2 => exact .pmwFeeProof fee hfee hfeeLoads
      | i + 3 => simp at hi

/-- A process boots exactly when its settings are accepted and what its source
needs is there: no missing setting, unreachable database or foreign network
goes unnoticed, and nothing else keeps it from booting. -/
theorem boots_iff :
    (∃ p, Booted b lib getenv env p) ↔
      Environment.loadEnvConfig getenv = .ok env ∧
        (TeeBoots b lib env ∨ LedgerBoots b lib env) := by
  have hloads : Environment.loadEnvConfig getenv = .ok env →
      ((∃ services, (loadModule b lib env).result = .ok services) ↔
        TeeBoots b lib env ∨ LedgerBoots b lib env) := by
    intro henv
    have htypes := Server.servedAttestationTypes_of_loadEnvConfig henv
    by_cases hsource : env.sourceID = .tee
    · rw [loadModule_tee_iff hsource htypes, or_iff_left]
      exact fun h => h.source hsource
    · rw [loadModule_ledger_iff hsource htypes, or_iff_right]
      exact fun h => hsource h.settings.source
  constructor
  · rintro ⟨p, hp⟩
    exact ⟨hp.environment, (hloads hp.environment).mp ⟨_, hp.loads⟩⟩
  · rintro ⟨henv, h⟩
    obtain ⟨services, hservices⟩ := (hloads henv).mpr h
    obtain ⟨⟨slug, hslug⟩, hdest⟩ :
        (∃ slug, sourceURLSlug env.sourceID env.sourceURLSlug = .ok slug) ∧
          matchesURLSlug env.destinationChainURLSlug = true := by
      rcases h with h | h
      · exact ⟨h.sourceSlug, h.settings.destinationSlug⟩
      · exact ⟨h.sourceSlug, h.settings.destinationSlug⟩
    let deployment : Deployment :=
      ⟨env.sourceID, ⟨slug, sourceURLSlug_matches hslug⟩,
        ⟨env.destinationChainURLSlug, hdest⟩⟩
    exact ⟨.start b lib env deployment, .start henv
      (by rw [hservices]; rfl) rfl hslug rfl⟩

end Boots

end VerifierApi

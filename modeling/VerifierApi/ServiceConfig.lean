import VerifierApi.DeploymentConfig
import VerifierApi.FeeProofVerifier
import VerifierApi.PaymentStatusVerifier

/-!
# The configurations of the services

Each attestation type has a builder which checks the settings it needs in a
fixed order and stops at the first bad one.  What a builder accepts is
characterized setting by setting, and so is the configuration it returns:
nothing in it depends on a setting which the builder does not read.
-/

namespace VerifierApi

/-! ## Single settings -/

def trueSpellings : List String :=
  ["1", "t", "T", "TRUE", "true", "True"]

def falseSpellings : List String :=
  ["0", "f", "F", "FALSE", "false", "False"]

/-- `strconv.ParseBool`. -/
def parseBool (text : String) : Except ExternalError Bool :=
  if text ∈ trueSpellings then .ok true
  else if text ∈ falseSpellings then .ok false
  else .error ⟨s!"strconv.ParseBool: parsing {quote text}: invalid syntax", []⟩

/-- An unset flag is off. -/
def parseOptionalBool (key val : String) : Except GoError Bool :=
  if val = "" then .ok false
  else (parseBool val).mapError fun err : ExternalError =>
    .wrapf s!"{key} has invalid bool value {quote val}" err

theorem parseOptionalBool_eq_true_iff {key val : String} :
    parseOptionalBool key val = .ok true ↔ val ∈ trueSpellings := by
  unfold parseOptionalBool
  by_cases hempty : val = ""
  · subst hempty
    simp [trueSpellings]
  · simp only [hempty, if_false, mapError_eq_ok, parseBool]
    split_ifs with htrue hfalse <;> simp [htrue]

theorem parseOptionalBool_eq_false_iff {key val : String} :
    parseOptionalBool key val = .ok false ↔
      val = "" ∨ val ∈ falseSpellings := by
  unfold parseOptionalBool
  by_cases hempty : val = ""
  · simp [hempty]
  · simp only [hempty, if_false, mapError_eq_ok, parseBool, false_or]
    split_ifs with htrue hfalse
    · simp only [Except.ok.injEq, Bool.true_eq_false, false_iff]
      intro hmem
      simp only [trueSpellings, falseSpellings, List.mem_cons,
        List.not_mem_nil, or_false] at htrue hmem
      rcases htrue with rfl | rfl | rfl | rfl | rfl | rfl <;>
        exact absurd hmem (by decide)
    · simp [hfalse]
    · simp [hfalse]

/-- The flag that a setting stands for. -/
def flagOn (val : String) : Bool :=
  val ∈ trueSpellings

theorem parseOptionalBool_eq_ok_iff {key val : String} {flag : Bool} :
    parseOptionalBool key val = .ok flag ↔
      (val = "" ∨ val ∈ trueSpellings ∨ val ∈ falseSpellings) ∧
        flag = flagOn val := by
  have hboth : parseOptionalBool key val = .ok true →
      parseOptionalBool key val ≠ .ok false := by
    intro htrue hfalse
    rw [htrue] at hfalse
    simp at hfalse
  rw [parseOptionalBool_eq_true_iff, Ne, parseOptionalBool_eq_false_iff]
    at hboth
  cases flag with
  | true =>
      rw [parseOptionalBool_eq_true_iff]
      simp only [flagOn]
      constructor
      · intro htrue
        exact ⟨.inr (.inl htrue), by simp [htrue]⟩
      · rintro ⟨-, hflag⟩
        simpa using hflag.symm
  | false =>
      rw [parseOptionalBool_eq_false_iff]
      simp only [flagOn]
      constructor
      · intro hfalse
        have hnot : val ∉ trueSpellings := fun htrue => hboth htrue hfalse
        refine ⟨hfalse.imp_right .inr, by simp [hnot]⟩
      · rintro ⟨hval, hflag⟩
        have hnot : val ∉ trueSpellings := by simpa using hflag.symm
        rcases hval with hempty | htrue | hfalse
        · exact .inl hempty
        · exact absurd htrue hnot
        · exact .inr hfalse

theorem parseContractAddress_eq_ok_iff {lib : AddressLibrary}
    {raw envName : String} {addr : Address} :
    parseContractAddress lib raw envName = .ok addr ↔
      lib.isHexAddress raw = true ∧ lib.hexToAddress raw ≠ zeroAddress ∧
        addr = lib.hexToAddress raw := by
  simp only [parseContractAddress, bind_eq_ok, ensure_eq_ok, exists_unit,
    Except.ok.injEq]
  rw [eq_comm (a := addr)]

/-- A required chain id in base 10.  A product beyond 64 bits is out of
range, as a sum beyond them is. -/
def parseChainID (raw : String) : Except GoError UInt64 := do
  ensure (raw ≠ "") (.new s!"missing environment variables: {envChainID}")
  let chainID ← (parseUint raw 64).mapError fun err : ExternalError =>
    ErrorValue.wrapf
      s!"{envChainID} must be a base-10 uint64: {quote raw}" err
  ensure (chainID ≠ 0) (.new s!"{envChainID} must be non-zero")
  .ok (UInt64.ofNat chainID)

/-! ## Builders -/

/-- What the builders take from libraries: the addresses, the embedded ABIs
at the arguments of each type, and the embedded root certificate. -/
structure ConfigLibrary where
  addresses : AddressLibrary
  teeInstructionsABI : Except ExternalError TeeInstructionsABI
  loadGoogleRootCert : Except GoError Certificate
  availabilityCheckABI : Except GoError (AbiCodec TeeRequestBody TeeResponseBody)
  paymentStatusABI : Except GoError
    (AbiCodec PaymentStatus.RequestBody PaymentStatus.ResponseBody)
  multisigABI : Except GoError
    (AbiCodec Multisig.RequestBody Multisig.ResponseBody)
  feeProofABI : Except GoError
    (AbiCodec FeeProof.RequestBody FeeProof.ResponseBody)

/-- The configuration of the two types which read payments. -/
structure PMWConfig (S T : Type) extends LoadedConfig S T where
  sourceDatabaseURL : String
  cchainDatabaseURL : String
  flareTeeManagerContractAddress : Address
  teePaymentsContractAddress : Address
  flareRPCURL : String
  parsedTeeInstructionsABI : TeeInstructionsABI

def pmwFields : List String :=
  [envCChainDatabaseURL, envSourceDatabaseURL,
    envFlareTeeManagerContractAddress, envTeePaymentsContractAddress,
    envFlareRPCURL]

def buildPMWConfig {S T : Type} (lib : ConfigLibrary)
    (attestationType : AttestationType)
    (abiArguments : Except GoError (AbiCodec S T)) (env : EnvConfig) :
    Except GoError (PMWConfig S T) := do
  checkMissingFields env pmwFields
  let flareTeeManagerAddr ← parseContractAddress lib.addresses
    env.flareTeeManagerContractAddress envFlareTeeManagerContractAddress
  let teePaymentsAddr ← parseContractAddress lib.addresses
    env.teePaymentsContractAddress envTeePaymentsContractAddress
  let commonConfig ← loadEncodedAndABI env attestationType abiArguments
  let parsedTeeInstructionsABI ←
    lib.teeInstructionsABI.mapError fun err : ExternalError =>
      ErrorValue.wrapf "cannot parse TeeInstructions ABI" err
  .ok {
    toLoadedConfig := commonConfig
    sourceDatabaseURL := env.sourceDatabaseURL
    cchainDatabaseURL := env.cChainDatabaseURL
    flareTeeManagerContractAddress := flareTeeManagerAddr
    teePaymentsContractAddress := teePaymentsAddr
    flareRPCURL := env.flareRPCURL
    parsedTeeInstructionsABI := parsedTeeInstructionsABI }

def buildPMWPaymentStatusConfig (lib : ConfigLibrary) (env : EnvConfig) :
    Except GoError
      (PMWConfig PaymentStatus.RequestBody PaymentStatus.ResponseBody) :=
  buildPMWConfig lib .pmwPaymentStatus lib.paymentStatusABI env

def buildPMWFeeProofConfig (lib : ConfigLibrary) (env : EnvConfig) :
    Except GoError (PMWConfig FeeProof.RequestBody FeeProof.ResponseBody) :=
  buildPMWConfig lib .pmwFeeProof lib.feeProofABI env

structure PMWMultisigAccountConfig extends
    LoadedConfig Multisig.RequestBody Multisig.ResponseBody where
  sourceRPCURL : String

def buildPMWMultisigAccountConfiguredConfig (lib : ConfigLibrary)
    (env : EnvConfig) : Except GoError PMWMultisigAccountConfig := do
  checkMissingFields env [envSourceRPCURL]
  let commonConfig ← loadEncodedAndABI env .pmwMultisigAccountConfigured
    lib.multisigABI
  .ok {
    toLoadedConfig := commonConfig
    sourceRPCURL := env.sourceRPCURL }

def defaultTeeAudience : String := "https://sts.google.com"

structure TeeAvailabilityCheckConfig extends
    LoadedConfig TeeRequestBody TeeResponseBody where
  relayContractAddress : Address
  relayCutoverContractAddress : Address
  relayCutoverStartingRewardEpoch : UInt32
  allowTeeDebug : Bool
  disableAttestationCheckE2E : Bool
  allowPrivateNetworks : Bool
  flareRPCURL : String
  googleRootCertificate : Certificate
  teeAudience : String
  chainID : UInt64

/-- The part of the configuration which a run of the check reads. -/
def TeeAvailabilityCheckConfig.teeConfig (cfg : TeeAvailabilityCheckConfig) :
    TeeConfig where
  relayCutover := newRelayCaller cfg.relayCutoverContractAddress
    cfg.relayCutoverStartingRewardEpoch
  allowTeeDebug := cfg.allowTeeDebug
  disableAttestationCheckE2E := cfg.disableAttestationCheckE2E
  allowPrivateNetworks := cfg.allowPrivateNetworks
  googleRootCertificate := some cfg.googleRootCertificate
  teeAudience := cfg.teeAudience
  chainID := cfg.chainID

def buildTeeAvailabilityCheckConfig (lib : ConfigLibrary) (env : EnvConfig) :
    Except GoError TeeAvailabilityCheckConfig := do
  ensure (env.sourceID = .tee)
    (.new
      s!"unsupported SOURCE_ID {quote env.sourceID.text} for TeeAvailabilityCheck: expected {quote SourceID.tee.text}")
  checkMissingFields env [envRelayContractAddress, envFlareRPCURL]
  let relayAddr ← parseContractAddress lib.addresses env.relayContractAddress
    envRelayContractAddress
  let cutover ← parseRelayCutover lib.addresses env.toCutoverEnv relayAddr
  let googleRootCert ← lib.loadGoogleRootCert
  let commonConfig ← loadEncodedAndABI env .availabilityCheck
    lib.availabilityCheckABI
  let allowTeeDebug ← parseOptionalBool envAllowTeeDebug env.allowTeeDebug
  let disableAttestationCheckE2E ← parseOptionalBool
    envDisableAttestationCheckE2E env.disableAttestationCheckE2E
  let allowPrivateNetworks ← parseOptionalBool envAllowPrivateNetworks
    env.allowPrivateNetworks
  let chainID ← parseChainID env.chainID
  .ok {
    toLoadedConfig := commonConfig
    relayContractAddress := relayAddr
    relayCutoverContractAddress := cutover.1
    relayCutoverStartingRewardEpoch := cutover.2
    allowTeeDebug := allowTeeDebug
    disableAttestationCheckE2E := disableAttestationCheckE2E
    allowPrivateNetworks := allowPrivateNetworks
    flareRPCURL := env.flareRPCURL
    googleRootCertificate := googleRootCert
    teeAudience :=
      if env.teeAudience = "" then defaultTeeAudience else env.teeAudience
    chainID := chainID }

/-! ## Accepted environments -/

section Accepted

variable {S T : Type} {lib : ConfigLibrary} {env : EnvConfig}

/-- The settings of the types which read payments are complete and well
formed. -/
structure PMWAccepted (lib : ConfigLibrary) (env : EnvConfig) : Prop where
  cchainDatabaseURL : env.cChainDatabaseURL ≠ ""
  sourceDatabaseURL : env.sourceDatabaseURL ≠ ""
  flareRPCURL : env.flareRPCURL ≠ ""
  flareTeeManager : env.flareTeeManagerContractAddress ≠ "" ∧
    lib.addresses.isHexAddress env.flareTeeManagerContractAddress = true ∧
    lib.addresses.hexToAddress env.flareTeeManagerContractAddress ≠
      zeroAddress
  teePayments : env.teePaymentsContractAddress ≠ "" ∧
    lib.addresses.isHexAddress env.teePaymentsContractAddress = true ∧
    lib.addresses.hexToAddress env.teePaymentsContractAddress ≠ zeroAddress
  destinationSlug : matchesURLSlug env.destinationChainURLSlug = true

theorem checkMissingFields_pmwFields {u : Unit} :
    checkMissingFields env pmwFields = .ok u ↔
      env.cChainDatabaseURL ≠ "" ∧ env.sourceDatabaseURL ≠ "" ∧
        env.flareTeeManagerContractAddress ≠ "" ∧
        env.teePaymentsContractAddress ≠ "" ∧ env.flareRPCURL ≠ "" := by
  have hcchain : env.field envCChainDatabaseURL =
      some env.cChainDatabaseURL := rfl
  have hsource : env.field envSourceDatabaseURL =
      some env.sourceDatabaseURL := rfl
  have hmanager : env.field envFlareTeeManagerContractAddress =
      some env.flareTeeManagerContractAddress := rfl
  have hpayments : env.field envTeePaymentsContractAddress =
      some env.teePaymentsContractAddress := rfl
  have hrpc : env.field envFlareRPCURL = some env.flareRPCURL := rfl
  simp only [checkMissingFields_eq_ok_iff, pmwFields, List.forall_mem_cons,
    List.not_mem_nil, false_implies, implies_true, and_true, hcchain,
    hsource, hmanager, hpayments, hrpc, ne_eq, Option.some.injEq]

theorem buildPMWConfig_eq_ok_iff {t : AttestationType}
    {abiArguments : Except GoError (AbiCodec S T)} {cfg : PMWConfig S T} :
    buildPMWConfig lib t abiArguments env = .ok cfg ↔
      PMWAccepted lib env ∧ ∃ slug codec abi,
        sourceURLSlug env.sourceID env.sourceURLSlug = .ok slug ∧
        abiArguments = .ok codec ∧ lib.teeInstructionsABI = .ok abi ∧
        cfg = {
          toLoadedConfig := env.loadedConfig t slug codec
          sourceDatabaseURL := env.sourceDatabaseURL
          cchainDatabaseURL := env.cChainDatabaseURL
          flareTeeManagerContractAddress :=
            lib.addresses.hexToAddress env.flareTeeManagerContractAddress
          teePaymentsContractAddress :=
            lib.addresses.hexToAddress env.teePaymentsContractAddress
          flareRPCURL := env.flareRPCURL
          parsedTeeInstructionsABI := abi } := by
  simp only [buildPMWConfig, bind_eq_ok, checkMissingFields_pmwFields,
    exists_const, parseContractAddress_eq_ok_iff,
    loadEncodedAndABI_eq_ok_iff, mapError_eq_ok, Except.ok.injEq]
  constructor
  · rintro ⟨⟨hcchain, hsource, hmanager, hpayments, hrpc⟩, _,
      ⟨hmanagerHex, hmanagerZero, rfl⟩, _, ⟨hpaymentsHex, hpaymentsZero,
      rfl⟩, _, ⟨hslug, slug, codec, hsourceSlug, hcodec, rfl⟩, abi, habi,
      rfl⟩
    exact ⟨⟨hcchain, hsource, hrpc, ⟨hmanager, hmanagerHex, hmanagerZero⟩,
      ⟨hpayments, hpaymentsHex, hpaymentsZero⟩, hslug⟩, slug, codec, abi,
      hsourceSlug, hcodec, habi, rfl⟩
  · rintro ⟨h, slug, codec, abi, hsourceSlug, hcodec, habi, rfl⟩
    exact ⟨⟨h.cchainDatabaseURL, h.sourceDatabaseURL, h.flareTeeManager.1,
      h.teePayments.1, h.flareRPCURL⟩, _, ⟨h.flareTeeManager.2.1,
      h.flareTeeManager.2.2, rfl⟩, _, ⟨h.teePayments.2.1, h.teePayments.2.2,
      rfl⟩, _, ⟨h.destinationSlug, slug, codec, hsourceSlug, hcodec, rfl⟩,
      abi, habi, rfl⟩

theorem buildPMWMultisigAccountConfiguredConfig_eq_ok_iff
    {cfg : PMWMultisigAccountConfig} :
    buildPMWMultisigAccountConfiguredConfig lib env = .ok cfg ↔
      env.sourceRPCURL ≠ "" ∧
      matchesURLSlug env.destinationChainURLSlug = true ∧
      ∃ slug codec, sourceURLSlug env.sourceID env.sourceURLSlug = .ok slug ∧
        lib.multisigABI = .ok codec ∧
        cfg = {
          toLoadedConfig :=
            env.loadedConfig .pmwMultisigAccountConfigured slug codec
          sourceRPCURL := env.sourceRPCURL } := by
  have hrpc : env.field envSourceRPCURL = some env.sourceRPCURL := rfl
  simp only [buildPMWMultisigAccountConfiguredConfig, bind_eq_ok,
    checkMissingFields_eq_ok_iff, List.forall_mem_cons, List.not_mem_nil,
    false_implies, implies_true, and_true, hrpc, ne_eq, Option.some.injEq,
    exists_const, loadEncodedAndABI_eq_ok_iff, Except.ok.injEq]
  constructor
  · rintro ⟨hne, _, ⟨hslug, slug, codec, hsourceSlug, hcodec, rfl⟩, rfl⟩
    exact ⟨hne, hslug, slug, codec, hsourceSlug, hcodec, rfl⟩
  · rintro ⟨hne, hslug, slug, codec, hsourceSlug, hcodec, rfl⟩
    exact ⟨hne, _, ⟨hslug, slug, codec, hsourceSlug, hcodec, rfl⟩, rfl⟩

/-- The setting of a flag is one that the parser knows. -/
def FlagSpelled (val : String) : Prop :=
  val = "" ∨ val ∈ trueSpellings ∨ val ∈ falseSpellings

/-- The settings of the TEE check are complete and well formed. -/
structure TeeAccepted (lib : ConfigLibrary) (env : EnvConfig) : Prop where
  source : env.sourceID = .tee
  flareRPCURL : env.flareRPCURL ≠ ""
  relay : env.relayContractAddress ≠ "" ∧
    lib.addresses.isHexAddress env.relayContractAddress = true ∧
    lib.addresses.hexToAddress env.relayContractAddress ≠ zeroAddress
  destinationSlug : matchesURLSlug env.destinationChainURLSlug = true
  allowTeeDebug : FlagSpelled env.allowTeeDebug
  disableAttestationCheckE2E : FlagSpelled env.disableAttestationCheckE2E
  allowPrivateNetworks : FlagSpelled env.allowPrivateNetworks

/-- The audience that tokens have to name. -/
def EnvConfig.expectedAudience (env : EnvConfig) : String :=
  if env.teeAudience = "" then defaultTeeAudience else env.teeAudience

theorem buildTeeAvailabilityCheckConfig_eq_ok_iff
    {cfg : TeeAvailabilityCheckConfig} :
    buildTeeAvailabilityCheckConfig lib env = .ok cfg ↔
      TeeAccepted lib env ∧ ∃ slug codec root cutover chainID,
        sourceURLSlug env.sourceID env.sourceURLSlug = .ok slug ∧
        lib.availabilityCheckABI = .ok codec ∧
        lib.loadGoogleRootCert = .ok root ∧
        parseRelayCutover lib.addresses env.toCutoverEnv
          (lib.addresses.hexToAddress env.relayContractAddress) =
            .ok cutover ∧
        parseChainID env.chainID = .ok chainID ∧
        cfg = {
          toLoadedConfig := env.loadedConfig .availabilityCheck slug codec
          relayContractAddress :=
            lib.addresses.hexToAddress env.relayContractAddress
          relayCutoverContractAddress := cutover.1
          relayCutoverStartingRewardEpoch := cutover.2
          allowTeeDebug := flagOn env.allowTeeDebug
          disableAttestationCheckE2E := flagOn env.disableAttestationCheckE2E
          allowPrivateNetworks := flagOn env.allowPrivateNetworks
          flareRPCURL := env.flareRPCURL
          googleRootCertificate := root
          teeAudience := env.expectedAudience
          chainID := chainID } := by
  have hrelay : env.field envRelayContractAddress =
      some env.relayContractAddress := rfl
  have hrpc : env.field envFlareRPCURL = some env.flareRPCURL := rfl
  simp only [buildTeeAvailabilityCheckConfig, bind_eq_ok, ensure_eq_ok,
    checkMissingFields_eq_ok_iff, List.forall_mem_cons, List.not_mem_nil,
    false_implies, implies_true, and_true, hrelay, hrpc, ne_eq,
    Option.some.injEq, exists_const, parseContractAddress_eq_ok_iff,
    loadEncodedAndABI_eq_ok_iff, parseOptionalBool_eq_ok_iff,
    Except.ok.injEq]
  constructor
  · rintro ⟨hsource, ⟨hrelayNe, hrpcNe⟩, _, ⟨hhex, hzero, rfl⟩, cutover,
      hcutover, root, hroot, _, ⟨hslug, slug, codec, hsourceSlug, hcodec,
      rfl⟩, _, ⟨hdebug, rfl⟩, _, ⟨hdisable, rfl⟩, _, ⟨hprivate, rfl⟩,
      chainID, hchainID, rfl⟩
    exact ⟨⟨hsource, hrpcNe, ⟨hrelayNe, hhex, hzero⟩, hslug, hdebug,
      hdisable, hprivate⟩, slug, codec, root, cutover, chainID, hsourceSlug,
      hcodec, hroot, hcutover, hchainID, rfl⟩
  · rintro ⟨h, slug, codec, root, cutover, chainID, hsourceSlug, hcodec,
      hroot, hcutover, hchainID, rfl⟩
    exact ⟨h.source, ⟨h.relay.1, h.flareRPCURL⟩, _, ⟨h.relay.2.1, h.relay.2.2,
      rfl⟩, cutover, hcutover, root, hroot, _, ⟨h.destinationSlug, slug,
      codec, hsourceSlug, hcodec, rfl⟩, _, ⟨h.allowTeeDebug, rfl⟩, _,
      ⟨h.disableAttestationCheckE2E, rfl⟩, _, ⟨h.allowPrivateNetworks, rfl⟩,
      chainID, hchainID, rfl⟩

end Accepted

end VerifierApi

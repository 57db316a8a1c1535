import VerifierApi.InstructionEvent
import VerifierApi.MultisigVerifier
import VerifierApi.RelayCutover
import VerifierApi.TextCuts

/-!
# The configuration of a deployment

A process serves one source, under a URL prefix of two operator-chosen slugs.
Its attestation types are the ones of its source.  The loaders of the types
share one step, which resolves the slugs and encodes the names that every
request has to repeat.
-/

namespace VerifierApi

/-! ## Sources and attestation types -/

inductive SourceID where
  | tee
  | xrp
  | testXRP
deriving DecidableEq, Repr

def SourceID.text : SourceID → String
  | .tee => "TEE"
  | .xrp => "XRP"
  | .testXRP => "testXRP"

/-- The source as the verifier of signer lists sees it. -/
def SourceID.sourceName : SourceID → Multisig.SourceName
  | .tee => .other "TEE"
  | .xrp => .xrp
  | .testXRP => .testXRP

def sourceIDs : List SourceID :=
  [.tee, .xrp, .testXRP]

inductive AttestationType where
  | availabilityCheck
  | pmwPaymentStatus
  | pmwMultisigAccountConfigured
  | pmwFeeProof
deriving DecidableEq, Repr

def AttestationType.text : AttestationType → String
  | .availabilityCheck => "TeeAvailabilityCheck"
  | .pmwPaymentStatus => "PMWPaymentStatus"
  | .pmwMultisigAccountConfigured => "PMWMultisigAccountConfigured"
  | .pmwFeeProof => "PMWFeeProof"

def sourceAttestationTypes : SourceID → List AttestationType
  | .tee => [.availabilityCheck]
  | .xrp => [.pmwMultisigAccountConfigured, .pmwPaymentStatus, .pmwFeeProof]
  | .testXRP =>
      [.pmwMultisigAccountConfigured, .pmwPaymentStatus, .pmwFeeProof]

theorem sourceAttestationTypes_nodup (source : SourceID) :
    (sourceAttestationTypes source).Nodup := by
  cases source <;> decide

/-! ## The environment -/

def envSourceRPCURL : String := "SOURCE_RPC_URL"

def envFlareRPCURL : String := "FLARE_RPC_URL"

def envFlareTeeManagerContractAddress : String :=
  "FLARE_TEE_MANAGER_CONTRACT_ADDRESS"

def envTeePaymentsContractAddress : String := "TEE_PAYMENTS_CONTRACT_ADDRESS"

def envSourceDatabaseURL : String := "SOURCE_DATABASE_URL"

def envCChainDatabaseURL : String := "CCHAIN_DATABASE_URL"

def envPort : String := "PORT"

def envAPIKeys : String := "API_KEYS"

def envSourceID : String := "SOURCE_ID"

def envAllowTeeDebug : String := "ALLOW_TEE_DEBUG"

def envDisableAttestationCheckE2E : String := "DISABLE_ATTESTATION_CHECK_E2E"

def envAllowPrivateNetworks : String := "ALLOW_PRIVATE_NETWORKS"

def envTeeAudience : String := "TEE_AUDIENCE"

def envChainID : String := "CHAIN_ID"

def envDestinationChainURLSlug : String := "DESTINATION_CHAIN_URL_SLUG"

def envSourceURLSlug : String := "SOURCE_URL_SLUG"

/-- The settings of a process, each of them empty when unset. -/
structure EnvConfig extends CutoverEnv where
  sourceRPCURL : String
  flareRPCURL : String
  relayContractAddress : String
  flareTeeManagerContractAddress : String
  teePaymentsContractAddress : String
  sourceDatabaseURL : String
  cChainDatabaseURL : String
  allowTeeDebug : String
  disableAttestationCheckE2E : String
  allowPrivateNetworks : String
  teeAudience : String
  chainID : String
  destinationChainURLSlug : String
  sourceURLSlug : String
  port : String
  apiKeys : List String
  attestationType : Option AttestationType
  attestationTypes : List AttestationType
  sourceID : SourceID

/-- The explicit list when it is set, otherwise the single type. -/
def EnvConfig.servedAttestationTypes (env : EnvConfig) :
    List AttestationType :=
  if env.attestationTypes ≠ [] then env.attestationTypes
  else env.attestationType.toList

/-- The settings that `CheckMissingFields` knows, under their names. -/
def EnvConfig.field (env : EnvConfig) (name : String) : Option String :=
  if name = envSourceRPCURL then some env.sourceRPCURL
  else if name = envFlareRPCURL then some env.flareRPCURL
  else if name = envRelayContractAddress then some env.relayContractAddress
  else if name = envFlareTeeManagerContractAddress then
    some env.flareTeeManagerContractAddress
  else if name = envTeePaymentsContractAddress then
    some env.teePaymentsContractAddress
  else if name = envSourceDatabaseURL then some env.sourceDatabaseURL
  else if name = envCChainDatabaseURL then some env.cChainDatabaseURL
  else none

/-- A name outside the switch is never missing. -/
def checkMissingFields (env : EnvConfig) (fields : List String) :
    Except GoError Unit :=
  let missing := fields.filter fun name => env.field name = some ""
  ensure (missing = [])
    (.new ("missing environment variables: " ++ ", ".intercalate missing))

theorem checkMissingFields_eq_ok_iff {env : EnvConfig}
    {fields : List String} {u : Unit} :
    checkMissingFields env fields = .ok u ↔
      ∀ name ∈ fields, env.field name ≠ some "" := by
  simp only [checkMissingFields, ensure_eq_ok, List.filter_eq_nil_iff,
    decide_eq_true_eq]

/-! ## Slugs and routes -/

def isLowerLetter (c : Char) : Bool :=
  'a' ≤ c ∧ c ≤ 'z'

def isSlugChar (c : Char) : Bool :=
  isLowerLetter c || c.isDigit || c = '-'

def urlSlugPattern : String := "^[a-z][a-z0-9-]\x7b0,31\x7d$"

/-- The matches of `urlSlugPattern`. -/
def matchesURLSlug (slug : String) : Bool :=
  match slug.toList with
  | [] => false
  | c :: rest => isLowerLetter c ∧ rest.all isSlugChar ∧ rest.length ≤ 31

/-- `strings.ToLower`, on the names of sources. -/
def SourceID.lowered (source : SourceID) : String :=
  String.ofList (source.text.toList.map Char.toLower)

def deploymentPrefix (sourceSlug destinationSlug : String) : String :=
  "/verifier/" ++ sourceSlug ++ "/" ++ destinationSlug

/-- The source segment: the override when it is set, otherwise the lowered
source id. -/
def sourceURLSlug (source : SourceID) (override : String) :
    Except GoError String :=
  if override = "" then .ok source.lowered
  else if matchesURLSlug override then .ok override
  else .error (.new
    s!"{envSourceURLSlug} {quote override} must be a lowercase URL slug matching {urlSlugPattern}")

def validateDestinationChainURLSlug (slug : String) : Except GoError Unit :=
  do
    ensure (slug ≠ "")
      (.new s!"missing environment variables: {envDestinationChainURLSlug}")
    ensure (matchesURLSlug slug)
      (.new
        s!"{envDestinationChainURLSlug} {quote slug} must be a lowercase URL slug matching {urlSlugPattern}")

theorem matchesURLSlug_lowered (source : SourceID) :
    matchesURLSlug source.lowered = true := by
  cases source <;> decide

theorem sourceURLSlug_matches {source : SourceID} {override slug : String}
    (h : sourceURLSlug source override = .ok slug) :
    matchesURLSlug slug = true := by
  unfold sourceURLSlug at h
  split_ifs at h with hempty hmatches
  · obtain rfl := Except.ok.inj h
    exact matchesURLSlug_lowered source
  · obtain rfl := Except.ok.inj h
    exact hmatches

theorem validateDestinationChainURLSlug_eq_ok_iff {slug : String}
    {u : Unit} :
    validateDestinationChainURLSlug slug = .ok u ↔
      matchesURLSlug slug = true := by
  simp only [validateDestinationChainURLSlug, ensure_bind_eq_ok,
    ensure_eq_ok, and_iff_right_iff_imp]
  rintro hmatches rfl
  exact absurd hmatches (by decide)

/-! ## What the loaders share -/

/-- `EncodeAttestationOrSourceName`: a short name as a word. -/
def encodeAttestationOrSourceName (name : String) : Except GoError Hash := do
  ensure (¬ (2 ≤ (textBytes name).length ∧
      ((textBytes name).take 2 = textBytes "0x" ∨
        (textBytes name).take 2 = textBytes "0X")))
    (.new
      s!"attestation type or source id name must not start with '0x'. Provided: {name}")
  (stringToCommonHash name).mapError fun err : ExternalError => err.toGoError

/-- The codecs of the ABI library at the two arguments of a type. -/
structure AbiCodec (S T : Type) where
  decodeRequest : List UInt8 → Except ExternalError S
  encodeRequest : S → Except ExternalError (List UInt8)
  encodeResponse : T → Except ExternalError (List UInt8)

/-- The configuration of an attestation type with its place in the URL
space. -/
structure LoadedConfig (S T : Type) extends EncodedAndABI S T where
  source : SourceID
  abiEncodeRequest : S → Except ExternalError (List UInt8)
  destinationChainSlug : String
  sourceSlug : String

/-- `LoadEncodedAndABI`, on the outcome of `getABIArguments`. -/
def loadEncodedAndABI {S T : Type} (env : EnvConfig)
    (attestationType : AttestationType)
    (abiArguments : Except GoError (AbiCodec S T)) :
    Except GoError (LoadedConfig S T) := do
  validateDestinationChainURLSlug env.destinationChainURLSlug
  let sourceSlug ← sourceURLSlug env.sourceID env.sourceURLSlug
  let sourceIDEnc ← encodeAttestationOrSourceName env.sourceID.text
  let attestationTypeEnc ←
    encodeAttestationOrSourceName attestationType.text
  let codec ← abiArguments
  .ok {
    attestationType := attestationType.text
    attestationTypeEncoded := attestationTypeEnc
    sourceID := env.sourceID.text
    sourceIDEncoded := sourceIDEnc
    source := env.sourceID
    abiDecodeRequestData := codec.decodeRequest
    abiEncodeData := codec.encodeResponse
    abiEncodeRequest := codec.encodeRequest
    destinationChainSlug := env.destinationChainURLSlug
    sourceSlug := sourceSlug }

/-- The words that name the sources and the types. -/
def SourceID.encoded (source : SourceID) : Hash :=
  .rightPad 32 (textBytes source.text)

def AttestationType.encoded (t : AttestationType) : Hash :=
  .rightPad 32 (textBytes t.text)

theorem encodeAttestationOrSourceName_source (source : SourceID) :
    encodeAttestationOrSourceName source.text = .ok source.encoded := by
  cases source <;> decide

theorem encodeAttestationOrSourceName_type (t : AttestationType) :
    encodeAttestationOrSourceName t.text = .ok t.encoded := by
  cases t <;> decide

theorem SourceID.encoded_injective : Function.Injective SourceID.encoded := by
  intro source source' h
  cases source <;> cases source' <;> first | rfl | exact absurd h (by decide)

theorem AttestationType.encoded_injective :
    Function.Injective AttestationType.encoded := by
  intro t t' h
  cases t <;> cases t' <;> first | rfl | exact absurd h (by decide)

/-- The configuration which an accepted environment stands for. -/
def EnvConfig.loadedConfig {S T : Type} (env : EnvConfig)
    (t : AttestationType) (slug : String) (codec : AbiCodec S T) :
    LoadedConfig S T where
  attestationType := t.text
  attestationTypeEncoded := t.encoded
  sourceID := env.sourceID.text
  sourceIDEncoded := env.sourceID.encoded
  source := env.sourceID
  abiDecodeRequestData := codec.decodeRequest
  abiEncodeData := codec.encodeResponse
  abiEncodeRequest := codec.encodeRequest
  destinationChainSlug := env.destinationChainURLSlug
  sourceSlug := slug

theorem loadEncodedAndABI_eq_ok_iff {S T : Type} {env : EnvConfig}
    {t : AttestationType} {abiArguments : Except GoError (AbiCodec S T)}
    {config : LoadedConfig S T} :
    loadEncodedAndABI env t abiArguments = .ok config ↔
      matchesURLSlug env.destinationChainURLSlug = true ∧
      ∃ slug codec, sourceURLSlug env.sourceID env.sourceURLSlug = .ok slug ∧
        abiArguments = .ok codec ∧ config = env.loadedConfig t slug codec := by
  simp only [loadEncodedAndABI, bind_eq_ok,
    validateDestinationChainURLSlug_eq_ok_iff, exists_const,
    encodeAttestationOrSourceName_source, encodeAttestationOrSourceName_type]
  constructor
  · rintro ⟨hmatches, slug, hslug, _, hsource, _, htype, codec, hcodec,
      hconfig⟩
    obtain rfl := Except.ok.inj hsource
    obtain rfl := Except.ok.inj htype
    exact ⟨hmatches, slug, codec, hslug, hcodec,
      (Except.ok.inj hconfig).symm⟩
  · rintro ⟨hmatches, slug, codec, hslug, hcodec, rfl⟩
    exact ⟨hmatches, slug, hslug, _, rfl, _, rfl, codec, hcodec, rfl⟩

end VerifierApi

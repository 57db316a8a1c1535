import VerifierApi.DBConnection
import VerifierApi.DeploymentRoutes
import VerifierApi.HandleLedger
import VerifierApi.NetworkPin
import VerifierApi.ServiceConfig

/-!
# Loading and closing the services

A process loads the services of its attestation types one after another.  The
services which read payments open two databases and a connection to a Flare
node, the TEE check opens a connection, and the check of signer lists holds
nothing.  A service that fails to load closes what it opened, and the ones
loaded before it are closed as well.
-/

namespace VerifierApi

/-! ## Handles and what they are opened at -/

inductive HandleKind where
  | database (db : ServiceDB)
  | flareRPC
deriving DecidableEq, Repr

/-- A handle of the service at a position in the list of loaded types. -/
structure Handle where
  service : ℕ
  kind : HandleKind
deriving DecidableEq, Repr

/-- What the outside answers while the services are loaded and closed. -/
structure Backends where
  gormOpen : Handle → Bytes → ℕ → Except ExternalError Unit
  sqlDB : Handle → Except ExternalError Unit
  sqlClose : Handle → Except ExternalError Unit
  dial : Handle → String → Except ExternalError Unit
  newTeePaymentsCaller : Handle → Address → Except ExternalError Unit
  newRelayCaller : Handle → Address → Except ExternalError Unit
  serverInfo : ℕ → Except ExternalError Multisig.ServerInfoResult
  checksumHex : Address → String

abbrev Opening (α : Type) := Traced GoError (HandleEvent Handle) α

variable (b : Backends)

/-- `configurePool` fails when the connection is not one of `database/sql`;
the connection stays open then. -/
def initDBWithRetries (db : ServiceDB) (service : ℕ) (dsn : Bytes)
    (opts : DBOptions) : Opening Handle :=
  let handle : Handle := ⟨service, .database db⟩
  let run := opts.attempts (b.gormOpen handle dsn)
  if run.connected then
    ⟨((b.sqlDB handle).mapError fun err : ExternalError =>
        (ErrorValue.wrapf
          s!"cannot configure connection pool for {db.name}" err : GoError)).map
        fun _ => handle,
      [.opened handle]⟩
  else
    ⟨.error (.new (bytesText ((run.failures.getLast?.map
      (openFailure db dsn opts.maxAttempts)).getD []))), []⟩

/-- `InitSourceDB` and `InitCChainDB`, without overriding options. -/
def initServiceDB (db : ServiceDB) (service : ℕ) (url : String) :
    Opening Handle :=
  initDBWithRetries b db service (db.withTimeouts (textBytes url)) db.options

def closeDB (handle : Handle) : Opening Unit :=
  match b.sqlDB handle with
  | .error err =>
      ⟨.error (.wrapf "failed to obtain underlying sql.DB" err), []⟩
  | .ok () =>
      ⟨(b.sqlClose handle).mapError fun err : ExternalError =>
        .wrapf "failed to close database" err, [.closed handle]⟩

def dialFlare (service : ℕ) (rpcURL : String) : Opening Handle :=
  let handle : Handle := ⟨service, .flareRPC⟩
  match b.dial handle rpcURL with
  | .error err =>
      ⟨.error (.wrapf s!"cannot connect to Flare node at {rpcURL}" err), []⟩
  | .ok () => ⟨.ok handle, [.opened handle]⟩

def newOnChainBinder (service : ℕ) (rpcURL : String)
    (contractAddr : Address) : Opening Handle := do
  let client ← dialFlare b service rpcURL
  (Traced.ofExcept ((b.newTeePaymentsCaller client contractAddr).mapError
    fun err : ExternalError => ErrorValue.wrapf
      s!"cannot create TeePayments caller at {b.checksumHex contractAddr}"
      err)).onError [.closed client]
  pure client

/-! ## The services -/

/-- The registries of the verifiers have the XRP sources only. -/
def constructorForSource : SourceID → Except GoError Unit
  | .tee => .error (.new s!"no verifier for sourceID: {SourceID.tee.text}")
  | .xrp => .ok ()
  | .testXRP => .ok ()

/-- `PaymentService` and `FeeProofService`; the verifier holds the binder. -/
structure PMWService (S T : Type) where
  config : PMWConfig S T
  db : Handle
  cdb : Handle
  binder : Handle

def newPMWService {S T : Type} (t : AttestationType) (service : ℕ)
    (config : Except GoError (PMWConfig S T)) :
    Opening (PMWService S T) := do
  let cfg ← Traced.ofExcept (config.mapError fun err =>
    ErrorValue.wrapf s!"cannot load {t.text} config" err)
  Traced.ofExcept ((constructorForSource cfg.source).mapError fun err =>
    .wrapf s!"unsupported SOURCE_ID {quote cfg.source.text} for {t.text}" err)
  let dataBase ← (initServiceDB b .source service
    cfg.sourceDatabaseURL).mapError fun err =>
      .wrapf "cannot connect to Source DB" err
  let cchainDB ← ((initServiceDB b .cChain service
    cfg.cchainDatabaseURL).mapError fun err =>
      .wrapf "cannot connect to CChain DB" err).onError
        (closeDB b dataBase).events
  let binder ← ((newOnChainBinder b service cfg.flareRPCURL
    cfg.teePaymentsContractAddress).mapError fun err =>
      .wrapf s!"cannot construct {t.text} verifier"
        (.wrapf "cannot create initial-nonce binder" err)).onError
          ((closeDB b dataBase).events ++ (closeDB b cchainDB).events)
  pure ⟨cfg, dataBase, cchainDB, binder⟩

def newPaymentService (lib : ConfigLibrary) (env : EnvConfig)
    (service : ℕ) : Opening
      (PMWService PaymentStatus.RequestBody PaymentStatus.ResponseBody) :=
  newPMWService b .pmwPaymentStatus service
    (buildPMWPaymentStatusConfig lib env)

def newFeeProofService (lib : ConfigLibrary) (env : EnvConfig)
    (service : ℕ) : Opening
      (PMWService FeeProof.RequestBody FeeProof.ResponseBody) :=
  newPMWService b .pmwFeeProof service (buildPMWFeeProofConfig lib env)

/-- `VerifyNetwork` of the multisig verifier: only a definite mismatch fails
the boot. -/
def Multisig.verifyNetwork (source : SourceName)
    (answer : Except ExternalError ServerInfoResult) : Except GoError Unit :=
  match checkNetwork source answer with
  | .ok _ => .ok ()
  | .error err => bootResult err

def newMultisigService (lib : ConfigLibrary) (env : EnvConfig)
    (service : ℕ) : Except GoError PMWMultisigAccountConfig := do
  let cfg ← (buildPMWMultisigAccountConfiguredConfig lib env).mapError
    fun err => ErrorValue.wrapf
      "cannot load PMWMultisigAccountConfigured config" err
  (do
    constructorForSource cfg.source
    Multisig.verifyNetwork cfg.source.sourceName
      (b.serverInfo service)).mapError fun err =>
        ErrorValue.wrapf
          "cannot initialize PMWMultisigAccountConfigured verifier" err
  .ok cfg

/-- `NewVerifier` of the TEE check: the next relay has a caller of its own,
over the same connection, when a cutover is configured. -/
def newTeeVerifier (cfg : TeeAvailabilityCheckConfig) (service : ℕ) :
    Opening Handle := do
  let client ← dialFlare b service cfg.flareRPCURL
  (Traced.ofExcept ((b.newRelayCaller client
    cfg.relayContractAddress).mapError fun err : ExternalError =>
      ErrorValue.wrapf
        s!"cannot create Relay caller at {b.checksumHex cfg.relayContractAddress}"
        err)).onError [.closed client]
  if cfg.relayCutoverContractAddress ≠ zeroAddress then
    (Traced.ofExcept ((b.newRelayCaller client
      cfg.relayCutoverContractAddress).mapError fun err : ExternalError =>
        ErrorValue.wrapf
          s!"cannot create next Relay caller at {b.checksumHex cfg.relayCutoverContractAddress}"
          err)).onError [.closed client]
    pure client
  else pure client

def newTeeAvailabilityService (lib : ConfigLibrary) (env : EnvConfig)
    (service : ℕ) : Opening (TeeAvailabilityCheckConfig × Handle) := do
  let cfg ← Traced.ofExcept
    ((buildTeeAvailabilityCheckConfig lib env).mapError fun err =>
      ErrorValue.wrapf "cannot load TeeAvailabilityCheck config" err)
  let client ← (newTeeVerifier b cfg service).mapError fun err =>
    .wrapf "cannot initialize TeeAvailabilityCheck verifier" err
  pure (cfg, client)

/-! ## The module -/

/-- A service whose verifier is registered at the routes of its type. -/
inductive RegisteredService where
  | teeAvailabilityCheck (config : TeeAvailabilityCheckConfig)
      (client : Handle)
  | pmwPaymentStatus (service :
      PMWService PaymentStatus.RequestBody PaymentStatus.ResponseBody)
  | pmwMultisigAccountConfigured (config : PMWMultisigAccountConfig)
  | pmwFeeProof (service :
      PMWService FeeProof.RequestBody FeeProof.ResponseBody)

namespace RegisteredService

def attestationType : RegisteredService → AttestationType
  | teeAvailabilityCheck _ _ => .availabilityCheck
  | pmwPaymentStatus _ => .pmwPaymentStatus
  | pmwMultisigAccountConfigured _ => .pmwMultisigAccountConfigured
  | pmwFeeProof _ => .pmwFeeProof

end RegisteredService

def PMWService.handles {S T : Type} (s : PMWService S T) : List Handle :=
  [s.db, s.cdb, s.binder]

/-- The databases are closed first; no failure keeps the others open, and all
failures are reported. -/
def PMWService.close {S T : Type} (s : PMWService S T) (name : String) :
    Opening Unit :=
  let closeSource := closeDB b s.db
  let closeCChain := closeDB b s.cdb
  let errs := [closeSource.result, closeCChain.result].filterMap fun
    | .ok _ => none
    | .error err => some err
  ⟨ensure (errs = [])
      (.wrapf s!"errors closing {name}" (.join errs)),
    closeSource.events ++ closeCChain.events ++ [.closed s.binder]⟩

/-- `Close` of what a service registers as its closer, if anything. -/
def RegisteredService.close : RegisteredService → Opening Unit
  | .teeAvailabilityCheck _ client => .report [.closed client]
  | .pmwPaymentStatus service => service.close b "PaymentService"
  | .pmwMultisigAccountConfigured _ => pure ()
  | .pmwFeeProof service => service.close b "FeeProofService"

def RegisteredService.handles : RegisteredService → List Handle
  | .teeAvailabilityCheck _ client => [client]
  | .pmwPaymentStatus service => service.handles
  | .pmwMultisigAccountConfigured _ => []
  | .pmwFeeProof service => service.handles

/-- The events of `closeAll`, which passes over failures. -/
def closeAll (services : List RegisteredService) :
    List (HandleEvent Handle) :=
  services.flatMap fun service => (service.close b).events

/-- The closers of a shutdown, after the server has stopped. -/
def shutdownServer (services : List RegisteredService) :
    List (HandleEvent Handle) :=
  services.flatMap fun service => (service.close b).events

def registerVerifier (lib : ConfigLibrary) (env : EnvConfig)
    (t : AttestationType) (service : ℕ) : Opening RegisteredService :=
  match t with
  | .availabilityCheck => do
      let (cfg, client) ← newTeeAvailabilityService b lib env service
      pure (.teeAvailabilityCheck cfg client)
  | .pmwPaymentStatus => do
      let payments ← newPaymentService b lib env service
      pure (.pmwPaymentStatus payments)
  | .pmwMultisigAccountConfigured => do
      let cfg ← Traced.ofExcept (newMultisigService b lib env service)
      pure (.pmwMultisigAccountConfigured cfg)
  | .pmwFeeProof => do
      let fees ← newFeeProofService b lib env service
      pure (.pmwFeeProof fees)

/-- The loop over the served types, with the services loaded so far. -/
def loadServices (lib : ConfigLibrary) (env : EnvConfig)
    (loaded : List RegisteredService) :
    List AttestationType → Opening (List RegisteredService)
  | [] => pure loaded
  | t :: rest => do
      let service ← (registerVerifier b lib
        { env with attestationType := some t } t loaded.length).onError
          (closeAll b loaded)
      loadServices lib env (loaded ++ [service]) rest

def loadModule (lib : ConfigLibrary) (env : EnvConfig) :
    Opening (List RegisteredService) := do
  let _ ← Traced.ofExcept (sourceURLSlug env.sourceID env.sourceURLSlug)
  loadServices b lib env [] env.servedAttestationTypes

end VerifierApi

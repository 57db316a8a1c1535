import VerifierApi.VerifyHandler
import Mathlib.Data.Finset.Card
import Mathlib.Data.List.AList

/-!
# The multisig account verifier

A request is checked for its shape, the node is pinned to the network of the
source, and the account information is compared with the request.  A wrong
account configuration is a successful verification with an error status, so
that errors only stem from the request, the node or its answer.
-/

namespace VerifierApi

namespace Multisig

/-! ## Answers of the node -/

structure SignerEntry where
  account : String
  signerWeight : UInt16

structure SignerList where
  signerQuorum : UInt64
  signerEntries : List SignerEntry

structure AccountData where
  account : String
  sequence : UInt64
  regularKey : String
  signerLists : List SignerList

structure AccountFlags where
  disableMasterKey : Bool
  depositAuth : Bool
  requireDestinationTag : Bool
  disallowIncomingXRP : Bool

structure AccountInfoResult where
  accountData : AccountData
  accountFlags : Option AccountFlags
  signerLists : List SignerList
  status : String
  error : String
  validated : Option Bool

/-- The status and the network of a node; it may report no network. -/
structure ServerInfoResult where
  status : String
  networkID : Option UInt32

def AccountInfoResult.resolveSignerLists (r : AccountInfoResult) :
    List SignerList :=
  if r.accountData.signerLists.length > 0 then r.accountData.signerLists
  else r.signerLists

/-- The weights by account; a later entry replaces an earlier one. -/
def SignerList.accountsMap (sl : SignerList) :
    AList fun _ : String => UInt16 :=
  sl.signerEntries.foldl
    (fun m entry => m.insert entry.account entry.signerWeight) ∅

/-! ## The client -/

def transientRPCErrors : List String :=
  ["noNetwork", "noCurrent", "noClosed", "tooBusy", "slowDown", "internal",
    "amendmentBlocked"]

def rpcStatusError (account status errorCode : String) : GoError :=
  let sentinel :=
    if errorCode ∈ transientRPCErrors then errRPCTransient
    else errRPCNonSuccess
  .errorf
    s!"{sentinel.text} for account {account}: {errorCode} ({status})"
    [sentinel]

def fetchAccountInfo (answer : Except ExternalError AccountInfoResult)
    (account : String) : Except GoError AccountInfoResult := do
  let result ← answer.mapError fun err : ExternalError =>
    ErrorValue.chained errFetchAccountInfo err
  ensure (result.status = "success")
    (rpcStatusError account result.status result.error)
  .ok result

def fetchNetworkID (answer : Except ExternalError ServerInfoResult) :
    Except GoError (Option UInt32) := do
  let result ← answer.mapError fun err : ExternalError =>
    ErrorValue.chained errFetchServerInfo err
  ensure (result.status = "success")
    (.errorf s!"{errFetchServerInfo.text}: status {quote result.status}"
      [errFetchServerInfo])
  .ok result.networkID

/-! ## The shape of a request -/

structure RequestBody where
  accountAddress : String
  publicKeys : List (List UInt8)
  threshold : UInt64

inductive AccountStatus where
  | ok
  | error
deriving DecidableEq, Repr

structure ResponseBody where
  status : AccountStatus
  sequence : UInt64
deriving DecidableEq

def maxPublicKeys : ℕ := 32

/-- The loop over the keys, with the keys seen so far in order. -/
def validateKeys (seen : List (List UInt8)) :
    List (List UInt8) → Except GoError Unit
  | [] => .ok ()
  | pk :: rest => do
      ensure (pk ≠ []) (.new s!"public key at index {seen.length} is empty")
      ensure (pk ∉ seen)
        (.new
          s!"public key at index {seen.length} duplicates index {seen.idxOf pk}; signers must be distinct")
      validateKeys (seen ++ [pk]) rest

def validatePublicKeys (publicKeys : List (List UInt8)) :
    Except GoError Unit := do
  ensure (publicKeys.length ≤ maxPublicKeys)
    (.new
      s!"too many public keys: {publicKeys.length} (max {maxPublicKeys})")
  validateKeys [] publicKeys

def validateMultisigRequest (publicKeys : List (List UInt8))
    (threshold : UInt64) : Except GoError Unit := do
  ensure (publicKeys ≠ []) (.new "publicKeys must not be empty")
  validatePublicKeys publicKeys
  ensure (threshold ≠ 0) (.new "threshold must be greater than zero")

theorem validateKeys_eq_ok_iff {seen keys : List (List UInt8)} {u : Unit} :
    validateKeys seen keys = .ok u ↔
      (∀ pk ∈ keys, pk ≠ [] ∧ pk ∉ seen) ∧ keys.Nodup := by
  induction keys generalizing seen with
  | nil => simp [validateKeys]
  | cons pk rest ih =>
      simp only [validateKeys, ensure_bind_eq_ok, ih, List.mem_append,
        List.mem_singleton, List.forall_mem_cons, List.nodup_cons]
      constructor
      · rintro ⟨hne, hseen, hrest, hnodup⟩
        refine ⟨⟨⟨hne, hseen⟩, ?_⟩, ?_, hnodup⟩
        · intro other hother
          exact ⟨(hrest other hother).1,
            fun hmem => (hrest other hother).2 (.inl hmem)⟩
        · intro hmem
          exact (hrest pk hmem).2 (.inr rfl)
      · rintro ⟨⟨⟨hne, hseen⟩, hrest⟩, hnot, hnodup⟩
        refine ⟨hne, hseen, ?_, hnodup⟩
        intro other hother
        refine ⟨(hrest other hother).1, ?_⟩
        rintro (hmem | rfl)
        · exact (hrest other hother).2 hmem
        · exact hnot hother

theorem validateMultisigRequest_eq_ok_iff
    {publicKeys : List (List UInt8)} {threshold : UInt64} {u : Unit} :
    validateMultisigRequest publicKeys threshold = .ok u ↔
      publicKeys ≠ [] ∧ publicKeys.length ≤ 32 ∧ [] ∉ publicKeys ∧
        publicKeys.Nodup ∧ threshold ≠ 0 := by
  simp only [validateMultisigRequest, validatePublicKeys, bind_eq_ok,
    ensure_eq_ok, validateKeys_eq_ok_iff, exists_const]
  constructor
  · rintro ⟨hne, ⟨hlength, hkeys, hnodup⟩, hthreshold⟩
    exact ⟨hne, hlength, fun hmem => (hkeys [] hmem).1 rfl, hnodup,
      hthreshold⟩
  · rintro ⟨hne, hlength, hempty, hnodup, hthreshold⟩
    refine ⟨hne, ⟨hlength, ?_, hnodup⟩, hthreshold⟩
    intro pk hpk
    exact ⟨fun hnil => hempty (hnil ▸ hpk), List.not_mem_nil⟩

/-! ## The network pin -/

inductive SourceName where
  | xrp
  | testXRP
  | other (name : String)
deriving DecidableEq, Repr

def SourceName.text : SourceName → String
  | .xrp => "XRP"
  | .testXRP => "testXRP"
  | .other name => name

def expectedNetworkID : SourceName → Option UInt32
  | .xrp => some 0
  | .testXRP => some 1
  | .other _ => none

/-- Thirty minutes in nanoseconds. -/
def networkVerifyTTL : Int := 30 * 60 * 1000000000

/-- Whether the network was confirmed recently; zero stands for never. -/
def verifiedFresh (lastVerifiedNano now : Int) : Bool :=
  lastVerifiedNano ≠ 0 ∧ now - lastVerifiedNano < networkVerifyTTL

/-- One probe; the confirmation time is stored exactly when it succeeds. -/
def checkNetwork (source : SourceName)
    (answer : Except ExternalError ServerInfoResult) :
    Except GoError Unit :=
  match expectedNetworkID source with
  | none => .ok ()
  | some expected => do
      let networkID ← fetchNetworkID answer
      let got ← require networkID
        (.errorf s!"{errFetchServerInfo.text}: node reports no network_id"
          [errFetchServerInfo])
      ensure (got = expected)
        (.errorf
          s!"{errNetworkMismatch.text}: node network_id {got} but source {source.text} requires {expected}"
          [errNetworkMismatch])

/-- What a run reads: the confirmation time and the clock, before and under
the lock, and the answers of the node. -/
structure Reads where
  lastVerifiedNano : Int
  now : Int
  lockedLastVerifiedNano : Int
  lockedNow : Int
  serverInfo : Except ExternalError ServerInfoResult
  accountInfo : Except ExternalError AccountInfoResult

def ensureNetworkVerified (source : SourceName) (reads : Reads) :
    Except GoError Unit :=
  if verifiedFresh reads.lastVerifiedNano reads.now then .ok ()
  else if verifiedFresh reads.lockedLastVerifiedNano reads.lockedNow then
    .ok ()
  else checkNetwork source reads.serverInfo

/-! ## The account configuration -/

def checkAccountFlags (flags : AccountFlags) : Except GoError Unit := do
  ensure (flags.disableMasterKey = true) (.new "master key is not disabled")
  ensure (flags.depositAuth = false)
    (.new "deposit authorization is enabled")
  ensure (flags.requireDestinationTag = false)
    (.new "destination tag is required")
  ensure (flags.disallowIncomingXRP = false)
    (.new "incoming XRP is disallowed")

/-- The verifier: its source, and the key parsing and address derivation of
its libraries. -/
structure XRPVerifier where
  sourceID : SourceName
  xrpAddressFromPubKey : List UInt8 → Except ExternalError String

namespace XRPVerifier

variable (x : XRPVerifier)

def validateSignerList (signerList : SignerList) (req : RequestBody) :
    Bool :=
  match req.publicKeys.mapM x.xrpAddressFromPubKey with
  | .error _ => false
  | .ok addresses =>
      let expectedAccounts := addresses.toFinset
      let actualAccounts := signerList.accountsMap
      if actualAccounts.keys.length ≠ expectedAccounts.card then false
      else if ∀ acc ∈ expectedAccounts,
          actualAccounts.lookup acc = some 1 then
        signerList.signerQuorum = req.threshold
      else false

def validateMultisigConfiguration (accountInfo : AccountInfoResult)
    (req : RequestBody) : Except GoError UInt64 := do
  let account := accountInfo.accountData.account
  ensure (account = req.accountAddress)
    (.wrapf
      s!"account_info returned account {quote account} for requested {quote req.accountAddress}"
      errValidationFailed)
  ensure (accountInfo.validated = some true)
    (.wrapf
      s!"account_info response is not from a validated ledger for {account}"
      errValidationFailed)
  let signerList ← require accountInfo.resolveSignerLists.head?
    (.wrapf s!"no signer list for account {account}" errValidationFailed)
  ensure (x.validateSignerList signerList req = true)
    (.wrapf s!"signer list invalid for account {account}"
      errValidationFailed)
  let flags ← require accountInfo.accountFlags
    (.wrapf
      s!"account_flags missing from account_info response for {account}"
      errValidationFailed)
  (checkAccountFlags flags).mapError fun err =>
    .wrapf2 s!"invalid flag for account{account}" err errValidationFailed
  ensure (accountInfo.accountData.regularKey = "")
    (.wrapf s!"account {account} has regular key set" errValidationFailed)
  .ok accountInfo.accountData.sequence

def verify (reads : Reads) (req : RequestBody) :
    Except GoError ResponseBody := do
  (validateMultisigRequest req.publicKeys req.threshold).mapError
    (ErrorValue.chained errInvalidRequest)
  ensureNetworkVerified x.sourceID reads
  let accountInfo ← fetchAccountInfo reads.accountInfo req.accountAddress
  match x.validateMultisigConfiguration accountInfo req with
  | .error _ => .ok ⟨.error, 0⟩
  | .ok sequence => .ok ⟨.ok, sequence⟩

end XRPVerifier

/-! ## The errors of a run -/

/-- No package-level error occurs beyond those of an unusable node. -/
def NodeFault (err : GoError) : Prop :=
  ∀ s ∈ err.sentinels, s ∈ [Sentinel.fetchServerInfo, .fetchAccountInfo,
    .rpcTransient, .networkMismatch]

theorem NodeFault.consistent {err : GoError} (h : NodeFault err) :
    Consistent err := by
  apply Consistent.of_forall
  · intro s hs
    have hmem := h s hs
    simp only [List.mem_cons, List.not_mem_nil, or_false] at hmem
    rcases hmem with rfl | rfl | rfl | rfl <;> simp [granularTEESentinels]
  · intro hs
    simpa using h _ hs

theorem fetchNetworkID_fails
    (answer : Except ExternalError ServerInfoResult) :
    FailsWith NodeFault (fetchNetworkID answer) := by
  unfold fetchNetworkID
  refine FailsWith.bind ?_ fun result _ => ?_
  · refine FailsWith.mapError_of_forall fun err => ?_
    simp [NodeFault, errFetchServerInfo]
  · refine FailsWith.ensure_bind ?_ fun _ => .ok _
    simp [NodeFault, errFetchServerInfo]

theorem ensureNetworkVerified_fails (source : SourceName) (reads : Reads) :
    FailsWith NodeFault (ensureNetworkVerified source reads) := by
  unfold ensureNetworkVerified
  refine FailsWith.of_ite (fun _ => .ok _) fun _ => ?_
  refine FailsWith.of_ite (fun _ => .ok _) fun _ => ?_
  unfold checkNetwork
  split
  next => exact FailsWith.ok _
  next expected _ =>
    refine FailsWith.bind (fetchNetworkID_fails _) fun networkID _ => ?_
    refine FailsWith.bind ?_ fun got _ => FailsWith.ensure ?_
    · intro err herr
      obtain ⟨-, rfl⟩ := require_eq_error.mp herr
      simp [NodeFault, errFetchServerInfo]
    · simp [NodeFault, errNetworkMismatch]

theorem fetchAccountInfo_fails
    (answer : Except ExternalError AccountInfoResult) (account : String) :
    FailsWith (fun err => TerminalError err ∨ NodeFault err)
      (fetchAccountInfo answer account) := by
  unfold fetchAccountInfo
  refine FailsWith.bind ?_ fun result _ => ?_
  · refine FailsWith.mapError_of_forall fun err => .inr ?_
    simp [NodeFault, errFetchAccountInfo]
  · refine FailsWith.ensure_bind ?_ fun _ => .ok _
    unfold rpcStatusError
    split
    · exact .inr (by simp [NodeFault, errRPCTransient])
    · exact .inl ⟨.rpcNonSuccess, by simp [terminalSentinels],
        by simp [errRPCNonSuccess]⟩

theorem validateKeys_sentinels {seen keys : List (List UInt8)} :
    FailsWith (fun err => err.sentinels = []) (validateKeys seen keys) := by
  induction keys generalizing seen with
  | nil => exact FailsWith.ok _
  | cons pk rest ih =>
      unfold validateKeys
      refine FailsWith.ensure_bind (by simp) fun _ => ?_
      exact FailsWith.ensure_bind (by simp) fun _ => ih

theorem validateMultisigRequest_sentinels
    (publicKeys : List (List UInt8)) (threshold : UInt64) :
    FailsWith (fun err => err.sentinels = [])
      (validateMultisigRequest publicKeys threshold) := by
  unfold validateMultisigRequest validatePublicKeys
  refine FailsWith.ensure_bind (by simp) fun _ => ?_
  refine FailsWith.bind ?_ fun _ _ => FailsWith.ensure (by simp)
  exact FailsWith.ensure_bind (by simp) fun _ => validateKeys_sentinels

/-- Every error of a run is terminal or a fault of the node. -/
theorem XRPVerifier.verify_fails (x : XRPVerifier) (reads : Reads)
    (req : RequestBody) :
    FailsWith (fun err => TerminalError err ∨ NodeFault err)
      (x.verify reads req) := by
  unfold verify
  refine FailsWith.bind ?_ fun _ _ => ?_
  · refine (validateMultisigRequest_sentinels _ _).mapError ?_
    intro err herr
    exact .inl ⟨.invalidRequest, by simp [terminalSentinels],
      by simp [errInvalidRequest, herr]⟩
  refine FailsWith.bind ?_ fun _ _ => ?_
  · exact (ensureNetworkVerified_fails _ _).mono fun _ h => .inr h
  refine FailsWith.bind (fetchAccountInfo_fails _ _) fun accountInfo _ => ?_
  split
  next => exact FailsWith.ok _
  next => exact FailsWith.ok _

theorem XRPVerifier.verify_consistent (x : XRPVerifier) (reads : Reads)
    (req : RequestBody) : FailsWith Consistent (x.verify reads req) := by
  refine (x.verify_fails reads req).mono ?_
  rintro err (hterminal | hfault)
  · exact hterminal.consistent
  · exact hfault.consistent

end Multisig

end VerifierApi

import VerifierApi.AbiEncoding
import VerifierApi.KeyedEntries
import VerifierApi.MultisigVerifier

/-!
# The multisig verdict

The verdict on an account is compared with the configuration which it is
meant to recognise.  The signers are compared through a map, from which it
cannot be seen how often an account is listed: where the accounts of the
list are distinct the verdict is exact, and where they are not, it may depend
on the order of the list.
-/

namespace VerifierApi

namespace Multisig

/-- The accounts of the listed signers. -/
def SignerList.accounts (signerList : SignerList) : List String :=
  signerList.signerEntries.map SignerEntry.account

theorem SignerList.accountsMap_eq (signerList : SignerList) :
    signerList.accountsMap = collapse SignerEntry.account
      SignerEntry.signerWeight signerList.signerEntries :=
  rfl

namespace XRPVerifier

variable {x : XRPVerifier} {signerList : SignerList} {req : RequestBody}

/-! ## The signer list -/

/-- The address of one of the keys of the request. -/
def KeyAddress (x : XRPVerifier) (req : RequestBody) (address : String) :
    Prop :=
  ∃ pk ∈ req.publicKeys, x.xrpAddressFromPubKey pk = .ok address

/-- What does not depend on the order of the entries. -/
structure SignersMatch (x : XRPVerifier) (signerList : SignerList)
    (req : RequestBody) : Prop where
  converts : ∀ pk ∈ req.publicKeys, ∃ address,
    x.xrpAddressFromPubKey pk = .ok address
  accounts : ∀ account, account ∈ signerList.accounts ↔
    x.KeyAddress req account
  quorum : signerList.signerQuorum = req.threshold

theorem mem_addresses {addresses : List String}
    (h : req.publicKeys.mapM x.xrpAddressFromPubKey = .ok addresses)
    {address : String} :
    address ∈ addresses ↔ x.KeyAddress req address := by
  have hpairs := mapM_eq_ok_iff.mp h
  constructor
  · intro hmem
    exact forall₂_exists_left hpairs hmem
  · rintro ⟨pk, hpk, haddress⟩
    obtain ⟨other, hother, hok⟩ := forall₂_exists_right hpairs hpk
    rw [haddress, Except.ok.injEq] at hok
    rwa [hok]

theorem exists_addresses
    (h : ∀ pk ∈ req.publicKeys, ∃ address,
      x.xrpAddressFromPubKey pk = .ok address) :
    ∃ addresses,
      req.publicKeys.mapM x.xrpAddressFromPubKey = .ok addresses := by
  obtain ⟨addresses, hpairs⟩ := exists_forall₂ h
  exact ⟨addresses, mapM_eq_ok_iff.mpr hpairs⟩

/-- One inclusion and equal sizes give equal sets. -/
theorem accounts_of_counts {addresses : List String}
    (hcount : signerList.accountsMap.keys.length = addresses.toFinset.card)
    (hweights : ∀ account ∈ addresses.toFinset,
      signerList.accountsMap.lookup account = some 1) (account : String) :
    account ∈ signerList.accounts ↔ account ∈ addresses := by
  rw [SignerList.accountsMap_eq, length_keys_collapse] at hcount
  have hsubset : addresses.toFinset ⊆ signerList.accounts.toFinset := by
    intro address hmem
    have hlookup := hweights address hmem
    rw [SignerList.accountsMap_eq] at hlookup
    obtain ⟨entry, hentry, hkey, -⟩ := exists_of_lookup_collapse hlookup
    rw [List.mem_toFinset, ← hkey]
    exact List.mem_map_of_mem hentry
  have hequal : addresses.toFinset = signerList.accounts.toFinset :=
    Finset.eq_of_subset_of_card_le hsubset (le_of_eq hcount)
  rw [← List.mem_toFinset, ← hequal, List.mem_toFinset]

theorem validateSignerList_eq_true_iff_checks :
    x.validateSignerList signerList req = true ↔
      ∃ addresses,
        req.publicKeys.mapM x.xrpAddressFromPubKey = .ok addresses ∧
        signerList.accountsMap.keys.length = addresses.toFinset.card ∧
        (∀ account ∈ addresses.toFinset,
          signerList.accountsMap.lookup account = some 1) ∧
        signerList.signerQuorum = req.threshold := by
  unfold validateSignerList
  cases haddresses : req.publicKeys.mapM x.xrpAddressFromPubKey with
  | error err => simp
  | ok addresses =>
      simp only [Except.ok.injEq, exists_eq_left']
      by_cases hcount :
          signerList.accountsMap.keys.length = addresses.toFinset.card
      · by_cases hweights : ∀ account ∈ addresses.toFinset,
            signerList.accountsMap.lookup account = some 1
        · simp only [hcount, ne_eq, not_true_eq_false, if_false,
            if_pos hweights, decide_eq_true_eq, true_and]
          exact ⟨fun hquorum => ⟨hweights, hquorum⟩, And.right⟩
        · simp only [hcount, ne_eq, not_true_eq_false, if_false,
            Bool.false_eq_true, hweights, false_and, and_false]
      · simp only [ne_eq, hcount, not_false_eq_true, if_true,
          Bool.false_eq_true, false_and]

/-- The verdict on a signer list: the listed accounts are the addresses of
the keys, and each shows the weight one. -/
theorem validateSignerList_eq_true_iff :
    x.validateSignerList signerList req = true ↔
      x.SignersMatch signerList req ∧
        ∀ account ∈ signerList.accounts,
          signerList.accountsMap.lookup account = some 1 := by
  rw [validateSignerList_eq_true_iff_checks]
  constructor
  · rintro ⟨addresses, haddresses, hcount, hweights, hquorum⟩
    have haccounts := accounts_of_counts hcount hweights
    refine ⟨⟨?_, ?_, hquorum⟩, ?_⟩
    · intro pk hpk
      obtain ⟨address, -, hok⟩ :=
        forall₂_exists_right (mapM_eq_ok_iff.mp haddresses) hpk
      exact ⟨address, hok⟩
    · intro account
      rw [haccounts, mem_addresses haddresses]
    · intro account haccount
      apply hweights
      rw [List.mem_toFinset, ← haccounts]
      exact haccount
  · rintro ⟨⟨hconverts, haccounts, hquorum⟩, hweights⟩
    obtain ⟨addresses, haddresses⟩ := exists_addresses hconverts
    have hsame : ∀ account,
        account ∈ signerList.accounts ↔ account ∈ addresses := by
      intro account
      rw [haccounts, mem_addresses haddresses]
    have hcount : signerList.accountsMap.keys.length =
        addresses.toFinset.card := by
      rw [SignerList.accountsMap_eq, length_keys_collapse]
      congr 1
      ext account
      rw [List.mem_toFinset, List.mem_toFinset]
      exact hsame account
    refine ⟨addresses, haddresses, hcount, ?_, hquorum⟩
    intro account haccount
    rw [List.mem_toFinset, ← hsame] at haccount
    exact hweights account haccount

theorem validateSignerList_eq_true_iff_of_nodup
    (hnodup : signerList.accounts.Nodup) :
    x.validateSignerList signerList req = true ↔
      x.SignersMatch signerList req ∧
        ∀ entry ∈ signerList.signerEntries, entry.signerWeight = 1 := by
  have hlookup : ∀ entry ∈ signerList.signerEntries,
      signerList.accountsMap.lookup entry.account =
        some entry.signerWeight := by
    intro entry hentry
    rw [SignerList.accountsMap_eq]
    exact lookup_collapse_of_nodup hnodup hentry
  rw [validateSignerList_eq_true_iff]
  unfold SignerList.accounts
  rw [List.forall_mem_map]
  constructor
  · rintro ⟨hmatch, hweights⟩
    refine ⟨hmatch, ?_⟩
    intro entry hentry
    have hone := hweights entry hentry
    rw [hlookup entry hentry] at hone
    exact Option.some.inj hone
  · rintro ⟨hmatch, hweights⟩
    refine ⟨hmatch, ?_⟩
    intro entry hentry
    rw [hlookup entry hentry, hweights entry hentry]

/-- Different keys of the request have different addresses. -/
def DistinctAddresses (x : XRPVerifier) (req : RequestBody) : Prop :=
  ∀ pk ∈ req.publicKeys, ∀ pk' ∈ req.publicKeys, ∀ address,
    x.xrpAddressFromPubKey pk = .ok address →
    x.xrpAddressFromPubKey pk' = .ok address → pk = pk'

theorem SignersMatch.exists_addresses
    (h : x.SignersMatch signerList req) (hkeys : req.publicKeys.Nodup)
    (hdistinct : x.DistinctAddresses req) :
    ∃ addresses : List String, addresses.Nodup ∧
      addresses.length = req.publicKeys.length ∧
      ∀ account, account ∈ signerList.accounts ↔ account ∈ addresses := by
  obtain ⟨addresses, haddresses⟩ :=
    XRPVerifier.exists_addresses h.converts
  have hpairs := forall₂_mem_left (mapM_eq_ok_iff.mp haddresses)
  refine ⟨addresses, ?_, hpairs.length_eq.symm, ?_⟩
  · apply forall₂_nodup hpairs hkeys
    rintro pk pk' address ⟨hpk, haddress⟩ ⟨hpk', haddress'⟩
    exact hdistinct pk hpk pk' hpk' address haddress haddress'
  · intro account
    rw [h.accounts, mem_addresses haddresses]

theorem SignersMatch.length_eq_iff (h : x.SignersMatch signerList req)
    (hkeys : req.publicKeys.Nodup) (hdistinct : x.DistinctAddresses req) :
    signerList.signerEntries.length = req.publicKeys.length ↔
      signerList.accounts.Nodup := by
  obtain ⟨addresses, hnodup, hlength, hsame⟩ :=
    h.exists_addresses hkeys hdistinct
  have hentries : signerList.signerEntries.length =
      signerList.accounts.length := by
    simp [SignerList.accounts]
  rw [hentries, ← hlength]
  constructor
  · intro heq
    have hsubperm : addresses.Subperm signerList.accounts :=
      List.subperm_of_subset hnodup fun account => (hsame account).mpr
    have hperm := hsubperm.perm_of_length_le (le_of_eq heq)
    exact hperm.nodup_iff.mp hnodup
  · intro haccounts
    exact ((List.perm_ext_iff_of_nodup haccounts hnodup).mpr
      hsame).length_eq

/-! ## The account -/

end XRPVerifier

/-- The signer list of an answer: that of the account, else that of the
result. -/
def AccountInfoResult.HasSignerList (info : AccountInfoResult)
    (signerList : SignerList) : Prop :=
  info.accountData.signerLists.head? = some signerList ∨
    (info.accountData.signerLists = [] ∧
      info.signerLists.head? = some signerList)

theorem AccountInfoResult.head?_resolveSignerLists
    {info : AccountInfoResult} {signerList : SignerList} :
    info.resolveSignerLists.head? = some signerList ↔
      info.HasSignerList signerList := by
  unfold resolveSignerLists HasSignerList
  cases hlists : info.accountData.signerLists with
  | nil => simp
  | cons first rest => simp

theorem checkAccountFlags_eq_ok_iff {flags : AccountFlags} {u : Unit} :
    checkAccountFlags flags = .ok u ↔
      flags.disableMasterKey = true ∧ flags.depositAuth = false ∧
        flags.requireDestinationTag = false ∧
        flags.disallowIncomingXRP = false := by
  simp only [checkAccountFlags, bind_eq_ok, ensure_eq_ok, exists_const]

namespace XRPVerifier

variable {x : XRPVerifier} {reads : Reads} {req : RequestBody}
  {info : AccountInfoResult}

/-- The configuration which the verifier is meant to recognise. -/
structure Configured (x : XRPVerifier) (info : AccountInfoResult)
    (req : RequestBody) : Prop where
  account : info.accountData.account = req.accountAddress
  validated : info.validated = some true
  signers : ∃ signerList, info.HasSignerList signerList ∧
    x.SignersMatch signerList req ∧
    ∀ entry ∈ signerList.signerEntries, entry.signerWeight = 1
  flags : ∃ flags, info.accountFlags = some flags ∧
    flags.disableMasterKey = true ∧ flags.depositAuth = false ∧
    flags.requireDestinationTag = false ∧ flags.disallowIncomingXRP = false
  regularKey : info.accountData.regularKey = ""

theorem validateMultisigConfiguration_eq_ok_iff
    (hdistinct : ∀ signerList, info.HasSignerList signerList →
      signerList.accounts.Nodup) {sequence : UInt64} :
    x.validateMultisigConfiguration info req = .ok sequence ↔
      x.Configured info req ∧ sequence = info.accountData.sequence := by
  simp only [validateMultisigConfiguration, bind_eq_ok, ensure_eq_ok,
    require_eq_ok, mapError_eq_ok, checkAccountFlags_eq_ok_iff, exists_const,
    AccountInfoResult.head?_resolveSignerLists, Except.ok.injEq]
  constructor
  · rintro ⟨haccount, hvalidated, signerList, hlist, hsigners, flags, hflags,
      hchecked, hregular, rfl⟩
    have hexact := (validateSignerList_eq_true_iff_of_nodup
      (hdistinct signerList hlist)).mp hsigners
    exact ⟨⟨haccount, hvalidated, ⟨signerList, hlist, hexact⟩,
      ⟨flags, hflags, hchecked⟩, hregular⟩, rfl⟩
  · rintro ⟨⟨haccount, hvalidated, ⟨signerList, hlist, hexact⟩,
      ⟨flags, hflags, hchecked⟩, hregular⟩, rfl⟩
    have hsigners := (validateSignerList_eq_true_iff_of_nodup
      (hdistinct signerList hlist)).mpr hexact
    exact ⟨haccount, hvalidated, signerList, hlist, hsigners, flags, hflags,
      hchecked, hregular, rfl⟩

/-! ## The verdict -/

/-- The requests which are refused for their shape. -/
def Malformed (req : RequestBody) : Prop :=
  req.publicKeys = [] ∨ 32 < req.publicKeys.length ∨ [] ∈ req.publicKeys ∨
    ¬ req.publicKeys.Nodup ∨ req.threshold = 0

theorem malformed_iff :
    Malformed req ↔
      ¬ validateMultisigRequest req.publicKeys req.threshold = .ok () := by
  rw [validateMultisigRequest_eq_ok_iff]
  simp only [Malformed, ne_eq, not_and_or, not_not, not_le]

theorem verify_of_malformed (h : Malformed req) :
    ∃ err, x.verify reads req = .error err ∧
      err.has .invalidRequest = true := by
  rcases exists_ok_or_error
    (validateMultisigRequest req.publicKeys req.threshold) with
    ⟨⟨⟩, hok⟩ | ⟨cause, hcause⟩
  · exact absurd hok (malformed_iff.mp h)
  · refine ⟨ErrorValue.chained errInvalidRequest cause, ?_, ?_⟩
    · simp [verify, hcause, Except.mapError, bind, Except.bind]
    · simp [has_eq, errInvalidRequest]

/-- Beyond the shape of the request, a confirmed network and an answer leave
only the configuration to be judged. -/
theorem verify_of_answer (hshape : ¬ Malformed req)
    (hnetwork : ensureNetworkVerified x.sourceID reads = .ok ())
    (hinfo : reads.accountInfo = .ok info)
    (hstatus : info.status = "success") :
    x.verify reads req =
      match x.validateMultisigConfiguration info req with
      | .error _ => .ok ⟨.error, 0⟩
      | .ok sequence => .ok ⟨.ok, sequence⟩ := by
  have hvalid : validateMultisigRequest req.publicKeys req.threshold =
      .ok () := not_not.mp (mt malformed_iff.mpr hshape)
  have hfetch : fetchAccountInfo (.ok info) req.accountAddress =
      .ok info := by
    simp [fetchAccountInfo, Except.mapError, bind, Except.bind, ensure,
      hstatus]
  unfold verify
  rw [hvalid, hnetwork, hinfo]
  change (fetchAccountInfo (.ok info) req.accountAddress >>= _) = _
  rw [hfetch]
  rfl

theorem not_malformed_of_verify {response : ResponseBody}
    (h : x.verify reads req = .ok response) : ¬ Malformed req := by
  intro hmalformed
  obtain ⟨err, herr, -⟩ : ∃ err, x.verify reads req = .error err ∧ _ :=
    verify_of_malformed hmalformed
  rw [h] at herr
  cases herr

/-- The configuration decides between the two verdicts. -/
theorem verify_of_wellFormed (hshape : ¬ Malformed req)
    (hnetwork : ensureNetworkVerified x.sourceID reads = .ok ())
    (hinfo : reads.accountInfo = .ok info)
    (hstatus : info.status = "success")
    (hdistinct : ∀ signerList, info.HasSignerList signerList →
      signerList.accounts.Nodup) :
    (∀ sequence, x.verify reads req = .ok ⟨.ok, sequence⟩ ↔
      x.Configured info req ∧ sequence = info.accountData.sequence) ∧
    (¬ x.Configured info req → x.verify reads req = .ok ⟨.error, 0⟩) := by
  have hconfigured : ∀ sequence,
      x.validateMultisigConfiguration info req = .ok sequence ↔
        x.Configured info req ∧ sequence = info.accountData.sequence :=
    fun _ => validateMultisigConfiguration_eq_ok_iff hdistinct
  rw [verify_of_answer hshape hnetwork hinfo hstatus]
  cases hresult : x.validateMultisigConfiguration info req with
  | error err =>
      simp only [hresult, reduceCtorEq, false_iff] at hconfigured
      simp [hconfigured]
  | ok sequence =>
      have hown := (hconfigured sequence).mp hresult
      constructor
      · intro other
        rw [← hconfigured, hresult]
        simp
      · intro hnot
        exact absurd hown.1 hnot

/-- The exact verdict, for a confirmed network and an answer whose signers
are distinct accounts. -/
theorem verify_exact (x : XRPVerifier) (reads : Reads) (req : RequestBody)
    (info : AccountInfoResult)
    (hnetwork : ensureNetworkVerified x.sourceID reads = .ok ())
    (hinfo : reads.accountInfo = .ok info)
    (hstatus : info.status = "success")
    (hdistinct : ∀ signerList, info.HasSignerList signerList →
      signerList.accounts.Nodup)
    (haddresses : x.DistinctAddresses req) :
    ((∃ err, x.verify reads req = .error err ∧
        err.has .invalidRequest = true) ↔
      (req.publicKeys = [] ∨ 32 < req.publicKeys.length ∨
        [] ∈ req.publicKeys ∨ ¬ req.publicKeys.Nodup ∨
        req.threshold = 0)) ∧
    (¬ Malformed req →
      (∀ sequence, x.verify reads req = .ok ⟨.ok, sequence⟩ ↔
        x.Configured info req ∧ sequence = info.accountData.sequence) ∧
      (¬ x.Configured info req → x.verify reads req = .ok ⟨.error, 0⟩)) ∧
    (∀ sequence, x.verify reads req = .ok ⟨.ok, sequence⟩ →
      ∃ signerList, info.HasSignerList signerList ∧
        signerList.signerEntries.length = req.publicKeys.length) := by
  have hjudged := fun hshape : ¬ Malformed req =>
    verify_of_wellFormed hshape hnetwork hinfo hstatus hdistinct
  refine ⟨?_, hjudged, ?_⟩
  · constructor
    · rintro ⟨err, herr, -⟩
      by_contra hshape
      obtain ⟨hok, hother⟩ := hjudged hshape
      by_cases hconfigured : x.Configured info req
      · rw [(hok _).mpr ⟨hconfigured, rfl⟩] at herr
        simp at herr
      · rw [hother hconfigured] at herr
        simp at herr
    · exact verify_of_malformed
  · intro sequence hverify
    have hshape := not_malformed_of_verify hverify
    have hkeys : req.publicKeys.Nodup :=
      not_not.mp fun hnot => hshape (.inr (.inr (.inr (.inl hnot))))
    obtain ⟨hconfigured, -⟩ := ((hjudged hshape).1 sequence).mp hverify
    obtain ⟨signerList, hlist, hmatch, -⟩ := hconfigured.signers
    exact ⟨signerList, hlist, (hmatch.length_eq_iff hkeys haddresses).mpr
      (hdistinct signerList hlist)⟩

end XRPVerifier

/-! The points `G` and `2G` of the curve, with their addresses. -/

def firstKey : List UInt8 :=
  abiWord
      0x79be667ef9dcbbac55a06295ce870b07029bfcdb2dce28d959f2815b16f81798 ++
    abiWord
      0x483ada7726a3c4655da4fbfc0e1108a8fd17b448a68554199c47d08ffb10d4b8

def secondKey : List UInt8 :=
  abiWord
      0xc6047f9441ed7d6d3045406e95c07cd85c778e4b8cef3ca7abac09b95c709ee5 ++
    abiWord
      0x1ae168fea63dc339a3c58419466ceaeef7f632653266d0e1236431a950cfe52a

def firstAddress : String := "rBgGZ9tc4him9KBzD8fKFiQz3fSZpaSwMH"

def secondAddress : String := "rcM6pp3HTU5AS3Z122kH3w3AzerJRnZ1P"

/-- The verifier, with the derivation of the two addresses. -/
def twoKeyVerifier : XRPVerifier where
  sourceID := .testXRP
  xrpAddressFromPubKey := fun pk =>
    if pk = firstKey then .ok firstAddress
    else if pk = secondKey then .ok secondAddress
    else .error ⟨"invalid public key should be 64 bytes long", []⟩

def twoKeyRequest : RequestBody :=
  ⟨"rp2X3jj55rZySZFgJz1q4xuFjAb2JZXyWK", [firstKey, secondKey], 2⟩

def twoSigners : SignerList :=
  ⟨2, [⟨firstAddress, 1⟩, ⟨secondAddress, 1⟩]⟩

def twoSignerAccount : AccountInfoResult where
  accountData := ⟨"rp2X3jj55rZySZFgJz1q4xuFjAb2JZXyWK", 42, "", [twoSigners]⟩
  accountFlags := some ⟨true, false, false, false⟩
  signerLists := []
  status := "success"
  error := ""
  validated := some true

/-- The network was confirmed a second ago. -/
def twoSignerReads : Reads where
  lastVerifiedNano := 1000000000
  now := 2000000000
  lockedLastVerifiedNano := 0
  lockedNow := 0
  serverInfo := .error ⟨"not asked", []⟩
  accountInfo := .ok twoSignerAccount

theorem firstKey_ne_secondKey : secondKey ≠ firstKey := by decide

theorem address_firstKey :
    twoKeyVerifier.xrpAddressFromPubKey firstKey = .ok firstAddress := by
  simp [twoKeyVerifier]

theorem address_secondKey :
    twoKeyVerifier.xrpAddressFromPubKey secondKey = .ok secondAddress := by
  simp [twoKeyVerifier, firstKey_ne_secondKey]

theorem twoKey_distinctAddresses :
    twoKeyVerifier.DistinctAddresses twoKeyRequest := by
  have hne : firstAddress ≠ secondAddress := by decide
  intro pk hpk pk' hpk' address h h'
  simp only [twoKeyRequest, List.mem_cons, List.not_mem_nil,
    or_false] at hpk hpk'
  rcases hpk with rfl | rfl <;> rcases hpk' with rfl | rfl <;>
    simp_all [address_firstKey, address_secondKey]

theorem twoKey_signersMatch :
    twoKeyVerifier.SignersMatch twoSigners twoKeyRequest where
  converts := by
    simp [twoKeyRequest, address_firstKey, address_secondKey]
  accounts := by
    simp [SignerList.accounts, twoSigners, XRPVerifier.KeyAddress,
      twoKeyRequest, address_firstKey, address_secondKey, eq_comm]
  quorum := rfl

theorem twoSigners_nodup : twoSigners.accounts.Nodup := by decide

theorem verify_exact_twoKeys :
    twoKeyVerifier.verify twoSignerReads twoKeyRequest = .ok ⟨.ok, 42⟩ := by
  have hlist : ∀ signerList, twoSignerAccount.HasSignerList signerList ↔
      signerList = twoSigners := by
    simp [AccountInfoResult.HasSignerList, twoSignerAccount, eq_comm]
  have hdistinct : ∀ signerList, twoSignerAccount.HasSignerList signerList →
      signerList.accounts.Nodup := by
    intro signerList h
    rw [(hlist signerList).mp h]
    exact twoSigners_nodup
  obtain ⟨-, hjudged, -⟩ := XRPVerifier.verify_exact twoKeyVerifier
    twoSignerReads twoKeyRequest twoSignerAccount (by decide) rfl rfl
    hdistinct twoKey_distinctAddresses
  have hshape : ¬ XRPVerifier.Malformed twoKeyRequest := by
    rw [XRPVerifier.malformed_iff, not_not]
    decide
  apply ((hjudged hshape).1 42).mpr
  refine ⟨⟨rfl, rfl, ⟨twoSigners, (hlist _).mpr rfl, twoKey_signersMatch,
    by decide⟩, ⟨_, rfl, rfl, rfl, rfl, rfl⟩, rfl⟩, rfl⟩

/-! ## Repeated accounts -/

/-- The same list with its entries replaced. -/
def SignerList.withEntries (signerList : SignerList)
    (entries : List SignerEntry) : SignerList :=
  { signerList with signerEntries := entries }

/-- Every listed account has an entry of weight one. -/
def SignerList.EachHasWeightOne (signerList : SignerList) : Prop :=
  ∀ account ∈ signerList.accounts, ∃ entry ∈ signerList.signerEntries,
    entry.account = account ∧ entry.signerWeight = 1

namespace XRPVerifier

variable {x : XRPVerifier} {signerList : SignerList} {req : RequestBody}
  {entries : List SignerEntry}

/-- The verdict does not depend on the order of the entries, and a positive
one speaks for each of them. -/
structure CoversEntries (x : XRPVerifier) (signerList : SignerList)
    (req : RequestBody) : Prop where
  order : ∀ entries, entries.Perm signerList.signerEntries →
    x.validateSignerList (signerList.withEntries entries) req =
      x.validateSignerList signerList req
  weights : x.validateSignerList signerList req = true →
    ∀ entry ∈ signerList.signerEntries, entry.signerWeight = 1
  count : x.validateSignerList signerList req = true →
    signerList.signerEntries.length = req.publicKeys.length

theorem perm_accounts (hperm : entries.Perm signerList.signerEntries) :
    (signerList.withEntries entries).accounts.Perm signerList.accounts :=
  hperm.map SignerEntry.account

theorem signersMatch_perm_iff
    (hperm : entries.Perm signerList.signerEntries) :
    x.SignersMatch (signerList.withEntries entries) req ↔
      x.SignersMatch signerList req := by
  have hsame : ∀ account,
      account ∈ (signerList.withEntries entries).accounts ↔
        account ∈ signerList.accounts := by
    intro account
    exact (perm_accounts hperm).mem_iff
  constructor
  · intro h
    exact ⟨h.converts, fun account => (hsame account).symm.trans
      (h.accounts account), h.quorum⟩
  · intro h
    exact ⟨h.converts, fun account => (hsame account).trans
      (h.accounts account), h.quorum⟩

/-- A positive verdict on some order of the entries says as much as can be
seen from all of them. -/
theorem match_of_validateSignerList
    (hperm : entries.Perm signerList.signerEntries)
    (h : x.validateSignerList (signerList.withEntries entries) req = true) :
    x.SignersMatch signerList req ∧ signerList.EachHasWeightOne := by
  obtain ⟨hmatch, hweights⟩ := validateSignerList_eq_true_iff.mp h
  refine ⟨(signersMatch_perm_iff hperm).mp hmatch, ?_⟩
  intro account haccount
  have hlookup := hweights account
    ((perm_accounts hperm).mem_iff.mpr haccount)
  rw [SignerList.accountsMap_eq] at hlookup
  obtain ⟨entry, hentry, hkey, hvalue⟩ := exists_of_lookup_collapse hlookup
  exact ⟨entry, hperm.mem_iff.mp hentry, hkey, hvalue⟩

/-- Such a list is accepted in some order. -/
theorem exists_perm_validateSignerList
    (hmatch : x.SignersMatch signerList req)
    (hone : signerList.EachHasWeightOne) :
    ∃ entries, entries.Perm signerList.signerEntries ∧
      x.validateSignerList (signerList.withEntries entries) req = true := by
  obtain ⟨entries, hperm, hlookup⟩ := exists_perm_lookup_collapse hone
  refine ⟨entries, hperm, validateSignerList_eq_true_iff.mpr ⟨?_, ?_⟩⟩
  · exact (signersMatch_perm_iff hperm).mpr hmatch
  · intro account haccount
    rw [SignerList.accountsMap_eq]
    exact hlookup account ((perm_accounts hperm).mem_iff.mp haccount)

theorem validateSignerList_of_nodup
    (hmatch : x.SignersMatch signerList req)
    (hone : signerList.EachHasWeightOne)
    (hnodup : signerList.accounts.Nodup)
    (hperm : entries.Perm signerList.signerEntries) :
    x.validateSignerList (signerList.withEntries entries) req = true := by
  apply (validateSignerList_eq_true_iff_of_nodup
    ((perm_accounts hperm).nodup_iff.mpr hnodup)).mpr
  refine ⟨(signersMatch_perm_iff hperm).mpr hmatch, ?_⟩
  intro entry hentry
  have hmem : entry ∈ signerList.signerEntries := hperm.mem_iff.mp hentry
  obtain ⟨other, hother, haccount, hweight⟩ :=
    hone entry.account (List.mem_map_of_mem hmem)
  obtain rfl : other = entry :=
    List.inj_on_of_nodup_map hnodup hother hmem haccount
  exact hweight

/-- The verdict covers the entries exactly if no account is listed twice,
for the lists which are accepted in some order. -/
theorem coversEntries_iff (x : XRPVerifier) (signerList : SignerList)
    (req : RequestBody)
    (hreq : validateMultisigRequest req.publicKeys req.threshold = .ok ())
    (haddresses : x.DistinctAddresses req) :
    x.CoversEntries signerList req ↔
      (x.SignersMatch signerList req → signerList.EachHasWeightOne →
        signerList.accounts.Nodup) := by
  obtain ⟨-, -, -, hkeys, -⟩ := validateMultisigRequest_eq_ok_iff.mp hreq
  constructor
  · intro hcovers hmatch hone
    obtain ⟨entries, hperm, haccepted⟩ :=
      exists_perm_validateSignerList hmatch hone
    have hown : x.validateSignerList signerList req = true := by
      rw [← hcovers.order entries hperm]
      exact haccepted
    exact (hmatch.length_eq_iff hkeys haddresses).mp (hcovers.count hown)
  · intro hdistinct
    have haccepted : ∀ entries, entries.Perm signerList.signerEntries →
        x.validateSignerList (signerList.withEntries entries) req = true →
        x.SignersMatch signerList req ∧ signerList.EachHasWeightOne ∧
          signerList.accounts.Nodup := by
      intro entries hperm h
      obtain ⟨hmatch, hone⟩ := match_of_validateSignerList hperm h
      exact ⟨hmatch, hone, hdistinct hmatch hone⟩
    have hself : x.validateSignerList signerList req = true →
        x.SignersMatch signerList req ∧ signerList.EachHasWeightOne ∧
          signerList.accounts.Nodup :=
      haccepted signerList.signerEntries (.refl _)
    constructor
    · intro entries hperm
      rw [Bool.eq_iff_iff]
      constructor
      · intro h
        obtain ⟨hmatch, hone, hnodup⟩ := haccepted entries hperm h
        exact validateSignerList_of_nodup hmatch hone hnodup (.refl _)
      · intro h
        obtain ⟨hmatch, hone, hnodup⟩ := hself h
        exact validateSignerList_of_nodup hmatch hone hnodup hperm
    · intro h
      obtain ⟨-, -, hnodup⟩ := hself h
      exact ((validateSignerList_eq_true_iff_of_nodup hnodup).mp h).2
    · intro h
      obtain ⟨hmatch, -, hnodup⟩ := hself h
      exact (hmatch.length_eq_iff hkeys haddresses).mpr hnodup

end XRPVerifier

theorem coversEntries_iff_twoKeys :
    twoKeyVerifier.CoversEntries twoSigners twoKeyRequest :=
  (XRPVerifier.coversEntries_iff twoKeyVerifier twoSigners twoKeyRequest
    (by decide) twoKey_distinctAddresses).mpr fun _ _ => twoSigners_nodup

/-- A signer is listed with the weight two, and once more with the weight
one, which replaces it. -/
def repeatedSigner : SignerList :=
  ⟨1, [⟨firstAddress, 2⟩, ⟨firstAddress, 1⟩]⟩

def oneKeyRequest : RequestBody :=
  ⟨"rp2X3jj55rZySZFgJz1q4xuFjAb2JZXyWK", [firstKey], 1⟩

theorem validateSignerList_repeatedSigner :
    twoKeyVerifier.validateSignerList repeatedSigner oneKeyRequest = true ∧
      twoKeyVerifier.validateSignerList (repeatedSigner.withEntries
        [⟨firstAddress, 1⟩, ⟨firstAddress, 2⟩]) oneKeyRequest = false := by
  decide

/-- The list is accepted, with an entry of weight two and with two entries
for one key; in the other order it is refused. -/
theorem repeatedSigner_not_covered :
    ¬ ∀ (x : XRPVerifier) (signerList : SignerList) (req : RequestBody),
      validateMultisigRequest req.publicKeys req.threshold = .ok () →
      x.CoversEntries signerList req := by
  intro h
  have hcovers := h twoKeyVerifier repeatedSigner oneKeyRequest (by decide)
  have hweight := hcovers.weights validateSignerList_repeatedSigner.1
    ⟨firstAddress, 2⟩ List.mem_cons_self
  simp at hweight

end Multisig

end VerifierApi

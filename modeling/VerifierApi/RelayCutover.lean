import VerifierApi.PolicyRetry

/-!
# The Relay cutover

A configured cutover routes each signing-policy lookup to the Relay that owns
the id.  The two ids of a report are looked up concurrently, and a lookup
reports which Relay it asked.  Behind the cutover the two Relays answer like
one whose table is spliced from theirs.
-/

namespace VerifierApi

/-! ## Configuration -/

/-- Address parsing of the chain library. -/
structure AddressLibrary where
  isHexAddress : String → Bool
  hexToAddress : String → Address

def zeroAddress : Address :=
  FixedBytes.replicate 20 0

def envRelayContractAddress : String := "RELAY_CONTRACT_ADDRESS"

def envRelayCutoverContractAddress : String :=
  "RELAY_CUTOVER_CONTRACT_ADDRESS"

def envRelayCutoverStartingRewardEpoch : String :=
  "RELAY_CUTOVER_STARTING_REWARD_EPOCH"

/-- The settings of the cutover pair, empty when unset. -/
structure CutoverEnv where
  relayCutoverContractAddress : String
  relayCutoverStartingRewardEpoch : String

def parseContractAddress (lib : AddressLibrary) (raw envName : String) :
    Except GoError Address := do
  ensure (lib.isHexAddress raw = true)
    (.new s!"{envName} is not a valid hex address: {quote raw}")
  let addr := lib.hexToAddress raw
  ensure (addr ≠ zeroAddress)
    (.new s!"{envName} must not be the zero address")
  .ok addr

/-- The digits of `strconv.ParseUint` in base 10.  The bound is checked at
every digit, so an overlong number is out of range before a later character
is looked at. -/
def parseDigits (maxVal : ℕ) : List Char → ℕ → Except String ℕ
  | [], n => .ok n
  | c :: rest, n =>
      if c.isDigit then
        let n1 := n * 10 + (c.toNat - '0'.toNat)
        if maxVal < n1 then .error "value out of range"
        else parseDigits maxVal rest n1
      else .error "invalid syntax"

/-- `strconv.ParseUint` in base 10, for at most 63 bits. -/
def parseUint (text : String) (bitSize : ℕ) : Except ExternalError ℕ :=
  (if text = "" then .error "invalid syntax"
    else parseDigits (2 ^ bitSize - 1) text.toList 0).mapError fun reason =>
      ⟨s!"strconv.ParseUint: parsing {quote text}: {reason}", []⟩

def parseRelayCutover (lib : AddressLibrary) (env : CutoverEnv)
    (relayAddr : Address) : Except GoError (Address × UInt32) :=
  if env.relayCutoverContractAddress = "" ∧
      env.relayCutoverStartingRewardEpoch = "" then
    .ok (zeroAddress, 0)
  else do
    ensure (¬ (env.relayCutoverContractAddress = "" ∨
        env.relayCutoverStartingRewardEpoch = ""))
      (.new
        s!"{envRelayCutoverContractAddress} and {envRelayCutoverStartingRewardEpoch} must be set together")
    let cutoverRelayAddr ← parseContractAddress lib
      env.relayCutoverContractAddress envRelayCutoverContractAddress
    ensure (cutoverRelayAddr ≠ relayAddr)
      (.new
        s!"{envRelayCutoverContractAddress} must differ from {envRelayContractAddress}")
    let startingRewardEpoch ←
      (parseUint env.relayCutoverStartingRewardEpoch 24).mapError
        fun err : ExternalError => ErrorValue.wrapf
          s!"{envRelayCutoverStartingRewardEpoch} must be a base-10 uint24 (reward-epoch ids are 24-bit on chain): {quote env.relayCutoverStartingRewardEpoch}"
          err
    ensure (startingRewardEpoch ≠ 0)
      (.new s!"{envRelayCutoverStartingRewardEpoch} must be non-zero")
    .ok (cutoverRelayAddr, UInt32.ofNat startingRewardEpoch)

/-- The wrapping of `NewVerifier`: the starting epoch of the cutover, when
one is configured. -/
def newRelayCaller (cutoverAddress : Address) (startingRewardEpoch : UInt32) :
    Option UInt32 :=
  if cutoverAddress ≠ zeroAddress then some startingRewardEpoch else none

theorem parseDigits_le {maxVal : ℕ} {digits : List Char} {n value : ℕ}
    (hn : n ≤ maxVal) (h : parseDigits maxVal digits n = .ok value) :
    value ≤ maxVal := by
  induction digits generalizing n with
  | nil =>
    obtain rfl : n = value := by simpa [parseDigits] using h
    exact hn
  | cons c rest ih =>
    simp only [parseDigits] at h
    split at h
    · split at h
      · simp at h
      next hle => exact ih (Nat.not_lt.mp hle) h
    · simp at h

theorem parseUint_le {text : String} {bitSize value : ℕ}
    (h : parseUint text bitSize = .ok value) : value ≤ 2 ^ bitSize - 1 := by
  unfold parseUint at h
  rw [mapError_eq_ok] at h
  split at h
  · simp at h
  · exact parseDigits_le (Nat.zero_le _) h

/-- What an accepted cutover satisfies. -/
structure AcceptedCutover (relayAddr cutoverAddress : Address)
    (startingRewardEpoch : UInt32) : Prop where
  address_ne : cutoverAddress ≠ relayAddr
  one_le : 1 ≤ startingRewardEpoch.toNat
  le_max : startingRewardEpoch.toNat ≤ maxRewardEpochID

theorem parseRelayCutover_accepted {lib : AddressLibrary} {env : CutoverEnv}
    {relayAddr cutoverAddress : Address} {startingRewardEpoch : UInt32}
    (hparse : parseRelayCutover lib env relayAddr =
      .ok (cutoverAddress, startingRewardEpoch))
    (hconfigured : cutoverAddress ≠ zeroAddress) :
    AcceptedCutover relayAddr cutoverAddress startingRewardEpoch := by
  unfold parseRelayCutover at hparse
  split at hparse
  · obtain ⟨rfl, -⟩ := Prod.mk.inj (Except.ok.inj hparse)
    exact absurd rfl hconfigured
  · simp only [bind_eq_ok, ensure_eq_ok, exists_unit,
      mapError_eq_ok] at hparse
    obtain ⟨-, address, -, hne, epoch, hepoch, hzero, hpair⟩ := hparse
    obtain ⟨rfl, rfl⟩ := Prod.mk.inj (Except.ok.inj hpair)
    have hle : epoch ≤ maxRewardEpochID := parseUint_le hepoch
    have hsmall : epoch < 2 ^ 32 := by
      have hmax : maxRewardEpochID = 16777215 := by decide
      omega
    have hcarrier : (UInt32.ofNat epoch).toNat = epoch :=
      UInt32.toNat_ofNat_of_lt' hsmall
    refine ⟨hne, ?_, ?_⟩
    · rw [hcarrier]
      exact Nat.one_le_iff_ne_zero.mpr hzero
    · rwa [hcarrier]

/-! ## Callers -/

/-- A call of a Relay caller: its result, and the Relays it asked. -/
abbrev RelayCall := Traced GoError (RelayContract × Int) Hash

def callRelay (answers : RelayAnswers) (contract : RelayContract)
    (id : Int) : RelayCall :=
  ⟨(answers contract id.toNat).mapError fun err : ExternalError =>
    err.toGoError, [(contract, id)]⟩

/-- The refusal of an id that no Relay can own, before any of them is
asked. -/
def refuseID (shown : String) : RelayCall :=
  ⟨.error (.new s!"signing-policy id {shown} is outside the supported range"),
    []⟩

/-- `cutoverRelay.ToSigningPolicyHash`, on a `*big.Int`. -/
def cutoverToSigningPolicyHash (answers : RelayAnswers)
    (startingRewardEpoch : UInt32) : Option Int → RelayCall
  | none => refuseID "<nil>"
  | some id =>
      if id < 0 ∨ 2 ^ 64 ≤ id ∨
          maxRewardEpochID < (UInt64.ofNat id.toNat).toNat then
        refuseID s!"{id}"
      else if startingRewardEpoch ≤ (UInt64.ofNat id.toNat).toUInt32 then
        callRelay answers .next id
      else callRelay answers .current id

/-- The caller of a verifier, behind its cutover when it has one. -/
def relayCaller (cutover : Option UInt32) (answers : RelayAnswers)
    (id : Int) : RelayCall :=
  match cutover with
  | none => callRelay answers .current id
  | some startingRewardEpoch =>
      cutoverToSigningPolicyHash answers startingRewardEpoch (some id)

/-- The Relay that owns an id under a cutover. -/
def relayOwner (cutover : Option UInt32) (id : ℕ) : RelayContract :=
  match cutover with
  | none => .current
  | some startingRewardEpoch =>
      if startingRewardEpoch.toNat ≤ id then .next else .current

/-- An id that a lookup is made for: with a cutover, one of 24 bits. -/
def Routable (cutover : Option UInt32) (id : ℕ) : Prop :=
  cutover ≠ none → id ≤ maxRewardEpochID

theorem exists_of_not_routable {cutover : Option UInt32} {id : ℕ}
    (h : ¬ Routable cutover id) :
    ∃ startingRewardEpoch, cutover = some startingRewardEpoch ∧
      maxRewardEpochID < id := by
  cases cutover with
  | none => exact absurd (fun hne => absurd rfl hne) h
  | some startingRewardEpoch =>
    refine ⟨startingRewardEpoch, rfl, ?_⟩
    by_contra hle
    exact h fun _ => Nat.not_lt.mp hle

/-- An id of 32 bits survives the conversions to `*big.Int` and `uint64`. -/
theorem toNat_carrier (id : UInt32) :
    (UInt64.ofNat (id.toNat : Int).toNat).toNat = id.toNat := by
  rw [Int.toNat_natCast]
  exact UInt64.toNat_ofNat_of_lt'
    (id.toNat_lt.trans (by simp only [UInt64.size]; omega))

theorem relayCaller_of_routable {cutover : Option UInt32}
    (answers : RelayAnswers) {id : UInt32}
    (h : Routable cutover id.toNat) :
    relayCaller cutover answers id.toNat =
      callRelay answers (relayOwner cutover id.toNat) id.toNat := by
  cases cutover with
  | none => rfl
  | some startingRewardEpoch =>
    have hle : id.toNat ≤ maxRewardEpochID := h (by simp)
    have hmax : maxRewardEpochID = 16777215 := by decide
    have hlow : (UInt64.ofNat (id.toNat : Int).toNat).toUInt32 = id := by
      apply UInt32.toNat_inj.mp
      rw [UInt64.toNat_toUInt32, toNat_carrier]
      exact Nat.mod_eq_of_lt id.toNat_lt
    have hrange : ¬ ((id.toNat : Int) < 0 ∨ 2 ^ 64 ≤ (id.toNat : Int) ∨
        maxRewardEpochID <
          (UInt64.ofNat (id.toNat : Int).toNat).toNat) := by
      rw [toNat_carrier]
      omega
    simp only [relayCaller, cutoverToSigningPolicyHash, hrange, hlow,
      if_false, relayOwner, UInt32.le_iff_toNat_le]
    split <;> rfl

theorem relayCaller_of_not_routable {cutover : Option UInt32}
    (answers : RelayAnswers) {id : UInt32}
    (h : ¬ Routable cutover id.toNat) :
    relayCaller cutover answers id.toNat = refuseID s!"{id.toNat}" := by
  obtain ⟨startingRewardEpoch, rfl, hgt⟩ := exists_of_not_routable h
  have hrange : (id.toNat : Int) < 0 ∨ 2 ^ 64 ≤ (id.toNat : Int) ∨
      maxRewardEpochID <
        (UInt64.ofNat (id.toNat : Int).toNat).toNat := by
    rw [toNat_carrier]
    exact .inr (.inr hgt)
  simp only [relayCaller, cutoverToSigningPolicyHash, hrange, if_true]
  rfl

/-- The traced caller computes what the verifier model computes. -/
theorem result_relayCaller (cutover : Option UInt32)
    (answers : RelayAnswers) (id : UInt32) :
    (relayCaller cutover answers id.toNat).result =
      toSigningPolicyHash cutover answers id.toNat := by
  by_cases h : Routable cutover id.toNat
  · rw [relayCaller_of_routable answers h]
    cases cutover with
    | none => rfl
    | some startingRewardEpoch =>
      have hle : ¬ maxRewardEpochID < id.toNat :=
        Nat.not_lt.mpr (h (by simp))
      simp only [callRelay, relayOwner, toSigningPolicyHash, relayAnswer, hle,
        if_false, Int.toNat_natCast]
      split <;> rfl
  · rw [relayCaller_of_not_routable answers h]
    obtain ⟨startingRewardEpoch, rfl, hgt⟩ := exists_of_not_routable h
    simp only [refuseID, toSigningPolicyHash, relayAnswer, hgt, if_true]
    rfl

/-! ## The two tasks -/

/-- What a goroutine sends on its channel, and the Relays it asked. -/
structure PolicyTask where
  lookup : PolicyLookup
  asked : List (RelayContract × Int)

/-- The goroutine of one id: the retried lookup through the caller. -/
def policyTask (cutover : Option UInt32) (relays : ℕ → RelayAnswers)
    (delay : ℕ → Option ContextError) (signingPolicyID : UInt32) :
    PolicyTask :=
  let call attempt :=
    relayCaller cutover (relays attempt) signingPolicyID.toNat
  let retried := retrySigningPolicyHash
    (fun attempt => (call attempt).result) delay chainMaxAttempts
  ⟨retried.toPolicyLookup,
    retried.performed.flatMap fun attempt => (call attempt).events⟩

/-- What the receiver makes of the two results. -/
def policyVerdict (info : TeeInfo)
    (initialSigningRes lastSigningRes : PolicyLookup) :
    TeeSampleState × Option GoError :=
  match initialSigningRes.err with
  | some err =>
      (initialSigningRes.state, some (policyError info .initial err))
  | none =>
      match lastSigningRes.err with
      | some err =>
          (lastSigningRes.state, some (policyError info .last err))
      | none =>
          match checkPolicyHash info .initial initialSigningRes.hash with
          | .error err => (.invalid, some err)
          | .ok () =>
              match checkPolicyHash info .last lastSigningRes.hash with
              | .error err => (.invalid, some err)
              | .ok () => (.valid, none)

/-- What a call of `CheckSigningPolicies` finds: the cutover of its caller,
the answers of the Relays to each attempt of each side, and the errors of the
context during the delays. -/
structure PolicyCheck where
  cutover : Option UInt32
  relays : PolicySide → ℕ → RelayAnswers
  delay : PolicySide → ℕ → Option ContextError

namespace PolicyCheck

variable (check : PolicyCheck) (info : TeeInfo)

def task (side : PolicySide) : PolicyTask :=
  policyTask check.cutover (check.relays side) (check.delay side)
    (side.id info)

/-- `CheckSigningPolicies` under a schedule of its goroutines: nothing while
the receiver is blocked, then the state and the error, with the Relays asked
so far. -/
def run (schedule : List Side) :
    Option ((TeeSampleState × Option GoError) × List (RelayContract × Int)) :=
  let initialTask := check.task info .initial
  let lastTask := check.task info .last
  let fork := (Fork.initial initialTask.asked lastTask.asked).run
    initialTask.lookup lastTask.lookup schedule
  fork.receive.map fun (initialSigningRes, lastSigningRes) =>
    (policyVerdict info initialSigningRes lastSigningRes, fork.trace)

/-- The answer of the Relay that owns the id of a side. -/
def ownAnswer (side : PolicySide) : Except ExternalError Hash :=
  check.relays side 1 (relayOwner check.cutover (side.id info).toNat)
    (side.id info).toNat

/-- The lookup of a side answers with the attested hash. -/
def Matches (side : PolicySide) : Prop :=
  Routable check.cutover (side.id info).toNat ∧
    check.ownAnswer info side = .ok (side.hash info)

end PolicyCheck

/-- The single attempt of a lookup. -/
theorem retrySigningPolicyHash_single (answers : ℕ → Except GoError Hash)
    (delay : ℕ → Option ContextError) :
    retrySigningPolicyHash answers delay chainMaxAttempts =
      match answers 1 with
      | .ok hash => ⟨⟨hash, .valid, none⟩, [1]⟩
      | .error err => ⟨⟨zeroHash, failureState err, some (.wrapf
          s!"fetchSigningPolicyHashFromChainWithRetry failed after {chainMaxAttempts} attempts"
          (failureError err))⟩, [1]⟩ := by
  have hrun : (policyRetryLoop answers delay chainMaxAttempts).run
      (.new "maxAttempts must be at least 1") ⟨zeroHash, .valid, []⟩ () =
      (policyRetryLoop answers delay chainMaxAttempts).iterate 1 1
        ⟨zeroHash, .valid, []⟩ () none := rfl
  have hmax : (policyRetryLoop answers delay chainMaxAttempts).maxAttempts =
      1 := rfl
  rw [retrySigningPolicyHash_eq, hrun]
  cases hanswer : answers 1 with
  | ok hash =>
    rw [RetryLoop.iterate, operation_ok hanswer]
    rfl
  | error err =>
    rw [RetryLoop.iterate, operation_error hanswer]
    simp only [hmax, lt_irrefl, if_false, RetryLoop.iterate]
    split <;> rfl

instance (cutover : Option UInt32) (id : ℕ) :
    Decidable (Routable cutover id) :=
  inferInstanceAs (Decidable (cutover ≠ none → id ≤ maxRewardEpochID))

namespace PolicyCheck

variable {check : PolicyCheck} {info : TeeInfo} {side : PolicySide}

/-- The one Relay asked about the id of a side, if there is one. -/
def ownAsk (check : PolicyCheck) (info : TeeInfo) (side : PolicySide) :
    List (RelayContract × Int) :=
  if Routable check.cutover (side.id info).toNat then
    [(relayOwner check.cutover (side.id info).toNat, (side.id info).toNat)]
  else []

theorem task_asked : (check.task info side).asked = check.ownAsk info side := by
  have hperformed : ∀ answers delay,
      (retrySigningPolicyHash answers delay chainMaxAttempts).performed =
        [1] := by
    intro answers delay
    rw [retrySigningPolicyHash_single]
    split <;> rfl
  simp only [task, policyTask, hperformed, List.flatMap_singleton, ownAsk]
  by_cases h : Routable check.cutover (side.id info).toNat
  · rw [relayCaller_of_routable _ h, if_pos h]
    rfl
  · rw [relayCaller_of_not_routable _ h, if_neg h]
    rfl

theorem task_lookup :
    (check.task info side).lookup =
      match (relayCaller check.cutover (check.relays side 1)
        (side.id info).toNat).result with
      | .ok hash => ⟨hash, .valid, none⟩
      | .error err => ⟨zeroHash, failureState err, some (.wrapf
          s!"fetchSigningPolicyHashFromChainWithRetry failed after {chainMaxAttempts} attempts"
          (failureError err))⟩ := by
  simp only [task, policyTask, retrySigningPolicyHash_single]
  split <;> rfl

theorem result_eq_ok_iff {hash : Hash} :
    (relayCaller check.cutover (check.relays side 1)
        (side.id info).toNat).result = .ok hash ↔
      Routable check.cutover (side.id info).toNat ∧
        check.ownAnswer info side = .ok hash := by
  by_cases h : Routable check.cutover (side.id info).toNat
  · rw [relayCaller_of_routable _ h]
    simp only [callRelay, mapError_eq_ok, Int.toNat_natCast, h, true_and,
      ownAnswer]
  · rw [relayCaller_of_not_routable _ h]
    simp only [refuseID, reduceCtorEq, h, false_and]

theorem task_state_ne_valid {err : GoError}
    (h : (check.task info side).lookup.err = some err) :
    (check.task info side).lookup.state ≠ .valid := by
  rw [task_lookup] at h ⊢
  cases hresult : (relayCaller check.cutover (check.relays side 1)
      (side.id info).toNat).result with
  | ok hash => simp [hresult] at h
  | error cause => exact failureState_ne_valid cause

theorem matches_iff :
    check.Matches info side ↔
      (check.task info side).lookup.err = none ∧
        checkPolicyHash info side (check.task info side).lookup.hash =
          .ok () := by
  unfold Matches
  rw [← result_eq_ok_iff, task_lookup]
  cases (relayCaller check.cutover (check.relays side 1)
    (side.id info).toNat).result with
  | ok hash => simp [checkPolicyHash, ensure_eq_ok]
  | error err => simp

/-- The verdict is valid in its state exactly when it has no error, and then
both sides match. -/
theorem verdict_iff :
    let verdict := policyVerdict info (check.task info .initial).lookup
      (check.task info .last).lookup
    (verdict.1 = .valid ↔ ∀ side, check.Matches info side) ∧
      (verdict.2 = none ↔ ∀ side, check.Matches info side) := by
  have hsides : (∀ side, check.Matches info side) ↔
      check.Matches info .initial ∧ check.Matches info .last := by
    constructor
    · intro h
      exact ⟨h .initial, h .last⟩
    · rintro ⟨hinitial, hlast⟩ (_ | _)
      · exact hinitial
      · exact hlast
  rw [hsides, matches_iff, matches_iff]
  unfold policyVerdict
  cases hinitial : (check.task info .initial).lookup.err with
  | some err => simp [task_state_ne_valid hinitial]
  | none =>
    cases hlast : (check.task info .last).lookup.err with
    | some err => simp [task_state_ne_valid hlast]
    | none =>
      simp only [true_and]
      cases checkPolicyHash info .initial
          (check.task info .initial).lookup.hash with
      | error err => simp
      | ok =>
        cases checkPolicyHash info .last
          (check.task info .last).lookup.hash <;> simp

theorem run_spec {schedule : List Side}
    {verdict : TeeSampleState × Option GoError}
    {asked : List (RelayContract × Int)}
    (hrun : check.run info schedule = some (verdict, asked)) :
    verdict = policyVerdict info (check.task info .initial).lookup
        (check.task info .last).lookup ∧
      asked.Perm (check.ownAsk info .initial ++ check.ownAsk info .last) := by
  obtain ⟨outcome, hreceive, heq⟩ := Option.map_eq_some_iff.mp hrun
  obtain ⟨rfl, htrace⟩ := Fork.run_receive hreceive
  obtain ⟨rfl, rfl⟩ := Prod.mk.inj heq
  refine ⟨rfl, ?_⟩
  rw [htrace, task_asked, task_asked]
  exact interleave_perm schedule _ _

theorem run_valid_iff {schedule : List Side}
    {verdict : TeeSampleState × Option GoError}
    {asked : List (RelayContract × Int)}
    (hrun : check.run info schedule = some (verdict, asked)) :
    (verdict.1 = .valid ↔ ∀ side, check.Matches info side) ∧
      (verdict.2 = none ↔ ∀ side, check.Matches info side) := by
  obtain ⟨rfl, -⟩ := run_spec hrun
  exact verdict_iff

/-- Two turns for each goroutine are enough: one for its call, and one to send
the result. -/
theorem run_finishes {schedule : List Side}
    (hinitial : 2 ≤ schedule.count .left)
    (hlast : 2 ≤ schedule.count .right) :
    ∃ result, check.run info schedule = some result := by
  have hasked : ∀ side, (check.task info side).asked.length ≤ 1 := by
    intro side
    rw [task_asked, ownAsk]
    split
    · exact le_rfl
    · exact Nat.zero_le _
  obtain ⟨outcome, hreceive⟩ := Fork.run_finishes
    (check.task info .initial).lookup (check.task info .last).lookup
    (Nat.lt_of_le_of_lt (hasked .initial) hinitial)
    (Nat.lt_of_le_of_lt (hasked .last) hlast)
  simp only [run, hreceive]
  exact ⟨_, rfl⟩

/-- The traced verifier model reports the error of the verdict. -/
theorem checkSigningPolicies_result (v : TeeVerifier) (view : TeeView)
    (info : TeeInfo) :
    let check : PolicyCheck := ⟨v.cfg.relayCutover, view.relay, view.delay⟩
    (checkSigningPolicies v view info).result =
      match (policyVerdict info (check.task info .initial).lookup
        (check.task info .last).lookup).2 with
      | none => .ok ()
      | some err => .error err := by
  intro check
  have hside : ∀ side, (signingPolicyRun v view info side).result =
      (check.task info side).lookup.outcome.2 := by
    intro side
    rw [signingPolicyRun, Traced.result_lift,
      fetchSigningPolicyHashFromChainWithRetry_eq]
    simp only [task, policyTask, result_relayCaller, check]
  have hresult : (checkSigningPolicies v view info).result = (do
      let initialHash ← (check.task info .initial).lookup.outcome.2.mapError
        (policyError info .initial)
      let lastHash ← (check.task info .last).lookup.outcome.2.mapError
        (policyError info .last)
      checkPolicyHash info .initial initialHash
      checkPolicyHash info .last lastHash) := by
    rw [← hside, ← hside]
    simp only [checkSigningPolicies, Traced.result_bind, forkJoin_result,
      Traced.result_ofExcept, TeeRun.check, Traced.result_lift]
    rfl
  rw [hresult]
  unfold policyVerdict PolicyLookup.outcome
  cases (check.task info .initial).lookup.err with
  | some err => rfl
  | none =>
    cases (check.task info .last).lookup.err with
    | some err => rfl
    | none =>
      change ((checkPolicyHash info .initial
        (check.task info .initial).lookup.hash).bind fun _ =>
          checkPolicyHash info .last
            (check.task info .last).lookup.hash) = _
      cases checkPolicyHash info .initial
          (check.task info .initial).lookup.hash with
      | error err => rfl
      | ok =>
        cases checkPolicyHash info .last
          (check.task info .last).lookup.hash <;> rfl

end PolicyCheck

/-! ## The splice -/

/-- One table from two: that of the current Relay below the starting epoch
and that of the next one from there on. -/
def splicedAnswers (startingRewardEpoch : UInt32) (answers : RelayAnswers) :
    RelayAnswers :=
  fun _ id =>
    if startingRewardEpoch.toNat ≤ id then answers .next id
    else answers .current id

/-- The check of a verifier with the spliced table as its only Relay. -/
def splicedCheck (startingRewardEpoch : UInt32)
    (relays : PolicySide → ℕ → RelayAnswers)
    (delay : PolicySide → ℕ → Option ContextError) : PolicyCheck where
  cutover := none
  relays side attempt :=
    splicedAnswers startingRewardEpoch (relays side attempt)
  delay := delay

theorem result_spliced {startingRewardEpoch id : UInt32}
    (answers : RelayAnswers) (h : id.toNat ≤ maxRewardEpochID) :
    (relayCaller (some startingRewardEpoch) answers id.toNat).result =
      (relayCaller none (splicedAnswers startingRewardEpoch answers)
        id.toNat).result := by
  rw [relayCaller_of_routable answers fun _ => h]
  simp only [relayCaller, callRelay, relayOwner, splicedAnswers,
    Int.toNat_natCast]
  split <;> rfl

theorem task_lookup_spliced {startingRewardEpoch : UInt32}
    {relays : PolicySide → ℕ → RelayAnswers}
    {delay : PolicySide → ℕ → Option ContextError} {info : TeeInfo}
    {side : PolicySide} (h : (side.id info).toNat ≤ maxRewardEpochID) :
    ((splicedCheck startingRewardEpoch relays delay).task info side).lookup =
      ((PolicyCheck.mk (some startingRewardEpoch) relays delay).task info
        side).lookup := by
  rw [PolicyCheck.task_lookup, PolicyCheck.task_lookup]
  simp only [splicedCheck, result_spliced _ h]

/-- What a check behind a cutover does, in terms of the two tables. -/
structure SplicedOutcome (startingRewardEpoch : UInt32)
    (relays : PolicySide → ℕ → RelayAnswers)
    (delay : PolicySide → ℕ → Option ContextError) (info : TeeInfo)
    (verdict : TeeSampleState × Option GoError)
    (asked : List (RelayContract × Int)) : Prop where
  valid_iff : verdict.1 = .valid ↔ ∀ side : PolicySide,
    (side.id info).toNat ≤ maxRewardEpochID ∧
      relays side 1
        (if startingRewardEpoch.toNat ≤ (side.id info).toNat then .next
          else .current) (side.id info).toNat = .ok (side.hash info)
  error_iff : verdict.2 = none ↔ verdict.1 = .valid
  tables : ∀ table : RelayContract → ℕ → Hash,
    (relays = fun _ _ contract id => .ok (table contract id)) →
    (verdict.1 = .valid ↔ ∀ side : PolicySide,
      (side.id info).toNat ≤ maxRewardEpochID ∧
        table
          (if startingRewardEpoch.toNat ≤ (side.id info).toNat then .next
            else .current) (side.id info).toNat = side.hash info)
  single : (∀ side : PolicySide,
      (side.id info).toNat ≤ maxRewardEpochID) →
    ∀ schedule verdict' asked',
      (splicedCheck startingRewardEpoch relays delay).run info schedule =
        some (verdict', asked') → verdict' = verdict
  asked : asked.Perm ([.initial, .last].flatMap fun side : PolicySide =>
    if (side.id info).toNat ≤ maxRewardEpochID then
      [(if startingRewardEpoch.toNat ≤ (side.id info).toNat then .next
        else .current, ((side.id info).toNat : Int))]
    else [])
  failed : ∀ (side : PolicySide) (err : ExternalError),
    relays side 1
      (if startingRewardEpoch.toNat ≤ (side.id info).toNat then .next
        else .current) (side.id info).toNat = .error err →
    verdict.1 ≠ .valid ∧ verdict.2 ≠ none

theorem spliced_outcome {startingRewardEpoch : UInt32}
    {relays : PolicySide → ℕ → RelayAnswers}
    {delay : PolicySide → ℕ → Option ContextError} {info : TeeInfo}
    {schedule : List Side} {verdict : TeeSampleState × Option GoError}
    {asked : List (RelayContract × Int)}
    (hrun : (PolicyCheck.mk (some startingRewardEpoch) relays delay).run info
      schedule = some (verdict, asked)) :
    SplicedOutcome startingRewardEpoch relays delay info verdict asked := by
  obtain ⟨hvalid, herror⟩ := PolicyCheck.run_valid_iff hrun
  obtain ⟨hverdict, hasked⟩ := PolicyCheck.run_spec hrun
  have hroutable : ∀ id, Routable (some startingRewardEpoch) id ↔
      id ≤ maxRewardEpochID := by
    intro id
    simp [Routable]
  have hmatches : ∀ side : PolicySide,
      (PolicyCheck.mk (some startingRewardEpoch) relays delay).Matches info
          side ↔
        (side.id info).toNat ≤ maxRewardEpochID ∧
          relays side 1
            (if startingRewardEpoch.toNat ≤ (side.id info).toNat then .next
              else .current) (side.id info).toNat =
            .ok (side.hash info) := by
    intro side
    simp only [PolicyCheck.Matches, PolicyCheck.ownAnswer, hroutable,
      relayOwner]
  simp only [hmatches] at hvalid herror
  refine ⟨hvalid, herror.trans hvalid.symm, ?_, ?_, ?_, ?_⟩
  · rintro table rfl
    rw [hvalid]
    simp only [Except.ok.injEq]
  · intro hids schedule' verdict' asked' hrun'
    obtain ⟨hverdict', -⟩ := PolicyCheck.run_spec hrun'
    rw [hverdict', hverdict, task_lookup_spliced (hids .initial),
      task_lookup_spliced (hids .last)]
  · simpa [PolicyCheck.ownAsk, hroutable, relayOwner] using hasked
  · intro side err herr
    have hnot : verdict.1 ≠ .valid := by
      intro h
      have hanswer := (hvalid.mp h side).2
      rw [herr] at hanswer
      simp at hanswer
    exact ⟨hnot, mt (herror.trans hvalid.symm).mp hnot⟩

theorem relay_cutover_splice {lib : AddressLibrary} {env : CutoverEnv}
    {relayAddr cutoverAddress : Address} {startingRewardEpoch : UInt32}
    (hparse : parseRelayCutover lib env relayAddr =
      .ok (cutoverAddress, startingRewardEpoch))
    (hconfigured : cutoverAddress ≠ zeroAddress) :
    AcceptedCutover relayAddr cutoverAddress startingRewardEpoch ∧
      relayOwner (some startingRewardEpoch) 0 = .current ∧
      relayOwner (some startingRewardEpoch) maxRewardEpochID = .next ∧
      (∀ relays delay info schedule verdict asked,
        (PolicyCheck.mk (newRelayCaller cutoverAddress startingRewardEpoch)
            relays delay).run info schedule = some (verdict, asked) →
          SplicedOutcome startingRewardEpoch relays delay info verdict
            asked) ∧
      ∀ relays delay info (schedule : List Side),
        2 ≤ schedule.count .left → 2 ≤ schedule.count .right →
          ∃ result, (PolicyCheck.mk (newRelayCaller cutoverAddress
            startingRewardEpoch) relays delay).run info schedule =
              some result := by
  have haccepted := parseRelayCutover_accepted hparse hconfigured
  refine ⟨haccepted, ?_, ?_, ?_, ?_⟩
  · have hone := haccepted.one_le
    exact if_neg (by omega)
  · exact if_pos haccepted.le_max
  · intro relays delay info schedule verdict asked hrun
    rw [newRelayCaller, if_pos hconfigured] at hrun
    exact spliced_outcome hrun
  · intro relays delay info schedule hinitial hlast
    exact PolicyCheck.run_finishes hinitial hlast

/-! ## A cutover at epoch 250 -/

def nextRelayText : String := "0x0000000000000000000000000000000000000002"

def sampleAddresses : AddressLibrary where
  isHexAddress text := text = nextRelayText
  hexToAddress _ := FixedBytes.ofNat 20 2

def sampleCutover : CutoverEnv := ⟨nextRelayText, "250"⟩

/-- A report with the given policies. -/
def policyReport (initialID lastID : UInt32) (initialHash lastHash : Hash) :
    TeeInfo where
  challenge := zeroHash
  publicKey := ⟨zeroHash, zeroHash⟩
  initialSigningPolicyID := initialID
  initialSigningPolicyHash := initialHash
  lastSigningPolicyID := lastID
  lastSigningPolicyHash := lastHash
  state := ⟨[], zeroHash, [], zeroHash⟩
  teeTimestamp := 1
  chainID := 14

theorem parseRelayCutover_sample :
    parseRelayCutover sampleAddresses sampleCutover (FixedBytes.ofNat 20 1) =
      .ok (FixedBytes.ofNat 20 2, 250) := by
  decide

/-- The two Relays of the sample answer with different hashes. -/
def sampleRelays : PolicySide → ℕ → RelayAnswers
  | _, _, .current, _ => .ok (FixedBytes.ofNat 32 1)
  | _, _, .next, _ => .ok (FixedBytes.ofNat 32 2)

/-- An id of 25 bits is asked of neither Relay. -/
theorem oversized_id_not_asked :
    parseRelayCutover sampleAddresses sampleCutover (FixedBytes.ofNat 20 1) =
        .ok (FixedBytes.ofNat 20 2, 250) ∧
      FixedBytes.ofNat 20 2 ≠ zeroAddress ∧
      ∃ verdict asked,
        (PolicyCheck.mk (newRelayCaller (FixedBytes.ofNat 20 2) 250)
            sampleRelays fun _ _ => none).run
          (policyReport 16777216 250 zeroHash zeroHash) [.right, .left, .right] =
            some (verdict, asked) ∧
        ¬ ∃ contract, (contract, (16777216 : Int)) ∈ asked := by
  refine ⟨parseRelayCutover_sample, by decide, _,
    [(.next, 250)], rfl, ?_⟩
  rintro ⟨contract, hmem⟩
  simp at hmem

theorem relay_cutover_splice_sample :
    (PolicyCheck.mk (newRelayCaller (FixedBytes.ofNat 20 2) 250)
        sampleRelays fun _ _ => none).run
      (policyReport 249 250 (FixedBytes.ofNat 32 1) (FixedBytes.ofNat 32 2))
      [.right, .left, .right, .left] =
        some ((.valid, none), [(.next, 250), (.current, 249)]) ∧
    SplicedOutcome 250 sampleRelays (fun _ _ => none)
      (policyReport 249 250 (FixedBytes.ofNat 32 1) (FixedBytes.ofNat 32 2))
      (.valid, none) [(.next, 250), (.current, 249)] :=
  ⟨rfl, (relay_cutover_splice parseRelayCutover_sample
    (by decide)).2.2.2.1 _ _ _ [.right, .left, .right, .left] _ _ rfl⟩

end VerifierApi

import VerifierApi.BoundedCache
import VerifierApi.IndexerStore
import VerifierApi.SequenceBinder
import VerifierApi.StepMachine

/-!
# The initial-nonce cache as a concurrent machine

Any number of calls of the binder run against one cache.  A call looks its
account up, and on a miss reads the initial nonce from the chain and stores
it.  The lookup and the store are critical sections of their own, so that
between them other calls may store the same account, or evict it.
-/

namespace VerifierApi

def maxInitialNonceCacheEntries : ℕ := 100000

def nonceKey (sourceID : Hash) (account : String) : String :=
  sourceID.hex ++ "|" ++ account

/-- A key determines the source and the account, whatever characters the
account holds. -/
theorem nonceKey_inj {sourceID sourceID' : Hash} {account account' : String}
    (h : nonceKey sourceID account = nonceKey sourceID' account') :
    sourceID = sourceID' ∧ account = account' := by
  have hlist := congrArg String.toList h
  simp only [nonceKey, FixedBytes.hex, String.toList_append,
    String.toList_ofList, List.append_assoc] at hlist
  have htail := List.append_cancel_left hlist
  have hlength : (hexDigits sourceID.bytes).length =
      (hexDigits sourceID'.bytes).length := by
    simp only [length_hexDigits, sourceID.length_bytes,
      sourceID'.length_bytes]
  obtain ⟨hdigits, hrest⟩ := List.append_inj htail hlength
  have hbytes := hexDigits_injective hdigits
  have haccount := List.append_cancel_left hrest
  exact ⟨FixedBytes.ext hbytes, String.toList_injective haccount⟩

/-! ## States and steps -/

/-- Where the nonce of a finished call came from. -/
inductive NonceOrigin where
  | unread
  | cached
  | answered
  | failed (err : ExternalError)

inductive BinderPhase where
  | started
  | missed
  | fetched (nonce : UInt64)
  | returned (result : Except GoError Unit) (origin : NonceOrigin)

structure BinderCall where
  sourceID : Hash
  account : String
  paymentId : UInt64
  gotSequence : UInt64
  phase : BinderPhase

def BinderCall.key (call : BinderCall) : String :=
  nonceKey call.sourceID call.account

/-- The answer of a call to which the read of the nonce gave this answer. -/
def BinderCall.verdict (call : BinderCall) (answer : NonceAnswer) :
    Except GoError Unit :=
  verifySequence answer call.account call.paymentId call.gotSequence

structure BinderState where
  cache : LruCache String UInt64 maxInitialNonceCacheEntries
  calls : ℕ → Option BinderCall

def newBinder : BinderState where
  cache := .empty
  calls := fun _ => none

inductive BinderEvent where
  | call (id : ℕ) (sourceID : Hash) (account : String)
      (paymentId gotSequence : UInt64)
  | lookup (id : ℕ)
  | rpc (id : ℕ) (fault : Option ExternalError)
  | store (id : ℕ)

/-- The call which takes the step. -/
def BinderEvent.caller : BinderEvent → ℕ
  | .call id _ _ _ _ => id
  | .lookup id => id
  | .rpc id _ => id
  | .store id => id

namespace BinderState

variable (getInitialNonce : Hash → String → UInt64)

def setCall (s : BinderState) (id : ℕ) (call : BinderCall) : BinderState :=
  { s with calls := Function.update s.calls id (some call) }

/-- The phase in which a call starts: payment zero is refused at once. -/
def startPhase (paymentId : UInt64) : BinderPhase :=
  if paymentId = 0 then
    .returned (.error (.wrapf "paymentId must be >= 1" errDatabase)) .unread
  else .started

/-- `cachedNonce`; a hit becomes the most recently used entry. -/
def lookedUp (s : BinderState) (id : ℕ) (call : BinderCall) : BinderState :=
  match s.cache.lookup call.key with
  | none => s.setCall id { call with phase := .missed }
  | some nonce =>
      { s.setCall id { call with
          phase := .returned (call.verdict (.ok nonce)) .cached } with
        cache := s.cache.touch call.key }

/-- The read of the contract, which answers or fails. -/
def rpcPhase (call : BinderCall) : Option ExternalError → BinderPhase
  | none => .fetched (getInitialNonce call.sourceID call.account)
  | some err => .returned (call.verdict (.error err)) (.failed err)

/-- `storeNonce`, after which the call compares the sequences. -/
def stored (s : BinderState) (id : ℕ) (call : BinderCall) (nonce : UInt64) :
    BinderState :=
  { s.setCall id { call with
      phase := .returned (call.verdict (.ok nonce)) .answered } with
    cache := s.cache.store call.key nonce }

def step (s : BinderState) : BinderEvent → Option BinderState
  | .call id sourceID account paymentId gotSequence =>
      if (s.calls id).isNone then
        some (s.setCall id ⟨sourceID, account, paymentId, gotSequence,
          startPhase paymentId⟩)
      else none
  | .lookup id =>
      match s.calls id with
      | some ⟨sourceID, account, paymentId, gotSequence, .started⟩ =>
          some (s.lookedUp id
            ⟨sourceID, account, paymentId, gotSequence, .started⟩)
      | _ => none
  | .rpc id fault =>
      match s.calls id with
      | some ⟨sourceID, account, paymentId, gotSequence, .missed⟩ =>
          some (s.setCall id ⟨sourceID, account, paymentId, gotSequence,
            rpcPhase getInitialNonce
              ⟨sourceID, account, paymentId, gotSequence, .missed⟩ fault⟩)
      | _ => none
  | .store id =>
      match s.calls id with
      | some ⟨sourceID, account, paymentId, gotSequence, .fetched nonce⟩ =>
          some (s.stored id
            ⟨sourceID, account, paymentId, gotSequence, .fetched nonce⟩ nonce)
      | _ => none

end BinderState

/-- What a step can do, with its guards. -/
inductive BinderStep (getInitialNonce : Hash → String → UInt64)
    (s : BinderState) : BinderEvent → BinderState → Prop
  | call (id : ℕ) (sourceID : Hash) (account : String)
      (paymentId gotSequence : UInt64) (hfree : s.calls id = none) :
      BinderStep getInitialNonce s
        (.call id sourceID account paymentId gotSequence)
        (s.setCall id ⟨sourceID, account, paymentId, gotSequence,
          BinderState.startPhase paymentId⟩)
  | lookup (id : ℕ) (call : BinderCall) (hcall : s.calls id = some call)
      (hphase : call.phase = .started) :
      BinderStep getInitialNonce s (.lookup id) (s.lookedUp id call)
  | rpc (id : ℕ) (call : BinderCall) (fault : Option ExternalError)
      (hcall : s.calls id = some call) (hphase : call.phase = .missed) :
      BinderStep getInitialNonce s (.rpc id fault) (s.setCall id
        { call with
          phase := BinderState.rpcPhase getInitialNonce call fault })
  | store (id : ℕ) (call : BinderCall) (nonce : UInt64)
      (hcall : s.calls id = some call)
      (hphase : call.phase = .fetched nonce) :
      BinderStep getInitialNonce s (.store id) (s.stored id call nonce)

namespace BinderState

variable {getInitialNonce : Hash → String → UInt64}

theorem step_cases {s s' : BinderState} {event : BinderEvent}
    (h : s.step getInitialNonce event = some s') :
    BinderStep getInitialNonce s event s' := by
  cases event with
  | call id sourceID account paymentId gotSequence =>
      simp only [step, Option.isNone_iff_eq_none] at h
      split at h
      next hfree =>
        obtain rfl := Option.some.inj h
        exact .call id sourceID account paymentId gotSequence hfree
      next => simp at h
  | lookup id =>
      simp only [step] at h
      split at h
      next hcall =>
        obtain rfl := Option.some.inj h
        exact .lookup id _ hcall rfl
      next => simp at h
  | rpc id fault =>
      simp only [step] at h
      split at h
      next hcall =>
        obtain rfl := Option.some.inj h
        exact .rpc id _ fault hcall rfl
      next => simp at h
  | store id =>
      simp only [step] at h
      split at h
      next hcall =>
        obtain rfl := Option.some.inj h
        exact .store id _ _ hcall rfl
      next => simp at h

/-! ## The invariant -/

variable (getInitialNonce)

/-- A finished call has the verdict of a binder without a cache. -/
def PhaseSound (call : BinderCall) : BinderPhase → Prop
  | .started => True
  | .missed => True
  | .fetched nonce =>
      nonce = getInitialNonce call.sourceID call.account
  | .returned result (.failed err) => result = call.verdict (.error err)
  | .returned result .unread => call.paymentId = 0 ∧
      result = call.verdict
        (.ok (getInitialNonce call.sourceID call.account))
  | .returned result _ => result = call.verdict
      (.ok (getInitialNonce call.sourceID call.account))

structure Sound (s : BinderState) : Prop where
  entries : ∀ key nonce, s.cache.lookup key = some nonce →
    ∃ sourceID account, key = nonceKey sourceID account ∧
      nonce = getInitialNonce sourceID account
  calls : ∀ id call, s.calls id = some call →
    PhaseSound getInitialNonce call call.phase

variable {getInitialNonce}

theorem newBinder_sound : newBinder.Sound getInitialNonce where
  entries := by simp [newBinder]
  calls := by simp [newBinder]

theorem Sound.setCall {s : BinderState} (h : s.Sound getInitialNonce)
    {id : ℕ} {call : BinderCall}
    (hcall : PhaseSound getInitialNonce call call.phase) :
    (s.setCall id call).Sound getInitialNonce where
  entries := h.entries
  calls := by
    apply forall_update_some h.calls
    rintro _ ⟨⟩
    exact hcall

theorem Sound.lookup {s : BinderState} (h : s.Sound getInitialNonce)
    {sourceID : Hash} {account : String} {nonce : UInt64}
    (hlookup : s.cache.lookup (nonceKey sourceID account) = some nonce) :
    nonce = getInitialNonce sourceID account := by
  obtain ⟨sourceID', account', hkey, hnonce⟩ := h.entries _ nonce hlookup
  obtain ⟨hsource, haccount⟩ := nonceKey_inj hkey
  rw [hsource, haccount]
  exact hnonce

theorem startPhase_sound {sourceID : Hash} {account : String}
    {paymentId gotSequence : UInt64} {phase : BinderPhase} :
    PhaseSound getInitialNonce
      ⟨sourceID, account, paymentId, gotSequence, phase⟩
      (startPhase paymentId) := by
  unfold startPhase
  by_cases hzero : paymentId = 0
  · rw [if_pos hzero]
    subst hzero
    exact ⟨rfl, rfl⟩
  · rw [if_neg hzero]
    trivial

theorem Sound.lookedUp {s : BinderState} (h : s.Sound getInitialNonce)
    {id : ℕ} {call : BinderCall} :
    (s.lookedUp id call).Sound getInitialNonce := by
  unfold BinderState.lookedUp
  split
  next => exact h.setCall trivial
  next nonce hlookup =>
    have hnonce : nonce = getInitialNonce call.sourceID call.account :=
      h.lookup hlookup
    have hset : (s.setCall id { call with
        phase := .returned (call.verdict (.ok nonce)) .cached }).Sound
          getInitialNonce := by
      apply h.setCall
      subst hnonce
      exact rfl
    exact ⟨by simpa using h.entries, hset.calls⟩

theorem rpcPhase_sound {call : BinderCall} {phase : BinderPhase}
    {fault : Option ExternalError} :
    PhaseSound getInitialNonce { call with phase := phase }
      (rpcPhase getInitialNonce call fault) := by
  cases fault with
  | none => exact rfl
  | some err => exact rfl

theorem Sound.stored {s : BinderState} (h : s.Sound getInitialNonce)
    {id : ℕ} {call : BinderCall} {nonce : UInt64}
    (hnonce : nonce = getInitialNonce call.sourceID call.account) :
    (s.stored id call nonce).Sound getInitialNonce := by
  have hset : (s.setCall id { call with
      phase := .returned (call.verdict (.ok nonce)) .answered }).Sound
        getInitialNonce := by
    apply h.setCall
    subst hnonce
    exact rfl
  constructor
  · intro key found hfound
    rcases LruCache.lookup_store_subset hfound with ⟨hkey, hvalue⟩ | hold
    · exact ⟨call.sourceID, call.account, hkey, hvalue.trans hnonce⟩
    · exact h.entries key found hold
  · exact hset.calls

theorem Sound.step {s s' : BinderState} {event : BinderEvent}
    (h : s.Sound getInitialNonce)
    (hstep : s.step getInitialNonce event = some s') :
    s'.Sound getInitialNonce := by
  cases step_cases hstep with
  | call id sourceID account paymentId gotSequence hfree =>
      exact h.setCall startPhase_sound
  | lookup id call hcall hphase => exact h.lookedUp
  | rpc id call fault hcall hphase => exact h.setCall rpcPhase_sound
  | store id call nonce hcall hphase =>
      have hsound := h.calls id call hcall
      rw [hphase] at hsound
      exact h.stored hsound

theorem Sound.run {events : List BinderEvent} {s : BinderState}
    (hrun : runSteps (BinderState.step getInitialNonce) newBinder events =
      some s) :
    s.Sound getInitialNonce := by
  apply runSteps_invariant _ newBinder_sound hrun
  intro t event t' _ hsound hstep
  exact hsound.step hstep

/-! ## Calls which fail -/

theorem returned_stable {events : List BinderEvent} {s s' : BinderState}
    {id : ℕ} {call : BinderCall} {result : Except GoError Unit}
    {origin : NonceOrigin} (hcall : s.calls id = some call)
    (hphase : call.phase = .returned result origin)
    (hrun : runSteps (BinderState.step getInitialNonce) s events =
      some s') :
    s'.calls id = some call := by
  apply runSteps_invariant (P := fun t => t.calls id = some call) _ hcall hrun
  intro t event t' _ ht hstep
  have hother : ∀ {other : ℕ} {own : BinderCall}, t.calls other = some own →
      own.phase ≠ call.phase → other ≠ id := by
    rintro other own hown hne rfl
    obtain rfl := Option.some.inj (hown.symm.trans ht)
    exact hne rfl
  cases step_cases hstep with
  | call other _ _ _ _ hfree =>
      have hne : id ≠ other := by
        rintro rfl
        simp [hfree] at ht
      simpa [setCall, Function.update_of_ne hne] using ht
  | lookup other own hown hstarted =>
      have hne := hother hown (by simp [hstarted, hphase])
      unfold lookedUp
      split
      next => simpa [setCall, Function.update_of_ne hne.symm] using ht
      next => simpa [setCall, Function.update_of_ne hne.symm] using ht
  | rpc other own fault hown hmissed =>
      have hne := hother hown (by simp [hmissed, hphase])
      simpa [setCall, Function.update_of_ne hne.symm] using ht
  | store other own nonce hown hfetched =>
      have hne := hother hown (by simp [hfetched, hphase])
      simpa [stored, setCall, Function.update_of_ne hne.symm] using ht

/-- A call which has returned is the one found at the end of the run. -/
theorem eq_of_returned {after : List BinderEvent} {s t : BinderState}
    {id : ℕ} {own call : BinderCall} {result : Except GoError Unit}
    {origin : NonceOrigin} (hown : t.calls id = some own)
    (hreturned : own.phase = .returned result origin)
    (hafter : runSteps (BinderState.step getInitialNonce) t after = some s)
    (hcall : s.calls id = some call) : call = own :=
  Option.some.inj (hcall.symm.trans (returned_stable hown hreturned hafter))

theorem cache_of_failed {s t t' : BinderState} {event : BinderEvent}
    {after : List BinderEvent} {call : BinderCall}
    {result : Except GoError Unit} {err : ExternalError}
    (hstep : t.step getInitialNonce event = some t')
    (hafter : runSteps (BinderState.step getInitialNonce) t' after = some s)
    (hcall : s.calls event.caller = some call)
    (hphase : call.phase = .returned result (.failed err)) :
    t'.cache = t.cache := by
  cases step_cases hstep with
  | call id _ _ _ _ hfree => rfl
  | lookup id own hown hstarted =>
      unfold lookedUp at hafter ⊢
      split
      next => rfl
      next nonce hlookup =>
        simp only [hlookup] at hafter
        obtain rfl := eq_of_returned (Function.update_self id _ t.calls) rfl
          hafter hcall
        simp at hphase
  | rpc id own fault hown hmissed => rfl
  | store id own nonce hown hfetched =>
      obtain rfl := eq_of_returned (Function.update_self id _ t.calls) rfl
        hafter hcall
      simp at hphase

end BinderState

theorem verifySequence_of_error (err : ExternalError) (account : String)
    (paymentId gotSequence : UInt64) :
    ∃ e, verifySequence (.error err) account paymentId gotSequence =
      .error e ∧ e.has .database = true := by
  by_cases hzero : paymentId = 0
  · subst hzero
    exact ⟨.wrapf "paymentId must be >= 1" errDatabase, rfl,
      by simp [has_eq, errDatabase]⟩
  · have hpositive : ensure (paymentId ≠ 0)
        (.wrapf "paymentId must be >= 1" errDatabase : GoError) = .ok () :=
      if_pos hzero
    refine ⟨.wrapf
      s!"cannot read initialNonce for account {account}: {err.text}"
      errDatabase, ?_, by simp [has_eq, errDatabase]⟩
    unfold verifySequence
    rw [hpositive]
    rfl

/-- Whatever the order of lookups, reads, stores and evictions: a call has
the verdict of a binder without a cache, a failed call leaves no trace, and
no two accounts share an entry. -/
theorem binder_transparent (getInitialNonce : Hash → String → UInt64)
    (events : List BinderEvent) (s : BinderState)
    (hrun : runSteps (BinderState.step getInitialNonce) newBinder events =
      some s) :
    (∀ id call result origin, s.calls id = some call →
      call.phase = .returned result origin →
      (∀ err, origin ≠ .failed err) →
      result = verifySequence
          (.ok (getInitialNonce call.sourceID call.account)) call.account
          call.paymentId call.gotSequence ∧
        (result = .ok () ↔
          1 ≤ call.paymentId.toNat ∧
          call.gotSequence.toNat =
            (getInitialNonce call.sourceID call.account).toNat +
              call.paymentId.toNat - 1 ∧
          (getInitialNonce call.sourceID call.account).toNat +
              call.paymentId.toNat - 1 ≤ 2 ^ 64 - 1)) ∧
    (∀ id call result err, s.calls id = some call →
      call.phase = .returned result (.failed err) →
      result = verifySequence (.error err) call.account call.paymentId
          call.gotSequence ∧
        (∃ e, result = .error e ∧ e.has .database = true) ∧
        ∀ before event after t t', events = before ++ event :: after →
          event.caller = id →
          runSteps (BinderState.step getInitialNonce) newBinder before =
            some t →
          t.step getInitialNonce event = some t' → t'.cache = t.cache) ∧
    (∀ key nonce, s.cache.lookup key = some nonce →
      ∃ sourceID account, key = nonceKey sourceID account ∧
        nonce = getInitialNonce sourceID account) ∧
    (∀ sourceID account sourceID' account',
      nonceKey sourceID account = nonceKey sourceID' account' →
      sourceID = sourceID' ∧ account = account') := by
  have hsound := BinderState.Sound.run hrun
  refine ⟨?_, ?_, hsound.entries, fun _ _ _ _ => nonceKey_inj⟩
  · intro id call result origin hcall hphase horigin
    have hverdict := hsound.calls id call hcall
    rw [hphase] at hverdict
    have hresult : result = call.verdict
        (.ok (getInitialNonce call.sourceID call.account)) := by
      cases origin with
      | unread => exact hverdict.2
      | cached => exact hverdict
      | answered => exact hverdict
      | failed err => exact absurd rfl (horigin err)
    refine ⟨hresult, ?_⟩
    rw [hresult, BinderCall.verdict, verifySequence_eq_ok_iff]
    simp only [Except.ok.injEq, exists_eq_left', AssignedSequence]
    have hlt := call.gotSequence.toNat_lt
    omega
  · intro id call result err hcall hphase
    have hverdict := hsound.calls id call hcall
    rw [hphase] at hverdict
    have hresult : result = call.verdict (.error err) := hverdict
    refine ⟨hresult, ?_, ?_⟩
    · rw [hresult]
      exact verifySequence_of_error err call.account call.paymentId
        call.gotSequence
    · rintro before event after t t' rfl rfl hbefore hstep
      obtain ⟨mid, hmid, hrest⟩ := runSteps_append.mp hrun
      obtain rfl := Option.some.inj (hbefore.symm.trans hmid)
      obtain ⟨next, hnext, hafter⟩ := runSteps_cons.mp hrest
      obtain rfl := Option.some.inj (hstep.symm.trans hnext)
      exact BinderState.cache_of_failed hstep hafter hcall hphase

/-- Two calls miss and both store their account; a third finds it, and a
fourth fails to read another account. -/
def fourCalls : List BinderEvent :=
  [.call 1 zeroHash "rA" 1 100, .call 2 zeroHash "rA" 2 101, .lookup 1,
    .lookup 2, .rpc 1 none, .rpc 2 none, .store 1, .store 2,
    .call 3 zeroHash "rA" 5 104, .lookup 3, .call 4 zeroHash "rB" 1 100,
    .lookup 4, .rpc 4 (some ⟨"connection refused", [.netError]⟩)]

theorem binder_transparent_fourCalls :
    ∃ s, runSteps (BinderState.step fun _ _ => 100) newBinder fourCalls =
        some s ∧
      (∃ call, s.calls 3 = some call ∧
        call.phase = .returned (.ok ()) .cached ∧
        call.gotSequence.toNat = 100 + call.paymentId.toNat - 1) ∧
      ∃ call result err, s.calls 4 = some call ∧
        call.phase = .returned result (.failed err) ∧
        ∃ e, result = .error e ∧ e.has .database = true := by
  have hrun : runSteps (BinderState.step fun _ _ => 100) newBinder
      fourCalls = some ((runSteps (BinderState.step fun _ _ => 100) newBinder
        fourCalls).getD newBinder) := rfl
  obtain ⟨hverdicts, hfailures, -⟩ :=
    binder_transparent (fun _ _ => 100) fourCalls _ hrun
  refine ⟨_, hrun, ?_, ?_⟩
  · obtain ⟨-, hiff⟩ := hverdicts 3
      ⟨zeroHash, "rA", 5, 104, .returned (.ok ()) .cached⟩ (.ok ()) .cached
      rfl rfl (by simp)
    exact ⟨_, rfl, rfl, (hiff.mp rfl).2.1⟩
  · obtain ⟨-, herror, -⟩ := hfailures 4 _ _ _ rfl rfl
    exact ⟨_, _, _, rfl, rfl, herror⟩

end VerifierApi

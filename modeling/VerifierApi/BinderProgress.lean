import VerifierApi.BinderMachine
import VerifierApi.RunProgress

/-!
# Progress of the initial-nonce cache

No call of the binder waits for another one.  A call takes four steps at
most, and a call under way returns its verdict as soon as the chain answers,
whatever the other calls have stored or evicted before.
-/

namespace VerifierApi

/-- Steps of calls under way, in which the chain answers. -/
def BinderEvent.Driven : BinderEvent → Prop
  | .call _ _ _ _ _ => False
  | .rpc _ fault => fault = none
  | _ => True

def BinderPhase.Done : BinderPhase → Prop
  | .returned _ _ => True
  | _ => False

/-- With its start, a call takes four steps at most. -/
def binderBudget : Option BinderCall → ℕ
  | none => 4
  | some call =>
      match call.phase with
      | .started => 3
      | .missed => 2
      | .fetched _ => 1
      | .returned _ _ => 0

namespace BinderState

variable {getInitialNonce : Hash → String → UInt64} {s s' : BinderState}
  {id : ℕ} {call : BinderCall}

/-- What a step does to the calls: it moves its own, whose arguments stay. -/
structure Moves (s s' : BinderState) (id : ℕ) (call' : BinderCall) :
    Prop where
  calls : s'.calls = Function.update s.calls id (some call')
  budget : binderBudget (some call') < binderBudget (s.calls id)
  arguments : ∀ call, s.calls id = some call →
    call'.sourceID = call.sourceID ∧ call'.account = call.account ∧
      call'.paymentId = call.paymentId ∧
      call'.gotSequence = call.gotSequence

theorem budget_startPhase (sourceID : Hash) (account : String)
    (paymentId gotSequence : UInt64) :
    binderBudget (some ⟨sourceID, account, paymentId, gotSequence,
      startPhase paymentId⟩) ≤ 3 := by
  unfold startPhase
  split <;> simp [binderBudget]

theorem lookedUp_moves (hcall : s.calls id = some call)
    (hphase : call.phase = .started) :
    ∃ call', s.Moves (s.lookedUp id call) id call' ∧
      ∀ result err, call'.phase ≠ .returned result (.failed err) := by
  unfold lookedUp
  cases hlookup : s.cache.lookup call.key with
  | none =>
      refine ⟨{ call with phase := .missed }, ⟨rfl, ?_, ?_⟩, by simp⟩
      · simp [hcall, hphase, binderBudget]
      · rintro _ hsame
        obtain rfl := Option.some.inj (hcall.symm.trans hsame)
        exact ⟨rfl, rfl, rfl, rfl⟩
  | some nonce =>
      refine ⟨{ call with
        phase := .returned (call.verdict (.ok nonce)) .cached },
        ⟨rfl, ?_, ?_⟩, by simp⟩
      · simp [hcall, hphase, binderBudget]
      · rintro _ hsame
        obtain rfl := Option.some.inj (hcall.symm.trans hsame)
        exact ⟨rfl, rfl, rfl, rfl⟩

/-- A step moves the call which takes it; only a failed read leaves it
failed. -/
theorem step_moves {event : BinderEvent}
    (hstep : s.step getInitialNonce event = some s') :
    ∃ call', s.Moves s' event.caller call' ∧
      (event.Driven → (∃ call, s.calls event.caller = some call) ∧
        ∀ result err, call'.phase ≠ .returned result (.failed err)) := by
  cases step_cases hstep with
  | call id sourceID account paymentId gotSequence hfree =>
      have hle := budget_startPhase sourceID account paymentId gotSequence
      refine ⟨_, ⟨rfl, ?_, ?_⟩, fun hdriven => hdriven.elim⟩
      · simp only [BinderEvent.caller, hfree]
        exact Nat.lt_succ_of_le hle
      · intro call hcall
        simp [BinderEvent.caller, hfree] at hcall
  | lookup id call hcall hphase =>
      obtain ⟨call', hmoves, hclean⟩ := lookedUp_moves hcall hphase
      exact ⟨call', hmoves, fun _ => ⟨⟨call, hcall⟩, hclean⟩⟩
  | rpc id call fault hcall hphase =>
      refine ⟨_, ⟨rfl, ?_, ?_⟩, ?_⟩
      · cases fault <;>
          simp [BinderEvent.caller, hcall, hphase, rpcPhase, binderBudget]
      · rintro _ hsame
        obtain rfl := Option.some.inj (hcall.symm.trans hsame)
        exact ⟨rfl, rfl, rfl, rfl⟩
      · intro hdriven
        have hnone : fault = none := hdriven
        subst hnone
        exact ⟨⟨call, hcall⟩, by simp [rpcPhase]⟩
  | store id call nonce hcall hphase =>
      refine ⟨_, ⟨rfl, ?_, ?_⟩, fun _ => ⟨⟨call, hcall⟩, by simp⟩⟩
      · simp [BinderEvent.caller, hcall, hphase, binderBudget]
      · rintro _ hsame
        obtain rfl := Option.some.inj (hcall.symm.trans hsame)
        exact ⟨rfl, rfl, rfl, rfl⟩

theorem step_budget {event : BinderEvent}
    (hstep : s.step getInitialNonce event = some s') (id : ℕ) :
    binderBudget (s'.calls id) + (if event.caller = id then 1 else 0) ≤
      binderBudget (s.calls id) := by
  obtain ⟨call', hmoves, -⟩ := step_moves hstep
  rw [hmoves.calls]
  by_cases heq : id = event.caller
  · subst heq
    simp only [Function.update_self, if_true]
    exact hmoves.budget
  · simp [Function.update_of_ne heq, Ne.symm heq]

/-- Whatever the other calls do, a call under way can take its next step. -/
theorem exists_driven_step (getInitialNonce : Hash → String → UInt64)
    (hcall : s.calls id = some call) (hleft : ¬ call.phase.Done) :
    ∃ event : BinderEvent, event.Driven ∧ event.caller = id ∧
      (s.step getInitialNonce event).isSome := by
  obtain ⟨sourceID, account, paymentId, gotSequence, phase⟩ := call
  cases phase with
  | started =>
      exact ⟨.lookup id, trivial, rfl, by simp [BinderState.step, hcall]⟩
  | missed =>
      exact ⟨.rpc id none, rfl, rfl, by simp [BinderState.step, hcall]⟩
  | fetched nonce =>
      exact ⟨.store id, trivial, rfl, by simp [BinderState.step, hcall]⟩
  | returned result origin => exact absurd trivial hleft

/-- A later state of the same calls, in which no further read has failed. -/
structure Later (s t : BinderState) : Prop where
  calls : ∀ id call, s.calls id = some call → ∃ call',
    t.calls id = some call' ∧ call'.sourceID = call.sourceID ∧
      call'.account = call.account ∧ call'.paymentId = call.paymentId ∧
      call'.gotSequence = call.gotSequence
  failures : ∀ id call result err, t.calls id = some call →
    call.phase = .returned result (.failed err) → s.calls id = some call

theorem Later.refl (s : BinderState) : s.Later s :=
  ⟨fun _ call hcall => ⟨call, hcall, rfl, rfl, rfl, rfl⟩,
    fun _ _ _ _ hcall _ => hcall⟩

theorem Later.step {t t' : BinderState} (h : s.Later t)
    {event : BinderEvent} (hdriven : event.Driven)
    (hstep : t.step getInitialNonce event = some t') : s.Later t' := by
  obtain ⟨call', hmoves, hclean⟩ := step_moves hstep
  obtain ⟨-, hclean⟩ := hclean hdriven
  constructor
  · intro id call hcall
    obtain ⟨own, hown, hsource, haccount, hpayment, hsequence⟩ :=
      h.calls id call hcall
    rw [hmoves.calls]
    by_cases heq : id = event.caller
    · subst heq
      obtain ⟨hsource', haccount', hpayment', hsequence'⟩ :=
        hmoves.arguments own hown
      exact ⟨call', Function.update_self .., hsource'.trans hsource,
        haccount'.trans haccount, hpayment'.trans hpayment,
        hsequence'.trans hsequence⟩
    · rw [Function.update_of_ne heq]
      exact ⟨own, hown, hsource, haccount, hpayment, hsequence⟩
  · intro id call result err hcall hphase
    rw [hmoves.calls] at hcall
    by_cases heq : id = event.caller
    · subst heq
      rw [Function.update_self, Option.some.injEq] at hcall
      subst hcall
      exact absurd hphase (hclean result err)
    · rw [Function.update_of_ne heq] at hcall
      exact h.failures id call result err hcall hphase

theorem Sound.verdict (h : s.Sound getInitialNonce)
    (hcall : s.calls id = some call) {result : Except GoError Unit}
    {origin : NonceOrigin} (hphase : call.phase = .returned result origin)
    (horigin : ∀ err, origin ≠ .failed err) :
    result = call.verdict
      (.ok (getInitialNonce call.sourceID call.account)) := by
  have hsound := h.calls id call hcall
  rw [hphase] at hsound
  cases origin with
  | unread => exact hsound.2
  | cached => exact hsound
  | answered => exact hsound
  | failed err => exact absurd rfl (horigin err)

/-- The calls which a list of events starts. -/
def callers (events : List BinderEvent) : Finset ℕ :=
  (events.map BinderEvent.caller).toFinset

theorem supportedBy_callers {events : List BinderEvent}
    (hrun : runSteps (BinderState.step getInitialNonce) newBinder events =
      some s) : SupportedBy (callers events) s.calls := by
  refine runSteps_invariant (P := fun t => SupportedBy (callers events)
    t.calls) ?_ (by simp [SupportedBy, newBinder]) hrun
  intro t event t' hmem hsupported hstep
  obtain ⟨call', hmoves, -⟩ := step_moves hstep
  rw [hmoves.calls]
  exact hsupported.update fun _ =>
    List.mem_toFinset.mpr (List.mem_map_of_mem hmem)

/-- Once the chain answers, the calls under way come to an end. -/
theorem exists_later_done {ids : Finset ℕ}
    (hsupported : SupportedBy ids s.calls) :
    ∃ more s', (∀ event ∈ more, BinderEvent.Driven event) ∧
      runSteps (BinderState.step getInitialNonce) s more = some s' ∧
      s.Later s' ∧ ∀ id call, s'.calls id = some call → call.phase.Done := by
  let reached : BinderState → Prop := fun t =>
    SupportedBy ids t.calls ∧ s.Later t
  have hprogress : ∀ t, reached t →
      ¬ (∀ id call, t.calls id = some call → call.phase.Done) →
      ∃ event t', BinderEvent.Driven event ∧
        t.step getInitialNonce event = some t' ∧ reached t' ∧
        tableWork binderBudget ids t'.calls <
          tableWork binderBudget ids t.calls := by
    rintro t ⟨hsupported, hlater⟩ hbusy
    push Not at hbusy
    obtain ⟨id, call, hcall, hleft⟩ := hbusy
    obtain ⟨event, hdriven, rfl, hstep⟩ :=
      exists_driven_step getInitialNonce hcall hleft
    obtain ⟨t', hstep⟩ := Option.isSome_iff_exists.mp hstep
    obtain ⟨call', hmoves, -⟩ := step_moves hstep
    have hmem := hsupported.mem hcall
    have hsupported' : SupportedBy ids t'.calls := by
      rw [hmoves.calls]
      exact hsupported.update fun _ => hmem
    refine ⟨event, t', hdriven, hstep,
      ⟨hsupported', hlater.step hdriven hstep⟩, ?_⟩
    have hwork : tableWork binderBudget ids t'.calls +
          binderBudget (t.calls event.caller) =
        tableWork binderBudget ids t.calls + binderBudget (some call') := by
      rw [hmoves.calls]
      exact tableWork_update hmem (some call')
    have hless := hmoves.budget
    omega
  obtain ⟨more, s', hdriven, -, hmore, ⟨-, hlater⟩, hdone⟩ :=
    exists_run_to_rest hprogress ⟨hsupported, Later.refl s⟩
  exact ⟨more, s', hdriven, hmore, hlater, hdone⟩

end BinderState

/-- Whatever the order of lookups, reads, stores and evictions: no call takes
more than four steps, and once the chain answers every call under way returns
the verdict of a binder without a cache. -/
theorem binder_progress (getInitialNonce : Hash → String → UInt64)
    (events : List BinderEvent) (s : BinderState)
    (hrun : runSteps (BinderState.step getInitialNonce) newBinder events =
      some s) :
    (∀ id, (events.countP fun event => event.caller = id) ≤ 4) ∧
    ∃ more s', (∀ event ∈ more, event.Driven) ∧
      runSteps (BinderState.step getInitialNonce) s more = some s' ∧
      ∀ id call, s.calls id = some call → ¬ call.phase.Done →
        ∃ call' origin, s'.calls id = some call' ∧
          call'.phase = .returned (verifySequence
            (.ok (getInitialNonce call.sourceID call.account)) call.account
            call.paymentId call.gotSequence) origin := by
  constructor
  · intro id
    have hbudget : ∀ (t : BinderState) event t',
        t.step getInitialNonce event = some t' →
        binderBudget (t'.calls id) +
            (if decide (event.caller = id) then 1 else 0) ≤
          binderBudget (t.calls id) := by
      intro t event t' hstep
      simpa using BinderState.step_budget hstep id
    have hcount := runSteps_countP _ _ hbudget hrun
    simp only [newBinder, binderBudget] at hcount
    omega
  · obtain ⟨more, s', hdriven, hmore, hlater, hdone⟩ :=
      BinderState.exists_later_done
        (BinderState.supportedBy_callers hrun)
    have hsound : s'.Sound getInitialNonce :=
      BinderState.Sound.run (runSteps_append.mpr ⟨s, hrun, hmore⟩)
    refine ⟨more, s', hdriven, hmore, ?_⟩
    intro id call hcall hleft
    obtain ⟨call', hcall', hsource, haccount, hpayment, hsequence⟩ :=
      hlater.calls id call hcall
    have hreturned := hdone id call' hcall'
    cases hphase : call'.phase with
    | returned result origin =>
        have horigin : ∀ err, origin ≠ .failed err := by
          rintro err rfl
          have hsame := hlater.failures id call' result err hcall' hphase
          obtain rfl := Option.some.inj (hcall.symm.trans hsame)
          exact hleft hreturned
        have hverdict := hsound.verdict hcall' hphase horigin
        refine ⟨call', origin, hcall', ?_⟩
        rw [hphase, hverdict, BinderCall.verdict, hsource, haccount,
          hpayment, hsequence]
    | _ => simp [hphase, BinderPhase.Done] at hreturned

/-- Two calls miss, and a third one has started, when the chain answers. -/
theorem binder_progress_fourCalls :
    ∃ (s s' : BinderState) (call : BinderCall) (origin : NonceOrigin),
      runSteps (BinderState.step fun _ _ => 100) newBinder
        (fourCalls.take 5) = some s ∧
      s'.calls 2 = some call ∧
      call.phase = .returned
        (verifySequence (.ok 100) "rA" 2 101) origin := by
  have hrun : runSteps (BinderState.step fun _ _ => 100) newBinder
      (fourCalls.take 5) = some ((runSteps
        (BinderState.step fun _ _ => 100) newBinder
        (fourCalls.take 5)).getD newBinder) := rfl
  obtain ⟨-, more, s', -, -, hreturns⟩ :=
    binder_progress (fun _ _ => 100) _ _ hrun
  obtain ⟨call, origin, hcall, hphase⟩ :=
    hreturns 2 ⟨zeroHash, "rA", 2, 101, .missed⟩ rfl (fun hdone => hdone)
  exact ⟨_, s', call, origin, hrun, hcall, hphase⟩

end VerifierApi

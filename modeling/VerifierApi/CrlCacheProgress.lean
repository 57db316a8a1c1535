import VerifierApi.CrlCacheSafety
import VerifierApi.RunProgress

/-!
# Progress of the CRL cache

A call which waits has an execution in flight under its key, so that no
broadcast is lost on it.  Whatever the fetches return, the calls and the
executions under way can all be brought to their end, and a call takes five
steps at most.
-/

namespace VerifierApi

/-! ## Steps and their actors -/

/-- The call which takes the step. -/
def CacheEvent.caller : CacheEvent → Option ℕ
  | .call id _ _ => some id
  | .lookup id => some id
  | .judge id => some id
  | .share id => some id
  | .receive id => some id
  | .cancel id _ => some id
  | _ => none

/-- Steps of calls and executions under way, in which the fetch under a key
has the outcome of a schedule.  No call is cancelled. -/
def CacheEvent.Driven (outcomes : String → Except GoError (List UInt8)) :
    CacheEvent → Prop
  | .call _ _ _ => False
  | .cancel _ _ => False
  | .fetchDone key outcome => outcome = outcomes key
  | .tick _ => False
  | .close => False
  | _ => True

/-- A call which has returned. -/
def CallPhase.Done : CallPhase → Prop
  | .returned _ _ => True
  | _ => False

/-- The steps which a call has left, at most. -/
def callBudget : Option Call → ℕ
  | none => 5
  | some call =>
      match call.phase with
      | .started => 4
      | .looked _ => 3
      | .missed => 2
      | .waiting => 1
      | .delivered _ _ => 1
      | .returned _ _ => 0

/-- The work of a call, which covers the execution that it may start. -/
def callWork : Option Call → ℕ
  | none => 0
  | some call =>
      match call.phase with
      | .started => 10
      | .looked _ => 9
      | .missed => 8
      | .waiting => 2
      | .delivered _ _ => 1
      | .returned _ _ => 0

def flightWork : Option Flight → ℕ
  | none => 0
  | some flight =>
      match flight.phase with
      | .started => 5
      | .looked _ => 4
      | .fetching => 3
      | .accepted _ => 2
      | .finished _ => 1

namespace CacheState

variable {lib : X509Library} {s s' : CacheState}

/-! ## The steps of one call -/

theorem callBudget_judged (call : Call) (entry : Option CrlEntry) :
    callBudget (some { call with phase := s.judged lib call entry }) ≤ 2 := by
  unfold judged
  split <;> simp [callBudget]

theorem callBudget_deliver (key : String)
    (result : Except GoError RevocationList) (id : ℕ) :
    callBudget (s.deliver lib key result id) = callBudget (s.calls id) := by
  unfold deliver
  cases hcall : s.calls id with
  | none => rfl
  | some call =>
      obtain ⟨url, issuer, startedAt, phase⟩ := call
      cases phase with
      | waiting =>
          by_cases hkey : Call.key lib ⟨url, issuer, startedAt, .waiting⟩ = key
          · simp [hkey, callBudget]
          · simp [hkey]
      | _ => rfl

/-- A step of a call lowers what it has left, and a step of another party
leaves it alone. -/
theorem step_callBudget {event : CacheEvent}
    (hstep : s.step lib event = some s') (id : ℕ) :
    callBudget (s'.calls id) + (if event.caller = some id then 1 else 0) ≤
      callBudget (s.calls id) := by
  have hmoves : ∀ {own : ℕ} {call : Call},
      callBudget (some call) < callBudget (s.calls own) →
      callBudget (Function.update s.calls own (some call) id) +
          (if some own = some id then 1 else 0) ≤
        callBudget (s.calls id) := by
    intro own call hlt
    by_cases heq : id = own
    · subst heq
      simp only [Function.update_self, if_true]
      exact hlt
    · simp [Function.update_of_ne heq, Ne.symm heq]
  cases step_cases hstep with
  | call own url issuer hfree =>
      exact hmoves (by simp [hfree, callBudget])
  | lookup own call hcall hphase =>
      exact hmoves (by simp [hcall, hphase, callBudget])
  | judge own call entry hcall hphase =>
      apply hmoves
      have hle : callBudget (some { call with
          phase := s.judged lib call entry }) ≤ 2 :=
        s.callBudget_judged call entry
      have hbudget : callBudget (s.calls own) = 3 := by
        simp [hcall, hphase, callBudget]
      omega
  | share own call hcall hphase =>
      exact hmoves (by simp [hcall, hphase, callBudget])
  | receive own call result time hcall hphase =>
      exact hmoves (by simp [hcall, hphase, callBudget])
  | cancel own call err hcall hphase =>
      apply hmoves
      rcases hphase with hwaiting | ⟨result, time, hdelivered⟩
      · simp [hcall, hwaiting, callBudget]
      · simp [hcall, hdelivered, callBudget]
  | broadcast key flight result hflight hphase =>
      have hsame : callBudget (s.deliver lib key result id) =
          callBudget (s.calls id) :=
        callBudget_deliver key result id
      simp [CacheEvent.caller, hsame]
  | flightLookup key flight hflight hphase => exact le_refl _
  | flightJudge key flight entry hflight hphase => exact le_refl _
  | fetchDone key flight outcome hflight hphase => exact le_refl _
  | insert key flight crl order hflight hphase horder => exact le_refl _
  | tick elapsed => exact le_refl _
  | close => exact le_refl _

/-! ## No broadcast is lost -/

/-- Every call which waits has an execution in flight under its key; the
calls and the keys are among the given ones. -/
structure Attended (lib : X509Library) (ids : Finset ℕ)
    (keys : Finset String) (s : CacheState) : Prop where
  calls : SupportedBy ids s.calls
  flights : SupportedBy keys s.flights
  callKeys : ∀ id call, s.calls id = some call → call.key lib ∈ keys
  waiting : ∀ id call, s.calls id = some call → call.phase = .waiting →
    s.flights (call.key lib) ≠ none

variable {ids : Finset ℕ} {keys : Finset String} {id : ℕ} {call : Call}

theorem Attended.setCall (h : s.Attended lib ids keys) (hid : id ∈ ids)
    (hkey : call.key lib ∈ keys) (hphase : call.phase ≠ .waiting) :
    (s.setCall id call).Attended lib ids keys where
  calls := h.calls.update fun _ => hid
  flights := h.flights
  callKeys := forall_update_some h.callKeys (by rintro _ ⟨⟩; exact hkey)
  waiting := forall_update_some h.waiting (by
    rintro _ ⟨⟩ hwaiting
    exact absurd hwaiting hphase)

/-- A call which is under way moves to another phase. -/
theorem Attended.moveCall (h : s.Attended lib ids keys)
    (hcall : s.calls id = some call) {phase : CallPhase}
    (hphase : phase ≠ .waiting) :
    (s.setCall id { call with phase := phase }).Attended lib ids keys :=
  h.setCall (h.calls.mem hcall) (h.callKeys id call hcall) hphase

theorem Attended.setFlight (h : s.Attended lib ids keys) {key : String}
    (hkey : key ∈ keys) (flight : Flight) :
    (s.setFlight key (some flight)).Attended lib ids keys where
  calls := h.calls
  flights := h.flights.update fun _ => hkey
  callKeys := h.callKeys
  waiting := by
    intro own call hcall hphase
    by_cases heq : call.key lib = key
    · simp [CacheState.setFlight, heq]
    · simp only [CacheState.setFlight, Function.update_of_ne heq]
      exact h.waiting own call hcall hphase

theorem Attended.moveFlight (h : s.Attended lib ids keys) {key : String}
    {flight : Flight} (hflight : s.flights key = some flight)
    (phase : FlightPhase) :
    (s.setFlight key (some { flight with phase := phase })).Attended lib ids
      keys :=
  h.setFlight (h.flights.mem hflight) _

theorem Attended.of_eq (h : s.Attended lib ids keys)
    (hcalls : s'.calls = s.calls) (hflights : s'.flights = s.flights) :
    s'.Attended lib ids keys := by
  obtain ⟨hids, hkeys, hcallKeys, hwaiting⟩ := h
  constructor
  · rw [hcalls]
    exact hids
  · rw [hflights]
    exact hkeys
  · rw [hcalls]
    exact hcallKeys
  · rw [hcalls, hflights]
    exact hwaiting

/-- A call which joins waits for the execution that it joins or starts. -/
theorem Attended.share (h : s.Attended lib ids keys)
    (hcall : s.calls id = some call) :
    ((s.setCall id { call with phase := .waiting }).setFlight (call.key lib)
      (some (s.shared lib call))).Attended lib ids keys := by
  have hkey := h.callKeys id call hcall
  refine ⟨h.calls.update fun _ => h.calls.mem hcall,
    h.flights.update fun _ => hkey, ?_, ?_⟩
  · exact forall_update_some h.callKeys (by rintro _ ⟨⟩; exact hkey)
  · intro other own hown hwaiting
    by_cases hsame : own.key lib = call.key lib
    · simp [CacheState.setFlight, hsame]
    · have hne : other ≠ id := by
        rintro rfl
        simp only [CacheState.setFlight, CacheState.setCall,
          Function.update_self, Option.some.injEq] at hown
        exact hsame (by rw [← hown]; rfl)
      simp only [CacheState.setFlight, CacheState.setCall,
        Function.update_of_ne hne] at hown
      simp only [CacheState.setFlight, Function.update_of_ne hsame]
      exact h.waiting other own hown hwaiting

/-- A broadcast reaches every call that waits under its key. -/
theorem Attended.broadcast (h : s.Attended lib ids keys) {key : String}
    (result : Except GoError RevocationList)
    (hcalls : s'.calls = s.deliver lib key result)
    (hflights : s'.flights = Function.update s.flights key none) :
    s'.Attended lib ids keys := by
  have hsource : ∀ own after, s'.calls own = some after →
      ∃ before, s.calls own = some before ∧
        after.key lib = before.key lib ∧
        (after.phase = .waiting →
          before.phase = .waiting ∧ before.key lib ≠ key) := by
    intro own after hafter
    rw [hcalls] at hafter
    obtain ⟨before, hbefore, hafter⟩ := Option.map_eq_some_iff.mp hafter
    refine ⟨before, hbefore, ?_⟩
    split at hafter
    next hwaiting =>
      split at hafter
      next hkey =>
        subst hafter
        exact ⟨rfl, by simp⟩
      next hkey =>
        subst hafter
        exact ⟨rfl, fun _ => ⟨hwaiting, hkey⟩⟩
    next hother =>
      subst hafter
      exact ⟨rfl, fun hwaiting => absurd hwaiting hother⟩
  constructor
  · intro own hown
    obtain ⟨after, hafter⟩ := Option.ne_none_iff_exists'.mp hown
    obtain ⟨before, hbefore, -⟩ := hsource own after hafter
    exact h.calls.mem hbefore
  · rw [hflights]
    exact h.flights.update (by simp)
  · intro own after hafter
    obtain ⟨before, hbefore, hkey, -⟩ := hsource own after hafter
    rw [hkey]
    exact h.callKeys own before hbefore
  · intro own after hafter hwaiting
    obtain ⟨before, hbefore, hkey, hstill⟩ := hsource own after hafter
    obtain ⟨hwaited, hother⟩ := hstill hwaiting
    rw [hflights, hkey, Function.update_of_ne hother]
    exact h.waiting own before hbefore hwaited

/-- The calls which an event starts are among the given ones. -/
def StartsWithin (lib : X509Library) (ids : Finset ℕ) (keys : Finset String) :
    CacheEvent → Prop
  | .call id url issuer => id ∈ ids ∧ crlCacheKey lib url issuer ∈ keys
  | _ => True

theorem judged_ne_waiting (call : Call) (entry : Option CrlEntry) :
    s.judged lib call entry ≠ .waiting := by
  unfold judged
  split <;> simp

theorem Attended.step (h : s.Attended lib ids keys) {event : CacheEvent}
    (hstarts : StartsWithin lib ids keys event)
    (hstep : s.step lib event = some s') : s'.Attended lib ids keys := by
  cases step_cases hstep with
  | call id url issuer hfree =>
      exact h.setCall hstarts.1 hstarts.2 (by simp)
  | lookup id call hcall hphase => exact h.moveCall hcall (by simp)
  | judge id call entry hcall hphase =>
      exact h.moveCall hcall (judged_ne_waiting call entry)
  | share id call hcall hphase => exact h.share hcall
  | flightLookup key flight hflight hphase => exact h.moveFlight hflight _
  | flightJudge key flight entry hflight hphase =>
      exact h.moveFlight hflight _
  | fetchDone key flight outcome hflight hphase =>
      exact (h.moveFlight hflight _).of_eq rfl rfl
  | insert key flight crl order hflight hphase horder =>
      exact (h.moveFlight hflight _).of_eq rfl rfl
  | broadcast key flight result hflight hphase =>
      exact h.broadcast result rfl rfl
  | receive id call result time hcall hphase =>
      exact h.moveCall hcall (by simp)
  | cancel id call err hcall hphase => exact h.moveCall hcall (by simp)
  | tick elapsed => exact h.of_eq rfl rfl
  | close => exact h.of_eq rfl rfl

/-! ## The work under way -/

/-- What the calls and the executions of a state have left to do. -/
def cacheWork (ids : Finset ℕ) (keys : Finset String) (s : CacheState) : ℕ :=
  tableWork callWork ids s.calls + tableWork flightWork keys s.flights

theorem cacheWork_moveCall (hmem : id ∈ ids) {call' : Call}
    (hcalls : s'.calls = Function.update s.calls id (some call'))
    (hflights : s'.flights = s.flights)
    (hlt : callWork (some call') < callWork (s.calls id)) :
    cacheWork ids keys s' < cacheWork ids keys s := by
  have hupdate : tableWork callWork ids s'.calls + callWork (s.calls id) =
      tableWork callWork ids s.calls + callWork (some call') := by
    rw [hcalls]
    exact tableWork_update hmem (some call')
  unfold cacheWork
  rw [hflights]
  omega

theorem cacheWork_moveFlight {key : String} (hmem : key ∈ keys)
    {flight' : Flight} (hcalls : s'.calls = s.calls)
    (hflights : s'.flights = Function.update s.flights key (some flight'))
    (hlt : flightWork (some flight') < flightWork (s.flights key)) :
    cacheWork ids keys s' < cacheWork ids keys s := by
  have hupdate : tableWork flightWork keys s'.flights +
      flightWork (s.flights key) =
        tableWork flightWork keys s.flights + flightWork (some flight') := by
    rw [hflights]
    exact tableWork_update hmem (some flight')
  unfold cacheWork
  rw [hcalls]
  omega

theorem flightWork_shared (call : Call) :
    flightWork (some (s.shared lib call)) ≤
      flightWork (s.flights (call.key lib)) + 5 := by
  unfold shared
  cases hflight : s.flights (call.key lib) with
  | none => simp [flightWork]
  | some flight =>
      rw [Option.getD_some]
      exact Nat.le_add_right _ _

/-- A call which joins has paid for the execution that it starts. -/
theorem cacheWork_share (h : s.Attended lib ids keys)
    (hcall : s.calls id = some call) (hphase : call.phase = .missed) :
    cacheWork ids keys ((s.setCall id { call with phase := .waiting }).setFlight
      (call.key lib) (some (s.shared lib call))) < cacheWork ids keys s := by
  have hcalls : tableWork callWork ids (Function.update s.calls id
        (some { call with phase := .waiting })) + callWork (s.calls id) =
      tableWork callWork ids s.calls +
        callWork (some { call with phase := .waiting }) :=
    tableWork_update (h.calls.mem hcall) _
  have hflights : tableWork flightWork keys (Function.update s.flights
        (call.key lib) (some (s.shared lib call))) +
          flightWork (s.flights (call.key lib)) =
      tableWork flightWork keys s.flights +
        flightWork (some (s.shared lib call)) :=
    tableWork_update (h.callKeys id call hcall) _
  have hpaid : flightWork (some (s.shared lib call)) ≤
      flightWork (s.flights (call.key lib)) + 5 :=
    s.flightWork_shared call
  have hmissed : callWork (s.calls id) = 8 := by
    simp [hcall, hphase, callWork]
  have hwaits : callWork (some { call with phase := .waiting }) = 2 := rfl
  simp only [cacheWork, CacheState.setFlight, CacheState.setCall]
  omega

theorem callWork_deliver_le (key : String)
    (result : Except GoError RevocationList) (id : ℕ) :
    callWork (s.deliver lib key result id) ≤ callWork (s.calls id) := by
  unfold deliver
  cases hcall : s.calls id with
  | none => exact le_refl _
  | some call =>
      obtain ⟨url, issuer, startedAt, phase⟩ := call
      cases phase with
      | waiting =>
          by_cases hkey : Call.key lib ⟨url, issuer, startedAt, .waiting⟩ = key
          · simp [hkey, callWork]
          · simp [hkey]
      | _ => exact le_refl _

theorem cacheWork_broadcast (h : s.Attended lib ids keys) {key : String}
    {flight : Flight} {result : Except GoError RevocationList}
    (hflight : s.flights key = some flight)
    (hcalls : s'.calls = s.deliver lib key result)
    (hflights : s'.flights = Function.update s.flights key none)
    (hpositive : 0 < flightWork (some flight)) :
    cacheWork ids keys s' < cacheWork ids keys s := by
  have hupdate : tableWork flightWork keys s'.flights +
      flightWork (s.flights key) =
        tableWork flightWork keys s.flights + flightWork none := by
    rw [hflights]
    exact tableWork_update (h.flights.mem hflight) none
  have hdelivered : tableWork callWork ids s'.calls ≤
      tableWork callWork ids s.calls := by
    rw [hcalls]
    exact Finset.sum_le_sum fun id _ => callWork_deliver_le key result id
  have hnone : flightWork none = 0 := rfl
  rw [hflight] at hupdate
  unfold cacheWork
  omega

theorem callWork_judged (call : Call) (entry : Option CrlEntry) :
    callWork (some { call with phase := s.judged lib call entry }) ≤ 8 := by
  unfold judged
  split <;> simp [callWork]

theorem flightWork_judged (flight : Flight) (entry : Option CrlEntry) :
    flightWork (some { flight with
      phase := s.flightJudged lib flight entry }) ≤ 3 := by
  unfold flightJudged
  split <;> simp [flightWork]

theorem flightWork_fetchJudged (flight : Flight)
    (outcome : Except GoError (List UInt8)) :
    flightWork (some { flight with
      phase := fetchJudged lib flight outcome }) ≤ 2 := by
  cases outcome with
  | error err => simp [fetchJudged, flightWork]
  | ok data =>
      cases hvalid : validateCRL lib flight.url flight.issuer data <;>
        simp [fetchJudged, hvalid, flightWork]

theorem cacheWork_driven {outcomes : String → Except GoError (List UInt8)}
    (h : s.Attended lib ids keys) {event : CacheEvent}
    (hdriven : event.Driven outcomes)
    (hstep : s.step lib event = some s') :
    cacheWork ids keys s' < cacheWork ids keys s := by
  cases step_cases hstep with
  | call id url issuer hfree => exact hdriven.elim
  | lookup id call hcall hphase =>
      refine cacheWork_moveCall (h.calls.mem hcall) rfl rfl ?_
      simp [hcall, hphase, callWork]
  | judge id call entry hcall hphase =>
      refine cacheWork_moveCall (h.calls.mem hcall) rfl rfl ?_
      have hlooked : callWork (s.calls id) = 9 := by
        simp [hcall, hphase, callWork]
      rw [hlooked]
      exact Nat.lt_succ_of_le (callWork_judged call entry)
  | share id call hcall hphase => exact cacheWork_share h hcall hphase
  | flightLookup key flight hflight hphase =>
      refine cacheWork_moveFlight (h.flights.mem hflight) rfl rfl ?_
      simp [hflight, hphase, flightWork]
  | flightJudge key flight entry hflight hphase =>
      refine cacheWork_moveFlight (h.flights.mem hflight) rfl rfl ?_
      have hlooked : flightWork (s.flights key) = 4 := by
        simp [hflight, hphase, flightWork]
      rw [hlooked]
      exact Nat.lt_succ_of_le (flightWork_judged flight entry)
  | fetchDone key flight outcome hflight hphase =>
      refine cacheWork_moveFlight (h.flights.mem hflight) rfl rfl ?_
      have hfetching : flightWork (s.flights key) = 3 := by
        simp [hflight, hphase, flightWork]
      rw [hfetching]
      exact Nat.lt_succ_of_le (flightWork_fetchJudged flight outcome)
  | insert key flight crl order hflight hphase horder =>
      refine cacheWork_moveFlight (h.flights.mem hflight) rfl rfl ?_
      simp [hflight, hphase, flightWork]
  | broadcast key flight result hflight hphase =>
      refine cacheWork_broadcast h hflight rfl rfl ?_
      simp [hphase, flightWork]
  | receive id call result time hcall hphase =>
      refine cacheWork_moveCall (h.calls.mem hcall) rfl rfl ?_
      simp [hcall, hphase, callWork]
  | cancel id call err hcall hphase => exact hdriven.elim
  | tick elapsed => exact hdriven.elim
  | close => exact hdriven.elim

/-! ## No party is stuck -/

section Driven

variable (lib) (outcomes : String → Except GoError (List UInt8))

theorem exists_flight_step {key : String} {flight : Flight}
    (hflight : s.flights key = some flight) :
    ∃ event : CacheEvent, event.Driven outcomes ∧
      (s.step lib event).isSome := by
  obtain ⟨url, issuer, startedAt, phase⟩ := flight
  cases phase with
  | started =>
      exact ⟨.flightLookup key, trivial, by simp [CacheState.step, hflight]⟩
  | looked entry =>
      exact ⟨.flightJudge key, trivial, by simp [CacheState.step, hflight]⟩
  | fetching =>
      exact ⟨.fetchDone key (outcomes key), rfl,
        by simp [CacheState.step, hflight]⟩
  | accepted crl =>
      exact ⟨.insert key s.entries.keys, trivial,
        by simp [CacheState.step, hflight]⟩
  | finished result =>
      exact ⟨.broadcast key, trivial, by simp [CacheState.step, hflight]⟩

/-- A call can take its next step, or the execution it waits for can. -/
theorem exists_call_step (h : s.Attended lib ids keys)
    (hcall : s.calls id = some call) (hleft : ¬ call.phase.Done) :
    ∃ event : CacheEvent, event.Driven outcomes ∧
      (s.step lib event).isSome := by
  have hwaits := h.waiting id call hcall
  obtain ⟨url, issuer, startedAt, phase⟩ := call
  cases phase with
  | started => exact ⟨.lookup id, trivial, by simp [CacheState.step, hcall]⟩
  | looked entry =>
      exact ⟨.judge id, trivial, by simp [CacheState.step, hcall]⟩
  | missed => exact ⟨.share id, trivial, by simp [CacheState.step, hcall]⟩
  | waiting =>
      obtain ⟨flight, hflight⟩ := Option.ne_none_iff_exists'.mp (hwaits rfl)
      exact exists_flight_step lib outcomes hflight
  | delivered result time =>
      exact ⟨.receive id, trivial, by simp [CacheState.step, hcall]⟩
  | returned result time => exact absurd trivial hleft

end Driven

/-- All calls have returned, and no execution is in flight. -/
structure AtRest (s : CacheState) : Prop where
  calls : ∀ id call, s.calls id = some call → call.phase.Done
  flights : ∀ key, s.flights key = none

theorem exists_driven_step (outcomes : String → Except GoError (List UInt8))
    (h : s.Attended lib ids keys) (hbusy : ¬ s.AtRest) :
    ∃ event : CacheEvent, event.Driven outcomes ∧
      (s.step lib event).isSome := by
  by_contra hstuck
  apply hbusy
  constructor
  · intro id call hcall
    by_contra hleft
    exact hstuck (exists_call_step lib outcomes h hcall hleft)
  · intro key
    by_contra hflight
    obtain ⟨flight, hflight⟩ := Option.ne_none_iff_exists'.mp hflight
    exact hstuck (exists_flight_step lib outcomes hflight)

theorem isSome_of_driven {outcomes : String → Except GoError (List UInt8)}
    {event : CacheEvent} (hdriven : event.Driven outcomes)
    (hstep : s.step lib event = some s') (id : ℕ) :
    (s'.calls id).isSome = (s.calls id).isSome := by
  have hmoved : ∀ {own : ℕ} {before after : Call},
      s.calls own = some before →
      (Function.update s.calls own (some after) id).isSome =
        (s.calls id).isSome := by
    intro own before after hbefore
    by_cases heq : id = own
    · subst heq
      simp [hbefore]
    · rw [Function.update_of_ne heq]
  cases step_cases hstep with
  | call own url issuer hfree => exact hdriven.elim
  | lookup own call hcall hphase => exact hmoved hcall
  | judge own call entry hcall hphase => exact hmoved hcall
  | share own call hcall hphase => exact hmoved hcall
  | receive own call result time hcall hphase => exact hmoved hcall
  | cancel own call err hcall hphase => exact hmoved hcall
  | broadcast key flight result hflight hphase =>
      simp [CacheState.deliver]
  | flightLookup key flight hflight hphase => rfl
  | flightJudge key flight entry hflight hphase => rfl
  | fetchDone key flight outcome hflight hphase => rfl
  | insert key flight crl order hflight hphase horder => rfl
  | tick elapsed => rfl
  | close => rfl

/-! ## Whole runs -/

/-- The calls which a list of events starts. -/
def startedCalls (events : List CacheEvent) : Finset ℕ :=
  (events.filterMap CacheEvent.caller).toFinset

/-- The key under which an event starts a call. -/
def startedKey (lib : X509Library) : CacheEvent → Option String
  | .call _ url issuer => some (crlCacheKey lib url issuer)
  | _ => none

def startedKeys (lib : X509Library) (events : List CacheEvent) :
    Finset String :=
  (events.filterMap (startedKey lib)).toFinset

theorem Attended.of_run {clock : Int} {events : List CacheEvent}
    (hrun : runSteps (CacheState.step lib) (newCRLCache clock) events =
      some s) :
    s.Attended lib (startedCalls events) (startedKeys lib events) := by
  have hinit : (newCRLCache clock).Attended lib (startedCalls events)
      (startedKeys lib events) :=
    ⟨by simp [SupportedBy, newCRLCache], by simp [SupportedBy, newCRLCache],
      by simp [newCRLCache], by simp [newCRLCache]⟩
  apply runSteps_invariant _ hinit hrun
  intro t event t' hmem hattended hstep
  refine hattended.step ?_ hstep
  cases event with
  | call id url issuer =>
      exact ⟨List.mem_toFinset.mpr (List.mem_filterMap.mpr ⟨_, hmem, rfl⟩),
        List.mem_toFinset.mpr (List.mem_filterMap.mpr ⟨_, hmem, rfl⟩)⟩
  | _ => trivial

end CacheState

/-- Whatever the order of the steps and the cancellations: a call which waits
has an execution in flight under its key, no call takes more than five steps,
and whatever the fetches return from here on, all calls under way can return,
after which no execution is in flight. -/
theorem crlCache_progress (lib : X509Library) (clock : Int)
    (events : List CacheEvent) (s : CacheState)
    (hrun : runSteps (CacheState.step lib) (newCRLCache clock) events =
      some s) :
    (∀ id call, s.calls id = some call → call.phase = .waiting →
      ∃ flight, s.flights (call.key lib) = some flight) ∧
    (∀ id, (events.countP fun event => event.caller = some id) ≤ 5) ∧
    ∀ outcomes, ∃ more s',
      (∀ event ∈ more, event.Driven outcomes) ∧
      runSteps (CacheState.step lib) s more = some s' ∧ s'.AtRest ∧
      ∀ id, (s'.calls id).isSome = (s.calls id).isSome := by
  have hattended := CacheState.Attended.of_run hrun
  refine ⟨?_, ?_, ?_⟩
  · intro id call hcall hwaiting
    exact Option.ne_none_iff_exists'.mp
      (hattended.waiting id call hcall hwaiting)
  · intro id
    have hbudget : ∀ (t : CacheState) event t',
        t.step lib event = some t' →
        callBudget (t'.calls id) +
            (if decide (event.caller = some id) then 1 else 0) ≤
          callBudget (t.calls id) := by
      intro t event t' hstep
      simpa using CacheState.step_callBudget hstep id
    have hcount := runSteps_countP _ _ hbudget hrun
    simp only [newCRLCache, callBudget] at hcount
    omega
  · intro outcomes
    let ids := CacheState.startedCalls events
    let keys := CacheState.startedKeys lib events
    let reached : CacheState → Prop := fun t => t.Attended lib ids keys ∧
      ∀ id, (t.calls id).isSome = (s.calls id).isSome
    have hprogress : ∀ t, reached t → ¬ t.AtRest →
        ∃ event t', CacheEvent.Driven outcomes event ∧
          t.step lib event = some t' ∧ reached t' ∧
          CacheState.cacheWork ids keys t' < CacheState.cacheWork ids keys t := by
      rintro t ⟨hattended, hsame⟩ hbusy
      obtain ⟨event, hdriven, hstep⟩ :=
        CacheState.exists_driven_step outcomes hattended hbusy
      obtain ⟨t', hstep⟩ := Option.isSome_iff_exists.mp hstep
      refine ⟨event, t', hdriven, hstep, ⟨hattended.step ?_ hstep, ?_⟩,
        CacheState.cacheWork_driven hattended hdriven hstep⟩
      · cases event with
        | call id url issuer => exact hdriven.elim
        | _ => trivial
      · intro id
        rw [CacheState.isSome_of_driven hdriven hstep, hsame]
    obtain ⟨more, s', hdriven, -, hmore, ⟨-, hsame⟩, hrest⟩ :=
      exists_run_to_rest hprogress ⟨hattended, fun _ => rfl⟩
    exact ⟨more, s', hdriven, hmore, hrest, hsame⟩

/-- A call waits for a fetch which is under way, and which then fails. -/
theorem crlCache_progress_lateCall :
    ∃ s more s', runSteps (CacheState.step shortLivedLists) (newCRLCache 0)
        (lateCall.take 6) = some s ∧
      runSteps (CacheState.step shortLivedLists) s more = some s' ∧
      s'.AtRest := by
  have hsome : (runSteps (CacheState.step shortLivedLists) (newCRLCache 0)
      (lateCall.take 6)).isSome = true := by decide
  obtain ⟨s, hrun⟩ := Option.isSome_iff_exists.mp hsome
  obtain ⟨-, -, hends⟩ := crlCache_progress shortLivedLists 0 _ s hrun
  obtain ⟨more, s', -, hmore, hrest, -⟩ :=
    hends fun _ => .error (.new "connection refused")
  exact ⟨s, more, s', hrun, hmore, hrest⟩

end VerifierApi

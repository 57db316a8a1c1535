import VerifierApi.CrlCacheSafety

/-!
# Cancellation of the calls

A call whose context ends stops waiting; the execution it shares goes on.
The run is compared with the run of the same steps in which nobody is
cancelled: the cache, the executions and all other calls are the same at the
end of both.
-/

namespace VerifierApi

def CacheEvent.isCancel : CacheEvent → Bool
  | .cancel _ _ => true
  | _ => false

/-- The same steps, with nobody cancelled. -/
def withoutCancellations (events : List CacheEvent) : List CacheEvent :=
  events.filter fun event => !event.isCancel

namespace CacheState

/-! ## Two runs -/

/-- The phases in which a call waits for the result of an execution. -/
def Awaiting : CallPhase → Prop
  | .waiting => True
  | .delivered _ _ => True
  | _ => False

/-- A call which was cancelled in the first run still waits in the second
one. -/
def Abandoned (call call' : Option Call) : Prop :=
  ∃ url issuer startedAt phase result time,
    call = some ⟨url, issuer, startedAt, .returned result time⟩ ∧
    call' = some ⟨url, issuer, startedAt, phase⟩ ∧ Awaiting phase

structure Parallel (cancelled : ℕ → Prop) (s s' : CacheState) : Prop where
  entries : s'.entries = s.entries
  clock : s'.clock = s.clock
  flights : s'.flights = s.flights
  fetched : s'.fetched = s.fetched
  inserted : s'.inserted = s.inserted
  broadcasts : s'.broadcasts = s.broadcasts
  calls : ∀ id, s'.calls id = s.calls id ∨
    (cancelled id ∧ Abandoned (s.calls id) (s'.calls id))

variable {lib : X509Library} {cancelled : ℕ → Prop} {s s' t t' : CacheState}

theorem Parallel.calls_eq (h : Parallel cancelled s s') {id : ℕ}
    {call : Call} (hcall : s.calls id = some call)
    (hphase : ∀ result time, call.phase ≠ .returned result time) :
    s'.calls id = some call := by
  rcases h.calls id with heq | ⟨-, url, issuer, startedAt, phase, result,
    time, hold, -⟩
  · rw [heq, hcall]
  · obtain rfl := Option.some.inj (hcall.symm.trans hold)
    exact absurd rfl (hphase result time)

theorem Parallel.calls_eq_none (h : Parallel cancelled s s') {id : ℕ}
    (hcall : s.calls id = none) : s'.calls id = none := by
  rcases h.calls id with heq | ⟨-, url, issuer, startedAt, phase, result,
    time, hold, -⟩
  · rw [heq, hcall]
  · simp [hcall] at hold

theorem Parallel.flights_eq (h : Parallel cancelled s s') {key : String}
    {flight : Flight} (hflight : s.flights key = some flight) :
    s'.flights key = some flight := by
  rw [h.flights, hflight]

theorem Parallel.judged_eq (h : Parallel cancelled s s') (call : Call)
    (entry : Option CrlEntry) :
    s'.judged lib call entry = s.judged lib call entry := by
  unfold judged
  rw [h.clock]

theorem Parallel.flightJudged_eq (h : Parallel cancelled s s')
    (flight : Flight) (entry : Option CrlEntry) :
    s'.flightJudged lib flight entry = s.flightJudged lib flight entry := by
  unfold flightJudged
  rw [h.clock]

theorem Parallel.shared_eq (h : Parallel cancelled s s') (call : Call) :
    s'.shared lib call = s.shared lib call := by
  unfold CacheState.shared
  rw [h.flights, h.clock]

theorem Parallel.logFetch_eq (h : Parallel cancelled s s') (url : String)
    (outcome : Except GoError (List UInt8)) :
    s'.logFetch url outcome = s.logFetch url outcome := by
  cases outcome with
  | error err => exact h.fetched
  | ok data => simp only [logFetch, h.clock, h.fetched]

theorem Parallel.update (h : Parallel cancelled s s') (id : ℕ)
    (call : Option Call) (other : ℕ) :
    Function.update s'.calls id call other =
        Function.update s.calls id call other ∨
      (cancelled other ∧
        Abandoned (Function.update s.calls id call other)
          (Function.update s'.calls id call other)) := by
  by_cases hother : other = id
  · subst hother
    simp
  · simpa only [Function.update_of_ne hother] using h.calls other

theorem Parallel.setCall (h : Parallel cancelled s s') (id : ℕ)
    (call : Call) :
    Parallel cancelled (s.setCall id call) (s'.setCall id call) :=
  ⟨h.entries, h.clock, h.flights, h.fetched, h.inserted, h.broadcasts,
    h.update id (some call)⟩

theorem Parallel.setFlight (h : Parallel cancelled s s') (key : String)
    (flight : Option Flight) :
    Parallel cancelled (s.setFlight key flight)
      (s'.setFlight key flight) where
  entries := h.entries
  clock := h.clock
  flights := by simp only [CacheState.setFlight, h.flights]
  fetched := h.fetched
  inserted := h.inserted
  broadcasts := h.broadcasts
  calls := h.calls

/-- A result reaches a call that waits in the second run only, which goes on
waiting for itself. -/
theorem Parallel.deliver (h : Parallel cancelled s s') (key : String)
    (result : Except GoError RevocationList) (id : ℕ) :
    s'.deliver lib key result id = s.deliver lib key result id ∨
      (cancelled id ∧ Abandoned (s.deliver lib key result id)
        (s'.deliver lib key result id)) := by
  rcases h.calls id with heq | ⟨hcancelled, url, issuer, startedAt, phase,
    old, time, hold, hnew, hphase⟩
  · left
    simp only [CacheState.deliver, heq, h.clock]
  · right
    refine ⟨hcancelled, ?_⟩
    simp only [CacheState.deliver, hold, hnew, Option.map_some]
    cases phase with
    | waiting =>
        by_cases hkey : (⟨url, issuer, startedAt, .waiting⟩ : Call).key lib =
            key
        · simp only [hkey, if_true]
          exact ⟨url, issuer, startedAt, _, old, time, rfl, rfl, trivial⟩
        · simp only [hkey, if_false]
          exact ⟨url, issuer, startedAt, _, old, time, rfl, rfl, trivial⟩
    | delivered =>
        exact ⟨url, issuer, startedAt, _, old, time, rfl, rfl, trivial⟩
    | _ => exact absurd hphase not_false

/-- A step which is no cancellation is taken in both runs. -/
theorem Parallel.step (h : Parallel cancelled s s') {event : CacheEvent}
    (hevent : event.isCancel = false)
    (hstep : s.step lib event = some t) :
    ∃ t', s'.step lib event = some t' ∧ Parallel cancelled t t' := by
  cases CacheState.step_cases hstep with
  | call id url issuer hfree =>
      refine ⟨_, (CacheStep.call id url issuer
        (h.calls_eq_none hfree)).step_eq, ?_⟩
      rw [h.clock]
      exact h.setCall id _
  | lookup id call hcall hphase =>
      have hcall' := h.calls_eq hcall (by simp [hphase])
      refine ⟨_, (CacheStep.lookup id call hcall' hphase).step_eq, ?_⟩
      rw [h.entries]
      exact h.setCall id _
  | judge id call entry hcall hphase =>
      have hcall' := h.calls_eq hcall (by simp [hphase])
      refine ⟨_, (CacheStep.judge id call entry hcall' hphase).step_eq, ?_⟩
      rw [h.judged_eq]
      exact h.setCall id _
  | share id call hcall hphase =>
      have hcall' := h.calls_eq hcall (by simp [hphase])
      refine ⟨_, (CacheStep.share id call hcall' hphase).step_eq, ?_⟩
      rw [h.shared_eq]
      exact (h.setCall id _).setFlight _ _
  | flightLookup key flight hflight hphase =>
      have hflight' := h.flights_eq hflight
      refine ⟨_, (CacheStep.flightLookup key flight hflight'
        hphase).step_eq, ?_⟩
      rw [h.entries]
      exact h.setFlight key _
  | flightJudge key flight entry hflight hphase =>
      have hflight' := h.flights_eq hflight
      refine ⟨_, (CacheStep.flightJudge key flight entry hflight'
        hphase).step_eq, ?_⟩
      rw [h.flightJudged_eq]
      exact h.setFlight key _
  | fetchDone key flight outcome hflight hphase =>
      have hflight' := h.flights_eq hflight
      refine ⟨_, (CacheStep.fetchDone key flight outcome hflight'
        hphase).step_eq, ?_⟩
      have hset := h.setFlight key (some { flight with
        phase := fetchJudged lib flight outcome })
      exact ⟨hset.entries, hset.clock, hset.flights,
        h.logFetch_eq flight.url outcome, hset.inserted, hset.broadcasts,
        hset.calls⟩
  | insert key flight crl order hflight hphase horder =>
      have hflight' := h.flights_eq hflight
      have horder' : order.Perm s'.entries.keys := by
        rw [h.entries]
        exact horder
      refine ⟨_, (CacheStep.insert key flight crl order hflight' hphase
        horder').step_eq, ?_⟩
      have hset := h.setFlight key (some { flight with
        phase := .finished (.ok crl) })
      refine ⟨?_, hset.clock, hset.flights, hset.fetched, ?_,
        hset.broadcasts, hset.calls⟩
      · simp only [h.entries, h.clock]
      · simp only [h.inserted, h.clock]
  | broadcast key flight result hflight hphase =>
      have hflight' := h.flights_eq hflight
      refine ⟨_, (CacheStep.broadcast key flight result hflight'
        hphase).step_eq, ?_⟩
      have hset := h.setFlight key none
      refine ⟨hset.entries, hset.clock, hset.flights, hset.fetched,
        hset.inserted, ?_, h.deliver key result⟩
      simp only [h.broadcasts, h.clock]
  | receive id call result time hcall hphase =>
      have hcall' := h.calls_eq hcall (by simp [hphase])
      refine ⟨_, (CacheStep.receive id call result time hcall'
        hphase).step_eq, ?_⟩
      rw [h.clock]
      exact h.setCall id _
  | cancel id call err hcall hphase => simp [CacheEvent.isCancel] at hevent
  | tick elapsed =>
      refine ⟨_, (CacheStep.tick elapsed).step_eq, ?_⟩
      refine ⟨h.entries, ?_, h.flights, h.fetched, h.inserted,
        h.broadcasts, h.calls⟩
      simp only [h.clock]
  | close =>
      exact ⟨_, CacheStep.close.step_eq, rfl, h.clock, h.flights, h.fetched,
        h.inserted, h.broadcasts, h.calls⟩

theorem Parallel.cancel (h : Parallel cancelled s s') {id : ℕ}
    {err : ContextError} (hid : cancelled id)
    (hstep : s.step lib (.cancel id err) = some t) :
    Parallel cancelled t s' := by
  cases CacheState.step_cases hstep with
  | cancel _ call _ hcall hphase =>
      have hawaiting : Awaiting call.phase := by
        rcases hphase with hwaiting | ⟨result, time, hdelivered⟩
        · rw [hwaiting]
          trivial
        · rw [hdelivered]
          trivial
      have hcall' : s'.calls id = some call := by
        apply h.calls_eq hcall
        intro result time hreturned
        rw [hreturned] at hawaiting
        exact hawaiting
      refine ⟨h.entries, h.clock, h.flights, h.fetched, h.inserted,
        h.broadcasts, ?_⟩
      intro other
      by_cases hother : other = id
      · subst hother
        right
        refine ⟨hid, call.url, call.issuer, call.startedAt, call.phase, _, _,
          Function.update_self .., hcall', hawaiting⟩
      · have hsame := h.calls other
        simpa only [CacheState.setCall, Function.update_of_ne hother] using
          hsame

/-- A run and the same run with nobody cancelled. -/
theorem parallel_withoutCancellations {events : List CacheEvent}
    (hcancelled : ∀ id err, .cancel id err ∈ events → cancelled id)
    (hrun : runSteps (CacheState.step lib) s events = some t) :
    ∃ t', runSteps (CacheState.step lib) s (withoutCancellations events) =
      some t' ∧ Parallel cancelled t t' := by
  have hsame : Parallel cancelled s s :=
    ⟨rfl, rfl, rfl, rfl, rfl, rfl, fun _ => .inl rfl⟩
  apply runSteps_filter _ _ hsame hrun
  · intro u v u' event _ hkeep hparallel hstep
    exact hparallel.step (by simpa using hkeep) hstep
  · intro u v u' event hmem hskip hparallel hstep
    cases event with
    | cancel id err => exact hparallel.cancel (hcancelled id err hmem) hstep
    | _ => simp [CacheEvent.isCancel] at hskip

/-! ## Where an answer comes from -/

variable (lib) in
/-- An execution under the key of the call handed out the result. -/
def Shared (s : CacheState) (call : Call)
    (result : Except GoError RevocationList) : Prop :=
  ∃ broadcast ∈ s.broadcasts,
    crlCacheKey lib broadcast.flight.url broadcast.flight.issuer =
      call.key lib ∧
    broadcast.flight.phase = .finished result

variable (lib) in
/-- A call returns with its own context, from the cache, or with the shared
result. -/
def Answered (events : List CacheEvent) (s : CacheState) (id : ℕ)
    (call : Call) (result : Except GoError RevocationList) : Prop :=
  (∃ err, .cancel id err ∈ events ∧
    result = .error err.toExternal.toGoError) ∨
  (∃ entry now, cachedFresh lib now call.issuer entry = result.map some) ∨
  ∃ shared, s.Shared lib call shared ∧
    result = shared.bind (receiveCRL lib call.issuer)

variable (lib) in
def CallOrigin (events : List CacheEvent) (s : CacheState) (id : ℕ)
    (call : Call) : CallPhase → Prop
  | .delivered result _ => s.Shared lib call result
  | .returned result _ => s.Answered lib events id call result
  | _ => True

variable (lib) in
structure Origins (events : List CacheEvent) (s : CacheState) : Prop where
  keys : ∀ key flight, s.flights key = some flight →
    key = crlCacheKey lib flight.url flight.issuer
  calls : ∀ id call, s.calls id = some call →
    s.CallOrigin lib events id call call.phase

variable {events : List CacheEvent} {id : ℕ} {call : Call}

theorem Shared.mono (hgrows : s.broadcasts ⊆ s'.broadcasts)
    {result : Except GoError RevocationList} (h : s.Shared lib call result) :
    s'.Shared lib call result := by
  obtain ⟨broadcast, hmem, hkey, hphase⟩ := h
  exact ⟨broadcast, hgrows hmem, hkey, hphase⟩

theorem CallOrigin.mono (hgrows : s.broadcasts ⊆ s'.broadcasts)
    {phase : CallPhase} (h : s.CallOrigin lib events id call phase) :
    s'.CallOrigin lib events id call phase := by
  cases phase with
  | delivered result time => exact Shared.mono hgrows h
  | returned result time =>
      rcases h with hcancel | hhit | ⟨shared, hshared, hresult⟩
      · exact .inl hcancel
      · exact .inr (.inl hhit)
      · exact .inr (.inr ⟨shared, hshared.mono hgrows, hresult⟩)
  | _ => trivial

theorem judged_origin (entry : Option CrlEntry) :
    s.CallOrigin lib events id call (s.judged lib call entry) := by
  unfold judged
  split
  next err hhit => exact .inr (.inl ⟨entry, s.clock, hhit⟩)
  next crl hhit => exact .inr (.inl ⟨entry, s.clock, hhit⟩)
  next => trivial

theorem Origins.setCall (h : s.Origins lib events)
    (hcall : s.CallOrigin lib events id call call.phase) :
    (s.setCall id call).Origins lib events := by
  refine ⟨h.keys, ?_⟩
  apply forall_update_some h.calls
  rintro _ ⟨⟩
  exact hcall

theorem Origins.moveFlight (h : s.Origins lib events)
    (hcalls : s'.calls = s.calls) (hbroadcasts : s'.broadcasts = s.broadcasts)
    {key : String} {flight : Flight}
    (hflights : s'.flights = Function.update s.flights key (some flight))
    (hkey : key = crlCacheKey lib flight.url flight.issuer) :
    s'.Origins lib events := by
  constructor
  · rw [hflights]
    apply forall_update_some h.keys
    rintro _ ⟨⟩
    exact hkey
  · intro id call hcall
    rw [hcalls] at hcall
    apply (h.calls id call hcall).mono
    rw [hbroadcasts]
    exact fun _ hmem => hmem

theorem Origins.share (h : s.Origins lib events) :
    ((s.setCall id { call with phase := .waiting }).setFlight (call.key lib)
      (some (s.shared lib call))).Origins lib events := by
  have hset : (s.setCall id { call with phase := .waiting }).Origins lib
      events := h.setCall trivial
  refine hset.moveFlight rfl rfl rfl ?_
  unfold CacheState.shared
  cases hflight : s.flights (call.key lib) with
  | none => rfl
  | some flight => exact h.keys _ flight hflight

theorem Origins.deliver (h : s.Origins lib events) {key : String}
    {flight : Flight} {result : Except GoError RevocationList}
    (hflight : s.flights key = some flight)
    (hphase : flight.phase = .finished result) :
    ({ s.setFlight key none with
      calls := s.deliver lib key result
      broadcasts := ⟨flight, s.clock⟩ :: s.broadcasts } :
        CacheState).Origins lib events := by
  have hgrows : s.broadcasts ⊆ ⟨flight, s.clock⟩ :: s.broadcasts :=
    List.subset_cons_self _ _
  constructor
  · apply forall_update_some h.keys
    simp
  · intro id call hcall
    obtain ⟨before, hbefore, hafter⟩ := Option.map_eq_some_iff.mp hcall
    have horigin := h.calls id before hbefore
    split at hafter
    next hwaiting =>
      split at hafter
      next hkey =>
        subst hafter
        have hown := h.keys key flight hflight
        exact ⟨⟨flight, s.clock⟩, List.mem_cons_self,
          hown.symm.trans hkey.symm, hphase⟩
      next =>
        subst hafter
        exact horigin.mono hgrows
    next =>
      subst hafter
      exact horigin.mono hgrows

theorem Origins.step {event : CacheEvent} (h : s.Origins lib events)
    (hmem : event ∈ events) (hstep : s.step lib event = some s') :
    s'.Origins lib events := by
  cases CacheState.step_cases hstep with
  | call id url issuer hfree => exact h.setCall trivial
  | lookup id call hcall hphase => exact h.setCall trivial
  | judge id call entry hcall hphase => exact h.setCall (judged_origin entry)
  | share id call hcall hphase => exact h.share
  | flightLookup key flight hflight hphase =>
      exact h.moveFlight rfl rfl rfl (h.keys key flight hflight)
  | flightJudge key flight entry hflight hphase =>
      exact h.moveFlight rfl rfl rfl (h.keys key flight hflight)
  | fetchDone key flight outcome hflight hphase =>
      exact h.moveFlight rfl rfl rfl (h.keys key flight hflight)
  | insert key flight crl order hflight hphase horder =>
      exact h.moveFlight rfl rfl rfl (h.keys key flight hflight)
  | broadcast key flight result hflight hphase =>
      exact h.deliver hflight hphase
  | receive id call result time hcall hphase =>
      have hshared := h.calls id call hcall
      rw [hphase] at hshared
      exact h.setCall (.inr (.inr ⟨result, hshared, rfl⟩))
  | cancel id call err hcall hphase =>
      exact h.setCall (.inl ⟨err, hmem, rfl⟩)
  | tick elapsed => exact ⟨h.keys, h.calls⟩
  | close => exact ⟨h.keys, h.calls⟩

theorem Origins.of_run {clock : Int}
    (hrun : runSteps (CacheState.step lib) (newCRLCache clock) events =
      some s) :
    s.Origins lib events := by
  have hinit : (newCRLCache clock).Origins lib events :=
    ⟨by simp [newCRLCache], by simp [newCRLCache]⟩
  apply runSteps_invariant _ hinit hrun
  intro t event t' hmem horigins hstep
  exact horigins.step hmem hstep

/-! ## The execution goes on -/

/-- An execution which has accepted a list keeps it until the insertion. -/
theorem flights_of_accepted {event : CacheEvent} {key : String}
    {flight : Flight} {crl : RevocationList}
    (hstep : s.step lib event = some s')
    (hevent : ∀ order, event ≠ .insert key order)
    (hflight : s.flights key = some flight)
    (hphase : flight.phase = .accepted crl) :
    event ≠ .broadcast key ∧ s'.flights key = some flight := by
  have hkey : flightKey event ≠ some key := by
    intro hkey
    cases CacheState.step_cases hstep with
    | insert key' flight' crl' order hflight' hphase' horder =>
        exact hevent order
          (congrArg (CacheEvent.insert · order) (Option.some.inj hkey))
    | broadcast _ _ _ hflight' hphase' => simp_all [flightKey]
    | flightLookup _ _ hflight' hphase' => simp_all [flightKey]
    | flightJudge _ _ _ hflight' hphase' => simp_all [flightKey]
    | fetchDone _ _ _ hflight' hphase' => simp_all [flightKey]
    | _ => simp [flightKey] at hkey
  refine ⟨?_, flights_of_other hstep hkey hflight⟩
  rintro rfl
  exact hkey rfl

theorem flights_of_accepted_run {key : String} {flight : Flight}
    {crl : RevocationList}
    (hrun : runSteps (CacheState.step lib) s events = some s')
    (hevents : ∀ order, .insert key order ∉ events)
    (hflight : s.flights key = some flight)
    (hphase : flight.phase = .accepted crl) :
    .broadcast key ∉ events ∧ s'.flights key = some flight := by
  induction events generalizing s with
  | nil =>
      obtain rfl : s = s' := by simpa [runSteps] using hrun
      exact ⟨List.not_mem_nil, hflight⟩
  | cons event rest ih =>
      obtain ⟨next, hnext, hrest⟩ := runSteps_cons.mp hrun
      have hevent : ∀ order, event ≠ .insert key order := by
        rintro order rfl
        exact hevents order List.mem_cons_self
      obtain ⟨hne, hkept⟩ := flights_of_accepted hnext hevent hflight hphase
      obtain ⟨hrestNe, hfinal⟩ := ih hrest
        (fun order hmem => hevents order (List.mem_cons_of_mem _ hmem)) hkept
      refine ⟨?_, hfinal⟩
      rw [List.mem_cons]
      rintro (hhead | htail)
      · exact hne hhead.symm
      · exact hrestNe htail

/-- The insertion of an accepted list waits for nobody. -/
theorem insert_enabled {key : String} {flight : Flight}
    {crl : RevocationList} (hflight : s.flights key = some flight)
    (hphase : flight.phase = .accepted crl) {order : List String}
    (horder : order.Perm s.entries.keys) :
    ∃ s', s.step lib (.insert key order) = some s' ∧
      s'.entries.lookup key = some ⟨crl, s.clock⟩ := by
  refine ⟨_, (CacheStep.insert key flight crl order hflight hphase
    horder).step_eq, ?_⟩
  simp [insertEntry]

end CacheState

/-- Whoever is cancelled, and whenever: a call returns an error of its own
context only if it was cancelled itself, every other call ends as in the run
in which nobody is cancelled, and a list which the shared fetch yields is
inserted before anything is handed out. -/
theorem cancellation_isolated (lib : X509Library) (clock : Int)
    (events : List CacheEvent) (s : CacheState)
    (hrun : runSteps (CacheState.step lib) (newCRLCache clock) events =
      some s) :
    (∀ id call result time, s.calls id = some call →
      call.phase = .returned result time →
      (∃ err, .cancel id err ∈ events ∧
        result = .error err.toExternal.toGoError) ∨
      (∃ entry now, cachedFresh lib now call.issuer entry = result.map some) ∨
      ∃ shared, s.Shared lib call shared ∧
        result = shared.bind (receiveCRL lib call.issuer)) ∧
    (∃ s', runSteps (CacheState.step lib) (newCRLCache clock)
        (withoutCancellations events) = some s' ∧
      s'.entries = s.entries ∧ s'.flights = s.flights ∧
      s'.broadcasts = s.broadcasts ∧
      ∀ id, (∀ err, .cancel id err ∉ events) →
        s'.calls id = s.calls id) ∧
    (∀ before key data after t t' flight crl,
      events = before ++ .fetchDone key (.ok data) :: after →
      runSteps (CacheState.step lib) (newCRLCache clock) before = some t →
      t.step lib (.fetchDone key (.ok data)) = some t' →
      t.flights key = some flight →
      validateCRL lib flight.url flight.issuer data = .ok crl →
      ∀ middle rest u, after = middle ++ rest →
        runSteps (CacheState.step lib) t' middle = some u →
        (∀ order, .insert key order ∉ middle) →
        .broadcast key ∉ middle ∧
          ∀ order, order.Perm u.entries.keys →
            ∃ u', u.step lib (.insert key order) = some u' ∧
              u'.entries.lookup key = some ⟨crl, u.clock⟩) := by
  refine ⟨?_, ?_, ?_⟩
  · intro id call result time hcall hphase
    have horigin := (CacheState.Origins.of_run hrun).calls id call hcall
    rw [hphase] at horigin
    exact horigin
  · obtain ⟨s', hrun', hparallel⟩ : ∃ s', runSteps (CacheState.step lib)
        (newCRLCache clock) (withoutCancellations events) = some s' ∧
        CacheState.Parallel (fun id => ∃ err, .cancel id err ∈ events) s s' :=
      CacheState.parallel_withoutCancellations
        (fun id err hmem => ⟨err, hmem⟩) hrun
    refine ⟨s', hrun', hparallel.entries, hparallel.flights,
      hparallel.broadcasts, ?_⟩
    intro id hid
    rcases hparallel.calls id with heq | ⟨⟨err, hmem⟩, -⟩
    · exact heq
    · exact absurd hmem (hid err)
  · rintro before key data after t t' flight crl rfl hbefore hstep hflight
      hvalid middle rest u rfl hmiddle hinsert
    cases CacheState.step_cases hstep with
    | fetchDone _ flight' _ hflight' hphase =>
        obtain rfl : flight = flight' := by simpa [hflight] using hflight'
        have haccepted : CacheState.fetchJudged lib flight (.ok data) =
            .accepted crl := by
          simp [CacheState.fetchJudged, hvalid]
        obtain ⟨hbroadcast, hkept⟩ :=
          CacheState.flights_of_accepted_run hmiddle hinsert
            (Function.update_self key _ t.flights) haccepted
        refine ⟨hbroadcast, ?_⟩
        intro order horder
        exact CacheState.insert_enabled hkept haccepted horder

/-- Two calls share a fetch, and the one which started it is cancelled before
the fetch completes. -/
def cancelledCall : List CacheEvent :=
  let issuer : Certificate := ⟨[1]⟩
  let url := "http://crl.example/list"
  let key := crlCacheKey shortLivedLists url issuer
  [.call 0 url issuer, .lookup 0, .judge 0, .share 0, .flightLookup key,
    .flightJudge key, .call 1 url issuer, .lookup 1, .judge 1, .share 1,
    .cancel 0 .canceled, .fetchDone key (.ok [7]), .insert key [],
    .broadcast key, .receive 1]

/-- The list which a call returned. -/
def CacheState.returnedList (s : CacheState) (id : ℕ) :
    Option RevocationList :=
  match s.calls id with
  | some ⟨_, _, _, .returned (.ok crl) _⟩ => some crl
  | _ => none

theorem returnedList_cancelledCall :
    (runSteps (CacheState.step shortLivedLists) (newCRLCache 0)
      cancelledCall).any (fun s => s.returnedList 0 = none ∧
        s.returnedList 1 = some ⟨[7]⟩) = true := by
  decide

theorem cancellation_isolated_cancelledCall :
    ∃ s s', runSteps (CacheState.step shortLivedLists) (newCRLCache 0)
        cancelledCall = some s ∧
      runSteps (CacheState.step shortLivedLists) (newCRLCache 0)
        (withoutCancellations cancelledCall) = some s' ∧
      s.returnedList 1 = some ⟨[7]⟩ ∧ s'.calls 1 = s.calls 1 := by
  obtain ⟨s, hrun, hreturned⟩ :=
    (Option.any_eq_true _ _).mp returnedList_cancelledCall
  have hlist : s.returnedList 0 = none ∧ s.returnedList 1 = some ⟨[7]⟩ :=
    of_decide_eq_true hreturned
  obtain ⟨-, ⟨s', hrun', -, -, -, hcalls⟩, -⟩ :=
    cancellation_isolated shortLivedLists 0 cancelledCall s hrun
  have hother : ∀ err, CacheEvent.cancel 1 err ∉ cancelledCall := by
    intro err
    simp [cancelledCall]
  exact ⟨s, s', hrun, hrun', hlist.2, hcalls 1 hother⟩

end VerifierApi

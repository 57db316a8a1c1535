import VerifierApi.CrlCache
import VerifierApi.StepMachine
import Mathlib.Data.List.AList
import Mathlib.Logic.Function.Basic

/-!
# The CRL cache as a concurrent machine

Any number of calls run against one cache.  A call looks up its entry,
judges it at a later clock, and on a miss joins the execution in flight under
its key or starts one.  An execution looks a second time, fetches, validates,
inserts and broadcasts.  A step is one of these actions of one party, the
passage of time, or the closing of the cache.  Three logs, which no step
reads, keep what was fetched, what was inserted and what was broadcast.
-/

namespace VerifierApi

inductive FlightPhase where
  | started
  | looked (entry : Option CrlEntry)
  | fetching
  | accepted (crl : RevocationList)
  | finished (result : Except GoError RevocationList)

/-- A shared execution, under the URL and issuer of the call that started
it. -/
structure Flight where
  url : String
  issuer : Certificate
  startedAt : Int
  phase : FlightPhase

inductive CallPhase where
  | started
  | looked (entry : Option CrlEntry)
  | missed
  | waiting
  | delivered (result : Except GoError RevocationList) (time : Int)
  | returned (result : Except GoError RevocationList) (time : Int)

structure Call where
  url : String
  issuer : Certificate
  startedAt : Int
  phase : CallPhase

def Call.key (lib : X509Library) (call : Call) : String :=
  crlCacheKey lib call.url call.issuer

/-- Bytes which the network returned for a URL. -/
structure FetchRecord where
  url : String
  data : List UInt8
  time : Int

/-- A finished execution, at the time its result was handed out. -/
structure Broadcast where
  flight : Flight
  time : Int

structure CacheState where
  entries : CrlEntries
  clock : Int
  flights : String → Option Flight
  calls : ℕ → Option Call
  fetched : List FetchRecord
  inserted : List (String × CrlEntry)
  broadcasts : List Broadcast

def newCRLCache (clock : Int) : CacheState where
  entries := ∅
  clock := clock
  flights := fun _ => none
  calls := fun _ => none
  fetched := []
  inserted := []
  broadcasts := []

inductive CacheEvent where
  | call (id : ℕ) (url : String) (issuer : Certificate)
  | lookup (id : ℕ)
  | judge (id : ℕ)
  | share (id : ℕ)
  | flightLookup (key : String)
  | flightJudge (key : String)
  | fetchDone (key : String) (outcome : Except GoError (List UInt8))
  | insert (key : String) (order : List String)
  | broadcast (key : String)
  | receive (id : ℕ)
  | cancel (id : ℕ) (err : ContextError)
  | tick (elapsed : ℕ)
  | close

namespace CacheState

variable (lib : X509Library) (s : CacheState)

def setCall (id : ℕ) (call : Call) : CacheState :=
  { s with calls := Function.update s.calls id (some call) }

def setFlight (key : String) (flight : Option Flight) : CacheState :=
  { s with flights := Function.update s.flights key flight }

/-- The phase of a call after it has judged what it looked up. -/
def judged (call : Call) (entry : Option CrlEntry) : CallPhase :=
  match cachedFresh lib s.clock call.issuer entry with
  | .error err => .returned (.error err) s.clock
  | .ok (some crl) => .returned (.ok crl) s.clock
  | .ok none => .missed

def flightJudged (flight : Flight) (entry : Option CrlEntry) : FlightPhase :=
  match cachedFresh lib s.clock flight.issuer entry with
  | .error err => .finished (.error err)
  | .ok (some crl) => .finished (.ok crl)
  | .ok none => .fetching

/-- The phase of an execution when its fetch completes. -/
def fetchJudged (flight : Flight) (outcome : Except GoError (List UInt8)) :
    FlightPhase :=
  match outcome with
  | .error err => .finished (.error (tagFetchError err))
  | .ok data =>
      match validateCRL lib flight.url flight.issuer data with
      | .error err => .finished (.error err)
      | .ok crl => .accepted crl

def logFetch (url : String) : Except GoError (List UInt8) → List FetchRecord
  | .error _ => s.fetched
  | .ok data => ⟨url, data, s.clock⟩ :: s.fetched

/-- The calls after a broadcast: whoever waits under the key has the result
in its channel. -/
def deliver (key : String) (result : Except GoError RevocationList)
    (id : ℕ) : Option Call :=
  (s.calls id).map fun call =>
    match call.phase with
    | .waiting =>
        if call.key lib = key then
          { call with phase := .delivered result s.clock }
        else call
    | _ => call

/-- The execution under a key once a call has joined it or started it. -/
def shared (call : Call) : Flight :=
  (s.flights (call.key lib)).getD
    ⟨call.url, call.issuer, s.clock, .started⟩

def step (s : CacheState) : CacheEvent → Option CacheState
  | .call id url issuer =>
      if (s.calls id).isNone then
        some (s.setCall id ⟨url, issuer, s.clock, .started⟩)
      else none
  | .lookup id =>
      match s.calls id with
      | some ⟨url, issuer, startedAt, .started⟩ =>
          some (s.setCall id ⟨url, issuer, startedAt,
            .looked (s.entries.lookup (crlCacheKey lib url issuer))⟩)
      | _ => none
  | .judge id =>
      match s.calls id with
      | some ⟨url, issuer, startedAt, .looked entry⟩ =>
          some (s.setCall id ⟨url, issuer, startedAt,
            s.judged lib ⟨url, issuer, startedAt, .looked entry⟩ entry⟩)
      | _ => none
  | .share id =>
      match s.calls id with
      | some ⟨url, issuer, startedAt, .missed⟩ =>
          some ((s.setCall id ⟨url, issuer, startedAt, .waiting⟩).setFlight
            (crlCacheKey lib url issuer)
            (some (s.shared lib ⟨url, issuer, startedAt, .missed⟩)))
      | _ => none
  | .flightLookup key =>
      match s.flights key with
      | some ⟨url, issuer, startedAt, .started⟩ =>
          some (s.setFlight key (some ⟨url, issuer, startedAt,
            .looked (s.entries.lookup key)⟩))
      | _ => none
  | .flightJudge key =>
      match s.flights key with
      | some ⟨url, issuer, startedAt, .looked entry⟩ =>
          some (s.setFlight key (some ⟨url, issuer, startedAt,
            s.flightJudged lib ⟨url, issuer, startedAt, .looked entry⟩
              entry⟩))
      | _ => none
  | .fetchDone key outcome =>
      match s.flights key with
      | some ⟨url, issuer, startedAt, .fetching⟩ =>
          some { s.setFlight key (some ⟨url, issuer, startedAt,
              fetchJudged lib ⟨url, issuer, startedAt, .fetching⟩
                outcome⟩) with
            fetched := s.logFetch url outcome }
      | _ => none
  | .insert key order =>
      match s.flights key with
      | some ⟨url, issuer, startedAt, .accepted crl⟩ =>
          if order.Perm s.entries.keys then
            some { s.setFlight key (some ⟨url, issuer, startedAt,
                .finished (.ok crl)⟩) with
              entries := insertEntry lib s.entries order s.clock key crl
              inserted := (key, ⟨crl, s.clock⟩) :: s.inserted }
          else none
      | _ => none
  | .broadcast key =>
      match s.flights key with
      | some ⟨url, issuer, startedAt, .finished result⟩ =>
          some { s.setFlight key none with
            calls := s.deliver lib key result
            broadcasts := ⟨⟨url, issuer, startedAt, .finished result⟩,
              s.clock⟩ :: s.broadcasts }
      | _ => none
  | .receive id =>
      match s.calls id with
      | some ⟨url, issuer, startedAt, .delivered result _⟩ =>
          some (s.setCall id ⟨url, issuer, startedAt,
            .returned (result.bind (receiveCRL lib issuer)) s.clock⟩)
      | _ => none
  | .cancel id err =>
      match s.calls id with
      | some ⟨url, issuer, startedAt, .waiting⟩ =>
          some (s.setCall id ⟨url, issuer, startedAt,
            .returned (.error err.toExternal.toGoError) s.clock⟩)
      | some ⟨url, issuer, startedAt, .delivered _ _⟩ =>
          some (s.setCall id ⟨url, issuer, startedAt,
            .returned (.error err.toExternal.toGoError) s.clock⟩)
      | _ => none
  | .tick elapsed => some { s with clock := s.clock + elapsed }
  | .close => some { s with entries := ∅ }

end CacheState

/-- What a step can do, with its guards. -/
inductive CacheStep (lib : X509Library) (s : CacheState) :
    CacheEvent → CacheState → Prop
  | call (id : ℕ) (url : String) (issuer : Certificate)
      (hfree : s.calls id = none) :
      CacheStep lib s (.call id url issuer)
        (s.setCall id ⟨url, issuer, s.clock, .started⟩)
  | lookup (id : ℕ) (call : Call) (hcall : s.calls id = some call)
      (hphase : call.phase = .started) :
      CacheStep lib s (.lookup id) (s.setCall id
        { call with phase := .looked (s.entries.lookup (call.key lib)) })
  | judge (id : ℕ) (call : Call) (entry : Option CrlEntry)
      (hcall : s.calls id = some call) (hphase : call.phase = .looked entry) :
      CacheStep lib s (.judge id)
        (s.setCall id { call with phase := s.judged lib call entry })
  | share (id : ℕ) (call : Call) (hcall : s.calls id = some call)
      (hphase : call.phase = .missed) :
      CacheStep lib s (.share id)
        ((s.setCall id { call with phase := .waiting }).setFlight
          (call.key lib) (some (s.shared lib call)))
  | flightLookup (key : String) (flight : Flight)
      (hflight : s.flights key = some flight)
      (hphase : flight.phase = .started) :
      CacheStep lib s (.flightLookup key) (s.setFlight key
        (some { flight with phase := .looked (s.entries.lookup key) }))
  | flightJudge (key : String) (flight : Flight) (entry : Option CrlEntry)
      (hflight : s.flights key = some flight)
      (hphase : flight.phase = .looked entry) :
      CacheStep lib s (.flightJudge key) (s.setFlight key
        (some { flight with phase := s.flightJudged lib flight entry }))
  | fetchDone (key : String) (flight : Flight)
      (outcome : Except GoError (List UInt8))
      (hflight : s.flights key = some flight)
      (hphase : flight.phase = .fetching) :
      CacheStep lib s (.fetchDone key outcome)
        { s.setFlight key (some { flight with
            phase := CacheState.fetchJudged lib flight outcome }) with
          fetched := s.logFetch flight.url outcome }
  | insert (key : String) (flight : Flight) (crl : RevocationList)
      (order : List String) (hflight : s.flights key = some flight)
      (hphase : flight.phase = .accepted crl)
      (horder : order.Perm s.entries.keys) :
      CacheStep lib s (.insert key order)
        { s.setFlight key (some { flight with
            phase := .finished (.ok crl) }) with
          entries := insertEntry lib s.entries order s.clock key crl
          inserted := (key, ⟨crl, s.clock⟩) :: s.inserted }
  | broadcast (key : String) (flight : Flight)
      (result : Except GoError RevocationList)
      (hflight : s.flights key = some flight)
      (hphase : flight.phase = .finished result) :
      CacheStep lib s (.broadcast key)
        { s.setFlight key none with
          calls := s.deliver lib key result
          broadcasts := ⟨flight, s.clock⟩ :: s.broadcasts }
  | receive (id : ℕ) (call : Call) (result : Except GoError RevocationList)
      (time : Int) (hcall : s.calls id = some call)
      (hphase : call.phase = .delivered result time) :
      CacheStep lib s (.receive id) (s.setCall id { call with
        phase := .returned (result.bind (receiveCRL lib call.issuer))
          s.clock })
  | cancel (id : ℕ) (call : Call) (err : ContextError)
      (hcall : s.calls id = some call)
      (hphase : call.phase = .waiting ∨
        ∃ result time, call.phase = .delivered result time) :
      CacheStep lib s (.cancel id err) (s.setCall id { call with
        phase := .returned (.error err.toExternal.toGoError) s.clock })
  | tick (elapsed : ℕ) :
      CacheStep lib s (.tick elapsed) { s with clock := s.clock + elapsed }
  | close : CacheStep lib s .close { s with entries := ∅ }

theorem CacheState.step_cases {lib : X509Library} {s s' : CacheState}
    {event : CacheEvent} (h : s.step lib event = some s') :
    CacheStep lib s event s' := by
  cases event with
  | call id url issuer =>
      simp only [step, Option.isNone_iff_eq_none] at h
      split at h
      next hfree =>
        obtain rfl := Option.some.inj h
        exact .call id url issuer hfree
      next => simp at h
  | lookup id =>
      simp only [step] at h
      split at h
      next hcall =>
        obtain rfl := Option.some.inj h
        exact .lookup id _ hcall rfl
      next => simp at h
  | judge id =>
      simp only [step] at h
      split at h
      next hcall =>
        obtain rfl := Option.some.inj h
        exact .judge id _ _ hcall rfl
      next => simp at h
  | share id =>
      simp only [step] at h
      split at h
      next hcall =>
        obtain rfl := Option.some.inj h
        exact .share id _ hcall rfl
      next => simp at h
  | flightLookup key =>
      simp only [step] at h
      split at h
      next hflight =>
        obtain rfl := Option.some.inj h
        exact .flightLookup key _ hflight rfl
      next => simp at h
  | flightJudge key =>
      simp only [step] at h
      split at h
      next hflight =>
        obtain rfl := Option.some.inj h
        exact .flightJudge key _ _ hflight rfl
      next => simp at h
  | fetchDone key outcome =>
      simp only [step] at h
      split at h
      next hflight =>
        obtain rfl := Option.some.inj h
        exact .fetchDone key _ outcome hflight rfl
      next => simp at h
  | insert key order =>
      simp only [step] at h
      split at h
      next hflight =>
        split at h
        next horder =>
          obtain rfl := Option.some.inj h
          exact .insert key _ _ order hflight rfl horder
        next => simp at h
      next => simp at h
  | broadcast key =>
      simp only [step] at h
      split at h
      next hflight =>
        obtain rfl := Option.some.inj h
        exact .broadcast key _ _ hflight rfl
      next => simp at h
  | receive id =>
      simp only [step] at h
      split at h
      next hcall =>
        obtain rfl := Option.some.inj h
        exact .receive id _ _ _ hcall rfl
      next => simp at h
  | cancel id err =>
      simp only [step] at h
      split at h
      next hcall =>
        obtain rfl := Option.some.inj h
        exact .cancel id _ err hcall (.inl rfl)
      next hcall =>
        obtain rfl := Option.some.inj h
        exact .cancel id _ err hcall (.inr ⟨_, _, rfl⟩)
      next => simp at h
  | tick elapsed =>
      obtain rfl := Option.some.inj h
      exact .tick elapsed
  | close =>
      obtain rfl := Option.some.inj h
      exact .close

theorem CacheStep.step_eq {lib : X509Library} {s s' : CacheState}
    {event : CacheEvent} (h : CacheStep lib s event s') :
    s.step lib event = some s' := by
  cases h with
  | call id url issuer hfree => simp [CacheState.step, hfree]
  | lookup id call hcall hphase =>
      cases call
      subst hphase
      simp [CacheState.step, hcall, Call.key]
  | judge id call entry hcall hphase =>
      cases call
      subst hphase
      simp [CacheState.step, hcall]
  | share id call hcall hphase =>
      cases call
      subst hphase
      simp [CacheState.step, hcall, Call.key]
  | flightLookup key flight hflight hphase =>
      cases flight
      subst hphase
      simp [CacheState.step, hflight]
  | flightJudge key flight entry hflight hphase =>
      cases flight
      subst hphase
      simp [CacheState.step, hflight]
  | fetchDone key flight outcome hflight hphase =>
      cases flight
      subst hphase
      simp [CacheState.step, hflight]
  | insert key flight crl order hflight hphase horder =>
      cases flight
      subst hphase
      simp [CacheState.step, hflight, horder]
  | broadcast key flight result hflight hphase =>
      cases flight
      subst hphase
      simp [CacheState.step, hflight]
  | receive id call result time hcall hphase =>
      cases call
      subst hphase
      simp [CacheState.step, hcall]
  | cancel id call err hcall hphase =>
      cases call
      rcases hphase with hwaiting | ⟨result, time, hdelivered⟩
      · subst hwaiting
        simp [CacheState.step, hcall]
      · subst hdelivered
        simp [CacheState.step, hcall]
  | tick elapsed => simp [CacheState.step]
  | close => simp [CacheState.step]

end VerifierApi

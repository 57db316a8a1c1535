import VerifierApi.CrlCacheEntries
import VerifierApi.CrlCacheMachine

/-!
# Safety of the CRL cache

Every list which the cache holds or hands out is traced to the bytes which
the network returned.  The invariant speaks of the entries, of the executions
in flight and of the calls.  Its parts refer to the logs and to the clock
only, which grow along a run, so that a step has to be checked for the party
that moves.
-/

namespace VerifierApi

/-! ## Where a list comes from -/

def EntryFresh (lib : X509Library) (now : Int) (entry : CrlEntry) : Prop :=
  now ≤ entry.fetchedAt + crlMaxCacheTTL ∧
    ∃ nextUpdate, lib.crlNextUpdate entry.crl = some nextUpdate ∧
      now ≤ nextUpdate

theorem isEntryStale_eq_false_iff {lib : X509Library} {now : Int}
    {entry : CrlEntry} :
    isEntryStale lib now entry = false ↔ EntryFresh lib now entry := by
  unfold isEntryStale EntryFresh
  split
  next hold => simp; omega
  next hyoung =>
    cases lib.crlNextUpdate entry.crl with
    | none => simp
    | some nextUpdate => simp; omega

theorem cachedFresh_eq_ok_some {lib : X509Library} {now : Int}
    {issuer : Certificate} {entry : Option CrlEntry} {crl : RevocationList}
    (h : cachedFresh lib now issuer entry = .ok (some crl)) :
    ∃ found, entry = some found ∧ found.crl = crl ∧
      EntryFresh lib now found ∧ verifyCRLIssuer lib crl issuer = .ok () := by
  cases entry with
  | none => simp [cachedFresh] at h
  | some found =>
      simp only [cachedFresh] at h
      split at h
      next => simp at h
      next hfresh =>
        simp only [bind_eq_ok, mapError_eq_ok, exists_unit, Except.ok.injEq,
          Option.some.injEq] at h
        obtain ⟨hverify, rfl⟩ := h
        exact ⟨found, rfl, rfl,
          isEntryStale_eq_false_iff.mp (by simpa using hfresh), hverify⟩

/-- The bytes of the record, from the URL, are the list. -/
def FetchRecord.Holds (lib : X509Library) (record : FetchRecord)
    (url : String) (crl : RevocationList) : Prop :=
  record.url = url ∧
    lib.parseRevocationList ((lib.pemDecode record.data).getD record.data) =
      .ok crl

namespace CacheState

variable (lib : X509Library) (certs : Set Certificate) (s : CacheState)

def Fetched (url : String) (crl : RevocationList) : Prop :=
  ∃ record ∈ s.fetched, record.Holds lib url crl

def FetchedBetween (url : String) (crl : RevocationList)
    (start stop : Int) : Prop :=
  ∃ record ∈ s.fetched, record.Holds lib url crl ∧
    start ≤ record.time ∧ record.time ≤ stop

/-- An entry under the key held the list, and was fresh at some time of the
window. -/
def ServedBetween (key : String) (crl : RevocationList)
    (start stop : Int) : Prop :=
  ∃ entry time, (key, entry) ∈ s.inserted ∧ entry.crl = crl ∧
    start ≤ time ∧ time ≤ stop ∧ EntryFresh lib time entry

/-- A shared execution obtained the list itself. -/
def ObtainedBetween (url : String) (issuer : Certificate)
    (crl : RevocationList) (start stop : Int) : Prop :=
  s.FetchedBetween lib url crl start stop ∨
    s.ServedBetween lib (crlCacheKey lib url issuer) crl start stop

/-- While the call waited, an execution for its URL and issuer handed out the
list, which it had obtained since it was started. -/
def HandedOut (call : Call) (crl : RevocationList) (stop : Int) : Prop :=
  ∃ broadcast ∈ s.broadcasts,
    broadcast.flight.url = call.url ∧
    broadcast.flight.issuer = call.issuer ∧
    broadcast.flight.phase = .finished (.ok crl) ∧
    call.startedAt ≤ broadcast.time ∧ broadcast.time ≤ stop ∧
    s.ObtainedBetween lib call.url call.issuer crl
      broadcast.flight.startedAt broadcast.time

/-! ## The invariant -/

def EntryBacked (key : String) (entry : CrlEntry) : Prop :=
  ∃ url, ∃ issuer ∈ certs, key = crlCacheKey lib url issuer ∧
    s.Fetched lib url entry.crl ∧
    verifyCRLIssuer lib entry.crl issuer = .ok () ∧
    lib.crlNextUpdate entry.crl ≠ none

def FlightPhaseBacked (key : String) (flight : Flight) : FlightPhase → Prop
  | .started => True
  | .looked entry => ∀ found, entry = some found → (key, found) ∈ s.inserted
  | .fetching => True
  | .accepted crl =>
      s.FetchedBetween lib flight.url crl flight.startedAt s.clock ∧
        verifyCRLIssuer lib crl flight.issuer = .ok () ∧
        lib.crlNextUpdate crl ≠ none
  | .finished result => ∀ crl, result = .ok crl →
      s.ObtainedBetween lib flight.url flight.issuer crl flight.startedAt
        s.clock

structure FlightBacked (key : String) (flight : Flight) : Prop where
  key_eq : key = crlCacheKey lib flight.url flight.issuer
  issuer_mem : flight.issuer ∈ certs
  startedAt_le : flight.startedAt ≤ s.clock
  phase : s.FlightPhaseBacked lib key flight flight.phase

def CallPhaseBacked (call : Call) : CallPhase → Prop
  | .started => True
  | .looked entry => ∀ found, entry = some found →
      (call.key lib, found) ∈ s.inserted
  | .missed => True
  | .waiting => True
  | .delivered result time => time ≤ s.clock ∧
      ∀ crl, result = .ok crl → s.HandedOut lib call crl time
  | .returned result time => time ≤ s.clock ∧
      ∀ crl, result = .ok crl →
        verifyCRLIssuer lib crl call.issuer = .ok () ∧
        (s.ServedBetween lib (call.key lib) crl call.startedAt time ∨
          s.HandedOut lib call crl time)

structure CallBacked (call : Call) : Prop where
  issuer_mem : call.issuer ∈ certs
  startedAt_le : call.startedAt ≤ s.clock
  phase : s.CallPhaseBacked lib call call.phase

structure Invariant : Prop where
  bounded : s.entries.keys.length ≤ crlMaxEntries
  logged : ∀ key entry, s.entries.lookup key = some entry →
    (key, entry) ∈ s.inserted
  inserted : ∀ key entry, (key, entry) ∈ s.inserted →
    s.EntryBacked lib certs key entry
  flights : ∀ key flight, s.flights key = some flight →
    s.FlightBacked lib certs key flight
  calls : ∀ id call, s.calls id = some call → s.CallBacked lib certs call

theorem newCRLCache_invariant (clock : Int) :
    (newCRLCache clock).Invariant lib certs := by
  constructor <;> simp [newCRLCache]

/-! ## Growth -/

/-- The logs and the clock of a later state. -/
structure Grows (s s' : CacheState) : Prop where
  clock : s.clock ≤ s'.clock
  fetched : s.fetched ⊆ s'.fetched
  inserted : s.inserted ⊆ s'.inserted
  broadcasts : s.broadcasts ⊆ s'.broadcasts

variable {lib certs s} {s' : CacheState}

theorem Grows.refl : s.Grows s :=
  ⟨le_rfl, List.Subset.refl _, List.Subset.refl _, List.Subset.refl _⟩

theorem Fetched.mono {url : String} {crl : RevocationList}
    (h : s.Fetched lib url crl) (hs : s.Grows s') :
    s'.Fetched lib url crl := by
  obtain ⟨record, hmem, hrecord⟩ := h
  exact ⟨record, hs.fetched hmem, hrecord⟩

theorem FetchedBetween.mono {url : String} {crl : RevocationList}
    {start stop stop' : Int} (h : s.FetchedBetween lib url crl start stop)
    (hs : s.Grows s') (hstop : stop ≤ stop') :
    s'.FetchedBetween lib url crl start stop' := by
  obtain ⟨record, hmem, hrecord, hstart, htime⟩ := h
  exact ⟨record, hs.fetched hmem, hrecord, hstart, htime.trans hstop⟩

theorem FetchedBetween.fetched {url : String} {crl : RevocationList}
    {start stop : Int} (h : s.FetchedBetween lib url crl start stop) :
    s.Fetched lib url crl := by
  obtain ⟨record, hmem, hrecord, -⟩ := h
  exact ⟨record, hmem, hrecord⟩

theorem ServedBetween.mono {key : String} {crl : RevocationList}
    {start stop stop' : Int} (h : s.ServedBetween lib key crl start stop)
    (hs : s.Grows s') (hstop : stop ≤ stop') :
    s'.ServedBetween lib key crl start stop' := by
  obtain ⟨entry, time, hmem, hcrl, hstart, htime, hfresh⟩ := h
  exact ⟨entry, time, hs.inserted hmem, hcrl, hstart, htime.trans hstop,
    hfresh⟩

theorem ObtainedBetween.mono {url : String} {issuer : Certificate}
    {crl : RevocationList} {start stop stop' : Int}
    (h : s.ObtainedBetween lib url issuer crl start stop) (hs : s.Grows s')
    (hstop : stop ≤ stop') :
    s'.ObtainedBetween lib url issuer crl start stop' :=
  h.imp (fun hfetched => hfetched.mono hs hstop)
    (fun hserved => hserved.mono hs hstop)

theorem HandedOut.mono {call : Call} {crl : RevocationList}
    {stop stop' : Int} (h : s.HandedOut lib call crl stop) (hs : s.Grows s')
    (hstop : stop ≤ stop') : s'.HandedOut lib call crl stop' := by
  obtain ⟨broadcast, hmem, hurl, hissuer, hphase, hstart, htime, hobtained⟩ :=
    h
  exact ⟨broadcast, hs.broadcasts hmem, hurl, hissuer, hphase, hstart,
    htime.trans hstop, hobtained.mono hs le_rfl⟩

theorem EntryBacked.mono {key : String} {entry : CrlEntry}
    (h : s.EntryBacked lib certs key entry) (hs : s.Grows s') :
    s'.EntryBacked lib certs key entry := by
  obtain ⟨url, issuer, hissuer, hkey, hfetched, hverify, hnext⟩ := h
  exact ⟨url, issuer, hissuer, hkey, hfetched.mono hs, hverify, hnext⟩

theorem FlightPhaseBacked.mono {key : String} {flight : Flight}
    {phase : FlightPhase} (h : s.FlightPhaseBacked lib key flight phase)
    (hs : s.Grows s') : s'.FlightPhaseBacked lib key flight phase := by
  cases phase with
  | started => trivial
  | looked entry => exact fun found hfound => hs.inserted (h found hfound)
  | fetching => trivial
  | accepted crl => exact ⟨h.1.mono hs hs.clock, h.2⟩
  | finished result => exact fun crl hcrl => (h crl hcrl).mono hs hs.clock

theorem FlightBacked.mono {key : String} {flight : Flight}
    (h : s.FlightBacked lib certs key flight) (hs : s.Grows s') :
    s'.FlightBacked lib certs key flight :=
  ⟨h.key_eq, h.issuer_mem, h.startedAt_le.trans hs.clock, h.phase.mono hs⟩

theorem CallPhaseBacked.mono {call : Call} {phase : CallPhase}
    (h : s.CallPhaseBacked lib call phase) (hs : s.Grows s') :
    s'.CallPhaseBacked lib call phase := by
  cases phase with
  | started => trivial
  | looked entry => exact fun found hfound => hs.inserted (h found hfound)
  | missed => trivial
  | waiting => trivial
  | delivered result time =>
      exact ⟨h.1.trans hs.clock,
        fun crl hcrl => (h.2 crl hcrl).mono hs le_rfl⟩
  | returned result time =>
      refine ⟨h.1.trans hs.clock, ?_⟩
      intro crl hcrl
      obtain ⟨hverify, hsource⟩ := h.2 crl hcrl
      exact ⟨hverify, hsource.imp (fun hserved => hserved.mono hs le_rfl)
        (fun hhanded => hhanded.mono hs le_rfl)⟩

theorem CallBacked.mono {call : Call} (h : s.CallBacked lib certs call)
    (hs : s.Grows s') : s'.CallBacked lib certs call :=
  ⟨h.issuer_mem, h.startedAt_le.trans hs.clock, h.phase.mono hs⟩

/-! ## Steps -/

/-- Calls and executions are not touched, and what is new in the entries and
in their log is backed. -/
theorem Invariant.grow (h : s.Invariant lib certs) (hs : s.Grows s')
    (hflights : s'.flights = s.flights) (hcalls : s'.calls = s.calls)
    (hbounded : s'.entries.keys.length ≤ crlMaxEntries)
    (hlogged : ∀ key entry, s'.entries.lookup key = some entry →
      (key, entry) ∈ s'.inserted)
    (hinserted : ∀ key entry, (key, entry) ∈ s'.inserted →
      (key, entry) ∉ s.inserted → s'.EntryBacked lib certs key entry) :
    s'.Invariant lib certs where
  bounded := hbounded
  logged := hlogged
  inserted := by
    intro key entry hmem
    by_cases hold : (key, entry) ∈ s.inserted
    · exact (h.inserted key entry hold).mono hs
    · exact hinserted key entry hmem hold
  flights := by
    intro key flight hflight
    rw [hflights] at hflight
    exact (h.flights key flight hflight).mono hs
  calls := by
    intro id call hcall
    rw [hcalls] at hcall
    exact (h.calls id call hcall).mono hs

theorem grows_setCalls (calls : ℕ → Option Call) :
    s.Grows { s with calls := calls } :=
  ⟨le_rfl, List.Subset.refl _, List.Subset.refl _, List.Subset.refl _⟩

theorem grows_setFlight (key : String) (flight : Option Flight) :
    s.Grows (s.setFlight key flight) :=
  ⟨le_rfl, List.Subset.refl _, List.Subset.refl _, List.Subset.refl _⟩

theorem Invariant.setCalls (h : s.Invariant lib certs)
    {calls : ℕ → Option Call}
    (hcalls : ∀ id call, calls id = some call →
      s.CallBacked lib certs call) :
    { s with calls := calls }.Invariant lib certs where
  bounded := h.bounded
  logged := h.logged
  inserted := fun key entry hmem =>
    (h.inserted key entry hmem).mono (grows_setCalls calls)
  flights := fun key flight hflight =>
    (h.flights key flight hflight).mono (grows_setCalls calls)
  calls := fun id call hcall =>
    (hcalls id call hcall).mono (grows_setCalls calls)

theorem Invariant.setCall (h : s.Invariant lib certs) (id : ℕ) {call : Call}
    (hcall : s.CallBacked lib certs call) :
    (s.setCall id call).Invariant lib certs := by
  apply h.setCalls
  apply forall_update_some h.calls
  rintro _ ⟨⟩
  exact hcall

theorem Invariant.setFlight (h : s.Invariant lib certs) {key : String}
    {flight : Option Flight}
    (hflight : ∀ found, flight = some found →
      s.FlightBacked lib certs key found) :
    (s.setFlight key flight).Invariant lib certs where
  bounded := h.bounded
  logged := h.logged
  inserted := fun key' entry hmem =>
    (h.inserted key' entry hmem).mono (grows_setFlight key flight)
  flights := fun key' found hfound =>
    (forall_update_some h.flights hflight key' found hfound).mono
      (grows_setFlight key flight)
  calls := fun id call hcall =>
    (h.calls id call hcall).mono (grows_setFlight key flight)

theorem ServedBetween.of_cachedFresh {key : String} {issuer : Certificate}
    {entry : Option CrlEntry} {crl : RevocationList} {start : Int}
    (h : cachedFresh lib s.clock issuer entry = .ok (some crl))
    (hentry : ∀ found, entry = some found → (key, found) ∈ s.inserted)
    (hstart : start ≤ s.clock) :
    s.ServedBetween lib key crl start s.clock := by
  obtain ⟨found, rfl, hcrl, hfresh, -⟩ := cachedFresh_eq_ok_some h
  exact ⟨found, s.clock, hentry found rfl, hcrl, hstart, le_rfl, hfresh⟩

theorem CallBacked.judged {call : Call} {entry : Option CrlEntry}
    (h : s.CallBacked lib certs call) (hphase : call.phase = .looked entry) :
    s.CallPhaseBacked lib call (s.judged lib call entry) := by
  have hentry : s.CallPhaseBacked lib call (.looked entry) :=
    hphase ▸ h.phase
  unfold CacheState.judged
  split
  next err hhit => exact ⟨le_rfl, by simp⟩
  next crl hhit =>
    refine ⟨le_rfl, ?_⟩
    rintro _ ⟨⟩
    obtain ⟨-, -, -, -, hverify⟩ := cachedFresh_eq_ok_some hhit
    exact ⟨hverify, .inl (.of_cachedFresh hhit hentry h.startedAt_le)⟩
  next => trivial

theorem FlightBacked.judged {key : String} {flight : Flight}
    {entry : Option CrlEntry} (h : s.FlightBacked lib certs key flight)
    (hphase : flight.phase = .looked entry) :
    s.FlightPhaseBacked lib key flight (s.flightJudged lib flight entry) := by
  have hentry : s.FlightPhaseBacked lib key flight (.looked entry) :=
    hphase ▸ h.phase
  unfold CacheState.flightJudged
  split
  next err hhit => exact fun crl hcrl => by simp at hcrl
  next crl hhit =>
    rintro _ ⟨⟩
    rw [h.key_eq] at hentry
    exact .inr (.of_cachedFresh hhit hentry h.startedAt_le)
  next => trivial

theorem validateCRL_eq_ok_iff {url : String} {issuer : Certificate}
    {data : List UInt8} {crl : RevocationList} :
    validateCRL lib url issuer data = .ok crl ↔
      lib.parseRevocationList ((lib.pemDecode data).getD data) = .ok crl ∧
        verifyCRLIssuer lib crl issuer = .ok () ∧
        lib.crlNextUpdate crl ≠ none := by
  simp only [validateCRL, bind_eq_ok, mapError_eq_ok, ensure_eq_ok,
    exists_unit, Except.ok.injEq]
  constructor
  · rintro ⟨_, hparse, hverify, hnext, rfl⟩
    exact ⟨hparse, hverify, hnext⟩
  · rintro ⟨hparse, hverify, hnext⟩
    exact ⟨crl, hparse, hverify, hnext, rfl⟩

/-- The state after a fetch completes, before the execution moves on. -/
def withFetch (s : CacheState) (url : String)
    (outcome : Except GoError (List UInt8)) : CacheState :=
  { s with fetched := s.logFetch url outcome }

theorem grows_withFetch (url : String)
    (outcome : Except GoError (List UInt8)) :
    s.Grows (s.withFetch url outcome) := by
  refine ⟨le_rfl, ?_, List.Subset.refl _, List.Subset.refl _⟩
  cases outcome with
  | error err => exact List.Subset.refl _
  | ok data => exact List.subset_cons_self _ _

theorem FlightBacked.fetchJudged {key : String} {flight : Flight}
    (h : s.FlightBacked lib certs key flight)
    (outcome : Except GoError (List UInt8)) :
    (s.withFetch flight.url outcome).FlightPhaseBacked lib key flight
      (CacheState.fetchJudged lib flight outcome) := by
  cases outcome with
  | error err => exact fun crl hcrl => by simp at hcrl
  | ok data =>
      unfold CacheState.fetchJudged
      simp only
      split
      next err hinvalid => exact fun crl hcrl => by simp at hcrl
      next crl hvalid =>
        obtain ⟨hparse, hverify, hnext⟩ := validateCRL_eq_ok_iff.mp hvalid
        exact ⟨⟨⟨flight.url, data, s.clock⟩, List.mem_cons_self ..,
          ⟨rfl, hparse⟩, h.startedAt_le, le_rfl⟩, hverify, hnext⟩

theorem FlightBacked.entryBacked {key : String} {flight : Flight}
    {crl : RevocationList} {now : Int}
    (h : s.FlightBacked lib certs key flight)
    (hphase : flight.phase = .accepted crl) :
    s.EntryBacked lib certs key ⟨crl, now⟩ := by
  have hcrl : s.FlightPhaseBacked lib key flight (.accepted crl) :=
    hphase ▸ h.phase
  exact ⟨flight.url, flight.issuer, h.issuer_mem, h.key_eq,
    hcrl.1.fetched, hcrl.2⟩

theorem Invariant.shared (h : s.Invariant lib certs) {call : Call}
    (hcall : s.CallBacked lib certs call) :
    s.FlightBacked lib certs (call.key lib) (s.shared lib call) := by
  unfold CacheState.shared
  cases hflight : s.flights (call.key lib) with
  | none => exact ⟨rfl, hcall.issuer_mem, le_rfl, trivial⟩
  | some flight => exact h.flights _ flight hflight

/-- A waiting call and the execution under its key have the same URL and the
same issuer, since the key determines them. -/
theorem HandedOut.of_broadcast
    (hcerts : Set.InjOn (fun cert => lib.sha256 cert.raw) certs)
    {key : String} {flight : Flight} {crl : RevocationList} {call : Call}
    (hflight : s.FlightBacked lib certs key flight)
    (hphase : flight.phase = .finished (.ok crl))
    (hcall : s.CallBacked lib certs call) (hkey : call.key lib = key)
    (hs : s.Grows s') (hmem : ⟨flight, s.clock⟩ ∈ s'.broadcasts) :
    s'.HandedOut lib call crl s.clock := by
  obtain ⟨hurl, hissuer⟩ := crlCacheKey_injOn hcerts hflight.issuer_mem
    hcall.issuer_mem (hflight.key_eq.symm.trans hkey.symm)
  have hfinished : s.FlightPhaseBacked lib key flight (.finished (.ok crl)) :=
    hphase ▸ hflight.phase
  have hobtained := (hfinished crl rfl).mono hs le_rfl
  rw [hurl, hissuer] at hobtained
  exact ⟨⟨flight, s.clock⟩, hmem, hurl, hissuer, hphase, hcall.startedAt_le,
    le_rfl, hobtained⟩

theorem CallBacked.deliver
    (hcerts : Set.InjOn (fun cert => lib.sha256 cert.raw) certs)
    (h : s.Invariant lib certs) {key : String} {flight : Flight}
    {result : Except GoError RevocationList}
    (hflight : s.FlightBacked lib certs key flight)
    (hphase : flight.phase = .finished result) (hs : s.Grows s')
    (hmem : ⟨flight, s.clock⟩ ∈ s'.broadcasts) {id : ℕ} {call : Call}
    (hcall : s.deliver lib key result id = some call) :
    s'.CallBacked lib certs call := by
  obtain ⟨before, hbefore, hcall⟩ := Option.map_eq_some_iff.mp hcall
  have hbacked := h.calls id before hbefore
  split at hcall
  next hwaiting =>
    split at hcall
    next hkey =>
      obtain rfl := hcall
      refine ⟨hbacked.issuer_mem, hbacked.startedAt_le.trans hs.clock,
        hs.clock, ?_⟩
      rintro crl rfl
      have hhanded : s'.HandedOut lib before crl s.clock :=
        .of_broadcast hcerts hflight hphase hbacked hkey hs hmem
      exact hhanded
    next =>
      obtain rfl := hcall
      exact hbacked.mono hs
  next =>
    obtain rfl := hcall
    exact hbacked.mono hs

theorem CallBacked.received {call : Call}
    {result : Except GoError RevocationList} {time : Int}
    (h : s.CallBacked lib certs call)
    (hphase : call.phase = .delivered result time) :
    s.CallPhaseBacked lib call
      (.returned (result.bind (receiveCRL lib call.issuer)) s.clock) := by
  have hdelivered : s.CallPhaseBacked lib call (.delivered result time) :=
    hphase ▸ h.phase
  refine ⟨le_rfl, ?_⟩
  intro crl hcrl
  cases result with
  | error err => simp [Except.bind] at hcrl
  | ok shared =>
      simp only [Except.bind, receiveCRL, bind_eq_ok, mapError_eq_ok,
        exists_unit, Except.ok.injEq] at hcrl
      obtain ⟨hverify, rfl⟩ := hcrl
      exact ⟨hverify, .inr
        ((hdelivered.2 shared rfl).mono .refl hdelivered.1)⟩

/-- Events whose calls are made with one of the certificates. -/
def IssuerIn (certs : Set Certificate) : CacheEvent → Prop
  | .call _ _ issuer => issuer ∈ certs
  | _ => True

theorem Invariant.growLogs (h : s.Invariant lib certs) (hs : s.Grows s')
    (hflights : s'.flights = s.flights) (hcalls : s'.calls = s.calls)
    (hentries : s'.entries = s.entries)
    (hinserted : s'.inserted = s.inserted) : s'.Invariant lib certs := by
  apply h.grow hs hflights hcalls
  · rw [hentries]
    exact h.bounded
  · rw [hentries, hinserted]
    exact h.logged
  · intro key entry hmem hnew
    rw [hinserted] at hmem
    exact absurd hmem hnew

theorem Invariant.moveCall (h : s.Invariant lib certs) {id : ℕ} {call : Call}
    (hcall : s.calls id = some call) {phase : CallPhase}
    (hphase : s.CallPhaseBacked lib call phase) :
    (s.setCall id { call with phase := phase }).Invariant lib certs := by
  have hbacked := h.calls id call hcall
  apply h.setCall
  exact ⟨hbacked.issuer_mem, hbacked.startedAt_le, hphase⟩

theorem Invariant.moveFlight (h : s.Invariant lib certs) {key : String}
    {flight : Flight} (hflight : s.flights key = some flight)
    {phase : FlightPhase}
    (hphase : s.FlightPhaseBacked lib key flight phase) :
    (s.setFlight key (some { flight with phase := phase })).Invariant lib
      certs := by
  have hbacked := h.flights key flight hflight
  apply h.setFlight
  rintro _ ⟨⟩
  exact ⟨hbacked.key_eq, hbacked.issuer_mem, hbacked.startedAt_le, hphase⟩

/-- The state after an insertion, before the execution moves on. -/
def withEntry (lib : X509Library) (s : CacheState) (order : List String)
    (key : String) (crl : RevocationList) : CacheState :=
  { s with
    entries := insertEntry lib s.entries order s.clock key crl
    inserted := (key, ⟨crl, s.clock⟩) :: s.inserted }

theorem grows_withEntry (order : List String) (key : String)
    (crl : RevocationList) : s.Grows (s.withEntry lib order key crl) :=
  ⟨le_rfl, List.Subset.refl _, List.subset_cons_self _ _,
    List.Subset.refl _⟩

theorem Invariant.withEntry (h : s.Invariant lib certs)
    {order : List String} (horder : order.Perm s.entries.keys)
    {key : String} {crl : RevocationList}
    (hentry : s.EntryBacked lib certs key ⟨crl, s.clock⟩) :
    (s.withEntry lib order key crl).Invariant lib certs := by
  have hgrows : s.Grows (s.withEntry lib order key crl) :=
    grows_withEntry order key crl
  apply h.grow hgrows rfl rfl (length_keys_insertEntry_le horder h.bounded)
  · intro key' entry hlookup
    rcases insertEntry_subset hlookup with ⟨rfl, rfl⟩ | hold
    · exact List.mem_cons_self ..
    · exact List.mem_cons_of_mem _ (h.logged key' entry hold)
  · intro key' entry hmem hnew
    rcases List.mem_cons.mp hmem with heq | hold
    · obtain ⟨rfl, rfl⟩ := Prod.mk.inj heq
      exact hentry.mono hgrows
    · exact absurd hold hnew

/-- The state after an execution has handed out its result, before the
waiting calls take it up. -/
def withBroadcast (s : CacheState) (flight : Flight) : CacheState :=
  { s with broadcasts := ⟨flight, s.clock⟩ :: s.broadcasts }

theorem grows_withBroadcast (flight : Flight) :
    s.Grows (s.withBroadcast flight) :=
  ⟨le_rfl, List.Subset.refl _, List.Subset.refl _,
    List.subset_cons_self _ _⟩

theorem Invariant.step
    (hcerts : Set.InjOn (fun cert => lib.sha256 cert.raw) certs)
    {event : CacheEvent} (h : s.Invariant lib certs)
    (hevent : IssuerIn certs event) (hstep : s.step lib event = some s') :
    s'.Invariant lib certs := by
  cases CacheState.step_cases hstep with
  | call id url issuer hfree =>
      exact h.setCall id ⟨hevent, le_rfl, trivial⟩
  | lookup id call hcall hphase =>
      exact h.moveCall hcall fun found hfound => h.logged _ found hfound
  | judge id call entry hcall hphase =>
      exact h.moveCall hcall ((h.calls id call hcall).judged hphase)
  | share id call hcall hphase =>
      have hshared := h.shared (h.calls id call hcall)
      have hwaiting : (s.setCall id { call with
          phase := .waiting }).Invariant lib certs :=
        h.moveCall hcall trivial
      apply hwaiting.setFlight
      rintro _ ⟨⟩
      exact hshared.mono (grows_setCalls _)
  | flightLookup key flight hflight hphase =>
      exact h.moveFlight hflight fun found hfound => h.logged _ found hfound
  | flightJudge key flight entry hflight hphase =>
      exact h.moveFlight hflight
        ((h.flights key flight hflight).judged hphase)
  | fetchDone key flight outcome hflight hphase =>
      have hfetch : (s.withFetch flight.url outcome).Invariant lib certs :=
        h.growLogs (grows_withFetch flight.url outcome) rfl rfl rfl rfl
      exact hfetch.moveFlight hflight
        ((h.flights key flight hflight).fetchJudged outcome)
  | insert key flight crl order hflight hphase horder =>
      have hbacked := h.flights key flight hflight
      have haccepted : s.FlightPhaseBacked lib key flight (.accepted crl) :=
        hphase ▸ hbacked.phase
      have hentry := h.withEntry horder (hbacked.entryBacked hphase)
      apply hentry.moveFlight hflight
      rintro _ ⟨⟩
      exact .inl (haccepted.1.mono (grows_withEntry order key crl) le_rfl)
  | broadcast key flight result hflight hphase =>
      have hgrows : s.Grows (s.withBroadcast flight) :=
        grows_withBroadcast flight
      have hlogged : (s.withBroadcast flight).Invariant lib certs :=
        h.growLogs hgrows rfl rfl rfl rfl
      have hremoved : ((s.withBroadcast flight).setFlight key
          none).Invariant lib certs :=
        hlogged.setFlight (by simp)
      apply hremoved.setCalls
      intro id call hcall
      have hdelivered : (s.withBroadcast flight).CallBacked lib certs call :=
        .deliver hcerts h (h.flights key flight hflight) hphase hgrows
          (List.mem_cons_self ..) hcall
      exact hdelivered.mono (grows_setFlight key none)
  | receive id call result time hcall hphase =>
      exact h.moveCall hcall ((h.calls id call hcall).received hphase)
  | cancel id call err hcall hphase =>
      exact h.moveCall hcall ⟨le_rfl, by simp⟩
  | tick elapsed =>
      have hgrows : s.Grows { s with clock := s.clock + elapsed } :=
        ⟨by simp, List.Subset.refl _, List.Subset.refl _,
          List.Subset.refl _⟩
      exact h.growLogs hgrows rfl rfl rfl rfl
  | close =>
      exact h.grow ⟨le_rfl, List.Subset.refl _, List.Subset.refl _,
        List.Subset.refl _⟩ rfl rfl (by simp) (by simp)
        (fun key' entry hmem hnew => absurd hmem hnew)

theorem Invariant.run
    (hcerts : Set.InjOn (fun cert => lib.sha256 cert.raw) certs)
    {clock : Int} {events : List CacheEvent}
    (hevents : ∀ event ∈ events, IssuerIn certs event)
    (hrun : runSteps (CacheState.step lib) (newCRLCache clock) events =
      some s) :
    s.Invariant lib certs := by
  apply runSteps_invariant _ (newCRLCache_invariant lib certs clock) hrun
  intro t event t' hevent ht hstep
  exact ht.step hcerts (hevents event hevent) hstep

/-- What an entry under the key of a caller holds was fetched from the URL of
that caller. -/
theorem Invariant.entry
    (hcerts : Set.InjOn (fun cert => lib.sha256 cert.raw) certs)
    (h : s.Invariant lib certs) {url : String} {issuer : Certificate}
    (hissuer : issuer ∈ certs) {entry : CrlEntry}
    (hentry : (crlCacheKey lib url issuer, entry) ∈ s.inserted) :
    s.Fetched lib url entry.crl ∧
      verifyCRLIssuer lib entry.crl issuer = .ok () ∧
      lib.crlNextUpdate entry.crl ≠ none := by
  obtain ⟨url', issuer', hissuer', hkey, hbacked⟩ := h.inserted _ entry hentry
  obtain ⟨rfl, rfl⟩ := crlCacheKey_injOn hcerts hissuer hissuer' hkey
  exact hbacked

theorem Invariant.served
    (hcerts : Set.InjOn (fun cert => lib.sha256 cert.raw) certs)
    (h : s.Invariant lib certs) {url : String} {issuer : Certificate}
    (hissuer : issuer ∈ certs) {crl : RevocationList} {start stop : Int}
    (hserved : s.ServedBetween lib (crlCacheKey lib url issuer) crl start
      stop) :
    s.Fetched lib url crl := by
  obtain ⟨entry, time, hmem, rfl, -⟩ := hserved
  exact (h.entry hcerts hissuer hmem).1

theorem Invariant.handedOut
    (hcerts : Set.InjOn (fun cert => lib.sha256 cert.raw) certs)
    (h : s.Invariant lib certs) {call : Call} (hissuer : call.issuer ∈ certs)
    {crl : RevocationList} {stop : Int}
    (hhanded : s.HandedOut lib call crl stop) :
    s.Fetched lib call.url crl := by
  obtain ⟨broadcast, -, -, -, -, -, -, hfetched | hserved⟩ := hhanded
  · exact hfetched.fetched
  · exact h.served hcerts hissuer hserved

/-! ## Failed fetches -/

/-- The fetch errors, its bytes do not parse, or the list is not the one of
the issuer, or it has no next update. -/
def Refused (lib : X509Library) (issuer : Certificate) :
    Except GoError (List UInt8) → Prop
  | .error _ => True
  | .ok data =>
      match lib.parseRevocationList ((lib.pemDecode data).getD data) with
      | .error _ => True
      | .ok crl =>
          verifyCRLIssuer lib crl issuer ≠ .ok () ∨
            lib.crlNextUpdate crl = none

theorem fetchJudged_of_refused {flight : Flight}
    {outcome : Except GoError (List UInt8)}
    (h : Refused lib flight.issuer outcome) :
    ∃ err, fetchJudged lib flight outcome = .finished (.error err) := by
  cases outcome with
  | error err => exact ⟨tagFetchError err, rfl⟩
  | ok data =>
      unfold fetchJudged
      simp only
      split
      next err hinvalid => exact ⟨err, rfl⟩
      next crl hvalid =>
        obtain ⟨hparse, hverify, hnext⟩ := validateCRL_eq_ok_iff.mp hvalid
        simp only [Refused, hparse] at h
        rcases h with hbad | hmissing
        · exact absurd hverify hbad
        · exact absurd hmissing hnext

/-- The execution which takes the step. -/
def flightKey : CacheEvent → Option String
  | .flightLookup key => some key
  | .flightJudge key => some key
  | .fetchDone key _ => some key
  | .insert key _ => some key
  | .broadcast key => some key
  | _ => none

/-- An execution in flight is moved by its own steps only. -/
theorem flights_of_other {event : CacheEvent} {key : String}
    {flight : Flight} (hstep : s.step lib event = some s')
    (hevent : flightKey event ≠ some key)
    (hflight : s.flights key = some flight) :
    s'.flights key = some flight := by
  have hother : ∀ {key' : String} {next : Option Flight},
      flightKey event = some key' →
      Function.update s.flights key' next key = some flight := by
    intro key' next hkey'
    have hkey : key ≠ key' := by
      rintro rfl
      exact hevent hkey'
    rw [Function.update_of_ne hkey, hflight]
  cases CacheState.step_cases hstep with
  | share id call hcall hmissed =>
      by_cases hkey : key = call.key lib
      · subst hkey
        simp [setFlight, CacheState.shared, hflight]
      · simp [setFlight, setCall, hkey, hflight]
  | flightLookup key' flight' hflight' hphase' => exact hother rfl
  | flightJudge key' flight' entry hflight' hphase' => exact hother rfl
  | fetchDone key' flight' outcome hflight' hphase' => exact hother rfl
  | insert key' flight' crl order hflight' hphase' horder => exact hother rfl
  | broadcast key' flight' result' hflight' hphase' => exact hother rfl
  | _ => exact hflight

theorem flights_of_finished {event : CacheEvent} {key : String}
    {flight : Flight} {result : Except GoError RevocationList}
    (hstep : s.step lib event = some s') (hevent : event ≠ .broadcast key)
    (hflight : s.flights key = some flight)
    (hphase : flight.phase = .finished result) :
    s'.flights key = some flight := by
  apply flights_of_other hstep _ hflight
  intro hkey
  cases CacheState.step_cases hstep with
  | broadcast key' flight' result' hflight' hphase' =>
      exact hevent (congrArg CacheEvent.broadcast (Option.some.inj hkey))
  | flightLookup _ _ hflight' hphase' => simp_all [flightKey]
  | flightJudge _ _ _ hflight' hphase' => simp_all [flightKey]
  | fetchDone _ _ _ hflight' hphase' => simp_all [flightKey]
  | insert _ _ _ _ hflight' hphase' => simp_all [flightKey]
  | _ => simp [flightKey] at hkey

theorem flights_of_finished_run {events : List CacheEvent} {key : String}
    {flight : Flight} {result : Except GoError RevocationList}
    (hrun : runSteps (CacheState.step lib) s events = some s')
    (hevents : .broadcast key ∉ events)
    (hflight : s.flights key = some flight)
    (hphase : flight.phase = .finished result) :
    s'.flights key = some flight := by
  refine runSteps_invariant (P := fun t => t.flights key = some flight) ?_
    hflight hrun
  intro t event t' hevent ht hstep
  have hne : event ≠ .broadcast key := by
    rintro rfl
    exact hevents hevent
  exact flights_of_finished hstep hne ht hphase

/-- An execution whose fetch is refused changes no entry: it is finished at
once, and under its key nothing is inserted until it is gone. -/
theorem entries_of_refused {key : String} {flight : Flight}
    {outcome : Except GoError (List UInt8)}
    (hstep : s.step lib (.fetchDone key outcome) = some s')
    (hflight : s.flights key = some flight)
    (hrefused : Refused lib flight.issuer outcome) :
    s'.entries = s.entries ∧
      ∀ middle order rest final,
        runSteps (CacheState.step lib) s'
          (middle ++ .insert key order :: rest) = some final →
        .broadcast key ∈ middle := by
  cases CacheState.step_cases hstep with
  | fetchDone _ flight' _ hflight' hphase =>
      obtain rfl : flight = flight' := by simpa [hflight] using hflight'
      refine ⟨rfl, ?_⟩
      intro middle order rest final hrun
      by_contra hmiddle
      obtain ⟨mid, hmid, hinsert⟩ := runSteps_append.mp hrun
      obtain ⟨next, hnext, -⟩ := runSteps_cons.mp hinsert
      obtain ⟨err, herr⟩ := fetchJudged_of_refused hrefused
      have hkept : mid.flights key = some { flight with
          phase := fetchJudged lib flight outcome } :=
        flights_of_finished_run hmid hmiddle (by simp [setFlight]) herr
      cases CacheState.step_cases hnext with
      | insert _ flight' crl _ hflight' haccepted _ =>
          obtain rfl := Option.some.inj (hkept.symm.trans hflight')
          simp [herr] at haccepted

end CacheState

/-! ## Every run -/

/-- Whatever the calls, the completions of fetches, the clock, the order of
the steps and the closings: the entries are bounded and genuine, what is
returned is genuine and was fresh or obtained by the execution the call
waited for, a refused fetch changes nothing, and keys are not confused. -/
theorem crlCache_safe (lib : X509Library) (certs : Set Certificate)
    (hcerts : Set.InjOn (fun cert => lib.sha256 cert.raw) certs)
    (clock : Int) (events : List CacheEvent)
    (hevents : ∀ event ∈ events, CacheState.IssuerIn certs event)
    (s : CacheState)
    (hrun : runSteps (CacheState.step lib) (newCRLCache clock) events =
      some s) :
    s.entries.keys.length ≤ crlMaxEntries ∧
    ((∀ key ∈ s.entries, ∃ url, ∃ issuer ∈ certs,
        key = crlCacheKey lib url issuer) ∧
      ∀ url, ∀ issuer ∈ certs, ∀ entry,
        s.entries.lookup (crlCacheKey lib url issuer) = some entry →
        s.Fetched lib url entry.crl ∧
          verifyCRLIssuer lib entry.crl issuer = .ok () ∧
          lib.crlNextUpdate entry.crl ≠ none) ∧
    (∀ id call crl time, s.calls id = some call →
      call.phase = .returned (.ok crl) time →
      s.Fetched lib call.url crl ∧
        verifyCRLIssuer lib crl call.issuer = .ok () ∧
        (s.ServedBetween lib (call.key lib) crl call.startedAt time ∨
          s.HandedOut lib call crl time)) ∧
    (∀ before key outcome after t t' flight,
      events = before ++ .fetchDone key outcome :: after →
      runSteps (CacheState.step lib) (newCRLCache clock) before = some t →
      t.step lib (.fetchDone key outcome) = some t' →
      t.flights key = some flight →
      CacheState.Refused lib flight.issuer outcome →
      t'.entries = t.entries ∧
        ∀ middle order rest, after = middle ++ .insert key order :: rest →
          .broadcast key ∈ middle) ∧
    (∀ url url', ∀ issuer ∈ certs, ∀ issuer' ∈ certs,
      crlCacheKey lib url issuer = crlCacheKey lib url' issuer' →
      url = url' ∧ issuer = issuer') := by
  have hinv : s.Invariant lib certs :=
    CacheState.Invariant.run hcerts hevents hrun
  refine ⟨hinv.bounded, ⟨?_, ?_⟩, ?_, ?_, ?_⟩
  · intro key hkey
    obtain ⟨entry, hentry⟩ :=
      Option.isSome_iff_exists.mp (AList.lookup_isSome.mpr hkey)
    obtain ⟨url, issuer, hissuer, hkey, -⟩ :=
      hinv.inserted key entry (hinv.logged key entry hentry)
    exact ⟨url, issuer, hissuer, hkey⟩
  · intro url issuer hissuer entry hentry
    exact hinv.entry hcerts hissuer (hinv.logged _ entry hentry)
  · intro id call crl time hcall hphase
    have hbacked := hinv.calls id call hcall
    have hreturned : s.CallPhaseBacked lib call
        (.returned (.ok crl) time) := hphase ▸ hbacked.phase
    obtain ⟨hverify, hsource⟩ := hreturned.2 crl rfl
    refine ⟨?_, hverify, hsource⟩
    rcases hsource with hserved | hhanded
    · exact hinv.served hcerts hbacked.issuer_mem hserved
    · exact hinv.handedOut hcerts hbacked.issuer_mem hhanded
  · rintro before key outcome after t t' flight rfl hbefore hstep hflight
      hrefused
    obtain ⟨hentries, hlater⟩ :=
      CacheState.entries_of_refused hstep hflight hrefused
    refine ⟨hentries, ?_⟩
    rintro middle order rest rfl
    obtain ⟨mid, hmid, hafter⟩ := runSteps_append.mp hrun
    obtain rfl := Option.some.inj (hbefore.symm.trans hmid)
    obtain ⟨next, hnext, hafter⟩ := runSteps_cons.mp hafter
    obtain rfl := Option.some.inj (hstep.symm.trans hnext)
    exact hlater middle order rest s hafter
  · intro url url' issuer hissuer issuer' hissuer' hkey
    exact crlCacheKey_injOn hcerts hissuer hissuer' hkey

/-! ## A late caller -/

/-- One issuer, whose lists are their own encodings and expire at time
ten. -/
def shortLivedLists : X509Library where
  rawSubject := fun _ => [1]
  subject := fun _ => "CN=issuer"
  notBefore := fun _ => 0
  notAfter := fun _ => 100
  crlDistributionPoints := fun _ => ["http://crl.example/list"]
  checkSignatureFrom := fun _ _ => .ok ()
  crlRawIssuer := fun _ => [1]
  crlIssuer := fun _ => "CN=issuer"
  crlNextUpdate := fun _ => some 10
  crlCheckSignatureFrom := fun _ _ => .ok ()
  pemDecode := fun _ => none
  parseRevocationList := fun data => .ok ⟨data⟩
  sha256 := fun _ => zeroHash
  formatTime := fun _ => ""

/-- The second call comes after the fetch of the first has completed, and
before its result has been inserted. -/
def lateCall : List CacheEvent :=
  let issuer : Certificate := ⟨[1]⟩
  let url := "http://crl.example/list"
  let key := crlCacheKey shortLivedLists url issuer
  [.call 0 url issuer, .lookup 0, .judge 0, .share 0, .flightLookup key,
    .flightJudge key, .fetchDone key (.ok [7]), .tick 20,
    .call 1 url issuer, .lookup 1, .judge 1, .share 1, .insert key [],
    .broadcast key, .receive 1]

/-- The second call returned a list, at the time it started, and every fetch
was earlier. -/
def CacheState.servedLate (s : CacheState) : Bool :=
  match s.calls 1 with
  | some ⟨_, _, startedAt, .returned (.ok _) time⟩ =>
      startedAt = 20 && time = 20 && s.fetched.all fun record =>
        record.time < 20
  | _ => false

theorem servedLate_lateCall :
    (runSteps (CacheState.step shortLivedLists) (newCRLCache 0)
      lateCall).any CacheState.servedLate = true := by
  decide

theorem lateCall_issuerIn :
    ∀ event ∈ lateCall, CacheState.IssuerIn {⟨[1]⟩} event := by
  simp [lateCall, CacheState.IssuerIn]

theorem exists_servedLate :
    ∃ s call crl, runSteps (CacheState.step shortLivedLists)
        (newCRLCache 0) lateCall = some s ∧
      s.calls 1 = some call ∧ call.phase = .returned (.ok crl) 20 ∧
      call.startedAt = 20 ∧ ∀ record ∈ s.fetched, record.time < 20 := by
  obtain ⟨s, hrun, hlate⟩ :=
    (Option.any_eq_true _ _).mp servedLate_lateCall
  unfold CacheState.servedLate at hlate
  split at hlate
  next url issuer startedAt crl time hcall =>
    simp only [Bool.and_eq_true, decide_eq_true_eq, List.all_eq_true] at hlate
    obtain ⟨⟨rfl, rfl⟩, hfetched⟩ := hlate
    exact ⟨s, _, crl, hrun, hcall, rfl, rfl, hfetched⟩
  next => simp at hlate

theorem crlCache_safe_lateCall :
    ∃ s call crl, runSteps (CacheState.step shortLivedLists)
        (newCRLCache 0) lateCall = some s ∧
      s.entries.keys.length ≤ crlMaxEntries ∧
      s.calls 1 = some call ∧ s.Fetched shortLivedLists call.url crl := by
  obtain ⟨s, call, crl, hrun, hcall, hphase, -, -⟩ := exists_servedLate
  obtain ⟨hbounded, -, hreturned, -, -⟩ :=
    crlCache_safe shortLivedLists {⟨[1]⟩} (Set.injOn_singleton _ _) 0
      lateCall lateCall_issuerIn s hrun
  exact ⟨s, call, crl, hrun, hbounded, hcall,
    (hreturned 1 call crl 20 hcall hphase).1⟩

/-- A call may be handed a list which was fetched before it started, and
which has expired since then. -/
theorem returned_not_fetched_during_call :
    ¬ ∀ (lib : X509Library) (certs : Set Certificate),
      Set.InjOn (fun cert => lib.sha256 cert.raw) certs →
      ∀ (clock : Int) (events : List CacheEvent),
        (∀ event ∈ events, CacheState.IssuerIn certs event) →
        ∀ s, runSteps (CacheState.step lib) (newCRLCache clock) events =
            some s →
          ∀ id call crl time, s.calls id = some call →
            call.phase = .returned (.ok crl) time →
            s.FetchedBetween lib call.url crl call.startedAt time ∨
              s.ServedBetween lib (call.key lib) crl call.startedAt time := by
  intro h
  obtain ⟨s, call, crl, hrun, hcall, hphase, hstarted, hfetched⟩ :=
    exists_servedLate
  rcases h shortLivedLists {⟨[1]⟩} (Set.injOn_singleton _ _) 0 lateCall
    lateCall_issuerIn s hrun 1 call crl 20 hcall hphase with
    ⟨record, hmem, -, hstart, -⟩ | ⟨entry, time, -, -, hstart, -, hfresh⟩
  · have hearly := hfetched record hmem
    omega
  · obtain ⟨-, nextUpdate, hnext, hle⟩ := hfresh
    obtain rfl : 10 = nextUpdate := by simpa [shortLivedLists] using hnext
    omega

end VerifierApi

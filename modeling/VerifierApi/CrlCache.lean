import VerifierApi.HttpFetcher
import VerifierApi.IndexerStore
import VerifierApi.TracedRun

/-!
# The CRL cache

Certificates and revocation lists are their encodings; what the service reads
off them is read by the library.  A call reads the entries, shares a fetch
with other calls and waits for it.  Here a call is a function of what it
observed on the way; the machine which produces these observations is a
module of its own.
-/

namespace VerifierApi

structure Certificate where
  raw : List UInt8
deriving DecidableEq, Repr

structure RevocationList where
  raw : List UInt8
deriving DecidableEq, Repr

/-- What the service uses of the certificate library.  A missing next update
is the zero time; times are nanoseconds. -/
structure X509Library where
  rawSubject : Certificate → List UInt8
  subject : Certificate → String
  notBefore : Certificate → Int
  notAfter : Certificate → Int
  crlDistributionPoints : Certificate → List String
  checkSignatureFrom : Certificate → Certificate → Except ExternalError Unit
  crlRawIssuer : RevocationList → List UInt8
  crlIssuer : RevocationList → String
  crlNextUpdate : RevocationList → Option Int
  crlCheckSignatureFrom :
    RevocationList → Certificate → Except ExternalError Unit
  pemDecode : List UInt8 → Option (List UInt8)
  parseRevocationList : List UInt8 → Except ExternalError RevocationList
  sha256 : List UInt8 → Hash
  formatTime : Int → String

/-! ## What a run reports -/

/-- Something that went wrong in a run, by its cause.  A failed check is a
fault without a cause outside the verifier. -/
inductive Fault where
  | cancelled (err : ContextError)
  | proxyLookup (err : ExternalError)
  | proxyExchange (exchange : Exchange)
  | crlLookup (err : ExternalError)
  | crlExchange (exchange : Exchange)
  | relayLookup (err : ExternalError)
  | check

inductive TeeEvent where
  | crlFetch (url : String) (issuer : Certificate)
  | fault (fault : Fault)

abbrev TeeRun (α : Type) := Traced GoError TeeEvent α

/-- A check: its failure is a fault of the run. -/
def TeeRun.check {α : Type} (x : Except GoError α) : TeeRun α :=
  Traced.lift (.fault .check) x

/-! ## Entries -/

structure CrlEntry where
  crl : RevocationList
  fetchedAt : Int
deriving DecidableEq, Repr

abbrev CrlEntries := AList fun _ : String => CrlEntry

def crlMaxEntries : ℕ := 100

/-- Four hours in nanoseconds. -/
def crlMaxCacheTTL : Int := 4 * 60 * 60 * 1000000000

section Cache

variable (lib : X509Library)

def crlCacheKey (url : String) (issuer : Certificate) : String :=
  url ++ "|" ++ String.ofList (hexDigits (lib.sha256 issuer.raw).bytes)

def verifyCRLIssuer (crl : RevocationList) (issuer : Certificate) :
    Except GoError Unit := do
  ensure (lib.crlRawIssuer crl = lib.rawSubject issuer)
    (.new
      s!"CRL issuer {quote (lib.crlIssuer crl)} is not the certificate subject {quote (lib.subject issuer)}")
  (lib.crlCheckSignatureFrom crl issuer).mapError
    fun err : ExternalError => err.toGoError

def isEntryStale (now : Int) (entry : CrlEntry) : Bool :=
  if now > entry.fetchedAt + crlMaxCacheTTL then true
  else
    match lib.crlNextUpdate entry.crl with
    | none => true
    | some nextUpdate => now > nextUpdate

def evictStaleEntries (now : Int) (entries : CrlEntries) : CrlEntries :=
  ⟨entries.entries.filter fun entry => !isEntryStale lib now entry.2,
    entries.nodupKeys.sublist List.filter_sublist⟩

/-- One iteration over the map: the older of the entry so far and the next. -/
def olderEntry (entries : CrlEntries) (oldest : Option (String × Int))
    (key : String) : Option (String × Int) :=
  match entries.lookup key with
  | none => oldest
  | some entry =>
      match oldest with
      | none => some (key, entry.fetchedAt)
      | some (oldestKey, oldestTime) =>
          if entry.fetchedAt < oldestTime then some (key, entry.fetchedAt)
          else some (oldestKey, oldestTime)

/-- The first of the oldest entries, in the order of the iteration. -/
def oldestEntry (entries : CrlEntries) (order : List String) :
    Option (String × Int) :=
  order.foldl (olderEntry entries) none

def evictOldestEntry (entries : CrlEntries) (order : List String) :
    CrlEntries :=
  match oldestEntry entries order with
  | none => entries
  | some (oldestKey, _) => entries.erase oldestKey

/-- The locked section of a successful fetch.  Room is made for a new key
only, by dropping what is stale and then, if that is not enough, one of the
oldest entries. -/
def insertEntry (entries : CrlEntries) (order : List String) (now : Int)
    (key : String) (crl : RevocationList) : CrlEntries :=
  let room :=
    if key ∉ entries ∧ crlMaxEntries ≤ entries.keys.length then
      let fresh := evictStaleEntries lib now entries
      if crlMaxEntries ≤ fresh.keys.length then
        evictOldestEntry fresh order
      else fresh
    else entries
  room.insert key ⟨crl, now⟩

/-- The answer for the entry which was read under the lock: a stale entry is a
miss, a fresh one must verify against the issuer of the caller. -/
def cachedFresh (now : Int) (issuer : Certificate) :
    Option CrlEntry → Except GoError (Option RevocationList)
  | none => .ok none
  | some entry =>
      if isEntryStale lib now entry then .ok none
      else do
        (verifyCRLIssuer lib entry.crl issuer).mapError
          (.wrapf "cached CRL does not verify against the supplied issuer")
        .ok (some entry.crl)

/-! ## Fetches -/

def fetchCRLBytes (urls : UrlLibrary) (url : String)
    (lookup : LookupAnswer) (exchange : Exchange) :
    Except GoError (List UInt8) := do
  let _ ← (resolveExternalURL urls lookup url false).mapError
    (.wrapf s!"resolving CRL URL {url}")
  Fetcher.fetchBytesPinned url exchange

/-- The fault behind a failed fetch. -/
def fetchCRLFault (urls : UrlLibrary) (url : String)
    (lookup : LookupAnswer) (exchange : Exchange) : Fault :=
  match resolveExternalURL urls lookup url false with
  | .ok _ => .crlExchange exchange
  | .error _ =>
      match lookupError urls lookup url false with
      | some err => .crlLookup err
      | none => .check

def asHTTPStatusError : Mark → Option Int
  | .httpStatusError code => some code
  | _ => none

def asDNSError : Mark → Option (Bool × Bool)
  | .external (.dnsError isTemporary isTimeout) =>
      some (isTemporary, isTimeout)
  | _ => none

def isTransientFetchError (err : GoError) : Bool :=
  if err.has .redirect || err.has .notFound || err.has .responseTooLarge then
    false
  else
    match err.as? asHTTPStatusError with
    | some code => (500 ≤ code && code < 600) || code = 408 || code = 429
    | none =>
        match err.as? asDNSError with
        | some (isTemporary, isTimeout) => isTemporary || isTimeout
        | none => err.has .httpFetch || err.isContextError

/-- Only a transient failure is marked as an outage of the check. -/
def tagFetchError (err : GoError) : GoError :=
  if isTransientFetchError err then
    .wrapf2 "fetching CRL" errTEERevocationUnavailable err
  else .wrapf "fetching CRL" err

def validateCRL (url : String) (issuer : Certificate)
    (data : List UInt8) : Except GoError RevocationList := do
  let crl ← (lib.parseRevocationList ((lib.pemDecode data).getD data)).mapError
    fun err : ExternalError => .wrapf "parsing CRL" err
  (verifyCRLIssuer lib crl issuer).mapError
    (.wrapf "CRL issuer verification failed")
  ensure (lib.crlNextUpdate crl ≠ none)
    (.new
      s!"CRL from {url} has no NextUpdate; refusing a CRL without a validity horizon")
  .ok crl

/-- The shared result, verified once more against the caller's issuer. -/
def receiveCRL (issuer : Certificate) (crl : RevocationList) :
    Except GoError RevocationList := do
  (verifyCRLIssuer lib crl issuer).mapError
    (.wrapf "shared CRL result does not verify against the supplied issuer")
  .ok crl

/-! ## Calls -/

/-- What a shared execution observes: the entry and the clock of its second
look at the cache, and the outcome of the fetch.  It may have been started by
another call. -/
structure FlightView where
  entry : Option CrlEntry
  now : Int
  lookup : LookupAnswer
  exchange : Exchange
  joined : Bool

/-- What a call observes: the entry and the clock of its first look, the
execution it shares, and whether its context ended while it waited. -/
structure CallView where
  entry : Option CrlEntry
  now : Int
  flight : FlightView
  cancelled : Option ContextError

/-- The fetches which an execution issues on behalf of the call. -/
def FlightView.fetches (view : FlightView) (url : String)
    (issuer : Certificate) : List TeeEvent :=
  if view.joined then []
  else
    match cachedFresh lib view.now issuer view.entry with
    | .ok none => [.crlFetch url issuer]
    | _ => []

def runFlight (urls : UrlLibrary) (url : String) (issuer : Certificate)
    (view : FlightView) : TeeRun RevocationList := do
  let hit ← TeeRun.check (cachedFresh lib view.now issuer view.entry)
  match hit with
  | some crl => pure crl
  | none => do
      let data ← Traced.lift
        (.fault (fetchCRLFault urls url view.lookup view.exchange))
        ((fetchCRLBytes urls url view.lookup view.exchange).mapError
          tagFetchError)
      TeeRun.check (validateCRL lib url issuer data)

/-- A call with an issuer. -/
def callCRL (urls : UrlLibrary) (url : String) (issuer : Certificate)
    (view : CallView) : TeeRun RevocationList := do
  let hit ← TeeRun.check (cachedFresh lib view.now issuer view.entry)
  match hit with
  | some crl => pure crl
  | none => do
      Traced.report (view.flight.fetches lib url issuer)
      match view.cancelled with
      | some cause =>
          Traced.fail (.fault (.cancelled cause)) cause.toExternal.toGoError
      | none => do
          let crl ← runFlight lib urls url issuer view.flight
          TeeRun.check (receiveCRL lib issuer crl)

def getOrFetchCRL (urls : UrlLibrary) (url : String)
    (issuer : Option Certificate) (view : CallView) :
    TeeRun RevocationList :=
  match issuer with
  | none =>
      TeeRun.check
        (.error (.new "an issuer certificate is required to fetch a CRL"))
  | some issuer => callCRL lib urls url issuer view

inductive CertName where
  | leaf
  | intermediate
deriving DecidableEq, Repr

def CertName.text : CertName → String
  | .leaf => "leaf"
  | .intermediate => "intermediate"

/-- The loop over the distribution points, with the errors so far. -/
def fetchFirstFrom (urls : UrlLibrary) (certName : CertName)
    (issuer : Certificate) (views : ℕ → CallView) :
    List String → ℕ → List GoError → TeeRun RevocationList
  | [], _, errs =>
      ⟨.error (.wrapf
        s!"fetching {certName.text} CRL failed for all distribution points"
        (.join errs)), []⟩
  | url :: rest, i, errs =>
      let call := getOrFetchCRL lib urls url (some issuer) (views i)
      match call.result with
      | .ok crl => ⟨.ok crl, call.events⟩
      | .error err =>
          let others := fetchFirstFrom urls certName issuer views rest (i + 1)
            (errs ++ [.wrapf url err])
          ⟨others.result, call.events ++ others.events⟩

def fetchFirstCRL (urls : UrlLibrary) (certName : CertName)
    (distributionPoints : List String) (issuer : Certificate)
    (views : ℕ → CallView) : TeeRun (Option RevocationList) :=
  if distributionPoints.isEmpty then pure none
  else do
    let crl ← fetchFirstFrom lib urls certName issuer views
      distributionPoints 0 []
    pure (some crl)

/-! ## The chain of a token -/

def checkCertValidity (cert : Certificate) (name : String) (now : Int) :
    Except GoError Unit := do
  ensure (lib.notBefore cert ≤ now)
    (.new
      s!"{name} certificate not yet valid (NotBefore={lib.formatTime (lib.notBefore cert)})")
  ensure (now ≤ lib.notAfter cert)
    (.new
      s!"{name} certificate expired (NotAfter={lib.formatTime (lib.notAfter cert)})")

def validateX5CChain (root intermediate leaf : Certificate) (now : Int) :
    Except GoError Unit := do
  checkCertValidity lib root "root" now
  checkCertValidity lib intermediate "intermediate" now
  checkCertValidity lib leaf "leaf" now
  (lib.checkSignatureFrom intermediate root).mapError
    fun err : ExternalError =>
      .wrapf "intermediate not signed by root" err
  (lib.checkSignatureFrom leaf intermediate).mapError
    fun err : ExternalError =>
      .wrapf "leaf not signed by intermediate" err

end Cache

structure X5CCertificates where
  root : Certificate
  intermediate : Certificate
  leaf : Certificate
deriving DecidableEq, Repr

/-- The `x5c` entry of a token header, of any JSON type. -/
inductive X5CHeader (J : Type) where
  | missing
  | slice (values : List J)
  | other

/-- The unverified parser of the attestation library and its certificate
extraction. -/
structure TokenLibrary (J : Type) where
  parsePKITokenUnverified : String → Except ExternalError (X5CHeader J)
  extractCertificatesFromX5CHeader :
    List J → Except ExternalError X5CCertificates

section Token

variable {J : Type} (lib : X509Library) (tokens : TokenLibrary J)

def tokenCertificates (attestationToken : String) :
    Except GoError X5CCertificates := do
  let header ← (tokens.parsePKITokenUnverified attestationToken).mapError
    fun err : ExternalError => ErrorValue.wrapf "parsing unverified token" err
  match header with
  | .missing => .error (.new "x5c header missing from token")
  | .other => .error (.new "x5c header is not a slice")
  | .slice values =>
      (tokens.extractCertificatesFromX5CHeader values).mapError
        fun err : ExternalError => .wrapf "extracting certificates" err

/-- The chain of a token, accepted before any of its URLs is used.  Without
a trusted root its root is not compared. -/
def acceptedChain (attestationToken : String)
    (expectedRoot : Option Certificate) (now : Int) :
    Except GoError X5CCertificates := do
  let certs ← tokenCertificates tokens attestationToken
  ensure (∀ root, expectedRoot = some root → root.raw = certs.root.raw)
    (.new "token root certificate does not match trusted root")
  (validateX5CChain lib certs.root certs.intermediate certs.leaf
    now).mapError (.wrapf "x5c chain validation failed")
  .ok certs

/-- The observations of one token run: the clock of the chain check, those of
the calls of the two goroutines, and their schedule. -/
structure TokenView where
  now : Int
  calls : CertName → ℕ → CallView
  schedule : List Side

def fetchCRLsForToken (urls : UrlLibrary) (view : TokenView)
    (attestationToken : String) (expectedRoot : Option Certificate) :
    TeeRun (Option RevocationList × Option RevocationList) := do
  let certs ← TeeRun.check
    (acceptedChain lib tokens attestationToken expectedRoot view.now)
  let (leafRes, intermediateRes) ← forkJoin view.schedule
    (fetchFirstCRL lib urls .leaf (lib.crlDistributionPoints certs.leaf)
      certs.intermediate (view.calls .leaf))
    (fetchFirstCRL lib urls .intermediate
      (lib.crlDistributionPoints certs.intermediate) certs.root
      (view.calls .intermediate))
  let leafCRL ← Traced.ofExcept leafRes
  let intermediateCRL ← Traced.ofExcept intermediateRes
  pure (leafCRL, intermediateCRL)

end Token

end VerifierApi

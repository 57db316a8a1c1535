import VerifierApi.CrlCache

/-!
# Pinned resolution

A resolved URL carries the address that the connection is dialled to.  The
address has passed the check of the mode, and so has every other address of
the same host.  The strict mode accepts a part of what the relaxed mode
accepts; certificate revocation lists are always fetched in the strict one.
-/

namespace VerifierApi

/-- The addresses which a mode refuses. -/
def blockedIP (allowPrivateNetworks : Bool) (ip : List UInt8) : Bool :=
  if allowPrivateNetworks then isDangerousIP ip else isPrivateOrLocalIP ip

theorem checkIP_eq_ok_iff {allowPrivateNetworks : Bool} {ip : List UInt8}
    {message : String → String} {u : Unit} :
    checkIP allowPrivateNetworks ip message = .ok u ↔
      blockedIP allowPrivateNetworks ip = false := by
  cases allowPrivateNetworks with
  | true => simp [checkIP, blockedIP, ensure_eq_ok]
  | false => simp [checkIP, blockedIP, ensure_eq_ok]

theorem blockedIP_relaxed {ip : List UInt8}
    (h : blockedIP false ip = false) : blockedIP true ip = false := by
  have hstrict : isPrivateOrLocalIP ip = false := h
  unfold isPrivateOrLocalIP at hstrict
  rw [Bool.or_eq_false_iff] at hstrict
  exact hstrict.1

/-! ## Resolution -/

/-- The host as it is checked: in lower case, and without one trailing
dot. -/
def normalizedHost (lib : UrlLibrary) (parsedURL : ParsedURL) : String :=
  trimSuffix (toLower lib parsedURL.hostname) "."

/-- The checks which a parsed URL has passed. -/
structure AcceptedURL (lib : UrlLibrary) (rawURL : String)
    (allowPrivateNetworks : Bool) (parsedURL : ParsedURL) : Prop where
  length : rawURL.utf8ByteSize ≤ 2048
  parses : lib.parse rawURL = .ok parsedURL
  scheme : parsedURL.scheme = "http" ∨ parsedURL.scheme = "https"
  host : parsedURL.host ≠ ""
  userinfo : parsedURL.hasUserinfo = false
  hostname : normalizedHost lib parsedURL ≠ ""
  notLocal : allowPrivateNetworks = false →
    normalizedHost lib parsedURL ≠ "localhost" ∧
      hasSuffix (normalizedHost lib parsedURL) ".localhost" = false

/-- The address is the literal host itself, or the first one of a resolved
host; no address of the host is blocked. -/
def PinnedTo (lib : UrlLibrary) (lookup : LookupAnswer)
    (allowPrivateNetworks : Bool) (host : String) (ip : List UInt8) : Prop :=
  (lib.parseIP host = some ip ∧ blockedIP allowPrivateNetworks ip = false) ∨
    (lib.parseIP host = none ∧ ∃ rest, lookup = .ok (ip :: rest) ∧
      ∀ other ∈ ip :: rest, blockedIP allowPrivateNetworks other = false)

variable {lib : UrlLibrary} {lookup : LookupAnswer} {rawURL : String}
  {allowPrivateNetworks : Bool}

theorem validateURL_eq_ok_iff {parsedURL : ParsedURL} {host : String} :
    validateURL lib rawURL allowPrivateNetworks = .ok (parsedURL, host) ↔
      AcceptedURL lib rawURL allowPrivateNetworks parsedURL ∧
        host = normalizedHost lib parsedURL := by
  have hlocal : ∀ name : String, (allowPrivateNetworks = true ∨
        ¬ (name = "localhost" ∨ hasSuffix name ".localhost" = true)) ↔
      (allowPrivateNetworks = false →
        name ≠ "localhost" ∧ hasSuffix name ".localhost" = false) := by
    intro name
    cases allowPrivateNetworks with
    | true => simp
    | false => simp [not_or]
  simp only [validateURL, bind_eq_ok, ensure_eq_ok, mapError_eq_ok,
    exists_const, hlocal, Except.ok.injEq, Prod.mk.injEq]
  constructor
  · rintro ⟨hlength, parsed, hparse, hscheme, hhost, huser, hname, hnotLocal,
      rfl, rfl⟩
    exact ⟨⟨hlength, hparse, hscheme, hhost, huser, hname, hnotLocal⟩, rfl⟩
  · rintro ⟨h, rfl⟩
    exact ⟨h.length, parsedURL, h.parses, h.scheme, h.host, h.userinfo,
      h.hostname, h.notLocal, rfl, rfl⟩

theorem resolveHost_eq_ok_iff {host : String} {ip : List UInt8} :
    resolveHost lib lookup allowPrivateNetworks host = .ok ip ↔
      PinnedTo lib lookup allowPrivateNetworks host ip := by
  unfold resolveHost PinnedTo
  cases hliteral : lib.parseIP host with
  | some literal =>
      simp only [bind_eq_ok, checkIP_eq_ok_iff, exists_const,
        Except.ok.injEq, Option.some.injEq, reduceCtorEq, false_and, or_false]
      constructor
      · rintro ⟨hsafe, rfl⟩
        exact ⟨rfl, hsafe⟩
      · rintro ⟨rfl, hsafe⟩
        exact ⟨hsafe, rfl⟩
  | none =>
      simp only [bind_eq_ok, mapError_eq_ok, require_eq_ok, Except.ok.injEq,
        reduceCtorEq, false_and, false_or, true_and]
      constructor
      · rintro ⟨resolvedIPs, rfl, first, hfirst, checked, hchecked, rfl⟩
        obtain ⟨rest, rfl⟩ := List.head?_eq_some_iff.mp hfirst
        refine ⟨rest, rfl, ?_⟩
        intro other hother
        obtain ⟨_, -, hother⟩ :=
          forall₂_exists_right (mapM_eq_ok_iff.mp hchecked) hother
        exact checkIP_eq_ok_iff.mp hother
      · rintro ⟨rest, rfl, hsafe⟩
        refine ⟨ip :: rest, rfl, ip, rfl, (ip :: rest).map fun _ => (), ?_,
          rfl⟩
        apply mapM_eq_ok_map
        intro other hother
        exact checkIP_eq_ok_iff.mpr (hsafe other hother)

/-- A resolution accepts the URL and pins an address of its host. -/
theorem resolveExternalURL_eq_ok_iff {resolved : ResolvedURL} :
    resolveExternalURL lib lookup rawURL allowPrivateNetworks =
        .ok resolved ↔
      ∃ parsedURL ip,
        AcceptedURL lib rawURL allowPrivateNetworks parsedURL ∧
        PinnedTo lib lookup allowPrivateNetworks
          (normalizedHost lib parsedURL) ip ∧
        resolved = ⟨parsedURL.scheme, parsedURL.host, parsedURL.hostname,
          parsedURL.port, ip⟩ := by
  unfold resolveExternalURL
  simp only [bind_eq_ok, Prod.exists, validateURL_eq_ok_iff,
    resolveHost_eq_ok_iff, Except.ok.injEq]
  constructor
  · rintro ⟨parsedURL, host, ⟨haccepted, rfl⟩, ip, hpinned, rfl⟩
    exact ⟨parsedURL, ip, haccepted, hpinned, rfl⟩
  · rintro ⟨parsedURL, ip, haccepted, hpinned, rfl⟩
    exact ⟨parsedURL, _, ⟨haccepted, rfl⟩, ip, hpinned, rfl⟩

theorem PinnedTo.safe {host : String} {ip : List UInt8}
    (h : PinnedTo lib lookup allowPrivateNetworks host ip) :
    blockedIP allowPrivateNetworks ip = false := by
  rcases h with ⟨-, hsafe⟩ | ⟨-, rest, -, hsafe⟩
  · exact hsafe
  · exact hsafe ip List.mem_cons_self

theorem PinnedTo.relaxed {host : String} {ip : List UInt8}
    (h : PinnedTo lib lookup false host ip) :
    PinnedTo lib lookup true host ip := by
  rcases h with ⟨hliteral, hsafe⟩ | ⟨hliteral, rest, hlookup, hsafe⟩
  · exact .inl ⟨hliteral, blockedIP_relaxed hsafe⟩
  · refine .inr ⟨hliteral, rest, hlookup, ?_⟩
    intro other hother
    exact blockedIP_relaxed (hsafe other hother)

theorem AcceptedURL.relaxed {parsedURL : ParsedURL}
    (h : AcceptedURL lib rawURL false parsedURL) :
    AcceptedURL lib rawURL true parsedURL :=
  ⟨h.length, h.parses, h.scheme, h.host, h.userinfo, h.hostname, by simp⟩

theorem resolveExternalURL_relaxed {resolved : ResolvedURL}
    (h : resolveExternalURL lib lookup rawURL false = .ok resolved) :
    resolveExternalURL lib lookup rawURL true = .ok resolved := by
  obtain ⟨parsedURL, ip, haccepted, hpinned, hresolved⟩ :=
    resolveExternalURL_eq_ok_iff.mp h
  exact resolveExternalURL_eq_ok_iff.mpr
    ⟨parsedURL, ip, haccepted.relaxed, hpinned.relaxed, hresolved⟩

/-! ## Revocation lists -/

/-- The dial address, the host header and the TLS server name. -/
abbrev Connection := String × String × String

/-- `fetchCRLBytes` over a network which answers each connection, with the
connections that it asks for. -/
def fetchCRLBytesOver (lib : UrlLibrary) (network : Connection → Exchange)
    (url : String) (lookup : LookupAnswer) :
    List Connection × Except GoError (List UInt8) :=
  match resolveExternalURL lib lookup url false with
  | .error err => ([], .error (.wrapf s!"resolving CRL URL {url}" err))
  | .ok resolved =>
      let connection := buildPinnedAddr lib resolved
      ([connection], Fetcher.fetchBytesPinned url (network connection))

theorem exists_exchange_fetchCRLBytesOver (network : Connection → Exchange)
    (url : String) :
    ∃ exchange, (fetchCRLBytesOver lib network url lookup).2 =
      fetchCRLBytes lib url lookup exchange := by
  unfold fetchCRLBytesOver fetchCRLBytes
  cases hresolved : resolveExternalURL lib lookup url false with
  | error err => exact ⟨.redirected "", rfl⟩
  | ok resolved => exact ⟨network (buildPinnedAddr lib resolved), rfl⟩

theorem mem_connections_iff {network : Connection → Exchange} {url : String}
    {connection : Connection} :
    connection ∈ (fetchCRLBytesOver lib network url lookup).1 ↔
      ∃ resolved, resolveExternalURL lib lookup url false = .ok resolved ∧
        connection = buildPinnedAddr lib resolved := by
  unfold fetchCRLBytesOver
  cases resolveExternalURL lib lookup url false with
  | error err => simp
  | ok resolved => simp

/-- The port of the URL, or the one of its scheme. -/
def portOf (parsedURL : ParsedURL) : String :=
  if parsedURL.port = "" then
    if parsedURL.scheme = "https" then "443" else "80"
  else parsedURL.port

/-- A resolution which succeeds pins an address that its mode allows and
that is dialled; what the strict mode accepts the relaxed mode accepts alike;
and a revocation list is only fetched from an address which the strict mode
accepts. -/
theorem pinned_resolution_safe (lib : UrlLibrary) (lookup : LookupAnswer)
    (rawURL : String) :
    (∀ allowPrivateNetworks resolved,
      resolveExternalURL lib lookup rawURL allowPrivateNetworks =
        .ok resolved →
      ∃ parsedURL, lib.parse rawURL = .ok parsedURL ∧
        rawURL.utf8ByteSize ≤ 2048 ∧
        (parsedURL.scheme = "http" ∨ parsedURL.scheme = "https") ∧
        parsedURL.host ≠ "" ∧ parsedURL.hasUserinfo = false ∧
        blockedIP allowPrivateNetworks resolved.ip = false ∧
        (lib.parseIP (normalizedHost lib parsedURL) = some resolved.ip ∨
          (lib.parseIP (normalizedHost lib parsedURL) = none ∧
            ∃ rest, lookup = .ok (resolved.ip :: rest) ∧
              ∀ ip ∈ resolved.ip :: rest,
                blockedIP allowPrivateNetworks ip = false)) ∧
        (buildPinnedAddr lib resolved).1 =
          joinHostPort (lib.ipString resolved.ip) (portOf parsedURL) ∧
        (allowPrivateNetworks = false →
          normalizedHost lib parsedURL ≠ "localhost" ∧
            hasSuffix (normalizedHost lib parsedURL) ".localhost" =
              false)) ∧
    (∀ resolved, resolveExternalURL lib lookup rawURL false = .ok resolved →
      resolveExternalURL lib lookup rawURL true = .ok resolved) ∧
    (∀ network, ∀ connection ∈
        (fetchCRLBytesOver lib network rawURL lookup).1,
      ∃ resolved, connection = buildPinnedAddr lib resolved ∧
        isPrivateOrLocalIP resolved.ip = false ∧
        ∀ allowPrivateNetworks,
          resolveExternalURL lib lookup rawURL allowPrivateNetworks =
            .ok resolved) ∧
    (∀ network, ∃ exchange,
      (fetchCRLBytesOver lib network rawURL lookup).2 =
        fetchCRLBytes lib rawURL lookup exchange) := by
  refine ⟨?_, ?_, ?_, fun network =>
    exists_exchange_fetchCRLBytesOver network rawURL⟩
  · intro allowPrivateNetworks resolved h
    obtain ⟨parsedURL, ip, haccepted, hpinned, rfl⟩ :=
      resolveExternalURL_eq_ok_iff.mp h
    refine ⟨parsedURL, haccepted.parses, haccepted.length, haccepted.scheme,
      haccepted.host, haccepted.userinfo, hpinned.safe, ?_, rfl,
      haccepted.notLocal⟩
    rcases hpinned with ⟨hliteral, -⟩ | hresolved
    · exact .inl hliteral
    · exact .inr hresolved
  · intro resolved
    exact resolveExternalURL_relaxed
  · intro network connection hconnection
    obtain ⟨resolved, hresolved, rfl⟩ := mem_connections_iff.mp hconnection
    obtain ⟨parsedURL, ip, -, hpinned, rfl⟩ :=
      resolveExternalURL_eq_ok_iff.mp hresolved
    refine ⟨_, rfl, hpinned.safe, ?_⟩
    intro allowPrivateNetworks
    cases allowPrivateNetworks with
    | false => exact hresolved
    | true => exact resolveExternalURL_relaxed hresolved

end VerifierApi

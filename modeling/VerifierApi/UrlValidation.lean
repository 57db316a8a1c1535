import VerifierApi.Sentinels
import Mathlib.Algebra.Group.Nat.Defs

/-!
# Validation of external URLs

A URL is parsed, its host is resolved, and every address it may stand for is
checked against the blocked ranges before one of them is pinned for the
connection.
-/

namespace VerifierApi

/-! ## Addresses -/

/-- An address as a number of 32 or 128 bits. -/
inductive Addr where
  | v4 (value : ℕ)
  | v6 (value : ℕ)
deriving DecidableEq, Repr

structure IPPrefix where
  addr : Addr
  bits : ℕ
deriving DecidableEq, Repr

namespace Addr

def bigEndian (bytes : List UInt8) : ℕ :=
  bytes.foldl (fun value byte => value * 256 + byte.toNat) 0

def fromSlice (ip : List UInt8) : Option Addr :=
  if ip.length = 4 then some (.v4 (bigEndian ip))
  else if ip.length = 16 then some (.v6 (bigEndian ip))
  else none

/-- An IPv4-mapped address as a plain IPv4 address. -/
def unmap : Addr → Addr
  | .v4 value => .v4 value
  | .v6 value =>
      if value / 2 ^ 32 = 0xffff then .v4 (value % 2 ^ 32) else .v6 value

def isLinkLocalUnicast : Addr → Bool
  | .v4 value => value / 2 ^ 16 = 0xa9fe
  | .v6 value => value / 2 ^ 118 = 0xfe80 / 2 ^ 6

def isLinkLocalMulticast : Addr → Bool
  | .v4 value => value / 2 ^ 8 = 0xe00000
  | .v6 value => value / 2 ^ 112 &&& 0xff0f = 0xff02

def isMulticast : Addr → Bool
  | .v4 value => value / 2 ^ 28 = 0xe
  | .v6 value => value / 2 ^ 120 = 0xff

def isUnspecified : Addr → Bool
  | .v4 value => value = 0
  | .v6 value => value = 0

def isLoopback : Addr → Bool
  | .v4 value => value / 2 ^ 24 = 127
  | .v6 value => value = 1

def isPrivate : Addr → Bool
  | .v4 value =>
      value / 2 ^ 24 = 10 || value / 2 ^ 20 = 0xac1 || value / 2 ^ 16 = 0xc0a8
  | .v6 value => value / 2 ^ 121 = 0xfc / 2

end Addr

/-- A prefix only contains addresses of its own family. -/
def IPPrefix.contains : IPPrefix → Addr → Bool
  | ⟨.v4 base, bits⟩, .v4 value =>
      value / 2 ^ (32 - bits) = base / 2 ^ (32 - bits)
  | ⟨.v6 base, bits⟩, .v6 value =>
      value / 2 ^ (128 - bits) = base / 2 ^ (128 - bits)
  | _, _ => false

def blockedIPPrefixes : List IPPrefix :=
  [⟨.v4 0, 8⟩,
    ⟨.v4 0x64400000, 10⟩,
    ⟨.v4 0xc6120000, 15⟩,
    ⟨.v6 (0x20010db8 * 2 ^ 96), 32⟩,
    ⟨.v6 (0x0100 * 2 ^ 112), 64⟩,
    ⟨.v6 (0x2002 * 2 ^ 112), 16⟩,
    ⟨.v6 (0x20010000 * 2 ^ 96), 32⟩,
    ⟨.v6 (0x0064ff9b * 2 ^ 96), 96⟩,
    ⟨.v6 (0xfd000ec2 * 2 ^ 96 + 0x254), 128⟩,
    ⟨.v6 (0xfec0 * 2 ^ 112), 10⟩]

def ipv4CompatPrefix : IPPrefix := ⟨.v6 0, 96⟩

def isDangerousIP (ip : List UInt8) : Bool :=
  match Addr.fromSlice ip with
  | none => true
  | some slice =>
      let addr := slice.unmap
      addr.isLinkLocalUnicast || addr.isLinkLocalMulticast ||
        addr.isMulticast || addr.isUnspecified ||
        (ipv4CompatPrefix.contains addr && addr ≠ .v6 1) ||
        blockedIPPrefixes.any fun blocked => blocked.contains addr

def isPrivateOrLocalIP (ip : List UInt8) : Bool :=
  isDangerousIP ip ||
    match Addr.fromSlice ip with
    | none => false
    | some slice => slice.unmap.isLoopback || slice.unmap.isPrivate

/-! ## Resolution -/

structure ParsedURL where
  scheme : String
  host : String
  hasUserinfo : Bool
  hostname : String
  port : String

/-- Library functions on URLs and addresses.  Lowering a character outside
ASCII is a table of the standard library. -/
structure UrlLibrary where
  parse : String → Except ExternalError ParsedURL
  joinPath : String → List String → Except ExternalError String
  parseIP : String → Option (List UInt8)
  ipString : List UInt8 → String
  lowerNonASCII : Char → Char

structure ResolvedURL where
  scheme : String
  host : String
  hostname : String
  port : String
  ip : List UInt8
deriving DecidableEq

/-- The answer of the resolver: the addresses of a name. -/
abbrev LookupAnswer := Except ExternalError (List (List UInt8))

def maxURLLength : ℕ := 2048

def toLower (lib : UrlLibrary) (text : String) : String :=
  String.ofList (text.toList.map fun c =>
    if c.toNat < 128 then c.toLower else lib.lowerNonASCII c)

def trimSuffix (text after : String) : String :=
  if after.toList.isSuffixOf text.toList then
    String.ofList
      (text.toList.take (text.toList.length - after.toList.length))
  else text

def hasSuffix (text after : String) : Bool :=
  after.toList.isSuffixOf text.toList

def urlError (text : String) : GoError :=
  .errorf s!"{errURLValidation.text}: {text}" [errURLValidation]

def urlErrorCause (text : String) (cause : ExternalError) : GoError :=
  .errorf s!"{errURLValidation.text}: {text}: {cause.text}"
    [errURLValidation, cause.toGoError]

/-- The check on one address, with the text of its failure. -/
def checkIP (allowPrivateNetworks : Bool) (ip : List UInt8)
    (message : String → String) : Except GoError Unit :=
  if allowPrivateNetworks then
    ensure (isDangerousIP ip = false) (urlError (message "dangerous"))
  else
    ensure (isPrivateOrLocalIP ip = false)
      (urlError (message "private/local"))

/-- The checks before any name is resolved, and the host they leave. -/
def validateURL (lib : UrlLibrary) (rawURL : String)
    (allowPrivateNetworks : Bool) : Except GoError (ParsedURL × String) := do
  ensure (rawURL.utf8ByteSize ≤ maxURLLength)
    (urlError
      s!"URL length {rawURL.utf8ByteSize} exceeds max {maxURLLength}")
  let parsedURL ← (lib.parse rawURL).mapError
    (urlErrorCause s!"invalid URL {quote rawURL}")
  ensure (parsedURL.scheme = "http" ∨ parsedURL.scheme = "https")
    (urlError
      s!"unsupported URL scheme {quote parsedURL.scheme}: only http and https are allowed")
  ensure (parsedURL.host ≠ "") (urlError "URL host is required")
  ensure (parsedURL.hasUserinfo = false)
    (urlError "URL userinfo is not allowed")
  let host := trimSuffix (toLower lib parsedURL.hostname) "."
  ensure (host ≠ "") (urlError "URL hostname is required")
  ensure (allowPrivateNetworks = true ∨
      ¬ (host = "localhost" ∨ hasSuffix host ".localhost" = true))
    (urlError s!"local hostnames are not allowed: {host}")
  .ok (parsedURL, host)

/-- The pinned address: the literal itself, or the first resolved one when
all of them pass. -/
def resolveHost (lib : UrlLibrary) (lookup : LookupAnswer)
    (allowPrivateNetworks : Bool) (host : String) :
    Except GoError (List UInt8) :=
  match lib.parseIP host with
  | some ip => do
      checkIP allowPrivateNetworks ip
        fun kind => s!"{kind} IPs are not allowed: {lib.ipString ip}"
      .ok ip
  | none => do
      let resolvedIPs ← lookup.mapError
        (urlErrorCause s!"cannot resolve hostname {quote host}")
      let first ← require resolvedIPs.head?
        (urlError s!"hostname {quote host} resolved to no IP addresses")
      let _ ← resolvedIPs.mapM fun ip =>
        checkIP allowPrivateNetworks ip
          fun kind =>
            s!"hostname {quote host} resolves to {kind} IP {lib.ipString ip}"
      .ok first

def resolveExternalURL (lib : UrlLibrary) (lookup : LookupAnswer)
    (rawURL : String) (allowPrivateNetworks : Bool) :
    Except GoError ResolvedURL := do
  let (parsedURL, host) ← validateURL lib rawURL allowPrivateNetworks
  let ip ← resolveHost lib lookup allowPrivateNetworks host
  .ok ⟨parsedURL.scheme, parsedURL.host, parsedURL.hostname,
    parsedURL.port, ip⟩

/-- The error of the resolver, when a resolution fails on it. -/
def lookupError (lib : UrlLibrary) (lookup : LookupAnswer)
    (rawURL : String) (allowPrivateNetworks : Bool) :
    Option ExternalError :=
  match validateURL lib rawURL allowPrivateNetworks with
  | .error _ => none
  | .ok (_, host) =>
      match lib.parseIP host, lookup with
      | none, .error err => some err
      | _, _ => none

/-- `net.JoinHostPort`. -/
def joinHostPort (host port : String) : String :=
  if ':' ∈ host.toList then
    "[" ++ host ++ "]:" ++ port
  else host ++ ":" ++ port

/-- The dial address, the host header and the TLS server name. -/
def buildPinnedAddr (lib : UrlLibrary) (resolved : ResolvedURL) :
    String × String × String :=
  let port :=
    if resolved.port = "" then
      if resolved.scheme = "https" then "443" else "80"
    else resolved.port
  (joinHostPort (lib.ipString resolved.ip) port, resolved.host,
    resolved.hostname)

/-! ## Errors -/

theorem checkIP_sentinels {allowPrivateNetworks : Bool} {ip : List UInt8}
    {message : String → String} :
    FailsWith (fun err => err.sentinels = [.urlValidation])
      (checkIP allowPrivateNetworks ip message) := by
  unfold checkIP
  split
  · exact FailsWith.ensure (by simp [urlError, errURLValidation])
  · exact FailsWith.ensure (by simp [urlError, errURLValidation])

theorem sentinels_urlError (text : String) :
    (urlError text).sentinels = [.urlValidation] := by
  simp [urlError, errURLValidation]

theorem sentinels_urlErrorCause (text : String) (cause : ExternalError) :
    (urlErrorCause text cause).sentinels = [.urlValidation] := by
  simp [urlErrorCause, errURLValidation]

theorem validateURL_sentinels (lib : UrlLibrary) (rawURL : String)
    (allowPrivateNetworks : Bool) :
    FailsWith (fun err => err.sentinels = [.urlValidation])
      (validateURL lib rawURL allowPrivateNetworks) := by
  unfold validateURL
  refine FailsWith.ensure_bind (sentinels_urlError _) fun _ => ?_
  refine FailsWith.bind
    (FailsWith.mapError_of_forall (sentinels_urlErrorCause _))
    fun parsedURL _ => ?_
  refine FailsWith.ensure_bind (sentinels_urlError _) fun _ => ?_
  refine FailsWith.ensure_bind (sentinels_urlError _) fun _ => ?_
  refine FailsWith.ensure_bind (sentinels_urlError _) fun _ => ?_
  refine FailsWith.ensure_bind (sentinels_urlError _) fun _ => ?_
  exact FailsWith.ensure_bind (sentinels_urlError _) fun _ => .ok _

theorem resolveHost_sentinels (lib : UrlLibrary) (lookup : LookupAnswer)
    (allowPrivateNetworks : Bool) (host : String) :
    FailsWith (fun err => err.sentinels = [.urlValidation])
      (resolveHost lib lookup allowPrivateNetworks host) := by
  unfold resolveHost
  split
  next => exact FailsWith.bind checkIP_sentinels fun _ _ => .ok _
  next =>
    refine FailsWith.bind
      (FailsWith.mapError_of_forall (sentinels_urlErrorCause _))
      fun resolvedIPs _ => ?_
    refine FailsWith.bind ?_ fun first _ => ?_
    · intro err herr
      obtain ⟨-, rfl⟩ := require_eq_error.mp herr
      exact sentinels_urlError _
    · exact FailsWith.bind (FailsWith.mapM fun _ _ => checkIP_sentinels)
        fun _ _ => .ok _

theorem resolveExternalURL_sentinels (lib : UrlLibrary)
    (lookup : LookupAnswer) (rawURL : String)
    (allowPrivateNetworks : Bool) :
    FailsWith (fun err => err.sentinels = [.urlValidation])
      (resolveExternalURL lib lookup rawURL allowPrivateNetworks) := by
  unfold resolveExternalURL
  refine FailsWith.bind (validateURL_sentinels _ _ _) fun parsed _ => ?_
  exact FailsWith.bind (resolveHost_sentinels _ _ _ _) fun _ _ => .ok _

theorem resolveExternalURL_of_lookupError {lib : UrlLibrary}
    {lookup : LookupAnswer} {rawURL : String} {allowPrivateNetworks : Bool}
    {err : ExternalError}
    (h : lookupError lib lookup rawURL allowPrivateNetworks = some err) :
    ∃ host, resolveExternalURL lib lookup rawURL allowPrivateNetworks =
      .error (urlErrorCause s!"cannot resolve hostname {quote host}"
        err) := by
  unfold lookupError at h
  split at h
  next => simp at h
  next parsed host hvalid =>
    split at h
    next cause hip =>
      obtain rfl : cause = err := by simpa using h
      have hhost : resolveHost lib (.error cause) allowPrivateNetworks host =
          .error (urlErrorCause s!"cannot resolve hostname {quote host}"
            cause) := by
        unfold resolveHost
        rw [hip]
        rfl
      exact ⟨host, bind_eq_error.mpr
        (.inr ⟨_, hvalid, bind_eq_error.mpr (.inl hhost)⟩)⟩
    next => simp at h

end VerifierApi

import VerifierApi.UrlValidation

/-!
# Fetches over pinned connections and chain reads

What one HTTP exchange may come to, how the fetcher reports it, and how the
failure of a chain read is classified.
-/

namespace VerifierApi

/-! ## Pinned fetches -/

/-- What a failed connection may be recognised by.  The connection is dialled
by address, so that no name is resolved on the way. -/
inductive TransportMark where
  | contextCanceled
  | contextDeadlineExceeded
  | netError
deriving DecidableEq, Repr

structure TransportError where
  text : String
  marks : List TransportMark := []
deriving DecidableEq, Repr

def TransportMark.toExternal : TransportMark → ExternalMark
  | .contextCanceled => .contextCanceled
  | .contextDeadlineExceeded => .contextDeadlineExceeded
  | .netError => .netError

def TransportError.toExternal (err : TransportError) : ExternalError :=
  ⟨err.text, err.marks.map TransportMark.toExternal⟩

instance : Coe TransportError GoError := ⟨fun err => err.toExternal.toGoError⟩

/-- What a request comes to: it cannot be built, the server redirects to a
location, the connection fails, or there is a status and, when the body is
read, what the reading gave. -/
inductive Exchange where
  | requestError (err : ExternalError)
  | redirected (location : String)
  | transportError (err : TransportError)
  | answered (statusCode : ℕ) (body : Except TransportError (List UInt8))

namespace Fetcher

def maxResponseSize : ℕ := 2 * 1024 * 1024

def httpStatusError (url : String) (code : ℕ) : GoError :=
  .node (.httpStatusError code)
    s!"unexpected status code: {code} for url {url}" [errHTTPFetch]

def fetchBytesPinned (url : String) :
    Exchange → Except GoError (List UInt8)
  | .requestError err =>
      .error (.wrapf s!"failed to create HTTP request for {url}" err)
  | .redirected location =>
      -- the client names the refused location, not the URL it asked for
      .error (.wrapf2 s!"HTTP request failed for {url}"
        (.wrapf s!"Get {quote location}" errRedirect) errHTTPFetch)
  | .transportError err =>
      .error (.wrapf2 s!"HTTP request failed for {url}" err errHTTPFetch)
  | .answered statusCode body =>
      if statusCode = 404 then .error errNotFound
      else if statusCode = 200 then do
        let data ← body.mapError fun err : TransportError =>
          ErrorValue.wrapf2 s!"reading response body from {url}" err
            errHTTPFetch
        ensure (data.length ≤ maxResponseSize)
          (.errorf
            s!"{errResponseTooLarge.text}: {url} (max {maxResponseSize} bytes)"
            [errResponseTooLarge])
        .ok data
      else .error (httpStatusError url statusCode)

def fetchJSONPinned {α : Type} (unmarshal : List UInt8 → Except ExternalError α)
    (typeName : String) (url : String) (exchange : Exchange) :
    Except GoError α := do
  let body ← fetchBytesPinned url exchange
  (unmarshal body).mapError fun err : ExternalError =>
    .wrapf s!"decoding JSON from {url} failed for type {typeName}" err

theorem fetchBytesPinned_sentinels (url : String) (exchange : Exchange) :
    FailsWith (fun err => err.sentinels ∈
        [[], [.redirect, .httpFetch], [.httpFetch], [.notFound],
          [.responseTooLarge]])
      (fetchBytesPinned url exchange) := by
  cases exchange with
  | requestError err => exact FailsWith.error (by simp)
  | redirected location =>
      exact FailsWith.error (by simp [errRedirect, errHTTPFetch])
  | transportError err => exact FailsWith.error (by simp [errHTTPFetch])
  | answered statusCode body =>
      unfold fetchBytesPinned
      refine FailsWith.of_ite (fun _ => .error (by simp [errNotFound]))
        fun _ => ?_
      refine FailsWith.of_ite (fun _ => ?_)
        (fun _ => .error (by simp [httpStatusError, errHTTPFetch]))
      refine FailsWith.bind ?_ fun data _ => ?_
      · exact FailsWith.mapError_of_forall fun err => by simp [errHTTPFetch]
      · exact FailsWith.ensure_bind (by simp [errResponseTooLarge])
          fun _ => .ok _

/-- One more attempt is made after a failure unless the failure breaks the
loop, the attempts are used up, or the context ends during the delay.  The
outcome of each attempt and of each delay is given; an attempt also leaves a
state, which the breaking condition reads. -/
def retryFrom {α σ : Type} (operation : ℕ → σ × Except GoError α)
    (breakOn : σ → Bool) (delay : ℕ → Option ContextError) :
    ℕ → ℕ → σ × Except GoError α
  | 0, attempt => operation attempt
  | remaining + 1, attempt =>
      match operation attempt with
      | (state, .ok result) => (state, .ok result)
      | (state, .error err) =>
          if breakOn state then (state, .error err)
          else
            match delay attempt with
            | some cause => (state, .error cause.toExternal.toGoError)
            | none =>
                retryFrom operation breakOn delay remaining (attempt + 1)

def retry {α σ : Type} (initial : σ) (maxAttempts : ℕ)
    (operation : ℕ → σ × Except GoError α) (breakOn : σ → Bool)
    (delay : ℕ → Option ContextError) : σ × Except GoError α :=
  match maxAttempts with
  | 0 => (initial, .error (.new "maxAttempts must be at least 1"))
  | remaining + 1 => retryFrom operation breakOn delay remaining 1

end Fetcher

/-! ## Failures of chain reads -/

inductive TeeSampleState where
  | valid
  | invalid
  | indeterminate
deriving DecidableEq, Repr

def classifyHTTPStatus (code : Int) : TeeSampleState × GoError :=
  if code = 400 ∨ code = 404 then (.invalid, errInvalidInput)
  else (.indeterminate, errNetwork)

/-- The first network error of the unwrap tree; a resolver error is one. -/
def asNetError : Mark → Option Unit
  | .external .netError => some ()
  | .external (.dnsError _ _) => some ()
  | _ => none

def asRPCHTTPError : Mark → Option Int
  | .external (.rpcHTTPError code) => some code
  | _ => none

def asRPCError : Mark → Option Int
  | .external (.rpcError code) => some code
  | _ => none

def mapTransportError (err : GoError) : Option (TeeSampleState × GoError) :=
  if err.isContextError then some (.indeterminate, errContext)
  else if (err.as? asNetError).isSome then some (.indeterminate, errNetwork)
  else none

/-- Codes by which a node says that the request itself is wrong. -/
def invalidRPCCodes : List Int := [-32600, -32601, -32602, -32700]

def classifyFetchError (err : GoError) : TeeSampleState × GoError :=
  match mapTransportError err with
  | some classified => classified
  | none =>
      if err.is (.external .ethereumNotFound) then (.invalid, errInvalidInput)
      else
        match err.as? asRPCHTTPError with
        | some code => classifyHTTPStatus code
        | none =>
            match err.as? asRPCError with
            | some code =>
                if code ∈ invalidRPCCodes then (.invalid, errInvalidInput)
                else (.indeterminate, errRPC)
            | none => (.indeterminate, errUnknown)

def mapFetchErrorToState (op : String) (err : GoError) :
    TeeSampleState × GoError :=
  ((classifyFetchError err).1, .wrapf op (classifyFetchError err).2)

theorem classifyFetchError_sentinels (err : GoError) :
    (classifyFetchError err).2.sentinels ∈
      [[Sentinel.context], [.network], [.invalidInput], [.rpc],
        [.unknown]] := by
  unfold classifyFetchError mapTransportError classifyHTTPStatus
  split
  next classified h =>
    split at h
    · obtain rfl : (TeeSampleState.indeterminate, errContext) = classified :=
        by simpa using h
      simp [errContext]
    · split at h
      · obtain rfl : (TeeSampleState.indeterminate, errNetwork) = classified :=
          by simpa using h
        simp [errNetwork]
      · simp at h
  next =>
    split
    · simp [errInvalidInput]
    · split
      · split
        · simp [errInvalidInput]
        · simp [errNetwork]
      · split
        · split
          · simp [errInvalidInput]
          · simp [errRPC]
        · simp [errUnknown]

end VerifierApi

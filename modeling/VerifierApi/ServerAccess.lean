import VerifierApi.AsciiBytes
import VerifierApi.DeploymentRoutes
import VerifierApi.ServerEnvironment

/-!
# Which requests reach a handler

The router matches the path as it was sent, where that differs from the
default encoding of the decoded one, and the check of the key compares the
decoded path with the one of the health endpoint.  The routes have no escapes,
so that the two agree on every request that is routed: no spelling of a path
gets past the check.
-/

namespace VerifierApi

namespace Server

/-! ## Paths of requests -/

/-- The path of a `url.URL`: decoded, and as sent when the default encoding
differs from that. -/
structure RequestURL where
  path : Bytes
  rawPath : Bytes
deriving DecidableEq

/-- `unescape` in the mode of paths. -/
def unescapePath : Bytes → Option Bytes
  | [] => some []
  | b :: rest =>
      if b = ascii '%' then
        match rest with
        | high :: low :: tail =>
            match hexValue (Char.ofNat high.toNat),
                hexValue (Char.ofNat low.toNat), unescapePath tail with
            | some h, some l, some text =>
                some (UInt8.ofNat (h * 16 + l) :: text)
            | _, _, _ => none
        | _ => none
      else (unescapePath rest).map (b :: ·)

def unreserved : Bytes :=
  textBytes "-_.~$&+,/:;=@"

/-- `shouldEscape` in the mode of paths. -/
def shouldEscape (b : UInt8) : Bool :=
  ¬ ((Char.ofNat b.toNat).isAlphanum ∨ b ∈ unreserved)

def upperHex (n : ℕ) : UInt8 :=
  if n < 10 then UInt8.ofNat (48 + n) else UInt8.ofNat (55 + n)

def escapePath (path : Bytes) : Bytes :=
  path.flatMap fun b =>
    if shouldEscape b then
      [ascii '%', upperHex (b.toNat / 16), upperHex (b.toNat % 16)]
    else [b]

def setPath (p : Bytes) : Option RequestURL :=
  (unescapePath p).map fun path =>
    ⟨path, if p = escapePath path then [] else p⟩

/-- The path of a request target in origin form; the query follows the first
`?`. -/
def parseTarget (target : Bytes) : Option RequestURL :=
  setPath ((cutFirst (ascii '?') target).getD (target, [])).1

/-- What the router looks up. -/
def RequestURL.routePath (url : RequestURL) : Bytes :=
  let routePath := if url.rawPath ≠ [] then url.rawPath else url.path
  if routePath = [] then [ascii '/'] else routePath

/-! ## The server -/

structure Request where
  method : String
  target : Bytes
  apiKey : Bytes

inductive Answer where
  | badRequest
  | unrouted
  | unauthorized
  | handled (op : Operation)
deriving DecidableEq

/-- A router finds the operation of a method and a path, if there is one. -/
abbrev Router := String → RequestURL → Option Operation

end Server

def Method.text : Method → String
  | .get => "GET"
  | .post => "POST"

/-- A server with the deployment that its settings stand for. -/
structure Server where
  deployment : Deployment
  attestationTypes : List AttestationType
  apiKeys : List String

namespace Server

def operationPath (s : Server) (op : Operation) : Bytes :=
  textBytes (s.deployment.operationPath op)

/-- `subtle.ConstantTimeCompare`, which is one on equal contents only. -/
def constantTimeCompare (x y : Bytes) : ℕ :=
  if x = y then 1 else 0

/-- Whether `APIKeyAuthMiddleware` calls the next handler. -/
def apiKeyAuth (s : Server) (url : RequestURL) (apiKey : Bytes) : Bool :=
  url.path = s.operationPath .health ||
    s.apiKeys.any fun key => constantTimeCompare apiKey (textBytes key) = 1

def serve (s : Server) (router : Router) (req : Request) : Answer :=
  match parseTarget req.target with
  | none => .badRequest
  | some url =>
      match router req.method url with
      | none => .unrouted
      | some op =>
          if s.apiKeyAuth url req.apiKey then .handled op else .unauthorized

/-- The router finds the registered routes, which have no parameters, by
their texts. -/
def MatchesRoutes (s : Server) (router : Router) : Prop :=
  ∀ method url op, router method url = some op ↔
    op ∈ registeredOperations s.attestationTypes ∧
      op.method.text = method ∧ url.routePath = s.operationPath op

/-! ## Routes have no escapes -/

theorem unescapePath_of_notMem {p : Bytes} (h : ascii '%' ∉ p) :
    unescapePath p = some p := by
  induction p with
  | nil => rfl
  | cons b rest ih =>
      rw [List.mem_cons, not_or] at h
      rw [unescapePath.eq_def]
      simp only [Ne.symm h.1, if_false, ih h.2, Option.map_some]

def isRouteChar (c : Char) : Bool :=
  c.isAlphanum || c = '-' || c = '/'

theorem isRouteChar_of_isSlugChar {c : Char} (h : isSlugChar c = true) :
    isRouteChar c = true := by
  unfold isSlugChar isLowerLetter at h
  unfold isRouteChar
  simp only [Bool.or_eq_true, decide_eq_true_eq] at h ⊢
  rcases h with (hlower | hdigit) | hdash
  · have hlow : Char.isLower c = true :=
      Bool.and_eq_true_iff.mpr ⟨decide_eq_true hlower.1,
        decide_eq_true hlower.2⟩
    have halpha : Char.isAlpha c = true :=
      Bool.or_eq_true_iff.mpr (.inr hlow)
    simp [Char.isAlphanum, halpha]
  · simp [Char.isAlphanum, hdigit]
  · simp [hdash]

/-- Slugs, types and endpoints are letters, digits and hyphens. -/
theorem isRouteChar_of_operationPath {d : Deployment} {op : Operation}
    {c : Char} (hc : c ∈ (d.operationPath op).toList) :
    isRouteChar c = true := by
  have hslug : ∀ slug : Slug, c ∈ slug.text.toList → isRouteChar c = true :=
    fun slug hmem => isRouteChar_of_isSlugChar
      (isSlugChar_of_mem slug.valid hmem)
  have hword : ∀ word : String, word.toList.all isRouteChar = true →
      c ∈ word.toList → isRouteChar c = true :=
    fun word hall hmem => List.all_eq_true.mp hall c hmem
  cases op with
  | health =>
      simp only [Deployment.operationPath, healthPath, deploymentPrefix,
        String.toList_append, List.mem_append] at hc
      rcases hc with (((hc | hc) | hc) | hc) | hc
      · exact hword _ (by decide) hc
      · exact hslug _ hc
      · exact hword _ (by decide) hc
      · exact hslug _ hc
      · exact hword _ (by decide) hc
  | attestation t endpoint =>
      simp only [Deployment.operationPath, getVerifierAPIPath,
        deploymentPrefix, String.toList_append, List.mem_append] at hc
      rcases hc with (((((((hc | hc) | hc) | hc) | hc) | hc) | hc) | hc)
      · exact hword _ (by decide) hc
      · exact hslug _ hc
      · exact hword _ (by decide) hc
      · exact hslug _ hc
      · exact hword _ (by decide) hc
      · exact hword t.text (by cases t <;> decide) hc
      · exact hword _ (by decide) hc
      · exact hword endpoint.text (by cases endpoint <;> decide) hc

section Routes

variable {s : Server} {op : Operation}

theorem notMem_operationPath {c : Char} (hc : c.val.toNat ≤ 127)
    (hroute : isRouteChar c = false) : ascii c ∉ s.operationPath op := by
  intro hmem
  have hchar := isRouteChar_of_operationPath (mem_toList_of_ascii_mem hc hmem)
  rw [hroute] at hchar
  cases hchar

theorem exists_operationPath (s : Server) (op : Operation) :
    ∃ rest, s.operationPath op = textBytes "/verifier/" ++ rest := by
  have htext : ∃ rest, s.deployment.operationPath op = "/verifier/" ++ rest := by
    cases op with
    | health =>
        exact ⟨_, by simp only [Deployment.operationPath, healthPath,
          deploymentPrefix, String.append_assoc]; rfl⟩
    | attestation t endpoint =>
        exact ⟨_, by simp only [Deployment.operationPath, getVerifierAPIPath,
          deploymentPrefix, String.append_assoc]; rfl⟩
  obtain ⟨rest, hrest⟩ := htext
  exact ⟨textBytes rest, by rw [operationPath, hrest, textBytes_append]⟩

theorem one_lt_length_operationPath (s : Server) (op : Operation) :
    1 < (s.operationPath op).length := by
  obtain ⟨rest, hrest⟩ := exists_operationPath s op
  have hword : (textBytes "/verifier/").length = 10 := by decide
  rw [hrest, List.length_append, hword]
  omega

theorem operationPath_inj {op op' : Operation}
    (h : s.operationPath op = s.operationPath op') : op = op' :=
  (Deployment.operationPath_inj (textBytes_injective h)).1

/-- A request that is routed to an operation has its path, decoded. -/
theorem path_of_routed {target : Bytes} {url : RequestURL}
    (hurl : parseTarget target = some url)
    (hroute : url.routePath = s.operationPath op) :
    url.path = s.operationPath op := by
  have hlong := one_lt_length_operationPath s op
  rw [← hroute] at hlong ⊢
  rw [parseTarget, setPath, Option.map_eq_some_iff] at hurl
  generalize ((cutFirst (ascii '?') target).getD (target, [])).1 = p at hurl
  obtain ⟨path, hpath, rfl⟩ := hurl
  simp only [RequestURL.routePath] at hlong hroute ⊢
  by_cases hraw : (if p = escapePath path then [] else p) = []
  · simp only [hraw, ne_eq, not_true, if_false] at hlong ⊢
    split_ifs at hlong ⊢ with hempty
    · simp at hlong
    · rfl
  · have hsent : (if p = escapePath path then [] else p) = p := by
      split_ifs at hraw ⊢ with hdefault
      · exact absurd rfl hraw
      · rfl
    rw [hsent] at hraw hroute ⊢
    simp only [hraw, ne_eq, not_false_eq_true, if_true, if_false]
      at hroute ⊢
    have hplain : ascii '%' ∉ p := by
      rw [hroute]
      exact notMem_operationPath (by decide) (by decide)
    rw [unescapePath_of_notMem hplain] at hpath
    exact (Option.some.inj hpath).symm

/-- A route asked for as it stands, with any query, is routed. -/
theorem routePath_of_target {target : Bytes} {query : Bytes}
    (htarget : target = s.operationPath op ∨
      target = s.operationPath op ++ ascii '?' :: query) :
    ∃ url, parseTarget target = some url ∧
      url.path = s.operationPath op ∧
      url.routePath = s.operationPath op := by
  have hquestion : ascii '?' ∉ s.operationPath op :=
    notMem_operationPath (by decide) (by decide)
  have hpercent : ascii '%' ∉ s.operationPath op :=
    notMem_operationPath (by decide) (by decide)
  have hlong := one_lt_length_operationPath s op
  have hcut : ((cutFirst (ascii '?') target).getD (target, [])).1 =
      s.operationPath op := by
    rcases htarget with rfl | rfl
    · rw [cutFirst_eq_none_iff.mpr hquestion, Option.getD_none]
    · rw [cutFirst_append_sep hquestion, Option.getD_some]
  refine ⟨_, by rw [parseTarget, hcut, setPath,
    unescapePath_of_notMem hpercent, Option.map_some], rfl, ?_⟩
  generalize s.operationPath op = path at hlong
  have hne : path ≠ [] := by
    rintro rfl
    simp at hlong
  simp only [RequestURL.routePath]
  by_cases hdefault : path = escapePath path
  · simp only [if_pos hdefault, ne_eq, not_true, if_false, hne]
  · simp only [if_neg hdefault, ne_eq, hne, not_false_eq_true, if_true,
      if_false]

/-! ## Who is let in -/

theorem constantTimeCompare_eq_one_iff {x y : Bytes} :
    constantTimeCompare x y = 1 ↔ x = y := by
  unfold constantTimeCompare
  split_ifs with hsame <;> simp [hsame]

theorem apiKeyAuth_iff {url : RequestURL} {apiKey : Bytes}
    (hpath : url.path = s.operationPath op) :
    s.apiKeyAuth url apiKey = true ↔
      op = .health ∨ ∃ key ∈ s.apiKeys, apiKey = textBytes key := by
  simp only [apiKeyAuth, Bool.or_eq_true, decide_eq_true_eq,
    List.any_eq_true, constantTimeCompare_eq_one_iff, hpath]
  constructor
  · rintro (hhealth | hkey)
    · exact .inl (operationPath_inj hhealth)
    · exact .inr hkey
  · rintro (rfl | hkey)
    · exact .inl rfl
    · exact .inr hkey

theorem serve_eq_handled_iff {router : Router}
    (hrouter : s.MatchesRoutes router) {req : Request} :
    s.serve router req = .handled op ↔
      (op ∈ registeredOperations s.attestationTypes ∧
        op.method.text = req.method) ∧
      (∃ url, parseTarget req.target = some url ∧
        url.routePath = s.operationPath op) ∧
      (op = .health ∨ ∃ key ∈ s.apiKeys, req.apiKey = textBytes key) := by
  constructor
  · intro h
    unfold serve at h
    split at h
    next => cases h
    next url hurl =>
        split at h
        next => cases h
        next op' hop =>
            split_ifs at h with hauth
            obtain rfl := Answer.handled.inj h
            obtain ⟨hmem, hmethod, hroute⟩ := (hrouter _ _ _).mp hop
            have hpath := path_of_routed hurl hroute
            exact ⟨⟨hmem, hmethod⟩, ⟨url, hurl, hroute⟩,
              (apiKeyAuth_iff hpath).mp hauth⟩
  · rintro ⟨⟨hmem, hmethod⟩, ⟨url, hurl, hroute⟩, hallowed⟩
    have hop : router req.method url = some op :=
      (hrouter _ _ _).mpr ⟨hmem, hmethod, hroute⟩
    have hauth : s.apiKeyAuth url req.apiKey = true :=
      (apiKeyAuth_iff (path_of_routed hurl hroute)).mpr hallowed
    simp only [serve, hurl, hop, hauth, if_true]

end Routes

/-- The server of accepted settings. -/
def ofEnvironment (env : EnvConfig) (deployment : Deployment) : Server where
  deployment := deployment
  attestationTypes := env.servedAttestationTypes
  apiKeys := env.apiKeys

theorem length_textBytes (text : String) :
    (textBytes text).length = text.utf8ByteSize := rfl

theorem servedAttestationTypes_of_loadEnvConfig
    {getenv : Environment.Getenv} {env : EnvConfig}
    (henv : Environment.loadEnvConfig getenv = .ok env) :
    env.servedAttestationTypes = sourceAttestationTypes env.sourceID := by
  obtain ⟨-, -, -, hfields⟩ := Environment.loadEnvConfig_eq_ok_iff.mp henv
  have htypes : env.attestationTypes = sourceAttestationTypes env.sourceID :=
    congrArg EnvConfig.attestationTypes hfields
  have hne : sourceAttestationTypes env.sourceID ≠ [] := by
    cases env.sourceID <;> decide
  rw [EnvConfig.servedAttestationTypes, htypes, if_pos hne]

/-- The handler of an attestation type runs only on its own path, however it
is spelled, and only under a key of the settings, of sixteen bytes at least.
A request for the path of an operation as it stands is answered by the
operation when it has a key or asks for the health of the server, and is
unauthorized otherwise. -/
theorem serve_spec {getenv : Environment.Getenv} {env : EnvConfig}
    (henv : Environment.loadEnvConfig getenv = .ok env)
    (deployment : Deployment) {router : Router}
    (hrouter : (ofEnvironment env deployment).MatchesRoutes router)
    (req : Request) :
    let s := ofEnvironment env deployment
    (∀ op, s.serve router req = .handled op →
      op ∈ registeredOperations (sourceAttestationTypes env.sourceID) ∧
      op.method.text = req.method ∧
      (∃ url, parseTarget req.target = some url ∧
        url.path = s.operationPath op) ∧
      (op ≠ .health → Environment.minAPIKeyLength ≤ req.apiKey.length ∧
        ∃ key ∈ env.apiKeys, req.apiKey = textBytes key)) ∧
    ∀ op ∈ registeredOperations (sourceAttestationTypes env.sourceID),
      ∀ query, op.method.text = req.method →
      (req.target = s.operationPath op ∨
        req.target = s.operationPath op ++ ascii '?' :: query) →
      s.serve router req =
        if op = .health ∨ ∃ key ∈ env.apiKeys, req.apiKey = textBytes key
        then .handled op else .unauthorized := by
  intro s
  have hserved : s.attestationTypes = sourceAttestationTypes env.sourceID :=
    servedAttestationTypes_of_loadEnvConfig henv
  constructor
  · intro op h
    obtain ⟨⟨hmem, hmethod⟩, ⟨url, hurl, hroute⟩, hallowed⟩ :=
      (serve_eq_handled_iff hrouter).mp h
    rw [hserved] at hmem
    refine ⟨hmem, hmethod, ⟨url, hurl, path_of_routed hurl hroute⟩, ?_⟩
    intro hne
    obtain ⟨key, hkey, hsame⟩ := hallowed.resolve_left hne
    obtain ⟨-, -, hkeys, -⟩ := Environment.loadEnvConfig_eq_ok_iff.mp henv
    obtain ⟨-, -, hlong⟩ := Environment.getAPIKeys_eq_ok_iff.mp hkeys
    refine ⟨?_, key, hkey, hsame⟩
    rw [hsame, length_textBytes]
    exact hlong key hkey
  · intro op hmem query hmethod htarget
    rw [← hserved] at hmem
    obtain ⟨url, hurl, hpath, hroute⟩ := routePath_of_target htarget
    have hop : router req.method url = some op :=
      (hrouter _ _ _).mpr ⟨hmem, hmethod, hroute⟩
    have hauth : s.apiKeyAuth url req.apiKey = true ↔
        op = .health ∨ ∃ key ∈ env.apiKeys, req.apiKey = textBytes key :=
      apiKeyAuth_iff hpath
    simp only [serve, hurl, hop, hauth]

/-- A router which looks through the registered routes. -/
def literalRouter (s : Server) : Router := fun method url =>
  (registeredOperations s.attestationTypes).find? fun op =>
    op.method.text = method ∧ url.routePath = s.operationPath op

theorem matchesRoutes_literalRouter (s : Server) :
    s.MatchesRoutes s.literalRouter := by
  intro method url op
  constructor
  · intro h
    have hmem := List.mem_of_find?_eq_some h
    have hmatch := List.find?_some h
    exact ⟨hmem, of_decide_eq_true hmatch⟩
  · rintro ⟨hmem, hmethod, hroute⟩
    cases hfind : s.literalRouter method url with
    | none =>
        have hnone := List.find?_eq_none.mp hfind op hmem
        simp [hmethod, hroute] at hnone
    | some op' =>
        have hfound := List.find?_some (show (registeredOperations
          s.attestationTypes).find? _ = some op' from hfind)
        have hmatch := of_decide_eq_true hfound
        rw [operationPath_inj (hmatch.2.symm.trans hroute)]

def sampleGetenv : Environment.Getenv := fun name =>
  if name = envPort then "8080"
  else if name = envSourceID then " TEE"
  else if name = envAPIKeys then "0123456789abcdef, fedcba9876543210"
  else if name = envDestinationChainURLSlug then "sgb"
  else if name = envRelayContractAddress then nextRelayText
  else if name = envFlareRPCURL then "http://127.0.0.1:9650"
  else if name = envChainID then "14"
  else if name = envAllowTeeDebug then "true"
  else ""

def sampleEnv : EnvConfig where
  relayCutoverContractAddress := ""
  relayCutoverStartingRewardEpoch := ""
  sourceRPCURL := ""
  flareRPCURL := "http://127.0.0.1:9650"
  relayContractAddress := nextRelayText
  flareTeeManagerContractAddress := ""
  teePaymentsContractAddress := ""
  sourceDatabaseURL := ""
  cChainDatabaseURL := ""
  allowTeeDebug := "true"
  disableAttestationCheckE2E := ""
  allowPrivateNetworks := ""
  teeAudience := ""
  chainID := "14"
  destinationChainURLSlug := "sgb"
  sourceURLSlug := ""
  port := "8080"
  apiKeys := ["0123456789abcdef", "fedcba9876543210"]
  attestationType := none
  attestationTypes := [.availabilityCheck]
  sourceID := .tee

theorem loadEnvConfig_sampleGetenv :
    Environment.loadEnvConfig sampleGetenv = .ok sampleEnv :=
  Environment.loadEnvConfig_eq_ok_iff.mpr
    ⟨by decide, by decide, by decide, rfl⟩

def sampleDeployment : Deployment where
  source := .tee
  sourceSlug := ⟨"tee", by decide⟩
  destinationSlug := ⟨"sgb", by decide⟩

def sampleServer : Server :=
  ofEnvironment sampleEnv sampleDeployment

/-- The second key on the path of a handler, with a query. -/
def sampleRequest : Request where
  method := "POST"
  target := textBytes "/verifier/tee/sgb/TeeAvailabilityCheck/verify?x"
  apiKey := textBytes "fedcba9876543210"

theorem serve_sampleRequest :
    sampleServer.serve sampleServer.literalRouter sampleRequest =
      .handled (.attestation .availabilityCheck .verify) :=
  ((serve_spec loadEnvConfig_sampleGetenv sampleDeployment
    (matchesRoutes_literalRouter sampleServer) sampleRequest).2
      (.attestation .availabilityCheck .verify) (by decide)
      (textBytes "x") rfl (.inr (by decide))).trans (by decide)

end Server

end VerifierApi

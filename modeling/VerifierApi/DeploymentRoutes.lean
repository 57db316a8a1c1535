import VerifierApi.DeploymentConfig

/-!
# The URL space of the deployments

Every route of a deployment is built from its two slugs, an attestation type
and an endpoint.  A slug has no slash, and the other segments are fixed
words, so that a path can be taken apart again: it belongs to one operation
of one pair of slugs.  The same holds of the operation ids, whose separator
may occur in a slug.
-/

namespace VerifierApi

/-- A segment of a route which the configuration accepts. -/
structure Slug where
  text : String
  valid : matchesURLSlug text = true
deriving DecidableEq

/-- A deployment as its routes show it. -/
structure Deployment where
  source : SourceID
  sourceSlug : Slug
  destinationSlug : Slug
deriving DecidableEq

inductive Endpoint where
  | prepareRequestBody
  | prepareResponseBody
  | verify
deriving DecidableEq, Repr

def Endpoint.text : Endpoint → String
  | .prepareRequestBody => "prepareRequestBody"
  | .prepareResponseBody => "prepareResponseBody"
  | .verify => "verify"

inductive Method where
  | get
  | post
deriving DecidableEq, Repr

/-- What the API registers. -/
inductive Operation where
  | health
  | attestation (attestationType : AttestationType) (endpoint : Endpoint)
deriving DecidableEq, Repr

def getVerifierAPIPath (sourceSlug destinationSlug : String)
    (attestationType : AttestationType) (endpoint : Endpoint) : String :=
  deploymentPrefix sourceSlug destinationSlug ++ "/" ++
    attestationType.text ++ "/" ++ endpoint.text

def getVerifierOperationID (source : SourceID) (destinationSlug : String)
    (attestationType : AttestationType) (endpoint : Endpoint) : String :=
  "post-" ++ source.lowered ++ "-" ++ destinationSlug ++ "-" ++
    attestationType.text ++ "-" ++ endpoint.text

def healthPath (sourceSlug destinationSlug : String) : String :=
  deploymentPrefix sourceSlug destinationSlug ++ "/api/health"

/-- The routes which the documentation adds: its page and the assets of the
page, the API description in its formats, and the schemas. -/
inductive DocsRoute where
  | page
  | asset (rest : String)
  | openAPI (format : String)
  | schema (name : String)

/-- What a documentation route appends to the prefix and a slash. -/
def DocsRoute.rest : DocsRoute → String
  | .page => "api-doc"
  | .asset rest => "api-doc/" ++ rest
  | .openAPI format => "openapi" ++ format
  | .schema name => "schemas/" ++ name

namespace Deployment

variable (d : Deployment)

def operationPath : Operation → String
  | .health => healthPath d.sourceSlug.text d.destinationSlug.text
  | .attestation t endpoint =>
      getVerifierAPIPath d.sourceSlug.text d.destinationSlug.text t endpoint

def operationID : Operation → String
  | .health => "get-health"
  | .attestation t endpoint =>
      getVerifierOperationID d.source d.destinationSlug.text t endpoint

def docsPath (route : DocsRoute) : String :=
  deploymentPrefix d.sourceSlug.text d.destinationSlug.text ++
    ("/" ++ route.rest)

end Deployment

def Operation.method : Operation → Method
  | .health => .get
  | .attestation _ _ => .post

/-- The operations of `RegisterVerificationHandler`, in source order. -/
def registerVerificationHandler (t : AttestationType) : List Operation :=
  [.attestation t .prepareRequestBody, .attestation t .prepareResponseBody,
    .attestation t .verify]

/-- The operations of `LoadModule` for the types it serves. -/
def registeredOperations (types : List AttestationType) : List Operation :=
  .health :: types.flatMap registerVerificationHandler

theorem mem_registeredOperations {types : List AttestationType}
    {op : Operation} :
    op ∈ registeredOperations types ↔
      op = .health ∨ ∃ t ∈ types, ∃ endpoint, op = .attestation t endpoint := by
  have hmem : ∀ t, op ∈ registerVerificationHandler t ↔
      ∃ endpoint, op = .attestation t endpoint := by
    intro t
    constructor
    · intro h
      simp only [registerVerificationHandler, List.mem_cons,
        List.not_mem_nil, or_false] at h
      rcases h with h | h | h <;> exact ⟨_, h⟩
    · rintro ⟨endpoint, rfl⟩
      cases endpoint <;> simp [registerVerificationHandler]
  simp only [registeredOperations, List.mem_cons, List.mem_flatMap, hmem]

/-! ## Slugs have no separators -/

theorem isSlugChar_of_mem {slug : String} (h : matchesURLSlug slug = true)
    {c : Char} (hc : c ∈ slug.toList) : isSlugChar c = true := by
  unfold matchesURLSlug at h
  cases hlist : slug.toList with
  | nil =>
      rw [hlist] at hc
      exact absurd hc List.not_mem_nil
  | cons first rest =>
      rw [hlist] at h hc
      simp only [decide_eq_true_eq, List.all_eq_true] at h
      obtain ⟨hfirst, hrest, -⟩ := h
      rcases List.mem_cons.mp hc with rfl | hmem
      · simp [isSlugChar, hfirst]
      · exact hrest c hmem

theorem Slug.slash_notMem (slug : Slug) : '/' ∉ slug.text.toList := by
  intro hmem
  exact absurd (isSlugChar_of_mem slug.valid hmem) (by decide)

theorem Slug.toList_injective {slug slug' : Slug}
    (h : slug.text.toList = slug'.text.toList) : slug = slug' := by
  obtain ⟨text, valid⟩ := slug
  obtain ⟨text', valid'⟩ := slug'
  obtain rfl : text = text' := String.toList_injective h
  rfl

/-! ## Paths -/

/-- The segments behind the prefix. -/
def Operation.segments : Operation → List (List Char)
  | .health => ["api".toList, "health".toList]
  | .attestation t endpoint => [t.text.toList, endpoint.text.toList]

/-- No attestation type is named like a route of the deployment itself. -/
theorem AttestationType.head_text (t : AttestationType) :
    t.text.toList.head? ∈ [some 'T', some 'P'] := by
  cases t <;> decide

theorem Operation.segments_injective :
    Function.Injective Operation.segments := by
  have hhealth : ∀ t endpoint,
      Operation.health.segments ≠
        (Operation.attestation t endpoint).segments := by
    intro t endpoint h
    have hsegment : "api".toList = t.text.toList := (List.cons.inj h).1
    exact absurd (hsegment ▸ t.head_text) (by decide)
  intro op op' h
  cases op with
  | health =>
      cases op' with
      | health => rfl
      | attestation t endpoint => exact absurd h (hhealth t endpoint)
  | attestation t endpoint =>
      cases op' with
      | health => exact absurd h.symm (hhealth t endpoint)
      | attestation t' endpoint' =>
          obtain ⟨htype, hendpoint⟩ :
              t.text.toList = t'.text.toList ∧
                endpoint.text.toList = endpoint'.text.toList := by
            simpa [Operation.segments] using h
          have ht : t = t' := by
            revert htype
            cases t <;> cases t' <;> decide
          have he : endpoint = endpoint' := by
            revert hendpoint
            cases endpoint <;> cases endpoint' <;> decide
          rw [ht, he]

namespace Deployment

variable (d : Deployment)

/-- The segments of a text behind the prefix of a deployment. -/
theorem segments_deploymentPrefix (rest : List Char) :
    VerifierApi.segments '/'
        ((deploymentPrefix d.sourceSlug.text d.destinationSlug.text).toList ++
          '/' :: rest) =
      [] :: "verifier".toList :: d.sourceSlug.text.toList ::
        d.destinationSlug.text.toList :: VerifierApi.segments '/' rest := by
  have hverifier : '/' ∉ "verifier".toList := by decide
  have htext : (deploymentPrefix d.sourceSlug.text
        d.destinationSlug.text).toList ++ '/' :: rest =
      [] ++ '/' :: ("verifier".toList ++ '/' :: (d.sourceSlug.text.toList ++
        '/' :: (d.destinationSlug.text.toList ++ '/' :: rest))) := by
    simp [deploymentPrefix]
  rw [htext, segments_append_sep, segments_append_sep, segments_append_sep,
    segments_append_sep, segments_of_notMem hverifier,
    segments_of_notMem d.sourceSlug.slash_notMem,
    segments_of_notMem d.destinationSlug.slash_notMem]
  rfl

theorem segments_operationPath (op : Operation) :
    VerifierApi.segments '/' (d.operationPath op).toList =
      [] :: "verifier".toList :: d.sourceSlug.text.toList ::
        d.destinationSlug.text.toList :: op.segments := by
  cases op with
  | health =>
      have htext : (d.operationPath .health).toList =
          (deploymentPrefix d.sourceSlug.text d.destinationSlug.text).toList ++
            '/' :: "api/health".toList := by
        simp [operationPath, healthPath]
      rw [htext, segments_deploymentPrefix]
      rfl
  | attestation t endpoint =>
      have htype : '/' ∉ t.text.toList := by cases t <;> decide
      have hendpoint : '/' ∉ endpoint.text.toList := by
        cases endpoint <;> decide
      have htext : (d.operationPath (.attestation t endpoint)).toList =
          (deploymentPrefix d.sourceSlug.text d.destinationSlug.text).toList ++
            '/' :: (t.text.toList ++ '/' :: endpoint.text.toList) := by
        simp [operationPath, getVerifierAPIPath]
      rw [htext, segments_deploymentPrefix, segments_append_sep,
        segments_of_notMem htype, segments_of_notMem hendpoint]
      rfl

theorem operationPath_inj {d d' : Deployment} {op op' : Operation}
    (h : d.operationPath op = d'.operationPath op') :
    op = op' ∧ d.sourceSlug = d'.sourceSlug ∧
      d.destinationSlug = d'.destinationSlug := by
  have hsegments := congrArg (fun path : String =>
    VerifierApi.segments '/' path.toList) h
  simp only [segments_operationPath, List.cons.injEq, true_and] at hsegments
  obtain ⟨hsource, hdestination, hop⟩ := hsegments
  exact ⟨Operation.segments_injective hop, Slug.toList_injective hsource,
    Slug.toList_injective hdestination⟩

/-! ## Operation ids -/

/-- The separator of the ids may occur in the destination slug, but not in
the words around it. -/
theorem toList_operationID (t : AttestationType) (endpoint : Endpoint) :
    (d.operationID (.attestation t endpoint)).toList =
      "post".toList ++ '-' :: (d.source.lowered.toList ++ '-' ::
        ((d.destinationSlug.text.toList ++ '-' :: t.text.toList) ++
          '-' :: endpoint.text.toList)) := by
  simp [operationID, getVerifierOperationID]

theorem operationID_inj_of_attestation {d d' : Deployment}
    {t t' : AttestationType} {endpoint endpoint' : Endpoint}
    (h : d.operationID (.attestation t endpoint) =
      d'.operationID (.attestation t' endpoint')) :
    d.source = d'.source ∧ d.destinationSlug = d'.destinationSlug ∧
      t = t' ∧ endpoint = endpoint' := by
  have hpost : '-' ∉ "post".toList := by decide
  have hlowered : ∀ source : SourceID, '-' ∉ source.lowered.toList := by
    intro source
    cases source <;> decide
  have htype : ∀ t : AttestationType, '-' ∉ t.text.toList := by
    intro t
    cases t <;> decide
  have hendpoint : ∀ endpoint : Endpoint, '-' ∉ endpoint.text.toList := by
    intro endpoint
    cases endpoint <;> decide
  have hlists := congrArg String.toList h
  rw [toList_operationID, toList_operationID] at hlists
  obtain ⟨-, hrest⟩ := append_sep_inj_of_notMem_left hpost hpost hlists
  obtain ⟨hsource, hrest⟩ := append_sep_inj_of_notMem_left (hlowered _)
    (hlowered _) hrest
  obtain ⟨hrest, hend⟩ := append_sep_inj_of_notMem_right (hendpoint _)
    (hendpoint _) hrest
  obtain ⟨hslug, hname⟩ := append_sep_inj_of_notMem_right (htype _)
    (htype _) hrest
  have hsegments : (Operation.attestation t endpoint).segments =
      (Operation.attestation t' endpoint').segments := by
    rw [Operation.segments, Operation.segments, hname, hend]
  have hop := Operation.segments_injective hsegments
  have hsourceID : d.source = d'.source := by
    revert hsource
    cases d.source <;> cases d'.source <;> decide
  obtain ⟨rfl, rfl⟩ : t = t' ∧ endpoint = endpoint' := by simpa using hop
  exact ⟨hsourceID, Slug.toList_injective hslug, rfl, rfl⟩

theorem operationID_ne_health {d d' : Deployment} {t : AttestationType}
    {endpoint : Endpoint} :
    d.operationID (.attestation t endpoint) ≠ d'.operationID .health := by
  intro h
  have hlists := congrArg (fun id : String => id.toList.head?) h
  simp [operationID, getVerifierOperationID] at hlists

/-! ## Documentation -/

theorem toList_docsPath (route : DocsRoute) :
    (d.docsPath route).toList =
      (deploymentPrefix d.sourceSlug.text d.destinationSlug.text).toList ++
        '/' :: route.rest.toList := by
  have happend : ∀ start rest : String, (start ++ ("/" ++ rest)).toList =
      start.toList ++ '/' :: rest.toList := by
    intro start rest
    simp only [String.toList_append]
    rfl
  rw [docsPath, happend]

theorem segments_docsRest (route : DocsRoute) :
    ∃ first more,
      VerifierApi.segments '/' route.rest.toList = first :: more ∧
      (first = "api-doc".toList ∨ first.head? = some 'o' ∨
        first = "schemas".toList) := by
  have hpage : '/' ∉ "api-doc".toList := by decide
  have hschemas : '/' ∉ "schemas".toList := by decide
  cases route with
  | page => exact ⟨"api-doc".toList, [], segments_of_notMem hpage, .inl rfl⟩
  | asset rest =>
      refine ⟨"api-doc".toList, VerifierApi.segments '/' rest.toList, ?_,
        .inl rfl⟩
      have htext : (DocsRoute.asset rest).rest.toList =
          "api-doc".toList ++ '/' :: rest.toList := by
        simp only [DocsRoute.rest, String.toList_append]
        rfl
      rw [htext, segments_append_sep, segments_of_notMem hpage]
      rfl
  | openAPI format =>
      have hne : 'o' ≠ '/' := by decide
      have htext : (DocsRoute.openAPI format).rest.toList =
          'o' :: ("penapi".toList ++ format.toList) := by
        simp only [DocsRoute.rest, String.toList_append]
        rfl
      obtain ⟨first, more, hsegments⟩ := exists_segments_cons hne
        ("penapi".toList ++ format.toList)
      refine ⟨'o' :: first, more, ?_, .inr (.inl rfl)⟩
      rw [htext, hsegments]
  | schema name =>
      refine ⟨"schemas".toList, VerifierApi.segments '/' name.toList, ?_,
        .inr (.inr rfl)⟩
      have htext : (DocsRoute.schema name).rest.toList =
          "schemas".toList ++ '/' :: name.toList := by
        simp only [DocsRoute.rest, String.toList_append]
        rfl
      rw [htext, segments_append_sep, segments_of_notMem hschemas]
      rfl

theorem docsPath_ne_operationPath {d d' : Deployment} {op : Operation}
    {route : DocsRoute} : d.operationPath op ≠ d'.docsPath route := by
  intro h
  have hsegments := congrArg (fun path : String =>
    VerifierApi.segments '/' path.toList) h
  simp only [segments_operationPath, toList_docsPath,
    segments_deploymentPrefix, List.cons.injEq, true_and] at hsegments
  obtain ⟨first, more, hrest, hfirst⟩ := segments_docsRest route
  rw [hrest] at hsegments
  obtain ⟨-, -, hop⟩ := hsegments
  cases op with
  | health =>
      obtain rfl := (List.cons.inj hop).1
      rcases hfirst with h | h | h <;> exact absurd h (by decide)
  | attestation t endpoint =>
      obtain rfl := (List.cons.inj hop).1
      have hhead := t.head_text
      rcases hfirst with h | h | h <;> rw [h] at hhead <;>
        exact absurd hhead (by decide)

end Deployment

/-- The routes and the operation ids of deployments name what they are for,
and no documentation route stands in the place of an operation. -/
theorem deployment_routes (d d' : Deployment) :
    (∀ op op', d.operationPath op = d'.operationPath op' →
      op = op' ∧ d.sourceSlug = d'.sourceSlug ∧
        d.destinationSlug = d'.destinationSlug) ∧
    (∀ op op', d.operationID op = d'.operationID op' →
      op = op' ∧ (op ≠ .health → d.source = d'.source ∧
        d.destinationSlug = d'.destinationSlug)) ∧
    ∀ op route, d.operationPath op ≠ d'.docsPath route := by
  refine ⟨fun op op' => Deployment.operationPath_inj, ?_,
    fun op route => Deployment.docsPath_ne_operationPath⟩
  intro op op' h
  cases op with
  | health =>
      cases op' with
      | health => exact ⟨rfl, fun hne => absurd rfl hne⟩
      | attestation t endpoint =>
          exact absurd h.symm Deployment.operationID_ne_health
  | attestation t endpoint =>
      cases op' with
      | health => exact absurd h Deployment.operationID_ne_health
      | attestation t' endpoint' =>
          obtain ⟨hsource, hslug, rfl, rfl⟩ :=
            Deployment.operationID_inj_of_attestation h
          exact ⟨rfl, fun _ => ⟨hsource, hslug⟩⟩

end VerifierApi

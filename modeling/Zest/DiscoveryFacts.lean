import Zest.AttackSurface
import Zest.Fallible

/-! # Discovery facts

A fact is what discovery has learned of the target: an origin, a path, an
operation, a control.  It is kept under a canonical key, which names its kind
and what it is about, and it says where it was learned from.

Constructors of the source check their arguments and raise; here the types carry
what was checked, and `make` is the constructor.
-/
namespace Zest.Discovery

/-- `canonical_key(*parts)`, the SHA-256 of its parts as JSON, which is taken to
be free of collisions; or a key that is put together as a string.  One of the
parts may be a key again. -/
inductive CanonicalKey where
  | digest (parts : List Text)
  | digestOf (before : List Text) (key : CanonicalKey) (after : List Text)
  | plain (text : Text)
  deriving DecidableEq, Repr

inductive DiscoveryFactKind where
  | origin
  | exactPath
  | httpOperation
  | pageState
  | control
  | form
  | responseShape
  | resourceInstanceCandidate
  | workflowState
  | workflowTransition
  | scopeBoundaryCandidate
  | domain
  | hostname
  | cert
  | service
  | tech
  | jsBundle
  | apiSpec
  deriving DecidableEq, Repr

/-- `DiscoveryFactKind.value`. -/
def DiscoveryFactKind.value : DiscoveryFactKind → String
  | .origin => "ORIGIN"
  | .exactPath => "EXACT_PATH"
  | .httpOperation => "HTTP_OPERATION"
  | .pageState => "PAGE_STATE"
  | .control => "CONTROL"
  | .form => "FORM"
  | .responseShape => "RESPONSE_SHAPE"
  | .resourceInstanceCandidate => "RESOURCE_INSTANCE_CANDIDATE"
  | .workflowState => "WORKFLOW_STATE"
  | .workflowTransition => "WORKFLOW_TRANSITION"
  | .scopeBoundaryCandidate => "SCOPE_BOUNDARY_CANDIDATE"
  | .domain => "DOMAIN"
  | .hostname => "HOSTNAME"
  | .cert => "CERT"
  | .service => "SERVICE"
  | .tech => "TECH"
  | .jsBundle => "JS_BUNDLE"
  | .apiSpec => "API_SPEC"

/-- `FORBIDDEN_DISCOVERY_KEYS`. -/
def forbiddenDiscoveryKeys : List String :=
  ["token", "password", "api_key", "apiKey", "raw_secret", "credential", "secret_value",
    "secretValue", "session_token", "cookie", "authorization", "severity", "cvss", "cve",
    "vulnerability", "exploit", "confidence", "finding", "candidate", "hidden_route_map",
    "ground_truth", "benchmark_truth"]

/-! ## Where a fact was learned from -/

/-- `DiscoverySourcePlane`. -/
inductive DiscoverySourcePlane where
  | observation
  | controlEvent
  deriving DecidableEq, Repr

/-- A source, of which there is exactly one primary kind. -/
inductive FactSource where
  | observation (observationId : Text)
  | sensorObservation (sensorObservationId : Text)
  | controlEvent (controlEventId : Text)
  | sourceFact (sourceFactId : Text)
  | sourceInference (sourceInferenceId : Text)
  deriving DecidableEq, Repr

/-- The columns of a source row; a row has exactly one of them. -/
structure SourceColumns where
  observationId : Option Text
  sensorObservationId : Option Text
  controlEventId : Option Text
  sourceFactId : Option Text
  sourceInferenceId : Option Text
  deriving DecidableEq, Repr

/-- `_require_text`. -/
def requireText (value : Text) (field : String) : Except String Unit :=
  if value.strip = [] then .error (field ++ " must be a non-empty string") else .ok ()

/-- `_require_text` of what may be `None`. -/
def requireOptionalText (value : Option Text) (field : String) : Except String Unit :=
  match value with
  | none => .ok ()
  | some value => requireText value field

namespace FactSource

/-- The columns that a source is stored in. -/
def columns : FactSource → SourceColumns
  | observation id => ⟨some id, none, none, none, none⟩
  | sensorObservation id => ⟨none, some id, none, none, none⟩
  | controlEvent id => ⟨none, none, some id, none, none⟩
  | sourceFact id => ⟨none, none, none, some id, none⟩
  | sourceInference id => ⟨none, none, none, none, some id⟩

/-- The text of its id. -/
def id : FactSource → Text
  | observation id => id
  | sensorObservation id => id
  | controlEvent id => id
  | sourceFact id => id
  | sourceInference id => id

/-- The plane that a source has to be on. -/
def plane : FactSource → Option DiscoverySourcePlane
  | observation _ => some .observation
  | sensorObservation _ => some .observation
  | controlEvent _ => some .controlEvent
  | sourceFact _ => none
  | sourceInference _ => none

end FactSource

/-- `DiscoveryFactSourceView`: exactly one of the columns, on its plane. -/
def discoveryFactSourceView (sourcePlane : Option DiscoverySourcePlane) (columns : SourceColumns) :
    Except String FactSource :=
  match columns with
  | ⟨some id, none, none, none, none⟩ =>
    if id.strip = [] then .error "observation_id must be a non-empty string"
    else if sourcePlane = some .observation then .ok (.observation id)
    else .error "observation source requires OBSERVATION plane"
  | ⟨none, some id, none, none, none⟩ =>
    if id.strip = [] then .error "sensor_observation_id must be a non-empty string"
    else if sourcePlane = some .observation then .ok (.sensorObservation id)
    else .error "sensor observation source requires OBSERVATION plane"
  | ⟨none, none, some id, none, none⟩ =>
    if id.strip = [] then .error "control_event_id must be a non-empty string"
    else if sourcePlane = some .controlEvent then .ok (.controlEvent id)
    else .error "control event source requires CONTROL_EVENT plane"
  | ⟨none, none, none, some id, none⟩ =>
    if id.strip = [] then .error "source_fact_id must be a non-empty string"
    else .ok (.sourceFact id)
  | ⟨none, none, none, none, some id⟩ =>
    if id.strip = [] then .error "source_inference_id must be a non-empty string"
    else .ok (.sourceInference id)
  | _ => .error "exactly one primary discovery source is required"

/-! ## Facts -/

/-- The arguments of the constructor of a fact, less its sources.  The key is of
any type: it is compared, and nothing else. -/
structure FactFields (κ : Type) where
  factKind : DiscoveryFactKind
  canonicalKey : κ
  epistemicStatus : TargetEpistemicStatus
  identityId : Text
  targetReference : Text
  sessionContextId : Option Text
  normalizedOrigin : Option Text
  normalizedPath : Option Text
  httpMethod : Option Text
  attributes : Attributes
  deriving DecidableEq, Repr

namespace FactFields

variable {κ : Type}

/-- The checks of `DiscoveryFact.__post_init__`. -/
def check (fields : FactFields κ) : Except String Unit := do
  if fields.epistemicStatus ∉ [.observed, .derived] then
    .error "DiscoveryFact epistemic_status must be OBSERVED or DERIVED"
  else if fields.factKind = .scopeBoundaryCandidate ∧ fields.epistemicStatus ≠ .derived then
    .error "SCOPE_BOUNDARY_CANDIDATE must be DERIVED"
  else
    requireText fields.identityId "identity_id"
    requireText fields.targetReference "target_reference"
    requireOptionalText fields.sessionContextId "session_context_id"
    requireOptionalText fields.normalizedOrigin "normalized_origin"
    requireOptionalText fields.normalizedPath "normalized_path"
    requireOptionalText fields.httpMethod "http_method"
    if fields.attributes.any fun entry => forbiddenDiscoveryKeys.contains (String.ofList entry.1)
    then .error "attributes must not contain forbidden discovery keys"
    else .ok ()

/-- The fields that the constructor strips. -/
def stripped (fields : FactFields κ) : FactFields κ :=
  { fields with
    identityId := fields.identityId.strip
    targetReference := fields.targetReference.strip }

end FactFields

/-- A fact as it is stored. -/
structure DiscoveryFactRecord (κ : Type) extends FactFields κ where
  valid : toFactFields.check = .ok ()
  stripped : toFactFields.stripped = toFactFields

/-- `DiscoveryFact`. -/
structure DiscoveryFact (κ : Type) extends DiscoveryFactRecord κ where
  sources : List FactSource
  sources_nonempty : sources ≠ []

section Constructor

variable {κ : Type}

theorem FactFields.stripped_stripped (fields : FactFields κ) :
    fields.stripped.stripped = fields.stripped := by
  simp [FactFields.stripped, Text.strip_strip]

/-- The constructor of a fact. -/
def DiscoveryFact.make (fields : FactFields κ) (sources : List FactSource) :
    Except String (DiscoveryFact κ) :=
  match hvalid : fields.stripped.check with
  | .error message => .error message
  | .ok () =>
    if hsources : sources ≠ [] then
      .ok {
        toFactFields := fields.stripped
        valid := hvalid
        stripped := fields.stripped_stripped
        sources := sources
        sources_nonempty := hsources }
    else .error "sources must be a non-empty tuple"

/-- What has text. -/
def Nonblank (value : Text) : Prop := value.strip ≠ []

/-- What has text if it is there. -/
def OptionalNonblank (value : Option Text) : Prop := ∀ text, value = some text → Nonblank text

/-- What the constructor asks of its arguments. -/
structure FactFields.Acceptable (fields : FactFields κ) : Prop where
  epistemic : fields.epistemicStatus = .observed ∨ fields.epistemicStatus = .derived
  boundary : fields.factKind = .scopeBoundaryCandidate → fields.epistemicStatus = .derived
  identity : Nonblank fields.identityId
  target : Nonblank fields.targetReference
  session : OptionalNonblank fields.sessionContextId
  origin : OptionalNonblank fields.normalizedOrigin
  path : OptionalNonblank fields.normalizedPath
  method : OptionalNonblank fields.httpMethod
  attributes : (fields.attributes.any fun entry =>
    forbiddenDiscoveryKeys.contains (String.ofList entry.1)) = false

theorem requireText_eq_ok {value : Text} {field : String} :
    requireText value field = .ok () ↔ Nonblank value := by
  unfold requireText Nonblank
  split
  next h => exact ⟨fun hok => (by cases hok), fun hne => absurd h hne⟩
  next h => exact ⟨fun _ => h, fun _ => rfl⟩

theorem requireOptionalText_eq_ok {value : Option Text} {field : String} :
    requireOptionalText value field = .ok () ↔ OptionalNonblank value := by
  unfold requireOptionalText OptionalNonblank
  cases value with
  | none => exact ⟨fun _ _ h => (by cases h), fun _ => rfl⟩
  | some text =>
    dsimp only
    rw [requireText_eq_ok]
    exact ⟨fun h _ hsome => Option.some.inj hsome ▸ h, fun h => h text rfl⟩

/-- One check after another. -/
theorem check_bind_eq_ok {check rest : Except String Unit} :
    (check >>= fun _ => rest) = .ok () ↔ check = .ok () ∧ rest = .ok () := by
  constructor
  · intro h
    obtain ⟨_, hcheck, hrest⟩ := bind_eq_ok h
    exact ⟨hcheck, hrest⟩
  · rintro ⟨hcheck, hrest⟩
    rw [hcheck]
    exact hrest

theorem FactFields.check_eq_ok (fields : FactFields κ) :
    fields.check = .ok () ↔ fields.Acceptable := by
  unfold FactFields.check
  split
  next h =>
    refine ⟨fun hok => (by cases hok), fun ha => absurd ?_ h⟩
    rcases ha.epistemic with he | he <;> simp [he]
  next hepistemic =>
    split
    next h => exact ⟨fun hok => (by cases hok), fun ha => absurd (ha.boundary h.1) h.2⟩
    next hboundary =>
      rw [check_bind_eq_ok, check_bind_eq_ok, check_bind_eq_ok, check_bind_eq_ok,
        check_bind_eq_ok, check_bind_eq_ok, requireText_eq_ok, requireText_eq_ok,
        requireOptionalText_eq_ok, requireOptionalText_eq_ok, requireOptionalText_eq_ok,
        requireOptionalText_eq_ok]
      constructor
      · rintro ⟨hidentity, htarget, hsession, horigin, hpath, hmethod, hkeys⟩
        refine ⟨?_, ?_, hidentity, htarget, hsession, horigin, hpath, hmethod, ?_⟩
        · by_contra hne
          obtain ⟨hobserved, hderived⟩ := not_or.mp hne
          exact hepistemic (by simp [hobserved, hderived])
        · intro hkind
          by_contra hne
          exact hboundary ⟨hkind, hne⟩
        · split at hkeys
          · cases hkeys
          next h => simpa using h
      · intro ha
        refine ⟨ha.identity, ha.target, ha.session, ha.origin, ha.path, ha.method, ?_⟩
        rw [if_neg]
        rw [ha.attributes]
        exact Bool.false_ne_true

/-- Stripping changes nothing in what is asked. -/
theorem FactFields.acceptable_stripped (fields : FactFields κ) :
    fields.stripped.Acceptable ↔ fields.Acceptable := by
  have hstrip : ∀ value : Text, Nonblank value.strip ↔ Nonblank value := by
    intro value
    unfold Nonblank
    rw [Text.strip_strip]
  constructor
  · rintro ⟨h₁, h₂, h₃, h₄, h₅, h₆, h₇, h₈, h₉⟩
    exact ⟨h₁, h₂, (hstrip _).mp h₃, (hstrip _).mp h₄, h₅, h₆, h₇, h₈, h₉⟩
  · rintro ⟨h₁, h₂, h₃, h₄, h₅, h₆, h₇, h₈, h₉⟩
    exact ⟨h₁, h₂, (hstrip _).mpr h₃, (hstrip _).mpr h₄, h₅, h₆, h₇, h₈, h₉⟩

theorem DiscoveryFact.make_eq_ok {fields : FactFields κ} {sources : List FactSource}
    {fact : DiscoveryFact κ} (h : DiscoveryFact.make fields sources = .ok fact) :
    fields.Acceptable ∧ fact.toFactFields = fields.stripped ∧ fact.sources = sources := by
  unfold DiscoveryFact.make at h
  split at h
  · cases h
  next hvalid =>
    split at h
    · cases h
      exact ⟨fields.acceptable_stripped.mp ((FactFields.check_eq_ok _).mp hvalid), rfl, rfl⟩
    · cases h

/-- **The constructor goes through** on what it accepts. -/
theorem DiscoveryFact.exists_make {fields : FactFields κ} {sources : List FactSource}
    (ha : fields.Acceptable) (hsources : sources ≠ []) :
    ∃ fact, DiscoveryFact.make fields sources = .ok fact := by
  have hvalid := (FactFields.check_eq_ok _).mpr (fields.acceptable_stripped.mpr ha)
  unfold DiscoveryFact.make
  split
  next message herror =>
    rw [hvalid] at herror
    cases herror
  · rw [dif_pos hsources]
    exact ⟨_, rfl⟩

end Constructor

end Zest.Discovery

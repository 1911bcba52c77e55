import Zest.DifferentialComparison
import Zest.OpportunitySelection

/-! # Identity anomalies

A differential, or an observation of the authorization probe, may show that the
answer depends on who asks.  Where no hunter family owns the anomaly it becomes a
candidate, and the fields of its cited observations are the arguments of the
experiment that is to look at it again.
-/
namespace Zest.IdentityAnomaly

open Exploration (StructuralIdentity candidateFromContext identityAnomalyStrategyVersion)

inductive IdentityAnomalyClass where
  | registryExternal
  | knownFamily
  | rejectUnresolvedSource
  | rejectCrossRun
  | rejectNotIdentity
  | rejectNoAnomaly
  deriving DecidableEq, Repr

/-- What an observation says that the compiler of the experiment needs. -/
structure Fields where
  authorizedOrigin : Option Text
  actor : Option Text
  ownObject : Option Text
  crossObject : Option Text
  mode : Option Text
  deriving DecidableEq

/-- `IdentityAnomalyContext`, less its claim and its alternative. -/
structure IdentityAnomalyContext where
  sourceId : Text
  sourceKind : Text
  researchRunId : Text
  observationIds : List Text
  classification : IdentityAnomalyClass
  owningFamilyIds : List Text
  fields : Fields
  reasonCode : String

/-- The arguments of the compiler. -/
structure Arguments where
  authorizedOrigin : Text
  actor : Text
  ownObject : Text
  crossObject : Text
  mode : Text
  deriving DecidableEq

/-- `_text`. -/
def text : JsonValue → Option Text
  | .text s => if s.strip = [] then none else some s.strip
  | _ => none

/-- `ALLOWED_LAB_MODES`. -/
def allowedLabModes : List Text := ["vulnerable", "secure_only", "redirect"].map String.toList

/-- The mode, if it is allowed, and else the default. -/
def labMode (mode : Option Text) : Text :=
  match mode with
  | some mode => if mode ∈ allowedLabModes then mode else "vulnerable".toList
  | none => "vulnerable".toList

/-- `compiler_fields_from_authz_payload`. -/
def compilerFields (payload : Dict) : Fields where
  authorizedOrigin := (text (payload.get "authorized_origin".toList)).or
    (text (payload.get "origin".toList))
  actor := text (payload.get "actor".toList)
  ownObject := text (payload.get "own_object".toList)
  crossObject := text (payload.get "cross_object".toList)
  mode := some (labMode (text (payload.get "mode".toList)))

/-- A value that is true: a text that is there and not empty. -/
def present (value : Option Text) : Option Text := value.filter (· ≠ [])

/-- `compiler_arguments_from_context`, of the fields of the context. -/
def compilerArguments (fields : Fields) : Option Arguments := do
  let origin ← present fields.authorizedOrigin
  let actor ← present fields.actor
  let ownObject ← present fields.ownObject
  let crossObject ← present fields.crossObject
  return ⟨origin, actor, ownObject, crossObject, labMode fields.mode⟩

def Fields.empty : Fields := ⟨none, none, none, none, none⟩

/-- The body of the loop over the payloads: what is there stays. -/
def Fields.merge (merged fields : Fields) : Fields where
  authorizedOrigin := merged.authorizedOrigin.or fields.authorizedOrigin
  actor := merged.actor.or fields.actor
  ownObject := merged.ownObject.or fields.ownObject
  crossObject := merged.crossObject.or fields.crossObject
  mode := merged.mode.or fields.mode

/-- `_fields_from_observation_payloads`. -/
def fieldsFromObservationPayloads (payloads : List Dict) : Fields :=
  payloads.foldl (fun merged payload => merged.merge (compilerFields payload)) .empty

/-! ## Sources -/

structure ObservationRecord where
  observationId : Text
  workerResultId : Text
  observationKind : Text
  payload : Dict

/-- The fields of a `DifferentialObservationRecord` that are read here. -/
structure DifferentialRecord where
  differentialId : Text
  researchRunId : Text
  baselineObservationIds : List Text
  variantObservationIds : List Text
  sourceRefs : List Text
  changedDimensions : List Text
  interpretation : Text

/-- The tables of observations and of worker results. -/
structure Tables where
  observation : Text → Option ObservationRecord
  /-- `_observation_run_id`. -/
  runOf : Text → Option Text

/-- `tuple(dict.fromkeys(baseline + variant + source_refs))`. -/
def DifferentialRecord.cited (d : DifferentialRecord) : List Text :=
  (d.baselineObservationIds ++ d.variantObservationIds ++ d.sourceRefs).eraseDups

inductive Resolution where
  | unresolved
  | crossRun
  | resolved (payload : Dict)

section Classification

variable (tables : Tables) (researchRunId : Text)

/-- What `_resolve_observations` makes of one id. -/
def resolve (observationId : Text) : Resolution :=
  match tables.observation observationId with
  | none => .unresolved
  | some observation =>
    match tables.runOf observation.workerResultId with
    | none => .unresolved
    | some run => if run ≠ researchRunId then .crossRun else .resolved observation.payload

def Resolution.payload : Resolution → Option Dict
  | .resolved payload => some payload
  | _ => none

/-- The payloads that `_resolve_observations` returns. -/
def payloadsOf (observationIds : List Text) : List Dict :=
  observationIds.filterMap fun id => (resolve tables researchRunId id).payload

def Resolution.isUnresolved : Resolution → Bool
  | .unresolved => true
  | _ => false

def Resolution.isCrossRun : Resolution → Bool
  | .crossRun => true
  | _ => false

/-- `_reject`. -/
def reject (sourceId sourceKind : Text) (observationIds : List Text)
    (classification : IdentityAnomalyClass) (reasonCode : String) (fields : Fields) :
    IdentityAnomalyContext where
  sourceId := sourceId
  sourceKind := sourceKind
  researchRunId := researchRunId
  observationIds := observationIds
  classification := classification
  owningFamilyIds := []
  fields := fields
  reasonCode := reasonCode

/-- An anomaly that a family owns, or that none does. -/
def admitOne (sourceId sourceKind : Text) (observationIds owningFamilyIds : List Text)
    (fields : Fields) : IdentityAnomalyContext where
  sourceId := sourceId
  sourceKind := sourceKind
  researchRunId := researchRunId
  observationIds := observationIds
  classification := if owningFamilyIds = [] then .registryExternal else .knownFamily
  owningFamilyIds := owningFamilyIds
  fields := fields
  reasonCode :=
    if owningFamilyIds = [] then "REGISTRY_EXTERNAL_IDENTITY_ANOMALY"
    else "OWNED_BY_HUNTER_FAMILY"

/-- `IDENTITY_CHANGED_DIMENSIONS`. -/
def identityChangedDimensions : List Text := ["ACTOR", "ROLE", "SESSION"].map String.toList

/-- `classify_identity_differential`, with the observations resolved. -/
def classifyIdentityDifferential (owningFamilyIds : List Text) (d : DifferentialRecord) :
    IdentityAnomalyContext :=
  let kind := "DIFFERENTIAL".toList
  let rejected := fun classification reasonCode =>
    reject researchRunId d.differentialId kind d.cited classification reasonCode .empty
  if d.researchRunId ≠ researchRunId then rejected .rejectCrossRun "CROSS_RUN_SOURCE"
  else if d.cited.any fun id => (resolve tables researchRunId id).isUnresolved then
    rejected .rejectUnresolvedSource "UNRESOLVED_SOURCE"
  else if d.cited.any fun id => (resolve tables researchRunId id).isCrossRun then
    rejected .rejectCrossRun "CROSS_RUN_OBSERVATION"
  else if ∀ dim ∈ d.changedDimensions, dim ∉ identityChangedDimensions then
    rejected .rejectNotIdentity "NOT_IDENTITY_DIMENSION"
  else if d.interpretation ≠ "CONTROLLED_DIFFERENCE".toList then
    rejected .rejectNoAnomaly "NOT_CONTROLLED_DIFFERENCE"
  else
    admitOne researchRunId d.differentialId kind d.cited owningFamilyIds
      (fieldsFromObservationPayloads (payloadsOf tables researchRunId d.cited))

/-- `value == 200`. -/
def isOk : JsonValue → Bool
  | .integer n => n == 200
  | .real value => value == 200
  | _ => false

/-- `HTTP_AUTHORIZATION_DIFFERENTIAL_KIND`. -/
def httpAuthorizationDifferentialKind : Text := "HTTP_AUTHORIZATION_DIFFERENTIAL".toList

/-- `classify_http_authorization_observation`. -/
def classifyHttpAuthorizationObservation (owningFamilyIds : List Text)
    (observation : ObservationRecord) : IdentityAnomalyContext :=
  let id := observation.observationId
  let kind := httpAuthorizationDifferentialKind
  match tables.runOf observation.workerResultId with
  | none => reject researchRunId id kind [id] .rejectUnresolvedSource "UNRESOLVED_SOURCE" .empty
  | some run =>
    if run ≠ researchRunId then
      reject researchRunId id kind [id] .rejectCrossRun "CROSS_RUN_SOURCE" .empty
    else if observation.observationKind ≠ kind then
      reject researchRunId id observation.observationKind [id] .rejectNotIdentity
        "NOT_IDENTITY_OBSERVATION" .empty
    else if !isOk (observation.payload.get "cross_object_request_status".toList) then
      reject researchRunId id kind [id] .rejectNoAnomaly "NO_CROSS_IDENTITY_GRANT"
        (compilerFields observation.payload)
    else admitOne researchRunId id kind [id] owningFamilyIds (compilerFields observation.payload)

inductive Source where
  | differential (d : DifferentialRecord)
  | observation (row : ObservationRecord)

/-- How a source is classified. -/
def Source.context (owningFamilyIds : List Text) : Source → IdentityAnomalyContext
  | .differential d => classifyIdentityDifferential tables researchRunId owningFamilyIds d
  | .observation row =>
    classifyHttpAuthorizationObservation tables researchRunId owningFamilyIds row

/-- The payloads of the observations of the run that a source cites. -/
def Source.payloads : Source → List Dict
  | .differential d => payloadsOf tables researchRunId d.cited
  | .observation row => [row.payload]

end Classification

/-! ## Recording -/

section Recording

variable (sha256 : Text → Text)

/-- What `identity_anomaly_structural_identity` hashes. -/
def identityPayload (context : IdentityAnomalyContext) : Text :=
  ['|'].intercalate [context.researchRunId.strip,
    Text.strip (context.fields.authorizedOrigin.getD []), Text.strip (context.fields.actor.getD []),
    Text.strip (context.fields.ownObject.getD []), Text.strip (context.fields.crossObject.getD []),
    identityAnomalyStrategyVersion]

/-- `context_signature`. -/
def contextSignature (context : IdentityAnomalyContext) : Text :=
  "identity_anomaly:".toList ++ sha256 (identityPayload context)

/-- The structural identity of the candidate of a context. -/
def candidateIdentity (context : IdentityAnomalyContext) : StructuralIdentity :=
  (candidateFromContext 0 ⟨context.sourceId, contextSignature sha256 context⟩).structuralIdentity

/-- What `_record_context` is handed and hands back, and the identities of the
candidates in the table. -/
structure Recorder where
  seenIdentities : List StructuralIdentity
  seenContextSignatures : List Text
  candidates : List StructuralIdentity
  created : Nat
  skippedDuplicate : Nat
  skippedKnownFamily : Nat
  skippedRejected : Nat

/-- `_record_context`. -/
def recordContext (r : Recorder) (context : IdentityAnomalyContext) : Recorder :=
  if context.classification = .knownFamily then
    { r with skippedKnownFamily := r.skippedKnownFamily + 1 }
  else if context.classification ≠ .registryExternal then
    if context.classification ≠ .rejectNotIdentity then
      { r with skippedRejected := r.skippedRejected + 1 }
    else r
  else if compilerArguments context.fields = none then
    { r with skippedRejected := r.skippedRejected + 1 }
  else
    let identity := candidateIdentity sha256 context
    let signature := contextSignature sha256 context
    if identity ∈ r.seenIdentities ∨ signature ∈ r.seenContextSignatures then
      { r with skippedDuplicate := r.skippedDuplicate + 1 }
    -- the insertion meets a conflict
    else if identity ∈ r.candidates then { r with skippedDuplicate := r.skippedDuplicate + 1 }
    else
      { r with
        seenIdentities := identity :: r.seenIdentities
        seenContextSignatures := signature :: r.seenContextSignatures
        candidates := identity :: r.candidates
        created := r.created + 1 }

end Recording

end Zest.IdentityAnomaly

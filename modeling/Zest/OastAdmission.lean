import Zest.DiscoveryFacts
import Zest.JsonValue

/-! # Admitting a callback

A callback from outside is worth as much as the correlation that it names.  A
correlation is armed for one attempt, from the rows of its execution; a delivery is
checked against the correlation and the same rows, entered in a ledger, and, if it is
the first of its correlation, made into an observation and a fact.

Everything that an admission writes has an id that is made of the correlation's.
-/
namespace Zest.Oast

open Discovery

/-! ## The rows of an execution -/

/-- `ExecutionAttemptRecord`, as far as a correlation is bound to it. -/
structure ExecutionAttemptRow where
  attemptId : Text
  experimentId : Text
  researchRunId : Text
  targetReference : Text
  deriving DecidableEq, Repr

structure ExperimentPlanRow where
  hypothesisId : Text
  researchRunId : Text
  targetReference : Text
  arguments : Dict

/-- `plan.arguments.get("identity_id")`. -/
def ExperimentPlanRow.identity (plan : ExperimentPlanRow) : JsonValue :=
  plan.arguments.get "identity_id".toList

/-- The stored rows that a correlation is derived from, by their ids. -/
structure ExecutionSpine where
  attempt : Text → Option ExecutionAttemptRow
  plan : Text → Option ExperimentPlanRow
  run : Text → Bool
  /-- The `identity_id` of a hypothesis. -/
  hypothesis : Text → Option (Option Text)

structure OastCorrelationRecord where
  correlationId : Text
  attemptId : Text
  experimentId : Text
  researchRunId : Text
  targetReference : Text
  identityId : Text
  armedAt : Instant
  expiresAt : Instant
  createdAt : Instant
  deriving DecidableEq, Repr

/-- `identity is not None and identity != identity_id`, of the plan's argument. -/
def otherIdentity (identity : JsonValue) (identityId : Text) : Bool :=
  match identity with
  | .null => false
  | .text s => s != identityId
  | _ => true

/-! ## Arming -/

/-- What `ArmOastCorrelation` is asked for. -/
structure ArmCommand where
  attemptId : Text
  armedAt : Option Instant
  expiresAt : Option Instant
  deriving DecidableEq, Repr

/-- The window of a correlation. -/
def armWindow (maxTtl : Int) (command : ArmCommand) (now : Instant) :
    Except String (Instant × Instant) :=
  let armTime := command.armedAt.getD now
  let expiry := command.expiresAt.getD (armTime + maxTtl)
  if expiry ≤ armTime ∨ maxTtl < expiry - armTime then
    .error "OAST correlation TTL is outside the bounded window"
  else .ok (armTime, expiry)

/-- The identity of an attempt whose rows fit together. -/
def armIdentity (spine : ExecutionSpine) (attempt : ExecutionAttemptRow) : Except String Text :=
  match spine.plan attempt.experimentId with
  | none => .error "execution spine is incomplete"
  | some plan =>
    match spine.run attempt.researchRunId, spine.hypothesis plan.hypothesisId with
    | true, some identity =>
      if plan.researchRunId ≠ attempt.researchRunId then
        .error "experiment plan is bound to another research run"
      else if plan.targetReference ≠ attempt.targetReference then
        .error "attempt and plan targets do not match"
      else
        match identity with
        | some (c :: rest) =>
          if otherIdentity plan.identity (c :: rest) then
            .error "plan identity binding does not match hypothesis"
          else .ok (c :: rest)
        | _ => .error "target identity binding is missing"
    | _, _ => .error "execution spine is incomplete"

/-- The record that `execute` inserts, under a new id. -/
def armRecord (spine : ExecutionSpine) (maxTtl : Int) (command : ArmCommand) (now createdAt : Instant)
    (correlationId : Text) : Except String OastCorrelationRecord := do
  let window ← armWindow maxTtl command now
  match spine.attempt command.attemptId with
  | none => throw "execution attempt is not found"
  | some attempt =>
    let identityId ← armIdentity spine attempt
    return {
      correlationId := correlationId
      attemptId := attempt.attemptId
      experimentId := attempt.experimentId
      researchRunId := attempt.researchRunId
      targetReference := attempt.targetReference
      identityId := identityId
      armedAt := window.1
      expiresAt := window.2
      createdAt := createdAt }

/-! ## The binding of a delivery -/

/-- A delivery, and its row in the ledger. -/
structure OastCallbackDelivery where
  deliveryId : Text
  correlationId : Text
  providerAdapterId : Text
  providerEventId : Text
  receivedAt : Instant
  normalizedPayload : Dict
  normalizedDigest : Text

inductive ReasonCode where
  | correlationNotFound
  | correlationNotArmed
  | correlationExpired
  | executionBindingNotFound
  | attemptExperimentMismatch
  | attemptRunMismatch
  | planRunMismatch
  | attemptTargetMismatch
  | planTargetMismatch
  | identityMissing
  | identityMismatch
  | deliveryAlreadyRecorded
  | admissionConflict
  | admissionRejected
  | callbackAdmitted
  | callbackAlreadyAdmitted
  | tokenNotFound
  | tokenExpired
  | legacyTokenNotAuthoritative
  deriving DecidableEq, Repr

/-- The text of a reason code. -/
def ReasonCode.value : ReasonCode → String
  | .correlationNotFound => "OAST_CORRELATION_NOT_FOUND"
  | .correlationNotArmed => "OAST_CORRELATION_NOT_ARMED"
  | .correlationExpired => "OAST_CORRELATION_EXPIRED"
  | .executionBindingNotFound => "OAST_EXECUTION_BINDING_NOT_FOUND"
  | .attemptExperimentMismatch => "OAST_ATTEMPT_EXPERIMENT_MISMATCH"
  | .attemptRunMismatch => "OAST_ATTEMPT_RUN_MISMATCH"
  | .planRunMismatch => "OAST_PLAN_RUN_MISMATCH"
  | .attemptTargetMismatch => "OAST_ATTEMPT_TARGET_MISMATCH"
  | .planTargetMismatch => "OAST_PLAN_TARGET_MISMATCH"
  | .identityMissing => "OAST_IDENTITY_MISSING"
  | .identityMismatch => "OAST_IDENTITY_MISMATCH"
  | .deliveryAlreadyRecorded => "OAST_CALLBACK_DELIVERY_ALREADY_RECORDED"
  | .admissionConflict => "OAST_ADMISSION_CONFLICT"
  | .admissionRejected => "OAST_ADMISSION_REJECTED"
  | .callbackAdmitted => "OAST_CALLBACK_ADMITTED"
  | .callbackAlreadyAdmitted => "OAST_CALLBACK_ALREADY_ADMITTED"
  | .tokenNotFound => "OAST_TOKEN_NOT_FOUND"
  | .tokenExpired => "OAST_TOKEN_EXPIRED"
  | .legacyTokenNotAuthoritative => "OAST_LEGACY_TOKEN_NOT_AUTHORITATIVE"

/-- `_validate_binding`, once all four rows are there. -/
def validateRows (correlation : OastCorrelationRecord) (attempt : ExecutionAttemptRow)
    (plan : ExperimentPlanRow) (identity : Option Text) : Option ReasonCode :=
  if attempt.experimentId ≠ correlation.experimentId then some .attemptExperimentMismatch
  else if attempt.researchRunId ≠ correlation.researchRunId then some .attemptRunMismatch
  else if plan.researchRunId ≠ correlation.researchRunId then some .planRunMismatch
  else if attempt.targetReference ≠ correlation.targetReference then some .attemptTargetMismatch
  else if plan.targetReference ≠ correlation.targetReference then some .planTargetMismatch
  else if identity.getD [] = [] then some .identityMissing
  else if identity ≠ some correlation.identityId then some .identityMismatch
  else if otherIdentity plan.identity correlation.identityId then
    some .identityMismatch
  else if correlation.identityId = [] then some .identityMissing
  else none

/-- `_validate_binding`, with the rows that it is given. -/
def validateBinding (spine : ExecutionSpine) (receivedAt : Instant)
    (correlation : OastCorrelationRecord) : Option ReasonCode :=
  if receivedAt < correlation.armedAt then some .correlationNotArmed
  else if correlation.expiresAt ≤ receivedAt then some .correlationExpired
  else
    match spine.attempt correlation.attemptId, spine.plan correlation.experimentId with
    | some attempt, some plan =>
      match spine.run correlation.researchRunId, spine.hypothesis plan.hypothesisId with
      | true, some identity => validateRows correlation attempt plan identity
      | _, _ => some .executionBindingNotFound
    | _, _ => some .executionBindingNotFound

/-- **What a delivery has to agree with.** -/
structure Bound (spine : ExecutionSpine) (receivedAt : Instant)
    (correlation : OastCorrelationRecord) (attempt : ExecutionAttemptRow)
    (plan : ExperimentPlanRow) : Prop where
  armed : correlation.armedAt ≤ receivedAt
  unexpired : receivedAt < correlation.expiresAt
  attemptFound : spine.attempt correlation.attemptId = some attempt
  planFound : spine.plan correlation.experimentId = some plan
  run : spine.run correlation.researchRunId = true
  hypothesis : spine.hypothesis plan.hypothesisId = some (some correlation.identityId)
  identity : correlation.identityId ≠ []
  planIdentity : otherIdentity plan.identity correlation.identityId = false
  attemptExperiment : attempt.experimentId = correlation.experimentId
  attemptRun : attempt.researchRunId = correlation.researchRunId
  attemptTarget : attempt.targetReference = correlation.targetReference
  planRun : plan.researchRunId = correlation.researchRunId
  planTarget : plan.targetReference = correlation.targetReference

theorem validateRows_eq_none {correlation : OastCorrelationRecord}
    {attempt : ExecutionAttemptRow} {plan : ExperimentPlanRow} {identity : Option Text} :
    validateRows correlation attempt plan identity = none ↔
      attempt.experimentId = correlation.experimentId ∧
      attempt.researchRunId = correlation.researchRunId ∧
      plan.researchRunId = correlation.researchRunId ∧
      attempt.targetReference = correlation.targetReference ∧
      plan.targetReference = correlation.targetReference ∧
      identity = some correlation.identityId ∧ correlation.identityId ≠ [] ∧
      otherIdentity plan.identity correlation.identityId = false := by
  unfold validateRows
  constructor
  · intro h
    repeat' split at h
    all_goals cases h
    next h1 h2 h3 h4 h5 h6 h7 h8 h9 =>
      exact ⟨not_not.mp h1, not_not.mp h2, not_not.mp h3, not_not.mp h4, not_not.mp h5,
        not_not.mp h7, h9, by simpa using h8⟩
  · rintro ⟨h1, h2, h3, h4, h5, rfl, h7, h8⟩
    simp [h1, h2, h3, h4, h5, h7, h8]

/-- **A delivery passes the check exactly when it agrees.** -/
theorem validateBinding_eq_none {spine : ExecutionSpine} {receivedAt : Instant}
    {correlation : OastCorrelationRecord} :
    validateBinding spine receivedAt correlation = none ↔
      ∃ attempt plan, Bound spine receivedAt correlation attempt plan := by
  unfold validateBinding
  by_cases harmed : receivedAt < correlation.armedAt
  · rw [if_pos harmed]
    refine ⟨fun h => (by cases h), ?_⟩
    rintro ⟨_, _, h⟩
    exact absurd harmed (not_lt.mpr h.armed)
  by_cases hexpired : correlation.expiresAt ≤ receivedAt
  · rw [if_neg harmed, if_pos hexpired]
    refine ⟨fun h => (by cases h), ?_⟩
    rintro ⟨_, _, h⟩
    exact absurd hexpired (not_le.mpr h.unexpired)
  rw [if_neg harmed, if_neg hexpired]
  constructor
  · intro h
    split at h
    next attempt plan hattempt hplan =>
      split at h
      next identity hrun hhypothesis =>
        obtain ⟨h1, h2, h3, h4, h5, rfl, h7, h8⟩ := validateRows_eq_none.mp h
        exact ⟨attempt, plan, not_lt.mp harmed, not_le.mp hexpired, hattempt, hplan, hrun,
          hhypothesis, h7, h8, h1, h2, h4, h3, h5⟩
      next => cases h
    next => cases h
  · rintro ⟨attempt, plan, h⟩
    simp only [h.attemptFound, h.planFound, h.run, h.hypothesis]
    exact validateRows_eq_none.mpr ⟨h.attemptExperiment, h.attemptRun, h.planRun, h.attemptTarget,
      h.planTarget, rfl, h.identity, h.planIdentity⟩

/-! ## Observations -/

structure SensorObservation where
  observationId : Text
  researchRunId : Text
  sensorId : Text
  targetReference : Text
  collectedAt : Instant
  payloadDigest : Text
  sourceMetadata : Dict
  payload : Dict

/-- A row of the observations, whose epistemic status is always `UNTRUSTED_EXTERNAL`. -/
structure SensorObservationRecord extends SensorObservation where
  createdAt : Instant

/-- What hashing and formatting are. -/
structure Formats where
  /-- The SHA-256 of a text, in hexadecimal. -/
  sha256 : Text → Text
  /-- The SHA-256 of the JSON of a payload. -/
  payloadDigest : Dict → Text
  isoformat : Instant → Text

section Formats

variable (formats : Formats)

/-- `_stable_id`. -/
def stableId (kind : String) (correlationId : Text) : Text :=
  "oast:".toList ++ kind.toList ++ ":".toList ++ formats.sha256 correlationId

/-- `build_observation`. -/
def buildObservation (observationId sensorId targetReference researchRunId : Text)
    (payload sourceMetadata : Dict) (collectedAt : Instant) :
    Except String SensorObservation := do
  requireText observationId "observation_id"
  requireText researchRunId "research_run_id"
  requireText sensorId "sensor_id"
  requireText targetReference "target_reference"
  requireText (formats.payloadDigest payload) "payload_digest"
  return {
    observationId := observationId.strip
    researchRunId := researchRunId.strip
    sensorId := sensorId.strip
    targetReference := targetReference.strip
    collectedAt := collectedAt
    payloadDigest := (formats.payloadDigest payload).strip
    sourceMetadata := sourceMetadata
    payload := payload }

/-! ## From an observation to a fact -/

/-- A rejection of the observation, or another error that a constructor raises. -/
inductive AdmissionError where
  | sensorAdmission (message : String)
  | researchInput (message : String)
  deriving DecidableEq, Repr

/-- A constructor that raises `ResearchInputError`. -/
def researchInput {α : Type} : Except String α → Except AdmissionError α
  | .error message => .error (.researchInput message)
  | .ok a => .ok a

/-- `_SENSOR_FACT_KIND.get(sensor_id, HOSTNAME)`. -/
def sensorFactKind (sensorId : Text) : DiscoveryFactKind :=
  if sensorId = "sensor.archive".toList then .exactPath
  else if sensorId = "sensor.cert".toList then .cert
  else if sensorId = "sensor.techfp".toList then .tech
  else .hostname

/-- `_reject_forbidden`. -/
def rejectForbidden (keys : List Text) (fieldName : String) : Except AdmissionError Unit :=
  if keys.any fun key => forbiddenDiscoveryKeys.contains (String.ofList key) then
    .error (.sensorAdmission (fieldName ++ " contains forbidden discovery keys"))
  else .ok ()

/-- The first technology of a payload. -/
def technology (payload : Dict) : Attributes :=
  match payload.get "technologies".toList with
  | .array (.object first :: _) =>
    match Dict.get first "name".toList with
    | .text name => [("technology".toList, .text name)]
    | _ => []
  | _ => []

/-- `attributes.update(extra)`. -/
def updateAttributes (attributes extra : Attributes) : Attributes :=
  extra.foldl (KeyedList.upsert Prod.fst fun _ new => new) attributes

structure DiscoveryFactRow extends FactFields CanonicalKey where
  factId : Text
  researchRunId : Text
  createdAt : Instant

structure DiscoveryFactSourceRecord where
  sourceRowId : Text
  researchRunId : Text
  factId : Text
  sensorObservationId : Text
  createdAt : Instant

/-- The attributes of the fact of an observation. -/
def admittedAttributes (observation : SensorObservation) (scopeClassification : ScopeClassification)
    (extraAttributes : Attributes) : Attributes :=
  let attributes : Attributes :=
    [("sensor_id".toList, .text observation.sensorId),
      ("scope_classification".toList, .text scopeClassification.value.toList),
      ("source_status".toList, .text "UNTRUSTED_EXTERNAL".toList),
      ("admitted_at".toList, .text (formats.isoformat observation.collectedAt))]
  let technologies :=
    if sensorFactKind observation.sensorId = .tech then technology observation.payload else []
  updateAttributes (updateAttributes attributes technologies) extraAttributes

/-- `admit_in_uow`, with ids and a key from its caller: the two rows that it inserts. -/
def admitInUow (observation : SensorObservation) (researchRunId identityId : Text)
    (scopeClassification : ScopeClassification) (factId sourceRowId : Text)
    (canonicalKey : CanonicalKey) (extraAttributes : Attributes) :
    Except AdmissionError (DiscoveryFactRow × DiscoveryFactSourceRecord) := do
  rejectForbidden (observation.payload.map (·.1)) "payload"
  rejectForbidden (observation.sourceMetadata.map (·.1)) "source_metadata"
  rejectForbidden (extraAttributes.map (·.1)) "extra_attributes"
  let fields : FactFields CanonicalKey := {
    factKind := sensorFactKind observation.sensorId
    canonicalKey := canonicalKey
    epistemicStatus := .observed
    identityId := identityId
    targetReference := observation.targetReference
    sessionContextId := none
    normalizedOrigin := some observation.targetReference
    normalizedPath := none
    httpMethod := none
    attributes := admittedAttributes formats observation scopeClassification extraAttributes }
  researchInput (requireText factId "fact_id")
  researchInput (requireText researchRunId "research_run_id")
  let fact ← researchInput
    (DiscoveryFact.make fields [.sensorObservation observation.observationId])
  return (
    { toFactFields := fact.toFactFields
      factId := factId.strip
      researchRunId := researchRunId.strip
      createdAt := observation.collectedAt },
    { sourceRowId := sourceRowId
      researchRunId := researchRunId
      factId := factId.strip
      sensorObservationId := observation.observationId
      createdAt := observation.collectedAt })

/-! ## The rows of an admission -/

structure OastAdmissionRecord where
  admissionId : Text
  correlationId : Text
  researchRunId : Text
  sensorObservationId : Text
  discoveryFactId : Text
  createdAt : Instant
  deriving DecidableEq, Repr

/-- The observation of the first delivery of a correlation. -/
def correlationObservation (correlation : OastCorrelationRecord)
    (delivery : OastCallbackDelivery) : Except String SensorObservation :=
  buildObservation formats (stableId formats "observation" correlation.correlationId)
    "oast.correlation".toList correlation.targetReference correlation.researchRunId
    [("provider_adapter_id".toList, .text delivery.providerAdapterId),
      ("provider_event_id".toList, .text delivery.providerEventId),
      ("normalized_digest".toList, .text delivery.normalizedDigest),
      ("normalized_payload".toList, .object delivery.normalizedPayload)]
    [("sensor_id".toList, .text "oast.correlation".toList),
      ("correlation_id".toList, .text correlation.correlationId),
      ("attempt_id".toList, .text correlation.attemptId),
      ("provider_adapter_id".toList, .text delivery.providerAdapterId),
      ("source_status".toList, .text "UNTRUSTED_EXTERNAL".toList)]
    delivery.receivedAt

/-- The key of the fact of a correlation. -/
def correlationKey (correlationId : Text) : CanonicalKey :=
  .plain ("oast.correlation:".toList ++ correlationId)

/-- The rows of its fact. -/
def correlationFact (correlation : OastCorrelationRecord) (observation : SensorObservation) :
    Except AdmissionError (DiscoveryFactRow × DiscoveryFactSourceRecord) :=
  admitInUow formats observation correlation.researchRunId correlation.identityId .unknown
    (stableId formats "fact" correlation.correlationId)
    (stableId formats "source" correlation.correlationId)
    (correlationKey correlation.correlationId)
    [("oast_semantics".toList, .text "correlated external callback observed".toList)]

/-- The row of its admission. -/
def admissionRecord (correlation : OastCorrelationRecord) (delivery : OastCallbackDelivery)
    (observationId factId : Text) : OastAdmissionRecord where
  admissionId := stableId formats "admission" correlation.correlationId
  correlationId := correlation.correlationId
  researchRunId := correlation.researchRunId
  sensorObservationId := observationId
  discoveryFactId := factId
  createdAt := delivery.receivedAt

end Formats

/-! ## The results -/

structure OastCallbackAdmissionResult where
  admitted : Bool
  observationId : Text
  factId : Option Text
  reasonCode : ReasonCode
  deriving DecidableEq, Repr

namespace OastCallbackAdmissionResult

/-- `_rejected`. -/
def rejected (reasonCode : ReasonCode) : OastCallbackAdmissionResult :=
  ⟨false, [], none, reasonCode⟩

/-- `_result_from_admission`. -/
def ofAdmission (admission : OastAdmissionRecord) : OastCallbackAdmissionResult :=
  ⟨true, admission.sensorObservationId, some admission.discoveryFactId, .callbackAlreadyAdmitted⟩

/-- The result of the delivery that is admitted. -/
def ofFirst (admission : OastAdmissionRecord) : OastCallbackAdmissionResult :=
  ⟨true, admission.sensorObservationId, some admission.discoveryFactId, .callbackAdmitted⟩

end OastCallbackAdmissionResult

/-- `_execute_legacy_token_callback`: what it answers of the token, which it never
admits. -/
def executeLegacyTokenCallback (tokenExpiresAt : Option Instant) (occurredAt : Instant) :
    OastCallbackAdmissionResult :=
  match tokenExpiresAt with
  | none => .rejected .tokenNotFound
  | some expiresAt =>
    if expiresAt < occurredAt then .rejected .tokenExpired
    else .rejected .legacyTokenNotAuthoritative

/-! ## What the rows say -/

/-- The texts of a correlation that end up in other rows have no white space around
them. -/
structure OastCorrelationRecord.Trimmed (c : OastCorrelationRecord) : Prop where
  run : c.researchRunId.strip = c.researchRunId
  target : c.targetReference.strip = c.targetReference
  identity : c.identityId.strip = c.identityId

/-- The observation belongs to the correlation. -/
structure ObservationOf (formats : Formats) (c : OastCorrelationRecord)
    (o : SensorObservation) : Prop where
  observationId : o.observationId = (stableId formats "observation" c.correlationId).strip
  sensor : o.sensorId = "oast.correlation".toList
  run : o.researchRunId = c.researchRunId
  target : o.targetReference = c.targetReference
  correlation : o.sourceMetadata.get "correlation_id".toList = .text c.correlationId

/-- The fact belongs to the correlation. -/
structure FactOf (formats : Formats) (c : OastCorrelationRecord) (f : DiscoveryFactRow) : Prop where
  factId : f.factId = (stableId formats "fact" c.correlationId).strip
  key : f.canonicalKey = correlationKey c.correlationId
  run : f.researchRunId = c.researchRunId
  target : f.targetReference = c.targetReference
  identity : f.identityId = c.identityId
  scope : f.attributes.get "scope_classification".toList = some (.text "UNKNOWN".toList)

variable {formats : Formats} {c : OastCorrelationRecord}

theorem sensorId_strip : Text.strip "oast.correlation".toList = "oast.correlation".toList := by
  decide

theorem correlationObservation_spec {delivery : OastCallbackDelivery} {o : SensorObservation}
    (htrimmed : c.Trimmed) (h : correlationObservation formats c delivery = .ok o) :
    ObservationOf formats c o := by
  unfold correlationObservation buildObservation at h
  obtain ⟨_, -, h⟩ := bind_eq_ok h
  obtain ⟨_, -, h⟩ := bind_eq_ok h
  obtain ⟨_, -, h⟩ := bind_eq_ok h
  obtain ⟨_, -, h⟩ := bind_eq_ok h
  obtain ⟨_, -, h⟩ := bind_eq_ok h
  cases h
  exact ⟨rfl, sensorId_strip, htrimmed.run, htrimmed.target, rfl⟩

/-- The scope of a fact is what the caller says, and not what it adds. -/
theorem admittedAttributes_scope (o : SensorObservation) (semantics : Text)
    (hsensor : sensorFactKind o.sensorId ≠ .tech) :
    (admittedAttributes formats o .unknown
      [("oast_semantics".toList, .text semantics)]).get "scope_classification".toList =
        some (.text "UNKNOWN".toList) := by
  unfold admittedAttributes
  simp only [if_neg hsensor]
  rfl

theorem researchInput_eq_ok {α : Type} {x : Except String α} {a : α}
    (h : researchInput x = .ok a) : x = .ok a := by
  cases x with
  | error message => cases h
  | ok b =>
    cases h
    rfl

theorem correlationFact_spec {o : SensorObservation} {f : DiscoveryFactRow}
    {source : DiscoveryFactSourceRecord} (htrimmed : c.Trimmed) (ho : ObservationOf formats c o)
    (h : correlationFact formats c o = .ok (f, source)) :
    FactOf formats c f ∧ source.factId = f.factId := by
  have hsensor : sensorFactKind o.sensorId ≠ .tech := by
    rw [ho.sensor]
    decide
  unfold correlationFact admitInUow at h
  obtain ⟨_, -, h⟩ := bind_eq_ok h
  obtain ⟨_, -, h⟩ := bind_eq_ok h
  obtain ⟨_, -, h⟩ := bind_eq_ok h
  obtain ⟨_, -, h⟩ := bind_eq_ok h
  obtain ⟨_, -, h⟩ := bind_eq_ok h
  obtain ⟨fact, hfact, h⟩ := bind_eq_ok h
  obtain ⟨-, hfields, -⟩ := DiscoveryFact.make_eq_ok (researchInput_eq_ok hfact)
  cases h
  refine ⟨⟨rfl, ?_, htrimmed.run, ?_, ?_, ?_⟩, rfl⟩
  · rw [hfields]
    rfl
  · show fact.toFactFields.targetReference = _
    rw [hfields]
    exact (congrArg Text.strip ho.target).trans htrimmed.target
  · show fact.toFactFields.identityId = _
    rw [hfields]
    exact htrimmed.identity
  · show fact.toFactFields.attributes.get _ = _
    rw [hfields]
    exact admittedAttributes_scope o _ hsensor

end Zest.Oast

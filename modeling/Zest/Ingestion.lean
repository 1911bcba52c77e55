import Zest.ExecutionAttempts
import Zest.JsonValue
import Zest.SessionLifecycle

/-! # Ingesting the result of a Worker

A completed invocation is checked and normalized first; what comes of that is written
in one transaction: the result, its observations, what the result means for a session,
and the audit events.

The rows have ids that are made of the id of the request, so that a result that is
ingested twice meets its own row.
-/
namespace Zest.Ingestion

open Sessions

/-! ## The documents -/

/-- The `correlation` of a request. -/
structure RequestCorrelation extends Correlation where
  parentRequestId : Option Text

/-- A Worker request, as the ingestion reads it; a capability or an action that is not
a text is `none`. -/
structure WorkerRequestDocument where
  correlation : RequestCorrelation
  workerCapability : Option Capability
  action : Option Text
  authorizationDecisionReference : Text
  budgetId : Text
  sideEffectLevel : Int
  arguments : Option Mapping

/-- A Worker result; a key that is left out is `null`. -/
structure WorkerResultDocument where
  correlation : Option Correlation
  contractVersion : Text
  workerId : Text
  status : Text
  startedAt : JsonValue
  completedAt : JsonValue
  rawResult : JsonValue
  rawArtifactDescriptors : JsonValue
  diagnostics : JsonValue
  controlSignal : JsonValue
  ephemeralSecrets : JsonValue

structure WorkerInvocationOutcome where
  invocationStatus : InvocationStatus
  workerResult : Option WorkerResultDocument

/-- What one call of `execute` is given. -/
structure IngestionCall where
  request : WorkerRequestDocument
  outcome : WorkerInvocationOutcome

/-- `isinstance(value, Mapping)`. -/
def asMapping : JsonValue → Option Dict
  | .object entries => some entries
  | _ => none

/-- `strip_ephemeral_secrets`. -/
def stripEphemeralSecrets (result : WorkerResultDocument) :
    WorkerResultDocument × Option Dict :=
  let rawResult :=
    match result.rawResult with
    | .object entries =>
      .object (entries.filter fun entry => entry.1 ≠ "_ephemeral_session_cookie".toList)
    | other => other
  ({ result with ephemeralSecrets := .null, rawResult := rawResult },
    asMapping result.ephemeralSecrets)

structure ObservationDraft where
  observationKind : Text
  payload : Dict
  normalizationVersion : Text
  observedAt : Instant

/-- What the use case is constructed with. -/
structure Collaborators where
  validateWorkerRequest : WorkerRequestDocument → Except Text Unit
  validateWorkerResult : WorkerResultDocument → Except Text Unit
  /-- `registry.get(capability, action)`, and the `normalize` of what it finds. -/
  normalizer : Capability → Text → Except Text
    (WorkerRequestDocument → WorkerResultDocument → Except Text (List ObservationDraft))
  parseAwareTimestamp : JsonValue → Except Text Instant
  secretPort : Bool
  actorId : Text

/-! ## Before the transaction -/

section Calls

variable (env : Collaborators)

/-- `correlation_matches`. -/
def correlationMatches (request : WorkerRequestDocument) (result : WorkerResultDocument) : Bool :=
  result.correlation == some request.correlation.toCorrelation

/-- `_reject_invalid_invocation`. -/
def rejectInvalidInvocation (request : WorkerRequestDocument)
    (outcome : WorkerInvocationOutcome) : Except Text WorkerResultDocument :=
  if outcome.invocationStatus ≠ .completed then
    .error ("invocation_status is not COMPLETED; " ++
      "transport/runtime failure is not a WorkerResult").toList
  else
    match outcome.workerResult with
    | none => .error "COMPLETED invocation is missing a WorkerResult document".toList
    | some result => do
      env.validateWorkerRequest request
      env.validateWorkerResult result
      if correlationMatches request result then
        return result
      else
        throw "correlation mismatch; WorkerResult not rewritten and not ingested".toList

/-- What the transaction works with. -/
structure Prepared where
  request : WorkerRequestDocument
  capability : Capability
  action : Text
  result : WorkerResultDocument
  ephemeral : Option Dict
  drafts : List ObservationDraft

/-- `execute`, as far as its transaction: an error is the reason of a rejection. -/
def prepare (call : IngestionCall) : Except Text Prepared := do
  let validated ← rejectInvalidInvocation env call.request call.outcome
  let cleaned := stripEphemeralSecrets validated
  match call.request.workerCapability, call.request.action with
  | some capability, some action =>
    let normalize ← env.normalizer capability action
    let drafts ← normalize call.request cleaned.1
    return {
      request := call.request, capability := capability, action := action
      result := cleaned.1, ephemeral := cleaned.2, drafts := drafts }
  | _, _ => throw "trusted request is missing worker_capability/action".toList

def Prepared.requestId (x : Prepared) : Text := x.request.correlation.requestId

/-! ## The rows -/

structure WorkerResultRecord where
  workerResultId : Text
  experimentId : Text
  researchRunId : Text
  requestId : Text
  correlationId : Text
  workerCapability : Capability
  action : Text
  authorizationDecisionReference : Text
  budgetId : Text
  sideEffectLevel : Int
  contractVersion : Text
  workerId : Text
  status : Text
  receivedAt : Instant
  startedAt : Option Instant
  completedAt : Option Instant
  parentRequestId : Option Text
  rawResult : Option Dict
  rawArtifactDescriptors : Option (List Dict)
  diagnostics : Option Dict
  controlSignal : Option Dict

structure ObservationRecord where
  observationId : Text
  workerResultId : Text
  observationKind : Text
  payload : Dict
  normalizationVersion : Text
  observedAt : Instant
  createdAt : Instant

structure AuditEventRecord where
  auditEventId : Text
  occurredAt : Instant
  actorId : Text
  eventType : Text
  subjectType : Text
  subjectId : Text
  payload : Dict
  correlationId : Text

def workerResultIdFor (requestId : Text) : Text := "wr:".toList ++ requestId

def observationIdFor (requestId kind version : Text) : Text :=
  "obs:".toList ++ requestId ++ ":".toList ++ kind ++ ":".toList ++ version

/-- A timestamp of the result, where there is one. -/
def optionalTimestamp : JsonValue → Except Text (Option Instant)
  | .null => .ok none
  | value => (env.parseAwareTimestamp value).map some

/-- `_worker_result_record`. -/
def workerResultRecord (x : Prepared) (receivedAt : Instant) :
    Except Text WorkerResultRecord := do
  let startedAt ← optionalTimestamp env x.result.startedAt
  let completedAt ← optionalTimestamp env x.result.completedAt
  return {
    workerResultId := workerResultIdFor x.requestId
    experimentId := x.request.correlation.experimentId
    researchRunId := x.request.correlation.researchRunId
    requestId := x.requestId
    correlationId := x.request.correlation.correlationId
    workerCapability := x.capability
    action := x.action
    authorizationDecisionReference := x.request.authorizationDecisionReference
    budgetId := x.request.budgetId
    sideEffectLevel := x.request.sideEffectLevel
    contractVersion := x.result.contractVersion
    workerId := x.result.workerId
    status := x.result.status
    receivedAt := receivedAt
    startedAt := startedAt
    completedAt := completedAt
    parentRequestId := x.request.correlation.parentRequestId
    rawResult := asMapping x.result.rawResult
    rawArtifactDescriptors :=
      match x.result.rawArtifactDescriptors with
      | .array items => some (items.filterMap asMapping)
      | _ => none
    diagnostics := asMapping x.result.diagnostics
    controlSignal := asMapping x.result.controlSignal }

/-- The row of a draft. -/
def observationRecord (record : WorkerResultRecord) (createdAt : Instant)
    (draft : ObservationDraft) : ObservationRecord where
  observationId :=
    observationIdFor record.requestId draft.observationKind draft.normalizationVersion
  workerResultId := record.workerResultId
  observationKind := draft.observationKind
  payload := draft.payload
  normalizationVersion := draft.normalizationVersion
  observedAt := draft.observedAt
  createdAt := createdAt

/-- The audit event of the result. -/
def resultAuditEvent (record : WorkerResultRecord) (drafts : List ObservationDraft)
    (createdAt : Instant) : AuditEventRecord where
  auditEventId := "ae:wr:".toList ++ record.requestId
  occurredAt := createdAt
  actorId := env.actorId
  eventType := "WORKER_RESULT_INGESTED".toList
  subjectType := "worker_result".toList
  subjectId := record.workerResultId
  payload := [("request_id".toList, .text record.requestId),
    ("worker_result_status".toList, .text record.status),
    ("observation_count".toList, .integer drafts.length),
    ("normalization_version".toList,
      match drafts with
      | [] => .null
      | draft :: _ => .text draft.normalizationVersion)]
  correlationId := record.correlationId

/-- The audit event of an observation. -/
def observationAuditEvent (record : WorkerResultRecord) (createdAt : Instant)
    (draft : ObservationDraft) : AuditEventRecord where
  auditEventId := "ae:obs:".toList ++ record.requestId ++ ":".toList ++ draft.observationKind ++
    ":".toList ++ draft.normalizationVersion
  occurredAt := createdAt
  actorId := env.actorId
  eventType := "OBSERVATION_ADMITTED".toList
  subjectType := "observation".toList
  subjectId := observationIdFor record.requestId draft.observationKind draft.normalizationVersion
  payload := [("observation_kind".toList, .text draft.observationKind),
    ("normalization_version".toList, .text draft.normalizationVersion)]
  correlationId := record.correlationId

/-- `_persist_audit_events`. -/
def auditEvents (record : WorkerResultRecord) (drafts : List ObservationDraft)
    (createdAt : Instant) : List AuditEventRecord :=
  resultAuditEvent env record drafts createdAt ::
    drafts.map (observationAuditEvent env record createdAt)

/-- The experiment of a request, as the integrity check reads it. -/
structure ExperimentRow where
  researchRunId : Text
  budgetId : Text

/-- `_check_experiment_integrity`. -/
def checkExperimentIntegrity (experiments : Text → Option ExperimentRow)
    (request : WorkerRequestDocument) : Option Text :=
  match experiments request.correlation.experimentId with
  | none => some "experiment does not exist for this WorkerRequest".toList
  | some experiment =>
    if experiment.researchRunId ≠ request.correlation.researchRunId then
      some "experiment research_run_id does not match WorkerRequest".toList
    else if experiment.budgetId ≠ request.budgetId then
      some "experiment budget_id does not match WorkerRequest".toList
    else none

/-! ## Sessions -/

/-- The `status_code` of a raw result, as far as it is compared with numbers. -/
def statusCode : JsonValue → Option Nat
  | .integer n => if n < 0 then none else some n.toNat
  | .real value => if value = 401 then some 401 else if value = 403 then some 403 else none
  | _ => none

/-- The result, as the session functions read it. -/
def Prepared.ingestedResult (x : Prepared) : IngestedResult :=
  let raw := (asMapping x.result.rawResult).getD []
  { status := x.result.status
    sessionEstablished := (raw.get "session_established".toList).truthy
    statusCode := statusCode (raw.get "status_code".toList) }

def Prepared.ingestedRequest (x : Prepared) : IngestedRequest where
  workerCapability := x.capability
  arguments := x.request.arguments

def Prepared.sessionCookie (x : Prepared) : Option Text :=
  match x.ephemeral with
  | some ephemeral =>
    match Dict.get ephemeral "session_cookie".toList with
    | .text cookie => some cookie
    | _ => none
  | none => none

/-- `capture_login_result`, then `expire_session_on_unauthenticated_response`: one of
the two at most has something to do. -/
def Prepared.sessionOps (x : Prepared) (rows : SessionRows) : List SessionOp :=
  captureLoginResult rows env.secretPort x.ingestedRequest x.ingestedResult x.sessionCookie ++
    expireSessionOnUnauthenticatedResponse rows env.secretPort x.ingestedRequest x.ingestedResult

/-- The session that these are about. -/
def Prepared.sessionId (x : Prepared) : Option Text :=
  textArgument x.request.arguments
    (if x.capability = .httpAuthentication then "session_context_id".toList
      else "session_context_reference".toList)

end Calls

/-! ## The outcome -/

inductive IngestionStatus where
  | ingested
  | alreadyIngested
  | noObservation
  | rejectedInvalidInvocation
  deriving DecidableEq, Repr

structure IngestionOutcome where
  status : IngestionStatus
  workerResultId : Option Text
  observationIds : List Text
  reason : Option Text
  deriving DecidableEq, Repr

def IngestionOutcome.rejected (reason : Text) : IngestionOutcome :=
  ⟨.rejectedInvalidInvocation, none, [], some reason⟩

def IngestionOutcome.alreadyIngested (record : WorkerResultRecord)
    (observationIds : List Text) : IngestionOutcome :=
  ⟨.alreadyIngested, some record.workerResultId, observationIds,
    some "request_id already ingested; not a duplicate vulnerability".toList⟩

def IngestionOutcome.ingested (record : WorkerResultRecord) (observationIds : List Text) :
    IngestionOutcome :=
  ⟨if observationIds = [] then .noObservation else .ingested, some record.workerResultId,
    observationIds, none⟩

end Zest.Ingestion

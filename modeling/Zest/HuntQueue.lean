import Zest.ExecutionAttempts
import Zest.HuntCycle

/-! # The queue of active experiments

What the hunt has put in its V3 queue waits for a human.  Approving an item
admits it to be compiled; dispatching it compiles it to an experiment, has the
experiment executed, and writes down what has become of it.

Most families are dispatched once.  A family with a mutation matrix, or with a
protocol, is dispatched cell by cell or step by step, and its item stays
approved: what has been attempted is in the audit events about the item.

Each function here is what a call does between two of its units of work.
-/
namespace Zest.Hunt

/-! ## Approval -/

inductive ActorType where
  | humanOperator
  | controlPlane
  | worker
  | integration
  deriving DecidableEq, Repr

inductive ApprovalDecision where
  | approve
  | reject
  deriving DecidableEq, Repr

/-- What an approval is about: `hunt-v3-queue:{queue_id}`, or anything else. -/
inductive ApprovalSubject where
  | huntV3Queue (queueId : Id)
  | other (reference : Text)
  deriving DecidableEq, Repr

structure ApprovalView where
  approvalId : Id
  subjectReference : ApprovalSubject
  decision : ApprovalDecision
  actorType : ActorType
  recorded : Bool
  deriving DecidableEq, Repr

/-- The reasons that an approval is judged by. -/
inductive ApprovalReason where
  | approvalRequired
  | approvalNotRecorded
  | approvalInvalidActor
  | approvalSubjectMismatch
  | approvalRejected
  | allowed
  | se3ApprovalMarkerMissing
  deriving DecidableEq, Repr

structure ApprovalCheck where
  authorizes : Bool
  reasonCode : ApprovalReason
  approvalId : Option Id
  deriving DecidableEq, Repr

/-- `check_approval`; `evaluate_recorded_approval` authorizes what this does. -/
def checkApproval (approval : Option ApprovalView) (requestedSubject : ApprovalSubject) :
    ApprovalCheck :=
  match approval with
  | none => ⟨false, .approvalRequired, none⟩
  | some approval =>
    if approval.recorded = false then ⟨false, .approvalNotRecorded, some approval.approvalId⟩
    else if approval.actorType ≠ .humanOperator then
      ⟨false, .approvalInvalidActor, some approval.approvalId⟩
    else if approval.subjectReference ≠ requestedSubject then
      ⟨false, .approvalSubjectMismatch, some approval.approvalId⟩
    else if approval.decision = .reject then
      ⟨false, .approvalRejected, some approval.approvalId⟩
    else ⟨true, .allowed, some approval.approvalId⟩

structure ApproveHuntV3QueueResult where
  approved : Bool
  state : HuntV3QueueState
  reasonCode : ApprovalReason
  approvalId : Option Id
  deriving DecidableEq, Repr

/-- `item.arguments.get("approval_required") == "SE3"`. -/
def se3MarkerValid (item : HuntV3QueueRecord) : Bool :=
  item.sideEffectLevel ≠ 3 ||
    item.arguments.get "approval_required".toList = some (.text "SE3".toList)

/-- `ApproveHuntV3Queue.execute`, all of it in one unit of work: the item and
the approval that it reads, and the state that it leaves. -/
def approveHuntV3Queue (researchRunId : Id) (item : HuntV3QueueRecord)
    (approval : Option ApprovalView) : Except String ApproveHuntV3QueueResult :=
  if item.researchRunId ≠ researchRunId then
    .error "hunt V3 queue item does not belong to run"
  else if item.state ≠ .pending then .error "hunt V3 queue item is not pending"
  else if se3MarkerValid item = false then
    .ok ⟨false, item.state, .se3ApprovalMarkerMissing, none⟩
  else
    let evaluation := checkApproval approval (.huntV3Queue item.queueId)
    if evaluation.authorizes = false then
      .ok ⟨false, item.state, evaluation.reasonCode, evaluation.approvalId⟩
    else .ok ⟨true, .approved, .allowed, evaluation.approvalId⟩

/-- Only a pending item is approved. -/
theorem approveHuntV3Queue_approved {researchRunId : Id} {item : HuntV3QueueRecord}
    {approval : Option ApprovalView} {result : ApproveHuntV3QueueResult}
    (h : approveHuntV3Queue researchRunId item approval = .ok result)
    (happroved : result.approved = true) : item.state = .pending ∧ result.state = .approved := by
  unfold approveHuntV3Queue at h
  by_cases hrun : item.researchRunId ≠ researchRunId
  · rw [if_pos hrun] at h
    cases h
  rw [if_neg hrun] at h
  by_cases hpending : item.state ≠ .pending
  · rw [if_pos hpending] at h
    cases h
  rw [if_neg hpending] at h
  refine ⟨not_not.mp hpending, ?_⟩
  by_cases hmarker : se3MarkerValid item = false
  · rw [if_pos hmarker] at h
    cases h
    cases happroved
  rw [if_neg hmarker] at h
  dsimp only at h
  by_cases hauthorizes :
      (checkApproval approval (.huntV3Queue item.queueId)).authorizes = false
  · rw [if_pos hauthorizes] at h
    cases h
    cases happroved
  · rw [if_neg hauthorizes] at h
    cases h
    rfl

/-! ## What a dispatch is given -/

/-- `DispatchApprovedV3QueueCommand`; the scope and the approval go to Core. -/
structure DispatchCommand where
  researchRunId : Id
  budgetId : Id
  targetReference : Text
  compileArguments : Attributes
  selectedCellId : Option Text
  selectedStepId : Option Text
  deriving DecidableEq, Repr

inductive CompilerOutcome where
  | compiled
  | blockedUnsupportedCapability
  | blockedMissingSemantics
  | blockedUnknownCell
  | blockedInvalidInput
  deriving DecidableEq, Repr

def CompilerOutcome.value : CompilerOutcome → String
  | .compiled => "COMPILED"
  | .blockedUnsupportedCapability => "BLOCKED_UNSUPPORTED_CAPABILITY"
  | .blockedMissingSemantics => "BLOCKED_MISSING_SEMANTICS"
  | .blockedUnknownCell => "BLOCKED_UNKNOWN_CELL"
  | .blockedInvalidInput => "BLOCKED_INVALID_INPUT"

/-- A decision of the compilers; `hasPlan` where the plan is not `None`. -/
structure CompilerResult where
  outcome : CompilerOutcome
  reasonCode : String
  compilerId : String
  hasPlan : Bool
  deriving DecidableEq, Repr

def CompilerResult.compiled (result : CompilerResult) : Bool :=
  result.outcome = .compiled && result.hasPlan

/-- `MUTATION_MATRIX_FAMILIES`. -/
def mutationMatrixFamilies : List Text :=
  ["SQL_INJECTION", "SERVER_SIDE_TEMPLATE_INJECTION", "FILE_INCLUDE_AND_PATH_TRAVERSAL",
    "MASS_ASSIGNMENT", "JWT_CRYPTO_AND_CLAIM_CONFUSION", "CORS_CREDENTIAL_EXFILTRATION_CHAIN",
    "GRAPHQL_AUTHORIZATION_AND_INJECTION", "DOM_TAINT_AND_CLIENT_SIDE_EXECUTION",
    "AI_LLM_PROMPT_INJECTION_AND_TOOL_ABUSE"].map String.toList

/-- `PROTOCOL_FAMILIES`. -/
def protocolFamilies : List Text :=
  ["HTTP_REQUEST_SMUGGLING_DESYNC", "HTTP_CACHE_POISONING_DECEPTION"].map String.toList

/-- `_family_name`. -/
def familyName (item : HuntV3QueueRecord) : Option Text :=
  match item.arguments.get "family_name".toList with
  | some (.text value) => if value.strip ≠ [] then some value.strip else none
  | _ => none

/-- `family_name in UNIT_FAMILIES`: the item is dispatched by units, that is by
cells or by steps. -/
def byUnits (item : HuntV3QueueRecord) : Bool :=
  match familyName item with
  | some name => name ∈ mutationMatrixFamilies ++ protocolFamilies
  | none => false

/-- `_unit_id`. -/
def unitId (command : DispatchCommand) : Option Text → Option Text
  | some name =>
    if name ∈ mutationMatrixFamilies then command.selectedCellId
    else if name ∈ protocolFamilies then command.selectedStepId
    else none
  | none => none

/-! ## What a dispatch records and returns -/

/-- `HUNT_V3_UNIT_INTENT` and `HUNT_V3_UNIT_OUTCOME`. -/
inductive UnitEventType where
  | intent
  | outcome
  deriving DecidableEq, Repr

/-- An audit event about a unit of the item. -/
structure UnitEvent where
  eventType : UnitEventType
  unitId : Text
  experimentId : Option Id
  attemptId : Option Id
  outcome : String
  reasonCode : String
  compilerId : String
  coverageEligible : Bool
  deriving DecidableEq, Repr

structure DispatchResult where
  state : HuntV3QueueState
  outcome : String
  reasonCode : String
  compilerId : Option String := none
  experimentId : Option Id := none
  attemptId : Option Id := none
  workerInvoked : Bool := false
  coverageRecorded : Bool := false
  deriving DecidableEq, Repr

/-- What `ExecutePlannedExperiment` returns, as far as the dispatch reads it. -/
structure ExecutionOutcome where
  status : ResearchLoopStatus
  attemptId : Option Id
  deriving DecidableEq, Repr

/-- `ResearchLoopStatus.value`. -/
def statusValue : ResearchLoopStatus → String
  | .observationProduced => "OBSERVATION_PRODUCED"
  | .noObservation => "NO_OBSERVATION"
  | .dispatchDenied => "DISPATCH_DENIED"
  | .humanReviewRequired => "HUMAN_REVIEW_REQUIRED"
  | .invocationFailed => "INVOCATION_FAILED"
  | .unknownOutcome => "UNKNOWN_OUTCOME"
  | .authorizedNotDispatched => "AUTHORIZED_NOT_DISPATCHED"
  | .alreadyTerminal => "ALREADY_TERMINAL"
  | .inputRejected => "INPUT_REJECTED"
  | .reauthorizationRequired => "REAUTHORIZATION_REQUIRED"

/-- `_prior_unit`, from the events about the item in the order they are
listed. -/
def priorUnit (events : List UnitEvent) (unit : Text) : Option UnitEvent :=
  events.find? fun event => event.unitId = unit

theorem priorUnit_eq_none {events : List UnitEvent} {unit : Text} :
    priorUnit events unit = none ↔ ∀ event ∈ events, event.unitId ≠ unit := by
  simp [priorUnit]

/-! ## A dispatch between its units of work -/

/-- How far a call of `DispatchApprovedV3Queue.execute` has come.  `unit` is the
cell or step of an item that is dispatched by units. -/
inductive DispatchPhase where
  | idle
  /-- Before `_prior_unit`. -/
  | checking (unit : Text)
  /-- Has a plan, and an experiment to prepare. -/
  | preparing (unit : Option Text) (compiled : CompilerResult)
  /-- Before the `INTENT` is audited. -/
  | intending (unit : Text) (compiled : CompilerResult) (experimentId : Id)
  /-- Before `ExecutePlannedExperiment.execute`. -/
  | ready (unit : Option Text) (compiled : CompilerResult) (experimentId : Id)
  /-- In it, and the Worker is not invoked yet. -/
  | executing (unit : Option Text) (compiled : CompilerResult) (experimentId : Id)
  /-- In it, and the Worker has been invoked. -/
  | invoked (unit : Option Text) (compiled : CompilerResult) (experimentId : Id)
  /-- Before `EvaluateExperimentFeedback.execute`. -/
  | evaluating (unit : Option Text) (compiled : CompilerResult) (experimentId : Id)
      (loop : ExecutionOutcome)
  /-- Before `_audit_unit` records what has become of the unit. -/
  | noting (event : UnitEvent) (result : DispatchResult)
  /-- Before `_block`, with the experiment that was prepared, if any. -/
  | blocking (experimentId : Option Id) (result : DispatchResult)
  /-- Before `_mark_run`. -/
  | marking (result : DispatchResult)
  | returned (result : DispatchResult)
  /-- Has raised, or crashed. -/
  | raised
  /-- Has done so while an execution of a plain item was not recorded. -/
  | lost
  deriving DecidableEq, Repr

section Dispatch

variable (compile : DispatchCommand → HuntV3QueueRecord → CompilerResult)
  (command : DispatchCommand) (item : HuntV3QueueRecord)

/-- What follows `_compile`. -/
def afterCompile (unit : Option Text) : DispatchPhase :=
  let compiled := compile command item
  if compiled.compiled then .preparing unit compiled
  else match unit with
    | some unit =>
      .noting
        { eventType := .outcome, unitId := unit, experimentId := none, attemptId := none,
          outcome := compiled.outcome.value, reasonCode := compiled.reasonCode,
          compilerId := compiled.compilerId, coverageEligible := false }
        { state := item.state, outcome := compiled.outcome.value,
          reasonCode := compiled.reasonCode, compilerId := compiled.compilerId }
    | none =>
      .blocking none
        { state := .blocked, outcome := compiled.outcome.value,
          reasonCode := compiled.reasonCode, compilerId := compiled.compilerId }

/-- What follows `_load_approved`, which has read the item: an item is
dispatched while it is approved, and one that has run has been. -/
def afterLoad : DispatchPhase :=
  if item.researchRunId ≠ command.researchRunId then .raised
  else match item.state with
    | .pending | .blocked => .raised
    | .run =>
      .returned { state := .run, outcome := "ALREADY_DISPATCHED", reasonCode := "ALREADY_RUN" }
    | .approved =>
      if byUnits item then
        match unitId command (familyName item) with
        | none =>
          .noting
            { eventType := .outcome, unitId := [], experimentId := none, attemptId := none,
              outcome := "BLOCKED_INVALID_INPUT", reasonCode := "SELECTED_UNIT_REQUIRED",
              compilerId := (compile command item).compilerId, coverageEligible := false }
            { state := item.state, outcome := "BLOCKED_INVALID_INPUT",
              reasonCode := "SELECTED_UNIT_REQUIRED",
              compilerId := (compile command item).compilerId }
        | some unit => .checking unit
      else afterCompile compile command item none

/-- What follows `_prior_unit`. -/
def afterCheck (unit : Text) (prior : Option UnitEvent) : DispatchPhase :=
  match prior with
  | some event =>
    .returned
      { state := item.state, outcome := "ALREADY_DISPATCHED",
        reasonCode := "UNIT_ALREADY_ATTEMPTED", experimentId := event.experimentId }
  | none => afterCompile compile command item (some unit)

end Dispatch

/-- What follows the preparation of the experiment. -/
def afterPrepare (unit : Option Text) (compiled : CompilerResult) (experimentId : Id) :
    DispatchPhase :=
  match unit with
  | some unit => .intending unit compiled experimentId
  | none => .ready none compiled experimentId

/-- The `INTENT` of a unit. -/
def intentEvent (unit : Text) (compiled : CompilerResult) (experimentId : Id) : UnitEvent where
  eventType := .intent
  unitId := unit
  experimentId := experimentId
  attemptId := none
  outcome := "INTENT"
  reasonCode := "PREPARED"
  compilerId := compiled.compilerId
  coverageEligible := false

/-- What follows the evaluation, or the execution where there is nothing to
evaluate. -/
def afterEvaluate (item : HuntV3QueueRecord) (unit : Option Text) (compiled : CompilerResult)
    (experimentId : Id) (loop : ExecutionOutcome) : DispatchPhase :=
  let result (state : HuntV3QueueState) (outcome reasonCode : String) (workerInvoked : Bool) :
      DispatchResult :=
    { state, outcome, reasonCode, compilerId := compiled.compilerId, experimentId,
      attemptId := loop.attemptId, workerInvoked,
      coverageRecorded := workerInvoked && loop.status = .observationProduced }
  match loop.status with
  | .dispatchDenied =>
    .blocking experimentId (result .blocked "CORE_DENIED" "CORE_DENIED" false)
  | .humanReviewRequired =>
    .blocking experimentId (result .blocked "REQUIRE_HUMAN_REVIEW" "REQUIRE_HUMAN_REVIEW" false)
  | status =>
    match unit with
    | some unit =>
      .noting
        { eventType := .outcome, unitId := unit, experimentId, attemptId := loop.attemptId,
          outcome := statusValue status, reasonCode := "DISPATCHED",
          compilerId := compiled.compilerId,
          coverageEligible := status = .observationProduced }
        (result item.state (statusValue status) "DISPATCHED" (status ≠ .inputRejected))
    | none =>
      .marking (result .run (statusValue status) "DISPATCHED" (status ≠ .inputRejected))

/-- What follows `ExecutePlannedExperiment.execute`. -/
def afterExecute (item : HuntV3QueueRecord) (unit : Option Text) (compiled : CompilerResult)
    (experimentId : Id) (loop : ExecutionOutcome) : DispatchPhase :=
  if loop.status ∈ [.observationProduced, .noObservation, .invocationFailed] then
    .evaluating unit compiled experimentId loop
  else afterEvaluate item unit compiled experimentId loop

namespace DispatchPhase

/-- The call is stopped here: it raises, or the process crashes. -/
def stopped : DispatchPhase → DispatchPhase
  | .returned result => .returned result
  | .invoked none _ _ | .evaluating none _ _ _ | .blocking (some _) _ | .marking _ | .lost => .lost
  | _ => .raised

end DispatchPhase
end Zest.Hunt

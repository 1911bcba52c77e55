import Zest.ResearchStore

/-! # One step of the autonomous controller

`step` reads the orchestration row, resumes what an earlier call has left open,
and otherwise runs one cycle: it selects an opportunity, has a hypothesis
proposed, plans an experiment, executes it and assesses the outcome.  Between
any two of its transactions it may be stopped, and the next call starts from
the row alone.

This module writes `step` out with everything it calls, path by path.  The
answers it gets from the model, the Worker, the policies and the clock are in
`StepInput` and may be anything.  A call that meets an exception which nobody
handles ends where it is, as one that is stopped there does.
-/
namespace Zest

open UnitOfWork

/-- `OrchestrationPhase.value`. -/
def OrchestrationPhase.value : OrchestrationPhase → String
  | .cycleReady => "CYCLE_READY"
  | .opportunitySelected => "OPPORTUNITY_SELECTED"
  | .hypothesisAdmitted => "HYPOTHESIS_ADMITTED"
  | .experimentPlanned => "EXPERIMENT_PLANNED"
  | .authorizationRequested => "AUTHORIZATION_REQUESTED"
  | .attemptAuthorized => "ATTEMPT_AUTHORIZED"
  | .dispatching => "DISPATCHING"
  | .workerResultRecorded => "WORKER_RESULT_RECORDED"
  | .transitionAComplete => "TRANSITION_A_COMPLETE"
  | .assessmentComplete => "ASSESSMENT_COMPLETE"
  | .transitionBComplete => "TRANSITION_B_COMPLETE"
  | .cycleComplete => "CYCLE_COMPLETE"

namespace Controller

/-! ## What a call meets -/

inductive RuntimeOutcome where
  | unavailable
  | authFailed
  | rateLimited
  | timedOut
  | processFailed
  | protocolError
  | structuredOutputInvalid
  | contentPolicyBlocked
  | cancelled
  deriving DecidableEq, Repr

/-- `stop_reason_for_runtime_outcome`. -/
def stopReasonForRuntimeOutcome : RuntimeOutcome → StopReason
  | .contentPolicyBlocked => .contentPolicyBlocked
  | .unavailable => .noCompatibleRuntime
  | .authFailed => .authRequired
  | .rateLimited => .rateLimited
  | .cancelled => .cancelled
  | _ => .operationalFailure

inductive RoutingOutcome where
  | select
  | noCompatibleRuntime
  | blockedPolicy
  | unavailable
  | requireOperatorSelection
  deriving DecidableEq, Repr

/-- How one call of the model ends. -/
inductive ModelReply where
  /-- The program's daily budget denies the call before it is reserved. -/
  | programBudgetDenied
  /-- The request itself is refused, before the call. -/
  | requestRefused (outcome : RuntimeOutcome)
  | failed (outcome : RuntimeOutcome)
  /-- The reply is of the wrong role, claims authority or does not parse. -/
  | malformed
  | usable
  deriving DecidableEq, Repr

/-- How the admission of a usable proposal ends; an admitted one is planned with
a side effect level. -/
inductive Admission where
  | rejected
  | admitted (sideEffectLevel : Nat)
  deriving DecidableEq, Repr

/-- How the transaction of `authorize` decides. -/
inductive AuthorizationAnswer where
  | inputRejected
  /-- The plan cannot be bound to its capability. -/
  | bindingError
  | denied (state : ExperimentExecutionState)
  | humanReview
  | authorized
  deriving DecidableEq, Repr

inductive IngestionStatus where
  | ingested
  | alreadyIngested
  | noObservation
  | rejectedInvalidInvocation
  deriving DecidableEq, Repr

/-- How an execution goes. -/
structure Execution where
  authorization : AuthorizationAnswer
  /-- `_request_consumption_amount`; `none` is its `BudgetOverspendError`. -/
  requestAmount : Option Nat
  invocation : WorkerInvocationOutcome
  /-- The transaction that records the outcome commits. -/
  outcomePersists : Bool
  /-- `none` when the invocation has no result to ingest. -/
  ingestion : Option IngestionStatus
  workerResultId : Option Id
  observationId : Option Id
  deriving DecidableEq, Repr

/-- How the request of an attempt that is resumed is built. -/
inductive RebuiltRequest where
  | capabilityBinding
  | invalid
  | built
  deriving DecidableEq, Repr

/-- The `stop_reason` of a surface discovery cycle. -/
inductive DiscoveryStop where
  | unknownOutcome
  | invocationStartFailed
  | invocationFailed
  | blockedScope
  | maxDiscoveryCycles
  | maxFrontierItems
  | maxBrowserActions
  | maxHttpTransactions
  | noEligibleFrontier
  deriving DecidableEq, Repr

/-- What `_step_surface_discovery` stops the run with. -/
def DiscoveryStop.reason : DiscoveryStop → StopReason × String
  | unknownOutcome => (.operationalFailure, "unknown_outcome")
  | invocationStartFailed => (.operationalFailure, "discovery_invocation_start_failed")
  | invocationFailed => (.operationalFailure, "discovery_invocation_failed")
  | blockedScope => (.coreBlocked, "blocked_scope")
  | maxDiscoveryCycles | maxFrontierItems | maxBrowserActions | maxHttpTransactions =>
    (.maxCyclesReached, "discovery_bounds")
  | noEligibleFrontier => (.completedNoMoreOpportunities, "no_eligible_frontier")

/-- A cycle of surface discovery: its transactions and its result. -/
structure SurfaceDiscovery where
  effects : List ExternalTx
  stop : Option DiscoveryStop
  experimentId : Option Id

/-- Everything a call of `step` meets outside of the store. -/
structure StepInput where
  /-- The lease under which the call writes, if it is fenced. -/
  fence : Option LeaseIdentity
  serverNow : Instant
  /-- Where an identifier stands in the order of the texts, by which lists of
  rows are sorted. -/
  rank : Id → Nat
  /-- The elapsed time at the first check of the bounds and at the second. -/
  elapsedMs : Nat × Nat
  surfaceDiscovery : Option SurfaceDiscovery
  /-- `none` when no routing is asked for. -/
  routing : Option RoutingOutcome
  /-- The opportunities that the selection policy selects, in order. -/
  selection : List OpportunityRow
  generator : ModelReply
  falsifier : ModelReply
  admission : Admission
  /-- The side effect level of a plan made for a hypothesis that is resumed;
  `none` when none can be made. -/
  resumedPlan : Option Nat
  execution : Execution
  rebuilt : RebuiltRequest
  /-- The transactions of the promotion pipeline after an assessment. -/
  promotion : List ExternalTx

/-- `OrchestrationTickResult`. -/
structure TickResult where
  state : OrchestrationState
  cycleNumber : Nat
  outcome : CycleOutcome
  stopReason : Option StopReason
  lastPhase : String
  hypothesisId : Option Id
  experimentId : Option Id
  deriving DecidableEq, Repr

/-- `_result_from_record`. -/
def resultFromRecord (record : ResearchOrchestrationRecord) (outcome : CycleOutcome) :
    TickResult :=
  { state := record.state
    cycleNumber := record.cycleNumber
    outcome := if record.state = .paused then .pause else outcome
    stopReason := record.stopReason
    lastPhase := record.lastPhase
    hypothesisId := record.lastHypothesisId
    experimentId := record.lastExperimentId }

/-- `a or b` of two optional identifiers. -/
def orElse (a b : Option Id) : Option Id := a.or b

variable (input : StepInput)

/-- The item that comes last by its identifier. -/
def lastBy {α : Type} (key : α → Id) : List α → Option α
  | [] => none
  | item :: items =>
    match lastBy key items with
    | none => some item
    | some other => if input.rank (key item) ≤ input.rank (key other) then some other else some item

/-- The item that comes first by its identifier. -/
def firstBy {α : Type} (key : α → Id) : List α → Option α
  | [] => none
  | item :: items =>
    match firstBy key items with
    | none => some item
    | some other => if input.rank (key other) < input.rank (key item) then some other else some item

/-! ## Writing the row -/

/-- `research_orchestrations.save` inside a transaction. -/
def saveRow (s : Store) (record : ResearchOrchestrationRecord) : Except SaveError Store :=
  match save s.row record input.fence false input.serverNow with
  | .ok row => .ok { s with row := row }
  | .error e => .error e

/-- `_reload`. -/
def reload : Prog Store ResearchOrchestrationRecord := Prog.read (·.row)

/-- A save that is followed by a commit, where a terminal row is not an error:
`some false` says that it was terminal. -/
def saveUnlessTerminal (record : ResearchOrchestrationRecord) (s : Store)
    (also : Store → Store) : Option (Store × Bool) :=
  match saveRow input s record with
  | .ok t => some (also t, true)
  | .error .terminal => some (s, false)
  | .error _ => none

/-- The keyword arguments of `_complete_cycle` that `step` gives. -/
structure CycleEnd where
  stopReason : Option StopReason
  state : Option OrchestrationState
  hypothesisId : Option Id
  experimentId : Option Id
  opportunityId : Option Id
  incrementCycle : Bool
  currentPhase : Option OrchestrationPhase
  deriving DecidableEq, Repr

/-- `_complete_cycle` is called with its defaults. -/
def CycleEnd.default : CycleEnd := ⟨none, none, none, none, none, false, none⟩

/-- `inserting`: the cycle is counted. -/
def inserting (outcome : CycleOutcome) (e : CycleEnd) : Bool :=
  e.incrementCycle || outcome ≠ .continue

/-- The record that `_complete_cycle` saves. -/
def completedRecord (current : ResearchOrchestrationRecord) (outcome : CycleOutcome)
    (phase : String) (e : CycleEnd) : ResearchOrchestrationRecord :=
  { current with
    state :=
      match e.state with
      | some state => state
      | none =>
        match outcome with
        | .complete => .completed
        | .continue => .ready
        | _ => current.state
    cycleNumber := current.cycleNumber + (if inserting outcome e then 1 else 0)
    lastPhase := phase
    currentPhase :=
      match e.currentPhase with
      | some phase => phase
      | none => if inserting outcome e then .cycleComplete else current.currentPhase
    lastOpportunityId := orElse e.opportunityId current.lastOpportunityId
    lastHypothesisId := orElse e.hypothesisId current.lastHypothesisId
    lastExperimentId := orElse e.experimentId current.lastExperimentId
    stopReason := e.stopReason.or current.stopReason }

/-- `research_cycles.insert`; the conflict with a row of the same number is
swallowed. -/
def insertCycle (s : Store) (row : CycleRow) : Store :=
  if s.researchCycles.any (·.cycleNumber = row.cycleNumber) then s
  else { s with researchCycles := s.researchCycles ++ [row] }

/-- `_complete_cycle`. -/
def completeCycle (current : ResearchOrchestrationRecord) (outcome : CycleOutcome)
    (phase : String) (e : CycleEnd) : Prog Store TickResult := do
  let updated := completedRecord current outcome phase e
  let saved ← Prog.commit fun s => saveUnlessTerminal input updated s fun t =>
    (if inserting outcome e then
      insertCycle t {
        cycleNumber := updated.cycleNumber
        phaseCompleted := phase
        outcome := outcome
        stopReason := e.stopReason
        opportunityId := e.opportunityId
        hypothesisId := e.hypothesisId
        experimentId := e.experimentId }
    else t).happened (.closed outcome e.experimentId)
  if saved then return resultFromRecord updated outcome
  else do
    let durable ← reload
    return resultFromRecord durable outcome

/-- `_stop`. -/
def stop (current : ResearchOrchestrationRecord) (reason : StopReason) (phase : String)
    (e : CycleEnd) : Prog Store TickResult :=
  completeCycle input current (cycleOutcomeForStop reason) phase
    { e with stopReason := some reason, state := some (orchestrationStateForStop reason) }

/-- The end of a cycle that has executed something: the run stops if this was
its last cycle. -/
def finishCycle (current : ResearchOrchestrationRecord) (phase : String) (e : CycleEnd) :
    Prog Store TickResult :=
  let e := { e with incrementCycle := true, currentPhase := some .cycleComplete }
  if current.bounds.maxCycles ≤ current.cycleNumber + 1 then
    stop input current .maxCyclesReached phase e
  else completeCycle input current .continue phase e

/-- The record that `_mark_running` saves. -/
def runningRecord (current : ResearchOrchestrationRecord) : ResearchOrchestrationRecord :=
  { current with state := .running, lastPhase := "running" }

/-- `_mark_running`. -/
def markRunning (current : ResearchOrchestrationRecord) : Prog Store Unit :=
  Prog.commit fun s =>
    match saveRow input s (runningRecord current) with
    | .ok t => some (t, ())
    | .error _ => none

/-- The keyword arguments of `_checkpoint`. -/
structure Checkpoint where
  phase : OrchestrationPhase
  opportunityId : Option Id
  hypothesisId : Option Id
  experimentId : Option Id
  activeCycleId : Option Id
  attemptId : Option Id
  observationId : Option Id
  assessmentId : Option Id
  workerResultId : Option Id
  deriving DecidableEq, Repr

/-- A checkpoint of a phase that names nothing new. -/
def Checkpoint.at (phase : OrchestrationPhase) : Checkpoint :=
  ⟨phase, none, none, none, none, none, none, none, none⟩

/-- The record that `_checkpoint` saves. -/
def checkpointRecord (current : ResearchOrchestrationRecord) (c : Checkpoint) :
    ResearchOrchestrationRecord :=
  { current with
    state := .running
    currentPhase := c.phase
    lastPhase := c.phase.value
    lastOpportunityId := orElse c.opportunityId current.lastOpportunityId
    lastHypothesisId := orElse c.hypothesisId current.lastHypothesisId
    lastExperimentId := orElse c.experimentId current.lastExperimentId
    lastAttemptId := orElse c.attemptId current.lastAttemptId
    lastObservationId := orElse c.observationId current.lastObservationId
    lastAssessmentId := orElse c.assessmentId current.lastAssessmentId
    lastWorkerResultId := orElse c.workerResultId current.lastWorkerResultId
    activeCycleId := orElse c.activeCycleId current.activeCycleId }

/-- `_checkpoint`. -/
def checkpoint (current : ResearchOrchestrationRecord) (c : Checkpoint) :
    Prog Store ResearchOrchestrationRecord := do
  let updated := checkpointRecord current c
  let saved ← Prog.commit fun s => saveUnlessTerminal input updated s id
  if saved then return updated else reload

/-! ## Looking things up -/

/-- `new_opaque_id`. -/
def newOpaqueId : Prog Store Id := Prog.commit fun s => some (s.drawn, s.newId)

/-- `_opportunity_is_exploratory`. -/
def opportunityIsExploratory (s : Store) (opportunityId : Option Id) : Bool :=
  (opportunityId.bind s.opportunity).any (·.exploratory)

/-- `_hypothesis_is_exploratory`. -/
def hypothesisIsExploratory (s : Store) (hypothesisId : Id) : Bool :=
  (s.hypothesis hypothesisId).any (·.origin.isSome)

/-- `_latest_hypothesis_id`: the last by the order of the identifiers. -/
def latestHypothesisId (s : Store) : Option Id :=
  (lastBy input HypothesisRow.hypothesisId s.hypotheses).map (·.hypothesisId)

/-- `_existing_experiment_id`. -/
def existingExperimentId (s : Store) (hypothesisId : Id) : Option Id :=
  (lastBy input ExperimentRow.experimentId
    (s.experiments.filter (·.hypothesisId = hypothesisId))).map (·.experimentId)

/-! ## Executing an experiment -/

/-- The first attempt for an experiment. -/
def firstAttempt (s : Store) (experimentId : Id) : Option AttemptRow :=
  firstBy input AttemptRow.attemptId
    (s.executionAttempts.filter (·.experimentId = experimentId))

/-- `_mark_unknown`. -/
def markUnknown (s : Store) (attempt : AttemptRow) : Store :=
  s.setAttemptState attempt.attemptId .unknownOutcome

/-- `_fail_closed_existing`; `none` lets the execution go on. -/
def failClosedExisting (experimentId : Id) (s : Store) : Store × Option ResearchLoopStatus :=
  match s.experiment experimentId with
  | none => (s, some .inputRejected)
  | some experiment =>
    match firstAttempt input s experimentId with
    | none => (s, if experiment.executionState.terminal then some .alreadyTerminal else none)
    | some attempt =>
      if attempt.state = .dispatching then (markUnknown s attempt, some .unknownOutcome)
      else if attempt.state = .completed ∧ s.workerResults.any (fun item =>
          item.experimentId = experimentId && item.status = .reauthorizationRequired) then
        (s, some .reauthorizationRequired)
      else (s, some (outcomeForExisting attempt.state))

/-- The record that `_persist_attempt` saves. -/
def attemptRecord (current : ResearchOrchestrationRecord) (attemptId experimentId : Id) :
    ResearchOrchestrationRecord :=
  { current with
    state := .running
    currentPhase := .attemptAuthorized
    lastPhase := OrchestrationPhase.attemptAuthorized.value
    lastExperimentId := some experimentId
    lastAttemptId := some attemptId }

/-- `_ensure_plan`; `none` rejects the input. -/
def ensurePlan (s : Store) (plan : PlanRow) : Option Store :=
  match s.experimentPlan plan.experimentId with
  | none => some { s with experimentPlans := s.experimentPlans ++ [plan] }
  | some stored => if stored = plan then some s else none

/-- The transaction of `authorize`, with the hook that saves the row; `none`
where it raises. -/
def authorize (current : ResearchOrchestrationRecord) (plan : PlanRow) (s : Store) :
    Option (Store × ResearchOrchestrationRecord × Except ResearchLoopStatus Id) :=
  match s.experiment plan.experimentId with
  | none => some (s, current, .error .inputRejected)
  | some experiment =>
    if experiment.executionState.terminal then some (s, current, .error .alreadyTerminal)
    else if experiment.hypothesisId ≠ plan.hypothesisId then
      some (s, current, .error .inputRejected)
    else match ensurePlan s plan with
    | none => some (s, current, .error .inputRejected)
    | some planned =>
      match firstAttempt input s plan.experimentId with
      | some attempt => some (s, current, .error (outcomeForExisting attempt.state))
      | none =>
        match input.execution.authorization with
        | .inputRejected => some (s, current, .error .inputRejected)
        | .bindingError => some (s, current, .error .dispatchDenied)
        | .denied state =>
          some (planned.setExecutionState plan.experimentId state, current,
            .error .dispatchDenied)
        | .humanReview =>
          some (planned.setExecutionState plan.experimentId .authorizationCheck, current,
            .error .humanReviewRequired)
        | .authorized =>
          let attemptId := planned.newId
          let authorized : Store := { planned.drawn with
            executionAttempts := planned.executionAttempts ++
              [{ attemptId := attemptId, experimentId := plan.experimentId,
                 state := .authorized }] }
          let updated := attemptRecord current attemptId plan.experimentId
          match saveRow input (authorized.setExecutionState plan.experimentId .ready) updated with
          | .ok t => some (t, updated, .ok attemptId)
          | .error _ => none

/-- The transaction of `dispatch` that charges the budget: `none` answers that
the Worker is to be invoked. -/
def beginDispatch (attemptId experimentId : Id) (s : Store) : Store × Option ResearchLoopStatus :=
  match s.attempt attemptId, s.experiment experimentId with
  | some attempt, some _ =>
    match attempt.state with
    | .authorized =>
      match input.execution.requestAmount.bind
          (recordDispatchConsumption s.issued s.ledger attemptId) with
      | none => (s, some .dispatchDenied)
      | some ledger =>
        let charged : Store := { s with ledger := ledger }
        (((charged.setAttemptState attemptId .dispatching).setExecutionState
          experimentId .running).happened (.dispatched experimentId), none)
    | .dispatching => (markUnknown s attempt, some .unknownOutcome)
    | state => (s, some (outcomeForExisting state))
  | _, _ => (s, some .inputRejected)

/-- `_record_outcome` after its first transaction: the ingestion of the result. -/
def ingest (attemptId experimentId : Id) (status : ResearchLoopStatus) :
    Prog Store ResearchLoopStatus :=
  match input.execution.invocation.invocationStatus, input.execution.ingestion with
  | .completed, some .rejectedInvalidInvocation => do
    Prog.write fun s =>
      (s.setAttemptState attemptId .failed).setExecutionState experimentId .executionFailed
    return .invocationFailed
  | .completed, some .noObservation => do
    Prog.write fun s => { s with
      workerResults := s.workerResults ++
        [⟨experimentId, input.execution.invocation.resultStatus⟩] }
    return if status = .reauthorizationRequired then .reauthorizationRequired else .noObservation
  | .completed, some .ingested => do
    Prog.write fun s => { s with
      workerResults := s.workerResults ++
        [⟨experimentId, input.execution.invocation.resultStatus⟩] }
    return .observationProduced
  | .completed, some .alreadyIngested => return .observationProduced
  | _, _ => return status

/-- `dispatch`. -/
def dispatch (attemptId experimentId : Id) : Prog Store ResearchLoopStatus := do
  let stopped ← Prog.tx (beginDispatch input attemptId experimentId) .done
  match stopped with
  | some status => return status
  | none =>
    let settled := classifyInvocation input.execution.invocation
    if !input.execution.outcomePersists then return .invocationFailed
    else do
      Prog.write fun s =>
        (s.setAttemptState attemptId settled.1).setExecutionState experimentId settled.2.1
      ingest input attemptId experimentId settled.2.2

/-- `ResearchLoopOutcome`, the fields that the controller reads. -/
structure LoopOutcome where
  status : ResearchLoopStatus
  attemptId : Option Id
  deriving DecidableEq, Repr

/-- `ExecutePlannedExperiment.execute`, with the record that its hook leaves. -/
def execute (current : ResearchOrchestrationRecord) (plan : PlanRow) :
    Prog Store (ResearchOrchestrationRecord × LoopOutcome) := do
  let existing ← Prog.tx (failClosedExisting input plan.experimentId) .done
  match existing with
  | some status => return (current, ⟨status, none⟩)
  | none =>
    let authorized ← Prog.commit (authorize input current plan)
    match authorized with
    | (current, .error status) => return (current, ⟨status, none⟩)
    | (current, .ok attemptId) => do
      let status ← dispatch input attemptId plan.experimentId
      return (current, ⟨status, some attemptId⟩)

/-! ## Assessing it -/

/-- The transactions of another part of the system. -/
def external : List ExternalTx → Prog Store Unit
  | [] => return ()
  | effect :: effects => do
    Prog.write effect.apply
    external effects

/-- `EvaluateExperimentFeedback.execute`; raises when the experiment or its plan
is missing. -/
def evaluate (experimentId : Id) : Prog Store Id :=
  Prog.commit fun s =>
    match s.experiment experimentId, s.experimentPlan experimentId with
    | some _, some _ =>
      match s.assessments.find? (·.experimentId = experimentId) with
      | some assessment =>
        some (s.happened (.assessed experimentId), assessment.assessmentId)
      | none =>
        let assessed : Store := { s.drawn with
          assessments := s.assessments ++
            [{ assessmentId := s.newId, experimentId := experimentId }] }
        some (assessed.happened (.assessed experimentId), s.newId)
    | _, _ => none

/-- The assessment of an experiment and the promotion that follows it. -/
def assess (experimentId : Id) : Prog Store Id := do
  let assessmentId ← evaluate experimentId
  external input.promotion
  return assessmentId

/-! ## Resuming -/

/-- `_resume_planned_experiment`. -/
def resumePlannedExperiment (current : ResearchOrchestrationRecord) : Prog Store TickResult :=
  match current.lastExperimentId with
  | none => stop input current .operationalFailure "missing_experiment" .default
  | some experimentId => do
    let stored ← Prog.read (·.experimentPlan experimentId)
    match stored with
    | none => stop input current .operationalFailure "missing_plan" .default
    | some plan =>
      let (current, loop) ← execute input current plan
      let e := { CycleEnd.default with experimentId := some experimentId }
      match loop.status with
      | .unknownOutcome =>
        stop input current .operationalFailure "unknown_outcome"
          { e with currentPhase := some .dispatching }
      | .dispatchDenied => stop input current .coreBlocked "core_deny" e
      | .humanReviewRequired => stop input current .requireHumanReview "human_review" e
      | .reauthorizationRequired => finishCycle input current "resume_planned" e
      | _ => do
        let _ ← assess input experimentId
        finishCycle input current "resume_planned" e

/-- The record that is saved with a prepared experiment. -/
def preparedRecord (current : ResearchOrchestrationRecord) (hypothesisId : Option Id)
    (plan : PlanRow) : ResearchOrchestrationRecord :=
  { current with
    currentPhase := .experimentPlanned
    lastPhase := OrchestrationPhase.experimentPlanned.value
    lastExperimentId := some plan.experimentId
    lastHypothesisId := orElse hypothesisId current.lastHypothesisId }

/-- What `_prepare` and the save of the row leave in one transaction; `none`
where it raises. -/
def prepare (current : ResearchOrchestrationRecord) (hypothesisId : Option Id) (plan : PlanRow)
    (s : Store) : Option (Store × ResearchOrchestrationRecord) :=
  if (s.hypothesis plan.hypothesisId).isNone then none
  else
    let prepared : Store :=
      match s.experiment plan.experimentId with
      | some _ => s
      | none => { s with
          experiments := s.experiments ++ [⟨plan.experimentId, plan.hypothesisId, .planned⟩]
          experimentPlans := s.experimentPlans ++ [plan] }
    let updated := preparedRecord current hypothesisId plan
    match saveRow input prepared updated with
    | .ok t => some (t, updated)
    | .error _ => none

/-- The identifier of a new experiment. -/
def newExperimentId (exploratory : Bool) (hypothesisId : Id) : Prog Store Id :=
  if exploratory then return exploratoryExperimentId hypothesisId else newOpaqueId

/-- `_resume_admitted_hypothesis`. -/
def resumeAdmittedHypothesis (current : ResearchOrchestrationRecord) : Prog Store TickResult :=
  match current.lastHypothesisId with
  | none => stop input current .operationalFailure "missing_hypothesis" .default
  | some hypothesisId => do
    let existing ← Prog.read (existingExperimentId input · hypothesisId)
    match orElse current.lastExperimentId existing with
    | none => do
      let exploratory ← Prog.read fun s =>
        opportunityIsExploratory s current.lastOpportunityId ||
          hypothesisIsExploratory s hypothesisId
      let experimentId ← newExperimentId exploratory hypothesisId
      match input.resumedPlan with
      | none => Prog.raise
      | some level => do
        let current ← Prog.commit
          (prepare input current none ⟨experimentId, hypothesisId, level⟩)
        resumePlannedExperiment input current
    | some experimentId =>
      if current.currentPhase = .experimentPlanned then resumePlannedExperiment input current
      else do
        let current ← checkpoint input current
          { Checkpoint.at .experimentPlanned with
            experimentId := some experimentId, hypothesisId := some hypothesisId }
        resumePlannedExperiment input current

/-- The part of `_resume_after_worker` that assesses what is not assessed
yet. -/
def assessRecorded (current : ResearchOrchestrationRecord) :
    Prog Store ResearchOrchestrationRecord :=
  match current.lastExperimentId, current.currentPhase with
  | some experimentId, .workerResultRecorded | some experimentId, .transitionAComplete => do
    let assessmentId ← assess input experimentId
    checkpoint input current
      { Checkpoint.at .assessmentComplete with
        experimentId := some experimentId, assessmentId := some assessmentId }
  | _, _ => return current

/-- `_resume_after_worker`. -/
def resumeAfterWorker (current : ResearchOrchestrationRecord) : Prog Store TickResult := do
  let current ← assessRecorded input current
  finishCycle input current "resume_after_worker"
    { CycleEnd.default with experimentId := current.lastExperimentId }

/-- How the attempts of a run leave a call to go on. -/
inductive OpenAttempt where
  | dispatching
  | authorized (attempt : AttemptRow)
  | none
  deriving DecidableEq, Repr

/-- What `_resume_authorized` finds among the attempts. -/
def openAttempt (s : Store) : OpenAttempt :=
  if s.unknownOpen then .dispatching
  else
    match firstBy input AttemptRow.attemptId
        (s.executionAttempts.filter (·.state = .authorized)) with
    | some attempt => .authorized attempt
    | none => .none

/-- `_resume_authorized`; `none` when there is nothing to resume. -/
def resumeAuthorized (current : ResearchOrchestrationRecord) :
    Prog Store (Option TickResult) := do
  let found ← Prog.read fun s =>
    let found := openAttempt input s
    (found, match found with
      | .authorized attempt =>
        (s.experiment attempt.experimentId).filter
          (fun _ => (s.experimentPlan attempt.experimentId).isSome)
      | _ => none)
  match found with
  | (.dispatching, _) =>
    return some (← stop input current .operationalFailure "unknown_dispatch" .default)
  | (.none, _) => return none
  | (.authorized _, none) =>
    return some (← stop input current .operationalFailure "resume_missing" .default)
  | (.authorized attempt, some experiment) =>
    match input.rebuilt with
    | .capabilityBinding =>
      return some (← stop input current .coreBlocked "capability_binding" .default)
    | .invalid => Prog.raise
    | .built => do
      let status ← dispatch input attempt.attemptId experiment.experimentId
      if status = .unknownOutcome then
        return some (← stop input current .operationalFailure "unknown_outcome"
          { CycleEnd.default with experimentId := some experiment.experimentId })
      else
        return some (← completeCycle input current .continue "resume_authorized"
          { CycleEnd.default with
            hypothesisId := some experiment.hypothesisId
            experimentId := some experiment.experimentId
            incrementCycle := true })

/-! ## The model -/

/-- `BudgetEnforcedModelPort`: the cycle that its calls are charged to, and how
many attempts each role has made on this instance. -/
structure BudgetEnforcedModelPort where
  cycleId : Id
  attempts : ModelRole → Nat

/-- A new instance. -/
def BudgetEnforcedModelPort.new (cycleId : Id) : BudgetEnforcedModelPort := ⟨cycleId, fun _ => 0⟩

/-- The identity of the role's next invocation. -/
def BudgetEnforcedModelPort.nextInvocation (port : BudgetEnforcedModelPort) (role : ModelRole) :
    RequestId := .modelInvocation port.cycleId role (port.attempts role + 1)

/-- The instance after one more attempt of the role. -/
def BudgetEnforcedModelPort.attempted (port : BudgetEnforcedModelPort) (role : ModelRole) :
    BudgetEnforcedModelPort :=
  { port with attempts := fun r => port.attempts r + (if r = role then 1 else 0) }

/-- `RecordBudgetConsumption.execute` of one model call: whether it is charged,
now or before. -/
def recordModelCall (invocation : RequestId) (s : Store) : Store × Bool :=
  match insertWithinAllowance s.issued s.row.bounds.maxModelCalls s.ledger
      { resourceType := .modelCall, amount := 1, requestId := some invocation } with
  | some ledger => ({ s with ledger := ledger }, true)
  | none => (s, false)

/-- How a call through the port ends. -/
inductive CallOutcome where
  | budgetRejected
  | failed (outcome : RuntimeOutcome)
  | malformed
  | usable
  deriving DecidableEq, Repr

/-- `BudgetEnforcedModelPort.complete`, and the parsing of the reply. -/
def complete (port : BudgetEnforcedModelPort) (role : ModelRole) (reply : ModelReply) :
    Prog Store (BudgetEnforcedModelPort × CallOutcome) :=
  match reply with
  | .requestRefused outcome => return (port, .failed outcome)
  | .programBudgetDenied => return (port.attempted role, .budgetRejected)
  | _ => do
    let charged ← Prog.tx (recordModelCall (port.nextInvocation role)) .done
    if !charged then return (port.attempted role, .budgetRejected)
    else do
      -- the inner model is invoked here
      Prog.write fun s => { s with
        modelInvocations := s.modelInvocations ++ [port.nextInvocation role] }
      return (port.attempted role,
        match reply with
        | .failed outcome => .failed outcome
        | .malformed => .malformed
        | _ => .usable)

/-- How the proposal of a hypothesis ends. -/
inductive Proposed where
  | budgetRejected
  | invocationFailed (outcome : RuntimeOutcome)
  | notAdmitted
  | admitted (hypothesisId : Id) (sideEffectLevel : Nat)
  deriving DecidableEq, Repr

/-- The record that `_persist_hypothesis` saves. -/
def hypothesisRecord (current : ResearchOrchestrationRecord) (opportunityId : Option Id)
    (cycleId hypothesisId : Id) : ResearchOrchestrationRecord :=
  { current with
    state := .running
    currentPhase := .hypothesisAdmitted
    lastPhase := OrchestrationPhase.hypothesisAdmitted.value
    lastOpportunityId := orElse opportunityId current.lastOpportunityId
    lastHypothesisId := some hypothesisId
    activeCycleId := some cycleId }

/-- The transaction that stores an admitted hypothesis, unless it is there
already, and the row with it; `none` where it raises. -/
def persistHypothesis (current : ResearchOrchestrationRecord) (opportunityId : Option Id)
    (cycleId : Id) (row : HypothesisRow) (s : Store) :
    Option (Store × ResearchOrchestrationRecord) :=
  let stored : Store :=
    if (s.hypothesis row.hypothesisId).isSome then s
    else { s with hypotheses := s.hypotheses ++ [row] }
  let updated := hypothesisRecord current opportunityId cycleId row.hypothesisId
  match saveRow input stored updated with
  | .ok t => some (t.happened (.admitted opportunityId row.hypothesisId), updated)
  | .error _ => none

/-- The transaction that records a proposal that was not admitted. -/
def persistNotAdmitted (s : Store) : Store := s.happened .notAdmitted

/-- The hypothesis that is there already, or a new one. -/
def takenUp : Option HypothesisRow → Prog Store Id
  | some row => return row.hypothesisId
  | none => newOpaqueId

/-- `_admit_registry_external`; raises when the opportunity has no source.  A
hypothesis of the same origin is taken up again. -/
def admitRegistryExternal (current : ResearchOrchestrationRecord) (cycleId : Id)
    (opportunity : OpportunityRow) : Prog Store (ResearchOrchestrationRecord × Proposed) :=
  match opportunity.sourceRef with
  | none => Prog.raise
  | some origin => do
    let existing ← Prog.read fun s => firstBy input HypothesisRow.hypothesisId
      (s.hypotheses.filter (·.origin = some origin))
    match input.admission with
    | .rejected => do
      Prog.write persistNotAdmitted
      return (current, .notAdmitted)
    | .admitted level => do
      let hypothesisId ← takenUp existing
      let current ← Prog.commit (persistHypothesis input current
        (some opportunity.opportunityId) cycleId ⟨hypothesisId, some origin⟩)
      return (current, .admitted hypothesisId level)

/-- What `ProposeResearchHypothesis` does with a proposal that both roles have
completed. -/
def persistProposal (current : ResearchOrchestrationRecord) (opportunityId : Option Id)
    (cycleId : Id) : Prog Store (ResearchOrchestrationRecord × Proposed) :=
  match input.admission with
  | .rejected => do
    Prog.write persistNotAdmitted
    return (current, .notAdmitted)
  | .admitted level => do
    let hypothesisId ← newOpaqueId
    let current ← Prog.commit
      (persistHypothesis input current opportunityId cycleId ⟨hypothesisId, none⟩)
    return (current, .admitted hypothesisId level)

/-- The end of a proposal whose call was not usable. -/
def persistFailure (current : ResearchOrchestrationRecord) :
    CallOutcome → Prog Store (ResearchOrchestrationRecord × Proposed)
  | .budgetRejected => return (current, .budgetRejected)
  | .failed outcome => do
    Prog.write persistNotAdmitted
    return (current, .invocationFailed outcome)
  | _ => do
    Prog.write persistNotAdmitted
    return (current, .notAdmitted)

/-- The generator's call and then the falsifier's. -/
def proposeByModel (current : ResearchOrchestrationRecord) (opportunityId : Option Id)
    (cycleId : Id) : Prog Store (ResearchOrchestrationRecord × Proposed) := do
  let (port, generated) ←
    complete (BudgetEnforcedModelPort.new cycleId) .generator input.generator
  if generated ≠ .usable then persistFailure current generated
  else do
    let (_, challenged) ← complete port .falsifier input.falsifier
    if challenged ≠ .usable then persistFailure current challenged
    else persistProposal input current opportunityId cycleId

/-- `ProposeResearchHypothesis.execute`; raises when the opportunity is not
there. -/
def propose (current : ResearchOrchestrationRecord) (opportunityId : Option Id) (cycleId : Id) :
    Prog Store (ResearchOrchestrationRecord × Proposed) :=
  match opportunityId with
  | none => proposeByModel input current none cycleId
  | some opportunityId => do
    let opportunity ← Prog.read (·.opportunity opportunityId)
    match opportunity with
    | none => Prog.raise
    | some opportunity =>
      if opportunity.exploratory then admitRegistryExternal input current cycleId opportunity
      else proposeByModel input current (some opportunityId) cycleId

/-! ## A cycle -/

/-- The checkpoints and the assessment after the Worker has answered. -/
def recordResult (current : ResearchOrchestrationRecord) (experimentId hypothesisId : Id)
    (loop : LoopOutcome) : Prog Store ResearchOrchestrationRecord := do
  let current ← checkpoint input current
    { Checkpoint.at .workerResultRecorded with
      experimentId := some experimentId
      hypothesisId := some hypothesisId
      attemptId := loop.attemptId
      workerResultId := input.execution.workerResultId
      observationId := input.execution.observationId }
  let current ← checkpoint input current
    { Checkpoint.at .transitionAComplete with
      experimentId := some experimentId
      hypothesisId := some hypothesisId
      observationId := input.execution.observationId }
  let assessmentId ← assess input experimentId
  checkpoint input current
    { Checkpoint.at .assessmentComplete with
      experimentId := some experimentId
      hypothesisId := some hypothesisId
      assessmentId := some assessmentId }

/-- The rest of `step` once its experiment is planned. -/
def executePlanned (current : ResearchOrchestrationRecord) (opportunityId : Option Id)
    (plan : PlanRow) : Prog Store TickResult := do
  let current ← checkpoint input current
    { Checkpoint.at .authorizationRequested with
      experimentId := some plan.experimentId, hypothesisId := some plan.hypothesisId }
  let (current, loop) ← execute input current plan
  let e := { CycleEnd.default with
    hypothesisId := some plan.hypothesisId, experimentId := some plan.experimentId }
  let done := { e with opportunityId := opportunityId }
  match loop.status with
  | .dispatchDenied => stop input current .coreBlocked "core_deny" e
  | .humanReviewRequired => stop input current .requireHumanReview "human_review" e
  | .unknownOutcome =>
    stop input current .operationalFailure "unknown_outcome"
      { e with currentPhase := some .dispatching }
  | .observationProduced | .noObservation | .invocationFailed => do
    let current ← recordResult input current plan.experimentId plan.hypothesisId loop
    finishCycle input current "execute" done
  | _ => finishCycle input current "execute" done

/-- The rest of `step` once its hypothesis is admitted. -/
def planCycle (current : ResearchOrchestrationRecord) (opportunityId : Option Id)
    (hypothesisId : Id) (sideEffectLevel : Nat) : Prog Store TickResult :=
  if (current.bounds.sideEffectCeiling : Nat) < sideEffectLevel then
    stop input current .coreBlocked "side_effect_ceiling" .default
  else do
    let existing ← Prog.read (existingExperimentId input · hypothesisId)
    match existing with
    | some experimentId => do
      let current ← checkpoint input current
        { Checkpoint.at .experimentPlanned with
          experimentId := some experimentId
          hypothesisId := some hypothesisId
          opportunityId := opportunityId }
      resumePlannedExperiment input current
    | none => do
      let exploratory ← Prog.read (opportunityIsExploratory · opportunityId)
      let experimentId ← newExperimentId exploratory hypothesisId
      let plan : PlanRow := ⟨experimentId, hypothesisId, sideEffectLevel⟩
      let current ← Prog.commit (prepare input current (some hypothesisId) plan)
      executePlanned input current opportunityId plan

/-- The rest of `step` once its opportunity is selected. -/
def proposeCycle (current : ResearchOrchestrationRecord) (opportunityId : Option Id)
    (cycleId : Id) : Prog Store TickResult := do
  let (current, proposed) ← propose input current opportunityId cycleId
  match proposed with
  | .budgetRejected => stop input current .budgetExhausted "model_budget" .default
  | .invocationFailed outcome =>
    stop input current (stopReasonForRuntimeOutcome outcome) "model_runtime_outcome" .default
  | .notAdmitted =>
    completeCycle input current .continue "hypothesis_not_admitted"
      { CycleEnd.default with
        opportunityId := opportunityId, currentPhase := some .cycleComplete }
  | .admitted hypothesisId level => planCycle input current opportunityId hypothesisId level

/-- `current.active_cycle_id or new_opaque_id()`. -/
def activeCycle (current : ResearchOrchestrationRecord) : Prog Store Id :=
  match current.activeCycleId with
  | some cycleId => return cycleId
  | none => newOpaqueId

/-- What routing stops the run with. -/
def routingStop : Option RoutingOutcome → Option StopReason
  | none | some .select => none
  | some .blockedPolicy => some .contentPolicyBlocked
  | some _ => some .noCompatibleRuntime

/-- The transaction of the selection: the opportunities that were selected are
stored, the first of those the bounds leave is the cycle's. -/
def selectOpportunities (bounds : OrchestrationBounds) (s : Store) : Store × List Id :=
  let selected := (input.selection.map (·.opportunityId)).take bounds.maxSelectedOpportunities
  let stored : Store := { s with
    opportunities := s.opportunities ++
      input.selection.filter fun item => (s.opportunity item.opportunityId).isNone }
  (stored.happened (.selected selected.head?), selected)

/-- `step` when it selects an opportunity of its own. -/
def selectCycle (current : ResearchOrchestrationRecord) : Prog Store TickResult := do
  let selected ← Prog.tx (selectOpportunities input current.bounds) .done
  let next ← Prog.read fun s =>
    nextCycleAction current.bounds (s.usage current input.elapsedMs.2) selected.length
      s.hypotheses.length false
  if next.1 = .stop then
    stop input current (next.2.getD .completedNoMoreOpportunities) "no_more_opportunities"
      .default
  else do
    let cycleId ← activeCycle current
    let current ← checkpoint input current
      { Checkpoint.at .opportunitySelected with
        opportunityId := selected.head?, activeCycleId := some cycleId }
    proposeCycle input current selected.head? cycleId

/-- `step` past its resume branches. -/
def cycle (current : ResearchOrchestrationRecord) : Prog Store TickResult := do
  let bound ← Prog.read fun s =>
    checkOrchestrationBounds current.bounds (s.usage current input.elapsedMs.1)
  match bound with
  | some reason => stop input current reason "bounds" .default
  | none => do
    markRunning input current
    let phase := current.currentPhase
    let current ← reload
    if phase = .opportunitySelected then do
      let cycleId ← activeCycle current
      proposeCycle input current current.lastOpportunityId cycleId
    else
      match routingStop input.routing with
      | some reason => stop input current reason "routing" .default
      | none => selectCycle input current

/-- The hypothesis that `step` takes up in the phase `OPPORTUNITY_SELECTED`. -/
def resumableHypothesis (current : ResearchOrchestrationRecord) (s : Store) : Option Id :=
  if opportunityIsExploratory s current.lastOpportunityId then
    current.lastHypothesisId.filter (hypothesisIsExploratory s)
  else orElse current.lastHypothesisId (latestHypothesisId input s)

/-- `step` past the attempts of earlier calls: one branch for each phase. -/
def resumePhase (current : ResearchOrchestrationRecord) : Prog Store TickResult :=
  match current.currentPhase with
  | .hypothesisAdmitted =>
    if current.lastHypothesisId.isSome then resumeAdmittedHypothesis input current
    else cycle input current
  | .opportunitySelected => do
    let existing ← Prog.read (resumableHypothesis input current)
    match existing with
    | some hypothesisId => do
      let current ← checkpoint input current
        { Checkpoint.at .hypothesisAdmitted with hypothesisId := some hypothesisId }
      resumeAdmittedHypothesis input current
    | none => cycle input current
  | .experimentPlanned | .authorizationRequested | .attemptAuthorized =>
    if current.lastExperimentId.isSome then resumePlannedExperiment input current
    else cycle input current
  | .workerResultRecorded | .transitionAComplete | .assessmentComplete | .transitionBComplete =>
    if current.lastExperimentId.isSome then resumeAfterWorker input current
    else cycle input current
  | _ => cycle input current

/-- `_step_surface_discovery`. -/
def stepSurfaceDiscovery (discovery : SurfaceDiscovery)
    (current : ResearchOrchestrationRecord) : Prog Store TickResult := do
  let unknown ← Prog.read (·.unknownOpen)
  if unknown then stop input current .operationalFailure "unknown_outcome" .default
  else do
    external discovery.effects
    let e := { CycleEnd.default with
      experimentId := discovery.experimentId, incrementCycle := true }
    match discovery.stop with
    | some reason => stop input current reason.reason.1 reason.reason.2 e
    | none =>
      completeCycle input current .continue "surface_discovery"
        { e with
          hypothesisId := current.lastHypothesisId, currentPhase := some .cycleComplete }

/-- `step`, of a run that is ready or running. -/
def stepRunnable (current : ResearchOrchestrationRecord) : Prog Store TickResult :=
  match input.surfaceDiscovery with
  | some discovery => stepSurfaceDiscovery input discovery current
  | none => do
    let unknown ← Prog.read (·.unknownOpen)
    if current.currentPhase = .dispatching ∨ unknown then
      stop input current .operationalFailure "unknown_outcome" .default
    else do
      let resumed ← resumeAuthorized input current
      match resumed with
      | some result => return result
      | none => resumePhase input current

/-- `step`. -/
def step : Prog Store TickResult := do
  let current ← reload
  if current.state.halted then return resultFromRecord current .continue
  else stepRunnable input current

/-! ## Runs -/

/-- The record that `start` inserts. -/
def startRecord (bounds : OrchestrationBounds) (budgetId : Id) : ResearchOrchestrationRecord where
  state := if bounds.maxCycles = 0 then .completed else .ready
  cycleNumber := 0
  lastPhase := "start"
  currentPhase := .cycleReady
  bounds := bounds
  budgetId := budgetId
  lastOpportunityId := none
  lastHypothesisId := none
  lastExperimentId := none
  pauseReason := none
  stopReason := if bounds.maxCycles = 0 then some .maxCyclesReached else none
  activeCycleId := none
  lastAttemptId := none
  lastObservationId := none
  lastAssessmentId := none
  lastWorkerResultId := none
  ownerRuntimeInstanceId := none
  leaseEpoch := 0
  leaseExpiresAt := none

/-- A run that was just started: whatever the database holds besides, the model
was not asked yet and no cycle was begun. -/
structure Started (s : Store) : Prop where
  row : ∃ bounds budgetId, s.row = startRecord bounds budgetId
  ledger : ∀ charge ∈ s.ledger, charge.resourceType ≠ .modelCall
  modelInvocations : s.modelInvocations = []
  events : s.events = []
  keyed : s.Keyed

/-- One call of `step`: what it meets, what it returns if it is not stopped
before that, and the state it leaves the run in. -/
structure Tick where
  input : StepInput
  result : Option TickResult
  left : OrchestrationState

/-- The calls of `step` on one run.  Each is by a controller that knows nothing
but the store. -/
def Call (s : Store) (tick : Tick) (t : Store) : Prop :=
  Exec (step tick.input) s tick.result t ∧ tick.left = t.row.state

/-- The store that a call leaves when nothing stops it. -/
def stepped (input : StepInput) (s : Store) : Store := ((step input).run s).2

theorem call_stepped (input : StepInput) (s : Store) :
    Call s ⟨input, ((step input).run s).1, (stepped input s).row.state⟩ (stepped input s) :=
  ⟨exec_run _ s, rfl⟩

/-- The store that a call leaves when it is stopped after `n` transactions. -/
def crashed (n : Nat) (input : StepInput) (s : Store) : Store := (step input).stoppedAfter n s

theorem call_crashed (n : Nat) (input : StepInput) (s : Store) :
    Call s ⟨input, none, (crashed n input s).row.state⟩ (crashed n input s) :=
  ⟨exec_stoppedAfter n _ s, rfl⟩

/-- A database with nothing in it but a run that was just started. -/
def freshStore (bounds : OrchestrationBounds) : Store where
  row := startRecord bounds 0
  issued := ⟨9, 9, 9, 1⟩
  ledger := []
  opportunities := []
  hypotheses := []
  experiments := []
  experimentPlans := []
  executionAttempts := []
  workerResults := []
  assessments := []
  researchCycles := []
  reproductions := []
  nextId := 0
  modelInvocations := []
  events := []

theorem freshStore_started (bounds : OrchestrationBounds) : Started (freshStore bounds) where
  row := ⟨bounds, 0, rfl⟩
  ledger := by simp [freshStore]
  modelInvocations := rfl
  events := rfl
  keyed := ⟨by simp [freshStore], by simp [freshStore]⟩

/-- A call that selects no opportunity, has a hypothesis proposed and admitted,
and executes its experiment. -/
def smoothInput : StepInput where
  fence := none
  serverNow := 0
  rank := fun id => id
  elapsedMs := (0, 0)
  surfaceDiscovery := none
  routing := none
  selection := []
  generator := .usable
  falsifier := .usable
  admission := .admitted 0
  resumedPlan := some 0
  execution :=
    { authorization := .authorized
      requestAmount := some 1
      invocation := ⟨.completed, .other⟩
      outcomePersists := true
      ingestion := some .ingested
      workerResultId := none
      observationId := none }
  rebuilt := .built
  promotion := []

/-- Bounds with these many cycles and model calls, and room for the rest. -/
def roomyBounds (maxCycles maxModelCalls : Nat) : OrchestrationBounds where
  maxCycles := maxCycles
  maxExperiments := 9
  maxModelCalls := maxModelCalls
  maxWorkerInvocations := 9
  maxElapsedMs := 9
  maxSelectedOpportunities := 1
  maxRuntimeFallback := 0
  sideEffectCeiling := Fin.last 3
  allowRepeatedControlExperiments := true

end Controller
end Zest

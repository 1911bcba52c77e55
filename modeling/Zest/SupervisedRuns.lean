import Zest.AutonomousController
import Zest.SupervisorPreflight
import Zest.TransitionSystem

/-! # Runs and their supervisors

A runtime drives a run through a supervisor, of which it has at most one for a
run.  `recover_runs` attaches one to the runs that an earlier process has left
behind, as far as their classification allows it; `start_run` attaches one to the
run that it is called for.

The calls are taken one after the other.  Between them, and where a run is
started elsewhere while `start_run` is under way, the database may come to hold
anything.  A call that the database does not answer attaches nothing and is left
out.
-/
namespace Zest.RuntimeRecovery

open TransitionSystem
open Controller (TickResult resultFromRecord)

inductive OperatorErrorCode where
  | preflightFailed
  | runNotFound
  | authorizationUnavailable
  | leaseConflict
  | modelAuthRequired
  | modelRateLimited
  | workerUnavailable
  | databaseUnavailable
  | budgetExhausted
  | reconciliationRequired
  deriving DecidableEq, Repr

def OperatorErrorCode.value : OperatorErrorCode → String
  | .preflightFailed => "PREFLIGHT_FAILED"
  | .runNotFound => "RUN_NOT_FOUND"
  | .authorizationUnavailable => "AUTHORIZATION_UNAVAILABLE"
  | .leaseConflict => "LEASE_CONFLICT"
  | .modelAuthRequired => "MODEL_AUTH_REQUIRED"
  | .modelRateLimited => "MODEL_RATE_LIMITED"
  | .workerUnavailable => "WORKER_UNAVAILABLE"
  | .databaseUnavailable => "DATABASE_UNAVAILABLE"
  | .budgetExhausted => "BUDGET_EXHAUSTED"
  | .reconciliationRequired => "RECONCILIATION_REQUIRED"

/-- How a call ends that raises. -/
inductive CallError where
  | operator (code : OperatorErrorCode) (detail : String)
  | application (message : String)
  deriving DecidableEq, Repr

/-- `OperatorError`. -/
def operatorError (code : OperatorErrorCode) (detail : String) : CallError :=
  let stripped : Text := Text.strip detail.toList
  .operator code (if stripped = [] then code.value else String.ofList stripped)

def checkNameValue : PreflightCheckName → String
  | .databaseReachable => "DATABASE_REACHABLE"
  | .schemaAtExpectedHead => "SCHEMA_AT_EXPECTED_HEAD"
  | .runConfigurationExists => "RUN_CONFIGURATION_EXISTS"
  | .authorizationSourceActive => "AUTHORIZATION_SOURCE_ACTIVE"
  | .scopeCompiles => "SCOPE_COMPILES"
  | .targetInScope => "TARGET_IN_SCOPE"
  | .budgetAvailable => "BUDGET_AVAILABLE"
  | .orchestrationRecoverable => "ORCHESTRATION_RECOVERABLE"
  | .noConflictingLease => "NO_CONFLICTING_LEASE"
  | .workerCapabilitiesPresent => "WORKER_CAPABILITIES_PRESENT"
  | .workerRuntimeHealthy => "WORKER_RUNTIME_HEALTHY"
  | .browserResourceContainment => "BROWSER_RESOURCE_CONTAINMENT"
  | .modelRuntimeReady => "MODEL_RUNTIME_READY"

/-- `PreflightReport.reasons`. -/
def reasons (checks : List PreflightCheckResult) : List String :=
  (failing checks).map fun check => checkNameValue check.name ++ ": " ++ check.detail

/-- `_operator_error_from_preflight`. -/
def operatorErrorFromPreflight (checks : List PreflightCheckResult) : CallError :=
  let detail := "; ".intercalate (reasons checks)
  match failing checks with
  | [] => operatorError .preflightFailed "preflight not ready"
  | first :: _ =>
    match first.name with
    | .authorizationSourceActive => operatorError .authorizationUnavailable detail
    | .budgetAvailable => operatorError .budgetExhausted detail
    | .noConflictingLease => operatorError .leaseConflict detail
    | .workerRuntimeHealthy | .workerCapabilitiesPresent => operatorError .workerUnavailable detail
    | .modelRuntimeReady =>
      let joined : Text := (" ".intercalate ((failing checks).map (·.detail))).toList
      if joined.hasInfix "AUTH_REQUIRED".toList then operatorError .modelAuthRequired detail
      else if joined.hasInfix "RATE_LIMITED".toList then operatorError .modelRateLimited detail
      else operatorError .preflightFailed detail
    | .orchestrationRecoverable => operatorError .reconciliationRequired detail
    | .databaseReachable => operatorError .databaseUnavailable detail
    | _ => operatorError .preflightFailed detail

/-! ## What a call meets -/

/-- `StartAutonomousResearchCommand`, as far as starting and attaching go by it. -/
structure StartCommand where
  budgetId : Id
  bounds : OrchestrationBounds
  surfaceDiscovery : Bool
  deriving DecidableEq, Repr

/-- When a preflight looks at its run, and what it finds. -/
structure Probe where
  now : Instant
  findings : Findings
  deriving DecidableEq, Repr

/-- How allocating the budget of the day ends, when it raises. -/
inductive AllocationError where
  | application (message : String)
  /-- `PersistenceConflictError`. -/
  | conflict
  deriving DecidableEq, Repr

/-- What happens elsewhere to a run that has no orchestration yet while it is being
started. -/
inductive Meanwhile where
  | nothing
  /-- It is started before `start` looks for it. -/
  | started (s : RunSnapshot) (record : ResearchOrchestrationRecord)
  /-- It is started before `start` inserts its own record. -/
  | conflict (s : RunSnapshot)

/-- What a call meets, for one run. -/
structure Surroundings where
  /-- The clocks of the process and of the server. -/
  processNow : Instant
  serverNow : Instant
  allocation : Except AllocationError Unit
  /-- `reconstruct_start_command`, by `recovery`. -/
  reconstructed : Bool → Except String StartCommand
  /-- The preflight of `start_run`, and the one of `_attach_supervisor`. -/
  starting : Probe
  attaching : Probe
  meanwhile : Meanwhile

/-- The identity of a runtime and how it is configured. -/
structure RuntimeConfig where
  owner : Id
  leaseTtl : Instant
  /-- The browser is among the capabilities that are always required. -/
  browserRequired : Bool

/-- A supervisor that was attached, and what the database held of its run then. -/
structure Attachment where
  run : Id
  found : RunSnapshot

/-- A runtime. -/
structure Runtime where
  database : Id → RunSnapshot
  /-- The runs of which the thread of the supervisor is alive. -/
  live : List Id
  attached : List Attachment

/-- The database comes to hold this of a run. -/
def Runtime.put (w : Runtime) (id : Id) (s : RunSnapshot) : Runtime :=
  { w with database := fun other => if other = id then s else w.database other }

section Calls

variable (config : RuntimeConfig)

/-- `_run_preflight`. -/
def runPreflight (s : RunSnapshot) (probe : Probe) (command : StartCommand)
    (checkReconciliation : Bool) : List PreflightCheckResult :=
  preflight s probe.findings
    { now := probe.now
      requestingOwner := some config.owner
      browserRequired := config.browserRequired || command.surfaceDiscovery
      checkReconciliation := checkReconciliation }

/-- `acquire_lease`, of a run. -/
def acquired (s : RunSnapshot) (serverNow : Instant) : Option ResearchOrchestrationRecord :=
  s.orchestration.bind fun record => acquireLease record config.owner config.leaseTtl serverNow

/-- `_attach_supervisor`, with the command that it is given or puts together. -/
def attachWith (w : Runtime) (id : Id) (env : Surroundings) (recovery : Bool)
    (command : StartCommand) : Runtime :=
  if letsAttach (runPreflight config (w.database id) env.attaching command recovery) recovery then
    match acquired config (w.database id) env.serverNow with
    | none => w
    | some record =>
      { w.put id { w.database id with orchestration := some record } with
        live := id :: w.live
        attached := w.attached ++ [⟨id, w.database id⟩] }
  else w

/-- `command or reconstruct_start_command(...)`. -/
def commandFor (env : Surroundings) (recovery : Bool) :
    Option StartCommand → Except String StartCommand
  | some command => .ok command
  | none => env.reconstructed recovery

/-- `_attach_supervisor`. -/
def attachSupervisor (w : Runtime) (id : Id) (env : Surroundings) (recovery : Bool)
    (command : Option StartCommand) : Except String Runtime :=
  if id ∈ w.live then .ok w
  else (commandFor env recovery command).map (attachWith config w id env recovery)

/-! ## Starting a run -/

/-- `_status_from_sor`. -/
def statusFromSor (w : Runtime) (id : Id) : Except CallError TickResult :=
  match (w.database id).orchestration with
  | none => .error (.application "orchestration not found")
  | some record => .ok { resultFromRecord record .continue with outcome := .continue }

/-- A supervisor is attached for recovery, and the status returned. -/
def attachAndReport (w : Runtime) (id : Id) (env : Surroundings) :
    Except CallError TickResult × Runtime :=
  match attachSupervisor config w id env true none with
  | .error message => (.error (.application message), w)
  | .ok w' => (statusFromSor w' id, w')

/-- The record that `AutonomousResearchController.start` inserts. -/
def startedRecord (command : StartCommand) : ResearchOrchestrationRecord where
  state := if command.bounds.maxCycles = 0 then .completed else .ready
  cycleNumber := 0
  lastPhase := "start"
  currentPhase := .cycleReady
  bounds := command.bounds
  budgetId := command.budgetId
  lastOpportunityId := none
  lastHypothesisId := none
  lastExperimentId := none
  pauseReason := none
  stopReason := if command.bounds.maxCycles = 0 then some .maxCyclesReached else none
  activeCycleId := none
  lastAttemptId := none
  lastObservationId := none
  lastAssessmentId := none
  lastWorkerResultId := none
  ownerRuntimeInstanceId := none
  leaseEpoch := 0
  leaseExpiresAt := none

/-- What `start_run` does once `start` has returned. -/
def attachStarted (w : Runtime) (id : Id) (env : Surroundings) (command : StartCommand)
    (result : TickResult) : Except CallError TickResult × Runtime :=
  if result.state = .ready then
    match attachSupervisor config w id env false (some command) with
    | .error message => (.error (.application message), w)
    | .ok w' => (.ok result, w')
  else (.ok result, w)

/-- `AutonomousResearchController.start`, and what `start_run` makes of it. -/
def startAndAttach (w : Runtime) (id : Id) (env : Surroundings) (command : StartCommand) :
    Except CallError TickResult × Runtime :=
  match env.meanwhile with
  | .nothing =>
    let record := startedRecord command
    attachStarted config (w.put id { w.database id with orchestration := some record }) id env
      command (resultFromRecord record
        (if command.bounds.maxCycles = 0 then .complete else .continue))
  | .started s record =>
    attachStarted config (w.put id { s with orchestration := some record }) id env command
      (resultFromRecord record .continue)
  | .conflict s => attachAndReport config (w.put id s) id env

/-- `start_run` of a run that has no orchestration. -/
def startNew (w : Runtime) (id : Id) (env : Surroundings) :
    Except CallError TickResult × Runtime :=
  match env.allocation with
  | .error .conflict => attachAndReport config w id env
  | .error (.application message) => (.error (.application message), w)
  | .ok () =>
    match env.reconstructed false with
    | .error message =>
      if Text.hasInfix (message.toList.map Text.asciiLower) "not found".toList then
        (.error (operatorError .runNotFound message), w)
      else (.error (.application message), w)
    | .ok command =>
      let checks := runPreflight config (w.database id) env.starting command true
      if readyToStart checks then startAndAttach config w id env command
      else if failsOnly .noConflictingLease checks then (statusFromSor w id, w)
      else (.error (operatorErrorFromPreflight checks), w)

/-- `start_run`. -/
def startRun (w : Runtime) (id : Id) (env : Surroundings) :
    Except CallError TickResult × Runtime :=
  if id ∈ w.live then (statusFromSor w id, w)
  else match (w.database id).orchestration with
    | none => startNew config w id env
    | some existing =>
      if existing.state.terminal then (statusFromSor w id, w)
      else attachAndReport config w id env

/-! ## Recovering the runs -/

/-- `_lease_held_by_other`. -/
def leaseHeldByOther (record : ResearchOrchestrationRecord) (now : Instant) : Bool :=
  match record.ownerRuntimeInstanceId with
  | none => false
  | some owner =>
    if owner = config.owner then false
    else match record.leaseExpiresAt with
      | none => true
      | some expires => now ≤ expires

def actionValue : RuntimeRecoveryAction → String
  | .safeResume => "SAFE_RESUME"
  | .safeRetryAfterReauthorization => "SAFE_RETRY_AFTER_REAUTHORIZATION"
  | .reconciliationRequired => "RECONCILIATION_REQUIRED"
  | .humanRequired => "HUMAN_REQUIRED"
  | .doNotResume => "DO_NOT_RESUME"

/-- `_hold_for_human`. -/
def holdForHuman (w : Runtime) (id : Id) (decision : RuntimeRecoveryDecision) : Runtime :=
  match (w.database id).orchestration with
  | none => w
  | some current =>
    if current.state = .ready ∨ current.state = .running then
      w.put id { w.database id with
        orchestration := some { current with
          state := .waitingHuman
          pauseReason := some (actionValue decision.action)
          lastPhase := "runtime_recovery" } }
    else w

/-- What follows from the classification of a run. -/
def followDecision (w : Runtime) (id : Id) (env : Surroundings)
    (decision : RuntimeRecoveryDecision) : Except String Runtime :=
  match decision.action with
  | .safeResume | .safeRetryAfterReauthorization => attachSupervisor config w id env true none
  | .reconciliationRequired | .humanRequired => .ok (holdForHuman w id decision)
  | .doNotResume => .ok w

/-- What `recover_runs` does with one of the runs. -/
def recoverRun (env : Id → Surroundings) (w : Runtime) (id : Id)
    (listed : ResearchOrchestrationRecord) :
    Except String (Option RuntimeRecoveryDecision × Runtime) :=
  if leaseHeldByOther config listed (env id).processNow then .ok (none, w)
  else match classifyRuntimeRecovery (w.database id) with
    | .error message => .error message
    | .ok decision => (followDecision config w id (env id) decision).map (some decision, ·)

/-- `recover_runs`, of the runs that are listed.  An exception ends it. -/
def recoverRuns (env : Id → Surroundings) (w : Runtime) :
    List (Id × ResearchOrchestrationRecord) →
      Except String (List RuntimeRecoveryDecision) × Runtime
  | [] => (.ok [], w)
  | (id, listed) :: rest =>
    match recoverRun config env w id listed with
    | .error message => (.error message, w)
    | .ok (decision, w') =>
      ((recoverRuns env w' rest).1.map (decision.toList ++ ·), (recoverRuns env w' rest).2)

/-- `list_recoverable`, in the order in which the database returns the rows. -/
structure Recoverable (w : Runtime) (listing : List (Id × ResearchOrchestrationRecord)) :
    Prop where
  nodup : (listing.map (·.1)).Nodup
  mem : ∀ id record, (id, record) ∈ listing ↔
    (w.database id).orchestration = some record ∧
      (record.state = .ready ∨ record.state = .running)

/-! ## Steps -/

inductive Event where
  | recoverRuns (listing : List (Id × ResearchOrchestrationRecord)) (env : Id → Surroundings)
  | startRun (id : Id) (env : Surroundings)
  /-- The thread of a supervisor ends. -/
  | supervisorEnds (id : Id)
  /-- Supervisors and other processes have written to the database. -/
  | written (database : Id → RunSnapshot)

/-- A call, or what happens between two calls. -/
inductive Step (w : Runtime) : Event → Runtime → Prop where
  | recoverRuns {listing : List (Id × ResearchOrchestrationRecord)} (env : Id → Surroundings)
      (hlisted : Recoverable w listing) :
      Step w (.recoverRuns listing env) (Zest.RuntimeRecovery.recoverRuns config env w listing).2
  | startRun (id : Id) (env : Surroundings) :
      Step w (.startRun id env) (Zest.RuntimeRecovery.startRun config w id env).2
  | supervisorEnds (id : Id) :
      Step w (.supervisorEnds id) { w with live := w.live.filter (· ≠ id) }
  | written (database : Id → RunSnapshot) :
      Step w (.written database) { w with database := database }

end Calls

end Zest.RuntimeRecovery

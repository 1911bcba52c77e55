import Zest.OrchestrationRepository
import Zest.RuntimeRecovery

/-! # The preflight of a supervisor

Before a supervisor is attached to a run, its authorisation, scope and budget,
its orchestration, its lease and the health of the runtime are looked at, and the
findings are put together in one report.  What the report says of the
orchestration may be overruled when the supervisor is attached to recover the
run.
-/
namespace Zest.RuntimeRecovery

inductive PreflightCheckName where
  | databaseReachable
  | schemaAtExpectedHead
  | runConfigurationExists
  | authorizationSourceActive
  | scopeCompiles
  | targetInScope
  | budgetAvailable
  | orchestrationRecoverable
  | noConflictingLease
  | workerCapabilitiesPresent
  | workerRuntimeHealthy
  | browserResourceContainment
  | modelRuntimeReady
  deriving DecidableEq, Repr

structure PreflightCheckResult where
  name : PreflightCheckName
  passed : Bool
  detail : String
  deriving DecidableEq, Repr

/-- How a check came out that looks at nothing modelled here. -/
structure Finding where
  passed : Bool
  detail : String
  deriving DecidableEq, Repr

/-- What the checks find outside of the run's own records: the probes of the
runtime, and the authorisation, the scope and the budget of the run. -/
structure Findings where
  /-- The text of the exception where the database could not be read. -/
  readFailure : Option String
  schema : Finding
  authorization : Finding
  scopeCompiles : Finding
  targetInScope : Finding
  budget : Finding
  workerCapabilities : Finding
  workerHealth : Finding
  browserContainment : Finding
  modelReadiness : Finding
  deriving DecidableEq, Repr

def Finding.check (finding : Finding) (name : PreflightCheckName) : PreflightCheckResult :=
  ⟨name, finding.passed, finding.detail⟩

/-- `PreflightCommand`, less the probes. -/
structure PreflightCommand where
  now : Instant
  requestingOwner : Option Id
  /-- The browser is among the capabilities that the start asks for. -/
  browserRequired : Bool
  checkReconciliation : Bool
  deriving DecidableEq, Repr

def runConfigurationCheck (s : RunSnapshot) : PreflightCheckResult :=
  if s.recorded then ⟨.runConfigurationExists, true, "research run persisted"⟩
  else ⟨.runConfigurationExists, false, "research run not found"⟩

def orchestrationTerminalCheck (orchestration : Option ResearchOrchestrationRecord) :
    PreflightCheckResult :=
  match orchestration with
  | none => ⟨.orchestrationRecoverable, true, "no prior orchestration checkpoint; fresh start"⟩
  | some orchestration =>
    if orchestration.state.terminal then
      ⟨.orchestrationRecoverable, false, "orchestration is already terminal (" ++
        stateValue orchestration.state ++ "); this research_run_id cannot be restarted"⟩
    else
      ⟨.orchestrationRecoverable, true, "orchestration checkpoint is non-terminal (" ++
        stateValue orchestration.state ++ ")"⟩

def leaseConflictCheck (orchestration : Option ResearchOrchestrationRecord) (now : Instant)
    (requestingOwner : Option Id) : PreflightCheckResult :=
  match orchestration.bind (·.ownerRuntimeInstanceId), orchestration with
  | some owner, some orchestration =>
    if orchestration.leaseExpired now then
      ⟨.noConflictingLease, true, "existing lease has expired"⟩
    else if requestingOwner = some owner then
      ⟨.noConflictingLease, true, "lease is already held by this runtime instance"⟩
    else
      ⟨.noConflictingLease, false,
        "run is actively leased by runtime instance " ++ toString owner⟩
  | _, _ => ⟨.noConflictingLease, true, "no active lease"⟩

/-- `_BLOCKING_RECONCILIATION_RESOLUTIONS`. -/
def ReconciliationResolution.blocking : ReconciliationResolution → Bool
  | .unknownOutcome | .requireHumanReview | .integrityError => true
  | _ => false

def resolutionValue : ReconciliationResolution → String
  | .safeToRetry => "SAFE_TO_RETRY"
  | .unknownOutcome => "UNKNOWN_OUTCOME"
  | .requireHumanReview => "REQUIRE_HUMAN_REVIEW"
  | .markOperationalFailure => "MARK_OPERATIONAL_FAILURE"
  | .noAction => "NO_ACTION"
  | .resumeExisting => "RESUME_EXISTING"
  | .safeToAdvance => "SAFE_TO_ADVANCE"
  | .integrityError => "INTEGRITY_ERROR"

/-- `_reconciliation_check`. -/
def reconciliationCheck (s : RunSnapshot) : PreflightCheckResult :=
  match reconcileResearchRun s false with
  | .error message =>
    ⟨.orchestrationRecoverable, false, "reconciliation could not run: " ++ message⟩
  | .ok items =>
    let blockers := items.filter (·.resolution.blocking)
    if blockers.isEmpty then
      ⟨.orchestrationRecoverable, true, "no blocking reconciliation items"⟩
    else
      ⟨.orchestrationRecoverable, false, "reconciliation requires attention before start: " ++
        "; ".intercalate (blockers.map fun item => item.subjectType ++ ":" ++
          toString item.subjectId ++ " " ++ resolutionValue item.resolution)⟩

/-- The checks that are made of a run that exists. -/
def runChecks (s : RunSnapshot) (findings : Findings) (command : PreflightCommand) :
    List PreflightCheckResult :=
  [findings.authorization.check .authorizationSourceActive,
    findings.scopeCompiles.check .scopeCompiles,
    findings.targetInScope.check .targetInScope,
    findings.budget.check .budgetAvailable,
    orchestrationTerminalCheck s.orchestration,
    leaseConflictCheck s.orchestration command.now command.requestingOwner] ++
  if command.checkReconciliation then [reconciliationCheck s] else []

/-- `Preflight.execute`: the checks of the report. -/
def preflight (s : RunSnapshot) (findings : Findings) (command : PreflightCommand) :
    List PreflightCheckResult :=
  match findings.readFailure with
  | some text => [⟨.databaseReachable, false, "database read failed during preflight: " ++ text⟩]
  | none =>
    [⟨.databaseReachable, true, "system of record reachable"⟩,
      findings.schema.check .schemaAtExpectedHead, runConfigurationCheck s] ++
    (if s.recorded then runChecks s findings command else []) ++
    [findings.workerCapabilities.check .workerCapabilitiesPresent,
      findings.workerHealth.check .workerRuntimeHealthy] ++
    (if command.browserRequired then
      [findings.browserContainment.check .browserResourceContainment] else []) ++
    [findings.modelReadiness.check .modelRuntimeReady]

/-- `READY_TO_START`. -/
def readyToStart (checks : List PreflightCheckResult) : Bool :=
  checks.all (·.passed)

def failing (checks : List PreflightCheckResult) : List PreflightCheckResult :=
  checks.filter (!·.passed)

/-- Only checks of this name fail, and one does. -/
def failsOnly (name : PreflightCheckName) (checks : List PreflightCheckResult) : Bool :=
  !(failing checks).isEmpty && (failing checks).all (·.name = name)

/-- The report lets `_attach_supervisor` go on. -/
def letsAttach (checks : List PreflightCheckResult) (recovery : Bool) : Bool :=
  readyToStart checks || recovery && failsOnly .orchestrationRecoverable checks

end Zest.RuntimeRecovery

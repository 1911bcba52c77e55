import Zest.BudgetLedger

/-! # Execution attempts

One attempt is one intended invocation of the Worker.  It is authorized, then
marked as dispatching in the transaction that charges its budget, and settled by
what the Worker reports.  The states, the classification of a Worker's report
and the charge of a dispatch are shared by all who dispatch.
-/
namespace Zest

inductive ExecutionAttemptState where
  | authorized
  | dispatching
  | completed
  | failed
  | timedOut
  | cancelled
  | unknownOutcome
  deriving DecidableEq, Repr

inductive ExperimentExecutionState where
  | planned
  | authorizationCheck
  | ready
  | running
  | executionSucceeded
  | executionFailed
  | blocked
  | cancelled
  | budgetExhausted
  deriving DecidableEq, Repr

/-- `TERMINAL_EXPERIMENT_STATES`. -/
def ExperimentExecutionState.terminal : ExperimentExecutionState → Bool
  | .executionSucceeded | .executionFailed | .blocked | .cancelled | .budgetExhausted => true
  | _ => false

inductive InvocationStatus where
  | completed
  | startFailed
  | timedOut
  | cancelled
  | processFailed
  | protocolError
  | contractInvalid
  deriving DecidableEq, Repr

inductive ResearchLoopStatus where
  | observationProduced
  | noObservation
  | dispatchDenied
  | humanReviewRequired
  | invocationFailed
  | unknownOutcome
  | authorizedNotDispatched
  | alreadyTerminal
  | inputRejected
  | reauthorizationRequired
  deriving DecidableEq, Repr

/-- The statuses of a Worker result that `_classify_invocation` tells apart. -/
inductive WorkerResultStatus where
  | reauthorizationRequired
  | budgetExhausted
  | blocked
  | other
  deriving DecidableEq, Repr

/-- What a Worker reports: how the invocation ended, and the status of its
result where it completed. -/
structure WorkerInvocationOutcome where
  invocationStatus : InvocationStatus
  resultStatus : WorkerResultStatus
  deriving DecidableEq, Repr

/-- `_classify_invocation`. -/
def classifyInvocation (invocation : WorkerInvocationOutcome) :
    ExecutionAttemptState × ExperimentExecutionState × ResearchLoopStatus :=
  match invocation.invocationStatus with
  | .completed =>
    match invocation.resultStatus with
    | .reauthorizationRequired => (.completed, .authorizationCheck, .reauthorizationRequired)
    | .budgetExhausted => (.completed, .budgetExhausted, .dispatchDenied)
    | .blocked => (.completed, .blocked, .noObservation)
    | .other => (.completed, .executionSucceeded, .noObservation)
  | .timedOut => (.timedOut, .executionFailed, .invocationFailed)
  | .cancelled => (.cancelled, .cancelled, .invocationFailed)
  | .startFailed | .processFailed | .protocolError | .contractInvalid =>
    (.failed, .executionFailed, .invocationFailed)

/-- `_outcome_for_existing`: the status of an attempt that is there already. -/
def outcomeForExisting : ExecutionAttemptState → ResearchLoopStatus
  | .authorized => .authorizedNotDispatched
  | .unknownOutcome => .unknownOutcome
  | _ => .alreadyTerminal

/-- `_record_dispatch_consumption`: one invocation and the requests reserved for
it, both under the request of the attempt; `none` is a `BudgetOverspendError`. -/
def recordDispatchConsumption (issued : IssuedBudget) (ledger : Ledger) (requestId : Id)
    (requestAmount : Nat) : Option Ledger := do
  let ledger ← insertWithinAllowance issued 0 ledger
    { resourceType := .workerInvocation, amount := 1, requestId := some (.worker requestId) }
  insertWithinAllowance issued 0 ledger
    { resourceType := .request, amount := requestAmount, requestId := some (.worker requestId) }

/-- A settled attempt is past both the authorization and the dispatch. -/
theorem classifyInvocation_settled (invocation : WorkerInvocationOutcome) :
    (classifyInvocation invocation).1 ≠ .authorized ∧
      (classifyInvocation invocation).1 ≠ .dispatching := by
  unfold classifyInvocation
  repeat' split
  all_goals exact ⟨by decide, by decide⟩

end Zest

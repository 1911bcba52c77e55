import Mathlib.Logic.Function.Basic
import Zest.HuntQueue
import Zest.ProbeAssessment
import Zest.TransitionSystem

/-! # What is recorded of a dispatch, and what is made of it

What a Worker reports is recorded in two or three units of work: the states of
the attempt and of the experiment, the result with its observations, and other
states if the result is rejected.  The process may be stopped between them.

The evaluation of the experiment reads these rows and nothing else, so it works
the outcome of the dispatch out once more, from the states.  Evaluations may run
at the same time; each reads one table after another, and inserts its assessment
at the end.
-/
namespace Zest

/-- `ExecutionAttemptState.value`. -/
def ExecutionAttemptState.value : ExecutionAttemptState → Text
  | authorized => "AUTHORIZED".toList
  | dispatching => "DISPATCHING".toList
  | completed => "COMPLETED".toList
  | failed => "FAILED".toList
  | timedOut => "TIMED_OUT".toList
  | cancelled => "CANCELLED".toList
  | unknownOutcome => "UNKNOWN_OUTCOME".toList

/-- `ExperimentExecutionState.value`. -/
def ExperimentExecutionState.value : ExperimentExecutionState → Text
  | planned => "PLANNED".toList
  | authorizationCheck => "AUTHORIZATION_CHECK".toList
  | ready => "READY".toList
  | running => "RUNNING".toList
  | executionSucceeded => "EXECUTION_SUCCEEDED".toList
  | executionFailed => "EXECUTION_FAILED".toList
  | blocked => "BLOCKED".toList
  | cancelled => "CANCELLED".toList
  | budgetExhausted => "BUDGET_EXHAUSTED".toList

namespace Recording

open UnitOfWork TransitionSystem
open ProbeAssessment (ExperimentFeedback ObservedFact unusableExecutionOutcomes
  unusableAttemptStates unusableExperimentStates unusableInvocationStatuses)
open Verification (AssessmentOutcome)

/-! ## Reports -/

/-- A `WorkerResult` document: its status, and what the ingestion makes of it
before it writes anything, a reason to reject it or the observations. -/
structure WorkerResultDocument where
  status : Text
  admitted : Except Text (List ObservedFact)

/-- `WorkerInvocationOutcome`. -/
structure Report where
  invocationStatus : InvocationStatus
  workerResult : Option WorkerResultDocument

/-- The statuses that `_classify_invocation` compares with. -/
def workerResultStatus (status : Text) : WorkerResultStatus :=
  if status = "REAUTHORIZATION_REQUIRED".toList then .reauthorizationRequired
  else if status = "BUDGET_EXHAUSTED".toList then .budgetExhausted
  else if status = "BLOCKED".toList then .blocked
  else .other

/-- The report, as it is classified; no document is read as an empty one. -/
def Report.outcome (report : Report) : WorkerInvocationOutcome where
  invocationStatus := report.invocationStatus
  resultStatus :=
    match report.workerResult with
    | none => .other
    | some document => workerResultStatus document.status

/-! ## Rows -/

/-- `HypothesisAssessmentRecord`: the outcome, the observations that it is about,
and the `execution_outcome` of its rationale. -/
structure AssessmentRecord where
  outcome : AssessmentOutcome
  observations : List ObservedFact
  executionOutcome : Text

/-- The rows about one experiment and its attempt. -/
structure Rows where
  attemptState : ExecutionAttemptState
  experimentState : ExperimentExecutionState
  /-- The `status` of the stored result. -/
  workerResult : Option Text
  observations : List ObservedFact
  assessments : List AssessmentRecord

/-- Both states. -/
def Rows.setStates (rows : Rows) (attemptState : ExecutionAttemptState)
    (experimentState : ExperimentExecutionState) : Rows :=
  { rows with attemptState := attemptState, experimentState := experimentState }

/-! ## Recording -/

/-- `IngestionStatus`. -/
inductive IngestionStatus where
  | ingested
  | alreadyIngested
  | noObservation
  | rejectedInvalidInvocation
  deriving DecidableEq, Repr

/-- `IngestCompletedWorkerInvocation.execute`. -/
def ingest (document : WorkerResultDocument) (rows : Rows) : Rows × IngestionStatus :=
  match document.admitted with
  | .error _ => (rows, .rejectedInvalidInvocation)
  | .ok facts =>
    if rows.workerResult.isSome then (rows, .alreadyIngested)
    else
      ({ rows with
          workerResult := some document.status
          observations := rows.observations ++ facts },
        if facts.isEmpty then .noObservation else .ingested)

/-- The status of the loop after the ingestion of what was not rejected. -/
def statusAfterIngestion (loopStatus : ResearchLoopStatus) : IngestionStatus → ResearchLoopStatus
  | .noObservation =>
    if loopStatus = .reauthorizationRequired then loopStatus else .noObservation
  | .ingested | .alreadyIngested => .observationProduced
  | .rejectedInvalidInvocation => loopStatus

/-- The second unit of work of `_record_outcome`, and the third. -/
def ingestResult (document : WorkerResultDocument) (loopStatus : ResearchLoopStatus) :
    Prog Rows ResearchLoopStatus := do
  let status ← Prog.tx (ingest document) .done
  if status = .rejectedInvalidInvocation then do
    Prog.write fun rows => rows.setStates .failed .executionFailed
    return .invocationFailed
  else return statusAfterIngestion loopStatus status

/-- `_record_outcome`; `persists` says whether its first unit of work goes
through, or raises a `PersistenceError`. -/
def recordOutcome (persists : Bool) (report : Report) : Prog Rows ResearchLoopStatus :=
  let (attemptState, experimentState, loopStatus) := classifyInvocation report.outcome
  if !persists then return .invocationFailed
  else do
    Prog.write fun rows => rows.setStates attemptState experimentState
    match report.invocationStatus, report.workerResult with
    | .completed, some document => ingestResult document loopStatus
    | _, _ => return loopStatus

/-- `_fail_closed_existing`, of an attempt that is there: what a process that
resumes the run does first. -/
def failClosedExisting : Prog Rows ResearchLoopStatus :=
  Prog.tx (fun rows =>
    if rows.attemptState = .dispatching then
      ({ rows with attemptState := .unknownOutcome }, .unknownOutcome)
    else if rows.attemptState = .completed ∧
        rows.workerResult = some "REAUTHORIZATION_REQUIRED".toList then
      (rows, .reauthorizationRequired)
    else (rows, outcomeForExisting rows.attemptState)) .done

/-! ## Evaluation -/

/-- `_derive_execution_outcome`. -/
def deriveExecutionOutcome (experimentState : ExperimentExecutionState)
    (attemptState : ExecutionAttemptState) (observations : List ObservedFact) : Text :=
  if attemptState = .unknownOutcome then "UNKNOWN_OUTCOME".toList
  else if attemptState ∈ [.failed, .timedOut, .cancelled] then "INVOCATION_FAILED".toList
  else if experimentState ∈ [.blocked, .budgetExhausted] then "DISPATCH_DENIED".toList
  else if experimentState = .executionSucceeded then
    if observations.isEmpty then "NO_OBSERVATION".toList else "OBSERVATION_PRODUCED".toList
  else if experimentState = .executionFailed then "INVOCATION_FAILED".toList
  else experimentState.value

/-- What the evaluator of a strategy does: it checks the plan and the feedback
against each other, calls an execution unusable, or gives its verdict.  Not all
evaluators look at the status of the invocation. -/
structure Evaluator where
  check : ExperimentFeedback → Except String Unit
  readsInvocation : Bool
  verdict : ExperimentFeedback → Except String AssessmentOutcome

/-- `_unusable`. -/
def Evaluator.unusable (evaluator : Evaluator) (feedback : ExperimentFeedback) : Bool :=
  unusableExecutionOutcomes.contains feedback.executionOutcome ||
    feedback.attemptState.any unusableAttemptStates.contains ||
    feedback.experimentExecutionState.any unusableExperimentStates.contains ||
    (evaluator.readsInvocation &&
      feedback.invocationStatus.any unusableInvocationStatuses.contains)

/-- `evaluate`. -/
def Evaluator.evaluate (evaluator : Evaluator) (feedback : ExperimentFeedback) :
    Except String AssessmentOutcome := do
  evaluator.check feedback
  if evaluator.unusable feedback then return .executionUnusable
  else evaluator.verdict feedback

/-- `reconstruct_experiment_feedback`. -/
def reconstructExperimentFeedback (plan : ProbeAssessment.ExperimentPlan)
    (experimentState : ExperimentExecutionState) (attemptState : ExecutionAttemptState)
    (workerResult : Option Text) (observations : List ObservedFact) : ExperimentFeedback where
  hypothesisId := plan.hypothesisId
  evaluationStrategy := plan.evaluationStrategy
  executionOutcome := deriveExecutionOutcome experimentState attemptState observations
  observations := observations
  invocationStatus :=
    if workerResult.isNone ∧ attemptState = .timedOut then some "TIMED_OUT".toList
    else workerResult
  experimentExecutionState := some experimentState.value
  attemptState := some attemptState.value

/-- An assessment that is there is returned; otherwise one is made and stored. -/
def storeAssessment (evaluator : Evaluator) (feedback : ExperimentFeedback) :
    List AssessmentRecord → Prog Rows (Except String AssessmentRecord)
  | record :: _ => return .ok record
  | [] =>
    match evaluator.evaluate feedback with
    | .error message => return .error message
    | .ok outcome =>
      let record : AssessmentRecord :=
        ⟨outcome, feedback.observations, feedback.executionOutcome⟩
      do
        Prog.write fun rows => { rows with assessments := rows.assessments ++ [record] }
        return .ok record

/-- `EvaluateExperimentFeedback.execute`: one query after another, and the insert
with the commit. -/
def evaluateExperimentFeedback (evaluator : Evaluator) (plan : ProbeAssessment.ExperimentPlan) :
    Prog Rows (Except String AssessmentRecord) := do
  let experimentState ← Prog.read Rows.experimentState
  let attemptState ← Prog.read Rows.attemptState
  let workerResult ← Prog.read Rows.workerResult
  let observations ← Prog.read Rows.observations
  let stored ← Prog.read Rows.assessments
  let feedback := reconstructExperimentFeedback plan experimentState attemptState workerResult
    observations
  storeAssessment evaluator feedback stored

/-! ## Processes -/

/-- The rows, what the process that has dispatched has still to record, and the
evaluations. -/
structure System where
  rows : Rows
  dispatch : Prog Rows ResearchLoopStatus
  alive : Bool
  calls : Nat → Option (Prog Rows (Except String AssessmentRecord))

/-- The dispatch has reported its status to its caller. -/
def System.Reported (s : System) : Prop := ∃ status, s.dispatch = .done status

/-- Evaluation `i` is at `p`. -/
def System.setCall (s : System) (i : Nat)
    (p : Prog Rows (Except String AssessmentRecord)) : System :=
  { s with calls := Function.update s.calls i (some p) }

/-- `p` is what is left of a dispatch. -/
def System.setDispatch (s : System) (rows : Rows) (p : Prog Rows ResearchLoopStatus) : System :=
  { s with rows := rows, dispatch := p }

def System.setRows (s : System) (rows : Rows) : System := { s with rows := rows }

inductive Label where
  | record
  | stop
  | resume
  | call (i : Nat)
  | evaluate (i : Nat)
  | abandon (i : Nat)
  deriving DecidableEq

/-- A stop is a crash, and also any exception but that of the first unit of
work.  An evaluation that is abandoned goes no further. -/
inductive Step (evaluator : Evaluator) (plan : ProbeAssessment.ExperimentPlan) :
    System → Label → System → Prop
  | record {s : System} (halive : s.alive = true) :
      Step evaluator plan s .record
        (s.setDispatch (s.dispatch.advance s.rows).1 (s.dispatch.advance s.rows).2)
  | stop {s : System} (halive : s.alive = true) :
      Step evaluator plan s .stop { s with alive := false }
  | resume {s : System} (hstopped : s.alive = false) :
      Step evaluator plan s .resume (s.setRows (failClosedExisting.run s.rows).2)
  | call {s : System} (i : Nat) (hfree : s.calls i = none) :
      Step evaluator plan s (.call i) (s.setCall i (evaluateExperimentFeedback evaluator plan))
  | evaluate {s : System} (i : Nat) {p : Prog Rows (Except String AssessmentRecord)}
      (hcall : s.calls i = some p) :
      Step evaluator plan s (.evaluate i)
        ((s.setRows (p.advance s.rows).1).setCall i (p.advance s.rows).2)
  | abandon {s : System} (i : Nat) {p : Prog Rows (Except String AssessmentRecord)}
      (hcall : s.calls i = some p) :
      Step evaluator plan s (.abandon i) (s.setCall i .raise)

/-- The rows of an attempt that has been dispatched. -/
def dispatchedRows : Rows := ⟨.dispatching, .running, none, [], []⟩

/-- The Worker has reported, and nothing is recorded yet. -/
def initial (persists : Bool) (report : Report) : System where
  rows := dispatchedRows
  dispatch := recordOutcome persists report
  alive := true
  calls _ := none

end Recording

end Zest

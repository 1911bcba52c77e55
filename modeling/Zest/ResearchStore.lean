import Zest.ExecutionAttempts
import Zest.OrchestrationRepository
import Zest.UnitOfWork

/-! # The rows that a research run lives in

The controller of a run keeps nothing between two calls but what is in the
database.  `Store` is that part of the database, for one run: its orchestration
row, its budget, and the rows of what it has selected, proposed, planned and
attempted so far.

Two fields are not in the database.  They record what has happened, in order:
which model invocations were made, and what became of the opportunities,
hypotheses and experiments of the cycles.
-/
namespace Zest

/-- What one row of `research_opportunity` says of its source. -/
structure OpportunityRow where
  opportunityId : Id
  /-- Its kind is `REGISTRY_EXTERNAL_EXPLORATORY`. -/
  exploratory : Bool
  /-- The first of its source references. -/
  sourceRef : Option Id
  deriving DecidableEq, Repr

/-- A hypothesis; an exploratory one has the anomaly it comes from as its
origin. -/
structure HypothesisRow where
  hypothesisId : Id
  origin : Option Id
  deriving DecidableEq, Repr

structure ExperimentRow where
  experimentId : Id
  hypothesisId : Id
  executionState : ExperimentExecutionState
  deriving DecidableEq, Repr

/-- The stored plan of an experiment. -/
structure PlanRow where
  experimentId : Id
  hypothesisId : Id
  sideEffectLevel : Nat
  deriving DecidableEq, Repr

structure AttemptRow where
  attemptId : Id
  experimentId : Id
  state : ExecutionAttemptState
  deriving DecidableEq, Repr

structure WorkerResultRow where
  experimentId : Id
  status : WorkerResultStatus
  deriving DecidableEq, Repr

structure AssessmentRow where
  assessmentId : Id
  experimentId : Id
  deriving DecidableEq, Repr

/-- `ResearchCycleRecord`. -/
structure CycleRow where
  cycleNumber : Nat
  phaseCompleted : String
  outcome : CycleOutcome
  stopReason : Option StopReason
  opportunityId : Option Id
  hypothesisId : Option Id
  experimentId : Option Id
  deriving DecidableEq, Repr

/-- What happens in the cycles of a run. -/
inductive CycleEvent where
  /-- A cycle has chosen its opportunity, or has none to choose. -/
  | selected (opportunityId : Option Id)
  /-- The hypothesis proposed for the opportunity is stored. -/
  | admitted (opportunityId : Option Id) (hypothesisId : Id)
  /-- The proposal of the cycle is on record as not admitted. -/
  | notAdmitted
  /-- The Worker is about to be invoked for the experiment. -/
  | dispatched (experimentId : Id)
  /-- The outcome of the experiment is assessed. -/
  | assessed (experimentId : Id)
  /-- The cycle is over, with the experiment it is recorded to have had. -/
  | closed (outcome : CycleOutcome) (experimentId : Option Id)
  deriving DecidableEq, Repr

structure Store where
  row : ResearchOrchestrationRecord
  issued : IssuedBudget
  ledger : Ledger
  opportunities : List OpportunityRow
  hypotheses : List HypothesisRow
  experiments : List ExperimentRow
  experimentPlans : List PlanRow
  executionAttempts : List AttemptRow
  workerResults : List WorkerResultRow
  assessments : List AssessmentRow
  researchCycles : List CycleRow
  /-- The reproduction experiments of promotion runs. -/
  reproductions : List Id
  nextId : Nat
  /-- The identities under which the inner model was invoked. -/
  modelInvocations : List RequestId
  events : List CycleEvent
  deriving DecidableEq, Repr

/-- `exploratory_experiment_id`.  Identifiers drawn by `new_opaque_id` are
even, those derived from a hypothesis are odd. -/
def exploratoryExperimentId (hypothesisId : Id) : Id := 2 * hypothesisId + 1

namespace Store

variable (s : Store)

/-- `new_opaque_id`. -/
def newId : Id := 2 * s.nextId

/-- The store after an identifier was drawn. -/
def drawn : Store := { s with nextId := s.nextId + 1 }

def opportunity (opportunityId : Id) : Option OpportunityRow :=
  s.opportunities.find? (·.opportunityId = opportunityId)

def hypothesis (hypothesisId : Id) : Option HypothesisRow :=
  s.hypotheses.find? (·.hypothesisId = hypothesisId)

def experiment (experimentId : Id) : Option ExperimentRow :=
  s.experiments.find? (·.experimentId = experimentId)

def experimentPlan (experimentId : Id) : Option PlanRow :=
  s.experimentPlans.find? (·.experimentId = experimentId)

def attempt (attemptId : Id) : Option AttemptRow :=
  s.executionAttempts.find? (·.attemptId = attemptId)

/-- The hypothesis that an experiment is about. -/
def hypothesisOf (experimentId : Id) : Option Id :=
  (s.experiment experimentId).map (·.hypothesisId)

/-- `experiments.set_execution_state`. -/
def setExecutionState (experimentId : Id) (state : ExperimentExecutionState) : Store :=
  { s with
    experiments := s.experiments.map fun item =>
      if item.experimentId = experimentId then { item with executionState := state } else item }

/-- `execution_attempts.set_state`. -/
def setAttemptState (attemptId : Id) (state : ExecutionAttemptState) : Store :=
  { s with
    executionAttempts := s.executionAttempts.map fun item =>
      if item.attemptId = attemptId then { item with state := state } else item }

/-- The store with one more event. -/
def happened (event : CycleEvent) : Store := { s with events := s.events ++ [event] }

/-- An attempt whose outcome is not known is there. -/
def unknownOpen : Bool :=
  s.executionAttempts.any fun item =>
    item.state = .dispatching || item.state = .unknownOutcome

/-- `_usage`, but for the fields that no bound is checked against. -/
def usage (current : ResearchOrchestrationRecord) (elapsedMs : Nat) : OrchestrationUsage :=
  { cyclesCompleted := current.cycleNumber
    experimentsExecuted :=
      (s.experiments.filter fun item => !s.reproductions.contains item.experimentId).length
    modelCalls := ledgerTotal s.ledger .modelCall
    workerInvocations := ledgerTotal s.ledger .workerInvocation
    elapsedMs := elapsedMs
    runtimeFallbacks := 0 }

theorem hypothesisOf_setExecutionState (experimentId id : Id)
    (state : ExperimentExecutionState) :
    (s.setExecutionState experimentId state).hypothesisOf id = s.hypothesisOf id := by
  unfold hypothesisOf experiment setExecutionState
  induction s.experiments with
  | nil => rfl
  | cons item items ih =>
    have hid : (if item.experimentId = experimentId then
        { item with executionState := state } else item).experimentId = item.experimentId := by
      split <;> rfl
    have hhyp : (if item.experimentId = experimentId then
        { item with executionState := state } else item).hypothesisId = item.hypothesisId := by
      split <;> rfl
    simp only [List.map_cons, List.find?_cons, hid]
    split
    · simp [hhyp]
    · exact ih

end Store

/-- Experiments have identifiers of their own, each drawn before or derived from
the hypothesis it is about. -/
structure Store.Keyed (s : Store) : Prop where
  distinct : (s.experiments.map (·.experimentId)).Nodup
  origin : ∀ item ∈ s.experiments,
    item.experimentId = exploratoryExperimentId item.hypothesisId ∨
      ∃ n < s.nextId, item.experimentId = 2 * n

/-- A transaction of a part of the system that the controller calls and that is
not written out here: it makes experiments and attempts of its own, under
identifiers that it draws, but writes no orchestration row, charges no model
call, and takes no row away. -/
structure ExternalTx where
  apply : Store → Store
  row : ∀ s, (apply s).row = s.row
  events : ∀ s, (apply s).events = s.events
  modelInvocations : ∀ s, (apply s).modelInvocations = s.modelInvocations
  opportunities : ∀ s, (apply s).opportunities = s.opportunities
  nextId : ∀ s, s.nextId ≤ (apply s).nextId
  ledger : ∀ s, ∃ charges, (apply s).ledger = s.ledger ++ charges ∧
    ∀ charge ∈ charges, charge.resourceType ≠ .modelCall
  hypothesisOf : ∀ s experimentId hypothesisId,
    s.hypothesisOf experimentId = some hypothesisId →
      (apply s).hypothesisOf experimentId = some hypothesisId
  keyed : ∀ s, s.Keyed → (apply s).Keyed

end Zest

import Zest.ScopeCompiler

/-! # The orchestration of a research run

One row of the database is the durable state of the controller of a run: its
bounds, how far the current cycle has come, what that cycle refers to, and who
holds the lease on it.  The policy functions over the row decide when a run has
to stop and what its next cycle does.

Identifiers are opaque; they are numbers here, and a fresh one is the next
number of a counter that the store keeps.
-/
namespace Zest

/-- An opaque identifier. -/
abbrev Id := Nat

inductive OrchestrationState where
  | ready
  | running
  | paused
  | waitingHuman
  | blocked
  | budgetExhausted
  | completed
  | failedOperational
  deriving DecidableEq, Repr

inductive StopReason where
  | completedNoMoreOpportunities
  | budgetExhausted
  | maxCyclesReached
  | maxDurationReached
  | requireHumanReview
  | noCompatibleRuntime
  | coreBlocked
  | operatorPaused
  | operatorCancelled
  | operationalFailure
  | contentPolicyBlocked
  | authRequired
  | rateLimited
  | cancelled
  deriving DecidableEq, Repr

inductive OrchestrationPhase where
  | cycleReady
  | opportunitySelected
  | hypothesisAdmitted
  | experimentPlanned
  | authorizationRequested
  | attemptAuthorized
  | dispatching
  | workerResultRecorded
  | transitionAComplete
  | assessmentComplete
  | transitionBComplete
  | cycleComplete
  deriving DecidableEq, Repr

inductive CycleOutcome where
  | continue
  | pause
  | complete
  | blocked
  | requireHumanReview
  deriving DecidableEq, Repr

inductive NextCycleAction where
  | stop
  | bootstrapDiagnostic
  | useSelectedOpportunity
  deriving DecidableEq, Repr

/-- The levels of side effect are written `0` to `3`. -/
instance sideEffectLevels : @NeZero Nat Zero.ofOfNat0 4 := Nat.instNeZeroSucc

/-- `OrchestrationBounds`.  The values are checked to be non-negative, and the
ceiling to be at most three, when one is built. -/
structure OrchestrationBounds where
  maxCycles : Nat
  maxExperiments : Nat
  maxModelCalls : Nat
  maxWorkerInvocations : Nat
  maxElapsedMs : Nat
  maxSelectedOpportunities : Nat
  maxRuntimeFallback : Nat
  sideEffectCeiling : Fin 4
  allowRepeatedControlExperiments : Bool
  deriving DecidableEq, Repr

/-- `ResearchOrchestrationRecord`, less the configuration texts that `step`
only compares with the command's, and the time stamps.  The bounds are columns
of the row. -/
structure ResearchOrchestrationRecord where
  state : OrchestrationState
  cycleNumber : Nat
  lastPhase : String
  currentPhase : OrchestrationPhase
  bounds : OrchestrationBounds
  budgetId : Id
  lastOpportunityId : Option Id
  lastHypothesisId : Option Id
  lastExperimentId : Option Id
  pauseReason : Option String
  stopReason : Option StopReason
  activeCycleId : Option Id
  lastAttemptId : Option Id
  lastObservationId : Option Id
  lastAssessmentId : Option Id
  lastWorkerResultId : Option Id
  ownerRuntimeInstanceId : Option Id
  leaseEpoch : Nat
  leaseExpiresAt : Option Instant
  deriving DecidableEq, Repr

/-- `TERMINAL_ORCHESTRATION_STATES`. -/
def OrchestrationState.terminal : OrchestrationState → Bool
  | .completed | .budgetExhausted | .failedOperational => true
  | _ => false

/-- The states from which `step` returns at once. -/
def OrchestrationState.halted : OrchestrationState → Bool
  | .completed | .budgetExhausted | .failedOperational | .blocked | .waitingHuman | .paused => true
  | .ready | .running => false

theorem OrchestrationState.halted_of_terminal {s : OrchestrationState} (h : s.terminal = true) :
    s.halted = true := by
  cases s <;> first | rfl | cases h

structure OrchestrationUsage where
  cyclesCompleted : Nat
  experimentsExecuted : Nat
  modelCalls : Nat
  workerInvocations : Nat
  elapsedMs : Nat
  runtimeFallbacks : Nat
  deriving DecidableEq, Repr

/-- `check_orchestration_bounds`: the reason to stop, or `none` within
bounds. -/
def checkOrchestrationBounds (bounds : OrchestrationBounds) (usage : OrchestrationUsage) :
    Option StopReason :=
  if bounds.maxCycles ≤ usage.cyclesCompleted then some .maxCyclesReached
  else if bounds.maxElapsedMs ≤ usage.elapsedMs then some .maxDurationReached
  else if bounds.maxExperiments ≤ usage.experimentsExecuted then some .budgetExhausted
  else if bounds.maxModelCalls ≤ usage.modelCalls then some .budgetExhausted
  else if bounds.maxWorkerInvocations ≤ usage.workerInvocations then some .budgetExhausted
  else if bounds.maxRuntimeFallback < usage.runtimeFallbacks then some .noCompatibleRuntime
  else none

/-- `next_cycle_action`. -/
def nextCycleAction (bounds : OrchestrationBounds) (usage : OrchestrationUsage)
    (selectedCount hypothesisCount : Nat) (unknownOutcomeOpen : Bool) :
    NextCycleAction × Option StopReason :=
  if unknownOutcomeOpen then (.stop, some .operationalFailure)
  else match checkOrchestrationBounds bounds usage with
    | some reason => (.stop, some reason)
    | none =>
      if 0 < selectedCount then
        if bounds.maxSelectedOpportunities < selectedCount then (.stop, some .budgetExhausted)
        else (.useSelectedOpportunity, none)
      else if hypothesisCount = 0 then (.bootstrapDiagnostic, none)
      else if bounds.allowRepeatedControlExperiments then (.bootstrapDiagnostic, none)
      else (.stop, some .completedNoMoreOpportunities)

/-- `cycle_outcome_for_stop`. -/
def cycleOutcomeForStop : StopReason → CycleOutcome
  | .requireHumanReview => .requireHumanReview
  | .operatorPaused => .pause
  | .cancelled => .complete
  | .coreBlocked | .noCompatibleRuntime | .contentPolicyBlocked | .operationalFailure
  | .authRequired | .rateLimited => .blocked
  | _ => .complete

/-- `orchestration_state_for_stop`. -/
def orchestrationStateForStop : StopReason → OrchestrationState
  | .budgetExhausted => .budgetExhausted
  | .requireHumanReview => .waitingHuman
  | .operatorPaused => .paused
  | .operationalFailure => .failedOperational
  | .cancelled => .completed
  | .coreBlocked | .noCompatibleRuntime | .contentPolicyBlocked | .authRequired
  | .rateLimited => .blocked
  | _ => .completed

/-- Whatever the reason, a run that stops is not picked up by `step` again. -/
theorem halted_orchestrationStateForStop (reason : StopReason) :
    (orchestrationStateForStop reason).halted = true := by
  cases reason <;> rfl

theorem cycleOutcomeForStop_ne_continue (reason : StopReason) :
    cycleOutcomeForStop reason ≠ .continue := by
  cases reason <;> decide

theorem checkOrchestrationBounds_eq_none {bounds : OrchestrationBounds}
    {usage : OrchestrationUsage} (h : checkOrchestrationBounds bounds usage = none) :
    usage.cyclesCompleted < bounds.maxCycles ∧ usage.modelCalls < bounds.maxModelCalls := by
  unfold checkOrchestrationBounds at h
  repeat' split at h
  all_goals first | omega | cases h

end Zest

import Zest.OrchestrationRepository

/-! # The commands of operators and supervisors

Pausing, resuming and cancelling a run, holding it for a human and failing it
each read the row, decide on what they read, and save the row with a few columns
changed.  The read and the save are two statements, so the row may change
between them.
-/
namespace Zest

/-- Who changes the state of a run from outside of `step`. -/
inductive OperatorCommand where
  | pause
  | resume
  | cancel
  /-- `_hold_for_human`, for the recovery decision it is given. -/
  | holdForHuman (action : String)
  /-- `stop_for_operational_failure`, in the phase it is told. -/
  | stopForOperationalFailure (phase : String)
  /-- `mark_operational_failure`. -/
  | markOperationalFailure
  deriving DecidableEq, Repr

variable (current : ResearchOrchestrationRecord)

/-- `_operator_state`; `none` where the command is rejected. -/
def operatorState (state : OrchestrationState) (reason : StopReason) (reasonText : String) :
    Option ResearchOrchestrationRecord :=
  if current.state.terminal then none
  else some { current with
    state := state
    stopReason := some reason
    pauseReason := if state = .paused then some reasonText else current.pauseReason
    lastPhase := "operator" }

namespace OperatorCommand

/-- The record that a command saves when it has read `current`; `none` where it
saves nothing. -/
def update : OperatorCommand → Option ResearchOrchestrationRecord
  | pause => operatorState current .paused .operatorPaused "OPERATOR_PAUSED"
  | resume =>
    if current.state = .paused then
      some { current with
        state := .ready, pauseReason := none, stopReason := none, lastPhase := "resume" }
    else none
  | cancel => operatorState current .completed .operatorCancelled "OPERATOR_CANCELLED"
  | holdForHuman action =>
    if current.state = .ready ∨ current.state = .running then
      some { current with
        state := .waitingHuman, pauseReason := some action, lastPhase := "runtime_recovery" }
    else none
  | stopForOperationalFailure phase =>
    if current.state = .ready ∨ current.state = .running then
      some { current with
        state := .failedOperational, stopReason := some .operationalFailure,
        lastPhase := phase }
    else none
  | markOperationalFailure =>
    if current.state = .running then
      some { current with
        state := .failedOperational, stopReason := some .operationalFailure,
        lastPhase := "reconciliation" }
    else none

/-- The command saves with `require_unowned_or_expired`. -/
def requiresUnowned : OperatorCommand → Bool
  | markOperationalFailure => true
  | _ => false

end OperatorCommand

/-- The two records carry the same lease. -/
structure SameLease (record record' : ResearchOrchestrationRecord) : Prop where
  owner : record.ownerRuntimeInstanceId = record'.ownerRuntimeInstanceId
  epoch : record.leaseEpoch = record'.leaseEpoch
  expires : record.leaseExpiresAt = record'.leaseExpiresAt

/-- A command writes back the lease that it read. -/
theorem OperatorCommand.sameLease {command : OperatorCommand}
    {current record : ResearchOrchestrationRecord}
    (h : command.update current = some record) : SameLease record current := by
  cases command <;> simp only [update, operatorState] at h <;> split at h <;> cases h <;>
    exact ⟨rfl, rfl, rfl⟩

end Zest

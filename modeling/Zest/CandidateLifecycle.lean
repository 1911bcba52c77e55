import Zest.BudgetLedger

/-! # The lifecycle of a candidate

A candidate is opened, verified, and closed with the verdict of its
verification.  `transitionCandidate` is the one place that decides which step is
legal; who calls it has still to write the state down.
-/
namespace Zest

inductive CandidateState where
  | open
  | verifying
  | validated
  | rejected
  | inconclusive
  | duplicate
  | outOfScope
  deriving DecidableEq, Repr

/-- What a verifier proposes. -/
inductive VerificationOutcome where
  | validated
  | rejected
  | inconclusive
  | duplicate
  | outOfScope
  deriving DecidableEq, Repr

/-- `CandidateState(outcome.value)`. -/
def VerificationOutcome.proposedState : VerificationOutcome → CandidateState
  | .validated => .validated
  | .rejected => .rejected
  | .inconclusive => .inconclusive
  | .duplicate => .duplicate
  | .outOfScope => .outOfScope

/-- `LEGAL_CANDIDATE_TRANSITIONS`. -/
def legalCandidateTransitions : List (CandidateState × CandidateState) :=
  [(.open, .verifying), (.verifying, .validated), (.verifying, .rejected),
    (.verifying, .inconclusive), (.open, .outOfScope), (.verifying, .outOfScope),
    (.open, .duplicate), (.verifying, .duplicate)]

/-- `TERMINAL_CANDIDATE_STATES`. -/
def CandidateState.terminal : CandidateState → Bool
  | .validated | .rejected | .inconclusive | .duplicate | .outOfScope => true
  | _ => false

/-- `transition_candidate`. -/
def transitionCandidate (current target : CandidateState) : Except String CandidateState :=
  if (current, target) ∈ legalCandidateTransitions then .ok target
  else .error "illegal Candidate transition"

/-- `start_candidate_verification`. -/
def startCandidateVerification (current : CandidateState) : Except String CandidateState :=
  transitionCandidate current .verifying

theorem transitionCandidate_eq_ok {current target next : CandidateState} :
    transitionCandidate current target = .ok next ↔
      (current, target) ∈ legalCandidateTransitions ∧ next = target := by
  unfold transitionCandidate
  split
  next hlegal => simp [hlegal, eq_comm]
  next hillegal => simp [hillegal]

/-- Only a candidate that is being verified is validated. -/
theorem verifying_of_legal_validated {current : CandidateState}
    (h : (current, CandidateState.validated) ∈ legalCandidateTransitions) :
    current = .verifying := by
  cases current <;> first | rfl | simp [legalCandidateTransitions] at h

/-- A closed candidate stays as it is. -/
theorem not_legal_of_terminal {current target : CandidateState} (h : current.terminal = true) :
    (current, target) ∉ legalCandidateTransitions := by
  cases current <;> simp_all [CandidateState.terminal, legalCandidateTransitions]

end Zest

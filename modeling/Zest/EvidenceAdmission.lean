import Zest.ExperimentOptions
import Zest.ProbeAssessment

/-! # Admission of evidence

Evidence is proposed from what has been loaded of an experiment, and it is
admitted against the same.  Each strategy of evaluation has its own claims: the
diagnostic echo has one for either outcome of its assessment, each of the two
HTTP strategies has one claim, and only supports it.
-/
namespace Zest.Evidence

open ProbeAssessment (unusableAttemptStates unusableExecutionOutcomes unusableExperimentStates
  unusableInvocationStatuses)
open ResearchSelection (Name requireText)
open Verification (AssessmentOutcome EvidencePolarity)

/-! ## Names of the source -/

/-- `DIAGNOSTIC_ECHO_EVALUATION_STRATEGY`. -/
def diagnosticEchoStrategy : Text := "diagnostic.echo.v1".toList

/-- `HTTP_AUTHORIZATION_DIFFERENTIAL_EVALUATION_STRATEGY`. -/
def httpAuthorizationDifferentialStrategy : Text := "http.authorization.differential.v1".toList

/-- `HTTP_STATE_TRANSITION_EVALUATION_STRATEGY`. -/
def httpStateTransitionStrategy : Text := "http.state_transition.v1".toList

/-- `SUPPORTED_EVIDENCE_STRATEGIES`. -/
def supportedEvidenceStrategies : List Text :=
  [diagnosticEchoStrategy, httpAuthorizationDifferentialStrategy, httpStateTransitionStrategy]

/-- `DIAGNOSTIC_ECHO_MATCHED_CLAIM`. -/
def diagnosticEchoMatchedClaim : Text :=
  "diagnostic echo observation matched the executed plan".toList

/-- `DIAGNOSTIC_ECHO_MISMATCHED_CLAIM`. -/
def diagnosticEchoMismatchedClaim : Text :=
  "diagnostic echo observation did not match the executed plan".toList

/-- `HTTP_AUTHORIZATION_DIFFERENTIAL_CLAIM`. -/
def httpAuthorizationDifferentialClaim : Text :=
  ("Authenticated actor can read another actor's account object because object " ++
    "authorization is missing on the vulnerable endpoint.").toList

/-- `HTTP_STATE_TRANSITION_CLAIM`. -/
def httpStateTransitionClaim : Text :=
  ("Authenticated requester performed an unauthorized workflow state transition " ++
    "because role or sequence authorization is missing on the workflow endpoint.").toList

/-- `FORBIDDEN_EVIDENCE_KEYS`, sorted. -/
def forbiddenEvidenceKeys : List String :=
  ["authorization", "candidate", "confidence", "exploitability", "finding", "severity",
    "verification"]

/-! ## Proposals -/

/-- `_require_ids`. -/
def requireIds (value : List Text) (fieldName : String) : Except String (List Name) :=
  value.zipIdx.mapM fun item => requireText item.1 s!"{fieldName}[{item.2}]"

/-- `_reject_forbidden`. -/
def rejectForbidden (payload : Dict) (fieldName : String) : Except String Dict :=
  let found := forbiddenEvidenceKeys.filter fun key => (payload.lookup key.toList).isSome
  if found = [] then .ok payload
  else
    .error (fieldName ++ " must not contain [" ++
      ", ".intercalate (found.map fun key => "'" ++ key ++ "'") ++ "]")

/-- `EvidenceObservationRef`. -/
structure EvidenceObservationRef where
  observationId : Name
  researchRunId : Name
  workerResultId : Name
  observationKind : Name

/-- `EvidenceAdmissionContext`. -/
structure EvidenceAdmissionContext where
  researchRunId : Name
  hypothesisId : Name
  experimentId : Name
  evaluationStrategy : Name
  observations : List EvidenceObservationRef
  missingSourceIds : List Text
  assessmentId : Option Text
  assessmentOutcome : Option AssessmentOutcome
  attemptState : Option Text
  workerStatus : Option Text
  invocationStatus : Option Text
  executionOutcome : Option Text
  experimentExecutionState : Option Text

namespace EvidenceAdmissionContext

/-- `observation_ids`. -/
def observationIds (context : EvidenceAdmissionContext) : List Name :=
  context.observations.map (·.observationId)

/-- `execution_unusable`. -/
def executionUnusable (context : EvidenceAdmissionContext) : Bool :=
  context.assessmentOutcome = some .executionUnusable ||
    context.executionOutcome.any unusableExecutionOutcomes.contains ||
    context.attemptState.any unusableAttemptStates.contains ||
    context.experimentExecutionState.any unusableExperimentStates.contains ||
    context.invocationStatus.any unusableInvocationStatuses.contains ||
    context.workerStatus.any
      ["TIMED_OUT".toList, "CANCELLED".toList, "EXECUTION_FAILED".toList].contains

end EvidenceAdmissionContext

/-- `EvidenceProposal`. -/
structure EvidenceProposal where
  proposalId : Name
  researchRunId : Name
  hypothesisId : Name
  experimentId : Name
  observationIds : List Name
  assessmentIds : List Name
  polarity : EvidencePolarity
  claimScope : Name
  rationale : Dict
  provenance : Dict

/-- A proposal about the context; what is of the context is in order already. -/
def EvidenceProposal.make (context : EvidenceAdmissionContext) (proposalId assessmentId : Text)
    (polarity : EvidencePolarity) (claimScope : Text) (rationale provenance : Dict) :
    Except String EvidenceProposal := do
  let proposalId ← requireText proposalId "proposal_id"
  let assessmentIds ← requireIds [assessmentId] "assessment_ids"
  let claimScope ← requireText claimScope "claim_scope"
  let rationale ← rejectForbidden rationale "rationale"
  let provenance ← rejectForbidden provenance "provenance"
  return ⟨proposalId, context.researchRunId, context.hypothesisId, context.experimentId,
    context.observationIds, assessmentIds, polarity, claimScope, rationale, provenance⟩

/-- `provenance` of a proposal. -/
def proposalProvenance (context : EvidenceAdmissionContext) (source : String)
    (assessmentId : Text) : Dict :=
  [("source".toList, .text source.toList), ("assessment_id".toList, .text assessmentId),
    ("experiment_id".toList, .text context.experimentId.val)]

/-- The polarity, the claim and the reason of a diagnostic echo. -/
def diagnosticEchoVerdict : AssessmentOutcome → Option (EvidencePolarity × Text × String)
  | .consistentWithPrediction => some (.supporting, diagnosticEchoMatchedClaim, "ECHO_MATCHED")
  | .contradictsPrediction =>
    some (.contradicting, diagnosticEchoMismatchedClaim, "ECHO_MISMATCHED")
  | _ => none

/-- `propose_diagnostic_echo_evidence`. -/
def proposeDiagnosticEchoEvidence (context : EvidenceAdmissionContext) (proposalId : Text) :
    Except String (Option EvidenceProposal) :=
  if context.evaluationStrategy.val ≠ diagnosticEchoStrategy then .ok none
  else if context.executionUnusable then .ok none
  else
    match context.assessmentId, context.assessmentOutcome with
    | some assessmentId, some outcome =>
      if context.observations = [] then .ok none
      else
        match diagnosticEchoVerdict outcome with
        | none => .ok none
        | some (polarity, claim, reason) =>
          let rationale : Dict :=
            [("reason_code".toList, .text reason.toList),
              ("evaluation_strategy".toList, .text context.evaluationStrategy.val),
              ("not_vulnerability_evidence".toList, .bool true)]
          some <$> EvidenceProposal.make context proposalId assessmentId polarity claim rationale
            (proposalProvenance context "diagnostic.echo.deterministic" assessmentId)
    | _, _ => .ok none

/-- The proposal of an HTTP strategy, which only supports its claim. -/
def proposeHttpEvidence (strategy claim : Text) (reason source : String)
    (context : EvidenceAdmissionContext) (proposalId : Text) :
    Except String (Option EvidenceProposal) :=
  if context.evaluationStrategy.val ≠ strategy then .ok none
  else if context.executionUnusable then .ok none
  else
    match context.assessmentId, context.assessmentOutcome with
    | some assessmentId, some outcome =>
      if context.observations = [] then .ok none
      else if outcome ≠ .consistentWithPrediction then .ok none
      else
        let rationale : Dict :=
          [("reason_code".toList, .text reason.toList),
            ("evaluation_strategy".toList, .text context.evaluationStrategy.val)]
        some <$> EvidenceProposal.make context proposalId assessmentId .supporting claim rationale
          (proposalProvenance context source assessmentId)
    | _, _ => .ok none

/-- `propose_authorization_differential_evidence`. -/
def proposeAuthorizationDifferentialEvidence :
    EvidenceAdmissionContext → Text → Except String (Option EvidenceProposal) :=
  proposeHttpEvidence httpAuthorizationDifferentialStrategy httpAuthorizationDifferentialClaim
    "AUTHORIZATION_DIFFERENTIAL_ESTABLISHED" "http.authorization.differential.deterministic"

/-- `propose_state_transition_evidence`. -/
def proposeStateTransitionEvidence :
    EvidenceAdmissionContext → Text → Except String (Option EvidenceProposal) :=
  proposeHttpEvidence httpStateTransitionStrategy httpStateTransitionClaim
    "UNAUTHORIZED_STATE_TRANSITION_ESTABLISHED" "http.state_transition.deterministic"

/-! ## Admission -/

/-- `EvidenceAdmissionOutcome`. -/
inductive EvidenceAdmissionOutcome where
  | admitted
  | rejectedInsufficientSupport
  | rejectedBrokenProvenance
  | rejectedExecutionUnusable
  | rejectedPolicyConflict
  | needsVerification
  deriving DecidableEq, Repr

/-- `EvidenceAdmissionDecision`. -/
structure EvidenceAdmissionDecision where
  outcome : EvidenceAdmissionOutcome
  reasonCodes : List String
  proposal : EvidenceProposal
  admitted : Bool

/-- `creates_evidence`. -/
def EvidenceAdmissionDecision.createsEvidence (decision : EvidenceAdmissionDecision) : Bool :=
  decision.outcome = .admitted && decision.admitted

section Admission

variable (proposal : EvidenceProposal) (context : EvidenceAdmissionContext)

/-- The code of an assessment that is not there, or that is not cited. -/
def assessmentCodes : List String :=
  match context.assessmentId with
  | none => ["ASSESSMENT_REQUIRED"]
  | some id =>
    if id ∈ proposal.assessmentIds.map (·.val) then [] else ["ASSESSMENT_NOT_REFERENCED"]

/-- The codes that are collected before anything is decided. -/
def admissionCodes : List String :=
  (if proposal.researchRunId ≠ context.researchRunId then ["WRONG_RESEARCH_RUN"] else []) ++
  (if proposal.hypothesisId ≠ context.hypothesisId then ["WRONG_HYPOTHESIS"] else []) ++
  (if proposal.experimentId ≠ context.experimentId then ["WRONG_EXPERIMENT"] else []) ++
  (if context.missingSourceIds ≠ [] then ["MISSING_SOURCE"] else []) ++
  (if (∃ id ∈ proposal.observationIds, id ∉ context.observationIds) ∨
      proposal.observationIds = [] then ["HALLUCINATED_OR_ABSENT_SOURCE"] else []) ++
  (if ∃ item ∈ context.observations, item.researchRunId ≠ context.researchRunId then
    ["OBSERVATION_WRONG_RUN"] else []) ++
  assessmentCodes proposal context

/-- A rejection of the proposal. -/
def rejection (outcome : EvidenceAdmissionOutcome) (codes : List String) :
    EvidenceAdmissionDecision := ⟨outcome, codes, proposal, false⟩

/-- The end of every branch. -/
def conclude (codes : List String) (admittedCode : String) : EvidenceAdmissionDecision :=
  if codes ≠ [] then rejection proposal .rejectedInsufficientSupport codes
  else ⟨.admitted, [admittedCode], proposal, true⟩

/-- The admission of evidence of an HTTP strategy. -/
def admitHttpEvidence (claim otherClaim : Text) (notEstablished intact : String)
    (codes : List String) : EvidenceAdmissionDecision :=
  if context.assessmentOutcome ≠ some .consistentWithPrediction then
    rejection proposal .rejectedInsufficientSupport (notEstablished :: codes)
  else if proposal.claimScope.val ≠ claim then
    rejection proposal .rejectedPolicyConflict ("CLAIM_EXCEEDS_SOURCES" :: codes)
  else if proposal.claimScope.val = otherClaim then
    rejection proposal .rejectedPolicyConflict ("CROSS_CLASS_CLAIM_REJECTED" :: codes)
  else if proposal.polarity ≠ .supporting then
    rejection proposal .rejectedInsufficientSupport ("POLARITY_DOES_NOT_SUPPORT_CLAIM" :: codes)
  else conclude proposal codes intact

/-- `_admit_http_authorization_evidence`. -/
def admitHttpAuthorizationEvidence : List String → EvidenceAdmissionDecision :=
  admitHttpEvidence proposal context httpAuthorizationDifferentialClaim httpStateTransitionClaim
    "DIFFERENTIAL_DOES_NOT_ESTABLISH_MISSING_OBJECT_ACCESS_CONTROL"
    "HTTP_AUTHORIZATION_DIFFERENTIAL_PROVENANCE_INTACT"

/-- `_admit_state_transition_evidence`. -/
def admitStateTransitionEvidence : List String → EvidenceAdmissionDecision :=
  admitHttpEvidence proposal context httpStateTransitionClaim httpAuthorizationDifferentialClaim
    "STATE_TRANSITION_DOES_NOT_ESTABLISH_WORKFLOW_BYPASS"
    "HTTP_STATE_TRANSITION_AUTHORIZATION_PROVENANCE_INTACT"

/-- The claim that the outcome of a diagnostic echo lets be made. -/
def expectedEchoClaim (outcome : Option AssessmentOutcome) : Text :=
  if outcome = some .consistentWithPrediction then diagnosticEchoMatchedClaim
  else diagnosticEchoMismatchedClaim

/-- The rest of `admit_evidence`: that of a diagnostic echo, which does not look at
the polarity. -/
def admitDiagnosticEchoEvidence (codes : List String) : EvidenceAdmissionDecision :=
  if context.assessmentOutcome ≠ some .consistentWithPrediction ∧
      context.assessmentOutcome ≠ some .contradictsPrediction then
    rejection proposal .rejectedInsufficientSupport
      ("ASSESSMENT_DOES_NOT_SUPPORT_EVIDENCE" :: codes)
  else if proposal.claimScope.val ≠ expectedEchoClaim context.assessmentOutcome then
    rejection proposal .rejectedPolicyConflict ("CLAIM_EXCEEDS_SOURCES" :: codes)
  else conclude proposal codes "DIAGNOSTIC_ECHO_PROVENANCE_INTACT"

/-- `admit_evidence`. -/
def admitEvidence : EvidenceAdmissionDecision :=
  let codes := admissionCodes proposal context
  if context.executionUnusable then
    rejection proposal .rejectedExecutionUnusable ("EXECUTION_UNUSABLE" :: codes)
  else if "WRONG_RESEARCH_RUN" ∈ codes ∨ "OBSERVATION_WRONG_RUN" ∈ codes ∨
      "MISSING_SOURCE" ∈ codes then
    rejection proposal .rejectedBrokenProvenance codes
  else if "HALLUCINATED_OR_ABSENT_SOURCE" ∈ codes then
    rejection proposal .rejectedBrokenProvenance codes
  else if context.evaluationStrategy.val ∉ supportedEvidenceStrategies then
    rejection proposal .rejectedPolicyConflict ("UNSUPPORTED_EVALUATION_STRATEGY" :: codes)
  else if context.evaluationStrategy.val = httpAuthorizationDifferentialStrategy then
    admitHttpAuthorizationEvidence proposal context codes
  else if context.evaluationStrategy.val = httpStateTransitionStrategy then
    admitStateTransitionEvidence proposal context codes
  else admitDiagnosticEchoEvidence proposal context codes

end Admission

end Zest.Evidence

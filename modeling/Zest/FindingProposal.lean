import Zest.CompleteVerification
import Zest.HuntQueue

/-! # Proposals of findings

A finding is proposed for a validated candidate, reviewed by a human, and created
when the review and a recorded approval of the same content agree.  This module
has the decisions; who calls them has still to write down what they say.
-/
namespace Zest.Findings

open Hunt Verification

inductive FindingProposalState where
  | proposed
  | humanReview
  | approved
  | rejected
  deriving DecidableEq, Repr

inductive FindingProposalAdmissionOutcome where
  | admitted
  | rejectedCandidateNotValidated
  | rejectedBrokenProvenance
  | rejectedPolicyConflict
  | rejectedValidationNotPassed
  deriving DecidableEq, Repr

inductive HumanReviewDecision where
  | approve
  | reject
  deriving DecidableEq, Repr

inductive FindingCreationOutcome where
  | created
  | rejectedProposal
  | rejectedMissingReview
  | rejectedMissingApproval
  | rejectedActor
  | rejectedSubjectMismatch
  | rejectedInconsistentDecisions
  | rejectedCandidateNotValidated
  | rejectedIllegalState
  deriving DecidableEq, Repr

/-- `LEGAL_FINDING_PROPOSAL_TRANSITIONS`. -/
def legalFindingProposalTransitions : List (FindingProposalState × FindingProposalState) :=
  [(.proposed, .humanReview), (.humanReview, .approved), (.humanReview, .rejected)]

/-- `transition_finding_proposal`. -/
def transitionFindingProposal (current target : FindingProposalState) :
    Except String FindingProposalState :=
  if (current, target) ∈ legalFindingProposalTransitions then .ok target
  else .error "illegal FindingProposal transition"

/-- `start_finding_proposal_review`. -/
def startFindingProposalReview (current : FindingProposalState) :
    Except String FindingProposalState :=
  transitionFindingProposal current .humanReview

/-- `_require_text`: the text without the blanks around it. -/
def requireText (value : Text) (field : String) : Except String Text :=
  if value.strip = [] then .error s!"{field} must be a non-empty string" else .ok value.strip

/-- `_require_ids`. -/
def requireIds (value : List Text) (field : String) : Except String (List Text) :=
  value.zipIdx.mapM fun item => requireText item.1 s!"{field}[{item.2}]"

/-- What the fingerprint of a proposal is computed from. -/
structure ProposalContent where
  candidateId : Id
  title : Text
  claim : Text
  evidenceIds : List Id
  verificationIds : List Id
  deriving DecidableEq

/-- `approval_subject_for`. -/
def approvalSubjectFor (proposalId : Id) (contentFingerprint : Text) : ApprovalSubject :=
  .other ("finding-proposal:".toList ++ (Nat.repr proposalId).toList ++ ":".toList ++
    contentFingerprint)

structure ImpactClaim where
  claimText : Text
  impactKind : Text
  chainId : Text

structure FindingProposalDraft where
  proposalId : Id
  candidateId : Id
  researchRunId : Id
  title : Text
  claim : Text
  evidenceIds : List Id
  verificationIds : List Id
  impactClaims : List ImpactClaim

def FindingProposalDraft.content (draft : FindingProposalDraft) : ProposalContent :=
  ⟨draft.candidateId, draft.title, draft.claim, draft.evidenceIds, draft.verificationIds⟩

structure FindingProposalAdmissionContext where
  candidateId : Id
  candidateState : CandidateState
  researchRunId : Id
  evidenceIds : List Id
  verificationIds : List Id
  classification : Text

structure FindingProposalAdmissionDecision where
  outcome : FindingProposalAdmissionOutcome
  reasonCodes : List String
  draft : FindingProposalDraft
  admitted : Bool
  initialState : Option FindingProposalState

def FindingProposalAdmissionDecision.createsProposal
    (decision : FindingProposalAdmissionDecision) : Bool :=
  decision.outcome = .admitted && decision.admitted

/-! ## What is proposed -/

def diagnosticFindingProposalTitle : Text := "Diagnostic echo verification proposal".toList

def httpAuthorizationDifferentialFindingTitle : Text :=
  "Local lab missing object authorization on account read".toList

def httpStateTransitionFindingTitle : Text :=
  "Local lab unauthorized workflow state transition".toList

/-- `DIAGNOSTIC_CANDIDATE_CLAIM`. -/
def diagnosticCandidateClaim : Text :=
  "diagnostic echo observation matched the executed plan".toList

/-- `HTTP_AUTHORIZATION_DIFFERENTIAL_CANDIDATE_CLAIM`. -/
def httpAuthorizationDifferentialCandidateClaim : Text :=
  ("Authenticated actor can read another actor's account object because object " ++
    "authorization is missing on the vulnerable endpoint.").toList

/-- `HTTP_STATE_TRANSITION_CANDIDATE_CLAIM`. -/
def httpStateTransitionCandidateClaim : Text :=
  ("Authenticated requester performed an unauthorized workflow state transition " ++
    "because role or sequence authorization is missing on the workflow endpoint.").toList

/-- The text that stands for a class in the database. -/
def classificationText : Classification → Text
  | .diagnosticPlumbing => "DIAGNOSTIC_PLUMBING".toList
  | .httpAuthorizationDifferential => "HTTP_AUTHORIZATION_DIFFERENTIAL".toList
  | .httpStateTransitionAuthorization => "HTTP_STATE_TRANSITION_AUTHORIZATION".toList

/-- The draft for a validated candidate of one class, with the title and the
claim of that class. -/
def proposeFindingProposal (classification : Classification) (title claim : Text)
    (context : FindingProposalAdmissionContext) (proposalId : Id) :
    Option FindingProposalDraft :=
  if context.candidateState ≠ .validated then none
  else if context.classification ≠ classificationText classification then none
  else if context.evidenceIds = [] ∨ context.verificationIds = [] then none
  else some {
    proposalId := proposalId
    candidateId := context.candidateId
    researchRunId := context.researchRunId
    title := title
    claim := claim
    evidenceIds := context.evidenceIds
    verificationIds := context.verificationIds
    impactClaims := [] }

/-- `propose_diagnostic_finding_proposal`. -/
def proposeDiagnosticFindingProposal :
    FindingProposalAdmissionContext → Id → Option FindingProposalDraft :=
  proposeFindingProposal .diagnosticPlumbing diagnosticFindingProposalTitle
    diagnosticCandidateClaim

/-- `propose_authorization_differential_finding_proposal`. -/
def proposeAuthorizationDifferentialFindingProposal :
    FindingProposalAdmissionContext → Id → Option FindingProposalDraft :=
  proposeFindingProposal .httpAuthorizationDifferential httpAuthorizationDifferentialFindingTitle
    httpAuthorizationDifferentialCandidateClaim

/-- `propose_state_transition_finding_proposal`. -/
def proposeStateTransitionFindingProposal :
    FindingProposalAdmissionContext → Id → Option FindingProposalDraft :=
  proposeFindingProposal .httpStateTransitionAuthorization httpStateTransitionFindingTitle
    httpStateTransitionCandidateClaim

/-! ## Admission -/

/-- `set(ids) == set(ids')`. -/
def sameIds (ids ids' : List Id) : Bool :=
  ids.all (ids'.contains ·) && ids'.all (ids.contains ·)

/-- What an admitted draft of a class has to say, and the codes for it. -/
structure FindingPolicy where
  expectedTitle : Text
  expectedClaim : Text
  expectedClassification : Text
  admittedReason : String
  titleCode : String
  claimCode : String

/-- The policy for a class; a class that is not known has that of diagnostics. -/
def findingPolicy (classification : Text) : FindingPolicy :=
  if classification = classificationText .httpAuthorizationDifferential then {
    expectedTitle := httpAuthorizationDifferentialFindingTitle
    expectedClaim := httpAuthorizationDifferentialCandidateClaim
    expectedClassification := classificationText .httpAuthorizationDifferential
    admittedReason := "HTTP_AUTHORIZATION_DIFFERENTIAL_FINDING_PROPOSAL_FROM_VALIDATED_CANDIDATE"
    titleCode := "TITLE_NOT_HTTP_AUTHORIZATION_DIFFERENTIAL"
    claimCode := "CLAIM_NOT_HTTP_AUTHORIZATION_DIFFERENTIAL" }
  else if classification = classificationText .httpStateTransitionAuthorization then {
    expectedTitle := httpStateTransitionFindingTitle
    expectedClaim := httpStateTransitionCandidateClaim
    expectedClassification := classificationText .httpStateTransitionAuthorization
    admittedReason :=
      "HTTP_STATE_TRANSITION_AUTHORIZATION_FINDING_PROPOSAL_FROM_VALIDATED_CANDIDATE"
    titleCode := "TITLE_NOT_HTTP_STATE_TRANSITION_AUTHORIZATION"
    claimCode := "CLAIM_NOT_HTTP_STATE_TRANSITION_AUTHORIZATION" }
  else {
    expectedTitle := diagnosticFindingProposalTitle
    expectedClaim := diagnosticCandidateClaim
    expectedClassification := classificationText .diagnosticPlumbing
    admittedReason := "DIAGNOSTIC_FINDING_PROPOSAL_FROM_VALIDATED_CANDIDATE"
    titleCode := "TITLE_NOT_DIAGNOSTIC"
    claimCode := "CLAIM_NOT_DIAGNOSTIC" }

/-- What in a draft does not fit the candidate. -/
def provenanceCodes (draft : FindingProposalDraft) (context : FindingProposalAdmissionContext) :
    List String :=
  (if draft.candidateId ≠ context.candidateId then ["WRONG_CANDIDATE"] else []) ++
    (if draft.researchRunId ≠ context.researchRunId then ["WRONG_RESEARCH_RUN"] else []) ++
    (if sameIds draft.evidenceIds context.evidenceIds then [] else ["EVIDENCE_SET_MISMATCH"]) ++
    (if sameIds draft.verificationIds context.verificationIds then []
      else ["VERIFICATION_SET_MISMATCH"])

/-- `admit_finding_proposal`. -/
def admitFindingProposal (draft : FindingProposalDraft)
    (context : FindingProposalAdmissionContext) : FindingProposalAdmissionDecision :=
  let codes := provenanceCodes draft context
  let policy := findingPolicy context.classification
  let refused outcome codes : FindingProposalAdmissionDecision :=
    ⟨outcome, codes, draft, false, none⟩
  if context.candidateState ≠ .validated then
    refused .rejectedCandidateNotValidated ("CANDIDATE_NOT_VALIDATED" :: codes)
  else if draft.impactClaims.any (·.chainId.strip = []) then
    refused .rejectedPolicyConflict ("IMPACT_CHAIN_MISSING" :: codes)
  else if "WRONG_CANDIDATE" ∈ codes ∨ "WRONG_RESEARCH_RUN" ∈ codes then
    refused .rejectedBrokenProvenance codes
  else if "EVIDENCE_SET_MISMATCH" ∈ codes ∨ "VERIFICATION_SET_MISMATCH" ∈ codes then
    refused .rejectedBrokenProvenance codes
  else if draft.title ≠ policy.expectedTitle then
    refused .rejectedPolicyConflict (policy.titleCode :: codes)
  else if draft.claim ≠ policy.expectedClaim then
    refused .rejectedPolicyConflict (policy.claimCode :: codes)
  else if context.classification ≠ policy.expectedClassification then
    refused .rejectedPolicyConflict ("UNSUPPORTED_CLASSIFICATION" :: codes)
  else if codes ≠ [] then refused .rejectedBrokenProvenance codes
  else ⟨.admitted, [policy.admittedReason], draft, true, some .proposed⟩

/-! ## Review and approval -/

/-- `HumanReviewView`.  A fingerprint is the hexadecimal digest of a hash, which
has no blanks to lose. -/
structure HumanReviewView where
  reviewId : Id
  proposalId : Id
  contentFingerprint : Text
  decision : HumanReviewDecision
  reviewerId : Text
  actorType : ActorType
  reasonCodes : List Text
  note : Option Text

/-- `HumanReviewView.__post_init__`. -/
def HumanReviewView.make (view : HumanReviewView) : Except String HumanReviewView := do
  let reviewerId ← requireText view.reviewerId "reviewer_id"
  let reasonCodes ← requireIds view.reasonCodes "reason_codes"
  match view.note with
  | none => return { view with reviewerId, reasonCodes }
  | some note =>
    let note ← requireText note "note"
    return { view with reviewerId, reasonCodes, note := some note }

/-- `admit_human_review`. -/
def admitHumanReview (review : HumanReviewView) (proposalId : Id) (contentFingerprint : Text) :
    Except String Unit :=
  if review.proposalId ≠ proposalId then .error "human review proposal_id mismatch"
  else if review.contentFingerprint ≠ contentFingerprint then
    .error "human review content_fingerprint mismatch"
  else if review.actorType ≠ .humanOperator then .error "human review requires HUMAN_OPERATOR"
  else .ok ()

/-- `ApprovalDecision(review.decision.value)`. -/
def HumanReviewDecision.approvalDecision : HumanReviewDecision → ApprovalDecision
  | .approve => .approve
  | .reject => .reject

/-- `HumanReviewDecision(approval_decision.value)`. -/
def reviewDecision : ApprovalDecision → HumanReviewDecision
  | .approve => .approve
  | .reject => .reject

structure RecordedApprovalEvaluation where
  validRecord : Bool
  authorizes : Bool
  reasonCode : ApprovalReason
  approvalId : Option Id

/-- `evaluate_recorded_approval`. -/
def evaluateRecordedApproval (approval : Option ApprovalView)
    (requestedSubject : ApprovalSubject) : RecordedApprovalEvaluation :=
  let check := checkApproval approval requestedSubject
  match approval with
  | none => ⟨false, false, check.reasonCode, none⟩
  | some approval =>
    if check.reasonCode = .approvalRejected then
      ⟨true, false, check.reasonCode, some approval.approvalId⟩
    else if check.authorizes then ⟨true, true, check.reasonCode, some approval.approvalId⟩
    else ⟨false, false, check.reasonCode, some approval.approvalId⟩

structure FindingCreationContext where
  candidateId : Id
  candidateState : CandidateState
  researchRunId : Id
  proposalId : Id
  proposalState : FindingProposalState
  title : Text
  claim : Text
  evidenceIds : List Id
  verificationIds : List Id
  contentFingerprint : Text
  approvalSubject : ApprovalSubject
  humanReview : Option HumanReviewView
  approvalValidRecord : Bool
  approvalAuthorizes : Bool
  approvalSubjectMatches : Bool
  approvalDecision : Option HumanReviewDecision
  approvalActorType : Option ActorType

/-- `FindingCreationContext.__post_init__`. -/
def FindingCreationContext.make (context : FindingCreationContext) :
    Except String FindingCreationContext := do
  let title ← requireText context.title "title"
  let claim ← requireText context.claim "claim"
  return { context with title, claim }

structure FindingCreationDecision where
  outcome : FindingCreationOutcome
  reasonCodes : List String
  proposalState : FindingProposalState
  createsFinding : Bool

/-- The codes of a finding that is created. -/
def createdCodes (title claim : Text) : List String :=
  if title = httpAuthorizationDifferentialFindingTitle ∧
        claim = httpAuthorizationDifferentialCandidateClaim ∨
      title = httpStateTransitionFindingTitle ∧ claim = httpStateTransitionCandidateClaim then
    ["AUTHORIZED_LOCAL_LAB_FINDING"]
  else ["DIAGNOSTIC_PLUMBING_FINDING", "NOT_A_VULNERABILITY"]

/-- `evaluate_finding_creation`, where there is a review. -/
def evaluateReviewedFinding (context : FindingCreationContext) (review : HumanReviewView) :
    FindingCreationDecision :=
  let kept outcome code : FindingCreationDecision := ⟨outcome, [code], context.proposalState, false⟩
  if review.actorType ≠ .humanOperator ∨
      context.approvalActorType.any (· ≠ .humanOperator) then
    kept .rejectedActor "NON_HUMAN_ACTOR"
  else if review.proposalId ≠ context.proposalId ∨
      review.contentFingerprint ≠ context.contentFingerprint then
    kept .rejectedSubjectMismatch "REVIEW_CONTENT_MISMATCH"
  else if context.approvalValidRecord = false then
    kept .rejectedMissingApproval "APPROVAL_REQUIRED"
  else if context.approvalSubjectMatches = false then
    kept .rejectedSubjectMismatch "APPROVAL_SUBJECT_MISMATCH"
  else if context.approvalDecision ≠ some review.decision then
    kept .rejectedInconsistentDecisions "REVIEW_APPROVAL_DECISION_MISMATCH"
  else if review.decision = .reject then
    ⟨.rejectedProposal, ["HUMAN_REJECTED_PROPOSAL", "CANDIDATE_REMAINS_VALIDATED"], .rejected,
      false⟩
  else if context.approvalAuthorizes = false then
    ⟨.rejectedProposal, ["CORE_APPROVAL_REJECTED", "CANDIDATE_REMAINS_VALIDATED"], .rejected,
      false⟩
  else ⟨.created, createdCodes context.title context.claim, .approved, true⟩

/-- `evaluate_finding_creation`. -/
def evaluateFindingCreation (context : FindingCreationContext) : FindingCreationDecision :=
  if context.candidateState ≠ .validated then
    ⟨.rejectedCandidateNotValidated, ["CANDIDATE_NOT_VALIDATED"], context.proposalState, false⟩
  else if context.proposalState ≠ .humanReview then
    ⟨.rejectedIllegalState, ["PROPOSAL_NOT_IN_HUMAN_REVIEW"], context.proposalState, false⟩
  else
    match context.humanReview with
    | none => ⟨.rejectedMissingReview, ["HUMAN_REVIEW_REQUIRED"], context.proposalState, false⟩
    | some review => evaluateReviewedFinding context review

/-- The outcomes that `FinalizeFinding` does not write down. -/
def FindingCreationOutcome.refused : FindingCreationOutcome → Bool
  | .created | .rejectedProposal => false
  | _ => true

/-- `FindingCreationOutcome.value`. -/
def FindingCreationOutcome.value : FindingCreationOutcome → String
  | .created => "CREATED"
  | .rejectedProposal => "REJECTED_PROPOSAL"
  | .rejectedMissingReview => "REJECTED_MISSING_REVIEW"
  | .rejectedMissingApproval => "REJECTED_MISSING_APPROVAL"
  | .rejectedActor => "REJECTED_ACTOR"
  | .rejectedSubjectMismatch => "REJECTED_SUBJECT_MISMATCH"
  | .rejectedInconsistentDecisions => "REJECTED_INCONSISTENT_DECISIONS"
  | .rejectedCandidateNotValidated => "REJECTED_CANDIDATE_NOT_VALIDATED"
  | .rejectedIllegalState => "REJECTED_ILLEGAL_STATE"

/-! ## What the decisions rest on -/

theorem transitionFindingProposal_eq_ok {current target next : FindingProposalState} :
    transitionFindingProposal current target = .ok next ↔
      (current, target) ∈ legalFindingProposalTransitions ∧ next = target := by
  unfold transitionFindingProposal
  split
  next hlegal => simp [hlegal, eq_comm]
  next hillegal => simp [hillegal]

/-- `APPROVED` and `REJECTED` are final. -/
def FindingProposalState.Decided (state : FindingProposalState) : Prop :=
  state = .approved ∨ state = .rejected

theorem FindingProposalState.Decided.not_legal {current target : FindingProposalState}
    (h : current.Decided) : (current, target) ∉ legalFindingProposalTransitions := by
  rcases h with rfl | rfl <;> simp [legalFindingProposalTransitions]

/-- A context has the texts that it is made of, without the blanks around them. -/
theorem FindingCreationContext.make_eq_ok {context made : FindingCreationContext}
    (h : context.make = .ok made) :
    ∃ title claim, made = { context with title, claim } := by
  unfold FindingCreationContext.make at h
  obtain ⟨title, -, h⟩ := bind_eq_ok h
  obtain ⟨claim, -, h⟩ := bind_eq_ok h
  cases h
  exact ⟨title, claim, rfl⟩

/-- What a decision that is written down rests on: a review by a human of the
content that the proposal has, and an approval by a human that agrees with it. -/
structure Reviewed (context : FindingCreationContext) (review : HumanReviewView) : Prop where
  found : context.humanReview = some review
  state : context.proposalState = .humanReview
  actor : review.actorType = .humanOperator
  approvalActor : ∀ actorType ∈ context.approvalActorType, actorType = .humanOperator
  proposal : review.proposalId = context.proposalId
  fingerprint : review.contentFingerprint = context.contentFingerprint

theorem evaluateFindingCreation_not_refused {context : FindingCreationContext}
    (h : (evaluateFindingCreation context).outcome.refused = false) :
    ∃ review, Reviewed context review ∧
      (review.decision = .approve ∧ (evaluateFindingCreation context).proposalState = .approved ∧
          (evaluateFindingCreation context).createsFinding = true ∨
        (evaluateFindingCreation context).proposalState = .rejected ∧
          (evaluateFindingCreation context).createsFinding = false) := by
  unfold evaluateFindingCreation at h ⊢
  by_cases hvalid : context.candidateState ≠ .validated
  · rw [if_pos hvalid] at h
    cases h
  by_cases hstate : context.proposalState ≠ .humanReview
  · rw [if_neg hvalid, if_pos hstate] at h
    cases h
  rw [if_neg hvalid, if_neg hstate] at h ⊢
  cases hreview : context.humanReview with
  | none =>
    rw [hreview] at h
    cases h
  | some review =>
    rw [hreview] at h
    dsimp only at h ⊢
    unfold evaluateReviewedFinding at h ⊢
    by_cases hactor : review.actorType ≠ .humanOperator ∨
        context.approvalActorType.any (· ≠ .humanOperator)
    · rw [if_pos hactor] at h
      cases h
    by_cases hsubject : review.proposalId ≠ context.proposalId ∨
        review.contentFingerprint ≠ context.contentFingerprint
    · rw [if_neg hactor, if_pos hsubject] at h
      cases h
    by_cases hrecord : context.approvalValidRecord = false
    · rw [if_neg hactor, if_neg hsubject, if_pos hrecord] at h
      cases h
    by_cases hmatch : context.approvalSubjectMatches = false
    · rw [if_neg hactor, if_neg hsubject, if_neg hrecord, if_pos hmatch] at h
      cases h
    by_cases hsame : context.approvalDecision ≠ some review.decision
    · rw [if_neg hactor, if_neg hsubject, if_neg hrecord, if_neg hmatch, if_pos hsame] at h
      cases h
    rw [if_neg hactor, if_neg hsubject, if_neg hrecord, if_neg hmatch, if_neg hsame]
    refine ⟨review, ?_, ?_⟩
    · simp only [not_or, not_not] at hactor hsubject
      refine ⟨hreview, not_not.mp hstate, hactor.1, ?_, hsubject.1, hsubject.2⟩
      intro actorType hmem
      have hnone := hactor.2
      rw [Option.mem_def.mp hmem] at hnone
      simpa using hnone
    by_cases hreject : review.decision = .reject
    · rw [if_pos hreject]
      exact Or.inr ⟨rfl, rfl⟩
    have happrove : review.decision = .approve := by
      cases hdecision : review.decision with
      | approve => rfl
      | reject => exact absurd hdecision hreject
    by_cases hauthorizes : context.approvalAuthorizes = false
    · rw [if_neg hreject, if_pos hauthorizes]
      exact Or.inr ⟨rfl, rfl⟩
    · rw [if_neg hreject, if_neg hauthorizes]
      exact Or.inl ⟨happrove, rfl, rfl⟩

end Zest.Findings

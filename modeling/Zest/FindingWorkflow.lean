import Zest.FindingProposal
import Zest.Interleaving

/-! # The use cases that lead to a finding

Each use case is one unit of work: it reads, decides and writes, and is rolled
back when it raises.  Only the submission of a proposal that meets another one
for its candidate reads the other one in a second unit of work.

What a use case reads in tables that are not here comes with the call.
-/
namespace Zest.Findings

open Hunt Verification UnitOfWork

structure FindingProposalRecord where
  proposalId : Id
  candidateId : Id
  researchRunId : Id
  title : Text
  claim : Text
  classification : Classification
  state : FindingProposalState
  evidenceIds : List Id
  verificationIds : List Id
  contentFingerprint : Text
  impactChainIds : List Text

def FindingProposalRecord.content (record : FindingProposalRecord) : ProposalContent :=
  ⟨record.candidateId, record.title, record.claim, record.evidenceIds, record.verificationIds⟩

structure HumanReviewRecord where
  reviewId : Id
  proposalId : Id
  contentFingerprint : Text
  decision : HumanReviewDecision
  reviewerId : Text
  actorType : ActorType
  reasonCodes : List Text
  note : Option Text

structure ApprovalRecord where
  approvalId : Id
  subjectReference : ApprovalSubject
  decision : ApprovalDecision
  decidedBy : Text
  actorType : ActorType
  recorded : Bool
  researchRunId : Id
  proposalId : Id
  humanReviewId : Id

structure FindingRecord where
  findingId : Id
  findingProposalId : Id
  candidateId : Id
  researchRunId : Id
  approvalId : Id
  humanReviewId : Id
  title : Text
  claim : Text
  classification : Classification
  evidenceIds : List Id
  verificationIds : List Id

/-- The tables of the workflow, beside those that a verification uses. -/
structure FindingDatabase where
  core : Database
  findingProposals : List FindingProposalRecord
  humanReviews : List HumanReviewRecord
  approvals : List ApprovalRecord
  findings : List FindingRecord

/-- `one_or_none()`. -/
def oneOrNone {α : Type} : List α → Except String (Option α)
  | [] => .ok none
  | [row] => .ok (some row)
  | _ => .error "Multiple rows were found when one or none was required"

/-- What has become of an insert into `finding_proposal`. -/
inductive ProposalInsert where
  | inserted (db : FindingDatabase)
  | candidateConflict
  | conflict

namespace FindingDatabase

variable (db : FindingDatabase)

/-- `finding_proposals.get`. -/
def proposal (proposalId : Id) : Option FindingProposalRecord :=
  db.findingProposals.find? (·.proposalId = proposalId)

/-- `finding_proposals.list_for_candidate`. -/
def proposalsOf (candidateId : Id) : List FindingProposalRecord :=
  orderedBy (·.proposalId) (db.findingProposals.filter (·.candidateId = candidateId))

/-- `human_reviews.get_for_proposal`. -/
def reviewFor (proposalId : Id) : Except String (Option HumanReviewRecord) :=
  oneOrNone (db.humanReviews.filter (·.proposalId = proposalId))

/-- `approvals.get_by_subject`. -/
def approvalBySubject (subject : ApprovalSubject) : Except String (Option ApprovalRecord) :=
  oneOrNone (db.approvals.filter (·.subjectReference = subject))

/-- `findings.get_by_proposal`. -/
def findingFor (proposalId : Id) : Except String (Option FindingRecord) :=
  oneOrNone (db.findings.filter (·.findingProposalId = proposalId))

/-- `finding_proposals.insert`: the primary key, and `uq_finding_proposal_candidate`. -/
def insertProposal (record : FindingProposalRecord) : ProposalInsert :=
  if db.findingProposals.any (·.proposalId = record.proposalId) then .conflict
  else if db.findingProposals.any (·.candidateId = record.candidateId) then .candidateConflict
  else .inserted { db with findingProposals := db.findingProposals ++ [record] }

/-- `human_reviews.insert`: the primary key, and
`uq_human_review_proposal_fingerprint`. -/
def insertReview (record : HumanReviewRecord) : Except String FindingDatabase :=
  if db.humanReviews.any fun row => row.reviewId = record.reviewId ||
      row.proposalId = record.proposalId && row.contentFingerprint = record.contentFingerprint then
    .error "human review already recorded"
  else .ok { db with humanReviews := db.humanReviews ++ [record] }

/-- `approvals.insert`: the primary key, and `uq_approval_subject_reference`. -/
def insertApproval (record : ApprovalRecord) : Except String FindingDatabase :=
  if db.approvals.any fun row => row.approvalId = record.approvalId ||
      row.subjectReference = record.subjectReference then
    .error "persistence conflict"
  else .ok { db with approvals := db.approvals ++ [record] }

/-- `findings.insert`: the primary key, and `uq_finding_proposal_id`. -/
def insertFinding (record : FindingRecord) : Except String FindingDatabase :=
  if db.findings.any fun row => row.findingId = record.findingId ||
      row.findingProposalId = record.findingProposalId then
    .error "persistence conflict"
  else .ok { db with findings := db.findings ++ [record] }

/-- The row of a proposal with a new state. -/
def moved (proposalId : Id) (state : FindingProposalState) : FindingDatabase :=
  { db with
    findingProposals := db.findingProposals.map fun p =>
      if p.proposalId = proposalId then { p with state := state } else p }

/-- `finding_proposals.set_state`. -/
def setProposalState (proposalId : Id) (state : FindingProposalState) :
    Except String FindingDatabase :=
  if (db.findingProposals.filter (·.proposalId = proposalId)).length ≠ 1 then
    .error "finding_proposal not found for state update"
  else .ok (db.moved proposalId state)

end FindingDatabase

/-! ## Submitting a proposal -/

/-- `SubmitFindingProposalCommand`, the new id, and what is read elsewhere: what
the validation tiers say of the candidate, and whether an impact chain is one of
the run that is valid. -/
structure SubmitFindingProposal where
  candidateId : Id
  draft : Option FindingProposalDraft
  newProposalId : Id
  readValidation : CandidateRecord → Except String (Bool × List String)
  checkImpactChain : Id → Text → Except String Unit

structure SubmitFindingProposalResult where
  outcome : FindingProposalAdmissionOutcome
  proposalId : Option Id
  state : Option FindingProposalState
  reasonCodes : List String

/-- The answer for a proposal that is there already. -/
def proposalAlreadyRecorded (record : FindingProposalRecord) : SubmitFindingProposalResult :=
  ⟨.admitted, some record.proposalId, some record.state, ["FINDING_PROPOSAL_ALREADY_RECORDED"]⟩

namespace SubmitFindingProposal

variable (contentFingerprint : ProposalContent → Text) (call : SubmitFindingProposal)

def admissionContext (db : FindingDatabase) (candidate : CandidateRecord) :
    FindingProposalAdmissionContext where
  candidateId := candidate.candidateId
  candidateState := candidate.state
  researchRunId := candidate.researchRunId
  evidenceIds := candidate.evidenceIds
  verificationIds := (db.core.verificationsOf candidate.candidateId).map (·.verificationId)
  classification := classificationText candidate.classification

/-- The draft of the command, or the one for the class of the candidate. -/
def draftFor (context : FindingProposalAdmissionContext) : Option FindingProposalDraft :=
  call.draft.or <| (proposeDiagnosticFindingProposal context call.newProposalId).or <|
    (proposeAuthorizationDifferentialFindingProposal context call.newProposalId).or <|
      proposeStateTransitionFindingProposal context call.newProposalId

/-- `_validate_security_candidate_tiers`. -/
def validateSecurityCandidateTiers (candidate : CandidateRecord) :
    Except String (Option (Bool × List String)) :=
  if candidate.classification = .diagnosticPlumbing then .ok none
  else (call.readValidation candidate).map some

/-- `_validate_impact_claims`. -/
def validateImpactClaims (draft : FindingProposalDraft) : Except String (List Text) :=
  draft.impactClaims.mapM fun claim => do
    call.checkImpactChain draft.researchRunId claim.chainId
    return claim.chainId

/-- The row of an admitted draft. -/
def proposalRecord (candidate : CandidateRecord) (draft : FindingProposalDraft)
    (impactChainIds : List Text) : FindingProposalRecord where
  proposalId := draft.proposalId
  candidateId := draft.candidateId
  researchRunId := draft.researchRunId
  title := draft.title
  claim := draft.claim
  classification := candidate.classification
  state := .proposed
  evidenceIds := draft.evidenceIds
  verificationIds := draft.verificationIds
  contentFingerprint := contentFingerprint draft.content
  impactChainIds := impactChainIds

/-- The unit of work of an admitted draft; without an answer where the candidate
has a proposal. -/
def record (db : FindingDatabase) (candidate : CandidateRecord) (draft : FindingProposalDraft)
    (decision : FindingProposalAdmissionDecision) :
    Except String (FindingDatabase × Option SubmitFindingProposalResult) := do
  match ← call.validateSecurityCandidateTiers candidate with
  | some (false, reasonCodes) =>
    return (db, some ⟨.rejectedValidationNotPassed, none, none, reasonCodes⟩)
  | _ =>
    let impactChainIds ← call.validateImpactClaims draft
    match db.insertProposal (proposalRecord contentFingerprint candidate draft impactChainIds) with
    | .conflict => .error "persistence conflict"
    | .candidateConflict => return (db, none)
    | .inserted db =>
      return (db, some
        ⟨decision.outcome, some draft.proposalId, decision.initialState, decision.reasonCodes⟩)

/-- `SubmitFindingProposal.execute`, its first unit of work. -/
def submit (db : FindingDatabase) :
    Except String (FindingDatabase × Option SubmitFindingProposalResult) :=
  match db.core.candidate call.candidateId with
  | none => .error "candidate not found"
  | some candidate =>
    match db.proposalsOf candidate.candidateId with
    | record :: _ => .ok (db, some (proposalAlreadyRecorded record))
    | [] =>
      let context := admissionContext db candidate
      match call.draftFor context with
      | none => .error "no FindingProposal can be built from this Candidate"
      | some draft =>
        let decision := admitFindingProposal draft context
        if decision.createsProposal = false then
          .ok (db, some ⟨decision.outcome, none, decision.initialState, decision.reasonCodes⟩)
        else if decision.initialState ≠ some .proposed then .error "AssertionError"
        else call.record contentFingerprint db candidate draft decision

/-- `_reload_existing`. -/
def reloadExisting (db : FindingDatabase) :
    Except String (FindingDatabase × SubmitFindingProposalResult) :=
  match db.proposalsOf call.candidateId with
  | [] => .error "finding proposal uniqueness conflict but no FindingProposal exists"
  | record :: _ => .ok (db, proposalAlreadyRecorded record)

end SubmitFindingProposal

/-! ## The review -/

structure StartHumanReviewResult where
  proposalId : Id
  state : FindingProposalState

/-- `StartHumanReview.execute`. -/
def startHumanReview (proposalId : Id) (db : FindingDatabase) :
    Except String (FindingDatabase × StartHumanReviewResult) :=
  match db.proposal proposalId with
  | none => .error "finding proposal not found"
  | some proposal => do
    let next ← startFindingProposalReview proposal.state
    let db ← db.setProposalState proposal.proposalId next
    return (db, ⟨proposal.proposalId, next⟩)

/-- `RecordHumanReviewCommand`, and the new id. -/
structure RecordHumanReview where
  proposalId : Id
  reviewerId : Text
  actorType : ActorType
  decision : HumanReviewDecision
  reasonCodes : List Text
  note : Option Text
  newReviewId : Id

structure RecordHumanReviewResult where
  reviewId : Id
  proposalId : Id
  decision : HumanReviewDecision

namespace RecordHumanReview

variable (call : RecordHumanReview)

/-- The row of a review. -/
def reviewRecord (proposal : FindingProposalRecord) : HumanReviewRecord where
  reviewId := call.newReviewId
  proposalId := proposal.proposalId
  contentFingerprint := proposal.contentFingerprint
  decision := call.decision
  reviewerId := call.reviewerId
  actorType := call.actorType
  reasonCodes := call.reasonCodes
  note := call.note

end RecordHumanReview

/-- The review as the decisions see it. -/
def HumanReviewRecord.view (record : HumanReviewRecord) : Except String HumanReviewView :=
  HumanReviewView.make {
    reviewId := record.reviewId
    proposalId := record.proposalId
    contentFingerprint := record.contentFingerprint
    decision := record.decision
    reviewerId := record.reviewerId
    actorType := record.actorType
    reasonCodes := record.reasonCodes
    note := record.note }

/-- `RecordHumanReview.execute`. -/
def RecordHumanReview.execute (call : RecordHumanReview) (db : FindingDatabase) :
    Except String (FindingDatabase × RecordHumanReviewResult) :=
  match db.proposal call.proposalId with
  | none => .error "finding proposal not found"
  | some proposal =>
    if proposal.state ≠ .humanReview then .error "finding proposal is not in HUMAN_REVIEW"
    else do
      match ← db.reviewFor proposal.proposalId with
      | some existing =>
        if existing.contentFingerprint ≠ proposal.contentFingerprint then
          .error "existing review fingerprint mismatch"
        else return (db, ⟨existing.reviewId, existing.proposalId, existing.decision⟩)
      | none =>
        let view ← (call.reviewRecord proposal).view
        admitHumanReview view proposal.proposalId proposal.contentFingerprint
        let db ← db.insertReview (call.reviewRecord proposal)
        return (db, ⟨call.newReviewId, proposal.proposalId, call.decision⟩)

/-! ## The approval and the finding -/

/-- `FinalizeFindingCommand`, and the new ids. -/
structure FinalizeFinding where
  proposalId : Id
  decidedBy : Text
  actorType : ActorType
  newApprovalId : Id
  newFindingId : Id

structure FinalizeFindingResult where
  outcome : FindingCreationOutcome
  proposalId : Id
  proposalState : FindingProposalState
  findingId : Option Id
  approvalId : Option Id
  reasonCodes : List String

def FindingProposalRecord.subject (proposal : FindingProposalRecord) : ApprovalSubject :=
  approvalSubjectFor proposal.proposalId proposal.contentFingerprint

namespace FinalizeFinding

variable (call : FinalizeFinding)

/-- The `ApprovalView` of a review that there is. -/
def approvalView (proposal : FindingProposalRecord) (review : HumanReviewView) :
    Except String ApprovalView :=
  if call.decidedBy.strip = [] then .error "decided_by must be a non-empty opaque id"
  else .ok {
    approvalId := call.newApprovalId
    subjectReference := proposal.subject
    decision := review.decision.approvalDecision
    actorType := call.actorType
    recorded := true }

/-- The inputs of the decision. -/
def creationContext (proposal : FindingProposalRecord) (candidate : CandidateRecord)
    (review : Option HumanReviewView) (approval : Option ApprovalView) : FindingCreationContext :=
  let evaluation := evaluateRecordedApproval approval proposal.subject
  { candidateId := candidate.candidateId
    candidateState := candidate.state
    researchRunId := candidate.researchRunId
    proposalId := proposal.proposalId
    proposalState := proposal.state
    title := proposal.title
    claim := proposal.claim
    evidenceIds := proposal.evidenceIds
    verificationIds := proposal.verificationIds
    contentFingerprint := proposal.contentFingerprint
    approvalSubject := proposal.subject
    humanReview := review
    approvalValidRecord := evaluation.validRecord
    approvalAuthorizes := evaluation.authorizes
    approvalSubjectMatches := approval.any (·.subjectReference = proposal.subject)
    approvalDecision := review.map fun review => reviewDecision review.decision.approvalDecision
    approvalActorType := some call.actorType }

def approvalRecord (proposal : FindingProposalRecord) (approval : ApprovalView)
    (review : HumanReviewView) : ApprovalRecord where
  approvalId := call.newApprovalId
  subjectReference := proposal.subject
  decision := approval.decision
  decidedBy := call.decidedBy
  actorType := call.actorType
  recorded := true
  researchRunId := proposal.researchRunId
  proposalId := proposal.proposalId
  humanReviewId := review.reviewId

def findingRecord (proposal : FindingProposalRecord) (candidate : CandidateRecord)
    (review : HumanReviewView) : FindingRecord where
  findingId := call.newFindingId
  findingProposalId := proposal.proposalId
  candidateId := candidate.candidateId
  researchRunId := proposal.researchRunId
  approvalId := call.newApprovalId
  humanReviewId := review.reviewId
  title := proposal.title
  claim := proposal.claim
  classification := proposal.classification
  evidenceIds := proposal.evidenceIds
  verificationIds := proposal.verificationIds

/-- The writes of a decision. -/
def record (db : FindingDatabase) (proposal : FindingProposalRecord) (candidate : CandidateRecord)
    (creation : FindingCreationDecision) (review : HumanReviewView) (approval : ApprovalView) :
    Except String (FindingDatabase × FinalizeFindingResult) := do
  let next ← transitionFindingProposal proposal.state creation.proposalState
  let db ← db.insertApproval (call.approvalRecord proposal approval review)
  let db ← db.setProposalState proposal.proposalId next
  let result findingId : FinalizeFindingResult :=
    ⟨creation.outcome, proposal.proposalId, next, findingId, some call.newApprovalId,
      creation.reasonCodes⟩
  if creation.createsFinding then
    let db ← db.insertFinding (call.findingRecord proposal candidate review)
    return (db, result (some call.newFindingId))
  else return (db, result none)

/-- The decision on a proposal that is not decided. -/
def decide (db : FindingDatabase) (proposal : FindingProposalRecord) :
    Except String (FindingDatabase × FinalizeFindingResult) :=
  match db.core.candidate proposal.candidateId with
  | none => .error "candidate not found"
  | some candidate => do
    let reviewRecord ← db.reviewFor proposal.proposalId
    let review ← reviewRecord.mapM HumanReviewRecord.view
    let approval ← review.mapM (call.approvalView proposal)
    let context ← (call.creationContext proposal candidate review approval).make
    let creation := evaluateFindingCreation context
    if creation.outcome.refused then
      .error ("finding finalization rejected: " ++ creation.outcome.value)
    else
      match review, approval with
      | some review, some approval => call.record db proposal candidate creation review approval
      | _, _ => .error "finding finalization rejected: missing review"

/-- `FinalizeFinding.execute`. -/
def execute (db : FindingDatabase) : Except String (FindingDatabase × FinalizeFindingResult) :=
  match db.proposal call.proposalId with
  | none => .error "finding proposal not found"
  | some proposal => do
    match ← db.findingFor proposal.proposalId with
    | some existing =>
      return (db, ⟨.created, proposal.proposalId, .approved, some existing.findingId,
        some existing.approvalId, ["IDEMPOTENT_EXISTING_FINDING"]⟩)
    | none =>
      match proposal.state with
      | .rejected =>
        let approval ← db.approvalBySubject proposal.subject
        return (db, ⟨.rejectedProposal, proposal.proposalId, .rejected, none,
          approval.map (·.approvalId), ["IDEMPOTENT_REJECTED_PROPOSAL"]⟩)
      | .approved => .error "approved proposal is missing Finding provenance"
      | _ => call.decide db proposal

end FinalizeFinding

/-! ## The calls -/

/-- `CompleteCandidateVerification.execute`, which leaves the tables of the
workflow as they are. -/
def completeVerification (command : CompleteCandidateVerificationCommand) (verificationId : Id)
    (db : FindingDatabase) :
    Except String (FindingDatabase × CompleteCandidateVerificationResult) := do
  let (core, result) ← db.core.execute command verificationId
  return ({ db with core := core }, result)

inductive FindingCall where
  | submitFindingProposal (call : SubmitFindingProposal)
  | startHumanReview (proposalId : Id)
  | recordHumanReview (call : RecordHumanReview)
  | finalizeFinding (call : FinalizeFinding)
  | completeCandidateVerification (command : CompleteCandidateVerificationCommand)
      (verificationId : Id)

inductive FindingResult where
  | submitted (result : SubmitFindingProposalResult)
  | started (result : StartHumanReviewResult)
  | recorded (result : RecordHumanReviewResult)
  | finalized (result : FinalizeFindingResult)
  | verified (result : CompleteCandidateVerificationResult)

/-- A call that is one unit of work. -/
def oneUnit {α : Type} (answer : α → FindingResult)
    (execute : FindingDatabase → Except String (FindingDatabase × α)) :
    Prog FindingDatabase (Except String FindingResult) :=
  .attempt fun db => (execute db).map fun done => (done.1, answer done.2)

/-- `SubmitFindingProposal.execute`. -/
def SubmitFindingProposal.program (contentFingerprint : ProposalContent → Text)
    (call : SubmitFindingProposal) : Prog FindingDatabase (Except String FindingResult) :=
  .tx (Prog.attempted (call.submit contentFingerprint)) fun answer =>
    match answer with
    | .error e => .done (.error e)
    | .ok (some result) => .done (.ok (.submitted result))
    | .ok none => oneUnit .submitted call.reloadExisting

def FindingCall.program (contentFingerprint : ProposalContent → Text) :
    FindingCall → Prog FindingDatabase (Except String FindingResult)
  | .submitFindingProposal call => call.program contentFingerprint
  | .startHumanReview proposalId => oneUnit .started (Findings.startHumanReview proposalId)
  | .recordHumanReview call => oneUnit .recorded call.execute
  | .finalizeFinding call => oneUnit .finalized call.execute
  | .completeCandidateVerification command verificationId =>
    oneUnit .verified (completeVerification command verificationId)

end Zest.Findings

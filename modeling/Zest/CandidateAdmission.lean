import Zest.EvidenceSoundness

/-! # Admission of candidates

A candidate is admitted on evidence that has been admitted.  Its classification
says which claim it makes, and at least one piece of the evidence that it cites
has to support just that claim.
-/
namespace Zest.CandidateAdmission

open Evidence
open ResearchSelection (Name)
open Verification (EvidencePolarity)

/-- `EvidencePolarity.value`. -/
def polarityValue : EvidencePolarity → Text
  | .supporting => "SUPPORTING".toList
  | .contradicting => "CONTRADICTING".toList
  | .neutral => "NEUTRAL".toList

/-- `DIAGNOSTIC_CANDIDATE_CLASSIFICATION`. -/
def diagnosticClassification : Text := "DIAGNOSTIC_PLUMBING".toList

/-- `HTTP_AUTHORIZATION_DIFFERENTIAL_CLASSIFICATION`. -/
def httpAuthorizationDifferentialClassification : Text :=
  "HTTP_AUTHORIZATION_DIFFERENTIAL".toList

/-- `HTTP_STATE_TRANSITION_CLASSIFICATION`. -/
def httpStateTransitionClassification : Text := "HTTP_STATE_TRANSITION_AUTHORIZATION".toList

/-- `ALLOWED_CANDIDATE_CLASSIFICATIONS`. -/
def allowedCandidateClassifications : List Text :=
  [diagnosticClassification, httpAuthorizationDifferentialClassification,
    httpStateTransitionClassification]

/-- `CandidateEvidenceRef`. -/
structure CandidateEvidenceRef where
  evidenceId : Name
  researchRunId : Name
  hypothesisId : Name
  experimentId : Name
  polarity : Name
  claimScope : Name
  deriving DecidableEq

/-- `CandidateProposal`, less its rationale and its provenance. -/
structure CandidateProposal where
  proposalId : Name
  researchRunId : Name
  hypothesisId : Name
  evidenceIds : List Name
  claim : Name
  classification : Name
  duplicateOfCandidateId : Option Name

/-- `CandidateAdmissionContext`. -/
structure CandidateAdmissionContext where
  researchRunId : Name
  hypothesisId : Name
  evidence : List CandidateEvidenceRef
  missingEvidenceIds : List Text
  authoritativeOutOfScope : Bool
  knownDuplicateCandidateId : Option Text

/-- `evidence_ids`. -/
def CandidateAdmissionContext.evidenceIds (context : CandidateAdmissionContext) : List Name :=
  context.evidence.map (·.evidenceId)

/-- `CandidateAdmissionOutcome`. -/
inductive CandidateAdmissionOutcome where
  | admitted
  | rejectedInsufficientSupport
  | rejectedBrokenProvenance
  | rejectedClaimExceedsEvidence
  | rejectedNotTestable
  | rejectedPolicyConflict
  deriving DecidableEq, Repr

/-- `CandidateAdmissionDecision`. -/
structure CandidateAdmissionDecision where
  outcome : CandidateAdmissionOutcome
  reasonCodes : List String
  proposal : CandidateProposal
  admitted : Bool
  initialState : Option CandidateState

section Admission

variable (proposal : CandidateProposal) (context : CandidateAdmissionContext)

/-- The code of the first piece of evidence that is of another run or hypothesis. -/
def evidenceCodes : List CandidateEvidenceRef → List String
  | [] => []
  | item :: rest =>
    if item.researchRunId ≠ context.researchRunId then ["EVIDENCE_WRONG_RUN"]
    else if item.hypothesisId ≠ context.hypothesisId then ["EVIDENCE_WRONG_HYPOTHESIS"]
    else evidenceCodes rest

/-- The codes that are collected before anything is decided. -/
def admissionCodes : List String :=
  (if proposal.researchRunId ≠ context.researchRunId then ["WRONG_RESEARCH_RUN"] else []) ++
  (if proposal.hypothesisId ≠ context.hypothesisId then ["WRONG_HYPOTHESIS"] else []) ++
  (if context.missingEvidenceIds ≠ [] then ["MISSING_EVIDENCE"] else []) ++
  (if (∃ id ∈ proposal.evidenceIds, id ∉ context.evidenceIds) ∨ proposal.evidenceIds = [] then
    ["HALLUCINATED_OR_ABSENT_EVIDENCE"] else []) ++
  evidenceCodes context context.evidence

/-- The evidence of the context that the proposal cites. -/
def cited : List CandidateEvidenceRef :=
  context.evidence.filter (·.evidenceId ∈ proposal.evidenceIds)

/-- `expected_claim`, and `expected_evidence_claim`: they are the same. -/
def expectedClaim (classification : Text) : Text :=
  if classification = httpAuthorizationDifferentialClassification then
    httpAuthorizationDifferentialClaim
  else if classification = httpStateTransitionClassification then httpStateTransitionClaim
  else diagnosticEchoMatchedClaim

/-- `supporting`. -/
def supporting : List CandidateEvidenceRef :=
  (cited proposal context).filter fun item =>
    item.polarity.val = polarityValue .supporting ∧
      item.claimScope.val = expectedClaim proposal.classification.val

/-- An HTTP classification with evidence of the claim of the other one. -/
def crossClass : Prop :=
  proposal.classification.val = httpStateTransitionClassification ∧
      httpAuthorizationDifferentialClaim ∈
        (cited proposal context).map (·.claimScope.val) ∨
    proposal.classification.val = httpAuthorizationDifferentialClassification ∧
      httpStateTransitionClaim ∈ (cited proposal context).map (·.claimScope.val)

instance decidableCrossClass : Decidable (crossClass proposal context) :=
  inferInstanceAs (Decidable (_ ∨ _))

/-- The code of a candidate that is admitted. -/
def admittedCode (classification : Text) : String :=
  if classification = httpStateTransitionClassification then
    "HTTP_STATE_TRANSITION_AUTHORIZATION_CANDIDATE_SEEDED_FROM_EVIDENCE"
  else if classification = httpAuthorizationDifferentialClassification then
    "HTTP_AUTHORIZATION_DIFFERENTIAL_CANDIDATE_SEEDED_FROM_EVIDENCE"
  else "DIAGNOSTIC_CANDIDATE_SEEDED_FROM_EVIDENCE"

/-- A rejection of the proposal. -/
def rejection (outcome : CandidateAdmissionOutcome) (codes : List String) :
    CandidateAdmissionDecision := ⟨outcome, codes, proposal, false, none⟩

/-- `admit_candidate` from its look at the first supporting piece on. -/
def admitSupported (first : CandidateEvidenceRef) (codes : List String) :
    CandidateAdmissionDecision :=
  if proposal.claim.val ≠ first.claimScope.val then
    rejection proposal .rejectedClaimExceedsEvidence ("CLAIM_EXCEEDS_EVIDENCE_SCOPE" :: codes)
  else if proposal.duplicateOfCandidateId.isSome ∧
      proposal.duplicateOfCandidateId.map (·.val) ≠ context.knownDuplicateCandidateId then
    rejection proposal .rejectedBrokenProvenance ("UNKNOWN_DUPLICATE_REFERENCE" :: codes)
  else if codes ≠ [] then rejection proposal .rejectedInsufficientSupport codes
  else ⟨.admitted, [admittedCode proposal.classification.val], proposal, true, some .open⟩

/-- `admit_candidate`. -/
def admitCandidate : CandidateAdmissionDecision :=
  let codes := admissionCodes proposal context
  if context.authoritativeOutOfScope then
    rejection proposal .rejectedPolicyConflict ("AUTHORITATIVE_OUT_OF_SCOPE" :: codes)
  else if "WRONG_RESEARCH_RUN" ∈ codes ∨ "EVIDENCE_WRONG_RUN" ∈ codes ∨
      "MISSING_EVIDENCE" ∈ codes then
    rejection proposal .rejectedBrokenProvenance codes
  else if "HALLUCINATED_OR_ABSENT_EVIDENCE" ∈ codes then
    rejection proposal .rejectedBrokenProvenance codes
  else if proposal.classification.val ∉ allowedCandidateClassifications then
    rejection proposal .rejectedNotTestable ("UNSUPPORTED_CANDIDATE_CLASSIFICATION" :: codes)
  else if crossClass proposal context then
    rejection proposal .rejectedNotTestable ("CROSS_CLASS_EVIDENCE_REJECTED" :: codes)
  else if proposal.claim.val ≠ expectedClaim proposal.classification.val then
    rejection proposal .rejectedNotTestable ("CLAIM_NOT_TESTABLE_FOR_CLASSIFICATION" :: codes)
  else
    match supporting proposal context with
    | [] =>
      rejection proposal .rejectedInsufficientSupport ("EVIDENCE_DOES_NOT_SUPPORT_CLAIM" :: codes)
    | first :: _ => admitSupported proposal context first codes

end Admission

/-! ## What is admitted -/

section Admitted

variable {proposal : CandidateProposal} {context : CandidateAdmissionContext}

theorem mem_cited {item : CandidateEvidenceRef} :
    item ∈ cited proposal context ↔
      item ∈ context.evidence ∧ item.evidenceId ∈ proposal.evidenceIds := by
  simp [cited]

/-- The walk over the evidence ends without a code. -/
theorem evidenceCodes_eq_nil {evidence : List CandidateEvidenceRef} :
    evidenceCodes context evidence = [] ↔ ∀ item ∈ evidence,
      item.researchRunId = context.researchRunId ∧ item.hypothesisId = context.hypothesisId := by
  induction evidence with
  | nil => simp [evidenceCodes]
  | cons item rest ih =>
    unfold evidenceCodes
    by_cases hrun : item.researchRunId = context.researchRunId
    · by_cases hhypothesis : item.hypothesisId = context.hypothesisId
      · simp [hrun, hhypothesis, ih]
      · simp [hrun, hhypothesis]
    · simp [hrun]

/-- What the proposal refers to is in order. -/
structure Referenced (proposal : CandidateProposal) (context : CandidateAdmissionContext) :
    Prop where
  run : proposal.researchRunId = context.researchRunId
  hypothesis : proposal.hypothesisId = context.hypothesisId
  nothingMissing : context.missingEvidenceIds = []
  resolved : ∀ id ∈ proposal.evidenceIds, id ∈ context.evidenceIds
  cites : proposal.evidenceIds ≠ []
  own : ∀ item ∈ context.evidence,
    item.researchRunId = context.researchRunId ∧ item.hypothesisId = context.hypothesisId

theorem admissionCodes_eq_nil :
    admissionCodes proposal context = [] ↔ Referenced proposal context := by
  simp only [admissionCodes, List.append_eq_nil_iff, ite_eq_right_iff, List.cons_ne_nil,
    imp_false, not_not, not_or, not_exists, not_and, and_assoc, evidenceCodes_eq_nil]
  constructor
  · rintro ⟨hrun, hhypothesis, hmissing, hresolved, hcites, hown⟩
    exact ⟨hrun, hhypothesis, hmissing, hresolved, hcites, hown⟩
  · rintro ⟨hrun, hhypothesis, hmissing, hresolved, hcites, hown⟩
    exact ⟨hrun, hhypothesis, hmissing, hresolved, hcites, hown⟩

/-- A candidate that the admission lets through: its claim is that of its
classification, some evidence that it cites supports just that claim, and evidence
of the other HTTP class is not among what it cites. -/
structure CandidateAdmissible (proposal : CandidateProposal)
    (context : CandidateAdmissionContext) : Prop where
  referenced : Referenced proposal context
  inScope : context.authoritativeOutOfScope = false
  classified : proposal.classification.val ∈ allowedCandidateClassifications
  oneClass : ¬ crossClass proposal context
  claimed : proposal.claim.val = expectedClaim proposal.classification.val
  supported : ∃ item ∈ cited proposal context, item.polarity.val = polarityValue .supporting ∧
    item.claimScope.val = proposal.claim.val
  duplicate : proposal.duplicateOfCandidateId.isSome →
    proposal.duplicateOfCandidateId.map (·.val) = context.knownDuplicateCandidateId

theorem mem_supporting {item : CandidateEvidenceRef} :
    item ∈ supporting proposal context ↔ item ∈ cited proposal context ∧
      item.polarity.val = polarityValue .supporting ∧
      item.claimScope.val = expectedClaim proposal.classification.val := by
  simp [supporting]

theorem admitSupported_admitted {first : CandidateEvidenceRef} {codes : List String} :
    (admitSupported proposal context first codes).admitted = true ↔
      proposal.claim.val = first.claimScope.val ∧
        (proposal.duplicateOfCandidateId.isSome →
          proposal.duplicateOfCandidateId.map (·.val) = context.knownDuplicateCandidateId) ∧
        codes = [] := by
  unfold admitSupported
  by_cases hclaim : proposal.claim.val = first.claimScope.val
  · rw [if_neg (not_not.mpr hclaim)]
    by_cases hduplicate : proposal.duplicateOfCandidateId.isSome ∧
        proposal.duplicateOfCandidateId.map (·.val) ≠ context.knownDuplicateCandidateId
    · rw [if_pos hduplicate]
      exact iff_of_false (by simp [rejection]) fun h => hduplicate.2 (h.2.1 hduplicate.1)
    · rw [if_neg hduplicate]
      have hknown : proposal.duplicateOfCandidateId.isSome →
          proposal.duplicateOfCandidateId.map (·.val) = context.knownDuplicateCandidateId :=
        fun hsome => not_not.mp fun hne => hduplicate ⟨hsome, hne⟩
      by_cases hcodes : codes = []
      · rw [if_neg (not_not.mpr hcodes)]
        exact iff_of_true rfl ⟨hclaim, hknown, hcodes⟩
      · rw [if_pos hcodes]
        exact iff_of_false (by simp [rejection]) fun h => hcodes h.2.2
  · rw [if_pos hclaim]
    exact iff_of_false (by simp [rejection]) fun h => hclaim h.1

/-- **What is admitted.** -/
theorem admitCandidate_admitted (hadmitted : (admitCandidate proposal context).admitted = true) :
    CandidateAdmissible proposal context := by
  unfold admitCandidate at hadmitted
  dsimp only at hadmitted
  split at hadmitted
  · cases hadmitted
  rename_i hscope
  split at hadmitted
  · cases hadmitted
  split at hadmitted
  · cases hadmitted
  split at hadmitted
  · cases hadmitted
  rename_i hclassified
  split at hadmitted
  · cases hadmitted
  rename_i hcross
  split at hadmitted
  · cases hadmitted
  rename_i hclaimed
  cases hsupporting : supporting proposal context with
  | nil =>
    rw [hsupporting] at hadmitted
    cases hadmitted
  | cons first rest =>
    rw [hsupporting] at hadmitted
    obtain ⟨hscoped, hduplicate, hcodes⟩ := admitSupported_admitted.mp hadmitted
    have hfirst : first ∈ supporting proposal context := by
      rw [hsupporting]
      exact List.mem_cons_self
    obtain ⟨hcited, hpolarity, -⟩ := mem_supporting.mp hfirst
    exact {
      referenced := admissionCodes_eq_nil.mp hcodes
      inScope := by simpa using hscope
      classified := not_not.mp hclassified
      oneClass := hcross
      claimed := not_not.mp hclaimed
      supported := ⟨first, hcited, hpolarity, hscoped.symm⟩
      duplicate := hduplicate }

/-- What an admitted candidate rests on. -/
structure Grounded (proposal : CandidateProposal) (context : CandidateAdmissionContext) :
    Prop where
  run : proposal.researchRunId = context.researchRunId
  hypothesis : proposal.hypothesisId = context.hypothesisId
  resolved : ∀ id ∈ proposal.evidenceIds, ∃ item ∈ context.evidence, item.evidenceId = id
  own : ∀ item ∈ cited proposal context, item.researchRunId = proposal.researchRunId ∧
    item.hypothesisId = proposal.hypothesisId
  claimed : proposal.claim.val = expectedClaim proposal.classification.val
  supported : ∃ item ∈ cited proposal context, item.polarity.val = polarityValue .supporting ∧
    item.claimScope.val = proposal.claim.val
  oneClass : ∀ item ∈ cited proposal context,
    (proposal.classification.val = httpStateTransitionClassification →
      item.claimScope.val ≠ httpAuthorizationDifferentialClaim) ∧
    (proposal.classification.val = httpAuthorizationDifferentialClassification →
      item.claimScope.val ≠ httpStateTransitionClaim)

/-- **An admitted candidate** has all its evidence from its run and its hypothesis,
some of it supports the claim, and none is of the other HTTP class. -/
theorem candidate_admission_grounded (proposal : CandidateProposal)
    (context : CandidateAdmissionContext)
    (hadmitted : (admitCandidate proposal context).admitted = true) :
    Grounded proposal context := by
  have h := admitCandidate_admitted hadmitted
  have hreferenced := h.referenced
  refine ⟨hreferenced.run, hreferenced.hypothesis, fun id hid => ?_, fun item hitem => ?_,
    h.claimed, h.supported, fun item hitem => ⟨fun hclass hclaim => ?_, fun hclass hclaim => ?_⟩⟩
  · exact List.mem_map.mp (hreferenced.resolved id hid)
  · obtain ⟨hrun, hhypothesis⟩ := hreferenced.own item (mem_cited.mp hitem).1
    exact ⟨hrun.trans hreferenced.run.symm, hhypothesis.trans hreferenced.hypothesis.symm⟩
  · exact h.oneClass (Or.inl ⟨hclass, List.mem_map.mpr ⟨item, hitem, hclaim⟩⟩)
  · exact h.oneClass (Or.inr ⟨hclass, List.mem_map.mpr ⟨item, hitem, hclaim⟩⟩)

end Admitted

theorem run_named : "run".toList ≠ [] ∧ Text.strip "run".toList = "run".toList := by
  decide

theorem hypothesis_named :
    "hypothesis".toList ≠ [] ∧ Text.strip "hypothesis".toList = "hypothesis".toList := by
  decide

theorem experiment_named :
    "experiment".toList ≠ [] ∧ Text.strip "experiment".toList = "experiment".toList := by
  decide

theorem polarity_named (polarity : EvidencePolarity) :
    polarityValue polarity ≠ [] ∧ Text.strip (polarityValue polarity) = polarityValue polarity := by
  cases polarity <;> decide

/-- Evidence of one run and one hypothesis. -/
def evidenceNamed (evidenceId : Name) (polarity : EvidencePolarity) (claimScope : Name) :
    CandidateEvidenceRef where
  evidenceId := evidenceId
  researchRunId := ⟨"run".toList, run_named⟩
  hypothesisId := ⟨"hypothesis".toList, hypothesis_named⟩
  experimentId := ⟨"experiment".toList, experiment_named⟩
  polarity := ⟨polarityValue polarity, polarity_named polarity⟩
  claimScope := claimScope

/-- Evidence that the echo matched, and evidence that another did not. -/
def mixedContext : CandidateAdmissionContext where
  researchRunId := ⟨"run".toList, run_named⟩
  hypothesisId := ⟨"hypothesis".toList, hypothesis_named⟩
  evidence :=
    [evidenceNamed ⟨"e1".toList, by decide⟩ .supporting
        ⟨diagnosticEchoMatchedClaim, matchedClaim_clean⟩,
      evidenceNamed ⟨"e2".toList, by decide⟩ .contradicting
        ⟨diagnosticEchoMismatchedClaim, by decide⟩]
  missingEvidenceIds := []
  authoritativeOutOfScope := false
  knownDuplicateCandidateId := none

theorem p1_named : "p1".toList ≠ [] ∧ Text.strip "p1".toList = "p1".toList := by
  decide

theorem diagnosticClassification_named :
    diagnosticClassification ≠ [] ∧
      Text.strip diagnosticClassification = diagnosticClassification := by
  decide

/-- A diagnostic candidate that cites both. -/
def mixedProposal : CandidateProposal where
  proposalId := ⟨"p1".toList, p1_named⟩
  researchRunId := mixedContext.researchRunId
  hypothesisId := mixedContext.hypothesisId
  evidenceIds := mixedContext.evidenceIds
  claim := ⟨diagnosticEchoMatchedClaim, matchedClaim_clean⟩
  classification := ⟨diagnosticClassification, diagnosticClassification_named⟩
  duplicateOfCandidateId := none

theorem mixedProposal_admitted : (admitCandidate mixedProposal mixedContext).admitted = true := by
  decide

theorem candidate_admission_grounded_mixed : Grounded mixedProposal mixedContext :=
  candidate_admission_grounded mixedProposal mixedContext mixedProposal_admitted

/-- A candidate is admitted although evidence that it cites contradicts its claim. -/
theorem contradicted_candidate_admitted :
    (admitCandidate mixedProposal mixedContext).admitted = true ∧
      ∃ item ∈ cited mixedProposal mixedContext,
        item.polarity.val = polarityValue .contradicting ∧
          item.claimScope.val ≠ mixedProposal.claim.val :=
  ⟨mixedProposal_admitted, evidenceNamed ⟨"e2".toList, by decide⟩ .contradicting
    ⟨diagnosticEchoMismatchedClaim, by decide⟩, mem_cited.mpr ⟨by simp [mixedContext],
      by decide⟩, rfl, by decide⟩

end Zest.CandidateAdmission

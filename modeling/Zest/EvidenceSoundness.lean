import Zest.EvidenceAdmission
import Zest.ExperimentIdentity
import Zest.Fallible

/-! # What is admitted as evidence

The admission collects its complaints first and decides afterwards, so that it is
one condition on the proposal and the context that is admitted, `Admissible`.
It says less of a diagnostic echo than of the HTTP strategies, and of the
assessments that are cited less than of the observations.
-/
namespace Zest.Evidence

open ResearchSelection (Name requireText)
open Verification (AssessmentOutcome EvidencePolarity)

/-! ## The property -/

/-- The polarity and the claim that a strategy may assert of an outcome. -/
def assertable (strategy : Text) (outcome : AssessmentOutcome) :
    Option (EvidencePolarity × Text) :=
  if strategy = diagnosticEchoStrategy then
    match outcome with
    | .consistentWithPrediction => some (.supporting, diagnosticEchoMatchedClaim)
    | .contradictsPrediction => some (.contradicting, diagnosticEchoMismatchedClaim)
    | _ => none
  else if outcome ≠ .consistentWithPrediction then none
  else if strategy = httpAuthorizationDifferentialStrategy then
    some (.supporting, httpAuthorizationDifferentialClaim)
  else if strategy = httpStateTransitionStrategy then some (.supporting, httpStateTransitionClaim)
  else none

/-- The proposal is about the context, cites what is there, and asserts what the
assessment supports. -/
structure Sound (proposal : EvidenceProposal) (context : EvidenceAdmissionContext) : Prop where
  run : proposal.researchRunId = context.researchRunId
  hypothesis : proposal.hypothesisId = context.hypothesisId
  experiment : proposal.experimentId = context.experimentId
  observations : ∀ id ∈ proposal.observationIds, id ∈ context.observationIds
  assessments : ∀ id ∈ proposal.assessmentIds, context.assessmentId = some id.val
  usable : context.assessmentOutcome ≠ some .executionUnusable
  asserted : ∃ outcome, context.assessmentOutcome = some outcome ∧
    assertable context.evaluationStrategy.val outcome =
      some (proposal.polarity, proposal.claimScope.val)

/-- The three `propose_*` functions. -/
def proposers : List (EvidenceAdmissionContext → Text → Except String (Option EvidenceProposal)) :=
  [proposeDiagnosticEchoEvidence, proposeAuthorizationDifferentialEvidence,
    proposeStateTransitionEvidence]

/-! ## What is admitted -/

/-- What the proposal refers to is in order. -/
structure Referenced (proposal : EvidenceProposal) (context : EvidenceAdmissionContext) :
    Prop where
  run : proposal.researchRunId = context.researchRunId
  hypothesis : proposal.hypothesisId = context.hypothesisId
  experiment : proposal.experimentId = context.experimentId
  sources : context.missingSourceIds = []
  cited : proposal.observationIds ≠ []
  observations : ∀ id ∈ proposal.observationIds, id ∈ context.observationIds
  ownRun : ∀ item ∈ context.observations, item.researchRunId = context.researchRunId
  assessment : ∃ id, context.assessmentId = some id ∧ id ∈ proposal.assessmentIds.map (·.val)

/-- An HTTP strategy supports its claim. -/
def SupportsClaim (strategy claim : Text) (proposal : EvidenceProposal)
    (context : EvidenceAdmissionContext) : Prop :=
  context.evaluationStrategy.val = strategy ∧
    context.assessmentOutcome = some .consistentWithPrediction ∧
    proposal.claimScope.val = claim ∧ proposal.polarity = .supporting

/-- A diagnostic echo makes the claim of its outcome, with whatever polarity. -/
def MakesEchoClaim (proposal : EvidenceProposal) (context : EvidenceAdmissionContext) : Prop :=
  context.evaluationStrategy.val = diagnosticEchoStrategy ∧
    (context.assessmentOutcome = some .consistentWithPrediction ∧
        proposal.claimScope.val = diagnosticEchoMatchedClaim ∨
      context.assessmentOutcome = some .contradictsPrediction ∧
        proposal.claimScope.val = diagnosticEchoMismatchedClaim)

/-- **What is admitted.** -/
structure Admissible (proposal : EvidenceProposal) (context : EvidenceAdmissionContext) :
    Prop where
  usable : context.executionUnusable = false
  referenced : Referenced proposal context
  claimed : MakesEchoClaim proposal context ∨
    SupportsClaim httpAuthorizationDifferentialStrategy httpAuthorizationDifferentialClaim
      proposal context ∨
    SupportsClaim httpStateTransitionStrategy httpStateTransitionClaim proposal context

section Admission

variable {proposal : EvidenceProposal} {context : EvidenceAdmissionContext}

theorem assessmentCodes_eq_nil :
    assessmentCodes proposal context = [] ↔
      ∃ id, context.assessmentId = some id ∧ id ∈ proposal.assessmentIds.map (·.val) := by
  unfold assessmentCodes
  cases context.assessmentId with
  | none => simp
  | some id =>
    dsimp only
    rw [ite_eq_left_iff]
    constructor
    · intro h
      exact ⟨id, rfl, not_not.mp fun hmem => List.cons_ne_nil _ _ (h hmem)⟩
    · rintro ⟨_, hid, hmem⟩
      cases hid
      exact fun h => absurd hmem h

/-- There are no complaints if what is referred to is in order. -/
theorem admissionCodes_eq_nil :
    admissionCodes proposal context = [] ↔ Referenced proposal context := by
  simp only [admissionCodes, List.append_eq_nil_iff, ite_eq_right_iff, List.cons_ne_nil,
    imp_false, not_not, not_or, not_exists, not_and, and_assoc, assessmentCodes_eq_nil]
  constructor
  · rintro ⟨hrun, hhypothesis, hexperiment, hsources, hobservations, hcited, hown, hassessment⟩
    exact ⟨hrun, hhypothesis, hexperiment, hsources, hcited, hobservations, hown, hassessment⟩
  · rintro ⟨hrun, hhypothesis, hexperiment, hsources, hcited, hobservations, hown, hassessment⟩
    exact ⟨hrun, hhypothesis, hexperiment, hsources, hobservations, hcited, hown, hassessment⟩

theorem conclude_admitted {codes : List String} {code : String} :
    (conclude proposal codes code).admitted = true ↔ codes = [] := by
  unfold conclude
  by_cases hcodes : codes = []
  · simp [hcodes]
  · simp [hcodes, rejection]

theorem admitHttpEvidence_admitted {claim otherClaim : Text} {notEstablished intact : String}
    {codes : List String} (hother : claim ≠ otherClaim) :
    (admitHttpEvidence proposal context claim otherClaim notEstablished intact codes).admitted =
        true ↔
      context.assessmentOutcome = some .consistentWithPrediction ∧
        proposal.claimScope.val = claim ∧ proposal.polarity = .supporting ∧ codes = [] := by
  unfold admitHttpEvidence
  by_cases houtcome : context.assessmentOutcome = some .consistentWithPrediction
  · by_cases hclaim : proposal.claimScope.val = claim
    · have hcross : ¬ proposal.claimScope.val = otherClaim := hclaim ▸ hother
      by_cases hpolarity : proposal.polarity = .supporting
      · rw [if_neg (not_not.mpr houtcome), if_neg (not_not.mpr hclaim), if_neg hcross,
          if_neg (not_not.mpr hpolarity), conclude_admitted]
        simp [houtcome, hclaim, hpolarity]
      · rw [if_neg (not_not.mpr houtcome), if_neg (not_not.mpr hclaim), if_neg hcross,
          if_pos hpolarity]
        simp [rejection, hpolarity]
    · rw [if_neg (not_not.mpr houtcome), if_pos hclaim]
      simp [rejection, hclaim]
  · rw [if_pos houtcome]
    simp [rejection, houtcome]

theorem admitDiagnosticEchoEvidence_admitted {codes : List String} :
    (admitDiagnosticEchoEvidence proposal context codes).admitted = true ↔
      (context.assessmentOutcome = some .consistentWithPrediction ∧
          proposal.claimScope.val = diagnosticEchoMatchedClaim ∨
        context.assessmentOutcome = some .contradictsPrediction ∧
          proposal.claimScope.val = diagnosticEchoMismatchedClaim) ∧ codes = [] := by
  unfold admitDiagnosticEchoEvidence
  by_cases hconsistent : context.assessmentOutcome = some .consistentWithPrediction
  · rw [if_neg (fun h => h.1 hconsistent), hconsistent]
    by_cases hclaim : proposal.claimScope.val = diagnosticEchoMatchedClaim
    · simp [expectedEchoClaim, hclaim, conclude_admitted]
    · simp [expectedEchoClaim, hclaim, rejection]
  · by_cases hcontradicts : context.assessmentOutcome = some .contradictsPrediction
    · rw [if_neg (fun h => h.2 hcontradicts), hcontradicts]
      by_cases hclaim : proposal.claimScope.val = diagnosticEchoMismatchedClaim
      · simp [expectedEchoClaim, hclaim, conclude_admitted]
      · simp [expectedEchoClaim, hclaim, rejection]
    · rw [if_pos ⟨hconsistent, hcontradicts⟩]
      simp [rejection, hconsistent, hcontradicts]

theorem supported_iff {strategy : Text} :
    strategy ∈ supportedEvidenceStrategies ↔ strategy = diagnosticEchoStrategy ∨
      strategy = httpAuthorizationDifferentialStrategy ∨
      strategy = httpStateTransitionStrategy := by
  simp [supportedEvidenceStrategies]

theorem strategies_ne :
    diagnosticEchoStrategy ≠ httpAuthorizationDifferentialStrategy ∧
      diagnosticEchoStrategy ≠ httpStateTransitionStrategy ∧
      httpAuthorizationDifferentialStrategy ≠ httpStateTransitionStrategy := by
  decide

set_option maxRecDepth 4000 in
theorem claims_ne : httpAuthorizationDifferentialClaim ≠ httpStateTransitionClaim := by
  decide

/-- `admit_evidence`, from the choice of the strategy on. -/
theorem admitStrategy_admitted {codes : List String}
    (hsupported : context.evaluationStrategy.val ∈ supportedEvidenceStrategies) :
    (if context.evaluationStrategy.val = httpAuthorizationDifferentialStrategy then
        admitHttpAuthorizationEvidence proposal context codes
      else if context.evaluationStrategy.val = httpStateTransitionStrategy then
        admitStateTransitionEvidence proposal context codes
      else admitDiagnosticEchoEvidence proposal context codes).admitted = true ↔
      (MakesEchoClaim proposal context ∨
        SupportsClaim httpAuthorizationDifferentialStrategy httpAuthorizationDifferentialClaim
          proposal context ∨
        SupportsClaim httpStateTransitionStrategy httpStateTransitionClaim proposal context) ∧
      codes = [] := by
  obtain ⟨hecho, hecho', hhttp⟩ := strategies_ne
  rcases supported_iff.mp hsupported with hs | hs | hs
  · rw [if_neg (hs ▸ hecho), if_neg (hs ▸ hecho'), admitDiagnosticEchoEvidence_admitted]
    simp [MakesEchoClaim, SupportsClaim, hs, hecho, hecho']
  · rw [if_pos hs, admitHttpAuthorizationEvidence, admitHttpEvidence_admitted claims_ne]
    simp [MakesEchoClaim, SupportsClaim, hs, hecho.symm, hhttp, and_assoc]
  · rw [if_neg (hs ▸ hhttp.symm), if_pos hs, admitStateTransitionEvidence,
      admitHttpEvidence_admitted claims_ne.symm]
    simp [MakesEchoClaim, SupportsClaim, hs, hecho'.symm, hhttp.symm, and_assoc]

/-- **The admission.** -/
theorem admitEvidence_admitted :
    (admitEvidence proposal context).admitted = true ↔ Admissible proposal context := by
  have hsplit : Admissible proposal context ↔ context.executionUnusable = false ∧
      (MakesEchoClaim proposal context ∨
        SupportsClaim httpAuthorizationDifferentialStrategy httpAuthorizationDifferentialClaim
          proposal context ∨
        SupportsClaim httpStateTransitionStrategy httpStateTransitionClaim proposal context) ∧
      admissionCodes proposal context = [] := by
    rw [admissionCodes_eq_nil]
    exact ⟨fun h => ⟨h.usable, h.claimed, h.referenced⟩, fun h => ⟨h.1, h.2.2, h.2.1⟩⟩
  rw [hsplit]
  unfold admitEvidence
  dsimp only
  by_cases husable : context.executionUnusable = true
  · simp [husable, rejection]
  rw [if_neg husable]
  by_cases hcodes : admissionCodes proposal context = []
  · rw [if_neg (by simp [hcodes]), if_neg (by simp [hcodes])]
    by_cases hsupported : context.evaluationStrategy.val ∈ supportedEvidenceStrategies
    · rw [if_neg (not_not.mpr hsupported), admitStrategy_admitted hsupported]
      simp [husable]
    · rw [if_pos hsupported]
      refine iff_of_false (by simp [rejection]) fun h => hsupported (supported_iff.mpr ?_)
      rcases h.2.1 with hclaimed | hclaimed | hclaimed
      · exact Or.inl hclaimed.1
      · exact Or.inr (Or.inl hclaimed.1)
      · exact Or.inr (Or.inr hclaimed.1)
  · -- a complaint rejects, here or at the end
    refine iff_of_false (fun h => ?_) fun h => hcodes h.2.2
    split at h
    · cases h
    split at h
    · cases h
    split at h
    · cases h
    rename_i hsupported
    rw [admitStrategy_admitted (not_not.mp hsupported)] at h
    exact hcodes h.2

/-! ## What may be asserted -/

theorem matchedClaim_clean :
    diagnosticEchoMatchedClaim ≠ [] ∧
      diagnosticEchoMatchedClaim.strip = diagnosticEchoMatchedClaim := by
  decide

set_option maxRecDepth 4000 in
/-- The claims have text, and no blanks around it. -/
theorem claim_clean {claim : Text}
    (h : claim ∈ [diagnosticEchoMatchedClaim, diagnosticEchoMismatchedClaim,
      httpAuthorizationDifferentialClaim, httpStateTransitionClaim]) :
    claim.strip = claim ∧ claim ≠ [] := by
  simp only [List.mem_cons, List.not_mem_nil, or_false] at h
  rcases h with h | h | h | h
  · exact h ▸ ⟨matchedClaim_clean.2, matchedClaim_clean.1⟩
  · rw [h]
    decide
  · rw [h]
    decide
  · rw [h]
    decide

/-- What may be asserted is a claim, of a strategy that is supported. -/
theorem assertable_claim {strategy : Text} {outcome : AssessmentOutcome}
    {polarity : EvidencePolarity} {claim : Text}
    (h : assertable strategy outcome = some (polarity, claim)) :
    strategy ∈ supportedEvidenceStrategies ∧ claim.strip = claim ∧ claim ≠ [] := by
  unfold assertable at h
  split at h
  · rename_i hs
    refine ⟨supported_iff.mpr (Or.inl hs), ?_⟩
    cases outcome
    · cases h
      exact claim_clean (by simp)
    · cases h
      exact claim_clean (by simp)
    all_goals cases h
  split at h
  · cases h
  split at h
  · rename_i hs
    cases h
    exact ⟨supported_iff.mpr (Or.inr (Or.inl hs)), claim_clean (by simp)⟩
  split at h
  · rename_i hs
    cases h
    exact ⟨supported_iff.mpr (Or.inr (Or.inr hs)), claim_clean (by simp)⟩
  · cases h

/-- What is asserted of the outcome is claimed, and with the polarity of the
outcome; it is the diagnostic echo that has to be asked for the polarity. -/
theorem asserted_iff :
    (∃ outcome, context.assessmentOutcome = some outcome ∧
      assertable context.evaluationStrategy.val outcome =
        some (proposal.polarity, proposal.claimScope.val)) ↔
      (MakesEchoClaim proposal context ∨
        SupportsClaim httpAuthorizationDifferentialStrategy httpAuthorizationDifferentialClaim
          proposal context ∨
        SupportsClaim httpStateTransitionStrategy httpStateTransitionClaim proposal context) ∧
      (context.evaluationStrategy.val = diagnosticEchoStrategy →
        (context.assessmentOutcome = some .consistentWithPrediction →
          proposal.polarity = .supporting) ∧
        (context.assessmentOutcome = some .contradictsPrediction →
          proposal.polarity = .contradicting)) := by
  obtain ⟨hecho, hecho', hhttp⟩ := strategies_ne
  by_cases hs : context.evaluationStrategy.val ∈ supportedEvidenceStrategies
  · cases hassessed : context.assessmentOutcome with
    | none => simp [MakesEchoClaim, SupportsClaim, hassessed]
    | some outcome =>
      rcases supported_iff.mp hs with hs | hs | hs
      · cases outcome
        all_goals
          simp [assertable, MakesEchoClaim, SupportsClaim, hassessed, hs, hecho, hecho', eq_comm,
            and_comm]
      · cases outcome
        all_goals
          simp [assertable, MakesEchoClaim, SupportsClaim, hassessed, hs, hecho.symm, hhttp,
            eq_comm, and_comm]
      · cases outcome
        all_goals
          simp [assertable, MakesEchoClaim, SupportsClaim, hassessed, hs, hecho'.symm,
            hhttp.symm, eq_comm, and_comm]
  · refine iff_of_false ?_ fun h => hs (supported_iff.mpr ?_)
    · rintro ⟨outcome, -, hasserted⟩
      exact hs (assertable_claim hasserted).1
    · rcases h.1 with hclaimed | hclaimed | hclaimed
      · exact Or.inl hclaimed.1
      · exact Or.inr (Or.inl hclaimed.1)
      · exact Or.inr (Or.inr hclaimed.1)

end Admission

/-! ## What is proposed -/

section Proposals

variable {context : EvidenceAdmissionContext}

/-- One of the functions makes a proposal of the context. -/
structure Answered (context : EvidenceAdmissionContext) : Prop where
  usable : context.executionUnusable = false
  observed : context.observations ≠ []
  assessed : ∃ id, context.assessmentId = some id ∧ id.strip ≠ []
  supports : ∃ outcome, context.assessmentOutcome = some outcome ∧
    (assertable context.evaluationStrategy.val outcome).isSome

/-- The draft is about the context, asserts what is given, and cites the
assessment without the blanks around its id. -/
structure Drafted (context : EvidenceAdmissionContext) (assessmentId : Text)
    (polarity : EvidencePolarity) (claim : Text) (draft : EvidenceProposal) : Prop where
  run : draft.researchRunId = context.researchRunId
  hypothesis : draft.hypothesisId = context.hypothesisId
  experiment : draft.experimentId = context.experimentId
  observations : draft.observationIds = context.observationIds
  assessments : draft.assessmentIds.map (·.val) = [assessmentId.strip]
  nonblank : assessmentId.strip ≠ []
  polarity : draft.polarity = polarity
  claim : draft.claimScope.val = claim.strip

theorem make_eq_ok {proposalId assessmentId claim : Text} {polarity : EvidencePolarity}
    {rationale provenance : Dict} {draft : EvidenceProposal}
    (h : EvidenceProposal.make context proposalId assessmentId polarity claim rationale provenance =
      .ok draft) : Drafted context assessmentId polarity claim draft := by
  obtain ⟨name, -, h⟩ := bind_eq_ok h
  obtain ⟨ids, hids, h⟩ := bind_eq_ok h
  obtain ⟨scope, hscope, h⟩ := bind_eq_ok h
  obtain ⟨_, -, h⟩ := bind_eq_ok h
  obtain ⟨_, -, h⟩ := bind_eq_ok h
  cases h
  obtain ⟨id, field, hid, hmade⟩ : ∃ id field, requireText assessmentId field = .ok id ∧
      ids = [id] := by
    rw [requireIds, List.zipIdx_singleton, List.mapM_cons] at hids
    obtain ⟨id, hid, hids⟩ := bind_eq_ok hids
    cases hids
    exact ⟨id, _, hid, rfl⟩
  subst hmade
  have hval := ResearchSelection.requireText_eq_ok hid
  refine ⟨rfl, rfl, rfl, rfl, ?_, ?_, rfl, ResearchSelection.requireText_eq_ok hscope⟩
  · rw [List.map_singleton, hval]
  · rw [← hval]
    exact id.property.1

/-- A proposal is made if its id and that of the assessment are not blank. -/
theorem exists_make {proposalId assessmentId claim : Text} {polarity : EvidencePolarity}
    {rationale provenance : Dict} (hproposal : proposalId.strip ≠ [])
    (hassessment : assessmentId.strip ≠ []) (hclaim : claim.strip ≠ [])
    (hrationale : rejectForbidden rationale "rationale" = .ok rationale)
    (hprovenance : rejectForbidden provenance "provenance" = .ok provenance) :
    ∃ draft, EvidenceProposal.make context proposalId assessmentId polarity claim rationale
      provenance = .ok draft := by
  have htext : ∀ {value : Text} (field : String) (h : value.strip ≠ []),
      requireText value field = .ok ⟨value.strip, h, Text.strip_strip value⟩ :=
    fun _ h => dif_neg h
  have hids : requireIds [assessmentId] "assessment_ids" =
      .ok [⟨assessmentId.strip, hassessment, Text.strip_strip assessmentId⟩] := by
    rw [requireIds, List.zipIdx_singleton, List.mapM_cons, htext _ hassessment]
    rfl
  unfold EvidenceProposal.make
  rw [htext _ hproposal, ok_bind, hids, ok_bind, htext _ hclaim, ok_bind, hrationale, ok_bind,
    hprovenance, ok_bind]
  exact ⟨_, rfl⟩

/-- What a function returns is a draft about an answered context. -/
def Proposes (context : EvidenceAdmissionContext) (draft : EvidenceProposal) : Prop :=
  context.executionUnusable = false ∧ context.observations ≠ [] ∧
    ∃ assessmentId outcome polarity claim, context.assessmentId = some assessmentId ∧
      context.assessmentOutcome = some outcome ∧
      assertable context.evaluationStrategy.val outcome = some (polarity, claim) ∧
      Drafted context assessmentId polarity claim draft

/-- The proposer of diagnostic echoes asserts what may be asserted. -/
theorem assertable_echo (outcome : AssessmentOutcome) :
    assertable diagnosticEchoStrategy outcome =
      (diagnosticEchoVerdict outcome).map fun verdict => (verdict.1, verdict.2.1) := by
  cases outcome
  all_goals simp [assertable, diagnosticEchoVerdict]

theorem proposes_of_echo {proposalId : Text} {draft : EvidenceProposal}
    (h : proposeDiagnosticEchoEvidence context proposalId = .ok (some draft)) :
    Proposes context draft := by
  unfold proposeDiagnosticEchoEvidence at h
  split at h
  · cases h
  rename_i hs
  split at h
  · cases h
  rename_i husable
  split at h
  · rename_i assessmentId outcome hid houtcome
    split at h
    · cases h
    rename_i hobserved
    split at h
    · cases h
    rename_i polarity claim reason hverdict
    dsimp only at h
    rw [map_eq_pure_bind] at h
    obtain ⟨made, hmade, h⟩ := bind_eq_ok h
    cases h
    refine ⟨by simpa using husable, hobserved, assessmentId, outcome, polarity, claim, hid,
      houtcome, ?_, make_eq_ok hmade⟩
    rw [not_not.mp hs, assertable_echo, hverdict]
    rfl
  · cases h

theorem proposes_of_http {strategy claim proposalId : Text} {reason source : String}
    {draft : EvidenceProposal}
    (hclaim : assertable strategy .consistentWithPrediction = some (.supporting, claim))
    (h : proposeHttpEvidence strategy claim reason source context proposalId = .ok (some draft)) :
    Proposes context draft := by
  unfold proposeHttpEvidence at h
  split at h
  · cases h
  rename_i hs
  split at h
  · cases h
  rename_i husable
  split at h
  · rename_i assessmentId outcome hid houtcome
    split at h
    · cases h
    rename_i hobserved
    split at h
    · cases h
    rename_i hconsistent
    dsimp only at h
    rw [map_eq_pure_bind] at h
    obtain ⟨made, hmade, h⟩ := bind_eq_ok h
    cases h
    obtain rfl := not_not.mp hs
    obtain rfl := not_not.mp hconsistent
    exact ⟨by simpa using husable, hobserved, assessmentId, _, _, claim, hid, houtcome, hclaim,
      make_eq_ok hmade⟩
  · cases h

theorem assertable_http :
    assertable httpAuthorizationDifferentialStrategy .consistentWithPrediction =
        some (.supporting, httpAuthorizationDifferentialClaim) ∧
      assertable httpStateTransitionStrategy .consistentWithPrediction =
        some (.supporting, httpStateTransitionClaim) := by
  obtain ⟨hecho, hecho', hhttp⟩ := strategies_ne
  simp [assertable, hecho.symm, hecho'.symm, hhttp.symm]

theorem proposes_of_proposed
    {propose : EvidenceAdmissionContext → Text → Except String (Option EvidenceProposal)}
    {proposalId : Text} {draft : EvidenceProposal} (hmem : propose ∈ proposers)
    (h : propose context proposalId = .ok (some draft)) : Proposes context draft := by
  simp only [proposers, List.mem_cons, List.not_mem_nil, or_false] at hmem
  rcases hmem with rfl | rfl | rfl
  · exact proposes_of_echo h
  · exact proposes_of_http assertable_http.1 h
  · exact proposes_of_http assertable_http.2 h

/-- A draft that is made is returned. -/
theorem exists_returned {made : Except String EvidenceProposal}
    (h : ∃ draft, made = .ok draft) : ∃ draft, some <$> made = .ok (some draft) := by
  obtain ⟨draft, rfl⟩ := h
  exact ⟨draft, rfl⟩

theorem exists_proposed_http {strategy claim assessmentId : Text} (reason source : String)
    (husable : context.executionUnusable = false) (hobserved : context.observations ≠ [])
    (hs : context.evaluationStrategy.val = strategy)
    (hid : context.assessmentId = some assessmentId) (hblank : assessmentId.strip ≠ [])
    (houtcome : context.assessmentOutcome = some .consistentWithPrediction)
    (hclaim : claim.strip ≠ []) :
    ∃ draft, proposeHttpEvidence strategy claim reason source context "p".toList =
      .ok (some draft) := by
  unfold proposeHttpEvidence
  rw [if_neg (not_not.mpr hs), if_neg (by simp [husable]), hid, houtcome]
  dsimp only
  rw [if_neg hobserved, if_neg (not_not.mpr rfl)]
  exact exists_returned (exists_make (by decide) hblank hclaim rfl rfl)

theorem exists_proposed_echo {assessmentId : Text} {outcome : AssessmentOutcome}
    {polarity : EvidencePolarity} {claim : Text}
    (husable : context.executionUnusable = false) (hobserved : context.observations ≠ [])
    (hs : context.evaluationStrategy.val = diagnosticEchoStrategy)
    (hid : context.assessmentId = some assessmentId) (hblank : assessmentId.strip ≠ [])
    (houtcome : context.assessmentOutcome = some outcome)
    (hasserted : assertable diagnosticEchoStrategy outcome = some (polarity, claim)) :
    ∃ draft, proposeDiagnosticEchoEvidence context "p".toList = .ok (some draft) := by
  obtain ⟨-, hstrip, hclaim⟩ := assertable_claim hasserted
  rw [assertable_echo] at hasserted
  obtain ⟨⟨polarity', claim', reason⟩, hverdict, hsame⟩ := Option.map_eq_some_iff.mp hasserted
  cases hsame
  unfold proposeDiagnosticEchoEvidence
  rw [if_neg (not_not.mpr hs), if_neg (by simp [husable]), hid, houtcome]
  dsimp only
  rw [if_neg hobserved, hverdict]
  exact exists_returned (exists_make (by decide) hblank (by rwa [hstrip]) rfl rfl)

/-- A context that is answered gets a proposal. -/
theorem exists_proposed (h : Answered context) :
    ∃ propose ∈ proposers, ∃ proposalId draft, propose context proposalId = .ok (some draft) := by
  obtain ⟨id, hid, hblank⟩ := h.assessed
  obtain ⟨outcome, houtcome, hsupports⟩ := h.supports
  obtain ⟨⟨polarity, claim⟩, hasserted⟩ := Option.isSome_iff_exists.mp hsupports
  obtain ⟨hsupported, -, -⟩ := assertable_claim hasserted
  obtain ⟨hecho, hecho', hhttp⟩ := strategies_ne
  have hnonblank : ∀ {strategy claim : Text} {polarity : EvidencePolarity},
      assertable strategy .consistentWithPrediction = some (polarity, claim) →
        claim.strip ≠ [] := by
    intro strategy claim polarity hclaim
    obtain ⟨-, hstrip, hne⟩ := assertable_claim hclaim
    rwa [hstrip]
  -- an HTTP strategy supports only what is consistent
  have hconsistent : context.evaluationStrategy.val ≠ diagnosticEchoStrategy →
      outcome = .consistentWithPrediction := by
    intro hs
    by_contra hother
    unfold assertable at hasserted
    rw [if_neg hs, if_pos hother] at hasserted
    cases hasserted
  rcases supported_iff.mp hsupported with hs | hs | hs
  · rw [hs] at hasserted
    obtain ⟨draft, hdraft⟩ :=
      exists_proposed_echo h.usable h.observed hs hid hblank houtcome hasserted
    exact ⟨_, List.mem_cons_self, _, draft, hdraft⟩
  · rw [hconsistent (hs ▸ hecho.symm)] at houtcome
    obtain ⟨draft, hdraft⟩ := exists_proposed_http "AUTHORIZATION_DIFFERENTIAL_ESTABLISHED"
      "http.authorization.differential.deterministic" h.usable h.observed hs hid hblank houtcome
      (hnonblank assertable_http.1)
    exact ⟨proposeAuthorizationDifferentialEvidence, by simp [proposers], _, draft, hdraft⟩
  · rw [hconsistent (hs ▸ hecho'.symm)] at houtcome
    obtain ⟨draft, hdraft⟩ := exists_proposed_http "UNAUTHORIZED_STATE_TRANSITION_ESTABLISHED"
      "http.state_transition.deterministic" h.usable h.observed hs hid hblank houtcome
      (hnonblank assertable_http.2)
    exact ⟨proposeStateTransitionEvidence, by simp [proposers], _, draft, hdraft⟩

/-- A draft is admitted if nothing is missing, the observations are of the run, and
the id of the assessment is written without blanks around it. -/
theorem admitted_of_proposes {draft : EvidenceProposal} (h : Proposes context draft) :
    (admitEvidence draft context).admitted = true ↔
      context.missingSourceIds = [] ∧
        (∀ item ∈ context.observations, item.researchRunId = context.researchRunId) ∧
        ∀ id, context.assessmentId = some id → id.strip = id := by
  obtain ⟨husable, hobserved, assessmentId, outcome, polarity, claim, hid, houtcome, hasserted,
    hdraft⟩ := h
  rw [admitEvidence_admitted]
  constructor
  · intro hadmissible
    obtain ⟨id, hid', hmem⟩ := hadmissible.referenced.assessment
    rw [hdraft.assessments, List.mem_singleton] at hmem
    refine ⟨hadmissible.referenced.sources, hadmissible.referenced.ownRun, fun other hother => ?_⟩
    obtain rfl : assessmentId = other := Option.some.inj (hid.symm.trans hother)
    obtain rfl : assessmentId = id := Option.some.inj (hid.symm.trans hid')
    exact hmem.symm
  · rintro ⟨hsources, hown, hstrip⟩
    have hclaimed := (@asserted_iff draft context).mp ⟨outcome, houtcome, by
      rw [hasserted, hdraft.polarity, hdraft.claim, (assertable_claim hasserted).2.1]⟩
    refine ⟨husable, ?_, hclaimed.1⟩
    refine ⟨hdraft.run, hdraft.hypothesis, hdraft.experiment, hsources, ?_, ?_, hown, ?_⟩
    · rw [hdraft.observations]
      simpa [EvidenceAdmissionContext.observationIds] using hobserved
    · rw [hdraft.observations]
      exact fun id hmem => hmem
    · refine ⟨assessmentId, hid, ?_⟩
      rw [hdraft.assessments, hstrip assessmentId hid]
      exact List.mem_cons_self

theorem Proposes.answered {draft : EvidenceProposal} (h : Proposes context draft) :
    Answered context := by
  obtain ⟨husable, hobserved, assessmentId, outcome, polarity, claim, hid, houtcome, hasserted,
    hdraft⟩ := h
  exact ⟨husable, hobserved, ⟨assessmentId, hid, hdraft.nonblank⟩, outcome, houtcome, by
    rw [hasserted]
    rfl⟩

end Proposals

/-! ## The claims of the admission -/

/-- What the admission is for: what it admits is sound, and it admits what is
proposed. -/
def AdmitsSoundly (proposal : EvidenceProposal) (context : EvidenceAdmissionContext) : Prop :=
  ((admitEvidence proposal context).admitted = true → Sound proposal context) ∧
    ∀ propose ∈ proposers, ∀ proposalId draft, propose context proposalId = .ok (some draft) →
      (admitEvidence draft context).admitted = true

/-- A proposal that the checks let through has, if it is a diagnostic echo, the
polarity of the outcome, and cites no assessment but that of the context. -/
def Supported (proposal : EvidenceProposal) (context : EvidenceAdmissionContext) : Prop :=
  Admissible proposal context →
    (context.evaluationStrategy.val = diagnosticEchoStrategy →
      (context.assessmentOutcome = some .consistentWithPrediction →
        proposal.polarity = .supporting) ∧
      (context.assessmentOutcome = some .contradictsPrediction →
        proposal.polarity = .contradicting)) ∧
    ∀ id ∈ proposal.assessmentIds, context.assessmentId = some id.val

/-- A context that is answered has no source missing, only observations of its run,
and an assessment id without blanks around it. -/
def Intact (context : EvidenceAdmissionContext) : Prop :=
  Answered context → context.missingSourceIds = [] ∧
    (∀ item ∈ context.observations, item.researchRunId = context.researchRunId) ∧
    ∀ id, context.assessmentId = some id → id.strip = id

/-- **When the admission is sound.** -/
theorem evidence_admission_sound_iff (proposal : EvidenceProposal)
    (context : EvidenceAdmissionContext) :
    AdmitsSoundly proposal context ↔ Supported proposal context ∧ Intact context := by
  constructor
  · rintro ⟨hsound, hproposed⟩
    constructor
    · intro hadmissible
      have h := hsound (admitEvidence_admitted.mpr hadmissible)
      exact ⟨(asserted_iff.mp h.asserted).2, h.assessments⟩
    · intro hanswered
      obtain ⟨propose, hmem, proposalId, draft, hdraft⟩ := exists_proposed hanswered
      exact (admitted_of_proposes (proposes_of_proposed hmem hdraft)).mp
        (hproposed propose hmem proposalId draft hdraft)
  · rintro ⟨hsupported, hintact⟩
    constructor
    · intro hadmitted
      have hadmissible := admitEvidence_admitted.mp hadmitted
      obtain ⟨hpolarity, hassessments⟩ := hsupported hadmissible
      have hreferenced := hadmissible.referenced
      refine ⟨hreferenced.run, hreferenced.hypothesis, hreferenced.experiment,
        hreferenced.observations, hassessments, fun houtcome => ?_,
        asserted_iff.mpr ⟨hadmissible.claimed, hpolarity⟩⟩
      have husable := hadmissible.usable
      simp [EvidenceAdmissionContext.executionUnusable, houtcome] at husable
    · intro propose hmem proposalId draft hdraft
      have hproposes := proposes_of_proposed hmem hdraft
      exact (admitted_of_proposes hproposes).mpr (hintact hproposes.answered)

/-- One observation of a diagnostic echo, assessed as consistent. -/
def echoContext (missing : List Text) : EvidenceAdmissionContext where
  researchRunId := ⟨"run".toList, by decide⟩
  hypothesisId := ⟨"hypothesis".toList, by decide⟩
  experimentId := ⟨"experiment".toList, by decide⟩
  evaluationStrategy := ⟨diagnosticEchoStrategy, by decide⟩
  observations :=
    [⟨⟨"o1".toList, by decide⟩, ⟨"run".toList, by decide⟩, ⟨"w1".toList, by decide⟩,
      ⟨"echo".toList, by decide⟩⟩]
  missingSourceIds := missing
  assessmentId := some "a1".toList
  assessmentOutcome := some .consistentWithPrediction
  attemptState := some "COMPLETED".toList
  workerStatus := none
  invocationStatus := none
  executionOutcome := none
  experimentExecutionState := none

/-- A proposal that the observation contradicts the prediction, under the claim that
it matched, and that cites an assessment nobody knows. -/
def contradictingEcho : EvidenceProposal where
  proposalId := ⟨"p1".toList, by decide⟩
  researchRunId := (echoContext []).researchRunId
  hypothesisId := (echoContext []).hypothesisId
  experimentId := (echoContext []).experimentId
  observationIds := (echoContext []).observationIds
  assessmentIds := [⟨"a1".toList, by decide⟩, ⟨"unknown".toList, by decide⟩]
  polarity := .contradicting
  claimScope := ⟨diagnosticEchoMatchedClaim, matchedClaim_clean⟩
  rationale := []
  provenance := []

/-- It is admitted; and what is proposed of a context that misses a source is not. -/
theorem contradicting_echo_admitted :
    (admitEvidence contradictingEcho (echoContext [])).admitted = true ∧
      ¬ Sound contradictingEcho (echoContext []) ∧
      ¬ AdmitsSoundly contradictingEcho (echoContext []) ∧
      (∃ draft, proposeDiagnosticEchoEvidence (echoContext ["o2".toList]) "p1".toList =
          .ok (some draft) ∧
        (admitEvidence draft (echoContext ["o2".toList])).admitted = false) := by
  have hadmitted : (admitEvidence contradictingEcho (echoContext [])).admitted = true := by
    decide
  have hunsound : ¬ Sound contradictingEcho (echoContext []) := by
    intro h
    have hcited := h.assessments ⟨"unknown".toList, by decide⟩ (by decide)
    exact absurd hcited (by decide)
  refine ⟨hadmitted, hunsound, fun h => hunsound (h.1 hadmitted), ?_⟩
  exact ⟨_, rfl, by decide⟩

end Zest.Evidence

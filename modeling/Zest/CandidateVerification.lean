import Zest.CandidateLifecycle
import Zest.Text

/-! # The deterministic verifiers of a candidate

A verification compares the evidence that a candidate came from with the
evidence of a reproduction.  There is a verifier for diagnostics, and one for
each class of candidates over HTTP; these two are the same but for what they
look for in the facts of the reproduction.

For each verifier there is one lemma that says what it has checked when it
proposes `VALIDATED`.
-/
namespace Zest.Verification

/-- A JSON value of an observation, as far as the controls look into it. -/
inductive Fact where
  | integer (n : Int)
  | text (s : Text)
  | list (items : List Fact)
  | object
  | other

/-- The payload of an observation. -/
abbrev Payload := List (Text × Fact)

/-- `facts.get`. -/
def get (facts : Payload) (key : String) : Option Fact :=
  (facts.find? fun entry => entry.1 = key.toList).map (·.2)

/-- `CandidateRecord.classification`. -/
inductive Classification where
  | diagnosticPlumbing
  | httpAuthorizationDifferential
  | httpStateTransitionAuthorization
  deriving DecidableEq, Repr

inductive EvidencePolarity where
  | supporting
  | contradicting
  | neutral
  deriving DecidableEq, Repr

/-- What a piece of evidence is about: the claims that the source names, and any
other text. -/
inductive ClaimScope where
  | diagnosticEchoMatched
  | diagnosticEchoMismatched
  | httpAuthorizationDifferential
  | httpAuthorizationControlHeld
  | httpStateTransition
  | httpStateTransitionControlHeld
  | other (scope : Text)
  deriving DecidableEq

/-- The scope that evidence for a candidate of the class must have. -/
def Classification.claimScope : Classification → ClaimScope
  | .diagnosticPlumbing => .diagnosticEchoMatched
  | .httpAuthorizationDifferential => .httpAuthorizationDifferential
  | .httpStateTransitionAuthorization => .httpStateTransition

inductive VerificationStrategy where
  | diagnosticEchoReproduction
  | httpAuthorizationDifferentialReproduction
  | httpStateTransitionReproduction
  deriving DecidableEq, Repr

inductive AssessmentOutcome where
  | consistentWithPrediction
  | contradictsPrediction
  | inconclusive
  | executionUnusable
  | needsMoreContext
  deriving DecidableEq, Repr

/-- `VerificationEvidenceRef`. -/
structure EvidenceRef where
  evidenceId : Id
  researchRunId : Id
  experimentId : Id
  requestId : Id
  observationIds : List Id
  polarity : EvidencePolarity
  claimScope : ClaimScope
  observedEcho : Option Text
  observedFacts : Option Payload

/-- `VerificationPlan`, less the texts about what is expected. -/
structure VerificationPlan where
  candidateId : Id
  verificationStrategy : VerificationStrategy
  requiredOriginalEvidenceIds : List Id
  negativeControlToken : Text

/-- `VerificationContext`. -/
structure VerificationContext where
  candidateId : Id
  candidateState : CandidateState
  researchRunId : Id
  plan : VerificationPlan
  originalEvidence : EvidenceRef
  reproductionEvidence : Option EvidenceRef
  negativeControlEvidence : Option EvidenceRef
  reproductionExecutionUnusable : Bool
  authoritativeOutOfScope : Bool
  duplicateOfCandidateId : Option Id
  knownDuplicateExists : Bool
  reproductionAssessmentOutcome : Option AssessmentOutcome
  reproductionExperimentId : Option Id
  reproductionRequestId : Option Id
  reproductionObservationIds : List Id

/-- A value of `alternative_explanation_checks`. -/
inductive Check where
  | flag (b : Bool)
  | text (s : Option Text)

/-- `VerificationResult`.  The proposed state of the candidate is that of the
outcome. -/
structure VerificationResult where
  outcome : VerificationOutcome
  reasonCodes : List String
  originalEvidenceIds : List Id
  reproductionEvidenceIds : List Id
  negativeControlEvidenceIds : List Id
  alternativeExplanationChecks : List (String × Check)
  verifierIdentity : String
  strategy : VerificationStrategy

/-- `DIAGNOSTIC_NEGATIVE_CONTROL_TOKEN`. -/
def diagnosticNegativeControlToken : Text := "__diagnostic_control_fail__".toList

/-- `plan_diagnostic_verification`, `plan_authorization_differential_verification`
and `plan_state_transition_verification`. -/
def planVerification (strategy : VerificationStrategy) (candidateId : Id)
    (originalEvidenceIds : List Id) : VerificationPlan where
  candidateId := candidateId
  verificationStrategy := strategy
  requiredOriginalEvidenceIds := originalEvidenceIds
  negativeControlToken := diagnosticNegativeControlToken

/-- `_independent`. -/
def independent (original reproduction : EvidenceRef) : Bool :=
  if original.evidenceId = reproduction.evidenceId then false
  else if original.experimentId = reproduction.experimentId then false
  else if original.requestId = reproduction.requestId then false
  else if original.observationIds.any (reproduction.observationIds.contains ·) then false
  else true

/-- `_result`. -/
def VerificationContext.result (context : VerificationContext) (outcome : VerificationOutcome)
    (identity : String) (reasonCodes : List String) (reproductionIds controlIds : List Id)
    (checks : List (String × Check)) : VerificationResult where
  outcome := outcome
  reasonCodes := reasonCodes
  originalEvidenceIds := [context.originalEvidence.evidenceId]
  reproductionEvidenceIds := reproductionIds
  negativeControlEvidenceIds := controlIds
  alternativeExplanationChecks := checks
  verifierIdentity := identity
  strategy := context.plan.verificationStrategy

/-! ## Diagnostics -/

/-- The negative control of a diagnostic: the echo is there, and is not the
token that would satisfy any claim. -/
def echoControlHeld (plan : VerificationPlan) (reproduction : EvidenceRef) : Bool :=
  reproduction.observedEcho.isSome && reproduction.observedEcho != some plan.negativeControlToken

/-- The evidence of a negative control that was executed. -/
def controlUsable (original reproduction control : EvidenceRef) : Bool :=
  control.polarity = .contradicting && control.claimScope = .diagnosticEchoMismatched &&
    independent original control && control.evidenceId ≠ reproduction.evidenceId

/-- `DIAGNOSTIC_VERIFIER_IDENTITY`. -/
def diagnosticVerifierIdentity : String := "diagnostic.echo.verifier.v1"

/-- The checks that a diagnostic verification has made. -/
def diagnosticChecks (plan : VerificationPlan) (reproduction : EvidenceRef) :
    List (String × Check) :=
  [("negative_control_token", .text (some plan.negativeControlToken)),
    ("reproduction_observed_echo", .text reproduction.observedEcho),
    ("negative_control_held", .flag (echoControlHeld plan reproduction)),
    ("not_a_vulnerability", .flag true), ("not_a_finding", .flag true)]

/-- `evaluate_diagnostic_verification`. -/
def evaluateDiagnosticVerification (context : VerificationContext) :
    Except String VerificationResult :=
  let result := fun outcome => context.result outcome diagnosticVerifierIdentity
  if context.plan.candidateId ≠ context.candidateId then
    .error "VerificationPlan candidate_id mismatch"
  else if context.plan.verificationStrategy ≠ .diagnosticEchoReproduction then
    .error "unsupported verification strategy"
  else if context.originalEvidence.researchRunId ≠ context.researchRunId then
    .error "original evidence is not in the Candidate research run"
  else if context.authoritativeOutOfScope then
    .ok (result .outOfScope ["AUTHORITATIVE_OUT_OF_SCOPE"] [] [] [])
  else if context.duplicateOfCandidateId.isSome then
    if !context.knownDuplicateExists then
      .ok (result .inconclusive ["UNKNOWN_DUPLICATE_REFERENCE"] [] [] [])
    else .ok (result .duplicate ["EXPLICIT_DUPLICATE_REFERENCE"] [] [] [])
  else if context.reproductionExecutionUnusable then
    .ok (result .inconclusive ["REPRODUCTION_UNUSABLE", "FAILURE_TO_VERIFY_IS_NOT_REJECTION"]
      [] [] [])
  else
    match context.reproductionEvidence with
    | none =>
      .ok (result .inconclusive ["MISSING_REPRODUCTION_EVIDENCE", "CANNOT_SELF_VALIDATE"] [] [] [])
    | some reproduction =>
      let ids := [reproduction.evidenceId]
      let controlIds := (context.negativeControlEvidence.map (·.evidenceId)).toList
      let checks := diagnosticChecks context.plan reproduction
      if !independent context.originalEvidence reproduction then
        .ok (result .inconclusive ["REPRODUCTION_NOT_INDEPENDENT", "CANNOT_SELF_VALIDATE"]
          ids [] [])
      else if reproduction.researchRunId ≠ context.researchRunId then
        .ok (result .inconclusive ["REPRODUCTION_WRONG_RUN"] ids [] [])
      else if reproduction.polarity = .contradicting ∧
          reproduction.claimScope = .diagnosticEchoMismatched then
        .ok (result .rejected ["REPRODUCTION_CONTRADICTS_CLAIM"] ids controlIds [])
      else if ¬(reproduction.polarity = .supporting ∧
          reproduction.claimScope = .diagnosticEchoMatched) then
        .ok (result .inconclusive ["REPRODUCTION_DOES_NOT_SUPPORT_CLAIM"] ids controlIds [])
      else if !(context.negativeControlEvidence.all
          (controlUsable context.originalEvidence reproduction)) then
        .ok (result .inconclusive ["NEGATIVE_CONTROL_EVIDENCE_UNUSABLE"] ids controlIds checks)
      else
        let checks :=
          if context.negativeControlEvidence.isSome then
            checks ++ [("mismatch_fixture_held", .flag true)]
          else checks
        if !echoControlHeld context.plan reproduction then
          .ok (result .inconclusive ["NEGATIVE_CONTROL_DID_NOT_HOLD"] ids controlIds checks)
        else
          .ok (result .validated ["REPRODUCTION_INDEPENDENT", "NEGATIVE_CONTROL_HELD",
            "DIAGNOSTIC_PLUMBING_ONLY"] ids controlIds checks)

/-! ## Authorization differentials and state transitions -/

/-- `_reproduction_ids`. -/
def reproductionIds (context : VerificationContext) : List Id :=
  (context.reproductionEvidence.map (·.evidenceId)).toList

/-- `_reproduction_independent_of_original`.  Without evidence of its own, a
reproduction is told by its experiment. -/
def reproductionIndependentOfOriginal (context : VerificationContext) : Bool :=
  match context.reproductionEvidence with
  | some reproduction => independent context.originalEvidence reproduction
  | none =>
    match context.reproductionExperimentId, context.reproductionRequestId with
    | some experimentId, some requestId =>
      if context.originalEvidence.experimentId = experimentId then false
      else if context.originalEvidence.requestId = requestId then false
      else if context.originalEvidence.observationIds.any
          (context.reproductionObservationIds.contains ·) then false
      else true
    | _, _ => false

/-- A verifier over HTTP, with what it looks for in the facts and the words of
its reasons. -/
def evaluateReproduction (strategy : VerificationStrategy) (identity : String)
    (claimScope : ClaimScope) (controlsHeld : Option Payload → Except String Bool)
    (reproduced held : String) (context : VerificationContext) :
    Except String VerificationResult :=
  let result := fun outcome => context.result outcome identity
  let ids := reproductionIds context
  if context.plan.candidateId ≠ context.candidateId then
    .error "VerificationPlan candidate_id mismatch"
  else if context.plan.verificationStrategy ≠ strategy then
    .error "unsupported verification strategy"
  else if context.originalEvidence.researchRunId ≠ context.researchRunId then
    .error "original evidence is not in the Candidate research run"
  else if context.authoritativeOutOfScope then
    .ok (result .outOfScope ["AUTHORITATIVE_OUT_OF_SCOPE"] [] [] [])
  else if context.reproductionExecutionUnusable then
    .ok (result .inconclusive ["REPRODUCTION_UNUSABLE", "FAILURE_TO_VERIFY_IS_NOT_REJECTION"]
      [] [] [])
  else if !reproductionIndependentOfOriginal context then
    .ok (result .inconclusive ["REPRODUCTION_NOT_INDEPENDENT", "CANNOT_SELF_VALIDATE"] ids [] [])
  else
    let unsupported :=
      if context.reproductionAssessmentOutcome = some .contradictsPrediction then
        result .rejected ["REPRODUCTION_CONTRADICTS_CLAIM", held] ids [] []
      else result .inconclusive ["REPRODUCTION_DOES_NOT_SUPPORT_CLAIM"] ids [] []
    match context.reproductionEvidence with
    | none => .ok unsupported
    | some reproduction =>
      if reproduction.polarity = .supporting ∧ reproduction.claimScope = claimScope then
        match controlsHeld reproduction.observedFacts with
        | .error message => .error message
        | .ok true =>
          .ok (result .validated ["REPRODUCTION_INDEPENDENT", "NEGATIVE_CONTROL_HELD", reproduced]
            [reproduction.evidenceId] []
            [("negative_control_held", .flag true), ("not_a_finding", .flag true)])
        | .ok false => .ok unsupported
      else .ok unsupported

/-- A fact that is a string. -/
def textOf : Option Fact → Option Text
  | some (.text s) => some s
  | _ => none

/-- A fact that is a string with something in it. -/
def isNonblank (fact : Option Fact) : Bool := (textOf fact).any fun s => s.strip ≠ []

/-- `fact == n`. -/
def isInteger (fact : Option Fact) (n : Int) : Bool :=
  match fact with
  | some (.integer m) => m == n
  | _ => false

/-- `fact in {…}`, where a list or an object raises a `TypeError`. -/
def isAmong (fact : Option Fact) (statuses : List Int) : Except String Bool :=
  match fact with
  | some (.list _) | some .object => .error "unhashable type"
  | some (.integer n) => .ok (statuses.contains n)
  | _ => .ok false

/-- `isinstance(readers, list) and isinstance(actor, str) and actor in readers`. -/
def isReader (readers actor : Option Fact) : Bool :=
  match readers, textOf actor with
  | some (.list items), some actor => items.any fun item => textOf (some item) = some actor
  | _, _ => false

/-- `str.upper` of one character, as far as an ASCII letter can come of it. -/
def asciiUpper (c : Char) : Char :=
  if 'a' ≤ c ∧ c ≤ 'z' then Char.ofNat (c.toNat - 0x20)
  else if c.toNat = 0x131 then 'I'
  else if c.toNat = 0x17f then 'S'
  else c

/-- `fact.strip().upper() == word`, for a word that no ligature is written
out to. -/
def isWord (word : String) (fact : Option Fact) : Bool :=
  (textOf fact).any fun s => s.strip.map asciiUpper = word.toList

/-- `_controls_held`. -/
def controlsHeld : Option Payload → Except String Bool
  | none => .ok false
  | some facts =>
    let actor := get facts "actor"
    let owner := get facts "cross_object_request_object_owner"
    if isWord "PUBLIC" (get facts "cross_object_request_visibility") then .ok false
    else if isWord "SHARED" (get facts "cross_object_request_resource_kind") then .ok false
    else if isReader (get facts "cross_object_request_authorized_readers") actor then .ok false
    else if !isInteger (get facts "secure_control_status") 403 then .ok false
    else
      (isAmong (get facts "unauthenticated_control_status") [401, 403]).map fun denied =>
        denied && isInteger (get facts "cross_object_request_status") 200 && isNonblank owner &&
          isNonblank actor && textOf owner != textOf actor

/-- `_workflow_controls_held`. -/
def workflowControlsHeld : Option Payload → Except String Bool
  | none => .ok false
  | some facts =>
    let actor := get facts "actor"
    let approved := some "APPROVED".toList
    if isReader (get facts "delegated_reviewers") actor then .ok false
    else
      (isAmong (get facts "control_status") [401, 403, 409]).map fun denied =>
        denied && textOf (get facts "post_state") == approved &&
          textOf (get facts "pre_state") != approved &&
          textOf (get facts "actor_role") == some "requester".toList && isNonblank actor &&
          textOf (get facts "approved_by") == textOf actor

/-- `evaluate_authorization_differential_verification`. -/
def evaluateAuthorizationDifferentialVerification :
    VerificationContext → Except String VerificationResult :=
  evaluateReproduction .httpAuthorizationDifferentialReproduction
    "http.authorization.differential.verifier.v1" .httpAuthorizationDifferential controlsHeld
    "HTTP_AUTHORIZATION_DIFFERENTIAL_REPRODUCED" "OBJECT_ACCESS_CONTROL_HELD"

/-- `evaluate_state_transition_verification`. -/
def evaluateStateTransitionVerification :
    VerificationContext → Except String VerificationResult :=
  evaluateReproduction .httpStateTransitionReproduction "http.state_transition.verifier.v1"
    .httpStateTransition workflowControlsHeld
    "HTTP_STATE_TRANSITION_AUTHORIZATION_REPRODUCED" "WORKFLOW_CONTROL_HELD"

/-! ## What is checked before a candidate is validated -/

/-- What the controls of the strategy are, and that they held. -/
def controlsHeldBy (context : VerificationContext) (reproduction : EvidenceRef) :
    VerificationStrategy → Prop
  | .diagnosticEchoReproduction =>
    echoControlHeld context.plan reproduction = true ∧
      context.negativeControlEvidence.all
        (controlUsable context.originalEvidence reproduction) = true
  | .httpAuthorizationDifferentialReproduction =>
    controlsHeld reproduction.observedFacts = .ok true
  | .httpStateTransitionReproduction => workflowControlsHeld reproduction.observedFacts = .ok true

/-- The scope of the claims that the strategy verifies. -/
def VerificationStrategy.claimScope : VerificationStrategy → ClaimScope
  | .diagnosticEchoReproduction => .diagnosticEchoMatched
  | .httpAuthorizationDifferentialReproduction => .httpAuthorizationDifferential
  | .httpStateTransitionReproduction => .httpStateTransition

/-- What every verifier has checked of a reproduction that it validates. -/
structure Reproduced (context : VerificationContext) (strategy : VerificationStrategy)
    (result : VerificationResult) (reproduction : EvidenceRef) : Prop where
  evidence : context.reproductionEvidence = some reproduction
  ids : result.reproductionEvidenceIds = [reproduction.evidenceId]
  apart : independent context.originalEvidence reproduction = true
  supporting : reproduction.polarity = .supporting
  scope : reproduction.claimScope = strategy.claimScope
  controls : controlsHeldBy context reproduction strategy

section Validated

variable {context : VerificationContext} {result refused : VerificationResult}
variable {c : Prop} [Decidable c] {x : Except String VerificationResult}

/-- A check that refuses was passed, if the candidate was validated. -/
theorem passed_of_validated (h : (if c then .ok refused else x) = .ok result)
    (hrefused : refused.outcome ≠ .validated) (hvalid : result.outcome = .validated) :
    ¬c ∧ x = .ok result := by
  by_cases hc : c
  · rw [if_pos hc] at h
    cases h
    exact absurd hvalid hrefused
  · rw [if_neg hc] at h
    exact ⟨hc, h⟩

/-- A check that raises was passed, if there is a result. -/
theorem passed_of_ok {message : String} (h : (if c then .error message else x) = .ok result) :
    ¬c ∧ x = .ok result := by
  by_cases hc : c
  · rw [if_pos hc] at h
    cases h
  · rw [if_neg hc] at h
    exact ⟨hc, h⟩

theorem evaluateDiagnosticVerification_validated
    (h : evaluateDiagnosticVerification context = .ok result)
    (hvalid : result.outcome = .validated) :
    (∃ reproduction, Reproduced context .diagnosticEchoReproduction result reproduction) ∧
      context.duplicateOfCandidateId = none := by
  unfold evaluateDiagnosticVerification at h
  obtain ⟨-, h⟩ := passed_of_ok h
  obtain ⟨-, h⟩ := passed_of_ok h
  obtain ⟨-, h⟩ := passed_of_ok h
  obtain ⟨-, h⟩ := passed_of_validated h (by simp [VerificationContext.result]) hvalid
  have hduplicate : context.duplicateOfCandidateId = none := by
    cases hid : context.duplicateOfCandidateId with
    | none => rfl
    | some id =>
      simp only [hid, Option.isSome_some, if_true] at h
      obtain ⟨-, h⟩ := passed_of_validated h (by simp [VerificationContext.result]) hvalid
      cases h
      simp [VerificationContext.result] at hvalid
  refine ⟨?_, hduplicate⟩
  rw [hduplicate] at h
  simp only [Option.isSome_none, Bool.false_eq_true, if_false] at h
  obtain ⟨-, h⟩ := passed_of_validated h (by simp [VerificationContext.result]) hvalid
  cases hreproduction : context.reproductionEvidence with
  | none =>
    rw [hreproduction] at h
    cases h
    simp [VerificationContext.result] at hvalid
  | some reproduction =>
    rw [hreproduction] at h
    obtain ⟨hapart, h⟩ := passed_of_validated h (by simp [VerificationContext.result]) hvalid
    obtain ⟨-, h⟩ := passed_of_validated h (by simp [VerificationContext.result]) hvalid
    obtain ⟨-, h⟩ := passed_of_validated h (by simp [VerificationContext.result]) hvalid
    obtain ⟨hsupports, h⟩ := passed_of_validated h (by simp [VerificationContext.result]) hvalid
    obtain ⟨hcontrol, h⟩ := passed_of_validated h (by simp [VerificationContext.result]) hvalid
    obtain ⟨hecho, h⟩ := passed_of_validated h (by simp [VerificationContext.result]) hvalid
    have hsupports := Decidable.not_not.1 hsupports
    cases h
    exact ⟨reproduction, hreproduction, rfl, by simpa using hapart, hsupports.1, hsupports.2,
      by simpa using hecho, by simpa using hcontrol⟩

/-- The verifiers over HTTP. -/
theorem evaluateReproduction_validated {strategy : VerificationStrategy} {identity : String}
    {scope : ClaimScope} {controls : Option Payload → Except String Bool} {reproduced held : String}
    (h : evaluateReproduction strategy identity scope controls reproduced held context = .ok result)
    (hvalid : result.outcome = .validated) :
    ∃ reproduction, context.reproductionEvidence = some reproduction ∧
      result.reproductionEvidenceIds = [reproduction.evidenceId] ∧
      independent context.originalEvidence reproduction = true ∧
      reproduction.polarity = .supporting ∧ reproduction.claimScope = scope ∧
      controls reproduction.observedFacts = .ok true := by
  unfold evaluateReproduction at h
  obtain ⟨-, h⟩ := passed_of_ok h
  obtain ⟨-, h⟩ := passed_of_ok h
  obtain ⟨-, h⟩ := passed_of_ok h
  obtain ⟨-, h⟩ := passed_of_validated h (by simp [VerificationContext.result]) hvalid
  obtain ⟨-, h⟩ := passed_of_validated h (by simp [VerificationContext.result]) hvalid
  obtain ⟨hapart, h⟩ := passed_of_validated h (by simp [VerificationContext.result]) hvalid
  -- neither of the two ways to leave the claim unsupported validates it
  have hunsupported : ∀ unsupported : VerificationResult,
      unsupported = (if context.reproductionAssessmentOutcome = some .contradictsPrediction then
        context.result .rejected identity ["REPRODUCTION_CONTRADICTS_CLAIM", held]
          (reproductionIds context) [] []
      else context.result .inconclusive identity ["REPRODUCTION_DOES_NOT_SUPPORT_CLAIM"]
        (reproductionIds context) [] []) → unsupported ≠ result := by
    rintro unsupported rfl rfl
    split at hvalid <;> simp [VerificationContext.result] at hvalid
  cases hreproduction : context.reproductionEvidence with
  | none =>
    rw [hreproduction] at h
    exact absurd (Except.ok.inj h) (hunsupported _ rfl)
  | some reproduction =>
    simp only [hreproduction] at h
    by_cases hsupports : reproduction.polarity = .supporting ∧ reproduction.claimScope = scope
    · rw [if_pos hsupports] at h
      cases hcontrols : controls reproduction.observedFacts with
      | error message => simp [hcontrols] at h
      | ok b =>
        cases b with
        | false =>
          rw [hcontrols] at h
          exact absurd (Except.ok.inj h) (hunsupported _ rfl)
        | true =>
          simp only [hcontrols] at h
          cases h
          exact ⟨reproduction, rfl, rfl,
            by simpa [reproductionIndependentOfOriginal, hreproduction] using hapart,
            hsupports.1, hsupports.2, hcontrols⟩
    · rw [if_neg hsupports] at h
      exact absurd (Except.ok.inj h) (hunsupported _ rfl)

end Validated
end Zest.Verification

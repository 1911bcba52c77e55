import Zest.BudgetLedger
import Zest.CallJournal
import Zest.DifferentialComparison
import Zest.ResearchContext
import Zest.SafeData

/-! # From the records of a run to the model

What a run has recorded becomes sources, the sources become a context, and the
context goes into the payload of a model call.  The payload is the same for the
generator and for the falsifier, except that the falsifier also gets the
proposal.  A request is made only if no key in its payload, at any depth, is the
key of a secret.

Observations are looked at in the same way when they are recorded.  Differentials
are not.
-/
namespace Zest.Reasoning

open Benchmark (ModelCallRequest optionalText)
open Differential (DifferentialObservation DifferentialInterpretation)
open SafeData (SecretMaterialError secretFree)

/-- `ModelRole.value`. -/
def roleValue : ModelRole → Text
  | .generator => "GENERATOR".toList
  | .falsifier => "FALSIFIER".toList

/-! ## Requests -/

/-- `ModelPortError`, of a request. -/
inductive RequestRefusal where
  | message (text : String)
  | secrets (error : SecretMaterialError)

section Requests

variable (lower : Text → Text)

/-- `ModelCallRequest.__post_init__`. -/
def modelCallRequest (role : ModelRole) (correlationId contextFingerprint instructions : Text)
    (payload : Dict) (timeoutMs : Option Int) : Except RequestRefusal ModelCallRequest :=
  if correlationId.strip = [] then
    .error (.message "correlation_id must be a non-empty string")
  else if contextFingerprint.strip = [] then
    .error (.message "context_fingerprint must be a non-empty string")
  else if instructions.strip = [] then
    .error (.message "instructions must be a non-empty string")
  else
    match SafeData.rejectSecretKeys lower (.object payload) "payload".toList with
    | .error error => .error (.secrets error)
    | .ok cleaned =>
      if timeoutMs.any (· ≤ 0) then
        .error (.message "timeout_ms must be a positive int when set")
      else .ok {
        role := roleValue role
        correlationId := correlationId
        contextFingerprint := contextFingerprint
        instructions := instructions
        payload := match cleaned with
          | .object entries => entries
          | _ => payload
        modelIdHint := none
        timeoutMs := timeoutMs }

end Requests

/-- An array of texts. -/
def texts (items : List Text) : JsonValue := .array (items.map .text)

/-- What `_item_payload` adds for the class of an item. -/
def classMarks : EpistemicClass → Dict
  | .hypothesis => [("not_a_fact".toList, .bool true)]
  | .inferred => [("not_a_fact".toList, .bool true), ("not_an_observation".toList, .bool true)]
  | .untrustedExternal =>
    [("untrusted".toList, .bool true), ("instruction_authority".toList, .bool false)]
  | .observation => [("payload_is_untrusted_as_instruction".toList, .bool true)]
  | _ => []

/-- The payload of an item, under its key. -/
def ownPayload : Option Dict → Dict
  | some payload => [("payload".toList, .object payload)]
  | none => []

/-- The entries of every item. -/
def itemFields (item : ContextItem) : Dict :=
  [("item_id".toList, .text item.itemId.val),
    ("epistemic_class".toList, .text item.epistemicClass.value.toList),
    ("statement".toList, .text item.statement),
    ("source_references".toList, texts item.sourceReferences),
    ("may_issue_instructions".toList, .bool false),
    ("truncated".toList, .bool item.truncated),
    ("omitted_characters".toList, .integer item.omittedCharacters)]

/-- `_item_payload`. -/
def itemPayload (item : ContextItem) : Dict :=
  itemFields item ++ ownPayload item.payload ++ classMarks item.epistemicClass

def itemPayloads (items : List ContextItem) : JsonValue :=
  .array (items.map fun item => .object (itemPayload item))

/-- `ContextOmission.is_partial`. -/
def ContextOmission.isPartial (omission : ContextOmission) : Bool :=
  !(omission.omittedObservationIds.isEmpty && omission.omittedHypothesisIds.isEmpty &&
    omission.omittedNegativeEvidenceIds.isEmpty && omission.omittedExternalIds.isEmpty &&
    omission.truncatedExternalIds.isEmpty)

/-- `all_items`. -/
def ContextBody.allItems (body : ContextBody) : List ContextItem :=
  body.authoritativeFacts ++ body.observations ++ body.deterministicDerivations ++
    body.inferences ++ body.priorHypotheses ++ body.invariantHypotheses ++
    body.chainHypotheses ++ body.researchOpportunities ++ body.changeEvents ++
    body.negativeEvidence ++ body.proceduralContext ++ body.untrustedExternalContent

/-- `tuple(sorted(context.resolvable_source_ids()))`. -/
def ContextBody.allowedSourceIds (body : ContextBody) : List Text :=
  ((body.allItems.map (·.itemId.val)).dedup).insertionSort (· ≤ ·)

def omissionPayload (omission : ContextOmission) : Dict :=
  [("omitted_observation_ids".toList, texts omission.omittedObservationIds),
    ("omitted_hypothesis_ids".toList, texts omission.omittedHypothesisIds),
    ("omitted_negative_evidence_ids".toList, texts omission.omittedNegativeEvidenceIds),
    ("omitted_external_ids".toList, texts omission.omittedExternalIds),
    ("truncated_external_ids".toList, texts omission.truncatedExternalIds)]

section Payload

variable (sha256 : Text → Required)

/-- `context_model_payload`. -/
def contextModelPayload (context : ResearchContext) : Dict :=
  [("research_run_id".toList, .text context.researchRunId.val),
    ("research_question".toList, .text context.researchQuestion.val),
    ("is_partial".toList, .bool context.omission.isPartial),
    ("allowed_source_reference_ids".toList, texts context.allowedSourceIds),
    ("allowed_source_reference_ids_fingerprint".toList,
      .text (canonicalFingerprint sha256 (textArray context.allowedSourceIds)).val),
    ("omission".toList, .object (omissionPayload context.omission)),
    ("authoritative_facts".toList, itemPayloads context.authoritativeFacts),
    ("observations".toList, itemPayloads context.observations),
    ("deterministic_derivations".toList, itemPayloads context.deterministicDerivations),
    ("inferences".toList, itemPayloads context.inferences),
    ("prior_hypotheses".toList, itemPayloads context.priorHypotheses),
    ("invariant_hypotheses".toList, itemPayloads context.invariantHypotheses),
    ("chain_hypotheses".toList, itemPayloads context.chainHypotheses),
    ("research_opportunities".toList, itemPayloads context.researchOpportunities),
    ("change_events".toList, itemPayloads context.changeEvents),
    ("negative_evidence".toList, itemPayloads context.negativeEvidence),
    ("procedural_context".toList, itemPayloads context.proceduralContext),
    ("unresolved_questions".toList, texts (context.unresolvedQuestions.map (·.val))),
    ("untrusted_external_content".toList, itemPayloads context.untrustedExternalContent)]

/-- `NoveltyBasis`. -/
inductive NoveltyBasis where
  | knownPatternInstance
  | possibleCombination
  | targetSpecificBehavior
  | unclassified
  deriving DecidableEq, Repr

def NoveltyBasis.value : NoveltyBasis → Text
  | .knownPatternInstance => "KNOWN_PATTERN_INSTANCE".toList
  | .possibleCombination => "POSSIBLE_COMBINATION".toList
  | .targetSpecificBehavior => "TARGET_SPECIFIC_BEHAVIOR".toList
  | .unclassified => "UNCLASSIFIED".toList

/-- `HypothesisProposal`. -/
structure HypothesisProposal where
  proposedClaim : Text
  rationale : Text
  sourceReferences : List Text
  assumptions : List Text
  unresolvedQuestions : List Text
  suggestedDisconfirmingTest : Text
  suggestedCapability : Text
  expectedSecurityRelevance : Option Text
  noveltyBasis : NoveltyBasis
  modelClaimedNovelty : Option Text

/-- `HypothesisProposal.to_mapping`. -/
def HypothesisProposal.toMapping (proposal : HypothesisProposal) : Dict :=
  [("proposed_claim".toList, .text proposal.proposedClaim),
    ("rationale".toList, .text proposal.rationale),
    ("source_references".toList, texts proposal.sourceReferences),
    ("assumptions".toList, texts proposal.assumptions),
    ("unresolved_questions".toList, texts proposal.unresolvedQuestions),
    ("suggested_disconfirming_test".toList, .text proposal.suggestedDisconfirmingTest),
    ("suggested_capability".toList, .text proposal.suggestedCapability),
    ("expected_security_relevance".toList, optionalText proposal.expectedSecurityRelevance),
    ("novelty_basis".toList, .text proposal.noveltyBasis.value),
    ("model_claimed_novelty".toList, optionalText proposal.modelClaimedNovelty)]

/-- The payload of `_request`. -/
def requestPayload (role : ModelRole) (instructions : Text) (context : ResearchContext)
    (extra : Dict) : Dict :=
  Dict.update
    [("instructions_channel".toList,
        .object [("role".toList, .text (roleValue role)), ("task".toList, .text instructions)]),
      ("research_context".toList, .object (contextModelPayload sha256 context))]
    extra

variable (lower : Text → Text)

/-- `_request`. -/
def request (role : ModelRole) (instructions : Required) (context : ResearchContext)
    (correlationId : Required) (extra : Dict) : Except RequestRefusal ModelCallRequest :=
  modelCallRequest lower role correlationId.val context.fingerprint.val instructions.val
    (requestPayload sha256 role instructions.val context extra) none

/-- The request of `generate_proposal`. -/
def generatorRequest (instructions : Required) (context : ResearchContext)
    (correlationId : Required) : Except RequestRefusal ModelCallRequest :=
  request sha256 lower .generator instructions context correlationId []

/-- The request of `generate_challenge`. -/
def falsifierRequest (instructions : Required) (context : ResearchContext)
    (proposal : HypothesisProposal) (correlationId : Required) :
    Except RequestRefusal ModelCallRequest :=
  request sha256 lower .falsifier instructions context correlationId
    [("proposal".toList, .object proposal.toMapping)]

end Payload

/-! ## The records of a run -/

/-- `ObservationRecord`, whose payload has been looked at. -/
structure ObservationRecord (lower : Text → Text) where
  observationId : Required
  observationKind : Required
  payload : Dict
  payload_secretFree : secretFree lower (.object payload) = true

/-- `InvariantHypothesisRecord`. -/
structure InvariantHypothesisRecord where
  invariantId : Required
  invariantKind : Text
  status : Text
  expectedBehavior : Required
  sourceRefs : List Text
  counterexampleRefs : List Text

/-- `ChainHypothesisRecord`, with the counts that `descriptive_features` has stored. -/
structure ChainHypothesisRecord where
  chainId : Required
  structuralIdentity : Text
  depth : Nat
  sourceRefs : List Text
  unresolvedAssumptions : Nat
  supportedSteps : Nat
  inferredSteps : Nat
  maxSideEffectLevel : Nat

/-- `ResearchOpportunityRecord`. -/
structure ResearchOpportunityRecord where
  opportunityId : Required
  opportunityKind : Text
  mode : Text
  structuralIdentity : Text
  sourceRefs : List Text

/-- `ChangeEventRecord`. -/
structure ChangeEventRecord where
  changeEventId : Required
  statement : Required
  category : Text
  baselineSnapshotId : Text
  variantSnapshotId : Text
  sourceRefs : List Text

/-- What `_execute_body` reads of a run. -/
structure RunRecords (lower : Text → Text) where
  observations : List (ObservationRecord lower)
  hypotheses : List HypothesisSource
  experiments : List ExperimentSource
  inferences : List InferenceSource
  differentials : List DifferentialObservation
  invariants : List InvariantHypothesisRecord
  chains : List ChainHypothesisRecord
  opportunities : List ResearchOpportunityRecord
  changes : List ChangeEventRecord

/-- The fields of `ProposeResearchHypothesisCommand` that go into a context. -/
structure ProposeResearchHypothesisCommand where
  researchRunId : Text
  researchQuestion : Text
  untrustedExternal : List ExternalContentSource
  unresolvedQuestions : List Text
  contextBudget : Option ContextBudget

/-- `TARGET_MODEL_SECRET_KEYS`. -/
def targetModelSecretKeys : List Text :=
  ["token".toList, "password".toList, "api_key".toList, "apiKey".toList, "raw_secret".toList,
    "credential".toList, "secret_value".toList, "secretValue".toList, "session_token".toList,
    "cookie".toList, "authorization".toList]

/-- `DifferentialObservationRecord.__post_init__`: keys of secrets are looked for at the
top, as they are written. -/
def differentialRecord (observation : DifferentialObservation) :
    Except String DifferentialObservation :=
  if observation.changedDimensions = [] then
    .error "changed_dimensions must be a non-empty tuple"
  else if observation.commonDimensions = [] then
    .error "common_dimensions must be a non-empty tuple"
  else if observation.observedDifferences.any (targetModelSecretKeys.contains ·.1) then
    .error "observed_differences must not contain secret-value keys"
  else if observation.observedSimilarities.any (targetModelSecretKeys.contains ·.1) then
    .error "observed_similarities must not contain secret-value keys"
  else .ok observation

/-- What `CompareDiagnosticDifferential` has recorded of some case. -/
def RecordedDifferential (observation : DifferentialObservation) : Prop :=
  ∃ case views differentialId snapshots decision,
    Differential.compareDiagnosticDifferential case views differentialId snapshots =
      .ok decision ∧
    decision.outcome = .compared ∧ decision.observation = some observation ∧
    differentialRecord observation = .ok observation

/-! ## Sources -/

def observationSource {lower : Text → Text} (record : ObservationRecord lower) :
    ObservationSource where
  observationId := record.observationId
  observationKind := record.observationKind
  payload := record.payload
  experimentId := none

theorem controlledDifference_notBlank : Text.strip "CONTROLLED_DIFFERENCE".toList ≠ [] := by
  decide

theorem equivalent_notBlank : Text.strip "EQUIVALENT".toList ≠ [] := by decide

theorem incomparable_notBlank : Text.strip "INCOMPARABLE".toList ≠ [] := by decide

/-- `DifferentialInterpretation.value`. -/
def interpretationValue : DifferentialInterpretation → Required
  | .controlledDifference => ⟨"CONTROLLED_DIFFERENCE".toList, controlledDifference_notBlank⟩
  | .equivalent => ⟨"EQUIVALENT".toList, equivalent_notBlank⟩
  | .incomparable => ⟨"INCOMPARABLE".toList, incomparable_notBlank⟩

theorem Name.notBlank (name : ResearchSelection.Name) : name.val.strip ≠ [] := by
  rw [name.property.2]
  exact name.property.1

/-- A name as a text that is not blank. -/
def ofName (name : ResearchSelection.Name) : Required := ⟨name.val, Name.notBlank name⟩

theorem differentialStatement_notBlank : Text.strip
    ("Diagnostic differential comparison. Difference is not a " ++
      "vulnerability and not Evidence.").toList ≠ [] := by decide

/-- The payload of the source of a differential. -/
def differentialPayload (record : DifferentialObservation) : Dict :=
  [("changed_dimensions".toList, texts (record.changedDimensions.map (·.value.toList))),
    ("common_dimensions".toList, texts (record.commonDimensions.map (·.value.toList))),
    ("observed_differences".toList, .object record.observedDifferences),
    ("observed_similarities".toList, .object record.observedSimilarities)]

def differentialSource (record : DifferentialObservation) : DifferentialContextSource where
  sourceId := ofName record.differentialId
  statement := ⟨_, differentialStatement_notBlank⟩
  sourceReferences := record.sourceRefs.map (·.val)
  payload := differentialPayload record
  interpretation := interpretationValue record.interpretation

def invariantPayload (record : InvariantHypothesisRecord) : Dict :=
  [("status".toList, .text record.status), ("kind".toList, .text record.invariantKind),
    ("counterexample_refs".toList, texts record.counterexampleRefs)]

def invariantSource (record : InvariantHypothesisRecord) : InvariantContextSource where
  sourceId := record.invariantId
  statement := record.expectedBehavior
  sourceReferences := record.sourceRefs
  payload := invariantPayload record

theorem chainStatement_notBlank : Text.strip
    "Diagnostic chain hypothesis. Sequence is not causality and not an exploit.".toList ≠ [] := by
  decide

/-- `descriptive_features`. -/
def descriptiveFeatures (record : ChainHypothesisRecord) : Dict :=
  [("depth".toList, .integer record.depth),
    ("unresolved_assumptions".toList, .integer record.unresolvedAssumptions),
    ("supported_steps".toList, .integer record.supportedSteps),
    ("inferred_steps".toList, .integer record.inferredSteps),
    ("side_effect_requirement".toList, .integer record.maxSideEffectLevel),
    ("evidence_coverage".toList, .integer 0),
    ("novelty_composition".toList, .bool (1 ≤ record.depth)),
    ("not_a_priority_score".toList, .bool true)]

def chainPayload (record : ChainHypothesisRecord) : Dict :=
  [("depth".toList, .integer record.depth),
    ("structural_identity".toList, .text record.structuralIdentity),
    ("descriptive_features".toList, .object (descriptiveFeatures record))]

def chainSource (record : ChainHypothesisRecord) : ChainContextSource where
  sourceId := record.chainId
  statement := ⟨_, chainStatement_notBlank⟩
  sourceReferences := record.sourceRefs
  payload := chainPayload record

theorem opportunityStatement_notBlank : Text.strip
    ("Selected diagnostic research opportunity. Selection is not " ++
      "Hypothesis truth and not Core authorization.").toList ≠ [] := by decide

def opportunityPayload (record : ResearchOpportunityRecord) : Dict :=
  [("opportunity_kind".toList, .text record.opportunityKind), ("mode".toList, .text record.mode),
    ("structural_identity".toList, .text record.structuralIdentity)]

def opportunitySource (record : ResearchOpportunityRecord) : OpportunityContextSource where
  sourceId := record.opportunityId
  statement := ⟨_, opportunityStatement_notBlank⟩
  sourceReferences := record.sourceRefs
  payload := opportunityPayload record

def changePayload (record : ChangeEventRecord) : Dict :=
  [("category".toList, .text record.category),
    ("baseline_snapshot_id".toList, .text record.baselineSnapshotId),
    ("variant_snapshot_id".toList, .text record.variantSnapshotId)]

def changeSource (record : ChangeEventRecord) : ChangeEventContextSource where
  sourceId := record.changeEventId
  statement := record.statement
  sourceReferences := record.sourceRefs
  payload := changePayload record

/-- The arguments of `build` in `_execute_body`. -/
def contextRequest {lower : Text → Text} (records : RunRecords lower)
    (command : ProposeResearchHypothesisCommand) : ContextRequest where
  researchRunId := command.researchRunId
  researchQuestion := command.researchQuestion
  observations := records.observations.map observationSource
  priorHypotheses := records.hypotheses
  experiments := records.experiments
  untrustedExternal := command.untrustedExternal
  inferences := records.inferences
  differentials := records.differentials.map differentialSource
  invariantHypotheses := records.invariants.map invariantSource
  chainHypotheses := records.chains.map chainSource
  researchOpportunities := records.opportunities.map opportunitySource
  changeEvents := records.changes.map changeSource
  unresolvedQuestions := command.unresolvedQuestions
  budget := command.contextBudget

end Zest.Reasoning

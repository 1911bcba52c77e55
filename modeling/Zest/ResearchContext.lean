import Zest.CanonicalDocument
import Zest.Fallible
import Zest.JsonValue

/-! # Building a research context

A context is what one reasoning invocation gets to see: items from explicit
sources, each with its class and where it came from.  A budget bounds how many
observations, prior hypotheses and failed experiments there are and how much
text from outside; what the budget leaves out is written down.  The fingerprint
is the digest of ids, classes and omissions, not of what the items say.
-/
namespace Zest.Reasoning

open CanonicalJson (Document)

/-- A text that is not blank. -/
abbrev Required := { text : Text // text.strip ≠ [] }

/-- `_require_text`. -/
def requireText (value : Text) (field : String) : Except String Required :=
  if h : value.strip ≠ [] then .ok ⟨value, h⟩
  else .error (field ++ " must be a non-empty string")

/-- `_require_positive_int` has passed. -/
abbrev PositiveInt := { n : Nat // 1 ≤ n }

/-- Text that begins with a label that is not blank is not blank. -/
theorem strip_append_ne_nil {label : Text} (h : label.strip ≠ []) (text : Text) :
    (label ++ text).strip ≠ [] := by
  have hspaces : ∀ s : Text, s.strip = [] ↔ ∀ c ∈ s, Text.isSpace c = true := by
    intro s
    show (s.dropWhile Text.isSpace).rdropWhile Text.isSpace = [] ↔ _
    rw [List.rdropWhile_eq_nil_iff]
    constructor
    · intro hall
      by_contra hne
      have hdrop : s.dropWhile Text.isSpace ≠ [] := fun hnil =>
        hne (List.dropWhile_eq_nil_iff.mp hnil)
      exact List.dropWhile_get_zero_not Text.isSpace s (List.length_pos_iff.mpr hdrop)
        (hall _ (List.getElem_mem _))
    · exact fun hall c hc => hall c ((List.dropWhile_sublist _).subset hc)
  rw [Ne, hspaces]
  exact fun hall => h ((hspaces label).mpr fun c hc => hall c (List.mem_append_left _ hc))

/-- An id under a label. -/
def Required.labelled (label : String) (h : Text.strip label.toList ≠ []) (id : Text) : Required :=
  ⟨label.toList ++ id, strip_append_ne_nil h id⟩

/-- `EpistemicClass`. -/
inductive EpistemicClass where
  | authoritativeFact
  | observation
  | derivedFact
  | inferred
  | hypothesis
  | negativeEvidence
  | procedural
  | untrustedExternal
  | unknown
  deriving DecidableEq, Repr

/-- `EpistemicClass.value`. -/
def EpistemicClass.value : EpistemicClass → String
  | .authoritativeFact => "AUTHORITATIVE_FACT"
  | .observation => "OBSERVATION"
  | .derivedFact => "DERIVED_FACT"
  | .inferred => "INFERRED"
  | .hypothesis => "HYPOTHESIS"
  | .negativeEvidence => "NEGATIVE_EVIDENCE"
  | .procedural => "PROCEDURAL"
  | .untrustedExternal => "UNTRUSTED_EXTERNAL"
  | .unknown => "UNKNOWN"

/-! ## Sources -/

/-- `ContextBudget`. -/
structure ContextBudget where
  maxObservationItems : PositiveInt
  maxPriorHypothesisItems : PositiveInt
  maxNegativeEvidenceItems : PositiveInt
  maxExternalContentCharacters : PositiveInt
  deriving DecidableEq

/-- `ContextBudget()`. -/
def ContextBudget.default : ContextBudget :=
  ⟨⟨8, by decide⟩, ⟨8, by decide⟩, ⟨8, by decide⟩, ⟨2000, by decide⟩⟩

structure ObservationSource where
  observationId : Required
  observationKind : Required
  payload : Dict
  experimentId : Option Required

structure HypothesisSource where
  hypothesisId : Required
  claim : Required

structure ExperimentSource where
  experimentId : Required
  hypothesisId : Required
  executionState : Required

structure ExternalContentSource where
  externalId : Required
  content : Text
  sourceReference : Required

/-- `InferenceSource`; its id is the `inference_id`. -/
structure InferenceSource where
  sourceId : Required
  statement : Required
  sourceReferences : List Text

/-- What chains, invariants, opportunities and change events have in common. -/
structure PayloadSource extends InferenceSource where
  payload : Dict

/-- `ChainContextSource`; its id is the `chain_id`. -/
abbrev ChainContextSource := PayloadSource

/-- `InvariantContextSource`; its id is the `invariant_id`. -/
abbrev InvariantContextSource := PayloadSource

/-- `OpportunityContextSource`; its id is the `opportunity_id`. -/
abbrev OpportunityContextSource := PayloadSource

/-- `ChangeEventContextSource`; its id is the `change_event_id`. -/
abbrev ChangeEventContextSource := PayloadSource

/-- `DifferentialContextSource`; its id is the `differential_id`. -/
structure DifferentialContextSource extends PayloadSource where
  interpretation : Required

/-- The arguments of `build`. -/
structure ContextRequest where
  researchRunId : Text
  researchQuestion : Text
  observations : List ObservationSource
  priorHypotheses : List HypothesisSource
  experiments : List ExperimentSource
  untrustedExternal : List ExternalContentSource
  inferences : List InferenceSource
  differentials : List DifferentialContextSource
  invariantHypotheses : List InvariantContextSource
  chainHypotheses : List ChainContextSource
  researchOpportunities : List OpportunityContextSource
  changeEvents : List ChangeEventContextSource
  unresolvedQuestions : List Text
  budget : Option ContextBudget

/-! ## Contexts -/

/-- `ContextItem`, which may not issue instructions. -/
structure ContextItem where
  itemId : Required
  epistemicClass : EpistemicClass
  statement : Text
  sourceReferences : List Text
  truncated : Bool := false
  omittedCharacters : Nat := 0
  payload : Option Dict := none

structure ContextOmission where
  omittedObservationIds : List Text
  omittedHypothesisIds : List Text
  omittedNegativeEvidenceIds : List Text
  omittedExternalIds : List Text
  truncatedExternalIds : List Text
  deriving DecidableEq

/-- A context before it has its fingerprint. -/
structure ContextBody where
  researchRunId : Required
  researchQuestion : Required
  budget : ContextBudget
  authoritativeFacts : List ContextItem
  observations : List ContextItem
  deterministicDerivations : List ContextItem
  inferences : List ContextItem
  priorHypotheses : List ContextItem
  negativeEvidence : List ContextItem
  proceduralContext : List ContextItem
  unresolvedQuestions : List Required
  untrustedExternalContent : List ContextItem
  omission : ContextOmission
  invariantHypotheses : List ContextItem
  chainHypotheses : List ContextItem
  researchOpportunities : List ContextItem
  changeEvents : List ContextItem

structure ResearchContext extends ContextBody where
  fingerprint : Required

/-! ## The fingerprint -/

/-- A list of texts. -/
def textArray (texts : List Text) : Document := .array (texts.map .text)

/-- `_item_summary`. -/
def itemSummary (item : ContextItem) : Document :=
  .object [
    ("item_id".toList, .text item.itemId.val),
    ("epistemic_class".toList, .text item.epistemicClass.value.toList),
    ("truncated".toList, .bool item.truncated),
    ("omitted_characters".toList, .number item.omittedCharacters),
    ("source_references".toList, textArray item.sourceReferences)]

/-- The budget in the fingerprint. -/
def ContextBudget.document (budget : ContextBudget) : Document :=
  .object [
    ("max_observation_items".toList, .number budget.maxObservationItems.val),
    ("max_prior_hypothesis_items".toList, .number budget.maxPriorHypothesisItems.val),
    ("max_negative_evidence_items".toList, .number budget.maxNegativeEvidenceItems.val),
    ("max_external_content_characters".toList, .number budget.maxExternalContentCharacters.val)]

/-- The omissions in the fingerprint. -/
def ContextOmission.document (omission : ContextOmission) : Document :=
  .object [
    ("omitted_observation_ids".toList, textArray omission.omittedObservationIds),
    ("omitted_hypothesis_ids".toList, textArray omission.omittedHypothesisIds),
    ("omitted_negative_evidence_ids".toList, textArray omission.omittedNegativeEvidenceIds),
    ("omitted_external_ids".toList, textArray omission.omittedExternalIds),
    ("truncated_external_ids".toList, textArray omission.truncatedExternalIds)]

namespace ContextBody

/-- The items under the names that they have in the fingerprint. -/
def sections (body : ContextBody) : List (String × List ContextItem) :=
  [("authoritative_facts", body.authoritativeFacts),
    ("observations", body.observations),
    ("deterministic_derivations", body.deterministicDerivations),
    ("inferences", body.inferences),
    ("prior_hypotheses", body.priorHypotheses),
    ("invariant_hypotheses", body.invariantHypotheses),
    ("chain_hypotheses", body.chainHypotheses),
    ("research_opportunities", body.researchOpportunities),
    ("change_events", body.changeEvents),
    ("negative_evidence", body.negativeEvidence),
    ("procedural_context", body.proceduralContext),
    ("untrusted_external_content", body.untrustedExternalContent)]

/-- The entries of `context_without_fingerprint`. -/
def members (body : ContextBody) : List (Text × Document) :=
  ("research_run_id".toList, .text body.researchRunId.val) ::
  ("research_question".toList, .text body.researchQuestion.val) ::
  ("budget".toList, body.budget.document) ::
  (body.sections.map fun (name, items) => (name.toList, .array (items.map itemSummary))) ++ [
  ("unresolved_questions".toList, textArray (body.unresolvedQuestions.map (·.val))),
  ("omission".toList, body.omission.document)]

/-- `context_without_fingerprint`. -/
def document (body : ContextBody) : Document := .object body.members

end ContextBody

/-- `_canonical_fingerprint`. -/
def canonicalFingerprint (sha256 : Text → Required) (payload : Document) : Required :=
  sha256 payload.dumps

/-! ## Selecting -/

section Sorting

variable {σ : Type} (identity : σ → Text)

/-- `sorted(items, key=identity)`. -/
def sortedBy (items : List σ) : List σ := items.insertionSort fun a b => identity a ≤ identity b

/-- `_sorted_take`. -/
def sortedTake (items : List σ) (limit : Nat) : List σ × List Text :=
  let ordered := sortedBy identity items
  (ordered.take limit, (ordered.drop limit).map identity)

end Sorting

/-- `_truncate_text`. -/
def truncateText (text : Text) (limit : Nat) : Text × Nat × Bool :=
  if text.length ≤ limit then (text, 0, false)
  else (text.take limit, text.length - limit, true)

/-! ## Items -/

/-- Entries that are set to `True`. -/
def marks (keys : List String) : Dict := keys.map fun key => (key.toList, .bool true)

def observationItem (source : ObservationSource) : ContextItem where
  itemId := source.observationId
  epistemicClass := .observation
  statement := "Observation ".toList ++ source.observationId.val ++ " of kind ".toList ++
    source.observationKind.val ++ ".".toList
  sourceReferences := [source.observationId.val]
  payload := some source.payload

def hypothesisItem (source : HypothesisSource) : ContextItem where
  itemId := source.hypothesisId
  epistemicClass := .hypothesis
  statement := source.claim.val
  sourceReferences := [source.hypothesisId.val]

def derivationItem (source : ExperimentSource) : ContextItem where
  itemId := Required.labelled "der:" (by decide) source.experimentId.val
  epistemicClass := .derivedFact
  statement := "Experiment ".toList ++ source.experimentId.val ++ " is linked to hypothesis ".toList
    ++ source.hypothesisId.val ++ ".".toList
  sourceReferences := [source.experimentId.val, source.hypothesisId.val]

/-- An item with the source's own statement, whose payload is the source's with
some entries of the builder. -/
def statedItem (epistemicClass : EpistemicClass) (source : InferenceSource) (payload : Dict)
    (entries : Dict) : ContextItem where
  itemId := source.sourceId
  epistemicClass := epistemicClass
  statement := source.statement.val
  sourceReferences := source.sourceReferences
  payload := some (payload.update entries)

def differentialEntries (source : DifferentialContextSource) : Dict :=
  ("interpretation".toList, .text source.interpretation.val) ::
    marks ["not_evidence", "not_candidate", "not_finding", "not_a_vulnerability",
      "not_authorization_proof"]

def differentialItem (source : DifferentialContextSource) : ContextItem :=
  statedItem .derivedFact source.toInferenceSource source.payload (differentialEntries source)

def inferenceEntries : Dict := marks ["not_an_observation", "not_a_fact"]

def inferenceItem (source : InferenceSource) : ContextItem :=
  statedItem .inferred source [] inferenceEntries

def invariantEntries : Dict :=
  marks ["not_a_fact", "not_an_observation", "not_authorization", "not_a_vulnerability"]

def invariantItem (source : InvariantContextSource) : ContextItem :=
  statedItem .hypothesis source.toInferenceSource source.payload invariantEntries

def chainEntries : Dict :=
  marks ["not_an_exploit", "not_evidence", "not_candidate", "not_finding", "not_causality_proof"]

def chainItem (source : ChainContextSource) : ContextItem :=
  statedItem .hypothesis source.toInferenceSource source.payload chainEntries

def opportunityEntries : Dict :=
  marks ["not_hypothesis_truth", "not_authorization", "not_a_vulnerability", "not_evidence"]

def opportunityItem (source : OpportunityContextSource) : ContextItem :=
  statedItem .hypothesis source.toInferenceSource source.payload opportunityEntries

def changeEntries : Dict :=
  marks ["not_a_vulnerability", "not_evidence", "not_candidate", "not_finding"]

def changeItem (source : ChangeEventContextSource) : ContextItem :=
  statedItem .derivedFact source.toInferenceSource source.payload changeEntries

/-- `NEGATIVE_EXPERIMENT_STATES`. -/
def negativeExperimentStates : List String := ["EXECUTION_FAILED", "BLOCKED", "BUDGET_EXHAUSTED"]

/-- The experiment ended in a state that tells against it. -/
def ExperimentSource.isNegative (source : ExperimentSource) : Bool :=
  negativeExperimentStates.any fun state => state.toList = source.executionState.val

def negativeItem (runId : Required) (source : ExperimentSource) : ContextItem where
  itemId := Required.labelled "neg:" (by decide) source.experimentId.val
  epistemicClass := .negativeEvidence
  statement := "Experiment ".toList ++ source.experimentId.val ++ " ended in ".toList ++
    source.executionState.val ++ " under this research run. ".toList ++
    "This is not a Hypothesis verdict.".toList
  sourceReferences := [source.experimentId.val, source.hypothesisId.val]
  payload := some [
    ("experiment_id".toList, .text source.experimentId.val),
    ("hypothesis_id".toList, .text source.hypothesisId.val),
    ("execution_state".toList, .text source.executionState.val),
    ("context_identity".toList, .text runId.val)]

/-- An item for as much of a text from outside as there is room for. -/
def externalItem (source : ExternalContentSource) (limit : Nat) : ContextItem where
  itemId := Required.labelled "ext:" (by decide) source.externalId.val
  epistemicClass := .untrustedExternal
  statement := (truncateText source.content limit).1
  sourceReferences := [source.sourceReference.val]
  truncated := (truncateText source.content limit).2.2
  omittedCharacters := (truncateText source.content limit).2.1
  payload := some [
    ("untrusted".toList, .bool true),
    ("instruction_authority".toList, .bool false),
    ("source_reference".toList, .text source.sourceReference.val)]

/-- What the loop over the texts from outside makes. -/
structure ExternalPass where
  items : List ContextItem
  omitted : List Text
  truncated : List Text

/-- The loop, with the characters that remain. -/
def externalPass : Nat → List ExternalContentSource → ExternalPass
  | _, [] => ⟨[], [], []⟩
  | remaining, source :: rest =>
    if remaining = 0 then
      let later := externalPass remaining rest
      { later with omitted := source.externalId.val :: later.omitted }
    else
      let item := externalItem source remaining
      let later := externalPass (remaining - item.statement.length) rest
      { later with
        items := item :: later.items
        truncated :=
          if item.truncated then source.externalId.val :: later.truncated else later.truncated }

/-! ## The builder -/

/-- The run as a fact. -/
def runItem (runId : Required) : ContextItem where
  itemId := Required.labelled "run:" (by decide) runId.val
  epistemicClass := .authoritativeFact
  statement := "ResearchRun ".toList ++ runId.val ++ " is the active SoR research run.".toList
  sourceReferences := [runId.val]

/-- The question as a procedure. -/
def questionItem (runId question : Required) : ContextItem where
  itemId := ⟨"proc:research-question".toList, by decide⟩
  epistemicClass := .procedural
  statement := question.val
  sourceReferences := [runId.val]

/-- What `build` makes of sources whose texts are in order. -/
def contextBody (request : ContextRequest) (runId question : Required)
    (unresolved : List Required) : ContextBody :=
  let budget := request.budget.getD .default
  let observations := sortedTake (fun s : ObservationSource => s.observationId.val)
    request.observations budget.maxObservationItems.val
  let hypotheses := sortedTake (fun s : HypothesisSource => s.hypothesisId.val)
    request.priorHypotheses budget.maxPriorHypothesisItems.val
  let negatives := sortedTake (fun s : ExperimentSource => s.experimentId.val)
    (request.experiments.filter (·.isNegative)) budget.maxNegativeEvidenceItems.val
  let external := externalPass budget.maxExternalContentCharacters.val
    (sortedBy (fun s : ExternalContentSource => s.externalId.val) request.untrustedExternal)
  { researchRunId := runId
    researchQuestion := question
    budget := budget
    authoritativeFacts := [runItem runId]
    observations := observations.1.map observationItem
    deterministicDerivations :=
      (sortedBy (fun s : ExperimentSource => s.experimentId.val)
        request.experiments).map derivationItem ++
      (sortedBy (fun s : DifferentialContextSource => s.sourceId.val)
        request.differentials).map differentialItem
    inferences := (sortedBy (fun s : InferenceSource => s.sourceId.val)
      request.inferences).map inferenceItem
    priorHypotheses := hypotheses.1.map hypothesisItem
    negativeEvidence := negatives.1.map (negativeItem runId)
    proceduralContext := [questionItem runId question]
    unresolvedQuestions := unresolved
    untrustedExternalContent := external.items
    omission := {
      omittedObservationIds := observations.2
      omittedHypothesisIds := hypotheses.2
      omittedNegativeEvidenceIds := negatives.2.map fun id => "neg:".toList ++ id
      omittedExternalIds := external.omitted
      truncatedExternalIds := external.truncated }
    invariantHypotheses := (sortedBy (fun s : InvariantContextSource => s.sourceId.val)
      request.invariantHypotheses).map invariantItem
    chainHypotheses := (sortedBy (fun s : ChainContextSource => s.sourceId.val)
      request.chainHypotheses).map chainItem
    researchOpportunities := (sortedBy (fun s : OpportunityContextSource => s.sourceId.val)
      request.researchOpportunities).map opportunityItem
    changeEvents := (sortedBy (fun s : ChangeEventContextSource => s.sourceId.val)
      request.changeEvents).map changeItem }

/-- `ResearchContextBuilder.build`. -/
def build (sha256 : Text → Required) (request : ContextRequest) :
    Except String ResearchContext := do
  let runId ← requireText request.researchRunId "research_run_id"
  let question ← requireText request.researchQuestion "research_question"
  let unresolved ← request.unresolvedQuestions.mapM (requireText · "unresolved_questions")
  let body := contextBody request runId question unresolved
  .ok { body with fingerprint := canonicalFingerprint sha256 body.document }

end Zest.Reasoning

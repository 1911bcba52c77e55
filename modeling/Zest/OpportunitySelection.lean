import Zest.Exploration
import Zest.Fallible

/-! # Selecting research opportunities

One call is one unit of work.  It proposes diagnostic opportunities from what the
run has found, adds the candidates that others have left pending, lets the policy
decide, and writes down an opportunity for each that is selected, a row for each
decision, and the end of a candidate whose decision will not change.

The tables here hold the rows of one run.
-/
namespace Zest.Exploration

/-! ## Rows -/

structure ResearchOpportunityRecord extends ResearchOpportunity where
  createdAt : Instant

structure ResearchSelectionRecord where
  selectionId : Id
  researchRunId : Id
  opportunityId : OpportunityId
  outcome : SelectionOutcome
  reasonCodes : List String
  structuralIdentity : StructuralIdentity
  createdAt : Instant

inductive CandidateSourceSystem where
  | hunterCoverage
  | registryExternalAnomaly
  deriving DecidableEq, Repr

/-- What a producer proposes.  The kind is that of the producer, and the structural
identity is that of the proposal's own fields. -/
structure CandidateProposal where
  candidateId : CandidateId
  sourceSystem : CandidateSourceSystem
  mode : OpportunityMode
  sourceRefs : List Text
  proposedDirection : Text
  unresolvedQuestion : Text
  expectedInformationValueDescription : Text
  assumptions : List Text
  dimensions : OpportunityDimensions
  contextSignature : Text
  strategyVersion : Text
  createdAt : Instant

def CandidateProposal.opportunityKind (c : CandidateProposal) : OpportunityKind :=
  match c.sourceSystem with
  | .hunterCoverage => .hunterCoverageGap
  | .registryExternalAnomaly => .registryExternalExploratory

def CandidateProposal.structuralIdentity (c : CandidateProposal) : StructuralIdentity :=
  ⟨c.opportunityKind, c.sourceRefs, c.contextSignature, c.proposedDirection⟩

inductive CandidateOutcome where
  | pending
  | admitted
  | notAdmitted
  deriving DecidableEq, Repr

structure OpportunitySelectionCandidateRecord extends CandidateProposal where
  outcome : CandidateOutcome
  resultingOpportunityId : Option OpportunityId
  decidedAt : Option Instant

/-- A proposal that nobody has decided. -/
def CandidateProposal.pending (c : CandidateProposal) : OpportunitySelectionCandidateRecord where
  toCandidateProposal := c
  outcome := .pending
  resultingOpportunityId := none
  decidedAt := none

structure Store where
  opportunities : List ResearchOpportunityRecord
  selections : List ResearchSelectionRecord
  candidates : List OpportunitySelectionCandidateRecord

/-- The structural identities of the opportunities. -/
def Store.identities (s : Store) : List StructuralIdentity :=
  s.opportunities.map (·.structuralIdentity)

/-! ## The producers of candidates -/

/-- A producer leaves a candidate, unless its identity is taken by a candidate or by
an opportunity, or its identifier is. -/
def Store.propose (s : Store) (c : CandidateProposal) : Store :=
  if s.candidates.any (fun old => old.candidateId == c.candidateId ||
      old.structuralIdentity == c.structuralIdentity) || s.identities.contains c.structuralIdentity
  then s
  else { s with candidates := s.candidates ++ [c.pending] }

/-- An unexplained difference between identities, as the anomaly source has classified
it. -/
structure IdentityAnomalyContext where
  sourceId : Text
  contextSignature : Text

/-- `IDENTITY_ANOMALY_STRATEGY_VERSION`. -/
def identityAnomalyStrategyVersion : Text := "identity_anomaly.registry_external.v1".toList

/-- `IDENTITY_ANOMALY_DIRECTION`. -/
def identityAnomalyDirection : Text :=
  ("Discriminate unexplained identity-dependent response divergence with a " ++
    "bounded authorization-differential control experiment.").toList

/-- `_candidate_from_context`. -/
def candidateFromContext (now : Instant) (context : IdentityAnomalyContext) :
    CandidateProposal where
  candidateId := .digest
    ⟨.registryExternalExploratory, [context.sourceId], context.contextSignature,
      identityAnomalyDirection⟩
  sourceSystem := .registryExternalAnomaly
  mode := .exploration
  sourceRefs := [context.sourceId]
  proposedDirection := identityAnomalyDirection
  unresolvedQuestion :=
    ("Is the identity-dependent divergence explained by an unmodelled access " ++
      "invariant, or by benign representation or session variance?").toList
  expectedInformationValueDescription :=
    ("A registry-external identity differential can be discriminated by " ++
      "one bounded existing compiler using durable source identities.").toList
  assumptions :=
    ["Opportunity is not authorization", "Opportunity is not Evidence",
      "HunterFamily registry is unchanged by this proposal"].map String.toList
  dimensions :=
    { expectedInformationValue := .high
      securityRelevancePotential := .medium
      noveltyComposition := .high
      unresolvedUncertainty := .high
      chainPotential := .low
      evidenceCoverage := .low
      executionCost := .low
      sideEffectRequirement := 0
      duplicateRisk := .medium
      previousFailedAttempts := 0 }
  contextSignature := context.contextSignature
  strategyVersion := identityAnomalyStrategyVersion
  createdAt := now

/-- The context was proposed or selected before. -/
def Store.contextSeen (s : Store) (contextSignature : Text) : Bool :=
  s.candidates.any (fun c => c.strategyVersion == identityAnomalyStrategyVersion &&
      c.contextSignature == contextSignature) ||
    s.opportunities.any fun o => o.strategyVersion == identityAnomalyStrategyVersion &&
      o.contextSignature == contextSignature

/-- `admit_registry_external_anomaly_candidates`, over the contexts that it classifies
as external to the registry and that a compiler has arguments for. -/
def admitRegistryExternalAnomalyCandidates (now : Instant)
    (contexts : List IdentityAnomalyContext) (s : Store) : Store :=
  contexts.foldl (fun s context =>
    if s.contextSeen context.contextSignature then s
    else s.propose (candidateFromContext now context)) s

/-! ## Diagnostic opportunities -/

structure DiagnosticOpportunitySources where
  differentialIds : List Text
  invariantIds : List Text
  chainIds : List Text
  changeEventIds : List Text
  hypothesisIds : List Text
  negativeKnowledge : List NegativeKnowledge

/-- The part of a diagnostic opportunity that differs between the proposals. -/
structure DiagnosticProposal where
  source : String
  kind : OpportunityKind
  mode : OpportunityMode
  sourceRef : Text
  direction : String
  question : String
  information : String
  contextSignature : Text
  dimensions : OpportunityDimensions
  priorAttemptRefs : List Text
  novelty : Bool

/-- `_diagnostic_dimensions`. -/
def diagnosticDimensions (information novelty uncertainty chainPotential duplicateRisk : OrdinalLevel)
    (failedAttempts : Nat) : OpportunityDimensions where
  expectedInformationValue := information
  securityRelevancePotential := .low
  noveltyComposition := novelty
  unresolvedUncertainty := uncertainty
  chainPotential := chainPotential
  evidenceCoverage := .low
  executionCost := .low
  sideEffectRequirement := 0
  duplicateRisk := duplicateRisk
  previousFailedAttempts := failedAttempts

/-- The direction of a follow-up of a hypothesis. -/
def followupDirection : String :=
  "Continue the existing diagnostic hypothesis with a control echo."

def differentialProposal (id : Text) : DiagnosticProposal where
  source := "diff"
  kind := .differentialFollowup
  mode := .exploitation
  sourceRef := id
  direction := "Reproduce the controlled diagnostic input difference."
  question := "Does the diagnostic echo still differ by submitted input?"
  information := "Closing a controlled diagnostic difference is high information."
  contextSignature := "differential:".toList ++ id
  dimensions := diagnosticDimensions .high .low .medium .low .low 0
  priorAttemptRefs := []
  novelty := false

def invariantProposal (id : Text) : DiagnosticProposal where
  source := "inv"
  kind := .invariantChallenge
  mode := .exploration
  sourceRef := id
  direction := "Challenge the diagnostic input/output correspondence invariant."
  question := "Does diagnostic.echo still correspond across a new input?"
  information := "An untested invariant boundary is informative even if weak."
  contextSignature := "invariant:".toList ++ id
  dimensions := diagnosticDimensions .high .medium .high .medium .low 0
  priorAttemptRefs := []
  novelty := true

def chainProposal (id : Text) : DiagnosticProposal where
  source := "chain"
  kind := .chainExtension
  mode := .exploration
  sourceRef := id
  direction := "Extend the diagnostic echo chain under a second input."
  question := "Does a second diagnostic step still compose without a causal leap?"
  information := "An unresolved chain assumption is worth a bounded extension."
  contextSignature := "chain:".toList ++ id
  dimensions := diagnosticDimensions .medium .high .high .high .low 0
  priorAttemptRefs := []
  novelty := true

def changeProposal (id : Text) : DiagnosticProposal where
  source := "change"
  kind := .differentialFollowup
  mode := .exploration
  sourceRef := id
  direction := "Investigate a diagnostic ChangeEvent as a TIME-backed difference."
  question := "What diagnostic behavior changed between snapshot t1 and t2?"
  information := "A temporal change can reopen research without rewriting history."
  contextSignature := "change:".toList ++ id
  dimensions := diagnosticDimensions .high .medium .high .low .low 0
  priorAttemptRefs := []
  novelty := true

def hypothesisProposal (id : Text) : DiagnosticProposal where
  source := "hyp"
  kind := .hypothesisFollowup
  mode := .exploitation
  sourceRef := id
  direction := followupDirection
  question := "Does a repeated diagnostic echo still round-trip?"
  information := "A control experiment can close remaining diagnostic ambiguity."
  contextSignature := "hypothesis:".toList ++ id
  dimensions := diagnosticDimensions .medium .low .low .low .medium 0
  priorAttemptRefs := []
  novelty := false

def negativeProposal (negative : NegativeKnowledge) : DiagnosticProposal where
  source := "neg"
  kind := .negativeKnowledgeRevisit
  mode := .exploration
  sourceRef := negative.assessmentRef
  direction := "Revisit a previously contradicted diagnostic direction under new context."
  question := "Is the earlier contradiction still applicable after context change?"
  information := "Changed context can make a failed test informative again."
  contextSignature := "revisit:".toList ++ negative.contextSignature ++ ":new".toList
  dimensions := diagnosticDimensions .medium .medium .high .low .low 1
  priorAttemptRefs := [negative.assessmentRef]
  novelty := true

/-- The proposals in the order of their numbers. -/
def diagnosticProposals (sources : DiagnosticOpportunitySources) : List DiagnosticProposal :=
  sources.differentialIds.map differentialProposal ++
    sources.invariantIds.map invariantProposal ++ sources.chainIds.map chainProposal ++
    sources.changeEventIds.map changeProposal ++ sources.hypothesisIds.map hypothesisProposal ++
    sources.negativeKnowledge.map negativeProposal

/-- `EXPLORATION_STRATEGY_VERSION`. -/
def explorationStrategyVersion : Text := "exploration.diagnostic.echo.v1".toList

/-- `_opportunity`. -/
def diagnosticOpportunity (researchRunId cycle : Id) (index : Nat) (p : DiagnosticProposal) :
    ResearchOpportunity where
  opportunityId := .diagnostic cycle p.source index
  researchRunId := researchRunId
  opportunityKind := p.kind
  mode := p.mode
  sourceRefs := [p.sourceRef.strip]
  proposedDirection := p.direction.toList
  unresolvedQuestion := p.question.toList
  expectedInformationValueDescription := p.information.toList
  assumptions := ["diagnostic.echo is plumbing, not authorization".toList]
  dimensions := p.dimensions
  contextSignature := p.contextSignature.strip
  noveltyCompositionMarker := p.novelty
  priorAttemptRefs := p.priorAttemptRefs.map Text.strip
  strategyVersion := explorationStrategyVersion
  structuralIdentity := ⟨p.kind, [p.sourceRef], p.contextSignature, p.direction.toList⟩

/-- `propose_diagnostic_opportunities`. -/
def proposeDiagnosticOpportunities (researchRunId cycle : Id)
    (sources : DiagnosticOpportunitySources) : List ResearchOpportunity :=
  ((diagnosticProposals sources).zipIdx 1).map fun (p, index) =>
    diagnosticOpportunity researchRunId cycle index p

/-! ## The use case -/

structure HypothesisAssessment where
  assessmentId : Text
  hypothesisId : Text
  assessmentOutcome : String

/-- What a call reads from tables that no step here writes, in the order it reads
them. -/
structure RunView where
  runFound : Bool
  differentialIds : List Text
  invariantIds : List Text
  chainIds : List Text
  changeEventIds : List Text
  hypothesisIds : List Text
  assessments : List HypothesisAssessment
  /-- What the anomaly source makes of the run: the contexts it proposes, and the
  differentials that are left to it. -/
  anomalyContexts : List IdentityAnomalyContext
  identityDifferentialIds : List Text

/-- A call, with what it finds and draws: the allowance, the clock, the prefix and the
identifiers of its rows, and the order of the identifiers in the database. -/
structure Call where
  view : RunView
  budget : Option ResearchPolicyBudget
  now : Instant
  idPrefix : Id
  newId : Nat → Id
  order : List OpportunitySelectionCandidateRecord → List OpportunitySelectionCandidateRecord
  order_perm : ∀ candidates, (order candidates).Perm candidates

/-- The negative knowledge of the assessments. -/
def negativesOf (assessments : List HypothesisAssessment) : List NegativeKnowledge :=
  (assessments.filter (·.assessmentOutcome == "CONTRADICTS_PREDICTION")).map fun a =>
    let context := "hypothesis:".toList ++ a.hypothesisId
    { structuralIdentity :=
        ⟨.hypothesisFollowup, [a.hypothesisId], context, followupDirection.toList⟩
      contextSignature := Text.strip context
      strategyVersion := explorationStrategyVersion
      assessmentRef := a.assessmentId }

def Call.sources (call : Call) : DiagnosticOpportunitySources where
  differentialIds :=
    call.view.differentialIds.filter fun id => !call.view.identityDifferentialIds.contains id
  invariantIds := call.view.invariantIds
  chainIds := call.view.chainIds
  changeEventIds := call.view.changeEventIds
  hypothesisIds := call.view.hypothesisIds
  negativeKnowledge := negativesOf call.view.assessments

/-- A check that raises. -/
def raiseIf (bad : Bool) (message : String) : Except String Unit :=
  if bad then .error message else .ok ()

section UseCase

variable (lower : Text → Text) (researchRunId : Id)

/-- `_opportunity_from_candidate`, with the checks that a stored candidate can fail. -/
def opportunityFromCandidate (c : OpportunitySelectionCandidateRecord) :
    Except String ResearchOpportunity := do
  raiseIf (c.expectedInformationValueDescription.strip == [])
    "expected_information_value_description must be a non-empty string"
  raiseIf (c.assumptions.any (·.strip == [])) "assumptions must be non-empty strings"
  let claim := lower (c.proposedDirection.strip ++ " ".toList ++ c.unresolvedQuestion.strip)
  raiseIf (claim.hasInfix "vulnerability".toList || claim.hasInfix "exploit".toList)
    "opportunity must not claim a vulnerability or exploit"
  return {
    opportunityId := .candidate c.candidateId
    researchRunId := researchRunId
    opportunityKind := c.opportunityKind
    mode := c.mode
    sourceRefs := c.sourceRefs.map Text.strip
    proposedDirection := c.proposedDirection.strip
    unresolvedQuestion := c.unresolvedQuestion.strip
    expectedInformationValueDescription := c.expectedInformationValueDescription.strip
    assumptions := c.assumptions.map Text.strip
    dimensions := c.dimensions
    contextSignature := c.contextSignature.strip
    noveltyCompositionMarker := false
    priorAttemptRefs := []
    strategyVersion := c.strategyVersion.strip
    structuralIdentity := c.structuralIdentity }

/-- The candidates that a call finds pending, its anomaly source having proposed. -/
def Store.pendingCandidates (s : Store) (call : Call) :
    List OpportunitySelectionCandidateRecord :=
  (call.order s.candidates).filter (·.outcome = .pending)

/-- The decisions of a call over the store that its anomaly source has left.  The
opportunities are as they were before it. -/
def decisionsOf (call : Call) (s : Store) : Except String (List ResearchSelectionDecision) := do
  let candidates ← (s.pendingCandidates call).mapM
    (opportunityFromCandidate lower researchRunId)
  return selectResearchOpportunities researchRunId (call.budget.getD .default)
    (negativesOf call.view.assessments) s.identities
    (proposeDiagnosticOpportunities researchRunId call.idPrefix call.sources ++ candidates)

/-- The opportunity of a decision to select is written, unless its identity has been
written before. -/
def insertOpportunity (now : Instant) (o : ResearchOpportunity) (s : Store) : Except String Store :=
  if s.opportunities.any fun old => old.opportunityId == o.opportunityId ||
      old.structuralIdentity == o.structuralIdentity then
    if s.identities.contains o.structuralIdentity then .ok s else .error "persistence conflict"
  else .ok { s with opportunities := s.opportunities ++ [{ o with createdAt := now }] }

/-- `_CANDIDATE_TERMINAL_OUTCOMES`. -/
def candidateTerminalOutcome : SelectionOutcome → Option CandidateOutcome
  | .select => some .admitted
  | .skipDuplicate => some .notAdmitted
  | .blockedPolicy => some .notAdmitted
  | _ => none

/-- `mark_decided`: a candidate is decided once. -/
def Store.markDecided (s : Store) (candidateId : CandidateId) (outcome : CandidateOutcome)
    (resultingOpportunityId : Option OpportunityId) (now : Instant) : Store :=
  { s with
    candidates := s.candidates.map fun c =>
      if c.candidateId = candidateId ∧ c.outcome = .pending then
        { c with
          outcome := outcome
          resultingOpportunityId := resultingOpportunityId
          decidedAt := some now }
      else c }

/-- The candidate of a decision is retired, if the decision is one that will not
change. -/
def retire (now : Instant) (candidateIds : List CandidateId) (d : ResearchSelectionDecision)
    (s : Store) : Store :=
  match d.opportunity.opportunityId, candidateTerminalOutcome d.outcome with
  | .candidate candidateId, some outcome =>
    if candidateIds.contains candidateId then
      s.markDecided candidateId outcome
        (if outcome = .admitted then some d.opportunity.opportunityId else none) now
    else s
  | _, _ => s

/-- The row of a decision. -/
def selectionRow (call : Call) (index : Nat) (d : ResearchSelectionDecision) :
    ResearchSelectionRecord where
  selectionId := call.newId index
  researchRunId := researchRunId
  opportunityId := d.opportunity.opportunityId
  outcome := d.outcome
  reasonCodes := d.reasonCodes
  structuralIdentity := d.opportunity.structuralIdentity
  createdAt := call.now

/-- The opportunity of a decision is written if it is selected. -/
def writeOpportunity (now : Instant) (d : ResearchSelectionDecision) (s : Store) :
    Except String Store :=
  if d.selected then insertOpportunity now d.opportunity s else .ok s

/-- The body of the loop over the decisions. -/
def recordDecision (call : Call) (candidateIds : List CandidateId) (index : Nat)
    (d : ResearchSelectionDecision) (s : Store) : Except String Store := do
  let s ← writeOpportunity call.now d s
  raiseIf (s.selections.any (·.selectionId == call.newId index)) "persistence conflict"
  return retire call.now candidateIds d
    { s with selections := s.selections ++ [selectionRow researchRunId call index d] }

/-- The loop over the decisions, from a number on. -/
def recordDecisions (call : Call) (candidateIds : List CandidateId) :
    Nat → List ResearchSelectionDecision → Store → Except String Store
  | _, [], s => .ok s
  | index, d :: rest, s => do
    let s ← recordDecision researchRunId call candidateIds index d s
    recordDecisions call candidateIds (index + 1) rest s

/-- The store as the anomaly source of the call leaves it. -/
def Call.admitted (call : Call) (s : Store) : Store :=
  admitRegistryExternalAnomalyCandidates call.now call.view.anomalyContexts s

/-- `SelectResearchOpportunities.execute`, one unit of work. -/
def execute (call : Call) (s : Store) : Except String (Store × List ResearchSelectionDecision) := do
  raiseIf (!call.view.runFound) "research run not found"
  let s := call.admitted s
  let decisions ← decisionsOf lower researchRunId call s
  let t ← recordDecisions researchRunId call ((s.pendingCandidates call).map (·.candidateId)) 0
    decisions s
  return (t, decisions)

end UseCase

end Zest.Exploration

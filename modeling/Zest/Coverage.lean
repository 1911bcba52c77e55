import Mathlib.Data.Char
import Mathlib.Data.List.Lex
import Mathlib.Data.List.Sort
import Zest.HuntCycle

/-! # Coverage debt

The coverage matrix says how far the hunt has come with each cell, that is each
node, identity and family.  It is read off the ledger: the hypotheses of the run
are bound to cells by the audit events about them, and the type of an event says
which tier the hypothesis has passed.

The rows are read in the order that the database gives them; here they are lists
that the reader is given.
-/
namespace Zest.Hunt

/-! ## The hypotheses as the matrix sees them -/

/-- `CoverageHypothesisView`.  The fields after the data are what its constructor
checks. -/
structure CoverageHypothesisView where
  hypothesisId : Option Id
  familyId : Text
  nodeCanonicalKey : Text
  identityId : Option Text
  highestTier : String
  familyId_nonempty : familyId.strip ≠ []
  nodeCanonicalKey_nonempty : nodeCanonicalKey.strip ≠ []
  identityId_nonempty : identityId.all (fun identity => identity.strip ≠ []) = true
  highestTier_recognized : highestTier ∈ ["UNTESTED", "V1", "V2", "V3_QUEUED", "COVERED"]

/-- The constructor. -/
def CoverageHypothesisView.make (hypothesisId : Option Id) (familyId nodeCanonicalKey : Text)
    (identityId : Option Text) (highestTier : String) : Except String CoverageHypothesisView :=
  if hfamily : familyId.strip ≠ [] then
    if hnode : nodeCanonicalKey.strip ≠ [] then
      if hidentity : identityId.all (fun identity => identity.strip ≠ []) = true then
        if htier : highestTier ∈ ["UNTESTED", "V1", "V2", "V3_QUEUED", "COVERED"] then
          .ok ⟨hypothesisId, familyId, nodeCanonicalKey, identityId, highestTier, hfamily, hnode,
            hidentity, htier⟩
        else .error "highest_tier is not a recognized coverage tier"
      else .error "identity_id must be a non-empty string or None"
    else .error "node_canonical_key must be a non-empty string"
  else .error "family_id must be a non-empty string"

/-- `_TIER_PASS_EVENTS.get`. -/
def tierPassEvents (eventType : String) : Option String :=
  if eventType = "HYPOTHESIS_TIER_V1_PASSED" then some "V1"
  else if eventType = "HYPOTHESIS_TIER_V2_PASSED" then some "V2"
  else if eventType = "HYPOTHESIS_TIER_V3_QUEUED" then some "V3_QUEUED"
  else none

/-- `_tier_rank`. -/
def tierRank (tier : String) : Nat :=
  if tier = "V1" then 1
  else if tier = "V2" then 2
  else if tier = "V3_QUEUED" then 3
  else if tier = "COVERED" then 4
  else 0

/-- `sorted` by the time of the events, which is stable. -/
def byTime (events : List AuditEventRecord) : List AuditEventRecord :=
  events.insertionSort fun a b => a.occurredAt ≤ b.occurredAt

/-- `sorted` by the time, the latest first. -/
def byTimeReversed (events : List AuditEventRecord) : List AuditEventRecord :=
  events.insertionSort fun a b => b.occurredAt ≤ a.occurredAt

/-- `_highest_tier_from_events`. -/
def highestTierFromEvents (events : List AuditEventRecord) : String :=
  (byTime events).foldl (fun highest event =>
    match tierPassEvents event.eventType with
    | some tier => if tierRank highest < tierRank tier then tier else highest
    | none => highest) "UNTESTED"

/-- The node, the family and the identity that one event names. -/
def nodeFamilyIdentity (event : AuditEventRecord) : Option (Text × Text × Option Text) :=
  match event.payload.nodeCanonicalKey, event.payload.familyId with
  | some nodeKey, some familyId =>
    if nodeKey ≠ [] ∧ familyId ≠ [] then
      some (nodeKey, familyId, event.payload.identityId.filter (· ≠ []))
    else none
  | _, _ => none

/-- `_node_family_identity_from_events`. -/
def nodeFamilyIdentityFromEvents (events : List AuditEventRecord) :
    Option (Text × Text × Option Text) :=
  (byTimeReversed events).findSome? nodeFamilyIdentity

/-- `audit_by_hypothesis`: the events about a hypothesis, less those of another
run. -/
def eventsOf (researchRunId hypothesisId : Id) (events : List AuditEventRecord) :
    List AuditEventRecord :=
  events.filter fun event =>
    event.subject = .hypothesis hypothesisId &&
      event.correlationId.all (· = researchRunId) &&
      event.payload.researchRunId.all (· = researchRunId)

/-- What `build_coverage_hypothesis_view` makes of one hypothesis. -/
def hypothesisView (researchRunId : Id) (events : List AuditEventRecord)
    (hypothesis : HypothesisRecord) : Except String (Option CoverageHypothesisView) :=
  let own := eventsOf researchRunId hypothesis.hypothesisId events
  match nodeFamilyIdentityFromEvents own with
  | none => .ok none
  | some (nodeKey, familyId, auditIdentityId) =>
    (CoverageHypothesisView.make (some hypothesis.hypothesisId) familyId nodeKey
      (hypothesis.identityId <|> auditIdentityId) (highestTierFromEvents own)).map some

/-- `build_coverage_hypothesis_view`, of the rows that it has read. -/
def buildCoverageHypothesisView (researchRunId : Id) (events : List AuditEventRecord) :
    List HypothesisRecord → Except String (List CoverageHypothesisView)
  | [] => .ok []
  | hypothesis :: rest => do
    let view ← hypothesisView researchRunId events hypothesis
    let views ← buildCoverageHypothesisView researchRunId events rest
    .ok (view.toList ++ views)

/-! ## The matrix -/

/-- `_tier_to_state`. -/
def tierToState (tier : String) : CoverageState :=
  if tier = "V1" then .v1Passed
  else if tier = "V2" then .v2Passed
  else if tier = "V3_QUEUED" then .v3Queued
  else if tier = "COVERED" then .covered
  else .untested

/-- `_missing_evidence_for_state`. -/
def missingEvidenceForState (state : CoverageState) (family : HunterFamilyView) : List Text :=
  match state with
  | .covered | .notApplicable => []
  | .untested => ["NO_HYPOTHESIS".toList]
  | .hypothesized => ["HYPOTHESIS_NOT_VALIDATED".toList]
  | .v1Passed => ["V2_EVIDENCE_MISSING".toList, "family:".toList ++ family.familyId]
  | .v2Passed => ["V3_APPROVAL_MISSING".toList, "family:".toList ++ family.familyId]
  | .v3Queued => ["ACTIVE_EXPERIMENT_PENDING".toList, "family:".toList ++ family.familyId]

/-- `specific`: the last view of a node, family and identity. -/
def specificView (views : List CoverageHypothesisView) (nodeKey familyId identityId : Text) :
    Option CoverageHypothesisView :=
  (views.filter fun view => view.nodeCanonicalKey = nodeKey ∧ view.familyId = familyId ∧
    view.identityId = some identityId).getLast?

/-- `agnostic`: the first of the highest views of a node and family that have no
identity. -/
def agnosticView (views : List CoverageHypothesisView) (nodeKey familyId : Text) :
    Option CoverageHypothesisView :=
  (views.filter fun view => view.nodeCanonicalKey = nodeKey ∧ view.familyId = familyId ∧
    view.identityId = none).foldl (fun existing view =>
      match existing with
      | none => some view
      | some kept => if tierRank kept.highestTier < tierRank view.highestTier then some view
        else existing) none

/-- The state of a cell of a node in scope. -/
def cellState (views : List CoverageHypothesisView) (nodeKey familyId identityId : Text) :
    CoverageState :=
  match specificView views nodeKey familyId identityId <|> agnosticView views nodeKey familyId with
  | none => .untested
  | some view =>
    let state := tierToState view.highestTier
    if state = .untested ∧ view.hypothesisId ≠ none then .hypothesized else state

/-- The arguments of the constructor of a cell. -/
structure CellDraft where
  nodeCanonicalKey : Text
  identityId : Text
  familyId : Text
  state : CoverageState
  missingEvidence : List Text

/-- The constructor of a cell. -/
def CoverageCell.make (draft : CellDraft) : Except String CoverageCell :=
  if hnode : draft.nodeCanonicalKey.strip ≠ [] then
    if hidentity : draft.identityId.strip ≠ [] then
      if hfamily : draft.familyId.strip ≠ [] then
        .ok ⟨draft.nodeCanonicalKey, draft.identityId, draft.familyId, draft.state,
          draft.missingEvidence, hnode, hidentity, hfamily⟩
      else .error "family_id must be a non-empty string"
    else .error "identity_id must be a non-empty string"
  else .error "node_canonical_key must be a non-empty string"

/-- `_kind_matched_families`. -/
def kindMatchedFamilies (node : AttackSurfaceNode) (registry : List HunterFamilyView) :
    List HunterFamilyView :=
  registry.filter fun family => family.enabled && family.targetNodeKinds.contains node.kind.value

/-- The cells of one node: debt where it is in scope, and else one cell for each
family that is not applicable. -/
def nodeDrafts (graph : AttackSurfaceGraph) (registry : List HunterFamilyView)
    (views : List CoverageHypothesisView) (node : AttackSurfaceNode) : List CellDraft :=
  if node.scopeClassification ≠ .inScope then
    (kindMatchedFamilies node registry).map fun family =>
      ⟨node.canonicalKey, anonymousIdentity, family.familyId, .notApplicable, []⟩
  else
    (familiesForNode node graph registry).flatMap fun family =>
      (identityIdsForNode node).map fun identityId =>
        let state := cellState views node.canonicalKey family.familyId identityId
        ⟨node.canonicalKey, identityId, family.familyId, state,
          missingEvidenceForState state family⟩

/-- `_cell_key`. -/
def CoverageCell.key (cell : CoverageCell) : List Text :=
  [cell.nodeCanonicalKey, cell.identityId, cell.familyId]

/-- `CoverageMatrix`. -/
structure CoverageMatrix where
  cells : List CoverageCell

/-- `cell_counts.get(state, 0)`. -/
def CoverageMatrix.cellCount (matrix : CoverageMatrix) (state : CoverageState) : Nat :=
  matrix.cells.countP fun cell => cell.state = state

def CoverageMatrix.totalDebt (matrix : CoverageMatrix) : Nat :=
  matrix.cells.countP fun cell =>
    cell.state ∈ [.untested, .hypothesized, .v1Passed, .v2Passed, .v3Queued]

/-- `compute_coverage_debt`. -/
def computeCoverageDebt (graph : AttackSurfaceGraph) (registry : List HunterFamilyView)
    (views : List CoverageHypothesisView) : Except String CoverageMatrix := do
  let cells ← (graph.nodes.flatMap (nodeDrafts graph registry views)).mapM CoverageCell.make
  .ok ⟨cells.insertionSort fun a b => a.key ≤ b.key⟩

/-- The matrix of a run, from the rows of its hypotheses and of the audit events
about hypotheses. -/
def coverageDebtView (graph : AttackSurfaceGraph) (registry : List HunterFamilyView)
    (researchRunId : Id) (hypotheses : List HypothesisRecord) (events : List AuditEventRecord) :
    Except String CoverageMatrix := do
  let views ← buildCoverageHypothesisView researchRunId events hypotheses
  computeCoverageDebt graph registry views

end Zest.Hunt

import Zest.AttackSurface
import Zest.Orchestration
import Zest.UnitOfWork

/-! # The hunt cycle

A cycle of the hunt walks the attack surface.  It generates a hypothesis for
every node, identity and family that it is to look at, in one transaction, and
then takes each hypothesis through its tiers: V1 checks the preconditions once
more, V2 looks at passive evidence, V3 puts an active experiment in a queue.
Every decision is an audit event; nothing else remembers it.

A cycle is a program of units of work, and what is raised in one rolls it back.
-/
namespace Zest.Hunt

open UnitOfWork

/-- `CoverageState`: the lifecycle of one cell of the coverage matrix. -/
inductive CoverageState where
  | notApplicable
  | untested
  | hypothesized
  | v1Passed
  | v2Passed
  | v3Queued
  | covered
  deriving DecidableEq, Repr

/-- One cell of the coverage-debt matrix.  The fields after the data are what
its constructor checks. -/
structure CoverageCell where
  nodeCanonicalKey : Text
  identityId : Text
  familyId : Text
  state : CoverageState
  missingEvidence : List Text
  nodeCanonicalKey_nonempty : nodeCanonicalKey.strip ≠ []
  identityId_nonempty : identityId.strip ≠ []
  familyId_nonempty : familyId.strip ≠ []
  deriving DecidableEq

/-! ## The ledger -/

structure HypothesisRecord where
  hypothesisId : Id
  researchRunId : Id
  claim : Text
  originReference : Option Text
  identityId : Option Text
  deriving DecidableEq, Repr

/-- The type and the id of the subject of an event. -/
inductive AuditSubject where
  | hypothesis (hypothesisId : Id)
  | huntGeneration (nodeCanonicalKey : Text)
  deriving DecidableEq, Repr

/-- What the payload of an event has under each key; a key that is not there
gives `none`. -/
structure AuditPayload where
  researchRunId : Option Id := none
  familyId : Option Text := none
  nodeCanonicalKey : Option Text := none
  identityId : Option Text := none
  claim : Option Text := none
  validationTier : Option String := none
  tier : Option String := none
  outcome : Option String := none
  reasonCode : Option String := none
  queueId : Option Id := none
  totalIdentities : Option Nat := none
  maxIdentities : Option Nat := none
  deriving DecidableEq, Repr

structure AuditEventRecord where
  occurredAt : Instant
  eventType : String
  subject : AuditSubject
  correlationId : Option Id
  payload : AuditPayload
  deriving DecidableEq, Repr

inductive HuntV3QueueState where
  | pending
  | approved
  | run
  | blocked
  deriving DecidableEq, Repr

structure HuntV3QueueRecord where
  queueId : Id
  researchRunId : Id
  hypothesisId : Id
  familyId : Text
  nodeCanonicalKey : Text
  identityId : Option Text
  capability : String
  action : String
  arguments : Attributes
  sideEffectLevel : Nat
  state : HuntV3QueueState
  deriving DecidableEq, Repr

/-- The rows that the hunt reads and writes, in the order they were inserted. -/
structure Ledger where
  hypotheses : List HypothesisRecord
  auditEvents : List AuditEventRecord
  huntV3Queue : List HuntV3QueueRecord
  hunterFamilies : List HunterFamilyView

namespace Ledger

/-- `uow.audit_events.insert`. -/
def record (s : Ledger) (event : AuditEventRecord) : Ledger :=
  { s with auditEvents := s.auditEvents ++ [event] }

@[simp] theorem record_hypotheses (s : Ledger) (event : AuditEventRecord) :
    (s.record event).hypotheses = s.hypotheses := rfl

@[simp] theorem record_auditEvents (s : Ledger) (event : AuditEventRecord) :
    (s.record event).auditEvents = s.auditEvents ++ [event] := rfl

/-- `uow.hypotheses.insert`: the id is the primary key. -/
def insertHypothesis (s : Ledger) (hypothesis : HypothesisRecord) : Option Ledger :=
  if s.hypotheses.any fun row => row.hypothesisId = hypothesis.hypothesisId then none
  else some { s with hypotheses := s.hypotheses ++ [hypothesis] }

/-- `uow.hunt_v3_queue.insert`: the id is the primary key. -/
def enqueue (s : Ledger) (item : HuntV3QueueRecord) : Option Ledger :=
  if s.huntV3Queue.any fun row => row.queueId = item.queueId then none
  else some { s with huntV3Queue := s.huntV3Queue ++ [item] }

end Ledger

/-! ## Generation -/

def maxIdentitiesPerNode : Nat := 8

def anonymousIdentity : Text := "ANONYMOUS".toList

def identityIdsForNode (node : AttackSurfaceNode) : List Text :=
  if node.identityIds.isEmpty then [anonymousIdentity] else node.identityIds

/-- What the hunt calls and this model does not look into: `str.format`, which
fails where a placeholder is missing, and the arguments that an item of the V3
queue is planned with, which fail for a family whose plan cannot be built. -/
structure HuntServices where
  format : Text → Attributes → Option Text
  v3ArgumentsForFamily :
    HunterFamilyView → AttackSurfaceNode → Text → Option Text → Option Attributes

/-- `claim_from_template`; the later entries of the source's dictionary are the
first that are found here. -/
def HuntServices.claimFromTemplate (services : HuntServices) (node : AttackSurfaceNode)
    (family : HunterFamilyView) (extraContext : Attributes) : Option Text :=
  services.format family.claimTemplate
    (extraContext ++ ("canonical_key".toList, .text node.canonicalKey) :: node.attributes)

def generationAudit (occurredAt : Instant) (researchRunId hypothesisId : Id) (familyId : Text)
    (nodeCanonicalKey identityId claim : Text) (validationTier : String) : AuditEventRecord where
  occurredAt := occurredAt
  eventType := "HUNT_HYPOTHESIS_GENERATED"
  subject := .hypothesis hypothesisId
  correlationId := some researchRunId
  payload := {
    researchRunId := some researchRunId
    familyId := some familyId
    nodeCanonicalKey := some nodeCanonicalKey
    identityId := some identityId
    claim := some claim
    validationTier := some validationTier }

def cappedAudit (occurredAt : Instant) (researchRunId : Id) (familyId nodeCanonicalKey : Text)
    (totalIdentities : Nat) : AuditEventRecord where
  occurredAt := occurredAt
  eventType := "IDENTITY_EXPANSION_CAPPED"
  subject := .huntGeneration nodeCanonicalKey
  correlationId := some researchRunId
  payload := {
    researchRunId := some researchRunId
    familyId := some familyId
    nodeCanonicalKey := some nodeCanonicalKey
    totalIdentities := some totalIdentities
    maxIdentities := some maxIdentitiesPerNode
    reasonCode := some "IDENTITY_EXPANSION_CAPPED" }

/-- One thing that generation writes down. -/
inductive Emission where
  | hypothesis (node : AttackSurfaceNode) (family : HunterFamilyView) (identityId : Text)
  | capped (node : AttackSurfaceNode) (family : HunterFamilyView) (totalIdentities : Nat)

/-- `_generate_from_graph`: what it writes down, in order. -/
def emissionsFromGraph (graph : AttackSurfaceGraph) (registry : List HunterFamilyView) :
    List Emission :=
  graph.nodes.flatMap fun node =>
    (familiesForNode node graph registry).flatMap fun family =>
      ((identityIdsForNode node).take maxIdentitiesPerNode).map (.hypothesis node family) ++
        if maxIdentitiesPerNode < (identityIdsForNode node).length then
          [.capped node family (identityIdsForNode node).length]
        else []

/-- `_generate_from_schedule`.  In the dictionaries of the source the last node
or family with a key is the one that is found. -/
def emissionsFromSchedule (graph : AttackSurfaceGraph) (registry : List HunterFamilyView)
    (schedule : List CoverageCell) : List Emission :=
  schedule.filterMap fun cell =>
    if cell.state = .covered ∨ cell.state = .notApplicable then none
    else
      match graph.nodes.reverse.find? fun node => node.canonicalKey = cell.nodeCanonicalKey,
        registry.reverse.find? fun family => family.familyId = cell.familyId with
      | some node, some family => some (.hypothesis node family cell.identityId)
      | _, _ => none

/-- An entry of `hypothesis_sources`. -/
structure HypothesisSource where
  hypothesisId : Id
  nodeId : Text
  familyId : Text
  identityId : Text
  deriving DecidableEq, Repr

/-- `_emit_hypothesis`. -/
def emitHypothesis (services : HuntServices) (now : Instant) (researchRunId hypothesisId : Id)
    (node : AttackSurfaceNode) (family : HunterFamilyView) (identityId : Text) (s : Ledger) :
    Option Ledger := do
  let claim ← services.claimFromTemplate node family [("identity_id".toList, .text identityId)]
  -- the constructor of the record rejects blank texts
  if claim.strip = [] ∨ family.familyId.strip = [] ∨ identityId.strip = [] then none
  else
    let t ← s.insertHypothesis {
      hypothesisId := hypothesisId
      researchRunId := researchRunId
      claim := claim
      originReference := some family.familyId
      identityId := some identityId }
    some (t.record (generationAudit now researchRunId hypothesisId family.familyId
      node.canonicalKey identityId claim family.validationTier))

/-- The loop of `GenerateHuntHypotheses.execute`; `newId` are the ids that it
draws. -/
def emitAll (services : HuntServices) (now : Instant) (researchRunId : Id) (newId : Nat → Id) :
    List Emission → Nat → Ledger → Option (Ledger × List HypothesisSource)
  | [], _, s => some (s, [])
  | .capped node family totalIdentities :: rest, n, s =>
    emitAll services now researchRunId newId rest n
      (s.record (cappedAudit now researchRunId family.familyId node.canonicalKey totalIdentities))
  | .hypothesis node family identityId :: rest, n, s => do
    let t ← emitHypothesis services now researchRunId (newId n) node family identityId s
    let (u, sources) ← emitAll services now researchRunId newId rest (n + 1) t
    some (u, ⟨newId n, node.nodeId, family.familyId, identityId⟩ :: sources)

structure RunHuntCycleCommand where
  researchRunId : Id
  graph : AttackSurfaceGraph
  registry : Option (List HunterFamilyView)
  /-- The cells of the schedule; their scores are not looked at. -/
  schedule : Option (List CoverageCell)

/-- `GenerateHuntHypotheses.execute`. -/
def generateHuntHypotheses (services : HuntServices) (now : Instant) (newId : Nat → Id)
    (command : RunHuntCycleCommand) (registry : List HunterFamilyView) :
    Ledger → Option (Ledger × List HypothesisSource) :=
  let emissions :=
    match command.schedule with
    | some schedule => emissionsFromSchedule command.graph registry schedule
    | none => emissionsFromGraph command.graph registry
  emitAll services now command.researchRunId newId emissions 0

/-! ## The tiers -/

def eventTypeForTier (tier outcome : String) : String :=
  if tier = "V1" then
    if outcome = "PASSED" then "HUNT_TIER_V1_PASSED" else "HUNT_TIER_V1_REJECTED"
  else if tier = "V2" then
    if outcome = "PASSED" then "HUNT_TIER_V2_PASSED" else "HUNT_TIER_V2_REJECTED"
  else if tier = "V3" ∧ outcome = "QUEUED" then "HUNT_TIER_V3_QUEUED"
  else "HUNT_TIER_DECISION"

def tierAudit (occurredAt : Instant) (researchRunId hypothesisId : Id) (familyId : Text)
    (tier outcome reasonCode : String) (nodeCanonicalKey : Text) (queueId : Option Id) :
    AuditEventRecord where
  occurredAt := occurredAt
  eventType := eventTypeForTier tier outcome
  subject := .hypothesis hypothesisId
  correlationId := some researchRunId
  payload := {
    researchRunId := some researchRunId
    familyId := some familyId
    tier := some tier
    outcome := some outcome
    reasonCode := some reasonCode
    nodeCanonicalKey := some nodeCanonicalKey
    queueId := queueId }

def v3CapabilityForFamily (name : String) : Option String :=
  if name = "OBJECT_AUTHORIZATION" then some "http.authorization_differential"
  else if name = "WORKFLOW_STATE_TRANSITION" then some "http.state_transition_authorization"
  else if name ∈ ["SQL_INJECTION", "SERVER_SIDE_TEMPLATE_INJECTION",
      "FILE_INCLUDE_AND_PATH_TRAVERSAL", "MASS_ASSIGNMENT", "JWT_CRYPTO_AND_CLAIM_CONFUSION",
      "CORS_CREDENTIAL_EXFILTRATION_CHAIN", "GRAPHQL_AUTHORIZATION_AND_INJECTION",
      "DOM_TAINT_AND_CLIENT_SIDE_EXECUTION", "AI_LLM_PROMPT_INJECTION_AND_TOOL_ABUSE"] then
    some "mutation.matrix"
  else if name ∈ ["HTTP_REQUEST_SMUGGLING_DESYNC", "HTTP_CACHE_POISONING_DECEPTION"] then
    some "protocol.parser"
  else none

def v3ActionForCapability (capability : String) : Option String :=
  if capability ∈ ["http.authorization_differential", "http.state_transition_authorization"] then
    some "probe"
  else if capability ∈ ["mutation.matrix", "protocol.parser"] then some "plan"
  else none

def sideEffectForFamily (name : String) : Nat :=
  if name ∈ ["HTTP_REQUEST_SMUGGLING_DESYNC", "HTTP_CACHE_POISONING_DECEPTION"] then 3
  else if name = "WORKFLOW_STATE_TRANSITION" then 1
  else 0

structure ValidateHuntTiersCommand where
  researchRunId : Id
  hypothesisId : Id
  family : HunterFamilyView
  nodeId : Text
  graph : AttackSurfaceGraph

structure ValidateHuntTiersResult where
  v1Passed : Bool
  v2Passed : Bool
  v3Queued : Bool
  queueId : Option Id
  reasonCode : String
  deriving DecidableEq, Repr

/-- `_v1_static_check`. -/
def v1StaticCheck (node : AttackSurfaceNode) (family : HunterFamilyView)
    (graph : AttackSurfaceGraph) : Bool :=
  (familiesForNode node graph [family]).contains family

/-- `_v2_passive_check`. -/
def v2PassiveCheck (node : AttackSurfaceNode) (family : HunterFamilyView)
    (graph : AttackSurfaceGraph) : Bool × String :=
  let requirements := family.evidenceRequirements
  if !requirements.requiredFactKinds.isEmpty &&
      !requirements.requiredFactKinds.contains node.kind.value then
    (false, "REQUIRED_FACT_KIND_MISSING")
  else if requirements.requiredEdgeKind.any fun kind => !node.hasEdgeKind graph kind then
    (false, "REQUIRED_EDGE_KIND_MISSING")
  else (true, "PASSIVE_EVIDENCE_SATISFIED")

/-- `_enqueue_v3`. -/
def enqueueV3 (services : HuntServices) (queueId : Id) (command : ValidateHuntTiersCommand)
    (node : AttackSurfaceNode) (identityId : Option Text) (s : Ledger) : Option Ledger := do
  if node.scopeClassification ≠ .inScope then none
  else
    let capability ← v3CapabilityForFamily command.family.name
    let action ← v3ActionForCapability capability
    let claim ← services.claimFromTemplate node command.family
      [("identity_id".toList, .text ((identityId.filter (· ≠ [])).getD anonymousIdentity))]
    let arguments ← services.v3ArgumentsForFamily command.family node claim identityId
    -- the constructor of the record rejects blank texts
    if command.family.familyId.strip = [] ∨ node.canonicalKey.strip = [] ∨
        identityId.any (fun identity => identity.strip = []) then none
    else
      s.enqueue {
        queueId := queueId
        researchRunId := command.researchRunId
        hypothesisId := command.hypothesisId
        familyId := command.family.familyId
        nodeCanonicalKey := node.canonicalKey
        identityId := identityId
        capability := capability
        action := action
        arguments := arguments
        sideEffectLevel := sideEffectForFamily command.family.name
        state := .pending }

/-- What `ValidateHuntTiers.execute` does with the hypothesis and the node it
has found. -/
def validateTiers (services : HuntServices) (now : Instant) (queueId : Id)
    (command : ValidateHuntTiersCommand) (hypothesis : HypothesisRecord)
    (node : AttackSurfaceNode) (s : Ledger) : Option (Ledger × ValidateHuntTiersResult) :=
  let audit := fun tier outcome reasonCode queueId =>
    tierAudit now command.researchRunId command.hypothesisId command.family.familyId tier outcome
      reasonCode node.canonicalKey queueId
  if !v1StaticCheck node command.family command.graph then
    some (s.record (audit "V1" "REJECTED" "STATIC_PRECONDITIONS_FAILED" none),
      ⟨false, false, false, none, "STATIC_PRECONDITIONS_FAILED"⟩)
  else
    let s₁ := s.record (audit "V1" "PASSED" "STATIC_PRECONDITIONS_MET" none)
    let (v2Passed, v2Reason) := v2PassiveCheck node command.family command.graph
    if !v2Passed then
      some (s₁.record (audit "V2" "REJECTED" v2Reason none), ⟨true, false, false, none, v2Reason⟩)
    else
      let s₂ := s₁.record (audit "V2" "PASSED" v2Reason none)
      if command.family.validationTier = "V3" then
        match enqueueV3 services queueId command node hypothesis.identityId s₂ with
        | none => none
        | some s₃ =>
          some (s₃.record
              (audit "V3" "QUEUED" "AWAITING_ACTIVE_EXPERIMENT_APPROVAL" (some queueId)),
            ⟨true, true, true, some queueId, "AWAITING_ACTIVE_EXPERIMENT_APPROVAL"⟩)
      else some (s₂, ⟨true, true, false, none, "V2_TIER_PASSED"⟩)

/-- `ValidateHuntTiers.execute`. -/
def validateHuntTiers (services : HuntServices) (now : Instant) (queueId : Id)
    (command : ValidateHuntTiersCommand) (s : Ledger) :
    Option (Ledger × ValidateHuntTiersResult) :=
  match s.hypotheses.find? fun row => row.hypothesisId = command.hypothesisId with
  | none => none
  | some hypothesis =>
    if hypothesis.researchRunId ≠ command.researchRunId then none
    else
      match command.graph.node command.nodeId with
      | none => none
      | some node => validateTiers services now queueId command hypothesis node s

/-! ## The cycle -/

structure RunHuntCycleResult where
  generated : Nat
  v1Passed : Nat
  v2Passed : Nat
  v3Queued : Nat
  queueIds : List Id
  deriving DecidableEq, Repr

/-- `no_op`. -/
def RunHuntCycleResult.noOp (result : RunHuntCycleResult) : Bool := result.generated = 0

/-- The counts after one more validation. -/
def RunHuntCycleResult.count (counts : RunHuntCycleResult) (result : ValidateHuntTiersResult) :
    RunHuntCycleResult where
  generated := counts.generated
  v1Passed := counts.v1Passed + if result.v1Passed then 1 else 0
  v2Passed := counts.v2Passed + if result.v2Passed then 1 else 0
  v3Queued := counts.v3Queued + if result.v3Queued ∧ result.queueId ≠ none then 1 else 0
  queueIds := counts.queueIds ++ if result.v3Queued then result.queueId.toList else []

/-- What one cycle draws from outside: the time at each of its transactions, and
the ids. -/
structure CycleInputs where
  now : Nat → Instant
  hypothesisId : Nat → Id
  queueId : Nat → Id

/-- The loop of `RunHuntCycle.execute` over what was generated. -/
def validateSources (services : HuntServices) (inputs : CycleInputs)
    (command : RunHuntCycleCommand) (registry : List HunterFamilyView) :
    List HypothesisSource → Nat → RunHuntCycleResult → Prog Ledger RunHuntCycleResult
  | [], _, counts => pure counts
  | source :: rest, n, counts =>
    match registry.find? fun family => family.familyId = source.familyId,
      command.graph.node source.nodeId with
    | some family, some node => do
      let result ← Prog.commit (validateHuntTiers services (inputs.now (n + 1)) (inputs.queueId n)
        ⟨command.researchRunId, source.hypothesisId, family, node.nodeId, command.graph⟩)
      validateSources services inputs command registry rest (n + 1) (counts.count result)
    | _, _ => validateSources services inputs command registry rest n counts

/-- `RunHuntCycle.execute`. -/
def runHuntCycle (services : HuntServices) (inputs : CycleInputs) (command : RunHuntCycleCommand) :
    Prog Ledger RunHuntCycleResult := do
  let registry ←
    match command.registry with
    | some registry => pure registry
    | none => Prog.read fun s => s.hunterFamilies.filter (·.enabled)
  let sources ← Prog.commit
    (generateHuntHypotheses services (inputs.now 0) inputs.hypothesisId command registry)
  validateSources services inputs command registry sources 0 ⟨sources.length, 0, 0, 0, []⟩

end Zest.Hunt

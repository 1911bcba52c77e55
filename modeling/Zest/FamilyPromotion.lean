import Mathlib.Data.Char
import Mathlib.Data.List.Lex
import Mathlib.Data.List.Sort
import Zest.Fallible
import Zest.HuntQueue
import Zest.JsonValue

/-! # Promoting an exploratory family

An exploratory draft proposes a hunter family that the registry does not have.  It
is written down as an audit event, which a hypothesis refers to.  A human may have
it promoted: one unit of work finds the draft, looks for an earlier promotion of it
and for an enabled family of its name, and writes the family and the audit event of
the promotion.

`lower` is `str.lower`, which the source compares names by.
-/
namespace Zest.Promotion

open Hunt (ActorType ApprovalDecision)

/-! ## Records -/

structure HypothesisRecord where
  hypothesisId : Text
  researchRunId : Text
  originReference : Option Text

structure AuditEventRecord where
  auditEventId : Text
  occurredAt : Instant
  actorId : Text
  actorType : ActorType
  eventType : String
  subjectType : String
  subjectId : Text
  payload : Dict
  correlationId : Option Text

structure HunterFamilyRecord where
  familyId : Text
  name : Text
  targetNodeKinds : List Text
  preconditions : Dict
  claimTemplate : Text
  evidenceRequirements : Dict
  validationTier : String
  enabled : Bool
  version : Nat
  createdAt : Instant

/-- The tables that a promotion reads and writes. -/
structure Store where
  researchRuns : List Text
  hypotheses : List HypothesisRecord
  auditEvents : List AuditEventRecord
  hunterFamilies : List HunterFamilyRecord

def exploratorySubjectType : String := "exploratory_family_draft"
def exploratoryDraftedEvent : String := "EXPLORATORY_HYPOTHESIS_DRAFTED"
def exploratoryFamilyPromotedEvent : String := "EXPLORATORY_FAMILY_PROMOTED"
def exploratoryFamilyPromotionRejectedEvent : String := "EXPLORATORY_FAMILY_PROMOTION_REJECTED"

/-- A check that raises. -/
def raiseIf (bad : Bool) (message : String) : Except String Unit :=
  if bad then .error message else .ok ()

theorem raiseIf_eq_ok {bad : Bool} {message : String} {u : Unit} :
    raiseIf bad message = .ok u ↔ bad = false := by
  cases bad <;> simp [raiseIf]

/-! ## The draft of an audit event -/

/-- `_require_text`. -/
def requireText (fieldName : String) : JsonValue → Except String Text
  | .text s =>
    if s.strip = [] then .error (fieldName ++ " must be a non-empty string") else .ok s.strip
  | _ => .error (fieldName ++ " must be a non-empty string")

/-- `_ids_from_payload`. -/
def idsFromPayload (fieldName : String) : JsonValue → Except String (List Text)
  | .array [] => .error (fieldName ++ " must be a non-empty tuple")
  | .array (item :: items) => (item :: items).mapM (requireText fieldName)
  | _ => .error (fieldName ++ " must be a non-empty tuple")

/-- `NoveltyBasis`, by its values. -/
def noveltyBases : List Text :=
  ["KNOWN_PATTERN_INSTANCE", "POSSIBLE_COMBINATION", "TARGET_SPECIFIC_BEHAVIOR",
    "UNCLASSIFIED"].map String.toList

/-- `VALIDATION_GATES`. -/
def validationGates : List Text :=
  ["HYPOTHESIZED", "V1", "V2", "V3", "FALSE_FINDING_ZERO"].map String.toList

/-- `FORBIDDEN_TRUTH_MARKERS`. -/
def forbiddenTruthMarkers : List Text :=
  ["confirmed vulnerability", "this is a vulnerability", "declare this evidence",
    "declare this a finding", "confirmed exploit", "working exploit"].map String.toList

structure ExploratoryHypothesisDraft where
  draftId : Text
  researchRunId : Text
  hypothesisClaim : Text
  proposedFamilyName : Text
  proposedFamilyRationale : Text
  sourceRefs : List Text
  signalIds : List Text
  targetNodeKinds : List Text
  structuralIdentity : Text
  noveltyBasis : Text
  modelClaimedNovelty : Option Text
  strategyVersion : Text
  mayWriteHunterRegistry : Bool

/-- `EXPLORATORY_HYPOTHESIS_STRATEGY_VERSION`. -/
def exploratoryStrategyVersion : Text := "exploratory.hypothesis.registry_external.v1".toList

/-- The novelty of a payload: one of the bases, or unclassified where it is no text. -/
def noveltyOf : JsonValue → Except String Text
  | .text s => if noveltyBases.contains s then .ok s else .error "novelty_basis must be NoveltyBasis"
  | _ => .ok "UNCLASSIFIED".toList

def claimedNoveltyOf : JsonValue → Except String (Option Text)
  | .null => .ok none
  | value => (requireText "model_claimed_novelty" value).map some

section Draft

variable (lower : Text → Text)

/-- `_reject_truth_claims`. -/
def rejectTruthClaims (fieldName : String) (value : Text) : Except String Unit :=
  raiseIf (forbiddenTruthMarkers.any fun marker => (lower value).hasInfix marker)
    (fieldName ++ " must not claim vulnerability truth")

/-- The gates of a payload that a draft has to retain. -/
def gatesRetained (payload : Dict) : Bool :=
  (payload.get "registry_external".toList).truthy &&
    (payload.get "requires_human_family_approval".toList).truthy &&
    !(payload.get "may_write_hunter_registry".toList).truthy &&
    (payload.get "not_evidence".toList).truthy && (payload.get "not_candidate".toList).truthy &&
    (payload.get "not_finding".toList).truthy &&
    (payload.get "not_impact_graph_edge".toList).truthy &&
    (payload.get "false_finding_required_zero".toList).truthy

/-- `value or default`. -/
def orDefault (default : Text) (value : JsonValue) : JsonValue :=
  if value.truthy then value else .text default

def isFalse : JsonValue → Bool
  | .bool b => !b
  | _ => false

/-- `exploratory_draft_from_audit`. -/
def exploratoryDraftFromAudit (draftId researchRunId : Text) (payload : Dict) :
    Except String ExploratoryHypothesisDraft := do
  raiseIf (!isFalse (payload.get "may_write_hunter_registry".toList))
    "exploratory draft cannot authorize hunter registry write"
  let novelty ← noveltyOf (payload.get "novelty_basis".toList)
  let claim ← requireText "hypothesis_claim" (payload.get "hypothesis_claim".toList)
  let name ← requireText "proposed_family_name" (payload.get "proposed_family_name".toList)
  let rationale ←
    requireText "proposed_family_rationale" (payload.get "proposed_family_rationale".toList)
  let sourceRefs ← idsFromPayload "source_refs" (payload.get "source_refs".toList)
  let signalIds ← idsFromPayload "signal_ids" (payload.get "signal_ids".toList)
  let targetNodeKinds ← idsFromPayload "target_node_kinds" (payload.get "target_node_kinds".toList)
  let structuralIdentity ←
    requireText "structural_identity" (payload.get "structural_identity".toList)
  let claimed ← claimedNoveltyOf (payload.get "model_claimed_novelty".toList)
  let strategyVersion ← requireText "strategy_version"
    (orDefault exploratoryStrategyVersion (payload.get "strategy_version".toList))
  let status ← requireText "status" (payload.get "status".toList)
  let gates ← idsFromPayload "validation_gates" (payload.get "validation_gates".toList)
  let draftId ← requireText "draft_id" (.text draftId)
  let researchRunId ← requireText "research_run_id" (.text researchRunId)
  rejectTruthClaims lower "hypothesis_claim" claim
  rejectTruthClaims lower "proposed_family_rationale" rationale
  raiseIf (status != "HYPOTHESIZED".toList) "exploratory draft must start as HYPOTHESIZED"
  raiseIf (gates != validationGates) "exploratory draft must retain V1/V2/V3 false-finding gates"
  raiseIf (!gatesRetained payload) "exploratory draft cannot bypass registry or finding gates"
  return {
    draftId := draftId
    researchRunId := researchRunId
    hypothesisClaim := claim
    proposedFamilyName := name
    proposedFamilyRationale := rationale
    sourceRefs := sourceRefs
    signalIds := signalIds
    targetNodeKinds := targetNodeKinds
    structuralIdentity := structuralIdentity
    noveltyBasis := novelty
    modelClaimedNovelty := claimed
    strategyVersion := strategyVersion
    mayWriteHunterRegistry := (payload.get "may_write_hunter_registry".toList).truthy }

/-- What is there, or an error. -/
def found {α : Type} (message : String) : Option α → Except String α
  | some a => .ok a
  | none => .error message

/-- The value is this text. -/
def isText (value : JsonValue) (s : Text) : Bool :=
  match value with
  | .text t => t == s
  | _ => false

/-- `load_exploratory_binding`: the draft of the hypothesis. -/
def loadExploratoryBinding (s : Store) (researchRunId hypothesisId : Text) :
    Except String ExploratoryHypothesisDraft := do
  let hypothesis ← found "hypothesis not found"
    (s.hypotheses.find? (·.hypothesisId == hypothesisId))
  raiseIf (hypothesis.researchRunId != researchRunId) "hypothesis does not belong to research run"
  let origin ← found "hypothesis is not an exploratory draft" hypothesis.originReference
  let audit ← found "exploratory draft audit not found"
    (s.auditEvents.find? (·.auditEventId == origin))
  raiseIf (audit.eventType != exploratoryDraftedEvent) "hypothesis is not an exploratory draft"
  raiseIf (audit.subjectType != exploratorySubjectType) "hypothesis is not an exploratory draft"
  raiseIf (!isText (audit.payload.get "hypothesis_id".toList) hypothesis.hypothesisId)
    "exploratory draft is not bound to this hypothesis"
  let draft ← exploratoryDraftFromAudit lower audit.subjectId researchRunId audit.payload
  raiseIf (draft.researchRunId != researchRunId) "exploratory draft is cross-run"
  return draft

end Draft

/-! ## The use case -/

structure PromoteExploratoryFamilyCommand where
  researchRunId : Text
  hypothesisId : Text
  reviewerId : Text
  actorType : ActorType
  decision : ApprovalDecision
  validationTier : String
  note : Option Text
  correlationId : Option Text

structure PromoteExploratoryFamilyResult where
  hypothesisId : Text
  draftId : Text
  promoted : Bool
  reasonCode : String
  familyId : Option Text
  familyVersion : Option Int
  reviewerId : Option Text

/-- What a call is given by its surroundings: the instant of its clock, and the
identifiers that are drawn for the family and for the audit event. -/
structure Drawn where
  now : Instant
  familyId : Text
  auditEventId : Text

/-- `ALLOWED_VALIDATION_TIERS`. -/
def allowedValidationTiers : List String := ["V1", "V2", "V3"]

/-- `_authorization_reason`; there is no third decision. -/
def authorizationReason (command : PromoteExploratoryFamilyCommand) : Option String :=
  if command.actorType ≠ .humanOperator then some "APPROVAL_INVALID_ACTOR"
  else if command.decision = .reject then some "APPROVAL_REJECTED"
  else none

/-- The audit events of promotions. -/
def promotions (s : Store) : List AuditEventRecord :=
  s.auditEvents.filter fun event =>
    event.subjectType = exploratorySubjectType ∧ event.eventType = exploratoryFamilyPromotedEvent

/-- The first of the events that is earliest. -/
def earliest : List AuditEventRecord → Option AuditEventRecord
  | [] => none
  | event :: events =>
    match earliest events with
    | some other => some (if other.occurredAt < event.occurredAt then other else event)
    | none => some event

/-- `_existing_promotion`. -/
def existingPromotion (s : Store) (draftId : Text) : Option AuditEventRecord :=
  earliest ((promotions s).filter (·.subjectId == draftId))

/-- `list_enabled`, in the order of the identifiers and versions. -/
def listEnabled (s : Store) : List HunterFamilyRecord :=
  (s.hunterFamilies.filter (·.enabled)).insertionSort fun a b =>
    a.familyId < b.familyId ∨ (a.familyId = b.familyId ∧ a.version ≤ b.version)

/-- `name.strip().lower()`. -/
def nameKey (lower : Text → Text) (name : Text) : Text := lower name.strip

/-- `_enabled_name_collision`. -/
def enabledNameCollision (lower : Text → Text) (s : Store) (proposedFamilyName : Text) :
    Option HunterFamilyRecord :=
  (listEnabled s).find? fun record =>
    nameKey lower record.name == nameKey lower proposedFamilyName ||
      nameKey lower record.familyId == nameKey lower proposedFamilyName

def textOrNull : Option Text → JsonValue
  | some s => .text s
  | none => .null

def integerOrNull : Option Int → JsonValue
  | some n => .integer n
  | none => .null

/-- `ApprovalDecision.value`. -/
def decisionValue : ApprovalDecision → Text
  | .approve => "APPROVE".toList
  | .reject => "REJECT".toList

/-- The audit event of `_audit_promotion`.  None of its keys is a secret's. -/
def promotionEvent (drawn : Drawn) (draft : ExploratoryHypothesisDraft)
    (command : PromoteExploratoryFamilyCommand) (promoted : Bool) (reasonCode : String)
    (familyId : Option Text) (familyVersion : Option Int) : AuditEventRecord where
  auditEventId := drawn.auditEventId
  occurredAt := drawn.now
  actorId := command.reviewerId
  actorType := command.actorType
  eventType :=
    if promoted then exploratoryFamilyPromotedEvent else exploratoryFamilyPromotionRejectedEvent
  subjectType := exploratorySubjectType
  subjectId := draft.draftId
  payload :=
    [("hypothesis_id".toList, .text command.hypothesisId),
      ("research_run_id".toList, .text command.researchRunId),
      ("proposed_family_name".toList, .text draft.proposedFamilyName),
      ("may_write_hunter_registry".toList, .bool false),
      ("requires_human_family_approval".toList, .bool true),
      ("reason_code".toList, .text reasonCode.toList),
      ("decision".toList, .text (decisionValue command.decision)),
      ("reviewer_id".toList, .text command.reviewerId),
      ("family_id".toList, textOrNull familyId),
      ("family_version".toList, integerOrNull familyVersion),
      ("note".toList, textOrNull command.note),
      ("subject_reference".toList, .text ("exploratory-family:".toList ++ draft.draftId))]
  correlationId := command.correlationId

/-- The checks that `AuditEventRecord` makes of what a command brings into it. -/
def checkAuditEvent (event : AuditEventRecord) : Except String Unit := do
  raiseIf (event.auditEventId.strip == []) "audit_event_id must be a non-empty opaque id"
  raiseIf (event.actorId.strip == []) "actor_id must be a non-empty opaque id"
  raiseIf (event.subjectId.strip == []) "subject_id must be a non-empty opaque id"
  raiseIf (event.correlationId.any (·.strip == [])) "correlation_id must be a non-empty opaque id"

/-- `uow.audit_events.insert`. -/
def insertAuditEvent (s : Store) (event : AuditEventRecord) : Except String Store := do
  checkAuditEvent event
  raiseIf (s.auditEvents.any (·.auditEventId == event.auditEventId)) "persistence conflict"
  return { s with auditEvents := s.auditEvents ++ [event] }

/-- `uow.hunter_families.insert`. -/
def insertHunterFamily (s : Store) (record : HunterFamilyRecord) : Except String Store := do
  raiseIf (record.familyId.strip == []) "family_id must be a non-empty opaque id"
  raiseIf (s.hunterFamilies.any fun family =>
    family.familyId == record.familyId && family.version == record.version)
    "hunter family already recorded"
  return { s with hunterFamilies := s.hunterFamilies ++ [record] }

/-- `EXPLORATORY_COMPILER_ADAPTER_VERSION`. -/
def exploratoryCompilerAdapterVersion : Text := "exploratory.ephemeral.compile.v1".toList

/-- The family of a draft. -/
def familyOf (drawn : Drawn) (draft : ExploratoryHypothesisDraft)
    (command : PromoteExploratoryFamilyCommand) : HunterFamilyRecord where
  familyId := drawn.familyId
  name := draft.proposedFamilyName
  targetNodeKinds := draft.targetNodeKinds
  preconditions :=
    [("scope_classification".toList, .text "IN_SCOPE".toList),
      ("exploratory_draft_id".toList, .text draft.draftId),
      ("research_run_id".toList, .text command.researchRunId),
      ("compiler_adapter".toList, .text exploratoryCompilerAdapterVersion)]
  claimTemplate := draft.hypothesisClaim
  evidenceRequirements :=
    [("source_refs".toList, .array (draft.sourceRefs.map .text)),
      ("validation_gates".toList, .array (validationGates.map .text))]
  validationTier := command.validationTier
  enabled := true
  version := 1
  createdAt := drawn.now

/-- A text under the key, if there is one with something in it.  Only this use case
writes the events of promotions, and it writes texts. -/
def textUnder (payload : Dict) (key : Text) : Option Text :=
  match payload.get key with
  | .text [] => none
  | .text s => some s
  | _ => none

def integerUnder (payload : Dict) (key : Text) : Option Int :=
  match payload.get key with
  | .integer n => some n
  | .bool b => some (if b then 1 else 0)
  | _ => none

/-- The answer to a call whose draft has been promoted before. -/
def alreadyPromoted (draft : ExploratoryHypothesisDraft) (command : PromoteExploratoryFamilyCommand)
    (prior : AuditEventRecord) : PromoteExploratoryFamilyResult where
  hypothesisId := command.hypothesisId
  draftId := draft.draftId
  promoted := true
  reasonCode := "ALREADY_PROMOTED"
  familyId := textUnder prior.payload "family_id".toList
  familyVersion := integerUnder prior.payload "family_version".toList
  reviewerId := textUnder prior.payload "reviewer_id".toList

/-- The answer to any other call. -/
def answer (draft : ExploratoryHypothesisDraft) (command : PromoteExploratoryFamilyCommand)
    (promoted : Bool) (reasonCode : String) (familyId : Option Text)
    (familyVersion : Option Int) : PromoteExploratoryFamilyResult where
  hypothesisId := command.hypothesisId
  draftId := draft.draftId
  promoted := promoted
  reasonCode := reasonCode
  familyId := familyId
  familyVersion := familyVersion
  reviewerId := some command.reviewerId

/-- A promotion that is refused is written down. -/
def refuse (drawn : Drawn) (draft : ExploratoryHypothesisDraft)
    (command : PromoteExploratoryFamilyCommand) (reasonCode : String) (familyId : Option Text)
    (familyVersion : Option Int) (s : Store) :
    Except String (Store × PromoteExploratoryFamilyResult) := do
  let t ← insertAuditEvent s
    (promotionEvent drawn draft command false reasonCode familyId familyVersion)
  return (t, answer draft command false reasonCode familyId familyVersion)

/-- The family is written, and that it was promoted. -/
def promote (drawn : Drawn) (draft : ExploratoryHypothesisDraft)
    (command : PromoteExploratoryFamilyCommand) (s : Store) :
    Except String (Store × PromoteExploratoryFamilyResult) := do
  let t ← insertHunterFamily s (familyOf drawn draft command)
  let u ← insertAuditEvent t
    (promotionEvent drawn draft command true "ALLOWED" (some drawn.familyId) (some 1))
  return (u, answer draft command true "ALLOWED" (some drawn.familyId) (some 1))

/-- What is decided once the draft is found. -/
def decide (lower : Text → Text) (drawn : Drawn) (draft : ExploratoryHypothesisDraft)
    (command : PromoteExploratoryFamilyCommand) (s : Store) :
    Except String (Store × PromoteExploratoryFamilyResult) :=
  match existingPromotion s draft.draftId with
  | some prior => .ok (s, alreadyPromoted draft command prior)
  | none =>
    match authorizationReason command with
    | some reasonCode => refuse drawn draft command reasonCode none none s
    | none =>
      match enabledNameCollision lower s draft.proposedFamilyName with
      | some overlap =>
        refuse drawn draft command "FAMILY_NAME_ALREADY_REGISTERED" (some overlap.familyId)
          (some overlap.version) s
      | none => promote drawn draft command s

/-- `PromoteExploratoryFamily.execute`, one unit of work. -/
def execute (lower : Text → Text) (drawn : Drawn) (command : PromoteExploratoryFamilyCommand)
    (s : Store) : Except String (Store × PromoteExploratoryFamilyResult) := do
  raiseIf (!allowedValidationTiers.contains command.validationTier)
    "validation_tier must be V1, V2, or V3"
  raiseIf (!s.researchRuns.contains command.researchRunId) "research run not found"
  let draft ← loadExploratoryBinding lower s command.researchRunId command.hypothesisId
  raiseIf draft.mayWriteHunterRegistry "exploratory draft cannot authorize hunter registry write"
  decide lower drawn draft command s

end Zest.Promotion

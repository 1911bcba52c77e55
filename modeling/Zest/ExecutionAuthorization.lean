import Zest.Fallible
import Zest.HuntQueue
import Zest.ScopeCompiler

/-! # The authorization of an execution

Core decides a request by a cascade: capability, authorization source, scope,
budget, level of side effect, approval.  Each check answers for itself, and the
first that does not let the request continue decides it.

A refusal is to outrank a review.  The scope's review comes before the approval is
looked at, though, so that a request whose approval is refused goes to review when
its scope is ambiguous.
-/
namespace Zest.Execution

open Hunt (ActorType ApprovalDecision)

/-! ## The checks -/

inductive AuthorizationSourceState where
  | active
  | expired
  | revoked
  deriving DecidableEq, Repr

structure AuthorizationSourceView where
  authorizationSourceId : Text
  programId : Text
  state : AuthorizationSourceState
  deriving DecidableEq, Repr

structure AuthorizationCheck where
  allowedToContinue : Bool
  reasonCode : ReasonCode
  authorizationSourceId : Option Text
  deriving DecidableEq, Repr

/-- `check_authorization`. -/
def checkAuthorization : Option AuthorizationSourceView → AuthorizationCheck
  | none => ⟨false, .authorizationMissing, none⟩
  | some source =>
    if source.state ≠ .active then
      ⟨false, .authorizationInactive, some source.authorizationSourceId⟩
    else ⟨true, .allowed, some source.authorizationSourceId⟩

structure ScopeRuleMatch where
  ruleId : Text
  effect : ScopeRuleEffect
  matched : Bool
  sourceReference : Text
  deriving DecidableEq, Repr

structure ScopeEvaluationInput where
  ruleMatches : List ScopeRuleMatch
  ambiguous : Bool
  deriving DecidableEq, Repr

/-- A matched rule that excludes. -/
def ScopeRuleMatch.denies (item : ScopeRuleMatch) : Bool :=
  item.effect == .deny || item.effect == .outOfScope

/-- `check_scope`. -/
def checkScope (evaluation : ScopeEvaluationInput) : ScopeCheck :=
  let matched := evaluation.ruleMatches.filter (·.matched)
  let matchedIds := matched.map (·.ruleId)
  if matched.any (·.denies) then ⟨.deny, .scopeDenied, matchedIds, .outOfScope⟩
  else if evaluation.ambiguous then
    ⟨.requireHumanReview, .scopeAmbiguous, matchedIds, .outOfScope⟩
  else if matched.any (·.effect == .allow) then ⟨.allow, .allowed, matchedIds, .inScope⟩
  else if matched.any (·.effect == .unknown) then
    ⟨.deny, .scopeUnknownClassification, matchedIds, .unknown⟩
  else ⟨.deny, .scopeNotExplicitlyAllowed, matchedIds, .outOfScope⟩

structure IssuedBudget where
  budgetId : Text
  maxRequests : Nat
  maxToolCalls : Nat
  maxRuntimeMs : Nat
  maxConcurrency : Nat
  deriving DecidableEq, Repr

structure BudgetUsage where
  requests : Nat
  toolCalls : Nat
  runtimeMs : Nat
  concurrency : Nat
  deriving DecidableEq, Repr

structure BudgetCheck where
  allowedToContinue : Bool
  reasonCode : ReasonCode
  budgetId : Text
  deriving DecidableEq, Repr

/-- `exhausted` in `check_budget`. -/
def exhausted (issued : IssuedBudget) (usage : BudgetUsage) : Bool :=
  issued.maxRequests ≤ usage.requests || issued.maxToolCalls ≤ usage.toolCalls ||
    issued.maxRuntimeMs ≤ usage.runtimeMs || issued.maxConcurrency ≤ usage.concurrency

/-- `check_budget`. -/
def checkBudget (issued : IssuedBudget) (usage : BudgetUsage) (requestedBudgetId : Text) :
    BudgetCheck :=
  if requestedBudgetId ≠ issued.budgetId then ⟨false, .budgetMismatch, issued.budgetId⟩
  else if exhausted issued usage then ⟨false, .budgetExhausted, issued.budgetId⟩
  else ⟨true, .allowed, issued.budgetId⟩

inductive SideEffectLevel where
  | level0
  | level1
  | level2
  | level3
  deriving DecidableEq, Repr

/-- `int(level)`. -/
def SideEffectLevel.toNat : SideEffectLevel → Nat
  | .level0 => 0
  | .level1 => 1
  | .level2 => 2
  | .level3 => 3

/-- `CapabilityAuthorizationView`: a claim about a capability. -/
structure CapabilityAuthorizationView where
  capabilityId : Text
  action : Text
  capabilityVersion : Text
  definitionFingerprint : Text
  authoritativeMinimumSideEffect : SideEffectLevel
  effectiveSideEffect : SideEffectLevel
  deriving DecidableEq, Repr

/-- The levels of a `CapabilityActionDefinition`, or of an `IntegrationAllowlistEntry`. -/
structure SideEffectRange where
  minimumSideEffectLevel : SideEffectLevel
  maximumSideEffectLevel : SideEffectLevel
  deriving DecidableEq, Repr

/-- `CapabilityDefinition`, as far as the check reads it. -/
structure CapabilityDefinition where
  version : Text
  executorClass : Text
  actions : Text → Option SideEffectRange
  definitionFingerprint : Text

/-- `CapabilityRegistry.get`. -/
abbrev CapabilityRegistry := Text → Option CapabilityDefinition

structure CapabilityAuthorizationCheck where
  allowedToContinue : Bool
  reasonCode : ReasonCode
  deriving DecidableEq, Repr

/-- What both kinds of capability check of the levels. -/
def checkSideEffects (range : SideEffectRange) (view : CapabilityAuthorizationView)
    (requestSideEffect : SideEffectLevel) : CapabilityAuthorizationCheck :=
  if view.authoritativeMinimumSideEffect ≠ range.minimumSideEffectLevel then
    ⟨false, .riskUnderstatement⟩
  else if view.effectiveSideEffect.toNat < range.minimumSideEffectLevel.toNat then
    ⟨false, .riskUnderstatement⟩
  else if range.maximumSideEffectLevel.toNat < view.effectiveSideEffect.toNat then
    ⟨false, .riskExceedsCapability⟩
  else if requestSideEffect ≠ view.effectiveSideEffect then ⟨false, .sideEffectBindingMismatch⟩
  else ⟨true, .allowed⟩

/-- `INTEGRATION_CAPABILITY_ALLOWLIST`. -/
def integrationCapabilityAllowlist : List ((Text × Text) × SideEffectRange) :=
  [(("strix.diagnostic.ping".toList, "ping".toList), ⟨.level0, .level0⟩)]

/-- `_check_integration_allowlist`. -/
def checkIntegrationAllowlist (view : CapabilityAuthorizationView)
    (requestSideEffect : SideEffectLevel) : CapabilityAuthorizationCheck :=
  match integrationCapabilityAllowlist.lookup (view.capabilityId, view.action) with
  | none =>
    if integrationCapabilityAllowlist.any (·.1.1 == view.capabilityId) then
      ⟨false, .unknownAction⟩
    else ⟨false, .unknownCapability⟩
  | some entry => checkSideEffects entry view requestSideEffect

/-- `check_capability_authorization`. -/
def checkCapabilityAuthorization (registry : CapabilityRegistry)
    (view : Option CapabilityAuthorizationView) (requestSideEffect : SideEffectLevel) :
    CapabilityAuthorizationCheck :=
  match view with
  | none => ⟨false, .capabilityAuthorizationMissing⟩
  | some view =>
    match registry view.capabilityId with
    | none => checkIntegrationAllowlist view requestSideEffect
    | some definition =>
      if definition.executorClass ≠ "WORKER".toList then ⟨false, .unknownCapability⟩
      else match definition.actions view.action with
        | none => ⟨false, .unknownAction⟩
        | some action =>
          if view.capabilityVersion ≠ definition.version then
            ⟨false, .unsupportedCapabilityVersion⟩
          else if view.definitionFingerprint ≠ definition.definitionFingerprint then
            ⟨false, .definitionFingerprintMismatch⟩
          else checkSideEffects action view requestSideEffect

structure ApprovalView where
  approvalId : Text
  subjectReference : Text
  decision : ApprovalDecision
  decidedBy : Text
  actorType : ActorType
  recorded : Bool
  deriving DecidableEq, Repr

structure ApprovalCheck where
  authorizes : Bool
  requireHumanReview : Bool
  reasonCode : ReasonCode
  approvalId : Option Text
  deriving DecidableEq, Repr

/-- `check_approval`. -/
def checkApproval (approval : Option ApprovalView) (requestedSubject : Text) : ApprovalCheck :=
  match approval with
  | none => ⟨false, true, .approvalRequired, none⟩
  | some approval =>
    if approval.recorded = false then
      ⟨false, false, .approvalNotRecorded, some approval.approvalId⟩
    else if approval.actorType ≠ .humanOperator then
      ⟨false, false, .approvalInvalidActor, some approval.approvalId⟩
    else if approval.subjectReference ≠ requestedSubject then
      ⟨false, false, .approvalSubjectMismatch, some approval.approvalId⟩
    else if approval.decision = .reject then
      ⟨false, false, .approvalRejected, some approval.approvalId⟩
    else ⟨true, false, .allowed, some approval.approvalId⟩

/-! ## The decision -/

/-- `ExecutionRequest`. -/
structure ExecutionRequest where
  authorizationSource : Option AuthorizationSourceView
  scope : ScopeEvaluationInput
  issuedBudget : IssuedBudget
  budgetUsage : BudgetUsage
  requestedBudgetId : Text
  sideEffectLevel : Int
  requestedSubject : Text
  capability : Option CapabilityAuthorizationView
  approval : Option ApprovalView
  deriving DecidableEq, Repr

inductive ExecutionDecisionKind where
  | allow
  | deny
  | requireHumanReview
  deriving DecidableEq, Repr

structure ExecutionDecision where
  decision : ExecutionDecisionKind
  reasonCode : ReasonCode
  authorizationSourceId : Option Text
  matchedScopeRuleIds : List Text
  budgetId : Text
  sideEffectLevel : SideEffectLevel
  approvalId : Option Text
  deriving DecidableEq, Repr

/-- `_parse_side_effect_level`. -/
def parseSideEffectLevel (value : Int) : Except String SideEffectLevel :=
  if value = 0 then .ok .level0
  else if value = 1 then .ok .level1
  else if value = 2 then .ok .level2
  else if value = 3 then .ok .level3
  else .error "side_effect_level must be 0, 1, 2, or 3"

/-- `require_opaque_id`. -/
def requireOpaqueId (value : Text) (fieldName : String) : Except String Unit :=
  if value.strip = [] then .error (fieldName ++ " must be a non-empty opaque id") else .ok ()

/-- `finish` in `evaluate_execution`. -/
def finish (request : ExecutionRequest) (level : SideEffectLevel) (kind : ExecutionDecisionKind)
    (reason : ReasonCode) (approvalId : Option Text) : ExecutionDecision where
  decision := kind
  reasonCode := reason
  authorizationSourceId := (checkAuthorization request.authorizationSource).authorizationSourceId
  matchedScopeRuleIds := (checkScope request.scope).matchedRuleIds
  budgetId := (checkBudget request.issuedBudget request.budgetUsage
    request.requestedBudgetId).budgetId
  sideEffectLevel := level
  approvalId := approvalId

/-- The cascade of `evaluate_execution`. -/
def cascade (registry : CapabilityRegistry) (request : ExecutionRequest)
    (level : SideEffectLevel) : ExecutionDecision :=
  let capability := checkCapabilityAuthorization registry request.capability level
  let auth := checkAuthorization request.authorizationSource
  let scope := checkScope request.scope
  let budget := checkBudget request.issuedBudget request.budgetUsage request.requestedBudgetId
  let approval := checkApproval request.approval request.requestedSubject
  if capability.allowedToContinue = false then
    finish request level .deny capability.reasonCode none
  else if auth.allowedToContinue = false then finish request level .deny auth.reasonCode none
  else if scope.decision = .deny then finish request level .deny scope.reasonCode none
  else if budget.allowedToContinue = false then finish request level .deny budget.reasonCode none
  else if level = .level3 then finish request level .deny .sideEffectLevelDenied none
  else if scope.decision = .requireHumanReview then
    finish request level .requireHumanReview scope.reasonCode none
  else if level = .level0 ∨ level = .level1 then finish request level .allow .allowed none
  else if approval.requireHumanReview then
    finish request level .requireHumanReview approval.reasonCode approval.approvalId
  else if approval.authorizes = false then
    finish request level .deny approval.reasonCode approval.approvalId
  else finish request level .allow .allowed approval.approvalId

/-- `evaluate_execution`. -/
def evaluateExecution (registry : CapabilityRegistry) (request : ExecutionRequest) :
    Except String ExecutionDecision := do
  let level ← parseSideEffectLevel request.sideEffectLevel
  requireOpaqueId request.requestedSubject "requested_subject"
  requireOpaqueId request.requestedBudgetId "requested_budget_id"
  .ok (cascade registry request level)

/-! ## What the checks ask -/

/-- The source is there and active. -/
def Active (source : Option AuthorizationSourceView) : Prop :=
  ∃ view, source = some view ∧ view.state = .active

theorem checkAuthorization_iff (source : Option AuthorizationSourceView) :
    (checkAuthorization source).allowedToContinue = true ↔ Active source := by
  cases source with
  | none => simp [checkAuthorization, Active]
  | some view =>
    by_cases hactive : view.state = .active <;> simp [checkAuthorization, Active, hactive]

/-- A matched rule excludes. -/
def Excluded (scope : ScopeEvaluationInput) : Prop :=
  ∃ item ∈ scope.ruleMatches, item.matched = true ∧ item.denies = true

/-- A matched rule allows. -/
def Included (scope : ScopeEvaluationInput) : Prop :=
  ∃ item ∈ scope.ruleMatches, item.matched = true ∧ item.effect = .allow

theorem any_denies_iff (scope : ScopeEvaluationInput) :
    (scope.ruleMatches.filter (·.matched)).any (·.denies) = true ↔ Excluded scope := by
  simp [Excluded]

theorem any_allow_iff (scope : ScopeEvaluationInput) :
    (scope.ruleMatches.filter (·.matched)).any (·.effect == .allow) = true ↔ Included scope := by
  simp [Included]

/-- An exclusion decides; then an ambiguity; then an allow. -/
theorem checkScope_decision (scope : ScopeEvaluationInput) :
    (Excluded scope → (checkScope scope).decision = .deny) ∧
    (¬ Excluded scope → scope.ambiguous = true →
      (checkScope scope).decision = .requireHumanReview) ∧
    (¬ Excluded scope → scope.ambiguous = false → Included scope →
      (checkScope scope).decision = .allow) ∧
    (¬ Excluded scope → scope.ambiguous = false → ¬ Included scope →
      (checkScope scope).decision = .deny) := by
  rw [← any_denies_iff, ← any_allow_iff]
  unfold checkScope
  dsimp only
  refine ⟨fun h => ?_, fun h ha => ?_, fun h ha hi => ?_, fun h ha hi => ?_⟩
  · rw [if_pos h]
  · rw [if_neg h, if_pos ha]
  · rw [if_neg h, if_neg (by simp [ha]), if_pos hi]
  · rw [if_neg h, if_neg (by simp [ha]), if_neg hi]
    split <;> rfl

theorem checkScope_allow_iff (scope : ScopeEvaluationInput) :
    (checkScope scope).decision = .allow ↔
      ¬ Excluded scope ∧ scope.ambiguous = false ∧ Included scope := by
  obtain ⟨hdeny, hreview, hallow, hnone⟩ := checkScope_decision scope
  by_cases hexcluded : Excluded scope
  · simp [hdeny hexcluded, hexcluded]
  · cases hambiguous : scope.ambiguous with
    | true => simp [hreview hexcluded hambiguous]
    | false =>
      by_cases hincluded : Included scope
      · simp [hallow hexcluded hambiguous hincluded, hexcluded, hincluded]
      · simp [hnone hexcluded hambiguous hincluded, hincluded]

theorem checkScope_review_iff (scope : ScopeEvaluationInput) :
    (checkScope scope).decision = .requireHumanReview ↔
      ¬ Excluded scope ∧ scope.ambiguous = true := by
  obtain ⟨hdeny, hreview, hallow, hnone⟩ := checkScope_decision scope
  by_cases hexcluded : Excluded scope
  · simp [hdeny hexcluded, hexcluded]
  · cases hambiguous : scope.ambiguous with
    | true => simp [hreview hexcluded hambiguous, hexcluded]
    | false =>
      by_cases hincluded : Included scope
      · simp [hallow hexcluded hambiguous hincluded]
      · simp [hnone hexcluded hambiguous hincluded]

/-- The budget is the one that is asked for, and none of its amounts is used up. -/
def Affordable (issued : IssuedBudget) (usage : BudgetUsage) (requestedBudgetId : Text) : Prop :=
  issued.budgetId = requestedBudgetId ∧ usage.requests < issued.maxRequests ∧
    usage.toolCalls < issued.maxToolCalls ∧ usage.runtimeMs < issued.maxRuntimeMs ∧
      usage.concurrency < issued.maxConcurrency

theorem checkBudget_iff (issued : IssuedBudget) (usage : BudgetUsage) (requestedBudgetId : Text) :
    (checkBudget issued usage requestedBudgetId).allowedToContinue = true ↔
      Affordable issued usage requestedBudgetId := by
  unfold checkBudget Affordable
  by_cases hid : requestedBudgetId = issued.budgetId
  · rw [if_neg (not_not.mpr hid)]
    by_cases hspent : exhausted issued usage = true
    · rw [if_pos hspent]
      have hfull : issued.maxRequests ≤ usage.requests ∨ issued.maxToolCalls ≤ usage.toolCalls ∨
          issued.maxRuntimeMs ≤ usage.runtimeMs ∨
            issued.maxConcurrency ≤ usage.concurrency := by
        simpa [exhausted, or_assoc] using hspent
      simp only [Bool.false_eq_true, false_iff]
      omega
    · rw [if_neg hspent]
      have hroom : usage.requests < issued.maxRequests ∧ usage.toolCalls < issued.maxToolCalls ∧
          usage.runtimeMs < issued.maxRuntimeMs ∧ usage.concurrency < issued.maxConcurrency := by
        simpa [exhausted, and_assoc] using hspent
      simp [hid, hroom]
  · rw [if_pos hid]
    simp [Ne.symm hid]

/-- A recorded approval, by a human, of this subject. -/
structure Approves (approval : ApprovalView) (subject : Text) : Prop where
  recorded : approval.recorded = true
  human : approval.actorType = .humanOperator
  subject : approval.subjectReference = subject
  approve : approval.decision = .approve

theorem checkApproval_authorizes_iff (approval : Option ApprovalView) (subject : Text) :
    (checkApproval approval subject).authorizes = true ↔
      ∃ view, approval = some view ∧ Approves view subject := by
  cases approval with
  | none => simp [checkApproval]
  | some view =>
    have happroves : Approves view subject ↔ view.recorded = true ∧
        view.actorType = .humanOperator ∧ view.subjectReference = subject ∧
          view.decision = .approve :=
      ⟨fun h => ⟨h.recorded, h.human, h.subject, h.approve⟩,
        fun h => ⟨h.1, h.2.1, h.2.2.1, h.2.2.2⟩⟩
    simp only [Option.some.injEq, exists_eq_left', happroves, checkApproval]
    by_cases hrecorded : view.recorded = true
    · by_cases hhuman : view.actorType = .humanOperator
      · by_cases hsubject : view.subjectReference = subject
        · cases hdecision : view.decision <;> simp [hrecorded, hhuman, hsubject]
        · simp [hrecorded, hhuman, hsubject]
      · simp [hrecorded, hhuman]
    · simp [hrecorded]

theorem checkApproval_review_iff (approval : Option ApprovalView) (subject : Text) :
    (checkApproval approval subject).requireHumanReview = true ↔ approval = none := by
  cases approval with
  | none => simp [checkApproval]
  | some view =>
    unfold checkApproval
    dsimp only
    split
    · simp
    · split
      · simp
      · split
        · simp
        · split <;> simp

/-! ## What the cascade decides -/

section Cascade

variable {registry : CapabilityRegistry} {request : ExecutionRequest} {level : SideEffectLevel}

/-- The capability check passes. -/
def Capable (registry : CapabilityRegistry) (request : ExecutionRequest)
    (level : SideEffectLevel) : Prop :=
  (checkCapabilityAuthorization registry request.capability level).allowedToContinue = true

/-- The approval that is given is not a human's approval of this subject. -/
def ApprovalRefused (request : ExecutionRequest) : Prop :=
  ∃ approval, request.approval = some approval ∧ ¬ Approves approval request.requestedSubject

/-- All that an execution needs. -/
structure Authorized (registry : CapabilityRegistry) (request : ExecutionRequest)
    (level : SideEffectLevel) : Prop where
  capability : Capable registry request level
  authorization : Active request.authorizationSource
  notExcluded : ¬ Excluded request.scope
  included : Included request.scope
  unambiguous : request.scope.ambiguous = false
  budget : Affordable request.issuedBudget request.budgetUsage request.requestedBudgetId
  level : level = .level0 ∨ level = .level1 ∨ (level = .level2 ∧
    ∃ approval, request.approval = some approval ∧ Approves approval request.requestedSubject)

/-- One of the checks denies. -/
def Denied (registry : CapabilityRegistry) (request : ExecutionRequest)
    (level : SideEffectLevel) : Prop :=
  ¬ Capable registry request level ∨ ¬ Active request.authorizationSource ∨
    (checkScope request.scope).decision = .deny ∨
    ¬ Affordable request.issuedBudget request.budgetUsage request.requestedBudgetId ∨
    level = .level3 ∨ (level = .level2 ∧ ApprovalRefused request)

/-- The scope is reviewed before the approval that is refused is looked at. -/
structure ReviewedFirst (registry : CapabilityRegistry) (request : ExecutionRequest)
    (level : SideEffectLevel) : Prop where
  capability : Capable registry request level
  authorization : Active request.authorizationSource
  notExcluded : ¬ Excluded request.scope
  ambiguous : request.scope.ambiguous = true
  budget : Affordable request.issuedBudget request.budgetUsage request.requestedBudgetId
  level : level = .level2
  approval : ApprovalRefused request

/-- What is decided once the capability, the source, the scope and the budget let the
request continue. -/
theorem cascade_continued (hcapable : Capable registry request level)
    (hactive : Active request.authorizationSource)
    (hscope : (checkScope request.scope).decision ≠ .deny)
    (hbudget : Affordable request.issuedBudget request.budgetUsage request.requestedBudgetId) :
    (cascade registry request level).decision =
      if level = .level3 then .deny
      else if (checkScope request.scope).decision = .requireHumanReview then .requireHumanReview
      else if level = .level0 ∨ level = .level1 then .allow
      else if request.approval = none then .requireHumanReview
      else if (checkApproval request.approval request.requestedSubject).authorizes = false then
        .deny
      else .allow := by
  have hauth := (checkAuthorization_iff _).mpr hactive
  have hafford := (checkBudget_iff _ _ _).mpr hbudget
  unfold Capable at hcapable
  unfold cascade
  dsimp only
  rw [if_neg (by simp [hcapable]), if_neg (by simp [hauth]), if_neg hscope,
    if_neg (by simp [hafford])]
  simp only [apply_ite ExecutionDecision.decision, finish, checkApproval_review_iff]

/-- A check before the level of side effect that denies. -/
theorem cascade_denied (h : ¬ Capable registry request level ∨
    ¬ Active request.authorizationSource ∨ (checkScope request.scope).decision = .deny ∨
      ¬ Affordable request.issuedBudget request.budgetUsage request.requestedBudgetId) :
    (cascade registry request level).decision = .deny := by
  unfold Capable at h
  rw [← checkAuthorization_iff, ← checkBudget_iff] at h
  unfold cascade
  dsimp only
  by_cases hcapability : (checkCapabilityAuthorization registry request.capability
      level).allowedToContinue = false
  · rw [if_pos hcapability]
    rfl
  · rw [if_neg hcapability]
    by_cases hauth : (checkAuthorization request.authorizationSource).allowedToContinue = false
    · rw [if_pos hauth]
      rfl
    · rw [if_neg hauth]
      by_cases hscope : (checkScope request.scope).decision = .deny
      · rw [if_pos hscope]
        rfl
      · rw [if_neg hscope, if_pos]
        · rfl
        · simpa [hcapability, hauth, hscope] using h

theorem cascade_allow_iff :
    (cascade registry request level).decision = .allow ↔ Authorized registry request level := by
  have hscope := checkScope_allow_iff request.scope
  by_cases hdenied : ¬ Capable registry request level ∨ ¬ Active request.authorizationSource ∨
      (checkScope request.scope).decision = .deny ∨
        ¬ Affordable request.issuedBudget request.budgetUsage request.requestedBudgetId
  · rw [cascade_denied hdenied]
    refine iff_of_false (by decide) fun h => ?_
    have hallow := hscope.mpr ⟨h.notExcluded, h.unambiguous, h.included⟩
    rcases hdenied with hcapable | hactive | hdeny | hbudget
    · exact hcapable h.capability
    · exact hactive h.authorization
    · rw [hallow] at hdeny
      cases hdeny
    · exact hbudget h.budget
  · obtain ⟨hcapable, hactive, hdeny, hbudget⟩ :
        Capable registry request level ∧ Active request.authorizationSource ∧
          (checkScope request.scope).decision ≠ .deny ∧
            Affordable request.issuedBudget request.budgetUsage request.requestedBudgetId := by
      simpa [not_or] using hdenied
    rw [cascade_continued hcapable hactive hdeny hbudget]
    have hauthorizes := checkApproval_authorizes_iff request.approval request.requestedSubject
    constructor
    · intro h
      split at h
      · cases h
      next hlevel =>
        split at h
        · cases h
        next hreview =>
          have hallow : (checkScope request.scope).decision = .allow := by
            cases hdecision : (checkScope request.scope).decision with
            | allow => rfl
            | deny => exact absurd hdecision hdeny
            | requireHumanReview => exact absurd hdecision hreview
          obtain ⟨hexcluded, hambiguous, hincluded⟩ := hscope.mp hallow
          refine ⟨hcapable, hactive, hexcluded, hincluded, hambiguous, hbudget, ?_⟩
          split at h
          next hlow => exact hlow.imp_right .inl
          next hlow =>
            split at h
            · cases h
            · split at h
              · cases h
              next happroval =>
                have hlevel2 : level = .level2 := by
                  cases level <;> simp_all
                exact .inr (.inr ⟨hlevel2, hauthorizes.mp (by simpa using happroval)⟩)
    · intro h
      have hallow := hscope.mpr ⟨h.notExcluded, h.unambiguous, h.included⟩
      rw [hallow]
      rcases h.level with rfl | rfl | ⟨rfl, approval, hgiven, happroves⟩
      · rfl
      · rfl
      · have happroval := hauthorizes.mpr ⟨approval, hgiven, happroves⟩
        simp [hgiven] at happroval ⊢
        exact happroval

/-- **What a refusal comes to.**  It is a denial, unless the scope is reviewed first. -/
theorem cascade_of_denied (h : Denied registry request level) :
    (cascade registry request level).decision = .deny ↔
      ¬ ReviewedFirst registry request level := by
  have hscope := checkScope_review_iff request.scope
  by_cases hearly : ¬ Capable registry request level ∨ ¬ Active request.authorizationSource ∨
      (checkScope request.scope).decision = .deny ∨
        ¬ Affordable request.issuedBudget request.budgetUsage request.requestedBudgetId
  · refine iff_of_true (cascade_denied hearly) fun hfirst => ?_
    rcases hearly with hcapable | hactive | hdeny | hbudget
    · exact hcapable hfirst.capability
    · exact hactive hfirst.authorization
    · rw [hscope.mpr ⟨hfirst.notExcluded, hfirst.ambiguous⟩] at hdeny
      cases hdeny
    · exact hbudget hfirst.budget
  · obtain ⟨hcapable, hactive, hdeny, hbudget⟩ :
        Capable registry request level ∧ Active request.authorizationSource ∧
          (checkScope request.scope).decision ≠ .deny ∧
            Affordable request.issuedBudget request.budgetUsage request.requestedBudgetId := by
      simpa [not_or] using hearly
    rw [cascade_continued hcapable hactive hdeny hbudget]
    -- What is left of the refusals is the level and the approval.
    have hlate : level = .level3 ∨ (level = .level2 ∧ ApprovalRefused request) := by
      simpa [Denied, hcapable, hactive, hdeny, hbudget] using h
    rcases hlate with rfl | ⟨rfl, hrefused⟩
    · exact iff_of_true rfl fun hfirst => by cases hfirst.level
    · rw [if_neg (by decide)]
      by_cases hreview : (checkScope request.scope).decision = .requireHumanReview
      · obtain ⟨hexcluded, hambiguous⟩ := hscope.mp hreview
        rw [if_pos hreview]
        refine iff_of_false (by decide) (not_not.mpr ?_)
        exact ⟨hcapable, hactive, hexcluded, hambiguous, hbudget, rfl, hrefused⟩
      · obtain ⟨approval, hgiven, hnot⟩ := hrefused
        have hauthorizes : (checkApproval request.approval
            request.requestedSubject).authorizes = false := by
          refine Bool.eq_false_iff.mpr fun hauthorizes => hnot ?_
          obtain ⟨view, hview, happroves⟩ := (checkApproval_authorizes_iff _ _).mp hauthorizes
          rw [hgiven] at hview
          exact Option.some.inj hview ▸ happroves
        rw [if_neg hreview, if_neg (by decide), if_neg (by simp [hgiven]), if_pos hauthorizes]
        refine iff_of_true rfl fun hfirst => hreview ?_
        exact hscope.mpr ⟨hfirst.notExcluded, hfirst.ambiguous⟩

end Cascade

/-! ## Exact authorization -/

/-- A request that names its subject and its budget. -/
def Named (request : ExecutionRequest) : Prop :=
  request.requestedSubject.strip ≠ [] ∧ request.requestedBudgetId.strip ≠ []

/-- An execution is allowed exactly when it is authorized, and a refusal is a denial. -/
structure ExactlyDecided (registry : CapabilityRegistry) (request : ExecutionRequest)
    (level : SideEffectLevel) (decision : ExecutionDecision) : Prop where
  allow : decision.decision = .allow ↔ Authorized registry request level
  deny : Denied registry request level → decision.decision = .deny

/-- **Exact authorization.**  A request that is named, with a level of side effect, is
decided; and it is decided exactly unless the scope is reviewed before a refused
approval. -/
theorem exact_authorization (registry : CapabilityRegistry) (request : ExecutionRequest)
    (level : SideEffectLevel) (hlevel : parseSideEffectLevel request.sideEffectLevel = .ok level)
    (hnamed : Named request) :
    ∃ decision, evaluateExecution registry request = .ok decision ∧
      (ExactlyDecided registry request level decision ↔
        ¬ ReviewedFirst registry request level) := by
  refine ⟨cascade registry request level, ?_, ?_⟩
  · unfold evaluateExecution requireOpaqueId
    rw [hlevel, ok_bind, if_neg hnamed.1, if_neg hnamed.2]
    rfl
  · constructor
    · intro h hfirst
      have hdenied : Denied registry request level :=
        .inr (.inr (.inr (.inr (.inr ⟨hfirst.level, hfirst.approval⟩))))
      exact (cascade_of_denied hdenied).mp (h.deny hdenied) hfirst
    · exact fun hnot => ⟨cascade_allow_iff, fun hdenied => (cascade_of_denied hdenied).mpr hnot⟩

/-- A request of level 2 in an ambiguous scope, with a human's rejection. -/
def rejectedRequest : ExecutionRequest where
  authorizationSource := some ⟨"source-1".toList, "program-1".toList, .active⟩
  scope := ⟨[⟨"rule-1".toList, .allow, true, "scope-src".toList⟩], true⟩
  issuedBudget := ⟨"budget-1".toList, 10, 10, 10, 10⟩
  budgetUsage := ⟨0, 0, 0, 0⟩
  requestedBudgetId := "budget-1".toList
  sideEffectLevel := 2
  requestedSubject := "subject-1".toList
  capability := some
    { capabilityId := "http.transaction".toList
      action := "request".toList
      capabilityVersion := "1".toList
      definitionFingerprint := "fingerprint".toList
      authoritativeMinimumSideEffect := .level0
      effectiveSideEffect := .level2 }
  approval := some
    { approvalId := "approval-1".toList
      subjectReference := "subject-1".toList
      decision := .reject
      decidedBy := "operator-1".toList
      actorType := .humanOperator
      recorded := true }

/-- A catalog with the capability of the request. -/
def httpRegistry : CapabilityRegistry := fun capabilityId =>
  if capabilityId = "http.transaction".toList then some
    { version := "1".toList
      executorClass := "WORKER".toList
      actions := fun action =>
        if action = "request".toList then some ⟨.level0, .level2⟩ else none
      definitionFingerprint := "fingerprint".toList }
  else none

/-- **A human's rejection is sent to review.** -/
theorem rejection_reviewed :
    ¬ ∀ (registry : CapabilityRegistry) (request : ExecutionRequest) (level : SideEffectLevel),
      parseSideEffectLevel request.sideEffectLevel = .ok level → Named request →
        ∃ decision, evaluateExecution registry request = .ok decision ∧
          ExactlyDecided registry request level decision := by
  intro hall
  obtain ⟨decision, hdecision, hexact⟩ := hall httpRegistry rejectedRequest .level2 rfl
    ⟨by decide, by decide⟩
  have hreview : (evaluateExecution httpRegistry rejectedRequest).toOption.map (·.decision) =
      some .requireHumanReview := by decide
  have hdenied : Denied httpRegistry rejectedRequest .level2 :=
    .inr (.inr (.inr (.inr (.inr ⟨rfl, _, rfl, fun h => by cases h.approve⟩))))
  have hdeny := hexact.deny hdenied
  rw [hdecision] at hreview
  exact absurd ((Option.some.inj hreview).symm.trans hdeny) (by decide)

/-- Without the ambiguity the rejection denies. -/
theorem exact_authorization_unambiguous :
    ∃ decision, evaluateExecution httpRegistry
        { rejectedRequest with scope := { rejectedRequest.scope with ambiguous := false } } =
          .ok decision ∧
      decision.decision = .deny := by
  obtain ⟨decision, hdecision, hexact⟩ := exact_authorization httpRegistry
    { rejectedRequest with scope := { rejectedRequest.scope with ambiguous := false } } .level2
    rfl ⟨by decide, by decide⟩
  refine ⟨decision, hdecision, (hexact.mpr fun hfirst => by cases hfirst.ambiguous).deny ?_⟩
  exact .inr (.inr (.inr (.inr (.inr ⟨rfl, _, rfl, fun h => by cases h.approve⟩))))

end Zest.Execution

import Zest.CapabilityCatalog
import Zest.ExecutionAuthorization
import Zest.HttpTransaction

/-! # From an intent to the level that is authorized

An intent names a capability and an action, and may say which level of side
effect it asks for.  Its compilation binds what the catalog says of both, and
the plan that comes out is what Core is asked about.

A level that is asked for has to lie in the range of the action.  It is bound to
nothing after that: a plan has the minimum of the action as its level, whatever
the intent has asked for (`compile_sound`).  So an intent is taken at its word
exactly if it asks for no level, or for the minimum.
-/
namespace Zest.CapabilityCatalog

open HttpTransaction (CompileFailure refuseIf refuseIf_eq_ok requirementIssue extraIssue
  supportedTargetTypes ArgumentValidator)
open ResearchSelection (Name)

/-- `ExperimentIntent`, whose texts have been stripped. -/
structure ExperimentIntent where
  hypothesisId : Name
  capabilityId : Name
  action : Name
  targetReference : Name
  arguments : Dict
  requestedBudgetId : Name
  expectedObservation : Name
  disconfirmingObservation : Name
  evaluationStrategy : Name
  requestedSideEffect : Option SideEffect
  targetType : Name

/-- `ExperimentPlan`. -/
structure ExperimentPlan where
  hypothesisId : Name
  requiredCapability : Name
  action : ActionId
  targetReference : Name
  sideEffectLevel : SideEffect
  arguments : Dict
  requestedBudgetId : Name
  expectedObservation : Name
  disconfirmingObservation : Name
  evaluationStrategy : Name
  capabilityVersion : Option Name
  capabilityDefinitionFingerprint : Option Name

section Compile

variable (registry : CapabilityRegistry)

-- `validate_action_arguments`, of a schema and the arguments.
variable (validate : Dict → Dict → Except CompileFailure Unit)

-- `extra_argument_validator_for`.
variable (extra : Text → Option ArgumentValidator)

/-- `compile_experiment_intent`. -/
def compileExperimentIntent (intent : ExperimentIntent) : Except CompileFailure ExperimentPlan :=
  match registry.get intent.capabilityId with
  | none => .error (.issue "UNKNOWN_CAPABILITY" "unknown capability")
  | some definition =>
    if definition.executorClass.val ≠ "WORKER".toList then
      .error (.issue "UNKNOWN_CAPABILITY" "unknown capability")
    else
      match definition.action intent.action with
      | none => .error (.issue "UNKNOWN_ACTION" "unknown action")
      | some action => do
        refuseIf (!action.targetTypes.contains intent.targetType)
          (.issue "WRONG_TARGET_TYPE" "target type is not allowed")
        refuseIf (!supportedTargetTypes.contains intent.targetType.val)
          (.issue "WRONG_TARGET_TYPE" "unsupported target type")
        refuseIf (intent.targetType.val = "http_origin".toList &&
            !intent.targetReference.val.hasInfix "://".toList)
          (.issue "WRONG_TARGET_TYPE" "http_origin target is not a URL")
        requirementIssue (action.requirements.map (·.val))
        validate action.argumentSchema intent.arguments
        extraIssue (extra definition.capabilityId) action.actionId intent.arguments
        refuseIf (intent.requestedSideEffect.any (·.val < action.minimumSideEffectLevel.val))
          (.issue "RISK_UNDERSTATEMENT" "requested side effect is below action minimum")
        refuseIf (intent.requestedSideEffect.any (action.maximumSideEffectLevel.val < ·.val))
          (.issue "RISK_EXCEEDS_CAPABILITY" "requested side effect exceeds action maximum")
        return {
          hypothesisId := intent.hypothesisId
          requiredCapability := definition.capabilityId
          action := action.actionId
          targetReference := intent.targetReference
          sideEffectLevel := action.minimumSideEffectLevel
          arguments := intent.arguments
          requestedBudgetId := intent.requestedBudgetId
          expectedObservation := intent.expectedObservation
          disconfirmingObservation := intent.disconfirmingObservation
          evaluationStrategy := intent.evaluationStrategy
          capabilityVersion := some definition.version
          capabilityDefinitionFingerprint := some definition.definitionFingerprint }

/-! ## What Core is asked -/

/-- `SideEffectLevel(level)`. -/
def coreLevel (level : SideEffect) : Execution.SideEffectLevel :=
  if level.val = 0 then .level0
  else if level.val = 1 then .level1
  else if level.val = 2 then .level2
  else .level3

/-- The catalog as `check_capability_authorization` reads it. -/
def coreRegistry : Execution.CapabilityRegistry := fun capabilityId =>
  (registry.get capabilityId).map fun definition => {
    version := definition.version
    executorClass := definition.executorClass
    actions := fun actionId => (definition.action actionId).map fun action =>
      ⟨coreLevel action.minimumSideEffectLevel, coreLevel action.maximumSideEffectLevel⟩
    definitionFingerprint := definition.definitionFingerprint }

/-- `CapabilityBindingError`. -/
abbrev CapabilityBindingError := CompileFailure

/-- `_assert_legacy_compatible`. -/
def assertLegacyCompatible (plan : ExperimentPlan) (action : CapabilityActionDefinition) :
    Except CapabilityBindingError Unit := do
  refuseIf (plan.sideEffectLevel.val < action.minimumSideEffectLevel.val)
    (.issue "RISK_UNDERSTATEMENT" "legacy plan side effect is below current action minimum")
  refuseIf (action.maximumSideEffectLevel.val < plan.sideEffectLevel.val)
    (.issue "RISK_EXCEEDS_CAPABILITY" "legacy plan side effect exceeds current action maximum")
  validate action.argumentSchema plan.arguments

/-- `capability_view_for_plan`. -/
def capabilityViewForPlan (plan : ExperimentPlan) :
    Except CapabilityBindingError Execution.CapabilityAuthorizationView :=
  match registry.get plan.requiredCapability with
  | none => .error (.issue "UNKNOWN_CAPABILITY" "unknown capability")
  | some definition =>
    match definition.action plan.action with
    | none => .error (.issue "UNKNOWN_ACTION" "unknown action")
    | some action =>
      if definition.executorClass.val ≠ "WORKER".toList then
        .error (.issue "UNKNOWN_CAPABILITY" "unknown capability")
      else
        match plan.capabilityVersion, plan.capabilityDefinitionFingerprint with
        | some version, some fingerprint => .ok {
            capabilityId := plan.requiredCapability
            action := plan.action
            capabilityVersion := version
            definitionFingerprint := fingerprint
            authoritativeMinimumSideEffect := coreLevel action.minimumSideEffectLevel
            effectiveSideEffect := coreLevel plan.sideEffectLevel }
        | _, _ => do
          assertLegacyCompatible validate plan action
          return {
            capabilityId := definition.capabilityId
            action := action.actionId
            capabilityVersion := definition.version
            definitionFingerprint := definition.definitionFingerprint
            authoritativeMinimumSideEffect := coreLevel action.minimumSideEffectLevel
            effectiveSideEffect := coreLevel plan.sideEffectLevel }

/-- The request that `ExecutePlannedExperiment` makes of a plan; the rest of it
comes from the program. -/
structure RequestOf (plan : ExperimentPlan) (request : Execution.ExecutionRequest) : Prop where
  sideEffectLevel : request.sideEffectLevel = plan.sideEffectLevel.val
  requestedSubject : request.requestedSubject = plan.targetReference
  requestedBudgetId : request.requestedBudgetId = plan.requestedBudgetId
  capability : ∃ view, capabilityViewForPlan registry validate plan = .ok view ∧
    request.capability = some view

/-! ## What a plan is bound to -/

/-- The plan is that of the definition, of its action and of the intent. -/
structure BoundTo (definition : CapabilityDefinition) (action : CapabilityActionDefinition)
    (intent : ExperimentIntent) (plan : ExperimentPlan) : Prop where
  capability : registry.get intent.capabilityId = some definition
  actionDefinition : definition.action intent.action = some action
  requiredCapability : plan.requiredCapability = definition.capabilityId ∧
    definition.capabilityId = intent.capabilityId
  boundAction : plan.action = action.actionId ∧ action.actionId.val = intent.action
  version : plan.capabilityVersion = some definition.version
  fingerprint : plan.capabilityDefinitionFingerprint = some definition.definitionFingerprint
  targetReference : plan.targetReference = intent.targetReference
  arguments : plan.arguments = intent.arguments
  targetType : intent.targetType ∈ action.targetTypes
  minimum_le : action.minimumSideEffectLevel.val ≤ plan.sideEffectLevel.val
  le_maximum : plan.sideEffectLevel.val ≤ action.maximumSideEffectLevel.val

/-- The plan is bound to the catalog and to its intent, its level is the one that
is asked for or above it, and Core is not asked about less than the level 2 or 3
that the intent asks for. -/
structure NotUnderstated (intent : ExperimentIntent) (plan : ExperimentPlan) : Prop where
  bound : ∃ definition action, BoundTo registry definition action intent plan
  requested_le : ∀ requested, intent.requestedSideEffect = some requested →
    requested.val ≤ plan.sideEffectLevel.val
  authorized : ∀ request, RequestOf registry validate plan request →
    ∀ requested, intent.requestedSideEffect = some requested → 2 ≤ requested.val →
      (requested.val : Int) ≤ request.sideEffectLevel

/-- The intent asks for no level, or for the minimum of its action. -/
def AsksForMinimum (intent : ExperimentIntent) : Prop :=
  ∀ definition action, registry.get intent.capabilityId = some definition →
    definition.action intent.action = some action →
    ∀ requested, intent.requestedSideEffect = some requested →
      requested = action.minimumSideEffectLevel

end Compile

section Risk

variable {registry : CapabilityRegistry} {validate : Dict → Dict → Except CompileFailure Unit}
  {extra : Text → Option ArgumentValidator} {intent : ExperimentIntent} {plan : ExperimentPlan}

/-- **What a compilation binds**: the level is the minimum of the action, and all
that is left of the level that was asked for is that it lies in the range. -/
theorem compile_sound
    (h : compileExperimentIntent registry validate extra intent = .ok plan) :
    ∃ definition action, BoundTo registry definition action intent plan ∧
      plan.sideEffectLevel = action.minimumSideEffectLevel ∧
      ∀ requested, intent.requestedSideEffect = some requested →
        action.minimumSideEffectLevel.val ≤ requested.val ∧
        requested.val ≤ action.maximumSideEffectLevel.val := by
  unfold compileExperimentIntent at h
  split at h
  next => cases h
  next definition hdefinition =>
    split at h
    next => cases h
    next =>
      split at h
      next => cases h
      next action haction =>
        obtain ⟨_, htarget, h⟩ := bind_eq_ok h
        obtain ⟨_, -, h⟩ := bind_eq_ok h
        obtain ⟨_, -, h⟩ := bind_eq_ok h
        obtain ⟨_, -, h⟩ := bind_eq_ok h
        obtain ⟨_, -, h⟩ := bind_eq_ok h
        obtain ⟨_, -, h⟩ := bind_eq_ok h
        obtain ⟨_, hminimum, h⟩ := bind_eq_ok h
        obtain ⟨_, hmaximum, h⟩ := bind_eq_ok h
        cases h
        have hcapability := (KeyedList.get_eq_some hdefinition).2
        have hid := (KeyedList.get_eq_some haction).2
        refine ⟨definition, action, ?_, rfl, ?_⟩
        · exact {
            capability := hdefinition
            actionDefinition := haction
            requiredCapability := ⟨rfl, Subtype.ext hcapability⟩
            boundAction := ⟨rfl, hid⟩
            version := rfl
            fingerprint := rfl
            targetReference := rfl
            arguments := rfl
            targetType := by simpa using refuseIf_eq_ok.mp htarget
            minimum_le := Nat.le_refl _
            le_maximum := action.minimum_le_maximum }
        · intro requested hrequested
          have hlow := refuseIf_eq_ok.mp hminimum
          have hhigh := refuseIf_eq_ok.mp hmaximum
          rw [hrequested, Option.any_some, decide_eq_false_iff_not] at hlow hhigh
          omega

/-- Of the level that is asked for, a plan has all exactly if it is the minimum. -/
theorem requested_le_iff (h : compileExperimentIntent registry validate extra intent = .ok plan) :
    (∀ requested, intent.requestedSideEffect = some requested →
      requested.val ≤ plan.sideEffectLevel.val) ↔ AsksForMinimum registry intent := by
  obtain ⟨definition, action, hbound, hlevel, hrange⟩ := compile_sound h
  constructor
  · intro hle definition' action' hdefinition haction requested hrequested
    obtain rfl : definition = definition' :=
      Option.some.inj (hbound.capability.symm.trans hdefinition)
    obtain rfl : action = action' := Option.some.inj (hbound.actionDefinition.symm.trans haction)
    have hrequestedLe := hle requested hrequested
    rw [hlevel] at hrequestedLe
    exact Subtype.ext (Nat.le_antisymm hrequestedLe (hrange requested hrequested).1)
  · intro hasks requested hrequested
    have heq :=
      hasks definition action hbound.capability hbound.actionDefinition requested hrequested
    rw [hlevel, heq]

/-- **When the risk is not understated**: a compiled plan is bound to what the
catalog and the intent say, and it has the level that the intent asks for, up to
Core, exactly if the intent asks for no level or for the minimum. -/
theorem not_understated_iff
    (h : compileExperimentIntent registry validate extra intent = .ok plan) :
    NotUnderstated registry validate intent plan ↔ AsksForMinimum registry intent := by
  rw [← requested_le_iff h]
  constructor
  · exact NotUnderstated.requested_le
  · intro hle
    obtain ⟨definition, action, hbound, -⟩ := compile_sound h
    refine ⟨⟨definition, action, hbound⟩, hle, ?_⟩
    intro request hrequest requested hrequested _
    have hrequestedLe := hle requested hrequested
    rw [hrequest.sideEffectLevel]
    omega

/-! ## What Core makes of a plan -/

theorem toNat_coreLevel (level : SideEffect) : (coreLevel level).toNat = level.val := by
  obtain ⟨n, hn⟩ := level
  have hcases : n = 0 ∨ n = 1 ∨ n = 2 ∨ n = 3 := by omega
  rcases hcases with rfl | rfl | rfl | rfl <;> rfl

/-- The check of the levels passes whatever lies in the range. -/
theorem checkSideEffects_of_range {minimum maximum level : SideEffect}
    {view : Execution.CapabilityAuthorizationView}
    (hview : view.authoritativeMinimumSideEffect = coreLevel minimum)
    (heffective : view.effectiveSideEffect = coreLevel level) (hlow : minimum.val ≤ level.val)
    (hhigh : level.val ≤ maximum.val) :
    Execution.checkSideEffects ⟨coreLevel minimum, coreLevel maximum⟩ view (coreLevel level) =
      ⟨true, .allowed⟩ := by
  have hnotBelow : ¬ (coreLevel level).toNat < (coreLevel minimum).toNat := by
    rw [toNat_coreLevel, toNat_coreLevel]
    omega
  have hnotAbove : ¬ (coreLevel maximum).toNat < (coreLevel level).toNat := by
    rw [toNat_coreLevel, toNat_coreLevel]
    omega
  simp [Execution.checkSideEffects, hview, heffective, hnotBelow, hnotAbove]

/-- **Core does not notice**: its check of the capability lets every compiled plan
pass, whatever level its intent has asked for. -/
theorem checkCapabilityAuthorization_compiled
    (h : compileExperimentIntent registry validate extra intent = .ok plan)
    {view : Execution.CapabilityAuthorizationView}
    (hview : capabilityViewForPlan registry validate plan = .ok view) :
    Execution.checkCapabilityAuthorization (coreRegistry registry) (some view)
      (coreLevel plan.sideEffectLevel) = ⟨true, .allowed⟩ := by
  obtain ⟨definition, action, hbound, -⟩ := compile_sound h
  have hdefinition : registry.get plan.requiredCapability = some definition := by
    rw [hbound.requiredCapability.1, hbound.requiredCapability.2, hbound.capability]
  have haction : definition.action plan.action = some action := by
    rw [hbound.boundAction.1, hbound.boundAction.2, hbound.actionDefinition]
  unfold capabilityViewForPlan at hview
  rw [hdefinition] at hview
  dsimp only at hview
  rw [haction] at hview
  dsimp only at hview
  split at hview
  next => cases hview
  next hworker =>
    rw [hbound.version, hbound.fingerprint] at hview
    cases hview
    unfold Execution.checkCapabilityAuthorization coreRegistry
    dsimp only
    rw [hdefinition, Option.map_some]
    dsimp only
    rw [if_neg hworker, haction, Option.map_some]
    dsimp only
    rw [if_neg (by simp), if_neg (by simp)]
    exact checkSideEffects_of_range rfl rfl hbound.minimum_le hbound.le_maximum

end Risk

/-! ## A laboratory capability -/

/-- Its action may write, at level 1 or at level 2. -/
def labAction : Dict :=
  [("argument_schema".toList, .object [("additionalProperties".toList, .bool false)]),
    ("result_schema".toList, .object []),
    ("minimum_side_effect_level".toList, .integer 1),
    ("maximum_side_effect_level".toList, .integer 2),
    ("target_types".toList, .array [.text "opaque_reference".toList]),
    ("supports_reproduction".toList, .bool false),
    ("supports_negative_control".toList, .bool false)]

def labDocument : Dict :=
  [("capability_id".toList, .text "lab".toList),
    ("version".toList, .text "lab".toList),
    ("implementation_reference".toList, .text "lab".toList),
    ("executor_class".toList, .text "WORKER".toList),
    ("actions".toList, .object [("write".toList, .object labAction)])]

theorem lab_name : "lab".toList ≠ [] ∧ Text.strip "lab".toList = "lab".toList := by decide

theorem write_name : "write".toList ≠ [] ∧ Text.strip "write".toList = "write".toList := by decide

theorem worker_name : "WORKER".toList ≠ [] ∧ Text.strip "WORKER".toList = "WORKER".toList := by
  decide

theorem opaque_name : "opaque_reference".toList ≠ [] ∧
    Text.strip "opaque_reference".toList = "opaque_reference".toList := by decide

theorem write_notBlank : Text.strip "write".toList ≠ [] := by decide

theorem one_le_three : 1 ≤ 3 := by decide

theorem two_le_three : 2 ≤ 3 := by decide

theorem one_le_two : 1 ≤ 2 := by decide

def labName : Name := ⟨"lab".toList, lab_name⟩

/-- A digest that is the same for every payload. -/
def labDigest (_ : Dict) : Name := labName

def labActionDefinition : CapabilityActionDefinition where
  actionId := ⟨"write".toList, write_notBlank⟩
  argumentSchema := [("additionalProperties".toList, .bool false)]
  resultSchema := []
  minimumSideEffectLevel := ⟨1, one_le_three⟩
  maximumSideEffectLevel := ⟨2, two_le_three⟩
  minimum_le_maximum := one_le_two
  targetTypes := [⟨"opaque_reference".toList, opaque_name⟩]
  networkPolicy := none
  requirements := []
  supportsReproduction := false
  supportsNegativeControl := false
  normalizerReference := none

def labRegistry : CapabilityRegistry :=
  [{  capabilityId := labName
      version := labName
      implementationReference := labName
      executorClass := ⟨"WORKER".toList, worker_name⟩
      actions := [labActionDefinition]
      definitionFingerprint := labName }]

theorem labRegistry_built : registryFromDocuments labDigest [labDocument] = .ok labRegistry := rfl

/-- An intent to write without arguments, at some level. -/
def labIntent (requested : Option SideEffect) : ExperimentIntent where
  hypothesisId := labName
  capabilityId := labName
  action := ⟨"write".toList, write_name⟩
  targetReference := labName
  arguments := []
  requestedBudgetId := labName
  expectedObservation := labName
  disconfirmingObservation := labName
  evaluationStrategy := labName
  requestedSideEffect := requested
  targetType := ⟨"opaque_reference".toList, opaque_name⟩

/-- The plan of it, at whatever level it asks for. -/
def labPlan : ExperimentPlan where
  hypothesisId := labName
  requiredCapability := labName
  action := ⟨"write".toList, write_notBlank⟩
  targetReference := labName
  sideEffectLevel := ⟨1, one_le_three⟩
  arguments := []
  requestedBudgetId := labName
  expectedObservation := labName
  disconfirmingObservation := labName
  evaluationStrategy := labName
  capabilityVersion := some labName
  capabilityDefinitionFingerprint := some labName

def labView : Execution.CapabilityAuthorizationView where
  capabilityId := "lab".toList
  action := "write".toList
  capabilityVersion := "lab".toList
  definitionFingerprint := "lab".toList
  authoritativeMinimumSideEffect := .level1
  effectiveSideEffect := .level1

/-- What Core is asked about the plan: in scope, within its budget, and without an
approval. -/
def labRequest : Execution.ExecutionRequest where
  authorizationSource := some ⟨"lab".toList, "lab".toList, .active⟩
  scope := ⟨[⟨"lab".toList, .allow, true, "lab".toList⟩], false⟩
  issuedBudget := ⟨"lab".toList, 1, 1, 1, 1⟩
  budgetUsage := ⟨0, 0, 0, 0⟩
  requestedBudgetId := "lab".toList
  sideEffectLevel := 1
  requestedSubject := "lab".toList
  capability := some labView
  approval := none

/-- The catalog's schema accepts an object without members. -/
def labValidate : Dict → Dict → Except CompileFailure Unit := fun _ _ => .ok ()

/-- No argument validator of its own. -/
def labExtra : Text → Option ArgumentValidator := fun _ => none

/-- An intent for level 2 is compiled at level 1, and Core allows it: nobody is
asked for an approval. -/
theorem write_understated :
    registryFromDocuments labDigest [labDocument] = .ok labRegistry ∧
    compileExperimentIntent labRegistry labValidate labExtra
      (labIntent (some ⟨2, two_le_three⟩)) = .ok labPlan ∧
    RequestOf labRegistry labValidate labPlan labRequest ∧
    (Execution.evaluateExecution (coreRegistry labRegistry) labRequest).map (·.decision) =
      .ok .allow ∧
    ¬ NotUnderstated labRegistry labValidate (labIntent (some ⟨2, two_le_three⟩)) labPlan := by
  refine ⟨rfl, rfl, ⟨rfl, rfl, rfl, labView, rfl, rfl⟩, rfl, fun h => ?_⟩
  have hle := h.requested_le ⟨2, two_le_three⟩ rfl
  exact absurd hle (by decide)

/-- An intent for level 1 is taken at its word. -/
theorem not_understated_lab :
    NotUnderstated labRegistry labValidate (labIntent (some ⟨1, one_le_three⟩)) labPlan ∧
    AsksForMinimum labRegistry (labIntent (some ⟨1, one_le_three⟩)) := by
  have hcompiled : compileExperimentIntent labRegistry labValidate labExtra
      (labIntent (some ⟨1, one_le_three⟩)) = .ok labPlan := rfl
  have hasks : AsksForMinimum labRegistry (labIntent (some ⟨1, one_le_three⟩)) := by
    rintro definition action hdefinition haction requested hrequested
    cases hdefinition
    cases haction
    cases hrequested
    rfl
  exact ⟨(not_understated_iff hcompiled).mpr hasks, hasks⟩

end Zest.CapabilityCatalog

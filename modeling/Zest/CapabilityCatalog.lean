import Mathlib.Data.List.Lex
import Mathlib.Data.List.Sort
import Zest.ExperimentOptions
import Zest.Fallible
import Zest.HttpTransaction

/-! # The catalog of capabilities

A capability is defined by a document, and a document that does not say what a
capability needs is refused.  What the catalog holds has therefore been looked
at: every text is there, the levels of an action are from 0 to 3, and its
minimum is not above its maximum.  The types carry the last two, so that no
action can be built that breaks them.

The digest of the fields that count for the policy is a parameter.
-/
namespace Zest.CapabilityCatalog

open HttpTransaction (refuseIf refuseIf_eq_ok supportedRequirements)
open ResearchSelection (Name)

/-- `CapabilityRegistryError`: which message, and what it names. -/
inductive CapabilityRegistryError where
  /-- The field must be a non-empty string. -/
  | text (fieldName : String)
  | unsupportedExecutorClass (executorClass capabilityId : Name)
  /-- The capability must declare actions. -/
  | noActions (capabilityId : Name)
  | blankActionId
  | duplicateAction (actionId : Text) (capabilityId : Name)
  /-- The action must be an object. -/
  | actionObject (actionId : Text)
  | actionIdMismatch (capabilityId : Name) (declaredId : JsonValue) (actionId : Text)
  /-- The schema is required. -/
  | schema (capabilityId : Name) (actionId : Text) (fieldName : String)
  /-- The argument schema must set `additionalProperties` to false. -/
  | additionalProperties (capabilityId : Name) (actionId : Text)
  /-- The field must be 0, 1, 2, or 3. -/
  | sideEffect (fieldName : String)
  | minimumExceedsMaximum (capabilityId : Name) (actionId : Text)
  /-- The field must be a list of strings. -/
  | listOfStrings (fieldName : String)
  /-- The field must contain non-empty strings. -/
  | nonEmptyStrings (fieldName : String)
  | noTargetTypes (capabilityId : Name) (actionId : Text)
  /-- The policy must be an object or null. -/
  | networkPolicy (capabilityId : Name) (actionId : Text)
  | unsupportedRequirement (capabilityId : Name) (actionId : Text) (requirement : Name)
  /-- The flags must be bool. -/
  | reproductionFlags (capabilityId : Name) (actionId : Text)
  | duplicateCapability (capabilityId : Name)

/-- What `_require_side_effect` returns. -/
abbrev SideEffect := {level : Nat // level ≤ 3}

/-- The id of an action: it is not blank, but it keeps its blanks. -/
abbrev ActionId := {s : Text // s.strip ≠ []}

structure CapabilityActionDefinition where
  actionId : ActionId
  argumentSchema : Dict
  resultSchema : Dict
  minimumSideEffectLevel : SideEffect
  maximumSideEffectLevel : SideEffect
  minimum_le_maximum : minimumSideEffectLevel.val ≤ maximumSideEffectLevel.val
  targetTypes : List Name
  networkPolicy : Option Dict
  requirements : List Name
  supportsReproduction : Bool
  supportsNegativeControl : Bool
  normalizerReference : Option Name

structure CapabilityDefinition where
  capabilityId : Name
  version : Name
  implementationReference : Name
  executorClass : Name
  actions : List CapabilityActionDefinition
  definitionFingerprint : Name

/-- `CapabilityDefinition.action`. -/
def CapabilityDefinition.action (definition : CapabilityDefinition) (actionId : Text) :
    Option CapabilityActionDefinition :=
  KeyedList.get (·.actionId.val) definition.actions actionId

/-- `CapabilityRegistry`. -/
abbrev CapabilityRegistry := List CapabilityDefinition

/-- `CapabilityRegistry.get`. -/
def CapabilityRegistry.get (registry : CapabilityRegistry) (capabilityId : Text) :
    Option CapabilityDefinition :=
  KeyedList.get (·.capabilityId.val) registry capabilityId

/-! ## The fields of a document -/

/-- `_require_text`. -/
def requireText (fieldName : String) : JsonValue → Except CapabilityRegistryError Name
  | .text s => (ResearchSelection.requireText s fieldName).mapError fun _ => .text fieldName
  | _ => .error (.text fieldName)

theorem toNat_le_three {n : Int} (h : 0 ≤ n ∧ n ≤ 3) : n.toNat ≤ 3 := by omega

/-- A number among 0, 1, 2 and 3. -/
def sideEffectOfInt (n : Int) : Option SideEffect :=
  if h : 0 ≤ n ∧ n ≤ 3 then some ⟨n.toNat, toNat_le_three h⟩ else none

/-- `value in (0, 1, 2, 3)`, where `True` is 1 and `2.0` is 2. -/
def sideEffectOf : JsonValue → Option SideEffect
  | .integer n => sideEffectOfInt n
  | .bool b => sideEffectOfInt (if b then 1 else 0)
  | .real value => if value.den = 1 then sideEffectOfInt value.num else none
  | _ => none

/-- `_require_side_effect`. -/
def requireSideEffect (fieldName : String) (value : JsonValue) :
    Except CapabilityRegistryError SideEffect :=
  match sideEffectOf value with
  | some level => .ok level
  | none => .error (.sideEffect fieldName)

/-- The loop of `_require_string_tuple`. -/
def requireStrings (fieldName : String) (items : List JsonValue) :
    Except CapabilityRegistryError (List Name) :=
  items.mapM fun item =>
    (requireText fieldName item).mapError fun _ => .nonEmptyStrings fieldName

/-- `_require_string_tuple`; a dictionary is the list of its keys. -/
def requireStringTuple (fieldName : String) :
    JsonValue → Except CapabilityRegistryError (List Name)
  | .array items => requireStrings fieldName items
  | .object entries => requireStrings fieldName (entries.map fun entry => .text entry.1)
  | _ => .error (.listOfStrings fieldName)

/-- The check of a schema. -/
def requireSchema (refusal : CapabilityRegistryError) :
    JsonValue → Except CapabilityRegistryError Dict
  | .object schema => .ok schema
  | _ => .error refusal

/-- `value is False`. -/
def isFalse : JsonValue → Bool
  | .bool b => !b
  | _ => false

/-- `value == text`. -/
def isText (text : Text) : JsonValue → Bool
  | .text s => s = text
  | _ => false

def requireFlag (refusal : CapabilityRegistryError) :
    JsonValue → Except CapabilityRegistryError Bool
  | .bool b => .ok b
  | _ => .error refusal

def requireNetworkPolicy (refusal : CapabilityRegistryError) :
    JsonValue → Except CapabilityRegistryError (Option Dict)
  | .null => .ok none
  | .object policy => .ok (some policy)
  | _ => .error refusal

def requireRequirements (capabilityId : Name) (actionId : ActionId) (value : JsonValue) :
    Except CapabilityRegistryError (List Name) := do
  let requirements ←
    requireStringTuple "requirements" (if value.truthy then value else .array [])
  match requirements.find? fun item => !supportedRequirements.contains item.val with
  | some item => .error (.unsupportedRequirement capabilityId actionId item)
  | none => .ok requirements

def requireNormalizer : JsonValue → Except CapabilityRegistryError (Option Name)
  | .null => .ok none
  | value => some <$> requireText "normalizer_reference" value

/-- `_action_from_document`. -/
def actionFromDocument (capabilityId : Name) (actionId : ActionId) (raw : Dict) :
    Except CapabilityRegistryError CapabilityActionDefinition := do
  let argumentSchema ← requireSchema (.schema capabilityId actionId "argument_schema")
    (raw.get "argument_schema".toList)
  refuseIf (!isFalse (argumentSchema.get "additionalProperties".toList))
    (.additionalProperties capabilityId actionId)
  let resultSchema ← requireSchema (.schema capabilityId actionId "result_schema")
    (raw.get "result_schema".toList)
  let minimum ← requireSideEffect "minimum_side_effect_level"
    (raw.get "minimum_side_effect_level".toList)
  let maximum ← requireSideEffect "maximum_side_effect_level"
    (raw.get "maximum_side_effect_level".toList)
  if h : minimum.val ≤ maximum.val then do
    let targetTypes ← requireStringTuple "target_types" (raw.get "target_types".toList)
    refuseIf targetTypes.isEmpty (.noTargetTypes capabilityId actionId)
    let networkPolicy ← requireNetworkPolicy (.networkPolicy capabilityId actionId)
      (raw.get "network_policy".toList)
    let requirements ← requireRequirements capabilityId actionId (raw.get "requirements".toList)
    let supportsReproduction ← requireFlag (.reproductionFlags capabilityId actionId)
      (raw.get "supports_reproduction".toList)
    let supportsNegativeControl ← requireFlag (.reproductionFlags capabilityId actionId)
      (raw.get "supports_negative_control".toList)
    let normalizerReference ← requireNormalizer (raw.get "normalizer_reference".toList)
    return {
      actionId := actionId
      argumentSchema := argumentSchema
      resultSchema := resultSchema
      minimumSideEffectLevel := minimum
      maximumSideEffectLevel := maximum
      minimum_le_maximum := h
      targetTypes := targetTypes
      networkPolicy := networkPolicy
      requirements := requirements
      supportsReproduction := supportsReproduction
      supportsNegativeControl := supportsNegativeControl
      normalizerReference := normalizerReference }
  else .error (.minimumExceedsMaximum capabilityId actionId)

/-- One turn of the loop over the actions. -/
def declaredAction (capabilityId : Name) (seen : List CapabilityActionDefinition)
    (actionId : Text) (value : JsonValue) :
    Except CapabilityRegistryError CapabilityActionDefinition :=
  if hblank : actionId.strip = [] then .error .blankActionId
  else if seen.any (·.actionId.val = actionId) then
    .error (.duplicateAction actionId capabilityId)
  else match value with
    | .object raw =>
      let declaredId := (raw.lookup "action_id".toList).getD (.text actionId)
      if isText actionId declaredId then actionFromDocument capabilityId ⟨actionId, hblank⟩ raw
      else .error (.actionIdMismatch capabilityId declaredId actionId)
    | _ => .error (.actionObject actionId)

/-- The loop over the actions. -/
def actionsFromDocument (capabilityId : Name) :
    List CapabilityActionDefinition → Dict →
    Except CapabilityRegistryError (List CapabilityActionDefinition)
  | actions, [] => .ok actions
  | actions, entry :: rest => do
    let action ← declaredAction capabilityId actions entry.1 entry.2
    actionsFromDocument capabilityId (actions ++ [action]) rest

/-! ## The fingerprint -/

/-- `DEFINITION_POLICY_FIELDS`, without the actions. -/
def definitionPolicyFields : List Text :=
  ["capability_id".toList, "version".toList, "implementation_reference".toList,
    "executor_class".toList]

/-- `ACTION_POLICY_FIELDS`. -/
def actionPolicyFields : List Text :=
  ["action_id".toList, "argument_schema".toList, "result_schema".toList,
    "minimum_side_effect_level".toList, "maximum_side_effect_level".toList,
    "target_types".toList, "network_policy".toList, "requirements".toList,
    "supports_reproduction".toList, "supports_negative_control".toList,
    "normalizer_reference".toList]

/-- The fields of a document, where one that is not there is null. -/
def policyPayload (fields : List Text) (document : Dict) : Dict :=
  fields.map fun field => (field, document.get field)

/-- The entry of an action in the payload; every action has been read as an
object before. -/
def actionPolicyPayload (actions : Dict) (actionId : Text) : Text × JsonValue :=
  match actions.get actionId with
  | .object raw => (actionId, .object (policyPayload actionPolicyFields raw))
  | other => (actionId, other)

/-- `allowlisted_policy_payload`, of a document whose actions have been read. -/
def allowlistedPolicyPayload (document actions : Dict) : Dict :=
  policyPayload definitionPolicyFields document ++
    [("actions".toList, .object
      (((actions.map (·.1)).insertionSort (· ≤ ·)).map (actionPolicyPayload actions)))]

/-! ## The documents -/

section Documents

-- The SHA-256 of the canonical JSON, as a hex digest.
variable (digest : Dict → Name)

/-- `_definition_from_document`. -/
def definitionFromDocument (document : Dict) :
    Except CapabilityRegistryError CapabilityDefinition := do
  let capabilityId ← requireText "capability_id" (document.get "capability_id".toList)
  let version ← requireText "version" (document.get "version".toList)
  let implementationReference ← requireText "implementation_reference"
    (document.get "implementation_reference".toList)
  let executorClass ← requireText "executor_class" (document.get "executor_class".toList)
  refuseIf (executorClass.val ≠ "WORKER".toList)
    (.unsupportedExecutorClass executorClass capabilityId)
  match document.get "actions".toList with
  | .object (entry :: entries) =>
    let actions ← actionsFromDocument capabilityId [] (entry :: entries)
    return {
      capabilityId := capabilityId
      version := version
      implementationReference := implementationReference
      executorClass := executorClass
      actions := actions
      definitionFingerprint := digest (allowlistedPolicyPayload document (entry :: entries)) }
  | _ => .error (.noActions capabilityId)

/-- The loop of `registry_from_documents`. -/
def collectDefinitions : CapabilityRegistry → List Dict →
    Except CapabilityRegistryError CapabilityRegistry
  | definitions, [] => .ok definitions
  | definitions, document :: documents => do
    let definition ← definitionFromDocument digest document
    refuseIf (definitions.any (·.capabilityId = definition.capabilityId))
      (.duplicateCapability definition.capabilityId)
    collectDefinitions (definitions ++ [definition]) documents

/-- `registry_from_documents`. -/
def registryFromDocuments (documents : List Dict) :
    Except CapabilityRegistryError CapabilityRegistry :=
  collectDefinitions digest [] documents

end Documents

/-! ## What a catalog holds -/

/-- What an action has been looked at for. -/
structure CapabilityActionDefinition.WellFormed (action : CapabilityActionDefinition) : Prop where
  additionalProperties : isFalse (action.argumentSchema.get "additionalProperties".toList) = true
  targetTypes : action.targetTypes ≠ []
  requirements : ∀ item ∈ action.requirements, item.val ∈ supportedRequirements

/-- What a definition has been looked at for. -/
structure CapabilityDefinition.WellFormed (definition : CapabilityDefinition) : Prop where
  worker : definition.executorClass.val = "WORKER".toList
  actionIds : (definition.actions.map (·.actionId.val)).Nodup
  actions : ∀ action ∈ definition.actions, action.WellFormed

/-- Requirements that are read are supported. -/
theorem supported_of_requireRequirements {capabilityId : Name} {actionId : ActionId}
    {value : JsonValue} {requirements : List Name}
    (h : requireRequirements capabilityId actionId value = .ok requirements) :
    ∀ item ∈ requirements, item.val ∈ supportedRequirements := by
  unfold requireRequirements at h
  obtain ⟨items, -, h⟩ := bind_eq_ok h
  split at h
  next => cases h
  next hnone =>
    cases h
    intro item hitem
    simpa using List.find?_eq_none.mp hnone item hitem

theorem wellFormed_of_actionFromDocument {capabilityId : Name} {actionId : ActionId} {raw : Dict}
    {action : CapabilityActionDefinition}
    (h : actionFromDocument capabilityId actionId raw = .ok action) :
    action.WellFormed ∧ action.actionId = actionId := by
  unfold actionFromDocument at h
  obtain ⟨argumentSchema, -, h⟩ := bind_eq_ok h
  obtain ⟨_, hclosed, h⟩ := bind_eq_ok h
  obtain ⟨resultSchema, -, h⟩ := bind_eq_ok h
  obtain ⟨minimum, -, h⟩ := bind_eq_ok h
  obtain ⟨maximum, -, h⟩ := bind_eq_ok h
  split at h
  next =>
    obtain ⟨targetTypes, -, h⟩ := bind_eq_ok h
    obtain ⟨_, htargets, h⟩ := bind_eq_ok h
    obtain ⟨networkPolicy, -, h⟩ := bind_eq_ok h
    obtain ⟨requirements, hrequirements, h⟩ := bind_eq_ok h
    obtain ⟨supportsReproduction, -, h⟩ := bind_eq_ok h
    obtain ⟨supportsNegativeControl, -, h⟩ := bind_eq_ok h
    obtain ⟨normalizerReference, -, h⟩ := bind_eq_ok h
    cases h
    exact ⟨⟨by simpa using refuseIf_eq_ok.mp hclosed, by simpa using refuseIf_eq_ok.mp htargets,
      supported_of_requireRequirements hrequirements⟩, rfl⟩
  next => cases h

/-- An action that is read is new. -/
theorem wellFormed_of_declaredAction {capabilityId : Name}
    {seen : List CapabilityActionDefinition} {actionId : Text} {value : JsonValue}
    {action : CapabilityActionDefinition}
    (h : declaredAction capabilityId seen actionId value = .ok action) :
    action.WellFormed ∧ action.actionId.val ∉ seen.map (·.actionId.val) := by
  unfold declaredAction at h
  split at h
  next => cases h
  next hblank =>
    split at h
    next => cases h
    next hnew =>
      split at h
      next raw =>
        dsimp only at h
        split at h
        next =>
          obtain ⟨hwell, hid⟩ := wellFormed_of_actionFromDocument h
          refine ⟨hwell, ?_⟩
          rw [hid]
          simpa using hnew
        next => cases h
      next => cases h

/-- The actions that are read are well formed, and no two have one id. -/
theorem wellFormed_of_actionsFromDocument {capabilityId : Name}
    {before actions : List CapabilityActionDefinition} {entries : Dict}
    (h : actionsFromDocument capabilityId before entries = .ok actions)
    (hbefore : (before.map (·.actionId.val)).Nodup ∧ ∀ action ∈ before, action.WellFormed) :
    (actions.map (·.actionId.val)).Nodup ∧ ∀ action ∈ actions, action.WellFormed := by
  induction entries generalizing before with
  | nil =>
    cases h
    exact hbefore
  | cons entry rest ih =>
    obtain ⟨action, haction, h⟩ := bind_eq_ok h
    obtain ⟨hwell, hnew⟩ := wellFormed_of_declaredAction haction
    refine ih h ⟨?_, ?_⟩
    · rw [List.map_append, List.map_singleton]
      exact hbefore.1.append (List.nodup_singleton _) (by simpa using hnew)
    · intro item hitem
      rcases List.mem_append.mp hitem with hold | hlast
      · exact hbefore.2 item hold
      · rw [List.mem_singleton.mp hlast]
        exact hwell

theorem wellFormed_of_definitionFromDocument {digest : Dict → Name} {document : Dict}
    {definition : CapabilityDefinition}
    (h : definitionFromDocument digest document = .ok definition) : definition.WellFormed := by
  unfold definitionFromDocument at h
  obtain ⟨capabilityId, -, h⟩ := bind_eq_ok h
  obtain ⟨version, -, h⟩ := bind_eq_ok h
  obtain ⟨implementationReference, -, h⟩ := bind_eq_ok h
  obtain ⟨executorClass, -, h⟩ := bind_eq_ok h
  obtain ⟨_, hworker, h⟩ := bind_eq_ok h
  split at h
  next =>
    obtain ⟨actions, hactions, h⟩ := bind_eq_ok h
    cases h
    obtain ⟨hids, hwell⟩ :=
      wellFormed_of_actionsFromDocument hactions ⟨List.nodup_nil, by simp⟩
    exact ⟨by simpa using refuseIf_eq_ok.mp hworker, hids, hwell⟩
  next => cases h

/-- **What a catalog of documents holds**: definitions that are well formed, one
for each id. -/
theorem wellFormed_of_collectDefinitions {digest : Dict → Name}
    {before registry : CapabilityRegistry} {documents : List Dict}
    (h : collectDefinitions digest before documents = .ok registry)
    (hbefore : (before.map (·.capabilityId)).Nodup ∧
      ∀ definition ∈ before, definition.WellFormed) :
    (registry.map (·.capabilityId)).Nodup ∧ ∀ definition ∈ registry, definition.WellFormed := by
  induction documents generalizing before with
  | nil =>
    cases h
    exact hbefore
  | cons document documents ih =>
    obtain ⟨definition, hdefinition, h⟩ := bind_eq_ok h
    obtain ⟨_, hnew, h⟩ := bind_eq_ok h
    have hnotMem : definition.capabilityId ∉ before.map (·.capabilityId) := by
      simpa using refuseIf_eq_ok.mp hnew
    refine ih h ⟨?_, ?_⟩
    · rw [List.map_append, List.map_singleton]
      exact hbefore.1.append (List.nodup_singleton _) (by simpa using hnotMem)
    · intro item hitem
      rcases List.mem_append.mp hitem with hold | hlast
      · exact hbefore.2 item hold
      · rw [List.mem_singleton.mp hlast]
        exact wellFormed_of_definitionFromDocument hdefinition

end Zest.CapabilityCatalog

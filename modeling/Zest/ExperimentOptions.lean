import Zest.CanonicalJson
import Zest.JsonValue

/-! # The options of a research selection

A run of the selection asks, for each of its hypotheses, what could be probed
next: the objects and the resources of its contexts, at the origins that it is
given.  What comes out are options.  An option is known by a digest of what it
would probe, and the same digest is taken of the arguments of a plan that has
been made of an option, so that no probe is selected twice.

The digest and Python's `str` of what is no text are parameters.
-/
namespace Zest.ResearchSelection

/-- What `_require_text` returns. -/
abbrev Name := {s : Text // s ≠ [] ∧ s.strip = s}

instance lawfulName : LawfulBEq Name := inferInstance

/-- `_require_text`, of a text. -/
def requireText (value : Text) (fieldName : String) : Except String Name :=
  if h : value.strip = [] then .error (fieldName ++ " must be a non-empty string")
  else .ok ⟨value.strip, h, Text.strip_strip value⟩

inductive HypothesisFamily where
  | objectAuthorization
  | workflowStateTransition
  | exposedApiSpec
  | unprotectedHostname
  | techKnownCveSurface
  | unknown
  deriving DecidableEq, Repr

def HypothesisFamily.value : HypothesisFamily → Text
  | .objectAuthorization => "OBJECT_AUTHORIZATION".toList
  | .workflowStateTransition => "WORKFLOW_STATE_TRANSITION".toList
  | .exposedApiSpec => "EXPOSED_API_SPEC".toList
  | .unprotectedHostname => "UNPROTECTED_HOSTNAME".toList
  | .techKnownCveSurface => "TECH_KNOWN_CVE_SURFACE".toList
  | .unknown => "UNKNOWN".toList

inductive HypothesisLifecycle where
  | active
  | supported
  | needsMoreContext
  | deprioritized
  | falsified
  deriving DecidableEq, Repr

/-- `LIVE_LIFECYCLES`. -/
def HypothesisLifecycle.live : HypothesisLifecycle → Bool
  | .active | .supported | .needsMoreContext => true
  | .deprioritized | .falsified => false

/-- `open_investigation`. -/
def HypothesisLifecycle.openInvestigation : HypothesisLifecycle → Bool
  | .active | .needsMoreContext => true
  | .supported | .deprioritized | .falsified => false

inductive ExperimentPurpose where
  | objectCrossProbe
  | objectControlProbe
  | objectIndependentReproduction
  | workflowTransitionProbe
  | workflowControlProbe
  | workflowIndependentReproduction
  deriving DecidableEq, Repr

def ExperimentPurpose.value : ExperimentPurpose → Text
  | .objectCrossProbe => "OBJECT_CROSS_PROBE".toList
  | .objectControlProbe => "OBJECT_CONTROL_PROBE".toList
  | .objectIndependentReproduction => "OBJECT_INDEPENDENT_REPRODUCTION".toList
  | .workflowTransitionProbe => "WORKFLOW_TRANSITION_PROBE".toList
  | .workflowControlProbe => "WORKFLOW_CONTROL_PROBE".toList
  | .workflowIndependentReproduction => "WORKFLOW_INDEPENDENT_REPRODUCTION".toList

inductive DiscriminationLevel where
  | high
  | medium
  | low
  deriving DecidableEq, Repr

/-! ## Contexts, facts and hypotheses -/

structure ObjectProbeContext where
  actor : Name
  ownObject : Name
  crossObject : Name
  verificationActor : Option Text
  verificationOwnObject : Option Text
  verificationCrossObject : Option Text
  deriving DecidableEq

/-- `ObjectProbeContext(actor, own_object, cross_object)`. -/
def ObjectProbeContext.make (actor ownObject crossObject : Text) :
    Except String ObjectProbeContext := do
  let actor ← requireText actor "actor"
  let ownObject ← requireText ownObject "own_object"
  let crossObject ← requireText crossObject "cross_object"
  return ⟨actor, ownObject, crossObject, none, none, none⟩

structure WorkflowProbeContext where
  actor : Name
  resourceId : Name
  transition : Name
  verificationActor : Option Text
  verificationResourceId : Option Text
  deriving DecidableEq

/-- `WorkflowProbeContext(actor, resource_id, transition)`. -/
def WorkflowProbeContext.make (actor resourceId transition : Text) :
    Except String WorkflowProbeContext := do
  let actor ← requireText actor "actor"
  let resourceId ← requireText resourceId "resource_id"
  let transition ← requireText transition "transition"
  return ⟨actor, resourceId, transition, none, none⟩

/-- `value or default`, of a text that may be missing. -/
def orElse (default : Text) : Option Text → Text
  | none | some [] => default
  | some s => s

/-- The actor that a finding is verified as, if there is one. -/
def truthyText : Option Text → Option Text
  | none | some [] => none
  | some s => some s

structure ObservedResearchFact where
  observationId : Name
  observationKind : Name
  payload : Dict

/-- `PortfolioHypothesis`, less what the options are not made of. -/
structure PortfolioHypothesis where
  hypothesisId : Name
  family : HypothesisFamily
  lifecycle : HypothesisLifecycle
  originReference : Text

/-- `OBJECT_HYPOTHESIS_ORIGIN`. -/
def objectHypothesisOrigin : Text := "human-seed-object-authorization".toList

/-- `WORKFLOW_HYPOTHESIS_ORIGIN`. -/
def workflowHypothesisOrigin : Text := "human-seed-workflow-authorization".toList

/-- `origin_binds_object_context`. -/
def originBindsObjectContext (originReference : Text) (context : ObjectProbeContext) : Bool :=
  if originReference = [] ∨ originReference = objectHypothesisOrigin then true
  else originReference = objectHypothesisOrigin ++ [':'] ++ context.actor.val ++ [':'] ++
    context.ownObject.val ++ [':'] ++ context.crossObject.val

/-- `origin_binds_workflow_context`. -/
def originBindsWorkflowContext (originReference : Text) (context : WorkflowProbeContext) : Bool :=
  if originReference = [] ∨ originReference = workflowHypothesisOrigin then true
  else originReference = workflowHypothesisOrigin ++ [':'] ++ context.actor.val ++ [':'] ++
    context.resourceId.val ++ [':'] ++ context.transition.val

/-! ## Options -/

/-- `ExperimentOption`. -/
structure ExperimentOption where
  optionId : Text
  hypothesisId : Text
  hypothesisIds : List Text
  purpose : ExperimentPurpose
  requiredCapability : Text
  requestedObservation : String
  expectedSupportingObservation : String
  expectedDisconfirmingObservation : String
  requiredNegativeControl : String
  unresolvedFacts : List String
  estimatedRequestCost : Nat
  sideEffectLevel : Nat
  canFalsifyLive : Bool
  distinguishesCompetingCount : Nat
  resolvesMissingFact : Bool
  providesMissingNegativeControl : Bool
  authorizedOrigin : Text
  targetReference : Text
  inAuthorizedOrigin : Bool
  contextSignature : Text
  structuralIdentity : Text
  planArguments : Dict
  discrimination : DiscriminationLevel
  observationIds : List Text

/-- `HTTP_AUTHORIZATION_DIFFERENTIAL_CAPABILITY`. -/
def httpAuthorizationDifferentialCapability : Text := "http.authorization.differential".toList

/-- `HTTP_STATE_TRANSITION_CAPABILITY`. -/
def httpStateTransitionCapability : Text := "http.state_transition".toList

/-- `discrimination_for`. -/
def discriminationFor (canFalsifyLive : Bool) (distinguishesCompetingCount : Nat)
    (resolvesMissingFact providesMissingNegativeControl : Bool) : DiscriminationLevel :=
  if 2 ≤ distinguishesCompetingCount && (canFalsifyLive || resolvesMissingFact) then .high
  else if canFalsifyLive && (resolvesMissingFact || providesMissingNegativeControl) then .high
  else if canFalsifyLive || resolvesMissingFact || providesMissingNegativeControl then .medium
  else .low

section Digests

variable (sha256 : Text → Text)

/-- `experiment_option_identity`. -/
def experimentOptionIdentity (capability : Text) (purpose : ExperimentPurpose)
    (origin actor resource operation : Text) : Text :=
  sha256 (CanonicalJson.dumps
    [("capability".toList, capability), ("purpose".toList, purpose.value),
      ("origin".toList, origin), ("actor".toList, actor), ("resource".toList, resource),
      ("operation".toList, operation)])

/-- `context_signature_for`. -/
def contextSignatureFor (family : HypothesisFamily) (origin resource : Text) : Text :=
  sha256 (CanonicalJson.dumps
    [("family".toList, family.value), ("origin".toList, origin), ("resource".toList, resource)])

variable (str : JsonValue → Text)

/-- `str(value or default)`. -/
def strOr (default : Text) : JsonValue → Text
  | .text s => if s = [] then default else s
  | value => if value.truthy then str value else default

/-- The purpose that the digest of an object probe names: a reproduction counts
as the probe that it repeats. -/
def objectProbeKind (mode : Text) : ExperimentPurpose :=
  if mode = "secure_only".toList then .objectControlProbe else .objectCrossProbe

/-- The same of a workflow probe. -/
def workflowProbeKind (area : Text) : ExperimentPurpose :=
  if area = "control".toList then .workflowControlProbe else .workflowTransitionProbe

/-- `f"{own_object}:{cross_object}"`, and the like. -/
def joined (first second : Text) : Text := first ++ ':' :: second

/-- `identity_from_plan_arguments`. -/
def identityFromPlanArguments (capability : Text) (arguments : Dict) (targetReference : Text) :
    Option Text :=
  if capability = httpAuthorizationDifferentialCapability then
    let mode := strOr str "vulnerable".toList (arguments.get "mode".toList)
    let actor := strOr str [] (arguments.get "actor".toList)
    let ownObject := strOr str [] (arguments.get "own_object".toList)
    let crossObject := strOr str [] (arguments.get "cross_object".toList)
    some (experimentOptionIdentity sha256 capability (objectProbeKind mode) targetReference actor
      (joined ownObject crossObject) mode)
  else if capability = httpStateTransitionCapability then
    let area := strOr str "workflow".toList (arguments.get "area".toList)
    let actor := strOr str [] (arguments.get "actor".toList)
    let resourceId := strOr str [] (arguments.get "resource_id".toList)
    let transition := strOr str [] (arguments.get "transition".toList)
    some (experimentOptionIdentity sha256 capability (workflowProbeKind area) targetReference actor
      resourceId (joined area transition))
  else none

/-! ## What has been observed of a context -/

/-- `value == n`. -/
def equalsInteger (n : Int) : JsonValue → Bool
  | .integer m => m = n
  | .real value => value = n
  | .bool b => (if b then 1 else 0) = n
  | _ => false

/-- The observations, in the order of their ids. -/
def sortedFacts (observations : List ObservedResearchFact) : List ObservedResearchFact :=
  observations.insertionSort fun a b => a.observationId.val ≤ b.observationId.val

/-- `isinstance(owner, str) and owner == cross_object`. -/
def isOwner (crossObject : Text) : JsonValue → Bool
  | .text owner => owner = crossObject
  | _ => false

/-- `isinstance(value, str)`. -/
def isText : JsonValue → Bool
  | .text _ => true
  | _ => false

/-- `_object_state`, as far as the options are made of it. -/
structure ObjectState where
  observed : Bool
  secureDenied : Bool
  observationIds : List Text
  unresolved : List String

def objectState (observations : List ObservedResearchFact) (context : ObjectProbeContext)
    (origin : Text) : ObjectState :=
  let matching := (sortedFacts observations).filter fun item =>
    item.observationKind.val = "HTTP_AUTHORIZATION_DIFFERENTIAL".toList &&
    strOr str [] (item.payload.get "actor".toList) = context.actor.val &&
    strOr str [] (item.payload.get "own_object".toList) = context.ownObject.val &&
    strOr str [] (item.payload.get "cross_object".toList) = context.crossObject.val &&
    strOr str origin (item.payload.get "authorized_origin".toList) = origin
  match matching.getLast? with
  | none => ⟨false, false, [],
      ["cross_object_owner", "secure_control", "unauthenticated_control"]⟩
  | some last =>
    let ownerProven := isOwner context.crossObject.val
      (last.payload.get "cross_object_request_object_owner".toList)
    let secureDenied := equalsInteger 403 (last.payload.get "secure_control_status".toList)
    ⟨true, secureDenied, matching.map (·.observationId.val),
      (if ownerProven then [] else ["cross_object_owner"]) ++
        (if secureDenied then [] else ["secure_control"])⟩

/-- `_workflow_state`, as far as the options are made of it. -/
structure WorkflowState where
  observed : Bool
  controlDenied : Bool
  observationIds : List Text
  unresolved : List String

/-- `payload.get("control_status") in {401, 403, 409}`: what cannot be hashed
raises. -/
def deniedStatus : JsonValue → Except String Bool
  | .array _ => .error "unhashable type: 'list'"
  | .object _ => .error "unhashable type: 'dict'"
  | value => .ok (equalsInteger 401 value || equalsInteger 403 value || equalsInteger 409 value)

def workflowState (observations : List ObservedResearchFact) (context : WorkflowProbeContext)
    (origin : Text) : Except String WorkflowState :=
  let matching := (sortedFacts observations).filter fun item =>
    item.observationKind.val = "HTTP_STATE_TRANSITION_AUTHORIZATION".toList &&
    strOr str [] (item.payload.get "actor".toList) = context.actor.val &&
    strOr str [] (item.payload.get "resource_id".toList) = context.resourceId.val &&
    strOr str origin (item.payload.get "authorized_origin".toList) = origin
  match matching.getLast? with
  | none => .ok ⟨false, false, [], ["pre_state", "post_state", "control_path"]⟩
  | some last => do
    let controlDenied ← deniedStatus (last.payload.get "control_status".toList)
    let postState := isText (last.payload.get "post_state".toList)
    return ⟨true, controlDenied, matching.map (·.observationId.val),
      (if postState then [] else ["post_state"]) ++
        (if controlDenied then [] else ["control_path"])⟩

/-! ## The options of a hypothesis, a context and a target -/

/-- What the options of one call have in common. -/
structure Proposal (Context : Type) where
  hypothesis : PortfolioHypothesis
  context : Context
  observations : List ObservedResearchFact
  authorizedOrigin : Name
  targetReference : Text
  competing : Nat
  /-- `next_id`, by the number of the option. -/
  optionId : Nat → Text

/-- The arguments of a plan for an object probe. -/
def objectArguments (authorizedOrigin actor ownObject crossObject mode : Text) : Dict :=
  [("authorized_origin".toList, .text authorizedOrigin), ("actor".toList, .text actor),
    ("own_object".toList, .text ownObject), ("cross_object".toList, .text crossObject),
    ("mode".toList, .text mode)]

/-- The same for a workflow probe. -/
def workflowArguments (authorizedOrigin actor resourceId transition area : Text) : Dict :=
  [("authorized_origin".toList, .text authorizedOrigin), ("actor".toList, .text actor),
    ("resource_id".toList, .text resourceId), ("transition".toList, .text transition),
    ("area".toList, .text area)]

/-- `_make_object_option`.  Of the checks of an option only that of its target can
fail: the other texts are constants, digests, or have been checked before. -/
def makeObjectOption (optionId : Text) (p : Proposal ObjectProbeContext)
    (context : ObjectProbeContext) (purpose : ExperimentPurpose) (mode resource : Text)
    (canFalsifyLive resolvesMissingFact providesMissingNegativeControl : Bool)
    (unresolved : List String) (observationIds : List Text) : Except String ExperimentOption := do
  let targetReference ← requireText p.targetReference "target_reference"
  return {
    optionId := optionId.strip
    hypothesisId := p.hypothesis.hypothesisId.val
    hypothesisIds := [p.hypothesis.hypothesisId.val]
    purpose := purpose
    requiredCapability := httpAuthorizationDifferentialCapability
    requestedObservation := "object authorization differential including owner and controls"
    expectedSupportingObservation :=
      "cross-object read returns the foreign owner's object while the secure control denies"
    expectedDisconfirmingObservation :=
      "cross-object access is denied, public, delegated, or lacks foreign owner proof"
    requiredNegativeControl := "secure_only object control"
    unresolvedFacts := unresolved
    estimatedRequestCost := 4
    sideEffectLevel := 0
    canFalsifyLive := canFalsifyLive
    distinguishesCompetingCount := p.competing
    resolvesMissingFact := resolvesMissingFact
    providesMissingNegativeControl := providesMissingNegativeControl
    authorizedOrigin := p.authorizedOrigin.val
    targetReference := targetReference.val
    inAuthorizedOrigin := p.targetReference = p.authorizedOrigin.val
    contextSignature := contextSignatureFor sha256 .objectAuthorization p.targetReference resource
    structuralIdentity := experimentOptionIdentity sha256 httpAuthorizationDifferentialCapability
      (objectProbeKind mode) p.targetReference context.actor.val resource mode
    planArguments := objectArguments p.authorizedOrigin.val context.actor.val
      context.ownObject.val context.crossObject.val mode
    discrimination := discriminationFor canFalsifyLive p.competing resolvesMissingFact
      providesMissingNegativeControl
    observationIds := observationIds }

/-- The two probes of an open investigation, of objects. -/
def openObjectOptions (p : Proposal ObjectProbeContext) (counter : Nat) :
    Except String (List ExperimentOption) :=
  let state := objectState str p.observations p.context p.authorizedOrigin.val
  let resource := joined p.context.ownObject.val p.context.crossObject.val
  if p.hypothesis.lifecycle.openInvestigation then do
    let cross ← makeObjectOption sha256 (p.optionId (counter + 1)) p p.context .objectCrossProbe
      "vulnerable".toList resource true (!state.observed || !state.unresolved.isEmpty) false
      (if state.unresolved = [] then ["object_authorization_semantics"] else state.unresolved)
      state.observationIds
    let control ← makeObjectOption sha256 (p.optionId (counter + 2)) p p.context
      .objectControlProbe "secure_only".toList resource true false (!state.secureDenied)
      (if !state.secureDenied then ["secure_control"] else ["negative_control_already_present"])
      state.observationIds
    return [cross, control]
  else .ok []

/-- The reproduction of a supported hypothesis by another actor, of objects.  The
digest is taken of the names as they are, the plan has them checked. -/
def reproducedObjectOptions (p : Proposal ObjectProbeContext) (counter : Nat) :
    Except String (List ExperimentOption) :=
  if p.hypothesis.lifecycle = .supported then
    match truthyText p.context.verificationActor with
    | none => .ok []
    | some actor => do
      let state := objectState str p.observations p.context p.authorizedOrigin.val
      let ownObject := orElse actor p.context.verificationOwnObject
      let crossObject := orElse p.context.crossObject.val p.context.verificationCrossObject
      let context ← ObjectProbeContext.make actor ownObject crossObject
      let option ← makeObjectOption sha256 (p.optionId (counter + 1)) p context
        .objectIndependentReproduction "vulnerable".toList (joined ownObject crossObject) true
        false false ["independent_reproduction"] state.observationIds
      return [option]
  else .ok []

/-- `_object_options`, after `counter` options. -/
def objectOptions (p : Proposal ObjectProbeContext) (counter : Nat) :
    Except String (List ExperimentOption) := do
  let opened ← openObjectOptions sha256 str p counter
  let reproduced ← reproducedObjectOptions sha256 str p (counter + opened.length)
  return opened ++ reproduced

/-- `_make_workflow_option`. -/
def makeWorkflowOption (optionId : Text) (p : Proposal WorkflowProbeContext)
    (context : WorkflowProbeContext) (purpose : ExperimentPurpose) (area : Text)
    (canFalsifyLive resolvesMissingFact providesMissingNegativeControl : Bool)
    (unresolved : List String) (observationIds : List Text) (signed : Text) :
    Except String ExperimentOption := do
  let targetReference ← requireText p.targetReference "target_reference"
  return {
    optionId := optionId.strip
    hypothesisId := p.hypothesis.hypothesisId.val
    hypothesisIds := [p.hypothesis.hypothesisId.val]
    purpose := purpose
    requiredCapability := httpStateTransitionCapability
    requestedObservation := "authoritative pre/post workflow state and control denial"
    expectedSupportingObservation :=
      "unauthorized actor changes authoritative workflow state while the control path denies"
    expectedDisconfirmingObservation :=
      "transition is denied or authoritative post-state is unchanged"
    requiredNegativeControl := "control-area workflow denial"
    unresolvedFacts := unresolved
    estimatedRequestCost := 4
    sideEffectLevel := 1
    canFalsifyLive := canFalsifyLive
    distinguishesCompetingCount := p.competing
    resolvesMissingFact := resolvesMissingFact
    providesMissingNegativeControl := providesMissingNegativeControl
    authorizedOrigin := p.authorizedOrigin.val
    targetReference := targetReference.val
    inAuthorizedOrigin := p.targetReference = p.authorizedOrigin.val
    contextSignature := contextSignatureFor sha256 .workflowStateTransition p.targetReference signed
    structuralIdentity := experimentOptionIdentity sha256 httpStateTransitionCapability
      (workflowProbeKind area) p.targetReference context.actor.val context.resourceId.val
      (joined area context.transition.val)
    planArguments := workflowArguments p.authorizedOrigin.val context.actor.val
      context.resourceId.val context.transition.val area
    discrimination := discriminationFor canFalsifyLive p.competing resolvesMissingFact
      providesMissingNegativeControl
    observationIds := observationIds }

/-- The two probes of an open investigation, of a workflow. -/
def openWorkflowOptions (p : Proposal WorkflowProbeContext) (state : WorkflowState)
    (counter : Nat) : Except String (List ExperimentOption) :=
  if p.hypothesis.lifecycle.openInvestigation then do
    let transition ← makeWorkflowOption sha256 (p.optionId (counter + 1)) p p.context
      .workflowTransitionProbe "workflow".toList true
      (!state.observed || !state.unresolved.isEmpty) false
      (if state.unresolved = [] then ["workflow_authorization_semantics"] else state.unresolved)
      state.observationIds p.context.resourceId.val
    let control ← makeWorkflowOption sha256 (p.optionId (counter + 2)) p p.context
      .workflowControlProbe "control".toList true false (!state.controlDenied)
      (if !state.controlDenied then ["control_path"] else ["negative_control_already_present"])
      state.observationIds p.context.resourceId.val
    return [transition, control]
  else .ok []

/-- The reproduction of a supported hypothesis by another actor, of a workflow. -/
def reproducedWorkflowOptions (p : Proposal WorkflowProbeContext) (state : WorkflowState)
    (counter : Nat) : Except String (List ExperimentOption) :=
  if p.hypothesis.lifecycle = .supported then
    match truthyText p.context.verificationActor with
    | none => .ok []
    | some actor => do
      let resourceId := orElse p.context.resourceId.val p.context.verificationResourceId
      let context ← WorkflowProbeContext.make actor resourceId p.context.transition.val
      let option ← makeWorkflowOption sha256 (p.optionId (counter + 1)) p context
        .workflowIndependentReproduction "workflow".toList true false false
        ["independent_reproduction"] state.observationIds resourceId
      return [option]
  else .ok []

/-- `_workflow_options`, after `counter` options. -/
def workflowOptions (p : Proposal WorkflowProbeContext) (counter : Nat) :
    Except String (List ExperimentOption) := do
  let state ← workflowState str p.observations p.context p.authorizedOrigin.val
  let opened ← openWorkflowOptions sha256 p state counter
  let reproduced ← reproducedWorkflowOptions sha256 p state (counter + opened.length)
  return opened ++ reproduced

/-! ## The options of a run -/

/-- The arguments of `propose_experiment_options`. -/
structure SelectionInput where
  portfolio : List PortfolioHypothesis
  observations : List ObservedResearchFact
  authorizedOrigin : Text
  candidateOrigins : List Text
  objectContexts : List ObjectProbeContext
  workflowContexts : List WorkflowProbeContext
  idPrefix : Text

/-- `f"{n:02d}"`. -/
def twoDigits (n : Nat) : Text :=
  if n < 10 then '0' :: (toString n).toList else (toString n).toList

/-- `candidate_origins or (origin,)`. -/
def SelectionInput.targets (input : SelectionInput) : List Text :=
  if input.candidateOrigins = [] then [input.authorizedOrigin.strip] else input.candidateOrigins

/-- How many families are live. -/
def SelectionInput.competing (input : SelectionInput) : Nat :=
  let live := (input.portfolio.filter (·.lifecycle.live)).map (·.family)
  (live.filter (· ≠ .unknown)).dedup.length

/-- One call of `_object_options` or `_workflow_options`. -/
def SelectionInput.proposal {Context : Type} (input : SelectionInput) (origin : Name)
    (hypothesis : PortfolioHypothesis) (context : Context) (target : Text) : Proposal Context where
  hypothesis := hypothesis
  context := context
  observations := input.observations
  authorizedOrigin := origin
  targetReference := target
  competing := input.competing
  optionId counter := input.idPrefix ++ ['-'] ++ twoDigits counter

/-- The calls of `_object_options` for a hypothesis. -/
def SelectionInput.objectCalls (input : SelectionInput) (origin : Name)
    (hypothesis : PortfolioHypothesis) : List (Proposal ObjectProbeContext) :=
  if hypothesis.family = .objectAuthorization ∧ hypothesis.lifecycle ≠ .deprioritized then
    (input.objectContexts.filter (originBindsObjectContext hypothesis.originReference)).flatMap
      fun context => input.targets.map (input.proposal origin hypothesis context)
  else []

/-- The calls of `_workflow_options` for a hypothesis. -/
def SelectionInput.workflowCalls (input : SelectionInput) (origin : Name)
    (hypothesis : PortfolioHypothesis) : List (Proposal WorkflowProbeContext) :=
  if hypothesis.family = .workflowStateTransition ∧ hypothesis.lifecycle ≠ .deprioritized ∧
      hypothesis.lifecycle ≠ .falsified then
    (input.workflowContexts.filter
      (originBindsWorkflowContext hypothesis.originReference)).flatMap
      fun context => input.targets.map (input.proposal origin hypothesis context)
  else []

/-- All calls, in their order. -/
def SelectionInput.calls (input : SelectionInput) (origin : Name) :
    List (Nat → Except String (List ExperimentOption)) :=
  input.portfolio.flatMap fun hypothesis =>
    (input.objectCalls origin hypothesis).map (objectOptions sha256 str) ++
      (input.workflowCalls origin hypothesis).map (workflowOptions sha256 str)

/-- `options.extend(…)`, for one call after another. -/
def extendAll (counter : Nat) :
    List (Nat → Except String (List ExperimentOption)) → Except String (List ExperimentOption)
  | [] => .ok []
  | call :: rest => do
    let made ← call counter
    let more ← extendAll (counter + made.length) rest
    return made ++ more

/-- `propose_experiment_options`. -/
def proposeExperimentOptions (input : SelectionInput) : Except String (List ExperimentOption) := do
  let origin ← requireText input.authorizedOrigin "authorized_origin"
  extendAll 0 (input.calls sha256 str origin)

end Digests

end Zest.ResearchSelection

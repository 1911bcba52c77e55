import Zest.ExperimentOptions
import Zest.Fallible

/-! # What the identity of an option says about it

Two options with one identity count as one experiment, and a plan counts as the
option that it was made of.  Both rest on the digest of a few texts, and two of
them are not what they should be: the two objects of a probe are joined by a
colon that may also be in their names, and the digest is taken of an origin and
of names before their white space is stripped.

`experiment_identity_iff` says of which inputs the identity is faithful
nevertheless: of those that are stripped, and that name no objects which differ
only in the place of the colon.
-/
namespace Zest.ResearchSelection

/-! ## What is asked -/

/-- What a probe is about, as the contexts have it. -/
inductive Probe where
  | object (ownObject crossObject mode : Text)
  | workflow (resourceId transition area : Text)
  deriving DecidableEq

/-- A probe that a selection asks for. -/
structure Ask where
  targetReference : Text
  actor : Text
  probe : Probe
  deriving DecidableEq

/-- `mode` or `area` of the two probes of an investigation. -/
def objectModes : List Text := ["vulnerable".toList, "secure_only".toList]

def workflowAreas : List Text := ["workflow".toList, "control".toList]

/-- What the hypotheses of an input ask for: the two probes of an open
investigation, and the reproduction of a supported hypothesis by another actor. -/
inductive SelectionInput.Asks (input : SelectionInput) : Ask → Prop
  | objectProbe {hypothesis : PortfolioHypothesis} {context : ObjectProbeContext}
      {target mode : Text} (mem : hypothesis ∈ input.portfolio)
      (family : hypothesis.family = .objectAuthorization)
      (lifecycle : hypothesis.lifecycle.openInvestigation = true)
      (hcontext : context ∈ input.objectContexts)
      (bound : originBindsObjectContext hypothesis.originReference context = true)
      (htarget : target ∈ input.targets) (hmode : mode ∈ objectModes) :
      Asks input ⟨target, context.actor.val,
        .object context.ownObject.val context.crossObject.val mode⟩
  | objectReproduction {hypothesis : PortfolioHypothesis} {context : ObjectProbeContext}
      {target actor : Text} (mem : hypothesis ∈ input.portfolio)
      (family : hypothesis.family = .objectAuthorization)
      (lifecycle : hypothesis.lifecycle = .supported)
      (hcontext : context ∈ input.objectContexts)
      (bound : originBindsObjectContext hypothesis.originReference context = true)
      (htarget : target ∈ input.targets)
      (verified : truthyText context.verificationActor = some actor) :
      Asks input ⟨target, actor, .object (orElse actor context.verificationOwnObject)
        (orElse context.crossObject.val context.verificationCrossObject) "vulnerable".toList⟩
  | workflowProbe {hypothesis : PortfolioHypothesis} {context : WorkflowProbeContext}
      {target area : Text} (mem : hypothesis ∈ input.portfolio)
      (family : hypothesis.family = .workflowStateTransition)
      (lifecycle : hypothesis.lifecycle.openInvestigation = true)
      (hcontext : context ∈ input.workflowContexts)
      (bound : originBindsWorkflowContext hypothesis.originReference context = true)
      (htarget : target ∈ input.targets) (harea : area ∈ workflowAreas) :
      Asks input ⟨target, context.actor.val,
        .workflow context.resourceId.val context.transition.val area⟩
  | workflowReproduction {hypothesis : PortfolioHypothesis} {context : WorkflowProbeContext}
      {target actor : Text} (mem : hypothesis ∈ input.portfolio)
      (family : hypothesis.family = .workflowStateTransition)
      (lifecycle : hypothesis.lifecycle = .supported)
      (hcontext : context ∈ input.workflowContexts)
      (bound : originBindsWorkflowContext hypothesis.originReference context = true)
      (htarget : target ∈ input.targets)
      (verified : truthyText context.verificationActor = some actor) :
      Asks input ⟨target, actor,
        .workflow (orElse context.resourceId.val context.verificationResourceId)
          context.transition.val "workflow".toList⟩

/-- The digest and the plan strip nothing of the probe. -/
def Ask.Stripped (ask : Ask) : Prop :=
  ask.targetReference.strip = ask.targetReference ∧
    match ask.probe with
    | .object ownObject crossObject _ =>
      ownObject.strip = ownObject ∧ crossObject.strip = crossObject
    | .workflow .. => True

/-- The first pair of names has its colon before the second. -/
def Shifted (own cross own' cross' : Text) : Prop :=
  ∃ between, own' = own ++ ':' :: between ∧ cross = between ++ ':' :: cross'

/-- Two object probes that differ in the place of the colon, and in nothing else
that the digest sees. -/
inductive Ask.Confused : Ask → Ask → Prop
  | mk {target actor actor' own cross own' cross' mode : Text} (hactor : actor.strip = actor'.strip)
      (shifted : Shifted own cross own' cross' ∨ Shifted own' cross' own cross) :
      Confused ⟨target, actor, .object own cross mode⟩ ⟨target, actor', .object own' cross' mode⟩

/-! ## What is wanted of an identity -/

/-- The text under a key. -/
def textOf (arguments : Dict) (key : String) : Text :=
  match arguments.get key.toList with
  | .text s => s
  | _ => []

/-- The probe that an option makes: a reproduction makes that which it repeats. -/
def ExperimentOption.probeKind (option : ExperimentOption) : ExperimentPurpose :=
  if option.requiredCapability = httpAuthorizationDifferentialCapability then
    objectProbeKind (textOf option.planArguments "mode")
  else workflowProbeKind (textOf option.planArguments "area")

/-- The identity of an option is that of its plan. -/
def ExperimentOption.Recomputes (sha256 : Text → Text) (str : JsonValue → Text)
    (option : ExperimentOption) : Prop :=
  identityFromPlanArguments sha256 str option.requiredCapability option.planArguments
    option.targetReference = some option.structuralIdentity

/-- Two options are for the same experiment. -/
structure SameExperiment (option other : ExperimentOption) : Prop where
  capability : option.requiredCapability = other.requiredCapability
  probeKind : option.probeKind = other.probeKind
  target : option.targetReference = other.targetReference
  actor : textOf option.planArguments "actor" = textOf other.planArguments "actor"
  names : ∀ key ∈ ["own_object", "cross_object", "resource_id"],
    textOf option.planArguments key = textOf other.planArguments key
  operation : ∀ key ∈ ["mode", "area", "transition"],
    textOf option.planArguments key = textOf other.planArguments key

/-! ## The digest -/

theorem ExperimentPurpose.value_injective {purpose other : ExperimentPurpose}
    (h : purpose.value = other.value) : purpose = other := by
  revert h
  cases purpose <;> cases other <;> decide

theorem identity_injective {sha256 : Text → Text} (hsha : Function.Injective sha256)
    {capability capability' origin origin' actor actor' resource resource' : Text}
    {operation operation' : Text} {purpose purpose' : ExperimentPurpose}
    (h : experimentOptionIdentity sha256 capability purpose origin actor resource operation =
      experimentOptionIdentity sha256 capability' purpose' origin' actor' resource' operation') :
    capability = capability' ∧ purpose = purpose' ∧ origin = origin' ∧ actor = actor' ∧
      resource = resource' ∧ operation = operation' := by
  have hsorted : ∀ a c o g p r : Text, CanonicalJson.sortKeys
      [("capability".toList, c), ("purpose".toList, p), ("origin".toList, g),
        ("actor".toList, a), ("resource".toList, r), ("operation".toList, o)] =
      [("actor".toList, a), ("capability".toList, c), ("operation".toList, o),
        ("origin".toList, g), ("purpose".toList, p), ("resource".toList, r)] :=
    fun _ _ _ _ _ _ => rfl
  have hmembers := CanonicalJson.dumps_injective (hsha h)
  rw [hsorted, hsorted] at hmembers
  simp only [List.cons.injEq, Prod.mk.injEq, true_and, and_true] at hmembers
  obtain ⟨hactor, hcapability, hoperation, horigin, hpurpose, hresource⟩ := hmembers
  exact ⟨hcapability, ExperimentPurpose.value_injective hpurpose, horigin, hactor, hresource,
    hoperation⟩

/-- **What a join forgets** is the place of its colon. -/
theorem joined_eq_iff {own cross own' cross' : Text} :
    joined own cross = joined own' cross' ↔
      (own = own' ∧ cross = cross') ∨ Shifted own cross own' cross' ∨
        Shifted own' cross' own cross := by
  unfold joined Shifted
  constructor
  · intro h
    rcases List.append_eq_append_iff.mp h with ⟨rest, hown, hcross⟩ | ⟨rest, hown, hcross⟩
    · cases rest with
      | nil =>
        rw [List.append_nil] at hown
        exact Or.inl ⟨hown.symm, (List.cons.inj hcross).2⟩
      | cons c between =>
        obtain ⟨rfl, hrest⟩ := List.cons.inj hcross
        exact Or.inr (Or.inl ⟨between, hown, hrest⟩)
    · cases rest with
      | nil =>
        rw [List.append_nil] at hown
        exact Or.inl ⟨hown, (List.cons.inj hcross).2.symm⟩
      | cons c between =>
        obtain ⟨rfl, hrest⟩ := List.cons.inj hcross
        exact Or.inr (Or.inr ⟨between, hown, hrest⟩)
  · rintro (⟨rfl, rfl⟩ | ⟨between, rfl, rfl⟩ | ⟨between, rfl, rfl⟩)
    · rfl
    · simp only [List.append_assoc, List.cons_append]
    · simp only [List.append_assoc, List.cons_append]

/-! ## Stripping -/

theorem count_strip (s : Text) : s.strip.count ':' = s.count ':' := by
  have hdrop : ∀ t : Text, (t.dropWhile Text.isSpace).count ':' = t.count ':' := by
    intro t
    induction t with
    | nil => rfl
    | cons c t ih =>
      by_cases hspace : Text.isSpace c = true
      · rw [List.dropWhile_cons_of_pos hspace, ih, List.count_cons_of_ne]
        rintro rfl
        exact absurd hspace (by decide)
      · rw [List.dropWhile_cons_of_neg hspace]
  have hright : s.strip = ((s.dropWhile Text.isSpace).reverse.dropWhile Text.isSpace).reverse := rfl
  rw [hright, List.count_reverse, hdrop, List.count_reverse, hdrop]

/-- What is stripped of nothing is what it was. -/
theorem strip_eq_of_length {s : Text} (h : s.length ≤ s.strip.length) : s.strip = s := by
  have hright : s.strip = (s.dropWhile Text.isSpace).rdropWhile Text.isSpace := rfl
  have hleft := List.rdropWhile_prefix Text.isSpace (s.dropWhile Text.isSpace)
  have hsuffix := List.dropWhile_suffix Text.isSpace (l := s)
  have hlen := hsuffix.length_le
  rw [hright] at h ⊢
  have hlen' := hleft.length_le
  rw [hleft.eq_of_length (by omega), hsuffix.eq_of_length (by omega)]

theorem length_strip_le (s : Text) : s.strip.length ≤ s.length := by
  have hright : s.strip = (s.dropWhile Text.isSpace).rdropWhile Text.isSpace := rfl
  rw [hright]
  exact le_trans (List.rdropWhile_prefix Text.isSpace _).length_le
    (List.dropWhile_suffix Text.isSpace).length_le

theorem joined_strip_iff {own cross : Text} :
    joined own.strip cross.strip = joined own cross ↔ own.strip = own ∧ cross.strip = cross := by
  constructor
  · intro h
    have hlen := congrArg List.length h
    simp only [joined, List.length_append, List.length_cons] at hlen
    have hown := length_strip_le own
    have hcross := length_strip_le cross
    exact ⟨strip_eq_of_length (by omega), strip_eq_of_length (by omega)⟩
  · rintro ⟨hown, hcross⟩
    rw [hown, hcross]

/-- A shift moves a colon into a name, and no stripping takes it out. -/
theorem Shifted.strip_ne {own cross own' cross' : Text} (h : Shifted own cross own' cross') :
    own.strip ≠ own'.strip := by
  obtain ⟨between, rfl, -⟩ := h
  intro hsame
  have hcount := congrArg (List.count ':') hsame
  rw [count_strip, count_strip, List.count_append, List.count_cons_self] at hcount
  omega

/-! ## What is made of an ask -/

/-- `mode` and `area` are those of the code. -/
def Ask.Valid (ask : Ask) : Prop :=
  match ask.probe with
  | .object _ _ mode => mode ∈ objectModes
  | .workflow _ _ area => area ∈ workflowAreas

def Ask.capability (ask : Ask) : Text :=
  match ask.probe with
  | .object .. => httpAuthorizationDifferentialCapability
  | .workflow .. => httpStateTransitionCapability

/-- The digest of an ask. -/
def Ask.identity (sha256 : Text → Text) (ask : Ask) : Text :=
  match ask.probe with
  | .object ownObject crossObject mode =>
    experimentOptionIdentity sha256 httpAuthorizationDifferentialCapability (objectProbeKind mode)
      ask.targetReference ask.actor.strip (joined ownObject crossObject) mode
  | .workflow resourceId transition area =>
    experimentOptionIdentity sha256 httpStateTransitionCapability (workflowProbeKind area)
      ask.targetReference ask.actor.strip resourceId.strip (joined area transition.strip)

/-- The plan of an ask. -/
def Ask.arguments (origin : Text) (ask : Ask) : Dict :=
  match ask.probe with
  | .object ownObject crossObject mode =>
    objectArguments origin ask.actor.strip ownObject.strip crossObject.strip mode
  | .workflow resourceId transition area =>
    workflowArguments origin ask.actor.strip resourceId.strip transition.strip area

/-- An option that has been made of an ask. -/
structure MadeFor (sha256 : Text → Text) (origin : Text) (ask : Ask) (option : ExperimentOption) :
    Prop where
  capability : option.requiredCapability = ask.capability
  target : option.targetReference = ask.targetReference.strip
  identity : option.structuralIdentity = ask.identity sha256
  arguments : option.planArguments = ask.arguments origin

/-- The options that have been made, and what they have been made of. -/
structure Serves (sha256 : Text → Text) (origin : Text) (made : List ExperimentOption)
    (asks : Ask → Prop) : Prop where
  sound : ∀ option ∈ made, ∃ ask, asks ask ∧ MadeFor sha256 origin ask option
  complete : ∀ ask, asks ask → ∃ option ∈ made, MadeFor sha256 origin ask option

section Making

variable {sha256 : Text → Text} {str : JsonValue → Text} {origin : Text}

theorem Serves.nil {asks : Ask → Prop} (h : ∀ ask, ¬ asks ask) :
    Serves sha256 origin [] asks :=
  ⟨fun _ hoption => absurd hoption List.not_mem_nil, fun ask hask => absurd hask (h ask)⟩

theorem Serves.append {made made' : List ExperimentOption} {asks asks' : Ask → Prop}
    (h : Serves sha256 origin made asks) (h' : Serves sha256 origin made' asks') :
    Serves sha256 origin (made ++ made') fun ask => asks ask ∨ asks' ask := by
  refine ⟨fun option hoption => ?_, fun ask hask => ?_⟩
  · rcases List.mem_append.mp hoption with hoption | hoption
    · obtain ⟨ask, hask, hmade⟩ := h.sound option hoption
      exact ⟨ask, Or.inl hask, hmade⟩
    · obtain ⟨ask, hask, hmade⟩ := h'.sound option hoption
      exact ⟨ask, Or.inr hask, hmade⟩
  · rcases hask with hask | hask
    · obtain ⟨option, hoption, hmade⟩ := h.complete ask hask
      exact ⟨option, List.mem_append_left _ hoption, hmade⟩
    · obtain ⟨option, hoption, hmade⟩ := h'.complete ask hask
      exact ⟨option, List.mem_append_right _ hoption, hmade⟩

theorem Serves.congr {made : List ExperimentOption} {asks asks' : Ask → Prop}
    (h : Serves sha256 origin made asks) (hsame : ∀ ask, asks ask ↔ asks' ask) :
    Serves sha256 origin made asks' := by
  have : asks = asks' := funext fun ask => propext (hsame ask)
  exact this ▸ h

theorem requireText_eq_ok {value : Text} {fieldName : String} {name : Name}
    (h : requireText value fieldName = .ok name) : name.val = value.strip := by
  unfold requireText at h
  split at h
  · cases h
  · exact congrArg Subtype.val (Except.ok.inj h).symm

theorem makeObjectOption_eq_ok {optionId mode resource : Text} {p : Proposal ObjectProbeContext}
    {context : ObjectProbeContext} {purpose : ExperimentPurpose} {falsify resolves control : Bool}
    {unresolved : List String} {ids : List Text} {option : ExperimentOption} {ask : Ask}
    (h : makeObjectOption sha256 optionId p context purpose mode resource falsify resolves control
      unresolved ids = .ok option)
    (htarget : ask.targetReference = p.targetReference)
    (hactor : context.actor.val = ask.actor.strip)
    (hprobe : ∃ own cross, ask.probe = .object own cross mode ∧ resource = joined own cross ∧
      context.ownObject.val = own.strip ∧ context.crossObject.val = cross.strip) :
    MadeFor sha256 p.authorizedOrigin.val ask option := by
  obtain ⟨target, hstrip, h⟩ := bind_eq_ok h
  obtain ⟨own, cross, hprobe, rfl, hown, hcross⟩ := hprobe
  cases h
  refine ⟨?_, ?_, ?_, ?_⟩
  · rw [Ask.capability, hprobe]
  · rw [htarget]
    exact requireText_eq_ok hstrip
  · rw [Ask.identity, hprobe, htarget, ← hactor]
  · rw [Ask.arguments, hprobe]
    dsimp only
    rw [← hactor, ← hown, ← hcross]

theorem makeWorkflowOption_eq_ok {optionId area signed : Text}
    {p : Proposal WorkflowProbeContext} {context : WorkflowProbeContext}
    {purpose : ExperimentPurpose} {falsify resolves control : Bool} {unresolved : List String}
    {ids : List Text} {option : ExperimentOption} {ask : Ask}
    (h : makeWorkflowOption sha256 optionId p context purpose area falsify resolves control
      unresolved ids signed = .ok option)
    (htarget : ask.targetReference = p.targetReference)
    (hactor : context.actor.val = ask.actor.strip)
    (hprobe : ∃ resourceId transition, ask.probe = .workflow resourceId transition area ∧
      context.resourceId.val = resourceId.strip ∧ context.transition.val = transition.strip) :
    MadeFor sha256 p.authorizedOrigin.val ask option := by
  obtain ⟨target, hstrip, h⟩ := bind_eq_ok h
  obtain ⟨resourceId, transition, hprobe, hresource, htransition⟩ := hprobe
  cases h
  refine ⟨?_, ?_, ?_, ?_⟩
  · rw [Ask.capability, hprobe]
  · rw [htarget]
    exact requireText_eq_ok hstrip
  · rw [Ask.identity, hprobe]
    dsimp only
    rw [htarget, ← hactor, ← hresource, ← htransition]
  · rw [Ask.arguments, hprobe]
    dsimp only
    rw [← hactor, ← hresource, ← htransition]

/-- What one call of `_object_options` is asked for. -/
inductive ObjectCallAsks (p : Proposal ObjectProbeContext) : Ask → Prop
  | probe {mode : Text} (lifecycle : p.hypothesis.lifecycle.openInvestigation = true)
      (hmode : mode ∈ objectModes) :
      ObjectCallAsks p ⟨p.targetReference, p.context.actor.val,
        .object p.context.ownObject.val p.context.crossObject.val mode⟩
  | reproduction {actor : Text} (lifecycle : p.hypothesis.lifecycle = .supported)
      (verified : truthyText p.context.verificationActor = some actor) :
      ObjectCallAsks p ⟨p.targetReference, actor,
        .object (orElse actor p.context.verificationOwnObject)
          (orElse p.context.crossObject.val p.context.verificationCrossObject)
          "vulnerable".toList⟩

/-- What one call of `_workflow_options` is. -/
inductive WorkflowCallAsks (p : Proposal WorkflowProbeContext) : Ask → Prop
  | probe {area : Text} (lifecycle : p.hypothesis.lifecycle.openInvestigation = true)
      (harea : area ∈ workflowAreas) :
      WorkflowCallAsks p ⟨p.targetReference, p.context.actor.val,
        .workflow p.context.resourceId.val p.context.transition.val area⟩
  | reproduction {actor : Text} (lifecycle : p.hypothesis.lifecycle = .supported)
      (verified : truthyText p.context.verificationActor = some actor) :
      WorkflowCallAsks p ⟨p.targetReference, actor,
        .workflow (orElse p.context.resourceId.val p.context.verificationResourceId)
          p.context.transition.val "workflow".toList⟩

/-- Two options, made of the two asks that there are. -/
theorem Serves.pair {first second : ExperimentOption} {asks : Ask → Prop} {ask ask' : Ask}
    (hasks : ∀ a, asks a ↔ a = ask ∨ a = ask') (h : MadeFor sha256 origin ask first)
    (h' : MadeFor sha256 origin ask' second) : Serves sha256 origin [first, second] asks := by
  refine ⟨fun option hoption => ?_, fun a ha => ?_⟩
  · rcases List.mem_pair.mp hoption with rfl | rfl
    · exact ⟨ask, (hasks ask).mpr (Or.inl rfl), h⟩
    · exact ⟨ask', (hasks ask').mpr (Or.inr rfl), h'⟩
  · rcases (hasks a).mp ha with rfl | rfl
    · exact ⟨first, List.mem_cons_self, h⟩
    · exact ⟨second, List.mem_cons_of_mem _ List.mem_cons_self, h'⟩

theorem Serves.single {option : ExperimentOption} {asks : Ask → Prop} {ask : Ask}
    (hasks : ∀ a, asks a ↔ a = ask) (h : MadeFor sha256 origin ask option) :
    Serves sha256 origin [option] asks := by
  refine ⟨fun other hother => ?_, fun a ha => ?_⟩
  · rw [List.mem_singleton.mp hother]
    exact ⟨ask, (hasks ask).mpr rfl, h⟩
  · rw [(hasks a).mp ha]
    exact ⟨option, List.mem_cons_self, h⟩

theorem openObjectOptions_serves {p : Proposal ObjectProbeContext} {counter : Nat}
    {made : List ExperimentOption} (h : openObjectOptions sha256 str p counter = .ok made) :
    Serves sha256 p.authorizedOrigin.val made fun ask =>
      p.hypothesis.lifecycle.openInvestigation = true ∧ ∃ mode ∈ objectModes,
        ask = ⟨p.targetReference, p.context.actor.val,
          .object p.context.ownObject.val p.context.crossObject.val mode⟩ := by
  unfold openObjectOptions at h
  dsimp only at h
  by_cases hopen : p.hypothesis.lifecycle.openInvestigation = true
  · rw [if_pos hopen] at h
    obtain ⟨cross, hcross, h⟩ := bind_eq_ok h
    obtain ⟨control, hcontrol, h⟩ := bind_eq_ok h
    cases h
    have hname : ∀ name : Name, name.val = name.val.strip := fun name => name.property.2.symm
    have hcross : MadeFor sha256 p.authorizedOrigin.val ⟨p.targetReference, p.context.actor.val,
        .object p.context.ownObject.val p.context.crossObject.val "vulnerable".toList⟩ cross :=
      makeObjectOption_eq_ok hcross rfl (hname _) ⟨_, _, rfl, rfl, hname _, hname _⟩
    have hcontrol : MadeFor sha256 p.authorizedOrigin.val ⟨p.targetReference, p.context.actor.val,
        .object p.context.ownObject.val p.context.crossObject.val "secure_only".toList⟩ control :=
      makeObjectOption_eq_ok hcontrol rfl (hname _) ⟨_, _, rfl, rfl, hname _, hname _⟩
    refine .pair (fun a => ?_) hcross hcontrol
    simp only [hopen, true_and, objectModes, List.mem_pair]
    constructor
    · rintro ⟨mode, rfl | rfl, rfl⟩
      · exact Or.inl rfl
      · exact Or.inr rfl
    · rintro (rfl | rfl)
      · exact ⟨_, Or.inl rfl, rfl⟩
      · exact ⟨_, Or.inr rfl, rfl⟩
  · rw [if_neg hopen] at h
    cases h
    exact .nil fun ask hask => hopen hask.1

theorem reproducedObjectOptions_serves {p : Proposal ObjectProbeContext} {counter : Nat}
    {made : List ExperimentOption} (h : reproducedObjectOptions sha256 str p counter = .ok made) :
    Serves sha256 p.authorizedOrigin.val made fun ask =>
      p.hypothesis.lifecycle = .supported ∧ ∃ actor,
        truthyText p.context.verificationActor = some actor ∧
          ask = ⟨p.targetReference, actor, .object (orElse actor p.context.verificationOwnObject)
            (orElse p.context.crossObject.val p.context.verificationCrossObject)
            "vulnerable".toList⟩ := by
  unfold reproducedObjectOptions at h
  by_cases hsupported : p.hypothesis.lifecycle = .supported
  · rw [if_pos hsupported] at h
    cases hactor : truthyText p.context.verificationActor with
    | none =>
      rw [hactor] at h
      cases h
      refine .nil fun ask hask => ?_
      obtain ⟨-, actor, hsome, -⟩ := hask
      cases hsome
    | some actor =>
      rw [hactor] at h
      obtain ⟨context, hcontext, h⟩ := bind_eq_ok h
      obtain ⟨option, hoption, h⟩ := bind_eq_ok h
      cases h
      obtain ⟨actor', hactor', hcontext⟩ := bind_eq_ok hcontext
      obtain ⟨own, hown, hcontext⟩ := bind_eq_ok hcontext
      obtain ⟨cross, hcross, hcontext⟩ := bind_eq_ok hcontext
      cases hcontext
      have hoption : MadeFor sha256 p.authorizedOrigin.val ⟨p.targetReference, actor,
          .object (orElse actor p.context.verificationOwnObject)
            (orElse p.context.crossObject.val p.context.verificationCrossObject)
            "vulnerable".toList⟩ option :=
        makeObjectOption_eq_ok hoption rfl (requireText_eq_ok hactor')
          ⟨_, _, rfl, rfl, requireText_eq_ok hown, requireText_eq_ok hcross⟩
      refine .single (fun a => ?_) hoption
      constructor
      · rintro ⟨-, other, hother, rfl⟩
        rw [← Option.some.inj hother]
      · rintro rfl
        exact ⟨hsupported, actor, rfl, rfl⟩
  · rw [if_neg hsupported] at h
    cases h
    exact .nil fun ask hask => hsupported hask.1

/-- **The options for an object** at one target. -/
theorem objectOptions_serves {p : Proposal ObjectProbeContext} {counter : Nat}
    {made : List ExperimentOption} (h : objectOptions sha256 str p counter = .ok made) :
    Serves sha256 p.authorizedOrigin.val made (ObjectCallAsks p) := by
  obtain ⟨opened, hopened, h⟩ := bind_eq_ok h
  obtain ⟨reproduced, hreproduced, h⟩ := bind_eq_ok h
  cases h
  refine ((openObjectOptions_serves hopened).append
    (reproducedObjectOptions_serves hreproduced)).congr fun ask => ?_
  constructor
  · rintro (⟨hopen, mode, hmode, rfl⟩ | ⟨hsupported, actor, hactor, rfl⟩)
    · exact .probe hopen hmode
    · exact .reproduction hsupported hactor
  · rintro (⟨hopen, hmode⟩ | ⟨hsupported, hactor⟩)
    · exact Or.inl ⟨hopen, _, hmode, rfl⟩
    · exact Or.inr ⟨hsupported, _, hactor, rfl⟩

theorem openWorkflowOptions_serves {p : Proposal WorkflowProbeContext} {state : WorkflowState}
    {counter : Nat} {made : List ExperimentOption}
    (h : openWorkflowOptions sha256 p state counter = .ok made) :
    Serves sha256 p.authorizedOrigin.val made fun ask =>
      p.hypothesis.lifecycle.openInvestigation = true ∧ ∃ area ∈ workflowAreas,
        ask = ⟨p.targetReference, p.context.actor.val,
          .workflow p.context.resourceId.val p.context.transition.val area⟩ := by
  unfold openWorkflowOptions at h
  by_cases hopen : p.hypothesis.lifecycle.openInvestigation = true
  · rw [if_pos hopen] at h
    obtain ⟨transition, htransition, h⟩ := bind_eq_ok h
    obtain ⟨control, hcontrol, h⟩ := bind_eq_ok h
    cases h
    have hname : ∀ name : Name, name.val = name.val.strip := fun name => name.property.2.symm
    have htransition : MadeFor sha256 p.authorizedOrigin.val ⟨p.targetReference,
        p.context.actor.val, .workflow p.context.resourceId.val p.context.transition.val
          "workflow".toList⟩ transition :=
      makeWorkflowOption_eq_ok htransition rfl (hname _) ⟨_, _, rfl, hname _, hname _⟩
    have hcontrol : MadeFor sha256 p.authorizedOrigin.val ⟨p.targetReference,
        p.context.actor.val, .workflow p.context.resourceId.val p.context.transition.val
          "control".toList⟩ control :=
      makeWorkflowOption_eq_ok hcontrol rfl (hname _) ⟨_, _, rfl, hname _, hname _⟩
    refine .pair (fun a => ?_) htransition hcontrol
    simp only [hopen, true_and, workflowAreas, List.mem_pair]
    constructor
    · rintro ⟨area, rfl | rfl, rfl⟩
      · exact Or.inl rfl
      · exact Or.inr rfl
    · rintro (rfl | rfl)
      · exact ⟨_, Or.inl rfl, rfl⟩
      · exact ⟨_, Or.inr rfl, rfl⟩
  · rw [if_neg hopen] at h
    cases h
    exact .nil fun ask hask => hopen hask.1

theorem reproducedWorkflowOptions_serves {p : Proposal WorkflowProbeContext}
    {state : WorkflowState} {counter : Nat} {made : List ExperimentOption}
    (h : reproducedWorkflowOptions sha256 p state counter = .ok made) :
    Serves sha256 p.authorizedOrigin.val made fun ask =>
      p.hypothesis.lifecycle = .supported ∧ ∃ actor,
        truthyText p.context.verificationActor = some actor ∧
          ask = ⟨p.targetReference, actor,
            .workflow (orElse p.context.resourceId.val p.context.verificationResourceId)
              p.context.transition.val "workflow".toList⟩ := by
  unfold reproducedWorkflowOptions at h
  by_cases hsupported : p.hypothesis.lifecycle = .supported
  · rw [if_pos hsupported] at h
    cases hactor : truthyText p.context.verificationActor with
    | none =>
      rw [hactor] at h
      cases h
      refine .nil fun ask hask => ?_
      obtain ⟨-, actor, hsome, -⟩ := hask
      cases hsome
    | some actor =>
      rw [hactor] at h
      obtain ⟨context, hcontext, h⟩ := bind_eq_ok h
      obtain ⟨option, hoption, h⟩ := bind_eq_ok h
      cases h
      obtain ⟨actor', hactor', hcontext⟩ := bind_eq_ok hcontext
      obtain ⟨resource, hresource, hcontext⟩ := bind_eq_ok hcontext
      obtain ⟨transition, htransition, hcontext⟩ := bind_eq_ok hcontext
      cases hcontext
      have hoption : MadeFor sha256 p.authorizedOrigin.val ⟨p.targetReference, actor,
          .workflow (orElse p.context.resourceId.val p.context.verificationResourceId)
            p.context.transition.val "workflow".toList⟩ option :=
        makeWorkflowOption_eq_ok hoption rfl (requireText_eq_ok hactor')
          ⟨_, _, rfl, requireText_eq_ok hresource, requireText_eq_ok htransition⟩
      refine .single (fun a => ?_) hoption
      constructor
      · rintro ⟨-, other, hother, rfl⟩
        rw [← Option.some.inj hother]
      · rintro rfl
        exact ⟨hsupported, actor, rfl, rfl⟩
  · rw [if_neg hsupported] at h
    cases h
    exact .nil fun ask hask => hsupported hask.1

/-- **The options for a workflow** at one target. -/
theorem workflowOptions_serves {p : Proposal WorkflowProbeContext} {counter : Nat}
    {made : List ExperimentOption} (h : workflowOptions sha256 str p counter = .ok made) :
    Serves sha256 p.authorizedOrigin.val made (WorkflowCallAsks p) := by
  obtain ⟨state, -, h⟩ := bind_eq_ok h
  obtain ⟨opened, hopened, h⟩ := bind_eq_ok h
  obtain ⟨reproduced, hreproduced, h⟩ := bind_eq_ok h
  cases h
  refine ((openWorkflowOptions_serves hopened).append
    (reproducedWorkflowOptions_serves hreproduced)).congr fun ask => ?_
  constructor
  · rintro (⟨hopen, area, harea, rfl⟩ | ⟨hsupported, actor, hactor, rfl⟩)
    · exact .probe hopen harea
    · exact .reproduction hsupported hactor
  · rintro (⟨hopen, harea⟩ | ⟨hsupported, hactor⟩)
    · exact Or.inl ⟨hopen, _, harea, rfl⟩
    · exact Or.inr ⟨hsupported, _, hactor, rfl⟩

/-- One call after another serves what any of them is asked for. -/
theorem extendAll_serves {calls : List (Nat → Except String (List ExperimentOption))}
    {counter : Nat} {options : List ExperimentOption} {asks : Ask → Prop}
    (h : extendAll counter calls = .ok options)
    (hcalls : ∀ call ∈ calls, ∃ served : Ask → Prop, (∀ ask, served ask → asks ask) ∧
      ∀ n made, call n = .ok made → Serves sha256 origin made served)
    (hasks : ∀ ask, asks ask → ∃ call ∈ calls, ∀ n made, call n = .ok made →
      ∃ option ∈ made, MadeFor sha256 origin ask option) :
    Serves sha256 origin options asks := by
  induction calls generalizing counter options asks with
  | nil =>
    cases h
    refine .nil fun ask hask => ?_
    obtain ⟨call, hcall, -⟩ := hasks ask hask
    exact absurd hcall List.not_mem_nil
  | cons call rest ih =>
    obtain ⟨made, hmade, h⟩ := bind_eq_ok h
    obtain ⟨more, hmore, h⟩ := bind_eq_ok h
    cases h
    obtain ⟨⟨served, hserved, hserves⟩, hrest⟩ := List.forall_mem_cons.mp hcalls
    -- what the rest is asked for is what some call of it serves
    have htail : Serves sha256 origin more fun ask => asks ask ∧ ∃ call ∈ rest, ∀ n made,
        call n = .ok made → ∃ option ∈ made, MadeFor sha256 origin ask option := by
      refine ih hmore (fun other hother => ?_) fun ask hask => hask.2
      obtain ⟨servedThere, hasked, hmakes⟩ := hrest other hother
      refine ⟨servedThere, fun ask hask => ⟨hasked ask hask, other, hother, fun n made hn => ?_⟩,
        hmakes⟩
      exact (hmakes n made hn).complete ask hask
    refine ⟨fun option hoption => ?_, fun ask hask => ?_⟩
    · rcases List.mem_append.mp hoption with hoption | hoption
      · obtain ⟨ask, hask, hfor⟩ := (hserves counter made hmade).sound option hoption
        exact ⟨ask, hserved ask hask, hfor⟩
      · obtain ⟨ask, hask, hfor⟩ := htail.sound option hoption
        exact ⟨ask, hask.1, hfor⟩
    · obtain ⟨other, hother, hmakes⟩ := hasks ask hask
      rcases List.mem_cons.mp hother with rfl | hother
      · obtain ⟨option, hoption, hfor⟩ := hmakes counter made hmade
        exact ⟨option, List.mem_append_left _ hoption, hfor⟩
      · obtain ⟨option, hoption, hfor⟩ := htail.complete ask ⟨hask, other, hother, hmakes⟩
        exact ⟨option, List.mem_append_right _ hoption, hfor⟩

/-! ## All calls -/

theorem mem_proposals {Context : Type} {input : SelectionInput} {origin : Name}
    {hypothesis : PortfolioHypothesis} {bound : Context → Bool} {contexts : List Context}
    {p : Proposal Context} :
    p ∈ ((contexts.filter bound).flatMap fun context =>
        input.targets.map (input.proposal origin hypothesis context)) ↔
      ∃ context ∈ contexts, bound context = true ∧
        ∃ target ∈ input.targets, p = input.proposal origin hypothesis context target := by
  constructor
  · intro h
    obtain ⟨context, hcontext, h⟩ := List.mem_flatMap.mp h
    obtain ⟨target, htarget, rfl⟩ := List.mem_map.mp h
    obtain ⟨hcontext, hbound⟩ := List.mem_filter.mp hcontext
    exact ⟨context, hcontext, hbound, target, htarget, rfl⟩
  · rintro ⟨context, hcontext, hbound, target, htarget, rfl⟩
    exact List.mem_flatMap.mpr ⟨context, List.mem_filter.mpr ⟨hcontext, hbound⟩,
      List.mem_map_of_mem htarget⟩

theorem mem_objectCalls {input : SelectionInput} {origin : Name} {hypothesis : PortfolioHypothesis}
    {p : Proposal ObjectProbeContext} : p ∈ input.objectCalls origin hypothesis ↔
      (hypothesis.family = .objectAuthorization ∧ hypothesis.lifecycle ≠ .deprioritized) ∧
        ∃ context ∈ input.objectContexts,
          originBindsObjectContext hypothesis.originReference context = true ∧
            ∃ target ∈ input.targets, p = input.proposal origin hypothesis context target := by
  unfold SelectionInput.objectCalls
  by_cases hfamily : hypothesis.family = .objectAuthorization ∧
      hypothesis.lifecycle ≠ .deprioritized
  · rw [if_pos hfamily, mem_proposals]
    exact (and_iff_right hfamily).symm
  · rw [if_neg hfamily]
    exact iff_of_false List.not_mem_nil fun h => hfamily h.1

theorem mem_workflowCalls {input : SelectionInput} {origin : Name}
    {hypothesis : PortfolioHypothesis} {p : Proposal WorkflowProbeContext} :
    p ∈ input.workflowCalls origin hypothesis ↔
      (hypothesis.family = .workflowStateTransition ∧ hypothesis.lifecycle ≠ .deprioritized ∧
        hypothesis.lifecycle ≠ .falsified) ∧ ∃ context ∈ input.workflowContexts,
          originBindsWorkflowContext hypothesis.originReference context = true ∧
            ∃ target ∈ input.targets, p = input.proposal origin hypothesis context target := by
  unfold SelectionInput.workflowCalls
  by_cases hfamily : hypothesis.family = .workflowStateTransition ∧
      hypothesis.lifecycle ≠ .deprioritized ∧ hypothesis.lifecycle ≠ .falsified
  · rw [if_pos hfamily, mem_proposals]
    exact (and_iff_right hfamily).symm
  · rw [if_neg hfamily]
    exact iff_of_false List.not_mem_nil fun h => hfamily h.1

/-- What is asked is what some call is asked for. -/
theorem asks_iff {input : SelectionInput} {origin : Name} {ask : Ask} :
    input.Asks ask ↔ ∃ hypothesis ∈ input.portfolio,
      (∃ p ∈ input.objectCalls origin hypothesis, ObjectCallAsks p ask) ∨
        ∃ p ∈ input.workflowCalls origin hypothesis, WorkflowCallAsks p ask := by
  constructor
  · intro h
    cases h with
    | @objectProbe hypothesis context target _ mem family lifecycle hcontext bound htarget hmode =>
      refine ⟨hypothesis, mem, Or.inl ⟨input.proposal origin hypothesis context target,
        mem_objectCalls.mpr ⟨⟨family, ?_⟩, context, hcontext, bound, target, htarget, rfl⟩,
        .probe lifecycle hmode⟩⟩
      intro hother
      rw [hother] at lifecycle
      cases lifecycle
    | @objectReproduction hypothesis context target _ mem family lifecycle hcontext bound htarget
        verified =>
      refine ⟨hypothesis, mem, Or.inl ⟨input.proposal origin hypothesis context target,
        mem_objectCalls.mpr ⟨⟨family, ?_⟩, context, hcontext, bound, target, htarget, rfl⟩,
        .reproduction lifecycle verified⟩⟩
      rw [lifecycle]
      decide
    | @workflowProbe hypothesis context target _ mem family lifecycle hcontext bound htarget
        harea =>
      refine ⟨hypothesis, mem, Or.inr ⟨input.proposal origin hypothesis context target,
        mem_workflowCalls.mpr ⟨⟨family, ?_, ?_⟩, context, hcontext, bound, target, htarget, rfl⟩,
        .probe lifecycle harea⟩⟩
      · intro hother
        rw [hother] at lifecycle
        cases lifecycle
      · intro hother
        rw [hother] at lifecycle
        cases lifecycle
    | @workflowReproduction hypothesis context target _ mem family lifecycle hcontext bound htarget
        verified =>
      refine ⟨hypothesis, mem, Or.inr ⟨input.proposal origin hypothesis context target,
        mem_workflowCalls.mpr ⟨⟨family, ?_, ?_⟩, context, hcontext, bound, target, htarget, rfl⟩,
        .reproduction lifecycle verified⟩⟩
      · rw [lifecycle]
        decide
      · rw [lifecycle]
        decide
  · rintro ⟨hypothesis, mem, ⟨p, hp, hask⟩ | ⟨p, hp, hask⟩⟩
    · obtain ⟨⟨family, -⟩, context, hcontext, bound, target, htarget, rfl⟩ := mem_objectCalls.mp hp
      cases hask with
      | probe lifecycle hmode =>
        exact .objectProbe mem family lifecycle hcontext bound htarget hmode
      | reproduction lifecycle verified =>
        exact .objectReproduction mem family lifecycle hcontext bound htarget verified
    · obtain ⟨⟨family, -⟩, context, hcontext, bound, target, htarget, rfl⟩ :=
        mem_workflowCalls.mp hp
      cases hask with
      | probe lifecycle harea =>
        exact .workflowProbe mem family lifecycle hcontext bound htarget harea
      | reproduction lifecycle verified =>
        exact .workflowReproduction mem family lifecycle hcontext bound htarget verified

/-- All calls are for the one origin. -/
theorem authorizedOrigin_of_objectCalls {input : SelectionInput} {origin : Name}
    {hypothesis : PortfolioHypothesis} {p : Proposal ObjectProbeContext}
    (h : p ∈ input.objectCalls origin hypothesis) : p.authorizedOrigin = origin := by
  obtain ⟨-, context, -, -, target, -, rfl⟩ := mem_objectCalls.mp h
  rfl

theorem authorizedOrigin_of_workflowCalls {input : SelectionInput} {origin : Name}
    {hypothesis : PortfolioHypothesis} {p : Proposal WorkflowProbeContext}
    (h : p ∈ input.workflowCalls origin hypothesis) : p.authorizedOrigin = origin := by
  obtain ⟨-, context, -, -, target, -, rfl⟩ := mem_workflowCalls.mp h
  rfl

/-- **The options of a run** are those that its hypotheses ask for. -/
theorem proposeExperimentOptions_serves {input : SelectionInput} {options : List ExperimentOption}
    (h : proposeExperimentOptions sha256 str input = .ok options) :
    ∃ origin : Text, Serves sha256 origin options input.Asks := by
  obtain ⟨origin, -, h⟩ := bind_eq_ok h
  refine ⟨origin.val, extendAll_serves h (fun call hcall => ?_) fun ask hask => ?_⟩
  · obtain ⟨hypothesis, mem, hcall⟩ := List.mem_flatMap.mp hcall
    rcases List.mem_append.mp hcall with hcall | hcall
    · obtain ⟨p, hp, rfl⟩ := List.mem_map.mp hcall
      refine ⟨ObjectCallAsks p, fun ask hask => asks_iff.mpr
        ⟨hypothesis, mem, Or.inl ⟨p, hp, hask⟩⟩, fun n made hmade => ?_⟩
      rw [← authorizedOrigin_of_objectCalls hp]
      exact objectOptions_serves hmade
    · obtain ⟨p, hp, rfl⟩ := List.mem_map.mp hcall
      refine ⟨WorkflowCallAsks p, fun ask hask => asks_iff.mpr
        ⟨hypothesis, mem, Or.inr ⟨p, hp, hask⟩⟩, fun n made hmade => ?_⟩
      rw [← authorizedOrigin_of_workflowCalls hp]
      exact workflowOptions_serves hmade
  · obtain ⟨hypothesis, mem, ⟨p, hp, hask⟩ | ⟨p, hp, hask⟩⟩ := asks_iff.mp hask
    · refine ⟨objectOptions sha256 str p, List.mem_flatMap.mpr ⟨hypothesis, mem,
        List.mem_append_left _ (List.mem_map_of_mem hp)⟩, fun n made hmade => ?_⟩
      rw [← authorizedOrigin_of_objectCalls hp]
      exact (objectOptions_serves hmade).complete ask hask
    · refine ⟨workflowOptions sha256 str p, List.mem_flatMap.mpr ⟨hypothesis, mem,
        List.mem_append_right _ (List.mem_map_of_mem hp)⟩, fun n made hmade => ?_⟩
      rw [← authorizedOrigin_of_workflowCalls hp]
      exact (workflowOptions_serves hmade).complete ask hask

theorem SelectionInput.Asks.valid {input : SelectionInput} {ask : Ask} (h : input.Asks ask) :
    ask.Valid := by
  cases h with
  | objectProbe _ _ _ _ _ _ hmode => exact hmode
  | objectReproduction => exact List.mem_cons_self
  | workflowProbe _ _ _ _ _ _ harea => exact harea
  | workflowReproduction => exact List.mem_cons_self

/-! ## What the identity says -/

theorem strOr_nil (s : Text) : strOr str [] (.text s) = s := by
  unfold strOr
  by_cases h : s = [] <;> simp [h]

theorem strOr_of_ne {default s : Text} (h : s ≠ []) : strOr str default (.text s) = s := by
  rw [strOr, if_neg h]

theorem identityFromPlanArguments_object {target origin actor own cross mode : Text}
    (hmode : mode ≠ []) : identityFromPlanArguments sha256 str
      httpAuthorizationDifferentialCapability (objectArguments origin actor own cross mode) target =
        some (experimentOptionIdentity sha256 httpAuthorizationDifferentialCapability
          (objectProbeKind mode) target actor (joined own cross) mode) := by
  have hmodeGet : (objectArguments origin actor own cross mode).get "mode".toList =
    .text mode := rfl
  have hactorGet : (objectArguments origin actor own cross mode).get "actor".toList =
    .text actor := rfl
  have hownGet : (objectArguments origin actor own cross mode).get "own_object".toList =
    .text own := rfl
  have hcrossGet : (objectArguments origin actor own cross mode).get "cross_object".toList =
    .text cross := rfl
  rw [identityFromPlanArguments, if_pos rfl]
  dsimp only
  rw [hmodeGet, hactorGet, hownGet, hcrossGet, strOr_of_ne hmode, strOr_nil, strOr_nil, strOr_nil]

theorem identityFromPlanArguments_workflow {target origin actor resourceId transition area : Text}
    (harea : area ≠ []) : identityFromPlanArguments sha256 str httpStateTransitionCapability
      (workflowArguments origin actor resourceId transition area) target =
        some (experimentOptionIdentity sha256 httpStateTransitionCapability
          (workflowProbeKind area) target actor resourceId (joined area transition)) := by
  have hareaGet : (workflowArguments origin actor resourceId transition area).get "area".toList =
    .text area := rfl
  have hactorGet : (workflowArguments origin actor resourceId transition area).get
    "actor".toList = .text actor := rfl
  have hresourceGet : (workflowArguments origin actor resourceId transition area).get
    "resource_id".toList = .text resourceId := rfl
  have htransitionGet : (workflowArguments origin actor resourceId transition area).get
    "transition".toList = .text transition := rfl
  rw [identityFromPlanArguments, if_neg (by decide), if_pos rfl]
  dsimp only
  rw [hareaGet, hactorGet, hresourceGet, htransitionGet, strOr_of_ne harea, strOr_nil, strOr_nil,
    strOr_nil]

/-- **The identity of a plan** is that of its ask exactly where nothing has been
stripped. -/
theorem MadeFor.recomputes_iff (hsha : Function.Injective sha256) {ask : Ask}
    {option : ExperimentOption} (h : MadeFor sha256 origin ask option) (hvalid : ask.Valid) :
    option.Recomputes sha256 str ↔ ask.Stripped := by
  obtain ⟨hcapability, htarget, hidentity, harguments⟩ := h
  obtain ⟨target, actor, probe⟩ := ask
  unfold ExperimentOption.Recomputes
  rw [hcapability, htarget, hidentity, harguments]
  cases probe with
  | object own cross mode =>
    have hne : mode ≠ [] := by
      rcases List.mem_pair.mp hvalid with rfl | rfl <;> decide
    have hplan := @identityFromPlanArguments_object sha256 str target.strip origin actor.strip
      own.strip cross.strip mode hne
    refine Iff.trans (Iff.of_eq (congrArg (· = _) hplan)) ?_
    rw [Option.some.injEq]
    constructor
    · intro hsame
      obtain ⟨-, -, htarget, -, hjoined, -⟩ := identity_injective hsha hsame
      exact ⟨htarget, joined_strip_iff.mp hjoined⟩
    · rintro ⟨htarget, hown, hcross⟩
      dsimp only at htarget hown hcross
      rw [htarget, hown, hcross]
      rfl
  | workflow resourceId transition area =>
    have hne : area ≠ [] := by
      rcases List.mem_pair.mp hvalid with rfl | rfl <;> decide
    have hplan := @identityFromPlanArguments_workflow sha256 str target.strip origin actor.strip
      resourceId.strip transition.strip area hne
    refine Iff.trans (Iff.of_eq (congrArg (· = _) hplan)) ?_
    rw [Option.some.injEq]
    constructor
    · intro hsame
      obtain ⟨-, -, htarget, -, -, -⟩ := identity_injective hsha hsame
      exact ⟨htarget, trivial⟩
    · rintro ⟨htarget, -⟩
      dsimp only at htarget
      rw [htarget]
      rfl

/-- Options of one identity are for the same experiment, or confused. -/
theorem sameExperiment_or_confused (hsha : Function.Injective sha256) {origin' : Text}
    {ask ask' : Ask} {option other : ExperimentOption} (h : MadeFor sha256 origin ask option)
    (h' : MadeFor sha256 origin' ask' other) (hvalid : ask.Valid) (hvalid' : ask'.Valid)
    (hsame : option.structuralIdentity = other.structuralIdentity) :
    SameExperiment option other ∨ ask.Confused ask' := by
  obtain ⟨hcapability, htarget, hidentity, harguments⟩ := h
  obtain ⟨hcapability', htarget', hidentity', harguments'⟩ := h'
  rw [hidentity, hidentity'] at hsame
  obtain ⟨target, actor, probe⟩ := ask
  obtain ⟨target', actor', probe'⟩ := ask'
  cases probe with
  | object own cross mode =>
    cases probe' with
    | object own' cross' mode' =>
      obtain ⟨-, -, rfl, hactor, hjoined, rfl⟩ := identity_injective hsha hsame
      dsimp only at hactor
      rcases joined_eq_iff.mp hjoined with ⟨rfl, rfl⟩ | hshifted
      · refine Or.inl ⟨hcapability.trans hcapability'.symm, ?_, htarget.trans htarget'.symm, ?_,
          ?_, ?_⟩
        · rw [ExperimentOption.probeKind, ExperimentOption.probeKind, hcapability, hcapability',
            harguments, harguments']
          rfl
        · rw [harguments, harguments']
          exact hactor
        · intro key hkey
          rw [harguments, harguments']
          simp only [List.mem_cons, List.not_mem_nil, or_false] at hkey
          rcases hkey with rfl | rfl | rfl <;> rfl
        · intro key hkey
          rw [harguments, harguments']
          simp only [List.mem_cons, List.not_mem_nil, or_false] at hkey
          rcases hkey with rfl | rfl | rfl <;> rfl
      · exact Or.inr (.mk hactor hshifted)
    | workflow => exact absurd (identity_injective hsha hsame).1 (by decide)
  | workflow resourceId transition area =>
    cases probe' with
    | object => exact absurd (identity_injective hsha hsame).1 (by decide)
    | workflow resourceId' transition' area' =>
      obtain ⟨-, -, rfl, hactor, hresource, hjoined⟩ := identity_injective hsha hsame
      dsimp only at hactor hresource
      -- an area has no colon
      have hcolon : ∀ area ∈ workflowAreas, ':' ∉ area := by decide
      have hareas : area = area' ∧ transition.strip = transition'.strip := by
        rcases joined_eq_iff.mp hjoined with hareas | ⟨between, hshift, -⟩ | ⟨between, hshift, -⟩
        · exact hareas
        · exact absurd (by rw [hshift]; simp) (hcolon area' hvalid')
        · exact absurd (by rw [hshift]; simp) (hcolon area hvalid)
      obtain ⟨rfl, htransition⟩ := hareas
      refine Or.inl ⟨hcapability.trans hcapability'.symm, ?_, htarget.trans htarget'.symm, ?_,
        ?_, ?_⟩
      · rw [ExperimentOption.probeKind, ExperimentOption.probeKind, hcapability, hcapability',
          harguments, harguments']
        rfl
      · rw [harguments, harguments']
        exact hactor
      · intro key hkey
        rw [harguments, harguments']
        simp only [List.mem_cons, List.not_mem_nil, or_false] at hkey
        rcases hkey with rfl | rfl | rfl
        · rfl
        · rfl
        · exact hresource
      · intro key hkey
        rw [harguments, harguments']
        simp only [List.mem_cons, List.not_mem_nil, or_false] at hkey
        rcases hkey with rfl | rfl | rfl
        · rfl
        · rfl
        · exact htransition

/-- Confused options have one identity, and are for different experiments. -/
theorem confused_spec {origin' : Text} {ask ask' : Ask} {option other : ExperimentOption}
    (h : MadeFor sha256 origin ask option) (h' : MadeFor sha256 origin' ask' other)
    (hconfused : ask.Confused ask') :
    option.structuralIdentity = other.structuralIdentity ∧ ¬ SameExperiment option other := by
  obtain ⟨-, -, hidentity, harguments⟩ := h
  obtain ⟨-, -, hidentity', harguments'⟩ := h'
  obtain ⟨hactor, hshifted⟩ := hconfused
  refine ⟨?_, fun hsame => ?_⟩
  · rw [hidentity, hidentity', Ask.identity, Ask.identity]
    dsimp only
    rw [hactor, joined_eq_iff.mpr (Or.inr hshifted)]
  · have hown := hsame.names "own_object" List.mem_cons_self
    rw [harguments, harguments'] at hown
    rcases hshifted with hshifted | hshifted
    · exact hshifted.strip_ne hown
    · exact hshifted.strip_ne hown.symm

end Making

/-- **The identity of an option is faithful** exactly where nothing is stripped and
nothing confused: it is the identity of the option's own plan for every option
of an input whose probes are stripped, and no two options of two inputs share it
by mistake unless their objects differ in the place of a colon only. -/
theorem experiment_identity_iff (sha256 : Text → Text) (str : JsonValue → Text)
    (hsha : Function.Injective sha256) (input input' : SelectionInput)
    (options options' : List ExperimentOption)
    (h : proposeExperimentOptions sha256 str input = .ok options)
    (h' : proposeExperimentOptions sha256 str input' = .ok options') :
    ((∀ option ∈ options, option.Recomputes sha256 str) ↔
        ∀ ask, input.Asks ask → ask.Stripped) ∧
      ((∀ option ∈ options, ∀ other ∈ options',
          option.structuralIdentity = other.structuralIdentity → SameExperiment option other) ↔
        ∀ ask ask', input.Asks ask → input'.Asks ask' → ¬ ask.Confused ask') := by
  obtain ⟨origin, hserves⟩ := proposeExperimentOptions_serves h
  obtain ⟨origin', hserves'⟩ := proposeExperimentOptions_serves h'
  refine ⟨⟨fun hall ask hask => ?_, fun hall option hoption => ?_⟩,
    ⟨fun hall ask ask' hask hask' hconfused => ?_,
      fun hall option hoption other hother hsame => ?_⟩⟩
  · obtain ⟨option, hoption, hmade⟩ := hserves.complete ask hask
    exact (hmade.recomputes_iff hsha hask.valid).mp (hall option hoption)
  · obtain ⟨ask, hask, hmade⟩ := hserves.sound option hoption
    exact (hmade.recomputes_iff hsha hask.valid).mpr (hall ask hask)
  · obtain ⟨option, hoption, hmade⟩ := hserves.complete ask hask
    obtain ⟨other, hother, hmade'⟩ := hserves'.complete ask' hask'
    obtain ⟨hsame, hdiffer⟩ := confused_spec hmade hmade' hconfused
    exact hdiffer (hall option hoption other hother hsame)
  · obtain ⟨ask, hask, hmade⟩ := hserves.sound option hoption
    obtain ⟨ask', hask', hmade'⟩ := hserves'.sound other hother
    rcases sameExperiment_or_confused hsha hmade hmade' hask.valid hask'.valid hsame with
      hdone | hconfused
    · exact hdone
    · exact absurd hconfused (hall ask ask' hask hask')

/-! ## A laboratory -/

def labName (c : Char) (h : Text.isSpace c = false) : Name :=
  ⟨[c], by simp, Text.strip_eq_self (by simpa using h) (by simpa using h)⟩

def labHypothesis : PortfolioHypothesis where
  hypothesisId := labName 'h' (by decide)
  family := .objectAuthorization
  lifecycle := .active
  originReference := []

/-- One open hypothesis about the objects of the contexts. -/
def labInput (origins : List Text) (contexts : List ObjectProbeContext) : SelectionInput where
  portfolio := [labHypothesis]
  observations := []
  authorizedOrigin := "http://127.0.0.1:8080".toList
  candidateOrigins := origins
  objectContexts := contexts
  workflowContexts := []
  idPrefix := ['s']

/-- `a` reads `x` and `y`. -/
def labContext : ObjectProbeContext :=
  ⟨labName 'a' (by decide), labName 'x' (by decide), labName 'y' (by decide), none, none, none⟩

theorem experiment_identity_iff_lab :
    ∃ options, proposeExperimentOptions id (fun _ => []) (labInput [] [labContext]) = .ok options ∧
      (∀ option ∈ options, option.Recomputes id fun _ => []) ∧
      ∀ option ∈ options, ∀ other ∈ options,
        option.structuralIdentity = other.structuralIdentity → SameExperiment option other := by
  have hasks : ∀ ask, (labInput [] [labContext]).Asks ask → ∃ mode,
      ask = ⟨"http://127.0.0.1:8080".toList, ['a'], .object ['x'] ['y'] mode⟩ := by
    intro ask hask
    cases hask with
    | objectProbe mem family lifecycle hcontext bound htarget hmode =>
      obtain rfl := List.mem_singleton.mp hcontext
      obtain rfl := List.mem_singleton.mp htarget
      exact ⟨_, rfl⟩
    | objectReproduction mem family lifecycle =>
      obtain rfl := List.mem_singleton.mp mem
      cases lifecycle
    | workflowProbe mem family lifecycle hcontext => exact absurd hcontext List.not_mem_nil
    | workflowReproduction mem family lifecycle hcontext => exact absurd hcontext List.not_mem_nil
  refine ⟨_, rfl, ?_⟩
  have hiff := experiment_identity_iff id (fun _ => []) Function.injective_id
    (labInput [] [labContext]) (labInput [] [labContext]) _ _ rfl rfl
  refine ⟨hiff.1.mpr fun ask hask => ?_, hiff.2.mpr fun ask ask' hask hask' hconfused => ?_⟩
  · obtain ⟨mode, rfl⟩ := hasks ask hask
    have horigin : Text.strip "http://127.0.0.1:8080".toList = "http://127.0.0.1:8080".toList := by
      decide
    exact ⟨horigin, by decide, by decide⟩
  · obtain ⟨mode, rfl⟩ := hasks ask hask
    obtain ⟨mode', rfl⟩ := hasks ask' hask'
    obtain ⟨-, ⟨between, hshift, -⟩ | ⟨between, hshift, -⟩⟩ := hconfused
    · exact absurd (List.cons.inj hshift).2 (by simp)
    · exact absurd (List.cons.inj hshift).2 (by simp)

/-- `a` reads `x:y` and `z`, and `a` reads `x` and `y:z`. -/
def colonContexts : List ObjectProbeContext :=
  [⟨labName 'a' (by decide), ⟨"x:y".toList, by decide, by decide⟩, labName 'z' (by decide),
      none, none, none⟩,
    ⟨labName 'a' (by decide), labName 'x' (by decide), ⟨"y:z".toList, by decide, by decide⟩,
      none, none, none⟩]

/-- **Two experiments with one identity**, and an identity that is not that of its
plan: an origin is given with a space before it. -/
theorem experiment_identity_confused :
    (∃ options,
      proposeExperimentOptions id (fun _ => []) (labInput [] colonContexts) = .ok options ∧
        ∃ option ∈ options, ∃ other ∈ options,
          option.structuralIdentity = other.structuralIdentity ∧ ¬ SameExperiment option other) ∧
      ∃ options, proposeExperimentOptions id (fun _ => [])
          (labInput [" http://127.0.0.1:8080".toList] [labContext]) = .ok options ∧
        ∃ option ∈ options, ¬ option.Recomputes id fun _ => [] := by
  refine ⟨⟨_, rfl, _, List.mem_cons_self, _,
    List.mem_cons_of_mem _ (List.mem_cons_of_mem _ List.mem_cons_self), rfl, fun hsame => ?_⟩,
    ⟨_, rfl, _, List.mem_cons_self, fun hsame => ?_⟩⟩
  · exact absurd (hsame.names "own_object" List.mem_cons_self) (by decide)
  · exact absurd (Option.some.inj hsame) (by decide)

end Zest.ResearchSelection

import Zest.AttackSurface
import Zest.ExperimentOptions

/-! # Admission of chains

A chain is a sequence of steps, each of which says where it is taken from and
which edge leads to it.  What is admitted is checked against the sources that
can be resolved; the list that is checked is the one of the draft, which is
given besides the steps.

The digest and `str.lower` are parameters.
-/
namespace Zest.ChainAdmission

open ResearchSelection (Name)

inductive ChainNodeKind where
  | observation
  | capability
  | state
  | stateTransition
  | invariant
  | experiment
  | hypothesis
  deriving DecidableEq, Repr

def ChainNodeKind.value : ChainNodeKind → Text
  | .observation => "OBSERVATION".toList
  | .capability => "CAPABILITY".toList
  | .state => "STATE".toList
  | .stateTransition => "STATE_TRANSITION".toList
  | .invariant => "INVARIANT".toList
  | .experiment => "EXPERIMENT".toList
  | .hypothesis => "HYPOTHESIS".toList

inductive ChainEdgeKind where
  | produces
  | enables
  | requires
  | transitionsTo
  | contradicts
  | satisfiesPrecondition
  deriving DecidableEq, Repr

def ChainEdgeKind.value : ChainEdgeKind → Text
  | .produces => "PRODUCES".toList
  | .enables => "ENABLES".toList
  | .requires => "REQUIRES".toList
  | .transitionsTo => "TRANSITIONS_TO".toList
  | .contradicts => "CONTRADICTS".toList
  | .satisfiesPrecondition => "SATISFIES_PRECONDITION".toList

inductive ChainOutcome where
  | admitted
  | rejectedMissingPrecondition
  | rejectedUnsupportedCausalLeap
  | rejectedBrokenProvenance
  | rejectedCrossRun
  | rejectedCycle
  | rejectedLimit
  | rejectedPolicyConflict
  deriving DecidableEq, Repr

/-- `ChainSearchLimits`. -/
structure ChainSearchLimits where
  maxDepth : Nat
  maxBranching : Nat
  maxGeneratedChains : Nat

/-- The limits of a call that gives none. -/
def ChainSearchLimits.standard : ChainSearchLimits := ⟨4, 1, 2⟩

/-- `ChainStep`, less its attributes. -/
structure ChainStep where
  stepIndex : Nat
  nodeKind : ChainNodeKind
  sourceRef : Name
  epistemicStatus : TargetEpistemicStatus
  stateSignature : Name
  sideEffectLevel : Fin 4
  statement : Name
  incomingEdge : Option ChainEdgeKind
  capability : Option Name
  experimentId : Option Name
  deriving DecidableEq

/-- `visit_key`. -/
def ChainStep.visitKey (step : ChainStep) : Text × Name × Name :=
  (step.nodeKind.value, step.sourceRef, step.stateSignature)

/-- What the structural identity is taken of: the step and the edge that leads
to it, with neither the words nor the marks that they carry. -/
structure StepShape where
  nodeKind : ChainNodeKind
  sourceRef : Name
  capability : Option Name
  stateSignature : Name
  incomingEdge : Option ChainEdgeKind
  deriving DecidableEq

def ChainStep.shape (step : ChainStep) : StepShape where
  nodeKind := step.nodeKind
  sourceRef := step.sourceRef
  capability := step.capability
  stateSignature := step.stateSignature
  incomingEdge := step.incomingEdge

/-! ## The structural identity -/

section Identity

open CanonicalJson

/-- One member of the object of a step. -/
def encodeEntry (key : Text) (value : Option Text) : Text :=
  encodeString key ++ ':' :: encodeOptional value

/-- The object of a step, its keys in order. -/
def encodeShape (shape : StepShape) : Text :=
  '\x7b' :: (encodeEntry "capability".toList (shape.capability.map (·.val)) ++
    ',' :: (encodeEntry "incoming_edge".toList (shape.incomingEdge.map (·.value)) ++
    ',' :: (encodeEntry "node_kind".toList (some shape.nodeKind.value) ++
    ',' :: (encodeEntry "source_ref".toList (some shape.sourceRef.val) ++
    ',' :: (encodeEntry "state_signature".toList (some shape.stateSignature.val) ++
    ['\x7d'])))))

/-- `chain_structural_identity`. -/
def chainStructuralIdentity (sha256 : Text → Text) (steps : List ChainStep) : Text :=
  sha256 (dumpsArray encodeShape (steps.map ChainStep.shape))

theorem ChainNodeKind.value_injective {kind kind' : ChainNodeKind}
    (h : kind.value = kind'.value) : kind = kind' := by
  cases kind <;> cases kind' <;> first | rfl | exact absurd h (by decide)

theorem ChainEdgeKind.value_injective {edge edge' : ChainEdgeKind}
    (h : edge.value = edge'.value) : edge = edge' := by
  cases edge <;> cases edge' <;> first | rfl | exact absurd h (by decide)

theorem encodeEntry_injective {key : Text} {value value' : Option Text} {rest rest' : Text}
    (h : encodeEntry key value ++ rest = encodeEntry key value' ++ rest') :
    value = value' ∧ rest = rest' := by
  simp only [encodeEntry, List.append_assoc, List.cons_append] at h
  exact encodeOptional_injective (List.cons.inj (encodeString_injective h).2).2

theorem encodeShape_readable : Readable encodeShape := by
  intro shape shape' rest rest' h
  simp only [encodeShape, List.cons_append, List.append_assoc, List.nil_append] at h
  obtain ⟨hcapability, h⟩ := encodeEntry_injective (List.cons.inj h).2
  obtain ⟨hedge, h⟩ := encodeEntry_injective (List.cons.inj h).2
  obtain ⟨hkind, h⟩ := encodeEntry_injective (List.cons.inj h).2
  obtain ⟨hsource, h⟩ := encodeEntry_injective (List.cons.inj h).2
  obtain ⟨hstate, hrest⟩ := encodeEntry_injective (List.cons.inj h).2
  rcases shape with ⟨kind, source, capability, state, edge⟩
  rcases shape' with ⟨kind', source', capability', state', edge'⟩
  have heqSource : source = source' := Subtype.ext (Option.some.inj hsource)
  have heqState : state = state' := Subtype.ext (Option.some.inj hstate)
  have heqKind : kind = kind' := ChainNodeKind.value_injective (Option.some.inj hkind)
  have heqCapability : capability = capability' :=
    Option.map_injective Subtype.val_injective hcapability
  have heqEdge : edge = edge' :=
    Option.map_injective (fun _ _ hvalue => ChainEdgeKind.value_injective hvalue) hedge
  subst heqSource heqState heqKind heqCapability heqEdge
  exact ⟨rfl, (List.cons.inj hrest).2⟩

/-- **Chains of one identity are of one shape.** -/
theorem chainStructuralIdentity_injective {sha256 : Text → Text}
    (hsha : Function.Injective sha256) {steps steps' : List ChainStep}
    (h : chainStructuralIdentity sha256 steps = chainStructuralIdentity sha256 steps') :
    steps.map ChainStep.shape = steps'.map ChainStep.shape := by
  refine dumpsArray_injective encodeShape_readable ?_ (hsha h)
  intro shape rest heq
  exact absurd (List.cons.inj heq).1 (by decide)

end Identity

/-! ## Admission -/

/-- `ChainHypothesis`. -/
structure ChainHypothesis where
  chainId : Name
  researchRunId : Name
  steps : List ChainStep
  sourceRefs : List Name
  preconditions : List Text
  expectedResultingCapability : Name
  unresolvedAssumptions : List Text
  falsificationPoints : List Text
  strategyVersion : Name
  structuralIdentity : Name
  two_steps : 2 ≤ steps.length
  sourced : sourceRefs ≠ []

def ChainHypothesis.depth (draft : ChainHypothesis) : Nat := draft.steps.length - 1

structure ChainDecision where
  outcome : ChainOutcome
  reasonCodes : List String
  hypothesis : Option ChainHypothesis

def ChainDecision.admitted (decision : ChainDecision) : Prop := decision.outcome = .admitted

/-- An outcome with its one code. -/
abbrev Rejection := ChainOutcome × String

def rejected (rejection : Rejection) : ChainDecision := ⟨rejection.1, [rejection.2], none⟩

section Admission

variable (lower sha256 : Text → Text)

/-- A statement that says more than a chain may. -/
def overclaims (statement : Text) : Bool :=
  (lower statement).hasInfix "exploit".toList ||
    (lower statement).hasInfix "is a vulnerability".toList ||
    (lower statement).hasInfix "vulnerability class".toList

/-- The kinds of nodes that can enable a step. -/
def enablingKinds : List ChainNodeKind := [.capability, .observation, .state]

/-- What is wrong with the edge from one step to the next. -/
def edgeRejection (previous step : ChainStep) : Option Rejection :=
  match step.incomingEdge with
  | none => some (.rejectedUnsupportedCausalLeap, "MISSING_EDGE")
  | some edge =>
    if edge = .produces ∧
        (previous.experimentId = none ∨ step.experimentId ≠ previous.experimentId) then
      some (.rejectedUnsupportedCausalLeap, "PRODUCES_REQUIRES_SAME_EXPERIMENT")
    else if edge = .enables ∧ previous.nodeKind ∉ enablingKinds then
      some (.rejectedMissingPrecondition, "ENABLES_WITHOUT_CAPABILITY_OR_OBSERVATION")
    else none

/-- The loop over the steps. -/
def walk (visited : List (Text × Name × Name)) (previous : Option ChainStep) :
    List ChainStep → Option Rejection
  | [] => none
  | step :: rest =>
    if step.visitKey ∈ visited then some (.rejectedCycle, "TRIVIAL_CYCLE")
    else if overclaims lower step.statement.val then
      some (.rejectedPolicyConflict, "POLICY_OR_EXPLOIT_CLAIM")
    else
      match previous.bind (edgeRejection · step) with
      | some rejection => some rejection
      | none => walk (step.visitKey :: visited) (some step) rest

/-- `admit_chain_hypothesis`. -/
def admitChainHypothesis (draft : ChainHypothesis) (researchRunId : Text)
    (resolvableSourceIds : List Text) (limits : ChainSearchLimits) : ChainDecision :=
  if draft.researchRunId.val ≠ researchRunId then rejected (.rejectedCrossRun, "CROSS_RUN_SOURCE")
  else if limits.maxGeneratedChains = 0 ∨ limits.maxDepth = 0 then
    rejected (.rejectedLimit, "SEARCH_LIMIT_ZERO")
  else if draft.depth > limits.maxDepth then rejected (.rejectedLimit, "MAX_DEPTH_EXCEEDED")
  else if draft.steps.map (·.stepIndex) ≠ List.range draft.steps.length then
    rejected (.rejectedBrokenProvenance, "STEP_ORDER_INVALID")
  else if ∃ ref ∈ draft.sourceRefs, ref.val ∉ resolvableSourceIds then
    rejected (.rejectedBrokenProvenance, "HALLUCINATED_SOURCE")
  else
    match walk lower [] none draft.steps with
    | some rejection => rejected rejection
    | none =>
      if chainStructuralIdentity sha256 draft.steps ≠ draft.structuralIdentity.val then
        rejected (.rejectedBrokenProvenance, "STRUCTURAL_IDENTITY_MISMATCH")
      else ⟨.admitted, ["CHAIN_HYPOTHESIS_ADMITTED", "NOT_AN_EXPLOIT"], some draft⟩

/-! ## What is admitted -/

/-- A step that may follow another one. -/
structure Linked (previous step : ChainStep) : Prop where
  joined : step.incomingEdge ≠ none
  produced : step.incomingEdge = some .produces →
    previous.experimentId ≠ none ∧ step.experimentId = previous.experimentId
  enabled : step.incomingEdge = some .enables → previous.nodeKind ∈ enablingKinds

/-- What a draft has to pass. -/
structure Admissible (draft : ChainHypothesis) (researchRunId : Text)
    (resolvableSourceIds : List Text) (limits : ChainSearchLimits) : Prop where
  run : draft.researchRunId.val = researchRunId
  generated : limits.maxGeneratedChains ≠ 0
  searched : limits.maxDepth ≠ 0
  depth : draft.depth ≤ limits.maxDepth
  ordered : draft.steps.map (·.stepIndex) = List.range draft.steps.length
  resolvable : ∀ ref ∈ draft.sourceRefs, ref.val ∈ resolvableSourceIds
  acyclic : (draft.steps.map ChainStep.visitKey).Nodup
  claimless : ∀ step ∈ draft.steps, overclaims lower step.statement.val = false
  linked : draft.steps.IsChain Linked
  identity : chainStructuralIdentity sha256 draft.steps = draft.structuralIdentity.val

variable {lower sha256}

theorem edgeRejection_eq_none {previous step : ChainStep} :
    edgeRejection previous step = none ↔ Linked previous step := by
  rcases hedge : step.incomingEdge with _ | edge
  · refine iff_of_false ?_ fun h => h.joined hedge
    rw [edgeRejection, hedge]
    exact Option.some_ne_none _
  rw [edgeRejection, hedge]
  by_cases hproduces : edge = .produces ∧
      (previous.experimentId = none ∨ step.experimentId ≠ previous.experimentId)
  · refine iff_of_false ?_ fun h => ?_
    · simp only [if_pos hproduces]
      exact Option.some_ne_none _
    · obtain ⟨hsome, hsame⟩ := h.produced (hproduces.1 ▸ hedge)
      exact hproduces.2.elim hsome fun hne => hne hsame
  by_cases henables : edge = .enables ∧ previous.nodeKind ∉ enablingKinds
  · refine iff_of_false ?_ fun h => henables.2 (h.enabled (henables.1 ▸ hedge))
    simp only [if_neg hproduces, if_pos henables]
    exact Option.some_ne_none _
  · refine iff_of_true ?_ ⟨?_, fun h => ?_, fun h => ?_⟩
    · simp only [if_neg hproduces, if_neg henables]
    · rw [hedge]
      exact Option.some_ne_none _
    · have hkind : edge = .produces := Option.some.inj (hedge.symm.trans h)
      exact ⟨fun hnone => hproduces ⟨hkind, .inl hnone⟩,
        not_not.mp fun hne => hproduces ⟨hkind, .inr hne⟩⟩
    · have hkind : edge = .enables := Option.some.inj (hedge.symm.trans h)
      exact not_not.mp fun hnot => henables ⟨hkind, hnot⟩

theorem edgeRejection_ne_admitted {previous step : ChainStep} {rejection : Rejection}
    (h : edgeRejection previous step = some rejection) : rejection.1 ≠ .admitted := by
  rw [edgeRejection] at h
  split at h
  · cases h
    decide
  · split at h
    · cases h
      decide
    · split at h
      · cases h
        decide
      · cases h

/-- A step can be put behind the ones before it when its edge is not rejected. -/
theorem isChain_previous {previous : Option ChainStep} {step : ChainStep}
    {rest : List ChainStep} :
    (previous.toList ++ step :: rest).IsChain Linked ↔
      previous.bind (edgeRejection · step) = none ∧ (step :: rest).IsChain Linked := by
  cases previous with
  | none => simp
  | some before =>
    change (before :: step :: rest).IsChain Linked ↔ edgeRejection before step = none ∧ _
    rw [List.isChain_cons_cons, edgeRejection_eq_none]

/-- The loop passes over the steps when no key comes again and every step is
linked to the one before it. -/
theorem walk_eq_none {visited : List (Text × Name × Name)} {previous : Option ChainStep}
    {steps : List ChainStep} :
    walk lower visited previous steps = none ↔
      (steps.map ChainStep.visitKey).Nodup ∧ (∀ step ∈ steps, step.visitKey ∉ visited) ∧
      (∀ step ∈ steps, overclaims lower step.statement.val = false) ∧
      (previous.toList ++ steps).IsChain Linked := by
  induction steps generalizing visited previous with
  | nil => cases previous <;> simp [walk]
  | cons step rest ih =>
    rw [isChain_previous, walk, List.map_cons, List.nodup_cons]
    by_cases hseen : step.visitKey ∈ visited
    · rw [if_pos hseen]
      refine iff_of_false (Option.some_ne_none _) fun h => ?_
      exact h.2.1 step List.mem_cons_self hseen
    rw [if_neg hseen]
    by_cases hclaim : overclaims lower step.statement.val = true
    · rw [if_pos hclaim]
      refine iff_of_false (Option.some_ne_none _) fun h => ?_
      exact absurd (h.2.2.1 step List.mem_cons_self) (by simp [hclaim])
    rw [if_neg hclaim]
    rcases hedge : previous.bind (edgeRejection · step) with _ | rejection
    · -- the step is passed over: its key is one more that may not come again
      simp only [ih, Option.toList_some, List.singleton_append, List.mem_cons, List.mem_map,
        not_or, forall_eq_or_imp, not_exists, not_and]
      constructor
      · rintro ⟨hnodup, hfresh, hclaims, hchain⟩
        exact ⟨⟨fun other hother => (hfresh other hother).1, hnodup⟩,
          ⟨hseen, fun other hother => (hfresh other hother).2⟩,
          ⟨Bool.eq_false_iff.mpr hclaim, hclaims⟩, trivial, hchain⟩
      · rintro ⟨⟨hhead, hnodup⟩, ⟨-, hfresh⟩, ⟨-, hclaims⟩, -, hchain⟩
        exact ⟨hnodup, fun other hother => ⟨hhead other hother, hfresh other hother⟩,
          hclaims, hchain⟩
    · exact iff_of_false (Option.some_ne_none _) fun h => Option.some_ne_none _ h.2.2.2.1

variable {draft : ChainHypothesis} {researchRunId : Text} {resolvableSourceIds : List Text}
  {limits : ChainSearchLimits}

theorem not_admitted_of_ne {rejection : Rejection} (h : rejection.1 ≠ .admitted) :
    ¬ (rejected rejection).admitted := h

/-- No rejection of the loop is an admission. -/
theorem walk_ne_admitted {visited : List (Text × Name × Name)} {previous : Option ChainStep}
    {steps : List ChainStep} {rejection : Rejection}
    (h : walk lower visited previous steps = some rejection) : rejection.1 ≠ .admitted := by
  induction steps generalizing visited previous with
  | nil => cases h
  | cons step rest ih =>
    rw [walk] at h
    by_cases hseen : step.visitKey ∈ visited
    · rw [if_pos hseen] at h
      cases h
      decide
    rw [if_neg hseen] at h
    by_cases hclaim : overclaims lower step.statement.val = true
    · rw [if_pos hclaim] at h
      cases h
      decide
    rw [if_neg hclaim] at h
    rcases hedge : previous.bind (edgeRejection · step) with _ | found
    · rw [hedge] at h
      exact ih h
    · rw [hedge] at h
      cases h
      obtain ⟨before, -, hedge⟩ := Option.bind_eq_some_iff.mp hedge
      exact edgeRejection_ne_admitted hedge

/-- **What is admitted.** -/
theorem admitChainHypothesis_admitted :
    (admitChainHypothesis lower sha256 draft researchRunId resolvableSourceIds limits).admitted ↔
      Admissible lower sha256 draft researchRunId resolvableSourceIds limits := by
  rw [admitChainHypothesis]
  by_cases hrun : draft.researchRunId.val = researchRunId
  swap
  · rw [if_pos hrun]
    exact iff_of_false (not_admitted_of_ne (by decide)) fun h => hrun h.run
  rw [if_neg (not_not.mpr hrun)]
  by_cases hzero : limits.maxGeneratedChains = 0 ∨ limits.maxDepth = 0
  · rw [if_pos hzero]
    exact iff_of_false (not_admitted_of_ne (by decide)) fun h => hzero.elim h.generated h.searched
  rw [if_neg hzero]
  by_cases hdepth : draft.depth > limits.maxDepth
  · rw [if_pos hdepth]
    exact iff_of_false (not_admitted_of_ne (by decide)) fun h => absurd h.depth (by omega)
  rw [if_neg hdepth]
  by_cases horder : draft.steps.map (·.stepIndex) = List.range draft.steps.length
  swap
  · rw [if_pos horder]
    exact iff_of_false (not_admitted_of_ne (by decide)) fun h => horder h.ordered
  rw [if_neg (not_not.mpr horder)]
  by_cases hmissing : ∃ ref ∈ draft.sourceRefs, ref.val ∉ resolvableSourceIds
  · rw [if_pos hmissing]
    obtain ⟨ref, href, hnot⟩ := hmissing
    exact iff_of_false (not_admitted_of_ne (by decide)) fun h => hnot (h.resolvable ref href)
  rw [if_neg hmissing]
  rcases hwalk : walk lower [] none draft.steps with _ | rejection
  · obtain ⟨hnodup, -, hclaims, hchain⟩ := walk_eq_none.mp hwalk
    by_cases hidentity :
        chainStructuralIdentity sha256 draft.steps = draft.structuralIdentity.val
    · simp only [if_neg (not_not.mpr hidentity)]
      refine iff_of_true rfl
        ⟨hrun, fun h => hzero (.inl h), fun h => hzero (.inr h), not_lt.mp hdepth, horder, ?_,
          hnodup, hclaims, hchain, hidentity⟩
      exact fun ref href => not_not.mp fun hnot => hmissing ⟨ref, href, hnot⟩
    · simp only [ne_eq, hidentity, not_false_eq_true, if_true]
      exact iff_of_false (not_admitted_of_ne (by decide)) fun h => hidentity h.identity
  · refine iff_of_false (walk_ne_admitted hwalk) fun h => ?_
    have hpassed : walk lower [] none draft.steps = none :=
      walk_eq_none.mpr ⟨h.acyclic, fun _ _ => List.not_mem_nil, h.claimless, h.linked⟩
    exact Option.some_ne_none _ (hwalk.symm.trans hpassed)

/-- What the admission of a draft is taken to say. -/
structure Sound (lower sha256 : Text → Text) (draft : ChainHypothesis)
    (resolvableSourceIds : List Text) (limits : ChainSearchLimits) : Prop where
  stepSources : ∀ step ∈ draft.steps, step.sourceRef.val ∈ resolvableSourceIds
  draftSources : ∀ ref ∈ draft.sourceRefs, ref.val ∈ resolvableSourceIds
  visits : (draft.steps.map ChainStep.visitKey).Nodup
  joined : draft.steps.IsChain fun _ step => step.incomingEdge ≠ none
  produced : draft.steps.IsChain fun previous step => step.incomingEdge = some .produces →
    ∃ id, previous.experimentId = some id ∧ step.experimentId = some id
  depth : draft.depth ≤ limits.maxDepth
  /-- Another draft that is admitted, of whatever run, and has the same identity. -/
  identity : ∀ other researchRunId' resolvableSourceIds' limits',
    (admitChainHypothesis lower sha256 other researchRunId' resolvableSourceIds'
      limits').admitted →
    other.structuralIdentity = draft.structuralIdentity →
    other.steps.map ChainStep.shape = draft.steps.map ChainStep.shape

/-- Admission is sound but for the sources of the steps. -/
theorem Admissible.sound (hsha : Function.Injective sha256)
    (h : Admissible lower sha256 draft researchRunId resolvableSourceIds limits)
    (hsteps : ∀ step ∈ draft.steps, step.sourceRef.val ∈ resolvableSourceIds) :
    Sound lower sha256 draft resolvableSourceIds limits where
  stepSources := hsteps
  draftSources := h.resolvable
  visits := h.acyclic
  joined := h.linked.imp fun _ _ hlink => hlink.joined
  produced := by
    refine h.linked.imp fun previous step hlink hedge => ?_
    obtain ⟨hsome, hsame⟩ := hlink.produced hedge
    obtain ⟨id, hid⟩ := Option.ne_none_iff_exists'.mp hsome
    exact ⟨id, hid, hsame.trans hid⟩
  depth := h.depth
  identity := by
    intro other researchRunId' resolvableSourceIds' limits' hother hidentity
    have hadmissible := admitChainHypothesis_admitted.mp hother
    refine chainStructuralIdentity_injective hsha ?_
    rw [hadmissible.identity, h.identity, hidentity]

/-- **The admission of a chain is sound when its steps are taken from the sources
that can be resolved.**  The list of sources that is checked is the one of the
draft, and no check says that it names the sources of the steps. -/
theorem chain_admission_sound_iff (lower sha256 : Text → Text)
    (hsha : Function.Injective sha256) (draft : ChainHypothesis) (researchRunId : Text)
    (resolvableSourceIds : List Text) (limits : ChainSearchLimits) :
    ((admitChainHypothesis lower sha256 draft researchRunId resolvableSourceIds
        limits).admitted → Sound lower sha256 draft resolvableSourceIds limits) ↔
      (Admissible lower sha256 draft researchRunId resolvableSourceIds limits →
        ∀ step ∈ draft.steps, step.sourceRef.val ∈ resolvableSourceIds) := by
  rw [admitChainHypothesis_admitted]
  constructor
  · intro h hadmissible
    exact (h hadmissible).stepSources
  · intro h hadmissible
    exact hadmissible.sound hsha (h hadmissible)

end Admission

/-! ## A chain of two steps -/

theorem labName_stripped {c : Char} (h : Text.isSpace c = false) :
    [c] ≠ [] ∧ Text.strip [c] = [c] :=
  ⟨by simp, Text.strip_eq_self (by simpa using h) (by simpa using h)⟩

def labName (c : Char) (h : Text.isSpace c = false) : Name :=
  ⟨[c], labName_stripped h⟩

/-- An observation, and a capability that the same experiment has produced. -/
def labSteps : List ChainStep :=
  [{ stepIndex := 0
     nodeKind := .observation
     sourceRef := labName 'o' rfl
     epistemicStatus := .observed
     stateSignature := labName 's' rfl
     sideEffectLevel := 0
     statement := labName 'x' rfl
     incomingEdge := none
     capability := none
     experimentId := some (labName 'e' rfl) },
   { stepIndex := 1
     nodeKind := .capability
     sourceRef := labName 'c' rfl
     epistemicStatus := .derived
     stateSignature := labName 's' rfl
     sideEffectLevel := 0
     statement := labName 'y' rfl
     incomingEdge := some .produces
     capability := none
     experimentId := some (labName 'e' rfl) }]

set_option maxRecDepth 4000 in
/-- A draft of the two steps that names its sources as `refs`. -/
def labDraft (refs : List Name) (h : refs ≠ []) : ChainHypothesis where
  chainId := labName 'i' rfl
  researchRunId := labName 'r' rfl
  steps := labSteps
  sourceRefs := refs
  preconditions := []
  expectedResultingCapability := labName 'c' rfl
  unresolvedAssumptions := []
  falsificationPoints := []
  strategyVersion := labName 'v' rfl
  structuralIdentity := ⟨chainStructuralIdentity id labSteps, by decide⟩
  two_steps := by decide
  sourced := h

set_option maxRecDepth 4000 in
theorem chain_admission_sound_iff_lab :
    (admitChainHypothesis id id (labDraft [labName 'o' rfl, labName 'c' rfl] (by simp)) ['r']
      [['o'], ['c']] .standard).admitted ∧
    Sound id id (labDraft [labName 'o' rfl, labName 'c' rfl] (by simp)) [['o'], ['c']]
      .standard := by
  have hadmitted : (admitChainHypothesis id id
      (labDraft [labName 'o' rfl, labName 'c' rfl] (by simp)) ['r'] [['o'], ['c']]
      .standard).admitted := by
    rw [ChainDecision.admitted]
    decide
  refine ⟨hadmitted, ?_⟩
  refine (chain_admission_sound_iff id id Function.injective_id _ _ _ _).mpr ?_ hadmitted
  intro _ step hstep
  simp only [labDraft, labSteps, List.mem_cons, List.not_mem_nil, or_false] at hstep
  rcases hstep with rfl | rfl <;> decide

set_option maxRecDepth 4000 in
/-- A step may name any source at all, as long as the list of the draft does not. -/
theorem unresolvable_step_admitted :
    ¬ ∀ (lower sha256 : Text → Text), Function.Injective sha256 →
      ∀ draft researchRunId resolvableSourceIds limits,
        (admitChainHypothesis lower sha256 draft researchRunId resolvableSourceIds
          limits).admitted → Sound lower sha256 draft resolvableSourceIds limits := by
  intro h
  have hadmitted : (admitChainHypothesis id id (labDraft [labName 'o' rfl] (by simp)) ['r']
      [['o']] .standard).admitted := by
    rw [ChainDecision.admitted]
    decide
  have hsound := h id id Function.injective_id _ _ _ _ hadmitted
  have hstep := hsound.stepSources (labSteps.get ⟨1, by decide⟩) (List.get_mem _ _)
  revert hstep
  decide

end Zest.ChainAdmission

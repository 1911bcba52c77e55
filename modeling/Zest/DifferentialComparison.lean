import Zest.TemporalDelta

/-! # Differential comparisons

A case cites observations of a baseline and of a variant, and says in which
dimensions they differ.  The comparison looks at the first observation of
either side, and what it records cites them all.
-/
namespace Zest.Differential

open ResearchSelection (Name requireText)
open Temporal (ResearchSnapshot textOrNone)

inductive DifferentialDimension where
  | actor
  | role
  | session
  | resource
  | state
  | action
  | input
  | time
  deriving DecidableEq, Repr

def DifferentialDimension.value : DifferentialDimension → String
  | .actor => "ACTOR"
  | .role => "ROLE"
  | .session => "SESSION"
  | .resource => "RESOURCE"
  | .state => "STATE"
  | .action => "ACTION"
  | .input => "INPUT"
  | .time => "TIME"

inductive DifferentialInterpretation where
  | controlledDifference
  | equivalent
  | incomparable
  deriving DecidableEq, Repr

inductive DifferentialOutcome where
  | compared
  | rejectedCrossRun
  | rejectedMissingSource
  | rejectedUncontrolled
  | rejectedDeferredDimension
  | rejectedMissingTemporalProvenance
  | rejectedCrossProgram
  deriving DecidableEq, Repr

/-- `FORBIDDEN_DIFF_KEYS`, sorted. -/
def forbiddenDiffKeys : List String :=
  ["authorization", "candidate", "confidence", "cve", "cvss", "evidence", "finding", "idor",
    "password", "session_token", "severity", "token", "vulnerability"]

/-- `_reject_forbidden`, of a mapping. -/
def rejectForbidden (payload : Dict) (fieldName : String) : Except String Dict :=
  let found := forbiddenDiffKeys.filter fun key => (payload.lookup key.toList).isSome
  if found = [] then .ok payload
  else
    .error (fieldName ++ " must not contain [" ++
      ", ".intercalate (found.map fun key => "'" ++ key ++ "'") ++ "]")

/-- `TargetObservationView`, less its experiment and its kind. -/
structure TargetObservationView where
  observationId : Name
  researchRunId : Name
  payload : Dict
  capability : Name
  action : Name
  actorHandle : Name
  resourceHandle : Name
  submittedInput : Option Name

/-- `DifferentialCase`, less its expected equivalence. -/
structure DifferentialCase where
  caseId : Name
  researchRunId : Name
  baselineObservationIds : List Name
  variantObservationIds : List Name
  changedDimensions : List DifferentialDimension
  commonDimensions : List DifferentialDimension
  baselineSnapshotId : Option Name
  variantSnapshotId : Option Name
  strategyVersion : Name
  baseline_nonempty : baselineObservationIds ≠ []
  variant_nonempty : variantObservationIds ≠ []

structure DifferentialObservation where
  differentialId : Name
  researchRunId : Name
  caseId : Name
  baselineObservationIds : List Name
  variantObservationIds : List Name
  changedDimensions : List DifferentialDimension
  commonDimensions : List DifferentialDimension
  observedDifferences : Dict
  observedSimilarities : Dict
  interpretation : DifferentialInterpretation
  sourceRefs : List Name
  strategyVersion : Name
  alternativeExplanationSlots : List String

structure DifferentialDecision where
  outcome : DifferentialOutcome
  reasonCodes : List String
  observation : Option DifferentialObservation

/-! ## The comparison -/

/-- `_view_by_id`. -/
def viewById (views : List TargetObservationView) (observationId : Name) :
    Option TargetObservationView :=
  views.find? (·.observationId = observationId)

/-- `_dimension_values`. -/
def dimensionValues (view : TargetObservationView) : DifferentialDimension → Option Text
  | .actor => some view.actorHandle
  | .action => some (view.capability.val ++ ':' :: view.action.val)
  | .resource => some view.resourceHandle
  | .input => view.submittedInput.map (·.val)
  | .state => textOrNone (view.payload.get "echoed".toList)
  | .role => none
  | .session => none
  | .time => none

/-- What `by_id` holds: of snapshots with one id the last one. -/
def snapshotById (snapshots : List ResearchSnapshot) (snapshotId : Name) :
    Option ResearchSnapshot :=
  snapshots.reverse.find? (·.snapshotId = snapshotId)

def rejected (outcome : DifferentialOutcome) (reason : String) : DifferentialDecision :=
  ⟨outcome, [reason], none⟩

/-- What is asked of the snapshots of a case that declares `TIME`.  When the
snapshots were captured is compared in one place, and nothing follows from it. -/
def temporalRejection (case : DifferentialCase) (snapshots : List ResearchSnapshot) :
    Option DifferentialDecision :=
  match case.baselineSnapshotId, case.variantSnapshotId with
  | some baselineId, some variantId =>
    match snapshotById snapshots baselineId, snapshotById snapshots variantId with
    | some baseline, some variant =>
      if baseline.programId ≠ variant.programId then
        some (rejected .rejectedCrossProgram "CROSS_PROGRAM_SNAPSHOT")
      else if baseline.researchRunId ≠ case.researchRunId ∨
          variant.researchRunId ≠ case.researchRunId then
        some (rejected .rejectedCrossRun "CROSS_RUN_SNAPSHOT")
      else if ∃ id ∈ case.baselineObservationIds, id ∉ baseline.observationIds then
        some (rejected .rejectedMissingTemporalProvenance "BASELINE_NOT_IN_SNAPSHOT")
      else if ∃ id ∈ case.variantObservationIds, id ∉ variant.observationIds then
        some (rejected .rejectedMissingTemporalProvenance "VARIANT_NOT_IN_SNAPSHOT")
      else none
    | _, _ => some (rejected .rejectedMissingTemporalProvenance "SNAPSHOT_NOT_RESOLVED")
  | _, _ =>
    some (rejected .rejectedMissingTemporalProvenance "TIME_REQUIRES_SNAPSHOT_PROVENANCE")

/-- The dimensions in which a change is looked for. -/
def observedDimensions : List DifferentialDimension :=
  [.actor, .action, .resource, .input, .state]

/-- `detected_changed`. -/
def detectedChanged (left right : DifferentialDimension → Option Text) :
    List DifferentialDimension :=
  observedDimensions.filter fun dim => left dim ≠ right dim

/-- `undeclared`. -/
def undeclared (case : DifferentialCase) (left right : DifferentialDimension → Option Text) :
    List DifferentialDimension :=
  (detectedChanged left right).filter fun dim => dim ∉ case.changedDimensions ∧ dim ≠ .state

/-- `declared_but_equal`. -/
def declaredButEqual (case : DifferentialCase)
    (left right : DifferentialDimension → Option Text) : List DifferentialDimension :=
  case.changedDimensions.filter fun dim => (dim ≠ .state ∧ dim ≠ .time) ∧ left dim = right dim

/-- A value as it is recorded. -/
def optionValue : Option Text → JsonValue
  | some s => .text s
  | none => .null

def nameValue (name : Option Name) : JsonValue := optionValue (name.map (·.val))

/-- `differences`. -/
def differences (case : DifferentialCase) (left right : DifferentialDimension → Option Text) :
    Dict :=
  let detected : Dict := (detectedChanged left right).map fun dim =>
    (dim.value.toList, .object [("baseline".toList, optionValue (left dim)),
      ("variant".toList, optionValue (right dim))])
  if .time ∈ case.changedDimensions then
    detected.set "TIME".toList (.object
      [("baseline_snapshot_id".toList, nameValue case.baselineSnapshotId),
        ("variant_snapshot_id".toList, nameValue case.variantSnapshotId),
        ("not_timestamp_only".toList, .bool true)])
  else detected

/-- `similarities`. -/
def similarities (case : DifferentialCase) (left right : DifferentialDimension → Option Text) :
    Dict :=
  let alike := (case.commonDimensions.filter fun dim => left dim = right dim).foldl
    (fun (d : Dict) dim => d.set dim.value.toList (optionValue (left dim))) []
  (alike.set "not_authorization_proof".toList (.bool true)).set "not_a_vulnerability".toList
    (.bool true)

/-- The part of the comparison that looks at the values of the two observations. -/
def compareValues (case : DifferentialCase) (left right : DifferentialDimension → Option Text)
    (differentialId : Text) : Except String DifferentialDecision :=
  if .time ∈ case.changedDimensions ∧ detectedChanged left right = [] then
    .ok (rejected .rejectedUncontrolled "TIMESTAMP_ONLY_NOT_TEMPORAL")
  else if undeclared case left right ≠ [] then
    .ok (rejected .rejectedUncontrolled "UNDECLARED_CHANGED_DIMENSION")
  -- equal values of declared dimensions count only where `INPUT` is declared
  else if declaredButEqual case left right ≠ [] ∧ .input ∈ case.changedDimensions then
    .ok (rejected .rejectedUncontrolled "DECLARED_DIMENSION_DID_NOT_CHANGE")
  else do
    let differentialId ← requireText differentialId "differential_id"
    let observedDifferences ←
      rejectForbidden (differences case left right) "observed_differences"
    let observedSimilarities ←
      rejectForbidden (similarities case left right) "observed_similarities"
    return {
      outcome := .compared
      reasonCodes :=
        if detectedChanged left right = [] then ["EQUIVALENT_NOT_AUTHORIZATION"]
        else ["CONTROLLED_DIAGNOSTIC_DIFFERENCE", "NOT_A_VULNERABILITY"]
      observation := some {
        differentialId := differentialId
        researchRunId := case.researchRunId
        caseId := case.caseId
        baselineObservationIds := case.baselineObservationIds
        variantObservationIds := case.variantObservationIds
        changedDimensions := case.changedDimensions
        commonDimensions := case.commonDimensions
        observedDifferences := observedDifferences
        observedSimilarities := observedSimilarities
        interpretation :=
          if detectedChanged left right = [] then .equivalent else .controlledDifference
        sourceRefs := case.baselineObservationIds ++ case.variantObservationIds
        strategyVersion := case.strategyVersion
        alternativeExplanationSlots :=
          ["intended_input_difference", "runtime_protocol_difference",
            "asynchronous_processing"] } }

/-- `compare_diagnostic_differential`. -/
def compareDiagnosticDifferential (case : DifferentialCase) (views : List TargetObservationView)
    (differentialId : Text) (snapshots : List ResearchSnapshot) :
    Except String DifferentialDecision :=
  match if .time ∈ case.changedDimensions then temporalRejection case snapshots else none with
  | some decision => .ok decision
  | none =>
    if case.changedDimensions = [] then
      .ok (rejected .rejectedUncontrolled "CHANGED_DIMENSIONS_REQUIRED")
    else if ∃ view ∈ views, view.researchRunId ≠ case.researchRunId then
      .ok (rejected .rejectedCrossRun "CROSS_RUN_SOURCE")
    else
      match viewById views (case.baselineObservationIds.head case.baseline_nonempty),
        viewById views (case.variantObservationIds.head case.variant_nonempty) with
      | some baseline, some variant =>
        if baseline.researchRunId ≠ case.researchRunId ∨
            variant.researchRunId ≠ case.researchRunId then
          .ok (rejected .rejectedCrossRun "CROSS_RUN_SOURCE")
        else
          compareValues case (dimensionValues baseline) (dimensionValues variant) differentialId
      | _, _ => .ok (rejected .rejectedMissingSource "HALLUCINATED_SOURCE")

/-! ## What a comparison goes through -/

section Compared

variable {case : DifferentialCase} {views : List TargetObservationView} {differentialId : Text}
  {snapshots : List ResearchSnapshot} {decision : DifferentialDecision}

/-- The first observations that a case cites. -/
def firstBaseline (case : DifferentialCase) : Name :=
  case.baselineObservationIds.head case.baseline_nonempty

def firstVariant (case : DifferentialCase) : Name :=
  case.variantObservationIds.head case.variant_nonempty

theorem rejectForbidden_eq_ok {payload made : Dict} {fieldName : String}
    (h : rejectForbidden payload fieldName = .ok made) : made = payload := by
  unfold rejectForbidden at h
  dsimp only at h
  split at h
  · exact (Except.ok.inj h).symm
  · cases h

theorem temporalRejection_outcome
    (h : (if .time ∈ case.changedDimensions then temporalRejection case snapshots else none) =
      some decision) : decision.outcome ≠ .compared := by
  split at h
  · unfold temporalRejection at h
    split at h
    · split at h
      · split_ifs at h
        all_goals
          obtain rfl := Option.some.inj h
          decide
      · obtain rfl := Option.some.inj h
        decide
    · obtain rfl := Option.some.inj h
      decide
  · cases h

/-- What is recorded of the values of two observations. -/
theorem of_compareValues {left right : DifferentialDimension → Option Text}
    (h : compareValues case left right differentialId = .ok decision)
    (hc : decision.outcome = .compared) :
    undeclared case left right = [] ∧
      ∃ observation, decision.observation = some observation ∧
        observation.baselineObservationIds = case.baselineObservationIds ∧
        observation.variantObservationIds = case.variantObservationIds ∧
        observation.sourceRefs = case.baselineObservationIds ++ case.variantObservationIds ∧
        observation.commonDimensions = case.commonDimensions ∧
        observation.observedDifferences = differences case left right ∧
        observation.observedSimilarities = similarities case left right ∧
        (observation.interpretation = .controlledDifference ↔
          detectedChanged left right ≠ []) := by
  unfold compareValues at h
  by_cases htime : .time ∈ case.changedDimensions ∧ detectedChanged left right = []
  · rw [if_pos htime] at h
    obtain rfl := Except.ok.inj h
    cases hc
  by_cases hundeclared : undeclared case left right = []
  swap
  · rw [if_neg htime, if_pos hundeclared] at h
    obtain rfl := Except.ok.inj h
    cases hc
  by_cases hequal : declaredButEqual case left right ≠ [] ∧ .input ∈ case.changedDimensions
  · rw [if_neg htime, if_neg (not_not.mpr hundeclared), if_pos hequal] at h
    obtain rfl := Except.ok.inj h
    cases hc
  rw [if_neg htime, if_neg (not_not.mpr hundeclared), if_neg hequal] at h
  obtain ⟨name, hname, h⟩ := bind_eq_ok h
  obtain ⟨observedDifferences, hdifferences, h⟩ := bind_eq_ok h
  obtain ⟨observedSimilarities, hsimilarities, h⟩ := bind_eq_ok h
  obtain rfl := Except.ok.inj h
  refine ⟨hundeclared, _, rfl, rfl, rfl, rfl, rfl, ?_, ?_, ?_⟩
  · exact rejectForbidden_eq_ok hdifferences
  · exact rejectForbidden_eq_ok hsimilarities
  · by_cases hnone : detectedChanged left right = []
    · simp [hnone]
    · simp [hnone]

/-- What is compared are the first observations, and every view is of the run. -/
theorem of_compared
    (h : compareDiagnosticDifferential case views differentialId snapshots = .ok decision)
    (hc : decision.outcome = .compared) :
    (∀ view ∈ views, view.researchRunId = case.researchRunId) ∧
      ∃ baseline variant, viewById views (firstBaseline case) = some baseline ∧
        viewById views (firstVariant case) = some variant ∧
        compareValues case (dimensionValues baseline) (dimensionValues variant) differentialId =
          .ok decision := by
  unfold compareDiagnosticDifferential at h
  split at h
  next early hearly =>
    obtain rfl := Except.ok.inj h
    exact absurd hc (temporalRejection_outcome hearly)
  next =>
    by_cases hchanged : case.changedDimensions = []
    · rw [if_pos hchanged] at h
      obtain rfl := Except.ok.inj h
      cases hc
    by_cases hviews : ∃ view ∈ views, view.researchRunId ≠ case.researchRunId
    · rw [if_neg hchanged, if_pos hviews] at h
      obtain rfl := Except.ok.inj h
      cases hc
    rw [if_neg hchanged, if_neg hviews] at h
    push Not at hviews
    split at h
    next baseline variant hbaseline hvariant =>
      split at h
      · obtain rfl := Except.ok.inj h
        cases hc
      · exact ⟨hviews, baseline, variant, hbaseline, hvariant, h⟩
    next =>
      obtain rfl := Except.ok.inj h
      cases hc

end Compared

/-! ## What a controlled difference is -/

/-- Two observations differ in what a case declares, and share what it names
common. -/
structure PairAsDeclared (case : DifferentialCase) (left right : TargetObservationView) :
    Prop where
  changed : ∀ dim, dim ≠ .state →
    (dimensionValues left dim ≠ dimensionValues right dim ↔
      dim ∈ case.changedDimensions ∧ dim ≠ .time)
  common : ∀ dim ∈ case.commonDimensions, dimensionValues left dim = dimensionValues right dim

/-- The variant snapshot was captured after the baseline snapshot. -/
def CapturedInOrder (case : DifferentialCase) (snapshots : List ResearchSnapshot) : Prop :=
  ∃ baselineId variantId baseline variant, case.baselineSnapshotId = some baselineId ∧
    case.variantSnapshotId = some variantId ∧
    snapshotById snapshots baselineId = some baseline ∧
    snapshotById snapshots variantId = some variant ∧ baseline.capturedAt < variant.capturedAt

/-- A comparison varies what its case declares. -/
structure VariesAsDeclared (case : DifferentialCase) (views : List TargetObservationView)
    (snapshots : List ResearchSnapshot) (observation : DifferentialObservation) : Prop where
  resolved : ∀ id ∈ observation.sourceRefs, ∃ view, viewById views id = some view ∧
    view.researchRunId = case.researchRunId
  pairs : observation.interpretation = .controlledDifference →
    ∀ baselineId ∈ observation.baselineObservationIds,
    ∀ variantId ∈ observation.variantObservationIds, ∀ left right,
      viewById views baselineId = some left → viewById views variantId = some right →
        PairAsDeclared case left right
  ordered : .time ∈ case.changedDimensions → CapturedInOrder case snapshots

/-- The values that the observations of a list show in a dimension. -/
def shown (views : List TargetObservationView) (ids : List Name) (dim : DifferentialDimension) :
    List (Option Text) :=
  (ids.filterMap (viewById views)).map (dimensionValues · dim)

/-- The first two observations of a case differ in a dimension that is looked at. -/
def FirstDiffer (case : DifferentialCase) (views : List TargetObservationView) : Prop :=
  ∃ dim ∈ observedDimensions,
    shown views [firstBaseline case] dim ≠ shown views [firstVariant case] dim

/-- The two sides show nothing in common where the case declares a change, and
all show one value where it declares none, or names the dimension common. -/
structure SidesKeptApart (case : DifferentialCase) (views : List TargetObservationView) :
    Prop where
  apart : ∀ dim ∈ case.changedDimensions, dim ≠ .state → dim ≠ .time →
    (shown views case.baselineObservationIds dim).Disjoint
      (shown views case.variantObservationIds dim)
  alike : ∀ dim, (dim ∉ case.changedDimensions ∧ dim ≠ .state) ∨ dim ∈ case.commonDimensions →
    ∀ value ∈ shown views (case.baselineObservationIds ++ case.variantObservationIds) dim,
    ∀ other ∈ shown views (case.baselineObservationIds ++ case.variantObservationIds) dim,
      value = other

/-- What a case has to see to that the comparison does not look at. -/
structure WellControlled (case : DifferentialCase) (views : List TargetObservationView)
    (snapshots : List ResearchSnapshot) : Prop where
  resolved : ∀ id ∈ case.baselineObservationIds ++ case.variantObservationIds,
    viewById views id ≠ none
  sides : FirstDiffer case views → SidesKeptApart case views
  ordered : .time ∈ case.changedDimensions → CapturedInOrder case snapshots

section Controlled

variable {case : DifferentialCase} {views : List TargetObservationView} {differentialId : Text}
  {snapshots : List ResearchSnapshot} {decision : DifferentialDecision}

theorem mem_shown {ids : List Name} {dim : DifferentialDimension} {value : Option Text} :
    value ∈ shown views ids dim ↔
      ∃ id ∈ ids, ∃ view, viewById views id = some view ∧ dimensionValues view dim = value := by
  rw [shown, List.mem_map]
  constructor
  · rintro ⟨view, hview, hvalue⟩
    obtain ⟨id, hid, hfound⟩ := List.mem_filterMap.mp hview
    exact ⟨id, hid, view, hfound, hvalue⟩
  · rintro ⟨id, hid, view, hfound, hvalue⟩
    exact ⟨view, List.mem_filterMap.mpr ⟨id, hid, hfound⟩, hvalue⟩

theorem shown_singleton {id : Name} {view : TargetObservationView}
    (h : viewById views id = some view) (dim : DifferentialDimension) :
    shown views [id] dim = [dimensionValues view dim] := by
  rw [shown, List.filterMap_cons, h]
  rfl

theorem firstDiffer_iff {baseline variant : TargetObservationView}
    (hbaseline : viewById views (firstBaseline case) = some baseline)
    (hvariant : viewById views (firstVariant case) = some variant) :
    FirstDiffer case views ↔
      detectedChanged (dimensionValues baseline) (dimensionValues variant) ≠ [] := by
  rw [FirstDiffer, detectedChanged, ne_eq, List.filter_eq_nil_iff]
  simp only [shown_singleton hbaseline, shown_singleton hvariant]
  simp

/-- An unresolved observation shows nothing; a side that resolves shows
something in every dimension. -/
theorem exists_shown {ids : List Name} (hne : ids ≠ [])
    (hresolved : ∀ id ∈ ids, viewById views id ≠ none) (dim : DifferentialDimension) :
    ∃ value, value ∈ shown views ids dim := by
  obtain ⟨id, hid⟩ := List.exists_mem_of_ne_nil ids hne
  obtain ⟨view, hview⟩ := Option.ne_none_iff_exists'.mp (hresolved id hid)
  exact ⟨dimensionValues view dim, mem_shown.mpr ⟨id, hid, view, hview, rfl⟩⟩

theorem append_ids_forall {P : Name → Prop}
    (h : ∀ id ∈ case.baselineObservationIds ++ case.variantObservationIds, P id) :
    (∀ id ∈ case.baselineObservationIds, P id) ∧ ∀ id ∈ case.variantObservationIds, P id :=
  List.forall_mem_append.mp h

/-- Where every value of one side is every value of the other, there is one value. -/
theorem alike_of_pairs {left right : List (Option Text)} (hleft : ∃ value, value ∈ left)
    (hright : ∃ value, value ∈ right) (h : ∀ value ∈ left, ∀ other ∈ right, value = other) :
    ∀ value ∈ left ++ right, ∀ other ∈ left ++ right, value = other := by
  obtain ⟨here, hhere⟩ := hleft
  obtain ⟨there, hthere⟩ := hright
  have hall : ∀ value ∈ left ++ right, value = here := by
    intro value hvalue
    rcases List.mem_append.mp hvalue with hvalue | hvalue
    · exact (h value hvalue there hthere).trans (h here hhere there hthere).symm
    · exact (h here hhere value hvalue).symm
  intro value hvalue other hother
  rw [hall value hvalue, hall other hother]

theorem shown_append (ids others : List Name) (dim : DifferentialDimension) :
    shown views (ids ++ others) dim = shown views ids dim ++ shown views others dim := by
  rw [shown, List.filterMap_append, List.map_append]
  rfl

/-- Every pair is as the case declares, exactly when its sides are kept apart. -/
theorem pairs_iff
    (hresolved : ∀ id ∈ case.baselineObservationIds ++ case.variantObservationIds,
      viewById views id ≠ none) :
    (∀ baselineId ∈ case.baselineObservationIds, ∀ variantId ∈ case.variantObservationIds,
      ∀ left right, viewById views baselineId = some left →
        viewById views variantId = some right → PairAsDeclared case left right) ↔
      SidesKeptApart case views := by
  obtain ⟨hbaselines, hvariants⟩ := append_ids_forall hresolved
  constructor
  · intro hpairs
    refine ⟨?_, ?_⟩
    · intro dim hdim hstate htime value hvalue hother
      obtain ⟨baselineId, hbaseline, left, hleft, rfl⟩ := mem_shown.mp hvalue
      obtain ⟨variantId, hvariant, right, hright, hsame⟩ := mem_shown.mp hother
      have hpair := hpairs baselineId hbaseline variantId hvariant left right hleft hright
      exact (hpair.changed dim hstate).mpr ⟨hdim, htime⟩ hsame.symm
    · intro dim hdim
      rw [shown_append]
      refine alike_of_pairs (exists_shown case.baseline_nonempty hbaselines dim)
        (exists_shown case.variant_nonempty hvariants dim) ?_
      intro value hvalue other hother
      obtain ⟨baselineId, hbaseline, left, hleft, rfl⟩ := mem_shown.mp hvalue
      obtain ⟨variantId, hvariant, right, hright, rfl⟩ := mem_shown.mp hother
      have hpair := hpairs baselineId hbaseline variantId hvariant left right hleft hright
      rcases hdim with ⟨hdim, hstate⟩ | hdim
      · by_contra hne
        exact hdim ((hpair.changed dim hstate).mp hne).1
      · exact hpair.common dim hdim
  · intro hsides baselineId hbaseline variantId hvariant left right hleft hright
    have hshownLeft : ∀ dim, dimensionValues left dim ∈
        shown views case.baselineObservationIds dim :=
      fun dim => mem_shown.mpr ⟨baselineId, hbaseline, left, hleft, rfl⟩
    have hshownRight : ∀ dim, dimensionValues right dim ∈
        shown views case.variantObservationIds dim :=
      fun dim => mem_shown.mpr ⟨variantId, hvariant, right, hright, rfl⟩
    have halike : ∀ dim,
        (dim ∉ case.changedDimensions ∧ dim ≠ .state) ∨ dim ∈ case.commonDimensions →
        dimensionValues left dim = dimensionValues right dim := by
      intro dim hdim
      refine hsides.alike dim hdim _ ?_ _ ?_
      · rw [shown_append]
        exact List.mem_append_left _ (hshownLeft dim)
      · rw [shown_append]
        exact List.mem_append_right _ (hshownRight dim)
    refine ⟨?_, fun dim hdim => halike dim (.inr hdim)⟩
    intro dim hstate
    constructor
    · intro hne
      refine ⟨?_, ?_⟩
      · by_contra hdim
        exact hne (halike dim (.inl ⟨hdim, hstate⟩))
      · rintro rfl
        exact hne rfl
    · rintro ⟨hdim, htime⟩ hsame
      exact hsides.apart dim hdim hstate htime (hshownLeft dim) (hsame ▸ hshownRight dim)

end Controlled

/-! ## A case of one actor and of another -/

open Temporal (a_named b_named)

theorem c_named : ['c'] ≠ [] ∧ Text.strip ['c'] = ['c'] := by
  decide

def labView (observationId actor : Name) : TargetObservationView where
  observationId := observationId
  researchRunId := ⟨['a'], a_named⟩
  payload := []
  capability := ⟨['a'], a_named⟩
  action := ⟨['a'], a_named⟩
  actorHandle := actor
  resourceHandle := ⟨['a'], a_named⟩
  submittedInput := none

def labViews : List TargetObservationView :=
  [labView ⟨['a'], a_named⟩ ⟨['a'], a_named⟩, labView ⟨['b'], b_named⟩ ⟨['b'], b_named⟩]

theorem lab_baseline_cited : [(⟨['a'], a_named⟩ : Name)] ≠ [] := by
  simp

/-- The actor is declared to change, from the observation `a` to those given. -/
def labCase (variants : List Name) (h : variants ≠ []) : DifferentialCase where
  caseId := ⟨['a'], a_named⟩
  researchRunId := ⟨['a'], a_named⟩
  baselineObservationIds := [⟨['a'], a_named⟩]
  variantObservationIds := variants
  changedDimensions := [.actor]
  commonDimensions := [.resource]
  baselineSnapshotId := none
  variantSnapshotId := none
  strategyVersion := ⟨['a'], a_named⟩
  baseline_nonempty := lab_baseline_cited
  variant_nonempty := h

theorem lab_wellControlled :
    WellControlled (labCase [⟨['b'], b_named⟩] (by simp)) labViews [] where
  resolved := by decide
  sides _ :=
    { apart := by
        intro dim hdim
        obtain rfl : dim = .actor := List.mem_singleton.mp hdim
        intro _ _ value hvalue hother
        obtain rfl : value = some ['a'] := List.mem_singleton.mp hvalue
        revert hother
        decide
      alike := by
        intro dim
        cases dim <;> decide }
  ordered htime := absurd htime (by decide)

theorem lab_compared :
    ∃ decision, compareDiagnosticDifferential (labCase [⟨['b'], b_named⟩] (by simp)) labViews
      ['d'] [] = .ok decision ∧ decision.outcome = .compared :=
  ⟨_, rfl, rfl⟩

end Zest.Differential

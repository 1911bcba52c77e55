import Mathlib.Data.Finset.Card
import Zest.ExperimentIdentity
import Zest.ScopeCompiler

/-! # Temporal deltas

Two snapshots of a target each name the observations that they cite.  What has
changed from the one to the other is decided by the observations named, in the
order in which they are named, and by what the views of them say was echoed.
-/
namespace Zest.Temporal

open ResearchSelection (Name requireText)

/-- The fields of `TargetObservationView` that are read here. -/
structure TargetObservationView where
  observationId : Name
  researchRunId : Name
  payload : Dict
  submittedInput : Option Name

/-- `ResearchSnapshot`, less its attributes. -/
structure ResearchSnapshot where
  snapshotId : Name
  researchRunId : Name
  programId : Name
  targetIdentity : Name
  observationIds : List Name
  capturedAt : Instant
  strategyVersion : Name
  nonempty : observationIds ≠ []

inductive ChangeCategory where
  | added
  | removed
  | modified
  | relationChanged
  | stateChanged
  | behaviorChanged
  | unknownChange
  deriving DecidableEq, Repr

inductive ChangeOutcome where
  | compared
  | equivalentNoChange
  | rejectedCrossRun
  | rejectedCrossProgram
  | rejectedIncompatibleTarget
  | rejectedIncompatibleStrategy
  | rejectedUnordered
  | rejectedMissingSource
  deriving DecidableEq, Repr

structure ChangeEvent where
  changeEventId : Name
  researchRunId : Name
  baselineSnapshotId : Name
  variantSnapshotId : Name
  category : ChangeCategory
  statement : String
  sourceRefs : List Name
  strategyVersion : String

structure ChangeDecision where
  outcome : ChangeOutcome
  reasonCodes : List String
  changeEvent : Option ChangeEvent

/-- `_view_by_id`. -/
def viewById (views : List TargetObservationView) (observationId : Name) :
    Option TargetObservationView :=
  views.find? (·.observationId = observationId)

/-- `raw if isinstance(raw, str) else None`. -/
def textOrNone : JsonValue → Option Text
  | .text s => some s
  | _ => none

/-- A row of the digest: the observation, what was submitted, what was echoed. -/
abbrev DigestRow := Name × Option Name × Option Text

def digestRow (views : List TargetObservationView) (observationId : Name) : DigestRow :=
  match viewById views observationId with
  | none => (observationId, none, none)
  | some view =>
    (observationId, view.submittedInput, textOrNone (view.payload.get "echoed".toList))

/-- `_digest`. -/
def digest (snapshot : ResearchSnapshot) (views : List TargetObservationView) : List DigestRow :=
  snapshot.observationIds.map (digestRow views)

/-- What the echo map of a digest holds of an observation: its last row counts. -/
def echoOf (rows : List DigestRow) (observationId : Name) : Option (Option Text) :=
  (rows.reverse.find? (·.1 = observationId)).map (·.2.2)

/-- `left_echo == right_echo`. -/
def SameEcho (left right : List DigestRow) : Prop :=
  ∀ row ∈ left ++ right, echoOf left row.1 = echoOf right row.1

instance decidableSameEcho (left right : List DigestRow) : Decidable (SameEcho left right) :=
  inferInstanceAs (Decidable (∀ row ∈ left ++ right, echoOf left row.1 = echoOf right row.1))

/-- `observation_ids` as a set. -/
def ResearchSnapshot.ids (snapshot : ResearchSnapshot) : Finset Name :=
  snapshot.observationIds.toFinset

/-- The cascade of conditions that leads to a category. -/
def changeCategory (leftIds rightIds : Finset Name) (left right : List DigestRow) :
    ChangeCategory :=
  if leftIds ≠ rightIds ∧ ¬ SameEcho left right then .behaviorChanged
  else if leftIds ⊂ rightIds then .added
  else if rightIds ⊂ leftIds then .removed
  else if ¬ SameEcho left right then .stateChanged
  else .modified

/-- The statements of the categories that the cascade leads to. -/
def changeStatement : ChangeCategory → String
  | .behaviorChanged =>
    "Diagnostic echo behavior changed between snapshot t1 and t2. This is not a security issue."
  | .added => "A diagnostic observation was added between snapshot t1 and t2."
  | .removed => "A diagnostic observation was removed between snapshot t1 and t2."
  | .stateChanged => "Diagnostic echoed state changed between snapshot t1 and t2."
  | _ => "Diagnostic snapshot members changed between t1 and t2."

def rejected (outcome : ChangeOutcome) (reason : String) : ChangeDecision :=
  ⟨outcome, [reason], none⟩

/-- `compare_diagnostic_snapshots`. -/
def compareDiagnosticSnapshots (baseline variant : ResearchSnapshot)
    (views : List TargetObservationView) (changeEventId : Text) :
    Except String ChangeDecision :=
  if baseline.programId ≠ variant.programId then
    .ok (rejected .rejectedCrossProgram "CROSS_PROGRAM_SNAPSHOT")
  else if baseline.researchRunId ≠ variant.researchRunId then
    .ok (rejected .rejectedCrossRun "CROSS_RUN_SNAPSHOT")
  else if baseline.targetIdentity ≠ variant.targetIdentity then
    .ok (rejected .rejectedIncompatibleTarget "TARGET_IDENTITY_MISMATCH")
  else if baseline.strategyVersion ≠ variant.strategyVersion then
    .ok (rejected .rejectedIncompatibleStrategy "STRATEGY_VERSION_MISMATCH")
  else if variant.capturedAt ≤ baseline.capturedAt then
    .ok (rejected .rejectedUnordered "VARIANT_NOT_AFTER_BASELINE")
  else if ∃ id ∈ baseline.observationIds ++ variant.observationIds, viewById views id = none then
    .ok (rejected .rejectedMissingSource "HALLUCINATED_OBSERVATION")
  else if digest baseline views = digest variant views then
    .ok ⟨.equivalentNoChange, ["NO_MATERIAL_CHANGE", "NOT_A_VULNERABILITY"], none⟩
  else
    let category := changeCategory baseline.ids variant.ids (digest baseline views)
      (digest variant views)
    (requireText changeEventId "change_event_id").map fun changeEventId =>
      ⟨.compared, ["DETERMINISTIC_DIAGNOSTIC_DELTA", "NOT_A_VULNERABILITY"], some {
        changeEventId := changeEventId
        researchRunId := baseline.researchRunId
        baselineSnapshotId := baseline.snapshotId
        variantSnapshotId := variant.snapshotId
        category := category
        statement := changeStatement category
        sourceRefs := baseline.observationIds ++ variant.observationIds
        strategyVersion := "temporal.diagnostic.echo.v1" }⟩

/-! ## What is decided -/

/-- Two ordered snapshots of one program, run, target and strategy, whose
observations all resolve. -/
structure Comparable (baseline variant : ResearchSnapshot) (views : List TargetObservationView) :
    Prop where
  program : baseline.programId = variant.programId
  run : baseline.researchRunId = variant.researchRunId
  target : baseline.targetIdentity = variant.targetIdentity
  strategy : baseline.strategyVersion = variant.strategyVersion
  ordered : baseline.capturedAt < variant.capturedAt
  resolved : ∀ id ∈ baseline.observationIds ++ variant.observationIds, viewById views id ≠ none

/-- The outcome of a comparison, and the category of its event. -/
def verdict (baseline variant : ResearchSnapshot) (views : List TargetObservationView)
    (changeEventId : Text) : Option (ChangeOutcome × Option ChangeCategory) :=
  (compareDiagnosticSnapshots baseline variant views changeEventId).toOption.map fun decision =>
    (decision.outcome, decision.changeEvent.map (·.category))

/-- The category of the event of a comparison. -/
def categoryOf (baseline variant : ResearchSnapshot) (views : List TargetObservationView)
    (changeEventId : Text) : Option ChangeCategory :=
  (verdict baseline variant views changeEventId).bind (·.2)

/-- What a category becomes when the snapshots are exchanged. -/
def ChangeCategory.reversed : ChangeCategory → ChangeCategory
  | .added => .removed
  | .removed => .added
  | category => category

section Verdicts

variable {baseline variant : ResearchSnapshot} {views : List TargetObservationView}
  {changeEventId : Text}

theorem digestRow_fst (id : Name) : (digestRow views id).1 = id := by
  unfold digestRow
  split <;> rfl

theorem map_fst_digest : (digest baseline views).map (·.1) = baseline.observationIds := by
  rw [digest, List.map_map]
  conv_rhs => rw [← List.map_id baseline.observationIds]
  exact List.map_congr_left fun id _ => digestRow_fst id

/-- A digest names the observations in their order, so it is as good as them. -/
theorem digest_eq_iff :
    digest baseline views = digest variant views ↔
      baseline.observationIds = variant.observationIds := by
  constructor
  · intro h
    rw [← @map_fst_digest baseline views, h, map_fst_digest]
  · intro h
    rw [digest, digest, h]

theorem echoOf_ne_none {rows : List DigestRow} {id : Name} :
    echoOf rows id ≠ none ↔ id ∈ rows.map (·.1) := by
  rw [echoOf, ne_eq, Option.map_eq_none_iff, List.find?_eq_none, List.mem_map]
  simp only [List.mem_reverse, decide_eq_true_eq, not_forall, not_not, exists_prop]

/-- Echo maps are the same only for the same observations. -/
theorem ids_eq_of_sameEcho (h : SameEcho (digest baseline views) (digest variant views)) :
    baseline.ids = variant.ids := by
  have hkeys : ∀ id ∈ baseline.observationIds ++ variant.observationIds,
      echoOf (digest baseline views) id = echoOf (digest variant views) id := by
    intro id hid
    rw [← @map_fst_digest baseline views, ← @map_fst_digest variant views, ← List.map_append] at hid
    obtain ⟨row, hrow, rfl⟩ := List.mem_map.mp hid
    exact h row hrow
  have hmem : ∀ (snapshot : ResearchSnapshot) (id : Name),
      echoOf (digest snapshot views) id ≠ none ↔ id ∈ snapshot.ids := by
    intro snapshot id
    rw [echoOf_ne_none, map_fst_digest, ResearchSnapshot.ids, List.mem_toFinset]
  ext id
  constructor
  · intro hid
    rw [← hmem, ← hkeys id (List.mem_append_left _ (List.mem_toFinset.mp hid)), hmem]
    exact hid
  · intro hid
    rw [← hmem, hkeys id (List.mem_append_right _ (List.mem_toFinset.mp hid)), hmem]
    exact hid

/-- **Different sets of observations are a change of behaviour**, whichever of
them contains the other. -/
theorem changeCategory_of_ne (h : baseline.ids ≠ variant.ids) :
    changeCategory baseline.ids variant.ids (digest baseline views) (digest variant views) =
      .behaviorChanged := by
  rw [changeCategory, if_pos ⟨h, fun hsame => h (ids_eq_of_sameEcho hsame)⟩]

theorem verdict_eq (h : Comparable baseline variant views) (hid : changeEventId.strip ≠ []) :
    verdict baseline variant views changeEventId =
      some (if baseline.observationIds = variant.observationIds then (.equivalentNoChange, none)
        else (.compared, some (changeCategory baseline.ids variant.ids (digest baseline views)
          (digest variant views)))) := by
  have hresolved : ¬ ∃ id ∈ baseline.observationIds ++ variant.observationIds,
      viewById views id = none := fun ⟨id, hmem, hnone⟩ => h.resolved id hmem hnone
  rw [verdict, compareDiagnosticSnapshots, if_neg (not_not.mpr h.program),
    if_neg (not_not.mpr h.run), if_neg (not_not.mpr h.target), if_neg (not_not.mpr h.strategy),
    if_neg (not_le.mpr h.ordered), if_neg hresolved]
  by_cases hids : baseline.observationIds = variant.observationIds
  · rw [if_pos (digest_eq_iff.mpr hids), if_pos hids]
    rfl
  · rw [if_neg (mt digest_eq_iff.mp hids), if_neg hids]
    simp only [requireText, dif_neg hid]
    rfl

theorem verdict_of_ne (h : Comparable baseline variant views) (hid : changeEventId.strip ≠ [])
    (hne : baseline.ids ≠ variant.ids) :
    verdict baseline variant views changeEventId = some (.compared, some .behaviorChanged) := by
  have hids : baseline.observationIds ≠ variant.observationIds := by
    intro heq
    rw [ResearchSnapshot.ids, ResearchSnapshot.ids, heq] at hne
    exact hne rfl
  rw [verdict_eq h hid, if_neg hids, changeCategory_of_ne hne]

end Verdicts

/-! ## Deltas by content -/

/-- The same snapshot, with its observations named otherwise. -/
def ResearchSnapshot.naming (snapshot : ResearchSnapshot) (observationIds : List Name)
    (h : observationIds ≠ []) : ResearchSnapshot :=
  { snapshot with observationIds := observationIds, nonempty := h }

/-- The same snapshot, taken at another time. -/
def ResearchSnapshot.takenAt (snapshot : ResearchSnapshot) (capturedAt : Instant) :
    ResearchSnapshot := { snapshot with capturedAt := capturedAt }

/-- The delta of two snapshots goes by the sets of observations that they cite. -/
structure ByContent (baseline variant : ResearchSnapshot) (views : List TargetObservationView)
    (changeEventId : Text) : Prop where
  equivalent : (verdict baseline variant views changeEventId).map (·.1) =
    some .equivalentNoChange ↔ baseline.ids = variant.ids
  added : categoryOf baseline variant views changeEventId = some .added ↔
    baseline.ids ⊂ variant.ids
  removed : categoryOf baseline variant views changeEventId = some .removed ↔
    variant.ids ⊂ baseline.ids
  /-- The observations may be named in another order, or more than once. -/
  order : ∀ (left right : List Name) (hleft : left ≠ []) (hright : right ≠ []),
    left.toFinset = baseline.ids → right.toFinset = variant.ids →
    verdict (baseline.naming left hleft) (variant.naming right hright) views changeEventId =
      verdict baseline variant views changeEventId
  /-- The snapshots may change places, with their times. -/
  exchange : verdict (variant.takenAt baseline.capturedAt) (baseline.takenAt variant.capturedAt)
      views changeEventId =
    (verdict baseline variant views changeEventId).map fun result =>
      (result.1, result.2.map ChangeCategory.reversed)

section Content

variable {baseline variant : ResearchSnapshot} {views : List TargetObservationView}
  {changeEventId : Text}

theorem Comparable.naming (h : Comparable baseline variant views) {left right : List Name}
    (hleft : left ≠ []) (hright : right ≠ []) (hsame : left.toFinset = baseline.ids)
    (hsame' : right.toFinset = variant.ids) :
    Comparable (baseline.naming left hleft) (variant.naming right hright) views where
  program := h.program
  run := h.run
  target := h.target
  strategy := h.strategy
  ordered := h.ordered
  resolved id hid := by
    refine h.resolved id (List.mem_append.mpr ?_)
    rcases List.mem_append.mp hid with hid | hid
    · exact .inl (List.mem_toFinset.mp (hsame.le (List.mem_toFinset.mpr hid)))
    · exact .inr (List.mem_toFinset.mp (hsame'.le (List.mem_toFinset.mpr hid)))

theorem Comparable.exchanged (h : Comparable baseline variant views) :
    Comparable (variant.takenAt baseline.capturedAt) (baseline.takenAt variant.capturedAt)
      views where
  program := h.program.symm
  run := h.run.symm
  target := h.target.symm
  strategy := h.strategy.symm
  ordered := h.ordered
  resolved id hid := h.resolved id (List.mem_append.mpr (List.mem_append.mp hid).symm)

/-- Snapshots of one set of observations: one of them can name an observation twice. -/
theorem ByContent.ids_ne (h : Comparable baseline variant views) (hid : changeEventId.strip ≠ [])
    (hcontent : ByContent baseline variant views changeEventId) :
    baseline.ids ≠ variant.ids := by
  intro hsame
  obtain ⟨first, hfirst⟩ := List.exists_mem_of_ne_nil _ baseline.nonempty
  have hequivalent := hcontent.equivalent.mpr hsame
  have hids : baseline.observationIds = variant.observationIds := by
    by_contra hne
    rw [verdict_eq h hid, if_neg hne] at hequivalent
    cases hequivalent
  have hrepeated : (first :: baseline.observationIds).toFinset = baseline.ids := by
    rw [List.toFinset_cons, Finset.insert_eq_of_mem (List.mem_toFinset.mpr hfirst)]
    rfl
  have horder := hcontent.order (first :: baseline.observationIds) variant.observationIds
    (List.cons_ne_nil _ _) variant.nonempty hrepeated rfl
  have hne : first :: baseline.observationIds ≠ variant.observationIds := by
    intro heq
    have hlength := congrArg List.length heq
    rw [List.length_cons, hids] at hlength
    omega
  rw [← horder, verdict_eq (h.naming _ _ hrepeated rfl) hid] at hequivalent
  change (some (if first :: baseline.observationIds = variant.observationIds then _ else _)).map _
    = _ at hequivalent
  rw [if_neg hne] at hequivalent
  cases hequivalent

/-- **The delta goes by the observations when neither snapshot cites all that the
other one cites.**  A set that has grown or shrunk is a change of behaviour, like
any other pair of different sets. -/
theorem temporal_delta_iff (baseline variant : ResearchSnapshot)
    (views : List TargetObservationView) (changeEventId : Text)
    (h : Comparable baseline variant views) (hid : changeEventId.strip ≠ []) :
    ByContent baseline variant views changeEventId ↔
      ¬ baseline.ids ⊆ variant.ids ∧ ¬ variant.ids ⊆ baseline.ids := by
  constructor
  · intro hcontent
    have hne := hcontent.ids_ne h hid
    have hcategory : categoryOf baseline variant views changeEventId = some .behaviorChanged := by
      rw [categoryOf, verdict_of_ne h hid hne]
      rfl
    constructor
    · intro hsub
      have hadded := hcontent.added.mpr (hsub.ssubset_of_ne hne)
      rw [hcategory] at hadded
      cases hadded
    · intro hsub
      have hremoved := hcontent.removed.mpr (hsub.ssubset_of_ne hne.symm)
      rw [hcategory] at hremoved
      cases hremoved
  · rintro ⟨hleft, hright⟩
    have hne : baseline.ids ≠ variant.ids := fun heq => hleft heq.le
    have hverdict := verdict_of_ne h hid hne
    refine ⟨?_, ?_, ?_, fun left right hl hr hsame hsame' => ?_, ?_⟩
    · rw [hverdict]
      exact iff_of_false (by simp) hne
    · rw [categoryOf, hverdict]
      exact iff_of_false (by simp) fun hsub => hleft hsub.subset
    · rw [categoryOf, hverdict]
      exact iff_of_false (by simp) fun hsub => hright hsub.subset
    · have hnamed : (baseline.naming left hl).ids ≠ (variant.naming right hr).ids := by
        change left.toFinset ≠ right.toFinset
        rw [hsame, hsame']
        exact hne
      rw [verdict_of_ne (h.naming hl hr hsame hsame') hid hnamed, hverdict]
    · rw [verdict_of_ne h.exchanged hid hne.symm, hverdict]
      rfl

end Content

/-! ## A snapshot that has grown -/

def labView (id : Name) : TargetObservationView where
  observationId := id
  researchRunId := ⟨['r'], by decide⟩
  payload := []
  submittedInput := none

def labSnapshot (observationIds : List Name) (h : observationIds ≠ []) (capturedAt : Instant) :
    ResearchSnapshot where
  snapshotId := ⟨['s'], by decide⟩
  researchRunId := ⟨['r'], by decide⟩
  programId := ⟨['p'], by decide⟩
  targetIdentity := ⟨['t'], by decide⟩
  observationIds := observationIds
  capturedAt := capturedAt
  strategyVersion := ⟨['v'], by decide⟩
  nonempty := h

theorem a_named : ['a'] ≠ [] ∧ Text.strip ['a'] = ['a'] := by
  decide

theorem b_named : ['b'] ≠ [] ∧ Text.strip ['b'] = ['b'] := by
  decide

def labViews : List TargetObservationView :=
  [labView ⟨['a'], a_named⟩, labView ⟨['b'], b_named⟩]

theorem lab_comparable {left right : List Name} {hleft : left ≠ []} {hright : right ≠ []}
    (h : ∀ id ∈ left ++ right, viewById labViews id ≠ none) :
    Comparable (labSnapshot left hleft 0) (labSnapshot right hright 1) labViews where
  program := rfl
  run := rfl
  target := rfl
  strategy := rfl
  ordered := Int.one_pos
  resolved := h

theorem temporal_delta_iff_lab :
    ByContent (labSnapshot [⟨['a'], by decide⟩] (by simp) 0)
      (labSnapshot [⟨['b'], by decide⟩] (by simp) 1) labViews ['c'] := by
  refine (temporal_delta_iff (labSnapshot [⟨['a'], by decide⟩] (by simp) 0)
    (labSnapshot [⟨['b'], by decide⟩] (by simp) 1) labViews ['c'] (lab_comparable ?_)
    (by decide)).mpr ⟨by decide, by decide⟩
  decide

/-- An observation that has been added is called a change of behaviour. -/
theorem grown_snapshot_not_added :
    ¬ ∀ (baseline variant : ResearchSnapshot) (views : List TargetObservationView)
      (changeEventId : Text), Comparable baseline variant views → changeEventId.strip ≠ [] →
      ByContent baseline variant views changeEventId := by
  intro h
  have hcontent := h (labSnapshot [⟨['a'], by decide⟩] (by simp) 0)
    (labSnapshot [⟨['a'], by decide⟩, ⟨['b'], by decide⟩] (by simp) 1) labViews ['c']
    (lab_comparable (by decide)) (by decide)
  have hadded := hcontent.added.mpr (by decide)
  revert hadded
  decide

end Zest.Temporal

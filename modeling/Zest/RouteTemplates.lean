import Mathlib.Data.Char
import Mathlib.Data.List.Lex
import Mathlib.Data.List.Dedup
import Mathlib.Data.List.Sort
import Zest.DiscoveryFacts
import Zest.KeyedList
import Zest.SeparatorJoin
import Zest.SurfaceGraph

/-! # Route templates

Three exact paths of one origin and method that differ in one segment, where
each of them has a number or a UUID, are instances of a route.  The template is
an inference, never an observation.

The paths come from facts, and a path that does not start with a slash makes the
whole admission raise.
-/
namespace Zest.Discovery

/-! ## Segments -/

/-- A path without the slash at its start, and without the one at its end. -/
def withoutSlashes (normalizedPath : Text) : Text :=
  let stripped : Text := normalizedPath.tail
  if stripped.endsWith ['/'] then stripped.dropLast else stripped

/-- `path_segments`. -/
def pathSegments (normalizedPath : Text) : Except String (List Text) :=
  if normalizedPath.startsWith ['/'] = false then .error "normalized_path must start with /"
  else if normalizedPath = ['/'] then .ok []
  else if withoutSlashes normalizedPath = [] then .ok []
  else .ok ((withoutSlashes normalizedPath).splitOn '/')

/-- `UUID_SEGMENT_RE`. -/
def isUuid (segment : Text) : Bool :=
  (segment.splitOn '-').map List.length = [8, 4, 4, 4, 12] &&
    segment.all fun c => c = '-' || Text.isHex c

/-- `instance_token_from_segment`. -/
def instanceTokenFromSegment (segment : Text) : Option Text :=
  if segment.isDecimal || isUuid segment then some segment else none

inductive Placeholder where
  | decimal
  | uuid
  deriving DecidableEq, Repr

def Placeholder.text : Placeholder → Text
  | .decimal => "\x7bn\x7d".toList
  | .uuid => "\x7buuid\x7d".toList

/-- `_placeholder_for`. -/
def placeholderFor (segment : Text) : Option Placeholder :=
  if segment.isDecimal then some .decimal
  else if isUuid segment then some .uuid
  else none

/-- The segments of a path joined again. -/
def joinSegments (segments : List Text) : Text := '/' :: ['/'].intercalate segments

/-! ## Templates -/

def minTemplatePaths : Nat := 3

structure RouteTemplateAdmission where
  origin : Text
  httpMethod : Text
  templatePath : Text
  exactPaths : List Text
  varyingIndex : Nat
  tokenKind : Placeholder
  deriving DecidableEq, Repr

/-- The indices at which the paths differ. -/
def differing (first : List Text) (segmented : List (List Text)) : List Nat :=
  (List.range first.length).filter fun index =>
    segmented.any fun item => item[index]? ≠ first[index]?

/-- The template of paths of one length that differ at one index, where they
have placeholders of one kind.  What is before and after this index is then the
same in all of them. -/
def templateOf (origin httpMethod : Text) (distinct : List Text) :
    List (List Text) → Option RouteTemplateAdmission
  | [] => none
  | first :: others =>
    if first = [] ∨ others.any fun item => item.length ≠ first.length then none
    else match differing first others with
      | [varying] =>
        match (first :: others).mapM fun item => item[varying]? >>= placeholderFor with
        | some (kind :: kinds) =>
          if kinds.all (· = kind) then
            some {
              origin, httpMethod, exactPaths := distinct
              varyingIndex := varying, tokenKind := kind
              templatePath := joinSegments (first.set varying kind.text) }
          else none
        | _ => none
      | _ => none

/-- `route_template_from_paths`. -/
def routeTemplateFromPaths (origin httpMethod : Text) (exactPaths : List Text) :
    Except String (Option RouteTemplateAdmission) :=
  if origin.strip = [] then .error "origin must be a non-empty string"
  else if httpMethod.strip = [] then .error "http_method must be a non-empty string"
  else
    let distinct := exactPaths.dedup.insertionSort (· ≤ ·)
    if distinct.length < minTemplatePaths then .ok none
    else do
      let segmented ← distinct.mapM pathSegments
      .ok (templateOf origin httpMethod distinct segmented)

/-- A segment, or the placeholder for it. -/
def generalized (segment : Text) : Text := ((placeholderFor segment).map (·.text)).getD segment

/-- `_template_family`. -/
def templateFamily (path : Text) : Except String (Option Text) := do
  let segments ← pathSegments path
  .ok (if segments.any fun segment => (placeholderFor segment).isSome then
    some (joinSegments (segments.map generalized)) else none)

/-- `setdefault(key, []).append(..)` on a group that is there. -/
def mergeGroups {κ α : Type} (old item : κ × List α) : κ × List α := (old.1, old.2 ++ item.2)

/-- Values collected under their keys, each in the order they came. -/
def grouped {κ α : Type} [DecidableEq κ] (entries : List (κ × α)) : List (κ × List α) :=
  KeyedList.collect Prod.fst mergeGroups (entries.map fun entry => (entry.1, [entry.2]))

/-- `admit_route_templates`. -/
def admitRouteTemplates (origin httpMethod : Text) (exactPaths : List Text) :
    Except String (List RouteTemplateAdmission) := do
  let families ← exactPaths.mapM fun path => do
    let family ← templateFamily path
    .ok (family, path)
  let admitted ← (grouped (families.filterMap fun entry => entry.1.map fun family =>
    (family, entry.2))).mapM fun group => routeTemplateFromPaths origin httpMethod group.2
  .ok (admitted.filterMap id)

/-! ## Inferences -/

structure RouteTemplateInference where
  canonicalKey : CanonicalKey
  identityId : Text
  sourceFactIds : List CanonicalKey
  templatePath : Text
  httpMethod : Text
  origin : Text
  exactPaths : List Text
  tokenKind : Placeholder
  deriving DecidableEq, Repr

/-- What the templates read of a fact about an exact path. -/
structure ExactPath where
  origin : Text
  httpMethod : Text
  path : Text
  factId : CanonicalKey
  deriving DecidableEq, Repr

/-- `fact.http_method or "GET"`. -/
def methodOrGet : Option Text → Text
  | none | some [] => "GET".toList
  | some method => method

/-- The fact, if it is about an exact path and says which. -/
def exactPathOf (fact : FactFields CanonicalKey) : Option ExactPath :=
  match fact.normalizedOrigin, fact.normalizedPath with
  | some origin, some path =>
    if fact.factKind = .exactPath ∧ origin ≠ [] ∧ path ≠ [] then
      some ⟨origin, methodOrGet fact.httpMethod, path, fact.canonicalKey⟩
    else none
  | _, _ => none

/-- `fact_ids_by_path`, of which the last fact of a path is left. -/
def factIdByPath (paths : List ExactPath) (origin httpMethod path : Text) :
    Except String CanonicalKey :=
  match (paths.filter fun item =>
      item.origin = origin ∧ item.httpMethod = httpMethod ∧ item.path = path).getLast? with
  | some item => .ok item.factId
  | none => .error "KeyError"

/-- The draft of an admitted template, with the facts that it comes from. -/
def templateDraft (paths : List ExactPath) (identityId : Text)
    (admission : RouteTemplateAdmission) : Except String RouteTemplateInference := do
  let sourceFactIds ← admission.exactPaths.mapM
    (factIdByPath paths admission.origin admission.httpMethod)
  let _ ← requireText identityId "identity_id"
  .ok {
    canonicalKey := .digest
      ["ROUTE_TEMPLATE".toList, admission.origin, admission.httpMethod, admission.templatePath]
    identityId := identityId.strip
    sourceFactIds := sourceFactIds
    templatePath := admission.templatePath
    httpMethod := admission.httpMethod
    origin := admission.origin
    exactPaths := admission.exactPaths
    tokenKind := admission.tokenKind }

/-- `route_template_drafts_from_facts`. -/
def routeTemplateDraftsFromFacts (facts : List (FactFields CanonicalKey)) (identityId : Text) :
    Except String (List RouteTemplateInference) := do
  let paths := facts.filterMap exactPathOf
  let drafts ← (grouped (paths.map fun item => ((item.origin, item.httpMethod), item.path))).mapM
    fun group => do
      let admissions ← admitRouteTemplates group.1.1 group.1.2 group.2
      admissions.mapM (templateDraft paths identityId)
  .ok drafts.flatten

/-- `admit_route_template_inferences`: a draft is admitted if it has three
paths; it is inferred, in one run, and has no forbidden attribute. -/
def admitRouteTemplateInferences (facts : List (FactFields CanonicalKey)) (identityId : Text) :
    Except String (List RouteTemplateInference) := do
  let drafts ← routeTemplateDraftsFromFacts facts identityId
  .ok (drafts.filter fun draft => minTemplatePaths ≤ draft.exactPaths.length)

/-! ## Admission goes through -/

theorem pathSegments_exists {path : Text} :
    (∃ segments, pathSegments path = .ok segments) ↔ path.startsWith ['/'] = true := by
  unfold pathSegments
  constructor
  · rintro ⟨segments, h⟩
    split at h
    · cases h
    next hslash => simpa using hslash
  · intro h
    rw [if_neg (by simp [h])]
    split
    · exact ⟨[], rfl⟩
    · split
      · exact ⟨[], rfl⟩
      · exact ⟨_, rfl⟩

/-- The segments of a path have no slash in them. -/
theorem slash_not_mem_of_pathSegments {path : Text} {segments : List Text}
    (h : pathSegments path = .ok segments) : ∀ segment ∈ segments, '/' ∉ segment := by
  unfold pathSegments at h
  intro segment hsegment
  split at h
  · cases h
  · split at h
    · cases h
      cases hsegment
    · split at h
      · cases h
        cases hsegment
      · cases h
        exact SeparatorJoin.not_mem_of_mem_splitOn hsegment

theorem templateFamily_exists {path : Text} (h : path.startsWith ['/'] = true) :
    ∃ family, templateFamily path = .ok family := by
  obtain ⟨segments, hsegments⟩ := pathSegments_exists.mpr h
  unfold templateFamily
  rw [hsegments]
  exact ⟨_, rfl⟩

theorem routeTemplateFromPaths_exists {origin httpMethod : Text} {exactPaths : List Text}
    (horigin : Nonblank origin) (hmethod : Nonblank httpMethod)
    (hpaths : ∀ path ∈ exactPaths, path.startsWith ['/'] = true) :
    ∃ admission, routeTemplateFromPaths origin httpMethod exactPaths = .ok admission := by
  unfold routeTemplateFromPaths
  rw [if_neg horigin, if_neg hmethod]
  dsimp only
  split
  · exact ⟨none, rfl⟩
  · have heach : ∀ path ∈ exactPaths.dedup.insertionSort (· ≤ ·),
        ∃ segments, pathSegments path = .ok segments := fun path hpath =>
      pathSegments_exists.mpr
        (hpaths path (List.mem_dedup.mp ((List.mem_insertionSort _).mp hpath)))
    obtain ⟨segmented, hsegmented⟩ := mapM_eq_ok_of_forall heach
    rw [hsegmented]
    exact ⟨_, rfl⟩

/-- A group has what was entered under its key. -/
theorem mem_of_grouped {κ α : Type} [DecidableEq κ] {entries : List (κ × α)}
    {group : κ × List α} (h : group ∈ grouped entries) {value : α} (hvalue : value ∈ group.2) :
    (group.1, value) ∈ entries := by
  refine KeyedList.forall_collect (P := fun group => ∀ value ∈ group.2, (group.1, value) ∈ entries)
    ?_ ?_ group h value hvalue
  · intro item hitem value hvalue
    obtain ⟨entry, hentry, rfl⟩ := List.mem_map.mp hitem
    rw [List.mem_singleton.mp hvalue]
    exact hentry
  · intro old item hkey hold hitem value hvalue
    rcases List.mem_append.mp hvalue with hvalue | hvalue
    · exact hold value hvalue
    · show (old.1, value) ∈ entries
      rw [hkey]
      exact hitem value hvalue

/-- The groups have keys of their own. -/
theorem nodup_grouped {κ α : Type} [DecidableEq κ] (entries : List (κ × α)) :
    ((grouped entries).map Prod.fst).Nodup :=
  KeyedList.nodup_collect (show KeyedList.KeepsKey Prod.fst mergeGroups from fun _ _ _ => rfl) _

theorem templateOf_eq_some {origin httpMethod : Text} {distinct : List Text}
    {segmented : List (List Text)} {admission : RouteTemplateAdmission}
    (h : templateOf origin httpMethod distinct segmented = some admission) :
    ∃ first others varying kind, segmented = first :: others ∧
      (first[varying]? >>= placeholderFor) = some kind ∧
      admission = ⟨origin, httpMethod, joinSegments (first.set varying kind.text), distinct,
        varying, kind⟩ := by
  unfold templateOf at h
  split at h
  next => cases h
  next first others =>
    split at h
    next => cases h
    next =>
      split at h
      next varying hvarying =>
        split at h
        next kind kinds hkinds =>
          split at h
          next =>
            cases h
            refine ⟨first, others, varying, kind, rfl, ?_, rfl⟩
            rw [List.mapM_cons] at hkinds
            cases hfirst : first[varying]? >>= placeholderFor with
            | none =>
              rw [hfirst] at hkinds
              cases hkinds
            | some found =>
              rw [hfirst] at hkinds
              cases hothers : others.mapM fun item => item[varying]? >>= placeholderFor with
              | none =>
                rw [hothers] at hkinds
                cases hkinds
              | some more =>
                rw [hothers] at hkinds
                cases hkinds
                rfl
          next => cases h
        next => cases h
      next => cases h

/-- What an admitted template says of the paths it was admitted from. -/
structure RouteTemplateAdmission.From (admission : RouteTemplateAdmission)
    (fromOrigin method : Text) (paths : List Text) : Prop where
  origin : admission.origin = fromOrigin
  httpMethod : admission.httpMethod = method
  among : ∀ path ∈ admission.exactPaths, path ∈ paths
  template : ∃ path ∈ paths, ∃ segments varying kind, pathSegments path = .ok segments ∧
    (segments[varying]? >>= placeholderFor) = some kind ∧
      admission.templatePath = joinSegments (segments.set varying kind.text)

theorem routeTemplateFromPaths_eq_ok {origin httpMethod : Text} {exactPaths : List Text}
    {admission : RouteTemplateAdmission}
    (h : routeTemplateFromPaths origin httpMethod exactPaths = .ok (some admission)) :
    admission.From origin httpMethod exactPaths := by
  have hmem : ∀ path ∈ exactPaths.dedup.insertionSort (· ≤ ·), path ∈ exactPaths :=
    fun path hpath => List.mem_dedup.mp ((List.mem_insertionSort _).mp hpath)
  unfold routeTemplateFromPaths at h
  split at h
  · cases h
  · split at h
    · cases h
    · dsimp only at h
      split at h
      · cases h
      · obtain ⟨segmented, hsegmented, htemplate⟩ := bind_eq_ok h
        obtain ⟨first, others, varying, kind, rfl, hkind, rfl⟩ :=
          templateOf_eq_some (Except.ok.inj htemplate)
        obtain ⟨path, hpath, hsegments⟩ := mem_of_mapM_eq_ok hsegmented List.mem_cons_self
        exact ⟨rfl, rfl, hmem, path, hmem path hpath, first, varying, kind, hsegments, hkind, rfl⟩

/-! ## The family of a template -/

/-- A path with a placeholder for each token in it. -/
def generalizedPath (path : Text) : Text :=
  joinSegments ((path.tail.splitOn '/').map generalized)

theorem generalized_text (kind : Placeholder) : generalized kind.text = kind.text := by
  cases kind <;> rfl

theorem slash_not_mem_text (kind : Placeholder) : '/' ∉ kind.text := by
  cases kind <;> decide

theorem generalizedPath_joinSegments {segments : List Text} (hne : segments ≠ [])
    (hslash : ∀ segment ∈ segments, '/' ∉ segment) :
    generalizedPath (joinSegments segments) = joinSegments (segments.map generalized) := by
  unfold generalizedPath joinSegments
  rw [List.tail_cons, List.splitOn_intercalate '/' hslash hne]

/-- **A template has the family** of the paths it was admitted from. -/
theorem RouteTemplateAdmission.From.family {admission : RouteTemplateAdmission}
    {origin httpMethod family : Text} {exactPaths : List Text}
    (h : admission.From origin httpMethod exactPaths)
    (hfamily : ∀ path ∈ exactPaths, templateFamily path = .ok (some family)) :
    generalizedPath admission.templatePath = family := by
  obtain ⟨path, hpath, segments, varying, kind, hsegments, hkind, htemplate⟩ := h.template
  have hof := hfamily path hpath
  unfold templateFamily at hof
  rw [hsegments] at hof
  have hjoined : joinSegments (segments.map generalized) = family := by
    change Except.ok (if _ then _ else _) = Except.ok _ at hof
    split at hof
    · exact Option.some.inj (Except.ok.inj hof)
    · cases Except.ok.inj hof
  obtain ⟨segment, hsegment⟩ : ∃ segment, segments[varying]? = some segment := by
    cases hat : segments[varying]? with
    | none => rw [hat] at hkind; cases hkind
    | some segment => exact ⟨segment, rfl⟩
  have hplaceholder : generalized segment = kind.text := by
    rw [hsegment] at hkind
    show ((placeholderFor segment).map (·.text)).getD segment = _
    rw [show placeholderFor segment = some kind from hkind]
    rfl
  obtain ⟨hlt, hget⟩ := List.getElem?_eq_some_iff.mp hsegment
  have hslash : ∀ part ∈ segments.set varying kind.text, '/' ∉ part := by
    intro part hpart
    rcases List.mem_or_eq_of_mem_set hpart with hpart | rfl
    · exact slash_not_mem_of_pathSegments hsegments part hpart
    · exact slash_not_mem_text kind
  have hne : segments.set varying kind.text ≠ [] := by
    intro hnil
    have hlength := congrArg List.length hnil
    rw [List.length_set] at hlength
    exact absurd hlt (by rw [hlength]; exact Nat.not_lt_zero _)
  rw [htemplate, generalizedPath_joinSegments hne hslash, ← hjoined, List.map_set,
    generalized_text, ← hplaceholder, ← hget, ← List.getElem_map generalized, List.set_getElem_self]
  rw [List.length_map]
  exact hlt

/-! ## The whole admission -/

theorem templateFamily_loop {exactPaths : List Text}
    (hpaths : ∀ path ∈ exactPaths, path.startsWith ['/'] = true) :
    ∃ families, (exactPaths.mapM fun path => do
      let family ← templateFamily path
      .ok (family, path)) = Except.ok families := by
  refine mapM_eq_ok_of_forall fun path hpath => ?_
  obtain ⟨family, hfamily⟩ := templateFamily_exists (hpaths path hpath)
  rw [hfamily]
  exact ⟨_, rfl⟩

/-- The paths of a group are of its family. -/
theorem family_of_grouped {exactPaths : List Text} {families : List (Option Text × Text)}
    (hfamilies : (exactPaths.mapM fun path => do
      let family ← templateFamily path
      .ok (family, path)) = Except.ok families) {group : Text × List Text}
    (hgroup : group ∈ grouped (families.filterMap fun entry => entry.1.map fun family =>
      (family, entry.2))) {path : Text} (hpath : path ∈ group.2) :
    path ∈ exactPaths ∧ templateFamily path = .ok (some group.1) := by
  obtain ⟨entry, hentry, hsome⟩ := List.mem_filterMap.mp (mem_of_grouped hgroup hpath)
  obtain ⟨given, hgiven, hmade⟩ := mem_of_mapM_eq_ok hfamilies hentry
  obtain ⟨family, hfamily, hmade⟩ := bind_eq_ok hmade
  cases hmade
  cases family with
  | none => cases hsome
  | some family =>
    cases hsome
    exact ⟨hgiven, hfamily⟩

theorem admitRouteTemplates_exists {origin httpMethod : Text} {exactPaths : List Text}
    (horigin : Nonblank origin) (hmethod : Nonblank httpMethod)
    (hpaths : ∀ path ∈ exactPaths, path.startsWith ['/'] = true) :
    ∃ admissions, admitRouteTemplates origin httpMethod exactPaths = .ok admissions := by
  obtain ⟨families, hfamilies⟩ := templateFamily_loop hpaths
  have heach : ∀ group ∈ grouped (families.filterMap fun entry => entry.1.map fun family =>
        (family, entry.2)),
      ∃ admission, routeTemplateFromPaths origin httpMethod group.2 = .ok admission :=
    fun group hgroup => routeTemplateFromPaths_exists horigin hmethod fun path hpath =>
      hpaths path (family_of_grouped hfamilies hgroup hpath).1
  obtain ⟨admitted, hadmitted⟩ := mapM_eq_ok_of_forall heach
  refine ⟨admitted.filterMap id, ?_⟩
  unfold admitRouteTemplates
  rw [hfamilies, ok_bind, hadmitted, ok_bind]

/-- **Each family** has one template at most, and no two have the same. -/
theorem admitRouteTemplates_eq_ok {origin httpMethod : Text} {exactPaths : List Text}
    {admissions : List RouteTemplateAdmission}
    (h : admitRouteTemplates origin httpMethod exactPaths = .ok admissions) :
    (∀ admission ∈ admissions, admission.From origin httpMethod exactPaths) ∧
      admissions.Pairwise fun a b => a.templatePath ≠ b.templatePath := by
  obtain ⟨families, hfamilies, h⟩ := bind_eq_ok h
  obtain ⟨admitted, hadmitted, h⟩ := bind_eq_ok h
  cases h
  have hgroups := nodup_grouped (families.filterMap fun entry => entry.1.map fun family =>
    (family, entry.2))
  rw [List.Nodup, List.pairwise_map] at hgroups
  constructor
  · intro admission hadmission
    obtain ⟨made, hmade, hsome⟩ := List.mem_filterMap.mp hadmission
    cases hsome
    obtain ⟨group, hgroup, hfrom⟩ := mem_of_mapM_eq_ok hadmitted hmade
    obtain ⟨horigin, hmethod, hamong, path, hpath, htemplate⟩ := routeTemplateFromPaths_eq_ok hfrom
    exact ⟨horigin, hmethod,
      fun path hpath => (family_of_grouped hfamilies hgroup (hamong path hpath)).1,
      path, (family_of_grouped hfamilies hgroup hpath).1, htemplate⟩
  · rw [List.pairwise_filterMap]
    refine pairwise_of_mapM_eq_ok hadmitted (List.Pairwise.and_mem.mp hgroups) ?_
    rintro group group' made made' ⟨hgroup, hgroup', hne⟩ hmade hmade' a rfl a' rfl hsame
    have hfamily := (routeTemplateFromPaths_eq_ok hmade).family fun path hpath =>
      (family_of_grouped hfamilies hgroup hpath).2
    have hfamily' := (routeTemplateFromPaths_eq_ok hmade').family fun path hpath =>
      (family_of_grouped hfamilies hgroup' hpath).2
    rw [hsame] at hfamily
    exact hne (hfamily.symm.trans hfamily')

theorem factIdByPath_exists {paths : List ExactPath} {item : ExactPath} (h : item ∈ paths) :
    ∃ factId, factIdByPath paths item.origin item.httpMethod item.path = .ok factId := by
  unfold factIdByPath
  split
  next => exact ⟨_, rfl⟩
  next hnone =>
    rw [List.getLast?_eq_none_iff] at hnone
    have hmem : item ∈ paths.filter fun other => other.origin = item.origin ∧
        other.httpMethod = item.httpMethod ∧ other.path = item.path :=
      List.mem_filter.mpr ⟨h, by simp⟩
    rw [hnone] at hmem
    cases hmem

theorem templateDraft_eq_ok {paths : List ExactPath} {identityId : Text}
    {admission : RouteTemplateAdmission} {draft : RouteTemplateInference}
    (h : templateDraft paths identityId admission = .ok draft) :
    draft.canonicalKey = .digest
      ["ROUTE_TEMPLATE".toList, admission.origin, admission.httpMethod, admission.templatePath] := by
  obtain ⟨sourceFactIds, -, h⟩ := bind_eq_ok h
  obtain ⟨-, -, h⟩ := bind_eq_ok h
  cases h
  rfl

/-- What the templates ask of a fact. -/
def ExactPath.Usable (item : ExactPath) : Prop :=
  Nonblank item.origin ∧ Nonblank item.httpMethod ∧ item.path.startsWith ['/'] = true

end Zest.Discovery

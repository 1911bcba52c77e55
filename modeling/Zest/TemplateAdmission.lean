import Mathlib.Data.Char
import Mathlib.Data.List.Lex
import Mathlib.Data.List.Dedup
import Mathlib.Data.List.Sort
import Zest.RouteTemplates

/-! # Which route templates are admitted

The paths are grouped into families, and a family is accepted or rejected as a
whole.  A family is accepted if its paths, three at least, agree in every segment
but one, in which each has a token.  The order of the paths is of no account, but
one more path of a family can be the one that does not agree.

A path with a slash at its end has the segments of the path without it, so that
two paths of a template can have the same token.
-/
namespace Zest.Discovery

/-! ## Segments -/

/-- The segments of a path that starts with a slash. -/
def segmentsOf (path : Text) : List Text :=
  if withoutSlashes path = [] then [] else (withoutSlashes path).splitOn '/'

theorem pathSegments_eq {path : Text} (h : path.startsWith ['/'] = true) :
    pathSegments path = .ok (segmentsOf path) := by
  unfold pathSegments segmentsOf
  rw [if_neg (by simp [h])]
  by_cases hroot : path = ['/']
  · subst hroot
    rfl
  · rw [if_neg hroot]
    split <;> rfl

theorem mapM_pathSegments {paths : List Text} (h : ∀ path ∈ paths, path.startsWith ['/'] = true) :
    paths.mapM pathSegments = .ok (paths.map segmentsOf) := by
  induction paths with
  | nil => rfl
  | cons path paths ih =>
    obtain ⟨hpath, hpaths⟩ := List.forall_mem_cons.mp h
    rw [List.mapM_cons, pathSegments_eq hpath, ok_bind, ih hpaths]
    rfl

theorem slash_not_mem_segmentsOf {path segment : Text} (h : segment ∈ segmentsOf path) :
    '/' ∉ segment := by
  unfold segmentsOf at h
  split at h
  · cases h
  · exact SeparatorJoin.not_mem_of_mem_splitOn h

/-- The segments say what a path is, up to a slash at its end. -/
theorem withoutSlashes_of_segmentsOf {path other : Text} (h : segmentsOf path = segmentsOf other) :
    withoutSlashes path = withoutSlashes other := by
  unfold segmentsOf at h
  by_cases hpath : withoutSlashes path = []
  · by_cases hother : withoutSlashes other = []
    · rw [hpath, hother]
    · rw [if_pos hpath, if_neg hother] at h
      exact absurd h.symm (List.splitOn_ne_nil _ _)
  · by_cases hother : withoutSlashes other = []
    · rw [if_neg hpath, if_pos hother] at h
      exact absurd h (List.splitOn_ne_nil _ _)
    · rw [if_neg hpath, if_neg hother] at h
      calc withoutSlashes path
          = ['/'].intercalate ((withoutSlashes path).splitOn '/') :=
            (List.intercalate_splitOn '/').symm
        _ = ['/'].intercalate ((withoutSlashes other).splitOn '/') := by rw [h]
        _ = withoutSlashes other := List.intercalate_splitOn '/'

/-- Segments that are joined can be told apart. -/
theorem joinSegments_injective {segments others : List Text} (hne : segments ≠ [])
    (hne' : others ≠ []) (hslash : ∀ segment ∈ segments, '/' ∉ segment)
    (hslash' : ∀ segment ∈ others, '/' ∉ segment)
    (h : joinSegments segments = joinSegments others) : segments = others := by
  have hinner : ['/'].intercalate segments = ['/'].intercalate others := (List.cons.inj h).2
  rw [← List.splitOn_intercalate '/' hslash hne, hinner, List.splitOn_intercalate '/' hslash' hne']

/-! ## Paths that vary in one segment -/

/-- The token of a path at an index. -/
def tokenAt (segments : List Text) (index : Nat) : Option Placeholder :=
  segments[index]? >>= placeholderFor

/-- The paths agree with a template but at one index, where each has a token. -/
structure Varies (segmented : List (List Text)) (template : List Text) (varying : Nat)
    (kind : Placeholder) : Prop where
  agrees : ∀ item ∈ segmented, item.set varying kind.text = template
  token : ∀ item ∈ segmented, tokenAt item varying = some kind
  differ : ∃ item ∈ segmented, ∃ other ∈ segmented, item ≠ other

theorem lt_length_of_tokenAt {segments : List Text} {index : Nat} {kind : Placeholder}
    (h : tokenAt segments index = some kind) : index < segments.length := by
  by_contra hge
  have hnone : segments[index]? = none := List.getElem?_eq_none (Nat.not_lt.mp hge)
  rw [tokenAt, hnone] at h
  cases h

/-- Segments with a placeholder in one place agree in the others. -/
theorem set_eq_set_iff {segments others : List Text} {varying : Nat} {text : Text} :
    segments.set varying text = others.set varying text ↔
      segments.length = others.length ∧
        ∀ index, index ≠ varying → segments[index]? = others[index]? := by
  constructor
  · intro h
    refine ⟨by simpa using congrArg List.length h, fun index hindex => ?_⟩
    have hget := congrArg (·[index]?) h
    simpa [List.getElem?_set_ne (Ne.symm hindex)] using hget
  · rintro ⟨hlength, hget⟩
    refine List.ext_getElem? fun index => ?_
    by_cases hindex : index = varying
    · subst hindex
      rw [List.getElem?_set_self', List.getElem?_set_self']
      by_cases hlt : index < others.length
      · simp [List.getElem?_eq_getElem hlt, List.getElem?_eq_getElem (hlength ▸ hlt)]
      · simp [List.getElem?_eq_none (Nat.not_lt.mp hlt),
          List.getElem?_eq_none (hlength ▸ Nat.not_lt.mp hlt)]
    · rw [List.getElem?_set_ne (Ne.symm hindex), List.getElem?_set_ne (Ne.symm hindex),
        hget index hindex]

theorem filter_range_eq_singleton {n index : Nat} {p : Nat → Bool} :
    (List.range n).filter p = [index] ↔
      index < n ∧ ∀ i, i < n → (p i = true ↔ i = index) := by
  constructor
  · intro h
    have hmem : ∀ i, i ∈ (List.range n).filter p ↔ i = index := fun i => by
      rw [h, List.mem_singleton]
    refine ⟨List.mem_range.mp (List.mem_filter.mp ((hmem index).mpr rfl)).1, fun i hi => ?_⟩
    rw [← hmem i, List.mem_filter, List.mem_range]
    exact ⟨fun hp => ⟨hi, hp⟩, fun hp => hp.2⟩
  · rintro ⟨hlt, hiff⟩
    have hnodup := (List.nodup_range (n := n)).filter p
    refine List.perm_singleton.mp ((List.perm_ext_iff_of_nodup hnodup
      (List.nodup_singleton index)).mpr fun i => ?_)
    rw [List.mem_filter, List.mem_range, List.mem_singleton]
    constructor
    · rintro ⟨hi, hp⟩
      exact (hiff i hi).mp hp
    · rintro rfl
      exact ⟨hlt, (hiff i hlt).mpr rfl⟩

theorem mapM_eq_some_of_forall {α β : Type} {f : α → Option β} {items : List α} {b : β}
    (h : ∀ item ∈ items, f item = some b) :
    items.mapM f = some (items.map fun _ => b) := by
  induction items with
  | nil => rfl
  | cons item items ih =>
    obtain ⟨hitem, hitems⟩ := List.forall_mem_cons.mp h
    rw [List.mapM_cons, hitem, ih hitems]
    rfl

theorem forall_of_mapM_eq_some {α β : Type} {f : α → Option β} {items : List α} {made : List β}
    {b : β} (h : items.mapM f = some made) (hall : ∀ m ∈ made, m = b) :
    ∀ item ∈ items, f item = some b := by
  induction items generalizing made with
  | nil => simp
  | cons item items ih =>
    rw [List.mapM_cons] at h
    obtain ⟨first, hfirst, h⟩ := Option.bind_eq_some_iff.mp h
    obtain ⟨others, hothers, h⟩ := Option.bind_eq_some_iff.mp h
    cases h
    obtain ⟨hb, hall⟩ := List.forall_mem_cons.mp hall
    intro other hother
    rcases List.mem_cons.mp hother with rfl | hother
    · rw [hfirst, hb]
    · exact ih hothers hall other hother

variable {origin httpMethod : Text} {distinct : List Text} {segmented others : List (List Text)}
  {first template : List Text} {admission : RouteTemplateAdmission} {varying : Nat}
  {kind : Placeholder}

/-- Where one index is left, the paths agree in the others. -/
theorem agrees_of_differing (hlength : ∀ item ∈ others, item.length = first.length)
    (h : differing first others = [varying]) {item : List Text} (hitem : item ∈ others)
    {index : Nat} (hindex : index ≠ varying) : item[index]? = first[index]? := by
  obtain ⟨-, hiff⟩ := filter_range_eq_singleton.mp h
  by_cases hlt : index < first.length
  · by_contra hne
    refine hindex ((hiff index hlt).mp (List.any_eq_true.mpr ⟨item, hitem, ?_⟩))
    exact decide_eq_true hne
  · rw [List.getElem?_eq_none (Nat.not_lt.mp hlt),
      List.getElem?_eq_none (hlength item hitem ▸ Nat.not_lt.mp hlt)]

theorem varies_of_templateOf
    (h : templateOf origin httpMethod distinct (first :: others) = some admission) :
    ∃ template, Varies (first :: others) template admission.varyingIndex admission.tokenKind ∧
      admission = ⟨origin, httpMethod, joinSegments template, distinct, admission.varyingIndex,
        admission.tokenKind⟩ := by
  unfold templateOf at h
  dsimp only at h
  split at h
  next => cases h
  next hsame =>
    split at h
    next varying hvarying =>
      split at h
      next kind kinds hkinds =>
        split at h
        next hall =>
          cases h
          have hlength : ∀ item ∈ others, item.length = first.length := by
            simpa using (not_or.mp hsame).2
          refine ⟨first.set varying kind.text, ?_, rfl⟩
          constructor
          · intro item hitem
            rcases List.mem_cons.mp hitem with rfl | hitem
            · rfl
            · exact set_eq_set_iff.mpr ⟨hlength item hitem, fun index hindex =>
                agrees_of_differing hlength hvarying hitem hindex⟩
          · refine forall_of_mapM_eq_some hkinds fun other hother => ?_
            rcases List.mem_cons.mp hother with rfl | hother
            · rfl
            · exact of_decide_eq_true (List.all_eq_true.mp hall other hother)
          · obtain ⟨hlt, hiff⟩ := filter_range_eq_singleton.mp hvarying
            obtain ⟨item, hitem, hne⟩ := List.any_eq_true.mp ((hiff varying hlt).mpr rfl)
            refine ⟨item, List.mem_cons_of_mem _ hitem, first, List.mem_cons_self, ?_⟩
            rintro rfl
            simp at hne
        next => cases h
      next => cases h
    next => cases h

/-- Paths that vary at an index differ there. -/
theorem Varies.differing (h : Varies (first :: others) template varying kind) :
    differing first others = [varying] := by
  have hfirst := h.agrees first List.mem_cons_self
  have hagree : ∀ item ∈ others, item.length = first.length ∧
      ∀ index, index ≠ varying → item[index]? = first[index]? := fun item hitem =>
    set_eq_set_iff.mp ((h.agrees item (List.mem_cons_of_mem _ hitem)).trans hfirst.symm)
  refine filter_range_eq_singleton.mpr
    ⟨lt_length_of_tokenAt (h.token first List.mem_cons_self), fun index _ => ?_⟩
  rw [List.any_eq_true]
  constructor
  · rintro ⟨item, hitem, hne⟩
    by_contra hindex
    exact of_decide_eq_true hne ((hagree item hitem).2 index hindex)
  · rintro rfl
    -- Were they all as the first is at that index, they would be the first.
    by_contra hnone
    have hsame : ∀ item ∈ first :: others, item = first := by
      intro item hitem
      rcases List.mem_cons.mp hitem with rfl | hitem
      · rfl
      · refine List.ext_getElem? fun i => ?_
        by_cases hi : i = index
        · subst hi
          by_contra hne
          exact hnone ⟨item, hitem, decide_eq_true hne⟩
        · exact (hagree item hitem).2 i hi
    obtain ⟨item, hitem, other, hother, hne⟩ := h.differ
    exact hne ((hsame item hitem).trans (hsame other hother).symm)

theorem Varies.templateOf (h : Varies (first :: others) template varying kind) :
    templateOf origin httpMethod distinct (first :: others) =
      some ⟨origin, httpMethod, joinSegments template, distinct, varying, kind⟩ := by
  have hfirst := h.agrees first List.mem_cons_self
  have htoken := h.token first List.mem_cons_self
  have hlength : ∀ item ∈ others, item.length = first.length := fun item hitem =>
    (set_eq_set_iff.mp ((h.agrees item (List.mem_cons_of_mem _ hitem)).trans hfirst.symm)).1
  have hne : first ≠ [] := by
    rintro rfl
    exact absurd (lt_length_of_tokenAt htoken) (Nat.not_lt_zero _)
  have hkinds : (first :: others).mapM (fun item => item[varying]? >>= placeholderFor) =
      some (kind :: others.map fun _ => kind) := mapM_eq_some_of_forall h.token
  have hall : (others.map fun _ => kind).all (· = kind) = true := by simp
  unfold Discovery.templateOf
  dsimp only
  rw [if_neg (by simpa [hne] using hlength), h.differing]
  dsimp only
  rw [hkinds]
  dsimp only
  rw [if_pos hall, hfirst]

/-- **A template** is made of paths exactly when they vary in one segment. -/
theorem templateOf_eq_some_iff :
    templateOf origin httpMethod distinct segmented = some admission ↔
      ∃ template varying kind, Varies segmented template varying kind ∧
        admission =
          ⟨origin, httpMethod, joinSegments template, distinct, varying, kind⟩ := by
  cases segmented with
  | nil =>
    constructor
    · intro h
      cases h
    · rintro ⟨_, _, _, h, -⟩
      obtain ⟨_, hmem, -⟩ := h.differ
      cases hmem
  | cons first others =>
    constructor
    · intro h
      obtain ⟨template, hvaries, hadmission⟩ := varies_of_templateOf h
      exact ⟨template, _, _, hvaries, hadmission⟩
    · rintro ⟨template, varying, kind, h, rfl⟩
      exact h.templateOf

/-! ## Families -/

/-- The paths of a family. -/
def familyPaths (family : Text) (paths : List Text) : List Text :=
  paths.filter fun path => templateFamily path = .ok (some family)

theorem templateFamily_eq_ok {path family : Text} :
    templateFamily path = .ok (some family) ↔
      path.startsWith ['/'] = true ∧
        (∃ segment ∈ segmentsOf path, (placeholderFor segment).isSome = true) ∧
          joinSegments ((segmentsOf path).map generalized) = family := by
  unfold templateFamily
  by_cases hslash : path.startsWith ['/'] = true
  · rw [pathSegments_eq hslash, ok_bind]
    by_cases htoken : ((segmentsOf path).any fun segment => (placeholderFor segment).isSome) = true
    · rw [if_pos htoken]
      simp [hslash, List.any_eq_true.mp htoken]
    · rw [if_neg htoken]
      constructor
      · intro h
        cases h
      · rintro ⟨-, h, -⟩
        exact absurd (List.any_eq_true.mpr h) htoken
  · have hraises : ∀ segments, pathSegments path ≠ .ok segments := fun segments h =>
      hslash (pathSegments_exists.mp ⟨segments, h⟩)
    constructor
    · intro h
      obtain ⟨segments, hsegments, -⟩ := bind_eq_ok h
      exact absurd hsegments (hraises segments)
    · rintro ⟨h, -⟩
      exact absurd h hslash

/-- A group is what was entered under its key. -/
theorem grouped_eq {κ α : Type} [DecidableEq κ] {entries : List (κ × α)} {group : κ × List α}
    (h : group ∈ grouped entries) :
    group.2 = (entries.filter fun entry => entry.1 = group.1).map Prod.snd := by
  have hkeeps : KeyedList.KeepsKey Prod.fst (mergeGroups (κ := κ) (α := α)) := fun _ _ _ => rfl
  have hget := KeyedList.get_of_mem (nodup_grouped entries) h
  unfold grouped at hget
  rw [KeyedList.get_collect hkeeps, List.filter_map] at hget
  have hmerged : ∀ (entries : List (κ × α)) (start : κ × List α),
      ((entries.map fun entry => (entry.1, [entry.2])).foldl mergeGroups start).2 =
        start.2 ++ entries.map Prod.snd := by
    intro entries
    induction entries with
    | nil => simp
    | cons entry entries ih =>
      intro start
      rw [List.map_cons, List.foldl_cons, ih]
      simp [mergeGroups]
  have hsame : (entries.filter fun entry => entry.1 = group.1) =
      entries.filter ((fun item => decide (item.1 = group.1)) ∘ fun entry : κ × α =>
        (entry.1, [entry.2])) := rfl
  rw [hsame]
  cases hfound : entries.filter ((fun item => decide (item.1 = group.1)) ∘ fun entry : κ × α =>
      (entry.1, [entry.2])) with
  | nil =>
    rw [hfound] at hget
    cases hget
  | cons entry others =>
    rw [hfound] at hget
    rw [← Option.some.inj hget, hmerged]
    rfl

theorem exists_grouped {κ α : Type} [DecidableEq κ] {entries : List (κ × α)} {entry : κ × α}
    (h : entry ∈ entries) : ∃ group ∈ grouped entries, group.1 = entry.1 := by
  have hkeeps : KeyedList.KeepsKey Prod.fst (mergeGroups (κ := κ) (α := α)) := fun _ _ _ => rfl
  have hkey : entry.1 ∈ (grouped entries).map Prod.fst := by
    refine (KeyedList.mem_keys_collect hkeeps _ _).mpr ?_
    rw [List.map_map]
    exact List.mem_map_of_mem h
  exact List.mem_map.mp hkey

/-- The entries that `admit_route_templates` groups. -/
theorem families_eq {paths : List Text} {families : List (Option Text × Text)}
    (h : (paths.mapM fun path => do
      let family ← templateFamily path
      .ok (family, path)) = Except.ok families) (family : Text) :
    ((families.filterMap fun entry => entry.1.map fun family => (family, entry.2)).filter
      fun entry => entry.1 = family).map Prod.snd = familyPaths family paths := by
  induction paths generalizing families with
  | nil =>
    cases h
    rfl
  | cons path paths ih =>
    rw [List.mapM_cons] at h
    obtain ⟨first, hfirst, h⟩ := bind_eq_ok h
    obtain ⟨found, hfound, hfirst⟩ := bind_eq_ok hfirst
    cases hfirst
    obtain ⟨others, hothers, h⟩ := bind_eq_ok h
    cases h
    have hrest := ih hothers
    unfold familyPaths at hrest ⊢
    cases found with
    | none => simp [hfound, hrest]
    | some found =>
      by_cases hsame : found = family
      · subst hsame
        simp [hfound, hrest]
      · simp [hfound, hrest, hsame]

/-! ## What is admitted -/

/-- The template is admitted from the paths. -/
def Admits (origin httpMethod : Text) (paths : List Text) (admission : RouteTemplateAdmission) :
    Prop :=
  ∃ admissions, admitRouteTemplates origin httpMethod paths = .ok admissions ∧
    admission ∈ admissions

/-- What an admitted template rests on: the paths of a family, each once, that vary in
one segment. -/
structure RouteTemplateAdmission.RestsOn (admission : RouteTemplateAdmission)
    (fromOrigin method : Text) (paths : List Text) : Prop where
  origin : admission.origin = fromOrigin
  httpMethod : admission.httpMethod = method
  exactPaths : admission.exactPaths = paths.dedup.insertionSort (· ≤ ·)
  three : minTemplatePaths ≤ paths.dedup.length
  varies : ∃ template, admission.templatePath = joinSegments template ∧
    Varies (paths.map segmentsOf) template admission.varyingIndex admission.tokenKind

/-- Only which paths there are matters. -/
theorem Varies.of_mem {paths others : List Text} (h : Varies (paths.map segmentsOf) template
    varying kind) (hsame : ∀ path, path ∈ others ↔ path ∈ paths) :
    Varies (others.map segmentsOf) template varying kind := by
  have hmem : ∀ item, item ∈ others.map segmentsOf ↔ item ∈ paths.map segmentsOf := by
    intro item
    simp only [List.mem_map, hsame]
  exact {
    agrees := fun item hitem => h.agrees item ((hmem item).mp hitem)
    token := fun item hitem => h.token item ((hmem item).mp hitem)
    differ := by
      obtain ⟨item, hitem, other, hother, hne⟩ := h.differ
      exact ⟨item, (hmem item).mpr hitem, other, (hmem other).mpr hother, hne⟩ }

theorem routeTemplateFromPaths_iff {paths : List Text} (horigin : Nonblank origin)
    (hmethod : Nonblank httpMethod) (hpaths : ∀ path ∈ paths, path.startsWith ['/'] = true) :
    routeTemplateFromPaths origin httpMethod paths = .ok (some admission) ↔
      admission.RestsOn origin httpMethod paths := by
  have hmem : ∀ path, path ∈ paths.dedup.insertionSort (· ≤ ·) ↔ path ∈ paths := by simp
  have hlength : (paths.dedup.insertionSort (· ≤ ·)).length = paths.dedup.length :=
    List.length_insertionSort _ _
  have hsegmented := mapM_pathSegments fun path hpath => hpaths path ((hmem path).mp hpath)
  unfold routeTemplateFromPaths
  rw [if_neg horigin, if_neg hmethod]
  dsimp only
  rw [hsegmented, ok_bind, hlength]
  constructor
  · intro h
    split at h
    · cases h
    next hthree =>
      obtain ⟨template, varying, kind, hvaries, rfl⟩ :=
        templateOf_eq_some_iff.mp (Except.ok.inj h)
      exact {
        origin := rfl
        httpMethod := rfl
        exactPaths := rfl
        three := Nat.not_lt.mp hthree
        varies := ⟨template, rfl, hvaries.of_mem fun path => (hmem path).symm⟩ }
  · intro h
    rw [if_neg (Nat.not_lt.mpr h.three)]
    obtain ⟨template, htemplate, hvaries⟩ := h.varies
    refine congrArg Except.ok (templateOf_eq_some_iff.mpr
      ⟨template, _, _, hvaries.of_mem hmem, ?_⟩)
    rw [← htemplate, ← h.exactPaths, ← h.origin, ← h.httpMethod]

/-- **Admission, family by family.** -/
theorem admits_iff {paths : List Text} :
    Admits origin httpMethod paths admission ↔
      (∀ path ∈ paths, path.startsWith ['/'] = true) ∧ Nonblank origin ∧ Nonblank httpMethod ∧
        ∃ family, admission.RestsOn origin httpMethod (familyPaths family paths) := by
  have hmem : ∀ {family path}, path ∈ familyPaths family paths → path ∈ paths :=
    fun h => (List.mem_filter.mp h).1
  constructor
  · rintro ⟨admissions, h, hadmission⟩
    obtain ⟨families, hfamilies, h⟩ := bind_eq_ok h
    obtain ⟨admitted, hadmitted, h⟩ := bind_eq_ok h
    cases h
    have hpaths : ∀ path ∈ paths, path.startsWith ['/'] = true := by
      intro path hpath
      obtain ⟨entry, hentry⟩ := exists_of_mapM_eq_ok hfamilies path hpath
      obtain ⟨family, hfamily, -⟩ := bind_eq_ok hentry
      obtain ⟨segments, hsegments, -⟩ := bind_eq_ok hfamily
      exact pathSegments_exists.mp ⟨segments, hsegments⟩
    obtain ⟨made, hmade, hsome⟩ := List.mem_filterMap.mp hadmission
    cases hsome
    obtain ⟨group, hgroup, hfrom⟩ := mem_of_mapM_eq_ok hadmitted hmade
    have hgroupPaths : group.2 = familyPaths group.1 paths :=
      (grouped_eq hgroup).trans (families_eq hfamilies group.1)
    have hnonblank : Nonblank origin ∧ Nonblank httpMethod := by
      unfold routeTemplateFromPaths at hfrom
      split at hfrom
      · cases hfrom
      next horigin =>
        split at hfrom
        · cases hfrom
        next hmethod => exact ⟨horigin, hmethod⟩
    refine ⟨hpaths, hnonblank.1, hnonblank.2, group.1, ?_⟩
    rw [← hgroupPaths]
    exact (routeTemplateFromPaths_iff hnonblank.1 hnonblank.2 fun path hpath =>
      hpaths path (hmem (hgroupPaths ▸ hpath))).mp hfrom
  · rintro ⟨hpaths, horigin, hmethod, family, h⟩
    obtain ⟨admissions, hadmissions⟩ := admitRouteTemplates_exists horigin hmethod hpaths
    refine ⟨admissions, hadmissions, ?_⟩
    obtain ⟨families, hfamilies, hrest⟩ := bind_eq_ok hadmissions
    obtain ⟨admitted, hadmitted, hrest⟩ := bind_eq_ok hrest
    cases hrest
    obtain ⟨path, hpath⟩ : ∃ path, path ∈ familyPaths family paths := by
      obtain ⟨template, -, hvaries⟩ := h.varies
      obtain ⟨item, hitem, -⟩ := hvaries.differ
      obtain ⟨path, hpath, -⟩ := List.mem_map.mp hitem
      exact ⟨path, hpath⟩
    rw [← families_eq hfamilies family] at hpath
    obtain ⟨entry, hentry, -⟩ := List.mem_map.mp hpath
    obtain ⟨hentry, hfamily⟩ := List.mem_filter.mp hentry
    obtain ⟨group, hgroup, hkey⟩ := exists_grouped hentry
    obtain rfl : group.1 = family := hkey.trans (of_decide_eq_true hfamily)
    have hgroupPaths : group.2 = familyPaths group.1 paths :=
      (grouped_eq hgroup).trans (families_eq hfamilies group.1)
    have hfrom := (routeTemplateFromPaths_iff horigin hmethod fun path hpath =>
      hpaths path (hmem hpath)).mpr h
    rw [← hgroupPaths] at hfrom
    exact List.mem_filterMap.mpr ⟨some admission, mem_made_of_mapM_eq_ok hadmitted hgroup hfrom, rfl⟩

/-- **The order of the paths** is of no account. -/
theorem admits_perm {paths others : List Text} (h : paths.Perm others) :
    Admits origin httpMethod paths admission ↔ Admits origin httpMethod others admission := by
  have hrests : ∀ {paths others : List Text}, paths.Perm others →
      admission.RestsOn origin httpMethod paths → admission.RestsOn origin httpMethod others := by
    intro paths others h hrests
    have hdedup : paths.dedup.Perm others.dedup := h.dedup
    have hsorted : paths.dedup.insertionSort (· ≤ ·) = others.dedup.insertionSort (· ≤ ·) :=
      ((List.perm_insertionSort _ _).trans (hdedup.trans
        (List.perm_insertionSort _ _).symm)).eq_of_sortedLE
          (List.sortedLE_insertionSort) (List.sortedLE_insertionSort)
    obtain ⟨template, htemplate, hvaries⟩ := hrests.varies
    exact {
      origin := hrests.origin
      httpMethod := hrests.httpMethod
      exactPaths := hrests.exactPaths.trans hsorted
      three := hdedup.length_eq ▸ hrests.three
      varies := ⟨template, htemplate, hvaries.of_mem fun path => h.mem_iff.symm⟩ }
  have hfilter : ∀ family, (familyPaths family paths).Perm (familyPaths family others) :=
    fun family => h.filter _
  rw [admits_iff, admits_iff]
  constructor
  · rintro ⟨hpaths, horigin, hmethod, family, hfamily⟩
    exact ⟨fun path hpath => hpaths path (h.mem_iff.mpr hpath), horigin, hmethod, family,
      hrests (hfilter family) hfamily⟩
  · rintro ⟨hpaths, horigin, hmethod, family, hfamily⟩
    exact ⟨fun path hpath => hpaths path (h.mem_iff.mp hpath), horigin, hmethod, family,
      hrests (hfilter family).symm hfamily⟩

/-! ## What a template says of its paths -/

/-- The path has a token where the template has its placeholder, and is the template
elsewhere. -/
def RouteTemplateAdmission.Fits (admission : RouteTemplateAdmission) (path : Text) : Prop :=
  tokenAt (segmentsOf path) admission.varyingIndex = some admission.tokenKind ∧
    joinSegments ((segmentsOf path).set admission.varyingIndex admission.tokenKind.text) =
      admission.templatePath

/-- The template rests on three exact paths that it fits.  Two of them with one token are
one path, up to a slash at its end. -/
structure RouteTemplateAdmission.Supported (admission : RouteTemplateAdmission)
    (paths : List Text) : Prop where
  among : ∀ path ∈ admission.exactPaths, path ∈ paths
  three : minTemplatePaths ≤ admission.exactPaths.length
  distinct : admission.exactPaths.Nodup
  fits : ∀ path ∈ admission.exactPaths, admission.Fits path
  tokens : ∀ path ∈ admission.exactPaths, ∀ other ∈ admission.exactPaths,
    (segmentsOf path)[admission.varyingIndex]? = (segmentsOf other)[admission.varyingIndex]? →
      withoutSlashes path = withoutSlashes other

theorem RouteTemplateAdmission.RestsOn.supported {paths : List Text}
    (h : admission.RestsOn origin httpMethod paths) : admission.Supported paths := by
  obtain ⟨template, htemplate, hvaries⟩ := h.varies
  have hmem : ∀ path ∈ admission.exactPaths, path ∈ paths := by
    intro path hpath
    rw [h.exactPaths] at hpath
    exact List.mem_dedup.mp ((List.mem_insertionSort _).mp hpath)
  constructor
  · exact hmem
  · rw [h.exactPaths, List.length_insertionSort]
    exact h.three
  · rw [h.exactPaths, (List.perm_insertionSort _ _).nodup_iff]
    exact List.nodup_dedup _
  · intro path hpath
    have hitem := List.mem_map_of_mem (f := segmentsOf) (hmem path hpath)
    exact ⟨hvaries.token _ hitem, by rw [hvaries.agrees _ hitem, htemplate]⟩
  · intro path hpath other hother htoken
    have hitem := List.mem_map_of_mem (f := segmentsOf) (hmem path hpath)
    have hitem' := List.mem_map_of_mem (f := segmentsOf) (hmem other hother)
    have hagree := (set_eq_set_iff.mp
      ((hvaries.agrees _ hitem).trans (hvaries.agrees _ hitem').symm)).2
    refine withoutSlashes_of_segmentsOf (List.ext_getElem? fun index => ?_)
    by_cases hindex : index = admission.varyingIndex
    · rw [hindex, htoken]
    · exact hagree index hindex

/-- The family of the paths that a template rests on. -/
def RouteTemplateAdmission.family (admission : RouteTemplateAdmission) : Text :=
  generalizedPath admission.templatePath

theorem RouteTemplateAdmission.RestsOn.family_eq {paths : List Text} {family : Text}
    (horigin : Nonblank origin) (hmethod : Nonblank httpMethod)
    (h : admission.RestsOn origin httpMethod (familyPaths family paths)) :
    admission.family = family := by
  have hfamily : ∀ path ∈ familyPaths family paths, templateFamily path = .ok (some family) :=
    fun path hpath => of_decide_eq_true (List.mem_filter.mp hpath).2
  have hfrom := (routeTemplateFromPaths_iff horigin hmethod fun path hpath =>
    (templateFamily_eq_ok.mp (hfamily path hpath)).1).mpr h
  exact (routeTemplateFromPaths_eq_ok hfrom).family hfamily

/-- The segments of a path that a template fits are the template's, where it varies
apart. -/
theorem RouteTemplateAdmission.Fits.agrees {path : Text} (h : admission.Fits path)
    (hpath : admission.templatePath = joinSegments template)
    (hne : template ≠ []) (hslash : ∀ segment ∈ template, '/' ∉ segment) :
    (segmentsOf path).set admission.varyingIndex admission.tokenKind.text = template := by
  refine joinSegments_injective ?_ hne ?_ hslash (h.2.trans hpath)
  · intro hnil
    have hlength := congrArg List.length hnil
    rw [List.length_set] at hlength
    exact absurd (lt_length_of_tokenAt h.1) (by rw [hlength]; exact Nat.not_lt_zero _)
  · intro segment hsegment
    rcases List.mem_or_eq_of_mem_set hsegment with hsegment | rfl
    · exact slash_not_mem_segmentsOf hsegment
    · exact slash_not_mem_text _

/-- More paths of the family leave the template when it fits them. -/
theorem RouteTemplateAdmission.RestsOn.append {paths more : List Text}
    (h : admission.RestsOn origin httpMethod paths) (hmore : ∀ path ∈ more, admission.Fits path) :
    RestsOn { admission with exactPaths := (paths ++ more).dedup.insertionSort (· ≤ ·) } origin
      httpMethod (paths ++ more) := by
  obtain ⟨template, htemplate, hvaries⟩ := h.varies
  obtain ⟨item, hitem, other, hother, hne⟩ := hvaries.differ
  have hslash : template ≠ [] ∧ ∀ segment ∈ template, '/' ∉ segment := by
    obtain ⟨path, hpath, rfl⟩ := List.mem_map.mp hitem
    have hfits : admission.Fits path :=
      ⟨hvaries.token _ hitem, by rw [hvaries.agrees _ hitem, htemplate]⟩
    have hset := hvaries.agrees _ hitem
    constructor
    · rintro rfl
      have hlength := congrArg List.length hset
      rw [List.length_set] at hlength
      exact absurd (lt_length_of_tokenAt hfits.1) (by rw [hlength]; exact Nat.not_lt_zero _)
    · intro segment hsegment
      rw [← hset] at hsegment
      rcases List.mem_or_eq_of_mem_set hsegment with hsegment | rfl
      · exact slash_not_mem_segmentsOf hsegment
      · exact slash_not_mem_text _
  have hmember : ∀ item ∈ (paths ++ more).map segmentsOf,
      item ∈ paths.map segmentsOf ∨ ∃ path ∈ more, segmentsOf path = item := by
    intro item hitem
    rw [List.map_append] at hitem
    rcases List.mem_append.mp hitem with hitem | hitem
    · exact .inl hitem
    · exact .inr (List.mem_map.mp hitem)
  constructor
  · exact h.origin
  · exact h.httpMethod
  · rfl
  · have hsubset : paths.dedup ⊆ (paths ++ more).dedup := fun path hpath =>
      List.mem_dedup.mpr (List.mem_append_left _ (List.mem_dedup.mp hpath))
    exact h.three.trans (List.subperm_of_subset (List.nodup_dedup _) hsubset).length_le
  · refine ⟨template, htemplate, ?_, ?_, ?_⟩
    · intro item hitem
      rcases hmember item hitem with hitem | ⟨path, hpath, rfl⟩
      · exact hvaries.agrees item hitem
      · exact (hmore path hpath).agrees htemplate hslash.1 hslash.2
    · intro item hitem
      rcases hmember item hitem with hitem | ⟨path, hpath, rfl⟩
      · exact hvaries.token item hitem
      · exact (hmore path hpath).1
    · rw [List.map_append]
      exact ⟨item, List.mem_append_left _ hitem, other, List.mem_append_left _ hother, hne⟩

/-- The template of more paths varies where the template of some of them does. -/
theorem Varies.unique {others : List (List Text)} {template' : List Text} {varying' : Nat}
    {kind' : Placeholder} (h : Varies segmented template varying kind)
    (h' : Varies others template' varying' kind') (hsub : segmented ⊆ others) :
    varying' = varying ∧ kind' = kind := by
  obtain ⟨item, hitem, other, hother, hne⟩ := h.differ
  have hagree := (set_eq_set_iff.mp ((h.agrees item hitem).trans (h.agrees other hother).symm)).2
  have hagree' := (set_eq_set_iff.mp
    ((h'.agrees item (hsub hitem)).trans (h'.agrees other (hsub hother)).symm)).2
  have hvarying : varying' = varying := by
    -- Two paths that differ at one index only would be the same.
    by_contra hdifferent
    refine hne (List.ext_getElem? fun index => ?_)
    by_cases hindex : index = varying
    · subst hindex
      exact hagree' index (Ne.symm hdifferent)
    · exact hagree index hindex
  subst hvarying
  have htoken := h.token item hitem
  rw [h'.token item (hsub hitem)] at htoken
  exact ⟨rfl, Option.some.inj htoken⟩

/-- **A template stays** with more paths exactly when it fits those of its family. -/
theorem admits_append_iff {paths more : List Text}
    (h : Admits origin httpMethod paths admission)
    (hmore : ∀ path ∈ more, path.startsWith ['/'] = true) :
    (∃ other, Admits origin httpMethod (paths ++ more) other ∧
      other.templatePath = admission.templatePath) ↔
        ∀ path ∈ more, templateFamily path = .ok (some admission.family) →
          admission.Fits path := by
  obtain ⟨hpaths, horigin, hmethod, family, hrests⟩ := admits_iff.mp h
  have hfamily := hrests.family_eq horigin hmethod
  have happend : familyPaths family (paths ++ more) =
      familyPaths family paths ++ familyPaths family more := List.filter_append ..
  constructor
  · rintro ⟨other, hother, hsame⟩ path hpath hof
    obtain ⟨-, -, -, family', hrests'⟩ := admits_iff.mp hother
    have hfamily' := hrests'.family_eq horigin hmethod
    obtain rfl : family' = family := by
      rw [← hfamily', ← hfamily, RouteTemplateAdmission.family, hsame]
      rfl
    obtain ⟨template, -, hvaries⟩ := hrests.varies
    obtain ⟨template', htemplate', hvaries'⟩ := hrests'.varies
    have hsub : (familyPaths family' paths).map segmentsOf ⊆
        (familyPaths family' (paths ++ more)).map segmentsOf := by
      rw [happend]
      exact List.map_subset _ (List.subset_append_left _ _)
    obtain ⟨hvarying, hkind⟩ := hvaries.unique hvaries' hsub
    have hmember : segmentsOf path ∈ (familyPaths family' (paths ++ more)).map segmentsOf := by
      refine List.mem_map_of_mem (List.mem_filter.mpr ⟨List.mem_append_right _ hpath, ?_⟩)
      rw [hof, hfamily]
      exact decide_eq_true rfl
    have htoken := hvaries'.token _ hmember
    have hagrees := hvaries'.agrees _ hmember
    rw [hvarying, hkind] at htoken hagrees
    exact ⟨htoken, by rw [hagrees, ← htemplate', hsame]⟩
  · intro hfits
    have hall : ∀ path ∈ familyPaths family more, admission.Fits path := by
      intro path hpath
      obtain ⟨hpath, hof⟩ := List.mem_filter.mp hpath
      exact hfits path hpath (hfamily ▸ of_decide_eq_true hof)
    have hrests' := hrests.append hall
    rw [← happend] at hrests'
    refine ⟨_, admits_iff.mpr ⟨?_, horigin, hmethod, family, hrests'⟩, rfl⟩
    intro path hpath
    rcases List.mem_append.mp hpath with hpath | hpath
    · exact hpaths path hpath
    · exact hmore path hpath

/-- **Which templates are admitted.**  The order of the paths is of no account; an
admitted template rests on three paths that it fits; and with more paths it stays
exactly when it fits those of its family. -/
theorem route_template_admission (origin httpMethod : Text) (paths : List Text) :
    (∀ others : List Text, paths.Perm others → ∀ admission,
      Admits origin httpMethod paths admission ↔ Admits origin httpMethod others admission) ∧
    ∀ admission, Admits origin httpMethod paths admission →
      admission.Supported paths ∧
      ∀ more : List Text, (∀ path ∈ more, path.startsWith ['/'] = true) →
        ((∃ other, Admits origin httpMethod (paths ++ more) other ∧
          other.templatePath = admission.templatePath) ↔
            ∀ path ∈ more, templateFamily path = .ok (some admission.family) →
              admission.Fits path) := by
  refine ⟨fun others h admission => admits_perm h, fun admission h => ⟨?_, fun more hmore =>
    admits_append_iff h hmore⟩⟩
  obtain ⟨-, -, -, family, hrests⟩ := admits_iff.mp h
  have hsupported := hrests.supported
  exact { hsupported with
    among := fun path hpath => (List.mem_filter.mp (hsupported.among path hpath)).1 }

/-- Three posts of three users. -/
def postPaths : List Text := ["/u/1/p/1", "/u/2/p/1", "/u/3/p/1"].map String.toList

/-- The template that they make. -/
def postTemplate : RouteTemplateAdmission where
  origin := "https://example.com".toList
  httpMethod := "GET".toList
  templatePath := joinSegments ["u".toList, Placeholder.decimal.text, "p".toList, "1".toList]
  exactPaths := postPaths
  varyingIndex := 1
  tokenKind := .decimal

theorem postTemplate_admitted :
    admitRouteTemplates postTemplate.origin postTemplate.httpMethod postPaths =
      .ok [postTemplate] := by
  decide

/-- Two users, one of them spelled with a slash at the end as well. -/
def userPaths : List Text := ["/u/1", "/u/1/", "/u/2"].map String.toList

/-- The template that they make. -/
def userTemplate : RouteTemplateAdmission where
  origin := "https://example.com".toList
  httpMethod := "GET".toList
  templatePath := joinSegments ["u".toList, Placeholder.decimal.text]
  exactPaths := userPaths
  varyingIndex := 1
  tokenKind := .decimal

/-- **One more post** of the first user, and the template is gone.  **A slash at the end**
makes a third path with the token of another. -/
theorem template_removed :
    (¬ ∀ (origin httpMethod : Text) (paths : List Text) (admission : RouteTemplateAdmission),
      Admits origin httpMethod paths admission →
        ∀ more : List Text, (∀ path ∈ more, path.startsWith ['/'] = true) →
          ∃ other, Admits origin httpMethod (paths ++ more) other ∧
            other.templatePath = admission.templatePath) ∧
    ¬ ∀ (origin httpMethod : Text) (paths : List Text) (admission : RouteTemplateAdmission),
      Admits origin httpMethod paths admission →
        ∀ path ∈ admission.exactPaths, ∀ other ∈ admission.exactPaths, path ≠ other →
          (segmentsOf path)[admission.varyingIndex]? ≠
            (segmentsOf other)[admission.varyingIndex]? := by
  constructor
  · intro hall
    obtain ⟨other, ⟨admissions, hok, hmem⟩, -⟩ := hall _ _ postPaths postTemplate
      ⟨_, postTemplate_admitted, List.mem_cons_self⟩ ["/u/1/p/2".toList] (by decide)
    have hnone : admitRouteTemplates postTemplate.origin postTemplate.httpMethod
        (postPaths ++ ["/u/1/p/2".toList]) = .ok [] := by decide
    rw [hnone] at hok
    cases hok
    cases hmem
  · intro hall
    have hadmitted : admitRouteTemplates userTemplate.origin userTemplate.httpMethod userPaths =
        .ok [userTemplate] := by decide
    exact hall _ _ userPaths userTemplate ⟨_, hadmitted, List.mem_cons_self⟩ "/u/1".toList
      (by decide) "/u/1/".toList (by decide) (by decide) (by decide)

/-- The posts of three users, and what a fourth user's post changes. -/
theorem route_template_admission_posts :
    postTemplate.Supported postPaths ∧
      ∃ other, Admits postTemplate.origin postTemplate.httpMethod
        (postPaths ++ ["/u/4/p/1".toList]) other ∧
          other.templatePath = postTemplate.templatePath := by
  have hadmitted : Admits postTemplate.origin postTemplate.httpMethod postPaths postTemplate :=
    ⟨_, postTemplate_admitted, List.mem_cons_self⟩
  obtain ⟨hsupported, hmore⟩ := (route_template_admission _ _ _).2 _ hadmitted
  refine ⟨hsupported, (hmore ["/u/4/p/1".toList] (by decide)).mpr fun path hpath _ => ?_⟩
  obtain rfl := List.mem_singleton.mp hpath
  exact ⟨by decide, by decide +kernel⟩

end Zest.Discovery

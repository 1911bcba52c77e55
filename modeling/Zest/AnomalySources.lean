import Mathlib.Data.List.Perm.Basic
import Zest.IdentityAnomaly
import Zest.SeparatorJoin

/-! # What an identity anomaly is about

The fields of the cited observations are merged, and the first to say something
has it.  The experiment is about one observation where the observations do not
disagree and one of them says all that is needed.  The signature of a context
joins four of its fields, and leaves out the mode.
-/
namespace Zest.IdentityAnomaly

open Exploration (identityAnomalyStrategyVersion)
open SeparatorJoin (pieces)

/-! ## First come, first served -/

/-- The first value that is there. -/
def firstStated {α : Type} (values : List (Option α)) : Option α := values.findSome? id

section FirstStated

variable {α : Type} {values : List (Option α)}

theorem firstStated_cons (value : Option α) (values : List (Option α)) :
    firstStated (value :: values) = value.or (firstStated values) := by
  cases value <;> rfl

/-- No two of the values that are there differ. -/
def Agree (values : List (Option α)) : Prop :=
  ∀ v w, some v ∈ values → some w ∈ values → v = w

theorem mem_of_firstStated {v : α} (h : firstStated values = some v) : some v ∈ values := by
  obtain ⟨value, hvalue, hsome⟩ := List.exists_of_findSome?_eq_some h
  exact (show value = some v from hsome) ▸ hvalue

theorem firstStated_of_agree (h : Agree values) {v : α} (hv : some v ∈ values) :
    firstStated values = some v := by
  cases hfirst : firstStated values with
  | none =>
    have hnone := List.findSome?_eq_none_iff.mp hfirst (some v) hv
    cases hnone
  | some w => rw [h w v (mem_of_firstStated hfirst) hv]

theorem Agree.perm {others : List (Option α)} (h : Agree values) (hperm : others.Perm values) :
    Agree others := fun v w hv hw => h v w (hperm.mem_iff.mp hv) (hperm.mem_iff.mp hw)

/-- Values that do not differ may come in any order. -/
theorem Agree.firstStated_perm {others : List (Option α)} (h : Agree values)
    (hperm : others.Perm values) : firstStated others = firstStated values := by
  cases hfirst : firstStated values with
  | some v =>
    exact firstStated_of_agree (h.perm hperm) (hperm.mem_iff.mpr (mem_of_firstStated hfirst))
  | none =>
    refine List.findSome?_eq_none_iff.mpr fun value hvalue => ?_
    exact List.findSome?_eq_none_iff.mp hfirst value (hperm.mem_iff.mp hvalue)

end FirstStated

/-! ## Repeated citations -/

section Citations

variable {ids others : List Text}

theorem eraseDups_of_nodup (h : ids.Nodup) : ids.eraseDups = ids := by
  induction ids with
  | nil => rfl
  | cons id rest ih =>
    obtain ⟨hnot, hrest⟩ := List.nodup_cons.mp h
    have hfilter : (rest.filter fun other => !other == id) = rest := by
      rw [List.filter_eq_self]
      intro other hother
      have hne : other ≠ id := fun heq => hnot (heq ▸ hother)
      simpa using hne
    rw [List.eraseDups_cons, hfilter, ih hrest]

theorem nodup_eraseDups (ids : List Text) : ids.eraseDups.Nodup := by
  induction hlength : ids.length using Nat.strong_induction_on generalizing ids with
  | _ n ih =>
    cases ids with
    | nil => exact List.nodup_nil
    | cons id rest =>
      rw [List.eraseDups_cons, List.nodup_cons]
      refine ⟨?_, ih _ ?_ _ rfl⟩
      · rw [List.mem_eraseDups, List.mem_filter]
        simp
      · have hle := List.length_filter_le (fun other => !other == id) rest
        rw [List.length_cons] at hlength
        omega

/-- Ids that are cited once, twice and thrice are cited. -/
theorem eraseDups_thrice (h : ids.Nodup) : (ids ++ ids ++ ids).eraseDups = ids := by
  have hnone : (ids ++ ids).removeAll ids = [] := by
    rw [List.removeAll, List.filter_eq_nil_iff]
    intro id hid
    have hmem : id ∈ ids := by simpa using hid
    simpa using hmem
  rw [List.append_assoc, List.eraseDups_append, hnone, eraseDups_of_nodup h]
  simp

end Citations

/-! ## The merged fields -/

/-- The fields, one by one. -/
def fieldGetters : List (Fields → Option Text) :=
  [Fields.authorizedOrigin, Fields.actor, Fields.ownObject, Fields.crossObject, Fields.mode]

theorem Fields.ext_getters {f g : Fields} (h : ∀ get ∈ fieldGetters, get f = get g) : f = g := by
  simp only [fieldGetters, List.forall_mem_cons] at h
  obtain ⟨horigin, hactor, hown, hcross, hmode, -⟩ := h
  cases f
  cases g
  simp only [Fields.mk.injEq]
  exact ⟨horigin, hactor, hown, hcross, hmode⟩

/-- Each field of a merge is the first that the payloads state. -/
theorem get_fieldsFromObservationPayloads {get : Fields → Option Text} (hget : get ∈ fieldGetters)
    (payloads : List Dict) :
    get (fieldsFromObservationPayloads payloads) =
      firstStated (payloads.map fun p => get (compilerFields p)) := by
  have hmerge : ∀ merged fields : Fields,
      get (merged.merge fields) = (get merged).or (get fields) := by
    intro merged fields
    simp only [fieldGetters, List.mem_cons, List.not_mem_nil, or_false] at hget
    rcases hget with rfl | rfl | rfl | rfl | rfl <;> rfl
  have hempty : get .empty = none := by
    simp only [fieldGetters, List.mem_cons, List.not_mem_nil, or_false] at hget
    rcases hget with rfl | rfl | rfl | rfl | rfl <;> rfl
  have hfold : ∀ merged : Fields,
      get (payloads.foldl (fun merged payload => merged.merge (compilerFields payload)) merged) =
        (get merged).or (firstStated (payloads.map fun p => get (compilerFields p))) := by
    induction payloads with
    | nil =>
      intro merged
      simp [firstStated]
    | cons payload rest ih =>
      intro merged
      rw [List.foldl_cons, ih, hmerge, List.map_cons, firstStated_cons, Option.or_assoc]
  rw [fieldsFromObservationPayloads, hfold, hempty, Option.none_or]

/-- What a payload states is stripped and not empty, and its mode is allowed. -/
structure Fields.Stated (f : Fields) : Prop where
  text : ∀ get ∈ fieldGetters, ∀ v, get f = some v → v ≠ [] ∧ v.strip = v
  mode : ∀ m, f.mode = some m → labMode (some m) = m

theorem text_eq_some {value : JsonValue} {v : Text} (h : text value = some v) :
    v ≠ [] ∧ v.strip = v := by
  unfold text at h
  split at h
  · split at h
    · cases h
    next hne =>
      obtain rfl := Option.some.inj h
      exact ⟨hne, Text.strip_strip _⟩
  · cases h

theorem labMode_mem (mode : Option Text) : labMode mode ∈ allowedLabModes := by
  unfold labMode
  split
  · split
    next h => exact h
    next => decide
  · decide

theorem labMode_labMode (mode : Option Text) : labMode (some (labMode mode)) = labMode mode := by
  have hmem := labMode_mem mode
  generalize labMode mode = m at hmem
  exact if_pos hmem

theorem stated_compilerFields (payload : Dict) : (compilerFields payload).Stated where
  text := by
    simp only [fieldGetters, List.forall_mem_cons]
    refine ⟨?_, fun v hv => text_eq_some hv, fun v hv => text_eq_some hv,
      fun v hv => text_eq_some hv, ?_, by simp⟩
    · intro v hv
      rcases Option.or_eq_some_iff.mp hv with hv | ⟨-, hv⟩
      · exact text_eq_some hv
      · exact text_eq_some hv
    · intro v hv
      obtain rfl := Option.some.inj hv
      have hall : ∀ m ∈ allowedLabModes, m ≠ [] ∧ m.strip = m := by decide
      exact hall _ (labMode_mem _)
  mode m hm := by
    obtain rfl := Option.some.inj hm
    exact labMode_labMode _

theorem stated_merge (payloads : List Dict) : (fieldsFromObservationPayloads payloads).Stated where
  text get hget v hv := by
    rw [get_fieldsFromObservationPayloads hget] at hv
    obtain ⟨p, -, hp⟩ := List.mem_map.mp (mem_of_firstStated hv)
    exact (stated_compilerFields p).text get hget v hp
  mode m hm := by
    have hmode : Fields.mode ∈ fieldGetters := by simp [fieldGetters]
    rw [get_fieldsFromObservationPayloads hmode] at hm
    obtain ⟨p, -, hp⟩ := List.mem_map.mp (mem_of_firstStated hm)
    exact (stated_compilerFields p).mode m hp

/-- The fields that some arguments are. -/
def Arguments.fields (a : Arguments) : Fields :=
  ⟨some a.authorizedOrigin, some a.actor, some a.ownObject, some a.crossObject, some a.mode⟩

theorem present_eq_some {value : Option Text} {v : Text} :
    present value = some v ↔ value = some v ∧ v ≠ [] := by
  rw [present, Option.filter_eq_some_iff]
  simp

/-- The arguments of stated fields are these fields. -/
theorem compilerArguments_eq_some {f : Fields} (h : f.Stated)
    (hmode : f.authorizedOrigin ≠ none → f.mode ≠ none) {a : Arguments} :
    compilerArguments f = some a ↔ f = a.fields := by
  constructor
  · intro hsome
    unfold compilerArguments at hsome
    obtain ⟨origin, horigin, hsome⟩ := Option.bind_eq_some_iff.mp hsome
    obtain ⟨actor, hactor, hsome⟩ := Option.bind_eq_some_iff.mp hsome
    obtain ⟨ownObject, hown, hsome⟩ := Option.bind_eq_some_iff.mp hsome
    obtain ⟨crossObject, hcross, hsome⟩ := Option.bind_eq_some_iff.mp hsome
    obtain rfl := Option.some.inj hsome
    have hstates := (present_eq_some.mp horigin).1
    obtain ⟨m, hm⟩ := Option.ne_none_iff_exists'.mp
      (hmode (by rw [hstates]; exact Option.some_ne_none _))
    have hlab : f.mode = some (labMode f.mode) := by rw [hm, h.mode m hm]
    cases f
    simp only [Arguments.fields, Fields.mk.injEq]
    exact ⟨hstates, (present_eq_some.mp hactor).1, (present_eq_some.mp hown).1,
      (present_eq_some.mp hcross).1, hlab⟩
  · rintro rfl
    have htext : ∀ get ∈ fieldGetters, ∀ v, get a.fields = some v → v ≠ [] := fun get hget v hv =>
      (h.text get hget v hv).1
    simp only [fieldGetters, List.forall_mem_cons] at htext
    obtain ⟨horigin, hactor, hown, hcross, -⟩ := htext
    have horigin' : present a.fields.authorizedOrigin = some a.authorizedOrigin :=
      present_eq_some.mpr ⟨rfl, horigin _ rfl⟩
    have hactor' : present a.fields.actor = some a.actor :=
      present_eq_some.mpr ⟨rfl, hactor _ rfl⟩
    have hown' : present a.fields.ownObject = some a.ownObject :=
      present_eq_some.mpr ⟨rfl, hown _ rfl⟩
    have hcross' : present a.fields.crossObject = some a.crossObject :=
      present_eq_some.mpr ⟨rfl, hcross _ rfl⟩
    have hlab : labMode a.fields.mode = a.mode := h.mode a.mode rfl
    unfold compilerArguments
    rw [horigin', hactor', hown', hcross', hlab]
    rfl

theorem compilerArguments_payload {payload : Dict} {a : Arguments} :
    compilerArguments (compilerFields payload) = some a ↔ compilerFields payload = a.fields :=
  compilerArguments_eq_some (stated_compilerFields payload) fun _ => Option.some_ne_none _

theorem compilerArguments_merge {payloads : List Dict} {a : Arguments} :
    compilerArguments (fieldsFromObservationPayloads payloads) = some a ↔
      fieldsFromObservationPayloads payloads = a.fields := by
  refine compilerArguments_eq_some (stated_merge payloads) fun horigin => ?_
  cases payloads with
  | nil => exact absurd rfl horigin
  | cons payload rest =>
    have hmode : Fields.mode ∈ fieldGetters := by simp [fieldGetters]
    rw [get_fieldsFromObservationPayloads hmode, List.map_cons, firstStated_cons]
    exact Option.some_ne_none _

theorem Arguments.fields_injective {a b : Arguments} (h : a.fields = b.fields) : a = b := by
  cases a
  cases b
  simp only [Arguments.fields, Fields.mk.injEq, Option.some.injEq] at h
  simpa using h

/-! ## One observation -/

/-- The observations of a list do not disagree, and one of them says all that the
compiler needs. -/
structure OneStory (payloads : List Dict) : Prop where
  agree : ∀ get ∈ fieldGetters, Agree (payloads.map fun p => get (compilerFields p))
  complete : ∃ payload ∈ payloads, (compilerArguments (compilerFields payload)).isSome

section Merged

variable {payloads : List Dict} {a : Arguments}

/-- Where the observations do not disagree, an observation that says it all says what
all of them say. -/
theorem OneStory.fields_eq (h : OneStory payloads) {payload : Dict} (hmem : payload ∈ payloads)
    {b : Arguments} (hb : compilerFields payload = b.fields) :
    fieldsFromObservationPayloads payloads = b.fields := by
  refine Fields.ext_getters fun get hget => ?_
  rw [get_fieldsFromObservationPayloads hget]
  obtain ⟨v, hv⟩ : ∃ v, get b.fields = some v := by
    simp only [fieldGetters, List.mem_cons, List.not_mem_nil, or_false] at hget
    rcases hget with rfl | rfl | rfl | rfl | rfl <;> exact ⟨_, rfl⟩
  rw [hv]
  refine firstStated_of_agree (h.agree get hget) (List.mem_map.mpr ⟨payload, hmem, ?_⟩)
  show get (compilerFields payload) = some v
  rw [hb, hv]

theorem OneStory.perm (h : OneStory payloads) {others : List Dict} (hperm : others.Perm payloads) :
    OneStory others where
  agree get hget := (h.agree get hget).perm (hperm.map _)
  complete := by
    obtain ⟨payload, hmem, hcomplete⟩ := h.complete
    exact ⟨payload, hperm.mem_iff.mpr hmem, hcomplete⟩

/-- Observations that can each be put first without a difference do not disagree. -/
theorem agree_of_first
    (h : ∀ payload ∈ payloads, ∃ rest,
      compilerArguments (fieldsFromObservationPayloads (payload :: rest)) = some a) :
    ∀ get ∈ fieldGetters, Agree (payloads.map fun p => get (compilerFields p)) := by
  intro get hget
  have hfirst : ∀ v, some v ∈ payloads.map (fun p => get (compilerFields p)) →
      get a.fields = some v := by
    intro v hv
    obtain ⟨payload, hmem, hpayload⟩ := List.mem_map.mp hv
    obtain ⟨rest, hrest⟩ := h payload hmem
    rw [← compilerArguments_merge.mp hrest, get_fieldsFromObservationPayloads hget, List.map_cons,
      firstStated_cons]
    show (get (compilerFields payload)).or _ = _
    rw [hpayload, Option.some_or]
  intro v w hv hw
  exact Option.some.inj ((hfirst v hv).symm.trans (hfirst w hw))

end Merged

/-! ## Sources -/

section Sources

variable {tables : Tables} {researchRunId : Text} {owningFamilyIds : List Text}

/-- The same source, with its observations cited in another order. -/
def Source.Reordered : Source → Source → Prop
  | .differential d, .differential d' =>
    d'.cited.Perm d.cited ∧ d'.differentialId = d.differentialId ∧
      d'.researchRunId = d.researchRunId ∧ d'.changedDimensions = d.changedDimensions ∧
      d'.interpretation = d.interpretation
  | .observation row, .observation row' => row' = row
  | _, _ => False

/-- A differential is an anomaly of the run that no family owns. -/
structure DifferentialRecord.External (tables : Tables) (researchRunId : Text)
    (owningFamilyIds : List Text) (d : DifferentialRecord) : Prop where
  run : d.researchRunId = researchRunId
  resolved : ∀ id ∈ d.cited, ∃ payload, resolve tables researchRunId id = .resolved payload
  identity : ∃ dim ∈ d.changedDimensions, dim ∈ identityChangedDimensions
  controlled : d.interpretation = "CONTROLLED_DIFFERENCE".toList
  unowned : owningFamilyIds = []

theorem classify_differential_iff (d : DifferentialRecord) :
    (classifyIdentityDifferential tables researchRunId owningFamilyIds d).classification =
      .registryExternal ↔ d.External tables researchRunId owningFamilyIds := by
  unfold classifyIdentityDifferential
  dsimp only
  by_cases hrun : d.researchRunId = researchRunId
  swap
  · rw [if_pos hrun]
    exact iff_of_false (by simp [reject]) fun h => hrun h.run
  rw [if_neg (not_not.mpr hrun)]
  by_cases hunresolved : (d.cited.any fun id =>
      (resolve tables researchRunId id).isUnresolved) = true
  · rw [if_pos hunresolved]
    refine iff_of_false (by simp [reject]) fun h => ?_
    obtain ⟨id, hid, hres⟩ := List.any_eq_true.mp hunresolved
    obtain ⟨payload, hpayload⟩ := h.resolved id hid
    rw [hpayload] at hres
    cases hres
  rw [if_neg hunresolved]
  by_cases hcross : (d.cited.any fun id => (resolve tables researchRunId id).isCrossRun) = true
  · rw [if_pos hcross]
    refine iff_of_false (by simp [reject]) fun h => ?_
    obtain ⟨id, hid, hres⟩ := List.any_eq_true.mp hcross
    obtain ⟨payload, hpayload⟩ := h.resolved id hid
    rw [hpayload] at hres
    cases hres
  rw [if_neg hcross]
  by_cases hidentity : ∀ dim ∈ d.changedDimensions, dim ∉ identityChangedDimensions
  · rw [if_pos hidentity]
    refine iff_of_false (by simp [reject]) fun h => ?_
    obtain ⟨dim, hdim, hmem⟩ := h.identity
    exact hidentity dim hdim hmem
  rw [if_neg hidentity]
  by_cases hcontrolled : d.interpretation = "CONTROLLED_DIFFERENCE".toList
  swap
  · rw [if_pos hcontrolled]
    exact iff_of_false (by simp [reject]) fun h => hcontrolled h.controlled
  rw [if_neg (not_not.mpr hcontrolled)]
  have hresolved : ∀ id ∈ d.cited, ∃ payload,
      resolve tables researchRunId id = .resolved payload := by
    intro id hid
    cases hres : resolve tables researchRunId id with
    | unresolved => exact absurd (List.any_eq_true.mpr ⟨id, hid, by rw [hres]; rfl⟩) hunresolved
    | crossRun => exact absurd (List.any_eq_true.mpr ⟨id, hid, by rw [hres]; rfl⟩) hcross
    | resolved payload => exact ⟨payload, rfl⟩
  push Not at hidentity
  constructor
  · intro hclass
    refine ⟨hrun, hresolved, hidentity, hcontrolled, ?_⟩
    by_contra howned
    simp [admitOne, howned] at hclass
  · intro h
    simp [admitOne, h.unowned]

/-- The fields of an anomaly are those of its observations, merged. -/
theorem Source.context_fields {σ : Source}
    (h : (σ.context tables researchRunId owningFamilyIds).classification = .registryExternal) :
    (σ.context tables researchRunId owningFamilyIds).fields =
        fieldsFromObservationPayloads (σ.payloads tables researchRunId) ∧
      (σ.context tables researchRunId owningFamilyIds).researchRunId = researchRunId := by
  cases σ with
  | differential d =>
    have hd := (classify_differential_iff d).mp h
    have hunresolved : ¬ (d.cited.any fun id =>
        (resolve tables researchRunId id).isUnresolved) = true := by
      intro hany
      obtain ⟨id, hid, hres⟩ := List.any_eq_true.mp hany
      obtain ⟨payload, hpayload⟩ := hd.resolved id hid
      rw [hpayload] at hres
      cases hres
    have hcross : ¬ (d.cited.any fun id =>
        (resolve tables researchRunId id).isCrossRun) = true := by
      intro hany
      obtain ⟨id, hid, hres⟩ := List.any_eq_true.mp hany
      obtain ⟨payload, hpayload⟩ := hd.resolved id hid
      rw [hpayload] at hres
      cases hres
    obtain ⟨dim, hdim, hmem⟩ := hd.identity
    have hidentity : ¬ ∀ dim ∈ d.changedDimensions, dim ∉ identityChangedDimensions :=
      fun hall => hall dim hdim hmem
    show (classifyIdentityDifferential tables researchRunId owningFamilyIds d).fields = _ ∧
      (classifyIdentityDifferential tables researchRunId owningFamilyIds d).researchRunId = _
    unfold classifyIdentityDifferential
    dsimp only
    rw [if_neg (not_not.mpr hd.run), if_neg hunresolved, if_neg hcross, if_neg hidentity,
      if_neg (not_not.mpr hd.controlled)]
    exact ⟨rfl, rfl⟩
  | observation row =>
    have hone : fieldsFromObservationPayloads [row.payload] = compilerFields row.payload := by
      show Fields.empty.merge (compilerFields row.payload) = _
      cases compilerFields row.payload
      rfl
    have hpayloads : Source.payloads tables researchRunId (.observation row) = [row.payload] := rfl
    rw [hpayloads, hone]
    revert h
    show (classifyHttpAuthorizationObservation tables researchRunId owningFamilyIds
        row).classification = _ → (classifyHttpAuthorizationObservation tables researchRunId
          owningFamilyIds row).fields = _ ∧ (classifyHttpAuthorizationObservation tables
            researchRunId owningFamilyIds row).researchRunId = _
    unfold classifyHttpAuthorizationObservation
    dsimp only
    split
    · intro h
      cases h
    · split_ifs
      · intro h
        cases h
      · intro h
        cases h
      · intro h
        cases h
      · intro _
        exact ⟨rfl, rfl⟩

/-- The order of the citations does not change what a source is. -/
theorem Source.Reordered.classification {σ σ' : Source} (h : σ.Reordered σ')
    (hclass : (σ.context tables researchRunId owningFamilyIds).classification =
      .registryExternal) :
    (σ'.context tables researchRunId owningFamilyIds).classification = .registryExternal ∧
      (σ'.payloads tables researchRunId).Perm (σ.payloads tables researchRunId) := by
  cases σ with
  | observation row =>
    cases σ' with
    | differential d' => cases h
    | observation row' =>
      obtain rfl : row' = row := h
      exact ⟨hclass, .refl _⟩
  | differential d =>
    cases σ' with
    | observation row' => cases h
    | differential d' =>
      obtain ⟨hperm, -, hrun, hchanged, hinterpretation⟩ := h
      have hd := (classify_differential_iff d).mp hclass
      refine ⟨(classify_differential_iff d').mpr ⟨hrun.trans hd.run, ?_, ?_, ?_, hd.unowned⟩,
        hperm.filterMap _⟩
      · exact fun id hid => hd.resolved id (hperm.mem_iff.mp hid)
      · rw [hchanged]
        exact hd.identity
      · exact hinterpretation.trans hd.controlled

/-- The experiment of a source is about one of the observations that it cites, in
whatever order it cites them. -/
structure AboutOneObservation (tables : Tables) (researchRunId : Text)
    (owningFamilyIds : List Text) (σ : Source) : Prop where
  one : ∃ payload ∈ σ.payloads tables researchRunId,
    compilerArguments (compilerFields payload) =
      compilerArguments (σ.context tables researchRunId owningFamilyIds).fields
  order : ∀ σ', σ.Reordered σ' →
    compilerArguments (σ'.context tables researchRunId owningFamilyIds).fields =
      compilerArguments (σ.context tables researchRunId owningFamilyIds).fields

/-- Each observation that an anomaly cites can be cited first. -/
theorem exists_reordered_first {σ : Source}
    (hclass : (σ.context tables researchRunId owningFamilyIds).classification =
      .registryExternal) {payload : Dict} (hmem : payload ∈ σ.payloads tables researchRunId) :
    ∃ σ' rest, σ.Reordered σ' ∧ σ'.payloads tables researchRunId = payload :: rest := by
  cases σ with
  | observation row =>
    obtain rfl : payload = row.payload := List.mem_singleton.mp hmem
    exact ⟨.observation row, [], rfl, rfl⟩
  | differential d =>
    obtain ⟨id, hid, hpayload⟩ := List.mem_filterMap.mp hmem
    obtain ⟨before, after, hcited⟩ := List.append_of_mem hid
    have hperm : (id :: (before ++ after)).Perm d.cited := by
      rw [hcited]
      exact List.perm_middle.symm
    have hnodup : (id :: (before ++ after)).Nodup :=
      hperm.nodup_iff.mpr (nodup_eraseDups _)
    let ids := id :: (before ++ after)
    let d' : DifferentialRecord := { d with
      baselineObservationIds := ids, variantObservationIds := ids, sourceRefs := ids }
    have hcited' : d'.cited = ids := eraseDups_thrice hnodup
    refine ⟨.differential d', payloadsOf tables researchRunId (before ++ after), ?_, ?_⟩
    · exact ⟨hcited' ▸ hperm, rfl, rfl, rfl, rfl⟩
    · show payloadsOf tables researchRunId d'.cited = _
      rw [hcited']
      show (id :: (before ++ after)).filterMap _ = _
      rw [List.filterMap_cons, hpayload]
      rfl

/-- **An experiment is about one observation** exactly where its observations tell one
story. -/
theorem aboutOneObservation_iff {σ : Source} {a : Arguments}
    (hclass : (σ.context tables researchRunId owningFamilyIds).classification =
      .registryExternal)
    (hargs : compilerArguments (σ.context tables researchRunId owningFamilyIds).fields = some a) :
    AboutOneObservation tables researchRunId owningFamilyIds σ ↔
      OneStory (σ.payloads tables researchRunId) := by
  obtain ⟨hfields, -⟩ := Source.context_fields hclass
  constructor
  · rintro ⟨⟨payload, hmem, hone⟩, horder⟩
    refine ⟨agree_of_first (a := a) ?_, payload, hmem, by rw [hone, hargs]; rfl⟩
    intro first hfirst
    obtain ⟨σ', rest, hreordered, hpayloads⟩ := exists_reordered_first hclass hfirst
    refine ⟨rest, ?_⟩
    obtain ⟨hclass', -⟩ := hreordered.classification hclass
    rw [← hpayloads, ← (Source.context_fields hclass').1, horder σ' hreordered, hargs]
  · intro hstory
    refine ⟨?_, ?_⟩
    · obtain ⟨payload, hmem, hcomplete⟩ := hstory.complete
      obtain ⟨b, hb⟩ := Option.isSome_iff_exists.mp hcomplete
      refine ⟨payload, hmem, ?_⟩
      rw [hfields, hb, eq_comm, compilerArguments_merge]
      exact hstory.fields_eq hmem (compilerArguments_payload.mp hb)
    · intro σ' hreordered
      obtain ⟨hclass', hperm⟩ := hreordered.classification hclass
      have hsame : fieldsFromObservationPayloads (σ'.payloads tables researchRunId) =
          fieldsFromObservationPayloads (σ.payloads tables researchRunId) := by
        refine Fields.ext_getters fun get hget => ?_
        rw [get_fieldsFromObservationPayloads hget, get_fieldsFromObservationPayloads hget]
        exact (hstory.agree get hget).firstStated_perm (hperm.map _)
      rw [(Source.context_fields hclass').1, hsame, hfields]

end Sources

/-! ## Duplicates -/

section Duplicates

variable {sha256 : Text → Text} {r : Recorder} {c c' : IdentityAnomalyContext}

/-- A candidate is created of a context. -/
def Creates (sha256 : Text → Text) (r : Recorder) (c : IdentityAnomalyContext) : Prop :=
  (recordContext sha256 r c).created = r.created + 1

/-- Where either of two contexts would become a candidate, the second to be recorded is
skipped as a duplicate of the first. -/
def Duplicates (sha256 : Text → Text) (c c' : IdentityAnomalyContext) : Prop :=
  ∀ r, Creates sha256 r c → Creates sha256 r c' →
    (recordContext sha256 (recordContext sha256 r c) c').skippedDuplicate = r.skippedDuplicate + 1

/-- A context becomes a candidate where nothing like it has been seen. -/
structure Unseen (sha256 : Text → Text) (r : Recorder) (c : IdentityAnomalyContext) : Prop where
  identity : candidateIdentity sha256 c ∉ r.seenIdentities
  signature : contextSignature sha256 c ∉ r.seenContextSignatures
  candidate : candidateIdentity sha256 c ∉ r.candidates

theorem recordContext_external (hclass : c.classification = .registryExternal)
    (hargs : compilerArguments c.fields ≠ none) :
    (Unseen sha256 r c → recordContext sha256 r c =
      { r with
        seenIdentities := candidateIdentity sha256 c :: r.seenIdentities
        seenContextSignatures := contextSignature sha256 c :: r.seenContextSignatures
        candidates := candidateIdentity sha256 c :: r.candidates
        created := r.created + 1 }) ∧
    (¬ Unseen sha256 r c → recordContext sha256 r c =
      { r with skippedDuplicate := r.skippedDuplicate + 1 }) := by
  have hknown : c.classification ≠ .knownFamily := by
    rw [hclass]
    decide
  unfold recordContext
  rw [if_neg hknown, if_neg (not_not.mpr hclass), if_neg hargs]
  dsimp only
  constructor
  · intro h
    rw [if_neg (not_or.mpr ⟨h.identity, h.signature⟩), if_neg h.candidate]
  · intro h
    by_cases hseen : candidateIdentity sha256 c ∈ r.seenIdentities ∨
        contextSignature sha256 c ∈ r.seenContextSignatures
    · rw [if_pos hseen]
    · obtain ⟨hidentity, hsignature⟩ := not_or.mp hseen
      rw [if_neg hseen, if_pos]
      by_contra hcandidate
      exact h ⟨hidentity, hsignature, hcandidate⟩

theorem creates_iff : Creates sha256 r c ↔
    c.classification = .registryExternal ∧ compilerArguments c.fields ≠ none ∧
      Unseen sha256 r c := by
  constructor
  · intro h
    have hclass : c.classification = .registryExternal := by
      by_contra hne
      unfold Creates recordContext at h
      split_ifs at h <;> simp at h
    have hargs : compilerArguments c.fields ≠ none := by
      intro hnone
      unfold Creates recordContext at h
      rw [if_neg (by rw [hclass]; decide), if_neg (not_not.mpr hclass), if_pos hnone] at h
      simp at h
    refine ⟨hclass, hargs, ?_⟩
    by_contra hseen
    rw [Creates, (recordContext_external hclass hargs).2 hseen] at h
    simp at h
  · rintro ⟨hclass, hargs, hunseen⟩
    rw [Creates, (recordContext_external hclass hargs).1 hunseen]

/-- A recorder that has seen nothing. -/
def Recorder.empty : Recorder := ⟨[], [], [], 0, 0, 0, 0⟩

/-- **Duplicates are told by their signatures.** -/
theorem duplicates_iff (hclass : c.classification = .registryExternal)
    (hargs : compilerArguments c.fields ≠ none) (hclass' : c'.classification = .registryExternal)
    (hargs' : compilerArguments c'.fields ≠ none) :
    Duplicates sha256 c c' ↔ contextSignature sha256 c = contextSignature sha256 c' := by
  have hempty : ∀ context, Unseen sha256 .empty context := fun context =>
    ⟨List.not_mem_nil, List.not_mem_nil, List.not_mem_nil⟩
  constructor
  · intro h
    have hskipped := h .empty (creates_iff.mpr ⟨hclass, hargs, hempty c⟩)
      (creates_iff.mpr ⟨hclass', hargs', hempty c'⟩)
    rw [(recordContext_external hclass hargs).1 (hempty c)] at hskipped
    by_contra hne
    have hidentity : candidateIdentity sha256 c' ≠ candidateIdentity sha256 c := by
      intro heq
      exact hne (congrArg (·.contextSignature) heq).symm
    rw [(recordContext_external hclass' hargs').1] at hskipped
    · simp at hskipped
    · refine ⟨?_, ?_, ?_⟩
      · simpa [Recorder.empty] using hidentity
      · simpa [Recorder.empty] using Ne.symm hne
      · simpa [Recorder.empty] using hidentity
  · intro hsame r hcreates hcreates'
    rw [(recordContext_external hclass hargs).1 (creates_iff.mp hcreates).2.2,
      (recordContext_external hclass' hargs').2]
    intro hunseen
    refine hunseen.signature ?_
    rw [← hsame]
    exact List.mem_cons_self

/-- The fields that the signature joins. -/
def Arguments.joined (a : Arguments) : List Text :=
  [a.authorizedOrigin, a.actor, a.ownObject, a.crossObject]

theorem joined_eq_iff (run version : Text) (a b : Arguments) :
    ['|'].intercalate ([run] ++ a.joined ++ [version]) =
        ['|'].intercalate ([run] ++ b.joined ++ [version]) ↔
      pieces '|' a.joined = pieces '|' b.joined := by
  have hne : ∀ fields : List Text, [run] ++ fields ++ [version] ≠ [] := fun fields =>
    List.append_ne_nil_of_right_ne_nil _ (List.cons_ne_nil version [])
  rw [SeparatorJoin.intercalate_eq_iff (hne _) (hne _), SeparatorJoin.pieces_append,
    SeparatorJoin.pieces_append, SeparatorJoin.pieces_append, SeparatorJoin.pieces_append,
    List.append_cancel_right_eq, List.append_cancel_left_eq]

/-- **Signatures are alike** where the fields have the same pieces. -/
theorem contextSignature_eq_iff (hsha : Function.Injective sha256) {a b : Arguments}
    (hfields : c.fields = a.fields) (hfields' : c'.fields = b.fields) (hstated : c.fields.Stated)
    (hstated' : c'.fields.Stated) (hrun : c.researchRunId = c'.researchRunId) :
    contextSignature sha256 c = contextSignature sha256 c' ↔
      pieces '|' a.joined = pieces '|' b.joined := by
  have hpayload : ∀ {context : IdentityAnomalyContext} {d : Arguments}, context.fields = d.fields →
      context.fields.Stated → identityPayload context =
        ['|'].intercalate
          ([context.researchRunId.strip] ++ d.joined ++ [identityAnomalyStrategyVersion]) := by
    intro context d hd hs
    have htext := hs.text
    rw [hd] at htext
    simp only [fieldGetters, List.forall_mem_cons] at htext
    obtain ⟨horigin, hactor, hown, hcross, -⟩ := htext
    unfold identityPayload
    rw [hd]
    show ['|'].intercalate [_, Text.strip d.authorizedOrigin, Text.strip d.actor,
      Text.strip d.ownObject, Text.strip d.crossObject, _] = _
    rw [(horigin _ rfl).2, (hactor _ rfl).2, (hown _ rfl).2, (hcross _ rfl).2]
    rfl
  have hsignature : contextSignature sha256 c = contextSignature sha256 c' ↔
      identityPayload c = identityPayload c' := by
    constructor
    · intro h
      exact hsha (List.append_cancel_left h)
    · intro h
      exact congrArg (fun joined => "identity_anomaly:".toList ++ sha256 joined) h
  rw [hsignature, hpayload hfields hstated, hpayload hfields' hstated', hrun]
  exact joined_eq_iff _ _ a b

end Duplicates

/-- No two observations, one of either list, give different arguments that are joined
alike. -/
def ToldApart (payloads others : List Dict) : Prop :=
  ∀ payload ∈ payloads, ∀ other ∈ others, ∀ a b,
    compilerArguments (compilerFields payload) = some a →
    compilerArguments (compilerFields other) = some b →
    pieces '|' a.joined = pieces '|' b.joined → a = b

/-- Observations whose fields are free of the separator and whose modes agree are told
apart. -/
theorem toldApart_of_free {payloads others : List Dict}
    (hfree : ∀ payload ∈ payloads ++ others, ∀ a,
      compilerArguments (compilerFields payload) = some a → ∀ field ∈ a.joined, '|' ∉ field)
    (hmode : ∀ payload ∈ payloads, ∀ other ∈ others,
      (compilerFields payload).mode = (compilerFields other).mode) :
    ToldApart payloads others := by
  intro payload hpayload other hother a b ha hb hpieces
  rw [SeparatorJoin.pieces_of_free (hfree payload (List.mem_append_left _ hpayload) a ha),
    SeparatorJoin.pieces_of_free (hfree other (List.mem_append_right _ hother) b hb)] at hpieces
  have hmodes := hmode payload hpayload other hother
  rw [compilerArguments_payload.mp ha, compilerArguments_payload.mp hb] at hmodes
  cases a
  cases b
  simp only [Arguments.joined, List.cons.injEq] at hpieces
  obtain ⟨rfl, rfl, rfl, rfl, -⟩ := hpieces
  obtain rfl := Option.some.inj hmodes
  rfl

/-- **An identity-anomaly experiment is about one thing that was observed**, and
sources are duplicates just when they are about the same, where the observations of
each tell one story and the two are told apart. -/
theorem identity_anomaly_iff {sha256 : Text → Text} (hsha : Function.Injective sha256)
    (tables : Tables) (researchRunId : Text) (owningFamilyIds : List Text) (σ σ' : Source)
    (h : ∃ r, Creates sha256 r (σ.context tables researchRunId owningFamilyIds))
    (h' : ∃ r, Creates sha256 r (σ'.context tables researchRunId owningFamilyIds)) :
    (AboutOneObservation tables researchRunId owningFamilyIds σ ∧
      AboutOneObservation tables researchRunId owningFamilyIds σ' ∧
      (Duplicates sha256 (σ.context tables researchRunId owningFamilyIds)
          (σ'.context tables researchRunId owningFamilyIds) ↔
        compilerArguments (σ.context tables researchRunId owningFamilyIds).fields =
          compilerArguments (σ'.context tables researchRunId owningFamilyIds).fields)) ↔
    OneStory (σ.payloads tables researchRunId) ∧ OneStory (σ'.payloads tables researchRunId) ∧
      ToldApart (σ.payloads tables researchRunId) (σ'.payloads tables researchRunId) := by
  obtain ⟨r, hcreates⟩ := h
  obtain ⟨r', hcreates'⟩ := h'
  obtain ⟨hclass, hargs, -⟩ := creates_iff.mp hcreates
  obtain ⟨hclass', hargs', -⟩ := creates_iff.mp hcreates'
  obtain ⟨a, ha⟩ := Option.ne_none_iff_exists'.mp hargs
  obtain ⟨b, hb⟩ := Option.ne_none_iff_exists'.mp hargs'
  obtain ⟨hfields, hrun⟩ := Source.context_fields hclass
  obtain ⟨hfields', hrun'⟩ := Source.context_fields hclass'
  have hmerged := compilerArguments_merge.mp (hfields ▸ ha)
  have hmerged' := compilerArguments_merge.mp (hfields' ▸ hb)
  have hduplicates : Duplicates sha256 (σ.context tables researchRunId owningFamilyIds)
      (σ'.context tables researchRunId owningFamilyIds) ↔
        pieces '|' a.joined = pieces '|' b.joined := by
    rw [duplicates_iff hclass hargs hclass' hargs']
    exact contextSignature_eq_iff hsha (hfields.trans hmerged) (hfields'.trans hmerged')
      (hfields ▸ stated_merge _) (hfields' ▸ stated_merge _) (hrun.trans hrun'.symm)
  rw [aboutOneObservation_iff hclass ha, aboutOneObservation_iff hclass' hb, hduplicates, ha, hb,
    Option.some.injEq]
  -- an observation that says it all says what the experiment is about
  have hsame : ∀ {payloads : List Dict} {d : Arguments}, OneStory payloads →
      fieldsFromObservationPayloads payloads = d.fields → ∀ payload ∈ payloads, ∀ d',
      compilerArguments (compilerFields payload) = some d' → d' = d := by
    intro payloads d hstory hd payload hpayload d' hd'
    refine Arguments.fields_injective ?_
    rw [← hd, hstory.fields_eq hpayload (compilerArguments_payload.mp hd')]
  constructor
  · rintro ⟨hstory, hstory', hiff⟩
    refine ⟨hstory, hstory', ?_⟩
    intro payload hpayload other hother a' b' ha' hb' hpieces
    obtain rfl := hsame hstory hmerged payload hpayload a' ha'
    obtain rfl := hsame hstory' hmerged' other hother b' hb'
    exact hiff.mp hpieces
  · rintro ⟨hstory, hstory', hapart⟩
    refine ⟨hstory, hstory', ?_, fun heq => by rw [heq]⟩
    intro hpieces
    obtain ⟨payload, hpayload, hcomplete⟩ := hstory.complete
    obtain ⟨other, hother, hcomplete'⟩ := hstory'.complete
    obtain ⟨a', ha'⟩ := Option.isSome_iff_exists.mp hcomplete
    obtain ⟨b', hb'⟩ := Option.isSome_iff_exists.mp hcomplete'
    obtain rfl := hsame hstory hmerged payload hpayload a' ha'
    obtain rfl := hsame hstory' hmerged' other hother b' hb'
    exact hapart payload hpayload other hother _ _ ha' hb' hpieces

/-! ## Two observations, each of which says half -/

/-- What an observation says of the origin, of the actor, and of an object. -/
def labStatement : Dict :=
  [("authorized_origin".toList, .text ['o']), ("actor".toList, .text ['a']),
    ("own_object".toList, .text ['x'])]

def labRow (observationId : Text) (payload : Dict) : ObservationRecord where
  observationId := observationId
  workerResultId := ['w']
  observationKind := httpAuthorizationDifferentialKind
  payload := payload

/-- The observation `p` says all but the object of another, which `q` says. -/
def labTables : Tables where
  observation id :=
    if id = ['p'] then some (labRow ['p'] labStatement)
    else if id = ['q'] then some (labRow ['q'] [("cross_object".toList, .text ['y'])])
    else none
  runOf _ := some ['r']

/-- An observation that says it all. -/
def labObservation : Source :=
  .observation (labRow ['s'] (labStatement ++
    [("cross_object".toList, .text ['y']), ("cross_object_request_status".toList, .integer 200)]))

/-- A differential between the actors of the two halves. -/
def labDifferential : Source :=
  .differential {
    differentialId := ['d']
    researchRunId := ['r']
    baselineObservationIds := [['p']]
    variantObservationIds := [['q']]
    sourceRefs := [['p'], ['q']]
    changedDimensions := ["ACTOR".toList]
    interpretation := "CONTROLLED_DIFFERENCE".toList }

theorem creates_empty {c : IdentityAnomalyContext} (hclass : c.classification = .registryExternal)
    (hargs : compilerArguments c.fields ≠ none) : Creates id .empty c :=
  creates_iff.mpr ⟨hclass, hargs, List.not_mem_nil, List.not_mem_nil, List.not_mem_nil⟩

theorem identity_anomaly_iff_lab :
    AboutOneObservation labTables ['r'] [] labObservation ∧
      AboutOneObservation labTables ['r'] [] labObservation ∧
      (Duplicates id (labObservation.context labTables ['r'] [])
          (labObservation.context labTables ['r'] []) ↔
        compilerArguments (labObservation.context labTables ['r'] []).fields =
          compilerArguments (labObservation.context labTables ['r'] []).fields) := by
  have hcreates : ∃ r, Creates id r (labObservation.context labTables ['r'] []) :=
    ⟨.empty, creates_empty (by decide) (by decide)⟩
  have hone : ∀ payload ∈ labObservation.payloads labTables ['r'],
      ∀ other ∈ labObservation.payloads labTables ['r'], payload = other := by
    intro payload hpayload other hother
    rw [List.mem_singleton.mp hpayload, List.mem_singleton.mp hother]
  have hstory : OneStory (labObservation.payloads labTables ['r']) := by
    refine ⟨?_, _, List.mem_singleton_self _, by decide⟩
    intro get hget v w hv hw
    obtain ⟨payload, hpayload, hv⟩ := List.mem_map.mp hv
    obtain ⟨other, hother, hw⟩ := List.mem_map.mp hw
    rw [hone payload hpayload other hother] at hv
    exact Option.some.inj (hv.symm.trans hw)
  refine (identity_anomaly_iff Function.injective_id labTables ['r'] [] labObservation
    labObservation hcreates hcreates).mpr ⟨hstory, hstory, ?_⟩
  intro payload hpayload other hother a b ha hb _
  rw [hone payload hpayload other hother, hb] at ha
  exact (Option.some.inj ha).symm

/-- A differential takes its actor from one observation and an object from another. -/
theorem halves_merged :
    ¬ ∀ (sha256 : Text → Text) (tables : Tables) (researchRunId : Text)
      (owningFamilyIds : List Text) (σ σ' : Source), Function.Injective sha256 →
      (∃ r, Creates sha256 r (σ.context tables researchRunId owningFamilyIds)) →
      (∃ r, Creates sha256 r (σ'.context tables researchRunId owningFamilyIds)) →
      AboutOneObservation tables researchRunId owningFamilyIds σ ∧
        AboutOneObservation tables researchRunId owningFamilyIds σ' ∧
        (Duplicates sha256 (σ.context tables researchRunId owningFamilyIds)
            (σ'.context tables researchRunId owningFamilyIds) ↔
          compilerArguments (σ.context tables researchRunId owningFamilyIds).fields =
            compilerArguments (σ'.context tables researchRunId owningFamilyIds).fields) := by
  intro h
  have hcreates : ∃ r, Creates id r (labDifferential.context labTables ['r'] []) :=
    ⟨.empty, creates_empty (by decide) (by decide)⟩
  obtain ⟨hone, -⟩ := h id labTables ['r'] [] labDifferential labDifferential
    Function.injective_id hcreates hcreates
  obtain ⟨payload, hpayload, hsame⟩ := hone.one
  have hpayloads : labDifferential.payloads labTables ['r'] =
      [labStatement, [("cross_object".toList, .text ['y'])]] := rfl
  rw [hpayloads, List.mem_pair] at hpayload
  rcases hpayload with rfl | rfl
  · revert hsame
    decide
  · revert hsame
    decide

end Zest.IdentityAnomaly

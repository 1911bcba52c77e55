import Mathlib.Data.List.Nodup
import Mathlib.Data.List.Perm.Subperm
import Zest.Fallible
import Zest.MatrixCoverage
import Zest.MutationVariants
import Zest.StoredJson

/-! # What the variants of a node are

Every variant is made by its family's list, so what holds between the entries of the
list holds between the variants.  The names of variants differ since families and
rules do, and since a family numbers what it makes.  A variant is no request of the
node itself, as it has an argument more.

Two variants may still be one request: the value `0` is given to a parameter as a
juggled type and again as a boundary value.  And the audit record of a variant is
bounded only as far as what stands beside its arguments is.
-/
namespace Zest.Mutation

open CanonicalJson (Document written)
open JsonValue (Same SameEntries)
open MutationMatrix (paddedIndex)
open Reasoning (Required requireText)

/-! ## What a request is, up to the order of its keys -/

/-- The text of a value, or the one entry of a dictionary. -/
def flat : JsonValue → Option (Text × Text)
  | .text s => some ([], s)
  | .object [(key, .text s)] => some (key, s)
  | _ => none

theorem flat_object_iff {entries : List (Text × JsonValue)} {entry : Text × Text} :
    flat (.object entries) = some entry ↔ entries = [(entry.1, .text entry.2)] := by
  constructor
  · intro h
    unfold flat at h
    split at h
    · next hshape => cases hshape
    · next key s hshape =>
      obtain rfl := Option.some.inj h
      injection hshape
    · cases h
  · rintro rfl
    rfl

theorem same_text_iff {value : JsonValue} {s : Text} : Same value (.text s) ↔ value = .text s := by
  constructor
  · intro h
    cases h
    rfl
  · rintro rfl
    exact .text s

/-- One entry that is a text can be compared as it stands. -/
theorem single_of_same {entries permuted others : List (Text × JsonValue)}
    (hperm : entries.Perm permuted) (h : SameEntries permuted others) (key s : Text) :
    entries = [(key, .text s)] ↔ others = [(key, .text s)] := by
  constructor
  · rintro rfl
    obtain rfl := List.perm_singleton.mp hperm.symm
    cases h with
    | cons hvalue hrest =>
      cases hrest
      cases hvalue
      rfl
  · rintro rfl
    cases h with
    | cons hvalue hrest =>
      cases hrest
      obtain rfl := same_text_iff.mp hvalue
      exact List.perm_singleton.mp hperm

theorem flat_congr {value other : JsonValue} (h : Same value other) : flat value = flat other := by
  cases h with
  | object hperm hentries =>
    ext entry
    rw [flat_object_iff, flat_object_iff]
    exact single_of_same hperm hentries entry.1 entry.2
  | null => rfl
  | bool b => rfl
  | integer n => rfl
  | real value => rfl
  | text s => rfl
  | array h => rfl

theorem flat_lookup_congr {entries others : List (Text × JsonValue)}
    (h : SameEntries entries others) (key : Text) :
    (Dict.lookup entries key).bind flat = (Dict.lookup others key).bind flat := by
  induction entries generalizing others with
  | nil =>
    cases h
    rfl
  | cons entry rest ih =>
    cases h with
    | @cons name value other rest others hvalue hrest =>
      rw [Dict.lookup_cons, Dict.lookup_cons]
      by_cases hkey : name = key
      · rw [if_pos hkey, if_pos hkey]
        exact flat_congr hvalue
      · rw [if_neg hkey, if_neg hkey]
        exact ih hrest

/-- The arguments by which variants are told apart. -/
def mark (arguments : Dict) : List (Option (Text × Text)) :=
  ["headers".toList, "query".toList, "content_type".toList].map fun key =>
    (Dict.lookup arguments key).bind flat

theorem mark_congr {arguments others : Dict} (hnodup : (arguments.map (·.1)).Nodup)
    (h : Same (.object arguments) (.object others)) : mark arguments = mark others := by
  cases h with
  | object hperm hentries =>
    refine List.map_congr_left fun key _ => ?_
    rw [← flat_lookup_congr hentries key, Dict.lookup, Dict.lookup,
      KeyedList.get_perm hperm hnodup]

/-! ## What the families specify -/

/-- Everything that some families make of some parameters. -/
def allSpecs (families : List MutationFamily) (params : List Text) : List (Text × VariantSpec) :=
  families.flatMap fun family => (family.specs params).map fun spec => (family.familyId, spec)

/-- The keys of what is put over the arguments of a node. -/
def overrideKeys : List Text :=
  ["query", "headers", "method", "content_type", "body"].map String.toList

/-- What is put over the arguments of a node has its keys once, and shows. -/
structure Shows (override : Dict) : Prop where
  keysOnce : (override.map (·.1)).Nodup
  marked : mark override ≠ mark []
  keysKnown : ∀ key ∈ override.map (·.1), key ∈ overrideKeys

theorem shows_queryOf (param value : Text) : Shows (queryOf param value) := by
  refine ⟨List.nodup_singleton _, fun h => ?_, fun key hkey => ?_⟩
  · have hquery := congrArg (·[1]?) h
    cases hquery
  · obtain rfl := List.mem_singleton.mp hkey
    exact List.mem_cons_self

theorem shows_eachValue {ruleId : String} {values : List String} {params : List Text}
    {spec : VariantSpec} (h : spec ∈ eachValue ruleId values params) : Shows spec.override := by
  obtain ⟨param, -, h⟩ := List.mem_flatMap.mp h
  obtain ⟨value, -, rfl⟩ := List.mem_map.mp h
  exact shows_queryOf _ _

theorem shows_eachOverride {ruleId action : String} {overrides : List Dict}
    (hall : ∀ override ∈ overrides, Shows override) {spec : VariantSpec}
    (h : spec ∈ eachOverride ruleId action overrides) : Shows spec.override := by
  obtain ⟨entry, hentry, rfl⟩ := List.mem_map.mp h
  exact hall _ (List.fst_mem_of_mem_zipIdx hentry)

theorem shows_single (name : String) (hname : name = "headers" ∨ name = "query")
    (entry : String × String) : Shows (single name entry) := by
  refine ⟨List.nodup_singleton _, fun h => ?_, fun key hkey => ?_⟩
  · rcases hname with rfl | rfl
    · have hheaders := congrArg (·[0]?) h
      cases hheaders
    · have hquery := congrArg (·[1]?) h
      cases hquery
  · obtain rfl := List.mem_singleton.mp hkey
    rcases hname with rfl | rfl
    · exact List.mem_cons_of_mem _ List.mem_cons_self
    · exact List.mem_cons_self

/-- **Every variant shows** in the arguments. -/
theorem shows_of_mem {params : List Text} {entry : Text × VariantSpec}
    (h : entry ∈ allSpecs defaultMutationFamilies params) : Shows entry.2.override := by
  obtain ⟨family, hfamily, h⟩ := List.mem_flatMap.mp h
  obtain ⟨spec, hspec, rfl⟩ := List.mem_map.mp h
  simp only [defaultMutationFamilies, List.mem_cons, List.not_mem_nil, or_false] at hfamily
  rcases hfamily with rfl | rfl | rfl | rfl | rfl | rfl | rfl
  · obtain ⟨param, -, hspec⟩ := List.mem_flatMap.mp hspec
    rcases List.mem_pair.mp hspec with rfl | rfl
    · refine ⟨List.nodup_singleton _, fun h => ?_, fun key hkey => ?_⟩
      · have hquery := congrArg (·[1]?) h
        simp [mark, Dict.lookup_cons, Dict.update, Dict.set, KeyedList.upsert, flat,
          Dict.lookup_nil] at hquery
      · obtain rfl := List.mem_singleton.mp hkey
        exact List.mem_cons_self
    · exact shows_queryOf _ _
  · exact shows_eachValue hspec
  · exact shows_eachValue hspec
  · refine shows_eachOverride (fun override hoverride => ?_) hspec
    obtain ⟨header, -, rfl⟩ := List.mem_map.mp hoverride
    exact shows_single "headers" (.inl rfl) header
  · refine shows_eachOverride (fun override hoverride => ?_) hspec
    simp only [methodOverrides, List.mem_cons, List.not_mem_nil, or_false] at hoverride
    rcases hoverride with rfl | rfl | rfl | rfl
    · exact shows_single "headers" (.inl rfl) _
    · exact shows_single "headers" (.inl rfl) _
    · exact shows_single "query" (.inr rfl) _
    · exact shows_single "query" (.inr rfl) _
  · refine shows_eachOverride (fun override hoverride => ?_) hspec
    obtain ⟨contentType, -, rfl⟩ := List.mem_map.mp hoverride
    refine ⟨by simp only [List.map_cons, List.map_nil]; decide, fun h => ?_, ?_⟩
    · have hcontent := congrArg (·[2]?) h
      cases hcontent
    · simp only [List.map_cons, List.map_nil]
      decide
  · exact shows_eachValue hspec

/-! ## How variants are numbered -/

/-- What a variant of a family is called by. -/
def VariantSpec.number (spec : VariantSpec) : Text × Nat := (spec.ruleId, spec.index)

theorem pairwise_zipIdx {α : Type} (items : List α) :
    items.zipIdx.Pairwise fun a b => a.2 ≠ b.2 := by
  rw [← List.pairwise_map (f := Prod.snd) (R := fun i j : Nat => i ≠ j), List.zipIdx_map_snd]
  exact List.nodup_range'

theorem nodup_eachValue (ruleId : String) {values : List String} (hvalues : values.length ≤ 10)
    (params : List Text) : ((eachValue ruleId values params).map VariantSpec.number).Nodup := by
  rw [eachValue, List.map_flatMap, List.nodup_flatMap]
  constructor
  · intro param _
    rw [List.map_map]
    refine (List.pairwise_map.mpr ((pairwise_zipIdx values).imp fun {a b} hne hsame => hne ?_))
    have hindex := congrArg Prod.snd hsame
    exact Nat.add_left_cancel hindex
  · refine (pairwise_zipIdx params).imp fun {a b} hne => ?_
    -- ten numbers are kept for the values of a parameter
    refine List.disjoint_left.mpr ?_
    intro number ha hb
    beta_reduce at ha hb
    rw [List.map_map] at ha hb
    obtain ⟨value, hvalue, rfl⟩ := List.mem_map.mp ha
    obtain ⟨other, hother, hsame⟩ := List.mem_map.mp hb
    have hindex : b.2 * 10 + other.2 = a.2 * 10 + value.2 := congrArg Prod.snd hsame
    have hlt := List.snd_lt_of_mem_zipIdx hvalue
    have hlt' := List.snd_lt_of_mem_zipIdx hother
    omega

theorem nodup_eachOverride (ruleId action : String) (overrides : List Dict) :
    ((eachOverride ruleId action overrides).map VariantSpec.number).Nodup := by
  rw [eachOverride, List.map_map]
  refine List.pairwise_map.mpr ((pairwise_zipIdx overrides).imp fun {a b} hne hsame => hne ?_)
  have hnumbers : (ruleId.toList, a.2) = (ruleId.toList, b.2) := hsame
  have hindex := congrArg Prod.snd hnumbers
  exact hindex

theorem numbers_paramPollution (params : List Text) :
    (paramPollutionFamily.specs params).map VariantSpec.number = params.zipIdx.flatMap fun param =>
      [("duplicate_param".toList, param.2), ("array_param".toList, param.2)] :=
  List.map_flatMap

theorem nodup_paramPollution (params : List Text) :
    ((paramPollutionFamily.specs params).map VariantSpec.number).Nodup := by
  rw [numbers_paramPollution, List.nodup_flatMap]
  constructor
  · intro param _
    rw [List.nodup_cons, List.mem_singleton]
    refine ⟨fun hsame => ?_, List.nodup_singleton _⟩
    have hrules : "duplicate_param".toList = "array_param".toList := congrArg Prod.fst hsame
    exact absurd hrules (by decide)
  · refine (pairwise_zipIdx params).imp fun {a b} hne => ?_
    refine List.disjoint_left.mpr ?_
    intro number ha hb
    have hindex : ∀ param : Text × Nat, number ∈ [("duplicate_param".toList, param.2),
        ("array_param".toList, param.2)] → number.2 = param.2 := by
      intro param hmem
      rcases List.mem_pair.mp hmem with rfl | rfl
      · rfl
      · rfl
    exact hne ((hindex a ha).symm.trans (hindex b hb))

/-- A family numbers what it makes. -/
theorem nodup_numbers {family : MutationFamily} (h : family ∈ defaultMutationFamilies)
    (params : List Text) : ((family.specs params).map VariantSpec.number).Nodup := by
  simp only [defaultMutationFamilies, List.mem_cons, List.not_mem_nil, or_false] at h
  rcases h with rfl | rfl | rfl | rfl | rfl | rfl | rfl
  · exact nodup_paramPollution params
  · exact nodup_eachValue _ (by decide) params
  · exact nodup_eachValue _ (by decide) params
  · exact nodup_eachOverride _ _ _
  · exact nodup_eachOverride _ _ _
  · exact nodup_eachOverride _ _ _
  · exact nodup_eachValue _ (by decide) params

theorem colon_not_mem_paddedIndex (index : Nat) : ':' ∉ paddedIndex index := by
  rw [paddedIndex, List.leftpad, List.mem_append, List.mem_replicate]
  rintro (⟨-, h⟩ | h)
  · cases h
  · exact absurd (Nat.isDigit_of_mem_toDigits (by decide) (by decide) h) (by decide)

/-- What stands before a character for the first time. -/
theorem append_cons_inj {c : Char} {s s' t t' : Text} (hs : c ∉ s) (hs' : c ∉ s')
    (h : s ++ c :: t = s' ++ c :: t') : s = s' ∧ t = t' := by
  induction s generalizing s' with
  | nil =>
    cases s' with
    | nil => exact ⟨rfl, (List.cons.inj h).2⟩
    | cons d s' =>
      obtain ⟨rfl, -⟩ := List.cons.inj h
      exact absurd List.mem_cons_self hs'
  | cons d s ih =>
    cases s' with
    | nil =>
      obtain ⟨rfl, -⟩ := List.cons.inj h
      exact absurd List.mem_cons_self hs
    | cons d' s' =>
      obtain ⟨rfl, hrest⟩ := List.cons.inj h
      obtain ⟨rfl, htail⟩ := ih (List.not_mem_of_not_mem_cons hs)
        (List.not_mem_of_not_mem_cons hs') hrest
      exact ⟨rfl, htail⟩

/-- A family, a rule and a number can be read off a name. -/
theorem variantSuffix_injective {familyId familyId' ruleId ruleId' : Text} {index index' : Nat}
    (hfamily : ':' ∉ familyId) (hfamily' : ':' ∉ familyId')
    (h : variantSuffix familyId ruleId index = variantSuffix familyId' ruleId' index') :
    familyId = familyId' ∧ ruleId = ruleId' ∧ index = index' := by
  simp only [variantSuffix, List.cons_append, List.append_assoc] at h
  obtain ⟨hfamilies, hrest⟩ := append_cons_inj hfamily hfamily' (List.cons.inj h).2
  have hreverse := congrArg List.reverse hrest
  simp only [List.reverse_append, List.reverse_cons, List.append_assoc, List.singleton_append]
    at hreverse
  have hfree : ∀ i, ':' ∉ (paddedIndex i).reverse := fun i => by
    rw [List.mem_reverse]
    exact colon_not_mem_paddedIndex i
  obtain ⟨hindex, hrules⟩ := append_cons_inj (hfree index) (hfree index') hreverse
  exact ⟨hfamilies, List.reverse_inj.mp hrules,
    MutationMatrix.paddedIndex_injective (List.reverse_inj.mp hindex)⟩

/-- **No two variants** have one name. -/
theorem nodup_suffixes (params : List Text) :
    ((allSpecs defaultMutationFamilies params).map fun entry =>
      variantSuffix entry.1 entry.2.ruleId entry.2.index).Nodup := by
  have hfree : ∀ family ∈ defaultMutationFamilies, ':' ∉ family.familyId := by
    intro family hfamily
    simp only [defaultMutationFamilies, List.mem_cons, List.not_mem_nil, or_false] at hfamily
    rcases hfamily with rfl | rfl | rfl | rfl | rfl | rfl | rfl
    all_goals decide
  have hids : (defaultMutationFamilies.map (·.familyId)).Nodup := by
    simp only [defaultMutationFamilies, List.map_cons, List.map_nil]
    decide
  rw [allSpecs, List.map_flatMap, List.nodup_flatMap]
  constructor
  · intro family hfamily
    have hnumbers := nodup_numbers hfamily params
    rw [List.Nodup, List.pairwise_map] at hnumbers
    rw [List.map_map]
    refine List.pairwise_map.mpr (hnumbers.imp fun {a b} hne hsame => hne ?_)
    obtain ⟨-, hrule, hindex⟩ :=
      variantSuffix_injective (hfree family hfamily) (hfree family hfamily) hsame
    exact Prod.ext hrule hindex
  · rw [List.Nodup, List.pairwise_map] at hids
    refine hids.imp_of_mem fun {family other} hfamily hother hne => ?_
    refine List.disjoint_left.mpr ?_
    intro suffix hsuffix hsuffix'
    beta_reduce at hsuffix hsuffix'
    rw [List.map_map] at hsuffix hsuffix'
    obtain ⟨spec, -, rfl⟩ := List.mem_map.mp hsuffix
    obtain ⟨spec', -, hsame⟩ := List.mem_map.mp hsuffix'
    exact hne (variantSuffix_injective (hfree other hother) (hfree family hfamily) hsame).1.symm

/-! ## What has been made -/

section Made

variable {repr : JsonValue → Text} {node : MutationNode} {provenance : List (Text × Text)}
  {idPrefix : Text}

/-- A variant that has been made of an entry of a family's list. -/
structure Made (node : MutationNode) (provenance : List (Text × Text)) (idPrefix : Text)
    (entry : Text × VariantSpec) (variant : MutationVariant) : Prop where
  base : ∃ base, node.baseArguments = .ok base ∧
    variant.arguments = base.update entry.2.override
  variantId : variant.variantId.val =
    variantIdOf idPrefix entry.1 entry.2.ruleId entry.2.index
  nodeId : variant.nodeId.val = node.nodeId
  familyId : variant.familyId.val = entry.1
  mutationRuleId : variant.mutationRuleId.val = entry.2.ruleId
  targetReference : variant.targetReference.val = node.canonicalKey
  scopeClassification : variant.scopeClassification = node.scopeClassification
  capabilityId : variant.capabilityId.val = "http.transaction".toList
  action : variant.action.val = entry.2.action
  provenance : variant.provenance =
    mergeProvenance provenance (node.safeProvenance entry.1 entry.2.ruleId)

theorem requireVariantText_eq_ok {value : Text} {field : String} {required : Required}
    (h : requireVariantText value field = .ok required) : required.val = value := by
  unfold requireVariantText requireText at h
  by_cases hblank : value.strip ≠ []
  · rw [dif_pos hblank] at h
    obtain rfl := Except.ok.inj h
    rfl
  · rw [dif_neg hblank] at h
    cases h

theorem made_of_variantOf {entry : Text × VariantSpec} {variant : MutationVariant}
    (h : variantOf node provenance idPrefix entry.1 entry.2 = .ok variant) :
    Made node provenance idPrefix entry variant := by
  unfold variantOf MutationVariant.make at h
  obtain ⟨base, hbase, h⟩ := bind_eq_ok h
  obtain ⟨variantId, hvariantId, h⟩ := bind_eq_ok h
  obtain ⟨nodeId, hnodeId, h⟩ := bind_eq_ok h
  obtain ⟨familyId, hfamilyId, h⟩ := bind_eq_ok h
  obtain ⟨ruleId, hruleId, h⟩ := bind_eq_ok h
  obtain ⟨targetReference, htargetReference, h⟩ := bind_eq_ok h
  obtain ⟨capabilityId, hcapabilityId, h⟩ := bind_eq_ok h
  obtain ⟨action, haction, h⟩ := bind_eq_ok h
  split at h
  · obtain rfl := Except.ok.inj h
    exact ⟨⟨base, hbase, rfl⟩, requireVariantText_eq_ok hvariantId,
      requireVariantText_eq_ok hnodeId, requireVariantText_eq_ok hfamilyId,
      requireVariantText_eq_ok hruleId, requireVariantText_eq_ok htargetReference, rfl,
      requireVariantText_eq_ok hcapabilityId, requireVariantText_eq_ok haction, rfl⟩
  · cases h

variable {families : List MutationFamily} {graph : MutationGraph}
  {variants : List MutationVariant}

/-- **A node that is mutated** has a variant of every entry of the lists. -/
theorem mutateForNode_eq_ok (hscope : node.scopeClassification = .inScope)
    (hkind : node.kind ∈ supportedMutationNodeKinds)
    (h : mutateForNode repr families node graph idPrefix = .ok variants) :
    (allSpecs families (node.queryParams repr)).mapM (fun entry =>
      variantOf node graph.provenance idPrefix entry.1 entry.2) = .ok variants := by
  rw [mutateForNode, if_neg (not_not.mpr hscope), if_neg (not_not.mpr hkind)] at h
  obtain ⟨lists, hlists, h⟩ := bind_eq_ok h
  obtain rfl := Except.ok.inj h
  refine mapM_pairs ?_
  rw [← hlists]
  refine congrArg (families.mapM ·) (funext fun family => ?_)
  rw [MutationFamily.generate, if_neg (not_not.mpr hkind)]

/-- A node that is out of scope or of another kind is not mutated. -/
theorem mutateForNode_nil
    (h : node.scopeClassification ≠ .inScope ∨ node.kind ∉ supportedMutationNodeKinds) :
    mutateForNode repr families node graph idPrefix = .ok [] := by
  unfold mutateForNode
  by_cases hscope : node.scopeClassification ≠ .inScope
  · rw [if_pos hscope]
  · rw [if_neg hscope, if_pos (h.resolve_left hscope)]

theorem keys_requestOf (origin path method : Text) :
    (MutationNode.requestOf origin path method).map (·.1) =
      ["authorized_origin".toList, "path".toList, "method".toList] := rfl

theorem exists_requestOf {base : Dict} (h : node.baseArguments = .ok base) :
    ∃ origin path method, base = MutationNode.requestOf origin path method := by
  unfold MutationNode.baseArguments at h
  obtain ⟨origin, -, h⟩ := bind_eq_ok h
  obtain ⟨path, -, h⟩ := bind_eq_ok h
  obtain ⟨method, -, h⟩ := bind_eq_ok h
  exact ⟨origin, path, method, (Except.ok.inj h).symm⟩

/-- The request of a node shows none of what variants are told apart by. -/
theorem mark_update (origin path method : Text) {override : Dict}
    (hnodup : (override.map (·.1)).Nodup) :
    mark ((MutationNode.requestOf origin path method).update override) = mark override := by
  refine List.map_congr_left fun key hkey => ?_
  have hbase : Dict.lookup (MutationNode.requestOf origin path method) key = none := by
    refine Dict.lookup_eq_none ?_
    rw [keys_requestOf]
    revert key
    decide
  rw [Dict.lookup_update hnodup, hbase, Option.or_none]

theorem nodup_update {d : Dict} (more : Dict) (h : (d.map (·.1)).Nodup) :
    ((d.update more).map (·.1)).Nodup := by
  induction more generalizing d with
  | nil => exact h
  | cons entry more ih => exact ih (Dict.nodup_set entry.1 entry.2 h)

theorem nodup_requestOf (origin path method : Text) :
    ((MutationNode.requestOf origin path method).map (·.1)).Nodup := by
  rw [keys_requestOf]
  decide

/-- **Variants that show different things** are different requests. -/
theorem Made.differ {entry other : Text × VariantSpec} {variant variant' : MutationVariant}
    (hentry : Shows entry.2.override) (hother : Shows other.2.override)
    (hne : mark entry.2.override ≠ mark other.2.override)
    (h : Made node provenance idPrefix entry variant)
    (h' : Made node provenance idPrefix other variant') :
    ¬ Same (.object variant.arguments) (.object variant'.arguments) := by
  intro hsame
  obtain ⟨base, hbase, harguments⟩ := h.base
  obtain ⟨base', hbase', harguments'⟩ := h'.base
  obtain rfl : base = base' := Except.ok.inj (hbase.symm.trans hbase')
  obtain ⟨origin, path, method, rfl⟩ := exists_requestOf hbase
  rw [harguments, harguments'] at hsame
  have hmarks := mark_congr (nodup_update _ (nodup_requestOf origin path method)) hsame
  rw [mark_update _ _ _ hentry.keysOnce, mark_update _ _ _ hother.keysOnce] at hmarks
  exact hne hmarks

/-- A variant is not the request of its node. -/
theorem Made.mutated {entry : Text × VariantSpec} {variant : MutationVariant}
    (hentry : Shows entry.2.override) (h : Made node provenance idPrefix entry variant)
    {base : Dict} (hbase : node.baseArguments = .ok base) :
    ¬ Same (.object variant.arguments) (.object base) := by
  intro hsame
  obtain ⟨base', hbase', harguments⟩ := h.base
  obtain rfl : base = base' := Except.ok.inj (hbase.symm.trans hbase')
  obtain ⟨origin, path, method, rfl⟩ := exists_requestOf hbase
  rw [harguments] at hsame
  have hmarks := mark_congr (nodup_update _ (nodup_requestOf origin path method)) hsame
  rw [mark_update _ _ _ hentry.keysOnce] at hmarks
  have hnone : mark (MutationNode.requestOf origin path method) = mark [] :=
    @mark_update origin path method [] List.nodup_nil
  exact hentry.marked (hmarks.trans hnone)

end Made

/-! ## How large a summary is -/

/-- The members of an object whose values are texts take two places for each. -/
def keysSize : List Text → Nat
  | [] => 0
  | key :: rest => written key + 6 + keysSize rest

theorem keysSize_le_of_subperm {keys others : List Text} (h : keys.Subperm others) :
    keysSize keys ≤ keysSize others := by
  obtain ⟨middle, hperm, hsub⟩ := h
  have hsame : keysSize keys = keysSize middle := by
    clear hsub
    induction hperm with
    | nil => rfl
    | cons key _ ih => rw [keysSize, keysSize, ih]
    | swap key other rest =>
      rw [keysSize, keysSize, keysSize, keysSize]
      omega
    | trans _ _ ih ih' => exact ih'.trans ih
  rw [hsame]
  clear hsame hperm
  induction hsub with
  | slnil => exact Nat.le_refl _
  | cons key _ ih =>
    rw [keysSize]
    omega
  | cons_cons key _ ih =>
    rw [keysSize, keysSize]
    omega

theorem keysSize_le_membersSize (d : Dict) (text : JsonValue → Text) :
    keysSize (d.map (·.1)) ≤
      Document.membersSize (d.map fun entry => (entry.1, .text (text entry.2))) := by
  induction d with
  | nil => exact Nat.le_refl _
  | cons entry d ih =>
    rw [List.map_cons, List.map_cons, keysSize, Document.membersSize, Document.size]
    omega

/-- An argument that the request of a node does not have makes a summary of the
arguments longer than what may stand for it. -/
theorem size_truncatedArguments_le (repr : JsonValue → Text) (origin path method : Text)
    {override : Dict} (h : Shows override) :
    Document.size truncatedArguments ≤ Document.size (summaryArguments repr
      ((MutationNode.requestOf origin path method).update override)) := by
  have hkey : ∃ key ∈ ["headers".toList, "query".toList, "content_type".toList],
      key ∈ override.map (·.1) := by
    by_contra hnone
    push Not at hnone
    refine h.marked (List.map_congr_left fun key hkey => ?_)
    rw [Dict.lookup_eq_none (hnone key hkey), Dict.lookup_nil]
  obtain ⟨key, hmem, hkey⟩ := hkey
  have hkeys : (["authorized_origin".toList, "path".toList, "method".toList, key] :
      List Text).Subperm
      (((MutationNode.requestOf origin path method).update override).map (·.1)) := by
    refine List.subperm_of_subset ?_ fun name hname => ?_
    · clear hkey
      revert key
      decide
    · rw [Dict.mem_keys_update, keys_requestOf]
      simp only [List.mem_cons, List.not_mem_nil, or_false] at hname ⊢
      rcases hname with h | h | h | rfl
      · exact .inl (.inl h)
      · exact .inl (.inr (.inl h))
      · exact .inl (.inr (.inr h))
      · exact .inr hkey
  have hsize := (keysSize_le_of_subperm hkeys).trans
    (keysSize_le_membersSize _ (summaryText repr))
  have hlower : 47 ≤ keysSize ["authorized_origin".toList, "path".toList, "method".toList, key] :=
    by
    clear hkeys hsize hkey
    revert key
    decide
  rw [summaryArguments, Document.size]
  have htruncated : Document.size truncatedArguments = 48 := by decide
  omega

/-- What a summary is bounded by, apart from its arguments. -/
def overhead (entry : Text × VariantSpec) : Nat :=
  written (variantSuffix entry.1 entry.2.ruleId entry.2.index) + 2 * written entry.1 +
    2 * written entry.2.ruleId + written entry.2.action

/-- What the node, the graph and the prefix take of a summary. -/
def named (node : MutationNode) (graph : MutationGraph) (idPrefix : Text) : Nat :=
  written idPrefix + 2 * written node.nodeId + written node.canonicalKey +
    written graph.researchRunId + written graph.strategyVersion

section Size

variable {node : MutationNode} {graph : MutationGraph} {idPrefix : Text}
  {entry : Text × VariantSpec} {variant : MutationVariant}

theorem mergeProvenance_safe (node : MutationNode) (graph : MutationGraph)
    (familyId ruleId : Text) :
    mergeProvenance graph.provenance (node.safeProvenance familyId ruleId) =
      [("graph_research_run_id".toList, graph.researchRunId),
        ("graph_strategy_version".toList, graph.strategyVersion),
        ("node_id".toList, node.nodeId), ("family_id".toList, familyId),
        ("mutation_rule_id".toList, ruleId),
        ("node_canonical_key".toList, node.canonicalKey)] := rfl

/-- **How large a summary is.** -/
theorem Made.size_summary (hscope : node.scopeClassification = .inScope)
    (h : Made node graph.provenance idPrefix entry variant) (arguments : Document) :
    Document.size (variant.summaryWith arguments) =
      305 + named node graph idPrefix + overhead entry + Document.size arguments := by
  rw [MutationVariant.summaryWith, h.variantId, h.nodeId, h.familyId, h.mutationRuleId,
    h.scopeClassification, hscope, h.capabilityId, h.action, h.provenance, mergeProvenance_safe]
  simp only [Document.size, Document.membersSize, List.map_cons, List.map_nil, variantIdOf,
    CanonicalJson.written_append, named, overhead]
  have hkeys : written "variant_id".toList = 10 ∧ written "node_id".toList = 7 ∧
      written "family_id".toList = 9 ∧ written "mutation_rule_id".toList = 16 ∧
      written "capability_id".toList = 13 ∧ written "action".toList = 6 ∧
      written "scope_classification".toList = 20 ∧ written "arguments".toList = 9 ∧
      written "provenance".toList = 10 := by decide
  have hprovenance : written "graph_research_run_id".toList = 21 ∧
      written "graph_strategy_version".toList = 22 ∧
      written "node_canonical_key".toList = 18 := by decide
  have hvalues : written "http.transaction".toList = 16 ∧
      written ScopeClassification.inScope.value.toList = 8 := by decide
  omega

/-- **Which summaries are bounded**: those whose arguments may be left out. -/
theorem Made.bounded_iff (repr : JsonValue → Text) (hscope : node.scopeClassification = .inScope)
    (hshows : Shows entry.2.override) (h : Made node graph.provenance idPrefix entry variant) :
    (variant.toPublicSummary repr).dumps.length ≤ maxAuditArgumentBytes ↔
      353 + named node graph idPrefix + overhead entry ≤ maxAuditArgumentBytes := by
  obtain ⟨base, hbase, harguments⟩ := h.base
  obtain ⟨origin, path, method, rfl⟩ := exists_requestOf hbase
  have hsmaller := size_truncatedArguments_le repr origin path method hshows
  rw [← harguments] at hsmaller
  have hfull := h.size_summary hscope (summaryArguments repr variant.arguments)
  have hcut := h.size_summary hscope truncatedArguments
  have htruncated : Document.size truncatedArguments = 48 := by decide
  unfold MutationVariant.toPublicSummary
  by_cases hlarge : maxAuditArgumentBytes <
      (variant.summaryWith (summaryArguments repr variant.arguments)).dumps.length
  · rw [if_pos hlarge, Document.length_dumps]
    omega
  · rw [if_neg hlarge]
    rw [Document.length_dumps] at hlarge ⊢
    omega

end Size

/-! ## Real mutations -/

/-- Two variants describe one request. -/
def SameRequest (variant other : MutationVariant) : Prop :=
  variant.capabilityId = other.capabilityId ∧ variant.action = other.action ∧
    Same (.object variant.arguments) (.object other.arguments)

/-- **What is asked of the variants of a node.** -/
structure RealMutations (repr : JsonValue → Text) (node : MutationNode)
    (variants : List MutationVariant) : Prop where
  ids : (variants.map (·.variantId)).Nodup
  distinct : variants.Pairwise fun variant other => ¬ SameRequest variant other
  mutated : ∀ variant ∈ variants, ∀ base, node.baseArguments = .ok base →
    ¬ Same (.object variant.arguments) (.object base)
  bounded : ∀ variant ∈ variants,
    (variant.toPublicSummary repr).dumps.length ≤ maxAuditArgumentBytes

section Variants

variable {repr : JsonValue → Text} {node : MutationNode} {graph : MutationGraph}
  {idPrefix : Text} {variants : List MutationVariant}

/-- **The names of all variants** differ, whatever the parameters are. -/
theorem nodup_variantIds {params : List Text}
    (h : (allSpecs defaultMutationFamilies params).mapM (fun entry =>
      variantOf node graph.provenance idPrefix entry.1 entry.2) = .ok variants) :
    (variants.map (·.variantId)).Nodup := by
  have hsuffixes := nodup_suffixes params
  rw [List.Nodup, List.pairwise_map] at hsuffixes ⊢
  refine pairwise_of_mapM_eq_ok h hsuffixes fun entry other variant variant' hne hmade hmade' => ?_
  intro hsame
  have hids : variant.variantId.val = variant'.variantId.val := congrArg Subtype.val hsame
  rw [(made_of_variantOf hmade).variantId, (made_of_variantOf hmade').variantId] at hids
  exact hne (List.append_cancel_left hids)

/-- A variant and what it has been made of. -/
theorem exists_made {params : List Text}
    (h : (allSpecs defaultMutationFamilies params).mapM (fun entry =>
      variantOf node graph.provenance idPrefix entry.1 entry.2) = .ok variants)
    {entry : Text × VariantSpec} (hentry : entry ∈ allSpecs defaultMutationFamilies params) :
    ∃ variant ∈ variants, Made node graph.provenance idPrefix entry variant := by
  obtain ⟨variant, hvariant⟩ := exists_of_mapM_eq_ok h entry hentry
  exact ⟨variant, mem_made_of_mapM_eq_ok h hentry hvariant, made_of_variantOf hvariant⟩

/-- Of two variants of one request, one is not there. -/
theorem eq_of_pairwise {R : MutationVariant → MutationVariant → Prop}
    (h : variants.Pairwise fun variant other => ¬ R variant other)
    {variant other : MutationVariant} (hvariant : variant ∈ variants) (hother : other ∈ variants)
    (hsame : R variant other) (hsame' : R other variant) : variant = other := by
  rw [List.pairwise_iff_getElem] at h
  obtain ⟨i, hi, rfl⟩ := List.mem_iff_getElem.mp hvariant
  obtain ⟨j, hj, rfl⟩ := List.mem_iff_getElem.mp hother
  rcases Nat.lt_trichotomy i j with hlt | rfl | hlt
  · exact absurd hsame (h i j hi hj hlt)
  · rfl
  · exact absurd hsame' (h j i hj hi hlt)

/-- A parameter gets the value `0` twice. -/
theorem not_distinct {param : Text} {params : List Text}
    (h : (allSpecs defaultMutationFamilies (param :: params)).mapM (fun entry =>
      variantOf node graph.provenance idPrefix entry.1 entry.2) = .ok variants) :
    ¬ variants.Pairwise fun variant other => ¬ SameRequest variant other := by
  intro hdistinct
  have hjuggled : ("type_juggling".toList, (⟨"type_juggling".toList, 3, "read".toList,
      queryOf param "0".toList⟩ : VariantSpec)) ∈
        allSpecs defaultMutationFamilies (param :: params) := by
    refine List.mem_flatMap.mpr ⟨typeJugglingFamily, by simp [defaultMutationFamilies], ?_⟩
    refine List.mem_map.mpr ⟨_, List.mem_flatMap.mpr ⟨(param, 0), List.mem_cons_self, ?_⟩, rfl⟩
    exact List.mem_map.mpr ⟨("0", 3), by simp [typeVariants], rfl⟩
  have hboundary : ("boundary_value".toList, (⟨"boundary".toList, 1, "read".toList,
      queryOf param "0".toList⟩ : VariantSpec)) ∈
        allSpecs defaultMutationFamilies (param :: params) := by
    refine List.mem_flatMap.mpr ⟨boundaryValueFamily, by simp [defaultMutationFamilies], ?_⟩
    refine List.mem_map.mpr ⟨_, List.mem_flatMap.mpr ⟨(param, 0), List.mem_cons_self, ?_⟩, rfl⟩
    exact List.mem_map.mpr ⟨("0", 1), by simp [boundaryValues], rfl⟩
  obtain ⟨variant, hvariant, hmade⟩ := exists_made h hjuggled
  obtain ⟨other, hother, hmade'⟩ := exists_made h hboundary
  have harguments : variant.arguments = other.arguments := by
    obtain ⟨base, hbase, harguments⟩ := hmade.base
    obtain ⟨base', hbase', harguments'⟩ := hmade'.base
    obtain rfl : base = base' := Except.ok.inj (hbase.symm.trans hbase')
    rw [harguments, harguments']
  have hcapability : variant.capabilityId = other.capabilityId :=
    Subtype.ext (hmade.capabilityId.trans hmade'.capabilityId.symm)
  have haction : variant.action = other.action :=
    Subtype.ext (hmade.action.trans hmade'.action.symm)
  have hsame : SameRequest variant other :=
    ⟨hcapability, haction, harguments ▸ JsonValue.same_self _⟩
  have hsame' : SameRequest other variant :=
    ⟨hcapability.symm, haction.symm, harguments ▸ JsonValue.same_self _⟩
  obtain rfl := eq_of_pairwise hdistinct hvariant hother hsame hsame'
  have hfamilies : "type_juggling".toList = "boundary_value".toList :=
    hmade.familyId.symm.trans hmade'.familyId
  exact absurd hfamilies (by decide)

/-- Without parameters there are eleven variants, each with something of its own. -/
theorem marks_differ : (allSpecs defaultMutationFamilies []).Pairwise fun entry other =>
    mark entry.2.override ≠ mark other.2.override := by
  decide

theorem overhead_le : ∀ entry ∈ allSpecs defaultMutationFamilies [], overhead entry ≤ 114 := by
  decide

/-- **When the variants of a node are real mutations** with bounded records: when the node
has no parameters, and when its names are short enough. -/
theorem variants_real_iff (hscope : node.scopeClassification = .inScope)
    (h : mutateForNode repr defaultMutationFamilies node graph idPrefix = .ok variants) :
    RealMutations repr node variants ↔ node.kind ∉ supportedMutationNodeKinds ∨
      (node.queryParams repr = [] ∧ named node graph idPrefix ≤ 1581) := by
  by_cases hkind : node.kind ∈ supportedMutationNodeKinds
  · have hmade := mutateForNode_eq_ok hscope hkind h
    constructor
    · intro hreal
      refine .inr ?_
      cases hparams : node.queryParams repr with
      | cons param params =>
        rw [hparams] at hmade
        exact absurd hreal.distinct (not_distinct hmade)
      | nil =>
        rw [hparams] at hmade
        refine ⟨rfl, ?_⟩
        have hlongest : ("content_type_confusion".toList, (⟨"content_type".toList, 0,
            "mutate".toList, [("method".toList, .text "POST".toList),
              ("content_type".toList, .text "application/xml".toList),
              ("body".toList, .text "<test/>".toList)]⟩ : VariantSpec)) ∈
              allSpecs defaultMutationFamilies [] := by
          refine List.mem_flatMap.mpr ⟨contentTypeConfusionFamily,
            by simp [defaultMutationFamilies], List.mem_map.mpr ⟨_, ?_, rfl⟩⟩
          exact List.mem_map.mpr ⟨(_, 0), List.mem_cons_self, rfl⟩
        obtain ⟨variant, hvariant, hof⟩ := exists_made hmade hlongest
        have hbounded := (hof.bounded_iff repr hscope (shows_of_mem hlongest)).mp
          (hreal.bounded variant hvariant)
        have hoverhead : overhead ("content_type_confusion".toList, (⟨"content_type".toList, 0,
            "mutate".toList, [("method".toList, .text "POST".toList),
              ("content_type".toList, .text "application/xml".toList),
              ("body".toList, .text "<test/>".toList)]⟩ : VariantSpec)) = 114 := by
          rw [overhead]
          decide
        rw [hoverhead, maxAuditArgumentBytes] at hbounded
        omega
    · rintro (hother | ⟨hparams, hnamed⟩)
      · exact absurd hkind hother
      rw [hparams] at hmade
      refine ⟨nodup_variantIds hmade, ?_, ?_, ?_⟩
      · have hshown := marks_differ.imp_of_mem fun {entry other} hentry hother hne =>
          And.intro (shows_of_mem hentry) (And.intro (shows_of_mem hother) hne)
        refine pairwise_of_mapM_eq_ok hmade hshown ?_
        rintro entry other variant variant' ⟨hentry, hother, hne⟩ hof hof' ⟨-, -, hsame⟩
        exact (made_of_variantOf hof).differ hentry hother hne (made_of_variantOf hof') hsame
      · intro variant hvariant base hbase
        obtain ⟨entry, hentry, hof⟩ := mem_of_mapM_eq_ok hmade hvariant
        exact (made_of_variantOf hof).mutated (shows_of_mem hentry) hbase
      · intro variant hvariant
        obtain ⟨entry, hentry, hof⟩ := mem_of_mapM_eq_ok hmade hvariant
        refine ((made_of_variantOf hof).bounded_iff repr hscope (shows_of_mem hentry)).mpr ?_
        have hentryOverhead := overhead_le entry hentry
        rw [maxAuditArgumentBytes]
        omega
  · refine iff_of_true ?_ (.inl hkind)
    rw [mutateForNode_nil (.inr hkind)] at h
    obtain rfl := Except.ok.inj h
    exact ⟨List.nodup_nil, List.Pairwise.nil, by simp, by simp⟩

end Variants

/-! ## Which nodes have variants -/

/-- A family, its rules and its actions have names. -/
theorem named_of_mem {params : List Text} {entry : Text × VariantSpec}
    (h : entry ∈ allSpecs defaultMutationFamilies params) :
    Text.strip entry.1 ≠ [] ∧ Text.strip entry.2.ruleId ≠ [] ∧
      Text.strip entry.2.action ≠ [] := by
  obtain ⟨family, hfamily, h⟩ := List.mem_flatMap.mp h
  obtain ⟨spec, hspec, rfl⟩ := List.mem_map.mp h
  simp only [defaultMutationFamilies, List.mem_cons, List.not_mem_nil, or_false] at hfamily
  rcases hfamily with rfl | rfl | rfl | rfl | rfl | rfl | rfl
  · obtain ⟨param, -, hspec⟩ := List.mem_flatMap.mp hspec
    rcases List.mem_pair.mp hspec with rfl | rfl
    · show Text.strip "param_pollution".toList ≠ [] ∧ Text.strip "duplicate_param".toList ≠ [] ∧
        Text.strip "read".toList ≠ []
      decide
    · show Text.strip "param_pollution".toList ≠ [] ∧ Text.strip "array_param".toList ≠ [] ∧
        Text.strip "read".toList ≠ []
      decide
  · obtain ⟨param, -, hspec⟩ := List.mem_flatMap.mp hspec
    obtain ⟨value, -, rfl⟩ := List.mem_map.mp hspec
    show Text.strip "type_juggling".toList ≠ [] ∧ Text.strip "type_juggling".toList ≠ [] ∧
      Text.strip "read".toList ≠ []
    decide
  · obtain ⟨param, -, hspec⟩ := List.mem_flatMap.mp hspec
    obtain ⟨value, -, rfl⟩ := List.mem_map.mp hspec
    show Text.strip "boundary_value".toList ≠ [] ∧ Text.strip "boundary".toList ≠ [] ∧
      Text.strip "read".toList ≠ []
    decide
  · obtain ⟨override, -, rfl⟩ := List.mem_map.mp hspec
    show Text.strip "auth_header_variation".toList ≠ [] ∧ Text.strip "auth_header".toList ≠ [] ∧
      Text.strip "read".toList ≠ []
    decide
  · obtain ⟨override, -, rfl⟩ := List.mem_map.mp hspec
    show Text.strip "method_override".toList ≠ [] ∧ Text.strip "override".toList ≠ [] ∧
      Text.strip "read".toList ≠ []
    decide
  · obtain ⟨override, -, rfl⟩ := List.mem_map.mp hspec
    show Text.strip "content_type_confusion".toList ≠ [] ∧ Text.strip "content_type".toList ≠ [] ∧
      Text.strip "mutate".toList ≠ []
    decide
  · obtain ⟨param, -, hspec⟩ := List.mem_flatMap.mp hspec
    obtain ⟨value, -, rfl⟩ := List.mem_map.mp hspec
    show Text.strip "id_or_traversal".toList ≠ [] ∧ Text.strip "traversal".toList ≠ [] ∧
      Text.strip "read".toList ≠ []
    decide

/-- No argument of a variant has the name of a secret. -/
theorem secretArguments_update (origin path method : Text) {override : Dict} (h : Shows override) :
    secretArguments ((MutationNode.requestOf origin path method).update override) = [] := by
  have hplain : ∀ key ∈ ["authorized_origin".toList, "path".toList, "method".toList] ++
      overrideKeys, key.map Text.asciiLower ∉ forbiddenVariantArgumentKeys := by decide
  rw [secretArguments, List.filter_eq_nil_iff]
  intro key hkey hcontains
  rw [List.contains_iff_mem, List.mem_map] at hcontains
  obtain ⟨entry, hentry, rfl⟩ := hcontains
  have hmem := (Dict.mem_keys_update _ _ entry.1).mp (List.mem_map_of_mem hentry)
  rw [keys_requestOf] at hmem
  refine hplain entry.1 (List.mem_append.mpr (hmem.imp_right (h.keysKnown entry.1))) hkey

theorem requireVariantText_of_ne {value : Text} (h : value.strip ≠ []) (field : String) :
    requireVariantText value field = .ok ⟨value, h⟩ := by
  rw [requireVariantText, requireText, dif_pos h]
  rfl

/-- What follows a blank prefix is not blank. -/
theorem variantIdOf_notBlank (idPrefix familyId ruleId : Text) (index : Nat) :
    Text.strip (variantIdOf idPrefix familyId ruleId index) ≠ [] := by
  intro hblank
  have hspaces := Text.strip_eq_nil_iff.mp hblank
  have hcolon : ':' ∈ variantIdOf idPrefix familyId ruleId index :=
    List.mem_append_right _ List.mem_cons_self
  exact absurd (hspaces ':' hcolon) (by decide)

section Mutated

variable {repr : JsonValue → Text} {node : MutationNode} {graph : MutationGraph}
  {idPrefix : Text}

/-- Every variant of a named node with texts for attributes can be made. -/
theorem exists_variantOf {params : List Text} {base : Dict}
    (hnode : node.nodeId.strip ≠ []) (hkey : node.canonicalKey.strip ≠ [])
    (hbase : node.baseArguments = .ok base) {provenance : List (Text × Text)}
    {entry : Text × VariantSpec} (hentry : entry ∈ allSpecs defaultMutationFamilies params) :
    ∃ variant, variantOf node provenance idPrefix entry.1 entry.2 = .ok variant := by
  obtain ⟨hfamily, hrule, haction⟩ := named_of_mem hentry
  obtain ⟨origin, path, method, rfl⟩ := exists_requestOf hbase
  have hnone := secretArguments_update origin path method (shows_of_mem hentry)
  have hcapability : Text.strip "http.transaction".toList ≠ [] := by decide
  rw [variantOf, hbase, ok_bind, MutationVariant.make,
    requireVariantText_of_ne (variantIdOf_notBlank _ _ _ _), ok_bind,
    requireVariantText_of_ne hnode, ok_bind, requireVariantText_of_ne hfamily, ok_bind,
    requireVariantText_of_ne hrule, ok_bind, requireVariantText_of_ne hkey, ok_bind,
    requireVariantText_of_ne hcapability, ok_bind, requireVariantText_of_ne haction, ok_bind,
    dif_pos hnone]
  exact ⟨_, rfl⟩

theorem exists_mutateForNode_of {families : List MutationFamily}
    (h : ∀ entry ∈ allSpecs families (node.queryParams repr), ∃ variant,
      variantOf node graph.provenance idPrefix entry.1 entry.2 = .ok variant) :
    ∃ variants, mutateForNode repr families node graph idPrefix = .ok variants := by
  by_cases hother : node.scopeClassification ≠ .inScope ∨ node.kind ∉ supportedMutationNodeKinds
  · exact ⟨[], mutateForNode_nil hother⟩
  obtain ⟨hscope, hkind⟩ := not_or.mp hother
  have hmade : ∃ made, families.mapM (·.generate repr node graph.provenance idPrefix) =
      .ok made := by
    refine mapM_eq_ok_of_forall fun family hfamily => ?_
    rw [MutationFamily.generate, if_neg hkind]
    exact mapM_eq_ok_of_forall fun spec hspec => h (family.familyId, spec)
      (List.mem_flatMap.mpr ⟨family, hfamily, List.mem_map_of_mem hspec⟩)
  obtain ⟨made, hmade⟩ := hmade
  rw [mutateForNode, if_neg hscope, if_neg hkind, hmade, ok_bind]
  exact ⟨_, rfl⟩

theorem exists_mutateForNode {base : Dict} (hnode : node.nodeId.strip ≠ [])
    (hkey : node.canonicalKey.strip ≠ []) (hbase : node.baseArguments = .ok base) :
    ∃ variants, mutateForNode repr defaultMutationFamilies node graph idPrefix = .ok variants :=
  exists_mutateForNode_of fun _ hentry => exists_variantOf hnode hkey hbase hentry

theorem length_flatMap_of_length {α β : Type} {items : List α} {f : α → List β} {n : Nat}
    (h : ∀ a, (f a).length = n) : (items.flatMap f).length = n * items.length := by
  induction items with
  | nil => rfl
  | cons item rest ih =>
    rw [List.flatMap_cons, List.length_append, h, ih, List.length_cons, Nat.mul_succ, Nat.add_comm]

theorem length_eachValue (ruleId : String) (values : List String) (params : List Text) :
    (eachValue ruleId values params).length = values.length * params.length := by
  rw [eachValue, length_flatMap_of_length fun param => ?_, List.length_zipIdx]
  rw [List.length_map, List.length_zipIdx]

/-- Eighteen variants for each parameter, and eleven for the node. -/
theorem length_allSpecs (params : List Text) :
    (allSpecs defaultMutationFamilies params).length = 18 * params.length + 11 := by
  have hpolluted : (paramPollutionFamily.specs params).length = 2 * params.length := by
    have hnumbers := congrArg List.length (numbers_paramPollution params)
    have htwo : ∀ param : Text × Nat,
        [("duplicate_param".toList, param.2), ("array_param".toList, param.2)].length = 2 :=
      fun _ => rfl
    rw [List.length_map, length_flatMap_of_length htwo, List.length_zipIdx] at hnumbers
    exact hnumbers
  have hjuggled : (typeJugglingFamily.specs params).length = 6 * params.length :=
    length_eachValue _ typeVariants params
  have hboundary : (boundaryValueFamily.specs params).length = 5 * params.length :=
    length_eachValue _ boundaryValues params
  have htraversal : (idOrTraversalCandidateFamily.specs params).length = 5 * params.length :=
    length_eachValue _ traversalValues params
  have hheaders : (authHeaderVariationFamily.specs params).length = 4 := rfl
  have hmethods : (methodOverrideFamily.specs params).length = 4 := rfl
  have htypes : (contentTypeConfusionFamily.specs params).length = 3 := rfl
  simp only [allSpecs, defaultMutationFamilies, List.flatMap_cons, List.flatMap_nil,
    List.length_append, List.length_map, List.length_nil]
  omega

/-- **What a node is mutated into.**  A node is mutated as soon as it has names and its
attributes are texts; then it has its eighteen variants for each parameter and eleven
more, each with a name of its own, and none of them is the request of the node. -/
theorem variants_of_node (hscope : node.scopeClassification = .inScope)
    (hkind : node.kind ∈ supportedMutationNodeKinds) :
    ((∃ variants, mutateForNode repr defaultMutationFamilies node graph idPrefix = .ok variants) ↔
      node.nodeId.strip ≠ [] ∧ node.canonicalKey.strip ≠ [] ∧
        ∃ base, node.baseArguments = .ok base) ∧
    ∀ variants, mutateForNode repr defaultMutationFamilies node graph idPrefix = .ok variants →
      variants.length = 18 * (node.queryParams repr).length + 11 ∧
      (variants.map (·.variantId)).Nodup ∧
      ∀ variant ∈ variants, ∀ base, node.baseArguments = .ok base →
        ¬ Same (.object variant.arguments) (.object base) := by
  refine ⟨⟨?_, ?_⟩, ?_⟩
  · rintro ⟨variants, hvariants⟩
    have hmade := mutateForNode_eq_ok hscope hkind hvariants
    have hpositive : 0 < (allSpecs defaultMutationFamilies (node.queryParams repr)).length := by
      rw [length_allSpecs]
      omega
    obtain ⟨variant, -, hof⟩ := exists_made hmade (List.getElem_mem hpositive)
    obtain ⟨base, hbase, -⟩ := hof.base
    refine ⟨?_, ?_, base, hbase⟩
    · rw [← hof.nodeId]
      exact variant.nodeId.property
    · rw [← hof.targetReference]
      exact variant.targetReference.property
  · rintro ⟨hnode, hkey, base, hbase⟩
    exact exists_mutateForNode hnode hkey hbase
  · intro variants hvariants
    have hmade := mutateForNode_eq_ok hscope hkind hvariants
    refine ⟨?_, nodup_variantIds hmade, fun variant hvariant base hbase => ?_⟩
    · rw [length_of_mapM_eq_ok hmade, length_allSpecs]
    · obtain ⟨entry, hentry, hof⟩ := mem_of_mapM_eq_ok hmade hvariant
      exact (made_of_variantOf hof).mutated (shows_of_mem hentry) hbase

end Mutated

/-! ## Two nodes -/

/-- A node of a lab, with some query parameters. -/
def labNode (params : List JsonValue) : MutationNode where
  nodeId := "n1".toList
  kind := .httpOperation
  canonicalKey := "op".toList
  scopeClassification := .inScope
  attributes := [("origin".toList, .text "https://lab.test".toList),
    ("query_params".toList, .array params)]

def labGraph : MutationGraph := ⟨"run".toList, "v1".toList⟩

theorem labNode_base (params : List JsonValue) :
    (labNode params).baseArguments = .ok
      (MutationNode.requestOf "https://lab.test".toList "/".toList "GET".toList) := rfl

theorem labNode_variants (params : List JsonValue) :
    ∃ variants, mutateForNode (fun _ => []) defaultMutationFamilies (labNode params) labGraph
      "m".toList = .ok variants := by
  have hnode : Text.strip "n1".toList ≠ [] := by decide
  have hkey : Text.strip "op".toList ≠ [] := by decide
  exact exists_mutateForNode hnode hkey (labNode_base params)

/-- A node without parameters has real mutations. -/
theorem variants_real_iff_lab :
    ∃ variants, mutateForNode (fun _ => []) defaultMutationFamilies (labNode []) labGraph
      "m".toList = .ok variants ∧ RealMutations (fun _ => []) (labNode []) variants := by
  obtain ⟨variants, hvariants⟩ := labNode_variants []
  refine ⟨variants, hvariants, (variants_real_iff rfl hvariants).mpr (.inr ⟨rfl, ?_⟩)⟩
  decide

theorem variants_of_node_lab :
    ∃ variants, mutateForNode (fun _ => []) defaultMutationFamilies
      (labNode [.text "q".toList]) labGraph "m".toList = .ok variants ∧ variants.length = 29 := by
  have hkind : (labNode [.text "q".toList]).kind ∈ supportedMutationNodeKinds :=
    List.mem_cons_self
  obtain ⟨hmutated, hall⟩ := @variants_of_node (fun _ => []) (labNode [.text "q".toList]) labGraph
    "m".toList rfl hkind
  obtain ⟨variants, hvariants⟩ := hmutated.mpr
    ⟨by decide, by decide, _, labNode_base [.text "q".toList]⟩
  exact ⟨variants, hvariants, (hall variants hvariants).1⟩

/-- One parameter `q` is given the value `0` twice. -/
theorem zero_given_twice :
    ¬ ∀ (repr : JsonValue → Text) (node : MutationNode) (graph : MutationGraph)
      (idPrefix : Text) (variants : List MutationVariant),
      node.scopeClassification = .inScope → (node.queryParams repr).Nodup →
        mutateForNode repr defaultMutationFamilies node graph idPrefix = .ok variants →
          RealMutations repr node variants := by
  intro h
  obtain ⟨variants, hvariants⟩ := labNode_variants [.text "q".toList]
  have hparams : ((labNode [.text "q".toList]).queryParams fun _ => []) = ["q".toList] := rfl
  have hreal := h _ _ _ _ variants rfl (hparams ▸ List.nodup_singleton _) hvariants
  have hkind : (labNode [.text "q".toList]).kind ∈ supportedMutationNodeKinds :=
    List.mem_cons_self
  exact not_distinct (mutateForNode_eq_ok rfl hkind hvariants) hreal.distinct

end Zest.Mutation

import Zest.ContextAccounting
import Zest.SecretFreeContext

/-! # Whether recorded context can be put to the model

The keys of the similarities of a differential are the names of dimensions, and
`SESSION` is one of them: its value is never known, so it is alike on both sides, and
what is recorded has it as a key.  The name is the key of a secret once it is in lower
case, which the record does not look at and the request does.
-/
namespace Zest.Reasoning

open Differential (DifferentialObservation DifferentialDimension similarities differences)
open SafeData (Lowers isSensitiveKey secretFree secretFreeEntries secretFreeEntries_iff)

section Recorded

variable {lower : Text → Text}

/-! ## The items of a run -/

theorem secretFree_marks (hlower : Lowers lower) {keys : List String}
    (h : ((marks keys).map (·.1)).all plainKey = true) :
    secretFreeEntries lower (marks keys) = true := by
  refine secretFree_of_plain hlower h ?_
  intro entry hentry
  obtain ⟨key, -, rfl⟩ := List.mem_map.mp hentry
  exact secretFree_bool true

theorem itemFree_of_none {item : ContextItem} (h : item.payload = none) : ItemFree lower item := by
  intro payload hpayload
  rw [h] at hpayload
  cases hpayload

theorem itemFree_statedItem {epistemicClass : EpistemicClass} {source : InferenceSource}
    {payload entries : Dict} (hpayload : secretFreeEntries lower payload = true)
    (hentries : secretFreeEntries lower entries = true) :
    ItemFree lower (statedItem epistemicClass source payload entries) := by
  intro made hmade
  cases hmade
  exact secretFreeEntries_update hpayload hentries

theorem itemFree_inferenceItem (hlower : Lowers lower) (source : InferenceSource) :
    ItemFree lower (inferenceItem source) :=
  itemFree_statedItem (secretFreeEntries_iff.mpr (by simp))
    (secretFree_marks hlower (PlainWords.inference plainWords))

theorem itemFree_invariantItem (hlower : Lowers lower) (record : InvariantHypothesisRecord) :
    ItemFree lower (invariantItem (invariantSource record)) := by
  refine itemFree_statedItem
    (secretFree_of_plain hlower (PlainWords.invariantPayload plainWords record) ?_)
    (secretFree_marks hlower (PlainWords.invariant plainWords))
  simp [invariantSource, invariantPayload]

theorem itemFree_chainItem (hlower : Lowers lower) (record : ChainHypothesisRecord) :
    ItemFree lower (chainItem (chainSource record)) := by
  have hfeatures : secretFreeEntries lower (descriptiveFeatures record) = true :=
    secretFree_of_plain hlower (PlainWords.chainFeatures plainWords record)
      (by simp [descriptiveFeatures])
  refine itemFree_statedItem
    (secretFree_of_plain hlower (PlainWords.chainPayload plainWords record) ?_)
    (secretFree_marks hlower (PlainWords.chain plainWords))
  simp [chainSource, chainPayload, hfeatures]

theorem itemFree_opportunityItem (hlower : Lowers lower) (record : ResearchOpportunityRecord) :
    ItemFree lower (opportunityItem (opportunitySource record)) := by
  refine itemFree_statedItem
    (secretFree_of_plain hlower (PlainWords.opportunityPayload plainWords record) ?_)
    (secretFree_marks hlower (PlainWords.opportunity plainWords))
  simp [opportunitySource, opportunityPayload]

theorem itemFree_changeItem (hlower : Lowers lower) (record : ChangeEventRecord) :
    ItemFree lower (changeItem (changeSource record)) := by
  refine itemFree_statedItem
    (secretFree_of_plain hlower (PlainWords.changePayload plainWords record) ?_)
    (secretFree_marks hlower (PlainWords.change plainWords))
  simp [changeSource, changePayload]

theorem itemFree_negativeItem (hlower : Lowers lower) (runId : Required)
    (source : ExperimentSource) : ItemFree lower (negativeItem runId source) := by
  intro made hmade
  cases hmade
  exact secretFree_of_plain hlower (PlainWords.negative plainWords) (by simp)

theorem itemFree_externalItem (hlower : Lowers lower) (source : ExternalContentSource)
    (limit : Nat) : ItemFree lower (externalItem source limit) := by
  intro made hmade
  cases hmade
  exact secretFree_of_plain hlower (PlainWords.external plainWords) (by simp)

theorem itemFree_externalPass (hlower : Lowers lower) (remaining : Nat)
    (sources : List ExternalContentSource) :
    ∀ item ∈ (externalPass remaining sources).items, ItemFree lower item := by
  induction sources generalizing remaining with
  | nil => simp [externalPass]
  | cons source rest ih =>
    rw [externalPass]
    split
    · exact ih remaining
    · dsimp only
      rw [List.forall_mem_cons]
      exact ⟨itemFree_externalItem hlower source remaining, ih _⟩

theorem itemFree_observationItem (record : ObservationRecord lower) :
    ItemFree lower (observationItem (observationSource record)) := by
  intro made hmade
  cases hmade
  rw [← secretFree_object]
  exact record.payload_secretFree

theorem mem_of_mem_sortedTake {σ : Type} {identity : σ → Text} {items : List σ} {limit : Nat}
    {item : σ} (h : item ∈ (sortedTake identity items limit).1) : item ∈ items :=
  (sortedBy_perm items).mem_iff.mp (List.mem_of_mem_take h)

theorem mem_sortedBy {σ : Type} {identity : σ → Text} {items : List σ} {item : σ} :
    item ∈ sortedBy identity items ↔ item ∈ items := (sortedBy_perm items).mem_iff

/-- **Of a run's context**, only differentials can have secrets in them. -/
theorem itemFree_of_build (hlower : Lowers lower) {sha256 : Text → Required}
    {records : RunRecords lower} {command : ProposeResearchHypothesisCommand}
    {context : ResearchContext}
    (hbuild : build sha256 (contextRequest records command) = .ok context) :
    (∀ item ∈ context.allItems, ItemFree lower item) ↔
      ∀ record ∈ records.differentials,
        ItemFree lower (differentialItem (differentialSource record)) := by
  obtain ⟨runId, question, unresolved, -, -, -, hbody, -⟩ := build_eq_ok hbuild
  rw [hbody, ContextBody.allItems]
  simp only [List.forall_mem_append]
  constructor
  · rintro ⟨⟨⟨⟨⟨⟨⟨⟨⟨⟨⟨-, -⟩, hderived⟩, -⟩, -⟩, -⟩, -⟩, -⟩, -⟩, -⟩, -⟩, -⟩ record hrecord
    refine hderived _ (List.mem_append_right _ (List.mem_map_of_mem ?_))
    exact mem_sortedBy.mpr (List.mem_map_of_mem hrecord)
  · intro hdifferentials
    refine ⟨⟨⟨⟨⟨⟨⟨⟨⟨⟨⟨?_, ?_⟩, ?_⟩, ?_⟩, ?_⟩, ?_⟩, ?_⟩, ?_⟩, ?_⟩, ?_⟩, ?_⟩, ?_⟩
    · exact List.forall_mem_singleton.mpr (itemFree_of_none rfl)
    · intro item hitem
      obtain ⟨source, hsource, rfl⟩ := List.mem_map.mp hitem
      obtain ⟨record, -, rfl⟩ := List.mem_map.mp (mem_of_mem_sortedTake hsource)
      exact itemFree_observationItem record
    · intro item hitem
      rcases List.mem_append.mp hitem with hexperiment | hdifferential
      · obtain ⟨source, -, rfl⟩ := List.mem_map.mp hexperiment
        exact itemFree_of_none rfl
      · obtain ⟨source, hsource, rfl⟩ := List.mem_map.mp hdifferential
        obtain ⟨record, hrecord, rfl⟩ := List.mem_map.mp (mem_sortedBy.mp hsource)
        exact hdifferentials record hrecord
    · intro item hitem
      obtain ⟨source, -, rfl⟩ := List.mem_map.mp hitem
      exact itemFree_inferenceItem hlower source
    · intro item hitem
      obtain ⟨source, -, rfl⟩ := List.mem_map.mp hitem
      exact itemFree_of_none rfl
    · intro item hitem
      obtain ⟨source, hsource, rfl⟩ := List.mem_map.mp hitem
      obtain ⟨record, -, rfl⟩ := List.mem_map.mp (mem_sortedBy.mp hsource)
      exact itemFree_invariantItem hlower record
    · intro item hitem
      obtain ⟨source, hsource, rfl⟩ := List.mem_map.mp hitem
      obtain ⟨record, -, rfl⟩ := List.mem_map.mp (mem_sortedBy.mp hsource)
      exact itemFree_chainItem hlower record
    · intro item hitem
      obtain ⟨source, hsource, rfl⟩ := List.mem_map.mp hitem
      obtain ⟨record, -, rfl⟩ := List.mem_map.mp (mem_sortedBy.mp hsource)
      exact itemFree_opportunityItem hlower record
    · intro item hitem
      obtain ⟨source, hsource, rfl⟩ := List.mem_map.mp hitem
      obtain ⟨record, -, rfl⟩ := List.mem_map.mp (mem_sortedBy.mp hsource)
      exact itemFree_changeItem hlower record
    · intro item hitem
      obtain ⟨source, -, rfl⟩ := List.mem_map.mp hitem
      exact itemFree_negativeItem hlower runId source
    · exact List.forall_mem_singleton.mpr (itemFree_of_none rfl)
    · exact itemFree_externalPass hlower _ _

/-! ## Differentials -/

/-- Of the names of dimensions, one is the key of a secret. -/
theorem isSensitiveKey_dimension (hlower : Lowers lower) (dim : DifferentialDimension) :
    isSensitiveKey lower dim.value.toList = decide (dim = .session) := by
  have hascii : (dim.value.toList).all Text.isAscii = true := by cases dim <;> decide
  rw [isSensitiveKey, normalizeSecretKey_of_ascii hlower hascii]
  cases dim <;> decide

@[simp] theorem secretFree_optionValue (value : Option Text) :
    secretFree lower (Differential.optionValue value) = true := by
  cases value with
  | none => exact secretFree_null
  | some s => exact secretFree_text s

@[simp] theorem secretFree_nameValue (name : Option ResearchSelection.Name) :
    secretFree lower (Differential.nameValue name) = true :=
  secretFree_optionValue _

theorem session_not_detected (left right : DifferentialDimension → Option Text) :
    .session ∉ Differential.detectedChanged left right := by
  intro hmem
  exact absurd (List.mem_filter.mp hmem).1 (by decide)

/-- What differs never has the session as a key. -/
theorem secretFreeEntries_differences (hlower : Lowers lower)
    (case : Differential.DifferentialCase) (left right : DifferentialDimension → Option Text) :
    secretFreeEntries lower (differences case left right) = true := by
  have hdetected : ∀ dim ∈ Differential.detectedChanged left right,
      isSensitiveKey lower dim.value.toList = false ∧
        secretFree lower (.object [("baseline".toList, Differential.optionValue (left dim)),
          ("variant".toList, Differential.optionValue (right dim))]) = true := by
    intro dim hdim
    refine ⟨?_, ?_⟩
    · rw [isSensitiveKey_dimension hlower, decide_eq_false_iff_not]
      rintro rfl
      exact session_not_detected left right hdim
    · rw [secretFree_object]
      exact secretFree_of_plain hlower (PlainWords.sides plainWords) (by simp)
  have htime : isSensitiveKey lower "TIME".toList = false :=
    not_sensitive_of_plain hlower (PlainWords.time plainWords)
  rw [differences, secretFreeEntries_iff]
  split
  · intro entry hentry
    rcases KeyedList.mem_upsert_overwrite hentry with hold | rfl
    · obtain ⟨dim, hdim, rfl⟩ := List.mem_map.mp hold
      exact hdetected dim hdim
    · refine ⟨htime, ?_⟩
      rw [secretFree_object]
      exact secretFree_of_plain hlower (PlainWords.snapshots plainWords) (by simp)
  · intro entry hentry
    obtain ⟨dim, hdim, rfl⟩ := List.mem_map.mp hentry
    exact hdetected dim hdim

/-- The dimensions in which both sides are alike, with their values. -/
def alikeEntries (case : Differential.DifferentialCase)
    (left right : DifferentialDimension → Option Text) : Dict :=
  (case.commonDimensions.filter fun dim => left dim = right dim).map fun dim =>
    (dim.value.toList, Differential.optionValue (left dim))

theorem similarities_eq (case : Differential.DifferentialCase)
    (left right : DifferentialDimension → Option Text) :
    similarities case left right =
      ((Dict.update [] (alikeEntries case left right)).set "not_authorization_proof".toList
        (.bool true)).set "not_a_vulnerability".toList (.bool true) := by
  rw [similarities, alikeEntries, Dict.update, List.foldl_map]

/-- **What is alike** has a secret's key where the session is, whose values are
alike because neither is known. -/
theorem secretFreeEntries_similarities (hlower : Lowers lower)
    (case : Differential.DifferentialCase) {left right : DifferentialDimension → Option Text}
    (hsession : left .session = right .session) :
    secretFreeEntries lower (similarities case left right) = true ↔
      .session ∉ case.commonDimensions := by
  rw [similarities_eq]
  constructor
  · intro hfree hcommon
    have hentry : (DifferentialDimension.session.value.toList,
        Differential.optionValue (left .session)) ∈ alikeEntries case left right :=
      List.mem_map_of_mem (f := fun dim : DifferentialDimension =>
        (dim.value.toList, Differential.optionValue (left dim)))
        (List.mem_filter.mpr ⟨hcommon, decide_eq_true hsession⟩)
    have hkey : DifferentialDimension.session.value.toList ∈
        (((Dict.update [] (alikeEntries case left right)).set "not_authorization_proof".toList
          (.bool true)).set "not_a_vulnerability".toList (.bool true)).map (·.1) := by
      rw [Dict.mem_keys_set, Dict.mem_keys_set, Dict.mem_keys_update]
      exact .inl (.inl (.inr (List.mem_map_of_mem hentry)))
    obtain ⟨entry, hmem, hsame⟩ := List.mem_map.mp hkey
    have hplain := (secretFreeEntries_iff.mp hfree entry hmem).1
    rw [hsame, isSensitiveKey_dimension hlower] at hplain
    cases hplain
  · intro hcommon
    have halike : secretFreeEntries lower (alikeEntries case left right) = true := by
      rw [secretFreeEntries_iff]
      intro entry hentry
      obtain ⟨dim, hdim, rfl⟩ := List.mem_map.mp hentry
      refine ⟨?_, secretFree_optionValue _⟩
      rw [isSensitiveKey_dimension hlower, decide_eq_false_iff_not]
      rintro rfl
      exact hcommon (List.mem_filter.mp hdim).1
    have hmarks : secretFreeEntries lower [("not_authorization_proof".toList, .bool true),
        ("not_a_vulnerability".toList, .bool true)] = true :=
      secretFree_of_plain hlower (PlainWords.similar plainWords) (by simp)
    exact secretFreeEntries_update
      (secretFreeEntries_update (secretFreeEntries_iff.mpr (by simp)) halike) hmarks

/-- What has been recorded is what two observations have shown. -/
theorem of_recorded {observation : DifferentialObservation} (h : RecordedDifferential observation) :
    ∃ (case : Differential.DifferentialCase)
      (left right : DifferentialDimension → Option Text), left .session = right .session ∧
      observation.commonDimensions = case.commonDimensions ∧
      observation.observedDifferences = differences case left right ∧
      observation.observedSimilarities = similarities case left right := by
  obtain ⟨case, views, differentialId, snapshots, decision, hcompared, houtcome, hobservation,
    -⟩ := h
  obtain ⟨-, baseline, variant, -, -, hvalues⟩ := Differential.of_compared hcompared houtcome
  obtain ⟨-, made, hmade, -, -, -, hcommon, hdifferences, hsimilarities, -⟩ :=
    Differential.of_compareValues hvalues houtcome
  obtain rfl : made = observation := Option.some.inj (hmade.symm.trans hobservation)
  exact ⟨case, Differential.dimensionValues baseline, Differential.dimensionValues variant, rfl,
    hcommon, hdifferences, hsimilarities⟩

/-- **A recorded differential** can be shown to the model unless the session is among
its common dimensions. -/
theorem itemFree_differentialItem (hlower : Lowers lower) {observation : DifferentialObservation}
    (h : RecordedDifferential observation) :
    ItemFree lower (differentialItem (differentialSource observation)) ↔
      .session ∉ observation.commonDimensions := by
  obtain ⟨case, left, right, hsession, hcommon, hdifferences, hsimilarities⟩ := of_recorded h
  have hfree := secretFreeEntries_similarities hlower case hsession
  rw [← hsimilarities, ← hcommon] at hfree
  have hentries : secretFreeEntries lower
      (differentialEntries (differentialSource observation)) = true :=
    secretFree_of_plain hlower (PlainWords.differential plainWords _)
      (by simp [differentialEntries, marks])
  rw [← hfree]
  constructor
  · intro hitem
    have hlookup : (Dict.update (differentialPayload observation)
        (differentialEntries (differentialSource observation))).lookup
          "observed_similarities".toList = some (.object observation.observedSimilarities) := by
      rw [Dict.lookup_update_of_not_mem]
      · rfl
      · simp only [differentialEntries, marks, List.map_cons, List.map_nil]
        decide
    have hvalue := (secretFree_of_lookup (hitem _ rfl) hlookup).2
    rwa [secretFree_object] at hvalue
  · intro hvalue
    have hdiffering : secretFreeEntries lower observation.observedDifferences = true := by
      rw [hdifferences]
      exact secretFreeEntries_differences hlower case left right
    refine itemFree_statedItem (secretFree_of_plain hlower
      (PlainWords.differentialPayload plainWords observation) ?_) hentries
    simp [differentialSource, differentialPayload, hdiffering, hvalue]

/-- **A run's context can be put to the model** exactly when none of the differentials
that are recorded names the session among its common dimensions. -/
theorem putToModel_iff_session (hlower : Lowers lower) (sha256 : Text → Required)
    (instructions : ModelRole → Required) {records : RunRecords lower}
    {command : ProposeResearchHypothesisCommand} {context : ResearchContext}
    (hrecorded : ∀ observation ∈ records.differentials, RecordedDifferential observation)
    (hbuild : build sha256 (contextRequest records command) = .ok context) :
    PutToModel lower sha256 instructions context ↔
      ∀ observation ∈ records.differentials, .session ∉ observation.commonDimensions := by
  rw [putToModel_iff hlower, itemFree_of_build hlower hbuild]
  refine forall_congr' fun observation => forall_congr' fun hmem => ?_
  exact itemFree_differentialItem hlower (hrecorded observation hmem)

end Recorded

/-! ## A run with one differential -/

open ResearchSelection (Name)
open Temporal (a_named b_named)

/-- The actor changes, and one dimension is said to be common. -/
def commonCase (common : DifferentialDimension) : Differential.DifferentialCase :=
  { Differential.labCase [⟨['b'], b_named⟩] (List.cons_ne_nil _ _) with
    commonDimensions := [common] }

/-- What is recorded of the two observations. -/
def commonObservation (common : DifferentialDimension) : DifferentialObservation where
  differentialId := ⟨['a'], a_named⟩
  researchRunId := ⟨['a'], a_named⟩
  caseId := ⟨['a'], a_named⟩
  baselineObservationIds := [⟨['a'], a_named⟩]
  variantObservationIds := [⟨['b'], b_named⟩]
  changedDimensions := [.actor]
  commonDimensions := [common]
  observedDifferences := [("ACTOR".toList,
    .object [("baseline".toList, .text ['a']), ("variant".toList, .text ['b'])])]
  observedSimilarities := [(common.value.toList,
      if common = .session then .null else .text ['a']),
    ("not_authorization_proof".toList, .bool true), ("not_a_vulnerability".toList, .bool true)]
  interpretation := .controlledDifference
  sourceRefs := [⟨['a'], a_named⟩, ⟨['b'], b_named⟩]
  strategyVersion := ⟨['a'], a_named⟩
  alternativeExplanationSlots :=
    ["intended_input_difference", "runtime_protocol_difference", "asynchronous_processing"]

theorem recorded_resource : RecordedDifferential (commonObservation .resource) :=
  ⟨commonCase .resource, Differential.labViews, ['a'], [], _, rfl, rfl, rfl, rfl⟩

theorem recorded_session : RecordedDifferential (commonObservation .session) :=
  ⟨commonCase .session, Differential.labViews, ['a'], [], _, rfl, rfl, rfl, rfl⟩

/-- A run that has recorded one differential and nothing else. -/
def labRecords (lower : Text → Text) (common : DifferentialDimension) : RunRecords lower where
  observations := []
  hypotheses := []
  experiments := []
  inferences := []
  differentials := [commonObservation common]
  invariants := []
  chains := []
  opportunities := []
  changes := []

def labCommand : ProposeResearchHypothesisCommand where
  researchRunId := ['a']
  researchQuestion := ['q']
  untrustedExternal := []
  unresolvedQuestions := []
  contextBudget := none

theorem lab_instructed : Text.strip ['i'] ≠ [] := by
  decide

def labInstructions : ModelRole → Required := fun _ => ⟨['i'], lab_instructed⟩

/-- A context is built of any request whose texts are not blank. -/
theorem labRecords_build (common : DifferentialDimension) :
    ∃ context, build markDigest (contextRequest
      (labRecords (fun s => s.map Text.asciiLower) common) labCommand) = .ok context := by
  have hrun : requireText labCommand.researchRunId "research_run_id" =
      .ok ⟨['a'], by decide⟩ := rfl
  have hquestion : requireText labCommand.researchQuestion "research_question" =
      .ok ⟨['q'], by decide⟩ := rfl
  rw [build]
  simp only [contextRequest, hrun, hquestion, ok_bind]
  exact ⟨_, rfl⟩

theorem putToModel_iff_session_lab :
    ∃ context, build markDigest (contextRequest
        (labRecords (fun s => s.map Text.asciiLower) .resource) labCommand) = .ok context ∧
      PutToModel (fun s => s.map Text.asciiLower) markDigest labInstructions context := by
  obtain ⟨context, hbuild⟩ := labRecords_build .resource
  refine ⟨context, hbuild, (putToModel_iff_session SafeData.lowers_map markDigest
    labInstructions ?_ hbuild).mpr ?_⟩
  · intro observation hmem
    obtain rfl := List.mem_singleton.mp hmem
    exact recorded_resource
  · intro observation hmem
    obtain rfl := List.mem_singleton.mp hmem
    decide

/-- A differential of one session is never put to the model. -/
theorem session_not_put_to_model :
    ¬ ∀ (lower : Text → Text) (sha256 : Text → Required) (instructions : ModelRole → Required)
      (records : RunRecords lower) (command : ProposeResearchHypothesisCommand)
      (context : ResearchContext), Lowers lower →
      (∀ observation ∈ records.differentials, RecordedDifferential observation) →
      build sha256 (contextRequest records command) = .ok context →
      PutToModel lower sha256 instructions context := by
  intro h
  obtain ⟨context, hbuild⟩ := labRecords_build .session
  have hrecorded : ∀ observation ∈
      (labRecords (fun s => s.map Text.asciiLower) .session).differentials,
      RecordedDifferential observation := by
    intro observation hmem
    obtain rfl := List.mem_singleton.mp hmem
    exact recorded_session
  have hput := h _ markDigest labInstructions _ labCommand context SafeData.lowers_map hrecorded
    hbuild
  have hitems := (putToModel_iff SafeData.lowers_map markDigest labInstructions context).mp hput
  have hfree := (itemFree_of_build SafeData.lowers_map hbuild).mp hitems
    (commonObservation .session) (List.mem_singleton_self _)
  have hsession := (itemFree_differentialItem SafeData.lowers_map recorded_session).mp hfree
  exact hsession (List.mem_singleton_self _)

end Zest.Reasoning

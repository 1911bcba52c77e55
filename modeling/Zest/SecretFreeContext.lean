import Zest.ModelRequests
import Zest.SecretFlow

/-! # Which contexts can be put to the model

Nearly all keys of a payload are words of the code, and none of these is the key of a
secret.  So a request is made of a context exactly when no payload of its items has
the key of a secret in it.
-/
namespace Zest.Reasoning

open Benchmark (ModelCallRequest)
open Differential (DifferentialObservation DifferentialDimension similarities differences)
open SafeData (Lowers isSensitiveKey secretFree secretFreeEntries secretFreeEntries_iff
  secretFreeItems_iff)

/-! ## Keys that are words of the code -/

/-- A key in ASCII that is not, in lower case, that of a secret. -/
def plainKey (key : Text) : Bool :=
  key.all Text.isAscii &&
    !SafeData.sensitiveKeys.contains
      (((Text.strip key).map Text.asciiLower).map fun c => if c = '-' then '_' else c)

section Plain

variable {lower : Text → Text}

/-- A key in ASCII is read with its letters lowered. -/
theorem normalizeSecretKey_of_ascii (hlower : Lowers lower) {key : Text}
    (hascii : key.all Text.isAscii = true) :
    SafeData.normalizeSecretKey lower key =
      ((Text.strip key).map Text.asciiLower).map fun c => if c = '-' then '_' else c := by
  rw [List.all_eq_true] at hascii
  have hsub : (Text.strip key).Sublist key :=
    (List.rdropWhile_prefix Text.isSpace _).sublist.trans
      (List.dropWhile_suffix Text.isSpace).sublist
  rw [SafeData.normalizeSecretKey, hlower.ascii _ fun c hc => hascii c (hsub.subset hc)]

theorem not_sensitive_of_plain (hlower : Lowers lower) {key : Text} (h : plainKey key = true) :
    isSensitiveKey lower key = false := by
  rw [plainKey, Bool.and_eq_true, Bool.not_eq_true'] at h
  obtain ⟨hascii, hplain⟩ := h
  rw [isSensitiveKey, normalizeSecretKey_of_ascii hlower hascii]
  simpa using fun _ => hplain

/-- An object whose keys are words of the code. -/
theorem secretFree_of_plain (hlower : Lowers lower) {entries : Dict}
    (hkeys : (entries.map (·.1)).all plainKey = true)
    (hvalues : ∀ entry ∈ entries, secretFree lower entry.2 = true) :
    secretFreeEntries lower entries = true := by
  rw [secretFreeEntries_iff]
  intro entry hentry
  exact ⟨not_sensitive_of_plain hlower
    (List.all_eq_true.mp hkeys entry.1 (List.mem_map_of_mem hentry)), hvalues entry hentry⟩

@[simp] theorem secretFree_text (s : Text) : secretFree lower (.text s) = true := by
  simp [secretFree]

@[simp] theorem secretFree_bool (b : Bool) : secretFree lower (.bool b) = true := by
  simp [secretFree]

@[simp] theorem secretFree_integer (n : Int) : secretFree lower (.integer n) = true := by
  simp [secretFree]

@[simp] theorem secretFree_null : secretFree lower .null = true := by simp [secretFree]

@[simp] theorem secretFree_object (entries : Dict) :
    secretFree lower (.object entries) = secretFreeEntries lower entries := by rw [secretFree]

@[simp] theorem secretFree_texts (items : List Text) : secretFree lower (texts items) = true := by
  rw [texts, secretFree, secretFreeItems_iff]
  intro value hvalue
  obtain ⟨item, -, rfl⟩ := List.mem_map.mp hvalue
  exact secretFree_text item

@[simp] theorem secretFree_optionalText (item : Option Text) :
    secretFree lower (Benchmark.optionalText item) = true := by
  cases item with
  | none => exact secretFree_null
  | some s => exact secretFree_text s

/-- An assignment of what is free of secrets. -/
theorem secretFreeEntries_update {d more : Dict} (hd : secretFreeEntries lower d = true)
    (hmore : secretFreeEntries lower more = true) :
    secretFreeEntries lower (d.update more) = true := by
  induction more generalizing d with
  | nil => exact hd
  | cons entry more ih =>
    rw [secretFreeEntries_iff, List.forall_mem_cons] at hmore
    rw [Dict.update, List.foldl_cons]
    refine ih ?_ (secretFreeEntries_iff.mpr hmore.2)
    rw [secretFreeEntries_iff] at hd ⊢
    intro other hother
    rcases KeyedList.mem_upsert_overwrite hother with hold | rfl
    · exact hd other hold
    · exact hmore.1

/-- What is under a key of an object that is free of secrets. -/
theorem secretFree_of_lookup {d : Dict} (hd : secretFreeEntries lower d = true) {key : Text}
    {value : JsonValue} (hvalue : d.lookup key = some value) :
    isSensitiveKey lower key = false ∧ secretFree lower value = true := by
  obtain ⟨entry, hget, rfl⟩ := Option.map_eq_some_iff.mp hvalue
  obtain ⟨hmem, rfl⟩ := KeyedList.get_eq_some hget
  exact secretFreeEntries_iff.mp hd entry hmem

/-! ## Items and contexts -/

/-- **The words of the code** are no keys of secrets: for each place that makes an object,
the keys that it writes. -/
structure PlainWords : Prop where
  payload : plainKey "payload".toList = true
  classMarks : ∀ epistemicClass, ((classMarks epistemicClass).map (·.1)).all plainKey = true
  itemFields : ∀ item, ((itemFields item).map (·.1)).all plainKey = true
  omission : ∀ omission, ((omissionPayload omission).map (·.1)).all plainKey = true
  context : ∀ sha256 context, ((contextModelPayload sha256 context).map (·.1)).all plainKey = true
  request : ["instructions_channel".toList, "research_context".toList].all plainKey = true
  channel : ["role".toList, "task".toList].all plainKey = true
  proposal : plainKey "proposal".toList = true
  mapping : ∀ proposal : HypothesisProposal, (proposal.toMapping.map (·.1)).all plainKey = true
  inference : (inferenceEntries.map (·.1)).all plainKey = true
  invariantPayload : ∀ record, ((invariantPayload record).map (·.1)).all plainKey = true
  invariant : (invariantEntries.map (·.1)).all plainKey = true
  chainFeatures : ∀ record, ((descriptiveFeatures record).map (·.1)).all plainKey = true
  chainPayload : ∀ record, ((chainPayload record).map (·.1)).all plainKey = true
  chain : (chainEntries.map (·.1)).all plainKey = true
  opportunityPayload : ∀ record, ((opportunityPayload record).map (·.1)).all plainKey = true
  opportunity : (opportunityEntries.map (·.1)).all plainKey = true
  changePayload : ∀ record, ((changePayload record).map (·.1)).all plainKey = true
  change : (changeEntries.map (·.1)).all plainKey = true
  negative : ["experiment_id".toList, "hypothesis_id".toList, "execution_state".toList, "context_identity".toList].all plainKey = true
  external : ["untrusted".toList, "instruction_authority".toList, "source_reference".toList].all plainKey = true
  sides : ["baseline".toList, "variant".toList].all plainKey = true
  time : plainKey "TIME".toList = true
  snapshots : ["baseline_snapshot_id".toList, "variant_snapshot_id".toList,
    "not_timestamp_only".toList].all plainKey = true
  similar : ["not_authorization_proof".toList, "not_a_vulnerability".toList].all plainKey = true
  differentialPayload : ∀ record, ((differentialPayload record).map (·.1)).all plainKey = true
  differential : ∀ source, ((differentialEntries source).map (·.1)).all plainKey = true

theorem plainWords : PlainWords where
  payload := by decide
  classMarks epistemicClass := by cases epistemicClass <;> decide
  itemFields item := by
    simp only [Reasoning.itemFields, List.map_cons, List.map_nil]
    decide
  omission omission := by
    simp only [omissionPayload, List.map_cons, List.map_nil]
    decide
  context sha256 context := by
    simp only [contextModelPayload, List.map_cons, List.map_nil]
    decide
  request := by decide
  channel := by decide
  proposal := by decide
  mapping proposal := by
    simp only [HypothesisProposal.toMapping, List.map_cons, List.map_nil]
    decide
  inference := by decide
  invariantPayload record := by
    simp only [Reasoning.invariantPayload, List.map_cons, List.map_nil]
    decide
  invariant := by decide
  chainFeatures record := by
    simp only [descriptiveFeatures, List.map_cons, List.map_nil]
    decide
  chainPayload record := by
    simp only [Reasoning.chainPayload, List.map_cons, List.map_nil]
    decide
  chain := by decide
  opportunityPayload record := by
    simp only [Reasoning.opportunityPayload, List.map_cons, List.map_nil]
    decide
  opportunity := by decide
  changePayload record := by
    simp only [Reasoning.changePayload, List.map_cons, List.map_nil]
    decide
  change := by decide
  negative := by decide
  external := by decide
  sides := by decide
  time := by decide
  snapshots := by decide
  similar := by decide
  differentialPayload record := by
    simp only [Reasoning.differentialPayload, List.map_cons, List.map_nil]
    decide
  differential source := by
    simp only [differentialEntries, marks, List.map_cons, List.map_nil]
    decide

/-- The item's own payload has no secret in it. -/
def ItemFree (lower : Text → Text) (item : ContextItem) : Prop :=
  ∀ payload, item.payload = some payload → secretFreeEntries lower payload = true

theorem secretFree_classMarks (hlower : Lowers lower) (epistemicClass : EpistemicClass) :
    secretFreeEntries lower (classMarks epistemicClass) = true := by
  refine secretFree_of_plain hlower (PlainWords.classMarks plainWords epistemicClass) ?_
  cases epistemicClass <;> simp [classMarks]

theorem secretFree_itemFields (hlower : Lowers lower) (item : ContextItem) :
    secretFreeEntries lower (itemFields item) = true :=
  secretFree_of_plain hlower (PlainWords.itemFields plainWords item) (by simp [itemFields])

/-- **What an item adds** to its payload are words of the code. -/
theorem secretFree_itemPayload (hlower : Lowers lower) (item : ContextItem) :
    secretFreeEntries lower (itemPayload item) = true ↔ ItemFree lower item := by
  have hfields := secretFree_itemFields hlower item
  have hmarks := secretFree_classMarks hlower item.epistemicClass
  have hkey : isSensitiveKey lower "payload".toList = false :=
    not_sensitive_of_plain hlower (PlainWords.payload plainWords)
  rw [secretFreeEntries_iff] at hfields hmarks
  rw [secretFreeEntries_iff, itemPayload, List.forall_mem_append, List.forall_mem_append, ItemFree]
  cases item.payload with
  | none =>
    rw [ownPayload]
    refine iff_of_true ⟨⟨hfields, fun entry hentry => absurd hentry List.not_mem_nil⟩, hmarks⟩ ?_
    exact fun payload hnone => absurd hnone.symm (Option.some_ne_none payload)
  | some payload =>
    rw [ownPayload, List.forall_mem_singleton, secretFree_object]
    constructor
    · rintro ⟨⟨-, -, hpayload⟩, -⟩ other hother
      cases hother
      exact hpayload
    · intro h
      exact ⟨⟨hfields, hkey, h payload rfl⟩, hmarks⟩

theorem secretFree_itemPayloads (hlower : Lowers lower) (items : List ContextItem) :
    secretFree lower (itemPayloads items) = true ↔ ∀ item ∈ items, ItemFree lower item := by
  rw [itemPayloads, secretFree, secretFreeItems_iff, List.forall_mem_map]
  refine forall_congr' fun item => imp_congr_right fun _ => ?_
  rw [secretFree_object, secretFree_itemPayload hlower]

/-- **What a context adds** to the payloads of its items are words of the code. -/
theorem secretFree_contextModelPayload (hlower : Lowers lower) (sha256 : Text → Required)
    (context : ResearchContext) :
    secretFreeEntries lower (contextModelPayload sha256 context) = true ↔
      ∀ item ∈ context.allItems, ItemFree lower item := by
  have homission : secretFreeEntries lower (omissionPayload context.omission) = true :=
    secretFree_of_plain hlower (PlainWords.omission plainWords context.omission)
      (by simp [omissionPayload])
  have hsections : (∀ entry ∈ contextModelPayload sha256 context,
      secretFree lower entry.2 = true) ↔ ∀ item ∈ context.allItems, ItemFree lower item := by
    simp only [contextModelPayload, List.forall_mem_cons, secretFree_text, secretFree_bool,
      secretFree_texts, secretFree_object, homission, secretFree_itemPayloads hlower,
      ContextBody.allItems, List.forall_mem_append]
    simp only [List.not_mem_nil, false_implies, implies_true, and_true, true_and]
    constructor
    · rintro ⟨h1, h2, h3, h4, h5, h6, h7, h8, h9, h10, h11, h12⟩
      exact ⟨⟨⟨⟨⟨⟨⟨⟨⟨⟨⟨h1, h2⟩, h3⟩, h4⟩, h5⟩, h6⟩, h7⟩, h8⟩, h9⟩, h10⟩, h11⟩, h12⟩
    · rintro ⟨⟨⟨⟨⟨⟨⟨⟨⟨⟨⟨h1, h2⟩, h3⟩, h4⟩, h5⟩, h6⟩, h7⟩, h8⟩, h9⟩, h10⟩, h11⟩, h12⟩
      exact ⟨h1, h2, h3, h4, h5, h6, h7, h8, h9, h10, h11, h12⟩
  rw [← hsections, secretFreeEntries_iff]
  constructor
  · exact fun h entry hentry => (h entry hentry).2
  · intro h entry hentry
    exact ⟨not_sensitive_of_plain hlower
      (List.all_eq_true.mp (PlainWords.context plainWords sha256 context) entry.1
        (List.mem_map_of_mem hentry)), h entry hentry⟩

/-! ## Requests -/

/-- A request whose texts are there is refused only for the keys of its payload. -/
theorem modelCallRequest_iff (role : ModelRole)
    (correlationId contextFingerprint instructions : Required) (payload : Dict) :
    (∃ made, modelCallRequest lower role correlationId.val contextFingerprint.val instructions.val
      payload none = .ok made) ↔ secretFreeEntries lower payload = true := by
  have hspec := @SafeData.rejectSecretKeys_spec lower (.object payload) "payload".toList
  rw [SafeData.walkSensitiveKeys_eq_nil, secretFree_object] at hspec
  unfold modelCallRequest
  rw [if_neg correlationId.property, if_neg contextFingerprint.property,
    if_neg instructions.property]
  by_cases hfree : secretFreeEntries lower payload = true
  · rw [hspec.1.mpr hfree]
    exact iff_of_true ⟨_, rfl⟩ hfree
  · obtain ⟨error, herror⟩ := hspec.2 fun hnil => hfree <| by
      rw [← secretFree_object]
      exact SafeData.walkSensitiveKeys_eq_nil.mp hnil
    rw [herror]
    refine iff_of_false ?_ hfree
    rintro ⟨made, hmade⟩
    cases hmade

/-- The payload of a request is free of secrets as far as its context is. -/
theorem secretFree_requestPayload (hlower : Lowers lower) (sha256 : Text → Required)
    (role : ModelRole) (instructions : Text) (context : ResearchContext) {extra : Dict}
    (hextra : secretFreeEntries lower extra = true)
    (hnot : "research_context".toList ∉ extra.map (·.1)) :
    secretFreeEntries lower (requestPayload sha256 role instructions context extra) = true ↔
      ∀ item ∈ context.allItems, ItemFree lower item := by
  rw [← secretFree_contextModelPayload hlower sha256 context]
  constructor
  · intro h
    have hlookup : Dict.lookup (requestPayload sha256 role instructions context extra)
        "research_context".toList = some (.object (contextModelPayload sha256 context)) := by
      rw [requestPayload, Dict.lookup_update_of_not_mem hnot]
      rfl
    have hfree := (secretFree_of_lookup h hlookup).2
    rwa [secretFree_object] at hfree
  · intro h
    have hchannel : secretFreeEntries lower [("role".toList, .text (roleValue role)),
        ("task".toList, .text instructions)] = true :=
      secretFree_of_plain hlower (PlainWords.channel plainWords) (by simp)
    refine secretFreeEntries_update (secretFree_of_plain hlower (PlainWords.request plainWords) ?_)
      hextra
    rw [List.forall_mem_cons, List.forall_mem_singleton, secretFree_object, secretFree_object]
    exact ⟨hchannel, h⟩

theorem secretFree_proposal (hlower : Lowers lower) (proposal : HypothesisProposal) :
    secretFreeEntries lower [("proposal".toList, .object proposal.toMapping)] = true := by
  have hmapping : secretFreeEntries lower proposal.toMapping = true :=
    secretFree_of_plain hlower (PlainWords.mapping plainWords proposal)
      (by simp [HypothesisProposal.toMapping])
  rw [secretFreeEntries_iff, List.forall_mem_singleton, secretFree_object]
  exact ⟨not_sensitive_of_plain hlower (PlainWords.proposal plainWords), hmapping⟩

/-- Both requests of a cycle can be made from a context, whatever the proposal. -/
def PutToModel (lower : Text → Text) (sha256 : Text → Required)
    (instructions : ModelRole → Required) (context : ResearchContext) : Prop :=
  ∀ correlationId : Required,
    (∃ made, generatorRequest sha256 lower (instructions .generator) context correlationId =
      .ok made) ∧
    ∀ proposal : HypothesisProposal, ∃ made,
      falsifierRequest sha256 lower (instructions .falsifier) context proposal correlationId =
        .ok made

/-- **What a cycle asks of its context**: that the items have no secrets. -/
theorem putToModel_iff (hlower : Lowers lower) (sha256 : Text → Required)
    (instructions : ModelRole → Required) (context : ResearchContext) :
    PutToModel lower sha256 instructions context ↔
      ∀ item ∈ context.allItems, ItemFree lower item := by
  have hnone : secretFreeEntries lower [] = true := by rw [secretFreeEntries_iff]; simp
  have hgenerator := fun correlationId : Required =>
    (@modelCallRequest_iff lower .generator correlationId context.fingerprint
      (instructions .generator) _).trans
      (secretFree_requestPayload hlower sha256 .generator (instructions .generator).val context
        hnone (by simp))
  have hfalsifier := fun (correlationId : Required) (proposal : HypothesisProposal) =>
    (@modelCallRequest_iff lower .falsifier correlationId context.fingerprint
      (instructions .falsifier) _).trans
      (secretFree_requestPayload hlower sha256 .falsifier (instructions .falsifier).val context
        (secretFree_proposal hlower proposal) (by
          simp only [List.map_cons, List.map_nil]
          decide))
  constructor
  · intro h
    exact (hgenerator context.fingerprint).mp (h context.fingerprint).1
  · intro h correlationId
    exact ⟨(hgenerator correlationId).mpr h, fun proposal =>
      (hfalsifier correlationId proposal).mpr h⟩

end Plain
end Zest.Reasoning

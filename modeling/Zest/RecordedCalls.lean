import Zest.CallReplay

/-! # What is replayed of a recorded call

A record is written with its keys in order and is read back, so under each of its
keys is what was written there.  Every field is made again of what it has been
written as, except the price class of the runtime: it is not in the record, and
what is made of the record is cheap.
-/
namespace Zest.CallReplay

open Benchmark (optionalText)
open JsonValue (str reread rereadObject lookup_rereadObject get_rereadObject reread_object)
open Reasoning (Required)
open ResearchSelection (Name)
open Routing (RuntimeClass ModelPriceClass)

/-! ## Enumerations by their values -/

theorem modelRole_value (role : ModelRole) : modelRole (modelRoleValue role) = some role := by
  refine memberOf_value ?_ ?_ role
  · intro member
    cases member <;> decide
  · intro a b
    cases a <;> cases b <;> decide

theorem runtimeKind_value (kind : RuntimeKind) : runtimeKind kind.value = some kind := by
  refine memberOf_value ?_ ?_ kind
  · intro member
    cases member <;> decide
  · intro a b
    cases a <;> cases b <;> decide

theorem runtimeClass_value (runtime : RuntimeClass) :
    runtimeClass (runtimeClassValue runtime) = some runtime := by
  refine memberOf_value ?_ ?_ runtime
  · intro member
    cases member <;> decide
  · intro a b
    cases a <;> cases b <;> decide

theorem authMode_value (mode : AuthMode) : authMode mode.value = some mode := by
  refine memberOf_value ?_ ?_ mode
  · intro member
    cases member <;> decide
  · intro a b
    cases a <;> cases b <;> decide

/-! ## Fields that are read back -/

theorem enumMember_some {α : Type} {member : Text → Option α} {value : Text} {a : α}
    (h : member value = some a) : enumMember member value = .ok a := by
  rw [enumMember, h]

theorem requireName_val (name : Name) (fieldName : String) :
    requireName name.val fieldName = .ok name := by
  obtain ⟨s, hne, hstrip⟩ := name
  have hnotBlank : s.strip ≠ [] := by
    rw [hstrip]
    exact hne
  rw [requireName, ResearchSelection.requireText, dif_neg hnotBlank]
  exact congrArg Except.ok (Subtype.ext hstrip)

theorem requireOptionalName_val (name : Option Name) (fieldName : String) :
    requireOptionalName fieldName (name.map (·.val)) = .ok name := by
  cases name with
  | none => rfl
  | some name =>
    rw [Option.map_some, requireOptionalName, requireName_val]
    rfl

theorem requireNonBlank_val (required : Required) (fieldName : String) :
    requireNonBlank required.val fieldName = .ok required := by
  rw [requireNonBlank, dif_pos required.property]

theorem requireOptionalNonBlank_val (required : Option Required) (fieldName : String) :
    requireOptionalNonBlank fieldName (required.map (·.val)) = .ok required := by
  cases required with
  | none => rfl
  | some required => rw [Option.map_some, requireOptionalNonBlank, dif_pos required.property]

theorem requireOptionalCount_val (count : Option TokenCount) (fieldName : String) :
    requireOptionalCount fieldName (count.map (·.val)) = .ok count := by
  cases count with
  | none => rfl
  | some count => rw [Option.map_some, requireOptionalCount, dif_pos count.property]

theorem optionalStrOf_reread (s : Option Text) :
    optionalStrOf (reread (optionalText s)) = .ok s := by
  cases s with
  | none => rw [optionalText, reread, optionalStrOf]
  | some s => rw [optionalText, reread, optionalStrOf]

theorem optionalIntOf_reread (n : Option Int) : optionalIntOf (reread (optionalInt n)) = .ok n := by
  cases n with
  | none => rw [optionalInt, reread, optionalIntOf]
  | some n => rw [optionalInt, reread, optionalIntOf]

theorem optionalFloatOf_reread (value : Option Rat) :
    optionalFloatOf (reread (optionalFloat value)) = .ok value := by
  cases value with
  | none => rw [optionalFloat, reread, optionalFloatOf]
  | some value => rw [optionalFloat, reread, optionalFloatOf]

/-- What is under a key of a record that is read back. -/
theorem item_reread (key : String) {d : Dict} (hnodup : (d.map (·.1)).Nodup) {value : JsonValue}
    (h : Dict.lookup d key.toList = some value) :
    item (rereadObject d) key = .ok (reread value) := by
  rw [item, lookup_rereadObject hnodup, h, Option.map_some]

theorem fieldOf_reread (key : String) {d : Dict} (hnodup : (d.map (·.1)).Nodup)
    {value : JsonValue} (h : Dict.lookup d key.toList = some value) :
    fieldOf (rereadObject d) key = reread value := by
  rw [fieldOf, get_rereadObject hnodup, Dict.get, h, Option.getD_some]

theorem str_reread_text (repr : JsonValue → Text) (s : Text) :
    str repr (reread (.text s)) = s := by
  rw [reread, str]

theorem telemetryFields_nodup (telemetry : ModelCallTelemetry) :
    ((telemetryFields telemetry).map (·.1)).Nodup := by
  simp only [telemetryFields, List.map_cons, List.map_nil]
  decide

/-- **Telemetry** is read back as it was. -/
theorem telemetryFromMapping_reread (telemetry : Option ModelCallTelemetry) :
    telemetryFromMapping (reread (telemetryMapping telemetry)) = .ok telemetry := by
  cases telemetry with
  | none => rw [telemetryMapping, reread, telemetryFromMapping]
  | some telemetry =>
    have hnodup := telemetryFields_nodup telemetry
    rw [telemetryMapping, reread_object, telemetryFromMapping]
    rw [fieldOf_reread "latency_ms" hnodup rfl, optionalIntOf_reread, ok_bind]
    rw [fieldOf_reread "input_tokens" hnodup rfl, optionalIntOf_reread, ok_bind]
    rw [fieldOf_reread "output_tokens" hnodup rfl, optionalIntOf_reread, ok_bind]
    rw [fieldOf_reread "retries" hnodup rfl, optionalIntOf_reread, ok_bind]
    rw [fieldOf_reread "provider_reported_cost" hnodup rfl, optionalFloatOf_reread, ok_bind]
    rw [fieldOf_reread "provider_cost_provenance" hnodup rfl, optionalStrOf_reread, ok_bind]
    rfl

section Record

variable {lower : Text → Text} (repr : JsonValue → Text)

/-- The identity of a runtime that is cheap. -/
def ModelRuntimeIdentity.cheapened (identity : ModelRuntimeIdentity lower) :
    ModelRuntimeIdentity lower :=
  { identity with priceClass := .cheap }

theorem makeRuntimeIdentity_val (identity : ModelRuntimeIdentity lower)
    (priceClass : ModelPriceClass) :
    makeRuntimeIdentity lower identity.runtimeKind identity.runtimeClass identity.adapterId.val
      identity.runtimeId.val identity.authMode identity.configurationFingerprint.val
      (identity.runtimeVersion.map (·.val)) (identity.sessionReference.map (·.val)) priceClass =
        .ok { identity with priceClass := priceClass } := by
  rw [makeRuntimeIdentity, requireName_val, ok_bind, requireName_val, ok_bind, requireName_val,
    ok_bind, requireOptionalName_val, ok_bind, requireOptionalName_val, ok_bind,
    dif_pos identity.session_open]

theorem toMapping_nodup (identity : ModelRuntimeIdentity lower) :
    (identity.toMapping.map (·.1)).Nodup := by
  simp only [ModelRuntimeIdentity.toMapping, List.map_cons, List.map_nil]
  decide

/-- **The identity of a runtime** is read back without its price class. -/
theorem runtimeIdentityFromMapping_reread (identity : Option (ModelRuntimeIdentity lower)) :
    runtimeIdentityFromMapping lower repr (reread (runtimeIdentityMapping identity)) =
      .ok (identity.map (·.cheapened)) := by
  cases identity with
  | none =>
    rw [runtimeIdentityMapping, reread, runtimeIdentityFromMapping]
    rfl
  | some identity =>
    have hnodup := toMapping_nodup identity
    rw [runtimeIdentityMapping, reread_object, runtimeIdentityFromMapping]
    rw [item_reread "runtime_kind" hnodup rfl, ok_bind, str_reread_text,
      enumMember_some (runtimeKind_value _), ok_bind]
    rw [item_reread "runtime_class" hnodup rfl, ok_bind, str_reread_text,
      enumMember_some (runtimeClass_value _), ok_bind]
    rw [item_reread "adapter_id" hnodup rfl, ok_bind]
    rw [item_reread "runtime_id" hnodup rfl, ok_bind]
    rw [item_reread "auth_mode" hnodup rfl, ok_bind, str_reread_text,
      enumMember_some (authMode_value _), ok_bind]
    rw [item_reread "configuration_fingerprint" hnodup rfl, ok_bind]
    rw [fieldOf_reread "runtime_version" hnodup rfl, optionalStrOf_reread, ok_bind]
    rw [fieldOf_reread "session_reference" hnodup rfl, optionalStrOf_reread, ok_bind]
    rw [str_reread_text, str_reread_text, str_reread_text, makeRuntimeIdentity_val, ok_bind]
    rfl

theorem resultFields_nodup (result : ModelCallResult lower) :
    ((resultFields result).map (·.1)).Nodup := by
  simp only [resultFields, List.map_cons, List.map_nil]
  decide

theorem resultParts_reread (result : ModelCallResult lower) :
    resultParts lower repr (rereadObject (resultFields result)) =
      .ok ⟨result.role, result.telemetry, result.runtimeIdentity.map (·.cheapened),
        reread (.object result.structuredOutput)⟩ := by
  have hnodup := resultFields_nodup result
  rw [resultParts, item_reread "role" hnodup rfl, ok_bind, str_reread_text,
    enumMember_some (modelRole_value _), ok_bind]
  rw [fieldOf_reread "telemetry" hnodup rfl, telemetryFromMapping_reread, ok_bind]
  rw [fieldOf_reread "runtime_identity" hnodup rfl, runtimeIdentityFromMapping_reread, ok_bind]
  rw [item_reread "structured_output" hnodup rfl, ok_bind]
  rfl

/-- What is made of the record of a result. -/
def replayed (result : ModelCallResult lower) : ModelCallResult lower :=
  { result with
    structuredOutput := rereadObject result.structuredOutput
    runtimeIdentity := result.runtimeIdentity.map (·.cheapened) }

theorem resultOf_reread (result : ModelCallResult lower) (parts : ResultParts lower)
    (output : Dict) :
    resultOf lower repr (rereadObject (resultFields result)) parts output =
      .ok { result with
        role := parts.role
        structuredOutput := output
        telemetry := parts.telemetry
        runtimeIdentity := parts.runtimeIdentity } := by
  have hnodup := resultFields_nodup result
  rw [resultOf, item_reread "adapter_identity" hnodup rfl, ok_bind]
  rw [item_reread "provider_adapter_identity" hnodup rfl, ok_bind]
  rw [fieldOf_reread "model_id" hnodup rfl, optionalStrOf_reread, ok_bind]
  rw [fieldOf_reread "model_version" hnodup rfl, optionalStrOf_reread, ok_bind]
  rw [fieldOf_reread "prompt_tokens" hnodup rfl, optionalIntOf_reread, ok_bind]
  rw [fieldOf_reread "completion_tokens" hnodup rfl, optionalIntOf_reread, ok_bind]
  rw [str_reread_text, str_reread_text, makeResult, requireNonBlank_val, ok_bind,
    requireNonBlank_val, ok_bind, requireOptionalNonBlank_val, ok_bind,
    requireOptionalNonBlank_val, ok_bind, requireOptionalCount_val, ok_bind,
    requireOptionalCount_val, ok_bind]
  rfl

theorem headerFields_nodup (header : CallHeader) (status key : Text) (value : JsonValue)
    (hkey : key = "result".toList ∨ key = "error".toList) :
    ((header.fields status ++ [(key, value)]).map (·.1)).Nodup := by
  simp only [CallHeader.fields, List.cons_append, List.nil_append, List.map_cons, List.map_nil]
  rcases hkey with rfl | rfl
  · decide
  · decide

/-- **The record of a result**, read back, makes the result, with its runtime cheap. -/
theorem resultFromRecord_reread (result : ModelCallResult lower) (header : CallHeader) :
    resultFromRecord lower repr (rereadObject (completedSuccessRecord result header)) =
      .ok (replayed result) := by
  have hnodup := headerFields_nodup header "COMPLETED_SUCCESS".toList "result".toList
    (.object (resultFields result)) (.inl rfl)
  rw [resultFromRecord, completedSuccessRecord, fieldOf_reread "result" hnodup rfl, reread_object]
  dsimp only
  rw [resultParts_reread]
  dsimp only
  rw [reread_object]
  dsimp only
  rw [resultOf_reread]
  rfl

end Record

/-! ## Errors that are read back -/

section Errors

variable (repr : JsonValue → Text)

/-- An `error` with a code and its message makes the error of the code. -/
theorem errorOf_eq {error : Dict} {code : Text} {replayed : ReplayedError}
    (hreplayed : errorOfCode code = some replayed)
    (hcode : item error "code" = .ok (.text code))
    (hclassification : item error "classification" = .ok (.text code))
    (hmessage : item error "message" = .ok (.text replayed.message))
    (hsanitized : item error "sanitized" = .ok (.bool true)) :
    errorOf repr error = .ok replayed := by
  rw [errorOf, hcode, ok_bind, hclassification, ok_bind, hmessage, ok_bind, hsanitized, ok_bind,
    str, hreplayed]
  dsimp only
  rw [if_neg (not_not.mpr rfl), str, if_pos rfl]

/-- What has been written of an error. -/
theorem completedErrorRecord_eq_some {raised : RaisedError} {header : CallHeader} {record : Dict}
    (h : completedErrorRecord raised header = some record) :
    ∃ code replayed, errorOfCode code = some replayed ∧
      record = header.fields "COMPLETED_ERROR".toList ++
        [("error".toList, .object (errorFields code replayed.message))] := by
  obtain ⟨code, -, h⟩ := Option.bind_eq_some_iff.mp h
  obtain ⟨replayed, hreplayed, rfl⟩ := Option.map_eq_some_iff.mp h
  exact ⟨code, replayed, hreplayed, rfl⟩

theorem errorFields_nodup (code message : Text) : ((errorFields code message).map (·.1)).Nodup := by
  simp only [errorFields, List.map_cons, List.map_nil]
  decide

theorem errorFields_keys (code message : Text) :
    (errorFields code message).map Prod.fst = errorKeys := rfl

/-- **The error of a record** is the same before it is written and after it is read back. -/
theorem errorFromRecord_reread {raised : RaisedError} {header : CallHeader} {record : Dict}
    (h : completedErrorRecord raised header = some record) :
    ∃ replayed, errorFromRecord repr record = .ok replayed ∧
      errorFromRecord repr (rereadObject record) = .ok replayed := by
  obtain ⟨code, replayed, hreplayed, rfl⟩ := completedErrorRecord_eq_some h
  have hkeys := errorFields_keys code replayed.message
  refine ⟨replayed, ?_, ?_⟩
  · have herror : fieldOf (header.fields "COMPLETED_ERROR".toList ++
        [("error".toList, .object (errorFields code replayed.message))]) "error" =
          .object (errorFields code replayed.message) := rfl
    rw [errorFromRecord, herror]
    dsimp only
    rw [hkeys, if_pos ⟨List.Subset.refl _, List.Subset.refl _⟩]
    exact errorOf_eq repr hreplayed rfl rfl rfl rfl
  · have hnodup := headerFields_nodup header "COMPLETED_ERROR".toList "error".toList
      (.object (errorFields code replayed.message)) (.inr rfl)
    have hfields := errorFields_nodup code replayed.message
    rw [errorFromRecord, fieldOf_reread "error" hnodup rfl, reread_object]
    dsimp only
    rw [if_pos]
    · refine errorOf_eq repr hreplayed ?_ ?_ ?_ ?_
      · rw [item_reread "code" hfields rfl, reread]
      · rw [item_reread "classification" hfields rfl, reread]
      · rw [item_reread "message" hfields rfl, reread]
      · rw [item_reread "sanitized" hfields rfl, reread]
    · refine ⟨fun key hkey => ?_, fun key hkey => ?_⟩
      · rw [← hkeys]
        exact (JsonValue.mem_keys_rereadObject _ key).mp hkey
      · rw [← hkeys] at hkey
        exact (JsonValue.mem_keys_rereadObject _ key).mpr hkey

end Errors

/-! ## Calls that replay as they happened -/

section Replay

variable {lower : Text → Text}

/-- Results that Python compares as equal in every field. -/
structure SameResult (result other : ModelCallResult lower) : Prop where
  role : result.role = other.role
  adapterIdentity : result.adapterIdentity = other.adapterIdentity
  providerAdapterIdentity : result.providerAdapterIdentity = other.providerAdapterIdentity
  structuredOutput : JsonValue.Same (.object result.structuredOutput)
    (.object other.structuredOutput)
  modelId : result.modelId = other.modelId
  modelVersion : result.modelVersion = other.modelVersion
  promptTokens : result.promptTokens = other.promptTokens
  completionTokens : result.completionTokens = other.completionTokens
  telemetry : result.telemetry = other.telemetry
  runtimeIdentity : result.runtimeIdentity = other.runtimeIdentity

/-- A call replays as it happened: its record makes the result that was returned, or
the error that was raised when it was written. -/
structure ReplaysAsItHappened (repr : JsonValue → Text) (header : CallHeader)
    (result : ModelCallResult lower) (raised : RaisedError) : Prop where
  result : ∃ replayed, resultFromRecord lower repr
    (rereadObject (completedSuccessRecord result header)) = .ok replayed ∧
      SameResult replayed result
  error : ∀ record, completedErrorRecord raised header = some record →
    ∃ replayed, errorFromRecord repr record = .ok replayed ∧
      errorFromRecord repr (rereadObject record) = .ok replayed

theorem cheapened_eq_iff (identity : ModelRuntimeIdentity lower) :
    identity.cheapened = identity ↔ identity.priceClass = .cheap := by
  constructor
  · intro h
    rw [← h]
    rfl
  · intro h
    rw [ModelRuntimeIdentity.cheapened, ← h]

end Replay

/-! ## The journal of these records -/

section Journal

variable {lower : Text → Text}

/-- The journal whose results are written and read back as records. -/
def journalOf (repr : JsonValue → Text) (header : CallHeader)
    (env : Benchmark.Environment (ModelCallResult lower)) :
    Benchmark.Environment (ModelCallResult lower) :=
  { env with
    stored := fun result =>
      (resultFromRecord lower repr (rereadObject (completedSuccessRecord result header))).mapError
        fun _ => "checkpoint completed result is invalid" }

theorem stored_journalOf (repr : JsonValue → Text) (header : CallHeader)
    (env : Benchmark.Environment (ModelCallResult lower)) (result : ModelCallResult lower) :
    (journalOf repr header env).stored result = .ok (replayed result) := by
  rw [journalOf]
  dsimp only
  rw [resultFromRecord_reread, Except.mapError]

/-- **A later process** that finds the record of a call returns what the record makes. -/
theorem replay_journalOf (repr : JsonValue → Text) (header : CallHeader)
    (env : Benchmark.Environment (ModelCallResult lower)) (path : Benchmark.Path)
    (key : Benchmark.CallKey) (result : ModelCallResult lower)
    (error : Except String Benchmark.ModelPortError) :
    Benchmark.replay path key
        (key.record .completedSuccess ((journalOf repr header env).stored result) error) =
      (Benchmark.recordReplay path key (key.record .completedSuccess (.ok (replayed result)) error)
        >>= fun _ => pure (.ok (replayed result))) := by
  have hvalid : Benchmark.validateRecord
      (key.record .completedSuccess (.ok (replayed result)) error) key = .ok () := by
    simp [Benchmark.validateRecord, Benchmark.CallKey.record]
  rw [stored_journalOf, Benchmark.replay, hvalid]
  rfl

end Journal

/-! ## A call of an expensive runtime -/

theorem lab_nonBlank : Text.strip ['a'] ≠ [] := by
  decide

theorem lab_named : ['a'] ≠ [] ∧ Text.strip ['a'] = ['a'] := by
  decide

def labIdentity (priceClass : ModelPriceClass) :
    ModelRuntimeIdentity (fun s => s.map Text.asciiLower) where
  runtimeKind := .api
  runtimeClass := .inferenceRuntime
  adapterId := ⟨['a'], lab_named⟩
  runtimeId := ⟨['a'], lab_named⟩
  authMode := .apiKey
  configurationFingerprint := ⟨['a'], lab_named⟩
  runtimeVersion := none
  sessionReference := none
  priceClass := priceClass
  session_open := rfl

/-- A result that says only what it must, and by which runtime it was made. -/
def labResult (priceClass : ModelPriceClass) :
    ModelCallResult (fun s => s.map Text.asciiLower) where
  role := .generator
  adapterIdentity := ⟨['a'], lab_nonBlank⟩
  providerAdapterIdentity := ⟨['a'], lab_nonBlank⟩
  structuredOutput := []
  modelId := none
  modelVersion := none
  promptTokens := none
  completionTokens := none
  telemetry := none
  runtimeIdentity := some (labIdentity priceClass)

def labHeader : CallHeader := ⟨⟨['a'], ['a'], 0, ['a']⟩, ['a'], ['a'], ['a'], ['a'], ['a']⟩

end Zest.CallReplay

import Zest.CallJournal
import Zest.ExperimentOptions
import Zest.Fallible
import Zest.ResearchContext
import Zest.RuntimeRouting
import Zest.StoredJson

/-! # Records of completed calls

A call that has come back is written down field by field, and so is the error of
one that has not.  A process that finds the record does not ask the provider
again: it makes the result, or the error, of what the record says.

The identity of the runtime goes into the record as its own mapping, which says
all of it but how expensive the runtime is.
-/
namespace Zest.CallReplay

open Benchmark (Slot optionalText checkpointVersion recordKind)
open JsonValue (str)
open Reasoning (Required)
open ResearchSelection (Name)
open Routing (RuntimeClass ModelPriceClass)

/-! ## Enumerations -/

section Enumeration

variable {α : Type} (all : List α) (value : α → Text)

/-- The member of an enumeration with some value. -/
def memberOf (s : Text) : Option α := all.find? fun member => value member = s

theorem memberOf_value {all : List α} {value : α → Text} (hall : ∀ member, member ∈ all)
    (hvalue : ∀ a b, value a = value b → a = b) (member : α) :
    memberOf all value (value member) = some member := by
  have hsome : (all.find? fun other => value other = value member).isSome = true := by
    rw [List.find?_isSome]
    exact ⟨member, hall member, decide_eq_true rfl⟩
  obtain ⟨found, hfound⟩ := Option.isSome_iff_exists.mp hsome
  have hsame : value found = value member := by simpa using List.find?_some hfound
  rw [memberOf, hfound, hvalue found member hsame]

end Enumeration

inductive RuntimeKind where
  | api
  | subscriptionOauth
  | cliSession
  | localModel
  | externalAgent
  deriving DecidableEq, Repr

inductive AuthMode where
  | apiKey
  | subscriptionOauth
  | authenticatedCliSession
  | localNoRemoteAuth
  | externalRuntimeAuth
  deriving DecidableEq, Repr

def RuntimeKind.value : RuntimeKind → Text
  | .api => "API".toList
  | .subscriptionOauth => "SUBSCRIPTION_OAUTH".toList
  | .cliSession => "CLI_SESSION".toList
  | .localModel => "LOCAL_MODEL".toList
  | .externalAgent => "EXTERNAL_AGENT".toList

def AuthMode.value : AuthMode → Text
  | .apiKey => "API_KEY".toList
  | .subscriptionOauth => "SUBSCRIPTION_OAUTH".toList
  | .authenticatedCliSession => "AUTHENTICATED_CLI_SESSION".toList
  | .localNoRemoteAuth => "LOCAL_NO_REMOTE_AUTH".toList
  | .externalRuntimeAuth => "EXTERNAL_RUNTIME_AUTH".toList

/-- `RuntimeClass.value`. -/
def runtimeClassValue : RuntimeClass → Text
  | .inferenceRuntime => "INFERENCE_RUNTIME".toList
  | .agentRuntime => "AGENT_RUNTIME".toList

/-- `ModelRole.value`. -/
def modelRoleValue : ModelRole → Text
  | .generator => "GENERATOR".toList
  | .falsifier => "FALSIFIER".toList

/-- `ModelRole(value)`. -/
def modelRole : Text → Option ModelRole := memberOf [.generator, .falsifier] modelRoleValue

/-- `RuntimeKind(value)`. -/
def runtimeKind : Text → Option RuntimeKind :=
  memberOf [.api, .subscriptionOauth, .cliSession, .localModel, .externalAgent] RuntimeKind.value

/-- `RuntimeClass(value)`. -/
def runtimeClass : Text → Option RuntimeClass :=
  memberOf [.inferenceRuntime, .agentRuntime] runtimeClassValue

/-- `AuthMode(value)`. -/
def authMode : Text → Option AuthMode :=
  memberOf [.apiKey, .subscriptionOauth, .authenticatedCliSession, .localNoRemoteAuth,
    .externalRuntimeAuth] AuthMode.value

/-! ## Results -/

/-- What a reference to a session must not have in it, in lower case. -/
def secretMarkers : List Text := ["sk-".toList, "token=".toList, "bearer ".toList]

/-- A reference to a session that `ModelRuntimeIdentity` takes. -/
def openReference (lower : Text → Text) : Option Name → Bool
  | none => true
  | some name => !secretMarkers.any fun marker => (lower name.val).hasInfix marker

/-- `ModelRuntimeIdentity`. -/
structure ModelRuntimeIdentity (lower : Text → Text) where
  runtimeKind : RuntimeKind
  runtimeClass : RuntimeClass
  adapterId : Name
  runtimeId : Name
  authMode : AuthMode
  configurationFingerprint : Name
  runtimeVersion : Option Name
  sessionReference : Option Name
  priceClass : ModelPriceClass
  session_open : openReference lower sessionReference = true

structure ModelCallTelemetry where
  latencyMs : Option Int
  inputTokens : Option Int
  outputTokens : Option Int
  retries : Option Int
  providerReportedCost : Option Rat
  providerCostProvenance : Option Text
  deriving DecidableEq

/-- A number of tokens. -/
abbrev TokenCount := {n : Int // 0 < n}

/-- `ModelCallResult`. -/
structure ModelCallResult (lower : Text → Text) where
  role : ModelRole
  adapterIdentity : Required
  providerAdapterIdentity : Required
  structuredOutput : Dict
  modelId : Option Required
  modelVersion : Option Required
  promptTokens : Option TokenCount
  completionTokens : Option TokenCount
  telemetry : Option ModelCallTelemetry
  runtimeIdentity : Option (ModelRuntimeIdentity lower)

/-! ## Writing -/

def optionalInt : Option Int → JsonValue
  | none => .null
  | some n => .integer n

def optionalFloat : Option Rat → JsonValue
  | none => .null
  | some value => .real value

/-- `_telemetry_mapping`, of telemetry that is there. -/
def telemetryFields (telemetry : ModelCallTelemetry) : Dict :=
  [("latency_ms".toList, optionalInt telemetry.latencyMs),
    ("input_tokens".toList, optionalInt telemetry.inputTokens),
    ("output_tokens".toList, optionalInt telemetry.outputTokens),
    ("retries".toList, optionalInt telemetry.retries),
    ("provider_reported_cost".toList, optionalFloat telemetry.providerReportedCost),
    ("provider_cost_provenance".toList, optionalText telemetry.providerCostProvenance)]

/-- `_telemetry_mapping`. -/
def telemetryMapping : Option ModelCallTelemetry → JsonValue
  | none => .null
  | some telemetry => .object (telemetryFields telemetry)

section Writing

variable {lower : Text → Text}

/-- `ModelRuntimeIdentity.to_mapping`. -/
def ModelRuntimeIdentity.toMapping (identity : ModelRuntimeIdentity lower) : Dict :=
  [("runtime_kind".toList, .text identity.runtimeKind.value),
    ("runtime_class".toList, .text (runtimeClassValue identity.runtimeClass)),
    ("adapter_id".toList, .text identity.adapterId.val),
    ("runtime_id".toList, .text identity.runtimeId.val),
    ("auth_mode".toList, .text identity.authMode.value),
    ("runtime_version".toList, optionalText (identity.runtimeVersion.map (·.val))),
    ("session_reference".toList, optionalText (identity.sessionReference.map (·.val))),
    ("configuration_fingerprint".toList, .text identity.configurationFingerprint.val),
    ("contains_secrets".toList, .bool false)]

/-- `_runtime_identity_mapping`. -/
def runtimeIdentityMapping : Option (ModelRuntimeIdentity lower) → JsonValue
  | none => .null
  | some identity => .object identity.toMapping

/-- The `result` of a record. -/
def resultFields (result : ModelCallResult lower) : Dict :=
  [("role".toList, .text (modelRoleValue result.role)),
    ("adapter_identity".toList, .text result.adapterIdentity.val),
    ("provider_adapter_identity".toList, .text result.providerAdapterIdentity.val),
    ("structured_output".toList, .object result.structuredOutput),
    ("model_id".toList, optionalText (result.modelId.map (·.val))),
    ("model_version".toList, optionalText (result.modelVersion.map (·.val))),
    ("prompt_tokens".toList, optionalInt (result.promptTokens.map (·.val))),
    ("completion_tokens".toList, optionalInt (result.completionTokens.map (·.val))),
    ("telemetry".toList, telemetryMapping result.telemetry),
    ("runtime_identity".toList, runtimeIdentityMapping result.runtimeIdentity)]

/-- What a record of a call says besides its outcome; it is made at some time. -/
structure CallHeader where
  slot : Slot
  slotId : Text
  requestFingerprint : Text
  callIdentity : Text
  createdAt : Text
  updatedAt : Text

/-- The entries of every record of a completed call. -/
def CallHeader.fields (header : CallHeader) (status : Text) : Dict :=
  [("kind".toList, .text recordKind),
    ("checkpoint_version".toList, .text checkpointVersion),
    ("status".toList, .text status),
    ("created_at".toList, .text header.createdAt),
    ("updated_at".toList, .text header.updatedAt),
    ("slot".toList, .object header.slot.toMapping),
    ("slot_id".toList, .text header.slotId),
    ("call_identity".toList, .text header.callIdentity),
    ("request_fingerprint".toList, .text header.requestFingerprint),
    ("not_evidence".toList, .bool true), ("not_finding".toList, .bool true),
    ("not_candidate".toList, .bool true), ("not_sor_truth".toList, .bool true)]

/-- `_completed_success_record`. -/
def completedSuccessRecord (result : ModelCallResult lower) (header : CallHeader) : Dict :=
  header.fields "COMPLETED_SUCCESS".toList ++
    [("result".toList, .object (resultFields result))]

end Writing

/-! ## Reading -/

/-- What reading a record may raise. -/
inductive ReplayError where
  | benchmarkError (message : String)
  | keyError (key : String)
  | valueError
  | researchInputError (message : String)
  | modelPortError (message : String)
  deriving DecidableEq

section Reading

/-- `entries[key]`. -/
def item (entries : Dict) (key : String) : Except ReplayError JsonValue :=
  match entries.lookup key.toList with
  | some value => .ok value
  | none => .error (.keyError key)

/-- `entries.get(key)`. -/
def fieldOf (entries : Dict) (key : String) : JsonValue := entries.get key.toList

/-- `_optional_str`. -/
def optionalStrOf : JsonValue → Except ReplayError (Option Text)
  | .null => .ok none
  | .text s => .ok (some s)
  | _ => .error (.benchmarkError "checkpoint string field is invalid")

/-- `_optional_int`. -/
def optionalIntOf : JsonValue → Except ReplayError (Option Int)
  | .null => .ok none
  | .integer n => .ok (some n)
  | _ => .error (.benchmarkError "checkpoint integer field is invalid")

/-- `_optional_float`. -/
def optionalFloatOf : JsonValue → Except ReplayError (Option Rat)
  | .null => .ok none
  | .integer n => .ok (some n)
  | .real value => .ok (some value)
  | _ => .error (.benchmarkError "checkpoint float field is invalid")

/-- `_telemetry_from_mapping`. -/
def telemetryFromMapping : JsonValue → Except ReplayError (Option ModelCallTelemetry)
  | .null => .ok none
  | .object entries => do
    let latencyMs ← optionalIntOf (fieldOf entries "latency_ms")
    let inputTokens ← optionalIntOf (fieldOf entries "input_tokens")
    let outputTokens ← optionalIntOf (fieldOf entries "output_tokens")
    let retries ← optionalIntOf (fieldOf entries "retries")
    let providerReportedCost ← optionalFloatOf (fieldOf entries "provider_reported_cost")
    let providerCostProvenance ← optionalStrOf (fieldOf entries "provider_cost_provenance")
    return some { latencyMs, inputTokens, outputTokens, retries, providerReportedCost,
                  providerCostProvenance }
  | _ => .error (.benchmarkError "checkpoint telemetry is invalid")

/-- A member of an enumeration by its value. -/
def enumMember {α : Type} (member : Text → Option α) (value : Text) : Except ReplayError α :=
  match member value with
  | some a => .ok a
  | none => .error .valueError

/-- `_require_text`. -/
def requireName (value : Text) (fieldName : String) : Except ReplayError Name :=
  (ResearchSelection.requireText value fieldName).mapError .researchInputError

/-- `_require_text`, of a field that is set. -/
def requireOptionalName (fieldName : String) : Option Text → Except ReplayError (Option Name)
  | none => .ok none
  | some value => (requireName value fieldName).map some

/-- A field that is not blank. -/
def requireNonBlank (value : Text) (fieldName : String) : Except ReplayError Required :=
  if h : value.strip ≠ [] then .ok ⟨value, h⟩
  else .error (.modelPortError (fieldName ++ " must be a non-empty string"))

def requireOptionalNonBlank (fieldName : String) :
    Option Text → Except ReplayError (Option Required)
  | none => .ok none
  | some value =>
    if h : value.strip ≠ [] then .ok (some ⟨value, h⟩)
    else .error (.modelPortError (fieldName ++ " must be a non-empty string when set"))

def requireOptionalCount (fieldName : String) :
    Option Int → Except ReplayError (Option TokenCount)
  | none => .ok none
  | some n =>
    if h : 0 < n then .ok (some ⟨n, h⟩)
    else .error (.modelPortError (fieldName ++ " must be a positive int when set"))

variable (lower : Text → Text) (repr : JsonValue → Text)

/-- `ModelRuntimeIdentity.__post_init__`. -/
def makeRuntimeIdentity (runtimeKind : RuntimeKind) (runtimeClass : RuntimeClass)
    (adapterId runtimeId : Text) (authMode : AuthMode) (configurationFingerprint : Text)
    (runtimeVersion sessionReference : Option Text) (priceClass : ModelPriceClass) :
    Except ReplayError (ModelRuntimeIdentity lower) := do
  let adapterId ← requireName adapterId "adapter_id"
  let runtimeId ← requireName runtimeId "runtime_id"
  let configurationFingerprint ← requireName configurationFingerprint "configuration_fingerprint"
  let runtimeVersion ← requireOptionalName "runtime_version" runtimeVersion
  let sessionReference ← requireOptionalName "session_reference" sessionReference
  if h : openReference lower sessionReference = true then
    .ok { runtimeKind, runtimeClass, adapterId, runtimeId, authMode, configurationFingerprint,
          runtimeVersion, sessionReference, priceClass, session_open := h }
  else
    .error (.researchInputError "session_reference must not contain secret material")

/-- `_runtime_identity_from_mapping`: the price class is the default of its field. -/
def runtimeIdentityFromMapping :
    JsonValue → Except ReplayError (Option (ModelRuntimeIdentity lower))
  | .null => .ok none
  | .object entries => do
    let kind ← enumMember runtimeKind (str repr (← item entries "runtime_kind"))
    let runtimeClass ← enumMember runtimeClass (str repr (← item entries "runtime_class"))
    let adapterId ← item entries "adapter_id"
    let runtimeId ← item entries "runtime_id"
    let authMode ← enumMember authMode (str repr (← item entries "auth_mode"))
    let configurationFingerprint ← item entries "configuration_fingerprint"
    let runtimeVersion ← optionalStrOf (fieldOf entries "runtime_version")
    let sessionReference ← optionalStrOf (fieldOf entries "session_reference")
    let identity ← makeRuntimeIdentity lower kind runtimeClass (str repr adapterId)
      (str repr runtimeId) authMode (str repr configurationFingerprint) runtimeVersion
      sessionReference .cheap
    return some identity
  | _ => .error (.benchmarkError "checkpoint runtime identity is invalid")

/-- What `_result_from_record` reads first. -/
structure ResultParts where
  role : ModelRole
  telemetry : Option ModelCallTelemetry
  runtimeIdentity : Option (ModelRuntimeIdentity lower)
  structured : JsonValue

/-- The part of `_result_from_record` whose errors are all taken for one. -/
def resultParts (result : Dict) : Except ReplayError (ResultParts lower) := do
  let role ← enumMember modelRole (str repr (← item result "role"))
  let telemetry ← telemetryFromMapping (fieldOf result "telemetry")
  let runtimeIdentity ←
    runtimeIdentityFromMapping lower repr (fieldOf result "runtime_identity")
  let structured ← item result "structured_output"
  return { role, telemetry, runtimeIdentity, structured }

/-- `ModelCallResult.__post_init__`, of what the parts and the other fields say. -/
def makeResult (parts : ResultParts lower) (structuredOutput : Dict)
    (adapterIdentity providerAdapterIdentity : Text) (modelId modelVersion : Option Text)
    (promptTokens completionTokens : Option Int) :
    Except ReplayError (ModelCallResult lower) := do
  let adapterIdentity ← requireNonBlank adapterIdentity "adapter_identity"
  let providerAdapterIdentity ←
    requireNonBlank providerAdapterIdentity "provider_adapter_identity"
  let modelId ← requireOptionalNonBlank "model_id" modelId
  let modelVersion ← requireOptionalNonBlank "model_version" modelVersion
  let promptTokens ← requireOptionalCount "prompt_tokens" promptTokens
  let completionTokens ← requireOptionalCount "completion_tokens" completionTokens
  return { role := parts.role, adapterIdentity, providerAdapterIdentity, structuredOutput,
           modelId, modelVersion, promptTokens, completionTokens, telemetry := parts.telemetry,
           runtimeIdentity := parts.runtimeIdentity }

/-- The rest of `_result_from_record`. -/
def resultOf (result : Dict) (parts : ResultParts lower) (structuredOutput : Dict) :
    Except ReplayError (ModelCallResult lower) := do
  let adapterIdentity ← item result "adapter_identity"
  let providerAdapterIdentity ← item result "provider_adapter_identity"
  let modelId ← optionalStrOf (fieldOf result "model_id")
  let modelVersion ← optionalStrOf (fieldOf result "model_version")
  let promptTokens ← optionalIntOf (fieldOf result "prompt_tokens")
  let completionTokens ← optionalIntOf (fieldOf result "completion_tokens")
  makeResult lower parts structuredOutput (str repr adapterIdentity)
    (str repr providerAdapterIdentity) modelId modelVersion promptTokens completionTokens

/-- `_result_from_record`. -/
def resultFromRecord (record : Dict) : Except ReplayError (ModelCallResult lower) :=
  match fieldOf record "result" with
  | .object result =>
    match resultParts lower repr result with
    | .error _ => .error (.benchmarkError "checkpoint completed result is invalid")
    | .ok parts =>
      match parts.structured with
      | .object structuredOutput => resultOf lower repr result parts structuredOutput
      | _ => .error (.benchmarkError "checkpoint completed structured output is invalid")
  | _ => .error (.benchmarkError "checkpoint completed record is missing result")

end Reading

/-! ## Errors -/

/-- An exception of a `ModelPort`: the classes that it is an instance of, and its message. -/
structure RaisedError where
  isInstance : Benchmark.ModelPortError → Bool
  message : Text

/-- An exception of just the class that is named. -/
structure ReplayedError where
  errorClass : Benchmark.ModelPortError
  message : Text
  deriving DecidableEq

/-- `_ERROR_CLASS_TO_CODE`. -/
def errorClassToCode : List (Benchmark.ModelPortError × Text) :=
  [(.structuredOutputTransport, "STRUCTURED_OUTPUT_FAILURE".toList),
    (.contentPolicyBlocked, "CONTENT_POLICY_BLOCKED".toList),
    (.providerAuth, "PROVIDER_AUTH".toList),
    (.providerRateLimit, "PROVIDER_RATE_LIMIT".toList),
    (.providerTimeout, "PROVIDER_TIMEOUT".toList),
    (.runtimeProcess, "RUNTIME_PROCESS_ERROR".toList),
    (.runtimeUnavailable, "RUNTIME_UNAVAILABLE".toList),
    (.providerRuntime, "PROVIDER_RUNTIME".toList)]

/-- `_ERROR_CODE_TO_CLASS` and `_ERROR_CODE_TO_MESSAGE`, which have the same codes. -/
def errorCodes : List (Text × Benchmark.ModelPortError × Text) :=
  [("CONTENT_POLICY_BLOCKED".toList, .contentPolicyBlocked, "content policy blocked".toList),
    ("PROVIDER_AUTH".toList, .providerAuth, "provider authentication failed".toList),
    ("PROVIDER_RATE_LIMIT".toList, .providerRateLimit, "provider rate limit".toList),
    ("PROVIDER_RUNTIME".toList, .providerRuntime, "provider runtime error".toList),
    ("PROVIDER_TIMEOUT".toList, .providerTimeout, "provider timeout".toList),
    ("RUNTIME_PROCESS_ERROR".toList, .runtimeProcess, "runtime process error".toList),
    ("RUNTIME_UNAVAILABLE".toList, .runtimeUnavailable, "runtime unavailable".toList),
    ("STRUCTURED_OUTPUT_FAILURE".toList, .structuredOutputTransport,
      "structured output failure".toList)]

/-- The class and the message of a code. -/
def errorOfCode (code : Text) : Option ReplayedError :=
  (errorCodes.find? (·.1 = code)).map fun entry => ⟨entry.2.1, entry.2.2⟩

/-- `_allowlisted_error_code`. -/
def allowlistedErrorCode (raised : RaisedError) : Option Text :=
  (errorClassToCode.find? fun entry => raised.isInstance entry.1).map (·.2)

/-- The `error` of a record. -/
def errorFields (code message : Text) : Dict :=
  [("code".toList, .text code), ("classification".toList, .text code),
    ("message".toList, .text message), ("sanitized".toList, .bool true)]

/-- `_completed_error_record`: an error without a code is raised as it is, and nothing
is written. -/
def completedErrorRecord (raised : RaisedError) (header : CallHeader) : Option Dict :=
  (allowlistedErrorCode raised).bind fun code => (errorOfCode code).map fun error =>
    header.fields "COMPLETED_ERROR".toList ++
      [("error".toList, .object (errorFields code error.message))]

/-- The keys of the `error` of a record. -/
def errorKeys : List Text :=
  ["code".toList, "classification".toList, "message".toList, "sanitized".toList]

section Errors

variable (repr : JsonValue → Text)

/-- `_error_from_record`, of an `error` with the keys that it must have. -/
def errorOf (error : Dict) : Except ReplayError ReplayedError := do
  let code ← item error "code"
  let classification ← item error "classification"
  let message ← item error "message"
  let sanitized ← item error "sanitized"
  match errorOfCode (str repr code) with
  | none => .error (.benchmarkError "checkpoint completed error classification is invalid")
  | some replayed =>
    if str repr code ≠ str repr classification then
      .error (.benchmarkError "checkpoint completed error classification is invalid")
    else
      match sanitized with
      | .bool true =>
        if str repr message = replayed.message then .ok replayed
        else .error (.benchmarkError "checkpoint completed error replay details are invalid")
      | _ => .error (.benchmarkError "checkpoint completed error replay details are invalid")

/-- `_error_from_record`. -/
def errorFromRecord (record : Dict) : Except ReplayError ReplayedError :=
  match fieldOf record "error" with
  | .object error =>
    if error.map Prod.fst ⊆ errorKeys ∧ errorKeys ⊆ error.map Prod.fst then
      errorOf repr error
    else .error (.benchmarkError "checkpoint completed error record is invalid")
  | _ => .error (.benchmarkError "checkpoint completed error record is missing error")

end Errors

end Zest.CallReplay

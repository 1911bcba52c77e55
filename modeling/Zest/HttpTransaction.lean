import Mathlib.Data.Char
import Mathlib.Data.List.Lex
import Mathlib.Data.List.Sort
import Zest.JsonValue
import Zest.NetworkEnvelope
import Zest.PercentEncoding
import Zest.RawExchange
import Zest.WorkerRequest

/-! # The HTTP transaction, on both sides

A plan for `http.transaction` is checked twice: by Core, when the intent is
compiled, and by the Worker, when the request arrives.  The request is not the
plan: the program's policy puts headers into it on the way.  This module has
the three of them, the argument policy of Core, the builder of the arguments of
a request, and the executor of the Worker up to its exchange.
-/
namespace Zest.HttpTransaction

open RawExchange (queryAndFragment)

/-! ## Core's argument policy -/

/-- Why an intent is not compiled: an issue of the arguments, another compile
error, or an exception that is not caught. -/
inductive CompileFailure where
  | issue (reasonCode message : String)
  /-- The issue is that of the schema validator, in its words. -/
  | schema
  | raised (exception : String)
  deriving DecidableEq, Repr

/-- `ArgumentValidationIssue("INVALID_ARGUMENT_TYPE", message)`. -/
def invalidArgument (message : String) : CompileFailure := .issue "INVALID_ARGUMENT_TYPE" message

/-- `ArgumentValidationIssue("UNEXPECTED_ARGUMENT", message)`. -/
def unexpectedArgument (message : String) : CompileFailure := .issue "UNEXPECTED_ARGUMENT" message

/-- A check that refuses. -/
def refuseIf {ε : Type} (bad : Bool) (refusal : ε) : Except ε Unit :=
  if bad then .error refusal else .ok ()

theorem refuseIf_eq_ok {ε : Type} {bad : Bool} {refusal : ε} {u : Unit} :
    refuseIf bad refusal = .ok u ↔ bad = false := by
  cases bad <;> simp [refuseIf]

/-- `FORBIDDEN_REQUEST_HEADERS`, of Core and of the Worker. -/
def forbiddenRequestHeaders : List Text :=
  ["host".toList, "content-length".toList, "transfer-encoding".toList, "connection".toList,
    "proxy-authorization".toList, "proxy-connection".toList, "authorization".toList,
    "cookie".toList, "cookie2".toList, "set-cookie".toList]

/-- `ALLOWED_READ_METHODS`. -/
def allowedReadMethods : List Text := ["GET".toList, "HEAD".toList, "OPTIONS".toList]

/-- `ALLOWED_MUTATE_METHODS`. -/
def allowedMutateMethods : List Text :=
  ["POST".toList, "PUT".toList, "PATCH".toList, "DELETE".toList]

/-- `MAX_HEADER_NAME_LENGTH`. -/
def maxHeaderNameLength : Nat := 64

section Policy

variable (L : UrlCodecs) (isAlnum : Char → Bool)

/-- The checks of a path, which Core and the Worker make in the same order and
in the same words. -/
def pathError (path : Text) : Option String :=
  if hasControlMarker path then some "path must not contain CRLF"
  else if path.startsWith "//".toList || path.hasInfix "://".toList then
    some "path must not be an absolute URL"
  else if path.contains '\\' || path.hasInfix "/../".toList || path.endsWith "/..".toList ||
      path.hasInfix "/./".toList || path.endsWith "/.".toList then some "path is ambiguous"
  else if path.contains '%' &&
      ((L.lower path).hasInfix "%2f".toList || (L.lower path).hasInfix "%2e".toList) then
    some "path is ambiguous"
  else if !path.startsWith ['/'] then some "path must be absolute"
  else if path.hasInfix "//".toList then some "path is ambiguous"
  else none

/-- `_path_issue`, of a path that must be a text. -/
def pathIssue : JsonValue → Except CompileFailure Unit
  | .text path =>
    match pathError L path with
    | some message => .error (invalidArgument message)
    | none => .ok ()
  | _ => .error (invalidArgument "path must be a string")

/-- The body of the loop of `_headers_issue`. -/
def headerIssue (name : Text) : JsonValue → Except CompileFailure Unit
  | .text value => do
    refuseIf (hasControlMarker name || hasControlMarker value)
      (invalidArgument "headers must not contain CRLF")
    refuseIf (maxHeaderNameLength < name.length) (invalidArgument "header name exceeds bound")
    refuseIf (forbiddenRequestHeaders.contains (L.lower name))
      (unexpectedArgument ("header " ++ String.ofList name ++ " is not allowed"))
    refuseIf (!name.all fun c => isAlnum c || c == '-') (invalidArgument "header name is invalid")
  | _ => .error (invalidArgument "header names and values must be strings")

/-- `_headers_issue`. -/
def headersIssue : Dict → Except CompileFailure Unit
  | [] => .ok ()
  | entry :: headers => do
    headerIssue L isAlnum entry.1 entry.2
    headersIssue headers

/-- The loop over the query. -/
def queryIssue : Dict → Except CompileFailure Unit
  | [] => .ok ()
  | (key, .text value) :: query => do
    refuseIf (hasControlMarker key || hasControlMarker value)
      (invalidArgument "query must not contain CRLF")
    queryIssue query
  | _ :: _ => .error (invalidArgument "query keys and values must be strings")

/-- `value or {}`, if it is an object. -/
def objectOr {ε : Type} (refusal : ε) : JsonValue → Except ε Dict
  | .object entries => .ok entries
  | value => if value.truthy then .error refusal else .ok []

def methodIssue (action : Text) : JsonValue → Except CompileFailure Unit
  | .text method => do
    refuseIf (action = "read".toList && !allowedReadMethods.contains method)
      (invalidArgument "read action methods are GET, HEAD, OPTIONS")
    refuseIf (action = "mutate".toList && !allowedMutateMethods.contains method)
      (invalidArgument "mutate action methods are POST, PUT, PATCH, DELETE")
  | _ => .error (invalidArgument "method must be a string")

def originIssue : JsonValue → Except CompileFailure Unit
  | .text origin => do
    refuseIf (origin.strip = []) (invalidArgument "authorized_origin is required")
    refuseIf (hasControlMarker origin)
      (invalidArgument "authorized_origin must not contain CRLF")
    match urlsplit L origin.strip with
    | none => .error (.raised "ValueError")
    | some parsed => do
      refuseIf (parsed.path ≠ [] && parsed.path ≠ ['/'])
        (invalidArgument "authorized_origin must not include a path")
      refuseIf (queryAndFragment origin.strip ≠ ([], []))
        (invalidArgument "authorized_origin must not include query or fragment")
  | _ => .error (invalidArgument "authorized_origin is required")

def bodyIssue (action : Text) : JsonValue → Except CompileFailure Unit
  | .null => .ok ()
  | value => do
    refuseIf (action = "read".toList) (unexpectedArgument "read action must not include a body")
    match value with
    | .text body => do
      refuseIf ((body.contains '\r' || body.contains '\n') && body.hasInfix "\r\n\r\n".toList)
        (invalidArgument "body must not smuggle headers")
      refuseIf ((L.lower body.strip).startsWith "file:".toList)
        (invalidArgument "body must not be a filesystem source")
    | _ => .error (invalidArgument "body must be a string")

def sessionIssue : JsonValue → Except CompileFailure Unit
  | .null => .ok ()
  | .text ref => do
    refuseIf (ref.strip = []) (invalidArgument "session_context_reference must be a string")
    refuseIf (hasControlMarker ref)
      (invalidArgument "session_context_reference must not contain CRLF")
  | _ => .error (invalidArgument "session_context_reference must be a string")

/-- `validate_http_transaction_arguments`. -/
def validateHttpTransactionArguments (action : Text) (arguments : Dict) :
    Except CompileFailure Unit := do
  methodIssue action (arguments.get "method".toList)
  pathIssue L (arguments.get "path".toList)
  originIssue L (arguments.get "authorized_origin".toList)
  let headers ← objectOr (invalidArgument "headers must be an object")
    (arguments.get "headers".toList)
  headersIssue L isAlnum headers
  let query ← objectOr (invalidArgument "query must be an object") (arguments.get "query".toList)
  queryIssue query
  bodyIssue L action (arguments.get "body".toList)
  sessionIssue (arguments.get "session_context_reference".toList)

/-! ## Compilation -/

/-- `ExperimentIntent`, with its texts stripped. -/
structure ExperimentIntent where
  hypothesisId : Text
  capabilityId : Text
  action : Text
  targetReference : Text
  arguments : Dict
  requestedBudgetId : Text
  requestedSideEffect : Option Nat
  targetType : Text

/-- `CapabilityActionDefinition`, the part that a compilation reads. -/
structure CapabilityActionDefinition where
  argumentSchema : ArgumentSchema
  minimumSideEffectLevel : Nat
  maximumSideEffectLevel : Nat
  targetTypes : List Text
  requirements : List Text

/-- `CapabilityDefinition`. -/
structure CapabilityDefinition where
  version : Text
  executorClass : Text
  actions : Text → Option CapabilityActionDefinition
  definitionFingerprint : Text

/-- `ExperimentPlan`, less the texts about what it expects to see. -/
structure Plan where
  hypothesisId : Text
  requiredCapability : Text
  action : Text
  targetReference : Text
  sideEffectLevel : Nat
  arguments : Dict
  requestedBudgetId : Text
  capabilityVersion : Text
  capabilityDefinitionFingerprint : Text

/-- The properties that the two actions of `http.transaction` share. -/
def sharedProperties : List (Text × PropertySchema) :=
  [("authorized_origin".toList, .text 1 (some 256) none),
    ("path".toList, .text 1 (some 256) none),
    ("query".toList, .texts 16 128),
    ("headers".toList, .texts 8 128),
    ("content_type".toList, .text 0 (some 128) none),
    ("session_context_reference".toList, .text 1 (some 128) none),
    ("max_response_bytes".toList, .integer 1 1048576),
    ("timeout_ms".toList, .integer 1 10000)]

/-- The arguments that both actions require. -/
def requiredArguments : List Text :=
  ["authorized_origin".toList, "method".toList, "path".toList]

/-- The action `read` of the packaged definition. -/
def readAction : CapabilityActionDefinition where
  argumentSchema := ⟨requiredArguments,
    ("method".toList, .text 0 none (some allowedReadMethods)) :: sharedProperties⟩
  minimumSideEffectLevel := 0
  maximumSideEffectLevel := 0
  targetTypes := ["opaque_reference".toList]
  requirements := ["loopback".toList]

/-- The action `mutate` of the packaged definition. -/
def mutateAction : CapabilityActionDefinition where
  argumentSchema := ⟨requiredArguments,
    ("method".toList, .text 0 none (some allowedMutateMethods)) ::
      ("body".toList, .text 0 (some 4096) none) :: sharedProperties⟩
  minimumSideEffectLevel := 1
  maximumSideEffectLevel := 1
  targetTypes := ["opaque_reference".toList]
  requirements := ["loopback".toList]

/-- The packaged definition of `http.transaction`, with its fingerprint. -/
def httpTransactionDefinition (fingerprint : Text) : CapabilityDefinition where
  version := "1".toList
  executorClass := "WORKER".toList
  actions action :=
    if action = "read".toList then some readAction
    else if action = "mutate".toList then some mutateAction
    else none
  definitionFingerprint := fingerprint

/-- An argument validator of a capability: of an action and its arguments. -/
abbrev ArgumentValidator := Text → Dict → Except CompileFailure Unit

/-- `load_capability_registry`; the definitions of the other capabilities are
`others`. -/
def loadCapabilityRegistry (fingerprint : Text) (others : Text → Option CapabilityDefinition)
    (capabilityId : Text) : Option CapabilityDefinition :=
  if capabilityId = "http.transaction".toList then some (httpTransactionDefinition fingerprint)
  else others capabilityId

/-- `extra_argument_validator_for`. -/
def extraArgumentValidatorFor (others : Text → Option ArgumentValidator) (capabilityId : Text) :
    Option ArgumentValidator :=
  if capabilityId = "http.transaction".toList then
    some (validateHttpTransactionArguments L isAlnum)
  else others capabilityId

/-- `SUPPORTED_TARGET_TYPES`. -/
def supportedTargetTypes : List Text := ["opaque_reference".toList, "http_origin".toList]

/-- `SUPPORTED_REQUIREMENTS`. -/
def supportedRequirements : List Text := ["loopback".toList, "scope_derived".toList]

def requirementIssue (requirements : List Text) : Except CompileFailure Unit :=
  match requirements.find? fun requirement => !supportedRequirements.contains requirement with
  | some requirement => .error (.issue "UNSUPPORTED_REQUIREMENT"
      ("unsupported requirement " ++ String.ofList requirement))
  | none => .ok ()

/-- The validator's own verdict, if there is one. -/
def extraIssue (validator : Option ArgumentValidator) (action : Text) (arguments : Dict) :
    Except CompileFailure Unit :=
  match validator with
  | some validate => validate action arguments
  | none => .ok ()

/-- `compile_experiment_intent`, over a catalog and its argument validators. -/
def compileExperimentIntent (catalog : Text → Option CapabilityDefinition)
    (extra : Text → Option ArgumentValidator) (intent : ExperimentIntent) :
    Except CompileFailure Plan :=
  match catalog intent.capabilityId with
  | none => .error (.issue "UNKNOWN_CAPABILITY" "unknown capability")
  | some definition =>
    if definition.executorClass ≠ "WORKER".toList then
      .error (.issue "UNKNOWN_CAPABILITY" "unknown capability")
    else
      match definition.actions intent.action with
      | none => .error (.issue "UNKNOWN_ACTION" "unknown action")
      | some action => do
        refuseIf (!action.targetTypes.contains intent.targetType)
          (.issue "WRONG_TARGET_TYPE" "target type is not allowed")
        refuseIf (!supportedTargetTypes.contains intent.targetType)
          (.issue "WRONG_TARGET_TYPE" "unsupported target type")
        refuseIf (intent.targetType = "http_origin".toList &&
            !intent.targetReference.hasInfix "://".toList)
          (.issue "WRONG_TARGET_TYPE" "http_origin target is not a URL")
        requirementIssue action.requirements
        refuseIf (!action.argumentSchema.accepts intent.arguments) .schema
        extraIssue (extra intent.capabilityId) intent.action intent.arguments
        refuseIf (intent.requestedSideEffect.any (· < action.minimumSideEffectLevel))
          (.issue "RISK_UNDERSTATEMENT" "requested side effect is below action minimum")
        refuseIf (intent.requestedSideEffect.any (action.maximumSideEffectLevel < ·))
          (.issue "RISK_EXCEEDS_CAPABILITY" "requested side effect exceeds action maximum")
        return {
          hypothesisId := intent.hypothesisId
          requiredCapability := intent.capabilityId
          action := intent.action
          targetReference := intent.targetReference
          sideEffectLevel := action.minimumSideEffectLevel
          arguments := intent.arguments
          requestedBudgetId := intent.requestedBudgetId
          capabilityVersion := definition.version
          capabilityDefinitionFingerprint := definition.definitionFingerprint }

end Policy

/-! ## The request -/

section Builder

variable (lower : Text → Text) (isAlnum : Char → Bool)

/-- `set_authoritative_header`: every spelling of the name is removed first. -/
def setAuthoritativeHeader (headers : Dict) (name value : Text) : Dict :=
  headers.filter (fun entry => lower entry.1 ≠ lower name) ++ [(name, .text value)]

/-- The headers that the program's policy puts into every request. -/
def policyHeaders (requiredUserAgent : Option Text) (requiredHeaders : List (Text × Text)) :
    List (Text × Text) :=
  (requiredUserAgent.map fun value => ("User-Agent".toList, value)).toList ++ requiredHeaders

/-- The arguments with the identity that the request is made under. -/
def withIdentity (arguments : Dict) : Option Text → Dict
  | some identity => arguments.set "identity_id".toList (.text identity)
  | none => arguments

/-- The `arguments` that `_build_worker_request` puts into the request. -/
def buildArguments (arguments : Dict) (identityId : Option Text)
    (requiredUserAgent : Option Text) (requiredHeaders : Option RequiredHeaders) :
    Except String Dict := do
  let arguments := withIdentity arguments identityId
  let existing ← objectOr "worker request headers must be an object"
    (arguments.get "headers".toList)
  let validated ← validateRequiredProgramHeaders lower isAlnum requiredHeaders
  let headers := (policyHeaders requiredUserAgent validated).foldl
    (fun headers header => setAuthoritativeHeader lower headers header.1 header.2) existing
  if requiredUserAgent.isSome || requiredHeaders.any (·.truthy) then
    return arguments.set "headers".toList (.object headers)
  else return arguments

end Builder

/-! ## The same request, as a mapping

Where only the values under keys count, the request is that of
`workerArguments`. -/

mutual

/-- A document as far as the request code looks into it. -/
def toJson : JsonValue → Json
  | .text s => .text s
  | .object entries => .object (toMapping entries)
  | .null => .other [] false
  | .bool b => .other [] b
  | .integer n => .other [] (JsonValue.integer n).truthy
  | .real value => .other [] (JsonValue.real value).truthy
  | .array items => .other [] (JsonValue.array items).truthy

/-- A dictionary as its `get`. -/
def toMapping : List (Text × JsonValue) → Mapping
  | [], _ => none
  | entry :: entries, key => if entry.1 = key then some (toJson entry.2) else toMapping entries key

end

section Mapping

variable {lower : Text → Text} {isAlnum : Char → Bool}

theorem toMapping_eq (d : Dict) (key : Text) : toMapping d key = (d.lookup key).map toJson := by
  induction d with
  | nil => simp [toMapping, Dict.lookup_nil]
  | cons entry d ih =>
    rw [toMapping, Dict.lookup_cons, ih]
    split <;> rfl

theorem toMapping_set (d : Dict) (key : Text) (value : JsonValue) :
    toMapping (d.set key value) = (toMapping d).set key (toJson value) := by
  funext k
  rw [toMapping_eq, Dict.lookup_set, Mapping.set, toMapping_eq]
  split <;> rfl

theorem lookup_append (d more : Dict) (key : Text) :
    Dict.lookup (d ++ more) key = (d.lookup key).or (Dict.lookup more key) := by
  induction d with
  | nil => simp [Dict.lookup_nil]
  | cons entry d ih =>
    rw [List.cons_append, Dict.lookup_cons, Dict.lookup_cons, ih]
    split <;> rfl

theorem lookup_filter {p : Text × JsonValue → Bool} {key : Text}
    (h : ∀ value, p (key, value) = true) (d : Dict) :
    Dict.lookup (d.filter p) key = d.lookup key := by
  induction d with
  | nil => rfl
  | cons entry d ih =>
    by_cases hkey : entry.1 = key
    · obtain rfl := hkey
      rw [List.filter_cons_of_pos (h entry.2), Dict.lookup_cons, Dict.lookup_cons, if_pos rfl,
        if_pos rfl]
    · rw [Dict.lookup_cons, if_neg hkey, ← ih, List.filter_cons]
      split
      · rw [Dict.lookup_cons, if_neg hkey]
      · rfl

theorem lookup_filter_none {p : Text × JsonValue → Bool} {key : Text}
    (h : ∀ value, p (key, value) = false) (d : Dict) : Dict.lookup (d.filter p) key = none := by
  induction d with
  | nil => rfl
  | cons entry d ih =>
    by_cases hp : p entry = true
    · have hkey : entry.1 ≠ key := by
        rintro rfl
        rw [h entry.2] at hp
        cases hp
      rw [List.filter_cons_of_pos hp, Dict.lookup_cons, if_neg hkey, ih]
    · rw [List.filter_cons_of_neg hp, ih]

theorem toMapping_setAuthoritativeHeader (headers : Dict) (name value : Text) :
    toMapping (setAuthoritativeHeader lower headers name value) =
      Zest.setAuthoritativeHeader lower (toMapping headers) name (.text value) := by
  funext key
  rw [toMapping_eq, setAuthoritativeHeader, lookup_append, Zest.setAuthoritativeHeader,
    toMapping_eq, Dict.lookup_cons, Dict.lookup_nil]
  by_cases hsame : lower key = lower name
  · rw [lookup_filter_none (by simp [hsame])]
    by_cases hkey : key = name
    · simp [hkey, toJson]
    · simp [hkey, Ne.symm hkey, hsame]
  · have hkey : key ≠ name := fun heq => hsame (heq ▸ rfl)
    rw [lookup_filter (by simp [hsame])]
    simp [hkey, Ne.symm hkey, hsame]

theorem existingHeaders_toJson (value : JsonValue) :
    existingHeaders (some (toJson value)) =
      (objectOr "worker request headers must be an object" value).map toMapping := by
  have hempty : toMapping [] = fun _ => none := by
    funext key
    simp [toMapping]
  have hother : ∀ b : Bool, existingHeaders (some (.other [] b)) =
      Except.map toMapping (if b = true then
        .error "worker request headers must be an object" else .ok []) := by
    intro b
    cases b with
    | false => simp [existingHeaders, Except.map, hempty]
    | true => simp [existingHeaders, Except.map]
  cases value with
  | object entries => simp [toJson, existingHeaders, objectOr, Except.map]
  | text s =>
    cases s with
    | nil => simp [toJson, existingHeaders, objectOr, Except.map, JsonValue.truthy, hempty]
    | cons c s => simp [toJson, existingHeaders, objectOr, Except.map, JsonValue.truthy]
  | null => exact hother false
  | bool b => exact hother b
  | integer n => exact hother _
  | real value => exact hother _
  | array items => exact hother _

theorem existingHeaders_toMapping (arguments : Dict) :
    existingHeaders (toMapping arguments "headers".toList) =
      (objectOr "worker request headers must be an object"
        (arguments.get "headers".toList)).map toMapping := by
  rw [toMapping_eq, Dict.get]
  cases arguments.lookup "headers".toList with
  | none => exact existingHeaders_toJson .null
  | some value => exact existingHeaders_toJson value

theorem toMapping_foldl (headers : List (Text × Text)) (existing : Dict) :
    toMapping (headers.foldl
        (fun headers header => setAuthoritativeHeader lower headers header.1 header.2) existing) =
      headers.foldl (fun headers header =>
        Zest.setAuthoritativeHeader lower headers header.1 (.text header.2))
        (toMapping existing) := by
  induction headers generalizing existing with
  | nil => rfl
  | cons header headers ih =>
    rw [List.foldl_cons, List.foldl_cons, ih, toMapping_setAuthoritativeHeader]

/-- The two builders agree on the headers, from the arguments on that they put
them into. -/
theorem headers_toMapping (base : Dict) (requiredUserAgent : Option Text)
    (requiredHeaders : Option RequiredHeaders) :
    (do
      let existing ← existingHeaders (toMapping base "headers".toList)
      let validated ← validateRequiredProgramHeaders lower isAlnum requiredHeaders
      let headers := validated.foldl (fun headers header =>
          Zest.setAuthoritativeHeader lower headers header.1 (.text header.2))
        (requiredUserAgent.elim existing fun value =>
          Zest.setAuthoritativeHeader lower existing "User-Agent".toList (.text value))
      if requiredUserAgent.isSome || requiredHeaders.any (·.truthy) then
        return (toMapping base).set "headers".toList (.object headers)
      else return toMapping base) =
    Except.map toMapping (do
      let existing ← objectOr "worker request headers must be an object"
        (base.get "headers".toList)
      let validated ← validateRequiredProgramHeaders lower isAlnum requiredHeaders
      let headers := (policyHeaders requiredUserAgent validated).foldl
        (fun headers header => setAuthoritativeHeader lower headers header.1 header.2) existing
      if requiredUserAgent.isSome || requiredHeaders.any (·.truthy) then
        return base.set "headers".toList (.object headers)
      else return base) := by
  rw [existingHeaders_toMapping]
  cases objectOr "worker request headers must be an object" (base.get "headers".toList) with
  | error message => rfl
  | ok existing =>
    cases validateRequiredProgramHeaders lower isAlnum requiredHeaders with
    | error message => rfl
    | ok validated =>
      have hfold : toMapping ((policyHeaders requiredUserAgent validated).foldl
          (fun headers header => setAuthoritativeHeader lower headers header.1 header.2)
            existing) =
          validated.foldl (fun headers header =>
            Zest.setAuthoritativeHeader lower headers header.1 (.text header.2))
            (requiredUserAgent.elim (toMapping existing) fun value =>
              Zest.setAuthoritativeHeader lower (toMapping existing) "User-Agent".toList
                (.text value)) := by
        rw [toMapping_foldl]
        cases requiredUserAgent with
        | none => rfl
        | some value => rfl
      simp only [Except.map, ok_bind]
      split
      · simp only [pure, Except.pure, toMapping_set, toJson, hfold]
      · rfl

/-- **The two builders agree**: what is put together as a dictionary reads as
what is put together as a mapping. -/
theorem workerArguments_toMapping (arguments : Dict) (identityId requiredUserAgent : Option Text)
    (requiredHeaders : Option RequiredHeaders) :
    workerArguments lower isAlnum (toMapping arguments) identityId
        (requiredUserAgent.map .text) requiredHeaders =
      (buildArguments lower isAlnum arguments identityId requiredUserAgent requiredHeaders).map
        toMapping := by
  have hset (identity : Text) :
      (toMapping arguments).set "identity_id".toList (.text identity) =
        toMapping (arguments.set "identity_id".toList (.text identity)) := by
    rw [toMapping_set, toJson]
  cases identityId with
  | none =>
    cases requiredUserAgent with
    | none => exact headers_toMapping arguments none requiredHeaders
    | some value => exact headers_toMapping arguments (some value) requiredHeaders
  | some identity =>
    simp only [workerArguments, hset]
    cases requiredUserAgent with
    | none => exact headers_toMapping _ none requiredHeaders
    | some value => exact headers_toMapping _ (some value) requiredHeaders

end Mapping

/-! ## The executor of the Worker -/

/-- What a `BLOCKED` answer is about, which its error says in words. -/
inductive Subject where
  | session
  | path
  | origin
  | method
  | headers
  | contentType
  | query
  | body
  deriving DecidableEq, Repr

/-- Why the executor makes no exchange. -/
inductive Refusal where
  | executionFailed (error : String)
  | blocked (subject : Subject) (error : String)
  | raised (exception : String)
  deriving DecidableEq, Repr

/-- A Worker request, as far as the executor reads it. -/
structure Request where
  action : Text
  arguments : Dict
  networkEnvelope : Option EnvelopeMapping
  resolvedSecretValues : Option (List (Text × Text))

/-- What is put on the wire. -/
structure Exchange where
  origin : Text
  method : Text
  requestPath : Text
  headers : List (Text × Text)
  body : Option (List UInt8)

/-- `ALLOWED_REQUEST_HEADERS`. -/
def allowedRequestHeaders : List Text :=
  ["user-agent".toList, "accept".toList, "accept-language".toList, "content-type".toList,
    "x-request-id".toList]

/-- `MAX_HEADER_COUNT`. -/
def maxHeaderCount : Nat := 8

/-- `MAX_HEADER_VALUE_LENGTH`. -/
def maxHeaderValueLength : Nat := 128

/-- `DEFAULT_MAX_RESPONSE_BYTES`, which bounds a body too. -/
def defaultMaxResponseBytes : Nat := 4096

section Executor

variable (L : UrlCodecs) (isAlnum : Char → Bool)

/-- The checks of the session, if the arguments name one. -/
def sessionCheck (request : Request) : Except Refusal (Option Text) :=
  match request.arguments.get "session_context_reference".toList with
  | .null => .ok none
  | .text ref =>
    if ref.strip = [] then .error (.blocked .session "session_context_reference is invalid")
    else
      match request.resolvedSecretValues.bind fun values =>
        (values.find? fun value => value.1 = "session_cookie".toList).map (·.2) with
      | none => .error (.blocked .session "session material is unavailable")
      | some cookie =>
        if hasControlMarker cookie ||
            (L.lower cookie.strip).startsWith "authorization:".toList ||
            (L.lower cookie.strip).startsWith "cookie:".toList then
          .error (.blocked .session "session material is invalid")
        else .ok (some cookie)
  | _ => .error (.blocked .session "session_context_reference is invalid")

/-- `_reject_path`. -/
def rejectPath (path : Text) : Except Refusal Unit :=
  match pathError L path with
  | some message => .error (.blocked .path message)
  | none => .ok ()

/-- `_reject_origin`. -/
def rejectOrigin (origin : Text) : Except Refusal Unit :=
  match urlsplit L origin with
  | none => .error (.raised "ValueError")
  | some parsed => do
    refuseIf (parsed.scheme ≠ "http".toList && parsed.scheme ≠ "https".toList)
      (.blocked .origin "scheme must be http or https")
    refuseIf (parsed.userinfo.1.any (· ≠ []) || parsed.userinfo.2.any (· ≠ []))
      (.blocked .origin "userinfo is not allowed")
    refuseIf (parsed.path ≠ [] && parsed.path ≠ ['/'])
      (.blocked .origin "authorized_origin must not include a path")
    refuseIf (queryAndFragment origin ≠ ([], []))
      (.blocked .origin "authorized_origin must not include query or fragment")

/-- The check of the method, stripped and in upper case. -/
def checkMethod (action method : Text) : Except Refusal Unit :=
  refuseIf (!((action = "read".toList && allowedReadMethods.contains method) ||
      (action = "mutate".toList && allowedMutateMethods.contains method)))
    (.blocked .method "method is not allowed for this action")

/-- The body of the loop of `_request_headers`. -/
def requestHeader (name : Text) : JsonValue → Except Refusal (Text × Text)
  | .text value => do
    refuseIf (hasControlMarker name || hasControlMarker value)
      (.blocked .headers "headers must not contain CRLF")
    refuseIf (maxHeaderNameLength < name.length || maxHeaderValueLength < value.length)
      (.blocked .headers "header exceeds bound")
    refuseIf (forbiddenRequestHeaders.contains (L.lower name))
      (.blocked .headers ("header " ++ String.ofList name ++ " is not allowed"))
    refuseIf (!allowedRequestHeaders.contains (L.lower name))
      (.blocked .headers ("header " ++ String.ofList name ++ " is not allowed"))
    refuseIf (!name.all fun c => isAlnum c || c == '-')
      (.blocked .headers "header name is invalid")
    return (name, value)
  | _ => .error (.blocked .headers "header names and values must be strings")

/-- The last assignment to a name is the one that counts. -/
def setHeader (headers : List (Text × Text)) (header : Text × Text) : List (Text × Text) :=
  KeyedList.upsert Prod.fst (fun _ new => new) headers header

/-- The headers with the content type that is asked for, if one is. -/
def withContentType (headers : List (Text × Text)) : JsonValue → Except Refusal (List (Text × Text))
  | .null => .ok headers
  | .text contentType => do
    refuseIf (hasControlMarker contentType) (.blocked .contentType "content_type is invalid")
    return setHeader headers ("Content-Type".toList, contentType)
  | _ => .error (.blocked .contentType "content_type is invalid")

/-- `_request_headers`. -/
def requestHeaders (arguments : Dict) : Except Refusal (List (Text × Text)) := do
  let headersIn ← objectOr (.blocked .headers "headers must be an object")
    (arguments.get "headers".toList)
  refuseIf (maxHeaderCount < headersIn.length) (.blocked .headers "header count exceeds bound")
  let given ← headersIn.mapM fun entry => requestHeader L isAlnum entry.1 entry.2
  let headers := given.foldl setHeader
    [("Accept".toList, "application/json".toList), ("Connection".toList, "close".toList)]
  withContentType headers (arguments.get "content_type".toList)

/-- One character of `quote_plus`. -/
def quoteOctet (b : UInt8) : Text :=
  let c := Char.ofNat b.toNat
  if isAsciiAlpha c || ('0' ≤ c && c ≤ '9') || "_.-~".toList.contains c then [c]
  else if c = ' ' then ['+']
  else
    let digit (n : Nat) := "0123456789ABCDEF".toList.getD n '0'
    ['%', digit (b.toNat / 16), digit (b.toNat % 16)]

/-- `quote_plus`. -/
def quotePlus (s : Text) : Text := (PercentEncoding.utf8 s).flatMap quoteOctet

/-- `urlencode`. -/
def urlencode (pairs : List (Text × Text)) : Text :=
  ['&'].intercalate (pairs.map fun pair => quotePlus pair.1 ++ ['='] ++ quotePlus pair.2)

/-- The order of two pairs of texts. -/
def pairLe (a b : Text × Text) : Prop := a.1 < b.1 ∨ (a.1 = b.1 ∧ a.2 ≤ b.2)

instance : DecidableRel pairLe := fun _ _ => inferInstanceAs (Decidable (_ ∨ _))

/-- The body of the loop of `_query_string`. -/
def queryPair (entry : Text × JsonValue) : Except Refusal (Text × Text) :=
  match entry.2 with
  | .text value => do
    refuseIf (hasControlMarker entry.1 || hasControlMarker value)
      (.blocked .query "query must not contain CRLF")
    return (entry.1, value)
  | _ => .error (.blocked .query "query keys and values must be strings")

/-- `_query_string`. -/
def queryString (query : JsonValue) : Except Refusal Text := do
  let entries ← objectOr (.blocked .query "query must be an object") query
  let pairs ← entries.mapM queryPair
  return urlencode (pairs.insertionSort pairLe)

/-- `_request_body`. -/
def requestBody (action : Text) : JsonValue → Except Refusal (Option (List UInt8))
  | .null => .ok none
  | value => do
    refuseIf (action = "read".toList)
      (.blocked .body "read action must not include a body")
    match value with
    | .text body => do
      refuseIf ((L.lower body.strip).startsWith "file:".toList)
        (.blocked .body "body must not be a filesystem source")
      refuseIf (defaultMaxResponseBytes < (PercentEncoding.utf8 body).length)
        (.blocked .body "body exceeds bound")
      return some (PercentEncoding.utf8 body)
    | _ => .error (.blocked .body "body must be a string")

/-- The check of `max_response_bytes`, whose default stands for what is false. -/
def responseBoundCheck : JsonValue → Except Refusal Unit
  | .integer n => refuseIf (n < 0) (.executionFailed "max_response_bytes is invalid")
  | .bool _ => .ok ()
  | value => refuseIf value.truthy (.executionFailed "max_response_bytes is invalid")

/-- The check of `timeout_ms`. -/
def timeoutCheck : JsonValue → Except Refusal Unit
  | .null => .ok ()
  | .integer n => refuseIf (n < 1) (.executionFailed "timeout_ms is invalid")
  | .bool b => refuseIf (!b) (.executionFailed "timeout_ms is invalid")
  | _ => .error (.executionFailed "timeout_ms is invalid")

/-- An argument that is a text and is not blank. -/
def textArgument (arguments : Dict) (key : String) : Option Text :=
  match arguments.get key.toList with
  | .text s => if s.strip = [] then none else some s
  | _ => none

/-- `execute_http_transaction`, up to the exchange; `upper` is `str.upper`. -/
def execute (upper : Text → Text) (request : Request) : Except Refusal Exchange :=
  match request.networkEnvelope.bind (parseEnvelope L) with
  | none => .error (.executionFailed "network_envelope is required")
  | some envelope => do
    let cookie ← sessionCheck L request
    match textArgument request.arguments "authorized_origin",
      textArgument request.arguments "method", textArgument request.arguments "path" with
    | some origin, some method, some path => do
      let origin := origin.strip.rstrip '/'
      let method := upper method.strip
      rejectPath L path
      rejectOrigin L origin
      checkMethod request.action method
      let headers ← requestHeaders L isAlnum request.arguments
      let headers := match cookie with
        | some cookie => setHeader headers ("Cookie".toList, cookie)
        | none => headers
      let query ← queryString (request.arguments.get "query".toList)
      let body ← requestBody L request.action (request.arguments.get "body".toList)
      responseBoundCheck (request.arguments.get "max_response_bytes".toList)
      timeoutCheck (request.arguments.get "timeout_ms".toList)
      let requestPath := if query = [] then path else path ++ ['?'] ++ query
      match envelopeAllows L envelope (origin ++ requestPath) with
      | some reason => .error (.executionFailed
          ("request is outside authorized network envelope: " ++ RawExchange.refusalText reason))
      | none => return ⟨origin, method, requestPath, headers, body⟩
    | _, _, _ => .error (.executionFailed "authorized_origin, method, and path are required")

end Executor
end Zest.HttpTransaction

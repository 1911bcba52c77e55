import Zest.BudgetLedger
import Zest.Fallible
import Zest.NetworkEnvelope

/-! # The request a Worker is handed

A request is put together from the stored plan and from what the program's
policy demands of every request: a user agent and some headers.  The policy's
headers replace the plan's, whatever the case of their names, and are checked
each time a request is built.

The builder is called from two places with different inputs.  What this module
says of it is what they may differ in: headers that were validated before are
built into the same request as the policy's own text of them
(`validateRequiredProgramHeaders_validated`), a user agent is kept as it comes.
-/
namespace Zest

/-- A JSON value of a plan or a policy, as far as the request code looks into
it: anything but a string and an object is only asked for its truth value. -/
inductive Json where
  | text (s : Text)
  | object (entries : Text → Option Json)
  | other (value : Text) (truthy : Bool)

/-- A `dict` with string keys, as its `get`: two of them are equal when they
hold the same under every key. -/
abbrev Mapping := Text → Option Json

/-- `mapping[key] = value`. -/
def Mapping.set (mapping : Mapping) (key : Text) (value : Json) : Mapping :=
  fun k => if k = key then some value else mapping k

@[simp] theorem Mapping.set_self (mapping : Mapping) (key : Text) (value : Json) :
    mapping.set key value key = some value := if_pos rfl

/-- The capabilities that the authorization code tells apart. -/
inductive Capability where
  | httpTransaction
  | httpAuthentication
  | browserPage
  | httpAuthorizationDifferential
  | httpStateTransition
  | httpRawExchange
  | other (capabilityId : Text)
  deriving DecidableEq, Repr

/-- `HTTP_SCOPE_CAPABILITIES`. -/
def httpScopeCapabilities : List Capability :=
  [.httpTransaction, .httpAuthentication, .browserPage, .httpAuthorizationDifferential,
    .httpStateTransition, .httpRawExchange]

/-- `ExperimentPlan`, less the texts about what it expects to see. -/
structure ExperimentPlan where
  hypothesisId : Text
  requiredCapability : Capability
  action : Text
  targetReference : Text
  sideEffectLevel : Nat
  arguments : Mapping
  requestedBudgetId : Text
  capabilityVersion : Option Text
  capabilityDefinitionFingerprint : Option Text

structure ExperimentRecord where
  experimentId : Text
  researchRunId : Text
  hypothesisId : Text
  budgetId : Text
  deriving DecidableEq, Repr

/-- `IssuedBudgetRecord` with its key. -/
structure IssuedBudgetRecord where
  budgetId : Text
  allowance : IssuedBudget
  deriving DecidableEq, Repr

/-- `CapabilityAuthorizationView`, the part that enters a request. -/
structure CapabilityAuthorizationView where
  capabilityVersion : Text
  definitionFingerprint : Text
  deriving DecidableEq, Repr

/-- The `required_headers` of an action policy: an object with its items in
order, or any other value but `None`. -/
inductive RequiredHeaders where
  | mapping (items : List (Text × Json))
  | other (truthy : Bool)

/-- `bool(required_headers)`. -/
def RequiredHeaders.truthy : RequiredHeaders → Bool
  | .mapping items => !items.isEmpty
  | .other truthy => truthy

/-- Headers as a mapping from names to texts. -/
def RequiredHeaders.ofTexts (headers : List (Text × Text)) : RequiredHeaders :=
  .mapping (headers.map fun header => (header.1, .text header.2))

/-! ## The policy's demands -/

/-- `_PROGRAM_HEADER_BLOCKLIST`. -/
def programHeaderBlocklist : List Text :=
  ["authorization".toList, "proxy-authorization".toList, "cookie".toList, "set-cookie".toList,
    "host".toList, "content-length".toList, "transfer-encoding".toList, "connection".toList,
    "upgrade".toList, "origin".toList, "referer".toList, "user-agent".toList,
    "forwarded".toList, "x-forwarded-for".toList, "x-forwarded-host".toList,
    "x-forwarded-proto".toList, "x-real-ip".toList]

/-- `_PROGRAM_HEADER_SENSITIVE_MARKERS`. -/
def programHeaderSensitiveMarkers : List Text :=
  ["api-key".toList, "apikey".toList, "password".toList, "secret".toList, "token".toList,
    "credential".toList]

/-- A carriage return, a line feed or a NUL is in the text. -/
def hasControlMarker (value : Text) : Bool :=
  value.contains '\r' || value.contains '\n' || value.contains '\x00'

section Headers

variable (lower : Text → Text) (isAlnum : Char → Bool)

/-- The condition under which a stripped header is refused; `seen` are the
lower-cased names before it. -/
def programHeaderInvalid (seen : List Text) (name value : Text) : Bool :=
  name.isEmpty || 64 < name.length || name.any (fun c => !(isAlnum c || c == '-')) ||
  programHeaderBlocklist.contains (lower name) ||
  programHeaderSensitiveMarkers.any (fun marker => (lower name).hasInfix marker) ||
  seen.contains (lower name) || value.isEmpty || 256 < value.length || hasControlMarker value

/-- The loop of `_validate_required_program_headers`. -/
def validateHeaderItems (seen : List Text) :
    List (Text × Json) → Except String (List (Text × Text))
  | [] => .ok []
  | (rawName, .text rawValue) :: items =>
    if programHeaderInvalid lower isAlnum seen rawName.strip rawValue.strip then
      .error "required_headers policy is invalid"
    else do
      let rest ← validateHeaderItems (lower rawName.strip :: seen) items
      return (rawName.strip, rawValue.strip) :: rest
  | (_, _) :: _ => .error "required_headers policy is invalid"

/-- `_validate_required_program_headers`. -/
def validateRequiredProgramHeaders :
    Option RequiredHeaders → Except String (List (Text × Text))
  | none => .ok []
  | some (.other _) => .error "required_headers policy is invalid"
  | some (.mapping items) =>
    if 8 < items.length then .error "required_headers policy exceeds limit"
    else validateHeaderItems lower isAlnum [] items

/-- The check of `_required_user_agent`, of the policy's value. -/
def validateRequiredUserAgent : Option Json → Except String (Option Text)
  | none => .ok none
  | some (.text value) =>
    if value.strip = [] ∨ hasControlMarker value ∨ 128 < value.length then
      .error "required_user_agent policy is invalid"
    else .ok (some value.strip)
  | some _ => .error "required_user_agent policy is invalid"

/-- `set_authoritative_header`: every spelling of the name is removed first. -/
def setAuthoritativeHeader (headers : Mapping) (name : Text) (value : Json) : Mapping :=
  fun key =>
    if key = name then some value
    else if lower key = lower name then none
    else headers key

/-- `arguments.get("headers") or {}`, if it is an object. -/
def existingHeaders : Option Json → Except String Mapping
  | none | some (.text []) | some (.other _ false) => .ok fun _ => none
  | some (.object headers) => .ok headers
  | some _ => .error "worker request headers must be an object"

/-- The `arguments` that `_build_worker_request` puts into the request. -/
def workerArguments (arguments : Mapping) (identityId : Option Text)
    (requiredUserAgent : Option Json) (requiredHeaders : Option RequiredHeaders) :
    Except String Mapping := do
  let arguments :=
    match identityId with
    | some identity => arguments.set "identity_id".toList (.text identity)
    | none => arguments
  let existing ← existingHeaders (arguments "headers".toList)
  let headers :=
    match requiredUserAgent with
    | some value => setAuthoritativeHeader lower existing "User-Agent".toList value
    | none => existing
  let validated ← validateRequiredProgramHeaders lower isAlnum requiredHeaders
  let headers := validated.foldl
    (fun headers header => setAuthoritativeHeader lower headers header.1 (.text header.2)) headers
  if requiredUserAgent.isSome || requiredHeaders.any (·.truthy) then
    return arguments.set "headers".toList (.object headers)
  else return arguments

/-! ## The request -/

structure Correlation where
  correlationId : Text
  researchRunId : Text
  experimentId : Text
  requestId : Text
  deriving DecidableEq, Repr

/-- A Worker request; a key that is left out of the document is `none`. -/
structure WorkerRequest where
  contractVersion : Text
  correlation : Correlation
  workerCapability : Capability
  action : Text
  targetReference : Text
  authorizationDecisionReference : Text
  executionBudget : IssuedBudgetRecord
  sideEffectLevel : Nat
  capabilityVersion : Text
  capabilityDefinitionFingerprint : Text
  secretReferences : List Text
  arguments : Mapping
  networkEnvelope : Option EnvelopeMapping
  resolvedSecretValues : Option (List (Text × Text))
  maxAttemptedRequests : Option Nat

/-- The identities that a request carries. -/
structure RequestIdentity where
  requestId : Text
  correlationId : Text
  authorizationDecisionReference : Text
  deriving DecidableEq, Repr

/-- `_build_worker_request`. -/
def buildWorkerRequest (experiment : ExperimentRecord) (plan : ExperimentPlan)
    (capabilityView : CapabilityAuthorizationView) (issued : IssuedBudgetRecord)
    (identity : RequestIdentity) (networkEnvelope : Option AuthorizedNetworkEnvelope)
    (identityId : Option Text) (requiredUserAgent : Option Json)
    (requiredHeaders : Option RequiredHeaders) : Except String WorkerRequest := do
  let arguments ← workerArguments lower isAlnum plan.arguments identityId requiredUserAgent
    requiredHeaders
  return {
    contractVersion := "v1".toList
    correlation := {
      correlationId := identity.correlationId
      researchRunId := experiment.researchRunId
      experimentId := experiment.experimentId
      requestId := identity.requestId }
    workerCapability := plan.requiredCapability
    action := plan.action
    targetReference := plan.targetReference
    authorizationDecisionReference := identity.authorizationDecisionReference
    executionBudget := issued
    sideEffectLevel := plan.sideEffectLevel
    capabilityVersion := capabilityView.capabilityVersion
    capabilityDefinitionFingerprint := capabilityView.definitionFingerprint
    secretReferences := []
    arguments := arguments
    networkEnvelope := networkEnvelope.map (·.toMapping)
    resolvedSecretValues := none
    maxAttemptedRequests := none }

/-- `_request_with_resolved_secrets`; an empty mapping of secrets counts as
none. -/
def WorkerRequest.withResolvedSecrets (request : WorkerRequest)
    (values : Option (List (Text × Text))) (maxAttemptedRequests : Option Nat) : WorkerRequest :=
  { request with
    resolvedSecretValues :=
      match values with
      | some (value :: rest) => some (value :: rest)
      | _ => request.resolvedSecretValues
    maxAttemptedRequests :=
      match maxAttemptedRequests with
      | some amount => some amount
      | none => request.maxAttemptedRequests }

/-! ## What validation keeps -/

end Headers

section Validation

variable {lower : Text → Text} {isAlnum : Char → Bool}

theorem validateHeaderItems_ofTexts {seen : List Text} {items : List (Text × Json)}
    {headers : List (Text × Text)}
    (h : validateHeaderItems lower isAlnum seen items = .ok headers) :
    validateHeaderItems lower isAlnum seen
        (headers.map fun header => (header.1, .text header.2)) = .ok headers ∧
      headers.length = items.length ∧
      ∀ header ∈ headers, lower header.1 ∉ programHeaderBlocklist := by
  induction items generalizing seen headers with
  | nil =>
    obtain rfl : [] = headers := Except.ok.inj h
    exact ⟨rfl, rfl, by simp⟩
  | cons item items ih =>
    obtain ⟨rawName, rawValue⟩ := item
    cases rawValue with
    | object entries => cases h
    | other value truthy => cases h
    | text rawValue =>
      simp only [validateHeaderItems] at h
      split at h
      · cases h
      next hvalid =>
      obtain ⟨rest, hrest, hheaders⟩ := bind_eq_ok h
      obtain rfl := Except.ok.inj hheaders
      obtain ⟨hagain, hlength, hblock⟩ := ih hrest
      refine ⟨?_, by simp [hlength], ?_⟩
      · simp only [List.map_cons, validateHeaderItems, Text.strip_strip]
        rw [if_neg hvalid, hagain]
        rfl
      · intro header hmem
        rcases List.mem_cons.1 hmem with rfl | hmem
        · simp only [programHeaderInvalid, Bool.or_eq_true, not_or] at hvalid
          simpa using hvalid.1.1.1.1.1.2
        · exact hblock header hmem

/-- A header is refused for a name before it, or for itself. -/
theorem programHeaderInvalid_seen (seen : List Text) (name value : Text) :
    programHeaderInvalid lower isAlnum seen name value =
      (seen.contains (lower name) || programHeaderInvalid lower isAlnum [] name value) := by
  simp only [programHeaderInvalid, List.contains_nil, Bool.or_false]
  ac_rfl

/-- What validation has seen of the headers that it lets through: no two of them
have one name, and none is invalid for itself. -/
theorem validateHeaderItems_valid {seen : List Text} {items : List (Text × Json)}
    {headers : List (Text × Text)}
    (h : validateHeaderItems lower isAlnum seen items = .ok headers) :
    headers.Pairwise (fun a b => lower a.1 ≠ lower b.1) ∧
      ∀ header ∈ headers, lower header.1 ∉ seen ∧
        programHeaderInvalid lower isAlnum [] header.1 header.2 = false := by
  induction items generalizing seen headers with
  | nil =>
    obtain rfl : [] = headers := Except.ok.inj h
    exact ⟨.nil, by simp⟩
  | cons item items ih =>
    obtain ⟨rawName, rawValue⟩ := item
    cases rawValue with
    | object entries => cases h
    | other value truthy => cases h
    | text rawValue =>
      simp only [validateHeaderItems] at h
      split at h
      · cases h
      next hvalid =>
      obtain ⟨rest, hrest, hheaders⟩ := bind_eq_ok h
      obtain rfl := Except.ok.inj hheaders
      obtain ⟨hdistinct, hall⟩ := ih hrest
      refine ⟨List.pairwise_cons.mpr ⟨fun header hmem heq => ?_, hdistinct⟩, ?_⟩
      · exact (hall header hmem).1 (heq ▸ List.mem_cons_self)
      · intro header hmem
        rcases List.mem_cons.mp hmem with rfl | hmem
        · rw [programHeaderInvalid_seen, Bool.or_eq_true, not_or] at hvalid
          exact ⟨by simpa using hvalid.1, by simpa using hvalid.2⟩
        · exact ⟨fun hseen => (hall header hmem).1 (List.mem_cons_of_mem _ hseen),
            (hall header hmem).2⟩

theorem validateRequiredProgramHeaders_valid {raw : Option RequiredHeaders}
    {headers : List (Text × Text)}
    (h : validateRequiredProgramHeaders lower isAlnum raw = .ok headers) :
    headers.Pairwise (fun a b => lower a.1 ≠ lower b.1) ∧
      ∀ header ∈ headers, programHeaderInvalid lower isAlnum [] header.1 header.2 = false := by
  match raw with
  | none =>
    obtain rfl : [] = headers := Except.ok.inj h
    exact ⟨.nil, by simp⟩
  | some (.other _) => cases h
  | some (.mapping items) =>
    simp only [validateRequiredProgramHeaders] at h
    split at h
    · cases h
    obtain ⟨hdistinct, hall⟩ := validateHeaderItems_valid h
    exact ⟨hdistinct, fun header hmem => (hall header hmem).2⟩

/-- **Validating twice is validating once.** -/
theorem validateRequiredProgramHeaders_validated {raw : Option RequiredHeaders}
    {headers : List (Text × Text)}
    (h : validateRequiredProgramHeaders lower isAlnum raw = .ok headers) :
    validateRequiredProgramHeaders lower isAlnum (some (.ofTexts headers)) = .ok headers := by
  match raw with
  | none =>
    obtain rfl : [] = headers := Except.ok.inj h
    rfl
  | some (.other _) => cases h
  | some (.mapping items) =>
    simp only [validateRequiredProgramHeaders] at h
    split at h
    · cases h
    next hlimit =>
    obtain ⟨hagain, hlength, -⟩ := validateHeaderItems_ofTexts h
    simp only [RequiredHeaders.ofTexts, validateRequiredProgramHeaders, List.length_map]
    rw [if_neg (by omega), hagain]

/-- Validated headers demand something exactly when the policy does. -/
theorem truthy_ofTexts {raw : Option RequiredHeaders} {headers : List (Text × Text)}
    (h : validateRequiredProgramHeaders lower isAlnum raw = .ok headers) :
    (RequiredHeaders.ofTexts headers).truthy = raw.any (·.truthy) := by
  match raw with
  | none =>
    obtain rfl : [] = headers := Except.ok.inj h
    rfl
  | some (.other _) => cases h
  | some (.mapping items) =>
    simp only [validateRequiredProgramHeaders] at h
    split at h
    · cases h
    obtain ⟨-, hlength, -⟩ := validateHeaderItems_ofTexts h
    cases headers <;> cases items <;> simp_all [RequiredHeaders.ofTexts, RequiredHeaders.truthy]

theorem blocked_of_validated {raw : Option RequiredHeaders} {headers : List (Text × Text)}
    (h : validateRequiredProgramHeaders lower isAlnum raw = .ok headers) :
    ∀ header ∈ headers, lower header.1 ∉ programHeaderBlocklist := by
  match raw with
  | none =>
    obtain rfl : [] = headers := Except.ok.inj h
    simp
  | some (.other _) => cases h
  | some (.mapping items) =>
    simp only [validateRequiredProgramHeaders] at h
    split at h
    · cases h
    exact (validateHeaderItems_ofTexts h).2.2

/-- Headers of other names leave a header alone. -/
theorem foldl_setAuthoritativeHeader {headers : List (Text × Text)} {key : Text}
    (hne : ∀ header ∈ headers, lower key ≠ lower header.1) (existing : Mapping) :
    headers.foldl (fun headers header =>
      setAuthoritativeHeader lower headers header.1 (.text header.2)) existing key =
      existing key := by
  induction headers generalizing existing with
  | nil => rfl
  | cons header headers ih =>
    rw [List.foldl_cons, ih fun other hmem => hne other (List.mem_cons_of_mem _ hmem)]
    have hlower := hne header List.mem_cons_self
    have hkey : key ≠ header.1 := fun heq => hlower (heq ▸ rfl)
    simp [setAuthoritativeHeader, hkey, hlower]

/-- The arguments of a request do not tell validated headers from the policy's
own text of them. -/
theorem workerArguments_ofTexts {raw : Option RequiredHeaders} {headers : List (Text × Text)}
    (h : validateRequiredProgramHeaders lower isAlnum raw = .ok headers) (arguments : Mapping)
    (identityId : Option Text) (userAgent : Option Json) :
    workerArguments lower isAlnum arguments identityId userAgent (some (.ofTexts headers)) =
      workerArguments lower isAlnum arguments identityId userAgent raw := by
  have hagain := validateRequiredProgramHeaders_validated h
  have htruthy := truthy_ofTexts h
  simp only [workerArguments, hagain, h, Option.any_some, htruthy]

/-- What the user agent of a request is: the value that the builder was given. -/
theorem workerArguments_userAgent (hlower : lower "User-Agent".toList = "user-agent".toList)
    {arguments built : Mapping} {identityId : Option Text} {value : Json}
    {raw : Option RequiredHeaders}
    (h : workerArguments lower isAlnum arguments identityId (some value) raw = .ok built) :
    ∃ headers : Mapping, built "headers".toList = some (.object headers) ∧
      headers "User-Agent".toList = some value := by
  unfold workerArguments at h
  obtain ⟨existing, -, h⟩ := bind_eq_ok h
  obtain ⟨validated, hvalidated, h⟩ := bind_eq_ok h
  obtain rfl := Except.ok.inj h
  refine ⟨_, Mapping.set_self _ _ _, ?_⟩
  have hne : ∀ header ∈ validated, lower "User-Agent".toList ≠ lower header.1 := by
    intro header hmem heq
    apply blocked_of_validated hvalidated header hmem
    rw [← heq, hlower]
    decide
  rw [foldl_setAuthoritativeHeader hne]
  simp [setAuthoritativeHeader]

end Validation
end Zest

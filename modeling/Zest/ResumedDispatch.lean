import Zest.ExecutionAttempts
import Zest.WorkerRequest

/-! # A dispatch resumed after a crash

`authorize` decides about a plan, builds the request from that decision and
commits the attempt; the request itself is not stored.  When the process dies
before the dispatch, `_resume_authorized` builds a request again from the rows
that are left: the attempt, the plan, the budget and the policy.

The identities, the capability and the policy's headers come out the same.  The
envelope, the session and its secrets were decided in memory and are gone, and
the user agent is read without the check that strips it.
`resumed_dispatch_iff` says for which attempts nothing of this shows.
-/
namespace Zest

inductive ExecutionDecisionKind where
  | allow
  | deny
  | requireHumanReview
  deriving DecidableEq, Repr

/-! ## The rows -/

/-- A table with its primary key: what is found under a key has that key. -/
structure Table (α : Type) (key : α → Text) where
  get : Text → Option α
  get_key : ∀ {id : Text} {row : α}, get id = some row → key row = id

/-- `ExecutionAttemptRecord`, less its times. -/
structure ExecutionAttemptRecord where
  attemptId : Text
  requestId : Text
  experimentId : Text
  researchRunId : Text
  correlationId : Text
  workerCapability : Capability
  action : Text
  targetReference : Text
  budgetId : Text
  sideEffectLevel : Nat
  authorizationDecisionReference : Text
  state : ExecutionAttemptState
  deriving DecidableEq, Repr

/-- The part of an `action_policy` that requests are built from; `None` and a
missing key are both `none`. -/
structure ActionPolicy where
  requiredUserAgent : Option Json
  requiredHeaders : Option RequiredHeaders

/-- The rows that authorization and resumption read. -/
structure StoredRows where
  experiments : Table ExperimentRecord (·.experimentId)
  executionState : Text → ExperimentExecutionState
  hypotheses : Text → Bool
  experimentPlans : Text → Option ExperimentPlan
  issuedBudgets : Table IssuedBudgetRecord (·.budgetId)
  /-- The program of a run. -/
  researchRuns : Text → Option Text
  programPolicies : Text → Option ActionPolicy
  executionAttempts : List ExecutionAttemptRecord

/-- The policy under which a run executes. -/
def StoredRows.policyOf (rows : StoredRows) (researchRunId : Text) : Option ActionPolicy :=
  (rows.researchRuns researchRunId).bind rows.programPolicies

/-! ## What authorization asks others -/

/-- `SessionBindingDecision`; of the session only its identity is read. -/
structure SessionBindingDecision where
  accepted : Bool
  inputRejected : Bool
  sessionIdentityId : Option Text
  resolvedSecrets : Option (List (Text × Text))
  deriving DecidableEq, Repr

/-- The answers that one call of `authorize` gets from the parts of Core, the
registry and the secret store; any answers at all. -/
structure AuthorizationServices where
  codecs : UrlCodecs
  /-- `str.isalnum` of one character. -/
  isAlnum : Char → Bool
  /-- `str(value)`. -/
  str : Json → Text
  /-- `capability_view_for_plan`; `none` is its `CapabilityBindingError`. -/
  capabilityViewForPlan : ExperimentPlan → Option CapabilityAuthorizationView
  /-- The issue that the capability's argument check reports, if any, and
  whether it rejects the input. -/
  argumentIssue : ExperimentPlan → Option Bool
  plansEquivalent : ExperimentPlan → ExperimentPlan → Bool
  rateLimitAllows : Bool
  evaluateExecution : ExperimentPlan → Option ScopeCheck → ExecutionDecisionKind
  bindLogin : ExperimentPlan → SessionBindingDecision
  bindExistingSession : ExperimentPlan → SessionBindingDecision
  /-- `validate_worker_request` passes. -/
  validWorkerRequest : WorkerRequest → Bool

/-- `ProgramPolicyView`, the field that bounds the network. -/
structure ProgramPolicyView where
  loopbackFixture : Bool
  deriving DecidableEq, Repr

structure ExecutePlannedExperimentCommand where
  experimentId : Text
  plan : ExperimentPlan
  compiledScope : Option CompiledScope
  programPolicy : Option ProgramPolicyView

/-- Why `authorize` commits no attempt: the status of its outcome, or what it
raises. -/
inductive NotAuthorized where
  | outcome (status : ResearchLoopStatus)
  | raised (message : String)
  | invalidOrigin
  | contractInvalid
  deriving DecidableEq, Repr

section Authorize

variable (services : AuthorizationServices)

/-! ## The scope decision -/

/-- `HttpTransactionScopeDecision`. -/
structure HttpTransactionScopeDecision where
  accepted : Bool
  inputRejected : Bool
  scopeCheck : Option ScopeCheck
  envelope : Option AuthorizedNetworkEnvelope
  deriving DecidableEq, Repr

/-- `derive_loopback_only`. -/
def deriveLoopbackOnly (programPolicy : Option ProgramPolicyView) (compiled : CompiledScope) :
    Bool :=
  match programPolicy with
  | none => true
  | some policy => policy.loopbackFixture || compiled.rules.isEmpty

/-- `_request_url`; `none` is the `ValueError` of `urlsplit`. -/
def requestUrl (origin path : Text) : Option Text :=
  match urlsplit services.codecs origin with
  | none => none
  | some parsed =>
    if parsed.path ≠ [] ∧ parsed.path ≠ ['/'] then
      if path.startsWith ['/'] then some (origin ++ path) else some (origin ++ '/' :: path)
    else some (origin ++ path)

/-- `_authorize_origin_path`. -/
def authorizeOriginPath (plan : ExperimentPlan) (compiledScope : Option CompiledScope)
    (programPolicy : Option ProgramPolicyView) (now : Instant) :
    Except NotAuthorized HttpTransactionScopeDecision :=
  match compiledScope with
  | none => .ok ⟨false, false, none, none⟩
  | some compiled =>
    match plan.arguments "authorized_origin".toList with
    | none => .error (.raised "'authorized_origin'")
    | some origin =>
      let path := ((plan.arguments "path".toList).map services.str).getD ['/']
      match requestUrl services ((services.str origin).strip.rstrip '/') path with
      | none => .error .invalidOrigin
      | some url =>
        let candidate := normalizeUrl services.codecs url
        let check := evaluateScopeCandidate candidate compiled now
        if check.decision = .allow then
          match deriveAuthorizedNetworkEnvelope candidate compiled check
              (deriveLoopbackOnly programPolicy compiled) none with
          | .error message => .error (.raised message)
          | .ok envelope => .ok ⟨true, false, some check, envelope⟩
        else .ok ⟨false, false, some check, none⟩

/-- `authorize_http_transaction_plan`.  The differential and the state
transition have no argument check of their own. -/
def authorizeHttpTransactionPlan (plan : ExperimentPlan) (compiledScope : Option CompiledScope)
    (programPolicy : Option ProgramPolicyView) (now : Instant) :
    Except NotAuthorized HttpTransactionScopeDecision :=
  match plan.requiredCapability with
  | .other _ => .ok ⟨true, false, none, none⟩
  | .httpAuthorizationDifferential | .httpStateTransition =>
    authorizeOriginPath services plan compiledScope programPolicy now
  | .httpTransaction | .httpAuthentication | .browserPage | .httpRawExchange =>
    match services.argumentIssue plan with
    | some rejected => .ok ⟨false, rejected, none, none⟩
    | none => authorizeOriginPath services plan compiledScope programPolicy now

/-- `bind_identity_session`. -/
def bindIdentitySession (plan : ExperimentPlan) : SessionBindingDecision :=
  match plan.requiredCapability with
  | .httpAuthentication => services.bindLogin plan
  | .httpTransaction | .browserPage =>
    if (plan.arguments "session_context_reference".toList).isNone then ⟨true, false, none, none⟩
    else services.bindExistingSession plan
  | _ => ⟨true, false, none, none⟩

/-- The decision that `authorize` acts on: Core's, overruled by the scope of the
destination and by the session. -/
def finalDecision (plan : ExperimentPlan) (http : HttpTransactionScopeDecision) :
    ExecutionDecisionKind :=
  let decision :=
    if plan.requiredCapability ∈ httpScopeCapabilities ∧ !http.accepted then .deny
    else services.evaluateExecution plan http.scopeCheck
  if decision = .allow ∧ !(bindIdentitySession services plan).accepted then .deny else decision

/-! ## Authorizing -/

/-- `_required_user_agent`. -/
def requiredUserAgent (rows : StoredRows) (researchRunId : Text) :
    Except String (Option Text) :=
  match rows.researchRuns researchRunId with
  | none => .error "research run not found while resolving execution policy"
  | some program =>
    validateRequiredUserAgent ((rows.programPolicies program).bind (·.requiredUserAgent))

/-- `_required_program_headers`. -/
def requiredProgramHeaders (rows : StoredRows) (researchRunId : Text) :
    Except String (List (Text × Text)) :=
  match rows.researchRuns researchRunId with
  | none => .error "research run not found while resolving execution policy"
  | some program =>
    validateRequiredProgramHeaders services.codecs.lower services.isAlnum
      ((rows.programPolicies program).bind (·.requiredHeaders))

/-- The request as `authorize` builds it inside its transaction. -/
def authorizedRequest (rows : StoredRows) (experiment : ExperimentRecord) (plan : ExperimentPlan)
    (capabilityView : CapabilityAuthorizationView) (issued : IssuedBudgetRecord)
    (identity : RequestIdentity) (http : HttpTransactionScopeDecision) :
    Except String WorkerRequest := do
  let userAgent ← requiredUserAgent rows experiment.researchRunId
  let headers ← requiredProgramHeaders services rows experiment.researchRunId
  buildWorkerRequest services.codecs.lower services.isAlnum experiment plan capabilityView issued
    identity http.envelope
    (if plan.requiredCapability = .browserPage then
      (bindIdentitySession services plan).sessionIdentityId
    else none)
    (userAgent.map .text) (some (.ofTexts headers))

/-- `_load_context`. -/
def loadContext (rows : StoredRows) (command : ExecutePlannedExperimentCommand) :
    Except NotAuthorized (ExperimentRecord × IssuedBudgetRecord) :=
  match rows.experiments.get command.experimentId with
  | none => .error (.outcome .inputRejected)
  | some experiment =>
    if (rows.executionState experiment.experimentId).terminal then
      .error (.outcome .alreadyTerminal)
    else if experiment.hypothesisId ≠ command.plan.hypothesisId then
      .error (.outcome .inputRejected)
    else if experiment.budgetId ≠ command.plan.requestedBudgetId then
      .error (.outcome .inputRejected)
    else if !rows.hypotheses experiment.hypothesisId then .error (.outcome .inputRejected)
    else if (rows.researchRuns experiment.researchRunId).isNone then
      .error (.outcome .inputRejected)
    else match rows.issuedBudgets.get experiment.budgetId with
      | none => .error (.outcome .inputRejected)
      | some issued => .ok (experiment, issued)

/-- `not value` of an optional text. -/
def absent (value : Option Text) : Bool := value.all (·.isEmpty)

/-- `_ensure_plan`: the plan that is stored, and the rows it is stored in. -/
def ensurePlan (rows : StoredRows) (experiment : ExperimentRecord) (plan : ExperimentPlan) :
    Except NotAuthorized (ExperimentPlan × StoredRows) :=
  match rows.experimentPlans experiment.experimentId with
  | none =>
    if absent plan.capabilityVersion || absent plan.capabilityDefinitionFingerprint then
      .error (.outcome .inputRejected)
    else .ok (plan, { rows with
      experimentPlans := fun id =>
        if id = experiment.experimentId then some plan else rows.experimentPlans id })
  | some stored =>
    if services.plansEquivalent stored plan then .ok (stored, rows)
    else .error (.outcome .inputRejected)

/-- `AuthorizedDispatch`, less what only the reported outcome repeats. -/
structure AuthorizedDispatch where
  experimentId : Text
  hypothesisId : Text
  attemptId : Text
  identity : RequestIdentity
  workerRequest : WorkerRequest
  timeoutMs : Nat
  resolvedSecretValues : Option (List (Text × Text))

/-- The request that `dispatch` hands to the Worker.  Only the page capability
is told how many requests were reserved. -/
def AuthorizedDispatch.handed (dispatch : AuthorizedDispatch) (capability : Capability)
    (reservedRequests : Nat) : WorkerRequest :=
  dispatch.workerRequest.withResolvedSecrets dispatch.resolvedSecretValues
    (if capability = .browserPage then some reservedRequests else none)

/-- What a call of `authorize` leaves: the committed rows, the attempt among
them, and the dispatch it returns. -/
structure Authorized where
  rows : StoredRows
  attempt : ExecutionAttemptRecord
  dispatch : AuthorizedDispatch

/-- `execution_decision_audit_id`. -/
def executionDecisionAuditId (requestId : Text) : Text := "ae:exec:".toList ++ requestId

/-- `attempt_id_for`. -/
def attemptIdFor (requestId : Text) : Text := "ea:".toList ++ requestId

/-- The attempt that `authorize` inserts. -/
def authorizedAttempt (experiment : ExperimentRecord) (plan : ExperimentPlan)
    (issued : IssuedBudgetRecord) (identity : RequestIdentity) : ExecutionAttemptRecord :=
  { attemptId := attemptIdFor identity.requestId
    requestId := identity.requestId
    experimentId := experiment.experimentId
    researchRunId := experiment.researchRunId
    correlationId := identity.correlationId
    workerCapability := plan.requiredCapability
    action := plan.action
    targetReference := plan.targetReference
    budgetId := issued.budgetId
    sideEffectLevel := plan.sideEffectLevel
    authorizationDecisionReference := identity.authorizationDecisionReference
    state := .authorized }

/-- The envelope with the reference of the decision in it. -/
def referencedEnvelope (http : HttpTransactionScopeDecision) (identity : RequestIdentity) :
    Option EnvelopeMapping :=
  http.envelope.map fun envelope =>
    { envelope with
      authorizationDecisionReference :=
        some identity.authorizationDecisionReference : AuthorizedNetworkEnvelope }.toMapping

/-- `authorize`, up to its commit and the dispatch it returns. -/
def authorize (rows : StoredRows) (command : ExecutePlannedExperimentCommand)
    (requestId correlationId : Text) (now : Instant) : Except NotAuthorized Authorized :=
  let identity : RequestIdentity :=
    { requestId := requestId, correlationId := correlationId,
      authorizationDecisionReference := executionDecisionAuditId requestId }
  match loadContext rows command with
  | .error stop => .error stop
  | .ok (experiment, issued) =>
  match ensurePlan services rows experiment command.plan with
  | .error stop => .error stop
  | .ok (plan, rows) =>
  match rows.executionAttempts.find? (·.experimentId = experiment.experimentId) with
  | some attempt => .error (.outcome (outcomeForExisting attempt.state))
  | none =>
  match services.capabilityViewForPlan plan with
  | none => .error (.outcome .dispatchDenied)
  | some capabilityView =>
  match authorizeHttpTransactionPlan services plan command.compiledScope command.programPolicy
      now with
  | .error stop => .error stop
  | .ok http =>
  if http.inputRejected then .error (.outcome .inputRejected)
  else if !services.rateLimitAllows then .error (.outcome .dispatchDenied)
  else if (bindIdentitySession services plan).inputRejected then
    .error (.outcome .inputRejected)
  else match finalDecision services plan http with
  | .deny => .error (.outcome .dispatchDenied)
  | .requireHumanReview => .error (.outcome .humanReviewRequired)
  | .allow =>
  match authorizedRequest services rows experiment plan capabilityView issued identity http with
  | .error message => .error (.raised message)
  | .ok request =>
  if !services.validWorkerRequest request then .error .contractInvalid
  else
    let attempt := authorizedAttempt experiment plan issued identity
    .ok {
      rows := { rows with
        executionState := fun id =>
          if id = experiment.experimentId then .ready else rows.executionState id
        executionAttempts := rows.executionAttempts ++ [attempt] }
      attempt := attempt
      dispatch := {
        experimentId := experiment.experimentId
        hypothesisId := experiment.hypothesisId
        attemptId := attempt.attemptId
        identity := identity
        workerRequest := { request with networkEnvelope := referencedEnvelope http identity }
        timeoutMs := issued.allowance.maxRuntimeMs
        resolvedSecretValues := (bindIdentitySession services plan).resolvedSecrets } }

/-! ## Resuming -/

/-- How `_resume_authorized` ends without a dispatch. -/
inductive ResumeStop where
  | resumeMissing
  | capabilityBinding
  | raised (message : String)
  deriving DecidableEq, Repr

/-- `_resume_authorized`, of the attempt it has picked, up to the dispatch. -/
def resumeAuthorized (rows : StoredRows) (attempt : ExecutionAttemptRecord) :
    Except ResumeStop AuthorizedDispatch :=
  let identity : RequestIdentity :=
    { requestId := attempt.requestId, correlationId := attempt.correlationId,
      authorizationDecisionReference := attempt.authorizationDecisionReference }
  let policy := rows.policyOf attempt.researchRunId
  match rows.experiments.get attempt.experimentId, rows.experimentPlans attempt.experimentId,
      rows.issuedBudgets.get attempt.budgetId with
  | some experiment, some plan, some issued =>
    match services.capabilityViewForPlan plan with
    | none => .error .capabilityBinding
    | some capabilityView =>
      match buildWorkerRequest services.codecs.lower services.isAlnum experiment plan
          capabilityView issued identity none none (policy.bind (·.requiredUserAgent))
          (policy.bind (·.requiredHeaders)) with
      | .error message => .error (.raised message)
      | .ok request => .ok {
          experimentId := experiment.experimentId
          hypothesisId := experiment.hypothesisId
          attemptId := attempt.attemptId
          identity := identity
          workerRequest := request
          timeoutMs := issued.allowance.maxRuntimeMs
          resolvedSecretValues := none }
  | _, _, _ => .error .resumeMissing

end Authorize

/-! ## What authorization commits -/

variable {services : AuthorizationServices}

theorem evaluateScopeCandidate_accepts {candidate : ScopeCandidate} {compiled : CompiledScope}
    {now : Instant} (h : (evaluateScopeCandidate candidate compiled now).decision = .allow) :
    candidate.normalizationError = none := by
  unfold evaluateScopeCandidate at h
  split at h
  case h_5 hnone => exact hnone
  all_goals cases h

/-- An allowed destination comes with an envelope. -/
theorem authorizeOriginPath_envelope {plan : ExperimentPlan} {scope : Option CompiledScope}
    {policy : Option ProgramPolicyView} {now : Instant} {http : HttpTransactionScopeDecision}
    (h : authorizeOriginPath services plan scope policy now = .ok http)
    (haccept : http.accepted = true) : http.envelope.isSome = true := by
  unfold authorizeOriginPath at h
  split at h
  · obtain rfl := Except.ok.inj h
    cases haccept
  next compiled =>
  split at h
  · cases h
  simp only at h
  split at h
  · cases h
  next url _ =>
  split at h
  next hallow =>
    obtain ⟨scheme, host, port, path, hc, -⟩ :=
      normalizeUrl_accepted _ (evaluateScopeCandidate_accepts hallow)
    split at h
    · cases h
    next envelope henv =>
      obtain rfl := Except.ok.inj h
      -- every part of an accepted candidate is there, so the derivation gives one
      unfold deriveAuthorizedNetworkEnvelope at henv
      rw [if_neg (by simp [hallow]), hc.scheme_eq, hc.host_eq, hc.port_eq, hc.path_eq] at henv
      simp only at henv
      cases hpost : AuthorizedNetworkEnvelope.postInit _ with
      | error message => rw [hpost] at henv; cases henv
      | ok checked => rw [hpost] at henv; obtain rfl := Except.ok.inj henv; rfl
  next =>
    obtain rfl := Except.ok.inj h
    cases haccept

theorem mem_httpScopeCapabilities {capability : Capability} :
    capability ∈ httpScopeCapabilities ↔ ∀ capabilityId, capability ≠ .other capabilityId := by
  cases capability <;> simp [httpScopeCapabilities]

/-- A scope capability that was accepted has an envelope; any other has none. -/
theorem authorizeHttpTransactionPlan_envelope {plan : ExperimentPlan}
    {scope : Option CompiledScope} {policy : Option ProgramPolicyView} {now : Instant}
    {http : HttpTransactionScopeDecision}
    (h : authorizeHttpTransactionPlan services plan scope policy now = .ok http)
    (haccept : plan.requiredCapability ∈ httpScopeCapabilities → http.accepted = true) :
    http.envelope.isSome = true ↔ plan.requiredCapability ∈ httpScopeCapabilities := by
  unfold authorizeHttpTransactionPlan at h
  split at h
  next capabilityId hcap =>
    obtain rfl := Except.ok.inj h
    simp [mem_httpScopeCapabilities, hcap]
  iterate 2
    next hcap =>
      have hmem : plan.requiredCapability ∈ httpScopeCapabilities := by
        simp [mem_httpScopeCapabilities, hcap]
      exact iff_of_true (authorizeOriginPath_envelope h (haccept hmem)) hmem
  all_goals
    next hcap =>
      have hmem : plan.requiredCapability ∈ httpScopeCapabilities := by
        simp [mem_httpScopeCapabilities, hcap]
      split at h
      · obtain rfl := Except.ok.inj h
        cases haccept hmem
      · exact iff_of_true (authorizeOriginPath_envelope h (haccept hmem)) hmem

/-- Outside the scope capabilities no session is bound. -/
theorem bindIdentitySession_other {plan : ExperimentPlan}
    (h : plan.requiredCapability ∉ httpScopeCapabilities) :
    bindIdentitySession services plan = ⟨true, false, none, none⟩ := by
  unfold bindIdentitySession
  cases hcap : plan.requiredCapability <;> simp_all [httpScopeCapabilities]

theorem loadContext_eq_ok {rows : StoredRows} {command : ExecutePlannedExperimentCommand}
    {experiment : ExperimentRecord} {issued : IssuedBudgetRecord}
    (h : loadContext rows command = .ok (experiment, issued)) :
    rows.experiments.get experiment.experimentId = some experiment ∧
      rows.issuedBudgets.get issued.budgetId = some issued := by
  unfold loadContext at h
  split at h
  · cases h
  next found hexp =>
  repeat' split at h
  all_goals try cases h
  next hbudget =>
  refine ⟨?_, ?_⟩
  · rw [rows.experiments.get_key hexp, hexp]
  · rw [rows.issuedBudgets.get_key hbudget, hbudget]

/-- `_ensure_plan` leaves the plan it returns in the rows, and everything else
as it was. -/
theorem ensurePlan_eq_ok {rows rows' : StoredRows} {experiment : ExperimentRecord}
    {plan plan' : ExperimentPlan}
    (h : ensurePlan services rows experiment plan = .ok (plan', rows')) :
    rows'.experimentPlans experiment.experimentId = some plan' ∧
      ∃ plans, rows' = { rows with experimentPlans := plans } := by
  unfold ensurePlan at h
  split at h
  next =>
    split at h
    · cases h
    obtain ⟨rfl, rfl⟩ : plan = plan' ∧ _ = rows' := by simpa using h
    exact ⟨if_pos rfl, _, rfl⟩
  next stored hstored =>
    split at h
    · obtain ⟨rfl, rfl⟩ : stored = plan' ∧ rows = rows' := by simpa using h
      exact ⟨hstored, _, rfl⟩
    · cases h

/-- What a committed authorization rests on. -/
structure AuthorizedBy (services : AuthorizationServices) (a : Authorized)
    (experiment : ExperimentRecord) (issued : IssuedBudgetRecord) (plan : ExperimentPlan)
    (capabilityView : CapabilityAuthorizationView) (http : HttpTransactionScopeDecision)
    (request : WorkerRequest) : Prop where
  experiment_get : a.rows.experiments.get experiment.experimentId = some experiment
  issued_get : a.rows.issuedBudgets.get issued.budgetId = some issued
  plan_get : a.rows.experimentPlans experiment.experimentId = some plan
  capability : services.capabilityViewForPlan plan = some capabilityView
  envelope : http.envelope.isSome = true ↔ plan.requiredCapability ∈ httpScopeCapabilities
  built : authorizedRequest services a.rows experiment plan capabilityView issued
    a.dispatch.identity http = .ok request
  attempt : a.attempt = authorizedAttempt experiment plan issued a.dispatch.identity
  request : a.dispatch.workerRequest =
    { request with networkEnvelope := referencedEnvelope http a.dispatch.identity }
  secrets : a.dispatch.resolvedSecretValues = (bindIdentitySession services plan).resolvedSecrets

theorem finalDecision_allow {plan : ExperimentPlan} {http : HttpTransactionScopeDecision}
    (h : finalDecision services plan http = .allow)
    (hmem : plan.requiredCapability ∈ httpScopeCapabilities) : http.accepted = true := by
  cases haccept : http.accepted with
  | true => rfl
  | false => simp [finalDecision, hmem, haccept] at h

theorem authorize_eq_ok {rows : StoredRows} {command : ExecutePlannedExperimentCommand}
    {requestId correlationId : Text} {now : Instant} {a : Authorized}
    (h : authorize services rows command requestId correlationId now = .ok a) :
    ∃ experiment issued plan capabilityView http request,
      AuthorizedBy services a experiment issued plan capabilityView http request := by
  unfold authorize at h
  simp only at h
  split at h
  · cases h
  next experiment issued hload =>
  split at h
  · cases h
  next plan rows' hplan =>
  split at h
  · cases h
  split at h
  · cases h
  next capabilityView hview =>
  split at h
  · cases h
  next http hhttp =>
  repeat' split at h
  all_goals try cases h
  next hdecision _ _ hbuilt _ =>
  obtain ⟨hexp, hissued⟩ := loadContext_eq_ok hload
  obtain ⟨hstored, plans, rfl⟩ := ensurePlan_eq_ok hplan
  exact ⟨experiment, issued, plan, capabilityView, http, _,
    { experiment_get := hexp
      issued_get := hissued
      plan_get := hstored
      capability := hview
      envelope := authorizeHttpTransactionPlan_envelope hhttp (finalDecision_allow hdecision)
      built := hbuilt
      attempt := rfl
      request := rfl
      secrets := rfl }⟩

/-! ## Resuming what was authorized -/

/-- Between the commit and the resumption the rows behind the attempt stay as
they are. -/
structure Unchanged (rows rows' : StoredRows) (attempt : ExecutionAttemptRecord) : Prop where
  experiment : rows'.experiments.get attempt.experimentId =
    rows.experiments.get attempt.experimentId
  plan : rows'.experimentPlans attempt.experimentId = rows.experimentPlans attempt.experimentId
  budget : rows'.issuedBudgets.get attempt.budgetId = rows.issuedBudgets.get attempt.budgetId
  policy : rows'.policyOf attempt.researchRunId = rows.policyOf attempt.researchRunId

/-- The user agent that a policy demands has white space around it. -/
def ActionPolicy.paddedUserAgent (policy : ActionPolicy) : Prop :=
  ∃ value : Text, policy.requiredUserAgent = some (.text value) ∧ value.strip ≠ value

theorem buildWorkerRequest_eq_ok {lower : Text → Text} {isAlnum : Char → Bool}
    {experiment : ExperimentRecord} {plan : ExperimentPlan}
    {capabilityView : CapabilityAuthorizationView} {issued : IssuedBudgetRecord}
    {identity : RequestIdentity} {envelope : Option AuthorizedNetworkEnvelope}
    {identityId : Option Text} {userAgent : Option Json} {headers : Option RequiredHeaders}
    {request : WorkerRequest}
    (h : buildWorkerRequest lower isAlnum experiment plan capabilityView issued identity envelope
      identityId userAgent headers = .ok request) :
    workerArguments lower isAlnum plan.arguments identityId userAgent headers =
        .ok request.arguments ∧
      request.networkEnvelope = envelope.map (·.toMapping) := by
  obtain ⟨arguments, harguments, h⟩ := bind_eq_ok h
  obtain rfl := Except.ok.inj h
  exact ⟨harguments, rfl⟩

/-- What `authorize` has checked of the policy when it builds the request. -/
theorem authorizedRequest_eq_ok {rows : StoredRows} {experiment : ExperimentRecord}
    {plan : ExperimentPlan} {capabilityView : CapabilityAuthorizationView}
    {issued : IssuedBudgetRecord} {identity : RequestIdentity}
    {http : HttpTransactionScopeDecision} {request : WorkerRequest}
    (h : authorizedRequest services rows experiment plan capabilityView issued identity http =
      .ok request) :
    ∃ userAgent headers,
      validateRequiredUserAgent
          ((rows.policyOf experiment.researchRunId).bind (·.requiredUserAgent)) =
        .ok userAgent ∧
      validateRequiredProgramHeaders services.codecs.lower services.isAlnum
          ((rows.policyOf experiment.researchRunId).bind (·.requiredHeaders)) = .ok headers ∧
      buildWorkerRequest services.codecs.lower services.isAlnum experiment plan capabilityView
        issued identity http.envelope
        (if plan.requiredCapability = .browserPage then
          (bindIdentitySession services plan).sessionIdentityId
        else none)
        (userAgent.map .text) (some (.ofTexts headers)) = .ok request := by
  obtain ⟨userAgent, hagent, h⟩ := bind_eq_ok h
  obtain ⟨headers, hheaders, h⟩ := bind_eq_ok h
  refine ⟨userAgent, headers, ?_, ?_, h⟩
  · unfold requiredUserAgent at hagent
    split at hagent
    · cases hagent
    next program hrun => simpa [StoredRows.policyOf, hrun] using hagent
  · unfold requiredProgramHeaders at hheaders
    split at hheaders
    · cases hheaders
    next program hrun => simpa [StoredRows.policyOf, hrun] using hheaders

/-- A validated user agent is the policy's own, stripped. -/
theorem validateRequiredUserAgent_eq_ok {raw : Option Json} {userAgent : Option Text}
    (h : validateRequiredUserAgent raw = .ok userAgent) :
    (raw = none ∧ userAgent = none) ∨
      ∃ value, raw = some (.text value) ∧ userAgent = some value.strip := by
  match raw with
  | none => exact Or.inl ⟨rfl, (Except.ok.inj h).symm⟩
  | some (.text value) =>
    simp only [validateRequiredUserAgent] at h
    split at h
    · cases h
    · exact Or.inr ⟨value, rfl, (Except.ok.inj h).symm⟩
  | some (.object entries) => cases h
  | some (.other value truthy) => cases h

section Resumed

variable {a : Authorized} {experiment : ExperimentRecord} {issued : IssuedBudgetRecord}
  {plan : ExperimentPlan} {capabilityView : CapabilityAuthorizationView}
  {http : HttpTransactionScopeDecision} {request : WorkerRequest} {rows' : StoredRows}

/-- The request that is built again, from rows that have not changed. -/
theorem AuthorizedBy.resume_eq
    (h : AuthorizedBy services a experiment issued plan capabilityView http request)
    (hu : Unchanged a.rows rows' a.attempt) :
    resumeAuthorized services rows' a.attempt =
      match buildWorkerRequest services.codecs.lower services.isAlnum experiment plan
          capabilityView issued a.dispatch.identity none none
          ((a.rows.policyOf experiment.researchRunId).bind (·.requiredUserAgent))
          ((a.rows.policyOf experiment.researchRunId).bind (·.requiredHeaders)) with
      | .error message => .error (.raised message)
      | .ok rebuilt => .ok {
          experimentId := experiment.experimentId
          hypothesisId := experiment.hypothesisId
          attemptId := a.attempt.attemptId
          identity := a.dispatch.identity
          workerRequest := rebuilt
          timeoutMs := issued.allowance.maxRuntimeMs
          resolvedSecretValues := none } := by
  have hattempt := h.attempt
  unfold resumeAuthorized
  simp only [hu.experiment, hu.plan, hu.budget, hu.policy]
  rw [hattempt]
  simp only [authorizedAttempt, h.experiment_get, h.plan_get, h.issued_get, h.capability]

/-- The capability decides whether the two requests agree on the envelope. -/
theorem AuthorizedBy.envelope_eq_none_iff
    (h : AuthorizedBy services a experiment issued plan capabilityView http request) :
    a.dispatch.workerRequest.networkEnvelope = none ↔
      plan.requiredCapability ∉ httpScopeCapabilities := by
  rw [h.request, ← h.envelope]
  simp [referencedEnvelope]

/-- Handing a request over adds secrets and a reservation, nothing else. -/
theorem handed_networkEnvelope (dispatch : AuthorizedDispatch) (capability : Capability)
    (reserved : Nat) : (dispatch.handed capability reserved).networkEnvelope =
      dispatch.workerRequest.networkEnvelope := rfl

theorem handed_arguments (dispatch : AuthorizedDispatch) (capability : Capability)
    (reserved : Nat) : (dispatch.handed capability reserved).arguments =
      dispatch.workerRequest.arguments := rfl

/-- A user agent with white space around it shows in the resumed request. -/
theorem AuthorizedBy.not_padded
    (hlower : services.codecs.lower "User-Agent".toList = "user-agent".toList)
    (h : AuthorizedBy services a experiment issued plan capabilityView http request)
    {rebuilt : WorkerRequest}
    (hrebuilt : buildWorkerRequest services.codecs.lower services.isAlnum experiment plan
      capabilityView issued a.dispatch.identity none none
      ((a.rows.policyOf experiment.researchRunId).bind (·.requiredUserAgent))
      ((a.rows.policyOf experiment.researchRunId).bind (·.requiredHeaders)) = .ok rebuilt)
    (heq : rebuilt.arguments = a.dispatch.workerRequest.arguments) :
    ∀ policy, a.rows.policyOf experiment.researchRunId = some policy →
      ¬policy.paddedUserAgent := by
  rintro policy hpolicy ⟨value, hvalue, hpadded⟩
  obtain ⟨userAgent, headers, hagent, -, hbuilt⟩ := authorizedRequest_eq_ok h.built
  have hraw : (a.rows.policyOf experiment.researchRunId).bind (·.requiredUserAgent) =
      some (.text value) := by rw [hpolicy]; exact hvalue
  rw [hraw] at hagent hrebuilt
  obtain ⟨hnone, -⟩ | ⟨_, hsome, rfl⟩ := validateRequiredUserAgent_eq_ok hagent
  · cases hnone
  obtain rfl := Json.text.inj (Option.some.inj hsome)
  obtain ⟨first, hfirst, hstripped⟩ :=
    workerArguments_userAgent hlower (buildWorkerRequest_eq_ok hbuilt).1
  obtain ⟨second, hsecond, hkept⟩ :=
    workerArguments_userAgent hlower (buildWorkerRequest_eq_ok hrebuilt).1
  have hsame : second = first := by
    have hargs : request.arguments = rebuilt.arguments := by rw [heq, h.request]
    rw [← hargs, hfirst] at hsecond
    exact (Json.object.inj (Option.some.inj hsecond)).symm
  rw [hsame, hstripped] at hkept
  exact hpadded (Json.text.inj (Option.some.inj hkept))

/-- Outside the scope capabilities and with a user agent that needs no
stripping, the request is built again as it was. -/
theorem AuthorizedBy.rebuilt
    (h : AuthorizedBy services a experiment issued plan capabilityView http request)
    (hcap : plan.requiredCapability ∉ httpScopeCapabilities)
    (hagent : ∀ policy, a.rows.policyOf experiment.researchRunId = some policy →
      ¬policy.paddedUserAgent) :
    buildWorkerRequest services.codecs.lower services.isAlnum experiment plan
        capabilityView issued a.dispatch.identity none none
        ((a.rows.policyOf experiment.researchRunId).bind (·.requiredUserAgent))
        ((a.rows.policyOf experiment.researchRunId).bind (·.requiredHeaders)) =
      .ok a.dispatch.workerRequest := by
  obtain ⟨userAgent, headers, huserAgent, hheaders, hbuilt⟩ := authorizedRequest_eq_ok h.built
  have henvelope : http.envelope = none := by
    have hsome := mt h.envelope.1 hcap
    simpa using hsome
  have hbrowser : plan.requiredCapability ≠ .browserPage := by
    rintro heq
    exact hcap (by simp [heq, httpScopeCapabilities])
  have hraw : (a.rows.policyOf experiment.researchRunId).bind (·.requiredUserAgent) =
      userAgent.map .text := by
    obtain ⟨hnone, rfl⟩ | ⟨value, hsome, rfl⟩ := validateRequiredUserAgent_eq_ok huserAgent
    · exact hnone
    · cases hpolicy : a.rows.policyOf experiment.researchRunId with
      | none => rw [hpolicy] at hsome; cases hsome
      | some policy =>
        rw [hpolicy] at hsome
        have hstrip : value.strip = value := by
          by_cases hstrip : value.strip = value
          · exact hstrip
          · exact absurd ⟨value, hsome, hstrip⟩ (hagent policy hpolicy)
        simpa [hstrip] using hsome
  have hrequest : a.dispatch.workerRequest = request := by
    have hnet := (buildWorkerRequest_eq_ok hbuilt).2
    rw [h.request]
    simp only [henvelope, Option.map_none] at hnet
    simp only [referencedEnvelope, henvelope, Option.map_none, ← hnet]
  rw [hrequest, ← hbuilt, hraw, henvelope, if_neg hbrowser]
  simp only [buildWorkerRequest, workerArguments_ofTexts hheaders]

end Resumed

/-- The request that a resumption hands to the Worker is the one that was
authorized, whatever number of requests is reserved for it. -/
def ResumedAsAuthorized (services : AuthorizationServices) (a : Authorized)
    (rows' : StoredRows) : Prop :=
  ∃ resumed, resumeAuthorized services rows' a.attempt = .ok resumed ∧
    ∀ reserved, resumed.handed a.attempt.workerCapability reserved =
      a.dispatch.handed a.attempt.workerCapability reserved

/-- **When a resumed dispatch is the authorized one.**  The attempt must be for
a capability without a network envelope, and the policy's user agent must be
free of surrounding white space. -/
theorem resumed_dispatch_iff
    (hlower : services.codecs.lower "User-Agent".toList = "user-agent".toList)
    {rows : StoredRows} {command : ExecutePlannedExperimentCommand}
    {requestId correlationId : Text} {now : Instant} {a : Authorized}
    (hauth : authorize services rows command requestId correlationId now = .ok a)
    {rows' : StoredRows} (hu : Unchanged a.rows rows' a.attempt) :
    ResumedAsAuthorized services a rows' ↔
      a.attempt.workerCapability ∉ httpScopeCapabilities ∧
        ∀ policy, a.rows.policyOf a.attempt.researchRunId = some policy →
          ¬policy.paddedUserAgent := by
  obtain ⟨experiment, issued, plan, capabilityView, http, request, h⟩ := authorize_eq_ok hauth
  have hcapability : a.attempt.workerCapability = plan.requiredCapability := by rw [h.attempt]; rfl
  have hrun : a.attempt.researchRunId = experiment.researchRunId := by rw [h.attempt]; rfl
  rw [hcapability, hrun]
  constructor
  · rintro ⟨resumed, hresumed, hhanded⟩
    rw [h.resume_eq hu] at hresumed
    split at hresumed
    · cases hresumed
    next rebuilt hrebuilt =>
    obtain rfl := Except.ok.inj hresumed
    have henvelope := congrArg (·.networkEnvelope) (hhanded 0)
    have harguments := congrArg (·.arguments) (hhanded 0)
    simp only [handed_networkEnvelope, handed_arguments] at henvelope harguments
    refine ⟨h.envelope_eq_none_iff.1 ?_, h.not_padded hlower hrebuilt harguments⟩
    rw [← henvelope, (buildWorkerRequest_eq_ok hrebuilt).2]
    rfl
  · rintro ⟨hcap, hagent⟩
    refine ⟨_, (h.resume_eq hu).trans (by rw [h.rebuilt hcap hagent]), fun reserved => ?_⟩
    -- no session is bound here, so no secret is lost with the process
    rw [AuthorizedDispatch.handed, AuthorizedDispatch.handed, h.secrets,
      bindIdentitySession_other hcap]

/-! ## Two runs -/

/-- A table with one row. -/
def Table.single {α : Type} (key : α → Text) (row : α) : Table α key where
  get id := if id = key row then some row else none
  get_key h := by
    split at h
    next hid => cases h; exact hid.symm
    next => cases h

/-- Services that find nothing to object to. -/
def permissiveServices : AuthorizationServices :=
  { codecs := asciiCodecs
    isAlnum := fun c => c.isAlphanum
    str := fun value => match value with
      | .text s => s
      | .object _ => "{}".toList
      | .other s _ => s
    capabilityViewForPlan := fun _ => some ⟨"1.0".toList, "fp".toList⟩
    argumentIssue := fun _ => none
    plansEquivalent := fun _ _ => true
    rateLimitAllows := true
    evaluateExecution := fun _ _ => .allow
    bindLogin := fun _ => ⟨true, false, none, none⟩
    bindExistingSession := fun _ => ⟨true, false, none, none⟩
    validWorkerRequest := fun _ => true }

/-- A plan for one capability, on `https://example.com/app`. -/
def planFor (capability : Capability) : ExperimentPlan :=
  { hypothesisId := "h".toList
    requiredCapability := capability
    action := "read".toList
    targetReference := "target".toList
    sideEffectLevel := 0
    arguments := Mapping.set
      (Mapping.set (fun _ => none) "authorized_origin".toList
        (.text "https://example.com".toList))
      "path".toList (.text "/app".toList)
    requestedBudgetId := "b".toList
    capabilityVersion := some "1.0".toList
    capabilityDefinitionFingerprint := some "fp".toList }

/-- The rows before that plan is authorized, under a policy with a user agent. -/
def plannedRows : StoredRows :=
  { experiments := Table.single _ ⟨"e".toList, "run".toList, "h".toList, "b".toList⟩
    executionState := fun _ => .planned
    hypotheses := fun _ => true
    experimentPlans := fun _ => none
    issuedBudgets := Table.single _ ⟨"b".toList, ⟨10, 10, 1000, 1⟩⟩
    researchRuns := fun _ => some "program".toList
    programPolicies := fun _ => some ⟨some (.text "zest".toList), none⟩
    executionAttempts := [] }

def executeCommand (capability : Capability) : ExecutePlannedExperimentCommand :=
  { experimentId := "e".toList
    plan := planFor capability
    compiledScope := some
      ⟨[originRule "https".toList "example.com".toList 443 .allow none]⟩
    programPolicy := some ⟨false⟩ }

/-- A resumed transaction is handed over without its network envelope. -/
theorem resumed_without_envelope :
    ∃ a, authorize permissiveServices plannedRows (executeCommand .httpTransaction)
        "r".toList "c".toList 0 = .ok a ∧
      ¬ ResumedAsAuthorized permissiveServices a a.rows := by
  refine ⟨_, rfl, ?_⟩
  rintro ⟨resumed, hresumed, hhanded⟩
  obtain rfl := Except.ok.inj hresumed
  cases congrArg (·.networkEnvelope) (hhanded 0)

/-- A resumed diagnostic is handed over as it was authorized. -/
theorem resumed_dispatch_iff_echo :
    ∃ a, authorize permissiveServices plannedRows
        (executeCommand (.other "diagnostic.echo".toList)) "r".toList "c".toList 0 = .ok a ∧
      (ResumedAsAuthorized permissiveServices a a.rows ↔
        a.attempt.workerCapability ∉ httpScopeCapabilities ∧
          ∀ policy, a.rows.policyOf a.attempt.researchRunId = some policy →
            ¬policy.paddedUserAgent) :=
  ⟨_, rfl, @resumed_dispatch_iff permissiveServices (by decide) plannedRows
    (executeCommand (.other "diagnostic.echo".toList)) "r".toList "c".toList 0 _ rfl _
    ⟨rfl, rfl, rfl, rfl⟩⟩

end Zest

import Mathlib.Data.Char
import Mathlib.Data.List.Lex
import Mathlib.Data.List.Sort
import Zest.BudgetLedger
import Zest.Text

/-! # Routing a model call to a runtime

`select_runtime` chooses one of the configured runtimes for a role: hard filters
first, then the price class, then the operator's order or the observed quality.
`reconsider_runtime` is asked again after a call has ended, with the original
request and the decision before.  What the decision has used travels in the
decision; what the request asks for is taken from the request each time.
-/
namespace Zest
namespace Routing

/-- A text with something other than white space in it. -/
abbrev NonBlank := { t : Text // t.strip ≠ [] }

inductive ModelPriceClass where
  | cheap
  | expensive
  deriving DecidableEq, Repr

inductive RuntimeClass where
  | inferenceRuntime
  | agentRuntime
  deriving DecidableEq, Repr

inductive RuntimeOutcome where
  | completed
  | unavailable
  | authFailed
  | rateLimited
  | timedOut
  | processFailed
  | protocolError
  | structuredOutputInvalid
  | contentPolicyBlocked
  | escalationNeeded
  | cancelled
  deriving DecidableEq, Repr

inductive LocalityConstraint where
  | localRequired
  | remoteAllowed
  deriving DecidableEq, Repr

inductive CandidateLocality where
  | local
  | remote
  deriving DecidableEq, Repr

inductive RoutingOutcome where
  | select
  | noCompatibleRuntime
  | blockedPolicy
  | unavailable
  | requireOperatorSelection
  deriving DecidableEq, Repr

inductive RoutingReasonCode where
  | selectedAfterHardFilters
  | selectedByOperatorOrder
  | selectedByQualityOrder
  | tieRequiresOperator
  | zeroRuntimeAllowance
  | zeroFallbackAllowance
  | noCandidates
  | unavailable
  | wrongRuntimeClass
  | agentNotPermittedForInferenceRole
  | unrestrictedCapability
  | missingStructuredOutput
  | operatorProhibited
  | localityMismatch
  | missingAuthentication
  | capabilityExposureTooBroad
  | sideEffectCapabilityOnReasoningPath
  | strixIsNotModelRuntime
  | contentPolicyBlockNoBypass
  | fallbackExhausted
  | attemptBudgetExhausted
  | alreadyAttempted
  | cheapClassSelected
  | expensiveClassSelected
  | escalationRequired
  | monitoringClassDisabled
  deriving DecidableEq, Repr

/-- A class of `TASK_PRICE_CLASS_POLICY`: a price class, or `"none"`. -/
inductive TaskPolicy where
  | none
  | price (priceClass : ModelPriceClass)
  deriving DecidableEq, Repr

/-- `TASK_PRICE_CLASS_POLICY`. -/
def taskPriceClassPolicy : List (Text × TaskPolicy) :=
  [("monitoring".toList, .none),
   ("generator".toList, .price .cheap),
   ("falsifier".toList, .price .cheap),
   ("finding_proposal_qa".toList, .price .expensive)]

/-- `UNRESTRICTED_CAPABILITY_MARKERS`. -/
def unrestrictedCapabilityMarkers : List Text :=
  ["*", "all", "unrestricted", "shell", "yolo", "danger-full-access", "any"].map String.toList

/-! ## Requests and decisions -/

structure RoutingBudget where
  maxRuntimeAttempts : Nat
  maxFallbackAttempts : Nat
  deriving DecidableEq

/-- An observed cost: a Python number that is not below zero, which a float that
is infinite or not a number is as well. -/
inductive Cost where
  | amount (value : Rat)
  | infinite
  | notANumber
  deriving DecidableEq

/-- `!=` of two numbers. -/
def Cost.differs : Cost → Cost → Bool
  | .amount a, .amount b => decide (a ≠ b)
  | .infinite, .infinite => false
  | _, _ => true

/-- `<` of two numbers. -/
def Cost.less : Cost → Cost → Bool
  | .amount a, .amount b => decide (a < b)
  | .amount _, .infinite => true
  | _, _ => false

structure RuntimeQualityObservation where
  groundingSafetyHardFailures : Nat
  researchUsefulnessFailures : Nat
  falsifierQualityFailures : Nat
  instabilityEvents : Nat
  latencyMs : Option Nat
  costAmount : Option Cost
  deriving DecidableEq

/-- `RuntimeQualityObservation()`. -/
def RuntimeQualityObservation.default : RuntimeQualityObservation where
  groundingSafetyHardFailures := 0
  researchUsefulnessFailures := 0
  falsifierQualityFailures := 0
  instabilityEvents := 0
  latencyMs := none
  costAmount := none

def RuntimeQualityObservation.orderedKey (o : RuntimeQualityObservation) : List Nat :=
  [o.groundingSafetyHardFailures, o.researchUsefulnessFailures, o.falsifierQualityFailures,
    o.instabilityEvents]

structure ModelRuntimeIdentity where
  runtimeClass : RuntimeClass
  adapterId : Text
  runtimeId : Text
  priceClass : ModelPriceClass
  deriving DecidableEq

structure RuntimeCandidate where
  identity : ModelRuntimeIdentity
  available : Bool
  authenticated : Bool
  structuredOutputCompatible : Bool
  allowedCapabilities : List NonBlank
  sideEffectCapabilities : List NonBlank
  locality : CandidateLocality
  operatorProhibited : Bool
  quality : Option RuntimeQualityObservation
  isStrix : Bool
  deriving DecidableEq

structure RoutingRequest where
  role : ModelRole
  candidates : List RuntimeCandidate
  budget : RoutingBudget
  requiredRuntimeClass : RuntimeClass
  structuredOutputRequired : Bool
  locality : LocalityConstraint
  allowAgentRuntime : Bool
  operatorProhibitedAdapterIds : List Text
  operatorPreferenceOrder : List Text
  requireOperatorOnTie : Bool
  attemptedAdapterIds : List Text
  runtimeAttemptsUsed : Nat
  fallbackAttemptsUsed : Nat
  taskClass : Option NonBlank
  escalationReason : Option NonBlank

structure FilterRecord where
  adapterId : Text
  reasonCode : RoutingReasonCode
  deriving DecidableEq

/-- A decision names a runtime exactly when it selects one. -/
structure RuntimeSelectionDecision where
  outcome : RoutingOutcome
  role : ModelRole
  reasonCodes : List RoutingReasonCode
  selectedIdentity : Option ModelRuntimeIdentity
  consideredIdentities : List ModelRuntimeIdentity
  filtered : List FilterRecord
  attemptedAdapterIds : List Text
  runtimeAttemptsUsed : Nat
  fallbackAttemptsUsed : Nat
  selected_iff : selectedIdentity.isSome = true ↔ outcome = .select

def RuntimeSelectionDecision.selected (d : RuntimeSelectionDecision) : Bool :=
  d.outcome == .select

/-- `_decision` without a runtime: what is not given is taken from the request. -/
def refusal (request : RoutingRequest) (outcome : RoutingOutcome) (h : outcome ≠ .select)
    (reasonCodes : List RoutingReasonCode) : RuntimeSelectionDecision where
  outcome := outcome
  role := request.role
  reasonCodes := reasonCodes
  selectedIdentity := none
  consideredIdentities := []
  filtered := []
  attemptedAdapterIds := request.attemptedAdapterIds
  runtimeAttemptsUsed := request.runtimeAttemptsUsed
  fallbackAttemptsUsed := request.fallbackAttemptsUsed
  selected_iff := by simpa using h

/-- `_decision` with a runtime, which uses one of the attempts. -/
def selection (request : RoutingRequest) (reasonCodes : List RoutingReasonCode)
    (identity : ModelRuntimeIdentity) (filtered : List FilterRecord) :
    RuntimeSelectionDecision where
  outcome := .select
  role := request.role
  reasonCodes := reasonCodes
  selectedIdentity := some identity
  consideredIdentities := request.candidates.map (·.identity)
  filtered := filtered
  attemptedAdapterIds := request.attemptedAdapterIds
  runtimeAttemptsUsed := request.runtimeAttemptsUsed + 1
  fallbackAttemptsUsed := request.fallbackAttemptsUsed
  selected_iff := by simp

@[simp] theorem selected_refusal (request : RoutingRequest) (outcome : RoutingOutcome)
    (h : outcome ≠ .select) (reasonCodes : List RoutingReasonCode) :
    (refusal request outcome h reasonCodes).selected = false := by
  simpa [refusal, RuntimeSelectionDecision.selected] using h

@[simp] theorem selected_selection (request : RoutingRequest)
    (reasonCodes : List RoutingReasonCode) (identity : ModelRuntimeIdentity)
    (filtered : List FilterRecord) :
    (selection request reasonCodes identity filtered).selected = true := rfl

/-! ## The filters -/

/-- `_capability_unrestricted`.  The markers are ASCII, and the lower-case form of
no other character is one of theirs. -/
def capabilityUnrestricted (capabilities : List NonBlank) : Bool :=
  capabilities.any fun item => unrestrictedCapabilityMarkers.contains (item.val.map Text.asciiLower)

/-- The end of `_hard_filter`, which every class of runtime comes to. -/
def generalFilter (candidate : RuntimeCandidate) (request : RoutingRequest) :
    Option RoutingReasonCode :=
  if capabilityUnrestricted candidate.allowedCapabilities then some .unrestrictedCapability
  else if request.structuredOutputRequired && !candidate.structuredOutputCompatible then
    some .missingStructuredOutput
  else none

/-- `_hard_filter`. -/
def hardFilter (candidate : RuntimeCandidate) (request : RoutingRequest) :
    Option RoutingReasonCode :=
  if candidate.isStrix then some .strixIsNotModelRuntime
  else if candidate.identity.adapterId ∈ request.attemptedAdapterIds then some .alreadyAttempted
  else if candidate.operatorProhibited ∨
      candidate.identity.adapterId ∈ request.operatorProhibitedAdapterIds then
    some .operatorProhibited
  else if !candidate.available then some .unavailable
  else if !candidate.authenticated then some .missingAuthentication
  else if request.locality = .localRequired ∧ candidate.locality ≠ .local then
    some .localityMismatch
  else if candidate.identity.runtimeClass = .agentRuntime then
    if !request.allowAgentRuntime ∨ request.requiredRuntimeClass = .inferenceRuntime then
      some .agentNotPermittedForInferenceRole
    else if candidate.allowedCapabilities = [] then some .capabilityExposureTooBroad
    else if capabilityUnrestricted candidate.allowedCapabilities ||
        capabilityUnrestricted candidate.sideEffectCapabilities then
      some .unrestrictedCapability
    else if candidate.sideEffectCapabilities ≠ [] then some .sideEffectCapabilityOnReasoningPath
    else generalFilter candidate request
  else if candidate.identity.runtimeClass ≠ request.requiredRuntimeClass then
    some .wrongRuntimeClass
  else generalFilter candidate request

/-- What a runtime passes is what it passes before anything was attempted, and not
having been attempted. -/
theorem hardFilter_eq_none {candidate : RuntimeCandidate} {request : RoutingRequest} :
    hardFilter candidate request = none ↔
      candidate.identity.adapterId ∉ request.attemptedAdapterIds ∧
        hardFilter candidate { request with attemptedAdapterIds := [] } = none := by
  by_cases hstrix : candidate.isStrix = true
  · simp [hardFilter, hstrix]
  · by_cases hmem : candidate.identity.adapterId ∈ request.attemptedAdapterIds
    · simp [hardFilter, hstrix, hmem]
    · simp only [hardFilter, hstrix, hmem, List.not_mem_nil, if_false, not_false_eq_true,
        true_and, generalFilter]

/-- A runtime that passes after more was attempted passes the request itself. -/
theorem hardFilter_of_attempted_subset {candidate : RuntimeCandidate} {request : RoutingRequest}
    {attempted : List Text} {runtimeUsed fallbackUsed : Nat} {reason : Option NonBlank}
    (hsub : request.attemptedAdapterIds ⊆ attempted)
    (h : hardFilter candidate
      { request with
        attemptedAdapterIds := attempted
        runtimeAttemptsUsed := runtimeUsed
        fallbackAttemptsUsed := fallbackUsed
        escalationReason := reason } = none) :
    hardFilter candidate request = none := by
  obtain ⟨hnot, hrest⟩ := hardFilter_eq_none.mp h
  exact hardFilter_eq_none.mpr ⟨fun hmem => hnot (hsub hmem), hrest⟩

/-- The candidates that pass the hard filters. -/
def survivors (request : RoutingRequest) : List RuntimeCandidate :=
  request.candidates.filter fun candidate => hardFilter candidate request = none

/-- The candidates that do not, with their reasons. -/
def filteredOut (request : RoutingRequest) : List FilterRecord :=
  request.candidates.filterMap fun candidate =>
    (hardFilter candidate request).map fun reason => ⟨candidate.identity.adapterId, reason⟩

/-- What `TASK_PRICE_CLASS_POLICY` says of the request's task class. -/
def taskPolicy (request : RoutingRequest) : Option TaskPolicy :=
  request.taskClass.bind fun taskClass => taskPriceClassPolicy.lookup taskClass.val

/-- `_desired_price_class`. -/
def desiredPriceClass (request : RoutingRequest) : ModelPriceClass :=
  if request.escalationReason.isSome then .expensive
  else
    match taskPolicy request with
    | some (.price priceClass) => priceClass
    | _ => .cheap

/-- The survivors of the desired price class. -/
def priceSurvivors (request : RoutingRequest) : List RuntimeCandidate :=
  (survivors request).filter fun candidate =>
    candidate.identity.priceClass = desiredPriceClass request

/-- The survivors of another price class. -/
def priceFiltered (request : RoutingRequest) : List FilterRecord :=
  ((survivors request).filter fun candidate =>
    candidate.identity.priceClass ≠ desiredPriceClass request).map fun candidate =>
      ⟨candidate.identity.adapterId, .wrongRuntimeClass⟩

theorem mem_priceSurvivors {request : RoutingRequest} {candidate : RuntimeCandidate} :
    candidate ∈ priceSurvivors request ↔
      candidate ∈ request.candidates ∧ hardFilter candidate request = none ∧
        candidate.identity.priceClass = desiredPriceClass request := by
  simp only [priceSurvivors, survivors, List.mem_filter, decide_eq_true_eq, and_assoc]

/-! ## The choice among the survivors -/

/-- `_quality_better`: negative if `left` is better. -/
def qualityBetter (left right : RuntimeCandidate) : Int :=
  let leftObs := left.quality.getD .default
  let rightObs := right.quality.getD .default
  if leftObs.orderedKey ≠ rightObs.orderedKey then
    if leftObs.orderedKey < rightObs.orderedKey then -1 else 1
  else
    match latency leftObs.latencyMs rightObs.latencyMs with
    | some order => order
    | none =>
      match cost leftObs.costAmount rightObs.costAmount with
      | some order => order
      | none =>
        if left.identity.adapterId ≠ right.identity.adapterId then
          if left.identity.adapterId < right.identity.adapterId then -1 else 1
        else 0
where
  /-- Two latencies decide when both were observed and they differ. -/
  latency : Option Nat → Option Nat → Option Int
    | some l, some r => if l ≠ r then some (if l < r then -1 else 1) else none
    | _, _ => none
  /-- Two costs decide when both were observed and they differ. -/
  cost : Option Cost → Option Cost → Option Int
    | some l, some r => if l.differs r then some (if l.less r then -1 else 1) else none
    | _, _ => none

/-- `_quality_equal`. -/
def qualityEqual (left right : RuntimeCandidate) : Bool :=
  let leftObs := left.quality.getD .default
  let rightObs := right.quality.getD .default
  leftObs.orderedKey == rightObs.orderedKey &&
    (qualityBetter.latency leftObs.latencyMs rightObs.latencyMs).isNone &&
    (qualityBetter.cost leftObs.costAmount rightObs.costAmount).isNone

/-- `_quality_better` orders these candidates.  A latency or a cost that was not
observed is passed over, so that it need not. -/
def Consistent (candidates : List RuntimeCandidate) : Prop :=
  (∀ a ∈ candidates, ∀ b ∈ candidates, qualityBetter a b ≤ 0 ∨ qualityBetter b a ≤ 0) ∧
    ∀ a ∈ candidates, ∀ b ∈ candidates, ∀ c ∈ candidates,
      qualityBetter a b ≤ 0 → qualityBetter b c ≤ 0 → qualityBetter a c ≤ 0

/-- `sorted(survivors, key=cmp_to_key(_quality_better))`: a rearrangement, and the
stable sort where the comparison is an order.  Where it is not, which one is left
open by the language. -/
structure Ranking where
  rank : List RuntimeCandidate → List RuntimeCandidate
  perm : ∀ candidates, (rank candidates).Perm candidates
  sorted : ∀ candidates, Consistent candidates →
    rank candidates = candidates.insertionSort fun a b => qualityBetter a b ≤ 0

/-- The ranking that sorts by insertion whatever the comparison. -/
def Ranking.byInsertion : Ranking where
  rank candidates := candidates.insertionSort fun a b => qualityBetter a b ≤ 0
  perm candidates := List.perm_insertionSort _ candidates
  sorted _ _ := rfl

/-- `order.get(adapter_id)` of the operator's preference order: the last place an
adapter is named at. -/
def preferencePlace (order : List Text) (adapterId : Text) : Nat :=
  order.length - 1 - order.reverse.idxOf adapterId

/-- The survivors that the operator's preference order names. -/
def preferred (request : RoutingRequest) : List RuntimeCandidate :=
  (priceSurvivors request).filter fun candidate =>
    candidate.identity.adapterId ∈ request.operatorPreferenceOrder

/-- `sorted(items, key=key)[0]`: the first item whose key is least. -/
def firstLeast (key : RuntimeCandidate → Nat) (first : RuntimeCandidate) :
    List RuntimeCandidate → RuntimeCandidate
  | [] => first
  | item :: rest =>
    if key item < key first then firstLeast key item rest else firstLeast key first rest

theorem firstLeast_mem (key : RuntimeCandidate → Nat) (first : RuntimeCandidate)
    (rest : List RuntimeCandidate) : firstLeast key first rest ∈ first :: rest := by
  induction rest generalizing first with
  | nil => exact List.mem_cons_self
  | cons item rest ih =>
    unfold firstLeast
    by_cases h : key item < key first
    · rw [if_pos h]
      exact List.mem_cons_of_mem _ (ih item)
    · rw [if_neg h]
      rcases List.mem_cons.mp (ih first) with heq | hmem
      · rw [heq]
        exact List.mem_cons_self
      · exact List.mem_cons_of_mem _ (List.mem_cons_of_mem _ hmem)

/-- The others among the ranked that are as good as the best. -/
def tied (best : RuntimeCandidate) (ranked : List RuntimeCandidate) : List RuntimeCandidate :=
  ranked.filter fun item =>
    item.identity.adapterId != best.identity.adapterId && qualityEqual item best

/-- The reason given for the price class of a selection. -/
def priceReason (request : RoutingRequest) : RoutingReasonCode :=
  if request.escalationReason.isSome then .escalationRequired
  else if desiredPriceClass request = .expensive then .expensiveClassSelected
  else .cheapClassSelected

/-- The end of `select_runtime`: the best of the survivors by quality. -/
def selectByQuality (ranking : Ranking) (request : RoutingRequest) : RuntimeSelectionDecision :=
  let ranked := ranking.rank (priceSurvivors request)
  match ranked with
  | [] => refusal request .noCompatibleRuntime nofun [.noCandidates]
  | best :: _ =>
    if tied best ranked ≠ [] ∧ request.requireOperatorOnTie then
      { refusal request .requireOperatorSelection nofun [.tieRequiresOperator] with
        consideredIdentities := ranked.map (·.identity)
        filtered := filteredOut request ++ priceFiltered request }
    else
      selection request
        [.selectedAfterHardFilters, .selectedByQualityOrder, priceReason request]
        best.identity (filteredOut request ++ priceFiltered request)

/-- `select_runtime` over at least one survivor of the desired price class. -/
def selectSurvivor (ranking : Ranking) (request : RoutingRequest) : RuntimeSelectionDecision :=
  match preferred request with
  | first :: rest =>
    let place candidate :=
      preferencePlace request.operatorPreferenceOrder candidate.identity.adapterId
    selection request
      [.selectedAfterHardFilters, .selectedByOperatorOrder, priceReason request]
      (firstLeast place first rest).identity (filteredOut request ++ priceFiltered request)
  | [] => selectByQuality ranking request

/-- The codes of the filters that applied, each once, or that there was nobody to
apply one to. -/
def filterCodes (filtered : List FilterRecord) : List RoutingReasonCode :=
  if filtered = [] then [.noCandidates] else (filtered.map (·.reasonCode)).eraseDups

/-- `select_runtime`. -/
def selectRuntime (ranking : Ranking) (request : RoutingRequest) : RuntimeSelectionDecision :=
  let considered := request.candidates.map (·.identity)
  if request.budget.maxRuntimeAttempts = 0 then
    { refusal request .unavailable nofun [.zeroRuntimeAllowance] with
      consideredIdentities := considered }
  else if request.budget.maxRuntimeAttempts ≤ request.runtimeAttemptsUsed then
    { refusal request .unavailable nofun [.attemptBudgetExhausted] with
      consideredIdentities := considered }
  else if request.candidates = [] then
    refusal request .noCompatibleRuntime nofun [.noCandidates]
  else if taskPolicy request = some .none then
    { refusal request .blockedPolicy nofun [.monitoringClassDisabled] with
      consideredIdentities := considered }
  else if survivors request = [] then
    let filtered := filteredOut request
    if filtered ≠ [] ∧ filtered.all (·.reasonCode == .unavailable) then
      { refusal request .unavailable nofun (filterCodes filtered) with
        consideredIdentities := considered
        filtered := filtered }
    else
      { refusal request .noCompatibleRuntime nofun (filterCodes filtered) with
        consideredIdentities := considered
        filtered := filtered }
  else if priceSurvivors request = [] then
    let filtered := priceFiltered request
    if filtered ≠ [] ∧ filtered.all (·.reasonCode == .wrongRuntimeClass) ∧
        desiredPriceClass request = .expensive then
      { refusal request .blockedPolicy nofun (filterCodes filtered) with
        consideredIdentities := considered
        filtered := filteredOut request ++ filtered }
    else
      { refusal request .noCompatibleRuntime nofun (filterCodes filtered) with
        consideredIdentities := considered
        filtered := filteredOut request ++ filtered }
  else selectSurvivor ranking request

/-! ## The fallback -/

/-- `attempted` of `reconsider_runtime`: what the decision before had attempted,
and the runtime it selected. -/
def attemptedAfter (previous : RuntimeSelectionDecision) : List Text :=
  match previous.selectedIdentity with
  | some identity => (previous.attemptedAdapterIds ++ [identity.adapterId]).eraseDups
  | none => previous.attemptedAdapterIds

/-- The refusals of `reconsider_runtime`, which keep what the decision before had. -/
def keptRefusal (request : RoutingRequest) (previous : RuntimeSelectionDecision)
    (outcome : RoutingOutcome) (h : outcome ≠ .select) (reasonCode : RoutingReasonCode) :
    RuntimeSelectionDecision :=
  { refusal request outcome h [reasonCode] with
    consideredIdentities := previous.consideredIdentities
    filtered := previous.filtered
    runtimeAttemptsUsed := previous.runtimeAttemptsUsed
    fallbackAttemptsUsed := previous.fallbackAttemptsUsed }

/-- `escalation_retry`. -/
def escalationRetry (request : RoutingRequest) (previous : RuntimeSelectionDecision) :
    RoutingRequest :=
  { request with
    attemptedAdapterIds := attemptedAfter previous
    runtimeAttemptsUsed := previous.runtimeAttemptsUsed
    fallbackAttemptsUsed := previous.fallbackAttemptsUsed
    escalationReason := some ⟨"cheap_model_returned_escalation_needed".toList, by decide⟩ }

/-- `retry`: the reason to escalate is that of the request. -/
def fallbackRetry (request : RoutingRequest) (previous : RuntimeSelectionDecision) :
    RoutingRequest :=
  { request with
    attemptedAdapterIds := attemptedAfter previous
    runtimeAttemptsUsed := previous.runtimeAttemptsUsed
    fallbackAttemptsUsed := previous.fallbackAttemptsUsed + 1 }

/-- `reconsider_runtime`. -/
def reconsiderRuntime (ranking : Ranking) (request : RoutingRequest)
    (previous : RuntimeSelectionDecision) (outcome : RuntimeOutcome) :
    RuntimeSelectionDecision :=
  if outcome = .contentPolicyBlocked then
    { keptRefusal request previous .blockedPolicy nofun .contentPolicyBlockNoBypass with
      attemptedAdapterIds := attemptedAfter previous }
  else if outcome = .escalationNeeded then
    selectRuntime ranking (escalationRetry request previous)
  else if request.budget.maxFallbackAttempts = 0 then
    keptRefusal request previous .unavailable nofun .zeroFallbackAllowance
  else if request.budget.maxFallbackAttempts ≤ previous.fallbackAttemptsUsed then
    keptRefusal request previous .unavailable nofun .fallbackExhausted
  else selectRuntime ranking (fallbackRetry request previous)

end Routing
end Zest

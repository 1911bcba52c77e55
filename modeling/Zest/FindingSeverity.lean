import Mathlib.Data.Char
import Mathlib.Data.List.Lex
import Mathlib.Data.Prod.Lex
import Zest.CandidateAdmission
import Zest.Fallible
import Zest.ImpactChain
import Zest.SortByKey

/-! # The severity of a finding

A proposal is scored when the hypothesis of its candidate has passed every tier, as the
last word of the audit ledger on each tier says, and one of these says that the target is
in scope.  The score is that of the impacts that the chains of the proposal demonstrate.
The caller also says how sensitive the data is and who is affected; what follows from that
alone is clamped.
-/
namespace Zest.Severity

open CandidateAdmission (diagnosticClassification httpAuthorizationDifferentialClassification
  httpStateTransitionClassification)
open Impact (ImpactKind)
open SortByKey

/-! ## The tiers -/

inductive ValidationTier where
  | v1
  | v2
  | v3
  deriving DecidableEq, Repr

/-- `ValidationTier.value`. -/
def ValidationTier.value : ValidationTier → Text
  | .v1 => "V1".toList
  | .v2 => "V2".toList
  | .v3 => "V3".toList

/-- Every tier. -/
def validationTiers : List ValidationTier := [.v1, .v2, .v3]

/-- `ValidationTier(text)`. -/
def ValidationTier.ofText (text : Text) : Option ValidationTier :=
  validationTiers.find? fun tier => tier.value = text

inductive ValidationTierOutcome where
  | passed
  | rejected
  | inconclusive
  | queued
  deriving DecidableEq, Repr

/-- `ValidationTierOutcome.value`. -/
def ValidationTierOutcome.value : ValidationTierOutcome → Text
  | .passed => "PASSED".toList
  | .rejected => "REJECTED".toList
  | .inconclusive => "INCONCLUSIVE".toList
  | .queued => "QUEUED".toList

/-- `ValidationTierOutcome(text)`. -/
def ValidationTierOutcome.ofText (text : Text) : Option ValidationTierOutcome :=
  [.passed, .rejected, .inconclusive, .queued].find? fun outcome => outcome.value = text

inductive ValidationAdmissionOutcome where
  | admitted
  | rejectedMissingRequiredTier
  | rejectedTierNotPassed
  deriving DecidableEq, Repr

structure ValidationAdmissionDecision where
  outcome : ValidationAdmissionOutcome
  admitted : Bool
  requiredTiers : List ValidationTier
  reasonCodes : List Text
  deriving DecidableEq, Repr

/-- `_REQUIRED_CHAIN`. -/
def requiredChain : ValidationTier → List ValidationTier
  | .v1 => [.v1]
  | .v2 => [.v1, .v2]
  | .v3 => [.v1, .v2, .v3]

section Gate

variable (required : ValidationTier) (observed : ValidationTier → Option ValidationTierOutcome)

/-- The tiers that nothing is known of. -/
def missingTiers : List ValidationTier :=
  (requiredChain required).filter fun tier => observed tier = none

/-- The tiers whose outcome is another. -/
def tiersNotPassed : List ValidationTier :=
  (requiredChain required).filter fun tier => observed tier ≠ some .passed

/-- `validate_required_tiers`. -/
def validateRequiredTiers : ValidationAdmissionDecision :=
  if missingTiers required observed ≠ [] then
    ⟨.rejectedMissingRequiredTier, false, requiredChain required,
      (missingTiers required observed).map fun tier => tier.value ++ "_MISSING".toList⟩
  else if tiersNotPassed required observed ≠ [] then
    ⟨.rejectedTierNotPassed, false, requiredChain required,
      (tiersNotPassed required observed).map fun tier =>
        tier.value ++ '_' :: ((observed tier).map (·.value)).getD []⟩
  else ⟨.admitted, true, requiredChain required, ["VALIDATION_TIERS_PASSED".toList]⟩

end Gate

/-! ## The audit ledger -/

/-- A row of the ledger about a hypothesis, with what of its payload is read. -/
structure TierEvent where
  auditEventId : Text
  occurredAt : Nat
  subjectId : Text
  correlationId : Option Text
  tier : Option Text
  outcome : Option Text
  scopeState : Option Text
  scopeClassification : Option Text
  deriving DecidableEq, Repr

/-- The key that `latest_tier_events` sorts by. -/
def TierEvent.position (event : TierEvent) : Nat ×ₗ Text :=
  toLex (event.occurredAt, event.auditEventId)

/-- `ValidationTier(str(event.payload["tier"]))`. -/
def TierEvent.tierOf (event : TierEvent) : Option ValidationTier :=
  event.tier.bind ValidationTier.ofText

/-- `ValidationTierOutcome(str(event.payload["outcome"]))`. -/
def TierEvent.outcomeOf (event : TierEvent) : Option ValidationTierOutcome :=
  event.outcome.bind ValidationTierOutcome.ofText

/-- What an event says of the scope: the first of two entries that is not empty. -/
def TierEvent.scopeText (event : TierEvent) : Text :=
  match event.scopeState with
  | some (c :: rest) => c :: rest
  | _ => event.scopeClassification.getD []

structure CandidateRow where
  candidateId : Text
  researchRunId : Text
  hypothesisId : Text
  classification : Text
  deriving DecidableEq, Repr

/-- The event is about the hypothesis of the candidate, in its run, and names a tier and
an outcome. -/
def Counts (candidate : CandidateRow) (event : TierEvent) : Prop :=
  event.subjectId = candidate.hypothesisId ∧
    event.correlationId = some candidate.researchRunId ∧
    event.tierOf.isSome ∧ event.outcomeOf.isSome

instance (candidate : CandidateRow) : DecidablePred (Counts candidate) := fun _ =>
  inferInstanceAs (Decidable (_ ∧ _ ∧ _ ∧ _))

/-- `latest_tier_events`, at one tier. -/
def latestTierEvent (events : List TierEvent) (candidate : CandidateRow)
    (tier : ValidationTier) : Option TierEvent :=
  ((sortBy TierEvent.position (events.filter fun event => Counts candidate event)).filter
    fun event => event.tierOf = some tier).getLast?

inductive ScopeState where
  | inScope
  | notInScope
  deriving DecidableEq, Repr

structure ValidationAuditView where
  decision : Option ValidationAdmissionDecision
  latestEvents : ValidationTier → Option TierEvent

/-- `decision is not None and decision.admitted`. -/
def ValidationAuditView.passed (view : ValidationAuditView) : Bool :=
  (view.decision.map (·.admitted)).getD false

/-- `ValidationAuditView.scope_state`. -/
def ValidationAuditView.scopeState (view : ValidationAuditView) : ScopeState :=
  if view.passed = false then .notInScope
  else if "IN_SCOPE".toList ∈ (validationTiers.filterMap view.latestEvents).map (·.scopeText)
  then .inScope
  else .notInScope

/-- `SECURITY_CANDIDATE_REQUIRED_TIER`. -/
def securityCandidateRequiredTier (classification : Text) : Option ValidationTier :=
  if classification = httpAuthorizationDifferentialClassification then some .v3
  else if classification = httpStateTransitionClassification then some .v3
  else none

/-- `read_validation_audit_view`. -/
def readValidationAuditView (events : List TierEvent) (candidate : CandidateRow) :
    ValidationAuditView :=
  if candidate.classification = diagnosticClassification then ⟨none, fun _ => none⟩
  else match securityCandidateRequiredTier candidate.classification with
    | none =>
      ⟨some (validateRequiredTiers .v3 fun _ => none), latestTierEvent events candidate⟩
    | some required =>
      ⟨some (validateRequiredTiers required fun tier =>
        (latestTierEvent events candidate tier).bind (·.outcomeOf)),
        latestTierEvent events candidate⟩

/-! ## The score -/

inductive InternalSeverity where
  | p0
  | p1
  | p2
  | p3
  deriving DecidableEq, Repr

/-- `_SEVERITY_RANK`. -/
def InternalSeverity.rank : InternalSeverity → Nat
  | .p0 => 0
  | .p1 => 1
  | .p2 => 2
  | .p3 => 3

structure PlatformSeverityMapping where
  internal : InternalSeverity
  bugcrowdPriority : Text
  hackeroneSeverity : Text
  vrtCategory : Text
  deriving DecidableEq, Repr

/-- `_PLATFORM_MAPPING`. -/
def platformMapping : InternalSeverity → PlatformSeverityMapping
  | .p0 => ⟨.p0, "P1".toList, "Critical".toList,
      "Server Security Misconfiguration / Privilege Escalation".toList⟩
  | .p1 => ⟨.p1, "P2".toList, "High".toList, "Broken Access Control".toList⟩
  | .p2 => ⟨.p2, "P3".toList, "Medium".toList, "Sensitive Data Exposure".toList⟩
  | .p3 => ⟨.p3, "P4".toList, "Low".toList, "Low Impact Security Weakness".toList⟩

inductive SeverityError where
  | applicationError (message : String)
  | researchInputError (message : String)
  | valueError (text : Text)
  deriving DecidableEq, Repr

structure SeverityInput where
  passed : Bool
  scopeState : ScopeState
  impactKinds : List ImpactKind
  dataSensitivity : Text
  affectedScope : Text

/-- `_require_choice`, with the choices in order. -/
def requireChoice (value : Text) (field : String) (allowed : List String) :
    Except SeverityError Text :=
  if value ∈ allowed.map (·.toList) then .ok value
  else .error (.researchInputError (field ++ " must be one of ['" ++
    "', '".intercalate allowed ++ "']"))

/-- `SeverityInput`. -/
def SeverityInput.make (passed : Bool) (scopeState : ScopeState) (impactKinds : List ImpactKind)
    (dataSensitivity affectedScope : Text) : Except SeverityError SeverityInput := do
  let dataSensitivity ← requireChoice dataSensitivity "data_sensitivity"
    ["BULK_SENSITIVE", "LOW", "NONE", "SENSITIVE"]
  let affectedScope ← requireChoice affectedScope "affected_scope"
    ["ADMIN", "INFRASTRUCTURE", "MULTI_USER", "SINGLE_USER"]
  return ⟨passed, scopeState, impactKinds, dataSensitivity, affectedScope⟩

structure SeverityResult where
  severity : Option InternalSeverity
  platformMapping : Option PlatformSeverityMapping
  reasonCodes : List Text
  deriving DecidableEq, Repr

/-- A proposal that is not scored. -/
def notScored (reason : String) : SeverityResult := ⟨none, none, [reason.toList]⟩

/-- A proposal that is scored. -/
def scoredAs (severity : InternalSeverity) (reason : String) : SeverityResult :=
  ⟨some severity, some (platformMapping severity), [reason.toList]⟩

/-- `classify_severity`. -/
def classifySeverity (signal : SeverityInput) : SeverityResult :=
  if signal.passed = false then notScored "SEVERITY_REJECTED_VALIDATION_NOT_PASSED"
  else if signal.scopeState ≠ .inScope then notScored "SEVERITY_REJECTED_NOT_IN_SCOPE"
  else if signal.impactKinds = [] then scoredAs .p3 "NO_DEMONSTRATED_IMPACT"
  else if .accountTakeoverPath ∈ signal.impactKinds ∨
      signal.affectedScope ∈ ["ADMIN".toList, "INFRASTRUCTURE".toList] ∨
      signal.dataSensitivity = "BULK_SENSITIVE".toList then
    scoredAs .p0 "TERMINAL_OR_BULK_IMPACT"
  else if .authBypass ∈ signal.impactKinds ∨ .dataWrite ∈ signal.impactKinds ∨
      .stateCorruption ∈ signal.impactKinds ∨
      signal.dataSensitivity = "SENSITIVE".toList then
    scoredAs .p1 "HIGH_VALUE_AUTH_OR_WRITE_IMPACT"
  else if .dataRead ∈ signal.impactKinds then scoredAs .p2 "BOUNDED_DATA_READ_IMPACT"
  else scoredAs .p3 "LOW_OR_EXTERNAL_CALLBACK_ONLY_IMPACT"

/-- `bound_severity`. -/
def boundSeverity (demonstrated requested : SeverityResult) : SeverityResult :=
  match demonstrated.severity, requested.severity with
  | none, _ => demonstrated
  | some _, none => requested
  | some supported, some asked =>
    if asked.rank < supported.rank then
      ⟨demonstrated.severity, demonstrated.platformMapping,
        demonstrated.reasonCodes ++ ["CALLER_SEVERITY_CLAMPED".toList]⟩
    else requested

/-- `ImpactKind.value`. -/
def impactKindValue : ImpactKind → Text
  | .dataRead => "DATA_READ".toList
  | .dataWrite => "DATA_WRITE".toList
  | .authBypass => "AUTH_BYPASS".toList
  | .stateCorruption => "STATE_CORRUPTION".toList
  | .accountTakeoverPath => "ACCOUNT_TAKEOVER_PATH".toList
  | .externalCallback => "EXTERNAL_CALLBACK".toList

/-- `ImpactKind(text)`. -/
def impactKindOf (text : Text) : Except SeverityError ImpactKind :=
  match [ImpactKind.dataRead, .dataWrite, .authBypass, .stateCorruption, .accountTakeoverPath,
    .externalCallback].find? fun kind => impactKindValue kind = text with
  | some kind => .ok kind
  | none => .error (.valueError text)

structure ProposalRow where
  proposalId : Text
  candidateId : Text
  researchRunId : Text
  impactChainIds : List Text
  deriving DecidableEq, Repr

/-- What the unit of work reads. -/
structure SeverityTables where
  proposals : List ProposalRow
  candidates : List CandidateRow
  events : List TierEvent
  chainNodes : Text → List Text

/-- `_impact_kinds_for_proposal`. -/
def SeverityTables.impactKinds (tables : SeverityTables) (chainIds : List Text) :
    Except SeverityError (List ImpactKind) :=
  (chainIds.flatMap tables.chainNodes).mapM impactKindOf

structure ScoreFindingSeverityCommand where
  proposalId : Text
  dataSensitivity : Text
  affectedScope : Text
  deriving DecidableEq, Repr

/-- The audit event that a score is recorded by. -/
structure SeverityEvent where
  eventType : Text
  subjectId : Text
  correlationId : Text
  candidateId : Text
  hypothesisId : Text
  classification : Text
  validationOutcome : Option ValidationAdmissionOutcome
  scopeState : ScopeState
  impactKinds : List ImpactKind
  severity : Option InternalSeverity
  platformMapping : Option PlatformSeverityMapping
  reasonCodes : List Text
  deriving DecidableEq, Repr

/-- The event of a result. -/
def SeverityResult.event (result : SeverityResult) (proposal : ProposalRow)
    (candidate : CandidateRow) (view : ValidationAuditView) (scopeState : ScopeState)
    (impactKinds : List ImpactKind) : SeverityEvent where
  eventType :=
    if result.severity.isSome then "FINDING_SEVERITY_SCORED".toList
    else "FINDING_SEVERITY_NOT_SCORED".toList
  subjectId := proposal.proposalId
  correlationId := proposal.researchRunId
  candidateId := candidate.candidateId
  hypothesisId := candidate.hypothesisId
  classification := candidate.classification
  validationOutcome := view.decision.map (·.outcome)
  scopeState := scopeState
  impactKinds := impactKinds
  severity := result.severity
  platformMapping := result.platformMapping
  reasonCodes := result.reasonCodes

/-- What `ScoreFindingSeverity.execute` does with the rows that it has found. -/
def scoreRows (tables : SeverityTables) (command : ScoreFindingSeverityCommand)
    (proposal : ProposalRow) (candidate : CandidateRow) : Except SeverityError SeverityEvent := do
  let view := readValidationAuditView tables.events candidate
  let scopeState := if view.passed then view.scopeState else .notInScope
  let impactKinds ← tables.impactKinds proposal.impactChainIds
  let demonstrated ← SeverityInput.make view.passed scopeState impactKinds "NONE".toList
    "SINGLE_USER".toList
  let requested ← SeverityInput.make view.passed scopeState impactKinds
    command.dataSensitivity command.affectedScope
  let result := boundSeverity (classifySeverity demonstrated) (classifySeverity requested)
  return result.event proposal candidate view scopeState impactKinds

/-- `ScoreFindingSeverity.execute`: the event that it records. -/
def scoreFindingSeverity (tables : SeverityTables) (command : ScoreFindingSeverityCommand) :
    Except SeverityError SeverityEvent :=
  match tables.proposals.find? fun row => row.proposalId = command.proposalId with
  | none => .error (.applicationError "finding proposal not found")
  | some proposal =>
    match tables.candidates.find? fun row => row.candidateId = proposal.candidateId with
    | none => .error (.applicationError "finding proposal candidate not found")
    | some candidate => scoreRows tables command proposal candidate

/-! ## What the ledger says -/

section Ledger

variable {events : List TierEvent} {candidate : CandidateRow} {tier : ValidationTier}
  {event : TierEvent}

/-- The event says something of the tier. -/
def IsWord (candidate : CandidateRow) (tier : ValidationTier) (event : TierEvent) : Prop :=
  Counts candidate event ∧ event.tierOf = some tier

/-- The last that the ledger says of a tier. -/
def LastWord (events : List TierEvent) (candidate : CandidateRow) (tier : ValidationTier)
    (event : TierEvent) : Prop :=
  event ∈ events ∧ IsWord candidate tier event ∧
    ∀ other ∈ events, IsWord candidate tier other → other.position ≤ event.position

/-- The candidate is one of a security class, and every tier was passed last. -/
def Validated (events : List TierEvent) (candidate : CandidateRow) : Prop :=
  (candidate.classification = httpAuthorizationDifferentialClassification ∨
      candidate.classification = httpStateTransitionClassification) ∧
    ∀ tier, ∃ event, LastWord events candidate tier event ∧ event.outcomeOf = some .passed

/-- The last that the ledger says of some tier puts the target in scope. -/
def InScope (events : List TierEvent) (candidate : CandidateRow) : Prop :=
  ∃ tier event, LastWord events candidate tier event ∧ event.scopeText = "IN_SCOPE".toList

theorem mem_validationTiers (tier : ValidationTier) : tier ∈ validationTiers := by
  cases tier <;> decide

/-- The gate of the third tier lets through what has passed every tier. -/
theorem admitted_iff {observed : ValidationTier → Option ValidationTierOutcome} :
    (validateRequiredTiers .v3 observed).admitted = true ↔
      ∀ tier, observed tier = some .passed := by
  rw [validateRequiredTiers]
  split_ifs with hmissing hpassed
  · obtain ⟨tier, htier⟩ := List.exists_mem_of_ne_nil _ hmissing
    have hnone : observed tier = none := by simpa using List.of_mem_filter htier
    refine iff_of_false not_false fun h => ?_
    rw [h tier] at hnone
    cases hnone
  · obtain ⟨tier, htier⟩ := List.exists_mem_of_ne_nil _ hpassed
    have hne : observed tier ≠ some .passed := by simpa using List.of_mem_filter htier
    exact iff_of_false not_false fun h => hne (h tier)
  · refine iff_of_true rfl fun tier => ?_
    have hall := List.filter_eq_nil_iff.mp (not_not.mp hpassed) tier (mem_validationTiers tier)
    simpa using hall

theorem latestTierEvent_eq_some_iff (hids : (events.map (·.auditEventId)).Nodup) :
    latestTierEvent events candidate tier = some event ↔
      LastWord events candidate tier event := by
  have hmem : ∀ other, other ∈ (sortBy TierEvent.position
      (events.filter fun event => Counts candidate event)).filter
        (fun event => event.tierOf = some tier) ↔
      other ∈ events ∧ IsWord candidate tier other := by
    intro other
    simp only [List.mem_filter, mem_sortBy, decide_eq_true_eq, IsWord, and_assoc]
  have hkeys : KeysApart TierEvent.position ((sortBy TierEvent.position
      (events.filter fun event => Counts candidate event)).filter
        fun event => event.tierOf = some tier) := by
    intro a ha b hb hkey
    exact List.inj_on_of_nodup_map hids ((hmem a).mp ha).1 ((hmem b).mp hb).1
      (congrArg (fun key => (ofLex key).2) hkey)
  rw [latestTierEvent, getLast?_eq_some_iff ((pairwise_sortBy _ _).filter _) hkeys, hmem,
    LastWord, and_assoc]
  simp only [hmem, and_imp]

theorem passed_iff (hids : (events.map (·.auditEventId)).Nodup) :
    (readValidationAuditView events candidate).passed = true ↔ Validated events candidate := by
  have hauthorization : httpAuthorizationDifferentialClassification ≠ diagnosticClassification := by
    decide
  have htransition : httpStateTransitionClassification ≠ diagnosticClassification := by decide
  have hgate : (validateRequiredTiers .v3 fun tier =>
      (latestTierEvent events candidate tier).bind (·.outcomeOf)).admitted = true ↔
      ∀ tier, ∃ event, LastWord events candidate tier event ∧
        event.outcomeOf = some .passed := by
    rw [admitted_iff]
    simp only [Option.bind_eq_some_iff, latestTierEvent_eq_some_iff hids]
  rw [readValidationAuditView, Validated]
  by_cases hdiagnostic : candidate.classification = diagnosticClassification
  · rw [if_pos hdiagnostic, hdiagnostic]
    refine iff_of_false Bool.false_ne_true fun h => ?_
    rcases h.1 with h | h
    · exact hauthorization h.symm
    · exact htransition h.symm
  rw [if_neg hdiagnostic, securityCandidateRequiredTier]
  split_ifs with hfirst hsecond
  · simpa [ValidationAuditView.passed, hfirst] using hgate
  · simpa [ValidationAuditView.passed, hsecond] using hgate
  · refine iff_of_false (fun h => ?_) fun h => h.1.elim hfirst hsecond
    have hnone := admitted_iff.mp h .v1
    cases hnone

theorem scopeState_iff (hids : (events.map (·.auditEventId)).Nodup)
    (h : (readValidationAuditView events candidate).passed = true) :
    (readValidationAuditView events candidate).scopeState = .inScope ↔
      InScope events candidate := by
  have hlatest : (readValidationAuditView events candidate).latestEvents =
      latestTierEvent events candidate := by
    rw [readValidationAuditView] at h ⊢
    split_ifs at h ⊢ with hdiagnostic
    · cases h
    · split <;> rfl
  rw [ValidationAuditView.scopeState, if_neg (by simp [h]), hlatest]
  have hstated : "IN_SCOPE".toList ∈ (validationTiers.filterMap
      (latestTierEvent events candidate)).map (·.scopeText) ↔ InScope events candidate := by
    simp only [List.mem_map, List.mem_filterMap, latestTierEvent_eq_some_iff hids, InScope]
    constructor
    · rintro ⟨event, ⟨tier, -, hevent⟩, hscope⟩
      exact ⟨tier, event, hevent, hscope⟩
    · rintro ⟨tier, event, hevent, hscope⟩
      exact ⟨event, ⟨tier, mem_validationTiers tier, hevent⟩, hscope⟩
  split_ifs with hscope
  · exact iff_of_true rfl (hstated.mp hscope)
  · exact iff_of_false (fun h => by cases h) (mt hstated.mpr hscope)

end Ledger

/-! ## What the impacts say -/

/-- What a kind of impact is scored by itself. -/
def ofKind : ImpactKind → InternalSeverity
  | .accountTakeoverPath => .p0
  | .authBypass => .p1
  | .dataWrite => .p1
  | .stateCorruption => .p1
  | .dataRead => .p2
  | .externalCallback => .p3

/-- The severity is that of the most severe kind, and the least one where there is none. -/
def MostSevere (kinds : List ImpactKind) (severity : InternalSeverity) : Prop :=
  (∀ kind ∈ kinds, severity.rank ≤ (ofKind kind).rank) ∧
    (severity = .p3 ∨ ∃ kind ∈ kinds, ofKind kind = severity)

theorem rank_le (severity : InternalSeverity) : severity.rank ≤ 3 := by
  cases severity <;> decide

theorem rank_inj {a b : InternalSeverity} (h : a.rank = b.rank) : a = b := by
  cases a <;> cases b <;> first | rfl | cases h

section Classes

variable {signal : SeverityInput} {severity : InternalSeverity} {kind : ImpactKind}

/-- What is validated and in scope is scored, and nothing else. -/
theorem classifySeverity_isSome :
    (classifySeverity signal).severity.isSome = true ↔
      signal.passed = true ∧ signal.scopeState = .inScope := by
  rw [classifySeverity]
  by_cases hpassed : signal.passed = true
  · by_cases hscope : signal.scopeState = .inScope
    · rw [if_neg (by simp [hpassed]), if_neg (by simp [hscope])]
      refine iff_of_true ?_ ⟨hpassed, hscope⟩
      split_ifs <;> rfl
    · rw [if_neg (by simp [hpassed]), if_pos hscope]
      exact iff_of_false Bool.false_ne_true fun h => hscope h.2
  · rw [if_pos (by simpa using hpassed)]
    exact iff_of_false Bool.false_ne_true fun h => hpassed h.1

theorem classifySeverity_mapping :
    (classifySeverity signal).platformMapping =
      (classifySeverity signal).severity.map platformMapping := by
  rw [classifySeverity]
  split_ifs <;> rfl

/-- No kind of impact is more severe than the whole. -/
theorem le_ofKind (h : (classifySeverity signal).severity = some severity)
    (hkind : kind ∈ signal.impactKinds) : severity.rank ≤ (ofKind kind).rank := by
  rw [classifySeverity] at h
  split_ifs at h with hpassed hscope hnone hfirst hsecond hread
  · cases h
  · cases h
  · rw [hnone] at hkind
    cases hkind
  · cases h
    exact Nat.zero_le _
  · cases h
    cases kind with
    | accountTakeoverPath => exact absurd (.inl hkind) hfirst
    | _ => decide
  · cases h
    cases kind with
    | accountTakeoverPath => exact absurd (.inl hkind) hfirst
    | authBypass => exact absurd (.inl hkind) hsecond
    | dataWrite => exact absurd (.inr (.inl hkind)) hsecond
    | stateCorruption => exact absurd (.inr (.inr (.inl hkind))) hsecond
    | _ => decide
  · cases h
    cases kind with
    | accountTakeoverPath => exact absurd (.inl hkind) hfirst
    | authBypass => exact absurd (.inl hkind) hsecond
    | dataWrite => exact absurd (.inr (.inl hkind)) hsecond
    | stateCorruption => exact absurd (.inr (.inr (.inl hkind))) hsecond
    | dataRead => exact absurd hkind hread
    | externalCallback => decide

/-- Where the caller says nothing, the impacts alone decide. -/
theorem mostSevere_of_quiet (hdata : signal.dataSensitivity = "NONE".toList)
    (haffected : signal.affectedScope = "SINGLE_USER".toList)
    (h : (classifySeverity signal).severity = some severity) :
    MostSevere signal.impactKinds severity := by
  refine ⟨fun kind hkind => le_ofKind h hkind, ?_⟩
  have hscope : ¬ "SINGLE_USER".toList ∈ ["ADMIN".toList, "INFRASTRUCTURE".toList] := by decide
  have hbulk : "NONE".toList ≠ "BULK_SENSITIVE".toList := by decide
  have hsensitive : "NONE".toList ≠ "SENSITIVE".toList := by decide
  rw [classifySeverity, hdata, haffected] at h
  split_ifs at h with hpassed hstate hnone hfirst hsecond hread
  · cases h
  · cases h
  · cases h
    exact .inl rfl
  · cases h
    rcases hfirst with hkind | hkind | hkind
    · exact .inr ⟨_, hkind, rfl⟩
    · exact absurd hkind hscope
    · exact absurd hkind hbulk
  · cases h
    rcases hsecond with hkind | hkind | hkind | hkind
    · exact .inr ⟨_, hkind, rfl⟩
    · exact .inr ⟨_, hkind, rfl⟩
    · exact .inr ⟨_, hkind, rfl⟩
    · exact absurd hkind hsensitive
  · cases h
    exact .inr ⟨_, hread, rfl⟩
  · cases h
    exact .inl rfl

end Classes

/-! ## The clamp -/

section Clamp

variable {demonstrated requested : SeverityResult}

/-- What the caller asks for is at least what the impacts support, so the clamp leaves
just that. -/
theorem boundSeverity_severity
    (hscored : demonstrated.severity.isSome = true ↔ requested.severity.isSome = true)
    (hle : ∀ supported asked, demonstrated.severity = some supported →
      requested.severity = some asked → asked.rank ≤ supported.rank) :
    (boundSeverity demonstrated requested).severity = demonstrated.severity := by
  rw [boundSeverity]
  split
  · rfl
  · next hdemonstrated hrequested =>
    rw [hdemonstrated, hrequested] at hscored
    exact absurd (hscored.mp rfl) Bool.false_ne_true
  · next supported asked hdemonstrated hrequested =>
    split_ifs with hlt
    · rfl
    · have hrank := Nat.le_antisymm (hle _ _ hdemonstrated hrequested) (Nat.not_lt.mp hlt)
      rw [hdemonstrated, hrequested, rank_inj hrank]

/-- **The caller's words do not count.** -/
theorem clamped_severity {demonstrated requested : SeverityInput}
    (hpassed : requested.passed = demonstrated.passed)
    (hscope : requested.scopeState = demonstrated.scopeState)
    (hkinds : requested.impactKinds = demonstrated.impactKinds)
    (hdata : demonstrated.dataSensitivity = "NONE".toList)
    (haffected : demonstrated.affectedScope = "SINGLE_USER".toList) :
    (boundSeverity (classifySeverity demonstrated) (classifySeverity requested)).severity =
      (classifySeverity demonstrated).severity := by
  refine boundSeverity_severity ?_ fun supported asked hsupported hasked => ?_
  · rw [classifySeverity_isSome, classifySeverity_isSome, hpassed, hscope]
  · rcases (mostSevere_of_quiet hdata haffected hsupported).2 with rfl | ⟨kind, hkind, rfl⟩
    · exact rank_le asked
    · exact le_ofKind hasked (hkinds ▸ hkind)

theorem boundSeverity_mapping
    (hdemonstrated : demonstrated.platformMapping = demonstrated.severity.map platformMapping)
    (hrequested : requested.platformMapping = requested.severity.map platformMapping) :
    (boundSeverity demonstrated requested).platformMapping =
      (boundSeverity demonstrated requested).severity.map platformMapping := by
  rw [boundSeverity]
  split
  · exact hdemonstrated
  · exact hrequested
  · split_ifs
    · exact hdemonstrated
    · exact hrequested

end Clamp

section Score

variable {tables : SeverityTables} {command : ScoreFindingSeverityCommand} {event : SeverityEvent}

theorem SeverityInput.of_make {passed : Bool} {scopeState : ScopeState} {kinds : List ImpactKind}
    {dataSensitivity affectedScope : Text} {signal : SeverityInput}
    (h : SeverityInput.make passed scopeState kinds dataSensitivity affectedScope = .ok signal) :
    signal = ⟨passed, scopeState, kinds, dataSensitivity, affectedScope⟩ := by
  rw [SeverityInput.make, requireChoice, requireChoice] at h
  split_ifs at h <;> cases h
  rfl

/-- **A finding is scored what its impacts demonstrate.**  The proposal is scored exactly
when the last word of the ledger on each tier is that it was passed, and one of these puts
the target in scope; the score is that of the most severe kind of impact on its chains,
whatever the caller says of the data and of who is affected. -/
theorem severity_is_demonstrated (hids : (tables.events.map (·.auditEventId)).Nodup)
    (h : scoreFindingSeverity tables command = .ok event) :
    ∃ proposal ∈ tables.proposals, ∃ candidate ∈ tables.candidates,
      proposal.proposalId = command.proposalId ∧
      candidate.candidateId = proposal.candidateId ∧
      event.subjectId = command.proposalId ∧
      tables.impactKinds proposal.impactChainIds = .ok event.impactKinds ∧
      (event.severity.isSome = true ↔
        Validated tables.events candidate ∧ InScope tables.events candidate) ∧
      (∀ severity, event.severity = some severity → MostSevere event.impactKinds severity) ∧
      event.platformMapping = event.severity.map platformMapping := by
  rw [scoreFindingSeverity] at h
  cases hproposal : tables.proposals.find? fun row => row.proposalId = command.proposalId with
  | none =>
    rw [hproposal] at h
    cases h
  | some proposal =>
  cases hcandidate : tables.candidates.find? fun row =>
      row.candidateId = proposal.candidateId with
  | none =>
    rw [hproposal] at h
    simp only [hcandidate] at h
    cases h
  | some candidate =>
  rw [hproposal] at h
  simp only [hcandidate, scoreRows] at h
  obtain ⟨kinds, hkinds, h⟩ := bind_eq_ok h
  obtain ⟨demonstrated, hdemonstrated, h⟩ := bind_eq_ok h
  obtain ⟨requested, hrequested, h⟩ := bind_eq_ok h
  cases h
  have hsupported := SeverityInput.of_make hdemonstrated
  have hasked := SeverityInput.of_make hrequested
  have hseverity : (boundSeverity (classifySeverity demonstrated)
      (classifySeverity requested)).severity = (classifySeverity demonstrated).severity := by
    rw [hsupported, hasked]
    exact clamped_severity rfl rfl rfl rfl rfl
  have hproposalId : proposal.proposalId = command.proposalId := by
    simpa using List.find?_some hproposal
  have hcandidateId : candidate.candidateId = proposal.candidateId := by
    simpa using List.find?_some hcandidate
  refine ⟨proposal, List.mem_of_find?_eq_some hproposal, candidate,
    List.mem_of_find?_eq_some hcandidate, hproposalId, hcandidateId, hproposalId, hkinds,
    ?_, fun severity hscore => ?_,
    boundSeverity_mapping classifySeverity_mapping classifySeverity_mapping⟩
  · rw [SeverityResult.event, hseverity, classifySeverity_isSome, hsupported]
    by_cases hpassed : (readValidationAuditView tables.events candidate).passed = true
    · simp only [hpassed, if_true, true_and, scopeState_iff hids hpassed,
        (passed_iff hids).mp hpassed]
    · exact iff_of_false (fun h => hpassed h.1) fun h => hpassed ((passed_iff hids).mpr h.1)
  · rw [SeverityResult.event, hseverity] at hscore
    have hmost := mostSevere_of_quiet (by rw [hsupported]) (by rw [hsupported]) hscore
    rwa [hsupported] at hmost

end Score

/-- A hypothesis that has passed every tier. -/
def labTierEvent (auditEventId tier : String) (occurredAt : Nat) (outcome : String) :
    TierEvent :=
  ⟨auditEventId.toList, occurredAt, ['h'], some ['r'], some tier.toList, some outcome.toList,
    some "IN_SCOPE".toList, none⟩

/-- A proposal about data that can be read. -/
def labTables : SeverityTables where
  proposals := [⟨['p'], ['c'], ['r'], [['k']]⟩]
  candidates := [⟨['c'], ['r'], ['h'], httpAuthorizationDifferentialClassification⟩]
  events := [labTierEvent "d" "V3" 4 "PASSED", labTierEvent "a" "V1" 1 "PASSED",
    labTierEvent "b" "V2" 2 "PASSED", labTierEvent "c" "V3" 3 "QUEUED"]
  chainNodes _ := ["EXTERNAL_CALLBACK".toList, "DATA_READ".toList]

/-- A caller that asks for the most severe class. -/
def labCommand : ScoreFindingSeverityCommand :=
  ⟨['p'], "BULK_SENSITIVE".toList, "ADMIN".toList⟩

/-- The caller's words do not raise the score of data that can be read. -/
theorem severity_is_demonstrated_lab :
    ∃ event, scoreFindingSeverity labTables labCommand = .ok event ∧
      event.severity = some .p2 ∧ MostSevere event.impactKinds .p2 := by
  obtain ⟨event, hevent, hseverity⟩ : ∃ event,
      scoreFindingSeverity labTables labCommand = .ok event ∧ event.severity = some .p2 :=
    ⟨_, rfl, rfl⟩
  obtain ⟨_, _, _, _, _, _, _, _, _, hmost, _⟩ := severity_is_demonstrated (by decide) hevent
  exact ⟨event, hevent, hseverity, hmost _ hseverity⟩

end Zest.Severity

import Mathlib.Data.List.Perm.Basic
import Zest.ExecutionAttempts
import Zest.Orchestration

/-! # Recovery after a restart

Two functions look at the attempts of a run that a process has left behind.  One
says, attempt by attempt, what has to be done about it; the other says whether
the run may be resumed at all.  The second one goes by the first attempt in the
list that it has something to say about.
-/
namespace Zest.RuntimeRecovery

/-- The fields of an attempt that recovery reads. -/
structure RecordedAttempt where
  attemptId : Id
  state : ExecutionAttemptState
  sideEffectLevel : Fin 4
  deriving DecidableEq

/-- What the database holds of a run. -/
structure RunSnapshot where
  researchRunId : Id
  recorded : Bool
  orchestration : Option ResearchOrchestrationRecord
  attempts : List RecordedAttempt
  hypotheses : List Id
  experiments : List Id

/-! ## Reconciliation -/

inductive ReconciliationResolution where
  | safeToRetry
  | unknownOutcome
  | requireHumanReview
  | markOperationalFailure
  | noAction
  | resumeExisting
  | safeToAdvance
  | integrityError
  deriving DecidableEq, Repr

structure ReconciliationItem where
  subjectType : String
  subjectId : Id
  resolution : ReconciliationResolution
  reason : String
  deriving DecidableEq

/-- `automatic_retry_allowed`: it never is. -/
def automaticRetryAllowed (attemptState : ExecutionAttemptState) (_sideEffectLevel : Fin 4) :
    Bool :=
  match attemptState with
  | .dispatching | .unknownOutcome => false
  | _ => false

def attemptItem (attempt : RecordedAttempt) : Option ReconciliationItem :=
  match attempt.state with
  | .authorized =>
    if automaticRetryAllowed attempt.state attempt.sideEffectLevel then
      some ⟨"execution_attempt", attempt.attemptId, .safeToRetry,
        "authorized attempt never dispatched; retry policy allows it"⟩
    else if attempt.sideEffectLevel = 0 then
      some ⟨"execution_attempt", attempt.attemptId, .safeToRetry,
        "AUTHORIZED and never dispatched; level-0 may be retried after Core re-evaluation"⟩
    else
      some ⟨"execution_attempt", attempt.attemptId, .requireHumanReview,
        "AUTHORIZED side-effectful attempt was never dispatched"⟩
  | .dispatching =>
    some ⟨"execution_attempt", attempt.attemptId, .unknownOutcome,
      "DISPATCHING with unknown external result; do not blindly retry"⟩
  | .unknownOutcome =>
    some ⟨"execution_attempt", attempt.attemptId,
      if attempt.sideEffectLevel > 0 then .requireHumanReview else .unknownOutcome,
      "side-effectful UNKNOWN remains fail-closed"⟩
  | _ => none

/-- The item about the checkpoint of a run that is marked as running. -/
def runningItems (researchRunId : Id) (staleRunning : Bool)
    (orchestration : ResearchOrchestrationRecord) : List ReconciliationItem :=
  if orchestration.state = .running then
    if staleRunning then
      [⟨"research_orchestration", researchRunId, .markOperationalFailure,
        "stale RUNNING checkpoint after process restart"⟩]
    else
      [⟨"research_orchestration", researchRunId, .noAction,
        "RUNNING checkpoint is current for an in-process tick"⟩]
  else []

/-- The item about the last hypothesis, or the last experiment, of a run. -/
def checkpointItems (subjectType : String) (last : Option Id) (stored : List Id)
    (early : Bool) (missing resume : String) : List ReconciliationItem :=
  match last, stored.getLast? with
  | some id, _ => [⟨subjectType, id, .resumeExisting, resume⟩]
  | none, some id => if early then [⟨subjectType, id, .integrityError, missing⟩] else []
  | none, none => []

def hypothesisItems (orchestration : ResearchOrchestrationRecord) (hypotheses : List Id) :
    List ReconciliationItem :=
  checkpointItems "hypothesis" orchestration.lastHypothesisId hypotheses
    ([.cycleReady, .opportunitySelected].contains orchestration.currentPhase)
    "hypothesis exists without orchestration hypothesis checkpoint; records preserved"
    "resume existing hypothesis from checkpoint"

def experimentItems (orchestration : ResearchOrchestrationRecord) (experiments : List Id) :
    List ReconciliationItem :=
  checkpointItems "experiment" orchestration.lastExperimentId experiments
    ([.cycleReady, .opportunitySelected, .hypothesisAdmitted].contains orchestration.currentPhase)
    "experiment exists without orchestration experiment checkpoint; records preserved"
    "resume existing experiment from checkpoint"

def advanceItems (researchRunId : Id) (orchestration : ResearchOrchestrationRecord) :
    List ReconciliationItem :=
  if orchestration.currentPhase = .cycleComplete then
    [⟨"research_orchestration", researchRunId, .safeToAdvance,
      "cycle complete; next cycle may begin"⟩]
  else []

def orchestrationItems (s : RunSnapshot) (staleRunning : Bool) : List ReconciliationItem :=
  match s.orchestration with
  | none => []
  | some orchestration =>
    runningItems s.researchRunId staleRunning orchestration ++
      hypothesisItems orchestration s.hypotheses ++
      experimentItems orchestration s.experiments ++ advanceItems s.researchRunId orchestration

/-- `ReconcileResearchRun.execute`. -/
def reconcileResearchRun (s : RunSnapshot) (staleRunning : Bool) :
    Except String (List ReconciliationItem) :=
  if s.recorded then .ok (s.attempts.filterMap attemptItem ++ orchestrationItems s staleRunning)
  else .error "research run not found"

/-! ## Classification -/

inductive RuntimeRecoveryAction where
  | safeResume
  | safeRetryAfterReauthorization
  | reconciliationRequired
  | humanRequired
  | doNotResume
  deriving DecidableEq, Repr

structure RuntimeRecoveryDecision where
  researchRunId : Id
  action : RuntimeRecoveryAction
  reason : String
  items : List ReconciliationItem

def stateValue : OrchestrationState → String
  | .ready => "READY"
  | .running => "RUNNING"
  | .paused => "PAUSED"
  | .waitingHuman => "WAITING_HUMAN"
  | .blocked => "BLOCKED"
  | .budgetExhausted => "BUDGET_EXHAUSTED"
  | .completed => "COMPLETED"
  | .failedOperational => "FAILED_OPERATIONAL"

/-- What the loop returns at an attempt, if it returns there. -/
def attemptVerdict (attempt : RecordedAttempt) : Option (RuntimeRecoveryAction × String) :=
  match attempt.state with
  | .dispatching => some (.reconciliationRequired,
      "DISPATCHING with unknown external result; do not blindly retry")
  | .unknownOutcome =>
    if attempt.sideEffectLevel > 0 then
      some (.humanRequired, "side-effectful UNKNOWN_OUTCOME remains fail-closed")
    else
      some (.reconciliationRequired, "UNKNOWN_OUTCOME is not proof the request did not happen")
  | .authorized => some (.safeRetryAfterReauthorization,
      "AUTHORIZED attempt never dispatched; Core must re-authorize before dispatch")
  | _ => none

/-- The verdict of the loop. -/
def loopVerdict (attempts : List RecordedAttempt) : RuntimeRecoveryAction × String :=
  (attempts.findSome? attemptVerdict).getD (.safeResume,
    "durable checkpoint may resume; Worker is not replayed from RAM")

/-- `ClassifyRuntimeRecovery.execute`. -/
def classifyRuntimeRecovery (s : RunSnapshot) : Except String RuntimeRecoveryDecision :=
  if s.recorded then
    match s.orchestration with
    | none => .ok ⟨s.researchRunId, .doNotResume, "no orchestration checkpoint", []⟩
    | some orchestration =>
      -- the states that are left are READY and RUNNING
      if orchestration.state.halted then
        .ok ⟨s.researchRunId, .doNotResume, "orchestration state " ++
          stateValue orchestration.state ++ " is not auto-resumable", []⟩
      else
        (reconcileResearchRun s false).map fun items =>
          ⟨s.researchRunId, (loopVerdict s.attempts).1, (loopVerdict s.attempts).2, items⟩
  else .error "research run not found"

/-! ## What the attempts call for -/

/-- The severest of the verdicts that the attempts call for. -/
def severestVerdict (attempts : List RecordedAttempt) : RuntimeRecoveryAction :=
  if ∃ attempt ∈ attempts, attempt.state = .unknownOutcome ∧ attempt.sideEffectLevel > 0 then
    .humanRequired
  else if ∃ attempt ∈ attempts, attempt.state = .dispatching ∨ attempt.state = .unknownOutcome then
    .reconciliationRequired
  else if ∃ attempt ∈ attempts, attempt.state = .authorized then .safeRetryAfterReauthorization
  else .safeResume

/-- What an attempt calls for by itself. -/
def demanded (attempt : RecordedAttempt) : Option RuntimeRecoveryAction :=
  match attempt.state with
  | .dispatching => some .reconciliationRequired
  | .unknownOutcome =>
    some (if attempt.sideEffectLevel > 0 then .humanRequired else .reconciliationRequired)
  | .authorized => some .safeRetryAfterReauthorization
  | _ => none

/-- The action of a decision. -/
def actionOf (s : RunSnapshot) : Option RuntimeRecoveryAction :=
  (classifyRuntimeRecovery s).toOption.map (·.action)

/-- The verdict on a run is the severest one. -/
structure MostSevere (s : RunSnapshot) : Prop where
  verdict : actionOf s = some (severestVerdict s.attempts)
  order : ∀ attempts : List RecordedAttempt, attempts.Perm s.attempts →
    actionOf { s with attempts := attempts } = actionOf s
  agreed : ∀ staleRunning items, reconcileResearchRun s staleRunning = .ok items →
    actionOf s = some .safeResume ∨ actionOf s = some .safeRetryAfterReauthorization →
    ∀ item ∈ items, item.subjectType = "execution_attempt" →
      item.resolution ≠ .requireHumanReview ∧ item.resolution ≠ .unknownOutcome

/-- The attempts of which one has to be attended to call for one and the same
verdict, and what has been authorized has no side effects. -/
structure Alike (attempts : List RecordedAttempt) : Prop where
  demands : ∀ a ∈ attempts, ∀ b ∈ attempts, demanded a ≠ none → demanded b ≠ none →
    demanded a = demanded b
  harmless : ∀ a ∈ attempts, a.state = .authorized → a.sideEffectLevel = 0

section Verdicts

variable {s : RunSnapshot} {attempts : List RecordedAttempt} {attempt : RecordedAttempt}
  {action : RuntimeRecoveryAction}

theorem attemptVerdict_fst : (attemptVerdict attempt).map (·.1) = demanded attempt := by
  rw [attemptVerdict, demanded]
  cases attempt.state with
  | unknownOutcome => by_cases hlevel : attempt.sideEffectLevel > 0 <;> simp [hlevel]
  | _ => rfl

theorem loopVerdict_fst :
    (loopVerdict attempts).1 = (attempts.findSome? demanded).getD .safeResume := by
  induction attempts with
  | nil => rfl
  | cons attempt rest ih =>
    rw [loopVerdict, List.findSome?_cons, List.findSome?_cons, ← attemptVerdict_fst]
    cases attemptVerdict attempt with
    | none => exact ih
    | some verdict => rfl

/-- The action on a run that is ready or running. -/
theorem actionOf_live {record : ResearchOrchestrationRecord} (hrecorded : s.recorded = true)
    (horchestration : s.orchestration = some record) (hlive : record.state.halted = false) :
    actionOf s = some ((s.attempts.findSome? demanded).getD .safeResume) := by
  rw [actionOf, classifyRuntimeRecovery, if_pos hrecorded, horchestration]
  simp only [hlive, reconcileResearchRun, if_pos hrecorded]
  exact congrArg some loopVerdict_fst

theorem demanded_human :
    demanded attempt = some .humanRequired ↔
      attempt.state = .unknownOutcome ∧ attempt.sideEffectLevel > 0 := by
  rw [demanded]
  cases attempt.state with
  | unknownOutcome => by_cases hlevel : attempt.sideEffectLevel > 0 <;> simp [hlevel]
  | _ => simp

theorem demanded_reconciliation :
    demanded attempt = some .reconciliationRequired ↔
      attempt.state = .dispatching ∨
        attempt.state = .unknownOutcome ∧ ¬ attempt.sideEffectLevel > 0 := by
  rw [demanded]
  cases attempt.state with
  | unknownOutcome => by_cases hlevel : attempt.sideEffectLevel > 0 <;> simp [hlevel]
  | _ => simp

theorem demanded_retry :
    demanded attempt = some .safeRetryAfterReauthorization ↔ attempt.state = .authorized := by
  rw [demanded]
  cases attempt.state with
  | unknownOutcome => by_cases hlevel : attempt.sideEffectLevel > 0 <;> simp [hlevel]
  | _ => simp

theorem demanded_cases (attempt : RecordedAttempt) :
    demanded attempt = none ∨ demanded attempt = some .humanRequired ∨
      demanded attempt = some .reconciliationRequired ∨
      demanded attempt = some .safeRetryAfterReauthorization := by
  rw [demanded]
  cases attempt.state with
  | unknownOutcome => by_cases hlevel : attempt.sideEffectLevel > 0 <;> simp [hlevel]
  | _ => simp

theorem demanded_ne_none_iff :
    demanded attempt ≠ none ↔ attempt.state = .unknownOutcome ∨ attempt.state = .dispatching ∨
      attempt.state = .authorized := by
  rw [demanded]
  cases attempt.state <;> simp

/-- Where the attempts call for one verdict, the loop comes to it. -/
theorem findSome_demanded
    (hsame : ∀ a ∈ attempts, ∀ b ∈ attempts, demanded a ≠ none → demanded b ≠ none →
      demanded a = demanded b) (hmem : attempt ∈ attempts)
    (hdemanded : demanded attempt = some action) :
    attempts.findSome? demanded = some action := by
  rcases hfirst : attempts.findSome? demanded with _ | first
  · have hnone := List.findSome?_eq_none_iff.mp hfirst attempt hmem
    rw [hdemanded] at hnone
    cases hnone
  · obtain ⟨other, hother, hcalled⟩ := List.exists_of_findSome?_eq_some hfirst
    have heq := hsame attempt hmem other hother (by simp [hdemanded]) (by simp [hcalled])
    rw [← hdemanded, heq, hcalled]

theorem severestVerdict_of_none (h : ∀ a ∈ attempts, demanded a = none) :
    severestVerdict attempts = .safeResume := by
  have hstates : ∀ a ∈ attempts, ¬ (a.state = .unknownOutcome ∨ a.state = .dispatching ∨
      a.state = .authorized) := fun a ha hstate => demanded_ne_none_iff.mpr hstate (h a ha)
  rw [severestVerdict, if_neg, if_neg, if_neg]
  · rintro ⟨a, ha, hstate⟩
    exact hstates a ha (.inr (.inr hstate))
  · rintro ⟨a, ha, hstate⟩
    exact hstates a ha (hstate.elim (fun h => .inr (.inl h)) .inl)
  · rintro ⟨a, ha, hstate, -⟩
    exact hstates a ha (.inl hstate)

/-- Where the attempts call for one verdict, it is the severest one. -/
theorem severestVerdict_of_demanded (hmem : attempt ∈ attempts)
    (hsame : ∀ a ∈ attempts, demanded a ≠ none → demanded a = some action)
    (hdemanded : demanded attempt = some action) : severestVerdict attempts = action := by
  have hother : ∀ a ∈ attempts, ∀ verdict, demanded a = some verdict → verdict = action :=
    fun a ha verdict h => Option.some.inj (h.symm.trans (hsame a ha (by simp [h])))
  rw [severestVerdict]
  rcases demanded_cases attempt with hnone | hhuman | hreconcile | hretry
  · rw [hdemanded] at hnone
    cases hnone
  · rw [if_pos ⟨attempt, hmem, demanded_human.mp hhuman⟩]
    exact hother attempt hmem _ hhuman
  · have haction := hother attempt hmem _ hreconcile
    rw [if_neg, if_pos ⟨attempt, hmem, (demanded_reconciliation.mp hreconcile).imp_right And.left⟩]
    · exact haction
    · rintro ⟨a, ha, hstate⟩
      have hclash := hother a ha _ (demanded_human.mpr hstate)
      rw [← haction] at hclash
      cases hclash
  · have haction := hother attempt hmem _ hretry
    rw [if_neg, if_neg, if_pos ⟨attempt, hmem, demanded_retry.mp hretry⟩]
    · exact haction
    · rintro ⟨a, ha, hstate⟩
      rcases demanded_cases a with hnone | hhuman | hreconcile | hagain
      · exact demanded_ne_none_iff.mpr (hstate.elim (fun h => .inr (.inl h)) .inl) hnone
      · have hclash := hother a ha _ hhuman
        rw [← haction] at hclash
        cases hclash
      · have hclash := hother a ha _ hreconcile
        rw [← haction] at hclash
        cases hclash
      · rw [demanded_retry.mp hagain] at hstate
        rcases hstate with h | h <;> cases h
    · rintro ⟨a, ha, hstate⟩
      have hclash := hother a ha _ (demanded_human.mpr hstate)
      rw [← haction] at hclash
      cases hclash

/-- Where the attempts call for one verdict, the loop comes to the severest one. -/
theorem severestVerdict_of_alike
    (hsame : ∀ a ∈ attempts, ∀ b ∈ attempts, demanded a ≠ none → demanded b ≠ none →
      demanded a = demanded b) :
    (attempts.findSome? demanded).getD .safeResume = severestVerdict attempts := by
  by_cases hany : ∃ a ∈ attempts, demanded a ≠ none
  · obtain ⟨a, ha, hdemands⟩ := hany
    obtain ⟨action, haction⟩ := Option.ne_none_iff_exists'.mp hdemands
    rw [findSome_demanded hsame ha haction, Option.getD_some]
    refine (severestVerdict_of_demanded ha (fun b hb hcalled => ?_) haction).symm
    rw [hsame b hb a ha hcalled hdemands, haction]
  · have hnone : ∀ a ∈ attempts, demanded a = none :=
      fun a ha => not_not.mp fun h => hany ⟨a, ha, h⟩
    rw [List.findSome?_eq_none_iff.mpr hnone, severestVerdict_of_none hnone, Option.getD_none]

theorem severestVerdict_perm {attempts' : List RecordedAttempt} (h : attempts'.Perm attempts) :
    severestVerdict attempts' = severestVerdict attempts := by
  simp only [severestVerdict, h.mem_iff]

end Verdicts

section Agreement

variable {s : RunSnapshot} {staleRunning : Bool} {items : List ReconciliationItem}

theorem mem_checkpointItems {subjectType missing resume : String} {last : Option Id}
    {stored : List Id} {early : Bool} {item : ReconciliationItem}
    (h : item ∈ checkpointItems subjectType last stored early missing resume) :
    item.subjectType = subjectType := by
  unfold checkpointItems at h
  split at h
  · rw [List.mem_singleton.mp h]
  · split at h
    · rw [List.mem_singleton.mp h]
    · cases h
  · cases h

/-- The items of the checkpoint are about no attempt. -/
theorem mem_orchestrationItems {item : ReconciliationItem}
    (h : item ∈ orchestrationItems s staleRunning) : item.subjectType ≠ "execution_attempt" := by
  rw [orchestrationItems] at h
  rcases horchestration : s.orchestration with _ | orchestration
  · rw [horchestration] at h
    cases h
  rw [horchestration] at h
  simp only [List.mem_append] at h
  rcases h with ((h | h) | h) | h
  · rw [runningItems] at h
    split at h
    · split at h <;> simp [List.mem_singleton.mp h]
    · cases h
  · rw [mem_checkpointItems h]
    decide
  · rw [mem_checkpointItems h]
    decide
  · rw [advanceItems] at h
    split at h
    · simp [List.mem_singleton.mp h]
    · cases h

theorem items_eq (h : reconcileResearchRun s staleRunning = .ok items) :
    items = s.attempts.filterMap attemptItem ++ orchestrationItems s staleRunning := by
  rw [reconcileResearchRun] at h
  split at h
  · cases h
    rfl
  · cases h

theorem mem_attemptItems (h : reconcileResearchRun s staleRunning = .ok items)
    {item : ReconciliationItem} (hitem : item ∈ items)
    (hsubject : item.subjectType = "execution_attempt") :
    ∃ attempt ∈ s.attempts, attemptItem attempt = some item := by
  rw [items_eq h, List.mem_append] at hitem
  rcases hitem with hitem | hitem
  · exact List.mem_filterMap.mp hitem
  · exact absurd hsubject (mem_orchestrationItems hitem)

theorem attemptItem_mem (h : reconcileResearchRun s staleRunning = .ok items)
    {attempt : RecordedAttempt} (hmem : attempt ∈ s.attempts) {item : ReconciliationItem}
    (hitem : attemptItem attempt = some item) : item ∈ items := by
  rw [items_eq h]
  exact List.mem_append_left _ (List.mem_filterMap.mpr ⟨attempt, hmem, hitem⟩)

/-- The items of an attempt that may be retried or left alone. -/
theorem attemptItem_safe {attempt : RecordedAttempt} {item : ReconciliationItem}
    (hitem : attemptItem attempt = some item)
    (hharmless : attempt.state = .authorized → attempt.sideEffectLevel = 0)
    (hdemanded : demanded attempt = none ∨
      demanded attempt = some .safeRetryAfterReauthorization) :
    item.resolution ≠ .requireHumanReview ∧ item.resolution ≠ .unknownOutcome := by
  rcases hdemanded with hnone | hretry
  · have hstate := mt demanded_ne_none_iff.mpr (not_not.mpr hnone)
    rw [attemptItem] at hitem
    split at hitem
    · rename_i h
      exact absurd (.inr (.inr h)) hstate
    · rename_i h
      exact absurd (.inr (.inl h)) hstate
    · rename_i h
      exact absurd (.inl h) hstate
    · cases hitem
  · have hstate := demanded_retry.mp hretry
    rw [attemptItem, hstate] at hitem
    simp only [automaticRetryAllowed, Bool.false_eq_true, if_false, hharmless hstate,
      if_true] at hitem
    cases hitem
    exact ⟨by simp, by simp⟩

/-- An attempt that has been authorized and has side effects is left to a human. -/
theorem attemptItem_authorized {attempt : RecordedAttempt} (hstate : attempt.state = .authorized)
    (hlevel : attempt.sideEffectLevel ≠ 0) :
    ∃ item, attemptItem attempt = some item ∧ item.subjectType = "execution_attempt" ∧
      item.resolution = .requireHumanReview := by
  rw [attemptItem, hstate]
  simp only [automaticRetryAllowed, Bool.false_eq_true, if_false, if_neg hlevel]
  exact ⟨_, rfl, rfl, rfl⟩

end Agreement

/-! ## When the verdict is the severest one -/

section Severity

variable {s : RunSnapshot} {record : ResearchOrchestrationRecord}

/-- Where the verdict does not go by the order, the attempts call for one verdict. -/
theorem MostSevere.demands (hrecorded : s.recorded = true)
    (horchestration : s.orchestration = some record) (hlive : record.state.halted = false)
    (h : MostSevere s) {a : RecordedAttempt} (ha : a ∈ s.attempts) (hdemands : demanded a ≠ none) :
    actionOf s = demanded a := by
  obtain ⟨action, haction⟩ := Option.ne_none_iff_exists'.mp hdemands
  have hperm : (a :: s.attempts.erase a).Perm s.attempts := (List.perm_cons_erase ha).symm
  have hfirst := @actionOf_live { s with attempts := a :: s.attempts.erase a } record hrecorded
    horchestration hlive
  rw [← h.order _ hperm, hfirst, List.findSome?_cons, haction, Option.getD_some]

/-- **The verdict on the attempts is the severest one, in every order and in
agreement with what is said of each of them, when they all call for the same.** -/
theorem recovery_verdict_iff (s : RunSnapshot) (record : ResearchOrchestrationRecord)
    (hrecorded : s.recorded = true) (horchestration : s.orchestration = some record)
    (hlive : record.state = .ready ∨ record.state = .running) :
    MostSevere s ↔ Alike s.attempts := by
  have hhalted : record.state.halted = false := by
    rcases hlive with h | h <;> rw [h] <;> rfl
  constructor
  · intro h
    have hdemands : ∀ a ∈ s.attempts, demanded a ≠ none → actionOf s = demanded a :=
      fun a ha hcalled => h.demands hrecorded horchestration hhalted ha hcalled
    refine ⟨fun a ha b hb hcalled hcalled' => ?_, fun a ha hstate => ?_⟩
    · rw [← hdemands a ha hcalled, hdemands b hb hcalled']
    · by_contra hlevel
      have hretry := demanded_retry.mpr hstate
      have haction := hdemands a ha (by simp [hretry])
      obtain ⟨item, hitem, hsubject, hresolution⟩ := attemptItem_authorized hstate hlevel
      have hitems : reconcileResearchRun s false = .ok
          (s.attempts.filterMap attemptItem ++ orchestrationItems s false) := by
        rw [reconcileResearchRun, if_pos hrecorded]
      exact (h.agreed false _ hitems (.inr (haction.trans hretry)) item
        (attemptItem_mem hitems ha hitem) hsubject).1 hresolution
  · intro h
    have hverdict : actionOf s = some (severestVerdict s.attempts) := by
      rw [actionOf_live hrecorded horchestration hhalted, severestVerdict_of_alike h.demands]
    refine ⟨hverdict, fun attempts hperm => ?_, ?_⟩
    · have hsame : ∀ a ∈ attempts, ∀ b ∈ attempts, demanded a ≠ none → demanded b ≠ none →
          demanded a = demanded b :=
        fun a ha b hb => h.demands a (hperm.mem_iff.mp ha) b (hperm.mem_iff.mp hb)
      have hother := @actionOf_live { s with attempts := attempts } record hrecorded
        horchestration hhalted
      rw [hother, severestVerdict_of_alike hsame, severestVerdict_perm hperm, hverdict]
    · intro staleRunning items hitems hsafe item hitem hsubject
      obtain ⟨attempt, hattempt, hmade⟩ := mem_attemptItems hitems hitem hsubject
      refine attemptItem_safe hmade (h.harmless attempt hattempt) ?_
      rcases hcalled : demanded attempt with _ | action
      · exact .inl rfl
      · have haction : actionOf s = some action := by
          rw [actionOf_live hrecorded horchestration hhalted,
            findSome_demanded h.demands hattempt hcalled, Option.getD_some]
        rw [haction] at hsafe
        rcases hsafe with hresume | hretry
        · cases hresume
          rcases demanded_cases attempt with h | h | h | h <;> rw [hcalled] at h <;> cases h
        · exact .inr hretry

end Severity

/-! ## Two attempts -/

/-- The checkpoint of a run that is ready. -/
def labRecord : ResearchOrchestrationRecord where
  state := .ready
  cycleNumber := 0
  lastPhase := "start"
  currentPhase := .cycleReady
  bounds := ⟨1, 1, 1, 1, 1, 1, 1, 0, false⟩
  budgetId := 0
  lastOpportunityId := none
  lastHypothesisId := none
  lastExperimentId := none
  pauseReason := none
  stopReason := none
  activeCycleId := none
  lastAttemptId := none
  lastObservationId := none
  lastAssessmentId := none
  lastWorkerResultId := none
  ownerRuntimeInstanceId := none
  leaseEpoch := 0
  leaseExpiresAt := none

def labRun (attempts : List RecordedAttempt) : RunSnapshot where
  researchRunId := 0
  recorded := true
  orchestration := some labRecord
  attempts := attempts
  hypotheses := []
  experiments := []

theorem recovery_verdict_iff_lab :
    MostSevere (labRun [⟨1, .dispatching, 0⟩, ⟨2, .completed, 2⟩, ⟨3, .unknownOutcome, 0⟩]) := by
  refine (recovery_verdict_iff (labRun _) labRecord rfl rfl (.inl rfl)).mpr ⟨?_, ?_⟩
  · decide
  · decide

/-- An attempt that may be retried hides the one behind it that has been sent. -/
theorem dispatched_attempt_hidden :
    ¬ ∀ (s : RunSnapshot) (record : ResearchOrchestrationRecord), s.recorded = true →
      s.orchestration = some record → record.state = .ready ∨ record.state = .running →
      MostSevere s := by
  intro h
  have hsevere := h (labRun [⟨1, .authorized, 0⟩, ⟨2, .dispatching, 0⟩]) labRecord rfl rfl
    (.inl rfl)
  have hverdict := hsevere.verdict
  revert hverdict
  decide

end Zest.RuntimeRecovery

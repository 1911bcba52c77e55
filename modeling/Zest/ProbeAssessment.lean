import Zest.CandidateVerification
import Zest.ProbeReplies
import Zest.ScopeCompiler

/-! # Observations and assessments of a probe

A result of the Worker is normalised into observations, and an evaluator
assesses the plan of the experiment in their light.  The evaluators of the two
probes are the same but for their names and for the verdict on the payload of
an observation.
-/
namespace Zest.ProbeAssessment

open HttpTransaction (refuseIf refuseIf_eq_ok)
open ProbeReplies
open Verification (AssessmentOutcome)
open WorkerExecutors (WorkerStatus)

/-! ## What is handed on -/

/-- A `WorkerResult`, as far as the normalizers read it. -/
structure WorkerResult where
  status : WorkerStatus
  rawResult : JsonValue
  /-- `parse_aware_timestamp` of `completed_at or started_at`. -/
  observedAt : Except String Instant

structure ObservationDraft where
  observationKind : Text
  payload : Dict
  observedAt : Instant

/-- `ExperimentPlan`, as far as the evaluators read it. -/
structure ExperimentPlan where
  hypothesisId : Text
  evaluationStrategy : Text
  requiredCapability : Text
  arguments : Dict

structure ObservedFact where
  observationKind : Text
  payload : Dict

structure ExperimentFeedback where
  hypothesisId : Text
  evaluationStrategy : Text
  executionOutcome : Text
  observations : List ObservedFact
  invocationStatus : Option Text
  experimentExecutionState : Option Text
  attemptState : Option Text

/-- `HypothesisAssessment`, with the `reason_code` of its rationale. -/
structure HypothesisAssessment where
  outcome : AssessmentOutcome
  reasonCode : String
  deriving DecidableEq

/-- A draft as it comes back from the store. -/
def ObservationDraft.fact (draft : ObservationDraft) : ObservedFact :=
  ⟨draft.observationKind, draft.payload⟩

/-! ## Values of a payload -/

/-- `value == n`. -/
def isNumber (n : Int) : JsonValue → Bool
  | .integer m => m = n
  | .real value => value = n
  | .bool b => (if b then 1 else 0) = n
  | _ => false

/-- `value == s`. -/
def isText (s : Text) : JsonValue → Bool
  | .text t => t = s
  | _ => false

/-- `a or b`. -/
def orElse (a b : JsonValue) : JsonValue := if a.truthy then a else b

/-- `str(value or "")`; `str` is that of a value that is no text. -/
def strOr (str : JsonValue → Text) (value : JsonValue) : Text :=
  if value.truthy then
    match value with
    | .text s => s
    | value => str value
  else []

/-- `value if isinstance(value, list) else []`. -/
def listOr : JsonValue → List JsonValue
  | .array items => items
  | _ => []

theorem isText_iff {s : Text} {value : JsonValue} : isText s value = true ↔ value = .text s := by
  cases value <;> simp [isText]

@[simp] theorem isNumber_integer (n m : Int) : isNumber n (.integer m) = true ↔ m = n := by
  simp [isNumber]

theorem orElse_text {s : Text} (hs : s ≠ []) (b : JsonValue) :
    orElse (.text s) b = .text s := by
  simp [orElse, JsonValue.truthy, hs]

theorem strOr_text (str : JsonValue → Text) (s : Text) : strOr str (.text s) = s := by
  by_cases hs : s = []
  · simp [strOr, JsonValue.truthy, hs]
  · simp [strOr, JsonValue.truthy, hs]

/-- A list of texts has a text among its entries if the list of them has. -/
theorem any_isText {s : Text} {readers : List Text} :
    ((readers.map JsonValue.text).any (isText s)) = true ↔ s ∈ readers := by
  simp [isText_iff]

/-- `_optional_text`: what a member of a body is in a payload. -/
def optionalText (value : JsonValue) : JsonValue := ((cleanText value).map .text).getD .null

theorem isText_optionalText {s : Text} {value : JsonValue} :
    isText s (optionalText value) = true ↔ cleanText value = some s := by
  rw [isText_iff, optionalText]
  cases cleanText value <;> simp

theorem isSome_cleanText_optionalText (value : JsonValue) :
    (cleanText (optionalText value)).isSome = (cleanText value).isSome := by
  unfold optionalText
  cases h : cleanText value with
  | none => rfl
  | some s =>
    rw [Option.map_some, Option.getD_some, cleanText_clean h]

/-! ## The evaluators -/

/-- `UNUSABLE_EXECUTION_OUTCOMES`. -/
def unusableExecutionOutcomes : List Text :=
  ["INVOCATION_FAILED".toList, "UNKNOWN_OUTCOME".toList, "DISPATCH_DENIED".toList,
    "HUMAN_REVIEW_REQUIRED".toList, "AUTHORIZED_NOT_DISPATCHED".toList]

/-- `UNUSABLE_ATTEMPT_STATES`. -/
def unusableAttemptStates : List Text :=
  ["FAILED".toList, "TIMED_OUT".toList, "CANCELLED".toList, "UNKNOWN_OUTCOME".toList]

/-- `UNUSABLE_EXPERIMENT_STATES`. -/
def unusableExperimentStates : List Text :=
  ["EXECUTION_FAILED".toList, "BLOCKED".toList, "CANCELLED".toList, "BUDGET_EXHAUSTED".toList]

/-- The invocation statuses of `_unusable`. -/
def unusableInvocationStatuses : List Text :=
  ["TIMED_OUT".toList, "START_FAILED".toList, "PROCESS_FAILED".toList, "PROTOCOL_ERROR".toList,
    "CONTRACT_INVALID".toList, "CANCELLED".toList]

/-- `_unusable`. -/
def unusable (feedback : ExperimentFeedback) : Bool :=
  unusableExecutionOutcomes.contains feedback.executionOutcome ||
    feedback.attemptState.any unusableAttemptStates.contains ||
    feedback.experimentExecutionState.any unusableExperimentStates.contains ||
    feedback.invocationStatus.any unusableInvocationStatuses.contains

/-- An evaluator: its strategy, the capability that it assesses, the kind of its
observations, and its verdict on a payload and the arguments of the plan. -/
structure Evaluator where
  strategy : Text
  capability : Text
  observationKind : Text
  otherCapability : String
  verdict : Dict → Dict → HypothesisAssessment

/-- The first observation of the kind, if the execution is of use. -/
def Evaluator.judge (evaluator : Evaluator) (plan : ExperimentPlan)
    (feedback : ExperimentFeedback) : HypothesisAssessment :=
  if unusable feedback then ⟨.executionUnusable, "RUNTIME_UNUSABLE"⟩
  else
    match feedback.observations.filter (·.observationKind = evaluator.observationKind) with
    | [] => ⟨.inconclusive, "NO_TARGET_OBSERVATION"⟩
    | observation :: _ => evaluator.verdict observation.payload plan.arguments

/-- `evaluate`. -/
def Evaluator.evaluate (evaluator : Evaluator) (plan : ExperimentPlan)
    (feedback : ExperimentFeedback) : Except String HypothesisAssessment := do
  refuseIf (plan.evaluationStrategy ≠ evaluator.strategy)
    "plan evaluation_strategy does not match evaluator"
  refuseIf (plan.requiredCapability ≠ evaluator.capability) evaluator.otherCapability
  refuseIf (feedback.evaluationStrategy ≠ evaluator.strategy)
    "feedback evaluation_strategy does not match evaluator"
  refuseIf (plan.hypothesisId ≠ feedback.hypothesisId) "plan and feedback hypothesis_id mismatch"
  return evaluator.judge plan feedback

/-- The assessment of a result: it is normalised, and evaluated with the plan. -/
def Evaluator.assess (evaluator : Evaluator)
    (normalize : Dict → WorkerResult → Except String (List ObservationDraft))
    (arguments : Dict) (result : WorkerResult) (plan : ExperimentPlan)
    (feedback : ExperimentFeedback) : Except String HypothesisAssessment := do
  let drafts ← normalize arguments result
  evaluator.evaluate plan { feedback with observations := drafts.map ObservationDraft.fact }

/-- The plan and the feedback are the evaluator's, and the execution is of use. -/
structure Assessable (evaluator : Evaluator) (plan : ExperimentPlan)
    (feedback : ExperimentFeedback) : Prop where
  ownPlan : plan.evaluationStrategy = evaluator.strategy
  capability : plan.requiredCapability = evaluator.capability
  ownFeedback : feedback.evaluationStrategy = evaluator.strategy
  hypothesis : plan.hypothesisId = feedback.hypothesisId
  usable : unusable feedback = false

/-- The assessment says that the prediction holds. -/
def Consistent (assessment : Except String HypothesisAssessment) : Prop :=
  ∃ a, assessment = .ok a ∧ a.outcome = .consistentWithPrediction

/-- An evaluation that goes through. -/
theorem Evaluator.evaluate_eq_ok {evaluator : Evaluator} {plan : ExperimentPlan}
    {feedback : ExperimentFeedback} {a : HypothesisAssessment} :
    evaluator.evaluate plan feedback = .ok a ↔
      plan.evaluationStrategy = evaluator.strategy ∧
      plan.requiredCapability = evaluator.capability ∧
      feedback.evaluationStrategy = evaluator.strategy ∧
      plan.hypothesisId = feedback.hypothesisId ∧ evaluator.judge plan feedback = a := by
  constructor
  · intro h
    obtain ⟨_, hplan, h⟩ := bind_eq_ok h
    obtain ⟨_, hcapability, h⟩ := bind_eq_ok h
    obtain ⟨_, hfeedback, h⟩ := bind_eq_ok h
    obtain ⟨_, hhypothesis, h⟩ := bind_eq_ok h
    refine ⟨?_, ?_, ?_, ?_, Except.ok.inj h⟩
    · simpa using refuseIf_eq_ok.mp hplan
    · simpa using refuseIf_eq_ok.mp hcapability
    · simpa using refuseIf_eq_ok.mp hfeedback
    · simpa using refuseIf_eq_ok.mp hhypothesis
  · rintro ⟨hplan, hcapability, hfeedback, hhypothesis, rfl⟩
    simp [evaluate, refuseIf, hplan, hcapability, hfeedback, hhypothesis, ok_bind, pure,
      Except.pure]

/-- **An evaluation of one observation** says that the prediction holds if the
verdict on its payload does. -/
theorem Evaluator.consistent_iff (evaluator : Evaluator) (plan : ExperimentPlan)
    (feedback : ExperimentFeedback) (payload : Dict) :
    Consistent (evaluator.evaluate plan
        { feedback with observations := [⟨evaluator.observationKind, payload⟩] }) ↔
      Assessable evaluator plan feedback ∧
        (evaluator.verdict payload plan.arguments).outcome = .consistentWithPrediction := by
  have hjudge : evaluator.judge plan
      { feedback with observations := [⟨evaluator.observationKind, payload⟩] } =
        if unusable feedback then ⟨.executionUnusable, "RUNTIME_UNUSABLE"⟩
        else evaluator.verdict payload plan.arguments := by
    rw [judge, List.filter_cons_of_pos (by simp)]
    rfl
  constructor
  · rintro ⟨a, ha, houtcome⟩
    obtain ⟨hplan, hcapability, hfeedback, hhypothesis, hmade⟩ := evaluate_eq_ok.mp ha
    rw [hjudge] at hmade
    by_cases husable : unusable feedback
    · rw [if_pos husable] at hmade
      rw [← hmade] at houtcome
      cases houtcome
    · rw [if_neg husable] at hmade
      rw [← hmade] at houtcome
      exact ⟨⟨hplan, hcapability, hfeedback, hhypothesis, by simpa using husable⟩, houtcome⟩
  · rintro ⟨hassessable, houtcome⟩
    refine ⟨_, evaluate_eq_ok.mpr ⟨hassessable.ownPlan, hassessable.capability,
      hassessable.ownFeedback, hassessable.hypothesis, hjudge⟩, ?_⟩
    rw [if_neg (by simp [hassessable.usable])]
    exact houtcome

/-- **The assessment of a result that is normalised** into one observation. -/
theorem Evaluator.assess_consistent_iff (evaluator : Evaluator)
    {normalize : Dict → WorkerResult → Except String (List ObservationDraft)}
    {arguments : Dict} {result : WorkerResult} {plan : ExperimentPlan}
    {feedback : ExperimentFeedback} {draft : ObservationDraft}
    (hdrafts : normalize arguments result = .ok [draft])
    (hkind : draft.observationKind = evaluator.observationKind) :
    Consistent (evaluator.assess normalize arguments result plan feedback) ↔
      Assessable evaluator plan feedback ∧
        (evaluator.verdict draft.payload plan.arguments).outcome =
          .consistentWithPrediction := by
  rw [assess, hdrafts, ok_bind, ← evaluator.consistent_iff plan feedback draft.payload, ← hkind]
  rfl

end Zest.ProbeAssessment

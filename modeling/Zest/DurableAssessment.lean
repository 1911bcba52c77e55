import Zest.OutcomeRecording

/-! # Assessments of what the Worker has reported

An assessment is about the rows, and the rows are about the report as soon as
the recording is over.  The recording is not one transaction, though, and
nothing resumes it, so a stop halfway leaves a completed attempt without its
result.  Nothing keeps two evaluations apart either, but that each looks for an
assessment first.

`Undisturbed` is what has to be seen to from outside.  In a run that keeps to it
the recording is before its first unit of work, within it, over, or lost before
anything was written, and each evaluation finds the rows that the last one left.
-/
namespace Zest.Recording

open UnitOfWork TransitionSystem
open ProbeAssessment (ExperimentFeedback ObservedFact unusableExecutionOutcomes
  unusableAttemptStates unusableExperimentStates)
open Verification (AssessmentOutcome)

/-! ## The property -/

/-- Nothing is left to be recorded, or nobody is left to record it. -/
def System.Over (s : System) : Prop := s.alive = false ∨ s.Reported

/-- The states whose assessment is that nothing could be used. -/
def Denied (state : ExperimentExecutionState) : Prop :=
  state = .blocked ∨ state = .budgetExhausted

/-- What is stored agrees with what the Worker has reported. -/
structure Faithful (report : Report) (s : System) : Prop where
  stored : s.Over → s.rows.attemptState = .completed → report.workerResult.isSome →
    s.rows.workerResult.isSome
  kept : s.rows.attemptState = .completed → ∀ document facts,
    report.workerResult = some document → document.admitted = .ok facts →
      ∀ a ∈ s.rows.assessments, a.observations = facts
  once : s.rows.assessments.length ≤ 1
  agrees : ∀ status, s.dispatch = .done status → ∀ a ∈ s.rows.assessments,
    a.executionOutcome = (Hunt.statusValue status).toList ∨
      Denied s.rows.experimentState ∧ a.outcome = .executionUnusable

/-- The program goes no further. -/
def Finished {α : Type} (p : Prog Rows α) : Prop := p = .raise ∨ ∃ a, p = .done a

/-- The process is not stopped between its first unit of work and the end of the
recording; an evaluation starts when the recording is over, with the attempt
settled and no further authorization asked for, and when no other evaluation is
under way. -/
def Undisturbed (s : System) : Label → Prop
  | .stop => s.rows.attemptState = .dispatching ∨ s.Reported
  | .call _ => s.Over ∧ s.rows.attemptState ≠ .dispatching ∧
      s.rows.experimentState ≠ .authorizationCheck ∧
      ∀ i p, s.calls i = some p → Finished p
  | _ => True

/-! ## The recording -/

/-- The rows of a recording that is over. -/
structure Settled (report : Report) (status : ResearchLoopStatus) (rows : Rows) : Prop where
  past : rows.attemptState ≠ .dispatching
  stored : rows.attemptState = .completed → report.workerResult.isSome →
    rows.workerResult.isSome
  kept : rows.attemptState = .completed → ∀ document facts,
    report.workerResult = some document → document.admitted = .ok facts →
      rows.observations = facts
  agrees : rows.experimentState ≠ .authorizationCheck →
    deriveExecutionOutcome rows.experimentState rows.attemptState rows.observations =
        (Hunt.statusValue status).toList ∨
      Denied rows.experimentState

/-- The rows while the recording goes on, after its first unit of work. -/
def Unassessed (rows : Rows) : Prop :=
  rows.attemptState ≠ .dispatching ∧ rows.assessments = []

/-- What is recorded of an invocation that has not completed. -/
theorem settled_of_failed {report : Report} (hfailed : report.invocationStatus ≠ .completed) :
    Settled report (classifyInvocation report.outcome).2.2
      (dispatchedRows.setStates (classifyInvocation report.outcome).1
        (classifyInvocation report.outcome).2.1) := by
  obtain ⟨status, result⟩ := report
  cases status
  case completed => exact absurd rfl hfailed
  all_goals exact ⟨by rintro ⟨⟩, by rintro ⟨⟩, by rintro ⟨⟩, fun _ => Or.inl rfl⟩

/-- The states of an invocation that has completed. -/
theorem classifyInvocation_completed {report : Report}
    (hcompleted : report.invocationStatus = .completed) :
    (classifyInvocation report.outcome).1 = .completed ∧
      ((classifyInvocation report.outcome).2.1 = .authorizationCheck ∨
        Denied (classifyInvocation report.outcome).2.1 ∨
        (classifyInvocation report.outcome).2.1 = .executionSucceeded ∧
          (classifyInvocation report.outcome).2.2 = .noObservation) := by
  have hclassified : ∀ resultStatus,
      (classifyInvocation ⟨.completed, resultStatus⟩).1 = .completed ∧
        ((classifyInvocation ⟨.completed, resultStatus⟩).2.1 = .authorizationCheck ∨
          Denied (classifyInvocation ⟨.completed, resultStatus⟩).2.1 ∨
          (classifyInvocation ⟨.completed, resultStatus⟩).2.1 = .executionSucceeded ∧
            (classifyInvocation ⟨.completed, resultStatus⟩).2.2 = .noObservation) := by
    intro resultStatus
    cases resultStatus
    · exact ⟨rfl, Or.inl rfl⟩
    · exact ⟨rfl, Or.inr (Or.inl (Or.inr rfl))⟩
    · exact ⟨rfl, Or.inr (Or.inl (Or.inl rfl))⟩
    · exact ⟨rfl, Or.inr (Or.inr ⟨rfl, rfl⟩)⟩
  obtain ⟨status, result⟩ := report
  subst hcompleted
  exact hclassified _

/-- What is recorded of a result that is ingested. -/
theorem settled_of_ingested {report : Report} {document : WorkerResultDocument}
    {facts : List ObservedFact} (hcompleted : report.invocationStatus = .completed)
    (hdocument : report.workerResult = some document) (hfacts : document.admitted = .ok facts) :
    Settled report
      (statusAfterIngestion (classifyInvocation report.outcome).2.2
        (if facts.isEmpty then .noObservation else .ingested))
      { dispatchedRows.setStates (classifyInvocation report.outcome).1
          (classifyInvocation report.outcome).2.1 with
        workerResult := some document.status, observations := facts } := by
  obtain ⟨hattempt, hexperiment⟩ := classifyInvocation_completed hcompleted
  refine ⟨?_, fun _ _ => rfl, ?_, ?_⟩
  · show (classifyInvocation report.outcome).1 ≠ .dispatching
    rw [hattempt]
    decide
  · intro _ document' facts' hdocument' hfacts'
    obtain rfl : document = document' := by simpa [hdocument] using hdocument'
    simpa [hfacts] using hfacts'
  · intro hchecked
    show deriveExecutionOutcome (classifyInvocation report.outcome).2.1
      (classifyInvocation report.outcome).1 facts = _ ∨ _
    rcases hexperiment with hcheck | hdenied | ⟨hsucceeded, hstatus⟩
    · exact absurd hcheck hchecked
    · exact Or.inr hdenied
    · left
      rw [hattempt, hsucceeded, hstatus]
      by_cases hempty : facts.isEmpty = true
      · simp [deriveExecutionOutcome, statusAfterIngestion, hempty, Hunt.statusValue]
      · simp [deriveExecutionOutcome, statusAfterIngestion, hempty, Hunt.statusValue]

/-- What is recorded of a result that is rejected. -/
theorem settled_of_rejected (report : Report) :
    Settled report .invocationFailed (dispatchedRows.setStates .failed .executionFailed) := by
  refine ⟨by decide, by rintro ⟨⟩, by rintro ⟨⟩, fun _ => Or.inl (by decide)⟩

/-- What is recorded of an invocation that has completed with no result. -/
theorem settled_of_no_result {report : Report} (hcompleted : report.invocationStatus = .completed)
    (hnone : report.workerResult = none) :
    Settled report (classifyInvocation report.outcome).2.2
      (dispatchedRows.setStates (classifyInvocation report.outcome).1
        (classifyInvocation report.outcome).2.1) := by
  obtain ⟨status, result⟩ := report
  subst hcompleted hnone
  exact ⟨by decide, fun _ h => (by cases h), fun _ _ _ h => (by cases h), fun _ => Or.inl rfl⟩

/-- The first unit of work. -/
def recordStates (report : Report) : Prog Rows Unit :=
  Prog.write fun rows => rows.setStates (classifyInvocation report.outcome).1
    (classifyInvocation report.outcome).2.1

theorem recordOutcome_of_result {report : Report} {document : WorkerResultDocument}
    (hcompleted : report.invocationStatus = .completed)
    (hdocument : report.workerResult = some document) :
    recordOutcome true report =
      recordStates report >>= fun _ =>
        ingestResult document (classifyInvocation report.outcome).2.2 := by
  obtain ⟨status, result⟩ := report
  subst hcompleted hdocument
  rfl

theorem recordOutcome_of_no_result {report : Report}
    (hnone : report.invocationStatus = .completed → report.workerResult = none) :
    recordOutcome true report =
      recordStates report >>= fun _ => return (classifyInvocation report.outcome).2.2 := by
  obtain ⟨status, result⟩ := report
  cases status
  case completed =>
    obtain rfl : result = none := hnone rfl
    rfl
  all_goals rfl

/-- The ingestion, from the rows of the first unit of work. -/
theorem holds_ingestResult {report : Report} {document : WorkerResultDocument}
    (hcompleted : report.invocationStatus = .completed)
    (hdocument : report.workerResult = some document) :
    Holds Unassessed (fun status rows => Settled report status rows ∧ rows.assessments = [])
      (ingestResult document (classifyInvocation report.outcome).2.2)
      (dispatchedRows.setStates (classifyInvocation report.outcome).1
        (classifyInvocation report.outcome).2.1) := by
  have hpast : (classifyInvocation report.outcome).1 ≠ .dispatching :=
    (classifyInvocation_settled report.outcome).2
  cases hadmitted : document.admitted with
  | error reason =>
    have hingest : ∀ rows, ingest document rows = (rows, .rejectedInvalidInvocation) := by
      intro rows
      simp [ingest, hadmitted]
    refine Holds.bind ⟨by rw [hingest]; exact ⟨hpast, rfl⟩, ?_⟩
    rw [hingest]
    exact ⟨⟨by rintro ⟨⟩, rfl⟩, settled_of_rejected report, rfl⟩
  | ok facts =>
    have hingest : ingest document (dispatchedRows.setStates (classifyInvocation report.outcome).1
        (classifyInvocation report.outcome).2.1) =
        ({ dispatchedRows.setStates (classifyInvocation report.outcome).1
              (classifyInvocation report.outcome).2.1 with
            workerResult := some document.status, observations := facts },
          if facts.isEmpty then .noObservation else .ingested) := by
      simp [ingest, hadmitted, dispatchedRows, Rows.setStates]
    refine Holds.bind ⟨by rw [hingest]; exact ⟨hpast, rfl⟩, ?_⟩
    rw [hingest]
    have hkept : (if facts.isEmpty then IngestionStatus.noObservation else .ingested) ≠
        .rejectedInvalidInvocation := by
      split <;> decide
    show Holds _ _ (if _ then _ else _) _
    rw [if_neg hkept]
    exact ⟨settled_of_ingested hcompleted hdocument hadmitted, rfl⟩

/-- **The recording**, alone and from the rows of a dispatched attempt. -/
theorem holds_recordOutcome (report : Report) :
    Holds Unassessed (fun status rows => Settled report status rows ∧ rows.assessments = [])
      (recordOutcome true report) dispatchedRows := by
  have hpast : (classifyInvocation report.outcome).1 ≠ .dispatching :=
    (classifyInvocation_settled report.outcome).2
  by_cases hnone : report.invocationStatus = .completed → report.workerResult = none
  · rw [recordOutcome_of_no_result hnone]
    refine Holds.bind (holds_write ⟨hpast, rfl⟩ (holds_pure ⟨?_, rfl⟩))
    by_cases hcompleted : report.invocationStatus = .completed
    · exact settled_of_no_result hcompleted (hnone hcompleted)
    · exact settled_of_failed hcompleted
  · obtain ⟨hcompleted, hresult⟩ := Classical.not_imp.mp hnone
    obtain ⟨document, hdocument⟩ := Option.ne_none_iff_exists'.mp hresult
    rw [recordOutcome_of_result hcompleted hdocument]
    exact Holds.bind (holds_write ⟨hpast, rfl⟩ (holds_ingestResult hcompleted hdocument))

/-! ## The evaluation -/

/-- The assessment is what the rows say. -/
structure Backed (rows : Rows) (a : AssessmentRecord) : Prop where
  checked : rows.experimentState ≠ .authorizationCheck
  observations : a.observations = rows.observations
  executionOutcome : a.executionOutcome =
    deriveExecutionOutcome rows.experimentState rows.attemptState rows.observations
  denied : Denied rows.experimentState → a.outcome = .executionUnusable

/-- There is one assessment at most, and the rows say it. -/
structure Sound (rows : Rows) : Prop where
  once : rows.assessments.length ≤ 1
  backed : ∀ a ∈ rows.assessments, Backed rows a

/-- All but the assessments is the same. -/
structure SameReport (rows rows' : Rows) : Prop where
  attemptState : rows'.attemptState = rows.attemptState
  experimentState : rows'.experimentState = rows.experimentState
  workerResult : rows'.workerResult = rows.workerResult
  observations : rows'.observations = rows.observations

theorem SameReport.refl (rows : Rows) : SameReport rows rows := ⟨rfl, rfl, rfl, rfl⟩

theorem Settled.same {report : Report} {status : ResearchLoopStatus} {rows rows' : Rows}
    (h : Settled report status rows) (hsame : SameReport rows rows') :
    Settled report status rows' := by
  obtain ⟨hattempt, hexperiment, hresult, hobservations⟩ := hsame
  constructor
  · rw [hattempt]
    exact h.past
  · rw [hattempt, hresult]
    exact h.stored
  · rw [hattempt, hobservations]
    exact h.kept
  · rw [hattempt, hexperiment, hobservations]
    exact h.agrees

theorem contains_of_denied {state : ExperimentExecutionState} (hdenied : Denied state) :
    unusableExperimentStates.contains state.value = true := by
  rcases hdenied with rfl | rfl
  · decide
  · decide

/-- An experiment that was denied is assessed as unusable, whatever the
evaluator. -/
theorem evaluate_denied {evaluator : Evaluator} {feedback : ExperimentFeedback}
    {state : ExperimentExecutionState} {outcome : AssessmentOutcome} (hdenied : Denied state)
    (hstate : feedback.experimentExecutionState = some state.value)
    (houtcome : evaluator.evaluate feedback = .ok outcome) : outcome = .executionUnusable := by
  have hunusable : evaluator.unusable feedback = true := by
    simp only [Evaluator.unusable, hstate, Option.any_some, contains_of_denied hdenied,
      Bool.or_true, Bool.true_or]
  obtain ⟨_, _, hrest⟩ := bind_eq_ok houtcome
  rw [if_pos hunusable] at hrest
  exact (Except.ok.inj hrest).symm

/-- What an evaluation does at each of its queries, and at its insert. -/
def Evaluates (rows rows' : Rows) : Prop := SameReport rows rows' ∧ Sound rows'

/-- The end of an evaluation, with what it has read. -/
theorem moves_storeAssessment {evaluator : Evaluator} {feedback : ExperimentFeedback}
    {rows : Rows} (hchecked : rows.experimentState ≠ .authorizationCheck)
    (hobservations : feedback.observations = rows.observations)
    (hexecution : feedback.executionOutcome =
      deriveExecutionOutcome rows.experimentState rows.attemptState rows.observations)
    (hstate : feedback.experimentExecutionState = some rows.experimentState.value) :
    Moves Evaluates (fun _ _ => True) (storeAssessment evaluator feedback rows.assessments)
      rows := by
  cases hstored : rows.assessments with
  | cons record rest => exact trivial
  | nil =>
    rw [storeAssessment]
    cases houtcome : evaluator.evaluate feedback with
    | error message => exact trivial
    | ok outcome =>
      have hbacked : Backed rows ⟨outcome, feedback.observations, feedback.executionOutcome⟩ :=
        ⟨hchecked, hobservations, hexecution,
          fun hdenied => evaluate_denied hdenied hstate houtcome⟩
      refine ⟨⟨⟨rfl, rfl, rfl, rfl⟩, ?_, ?_⟩, trivial⟩
      · show (rows.assessments ++ [_]).length ≤ 1
        simp [hstored]
      · intro a ha
        have ha : a ∈ rows.assessments ++ [_] := ha
        rw [hstored, List.nil_append, List.mem_singleton] at ha
        subst ha
        exact ⟨hbacked.checked, hbacked.observations, hbacked.executionOutcome, hbacked.denied⟩

/-- **An evaluation** that nobody disturbs. -/
theorem moves_evaluateExperimentFeedback (evaluator : Evaluator)
    (plan : ProbeAssessment.ExperimentPlan) {rows : Rows}
    (hchecked : rows.experimentState ≠ .authorizationCheck) (hsound : Sound rows) :
    Moves Evaluates (fun _ _ => True) (evaluateExperimentFeedback evaluator plan) rows := by
  have hread : Evaluates rows rows := ⟨.refl rows, hsound⟩
  exact ⟨hread, hread, hread, hread, hread, moves_storeAssessment hchecked rfl rfl rfl⟩

/-! ## Evaluations one after another -/

theorem Finished.advance {α : Type} {p : Prog Rows α} (h : Finished p) (rows : Rows) :
    p.advance rows = (rows, p) := by
  rcases h with rfl | ⟨a, rfl⟩
  · rfl
  · rfl

/-- All evaluations are over but one, and that one finds the rows as it has left
them. -/
structure Serial (s : System) : Prop where
  sound : Sound s.rows
  calls : ∀ i p, s.calls i = some p →
    Finished p ∨
      Moves Evaluates (fun _ _ => True) p s.rows ∧
        ∀ j q, j ≠ i → s.calls j = some q → Finished q

theorem Serial.start {s : System} (hassessments : s.rows.assessments = [])
    (hnone : ∀ i, s.calls i = none) : Serial s := by
  refine ⟨⟨?_, fun a ha => ?_⟩, fun i p hp => ?_⟩
  · rw [hassessments]
    exact Nat.zero_le 1
  · rw [hassessments] at ha
    cases ha
  · rw [hnone i] at hp
    cases hp

theorem Serial.call {s : System} (h : Serial s) (evaluator : Evaluator)
    (plan : ProbeAssessment.ExperimentPlan) (i : Nat)
    (hchecked : s.rows.experimentState ≠ .authorizationCheck)
    (hfinished : ∀ j p, s.calls j = some p → Finished p) :
    Serial (s.setCall i (evaluateExperimentFeedback evaluator plan)) := by
  refine ⟨h.sound, fun j p hp => ?_⟩
  by_cases hj : j = i
  · subst hj
    obtain rfl : evaluateExperimentFeedback evaluator plan = p := by
      simpa [System.setCall] using hp
    refine Or.inr ⟨moves_evaluateExperimentFeedback evaluator plan hchecked h.sound, ?_⟩
    intro k q hk hq
    exact hfinished k q (by simpa [System.setCall, hk] using hq)
  · exact Or.inl (hfinished j p (by simpa [System.setCall, hj] using hp))

/-- One query of an evaluation, or its insert. -/
theorem Serial.evaluate {s : System} (h : Serial s) {i : Nat}
    {p : Prog Rows (Except String AssessmentRecord)} (hcall : s.calls i = some p) :
    SameReport s.rows (p.advance s.rows).1 ∧
      Serial ((s.setRows (p.advance s.rows).1).setCall i (p.advance s.rows).2) := by
  rcases h.calls i p hcall with hfinished | ⟨hmoves, hothers⟩
  · rw [hfinished.advance s.rows]
    refine ⟨.refl s.rows, h.sound, fun j q hq => ?_⟩
    have hsame : (s.setCall i p).calls = s.calls := by
      rw [System.setCall, ← hcall]
      exact Function.update_eq_self i s.calls
    have hall : ∀ k r, ((s.setRows s.rows).setCall i p).calls k = some r → s.calls k = some r := by
      intro k r hr
      rw [← hsame]
      exact hr
    rcases h.calls j q (hall j q hq) with hover | ⟨hactive, hothers⟩
    · exact Or.inl hover
    · exact Or.inr ⟨hactive, fun k r hk hr => hothers k r hk (hall k r hr)⟩
  · obtain ⟨⟨hsame, hsound⟩, hrest⟩ := hmoves.advance ⟨.refl s.rows, h.sound⟩
    refine ⟨hsame, hsound, fun j q hq => ?_⟩
    by_cases hj : j = i
    · subst hj
      obtain rfl : (p.advance s.rows).2 = q := by simpa [System.setCall] using hq
      refine Or.inr ⟨hrest, fun k r hk hr => hothers k r hk ?_⟩
      simpa [System.setCall, System.setRows, hk] using hr
    · exact Or.inl (hothers j q hj (by simpa [System.setCall, System.setRows, hj] using hq))

theorem Serial.abandon {s : System} (h : Serial s) (i : Nat) : Serial (s.setCall i .raise) := by
  refine ⟨h.sound, fun j q hq => ?_⟩
  by_cases hj : j = i
  · subst hj
    obtain rfl : Prog.raise = q := by simpa [System.setCall] using hq
    exact Or.inl (Or.inl rfl)
  · have hq : s.calls j = some q := by simpa [System.setCall, hj] using hq
    rcases h.calls j q hq with hover | ⟨hactive, hothers⟩
    · exact Or.inl hover
    · refine Or.inr ⟨hactive, fun k r hk hr => ?_⟩
      by_cases hki : k = i
      · subst hki
        obtain rfl : Prog.raise = r := by simpa [System.setCall] using hr
        exact Or.inl rfl
      · exact hothers k r hk (by simpa [System.setCall, hki] using hr)

/-! ## Runs -/

/-- How far the recording is.  It is lost if the process was stopped before the
first unit of work, and the run then resumed. -/
inductive Recorded (report : Report) (s : System) : Prop
  | before (hrows : s.rows = dispatchedRows) (hdispatch : s.dispatch = recordOutcome true report)
      (hnone : ∀ i, s.calls i = none)
  | halfway (halive : s.alive = true) (hrows : Unassessed s.rows)
      (hrest : Holds Unassessed
        (fun status rows => Settled report status rows ∧ rows.assessments = []) s.dispatch s.rows)
      (hnone : ∀ i, s.calls i = none)
  | ended (status : ResearchLoopStatus) (hdispatch : s.dispatch = .done status)
      (hsettled : Settled report status s.rows) (hserial : Serial s)
  | lost (hstopped : s.alive = false) (hdispatch : s.dispatch = recordOutcome true report)
      (hrows : s.rows.attemptState = .unknownOutcome) (hserial : Serial s)

/-- A recording that has reported is over. -/
theorem Recorded.of_reported {report : Report} {s : System} (hrows : Unassessed s.rows)
    (hrest : Holds Unassessed
      (fun status rows => Settled report status rows ∧ rows.assessments = []) s.dispatch s.rows)
    (hnone : ∀ i, s.calls i = none) (hreported : s.Reported) :
    ∃ status, s.dispatch = .done status ∧ Settled report status s.rows ∧ Serial s := by
  obtain ⟨status, hstatus⟩ := hreported
  rw [hstatus] at hrest
  exact ⟨status, hstatus, hrest.1, .start hrows.2 hnone⟩

theorem recorded_record {report : Report} {s : System} (h : Recorded report s)
    (halive : s.alive = true) :
    Recorded report
      (s.setDispatch (s.dispatch.advance s.rows).1 (s.dispatch.advance s.rows).2) := by
  cases h with
  | before hrows hdispatch hnone =>
    rw [hrows, hdispatch]
    obtain ⟨hfirst, hrest⟩ := holds_recordOutcome report
    exact .halfway halive hfirst hrest hnone
  | halfway _ hrows hrest hnone =>
    obtain ⟨hnext, hrest⟩ := hrest.advance hrows
    exact .halfway halive hnext hrest hnone
  | ended status hdispatch hsettled hserial =>
    rw [hdispatch]
    exact .ended status rfl hsettled ⟨hserial.sound, hserial.calls⟩
  | lost hstopped =>
    rw [halive] at hstopped
    cases hstopped

theorem recorded_stop {report : Report} {s : System} (h : Recorded report s)
    (hstop : s.rows.attemptState = .dispatching ∨ s.Reported) (halive : s.alive = true) :
    Recorded report { s with alive := false } := by
  cases h with
  | before hrows hdispatch hnone => exact .before hrows hdispatch hnone
  | halfway _ hrows hrest hnone =>
    have hreported : s.Reported := hstop.resolve_left hrows.1
    obtain ⟨status, hstatus, hsettled, hserial⟩ :=
      Recorded.of_reported hrows hrest hnone hreported
    exact .ended status hstatus hsettled ⟨hserial.sound, hserial.calls⟩
  | ended status hdispatch hsettled hserial =>
    exact .ended status hdispatch hsettled ⟨hserial.sound, hserial.calls⟩
  | lost hstopped =>
    rw [halive] at hstopped
    cases hstopped

/-- A process that resumes the run changes an attempt that is dispatching, and
no other. -/
theorem run_failClosedExisting (rows : Rows) :
    (failClosedExisting.run rows).2 =
      if rows.attemptState = .dispatching then { rows with attemptState := .unknownOutcome }
      else rows := by
  unfold failClosedExisting
  simp only [Prog.run]
  split
  · rfl
  · split
    · rfl
    · rfl

theorem recorded_resume {report : Report} {s : System} (h : Recorded report s)
    (hstopped : s.alive = false) :
    Recorded report (s.setRows (failClosedExisting.run s.rows).2) := by
  rw [run_failClosedExisting]
  cases h with
  | before hrows hdispatch hnone =>
    rw [hrows, if_pos (show dispatchedRows.attemptState = .dispatching from rfl)]
    exact .lost hstopped hdispatch rfl (.start rfl hnone)
  | halfway halive =>
    rw [halive] at hstopped
    cases hstopped
  | ended status hdispatch hsettled hserial =>
    rw [if_neg hsettled.past]
    exact .ended status hdispatch hsettled ⟨hserial.sound, hserial.calls⟩
  | lost _ hdispatch hrows hserial =>
    rw [if_neg (by rw [hrows]; decide)]
    exact .lost hstopped hdispatch hrows ⟨hserial.sound, hserial.calls⟩

theorem recorded_call {report : Report} {evaluator : Evaluator}
    {plan : ProbeAssessment.ExperimentPlan} {s : System} {i : Nat} (h : Recorded report s)
    (hguard : Undisturbed s (.call i)) :
    Recorded report (s.setCall i (evaluateExperimentFeedback evaluator plan)) := by
  obtain ⟨hover, hsettled, hchecked, hfinished⟩ := hguard
  cases h with
  | before hrows =>
    rw [hrows] at hsettled
    exact absurd rfl hsettled
  | halfway halive hrows hrest hnone =>
    have hreported : s.Reported := hover.resolve_left (by rw [halive]; decide)
    obtain ⟨status, hstatus, hsettled, hserial⟩ :=
      Recorded.of_reported hrows hrest hnone hreported
    exact .ended status hstatus hsettled (hserial.call evaluator plan i hchecked hfinished)
  | ended status hdispatch hsettled hserial =>
    exact .ended status hdispatch hsettled (hserial.call evaluator plan i hchecked hfinished)
  | lost hstopped hdispatch hrows hserial =>
    exact .lost hstopped hdispatch hrows (hserial.call evaluator plan i hchecked hfinished)

theorem recorded_evaluate {report : Report} {s : System} {i : Nat}
    {p : Prog Rows (Except String AssessmentRecord)} (h : Recorded report s)
    (hcall : s.calls i = some p) :
    Recorded report ((s.setRows (p.advance s.rows).1).setCall i (p.advance s.rows).2) := by
  cases h with
  | before _ _ hnone =>
    rw [hnone i] at hcall
    cases hcall
  | halfway _ _ _ hnone =>
    rw [hnone i] at hcall
    cases hcall
  | ended status hdispatch hsettled hserial =>
    obtain ⟨hsame, hserial⟩ := hserial.evaluate hcall
    exact .ended status hdispatch (hsettled.same hsame) hserial
  | lost hstopped hdispatch hrows hserial =>
    obtain ⟨hsame, hserial⟩ := hserial.evaluate hcall
    exact .lost hstopped hdispatch (hsame.attemptState.trans hrows) hserial

theorem recorded_abandon {report : Report} {s : System} {i : Nat}
    {p : Prog Rows (Except String AssessmentRecord)} (h : Recorded report s)
    (hcall : s.calls i = some p) : Recorded report (s.setCall i .raise) := by
  cases h with
  | before _ _ hnone =>
    rw [hnone i] at hcall
    cases hcall
  | halfway _ _ _ hnone =>
    rw [hnone i] at hcall
    cases hcall
  | ended status hdispatch hsettled hserial =>
    exact .ended status hdispatch hsettled (hserial.abandon i)
  | lost hstopped hdispatch hrows hserial =>
    exact .lost hstopped hdispatch hrows (hserial.abandon i)

/-- **One step.** -/
theorem Recorded.step {report : Report} {evaluator : Evaluator}
    {plan : ProbeAssessment.ExperimentPlan} {s t : System} {label : Label}
    (hstep : Guarded (Step evaluator plan) Undisturbed s label t) (h : Recorded report s) :
    Recorded report t := by
  obtain ⟨hstep, hguard⟩ := hstep
  cases hstep with
  | record halive => exact recorded_record h halive
  | stop halive => exact recorded_stop h hguard halive
  | resume hstopped => exact recorded_resume h hstopped
  | call i => exact recorded_call h hguard
  | evaluate i hcall => exact recorded_evaluate h hcall
  | abandon i hcall => exact recorded_abandon h hcall

/-- Nothing is assessed before the recording is over. -/
theorem faithful_of_unassessed {report : Report} {s : System}
    (hassessments : s.rows.assessments = [])
    (hstored : s.Over → s.rows.attemptState = .completed → report.workerResult.isSome →
      s.rows.workerResult.isSome) : Faithful report s := by
  refine ⟨hstored, ?_, ?_, ?_⟩
  · intro _ document facts _ _ a ha
    rw [hassessments] at ha
    cases ha
  · rw [hassessments]
    exact Nat.zero_le 1
  · intro status _ a ha
    rw [hassessments] at ha
    cases ha

theorem Recorded.faithful {report : Report} {s : System} (h : Recorded report s) :
    Faithful report s := by
  cases h with
  | before hrows _ hnone =>
    refine faithful_of_unassessed (by rw [hrows]; rfl) fun _ hcompleted => ?_
    rw [hrows] at hcompleted
    cases hcompleted
  | halfway halive hrows hrest hnone =>
    refine faithful_of_unassessed hrows.2 fun hover => ?_
    have hreported : s.Reported := hover.resolve_left (by rw [halive]; decide)
    obtain ⟨_, _, hsettled, _⟩ := Recorded.of_reported hrows hrest hnone hreported
    exact hsettled.stored
  | ended status hdispatch hsettled hserial =>
    refine ⟨fun _ => hsettled.stored, ?_, hserial.sound.once, ?_⟩
    · intro hcompleted document facts hdocument hfacts a ha
      rw [(hserial.sound.backed a ha).observations]
      exact hsettled.kept hcompleted document facts hdocument hfacts
    · intro status' hstatus a ha
      obtain rfl : status = status' := by
        rw [hdispatch] at hstatus
        cases hstatus
        rfl
      have hbacked := hserial.sound.backed a ha
      rcases hsettled.agrees hbacked.checked with hagrees | hdenied
      · exact Or.inl (hbacked.executionOutcome.trans hagrees)
      · exact Or.inr ⟨hdenied, hbacked.denied hdenied⟩
  | lost _ hdispatch hrows hserial =>
    refine ⟨fun _ hcompleted => ?_, fun hcompleted => ?_, hserial.sound.once, ?_⟩
    · rw [hrows] at hcompleted
      cases hcompleted
    · rw [hrows] at hcompleted
      cases hcompleted
    · intro status hstatus
      rw [hdispatch] at hstatus
      cases hstatus

/-- **Assessments agree with the report** in every run in which the recording is
not stopped halfway and evaluations come after it, one at a time. -/
theorem assessments_faithful (evaluator : Evaluator) (plan : ProbeAssessment.ExperimentPlan)
    (report : Report) {labels : List Label} {s : System}
    (hrun : Run (Guarded (Step evaluator plan) Undisturbed) (initial true report) labels s) :
    Faithful report s := by
  have hrecorded : Recorded report s :=
    hrun.invariant (fun _ _ _ hstep h => h.step hstep) (.before rfl rfl fun _ => rfl)
  exact hrecorded.faithful

/-- An evaluator whose prediction holds as soon as something is observed. -/
def observing : Evaluator where
  check _ := .ok ()
  readsInvocation := true
  verdict feedback :=
    .ok (if feedback.observations.isEmpty then .inconclusive else .consistentWithPrediction)

/-- A plan for `observing`. -/
def observingPlan : ProbeAssessment.ExperimentPlan :=
  ⟨"h1".toList, "OBSERVING".toList, "echo".toList, []⟩

/-- A Worker that has succeeded, with one observation. -/
def observed : Report :=
  ⟨.completed, some ⟨"SUCCEEDED".toList, .ok [⟨"echo".toList, []⟩]⟩⟩

/-- A Worker that asks for another authorization, and has observed nothing. -/
def asking : Report := ⟨.completed, some ⟨"REAUTHORIZATION_REQUIRED".toList, .ok []⟩⟩

/-- The recording and one evaluation, one after the other. -/
theorem run_observed :
    ∃ labels s, Run (Guarded (Step observing observingPlan) Undisturbed) (initial true observed)
      labels s ∧ s.rows.assessments.length = 1 := by
  have hrecorded : Run (Guarded (Step observing observingPlan) Undisturbed)
      (initial true observed) _ _ :=
    ((Run.nil _).snoc ⟨.record rfl, trivial⟩).snoc ⟨.record rfl, trivial⟩
  have hcalled := Run.snoc (e := Label.call 0) hrecorded
    ⟨Step.call 0 rfl, Or.inr ⟨_, rfl⟩, by decide, by decide, fun _ _ hp => by cases hp⟩
  exact ⟨_, _, (((((hcalled.snoc ⟨.evaluate 0 rfl, trivial⟩).snoc
    ⟨.evaluate 0 rfl, trivial⟩).snoc ⟨.evaluate 0 rfl, trivial⟩).snoc
    ⟨.evaluate 0 rfl, trivial⟩).snoc ⟨.evaluate 0 rfl, trivial⟩).snoc
    ⟨.evaluate 0 rfl, trivial⟩, rfl⟩

theorem assessments_faithful_observed :
    ∃ labels s, Run (Guarded (Step observing observingPlan) Undisturbed) (initial true observed)
      labels s ∧ Faithful observed s ∧ s.rows.assessments.length = 1 := by
  obtain ⟨labels, s, hrun, hlength⟩ := run_observed
  exact ⟨labels, s, hrun, assessments_faithful observing observingPlan observed hrun, hlength⟩

/-- Stopped between the first unit of work and the second, the recording is not
taken up again, and the experiment is assessed as if nothing had been observed.
Two evaluations at a time store two assessments.  An experiment that has asked
for another authorization is assessed under an outcome that nobody has
reported. -/
theorem assessments_unfaithful :
    (∃ labels s, Run (Step observing observingPlan) (initial true observed) labels s ∧
      labels = [.record, .stop, .resume] ++ .call 0 :: List.replicate 6 (.evaluate 0) ∧
      s.rows.attemptState = .completed ∧ s.rows.workerResult = none ∧
      (failClosedExisting.run s.rows).2 = s.rows ∧
      s.rows.assessments = [⟨.inconclusive, [], "NO_OBSERVATION".toList⟩] ∧
      ¬ Faithful observed s) ∧
    (∃ labels s, Run (Step observing observingPlan) (initial true observed) labels s ∧
      s.Reported ∧ s.rows.assessments.length = 2 ∧ ¬ Faithful observed s) ∧
    ∃ labels s, Run (Step observing observingPlan) (initial true asking) labels s ∧
      s.dispatch = .done .reauthorizationRequired ∧
      s.rows.assessments.map AssessmentRecord.executionOutcome =
        ["AUTHORIZATION_CHECK".toList] ∧
      ¬ Faithful asking s := by
  refine ⟨?_, ?_, ?_⟩
  · have hstopped : Run (Step observing observingPlan) (initial true observed) _ _ :=
      (((Run.nil _).snoc (.record rfl)).snoc (.stop rfl)).snoc (.resume rfl)
    exact ⟨_, _, ((((((hstopped.snoc (.call 0 rfl)).snoc (.evaluate 0 rfl)).snoc
      (.evaluate 0 rfl)).snoc (.evaluate 0 rfl)).snoc (.evaluate 0 rfl)).snoc
      (.evaluate 0 rfl)).snoc (.evaluate 0 rfl), rfl, rfl, rfl, rfl, rfl,
      fun h => Bool.false_ne_true (h.stored (Or.inl rfl) rfl rfl)⟩
  · have hrecorded : Run (Step observing observingPlan) (initial true observed) _ _ :=
      ((Run.nil _).snoc (.record rfl)).snoc (.record rfl)
    have hread : Run (Step observing observingPlan) (initial true observed) _ _ :=
      (((((hrecorded.snoc (.call 0 rfl)).snoc (.evaluate 0 rfl)).snoc (.evaluate 0 rfl)).snoc
        (.evaluate 0 rfl)).snoc (.evaluate 0 rfl)).snoc (.evaluate 0 rfl)
    have hother : Run (Step observing observingPlan) (initial true observed) _ _ :=
      (((((hread.snoc (.call 1 rfl)).snoc (.evaluate 1 rfl)).snoc (.evaluate 1 rfl)).snoc
        (.evaluate 1 rfl)).snoc (.evaluate 1 rfl)).snoc (.evaluate 1 rfl)
    exact ⟨_, _, (hother.snoc (.evaluate 0 rfl)).snoc (.evaluate 1 rfl), ⟨_, rfl⟩, rfl,
      fun h => Nat.not_succ_le_self 1 h.once⟩
  · have hrecorded : Run (Step observing observingPlan) (initial true asking) _ _ :=
      ((Run.nil _).snoc (.record rfl)).snoc (.record rfl)
    refine ⟨_, _, ((((((hrecorded.snoc (.call 0 rfl)).snoc (.evaluate 0 rfl)).snoc
      (.evaluate 0 rfl)).snoc (.evaluate 0 rfl)).snoc (.evaluate 0 rfl)).snoc
      (.evaluate 0 rfl)).snoc (.evaluate 0 rfl), rfl, rfl, fun h => ?_⟩
    have hassessed := h.agrees .reauthorizationRequired rfl
      ⟨.inconclusive, [], "AUTHORIZATION_CHECK".toList⟩ List.mem_cons_self
    rcases hassessed with houtcome | ⟨hdenied | hdenied, _⟩
    · exact absurd houtcome (by decide)
    · cases hdenied
    · cases hdenied

end Zest.Recording

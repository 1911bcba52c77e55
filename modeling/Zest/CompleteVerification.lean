import Mathlib.Data.List.Sort
import Zest.CandidateVerification
import Zest.ExecutionAttempts
import Zest.WorkerRequest

/-! # Completing the verification of a candidate

The use case reads the candidate, its evidence and the reproduction from the
database, lets the verifier of the candidate's class decide, and records the
verdict together with the new state of the candidate.

The evidence that the reproduction is compared with is the first one of the
candidate.  `execute_validated` says what is checked before a candidate is
validated, and `noSelfValidation_iff` what has to be known besides for the
reproduction to have nothing in common with any of the candidate's evidence.
-/
namespace Zest.Verification

structure CandidateRecord where
  candidateId : Id
  researchRunId : Id
  claim : Text
  classification : Classification
  state : CandidateState
  evidenceIds : List Id

structure EvidenceRecord where
  evidenceId : Id
  researchRunId : Id
  experimentId : Id
  polarity : EvidencePolarity
  claimScope : ClaimScope
  observationIds : List Id

structure ExperimentRecord where
  experimentId : Id
  researchRunId : Id
  executionState : ExperimentExecutionState

structure ExecutionAttemptRecord where
  requestId : Id
  experimentId : Id
  state : ExecutionAttemptState

/-- The statuses of a Worker result. -/
inductive WorkerStatus where
  | succeeded
  | executionFailed
  | blocked
  | cancelled
  | timedOut
  | budgetExhausted
  | reauthorizationRequired
  deriving DecidableEq, Repr

structure WorkerResultRecord where
  workerResultId : Id
  experimentId : Id
  requestId : Id
  status : WorkerStatus

inductive ObservationKind where
  | httpAuthorizationDifferential
  | httpStateTransitionAuthorization
  | other (kind : Text)
  deriving DecidableEq

structure ObservationRecord where
  observationId : Id
  workerResultId : Id
  observationKind : ObservationKind
  payload : Payload

structure AssessmentRecord where
  assessmentId : Id
  experimentId : Id
  assessmentOutcome : AssessmentOutcome

structure VerificationRecord where
  verificationId : Id
  candidateId : Id
  researchRunId : Id
  result : VerificationResult

/-- The tables that a verification reads and writes, with the constraints of the
schema that it relies on.  Rows are in the order in which a scan finds them. -/
structure Database where
  candidates : List CandidateRecord
  evidence : List EvidenceRecord
  experiments : List ExperimentRecord
  executionAttempts : List ExecutionAttemptRecord
  workerResults : List WorkerResultRecord
  observations : List ObservationRecord
  hypothesisAssessments : List AssessmentRecord
  verifications : List VerificationRecord
  evidenceKey : ∀ e ∈ evidence, ∀ f ∈ evidence, e.evidenceId = f.evidenceId → e = f
  experimentKey : ∀ x ∈ experiments, ∀ y ∈ experiments, x.experimentId = y.experimentId → x = y
  /-- `fk_evidence_experiment_same_run`. -/
  evidenceExperimentSameRun : ∀ e ∈ evidence, ∃ x ∈ experiments,
    x.experimentId = e.experimentId ∧ x.researchRunId = e.researchRunId

/-- Rows by a column that they are ordered by. -/
def orderedBy {α : Type} (key : α → Id) (rows : List α) : List α :=
  rows.insertionSort fun r s => key r ≤ key s

namespace Database

variable (db : Database)

def candidate (candidateId : Id) : Option CandidateRecord :=
  db.candidates.find? (·.candidateId = candidateId)

def getEvidence (evidenceId : Id) : Option EvidenceRecord :=
  db.evidence.find? (·.evidenceId = evidenceId)

def experiment (experimentId : Id) : Option ExperimentRecord :=
  db.experiments.find? (·.experimentId = experimentId)

/-! The rows of one experiment, as `list_for_experiment` of each table has
them. -/

def evidenceOf (experimentId : Id) : List EvidenceRecord :=
  orderedBy (·.evidenceId) (db.evidence.filter (·.experimentId = experimentId))

def attemptsOf (experimentId : Id) : List ExecutionAttemptRecord :=
  db.executionAttempts.filter (·.experimentId = experimentId)

def resultsOf (experimentId : Id) : List WorkerResultRecord :=
  orderedBy (·.workerResultId) (db.workerResults.filter (·.experimentId = experimentId))

def observationsOf (experimentId : Id) : List ObservationRecord :=
  orderedBy (·.observationId) <| db.observations.filter fun o =>
    db.workerResults.any fun r =>
      r.workerResultId = o.workerResultId ∧ r.experimentId = experimentId

def assessmentsOf (experimentId : Id) : List AssessmentRecord :=
  orderedBy (·.assessmentId) (db.hypothesisAssessments.filter (·.experimentId = experimentId))

/-- `verifications.list_for_candidate`. -/
def verificationsOf (candidateId : Id) : List VerificationRecord :=
  orderedBy (·.verificationId) (db.verifications.filter (·.candidateId = candidateId))

/-- The request of an experiment. -/
def requestOf (experimentId : Id) : Option Id :=
  ((db.attemptsOf experimentId).head?.map (·.requestId)).or
    ((db.resultsOf experimentId).head?.map (·.requestId))

end Database

/-- `_observation_facts`. -/
def observationFacts (observations : List ObservationRecord) (observationIds : List Id) : Payload :=
  ((observations.find? fun o =>
    observationIds.contains o.observationId &&
      (o.observationKind = .httpAuthorizationDifferential ||
        o.observationKind = .httpStateTransitionAuthorization)).map (·.payload)).getD []

/-- `_echoed_value`. -/
def echoedValue (observations : List ObservationRecord) (observationIds : List Id) : Option Text :=
  observations.findSome? fun o =>
    if observationIds.contains o.observationId && isNonblank (get o.payload "echoed") then
      textOf (get o.payload "echoed")
    else none

/-- `FORBIDDEN_VERIFICATION_KEYS`. -/
def forbiddenVerificationKeys : List String :=
  ["severity", "cvss", "finding", "finding_proposal", "exploitability", "authorization",
    "confidence"]

namespace Database

variable (db : Database)

/-- `_evidence_ref`. -/
def evidenceRef (e : EvidenceRecord) : Except String EvidenceRef :=
  match db.requestOf e.experimentId with
  | none => .error "cannot resolve request_id for Evidence experiment"
  | some requestId =>
    let facts := observationFacts (db.observationsOf e.experimentId) e.observationIds
    if forbiddenVerificationKeys.any fun key => (get facts key).isSome then
      .error "observed_facts must not contain a forbidden key"
    else
      .ok {
        evidenceId := e.evidenceId
        researchRunId := e.researchRunId
        experimentId := e.experimentId
        requestId := requestId
        observationIds := e.observationIds
        polarity := e.polarity
        claimScope := e.claimScope
        observedEcho :=
          (echoedValue (db.observationsOf e.experimentId) e.observationIds).map Text.strip
        observedFacts := if facts.isEmpty then none else some facts }

/-- `_originating_evidence`. -/
def originatingEvidence (evidenceIds : List Id) : Except String EvidenceRecord :=
  match evidenceIds with
  | [] => .error "candidate has no originating Evidence"
  | evidenceId :: _ =>
    match db.getEvidence evidenceId with
    | none => .error "originating Evidence not found"
    | some e => .ok e

/-- The first evidence of an experiment, if it has any. -/
def firstEvidence (experimentId : Id) : Except String (Option EvidenceRef) :=
  match (db.evidenceOf experimentId).head? with
  | none => .ok none
  | some e => (db.evidenceRef e).map some

/-- The evidence of the negative control, if one was executed. -/
def negativeControl : Option Id → Except String (Option EvidenceRef)
  | none => .ok none
  | some experimentId => db.firstEvidence experimentId

/-- `_execution_unusable`. -/
def executionUnusable (experiment : ExperimentRecord) : Bool :=
  [.executionFailed, .blocked, .cancelled, .budgetExhausted].contains experiment.executionState ||
    (db.attemptsOf experiment.experimentId).head?.any (fun attempt =>
      [.failed, .timedOut, .cancelled, .unknownOutcome].contains attempt.state) ||
    (db.resultsOf experiment.experimentId).head?.any (fun result =>
      [.executionFailed, .timedOut, .cancelled].contains result.status)

end Database

structure CompleteCandidateVerificationCommand where
  candidateId : Id
  reproductionExperimentId : Option Id
  negativeControlExperimentId : Option Id
  authoritativeOutOfScope : Bool
  duplicateOfCandidateId : Option Id

structure CompleteCandidateVerificationResult where
  candidateId : Id
  verificationId : Id
  outcome : VerificationOutcome
  state : CandidateState
  reasonCodes : List String

/-- What is read of the reproduction. -/
structure Reproduction where
  evidence : Option EvidenceRef
  unusable : Bool
  assessmentOutcome : Option AssessmentOutcome
  experimentId : Option Id
  requestId : Option Id
  observationIds : List Id

def Database.reproduction (db : Database) (candidate : CandidateRecord) :
    Option Id → Except String Reproduction
  | none => .ok ⟨none, false, none, none, none, []⟩
  | some experimentId =>
    match db.experiment experimentId with
    | none => .error "reproduction experiment not found"
    | some experiment =>
      if experiment.researchRunId ≠ candidate.researchRunId then
        .error "reproduction experiment is not in this research run"
      else
        (db.firstEvidence experimentId).map fun evidence => {
          evidence := evidence
          unusable := db.executionUnusable experiment
          assessmentOutcome := (db.assessmentsOf experimentId).getLast?.map (·.assessmentOutcome)
          experimentId := some experiment.experimentId
          requestId := db.requestOf experimentId
          observationIds := (db.observationsOf experimentId).map (·.observationId) }

/-- The strategy that verifies candidates of a class. -/
def Classification.strategy : Classification → VerificationStrategy
  | .httpAuthorizationDifferential => .httpAuthorizationDifferentialReproduction
  | .httpStateTransitionAuthorization => .httpStateTransitionReproduction
  | .diagnosticPlumbing => .diagnosticEchoReproduction

/-- The verifier of a class. -/
def Classification.evaluate :
    Classification → VerificationContext → Except String VerificationResult
  | .httpAuthorizationDifferential => evaluateAuthorizationDifferentialVerification
  | .httpStateTransitionAuthorization => evaluateStateTransitionVerification
  | .diagnosticPlumbing => evaluateDiagnosticVerification

namespace Database

variable (db : Database)

/-- The inputs of the verifier. -/
def verificationContext (command : CompleteCandidateVerificationCommand)
    (candidate : CandidateRecord) : Except String VerificationContext := do
  let original ← db.originatingEvidence candidate.evidenceIds
  let originalRef ← db.evidenceRef original
  let reproduction ← db.reproduction candidate command.reproductionExperimentId
  let control ← db.negativeControl command.negativeControlExperimentId
  if candidate.claim.strip = [] then .error "claim must be a non-empty string" else .ok {
    candidateId := candidate.candidateId
    candidateState := candidate.state
    researchRunId := candidate.researchRunId
    plan := planVerification candidate.classification.strategy candidate.candidateId
      candidate.evidenceIds
    originalEvidence := originalRef
    reproductionEvidence := reproduction.evidence
    negativeControlEvidence := control
    reproductionExecutionUnusable := reproduction.unusable
    authoritativeOutOfScope := command.authoritativeOutOfScope
    duplicateOfCandidateId := command.duplicateOfCandidateId
    knownDuplicateExists := (command.duplicateOfCandidateId.bind db.candidate).isSome
    reproductionAssessmentOutcome := reproduction.assessmentOutcome
    reproductionExperimentId := reproduction.experimentId
    reproductionRequestId := reproduction.requestId
    reproductionObservationIds := reproduction.observationIds }

/-- `verifications.insert`: a candidate has at most one
(`uq_verification_candidate`). -/
def insertVerification (record : VerificationRecord) : Option Database :=
  if db.verifications.any (·.candidateId = record.candidateId) then none
  else some { db with verifications := db.verifications ++ [record] }

/-- `candidates.set_state`. -/
def setState (candidateId : Id) (state : CandidateState) : Database :=
  { db with
    candidates := db.candidates.map fun c =>
      if c.candidateId = candidateId then { c with state := state } else c }

/-- The answer for a verification that is there already. -/
def alreadyRecorded (candidateId : Id) : Except String CompleteCandidateVerificationResult :=
  match db.candidate candidateId with
  | none => .error "candidate not found"
  | some candidate =>
    match (db.verificationsOf candidateId).getLast? with
    | none => .error "verification uniqueness conflict but no Verification exists"
    | some record =>
      .ok ⟨candidateId, record.verificationId, record.result.outcome, candidate.state,
        ["VERIFICATION_ALREADY_RECORDED"]⟩

/-- `CompleteCandidateVerification.execute`. -/
def execute (command : CompleteCandidateVerificationCommand) (verificationId : Id) :
    Except String (Database × CompleteCandidateVerificationResult) :=
  match db.candidate command.candidateId with
  | none => .error "candidate not found"
  | some candidate =>
    if !(db.verificationsOf command.candidateId).isEmpty then
      (db.alreadyRecorded command.candidateId).map fun answer => (db, answer)
    else do
      let context ← db.verificationContext command candidate
      let result ← candidate.classification.evaluate context
      let next ← transitionCandidate candidate.state result.outcome.proposedState
      match db.insertVerification
          ⟨verificationId, candidate.candidateId, candidate.researchRunId, result⟩ with
      | none => (db.alreadyRecorded command.candidateId).map fun answer => (db, answer)
      | some inserted =>
        return (inserted.setState candidate.candidateId next,
          ⟨candidate.candidateId, verificationId, result.outcome, next, result.reasonCodes⟩)

end Database

/-! ## Independence of the reproduction -/

/-- The evidence of the reproduction: the first one of its experiment. -/
def Database.reproductionRow (db : Database) (command : CompleteCandidateVerificationCommand) :
    Option EvidenceRecord :=
  command.reproductionExperimentId.bind fun experimentId => (db.evidenceOf experimentId).head?

/-- The reproduction has nothing in common with the evidence `evidenceId`: not
its id, its experiment, its request, nor any of its observations. -/
structure Apart (db : Database) (reproduction : EvidenceRecord) (evidenceId : Id) : Prop where
  evidence : evidenceId ≠ reproduction.evidenceId
  experiment : ∀ e, db.getEvidence evidenceId = some e → e.experimentId ≠ reproduction.experimentId
  request : ∀ e, db.getEvidence evidenceId = some e → ∀ requestId,
    db.requestOf e.experimentId = some requestId →
      db.requestOf reproduction.experimentId ≠ some requestId
  observations : ∀ e, db.getEvidence evidenceId = some e →
    ∀ o ∈ e.observationIds, o ∉ reproduction.observationIds

/-- The command names another candidate that is known as the one that this is a
duplicate of. -/
def Database.IsDuplicate (db : Database) (command : CompleteCandidateVerificationCommand) : Prop :=
  ∃ other, command.duplicateOfCandidateId = some other ∧ other ≠ command.candidateId ∧
    (db.candidate other).isSome = true

/-- What a recorded verdict of `VALIDATED` is to rest on. -/
structure NoSelfValidation (db : Database) (command : CompleteCandidateVerificationCommand)
    (record : VerificationRecord) (candidate : CandidateRecord) (reproduction : EvidenceRecord) :
    Prop where
  found : db.candidate command.candidateId = some candidate
  evidence : reproduction ∈ db.evidence
  ids : record.result.reproductionEvidenceIds = [reproduction.evidenceId]
  sameRun : reproduction.researchRunId = candidate.researchRunId
  supporting : reproduction.polarity = .supporting
  scope : reproduction.claimScope = candidate.classification.claimScope
  controls : ∃ context ref, db.verificationContext command candidate = .ok context ∧
    db.evidenceRef reproduction = .ok ref ∧
    controlsHeldBy context ref candidate.classification.strategy
  apart : ∀ evidenceId ∈ candidate.evidenceIds, Apart db reproduction evidenceId
  notDuplicate : ¬db.IsDuplicate command

/-- What no verifier looks at: the evidence of the candidate after the first,
and, but for a diagnostic, whether the candidate is a duplicate. -/
structure Unchecked (db : Database) (command : CompleteCandidateVerificationCommand)
    (candidate : CandidateRecord) (reproduction : EvidenceRecord) : Prop where
  found : db.candidate command.candidateId = some candidate
  read : db.reproductionRow command = some reproduction
  apart : ∀ evidenceId ∈ candidate.evidenceIds.tail, Apart db reproduction evidenceId
  notDuplicate : candidate.classification = .diagnosticPlumbing ∨ ¬db.IsDuplicate command

theorem mem_orderedBy {α : Type} {key : α → Id} {rows : List α} {r : α} :
    r ∈ orderedBy key rows ↔ r ∈ rows := List.mem_insertionSort _

theorem Classification.strategy_claimScope (classification : Classification) :
    classification.strategy.claimScope = classification.claimScope := by
  cases classification <;> rfl

/-- What the verifier of any class has checked. -/
theorem Classification.evaluate_validated {classification : Classification}
    {context : VerificationContext} {result : VerificationResult}
    (h : classification.evaluate context = .ok result) (hvalid : result.outcome = .validated) :
    (∃ reproduction, Reproduced context classification.strategy result reproduction) ∧
      (classification = .diagnosticPlumbing → context.duplicateOfCandidateId = none) := by
  cases classification with
  | diagnosticPlumbing =>
    obtain ⟨hreproduced, hduplicate⟩ := evaluateDiagnosticVerification_validated h hvalid
    exact ⟨hreproduced, fun _ => hduplicate⟩
  | httpAuthorizationDifferential =>
    obtain ⟨reproduction, hsome, hids, hapart, hsupporting, hscope, hcontrols⟩ :=
      evaluateReproduction_validated h hvalid
    exact ⟨⟨reproduction, hsome, hids, hapart, hsupporting, hscope, hcontrols⟩, by simp⟩
  | httpStateTransitionAuthorization =>
    obtain ⟨reproduction, hsome, hids, hapart, hsupporting, hscope, hcontrols⟩ :=
      evaluateReproduction_validated h hvalid
    exact ⟨⟨reproduction, hsome, hids, hapart, hsupporting, hscope, hcontrols⟩, by simp⟩

section Execute

variable {db t : Database} {command : CompleteCandidateVerificationCommand}
variable {candidate : CandidateRecord} {context : VerificationContext}

/-- The reference carries the ids of the row and the request of its experiment. -/
theorem Database.evidenceRef_eq_ok {e : EvidenceRecord} {ref : EvidenceRef}
    (h : db.evidenceRef e = .ok ref) :
    ref.evidenceId = e.evidenceId ∧ ref.experimentId = e.experimentId ∧
      db.requestOf e.experimentId = some ref.requestId ∧
      ref.observationIds = e.observationIds ∧ ref.polarity = e.polarity ∧
      ref.claimScope = e.claimScope := by
  unfold Database.evidenceRef at h
  split at h
  next => cases h
  next requestId hrequest =>
    dsimp only at h
    split at h
    next => cases h
    next => cases h; exact ⟨rfl, rfl, hrequest, rfl, rfl, rfl⟩

theorem Database.originatingEvidence_eq_ok {evidenceIds : List Id} {e : EvidenceRecord}
    (h : db.originatingEvidence evidenceIds = .ok e) :
    ∃ evidenceId rest, evidenceIds = evidenceId :: rest ∧ db.getEvidence evidenceId = some e := by
  cases evidenceIds with
  | nil => cases h
  | cons evidenceId rest =>
    cases hget : db.getEvidence evidenceId with
    | none => simp [Database.originatingEvidence, hget] at h
    | some f =>
      simp only [Database.originatingEvidence, hget] at h
      cases h
      exact ⟨evidenceId, rest, rfl, hget⟩

/-- The evidence of a reproduction is that of the command's experiment, which is
one of the candidate's run. -/
theorem Database.reproduction_eq_ok {experimentId : Option Id} {r : Reproduction}
    {ref : EvidenceRef} (h : db.reproduction candidate experimentId = .ok r)
    (hsome : r.evidence = some ref) :
    ∃ e, experimentId.bind (fun x => (db.evidenceOf x).head?) = some e ∧ e ∈ db.evidence ∧
      db.evidenceRef e = .ok ref ∧ e.researchRunId = candidate.researchRunId := by
  cases experimentId with
  | none => cases h; cases hsome
  | some experimentId =>
    unfold Database.reproduction at h
    dsimp only at h
    split at h
    next => cases h
    next experiment hexperiment =>
      split at h
      next => cases h
      next hrun =>
        unfold Database.firstEvidence at h
        cases hhead : (db.evidenceOf experimentId).head? with
        | none => rw [hhead] at h; cases h; cases hsome
        | some e =>
          rw [hhead] at h
          cases href : db.evidenceRef e with
          | error message => simp [href, Except.map] at h
          | ok ref' =>
            simp only [href, Except.map, Except.ok.injEq] at h
            subst h
            cases hsome
            have hmem : e ∈ db.evidence ∧ e.experimentId = experimentId := by
              have hmem : e ∈ db.evidenceOf experimentId := List.mem_of_mem_head? hhead
              simpa [Database.evidenceOf, mem_orderedBy] using hmem
            -- the experiment that the foreign key gives is the one that was looked up
            obtain ⟨x, hx, hxid, hxrun⟩ := db.evidenceExperimentSameRun e hmem.1
            have hfound := List.find?_some hexperiment
            have hsame : x = experiment :=
              db.experimentKey x hx experiment (List.mem_of_find?_eq_some hexperiment)
                (by rw [hxid, hmem.2]; simpa using (of_decide_eq_true hfound).symm)
            refine ⟨e, hhead, hmem.1, href, ?_⟩
            rw [← hxrun, hsame]
            exact Decidable.not_not.1 hrun

/-- Where the inputs of the verifier come from. -/
theorem Database.verificationContext_eq_ok
    (h : db.verificationContext command candidate = .ok context) :
    ∃ evidenceId rest original, candidate.evidenceIds = evidenceId :: rest ∧
      db.getEvidence evidenceId = some original ∧
      db.evidenceRef original = .ok context.originalEvidence ∧
      context.duplicateOfCandidateId = command.duplicateOfCandidateId ∧
      ∀ ref, context.reproductionEvidence = some ref →
        ∃ e, db.reproductionRow command = some e ∧ e ∈ db.evidence ∧
          db.evidenceRef e = .ok ref ∧ e.researchRunId = candidate.researchRunId := by
  unfold Database.verificationContext at h
  obtain ⟨original, horiginal, h⟩ := bind_eq_ok h
  obtain ⟨originalRef, href, h⟩ := bind_eq_ok h
  obtain ⟨reproduction, hreproduction, h⟩ := bind_eq_ok h
  obtain ⟨control, -, h⟩ := bind_eq_ok h
  obtain ⟨evidenceId, rest, hids, hget⟩ := Database.originatingEvidence_eq_ok horiginal
  split at h
  next => cases h
  next =>
    cases h
    refine ⟨evidenceId, rest, original, hids, hget, href, rfl, fun ref hsome => ?_⟩
    exact Database.reproduction_eq_ok hreproduction hsome

/-- A verification that is recorded is the verdict of the candidate's
verifier. -/
theorem Database.execute_recorded {verificationId : Id}
    {answer : CompleteCandidateVerificationResult} {record : VerificationRecord}
    (h : db.execute command verificationId = .ok (t, answer))
    (hrecorded : t.verifications = db.verifications ++ [record]) :
    ∃ candidate context, db.candidate command.candidateId = some candidate ∧
      db.verificationContext command candidate = .ok context ∧
      candidate.classification.evaluate context = .ok record.result := by
  have hkept : ∀ {x : Except String CompleteCandidateVerificationResult},
      x.map (fun answer => (db, answer)) = .ok (t, answer) → False := by
    intro x hx
    cases x with
    | error message => cases hx
    | ok a =>
      cases hx
      simp at hrecorded
  unfold Database.execute at h
  split at h
  next => cases h
  next candidate hcandidate =>
    split at h
    next => exact (hkept h).elim
    next =>
      obtain ⟨context, hcontext, h⟩ := bind_eq_ok h
      obtain ⟨result, hresult, h⟩ := bind_eq_ok h
      obtain ⟨next, -, h⟩ := bind_eq_ok h
      unfold Database.insertVerification at h
      split at h
      next => exact (hkept h).elim
      next inserted hinserted =>
        cases h
        split at hinserted
        next => cases hinserted
        next =>
          cases hinserted
          have hrecord := List.append_cancel_left hrecorded
          simp only [List.cons.injEq, and_true] at hrecord
          subst hrecord
          exact ⟨candidate, context, hcandidate, hcontext, hresult⟩

/-- What `independent` says of the rows that the two references are of. -/
theorem apart_of_independent {evidenceId : Id} {original reproduction : EvidenceRecord}
    {originalRef ref : EvidenceRef} (hget : db.getEvidence evidenceId = some original)
    (horiginal : db.evidenceRef original = .ok originalRef)
    (hreproduction : db.evidenceRef reproduction = .ok ref)
    (h : independent originalRef ref = true) : Apart db reproduction evidenceId := by
  obtain ⟨hid, hexperiment, hrequest, hobservations, -⟩ := Database.evidenceRef_eq_ok horiginal
  obtain ⟨hid', hexperiment', hrequest', hobservations', -⟩ :=
    Database.evidenceRef_eq_ok hreproduction
  have hkey : original.evidenceId = evidenceId := by
    simpa using List.find?_some hget
  unfold independent at h
  split at h
  next => cases h
  next hevidence =>
    split at h
    next => cases h
    next hexp =>
      split at h
      next => cases h
      next hreq =>
        split at h
        next => cases h
        next hobs =>
          refine ⟨?_, fun e he => ?_, fun e he requestId hof hof' => ?_, fun e he o ho ho' => ?_⟩
          · rw [← hkey, ← hid, ← hid']
            exact hevidence
          all_goals
            rw [hget] at he
            cases he
          · rw [← hexperiment, ← hexperiment']
            exact hexp
          · rw [hrequest] at hof
            rw [hrequest'] at hof'
            exact hreq ((Option.some.inj hof).trans (Option.some.inj hof').symm)
          · refine hobs (List.any_eq_true.2 ⟨o, hobservations.symm ▸ ho, ?_⟩)
            simpa [hobservations'] using ho'

/-- **What a recorded `VALIDATED` rests on.**  All but the later evidence of the
candidate and, for the classes over HTTP, the duplicate. -/
theorem execute_validated {verificationId : Id} {answer : CompleteCandidateVerificationResult}
    {record : VerificationRecord} (h : db.execute command verificationId = .ok (t, answer))
    (hrecorded : t.verifications = db.verifications ++ [record])
    (hvalid : record.result.outcome = .validated) :
    ∃ candidate reproduction, db.candidate command.candidateId = some candidate ∧
      db.reproductionRow command = some reproduction ∧
      ∀ (_ : ∀ evidenceId ∈ candidate.evidenceIds.tail, Apart db reproduction evidenceId)
        (_ : candidate.classification = .diagnosticPlumbing ∨ ¬db.IsDuplicate command),
        NoSelfValidation db command record candidate reproduction := by
  obtain ⟨candidate, context, hcandidate, hcontext, hresult⟩ :=
    Database.execute_recorded h hrecorded
  obtain ⟨⟨ref, hreproduced⟩, hdiagnostic⟩ := Classification.evaluate_validated hresult hvalid
  obtain ⟨evidenceId, rest, original, hids, hget, horiginal, hduplicate, hrows⟩ :=
    Database.verificationContext_eq_ok hcontext
  obtain ⟨reproduction, hrow, hmem, href, hrun⟩ := hrows ref hreproduced.evidence
  obtain ⟨hid, -, -, -, hpolarity, hscope⟩ := Database.evidenceRef_eq_ok href
  refine ⟨candidate, reproduction, hcandidate, hrow, fun hrest hnot => ?_⟩
  have hfirst : Apart db reproduction evidenceId :=
    apart_of_independent hget horiginal href hreproduced.apart
  refine ⟨hcandidate, hmem, hid ▸ hreproduced.ids, hrun, hpolarity ▸ hreproduced.supporting, ?_,
    ⟨context, ref, hcontext, href, hreproduced.controls⟩, ?_, ?_⟩
  · rw [← hscope, hreproduced.scope, Classification.strategy_claimScope]
  · rw [hids] at hrest ⊢
    intro e he
    rcases List.mem_cons.1 he with rfl | he
    · exact hfirst
    · exact hrest e he
  · rcases hnot with hclass | hnot
    · rintro ⟨other, hother, -⟩
      have hnone := hdiagnostic hclass
      rw [hduplicate, hother] at hnone
      cases hnone
    · exact hnot

/-- **No self-validation.**  A recorded `VALIDATED` rests on an independent
reproduction exactly when the evidence of the candidate after the first has
nothing in common with the reproduction and, for the classes over HTTP, the
command names no other candidate as a duplicate. -/
theorem noSelfValidation_iff {verificationId : Id} {answer : CompleteCandidateVerificationResult}
    {record : VerificationRecord} (h : db.execute command verificationId = .ok (t, answer))
    (hrecorded : t.verifications = db.verifications ++ [record])
    (hvalid : record.result.outcome = .validated) :
    (∃ candidate reproduction, NoSelfValidation db command record candidate reproduction) ↔
      ∃ candidate reproduction, Unchecked db command candidate reproduction := by
  obtain ⟨candidate, reproduction, hcandidate, hrow, hrest⟩ := execute_validated h hrecorded hvalid
  constructor
  · rintro ⟨candidate', reproduction', hno⟩
    have hsame := hno.found
    rw [hcandidate] at hsame
    cases hsame
    -- the recorded reproduction is the one that was read
    obtain ⟨_, context, hcandidate', hcontext, hresult⟩ := Database.execute_recorded h hrecorded
    rw [hcandidate] at hcandidate'
    cases hcandidate'
    obtain ⟨⟨ref, hreproduced⟩, -⟩ := Classification.evaluate_validated hresult hvalid
    obtain ⟨-, -, -, -, -, -, -, hrows⟩ := Database.verificationContext_eq_ok hcontext
    obtain ⟨e, hrow', hmem, href, -⟩ := hrows ref hreproduced.evidence
    rw [hrow] at hrow'
    cases hrow'
    have hid : reproduction.evidenceId = reproduction'.evidenceId := by
      have hids := hreproduced.ids.symm.trans hno.ids
      simpa [(Database.evidenceRef_eq_ok href).1] using hids
    have heq := db.evidenceKey reproduction hmem reproduction' hno.evidence hid
    subst heq
    exact ⟨candidate, reproduction, hcandidate, hrow,
      fun e he => hno.apart e (List.mem_of_mem_tail he), Or.inr hno.notDuplicate⟩
  · rintro ⟨candidate', reproduction', hunchecked⟩
    have hsame := hunchecked.found
    rw [hcandidate] at hsame
    cases hsame
    have hsame := hunchecked.read
    rw [hrow] at hsame
    cases hsame
    exact ⟨candidate, reproduction, hrest hunchecked.apart hunchecked.notDuplicate⟩

end Execute

/-! ## A reproduced differential -/

/-- A run with two differentials, and a candidate that has the evidence
`evidenceIds`. -/
def differentialDatabase (evidenceIds : List Id) : Database where
  candidates :=
    [⟨1, 1, "object access".toList, .httpAuthorizationDifferential, .verifying, evidenceIds⟩,
      ⟨2, 1, "object access".toList, .httpAuthorizationDifferential, .open, []⟩]
  evidence :=
    [⟨10, 1, 20, .supporting, .httpAuthorizationDifferential, [30]⟩,
      ⟨11, 1, 21, .supporting, .httpAuthorizationDifferential, [31]⟩]
  experiments := [⟨20, 1, .executionSucceeded⟩, ⟨21, 1, .executionSucceeded⟩]
  executionAttempts := [⟨40, 20, .completed⟩, ⟨41, 21, .completed⟩]
  workerResults := [⟨50, 20, 40, .succeeded⟩, ⟨51, 21, 41, .succeeded⟩]
  observations :=
    [⟨30, 50, .httpAuthorizationDifferential, []⟩,
      ⟨31, 51, .httpAuthorizationDifferential,
        [("actor".toList, .text "alice".toList), ("secure_control_status".toList, .integer 403),
          ("unauthenticated_control_status".toList, .integer 401),
          ("cross_object_request_status".toList, .integer 200),
          ("cross_object_request_object_owner".toList, .text "bob".toList)]⟩]
  hypothesisAssessments := []
  verifications := []
  evidenceKey := by simp
  experimentKey := by simp
  evidenceExperimentSameRun := by simp

/-- The second differential reproduces the first. -/
def differentialCommand (duplicateOfCandidateId : Option Id) :
    CompleteCandidateVerificationCommand where
  candidateId := 1
  reproductionExperimentId := some 21
  negativeControlExperimentId := none
  authoritativeOutOfScope := false
  duplicateOfCandidateId := duplicateOfCandidateId

theorem noSelfValidation_iff_differential :
    ∃ record candidate reproduction, NoSelfValidation (differentialDatabase [10])
      (differentialCommand none) record candidate reproduction := by
  refine ⟨_, (noSelfValidation_iff
    (show (differentialDatabase [10]).execute (differentialCommand none) 60 = .ok (_, _) from rfl)
    rfl rfl).2 ⟨_, _, rfl, rfl, ?_, ?_⟩⟩
  · intro e he
    cases he
  · refine Or.inr ?_
    rintro ⟨other, hother, -⟩
    cases hother

/-- A known duplicate is validated, and so is a candidate by the very experiment
that its second evidence came from. -/
theorem duplicate_validated :
    (∃ t answer record,
      (differentialDatabase [10]).execute (differentialCommand (some 2)) 60 = .ok (t, answer) ∧
        t.verifications = (differentialDatabase [10]).verifications ++ [record] ∧
        record.result.outcome = .validated ∧
        ¬∃ candidate reproduction, NoSelfValidation (differentialDatabase [10])
          (differentialCommand (some 2)) record candidate reproduction) ∧
    ∃ t answer record,
      (differentialDatabase [10, 11]).execute (differentialCommand none) 60 = .ok (t, answer) ∧
        t.verifications = (differentialDatabase [10, 11]).verifications ++ [record] ∧
        record.result.outcome = .validated ∧
        ¬∃ candidate reproduction, NoSelfValidation (differentialDatabase [10, 11])
          (differentialCommand none) record candidate reproduction := by
  refine ⟨⟨_, _, _, rfl, rfl, rfl, ?_⟩, ⟨_, _, _, rfl, rfl, rfl, ?_⟩⟩
  · rintro ⟨candidate, reproduction, hno⟩
    exact hno.notDuplicate ⟨2, rfl, by decide, rfl⟩
  · rintro ⟨candidate, reproduction, hno⟩
    have hfound := hno.found
    cases hfound
    have hids : [11] = [reproduction.evidenceId] := hno.ids
    exact (hno.apart 11 (by decide)).evidence (List.cons.inj hids).1

end Zest.Verification

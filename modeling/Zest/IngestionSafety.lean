import Zest.Ingestion
import Zest.UniqueRows

/-! # A result is ingested once

Any number of calls ingest at the same time, of the same request or of others.  What
a call writes is seen when it commits, and is gone when it fails before; the row of a
result has the id of its request as a key, so that the second one to write it waits for
the first, and then reads what the first has left.

The secret store takes no part in the transaction.  The material of a login is put
there before the audit events are written, and stays there when one of these fails.
Otherwise each request is ingested once, and a call that fails leaves no trace
(`exactly_once_ingestion`).
-/
namespace Zest.Ingestion

open Sessions TransitionSystem UniqueRows

abbrev CallId := Nat

/-! ## The tables -/

inductive Row where
  | result (record : WorkerResultRecord)
  | observation (record : ObservationRecord)
  | audit (record : AuditEventRecord)

/-- The primary keys and the unique constraints. -/
inductive UniqueKey where
  | workerResult (workerResultId : Text)
  | request (requestId : Text)
  | observation (observationId : Text)
  | observationKind (workerResultId kind version : Text)
  | audit (auditEventId : Text)
  deriving DecidableEq

namespace Row

def keys : Row → List UniqueKey
  | .result record => [.workerResult record.workerResultId, .request record.requestId]
  | .observation record =>
    [.observation record.observationId,
      .observationKind record.workerResultId record.observationKind record.normalizationVersion]
  | .audit record => [.audit record.auditEventId]

def asResult : Row → Option WorkerResultRecord
  | .result record => some record
  | _ => none

def asObservation : Row → Option ObservationRecord
  | .observation record => some record
  | _ => none

end Row

def resultsIn (rows : List Row) : List WorkerResultRecord := rows.filterMap Row.asResult

/-- `list_for_worker_result`, in some order. -/
def observationsIn (rows : List Row) (workerResultId : Text) : List ObservationRecord :=
  (rows.filterMap Row.asObservation).filter (·.workerResultId = workerResultId)

/-! ## The calls together -/

/-- A statement that a call still has to make. -/
inductive Statement where
  | insert (row : Row)
  /-- Reads the session, and sees what to do about it. -/
  | sessions
  | session (op : SessionOp)

/-- A transaction that has written its result. -/
structure OpenIngestion where
  prepared : Prepared
  record : WorkerResultRecord
  createdAt : Instant
  todo : List Statement
  /-- What it has written of sessions. -/
  states : List (Text × SessionState)
  /-- It has changed the secret store. -/
  secretsChanged : Bool

inductive Phase where
  | idle
  | prepared (x : Prepared)
  /-- Has found no result of the request. -/
  | missing (x : Prepared)
  | checked (x : Prepared) (record : WorkerResultRecord)
  /-- Another one has the key. -/
  | conflicted (x : Prepared)
  | found (record : WorkerResultRecord)
  | recorded (o : OpenIngestion)
  | finished (outcome : IngestionOutcome)
  | raised

/-- The call has returned, or has raised. -/
def Phase.over : Phase → Bool
  | .finished _ | .raised => true
  | _ => false

structure IngestionSystem where
  store : RowStore CallId Row
  sessions : SessionRows
  experiments : Text → Option ExperimentRow
  /-- The stored session material, by name. -/
  secrets : Text → Option Text
  phase : CallId → Phase

inductive IngestionEvent where
  | call (p : CallId)
  | fail (p : CallId)
  | other

/-- Whose step it is. -/
def IngestionEvent.caller : IngestionEvent → Option CallId
  | .call p | .fail p => some p
  | .other => none

namespace IngestionSystem

def results (s : IngestionSystem) : List WorkerResultRecord := resultsIn s.store.committed

def observationsOf (s : IngestionSystem) (workerResultId : Text) : List ObservationRecord :=
  observationsIn s.store.committed workerResultId

/-- The call moves on. -/
def goto (s : IngestionSystem) (p : CallId) (phase : Phase) : IngestionSystem :=
  { s with phase := fun q => if q = p then phase else s.phase q }

def withSecret (s : IngestionSystem) (name : Text) (value : Option Text) : IngestionSystem :=
  { s with secrets := fun other => if other = name then value else s.secrets other }

/-- The committed state of the database. -/
def database (s : IngestionSystem) :
    List Row × SessionRows × (Text → Option ExperimentRow) :=
  (s.store.committed, s.sessions, s.experiments)

end IngestionSystem

/-- `set_state`. -/
def setState (rows : SessionRows) (write : Text × SessionState) : SessionRows := fun id =>
  if id = write.1 then (rows id).map fun record => { record with state := write.2 } else rows id

section System

variable (env : Collaborators) (input : CallId → IngestionCall)

/-- All the rows of one ingestion. -/
def batch (drafts : List ObservationDraft) (record : WorkerResultRecord) (createdAt : Instant) :
    List Row :=
  .result record :: (drafts.map (.observation <| observationRecord record createdAt ·) ++
    (auditEvents env record drafts createdAt).map .audit)

/-- What is left to do once the result is written. -/
def afterInsert (x : Prepared) (record : WorkerResultRecord) (createdAt : Instant) :
    OpenIngestion where
  prepared := x
  record := record
  createdAt := createdAt
  todo := x.drafts.map (.insert <| .observation <| observationRecord record createdAt ·) ++
    .sessions :: (auditEvents env record x.drafts createdAt).map (.insert <| .audit ·)
  states := []
  secretsChanged := false

/-- One statement of one call, its commit or its failure, or what others do.  A call
can fail wherever it has not committed.  An insert waits while another open transaction
has one of its keys. -/
inductive IngestionStep (s : IngestionSystem) : IngestionEvent → IngestionSystem → Prop where
  | reject {p : CallId} {reason : Text} (h : s.phase p = .idle)
      (hprepare : prepare env (input p) = .error reason) :
      IngestionStep s (.call p) (s.goto p (.finished (.rejected reason)))
  | prepare {p : CallId} {x : Prepared} (h : s.phase p = .idle)
      (hprepare : prepare env (input p) = .ok x) :
      IngestionStep s (.call p) (s.goto p (.prepared x))
  | getFound {p : CallId} {x : Prepared} {record : WorkerResultRecord}
      (h : s.phase p = .prepared x) (hmem : record ∈ s.results)
      (hid : record.requestId = x.requestId) :
      IngestionStep s (.call p) (s.goto p (.found record))
  | getMissing {p : CallId} {x : Prepared} (h : s.phase p = .prepared x)
      (hnone : ∀ record ∈ s.results, record.requestId ≠ x.requestId) :
      IngestionStep s (.call p) (s.goto p (.missing x))
  | integrity {p : CallId} {x : Prepared} {reason : Text} (h : s.phase p = .missing x)
      (hcheck : checkExperimentIntegrity s.experiments x.request = some reason) :
      IngestionStep s (.call p) (s.goto p (.finished (.rejected reason)))
  | check {p : CallId} {x : Prepared} {record : WorkerResultRecord} (receivedAt : Instant)
      (h : s.phase p = .missing x)
      (hcheck : checkExperimentIntegrity s.experiments x.request = none)
      (hrecord : workerResultRecord env x receivedAt = .ok record) :
      IngestionStep s (.call p) (s.goto p (.checked x record))
  | insertResult {p : CallId} {x : Prepared} {record : WorkerResultRecord} (createdAt : Instant)
      (h : s.phase p = .checked x record) (hfree : s.store.Free Row.keys (.result record)) :
      IngestionStep s (.call p)
        (({ s with store := s.store.insert p (.result record) } : IngestionSystem).goto p
          (.recorded (afterInsert env x record createdAt)))
  | conflict {p : CallId} {x : Prepared} {record : WorkerResultRecord}
      (h : s.phase p = .checked x record)
      (htaken : s.store.Taken Row.keys p (.result record)) :
      IngestionStep s (.call p) (s.goto p (.conflicted x))
  /-- Without such a row the conflict is raised again, which is a failure. -/
  | getRaced {p : CallId} {x : Prepared} {record : WorkerResultRecord}
      (h : s.phase p = .conflicted x) (hmem : record ∈ s.results)
      (hid : record.requestId = x.requestId) :
      IngestionStep s (.call p) (s.goto p (.found record))
  | list {p : CallId} {record : WorkerResultRecord} {ids : List Text}
      (h : s.phase p = .found record)
      (hids : ids.Perm ((s.observationsOf record.workerResultId).map (·.observationId))) :
      IngestionStep s (.call p) (s.goto p (.finished (.alreadyIngested record ids)))
  | insert {p : CallId} {o : OpenIngestion} {row : Row} {rest : List Statement}
      (h : s.phase p = .recorded o) (htodo : o.todo = .insert row :: rest)
      (hfree : s.store.Free Row.keys row) :
      IngestionStep s (.call p)
        (({ s with store := s.store.insert p row } : IngestionSystem).goto p
          (.recorded { o with todo := rest }))
  | sessions {p : CallId} {o : OpenIngestion} {rest : List Statement}
      (h : s.phase p = .recorded o) (htodo : o.todo = .sessions :: rest) :
      IngestionStep s (.call p)
        (s.goto p (.recorded
          { o with todo := (o.prepared.sessionOps env s.sessions).map .session ++ rest }))
  | put {p : CallId} {o : OpenIngestion} {reference : SecretReference} {value : Text}
      {rest : List Statement} (h : s.phase p = .recorded o)
      (htodo : o.todo = .session (.put reference value) :: rest) :
      IngestionStep s (.call p)
        ((s.withSecret reference.name (some value)).goto p (.recorded
          { o with
            todo := rest
            secretsChanged := o.secretsChanged || s.secrets reference.name != some value }))
  | delete {p : CallId} {o : OpenIngestion} {reference : SecretReference}
      {rest : List Statement} (h : s.phase p = .recorded o)
      (htodo : o.todo = .session (.delete reference) :: rest) :
      IngestionStep s (.call p)
        ((s.withSecret reference.name none).goto p (.recorded
          { o with
            todo := rest
            secretsChanged := o.secretsChanged || s.secrets reference.name != none }))
  | setState {p : CallId} {o : OpenIngestion} {state : SessionState} {id : Text}
      {rest : List Statement} (h : s.phase p = .recorded o)
      (htodo : o.todo = .session (.setState state) :: rest)
      (hid : o.prepared.sessionId = some id) :
      IngestionStep s (.call p)
        (s.goto p (.recorded { o with todo := rest, states := o.states ++ [(id, state)] }))
  | commit {p : CallId} {o : OpenIngestion} (h : s.phase p = .recorded o) (htodo : o.todo = []) :
      IngestionStep s (.call p)
        (({ s with
            store := s.store.commit p
            sessions := o.states.foldl setState s.sessions } : IngestionSystem).goto p
          (.finished (.ingested o.record (o.prepared.drafts.map fun draft =>
            (observationRecord o.record o.createdAt draft).observationId))))
  | fail {p : CallId} (h : (s.phase p).over = false) :
      IngestionStep s (.fail p)
        (({ s with store := s.store.rollback p } : IngestionSystem).goto p .raised)
  | other {sessions : SessionRows} {experiments : Text → Option ExperimentRow}
      {secrets : Text → Option Text} :
      IngestionStep s .other
        { s with sessions := sessions, experiments := experiments, secrets := secrets }
  /-- An audit event of something else. -/
  | otherAudit {record : AuditEventRecord} (hfree : s.store.Free Row.keys (.audit record)) :
      IngestionStep s .other
        { s with store := { s.store with committed := s.store.committed ++ [.audit record] } }

/-! ## What is kept -/

/-- The draft and the result of a call that is prepared. -/
structure Normalized (call : IngestionCall) (x : Prepared) : Prop where
  request : x.request = call.request
  drafts : ∃ normalize, env.normalizer x.capability x.action = .ok normalize ∧
    normalize x.request x.result = .ok x.drafts

/-- The row of a result, and its observations, are those of one call. -/
def Stored (s : IngestionSystem) (record : WorkerResultRecord) : Prop :=
  ∃ p x receivedAt createdAt, Normalized env (input p) x ∧
    workerResultRecord env x receivedAt = .ok record ∧
    s.observationsOf record.workerResultId = x.drafts.map (observationRecord record createdAt)

/-- What a call answers that is not a rejection: the row of its request, and the ids of
its observations. -/
def Answers (s : IngestionSystem) (call : IngestionCall) (outcome : IngestionOutcome) : Prop :=
  ∃ record ∈ s.results, record.requestId = call.request.correlation.requestId ∧
    outcome.workerResultId = some record.workerResultId ∧
    outcome.observationIds.Perm
      ((s.observationsOf record.workerResultId).map (·.observationId))

/-- The rows that are still to be written. -/
def rowsOf (todo : List Statement) : List Row :=
  todo.filterMap fun
    | .insert row => some row
    | _ => none

/-- What is so of a call in its phase. -/
def PhaseInv (s : IngestionSystem) (p : CallId) : Phase → Prop
  | .idle | .raised => s.store.pending p = []
  | .prepared x | .missing x | .conflicted x =>
    s.store.pending p = [] ∧ Normalized env (input p) x
  | .checked x record => s.store.pending p = [] ∧ Normalized env (input p) x ∧
    ∃ receivedAt, workerResultRecord env x receivedAt = .ok record
  | .found record => s.store.pending p = [] ∧ record ∈ s.results ∧
    record.requestId = (input p).request.correlation.requestId
  | .recorded o => Normalized env (input p) o.prepared ∧
    (∃ receivedAt, workerResultRecord env o.prepared receivedAt = .ok o.record) ∧
    s.store.pending p ++ rowsOf o.todo = batch env o.prepared.drafts o.record o.createdAt
  | .finished outcome => s.store.pending p = [] ∧
    (outcome.status ≠ .rejectedInvalidInvocation → Answers s (input p) outcome)

structure Inv (s : IngestionSystem) : Prop where
  sound : s.store.Sound Row.keys
  stored : ∀ record ∈ s.results, Stored env input s record
  /-- An observation comes with its result. -/
  owned : ∀ row ∈ s.store.committed, ∀ o, row.asObservation = some o →
    ∃ record ∈ s.results, record.workerResultId = o.workerResultId
  phases : ∀ p, PhaseInv env input s p (s.phase p)

variable {env input}

theorem prepare_normalized {call : IngestionCall} {x : Prepared}
    (h : prepare env call = .ok x) : Normalized env call x := by
  unfold prepare at h
  obtain ⟨validated, -, h⟩ := bind_eq_ok h
  split at h
  · obtain ⟨normalize, hnormalizer, h⟩ := bind_eq_ok h
    obtain ⟨drafts, hdrafts, h⟩ := bind_eq_ok h
    cases h
    exact ⟨rfl, normalize, hnormalizer, hdrafts⟩
  · cases h

theorem Normalized.requestId {call : IngestionCall} {x : Prepared} (h : Normalized env call x) :
    x.requestId = call.request.correlation.requestId := by
  rw [Prepared.requestId, h.request]

/-- The ids of a result's row. -/
theorem workerResultRecord_ids {x : Prepared} {receivedAt : Instant}
    {record : WorkerResultRecord} (h : workerResultRecord env x receivedAt = .ok record) :
    record.requestId = x.requestId ∧ record.workerResultId = workerResultIdFor x.requestId := by
  unfold workerResultRecord at h
  obtain ⟨startedAt, -, h⟩ := bind_eq_ok h
  obtain ⟨completedAt, -, h⟩ := bind_eq_ok h
  cases h
  exact ⟨rfl, rfl⟩

/-! ## The rows of one ingestion -/

theorem resultsIn_append (a b : List Row) : resultsIn (a ++ b) = resultsIn a ++ resultsIn b :=
  List.filterMap_append

theorem observationsIn_append (a b : List Row) (id : Text) :
    observationsIn (a ++ b) id = observationsIn a id ++ observationsIn b id := by
  simp [observationsIn]

theorem mem_resultsIn {rows : List Row} {record : WorkerResultRecord} :
    record ∈ resultsIn rows ↔ .result record ∈ rows := by
  unfold resultsIn
  rw [List.mem_filterMap]
  constructor
  · rintro ⟨row, hmem, hrow⟩
    cases row <;> cases hrow
    exact hmem
  · intro h
    exact ⟨_, h, rfl⟩

theorem resultsIn_observations (observations : List ObservationRecord) :
    resultsIn (observations.map .observation) = [] := by
  induction observations with
  | nil => rfl
  | cons o rest ih => exact ih

theorem resultsIn_audits (audits : List AuditEventRecord) : resultsIn (audits.map .audit) = [] := by
  induction audits with
  | nil => rfl
  | cons a rest ih => exact ih

theorem observationsIn_audits (audits : List AuditEventRecord) (id : Text) :
    observationsIn (audits.map .audit) id = [] := by
  induction audits with
  | nil => rfl
  | cons a rest ih => exact ih

theorem observationsIn_observations (observations : List ObservationRecord) (id : Text) :
    observationsIn (observations.map .observation) id =
      observations.filter (·.workerResultId = id) := by
  have hmap : (observations.map Row.observation).filterMap Row.asObservation = observations := by
    induction observations with
    | nil => rfl
    | cons o rest ih => simp [Row.asObservation, ih]
  rw [observationsIn, hmap]

theorem batch_eq (drafts : List ObservationDraft) (record : WorkerResultRecord)
    (createdAt : Instant) :
    batch env drafts record createdAt = [.result record] ++
      ((drafts.map (observationRecord record createdAt)).map .observation ++
        (auditEvents env record drafts createdAt).map .audit) := by
  rw [List.map_map]
  rfl

theorem resultsIn_batch (drafts : List ObservationDraft) (record : WorkerResultRecord)
    (createdAt : Instant) : resultsIn (batch env drafts record createdAt) = [record] := by
  rw [batch_eq, resultsIn_append, resultsIn_append, resultsIn_observations, resultsIn_audits]
  rfl

theorem observationsIn_batch (drafts : List ObservationDraft) (record : WorkerResultRecord)
    (createdAt : Instant) (id : Text) :
    observationsIn (batch env drafts record createdAt) id =
      if record.workerResultId = id then drafts.map (observationRecord record createdAt)
      else [] := by
  have hown : ∀ o ∈ drafts.map (observationRecord record createdAt),
      o.workerResultId = record.workerResultId := by
    intro o ho
    obtain ⟨draft, -, rfl⟩ := List.mem_map.mp ho
    rfl
  have hnone : observationsIn [Row.result record] id = [] := rfl
  rw [batch_eq, observationsIn_append, observationsIn_append, observationsIn_observations,
    observationsIn_audits, hnone, List.append_nil, List.nil_append]
  by_cases hid : record.workerResultId = id
  · rw [if_pos hid]
    exact List.filter_eq_self.mpr fun o ho => by simp [hown o ho, hid]
  · rw [if_neg hid]
    exact List.filter_eq_nil_iff.mpr fun o ho => by simp [hown o ho, hid]

theorem rowsOf_append (a b : List Statement) : rowsOf (a ++ b) = rowsOf a ++ rowsOf b :=
  List.filterMap_append

theorem rowsOf_session (ops : List SessionOp) : rowsOf (ops.map .session) = [] := by
  induction ops with
  | nil => rfl
  | cons op rest ih => exact ih

theorem rowsOf_insert {α : Type} (f : α → Row) (items : List α) :
    rowsOf (items.map (.insert <| f ·)) = items.map f := by
  induction items with
  | nil => rfl
  | cons item rest ih => exact congrArg (f item :: ·) ih

/-- Nothing of the batch is forgotten once its result is written. -/
theorem rowsOf_afterInsert (x : Prepared) (record : WorkerResultRecord) (createdAt : Instant) :
    .result record :: rowsOf (afterInsert env x record createdAt).todo =
      batch env x.drafts record createdAt := by
  have hcons : ∀ rest, rowsOf (.sessions :: rest) = rowsOf rest := fun _ => rfl
  show _ :: rowsOf (_ ++ .sessions :: _) = _
  rw [rowsOf_append, hcons, rowsOf_insert fun draft => .observation
    (observationRecord record createdAt draft), rowsOf_insert Row.audit]
  rfl

/-! ## One step -/

/-- A result that is there stays there, with its observations. -/
def Extends (s t : IngestionSystem) : Prop :=
  ∀ record ∈ s.results, record ∈ t.results ∧
    t.observationsOf record.workerResultId = s.observationsOf record.workerResultId

variable {s t : IngestionSystem} {p : CallId}

theorem extends_of_committed (h : t.store.committed = s.store.committed) : Extends s t := by
  intro record hmem
  unfold IngestionSystem.results IngestionSystem.observationsOf at *
  rw [h]
  exact ⟨hmem, rfl⟩

theorem Stored.mono {record : WorkerResultRecord} (h : Stored env input s record)
    (hext : Extends s t) (hmem : record ∈ s.results) : Stored env input t record := by
  obtain ⟨p, x, receivedAt, createdAt, hx, hrecord, hobservations⟩ := h
  exact ⟨p, x, receivedAt, createdAt, hx, hrecord, (hext record hmem).2.trans hobservations⟩

theorem Answers.mono {call : IngestionCall} {outcome : IngestionOutcome}
    (h : Answers s call outcome) (hext : Extends s t) : Answers t call outcome := by
  obtain ⟨record, hmem, hid, hresult, hids⟩ := h
  obtain ⟨hmem', hsame⟩ := hext record hmem
  exact ⟨record, hmem', hid, hresult, hsame ▸ hids⟩

theorem PhaseInv.mono {phase : Phase} (h : PhaseInv env input s p phase) (hext : Extends s t)
    (hpending : t.store.pending p = s.store.pending p) : PhaseInv env input t p phase := by
  cases phase with
  | idle => exact hpending.trans h
  | raised => exact hpending.trans h
  | prepared x => exact ⟨hpending.trans h.1, h.2⟩
  | missing x => exact ⟨hpending.trans h.1, h.2⟩
  | conflicted x => exact ⟨hpending.trans h.1, h.2⟩
  | checked x record => exact ⟨hpending.trans h.1, h.2⟩
  | found record => exact ⟨hpending.trans h.1, (hext record h.2.1).1, h.2.2⟩
  | recorded o =>
    refine ⟨h.1, h.2.1, ?_⟩
    rw [hpending]
    exact h.2.2
  | finished outcome => exact ⟨hpending.trans h.1, fun hstatus => (h.2 hstatus).mono hext⟩

/-- A step of one call that commits nothing. -/
theorem Inv.of_call (h : Inv env input s) (p : CallId)
    (hcommitted : t.store.committed = s.store.committed) (hsound : t.store.Sound Row.keys)
    (hothers : ∀ q, q ≠ p → t.phase q = s.phase q ∧ t.store.pending q = s.store.pending q)
    (hown : PhaseInv env input t p (t.phase p)) : Inv env input t := by
  have hext : Extends s t := extends_of_committed hcommitted
  have hresults : t.results = s.results := by rw [IngestionSystem.results, hcommitted]; rfl
  refine ⟨hsound, ?_, ?_, ?_⟩
  · intro record hmem
    rw [hresults] at hmem
    exact (h.stored record hmem).mono hext hmem
  · rw [hcommitted, hresults]
    exact h.owned
  · intro q
    by_cases hq : q = p
    · subst hq
      exact hown
    · obtain ⟨hphase, hpending⟩ := hothers q hq
      rw [hphase]
      exact (h.phases q).mono hext hpending

/-- A step of one call that writes no row. -/
theorem Inv.goto (h : Inv env input s) {phase : Phase} (hstore : t.store = s.store)
    (hphase : t.phase = (s.goto p phase).phase) (hown : PhaseInv env input s p phase) :
    Inv env input t := by
  refine h.of_call p (by rw [hstore]) (by rw [hstore]; exact h.sound) ?_ ?_
  · intro q hq
    exact ⟨by rw [hphase]; exact if_neg hq, by rw [hstore]⟩
  · have hp : t.phase p = phase := by rw [hphase]; exact if_pos rfl
    rw [hp]
    exact hown.mono (extends_of_committed (by rw [hstore])) (by rw [hstore])

theorem Inv.phase (h : Inv env input s) {phase : Phase} (hphase : s.phase p = phase) :
    PhaseInv env input s p phase := hphase ▸ h.phases p

/-- A call inserts a row. -/
theorem Inv.insert (h : Inv env input s) {row : Row} {phase : Phase}
    (hfree : s.store.Free Row.keys row)
    (hown : PhaseInv env input
      (({ s with store := s.store.insert p row } : IngestionSystem).goto p phase) p phase) :
    Inv env input
      (({ s with store := s.store.insert p row } : IngestionSystem).goto p phase) := by
  refine h.of_call p rfl (h.sound.insert hfree) ?_ ?_
  · intro q hq
    exact ⟨if_neg hq, RowStore.insert_pending_ne _ _ hq⟩
  · have hp : (({ s with store := s.store.insert p row } : IngestionSystem).goto p phase).phase p =
        phase := if_pos rfl
    rw [hp]
    exact hown

theorem owned_of_batch {drafts : List ObservationDraft} {record : WorkerResultRecord}
    {createdAt : Instant} {row : Row} (hrow : row ∈ batch env drafts record createdAt)
    {o : ObservationRecord} (ho : row.asObservation = some o) :
    o.workerResultId = record.workerResultId := by
  rcases List.mem_cons.mp hrow with rfl | hrow
  · cases ho
  rcases List.mem_append.mp hrow with hrow | hrow
  · obtain ⟨draft, -, rfl⟩ := List.mem_map.mp hrow
    cases ho
    rfl
  · obtain ⟨audit, -, rfl⟩ := List.mem_map.mp hrow
    cases ho

/-- No two results have one id. -/
theorem Inv.workerResultId_ne (h : Inv env input s) {record : WorkerResultRecord}
    (hpending : .result record ∈ s.store.pending p) {other : WorkerResultRecord}
    (hmem : other ∈ s.results) : record.workerResultId ≠ other.workerResultId := by
  intro heq
  have hcommitted : Row.result other ∈ s.store.committed := mem_resultsIn.mp hmem
  refine (List.pairwise_append.mp (h.sound.visible p)).2.2 _ hcommitted _ hpending ?_
  exact ⟨.workerResult other.workerResultId, List.mem_cons_self, by simp [Row.keys, heq]⟩

/-- The commit of an ingestion. -/
theorem Inv.commit (h : Inv env input s) {o : OpenIngestion} (hphase : s.phase p = .recorded o)
    (htodo : o.todo = []) (sessions : SessionRows) :
    Inv env input
      (({ s with store := s.store.commit p, sessions := sessions } : IngestionSystem).goto p
        (.finished (.ingested o.record (o.prepared.drafts.map fun draft =>
          (observationRecord o.record o.createdAt draft).observationId)))) := by
  obtain ⟨hx, ⟨receivedAt, hrecord⟩, hbatch⟩ := h.phase hphase
  have hnil : rowsOf o.todo = [] := by rw [htodo]; rfl
  rw [hnil, List.append_nil] at hbatch
  generalize houtcome : IngestionOutcome.ingested o.record _ = outcome
  generalize ht : IngestionSystem.goto _ p (.finished outcome) = t
  have hcommitted : t.store.committed =
      s.store.committed ++ batch env o.prepared.drafts o.record o.createdAt := by
    rw [← ht, ← hbatch]
    rfl
  have hresults : t.results = s.results ++ [o.record] := by
    rw [IngestionSystem.results, hcommitted, resultsIn_append, resultsIn_batch]
    rfl
  have hpending : .result o.record ∈ s.store.pending p := by
    rw [hbatch]
    exact List.mem_cons_self
  have hobservations : ∀ id, t.observationsOf id = s.observationsOf id ++
      if o.record.workerResultId = id then
        o.prepared.drafts.map (observationRecord o.record o.createdAt) else [] := by
    intro id
    rw [IngestionSystem.observationsOf, hcommitted, observationsIn_append, observationsIn_batch]
    rfl
  -- the id of the new result is not on any row that was committed before
  have hext : Extends s t := by
    intro other hmem
    refine ⟨by rw [hresults]; exact List.mem_append_left _ hmem, ?_⟩
    rw [hobservations, if_neg (h.workerResultId_ne hpending hmem), List.append_nil]
  have hnone : s.observationsOf o.record.workerResultId = [] := by
    refine List.filter_eq_nil_iff.mpr fun observation hmem => ?_
    obtain ⟨row, hrow, hobservation⟩ := List.mem_filterMap.mp hmem
    obtain ⟨other, hother, hid⟩ := h.owned row hrow observation hobservation
    have hne := h.workerResultId_ne hpending hother
    simp only [decide_eq_true_eq]
    intro heq
    exact hne (heq ▸ hid.symm)
  have hown : t.observationsOf o.record.workerResultId =
      o.prepared.drafts.map (observationRecord o.record o.createdAt) := by
    rw [hobservations, hnone, if_pos rfl, List.nil_append]
  have hlast : o.record ∈ t.results := by
    rw [hresults]
    exact List.mem_append_right _ (List.mem_singleton_self _)
  refine ⟨?_, ?_, ?_, ?_⟩
  · rw [← ht]
    exact h.sound.commit
  · intro record hmem
    rw [hresults] at hmem
    rcases List.mem_append.mp hmem with hmem | hmem
    · exact (h.stored record hmem).mono hext hmem
    · obtain rfl := List.mem_singleton.mp hmem
      exact ⟨p, o.prepared, receivedAt, o.createdAt, hx, hrecord, hown⟩
  · intro row hrow observation hobservation
    rw [hcommitted] at hrow
    rcases List.mem_append.mp hrow with hrow | hrow
    · obtain ⟨other, hother, hid⟩ := h.owned row hrow observation hobservation
      exact ⟨other, (hext other hother).1, hid⟩
    · exact ⟨o.record, hlast, (owned_of_batch hrow hobservation).symm⟩
  · intro q
    by_cases hq : q = p
    · subst hq
      have hphase' : t.phase q = .finished outcome := by rw [← ht]; exact if_pos rfl
      have hempty : t.store.pending q = [] := by rw [← ht]; exact RowStore.commit_pending_self _ _
      rw [hphase']
      refine ⟨hempty, fun _ => ⟨o.record, hlast, ?_, ?_, ?_⟩⟩
      · rw [(workerResultRecord_ids hrecord).1, hx.requestId]
      · rw [← houtcome]
        rfl
      · rw [hown, ← houtcome, List.map_map]
        exact List.Perm.refl _
    · have hphase' : t.phase q = s.phase q := by rw [← ht]; exact if_neg hq
      rw [hphase']
      refine (h.phases q).mono hext ?_
      rw [← ht]
      exact RowStore.commit_pending_ne _ hq

/-- An audit event of something else is committed. -/
theorem Inv.otherAudit (h : Inv env input s) {record : AuditEventRecord}
    (hfree : s.store.Free Row.keys (.audit record)) :
    Inv env input
      { s with store := { s.store with committed := s.store.committed ++ [.audit record] } } := by
  generalize ht : IngestionSystem.mk _ _ _ _ _ = t
  have hresults : t.results = s.results := by
    rw [← ht]
    exact (resultsIn_append _ _).trans (List.append_nil _)
  have hext : Extends s t := by
    intro result hmem
    refine ⟨hresults ▸ hmem, ?_⟩
    rw [← ht]
    exact (observationsIn_append _ _ _).trans (List.append_nil _)
  refine ⟨?_, ?_, ?_, fun q => ?_⟩
  · rw [← ht]
    exact h.sound.appendCommitted hfree
  · intro result hmem
    rw [hresults] at hmem
    exact (h.stored result hmem).mono hext hmem
  · intro row hrow observation hobservation
    rw [hresults]
    rw [← ht] at hrow
    rcases List.mem_append.mp hrow with hrow | hrow
    · exact h.owned row hrow observation hobservation
    · obtain rfl := List.mem_singleton.mp hrow
      cases hobservation
  · have hsame : t.phase q = s.phase q ∧ t.store.pending q = s.store.pending q := by
      rw [← ht]
      exact ⟨rfl, rfl⟩
    rw [hsame.1]
    exact (h.phases q).mono hext hsame.2

/-- **The invariant**: whatever a step does, each result that is there was stored whole by
one call. -/
theorem Inv.step {e : IngestionEvent} (hstep : IngestionStep env input s e t)
    (h : Inv env input s) : Inv env input t := by
  cases hstep with
  | reject hphase hprepare =>
    exact h.goto rfl rfl ⟨h.phase hphase, fun hstatus => absurd rfl hstatus⟩
  | prepare hphase hprepare =>
    exact h.goto rfl rfl ⟨h.phase hphase, prepare_normalized hprepare⟩
  | getFound hphase hmem hid =>
    obtain ⟨hpending, hx⟩ := h.phase hphase
    exact h.goto rfl rfl ⟨hpending, hmem, hid.trans hx.requestId⟩
  | getMissing hphase hnone =>
    obtain ⟨hpending, hx⟩ := h.phase hphase
    exact h.goto rfl rfl ⟨hpending, hx⟩
  | integrity hphase hcheck =>
    exact h.goto rfl rfl ⟨(h.phase hphase).1, fun hstatus => absurd rfl hstatus⟩
  | check receivedAt hphase hcheck hrecord =>
    obtain ⟨hpending, hx⟩ := h.phase hphase
    exact h.goto rfl rfl ⟨hpending, hx, receivedAt, hrecord⟩
  | @insertResult p x record createdAt hphase hfree =>
    obtain ⟨hpending, hx, hrecord⟩ := h.phase hphase
    refine h.insert hfree ⟨hx, hrecord, ?_⟩
    show (s.store.insert p (.result record)).pending p ++ _ = _
    rw [RowStore.insert_pending_self, hpending]
    exact rowsOf_afterInsert x record createdAt
  | conflict hphase htaken =>
    obtain ⟨hpending, hx, -⟩ := h.phase hphase
    exact h.goto rfl rfl ⟨hpending, hx⟩
  | getRaced hphase hmem hid =>
    obtain ⟨hpending, hx⟩ := h.phase hphase
    exact h.goto rfl rfl ⟨hpending, hmem, hid.trans hx.requestId⟩
  | list hphase hids =>
    obtain ⟨hpending, hmem, hid⟩ := h.phase hphase
    exact h.goto rfl rfl ⟨hpending, fun _ => ⟨_, hmem, hid, rfl, hids⟩⟩
  | @insert p o row rest hphase htodo hfree =>
    obtain ⟨hx, hrecord, hbatch⟩ := h.phase hphase
    refine h.insert hfree ⟨hx, hrecord, ?_⟩
    show (s.store.insert p row).pending p ++ rowsOf rest = _
    rw [RowStore.insert_pending_self, List.append_assoc, ← hbatch, htodo]
    rfl
  | @sessions p o rest hphase htodo =>
    obtain ⟨hx, hrecord, hbatch⟩ := h.phase hphase
    refine h.goto rfl rfl ⟨hx, hrecord, ?_⟩
    show _ ++ rowsOf (_ ++ rest) = _
    rw [rowsOf_append, rowsOf_session, List.nil_append, ← hbatch, htodo]
    rfl
  | put hphase htodo =>
    obtain ⟨hx, hrecord, hbatch⟩ := h.phase hphase
    exact h.goto rfl rfl ⟨hx, hrecord, by rw [← hbatch, htodo]; rfl⟩
  | delete hphase htodo =>
    obtain ⟨hx, hrecord, hbatch⟩ := h.phase hphase
    exact h.goto rfl rfl ⟨hx, hrecord, by rw [← hbatch, htodo]; rfl⟩
  | setState hphase htodo hid =>
    obtain ⟨hx, hrecord, hbatch⟩ := h.phase hphase
    exact h.goto rfl rfl ⟨hx, hrecord, by rw [← hbatch, htodo]; rfl⟩
  | commit hphase htodo => exact h.commit hphase htodo _
  | @fail p hopen =>
    refine h.of_call p rfl h.sound.rollback ?_ ?_
    · intro q hq
      exact ⟨if_neg hq, RowStore.rollback_pending_ne _ hq⟩
    · have hp :
          (({ s with store := s.store.rollback p } : IngestionSystem).goto p .raised).phase p =
            .raised := if_pos rfl
      rw [hp]
      exact RowStore.rollback_pending_self _ _
  | other => exact ⟨h.sound, h.stored, h.owned, fun q => (h.phases q).mono
      (extends_of_committed rfl) rfl⟩
  | @otherAudit record hfree => exact h.otherAudit hfree

/-! ## Failed calls leave no trace -/

/-- The call has raised, or has rejected the invocation. -/
def Phase.failed : Phase → Bool
  | .raised => true
  | .finished outcome => outcome.status == .rejectedInvalidInvocation
  | _ => false

/-- What the call answers, where that is not a rejection. -/
def Phase.answer : Phase → Option IngestionOutcome
  | .finished outcome =>
    if outcome.status = .rejectedInvalidInvocation then none else some outcome
  | _ => none

/-- The call has changed something, and has not failed. -/
def Phase.Marked (phase : Phase) : Prop :=
  (∃ o, phase = .recorded o ∧ o.secretsChanged = true) ∨
    ∃ outcome, phase = .finished outcome ∧ outcome.status ≠ .rejectedInvalidInvocation

/-- No call fails between its change of the secret store and its commit. -/
def FailsClean (s : IngestionSystem) : IngestionEvent → Prop
  | .fail p => ∀ o, s.phase p = .recorded o → o.secretsChanged = false
  | _ => True

theorem Phase.Marked.not_failed {phase : Phase} (h : phase.Marked) : phase.failed = false := by
  rcases h with ⟨o, rfl, -⟩ | ⟨outcome, rfl, hstatus⟩
  · rfl
  · exact beq_eq_false_iff_ne.mpr hstatus

theorem ingested_status_ne (record : WorkerResultRecord) (ids : List Text) :
    (IngestionOutcome.ingested record ids).status ≠ .rejectedInvalidInvocation := by
  unfold IngestionOutcome.ingested
  by_cases hids : ids = []
  · simp [hids]
  · simp [hids]

theorem goto_phase_self (s : IngestionSystem) (p : CallId) (phase : Phase) :
    (s.goto p phase).phase p = phase := if_pos rfl

theorem goto_phase_ne (s : IngestionSystem) {p q : CallId} (phase : Phase) (h : q ≠ p) :
    (s.goto p phase).phase q = s.phase q := if_neg h

/-- **What changes either store** is a step of a call that is marked by it, or somebody
else's. -/
theorem marked_of_changed {e : IngestionEvent} (hstep : IngestionStep env input s e t)
    (hcaller : e.caller = some p)
    (hchanged : ¬ (t.database = s.database ∧ t.secrets = s.secrets)) : (t.phase p).Marked := by
  cases hstep with
  | commit hphase htodo =>
    cases hcaller
    rw [goto_phase_self]
    exact .inr ⟨_, rfl, ingested_status_ne _ _⟩
  | @put q o reference value rest hphase htodo =>
    cases hcaller
    rw [goto_phase_self]
    refine .inl ⟨_, rfl, ?_⟩
    by_cases hsame : s.secrets reference.name = some value
    · refine absurd ⟨rfl, funext fun name => ?_⟩ hchanged
      show (if name = reference.name then some value else s.secrets name) = s.secrets name
      by_cases hname : name = reference.name
      · rw [if_pos hname, hname, hsame]
      · rw [if_neg hname]
    · simp [hsame]
  | @delete q o reference rest hphase htodo =>
    cases hcaller
    rw [goto_phase_self]
    refine .inl ⟨_, rfl, ?_⟩
    by_cases hsame : s.secrets reference.name = none
    · refine absurd ⟨rfl, funext fun name => ?_⟩ hchanged
      show (if name = reference.name then none else s.secrets name) = s.secrets name
      by_cases hname : name = reference.name
      · rw [if_pos hname, hname, hsame]
      · rw [if_neg hname]
    · simp [hsame]
  | other => cases hcaller
  | otherAudit hfree => cases hcaller
  | _ => exact absurd ⟨rfl, rfl⟩ hchanged

/-- A step of one call leaves the others where they are. -/
theorem phase_of_other {e : IngestionEvent} (hstep : IngestionStep env input s e t)
    (hcaller : e.caller ≠ some p) : t.phase p = s.phase p := by
  cases hstep with
  | other => rfl
  | otherAudit hfree => rfl
  | _ => exact goto_phase_ne _ _ fun hp => hcaller (congrArg some hp.symm)

theorem Phase.Marked.recorded {o : OpenIngestion} (h : (Phase.recorded o).Marked) :
    o.secretsChanged = true := by
  rcases h with ⟨o', ho, hchanged⟩ | ⟨outcome, houtcome, -⟩
  · cases ho
    exact hchanged
  · cases houtcome

/-- Only an open transaction and an answer are marked. -/
theorem Phase.Marked.cases {phase : Phase} (h : phase.Marked) :
    (∃ o, phase = .recorded o) ∨ ∃ outcome, phase = .finished outcome :=
  h.imp (fun ⟨o, ho, _⟩ => ⟨o, ho⟩) fun ⟨outcome, houtcome, _⟩ => ⟨outcome, houtcome⟩

/-- A call that is marked stays marked, as long as no call fails that has changed the
secret store. -/
theorem marked_step {e : IngestionEvent}
    (hstep : Guarded (IngestionStep env input) FailsClean s e t) (h : (s.phase p).Marked) :
    (t.phase p).Marked := by
  obtain ⟨hstep, hclean⟩ := hstep
  by_cases hcaller : e.caller = some p
  · cases hstep with
    | other => cases hcaller
    | otherAudit hfree => cases hcaller
    | commit hphase htodo =>
      cases hcaller
      rw [goto_phase_self]
      exact .inr ⟨_, rfl, ingested_status_ne _ _⟩
    | fail hopen =>
      cases hcaller
      rcases h.cases with ⟨o, ho⟩ | ⟨outcome, houtcome⟩
      · rw [ho] at h
        have hchanged : o.secretsChanged = true := h.recorded
        rw [hclean o ho] at hchanged
        cases hchanged
      · rw [houtcome] at hopen
        cases hopen
    | insert hphase htodo hfree =>
      cases hcaller
      rw [hphase] at h
      rw [goto_phase_self]
      exact .inl ⟨_, rfl, h.recorded⟩
    | sessions hphase htodo =>
      cases hcaller
      rw [hphase] at h
      rw [goto_phase_self]
      exact .inl ⟨_, rfl, h.recorded⟩
    | put hphase htodo =>
      cases hcaller
      rw [hphase] at h
      rw [goto_phase_self]
      exact .inl ⟨_, rfl, by rw [h.recorded, Bool.true_or]⟩
    | delete hphase htodo =>
      cases hcaller
      rw [hphase] at h
      rw [goto_phase_self]
      exact .inl ⟨_, rfl, by rw [h.recorded, Bool.true_or]⟩
    | setState hphase htodo hid =>
      cases hcaller
      rw [hphase] at h
      rw [goto_phase_self]
      exact .inl ⟨_, rfl, h.recorded⟩
    | reject hphase _ | prepare hphase _ | getFound hphase _ _ | getMissing hphase _
      | integrity hphase _ | check _ hphase _ _ | insertResult _ hphase _ | conflict hphase _
      | getRaced hphase _ _ | list hphase _ =>
      cases hcaller
      rcases (hphase ▸ h).cases with ⟨_, ho⟩ | ⟨_, ho⟩ <;> cases ho
  · rw [phase_of_other hstep hcaller]
    exact h

/-! ## The whole run -/

/-- Nothing is ingested, and nobody has started. -/
structure Initial (s : IngestionSystem) : Prop where
  committed : s.store.committed = []
  pending : ∀ p, s.store.pending p = []
  phase : ∀ p, s.phase p = .idle

/-- Each request is ingested once. -/
structure IngestedOnce (env : Collaborators) (input : CallId → IngestionCall)
    (t : IngestionSystem) : Prop where
  results : ∀ requestId, (t.results.filter (·.requestId = requestId)).length ≤ 1
  /-- The observations of a result are those that its own documents are normalized to. -/
  observations : ∀ record ∈ t.results, Stored env input t record
  answers : ∀ p a, (t.phase p).answer = some a → Answers t (input p) a
  agreement : ∀ p q a b, (t.phase p).answer = some a → (t.phase q).answer = some b →
    (input p).request.correlation.requestId = (input q).request.correlation.requestId →
      a.workerResultId = b.workerResultId ∧ a.observationIds.Perm b.observationIds

/-- What a call has done that fails in the end has changed neither store. -/
def FailuresLeaveNoTrace (step : IngestionSystem → IngestionEvent → IngestionSystem → Prop)
    (s t : IngestionSystem) : Prop :=
  ∀ es a e b es' p, Run step s es a → step a e b → Run step b es' t → e.caller = some p →
    (t.phase p).failed = true → b.database = a.database ∧ b.secrets = a.secrets

theorem Initial.inv (h : Initial s) : Inv env input s := by
  have hresults : s.results = [] := by rw [IngestionSystem.results, h.committed]; rfl
  refine ⟨⟨fun p => ?_, fun p q _ a ha => ?_⟩, fun record hmem => ?_, fun row hrow => ?_,
    fun p => ?_⟩
  · rw [RowStore.visible_of_nil (h.pending p), h.committed]
    exact List.Pairwise.nil
  · rw [h.pending] at ha
    exact (List.not_mem_nil ha).elim
  · rw [hresults] at hmem
    exact (List.not_mem_nil hmem).elim
  · rw [h.committed] at hrow
    exact (List.not_mem_nil hrow).elim
  · rw [h.phase]
    exact h.pending p

theorem Inv.results_le (h : Inv env input s) (requestId : Text) :
    (s.results.filter (·.requestId = requestId)).length ≤ 1 := by
  have hresults : Distinct (fun record : WorkerResultRecord => [record.requestId]) s.results := by
    refine (h.sound.committed 0).filterMap Row.asResult fun a b x y hx hy hclash => ?_
    obtain ⟨id, hxid, hyid⟩ := hclash
    obtain rfl := List.mem_singleton.mp hxid
    have hid := List.mem_singleton.mp hyid
    cases a <;> cases hx
    cases b <;> cases hy
    exact ⟨.request x.requestId, by simp [Row.keys], by simp [Row.keys, hid]⟩
  refine hresults.length_filter_le _ requestId fun record _ hid => ?_
  rw [of_decide_eq_true hid]
  exact List.mem_singleton_self _

/-- Two results of one request are one. -/
theorem Inv.eq_of_requestId (h : Inv env input s) {a b : WorkerResultRecord}
    (ha : a ∈ s.results) (hb : b ∈ s.results) (hid : a.requestId = b.requestId) : a = b := by
  have hrow := (h.sound.committed 0).eq_of_clash (mem_resultsIn.mp ha) (mem_resultsIn.mp hb)
    ⟨.request b.requestId, by simp [Row.keys, hid], by simp [Row.keys]⟩
  cases hrow
  rfl

theorem Inv.answers (h : Inv env input s) {a : IngestionOutcome}
    (ha : (s.phase p).answer = some a) : Answers s (input p) a := by
  have hp := h.phases p
  generalize hphase : s.phase p = phase at ha hp
  cases phase with
  | finished outcome =>
    by_cases hstatus : outcome.status = .rejectedInvalidInvocation
    · simp [Phase.answer, hstatus] at ha
    · obtain rfl : outcome = a := by simpa [Phase.answer, hstatus] using ha
      exact hp.2 hstatus
  | _ => cases ha

theorem Inv.ingestedOnce (h : Inv env input s) : IngestedOnce env input s := by
  refine ⟨h.results_le, h.stored, fun p a ha => h.answers ha, ?_⟩
  intro p q a b ha hb hsame
  obtain ⟨record, hmem, hid, hresult, hids⟩ := h.answers ha
  obtain ⟨other, hother, hid', hresult', hids'⟩ := h.answers hb
  obtain rfl := h.eq_of_requestId hmem hother (by rw [hid, hid', hsame])
  exact ⟨hresult.trans hresult'.symm, hids.trans hids'.symm⟩

theorem marked_run {es : List IngestionEvent}
    (hrun : Run (Guarded (IngestionStep env input) FailsClean) s es t)
    (h : (s.phase p).Marked) : (t.phase p).Marked :=
  hrun.invariant (I := fun u => (u.phase p).Marked) (fun _ _ _ hstep hs => marked_step hstep hs) h

/-- **Ingestion is exactly once.**  In every run in which no call fails between its
change of the secret store and its commit, each request has one result at most, with
the observations that its documents are normalized to; whoever is not rejected answers
that result, and whoever fails has changed nothing. -/
theorem exactly_once_ingestion (env : Collaborators) (input : CallId → IngestionCall)
    {s t : IngestionSystem} {es : List IngestionEvent} (hstart : Initial s)
    (hrun : Run (Guarded (IngestionStep env input) FailsClean) s es t) :
    IngestedOnce env input t ∧
      FailuresLeaveNoTrace (Guarded (IngestionStep env input) FailsClean) s t := by
  have hinv : Inv env input t :=
    hrun.invariant (fun _ _ _ hstep hs => hs.step hstep.1) hstart.inv
  refine ⟨hinv.ingestedOnce, ?_⟩
  intro _ a e b _ p _ hstep hafter hcaller hfailed
  by_contra hchanged
  have hmarked := marked_run hafter (marked_of_changed hstep.1 hcaller hchanged)
  rw [hmarked.not_failed] at hfailed
  cases hfailed

end System

/-! ## A login whose ingestion fails late -/

/-- The normalizer of logins, for one result. -/
def loginCollaborators : Collaborators where
  validateWorkerRequest _ := .ok ()
  validateWorkerResult _ := .ok ()
  normalizer capability action :=
    if capability = .httpAuthentication ∧ action = "login".toList then
      .ok fun _ _ => .ok [{
        observationKind := "HTTP_AUTHENTICATION".toList
        payload := [("status_code".toList, .integer 200),
          ("session_established".toList, .bool true)]
        normalizationVersion := "http.authentication.v1".toList
        observedAt := 1767225600 }]
    else .error "no Transition A normalizer".toList
  parseAwareTimestamp
    | .text _ => .ok 1767225600
    | _ => .error "completed_at must be a timezone-aware timestamp".toList
  secretPort := true
  actorId := "control-plane".toList

/-- A login that has established `session-1`. -/
def loginCall : IngestionCall where
  request := {
    correlation := {
      correlationId := "correlation-1".toList, researchRunId := "run-1".toList
      experimentId := "experiment-1".toList, requestId := "request-1".toList
      parentRequestId := none }
    workerCapability := some .httpAuthentication
    action := some "login".toList
    authorizationDecisionReference := "decision-1".toList
    budgetId := "budget-1".toList
    sideEffectLevel := 1
    arguments := some fun key =>
      if key = "session_context_id".toList then some (.text "session-1".toList) else none }
  outcome := {
    invocationStatus := .completed
    workerResult := some {
      correlation := some {
        correlationId := "correlation-1".toList, researchRunId := "run-1".toList
        experimentId := "experiment-1".toList, requestId := "request-1".toList }
      contractVersion := "v1".toList
      workerId := "http.authentication".toList
      status := "SUCCEEDED".toList
      startedAt := .null
      completedAt := .text "2026-01-01T00:00:00Z".toList
      rawResult := .object [("status_code".toList, .integer 200),
        ("session_established".toList, .bool true)]
      rawArtifactDescriptors := .null
      diagnostics := .null
      controlSignal := .null
      ephemeralSecrets := .object [("session_cookie".toList, .text "sid=1".toList)] } }

def loginPrepared : Prepared := (prepare loginCollaborators loginCall).toOption.get rfl

def loginRecord : WorkerResultRecord :=
  (workerResultRecord loginCollaborators loginPrepared 1767225601).toOption.get rfl

/-- The session is authenticating, and nothing is ingested. -/
def loginStart : IngestionSystem where
  store := ⟨[], fun _ => []⟩
  sessions := fun id =>
    if id = "session-1".toList then some {
      sessionContextId := "session-1".toList, researchRunId := "run-1".toList
      identityId := "identity-1".toList, actorReference := "actor-1".toList
      origin := "https://a.example".toList
      authenticationProfileReference := "profile-1".toList
      secretScheme := "SESSION_MATERIAL".toList
      secretName := (sessionMaterialReference "session-1".toList).name
      state := .authenticating, expiresAt := none, sessionCookieName := none }
    else none
  experiments := fun id =>
    if id = "experiment-1".toList then some ⟨"run-1".toList, "budget-1".toList⟩ else none
  secrets := fun _ => none
  phase := fun _ => .idle

/-- The ingestion once the result and its observation are written and the session is
read. -/
def loginOpen : OpenIngestion where
  prepared := loginPrepared
  record := loginRecord
  createdAt := 1767225602
  todo := .session (.put (sessionMaterialReference "session-1".toList) "sid=1".toList) ::
    .session (.setState .active) ::
      (auditEvents loginCollaborators loginRecord loginPrepared.drafts 1767225602).map
        (.insert <| .audit ·)
  states := []
  secretsChanged := false

theorem loginStart_initial : Initial loginStart where
  committed := rfl
  pending _ := rfl
  phase _ := rfl

/-- The rows that the ingestion has written when it comes to the session. -/
def loginRows : List Row :=
  .result loginRecord :: loginPrepared.drafts.map
    (.observation <| observationRecord loginRecord 1767225602 ·)

/-- Nobody but the first call has written, and it these rows. -/
structure Alone (store : RowStore CallId Row) (rows : List Row) : Prop where
  committed : store.committed = []
  others : ∀ q, q ≠ 0 → store.pending q = []
  own : store.pending 0 = rows

theorem Alone.free {store : RowStore CallId Row} {rows : List Row} (h : Alone store rows)
    {row : Row} (hrows : ∀ other ∈ rows, ¬ Clash Row.keys other row) : store.Free Row.keys row :=
  RowStore.free_of_alone h.committed h.others (h.own ▸ hrows)

theorem Alone.insert {store : RowStore CallId Row} {rows : List Row} (h : Alone store rows)
    (row : Row) : Alone (store.insert 0 row) (rows ++ [row]) where
  committed := h.committed
  others q hq := (RowStore.insert_pending_ne _ _ hq).trans (h.others q hq)
  own := (RowStore.insert_pending_self _ _ _).trans (by rw [h.own])

/-- The rows of different tables have no keys in common. -/
theorem not_clash_of_keys {a b : Row} (h : ∀ key ∈ a.keys, key ∉ b.keys) : ¬ Clash Row.keys a b :=
  fun ⟨key, ha, hb⟩ => h key ha hb

theorem login_call {s a b : IngestionSystem} {es : List IngestionEvent} {p : CallId}
    (hrun : Run (Guarded (IngestionStep loginCollaborators fun _ => loginCall) FailsClean) s es a)
    (hstep : IngestionStep loginCollaborators (fun _ => loginCall) a (.call p) b) :
    Run (Guarded (IngestionStep loginCollaborators fun _ => loginCall) FailsClean) s
      (es ++ [.call p]) b :=
  hrun.snoc ⟨hstep, trivial⟩

theorem login_reaches : ∃ es a,
    Run (Guarded (IngestionStep loginCollaborators fun _ => loginCall) FailsClean) loginStart es a ∧
      a.phase 0 = .recorded loginOpen ∧ a.secrets = (fun _ => none) ∧ Alone a.store loginRows := by
  have hstart : Alone loginStart.store [] := ⟨rfl, fun _ _ => rfl, rfl⟩
  have hfree : loginStart.store.Free Row.keys (.result loginRecord) :=
    hstart.free fun _ h => (List.not_mem_nil h).elim
  have hresult : Alone (loginStart.store.insert 0 (.result loginRecord)) [.result loginRecord] :=
    hstart.insert _
  have hfree' : ∀ o, (loginStart.store.insert 0 (.result loginRecord)).Free Row.keys
      (.observation o) := by
    intro o
    refine hresult.free fun other hother => ?_
    obtain rfl := List.mem_singleton.mp hother
    exact not_clash_of_keys (by simp [Row.keys])
  have hprepared := login_call (.nil loginStart) (.prepare (p := 0) (x := loginPrepared) rfl rfl)
  have hmissing := login_call hprepared
    (.getMissing (p := 0) rfl fun _ h => (List.not_mem_nil h).elim)
  have hchecked := login_call hmissing
    (@IngestionStep.check _ _ _ 0 loginPrepared loginRecord 1767225601 rfl rfl rfl)
  have hrecorded := login_call hchecked (.insertResult (p := 0) 1767225602 rfl hfree)
  have hobserved := login_call hrecorded (.insert (p := 0) rfl rfl (hfree' _))
  have hread := login_call hobserved (.sessions (p := 0) rfl rfl)
  exact ⟨_, _, hread, rfl, rfl, hresult.insert _⟩

/-- **A failed login leaves its session material behind.**  The call has put the
material, and fails at the audit event of the result. -/
theorem failed_login_leaves_secret :
    ¬ ∀ (env : Collaborators) (input : CallId → IngestionCall) (s t : IngestionSystem)
      (es : List IngestionEvent), Initial s → Run (IngestionStep env input) s es t →
        IngestedOnce env input t ∧ FailuresLeaveNoTrace (IngestionStep env input) s t := by
  intro hall
  obtain ⟨es, a, hguarded, hphase, hsecrets, -⟩ := login_reaches
  have hrun : Run (IngestionStep loginCollaborators fun _ => loginCall) loginStart es a :=
    hguarded.mono fun _ _ _ h => h.1
  have hput : IngestionStep loginCollaborators (fun _ => loginCall) a (.call 0) _ :=
    .put hphase rfl
  generalize hb : IngestionSystem.goto _ 0 _ = b at hput
  have hopen : (b.phase 0).over = false := by rw [← hb]; rfl
  have hfail : IngestionStep loginCollaborators (fun _ => loginCall) b (.fail 0) _ := .fail hopen
  have hend := (hall _ _ _ _ _ loginStart_initial ((hrun.snoc hput).snoc hfail)).2
  have hsame := (hend _ _ _ _ _ 0 hrun hput ((Run.nil _).snoc hfail) rfl rfl).2
  have hname := congrFun hsame (sessionMaterialReference "session-1".toList).name
  rw [hsecrets, ← hb] at hname
  cases hname

/-- The login is ingested when the audit events and the commit go through. -/
theorem exactly_once_ingestion_login :
    Initial loginStart ∧ ∃ es t,
      Run (Guarded (IngestionStep loginCollaborators fun _ => loginCall) FailsClean)
        loginStart es t ∧
      t.results = [loginRecord] ∧ IngestedOnce loginCollaborators (fun _ => loginCall) t ∧
        FailuresLeaveNoTrace
          (Guarded (IngestionStep loginCollaborators fun _ => loginCall) FailsClean)
          loginStart t := by
  obtain ⟨es, a, hrun, hphase, -, halone⟩ := login_reaches
  have hput := login_call hrun (.put (p := 0) hphase rfl)
  have hactive := login_call hput
    (@IngestionStep.setState _ _ _ 0 _ _ "session-1".toList _ rfl rfl rfl)
  have hfree : ∀ audit, a.store.Free Row.keys (.audit audit) := by
    intro audit
    refine halone.free fun other hother => ?_
    rcases List.mem_cons.mp hother with rfl | hother
    · exact not_clash_of_keys (by simp [Row.keys])
    · obtain ⟨draft, -, rfl⟩ := List.mem_map.mp hother
      exact not_clash_of_keys (by simp [Row.keys])
  have haudited := login_call hactive (.insert (p := 0) rfl rfl (hfree _))
  have hfree' : ∀ audit : AuditEventRecord,
      audit.auditEventId ≠ "ae:wr:request-1".toList →
      (a.store.insert 0 (.audit (resultAuditEvent loginCollaborators loginRecord
        loginPrepared.drafts 1767225602))).Free Row.keys (.audit audit) := by
    intro audit hid
    refine (halone.insert _).free fun other hother => ?_
    rcases List.mem_append.mp hother with hother | hother
    · rcases List.mem_cons.mp hother with rfl | hother
      · exact not_clash_of_keys (by simp [Row.keys])
      · obtain ⟨draft, -, rfl⟩ := List.mem_map.mp hother
        exact not_clash_of_keys (by simp [Row.keys])
    · obtain rfl := List.mem_singleton.mp hother
      refine not_clash_of_keys fun key hkey hkey' => hid ?_
      obtain rfl := List.mem_singleton.mp hkey
      have hkey' := List.mem_singleton.mp hkey'
      injection hkey' with hid
      exact hid.symm
  have haudited' := login_call haudited (.insert (p := 0) rfl rfl (hfree' _ (by decide)))
  have hcommitted := login_call haudited' (.commit (p := 0) rfl rfl)
  refine ⟨loginStart_initial, _, _, hcommitted, ?_,
    exactly_once_ingestion _ _ loginStart_initial hcommitted⟩
  have hown := fun x y => ((halone.insert (.audit x)).insert (.audit y)).own
  exact congrArg resultsIn (congrArg₂ (· ++ ·) halone.committed (hown _ _))

end Zest.Ingestion

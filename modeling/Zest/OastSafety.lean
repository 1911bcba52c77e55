import Zest.OastAdmission
import Zest.TransitionSystem
import Zest.UniqueRows

/-! # One admission for each correlation

Deliveries and armings run beside each other, each in one transaction.  A delivery
is entered in the ledger first; then it looks for the admission of its correlation, and
makes one if there is none.  Of two that have both found none, one loses at its next
insert, reads the other's admission, and answers with it without a commit: its entry in
the ledger is rolled back.

As long as no delivery loses to an admission in this way, each correlation has one
admission, and no delivery is lost (`one_authoritative_admission`).
-/
namespace Zest.Oast

open Discovery TransitionSystem UniqueRows

abbrev CallId := Nat

inductive Call where
  | arm (command : ArmCommand)
  | deliver (delivery : OastCallbackDelivery)
  | legacy (tokenExpiresAt : Option Instant) (occurredAt : Instant)

/-! ## The tables -/

inductive Row where
  | correlation (record : OastCorrelationRecord)
  | delivery (record : OastCallbackDelivery)
  | observation (record : SensorObservationRecord)
  | fact (record : DiscoveryFactRow)
  | source (record : DiscoveryFactSourceRecord)
  | admission (record : OastAdmissionRecord)

/-- The primary keys and the unique constraints. -/
inductive UniqueKey where
  | correlation (correlationId : Text)
  | attempt (attemptId : Text)
  | delivery (deliveryId : Text)
  | providerEvent (providerAdapterId providerEventId : Text)
  | correlationDigest (correlationId normalizedDigest : Text)
  | observation (observationId : Text)
  | fact (factId : Text)
  | factKey (researchRunId : Text) (canonicalKey : CanonicalKey)
  | source (sourceRowId : Text)
  | admission (admissionId : Text)
  | admissionCorrelation (correlationId : Text)
  deriving DecidableEq

namespace Row

def keys : Row → List UniqueKey
  | .correlation c => [.correlation c.correlationId, .attempt c.attemptId]
  | .delivery d => [.delivery d.deliveryId, .providerEvent d.providerAdapterId d.providerEventId,
      .correlationDigest d.correlationId d.normalizedDigest]
  | .observation o => [.observation o.observationId]
  | .fact f => [.fact f.factId, .factKey f.researchRunId f.canonicalKey]
  | .source r => [.source r.sourceRowId]
  | .admission a => [.admission a.admissionId, .admissionCorrelation a.correlationId]

def asCorrelation : Row → Option OastCorrelationRecord
  | .correlation record => some record
  | _ => none

def asDelivery : Row → Option OastCallbackDelivery
  | .delivery record => some record
  | _ => none

def asObservation : Row → Option SensorObservationRecord
  | .observation record => some record
  | _ => none

def asFact : Row → Option DiscoveryFactRow
  | .fact record => some record
  | _ => none

def asAdmission : Row → Option OastAdmissionRecord
  | .admission record => some record
  | _ => none

@[simp] theorem asCorrelation_eq_some {row : Row} {c : OastCorrelationRecord} :
    row.asCorrelation = some c ↔ row = .correlation c := by
  cases row <;> simp [asCorrelation]

@[simp] theorem asDelivery_eq_some {row : Row} {d : OastCallbackDelivery} :
    row.asDelivery = some d ↔ row = .delivery d := by
  cases row <;> simp [asDelivery]

@[simp] theorem asObservation_eq_some {row : Row} {o : SensorObservationRecord} :
    row.asObservation = some o ↔ row = .observation o := by
  cases row <;> simp [asObservation]

@[simp] theorem asFact_eq_some {row : Row} {f : DiscoveryFactRow} :
    row.asFact = some f ↔ row = .fact f := by
  cases row <;> simp [asFact]

@[simp] theorem asAdmission_eq_some {row : Row} {a : OastAdmissionRecord} :
    row.asAdmission = some a ↔ row = .admission a := by
  cases row <;> simp [asAdmission]

end Row

/-! ## The calls together -/

/-- A statement that an admission still has to make. -/
inductive Statement where
  | insert (row : Row)
  /-- `admit_in_uow`. -/
  | admitInUow (observation : SensorObservation)

inductive Phase where
  | idle
  /-- The rows fit together, and the attempt has no correlation yet. -/
  | arming (record : OastCorrelationRecord)
  | armConflicted
  | armInserted (record : OastCorrelationRecord)
  | armed (record : OastCorrelationRecord) (existing : Bool)
  /-- The delivery has passed the check. -/
  | bound (c : OastCorrelationRecord)
  /-- The ledger has the delivery already. -/
  | refused (c : OastCorrelationRecord)
  | ledgered (c : OastCorrelationRecord)
  /-- Has found the admission of another delivery. -/
  | retained (admission : OastAdmissionRecord)
  | admitting (c : OastCorrelationRecord) (todo : List Statement)
  | conflicted (c : OastCorrelationRecord)
  | answered (result : OastCallbackAdmissionResult)
  | raised

/-- The call has returned, or has raised. -/
def Phase.over : Phase → Bool
  | .armed _ _ | .answered _ | .raised => true
  | _ => false

structure OastSystem where
  store : RowStore CallId Row
  phase : CallId → Phase

inductive OastEvent where
  | call (p : CallId)
  | fail (p : CallId)

namespace OastSystem

def correlations (s : OastSystem) : List OastCorrelationRecord :=
  s.store.committed.filterMap Row.asCorrelation

/-- The delivery ledger. -/
def deliveries (s : OastSystem) : List OastCallbackDelivery :=
  s.store.committed.filterMap Row.asDelivery

def observations (s : OastSystem) : List SensorObservationRecord :=
  s.store.committed.filterMap Row.asObservation

def facts (s : OastSystem) : List DiscoveryFactRow := s.store.committed.filterMap Row.asFact

def admissions (s : OastSystem) : List OastAdmissionRecord :=
  s.store.committed.filterMap Row.asAdmission

/-- The admissions that a transaction sees. -/
def seenAdmissions (s : OastSystem) (p : CallId) : List OastAdmissionRecord :=
  (s.store.visible p).filterMap Row.asAdmission

@[simp] theorem mem_correlations {s : OastSystem} {c : OastCorrelationRecord} :
    c ∈ s.correlations ↔ .correlation c ∈ s.store.committed := by
  simp [correlations]

@[simp] theorem mem_deliveries {s : OastSystem} {d : OastCallbackDelivery} :
    d ∈ s.deliveries ↔ .delivery d ∈ s.store.committed := by
  simp [deliveries]

@[simp] theorem mem_observations {s : OastSystem} {o : SensorObservationRecord} :
    o ∈ s.observations ↔ .observation o ∈ s.store.committed := by
  simp [observations]

@[simp] theorem mem_facts {s : OastSystem} {f : DiscoveryFactRow} :
    f ∈ s.facts ↔ .fact f ∈ s.store.committed := by
  simp [facts]

@[simp] theorem mem_admissions {s : OastSystem} {a : OastAdmissionRecord} :
    a ∈ s.admissions ↔ .admission a ∈ s.store.committed := by
  simp [admissions]

@[simp] theorem mem_seenAdmissions {s : OastSystem} {p : CallId} {a : OastAdmissionRecord} :
    a ∈ s.seenAdmissions p ↔
      .admission a ∈ s.store.committed ∨ .admission a ∈ s.store.pending p := by
  simp [seenAdmissions, RowStore.visible]

/-- The call moves on. -/
def goto (s : OastSystem) (p : CallId) (phase : Phase) : OastSystem :=
  { s with phase := fun q => if q = p then phase else s.phase q }

/-- The call moves on, with a row more. -/
def insert (s : OastSystem) (p : CallId) (row : Row) (phase : Phase) : OastSystem :=
  ({ s with store := s.store.insert p row } : OastSystem).goto p phase

/-- The call returns without a commit. -/
def rollback (s : OastSystem) (p : CallId) (phase : Phase) : OastSystem :=
  ({ s with store := s.store.rollback p } : OastSystem).goto p phase

def commit (s : OastSystem) (p : CallId) (phase : Phase) : OastSystem :=
  ({ s with store := s.store.commit p } : OastSystem).goto p phase

end OastSystem

section System

variable (formats : Formats) (spine : ExecutionSpine) (maxTtl : Int) (input : CallId → Call)

/-- One statement of one call, its commit or its failure.  An insert waits while another
open transaction has one of its keys. -/
inductive OastStep (s : OastSystem) : OastEvent → OastSystem → Prop where
  | arm {p : CallId} {command : ArmCommand} {now createdAt : Instant} {id : Text}
      {record : OastCorrelationRecord} (h : s.phase p = .idle) (hinput : input p = .arm command)
      (hrecord : armRecord spine maxTtl command now createdAt id = .ok record)
      (hnone : ∀ c ∈ s.correlations, c.attemptId ≠ command.attemptId) :
      OastStep s (.call p) (s.goto p (.arming record))
  | armExisting {p : CallId} {command : ArmCommand} {now createdAt : Instant} {id : Text}
      {record c : OastCorrelationRecord} (h : s.phase p = .idle)
      (hinput : input p = .arm command)
      (hrecord : armRecord spine maxTtl command now createdAt id = .ok record)
      (hmem : c ∈ s.correlations) (hid : c.attemptId = command.attemptId) :
      OastStep s (.call p) (s.goto p (.armed c true))
  | armInsert {p : CallId} {record : OastCorrelationRecord} (h : s.phase p = .arming record)
      (hfree : s.store.Free Row.keys (.correlation record)) :
      OastStep s (.call p) (s.insert p (.correlation record) (.armInserted record))
  | armConflict {p : CallId} {record : OastCorrelationRecord} (h : s.phase p = .arming record)
      (htaken : s.store.Taken Row.keys p (.correlation record)) :
      OastStep s (.call p) (s.goto p .armConflicted)
  /-- Without such a row the conflict is raised again, which is a failure. -/
  | armRaced {p : CallId} {command : ArmCommand} {c : OastCorrelationRecord}
      (h : s.phase p = .armConflicted) (hinput : input p = .arm command)
      (hmem : c ∈ s.correlations) (hid : c.attemptId = command.attemptId) :
      OastStep s (.call p) (s.goto p (.armed c true))
  | armCommit {p : CallId} {record : OastCorrelationRecord} (h : s.phase p = .armInserted record) :
      OastStep s (.call p) (s.commit p (.armed record false))
  | legacy {p : CallId} {tokenExpiresAt : Option Instant} {occurredAt : Instant}
      (h : s.phase p = .idle) (hinput : input p = .legacy tokenExpiresAt occurredAt) :
      OastStep s (.call p)
        (s.goto p (.answered (executeLegacyTokenCallback tokenExpiresAt occurredAt)))
  | unknown {p : CallId} {d : OastCallbackDelivery} (h : s.phase p = .idle)
      (hinput : input p = .deliver d)
      (hnone : ∀ c ∈ s.correlations, c.correlationId ≠ d.correlationId) :
      OastStep s (.call p) (s.goto p (.answered (.rejected .correlationNotFound)))
  | unbound {p : CallId} {d : OastCallbackDelivery} {c : OastCorrelationRecord}
      {reason : ReasonCode} (h : s.phase p = .idle) (hinput : input p = .deliver d)
      (hmem : c ∈ s.correlations) (hid : c.correlationId = d.correlationId)
      (hreason : validateBinding spine d.receivedAt c = some reason) :
      OastStep s (.call p) (s.goto p (.answered (.rejected reason)))
  | bind {p : CallId} {d : OastCallbackDelivery} {c : OastCorrelationRecord}
      (h : s.phase p = .idle) (hinput : input p = .deliver d)
      (hmem : c ∈ s.correlations) (hid : c.correlationId = d.correlationId)
      (hreason : validateBinding spine d.receivedAt c = none) :
      OastStep s (.call p) (s.goto p (.bound c))
  | enter {p : CallId} {d : OastCallbackDelivery} {c : OastCorrelationRecord}
      (h : s.phase p = .bound c) (hinput : input p = .deliver d)
      (hfree : s.store.Free Row.keys (.delivery d)) :
      OastStep s (.call p) (s.insert p (.delivery d) (.ledgered c))
  | refuse {p : CallId} {d : OastCallbackDelivery} {c : OastCorrelationRecord}
      (h : s.phase p = .bound c) (hinput : input p = .deliver d)
      (htaken : s.store.Taken Row.keys p (.delivery d)) :
      OastStep s (.call p) (s.goto p (.refused c))
  | refusedFound {p : CallId} {c : OastCorrelationRecord} {a : OastAdmissionRecord}
      (h : s.phase p = .refused c) (hmem : a ∈ s.seenAdmissions p)
      (hid : a.correlationId = c.correlationId) :
      OastStep s (.call p) (s.goto p (.answered (.ofAdmission a)))
  | refusedNone {p : CallId} {c : OastCorrelationRecord} (h : s.phase p = .refused c)
      (hnone : ∀ a ∈ s.seenAdmissions p, a.correlationId ≠ c.correlationId) :
      OastStep s (.call p) (s.goto p (.answered (.rejected .deliveryAlreadyRecorded)))
  | lookFound {p : CallId} {c : OastCorrelationRecord} {a : OastAdmissionRecord}
      (h : s.phase p = .ledgered c) (hmem : a ∈ s.seenAdmissions p)
      (hid : a.correlationId = c.correlationId) :
      OastStep s (.call p) (s.goto p (.retained a))
  | commitRetained {p : CallId} {a : OastAdmissionRecord} (h : s.phase p = .retained a) :
      OastStep s (.call p) (s.commit p (.answered (.ofAdmission a)))
  | lookNone {p : CallId} {d : OastCallbackDelivery} {c : OastCorrelationRecord}
      {o : SensorObservation} (h : s.phase p = .ledgered c) (hinput : input p = .deliver d)
      (hnone : ∀ a ∈ s.seenAdmissions p, a.correlationId ≠ c.correlationId)
      (hobservation : correlationObservation formats c d = .ok o) :
      OastStep s (.call p)
        (s.goto p (.admitting c [.insert (.observation ⟨o, d.receivedAt⟩), .admitInUow o]))
  | insert {p : CallId} {c : OastCorrelationRecord} {row : Row} {rest : List Statement}
      (h : s.phase p = .admitting c (.insert row :: rest))
      (hfree : s.store.Free Row.keys row) :
      OastStep s (.call p) (s.insert p row (.admitting c rest))
  | conflict {p : CallId} {c : OastCorrelationRecord} {row : Row} {rest : List Statement}
      (h : s.phase p = .admitting c (.insert row :: rest))
      (htaken : s.store.Taken Row.keys p row) :
      OastStep s (.call p) (s.goto p (.conflicted c))
  | admitInUow {p : CallId} {d : OastCallbackDelivery} {c : OastCorrelationRecord}
      {o : SensorObservation} {f : DiscoveryFactRow} {r : DiscoveryFactSourceRecord}
      (h : s.phase p = .admitting c [.admitInUow o]) (hinput : input p = .deliver d)
      (hfact : correlationFact formats c o = .ok (f, r)) :
      OastStep s (.call p)
        (s.goto p (.admitting c [.insert (.fact f), .insert (.source r),
          .insert (.admission (admissionRecord formats c d o.observationId f.factId))]))
  | admitRejected {p : CallId} {c : OastCorrelationRecord} {o : SensorObservation}
      {message : String} (h : s.phase p = .admitting c [.admitInUow o])
      (hfact : correlationFact formats c o = .error (.sensorAdmission message)) :
      OastStep s (.call p) (s.rollback p (.answered (.rejected .admissionRejected)))
  | commitFirst {p : CallId} {c : OastCorrelationRecord} {a : OastAdmissionRecord}
      (h : s.phase p = .admitting c []) (hmem : .admission a ∈ s.store.pending p) :
      OastStep s (.call p) (s.commit p (.answered (.ofFirst a)))
  | conflictFound {p : CallId} {c : OastCorrelationRecord} {a : OastAdmissionRecord}
      (h : s.phase p = .conflicted c) (hmem : a ∈ s.seenAdmissions p)
      (hid : a.correlationId = c.correlationId) :
      OastStep s (.call p) (s.rollback p (.answered (.ofAdmission a)))
  | conflictNone {p : CallId} {c : OastCorrelationRecord} (h : s.phase p = .conflicted c)
      (hnone : ∀ a ∈ s.seenAdmissions p, a.correlationId ≠ c.correlationId) :
      OastStep s (.call p) (s.rollback p (.answered (.rejected .admissionConflict)))
  | fail {p : CallId} (h : (s.phase p).over = false) : OastStep s (.fail p) (s.rollback p .raised)

end System

/-! ## What is kept -/

/-- Two deliveries that the ledger takes for one. -/
def SameDelivery (a b : OastCallbackDelivery) : Prop :=
  a.deliveryId = b.deliveryId ∨
    (a.providerAdapterId = b.providerAdapterId ∧ a.providerEventId = b.providerEventId) ∨
    (a.correlationId = b.correlationId ∧ a.normalizedDigest = b.normalizedDigest)

/-- The delivery has passed the check, and has not failed. -/
def OastCallbackAdmissionResult.Passed (result : OastCallbackAdmissionResult) : Prop :=
  result.admitted = true ∨ result.reasonCode = .deliveryAlreadyRecorded

section Invariant

variable (formats : Formats) (spine : ExecutionSpine) (input : CallId → Call)

/-- What a row says is so. -/
def Proven (s : OastSystem) : Row → Prop
  | .correlation c => c.Trimmed
  | .observation o => ∃ c ∈ s.correlations, ObservationOf formats c o.toSensorObservation
  | .fact f => ∃ c ∈ s.correlations, FactOf formats c f
  | .admission a => ∃ c ∈ s.correlations,
      a.correlationId = c.correlationId ∧ a.researchRunId = c.researchRunId
  | _ => True

/-- The call is a delivery that agrees with its correlation. -/
structure Agrees (s : OastSystem) (p : CallId) (c : OastCorrelationRecord)
    (d : OastCallbackDelivery) : Prop where
  input : input p = .deliver d
  mem : c ∈ s.correlations
  id : c.correlationId = d.correlationId
  binding : validateBinding spine d.receivedAt c = none

/-- What an admission is still to write. -/
structure Admitting (s : OastSystem) (c : OastCorrelationRecord) (todo : List Statement) :
    Prop where
  rows : ∀ row, .insert row ∈ todo → Proven formats s row
  observation : ∀ o, .admitInUow o ∈ todo → ObservationOf formats c o

/-- What is so of a call in its phase. -/
def PhaseInv (s : OastSystem) (p : CallId) : Phase → Prop
  | .idle | .armConflicted | .armed _ _ | .raised => s.store.pending p = []
  | .arming record => s.store.pending p = [] ∧ record.Trimmed
  | .armInserted record => s.store.pending p = [.correlation record]
  | .bound c => s.store.pending p = [] ∧ ∃ d, Agrees spine input s p c d
  | .refused c => s.store.pending p = [] ∧ ∃ d, Agrees spine input s p c d ∧
      ∃ row ∈ s.deliveries, SameDelivery row d
  | .ledgered c => ∃ d, Agrees spine input s p c d ∧ s.store.pending p = [.delivery d]
  | .retained _ => ∃ c d, Agrees spine input s p c d ∧ s.store.pending p = [.delivery d]
  | .admitting c todo => Admitting formats s c todo ∧ ∃ d, Agrees spine input s p c d ∧
      .delivery d ∈ s.store.pending p
  | .conflicted c => ∃ d, Agrees spine input s p c d ∧ .delivery d ∈ s.store.pending p
  | .answered result => s.store.pending p = [] ∧
      (result.admitted = true → ∃ c d, Agrees spine input s p c d) ∧
      (result.Passed → ∃ d, input p = .deliver d ∧ ∃ row ∈ s.deliveries, SameDelivery row d)

structure Inv (s : OastSystem) : Prop where
  sound : s.store.Sound Row.keys
  committed : ∀ row ∈ s.store.committed, Proven formats s row
  pending : ∀ p, ∀ row ∈ s.store.pending p, Proven formats s row
  phases : ∀ p, PhaseInv formats spine input s p (s.phase p)

variable {formats spine input}
variable {s t : OastSystem} {p : CallId}

/-! ## One step -/

/-- What is committed stays. -/
def Grows (s t : OastSystem) : Prop := s.store.committed ⊆ t.store.committed

theorem Proven.mono (hgrows : Grows s t) {row : Row} (h : Proven formats s row) :
    Proven formats t row := by
  cases row with
  | correlation c => exact h
  | delivery d => exact h
  | source r => exact h
  | observation o =>
    obtain ⟨c, hmem, ho⟩ := h
    exact ⟨c, OastSystem.mem_correlations.mpr (hgrows (OastSystem.mem_correlations.mp hmem)), ho⟩
  | fact f =>
    obtain ⟨c, hmem, hf⟩ := h
    exact ⟨c, OastSystem.mem_correlations.mpr (hgrows (OastSystem.mem_correlations.mp hmem)), hf⟩
  | admission a =>
    obtain ⟨c, hmem, ha⟩ := h
    exact ⟨c, OastSystem.mem_correlations.mpr (hgrows (OastSystem.mem_correlations.mp hmem)), ha⟩

theorem Agrees.mono (hgrows : Grows s t) {c : OastCorrelationRecord} {d : OastCallbackDelivery}
    (h : Agrees spine input s p c d) : Agrees spine input t p c d :=
  { h with mem := OastSystem.mem_correlations.mpr (hgrows (OastSystem.mem_correlations.mp h.mem)) }

theorem Admitting.mono (hgrows : Grows s t) {c : OastCorrelationRecord} {todo : List Statement}
    (h : Admitting formats s c todo) : Admitting formats t c todo :=
  { h with rows := fun row hrow => (h.rows row hrow).mono hgrows }

theorem recorded_mono (hgrows : Grows s t) {d : OastCallbackDelivery}
    (h : ∃ row ∈ s.deliveries, SameDelivery row d) : ∃ row ∈ t.deliveries, SameDelivery row d := by
  obtain ⟨row, hmem, hsame⟩ := h
  exact ⟨row, OastSystem.mem_deliveries.mpr (hgrows (OastSystem.mem_deliveries.mp hmem)), hsame⟩

theorem PhaseInv.mono (hgrows : Grows s t) (hpending : t.store.pending p = s.store.pending p)
    {phase : Phase} (h : PhaseInv formats spine input s p phase) :
    PhaseInv formats spine input t p phase := by
  cases phase with
  | idle => exact hpending.trans h
  | armConflicted => exact hpending.trans h
  | armed record existing => exact hpending.trans h
  | raised => exact hpending.trans h
  | arming record => exact ⟨hpending.trans h.1, h.2⟩
  | armInserted record => exact hpending.trans h
  | bound c =>
    obtain ⟨hnil, d, hd⟩ := h
    exact ⟨hpending.trans hnil, d, hd.mono hgrows⟩
  | refused c =>
    obtain ⟨hnil, d, hd, hrow⟩ := h
    exact ⟨hpending.trans hnil, d, hd.mono hgrows, recorded_mono hgrows hrow⟩
  | ledgered c =>
    obtain ⟨d, hd, hown⟩ := h
    exact ⟨d, hd.mono hgrows, hpending.trans hown⟩
  | retained a =>
    obtain ⟨c, d, hd, hown⟩ := h
    exact ⟨c, d, hd.mono hgrows, hpending.trans hown⟩
  | admitting c todo =>
    obtain ⟨htodo, d, hd, hown⟩ := h
    exact ⟨htodo.mono hgrows, d, hd.mono hgrows, hpending ▸ hown⟩
  | conflicted c =>
    obtain ⟨d, hd, hown⟩ := h
    exact ⟨d, hd.mono hgrows, hpending ▸ hown⟩
  | answered result =>
    obtain ⟨hnil, hadmitted, hpassed⟩ := h
    refine ⟨hpending.trans hnil, fun h => ?_, fun h => ?_⟩
    · obtain ⟨c, d, hd⟩ := hadmitted h
      exact ⟨c, d, hd.mono hgrows⟩
    · obtain ⟨d, hd, hrow⟩ := hpassed h
      exact ⟨d, hd, recorded_mono hgrows hrow⟩

theorem Inv.phase (h : Inv formats spine input s) {phase : Phase} (hphase : s.phase p = phase) :
    PhaseInv formats spine input s p phase := hphase ▸ h.phases p

/-- A step of one call: the others stay as they are. -/
theorem Inv.of_call (h : Inv formats spine input s) (p : CallId) (hgrows : Grows s t)
    (hsound : t.store.Sound Row.keys)
    (hothers : ∀ q, q ≠ p → t.phase q = s.phase q ∧ t.store.pending q = s.store.pending q)
    (hcommitted : ∀ row ∈ t.store.committed, row ∈ s.store.committed ∨ row ∈ s.store.pending p)
    (hpending : ∀ row ∈ t.store.pending p, Proven formats s row)
    (hown : PhaseInv formats spine input t p (t.phase p)) : Inv formats spine input t := by
  refine ⟨hsound, ?_, ?_, ?_⟩
  · intro row hrow
    rcases hcommitted row hrow with hrow | hrow
    · exact (h.committed row hrow).mono hgrows
    · exact (h.pending p row hrow).mono hgrows
  · intro q row hrow
    by_cases hq : q = p
    · subst hq
      exact (hpending row hrow).mono hgrows
    · rw [(hothers q hq).2] at hrow
      exact (h.pending q row hrow).mono hgrows
  · intro q
    by_cases hq : q = p
    · subst hq
      exact hown
    · rw [(hothers q hq).1]
      exact (h.phases q).mono hgrows (hothers q hq).2

theorem goto_phase_self (s : OastSystem) (p : CallId) (phase : Phase) :
    (s.goto p phase).phase p = phase := if_pos rfl

/-- A step of one call that writes nothing. -/
theorem Inv.goto (h : Inv formats spine input s) {phase : Phase}
    (hown : PhaseInv formats spine input s p phase) : Inv formats spine input (s.goto p phase) := by
  refine h.of_call p (List.Subset.refl _) h.sound (fun q hq => ⟨if_neg hq, rfl⟩)
    (fun _ => .inl) (h.pending p) ?_
  rw [goto_phase_self]
  exact PhaseInv.mono (s := s) (t := s.goto p phase) (List.Subset.refl _) rfl hown

/-- A step of one call that inserts a row. -/
theorem Inv.insert (h : Inv formats spine input s) {row : Row} {phase : Phase}
    (hfree : s.store.Free Row.keys row) (hproven : Proven formats s row)
    (hown : PhaseInv formats spine input (s.insert p row phase) p phase) :
    Inv formats spine input (s.insert p row phase) := by
  refine h.of_call p (List.Subset.refl _) (h.sound.insert hfree)
    (fun q hq => ⟨if_neg hq, RowStore.insert_pending_ne _ _ hq⟩) (fun _ => .inl) ?_ ?_
  · intro r hr
    have hr : r ∈ s.store.pending p ++ [row] := RowStore.insert_pending_self s.store p row ▸ hr
    rcases List.mem_append.mp hr with hr | hr
    · exact h.pending p r hr
    · obtain rfl := List.mem_singleton.mp hr
      exact hproven
  · have hphase : (s.insert p row phase).phase p = phase := if_pos rfl
    rw [hphase]
    exact hown

/-- A call returns without a commit. -/
theorem Inv.rollback (h : Inv formats spine input s) {phase : Phase}
    (hown : PhaseInv formats spine input (s.rollback p phase) p phase) :
    Inv formats spine input (s.rollback p phase) := by
  refine h.of_call p (List.Subset.refl _) h.sound.rollback
    (fun q hq => ⟨if_neg hq, RowStore.rollback_pending_ne _ hq⟩) (fun _ => .inl) ?_ ?_
  · intro row hrow
    have hrow : row ∈ ([] : List Row) := RowStore.rollback_pending_self s.store p ▸ hrow
    exact (List.not_mem_nil hrow).elim
  · have hphase : (s.rollback p phase).phase p = phase := if_pos rfl
    rw [hphase]
    exact hown

theorem grows_commit (s : OastSystem) (p : CallId) (phase : Phase) : Grows s (s.commit p phase) :=
  List.subset_append_left _ _

/-- A call commits what it has written. -/
theorem Inv.commit (h : Inv formats spine input s) {phase : Phase}
    (hown : PhaseInv formats spine input (s.commit p phase) p phase) :
    Inv formats spine input (s.commit p phase) := by
  refine h.of_call p (grows_commit s p phase) h.sound.commit
    (fun q hq => ⟨if_neg hq, RowStore.commit_pending_ne _ hq⟩) (fun _ => List.mem_append.mp) ?_ ?_
  · intro row hrow
    have hrow : row ∈ ([] : List Row) := RowStore.commit_pending_self s.store p ▸ hrow
    exact (List.not_mem_nil hrow).elim
  · have hphase : (s.commit p phase).phase p = phase := if_pos rfl
    rw [hphase]
    exact hown

end Invariant

/-- No delivery that has lost an insert finds the admission that it has lost it to. -/
def NoRaceLost (s : OastSystem) : OastEvent → Prop
  | .call p => ∀ c, s.phase p = .conflicted c → ∀ a ∈ s.seenAdmissions p,
      a.correlationId ≠ c.correlationId
  | .fail _ => True

/-- The ids and targets of the execution rows have no white space around them. -/
structure ExecutionSpine.Trimmed (spine : ExecutionSpine) : Prop where
  attempt : ∀ id attempt, spine.attempt id = some attempt →
    attempt.researchRunId.strip = attempt.researchRunId ∧
      attempt.targetReference.strip = attempt.targetReference
  hypothesis : ∀ id identity, spine.hypothesis id = some (some identity) →
    identity.strip = identity

section Steps

variable {formats : Formats} {spine : ExecutionSpine} {maxTtl : Int} {input : CallId → Call}
variable {s t : OastSystem} {p : CallId}

theorem armIdentity_spec {attempt : ExecutionAttemptRow} {identityId : Text}
    (h : armIdentity spine attempt = .ok identityId) :
    ∃ id, spine.hypothesis id = some (some identityId) := by
  unfold armIdentity at h
  split at h
  · cases h
  next plan hplan =>
    split at h
    next identity hrun hidentity =>
      split at h
      · cases h
      split at h
      · cases h
      split at h
      next first rest =>
        split at h
        · cases h
        · cases h
          exact ⟨_, hidentity⟩
      · cases h
    · cases h

theorem armRecord_trimmed (hspine : spine.Trimmed) {command : ArmCommand} {now createdAt : Instant}
    {id : Text} {record : OastCorrelationRecord}
    (h : armRecord spine maxTtl command now createdAt id = .ok record) : record.Trimmed := by
  unfold armRecord at h
  obtain ⟨window, -, h⟩ := bind_eq_ok h
  split at h
  · cases h
  next attempt hattempt =>
    obtain ⟨identityId, hidentity, h⟩ := bind_eq_ok h
    cases h
    obtain ⟨hypothesisId, hhypothesis⟩ := armIdentity_spec hidentity
    obtain ⟨hrun, htarget⟩ := hspine.attempt _ _ hattempt
    exact ⟨hrun, htarget, hspine.hypothesis _ _ hhypothesis⟩

/-- Whoever has a key of a delivery is the same delivery. -/
theorem same_of_clash {row : Row} {d : OastCallbackDelivery}
    (h : Clash Row.keys row (.delivery d)) : ∃ d', row = .delivery d' ∧ SameDelivery d' d := by
  obtain ⟨key, hrow, hd⟩ := h
  simp only [Row.keys, List.mem_cons, List.not_mem_nil, or_false] at hd
  cases row with
  | delivery d' =>
    refine ⟨d', rfl, ?_⟩
    simp only [Row.keys, List.mem_cons, List.not_mem_nil, or_false] at hrow
    rcases hd with rfl | rfl | rfl
    · rcases hrow with hrow | hrow | hrow
      · injection hrow with hid
        exact .inl hid.symm
      · cases hrow
      · cases hrow
    · rcases hrow with hrow | hrow | hrow
      · cases hrow
      · injection hrow with hadapter hevent
        exact .inr (.inl ⟨hadapter.symm, hevent.symm⟩)
      · cases hrow
    · rcases hrow with hrow | hrow | hrow
      · cases hrow
      · cases hrow
      · injection hrow with hcorrelation hdigest
        exact .inr (.inr ⟨hcorrelation.symm, hdigest.symm⟩)
  | _ =>
    simp only [Row.keys, List.mem_cons, List.not_mem_nil, or_false] at hrow
    rcases hd with rfl | rfl | rfl <;> simp at hrow

theorem clash_of_same {a b : OastCallbackDelivery} (h : SameDelivery a b) :
    Clash Row.keys (.delivery a) (.delivery b) := by
  rcases h with hid | ⟨hadapter, hevent⟩ | ⟨hcorrelation, hdigest⟩
  · exact ⟨.delivery b.deliveryId, by simp [Row.keys, hid], by simp [Row.keys]⟩
  · exact ⟨.providerEvent b.providerAdapterId b.providerEventId,
      by simp [Row.keys, hadapter, hevent], by simp [Row.keys]⟩
  · exact ⟨.correlationDigest b.correlationId b.normalizedDigest,
      by simp [Row.keys, hcorrelation, hdigest], by simp [Row.keys]⟩

/-- A legacy callback is never admitted. -/
theorem legacy_not_passed (tokenExpiresAt : Option Instant) (occurredAt : Instant) :
    ¬ (executeLegacyTokenCallback tokenExpiresAt occurredAt).Passed := by
  unfold executeLegacyTokenCallback
  split
  · rintro (h | h) <;> cases h
  · split
    · rintro (h | h) <;> cases h
    · rintro (h | h) <;> cases h

/-- The reasons of the rows that are compared are their own. -/
theorem validateRows_ne_recorded (c : OastCorrelationRecord) (attempt : ExecutionAttemptRow)
    (plan : ExperimentPlanRow) (identity : Option Text) :
    validateRows c attempt plan identity ≠ some .deliveryAlreadyRecorded := by
  have hite : ∀ {p : Prop} [Decidable p] {reason : ReasonCode} {rest : Option ReasonCode},
      reason ≠ .deliveryAlreadyRecorded → rest ≠ some .deliveryAlreadyRecorded →
        (if p then some reason else rest) ≠ some .deliveryAlreadyRecorded := by
    intro p _ reason rest hreason hrest
    by_cases hp : p
    · rw [if_pos hp]
      exact mt (fun h => by injection h) hreason
    · rwa [if_neg hp]
  unfold validateRows
  iterate 9 refine hite (fun h => by cases h) ?_
  exact fun h => by cases h

/-- The reasons of `_validate_binding` are its own. -/
theorem validateBinding_ne_recorded {receivedAt : Instant} {c : OastCorrelationRecord}
    {reason : ReasonCode} (h : validateBinding spine receivedAt c = some reason) :
    reason ≠ .deliveryAlreadyRecorded := by
  rintro rfl
  unfold validateBinding at h
  split at h
  · cases h
  split at h
  · cases h
  split at h
  · split at h
    · exact validateRows_ne_recorded _ _ _ _ h
    · cases h
  · cases h

/-- A call that is answered without having passed the check, or in failure. -/
theorem phaseInv_rejected {reason : ReasonCode} (hnil : s.store.pending p = [])
    (hreason : reason ≠ .deliveryAlreadyRecorded) :
    PhaseInv formats spine input s p (.answered (.rejected reason)) := by
  refine ⟨hnil, fun h => ?_, fun h => ?_⟩
  · cases h
  · rcases h with h | h
    · cases h
    · exact absurd h hreason

/-- A delivery that commits is in the ledger. -/
theorem phaseInv_committed {c : OastCorrelationRecord} {d : OastCallbackDelivery}
    {result : OastCallbackAdmissionResult} (hd : Agrees spine input s p c d)
    (hown : .delivery d ∈ s.store.pending p) :
    PhaseInv formats spine input (s.commit p (.answered result)) p (.answered result) := by
  refine ⟨RowStore.commit_pending_self _ _, fun _ => ⟨c, d, hd.mono (grows_commit s p _)⟩,
    fun _ => ⟨d, hd.input, d, ?_, .inl rfl⟩⟩
  exact OastSystem.mem_deliveries.mpr (List.mem_append_right _ hown)

/-- A delivery that finds no admission makes one. -/
theorem Inv.look (h : Inv formats spine input s) {c : OastCorrelationRecord}
    {d : OastCallbackDelivery} {o : SensorObservation} (hphase : s.phase p = .ledgered c)
    (hobservation : correlationObservation formats c d = .ok o) :
    Inv formats spine input
      (s.goto p (.admitting c [.insert (.observation ⟨o, d.receivedAt⟩), .admitInUow o])) := by
  obtain ⟨d', hd, hown⟩ := h.phase hphase
  have htrimmed : c.Trimmed := h.committed _ (OastSystem.mem_correlations.mp hd.mem)
  have ho : ObservationOf formats c o := correlationObservation_spec htrimmed hobservation
  refine h.goto ⟨⟨?_, ?_⟩, d', hd, by rw [hown]; exact List.mem_singleton_self _⟩
  · intro row hrow
    obtain rfl : row = .observation ⟨o, d.receivedAt⟩ := by simpa using hrow
    exact ⟨c, hd.mem, ho⟩
  · intro o' ho'
    obtain rfl : o' = o := by simpa using ho'
    exact ho

/-- The next row of an admission is written. -/
theorem Inv.insertNext (h : Inv formats spine input s) {c : OastCorrelationRecord} {row : Row}
    {rest : List Statement} (hphase : s.phase p = .admitting c (.insert row :: rest))
    (hfree : s.store.Free Row.keys row) :
    Inv formats spine input (s.insert p row (.admitting c rest)) := by
  obtain ⟨htodo, d, hd, hown⟩ := h.phase hphase
  have hpending : (s.insert p row (.admitting c rest)).store.pending p =
      s.store.pending p ++ [row] := RowStore.insert_pending_self _ _ _
  have hgrows : Grows s (s.insert p row (.admitting c rest)) := List.Subset.refl _
  refine h.insert hfree (htodo.rows row List.mem_cons_self) ⟨⟨?_, ?_⟩, d, hd.mono hgrows, ?_⟩
  · exact fun other hother => (htodo.rows other (List.mem_cons_of_mem _ hother)).mono hgrows
  · exact fun o ho => htodo.observation o (List.mem_cons_of_mem _ ho)
  · rw [hpending]
    exact List.mem_append_left _ hown

/-- The fact of the observation is made. -/
theorem Inv.admitInUow (h : Inv formats spine input s) {c : OastCorrelationRecord}
    {d : OastCallbackDelivery} {o : SensorObservation} {f : DiscoveryFactRow}
    {r : DiscoveryFactSourceRecord} (hphase : s.phase p = .admitting c [.admitInUow o])
    (hfact : correlationFact formats c o = .ok (f, r)) :
    Inv formats spine input
      (s.goto p (.admitting c [.insert (.fact f), .insert (.source r),
        .insert (.admission (admissionRecord formats c d o.observationId f.factId))])) := by
  obtain ⟨htodo, d', hd, hown⟩ := h.phase hphase
  have htrimmed : c.Trimmed := h.committed _ (OastSystem.mem_correlations.mp hd.mem)
  have ho : ObservationOf formats c o := htodo.observation o List.mem_cons_self
  refine h.goto ⟨⟨?_, ?_⟩, d', hd, hown⟩
  · intro row hrow
    simp only [List.mem_cons, Statement.insert.injEq, List.not_mem_nil, or_false] at hrow
    rcases hrow with rfl | rfl | rfl
    · exact ⟨c, hd.mem, (correlationFact_spec htrimmed ho hfact).1⟩
    · trivial
    · exact ⟨c, hd.mem, rfl, rfl⟩
  · intro o' ho'
    simp at ho'

/-- **The invariant** of steps that lose no race. -/
theorem Inv.step (hspine : spine.Trimmed) {e : OastEvent}
    (hstep : Guarded (OastStep formats spine maxTtl input) NoRaceLost s e t)
    (h : Inv formats spine input s) : Inv formats spine input t := by
  obtain ⟨hstep, hkept⟩ := hstep
  cases hstep with
  | arm hphase hinput hrecord hnone =>
    exact h.goto ⟨h.phase hphase, armRecord_trimmed hspine hrecord⟩
  | armExisting hphase hinput hrecord hmem hid =>
    exact h.goto (show s.store.pending _ = [] from h.phase hphase)
  | @armInsert p record hphase hfree =>
    obtain ⟨hnil, htrimmed⟩ := h.phase hphase
    refine h.insert hfree htrimmed ?_
    show (s.store.insert p (.correlation record)).pending p = _
    rw [RowStore.insert_pending_self, hnil]
    rfl
  | armConflict hphase htaken => exact h.goto (h.phase hphase).1
  | armRaced hphase hinput hmem hid =>
    exact h.goto (show s.store.pending _ = [] from h.phase hphase)
  | armCommit hphase => exact h.commit (RowStore.commit_pending_self _ _)
  | legacy hphase hinput =>
    have hnot := legacy_not_passed ‹Option Instant› ‹Instant›
    exact h.goto
      ⟨h.phase hphase, fun h => absurd (.inl h) hnot, fun h => absurd h hnot⟩
  | unknown hphase hinput hnone =>
    exact h.goto (phaseInv_rejected (h.phase hphase) (by decide))
  | unbound hphase hinput hmem hid hreason =>
    exact h.goto
      (phaseInv_rejected (h.phase hphase) (validateBinding_ne_recorded hreason))
  | bind hphase hinput hmem hid hreason =>
    exact h.goto ⟨h.phase hphase, _, hinput, hmem, hid, hreason⟩
  | @enter p d c hphase hinput hfree =>
    obtain ⟨hnil, d', hd⟩ := h.phase hphase
    obtain rfl : d = d' := by
      have hsame := hinput.symm.trans hd.input
      injection hsame
    refine h.insert hfree trivial ⟨d, hd.mono ?_, ?_⟩
    · exact List.Subset.refl _
    · show (s.store.insert p (.delivery d)).pending p = _
      rw [RowStore.insert_pending_self, hnil]
      rfl
  | @refuse p d c hphase hinput htaken =>
    obtain ⟨hnil, d', hd⟩ := h.phase hphase
    obtain rfl : d = d' := by
      have hsame := hinput.symm.trans hd.input
      injection hsame
    obtain ⟨row, hrow, hclash⟩ := htaken
    rw [RowStore.visible_of_nil hnil] at hrow
    obtain ⟨d', rfl, hsame⟩ := same_of_clash hclash
    exact h.goto
      ⟨hnil, d, hd, d', OastSystem.mem_deliveries.mpr hrow, hsame⟩
  | refusedFound hphase hmem hid =>
    obtain ⟨hnil, d, hd, hrow⟩ := h.phase hphase
    exact h.goto
      ⟨hnil, fun _ => ⟨_, d, hd⟩, fun _ => ⟨d, hd.input, hrow⟩⟩
  | refusedNone hphase hnone =>
    obtain ⟨hnil, d, hd, hrow⟩ := h.phase hphase
    exact h.goto
      ⟨hnil, fun h => (by cases h), fun _ => ⟨d, hd.input, hrow⟩⟩
  | lookFound hphase hmem hid =>
    obtain ⟨d, hd, hown⟩ := h.phase hphase
    exact h.goto ⟨_, d, hd, hown⟩
  | @commitRetained p a hphase =>
    obtain ⟨c, d, hd, hown⟩ := h.phase hphase
    exact h.commit (phaseInv_committed hd (by rw [hown]; exact List.mem_singleton_self _))
  | lookNone hphase hinput hnone hobservation =>
    exact h.look hphase hobservation
  | insert hphase hfree => exact h.insertNext hphase hfree
  | conflict hphase htaken =>
    obtain ⟨htodo, d, hd, hown⟩ := h.phase hphase
    exact h.goto ⟨d, hd, hown⟩
  | admitInUow hphase hinput hfact => exact h.admitInUow hphase hfact
  | admitRejected hphase hfact =>
    exact h.rollback (phaseInv_rejected (RowStore.rollback_pending_self _ _) (by decide))
  | commitFirst hphase hmem =>
    obtain ⟨-, d, hd, hown⟩ := h.phase hphase
    exact h.commit (phaseInv_committed hd hown)
  | conflictFound hphase hmem hid => exact absurd hid (hkept _ hphase _ hmem)
  | conflictNone hphase hnone =>
    exact h.rollback (phaseInv_rejected (RowStore.rollback_pending_self _ _) (by decide))
  | fail hopen => exact h.rollback (RowStore.rollback_pending_self _ _)

end Steps

/-! ## The whole run -/

/-- Nothing is armed or admitted, and nobody has started. -/
structure Initial (s : OastSystem) : Prop where
  committed : s.store.committed = []
  pending : ∀ p, s.store.pending p = []
  phase : ∀ p, s.phase p = .idle

/-- Each correlation is admitted once, for a delivery that agrees with it, and no
delivery is lost. -/
structure OneAdmission (formats : Formats) (spine : ExecutionSpine) (input : CallId → Call)
    (t : OastSystem) : Prop where
  admissions : t.admissions.Pairwise fun a b => a.correlationId ≠ b.correlationId
  observations : t.observations.Pairwise fun a b =>
    a.sourceMetadata.get "correlation_id".toList ≠ b.sourceMetadata.get "correlation_id".toList
  facts : t.facts.Pairwise fun a b => a.canonicalKey ≠ b.canonicalKey
  admissionOf : ∀ a ∈ t.admissions, ∃ c ∈ t.correlations,
    a.correlationId = c.correlationId ∧ a.researchRunId = c.researchRunId
  observationOf : ∀ o ∈ t.observations, ∃ c ∈ t.correlations,
    ObservationOf formats c o.toSensorObservation
  factOf : ∀ f ∈ t.facts, ∃ c ∈ t.correlations, FactOf formats c f
  /-- Whoever is admitted is bound to the correlation, and comes in its window. -/
  admitted : ∀ p result, t.phase p = .answered result → result.admitted = true →
    ∃ d, input p = .deliver d ∧ ∃ c ∈ t.correlations, c.correlationId = d.correlationId ∧
      ∃ attempt plan, Bound spine d.receivedAt c attempt plan
  kept : ∀ p result, t.phase p = .answered result → result.Passed →
    ∃ d, input p = .deliver d ∧ ∃ row ∈ t.deliveries, SameDelivery row d
  keptOnce : t.deliveries.Pairwise fun a b => ¬ SameDelivery a b

section Whole

variable {formats : Formats} {spine : ExecutionSpine} {maxTtl : Int} {input : CallId → Call}
variable {s t : OastSystem}

theorem Initial.inv (h : Initial s) : Inv formats spine input s := by
  refine ⟨⟨fun p => ?_, fun p q _ a ha => ?_⟩, fun row hrow => ?_, fun p row hrow => ?_,
    fun p => ?_⟩
  · rw [RowStore.visible_of_nil (h.pending p), h.committed]
    exact List.Pairwise.nil
  · rw [h.pending] at ha
    exact (List.not_mem_nil ha).elim
  · rw [h.committed] at hrow
    exact (List.not_mem_nil hrow).elim
  · rw [h.pending] at hrow
    exact (List.not_mem_nil hrow).elim
  · rw [h.phase]
    exact h.pending p

/-- Two rows of one table differ in what their keys are made of. -/
theorem Inv.pairwise (h : Inv formats spine input s) {α : Type} (f : Row → Option α)
    {R : α → α → Prop} (hclash : ∀ row ∈ s.store.committed, ∀ other ∈ s.store.committed,
      ∀ a b, f row = some a → f other = some b → ¬ R a b → Clash Row.keys row other) :
    (s.store.committed.filterMap f).Pairwise R := by
  refine List.pairwise_filterMap.mpr ?_
  refine List.Pairwise.imp_of_mem ?_ (h.sound.committed 0)
  intro row other hrow hother hapart a ha b hb
  by_contra hR
  exact hapart (hclash row hrow other hother a b ha hb hR)

theorem correlationKey_injective {a b : Text} (h : correlationKey a = correlationKey b) :
    a = b := by
  unfold correlationKey at h
  injection h with htext
  exact List.append_cancel_left htext

theorem Inv.oneAdmission (h : Inv formats spine input s) : OneAdmission formats spine input s := by
  refine ⟨?_, ?_, ?_, ?_, ?_, ?_, ?_, ?_, ?_⟩
  · refine h.pairwise _ fun row _ other _ a b ha hb heq => ?_
    obtain rfl := Row.asAdmission_eq_some.mp ha
    obtain rfl := Row.asAdmission_eq_some.mp hb
    exact ⟨.admissionCorrelation b.correlationId, by simp [Row.keys, not_not.mp heq],
      by simp [Row.keys]⟩
  · refine h.pairwise _ fun row hrow other hother a b ha hb heq => ?_
    obtain rfl := Row.asObservation_eq_some.mp ha
    obtain rfl := Row.asObservation_eq_some.mp hb
    obtain ⟨c, hc, hac⟩ := h.committed _ hrow
    obtain ⟨c', hc', hbc⟩ := h.committed _ hother
    have hid : c.correlationId = c'.correlationId := by
      have hmeta := not_not.mp heq
      rw [hac.correlation, hbc.correlation] at hmeta
      injection hmeta
    exact ⟨.observation b.observationId,
      by simp [Row.keys, hac.observationId, hbc.observationId, hid], by simp [Row.keys]⟩
  · refine h.pairwise _ fun row hrow other hother a b ha hb heq => ?_
    obtain rfl := Row.asFact_eq_some.mp ha
    obtain rfl := Row.asFact_eq_some.mp hb
    obtain ⟨c, hc, hac⟩ := h.committed _ hrow
    obtain ⟨c', hc', hbc⟩ := h.committed _ hother
    have hid : c.correlationId = c'.correlationId := by
      have hkey := not_not.mp heq
      rw [hac.key, hbc.key] at hkey
      exact correlationKey_injective hkey
    exact ⟨.fact b.factId, by simp [Row.keys, hac.factId, hbc.factId, hid], by simp [Row.keys]⟩
  · exact fun a ha => h.committed _ (OastSystem.mem_admissions.mp ha)
  · exact fun o ho => h.committed _ (OastSystem.mem_observations.mp ho)
  · exact fun f hf => h.committed _ (OastSystem.mem_facts.mp hf)
  · intro p result hphase hadmitted
    obtain ⟨c, d, hd⟩ := (h.phase hphase).2.1 hadmitted
    exact ⟨d, hd.input, c, hd.mem, hd.id, validateBinding_eq_none.mp hd.binding⟩
  · exact fun p result hphase hpassed => (h.phase hphase).2.2 hpassed
  · refine h.pairwise _ fun row _ other _ a b ha hb hsame => ?_
    obtain rfl := Row.asDelivery_eq_some.mp ha
    obtain rfl := Row.asDelivery_eq_some.mp hb
    exact clash_of_same (not_not.mp hsame)

/-- **One authoritative admission.**  In every run in which no delivery that has lost an
insert finds the admission that it has lost it to, each correlation has at most one
admission, observation and fact, all its own; whoever is admitted agrees with it; and the
ledger has each delivery that passed the check and did not fail. -/
theorem one_authoritative_admission (formats : Formats) (spine : ExecutionSpine) (maxTtl : Int)
    (input : CallId → Call) {s t : OastSystem} {es : List OastEvent} (hspine : spine.Trimmed)
    (hstart : Initial s)
    (hrun : Run (Guarded (OastStep formats spine maxTtl input) NoRaceLost) s es t) :
    OneAdmission formats spine input t :=
  (hrun.invariant (fun _ _ _ hstep hs => hs.step hspine hstep) hstart.inv).oneAdmission

/-- **A lost race loses the delivery.**  Whoever finds the admission that it has lost
an insert to answers with it, and is not in the ledger. -/
theorem lost_race_loses_delivery {p : CallId} {c : OastCorrelationRecord}
    {a : OastAdmissionRecord} (h : Inv formats spine input s) (hphase : s.phase p = .conflicted c)
    (hmem : a ∈ s.seenAdmissions p) (hid : a.correlationId = c.correlationId) :
    OastStep formats spine maxTtl input s (.call p) (s.rollback p (.answered (.ofAdmission a))) ∧
      ¬ OneAdmission formats spine input (s.rollback p (.answered (.ofAdmission a))) := by
  refine ⟨.conflictFound hphase hmem hid, fun hone => ?_⟩
  obtain ⟨d, hd, hown⟩ := h.phase hphase
  obtain ⟨d', hinput, row, hrow, hsame⟩ := hone.kept p (.ofAdmission a) (if_pos rfl) (.inl rfl)
  obtain rfl : d' = d := by
    have hboth := hinput.symm.trans hd.input
    injection hboth
  have hapart := (List.pairwise_append.mp (h.sound.visible p)).2.2 _
    (OastSystem.mem_deliveries.mp hrow) _ hown
  exact hapart (clash_of_same hsame)

end Whole

/-! ## Two deliveries at once -/

/-- Digests of the ids and payloads below. -/
def raceFormats : Formats where
  sha256 text :=
    if text = "correlation-1".toList then
      "af4e95ed33259a9353f41dfedda548c58fbaab0409f39f7b38e162cafacf5b00".toList
    else text
  payloadDigest payload :=
    match payload.get "provider_event_id".toList with
    | .text event =>
      if event = "event-1".toList then
        "dae3a922214d182ae2fbdd86d3c92b6c32983bca62b165c5a21f7834d286b35a".toList
      else "8d89f4bca769b210a72dd94704675d02bb633dd3d600933bfe2e02de0b45decb".toList
    | _ => []
  isoformat _ := "2026-01-01T00:00:10+00:00".toList

def raceSpine : ExecutionSpine where
  attempt id :=
    if id = "attempt-1".toList then
      some ⟨id, "experiment-1".toList, "run-1".toList, "https://a.example".toList⟩
    else none
  plan id :=
    if id = "experiment-1".toList then
      some ⟨"hypothesis-1".toList, "run-1".toList, "https://a.example".toList, []⟩
    else none
  run id := id = "run-1".toList
  hypothesis id := if id = "hypothesis-1".toList then some (some "identity-1".toList) else none

def firstDelivery : OastCallbackDelivery where
  deliveryId := "delivery-1".toList
  correlationId := "correlation-1".toList
  providerAdapterId := "interactsh".toList
  providerEventId := "event-1".toList
  receivedAt := 1767225610
  normalizedPayload := []
  normalizedDigest := "2e6709af8dbfe7cd5abb2f716924848e527b4486c30c4509b0e4aa8171987335".toList

def secondDelivery : OastCallbackDelivery where
  deliveryId := "delivery-2".toList
  correlationId := "correlation-1".toList
  providerAdapterId := "interactsh".toList
  providerEventId := "event-2".toList
  receivedAt := 1767225610
  normalizedPayload := []
  normalizedDigest := "bddd3a6e5dab59fa05fa8fb0d789a3c2ad3c9982dcc4a368f3d5719f421ffda8".toList

/-- The correlation is armed, and two deliveries of it come in. -/
def raceInput : CallId → Call
  | 0 => .arm ⟨"attempt-1".toList, none, none⟩
  | 1 => .deliver firstDelivery
  | _ => .deliver secondDelivery

def raceCorrelation : OastCorrelationRecord :=
  (armRecord raceSpine 900 ⟨"attempt-1".toList, none, none⟩ 1767225600 1767225600
    "correlation-1".toList).toOption.get rfl

def firstObservation : SensorObservation :=
  (correlationObservation raceFormats raceCorrelation firstDelivery).toOption.get rfl

def secondObservation : SensorObservation :=
  (correlationObservation raceFormats raceCorrelation secondDelivery).toOption.get rfl

def firstFact : DiscoveryFactRow × DiscoveryFactSourceRecord :=
  (correlationFact raceFormats raceCorrelation firstObservation).toOption.get rfl

def firstAdmission : OastAdmissionRecord :=
  admissionRecord raceFormats raceCorrelation firstDelivery firstObservation.observationId
    firstFact.1.factId

def raceStart : OastSystem := ⟨⟨[], fun _ => []⟩, fun _ => .idle⟩

theorem raceStart_initial : Initial raceStart := ⟨rfl, fun _ => rfl, fun _ => rfl⟩

theorem raceSpine_trimmed : raceSpine.Trimmed where
  attempt id attempt h := by
    simp only [raceSpine] at h
    split at h
    · cases h
      have hrun : Text.strip "run-1".toList = "run-1".toList := by decide
      have htarget : Text.strip "https://a.example".toList = "https://a.example".toList := by
        decide
      exact ⟨hrun, htarget⟩
    · cases h
  hypothesis id identity h := by
    simp only [raceSpine] at h
    split at h
    · cases h
      decide
    · cases h

/-- What is committed, and what the two deliveries have written. -/
structure Written (store : RowStore CallId Row) (committed first second : List Row) : Prop where
  committed : store.committed = committed
  first : store.pending 1 = first
  second : store.pending 2 = second
  others : ∀ p, p ≠ 1 → p ≠ 2 → store.pending p = []

section Written

variable {store : RowStore CallId Row} {committed first second : List Row}

theorem Written.free (h : Written store committed first second) {row : Row}
    (hrows : ∀ other ∈ committed ++ first ++ second, ¬ Clash Row.keys other row) :
    store.Free Row.keys row where
  committed other hother := hrows other (by simp [h.committed ▸ hother])
  pending p other hother := by
    by_cases h1 : p = 1
    · subst h1
      exact hrows other (by simp [h.first ▸ hother])
    by_cases h2 : p = 2
    · subst h2
      exact hrows other (by simp [h.second ▸ hother])
    rw [h.others p h1 h2] at hother
    exact (List.not_mem_nil hother).elim

theorem Written.mem_first (h : Written store committed first second) {row : Row}
    (hrow : row ∈ first) : row ∈ store.pending 1 := h.first ▸ hrow

theorem Written.insertFirst (h : Written store committed first second) (row : Row) :
    Written (store.insert 1 row) committed (first ++ [row]) second where
  committed := h.committed
  first := (RowStore.insert_pending_self _ _ _).trans (by rw [h.first])
  second := (RowStore.insert_pending_ne _ _ (by decide)).trans h.second
  others p h1 h2 := (RowStore.insert_pending_ne _ _ h1).trans (h.others p h1 h2)

theorem Written.insertSecond (h : Written store committed first second) (row : Row) :
    Written (store.insert 2 row) committed first (second ++ [row]) where
  committed := h.committed
  first := (RowStore.insert_pending_ne _ _ (by decide)).trans h.first
  second := (RowStore.insert_pending_self _ _ _).trans (by rw [h.second])
  others p h1 h2 := (RowStore.insert_pending_ne _ _ h2).trans (h.others p h1 h2)

theorem Written.commitFirst (h : Written store committed first second) :
    Written (store.commit 1) (committed ++ first) [] second where
  committed := (RowStore.commit_committed _ _).trans (by rw [h.committed, h.first])
  first := RowStore.commit_pending_self _ _
  second := (RowStore.commit_pending_ne _ (by decide)).trans h.second
  others p h1 h2 := (RowStore.commit_pending_ne _ h1).trans (h.others p h1 h2)

end Written

def Phase.lost : Phase → Bool
  | .conflicted _ => true
  | _ => false

theorem race_call {s t : OastSystem} {es : List OastEvent} {p : CallId}
    (hrun : Run (Guarded (OastStep raceFormats raceSpine 900 raceInput) NoRaceLost) raceStart es s)
    (hstep : OastStep raceFormats raceSpine 900 raceInput s (.call p) t)
    (hopen : (s.phase p).lost = false) :
    Run (Guarded (OastStep raceFormats raceSpine 900 raceInput) NoRaceLost) raceStart
      (es ++ [.call p]) t :=
  hrun.snoc ⟨hstep, fun c hc => by rw [hc] at hopen; cases hopen⟩

/-- The correlation is armed. -/
theorem race_armed : ∃ es s,
    Run (Guarded (OastStep raceFormats raceSpine 900 raceInput) NoRaceLost) raceStart es s ∧
      Written s.store [.correlation raceCorrelation] [] [] ∧ s.phase 1 = .idle ∧
        s.phase 2 = .idle := by
  have hstart : Written raceStart.store [] [] [] := ⟨rfl, rfl, rfl, fun _ _ _ => rfl⟩
  have hplant : OastStep raceFormats raceSpine 900 raceInput raceStart (.call 0)
      (raceStart.goto 0 (.arming raceCorrelation)) :=
    @OastStep.arm raceFormats raceSpine 900 raceInput raceStart 0 _ 1767225600 1767225600
      "correlation-1".toList raceCorrelation rfl rfl rfl fun _ h => (List.not_mem_nil h).elim
  have harm := race_call (.nil _) hplant rfl
  have hinsert := race_call harm (.armInsert (p := 0) rfl
    (hstart.free fun _ h => (List.not_mem_nil h).elim)) rfl
  have hcommit := race_call hinsert (.armCommit (p := 0) rfl) rfl
  refine ⟨_, _, hcommit, ⟨rfl, rfl, rfl, fun p _ _ => ?_⟩, rfl, rfl⟩
  by_cases hp : p = 0
  · subst hp
    rfl
  · exact (RowStore.commit_pending_ne _ hp).trans (RowStore.insert_pending_ne _ _ hp)

/-- The rows of the first delivery. -/
def firstRows : List Row :=
  [.delivery firstDelivery, .observation ⟨firstObservation, firstDelivery.receivedAt⟩,
    .fact firstFact.1, .source firstFact.2, .admission firstAdmission]

/-- The second delivery has found no admission when the first one commits its own. -/
theorem race_admitted : ∃ es s,
    Run (Guarded (OastStep raceFormats raceSpine 900 raceInput) NoRaceLost) raceStart es s ∧
      Written s.store (.correlation raceCorrelation :: firstRows) [] [.delivery secondDelivery] ∧
        s.phase 2 = .admitting raceCorrelation
          [.insert (.observation ⟨secondObservation, secondDelivery.receivedAt⟩),
            .admitInUow secondObservation] := by
  obtain ⟨es, s, hrun, hw, hfirst, hsecond⟩ := race_armed
  have hmem : raceCorrelation ∈ s.correlations := by
    rw [OastSystem.mem_correlations, hw.committed]
    exact List.mem_singleton_self _
  have hnone : ∀ {p : CallId} {t : OastSystem} {first second : List Row},
      Written t.store [.correlation raceCorrelation] first second → p = 1 ∨ p = 2 →
      (∀ a, .admission a ∉ first) → (∀ a, .admission a ∉ second) →
      ∀ a ∈ t.seenAdmissions p, a.correlationId ≠ raceCorrelation.correlationId := by
    intro p t first second hw hp hfirst hsecond a ha
    rcases OastSystem.mem_seenAdmissions.mp ha with ha | ha
    · rw [hw.committed] at ha
      simp at ha
    · rcases hp with rfl | rfl
      · exact absurd (hw.first ▸ ha) (hfirst a)
      · exact absurd (hw.second ▸ ha) (hsecond a)
  have hsecondBound := race_call hrun
    (.bind (p := 2) (d := secondDelivery) hsecond rfl hmem rfl rfl) (by rw [hsecond]; rfl)
  have hsecondEntered := race_call hsecondBound
    (.enter (p := 2) (d := secondDelivery) rfl rfl (hw.free (by decide))) rfl
  have hw := hw.insertSecond (.delivery secondDelivery)
  have hsecondLooked := race_call hsecondEntered
    (.lookNone (p := 2) (d := secondDelivery) (o := secondObservation) rfl rfl
      (hnone hw (.inr rfl) (by simp) (by simp)) rfl) rfl
  have hbound := race_call hsecondLooked
    (.bind (p := 1) (d := firstDelivery) hfirst rfl hmem rfl rfl)
    (by show (s.phase 1).lost = false; rw [hfirst]; rfl)
  have hentered := race_call hbound
    (.enter (p := 1) (d := firstDelivery) rfl rfl (hw.free (by decide))) rfl
  have hw := hw.insertFirst (.delivery firstDelivery)
  have hlooked := race_call hentered
    (.lookNone (p := 1) (d := firstDelivery) (o := firstObservation) rfl rfl
      (hnone hw (.inl rfl) (by simp) (by simp)) rfl) rfl
  have hobserved := race_call hlooked (.insert (p := 1) rfl (hw.free (by decide))) rfl
  have hw := hw.insertFirst (.observation ⟨firstObservation, firstDelivery.receivedAt⟩)
  have hadmit := race_call hobserved
    (.admitInUow (p := 1) (d := firstDelivery) (f := firstFact.1) (r := firstFact.2) rfl rfl rfl)
    rfl
  have hfact := race_call hadmit (.insert (p := 1) rfl (hw.free (by decide))) rfl
  have hw := hw.insertFirst (.fact firstFact.1)
  have hsource := race_call hfact (.insert (p := 1) rfl (hw.free (by decide))) rfl
  have hw := hw.insertFirst (.source firstFact.2)
  have hadmission := race_call hsource (.insert (p := 1) rfl (hw.free (by decide))) rfl
  have hw := hw.insertFirst (.admission firstAdmission)
  have hcommit := race_call hadmission
    (.commitFirst (p := 1) (a := firstAdmission) rfl (hw.mem_first (by simp))) rfl
  exact ⟨_, _, hcommit, hw.commitFirst, rfl⟩

/-- Each correlation is admitted once while nobody has lost a race. -/
theorem one_authoritative_admission_race : raceSpine.Trimmed ∧ Initial raceStart ∧ ∃ es t,
    Run (Guarded (OastStep raceFormats raceSpine 900 raceInput) NoRaceLost) raceStart es t ∧
      t.admissions = [firstAdmission] ∧ OneAdmission raceFormats raceSpine raceInput t := by
  obtain ⟨es, s, hrun, hw, -⟩ := race_admitted
  refine ⟨raceSpine_trimmed, raceStart_initial, es, s, hrun, ?_,
    one_authoritative_admission _ _ _ _ raceSpine_trimmed raceStart_initial hrun⟩
  rw [OastSystem.admissions, hw.committed]
  rfl

/-- **The delivery that loses is not kept.**  The second delivery loses the insert of its
observation, answers with the admission of the first, and is in no ledger. -/
theorem second_delivery_lost :
    ¬ ∀ (formats : Formats) (spine : ExecutionSpine) (maxTtl : Int) (input : CallId → Call)
      (s t : OastSystem) (es : List OastEvent), spine.Trimmed → Initial s →
        Run (OastStep formats spine maxTtl input) s es t → OneAdmission formats spine input t := by
  intro hall
  obtain ⟨es, s, hguarded, hw, hphase⟩ := race_admitted
  have hrun : Run (OastStep raceFormats raceSpine 900 raceInput) raceStart es s :=
    hguarded.mono fun _ _ _ h => h.1
  have hrow : .observation ⟨firstObservation, firstDelivery.receivedAt⟩ ∈ s.store.visible 2 := by
    rw [RowStore.visible, hw.committed]
    simp [firstRows]
  have hconflict := hrun.snoc (.conflict (p := 2) hphase ⟨_, hrow, by decide⟩)
  have hseen : firstAdmission ∈ s.seenAdmissions 2 := by
    rw [OastSystem.mem_seenAdmissions, hw.committed]
    exact .inl (by simp [firstRows])
  have hfound := hconflict.snoc (.conflictFound (p := 2) rfl hseen rfl)
  have hone := hall _ _ _ _ _ _ _ raceSpine_trimmed raceStart_initial hfound
  obtain ⟨d, hd, row, hrow, hsame⟩ := hone.kept 2 _ rfl (.inl rfl)
  obtain rfl : secondDelivery = d := by injection hd
  have hledger : row ∈ (Row.correlation raceCorrelation :: firstRows).filterMap Row.asDelivery := by
    rw [← hw.committed]
    exact hrow
  obtain rfl : firstDelivery = row := by simpa [firstRows, Row.asDelivery] using hledger
  revert hsame
  unfold SameDelivery
  decide

end Zest.Oast

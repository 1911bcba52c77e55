import Zest.AutonomousController

/-! # Rules for the transactions of a step

Nothing else writes the orchestration row while a step runs on its own, so the
row that a transaction of the step finds is one that the step has left, and is
not terminal until the step has ended its cycle.  A save over such a row either
writes the record it is given or raises.  The rules of this module say so for
every procedure that saves, and name the store it leaves.

Everything else that a step does leaves the row, the opportunities and the
accounts of the model alone.
-/
namespace Zest

open UnitOfWork

/-- The store with this orchestration row. -/
def Store.saved (s : Store) (record : ResearchOrchestrationRecord) : Store :=
  { s with row := record }

@[simp] theorem Store.saved_row (s : Store) (record : ResearchOrchestrationRecord) :
    (s.saved record).row = record := rfl

@[simp] theorem Store.happened_row (s : Store) (event : CycleEvent) :
    (s.happened event).row = s.row := rfl

/-- The charges of model calls. -/
def modelCharges (ledger : Ledger) : Ledger :=
  ledger.filter fun item => item.resourceType = .modelCall

theorem modelCharges_append (ledger ledger' : Ledger) :
    modelCharges (ledger ++ ledger') = modelCharges ledger ++ modelCharges ledger' :=
  List.filter_append ..

theorem modelCharges_eq_nil {ledger : Ledger}
    (h : ∀ charge ∈ ledger, charge.resourceType ≠ .modelCall) : modelCharges ledger = [] := by
  simpa [modelCharges, List.filter_eq_nil_iff] using h

/-- What a run has used of its model calls is the sum of their charges. -/
theorem ledgerTotal_modelCharges (ledger : Ledger) :
    ledgerTotal (modelCharges ledger) .modelCall = ledgerTotal ledger .modelCall := by
  induction ledger with
  | nil => rfl
  | cons item ledger ih =>
    by_cases h : item.resourceType = .modelCall
    · simp [modelCharges, ledgerTotal, h] at ih ⊢
      exact ih
    · simp [modelCharges, ledgerTotal, h] at ih ⊢
      exact ih

/-- A model invocation is charged already if one of those charges is its. -/
theorem chargedAlready_modelCharges (ledger : Ledger) (invocation : Option RequestId) :
    chargedAlready (modelCharges ledger) .modelCall invocation =
      chargedAlready ledger .modelCall invocation := by
  unfold chargedAlready modelCharges
  rw [List.any_filter]
  congr 2
  funext item
  by_cases h : item.resourceType = .modelCall <;> simp [h]

/-- The dispatch of an attempt charges no model call. -/
theorem modelCharges_recordDispatchConsumption {issued : IssuedBudget} {ledger ledger' : Ledger}
    {requestId : Id} {amount : Nat}
    (h : recordDispatchConsumption issued ledger requestId amount = some ledger') :
    modelCharges ledger' = modelCharges ledger := by
  have hinsert : ∀ {l l' : Ledger} {record : BudgetConsumption},
      record.resourceType ≠ .modelCall →
        insertWithinAllowance issued 0 l record = some l' →
          modelCharges l' = modelCharges l := by
    intro l l' record hres hl
    rcases insertWithinAllowance_eq_some hl with ⟨-, rfl⟩ | ⟨-, -, rfl⟩
    · rfl
    · have hnone : modelCharges [record] = [] := by simp [modelCharges, hres]
      rw [modelCharges_append, hnone, List.append_nil]
  unfold recordDispatchConsumption at h
  obtain ⟨middle, hfirst, hsecond⟩ := Option.bind_eq_some_iff.mp h
  rw [hinsert (by simp) hsecond, hinsert (by simp) hfirst]

/-- What the model has been asked and what that is charged with are the same,
and no identifier is drawn twice. -/
structure Quiet (s t : Store) : Prop where
  invocations : t.modelInvocations = s.modelInvocations
  charges : modelCharges t.ledger = modelCharges s.ledger
  nextId : s.nextId ≤ t.nextId

namespace Quiet

variable {s t u : Store}

theorem refl (s : Store) : Quiet s s := ⟨rfl, rfl, Nat.le_refl _⟩

theorem trans (h : Quiet s t) (h' : Quiet t u) : Quiet s u :=
  ⟨h'.invocations.trans h.invocations, h'.charges.trans h.charges,
    Nat.le_trans h.nextId h'.nextId⟩

theorem total (h : Quiet s t) :
    ledgerTotal t.ledger .modelCall = ledgerTotal s.ledger .modelCall := by
  rw [← ledgerTotal_modelCharges, h.charges, ledgerTotal_modelCharges]

theorem charged (h : Quiet s t) (invocation : Option RequestId) :
    chargedAlready t.ledger .modelCall invocation =
      chargedAlready s.ledger .modelCall invocation := by
  rw [← chargedAlready_modelCharges, h.charges, chargedAlready_modelCharges]

end Quiet

/-- The event is that the experiment is dispatched or assessed. -/
def CycleEvent.isOf (experimentId : Id) : CycleEvent → Prop
  | .dispatched id | .assessed id => id = experimentId
  | _ => False

/-- The row and the opportunities are left alone as well, experiments keep their
hypotheses, and at most `experimentId` is dispatched or assessed. -/
structure Aside (experimentId : Option Id) (s t : Store) : Prop where
  row : t.row = s.row
  opportunities : t.opportunities = s.opportunities
  quiet : Quiet s t
  events : ∃ events, t.events = s.events ++ events ∧
    ∀ event ∈ events, ∃ id, experimentId = some id ∧ event.isOf id
  hypothesisOf : ∀ id hypothesisId, s.hypothesisOf id = some hypothesisId →
    t.hypothesisOf id = some hypothesisId
  keyed : s.Keyed → t.Keyed

namespace Aside

variable {experimentId : Option Id} {s t u : Store}

theorem refl (s : Store) : Aside experimentId s s :=
  ⟨rfl, rfl, .refl s, ⟨[], by simp, by simp⟩, fun _ _ h => h, fun h => h⟩

theorem trans (h : Aside experimentId s t) (h' : Aside experimentId t u) :
    Aside experimentId s u := by
  obtain ⟨events, heq, hof⟩ := h.events
  obtain ⟨events', heq', hof'⟩ := h'.events
  refine ⟨h'.row.trans h.row, h'.opportunities.trans h.opportunities, h.quiet.trans h'.quiet,
    ⟨events ++ events', by rw [heq', heq, List.append_assoc], ?_⟩,
    fun id hyp hs => h'.hypothesisOf id hyp (h.hypothesisOf id hyp hs),
    fun hs => h'.keyed (h.keyed hs)⟩
  intro event hmem
  rcases List.mem_append.mp hmem with hmem | hmem
  · exact hof event hmem
  · exact hof' event hmem

/-- What happens to no experiment in particular. -/
theorem of_none (h : Aside none s t) : Aside experimentId s t := by
  obtain ⟨events, heq, hof⟩ := h.events
  refine { h with events := ⟨events, heq, fun event hmem => ?_⟩ }
  obtain ⟨id, hid, -⟩ := hof event hmem
  cases hid

/-- One event of the experiment. -/
theorem happened {id : Id} {event : CycleEvent} (h : Aside (some id) s t) (hof : event.isOf id) :
    Aside (some id) s (t.happened event) := by
  have hevent : Aside (some id) t (t.happened event) :=
    ⟨rfl, rfl, ⟨rfl, rfl, Nat.le_refl _⟩, ⟨[event], rfl, by simpa using hof⟩,
      fun _ _ h => h, fun h => ⟨h.distinct, h.origin⟩⟩
  exact h.trans hevent

end Aside

namespace Store

variable (s : Store)

theorem experiments_setExecutionState (experimentId : Id) (state : ExperimentExecutionState) :
    (s.setExecutionState experimentId state).experiments.map
        (fun item => (item.experimentId, item.hypothesisId)) =
      s.experiments.map fun item => (item.experimentId, item.hypothesisId) := by
  simp only [setExecutionState, List.map_map]
  apply List.map_congr_left
  intro item _
  dsimp only [Function.comp]
  split <;> rfl

variable {s}

theorem Keyed.setExecutionState (h : s.Keyed) (experimentId : Id)
    (state : ExperimentExecutionState) : (s.setExecutionState experimentId state).Keyed := by
  have hsame := s.experiments_setExecutionState experimentId state
  constructor
  · have hids := congrArg (List.map Prod.fst) hsame
    simp only [List.map_map] at hids
    exact hids.symm ▸ h.distinct
  · intro item hmem
    have hpair := List.mem_map_of_mem (f := fun item : ExperimentRow =>
      (item.experimentId, item.hypothesisId)) hmem
    rw [hsame] at hpair
    obtain ⟨item', hmem', heq⟩ := List.mem_map.mp hpair
    simp only [Prod.mk.injEq] at heq
    rw [← heq.1, ← heq.2]
    exact h.origin item' hmem'

theorem Keyed.drawn (h : s.Keyed) : s.drawn.Keyed := by
  refine ⟨h.distinct, fun item hmem => ?_⟩
  rcases h.origin item hmem with horigin | ⟨n, hn, heq⟩
  · exact Or.inl horigin
  · exact Or.inr ⟨n, Nat.lt_succ_of_lt hn, heq⟩

/-- A change of states is aside. -/
theorem aside_setExecutionState (experimentId : Id) (state : ExperimentExecutionState) :
    Aside none s (s.setExecutionState experimentId state) :=
  ⟨rfl, rfl, ⟨rfl, rfl, Nat.le_refl _⟩, ⟨[], by simp [setExecutionState], by simp⟩,
    fun id _ h => by rw [hypothesisOf_setExecutionState]; exact h,
    fun h => h.setExecutionState experimentId state⟩

theorem aside_setAttemptState (attemptId : Id) (state : ExecutionAttemptState) :
    Aside none s (s.setAttemptState attemptId state) :=
  ⟨rfl, rfl, ⟨rfl, rfl, Nat.le_refl _⟩, ⟨[], by simp [setAttemptState], by simp⟩,
    fun _ _ h => h, fun h => ⟨h.distinct, h.origin⟩⟩

theorem aside_drawn : Aside none s s.drawn :=
  ⟨rfl, rfl, ⟨rfl, rfl, Nat.le_succ _⟩, ⟨[], by simp [drawn], by simp⟩,
    fun _ _ h => h, fun h => h.drawn⟩

end Store

theorem ExternalTx.aside (effect : ExternalTx) (s : Store) : Aside none s (effect.apply s) := by
  obtain ⟨charges, hledger, hcharges⟩ := effect.ledger s
  refine ⟨effect.row s, effect.opportunities s, ⟨effect.modelInvocations s, ?_, effect.nextId s⟩,
    ⟨[], by simp [effect.events s], by simp⟩, effect.hypothesisOf s, effect.keyed s⟩
  rw [hledger, modelCharges_append, modelCharges_eq_nil hcharges, List.append_nil]

namespace Controller

variable {input : StepInput} {R : Store → Prop} {s t : Store}
  {current record : ResearchOrchestrationRecord}

/-! ## Saves -/

theorem saveRow_eq_ok (h : saveRow input s record = .ok t) :
    t = s.saved record ∧ s.row.state.terminal = false := by
  unfold saveRow at h
  split at h
  next row hsave =>
    obtain ⟨rfl, hlive, -⟩ := save_eq_ok hsave
    cases h
    exact ⟨rfl, hlive⟩
  next => cases h

theorem terminal_of_saveRow (h : saveRow input s record = .error .terminal) :
    s.row.state.terminal = true := by
  cases hsave : save s.row record input.fence false input.serverNow with
  | ok row => simp [saveRow, hsave] at h
  | error e =>
    simp only [saveRow, hsave, Except.error.injEq] at h
    subst h
    unfold save at hsave
    cases hlive : s.row.state.terminal with
    | true => rfl
    | false =>
      simp only [hlive, Bool.false_eq_true, if_false] at hsave
      repeat' split at hsave
      all_goals cases hsave

/-- A save over a row that is not terminal writes its record, or raises. -/
theorem saveUnlessTerminal_eq_some {also : Store → Store} {saved : Bool}
    (hlive : s.row.state.terminal = false)
    (h : saveUnlessTerminal input record s also = some (t, saved)) :
    saved = true ∧ t = also (s.saved record) := by
  unfold saveUnlessTerminal at h
  split at h
  next stored hsave =>
    obtain ⟨rfl, -⟩ := saveRow_eq_ok hsave
    cases h
    exact ⟨rfl, rfl⟩
  next hsave =>
    rw [terminal_of_saveRow hsave] at hlive
    cases hlive
  next => cases h

/-- **`_checkpoint`.** -/
theorem checkpoint_rule {c : Checkpoint} {Q : ResearchOrchestrationRecord → Store → Prop}
    (hlive : s.row.state.terminal = false) (hs : R s)
    (hR : R (s.saved (checkpointRecord current c)))
    (hQ : Q (checkpointRecord current c) (s.saved (checkpointRecord current c))) :
    Holds R Q (checkpoint input current c) s := by
  unfold checkpoint
  apply Holds.bind
  apply holds_commit hs
  intro t saved h
  obtain ⟨rfl, rfl⟩ := saveUnlessTerminal_eq_some hlive h
  exact ⟨hR, hQ⟩

/-- The store that the end of a cycle leaves. -/
def completed (s : Store) (current : ResearchOrchestrationRecord) (outcome : CycleOutcome)
    (phase : String) (e : CycleEnd) : Store :=
  let updated := completedRecord current outcome phase e
  (if inserting outcome e then
    insertCycle (s.saved updated) {
      cycleNumber := updated.cycleNumber
      phaseCompleted := phase
      outcome := outcome
      stopReason := e.stopReason
      opportunityId := e.opportunityId
      hypothesisId := e.hypothesisId
      experimentId := e.experimentId }
  else s.saved updated).happened (.closed outcome e.experimentId)

theorem completed_eq (s : Store) (current : ResearchOrchestrationRecord)
    (outcome : CycleOutcome) (phase : String) (e : CycleEnd) :
    ∃ researchCycles, completed s current outcome phase e = Store.happened
      { s with row := completedRecord current outcome phase e, researchCycles := researchCycles }
      (.closed outcome e.experimentId) := by
  unfold completed insertCycle
  dsimp only
  split
  · split
    · exact ⟨s.researchCycles, rfl⟩
    · exact ⟨_, rfl⟩
  · exact ⟨s.researchCycles, rfl⟩

theorem completed_row (s : Store) (current : ResearchOrchestrationRecord)
    (outcome : CycleOutcome) (phase : String) (e : CycleEnd) :
    (completed s current outcome phase e).row = completedRecord current outcome phase e := by
  obtain ⟨_, h⟩ := completed_eq s current outcome phase e
  rw [h]
  rfl

theorem completed_quiet (s : Store) (current : ResearchOrchestrationRecord)
    (outcome : CycleOutcome) (phase : String) (e : CycleEnd) :
    Quiet s (completed s current outcome phase e) := by
  obtain ⟨_, h⟩ := completed_eq s current outcome phase e
  rw [h]
  exact ⟨rfl, rfl, Nat.le_refl _⟩

/-- **`_complete_cycle`.** -/
theorem completeCycle_rule {outcome : CycleOutcome} {phase : String} {e : CycleEnd}
    {Q : TickResult → Store → Prop} (hlive : s.row.state.terminal = false) (hs : R s)
    (hR : R (completed s current outcome phase e))
    (hQ : Q (resultFromRecord (completedRecord current outcome phase e) outcome)
      (completed s current outcome phase e)) :
    Holds R Q (completeCycle input current outcome phase e) s := by
  unfold completeCycle
  apply Holds.bind
  apply holds_commit hs
  intro t saved h
  obtain ⟨rfl, rfl⟩ := saveUnlessTerminal_eq_some hlive h
  exact ⟨hR, hQ⟩

/-- **`_mark_running`.** -/
theorem markRunning_rule {Q : Unit → Store → Prop} (hs : R s)
    (hR : R (s.saved (runningRecord current))) (hQ : Q () (s.saved (runningRecord current))) :
    Holds R Q (markRunning input current) s := by
  apply holds_commit hs
  intro t _ hsave
  split at hsave
  next stored hok =>
    obtain ⟨rfl, -⟩ := saveRow_eq_ok hok
    cases hsave
    exact ⟨hR, hQ⟩
  next => cases hsave

/-- What `prepare` leaves of a row that is not saved yet. -/
theorem prepare_eq_some {hypothesisId : Option Id} {plan : PlanRow}
    (h : prepare input current hypothesisId plan s = some (t, record)) :
    s.row.state.terminal = false ∧ (s.hypothesis plan.hypothesisId).isSome ∧
    record = preparedRecord current hypothesisId plan ∧
    (((s.experiment plan.experimentId).isSome ∧ t = s.saved record) ∨
      (s.experiment plan.experimentId = none ∧
        t = { s with
          row := record
          experiments := s.experiments ++ [⟨plan.experimentId, plan.hypothesisId, .planned⟩]
          experimentPlans := s.experimentPlans ++ [plan] })) := by
  unfold prepare at h
  split at h
  · cases h
  next hhyp =>
  simp only [Option.isNone_iff_eq_none] at hhyp
  cases hexp : s.experiment plan.experimentId with
  | some row =>
    simp only [hexp] at h
    split at h
    next stored hsave =>
      obtain ⟨rfl, hlive⟩ := saveRow_eq_ok hsave
      cases h
      exact ⟨hlive, Option.isSome_iff_ne_none.mpr hhyp, rfl, Or.inl ⟨rfl, rfl⟩⟩
    next => cases h
  | none =>
    simp only [hexp] at h
    split at h
    next stored hsave =>
      obtain ⟨rfl, hlive⟩ := saveRow_eq_ok hsave
      cases h
      exact ⟨hlive, Option.isSome_iff_ne_none.mpr hhyp, rfl, Or.inr ⟨rfl, rfl⟩⟩
    next => cases h

/-- What the transaction of an admitted hypothesis leaves. -/
theorem persistHypothesis_eq_some {opportunityId : Option Id} {cycleId : Id}
    {row : HypothesisRow}
    (h : persistHypothesis input current opportunityId cycleId row s = some (t, record)) :
    s.row.state.terminal = false ∧
    record = hypothesisRecord current opportunityId cycleId row.hypothesisId ∧
    ∃ hypotheses, (hypotheses = s.hypotheses ∧ (s.hypothesis row.hypothesisId).isSome ∨
        hypotheses = s.hypotheses ++ [row]) ∧
      t = Store.happened { s with row := record, hypotheses := hypotheses }
        (.admitted opportunityId row.hypothesisId) := by
  unfold persistHypothesis at h
  dsimp only at h
  split at h
  next stored hsave =>
    obtain ⟨rfl, hlive⟩ := saveRow_eq_ok hsave
    cases h
    refine ⟨by split at hlive <;> exact hlive, rfl, ?_⟩
    by_cases hold : (s.hypothesis row.hypothesisId).isSome
    · exact ⟨s.hypotheses, Or.inl ⟨rfl, hold⟩, by simp [hold, Store.saved]⟩
    · exact ⟨s.hypotheses ++ [row], Or.inr rfl, by simp [hold, Store.saved]⟩
  next => cases h

/-! ## The parts of a step that save no row -/

theorem keeps_external : ∀ effects : List ExternalTx, Keeps (Aside none) (external effects)
  | [] => keeps_pure
  | effect :: effects =>
    Keeps.bind (keeps_write effect.aside) fun _ => keeps_external effects

theorem failClosedExisting_aside (experimentId : Id) (s : Store) :
    Aside none s (failClosedExisting input experimentId s).1 := by
  unfold failClosedExisting markUnknown
  repeat' split
  all_goals first
    | exact .refl s
    | exact Store.aside_setAttemptState ..

/-- **The dispatch** concerns the experiment it is for. -/
theorem beginDispatch_aside (attemptId experimentId : Id) (s : Store) :
    Aside (some experimentId) s (beginDispatch input attemptId experimentId s).1 := by
  unfold beginDispatch markUnknown
  split
  · split
    · split
      · exact .refl s
      next ledger hcharge =>
        obtain ⟨amount, -, hcharge⟩ := Option.bind_eq_some_iff.mp hcharge
        have hledger : Aside none s { s with ledger := ledger } :=
          ⟨rfl, rfl, ⟨rfl, modelCharges_recordDispatchConsumption hcharge, Nat.le_refl _⟩,
            ⟨[], by simp, by simp⟩, fun _ _ h => h, fun h => ⟨h.distinct, h.origin⟩⟩
        have hstates := (hledger.trans
          (Store.aside_setAttemptState attemptId .dispatching)).trans
          (Store.aside_setExecutionState experimentId .running)
        exact hstates.of_none.happened rfl
    · exact (Store.aside_setAttemptState ..).of_none
    · exact .refl s
  · exact .refl s

theorem keeps_ingest (attemptId experimentId : Id) (status : ResearchLoopStatus) :
    Keeps (Aside none) (ingest input attemptId experimentId status) := by
  have hresult : ∀ s : Store, Aside none s { s with
      workerResults := s.workerResults ++
        [⟨experimentId, input.execution.invocation.resultStatus⟩] } := fun s =>
    ⟨rfl, rfl, ⟨rfl, rfl, Nat.le_refl _⟩, ⟨[], by simp, by simp⟩, fun _ _ h => h,
      fun h => ⟨h.distinct, h.origin⟩⟩
  unfold ingest
  split
  · exact Keeps.bind (keeps_write fun s => (Store.aside_setAttemptState ..).trans
      (Store.aside_setExecutionState ..)) fun _ => keeps_pure
  · exact Keeps.bind (keeps_write hresult) fun _ => keeps_pure
  · exact Keeps.bind (keeps_write hresult) fun _ => keeps_pure
  · exact keeps_pure
  · exact keeps_pure

theorem keeps_of_none {α : Type} {p : Prog Store α} {experimentId : Option Id}
    (h : Keeps (Aside none) p) : Keeps (Aside experimentId) p :=
  h.mono fun _ _ h => h.of_none

theorem keeps_dispatch (attemptId experimentId : Id) :
    Keeps (Aside (some experimentId)) (dispatch input attemptId experimentId) := by
  unfold dispatch
  apply Keeps.bind (keeps_tx (beginDispatch_aside attemptId experimentId))
  intro stopped
  split
  · exact keeps_pure
  · split
    · exact keeps_pure
    · apply Keeps.bind (keeps_write fun s => ?_) fun _ => keeps_of_none (keeps_ingest ..)
      exact ((Store.aside_setAttemptState ..).trans (Store.aside_setExecutionState ..)).of_none

theorem keeps_newOpaqueId : Keeps (Aside none) newOpaqueId := by
  apply keeps_commit (fun s => .refl s)
  intro s t id h
  cases h
  exact Store.aside_drawn

theorem keeps_evaluate (experimentId : Id) :
    Keeps (Aside (some experimentId)) (evaluate experimentId) := by
  apply keeps_commit (fun s => .refl s)
  intro s t id h
  split at h
  · split at h
    · cases h
      exact (Aside.refl s).happened rfl
    · cases h
      have hassessed : Aside none s { s.drawn with
          assessments := s.assessments ++
            [{ assessmentId := s.newId, experimentId := experimentId }] } :=
        ⟨rfl, rfl, ⟨rfl, rfl, Nat.le_succ _⟩, ⟨[], by simp [Store.drawn], by simp⟩,
          fun _ _ h => h, fun h => ⟨h.drawn.distinct, h.drawn.origin⟩⟩
      exact hassessed.of_none.happened rfl
  · cases h

/-- **The assessment** concerns the experiment it is of. -/
theorem keeps_assess (experimentId : Id) :
    Keeps (Aside (some experimentId)) (assess input experimentId) := by
  unfold assess
  apply Keeps.bind (keeps_evaluate experimentId)
  intro assessmentId
  exact Keeps.bind (keeps_of_none (keeps_external input.promotion)) fun _ => keeps_pure

theorem ensurePlan_aside {plan : PlanRow} (h : ensurePlan s plan = some t) : Aside none s t := by
  unfold ensurePlan at h
  split at h
  · cases h
    exact ⟨rfl, rfl, ⟨rfl, rfl, Nat.le_refl _⟩, ⟨[], by simp, by simp⟩, fun _ _ h => h,
      fun h => ⟨h.distinct, h.origin⟩⟩
  · split at h
    · cases h; exact .refl s
    · cases h

/-! ## The model -/

/-- The port is not refused before it charges the call. -/
def ModelReply.charges : ModelReply → Bool
  | .programBudgetDenied | .requestRefused _ => false
  | .failed _ | .malformed | .usable => true

/-- **A call through the port** is refused and leaves the store as it was, or
the inner model is invoked once its invocation is charged. -/
theorem complete_rule {port : BudgetEnforcedModelPort} {role : ModelRole} {reply : ModelReply}
    {Q : BudgetEnforcedModelPort × CallOutcome → Store → Prop} (hs : R s)
    (hrefused : ∀ port' outcome, outcome ≠ .usable → outcome ≠ .malformed →
      Q (port', outcome) s)
    (hinvoked : reply.charges = true → ∀ ledger, insertWithinAllowance s.issued s.row.bounds.maxModelCalls s.ledger
        { resourceType := .modelCall, amount := 1,
          requestId := some (port.nextInvocation role) } = some ledger →
      R { s with ledger := ledger } ∧
      ∀ t, t = { s with
          ledger := ledger
          modelInvocations := s.modelInvocations ++ [port.nextInvocation role] } →
        R t ∧ ∀ outcome, (outcome = .malformed → reply = .malformed) →
          (outcome = .usable → reply = .usable) → Q (port.attempted role, outcome) t) :
    Holds R Q (complete port role reply) s := by
  have hcall : reply.charges = true → ∀ outcome, (outcome = .malformed → reply = .malformed) →
      (outcome = .usable → reply = .usable) → Holds R Q
      (do
        let charged ← Prog.tx (recordModelCall (port.nextInvocation role)) .done
        if !charged then return (port.attempted role, .budgetRejected)
        else do
          Prog.write fun s => { s with
            modelInvocations := s.modelInvocations ++ [port.nextInvocation role] }
          return (port.attempted role, outcome)) s := by
    intro hcharges outcome hmalformed husable
    apply Holds.bind
    cases hinsert : insertWithinAllowance s.issued s.row.bounds.maxModelCalls s.ledger
        { resourceType := .modelCall, amount := 1,
          requestId := some (port.nextInvocation role) } with
    | none =>
      have hdenied : recordModelCall (port.nextInvocation role) s = (s, false) := by
        simp [recordModelCall, hinsert]
      refine ⟨by rw [hdenied]; exact hs, ?_⟩
      rw [hdenied]
      exact hrefused _ _ (by simp) (by simp)
    | some ledger =>
      have hcharged : recordModelCall (port.nextInvocation role) s =
          ({ s with ledger := ledger }, true) := by
        simp [recordModelCall, hinsert]
      obtain ⟨hledger, hasked⟩ := hinvoked hcharges ledger hinsert
      obtain ⟨hR, hQ⟩ := hasked _ rfl
      refine ⟨by rw [hcharged]; exact hledger, ?_⟩
      rw [hcharged]
      exact ⟨hR, hQ outcome hmalformed husable⟩
  unfold complete
  split
  · exact hrefused _ _ (by simp) (by simp)
  · exact hrefused _ _ (by simp) (by simp)
  next hdenied hrefused' =>
    have hcharges : reply.charges = true := by
      cases reply with
      | programBudgetDenied => exact absurd rfl hrefused'
      | requestRefused outcome => exact absurd rfl (hdenied outcome)
      | _ => rfl
    cases reply with
    | programBudgetDenied => exact absurd rfl hrefused'
    | requestRefused outcome => exact absurd rfl (hdenied outcome)
    | failed outcome => exact hcall hcharges _ (by simp) (by simp)
    | malformed => exact hcall hcharges _ (by simp) (by simp)
    | usable => exact hcall hcharges _ (by simp) (by simp)

/-! ## The authorization -/

/-- What `authorize` leaves: it saves the row if it authorizes an attempt, and
then the attempt is for the experiment of the plan. -/
theorem authorize_eq_some {plan : PlanRow} {answer : Except ResearchLoopStatus Id}
    (h : authorize input current plan s = some (t, record, answer)) :
    (record = current ∧ (∃ status, answer = .error status) ∧ Aside none s t) ∨
    ∃ attemptId u, record = attemptRecord current attemptId plan.experimentId ∧
      answer = .ok attemptId ∧ s.row.state.terminal = false ∧ Aside none s u ∧
      t = u.saved record := by
  have hrefused : ∀ {u : Store} {status}, Aside none s u →
      some (u, current, Except.error status) = some (t, record, answer) →
      record = current ∧ (∃ status, answer = .error status) ∧ Aside none s t := by
    intro u status hu heq
    cases heq
    exact ⟨rfl, ⟨status, rfl⟩, hu⟩
  unfold authorize at h
  split at h
  · exact Or.inl (hrefused (.refl s) h)
  split at h
  · exact Or.inl (hrefused (.refl s) h)
  split at h
  · exact Or.inl (hrefused (.refl s) h)
  split at h
  · exact Or.inl (hrefused (.refl s) h)
  next planned hplan =>
  have hplanned := ensurePlan_aside hplan
  split at h
  · exact Or.inl (hrefused (.refl s) h)
  split at h
  · exact Or.inl (hrefused (.refl s) h)
  · exact Or.inl (hrefused (.refl s) h)
  · exact Or.inl (hrefused (hplanned.trans (Store.aside_setExecutionState ..)) h)
  · exact Or.inl (hrefused (hplanned.trans (Store.aside_setExecutionState ..)) h)
  · dsimp only at h
    split at h
    next stored hsave =>
      obtain ⟨rfl, hlive⟩ := saveRow_eq_ok hsave
      cases h
      refine Or.inr ⟨planned.newId, _, rfl, rfl, by rw [← hplanned.row]; exact hlive, ?_, rfl⟩
      have hauthorized : Aside none planned { planned.drawn with
          executionAttempts := planned.executionAttempts ++
            [{ attemptId := planned.newId, experimentId := plan.experimentId,
               state := .authorized }] } :=
        ⟨rfl, rfl, ⟨rfl, rfl, Nat.le_succ _⟩, ⟨[], by simp [Store.drawn], by simp⟩,
          fun _ _ h => h, fun h => ⟨h.drawn.distinct, h.drawn.origin⟩⟩
      exact (hplanned.trans hauthorized).trans (Store.aside_setExecutionState ..)
    next => cases h

/-! ## Runs that are over -/

/-- A call on a run that is neither ready nor running does nothing. -/
theorem step_of_halted (hhalted : s.row.state.halted = true) :
    Holds (fun t => t = s) (fun _ t => t = s) (step input) s := by
  unfold step
  apply Holds.bind
  refine holds_read rfl ?_
  rw [if_pos hhalted]
  exact rfl

end Controller
end Zest

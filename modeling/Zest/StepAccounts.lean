import Zest.ControllerRules

/-! # What a call does to the count of cycles

A call of `step` works on one cycle.  Until it ends that cycle, whatever it
saves has the bounds and the cycle number that it found, and once it has ended
the cycle it writes nothing more.  Which of the four ways a cycle can end is
what decides whether the run stays within its bounds.

The model is asked in one place, when a cycle proposes a hypothesis.  What is
said here of the accounts of the model is left open: `L` is whatever the
transactions that do not concern the model preserve, and `G` is what is known
once a proposal has not been admitted.
-/
namespace Zest
namespace Controller

open UnitOfWork

variable (input : StepInput)

/-! ## The calls that open a cycle -/

/-- The phase of the row leaves nothing to resume. -/
def nothingToResume (s : Store) : Bool :=
  match s.row.currentPhase with
  | .hypothesisAdmitted => s.row.lastHypothesisId.isNone
  | .opportunitySelected => (resumableHypothesis input s.row s).isNone
  | .experimentPlanned | .authorizationRequested | .attemptAuthorized
  | .workerResultRecorded | .transitionAComplete | .assessmentComplete | .transitionBComplete =>
    s.row.lastExperimentId.isNone
  | _ => true

/-- A call of `step` from here has nothing to resume. -/
def reachesCycle (s : Store) : Bool :=
  !s.row.state.halted && input.surfaceDiscovery.isNone &&
    s.row.currentPhase ≠ .dispatching && openAttempt input s = .none &&
    nothingToResume input s

/-- What it selects is something to go on with. -/
def selectsNext (s : Store) : Bool :=
  (nextCycleAction s.row.bounds (s.usage s.row input.elapsedMs.2)
    (selectOpportunities input s.row.bounds s).2.length s.hypotheses.length false).1 ≠ .stop

/-- It comes to ask for a proposal. -/
def opensCycle (s : Store) : Bool :=
  reachesCycle input s &&
    (checkOrchestrationBounds s.row.bounds (s.usage s.row input.elapsedMs.1)).isNone &&
    (s.row.currentPhase = .opportunitySelected ||
      (routingStop input.routing).isNone && selectsNext input s)

/-- The opportunity that is proposed for is exploratory. -/
def opensExploratory (s : Store) : Bool :=
  if s.row.currentPhase = .opportunitySelected then
    opportunityIsExploratory s s.row.lastOpportunityId
  else
    let selected := selectOpportunities input s.row.bounds s
    opportunityIsExploratory selected.1 selected.2.head?

/-- The call counts its cycle and goes on without a look at the bounds: it is a
cycle of surface discovery, or dispatches an attempt that is authorized. -/
def endsUnchecked (s : Store) : Bool :=
  match input.surfaceDiscovery with
  | some discovery => discovery.stop.isNone
  | none =>
    input.rebuilt = .built &&
      match openAttempt input s with
      | .authorized _ => true
      | _ => false

/-! ## The row during a call -/

/-- The record is one of the cycle that a call from `s₀` works on. -/
structure Ongoing (s₀ : Store) (nextId : Nat) (record : ResearchOrchestrationRecord) : Prop where
  bounds : record.bounds = s₀.row.bounds
  cycle : record.cycleNumber = s₀.row.cycleNumber
  runnable : record.state.halted = false
  active : ∀ cycleId, record.activeCycleId = some cycleId → cycleId < 2 * nextId

/-- How a cycle has ended, by the row it has left. -/
inductive Ending (s₀ : Store) (row : ResearchOrchestrationRecord) : Prop
  | stopped (halted : row.state.halted = true)
      (cycle : row.cycleNumber = s₀.row.cycleNumber + 1)
  | finished (cycle : row.cycleNumber = s₀.row.cycleNumber + 1)
      (within : row.cycleNumber < s₀.row.bounds.maxCycles)
  | unchecked (call : endsUnchecked input s₀ = true)
      (cycle : row.cycleNumber = s₀.row.cycleNumber + 1)
  | notAdmitted (cycle : row.cycleNumber = s₀.row.cycleNumber)

structure Ended (s₀ t : Store) : Prop where
  bounds : t.row.bounds = s₀.row.bounds
  active : ∀ cycleId, t.row.activeCycleId = some cycleId → cycleId < 2 * t.nextId
  ending : Ending input s₀ t.row

/-- A call from `s₀` holds `current` in its hands while the row is as it says. -/
structure Underway (s₀ : Store) (current : ResearchOrchestrationRecord) (t : Store) : Prop where
  record : Ongoing s₀ t.nextId current
  row : Ongoing s₀ t.nextId t.row

/-- What holds of the store all through a call from `s₀`. -/
def Throughout (s₀ : Store) (L : Store → Prop) (t : Store) : Prop :=
  (Ongoing s₀ t.nextId t.row ∨ Ended input s₀ t) ∧ L t

/-- What holds when the call has returned. -/
def Returned (s₀ : Store) (L G : Store → Prop) (_ : TickResult) (t : Store) : Prop :=
  Ended input s₀ t ∧ L t ∧ (t.row.cycleNumber = s₀.row.cycleNumber → G t)

/-- From `s`, the call has come to `t` without asking the model. -/
structure Continues (s₀ s : Store) (current : ResearchOrchestrationRecord) (t : Store) : Prop where
  underway : Underway s₀ current t
  quiet : Quiet s t

/-- At `t`, a call from `s₀` asks for a proposal, and charges the model calls of
it to `cycleId`. -/
structure Opened (s₀ : Store) (opportunityId : Option Id) (cycleId : Id) (t : Store) : Prop where
  opens : opensCycle input s₀ = true
  quiet : Quiet s₀ t
  issued : cycleId < 2 * t.nextId
  cycleId : s₀.row.activeCycleId = some cycleId ∨
    s₀.row.activeCycleId = none ∧ 2 * s₀.nextId ≤ cycleId
  exploratory : opportunityIsExploratory t opportunityId = opensExploratory input s₀

/-- A proposal, begun by a call from `s₀`, has come to an end at `t`. -/
structure ProposalEnd (s₀ : Store) (L G : Store → Prop)
    (r : ResearchOrchestrationRecord × Proposed) (t : Store) : Prop where
  underway : Underway s₀ r.1 t
  kept : L t
  notAdmitted : r.2 = .notAdmitted → G t

variable {input} {s₀ s t u : Store} {current record : ResearchOrchestrationRecord}
  {L G : Store → Prop}

namespace Ongoing

variable {n m : Nat}

theorem mono (h : Ongoing s₀ n record) (hle : n ≤ m) : Ongoing s₀ m record :=
  { h with active := fun cycleId hc => Nat.lt_of_lt_of_le (h.active cycleId hc) (by omega) }

theorem live (h : Ongoing s₀ n record) : record.state.terminal = false := by
  cases hterm : record.state.terminal with
  | false => rfl
  | true =>
    have hhalted := OrchestrationState.halted_of_terminal hterm
    rw [h.runnable] at hhalted
    cases hhalted

theorem checkpoint (h : Ongoing s₀ n record) (c : Checkpoint)
    (hc : ∀ cycleId, c.activeCycleId = some cycleId → cycleId < 2 * n) :
    Ongoing s₀ n (checkpointRecord record c) := by
  refine ⟨h.bounds, h.cycle, rfl, ?_⟩
  intro cycleId hactive
  change orElse c.activeCycleId record.activeCycleId = some cycleId at hactive
  cases hgiven : c.activeCycleId with
  | none =>
    rw [hgiven] at hactive
    exact h.active cycleId hactive
  | some given =>
    rw [hgiven] at hactive
    cases hactive
    exact hc cycleId hgiven

end Ongoing

namespace Underway

theorem aside {experimentId : Option Id} (h : Underway s₀ current s)
    (ha : Aside experimentId s t) : Underway s₀ current t :=
  ⟨h.record.mono ha.quiet.nextId, ha.row ▸ h.row.mono ha.quiet.nextId⟩

theorem saved (h : Ongoing s₀ s.nextId record) : Underway s₀ record (s.saved record) := ⟨h, h⟩

theorem throughout (h : Underway s₀ current s) (hs : L s) : Throughout input s₀ L s :=
  ⟨Or.inl h.row, hs⟩

end Underway

theorem Continues.after (h : Continues s₀ t current u) (hq : Quiet s t) :
    Continues s₀ s current u := ⟨h.underway, hq.trans h.quiet⟩

/-! ## Ends of cycles -/

section Ends

variable (hL : ∀ s t, Quiet s t → L s → L t)
include hL

/-- An end that counts the cycle. -/
theorem completeCycle_returned {outcome : CycleOutcome} {phase : String} {e : CycleEnd}
    (h : Underway s₀ current s) (hs : L s) (hins : inserting outcome e = true)
    (hend : ∀ row, row = completedRecord current outcome phase e →
      row.cycleNumber = s₀.row.cycleNumber + 1 → Ending input s₀ row) :
    Holds (Throughout input s₀ L) (Returned input s₀ L G)
      (completeCycle input current outcome phase e) s := by
  have hquiet := completed_quiet s current outcome phase e
  have hrow := completed_row s current outcome phase e
  have hcycle : (completedRecord current outcome phase e).cycleNumber =
      s₀.row.cycleNumber + 1 := by
    simp [completedRecord, hins, h.record.cycle]
  have hended : Ended input s₀ (completed s current outcome phase e) := by
    constructor
    · rw [hrow]; exact h.record.bounds
    · rw [hrow]; exact (h.record.mono hquiet.nextId).active
    · rw [hrow]; exact hend _ rfl hcycle
  have hkept := hL _ _ hquiet hs
  refine completeCycle_rule h.row.live (h.throughout hs) ⟨Or.inr hended, hkept⟩
    ⟨hended, hkept, fun hsame => ?_⟩
  rw [hrow, hcycle] at hsame
  omega

theorem stop_returned {reason : StopReason} {phase : String} {e : CycleEnd}
    (h : Underway s₀ current s) (hs : L s) :
    Holds (Throughout input s₀ L) (Returned input s₀ L G) (stop input current reason phase e) s := by
  apply completeCycle_returned hL h hs
  · simp [inserting, cycleOutcomeForStop_ne_continue]
  · intro row hrow hcycle
    subst hrow
    exact .stopped (halted_orchestrationStateForStop reason) hcycle

theorem finishCycle_returned {phase : String} {e : CycleEnd} (h : Underway s₀ current s)
    (hs : L s) :
    Holds (Throughout input s₀ L) (Returned input s₀ L G) (finishCycle input current phase e) s := by
  unfold finishCycle
  dsimp only
  split
  · exact stop_returned hL h hs
  next hbound =>
    apply completeCycle_returned hL h hs
    · simp [inserting]
    · intro row _ hcycle
      rw [h.record.bounds, h.record.cycle] at hbound
      exact .finished hcycle (by omega)

/-! ## The parts of a cycle -/

/-- A part that saves no row. -/
theorem aside_continues {α : Type} {p : Prog Store α} {experimentId : Option Id}
    (hp : Keeps (Aside experimentId) p) (h : Underway s₀ current s) (hs : L s) :
    Holds (Throughout input s₀ L) (fun _ t => Continues s₀ s current t) p s :=
  hp.rule Aside.refl (fun _ _ _ => Aside.trans)
    (fun _ ha => (h.aside ha).throughout (hL _ _ ha.quiet hs))
    (fun _ _ ha => ⟨h.aside ha, ha.quiet⟩)

omit hL in
theorem read_continues {β : Type} {f : Store → β} (h : Underway s₀ current s) (hs : L s) :
    Holds (Throughout input s₀ L) (fun b t => b = f s ∧ t = s) (Prog.read f) s :=
  holds_read (h.throughout hs) ⟨rfl, rfl⟩

theorem checkpoint_continues {c : Checkpoint} (h : Underway s₀ current s) (hs : L s)
    (hc : c.activeCycleId = none) :
    Holds (Throughout input s₀ L) (Continues s₀ s) (checkpoint input current c) s := by
  have hrecord : Ongoing s₀ s.nextId (checkpointRecord current c) :=
    h.record.checkpoint c fun _ hactive => by rw [hc] at hactive; cases hactive
  have hquiet : Quiet s (s.saved (checkpointRecord current c)) := ⟨rfl, rfl, Nat.le_refl _⟩
  have hsaved : Underway s₀ (checkpointRecord current c) (s.saved (checkpointRecord current c)) :=
    .saved hrecord
  exact checkpoint_rule h.row.live (h.throughout hs)
    (hsaved.throughout (hL _ _ hquiet hs)) ⟨hsaved, hquiet⟩

theorem prepare_continues {hypothesisId : Option Id} {plan : PlanRow}
    (h : Underway s₀ current s) (hs : L s) :
    Holds (Throughout input s₀ L) (Continues s₀ s)
      (Prog.commit (prepare input current hypothesisId plan)) s := by
  apply holds_commit (h.throughout hs)
  intro t record hprepare
  obtain ⟨-, -, rfl, hstore⟩ := prepare_eq_some hprepare
  have hrecord : Ongoing s₀ s.nextId (preparedRecord current hypothesisId plan) :=
    ⟨h.record.bounds, h.record.cycle, h.record.runnable, h.record.active⟩
  have hcontinues : Continues s₀ s (preparedRecord current hypothesisId plan) t := by
    rcases hstore with ⟨-, rfl⟩ | ⟨-, rfl⟩
    all_goals exact ⟨⟨hrecord, hrecord⟩, rfl, rfl, Nat.le_refl _⟩
  exact ⟨hcontinues.underway.throughout (hL _ _ hcontinues.quiet hs), hcontinues⟩

theorem execute_continues {plan : PlanRow} (h : Underway s₀ current s) (hs : L s) :
    Holds (Throughout input s₀ L) (fun r t => Continues s₀ s r.1 t)
      (execute input current plan) s := by
  unfold execute
  apply Holds.seq (aside_continues hL (keeps_tx (failClosedExisting_aside plan.experimentId)) h hs)
  intro existing t ht
  have hst := hL _ _ ht.quiet hs
  split
  · exact ht
  · apply Holds.bind
    apply holds_commit (ht.underway.throughout hst)
    intro u ⟨record, answer⟩ hcommit
    rcases authorize_eq_some hcommit with
      ⟨rfl, ⟨status, rfl⟩, haside⟩ | ⟨attemptId, v, rfl, rfl, -, haside, rfl⟩
    · have hu : Continues s₀ t record u := ⟨ht.underway.aside haside, haside.quiet⟩
      exact ⟨hu.underway.throughout (hL _ _ hu.quiet hst), hu.after ht.quiet⟩
    · have hv := ht.underway.aside haside
      have hquiet : Quiet s (v.saved (attemptRecord current attemptId plan.experimentId)) :=
        (ht.quiet.trans haside.quiet).trans ⟨rfl, rfl, Nat.le_refl _⟩
      have hu : Underway s₀ (attemptRecord current attemptId plan.experimentId)
          (v.saved (attemptRecord current attemptId plan.experimentId)) :=
        .saved ⟨hv.record.bounds, hv.record.cycle, rfl, hv.record.active⟩
      have hsu := hL _ _ hquiet hs
      refine ⟨hu.throughout hsu, ?_⟩
      apply Holds.seq (aside_continues hL (keeps_dispatch attemptId plan.experimentId) hu hsu)
      intro status w hw
      exact hw.after hquiet

/-! ## The resume branches -/

theorem resumePlannedExperiment_returned (h : Underway s₀ current s) (hs : L s) :
    Holds (Throughout input s₀ L) (Returned input s₀ L G)
      (resumePlannedExperiment input current) s := by
  unfold resumePlannedExperiment
  split
  · exact stop_returned hL h hs
  next experimentId _ =>
  apply Holds.seq (read_continues h hs)
  rintro stored t ⟨-, rfl⟩
  split
  · exact stop_returned hL h hs
  apply Holds.seq (execute_continues hL h hs)
  rintro ⟨current, loop⟩ t ht
  have hst := hL _ _ ht.quiet hs
  dsimp only
  split
  · exact stop_returned hL ht.underway hst
  · exact stop_returned hL ht.underway hst
  · exact stop_returned hL ht.underway hst
  · exact finishCycle_returned hL ht.underway hst
  · apply Holds.seq (aside_continues hL (keeps_assess experimentId) ht.underway hst)
    intro _ u hu
    exact finishCycle_returned hL hu.underway (hL _ _ hu.quiet hst)

theorem newExperimentId_continues {exploratory : Bool} {hypothesisId : Id}
    (h : Underway s₀ current s) (hs : L s) :
    Holds (Throughout input s₀ L) (fun _ t => Continues s₀ s current t)
      (newExperimentId exploratory hypothesisId) s := by
  unfold newExperimentId
  split
  · exact ⟨h, .refl s⟩
  · exact aside_continues hL keeps_newOpaqueId h hs

theorem resumeAdmittedHypothesis_returned (h : Underway s₀ current s) (hs : L s) :
    Holds (Throughout input s₀ L) (Returned input s₀ L G)
      (resumeAdmittedHypothesis input current) s := by
  unfold resumeAdmittedHypothesis
  split
  · exact stop_returned hL h hs
  apply Holds.seq (read_continues h hs)
  rintro existing t ⟨-, rfl⟩
  split
  · apply Holds.seq (read_continues h hs)
    rintro exploratory t ⟨-, rfl⟩
    apply Holds.seq (newExperimentId_continues hL h hs)
    intro experimentId t ht
    have hst := hL _ _ ht.quiet hs
    split
    · trivial
    · apply Holds.seq (prepare_continues hL ht.underway hst)
      intro current u hu
      exact resumePlannedExperiment_returned hL hu.underway (hL _ _ hu.quiet hst)
  · split
    · exact resumePlannedExperiment_returned hL h hs
    · apply Holds.seq (checkpoint_continues hL h hs rfl)
      intro current t ht
      exact resumePlannedExperiment_returned hL ht.underway (hL _ _ ht.quiet hs)

theorem resumeAfterWorker_returned (h : Underway s₀ current s) (hs : L s) :
    Holds (Throughout input s₀ L) (Returned input s₀ L G) (resumeAfterWorker input current) s := by
  have hassess : Holds (Throughout input s₀ L) (Continues s₀ s)
      (assessRecorded input current) s := by
    unfold assessRecorded
    split
    all_goals try exact ⟨h, .refl s⟩
    all_goals
      apply Holds.seq (aside_continues hL (keeps_assess _) h hs)
      intro assessmentId t ht
      have hst := hL _ _ ht.quiet hs
      apply (checkpoint_continues hL ht.underway hst rfl).mono (fun _ ht => ht)
      intro current u hu
      exact hu.after ht.quiet
  apply Holds.seq hassess
  intro current t ht
  exact finishCycle_returned hL ht.underway (hL _ _ ht.quiet hs)

theorem resumeAuthorized_returned (h : Underway s₀ s₀.row s₀) (hs : L s₀)
    (hsurface : input.surfaceDiscovery = none) :
    Holds (Throughout input s₀ L)
      (fun r t => match r with
        | some result => Returned input s₀ L G result t
        | none => t = s₀ ∧ openAttempt input s₀ = .none)
      (resumeAuthorized input s₀.row) s₀ := by
  have hend : ∀ {p : Prog Store TickResult} {t : Store},
      Holds (Throughout input s₀ L) (Returned input s₀ L G) p t →
      Holds (Throughout input s₀ L)
        (fun r t => match r with
          | some result => Returned input s₀ L G result t
          | none => t = s₀ ∧ openAttempt input s₀ = .none)
        (do return some (← p)) t := fun hp => Holds.bind hp
  unfold resumeAuthorized
  apply Holds.seq (read_continues h hs)
  rintro ⟨found, experiment⟩ t ⟨hfound, rfl⟩
  simp only [Prod.mk.injEq] at hfound
  obtain ⟨hfound, -⟩ := hfound
  split
  · exact hend (stop_returned hL h hs)
  next heq =>
    simp only [Prod.mk.injEq] at heq
    exact ⟨rfl, hfound.symm.trans heq.1⟩
  · exact hend (stop_returned hL h hs)
  next attempt experiment heq =>
    simp only [Prod.mk.injEq] at heq
    split
    · exact hend (stop_returned hL h hs)
    · trivial
    next hbuilt =>
      apply Holds.seq (aside_continues hL
        (keeps_dispatch attempt.attemptId experiment.experimentId) h hs)
      intro status u hu
      have hsu := hL _ _ hu.quiet hs
      dsimp only
      split
      · exact hend (stop_returned hL hu.underway hsu)
      · apply hend
        apply completeCycle_returned hL hu.underway hsu rfl
        intro row _ hcycle
        have hcall : endsUnchecked input t = true := by
          simp [endsUnchecked, hsurface, hbuilt, ← hfound, heq.1]
        exact .unchecked hcall hcycle

theorem stepSurfaceDiscovery_returned {discovery : SurfaceDiscovery}
    (h : Underway s₀ s₀.row s₀) (hs : L s₀)
    (hdiscovery : input.surfaceDiscovery = some discovery) :
    Holds (Throughout input s₀ L) (Returned input s₀ L G)
      (stepSurfaceDiscovery input discovery s₀.row) s₀ := by
  unfold stepSurfaceDiscovery
  apply Holds.seq (read_continues h hs)
  rintro unknown t ⟨-, rfl⟩
  split
  · exact stop_returned hL h hs
  · apply Holds.seq (aside_continues hL (keeps_external discovery.effects) h hs)
    intro _ u hu
    have hsu := hL _ _ hu.quiet hs
    dsimp only
    split
    · exact stop_returned hL hu.underway hsu
    next hstop =>
      apply completeCycle_returned hL hu.underway hsu rfl
      intro row _ hcycle
      exact .unchecked (by simp [endsUnchecked, hdiscovery, hstop]) hcycle

/-! ## Proposals -/

theorem persistHypothesis_continues {opportunityId : Option Id} {cycleId : Id}
    {row : HypothesisRow} (h : Underway s₀ current s) (hs : L s) (hid : cycleId < 2 * s.nextId) :
    Holds (Throughout input s₀ L) (Continues s₀ s)
      (Prog.commit (persistHypothesis input current opportunityId cycleId row)) s := by
  apply holds_commit (h.throughout hs)
  intro t record hpersist
  obtain ⟨-, rfl, hypotheses, -, rfl⟩ := persistHypothesis_eq_some hpersist
  have hrecord : Ongoing s₀ s.nextId
      (hypothesisRecord current opportunityId cycleId row.hypothesisId) := by
    refine ⟨h.record.bounds, h.record.cycle, rfl, fun id hactive => ?_⟩
    cases hactive
    exact hid
  have hcontinues : Continues s₀ s _ (Store.happened
      { s with row := hypothesisRecord current opportunityId cycleId row.hypothesisId,
               hypotheses := hypotheses } (.admitted opportunityId row.hypothesisId)) :=
    ⟨⟨hrecord, hrecord⟩, rfl, rfl, Nat.le_refl _⟩
  exact ⟨hcontinues.underway.throughout (hL _ _ hcontinues.quiet hs), hcontinues⟩

theorem notAdmitted_continues (h : Underway s₀ current s) (hs : L s) :
    Holds (Throughout input s₀ L) (fun _ t => Continues s₀ s current t)
      (Prog.write persistNotAdmitted) s := by
  have hcontinues : Continues s₀ s current (persistNotAdmitted s) :=
    ⟨⟨h.record, h.row⟩, rfl, rfl, Nat.le_refl _⟩
  exact holds_write (hcontinues.underway.throughout (hL _ _ hcontinues.quiet hs)) hcontinues

section Admission

variable (hG : ∀ s t, Quiet s t → G s → G t)
include hG

/-- A proposal that is admitted, or not. -/
theorem admission_ends {p : Prog Store Id} {opportunityId : Option Id} {cycleId : Id}
    {row : Id → HypothesisRow} (h : Underway s₀ current s) (hs : L s)
    (hid : cycleId < 2 * s.nextId) (hp : Keeps (Aside none) p)
    (hrejected : input.admission = .rejected → G s) :
    Holds (Throughout input s₀ L) (ProposalEnd s₀ L G)
      (match input.admission with
        | .rejected => do
          Prog.write persistNotAdmitted
          return (current, .notAdmitted)
        | .admitted level => do
          let hypothesisId ← p
          let current ← Prog.commit
            (persistHypothesis input current opportunityId cycleId (row hypothesisId))
          return (current, .admitted hypothesisId level)) s := by
  split
  next hadmission =>
    apply Holds.seq (notAdmitted_continues hL h hs)
    intro _ t ht
    exact ⟨ht.underway, hL _ _ ht.quiet hs, fun _ => hG _ _ ht.quiet (hrejected hadmission)⟩
  next level _ =>
    apply Holds.seq (aside_continues hL hp h hs)
    intro hypothesisId t ht
    have hst := hL _ _ ht.quiet hs
    have hid' : cycleId < 2 * t.nextId :=
      Nat.lt_of_lt_of_le hid (Nat.mul_le_mul_left 2 ht.quiet.nextId)
    apply Holds.seq (persistHypothesis_continues hL ht.underway hst hid')
    intro record u hu
    exact ⟨hu.underway, hL _ _ hu.quiet hst, fun heq => by cases heq⟩

theorem persistProposal_ends {opportunityId : Option Id} {cycleId : Id}
    (h : Underway s₀ current s) (hs : L s) (hid : cycleId < 2 * s.nextId)
    (hrejected : input.admission = .rejected → G s) :
    Holds (Throughout input s₀ L) (ProposalEnd s₀ L G)
      (persistProposal input current opportunityId cycleId) s :=
  admission_ends hL hG h hs hid keeps_newOpaqueId hrejected

theorem admitRegistryExternal_ends {opportunity : OpportunityRow} {cycleId : Id}
    (h : Underway s₀ current s) (hs : L s) (hid : cycleId < 2 * s.nextId)
    (hrejected : input.admission = .rejected → G s) :
    Holds (Throughout input s₀ L) (ProposalEnd s₀ L G)
      (admitRegistryExternal input current cycleId opportunity) s := by
  unfold admitRegistryExternal
  split
  · trivial
  · apply Holds.seq (read_continues h hs)
    rintro existing t ⟨-, rfl⟩
    apply admission_ends hL hG h hs hid ?_ hrejected
    cases existing with
    | none => exact keeps_newOpaqueId
    | some row => exact keeps_pure

theorem persistFailure_ends {outcome : CallOutcome} (h : Underway s₀ current s) (hs : L s)
    (hmalformed : outcome = .malformed → G s) (husable : outcome ≠ .usable) :
    Holds (Throughout input s₀ L) (ProposalEnd s₀ L G) (persistFailure current outcome) s := by
  cases outcome with
  | budgetRejected => exact ⟨h, hs, fun heq => by cases heq⟩
  | failed outcome =>
    apply Holds.seq (notAdmitted_continues hL h hs)
    intro _ t ht
    exact ⟨ht.underway, hL _ _ ht.quiet hs, fun heq => by cases heq⟩
  | malformed =>
    apply Holds.seq (notAdmitted_continues hL h hs)
    intro _ t ht
    exact ⟨ht.underway, hL _ _ ht.quiet hs, fun _ => hG _ _ ht.quiet (hmalformed rfl)⟩
  | usable => exact absurd rfl husable

end Admission

/-! ## A cycle -/

theorem executePlanned_returned {opportunityId : Option Id} {plan : PlanRow}
    (h : Underway s₀ current s) (hs : L s) :
    Holds (Throughout input s₀ L) (Returned input s₀ L G)
      (executePlanned input current opportunityId plan) s := by
  unfold executePlanned
  apply Holds.seq (checkpoint_continues hL h hs rfl)
  intro current t ht
  have hst := hL _ _ ht.quiet hs
  apply Holds.seq (execute_continues hL ht.underway hst)
  rintro ⟨current, loop⟩ u hu
  have hsu := hL _ _ hu.quiet hst
  have hrecord : Holds (Throughout input s₀ L) (fun r v => Continues s₀ u r v)
      (recordResult input current plan.experimentId plan.hypothesisId loop) u := by
    unfold recordResult
    apply Holds.seq (checkpoint_continues hL hu.underway hsu rfl)
    intro current v hv
    have hsv := hL _ _ hv.quiet hsu
    apply Holds.seq (checkpoint_continues hL hv.underway hsv rfl)
    intro current w hw
    have hsw := hL _ _ hw.quiet hsv
    apply Holds.seq (aside_continues hL (keeps_assess plan.experimentId) hw.underway hsw)
    intro assessmentId x hx
    apply (checkpoint_continues hL hx.underway (hL _ _ hx.quiet hsw) rfl).mono (fun _ ht => ht)
    intro current y hy
    exact hy.after ((hv.quiet.trans hw.quiet).trans hx.quiet)
  have hfinish : ∀ {e : CycleEnd}, Holds (Throughout input s₀ L) (Returned input s₀ L G)
      (do
        let current ← recordResult input current plan.experimentId plan.hypothesisId loop
        finishCycle input current "execute" e) u := by
    intro e
    apply Holds.seq hrecord
    intro current v hv
    exact finishCycle_returned hL hv.underway (hL _ _ hv.quiet hsu)
  dsimp only
  split
  · exact stop_returned hL hu.underway hsu
  · exact stop_returned hL hu.underway hsu
  · exact stop_returned hL hu.underway hsu
  · exact hfinish
  · exact hfinish
  · exact hfinish
  · exact finishCycle_returned hL hu.underway hsu

theorem planCycle_returned {opportunityId : Option Id} {hypothesisId : Id} {level : Nat}
    (h : Underway s₀ current s) (hs : L s) :
    Holds (Throughout input s₀ L) (Returned input s₀ L G)
      (planCycle input current opportunityId hypothesisId level) s := by
  unfold planCycle
  split
  · exact stop_returned hL h hs
  apply Holds.seq (read_continues h hs)
  rintro existing t ⟨-, rfl⟩
  split
  · apply Holds.seq (checkpoint_continues hL h hs rfl)
    intro current u hu
    exact resumePlannedExperiment_returned hL hu.underway (hL _ _ hu.quiet hs)
  · apply Holds.seq (read_continues h hs)
    rintro exploratory t ⟨-, rfl⟩
    apply Holds.seq (newExperimentId_continues hL h hs)
    intro experimentId u hu
    have hsu := hL _ _ hu.quiet hs
    apply Holds.seq (prepare_continues hL hu.underway hsu)
    intro current v hv
    exact executePlanned_returned hL hv.underway (hL _ _ hv.quiet hsu)

/-- The cycle that the model calls are charged to is the one on the row, or
new. -/
theorem activeCycle_continues (h : Underway s₀ current s) (hs : L s)
    (hactive : current.activeCycleId = s₀.row.activeCycleId) (hquiet : Quiet s₀ s) :
    Holds (Throughout input s₀ L)
      (fun cycleId t => Aside none s t ∧ cycleId < 2 * t.nextId ∧
        (s₀.row.activeCycleId = some cycleId ∨
          s₀.row.activeCycleId = none ∧ 2 * s₀.nextId ≤ cycleId))
      (activeCycle current) s := by
  unfold activeCycle
  split
  next cycleId hcycle =>
    exact ⟨.refl s, h.record.active cycleId hcycle, Or.inl (hactive ▸ hcycle)⟩
  next hcycle =>
    apply holds_commit (h.throughout hs)
    intro t cycleId heq
    cases heq
    have haside : Aside none s s.drawn := Store.aside_drawn
    have hnext := hquiet.nextId
    refine ⟨(h.aside haside).throughout (hL _ _ haside.quiet hs), haside, ?_,
      Or.inr ⟨hactive ▸ hcycle, ?_⟩⟩
    · simp only [Store.newId, Store.drawn]; omega
    · simp only [Store.newId]; omega

omit hL in
theorem opportunityIsExploratory_congr {opportunityId : Option Id}
    (h : t.opportunities = s.opportunities) :
    opportunityIsExploratory t opportunityId = opportunityIsExploratory s opportunityId := by
  unfold opportunityIsExploratory Store.opportunity
  rw [h]

omit hL in
/-- What is selected depends on the opportunities that are stored, not on the
rest of the store. -/
theorem selectOpportunities_exploratory {bounds : OrchestrationBounds}
    {opportunityId : Option Id} (h : t.opportunities = s.opportunities) :
    opportunityIsExploratory (selectOpportunities input bounds t).1 opportunityId =
      opportunityIsExploratory (selectOpportunities input bounds s).1 opportunityId := by
  apply opportunityIsExploratory_congr
  simp [selectOpportunities, Store.happened, Store.opportunity, h]

/-- The model is asked as the law of the accounts has it. -/
def ProposesUnder (input : StepInput) (s₀ : Store) (L G : Store → Prop) : Prop :=
  ∀ current opportunityId cycleId t, Underway s₀ current t → L t →
    Opened input s₀ opportunityId cycleId t →
    Holds (Throughout input s₀ L) (ProposalEnd s₀ L G)
      (propose input current opportunityId cycleId) t

section Cycle

variable (hG : ∀ s t, Quiet s t → G s → G t) (hmodel : ProposesUnder input s₀ L G)
include hG hmodel

theorem proposeCycle_returned {opportunityId : Option Id} {cycleId : Id}
    (h : Underway s₀ current s) (hs : L s) (hopen : Opened input s₀ opportunityId cycleId s) :
    Holds (Throughout input s₀ L) (Returned input s₀ L G)
      (proposeCycle input current opportunityId cycleId) s := by
  unfold proposeCycle
  apply Holds.seq (hmodel current opportunityId cycleId s h hs hopen)
  rintro ⟨current, proposed⟩ t ht
  dsimp only
  split
  · exact stop_returned hL ht.underway ht.kept
  · exact stop_returned hL ht.underway ht.kept
  · -- the only end that leaves the cycle uncounted
    have hquiet := completed_quiet t current .continue "hypothesis_not_admitted"
      { CycleEnd.default with
        opportunityId := opportunityId, currentPhase := some .cycleComplete }
    have hkept := hL _ _ hquiet ht.kept
    have hended : Ended input s₀ (completed t current .continue "hypothesis_not_admitted"
        { CycleEnd.default with
          opportunityId := opportunityId, currentPhase := some .cycleComplete }) := by
      constructor
      · rw [completed_row]; exact ht.underway.record.bounds
      · rw [completed_row]; exact (ht.underway.record.mono hquiet.nextId).active
      · rw [completed_row]; exact .notAdmitted ht.underway.record.cycle
    exact completeCycle_rule ht.underway.row.live (ht.underway.throughout ht.kept)
      ⟨Or.inr hended, hkept⟩ ⟨hended, hkept, fun _ => hG _ _ hquiet (ht.notAdmitted rfl)⟩
  · exact planCycle_returned hL ht.underway ht.kept

theorem selectCycle_returned (hactive : ∀ cycleId, s₀.row.activeCycleId = some cycleId →
      cycleId < 2 * s₀.nextId)
    (hs : L s₀) (hphase : s₀.row.currentPhase ≠ .opportunitySelected)
    (hopens : selectsNext input s₀ = true → opensCycle input s₀ = true) :
    Holds (Throughout input s₀ L) (Returned input s₀ L G)
      (selectCycle input (runningRecord s₀.row)) (s₀.saved (runningRecord s₀.row)) := by
  have hrunning : Ongoing s₀ s₀.nextId (runningRecord s₀.row) := ⟨rfl, rfl, rfl, hactive⟩
  have hselect : Quiet s₀ (selectOpportunities input s₀.row.bounds
      (s₀.saved (runningRecord s₀.row))).1 := ⟨rfl, rfl, Nat.le_refl _⟩
  have ht : Underway s₀ (runningRecord s₀.row) (selectOpportunities input s₀.row.bounds
      (s₀.saved (runningRecord s₀.row))).1 := ⟨hrunning, hrunning⟩
  have hst := hL _ _ hselect hs
  unfold selectCycle
  refine ⟨ht.throughout hst, ?_⟩
  apply Holds.seq (read_continues ht hst)
  rintro next t ⟨hnext, rfl⟩
  split
  · exact stop_returned hL ht hst
  next hgoes =>
  -- the opportunities and the row, which the selection writes, are not in the usage
  have hopens := hopens (by rw [hnext] at hgoes; exact decide_eq_true hgoes)
  apply Holds.seq (activeCycle_continues hL ht hst rfl hselect)
  rintro cycleId u ⟨haside, hissued, hcycle⟩
  have hu := ht.aside haside
  have hsu := hL _ _ haside.quiet hst
  apply Holds.bind
  have hrecord := hu.record.checkpoint { Checkpoint.at .opportunitySelected with
    opportunityId := (selectOpportunities input s₀.row.bounds s₀).2.head?
    activeCycleId := some cycleId } fun id heq => by cases heq; exact hissued
  have hsaved : Quiet u (u.saved (checkpointRecord (runningRecord s₀.row)
      { Checkpoint.at .opportunitySelected with
        opportunityId := (selectOpportunities input s₀.row.bounds s₀).2.head?
        activeCycleId := some cycleId })) := ⟨rfl, rfl, Nat.le_refl _⟩
  have hv := Underway.saved hrecord
  have hsv := hL _ _ hsaved hsu
  refine checkpoint_rule hu.row.live (hu.throughout hsu) (hv.throughout hsv)
    (proposeCycle_returned hL hG hmodel hv hsv ⟨hopens, ?_, hissued, hcycle, ?_⟩)
  · exact (hselect.trans haside.quiet).trans hsaved
  · unfold opensExploratory
    rw [if_neg hphase]
    exact opportunityIsExploratory_congr haside.opportunities

theorem cycle_returned (h : Underway s₀ s₀.row s₀) (hs : L s₀)
    (hreaches : reachesCycle input s₀ = true) :
    Holds (Throughout input s₀ L) (Returned input s₀ L G) (cycle input s₀.row) s₀ := by
  unfold cycle
  apply Holds.seq (read_continues h hs)
  rintro bound t ⟨hbound, rfl⟩
  split
  · exact stop_returned hL h hs
  apply Holds.bind
  have hrecord : Ongoing t t.nextId (runningRecord t.row) :=
    ⟨h.record.bounds, h.record.cycle, rfl, h.record.active⟩
  have hquiet : Quiet t (t.saved (runningRecord t.row)) := ⟨rfl, rfl, Nat.le_refl _⟩
  have hu := Underway.saved hrecord
  have hsu := hL _ _ hquiet hs
  apply markRunning_rule (h.throughout hs) (hu.throughout hsu)
  apply Holds.seq (read_continues hu hsu)
  rintro current v ⟨rfl, rfl⟩
  have hopens : (t.row.currentPhase = .opportunitySelected ∨
      ((routingStop input.routing).isNone = true ∧ selectsNext input t = true)) →
      opensCycle input t = true := by
    intro hroute
    unfold opensCycle
    rw [hreaches, ← hbound]
    simpa using hroute
  split
  next hphase =>
    apply Holds.seq (activeCycle_continues hL hu hsu rfl hquiet)
    rintro cycleId w ⟨haside, hissued, hcycle⟩
    refine proposeCycle_returned hL hG hmodel (hu.aside haside) (hL _ _ haside.quiet hsu)
      ⟨hopens (Or.inl hphase), hquiet.trans haside.quiet, hissued, hcycle, ?_⟩
    unfold opensExploratory
    rw [if_pos hphase]
    exact opportunityIsExploratory_congr haside.opportunities
  next hphase =>
    split
    · exact stop_returned hL hu hsu
    next hroute =>
      exact selectCycle_returned hL hG hmodel h.record.active hs hphase
        (fun hnext => hopens (Or.inr ⟨by rw [hroute]; rfl, hnext⟩))

/-! ## The call -/

theorem resumePhase_returned (h : Underway s₀ s₀.row s₀) (hs : L s₀)
    (hreaches : nothingToResume input s₀ = true → reachesCycle input s₀ = true) :
    Holds (Throughout input s₀ L) (Returned input s₀ L G) (resumePhase input s₀.row) s₀ := by
  have hcycle : nothingToResume input s₀ = true →
      Holds (Throughout input s₀ L) (Returned input s₀ L G) (cycle input s₀.row) s₀ :=
    fun hnothing => cycle_returned hL hG hmodel h hs (hreaches hnothing)
  unfold resumePhase
  split
  next hphase =>
    split
    · exact resumeAdmittedHypothesis_returned hL h hs
    next hnone => exact hcycle (by simpa [nothingToResume, hphase] using hnone)
  next hphase =>
    apply Holds.seq (read_continues h hs)
    rintro existing t ⟨hexisting, rfl⟩
    split
    · apply Holds.seq (checkpoint_continues hL h hs rfl)
      intro current t ht
      exact resumeAdmittedHypothesis_returned hL ht.underway (hL _ _ ht.quiet hs)
    · exact hcycle (by simp [nothingToResume, hphase, ← hexisting])
  all_goals
    first
    | next hphase =>
        split
        · first
          | exact resumePlannedExperiment_returned hL h hs
          | exact resumeAfterWorker_returned hL h hs
        next hnone => exact hcycle (by simpa [nothingToResume, hphase] using hnone)
    | exact hcycle (by unfold nothingToResume; split <;> first | rfl | contradiction)

/-- **What a call does**, of a run that is ready or running. -/
theorem step_returned (hrunnable : s₀.row.state.halted = false)
    (hactive : ∀ cycleId, s₀.row.activeCycleId = some cycleId → cycleId < 2 * s₀.nextId)
    (hs : L s₀) :
    Holds (Throughout input s₀ L) (Returned input s₀ L G) (step input) s₀ := by
  have h : Underway s₀ s₀.row s₀ :=
    ⟨⟨rfl, rfl, hrunnable, hactive⟩, ⟨rfl, rfl, hrunnable, hactive⟩⟩
  unfold step
  apply Holds.seq (read_continues h hs)
  rintro current t ⟨rfl, rfl⟩
  rw [if_neg (by rw [hrunnable]; simp)]
  unfold stepRunnable
  split
  next discovery hdiscovery => exact stepSurfaceDiscovery_returned hL h hs hdiscovery
  next hdiscovery =>
    apply Holds.seq (read_continues h hs)
    rintro unknown v ⟨-, rfl⟩
    split
    · exact stop_returned hL h hs
    next hphase =>
      apply Holds.seq (resumeAuthorized_returned hL h hs hdiscovery)
      intro resumed t ht
      split
      · exact ht
      · obtain ⟨rfl, hnone⟩ := ht
        apply resumePhase_returned hL hG hmodel h hs
        intro hnothing
        simp only [not_or] at hphase
        simp [reachesCycle, hrunnable, hdiscovery, hphase.1, hnone, hnothing]

end Cycle
end Ends
end Controller
end Zest

import Zest.ControllerRules
import Zest.OperatorCommands
import Zest.TransitionSystem

/-! # Operator commands during a step

An operator pauses, resumes or cancels a run while a step of it may be in
flight.  The units of work of the step and the two halves of a command, its
read and its save, come in any order.

A cancelled run is terminal, and no save goes over a terminal row.  A paused run
is not: the step in flight saves records that it built from what it had read
before the pause, and such a save brings the run back.  A step that begins after
the pause finds it and does nothing.
-/
namespace Zest
namespace Controller

open UnitOfWork TransitionSystem

/-! ## Terminal rows -/

/-- A row that is terminal is left alone. -/
def Sealed (s t : Store) : Prop := s.row.state.terminal = true → t.row = s.row

section Sealed

variable {input : StepInput} {current record : ResearchOrchestrationRecord} {s t : Store}

theorem Sealed.refl (s : Store) : Sealed s s := fun _ => rfl

/-- What leaves every row alone leaves the terminal ones alone. -/
theorem sealed_of_aside {α : Type} {p : Prog Store α} {experimentId : Option Id}
    (h : Keeps (Aside experimentId) p) : Keeps Sealed p :=
  h.mono fun _ _ ha _ => ha.row

theorem sealed_read {β : Type} {f : Store → β} : Keeps Sealed (Prog.read f) :=
  keeps_read .refl

/-- A transaction that finds the row alive is of no concern. -/
theorem sealed_of_live (h : s.row.state.terminal = false) (t : Store) : Sealed s t := by
  intro hterminal
  rw [h] at hterminal
  cases hterminal

theorem sealed_saveUnlessTerminal {also : Store → Store} :
    Keeps Sealed (Prog.commit fun s => saveUnlessTerminal input record s also) := by
  apply keeps_commit .refl
  intro s t saved h
  unfold saveUnlessTerminal at h
  split at h
  next hsave => exact sealed_of_live (saveRow_eq_ok hsave).2 t
  next => cases h; exact .refl s
  next => cases h

theorem sealed_checkpoint {c : Checkpoint} : Keeps Sealed (checkpoint input current c) := by
  unfold checkpoint
  apply Keeps.bind sealed_saveUnlessTerminal
  intro saved
  split
  · exact keeps_pure
  · exact sealed_read

theorem sealed_completeCycle {outcome : CycleOutcome} {phase : String} {e : CycleEnd} :
    Keeps Sealed (completeCycle input current outcome phase e) := by
  unfold completeCycle
  apply Keeps.bind sealed_saveUnlessTerminal
  intro saved
  split
  · exact keeps_pure
  · exact Keeps.bind sealed_read fun _ => keeps_pure

theorem sealed_finishCycle {phase : String} {e : CycleEnd} :
    Keeps Sealed (finishCycle input current phase e) := by
  unfold finishCycle
  dsimp only
  split
  · exact sealed_completeCycle
  · exact sealed_completeCycle

theorem sealed_markRunning : Keeps Sealed (markRunning input current) := by
  apply keeps_commit .refl
  intro s t _ h
  split at h
  next hsave => exact sealed_of_live (saveRow_eq_ok hsave).2 t
  next => cases h

theorem sealed_prepare {hypothesisId : Option Id} {plan : PlanRow} :
    Keeps Sealed (Prog.commit (prepare input current hypothesisId plan)) :=
  keeps_commit .refl fun _ t _ h => sealed_of_live (prepare_eq_some h).1 t

theorem sealed_persistHypothesis {opportunityId : Option Id} {cycleId : Id}
    {row : HypothesisRow} :
    Keeps Sealed (Prog.commit (persistHypothesis input current opportunityId cycleId row)) :=
  keeps_commit .refl fun _ t _ h => sealed_of_live (persistHypothesis_eq_some h).1 t

theorem sealed_execute {plan : PlanRow} : Keeps Sealed (execute input current plan) := by
  unfold execute
  apply Keeps.bind (sealed_of_aside (keeps_tx (failClosedExisting_aside plan.experimentId)))
  intro existing
  split
  · exact keeps_pure
  apply Keeps.bind
  · apply keeps_commit .refl
    intro s t ⟨record, answer⟩ h
    rcases authorize_eq_some h with ⟨-, -, haside⟩ | ⟨_, _, -, -, hlive, -, -⟩
    · exact fun _ => haside.row
    · exact sealed_of_live hlive t
  · intro authorized
    split
    · exact keeps_pure
    · exact Keeps.bind (sealed_of_aside (keeps_dispatch ..)) fun _ => keeps_pure

theorem sealed_resumePlannedExperiment :
    Keeps Sealed (resumePlannedExperiment input current) := by
  unfold resumePlannedExperiment
  split
  · exact sealed_completeCycle
  apply Keeps.bind sealed_read
  intro stored
  split
  · exact sealed_completeCycle
  apply Keeps.bind sealed_execute
  rintro ⟨record, loop⟩
  dsimp only
  split
  · exact sealed_completeCycle
  · exact sealed_completeCycle
  · exact sealed_completeCycle
  · exact sealed_finishCycle
  · exact Keeps.bind (sealed_of_aside (keeps_assess _)) fun _ => sealed_finishCycle

theorem sealed_newExperimentId {exploratory : Bool} {hypothesisId : Id} :
    Keeps Sealed (newExperimentId exploratory hypothesisId) := by
  unfold newExperimentId
  split
  · exact keeps_pure
  · exact sealed_of_aside keeps_newOpaqueId

theorem sealed_resumeAdmittedHypothesis :
    Keeps Sealed (resumeAdmittedHypothesis input current) := by
  unfold resumeAdmittedHypothesis
  split
  · exact sealed_completeCycle
  apply Keeps.bind sealed_read
  intro existing
  split
  · apply Keeps.bind sealed_read
    intro exploratory
    apply Keeps.bind sealed_newExperimentId
    intro experimentId
    split
    · exact keeps_raise
    · exact Keeps.bind sealed_prepare fun _ => sealed_resumePlannedExperiment
  · split
    · exact sealed_resumePlannedExperiment
    · exact Keeps.bind sealed_checkpoint fun _ => sealed_resumePlannedExperiment

theorem sealed_resumeAfterWorker : Keeps Sealed (resumeAfterWorker input current) := by
  have hassess : ∀ experimentId (c : Id → Checkpoint), Keeps Sealed (do
      let assessmentId ← assess input experimentId
      checkpoint input current (c assessmentId)) := fun experimentId c =>
    Keeps.bind (sealed_of_aside (keeps_assess experimentId)) fun _ => sealed_checkpoint
  have hrecorded : Keeps Sealed (assessRecorded input current) := by
    unfold assessRecorded
    split
    · exact hassess ..
    · exact hassess ..
    · exact keeps_pure
  exact Keeps.bind hrecorded fun _ => sealed_finishCycle

theorem sealed_resumeAuthorized : Keeps Sealed (resumeAuthorized input current) := by
  have hend : ∀ {p : Prog Store TickResult}, Keeps Sealed p →
      Keeps Sealed (do return some (← p)) := fun hp => Keeps.bind hp fun _ => keeps_pure
  unfold resumeAuthorized
  apply Keeps.bind sealed_read
  rintro ⟨found, experiment⟩
  split
  · exact hend sealed_completeCycle
  · exact keeps_pure
  · exact hend sealed_completeCycle
  · split
    · exact hend sealed_completeCycle
    · exact keeps_raise
    · apply Keeps.bind (sealed_of_aside (keeps_dispatch ..))
      intro status
      dsimp only
      split
      · exact hend sealed_completeCycle
      · exact hend sealed_completeCycle

theorem sealed_complete {port : BudgetEnforcedModelPort} {role : ModelRole}
    {reply : ModelReply} : Keeps Sealed (complete port role reply) := by
  have hcharge : ∀ s, Sealed s (recordModelCall (port.nextInvocation role) s).1 := by
    intro s _
    unfold recordModelCall
    split <;> rfl
  unfold complete
  split
  · exact keeps_pure
  · exact keeps_pure
  · apply Keeps.bind (keeps_tx hcharge)
    intro charged
    split
    · exact keeps_pure
    · exact Keeps.bind (keeps_write fun _ _ => rfl) fun _ => keeps_pure

theorem sealed_notAdmitted : Keeps Sealed (Prog.write persistNotAdmitted) :=
  keeps_write fun _ _ => rfl

theorem sealed_admitRegistryExternal {cycleId : Id} {opportunity : OpportunityRow} :
    Keeps Sealed (admitRegistryExternal input current cycleId opportunity) := by
  have htaken : ∀ row, Keeps Sealed (takenUp row) := fun row => by
    cases row with
    | none => exact sealed_of_aside keeps_newOpaqueId
    | some row => exact keeps_pure
  unfold admitRegistryExternal
  split
  · exact keeps_raise
  apply Keeps.bind sealed_read
  intro existing
  split
  · exact Keeps.bind sealed_notAdmitted fun _ => keeps_pure
  · exact Keeps.bind (htaken existing) fun _ => Keeps.bind sealed_persistHypothesis fun _ =>
      keeps_pure

theorem sealed_proposeByModel {opportunityId : Option Id} {cycleId : Id} :
    Keeps Sealed (proposeByModel input current opportunityId cycleId) := by
  have hfailure : ∀ outcome, Keeps Sealed (persistFailure current outcome) := fun outcome => by
    unfold persistFailure
    split
    · exact keeps_pure
    · exact Keeps.bind sealed_notAdmitted fun _ => keeps_pure
    · exact Keeps.bind sealed_notAdmitted fun _ => keeps_pure
  have hproposal : Keeps Sealed (persistProposal input current opportunityId cycleId) := by
    unfold persistProposal
    split
    · exact Keeps.bind sealed_notAdmitted fun _ => keeps_pure
    · exact Keeps.bind (sealed_of_aside keeps_newOpaqueId) fun _ =>
        Keeps.bind sealed_persistHypothesis fun _ => keeps_pure
  unfold proposeByModel
  apply Keeps.bind sealed_complete
  rintro ⟨port, generated⟩
  dsimp only
  split
  · exact hfailure generated
  apply Keeps.bind sealed_complete
  rintro ⟨_, challenged⟩
  dsimp only
  split
  · exact hfailure challenged
  · exact hproposal

theorem sealed_propose {opportunityId : Option Id} {cycleId : Id} :
    Keeps Sealed (propose input current opportunityId cycleId) := by
  unfold propose
  split
  · exact sealed_proposeByModel
  apply Keeps.bind sealed_read
  intro opportunity
  split
  · exact keeps_raise
  · split
    · exact sealed_admitRegistryExternal
    · exact sealed_proposeByModel

theorem sealed_executePlanned {opportunityId : Option Id} {plan : PlanRow} :
    Keeps Sealed (executePlanned input current opportunityId plan) := by
  have hrecord : ∀ {record loop}, Keeps Sealed
      (recordResult input record plan.experimentId plan.hypothesisId loop) := by
    intro record loop
    unfold recordResult
    exact Keeps.bind sealed_checkpoint fun _ => Keeps.bind sealed_checkpoint fun _ =>
      Keeps.bind (sealed_of_aside (keeps_assess plan.experimentId)) fun _ => sealed_checkpoint
  unfold executePlanned
  apply Keeps.bind sealed_checkpoint
  intro record
  apply Keeps.bind sealed_execute
  rintro ⟨record, loop⟩
  dsimp only
  split
  · exact sealed_completeCycle
  · exact sealed_completeCycle
  · exact sealed_completeCycle
  · exact Keeps.bind hrecord fun _ => sealed_finishCycle
  · exact Keeps.bind hrecord fun _ => sealed_finishCycle
  · exact Keeps.bind hrecord fun _ => sealed_finishCycle
  · exact sealed_finishCycle

theorem sealed_planCycle {opportunityId : Option Id} {hypothesisId : Id} {level : Nat} :
    Keeps Sealed (planCycle input current opportunityId hypothesisId level) := by
  unfold planCycle
  split
  · exact sealed_completeCycle
  apply Keeps.bind sealed_read
  intro existing
  split
  · exact Keeps.bind sealed_checkpoint fun _ => sealed_resumePlannedExperiment
  · exact Keeps.bind sealed_read fun _ => Keeps.bind sealed_newExperimentId fun _ =>
      Keeps.bind sealed_prepare fun _ => sealed_executePlanned

theorem sealed_proposeCycle {opportunityId : Option Id} {cycleId : Id} :
    Keeps Sealed (proposeCycle input current opportunityId cycleId) := by
  unfold proposeCycle
  apply Keeps.bind sealed_propose
  rintro ⟨record, proposed⟩
  dsimp only
  split
  · exact sealed_completeCycle
  · exact sealed_completeCycle
  · exact sealed_completeCycle
  · exact sealed_planCycle

theorem sealed_activeCycle : Keeps Sealed (activeCycle current) := by
  unfold activeCycle
  split
  · exact keeps_pure
  · exact sealed_of_aside keeps_newOpaqueId

theorem sealed_selectCycle : Keeps Sealed (selectCycle input current) := by
  unfold selectCycle
  apply Keeps.bind (keeps_tx fun _ _ => rfl)
  intro selected
  apply Keeps.bind sealed_read
  intro next
  split
  · exact sealed_completeCycle
  · exact Keeps.bind sealed_activeCycle fun _ => Keeps.bind sealed_checkpoint fun _ =>
      sealed_proposeCycle

theorem sealed_cycle : Keeps Sealed (cycle input current) := by
  unfold cycle
  apply Keeps.bind sealed_read
  intro bound
  split
  · exact sealed_completeCycle
  apply Keeps.bind sealed_markRunning
  intro _
  apply Keeps.bind sealed_read
  intro record
  split
  · exact Keeps.bind sealed_activeCycle fun _ => sealed_proposeCycle
  · split
    · exact sealed_completeCycle
    · exact sealed_selectCycle

theorem sealed_resumePhase : Keeps Sealed (resumePhase input current) := by
  have horCycle : ∀ {c : Prop} [Decidable c] {p : Prog Store TickResult}, Keeps Sealed p →
      Keeps Sealed (if c then p else cycle input current) := by
    intro c _ p hp
    split
    · exact hp
    · exact sealed_cycle
  unfold resumePhase
  split
  · exact horCycle sealed_resumeAdmittedHypothesis
  · apply Keeps.bind sealed_read
    intro existing
    split
    · exact Keeps.bind sealed_checkpoint fun _ => sealed_resumeAdmittedHypothesis
    · exact sealed_cycle
  · exact horCycle sealed_resumePlannedExperiment
  · exact horCycle sealed_resumePlannedExperiment
  · exact horCycle sealed_resumePlannedExperiment
  · exact horCycle sealed_resumeAfterWorker
  · exact horCycle sealed_resumeAfterWorker
  · exact horCycle sealed_resumeAfterWorker
  · exact horCycle sealed_resumeAfterWorker
  · exact sealed_cycle

/-- **No unit of work of a step** changes a terminal row. -/
theorem sealed_step (input : StepInput) : Keeps Sealed (step input) := by
  have hdiscovery : ∀ discovery record,
      Keeps Sealed (stepSurfaceDiscovery input discovery record) := by
    intro discovery record
    unfold stepSurfaceDiscovery
    apply Keeps.bind sealed_read
    intro unknown
    split
    · exact sealed_completeCycle
    · apply Keeps.bind (sealed_of_aside (keeps_external discovery.effects))
      intro _
      dsimp only
      split
      · exact sealed_completeCycle
      · exact sealed_completeCycle
  unfold step
  apply Keeps.bind sealed_read
  intro record
  split
  · exact keeps_pure
  unfold stepRunnable
  split
  · exact hdiscovery ..
  · apply Keeps.bind sealed_read
    intro unknown
    split
    · exact sealed_completeCycle
    · apply Keeps.bind sealed_resumeAuthorized
      intro resumed
      split
      · exact keeps_pure
      · exact sealed_resumePhase

end Sealed

/-! ## Commands and a step -/

/-- The commands that an operator gives. -/
def OperatorCommand.byOperator : OperatorCommand → Bool
  | .pause | .resume | .cancel => true
  | _ => false

structure CommandSystem where
  store : Store
  /-- What is left of the step that is in flight. -/
  inFlight : Option (Prog Store TickResult)
  /-- The commands that have read the row and have not saved it yet. -/
  reads : List (OperatorCommand × ResearchOrchestrationRecord)

inductive CommandEvent where
  | begin (input : StepInput)
  | unit
  | leave
  | read (command : OperatorCommand)
  | save (command : OperatorCommand)
  | lease

/-- A step begins, runs one unit of work, or is over for whatever reason; a
command reads the row, or saves it; or the lease is acquired, renewed or
released.  Writes that the row refuses change nothing and are left out. -/
inductive CommandStep (c : CommandSystem) : CommandEvent → CommandSystem → Prop where
  | begin (input : StepInput) (h : c.inFlight = none) :
      CommandStep c (.begin input) { c with inFlight := some (step input) }
  | unit {p : Prog Store TickResult} (h : c.inFlight = some p) :
      CommandStep c .unit
        { c with store := (p.advance c.store).1, inFlight := some (p.advance c.store).2 }
  | leave : CommandStep c .leave { c with inFlight := none }
  | read {command : OperatorCommand} (h : OperatorCommand.byOperator command = true) :
      CommandStep c (.read command) { c with reads := (command, c.store.row) :: c.reads }
  | save {command : OperatorCommand} {current record row' : ResearchOrchestrationRecord}
      (serverNow : Instant) (hread : (command, current) ∈ c.reads)
      (hupdate : command.update current = some record)
      (h : Zest.save c.store.row record none command.requiresUnowned serverNow = .ok row') :
      CommandStep c (.save command)
        { c with
          store := c.store.saved row', reads := c.reads.erase (command, current) }
  | acquire {owner : Id} {ttl serverNow : Instant} {row' : ResearchOrchestrationRecord}
      (h : acquireLease c.store.row owner ttl serverNow = some row') :
      CommandStep c .lease { c with store := c.store.saved row' }
  | renew {lease : LeaseIdentity} {ttl serverNow : Instant} {row' : ResearchOrchestrationRecord}
      (h : renewLease c.store.row lease ttl serverNow = some row') :
      CommandStep c .lease { c with store := c.store.saved row' }
  | release {lease : LeaseIdentity} {row' : ResearchOrchestrationRecord}
      (h : releaseLease c.store.row lease = some row') :
      CommandStep c .lease { c with store := c.store.saved row' }

/-- The orchestration row is left alone. -/
def SameRow (s t : Store) : Prop := t.row = s.row

/-- The step has no unit of work left that writes the row, or has not read the
row yet. -/
def Harmless (p : Prog Store TickResult) : Prop := Keeps SameRow p ∨ ∃ input, p = step input

/-- A pause goes through only while the step in flight is harmless. -/
def PausesCleanly (c : CommandSystem) (ev : CommandEvent) : Prop :=
  ev = .save .pause → ∀ p, c.inFlight = some p → Harmless p

variable {c d : CommandSystem} {ev : CommandEvent} {es : List CommandEvent}

/-- The lease may change, but neither the state of the run nor its reason. -/
theorem lease_step_state (h : CommandStep c .lease d) :
    d.store.row.state = c.store.row.state ∧ d.store.row.stopReason = c.store.row.stopReason ∧
      d.inFlight = c.inFlight := by
  cases h with
  | acquire h => rw [(acquireLease_eq_some h).1]; exact ⟨rfl, rfl, rfl⟩
  | renew h => rw [renewLease_eq_some h]; exact ⟨rfl, rfl, rfl⟩
  | release h => rw [releaseLease_eq_some h]; exact ⟨rfl, rfl, rfl⟩

/-! ### Pauses -/

/-- The run is paused, and the step in flight will not change that. -/
structure Quiescent (c : CommandSystem) : Prop where
  paused : c.store.row.state = .paused
  harmless : ∀ p, c.inFlight = some p → Harmless p

/-- A step that reads a paused row is over. -/
theorem advance_step_of_paused {s : Store} (input : StepInput) (h : s.row.state = .paused) :
    ((step input).advance s).1 = s ∧ Keeps SameRow ((step input).advance s).2 := by
  refine ⟨rfl, ?_⟩
  show Keeps SameRow (if s.row.state.halted then
    pure (resultFromRecord s.row .continue) else stepRunnable input s.row)
  rw [if_pos (by rw [h]; rfl)]
  exact keeps_pure

theorem Harmless.advance {p : Prog Store TickResult} {s : Store} (h : Harmless p)
    (hs : s.row.state = .paused) :
    (p.advance s).1.row.state = .paused ∧ Harmless (p.advance s).2 := by
  rcases h with h | ⟨input, rfl⟩
  · obtain ⟨hrow, hrest⟩ := h.advance (fun _ => rfl) s
    exact ⟨by rw [hrow]; exact hs, Or.inl hrest⟩
  · obtain ⟨hstore, hrest⟩ := advance_step_of_paused input hs
    exact ⟨by rw [hstore]; exact hs, Or.inl hrest⟩

theorem state_of_pause {current record row row' : ResearchOrchestrationRecord}
    {serverNow : Instant} (hupdate : OperatorCommand.pause.update current = some record)
    (h : save row record none OperatorCommand.pause.requiresUnowned serverNow = .ok row') :
    row'.state = .paused := by
  rw [(save_eq_ok h).1]
  simp only [OperatorCommand.update, operatorState] at hupdate
  split at hupdate
  · cases hupdate
  · cases hupdate; rfl

/-- **One event** but a resumption or a cancellation leaves a paused run
paused. -/
theorem quiescent_step (h : CommandStep c ev d) (hc : Quiescent c) (hresume : ev ≠ .save .resume)
    (hcancel : ev ≠ .save .cancel)
    (hreads : ∀ entry ∈ c.reads, OperatorCommand.byOperator entry.1 = true) : Quiescent d := by
  cases h with
  | begin input h =>
    refine ⟨hc.paused, fun p hp => ?_⟩
    cases hp
    exact Or.inr ⟨input, rfl⟩
  | unit h =>
    obtain ⟨hstate, hrest⟩ := (hc.harmless _ h).advance hc.paused
    refine ⟨hstate, fun p hp => ?_⟩
    cases hp
    exact hrest
  | leave => exact ⟨hc.paused, nofun⟩
  | read h => exact ⟨hc.paused, hc.harmless⟩
  | @save command current record row' serverNow hread hupdate h =>
    refine ⟨?_, hc.harmless⟩
    have hoperator := hreads _ hread
    cases command with
    | pause => exact state_of_pause hupdate h
    | resume => exact absurd rfl hresume
    | cancel => exact absurd rfl hcancel
    | _ => cases hoperator
  | acquire h =>
    obtain ⟨hstate, -, hflight⟩ := lease_step_state (.acquire h)
    exact ⟨hstate.trans hc.paused, fun p hp => hc.harmless p (hflight ▸ hp)⟩
  | renew h =>
    obtain ⟨hstate, -, hflight⟩ := lease_step_state (.renew h)
    exact ⟨hstate.trans hc.paused, fun p hp => hc.harmless p (hflight ▸ hp)⟩
  | release h =>
    obtain ⟨hstate, -, hflight⟩ := lease_step_state (.release h)
    exact ⟨hstate.trans hc.paused, fun p hp => hc.harmless p (hflight ▸ hp)⟩

/-! ### Cancellations -/

/-- What every run keeps: the step in flight respects terminal rows, and only
operators have commands. -/
structure Attended (c : CommandSystem) : Prop where
  inFlight : ∀ p, c.inFlight = some p → Keeps Sealed p
  reads : ∀ entry ∈ c.reads, OperatorCommand.byOperator entry.1 = true

theorem attended_step (h : CommandStep c ev d) (hc : Attended c) : Attended d := by
  cases h with
  | begin input h =>
    refine ⟨fun p hp => ?_, hc.reads⟩
    cases hp
    exact sealed_step input
  | unit h =>
    refine ⟨fun p hp => ?_, hc.reads⟩
    cases hp
    exact ((hc.inFlight _ h).advance .refl _).2
  | leave => exact ⟨nofun, hc.reads⟩
  | read h =>
    refine ⟨hc.inFlight, fun entry hmem => ?_⟩
    rcases List.mem_cons.mp hmem with rfl | hmem
    · exact h
    · exact hc.reads entry hmem
  | save _ hread _ _ => exact ⟨hc.inFlight, fun entry hmem => hc.reads entry (List.mem_of_mem_erase hmem)⟩
  | acquire | renew | release => exact ⟨hc.inFlight, hc.reads⟩

/-- The run is over because an operator has cancelled it. -/
structure Cancelled (c : CommandSystem) : Prop where
  state : c.store.row.state = .completed
  stopReason : c.store.row.stopReason = some .operatorCancelled

/-- **One event** leaves a cancelled run cancelled. -/
theorem cancelled_step (h : CommandStep c ev d) (hc : Cancelled c) (ha : Attended c) :
    Cancelled d := by
  have hterminal : c.store.row.state.terminal = true := by rw [hc.state]; rfl
  cases h with
  | begin | leave | read => exact ⟨hc.state, hc.stopReason⟩
  | unit h =>
    have hrow := ((ha.inFlight _ h).advance .refl c.store).1 hterminal
    exact ⟨by rw [hrow]; exact hc.state, by rw [hrow]; exact hc.stopReason⟩
  | save _ _ _ h =>
    have hlive := (save_eq_ok h).2.1
    rw [hterminal] at hlive
    cases hlive
  | acquire h =>
    obtain ⟨hstate, hreason, -⟩ := lease_step_state (.acquire h)
    exact ⟨hstate.trans hc.state, hreason.trans hc.stopReason⟩
  | renew h =>
    obtain ⟨hstate, hreason, -⟩ := lease_step_state (.renew h)
    exact ⟨hstate.trans hc.state, hreason.trans hc.stopReason⟩
  | release h =>
    obtain ⟨hstate, hreason, -⟩ := lease_step_state (.release h)
    exact ⟨hstate.trans hc.state, hreason.trans hc.stopReason⟩

theorem cancelled_of_cancel (h : CommandStep c (.save .cancel) d) : Cancelled d := by
  cases h with
  | save _ hread hupdate h =>
    obtain ⟨rfl, -⟩ := save_eq_ok h
    simp only [OperatorCommand.update, operatorState] at hupdate
    split at hupdate
    · cases hupdate
    · cases hupdate; exact ⟨rfl, rfl⟩

theorem attended_run (h : Run CommandStep c es d) (hc : Attended c) : Attended d :=
  h.invariant (fun _ _ _ => attended_step) hc

theorem quiescent_run (h : Run CommandStep c es d) (hc : Quiescent c) (ha : Attended c)
    (hes : ∀ ev ∈ es, ev ≠ .save .resume ∧ ev ≠ .save .cancel) : Quiescent d := by
  induction h with
  | nil => exact hc
  | @snoc d e es ev hrun hstep ih =>
    obtain ⟨hresume, hcancel⟩ := hes ev (List.mem_append.mpr (Or.inr (List.mem_singleton.mpr rfl)))
    have hd := ih fun ev hmem => hes ev (List.mem_append.mpr (Or.inl hmem))
    exact quiescent_step hstep hd hresume hcancel (attended_run hrun ha).reads

/-- **A cancellation is durable** in every run. -/
theorem cancelled_run {es₁ es₂ : List CommandEvent} (ha : Attended c)
    (h : Run CommandStep c (es₁ ++ .save .cancel :: es₂) d) : Cancelled d := by
  obtain ⟨a, b, hbefore, hcancel, hafter⟩ := h.split
  have hattended := attended_step hcancel (attended_run hbefore ha)
  have hboth : Cancelled d ∧ Attended d :=
    hafter.invariant (I := fun c => Cancelled c ∧ Attended c)
      (fun _ _ _ hstep hI => ⟨cancelled_step hstep hI.1 hI.2, attended_step hstep hI.2⟩)
      ⟨cancelled_of_cancel hcancel, hattended⟩
  exact hboth.1

/-- Nothing is in flight. -/
structure CommandSystem.Idle (c : CommandSystem) : Prop where
  inFlight : c.inFlight = none
  reads : c.reads = []

theorem CommandSystem.Idle.attended (h : c.Idle) : Attended c :=
  ⟨by simp [h.inFlight], by simp [h.reads]⟩

/-- **Operator commands are durable** in every run in which pauses go through
only while the step in flight is harmless: a run that was paused stays paused
until it is resumed or cancelled, and one that was cancelled stays cancelled. -/
theorem operator_commands_durable (hidle : c.Idle)
    (hrun : Run (Guarded CommandStep PausesCleanly) c es d) :
    (∀ es₁ es₂, es = es₁ ++ .save .pause :: es₂ →
      (∀ ev ∈ es₂, ev ≠ .save .resume ∧ ev ≠ .save .cancel) →
        d.store.row.state = .paused) ∧
    ∀ es₁ es₂, es = es₁ ++ .save .cancel :: es₂ →
      d.store.row.state = .completed ∧ d.store.row.stopReason = some .operatorCancelled := by
  have hsteps : ∀ {c es d}, Run (Guarded CommandStep PausesCleanly) c es d →
      Run CommandStep c es d := fun h => h.mono fun _ _ _ hstep => hstep.1
  constructor
  · rintro es₁ es₂ rfl hes₂
    obtain ⟨a, b, hbefore, ⟨hpause, hclean⟩, hafter⟩ := hrun.split
    have hattended := attended_run (hsteps hbefore) hidle.attended
    have hpaused : Quiescent b := by
      cases hpause with
      | save _ hread hupdate h => exact ⟨state_of_pause hupdate h, hclean rfl⟩
    exact (quiescent_run (hsteps hafter) hpaused (attended_step hpause hattended) hes₂).paused
  · rintro es₁ es₂ rfl
    have hcancelled := cancelled_run hidle.attended (hsteps hrun)
    exact ⟨hcancelled.state, hcancelled.stopReason⟩

/-- A started run that nobody works on. -/
def idleSystem : CommandSystem where
  store := freshStore (roomyBounds 3 3)
  inFlight := none
  reads := []

theorem operator_commands_durable_idle :
    ∃ d, d.store.row.state = .paused ∧
      Run (Guarded CommandStep PausesCleanly) idleSystem
        ([.read .pause] ++ .save .pause :: [.begin smoothInput, .unit]) d := by
  have hrun : ∃ d, Run (Guarded CommandStep PausesCleanly) idleSystem
      ([.read .pause] ++ .save .pause :: [.begin smoothInput, .unit]) d :=
    ⟨_, ((((Run.nil idleSystem).snoc ⟨.read rfl, nofun⟩).snoc
      ⟨.save 0 (.head _) rfl rfl, fun _ _ h => by cases h⟩).snoc
        ⟨.begin smoothInput rfl, nofun⟩).snoc ⟨.unit rfl, nofun⟩⟩
  obtain ⟨d, hrun⟩ := hrun
  refine ⟨d, ?_, hrun⟩
  exact (operator_commands_durable ⟨rfl, rfl⟩ hrun).1 _ _ rfl (by simp)

/-- A pause that commits after a step has read the row is overwritten when the
step marks the run as running. -/
theorem pause_overwritten : ∃ (c d : CommandSystem) (es₁ es₂ : List CommandEvent), c.Idle ∧
    Run CommandStep c (es₁ ++ .save .pause :: es₂) d ∧
      (∀ ev ∈ es₂, ev ≠ .save .resume ∧ ev ≠ .save .cancel) ∧
        d.store.row.state = .running := by
  refine ⟨idleSystem, _, [.begin smoothInput, .unit, .read .pause],
    [.unit, .unit, .unit, .unit], ⟨rfl, rfl⟩,
    ((((((((Run.nil idleSystem).snoc (.begin smoothInput rfl)).snoc (.unit rfl)).snoc
      (.read rfl)).snoc (.save 0 (.head _) rfl rfl)).snoc (.unit rfl)).snoc (.unit rfl)).snoc
        (.unit rfl)).snoc (.unit rfl), by simp, ?_⟩
  decide

end Controller
end Zest

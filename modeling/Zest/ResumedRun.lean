import Zest.RecoveryGate
import Zest.SupervisorThread

/-! # A resumed run keeps its supervisor

When a resumption has returned `READY`, the run has a supervisor that is not asked to
stop, until it leaves `READY` and `RUNNING`.  Two things undo this.  The resumption
takes a supervisor whose thread has not come to its end for one that goes on, although
it was asked to stop; and a tick that fails stops the thread even where the failure
could not be written to the run.
-/
namespace Zest.Supervision

open TransitionSystem RuntimeRecovery

/-! ## What is to be shown -/

/-- The registry has a supervisor that is not asked to stop. -/
def Unstopped (s : System) : Prop :=
  ∃ v, s.supervisor = some v ∧ v.stopping = false

/-- **No resumption is lost.** -/
def Kept (s : System) : Prop :=
  s.owed = true → Unstopped s

/-- Where a supervisor is attached to a run that has been resumed, there is one that is
not asked to stop, or there is none and the preflight lets one in.  A tick that has
failed ends with the failure written to the run, or with no resumption outstanding. -/
def Clear (config : RuntimeConfig) (s : System) : Event → Prop
  | .attach env command => s.call = .attaching true → leaseFree config s.run env.serverNow = true →
      Unstopped s ∨ (s.isSupervising = false ∧
        letsAttach (runPreflight config s.run env.attaching command true) true = true)
  | .faultEnds => s.owed = false
  | _ => True

/-- The thread is at work, and holds the lease. -/
def Supervisor.working (v : Supervisor) : Bool :=
  v.phase ≠ .released && v.phase ≠ .ended

/-- What the thread has seen is of its own lease, and no run that it has seen to be at
its end goes on. -/
structure Holds (row : ResearchOrchestrationRecord) (v : Supervisor) : Prop where
  held : row.heldBy v.lease = true
  seen : ∀ record ∈ v.seen, record.heldBy v.lease = true ∧
    (record.state.terminal = true → row.state.terminal = true)

structure Inv (s : System) : Prop where
  holds : ∀ v, s.supervisor = some v → v.working = true →
    ∃ row, s.run.orchestration = some row ∧ Holds row v
  saving : ∀ v command record, s.supervisor = some v → v.working = true →
    s.call = .saving command record → record.heldBy v.lease = true
  halting : ∀ command record, s.call = .saving command record → command ≠ .resume →
    record.state.halted = true
  owed : s.owed = true → goingOn s.run = true
  since : s.call = .attaching true → goingOn s.run = true
  stopping : s.call = .stopping → s.owed = false

section Settling

variable {s : System}

@[simp] theorem settle_run : s.settle.run = s.run := rfl

@[simp] theorem settle_supervisor : s.settle.supervisor = s.supervisor := rfl

theorem settle_owed : s.settle.owed = (s.owed && goingOn s.run) := rfl

theorem unstopped_settle : Unstopped s.settle ↔ Unstopped s := Iff.rfl

theorem settle_saving {command : Command} {record : ResearchOrchestrationRecord} :
    s.settle.call = .saving command record ↔ s.call = .saving command record := by
  unfold System.settle
  cases s.call <;> simp

theorem settle_stopping : s.settle.call = .stopping ↔ s.call = .stopping := by
  unfold System.settle
  cases s.call <;> simp

theorem settle_attaching : s.settle.call = .attaching true ↔
    s.call = .attaching true ∧ goingOn s.run = true := by
  unfold System.settle
  cases s.call <;> simp

/-- Settling looks after what is kept since a moment. -/
theorem inv_settle
    (hholds : ∀ v, s.supervisor = some v → v.working = true →
      ∃ row, s.run.orchestration = some row ∧ Holds row v)
    (hsaving : ∀ v command record, s.supervisor = some v → v.working = true →
      s.call = .saving command record → record.heldBy v.lease = true)
    (hhalting : ∀ command record, s.call = .saving command record → command ≠ .resume →
      record.state.halted = true)
    (hstopping : s.call = .stopping → s.owed = false ∨ goingOn s.run = false) :
    Inv s.settle where
  holds := hholds
  halting command record hcall := hhalting command record (settle_saving.mp hcall)
  saving v command record hv hworking hcall := hsaving v command record hv hworking
    (settle_saving.mp hcall)
  owed h := by
    rw [settle_owed, Bool.and_eq_true] at h
    exact h.2
  since h := (settle_attaching.mp h).2
  stopping h := by
    rw [settle_owed, Bool.and_eq_false_iff]
    exact hstopping (settle_stopping.mp h)

/-- What was kept and is still, where the supervisor has not been told to stop. -/
theorem kept_settle (hkept : Kept s) : Kept s.settle := by
  intro h
  rw [settle_owed, Bool.and_eq_true] at h
  exact hkept h.1

theorem goingOn_eq {run : RunSnapshot} {row : ResearchOrchestrationRecord}
    (h : run.orchestration = some row) :
    goingOn run = (row.state = .ready || row.state = .running : Bool) := by
  rw [goingOn, h]
  rfl

/-- A run that is halted does not go on. -/
theorem goingOn_of_halted {run : RunSnapshot} {row : ResearchOrchestrationRecord}
    (h : run.orchestration = some row) (hhalted : row.state.halted = true) :
    goingOn run = false := by
  rw [goingOn_eq h]
  revert hhalted
  cases row.state <;> decide

end Settling

/-! ## The lease of the thread -/

section Thread

variable {config : RuntimeConfig} {row row' : ResearchOrchestrationRecord} {v v' : Supervisor}
  {e : Event}

theorem heldBy_iff {lease : LeaseIdentity} : row.heldBy lease = true ↔
    row.ownerRuntimeInstanceId = some lease.owner ∧ row.leaseEpoch = lease.epoch := by
  rw [ResearchOrchestrationRecord.heldBy, Bool.and_eq_true, decide_eq_true_eq, decide_eq_true_eq]

theorem heldBy_of_sameLease {lease : LeaseIdentity} (h : SameLease row row') :
    row.heldBy lease = true ↔ row'.heldBy lease = true := by
  rw [heldBy_iff, heldBy_iff, h.owner, h.epoch]

/-- What has been seen of a row that was not at its end goes with the next one. -/
theorem Holds.saved (h : Holds row v) (hopen : row.state.terminal = false)
    (hheld : row'.heldBy v.lease = true) : Holds row' v := by
  refine ⟨hheld, fun record hrecord => ⟨(h.seen record hrecord).1, fun hterminal => ?_⟩⟩
  have hclosed := (h.seen record hrecord).2 hterminal
  rw [hopen] at hclosed
  cases hclosed

/-- The row that there is may be seen. -/
theorem Holds.see (h : Holds row v) : Holds row { v with seen := row :: v.seen } := by
  refine ⟨h.held, fun record hrecord => ?_⟩
  rcases List.mem_cons.mp hrecord with rfl | hrecord
  · exact ⟨h.held, id⟩
  · exact h.seen record hrecord

/-- The thread works on under the lease that it has. -/
theorem working_step (h : ThreadStep config row v e row' v') :
    v'.lease = v.lease ∧ (v'.working = true → v.working = true) := by
  cases h with
  | leave hphase | tick hphase | rejected hphase | fenced hphase | tickEnds hphase | fault hphase
  | faultEnds hphase => exact ⟨rfl, fun _ => by simp [Supervisor.working, hphase]⟩
  | renewed | read | write => exact ⟨rfl, id⟩
  | die | released | unreleased | exit => exact ⟨rfl, fun h => by simp [Supervisor.working] at h⟩

/-- **What the thread does** leaves it its lease while it works. -/
theorem holds_step (h : ThreadStep config row v e row' v') (hholds : v.working = true → Holds row v)
    (hworking : v'.working = true) : Holds row' v' := by
  have hv := hholds ((working_step h).2 hworking)
  cases h with
  | leave | rejected | fenced | tickEnds | fault | faultEnds => exact ⟨hv.held, hv.seen⟩
  | tick => exact ⟨hv.held, fun record h => (by cases h)⟩
  | renewed _ hrenew =>
    rw [renewLease_eq_some hrenew]
    exact ⟨heldBy_iff.mpr (heldBy_iff.mp hv.held), hv.seen⟩
  | read => exact hv.see
  | write _ hseen hlease hsave =>
    obtain ⟨rfl, hopen, -⟩ := save_eq_ok hsave
    exact (hv.saved hopen ((heldBy_of_sameLease hlease).mpr (hv.seen _ hseen).1)).see
  | die | released | unreleased | exit => simp [Supervisor.working] at hworking

/-- The thread is told to stop by nobody but itself, and when it is, the run is at its
end, unless a tick has failed. -/
theorem stopping_step (h : ThreadStep config row v e row' v')
    (hholds : v.working = true → Holds row v) (hunstopped : v.stopping = false)
    (hstopped : v'.stopping = true) : e = .faultEnds ∨ row'.state.terminal = true := by
  cases h with
  | leave hphase hstopping =>
    rw [hunstopped] at hstopping
    cases hstopping
  | rejected hphase hrenew =>
    right
    have hv := hholds (by simp [Supervisor.working, hphase])
    by_contra hopen
    rw [Bool.not_eq_true] at hopen
    unfold renewLease at hrenew
    rw [hv.held, hopen] at hrenew
    cases hrenew
  | fenced hphase hseen hlease hsave =>
    have hv := hholds (by simp [Supervisor.working, hphase])
    unfold Zest.save at hsave
    simp only [Option.isSome_some, Bool.and_false, Bool.false_eq_true, if_false, Option.any_some,
      hv.held, Bool.not_true, Bool.false_and] at hsave
    split at hsave <;> cases hsave
  | tickEnds hphase hseen =>
    right
    have hv := hholds (by simp [Supervisor.working, hphase])
    refine (hv.seen _ hseen).2 ?_
    simpa [hunstopped] using hstopped
  | faultEnds => exact .inl rfl
  | tick | renewed | read | write | fault | die | released | unreleased | exit =>
    rw [hunstopped] at hstopped
    cases hstopped

end Thread

/-! ## What a call does to the row -/

section Attaching

variable {config : RuntimeConfig} {w w' : Runtime} {id : Id} {env : Surroundings}

/-- A supervisor is attached when the lease is acquired, which writes nothing else. -/
theorem attachSupervisor_row {recovery : Bool} {command : Option StartCommand}
    (h : attachSupervisor config w id env recovery command = .ok w') :
    w' = w ∨ ∃ row row', (w.database id).orchestration = some row ∧
      acquireLease row config.owner config.leaseTtl env.serverNow = some row' ∧
      (w'.database id).orchestration = some row' ∧ w'.attached ≠ [] := by
  unfold attachSupervisor at h
  split at h
  · cases h
    exact .inl rfl
  rcases hcommand : commandFor env recovery command with message | c
  · rw [hcommand] at h
    cases h
  rw [hcommand] at h
  cases h
  unfold attachWith
  split
  · rcases hacquired : acquired config (w.database id) env.serverNow with _ | row'
    · exact .inl rfl
    · obtain ⟨row, hrow, hacquire⟩ := Option.bind_eq_some_iff.mp hacquired
      refine .inr ⟨row, row', hrow, hacquire, ?_, ?_⟩
      · exact congrArg RunSnapshot.orchestration (put_database w id _)
      · exact List.append_ne_nil_of_right_ne_nil _ (List.cons_ne_nil _ _)
  · exact .inl rfl

/-- The runtime has attached no supervisor, or holds the lease. -/
def HeldIfAttached (config : RuntimeConfig) (w w' : Runtime) (id : Id) : Prop :=
  w'.attached = w.attached ∨ ∃ row, (w'.database id).orchestration = some row ∧
    row.ownerRuntimeInstanceId = some config.owner

theorem attachSupervisor_held {recovery : Bool} {command : Option StartCommand}
    (h : attachSupervisor config w id env recovery command = .ok w') :
    HeldIfAttached config w w' id := by
  rcases attachSupervisor_row h with rfl | ⟨row, row', -, hacquire, hrow', -⟩
  · exact .inl rfl
  · exact .inr ⟨row', hrow', by rw [(acquireLease_eq_some hacquire).1]⟩

theorem attachAndReport_held :
    HeldIfAttached config w (attachAndReport config w id env).2 id := by
  unfold attachAndReport
  rcases hattach : attachSupervisor config w id env true none with message | w'
  · exact .inl rfl
  · exact attachSupervisor_held hattach

theorem attachStarted_held {c : StartCommand} {result : Controller.TickResult} :
    HeldIfAttached config w (attachStarted config w id env c result).2 id := by
  unfold attachStarted
  split
  · rcases hattach : attachSupervisor config w id env false (some c) with message | w'
    · exact .inl rfl
    · exact attachSupervisor_held hattach
  · exact .inl rfl

/-- **`start_run`** attaches a supervisor only with the lease. -/
theorem startRun_held : HeldIfAttached config w (startRun config w id env).2 id := by
  unfold startRun
  split
  · exact .inl rfl
  split
  swap
  · split
    · exact .inl rfl
    · exact attachAndReport_held
  unfold startNew
  split
  · exact attachAndReport_held
  · exact .inl rfl
  split
  · split <;> exact .inl rfl
  dsimp only
  split
  · unfold startAndAttach
    split
    · exact attachStarted_held
    · exact attachStarted_held
    · exact attachAndReport_held
  · split <;> exact .inl rfl

end Attaching

section Steps

variable {config : RuntimeConfig} {s t : System} {e : Event}

/-- The supervisor that a call leaves is the one that was there, or a new one. -/
theorem adopt_supervisor (s : System) (w : Runtime) :
    (s.adopt config w).supervisor = s.supervisor ∨
      (s.adopt config w).supervisor = some (newSupervisor config (w.database 0)) := by
  unfold System.adopt
  dsimp only
  split
  · exact .inl rfl
  · exact .inr rfl

/-- A supervisor that works is running. -/
theorem not_working {v : Supervisor} (hsupervisor : s.supervisor = some v)
    (h : s.isSupervising = false) : v.working = false := by
  rw [System.isSupervising, hsupervisor] at h
  have hended : v.phase = .ended := by simpa [Supervisor.isRunning] using h
  simp [Supervisor.working, hended]

theorem mem_live : 0 ∈ s.asRuntime.live ↔ s.isSupervising = true := by
  unfold System.asRuntime
  by_cases h : s.isSupervising = true <;> simp [h]

/-- A new supervisor has the lease that was acquired for it. -/
theorem holds_newSupervisor {run : RunSnapshot} {row : ResearchOrchestrationRecord}
    (hrow : run.orchestration = some row)
    (howner : row.ownerRuntimeInstanceId = some config.owner) :
    Holds row (newSupervisor config run) := by
  refine ⟨heldBy_iff.mpr ⟨howner, ?_⟩, fun record h => by cases h⟩
  rw [newSupervisor, hrow]
  rfl

/-- What a call adopts keeps the invariant where the thread was not running. -/
theorem holds_adopt {w : Runtime} (hrunning : s.isSupervising = false)
    (hheld : HeldIfAttached config s.asRuntime w 0) (v : Supervisor)
    (hv : (s.adopt config w).supervisor = some v) (hworking : v.working = true) :
    ∃ row, (w.database 0).orchestration = some row ∧ Holds row v := by
  rcases hheld with hnone | ⟨row, hrow, howner⟩
  · rw [System.adopt] at hv
    dsimp only at hv
    rw [if_pos (by rw [hnone]; rfl)] at hv
    rw [not_working hv hrunning] at hworking
    cases hworking
  · rcases adopt_supervisor s w with hsame | hnew
    · rw [hsame] at hv
      rw [not_working hv hrunning] at hworking
      cases hworking
    · rw [hnew] at hv
      cases hv
      exact ⟨row, hrow, holds_newSupervisor hrow howner⟩

theorem attach_running {w : Runtime} {env : Surroundings} {command : Option StartCommand}
    (hrunning : s.isSupervising = true)
    (h : attachSupervisor config s.asRuntime 0 env true command = .ok w) : w = s.asRuntime := by
  rw [attachSupervisor, if_pos (mem_live.mpr hrunning)] at h
  exact (Except.ok.inj h).symm

theorem start_running {env : Surroundings} (hrunning : s.isSupervising = true) :
    (startRun config s.asRuntime 0 env).2 = s.asRuntime := by
  rw [startRun, if_pos (mem_live.mpr hrunning)]

theorem afterRead_saving {command command' : Command}
    {current record : ResearchOrchestrationRecord}
    (h : afterRead command current = .saving command' record) :
    command.operator.update current = some record ∧ command' = command := by
  unfold afterRead at h
  split at h
  · next hupdate =>
    cases h
    exact ⟨hupdate, rfl⟩
  · split at h <;> cases h
  · cases h

/-- A pause and a cancellation are rejected where the run is at its end. -/
theorem afterRead_stopping {command : Command} {current : ResearchOrchestrationRecord}
    (h : afterRead command current = .stopping) : current.state.terminal = true := by
  by_contra hopen
  cases command with
  | resume =>
    unfold afterRead at h
    split at h
    · cases h
    · split at h <;> cases h
    · next hno => exact hno rfl
  | pause =>
    simp [afterRead, Command.operator, OperatorCommand.update, operatorState, hopen] at h
  | cancel =>
    simp [afterRead, Command.operator, OperatorCommand.update, operatorState, hopen] at h

/-- They halt the run. -/
theorem halted_of_update {command : Command} {current record : ResearchOrchestrationRecord}
    (h : command.operator.update current = some record) (hcommand : command ≠ .resume) :
    record.state.halted = true := by
  cases command with
  | resume => exact absurd rfl hcommand
  | pause | cancel =>
    simp only [Command.operator, OperatorCommand.update, operatorState] at h
    split at h
    · cases h
    · cases h
      rfl

/-- **The calls** keep the invariant. -/
theorem inv_call (h : CallStep config s e t) (hinv : Inv s) : Inv t.settle := by
  cases h with
  | @begin current command hcall hrow =>
    refine inv_settle hinv.holds (fun v command' record hv hworking hsaving => ?_)
      (fun command' record hsaving hcommand => ?_) fun hstopping => .inr ?_
    · obtain ⟨row, hrow', hholds⟩ := hinv.holds v hv hworking
      rw [hrow] at hrow'
      cases hrow'
      have hsame := OperatorCommand.sameLease (afterRead_saving hsaving).1
      exact (heldBy_of_sameLease hsame).mpr hholds.held
    · obtain ⟨hupdate, rfl⟩ := afterRead_saving hsaving
      exact halted_of_update hupdate hcommand
    · exact goingOn_of_halted hrow
        (OrchestrationState.halted_of_terminal (afterRead_stopping hstopping))
  | @save command record row row' serverNow hcall hrow hsave =>
    obtain ⟨rfl, hopen, -⟩ := save_eq_ok hsave
    have hnot : ∀ command' record', afterSave command ≠ .saving command' record' := by
      intro command' record' hsaving
      cases command <;> cases hsaving
    refine inv_settle (fun v hv hworking => ?_)
      (fun v command' record' _ _ hsaving => absurd hsaving (hnot _ _))
      (fun command' record' hsaving => absurd hsaving (hnot _ _)) fun hstopping => .inr ?_
    · obtain ⟨old, hold, hholds⟩ := hinv.holds v hv hworking
      rw [hrow] at hold
      cases hold
      exact ⟨row', rfl, hholds.saved hopen (hinv.saving v command row' hv hworking hcall)⟩
    · have hcommand : command ≠ .resume := by
        rintro rfl
        cases hstopping
      have hrow' : (s.setRow row').run.orchestration = some row' := rfl
      exact goingOn_of_halted hrow' (hinv.halting command row' hcall hcommand)
  | stop hcall =>
    refine inv_settle (fun v hv hworking => ?_) (fun _ _ _ _ _ h => by cases h)
      (fun _ _ h => by cases h) (fun h => by cases h)
    obtain ⟨old, hold, rfl⟩ := Option.map_eq_some_iff.mp hv
    obtain ⟨row, hrow, hholds⟩ := hinv.holds old hold hworking
    exact ⟨row, hrow, hholds.held, hholds.seen⟩
  | @attach since w env command hcall hattach =>
    refine inv_settle (fun v hv hworking => ?_) (fun _ _ _ _ _ h => by cases h)
      (fun _ _ h => by cases h) (fun h => by cases h)
    by_cases hrunning : s.isSupervising = true
    · rw [attach_running hrunning hattach] at hv ⊢
      exact hinv.holds v hv hworking
    · exact holds_adopt (Bool.of_not_eq_true hrunning) (attachSupervisor_held hattach) v hv hworking
  | abort =>
    exact inv_settle hinv.holds (fun _ _ _ _ _ h => by cases h) (fun _ _ h => by cases h)
      (fun h => by cases h)
  | start hcall hmeanwhile =>
    refine inv_settle (fun v hv hworking => ?_) (fun _ _ _ _ _ h => by cases h)
      (fun _ _ h => by cases h) (fun h => by cases h)
    by_cases hrunning : s.isSupervising = true
    · rw [start_running hrunning] at hv ⊢
      exact hinv.holds v hv hworking
    · exact holds_adopt (Bool.of_not_eq_true hrunning) startRun_held v hv hworking

/-- **Every step** keeps the invariant. -/
theorem inv_step (h : Step config s e t) (hinv : Inv s) : Inv t := by
  cases h with
  | call h => exact inv_call h hinv
  | @thread _ row row' v v' hrow hsupervisor h =>
    have hheld : v.working = true → Holds row v := by
      intro hworking
      obtain ⟨row'', hrow'', hholds⟩ := hinv.holds v hsupervisor hworking
      rw [hrow] at hrow''
      cases hrow''
      exact hholds
    refine inv_settle (fun v'' hv'' hworking => ?_)
      (fun v'' command record hv'' hworking hsaving => ?_) hinv.halting fun hstopping => .inl ?_
    · cases hv''
      exact ⟨row', rfl, holds_step h hheld hworking⟩
    · cases hv''
      obtain ⟨hlease, hworked⟩ := working_step h
      rw [hlease]
      exact hinv.saving v command record hsupervisor (hworked hworking) hsaving
    · exact hinv.stopping hstopping
  | work attempts hypotheses experiments hsupervisor hphase =>
    exact inv_settle hinv.holds hinv.saving hinv.halting fun h => .inl (hinv.stopping h)

/-- **The thread** keeps the promise, unless a tick fails. -/
theorem kept_thread {row row' : ResearchOrchestrationRecord} {v v' : Supervisor}
    (hrow : s.run.orchestration = some row) (hsupervisor : s.supervisor = some v)
    (h : ThreadStep config row v e row' v') (hinv : Inv s) (hkept : Kept s) :
    Kept (System.settle { s.setRow row' with supervisor := some v' }) ↔ Clear config s e := by
  have hheld : v.working = true → Holds row v := by
    intro hworking
    obtain ⟨row'', hrow'', hholds⟩ := hinv.holds v hsupervisor hworking
    rw [hrow] at hrow''
    cases hrow''
    exact hholds
  have hunstopped : s.owed = true → v.stopping = false := by
    intro howed
    obtain ⟨v'', hv'', hstopping⟩ := hkept howed
    rw [hsupervisor] at hv''
    cases hv''
    exact hstopping
  have hrow' : (s.setRow row').run.orchestration = some row' := rfl
  by_cases hfault : e = .faultEnds
  · subst hfault
    cases h with
    | faultEnds hphase =>
      constructor
      · -- The row is as it was, and so is what is owed.
        intro hafter
        by_contra howed
        have howed : s.owed = true := Bool.of_not_eq_false howed
        have hgoing : goingOn (s.setRow row).run = true := by
          rw [goingOn_eq hrow', ← goingOn_eq hrow]
          exact hinv.owed howed
        obtain ⟨v'', hv'', hstopping⟩ := hafter (by
          rw [settle_owed, Bool.and_eq_true]
          exact ⟨howed, hgoing⟩)
        cases hv''
        cases hstopping
      · intro hclear howed
        rw [settle_owed, Bool.and_eq_true] at howed
        have hbefore : s.owed = true := howed.1
        rw [show s.owed = false from hclear] at hbefore
        cases hbefore
  · have hclear : Clear config s e := by
      cases h <;> trivial
    refine iff_of_true (fun howed => ?_) hclear
    rw [settle_owed, Bool.and_eq_true] at howed
    refine ⟨v', rfl, ?_⟩
    by_contra hstopped
    have hstopped : v'.stopping = true := Bool.of_not_eq_false hstopped
    rcases stopping_step h hheld (hunstopped howed.1) hstopped with hends | hterminal
    · exact hfault hends
    · have hgone := goingOn_of_halted hrow' (OrchestrationState.halted_of_terminal hterminal)
      rw [show goingOn (s.setRow row').run = true from howed.2] at hgone
      cases hgone

/-- A supervisor that is adopted is the one that was there, or is not asked to stop. -/
theorem unstopped_adopt {w : Runtime} (h : Unstopped s) : Unstopped (s.adopt config w) := by
  rcases adopt_supervisor s w with hsame | hnew
  · obtain ⟨v, hv, hstopping⟩ := h
    exact ⟨v, hsame.trans hv, hstopping⟩
  · exact ⟨_, hnew, rfl⟩

/-- A lease that no other runtime holds can be acquired, unless the run is at its end. -/
theorem acquireLease_isSome {row : ResearchOrchestrationRecord} {serverNow : Instant}
    (hrow : s.run.orchestration = some row) (hgoing : goingOn s.run = true)
    (hfree : leaseFree config s.run serverNow = true) :
    (acquired config s.run serverNow).isSome = true := by
  have hopen : row.state.terminal = false := by
    by_contra hterminal
    rw [goingOn_of_halted hrow
      (OrchestrationState.halted_of_terminal (Bool.of_not_eq_false hterminal))] at hgoing
    cases hgoing
  rw [leaseFree, hrow] at hfree
  rw [acquired, hrow]
  unfold acquireLease
  simp only [Option.bind_some, hopen, Bool.false_eq_true, if_false]
  rw [if_pos (by simpa using hfree)]
  rfl

/-- Attaching a supervisor leaves the state of the run as it is. -/
theorem goingOn_attach {w : Runtime} {env : Surroundings} {command : Option StartCommand}
    (h : attachSupervisor config s.asRuntime 0 env true command = .ok w) :
    goingOn (w.database 0) = goingOn s.run := by
  rcases attachSupervisor_row h with rfl | ⟨row, row', hrow, hacquire, hrow', -⟩
  · rfl
  · have hrow : s.run.orchestration = some row := hrow
    rw [goingOn_eq hrow', goingOn_eq hrow, (acquireLease_eq_some hacquire).1]

/-- The registry is left alone where no supervisor is attached. -/
theorem adopt_of_attached_nil {w : Runtime} (h : w.attached = []) :
    (s.adopt config w).supervisor = s.supervisor := by
  rw [System.adopt]
  dsimp only
  rw [if_pos (by rw [h]; rfl)]

theorem adopt_of_attached {w : Runtime} (h : w.attached ≠ []) : Unstopped (s.adopt config w) := by
  refine ⟨newSupervisor config (w.database 0), ?_, rfl⟩
  rw [System.adopt]
  dsimp only
  rw [if_neg (by simpa using h)]

/-- **Attaching** a supervisor to a run that has been resumed keeps the promise just
when there is one that goes on, or one is let in. -/
theorem kept_attach {since : Bool} {w : Runtime} {env : Surroundings} {command : StartCommand}
    (hcall : s.call = .attaching since)
    (hattach : attachSupervisor config s.asRuntime 0 env true (some command) = .ok w)
    (hinv : Inv s) (hkept : Kept s) :
    Kept (System.settle { s.adopt config w with
        owed := s.owed || since && leaseFree config s.run env.serverNow }) ↔
      Clear config s (.attach env command) := by
  obtain ⟨-, hattached⟩ := attachSupervisor_spec hattach
  constructor
  · intro hafter hsince hfree
    rw [hcall] at hsince
    cases hsince
    have hgoing : goingOn (w.database 0) = true := by
      rw [goingOn_attach hattach]
      exact hinv.since hcall
    have hunstopped : Unstopped (s.adopt config w) := hafter (by
      rw [settle_owed, Bool.and_eq_true]
      exact ⟨by rw [hfree]; exact Bool.or_true _, hgoing⟩)
    rcases hattached with ⟨⟨hlive, c, hcommand, hlets, -⟩, -⟩ | ⟨-, hnone⟩
    · cases hcommand
      exact .inr ⟨Bool.of_not_eq_true fun h => hlive (mem_live.mpr h), hlets⟩
    · obtain ⟨v, hv, hstopping⟩ := hunstopped
      exact .inl ⟨v, (adopt_of_attached_nil hnone).symm.trans hv, hstopping⟩
  · intro hclear howed
    rw [settle_owed, Bool.and_eq_true] at howed
    have hgoing : goingOn s.run = true := (goingOn_attach hattach).symm.trans howed.2
    rcases (Bool.or_eq_true _ _).mp howed.1 with hbefore | hnow
    · exact unstopped_adopt (hkept hbefore)
    obtain ⟨rfl, hfree⟩ := (Bool.and_eq_true _ _).mp hnow
    rcases hclear hcall hfree with hunstopped | ⟨hrunning, hlets⟩
    · exact unstopped_adopt hunstopped
    -- Nothing is in the way of a new supervisor.
    obtain ⟨row, hrow⟩ : ∃ row, s.run.orchestration = some row := by
      rcases h : s.run.orchestration with _ | row
      · rw [goingOn, h] at hgoing
        cases hgoing
      · exact ⟨row, rfl⟩
    have hattaches : Attaches config s.asRuntime 0 env true (some command) :=
      ⟨fun h => absurd (mem_live.mp h) (Bool.eq_false_iff.mp hrunning), command, rfl, hlets,
        acquireLease_isSome hrow hgoing hfree⟩
    rcases hattached with ⟨-, hone⟩ | ⟨hnot, -⟩
    · exact adopt_of_attached (by rw [hone]; exact List.cons_ne_nil _ _)
    · exact absurd hattaches hnot

/-- What was owed, and the supervisor that there is for it, are left alone. -/
theorem kept_of_same (howed : t.owed = s.owed) (hsupervisor : t.supervisor = s.supervisor)
    (hkept : Kept s) : Kept t.settle := by
  refine kept_settle fun h => ?_
  obtain ⟨v, hv, hstopping⟩ := hkept (howed ▸ h)
  exact ⟨v, hsupervisor.trans hv, hstopping⟩

/-- **The calls** keep the promise, but for the attaching of a supervisor. -/
theorem kept_call (h : CallStep config s e t) (hinv : Inv s) (hkept : Kept s) :
    Kept t.settle ↔ Clear config s e := by
  cases h with
  | attach hcall hattach => exact kept_attach hcall hattach hinv hkept
  | begin | abort => exact iff_of_true (kept_of_same rfl rfl hkept) trivial
  | save => exact iff_of_true (kept_of_same rfl rfl hkept) trivial
  | stop hcall =>
    -- The operator has paused or cancelled the run.
    refine iff_of_true (kept_settle fun howed => ?_) trivial
    have howed : s.owed = true := howed
    rw [hinv.stopping hcall] at howed
    cases howed
  | start hcall hmeanwhile =>
    refine iff_of_true (kept_settle fun howed => ?_) trivial
    exact unstopped_adopt (hkept howed)

/-- **One step** keeps the promise just when it is clear. -/
theorem kept_step (h : Step config s e t) (hinv : Inv s) (hkept : Kept s) :
    Kept t ↔ Clear config s e := by
  cases h with
  | call h => exact kept_call h hinv hkept
  | thread hrow hsupervisor h => exact kept_thread hrow hsupervisor h hinv hkept
  | work => exact iff_of_true (kept_of_same rfl rfl hkept) trivial

/-- **No resumption is lost** in a run if and only if its steps are clear. -/
theorem resume_never_lost_iff (config : RuntimeConfig) (s t : System) (es : List Event)
    (hstart : s.Initial) :
    Run (fun s e t => Step config s e t ∧ Kept t) s es t ↔
      Run (Guarded (Step config) (Clear config)) s es t := by
  have hinv : Inv s :=
    { holds := fun v hv => by rw [hstart.supervisor] at hv; cases hv
      saving := fun v _ _ hv => by rw [hstart.supervisor] at hv; cases hv
      halting := fun _ _ h => by rw [hstart.call] at h; cases h
      owed := fun h => by rw [hstart.owed] at h; cases h
      since := fun h => by rw [hstart.call] at h; cases h
      stopping := fun h => by rw [hstart.call] at h; cases h }
  have hkept : Kept s := fun h => by
    rw [hstart.owed] at h
    cases h
  exact Run.kept_iff (fun _ _ _ h hinv => inv_step h hinv)
    (fun _ _ _ h hinv hkept => kept_step h hinv hkept) hinv hkept

end Steps

/-! ## A run that is paused and resumed -/

def labSystem : System := ⟨labRun [], none, .idle, false⟩

/-- The run goes on with a call. -/
theorem lab_call {es : List Event} {e : Event} {a b : System}
    (h : Run (Guarded (Step labConfig) (Clear labConfig)) labSystem es a)
    (hstep : CallStep labConfig a e b) (hclear : Clear labConfig a e) :
    Run (Guarded (Step labConfig) (Clear labConfig)) labSystem (es ++ [e]) b.settle :=
  h.snoc ⟨.call hstep, hclear⟩

/-- It goes on with the thread. -/
theorem lab_thread {es : List Event} {e : Event} {a : System}
    {row row' : ResearchOrchestrationRecord} {v v' : Supervisor}
    (h : Run (Guarded (Step labConfig) (Clear labConfig)) labSystem es a)
    (hrow : a.run.orchestration = some row) (hsupervisor : a.supervisor = some v)
    (hstep : ThreadStep labConfig row v e row' v') (hclear : Clear labConfig a e) :
    Run (Guarded (Step labConfig) (Clear labConfig)) labSystem (es ++ [e])
      (System.settle { a.setRow row' with supervisor := some v' }) :=
  h.snoc ⟨.thread hrow hsupervisor hstep, hclear⟩

/-- The run is paused, and its supervisor asked to stop. -/
def pausedSystem : System where
  run := { labRun [] with
    orchestration := some { labRecord with
      state := .paused
      pauseReason := some "OPERATOR_PAUSED"
      stopReason := some .operatorPaused
      lastPhase := "operator"
      ownerRuntimeInstanceId := some 7
      leaseEpoch := 1
      leaseExpiresAt := some 90 } }
  supervisor := some ⟨true, false, .looping, ⟨7, 1⟩, []⟩
  call := .idle
  owed := false

theorem lab_paused :
    ∃ es, Run (Guarded (Step labConfig) (Clear labConfig)) labSystem es pausedSystem := by
  have hstarted := lab_call (.nil _) (@CallStep.start labConfig labSystem labSurroundings rfl rfl)
    trivial
  have hread := lab_call hstarted (.begin .pause rfl rfl) trivial
  have hsaved := lab_call hread (@CallStep.save _ _ _ _ _ _ 0 rfl rfl rfl) trivial
  exact ⟨_, lab_call hsaved (.stop rfl) trivial⟩

def labCommand : StartCommand := ⟨0, ⟨1, 1, 1, 1, 1, 1, 1, 0, false⟩, false⟩

/-- A run that is resumed when its supervisor has come to its end gets another. -/
theorem resume_never_lost_iff_lab : ∃ es t,
    Run (fun s e t => Step labConfig s e t ∧ Kept t) labSystem es t ∧ t.owed = true := by
  obtain ⟨es, hpaused⟩ := lab_paused
  have hleft := lab_thread hpaused rfl rfl (.leave rfl rfl) trivial
  have hreleased := lab_thread hleft rfl rfl (.released rfl rfl) trivial
  have hended := lab_thread hreleased rfl rfl (.exit rfl) trivial
  have hread := lab_call hended (.begin .resume rfl rfl) trivial
  have hsaved := lab_call hread (@CallStep.save _ _ _ _ _ _ 0 rfl rfl rfl) trivial
  have hattached := lab_call hsaved
    (@CallStep.attach _ _ true _ labSurroundings labCommand rfl rfl)
    (fun _ _ => Or.inr ⟨rfl, by decide⟩)
  refine ⟨_, _, (resume_never_lost_iff labConfig _ _ _ ⟨rfl, rfl, rfl⟩).mpr hattached, ?_⟩
  rfl

/-- **A resumption is lost** that comes before the thread has left its loop: the run is
`READY`, nobody holds its lease, and its supervisor has ended. -/
theorem resumption_lost : ∃ es t, Run (Step labConfig) labSystem es t ∧ ¬ Kept t ∧
    t.run.orchestration.map (fun row => (row.state, row.ownerRuntimeInstanceId)) =
      some (.ready, none) ∧ t.isSupervising = false ∧ t.call = .idle := by
  obtain ⟨es, hpaused⟩ := lab_paused
  have hpaused := hpaused.mono fun _ _ _ h => h.1
  have hread := hpaused.snoc (.call (.begin .resume rfl rfl))
  have hsaved := hread.snoc (.call (@CallStep.save _ _ _ _ _ _ 0 rfl rfl rfl))
  have hattached := hsaved.snoc (.call (@CallStep.attach _ _ true _ labSurroundings labCommand
    rfl rfl))
  have hleft := hattached.snoc (.thread rfl rfl (.leave rfl rfl))
  have hreleased := hleft.snoc (.thread rfl rfl (.released rfl rfl))
  have hended := hreleased.snoc (.thread rfl rfl (.exit rfl))
  refine ⟨_, _, hended, fun hkept => ?_, rfl, rfl, rfl⟩
  obtain ⟨v, hv, hstopping⟩ := hkept rfl
  cases hv
  cases hstopping

end Zest.Supervision

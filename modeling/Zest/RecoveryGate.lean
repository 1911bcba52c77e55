import Zest.SupervisedRuns

/-! # The gate into a run

A run that an orchestration record exists of should get a supervisor only when its
classification says that it is safe to go on.  `recover_runs` asks for the
classification, which an attempt that was merely authorised may make too mild;
`start_run` does not ask, and what the preflight says against the orchestration is
overruled.
-/
namespace Zest.RuntimeRecovery

open TransitionSystem
open Controller (TickResult resultFromRecord)

/-! ## What is to be shown -/

/-- No attempt has been sent without its outcome being known. -/
def Settled (attempts : List RecordedAttempt) : Prop :=
  ∀ attempt ∈ attempts, attempt.state ≠ .dispatching ∧ attempt.state ≠ .unknownOutcome

/-- The classification lets a supervisor in, and no attempt has been sent without its
outcome being known. -/
structure Gated (s : RunSnapshot) : Prop where
  verdict : actionOf s = some .safeResume ∨ actionOf s = some .safeRetryAfterReauthorization
  settled : Settled s.attempts

/-- The run is going on, and no attempt has been sent without its outcome being
known. -/
structure Resumable (s : RunSnapshot) : Prop where
  live : ∃ record, s.orchestration = some record ∧
    (record.state = .ready ∨ record.state = .running)
  settled : Settled s.attempts

/-- Every supervisor was let in. -/
def AllGated (w : Runtime) : Prop :=
  ∀ a ∈ w.attached, Gated a.found

section Gate

variable (config : RuntimeConfig) (w : Runtime)

/-- `_attach_supervisor` goes through: the run has no supervisor, the preflight has
nothing against one but the orchestration, and the lease can be acquired. -/
def Attaches (id : Id) (env : Surroundings) (recovery : Bool) (command : Option StartCommand) :
    Prop :=
  id ∉ w.live ∧ ∃ c, commandFor env recovery command = .ok c ∧
    letsAttach (runPreflight config (w.database id) env.attaching c recovery) recovery = true ∧
    (acquired config (w.database id) env.serverNow).isSome

/-- `recover_runs` ends with an exception at this run. -/
def Interrupts (env : Id → Surroundings) (entry : Id × ResearchOrchestrationRecord) : Prop :=
  leaseHeldByOther config entry.2 (env entry.1).processNow = false ∧
    (actionOf (w.database entry.1) = none ∨
      (actionOf (w.database entry.1) = some .safeResume ∨
        actionOf (w.database entry.1) = some .safeRetryAfterReauthorization) ∧
      entry.1 ∉ w.live ∧ ∃ message, (env entry.1).reconstructed true = .error message)

/-- `recover_runs` attaches a supervisor to this run, if it gets to it. -/
def Recovers (env : Id → Surroundings) (entry : Id × ResearchOrchestrationRecord) : Prop :=
  leaseHeldByOther config entry.2 (env entry.1).processNow = false ∧
    (actionOf (w.database entry.1) = some .safeResume ∨
      actionOf (w.database entry.1) = some .safeRetryAfterReauthorization) ∧
    Attaches config w entry.1 (env entry.1) true none

/-- **A run is entered** of which an orchestration record exists, as `s` says. -/
inductive Contested : Event → RunSnapshot → Prop
  /-- `start_run` finds the record. -/
  | existing {id : Id} {env : Surroundings} (hattach : Attaches config w id env true none) :
    Contested (.startRun id env) (w.database id)
  /-- `start` finds the record. -/
  | started {id : Id} {env : Surroundings} {s : RunSnapshot}
      {record : ResearchOrchestrationRecord} {command : StartCommand} (hlive : id ∉ w.live)
      (hnew : (w.database id).orchestration = none) (hallocated : env.allocation = .ok ())
      (hcommand : env.reconstructed false = .ok command)
      (hready : readyToStart (runPreflight config (w.database id) env.starting command true) = true)
      (hmeanwhile : env.meanwhile = .started s record) (hstate : record.state = .ready)
      (hattach : Attaches config (w.put id { s with orchestration := some record }) id env false
        (some command)) :
    Contested (.startRun id env) { s with orchestration := some record }
  /-- The record is in the way of the one that `start` inserts. -/
  | conflict {id : Id} {env : Surroundings} {s : RunSnapshot} {command : StartCommand}
      (hlive : id ∉ w.live) (hnew : (w.database id).orchestration = none)
      (hallocated : env.allocation = .ok ()) (hcommand : env.reconstructed false = .ok command)
      (hready : readyToStart (runPreflight config (w.database id) env.starting command true) = true)
      (hmeanwhile : env.meanwhile = .conflict s)
      (hattach : Attaches config (w.put id s) id env true none) :
    Contested (.startRun id env) s
  /-- `recover_runs` comes to the record. -/
  | recovered {before after : List (Id × ResearchOrchestrationRecord)}
      {entry : Id × ResearchOrchestrationRecord} {env : Id → Surroundings}
      (hreached : ∀ earlier ∈ before, ¬ Interrupts config w env earlier)
      (hrecovers : Recovers config w env entry) :
    Contested (.recoverRuns (before ++ entry :: after) env) (w.database entry.1)

/-- A run that is entered is going on and has no attempt that was sent without its
outcome being known. -/
def Clear (e : Event) : Prop :=
  ∀ s, Contested config w e s → Resumable s

end Gate

/-! ## The classification and the preflight -/

section Preflight

variable {config : RuntimeConfig} {s : RunSnapshot} {probe : Probe} {command : StartCommand}
  {recovery checkReconciliation : Bool}

/-- Attempts that are settled call for no more than to be authorised again. -/
theorem findSome_demanded_of_settled {attempts : List RecordedAttempt} (h : Settled attempts) :
    (attempts.findSome? demanded).getD .safeResume = .safeResume ∨
      (attempts.findSome? demanded).getD .safeResume = .safeRetryAfterReauthorization := by
  rcases hfirst : attempts.findSome? demanded with _ | first
  · exact .inl rfl
  · obtain ⟨attempt, hmem, hdemanded⟩ := List.exists_of_findSome?_eq_some hfirst
    obtain ⟨hdispatching, hunknown⟩ := h attempt hmem
    right
    have hstate := demanded_ne_none_iff.mp (by rw [hdemanded]; simp)
    have hauthorized : attempt.state = .authorized := by
      rcases hstate with h | h | h
      · exact absurd h hunknown
      · exact absurd h hdispatching
      · exact h
    rw [demanded_retry.mpr hauthorized] at hdemanded
    cases hdemanded
    rfl

theorem not_halted {state : OrchestrationState} (h : state.halted = false) :
    state = .ready ∨ state = .running := by
  cases state <;> first | exact .inl rfl | exact .inr rfl | cases h

/-- Of a run that exists, the gate asks just that it can be resumed. -/
theorem gated_iff (hrecorded : s.recorded = true) : Gated s ↔ Resumable s := by
  constructor
  · rintro ⟨hverdict, hsettled⟩
    refine ⟨?_, hsettled⟩
    rw [actionOf, classifyRuntimeRecovery, if_pos hrecorded] at hverdict
    rcases horchestration : s.orchestration with _ | record
    · rw [horchestration] at hverdict
      rcases hverdict with h | h <;> cases h
    · refine ⟨record, rfl, not_halted ?_⟩
      by_contra hhalted
      rw [horchestration] at hverdict
      simp only [if_pos (Bool.of_not_eq_false hhalted)] at hverdict
      rcases hverdict with h | h <;> cases h
  · rintro ⟨⟨record, horchestration, hstate⟩, hsettled⟩
    have hlive : record.state.halted = false := by
      rcases hstate with h | h <;> rw [h] <;> rfl
    refine ⟨?_, hsettled⟩
    rw [actionOf_live hrecorded horchestration hlive]
    exact (findSome_demanded_of_settled hsettled).imp (congrArg some) (congrArg some)

/-- A check that fails and has another name is not overruled. -/
theorem letsAttach_false {checks : List PreflightCheckResult} {check : PreflightCheckResult}
    (hmem : check ∈ checks) (hfails : check.passed = false)
    (hname : check.name ≠ .orchestrationRecoverable) : letsAttach checks recovery = false := by
  have hfailing : check ∈ failing checks := List.mem_filter.mpr ⟨hmem, by rw [hfails]; rfl⟩
  have hready : readyToStart checks = false := by
    rw [readyToStart, List.all_eq_false]
    exact ⟨check, hmem, by rw [hfails]; exact Bool.false_ne_true⟩
  have honly : failsOnly .orchestrationRecoverable checks = false := by
    rw [failsOnly, Bool.and_eq_false_iff]
    right
    rw [List.all_eq_false]
    exact ⟨check, hfailing, by simpa using hname⟩
  rw [letsAttach, hready, honly, Bool.and_false, Bool.or_false]

/-- A supervisor is let in only where the run exists. -/
theorem recorded_of_letsAttach
    (h : letsAttach (runPreflight config s probe command checkReconciliation) recovery = true) :
    s.recorded = true := by
  by_contra hrecorded
  rw [Bool.not_eq_true] at hrecorded
  unfold runPreflight preflight at h
  have hfails : (runConfigurationCheck s).passed = false := by
    simp [runConfigurationCheck, hrecorded]
  have hname : (runConfigurationCheck s).name ≠ .orchestrationRecoverable := by
    simp [runConfigurationCheck, hrecorded]
  rcases hread : probe.findings.readFailure with _ | text
  · rw [hread] at h
    rw [letsAttach_false ?_ hfails hname] at h
    · cases h
    · simp
  · rw [hread] at h
    rw [letsAttach_false List.mem_cons_self rfl (by simp)] at h
    cases h

/-- An attempt that is not settled is in the way of a start. -/
theorem settled_of_reconciliation (hrecorded : s.recorded = true)
    (h : (reconciliationCheck s).passed = true) : Settled s.attempts := by
  intro attempt hmem
  have hblocked : ∀ item, attemptItem attempt = some item → item.resolution.blocking = false := by
    intro item hitem
    by_contra hblocking
    have hitems : reconcileResearchRun s false =
        .ok (s.attempts.filterMap attemptItem ++ orchestrationItems s false) := by
      rw [reconcileResearchRun, if_pos hrecorded]
    have hblocker : item ∈ (s.attempts.filterMap attemptItem ++ orchestrationItems s false).filter
        (·.resolution.blocking) :=
      List.mem_filter.mpr ⟨List.mem_append_left _ (List.mem_filterMap.mpr ⟨attempt, hmem, hitem⟩),
        Bool.of_not_eq_false hblocking⟩
    rw [reconciliationCheck, hitems] at h
    dsimp only at h
    rw [if_neg] at h
    · cases h
    · rw [List.isEmpty_iff]
      exact List.ne_nil_of_mem hblocker
  constructor
  · intro hstate
    have := hblocked _ (by rw [attemptItem, hstate])
    cases this
  · intro hstate
    have := hblocked _ (by rw [attemptItem, hstate])
    dsimp only at this
    split at this <;> cases this

/-- What is ready to be started is settled. -/
theorem settled_of_readyToStart
    (h : readyToStart (runPreflight config s probe command true) = true) :
    s.recorded = true ∧ Settled s.attempts := by
  have hlets : letsAttach (runPreflight config s probe command true) false = true := by
    rw [letsAttach, h, Bool.true_or]
  have hrecorded : s.recorded = true := recorded_of_letsAttach hlets
  refine ⟨hrecorded, settled_of_reconciliation hrecorded ?_⟩
  rw [readyToStart, List.all_eq_true] at h
  refine h _ ?_
  unfold runPreflight preflight
  rcases hread : probe.findings.readFailure with _ | text
  · simp [hrecorded, runChecks]
  · have := h ⟨.databaseReachable, false, "database read failed during preflight: " ++ text⟩
      (by simp [runPreflight, preflight, hread])
    cases this

end Preflight

/-! ## What a call attaches -/

section Attaching

variable {config : RuntimeConfig} {w w' : Runtime} {id : Id} {env : Surroundings}
  {recovery : Bool} {command : Option StartCommand}

/-- All but one run is left as it is. -/
structure SameElsewhere (id : Id) (w w' : Runtime) : Prop where
  database : ∀ other, other ≠ id → w'.database other = w.database other
  live : ∀ other, other ≠ id → (other ∈ w'.live ↔ other ∈ w.live)

theorem SameElsewhere.refl (id : Id) (w : Runtime) : SameElsewhere id w w :=
  ⟨fun _ _ => rfl, fun _ _ => Iff.rfl⟩

theorem put_sameElsewhere (id : Id) (s : RunSnapshot) : SameElsewhere id w (w.put id s) :=
  ⟨fun _ hother => if_neg hother, fun _ _ => Iff.rfl⟩

@[simp] theorem put_database (w : Runtime) (id : Id) (s : RunSnapshot) :
    (w.put id s).database id = s :=
  if_pos rfl

@[simp] theorem put_attached (w : Runtime) (id : Id) (s : RunSnapshot) :
    (w.put id s).attached = w.attached :=
  rfl

/-- **`_attach_supervisor`** attaches one supervisor or none. -/
theorem attachSupervisor_spec (h : attachSupervisor config w id env recovery command = .ok w') :
    SameElsewhere id w w' ∧
      ((Attaches config w id env recovery command ∧
          w'.attached = w.attached ++ [⟨id, w.database id⟩]) ∨
        (¬ Attaches config w id env recovery command ∧ w'.attached = w.attached)) := by
  unfold attachSupervisor at h
  split at h
  · next hlive =>
    cases h
    exact ⟨.refl _ _, .inr ⟨fun hattaches => hattaches.1 hlive, rfl⟩⟩
  next hlive =>
  rcases hcommand : commandFor env recovery command with message | c
  · rw [hcommand] at h
    cases h
  rw [hcommand] at h
  cases h
  unfold attachWith
  split
  · next hlets =>
    rcases hacquired : acquired config (w.database id) env.serverNow with _ | record
    · refine ⟨.refl _ _, .inr ⟨?_, rfl⟩⟩
      rintro ⟨-, c', -, -, hlease⟩
      rw [hacquired] at hlease
      cases hlease
    · refine ⟨⟨fun other hother => if_neg hother, fun other hother => ?_⟩,
        .inl ⟨⟨hlive, c, hcommand, hlets, by rw [hacquired]; rfl⟩, rfl⟩⟩
      exact List.mem_cons.trans (or_iff_right hother)
  · next hlets =>
    refine ⟨.refl _ _, .inr ⟨?_, rfl⟩⟩
    rintro ⟨-, c', hc', hlets', -⟩
    rw [hcommand] at hc'
    cases hc'
    exact hlets hlets'

/-- It raises where it needs a command that cannot be put together. -/
theorem attachSupervisor_error {message : String} :
    attachSupervisor config w id env recovery command = .error message ↔
      id ∉ w.live ∧ commandFor env recovery command = .error message := by
  unfold attachSupervisor
  split
  · next hlive => simp [hlive]
  · next hlive =>
    rcases commandFor env recovery command with message' | c
    · simp [hlive, Except.map]
    · simp [Except.map]

/-- Where it raises it would not have attached one. -/
theorem not_attaches_of_error {message : String}
    (h : attachSupervisor config w id env recovery command = .error message) :
    ¬ Attaches config w id env recovery command := by
  rintro ⟨-, c, hc, -⟩
  rw [(attachSupervisor_error.mp h).2] at hc
  cases hc

/-- A run that is attached to exists and has not ended. -/
theorem Attaches.found (h : Attaches config w id env recovery command) :
    (w.database id).recorded = true ∧
      ∃ record, (w.database id).orchestration = some record ∧ record.state.terminal = false := by
  obtain ⟨-, c, -, hlets, hlease⟩ := h
  refine ⟨recorded_of_letsAttach hlets, ?_⟩
  rcases horchestration : (w.database id).orchestration with _ | record
  · rw [acquired, horchestration] at hlease
    cases hlease
  · refine ⟨record, rfl, ?_⟩
    rw [acquired, horchestration] at hlease
    obtain ⟨row, hrow⟩ := Option.isSome_iff_exists.mp hlease
    exact (acquireLease_eq_some hrow).2

/-- What is attached for recovery before the status is returned. -/
theorem attachAndReport_spec :
    ((Attaches config w id env true none ∧
        (attachAndReport config w id env).2.attached = w.attached ++ [⟨id, w.database id⟩]) ∨
      (¬ Attaches config w id env true none ∧
        (attachAndReport config w id env).2.attached = w.attached)) := by
  unfold attachAndReport
  rcases hattach : attachSupervisor config w id env true none with message | w'
  · exact .inr ⟨not_attaches_of_error hattach, rfl⟩
  · exact (attachSupervisor_spec hattach).2

/-- What is attached once `start` has returned. -/
theorem attachStarted_spec {c : StartCommand} {result : TickResult} :
    ((result.state = .ready ∧ Attaches config w id env false (some c) ∧
        (attachStarted config w id env c result).2.attached =
          w.attached ++ [⟨id, w.database id⟩]) ∨
      (¬ (result.state = .ready ∧ Attaches config w id env false (some c)) ∧
        (attachStarted config w id env c result).2.attached = w.attached)) := by
  unfold attachStarted
  split
  · next hready =>
    rcases hattach : attachSupervisor config w id env false (some c) with message | w'
    · exact .inr ⟨fun h => not_attaches_of_error hattach h.2, rfl⟩
    · refine (attachSupervisor_spec hattach).2.imp (fun h => ⟨hready, h⟩) fun h => ?_
      exact ⟨fun hboth => h.1 hboth.2, h.2⟩
  · next hready => exact .inr ⟨fun h => hready h.1, rfl⟩

end Attaching

/-- The supervisors that a step attaches are of the runs that it enters, and of runs
that can be resumed. -/
def Accounted (config : RuntimeConfig) (w : Runtime) (e : Event) (t : Runtime) : Prop :=
  ∃ new, t.attached = w.attached ++ new ∧
    (∀ a ∈ new, a.found.recorded = true ∧ (Contested config w e a.found ∨ Resumable a.found)) ∧
    ∀ s, Contested config w e s → ∃ a ∈ new, a.found = s

section Accounts

variable {config : RuntimeConfig} {w t : Runtime} {id : Id} {env : Surroundings} {e : Event}

theorem accounted_none (hattached : t.attached = w.attached)
    (hnone : ∀ s, ¬ Contested config w e s) : Accounted config w e t :=
  ⟨[], by rw [hattached, List.append_nil], fun a h => (by cases h), fun s h => absurd h (hnone s)⟩

theorem accounted_one {a : Attachment} (hattached : t.attached = w.attached ++ [a])
    (hrecorded : a.found.recorded = true)
    (hentered : Contested config w e a.found ∨ Resumable a.found)
    (honly : ∀ s, Contested config w e s → a.found = s) : Accounted config w e t := by
  refine ⟨[a], hattached, fun b hb => ?_, fun s hs => ⟨a, List.mem_singleton_self a, honly s hs⟩⟩
  rw [List.mem_singleton.mp hb]
  exact ⟨hrecorded, hentered⟩

/-- `start_run` of a run that a record exists of. -/
theorem startRun_existing {record : ResearchOrchestrationRecord} (hlive : id ∉ w.live)
    (hrecord : (w.database id).orchestration = some record) :
    Accounted config w (.startRun id env) (startRun config w id env).2 := by
  -- There is no other way into the run.
  have honly : ∀ s, Contested config w (.startRun id env) s →
      Attaches config w id env true none ∧ w.database id = s := by
    intro s hs
    cases hs with
    | existing hattach => exact ⟨hattach, rfl⟩
    | started _ hnew | conflict _ hnew =>
      rw [hrecord] at hnew
      cases hnew
  unfold startRun
  rw [if_neg hlive, hrecord]
  dsimp only
  split
  · next hterminal =>
    refine accounted_none rfl fun s hs => ?_
    obtain ⟨-, record', hrecord', hopen⟩ := (honly s hs).1.found
    rw [hrecord] at hrecord'
    cases hrecord'
    rw [hterminal] at hopen
    cases hopen
  · rcases attachAndReport_spec with ⟨hattach, hattached⟩ | ⟨hattach, hattached⟩
    · exact accounted_one hattached hattach.found.1 (.inl (.existing hattach))
        fun s hs => (honly s hs).2
    · exact accounted_none hattached fun s hs => hattach (honly s hs).1

/-- `start_run` once the preflight has passed. -/
theorem startAndAttach_accounted {command : StartCommand} (hlive : id ∉ w.live)
    (hnew : (w.database id).orchestration = none) (hallocated : env.allocation = .ok ())
    (hcommand : env.reconstructed false = .ok command)
    (hready :
      readyToStart (runPreflight config (w.database id) env.starting command true) = true) :
    Accounted config w (.startRun id env) (startAndAttach config w id env command).2 := by
  have hexisting : ¬ Attaches config w id env true none := by
    intro h
    obtain ⟨-, record, hrecord, -⟩ := h.found
    rw [hnew] at hrecord
    cases hrecord
  unfold startAndAttach
  rcases hmeanwhile : env.meanwhile with _ | ⟨s, record⟩ | s
  · -- The record is new, and the preflight has found nothing against the attempts.
    have hnone : ∀ s, ¬ Contested config w (.startRun id env) s := by
      intro s hs
      cases hs with
      | existing hattach => exact hexisting hattach
      | started _ _ _ _ _ hmeanwhile' | conflict _ _ _ _ _ hmeanwhile' =>
        rw [hmeanwhile] at hmeanwhile'
        cases hmeanwhile'
    rcases attachStarted_spec with ⟨hstate, hattach, hattached⟩ | ⟨-, hattached⟩
    · obtain ⟨hrecorded, hsettled⟩ := settled_of_readyToStart hready
      refine accounted_one hattached (by simpa using hrecorded) (.inr ⟨?_, ?_⟩)
        fun s hs => absurd hs (hnone s)
      · exact ⟨startedRecord command, by simp, .inl hstate⟩
      · simpa using hsettled
    · exact accounted_none hattached hnone
  · have honly : ∀ s', Contested config w (.startRun id env) s' → record.state = .ready ∧
        Attaches config (w.put id { s with orchestration := some record }) id env false
          (some command) ∧ { s with orchestration := some record } = s' := by
      intro s' hs'
      cases hs' with
      | existing hattach => exact absurd hattach hexisting
      | started _ _ _ hcommand' _ hmeanwhile' hstate hattach =>
        rw [hmeanwhile] at hmeanwhile'
        cases hmeanwhile'
        rw [hcommand] at hcommand'
        cases hcommand'
        exact ⟨hstate, hattach, rfl⟩
      | conflict _ _ _ _ _ hmeanwhile' =>
        rw [hmeanwhile] at hmeanwhile'
        cases hmeanwhile'
    rcases @attachStarted_spec config (w.put id { s with orchestration := some record }) id env
      command (resultFromRecord record .continue) with
      ⟨hstate, hattach, hattached⟩ | ⟨hattach, hattached⟩
    · have hfound := hattach.found.1
      rw [put_database] at hattached hfound
      exact accounted_one hattached hfound
        (.inl (.started hlive hnew hallocated hcommand hready hmeanwhile hstate hattach))
        fun s' hs' => (honly s' hs').2.2
    · exact accounted_none hattached fun s' hs' =>
        hattach ⟨(honly s' hs').1, (honly s' hs').2.1⟩
  · have honly : ∀ s', Contested config w (.startRun id env) s' →
        Attaches config (w.put id s) id env true none ∧ s = s' := by
      intro s' hs'
      cases hs' with
      | existing hattach => exact absurd hattach hexisting
      | started _ _ _ _ _ hmeanwhile' =>
        rw [hmeanwhile] at hmeanwhile'
        cases hmeanwhile'
      | conflict _ _ _ _ _ hmeanwhile' hattach =>
        rw [hmeanwhile] at hmeanwhile'
        cases hmeanwhile'
        exact ⟨hattach, rfl⟩
    rcases @attachAndReport_spec config (w.put id s) id env with
      ⟨hattach, hattached⟩ | ⟨hattach, hattached⟩
    · have hfound := hattach.found.1
      rw [put_database] at hattached hfound
      exact accounted_one hattached hfound
        (.inl (.conflict hlive hnew hallocated hcommand hready hmeanwhile hattach))
        fun s' hs' => (honly s' hs').2
    · exact accounted_none hattached fun s' hs' => hattach (honly s' hs').1

/-- **`start_run`** accounts for the supervisors it attaches. -/
theorem startRun_accounted :
    Accounted config w (.startRun id env) (startRun config w id env).2 := by
  by_cases hlive : id ∈ w.live
  · rw [startRun, if_pos hlive]
    refine accounted_none rfl fun s hs => ?_
    cases hs with
    | existing hattach => exact hattach.1 hlive
    | started hlive' | conflict hlive' => exact hlive' hlive
  rcases hrecord : (w.database id).orchestration with _ | record
  swap
  · exact startRun_existing hlive hrecord
  have hexisting : ¬ Attaches config w id env true none := by
    intro h
    obtain ⟨-, record, hrecord', -⟩ := h.found
    rw [hrecord] at hrecord'
    cases hrecord'
  rw [startRun, if_neg hlive, hrecord]
  dsimp only
  unfold startNew
  rcases hallocation : env.allocation with error | _
  · have hnone : ∀ s, ¬ Contested config w (.startRun id env) s := by
      intro s hs
      cases hs with
      | existing hattach => exact hexisting hattach
      | started _ _ hallocated | conflict _ _ hallocated =>
        rw [hallocation] at hallocated
        cases hallocated
    cases error with
    | application message => exact accounted_none rfl hnone
    | conflict =>
      rcases attachAndReport_spec with ⟨hattach, -⟩ | ⟨-, hattached⟩
      · exact absurd hattach hexisting
      · exact accounted_none hattached hnone
  rcases hcommand : env.reconstructed false with message | command
  · have hnone : ∀ s, ¬ Contested config w (.startRun id env) s := by
      intro s hs
      cases hs with
      | existing hattach => exact hexisting hattach
      | started _ _ _ hcommand' | conflict _ _ _ hcommand' =>
        rw [hcommand] at hcommand'
        cases hcommand'
    dsimp only
    split <;> exact accounted_none rfl hnone
  by_cases hready :
      readyToStart (runPreflight config (w.database id) env.starting command true) = true
  · dsimp only
    rw [if_pos hready]
    exact startAndAttach_accounted hlive hrecord hallocation hcommand hready
  · have hnone : ∀ s, ¬ Contested config w (.startRun id env) s := by
      intro s hs
      cases hs with
      | existing hattach => exact hexisting hattach
      | started _ _ _ hcommand' hready' | conflict _ _ _ hcommand' hready' =>
        rw [hcommand] at hcommand'
        cases hcommand'
        exact hready hready'
    dsimp only
    rw [if_neg hready]
    split <;> exact accounted_none rfl hnone

end Accounts

section Recovering

variable {config : RuntimeConfig} {env : Id → Surroundings} {w w' : Runtime}
  {entry : Id × ResearchOrchestrationRecord} {listing : List (Id × ResearchOrchestrationRecord)}

/-- What is said of a run goes by what is known of that run. -/
theorem attaches_congr {id : Id} {around : Surroundings} {recovery : Bool}
    {command : Option StartCommand} (hdatabase : w'.database id = w.database id)
    (hlive : id ∈ w'.live ↔ id ∈ w.live) :
    Attaches config w' id around recovery command ↔
      Attaches config w id around recovery command := by
  rw [Attaches, Attaches, hdatabase, hlive]

theorem interrupts_congr (hdatabase : w'.database entry.1 = w.database entry.1)
    (hlive : entry.1 ∈ w'.live ↔ entry.1 ∈ w.live) :
    Interrupts config w' env entry ↔ Interrupts config w env entry := by
  rw [Interrupts, Interrupts, hdatabase, hlive]

theorem recovers_congr (hdatabase : w'.database entry.1 = w.database entry.1)
    (hlive : entry.1 ∈ w'.live ↔ entry.1 ∈ w.live) :
    Recovers config w' env entry ↔ Recovers config w env entry := by
  rw [Recovers, Recovers, hdatabase, attaches_congr hdatabase hlive]

theorem actionOf_ok {s : RunSnapshot} {decision : RuntimeRecoveryDecision}
    (h : classifyRuntimeRecovery s = .ok decision) : actionOf s = some decision.action := by
  rw [actionOf, h]
  rfl

theorem actionOf_error {s : RunSnapshot} {message : String}
    (h : classifyRuntimeRecovery s = .error message) : actionOf s = none := by
  rw [actionOf, h]
  rfl

/-- Holding a run attaches nothing. -/
theorem holdForHuman_spec (w : Runtime) (id : Id) (decision : RuntimeRecoveryDecision) :
    SameElsewhere id w (holdForHuman w id decision) ∧
      (holdForHuman w id decision).attached = w.attached := by
  unfold holdForHuman
  split
  · exact ⟨.refl _ _, rfl⟩
  · split
    · exact ⟨put_sameElsewhere _ _, rfl⟩
    · exact ⟨.refl _ _, rfl⟩

/-- A decision is followed by attaching a supervisor, or by something that attaches
none. -/
theorem followDecision_cases (config : RuntimeConfig) (w : Runtime) (id : Id)
    (around : Surroundings) (decision : RuntimeRecoveryDecision) :
    ((decision.action = .safeResume ∨ decision.action = .safeRetryAfterReauthorization) ∧
        followDecision config w id around decision =
          attachSupervisor config w id around true none) ∨
      (¬ (decision.action = .safeResume ∨ decision.action = .safeRetryAfterReauthorization) ∧
        ∃ w', followDecision config w id around decision = .ok w' ∧ SameElsewhere id w w' ∧
          w'.attached = w.attached) := by
  have hhold := holdForHuman_spec w id decision
  unfold followDecision
  cases decision.action with
  | safeResume => exact .inl ⟨.inl rfl, rfl⟩
  | safeRetryAfterReauthorization => exact .inl ⟨.inr rfl, rfl⟩
  | reconciliationRequired | humanRequired =>
    exact .inr ⟨by simp, _, rfl, hhold.1, hhold.2⟩
  | doNotResume => exact .inr ⟨by simp, w, rfl, .refl _ _, rfl⟩

/-- **One run** of `recover_runs`. -/
theorem recoverRun_spec (config : RuntimeConfig) (env : Id → Surroundings) (w : Runtime)
    (entry : Id × ResearchOrchestrationRecord) :
    (∃ message, recoverRun config env w entry.1 entry.2 = .error message ∧
        Interrupts config w env entry) ∨
      ∃ decision w', recoverRun config env w entry.1 entry.2 = .ok (decision, w') ∧
        ¬ Interrupts config w env entry ∧ SameElsewhere entry.1 w w' ∧
        ((Recovers config w env entry ∧
            w'.attached = w.attached ++ [⟨entry.1, w.database entry.1⟩]) ∨
          (¬ Recovers config w env entry ∧ w'.attached = w.attached)) := by
  unfold recoverRun
  by_cases hheld : leaseHeldByOther config entry.2 (env entry.1).processNow = true
  · rw [if_pos hheld]
    refine .inr ⟨none, w, rfl, fun h => ?_, .refl _ _, .inr ⟨fun h => ?_, rfl⟩⟩
    · exact absurd hheld (Bool.eq_false_iff.mp h.1)
    · exact absurd hheld (Bool.eq_false_iff.mp h.1)
  have hfree : leaseHeldByOther config entry.2 (env entry.1).processNow = false :=
    Bool.of_not_eq_true hheld
  rw [if_neg hheld]
  rcases hclassified : classifyRuntimeRecovery (w.database entry.1) with message | decision
  · exact .inl ⟨message, rfl, hfree, .inl (actionOf_error hclassified)⟩
  have haction := actionOf_ok hclassified
  have hknown : actionOf (w.database entry.1) ≠ none := by
    rw [haction]
    simp
  have hverdict : (actionOf (w.database entry.1) = some .safeResume ∨
        actionOf (w.database entry.1) = some .safeRetryAfterReauthorization) ↔
      decision.action = .safeResume ∨ decision.action = .safeRetryAfterReauthorization := by
    rw [haction, Option.some.injEq, Option.some.injEq]
  dsimp only
  rcases followDecision_cases config w entry.1 (env entry.1) decision with
    ⟨hsafe, hfollow⟩ | ⟨hnotSafe, w', hfollow, hsame, hattached⟩
  · rw [hfollow]
    rcases hattach : attachSupervisor config w entry.1 (env entry.1) true none with message | w'
    · obtain ⟨hlive, hcommand⟩ := attachSupervisor_error.mp hattach
      exact .inl ⟨message, rfl, hfree, .inr ⟨hverdict.mpr hsafe, hlive, message, hcommand⟩⟩
    · obtain ⟨hsame, hattached⟩ := attachSupervisor_spec hattach
      refine .inr ⟨some decision, w', rfl, ?_, hsame, ?_⟩
      · rintro ⟨-, hnone | ⟨-, hlive, message, hcommand⟩⟩
        · exact hknown hnone
        · have hraises : attachSupervisor config w entry.1 (env entry.1) true none =
              .error message := attachSupervisor_error.mpr ⟨hlive, hcommand⟩
          rw [hraises] at hattach
          cases hattach
      · exact hattached.imp (fun h => ⟨⟨hfree, hverdict.mpr hsafe, h.1⟩, h.2⟩)
          fun h => ⟨fun hrecovers => h.1 hrecovers.2.2, h.2⟩
  · refine .inr ⟨some decision, w', by rw [hfollow]; rfl, ?_, hsame,
      .inr ⟨fun h => hnotSafe (hverdict.mp h.2.1), hattached⟩⟩
    rintro ⟨-, hnone | ⟨hsafe, -⟩⟩
    · exact hknown hnone
    · exact hnotSafe (hverdict.mp hsafe)

/-- The runs of a listing that `recover_runs` attaches to. -/
def Entered (config : RuntimeConfig) (env : Id → Surroundings) (w : Runtime)
    (listing : List (Id × ResearchOrchestrationRecord)) (s : RunSnapshot) : Prop :=
  ∃ before entry after, listing = before ++ entry :: after ∧
    (∀ earlier ∈ before, ¬ Interrupts config w env earlier) ∧ Recovers config w env entry ∧
    w.database entry.1 = s

theorem entered_cons_of_interrupts (hinterrupts : Interrupts config w env entry)
    {s : RunSnapshot} : ¬ Entered config env w (entry :: listing) s := by
  rintro ⟨_ | ⟨first, before⟩, other, after, hlisting, hreached, hrecovers, -⟩
  · cases hlisting
    obtain ⟨-, hnone | ⟨-, -, message, hcommand⟩⟩ := hinterrupts
    · rcases hrecovers.2.1 with h | h <;> rw [hnone] at h <;> cases h
    · obtain ⟨-, c, hc, -⟩ := hrecovers.2.2
      rw [show commandFor (env entry.1) true none = .error message from hcommand] at hc
      cases hc
  · cases hlisting
    exact hreached entry List.mem_cons_self hinterrupts

/-- Past the first run, the others are as they were. -/
theorem entered_cons (hnot : ¬ Interrupts config w env entry) (hsame : SameElsewhere entry.1 w w')
    (hfresh : ∀ other ∈ listing, other.1 ≠ entry.1) {s : RunSnapshot} :
    Entered config env w (entry :: listing) s ↔
      (Recovers config w env entry ∧ w.database entry.1 = s) ∨ Entered config env w' listing s := by
  have hframe : ∀ other ∈ listing, w'.database other.1 = w.database other.1 ∧
      (other.1 ∈ w'.live ↔ other.1 ∈ w.live) :=
    fun other hother =>
      ⟨hsame.database _ (hfresh other hother), hsame.live _ (hfresh other hother)⟩
  constructor
  · rintro ⟨_ | ⟨first, before⟩, other, after, hlisting, hreached, hrecovers, hs⟩
    · cases hlisting
      exact .inl ⟨hrecovers, hs⟩
    · cases hlisting
      have hother := hframe other (List.mem_append_right _ List.mem_cons_self)
      refine .inr ⟨before, other, after, rfl, fun earlier hearlier => ?_,
        (recovers_congr hother.1 hother.2).mpr hrecovers, hother.1.trans hs⟩
      have hframed := hframe earlier (List.mem_append_left _ hearlier)
      rw [interrupts_congr hframed.1 hframed.2]
      exact hreached earlier (List.mem_cons_of_mem _ hearlier)
  · rintro (⟨hrecovers, hs⟩ | ⟨before, other, after, rfl, hreached, hrecovers, hs⟩)
    · exact ⟨[], entry, listing, rfl, fun _ h => (by cases h), hrecovers, hs⟩
    · have hother := hframe other (List.mem_append_right _ List.mem_cons_self)
      refine ⟨entry :: before, other, after, rfl, fun earlier hearlier => ?_,
        (recovers_congr hother.1 hother.2).mp hrecovers, hother.1.symm.trans hs⟩
      rcases List.mem_cons.mp hearlier with rfl | hearlier
      · exact hnot
      · have hframed := hframe earlier (List.mem_append_left _ hearlier)
        rw [← interrupts_congr hframed.1 hframed.2]
        exact hreached earlier hearlier

/-- **`recover_runs`** attaches supervisors to the runs that it enters. -/
theorem recoverRuns_attached (hnodup : (listing.map (·.1)).Nodup) :
    ∃ new, (recoverRuns config env w listing).2.attached = w.attached ++ new ∧
      (∀ a ∈ new, a.found.recorded = true ∧ Entered config env w listing a.found) ∧
      ∀ s, Entered config env w listing s → ∃ a ∈ new, a.found = s := by
  -- Induction on the listing; what a run is found to be does not depend on the
  -- runs before it.
  induction listing generalizing w with
  | nil =>
    refine ⟨[], (List.append_nil _).symm, fun a h => (by cases h), ?_⟩
    rintro s ⟨before, entry, after, hlisting, -⟩
    cases before <;> cases hlisting
  | cons entry rest ih =>
    obtain ⟨hnotin, hrest⟩ := List.nodup_cons.mp hnodup
    have hfresh : ∀ other ∈ rest, other.1 ≠ entry.1 :=
      fun other hother heq => hnotin (List.mem_map.mpr ⟨other, hother, heq⟩)
    rcases recoverRun_spec config env w entry with
      ⟨message, hrun, hinterrupts⟩ | ⟨decision, w', hrun, hnot, hsame, hfirst⟩
    · refine ⟨[], ?_, fun a h => (by cases h),
        fun s hs => absurd hs (entered_cons_of_interrupts hinterrupts)⟩
      rw [recoverRuns, hrun, List.append_nil]
    · obtain ⟨new, hattached, hnew, hall⟩ := @ih w' hrest
      have hentered : ∀ s, Entered config env w (entry :: rest) s ↔ _ :=
        fun s => entered_cons hnot hsame hfresh
      have hlast : (recoverRuns config env w (entry :: rest)).2 =
          (recoverRuns config env w' rest).2 := by
        rw [recoverRuns, hrun]
      rcases hfirst with ⟨hrecovers, hone⟩ | ⟨hnone, hsame'⟩
      · refine ⟨⟨entry.1, w.database entry.1⟩ :: new, ?_, fun a ha => ?_, fun s hs => ?_⟩
        · rw [hlast, hattached, hone, List.append_assoc, List.singleton_append]
        · rcases List.mem_cons.mp ha with rfl | ha
          · exact ⟨hrecovers.2.2.found.1, (hentered _).mpr (.inl ⟨hrecovers, rfl⟩)⟩
          · exact ⟨(hnew a ha).1, (hentered _).mpr (.inr (hnew a ha).2)⟩
        · rcases (hentered s).mp hs with ⟨-, hs⟩ | hs
          · exact ⟨_, List.mem_cons_self, hs⟩
          · obtain ⟨a, ha, hfound⟩ := hall s hs
            exact ⟨a, List.mem_cons_of_mem _ ha, hfound⟩
      · refine ⟨new, by rw [hlast, hattached, hsame'], fun a ha => ?_, fun s hs => ?_⟩
        · exact ⟨(hnew a ha).1, (hentered _).mpr (.inr (hnew a ha).2)⟩
        · rcases (hentered s).mp hs with ⟨hrecovers, -⟩ | hs
          · exact absurd hrecovers hnone
          · exact hall s hs

end Recovering

/-! ## Steps and runs -/

section Runs

variable {config : RuntimeConfig} {w t : Runtime} {e : Event} {es : List Event}

/-- **Every step** accounts for the supervisors it attaches. -/
theorem step_accounted (h : Step config w e t) : Accounted config w e t := by
  cases h with
  | recoverRuns env hlisted =>
    obtain ⟨new, hattached, hnew, hall⟩ := recoverRuns_attached hlisted.nodup
    refine ⟨new, hattached, fun a ha => ⟨(hnew a ha).1, .inl ?_⟩, fun s hs => hall s ?_⟩
    · obtain ⟨before, entry, after, rfl, hreached, hrecovers, hs⟩ := (hnew a ha).2
      rw [← hs]
      exact .recovered hreached hrecovers
    · cases hs with
      | recovered hreached hrecovers =>
        exact ⟨_, _, _, rfl, hreached, hrecovers, rfl⟩
  | startRun id env => exact startRun_accounted
  | supervisorEnds id => exact accounted_none rfl fun s hs => by cases hs
  | written database => exact accounted_none rfl fun s hs => by cases hs

/-- A step keeps to the gate if the runs that it enters are clear. -/
theorem allGated_step (h : Step config w e t) :
    AllGated t ↔ AllGated w ∧ Clear config w e := by
  obtain ⟨new, hattached, hnew, hall⟩ := step_accounted h
  constructor
  · intro hgated
    refine ⟨fun a ha => hgated a (hattached ▸ List.mem_append_left _ ha), fun s hs => ?_⟩
    obtain ⟨a, ha, rfl⟩ := hall s hs
    exact (gated_iff (hnew a ha).1).mp (hgated a (hattached ▸ List.mem_append_right _ ha))
  · rintro ⟨hgated, hclear⟩ a ha
    rw [hattached] at ha
    rcases List.mem_append.mp ha with ha | ha
    · exact hgated a ha
    · obtain ⟨hrecorded, hentered⟩ := hnew a ha
      exact (gated_iff hrecorded).mpr (hentered.elim (hclear _) id)

/-- **Supervisors are attached to existing runs through the gate** if and only if
every run that a call enters is going on and has no attempt that was sent without
its outcome being known. -/
theorem recovery_gate_iff (config : RuntimeConfig) (w t : Runtime) (es : List Event)
    (hstart : w.attached = []) (h : Run (Step config) w es t) :
    AllGated t ↔ Run (Guarded (Step config) (Clear config)) w es t := by
  have hnone : AllGated w := fun a ha => by
    rw [hstart] at ha
    cases ha
  have hkept : ∀ s e t, Step config s e t → (fun _ => True) s →
      (AllGated t ↔ AllGated s ∧ Clear config s e) := fun s e t hstep _ => allGated_step hstep
  exact h.guarded_iff (fun _ _ _ _ h => h) hkept trivial hnone

end Runs

/-! ## A runtime whose probes are healthy -/

def passing : Finding := ⟨true, ""⟩

def labProbe : Probe :=
  ⟨0, none, passing, passing, passing, passing, passing, passing, passing, passing, passing⟩

def labSurroundings : Surroundings where
  processNow := 0
  serverNow := 0
  allocation := .ok ()
  reconstructed _ := .ok ⟨0, ⟨1, 1, 1, 1, 1, 1, 1, 0, false⟩, false⟩
  starting := labProbe
  attaching := labProbe
  meanwhile := .nothing

def labConfig : RuntimeConfig := ⟨7, 90, false⟩

/-- It has no supervisors, and there is one run, which has these attempts. -/
def labRuntime (attempts : List RecordedAttempt) : Runtime where
  database id :=
    if id = 0 then labRun attempts
    else { labRun [] with recorded := false, orchestration := none }
  live := []
  attached := []

/-- A run is started again whose only attempt has come to its end. -/
theorem recovery_gate_iff_lab : ∃ es t,
    Run (Step labConfig) (labRuntime [⟨1, .completed, 0⟩]) es t ∧ t.attached.length = 1 ∧
      AllGated t := by
  have hrun := (Run.nil (labRuntime [⟨1, .completed, 0⟩])).snoc
    (@Step.startRun labConfig _ 0 labSurroundings)
  refine ⟨_, _, hrun, by decide, (recovery_gate_iff labConfig _ _ _ rfl hrun).mpr ?_⟩
  refine (Run.nil _).snoc ⟨Step.startRun 0 labSurroundings, fun s hs => ?_⟩
  cases hs with
  | existing => exact ⟨⟨labRecord, rfl, .inl rfl⟩, by simp [Settled, labRuntime, labRun]⟩
  | started _ hnew | conflict _ hnew => cases hnew

theorem lab_recoverable (attempts : List RecordedAttempt) :
    Recoverable (labRuntime attempts) [(0, labRecord)] where
  nodup := by simp
  mem id record := by
    rw [List.mem_singleton]
    by_cases hid : id = 0
    · subst hid
      constructor
      · intro h
        cases h
        exact ⟨rfl, .inl rfl⟩
      · rintro ⟨h, -⟩
        cases h
        rfl
    · simp [labRuntime, hid]

theorem not_allGated {t : Runtime} {attempts : List RecordedAttempt} {attempt : RecordedAttempt}
    (hattached : t.attached = [⟨0, labRun attempts⟩]) (hmem : attempt ∈ attempts)
    (hstate : attempt.state = .dispatching) : ¬ AllGated t := by
  intro hgated
  have hfound := hgated ⟨0, labRun attempts⟩ (by rw [hattached]; exact List.mem_singleton_self _)
  exact (hfound.settled attempt hmem).1 hstate

/-- **`start_run` does not ask** for the classification, and attaches a supervisor to a
run with an attempt that was sent.  **`recover_runs`** does, and attaches one all the
same where an attempt that was only authorised comes first. -/
theorem sent_attempts_supervised :
    (∃ es t, Run (Step labConfig) (labRuntime [⟨1, .dispatching, 0⟩]) es t ∧
      t.attached.map (actionOf ·.found) = [some .reconciliationRequired] ∧ ¬ AllGated t) ∧
    ∃ es t, Run (Step labConfig) (labRuntime [⟨1, .authorized, 0⟩, ⟨2, .dispatching, 0⟩]) es t ∧
      t.attached.map (actionOf ·.found) = [some .safeRetryAfterReauthorization] ∧
      ¬ AllGated t := by
  constructor
  · have hrun := (Run.nil (labRuntime [⟨1, .dispatching, 0⟩])).snoc
      (@Step.startRun labConfig _ 0 labSurroundings)
    exact ⟨_, _, hrun, by decide, not_allGated rfl List.mem_cons_self rfl⟩
  · have hrun := (Run.nil (labRuntime [⟨1, .authorized, 0⟩, ⟨2, .dispatching, 0⟩])).snoc
      (@Step.recoverRuns labConfig _ _ (fun _ => labSurroundings) (lab_recoverable _))
    exact ⟨_, _, hrun, by decide, not_allGated rfl (List.mem_cons_of_mem _ List.mem_cons_self) rfl⟩

end Zest.RuntimeRecovery

import Zest.ResearchCycles
import Zest.TransitionSystem

/-! # Cycles that are resumed

A call of `step` that is stopped leaves its cycle to the next call, which knows
it by the row: the phase, and the references to what the cycle is about.  The
phase is that of the open cycle, but the references are kept from one cycle to
the next until they are written over, and a resume branch may take one that an
earlier cycle has left.

`resumesSafely` says when it does not.  In every run whose calls all begin so,
wherever they are stopped, the history is faithful.
-/
namespace Zest

/-- A phase of a cycle that has its experiment. -/
def OrchestrationPhase.planned : OrchestrationPhase → Bool
  | .experimentPlanned | .authorizationRequested | .attemptAuthorized
  | .workerResultRecorded | .transitionAComplete | .assessmentComplete | .transitionBComplete =>
    true
  | _ => false

/-- The experiment is about the hypothesis of the open cycle. -/
def Store.covers (s : Store) (experimentId : Id) : Bool :=
  (openCycle s.events).any (·.covers s.hypothesisOf experimentId)

namespace Controller

open UnitOfWork TransitionSystem

/-- What a call that resumes by the phase takes up is of the open cycle: the
experiment or the opportunity it goes on with; and it selects an opportunity only
when no cycle is open. -/
def resumesPhaseSafely (input : StepInput) (s : Store) : Bool :=
  let bounded := (checkOrchestrationBounds s.row.bounds (s.usage s.row input.elapsedMs.1)).isSome
  match s.row.currentPhase with
  | .hypothesisAdmitted => s.row.lastExperimentId.all s.covers
  | .opportunitySelected =>
    (resumableHypothesis input s.row s).isNone &&
      (bounded || (openCycle s.events).any fun c =>
        c.opportunityId = s.row.lastOpportunityId && c.hypothesisId.isNone)
  | .cycleReady | .cycleComplete =>
    bounded || (routingStop input.routing).isSome || (openCycle s.events).isNone
  | _ => true

/-- What the call takes up is of the open cycle, also where it dispatches an
attempt that was left authorized. -/
def resumesSafely (input : StepInput) (s : Store) : Bool :=
  s.row.state.halted || s.unknownOpen ||
    match input.surfaceDiscovery with
    | some _ => (openCycle s.events).isNone
    | none =>
      match openAttempt input s with
      | .dispatching => true
      | .authorized attempt => input.rebuilt ≠ .built || s.covers attempt.experimentId
      | .none => resumesPhaseSafely input s

/-! ## What the row says of the open cycle -/

/-- The record names the hypothesis or the experiment of the open cycle, as its
phase has it. -/
structure Agrees (s : Store) (record : ResearchOrchestrationRecord) : Prop where
  admitted : record.currentPhase = .hypothesisAdmitted → ∃ c hypothesisId,
    openCycle s.events = some c ∧ c.hypothesisId = some hypothesisId ∧
      record.lastHypothesisId = some hypothesisId
  planned : record.currentPhase.planned = true → ∃ experimentId,
    record.lastExperimentId = some experimentId ∧ s.covers experimentId = true

/-- What holds of the store wherever a call is stopped. -/
structure Sound (s : Store) : Prop where
  faithful : s.faithful = true
  keyed : s.Keyed
  agrees : s.row.state.halted = false → Agrees s s.row

/-- A call that holds `current` has work to do. -/
structure Working (current : ResearchOrchestrationRecord) (s : Store) : Prop extends Sound s where
  live : s.row.state.halted = false
  runnable : current.state.halted = false

variable {input : StepInput} {s t : Store} {current record : ResearchOrchestrationRecord}
  {experimentId hypothesisId : Id}

theorem live_of_runnable {state : OrchestrationState} (h : state.halted = false) :
    state.terminal = false := by
  cases state <;> first | rfl | cases h

theorem Working.terminal (h : Working current s) : s.row.state.terminal = false :=
  live_of_runnable h.live

/-- The history is one event longer. -/
theorem faithful_append {event : CycleEvent} (hs : s.faithful = true)
    (hevents : t.events = s.events ++ [event])
    (hgrown : ∀ id hyp, s.hypothesisOf id = some hyp → t.hypothesisOf id = some hyp)
    (hfits : event.fits t.hypothesisOf (openCycle s.events) = true) : t.faithful = true := by
  unfold Store.faithful at hs ⊢
  rw [hevents, faithfulFrom_append, faithfulFrom_mono hgrown hs]
  simpa [faithfulFrom, openCycle] using hfits

theorem openCycle_snoc (events : List CycleEvent) (event : CycleEvent) :
    openCycle (events ++ [event]) = event.after (openCycle events) := by
  rw [openCycle_append]
  rfl

theorem covers_iff : s.covers experimentId = true ↔ ∃ c hypothesisId,
    openCycle s.events = some c ∧ c.hypothesisId = some hypothesisId ∧
      s.hypothesisOf experimentId = some hypothesisId := by
  unfold Store.covers OpenCycle.covers
  cases openCycle s.events with
  | none => simp
  | some c => cases hc : c.hypothesisId <;> simp [hc]

/-- What concerns an experiment of the open cycle leaves the history faithful,
and the cycle open. -/
theorem aside_faithful {concerned : Option Id} (hs : s.faithful = true)
    (ha : Aside concerned s t)
    (hcovers : ∀ id, concerned = some id → s.covers id = true) :
    t.faithful = true ∧ openCycle t.events = openCycle s.events := by
  obtain ⟨events, hevents, hof⟩ := ha.events
  unfold Store.faithful at hs ⊢
  rw [hevents, faithfulFrom_append, faithfulFrom_mono ha.hypothesisOf hs, openCycle_append]
  cases hopen : openCycle s.events with
  | none =>
    have hnil : events = [] := by
      apply List.eq_nil_iff_forall_not_mem.mpr
      intro event hmem
      obtain ⟨id, hid, -⟩ := hof event hmem
      have hcovered := hcovers id hid
      simp [Store.covers, hopen] at hcovered
    subst hnil
    exact ⟨rfl, rfl⟩
  | some c =>
    have hmine := faithfulFrom_isOf (f := t.hypothesisOf) hof fun id hid => by
      have hcovered := hcovers id hid
      simp only [Store.covers, hopen, Option.any_some] at hcovered
      exact OpenCycle.covers_mono ha.hypothesisOf hcovered
    unfold openCycle at hopen
    rw [hopen, hmine.1, hmine.2]
    exact ⟨rfl, rfl⟩

theorem covers_grown (hopen : openCycle t.events = openCycle s.events)
    (hgrown : ∀ id hyp, s.hypothesisOf id = some hyp → t.hypothesisOf id = some hyp)
    (h : s.covers experimentId = true) : t.covers experimentId = true := by
  obtain ⟨c, hyp, hc, hhyp, hof⟩ := covers_iff.mp h
  exact covers_iff.mpr ⟨c, hyp, hopen.trans hc, hhyp, hgrown _ _ hof⟩

theorem Agrees.grown (h : Agrees s record) (hopen : openCycle t.events = openCycle s.events)
    (hgrown : ∀ id hyp, s.hypothesisOf id = some hyp → t.hypothesisOf id = some hyp) :
    Agrees t record := by
  constructor
  · intro hphase
    obtain ⟨c, hyp, hc, hhyp, hlast⟩ := h.admitted hphase
    exact ⟨c, hyp, hopen.trans hc, hhyp, hlast⟩
  · intro hphase
    obtain ⟨id, hlast, hcovers⟩ := h.planned hphase
    exact ⟨id, hlast, covers_grown hopen hgrown hcovers⟩

theorem Sound.aside {concerned : Option Id} (h : Sound s) (ha : Aside concerned s t)
    (hcovers : ∀ id, concerned = some id → s.covers id = true) : Sound t := by
  obtain ⟨hfaithful, hopen⟩ := aside_faithful h.faithful ha hcovers
  refine ⟨hfaithful, ha.keyed h.keyed, fun hlive => ?_⟩
  rw [ha.row] at hlive ⊢
  exact (h.agrees hlive).grown hopen ha.hypothesisOf

/-- A record that agrees with the open cycle is saved. -/
theorem Sound.saved (h : Sound s) (hagrees : record.state.halted = false → Agrees s record) :
    Sound (s.saved record) :=
  ⟨h.faithful, ⟨h.keyed.distinct, h.keyed.origin⟩, fun hlive =>
    ⟨(hagrees hlive).admitted, (hagrees hlive).planned⟩⟩

/-- A record of neither kind of phase agrees with anything. -/
theorem agrees_of_neutral (hadmitted : record.currentPhase ≠ .hypothesisAdmitted)
    (hplanned : record.currentPhase.planned = false) : Agrees s record :=
  ⟨fun hphase => absurd hphase hadmitted, fun hphase => by rw [hplanned] at hphase; cases hphase⟩

/-- A record of a cycle that has its experiment. -/
theorem agrees_of_planned (hadmitted : record.currentPhase ≠ .hypothesisAdmitted)
    (hlast : record.lastExperimentId = some experimentId)
    (hcovers : s.covers experimentId = true) : Agrees s record :=
  ⟨fun hphase => absurd hphase hadmitted, fun _ => ⟨experimentId, hlast, hcovers⟩⟩

/-! ## Ends of cycles -/

theorem fits_closed_of_stop {outcome : CycleOutcome} {f : Id → Option Id} {c : Option OpenCycle}
    (h : outcome ≠ .continue) : (CycleEvent.closed outcome none).fits f c = true := by
  cases outcome <;> first | rfl | exact absurd rfl h

theorem fits_closed_of_covers {outcome : CycleOutcome} (h : s.covers experimentId = true) :
    (CycleEvent.closed outcome (some experimentId)).fits s.hypothesisOf (openCycle s.events) =
      true := by
  unfold Store.covers at h
  cases hopen : openCycle s.events with
  | none => simp [hopen] at h
  | some c =>
    simp only [hopen, Option.any_some] at h
    cases outcome <;> simp [CycleEvent.fits, h]

theorem completeCycle_sound {outcome : CycleOutcome} {phase : String} {e : CycleEnd}
    (h : Working current s)
    (hfits : (CycleEvent.closed outcome e.experimentId).fits s.hypothesisOf
      (openCycle s.events) = true)
    (hneutral : (completedRecord current outcome phase e).state.halted = false →
      (completedRecord current outcome phase e).currentPhase = .cycleComplete) :
    Holds Sound (fun _ t => Sound t) (completeCycle input current outcome phase e) s := by
  have hsound : Sound (completed s current outcome phase e) := by
    obtain ⟨researchCycles, heq⟩ := completed_eq s current outcome phase e
    rw [heq]
    refine ⟨faithful_append h.faithful rfl (fun _ _ hof => hof) hfits,
      ⟨h.keyed.distinct, h.keyed.origin⟩, fun hlive => ?_⟩
    have hphase := hneutral hlive
    exact agrees_of_neutral (by rw [Store.happened_row, hphase]; simp)
      (by rw [Store.happened_row, hphase]; rfl)
  exact completeCycle_rule h.terminal h.toSound hsound hsound

/-- The run stops, with no experiment on record. -/
theorem stop_sound {reason : StopReason} {phase : String} {e : CycleEnd} (h : Working current s)
    (hnone : e.experimentId = none) :
    Holds Sound (fun _ t => Sound t) (stop input current reason phase e) s := by
  apply completeCycle_sound h
  · show (CycleEvent.closed _ e.experimentId).fits _ _ = true
    rw [hnone]
    exact fits_closed_of_stop (cycleOutcomeForStop_ne_continue reason)
  · intro hlive
    have hhalted := halted_orchestrationStateForStop reason
    exact absurd (hhalted.symm.trans hlive) (by simp)

/-- The run stops, with the experiment of the cycle on record. -/
theorem stop_sound_of_covers {reason : StopReason} {phase : String} {e : CycleEnd}
    (h : Working current s) (hsome : e.experimentId = some experimentId)
    (hcovers : s.covers experimentId = true) :
    Holds Sound (fun _ t => Sound t) (stop input current reason phase e) s := by
  apply completeCycle_sound h
  · show (CycleEvent.closed _ e.experimentId).fits _ _ = true
    rw [hsome]
    exact fits_closed_of_covers hcovers
  · intro hlive
    have hhalted := halted_orchestrationStateForStop reason
    exact absurd (hhalted.symm.trans hlive) (by simp)

theorem finishCycle_sound {phase : String} {e : CycleEnd} (h : Working current s)
    (hsome : e.experimentId = some experimentId) (hcovers : s.covers experimentId = true) :
    Holds Sound (fun _ t => Sound t) (finishCycle input current phase e) s := by
  unfold finishCycle
  dsimp only
  split
  · exact stop_sound_of_covers h hsome hcovers
  · apply completeCycle_sound h
    · show (CycleEvent.closed _ e.experimentId).fits _ _ = true
      rw [hsome]
      exact fits_closed_of_covers hcovers
    · exact fun _ => rfl

/-! ## The parts of a cycle -/

/-- A part that saves no row, and concerns at most the experiment of the
cycle. -/
theorem aside_working {α : Type} {p : Prog Store α} {concerned : Option Id}
    (hp : Keeps (Aside concerned) p) (h : Working current s)
    (hcovers : ∀ id, concerned = some id → s.covers id = true) :
    Holds Sound
      (fun _ t => Working current t ∧ openCycle t.events = openCycle s.events ∧
        Aside concerned s t) p s := by
  apply hp.rule Aside.refl (fun _ _ _ => Aside.trans) (fun t ha => h.toSound.aside ha hcovers)
  intro _ t ha
  exact ⟨⟨h.toSound.aside ha hcovers, by rw [ha.row]; exact h.live, h.runnable⟩,
    (aside_faithful h.faithful ha hcovers).2, ha⟩

theorem read_working {β : Type} {f : Store → β} (h : Sound s) :
    Holds Sound (fun b t => b = f s ∧ t = s) (Prog.read f) s :=
  holds_read h ⟨rfl, rfl⟩

theorem checkpoint_sound {c : Checkpoint} (h : Working current s)
    (hagrees : Agrees s (checkpointRecord current c)) :
    Holds Sound (fun r t => r = checkpointRecord current c ∧ t = s.saved r ∧ Working r t)
      (checkpoint input current c) s := by
  have hsaved := h.toSound.saved fun _ => hagrees
  exact checkpoint_rule h.terminal h.toSound hsaved ⟨rfl, rfl, hsaved, rfl, rfl⟩

/-- A checkpoint of a cycle that has its experiment. -/
theorem checkpoint_planned {c : Checkpoint} (experimentId : Id) (h : Working current s)
    (hphase : c.phase.planned = true) (hsome : c.experimentId = some experimentId)
    (hcovers : s.covers experimentId = true) :
    Holds Sound
      (fun r t => Working r t ∧ r.lastExperimentId = some experimentId ∧
        t.covers experimentId = true)
      (checkpoint input current c) s := by
  have hlast : (checkpointRecord current c).lastExperimentId = some experimentId := by
    simp [checkpointRecord, hsome, orElse]
  have hagrees : Agrees s (checkpointRecord current c) := by
    refine agrees_of_planned (fun hadmitted => ?_) hlast hcovers
    have heq : c.phase = .hypothesisAdmitted := hadmitted
    rw [heq] at hphase
    cases hphase
  apply (checkpoint_sound h hagrees).mono (fun _ ht => ht)
  rintro r t ⟨rfl, rfl, ht⟩
  exact ⟨ht, hlast, hcovers⟩

theorem execute_sound {plan : PlanRow} (h : Working current s)
    (hcovers : s.covers plan.experimentId = true) :
    Holds Sound (fun r t => Working r.1 t ∧ t.covers plan.experimentId = true)
      (execute input current plan) s := by
  unfold execute
  apply Holds.seq (aside_working (keeps_tx (failClosedExisting_aside plan.experimentId)) h nofun)
  rintro existing t ⟨ht, hopen, haside⟩
  have htcovers := covers_grown hopen haside.hypothesisOf hcovers
  split
  · exact ⟨ht, htcovers⟩
  · apply Holds.bind
    apply holds_commit ht.toSound
    intro u ⟨record, answer⟩ hcommit
    rcases authorize_eq_some hcommit with
      ⟨rfl, ⟨status, rfl⟩, haside⟩ | ⟨attemptId, v, rfl, rfl, -, haside, rfl⟩
    · have hu := ht.toSound.aside haside nofun
      have hopen := (aside_faithful ht.faithful haside nofun).2
      exact ⟨hu, ⟨hu, by rw [haside.row]; exact ht.live, ht.runnable⟩,
        covers_grown hopen haside.hypothesisOf htcovers⟩
    · have hv := ht.toSound.aside haside nofun
      have hopen := (aside_faithful ht.faithful haside nofun).2
      have hvcovers := covers_grown hopen haside.hypothesisOf htcovers
      have hu : Sound (v.saved (attemptRecord current attemptId plan.experimentId)) :=
        hv.saved fun _ => agrees_of_planned (by simp [attemptRecord]) rfl hvcovers
      have hwork : Working (attemptRecord current attemptId plan.experimentId)
          (v.saved (attemptRecord current attemptId plan.experimentId)) := ⟨hu, rfl, rfl⟩
      refine ⟨hu, ?_⟩
      have hmine : ∀ id, some plan.experimentId = some id →
          (v.saved (attemptRecord current attemptId plan.experimentId)).covers id = true := by
        rintro id ⟨⟩
        exact hvcovers
      apply Holds.seq (aside_working (keeps_dispatch attemptId plan.experimentId) hwork hmine)
      rintro status w ⟨hw, hopen, haside⟩
      exact ⟨hw, covers_grown hopen haside.hypothesisOf hvcovers⟩

theorem assess_sound (h : Working current s) (hcovers : s.covers experimentId = true) :
    Holds Sound (fun _ t => Working current t ∧ t.covers experimentId = true)
      (assess input experimentId) s := by
  have hmine : ∀ id, some experimentId = some id → s.covers id = true := by
    rintro id ⟨⟩
    exact hcovers
  apply (aside_working (keeps_assess experimentId) h hmine).mono (fun _ ht => ht)
  rintro _ t ⟨ht, hopen, haside⟩
  exact ⟨ht, covers_grown hopen haside.hypothesisOf hcovers⟩

theorem resumePlannedExperiment_sound (h : Working current s)
    (hlast : ∀ id, current.lastExperimentId = some id → s.covers id = true) :
    Holds Sound (fun _ t => Sound t) (resumePlannedExperiment input current) s := by
  unfold resumePlannedExperiment
  split
  · exact stop_sound h rfl
  next experimentId hid =>
  have hcovers := hlast experimentId hid
  apply Holds.seq (read_working h.toSound)
  rintro stored t ⟨hstored, rfl⟩
  split
  · exact stop_sound h rfl
  next plan =>
  have hplan : plan.experimentId = experimentId := by
    have hfound := List.find?_some hstored.symm
    simpa using hfound
  rw [← hplan] at hcovers
  apply Holds.seq (execute_sound h hcovers)
  rintro ⟨current, loop⟩ t ⟨ht, hcovers⟩
  rw [hplan] at hcovers
  dsimp only
  split
  · exact stop_sound_of_covers ht rfl hcovers
  · exact stop_sound_of_covers ht rfl hcovers
  · exact stop_sound_of_covers ht rfl hcovers
  · exact finishCycle_sound ht rfl hcovers
  · apply Holds.seq (assess_sound ht hcovers)
    rintro _ u ⟨hu, hcovers⟩
    exact finishCycle_sound hu rfl hcovers

/-! ## An experiment for the hypothesis of the cycle -/

/-- The open cycle has this hypothesis. -/
def Holding (s : Store) (hypothesisId : Id) : Prop :=
  ∃ c, openCycle s.events = some c ∧ c.hypothesisId = some hypothesisId

theorem Holding.covers (h : Holding s hypothesisId)
    (hof : s.hypothesisOf experimentId = some hypothesisId) : s.covers experimentId = true := by
  obtain ⟨c, hopen, hhyp⟩ := h
  exact covers_iff.mpr ⟨c, hypothesisId, hopen, hhyp, hof⟩

theorem Holding.of_eq (h : Holding s hypothesisId)
    (hopen : openCycle t.events = openCycle s.events) : Holding t hypothesisId := by
  unfold Holding
  rw [hopen]
  exact h

theorem lastBy_mem {α : Type} {key : α → Id} {items : List α} {item : α}
    (h : lastBy input key items = some item) : item ∈ items := by
  induction items with
  | nil => cases h
  | cons other items ih =>
    unfold lastBy at h
    split at h
    · cases h
      exact .head _
    next found hfound =>
      split at h
      · cases h
        exact .tail _ (ih hfound)
      · cases h
        exact .head _

/-- An experiment that is found for the hypothesis is about it. -/
theorem hypothesisOf_existingExperimentId (h : s.Keyed)
    (hfound : existingExperimentId input s hypothesisId = some experimentId) :
    s.hypothesisOf experimentId = some hypothesisId := by
  obtain ⟨item, hlast, rfl⟩ := Option.map_eq_some_iff.mp hfound
  have hmem := lastBy_mem hlast
  simp only [List.mem_filter, decide_eq_true_eq] at hmem
  rw [← hmem.2]
  exact h.hypothesisOf_of_mem hmem.1

theorem newExperimentId_sound {exploratory : Bool} (hypothesisId : Id)
    (h : Working current s) :
    Holds Sound
      (fun id t => Working current t ∧ openCycle t.events = openCycle s.events ∧
        t.IsNewFor id hypothesisId)
      (newExperimentId exploratory hypothesisId) s := by
  unfold newExperimentId
  split
  · exact ⟨h, rfl, Or.inl rfl⟩
  · apply holds_commit h.toSound
    rintro t id ⟨⟩
    have ht : Sound s.drawn := h.toSound.aside Store.aside_drawn nofun
    exact ⟨ht, ⟨ht, h.live, h.runnable⟩, rfl, h.keyed.isNewFor_drawn hypothesisId⟩

/-- A new experiment leaves those that are there about what they were. -/
theorem hypothesisOf_add {row : ExperimentRow} (hnone : s.experiment row.experimentId = none)
    (hexp : t.experiments = s.experiments ++ [row]) :
    (∀ id hyp, s.hypothesisOf id = some hyp → t.hypothesisOf id = some hyp) ∧
      t.hypothesisOf row.experimentId = some row.hypothesisId := by
  constructor
  · intro id hyp hof
    unfold Store.hypothesisOf Store.experiment at hof ⊢
    obtain ⟨item, hfound, hhyp⟩ := Option.map_eq_some_iff.mp hof
    rw [hexp, List.find?_append, hfound]
    exact congrArg some hhyp
  · unfold Store.hypothesisOf Store.experiment
    unfold Store.experiment at hnone
    rw [hexp, List.find?_append, hnone]
    simp

theorem keyed_add {row : ExperimentRow} (h : s.Keyed)
    (hnone : s.experiment row.experimentId = none)
    (hnew : s.IsNewFor row.experimentId row.hypothesisId)
    (hexp : t.experiments = s.experiments ++ [row]) (hnext : t.nextId = s.nextId) : t.Keyed := by
  constructor
  · rw [hexp, List.map_append, List.nodup_append]
    refine ⟨h.distinct, by simp, ?_⟩
    intro id hmem other hother heq
    simp only [List.map_cons, List.map_nil, List.mem_singleton] at hother
    obtain ⟨item, hitem, hid⟩ := List.mem_map.mp hmem
    have hne := List.find?_eq_none.mp hnone item hitem
    exact hne (by simp [hid, heq, hother])
  · intro item hmem
    rw [hexp] at hmem
    rw [hnext]
    rcases List.mem_append.mp hmem with hmem | hmem
    · exact h.origin item hmem
    · obtain rfl := List.mem_singleton.mp hmem
      exact hnew.imp_right fun hdrawn => hdrawn.1

theorem prepare_sound (plan : PlanRow) {hyp : Option Id} (h : Working current s)
    (hhold : Holding s plan.hypothesisId)
    (hnew : s.IsNewFor plan.experimentId plan.hypothesisId) :
    Holds Sound
      (fun r t => Working r t ∧ r.lastExperimentId = some plan.experimentId ∧
        t.covers plan.experimentId = true)
      (Prog.commit (prepare input current hyp plan)) s := by
  apply holds_commit h.toSound
  intro t record hprepared
  obtain ⟨-, -, rfl, hstored | hstored⟩ := prepare_eq_some hprepared
  · -- the experiment is there already, so it has come from the hypothesis
    obtain ⟨hsome, rfl⟩ := hstored
    obtain ⟨row, hrow⟩ := Option.isSome_iff_exists.mp hsome
    have hcovers := hhold.covers (h.keyed.hypothesisOf_of_isNewFor hnew hrow)
    have ht : Sound (s.saved (preparedRecord current hyp plan)) :=
      h.toSound.saved fun _ => agrees_of_planned (by simp [preparedRecord]) rfl hcovers
    exact ⟨ht, ⟨ht, h.runnable, h.runnable⟩, rfl, hcovers⟩
  · obtain ⟨hnone, rfl⟩ := hstored
    generalize htake : ({ s with
        row := preparedRecord current hyp plan
        experiments := s.experiments ++ [⟨plan.experimentId, plan.hypothesisId, .planned⟩]
        experimentPlans := s.experimentPlans ++ [plan] } : Store) = t
    have hrow : t.row = preparedRecord current hyp plan := by rw [← htake]
    have hevents : t.events = s.events := by rw [← htake]
    have hexp : t.experiments = s.experiments ++
        [⟨plan.experimentId, plan.hypothesisId, .planned⟩] := by rw [← htake]
    obtain ⟨hgrown, hof⟩ := hypothesisOf_add hnone hexp
    have hcovers := (hhold.of_eq (t := t) (by rw [hevents])).covers hof
    have ht : Sound t := by
      refine ⟨?_, keyed_add h.keyed hnone hnew hexp (by rw [← htake]), fun _ => ?_⟩
      · unfold Store.faithful
        rw [hevents]
        exact faithfulFrom_mono hgrown h.faithful
      · rw [hrow]
        exact agrees_of_planned (by simp [preparedRecord]) rfl hcovers
    exact ⟨ht, ⟨ht, by rw [hrow]; exact h.runnable, h.runnable⟩, rfl, hcovers⟩

theorem resumeAdmittedHypothesis_sound (h : Working current s)
    (hhold : ∀ hypothesisId, current.lastHypothesisId = some hypothesisId →
      Holding s hypothesisId)
    (hlast : ∀ id, current.lastExperimentId = some id → s.covers id = true) :
    Holds Sound (fun _ t => Sound t) (resumeAdmittedHypothesis input current) s := by
  unfold resumeAdmittedHypothesis
  split
  · exact stop_sound h rfl
  next hypothesisId hhyp =>
  have hhold := hhold hypothesisId hhyp
  apply Holds.seq (read_working h.toSound)
  rintro existing t ⟨hexisting, rfl⟩
  split
  · apply Holds.seq (read_working h.toSound)
    rintro exploratory t ⟨-, rfl⟩
    apply Holds.seq (newExperimentId_sound hypothesisId h)
    rintro experimentId u ⟨hu, hopen, hnew⟩
    split
    · trivial
    next level _ =>
    apply Holds.seq (prepare_sound ⟨experimentId, hypothesisId, level⟩ hu
      (hhold.of_eq hopen) hnew)
    rintro record v ⟨hv, hrecorded, hcovers⟩
    apply resumePlannedExperiment_sound hv
    intro id hid
    rw [hrecorded] at hid
    cases hid
    exact hcovers
  next experimentId heither =>
  have hcovers : t.covers experimentId = true := by
    rcases Option.or_eq_some_iff.mp heither with hrow | ⟨-, hfound⟩
    · exact hlast experimentId hrow
    · exact hhold.covers
        (hypothesisOf_existingExperimentId h.keyed (hexisting.symm.trans hfound))
  split
  · exact resumePlannedExperiment_sound h hlast
  · apply Holds.seq (checkpoint_planned experimentId h rfl rfl hcovers)
    rintro record u ⟨hu, hrecorded, hcovers⟩
    apply resumePlannedExperiment_sound hu
    intro id hid
    rw [hrecorded] at hid
    cases hid
    exact hcovers

theorem assessRecorded_sound (h : Working current s)
    (hlast : current.lastExperimentId = some experimentId)
    (hcovers : s.covers experimentId = true) :
    Holds Sound
      (fun r t => Working r t ∧ r.lastExperimentId = some experimentId ∧
        t.covers experimentId = true)
      (assessRecorded input current) s := by
  have hassess : Holds Sound
      (fun r t => Working r t ∧ r.lastExperimentId = some experimentId ∧
        t.covers experimentId = true)
      (do
        let assessmentId ← assess input experimentId
        checkpoint input current
          { Checkpoint.at .assessmentComplete with
            experimentId := some experimentId, assessmentId := some assessmentId }) s := by
    apply Holds.seq (assess_sound h hcovers)
    rintro assessmentId t ⟨ht, hcovers⟩
    exact checkpoint_planned experimentId ht rfl rfl hcovers
  unfold assessRecorded
  split
  next id hid _ =>
    rw [hlast] at hid
    cases hid
    exact hassess
  next id hid _ =>
    rw [hlast] at hid
    cases hid
    exact hassess
  · exact ⟨h, hlast, hcovers⟩

theorem resumeAfterWorker_sound (h : Working current s)
    (hlast : current.lastExperimentId = some experimentId)
    (hcovers : s.covers experimentId = true) :
    Holds Sound (fun _ t => Sound t) (resumeAfterWorker input current) s := by
  unfold resumeAfterWorker
  apply Holds.seq (assessRecorded_sound h hlast hcovers)
  rintro record t ⟨ht, hlast, hcovers⟩
  exact finishCycle_sound ht hlast hcovers

theorem recordResult_sound {loop : LoopOutcome} (h : Working current s)
    (hcovers : s.covers experimentId = true) :
    Holds Sound (fun r t => Working r t ∧ t.covers experimentId = true)
      (recordResult input current experimentId hypothesisId loop) s := by
  unfold recordResult
  apply Holds.seq (checkpoint_planned experimentId h rfl rfl hcovers)
  rintro r t ⟨ht, -, hcovers⟩
  apply Holds.seq (checkpoint_planned experimentId ht rfl rfl hcovers)
  rintro r u ⟨hu, -, hcovers⟩
  apply Holds.seq (assess_sound hu hcovers)
  rintro assessmentId v ⟨hv, hcovers⟩
  apply (checkpoint_planned experimentId hv rfl rfl hcovers).mono
    (fun _ ht => ht)
  rintro r w ⟨hw, -, hcovers⟩
  exact ⟨hw, hcovers⟩

theorem executePlanned_sound {plan : PlanRow} {opportunityId : Option Id}
    (h : Working current s) (hcovers : s.covers plan.experimentId = true) :
    Holds Sound (fun _ t => Sound t) (executePlanned input current opportunityId plan) s := by
  unfold executePlanned
  apply Holds.seq (checkpoint_planned plan.experimentId h rfl rfl hcovers)
  rintro r t ⟨ht, -, hcovers⟩
  apply Holds.seq (execute_sound ht hcovers)
  rintro ⟨r, loop⟩ u ⟨hu, hcovers⟩
  have hrecord : Holds Sound (fun _ t => Sound t)
      (do
        let current ← recordResult input r plan.experimentId plan.hypothesisId loop
        finishCycle input current "execute" { CycleEnd.default with
          hypothesisId := some plan.hypothesisId
          experimentId := some plan.experimentId
          opportunityId := opportunityId }) u := by
    apply Holds.seq (recordResult_sound hu hcovers)
    rintro r v ⟨hv, hcovers⟩
    exact finishCycle_sound hv rfl hcovers
  dsimp only
  split
  · exact stop_sound_of_covers hu rfl hcovers
  · exact stop_sound_of_covers hu rfl hcovers
  · exact stop_sound_of_covers hu rfl hcovers
  · exact hrecord
  · exact hrecord
  · exact hrecord
  · exact finishCycle_sound hu rfl hcovers

theorem planCycle_sound {opportunityId : Option Id} {level : Nat} (h : Working current s)
    (hhold : Holding s hypothesisId) :
    Holds Sound (fun _ t => Sound t)
      (planCycle input current opportunityId hypothesisId level) s := by
  unfold planCycle
  split
  · exact stop_sound h rfl
  · apply Holds.seq (read_working h.toSound)
    rintro existing t ⟨hexisting, rfl⟩
    split
    next experimentId =>
      have hcovers := hhold.covers (hypothesisOf_existingExperimentId h.keyed hexisting.symm)
      apply Holds.seq (checkpoint_planned experimentId h rfl rfl hcovers)
      rintro r u ⟨hu, hrecorded, hcovers⟩
      apply resumePlannedExperiment_sound hu
      intro id hid
      rw [hrecorded] at hid
      cases hid
      exact hcovers
    · apply Holds.seq (read_working h.toSound)
      rintro exploratory t ⟨-, rfl⟩
      apply Holds.seq (newExperimentId_sound hypothesisId h)
      rintro experimentId u ⟨hu, hopen, hnew⟩
      apply Holds.seq (prepare_sound ⟨experimentId, hypothesisId, level⟩ hu
        (hhold.of_eq hopen) hnew)
      rintro r v ⟨hv, -, hcovers⟩
      exact executePlanned_sound hv hcovers

/-! ## A hypothesis for the opportunity of the cycle -/

/-- The open cycle has its opportunity, and no hypothesis yet. -/
structure Choosing (s : Store) (opportunityId : Option Id) : Prop where
  phase : s.row.currentPhase = .opportunitySelected
  cycle : ∃ c, openCycle s.events = some c ∧ c.opportunityId = opportunityId ∧
    c.hypothesisId = none

/-- Nothing that the history and the row speak of has changed. -/
theorem Sound.same (h : Sound s) (hrow : t.row = s.row) (hevents : t.events = s.events)
    (hexp : t.experiments = s.experiments) (hnext : t.nextId = s.nextId) : Sound t := by
  have hof : t.hypothesisOf = s.hypothesisOf := by
    funext id
    unfold Store.hypothesisOf Store.experiment
    rw [hexp]
  refine ⟨?_, ⟨by rw [hexp]; exact h.keyed.distinct, by rw [hexp, hnext]; exact h.keyed.origin⟩,
    fun hlive => ?_⟩
  · unfold Store.faithful
    rw [hof, hevents]
    exact h.faithful
  · rw [hrow] at hlive ⊢
    exact (h.agrees hlive).grown (by rw [hevents]) (by rw [hof]; exact fun _ _ hid => hid)

theorem Choosing.same {opportunityId : Option Id} (h : Choosing s opportunityId)
    (hrow : t.row = s.row) (hevents : t.events = s.events) : Choosing t opportunityId := by
  refine ⟨by rw [hrow]; exact h.phase, ?_⟩
  rw [hevents]
  exact h.cycle

variable {opportunityId : Option Id} {cycleId : Id}

/-- **A call of the model** is no event of the cycle. -/
theorem complete_choosing {port : BudgetEnforcedModelPort} {role : ModelRole}
    {reply : ModelReply} (h : Working current s) (hc : Choosing s opportunityId) :
    Holds Sound (fun _ t => Working current t ∧ Choosing t opportunityId)
      (complete port role reply) s := by
  apply complete_rule h.toSound
  · exact fun _ _ _ _ => ⟨h, hc⟩
  · intro _ ledger _
    refine ⟨h.toSound.same rfl rfl rfl rfl, ?_⟩
    rintro t rfl
    refine ⟨h.toSound.same rfl rfl rfl rfl, fun _ _ _ => ⟨?_, hc.same rfl rfl⟩⟩
    exact ⟨h.toSound.same rfl rfl rfl rfl, h.live, h.runnable⟩

/-- How the proposal of a cycle leaves it: with a hypothesis, with a proposal
that was not admitted, or about to stop the run. -/
def ProposedFor (r : ResearchOrchestrationRecord × Proposed) (s : Store) : Prop :=
  Working r.1 s ∧
    match r.2 with
    | .admitted hypothesisId _ => Holding s hypothesisId
    | .notAdmitted => ∃ c, openCycle s.events = some c ∧ c.declined = true ∧ c.hypothesisId = none
    | .budgetRejected | .invocationFailed _ => True

theorem persistNotAdmitted_sound (h : Working current s) (hc : Choosing s opportunityId) :
    Working current (persistNotAdmitted s) ∧
      ∃ c, openCycle (persistNotAdmitted s).events = some c ∧ c.declined = true ∧
        c.hypothesisId = none := by
  obtain ⟨c, hopen, -, hnone⟩ := hc.cycle
  have hsound : Sound (persistNotAdmitted s) := by
    refine ⟨faithful_append h.faithful rfl (fun _ _ hid => hid) (by rw [hopen]; rfl),
      ⟨h.keyed.distinct, h.keyed.origin⟩, fun _ => ?_⟩
    have hphase : (persistNotAdmitted s).row.currentPhase = .opportunitySelected := hc.phase
    exact agrees_of_neutral (by rw [hphase]; simp) (by rw [hphase]; rfl)
  refine ⟨⟨hsound, h.live, h.runnable⟩, { c with declined := true }, ?_, rfl, hnone⟩
  show openCycle (s.events ++ [.notAdmitted]) = _
  rw [openCycle_snoc, hopen]
  rfl

theorem persistHypothesis_sound {row : HypothesisRow} (h : Working current s)
    (hc : Choosing s opportunityId) :
    Holds Sound (fun r t => Working r t ∧ Holding t row.hypothesisId)
      (Prog.commit (persistHypothesis input current opportunityId cycleId row)) s := by
  apply holds_commit h.toSound
  intro t record hpersisted
  obtain ⟨-, rfl, hypotheses, -, rfl⟩ := persistHypothesis_eq_some hpersisted
  obtain ⟨c, hopen, hopp, -⟩ := hc.cycle
  have hafter : openCycle (s.events ++ [.admitted opportunityId row.hypothesisId]) =
      some { c with hypothesisId := some row.hypothesisId } := by
    rw [openCycle_snoc, hopen]
    rfl
  have hsound : Sound (Store.happened
      { s with
        row := hypothesisRecord current opportunityId cycleId row.hypothesisId
        hypotheses := hypotheses }
      (.admitted opportunityId row.hypothesisId)) := by
    refine ⟨faithful_append h.faithful rfl (fun _ _ hid => hid) ?_,
      ⟨h.keyed.distinct, h.keyed.origin⟩, fun _ => ⟨fun _ => ?_, fun hplanned => ?_⟩⟩
    · rw [hopen]
      simpa [CycleEvent.fits] using hopp
    · exact ⟨_, row.hypothesisId, hafter, rfl, rfl⟩
    · cases hplanned
  exact ⟨hsound, ⟨hsound, rfl, rfl⟩, _, hafter, rfl⟩

theorem aside_choosing {α : Type} {p : Prog Store α} (hp : Keeps (Aside none) p)
    (h : Working current s) (hc : Choosing s opportunityId) :
    Holds Sound (fun _ t => Working current t ∧ Choosing t opportunityId) p s := by
  apply (aside_working hp h nofun).mono (fun _ ht => ht)
  rintro _ t ⟨ht, hopen, haside⟩
  refine ⟨ht, by rw [haside.row]; exact hc.phase, ?_⟩
  rw [hopen]
  exact hc.cycle

theorem persistProposal_sound (h : Working current s) (hc : Choosing s opportunityId) :
    Holds Sound ProposedFor (persistProposal input current opportunityId cycleId) s := by
  unfold persistProposal
  split
  · obtain ⟨hsound, hdeclined⟩ := persistNotAdmitted_sound h hc
    exact ⟨hsound.toSound, hsound, hdeclined⟩
  · apply Holds.seq (aside_choosing keeps_newOpaqueId h hc)
    rintro hypothesisId t ⟨ht, htc⟩
    exact Holds.seq (persistHypothesis_sound ht htc) fun _ _ hu => hu

theorem persistFailure_sound {outcome : CallOutcome} (h : Working current s)
    (hc : Choosing s opportunityId) :
    Holds Sound ProposedFor (persistFailure current outcome) s := by
  obtain ⟨hsound, hdeclined⟩ := persistNotAdmitted_sound h hc
  unfold persistFailure
  split
  · exact ⟨h, trivial⟩
  · exact ⟨hsound.toSound, hsound, trivial⟩
  · exact ⟨hsound.toSound, hsound, hdeclined⟩

theorem proposeByModel_sound (h : Working current s) (hc : Choosing s opportunityId) :
    Holds Sound ProposedFor (proposeByModel input current opportunityId cycleId) s := by
  unfold proposeByModel
  apply Holds.seq (complete_choosing h hc)
  rintro ⟨port, generated⟩ t ⟨ht, htc⟩
  dsimp only
  split
  · exact persistFailure_sound ht htc
  · apply Holds.seq (complete_choosing ht htc)
    rintro ⟨port, challenged⟩ u ⟨hu, huc⟩
    dsimp only
    split
    · exact persistFailure_sound hu huc
    · exact persistProposal_sound hu huc

theorem admitRegistryExternal_sound {opportunity : OpportunityRow} (h : Working current s)
    (hc : Choosing s (some opportunity.opportunityId)) :
    Holds Sound ProposedFor (admitRegistryExternal input current cycleId opportunity) s := by
  unfold admitRegistryExternal
  split
  · trivial
  next origin =>
    apply Holds.seq (read_working h.toSound)
    rintro existing t ⟨-, rfl⟩
    split
    · obtain ⟨hsound, hdeclined⟩ := persistNotAdmitted_sound h hc
      exact ⟨hsound.toSound, hsound, hdeclined⟩
    · have htaken : Keeps (Aside none) (takenUp existing) := by
        cases existing with
        | some row => exact keeps_pure
        | none => exact keeps_newOpaqueId
      apply Holds.seq (aside_choosing htaken h hc)
      rintro hypothesisId u ⟨hu, huc⟩
      exact Holds.seq (persistHypothesis_sound hu huc) fun _ _ hv => hv

theorem propose_sound (h : Working current s) (hc : Choosing s opportunityId) :
    Holds Sound ProposedFor (propose input current opportunityId cycleId) s := by
  unfold propose
  split
  · exact proposeByModel_sound h hc
  next opportunityId =>
    apply Holds.seq (read_working h.toSound)
    rintro found t ⟨hfound, rfl⟩
    split
    · trivial
    next opportunity =>
      have hid : opportunity.opportunityId = opportunityId := by
        simpa using List.find?_some hfound.symm
      split
      · rw [← hid] at hc
        exact admitRegistryExternal_sound h hc
      · exact proposeByModel_sound h hc

theorem proposeCycle_sound (h : Working current s) (hc : Choosing s opportunityId) :
    Holds Sound (fun _ t => Sound t) (proposeCycle input current opportunityId cycleId) s := by
  unfold proposeCycle
  apply Holds.seq (propose_sound h hc)
  rintro ⟨r, proposed⟩ t ⟨ht, hended⟩
  cases proposed with
  | budgetRejected => exact stop_sound ht rfl
  | invocationFailed outcome => exact stop_sound ht rfl
  | notAdmitted =>
    obtain ⟨c, hopen, hdeclined, hnone⟩ := hended
    apply completeCycle_sound ht
    · rw [hopen]
      simp [CycleEnd.default, CycleEvent.fits, hdeclined, hnone]
    · exact fun _ => rfl
  | admitted hypothesisId level => exact planCycle_sound ht hended

/-! ## A cycle -/

theorem keeps_activeCycle (current : ResearchOrchestrationRecord) :
    Keeps (Aside none) (activeCycle current) := by
  unfold activeCycle
  split
  · exact keeps_pure
  · exact keeps_newOpaqueId

/-- The selection opens a cycle, if none is open. -/
theorem selectOpportunities_sound (input : StepInput) (bounds : OrchestrationBounds)
    (h : Working current s)
    (hadmitted : s.row.currentPhase ≠ .hypothesisAdmitted)
    (hplanned : s.row.currentPhase.planned = false) (hnone : openCycle s.events = none) :
    Working current (selectOpportunities input bounds s).1 ∧
      openCycle (selectOpportunities input bounds s).1.events =
        some ⟨(selectOpportunities input bounds s).2.head?, none, false⟩ := by
  have hsound : Sound (selectOpportunities input bounds s).1 := by
    refine ⟨faithful_append h.faithful rfl (fun _ _ hid => hid) (by rw [hnone]; rfl),
      ⟨h.keyed.distinct, h.keyed.origin⟩, fun _ => ?_⟩
    exact agrees_of_neutral hadmitted hplanned
  refine ⟨⟨hsound, h.live, h.runnable⟩, ?_⟩
  show openCycle (s.events ++ [_]) = _
  rw [openCycle_snoc]
  rfl

theorem selectCycle_sound (h : Working current s)
    (hadmitted : s.row.currentPhase ≠ .hypothesisAdmitted)
    (hplanned : s.row.currentPhase.planned = false) (hnone : openCycle s.events = none) :
    Holds Sound (fun _ t => Sound t) (selectCycle input current) s := by
  unfold selectCycle
  obtain ⟨hselected, hopen⟩ := selectOpportunities_sound input
    current.bounds h hadmitted hplanned hnone
  generalize hs : selectOpportunities input current.bounds s = selection at hselected hopen
  obtain ⟨t, selected⟩ := selection
  apply Holds.bind
  refine ⟨by rw [hs]; exact hselected.toSound, ?_⟩
  rw [hs]
  dsimp only at hselected hopen ⊢
  apply Holds.seq (read_working hselected.toSound)
  rintro next u ⟨-, rfl⟩
  split
  · exact stop_sound hselected rfl
  · apply Holds.seq (aside_working (keeps_activeCycle current) hselected nofun)
    rintro cycleId v ⟨hv, hsame, -⟩
    have hagrees : Agrees v (checkpointRecord current
        { Checkpoint.at .opportunitySelected with
          opportunityId := selected.head?, activeCycleId := some cycleId }) :=
      agrees_of_neutral (by simp [checkpointRecord, Checkpoint.at]) rfl
    apply Holds.seq (checkpoint_sound hv hagrees)
    rintro r w ⟨rfl, rfl, hw⟩
    exact proposeCycle_sound hw ⟨rfl, _, hsame.trans hopen, rfl, rfl⟩

/-- A step past its resume branches: the phase is one in which an opportunity is
selected, or is to be selected. -/
theorem cycle_sound (h : Working s.row s)
    (hadmitted : s.row.currentPhase ≠ .hypothesisAdmitted)
    (hplanned : s.row.currentPhase.planned = false)
    (hchoosing : checkOrchestrationBounds s.row.bounds (s.usage s.row input.elapsedMs.1) = none →
      s.row.currentPhase = .opportunitySelected → Choosing s s.row.lastOpportunityId)
    (hnone : checkOrchestrationBounds s.row.bounds (s.usage s.row input.elapsedMs.1) = none →
      s.row.currentPhase ≠ .opportunitySelected → routingStop input.routing = none →
        openCycle s.events = none) :
    Holds Sound (fun _ t => Sound t) (cycle input s.row) s := by
  unfold cycle
  apply Holds.seq (read_working h.toSound)
  rintro bound t ⟨hbound, rfl⟩
  split
  · exact stop_sound h rfl
  · have hsaved : Sound (t.saved (runningRecord t.row)) :=
      h.toSound.saved fun _ => agrees_of_neutral hadmitted hplanned
    have hrunning : Working (runningRecord t.row) (t.saved (runningRecord t.row)) :=
      ⟨hsaved, rfl, rfl⟩
    apply Holds.bind
    apply markRunning_rule h.toSound hsaved
    apply Holds.bind
    refine holds_read hsaved ?_
    split
    next hphase =>
      obtain ⟨-, hcycle⟩ := hchoosing hbound.symm hphase
      apply Holds.seq (aside_choosing (keeps_activeCycle _) hrunning ⟨hphase, hcycle⟩)
      rintro cycleId u ⟨hu, huc⟩
      exact proposeCycle_sound hu huc
    next hphase =>
      split
      · exact stop_sound hrunning rfl
      next hrouting =>
        exact selectCycle_sound hrunning hadmitted hplanned
          (hnone hbound.symm hphase hrouting)

/-- The attempt that an earlier call has left authorized. -/
theorem resumeAuthorized_sound (h : Working current s)
    (hattempt : ∀ attempt, openAttempt input s = .authorized attempt → input.rebuilt = .built →
      s.covers attempt.experimentId = true) :
    Holds Sound
      (fun r t => Sound t ∧ (r = none → t = s ∧ openAttempt input s = .none))
      (resumeAuthorized input current) s := by
  have hstop : ∀ {t : Store} {reason : StopReason} {phase : String} {e : CycleEnd},
      Holds Sound (fun _ t => Sound t) (stop input current reason phase e) t →
      Holds Sound (fun r u => Sound u ∧ (r = none → u = s ∧ openAttempt input s = .none))
        (do return some (← stop input current reason phase e)) t := by
    intro t reason phase e hstopped
    apply Holds.seq hstopped
    exact fun _ u hu => ⟨hu, nofun⟩
  unfold resumeAuthorized
  apply Holds.seq (read_working h.toSound)
  rintro ⟨found, row⟩ t ⟨hfound, rfl⟩
  obtain ⟨rfl, hrow⟩ := Prod.mk.inj hfound
  split
  · exact hstop (stop_sound h rfl)
  next hnone => exact ⟨h.toSound, fun _ => ⟨rfl, congrArg Prod.fst hnone⟩⟩
  · exact hstop (stop_sound h rfl)
  next attempt experiment hboth =>
    obtain ⟨hattempted, hfiltered⟩ := Prod.mk.inj hboth
    rw [hattempted, hfiltered] at hrow
    have hexperiment := (Option.filter_eq_some_iff.mp hrow.symm).1
    have hid : experiment.experimentId = attempt.experimentId := by
      simpa using List.find?_some hexperiment
    split
    · exact hstop (stop_sound h rfl)
    · trivial
    next hbuilt =>
      have hcovers := hattempt attempt hattempted hbuilt
      rw [← hid] at hcovers
      have hmine : ∀ id, some experiment.experimentId = some id → t.covers id = true := by
        rintro id ⟨⟩
        exact hcovers
      apply Holds.seq (aside_working (keeps_dispatch attempt.attemptId experiment.experimentId)
        h hmine)
      rintro status u ⟨hu, hopen, haside⟩
      have hcovers := covers_grown hopen haside.hypothesisOf hcovers
      split
      · exact hstop (stop_sound_of_covers hu rfl hcovers)
      · apply Holds.seq (completeCycle_sound hu (fits_closed_of_covers hcovers) fun _ => rfl)
        exact fun _ v hv => ⟨hv, nofun⟩

theorem resumePhase_sound (h : Working s.row s) (hdispatching : s.row.currentPhase ≠ .dispatching)
    (hcond : resumesPhaseSafely input s = true) :
    Holds Sound (fun _ t => Sound t) (resumePhase input s.row) s := by
  have hagrees := h.agrees h.live
  -- the cycle of these phases has its experiment
  have hexperiment : s.row.currentPhase.planned = true →
      Holds Sound (fun _ t => Sound t)
        (if s.row.lastExperimentId.isSome then resumePlannedExperiment input s.row
          else cycle input s.row) s ∧
      Holds Sound (fun _ t => Sound t)
        (if s.row.lastExperimentId.isSome then resumeAfterWorker input s.row
          else cycle input s.row) s := by
    intro hplanned
    obtain ⟨experimentId, hlast, hcovers⟩ := hagrees.planned hplanned
    have hsome : s.row.lastExperimentId.isSome = true := by rw [hlast]; rfl
    rw [if_pos hsome, if_pos hsome]
    refine ⟨resumePlannedExperiment_sound h fun id hid => ?_,
      resumeAfterWorker_sound h hlast hcovers⟩
    rw [hlast] at hid
    cases hid
    exact hcovers
  -- the cycle of these is to select its opportunity
  have hselects : s.row.currentPhase = .cycleReady ∨ s.row.currentPhase = .cycleComplete →
      Holds Sound (fun _ t => Sound t) (cycle input s.row) s := by
    intro hphase
    have hsafe : (checkOrchestrationBounds s.row.bounds
        (s.usage s.row input.elapsedMs.1)).isSome = true ∨
        (routingStop input.routing).isSome = true ∨ openCycle s.events = none := by
      rcases hphase with hphase | hphase <;>
        simpa [resumesPhaseSafely, hphase, or_assoc] using hcond
    apply cycle_sound h
    · rcases hphase with hphase | hphase <;> rw [hphase] <;> simp
    · rcases hphase with hphase | hphase <;> rw [hphase] <;> rfl
    · intro _ hselected
      rcases hphase with hphase | hphase <;> rw [hphase] at hselected <;> cases hselected
    · intro hbound _ hrouting
      rcases hsafe with hsafe | hsafe | hsafe
      · rw [hbound] at hsafe; cases hsafe
      · rw [hrouting] at hsafe; cases hsafe
      · exact hsafe
  unfold resumePhase
  cases hphase : s.row.currentPhase with
  | hypothesisAdmitted =>
    obtain ⟨c, hypothesisId, hopen, hhyp, hlast⟩ := hagrees.admitted hphase
    dsimp only
    rw [if_pos (by rw [hlast]; rfl)]
    apply resumeAdmittedHypothesis_sound h
    · intro id hid
      rw [hlast] at hid
      cases hid
      exact ⟨c, hopen, hhyp⟩
    · intro id hid
      simpa [resumesPhaseSafely, hphase, hid] using hcond
  | opportunitySelected =>
    simp only [resumesPhaseSafely, hphase, Bool.and_eq_true, Option.isNone_iff_eq_none,
      Bool.or_eq_true] at hcond
    obtain ⟨hnone, hsafe⟩ := hcond
    dsimp only
    apply Holds.seq (read_working h.toSound)
    rintro existing t ⟨hexisting, rfl⟩
    rw [hnone] at hexisting
    subst hexisting
    apply cycle_sound h
    · rw [hphase]; simp
    · rw [hphase]; rfl
    · intro hbound _
      rw [hbound] at hsafe
      rcases hsafe with hsafe | hsafe
      · cases hsafe
      · obtain ⟨c, hopen, hc⟩ := Option.any_eq_true _ _ |>.mp hsafe
        simp only [Bool.and_eq_true, decide_eq_true_eq, Option.isNone_iff_eq_none] at hc
        exact ⟨hphase, c, hopen, hc⟩
    · exact fun _ hother => absurd hphase hother
  | experimentPlanned => exact (hexperiment (by rw [hphase]; rfl)).1
  | authorizationRequested => exact (hexperiment (by rw [hphase]; rfl)).1
  | attemptAuthorized => exact (hexperiment (by rw [hphase]; rfl)).1
  | workerResultRecorded => exact (hexperiment (by rw [hphase]; rfl)).2
  | transitionAComplete => exact (hexperiment (by rw [hphase]; rfl)).2
  | assessmentComplete => exact (hexperiment (by rw [hphase]; rfl)).2
  | transitionBComplete => exact (hexperiment (by rw [hphase]; rfl)).2
  | dispatching => exact absurd hphase hdispatching
  | cycleReady => exact hselects (Or.inl hphase)
  | cycleComplete => exact hselects (Or.inr hphase)

theorem stepSurfaceDiscovery_sound {discovery : SurfaceDiscovery} (h : Working current s)
    (hnone : s.unknownOpen = false → openCycle s.events = none) :
    Holds Sound (fun _ t => Sound t) (stepSurfaceDiscovery input discovery current) s := by
  unfold stepSurfaceDiscovery
  apply Holds.seq (read_working h.toSound)
  rintro unknown t ⟨hunknown, rfl⟩
  split
  · exact stop_sound h rfl
  next hknown =>
    have hnone := hnone (by rw [← hunknown]; simpa using hknown)
    apply Holds.seq (aside_working (keeps_external discovery.effects) h nofun)
    rintro _ u ⟨hu, hopen, -⟩
    have hclosed := hopen.trans hnone
    -- no cycle is open that the end could be at odds with
    have hfits : ∀ outcome experimentId,
        (CycleEvent.closed outcome experimentId).fits u.hypothesisOf (openCycle u.events) =
          true := by
      intro outcome experimentId
      rw [hclosed]
      cases outcome <;> cases experimentId <;> rfl
    split
    next reason _ =>
      apply completeCycle_sound hu (hfits _ _)
      intro hlive
      have hhalted := halted_orchestrationStateForStop reason.reason.1
      exact absurd (hhalted.symm.trans hlive) (by simp)
    · exact completeCycle_sound hu (hfits _ _) fun _ => rfl

theorem step_sound (h : Sound s) (hcond : resumesSafely input s = true) :
    Holds Sound (fun _ t => Sound t) (step input) s := by
  unfold step
  apply Holds.seq (read_working h)
  rintro current t ⟨rfl, rfl⟩
  split
  · exact h
  next hrunnable =>
    have hlive : t.row.state.halted = false := by simpa using hrunnable
    have hwork : Working t.row t := ⟨h, hlive, hlive⟩
    unfold resumesSafely at hcond
    rw [hlive, Bool.false_or] at hcond
    unfold stepRunnable
    split
    next discovery hsurface =>
      apply stepSurfaceDiscovery_sound hwork
      intro hknown
      simpa [hknown, hsurface] using hcond
    next hsurface =>
      apply Holds.seq (read_working h)
      rintro unknown u ⟨rfl, rfl⟩
      split
      · exact stop_sound hwork rfl
      next hknown =>
        simp only [not_or, Bool.not_eq_true] at hknown
        simp only [hknown.2, hsurface, Bool.false_or] at hcond
        apply Holds.seq (resumeAuthorized_sound hwork ?_)
        · rintro resumed v ⟨hv, hresumed⟩
          split
          · exact hv
          · obtain ⟨rfl, hattempt⟩ := hresumed rfl
            rw [hattempt] at hcond
            exact resumePhase_sound hwork hknown.1 hcond
        · intro attempt hattempt hbuilt
          simpa [hattempt, hbuilt] using hcond

/-! ## Runs -/

theorem Started.sound (h : Started s) : Sound s := by
  obtain ⟨bounds, budgetId, hrow⟩ := h.row
  refine ⟨by simp [Store.faithful, h.events, faithfulFrom], h.keyed, fun _ => ?_⟩
  rw [hrow]
  exact agrees_of_neutral (by simp [startRecord]) rfl

/-- **One call**, stopped anywhere. -/
theorem call_sound {tick : Tick} (h : Call s tick t) (hcond : resumesSafely tick.input s = true)
    (hs : Sound s) : Sound t :=
  ((step_sound hs hcond).sound hs h.1).1

/-- **Cycles are resumed as they were begun.**  As long as every call takes up
nothing but what is of the open cycle, whatever is executed and assessed is about
the hypothesis of its cycle, that hypothesis is for the opportunity the cycle has
selected, and no opportunity is dropped. -/
theorem run_faithful {es : List Tick} (hs : Started s)
    (hrun : Run (Guarded Call fun s tick => resumesSafely tick.input s = true) s es t) :
    t.faithful = true := by
  have hend : Sound t :=
    hrun.invariant (fun _ _ _ hcall hI => call_sound hcall.1 hcall.2 hI) hs.sound
  exact hend.faithful

/-- The first cycle is stopped once its hypothesis is admitted, and resumed. -/
theorem run_faithful_resumed :
    (stepped smoothInput (crashed 16 smoothInput (freshStore (roomyBounds 3 9)))).faithful =
      true :=
  run_faithful (freshStore_started (roomyBounds 3 9))
    (((Run.nil _).snoc ⟨call_crashed 16 smoothInput _, by decide⟩).snoc
      ⟨call_stepped smoothInput _, by decide⟩)

/-- The second cycle is stopped once its hypothesis is admitted.  The call that
resumes it assesses the experiment of the first cycle once more, and that is the
end of the cycle. -/
theorem earlier_experiment_assessed : ∃ (s t : Store) (es : List Tick) (hypothesisId : Id),
    Started s ∧ Run Call s es t ∧
      t.events.drop 5 = [.selected none, .admitted none hypothesisId, .assessed 4,
        .closed .continue (some 4)] ∧
      t.hypothesisOf 4 ≠ some hypothesisId ∧ t.faithful = false := by
  refine ⟨freshStore (roomyBounds 3 9), _, _, 10, freshStore_started _,
    (((Run.nil _).snoc (call_stepped smoothInput _)).snoc (call_crashed 16 smoothInput _)).snoc
      (call_stepped smoothInput _), ?_, ?_, ?_⟩
  · decide
  · decide
  · decide

end Controller
end Zest

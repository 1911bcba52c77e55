import Zest.ControllerRules

/-! # What the cycles of a run are for

A cycle selects an opportunity, has a hypothesis admitted for it, and executes
and assesses an experiment about that hypothesis.  This module says what a
history of such events must look like, whoever the controllers were that wrote
it: what is executed is about the hypothesis of the open cycle, that hypothesis
is for the opportunity of the cycle, and no opportunity is left without an
experiment or a proposal that was not admitted, unless the run stops.
-/
namespace Zest

/-- The cycle that a history has left open. -/
structure OpenCycle where
  opportunityId : Option Id
  hypothesisId : Option Id
  /-- A proposal for it was not admitted. -/
  declined : Bool
  deriving DecidableEq, Repr

/-- The experiment is about the hypothesis of the cycle. -/
def OpenCycle.covers (hypothesisOf : Id → Option Id) (experimentId : Id) (c : OpenCycle) : Bool :=
  c.hypothesisId.any fun hypothesisId => hypothesisOf experimentId = some hypothesisId

namespace CycleEvent

/-- The open cycle after an event. -/
def after (c : Option OpenCycle) : CycleEvent → Option OpenCycle
  | .selected opportunityId => some ⟨opportunityId, none, false⟩
  | .admitted _ hypothesisId => c.map fun c => { c with hypothesisId := some hypothesisId }
  | .notAdmitted => c.map fun c => { c with declined := true }
  | .dispatched _ | .assessed _ => c
  | .closed _ _ => none

/-- The event fits the cycle that is open when it happens.  A cycle that the run
goes on from has had an experiment, or was declined; where the run stops, the
experiment it is recorded with is that of the cycle. -/
def fits (hypothesisOf : Id → Option Id) (c : Option OpenCycle) : CycleEvent → Bool
  | .selected _ => c.isNone
  | .admitted opportunityId _ => c.any (·.opportunityId = opportunityId)
  | .notAdmitted => c.isSome
  | .dispatched experimentId | .assessed experimentId => c.any (·.covers hypothesisOf experimentId)
  | .closed .continue none => c.all fun c => c.declined && c.hypothesisId.isNone
  | .closed .continue (some experimentId) => c.all (·.covers hypothesisOf experimentId)
  | .closed _ none => true
  | .closed _ (some experimentId) =>
    c.all fun c => c.hypothesisId.isNone || c.covers hypothesisOf experimentId

end CycleEvent

/-- The cycle that is open after a history. -/
def openCycle (events : List CycleEvent) : Option OpenCycle := events.foldl CycleEvent.after none

/-- Each event fits the cycle that is open when it happens. -/
def faithfulFrom (hypothesisOf : Id → Option Id) : Option OpenCycle → List CycleEvent → Bool
  | _, [] => true
  | c, event :: events =>
    event.fits hypothesisOf c && faithfulFrom hypothesisOf (event.after c) events

/-- **The history of the run is faithful.** -/
def Store.faithful (s : Store) : Bool := faithfulFrom s.hypothesisOf none s.events

section

variable {f g : Id → Option Id} {c : Option OpenCycle}

theorem OpenCycle.covers_mono {experimentId : Id} {c : OpenCycle}
    (hfg : ∀ id hypothesisId, f id = some hypothesisId → g id = some hypothesisId)
    (h : c.covers f experimentId = true) : c.covers g experimentId = true := by
  unfold covers at h ⊢
  cases hhyp : c.hypothesisId with
  | none => simp [hhyp] at h
  | some hypothesisId =>
    simp only [hhyp, Option.any_some, decide_eq_true_eq] at h ⊢
    exact hfg _ _ h

/-- What fits, fits whatever experiments there are besides. -/
theorem CycleEvent.fits_mono {event : CycleEvent}
    (hfg : ∀ id hypothesisId, f id = some hypothesisId → g id = some hypothesisId)
    (h : event.fits f c = true) : event.fits g c = true := by
  cases c with
  | none => unfold fits at h ⊢; split <;> simp_all
  | some c =>
    unfold fits at h ⊢
    split <;> simp_all [OpenCycle.covers_mono hfg]
    rcases h with h | h
    · exact Or.inl h
    · exact Or.inr (OpenCycle.covers_mono hfg h)

theorem faithfulFrom_mono {events : List CycleEvent}
    (hfg : ∀ id hypothesisId, f id = some hypothesisId → g id = some hypothesisId)
    (h : faithfulFrom f c events = true) : faithfulFrom g c events = true := by
  induction events generalizing c with
  | nil => rfl
  | cons event events ih =>
    simp only [faithfulFrom, Bool.and_eq_true] at h ⊢
    exact ⟨CycleEvent.fits_mono hfg h.1, ih h.2⟩

theorem faithfulFrom_append (events events' : List CycleEvent) :
    faithfulFrom f c (events ++ events') =
      (faithfulFrom f c events && faithfulFrom f (events.foldl CycleEvent.after c) events') := by
  induction events generalizing c with
  | nil => rfl
  | cons event events ih =>
    simp only [List.cons_append, faithfulFrom, List.foldl_cons, ih, Bool.and_assoc]

theorem openCycle_append (events events' : List CycleEvent) :
    openCycle (events ++ events') = events'.foldl CycleEvent.after (openCycle events) :=
  List.foldl_append ..

end

/-- The events of an experiment of the cycle fit it, and leave it open. -/
theorem faithfulFrom_isOf {f : Id → Option Id} {c : OpenCycle} {experimentId : Option Id}
    {events : List CycleEvent}
    (hevents : ∀ event ∈ events, ∃ id, experimentId = some id ∧ event.isOf id)
    (hcovers : ∀ id, experimentId = some id → c.covers f id = true) :
    faithfulFrom f (some c) events = true ∧
      events.foldl CycleEvent.after (some c) = some c := by
  induction events with
  | nil => exact ⟨rfl, rfl⟩
  | cons event events ih =>
    obtain ⟨id, hid, hof⟩ := hevents event (.head _)
    obtain ⟨hfaithful, hopen⟩ := ih fun event hmem => hevents event (.tail _ hmem)
    have hfits : event.fits f (some c) = true ∧ event.after (some c) = some c := by
      cases event <;> simp only [CycleEvent.isOf] at hof
      all_goals
        subst hof
        exact ⟨hcovers _ hid, rfl⟩
    simp only [faithfulFrom, List.foldl_cons, hfits.1, hfits.2, Bool.true_and]
    exact ⟨hfaithful, hopen⟩

/-! ## Experiments and their hypotheses -/

/-- An identifier that is derived is none that is drawn. -/
theorem exploratoryExperimentId_ne (m n : Nat) : exploratoryExperimentId m ≠ 2 * n := by
  intro heq
  have hodd : 2 * m + 1 = 2 * n := heq
  omega

theorem exploratoryExperimentId_inj {m n : Nat}
    (h : exploratoryExperimentId m = exploratoryExperimentId n) : m = n := by
  have heq : 2 * m + 1 = 2 * n + 1 := h
  omega

namespace Store

variable {s : Store}

/-- What the table says of an experiment is what a look at it finds. -/
theorem Keyed.hypothesisOf_of_mem (h : s.Keyed) {item : ExperimentRow}
    (hmem : item ∈ s.experiments) : s.hypothesisOf item.experimentId = some item.hypothesisId := by
  have hdistinct := h.distinct
  unfold hypothesisOf experiment
  generalize s.experiments = items at hmem hdistinct
  induction items with
  | nil => cases hmem
  | cons other items ih =>
    simp only [List.map_cons, List.nodup_cons] at hdistinct
    by_cases hid : other.experimentId = item.experimentId
    · rcases List.mem_cons.mp hmem with rfl | hmem
      · simp
      · exact absurd (hid ▸ List.mem_map_of_mem hmem) hdistinct.1
    · rcases List.mem_cons.mp hmem with rfl | hmem
      · exact absurd rfl hid
      · rw [List.find?_cons_of_neg (by simpa using hid)]
        exact ih hmem hdistinct.2

/-- An identifier for an experiment about the hypothesis that no experiment
about another one can have. -/
def IsNewFor (s : Store) (experimentId hypothesisId : Id) : Prop :=
  experimentId = exploratoryExperimentId hypothesisId ∨
    (∃ n < s.nextId, experimentId = 2 * n) ∧ s.experiment experimentId = none

/-- An identifier that was just drawn is nobody's. -/
theorem Keyed.isNewFor_drawn (h : s.Keyed) (hypothesisId : Id) :
    s.drawn.IsNewFor s.newId hypothesisId := by
  refine Or.inr ⟨⟨s.nextId, Nat.lt_succ_self _, rfl⟩, ?_⟩
  apply List.find?_eq_none.mpr
  intro item hmem heq
  have hid : item.experimentId = 2 * s.nextId := of_decide_eq_true heq
  rcases h.origin item hmem with horigin | ⟨n, hn, horigin⟩
  · exact exploratoryExperimentId_ne _ _ (horigin.symm.trans hid)
  · have hsame : n = s.nextId :=
      Nat.eq_of_mul_eq_mul_left (Nat.succ_pos 1) (horigin.symm.trans hid)
    omega

/-- A stored experiment under such an identifier is about the hypothesis. -/
theorem Keyed.hypothesisOf_of_isNewFor (h : s.Keyed) {experimentId hypothesisId : Id}
    (hnew : s.IsNewFor experimentId hypothesisId) {row : ExperimentRow}
    (hrow : s.experiment experimentId = some row) :
    s.hypothesisOf experimentId = some hypothesisId := by
  have hmem := List.mem_of_find?_eq_some hrow
  have hid := List.find?_some hrow
  rw [decide_eq_true_eq] at hid
  have hhyp : row.hypothesisId = hypothesisId := by
    rcases hnew with hnew | ⟨-, hnone⟩
    · rcases h.origin row hmem with horigin | ⟨n, -, horigin⟩
      · exact exploratoryExperimentId_inj (horigin.symm.trans (hid.trans hnew))
      · exact absurd (hnew.symm.trans (hid.symm.trans horigin)) (exploratoryExperimentId_ne _ _)
    · rw [hnone] at hrow
      cases hrow
  rw [← hid, ← hhyp]
  exact h.hypothesisOf_of_mem hmem

end Store
end Zest

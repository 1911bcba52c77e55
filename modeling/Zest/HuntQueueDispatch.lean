import Zest.HuntQueue
import Zest.TransitionSystem

/-! # One attempt for an approved item

Any number of calls approve and dispatch one item of the queue, and each may
stop between any two of its units of work.  A unit of work is atomic; but the
check that the item is approved, the `INTENT` of a unit, the invocation of the
Worker and the change of the item's state are units of work of their own.

The state of the item never goes back, whatever the calls do.  What a call has
checked may however not hold any more where it goes on to the Worker, and then
an item, or a unit of it, is attempted twice.  `approved_item_attempts` says
that nothing else goes wrong.
-/
namespace Zest.Hunt

open TransitionSystem

structure QueueSystem (ι : Type) where
  /-- The committed states of the item, the present one first. -/
  states : List HuntV3QueueState
  /-- The audit events about units of the item. -/
  unitEvents : List UnitEvent
  phase : ι → DispatchPhase
  /-- The unit for each invocation of the Worker, the last one first. -/
  invocations : List (Option Text)

inductive QueueEvent (ι : Type) where
  | approve
  | load (p : ι)
  | check (p : ι)
  | prepare (p : ι)
  | intend (p : ι)
  | begin (p : ι)
  | invoke (p : ι)
  | finish (p : ι)
  | evaluate (p : ι)
  | note (p : ι)
  | block (p : ι)
  | mark (p : ι)
  | stop (p : ι)

/-- `set_state(queue_id, next, from_state="APPROVED")`; a conflict is rolled
back. -/
def setFromApproved (next : HuntV3QueueState) : List HuntV3QueueState → List HuntV3QueueState
  | .approved :: earlier => next :: .approved :: earlier
  | states => states

/-- What an approval commits; one that raises commits nothing. -/
def afterApproval (states : List HuntV3QueueState) :
    Except String ApproveHuntV3QueueResult → List HuntV3QueueState
  | .ok result => if result.approved then result.state :: states else states
  | .error _ => states

variable {ι : Type} [DecidableEq ι]

/-- The call moves on. -/
def QueueSystem.goto (s : QueueSystem ι) (p : ι) (phase : DispatchPhase) : QueueSystem ι :=
  { s with phase := fun q => if q = p then phase else s.phase q }

section Steps

variable (compile : DispatchCommand → HuntV3QueueRecord → CompilerResult)
  (item : HuntV3QueueRecord) (command : ι → DispatchCommand)

/-- One unit of work of one call, the invocation of the Worker, or the end of a
call.  Of the item only the state changes.  An experiment is new, so executing it
invokes the Worker once or not at all, with any outcome. -/
inductive QueueStep (s : QueueSystem ι) : QueueEvent ι → QueueSystem ι → Prop where
  | approve (researchRunId : Id) (approval : Option ApprovalView) {current : HuntV3QueueState}
      {earlier : List HuntV3QueueState} (hread : s.states = current :: earlier) :
      QueueStep s .approve
        { s with
          states := afterApproval s.states
            (approveHuntV3Queue researchRunId { item with state := current } approval) }
  | load {p : ι} {current : HuntV3QueueState} {earlier : List HuntV3QueueState}
      (h : s.phase p = .idle) (hread : s.states = current :: earlier) :
      QueueStep s (.load p)
        (s.goto p (afterLoad compile (command p) { item with state := current }))
  | check {p : ι} {unit : Text} (h : s.phase p = .checking unit) :
      QueueStep s (.check p)
        (s.goto p (afterCheck compile (command p) { item with state := .approved } unit
          (priorUnit s.unitEvents unit)))
  | prepare {p : ι} {unit : Option Text} {compiled : CompilerResult} (experimentId : Id)
      (h : s.phase p = .preparing unit compiled) :
      QueueStep s (.prepare p) (s.goto p (afterPrepare unit compiled experimentId))
  | intend {p : ι} {unit : Text} {compiled : CompilerResult} {experimentId : Id}
      (h : s.phase p = .intending unit compiled experimentId) :
      QueueStep s (.intend p)
        (({ s with unitEvents := s.unitEvents ++ [intentEvent unit compiled experimentId] }).goto p
          (.ready (some unit) compiled experimentId))
  | begin {p : ι} {unit : Option Text} {compiled : CompilerResult} {experimentId : Id}
      (h : s.phase p = .ready unit compiled experimentId) :
      QueueStep s (.begin p) (s.goto p (.executing unit compiled experimentId))
  | invoke {p : ι} {unit : Option Text} {compiled : CompilerResult} {experimentId : Id}
      (h : s.phase p = .executing unit compiled experimentId) :
      QueueStep s (.invoke p)
        (({ s with invocations := unit :: s.invocations }).goto p
          (.invoked unit compiled experimentId))
  | finish {p : ι} {unit : Option Text} {compiled : CompilerResult} {experimentId : Id}
      (loop : ExecutionOutcome)
      (h : s.phase p = .executing unit compiled experimentId ∨
        s.phase p = .invoked unit compiled experimentId) :
      QueueStep s (.finish p)
        (s.goto p (afterExecute { item with state := .approved } unit compiled experimentId loop))
  | evaluate {p : ι} {unit : Option Text} {compiled : CompilerResult} {experimentId : Id}
      {loop : ExecutionOutcome} (h : s.phase p = .evaluating unit compiled experimentId loop) :
      QueueStep s (.evaluate p)
        (s.goto p (afterEvaluate { item with state := .approved } unit compiled experimentId loop))
  | note {p : ι} {event : UnitEvent} {result : DispatchResult}
      (h : s.phase p = .noting event result) :
      QueueStep s (.note p)
        (({ s with unitEvents := s.unitEvents ++ [event] }).goto p (.returned result))
  | block {p : ι} {experimentId : Option Id} {result : DispatchResult}
      (h : s.phase p = .blocking experimentId result) :
      QueueStep s (.block p)
        (({ s with states := setFromApproved .blocked s.states }).goto p (.returned result))
  | mark {p : ι} {result : DispatchResult} (h : s.phase p = .marking result) :
      QueueStep s (.mark p)
        (({ s with states := setFromApproved .run s.states }).goto p (.returned result))
  | stop {p : ι} : QueueStep s (.stop p) (s.goto p (s.phase p).stopped)

end Steps

/-! ## What can go wrong -/

/-- The call has begun an execution of a plain item and not recorded its
outcome. -/
def DispatchPhase.unrecorded : DispatchPhase → Bool
  | .executing none _ _ | .invoked none _ _ | .evaluating none _ _ _ | .blocking (some _) _
  | .marking _ | .lost => true
  | _ => false

/-- Where a call commits itself to an attempt, what it has checked still holds.
An `INTENT` is the first event about its unit.  An execution of a plain item
begins while the item is approved, and no other execution of it is unrecorded. -/
def StillFree (s : QueueSystem ι) : QueueEvent ι → Prop
  | .intend p => ∀ unit compiled experimentId,
      s.phase p = .intending unit compiled experimentId → ∀ event ∈ s.unitEvents, event.unitId ≠ unit
  | .begin p => ∀ compiled experimentId, s.phase p = .ready none compiled experimentId →
      s.states.head? = some .approved ∧ ∀ q, (s.phase q).unrecorded = false
  | _ => True

/-- The steps that an item may take. -/
def legalQueueTransitions : List (HuntV3QueueState × HuntV3QueueState) :=
  [(.pending, .approved), (.approved, .run), (.approved, .blocked)]

/-- Every state but the first has come by a legal step; the present one is the
head. -/
def LegalQueuePath : List HuntV3QueueState → Prop
  | [] => False
  | [first] => first = .pending
  | next :: current :: earlier =>
    (current, next) ∈ legalQueueTransitions ∧ LegalQueuePath (current :: earlier)

/-- A plain item is attempted at most once, and of an item that is dispatched by
units each unit is. -/
def AttemptedOnce (item : HuntV3QueueRecord) (s : QueueSystem ι) : Prop :=
  if byUnits item then ∀ unit, s.invocations.count unit ≤ 1 else s.invocations.length ≤ 1

namespace QueueSystem

/-- An item that has been queued, and nobody has approved or dispatched. -/
structure Initial (s : QueueSystem ι) : Prop where
  states : s.states = [.pending]
  idle : ∀ p, s.phase p = .idle
  invocations : s.invocations = []

end QueueSystem

/-! ## The states of the item -/

/-- The item stays as it is, or takes a legal step. -/
def MovesOn (states next : List HuntV3QueueState) : Prop :=
  next = states ∨ ∃ current earlier state, states = current :: earlier ∧
    next = state :: states ∧ (current, state) ∈ legalQueueTransitions

theorem movesOn_setFromApproved {next : HuntV3QueueState}
    (hnext : (HuntV3QueueState.approved, next) ∈ legalQueueTransitions)
    (states : List HuntV3QueueState) : MovesOn states (setFromApproved next states) := by
  unfold setFromApproved
  split
  next earlier => exact Or.inr ⟨.approved, earlier, next, rfl, rfl, hnext⟩
  next => exact Or.inl rfl

theorem movesOn_afterApproval {researchRunId : Id} {item : HuntV3QueueRecord}
    {approval : Option ApprovalView} {earlier : List HuntV3QueueState} :
    MovesOn (item.state :: earlier) (afterApproval (item.state :: earlier)
      (approveHuntV3Queue researchRunId item approval)) := by
  unfold afterApproval
  split
  next result hok =>
    by_cases happroved : result.approved = true
    · obtain ⟨hpending, hstate⟩ := approveHuntV3Queue_approved hok happroved
      rw [if_pos happroved]
      refine Or.inr ⟨item.state, earlier, result.state, rfl, rfl, ?_⟩
      rw [hpending, hstate]
      decide
    · rw [if_neg happroved]
      exact Or.inl rfl
  next => exact Or.inl rfl

section Runs

variable {compile : DispatchCommand → HuntV3QueueRecord → CompilerResult}
  {item : HuntV3QueueRecord} {command : ι → DispatchCommand} {s t : QueueSystem ι}
  {e : QueueEvent ι} {p : ι}

/-- **Every step** takes the item on, if at all. -/
theorem QueueStep.movesOn (h : QueueStep compile item command s e t) :
    MovesOn s.states t.states := by
  cases h with
  | @approve researchRunId approval current earlier hread =>
    show MovesOn s.states (afterApproval s.states _)
    rw [hread]
    exact @movesOn_afterApproval researchRunId { item with state := current } approval earlier
  | block => exact movesOn_setFromApproved (by decide) s.states
  | mark => exact movesOn_setFromApproved (by decide) s.states
  | _ => exact Or.inl rfl

theorem LegalQueuePath.movesOn {states next : List HuntV3QueueState} (h : LegalQueuePath states)
    (hnext : MovesOn states next) : LegalQueuePath next := by
  rcases hnext with rfl | ⟨current, earlier, state, rfl, rfl, hlegal⟩
  · exact h
  · exact ⟨hlegal, h⟩

/-- A legal step does not lead back to where an item can be dispatched from, or
to where it starts. -/
theorem MovesOn.not_pending {states next : List HuntV3QueueState} (h : MovesOn states next)
    (hhead : states.head? ≠ some .pending) : next.head? ≠ some .pending := by
  rcases h with rfl | ⟨current, earlier, state, rfl, rfl, hlegal⟩
  · exact hhead
  · rintro hstate
    cases hstate
    revert hlegal
    cases current <;> decide

theorem MovesOn.settled {states next : List HuntV3QueueState} (h : MovesOn states next)
    (hhead : states.head? ≠ some .pending ∧ states.head? ≠ some .approved) :
    next.head? ≠ some .pending ∧ next.head? ≠ some .approved := by
  refine ⟨h.not_pending hhead.1, ?_⟩
  rcases h with rfl | ⟨current, earlier, state, rfl, rfl, hlegal⟩
  · exact hhead.2
  · rintro hstate
    cases hstate
    -- only a pending item is approved
    cases current with
    | pending => exact hhead.1 rfl
    | _ => exact absurd hlegal (by decide)

/-- After the guarded update of a call that has loaded the item, the item is past
being approved. -/
theorem setFromApproved_settled {next : HuntV3QueueState}
    (hnext : next ≠ .pending ∧ next ≠ .approved) {states : List HuntV3QueueState}
    (h : states.head? ≠ some .pending) :
    (setFromApproved next states).head? ≠ some .pending ∧
      (setFromApproved next states).head? ≠ some .approved := by
  unfold setFromApproved
  split
  next => exact ⟨by simpa using hnext.1, by simpa using hnext.2⟩
  next hne =>
    refine ⟨h, fun happroved => ?_⟩
    obtain ⟨earlier, hstates⟩ := List.head?_eq_some_iff.mp happroved
    exact hne earlier hstates

end Runs

/-! ## Where a call may have come to -/

namespace DispatchPhase

/-- The call has loaded the item, and has more to do or was lost. -/
def loaded : DispatchPhase → Bool
  | .idle | .returned _ | .raised => false
  | _ => true

/-- What the call is about to invoke the Worker for; `none` is the item as a
whole. -/
def slot : DispatchPhase → Option (Option Text)
  | .ready (some unit) _ _ => some (some unit)
  | .executing unit _ _ => some unit
  | _ => none

/-- The unit that the call works on. -/
def unit : DispatchPhase → Option (Option Text)
  | .checking unit | .intending unit _ _ => some (some unit)
  | .preparing unit _ | .ready unit _ _ | .executing unit _ _ | .invoked unit _ _
  | .evaluating unit _ _ _ => some unit
  | _ => none

end DispatchPhase

section Phases

variable {compile : DispatchCommand → HuntV3QueueRecord → CompilerResult}
  {command : DispatchCommand} {item : HuntV3QueueRecord} {unit : Option Text}
  {compiled : CompilerResult} {experimentId : Id} {loop : ExecutionOutcome}

theorem afterCompile_slot : (afterCompile compile command item unit).slot = none := by
  unfold afterCompile
  dsimp only
  split
  next => rfl
  next => split <;> rfl

theorem afterCompile_unit {x : Option Text}
    (h : (afterCompile compile command item unit).unit = some x) : x = unit := by
  unfold afterCompile at h
  dsimp only at h
  split at h
  next => exact (Option.some.inj h).symm
  next => split at h <;> cases h

theorem afterLoad_slot : (afterLoad compile command item).slot = none := by
  unfold afterLoad
  split
  next => rfl
  next =>
    split
    · rfl
    · rfl
    · rfl
    · split
      · split <;> rfl
      · exact afterCompile_slot

theorem afterLoad_loaded (h : (afterLoad compile command item).loaded = true) :
    item.state = .approved := by
  unfold afterLoad at h
  split at h
  next => cases h
  next =>
    split at h
    · cases h
    · cases h
    · cases h
    · assumption

theorem afterLoad_unit {x : Option Text}
    (h : (afterLoad compile command item).unit = some x) : x.isSome = byUnits item := by
  unfold afterLoad at h
  split at h
  next => cases h
  next =>
    split at h
    · cases h
    · cases h
    · cases h
    · split at h
      next hunits =>
        split at h
        · cases h
        · cases h
          exact hunits.symm
      next hplain =>
        rw [afterCompile_unit h]
        exact ((Bool.not_eq_true _).mp hplain).symm

theorem afterCheck_slot {prior : Option UnitEvent} {unit : Text} :
    (afterCheck compile command item unit prior).slot = none := by
  unfold afterCheck
  split
  · rfl
  · exact afterCompile_slot

theorem afterCheck_unit {prior : Option UnitEvent} {unit : Text} {x : Option Text}
    (h : (afterCheck compile command item unit prior).unit = some x) : x = some unit := by
  unfold afterCheck at h
  split at h
  · cases h
  · exact afterCompile_unit h

theorem afterEvaluate_slot : (afterEvaluate item unit compiled experimentId loop).slot = none := by
  unfold afterEvaluate
  dsimp only
  split
  · rfl
  · rfl
  · split <;> rfl

theorem afterEvaluate_unit : (afterEvaluate item unit compiled experimentId loop).unit = none := by
  unfold afterEvaluate
  dsimp only
  split
  · rfl
  · rfl
  · split <;> rfl

/-- The outcome of an execution of a plain item is not recorded by evaluating
it. -/
theorem afterEvaluate_unrecorded :
    (afterEvaluate item none compiled experimentId loop).unrecorded = true := by
  unfold afterEvaluate
  dsimp only
  split <;> rfl

theorem afterExecute_slot : (afterExecute item unit compiled experimentId loop).slot = none := by
  unfold afterExecute
  split
  · rfl
  · exact afterEvaluate_slot

theorem afterExecute_unit {x : Option Text}
    (h : (afterExecute item unit compiled experimentId loop).unit = some x) : x = unit := by
  unfold afterExecute at h
  split at h
  · exact (Option.some.inj h).symm
  · rw [afterEvaluate_unit] at h
    cases h

theorem afterExecute_unrecorded :
    (afterExecute item none compiled experimentId loop).unrecorded = true := by
  unfold afterExecute
  split
  · rfl
  · exact afterEvaluate_unrecorded

theorem DispatchPhase.stopped_slot (phase : DispatchPhase) : phase.stopped.slot = none := by
  unfold stopped
  split <;> rfl

theorem DispatchPhase.stopped_unit (phase : DispatchPhase) : phase.stopped.unit = none := by
  unfold stopped
  split <;> rfl

theorem DispatchPhase.loaded_of_stopped {phase : DispatchPhase}
    (h : phase.stopped.loaded = true) : phase.loaded = true := by
  unfold stopped at h
  split at h
  · cases h
  all_goals first | rfl | cases h

/-- A call that stops leaves its execution unrecorded, unless it has not come to
the Worker. -/
theorem DispatchPhase.unrecorded_stopped {phase : DispatchPhase}
    (h : phase.unrecorded = true) :
    phase.stopped.unrecorded = true ∨ phase.slot = some none := by
  unfold unrecorded at h
  split at h
  · exact Or.inr rfl
  all_goals first | exact Or.inl rfl | cases h

/-- Who is about to invoke the Worker for the item has begun its execution. -/
theorem DispatchPhase.unrecorded_of_slot {phase : DispatchPhase} (h : phase.slot = some none) :
    phase.unrecorded = true := by
  unfold slot at h
  split at h
  · cases h
  · cases h
    rfl
  · cases h

end Phases

/-! ## The invariant -/

namespace QueueSystem

/-- Somebody has committed to an attempt: at a unit, by an event about it; at
the item as a whole, by an execution that is under way or recorded. -/
def Claimed (s : QueueSystem ι) : Option Text → Prop
  | some unit => ∃ event ∈ s.unitEvents, event.unitId = unit
  | none => (s.states.head? ≠ some .pending ∧ s.states.head? ≠ some .approved) ∨
      ∃ q, (s.phase q).unrecorded = true

/-- What the steps keep that find what was checked still true: whoever is about
to invoke the Worker has committed to it, and is the first and the only one. -/
structure Inv (s : QueueSystem ι) : Prop where
  loaded : ∀ q, (s.phase q).loaded = true → s.states.head? ≠ some .pending
  claimed : ∀ q x, (s.phase q).slot = some x → s.Claimed x
  only : ∀ q r x, (s.phase q).slot = some x → (s.phase r).slot = some x → q = r
  first : ∀ q x, (s.phase q).slot = some x → x ∉ s.invocations
  invoked : ∀ x ∈ s.invocations, s.Claimed x
  once : s.invocations.Nodup

/-- Units are for the items that are dispatched by units. -/
structure Suited (item : HuntV3QueueRecord) (s : QueueSystem ι) : Prop where
  unit : ∀ q x, (s.phase q).unit = some x → x.isSome = byUnits item
  invocations : ∀ x ∈ s.invocations, x.isSome = byUnits item

@[simp] theorem goto_phase_self (s : QueueSystem ι) (p : ι) (phase : DispatchPhase) :
    (s.goto p phase).phase p = phase := if_pos rfl

theorem goto_phase_ne (s : QueueSystem ι) {p q : ι} (phase : DispatchPhase) (h : q ≠ p) :
    (s.goto p phase).phase q = s.phase q := if_neg h

variable {s u : QueueSystem ι} {p : ι} {phase : DispatchPhase}

omit [DecidableEq ι] in
theorem claimed_states {states : List HuntV3QueueState} (hstates : MovesOn s.states states)
    {x : Option Text} (h : s.Claimed x) : Claimed { s with states } x := by
  cases x with
  | some unit => exact h
  | none => exact h.imp_left hstates.settled

/-- A step of the call `p` commits to no attempt, and gives up none but its
own. -/
theorem claimed_goto (hphase : u.phase = s.phase) (hevents : s.unitEvents ⊆ u.unitEvents)
    (hstates : MovesOn s.states u.states)
    (hrecorded : (s.phase p).unrecorded = true → phase.unrecorded = true ∨
      (u.states.head? ≠ some .pending ∧ u.states.head? ≠ some .approved) ∨
        (s.phase p).slot = some none)
    {x : Option Text} (h : s.Claimed x) :
    (u.goto p phase).Claimed x ∨ x = none ∧ (s.phase p).slot = some none := by
  cases x with
  | some unit =>
    obtain ⟨event, hevent, hunit⟩ := h
    exact Or.inl ⟨event, hevents hevent, hunit⟩
  | none =>
    rcases h with hsettled | ⟨q, hq⟩
    · exact Or.inl (Or.inl (hstates.settled hsettled))
    · by_cases hqp : q = p
      · subst hqp
        rcases hrecorded hq with hstill | hsettled | hslot
        · exact Or.inl (Or.inr ⟨q, by rwa [goto_phase_self]⟩)
        · exact Or.inl (Or.inl hsettled)
        · exact Or.inr ⟨rfl, hslot⟩
      · refine Or.inl (Or.inr ⟨q, ?_⟩)
        rw [goto_phase_ne _ _ hqp, hphase]
        exact hq

/-- A call moves on to where it is not about to invoke the Worker. -/
theorem Inv.move (hi : s.Inv) (hphase : u.phase = s.phase)
    (hevents : s.unitEvents ⊆ u.unitEvents) (hstates : MovesOn s.states u.states)
    (hinvocations : u.invocations = s.invocations)
    (hloaded : phase.loaded = true → u.states.head? ≠ some .pending)
    (hslot : phase.slot = none)
    (hrecorded : (s.phase p).unrecorded = true → phase.unrecorded = true ∨
      (u.states.head? ≠ some .pending ∧ u.states.head? ≠ some .approved) ∨
        (s.phase p).slot = some none) : (u.goto p phase).Inv := by
  -- whoever is about to invoke the Worker is somebody else
  have hother : ∀ q x, ((u.goto p phase).phase q).slot = some x →
      q ≠ p ∧ (s.phase q).slot = some x := by
    intro q x hq
    by_cases hqp : q = p
    · subst hqp
      rw [goto_phase_self, hslot] at hq
      cases hq
    · rw [goto_phase_ne _ _ hqp, hphase] at hq
      exact ⟨hqp, hq⟩
  refine ⟨fun q hq => ?_, fun q x hq => ?_, fun q r x hq hr => ?_, fun q x hq => ?_,
    fun x hx => ?_, ?_⟩
  · by_cases hqp : q = p
    · subst hqp
      rw [goto_phase_self] at hq
      exact hloaded hq
    · rw [goto_phase_ne _ _ hqp, hphase] at hq
      exact hstates.not_pending (hi.loaded q hq)
  · obtain ⟨hqp, hslotq⟩ := hother q x hq
    rcases claimed_goto hphase hevents hstates hrecorded (hi.claimed q x hslotq) with
      h | ⟨rfl, hp⟩
    · exact h
    · exact absurd (hi.only q p none hslotq hp) hqp
  · exact hi.only q r x (hother q x hq).2 (hother r x hr).2
  · show x ∉ u.invocations
    rw [hinvocations]
    exact hi.first q x (hother q x hq).2
  · have hx' : x ∈ s.invocations := hinvocations ▸ hx
    rcases claimed_goto hphase hevents hstates hrecorded (hi.invoked x hx') with h | ⟨rfl, hp⟩
    · exact h
    · exact absurd hx' (hi.first p none hp)
  · show u.invocations.Nodup
    rw [hinvocations]
    exact hi.once

/-- A call moves on and writes nothing. -/
theorem Inv.goto (hi : s.Inv) (hloaded : phase.loaded = true → s.states.head? ≠ some .pending)
    (hslot : phase.slot = none)
    (hrecorded : (s.phase p).unrecorded = true → phase.unrecorded = true ∨
      (s.phase p).slot = some none) : (s.goto p phase).Inv :=
  hi.move rfl (List.Subset.refl _) (Or.inl rfl) rfl hloaded hslot fun h =>
    (hrecorded h).imp_right Or.inr

/-- What a call works towards is committed to by itself, and by nobody else: it
has been so already, or nobody had committed to it. -/
theorem Inv.claim (hi : s.Inv) (hphase : u.phase = s.phase) (hstates : u.states = s.states)
    (hevents : s.unitEvents ⊆ u.unitEvents) (hinvocations : u.invocations = s.invocations)
    {x : Option Text} (hslot : phase.slot = some x)
    (hfree : (s.phase p).slot = some x ∨ (s.phase p).slot = none ∧ ¬ s.Claimed x)
    (hclaimed : (u.goto p phase).Claimed x) (hloaded : (s.phase p).loaded = true)
    (hrecorded : (s.phase p).unrecorded = false) : (u.goto p phase).Inv := by
  have hkept : ∀ y, s.Claimed y → (u.goto p phase).Claimed y := by
    intro y hy
    rcases claimed_goto hphase hevents (Or.inl hstates)
        (fun h => by rw [hrecorded] at h; cases h) hy with h | ⟨rfl, hp⟩
    · exact h
    · rcases hfree with hsame | ⟨hnone, -⟩
      · rw [hp] at hsame
        cases hsame
        exact hclaimed
      · rw [hp] at hnone
        cases hnone
  -- nobody else is about to invoke the Worker for `x`, or has
  have hothers : ∀ q, q ≠ p → (s.phase q).slot ≠ some x := by
    intro q hqp hq
    rcases hfree with hsame | ⟨-, hfree⟩
    · exact hqp (hi.only q p x hq hsame)
    · exact hfree (hi.claimed q x hq)
  have hunused : x ∉ s.invocations := by
    rcases hfree with hsame | ⟨-, hfree⟩
    · exact hi.first p x hsame
    · exact fun hx => hfree (hi.invoked x hx)
  have hself : ∀ y, ((u.goto p phase).phase p).slot = some y → y = x := by
    intro y hy
    rw [goto_phase_self, hslot] at hy
    exact (Option.some.inj hy).symm
  have hother : ∀ q, q ≠ p → (u.goto p phase).phase q = s.phase q := by
    intro q hqp
    rw [goto_phase_ne _ _ hqp, hphase]
  refine ⟨fun q hq => ?_, fun q y hq => ?_, fun q r y hq hr => ?_, fun q y hq => ?_,
    fun y hy => ?_, ?_⟩
  · show u.states.head? ≠ some .pending
    rw [hstates]
    by_cases hqp : q = p
    · exact hi.loaded p hloaded
    · rw [hother q hqp] at hq
      exact hi.loaded q hq
  · by_cases hqp : q = p
    · subst hqp
      rw [hself y hq]
      exact hclaimed
    · rw [hother q hqp] at hq
      exact hkept y (hi.claimed q y hq)
  · by_cases hqp : q = p <;> by_cases hrp : r = p
    · rw [hqp, hrp]
    · subst hqp
      rw [hself y hq, hother r hrp] at hr
      exact absurd hr (hothers r hrp)
    · subst hrp
      rw [hself y hr, hother q hqp] at hq
      exact absurd hq (hothers q hqp)
    · rw [hother q hqp] at hq
      rw [hother r hrp] at hr
      exact hi.only q r y hq hr
  · show y ∉ u.invocations
    rw [hinvocations]
    by_cases hqp : q = p
    · subst hqp
      rw [hself y hq]
      exact hunused
    · rw [hother q hqp] at hq
      exact hi.first q y hq
  · exact hkept y (hi.invoked y (hinvocations ▸ hy))
  · show u.invocations.Nodup
    rw [hinvocations]
    exact hi.once

/-- The Worker is invoked. -/
theorem Inv.invoke (hi : s.Inv) {x : Option Text} (hslot : (s.phase p).slot = some x)
    (hnone : phase.slot = none) (hloaded : (s.phase p).loaded = true)
    (hrecorded : (s.phase p).unrecorded = true → phase.unrecorded = true) :
    (({ s with invocations := x :: s.invocations } : QueueSystem ι).goto p phase).Inv := by
  have hquiet : (s.goto p phase).Inv :=
    hi.goto (fun _ => hi.loaded p hloaded) hnone fun h => Or.inl (hrecorded h)
  have hclaimed : (s.goto p phase).Claimed x := by
    rcases claimed_goto rfl (List.Subset.refl _) (Or.inl rfl)
        (fun h => Or.inl (hrecorded h)) (hi.claimed p x hslot) with h | ⟨rfl, hp⟩
    · exact h
    · refine Or.inr ⟨p, ?_⟩
      rw [goto_phase_self]
      exact hrecorded (DispatchPhase.unrecorded_of_slot hp)
  refine ⟨hquiet.loaded, hquiet.claimed, hquiet.only, fun q y hq => ?_, fun y hy => ?_, ?_⟩
  · show y ∉ x :: s.invocations
    intro hy
    rcases List.mem_cons.mp hy with rfl | hused
    swap
    · exact hquiet.first q y hq hused
    by_cases hqp : q = p
    · subst hqp
      have hself : phase.slot = some y := by simpa using hq
      rw [hnone] at hself
      cases hself
    · have hother : (s.phase q).slot = some y := by
        rw [← goto_phase_ne s phase hqp]
        exact hq
      exact hqp (hi.only q p y hother hslot)
  · rcases List.mem_cons.mp hy with rfl | hy
    · exact hclaimed
    · exact hquiet.invoked y hy
  · exact List.nodup_cons.mpr ⟨hi.first p x hslot, hi.once⟩

omit [DecidableEq ι] in
theorem Initial.inv (h : s.Initial) : s.Inv := by
  have hslot : ∀ q x, (s.phase q).slot ≠ some x := by
    intro q x hq
    rw [h.idle] at hq
    cases hq
  refine ⟨fun q hq => ?_, fun q x hq => absurd hq (hslot q x),
    fun q r x hq => absurd hq (hslot q x), fun q x hq => absurd hq (hslot q x), fun x hx => ?_, ?_⟩
  · rw [h.idle] at hq
    cases hq
  · rw [h.invocations] at hx
    cases hx
  · rw [h.invocations]
    exact List.nodup_nil

end QueueSystem

section Runs

variable {compile : DispatchCommand → HuntV3QueueRecord → CompilerResult}
  {item : HuntV3QueueRecord} {command : ι → DispatchCommand} {s t : QueueSystem ι}
  {e : QueueEvent ι}

open QueueSystem

/-- **The step lemma.** -/
theorem QueueSystem.Inv.step (hi : s.Inv) (h : QueueStep compile item command s e t)
    (hfree : StillFree s e) : t.Inv := by
  have hmoves := h.movesOn
  cases h with
  | approve =>
    exact ⟨fun q hq => hmoves.not_pending (hi.loaded q hq),
      fun q x hq => claimed_states hmoves (hi.claimed q x hq), hi.only, hi.first,
      fun x hx => claimed_states hmoves (hi.invoked x hx), hi.once⟩
  | @load p current earlier h hread =>
    refine hi.goto (fun hloaded => ?_) afterLoad_slot (by rw [h]; rintro ⟨⟩)
    have hstate : current = .approved := afterLoad_loaded hloaded
    rw [hread, hstate]
    exact fun hhead => by cases hhead
  | @check p unit h =>
    exact hi.goto (fun _ => hi.loaded p (by rw [h]; rfl)) afterCheck_slot (by rw [h]; rintro ⟨⟩)
  | @prepare p unit compiled experimentId h =>
    have hslot : (afterPrepare unit compiled experimentId).slot = none := by
      cases unit <;> rfl
    exact hi.goto (fun _ => hi.loaded p (by rw [h]; rfl)) hslot (by rw [h]; rintro ⟨⟩)
  | @intend p unit compiled experimentId h =>
    refine hi.claim (x := some unit) (u := { s with unitEvents := s.unitEvents ++ [_] }) rfl rfl
      (List.subset_append_left _ _) rfl rfl (Or.inr ⟨by rw [h]; rfl, ?_⟩) ?_ (by rw [h]; rfl)
      (by rw [h]; rfl)
    · rintro ⟨event, hevent, hunit⟩
      exact hfree unit compiled experimentId h event hevent hunit
    · exact ⟨intentEvent unit compiled experimentId,
        List.mem_append_right _ List.mem_cons_self, rfl⟩
  | @begin p unit compiled experimentId h =>
    refine hi.claim (u := s) rfl rfl (List.Subset.refl _) rfl rfl ?_ ?_ (by rw [h]; rfl)
      (by rw [h]; rfl)
    · cases unit with
      | some unit => exact Or.inl (by rw [h]; rfl)
      | none =>
        obtain ⟨happroved, hrecorded⟩ := hfree compiled experimentId h
        refine Or.inr ⟨by rw [h]; rfl, ?_⟩
        rintro (⟨-, hne⟩ | ⟨q, hq⟩)
        · exact hne happroved
        · rw [hrecorded q] at hq
          cases hq
    · cases unit with
      | some unit => exact hi.claimed p (some unit) (by rw [h]; rfl)
      | none => exact Or.inr ⟨p, by rw [goto_phase_self]; rfl⟩
  | @invoke p unit compiled experimentId h =>
    refine hi.invoke (by rw [h]; rfl) rfl (by rw [h]; rfl) ?_
    rw [h]
    cases unit <;> exact id
  | @finish p unit compiled experimentId loop h =>
    have hloaded : (s.phase p).loaded = true := by
      rcases h with h | h <;> rw [h] <;> rfl
    refine hi.goto (fun _ => hi.loaded p hloaded) afterExecute_slot fun hrecorded => Or.inl ?_
    cases unit with
    | none => exact afterExecute_unrecorded
    | some unit => rcases h with h | h <;> rw [h] at hrecorded <;> cases hrecorded
  | @evaluate p unit compiled experimentId loop h =>
    refine hi.goto (fun _ => hi.loaded p (by rw [h]; rfl)) afterEvaluate_slot
      fun hrecorded => Or.inl ?_
    cases unit with
    | none => exact afterEvaluate_unrecorded
    | some unit => rw [h] at hrecorded; cases hrecorded
  | @note p event result h =>
    exact hi.move (u := { s with unitEvents := s.unitEvents ++ [event] }) rfl
      (List.subset_append_left _ _) (Or.inl rfl) rfl (fun hloaded => by cases hloaded) rfl
      (by rw [h]; rintro ⟨⟩)
  | @block p experimentId result h =>
    have hloaded := hi.loaded p (by rw [h]; rfl)
    exact hi.move (u := { s with states := setFromApproved .blocked s.states }) rfl
      (List.Subset.refl _) hmoves rfl (fun hloaded => by cases hloaded) rfl
      fun _ => Or.inr (Or.inl (setFromApproved_settled (by decide) hloaded))
  | @mark p result h =>
    have hloaded := hi.loaded p (by rw [h]; rfl)
    exact hi.move (u := { s with states := setFromApproved .run s.states }) rfl
      (List.Subset.refl _) hmoves rfl (fun hloaded => by cases hloaded) rfl
      fun _ => Or.inr (Or.inl (setFromApproved_settled (by decide) hloaded))
  | @stop p =>
    exact hi.goto (fun hloaded => hi.loaded p (DispatchPhase.loaded_of_stopped hloaded))
      (DispatchPhase.stopped_slot _) fun h => DispatchPhase.unrecorded_stopped h

/-- A call moves on with its unit. -/
theorem QueueSystem.Suited.move {u : QueueSystem ι} {p : ι} {phase : DispatchPhase}
    (hs : s.Suited item) (hphase : u.phase = s.phase)
    (hunit : ∀ x, phase.unit = some x → x.isSome = byUnits item)
    (hinvocations : ∀ x ∈ u.invocations, x.isSome = byUnits item) :
    (u.goto p phase).Suited item := by
  refine ⟨fun q x hq => ?_, hinvocations⟩
  by_cases hqp : q = p
  · subst hqp
    rw [goto_phase_self] at hq
    exact hunit x hq
  · rw [goto_phase_ne _ _ hqp, hphase] at hq
    exact hs.unit q x hq

/-- **Every step** keeps the units where they belong. -/
theorem QueueSystem.Suited.step (hs : s.Suited item) (h : QueueStep compile item command s e t) :
    t.Suited item := by
  cases h with
  | approve => exact ⟨hs.unit, hs.invocations⟩
  | @load p current earlier h hread =>
    exact hs.move rfl (fun x hx => @afterLoad_unit _ _ { item with state := current } x hx)
      hs.invocations
  | @check p unit h =>
    refine hs.move rfl (fun x hx => ?_) hs.invocations
    rw [afterCheck_unit hx]
    exact hs.unit p _ (by rw [h]; rfl)
  | @prepare p unit compiled experimentId h =>
    refine hs.move rfl (fun x hx => ?_) hs.invocations
    have hunit := hs.unit p unit (by rw [h]; rfl)
    cases unit <;> cases hx <;> exact hunit
  | @intend p unit compiled experimentId h =>
    refine hs.move rfl (fun x hx => ?_) hs.invocations
    cases hx
    exact hs.unit p _ (by rw [h]; rfl)
  | @begin p unit compiled experimentId h =>
    refine hs.move rfl (fun x hx => ?_) hs.invocations
    cases hx
    exact hs.unit p _ (by rw [h]; rfl)
  | @invoke p unit compiled experimentId h =>
    have hunit := hs.unit p unit (by rw [h]; rfl)
    refine hs.move rfl (fun x hx => ?_) fun x hx => ?_
    · cases hx
      exact hunit
    · rcases List.mem_cons.mp hx with rfl | hx
      · exact hunit
      · exact hs.invocations x hx
  | @finish p unit compiled experimentId loop h =>
    refine hs.move rfl (fun x hx => ?_) hs.invocations
    rw [afterExecute_unit hx]
    rcases h with h | h <;> exact hs.unit p unit (by rw [h]; rfl)
  | evaluate =>
    exact hs.move rfl (fun x hx => by rw [afterEvaluate_unit] at hx; cases hx) hs.invocations
  | note => exact hs.move rfl (fun x hx => by cases hx) hs.invocations
  | block => exact hs.move rfl (fun x hx => by cases hx) hs.invocations
  | mark => exact hs.move rfl (fun x hx => by cases hx) hs.invocations
  | stop =>
    exact hs.move rfl (fun x hx => by rw [DispatchPhase.stopped_unit] at hx; cases hx)
      hs.invocations

omit [DecidableEq ι] in
theorem QueueSystem.Initial.suited (h : s.Initial) : s.Suited item := by
  refine ⟨fun q x hq => ?_, fun x hx => ?_⟩
  · rw [h.idle] at hq
    cases hq
  · rw [h.invocations] at hx
    cases hx

end Runs

/-! ## An item that is attempted twice -/

/-- An item of a plain family. -/
def plainItem : HuntV3QueueRecord where
  queueId := 1
  researchRunId := 2
  hypothesisId := 3
  familyId := "family-idor".toList
  nodeCanonicalKey := "ORIGIN:https://app.example.test".toList
  identityId := none
  capability := "http.authorization_differential"
  action := "compare"
  arguments :=
    [("family_name".toList, .text "OBJECT_AUTHORIZATION".toList),
      ("authorized_origin".toList, .text "https://app.example.test".toList),
      ("actor".toList, .text "alice".toList), ("own_object".toList, .text "alice".toList),
      ("cross_object".toList, .text "bob".toList)]
  sideEffectLevel := 0
  state := .pending

def plainCommand : DispatchCommand where
  researchRunId := 2
  budgetId := 4
  targetReference := "https://app.example.test".toList
  compileArguments := []
  selectedCellId := none
  selectedStepId := none

/-- What the compiler of the family makes of the item: it has all of the fields
that the compiler asks for. -/
def compilePlain (_ : DispatchCommand) (item : HuntV3QueueRecord) : CompilerResult :=
  if ["authorized_origin", "actor", "own_object", "cross_object"].all fun key =>
      (item.arguments.get key.toList).isSome then
    { outcome := .compiled, reasonCode := "COMPILED"
      compilerId := "authorization_differential.v1", hasPlan := true }
  else
    { outcome := .blockedMissingSemantics
      reasonCode := "AUTHORIZATION_DIFFERENTIAL_FIELDS_REQUIRED"
      compilerId := "authorization_differential.v1", hasPlan := false }

/-- The item has just been queued. -/
def queuedSystem : QueueSystem Nat :=
  { states := [.pending], unitEvents := [], phase := fun _ => .idle, invocations := [] }

def plainApproval : ApprovalView :=
  ⟨5, .huntV3Queue 1, .approve, .humanOperator, true⟩

theorem attemptedOnce_plainItem {t : QueueSystem Nat} :
    AttemptedOnce plainItem t ↔ t.invocations.length ≤ 1 := Iff.rfl

end Zest.Hunt

import Mathlib.Data.Char
import Mathlib.Data.List.Lex
import Mathlib.Data.Prod.Lex
import Zest.SortByKey
import Zest.Text

/-! # The frontier of discovery

A frontier item is work that is proposed to discovery.  What becomes of it is kept as
a sequence of events; the last one says which events may follow.  The next item to
work on is the first eligible one, by its side effects, its goal and its identity.
-/
namespace Zest.Discovery

open SortByKey

/-- `DiscoveryGoalKind`, in the order of `GOAL_PRIORITY`. -/
inductive DiscoveryGoalKind where
  | inspectPath
  | inspectSpaPath
  | observeUnderIdentity
  | characterizeHttpOperation
  | inspectControl
  | resolveTransitionResult
  | resolveObjectType
  deriving DecidableEq, Repr

/-- `GOAL_PRIORITY.index`. -/
def DiscoveryGoalKind.priority : DiscoveryGoalKind → Nat
  | .inspectPath => 0
  | .inspectSpaPath => 1
  | .observeUnderIdentity => 2
  | .characterizeHttpOperation => 3
  | .inspectControl => 4
  | .resolveTransitionResult => 5
  | .resolveObjectType => 6

inductive FrontierEventKind where
  | created
  | eligible
  | selected
  | blockedScope
  | blockedAuth
  | blockedBudget
  | awaitingReauthorization
  | noNewInformation
  | observed
  | failedTransient
  | failedTerminal
  | superseded
  deriving DecidableEq, Repr

/-- `LEGAL_TRANSITIONS`. -/
def legalTransitions : FrontierEventKind → List FrontierEventKind
  | .created => [.eligible, .blockedScope, .blockedAuth, .blockedBudget, .superseded]
  | .eligible => [.selected, .blockedScope, .blockedAuth, .blockedBudget, .superseded,
      .noNewInformation]
  | .selected => [.observed, .noNewInformation, .failedTransient, .failedTerminal,
      .awaitingReauthorization, .blockedScope, .blockedAuth, .blockedBudget, .superseded]
  | .failedTransient => [.eligible, .failedTerminal, .superseded]
  | .awaitingReauthorization => [.eligible, .blockedAuth, .superseded]
  | .noNewInformation => [.eligible, .superseded]
  | .observed => [.superseded]
  | .blockedScope => [.superseded]
  | .blockedAuth => [.eligible, .superseded]
  | .blockedBudget => [.superseded]
  | .failedTerminal => [.superseded]
  | .superseded => []

/-- `FrontierItem`, with its record. -/
structure FrontierItem where
  frontierId : Text
  researchRunId : Text
  goalKind : DiscoveryGoalKind
  candidateOrigin : Text
  candidatePath : Text
  identityId : Text
  expectedSideEffect : Nat
  budgetClass : Nat
  dedupeIdentity : Text
  sessionContextId : Option Text
  deriving DecidableEq

/-- `FrontierEvent`, with its record. -/
structure FrontierEvent where
  eventId : Text
  frontierId : Text
  eventKind : FrontierEventKind
  sequence : Nat
  selectionGeneration : Option Nat
  deriving DecidableEq

/-- `legal_frontier_transition`. -/
def legalFrontierTransition : Option FrontierEventKind → FrontierEventKind → Bool
  | none, next => next = .created
  | some latest, next => next ∈ legalTransitions latest

/-- The generations of the events that select. -/
def selectedGenerations (events : List FrontierEvent) : List Nat :=
  events.filterMap fun event =>
    if event.eventKind = .selected then event.selectionGeneration else none

/-- `next_selection_generation`. -/
def nextSelectionGeneration (events : List FrontierEvent) : Nat :=
  (selectedGenerations events).max?.getD 0 + 1

/-- The key that `latest_event` sorts by. -/
def FrontierEvent.position (event : FrontierEvent) : Nat ×ₗ Text :=
  toLex (event.sequence, event.eventId)

/-- `latest_event`. -/
def latestEvent (events : List FrontierEvent) : Option FrontierEvent :=
  (sortBy FrontierEvent.position events).getLast?

/-- `GOAL_PRIORITY.index` and the rest of the key that the items are sorted by. -/
def FrontierItem.rank (item : FrontierItem) : Nat ×ₗ Nat ×ₗ Text ×ₗ Text :=
  toLex (item.budgetClass, toLex (item.goalKind.priority,
    toLex (item.dedupeIdentity, item.frontierId)))

section Selection

variable (items : List FrontierItem) (eventsByFrontier : Text → List FrontierEvent)
  (maxSideEffect : Nat)

/-- The item may be selected. -/
def Selectable (item : FrontierItem) : Prop :=
  item.budgetClass ≤ maxSideEffect ∧ item.expectedSideEffect ≤ maxSideEffect ∧
    (latestEvent (eventsByFrontier item.frontierId)).map (·.eventKind) = some .eligible

instance : DecidablePred (Selectable eventsByFrontier maxSideEffect) := fun item =>
  inferInstanceAs (Decidable (_ ∧ _ ∧ (latestEvent (eventsByFrontier item.frontierId)).map
    (·.eventKind) = some .eligible))

/-- `select_eligible_frontier`. -/
def selectEligibleFrontier : Option FrontierItem :=
  (sortBy FrontierItem.rank
    (items.filter fun item => Selectable eventsByFrontier maxSideEffect item)).head?

end Selection

/-! ## The next item -/

theorem frontierId_of_rank {a b : FrontierItem} (h : a.rank = b.rank) :
    a.frontierId = b.frontierId := by
  have hgoal := congrArg (fun key => (ofLex key).2) h
  have hdedupe := congrArg (fun key => (ofLex key).2) hgoal
  exact congrArg (fun key => (ofLex key).2) hdedupe

/-- The last event does not depend on the order the events are read in. -/
theorem latestEvent_perm {events events' : List FrontierEvent}
    (hpositions : (events.map FrontierEvent.position).Nodup) (h : events.Perm events') :
    latestEvent events = latestEvent events' := by
  rw [latestEvent, latestEvent, sortBy_congr (keysApart_of_nodup hpositions) h]

section Least

variable {items items' : List FrontierItem} {eventsByFrontier eventsByFrontier' :
  Text → List FrontierEvent} {maxSideEffect : Nat}

theorem keysApart_rank (hids : (items.map (·.frontierId)).Nodup) (p : FrontierItem → Bool) :
    KeysApart FrontierItem.rank (items.filter p) := by
  intro a ha b hb hrank
  exact List.inj_on_of_nodup_map hids (List.mem_of_mem_filter ha) (List.mem_of_mem_filter hb)
    (frontierId_of_rank hrank)

/-- **The next item** is the first of those that may be selected, in the order of side
effects, goals, identities and ids; there is none only when nothing may be selected; and
neither the order of the items nor that of their events matters. -/
theorem select_eligible_frontier_least (hids : (items.map (·.frontierId)).Nodup)
    (hpositions : ∀ frontierId,
      ((eventsByFrontier frontierId).map FrontierEvent.position).Nodup) :
    (selectEligibleFrontier items eventsByFrontier maxSideEffect = none ↔
      ∀ item ∈ items, ¬ Selectable eventsByFrontier maxSideEffect item) ∧
    (∀ item, selectEligibleFrontier items eventsByFrontier maxSideEffect = some item ↔
      item ∈ items ∧ Selectable eventsByFrontier maxSideEffect item ∧
        ∀ other ∈ items, Selectable eventsByFrontier maxSideEffect other →
          item.rank ≤ other.rank) ∧
    ∀ items' eventsByFrontier', items.Perm items' →
      (∀ frontierId, (eventsByFrontier frontierId).Perm (eventsByFrontier' frontierId)) →
      selectEligibleFrontier items' eventsByFrontier' maxSideEffect =
        selectEligibleFrontier items eventsByFrontier maxSideEffect := by
  refine ⟨?_, fun item => ?_, fun items' eventsByFrontier' hitems hevents => ?_⟩
  · rw [selectEligibleFrontier, head?_eq_none, List.filter_eq_nil_iff]
    simp only [decide_eq_true_eq]
  · rw [selectEligibleFrontier, head?_eq_some_iff (keysApart_rank hids _)]
    simp only [List.mem_filter, decide_eq_true_eq, and_imp, and_assoc]
  · have hselectable : ∀ item, Selectable eventsByFrontier' maxSideEffect item ↔
        Selectable eventsByFrontier maxSideEffect item := by
      intro item
      rw [Selectable, Selectable,
        latestEvent_perm (hpositions item.frontierId) (hevents item.frontierId)]
    rw [selectEligibleFrontier, selectEligibleFrontier]
    simp only [hselectable]
    exact congrArg List.head?
      (sortBy_congr (keysApart_rank hids _) (hitems.filter _)).symm

end Least

/-- An item with a name, a goal and a side effect. -/
def labItem (frontierId : String) (goalKind : DiscoveryGoalKind) (sideEffect : Nat) :
    FrontierItem :=
  ⟨frontierId.toList, ['r'], goalKind, ['o'], ['/'], ['a'], sideEffect, sideEffect,
    frontierId.toList, none⟩

/-- Events that make each item eligible. -/
def labEvents (frontierId : Text) : List FrontierEvent :=
  [⟨['c'], frontierId, .created, 1, none⟩, ⟨['e'], frontierId, .eligible, 2, none⟩]

/-- The goal decides among items without side effects, however these are listed. -/
theorem select_eligible_frontier_least_lab :
    selectEligibleFrontier
      [labItem "a" .inspectControl 0, labItem "b" .inspectPath 0, labItem "c" .inspectPath 2]
      labEvents 1 = some (labItem "b" .inspectPath 0) := by
  refine ((select_eligible_frontier_least (by decide) fun frontierId => ?_).2.1 _).mpr ?_
  · simp [labEvents, FrontierEvent.position]
  · decide

end Zest.Discovery

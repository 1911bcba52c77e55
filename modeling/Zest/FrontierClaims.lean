import Zest.Frontier
import Zest.SequencedLedger
import Zest.StoreProcesses
import Zest.TransitionSystem

/-! # Runners that share a frontier

Any number of runners work through the frontier of a run beside each other.  A runner
first takes down the configuration of the run, or checks its own against it.  Then, cycle
after cycle, it puts what is projected on the frontier, chooses an eligible item, locks
it, reads its events once more and enters that it is selected; it works on the item,
and enters what has become of it.

Nothing is checked when an event is entered, but its number: an event is given the
number after the last one that was read, and no two events of an item have one number.
-/
namespace Zest.Discovery

open SequencedLedger SortByKey StoreProcesses TransitionSystem UniqueRows

abbrev RunnerId := Nat

/-- `DiscoveryRunConfig`, with its record: two have one fingerprint when they are equal. -/
structure DiscoveryRunConfig where
  researchRunId : Text
  seedTargetReference : Text
  normalizedOrigin : Text
  normalizedPath : Text
  maxPerRouteRevisit : Nat
  deriving DecidableEq

/-! ## The tables -/

inductive FrontierRow where
  | config (record : DiscoveryRunConfig)
  | item (record : FrontierItem)
  | event (record : FrontierEvent)

/-- The primary keys of the configurations and items, and the unique constraints.  The
ids of events are never the same. -/
inductive FrontierKey where
  | config (researchRunId : Text)
  | item (frontierId : Text)
  | dedupe (researchRunId dedupeIdentity : Text)
  | sequence (frontierId : Text) (number : Nat)
  | generation (frontierId : Text) (generation : Nat)
  deriving DecidableEq

namespace FrontierRow

def keys : FrontierRow → List FrontierKey
  | .config c => [.config c.researchRunId]
  | .item i => [.item i.frontierId, .dedupe i.researchRunId i.dedupeIdentity]
  | .event e => .sequence e.frontierId e.sequence ::
      (selectedGenerations [e]).map (.generation e.frontierId)

def asItem : FrontierRow → Option FrontierItem
  | .item record => some record
  | _ => none

/-- The event of an item. -/
def eventOf (frontierId : Text) : FrontierRow → Option FrontierEvent
  | .event e => if e.frontierId = frontierId then some e else none
  | _ => none

@[simp] theorem asItem_eq_some {row : FrontierRow} {i : FrontierItem} :
    row.asItem = some i ↔ row = .item i := by
  cases row <;> simp [asItem]

@[simp] theorem eventOf_eq_some {row : FrontierRow} {f : Text} {e : FrontierEvent} :
    row.eventOf f = some e ↔ row = .event e ∧ e.frontierId = f := by
  cases row with
  | config c => simp [eventOf]
  | item i => simp [eventOf]
  | event e' =>
    rw [eventOf]
    by_cases h : e'.frontierId = f
    · rw [if_pos h, Option.some_inj, FrontierRow.event.injEq]
      exact ⟨fun heq => ⟨heq, heq ▸ h⟩, And.left⟩
    · rw [if_neg h]
      refine ⟨fun heq => (Option.some_ne_none _ heq.symm).elim, fun heq => ?_⟩
      cases heq.1
      exact absurd heq.2 h

end FrontierRow

/-- The events of an item among the rows. -/
abbrev eventsOf (rows : List FrontierRow) (frontierId : Text) : List FrontierEvent :=
  ledger FrontierRow.eventOf rows frontierId

/-- `list_for_frontier`. -/
def listForFrontier (rows : List FrontierRow) (frontierId : Text) : List FrontierEvent :=
  sortBy FrontierEvent.sequence (eventsOf rows frontierId)

/-- `frontier_items.list_for_research_run`. -/
def itemsOfRun (rows : List FrontierRow) (researchRunId : Text) : List FrontierItem :=
  (rows.filterMap FrontierRow.asItem).filter fun i => i.researchRunId = researchRunId

/-! ## What a runner does -/

/-- A statement that a transaction still has to make. -/
inductive Statement where
  /-- A new item, which is then created and eligible. -/
  | propose (item : FrontierItem)
  /-- `_append_event`: the events of the item are read. -/
  | append (frontierId : Text) (eventKind : FrontierEventKind)
  | insert (event : FrontierEvent)

/-- The number and the event after the ones that were read. -/
def nextEvent (rows : List FrontierRow) (eventId frontierId : Text)
    (eventKind : FrontierEventKind) (selectionGeneration : Option Nat) : FrontierEvent :=
  ⟨eventId, frontierId, eventKind,
    ((listForFrontier rows frontierId).getLast?.map (·.sequence)).getD 0 + 1,
    selectionGeneration⟩

/-- The items for the path of an item that is to be inspected again. -/
def sameRoute (items : List FrontierItem) (record : FrontierItem) : List FrontierItem :=
  items.filter fun i => i.goalKind = .inspectPath ∧ i.identityId = record.identityId ∧
    i.candidateOrigin = record.candidateOrigin ∧ i.candidatePath = record.candidatePath

section Outcomes

variable (canonicalKey : List Text → Text)

/-- `_reobserve`. -/
def reobserve (config : DiscoveryRunConfig) (items : List FrontierItem) (record : FrontierItem)
    (inspectId : Text) : List Statement :=
  let count := (sameRoute items record).length
  let signature := canonicalKey ["INSPECT_PATH".toList, record.candidateOrigin,
    record.candidatePath, record.identityId, (toString count).toList]
  if config.maxPerRouteRevisit ≤ count then
    [.append record.frontierId .noNewInformation]
  else if items.any fun i => i.dedupeIdentity = signature then
    [.append record.frontierId .noNewInformation]
  else
    [.append record.frontierId .failedTransient,
      .propose ⟨inspectId, record.researchRunId, .inspectPath, record.candidateOrigin,
        record.candidatePath, record.identityId, 0, 0, signature, record.sessionContextId⟩,
      .append record.frontierId .eligible]

/-- How the work on a selected item ends. -/
inductive Outcome where
  /-- The control that was to be used cannot be found again. -/
  | reobserveRequired (inspectId : Text)
  | outOfScope
  | invocationFailed
  | unknownOutcome
  | observationProduced (proposals : List FrontierItem)
  | reauthorizationRequired (proposals : List FrontierItem)
  /-- Any other status: nothing is entered. -/
  | otherwise (proposals : List FrontierItem)

/-- What is projected in the end. -/
def Outcome.proposals : Outcome → List FrontierItem
  | .observationProduced proposals => proposals
  | .reauthorizationRequired proposals => proposals
  | .otherwise proposals => proposals
  | _ => []

/-- The last transaction of a cycle. -/
def Outcome.statements (config : DiscoveryRunConfig) (items : List FrontierItem)
    (record : FrontierItem) : Outcome → List Statement
  | .reobserveRequired inspectId => reobserve canonicalKey config items record inspectId
  | .outOfScope => [.append record.frontierId .blockedScope]
  | .invocationFailed => [.append record.frontierId .failedTerminal]
  | .unknownOutcome => []
  | .observationProduced proposals =>
      proposals.map .propose ++ [.append record.frontierId .observed]
  | .reauthorizationRequired proposals =>
      proposals.map .propose ++ [.append record.frontierId .awaitingReauthorization]
  | .otherwise proposals => proposals.map .propose

end Outcomes

/-- What a transaction that only writes is for. -/
inductive Script where
  | starting
  | projecting
  | closing
  deriving DecidableEq

inductive Phase where
  | idle
  /-- There is no configuration yet. -/
  | opening
  | ready
  | writing (script : Script) (todo : List Statement)
  | choosing
  | locked (item : FrontierItem)
  | claiming (item : FrontierItem) (event : FrontierEvent)
  | selected (item : FrontierItem)
  /-- The selection is committed. -/
  | granted (item : FrontierItem)

namespace Phase

/-- The events that a transaction still has to enter. -/
def todo : Phase → List Statement
  | .writing _ todo => todo
  | .claiming _ event => [.insert event]
  | _ => []

/-- The item that the transaction has locked. -/
def lock : Phase → Option Text
  | .locked item | .claiming item _ | .selected item => some item.frontierId
  | _ => none

end Phase

abbrev FrontierSystem := Processes RunnerId FrontierRow Phase

inductive Move where
  | call (p : RunnerId)
  | fail (p : RunnerId)

section System

variable (canonicalKey : List Text → Text) (start : RunnerId → DiscoveryRunConfig)

/-- One statement of one runner, its commit or its failure.  What is projected, and which
items the reads before the lock lead to, is left open; an insert waits while another open
transaction has one of its keys, and the lock of an item while another one has it. -/
inductive FrontierStep (s : FrontierSystem) : Move → FrontierSystem → Prop where
  | open {p : RunnerId} (h : s.phase p = .idle)
      (hnone : ∀ c, .config c ∈ s.store.visible p →
        c.researchRunId ≠ (start p).researchRunId) :
      FrontierStep s (.call p) (s.goto p .opening)
  /-- `assert_runtime_matches_persisted`: another configuration is a failure. -/
  | resume {p : RunnerId} (h : s.phase p = .idle)
      (hmem : .config (start p) ∈ s.store.visible p) :
      FrontierStep s (.call p) (s.goto p .ready)
  | configure {p : RunnerId} (h : s.phase p = .opening) (seeds : List FrontierItem)
      (hseeds : ∀ i ∈ seeds, i.researchRunId = (start p).researchRunId)
      (hfree : s.store.Free FrontierRow.keys (.config (start p))) :
      FrontierStep s (.call p)
        (s.insert p (.config (start p)) (.writing .starting (seeds.map .propose)))
  | started {p : RunnerId} (h : s.phase p = .writing .starting []) :
      FrontierStep s (.call p) (s.commit p .ready)
  | project {p : RunnerId} (h : s.phase p = .ready) (proposals : List FrontierItem)
      (hproposals : ∀ i ∈ proposals, i.researchRunId = (start p).researchRunId) :
      FrontierStep s (.call p) (s.goto p (.writing .projecting (proposals.map .propose)))
  | projected {p : RunnerId} (h : s.phase p = .writing .projecting []) :
      FrontierStep s (.call p) (s.goto p .choosing)
  | propose {p : RunnerId} {script : Script} {i : FrontierItem} {rest : List Statement}
      (created eligible : Text) (h : s.phase p = .writing script (.propose i :: rest))
      (hfree : s.store.Free FrontierRow.keys (.item i)) :
      FrontierStep s (.call p) (s.insert p (.item i) (.writing script
        (.insert ⟨created, i.frontierId, .created, 1, none⟩ ::
          .insert ⟨eligible, i.frontierId, .eligible, 2, none⟩ :: rest)))
  | append {p : RunnerId} {script : Script} {frontierId : Text} {eventKind : FrontierEventKind}
      {rest : List Statement} (eventId : Text)
      (h : s.phase p = .writing script (.append frontierId eventKind :: rest)) :
      FrontierStep s (.call p) (s.goto p (.writing script
        (.insert (nextEvent (s.store.visible p) eventId frontierId eventKind none) :: rest)))
  | insert {p : RunnerId} {script : Script} {e : FrontierEvent} {rest : List Statement}
      (h : s.phase p = .writing script (.insert e :: rest))
      (hfree : s.store.Free FrontierRow.keys (.event e)) :
      FrontierStep s (.call p) (s.insert p (.event e) (.writing script rest))
  /-- The run is at one of its bounds, or nothing is eligible. -/
  | stop {p : RunnerId} (h : s.phase p = .choosing) :
      FrontierStep s (.call p) (s.commit p .idle)
  | block {p : RunnerId} {i : FrontierItem} (h : s.phase p = .choosing)
      (hmem : i ∈ itemsOfRun (s.store.visible p) (start p).researchRunId)
      (horigin : i.candidateOrigin ≠ (start p).normalizedOrigin) :
      FrontierStep s (.call p)
        (s.goto p (.writing .closing [.append i.frontierId .blockedScope]))
  | lock {p : RunnerId} {i : FrontierItem} (h : s.phase p = .choosing)
      (hmem : i ∈ itemsOfRun (s.store.visible p) (start p).researchRunId)
      (horigin : i.candidateOrigin = (start p).normalizedOrigin)
      (hlock : ∀ q, (s.phase q).lock = some i.frontierId → q = p) :
      FrontierStep s (.call p) (s.goto p (.locked i))
  /-- `claim_frontier_selected`: an item that is not eligible is a failure. -/
  | claim {p : RunnerId} {i : FrontierItem} (eventId : Text) (h : s.phase p = .locked i)
      (hlegal : legalFrontierTransition
        ((listForFrontier (s.store.visible p) i.frontierId).getLast?.map (·.eventKind))
        .selected = true) :
      FrontierStep s (.call p) (s.goto p (.claiming i
        (nextEvent (s.store.visible p) eventId i.frontierId .selected
          (some (nextSelectionGeneration (listForFrontier (s.store.visible p) i.frontierId))))))
  | select {p : RunnerId} {i : FrontierItem} {e : FrontierEvent} (h : s.phase p = .claiming i e)
      (hfree : s.store.Free FrontierRow.keys (.event e)) :
      FrontierStep s (.call p) (s.insert p (.event e) (.selected i))
  | grant {p : RunnerId} {i : FrontierItem} (h : s.phase p = .selected i) :
      FrontierStep s (.call p) (s.commit p (.granted i))
  | finish {p : RunnerId} {i : FrontierItem} (outcome : Outcome) (h : s.phase p = .granted i)
      (hproposals : ∀ j ∈ outcome.proposals, j.researchRunId = (start p).researchRunId) :
      FrontierStep s (.call p) (s.goto p (.writing .closing
        (outcome.statements canonicalKey (start p)
          (itemsOfRun (s.store.visible p) i.researchRunId) i)))
  | closed {p : RunnerId} (h : s.phase p = .writing .closing []) :
      FrontierStep s (.call p) (s.commit p .idle)
  /-- A refused insert, any other error, or the end of the process. -/
  | fail {p : RunnerId} : FrontierStep s (.fail p) (s.rollback p .idle)

end System

end Zest.Discovery

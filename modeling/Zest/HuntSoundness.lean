import Mathlib.Order.Bounds.Basic
import Zest.Coverage
import Zest.TransitionSystem

/-! # What the hunt leaves in the ledger

The writers of the audit events and the reader of the coverage matrix meet in
the ledger only.  What the matrix is to show of a cell is stated here over the
ledger: the greatest of the states that its hypotheses have attained
(`Attained`).

What the writers keep is an invariant of the ledger (`Ledger.Sound`): the events
of a hypothesis name one cell, no tier is passed before V1, and no event is of a
type that the reader looks for.  One cycle keeps it wherever it is stopped
(`runHuntCycle_holds`), and so do any number of them (`onward_of_run`).
-/
namespace Zest.Hunt

open UnitOfWork TransitionSystem

/-! ## What has been attained -/

namespace CoverageState

/-- Higher values mean more coverage. -/
def rank : CoverageState → Nat
  | notApplicable => 0
  | untested => 1
  | hypothesized => 2
  | v1Passed => 3
  | v2Passed => 4
  | v3Queued => 5
  | covered => 6

instance : PartialOrder CoverageState :=
  PartialOrder.lift rank fun a b h => by
    cases a <;> cases b <;> first | rfl | cases h

theorem le_iff {a b : CoverageState} : a ≤ b ↔ a.rank ≤ b.rank := Iff.rfl

end CoverageState

inductive ValidationTier where
  | v1
  | v2
  | v3
  deriving DecidableEq, Repr

namespace ValidationTier

def name : ValidationTier → String
  | v1 => "V1"
  | v2 => "V2"
  | v3 => "V3"

/-- The outcome of a hypothesis that goes on. -/
def passedOutcome : ValidationTier → String
  | v1 | v2 => "PASSED"
  | v3 => "QUEUED"

def state : ValidationTier → CoverageState
  | v1 => .v1Passed
  | v2 => .v2Passed
  | v3 => .v3Queued

end ValidationTier

/-- The event records that a hypothesis has passed the tier, or is queued for
it. -/
def AuditEventRecord.Passes (event : AuditEventRecord) (hypothesisId : Id)
    (tier : ValidationTier) : Prop :=
  event.subject = .hypothesis hypothesisId ∧ event.payload.tier = some tier.name ∧
    event.payload.outcome = some tier.passedOutcome

/-- It is on record that the hypothesis has passed the tier. -/
def Passed (s : Ledger) (hypothesisId : Id) (tier : ValidationTier) : Prop :=
  ∃ event ∈ s.auditEvents, event.Passes hypothesisId tier

/-- The hypothesis was generated for the node and the family. -/
def Generated (s : Ledger) (hypothesisId : Id) (nodeKey familyId : Text) : Prop :=
  ∃ event ∈ s.auditEvents, event.eventType = "HUNT_HYPOTHESIS_GENERATED" ∧
    event.subject = .hypothesis hypothesisId ∧ event.payload.nodeCanonicalKey = some nodeKey ∧
    event.payload.familyId = some familyId

/-- The hypothesis is one of the run, for the cell. -/
structure OfCell (s : Ledger) (researchRunId : Id) (cell : CoverageCell)
    (hypothesis : HypothesisRecord) : Prop where
  mem : hypothesis ∈ s.hypotheses
  run : hypothesis.researchRunId = researchRunId
  identity : hypothesis.identityId = some cell.identityId
  generated : Generated s hypothesis.hypothesisId cell.nodeCanonicalKey cell.familyId

/-- The states that a cell has attained. -/
inductive Attained (s : Ledger) (researchRunId : Id) (cell : CoverageCell) : CoverageState → Prop
  | untested : Attained s researchRunId cell .untested
  | hypothesized {hypothesis : HypothesisRecord} (h : OfCell s researchRunId cell hypothesis) :
      Attained s researchRunId cell .hypothesized
  | tier {hypothesis : HypothesisRecord} {tier : ValidationTier}
      (h : OfCell s researchRunId cell hypothesis)
      (hpassed : Passed s hypothesis.hypothesisId tier) :
      Attained s researchRunId cell tier.state

/-- The rows of the run as the database lists them, in some order. -/
structure Listed (s : Ledger) (researchRunId : Id) (hypotheses : List HypothesisRecord)
    (events : List AuditEventRecord) : Prop where
  hypotheses : hypotheses.Perm
    (s.hypotheses.filter fun hypothesis => hypothesis.researchRunId = researchRunId)
  events : events.Perm (s.auditEvents.filter fun event =>
    match event.subject with
    | .hypothesis _ => true
    | .huntGeneration _ => false)

/-! ## The ledger only grows -/

structure Grows (s t : Ledger) : Prop where
  hypotheses : s.hypotheses ⊆ t.hypotheses
  auditEvents : s.auditEvents ⊆ t.auditEvents

namespace Grows

variable {s t u : Ledger} {hypothesisId : Id} {tier : ValidationTier} {nodeKey familyId : Text}
  {researchRunId : Id} {cell : CoverageCell} {hypothesis : HypothesisRecord}

theorem refl (s : Ledger) : Grows s s := ⟨List.Subset.refl _, List.Subset.refl _⟩

theorem trans (h : Grows s t) (h' : Grows t u) : Grows s u :=
  ⟨List.Subset.trans h.hypotheses h'.hypotheses, List.Subset.trans h.auditEvents h'.auditEvents⟩

theorem record (s : Ledger) (event : AuditEventRecord) : Grows s (s.record event) :=
  ⟨List.Subset.refl _, List.subset_append_left _ _⟩

theorem passed (h : Grows s t) (hpassed : Passed s hypothesisId tier) :
    Passed t hypothesisId tier := by
  obtain ⟨event, hmem, hevent⟩ := hpassed
  exact ⟨event, h.auditEvents hmem, hevent⟩

theorem generated (h : Grows s t) (hgenerated : Generated s hypothesisId nodeKey familyId) :
    Generated t hypothesisId nodeKey familyId := by
  obtain ⟨event, hmem, hevent⟩ := hgenerated
  exact ⟨event, h.auditEvents hmem, hevent⟩

theorem ofCell (h : Grows s t) (hcell : OfCell s researchRunId cell hypothesis) :
    OfCell t researchRunId cell hypothesis :=
  ⟨h.hypotheses hcell.mem, hcell.run, hcell.identity, h.generated hcell.generated⟩

end Grows

/-! ## What the writers keep -/

/-- The event is about the run, the node and the family. -/
structure AuditEventRecord.Names (event : AuditEventRecord) (researchRunId : Id)
    (nodeKey familyId : Text) : Prop where
  correlation : event.correlationId = some researchRunId
  run : event.payload.researchRunId = some researchRunId
  node : event.payload.nodeCanonicalKey = some nodeKey
  family : event.payload.familyId = some familyId

structure Ledger.Sound (s : Ledger) : Prop where
  distinct : ∀ a ∈ s.hypotheses, ∀ b ∈ s.hypotheses, a.hypothesisId = b.hypothesisId → a = b
  /-- A hypothesis has an identity, was generated for a node and a family, and
  every event about it names these. -/
  bound : ∀ h ∈ s.hypotheses, ∃ nodeKey familyId, h.identityId ≠ none ∧
    Generated s h.hypothesisId nodeKey familyId ∧
    ∀ event ∈ s.auditEvents, event.subject = .hypothesis h.hypothesisId →
      event.Names h.researchRunId nodeKey familyId
  owned : ∀ event ∈ s.auditEvents, ∀ hypothesisId, event.subject = .hypothesis hypothesisId →
    ∃ h ∈ s.hypotheses, h.hypothesisId = hypothesisId
  /-- No event is of a type that the reader of coverage looks for. -/
  unread : ∀ event ∈ s.auditEvents, tierPassEvents event.eventType = none
  ordered : ∀ hypothesisId tier, Passed s hypothesisId tier → Passed s hypothesisId .v1

namespace Ledger.Sound

variable {s t : Ledger} {hypothesis : HypothesisRecord} {event : AuditEventRecord}
  {nodeKey familyId : Text}

/-- The node and the family of a hypothesis are those it was generated for. -/
theorem names (hs : s.Sound) (hmem : hypothesis ∈ s.hypotheses)
    (hgenerated : Generated s hypothesis.hypothesisId nodeKey familyId) :
    ∀ event ∈ s.auditEvents, event.subject = .hypothesis hypothesis.hypothesisId →
      event.Names hypothesis.researchRunId nodeKey familyId := by
  obtain ⟨nodeKey', familyId', -, -, hnames⟩ := hs.bound hypothesis hmem
  obtain ⟨generation, hgen, -, hsubject, hnode, hfamily⟩ := hgenerated
  have hlabel := hnames generation hgen hsubject
  have hnodes : nodeKey' = nodeKey := Option.some.inj (hlabel.node.symm.trans hnode)
  have hfamilies : familyId' = familyId := Option.some.inj (hlabel.family.symm.trans hfamily)
  rw [← hnodes, ← hfamilies]
  exact hnames

/-- **One more event**: if it is about a hypothesis, it names its cell. -/
theorem record (hs : s.Sound) (hunread : tierPassEvents event.eventType = none)
    (hfits : ∀ hypothesisId, event.subject = .hypothesis hypothesisId →
      ∃ h ∈ s.hypotheses, h.hypothesisId = hypothesisId ∧ ∃ nodeKey familyId,
        Generated s hypothesisId nodeKey familyId ∧ event.Names h.researchRunId nodeKey familyId ∧
        ∀ tier, event.Passes hypothesisId tier → tier = .v1 ∨ Passed s hypothesisId .v1) :
    (s.record event).Sound := by
  have hgrows := Grows.record s event
  refine ⟨hs.distinct, ?_, ?_, ?_, ?_⟩
  · intro h hh
    obtain ⟨nodeKey, familyId, hidentity, hgen, hall⟩ := hs.bound h hh
    refine ⟨nodeKey, familyId, hidentity, hgrows.generated hgen, ?_⟩
    intro other hother hsub
    rcases List.mem_append.mp hother with hold | hnew
    · exact hall other hold hsub
    · rw [List.mem_singleton.mp hnew] at hsub ⊢
      obtain ⟨h', hh', hid, nodeKey', familyId', hgen', hnames, -⟩ := hfits _ hsub
      have hsame := hs.distinct _ hh' _ hh hid
      subst hsame
      -- the generation of the hypothesis settles the cell
      obtain ⟨generation, hin, -, hgsub, hgnode, hgfamily⟩ := hgen
      have hg := hs.names hh' hgen' generation hin hgsub
      have hnodes : nodeKey = nodeKey' := Option.some.inj (hgnode.symm.trans hg.node)
      have hfamilies : familyId = familyId' := Option.some.inj (hgfamily.symm.trans hg.family)
      rw [hnodes, hfamilies]
      exact hnames
  · intro other hother hypothesisId hsub
    rcases List.mem_append.mp hother with hold | hnew
    · exact hs.owned other hold hypothesisId hsub
    · rw [List.mem_singleton.mp hnew] at hsub
      obtain ⟨h, hh, hid, -⟩ := hfits _ hsub
      exact ⟨h, hh, hid⟩
  · intro other hother
    rcases List.mem_append.mp hother with hold | hnew
    · exact hs.unread other hold
    · rw [List.mem_singleton.mp hnew]
      exact hunread
  · rintro hypothesisId tier ⟨other, hother, hpasses⟩
    rcases List.mem_append.mp hother with hold | hnew
    · exact hgrows.passed (hs.ordered hypothesisId tier ⟨other, hold, hpasses⟩)
    · have hevent := List.mem_singleton.mp hnew
      subst hevent
      obtain ⟨-, -, -, -, -, -, -, hordered⟩ := hfits _ hpasses.1
      rcases hordered tier hpasses with rfl | hpassed
      · exact ⟨other, hother, hpasses⟩
      · exact hgrows.passed hpassed

/-- **A new hypothesis**, with the event of its generation. -/
theorem generate (hs : s.Sound)
    (hnew : ∀ h ∈ s.hypotheses, h.hypothesisId ≠ hypothesis.hypothesisId)
    (hidentity : hypothesis.identityId ≠ none)
    (htype : event.eventType = "HUNT_HYPOTHESIS_GENERATED")
    (hsubject : event.subject = .hypothesis hypothesis.hypothesisId)
    (hnames : event.Names hypothesis.researchRunId nodeKey familyId)
    (htier : event.payload.tier = none) (ht : t.hypotheses = s.hypotheses ++ [hypothesis])
    (ht' : t.auditEvents = s.auditEvents ++ [event]) : t.Sound := by
  have hgrows : Grows s t := by
    constructor
    · rw [ht]
      exact List.subset_append_left _ _
    · rw [ht']
      exact List.subset_append_left _ _
  have hfresh : ∀ other ∈ s.auditEvents, other.subject ≠ .hypothesis hypothesis.hypothesisId := by
    intro other hother hsub
    obtain ⟨h, hh, hid⟩ := hs.owned other hother _ hsub
    exact hnew h hh hid
  refine ⟨?_, ?_, ?_, ?_, ?_⟩
  · rw [ht]
    intro a ha b hb hid
    rcases List.mem_append.mp ha with ha | ha
    · rcases List.mem_append.mp hb with hb | hb
      · exact hs.distinct a ha b hb hid
      · rw [List.mem_singleton.mp hb] at hid
        exact absurd hid (hnew a ha)
    · rw [List.mem_singleton.mp ha] at hid ⊢
      rcases List.mem_append.mp hb with hb | hb
      · exact absurd hid.symm (hnew b hb)
      · exact (List.mem_singleton.mp hb).symm
  · rw [ht]
    intro h hh
    rcases List.mem_append.mp hh with hold | hlast
    · obtain ⟨nodeKey', familyId', hid, hgen, hall⟩ := hs.bound h hold
      refine ⟨nodeKey', familyId', hid, hgrows.generated hgen, ?_⟩
      rw [ht']
      intro other hother hsub
      rcases List.mem_append.mp hother with hother | hother
      · exact hall other hother hsub
      · rw [List.mem_singleton.mp hother, hsubject] at hsub
        exact absurd (AuditSubject.hypothesis.inj hsub).symm (hnew h hold)
    · rw [List.mem_singleton.mp hlast]
      refine ⟨nodeKey, familyId, hidentity, ⟨event, ?_, htype, hsubject, hnames.node,
        hnames.family⟩, ?_⟩
      · rw [ht']
        exact List.mem_append_right _ (List.mem_singleton_self _)
      · rw [ht']
        intro other hother hsub
        rcases List.mem_append.mp hother with hother | hother
        · exact absurd hsub (hfresh other hother)
        · rw [List.mem_singleton.mp hother]
          exact hnames
  · rw [ht, ht']
    intro other hother hypothesisId hsub
    rcases List.mem_append.mp hother with hother | hother
    · obtain ⟨h, hh, hid⟩ := hs.owned other hother _ hsub
      exact ⟨h, List.mem_append_left _ hh, hid⟩
    · rw [List.mem_singleton.mp hother, hsubject] at hsub
      exact ⟨hypothesis, List.mem_append_right _ (List.mem_singleton_self _),
        AuditSubject.hypothesis.inj hsub⟩
  · rw [ht']
    intro other hother
    rcases List.mem_append.mp hother with hother | hother
    · exact hs.unread other hother
    · rw [List.mem_singleton.mp hother, htype]
      rfl
  · rintro hypothesisId tier ⟨other, hother, hpasses⟩
    rw [ht'] at hother
    rcases List.mem_append.mp hother with hother | hother
    · exact hgrows.passed (hs.ordered hypothesisId tier ⟨other, hother, hpasses⟩)
    · have hnone := hpasses.2.1
      rw [List.mem_singleton.mp hother, htier] at hnone
      cases hnone

end Ledger.Sound

/-! ## What one cycle does -/

section Cycle

variable {services : HuntServices} {now : Instant} {researchRunId : Id} {s t : Ledger}

/-- The source of a hypothesis names what it was generated for. -/
def HypothesisSource.Tracked (source : HypothesisSource) (graph : AttackSurfaceGraph)
    (s : Ledger) : Prop :=
  ∃ h ∈ s.hypotheses, h.hypothesisId = source.hypothesisId ∧ ∃ node ∈ graph.nodes,
    node.nodeId = source.nodeId ∧ Generated s h.hypothesisId node.canonicalKey source.familyId

theorem HypothesisSource.Tracked.grows {source : HypothesisSource} {graph : AttackSurfaceGraph}
    (h : source.Tracked graph s) (hgrows : Grows s t) : source.Tracked graph t := by
  obtain ⟨hypothesis, hmem, hid, node, hnode, hnodeId, hgen⟩ := h
  exact ⟨hypothesis, hgrows.hypotheses hmem, hid, node, hnode, hnodeId, hgrows.generated hgen⟩

theorem insertHypothesis_eq_some {hypothesis : HypothesisRecord}
    (h : s.insertHypothesis hypothesis = some t) :
    (∀ row ∈ s.hypotheses, row.hypothesisId ≠ hypothesis.hypothesisId) ∧
      t = { s with hypotheses := s.hypotheses ++ [hypothesis] } := by
  unfold Ledger.insertHypothesis at h
  split at h
  · cases h
  · rename_i hnone
    refine ⟨fun row hrow hid => hnone ?_, (Option.some.inj h).symm⟩
    exact List.any_eq_true.mpr ⟨row, hrow, decide_eq_true hid⟩

/-- `_emit_hypothesis` generates one hypothesis for the node and the family. -/
theorem emitHypothesis_sound {hypothesisId : Id} {node : AttackSurfaceNode}
    {family : HunterFamilyView} {identityId : Text} (hs : s.Sound)
    (h : emitHypothesis services now researchRunId hypothesisId node family identityId s = some t) :
    t.Sound ∧ Grows s t ∧ ∃ hypothesis ∈ t.hypotheses, hypothesis.hypothesisId = hypothesisId ∧
      Generated t hypothesisId node.canonicalKey family.familyId := by
  unfold emitHypothesis at h
  obtain ⟨claim, -, h⟩ := Option.bind_eq_some_iff.mp h
  split at h
  · cases h
  · obtain ⟨inserted, hinsert, hrecord⟩ := Option.bind_eq_some_iff.mp h
    obtain ⟨hnew, hinserted⟩ := insertHypothesis_eq_some hinsert
    have ht := Option.some.inj hrecord
    subst hinserted
    subst ht
    refine ⟨hs.generate hnew (by simp) rfl rfl ⟨rfl, rfl, rfl, rfl⟩ rfl rfl rfl, ?_, ?_⟩
    · exact ⟨List.subset_append_left _ _, List.subset_append_left _ _⟩
    · refine ⟨_, List.mem_append_right _ (List.mem_singleton_self _), rfl, ?_⟩
      exact ⟨_, List.mem_append_right _ (List.mem_singleton_self _), rfl, rfl, rfl, rfl⟩

/-- The node that an emission is about. -/
def Emission.node : Emission → AttackSurfaceNode
  | .hypothesis node _ _ => node
  | .capped node _ _ => node

theorem emitAll_sound {newId : Nat → Id} {graph : AttackSurfaceGraph} {emissions : List Emission}
    {n : Nat} {sources : List HypothesisSource} (hs : s.Sound)
    (hnodes : ∀ emission ∈ emissions, emission.node ∈ graph.nodes)
    (h : emitAll services now researchRunId newId emissions n s = some (t, sources)) :
    t.Sound ∧ Grows s t ∧ ∀ source ∈ sources, source.Tracked graph t := by
  induction emissions generalizing n s t sources with
  | nil =>
    cases h
    exact ⟨hs, Grows.refl s, fun _ hsource => absurd hsource (List.not_mem_nil)⟩
  | cons emission rest ih =>
    obtain ⟨hnode, hrest⟩ := List.forall_mem_cons.mp hnodes
    cases emission with
    | capped node family totalIdentities =>
      have hcapped : (s.record (cappedAudit now researchRunId family.familyId node.canonicalKey
          totalIdentities)).Sound :=
        hs.record rfl (fun _ hsubject => by cases hsubject)
      obtain ⟨hsound, hgrows, htracked⟩ := ih hcapped hrest h
      exact ⟨hsound, (Grows.record _ _).trans hgrows, htracked⟩
    | hypothesis node family identityId =>
      obtain ⟨middle, hemit, h⟩ := Option.bind_eq_some_iff.mp h
      obtain ⟨⟨last, tail⟩, hall, h⟩ := Option.bind_eq_some_iff.mp h
      obtain ⟨hmiddle, hfirst, hypothesis, hmem, hid, hgen⟩ := emitHypothesis_sound hs hemit
      cases h
      obtain ⟨hsound, hgrows, htracked⟩ := ih hmiddle hrest hall
      refine ⟨hsound, hfirst.trans hgrows, List.forall_mem_cons.mpr ⟨?_, htracked⟩⟩
      have hsource : HypothesisSource.Tracked ⟨newId n, node.nodeId, family.familyId, identityId⟩
          graph middle := ⟨hypothesis, hmem, hid, node, hnode, rfl, hid ▸ hgen⟩
      exact hsource.grows hgrows

/-- Generation is about nodes of the graph. -/
theorem node_mem_emissionsFromGraph {graph : AttackSurfaceGraph}
    {registry : List HunterFamilyView} :
    ∀ emission ∈ emissionsFromGraph graph registry, emission.node ∈ graph.nodes := by
  intro emission hemission
  obtain ⟨node, hnode, hin⟩ := List.mem_flatMap.mp hemission
  obtain ⟨family, -, hin⟩ := List.mem_flatMap.mp hin
  rcases List.mem_append.mp hin with hin | hin
  · obtain ⟨identityId, -, rfl⟩ := List.mem_map.mp hin
    exact hnode
  · split at hin
    · rw [List.mem_singleton.mp hin]
      exact hnode
    · cases hin

theorem node_mem_emissionsFromSchedule {graph : AttackSurfaceGraph}
    {registry : List HunterFamilyView} {schedule : List CoverageCell} :
    ∀ emission ∈ emissionsFromSchedule graph registry schedule, emission.node ∈ graph.nodes := by
  intro emission hemission
  obtain ⟨cell, -, hcell⟩ := List.mem_filterMap.mp hemission
  split at hcell
  · cases hcell
  · split at hcell
    next node family hnode hfamily =>
      cases hcell
      exact List.mem_reverse.mp (List.mem_of_find?_eq_some hnode)
    · cases hcell

theorem generateHuntHypotheses_sound {newId : Nat → Id} {command : RunHuntCycleCommand}
    {registry : List HunterFamilyView} {sources : List HypothesisSource} (hs : s.Sound)
    (h : generateHuntHypotheses services now newId command registry s = some (t, sources)) :
    t.Sound ∧ Grows s t ∧ ∀ source ∈ sources, source.Tracked command.graph t := by
  unfold generateHuntHypotheses at h
  cases hschedule : command.schedule with
  | none =>
    rw [hschedule] at h
    exact emitAll_sound hs node_mem_emissionsFromGraph h
  | some schedule =>
    rw [hschedule] at h
    exact emitAll_sound hs node_mem_emissionsFromSchedule h

/-- No event that the validator writes is of a type that the reader looks
for. -/
theorem tierPassEvents_eventTypeForTier (tier outcome : String) :
    tierPassEvents (eventTypeForTier tier outcome) = none := by
  unfold eventTypeForTier
  split
  · split <;> decide
  · split
    · split <;> decide
    · split <;> decide

theorem ValidationTier.eq_v1_of_name {tier : ValidationTier} (h : tier.name = "V1") :
    tier = .v1 := by
  cases tier with
  | v1 => rfl
  | v2 => exact absurd h (by decide)
  | v3 => exact absurd h (by decide)

/-- A hypothesis that was generated for the node and the family is being
validated. -/
structure Validating (s : Ledger) (hypothesis : HypothesisRecord) (nodeKey familyId : Text) :
    Prop where
  sound : s.Sound
  mem : hypothesis ∈ s.hypotheses
  generated : Generated s hypothesis.hypothesisId nodeKey familyId

/-- One decision about the hypothesis: V1, or a later one after V1. -/
theorem Validating.tier {hypothesis : HypothesisRecord} {nodeKey familyId : Text}
    (hv : Validating s hypothesis nodeKey familyId) (now : Instant)
    (tier outcome reasonCode : String) (queueId : Option Id)
    (hordered : tier = "V1" ∨ Passed s hypothesis.hypothesisId .v1) :
    Validating (s.record (tierAudit now hypothesis.researchRunId hypothesis.hypothesisId familyId
      tier outcome reasonCode nodeKey queueId)) hypothesis nodeKey familyId := by
  refine ⟨hv.sound.record (tierPassEvents_eventTypeForTier tier outcome) ?_, hv.mem,
    (Grows.record s _).generated hv.generated⟩
  intro hypothesisId hsubject
  have hid := AuditSubject.hypothesis.inj hsubject
  subst hid
  refine ⟨hypothesis, hv.mem, rfl, nodeKey, familyId, hv.generated, ⟨rfl, rfl, rfl, rfl⟩, ?_⟩
  rintro t ⟨-, htier, -⟩
  have hname : tier = t.name := Option.some.inj htier
  rcases hordered with hv1 | hpassed
  · exact Or.inl (ValidationTier.eq_v1_of_name (hname.symm.trans hv1))
  · exact Or.inr hpassed

theorem enqueueV3_eq_some {queueId : Id} {command : ValidateHuntTiersCommand}
    {node : AttackSurfaceNode} {identityId : Option Text}
    (h : enqueueV3 services queueId command node identityId s = some t) :
    t.hypotheses = s.hypotheses ∧ t.auditEvents = s.auditEvents := by
  unfold enqueueV3 at h
  split at h
  · cases h
  · obtain ⟨capability, -, h⟩ := Option.bind_eq_some_iff.mp h
    obtain ⟨action, -, h⟩ := Option.bind_eq_some_iff.mp h
    obtain ⟨claim, -, h⟩ := Option.bind_eq_some_iff.mp h
    obtain ⟨arguments, -, h⟩ := Option.bind_eq_some_iff.mp h
    split at h
    · cases h
    · unfold Ledger.enqueue at h
      split at h
      · cases h
      · cases h
        exact ⟨rfl, rfl⟩

/-- The queue of V3 is no part of what is kept. -/
theorem Validating.enqueue {hypothesis : HypothesisRecord} {nodeKey familyId : Text}
    (hv : Validating s hypothesis nodeKey familyId) (hhypotheses : t.hypotheses = s.hypotheses)
    (hevents : t.auditEvents = s.auditEvents) : Validating t hypothesis nodeKey familyId := by
  cases s
  cases t
  cases hhypotheses
  cases hevents
  exact ⟨⟨hv.sound.distinct, hv.sound.bound, hv.sound.owned, hv.sound.unread, hv.sound.ordered⟩,
    hv.mem, hv.generated⟩

theorem validateTiers_sound {queueId : Id} {command : ValidateHuntTiersCommand}
    {hypothesis : HypothesisRecord} {node : AttackSurfaceNode} {result : ValidateHuntTiersResult}
    (hv : Validating s hypothesis node.canonicalKey command.family.familyId)
    (hid : hypothesis.hypothesisId = command.hypothesisId)
    (hrun : hypothesis.researchRunId = command.researchRunId)
    (h : validateTiers services now queueId command hypothesis node s = some (t, result)) :
    t.Sound ∧ Grows s t := by
  unfold validateTiers at h
  rw [← hid, ← hrun] at h
  have hfirst := hv.tier now "V1" "PASSED" "STATIC_PRECONDITIONS_MET" none (Or.inl rfl)
  have hgrows := Grows.record s (tierAudit now hypothesis.researchRunId hypothesis.hypothesisId
    command.family.familyId "V1" "PASSED" "STATIC_PRECONDITIONS_MET" node.canonicalKey none)
  have hpassed : Passed (s.record (tierAudit now hypothesis.researchRunId hypothesis.hypothesisId
      command.family.familyId "V1" "PASSED" "STATIC_PRECONDITIONS_MET" node.canonicalKey none))
      hypothesis.hypothesisId .v1 :=
    ⟨_, List.mem_append_right _ (List.mem_singleton_self _), rfl, rfl, rfl⟩
  dsimp only at h
  split at h
  · -- V1 rejects
    cases h
    exact ⟨(hv.tier now "V1" _ _ _ (Or.inl rfl)).sound, Grows.record _ _⟩
  · split at h
    · -- V2 rejects
      cases h
      exact ⟨(hfirst.tier now "V2" _ _ _ (Or.inr hpassed)).sound, hgrows.trans (Grows.record _ _)⟩
    · have hsecond := hfirst.tier now "V2" "PASSED"
        (v2PassiveCheck node command.family command.graph).2 none (Or.inr hpassed)
      have hgrows₂ := hgrows.trans (Grows.record _ (tierAudit now hypothesis.researchRunId
        hypothesis.hypothesisId command.family.familyId "V2" "PASSED"
        (v2PassiveCheck node command.family command.graph).2 node.canonicalKey none))
      split at h
      · split at h
        · cases h
        next s₃ hqueued =>
          -- the item of the queue, and the event about it
          cases h
          obtain ⟨hhypotheses, hevents⟩ := enqueueV3_eq_some hqueued
          have hthird := hsecond.enqueue hhypotheses hevents
          refine ⟨(hthird.tier now "V3" _ _ _ (Or.inr ?_)).sound, ?_⟩
          · obtain ⟨event, hmem, hevent⟩ := hpassed
            refine ⟨event, ?_, hevent⟩
            rw [hevents]
            exact List.mem_append_left _ hmem
          · refine hgrows₂.trans (Grows.trans ⟨?_, ?_⟩ (Grows.record _ _))
            · rw [hhypotheses]
              exact List.Subset.refl _
            · rw [hevents]
              exact List.Subset.refl _
      · cases h
        exact ⟨hsecond.sound, hgrows₂⟩

theorem validateHuntTiers_sound {queueId : Id} {command : ValidateHuntTiersCommand}
    {result : ValidateHuntTiersResult} {source : HypothesisSource} (hs : s.Sound)
    (htracked : source.Tracked command.graph s) (hsource : source.nodeId = command.nodeId)
    (hfamily : source.familyId = command.family.familyId)
    (hid : source.hypothesisId = command.hypothesisId)
    (h : validateHuntTiers services now queueId command s = some (t, result)) :
    t.Sound ∧ Grows s t := by
  unfold validateHuntTiers at h
  split at h
  · cases h
  next hypothesis hfound =>
    split at h
    · cases h
    next hrun =>
      split at h
      · cases h
      next node hnode =>
        have hmem := List.mem_of_find?_eq_some hfound
        have hthis : hypothesis.hypothesisId = command.hypothesisId := by
          simpa using List.find?_some hfound
        obtain ⟨hin, hthisNode⟩ := AttackSurfaceGraph.node_eq_some hnode
        obtain ⟨tracked, htrackedMem, htrackedId, node', hnode', hnodeId', hgen⟩ := htracked
        have hsame := hs.distinct _ hmem _ htrackedMem
          (hthis.trans (hid.symm.trans htrackedId.symm))
        subst hsame
        -- only one node of the graph has the id
        have hnodes := AttackSurfaceGraph.eq_of_nodeId hin hnode'
          (hthisNode.trans (hsource.symm.trans hnodeId'.symm))
        subst hnodes
        rw [hfamily] at hgen
        exact validateTiers_sound ⟨hs, hmem, hgen⟩ hthis (not_not.mp hrun) h

/-- What holds of the ledger from the start of a cycle on. -/
def Onward (s t : Ledger) : Prop := t.Sound ∧ Grows s t

theorem validateSources_holds {inputs : CycleInputs} {command : RunHuntCycleCommand}
    {registry : List HunterFamilyView} {sources : List HypothesisSource} {n : Nat}
    {counts : RunHuntCycleResult} {s₀ : Ledger} (hs : Onward s₀ s)
    (htracked : ∀ source ∈ sources, source.Tracked command.graph s) :
    Holds (Onward s₀) (fun _ _ => True)
      (validateSources services inputs command registry sources n counts) s := by
  induction sources generalizing n counts s with
  | nil => trivial
  | cons source rest ih =>
    obtain ⟨hsource, hrest⟩ := List.forall_mem_cons.mp htracked
    unfold validateSources
    split
    next family node hfamily hnode =>
      refine Holds.seq (holds_commit hs (Q := fun _ t => Onward s₀ t ∧ Grows s t) ?_) ?_
      · intro t result h
        obtain ⟨-, hthisNode⟩ := AttackSurfaceGraph.node_eq_some hnode
        have hthisFamily : family.familyId = source.familyId := by
          simpa using List.find?_some hfamily
        obtain ⟨hsound, hgrows⟩ := validateHuntTiers_sound hs.1 hsource hthisNode.symm
          hthisFamily.symm rfl h
        exact ⟨⟨hsound, hs.2.trans hgrows⟩, ⟨hsound, hs.2.trans hgrows⟩, hgrows⟩
      · rintro result t ⟨honward, hgrows⟩
        exact ih honward fun other hother => (hrest other hother).grows hgrows
    · exact ih hs hrest

/-- **A whole cycle**, stopped anywhere. -/
theorem runHuntCycle_holds {inputs : CycleInputs} {command : RunHuntCycleCommand} (hs : s.Sound) :
    Holds (Onward s) (fun _ _ => True) (runHuntCycle services inputs command) s := by
  have hstart : Onward s s := ⟨hs, Grows.refl s⟩
  have hgo : ∀ registry, Holds (Onward s) (fun _ _ => True) (do
      let sources ← Prog.commit
        (generateHuntHypotheses services (inputs.now 0) inputs.hypothesisId command registry)
      validateSources services inputs command registry sources 0
        ⟨sources.length, 0, 0, 0, []⟩) s := by
    intro registry
    refine Holds.seq (holds_commit hstart (Q := fun sources t => Onward s t ∧
      ∀ source ∈ sources, source.Tracked command.graph t) ?_) ?_
    · intro t sources h
      obtain ⟨hsound, hgrows, htracked⟩ := generateHuntHypotheses_sound hs h
      exact ⟨⟨hsound, hgrows⟩, ⟨hsound, hgrows⟩, htracked⟩
    · rintro sources t ⟨honward, htracked⟩
      exact validateSources_holds honward htracked
  unfold runHuntCycle
  cases command.registry with
  | some registry => exact hgo registry
  | none => exact ⟨hstart, hgo _⟩

end Cycle

/-! ## Any number of cycles -/

/-- What one cycle is started with. -/
structure CycleCall where
  inputs : CycleInputs
  command : RunHuntCycleCommand

/-- One cycle, up to where it returns, raises or is stopped. -/
def HuntStep (services : HuntServices) (s : Ledger) (call : CycleCall) (t : Ledger) : Prop :=
  ∃ r, Exec (runHuntCycle services call.inputs call.command) s r t

/-- A ledger in which no hunt has left anything. -/
structure Ledger.Fresh (s : Ledger) : Prop where
  hypotheses : s.hypotheses = []
  auditEvents : s.auditEvents = []

theorem Ledger.Fresh.sound {s : Ledger} (h : s.Fresh) : s.Sound := by
  refine ⟨?_, ?_, ?_, ?_, ?_⟩
  · rw [h.hypotheses]
    exact fun _ ha => absurd ha List.not_mem_nil
  · rw [h.hypotheses]
    exact fun _ ha => absurd ha List.not_mem_nil
  · rw [h.auditEvents]
    exact fun _ ha => absurd ha List.not_mem_nil
  · rw [h.auditEvents]
    exact fun _ ha => absurd ha List.not_mem_nil
  · rintro hypothesisId tier ⟨event, hevent, -⟩
    rw [h.auditEvents] at hevent
    cases hevent

variable {services : HuntServices} {s t : Ledger} {calls : List CycleCall}

theorem HuntStep.onward {call : CycleCall} (h : HuntStep services s call t) (hs : s.Sound) :
    Onward s t := by
  obtain ⟨r, hexec⟩ := h
  exact ((runHuntCycle_holds hs).sound ⟨hs, Grows.refl s⟩ hexec).1

/-- **A run of cycles** keeps the ledger sound, and it only grows. -/
theorem onward_of_run (h : Run (HuntStep services) s calls t) (hs : s.Sound) : Onward s t := by
  induction h with
  | nil => exact ⟨hs, Grows.refl _⟩
  | snoc _ hlast ih =>
    obtain ⟨hsound, hgrows⟩ := ih
    obtain ⟨hsound', hgrows'⟩ := hlast.onward hsound
    exact ⟨hsound', hgrows.trans hgrows'⟩

end Zest.Hunt

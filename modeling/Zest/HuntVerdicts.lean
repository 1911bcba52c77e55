import Zest.HuntSoundness

/-! # The verdicts of a hunt cycle

A cycle of the hunt takes its hypotheses one after another to a verdict.  Nothing
of a verdict that was given is lost: what is raised is raised before the next
hypothesis, and it ends the cycle.  It is raised by the queue of V3 alone, which
refuses what it cannot plan, so the hypotheses that a cycle leaves without a
verdict are the one that was refused and those after it.

Cycles know nothing of each other.  A hypothesis is queued once, and a cell as
often as there are hypotheses about it.
-/
namespace Zest.Hunt

open UnitOfWork TransitionSystem

/-! ## Verdicts -/

/-- What the tiers say of a hypothesis in the end. -/
inductive Verdict where
  | v1Rejected
  | v2Rejected
  | v2Passed
  | v3Queued
  deriving DecidableEq, Repr

namespace Verdict

/-- The types of the events that lead to the verdict. -/
def trail : Verdict → List String
  | v1Rejected => ["HUNT_TIER_V1_REJECTED"]
  | v2Rejected => ["HUNT_TIER_V1_PASSED", "HUNT_TIER_V2_REJECTED"]
  | v2Passed => ["HUNT_TIER_V1_PASSED", "HUNT_TIER_V2_PASSED"]
  | v3Queued => ["HUNT_TIER_V1_PASSED", "HUNT_TIER_V2_PASSED", "HUNT_TIER_V3_QUEUED"]

/-- A trail is that of one verdict. -/
theorem eq_of_trail {v w : Verdict} (h : v.trail = w.trail) : v = w := by
  revert h
  cases v <;> cases w <;> decide

theorem trail_ne_nil (v : Verdict) : v.trail ≠ [] := by
  cases v <;> decide

end Verdict

/-- The event is a decision of a tier about the hypothesis. -/
def AuditEventRecord.decides (event : AuditEventRecord) (hypothesisId : Id) : Bool :=
  event.subject = .hypothesis hypothesisId && event.payload.tier.isSome

namespace Ledger

/-- The decisions about a hypothesis, in their order. -/
def trail (s : Ledger) (hypothesisId : Id) : List String :=
  (s.auditEvents.filter (·.decides hypothesisId)).map (·.eventType)

theorem trail_record_of_decides {s : Ledger} {event : AuditEventRecord} {hypothesisId : Id}
    (h : event.decides hypothesisId = true) :
    (s.record event).trail hypothesisId = s.trail hypothesisId ++ [event.eventType] := by
  simp [trail, List.filter_append, h]

theorem trail_record_of_not_decides {s : Ledger} {event : AuditEventRecord} {hypothesisId : Id}
    (h : event.decides hypothesisId = false) :
    (s.record event).trail hypothesisId = s.trail hypothesisId := by
  simp [trail, List.filter_append, h]

end Ledger

theorem decides_tierAudit {now : Instant} {run hypothesisId : Id} {familyId key : Text}
    {tier outcome reasonCode : String} {queueId : Option Id} :
    (tierAudit now run hypothesisId familyId tier outcome reasonCode key queueId).decides
      hypothesisId = true := by
  simp [AuditEventRecord.decides, tierAudit]

theorem decides_tierAudit_other {now : Instant} {run hypothesisId other : Id} {familyId key : Text}
    {tier outcome reasonCode : String} {queueId : Option Id} (h : other ≠ hypothesisId) :
    (tierAudit now run hypothesisId familyId tier outcome reasonCode key queueId).decides
      other = false := by
  simp [AuditEventRecord.decides, tierAudit, h.symm]

/-- What holds of a ledger that only the hunt has written. -/
structure Ledger.Orderly (s : Ledger) : Prop where
  distinct : (s.hypotheses.map (·.hypothesisId)).Nodup
  decided : ∀ id, s.trail id = [] ∨ ∃ v : Verdict, s.trail id = v.trail
  owned : ∀ id, s.trail id ≠ [] → id ∈ s.hypotheses.map (·.hypothesisId)
  queued : ∀ item ∈ s.huntV3Queue, s.trail item.hypothesisId = Verdict.v3Queued.trail
  once : (s.huntV3Queue.map (·.hypothesisId)).Nodup

/-! ## The queue -/

/-- A cell, by its three keys. -/
abbrev CellKey := Text × Option Text × Text

def HuntV3QueueRecord.cell (item : HuntV3QueueRecord) : CellKey :=
  (item.nodeCanonicalKey, item.identityId, item.familyId)

/-- What the queue of V3 takes. -/
def queueable (services : HuntServices) (family : HunterFamilyView) (node : AttackSurfaceNode)
    (identityId : Option Text) : Bool :=
  node.scopeClassification = .inScope &&
  ((v3CapabilityForFamily family.name).bind v3ActionForCapability).isSome &&
  ((services.claimFromTemplate node family
      [("identity_id".toList, .text ((identityId.filter (· ≠ [])).getD anonymousIdentity))]).bind
    fun claim => services.v3ArgumentsForFamily family node claim identityId).isSome &&
  !(family.familyId.strip = [] ∨ node.canonicalKey.strip = [] ∨
    identityId.any (fun identity => identity.strip = []))

/-- The item is what a validation queues for the hypothesis. -/
structure HuntV3QueueRecord.For (item : HuntV3QueueRecord) (hypothesisId : Id)
    (cell : CellKey) : Prop where
  hypothesis : item.hypothesisId = hypothesisId
  cell : item.cell = cell
  pending : item.state = .pending

section Validation

variable {services : HuntServices} {queueId : Id} {command : ValidateHuntTiersCommand}
  {node : AttackSurfaceNode} {identityId : Option Text} {s t : Ledger}

theorem enqueueV3_queues (h : enqueueV3 services queueId command node identityId s = some t) :
    node.scopeClassification = .inScope ∧ ∃ item : HuntV3QueueRecord,
      t = { s with huntV3Queue := s.huntV3Queue ++ [item] } ∧
      item.For command.hypothesisId (node.canonicalKey, identityId, command.family.familyId) := by
  unfold enqueueV3 at h
  by_cases hscope : node.scopeClassification ≠ .inScope
  · rw [if_pos hscope] at h
    cases h
  rw [if_neg hscope] at h
  obtain ⟨capability, -, h⟩ := Option.bind_eq_some_iff.mp h
  obtain ⟨action, -, h⟩ := Option.bind_eq_some_iff.mp h
  obtain ⟨claim, -, h⟩ := Option.bind_eq_some_iff.mp h
  obtain ⟨arguments, -, h⟩ := Option.bind_eq_some_iff.mp h
  split at h
  · cases h
  unfold Ledger.enqueue at h
  split at h
  · cases h
  · exact ⟨not_not.mp hscope, _, (Option.some.inj h).symm, rfl, rfl, rfl⟩

theorem enqueueV3_refuses (h : enqueueV3 services queueId command node identityId s = none) :
    queueable services command.family node identityId = false ∨
      ∃ row ∈ s.huntV3Queue, row.queueId = queueId := by
  by_contra hno
  push Not at hno
  obtain ⟨hqueueable, hfree⟩ := hno
  have htaken := Bool.eq_true_of_not_eq_false hqueueable
  unfold queueable at htaken
  simp only [Bool.and_eq_true, decide_eq_true_eq, Bool.not_eq_true', decide_eq_false_iff_not]
    at htaken
  obtain ⟨⟨⟨hscope, haction⟩, hplan⟩, hblank⟩ := htaken
  obtain ⟨action, haction⟩ := Option.isSome_iff_exists.mp haction
  obtain ⟨capability, hcapability, haction⟩ := Option.bind_eq_some_iff.mp haction
  obtain ⟨arguments, hplan⟩ := Option.isSome_iff_exists.mp hplan
  obtain ⟨claim, hclaim, harguments⟩ := Option.bind_eq_some_iff.mp hplan
  have hnone : (s.huntV3Queue.any fun row => row.queueId = queueId) = false := by
    rw [List.any_eq_false]
    exact fun row hrow hid => hfree row hrow (of_decide_eq_true hid)
  unfold enqueueV3 at h
  simp only [if_neg (not_not.mpr hscope), hcapability, haction, hclaim, harguments,
    Option.bind_eq_bind, Option.bind_some, if_neg hblank, Ledger.enqueue, hnone] at h
  cases h

/-! ## One validation -/

/-- What a validation leaves: a verdict, and an item of the queue if it is to
queue. -/
structure Settles (s t : Ledger) (node : AttackSurfaceNode) (hypothesisId : Id) (cell : CellKey) :
    Prop where
  verdict : ∃ v : Verdict, t.trail hypothesisId = s.trail hypothesisId ++ v.trail ∧
    ∃ added, t.huntV3Queue = s.huntV3Queue ++ added ∧ (added = [] ∨
      v = .v3Queued ∧ node.scopeClassification = .inScope ∧
        ∃ item : HuntV3QueueRecord, added = [item] ∧ item.For hypothesisId cell)
  others : ∀ id, id ≠ hypothesisId → t.trail id = s.trail id
  hypotheses : t.hypotheses = s.hypotheses

/-- What the tiers pass and the queue does not take. -/
structure Refused (services : HuntServices) (graph : AttackSurfaceGraph)
    (family : HunterFamilyView) (node : AttackSurfaceNode) (identityId : Option Text)
    (queueId : Id) (s : Ledger) : Prop where
  v1 : v1StaticCheck node family graph = true
  v2 : (v2PassiveCheck node family graph).1 = true
  tier : family.validationTier = "V3"
  queue : queueable services family node identityId = false ∨
    ∃ row ∈ s.huntV3Queue, row.queueId = queueId

variable {now : Instant} {hypothesis : HypothesisRecord} {result : ValidateHuntTiersResult}

theorem validateTiers_settles
    (h : validateTiers services now queueId command hypothesis node s = some (t, result)) :
    Settles s t node command.hypothesisId
      (node.canonicalKey, hypothesis.identityId, command.family.familyId) := by
  have hothers : ∀ (u : Ledger) (tier outcome reasonCode : String) (queueId : Option Id) (id : Id),
      id ≠ command.hypothesisId → (u.record (tierAudit now command.researchRunId
        command.hypothesisId command.family.familyId tier outcome reasonCode node.canonicalKey
        queueId)).trail id = u.trail id :=
    fun u tier outcome reasonCode queueId id hid =>
      Ledger.trail_record_of_not_decides (decides_tierAudit_other hid)
  have hthis : ∀ (u : Ledger) (tier outcome reasonCode : String) (queueId : Option Id),
      (u.record (tierAudit now command.researchRunId command.hypothesisId command.family.familyId
        tier outcome reasonCode node.canonicalKey queueId)).trail command.hypothesisId =
          u.trail command.hypothesisId ++ [eventTypeForTier tier outcome] :=
    fun u tier outcome reasonCode queueId =>
      Ledger.trail_record_of_decides decides_tierAudit
  unfold validateTiers at h
  dsimp only at h
  split at h
  · -- V1 rejects
    cases h
    refine ⟨⟨.v1Rejected, hthis _ _ _ _ _, [], (List.append_nil _).symm, Or.inl rfl⟩,
      fun id hid => hothers _ _ _ _ _ id hid, rfl⟩
  split at h
  · -- V2 rejects
    cases h
    refine ⟨⟨.v2Rejected, ?_, [], (List.append_nil _).symm, Or.inl rfl⟩, fun id hid => ?_, rfl⟩
    · rw [hthis, hthis, List.append_assoc]
      rfl
    · rw [hothers _ _ _ _ _ id hid, hothers _ _ _ _ _ id hid]
  split at h
  · split at h
    · cases h
    next u hqueued =>
      -- the item goes before the last event
      cases h
      obtain ⟨hscope, item, rfl, hitem⟩ := enqueueV3_queues hqueued
      refine ⟨⟨.v3Queued, ?_, [item], rfl, Or.inr ⟨rfl, hscope, item, rfl, hitem⟩⟩,
        fun id hid => ?_, rfl⟩
      · rw [hthis]
        show (Ledger.trail (Ledger.record (Ledger.record s _) _) _) ++ _ = _
        rw [hthis, hthis, List.append_assoc, List.append_assoc]
        rfl
      · rw [hothers _ _ _ _ _ id hid]
        show (Ledger.trail (Ledger.record (Ledger.record s _) _) _) = _
        rw [hothers _ _ _ _ _ id hid, hothers _ _ _ _ _ id hid]
  · cases h
    refine ⟨⟨.v2Passed, ?_, [], (List.append_nil _).symm, Or.inl rfl⟩, fun id hid => ?_, rfl⟩
    · rw [hthis, hthis, List.append_assoc]
      rfl
    · rw [hothers _ _ _ _ _ id hid, hothers _ _ _ _ _ id hid]

theorem validateTiers_refuses
    (h : validateTiers services now queueId command hypothesis node s = none) :
    Refused services command.graph command.family node hypothesis.identityId queueId s := by
  unfold validateTiers at h
  dsimp only at h
  split at h
  · cases h
  next hv1 =>
    split at h
    · cases h
    next hv2 =>
      split at h
      next htier =>
        split at h
        next hrefused =>
          have hqueue := enqueueV3_refuses hrefused
          exact ⟨by simpa using hv1, by simpa using hv2, htier, hqueue⟩
        · cases h
      · cases h

/-- A verdict on a hypothesis that has none keeps the ledger in order. -/
theorem Settles.orderly {hypothesisId : Id} {cell : CellKey}
    (h : Settles s t node hypothesisId cell) (hs : s.Orderly) (hmem : hypothesisId ∈ s.hypotheses.map (·.hypothesisId))
    (hnone : s.trail hypothesisId = []) : t.Orderly := by
  obtain ⟨⟨v, htrail, added, hqueue, hadded⟩, hothers, hhypotheses⟩ := h
  rw [hnone, List.nil_append] at htrail
  -- what is in the queue has its verdict already
  have hnot : ∀ item ∈ s.huntV3Queue, item.hypothesisId ≠ hypothesisId := by
    intro item hitem hid
    have hverdict := hs.queued item hitem
    rw [hid, hnone] at hverdict
    exact Verdict.trail_ne_nil _ hverdict.symm
  refine ⟨hhypotheses ▸ hs.distinct, fun id => ?_, fun id hid => ?_, fun item hitem => ?_, ?_⟩
  · by_cases hsame : id = hypothesisId
    · exact Or.inr ⟨v, hsame ▸ htrail⟩
    · rw [hothers id hsame]
      exact hs.decided id
  · rw [hhypotheses]
    by_cases hsame : id = hypothesisId
    · exact hsame ▸ hmem
    · exact hs.owned id (hothers id hsame ▸ hid)
  · rw [hqueue] at hitem
    rcases List.mem_append.mp hitem with hitem | hitem
    · rw [hothers _ (hnot item hitem)]
      exact hs.queued item hitem
    · rcases hadded with rfl | ⟨rfl, -, new, rfl, hnew⟩
      · cases hitem
      · rw [List.mem_singleton.mp hitem, hnew.hypothesis]
        exact htrail
  · rw [hqueue, List.map_append]
    rcases hadded with rfl | ⟨-, -, new, rfl, hnew⟩
    · simpa using hs.once
    · refine List.Nodup.append hs.once (List.nodup_singleton _) ?_
      rintro id hold hid
      obtain ⟨item, hitem, rfl⟩ := List.mem_map.mp hold
      rw [List.map_singleton, List.mem_singleton, hnew.hypothesis] at hid
      exact hnot item hitem hid

end Validation

/-! ## The hypotheses of a cycle -/

/-- A hypothesis that a cycle has generated, and what it is about. -/
structure Drawn where
  hypothesis : HypothesisRecord
  node : AttackSurfaceNode
  familyId : Text
  identityId : Text

namespace Drawn

def hypothesisId (d : Drawn) : Id := d.hypothesis.hypothesisId

def source (d : Drawn) : HypothesisSource :=
  ⟨d.hypothesis.hypothesisId, d.node.nodeId, d.familyId, d.identityId⟩

def cell (d : Drawn) : CellKey := (d.node.canonicalKey, some d.identityId, d.familyId)

/-- The hypothesis is of the cycle, and about what the cycle looks at. -/
structure Valid (d : Drawn) (command : RunHuntCycleCommand) (registry : List HunterFamilyView) :
    Prop where
  run : d.hypothesis.researchRunId = command.researchRunId
  identity : d.hypothesis.identityId = some d.identityId
  node : d.node ∈ command.graph.nodes
  family : ∃ family ∈ registry, family.familyId = d.familyId

end Drawn

theorem AttackSurfaceGraph.node_of_mem {graph : AttackSurfaceGraph} {node : AttackSurfaceNode}
    (h : node ∈ graph.nodes) : graph.node node.nodeId = some node := by
  obtain ⟨found, hfound⟩ : ∃ found, graph.node node.nodeId = some found := by
    refine Option.isSome_iff_exists.mp (List.find?_isSome.mpr ⟨node, h, ?_⟩)
    simp
  obtain ⟨hmem, hid⟩ := AttackSurfaceGraph.node_eq_some hfound
  rw [hfound, AttackSurfaceGraph.eq_of_nodeId hmem h hid]

/-- A row is found by its primary key. -/
theorem Ledger.Orderly.find {s : Ledger} (hs : s.Orderly) {hypothesis : HypothesisRecord}
    (h : hypothesis ∈ s.hypotheses) :
    s.hypotheses.find? (fun row => row.hypothesisId = hypothesis.hypothesisId) =
      some hypothesis := by
  obtain ⟨found, hfound⟩ : ∃ found, s.hypotheses.find?
      (fun row => row.hypothesisId = hypothesis.hypothesisId) = some found := by
    refine Option.isSome_iff_exists.mp (List.find?_isSome.mpr ⟨hypothesis, h, ?_⟩)
    simp
  have hid : found.hypothesisId = hypothesis.hypothesisId := by simpa using List.find?_some hfound
  rw [hfound, List.inj_on_of_nodup_map hs.distinct (List.mem_of_find?_eq_some hfound) h hid]

/-- What a cycle has done when it has come to the end of `settled`. -/
structure After (graph : AttackSurfaceGraph) (s t : Ledger) (settled : List Drawn) : Prop where
  hypotheses : t.hypotheses = s.hypotheses
  verdicts : ∀ d ∈ settled, ∃ v : Verdict, t.trail d.hypothesisId = v.trail
  others : ∀ id, id ∉ settled.map Drawn.hypothesisId → t.trail id = s.trail id
  queue : ∃ added, t.huntV3Queue = s.huntV3Queue ++ added ∧
    (added.map (·.cell)).Sublist (settled.map Drawn.cell) ∧
    ∀ item ∈ added, item.state = .pending ∧ ∃ node ∈ graph.nodes,
      node.canonicalKey = item.nodeCanonicalKey ∧ node.scopeClassification = .inScope

section Loop

variable {services : HuntServices} {inputs : CycleInputs} {command : RunHuntCycleCommand}
  {registry : List HunterFamilyView} {s t u : Ledger}

theorem After.nil {graph : AttackSurfaceGraph} (s : Ledger) : After graph s s [] :=
  ⟨rfl, fun _ hd => absurd hd List.not_mem_nil, fun _ _ => rfl,
    [], (List.append_nil _).symm, List.Sublist.slnil, fun _ hitem => absurd hitem List.not_mem_nil⟩

/-- One more hypothesis, at the head. -/
theorem After.cons {d : Drawn} {settled : List Drawn} (h' : After command.graph t u settled)
    (hs : s.trail d.hypothesisId = []) (hnode : d.node ∈ command.graph.nodes)
    (hdistinct : d.hypothesisId ∉ settled.map Drawn.hypothesisId)
    (h : Settles s t d.node d.hypothesisId d.cell) :
    After command.graph s u (d :: settled) := by
  obtain ⟨⟨v, htrail, new, hqueue, hnew⟩, hothers, hhypotheses⟩ := h
  obtain ⟨added, hqueue', hcells, hpending⟩ := h'.queue
  refine ⟨h'.hypotheses.trans hhypotheses, List.forall_mem_cons.mpr ⟨⟨v, ?_⟩, h'.verdicts⟩,
    fun id hid => ?_, new ++ added, ?_, ?_, fun item hitem => ?_⟩
  · rw [h'.others _ hdistinct, htrail, hs, List.nil_append]
  · rw [List.map_cons, List.mem_cons, not_or] at hid
    rw [h'.others id hid.2, hothers id hid.1]
  · rw [hqueue', hqueue, List.append_assoc]
  · rcases hnew with rfl | ⟨-, -, item, rfl, hitem⟩
    · exact hcells.cons _
    · show (item.cell :: added.map (·.cell)).Sublist _
      rw [hitem.cell]
      exact hcells.cons_cons _
  · rcases List.mem_append.mp hitem with hitem | hitem
    · rcases hnew with rfl | ⟨-, hscope, row, rfl, hrow⟩
      · cases hitem
      · rw [List.mem_singleton.mp hitem]
        exact ⟨hrow.pending, d.node, hnode, (congrArg Prod.fst hrow.cell).symm, hscope⟩
    · exact hpending item hitem

/-- The validator looks up the row and the node that it is about. -/
theorem validateHuntTiers_found {now : Instant} {queueId : Id} {command : ValidateHuntTiersCommand}
    {hypothesis : HypothesisRecord} {node : AttackSurfaceNode}
    (hfound : s.hypotheses.find? (fun row => row.hypothesisId = command.hypothesisId) =
      some hypothesis)
    (hrun : hypothesis.researchRunId = command.researchRunId)
    (hnode : command.graph.node command.nodeId = some node) :
    validateHuntTiers services now queueId command s =
      validateTiers services now queueId command hypothesis node s := by
  unfold validateHuntTiers
  rw [hfound]
  dsimp only
  rw [if_neg (not_not.mpr hrun), hnode]

theorem validateSources_found {source : HypothesisSource} {rest : List HypothesisSource} {n : Nat}
    {counts : RunHuntCycleResult} {family : HunterFamilyView} {node : AttackSurfaceNode}
    (hfamily : registry.find? (fun family => family.familyId = source.familyId) = some family)
    (hnode : command.graph.node source.nodeId = some node) :
    validateSources services inputs command registry (source :: rest) n counts = (do
      let result ← Prog.commit (validateHuntTiers services (inputs.now (n + 1)) (inputs.queueId n)
        ⟨command.researchRunId, source.hypothesisId, family, node.nodeId, command.graph⟩)
      validateSources services inputs command registry rest (n + 1) (counts.count result)) := by
  rw [validateSources, hfamily, hnode]

/-- **The loop over what was generated.**  It gives verdicts until it is over or
one hypothesis is refused. -/
theorem validateSources_run {drawn : List Drawn} {n : Nat} {counts : RunHuntCycleResult}
    {r : Option RunHuntCycleResult} (hs : s.Orderly)
    (hvalid : ∀ d ∈ drawn, d.Valid command registry)
    (hmem : ∀ d ∈ drawn, d.hypothesis ∈ s.hypotheses)
    (hnone : ∀ d ∈ drawn, s.trail d.hypothesisId = [])
    (hdistinct : (drawn.map Drawn.hypothesisId).Nodup)
    (h : (validateSources services inputs command registry (drawn.map Drawn.source) n counts).run
      s = (r, t)) :
    t.Orderly ∧ ∃ settled pending, drawn = settled ++ pending ∧
      After command.graph s t settled ∧ (r ≠ none → pending = []) ∧
      (r = none → ∃ d rest, pending = d :: rest ∧ ∃ family ∈ registry,
        family.familyId = d.familyId ∧ ∃ n, Refused services command.graph family d.node
          (some d.identityId) (inputs.queueId n) t) := by
  induction drawn generalizing s n counts with
  | nil =>
    obtain ⟨rfl, rfl⟩ : some counts = r ∧ s = t := Prod.mk.inj h
    exact ⟨hs, [], [], rfl, .nil s, fun _ => rfl, fun hnone => by cases hnone⟩
  | cons d rest ih =>
    obtain ⟨hthis, hrest⟩ := List.forall_mem_cons.mp hvalid
    obtain ⟨hrow, hrows⟩ := List.forall_mem_cons.mp hmem
    obtain ⟨hfresh, hfreshes⟩ := List.forall_mem_cons.mp hnone
    obtain ⟨hnew, hdistinct⟩ := List.nodup_cons.mp hdistinct
    obtain ⟨family, hfamily⟩ : ∃ family,
        registry.find? (fun family => family.familyId = d.familyId) = some family := by
      obtain ⟨family, hin, hid⟩ := hthis.family
      exact Option.isSome_iff_exists.mp (List.find?_isSome.mpr ⟨family, hin, by simpa using hid⟩)
    have hid : family.familyId = d.familyId := by simpa using List.find?_some hfamily
    have hnode := AttackSurfaceGraph.node_of_mem hthis.node
    have hcommand : validateHuntTiers services (inputs.now (n + 1)) (inputs.queueId n)
        ⟨command.researchRunId, d.source.hypothesisId, family, d.node.nodeId, command.graph⟩ s =
          _ := validateHuntTiers_found (hs.find hrow) hthis.run hnode
    rw [List.map_cons, validateSources_found (hfamily : registry.find? (fun family =>
      family.familyId = d.source.familyId) = some family) hnode] at h
    cases hvalidate : validateTiers services (inputs.now (n + 1)) (inputs.queueId n)
        ⟨command.researchRunId, d.hypothesisId, family, d.node.nodeId, command.graph⟩
        d.hypothesis d.node s with
    | none =>
      -- the queue refuses, and nothing more is done
      rw [run_commit_raise (hcommand.trans hvalidate)] at h
      obtain ⟨rfl, rfl⟩ := Prod.mk.inj h
      have hrefused := validateTiers_refuses hvalidate
      rw [hthis.identity] at hrefused
      exact ⟨hs, [], d :: rest, rfl, .nil s, fun hsome => absurd rfl hsome,
        fun _ => ⟨d, rest, rfl, family, List.mem_of_find?_eq_some hfamily, hid, n, hrefused⟩⟩
    | some outcome =>
      obtain ⟨u, result⟩ := outcome
      rw [run_commit_bind (hcommand.trans hvalidate)] at h
      have hsettles := validateTiers_settles hvalidate
      rw [hthis.identity, hid] at hsettles
      have horderly := hsettles.orderly hs (List.mem_map_of_mem hrow) hfresh
      obtain ⟨ht, settled, pending, rfl, hafter, hend, hrefused⟩ := ih horderly hrest
        (fun other hother => hsettles.hypotheses ▸ hrows other hother)
        (fun other hother => by
          have hne : other.hypothesisId ≠ d.hypothesisId := fun heq =>
            hnew (heq ▸ List.mem_map_of_mem hother)
          rw [hsettles.others _ hne]
          exact hfreshes other hother) hdistinct h
      refine ⟨ht, d :: settled, pending, rfl, hafter.cons hfresh hthis.node ?_ hsettles, hend,
        hrefused⟩
      intro hin
      rw [List.map_append, List.mem_append, not_or] at hnew
      exact hnew.1 hin

end Loop

/-! ## Generation -/

def Emission.family : Emission → HunterFamilyView
  | .hypothesis _ family _ => family
  | .capped _ family _ => family

/-- The cell that a hypothesis is generated for. -/
def Emission.cell : Emission → Option CellKey
  | .hypothesis node family identityId =>
    some (node.canonicalKey, some identityId, family.familyId)
  | .capped .. => none

/-- What a cycle is to write down, with the registry that it looks at. -/
def RunHuntCycleCommand.emissions (command : RunHuntCycleCommand)
    (registry : List HunterFamilyView) : List Emission :=
  match command.schedule with
  | some schedule => emissionsFromSchedule command.graph registry schedule
  | none => emissionsFromGraph command.graph registry

/-- The registry that a cycle looks at. -/
def RunHuntCycleCommand.registryIn (command : RunHuntCycleCommand) (s : Ledger) :
    List HunterFamilyView :=
  command.registry.getD (s.hunterFamilies.filter (·.enabled))

section Generation

variable {services : HuntServices} {now : Instant} {command : RunHuntCycleCommand}
  {registry : List HunterFamilyView} {s t : Ledger}

theorem mem_emissions {emission : Emission} (h : emission ∈ command.emissions registry) :
    emission.node ∈ command.graph.nodes ∧ emission.family ∈ registry := by
  unfold RunHuntCycleCommand.emissions at h
  cases hschedule : command.schedule with
  | none =>
    rw [hschedule] at h
    refine ⟨node_mem_emissionsFromGraph emission h, ?_⟩
    obtain ⟨node, -, hin⟩ := List.mem_flatMap.mp h
    obtain ⟨family, hfamily, hin⟩ := List.mem_flatMap.mp hin
    have hregistry : family ∈ registry := (List.mem_filter.mp hfamily).1
    rcases List.mem_append.mp hin with hin | hin
    · obtain ⟨identityId, -, rfl⟩ := List.mem_map.mp hin
      exact hregistry
    · split at hin
      · rw [List.mem_singleton.mp hin]
        exact hregistry
      · cases hin
  | some schedule =>
    rw [hschedule] at h
    refine ⟨node_mem_emissionsFromSchedule emission h, ?_⟩
    obtain ⟨cell, -, hcell⟩ := List.mem_filterMap.mp h
    split at hcell
    · cases hcell
    · split at hcell
      next node family hnode hfamily =>
        cases hcell
        exact List.mem_reverse.mp (List.mem_of_find?_eq_some hfamily)
      · cases hcell

/-- New rows, and no decision. -/
theorem Ledger.Orderly.grow (hs : s.Orderly) {new : List HypothesisRecord}
    (htrail : ∀ id, t.trail id = s.trail id) (hrows : t.hypotheses = s.hypotheses ++ new)
    (hqueue : t.huntV3Queue = s.huntV3Queue)
    (hdistinct : (t.hypotheses.map (·.hypothesisId)).Nodup) : t.Orderly := by
  refine ⟨hdistinct, fun id => ?_, fun id hid => ?_, fun item hitem => ?_, ?_⟩
  · rw [htrail]
    exact hs.decided id
  · rw [hrows, List.map_append]
    exact List.mem_append_left _ (hs.owned id (htrail id ▸ hid))
  · rw [htrail]
    exact hs.queued item (hqueue ▸ hitem)
  · rw [hqueue]
    exact hs.once

theorem emitHypothesis_draws {hypothesisId : Id} {node : AttackSurfaceNode}
    {family : HunterFamilyView} {identityId : Text} (hs : s.Orderly)
    (hnode : node ∈ command.graph.nodes) (hfamily : family ∈ registry)
    (h : emitHypothesis services now command.researchRunId hypothesisId node family identityId s =
      some t) :
    t.Orderly ∧ (∀ id, t.trail id = s.trail id) ∧ t.huntV3Queue = s.huntV3Queue ∧
      ∃ d : Drawn, d.Valid command registry ∧ t.hypotheses = s.hypotheses ++ [d.hypothesis] ∧
        d.source = ⟨hypothesisId, node.nodeId, family.familyId, identityId⟩ ∧
        d.cell = (node.canonicalKey, some identityId, family.familyId) := by
  unfold emitHypothesis at h
  obtain ⟨claim, -, h⟩ := Option.bind_eq_some_iff.mp h
  split at h
  · cases h
  obtain ⟨inserted, hinsert, hrecord⟩ := Option.bind_eq_some_iff.mp h
  obtain ⟨hnew, hinserted⟩ := insertHypothesis_eq_some hinsert
  have ht := Option.some.inj hrecord
  subst hinserted
  subst ht
  have htrail : ∀ id, Ledger.trail (Ledger.record _ (generationAudit now command.researchRunId
      hypothesisId family.familyId node.canonicalKey identityId claim family.validationTier)) id =
        s.trail id :=
    fun id => Ledger.trail_record_of_not_decides (Bool.and_false _)
  refine ⟨hs.grow htrail rfl rfl ?_, htrail, rfl, ⟨_, node, family.familyId, identityId⟩,
    ⟨rfl, rfl, hnode, family, hfamily, rfl⟩, rfl, rfl, rfl⟩
  show ((s.hypotheses ++ [_]).map _).Nodup
  rw [List.map_append]
  refine List.Nodup.append hs.distinct (List.nodup_singleton _) ?_
  intro id hold hid
  obtain ⟨row, hrow, rfl⟩ := List.mem_map.mp hold
  exact hnew row hrow (List.mem_singleton.mp hid)

theorem emitAll_draws {newId : Nat → Id} {emissions : List Emission} {n : Nat}
    {sources : List HypothesisSource} (hs : s.Orderly)
    (hin : ∀ emission ∈ emissions, emission.node ∈ command.graph.nodes ∧
      emission.family ∈ registry)
    (h : emitAll services now command.researchRunId newId emissions n s = some (t, sources)) :
    t.Orderly ∧ (∀ id, t.trail id = s.trail id) ∧ t.huntV3Queue = s.huntV3Queue ∧
      ∃ drawn : List Drawn, (∀ d ∈ drawn, d.Valid command registry) ∧
        t.hypotheses = s.hypotheses ++ drawn.map (·.hypothesis) ∧
        sources = drawn.map Drawn.source ∧
        drawn.map Drawn.cell = emissions.filterMap Emission.cell := by
  induction emissions generalizing n s t sources with
  | nil =>
    cases h
    exact ⟨hs, fun _ => rfl, rfl, [], fun _ hd => absurd hd List.not_mem_nil,
      (List.append_nil _).symm, rfl, rfl⟩
  | cons emission rest ih =>
    obtain ⟨⟨hnode, hfamily⟩, hrest⟩ := List.forall_mem_cons.mp hin
    cases emission with
    | capped node family totalIdentities =>
      have htrail : ∀ id, (s.record (cappedAudit now command.researchRunId family.familyId
          node.canonicalKey totalIdentities)).trail id = s.trail id :=
        fun id => Ledger.trail_record_of_not_decides rfl
      have hcapped := hs.grow (t := s.record (cappedAudit now command.researchRunId family.familyId
        node.canonicalKey totalIdentities)) htrail (List.append_nil _).symm rfl hs.distinct
      obtain ⟨ht, htrails, hqueue, drawn, hvalid, hrows, hsources, hcells⟩ := ih hcapped hrest h
      exact ⟨ht, fun id => (htrails id).trans (htrail id), hqueue, drawn, hvalid, hrows, hsources,
        hcells⟩
    | hypothesis node family identityId =>
      obtain ⟨middle, hemit, h⟩ := Option.bind_eq_some_iff.mp h
      obtain ⟨⟨last, tail⟩, hall, h⟩ := Option.bind_eq_some_iff.mp h
      cases h
      obtain ⟨hmiddle, htrail, hqueue, d, hd, hrow, hsource, hcell⟩ :=
        emitHypothesis_draws hs hnode hfamily hemit
      obtain ⟨ht, htrails, hqueues, drawn, hvalid, hrows, hsources, hcells⟩ := ih hmiddle hrest hall
      refine ⟨ht, fun id => (htrails id).trans (htrail id), hqueues.trans hqueue, d :: drawn,
        List.forall_mem_cons.mpr ⟨hd, hvalid⟩, ?_, ?_, ?_⟩
      · rw [hrows, hrow, List.append_assoc]
        rfl
      · exact congrArg₂ List.cons hsource.symm hsources
      · rw [List.map_cons, hcell, hcells]
        rfl

end Generation

/-! ## Whole cycles -/

/-- What a cycle leaves that has been run until it returns or raises. -/
structure Leaves (services : HuntServices) (call : CycleCall) (s : Ledger)
    (r : Option RunHuntCycleResult) (t : Ledger) : Prop where
  /-- Verdicts are given in order, up to a hypothesis that is refused. -/
  verdicts : ∃ settled pending : List HypothesisRecord,
    t.hypotheses = s.hypotheses ++ (settled ++ pending) ∧
    (∀ h ∈ settled, ∃! v : Verdict, t.trail h.hypothesisId = v.trail) ∧
    (∀ h ∈ pending, t.trail h.hypothesisId = []) ∧
    (r ≠ none → pending = []) ∧
    ∀ first rest, pending = first :: rest → ∃ node ∈ call.command.graph.nodes,
      ∃ family ∈ call.command.registryIn s, ∃ n, Refused services call.command.graph family node
        first.identityId (call.inputs.queueId n) t
  earlier : ∀ h ∈ s.hypotheses, t.trail h.hypothesisId = s.trail h.hypothesisId
  /-- Only nodes in scope are queued, and a cell at most once for each hypothesis
  about it. -/
  queue : ∃ added, t.huntV3Queue = s.huntV3Queue ++ added ∧
    (added.map (·.cell)).Sublist
      ((call.command.emissions (call.command.registryIn s)).filterMap Emission.cell) ∧
    ∀ item ∈ added, item.state = .pending ∧ ∃ node ∈ call.command.graph.nodes,
      node.canonicalKey = item.nodeCanonicalKey ∧ node.scopeClassification = .inScope
  once : (t.huntV3Queue.map (·.hypothesisId)).Nodup

section Cycles

variable {services : HuntServices} {call : CycleCall} {s t : Ledger}
  {r : Option RunHuntCycleResult}

theorem runHuntCycle_run : (runHuntCycle services call.inputs call.command).run s = (do
    let sources ← Prog.commit (generateHuntHypotheses services (call.inputs.now 0)
      call.inputs.hypothesisId call.command (call.command.registryIn s))
    validateSources services call.inputs call.command (call.command.registryIn s) sources 0
      ⟨sources.length, 0, 0, 0, []⟩).run s := by
  unfold runHuntCycle RunHuntCycleCommand.registryIn
  cases call.command.registry with
  | some registry => rfl
  | none => rfl

/-- A cycle that has generated nothing. -/
theorem Leaves.refl (hs : s.Orderly) : Leaves services call s none s :=
  ⟨⟨[], [], (List.append_nil _).symm, fun _ h => absurd h List.not_mem_nil,
    fun _ h => absurd h List.not_mem_nil, fun _ => rfl, fun _ _ h => by cases h⟩, fun _ _ => rfl,
    ⟨[], (List.append_nil _).symm, List.nil_sublist _, fun _ h => absurd h List.not_mem_nil⟩,
    hs.once⟩

/-- **One cycle.** -/
theorem cycle_leaves (hs : s.Orderly)
    (h : (runHuntCycle services call.inputs call.command).run s = (r, t)) :
    t.Orderly ∧ Leaves services call s r t := by
  rw [runHuntCycle_run] at h
  generalize hregistry : call.command.registryIn s = registry at h
  cases hgenerate : generateHuntHypotheses services (call.inputs.now 0) call.inputs.hypothesisId
      call.command registry s with
  | none =>
    rw [run_commit_raise hgenerate] at h
    obtain ⟨rfl, rfl⟩ := Prod.mk.inj h
    exact ⟨hs, .refl hs⟩
  | some generated =>
    obtain ⟨u, sources⟩ := generated
    rw [run_commit_bind hgenerate] at h
    obtain ⟨hu, htrail, hqueue, drawn, hvalid, hrows, rfl, hcells⟩ :=
      emitAll_draws hs (fun _ => mem_emissions) hgenerate
    -- what was generated is new, so nothing is said of it
    have hdistinct := hu.distinct
    rw [hrows, List.map_append, List.nodup_append', List.map_map] at hdistinct
    obtain ⟨-, hnodup, hdisjoint⟩ := hdistinct
    have hnone : ∀ d ∈ drawn, u.trail d.hypothesisId = [] := by
      intro d hd
      by_contra hsome
      rw [htrail] at hsome
      exact hdisjoint (hs.owned _ hsome) (List.mem_map_of_mem hd)
    obtain ⟨ht, settled, pending, rfl, hafter, hend, hrefused⟩ := validateSources_run hu hvalid
      (fun d hd => hrows ▸ List.mem_append_right _ (List.mem_map_of_mem hd)) hnone hnodup h
    have hnot : ∀ d ∈ pending, d.hypothesisId ∉ settled.map Drawn.hypothesisId := by
      intro d hd hin
      rw [List.map_append, List.nodup_append'] at hnodup
      exact hnodup.2.2 hin (List.mem_map_of_mem hd)
    refine ⟨ht, ⟨settled.map (·.hypothesis), pending.map (·.hypothesis), ?_, ?_, ?_, ?_, ?_⟩, ?_,
      ?_, ht.once⟩
    · rw [hafter.hypotheses, hrows, List.map_append]
    · intro row hrow
      obtain ⟨d, hd, rfl⟩ := List.mem_map.mp hrow
      obtain ⟨v, hv⟩ := hafter.verdicts d hd
      exact ⟨v, hv, fun w hw => Verdict.eq_of_trail (hw.symm.trans hv)⟩
    · intro row hrow
      obtain ⟨d, hd, rfl⟩ := List.mem_map.mp hrow
      exact (hafter.others _ (hnot d hd)).trans (hnone d (List.mem_append_right _ hd))
    · exact fun hsome => List.map_eq_nil_iff.mpr (hend hsome)
    · intro first rest hpending
      have hr : r = none := by
        by_contra hsome
        rw [hend hsome] at hpending
        cases hpending
      obtain ⟨d, others, rfl, family, hfamily, -, n, hrefused⟩ := hrefused hr
      obtain ⟨rfl, -⟩ := List.cons.inj hpending
      have hd := hvalid d (List.mem_append_right _ List.mem_cons_self)
      exact ⟨d.node, hd.node, family, hregistry ▸ hfamily, n, hd.identity ▸ hrefused⟩
    · intro row hrow
      have hold : row.hypothesisId ∉ settled.map Drawn.hypothesisId := by
        intro hin
        obtain ⟨d, hd, hid⟩ := List.mem_map.mp hin
        exact hdisjoint (List.mem_map_of_mem hrow)
          (hid ▸ List.mem_map_of_mem (List.mem_append_left _ hd))
      exact (hafter.others _ hold).trans (htrail _)
    · obtain ⟨added, hadded, hsub, hpending⟩ := hafter.queue
      refine ⟨added, hadded.trans (hqueue ▸ rfl), ?_, hpending⟩
      rw [hregistry]
      refine hsub.trans ?_
      have hall := hcells
      rw [List.map_append] at hall
      exact hall ▸ List.sublist_append_left _ _

/-- One cycle after another, each until it returns or raises. -/
def Cycled (services : HuntServices) (s : Ledger) (call : CycleCall) (t : Ledger) : Prop :=
  ((runHuntCycle services call.inputs call.command).run s).2 = t

theorem Ledger.Fresh.orderly (h : s.Fresh) (hqueue : s.huntV3Queue = []) : s.Orderly := by
  have htrail : ∀ id, s.trail id = [] := by
    intro id
    unfold Ledger.trail
    rw [h.auditEvents]
    rfl
  refine ⟨?_, fun id => Or.inl (htrail id), fun id hid => absurd (htrail id) hid, ?_, ?_⟩
  · rw [h.hypotheses]
    exact List.nodup_nil
  · rw [hqueue]
    exact fun item hitem => absurd hitem List.not_mem_nil
  · rw [hqueue]
    exact List.nodup_nil

theorem orderly_of_run {calls : List CycleCall} (h : Run (Cycled services) s calls t)
    (hs : s.Orderly) : t.Orderly := by
  refine h.invariant (I := Ledger.Orderly) ?_ hs
  rintro before call after rfl horderly
  exact (cycle_leaves horderly rfl).1

end Cycles

/-! ## Two nodes, and one of them out of sight -/

/-- The services, as they are for an origin without attributes and a claim
without placeholders. -/
def plainServices : HuntServices where
  format template _ := some template
  v3ArgumentsForFamily family node claim identityId := some
    [("claim".toList, .text claim), ("node_id".toList, .text node.nodeId),
      ("family_name".toList, .text family.name.toList),
      ("family_id".toList, .text family.familyId),
      ("identity_id".toList, .text (identityId.getD anonymousIdentity))]

/-- A family of V3 that says nothing of the scope. -/
def authorizationFamily : HunterFamilyView where
  familyId := "family".toList
  name := "OBJECT_AUTHORIZATION"
  targetNodeKinds := ["ORIGIN"]
  preconditions := ⟨none, none, none, none⟩
  claimTemplate := "a claim".toList
  evidenceRequirements := ⟨[], none⟩
  validationTier := "V3"
  enabled := true

def originNode (key : Text) (scope : ScopeClassification) : AttackSurfaceNode where
  nodeId := key
  kind := .origin
  canonicalKey := key
  epistemicStatus := .observed
  identityIds := []
  provenanceRefs := []
  scopeClassification := scope
  attributes := []

def twoNodes : AttackSurfaceGraph where
  nodes := [originNode "far".toList .unknown, originNode "near".toList .inScope]
  edges := []
  distinctIds := by decide
  distinctKeys := by decide

def nearNode : AttackSurfaceGraph where
  nodes := [originNode "near".toList .inScope]
  edges := []
  distinctIds := by decide
  distinctKeys := by decide

/-- A cycle over a graph, with ids of its own. -/
def cycleOver (graph : AttackSurfaceGraph) (first : Id) : CycleCall where
  inputs := ⟨fun n => n, fun n => first + n, fun n => first + n⟩
  command := ⟨1, graph, some [authorizationFamily], none⟩

def afterCycle (s : Ledger) (call : CycleCall) : Ledger :=
  ((runHuntCycle plainServices call.inputs call.command).run s).2

end Zest.Hunt

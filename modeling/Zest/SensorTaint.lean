import Zest.SurfaceRenaming
import Zest.UrlNormalize

/-! # What a sensor reported stays marked

A fact that a sensor reported is from outside, and so is its node.  Facts may
share a key, and a key may be the name that an identity or a session goes by;
what comes second under a name is merged into what is there.  The scope is
joined, but the status is that of whichever came first.
-/
namespace Zest.Discovery

/-- A source of the fact is what a sensor observed. -/
def LedgerFact.SensorSourced (fact : LedgerFact) : Prop :=
  ∃ source ∈ fact.sources, source.columns.sensorObservationId.isSome

instance : DecidablePred LedgerFact.SensorSourced := fun fact =>
  inferInstanceAs (Decidable (∃ source ∈ fact.sources, _))

/-- The names of the identity and the session that a fact was learned under. -/
def LedgerFact.referenceNames (fact : LedgerFact) : List Text :=
  identityKey fact.identityId :: (fact.sessionContextId.map sessionKey).toList

/-- No taint is laundered.  A fact contributes to the node under its key; the
nodes of identities and sessions are what these contribute. -/
structure TaintKept (facts : List LedgerFact) (graph : AttackSurfaceGraph) : Prop where
  status : ∀ node ∈ graph.nodes, ∀ fact ∈ facts, fact.key = node.canonicalKey →
    fact.SensorSourced → node.epistemicStatus = .untrustedExternal
  scope : ∀ node ∈ graph.nodes, ∀ fact ∈ facts, fact.key = node.canonicalKey →
    fact.scopeClassification = .ok .outOfScope → node.scopeClassification = .outOfScope

/-- The key of what a sensor reported is used by a sensor first: the first of the
facts with this key is from one, and no identity or session of a fact with a
smaller key goes by it. -/
def TaintedFirst (facts : List LedgerFact) : Prop :=
  ∀ fact ∈ facts, fact.SensorSourced →
    (∃ first, (facts.find? fun other => other.key = fact.key) = some first ∧
      first.SensorSourced) ∧
    ∀ other ∈ facts, other.key < fact.key → fact.key ∉ other.referenceNames

/-! ## What is merged -/

namespace SurfaceNode

theorem foldl_merge_status (more : List SurfaceNode) (node : SurfaceNode) :
    (more.foldl merge node).epistemicStatus = node.epistemicStatus := by
  induction more generalizing node with
  | nil => rfl
  | cons item more ih => exact ih (node.merge item)

theorem mergedScope_eq_outOfScope {existing node : ScopeClassification} :
    mergedScope existing node = .outOfScope ↔ existing = .outOfScope ∨ node = .outOfScope := by
  cases existing <;> cases node <;> decide

theorem foldl_merge_scope (more : List SurfaceNode) (node : SurfaceNode) :
    (more.foldl merge node).scopeClassification = .outOfScope ↔
      ∃ item ∈ node :: more, item.scopeClassification = .outOfScope := by
  induction more generalizing node with
  | nil => simp
  | cons item more ih =>
    rw [List.foldl_cons, ih, List.exists_mem_cons_iff, List.exists_mem_cons_iff,
      List.exists_mem_cons_iff, ← or_assoc]
    exact or_congr_left mergedScope_eq_outOfScope

end SurfaceNode

/-- A node of the table is what was added under its key. -/
theorem mem_nodeTable {input : SurfaceInput} {node : SurfaceNode}
    (h : node ∈ (nodeTable input).nodes) :
    ∃ first rest, ((addedNodes input).filter fun item => item.key = node.key) = first :: rest ∧
      node = rest.foldl SurfaceNode.merge first := by
  have hget := KeyedList.get_of_mem (nodeTable input).distinct h
  rw [nodeTable_nodes, KeyedList.get_collect SurfaceNode.keepsKey] at hget
  rcases hitems : (addedNodes input).filter fun item => item.key = node.key with _ | ⟨first, rest⟩
  · rw [hitems] at hget
    cases hget
  · rw [hitems] at hget
    exact ⟨first, rest, hitems, (Option.some.inj hget).symm⟩

/-- **The status of a node** is that of the first one added under its key. -/
theorem status_of_node {input : SurfaceInput} {node : SurfaceNode}
    (h : node ∈ (nodeTable input).nodes) :
    ∃ first, ((addedNodes input).find? fun item => item.key = node.key) = some first ∧
      node.epistemicStatus = first.epistemicStatus := by
  obtain ⟨first, rest, hitems, hnode⟩ := mem_nodeTable h
  refine ⟨first, ?_, ?_⟩
  · rw [← List.head?_filter, hitems]
    rfl
  · rw [hnode]
    exact SurfaceNode.foldl_merge_status rest first

/-- **A node is out of scope** if one of those added under its key is. -/
theorem scope_of_node {input : SurfaceInput} {node : SurfaceNode}
    (h : node ∈ (nodeTable input).nodes) :
    node.scopeClassification = .outOfScope ↔ ∃ item ∈ addedNodes input,
      item.key = node.key ∧ item.scopeClassification = .outOfScope := by
  obtain ⟨first, rest, hitems, hnode⟩ := mem_nodeTable h
  rw [hnode, SurfaceNode.foldl_merge_scope, ← hitems, ← hnode]
  constructor
  · rintro ⟨item, hitem, hscope⟩
    obtain ⟨hmem, hkey⟩ := List.mem_filter.mp hitem
    exact ⟨item, hmem, of_decide_eq_true hkey, hscope⟩
  · rintro ⟨item, hmem, hkey, hscope⟩
    exact ⟨item, List.mem_filter.mpr ⟨hmem, decide_eq_true hkey⟩, hscope⟩

/-! ## Who comes first -/

theorem mem_referenceNames {fact : LedgerFact} {name : Text} :
    name ∈ fact.referenceNames ↔
      ∃ node ∈ (fact.nodes fact.scope).tail, node.key = name := by
  have hkeys : ((fact.nodes fact.scope).tail.map SurfaceNode.key) = fact.referenceNames := by
    rw [List.map_tail, keys_of_nodes]
    rfl
  rw [← hkeys, List.mem_map]

/-- Facts are observed or derived, so a mark on the node is from a sensor. -/
theorem nodeEpistemicStatus_eq {fact : LedgerFact} :
    fact.nodeEpistemicStatus = .untrustedExternal ↔ fact.SensorSourced := by
  have hany : (fact.sources.any fun source => source.columns.sensorObservationId.isSome) = true ↔
      fact.SensorSourced := by
    rw [List.any_eq_true]
    exact Iff.rfl
  unfold LedgerFact.nodeEpistemicStatus
  by_cases h : fact.SensorSourced
  · rw [if_pos (hany.mpr h)]
    exact ⟨fun _ => h, fun _ => rfl⟩
  · rw [if_neg (mt hany.mp h)]
    refine ⟨fun hstatus => ?_, fun h' => absurd h' h⟩
    rcases fact.acceptable.epistemic with he | he
    · rw [he] at hstatus
      cases hstatus
    · rw [he] at hstatus
      cases hstatus

/-- Of sorted facts, the first node added under the key of one of them is marked
if its fact is from a sensor, and if no reference came before. -/
theorem first_added_marked {facts : List LedgerFact} {k : Text}
    (hsorted : facts.Pairwise fun a b => a.key ≤ b.key) (hk : ∃ fact ∈ facts, fact.key = k) :
    (∃ first, ((facts.flatMap fun fact => fact.nodes fact.scope).find?
        fun node => node.key = k) = some first ∧ first.epistemicStatus = .untrustedExternal) ↔
      (∃ first, (facts.find? fun fact => fact.key = k) = some first ∧ first.SensorSourced) ∧
        ∀ other ∈ facts, other.key < k → k ∉ other.referenceNames := by
  induction facts with
  | nil =>
    obtain ⟨fact, hfact, -⟩ := hk
    cases hfact
  | cons fact rest ih =>
    obtain ⟨hfirst, hrest⟩ := List.pairwise_cons.mp hsorted
    rw [List.flatMap_cons, List.find?_append]
    show (∃ first, ((fact.node fact.scope :: (fact.nodes fact.scope).tail).find? _).or _ =
      some first ∧ _) ↔ _
    by_cases hkey : fact.key = k
    · -- The facts with a smaller key have all been visited.
      have hnode : (fact.node fact.scope :: (fact.nodes fact.scope).tail).find?
          (fun node => node.key = k) = some (fact.node fact.scope) :=
        List.find?_cons_of_pos (decide_eq_true hkey)
      have hnone : ∀ other ∈ fact :: rest, other.key < k → k ∉ other.referenceNames := by
        intro other hother hlt
        rcases List.mem_cons.mp hother with rfl | hother
        · exact absurd hlt (hkey ▸ lt_irrefl _)
        · exact absurd hlt (not_lt.mpr (hkey ▸ hfirst other hother))
      rw [hnode, List.find?_cons_of_pos (by simpa using hkey)]
      constructor
      · rintro ⟨first, hfound, hstatus⟩
        cases hfound
        exact ⟨⟨fact, rfl, nodeEpistemicStatus_eq.mp hstatus⟩, hnone⟩
      · rintro ⟨⟨first, hfound, hsensor⟩, -⟩
        cases hfound
        exact ⟨_, rfl, nodeEpistemicStatus_eq.mpr hsensor⟩
    · have hnode : (fact.node fact.scope :: (fact.nodes fact.scope).tail).find?
          (fun node => node.key = k) =
          (fact.nodes fact.scope).tail.find? fun node => node.key = k :=
        List.find?_cons_of_neg fun h => hkey (of_decide_eq_true h)
      have hkRest : ∃ other ∈ rest, other.key = k := by
        obtain ⟨other, hother, heq⟩ := hk
        rcases List.mem_cons.mp hother with rfl | hother
        · exact absurd heq hkey
        · exact ⟨other, hother, heq⟩
      have hlt : fact.key < k := by
        obtain ⟨other, hother, heq⟩ := hkRest
        exact lt_of_le_of_ne (heq ▸ hfirst other hother) hkey
      rw [hnode, List.find?_cons_of_neg (by simpa using hkey)]
      by_cases hname : k ∈ fact.referenceNames
      · -- A reference has taken the name.
        constructor
        · rintro ⟨first, hfound, hstatus⟩
          obtain ⟨node, hmem, heq⟩ := mem_referenceNames.mp hname
          rcases htail : (fact.nodes fact.scope).tail.find? fun node => node.key = k with _ | found
          · exact absurd heq (by simpa using List.find?_eq_none.mp htail node hmem)
          · rw [htail] at hfound
            cases hfound
            have hreference := (isReference_of_mem_tail (List.mem_of_find?_eq_some htail)).1
            rw [hreference.epistemicStatus] at hstatus
            cases hstatus
        · rintro ⟨-, hnone⟩
          exact absurd hname (hnone fact List.mem_cons_self hlt)
      · have htail : (fact.nodes fact.scope).tail.find? (fun node => node.key = k) = none := by
          rw [List.find?_eq_none]
          intro node hmem
          rw [decide_eq_true_eq]
          exact fun heq => hname (mem_referenceNames.mpr ⟨node, hmem, heq⟩)
        rw [htail, Option.none_or, ih hrest hkRest, List.forall_mem_cons]
        exact and_congr_right fun _ => ⟨fun h => ⟨fun _ => hname, h⟩, fun h => h.2⟩

/-- The first node under the key of a fact, and the first fact with this key, in
the order in which the facts were given. -/
theorem first_under_key {input : SurfaceInput} {k : Text}
    (hk : ∃ fact ∈ input.facts, fact.key = k) :
    (∃ first, ((addedNodes input).find? fun node => node.key = k) = some first ∧
        first.epistemicStatus = .untrustedExternal) ↔
      (∃ first, (input.facts.find? fun fact => fact.key = k) = some first ∧
        first.SensorSourced) ∧
        ∀ other ∈ input.facts, other.key < k → k ∉ other.referenceNames := by
  have hsorted : (byKey input.facts).Pairwise fun a b => a.key ≤ b.key :=
    letI : Std.Total fun a b : LedgerFact => a.key ≤ b.key := ⟨fun a b => le_total a.key b.key⟩
    letI : IsTrans LedgerFact fun a b => a.key ≤ b.key := ⟨fun _ _ _ => le_trans⟩
    List.pairwise_insertionSort _ _
  have hkSorted : ∃ fact ∈ byKey input.facts, fact.key = k := by
    obtain ⟨fact, hfact, hkey⟩ := hk
    exact ⟨fact, mem_byKey.mpr hfact, hkey⟩
  -- The sort is stable.
  have hfind : ((byKey input.facts).find? fun fact => fact.key = k) =
      input.facts.find? fun fact => fact.key = k := by
    rw [← List.head?_filter, ← List.head?_filter]
    refine congrArg _ (filter_insertionSort (fun a b ha hb => ?_) _)
    exact le_of_eq ((of_decide_eq_true ha).trans (of_decide_eq_true hb).symm)
  have hadded : ((addedNodes input).find? fun node => node.key = k) =
      ((byKey input.facts).flatMap fun fact => fact.nodes fact.scope).find?
        fun node => node.key = k := by
    unfold addedNodes
    rw [List.find?_append]
    refine Option.or_of_isSome (List.find?_isSome.mpr ?_)
    obtain ⟨fact, hfact, hkey⟩ := hkSorted
    exact ⟨fact.node fact.scope, List.mem_flatMap.mpr ⟨fact, hfact, List.mem_cons_self⟩,
      decide_eq_true hkey⟩
  rw [hadded, first_added_marked hsorted hkSorted, hfind]
  exact and_congr_right fun _ =>
    ⟨fun h other hother => h other (mem_byKey.mpr hother),
      fun h other hother => h other (mem_byKey.mp hother)⟩

/-! ## The graph -/

/-- The nodes of a graph, whether or not the keys of the facts are distinct. -/
theorem nodes_of_rebuild {L : UrlCodecs} {input : SurfaceInput} {graph : AttackSurfaceGraph}
    (h : rebuildAttackSurfaceGraph L input = .ok graph) (node : AttackSurfaceNode) :
    node ∈ graph.nodes ↔
      ∃ source ∈ (nodeTable input).nodes, source.toAttackSurfaceNode = node := by
  unfold rebuildAttackSurfaceGraph at h
  obtain ⟨pass, hpass, h⟩ := bind_eq_ok h
  obtain ⟨sensorEdges, -, h⟩ := bind_eq_ok h
  obtain ⟨-, rfl⟩ := (foldlM_visit_eq_ok _ _ _).mp hpass
  split at h
  · cases h
    show node ∈ (((NodeTable.empty.add _).add _).nodes.map _).insertionSort nodeOrder ↔ _
    rw [List.mem_insertionSort, NodeTable.add_append, List.mem_map]
    exact Iff.rfl
  · cases h

/-- A fact that is out of scope adds a node that is. -/
theorem outOfScope_added {input : SurfaceInput} {fact : LedgerFact} (hfact : fact ∈ input.facts)
    (hscope : fact.scopeClassification = .ok .outOfScope) :
    ∃ item ∈ addedNodes input, item.key = fact.key ∧
      item.scopeClassification = .outOfScope := by
  refine ⟨fact.node fact.scope, List.mem_append_left _ (List.mem_flatMap.mpr
    ⟨fact, mem_byKey.mpr hfact, List.mem_cons_self⟩), rfl, ?_⟩
  show fact.scope = .outOfScope
  unfold LedgerFact.scope
  rw [hscope]

/-- **No taint is laundered** if and only if what a sensor reported comes first
under its key.  The scope is joined in any case. -/
theorem sensor_taint_iff (L : UrlCodecs) (input : SurfaceInput) (graph : AttackSurfaceGraph)
    (h : rebuildAttackSurfaceGraph L input = .ok graph) :
    TaintKept input.facts graph ↔ TaintedFirst input.facts := by
  constructor
  · intro hkept fact hfact hsensor
    refine (first_under_key ⟨fact, hfact, rfl⟩).mp ?_
    obtain ⟨source, hsource, hkey⟩ : ∃ source ∈ (nodeTable input).nodes, source.key = fact.key := by
      rw [← List.mem_map, nodeTable_nodes, KeyedList.mem_keys_collect SurfaceNode.keepsKey,
        mem_keys_addedNodes]
      exact key_mem_nodeNames hfact
    obtain ⟨first, hfirst, hstatus⟩ := status_of_node hsource
    rw [hkey] at hfirst
    exact ⟨first, hfirst, hstatus.symm.trans (hkept.status _
      ((nodes_of_rebuild h _).mpr ⟨source, hsource, rfl⟩) fact hfact hkey.symm hsensor)⟩
  · intro htainted
    constructor
    · intro node hnode fact hfact hkey hsensor
      obtain ⟨source, hsource, rfl⟩ := (nodes_of_rebuild h _).mp hnode
      obtain ⟨first, hfirst, hstatus⟩ := status_of_node hsource
      obtain ⟨marked, hmarked, huntrusted⟩ :=
        (first_under_key ⟨fact, hfact, rfl⟩).mpr (htainted fact hfact hsensor)
      rw [hkey] at hmarked
      rw [show source.key = source.canonicalKey from rfl, hmarked] at hfirst
      cases hfirst
      exact hstatus.trans huntrusted
    · intro node hnode fact hfact hkey hscope
      obtain ⟨source, hsource, rfl⟩ := (nodes_of_rebuild h _).mp hnode
      obtain ⟨item, hitem, hitemKey, hout⟩ := outOfScope_added hfact hscope
      exact (scope_of_node hsource).mpr ⟨item, hitem, hitemKey.trans hkey, hout⟩

/-- A host name, learned from some source. -/
def wwwHostname (factId : String) (source : FactSource) : LedgerFact where
  factKind := .hostname
  canonicalKey := ⟨"sensor.dns:HOSTNAME:www.example.com".toList, by decide, by decide⟩
  epistemicStatus := .observed
  identityId := "ANONYMOUS".toList
  targetReference := "www.example.com".toList
  sessionContextId := none
  normalizedOrigin := none
  normalizedPath := none
  httpMethod := none
  attributes := []
  valid := by decide
  stripped := by decide
  sources := [source]
  sources_nonempty := List.cons_ne_nil _ _
  factId := factId.toList

/-- The host name as a sensor reported it. -/
def wwwSensed : LedgerFact := wwwHostname "fact-1" (.sensorObservation "sensed-1".toList)

/-- The host name as it was seen in a response. -/
def wwwSeen : LedgerFact := wwwHostname "fact-2" (.observation "observation-1".toList)

/-- What a sensor reported stays marked when it was also seen, if it was reported first. -/
theorem sensor_taint_iff_sensed :
    ∃ graph, rebuildAttackSurfaceGraph asciiCodecs ⟨[wwwSensed, wwwSeen], [], []⟩ = .ok graph ∧
      TaintKept [wwwSensed, wwwSeen] graph := by
  refine ⟨_, rfl, (sensor_taint_iff asciiCodecs ⟨[wwwSensed, wwwSeen], [], []⟩ _ rfl).mpr ?_⟩
  intro fact hfact _
  have hkey : fact.key = wwwSensed.key := by
    rcases List.mem_cons.mp hfact with rfl | hfact
    · rfl
    · cases List.mem_singleton.mp hfact
      rfl
  rw [hkey]
  exact ⟨⟨wwwSensed, rfl, by decide⟩, by decide⟩

/-- **What was seen before a sensor reported it** is not marked at all. -/
theorem seen_before_sensed :
    ∃ graph, rebuildAttackSurfaceGraph asciiCodecs ⟨[wwwSeen, wwwSensed], [], []⟩ = .ok graph ∧
      wwwSensed.SensorSourced ∧
      (∃ node ∈ graph.nodes, node.canonicalKey = wwwSensed.key ∧
        node.epistemicStatus = .observed) ∧
      ¬ TaintKept [wwwSeen, wwwSensed] graph := by
  obtain ⟨graph, hgraph, node, hnode, hkey, hstatus⟩ :
      ∃ graph, rebuildAttackSurfaceGraph asciiCodecs ⟨[wwwSeen, wwwSensed], [], []⟩ = .ok graph ∧
        ∃ node ∈ graph.nodes, node.canonicalKey = wwwSensed.key ∧
          node.epistemicStatus = .observed := by
    refine ⟨_, rfl, ?_⟩
    decide
  have hsensor : wwwSensed.SensorSourced := by decide
  refine ⟨graph, hgraph, hsensor, ⟨node, hnode, hkey, hstatus⟩, fun hkept => ?_⟩
  have hmarked := hkept.status node hnode wwwSensed (by simp) hkey.symm hsensor
  rw [hstatus] at hmarked
  cases hmarked

/-- The node of an identity that no fact is named after is observed: it stands
for the identity, whatever the facts that were learned under it are. -/
theorem identity_observed {L : UrlCodecs} {input : SurfaceInput} {graph : AttackSurfaceGraph}
    (h : rebuildAttackSurfaceGraph L input = .ok graph) {identityId : Text}
    (hfree : ∀ fact ∈ input.facts, fact.key ≠ identityKey identityId)
    (hinferences : ∀ inference ∈ input.inferences, inference.key ≠ identityKey identityId) :
    ∀ node ∈ graph.nodes, node.canonicalKey = identityKey identityId →
      node.epistemicStatus = .observed := by
  intro node hnode hname
  obtain ⟨source, hsource, rfl⟩ := (nodes_of_rebuild h _).mp hnode
  obtain ⟨first, hfirst, hstatus⟩ := status_of_node hsource
  have hkey : first.key = identityKey identityId := by
    have hfound := List.find?_some hfirst
    exact (of_decide_eq_true hfound).trans hname
  rw [hstatus]
  rcases List.mem_append.mp (List.mem_of_find?_eq_some hfirst) with hmem | hmem
  · obtain ⟨fact, hfact, hmem⟩ := List.mem_flatMap.mp hmem
    rcases List.mem_cons.mp (show first ∈ _ :: (fact.nodes fact.scope).tail from hmem) with
      rfl | htail
    · exact absurd hkey (hfree fact (mem_byKey.mp hfact))
    · exact (isReference_of_mem_tail htail).1.epistemicStatus
  · obtain ⟨inference, hinference, rfl⟩ := List.mem_map.mp hmem
    exact absurd hkey (hinferences inference ((List.mem_insertionSort _).mp hinference))

end Zest.Discovery

import Zest.SurfaceEdges

/-! # Which edges a rebuild has

A path belongs to its origin, an operation and a resource to their path, a
boundary to its origin.  The edge that says so is made when the fact is visited,
and only what was visited before it can be found; so the edge is there if and
only if some fact that it could lead to has a smaller key.  The keys are hashes:
which facts are joined is a matter of chance.
-/
namespace Zest.Discovery

namespace LedgerFact

theorem acceptable (fact : LedgerFact) : fact.toFactFields.Acceptable :=
  (FactFields.check_eq_ok _).mp fact.valid

theorem origin_ne_nil {fact : LedgerFact} {origin : Text}
    (h : fact.normalizedOrigin = some origin) : origin ≠ [] := by
  rintro rfl
  exact fact.acceptable.origin [] h rfl

theorem path_ne_nil {fact : LedgerFact} {path : Text} (h : fact.normalizedPath = some path) :
    path ≠ [] := by
  rintro rfl
  exact fact.acceptable.path [] h rfl

theorem lookup_eq_origin {fact : LedgerFact} {origin : Text} :
    fact.lookup = some (.origin origin) ↔
      fact.factKind = .origin ∧ fact.normalizedOrigin = some origin := by
  unfold lookup
  cases fact.factKind <;> simp
  · cases fact.normalizedOrigin <;> cases fact.normalizedPath <;> simp

theorem lookup_eq_path {fact : LedgerFact} {origin path : Text} :
    fact.lookup = some (.path origin path) ↔ fact.factKind = .exactPath ∧
      fact.normalizedOrigin = some origin ∧ fact.normalizedPath = some path := by
  unfold lookup
  cases fact.factKind <;> simp
  · cases fact.normalizedOrigin <;> cases fact.normalizedPath <;> simp

theorem lookup_eq_hostname {fact : LedgerFact} {host : Text} :
    fact.lookup = some (.hostname host) ↔
      fact.factKind = .hostname ∧ fact.hostname = host ∧ host ≠ [] := by
  unfold lookup
  cases fact.factKind <;> simp
  · cases fact.normalizedOrigin <;> cases fact.normalizedPath <;> simp
  · constructor
    · rintro ⟨hne, rfl⟩
      exact ⟨rfl, hne⟩
    · rintro ⟨rfl, hne⟩
      exact ⟨hne, rfl⟩

/-- A path that is looked up where one of its halves may be missing. -/
theorem lookup_eq_path_getD {fact : LedgerFact} {origin path : Option Text} :
    fact.lookup = some (.path (origin.getD []) (path.getD [])) ↔ fact.factKind = .exactPath ∧
      (∃ o, origin = some o ∧ fact.normalizedOrigin = some o) ∧
      ∃ p, path = some p ∧ fact.normalizedPath = some p := by
  rw [lookup_eq_path]
  constructor
  · rintro ⟨hkind, horigin, hpath⟩
    refine ⟨hkind, ?_, ?_⟩
    · cases origin with
      | none => exact absurd rfl (origin_ne_nil horigin)
      | some o => exact ⟨o, rfl, horigin⟩
    · cases path with
      | none => exact absurd rfl (path_ne_nil hpath)
      | some p => exact ⟨p, rfl, hpath⟩
  · rintro ⟨hkind, ⟨o, rfl, horigin⟩, p, rfl, hpath⟩
    exact ⟨hkind, horigin, hpath⟩

end LedgerFact

/-! ## What belongs to what -/

/-- The four ways in which a fact belongs to another. -/
inductive Wire where
  | contains
  | observedRequestTo
  | instanceOf
  | boundaryOf
  deriving DecidableEq, Repr

namespace Wire

/-- The kind of the edge. -/
def edgeKind : Wire → AttackSurfaceEdgeKind
  | contains => .contains
  | observedRequestTo => .observedRequestTo
  | instanceOf => .instanceOf
  | boundaryOf => .boundaryOf

/-- The kind of the fact that belongs to another. -/
def childKind : Wire → DiscoveryFactKind
  | contains => .exactPath
  | observedRequestTo => .httpOperation
  | instanceOf => .resourceInstanceCandidate
  | boundaryOf => .scopeBoundaryCandidate

/-- The kind of the fact that it belongs to. -/
def parentKind : Wire → DiscoveryFactKind
  | contains => .origin
  | observedRequestTo => .exactPath
  | instanceOf => .exactPath
  | boundaryOf => .origin

/-- Whether it is by the path as well, and not by the origin alone. -/
def byPath : Wire → Bool
  | contains => false
  | observedRequestTo => true
  | instanceOf => true
  | boundaryOf => false

/-- Whether the edge leads from the child to the parent. -/
def outward : Wire → Bool
  | contains => false
  | observedRequestTo => false
  | instanceOf => true
  | boundaryOf => true

/-- By what the two facts say, the one belongs to the other. -/
structure Joins (wire : Wire) (parent child : LedgerFact) : Prop where
  child_kind : child.factKind = wire.childKind
  parent_kind : parent.factKind = wire.parentKind
  origin : ∃ origin, child.normalizedOrigin = some origin ∧ parent.normalizedOrigin = some origin
  path : wire.byPath = true →
    ∃ path, child.normalizedPath = some path ∧ parent.normalizedPath = some path

/-- An edge that says so. -/
structure IsEdge (wire : Wire) (parent child : LedgerFact) (edge : AttackSurfaceEdge) : Prop where
  kind : edge.kind = wire.edgeKind
  fromNode : edge.fromNodeId = if wire.outward then child.key else parent.key
  toNode : edge.toNodeId = if wire.outward then parent.key else child.key

/-- An exact path is wired to its origin only if it has a path. -/
def Ready (wire : Wire) (child : LedgerFact) : Prop :=
  wire = .contains → child.normalizedPath ≠ none

theorem childKind_injective {a b : Wire} (h : a.childKind = b.childKind) : a = b := by
  cases a <;> cases b <;> first | rfl | cases h

end Wire

/-- What a link of the first pass is for. -/
theorem wire_of_link {child : LedgerFact} {link : Link} (h : link ∈ child.links) :
    ∃ wire : Wire, child.factKind = wire.childKind ∧ wire.Ready child ∧
      link.kind = wire.edgeKind ∧ link.near = child.key ∧ link.outward = wire.outward ∧
      ∀ parent : LedgerFact, parent.lookup = some link.lookup → wire.Joins parent child := by
  unfold LedgerFact.links at h
  split at h
  next hkind =>
    split at h
    next origin path horigin hpath =>
      cases List.mem_singleton.mp h
      refine ⟨.contains, hkind, fun _ hnone => ?_, rfl, rfl, rfl, fun parent hparent => ?_⟩
      · rw [hpath] at hnone
        cases hnone
      · obtain ⟨hparentKind, hparentOrigin⟩ := LedgerFact.lookup_eq_origin.mp hparent
        exact ⟨hkind, hparentKind, ⟨origin, horigin, hparentOrigin⟩, fun hfalse => (by cases hfalse)⟩
    · cases h
  next hkind =>
    split at h
    next origin path horigin hpath =>
      cases List.mem_singleton.mp h
      refine ⟨.observedRequestTo, hkind, fun hwire => (by cases hwire), rfl, rfl, rfl,
        fun parent hparent => ?_⟩
      obtain ⟨hparentKind, hparentOrigin, hparentPath⟩ := LedgerFact.lookup_eq_path.mp hparent
      exact ⟨hkind, hparentKind, ⟨origin, horigin, hparentOrigin⟩,
        fun _ => ⟨path, hpath, hparentPath⟩⟩
    · cases h
  next hkind =>
    split at h
    next origin horigin =>
      cases List.mem_singleton.mp h
      refine ⟨.boundaryOf, hkind, fun hwire => (by cases hwire), rfl, rfl, rfl,
        fun parent hparent => ?_⟩
      obtain ⟨hparentKind, hparentOrigin⟩ := LedgerFact.lookup_eq_origin.mp hparent
      exact ⟨hkind, hparentKind, ⟨origin, horigin, hparentOrigin⟩, fun hfalse => (by cases hfalse)⟩
    · cases h
  next hkind =>
    cases List.mem_singleton.mp h
    refine ⟨.instanceOf, hkind, fun hwire => (by cases hwire), rfl, rfl, rfl,
      fun parent hparent => ?_⟩
    obtain ⟨hparentKind, horigin, hpath⟩ := LedgerFact.lookup_eq_path_getD.mp hparent
    exact ⟨hkind, hparentKind, horigin, fun _ => hpath⟩
  · cases h

/-- A fact that belongs to another has a link for it. -/
theorem link_of_joins {wire : Wire} {parent child : LedgerFact} (h : wire.Joins parent child)
    (hready : wire.Ready child) :
    ∃ link ∈ child.links, parent.lookup = some link.lookup := by
  obtain ⟨hchild, hparent, ⟨origin, horigin, hparentOrigin⟩, hpath⟩ := h
  unfold LedgerFact.links
  cases wire with
  | contains =>
    rw [hchild]
    obtain ⟨path, hsome⟩ := Option.ne_none_iff_exists'.mp (hready rfl)
    simp only [Wire.childKind, horigin, hsome]
    exact ⟨_, List.mem_singleton_self _, LedgerFact.lookup_eq_origin.mpr ⟨hparent, hparentOrigin⟩⟩
  | observedRequestTo =>
    rw [hchild]
    obtain ⟨path, hsome, hparentPath⟩ := hpath rfl
    simp only [Wire.childKind, horigin, hsome]
    exact ⟨_, List.mem_singleton_self _,
      LedgerFact.lookup_eq_path.mpr ⟨hparent, hparentOrigin, hparentPath⟩⟩
  | instanceOf =>
    rw [hchild]
    obtain ⟨path, hsome, hparentPath⟩ := hpath rfl
    exact ⟨_, List.mem_singleton_self _, LedgerFact.lookup_eq_path_getD.mpr
      ⟨hparent, ⟨origin, horigin, hparentOrigin⟩, path, hsome, hparentPath⟩⟩
  | boundaryOf =>
    rw [hchild]
    simp only [Wire.childKind, horigin]
    exact ⟨_, List.mem_singleton_self _, LedgerFact.lookup_eq_origin.mpr ⟨hparent, hparentOrigin⟩⟩

/-! ## Where the edges come from -/

theorem mem_resolve {index : Index} {fact : LedgerFact} {links : List Link}
    {edge : AttackSurfaceEdge} :
    edge ∈ resolve index fact links ↔
      ∃ link ∈ links, ∃ found, index.get link.lookup = some found ∧ link.edge fact found = edge := by
  unfold resolve
  rw [List.mem_filterMap]
  simp only [Option.map_eq_some_iff]

/-- The kinds of edges of the second pass. -/
def sensorKinds : List AttackSurfaceEdgeKind :=
  [.resolvesTo, .securedBy, .runs, .references, .hostedOn]

/-- Whether an edge of this kind leads to the fact that was looked for. -/
def leadsOut : AttackSurfaceEdgeKind → Bool
  | .boundaryOf | .instanceOf | .resolvesTo | .hostedOn | .transitionsTo => true
  | _ => false

/-- What a link of the second pass starts from. -/
theorem near_of_sensor {L : UrlCodecs} {fact : LedgerFact} {link : Link}
    (h : link ∈ fact.sensors L) :
    link.kind ∈ sensorKinds ∧ link.near = fact.key ∧ link.outward = leadsOut link.kind := by
  unfold LedgerFact.sensors at h
  split at h
  next links hlinks =>
    unfold LedgerFact.sensorLinks at hlinks
    split at hlinks
    · cases hlinks
      split at h
      · cases h
      · cases List.mem_singleton.mp h
        exact ⟨by simp [sensorKinds, LedgerFact.outward], rfl, rfl⟩
    · split at hlinks
      · cases hlinks
      · cases hlinks
        obtain ⟨host, -, rfl⟩ := List.mem_map.mp h
        exact ⟨by simp [sensorKinds, LedgerFact.inward], rfl, rfl⟩
    · cases hlinks
      obtain ⟨origin, -, rfl⟩ := List.mem_map.mp h
      exact ⟨by simp [sensorKinds, LedgerFact.inward], rfl, rfl⟩
    · cases hlinks
      split at h
      · cases h
      · cases List.mem_singleton.mp h
        exact ⟨by simp [sensorKinds, LedgerFact.inward], rfl, rfl⟩
    · cases hlinks
      split at h
      · cases h
      · cases List.mem_singleton.mp h
        exact ⟨by simp [sensorKinds, LedgerFact.inward], rfl, rfl⟩
    · split at hlinks
      · cases hlinks
      · cases hlinks
        cases h
      · cases hlinks
        split at h
        · cases h
        · cases List.mem_singleton.mp h
          exact ⟨by simp [sensorKinds, LedgerFact.outward], rfl, rfl⟩
    · cases hlinks
      cases h
  · cases h

/-- The link of a transition. -/
theorem mem_transitionLinks {fact : LedgerFact} {toKey : Text → Option Text} {link : Link} :
    link ∈ fact.transitionLinks toKey ↔ fact.factKind = .workflowTransition ∧
      ∃ preId, fact.attributes.get "pre_state_fact_id".toList = some (.text preId) ∧
        ∃ preKey, toKey preId = some preKey ∧
          link = ⟨.path (fact.normalizedOrigin.getD []) (fact.normalizedPath.getD []),
            .transitionsTo, preKey, true, fun _ => preKey ++ ":transitions:".toList ++ fact.key,
            fact.epistemicStatus⟩ := by
  unfold LedgerFact.transitionLinks
  split
  next hkind =>
    split
    next preId hpre =>
      split
      next hnone =>
        constructor
        · intro h
          cases h
        · rintro ⟨-, id, hid, preKey, hkey, -⟩
          cases hpre.symm.trans hid
          cases hnone.symm.trans hkey
      next preKey hsome =>
        rw [List.mem_singleton]
        constructor
        · rintro rfl
          exact ⟨hkind, preId, hpre, preKey, hsome, rfl⟩
        · rintro ⟨-, id, hid, key, hkey, rfl⟩
          cases hpre.symm.trans hid
          cases hsome.symm.trans hkey
          rfl
    next hpre =>
      constructor
      · intro h
        cases h
      · rintro ⟨-, id, hid, -⟩
        exact absurd hid (hpre id)
  next hkind =>
    constructor
    · intro h
      cases h
    · rintro ⟨h, -⟩
      exact absurd h hkind

/-- An edge of an inference. -/
theorem mem_inference_edges {inference : LedgerInference} {index : Index}
    {edge : AttackSurfaceEdge} (h : edge ∈ inference.edges index) :
    (inference.inferenceKind = .routeTemplate ∧ ∃ path ∈ inference.exactPaths, ∃ origin pathId,
      (Lookup.path origin path, pathId) ∈ index ∧ edge = inference.edge
        (pathId ++ ":variant:".toList ++ inference.key) .variantOf pathId) ∨
    inference.inferenceKind = .sameAs ∧
      edge = inference.edge ("same:".toList ++ inference.key) .sameAs inference.key := by
  unfold LedgerInference.edges at h
  split at h
  next hkind =>
    obtain ⟨path, hpath, h⟩ := List.mem_flatMap.mp h
    obtain ⟨⟨x, pathId⟩, hentry, rfl⟩ := List.mem_map.mp h
    obtain ⟨hentry, hfor⟩ := List.mem_filter.mp hentry
    refine Or.inl ⟨hkind, path, hpath, ?_⟩
    cases x with
    | path origin other =>
      have heq : other = path := by simpa [LedgerInference.isFor] using hfor
      exact ⟨origin, pathId, heq ▸ hentry, rfl⟩
    | origin origin => cases hfor
    | hostname host => cases hfor
  next hkind => exact Or.inr ⟨hkind, List.mem_singleton.mp h⟩
  · cases h

/-- The facts that an edge of the first pass can be led to. -/
def visitedAt (facts : List LedgerFact) (fact : LedgerFact) : Index :=
  indexOf (upTo (byKey facts) fact)

theorem mem_upTo {facts : List LedgerFact} {fact other : LedgerFact} :
    other ∈ upTo (byKey facts) fact ↔ other ∈ facts ∧ other.key ≤ fact.key := by
  unfold upTo
  rw [List.mem_filter, mem_byKey]
  simp

theorem mem_factEdges {L : UrlCodecs} {facts : List LedgerFact} {edge : AttackSurfaceEdge} :
    edge ∈ factEdges L facts ↔
      (∃ fact ∈ facts, edge = fact.observedUnder) ∨
      (∃ fact ∈ facts, edge ∈ resolve (visitedAt facts fact) fact fact.links) ∨
      ∃ fact ∈ facts, edge ∈ resolve (indexOf (byKey facts)) fact (fact.sensors L) := by
  unfold factEdges visitedAt
  rw [List.mem_append, List.mem_flatMap, List.mem_flatMap]
  simp only [List.mem_cons, mem_byKey]
  constructor
  · rintro (⟨fact, hfact, h | h⟩ | h)
    · exact Or.inl ⟨fact, hfact, h⟩
    · exact Or.inr (Or.inl ⟨fact, hfact, h⟩)
    · exact Or.inr (Or.inr h)
  · rintro (⟨fact, hfact, h⟩ | ⟨fact, hfact, h⟩ | h)
    · exact Or.inl ⟨fact, hfact, Or.inl h⟩
    · exact Or.inl ⟨fact, hfact, Or.inr h⟩
    · exact Or.inr h

theorem mem_transitionEdges {facts : List LedgerFact} {edge : AttackSurfaceEdge} :
    edge ∈ transitionEdges facts ↔ ∃ fact ∈ facts,
      edge ∈ resolve (indexOf (byKey facts)) fact (fact.transitionLinks (factIdToKey facts)) := by
  unfold transitionEdges transitionPass
  rw [List.mem_flatMap]
  simp only [mem_byKey]

theorem mem_inferenceEdges {facts : List LedgerFact} {inferences : List LedgerInference}
    {edge : AttackSurfaceEdge} :
    edge ∈ inferenceEdges facts inferences ↔
      ∃ inference ∈ inferences, edge ∈ inference.edges (indexOf (byKey facts)) := by
  unfold inferenceEdges inferencesByKey
  rw [List.mem_flatMap]
  simp only [List.mem_insertionSort]

theorem mem_madeEdges {L : UrlCodecs} {input : SurfaceInput} {edge : AttackSurfaceEdge} :
    edge ∈ madeEdges L input ↔ edge ∈ factEdges L input.facts ∨
      edge ∈ transitionEdges input.facts ∨
      edge ∈ inferenceEdges input.facts input.inferences := by
  unfold madeEdges
  simp only [List.mem_append, or_assoc]

theorem mem_allEdges {L : UrlCodecs} {input : SurfaceInput} {edge : AttackSurfaceEdge} :
    edge ∈ allEdges L input ↔ edge ∈ madeEdges L input ∨ edge ∈ input.workflowEdges :=
  List.mem_append

/-! ## Parents first -/

/-- Every fact that belongs to another is joined to one. -/
def Wired (facts : List LedgerFact) (graph : AttackSurfaceGraph) : Prop :=
  ∀ wire : Wire, ∀ child ∈ facts, (∃ parent ∈ facts, wire.Joins parent child) →
    ∃ parent ∈ facts, wire.Joins parent child ∧ ∃ edge ∈ graph.edges, wire.IsEdge parent child edge

/-- Every fact that belongs to another has one with a smaller key, and if it is
a path, it says which. -/
def ParentsFirst (facts : List LedgerFact) : Prop :=
  ∀ wire : Wire, ∀ child ∈ facts, (∃ parent ∈ facts, wire.Joins parent child) →
    wire.Ready child ∧ ∃ parent ∈ facts, wire.Joins parent child ∧ parent.key < child.key

/-- An edge of the kind of a wire is one of the first pass. -/
theorem link_of_wire {L : UrlCodecs} {input : SurfaceInput} {wire : Wire}
    {edge : AttackSurfaceEdge} (hkind : edge.kind = wire.edgeKind) (h : edge ∈ madeEdges L input) :
    ∃ fact ∈ input.facts, edge ∈ resolve (visitedAt input.facts fact) fact fact.links := by
  rcases mem_madeEdges.mp h with h | h | h
  · rcases mem_factEdges.mp h with ⟨fact, -, rfl⟩ | hlink | ⟨fact, -, hsensor⟩
    · cases wire <;> cases hkind
    · exact hlink
    · obtain ⟨link, hlink, found, -, rfl⟩ := mem_resolve.mp hsensor
      have hkinds := (near_of_sensor hlink).1
      rw [show link.kind = wire.edgeKind from hkind] at hkinds
      exact absurd hkinds (by cases wire <;> decide)
  · obtain ⟨fact, -, h⟩ := mem_transitionEdges.mp h
    obtain ⟨link, hlink, found, -, rfl⟩ := mem_resolve.mp h
    obtain ⟨-, preId, -, preKey, -, rfl⟩ := mem_transitionLinks.mp hlink
    cases wire <;> cases hkind
  · obtain ⟨inference, -, h⟩ := mem_inferenceEdges.mp h
    rcases mem_inference_edges h with ⟨-, path, -, origin, pathId, -, rfl⟩ | ⟨-, rfl⟩
    · cases wire <;> cases hkind
    · cases wire <;> cases hkind

/-- **Whether the edges are there** depends on the order of the keys. -/
theorem wired_iff {L : UrlCodecs} {input : SurfaceInput} (hkeys : DistinctKeys input.facts)
    (haccepted : Accepted L input) :
    Wired input.facts (graphOf (nodeTable input) (allEdges L input)) ↔
      ParentsFirst input.facts := by
  constructor
  · intro h wire child hchild hparents
    obtain ⟨parent, hparent, hjoins, edge, hedge, hkind, hfrom, hto⟩ := h wire child hchild hparents
    have hmade : edge ∈ madeEdges L input := by
      rcases mem_allEdges.mp (mem_graphOf_edges.mp hedge) with hmade | hworkflow
      · exact hmade
      · rw [haccepted.workflow edge hworkflow] at hkind
        cases wire <;> cases hkind
    obtain ⟨fact, hfact, hresolve⟩ := link_of_wire hkind hmade
    obtain ⟨link, hlink, found, hfound, rfl⟩ := mem_resolve.mp hresolve
    obtain ⟨wire', hfactKind, hready, hlinkKind, hnear, houtward, hjoin⟩ := wire_of_link hlink
    have hwire : wire' = wire := by
      have hboth : wire'.edgeKind = wire.edgeKind := hlinkKind.symm.trans hkind
      cases wire' <;> cases wire <;> first | rfl | cases hboth
    subst hwire
    obtain ⟨other, hother, hlookup, hkey⟩ := fact_of_get hfound
    -- The near end of the edge is the child, so the fact is the child.
    have hends : fact.key = child.key ∧ found = parent.key := by
      simp only [Link.edge, houtward, hnear] at hfrom hto
      cases hout : wire'.outward <;> simp only [hout, if_true, if_false, Bool.false_eq_true]
        at hfrom hto
      · exact ⟨hto, hfrom⟩
      · exact ⟨hfrom, hto⟩
    cases hkeys.eq hfact hchild hends.1
    obtain ⟨hotherMem, hotherLe⟩ := mem_upTo.mp hother
    cases hkeys.eq hotherMem hparent (hkey.trans hends.2)
    refine ⟨hready, parent, hparent, hjoins, lt_of_le_of_ne hotherLe fun heq => ?_⟩
    cases hkeys.eq hparent hchild heq
    have hkinds := hjoins.parent_kind.symm.trans hjoins.child_kind
    cases wire' <;> cases hkinds
  · intro h wire child hchild hparents
    obtain ⟨hready, parent, hparent, hjoins, hlt⟩ := h wire child hchild hparents
    obtain ⟨link, hlink, hlookup⟩ := link_of_joins hjoins hready
    obtain ⟨found, hfound⟩ := get_of_fact (mem_upTo.mpr ⟨hparent, hlt.le⟩) hlookup
    obtain ⟨other, hother, hotherLookup, hkey⟩ := fact_of_get hfound
    obtain ⟨wire', hfactKind, -, hlinkKind, hnear, houtward, hjoin⟩ := wire_of_link hlink
    cases Wire.childKind_injective (hfactKind.symm.trans hjoins.child_kind)
    refine ⟨other, (mem_upTo.mp hother).1, hjoin other hotherLookup, link.edge child found,
      mem_graphOf_edges.mpr (mem_allEdges.mpr (Or.inl (mem_madeEdges.mpr (Or.inl (mem_factEdges.mpr
        (Or.inr (Or.inl ⟨child, hchild, mem_resolve.mpr ⟨link, hlink, found, hfound, rfl⟩⟩))))))),
      hlinkKind, ?_, ?_⟩
    · show (if link.outward then link.near else found) = _
      rw [houtward, hnear, hkey]
    · show (if link.outward then found else link.near) = _
      rw [houtward, hnear, hkey]

/-! ## Endpoints -/

/-- Every edge is between nodes of the graph. -/
def EndpointsPresent (graph : AttackSurfaceGraph) : Prop :=
  ∀ edge ∈ graph.edges, (∃ node ∈ graph.nodes, node.nodeId = edge.fromNodeId) ∧
    ∃ node ∈ graph.nodes, node.nodeId = edge.toNodeId

/-- The names of the nodes: the keys of the facts and the inferences, and the
identities and sessions of the facts. -/
def nodeNames (input : SurfaceInput) : List Text :=
  (input.facts.flatMap fun fact => fact.key :: identityKey fact.identityId ::
    (fact.sessionContextId.map sessionKey).toList) ++ input.inferences.map LedgerInference.key

theorem keys_of_nodes (fact : LedgerFact) (scope : ScopeClassification) :
    (fact.nodes scope).map SurfaceNode.key = fact.key :: identityKey fact.identityId ::
      (fact.sessionContextId.map sessionKey).toList := by
  unfold LedgerFact.nodes
  rw [List.map_cons, List.map_cons]
  cases fact.sessionContextId <;> rfl

theorem mem_keys_addedNodes {input : SurfaceInput} {name : Text} :
    name ∈ (addedNodes input).map SurfaceNode.key ↔ name ∈ nodeNames input := by
  unfold addedNodes nodeNames
  rw [List.map_append, List.map_flatMap, List.map_map, List.mem_append, List.mem_append,
    List.mem_flatMap, List.mem_flatMap, List.mem_map, List.mem_map]
  simp only [keys_of_nodes, mem_byKey, inferencesByKey, List.mem_insertionSort]
  exact Iff.rfl

/-- The nodes of the graph are those of the names. -/
theorem exists_node_iff {input : SurfaceInput} {edges : List AttackSurfaceEdge} {name : Text} :
    (∃ node ∈ (graphOf (nodeTable input) edges).nodes, node.nodeId = name) ↔
      name ∈ nodeNames input := by
  rw [← mem_keys_addedNodes, ← KeyedList.mem_keys_collect SurfaceNode.keepsKey, List.mem_map]
  constructor
  · rintro ⟨node, hnode, rfl⟩
    obtain ⟨source, hsource, rfl⟩ := List.mem_map.mp ((List.mem_insertionSort _).mp hnode)
    exact ⟨source, hsource, source.idIsKey.symm⟩
  · rintro ⟨source, hsource, rfl⟩
    exact ⟨source.toAttackSurfaceNode,
      (List.mem_insertionSort _).mpr (List.mem_map_of_mem hsource), source.idIsKey⟩

theorem key_mem_nodeNames {input : SurfaceInput} {fact : LedgerFact} (h : fact ∈ input.facts) :
    fact.key ∈ nodeNames input :=
  List.mem_append_left _ (List.mem_flatMap.mpr ⟨fact, h, List.mem_cons_self⟩)

theorem found_mem_nodeNames {input : SurfaceInput} {facts : List LedgerFact} {x : Lookup}
    {found : Text} (hsub : ∀ fact ∈ facts, fact ∈ input.facts)
    (h : (indexOf facts).get x = some found) : found ∈ nodeNames input := by
  obtain ⟨fact, hfact, -, rfl⟩ := fact_of_get h
  exact key_mem_nodeNames (hsub fact hfact)

/-- An edge of a link is between names if its near end is one. -/
theorem resolved_ends {input : SurfaceInput} {facts : List LedgerFact} {fact : LedgerFact}
    {links : List Link} {edge : AttackSurfaceEdge} (hsub : ∀ fact ∈ facts, fact ∈ input.facts)
    (hnear : ∀ link ∈ links, link.near ∈ nodeNames input)
    (h : edge ∈ resolve (indexOf facts) fact links) :
    edge.fromNodeId ∈ nodeNames input ∧ edge.toNodeId ∈ nodeNames input := by
  obtain ⟨link, hlink, found, hfound, rfl⟩ := mem_resolve.mp h
  have hfoundName := found_mem_nodeNames hsub hfound
  have hnearName := hnear link hlink
  unfold Link.edge
  cases link.outward
  · exact ⟨hfoundName, hnearName⟩
  · exact ⟨hnearName, hfoundName⟩

theorem factIdToKey_eq (facts : List LedgerFact) (factId : Text) :
    factIdToKey facts factId =
      (facts.filter fun fact => fact.factId = factId).getLast?.map LedgerFact.key := by
  unfold factIdToKey
  rw [KeyedList.get_collect fun _ _ h => h.symm, KeyedList.mergeAll_overwrite, List.filter_map,
    List.getLast?_map, Option.map_map]
  rfl

/-- What is in the dictionary is there, under its id. -/
theorem mem_of_get_index {facts : List LedgerFact} {entry : Lookup × Text}
    (h : entry ∈ indexOf facts) : ∃ fact ∈ facts, fact.lookup = some entry.1 ∧ fact.key = entry.2 := by
  unfold indexOf at h
  induction facts using List.reverseRecOn with
  | nil => cases h
  | append_singleton facts fact ih =>
    rw [List.foldl_append, List.foldl_cons, List.foldl_nil] at h
    have hmono : (∃ f ∈ facts, f.lookup = some entry.1 ∧ f.key = entry.2) →
        ∃ f ∈ facts ++ [fact], f.lookup = some entry.1 ∧ f.key = entry.2 := by
      rintro ⟨f, hf, hrest⟩
      exact ⟨f, List.mem_append_left _ hf, hrest⟩
    unfold Index.add at h
    split at h
    next lookup hlookup =>
      rcases KeyedList.mem_upsert_overwrite h with h | rfl
      · exact hmono (ih h)
      · exact ⟨fact, List.mem_append_right _ List.mem_cons_self, hlookup, rfl⟩
    · exact hmono (ih h)

/-- An edge that the rebuild makes is between nodes. -/
theorem made_ends {L : UrlCodecs} {input : SurfaceInput} {edge : AttackSurfaceEdge}
    (h : edge ∈ madeEdges L input) :
    edge.fromNodeId ∈ nodeNames input ∧ edge.toNodeId ∈ nodeNames input := by
  have hall : ∀ fact ∈ byKey input.facts, fact ∈ input.facts := fun _ => mem_byKey.mp
  rcases mem_madeEdges.mp h with h | h | h
  · rcases mem_factEdges.mp h with ⟨fact, hfact, rfl⟩ | ⟨fact, hfact, h⟩ | ⟨fact, hfact, h⟩
    · refine ⟨key_mem_nodeNames hfact, List.mem_append_left _ (List.mem_flatMap.mpr ⟨fact, hfact, ?_⟩)⟩
      exact List.mem_cons_of_mem _ List.mem_cons_self
    · refine resolved_ends (fun _ hother => (mem_upTo.mp hother).1) (fun link hlink => ?_) h
      obtain ⟨-, -, -, -, hnear, -, -⟩ := wire_of_link hlink
      exact hnear ▸ key_mem_nodeNames hfact
    · refine resolved_ends hall (fun link hlink => ?_) h
      exact (near_of_sensor hlink).2.1 ▸ key_mem_nodeNames hfact
  · obtain ⟨fact, hfact, h⟩ := mem_transitionEdges.mp h
    refine resolved_ends hall (fun link hlink => ?_) h
    obtain ⟨-, preId, -, preKey, hkey, rfl⟩ := mem_transitionLinks.mp hlink
    rw [factIdToKey_eq] at hkey
    obtain ⟨other, hlast, rfl⟩ := Option.map_eq_some_iff.mp hkey
    exact key_mem_nodeNames (List.mem_filter.mp (List.mem_of_getLast? hlast)).1
  · obtain ⟨inference, hinference, h⟩ := mem_inferenceEdges.mp h
    have hname : inference.key ∈ nodeNames input :=
      List.mem_append_right _ (List.mem_map_of_mem hinference)
    rcases mem_inference_edges h with ⟨-, path, -, origin, pathId, hentry, rfl⟩ | ⟨-, rfl⟩
    · obtain ⟨fact, hfact, -, hkey⟩ := mem_of_get_index hentry
      refine ⟨?_, hname⟩
      show pathId ∈ nodeNames input
      exact (show fact.key = pathId from hkey) ▸ key_mem_nodeNames (hall fact hfact)
    · exact ⟨hname, hname⟩

/-- **Edges end at nodes** unless an edge is handed in that does not. -/
theorem endpoints_iff {L : UrlCodecs} {input : SurfaceInput} :
    EndpointsPresent (graphOf (nodeTable input) (allEdges L input)) ↔
      ∀ edge ∈ input.workflowEdges,
        edge.fromNodeId ∈ nodeNames input ∧ edge.toNodeId ∈ nodeNames input := by
  unfold EndpointsPresent
  simp only [exists_node_iff, mem_graphOf_edges]
  constructor
  · intro h edge hedge
    exact h edge (mem_allEdges.mpr (Or.inr hedge))
  · intro h edge hedge
    rcases mem_allEdges.mp hedge with hedge | hedge
    · exact made_ends hedge
    · exact h edge hedge

/-! ## The order that the facts come in -/

/-- The graph is the same for the facts in any order. -/
def OrderInvariant (L : UrlCodecs) (input : SurfaceInput) (graph : AttackSurfaceGraph) : Prop :=
  ∀ facts, input.facts.Perm facts →
    rebuildAttackSurfaceGraph L { input with facts := facts } = .ok graph

/-- The state that a transition starts in is one fact, if its path is there. -/
def StatesNamedOnce (facts : List LedgerFact) : Prop :=
  ∀ transition ∈ facts, transition.factKind = .workflowTransition → ∀ preId,
    transition.attributes.get "pre_state_fact_id".toList = some (.text preId) →
    (∃ path ∈ facts, path.lookup =
      some (.path (transition.normalizedOrigin.getD []) (transition.normalizedPath.getD []))) →
    ∀ a ∈ facts, ∀ b ∈ facts, a.factId = preId → b.factId = preId → a = b

/-- The last of some facts, if they are all one. -/
theorem map_getLast?_congr {facts others : List LedgerFact} (h : facts.Perm others)
    (hone : ∀ a ∈ facts, ∀ b ∈ facts, a = b) :
    facts.getLast?.map LedgerFact.key = others.getLast?.map LedgerFact.key := by
  cases hlast : facts.getLast? with
  | none =>
    rw [List.getLast?_eq_none_iff.mp hlast] at h
    rw [List.nil_perm.mp h]
    rfl
  | some fact =>
    have hmem := List.mem_of_getLast? hlast
    have hne : others ≠ [] := List.ne_nil_of_mem (h.mem_iff.mp hmem)
    have hother := List.getLast_mem hne
    rw [List.getLast?_eq_some_getLast hne, hone fact hmem _ (h.mem_iff.mpr hother)]

theorem resolve_nil {index : Index} {fact : LedgerFact} {links : List Link}
    (h : ∀ link ∈ links, index.get link.lookup = none) : resolve index fact links = [] := by
  unfold resolve
  rw [List.filterMap_eq_nil_iff]
  intro link hlink
  rw [h link hlink]
  rfl

/-- Where the states are named once, the edges of the transitions do not depend
on the order. -/
theorem transitionEdges_perm {facts others : List LedgerFact} (hkeys : DistinctKeys facts)
    (h : facts.Perm others) (honce : StatesNamedOnce facts) :
    transitionEdges others = transitionEdges facts := by
  unfold transitionEdges transitionPass
  rw [byKey_eq hkeys h]
  refine List.flatMap_congr fun fact hfact => ?_
  rw [mem_byKey] at hfact
  by_cases hpath : ∃ path ∈ facts, path.lookup =
      some (.path (fact.normalizedOrigin.getD []) (fact.normalizedPath.getD []))
  · congr 1
    unfold LedgerFact.transitionLinks
    split
    next hkind =>
      split
      next preId hpre =>
        have hfilter := h.filter fun fact => fact.factId = preId
        rw [factIdToKey_eq, factIdToKey_eq, map_getLast?_congr hfilter]
        intro a ha b hb
        obtain ⟨ha, haId⟩ := List.mem_filter.mp ha
        obtain ⟨hb, hbId⟩ := List.mem_filter.mp hb
        exact honce fact hfact hkind preId hpre hpath a ha b hb (by simpa using haId)
          (by simpa using hbId)
      · rfl
    · rfl
  · -- The path is not there, so no edge is made whatever the state.
    have hnone : ∀ toKey : Text → Option Text, ∀ link ∈ fact.transitionLinks toKey,
        (indexOf (byKey facts)).get link.lookup = none := by
      intro toKey link hlink
      obtain ⟨-, preId, -, preKey, -, rfl⟩ := mem_transitionLinks.mp hlink
      rw [Option.eq_none_iff_forall_ne_some]
      intro found hfound
      obtain ⟨path, hmem, hlookup, -⟩ := fact_of_get hfound
      exact hpath ⟨path, mem_byKey.mp hmem, hlookup⟩
    rw [resolve_nil (hnone _), resolve_nil (hnone _)]

theorem accepted_perm {L : UrlCodecs} {input : SurfaceInput} {facts : List LedgerFact}
    (h : input.facts.Perm facts) (haccepted : Accepted L input) :
    Accepted L { input with facts := facts } where
  scopes := fun fact hfact => haccepted.scopes fact (h.mem_iff.mpr hfact)
  hosts := fun fact hfact => haccepted.hosts fact (h.mem_iff.mpr hfact)
  workflow := haccepted.workflow

/-- A graph for each order: only the transitions can differ. -/
theorem rebuild_perm {L : UrlCodecs} {input : SurfaceInput} {facts : List LedgerFact}
    (hkeys : DistinctKeys input.facts) (haccepted : Accepted L input)
    (h : input.facts.Perm facts) :
    rebuildAttackSurfaceGraph L { input with facts := facts } = .ok (graphOf (nodeTable input)
      (factEdges L input.facts ++ transitionEdges facts ++
        inferenceEdges input.facts input.inferences ++ input.workflowEdges)) := by
  refine (rebuild_eq_ok (hkeys.perm h)).mpr ⟨accepted_perm h haccepted, ?_⟩
  unfold allEdges madeEdges factEdges inferenceEdges nodeTable addedNodes
  dsimp only
  rw [byKey_eq hkeys h]

/-- The edge of a transition whose path is there. -/
theorem transition_edge {facts : List LedgerFact} {transition path : LedgerFact} {preId : Text}
    (htransition : transition ∈ facts) (hkind : transition.factKind = .workflowTransition)
    (hpre : transition.attributes.get "pre_state_fact_id".toList = some (.text preId))
    (hpath : path ∈ facts) (hlookup : path.lookup =
      some (.path (transition.normalizedOrigin.getD []) (transition.normalizedPath.getD [])))
    {others : List LedgerFact} {state : LedgerFact} (hsame : byKey others = byKey facts)
    (hlast : others.getLast? = some state) (hstate : state.factId = preId) :
    ∃ edge ∈ transitionEdges others,
      edge.edgeId = state.key ++ ":transitions:".toList ++ transition.key ∧
        edge.fromNodeId = state.key := by
  have htoKey : factIdToKey others preId = some state.key := by
    obtain ⟨before, rfl⟩ := List.getLast?_eq_some_iff.mp hlast
    rw [factIdToKey_eq, List.filter_append, List.filter_cons_of_pos (by simpa using hstate)]
    simp
  obtain ⟨found, hfound⟩ := get_of_fact (mem_byKey.mpr hpath) hlookup
  refine ⟨_, mem_transitionEdges.mpr ⟨transition, mem_byKey.mp (hsame ▸ mem_byKey.mpr htransition),
    mem_resolve.mpr ⟨_, mem_transitionLinks.mpr ⟨hkind, preId, hpre, state.key, htoKey, rfl⟩,
      found, ?_, rfl⟩⟩, rfl, rfl⟩
  rw [hsame]
  exact hfound

/-- **The order does not matter** unless a transition starts in a state whose id
two facts have. -/
theorem orderInvariant_iff {L : UrlCodecs} {input : SurfaceInput}
    (hkeys : DistinctKeys input.facts) (haccepted : Accepted L input) :
    OrderInvariant L input (graphOf (nodeTable input) (allEdges L input)) ↔
      StatesNamedOnce input.facts := by
  constructor
  · intro h transition htransition hkind preId hpre ⟨path, hpath, hlookup⟩ a ha b hb haId hbId
    -- Each of the two facts can come last.
    have hlast : ∀ state ∈ input.facts, ∃ others, input.facts.Perm others ∧
        others.getLast? = some state := by
      intro state hstate
      obtain ⟨before, after, hsplit⟩ := List.append_of_mem hstate
      refine ⟨(before ++ after) ++ [state], ?_, by simp⟩
      rw [hsplit, List.append_assoc]
      exact (List.perm_append_singleton state after).symm.append_left before
    obtain ⟨orderA, hpermA, hlastA⟩ := hlast a ha
    obtain ⟨orderB, hpermB, hlastB⟩ := hlast b hb
    have hperm : (transitionEdges orderA).Perm (transitionEdges orderB) := by
      have hA := (rebuild_perm hkeys haccepted hpermA).symm.trans (h orderA hpermA)
      have hB := (rebuild_perm hkeys haccepted hpermB).symm.trans (h orderB hpermB)
      have hedges := congrArg AttackSurfaceGraph.edges (Except.ok.inj (hA.trans hB.symm))
      have hsorted := (List.perm_insertionSort _ _).symm.trans
        ((List.Perm.of_eq hedges).trans (List.perm_insertionSort _ _))
      exact (List.perm_append_left_iff _).mp ((List.perm_append_right_iff _).mp
        ((List.perm_append_right_iff _).mp hsorted))
    obtain ⟨edge, hedge, hid, hfrom⟩ := transition_edge htransition hkind hpre hpath hlookup
      (byKey_eq hkeys hpermA) hlastA haId
    obtain ⟨other, hother, hresolve⟩ := mem_transitionEdges.mp (hperm.mem_iff.mp hedge)
    obtain ⟨link, hlink, found, hfound, rfl⟩ := mem_resolve.mp hresolve
    obtain ⟨hotherKind, otherId, hotherPre, preKey, htoKey, rfl⟩ := mem_transitionLinks.mp hlink
    -- The edge is the one of the same transition, which here starts in the other state.
    have hpreKey : preKey = a.key := hfrom
    subst hpreKey
    have hsame : other = transition :=
      hkeys.eq (hpermB.mem_iff.mpr hother) htransition (List.append_cancel_left hid)
    subst hsame
    cases hpre.symm.trans hotherPre
    obtain ⟨before, rfl⟩ := List.getLast?_eq_some_iff.mp hlastB
    rw [factIdToKey_eq, List.filter_append, List.filter_cons_of_pos (by simpa using hbId)] at htoKey
    have hkey : b.key = a.key := by simpa using htoKey
    exact hkeys.eq ha hb hkey.symm
  · intro honce facts h
    rw [rebuild_perm hkeys haccepted h, transitionEdges_perm hkeys h honce]
    rfl

end Zest.Discovery

import Zest.DepthFirstSearch
import Zest.ExperimentIdentity

/-! # Impact chains

A chain of impacts is a graph whose edges join its nodes and that has no cycle.
The check for a cycle walks over sets, so it has to be right in whatever order
they are iterated; the depth of its recursion is at most the number of nodes.
-/
namespace Zest.Impact

open ResearchSelection (Name requireText requireText_eq_ok)
open DepthFirstSearch

inductive ImpactKind where
  | dataRead
  | dataWrite
  | authBypass
  | stateCorruption
  | accountTakeoverPath
  | externalCallback
  deriving DecidableEq, Repr

inductive ImpactRelation where
  | enables
  | escalates
  | confirms
  deriving DecidableEq, Repr

structure ImpactScopeRef where
  researchRunId : Name
  programId : Name
  targetReference : Name

/-- `ImpactNode`, less its provenance. -/
structure ImpactNode where
  nodeId : Name
  proofRefs : List Name
  impactKind : ImpactKind
  claimText : Name
  scopeRef : ImpactScopeRef
  proven : proofRefs ≠ []

structure ImpactEdge where
  fromNodeId : Name
  toNodeId : Name
  relation : ImpactRelation
  proofRefs : List Name
  proven : proofRefs ≠ []

/-- `node_ids`. -/
def nodeIds (nodes : List ImpactNode) : Finset Name := (nodes.map (·.nodeId)).toFinset

/-- `adjacency`. -/
def adjacency (edges : List ImpactEdge) (id : Name) : Finset Name :=
  ((edges.filter (·.fromNodeId = id)).map (·.toNodeId)).toFinset

/-- An edge leads from the one node to the other. -/
def Joined (edges : List ImpactEdge) (id next : Name) : Prop :=
  ∃ edge ∈ edges, edge.fromNodeId = id ∧ edge.toNodeId = next

def Acyclic (edges : List ImpactEdge) : Prop :=
  ∀ id, ¬ Relation.TransGen (Joined edges) id id

/-- Every edge joins two of the nodes. -/
def Listed (nodes : List ImpactNode) (edges : List ImpactEdge) : Prop :=
  ∀ edge ∈ edges, edge.fromNodeId ∈ nodeIds nodes ∧ edge.toNodeId ∈ nodeIds nodes

/-- The order in which Python happens to iterate over each of the sets. -/
structure IterationOrder (ids : Finset Name) (edges : List ImpactEdge) where
  order : List Name
  neighbours : Name → List Name
  order_nodup : order.Nodup
  mem_order : ∀ id, id ∈ order ↔ id ∈ ids
  neighbours_nodup : ∀ id, (neighbours id).Nodup
  mem_neighbours : ∀ id next, next ∈ neighbours id ↔ next ∈ adjacency edges id

/-- The order in which the sets are listed. -/
def IterationOrder.listed (nodes : List ImpactNode) (edges : List ImpactEdge) :
    IterationOrder (nodeIds nodes) edges where
  order := (nodes.map (·.nodeId)).dedup
  neighbours id := ((edges.filter (·.fromNodeId = id)).map (·.toNodeId)).dedup
  order_nodup := List.nodup_dedup _
  mem_order id := by rw [nodeIds, List.mem_dedup, List.mem_toFinset]
  neighbours_nodup _ := List.nodup_dedup _
  mem_neighbours id next := by rw [adjacency, List.mem_dedup, List.mem_toFinset]

/-- `_has_cycle`.  There is no answer when the recursion is deeper than there are nodes. -/
def IterationOrder.hasCycle {ids : Finset Name} {edges : List ImpactEdge}
    (order : IterationOrder ids edges) : Option Bool :=
  match search order.order order.neighbours with
  | .exhausted => none
  | .cycle => some true
  | .done _ => some false

/-- What is wrong with an edge. -/
def edgeError (ids : Finset Name) (edge : ImpactEdge) : Option String :=
  if edge.fromNodeId ∉ ids then some "DANGLING_EDGE_FROM_NODE"
  else if edge.toNodeId ∉ ids then some "DANGLING_EDGE_TO_NODE"
  else if edge.fromNodeId = edge.toNodeId then some "SELF_LOOP_NOT_ALLOWED"
  else none

/-! ## The check for a cycle -/

section Cycles

variable {ids : Finset Name} {nodes : List ImpactNode} {edges : List ImpactEdge}

theorem mem_adjacency {id next : Name} : next ∈ adjacency edges id ↔ Joined edges id next := by
  simp only [adjacency, Joined, List.mem_toFinset, List.mem_map, List.mem_filter,
    decide_eq_true_eq]
  exact ⟨fun ⟨edge, ⟨hedge, hfrom⟩, hto⟩ => ⟨edge, hedge, hfrom, hto⟩,
    fun ⟨edge, hedge, hfrom, hto⟩ => ⟨edge, ⟨hedge, hfrom⟩, hto⟩⟩

theorem IterationOrder.edge_eq (order : IterationOrder ids edges) :
    Edge order.neighbours = Joined edges := by
  funext id next
  exact propext ((order.mem_neighbours id next).trans mem_adjacency)

theorem IterationOrder.joins (order : IterationOrder (nodeIds nodes) edges)
    (hlisted : Listed nodes edges) (a b : Name) (hedge : Edge order.neighbours a b) :
    a ∈ order.order ∧ b ∈ order.order := by
  rw [order.edge_eq] at hedge
  obtain ⟨edge, hmem, rfl, rfl⟩ := hedge
  rw [order.mem_order, order.mem_order]
  exact hlisted edge hmem

theorem IterationOrder.not_cyclic_iff (order : IterationOrder ids edges) :
    ¬ Cyclic order.neighbours ↔ Acyclic edges := by
  rw [Cyclic, order.edge_eq, Acyclic, not_exists]

/-- **A cycle is reported when there is one**, in whatever order the sets are iterated. -/
theorem IterationOrder.hasCycle_eq (order : IterationOrder (nodeIds nodes) edges)
    (hlisted : Listed nodes edges) :
    order.hasCycle = some true ∧ ¬ Acyclic edges ∨ order.hasCycle = some false ∧ Acyclic edges := by
  rw [IterationOrder.hasCycle]
  rcases search_spec (order.joins hlisted) with ⟨houtcome, hcyclic⟩ | ⟨marks, houtcome, hnot⟩
  · rw [houtcome]
    exact .inl ⟨rfl, fun h => order.not_cyclic_iff.mpr h hcyclic⟩
  · rw [houtcome]
    exact .inr ⟨rfl, order.not_cyclic_iff.mp hnot⟩

theorem IterationOrder.hasCycle_eq_true (order : IterationOrder (nodeIds nodes) edges)
    (hlisted : Listed nodes edges) : order.hasCycle = some true ↔ ¬ Acyclic edges := by
  rcases order.hasCycle_eq hlisted with ⟨htrue, hcyclic⟩ | ⟨hfalse, hacyclic⟩
  · exact iff_of_true htrue hcyclic
  · exact iff_of_false (by simp [hfalse]) (not_not.mpr hacyclic)

theorem IterationOrder.hasCycle_eq_false (order : IterationOrder (nodeIds nodes) edges)
    (hlisted : Listed nodes edges) : order.hasCycle = some false ↔ Acyclic edges := by
  rcases order.hasCycle_eq hlisted with ⟨htrue, hcyclic⟩ | ⟨hfalse, hacyclic⟩
  · exact iff_of_false (by simp [htrue]) hcyclic
  · exact iff_of_true hfalse hacyclic

/-- The nodes have a topological order when there is no cycle. -/
theorem acyclic_iff_topological (order : IterationOrder (nodeIds nodes) edges)
    (hlisted : Listed nodes edges) :
    Acyclic edges ↔ ∃ sorted : List Name, sorted.Nodup ∧
      (∀ id, id ∈ sorted ↔ id ∈ nodeIds nodes) ∧ Topological (Joined edges) sorted := by
  rw [← order.not_cyclic_iff, not_cyclic_iff_topological (order.joins hlisted), order.edge_eq]
  simp only [order.mem_order]

theorem edgeError_eq_none {edge : ImpactEdge} :
    edgeError ids edge = none ↔
      (edge.fromNodeId ∈ ids ∧ edge.toNodeId ∈ ids) ∧ edge.fromNodeId ≠ edge.toNodeId := by
  rw [edgeError]
  by_cases hfrom : edge.fromNodeId ∈ ids
  · by_cases hto : edge.toNodeId ∈ ids
    · by_cases hloop : edge.fromNodeId = edge.toNodeId
      · simp [hto, hloop]
      · simp [hfrom, hto, hloop]
    · simp [hfrom, hto]
  · simp [hfrom]

theorem listed_of_edgeErrors (h : edges.findSome? (edgeError (nodeIds nodes)) = none) :
    Listed nodes edges := fun edge hedge =>
  (edgeError_eq_none.mp (List.findSome?_eq_none_iff.mp h edge hedge)).1

end Cycles

/-! ## Construction -/

/-- `ImpactChain`: what has been constructed has no cycle. -/
structure ImpactChain where
  chainId : Name
  nodes : List ImpactNode
  edges : List ImpactEdge
  nonempty : nodes ≠ []
  listed : Listed nodes edges
  acyclic : Acyclic edges

section Construction

variable (chainId : Text) (nodes : List ImpactNode) (edges : List ImpactEdge)
  (order : IterationOrder (nodeIds nodes) edges)

/-- The chain of the nodes and edges that have passed every check. -/
def ImpactChain.build (chainId : Name) (hnodes : nodes ≠ [])
    (hedges : edges.findSome? (edgeError (nodeIds nodes)) = none) : Except String ImpactChain :=
  match hcycle : order.hasCycle with
  | none => .error "RecursionError"
  | some true => .error "CHAIN_CONTAINS_CYCLE"
  | some false => .ok {
      chainId := chainId
      nodes := nodes
      edges := edges
      nonempty := hnodes
      listed := listed_of_edgeErrors hedges
      acyclic := (order.hasCycle_eq_false (listed_of_edgeErrors hedges)).mp hcycle }

/-- `ImpactChain.__post_init__`. -/
def ImpactChain.make : Except String ImpactChain :=
  (requireText chainId "chain_id").bind fun chainId =>
    if hnodes : nodes = [] then .error "CHAIN_HAS_NO_NODES"
    else
      match hedges : edges.findSome? (edgeError (nodeIds nodes)) with
      | some code => .error code
      | none => ImpactChain.build nodes edges order chainId hnodes hedges

variable {chainId nodes edges order}

theorem edgeErrors_eq_none (hlisted : Listed nodes edges) (hacyclic : Acyclic edges) :
    edges.findSome? (edgeError (nodeIds nodes)) = none := by
  refine List.findSome?_eq_none_iff.mpr fun edge hedge => ?_
  refine edgeError_eq_none.mpr ⟨hlisted edge hedge, fun hloop => ?_⟩
  exact hacyclic edge.fromNodeId (.single ⟨edge, hedge, rfl, hloop.symm⟩)

theorem build_ok {chainId : Name} {hnodes : nodes ≠ []}
    {hedges : edges.findSome? (edgeError (nodeIds nodes)) = none} :
    (∃ chain, ImpactChain.build nodes edges order chainId hnodes hedges = .ok chain) ↔
      Acyclic edges := by
  have hlisted := listed_of_edgeErrors hedges
  unfold ImpactChain.build
  split
  · rename_i hnone
    rcases order.hasCycle_eq hlisted with ⟨h, -⟩ | ⟨h, -⟩ <;> rw [hnone] at h <;> cases h
  · rename_i htrue
    exact iff_of_false (by simp) ((order.hasCycle_eq_true hlisted).mp htrue)
  · rename_i hfalse
    exact iff_of_true ⟨_, rfl⟩ ((order.hasCycle_eq_false hlisted).mp hfalse)

/-- A chain can be constructed of every graph without a cycle, and of no other one. -/
theorem make_ok :
    (∃ chain, ImpactChain.make chainId nodes edges order = .ok chain) ↔
      chainId.strip ≠ [] ∧ nodes ≠ [] ∧ Listed nodes edges ∧ Acyclic edges := by
  rw [ImpactChain.make]
  by_cases hid : chainId.strip = []
  · simp [requireText, hid, Except.bind]
  simp only [requireText, dif_neg hid, Except.bind]
  by_cases hnodes : nodes = []
  · simp [hnodes]
  rw [dif_neg hnodes]
  split
  · rename_i code hcode
    refine iff_of_false (by simp) fun h => ?_
    exact absurd (edgeErrors_eq_none h.2.2.1 h.2.2.2) (by simp [hcode])
  · rename_i hedges
    rw [build_ok]
    exact ⟨fun h => ⟨hid, hnodes, listed_of_edgeErrors hedges, h⟩, fun h => h.2.2.2⟩

end Construction

/-- **Impact chains are the finite graphs without a cycle**: those whose nodes
have a topological order, whatever the order of the sets that are searched. -/
theorem impact_chains_are_dags (chainId : Text) (nodes : List ImpactNode)
    (edges : List ImpactEdge) (order : IterationOrder (nodeIds nodes) edges) :
    ((∃ chain, ImpactChain.make chainId nodes edges order = .ok chain) ↔
      chainId.strip ≠ [] ∧ nodes ≠ [] ∧ Listed nodes edges ∧ Acyclic edges) ∧
    (Listed nodes edges →
      (order.hasCycle = some true ↔ ∃ id, Relation.TransGen (Joined edges) id id) ∧
      (order.hasCycle = some false ↔ ¬ ∃ id, Relation.TransGen (Joined edges) id id) ∧
      (Acyclic edges ↔ ∃ sorted : List Name, sorted.Nodup ∧
        (∀ id, id ∈ sorted ↔ id ∈ nodeIds nodes) ∧ Topological (Joined edges) sorted)) := by
  refine ⟨make_ok, fun hlisted => ⟨?_, ?_, acyclic_iff_topological order hlisted⟩⟩
  · rw [order.hasCycle_eq_true hlisted, Acyclic]
    simp only [not_forall, not_not]
  · rw [order.hasCycle_eq_false hlisted, Acyclic, not_exists]

/-- A node of the chain below. -/
def labNode (id : Name) : ImpactNode where
  nodeId := id
  proofRefs := [id]
  impactKind := .dataRead
  claimText := id
  scopeRef := ⟨id, id, id⟩
  proven := by simp

def labEdges : List ImpactEdge :=
  [{ fromNodeId := ⟨['a'], by decide⟩
     toNodeId := ⟨['b'], by decide⟩
     relation := .enables
     proofRefs := [⟨['a'], by decide⟩]
     proven := by simp }]

theorem impact_chains_are_dags_lab :
    ∃ chain, ImpactChain.make ['i'] [labNode ⟨['a'], by decide⟩, labNode ⟨['b'], by decide⟩]
      labEdges (.listed _ _) = .ok chain := by
  obtain ⟨hmake, hcycles⟩ := impact_chains_are_dags ['i']
    [labNode ⟨['a'], by decide⟩, labNode ⟨['b'], by decide⟩] labEdges (.listed _ _)
  have hlisted : Listed [labNode ⟨['a'], by decide⟩, labNode ⟨['b'], by decide⟩] labEdges := by
    intro edge hedge
    rw [List.mem_singleton.mp hedge]
    decide
  refine hmake.mpr ⟨by decide, by simp, hlisted, (hcycles hlisted).2.2.mpr ?_⟩
  refine ⟨[⟨['a'], by decide⟩, ⟨['b'], by decide⟩], by decide, by simp [nodeIds, labNode], ?_⟩
  rintro _ _ ⟨edge, hedge, rfl, rfl⟩
  rw [List.mem_singleton.mp hedge]
  decide

end Zest.Impact

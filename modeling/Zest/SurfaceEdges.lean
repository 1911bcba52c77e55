import Zest.SurfaceGraph

/-! # What a rebuild has in it

A rebuild that goes through is the graph of a table of nodes and a list of edges
that are functions of the facts: `rebuild_eq_ok`.  In particular an edge of the
first pass is found among the facts with a key up to that of the fact it starts
from, and any other edge among all facts.
-/
namespace Zest.Discovery

/-! ## The dictionary -/

theorem Index.get_assign (index : Index) (entry : Lookup × Text) (x : Lookup) :
    (index.assign entry).get x = if entry.1 = x then some entry.2 else index.get x := by
  unfold Index.get Index.assign
  rw [KeyedList.get_upsert fun _ _ h => h.symm]
  by_cases hx : entry.1 = x
  · rw [if_pos hx, if_pos hx]
    cases KeyedList.get Prod.fst index x <;> rfl
  · rw [if_neg hx, if_neg hx]

/-- The dictionary of facts visited in this order. -/
def indexOf (facts : List LedgerFact) : Index := facts.foldl Index.add []

theorem get_foldl_add (facts : List LedgerFact) (index : Index) (x : Lookup) :
    (facts.foldl Index.add index).get x =
      ((facts.filter fun fact => fact.lookup = some x).getLast?.map LedgerFact.key).or
        (index.get x) := by
  induction facts using List.reverseRecOn with
  | nil => rfl
  | append_singleton facts fact ih =>
    rw [List.foldl_append, List.foldl_cons, List.foldl_nil, List.filter_append]
    show (Index.add _ fact).get x = _
    cases hlookup : fact.lookup with
    | none => simpa [Index.add, hlookup] using ih
    | some lookup =>
      simp only [Index.add, hlookup]
      rw [Index.get_assign]
      by_cases hx : lookup = x
      · simp [hlookup, hx]
      · simpa [hlookup, hx] using ih

/-- **The last fact** under a lookup is what the lookup finds. -/
theorem get_indexOf (facts : List LedgerFact) (x : Lookup) :
    (indexOf facts).get x =
      (facts.filter fun fact => fact.lookup = some x).getLast?.map LedgerFact.key := by
  unfold indexOf
  rw [get_foldl_add]
  show Option.or _ none = _
  rw [Option.or_none]

/-- What is found is a fact that is there. -/
theorem fact_of_get {facts : List LedgerFact} {x : Lookup} {found : Text}
    (h : (indexOf facts).get x = some found) :
    ∃ fact ∈ facts, fact.lookup = some x ∧ fact.key = found := by
  rw [get_indexOf] at h
  obtain ⟨fact, hlast, hkey⟩ := Option.map_eq_some_iff.mp h
  obtain ⟨hmem, hlookup⟩ := List.mem_filter.mp (List.mem_of_getLast? hlast)
  exact ⟨fact, hmem, by simpa using hlookup, hkey⟩

/-- A fact that is there is found, or another one is. -/
theorem get_of_fact {facts : List LedgerFact} {x : Lookup} {fact : LedgerFact}
    (hmem : fact ∈ facts) (hlookup : fact.lookup = some x) :
    ∃ found, (indexOf facts).get x = some found := by
  rw [get_indexOf]
  have hfilter : fact ∈ facts.filter fun fact => fact.lookup = some x :=
    List.mem_filter.mpr ⟨hmem, by simpa using hlookup⟩
  rw [List.getLast?_eq_some_getLast (List.ne_nil_of_mem hfilter)]
  exact ⟨_, rfl⟩

/-! ## The order of the facts -/

/-- No two facts have one key. -/
def DistinctKeys (facts : List LedgerFact) : Prop := (facts.map LedgerFact.key).Nodup

instance : DecidablePred DistinctKeys := fun facts =>
  inferInstanceAs (Decidable (facts.map LedgerFact.key).Nodup)

theorem DistinctKeys.eq {facts : List LedgerFact} (hkeys : DistinctKeys facts)
    {a b : LedgerFact} (ha : a ∈ facts) (hb : b ∈ facts) (h : a.key = b.key) : a = b :=
  List.inj_on_of_nodup_map hkeys ha hb h

theorem DistinctKeys.perm {facts others : List LedgerFact} (hkeys : DistinctKeys facts)
    (h : facts.Perm others) : DistinctKeys others :=
  (h.map LedgerFact.key).nodup_iff.mp hkeys

theorem byKey_perm (facts : List LedgerFact) : (byKey facts).Perm facts :=
  List.perm_insertionSort _ _

theorem mem_byKey {facts : List LedgerFact} {fact : LedgerFact} :
    fact ∈ byKey facts ↔ fact ∈ facts := (byKey_perm facts).mem_iff

/-- In order, each key is below those after it. -/
theorem byKey_sorted {facts : List LedgerFact} (hkeys : DistinctKeys facts) :
    (byKey facts).Pairwise fun a b => a.key < b.key := by
  have hle : (byKey facts).Pairwise fun a b => a.key ≤ b.key :=
    letI : Std.Total fun a b : LedgerFact => a.key ≤ b.key := ⟨fun a b => le_total a.key b.key⟩
    letI : IsTrans LedgerFact fun a b => a.key ≤ b.key := ⟨fun _ _ _ => le_trans⟩
    List.pairwise_insertionSort _ _
  have hne : (byKey facts).Pairwise fun a b => a.key ≠ b.key :=
    List.pairwise_map.mp (hkeys.perm (byKey_perm facts).symm)
  exact hle.imp₂ (fun _ _ hle hne => lt_of_le_of_ne hle hne) hne

/-- **The order is a matter of the facts**, not of the list they come in. -/
theorem byKey_eq {facts others : List LedgerFact} (hkeys : DistinctKeys facts)
    (h : facts.Perm others) : byKey others = byKey facts := by
  refine @List.Perm.eq_of_pairwise _ (fun a b => a.key < b.key) _ _ ?_
    (byKey_sorted (hkeys.perm h)) (byKey_sorted hkeys)
    ((byKey_perm others).trans (h.symm.trans (byKey_perm facts).symm))
  intro a b _ _ hab hba
  exact absurd (hab.trans hba) (lt_irrefl a.key)

/-- The facts with a key up to that of a fact. -/
def upTo (facts : List LedgerFact) (fact : LedgerFact) : List LedgerFact :=
  facts.filter fun other => other.key ≤ fact.key

/-! ## The first pass -/

/-- The scope of a fact whose scope is in order. -/
def LedgerFact.scope (fact : LedgerFact) : ScopeClassification :=
  match fact.scopeClassification with
  | .ok scope => scope
  | .error _ => .unknown

/-- The edges of the first pass, where an index is there already. -/
def edgesAlong (index : Index) : List LedgerFact → List AttackSurfaceEdge
  | [] => []
  | fact :: rest =>
    fact.observedUnder :: resolve (index.add fact) fact fact.links ++
      edgesAlong (index.add fact) rest

theorem NodeTable.ext_nodes {a b : NodeTable} (h : a.nodes = b.nodes) : a = b := by
  cases a
  cases b
  cases h
  rfl

theorem NodeTable.add_append (table : NodeTable) (more rest : List SurfaceNode) :
    (table.add more).add rest = table.add (more ++ rest) :=
  NodeTable.ext_nodes (List.foldl_append).symm

theorem visit_eq_ok {pass next : FactPass} {fact : LedgerFact} :
    pass.visit fact = .ok next ↔ (∃ scope, fact.scopeClassification = .ok scope) ∧
      next = ⟨pass.nodes.add (fact.nodes fact.scope), pass.index.add fact,
        pass.edges ++ fact.observedUnder :: resolve (pass.index.add fact) fact fact.links⟩ := by
  unfold FactPass.visit LedgerFact.scope
  cases hscope : fact.scopeClassification with
  | error message => exact ⟨fun h => (by cases h), fun ⟨⟨_, h⟩, _⟩ => (by cases h)⟩
  | ok scope =>
    constructor
    · intro h
      cases h
      exact ⟨⟨scope, rfl⟩, rfl⟩
    · rintro ⟨-, rfl⟩
      rfl

/-- What the first pass makes of the facts, from what it has. -/
theorem foldlM_visit_eq_ok (facts : List LedgerFact) (pass last : FactPass) :
    facts.foldlM FactPass.visit pass = .ok last ↔
      (∀ fact ∈ facts, ∃ scope, fact.scopeClassification = .ok scope) ∧
      last = ⟨pass.nodes.add (facts.flatMap fun fact => fact.nodes fact.scope),
        facts.foldl Index.add pass.index, pass.edges ++ edgesAlong pass.index facts⟩ := by
  induction facts generalizing pass with
  | nil =>
    show Except.ok pass = Except.ok last ↔ _
    rw [Except.ok.injEq]
    constructor
    · rintro rfl
      refine ⟨fun _ h => (by cases h), ?_⟩
      show pass = ⟨pass.nodes, pass.index, pass.edges ++ []⟩
      rw [List.append_nil]
    · rintro ⟨-, rfl⟩
      show pass = ⟨pass.nodes, pass.index, pass.edges ++ []⟩
      rw [List.append_nil]
  | cons fact rest ih =>
    have hlast : ∀ next : FactPass,
        next = ⟨pass.nodes.add (fact.nodes fact.scope), pass.index.add fact,
          pass.edges ++ fact.observedUnder :: resolve (pass.index.add fact) fact fact.links⟩ →
        (⟨next.nodes.add (rest.flatMap fun fact => fact.nodes fact.scope),
          rest.foldl Index.add next.index, next.edges ++ edgesAlong next.index rest⟩ : FactPass) =
        ⟨pass.nodes.add ((fact :: rest).flatMap fun fact => fact.nodes fact.scope),
          (fact :: rest).foldl Index.add pass.index,
          pass.edges ++ edgesAlong pass.index (fact :: rest)⟩ := by
      rintro _ rfl
      rw [NodeTable.add_append, List.append_assoc]
      rfl
    rw [List.foldlM_cons]
    constructor
    · intro h
      obtain ⟨next, hvisit, hrest⟩ := bind_eq_ok h
      obtain ⟨hscope, hnext⟩ := visit_eq_ok.mp hvisit
      obtain ⟨hscopes, hlast'⟩ := (ih next).mp hrest
      exact ⟨List.forall_mem_cons.mpr ⟨hscope, hscopes⟩, hlast'.trans (hlast next hnext)⟩
    · rintro ⟨hscopes, rfl⟩
      obtain ⟨hscope, hscopes⟩ := List.forall_mem_cons.mp hscopes
      rw [visit_eq_ok.mpr ⟨hscope, rfl⟩]
      exact (ih _).mpr ⟨hscopes, (hlast _ rfl).symm⟩

/-- Where the facts are in order, those visited so far are those up to the fact. -/
theorem edgesAlong_eq (before rest : List LedgerFact)
    (hsorted : (before ++ rest).Pairwise fun a b => a.key < b.key) :
    edgesAlong (indexOf before) rest = rest.flatMap fun fact =>
      fact.observedUnder :: resolve (indexOf (upTo (before ++ rest) fact)) fact fact.links := by
  induction rest generalizing before with
  | nil => rfl
  | cons fact rest ih =>
    have hsplit : before ++ fact :: rest = (before ++ [fact]) ++ rest := by simp
    have hadd : (indexOf before).add fact = indexOf (before ++ [fact]) := by
      unfold indexOf
      rw [List.foldl_append]
      rfl
    have hupTo : upTo (before ++ fact :: rest) fact = before ++ [fact] := by
      unfold upTo
      obtain ⟨-, hrest, hbefore⟩ := List.pairwise_append.mp hsorted
      rw [List.filter_append, List.filter_eq_self.mpr, List.filter_cons_of_pos (by simp),
        List.filter_eq_nil_iff.mpr]
      · intro other hother
        simpa using (List.pairwise_cons.mp hrest).1 other hother
      · intro other hother
        simpa using (hbefore other hother fact List.mem_cons_self).le
    rw [List.flatMap_cons, hupTo]
    show _ :: resolve ((indexOf before).add fact) fact fact.links ++ _ = _
    rw [hadd, ih (before ++ [fact]) (hsplit ▸ hsorted), ← hsplit]

/-! ## The whole graph -/

/-- What the rebuild takes, short of an error. -/
structure Accepted (L : UrlCodecs) (input : SurfaceInput) : Prop where
  scopes : ∀ fact ∈ input.facts, ∃ scope, fact.scopeClassification = .ok scope
  hosts : ∀ fact ∈ input.facts, ∃ links, fact.sensorLinks L = .ok links
  workflow : ∀ edge ∈ input.workflowEdges, edge.kind = .transitionsTo

/-- The links of the second pass, of a fact whose URL is in order. -/
def LedgerFact.sensors (L : UrlCodecs) (fact : LedgerFact) : List Link :=
  match fact.sensorLinks L with
  | .ok links => links
  | .error _ => []

/-- The nodes in the order in which they are added. -/
def addedNodes (input : SurfaceInput) : List SurfaceNode :=
  ((byKey input.facts).flatMap fun fact => fact.nodes fact.scope) ++
    (inferencesByKey input.inferences).map LedgerInference.node

/-- The edges of the first two passes. -/
def factEdges (L : UrlCodecs) (facts : List LedgerFact) : List AttackSurfaceEdge :=
  (byKey facts).flatMap (fun fact =>
    fact.observedUnder :: resolve (indexOf (upTo (byKey facts) fact)) fact fact.links) ++
  (byKey facts).flatMap fun fact => resolve (indexOf (byKey facts)) fact (fact.sensors L)

/-- The edges of the inferences. -/
def inferenceEdges (facts : List LedgerFact) (inferences : List LedgerInference) :
    List AttackSurfaceEdge :=
  (inferencesByKey inferences).flatMap fun inference => inference.edges (indexOf (byKey facts))

/-- The edges of the transitions. -/
def transitionEdges (facts : List LedgerFact) : List AttackSurfaceEdge :=
  transitionPass (indexOf (byKey facts)) (factIdToKey facts) (byKey facts)

/-- The edges that the rebuild makes itself. -/
def madeEdges (L : UrlCodecs) (input : SurfaceInput) : List AttackSurfaceEdge :=
  factEdges L input.facts ++ transitionEdges input.facts ++
    inferenceEdges input.facts input.inferences

/-- All edges, unsorted. -/
def allEdges (L : UrlCodecs) (input : SurfaceInput) : List AttackSurfaceEdge :=
  madeEdges L input ++ input.workflowEdges

theorem sensorPass_eq_ok {L : UrlCodecs} {index : Index} {facts : List LedgerFact}
    {edges : List AttackSurfaceEdge} :
    sensorPass L index facts = .ok edges ↔
      (∀ fact ∈ facts, ∃ links, fact.sensorLinks L = .ok links) ∧
      edges = facts.flatMap fun fact => resolve index fact (fact.sensors L) := by
  induction facts generalizing edges with
  | nil =>
    show Except.ok [] = Except.ok edges ↔ _
    rw [Except.ok.injEq, eq_comm]
    exact ⟨fun h => ⟨fun _ h => (by cases h), h⟩, fun h => h.2⟩
  | cons fact rest ih =>
    constructor
    · intro h
      obtain ⟨links, hlinks, h⟩ := bind_eq_ok h
      obtain ⟨later, hlater, h⟩ := bind_eq_ok h
      obtain ⟨hrest, rfl⟩ := ih.mp hlater
      cases h
      refine ⟨List.forall_mem_cons.mpr ⟨⟨links, hlinks⟩, hrest⟩, ?_⟩
      rw [List.flatMap_cons]
      congr 2
      show links = fact.sensors L
      unfold LedgerFact.sensors
      rw [hlinks]
    · rintro ⟨hall, rfl⟩
      obtain ⟨⟨links, hlinks⟩, hrest⟩ := List.forall_mem_cons.mp hall
      have hsensors : fact.sensors L = links := by
        unfold LedgerFact.sensors
        rw [hlinks]
      show (fact.sensorLinks L >>= _) = _
      rw [hlinks, List.flatMap_cons, hsensors]
      show (sensorPass L index rest >>= _) = _
      rw [ih.mpr ⟨hrest, rfl⟩]
      rfl

/-- The table of all nodes. -/
def nodeTable (input : SurfaceInput) : NodeTable := NodeTable.empty.add (addedNodes input)

/-- **A rebuild that goes through**, and when it does. -/
theorem rebuild_eq_ok {L : UrlCodecs} {input : SurfaceInput} (hkeys : DistinctKeys input.facts)
    {graph : AttackSurfaceGraph} :
    rebuildAttackSurfaceGraph L input = .ok graph ↔
      Accepted L input ∧ graph = graphOf (nodeTable input) (allEdges L input) := by
  have hedges := edgesAlong_eq [] (byKey input.facts) (byKey_sorted hkeys)
  unfold rebuildAttackSurfaceGraph
  constructor
  · intro h
    obtain ⟨pass, hpass, h⟩ := bind_eq_ok h
    obtain ⟨sensorEdges, hsensor, h⟩ := bind_eq_ok h
    obtain ⟨hscopes, rfl⟩ := (foldlM_visit_eq_ok _ _ _).mp hpass
    obtain ⟨hhosts, rfl⟩ := sensorPass_eq_ok.mp hsensor
    split at h
    next hworkflow =>
      cases h
      refine ⟨⟨fun fact hf => hscopes fact (mem_byKey.mpr hf),
        fun fact hf => hhosts fact (mem_byKey.mpr hf), fun edge he => ?_⟩, ?_⟩
      · simpa using List.all_eq_true.mp hworkflow edge he
      · rw [NodeTable.add_append]
        show graphOf _ ([] ++ edgesAlong (indexOf []) (byKey input.facts) ++ _ ++ _ ++ _ ++ _) = _
        rw [hedges]
        rfl
    · cases h
  · rintro ⟨haccepted, rfl⟩
    have hpass := (foldlM_visit_eq_ok (byKey input.facts) ⟨NodeTable.empty, [], []⟩ _).mpr
      ⟨fun fact hf => haccepted.scopes fact (mem_byKey.mp hf), rfl⟩
    have hsensor := (@sensorPass_eq_ok L (indexOf (byKey input.facts)) _ _).mpr
      ⟨fun fact hf => haccepted.hosts fact (mem_byKey.mp hf), rfl⟩
    show ((byKey input.facts).foldlM FactPass.visit ⟨NodeTable.empty, [], []⟩ >>= _) = _
    rw [hpass]
    show (sensorPass L (indexOf (byKey input.facts)) (byKey input.facts) >>= _) = _
    rw [hsensor]
    show (if _ then Except.ok _ else _) = _
    rw [if_pos (List.all_eq_true.mpr fun edge he => by simpa using haccepted.workflow edge he),
      NodeTable.add_append]
    show Except.ok (graphOf _ ([] ++ edgesAlong (indexOf []) (byKey input.facts) ++ _ ++ _ ++ _ ++ _))
      = _
    rw [hedges]
    rfl

theorem mem_graphOf_edges {table : NodeTable} {edges : List AttackSurfaceEdge}
    {edge : AttackSurfaceEdge} : edge ∈ (graphOf table edges).edges ↔ edge ∈ edges :=
  List.mem_insertionSort _

end Zest.Discovery

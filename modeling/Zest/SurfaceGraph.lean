import Mathlib.Data.Char
import Mathlib.Data.List.Lex
import Mathlib.Data.List.Sort
import Zest.DiscoveryFacts
import Zest.KeyedList
import Zest.UrlSplit

/-! # Rebuilding the attack surface

The graph is no record of its own: it is rebuilt from the facts and inferences
of a run.  Facts are visited in the order of their keys, and an edge that leads
to another fact is found by looking that fact up: by its origin, by its origin
and path, or by its host name.  In the first pass only the facts visited so far
can be found; the passes after it find all of them.
-/
namespace Zest.Discovery

/-- A canonical key as a text. -/
structure KeyText where
  text : Text
  nonblank : text ≠ []
  stripped : text.strip = text
  deriving DecidableEq

/-- A fact of the ledger. -/
structure LedgerFact extends DiscoveryFact KeyText where
  factId : Text

/-- `DiscoveryInferenceKind`. -/
inductive DiscoveryInferenceKind where
  | routeTemplate
  | objectType
  | objectInstance
  | sameAs
  deriving DecidableEq, Repr

/-- `DiscoveryInference`, which is never observed. -/
structure LedgerInference where
  inferenceKind : DiscoveryInferenceKind
  canonicalKey : KeyText
  epistemicStatus : TargetEpistemicStatus
  admitted : epistemicStatus = .inferred ∨ epistemicStatus = .hypothesized
  identityId : Text
  sourceFactIds : List Text
  sourceObservationIds : List Text
  attributes : Attributes

/-- `FACT_NODE_KIND`. -/
def factNodeKind : DiscoveryFactKind → AttackSurfaceNodeKind
  | .origin => .origin
  | .exactPath => .exactPath
  | .httpOperation => .httpOperation
  | .pageState => .pageState
  | .control => .control
  | .form => .form
  | .responseShape => .responseShape
  | .resourceInstanceCandidate => .resourceInstanceCandidate
  | .workflowState => .workflowState
  | .workflowTransition => .workflowTransition
  | .scopeBoundaryCandidate => .scopeBoundaryCandidate
  | .domain => .domain
  | .hostname => .hostname
  | .cert => .cert
  | .service => .service
  | .tech => .tech
  | .jsBundle => .jsBundle
  | .apiSpec => .apiSpec

/-- `INFERENCE_NODE_KIND`. -/
def inferenceNodeKind : DiscoveryInferenceKind → AttackSurfaceNodeKind
  | .routeTemplate => .routeTemplate
  | .objectType => .objectType
  | .objectInstance => .objectInstance
  | .sameAs => .objectInstance

/-- `_source_ref`. -/
def sourceRef : FactSource → Text
  | .observation id => "observation:".toList ++ id
  | .sensorObservation id => "sensor_observation:".toList ++ id
  | .controlEvent id => "control_event:".toList ++ id
  | .sourceFact id => "fact:".toList ++ id
  | .sourceInference id => "inference:".toList ++ id

/-- `tuple(sorted(texts))`. -/
def sortedTexts (texts : List Text) : List Text := texts.insertionSort fun a b => a ≤ b

/-- `tuple(sorted(set(texts)))`. -/
def sortedSet (texts : List Text) : List Text := sortedTexts texts.dedup

/-! ## What the attributes say -/

/-- A value that is a string with text, stripped. -/
def strippedText : Option AttributeValue → Option Text
  | some (.text s) => if s.strip = [] then none else some s.strip
  | _ => none

/-- The strings with text of a value that is a list. -/
def listedTexts : Option AttributeValue → List Text
  | some (.items elements) =>
    elements.filterMap fun
      | .text s => if s.strip = [] then none else some s
      | .other _ => none
  | _ => []

/-- `value or default`, where it is a string. -/
def textOr (value : Option AttributeValue) (default : Option Text) : Option Text :=
  match value with
  | none => default
  | some (.text s) => if s = [] then default else some s
  | some (.items elements) => if elements = [] then default else none
  | some (.other truthy _) => if truthy then none else default

/-- `_hostname_from_attributes`. -/
def hostnameFromAttributes (attributes : Attributes) : Option Text :=
  ["hostname", "name", "host", "subject_hostname"].findSome? fun key =>
    strippedText (attributes.get key.toList)

/-- `ScopeClassification(value)`. -/
def scopeClassificationOf (value : Text) : Option ScopeClassification :=
  [.inScope, .unknown, .outOfScope].find? fun classification : ScopeClassification =>
    classification.value.toList = value

namespace LedgerFact

/-- The text of the canonical key. -/
def key (fact : LedgerFact) : Text := fact.canonicalKey.text

/-- The sources of the fact, as references. -/
def provenance (fact : LedgerFact) : List Text := sortedTexts (fact.sources.map sourceRef)

/-- `_scope_classification_from_fact`. -/
def scopeClassification (fact : LedgerFact) : Except String ScopeClassification :=
  match fact.attributes.get "scope_classification".toList with
  | none => .ok .unknown
  | some (.text value) =>
    match scopeClassificationOf value with
    | some classification => .ok classification
    | none => .error "invalid scope_classification"
  | some _ => .error "invalid scope_classification"

/-- `_node_epistemic_status`. -/
def nodeEpistemicStatus (fact : LedgerFact) : TargetEpistemicStatus :=
  if fact.sources.any fun source => source.columns.sensorObservationId.isSome then
    .untrustedExternal
  else fact.epistemicStatus

/-- `canonical_key.split(":")[-1]`. -/
def lastPart (text : Text) : Text := (text.rpartition ':').2.2

/-- The host name of the attributes, or the last part of the key. -/
def hostname (fact : LedgerFact) : Text :=
  (hostnameFromAttributes fact.attributes).getD (lastPart fact.key)

section Hosts

variable (L : UrlCodecs) (fact : LedgerFact)

/-- `urlsplit(normalized_origin).hostname`; `none` is its `ValueError`. -/
def originHostname (origin : Text) : Option (Option Text) :=
  (urlsplit L origin).map fun parts => parts.hostname L

/-- `_cert_hostnames`. -/
def certHostnames : Option (List Text) :=
  let hostnames :=
    (["san", "subject_alt_names", "hostnames"].flatMap fun key =>
      listedTexts (fact.attributes.get key.toList)) ++
      (hostnameFromAttributes fact.attributes).toList
  match fact.normalizedOrigin with
  | none => some (sortedSet hostnames)
  | some origin =>
    match originHostname L origin with
    | none => none
    | some none => some (sortedSet hostnames)
    | some (some host) =>
      some (sortedSet (if host = [] ∨ host ∈ hostnames then hostnames else hostnames ++ [host]))

/-- `_service_hostname`. -/
def serviceHostname : Option (Option Text) :=
  match ["hostname", "host"].findSome? fun key =>
      strippedText (fact.attributes.get key.toList) with
  | some host => some (some host)
  | none =>
    match fact.normalizedOrigin with
    | none => some none
    | some origin => originHostname L origin

end Hosts

/-- `_tech_origins`. -/
def techOrigins (fact : LedgerFact) : List Text :=
  let origins := ["origins", "origin"].flatMap fun key =>
    let value := fact.attributes.get key.toList
    listedTexts value ++ (strippedText value).toList
  match fact.normalizedOrigin with
  | none => sortedSet origins
  | some origin => sortedSet (if origin ∈ origins then origins else origins ++ [origin])

/-- `_bundle_path` and `_spec_path`. -/
def attributedPath (fact : LedgerFact) : Option (Text × Text) :=
  match textOr (fact.attributes.get "origin".toList) fact.normalizedOrigin,
    textOr (fact.attributes.get "path".toList) fact.normalizedPath with
  | some origin, some path => some (origin, path)
  | _, _ => none

end LedgerFact

/-! ## Nodes -/

/-- A node as the rebuild makes it: its id is its key. -/
structure SurfaceNode extends AttackSurfaceNode where
  idIsKey : nodeId = canonicalKey

namespace SurfaceNode

/-- The key, under which the nodes are kept. -/
def key (node : SurfaceNode) : Text := node.canonicalKey

/-- `merged_scope`: a node out of scope stays so, and an unknown one is decided. -/
def mergedScope (existing node : ScopeClassification) : ScopeClassification :=
  if node = .outOfScope then .outOfScope
  else if existing = .unknown ∧ node = .inScope then .inScope
  else existing

/-- What a node that is there becomes when one with its key is added. -/
def merge (existing node : SurfaceNode) : SurfaceNode where
  nodeId := existing.nodeId
  kind := existing.kind
  canonicalKey := existing.canonicalKey
  epistemicStatus := existing.epistemicStatus
  identityIds := sortedSet (existing.identityIds ++ node.identityIds)
  provenanceRefs := sortedSet (existing.provenanceRefs ++ node.provenanceRefs)
  scopeClassification := mergedScope existing.scopeClassification node.scopeClassification
  attributes := existing.attributes
  idIsKey := existing.idIsKey

end SurfaceNode

theorem SurfaceNode.keepsKey : KeyedList.KeepsKey SurfaceNode.key SurfaceNode.merge :=
  fun _ _ _ => rfl

/-- The dictionary of the nodes. -/
structure NodeTable where
  nodes : List SurfaceNode
  distinct : (nodes.map SurfaceNode.key).Nodup

namespace NodeTable

/-- `{}`. -/
def empty : NodeTable := ⟨[], List.nodup_nil⟩

/-- `_add_node`, for one node after another. -/
def add (table : NodeTable) (more : List SurfaceNode) : NodeTable where
  nodes := more.foldl (KeyedList.upsert SurfaceNode.key SurfaceNode.merge) table.nodes
  distinct := KeyedList.nodup_foldl_upsert SurfaceNode.keepsKey more table.distinct

end NodeTable

/-- The name of the node of an identity. -/
def identityKey (identityId : Text) : Text := "identity:".toList ++ identityId

/-- The name of the node of a session. -/
def sessionKey (sessionContextId : Text) : Text := "session:".toList ++ sessionContextId

namespace LedgerFact

variable (fact : LedgerFact)

/-- The node of the fact. -/
def node (scope : ScopeClassification) : SurfaceNode where
  nodeId := fact.key
  kind := factNodeKind fact.factKind
  canonicalKey := fact.key
  epistemicStatus := fact.nodeEpistemicStatus
  identityIds := [fact.identityId]
  provenanceRefs := fact.provenance
  scopeClassification := scope
  attributes := fact.attributes
  idIsKey := rfl

/-- The node of an identity or a session that the fact was learned under. -/
def reference (kind : AttackSurfaceNodeKind) (name : Text) : SurfaceNode where
  nodeId := name
  kind := kind
  canonicalKey := name
  epistemicStatus := .observed
  identityIds := [fact.identityId]
  provenanceRefs := fact.provenance
  scopeClassification := .inScope
  attributes := []
  idIsKey := rfl

/-- The nodes that a fact adds.  Its identity always has text. -/
def nodes (scope : ScopeClassification) : List SurfaceNode :=
  fact.node scope :: fact.reference .identityRef (identityKey fact.identityId) ::
    (fact.sessionContextId.map fun id => fact.reference .sessionRef (sessionKey id)).toList

/-- The edge from a fact to its identity. -/
def observedUnder : AttackSurfaceEdge where
  edgeId := fact.key ++ ":under:".toList ++ fact.identityId
  kind := .observedUnder
  fromNodeId := fact.key
  toNodeId := identityKey fact.identityId
  identityId := some fact.identityId
  provenanceRefs := fact.provenance
  epistemicStatus := fact.epistemicStatus

end LedgerFact

/-! ## Edges that look for a fact -/

/-- What a fact can be found by. -/
inductive Lookup where
  | origin (origin : Text)
  | path (origin path : Text)
  | hostname (hostname : Text)
  deriving DecidableEq, Repr

/-- `origin_nodes`, `path_nodes` and `hostname_nodes` as one dictionary.  The
other dictionaries of the source are never read. -/
abbrev Index := List (Lookup × Text)

namespace Index

/-- `dict[key] = value`. -/
def assign : Index → Lookup × Text → Index := KeyedList.upsert Prod.fst fun _ entry => entry

/-- `dict.get(key)`. -/
def get (index : Index) (lookup : Lookup) : Option Text :=
  (KeyedList.get Prod.fst index lookup).map (·.2)

end Index

/-- An edge between `near` and the fact that a lookup finds, if it does. -/
structure Link where
  lookup : Lookup
  kind : AttackSurfaceEdgeKind
  near : Text
  outward : Bool
  edgeId : Text → Text
  epistemicStatus : TargetEpistemicStatus

/-- The edge of a link, once the other end is found. -/
def Link.edge (link : Link) (fact : LedgerFact) (found : Text) : AttackSurfaceEdge where
  edgeId := link.edgeId found
  kind := link.kind
  fromNodeId := if link.outward then link.near else found
  toNodeId := if link.outward then found else link.near
  identityId := some fact.identityId
  provenanceRefs := fact.provenance
  epistemicStatus := link.epistemicStatus

/-- The edges of the links whose other end is found. -/
def resolve (index : Index) (fact : LedgerFact) (links : List Link) : List AttackSurfaceEdge :=
  links.filterMap fun link => (index.get link.lookup).map (link.edge fact)

namespace LedgerFact

variable (fact : LedgerFact)

/-- What the fact is indexed under. -/
def lookup : Option Lookup :=
  match fact.factKind with
  | .origin => fact.normalizedOrigin.map Lookup.origin
  | .exactPath =>
    match fact.normalizedOrigin, fact.normalizedPath with
    | some origin, some path => some (.path origin path)
    | _, _ => none
  | .hostname => if fact.hostname = [] then none else some (.hostname fact.hostname)
  | _ => none

/-- A link with the found end first in its id. -/
def inward (kind : AttackSurfaceEdgeKind) (middle : String) (lookup : Lookup)
    (status : TargetEpistemicStatus) : Link :=
  ⟨lookup, kind, fact.key, false, fun found => found ++ middle.toList ++ fact.key, status⟩

/-- A link with the fact first in its id. -/
def outward (kind : AttackSurfaceEdgeKind) (middle : String) (lookup : Lookup)
    (status : TargetEpistemicStatus) : Link :=
  ⟨lookup, kind, fact.key, true, fun found => fact.key ++ middle.toList ++ found, status⟩

/-- The links of the first pass. -/
def links : List Link :=
  match fact.factKind with
  | .exactPath =>
    match fact.normalizedOrigin, fact.normalizedPath with
    | some origin, some _ =>
      [fact.inward .contains ":contains:" (.origin origin) fact.epistemicStatus]
    | _, _ => []
  | .httpOperation =>
    match fact.normalizedOrigin, fact.normalizedPath with
    | some origin, some path =>
      [fact.inward .observedRequestTo ":req:" (.path origin path) fact.epistemicStatus]
    | _, _ => []
  | .scopeBoundaryCandidate =>
    match fact.normalizedOrigin with
    | some origin => [fact.outward .boundaryOf ":boundary:" (.origin origin) .derived]
    | none => []
  | .resourceInstanceCandidate =>
    -- Out to the path, but with the path first in its id.
    let lookup := .path (fact.normalizedOrigin.getD []) (fact.normalizedPath.getD [])
    [⟨lookup, .instanceOf, fact.key, true,
      fun found => found ++ ":instance:".toList ++ fact.key, fact.epistemicStatus⟩]
  | _ => []

/-- The links of the second pass; an error is the `ValueError` of `urlsplit`. -/
def sensorLinks (L : UrlCodecs) : Except String (List Link) :=
  match fact.factKind with
  | .hostname =>
    .ok (if fact.hostname = [] then []
      else [fact.outward .resolvesTo ":resolves:" (.origin (fact.normalizedOrigin.getD []))
        .untrustedExternal])
  | .cert =>
    match fact.certHostnames L with
    | none => .error "Invalid URL"
    | some hostnames =>
      .ok (hostnames.map fun host =>
        fact.inward .securedBy ":securedby:" (.hostname host) .untrustedExternal)
  | .tech =>
    .ok (fact.techOrigins.map fun origin =>
      fact.inward .runs ":runs:" (.origin origin) .untrustedExternal)
  | .jsBundle | .apiSpec =>
    .ok (match fact.attributedPath with
      | none => []
      | some (origin, path) =>
        [fact.inward .references ":references:" (.path origin path) .untrustedExternal])
  | .service =>
    match fact.serviceHostname L with
    | none => .error "Invalid URL"
    | some none => .ok []
    | some (some host) =>
      .ok (if host = [] then []
        else [fact.outward .hostedOn ":hostedon:" (.hostname host) .untrustedExternal])
  | _ => .ok []

/-- The link of a transition, from the state that it says it starts in. -/
def transitionLinks (factIdToKey : Text → Option Text) : List Link :=
  match fact.factKind with
  | .workflowTransition =>
    match fact.attributes.get "pre_state_fact_id".toList with
    | some (.text preId) =>
      match factIdToKey preId with
      | none => []
      | some preKey =>
        [⟨.path (fact.normalizedOrigin.getD []) (fact.normalizedPath.getD []), .transitionsTo,
          preKey, true, fun _ => preKey ++ ":transitions:".toList ++ fact.key,
          fact.epistemicStatus⟩]
    | _ => []
  | _ => []

end LedgerFact

/-! ## The passes -/

/-- The fact is put under what it is found by. -/
def Index.add (index : Index) (fact : LedgerFact) : Index :=
  match fact.lookup with
  | some lookup => index.assign (lookup, fact.key)
  | none => index

/-- `sorted(facts, key=lambda item: item.canonical_key)`. -/
def byKey (facts : List LedgerFact) : List LedgerFact :=
  facts.insertionSort fun a b => a.key ≤ b.key

/-- What the first pass has made so far. -/
structure FactPass where
  nodes : NodeTable
  index : Index
  edges : List AttackSurfaceEdge

/-- One fact of the first pass. -/
def FactPass.visit (pass : FactPass) (fact : LedgerFact) : Except String FactPass := do
  let scope ← fact.scopeClassification
  let index := pass.index.add fact
  .ok {
    nodes := pass.nodes.add (fact.nodes scope)
    index := index
    edges := pass.edges ++ fact.observedUnder :: resolve index fact fact.links }

/-- The first pass. -/
def factPass (facts : List LedgerFact) : Except String FactPass :=
  facts.foldlM FactPass.visit ⟨NodeTable.empty, [], []⟩

/-- The second pass. -/
def sensorPass (L : UrlCodecs) (index : Index) :
    List LedgerFact → Except String (List AttackSurfaceEdge)
  | [] => .ok []
  | fact :: rest => do
    let links ← fact.sensorLinks L
    let later ← sensorPass L index rest
    .ok (resolve index fact links ++ later)

/-- `fact_id_to_key`. -/
def factIdToKey (facts : List LedgerFact) (factId : Text) : Option Text :=
  (KeyedList.get Prod.fst
    (KeyedList.collect Prod.fst (fun _ entry => entry) (facts.map fun fact => (fact.factId, fact.key)))
    factId).map (·.2)

/-- The pass over the transitions. -/
def transitionPass (index : Index) (toKey : Text → Option Text) (facts : List LedgerFact) :
    List AttackSurfaceEdge :=
  facts.flatMap fun fact => resolve index fact (fact.transitionLinks toKey)

namespace LedgerInference

variable (inference : LedgerInference)

/-- The text of the canonical key. -/
def key : Text := inference.canonicalKey.text

/-- What the inference was drawn from. -/
def provenance : List Text :=
  sortedTexts (inference.sourceFactIds ++ inference.sourceObservationIds)

/-- The node of the inference. -/
def node : SurfaceNode where
  nodeId := inference.key
  kind := inferenceNodeKind inference.inferenceKind
  canonicalKey := inference.key
  epistemicStatus := inference.epistemicStatus
  identityIds := [inference.identityId]
  provenanceRefs := inference.provenance
  scopeClassification := .inScope
  attributes := inference.attributes
  idIsKey := rfl

/-- The strings of `exact_paths`; no path equals an element that is none. -/
def exactPaths : List Text :=
  match inference.attributes.get "exact_paths".toList with
  | some (.items elements) =>
    elements.filterMap fun
      | .text path => some path
      | .other _ => none
  | _ => []

/-- An edge of the inference. -/
def edge (edgeId : Text) (kind : AttackSurfaceEdgeKind) (fromNodeId : Text) : AttackSurfaceEdge :=
  ⟨edgeId, kind, fromNodeId, inference.key, some inference.identityId, inference.provenance,
    inference.epistemicStatus⟩

/-- An entry of `path_nodes` for a path, of whatever origin. -/
def isFor (path : Text) : Lookup × Text → Bool
  | (.path _ exact, _) => exact = path
  | _ => false

/-- The edges of the inference. -/
def edges (index : Index) : List AttackSurfaceEdge :=
  match inference.inferenceKind with
  | .routeTemplate =>
    inference.exactPaths.flatMap fun path =>
      (index.filter (isFor path)).map fun entry =>
        inference.edge (entry.2 ++ ":variant:".toList ++ inference.key) .variantOf entry.2
  | .sameAs => [inference.edge ("same:".toList ++ inference.key) .sameAs inference.key]
  | _ => []

end LedgerInference

/-- `sorted(inferences, key=lambda item: item.canonical_key)`. -/
def inferencesByKey (inferences : List LedgerInference) : List LedgerInference :=
  inferences.insertionSort fun a b => a.key ≤ b.key

/-- `(item.kind.value, item.canonical_key)` of one node is at most that of another. -/
def nodeOrder (a b : AttackSurfaceNode) : Prop :=
  a.kind.value.toList < b.kind.value.toList ∨
    a.kind.value.toList = b.kind.value.toList ∧ a.canonicalKey ≤ b.canonicalKey

instance : DecidableRel nodeOrder := fun _ _ => inferInstanceAs (Decidable (_ ∨ _ ∧ _))

/-- What is handed to the rebuild. -/
structure SurfaceInput where
  facts : List LedgerFact
  inferences : List LedgerInference
  workflowEdges : List AttackSurfaceEdge

/-- The graph of a table of nodes and a list of edges, both sorted. -/
def graphOf (table : NodeTable) (edges : List AttackSurfaceEdge) : AttackSurfaceGraph where
  nodes := (table.nodes.map SurfaceNode.toAttackSurfaceNode).insertionSort nodeOrder
  edges := edges.insertionSort fun a b => a.edgeId ≤ b.edgeId
  distinctIds := by
    have hid : AttackSurfaceNode.nodeId ∘ SurfaceNode.toAttackSurfaceNode = SurfaceNode.key :=
      funext fun node => node.idIsKey
    rw [((List.perm_insertionSort _ _).map _).nodup_iff, List.map_map, hid]
    exact table.distinct
  distinctKeys := by
    rw [((List.perm_insertionSort _ _).map _).nodup_iff, List.map_map]
    exact table.distinct

/-- `rebuild_attack_surface_graph`. -/
def rebuildAttackSurfaceGraph (L : UrlCodecs) (input : SurfaceInput) :
    Except String AttackSurfaceGraph := do
  let facts := byKey input.facts
  let pass ← factPass facts
  let sensorEdges ← sensorPass L pass.index facts
  let transitions := transitionPass pass.index (factIdToKey input.facts) facts
  let inferences := inferencesByKey input.inferences
  if input.workflowEdges.all fun edge => edge.kind = .transitionsTo then
    .ok (graphOf (pass.nodes.add (inferences.map LedgerInference.node))
      (pass.edges ++ sensorEdges ++ transitions ++
        (inferences.flatMap fun inference => inference.edges pass.index) ++ input.workflowEdges))
  else .error "workflow_edges may only supply TRANSITIONS_TO"

end Zest.Discovery

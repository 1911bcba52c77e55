import Mathlib.Data.List.Nodup
import Zest.ScopeCompiler

/-! # The attack surface and the hunter families

The attack-surface graph is what Research believes there is to look at: nodes
for what was discovered, edges between them.  A hunter family is one kind of
weakness to look for.  This module has the two as data, and the resolver that
says which families apply to a node.

Values that the source compares by their `value` (kinds of nodes and edges) have
it here as well, since a family of the registry names kinds by these strings.
-/
namespace Zest

/-- `TargetEpistemicStatus`. -/
inductive TargetEpistemicStatus where
  | observed
  | derived
  | inferred
  | hypothesized
  | untrustedExternal
  deriving DecidableEq, Repr

namespace ScopeClassification

/-- `ScopeClassification.value`. -/
def value : ScopeClassification → String
  | inScope => "IN_SCOPE"
  | unknown => "UNKNOWN"
  | outOfScope => "OUT_OF_SCOPE"

end ScopeClassification

/-! ## Attributes -/

/-- An element of a list: a string, or anything else by its `str`. -/
inductive AttributeItem where
  | text (s : Text)
  | other (str : Text)
  deriving DecidableEq, Repr

/-- What a mapping has under a key: a string, a list, or any other value, which
is true or false in a condition and has a `str`. -/
inductive AttributeValue where
  | text (s : Text)
  | items (elements : List AttributeItem)
  | other (truthy : Bool) (str : Text)
  deriving DecidableEq, Repr

/-- A mapping from strings; `None` is the empty one. -/
abbrev Attributes := List (Text × AttributeValue)

namespace AttributeItem

/-- `str(item)`. -/
def str : AttributeItem → Text
  | text s => s
  | other s => s

end AttributeItem

namespace Attributes

/-- `attributes.get(key)`. -/
def get (attributes : Attributes) (key : Text) : Option AttributeValue :=
  (attributes.find? fun entry => entry.1 = key).map (·.2)

end Attributes

/-- `_string_set`. -/
def stringSet : Option AttributeValue → List Text
  | none => []
  | some (.text s) => [s]
  | some (.items elements) =>
    (elements.map AttributeItem.str).filter fun s => decide (s.strip ≠ [])
  | some (.other _ s) => [s]

/-! ## Nodes and edges -/

inductive AttackSurfaceNodeKind where
  | origin
  | exactPath
  | routeTemplate
  | httpOperation
  | pageState
  | control
  | form
  | resourceInstanceCandidate
  | objectInstance
  | objectType
  | identityRef
  | sessionRef
  | workflowState
  | workflowTransition
  | responseShape
  | scopeBoundaryCandidate
  | domain
  | hostname
  | cert
  | service
  | tech
  | jsBundle
  | apiSpec
  deriving DecidableEq, Repr

namespace AttackSurfaceNodeKind

/-- `AttackSurfaceNodeKind.value`. -/
def value : AttackSurfaceNodeKind → String
  | origin => "ORIGIN"
  | exactPath => "EXACT_PATH"
  | routeTemplate => "ROUTE_TEMPLATE"
  | httpOperation => "HTTP_OPERATION"
  | pageState => "PAGE_STATE"
  | control => "CONTROL"
  | form => "FORM"
  | resourceInstanceCandidate => "RESOURCE_INSTANCE_CANDIDATE"
  | objectInstance => "OBJECT_INSTANCE"
  | objectType => "OBJECT_TYPE"
  | identityRef => "IDENTITY_REF"
  | sessionRef => "SESSION_REF"
  | workflowState => "WORKFLOW_STATE"
  | workflowTransition => "WORKFLOW_TRANSITION"
  | responseShape => "RESPONSE_SHAPE"
  | scopeBoundaryCandidate => "SCOPE_BOUNDARY_CANDIDATE"
  | domain => "DOMAIN"
  | hostname => "HOSTNAME"
  | cert => "CERT"
  | service => "SERVICE"
  | tech => "TECH"
  | jsBundle => "JS_BUNDLE"
  | apiSpec => "API_SPEC"

end AttackSurfaceNodeKind

inductive AttackSurfaceEdgeKind where
  | contains
  | navigatesTo
  | submitsTo
  | observedRequestTo
  | returns
  | references
  | instanceOf
  | variantOf
  | observedUnder
  | transitionsTo
  | boundaryOf
  | sameAs
  | resolvesTo
  | hostedOn
  | securedBy
  | runs
  deriving DecidableEq, Repr

namespace AttackSurfaceEdgeKind

/-- `AttackSurfaceEdgeKind.value`. -/
def value : AttackSurfaceEdgeKind → String
  | contains => "CONTAINS"
  | navigatesTo => "NAVIGATES_TO"
  | submitsTo => "SUBMITS_TO"
  | observedRequestTo => "OBSERVED_REQUEST_TO"
  | returns => "RETURNS"
  | references => "REFERENCES"
  | instanceOf => "INSTANCE_OF"
  | variantOf => "VARIANT_OF"
  | observedUnder => "OBSERVED_UNDER"
  | transitionsTo => "TRANSITIONS_TO"
  | boundaryOf => "BOUNDARY_OF"
  | sameAs => "SAME_AS"
  | resolvesTo => "RESOLVES_TO"
  | hostedOn => "HOSTED_ON"
  | securedBy => "SECURED_BY"
  | runs => "RUNS"

end AttackSurfaceEdgeKind

structure AttackSurfaceNode where
  nodeId : Text
  kind : AttackSurfaceNodeKind
  canonicalKey : Text
  epistemicStatus : TargetEpistemicStatus
  identityIds : List Text
  provenanceRefs : List Text
  scopeClassification : ScopeClassification
  attributes : Attributes
  deriving DecidableEq, Repr

structure AttackSurfaceEdge where
  edgeId : Text
  kind : AttackSurfaceEdgeKind
  fromNodeId : Text
  toNodeId : Text
  identityId : Option Text
  provenanceRefs : List Text
  epistemicStatus : TargetEpistemicStatus
  deriving DecidableEq, Repr

/-- The graph; a rebuild keeps its nodes in a dictionary, under the key that is
also their id. -/
structure AttackSurfaceGraph where
  nodes : List AttackSurfaceNode
  edges : List AttackSurfaceEdge
  distinctIds : (nodes.map AttackSurfaceNode.nodeId).Nodup
  distinctKeys : (nodes.map AttackSurfaceNode.canonicalKey).Nodup

namespace AttackSurfaceGraph

/-- The first node with an id. -/
def node (graph : AttackSurfaceGraph) (nodeId : Text) : Option AttackSurfaceNode :=
  graph.nodes.find? fun item => item.nodeId = nodeId

theorem node_eq_some {graph : AttackSurfaceGraph} {nodeId : Text} {node : AttackSurfaceNode}
    (h : graph.node nodeId = some node) : node ∈ graph.nodes ∧ node.nodeId = nodeId :=
  ⟨List.mem_of_find?_eq_some h, by simpa using List.find?_some h⟩

/-- No other node has the id of a node. -/
theorem eq_of_nodeId {graph : AttackSurfaceGraph} {a b : AttackSurfaceNode} (ha : a ∈ graph.nodes)
    (hb : b ∈ graph.nodes) (h : a.nodeId = b.nodeId) : a = b :=
  List.inj_on_of_nodup_map graph.distinctIds ha hb h

theorem eq_of_canonicalKey {graph : AttackSurfaceGraph} {a b : AttackSurfaceNode}
    (ha : a ∈ graph.nodes) (hb : b ∈ graph.nodes) (h : a.canonicalKey = b.canonicalKey) : a = b :=
  List.inj_on_of_nodup_map graph.distinctKeys ha hb h

end AttackSurfaceGraph

/-! ## The families of the registry -/

/-- `preconditions` of a family: what `families_for_node` looks up in it.  A
requirement on attributes that is no mapping counts as the empty one. -/
structure Preconditions where
  scopeClassification : Option String
  absentEdgeKind : Option String
  requiredEdgeKind : Option String
  requiredAttributeAny : Option (List (Text × Option AttributeValue))
  deriving DecidableEq, Repr

/-- `evidence_requirements` of a family: what the passive check looks up. -/
structure EvidenceRequirements where
  requiredFactKinds : List String
  requiredEdgeKind : Option String
  deriving DecidableEq, Repr

structure HunterFamilyView where
  familyId : Text
  name : String
  targetNodeKinds : List String
  preconditions : Preconditions
  claimTemplate : Text
  evidenceRequirements : EvidenceRequirements
  validationTier : String
  enabled : Bool
  deriving DecidableEq, Repr

namespace AttackSurfaceNode

/-- `_node_has_edge_kind`. -/
def hasEdgeKind (node : AttackSurfaceNode) (graph : AttackSurfaceGraph) (edgeKind : String) : Bool :=
  graph.edges.any fun edge =>
    edge.kind.value = edgeKind && (edge.fromNodeId = node.nodeId || edge.toNodeId = node.nodeId)

/-- `_node_has_required_attribute_any`. -/
def hasRequiredAttributeAny (node : AttackSurfaceNode)
    (required : List (Text × Option AttributeValue)) : Bool :=
  !required.isEmpty && required.all fun (key, allowed) =>
    decide (key.strip ≠ []) &&
      (stringSet (node.attributes.get key)).any fun value => (stringSet allowed).contains value

end AttackSurfaceNode

/-- A family that is enabled, and whose preconditions match the node and the
graph. -/
def HunterFamilyView.matches (family : HunterFamilyView) (node : AttackSurfaceNode)
    (graph : AttackSurfaceGraph) : Bool :=
  family.enabled && family.targetNodeKinds.contains node.kind.value &&
    family.preconditions.scopeClassification.all (· = node.scopeClassification.value) &&
    family.preconditions.absentEdgeKind.all (fun kind => !node.hasEdgeKind graph kind) &&
    family.preconditions.requiredEdgeKind.all (fun kind => node.hasEdgeKind graph kind) &&
    family.preconditions.requiredAttributeAny.all fun required =>
      node.hasRequiredAttributeAny required

/-- `families_for_node`. -/
def familiesForNode (node : AttackSurfaceNode) (graph : AttackSurfaceGraph)
    (registry : List HunterFamilyView) : List HunterFamilyView :=
  registry.filter fun family => family.matches node graph

end Zest

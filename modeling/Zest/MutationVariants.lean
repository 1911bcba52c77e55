import Zest.AttackSurface
import Zest.DocumentSize
import Zest.MutationMatrix

/-! # Variants of an observed request

A mutation family makes variants of the request that a node of the attack surface
stands for: it adds parameters, headers or a body to the origin, the path and the
method of the node.  Variants are named by their family, their rule and a number.
What is said of a variant in an audit record is bounded in size.

The families differ in the arguments that they put over those of the node, and in how
they number them.  A family is here the list of these.
-/
namespace Zest.Mutation

open CanonicalJson (Document)
open MutationMatrix (paddedIndex)
open Reasoning (Required requireText)

/-- `AttackSurfaceNode`, as far as it is mutated; no attributes are the empty mapping. -/
structure MutationNode where
  nodeId : Text
  kind : AttackSurfaceNodeKind
  canonicalKey : Text
  scopeClassification : ScopeClassification
  attributes : Dict

/-- `AttackSurfaceGraph`, as far as a variant tells of it. -/
structure MutationGraph where
  researchRunId : Text
  strategyVersion : Text

inductive MutationError where
  | input (message : String)
  | unsupportedKind (kind : AttackSurfaceNodeKind)
  | secretKeys (found : List Text)
  deriving DecidableEq

/-! ## Variants -/

def maxAuditArgumentBytes : Nat := 2048

/-- `FORBIDDEN_VARIANT_ARGUMENT_KEYS`. -/
def forbiddenVariantArgumentKeys : List Text :=
  ["token", "secret", "password", "api_key", "private_key", "session", "cookie"].map String.toList

/-- The forbidden keys of the arguments, whose keys are in ASCII. -/
def secretArguments (arguments : Dict) : List Text :=
  forbiddenVariantArgumentKeys.filter fun key =>
    (arguments.map fun entry => entry.1.map Text.asciiLower).contains key

structure MutationVariant where
  variantId : Required
  nodeId : Required
  familyId : Required
  mutationRuleId : Required
  targetReference : Required
  scopeClassification : ScopeClassification
  capabilityId : Required
  action : Required
  arguments : Dict
  provenance : List (Text × Text)
  no_secrets : secretArguments arguments = []

/-- `_require_text`. -/
def requireVariantText (value : Text) (field : String) : Except MutationError Required :=
  (requireText value field).mapError .input

/-- `MutationVariant.__post_init__`. -/
def MutationVariant.make (variantId nodeId familyId mutationRuleId targetReference : Text)
    (scopeClassification : ScopeClassification) (capabilityId action : Text) (arguments : Dict)
    (provenance : List (Text × Text)) : Except MutationError MutationVariant := do
  let variantId ← requireVariantText variantId "variant_id"
  let nodeId ← requireVariantText nodeId "node_id"
  let familyId ← requireVariantText familyId "family_id"
  let mutationRuleId ← requireVariantText mutationRuleId "mutation_rule_id"
  let targetReference ← requireVariantText targetReference "target_reference"
  let capabilityId ← requireVariantText capabilityId "capability_id"
  let action ← requireVariantText action "action"
  if h : secretArguments arguments = [] then
    .ok ⟨variantId, nodeId, familyId, mutationRuleId, targetReference, scopeClassification,
      capabilityId, action, arguments, provenance, h⟩
  else .error (.secretKeys (secretArguments arguments))

/-! ## What a variant tells an audit record -/

section Summary

variable (repr : JsonValue → Text)

/-- A value of the arguments, cut where it is long. -/
def summaryText (value : JsonValue) : Text :=
  if 256 < (value.str repr).length then (value.str repr).take 253 ++ "...".toList
  else value.str repr

/-- The arguments in a summary. -/
def summaryArguments (arguments : Dict) : Document :=
  .object (arguments.map fun entry => (entry.1, .text (summaryText repr entry.2)))

/-- What stands for arguments that are too large. -/
def truncatedArguments : Document :=
  .object [("_truncated".toList, .bool true), ("_reason".toList, .text "audit_size_limit".toList)]

/-- The payload of a summary, with some arguments. -/
def MutationVariant.summaryWith (variant : MutationVariant) (arguments : Document) : Document :=
  .object [("variant_id".toList, .text variant.variantId.val),
    ("node_id".toList, .text variant.nodeId.val),
    ("family_id".toList, .text variant.familyId.val),
    ("mutation_rule_id".toList, .text variant.mutationRuleId.val),
    ("capability_id".toList, .text variant.capabilityId.val),
    ("action".toList, .text variant.action.val),
    ("scope_classification".toList, .text variant.scopeClassification.value.toList),
    ("arguments".toList, arguments),
    ("provenance".toList,
      .object (variant.provenance.map fun entry => (entry.1, .text entry.2)))]

/-- `to_public_summary`.  What is written is in ASCII, so its bytes are its characters. -/
def MutationVariant.toPublicSummary (variant : MutationVariant) : Document :=
  if maxAuditArgumentBytes <
      (variant.summaryWith (summaryArguments repr variant.arguments)).dumps.length then
    variant.summaryWith truncatedArguments
  else variant.summaryWith (summaryArguments repr variant.arguments)

end Summary

/-! ## The request of a node -/

/-- `a or b or default`. -/
def firstOf (values : List JsonValue) (default : JsonValue) : JsonValue :=
  (values.find? JsonValue.truthy).getD default

/-- An attribute that has to be a text. -/
def textAttribute (name : String) : JsonValue → Except MutationError Text
  | .text s => .ok s
  | _ => .error (.input ("node " ++ name ++ " must be a string"))

namespace MutationNode

variable (node : MutationNode)

/-- `_node_origin`. -/
def origin : Except MutationError Text :=
  textAttribute "origin" (firstOf [node.attributes.get "origin".toList,
    node.attributes.get "authorized_origin".toList] (.text []))

/-- `_node_path`. -/
def path : Except MutationError Text :=
  textAttribute "path" (firstOf [node.attributes.get "path".toList] (.text "/".toList))

/-- `_node_method`. -/
def method : Except MutationError Text :=
  textAttribute "method" (firstOf [node.attributes.get "method".toList] (.text "GET".toList))

/-- `_node_query_params`. -/
def queryParams (repr : JsonValue → Text) : List Text :=
  match firstOf [node.attributes.get "query_params".toList, node.attributes.get "query".toList]
    (.array []) with
  | .text s => [s]
  | .array items => items.map (JsonValue.str repr)
  | _ => []

/-- The arguments of the request that a node stands for. -/
def requestOf (origin path method : Text) : Dict :=
  [("authorized_origin".toList, .text origin), ("path".toList, .text path),
    ("method".toList, .text method)]

/-- `_base_arguments`. -/
def baseArguments : Except MutationError Dict := do
  let origin ← node.origin
  let path ← node.path
  let method ← node.method
  .ok (requestOf origin path method)

/-- `_safe_provenance`. -/
def safeProvenance (familyId ruleId : Text) : List (Text × Text) :=
  [("node_id".toList, node.nodeId), ("family_id".toList, familyId),
    ("mutation_rule_id".toList, ruleId), ("node_canonical_key".toList, node.canonicalKey)]

end MutationNode

/-! ## Families -/

/-- One variant of a family: its rule and number, its action, and the arguments that it
puts over those of the node. -/
structure VariantSpec where
  ruleId : Text
  index : Nat
  action : Text
  override : Dict

/-- A family: what it makes of the parameters of a node. -/
structure MutationFamily where
  familyId : Text
  specs : List Text → List VariantSpec

/-- A query of one parameter. -/
def queryOf (param value : Text) : Dict := [("query".toList, .object [(param, .text value)])]

/-- Each value for each parameter. -/
def eachValue (ruleId : String) (values : List String) (params : List Text) : List VariantSpec :=
  params.zipIdx.flatMap fun param => values.zipIdx.map fun value =>
    ⟨ruleId.toList, param.2 * 10 + value.2, "read".toList, queryOf param.1 value.1.toList⟩

/-- Each of some arguments in turn, whatever the parameters are. -/
def eachOverride (ruleId action : String) (overrides : List Dict) : List VariantSpec :=
  overrides.zipIdx.map fun entry => ⟨ruleId.toList, entry.2, action.toList, entry.1⟩

/-- `ParamPollutionFamily`; a dictionary has a key that is written twice only once. -/
def paramPollutionFamily : MutationFamily where
  familyId := "param_pollution".toList
  specs params := params.zipIdx.flatMap fun param =>
    [⟨"duplicate_param".toList, param.2, "read".toList,
        [("query".toList, .object (Dict.update [] [(param.1, .text (param.1 ++ "_value".toList)),
          (param.1, .text (param.1 ++ "_value".toList))]))]⟩,
      ⟨"array_param".toList, param.2, "read".toList,
        queryOf (param.1 ++ "[]".toList) "1".toList⟩]

/-- `TYPE_VARIANTS`. -/
def typeVariants : List String := ["1abc", "true", "1.0", "0", "-0", "null"]

/-- `TypeJugglingFamily`. -/
def typeJugglingFamily : MutationFamily where
  familyId := "type_juggling".toList
  specs := eachValue "type_juggling" typeVariants

/-- `BOUNDARY_VALUES`. -/
def boundaryValues : List String := ["-1", "0", "1", "2147483647", "99999999999999999999"]

/-- `BoundaryValueFamily`. -/
def boundaryValueFamily : MutationFamily where
  familyId := "boundary_value".toList
  specs := eachValue "boundary" boundaryValues

/-- `HEADER_VARIANTS`. -/
def headerVariants : List (String × String) :=
  [("Authorization", "Bearer null"), ("Authorization", "Bearer "),
    ("X-Forwarded-For", "127.0.0.1"), ("X-Original-Url", "/admin")]

/-- One argument that is a dictionary of one text. -/
def single (name : String) (entry : String × String) : Dict :=
  [(name.toList, .object [(entry.1.toList, .text entry.2.toList)])]

/-- `AuthHeaderVariationFamily`. -/
def authHeaderVariationFamily : MutationFamily where
  familyId := "auth_header_variation".toList
  specs _ := eachOverride "auth_header" "read" (headerVariants.map (single "headers"))

/-- `OVERRIDES`. -/
def methodOverrides : List Dict :=
  [single "headers" ("X-HTTP-Method-Override", "DELETE"),
    single "headers" ("X-HTTP-Method-Override", "PUT"), single "query" ("_method", "DELETE"),
    single "query" ("_method", "PUT")]

/-- `MethodOverrideFamily`. -/
def methodOverrideFamily : MutationFamily where
  familyId := "method_override".toList
  specs _ := eachOverride "override" "read" methodOverrides

/-- `CONTENT_TYPES`. -/
def contentTypes : List String :=
  ["application/xml", "text/plain", "application/x-www-form-urlencoded"]

/-- `ContentTypeConfusionFamily`. -/
def contentTypeConfusionFamily : MutationFamily where
  familyId := "content_type_confusion".toList
  specs _ := eachOverride "content_type" "mutate" <| contentTypes.map fun contentType =>
    [("method".toList, .text "POST".toList), ("content_type".toList, .text contentType.toList),
      ("body".toList, .text "<test/>".toList)]

/-- `TRAVERSAL_VALUES`. -/
def traversalValues : List String := ["../", "..%2F", "..%252F", "%2e%2e%2f", "....//"]

/-- `IdOrTraversalCandidateFamily`. -/
def idOrTraversalCandidateFamily : MutationFamily where
  familyId := "id_or_traversal".toList
  specs := eachValue "traversal" traversalValues

/-- `DEFAULT_MUTATION_FAMILIES`. -/
def defaultMutationFamilies : List MutationFamily :=
  [paramPollutionFamily, typeJugglingFamily, boundaryValueFamily, authHeaderVariationFamily,
    methodOverrideFamily, contentTypeConfusionFamily, idOrTraversalCandidateFamily]

/-! ## Generating -/

/-- `SUPPORTED_MUTATION_NODE_KINDS`. -/
def supportedMutationNodeKinds : List AttackSurfaceNodeKind := [.httpOperation, .exactPath]

/-- What a variant is called after its prefix. -/
def variantSuffix (familyId ruleId : Text) (index : Nat) : Text :=
  ':' :: familyId ++ ':' :: ruleId ++ ':' :: paddedIndex index

/-- `_variant_id`. -/
def variantIdOf (idPrefix familyId ruleId : Text) (index : Nat) : Text :=
  idPrefix ++ variantSuffix familyId ruleId index

/-- `{**provenance, **more}`. -/
def mergeProvenance (provenance more : List (Text × Text)) : List (Text × Text) :=
  more.foldl (KeyedList.upsert Prod.fst fun _ new => new) provenance

section Generate

variable (repr : JsonValue → Text) (node : MutationNode) (provenance : List (Text × Text))
  (idPrefix : Text)

/-- The variant of a node that a family specifies. -/
def variantOf (familyId : Text) (spec : VariantSpec) : Except MutationError MutationVariant := do
  let base ← node.baseArguments
  MutationVariant.make (variantIdOf idPrefix familyId spec.ruleId spec.index) node.nodeId familyId
    spec.ruleId node.canonicalKey node.scopeClassification "http.transaction".toList spec.action
    (base.update spec.override)
    (mergeProvenance provenance (node.safeProvenance familyId spec.ruleId))

/-- `generate`, of a family. -/
def MutationFamily.generate (family : MutationFamily) :
    Except MutationError (List MutationVariant) :=
  if node.kind ∉ supportedMutationNodeKinds then .error (.unsupportedKind node.kind)
  else (family.specs (node.queryParams repr)).mapM
    (variantOf node provenance idPrefix family.familyId)

end Generate

/-- The provenance that comes from the graph. -/
def MutationGraph.provenance (graph : MutationGraph) : List (Text × Text) :=
  [("graph_research_run_id".toList, graph.researchRunId),
    ("graph_strategy_version".toList, graph.strategyVersion)]

/-- `mutate_for_node`. -/
def mutateForNode (repr : JsonValue → Text) (families : List MutationFamily)
    (node : MutationNode) (graph : MutationGraph) (idPrefix : Text) :
    Except MutationError (List MutationVariant) :=
  if node.scopeClassification ≠ .inScope then .ok []
  else if node.kind ∉ supportedMutationNodeKinds then .ok []
  else do
    let made ← families.mapM (·.generate repr node graph.provenance idPrefix)
    .ok made.flatten

end Zest.Mutation

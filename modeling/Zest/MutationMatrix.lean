import Zest.Fallible
import Zest.JsonValue
import Zest.ProductOrder
import Zest.ResearchContext

/-! # The matrix of a mutation family

A family names dimensions and controls.  Its matrix has a cell for each of the
first combinations of the values of the dimensions, as many as it is bounded to,
and a control goes to each cell in turn.  A cell is named by its number, so that a
model can select one but not make one.
-/
namespace Zest.MutationMatrix

open CanonicalJson (Document)
open Reasoning (Required canonicalFingerprint)

def mutationMatrixVersion : Text := "mutation.matrix.v1".toList

def minMeaningfulCells : Nat := 30

def maxMatrixCells : Int := 96

/-- `DIMENSION_VALUES`. -/
def dimensionTable : List (Text × List Text) :=
  [("input_vector", ["query", "path", "json_body", "form_body", "header", "cookie_free"]),
    ("encoding", ["raw", "url", "double_url", "unicode_escape", "html_entity", "stacked"]),
    ("parser_delta", ["boolean_delta", "latency_delta", "shape_delta", "status_delta"]),
    ("template_engine_probe", ["math_eval", "delimiter_probe", "context_escape", "engine_marker",
      "blind_timing", "filter_boundary"]),
    ("path_vector", ["path_param", "query_param", "json_field", "multipart_name"]),
    ("normalization", ["dot_segment", "encoded_slash", "double_decode", "mixed_separator"]),
    ("field_family", ["role", "owner", "tenant", "state", "balance", "admin_flag"]),
    ("role", ["anonymous", "owner", "peer", "lower_role"]),
    ("state_change", ["write_attempt", "read_back", "second_session_read"]),
    ("algorithm", ["none", "hs_rs_confusion", "kid_path", "jwk_swap"]),
    ("key_source", ["inline_jwk", "remote_jku", "kid_header", "default_secret"]),
    ("claim", ["sub", "aud", "iss", "role", "tenant"]),
    ("origin_variant", ["exact", "null", "suffix_confusion", "scheme_confusion"]),
    ("credentials", ["omit", "include", "same_origin_cookie"]),
    ("data_sink", ["me_endpoint", "billing_endpoint", "export_endpoint", "admin_probe"]),
    ("operation_kind", ["query", "mutation", "subscription"]),
    ("resolver", ["node", "edge", "admin", "bulk"]),
    ("identity", ["anonymous", "owner", "peer", "admin_candidate"]),
    ("source", ["location", "hash", "post_message", "storage", "referrer"]),
    ("sink", ["inner_html", "script_url", "navigation", "template"]),
    ("execution_token", ["dom_marker", "console", "global_write", "oob_callback"]),
    ("instruction_channel", ["direct_prompt", "retrieved_doc", "tool_result",
      "system_reflection"]),
    ("retrieval_context", ["none", "benign_doc", "hostile_doc", "mixed_doc"]),
    ("tool_boundary", ["no_tool", "read_tool", "write_tool", "exfil_sink"])].map
    fun entry => (entry.1.toList, entry.2.map String.toList)

/-- `DIMENSION_VALUES.get(dimension)`. -/
def dimensionValues (dimension : Text) : Option (List Text) :=
  (KeyedList.get Prod.fst dimensionTable dimension).map (·.2)

/-- `HunterFamilyView`, the fields that a matrix is made of. -/
structure HunterFamilyView where
  familyId : Text
  name : Text
  evidenceRequirements : Dict

structure MutationMatrixCell where
  familyId : Required
  dimensionValues : List (Text × Text)
  control : Text
  cellId : Required
  dimensions_nonempty : dimensionValues ≠ []

structure MutationMatrixPlan where
  familyId : Text
  familyName : Text
  matrixVersion : Text
  dimensions : List Text
  controls : List Text
  cells : List MutationMatrixCell
  matrixHash : Required

/-! ## Building a matrix -/

/-- A list with something in it. -/
abbrev NonemptyTexts := {texts : List Text // texts ≠ []}

/-- `_required_tuple`. -/
def requiredTuple (repr : JsonValue → Text) (requirements : Dict) (key : String) :
    Except String NonemptyTexts :=
  match requirements.get key.toList with
  | .array items =>
    if h : items.map (JsonValue.str repr) ≠ [] then .ok ⟨items.map (JsonValue.str repr), h⟩
    else .error (key ++ " must be a non-empty list")
  | _ => .error (key ++ " must be a non-empty list")

/-- The values of a dimension that is known. -/
def valuesOf (dimension : Text) : Except String (List Text) :=
  match dimensionValues dimension with
  | some values => .ok values
  | none => .error ("unknown matrix dimension " ++ String.ofList dimension)

/-- `MutationMatrixCell.__post_init__`. -/
def makeCell (familyId : Text) (dimensionValues : List (Text × Text)) (control cellId : Text) :
    Except String MutationMatrixCell :=
  if hfamily : familyId.strip ≠ [] then
    if hcell : cellId.strip ≠ [] then
      if hdimensions : dimensionValues ≠ [] then
        .ok ⟨⟨familyId, hfamily⟩, dimensionValues, control, ⟨cellId, hcell⟩, hdimensions⟩
      else .error "dimension_values must be a non-empty mapping"
    else .error "cell_id is required"
  else .error "family_id is required"

theorem mod_length_lt (controls : NonemptyTexts) (index : Nat) :
    index % controls.val.length < controls.val.length :=
  Nat.mod_lt _ (List.length_pos_iff.mpr controls.property)

/-- `controls[index % len(controls)]`. -/
def controlAt (controls : NonemptyTexts) (index : Nat) : Text :=
  controls.val.get ⟨index % controls.val.length, mod_length_lt controls index⟩

/-- The number of a cell, in three digits at least. -/
def paddedIndex (index : Nat) : Text := (Nat.toDigits 10 index).leftpad 3 '0'

def cellIdOf (familyId : Text) (index : Nat) : Text :=
  familyId ++ ":cell:".toList ++ paddedIndex index

/-- `dict(zip(dimensions, combo))`. -/
def dictOf (dimensions combo : List Text) : List (Text × Text) :=
  KeyedList.collect Prod.fst (fun _ new => new) (dimensions.zip combo)

/-- The loop over the combinations, from an index and what has been collected. -/
def collectCells (familyId : Text) (dimensions controls : NonemptyTexts) (maxCells : Int) :
    List (List Text) → Nat → List MutationMatrixCell → Except String (List MutationMatrixCell)
  | [], _, cells => .ok cells
  | combo :: rest, index, cells =>
    if maxCells ≤ cells.length then .ok cells
    else
      match makeCell familyId (dictOf dimensions.val combo) (controlAt controls index)
        (cellIdOf familyId index) with
      | .error message => .error message
      | .ok cell => collectCells familyId dimensions controls maxCells rest (index + 1)
        (cells ++ [cell])

/-- A cell in the payload of the digest. -/
def MutationMatrixCell.document (cell : MutationMatrixCell) : Document :=
  .object [("cell_id".toList, .text cell.cellId.val),
    ("dimension_values".toList,
      .object (cell.dimensionValues.map fun entry => (entry.1, .text entry.2))),
    ("control".toList, .text cell.control)]

/-- The payload of `matrix_hash`. -/
def matrixPayload (family : HunterFamilyView) (dimensions controls : List Text)
    (cells : List MutationMatrixCell) : Document :=
  .object [("family_id".toList, .text family.familyId), ("family_name".toList, .text family.name),
    ("matrix_version".toList, .text mutationMatrixVersion),
    ("dimensions".toList, .array (dimensions.map .text)),
    ("controls".toList, .array (controls.map .text)),
    ("cells".toList, .array (cells.map (·.document)))]

section Build

variable (repr : JsonValue → Text) (sha256 : Text → Required)

/-- `build_mutation_matrix`. -/
def buildMutationMatrix (family : HunterFamilyView) (maxCells : Int) :
    Except String MutationMatrixPlan :=
  if maxCells < minMeaningfulCells then
    .error "max_cells must allow at least 30 meaningful cells"
  else do
    let dimensions ← requiredTuple repr family.evidenceRequirements "required_matrix_dimensions"
    let controls ← requiredTuple repr family.evidenceRequirements "required_controls"
    let values ← dimensions.val.mapM valuesOf
    let cells ← collectCells family.familyId dimensions controls maxCells
      (ProductOrder.product values) 0 []
    if cells.length < minMeaningfulCells then
      .error "family matrix does not meet the 30-cell minimum"
    else
      .ok {
        familyId := family.familyId
        familyName := family.name
        matrixVersion := mutationMatrixVersion
        dimensions := dimensions.val
        controls := controls.val
        cells := cells
        matrixHash := canonicalFingerprint sha256
          (matrixPayload family dimensions.val controls.val cells) }

end Build

/-! ## The matrices of the catalog -/

/-- `MutationMatrixFamilyCatalogEntry`. -/
structure CatalogEntry where
  familyId : Text
  familyName : Text
  dimensions : List Text
  controls : List Text

def catalogEntry (familyId familyName : String) (dimensions controls : List String) :
    CatalogEntry :=
  ⟨familyId.toList, familyName.toList, dimensions.map String.toList, controls.map String.toList⟩

/-- `MUTATION_MATRIX_FAMILY_CATALOG`, whose names are those of `FAMILY_REQUIRED_DIMENSIONS`. -/
def catalog : List CatalogEntry :=
  [catalogEntry "hf-sqli" "SQL_INJECTION" ["input_vector", "encoding", "parser_delta"]
      ["secure_fixture", "deceptive_fixture", "read_back"],
    catalogEntry "hf-ssti" "SERVER_SIDE_TEMPLATE_INJECTION" ["template_engine_probe", "encoding"]
      ["secure_fixture", "deceptive_fixture"],
    catalogEntry "hf-lfi-rfi" "FILE_INCLUDE_AND_PATH_TRAVERSAL"
      ["path_vector", "encoding", "normalization"]
      ["safe_path_control", "deceptive_status_control"],
    catalogEntry "hf-mass-assignment" "MASS_ASSIGNMENT" ["field_family", "role", "state_change"]
      ["read_back", "role_boundary_control"],
    catalogEntry "hf-jwt-crypto" "JWT_CRYPTO_AND_CLAIM_CONFUSION"
      ["algorithm", "key_source", "claim"] ["valid_token_control", "invalid_token_control"],
    catalogEntry "hf-cors" "CORS_CREDENTIAL_EXFILTRATION_CHAIN"
      ["origin_variant", "credentials", "data_sink"]
      ["non_credentialed_control", "sensitive_endpoint_read_back"],
    catalogEntry "hf-graphql" "GRAPHQL_AUTHORIZATION_AND_INJECTION"
      ["operation_kind", "resolver", "identity"]
      ["introspection_control", "role_boundary_control"],
    catalogEntry "hf-dom-taint" "DOM_TAINT_AND_CLIENT_SIDE_EXECUTION"
      ["source", "sink", "execution_token"] ["dom_marker_control", "detection_rotation"],
    catalogEntry "hf-ai-llm-target" "AI_LLM_PROMPT_INJECTION_AND_TOOL_ABUSE"
      ["instruction_channel", "retrieval_context", "tool_boundary"]
      ["benign_prompt_control", "metamorphic_variant", "tool_denial_control"]]

/-- What looking up a cell may raise. -/
inductive MatrixError where
  | identity (reasonCode : String)
  | input (message : String)
  deriving DecidableEq

/-- `mutation_family_view`, of an entry. -/
def CatalogEntry.view (entry : CatalogEntry) : HunterFamilyView where
  familyId := entry.familyId
  name := entry.familyName
  evidenceRequirements :=
    [("required_matrix_dimensions".toList, .array (entry.dimensions.map .text)),
      ("required_controls".toList, .array (entry.controls.map .text))]

/-- `mutation_family_view`. -/
def mutationFamilyView (familyName : Text) (familyId : Option Text) :
    Except MatrixError HunterFamilyView :=
  match catalog.find? (·.familyName = familyName) with
  | none => .error (.identity "MUTATION_MATRIX_UNKNOWN_FAMILY")
  | some entry =>
    if familyId.any (· ≠ entry.familyId) then
      .error (.identity "MUTATION_MATRIX_FAMILY_MISMATCH")
    else .ok entry.view

section Lookup

variable (repr : JsonValue → Text) (sha256 : Text → Required)

/-- `rebuild_authoritative_mutation_matrix`. -/
def rebuildMutationMatrix (familyName : Text) (familyId : Option Text) :
    Except MatrixError MutationMatrixPlan := do
  let family ← mutationFamilyView familyName familyId
  (buildMutationMatrix repr sha256 family maxMatrixCells).mapError .input

/-- `lookup_authoritative_mutation_cell`. -/
def lookupMutationCell (familyName cellId : Text) (familyId matrixHash : Option Text) :
    Except MatrixError MutationMatrixCell :=
  if cellId.strip = [] then .error (.identity "CELL_ID_REQUIRED")
  else do
    let matrix ← rebuildMutationMatrix repr sha256 familyName familyId
    if matrixHash.any (· ≠ matrix.matrixHash.val) then
      .error (.identity "MUTATION_MATRIX_CONTEXT_MISMATCH")
    else
      match matrix.cells.find? (·.cellId.val = cellId.strip) with
      | none => .error (.identity "MUTATION_MATRIX_UNKNOWN_CELL")
      | some cell =>
        if familyId.any (· ≠ cell.familyId.val) then
          .error (.identity "MUTATION_MATRIX_FAMILY_MISMATCH")
        else .ok cell

end Lookup

end Zest.MutationMatrix

import Mathlib.Data.List.Dedup
import Mathlib.Data.List.Perm.Basic
import Zest.SurfaceWiring

/-! # The graph under other keys

Canonical keys are names: which key a fact has should make no difference to the
graph but in the names.  It makes none if there is nothing for the order of the
keys to decide: no fact that the first pass could join to another, no two facts
that a later pass could find in one place, and no host name that is read off a
key.
-/
namespace Zest.Discovery

/-! ## Renaming -/

/-- A name that the rebuild makes up itself. -/
def MadeUp (name : Text) : Prop := ∃ id, name = identityKey id ∨ name = sessionKey id

/-- Other keys for all keys, and none that is the name of an identity or a session. -/
structure Renaming where
  toFun : KeyText → KeyText
  injective : Function.Injective toFun
  proper : ∀ key, ¬ MadeUp (toFun key).text

/-- The fact under its other key. -/
def LedgerFact.rekey (rename : Renaming) (fact : LedgerFact) : LedgerFact where
  toFactFields := { fact.toFactFields with canonicalKey := rename.toFun fact.canonicalKey }
  valid := fact.valid
  stripped := congrArg (fun fields : FactFields KeyText =>
    { fields with canonicalKey := rename.toFun fact.canonicalKey }) fact.stripped
  sources := fact.sources
  sources_nonempty := fact.sources_nonempty
  factId := fact.factId

/-- The inference under its other key. -/
def LedgerInference.rekey (rename : Renaming) (inference : LedgerInference) : LedgerInference :=
  { inference with canonicalKey := rename.toFun inference.canonicalKey }

namespace SurfaceInput

variable (input : SurfaceInput) (rename : Renaming)

/-- The keys of the facts and inferences. -/
def keys : List KeyText :=
  input.facts.map (fun fact => fact.canonicalKey) ++
    input.inferences.map fun inference => inference.canonicalKey

/-- The other name of a node: a key becomes another one, and any other name stays. -/
def renamed (name : Text) : Text :=
  match input.keys.find? fun key => key.text = name with
  | some key => (rename.toFun key).text
  | none => name

/-- The same facts and inferences under other keys. -/
def rekey : SurfaceInput where
  facts := input.facts.map (LedgerFact.rekey rename)
  inferences := input.inferences.map (LedgerInference.rekey rename)
  workflowEdges := input.workflowEdges.map fun edge =>
    { edge with
      fromNodeId := input.renamed rename edge.fromNodeId
      toNodeId := input.renamed rename edge.toNodeId }

end SurfaceInput

end Zest.Discovery

namespace Zest

/-- An edge between nodes with other names, without its id, which is put
together from the names. -/
def AttackSurfaceEdge.between (name : Text → Text) (edge : AttackSurfaceEdge) : AttackSurfaceEdge :=
  { edge with
    edgeId := []
    fromNodeId := name edge.fromNodeId
    toNodeId := name edge.toNodeId }

/-- A node with another name. -/
def AttackSurfaceNode.named (name : Text → Text) (node : AttackSurfaceNode) : AttackSurfaceNode :=
  { node with
    nodeId := name node.nodeId
    canonicalKey := name node.canonicalKey }

theorem AttackSurfaceNode.named_eq_self {name : Text → Text} {node : AttackSurfaceNode}
    (hid : name node.nodeId = node.nodeId) (hkey : name node.canonicalKey = node.canonicalKey) :
    node.named name = node := by
  unfold AttackSurfaceNode.named
  rw [hid, hkey]

end Zest

namespace Zest.Discovery

/-- Under other keys the graph is the same up to the names. -/
def RenamingInvariant (L : UrlCodecs) (input : SurfaceInput) (graph : AttackSurfaceGraph) : Prop :=
  ∀ rename : Renaming, ∃ other,
    rebuildAttackSurfaceGraph L (input.rekey rename) = .ok other ∧
    other.nodes.Perm (graph.nodes.map (AttackSurfaceNode.named (input.renamed rename))) ∧
    (other.edges.map (AttackSurfaceEdge.between id)).Perm
      (graph.edges.map (AttackSurfaceEdge.between (input.renamed rename)))

/-! ## Where the keys decide nothing -/

/-- A lookup of one of the later passes. -/
def LookedUp (L : UrlCodecs) (input : SurfaceInput) (x : Lookup) : Prop :=
  (∃ fact ∈ input.facts, ∃ link ∈ fact.sensors L, link.lookup = x) ∨
  (∃ fact ∈ input.facts, ∃ link ∈ fact.transitionLinks (factIdToKey input.facts),
    link.lookup = x) ∨
  ∃ inference ∈ input.inferences, inference.inferenceKind = .routeTemplate ∧
    ∃ path ∈ inference.exactPaths, ∃ origin, x = .path origin path

/-- A text that can be the last part of a key. -/
structure EndsKey (host : Text) : Prop where
  nonempty : host ≠ []
  one : ':' ∉ host
  stripped : ∀ c, host.getLast? = some c → Text.isSpace c = false

/-- Nothing is left for the keys to decide. -/
structure KeysImmaterial (L : UrlCodecs) (input : SurfaceInput) : Prop where
  /-- No fact belongs to another, but for paths that do not say which. -/
  unjoined : ∀ wire : Wire, ∀ parent ∈ input.facts, ∀ child ∈ input.facts,
    wire.Joins parent child → ¬ wire.Ready child
  /-- What a later pass looks up is one fact. -/
  foundOnce : ∀ x, LookedUp L input x → ∀ a ∈ input.facts, ∀ b ∈ input.facts,
    a.lookup = some x → b.lookup = some x → a = b
  /-- Where a host name is read off a key, it is not used. -/
  hostless : ∀ fact ∈ input.facts, fact.factKind = .hostname →
    hostnameFromAttributes fact.attributes = none →
    (∀ origin ∈ input.facts, origin.lookup ≠ some (.origin (fact.normalizedOrigin.getD []))) ∧
    ∀ host, LookedUp L input (.hostname host) → ¬ EndsKey host
  /-- No key is the name of an identity or a session. -/
  apart : ∀ key ∈ input.keys, ∀ fact ∈ input.facts, key.text ≠ identityKey fact.identityId ∧
    ∀ id, fact.sessionContextId = some id → key.text ≠ sessionKey id

/-! ## The keys themselves -/

theorem KeyText.eq_of_text {a b : KeyText} (h : a.text = b.text) : a = b := by
  cases a
  cases b
  cases h
  rfl

section Names

variable {input : SurfaceInput} {rename : Renaming}

theorem renamed_key {key : KeyText} (h : key ∈ input.keys) :
    input.renamed rename key.text = (rename.toFun key).text := by
  unfold SurfaceInput.renamed
  cases hfind : input.keys.find? fun other => other.text = key.text with
  | none => exact absurd (List.find?_eq_none.mp hfind key h) (by simp)
  | some other =>
    rw [KeyText.eq_of_text (show other.text = key.text by simpa using List.find?_some hfind)]

theorem renamed_other {name : Text} (h : ∀ key ∈ input.keys, key.text ≠ name) :
    input.renamed rename name = name := by
  unfold SurfaceInput.renamed
  rw [List.find?_eq_none.mpr fun key hkey => by simpa using h key hkey]

theorem fact_key_mem {fact : LedgerFact} (h : fact ∈ input.facts) :
    fact.canonicalKey ∈ input.keys :=
  List.mem_append_left _ (List.mem_map_of_mem (f := fun fact => fact.canonicalKey) h)

theorem inference_key_mem {inference : LedgerInference} (h : inference ∈ input.inferences) :
    inference.canonicalKey ∈ input.keys :=
  List.mem_append_right _ (List.mem_map_of_mem (f := fun inference => inference.canonicalKey) h)

theorem renamed_fact {fact : LedgerFact} (h : fact ∈ input.facts) :
    input.renamed rename fact.key = (fact.rekey rename).key := renamed_key (fact_key_mem h)

theorem renamed_inference {inference : LedgerInference} (h : inference ∈ input.inferences) :
    input.renamed rename inference.key = (inference.rekey rename).key :=
  renamed_key (inference_key_mem h)

/-- A name of a node is a key, or it was made up. -/
theorem name_cases {name : Text} (h : name ∈ nodeNames input) :
    (∃ key ∈ input.keys, key.text = name) ∨ MadeUp name := by
  rcases List.mem_append.mp h with h | h
  · obtain ⟨fact, hfact, h⟩ := List.mem_flatMap.mp h
    rcases List.mem_cons.mp h with rfl | h
    · exact Or.inl ⟨fact.canonicalKey, fact_key_mem hfact, rfl⟩
    · rcases List.mem_cons.mp h with rfl | h
      · exact Or.inr ⟨_, Or.inl rfl⟩
      · obtain ⟨id, -, rfl⟩ := Option.map_eq_some_iff.mp (Option.mem_toList.mp h)
        exact Or.inr ⟨id, Or.inr rfl⟩
  · obtain ⟨inference, hinference, rfl⟩ := List.mem_map.mp h
    exact Or.inl ⟨inference.canonicalKey, inference_key_mem hinference, rfl⟩

/-- What becomes a key was that key. -/
theorem eq_key_of_renamed {name : Text} {key : KeyText} (hname : name ∈ nodeNames input)
    (h : input.renamed rename name = (rename.toFun key).text) : name = key.text := by
  by_cases hkeys : ∃ other ∈ input.keys, other.text = name
  · obtain ⟨other, hother, rfl⟩ := hkeys
    rw [renamed_key hother] at h
    rw [rename.injective (KeyText.eq_of_text h)]
  · rw [renamed_other fun other hother heq => hkeys ⟨other, hother, heq⟩] at h
    rcases name_cases hname with hkey | hmade
    · exact absurd hkey hkeys
    · exact absurd (h ▸ hmade) (rename.proper key)

theorem renamed_injective {a b : Text} (ha : a ∈ nodeNames input) (hb : b ∈ nodeNames input)
    (h : input.renamed rename a = input.renamed rename b) : a = b := by
  by_cases hkeyB : ∃ key ∈ input.keys, key.text = b
  · obtain ⟨key, hkey, rfl⟩ := hkeyB
    exact eq_key_of_renamed ha (h.trans (renamed_key hkey))
  · by_cases hkeyA : ∃ key ∈ input.keys, key.text = a
    · obtain ⟨key, hkey, rfl⟩ := hkeyA
      exact (eq_key_of_renamed hb (h.symm.trans (renamed_key hkey))).symm
    · rw [renamed_other fun key hkey heq => hkeyA ⟨key, hkey, heq⟩,
        renamed_other fun key hkey heq => hkeyB ⟨key, hkey, heq⟩] at h
      exact h

theorem distinct_rekey (hkeys : DistinctKeys input.facts) :
    DistinctKeys (input.rekey rename).facts := by
  show ((input.facts.map (LedgerFact.rekey rename)).map LedgerFact.key).Nodup
  rw [List.map_map]
  refine List.Nodup.map_on ?_ hkeys.of_map
  intro a ha b hb h
  have hkey : a.canonicalKey = b.canonicalKey := rename.injective (KeyText.eq_of_text h)
  exact hkeys.eq ha hb (congrArg KeyText.text hkey)

end Names

/-! ## What does not depend on the key -/

section Rekeyed

variable {rename : Renaming} {fact : LedgerFact}

theorem rekey_nodes (scope : ScopeClassification) : (fact.rekey rename).nodes scope =
    (fact.rekey rename).node scope :: (fact.nodes scope).tail := rfl

theorem rekey_joins {wire : Wire} {parent child : LedgerFact} :
    wire.Joins (parent.rekey rename) (child.rekey rename) ↔ wire.Joins parent child :=
  ⟨fun h => ⟨h.child_kind, h.parent_kind, h.origin, h.path⟩,
    fun h => ⟨h.child_kind, h.parent_kind, h.origin, h.path⟩⟩

/-- A fact that is not found by a host name is found by the same. -/
theorem rekey_lookup (h : fact.factKind ≠ .hostname) :
    (fact.rekey rename).lookup = fact.lookup := by
  have hkept : (fact.rekey rename).factKind = fact.factKind := rfl
  unfold LedgerFact.lookup
  rw [hkept]
  cases hkind : fact.factKind <;> first | rfl | exact absurd hkind h

/-- A host name of the attributes does not depend on the key. -/
theorem rekey_hostname {host : Text} (h : hostnameFromAttributes fact.attributes = some host) :
    (fact.rekey rename).hostname = fact.hostname := by
  show (hostnameFromAttributes fact.attributes).getD _ = _
  unfold LedgerFact.hostname
  rw [h]
  rfl

/-- Nor is one that has its host name in its attributes. -/
theorem rekey_lookup_declared (hkind : fact.factKind = .hostname) {host : Text}
    (h : hostnameFromAttributes fact.attributes = some host) :
    (fact.rekey rename).lookup = fact.lookup := by
  unfold LedgerFact.lookup
  rw [show (fact.rekey rename).factKind = .hostname from hkind, hkind]
  dsimp only
  rw [rekey_hostname h]

end Rekeyed

/-! ## The last part of a key -/

open LedgerFact (lastPart)

theorem lastPart_of_not_mem {text : Text} (h : ':' ∉ text) : lastPart text = text := by
  unfold lastPart Text.rpartition
  rw [Text.partition_of_not_mem fun hmem => h (List.mem_reverse.mp hmem)]
  rfl

theorem lastPart_append {front host : Text} (h : ':' ∉ host) :
    lastPart (front ++ ':' :: host) = host := by
  unfold lastPart Text.rpartition
  rw [List.reverse_append, List.reverse_cons, List.append_assoc, List.singleton_append,
    Text.partition_of_mem fun hmem => h (List.mem_reverse.mp hmem)]
  exact List.reverse_reverse host

/-- What a key can end in. -/
theorem endsKey_lastPart (key : KeyText) (h : lastPart key.text ≠ []) :
    EndsKey (lastPart key.text) := by
  rcases Text.partition_cases ':' key.text.reverse with ⟨hno, -⟩ | ⟨before, after, hno, hsplit, -⟩
  · have hmem : ':' ∉ key.text := fun hmem => hno (List.mem_reverse.mpr hmem)
    rw [lastPart_of_not_mem hmem]
    exact ⟨key.nonblank, hmem, fun _ => Text.last_of_stripped key.stripped⟩
  · have htext : key.text = after.reverse ++ ':' :: before.reverse := by
      rw [← List.reverse_reverse key.text, hsplit]
      simp
    have hlast : lastPart key.text = before.reverse := by
      rw [htext, lastPart_append fun hmem => hno (List.mem_reverse.mp hmem)]
    rw [hlast] at h ⊢
    refine ⟨h, fun hmem => hno (List.mem_reverse.mp hmem), fun c hc => ?_⟩
    refine Text.last_of_stripped key.stripped ?_
    rw [htext, List.getLast?_append, List.getLast?_cons, hc]
    rfl

/-- What a fact is found by when its host name is read off its key. -/
theorem endsKey_of_lookup {fact : LedgerFact} {x : Lookup} (hkind : fact.factKind = .hostname)
    (hnone : hostnameFromAttributes fact.attributes = none) (h : fact.lookup = some x) :
    ∃ host, x = .hostname host ∧ EndsKey host := by
  unfold LedgerFact.lookup at h
  rw [hkind] at h
  dsimp only at h
  have hhost : fact.hostname = lastPart fact.key := by
    unfold LedgerFact.hostname
    rw [hnone]
    rfl
  split at h
  · cases h
  next hne =>
    cases h
    rw [hhost] at hne ⊢
    exact ⟨_, rfl, endsKey_lastPart _ hne⟩

/-! ## Nothing changes but the names -/

section Immaterial

variable {L : UrlCodecs} {input : SurfaceInput} {rename : Renaming}

/-- What is looked up is there under any keys, or under none. -/
theorem rekey_lookup_iff (himm : KeysImmaterial L input) {x : Lookup} (hx : LookedUp L input x)
    {fact : LedgerFact} (hfact : fact ∈ input.facts) :
    (fact.rekey rename).lookup = some x ↔ fact.lookup = some x := by
  by_cases hkind : fact.factKind = .hostname
  · cases hhost : hostnameFromAttributes fact.attributes with
    | some host => rw [rekey_lookup_declared hkind hhost]
    | none =>
      have hnot : ∀ host, x = .hostname host → ¬ EndsKey host := by
        rintro host rfl
        exact (himm.hostless fact hfact hkind hhost).2 host hx
      constructor
      · intro h
        obtain ⟨host, heq, hends⟩ := @endsKey_of_lookup (fact.rekey rename) _ hkind hhost h
        exact absurd hends (hnot host heq)
      · intro h
        obtain ⟨host, heq, hends⟩ := endsKey_of_lookup hkind hhost h
        exact absurd hends (hnot host heq)
  · rw [rekey_lookup hkind]

/-- What is found where one fact can be. -/
theorem get_of_unique {facts : List LedgerFact} {x : Lookup} {fact : LedgerFact}
    (hfact : fact ∈ facts) (hlookup : fact.lookup = some x)
    (hone : ∀ other ∈ facts, other.lookup = some x → other.key = fact.key) :
    (indexOf facts).get x = some fact.key := by
  obtain ⟨found, hfound⟩ := get_of_fact hfact hlookup
  obtain ⟨other, hother, hotherLookup, rfl⟩ := fact_of_get hfound
  rw [hfound, hone other hother hotherLookup]

theorem get_eq_none {facts : List LedgerFact} {x : Lookup}
    (h : ∀ fact ∈ facts, fact.lookup ≠ some x) : (indexOf facts).get x = none := by
  rw [Option.eq_none_iff_forall_ne_some]
  intro found hfound
  obtain ⟨fact, hfact, hlookup, -⟩ := fact_of_get hfound
  exact h fact hfact hlookup

/-- **A lookup finds the same fact** under other keys. -/
theorem get_rekey (himm : KeysImmaterial L input) {x : Lookup} (hx : LookedUp L input x) :
    (indexOf (byKey (input.rekey rename).facts)).get x =
      ((indexOf (byKey input.facts)).get x).map (input.renamed rename) := by
  by_cases hfound : ∃ fact ∈ input.facts, fact.lookup = some x
  · obtain ⟨fact, hfact, hlookup⟩ := hfound
    have hget : (indexOf (byKey input.facts)).get x = some fact.key := by
      refine get_of_unique (mem_byKey.mpr hfact) hlookup fun other hother hotherLookup => ?_
      rw [himm.foundOnce x hx other (mem_byKey.mp hother) fact hfact hotherLookup hlookup]
    have hgetRekeyed : (indexOf (byKey (input.rekey rename).facts)).get x =
        some (fact.rekey rename).key := by
      refine get_of_unique (mem_byKey.mpr (List.mem_map_of_mem hfact))
        ((rekey_lookup_iff himm hx hfact).mpr hlookup) fun other hother hotherLookup => ?_
      obtain ⟨source, hsource, rfl⟩ := List.mem_map.mp (mem_byKey.mp hother)
      rw [himm.foundOnce x hx source hsource fact hfact
        ((rekey_lookup_iff himm hx hsource).mp hotherLookup) hlookup]
    rw [hget, hgetRekeyed, Option.map_some, renamed_fact hfact]
  · rw [get_eq_none, get_eq_none]
    · rfl
    · intro fact hfact hlookup
      exact hfound ⟨fact, mem_byKey.mp hfact, hlookup⟩
    · intro other hother hotherLookup
      obtain ⟨source, hsource, rfl⟩ := List.mem_map.mp (mem_byKey.mp hother)
      exact hfound ⟨source, hsource, (rekey_lookup_iff himm hx hsource).mp hotherLookup⟩

/-- A link from a node with another name. -/
structure SameLink (name : Text → Text) (link other : Link) : Prop where
  lookup : other.lookup = link.lookup
  kind : other.kind = link.kind
  near : other.near = name link.near
  outward : other.outward = link.outward
  status : other.epistemicStatus = link.epistemicStatus

theorem resolve_same {name : Text → Text} {index others : Index} {fact : LedgerFact}
    {links more : List Link} (hsame : List.Forall₂ (SameLink name) links more)
    (hget : ∀ link ∈ links, others.get link.lookup = (index.get link.lookup).map name) :
    (resolve others (fact.rekey rename) more).map (AttackSurfaceEdge.between id) =
      (resolve index fact links).map (AttackSurfaceEdge.between name) := by
  unfold resolve
  induction hsame with
  | nil => rfl
  | cons h _ ih =>
    obtain ⟨hlookup, hkind, hnear, houtward, hstatus⟩ := h
    obtain ⟨hget, hrest⟩ := List.forall_mem_cons.mp hget
    rw [List.filterMap_cons, List.filterMap_cons, hlookup, hget]
    cases index.get _ with
    | none => exact ih hrest
    | some found =>
      dsimp only [Option.map_some]
      rw [List.map_cons, List.map_cons, ih hrest]
      congr 1
      unfold AttackSurfaceEdge.between Link.edge
      dsimp only
      rw [hkind, hnear, houtward, hstatus]
      cases Link.outward _ <;> rfl

/-- The links of the second pass. -/
theorem sensors_same {fact : LedgerFact} (hfact : fact ∈ input.facts)
    (hdeclared : fact.factKind = .hostname →
      ∃ host, hostnameFromAttributes fact.attributes = some host) :
    List.Forall₂ (SameLink (input.renamed rename)) (fact.sensors L)
      ((fact.rekey rename).sensors L) := by
  have hinward : ∀ kind middle lookup status, SameLink (input.renamed rename)
      (fact.inward kind middle lookup status)
      ((fact.rekey rename).inward kind middle lookup status) := fun _ _ _ _ =>
    ⟨rfl, rfl, (renamed_fact hfact).symm, rfl, rfl⟩
  have houtward : ∀ kind middle lookup status, SameLink (input.renamed rename)
      (fact.outward kind middle lookup status)
      ((fact.rekey rename).outward kind middle lookup status) := fun _ _ _ _ =>
    ⟨rfl, rfl, (renamed_fact hfact).symm, rfl, rfl⟩
  have hcert : (fact.rekey rename).certHostnames L = fact.certHostnames L := rfl
  have hservice : (fact.rekey rename).serviceHostname L = fact.serviceHostname L := rfl
  have htech : (fact.rekey rename).techOrigins = fact.techOrigins := rfl
  have hpath : (fact.rekey rename).attributedPath = fact.attributedPath := rfl
  have horigin : (fact.rekey rename).normalizedOrigin = fact.normalizedOrigin := rfl
  unfold LedgerFact.sensors LedgerFact.sensorLinks
  rw [show (fact.rekey rename).factKind = fact.factKind from rfl, hcert, hservice, htech, hpath,
    horigin]
  cases hkind : fact.factKind <;> try exact List.Forall₂.nil
  · obtain ⟨host, hhost⟩ := hdeclared hkind
    dsimp only
    rw [rekey_hostname hhost]
    split
    · exact List.Forall₂.nil
    · exact List.Forall₂.cons (houtward _ _ _ _) List.Forall₂.nil
  · dsimp only
    cases fact.certHostnames L with
    | none => exact List.Forall₂.nil
    | some hostnames =>
      exact List.forall₂_map_left_iff.mpr (List.forall₂_map_right_iff.mpr
        (List.forall₂_same.mpr fun _ _ => hinward _ _ _ _))
  · dsimp only
    cases fact.serviceHostname L with
    | none => exact List.Forall₂.nil
    | some host =>
      cases host with
      | none => exact List.Forall₂.nil
      | some host =>
        dsimp only
        split
        · exact List.Forall₂.nil
        · exact List.Forall₂.cons (houtward _ _ _ _) List.Forall₂.nil
  · exact List.forall₂_map_left_iff.mpr (List.forall₂_map_right_iff.mpr
      (List.forall₂_same.mpr fun _ _ => hinward _ _ _ _))
  · dsimp only
    cases fact.attributedPath with
    | none => exact List.Forall₂.nil
    | some path => exact List.Forall₂.cons (hinward _ _ _ _) List.Forall₂.nil
  · dsimp only
    cases fact.attributedPath with
    | none => exact List.Forall₂.nil
    | some path => exact List.Forall₂.cons (hinward _ _ _ _) List.Forall₂.nil

/-- Edges made one item at a time. -/
theorem flatMap_renamed {α : Type} {other : α → α} {items sorted sortedOthers : List α}
    {name : Text → Text} {edges edgesOthers : α → List AttackSurfaceEdge}
    (hsorted : sorted.Perm items) (hothers : sortedOthers.Perm (items.map other))
    (h : ∀ item ∈ items, ((edgesOthers (other item)).map (AttackSurfaceEdge.between id)).Perm
      ((edges item).map (AttackSurfaceEdge.between name))) :
    ((sortedOthers.flatMap edgesOthers).map (AttackSurfaceEdge.between id)).Perm
      ((sorted.flatMap edges).map (AttackSurfaceEdge.between name)) := by
  rw [List.map_flatMap, List.map_flatMap]
  refine (hothers.flatMap_right _).trans (List.Perm.trans ?_ (hsorted.flatMap_right _).symm)
  rw [List.flatMap_map]
  exact List.Perm.flatMap_left items h

theorem observedUnder_rekey (himm : KeysImmaterial L input) {fact : LedgerFact}
    (hfact : fact ∈ input.facts) :
    (fact.rekey rename).observedUnder.between id =
      fact.observedUnder.between (input.renamed rename) := by
  unfold AttackSurfaceEdge.between LedgerFact.observedUnder
  dsimp only
  rw [renamed_fact hfact, renamed_other fun key hkey => (himm.apart key hkey fact hfact).1]
  rfl

/-- The first pass joins nothing. -/
theorem resolve_links_nil {facts : List LedgerFact} (hunjoined : ∀ wire : Wire,
    ∀ parent ∈ facts, ∀ child ∈ facts, wire.Joins parent child → ¬ wire.Ready child)
    {fact : LedgerFact} (hfact : fact ∈ facts) :
    resolve (indexOf (upTo (byKey facts) fact)) fact fact.links = [] := by
  refine resolve_nil fun link hlink => get_eq_none fun parent hparent hlookup => ?_
  obtain ⟨wire, -, hready, -, -, -, hjoin⟩ := wire_of_link hlink
  exact hunjoined wire parent (mem_upTo.mp hparent).1 fact hfact (hjoin parent hlookup) hready

theorem unjoined_rekey (himm : KeysImmaterial L input) : ∀ wire : Wire,
    ∀ parent ∈ (input.rekey rename).facts, ∀ child ∈ (input.rekey rename).facts,
      wire.Joins parent child → ¬ wire.Ready child := by
  intro wire other hother another hanother hjoins hready
  obtain ⟨parent, hparent, rfl⟩ := List.mem_map.mp hother
  obtain ⟨child, hchild, rfl⟩ := List.mem_map.mp hanother
  exact himm.unjoined wire parent hparent child hchild (rekey_joins.mp hjoins) hready

/-- The edges of the second pass. -/
theorem sensorEdges_rekey (himm : KeysImmaterial L input) {fact : LedgerFact}
    (hfact : fact ∈ input.facts) :
    (resolve (indexOf (byKey (input.rekey rename).facts)) (fact.rekey rename)
        ((fact.rekey rename).sensors L)).map (AttackSurfaceEdge.between id) =
      (resolve (indexOf (byKey input.facts)) fact (fact.sensors L)).map
        (AttackSurfaceEdge.between (input.renamed rename)) := by
  by_cases hfallback : fact.factKind = .hostname ∧ hostnameFromAttributes fact.attributes = none
  · -- Its host name is read off its key, so there is no origin for it to lead to.
    obtain ⟨hkind, hnone⟩ := hfallback
    have hno := (himm.hostless fact hfact hkind hnone).1
    have hlinks : ∀ other : LedgerFact, other.factKind = .hostname →
        other.normalizedOrigin = fact.normalizedOrigin → ∀ link ∈ other.sensors L,
          link.lookup = .origin (fact.normalizedOrigin.getD []) := by
      intro other hother horigin link hlink
      unfold LedgerFact.sensors LedgerFact.sensorLinks at hlink
      rw [hother] at hlink
      dsimp only at hlink
      split at hlink
      · cases hlink
      · rw [List.mem_singleton.mp hlink, ← horigin]
        rfl
    rw [resolve_nil, resolve_nil]
    · rfl
    · intro link hlink
      rw [hlinks fact hkind rfl link hlink]
      exact get_eq_none fun origin horigin => hno origin (mem_byKey.mp horigin)
    · intro link hlink
      rw [hlinks (fact.rekey rename) hkind rfl link hlink]
      refine get_eq_none fun origin horigin hlookup => ?_
      obtain ⟨source, hsource, rfl⟩ := List.mem_map.mp (mem_byKey.mp horigin)
      refine hno source hsource ?_
      have hsourceKind : source.factKind = .origin := (LedgerFact.lookup_eq_origin.mp hlookup).1
      rw [← rekey_lookup fun hhostname => ?_]
      · exact hlookup
      · rw [hsourceKind] at hhostname
        cases hhostname
  · refine resolve_same (sensors_same hfact fun hkind => ?_) fun link hlink =>
      get_rekey himm (Or.inl ⟨fact, hfact, link, hlink, rfl⟩)
    cases hhost : hostnameFromAttributes fact.attributes with
    | none => exact absurd ⟨hkind, hhost⟩ hfallback
    | some host => exact ⟨host, rfl⟩

theorem factIdToKey_rekey (factId : Text) :
    factIdToKey (input.rekey rename).facts factId =
      (factIdToKey input.facts factId).map (input.renamed rename) := by
  rw [factIdToKey_eq, factIdToKey_eq]
  show ((input.facts.map (LedgerFact.rekey rename)).filter _).getLast?.map _ = _
  rw [List.filter_map, List.getLast?_map, Option.map_map, Option.map_map]
  show (input.facts.filter fun fact => fact.factId = factId).getLast?.map _ = _
  cases hlast : (input.facts.filter fun fact => fact.factId = factId).getLast? with
  | none => rfl
  | some fact =>
    exact congrArg some
      (renamed_fact (List.mem_filter.mp (List.mem_of_getLast? hlast)).1).symm

/-- The links of the transitions. -/
theorem transitionLinks_same {fact : LedgerFact} :
    List.Forall₂ (SameLink (input.renamed rename)) (fact.transitionLinks (factIdToKey input.facts))
      ((fact.rekey rename).transitionLinks (factIdToKey (input.rekey rename).facts)) := by
  unfold LedgerFact.transitionLinks
  rw [show (fact.rekey rename).factKind = fact.factKind from rfl,
    show (fact.rekey rename).attributes = fact.attributes from rfl]
  split
  · split
    · rw [factIdToKey_rekey]
      cases factIdToKey input.facts _ with
      | none => exact List.Forall₂.nil
      | some preKey => exact List.Forall₂.cons ⟨rfl, rfl, rfl, rfl, rfl⟩ List.Forall₂.nil
    · exact List.Forall₂.nil
  · exact List.Forall₂.nil

/-- The edges of the transitions. -/
theorem transitionEdges_rekey (himm : KeysImmaterial L input) {fact : LedgerFact}
    (hfact : fact ∈ input.facts) :
    (resolve (indexOf (byKey (input.rekey rename).facts)) (fact.rekey rename)
        ((fact.rekey rename).transitionLinks (factIdToKey (input.rekey rename).facts))).map
        (AttackSurfaceEdge.between id) =
      (resolve (indexOf (byKey input.facts)) fact
        (fact.transitionLinks (factIdToKey input.facts))).map
        (AttackSurfaceEdge.between (input.renamed rename)) :=
  resolve_same transitionLinks_same fun link hlink =>
    get_rekey himm (Or.inr (Or.inl ⟨fact, hfact, link, hlink, rfl⟩))

theorem nodup_indexOf (facts : List LedgerFact) : ((indexOf facts).map Prod.fst).Nodup := by
  unfold indexOf
  induction facts using List.reverseRecOn with
  | nil => exact List.nodup_nil
  | append_singleton facts fact ih =>
    rw [List.foldl_append, List.foldl_cons, List.foldl_nil]
    unfold Index.add
    split
    · exact KeyedList.nodup_upsert (fun _ _ h => h.symm) _ ih
    · exact ih

theorem mem_indexOf {facts : List LedgerFact} {x : Lookup} {found : Text} :
    (x, found) ∈ indexOf facts ↔ (indexOf facts).get x = some found := by
  unfold Index.get
  constructor
  · intro h
    rw [show x = ((x, found) : Lookup × Text).1 from rfl, KeyedList.get_of_mem (nodup_indexOf facts) h]
    rfl
  · intro h
    obtain ⟨entry, hentry, rfl⟩ := Option.map_eq_some_iff.mp h
    obtain ⟨hmem, rfl⟩ := KeyedList.get_eq_some hentry
    exact hmem

open LedgerInference (isFor)

theorem isFor_eq (path : Text) (x : Lookup) (a b : Text) : isFor path (x, a) = isFor path (x, b) := by
  cases x <;> rfl

/-- The paths of a template, as entries of the dictionary. -/
theorem entries_rekey (himm : KeysImmaterial L input) {inference : LedgerInference}
    (hinference : inference ∈ input.inferences)
    (hkind : inference.inferenceKind = .routeTemplate) {path : Text}
    (hpath : path ∈ inference.exactPaths) :
    ((indexOf (byKey (input.rekey rename).facts)).filter (isFor path)).Perm
      (((indexOf (byKey input.facts)).filter (isFor path)).map fun entry =>
        (entry.1, input.renamed rename entry.2)) := by
  have hnodup : ∀ facts : List LedgerFact,
      (((indexOf facts).filter (isFor path)).map Prod.fst).Nodup := fun facts =>
    (List.filter_sublist.map Prod.fst).nodup (nodup_indexOf facts)
  have hlooked : ∀ entry : Lookup × Text, isFor path entry = true → LookedUp L input entry.1 := by
    rintro ⟨x, found⟩ h
    cases x with
    | path origin other =>
      refine Or.inr (Or.inr ⟨inference, hinference, hkind, path, hpath, origin, ?_⟩)
      rw [show other = path by simpa [isFor] using h]
    | origin origin => cases h
    | hostname host => cases h
  refine (List.perm_ext_iff_of_nodup (hnodup _).of_map ?_).mpr ?_
  · refine List.Nodup.of_map Prod.fst ?_
    rw [List.map_map]
    exact hnodup _
  · rintro ⟨x, found⟩
    rw [List.mem_filter, List.mem_map, mem_indexOf]
    constructor
    · rintro ⟨hget, hfor⟩
      rw [get_rekey himm (hlooked (x, found) hfor)] at hget
      obtain ⟨source, hsource, rfl⟩ := Option.map_eq_some_iff.mp hget
      exact ⟨(x, source), List.mem_filter.mpr ⟨mem_indexOf.mpr hsource,
        (isFor_eq path x _ _).trans hfor⟩, rfl⟩
    · rintro ⟨entry, hentry, heq⟩
      obtain ⟨hmem, hfor⟩ := List.mem_filter.mp hentry
      obtain ⟨rfl, rfl⟩ := Prod.mk.inj heq
      refine ⟨?_, (isFor_eq path entry.1 _ _).trans hfor⟩
      rw [get_rekey himm (hlooked entry hfor), mem_indexOf.mp hmem]
      rfl

/-- The edges of an inference. -/
theorem inferenceEdges_rekey (himm : KeysImmaterial L input) {inference : LedgerInference}
    (hinference : inference ∈ input.inferences) :
    (((inference.rekey rename).edges (indexOf (byKey (input.rekey rename).facts))).map
        (AttackSurfaceEdge.between id)).Perm
      ((inference.edges (indexOf (byKey input.facts))).map
        (AttackSurfaceEdge.between (input.renamed rename))) := by
  have hkey : input.renamed rename inference.key = (inference.rekey rename).key :=
    renamed_inference hinference
  unfold LedgerInference.edges
  rw [show (inference.rekey rename).inferenceKind = inference.inferenceKind from rfl,
    show (inference.rekey rename).exactPaths = inference.exactPaths from rfl]
  split
  next hkind =>
    rw [List.map_flatMap, List.map_flatMap]
    refine List.Perm.flatMap_left _ fun path hpath => ?_
    rw [List.map_map, List.map_map]
    refine ((entries_rekey himm hinference hkind hpath).map _).trans (List.Perm.of_eq ?_)
    rw [List.map_map]
    refine List.map_congr_left fun entry _ => ?_
    show AttackSurfaceEdge.mk [] _ _ (id (inference.rekey rename).key) _ _ _ = _
    rw [show id (inference.rekey rename).key = _ from hkey.symm]
    rfl
  · refine List.Perm.of_eq (congrArg (fun edge => [edge]) ?_)
    show AttackSurfaceEdge.mk [] _ (id (inference.rekey rename).key)
      (id (inference.rekey rename).key) _ _ _ = _
    rw [show id (inference.rekey rename).key = _ from hkey.symm]
    rfl
  · exact List.Perm.refl _

/-- **The edges** are the same under other keys. -/
theorem madeEdges_rekey (himm : KeysImmaterial L input) :
    ((madeEdges L (input.rekey rename)).map (AttackSurfaceEdge.between id)).Perm
      ((madeEdges L input).map (AttackSurfaceEdge.between (input.renamed rename))) := by
  have hfacts := byKey_perm input.facts
  have hothers := byKey_perm (input.rekey rename).facts
  unfold madeEdges factEdges transitionEdges transitionPass inferenceEdges
  simp only [List.map_append]
  refine (((flatMap_renamed hfacts hothers fun fact hfact => ?_).append
    (flatMap_renamed hfacts hothers fun fact hfact => ?_)).append
    (flatMap_renamed hfacts hothers fun fact hfact => ?_)).append
    (flatMap_renamed (List.perm_insertionSort _ _) (List.perm_insertionSort _ _)
      fun inference hinference => ?_)
  · rw [resolve_links_nil himm.unjoined hfact,
      resolve_links_nil (unjoined_rekey himm) (List.mem_map_of_mem hfact)]
    exact List.Perm.of_eq (congrArg (fun edge => [edge]) (observedUnder_rekey himm hfact))
  · exact List.Perm.of_eq (sensorEdges_rekey himm hfact)
  · exact List.Perm.of_eq (transitionEdges_rekey himm hfact)
  · exact inferenceEdges_rekey himm hinference

/-! ### Nodes -/

/-- A node of the rebuild with another name. -/
def SurfaceNode.named (name : Text → Text) (node : SurfaceNode) : SurfaceNode where
  toAttackSurfaceNode := node.toAttackSurfaceNode.named name
  idIsKey := congrArg name node.idIsKey

theorem SurfaceNode.eq_of_node {a b : SurfaceNode}
    (h : a.toAttackSurfaceNode = b.toAttackSurfaceNode) : a = b := by
  cases a
  cases b
  cases h
  rfl

theorem sortedSet_congr {a b : List Text} (h : ∀ text, text ∈ a ↔ text ∈ b) :
    sortedSet a = sortedSet b := by
  have hsorted : ∀ texts : List Text, (sortedSet texts).Pairwise (· ≤ ·) := fun texts =>
    letI : Std.Total fun a b : Text => a ≤ b := ⟨le_total⟩
    letI : IsTrans Text fun a b => a ≤ b := ⟨fun _ _ _ => le_trans⟩
    List.pairwise_insertionSort _ _
  refine List.Perm.eq_of_pairwise (fun _ _ _ _ => le_antisymm) (hsorted a) (hsorted b) ?_
  refine (List.perm_insertionSort _ _).trans (List.Perm.trans ?_ (List.perm_insertionSort _ _).symm)
  refine (List.perm_ext_iff_of_nodup (List.nodup_dedup a) (List.nodup_dedup b)).mpr fun text => ?_
  rw [List.mem_dedup, List.mem_dedup, h]

theorem mem_sortedSet {texts : List Text} {text : Text} : text ∈ sortedSet texts ↔ text ∈ texts := by
  unfold sortedSet sortedTexts
  rw [List.mem_insertionSort, List.mem_dedup]

theorem mergedScope_right_comm (a b c : ScopeClassification) :
    SurfaceNode.mergedScope (SurfaceNode.mergedScope a b) c =
      SurfaceNode.mergedScope (SurfaceNode.mergedScope a c) b := by
  cases a <;> cases b <;> cases c <;> rfl

/-- It does not matter in which order two nodes are added to one. -/
theorem merge_right_comm (a b c : SurfaceNode) :
    (a.merge b).merge c = (a.merge c).merge b := by
  unfold SurfaceNode.merge
  dsimp only
  congr 2
  · refine sortedSet_congr fun text => ?_
    simp only [List.mem_append, mem_sortedSet]
    exact or_right_comm
  · refine sortedSet_congr fun text => ?_
    simp only [List.mem_append, mem_sortedSet]
    exact or_right_comm
  · exact mergedScope_right_comm _ _ _

/-- A node of an identity or a session. -/
structure IsReference (name : Text) (node : SurfaceNode) : Prop where
  nodeId : node.nodeId = name
  kind : node.kind = if name.head? = some 'i' then .identityRef else .sessionRef
  epistemicStatus : node.epistemicStatus = .observed
  scopeClassification : node.scopeClassification = .inScope
  attributes : node.attributes = []

theorem merge_comm {name : Text} {a b : SurfaceNode} (ha : IsReference name a)
    (hb : IsReference name b) : a.merge b = b.merge a := by
  have hids : sortedSet (a.identityIds ++ b.identityIds) =
      sortedSet (b.identityIds ++ a.identityIds) :=
    sortedSet_congr fun text => by rw [List.mem_append, List.mem_append, or_comm]
  have hrefs : sortedSet (a.provenanceRefs ++ b.provenanceRefs) =
      sortedSet (b.provenanceRefs ++ a.provenanceRefs) :=
    sortedSet_congr fun text => by rw [List.mem_append, List.mem_append, or_comm]
  have hkey : a.canonicalKey = b.canonicalKey := by
    rw [← a.idIsKey, ← b.idIsKey, ha.nodeId, hb.nodeId]
  unfold SurfaceNode.merge
  simp only [ha.nodeId, hb.nodeId, ha.kind, hb.kind, ha.epistemicStatus, hb.epistemicStatus,
    ha.scopeClassification, hb.scopeClassification, ha.attributes, hb.attributes, hids, hrefs, hkey]

theorem isReference_of_mem_tail {fact : LedgerFact} {scope : ScopeClassification}
    {node : SurfaceNode} (h : node ∈ (fact.nodes scope).tail) :
    IsReference node.key node ∧ (node.key = identityKey fact.identityId ∨
      ∃ id, fact.sessionContextId = some id ∧ node.key = sessionKey id) := by
  rcases List.mem_cons.mp (show node ∈ _ :: _ from h) with rfl | h
  · exact ⟨⟨rfl, rfl, rfl, rfl, rfl⟩, Or.inl rfl⟩
  · obtain ⟨id, hid, rfl⟩ := Option.map_eq_some_iff.mp (Option.mem_toList.mp h)
    exact ⟨⟨rfl, rfl, rfl, rfl, rfl⟩, Or.inr ⟨id, hid, rfl⟩⟩

/-- The nodes of a fact under another key are its nodes with other names. -/
theorem nodes_rekey (himm : KeysImmaterial L input) {fact : LedgerFact}
    (hfact : fact ∈ input.facts) (scope : ScopeClassification) :
    (fact.rekey rename).nodes scope =
      (fact.nodes scope).map (SurfaceNode.named (input.renamed rename)) := by
  have hsame : ∀ node ∈ (fact.nodes scope).tail,
      node.named (input.renamed rename) = node := by
    intro node hnode
    obtain ⟨hreference, hname⟩ := isReference_of_mem_tail hnode
    have hkeep : input.renamed rename node.key = node.key := by
      refine renamed_other fun key hkey heq => ?_
      obtain ⟨hidentity, hsession⟩ := himm.apart key hkey fact hfact
      rcases hname with hname | ⟨id, hid, hname⟩
      · exact hidentity (heq.trans hname)
      · exact hsession id hid (heq.trans hname)
    have hid : input.renamed rename node.nodeId = node.nodeId := by
      rw [node.idIsKey]
      exact hkeep
    exact SurfaceNode.eq_of_node (AttackSurfaceNode.named_eq_self hid hkeep)
  have hhead : (fact.rekey rename).node scope = (fact.node scope).named (input.renamed rename) := by
    unfold LedgerFact.node SurfaceNode.named AttackSurfaceNode.named
    dsimp only
    congr 2
    · exact (renamed_fact hfact).symm
    · exact (renamed_fact hfact).symm
  calc (fact.rekey rename).nodes scope
      = (fact.rekey rename).node scope :: (fact.nodes scope).tail := rfl
    _ = (fact.node scope).named (input.renamed rename) ::
        (fact.nodes scope).tail.map (SurfaceNode.named (input.renamed rename)) := by
      rw [hhead, List.map_congr_left hsame, List.map_id']
    _ = _ := rfl

theorem inference_node_rekey {inference : LedgerInference} (h : inference ∈ input.inferences) :
    (inference.rekey rename).node = inference.node.named (input.renamed rename) := by
  unfold LedgerInference.node SurfaceNode.named AttackSurfaceNode.named
  dsimp only
  congr 2
  · exact (renamed_inference h).symm
  · exact (renamed_inference h).symm

/-- Facts of one key are the same in whatever order they come. -/
theorem filter_eq_of_perm {α : Type} [DecidableEq α] {key : LedgerFact → α}
    {facts others : List LedgerFact} (hkeys : (facts.map key).Nodup) (h : facts.Perm others)
    (k : α) : (facts.filter fun fact => key fact = k) = others.filter fun fact => key fact = k := by
  have hne : ∀ {list : List LedgerFact}, (list.map key).Nodup →
      (list.filter fun fact => key fact = k).Pairwise fun a b => key a ≠ key b := fun hlist =>
    (List.pairwise_map.mp hlist).filter _
  refine List.Perm.eq_of_pairwise (fun a b ha hb hab _ => absurd ?_ hab) (hne hkeys)
    (hne ((h.map key).nodup_iff.mp hkeys)) (h.filter _)
  have ha := (List.mem_filter.mp ha).2
  have hb := (List.mem_filter.mp hb).2
  rw [show key a = k by simpa using ha, show key b = k by simpa using hb]

/-- A stable sort leaves items that are equal in order as they were. -/
theorem filter_insertionSort {α : Type} {r : α → α → Prop} [DecidableRel r] {p : α → Bool}
    (h : ∀ a b, p a = true → p b = true → r a b) (items : List α) :
    (items.insertionSort r).filter p = items.filter p := by
  have hordered : ∀ (a : α) (sorted : List α),
      (sorted.orderedInsert r a).filter p = (a :: sorted).filter p := by
    intro a sorted
    induction sorted with
    | nil => rfl
    | cons b sorted ih =>
      rw [List.orderedInsert]
      split
      · rfl
      next hnot =>
        rw [List.filter_cons, ih]
        cases hb : p b
        · simp [List.filter_cons, hb]
        · cases ha : p a
          · simp [ha, hb]
          · exact absurd (h a b ha hb) hnot
  induction items with
  | nil => rfl
  | cons a items ih =>
    rw [List.insertionSort_cons, hordered, List.filter_cons, List.filter_cons, ih]

/-- Nodes under a key that no identity or session goes by are those of facts. -/
theorem filter_fact_nodes {facts : List LedgerFact} {k : Text}
    (hfree : ∀ fact ∈ facts, k ≠ identityKey fact.identityId ∧
      ∀ id, fact.sessionContextId = some id → k ≠ sessionKey id) :
    ((facts.flatMap fun fact => fact.nodes fact.scope).filter fun node => node.key = k) =
      (facts.filter fun fact => fact.key = k).map fun fact => fact.node fact.scope := by
  induction facts with
  | nil => rfl
  | cons fact rest ih =>
    obtain ⟨⟨hidentity, hsession⟩, hrest⟩ := List.forall_mem_cons.mp hfree
    have htail : ((fact.nodes fact.scope).tail.filter fun node => node.key = k) = [] := by
      rw [List.filter_eq_nil_iff]
      intro node hnode
      obtain ⟨-, hname⟩ := isReference_of_mem_tail hnode
      rw [decide_eq_true_eq]
      rintro rfl
      rcases hname with hname | ⟨id, hid, hname⟩
      · exact hidentity hname
      · exact hsession id hid hname
    rw [List.flatMap_cons, List.filter_append, ih hrest, List.filter_cons]
    show ((fact.node fact.scope :: (fact.nodes fact.scope).tail).filter _) ++ _ = _
    rw [List.filter_cons, htail, show (fact.node fact.scope).key = fact.key from rfl]
    split <;> rfl

theorem addedNodes_rekey_perm (himm : KeysImmaterial L input) :
    (addedNodes (input.rekey rename)).Perm
      ((addedNodes input).map (SurfaceNode.named (input.renamed rename))) := by
  unfold addedNodes
  rw [List.map_append, List.map_flatMap]
  refine List.Perm.append ?_ ?_
  · refine ((byKey_perm _).flatMap_right _).trans
      (List.Perm.trans ?_ ((byKey_perm input.facts).flatMap_right _).symm)
    show ((input.facts.map (LedgerFact.rekey rename)).flatMap _).Perm _
    rw [List.flatMap_map]
    exact List.Perm.of_eq (List.flatMap_congr fun fact hfact => nodes_rekey himm hfact fact.scope)
  · refine ((List.perm_insertionSort _ _).map _).trans
      (List.Perm.trans ?_ (((List.perm_insertionSort _ _).map _).map _).symm)
    show ((input.inferences.map (LedgerInference.rekey rename)).map _).Perm _
    rw [List.map_map, List.map_map]
    exact List.Perm.of_eq (List.map_congr_left fun inference h => inference_node_rekey h)

/-- A node under the name of an identity or a session is one of its nodes. -/
theorem isReference_of_madeUp {node : SurfaceNode} (h : node ∈ addedNodes (input.rekey rename))
    (hmade : MadeUp node.key) : IsReference node.key node := by
  rcases List.mem_append.mp h with h | h
  · obtain ⟨other, hother, hnode⟩ := List.mem_flatMap.mp h
    obtain ⟨fact, -, rfl⟩ := List.mem_map.mp (mem_byKey.mp hother)
    rcases List.mem_cons.mp (show node ∈ _ :: (fact.nodes fact.scope).tail from hnode) with rfl | htail
    · exact absurd hmade (rename.proper fact.canonicalKey)
    · exact (isReference_of_mem_tail htail).1
  · obtain ⟨other, hother, rfl⟩ := List.mem_map.mp h
    obtain ⟨inference, -, rfl⟩ := List.mem_map.mp ((List.mem_insertionSort _).mp hother)
    exact absurd hmade (rename.proper inference.canonicalKey)

/-- What is under a name is the same, whichever order the nodes are added in. -/
theorem mergeAll_rekey (hkeys : DistinctKeys input.facts) (himm : KeysImmaterial L input) (k : Text) :
    KeyedList.mergeAll SurfaceNode.merge
        ((addedNodes (input.rekey rename)).filter fun node => node.key = k) =
      KeyedList.mergeAll SurfaceNode.merge
        (((addedNodes input).map (SurfaceNode.named (input.renamed rename))).filter
          fun node => node.key = k) := by
  by_cases hused : ∃ fact ∈ input.facts, k = identityKey fact.identityId ∨
      ∃ id, fact.sessionContextId = some id ∧ k = sessionKey id
  · -- All nodes under this name are alike.
    obtain ⟨fact, -, hname⟩ := hused
    have hmade : MadeUp k := by
      rcases hname with rfl | ⟨id, -, rfl⟩
      · exact ⟨_, Or.inl rfl⟩
      · exact ⟨id, Or.inr rfl⟩
    refine KeyedList.mergeAll_perm (fun b _ c _ a => merge_right_comm a b c)
      ((addedNodes_rekey_perm himm).filter _) fun a ha b hb => ?_
    obtain ⟨ha, hak⟩ := List.mem_filter.mp ha
    obtain ⟨hb, hbk⟩ := List.mem_filter.mp hb
    have hak : a.key = k := by simpa using hak
    have hbk : b.key = k := by simpa using hbk
    exact merge_comm (hak ▸ isReference_of_madeUp ha (hak ▸ hmade))
      (hbk ▸ isReference_of_madeUp hb (hbk ▸ hmade))
  · -- One fact at most is under this name, and after it the inferences in their order.
    have hfree : ∀ fact ∈ input.facts, k ≠ identityKey fact.identityId ∧
        ∀ id, fact.sessionContextId = some id → k ≠ sessionKey id := by
      intro fact hfact
      exact ⟨fun h => hused ⟨fact, hfact, Or.inl h⟩,
        fun id hid h => hused ⟨fact, hfact, Or.inr ⟨id, hid, h⟩⟩⟩
    congr 1
    unfold addedNodes
    rw [List.map_append, List.filter_append, List.filter_append]
    congr 1
    · have hnamed : ((byKey input.facts).flatMap fun fact => fact.nodes fact.scope).map
          (SurfaceNode.named (input.renamed rename)) =
          ((byKey input.facts).map (LedgerFact.rekey rename)).flatMap
            fun fact => fact.nodes fact.scope := by
        rw [List.map_flatMap, List.flatMap_map]
        exact List.flatMap_congr fun fact hfact =>
          (nodes_rekey himm (mem_byKey.mp hfact) fact.scope).symm
      have hfreeRekeyed : ∀ fact ∈ (input.rekey rename).facts, k ≠ identityKey fact.identityId ∧
          ∀ id, fact.sessionContextId = some id → k ≠ sessionKey id := by
        intro other hother
        obtain ⟨fact, hfact, rfl⟩ := List.mem_map.mp hother
        exact hfree fact hfact
      have hperm : (byKey (input.rekey rename).facts).Perm
          ((byKey input.facts).map (LedgerFact.rekey rename)) :=
        (byKey_perm _).trans ((byKey_perm input.facts).map _).symm
      rw [hnamed, filter_fact_nodes fun fact hfact => hfreeRekeyed fact (mem_byKey.mp hfact),
        filter_fact_nodes fun fact hfact =>
          hfreeRekeyed fact (mem_byKey.mp (hperm.mem_iff.mpr hfact)),
        filter_eq_of_perm ((distinct_rekey hkeys).perm (byKey_perm _).symm) hperm]
    · have hnamed : ((inferencesByKey input.inferences).map LedgerInference.node).map
          (SurfaceNode.named (input.renamed rename)) =
          ((inferencesByKey input.inferences).map (LedgerInference.rekey rename)).map
            LedgerInference.node := by
        rw [List.map_map, List.map_map]
        exact List.map_congr_left fun inference h =>
          (inference_node_rekey ((List.mem_insertionSort _).mp h)).symm
      rw [hnamed, List.filter_map, List.filter_map, List.filter_map]
      congr 1
      unfold inferencesByKey
      rw [filter_insertionSort, filter_insertionSort]
      · exact List.filter_map
      · intro a b ha hb
        have hakey : (a.rekey rename).key = k := of_decide_eq_true ha
        have hbkey : (b.rekey rename).key = k := of_decide_eq_true hb
        have hsame : a.canonicalKey = b.canonicalKey :=
          rename.injective (KeyText.eq_of_text (hakey.trans hbkey.symm))
        exact le_of_eq (congrArg KeyText.text hsame)
      · intro a b ha hb
        have hakey : a.key = k := of_decide_eq_true ha
        have hbkey : b.key = k := of_decide_eq_true hb
        exact le_of_eq (hakey.trans hbkey.symm)

theorem nodeTable_nodes (input : SurfaceInput) :
    (nodeTable input).nodes = KeyedList.collect SurfaceNode.key SurfaceNode.merge (addedNodes input) :=
  rfl

/-- **The nodes** are the same under other keys. -/
theorem nodeTable_rekey (hkeys : DistinctKeys input.facts) (himm : KeysImmaterial L input) :
    (nodeTable (input.rekey rename)).nodes.Perm
      ((nodeTable input).nodes.map (SurfaceNode.named (input.renamed rename))) := by
  have hkey : ∀ node : SurfaceNode,
      (node.named (input.renamed rename)).key = input.renamed rename node.key := fun _ => rfl
  rw [nodeTable_nodes, nodeTable_nodes,
    KeyedList.collect_map SurfaceNode.keepsKey hkey ?_ fun _ _ => rfl]
  · refine KeyedList.perm_of_get (KeyedList.nodup_collect SurfaceNode.keepsKey _)
      (KeyedList.nodup_collect SurfaceNode.keepsKey _) fun k => ?_
    rw [KeyedList.get_collect SurfaceNode.keepsKey, KeyedList.get_collect SurfaceNode.keepsKey]
    exact mergeAll_rekey hkeys himm k
  · intro a ha b hb h
    exact renamed_injective (mem_keys_addedNodes.mp (List.mem_map_of_mem ha))
      (mem_keys_addedNodes.mp (List.mem_map_of_mem hb)) h

end Immaterial

section Rebuilt

variable {L : UrlCodecs} {input : SurfaceInput} {rename : Renaming}

theorem accepted_rekey (haccepted : Accepted L input) : Accepted L (input.rekey rename) where
  scopes := by
    intro other hother
    obtain ⟨fact, hfact, rfl⟩ := List.mem_map.mp hother
    exact haccepted.scopes fact hfact
  hosts := by
    intro other hother
    obtain ⟨fact, hfact, rfl⟩ := List.mem_map.mp hother
    obtain ⟨links, hlinks⟩ := haccepted.hosts fact hfact
    unfold LedgerFact.sensorLinks at hlinks ⊢
    rw [show (fact.rekey rename).factKind = fact.factKind from rfl,
      show (fact.rekey rename).certHostnames L = fact.certHostnames L from rfl,
      show (fact.rekey rename).serviceHostname L = fact.serviceHostname L from rfl]
    split at hlinks
    · exact ⟨_, rfl⟩
    · split at hlinks
      · cases hlinks
      · exact ⟨_, rfl⟩
    · exact ⟨_, rfl⟩
    · exact ⟨_, rfl⟩
    · exact ⟨_, rfl⟩
    · split at hlinks
      · cases hlinks
      · exact ⟨_, rfl⟩
      · exact ⟨_, rfl⟩
    · exact ⟨_, rfl⟩
  workflow := by
    intro other hother
    obtain ⟨edge, hedge, rfl⟩ := List.mem_map.mp hother
    exact haccepted.workflow edge hedge

/-- The edges that are handed in get other names and nothing else. -/
theorem workflow_rekey : (input.rekey rename).workflowEdges.map (AttackSurfaceEdge.between id) =
    input.workflowEdges.map (AttackSurfaceEdge.between (input.renamed rename)) := by
  show (input.workflowEdges.map _).map _ = _
  rw [List.map_map]
  rfl

/-- **Where the keys decide nothing** the graph is the same but for the names. -/
theorem renamingInvariant_of_immaterial (hkeys : DistinctKeys input.facts)
    (haccepted : Accepted L input) (himm : KeysImmaterial L input) :
    RenamingInvariant L input (graphOf (nodeTable input) (allEdges L input)) := by
  intro rename
  refine ⟨_, (rebuild_eq_ok (distinct_rekey hkeys)).mpr ⟨accepted_rekey haccepted, rfl⟩, ?_, ?_⟩
  · refine (List.perm_insertionSort _ _).trans
      (List.Perm.trans ?_ ((List.perm_insertionSort _ _).map _).symm)
    refine ((nodeTable_rekey hkeys himm).map _).trans (List.Perm.of_eq ?_)
    rw [List.map_map, List.map_map]
    rfl
  · refine ((List.perm_insertionSort _ _).map _).trans
      (List.Perm.trans ?_ ((List.perm_insertionSort _ _).map _).symm)
    unfold allEdges
    rw [List.map_append, List.map_append, workflow_rekey]
    exact (madeEdges_rekey himm).append_right _

end Rebuilt

end Zest.Discovery
